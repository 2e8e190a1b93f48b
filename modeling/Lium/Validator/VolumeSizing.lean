import Lium.Foundation.Text
import Mathlib.Algebra.BigOperators.Ring.Finset
import Mathlib.Data.Rat.Floor
import Mathlib.Tactic.Positivity

/-! # The size of a pod's volume

`DockerService.resolve_volume_sizing` measures the pool that all pods share and grants a pod its
share: two thirds as a preallocated volume, one third as the limit of the container's own layer.
Sizes are exact rationals.
-/

namespace Lium.VolumeSizing

def overheadGb : ℤ := 20
def headroomGb : ℤ := 10
def gbBytes : ℤ := 1024 ^ 3
def maxVolumeGb : ℤ := 16 * 1024 - 1
def flattenSlackBytes : ℤ := 10 * 1024 ^ 3

/-! ## Measuring the host -/

/-- The bytes that a suffix of a size stands for. -/
def suffixMultiplier : List Char → Option ℤ
  | [] => some 1
  | ['b'] => some 1
  | ['k'] | ['k', 'b'] => some 1024
  | ['m'] | ['m', 'b'] => some (1024 ^ 2)
  | ['g'] | ['g', 'b'] => some (1024 ^ 3)
  | ['t'] | ['t', 'b'] => some (1024 ^ 4)
  | _ => none

/-- A byte count, or a size such as `19g`. -/
def parseVolumeSizeToBytes (value : String) : Option ℤ :=
  let text := (Text.strip value).toList
  let whole := text.takeWhile Char.isDigit
  let rest := text.dropWhile Char.isDigit
  let decimals := (rest.drop 1).takeWhile Char.isDigit
  let fractional := rest.head? = some '.' ∧ decimals ≠ []
  let fraction : ℚ :=
    if fractional then (Nat.ofDigitChars 10 decimals 0 : ℚ) / 10 ^ decimals.length else 0
  let unit := if fractional then (rest.drop 1).dropWhile Char.isDigit else rest
  if whole = [] then none
  else (suffixMultiplier ((unit.dropWhile Text.isSpace).map Char.toLower)).map fun multiplier =>
    ⌊((Nat.ofDigitChars 10 whole 0 : ℚ) + fraction) * multiplier⌋

example : parseVolumeSizeToBytes "19g" = some (19 * gbBytes) := by decide +kernel

/-- What an inspected volume declares: its status, else its option. -/
def declaredBytes (line : String) : Option ℤ :=
  (parseVolumeSizeToBytes (String.ofList (line.toList.takeWhile (· ≠ '|')))).or
    (parseVolumeSizeToBytes (Text.afterFirst '|' line))

/-- The lines of the inspect answer, one for each name; a blank or an unreadable one counts
nothing. -/
def inspectVloopbackVolumesBytes (volumeInspect : List String → Option (List String))
    (names : List String) : Option ℤ :=
  if names.isEmpty then some 0
  else (volumeInspect names).map fun lines =>
    ((names.zip lines).map fun entry => (declaredBytes (Text.strip entry.2)).getD 0).sum

structure VolumeHostProbe where
  dfAvailBytes : Option ℤ
  vloopbackVolumeNames : List String

/-- What the host's commands answer; `none` is a command that failed. -/
structure HostReads where
  lockedDfAvailBytes : Option ℤ
  lockedDfError : Bool
  probe : Option VolumeHostProbe
  dockerRootDir : Option String
  fsAvailableBytes : String → Option ℤ
  /-- the reserved vloopback volumes of `docker volume ls` -/
  vloopbackVolumeNames : Option (List String)
  volumeInspect : List String → Option (List String)

structure Measured where
  dfAvailBytes : ℤ
  existingVolumesBytes : ℤ
  deriving DecidableEq

def HostReads.measure (reads : HostReads) : Option Measured :=
  if reads.lockedDfError then none
  else
    match reads.probe.bind fun probe => probe.dfAvailBytes.map fun bytes => (probe, bytes) with
    | some (probe, bytes) => do
        let existing ←
          inspectVloopbackVolumesBytes reads.volumeInspect probe.vloopbackVolumeNames
        return ⟨reads.lockedDfAvailBytes.getD bytes, existing⟩
    | none => do
        let dockerRootDir ← reads.dockerRootDir
        let bytes ← reads.lockedDfAvailBytes.or (reads.fsAvailableBytes dockerRootDir)
        let names ← reads.vloopbackVolumeNames
        let existing ← inspectVloopbackVolumesBytes reads.volumeInspect names
        return ⟨bytes, existing⟩

/-! ## The grant -/

structure CreateRequest where
  volumeLimitGb : Option ℤ
  storageLimitGb : Option ℤ
  diskShare : Option ℚ
  minVolumeGb : Option ℤ

inductive SizingPath
  | fresh
  | legacy
  | freshFallback
  | storageOptUnsupported
  deriving DecidableEq

inductive CappedBy
  | pool
  | requestCap
  | dfGuard
  | flattenCopy
  | maxFileSize
  deriving DecidableEq

structure VolumeSizingResult where
  volumeLimitGb : Option ℤ
  storageLimitGb : Option ℤ
  path : SizingPath
  cappedBy : Option CappedBy := none
  measured : Option Measured := none
  deriving DecidableEq

structure VolumeMinSizeError where
  volumeLimitGb : ℤ
  minVolumeGb : ℤ
  deriving DecidableEq

def VolumeMinSizeError.message (error : VolumeMinSizeError) : String :=
  "Fresh vloopback sizing produced " ++ toString error.volumeLimitGb ++
    "GB volume, below required minimum " ++ toString error.minVolumeGb ++ "GB"

def measuresHostForVolumeSizing (request : CreateRequest) : Bool :=
  request.storageLimitGb.isSome && request.diskShare.isSome

def Measured.poolBytes (measured : Measured) : ℤ :=
  max (measured.dfAvailBytes + measured.existingVolumesBytes - overheadGb * gbBytes) 0

def sliceCandidates (request : CreateRequest) (share : ℚ) (measured : Measured)
    (flattenCopyBytes : Option ℤ) : List (CappedBy × ℚ) :=
  let ordered (limitGb : ℤ) : ℚ := (limitGb * gbBytes : ℤ) * (3 / 2)
  let guarded : ℚ := (measured.dfAvailBytes - headroomGb * gbBytes : ℤ) * (3 / 2)
  let floorGb := max (request.minVolumeGb.getD 0) (request.volumeLimitGb.getD 0)
  [(CappedBy.pool, share * measured.poolBytes)] ++
    (request.volumeLimitGb.toList.map fun limit => (CappedBy.requestCap, ordered limit)) ++
    [(CappedBy.dfGuard, max guarded 0)] ++
    (flattenCopyBytes.toList.map fun copy =>
      (CappedBy.flattenCopy,
        max (max ((measured.dfAvailBytes - copy - flattenSlackBytes : ℤ) : ℚ) (ordered floorGb)) 0))

def capSlice (request : CreateRequest) (share : ℚ) (measured : Measured)
    (flattenCopyBytes : Option ℤ) : CappedBy × ℚ :=
  ((sliceCandidates request share measured flattenCopyBytes).argmin Prod.snd).getD (.pool, 0)

/-- Two thirds of a slice, in whole gigabytes and at least one. -/
def sliceVolumeGb (slice : ℚ) : ℤ := max ⌊slice * 2 / 3 / gbBytes⌋ 1

def sliceStorageGb (slice : ℚ) : ℤ := max ⌊slice / 3 / gbBytes⌋ 1

def freshSizing (request : CreateRequest) (share : ℚ) (measured : Measured)
    (flattenCopyBytes : Option ℤ) : Except VolumeMinSizeError VolumeSizingResult :=
  let capped := capSlice request share measured flattenCopyBytes
  let volumeLimitGb := min (sliceVolumeGb capped.2) maxVolumeGb
  let cappedBy := if maxVolumeGb < sliceVolumeGb capped.2 then .maxFileSize else capped.1
  let result : VolumeSizingResult :=
    { volumeLimitGb := some volumeLimitGb
      storageLimitGb := some (sliceStorageGb capped.2)
      path := .fresh
      cappedBy := some cappedBy
      measured := some measured }
  match request.minVolumeGb with
  | some minVolumeGb =>
    if volumeLimitGb < minVolumeGb then .error ⟨volumeLimitGb, minVolumeGb⟩ else .ok result
  | none => .ok result

def resolveVolumeSizing (request : CreateRequest) (reads : HostReads)
    (flattenCopyBytes : Option ℤ) : Except VolumeMinSizeError VolumeSizingResult :=
  match request.storageLimitGb, request.diskShare with
  | some _, some share =>
    match reads.measure with
    | some measured => freshSizing request share measured flattenCopyBytes
    | none => .ok ⟨request.volumeLimitGb, request.storageLimitGb, .freshFallback, none, none⟩
  | none, _ =>
    .ok ⟨request.volumeLimitGb, request.storageLimitGb, .storageOptUnsupported, none, none⟩
  | some _, none => .ok ⟨request.volumeLimitGb, request.storageLimitGb, .legacy, none, none⟩

/-! ## One grant -/

section Grant

variable {request : CreateRequest} {share : ℚ} {measured : Measured}
  {flattenCopyBytes : Option ℤ} {result : VolumeSizingResult}

theorem gbBytes_pos : (0 : ℚ) < gbBytes := by
  rw [gbBytes]
  norm_num

theorem capSlice_le (candidate : CappedBy × ℚ)
    (listed : candidate ∈ sliceCandidates request share measured flattenCopyBytes) :
    (capSlice request share measured flattenCopyBytes).2 ≤ candidate.2 := by
  rw [capSlice]
  cases least : (sliceCandidates request share measured flattenCopyBytes).argmin Prod.snd with
  | none =>
    rw [List.argmin_eq_none] at least
    rw [least] at listed
    cases listed
  | some slice => exact List.le_of_mem_argmin listed least

theorem floors_le (third : ℚ) :
    ((max ⌊2 * third⌋ 1 + max ⌊third⌋ 1 : ℤ) : ℚ) ≤ max (3 * third) 2 := by
  have floorLe := Int.floor_le third
  have doubleLe := Int.floor_le (2 * third)
  rcases le_or_gt 1 ⌊third⌋ with large | small
  · have atLeast : (1 : ℚ) ≤ third := Int.le_floor.mp large |>.trans' (by norm_num)
    have double : 1 ≤ ⌊2 * third⌋ := Int.le_floor.mpr (by push_cast; linarith)
    rw [max_eq_left large, max_eq_left double]
    apply le_max_of_le_left
    push_cast
    linarith
  · have below : third < 1 := by
      by_contra atLeast
      exact absurd (Int.le_floor.mpr (by push_cast; linarith)) (not_le.mpr small)
    have double : ⌊2 * third⌋ ≤ 1 := by
      rw [← Int.lt_add_one_iff, Int.floor_lt]
      push_cast
      linarith
    rw [max_eq_right small.le, max_eq_right double]
    apply le_max_of_le_right
    norm_num

theorem granted_le_slice (slice : ℚ) :
    ((sliceVolumeGb slice + sliceStorageGb slice : ℤ) : ℚ) * gbBytes ≤ max slice (2 * gbBytes) := by
  have positive := gbBytes_pos
  have parts := floors_le (slice / 3 / gbBytes)
  have doubled : slice * 2 / 3 / gbBytes = 2 * (slice / 3 / gbBytes) := by ring
  have whole : 3 * (slice / 3 / gbBytes) * gbBytes = slice := by
    field_simp
  rw [sliceVolumeGb, sliceStorageGb, doubled]
  calc _ ≤ max (3 * (slice / 3 / gbBytes)) 2 * (gbBytes : ℚ) :=
        mul_le_mul_of_nonneg_right parts positive.le
    _ = max slice (2 * gbBytes) := by rw [max_mul_of_nonneg _ _ positive.le, whole]

theorem granted_le_share {slice pool bound : ℚ} (ofPool : slice ≤ share * pool)
    (nonneg : 0 ≤ pool) (grows : pool ≤ bound) :
    ((sliceVolumeGb slice + sliceStorageGb slice : ℤ) : ℚ) * gbBytes ≤
      max (share * bound) (2 * gbBytes) := by
  apply (granted_le_slice slice).trans
  apply max_le _ (le_max_right _ _)
  rcases le_or_gt 0 share with positive | negative
  · exact le_max_of_le_left (ofPool.trans (mul_le_mul_of_nonneg_left grows positive))
  · -- a negative share has nothing beyond the gigabyte for each part
    have none : slice ≤ 0 := ofPool.trans (mul_nonpos_of_nonpos_of_nonneg negative.le nonneg)
    have floor := gbBytes_pos
    exact le_max_of_le_right (by linarith)

theorem volume_le_dfGuard (large : 1 < sliceVolumeGb (capSlice request share measured
      flattenCopyBytes).2) :
    (sliceVolumeGb (capSlice request share measured flattenCopyBytes).2 : ℚ) * gbBytes ≤
      measured.dfAvailBytes - headroomGb * gbBytes := by
  have positive := gbBytes_pos
  have guarded : (capSlice request share measured flattenCopyBytes).2 ≤
      max (((measured.dfAvailBytes : ℚ) - headroomGb * gbBytes) * (3 / 2)) 0 :=
    capSlice_le (.dfGuard, _) (by simp [sliceCandidates])
  generalize (capSlice request share measured flattenCopyBytes).2 = slice at large guarded
  have floored : sliceVolumeGb slice = ⌊slice * 2 / 3 / gbBytes⌋ := by
    rw [sliceVolumeGb, lt_max_iff] at large
    exact max_eq_left (large.resolve_right (lt_irrefl 1)).le
  rw [floored] at large ⊢
  have volume : (⌊slice * 2 / 3 / gbBytes⌋ : ℚ) * gbBytes ≤ slice * 2 / 3 :=
    (le_div_iff₀ positive).mp (Int.floor_le _)
  have atLeast : (1 : ℚ) < ⌊slice * 2 / 3 / gbBytes⌋ := by exact_mod_cast large
  rcases le_max_iff.mp guarded with within | none
  · linarith
  · -- nothing is left to grant, so the volume would be the one gigabyte
    nlinarith

theorem granted_of_resolve {reads : HostReads}
    (resolved : resolveVolumeSizing request reads flattenCopyBytes = .ok result)
    (shared : request.diskShare = some share) (fresh : result.path = .fresh) :
    ∃ measured, reads.measure = some measured ∧
      result.volumeLimitGb = some (min (sliceVolumeGb
        (capSlice request share measured flattenCopyBytes).2) maxVolumeGb) ∧
      result.storageLimitGb = some (sliceStorageGb
        (capSlice request share measured flattenCopyBytes).2) := by
  rw [resolveVolumeSizing, shared] at resolved
  cases limit : request.storageLimitGb with
  | none =>
    rw [limit] at resolved
    cases resolved
    cases fresh
  | some storageLimit =>
    rw [limit] at resolved
    cases measures : reads.measure with
    | none =>
      rw [measures] at resolved
      cases resolved
      cases fresh
    | some measured =>
      rw [measures] at resolved
      refine ⟨measured, rfl, ?_⟩
      simp only [freshSizing] at resolved
      split at resolved
      · split at resolved
        · cases resolved
        · cases resolved
          exact ⟨rfl, rfl⟩
      · cases resolved
        exact ⟨rfl, rfl⟩

end Grant

/-! ## The pods of one disk -/

structure Pod where
  volumeName : String
  diskShare : ℚ
  volumeLimitGb : ℤ
  storageLimitGb : ℤ
  layerBytes : ℤ

def Pod.volumeBytes (pod : Pod) : ℤ := pod.volumeLimitGb * gbBytes

def Pod.grantedBytes (pod : Pod) : ℤ := (pod.volumeLimitGb + pod.storageLimitGb) * gbBytes

def Pod.WithinLimit (pod : Pod) : Prop :=
  0 ≤ pod.layerBytes ∧ pod.layerBytes ≤ pod.storageLimitGb * gbBytes

/-- What is free of a disk that had `emptyBytes` free without a pod. -/
def freeBytes (emptyBytes : ℤ) (pods : List Pod) : ℤ :=
  emptyBytes - (pods.map fun pod => pod.volumeBytes + pod.layerBytes).sum

/-- The pool of the disk without a pod. -/
def initialPool (emptyBytes : ℤ) : ℤ := max (emptyBytes - overheadGb * gbBytes) 0

/-- The names are those of the live volumes, and inspecting them reads their sizes. -/
def ListsVolumes (pods : List Pod) (reads : HostReads) (names : List String) : Prop :=
  ∃ listed : List Pod, listed.Perm pods ∧ names = listed.map Pod.volumeName ∧
    ∀ lines, reads.volumeInspect names = some lines →
      lines.map (fun line => declaredBytes (Text.strip line)) =
        listed.map fun pod => some pod.volumeBytes

/-- Every command that succeeds answers what is the case. -/
structure Truthful (emptyBytes : ℤ) (pods : List Pod) (reads : HostReads) : Prop where
  locked : ∀ bytes ∈ reads.lockedDfAvailBytes, bytes = freeBytes emptyBytes pods
  probed : ∀ probe ∈ reads.probe,
    (∀ bytes ∈ probe.dfAvailBytes, bytes = freeBytes emptyBytes pods) ∧
      ListsVolumes pods reads probe.vloopbackVolumeNames
  df : ∀ dockerRootDir, ∀ bytes ∈ reads.fsAvailableBytes dockerRootDir,
    bytes = freeBytes emptyBytes pods
  listed : ∀ names ∈ reads.vloopbackVolumeNames, ListsVolumes pods reads names

/-- One creation on the fresh path, alone on the host. -/
def Creates (emptyBytes : ℤ) (pods : List Pod) (pod : Pod) : Prop :=
  ∃ request reads flattenCopyBytes result,
    Truthful emptyBytes pods reads ∧
      resolveVolumeSizing request reads flattenCopyBytes = .ok result ∧
      result.path = .fresh ∧
      request.diskShare = some pod.diskShare ∧
      result.volumeLimitGb = some pod.volumeLimitGb ∧
      result.storageLimitGb = some pod.storageLimitGb ∧
      pod.layerBytes = 0

inductive Step (emptyBytes : ℤ) : List Pod → List Pod → Prop
  | create {pods pod} : Creates emptyBytes pods pod → Step emptyBytes pods (pod :: pods)
  | delete {before pod after} : Step emptyBytes (before ++ pod :: after) (before ++ after)
  | write {before pod after layerBytes} :
      Pod.WithinLimit { pod with layerBytes := layerBytes } →
      Step emptyBytes (before ++ pod :: after)
        (before ++ { pod with layerBytes := layerBytes } :: after)

inductive Reaches (emptyBytes : ℤ) : List Pod → Prop
  | empty : Reaches emptyBytes []
  | step {pods pods'} :
      Reaches emptyBytes pods → Step emptyBytes pods pods' → Reaches emptyBytes pods'

section Disk

variable {emptyBytes : ℤ} {pods : List Pod} {pod : Pod} {reads : HostReads}
  {measured : Measured}

theorem inspected_eq {names : List String} {existing : ℤ} (lists : ListsVolumes pods reads names)
    (inspected : inspectVloopbackVolumesBytes reads.volumeInspect names = some existing) :
    existing = (pods.map Pod.volumeBytes).sum := by
  obtain ⟨listed, order, rfl, reads_sizes⟩ := lists
  rw [← (order.map Pod.volumeBytes).sum_eq]
  rw [inspectVloopbackVolumesBytes] at inspected
  split at inspected
  next none =>
    rw [List.isEmpty_iff, List.map_eq_nil_iff] at none
    cases inspected
    rw [none]
    rfl
  next =>
    obtain ⟨lines, answered, rfl⟩ := Option.map_eq_some_iff.mp inspected
    have sizes := reads_sizes lines answered
    have counted : lines.length = (listed.map Pod.volumeName).length := by
      simpa using congrArg List.length sizes
    have sizes' := congrArg (List.map fun size => size.getD (0 : ℤ)) sizes
    simp only [List.map_map, Function.comp_def, Option.getD_some] at sizes'
    have paired : ((listed.map Pod.volumeName).zip lines).map
          (fun entry => (declaredBytes (Text.strip entry.2)).getD 0) =
        lines.map fun line => (declaredBytes (Text.strip line)).getD 0 := by
      conv_rhs => rw [← List.map_snd_zip counted.le, List.map_map]
      simp only [Function.comp_def]
    rw [paired, sizes']

theorem measure_eq (truthful : Truthful emptyBytes pods reads)
    (measures : reads.measure = some measured) :
    measured = ⟨freeBytes emptyBytes pods, (pods.map Pod.volumeBytes).sum⟩ := by
  rw [HostReads.measure] at measures
  split at measures
  · cases measures
  · split at measures
    next probe bytes found =>
      obtain ⟨probe', probed, found⟩ := Option.bind_eq_some_iff.mp found
      obtain ⟨bytes', df, found⟩ := Option.map_eq_some_iff.mp found
      cases found
      obtain ⟨existing, inspected, measures⟩ := Option.bind_eq_some_iff.mp measures
      cases measures
      obtain ⟨free, lists⟩ := truthful.probed probe probed
      rw [inspected_eq lists inspected]
      cases locked : reads.lockedDfAvailBytes with
      | none => rw [Option.getD_none, free bytes df]
      | some lockedBytes => rw [Option.getD_some, truthful.locked lockedBytes locked]
    next =>
      obtain ⟨dockerRootDir, -, measures⟩ := Option.bind_eq_some_iff.mp measures
      obtain ⟨bytes, df, measures⟩ := Option.bind_eq_some_iff.mp measures
      obtain ⟨names, listing, measures⟩ := Option.bind_eq_some_iff.mp measures
      obtain ⟨existing, inspected, measures⟩ := Option.bind_eq_some_iff.mp measures
      cases measures
      rw [inspected_eq (truthful.listed names listing) inspected]
      rcases Option.or_eq_some_iff.mp df with locked | ⟨-, fresh⟩
      · rw [truthful.locked bytes locked]
      · rw [truthful.df dockerRootDir bytes fresh]

theorem granted_of_creates (creates : Creates emptyBytes pods pod) :
    ∃ slice : ℚ,
      pod.volumeLimitGb = min (sliceVolumeGb slice) maxVolumeGb ∧
      pod.storageLimitGb = sliceStorageGb slice ∧
      slice ≤ pod.diskShare * Measured.poolBytes
        ⟨freeBytes emptyBytes pods, (pods.map Pod.volumeBytes).sum⟩ ∧
      (1 < sliceVolumeGb slice →
        (sliceVolumeGb slice : ℚ) * gbBytes ≤
          freeBytes emptyBytes pods - headroomGb * gbBytes) := by
  obtain ⟨request, reads, flattenCopyBytes, result, truthful, resolved, fresh, shared, volume,
    storage, -⟩ := creates
  obtain ⟨measured, measures, volume', storage'⟩ := granted_of_resolve resolved shared fresh
  cases measure_eq truthful measures
  rw [volume, Option.some_inj] at volume'
  rw [storage, Option.some_inj] at storage'
  exact ⟨_, volume', storage', capSlice_le (.pool, _) (by simp [sliceCandidates]),
    volume_le_dfGuard⟩

theorem pool_le_initialPool (within : ∀ pod ∈ pods, pod.WithinLimit) :
    Measured.poolBytes ⟨freeBytes emptyBytes pods, (pods.map Pod.volumeBytes).sum⟩ ≤
      initialPool emptyBytes := by
  have layers : 0 ≤ (pods.map Pod.layerBytes).sum := by
    apply List.sum_nonneg
    intro bytes listed
    obtain ⟨pod, live, rfl⟩ := List.mem_map.mp listed
    exact (within pod live).1
  have split : (pods.map fun pod => pod.volumeBytes + pod.layerBytes).sum =
      (pods.map Pod.volumeBytes).sum + (pods.map Pod.layerBytes).sum := List.sum_map_add
  apply max_le_max_right
  simp only [freeBytes]
  omega

theorem grantedBytes_le (within : ∀ pod ∈ pods, pod.WithinLimit)
    (creates : Creates emptyBytes pods pod) :
    (pod.grantedBytes : ℚ) ≤ max (pod.diskShare * initialPool emptyBytes) (2 * gbBytes) := by
  obtain ⟨slice, volume, storage, ofPool, -⟩ := granted_of_creates creates
  have capped : pod.grantedBytes ≤ (sliceVolumeGb slice + sliceStorageGb slice) * gbBytes := by
    rw [Pod.grantedBytes, volume, storage]
    exact mul_le_mul_of_nonneg_right (add_le_add_left (min_le_left _ _) _) (by decide)
  calc (pod.grantedBytes : ℚ)
      ≤ ((sliceVolumeGb slice + sliceStorageGb slice : ℤ) : ℚ) * gbBytes := by exact_mod_cast capped
    _ ≤ _ := granted_le_share ofPool (Int.cast_nonneg (le_max_right _ _))
        (Int.cast_le.mpr (pool_le_initialPool within))

theorem headroom_le_free (creates : Creates emptyBytes pods pod) (large : 1 < pod.volumeLimitGb) :
    headroomGb * gbBytes ≤ freeBytes emptyBytes (pod :: pods) := by
  have unwritten : pod.layerBytes = 0 := by
    obtain ⟨_, _, _, _, _, _, _, _, _, _, unwritten⟩ := creates
    exact unwritten
  obtain ⟨slice, volume, -, -, guarded⟩ := granted_of_creates creates
  have capped : pod.volumeBytes ≤ sliceVolumeGb slice * gbBytes := by
    rw [Pod.volumeBytes, volume]
    exact mul_le_mul_of_nonneg_right (min_le_left _ _) (by decide)
  have room : sliceVolumeGb slice * gbBytes ≤ freeBytes emptyBytes pods - headroomGb * gbBytes := by
    exact_mod_cast guarded (lt_min_iff.mp (volume ▸ large)).1
  have step : freeBytes emptyBytes (pod :: pods) =
      freeBytes emptyBytes pods - (pod.volumeBytes + pod.layerBytes) := by
    simp only [freeBytes, List.map_cons, List.sum_cons]
    omega
  omega

/-- What holds of every live pod, whatever the others do. -/
structure Pod.Sized (emptyBytes : ℤ) (pod : Pod) : Prop where
  within : pod.WithinLimit
  granted : (pod.grantedBytes : ℚ) ≤ max (pod.diskShare * initialPool emptyBytes) (2 * gbBytes)

theorem Step.sized {pods' : List Pod} (step : Step emptyBytes pods pods')
    (sized : ∀ pod ∈ pods, pod.Sized emptyBytes) : ∀ pod ∈ pods', pod.Sized emptyBytes := by
  cases step with
  | @create _ pod creates =>
    have within : pod.WithinLimit := by
      obtain ⟨slice, -, storage, -⟩ := granted_of_creates creates
      obtain ⟨_, _, _, _, _, _, _, _, _, _, unwritten⟩ := creates
      rw [Pod.WithinLimit, unwritten]
      have atLeast : 1 ≤ pod.storageLimitGb := storage ▸ le_max_right _ _
      exact ⟨le_rfl, mul_nonneg (by omega) (by decide)⟩
    exact List.forall_mem_cons.mpr
      ⟨⟨within, grantedBytes_le (fun pod live => (sized pod live).within) creates⟩, sized⟩
  | delete =>
    intro pod live
    apply sized pod
    rw [List.mem_append] at live ⊢
    exact live.imp_right (List.mem_cons_of_mem _)
  | @write before pod after layerBytes within =>
    intro other live
    rcases List.mem_append.mp live with earlier | later
    · exact sized other (List.mem_append_left _ earlier)
    · rcases List.mem_cons.mp later with rfl | later
      · exact ⟨within, (sized pod (by simp)).granted⟩
      · exact sized other (by simp [later])

theorem Reaches.sized (reached : Reaches emptyBytes pods) :
    ∀ pod ∈ pods, pod.Sized emptyBytes := by
  induction reached with
  | empty =>
    intro pod live
    cases live
  | step _ step induction => exact step.sized induction

theorem sum_granted_le (sized : ∀ pod ∈ pods, pod.Sized emptyBytes)
    (shares : (pods.map Pod.diskShare).sum ≤ 1)
    (large : ∀ pod ∈ pods, 2 * (gbBytes : ℚ) ≤ pod.diskShare * initialPool emptyBytes) :
    (pods.map Pod.grantedBytes).sum ≤ initialPool emptyBytes := by
  have nonneg : (0 : ℚ) ≤ initialPool emptyBytes := Int.cast_nonneg (le_max_right _ _)
  have each : ∀ pod ∈ pods, (pod.grantedBytes : ℚ) ≤ pod.diskShare * initialPool emptyBytes :=
    fun pod live => (max_eq_left (large pod live)) ▸ (sized pod live).granted
  have total : (((pods.map Pod.grantedBytes).sum : ℤ) : ℚ) ≤ initialPool emptyBytes :=
    calc (((pods.map Pod.grantedBytes).sum : ℤ) : ℚ)
        = (pods.map fun pod => (pod.grantedBytes : ℚ)).sum := by
          rw [Int.cast_list_sum, List.map_map]
          rfl
      _ ≤ (pods.map fun pod => pod.diskShare * (initialPool emptyBytes : ℚ)).sum :=
          List.sum_le_sum each
      _ = (pods.map Pod.diskShare).sum * initialPool emptyBytes :=
          List.sum_map_mul_right _ _ _
      _ ≤ initialPool emptyBytes := mul_le_of_le_one_left nonneg shares
  exact_mod_cast total

/-- Pods sized by the fresh measurements never hold more than the disk had for them. -/
theorem disk_never_overcommitted (reached : Reaches emptyBytes pods) :
    (∀ pod ∈ pods,
        (pod.grantedBytes : ℚ) ≤ max (pod.diskShare * initialPool emptyBytes) (2 * gbBytes)) ∧
      (∀ pod, Creates emptyBytes pods pod → 1 < pod.volumeLimitGb →
        headroomGb * gbBytes ≤ freeBytes emptyBytes (pod :: pods)) ∧
      ((pods.map Pod.diskShare).sum ≤ 1 →
        (∀ pod ∈ pods, 2 * (gbBytes : ℚ) ≤ pod.diskShare * initialPool emptyBytes) →
        (pods.map Pod.grantedBytes).sum ≤ initialPool emptyBytes) :=
  ⟨fun pod live => (reached.sized pod live).granted,
    fun _ creates large => headroom_le_free creates large,
    sum_granted_le reached.sized⟩

end Disk

def diskReads (bytes : ℤ) (names lines : List String) : HostReads where
  lockedDfAvailBytes := none
  lockedDfError := false
  probe := none
  dockerRootDir := some "/var/lib/docker"
  fsAvailableBytes _ := some bytes
  vloopbackVolumeNames := some names
  volumeInspect _ := some lines

theorem diskReads_truthful {emptyBytes : ℤ} {pods : List Pod} {lines : List String}
    (sizes : lines.map (fun line => declaredBytes (Text.strip line)) =
      pods.map fun pod => some pod.volumeBytes) :
    Truthful emptyBytes pods
      (diskReads (freeBytes emptyBytes pods) (pods.map Pod.volumeName) lines) where
  locked bytes known := by cases known
  probed probe known := by cases known
  df dockerRootDir bytes known := by
    cases known
    rfl
  listed names known := by
    cases known
    refine ⟨pods, .refl _, rfl, fun answer known => ?_⟩
    cases known
    exact sizes

def halfPod (volumeName : String) : Pod := ⟨volumeName, 1 / 2, 26, 13, 0⟩

theorem halfPod_created (volumeName : String) {pods : List Pod} (lines : List String)
    (sizes : lines.map (fun line => declaredBytes (Text.strip line)) =
      pods.map fun pod => some pod.volumeBytes)
    (resolved : resolveVolumeSizing ⟨none, some 13, some (1 / 2), none⟩
        (diskReads (freeBytes (100 * gbBytes) pods) (pods.map Pod.volumeName) lines) none =
      .ok ⟨some 26, some 13, .fresh, some .pool,
        some ⟨freeBytes (100 * gbBytes) pods, (pods.map Pod.volumeBytes).sum⟩⟩) :
    Creates (100 * gbBytes) pods (halfPod volumeName) :=
  ⟨_, _, _, _, diskReads_truthful sizes, resolved, rfl, rfl, rfl, rfl, rfl⟩

/-- The second pod is sized with the volume of the first one measured. -/
theorem disk_never_overcommitted_half :
    let pods := [halfPod "volume_second", halfPod "volume_first"]
    Reaches (100 * gbBytes) pods ∧
      (pods.map Pod.grantedBytes).sum ≤ initialPool (100 * gbBytes) :=
  have reached : Reaches (100 * gbBytes) [halfPod "volume_second", halfPod "volume_first"] :=
    .step (.step .empty (.create (halfPod_created _ [] rfl (by decide +kernel))))
      (.create (halfPod_created _ ["26g|"] (by decide +kernel) (by decide +kernel)))
  ⟨reached, (disk_never_overcommitted reached).2.2 (by decide +kernel) (by decide +kernel)⟩

end Lium.VolumeSizing
