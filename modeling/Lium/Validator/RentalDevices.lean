import Lium.Foundation.PyDict
import Lium.Foundation.Text
import Mathlib.Data.List.Dedup
import Mathlib.Data.List.Perm.Subperm

/-! # The device nodes of a rental

The kernel's procfs map says which node a GPU is. The listing of `nvidia-smi` can be forged on the
host, so it only decides how a request that the kernel cannot serve fails.
-/

namespace Lium.RentalDevices

open Text

/-- What may follow the stem of a listed path: nothing, `[0-9]*`, or a name in the directory. -/
inductive Tail
  | nothing
  | number
  | name

structure Glob where
  stem : String
  tail : Tail

def Glob.covers (glob : Glob) (node : String) : Bool :=
  let rest := node.toList.drop glob.stem.toList.length
  startsWith glob.stem node && '/' ∉ rest &&
    match glob.tail with
    | .nothing => rest.isEmpty
    | .number => rest.head?.any Char.isDigit
    | .name => !rest.isEmpty

def commonGlobs : List Glob :=
  [⟨"/dev/nvidiactl", .nothing⟩, ⟨"/dev/nvidia-modeset", .nothing⟩, ⟨"/dev/nvidia-uvm", .nothing⟩,
    ⟨"/dev/nvidia-uvm-tools", .nothing⟩, ⟨"/dev/nvidia-nvswitchctl", .nothing⟩,
    ⟨"/dev/nvidia-nvswitch", .number⟩, ⟨"/dev/nvidia-nvlink", .number⟩]

/-- RDMA, and what `find` lists of the caps and the IMEX channels. -/
def wholeHostGlobs : List Glob :=
  [⟨"/dev/infiniband/uverbs", .number⟩, ⟨"/dev/infiniband/rdma_cm", .nothing⟩,
    ⟨"/dev/nvidia-caps/", .name⟩, ⟨"/dev/nvidia-caps-imex-channels/", .name⟩]

/-- What the host answers; an error is the text of the `RuntimeError`. -/
structure Host where
  minorMapFromProc : Except String (PyDict String ℤ)
  minorMapFromXml : Except String (PyDict String ℤ)
  /-- every path under `/dev` -/
  devices : List String

namespace Host

variable (host : Host)

def listing (globs : List Glob) : List String :=
  globs.flatMap fun glob => host.devices.filter glob.covers

/-- `_query_shared_nodes`. -/
def sharedNodes (isWholeHostRental : Bool) : List String :=
  host.listing (if isWholeHostRental then commonGlobs ++ wholeHostGlobs else commonGlobs)

end Host

structure MissingRentedGpuError where
  requestedUuids : List String
  visibleUuids : List String
  missingUuids : List String

inductive QueryError
  | missingRentedGpu (error : MissingRentedGpuError)
  | runtimeError (message : String)

def missingGpuUuids (gpuUuids : List String) (uuidToMinor : PyDict String ℤ) : List String :=
  gpuUuids.filter fun uuid => !uuidToMinor.contains uuid

/-- `except RuntimeError`: the text goes to the errors. -/
def readings : Except String (PyDict String ℤ) → PyDict String ℤ × List String
  | .ok uuidToMinor => (uuidToMinor, [])
  | .error text => (.empty, [text])

def nvidiaNode (minor : ℤ) : String := "/dev/nvidia" ++ toString minor

/-- The nodes of the requested GPUs. `dict.fromkeys` keeps the first of equal nodes. -/
def perGpuNodes (gpuUuids : List String) (uuidToMinor : PyDict String ℤ) : List String :=
  (gpuUuids.map fun uuid => nvidiaNode (uuidToMinor.getD uuid 0)).reverse.dedup.reverse

def queryGpuNodesForUuids (host : Host) (gpuUuids : List String) :
    Except QueryError (List String × ℕ) :=
  let (kernel, procErrors) := readings host.minorMapFromProc
  let (xml, xmlErrors) :=
    if kernel.items = [] ∨ missingGpuUuids gpuUuids kernel ≠ [] then
      readings host.minorMapFromXml
    else (.empty, [])
  let refusedXmlOverwrite := gpuUuids.any fun uuid => !kernel.contains uuid && xml.contains uuid
  let uuidToMinor := if xml.items ≠ [] ∧ !refusedXmlOverwrite then xml else kernel
  if uuidToMinor.items = [] then
    if refusedXmlOverwrite then .error (.missingRentedGpu ⟨gpuUuids, [], gpuUuids⟩)
    else
      let errors := procErrors ++ xmlErrors
      .error (.runtimeError ("GPU minor discovery returned no UUID/minor rows" ++
        if errors ≠ [] then ": " ++ "; ".intercalate errors else ""))
  else
    let missing := missingGpuUuids gpuUuids uuidToMinor
    if missing ≠ [] then .error (.missingRentedGpu ⟨gpuUuids, uuidToMinor.keys, missing⟩)
    else .ok (perGpuNodes gpuUuids uuidToMinor, uuidToMinor.items.length)

structure GpuDockerConfig where
  /-- the GPUs of the device request, all of them if `none` -/
  deviceIds : Option (List String)
  /-- the paths on the host and in the container -/
  deviceMounts : List (String × String)

def buildGpuDockerConfig (gpuUuids deviceNodes : List String) : GpuDockerConfig where
  deviceIds := if gpuUuids ≠ [] then some gpuUuids else none
  deviceMounts := deviceNodes.map fun node => (node, node)

/-- `build_gpu_docker_config_for_executor`; a request of `None` is the empty one. -/
def buildGpuDockerConfigForExecutor (host : Host) (gpuUuids : List String)
    (wholeHost : Option Bool) : Except MissingRentedGpuError GpuDockerConfig :=
  let queried :=
    if gpuUuids ≠ [] then
      (queryGpuNodesForUuids host gpuUuids).map fun (perGpu, hostTotal) =>
        (perGpu, decide (perGpu.length < hostTotal))
    else .ok (host.listing [⟨"/dev/nvidia", .number⟩], false)
  match queried with
  | .ok (perGpu, live) =>
    let isPartialRental := live || wholeHost = some false
    .ok (buildGpuDockerConfig gpuUuids (perGpu ++ host.sharedNodes !isPartialRental))
  | .error (.missingRentedGpu error) => .error error
  | .error (.runtimeError _) => .ok (buildGpuDockerConfig gpuUuids [])

/-- What the kernel lists, nothing where procfs cannot be read. -/
def Host.kernel (host : Host) : PyDict String ℤ := (readings host.minorMapFromProc).1

section Query

variable {host : Host} {gpuUuids : List String}

theorem query_of_covered (requested : gpuUuids ≠ [])
    (covered : missingGpuUuids gpuUuids host.kernel = []) :
    queryGpuNodesForUuids host gpuUuids =
      .ok (perGpuNodes gpuUuids host.kernel, host.kernel.items.length) := by
  have listed : host.kernel.items ≠ [] := by
    intro none
    rcases List.exists_mem_of_ne_nil _ requested with ⟨uuid, member⟩
    have found := List.filter_eq_nil_iff.mp covered uuid member
    simp [PyDict.contains, PyDict.get?, none, PyDict.lookupItem] at found
  have emptyItems : (PyDict.empty : PyDict String ℤ).items = [] := rfl
  rw [Host.kernel] at covered listed
  simp [queryGpuNodesForUuids, covered, listed, emptyItems, Host.kernel]

theorem query_of_lacking (lacks : missingGpuUuids gpuUuids host.kernel ≠ []) :
    (∃ error, queryGpuNodesForUuids host gpuUuids = .error (.missingRentedGpu error)) ∨
      host.kernel.items = [] ∧
        ∃ message, queryGpuNodesForUuids host gpuUuids = .error (.runtimeError message) := by
  rcases List.exists_mem_of_ne_nil _ lacks with ⟨uuid, lacked⟩
  rw [missingGpuUuids, List.mem_filter, Bool.not_eq_true'] at lacked
  rw [Host.kernel] at lacks lacked ⊢
  simp only [queryGpuNodesForUuids, lacks, ne_eq, not_false_eq_true, or_true, if_true]
  generalize (readings host.minorMapFromProc).1 = kernel at *
  generalize (readings host.minorMapFromXml).1 = xml at *
  split
  · next overwrites =>
    -- the listing has none of the GPUs that the kernel lacks, or the overwrite is refused
    have unlisted : missingGpuUuids gpuUuids xml ≠ [] := by
      have refused := overwrites.2
      rw [Bool.not_eq_true', List.any_eq_false] at refused
      have absent := refused uuid lacked.1
      rw [lacked.2, Bool.not_false, Bool.true_and, Bool.not_eq_true] at absent
      exact List.ne_nil_of_mem (List.mem_filter.mpr ⟨lacked.1, by rw [absent]; rfl⟩)
    rw [if_neg overwrites.1, if_pos unlisted]
    exact .inl ⟨_, rfl⟩
  · by_cases none : kernel.items = []
    · rw [if_pos none]
      split
      · exact .inl ⟨_, rfl⟩
      · exact .inr ⟨none, _, rfl⟩
    · rw [if_neg none]
      exact .inl ⟨_, rfl⟩

end Query

/-! ## Which node is whose -/

def HostWide (node : String) : Prop := ∃ glob ∈ wholeHostGlobs, glob.covers node = true

/-- A path has letters where the node of a GPU has its number. -/
def Lettered (node : String) : Prop :=
  ∃ char ∈ node.toList.drop 11, char.isDigit = false ∧ char ≠ '-'

variable {host : Host} {gpuUuids : List String} {node : String}

theorem Glob.covers_iff {glob : Glob} (covers : glob.covers node = true) :
    ∃ rest, node.toList = glob.stem.toList ++ rest ∧ '/' ∉ rest := by
  simp only [Glob.covers, Bool.and_eq_true, decide_eq_true_eq] at covers
  rcases List.isPrefixOf_iff_prefix.mp covers.1.1 with ⟨rest, whole⟩
  have plain := covers.1.2
  rw [← whole, List.drop_left] at plain
  exact ⟨rest, whole.symm, plain⟩

theorem lettered_of_covers : ∀ glob ∈ commonGlobs ++ wholeHostGlobs, glob.covers node = true →
    Lettered node := by
  have stems : ∀ glob ∈ commonGlobs ++ wholeHostGlobs,
      (glob.stem.toList.drop 11).any (fun char => !char.isDigit && char != '-') = true := by decide
  intro glob listed covers
  rcases glob.covers_iff covers with ⟨rest, whole, -⟩
  rcases List.any_eq_true.mp (stems glob listed) with ⟨char, member, letter⟩
  rw [Lettered, whole, List.drop_append]
  exact ⟨char, List.mem_append_left _ member, by simpa using letter⟩

theorem not_lettered_nvidiaNode (minor : ℤ) : ¬ Lettered (nvidiaNode minor) := by
  rintro ⟨char, member, notDigit, notSign⟩
  rw [nvidiaNode, String.toList_append] at member
  cases minor with
  | ofNat value => exact not_mem_toString notDigit value member
  | negSucc value =>
    have signed : char ∈ ("-" ++ toString (value + 1)).toList := member
    rw [String.toList_append] at signed
    rcases List.mem_append.mp signed with sign | number
    · exact notSign (List.mem_singleton.mp sign)
    · exact not_mem_toString notDigit _ number

theorem exists_glob_of_mem_sharedNodes {isWholeHostRental : Bool}
    (member : node ∈ host.sharedNodes isWholeHostRental) :
    ∃ glob ∈ if isWholeHostRental then commonGlobs ++ wholeHostGlobs else commonGlobs,
      glob.covers node = true := by
  rcases List.mem_flatMap.mp member with ⟨glob, listed, found⟩
  exact ⟨glob, listed, (List.mem_filter.mp found).2⟩

theorem not_hostWide_of_mem_sharedNodes (member : node ∈ host.sharedNodes false) :
    ¬ HostWide node := by
  rintro ⟨wide, isWide, coversWide⟩
  rcases exists_glob_of_mem_sharedNodes member with ⟨glob, common, covers⟩
  have two : ∀ glob ∈ commonGlobs, glob.stem.toList.count '/' = 2 := by decide
  have three : ∀ glob ∈ wholeHostGlobs, glob.stem.toList.count '/' = 3 := by decide
  rcases glob.covers_iff covers with ⟨rest, whole, plain⟩
  rcases wide.covers_iff coversWide with ⟨restWide, wholeWide, plainWide⟩
  have slashes := congrArg (List.count '/') (whole.symm.trans wholeWide)
  rw [List.count_append, List.count_append, List.count_eq_zero.mpr plain,
    List.count_eq_zero.mpr plainWide, two glob common, three wide isWide] at slashes
  omega

/-! ## The config -/

/-- The nodes that the kernel has for the request, each once, and the shared ones. -/
structure FromKernel (host : Host) (gpuUuids : List String) (wholeHost : Option Bool)
    (config : GpuDockerConfig) (perGpu shared : List String) : Prop where
  mounts : config.deviceMounts = (perGpu ++ shared).map fun node => (node, node)
  once : perGpu.Nodup
  kernel : ∀ node, node ∈ perGpu ↔ ∃ uuid ∈ gpuUuids, ∃ minor,
    host.kernel.get? uuid = some minor ∧ node = nvidiaNode minor
  others : ∀ node ∈ shared, ∀ minor, node ≠ nvidiaNode minor
  hostWide : ∀ node ∈ perGpu ++ shared, HostWide node →
    wholeHost ≠ some false ∧ perGpu.length = host.kernel.items.length

section Covered

variable (covered : missingGpuUuids gpuUuids host.kernel = [])
include covered

theorem mem_perGpuNodes : node ∈ perGpuNodes gpuUuids host.kernel ↔ ∃ uuid ∈ gpuUuids, ∃ minor,
    host.kernel.get? uuid = some minor ∧ node = nvidiaNode minor := by
  simp only [perGpuNodes, List.mem_reverse, List.mem_dedup, List.mem_map]
  refine exists_congr fun uuid => and_congr_right fun member => ?_
  have found := List.filter_eq_nil_iff.mp covered uuid member
  rw [PyDict.contains, Bool.not_eq_true', Bool.not_eq_false, Option.isSome_iff_exists] at found
  rcases found with ⟨minor, found⟩
  simp [PyDict.getD, found, eq_comm]

theorem perGpuNodes_length_le :
    (perGpuNodes gpuUuids host.kernel).length ≤ host.kernel.items.length := by
  have nodup : (perGpuNodes gpuUuids host.kernel).Nodup :=
    List.nodup_reverse.mpr (List.nodup_dedup _)
  have known : perGpuNodes gpuUuids host.kernel ⊆
      host.kernel.items.map fun item => nvidiaNode item.2 := by
    intro node member
    rcases (mem_perGpuNodes covered).mp member with ⟨uuid, -, minor, found, rfl⟩
    exact List.mem_map.mpr ⟨_, host.kernel.mem_of_get? found, rfl⟩
  have bound := (nodup.subperm known).length_le
  rwa [List.length_map] at bound

theorem fromKernel {wholeHost : Option Bool} {isPartialRental : Bool}
    (whole : isPartialRental = false → wholeHost ≠ some false ∧
      (perGpuNodes gpuUuids host.kernel).length = host.kernel.items.length) :
    FromKernel host gpuUuids wholeHost
      (buildGpuDockerConfig gpuUuids
        (perGpuNodes gpuUuids host.kernel ++ host.sharedNodes !isPartialRental))
      (perGpuNodes gpuUuids host.kernel) (host.sharedNodes !isPartialRental) := by
  refine ⟨rfl, List.nodup_reverse.mpr (List.nodup_dedup _), fun node => mem_perGpuNodes covered,
    ?_, ?_⟩
  · rintro node member minor rfl
    rcases exists_glob_of_mem_sharedNodes member with ⟨glob, listed, covers⟩
    refine not_lettered_nvidiaNode minor (lettered_of_covers glob ?_ covers)
    split at listed
    · exact listed
    · exact List.mem_append_left _ listed
  · intro node member wide
    rcases List.mem_append.mp member with own | shared
    · rcases (mem_perGpuNodes covered).mp own with ⟨-, -, minor, -, rfl⟩
      rcases wide with ⟨glob, listed, covers⟩
      exact absurd (lettered_of_covers glob (List.mem_append_right _ listed) covers)
        (not_lettered_nvidiaNode minor)
    · cases isPartialRental with
      | true => exact absurd wide (not_hostWide_of_mem_sharedNodes shared)
      | false => exact whole rfl

end Covered

/-- The forgeable listing of `nvidia-smi` never decides a rental's devices. -/
theorem kernel_decides_devices (host : Host) (gpuUuids : List String) (wholeHost : Option Bool)
    (requested : gpuUuids ≠ []) :
    (∀ config, buildGpuDockerConfigForExecutor host gpuUuids wholeHost = .ok config →
      config.deviceMounts ≠ [] →
      (∀ xml, buildGpuDockerConfigForExecutor { host with minorMapFromXml := xml } gpuUuids
        wholeHost = .ok config) ∧
      ∃ perGpu shared, FromKernel host gpuUuids wholeHost config perGpu shared) ∧
    (host.kernel.items ≠ [] → (∃ uuid ∈ gpuUuids, uuid ∉ host.kernel.keys) →
      ∃ error, buildGpuDockerConfigForExecutor host gpuUuids wholeHost = .error error) := by
  have built : ∀ other : Host, other.kernel = host.kernel →
      missingGpuUuids gpuUuids host.kernel = [] →
      buildGpuDockerConfigForExecutor other gpuUuids wholeHost = .ok (buildGpuDockerConfig gpuUuids
        (perGpuNodes gpuUuids host.kernel ++ other.sharedNodes
          !((perGpuNodes gpuUuids host.kernel).length < host.kernel.items.length ||
            wholeHost = some false))) := by
    intro other same covered
    rw [← same] at covered ⊢
    rw [buildGpuDockerConfigForExecutor, if_pos requested, query_of_covered requested covered]
    rfl
  by_cases covered : missingGpuUuids gpuUuids host.kernel = []
  · constructor
    · intro config returned _
      rw [built host rfl covered] at returned
      cases returned
      refine ⟨fun xml => built { host with minorMapFromXml := xml } rfl covered,
        _, _, fromKernel covered fun whole => ?_⟩
      rw [Bool.or_eq_false_iff, decide_eq_false_iff_not, decide_eq_false_iff_not] at whole
      exact ⟨whole.2, (perGpuNodes_length_le covered).antisymm (Nat.le_of_not_lt whole.1)⟩
    · rintro - ⟨uuid, member, lacked⟩
      have found := List.filter_eq_nil_iff.mp covered uuid member
      rw [Bool.not_eq_true', Bool.not_eq_false, PyDict.contains_iff] at found
      exact absurd found lacked
  · rcases query_of_lacking covered with ⟨error, failed⟩ | ⟨none, message, failed⟩
    · have raised : buildGpuDockerConfigForExecutor host gpuUuids wholeHost = .error error := by
        rw [buildGpuDockerConfigForExecutor, if_pos requested, failed]
        rfl
      refine ⟨fun config returned => ?_, fun _ _ => ⟨error, raised⟩⟩
      rw [raised] at returned
      cases returned
    · refine ⟨fun config returned mounted => ?_, fun listed => absurd none listed⟩
      rw [buildGpuDockerConfigForExecutor, if_pos requested, failed] at returned
      cases returned
      exact absurd rfl mounted

/-- `nvidia-smi` gives the GPU another node. -/
def spoofingHost : Host where
  minorMapFromProc := .ok (PyDict.empty.set "GPU-a" 0)
  minorMapFromXml := .ok (PyDict.empty.set "GPU-a" 7)
  devices := ["/dev/nvidia0", "/dev/nvidia7", "/dev/nvidiactl"]

theorem spoofingHost_fromKernel :
    ∃ config, buildGpuDockerConfigForExecutor spoofingHost ["GPU-a"] none = .ok config ∧
      ∃ perGpu shared, FromKernel spoofingHost ["GPU-a"] none config perGpu shared := by
  have decides := (kernel_decides_devices spoofingHost ["GPU-a"] none (by decide)).1
  exact ⟨_, rfl, (decides _ rfl (by decide +kernel)).2⟩

end Lium.RentalDevices
