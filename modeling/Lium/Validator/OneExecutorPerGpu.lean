import Lium.Incentive.Readability
import Lium.Validator.GpuAlias

/-! # What the GPU pass guarantees

Each hotkey is settled on its own results, so the whole pass has the closed form of one
hotkey for each of them.
-/

namespace Lium.DuplicateExecutor

variable {gpuUuid : String} {id : ℕ} {entry : String × List ℕ} {runtime : PyRuntime}

/-! ## Hotkeys are settled apart -/

section Congruence

variable {left right : ℕ → ValidatedNode} (same : ∀ id ∈ entry.2, left id = right id)

include same

theorem successful_congr :
    (entry.2.filter fun id => (left id).isSuccessful) =
      entry.2.filter fun id => (right id).isSuccessful := by
  apply List.filter_congr
  intro id member
  rw [same id member]

theorem reporters_congr :
    reporters runtime left entry.2 = reporters runtime right entry.2 := by
  funext gpuUuid
  rw [reporters, reporters, successful_congr same]
  apply List.filter_congr
  intro id member
  rw [same id (List.mem_of_mem_filter member)]

theorem gpusOf_congr : gpusOf runtime left entry.2 = gpusOf runtime right entry.2 := by
  have reports : reportsOf runtime left entry.2 = reportsOf runtime right entry.2 := by
    rw [reportsOf, reportsOf, successful_congr same]
    apply List.map_congr_left
    intro id member
    rw [same id (List.mem_of_mem_filter member)]
  rw [gpusOf, gpusOf, reports]

theorem keptCopy_congr (gpuUuid : String) :
    keptCopy runtime left (reporters runtime right entry.2) gpuUuid =
      keptCopy runtime right (reporters runtime right entry.2) gpuUuid := by
  apply Group.argmin_congr
  intro id member
  rw [same id (mem_reporters.mp member).1]

theorem loses_congr (member : id ∈ entry.2) (gpuUuid : String) :
    loses runtime left (reporters runtime right entry.2) gpuUuid id =
      loses runtime right (reporters runtime right entry.2) gpuUuid id := by
  have contested : isContested runtime left (reporters runtime right entry.2 gpuUuid) =
      isContested runtime right (reporters runtime right entry.2 gpuUuid) := by
    apply isContested_congr
    intro copy reports
    rw [same copy (mem_reporters.mp reports).1]
  rw [loses, loses, contested, keptCopy_congr same, same id member]

theorem settledHotkeyNode_congr (member : id ∈ entry.2) :
    settledHotkeyNode runtime left entry id = settledHotkeyNode runtime right entry id := by
  rw [settledHotkeyNode, settledHotkeyNode, reporters_congr same, gpusOf_congr same, settledNode,
    settledNode]
  simp only [loses_congr same member]
  cases found : (gpusOf runtime right entry.2).find? fun gpuUuid =>
      loses runtime right (reporters runtime right entry.2) gpuUuid id with
  | none => exact same id member
  | some gpuUuid =>
    have loss := List.find?_some found
    rw [loses_iff] at loss
    rcases exists_keptCopy runtime right loss.2.1 with ⟨kept, keeps⟩
    have keptMember := (mem_reporters.mp (keptCopy_mem keeps)).1
    simp only [Option.map_some, Option.getD_some, aliasOf, keptCopy_congr same, keeps,
      same id member, same kept keptMember]

end Congruence

theorem settledHotkeyNode_of_not_mem (nodes : ℕ → ValidatedNode) (other : id ∉ entry.2) :
    settledHotkeyNode runtime nodes entry id = nodes id := by
  apply settledNode_of_kept
  intro gpuUuid _
  rw [Bool.eq_false_iff]
  intro loss
  exact other (mem_reporters.mp (loses_iff runtime nodes _ |>.mp loss).2.1).1

variable {fleet : Fleet} {entries : List (String × List ℕ)}

theorem forEach_settleHotkey
    (nodup : (entries.flatMap Prod.snd).Nodup) {settled : Fleet}
    (returned : Raising.forEach (settleHotkey runtime) entries fleet = .ok settled) :
    settled = fleet.withNodes settled.nodes ∧
      (∀ entry ∈ entries, ∀ id ∈ entry.2,
        settled.nodes id = settledHotkeyNode runtime fleet.nodes entry id) ∧
      ∀ id, id ∉ entries.flatMap Prod.snd → settled.nodes id = fleet.nodes id := by
  induction entries generalizing fleet with
  | nil =>
    cases returned
    exact ⟨rfl, by simp, fun _ _ => rfl⟩
  | cons entry rest induction =>
    rw [List.flatMap_cons, List.nodup_append] at nodup
    rcases nodup with ⟨-, restNodup, apart⟩
    rw [Raising.forEach, Raising.bind_eq_ok_iff] at returned
    rcases returned with ⟨next, stepped, returned⟩
    have nextEq := settleHotkey_eq stepped
    rcases induction restNodup returned with ⟨lists, settledRest, untouched⟩
    have nextNodes : ∀ id, id ∉ entry.2 → next.nodes id = fleet.nodes id := by
      intro id other
      rw [nextEq]
      exact settledHotkeyNode_of_not_mem fleet.nodes other
    refine ⟨?_, ?_, ?_⟩
    · rw [lists, nextEq]
      rfl
    · rw [List.forall_mem_cons]
      constructor
      · intro id member
        have notLater : id ∉ rest.flatMap Prod.snd := fun later =>
          apart id member id later rfl
        rw [untouched id notLater, nextEq]
        rfl
      · intro later laterMember id member
        rw [settledRest later laterMember id member]
        apply settledHotkeyNode_congr _ member
        intro copy copyMember
        apply nextNodes
        intro earlier
        exact apart copy earlier copy (List.mem_flatMap.mpr ⟨later, laterMember, copyMember⟩) rfl
    · intro id other
      rw [List.flatMap_cons, List.mem_append, not_or] at other
      rw [untouched id other.2, nextNodes id other.1]

theorem succeeds_settleHotkey (readable : ∀ id ∈ entry.2, (fleet.nodes id).isSuccessful = true →
      Raising.Succeeds (gpuUuids runtime (fleet.nodes id))) :
    Raising.Succeeds (settleHotkey runtime entry fleet) := by
  have read : Raising.Succeeds (gpuReports runtime fleet.nodes entry.2) := by
    rw [gpuReports, Raising.succeeds_mapM_iff]
    intro id member
    rw [List.mem_filter] at member
    rw [Raising.succeeds_bind_return_iff]
    exact readable id member.1 member.2
  rcases read with ⟨reports, read⟩
  rw [settleHotkey, Raising.succeeds_bind_iff]
  exact ⟨reports, Raising.atState_eq_ok_iff.mpr read, _, rfl⟩

theorem succeeds_forEach_settleHotkey
    (nodup : (entries.flatMap Prod.snd).Nodup)
    (readable : ∀ entry ∈ entries, ∀ id ∈ entry.2, (fleet.nodes id).isSuccessful = true →
      Raising.Succeeds (gpuUuids runtime (fleet.nodes id))) :
    Raising.Succeeds (Raising.forEach (settleHotkey runtime) entries fleet) := by
  induction entries generalizing fleet with
  | nil => exact ⟨fleet, rfl⟩
  | cons entry rest induction =>
    rw [List.flatMap_cons, List.nodup_append] at nodup
    rcases nodup with ⟨-, restNodup, apart⟩
    rw [List.forall_mem_cons] at readable
    rcases succeeds_settleHotkey readable.1 with ⟨next, stepped⟩
    rw [Raising.forEach_cons_of_ok stepped]
    apply induction restNodup
    intro later listed id member
    have untouched : next.nodes id = fleet.nodes id := by
      rw [settleHotkey_eq stepped]
      apply settledHotkeyNode_of_not_mem
      intro earlier
      exact apart id earlier id (List.mem_flatMap.mpr ⟨later, listed, member⟩) rfl
    rw [untouched]
    exact readable.2 later listed id member

structure GpusSettled (runtime : PyRuntime) (fleet settled : Fleet) : Prop where
  lists : settled = fleet.withNodes settled.nodes
  listed : ∀ entry ∈ fleet.jobResults, ∀ id ∈ entry.2,
    settled.nodes id = settledHotkeyNode runtime fleet.nodes entry id
  unlisted : ∀ id, id ∉ fleet.ids → settled.nodes id = fleet.nodes id

theorem gpusSettled_of_returned {settled : Fleet}
    (returned : keepOneExecutorPerGpu runtime fleet = .ok settled) :
    GpusSettled runtime fleet settled := by
  have permuted := List.perm_insertionSort (fun left right : String × List ℕ => left.1 ≤ right.1)
    fleet.jobResults
  have ids := permuted.flatMap_right Prod.snd
  rcases forEach_settleHotkey (ids.nodup_iff.mpr fleet.nodesNodup) returned with
    ⟨lists, listed, unlisted⟩
  exact ⟨lists, fun entry member => listed entry (permuted.mem_iff.mpr member),
    fun id other => unlisted id fun member => other (ids.mem_iff.mp member)⟩

theorem GpusSettled.unique {left right : Fleet} (leftSettled : GpusSettled runtime fleet left)
    (rightSettled : GpusSettled runtime fleet right) : left = right := by
  have nodes : left.nodes = right.nodes := by
    funext id
    by_cases member : id ∈ fleet.ids
    · rcases List.mem_flatMap.mp member with ⟨entry, listed, idMember⟩
      rw [leftSettled.listed entry listed id idMember, rightSettled.listed entry listed id idMember]
    · rw [leftSettled.unlisted id member, rightSettled.unlisted id member]
  rw [leftSettled.lists, rightSettled.lists, nodes]

/-! ## Who keeps a score -/

/-- The result keeps its score: it is rented or the preferred copy of every GPU it shares. -/
def keepsScore (runtime : PyRuntime) (nodes : ℕ → ValidatedNode) (ids : List ℕ) (id : ℕ) : Prop :=
  (nodes id).isRented = true ∨ ∀ gpuUuid ∈ uuidsOf runtime (nodes id),
    isContested runtime nodes (reporters runtime nodes ids gpuUuid) = true →
      keptCopy runtime nodes (reporters runtime nodes ids) gpuUuid = some id

section Survivors

variable {nodes : ℕ → ValidatedNode}

variable (runtime) in
theorem settledHotkeyNode_cases (member : id ∈ entry.2)
    (successful : (nodes id).isSuccessful = true) :
    (keepsScore runtime nodes entry.2 id ∧
        settledHotkeyNode runtime nodes entry id = nodes id) ∨
      (¬keepsScore runtime nodes entry.2 id ∧ ∃ gpuUuid,
        loses runtime nodes (reporters runtime nodes entry.2) gpuUuid id = true ∧
        settledHotkeyNode runtime nodes entry id =
          aliasOf runtime entry.1 nodes (reporters runtime nodes entry.2) gpuUuid id) := by
  rw [settledHotkeyNode, settledNode]
  cases found : (gpusOf runtime nodes entry.2).find? fun gpuUuid =>
      loses runtime nodes (reporters runtime nodes entry.2) gpuUuid id with
  | none =>
    left
    refine ⟨?_, rfl⟩
    rw [keepsScore, or_iff_not_imp_left]
    intro idle gpuUuid reported contested
    have reports : id ∈ reporters runtime nodes entry.2 gpuUuid :=
      mem_reporters.mpr ⟨member, successful, reported⟩
    by_contra other
    exact List.find?_eq_none.mp found gpuUuid (mem_gpusOf reports)
      ((loses_iff ..).mpr ⟨contested, reports, other, Bool.not_eq_true _ ▸ idle⟩)
  | some gpuUuid =>
    right
    have loss := List.find?_some found
    refine ⟨?_, gpuUuid, loss, rfl⟩
    rcases (loses_iff ..).mp loss with ⟨contested, reports, other, idle⟩
    rintro (rented | keeps)
    · rw [idle] at rented
      exact Bool.false_ne_true rented
    · exact other (keeps gpuUuid (mem_reporters.mp reports).2.2 contested)

theorem settledHotkeyNode_of_unsuccessful (unsuccessful : (nodes id).isSuccessful = false) :
    settledHotkeyNode runtime nodes entry id = nodes id := by
  apply settledNode_of_kept
  intro gpuUuid _
  rw [Bool.eq_false_iff]
  intro loss
  have reports := mem_reporters.mp ((loses_iff ..).mp loss).2.1
  rw [unsuccessful] at reports
  exact Bool.false_ne_true reports.2.1

theorem settledHotkeyNode_isSuccessful (member : id ∈ entry.2) :
    (settledHotkeyNode runtime nodes entry id).isSuccessful = true ↔
      (nodes id).isSuccessful = true ∧ keepsScore runtime nodes entry.2 id := by
  cases successful : (nodes id).isSuccessful with
  | true =>
    rcases settledHotkeyNode_cases runtime member successful with
      ⟨keeps, kept⟩ | ⟨loses, gpuUuid, -, zeroed⟩
    · simp [kept, successful, keeps]
    · simp [zeroed, aliasOf, zeroScore, ValidatedNode.isSuccessful, loses]
  | false => simp [settledHotkeyNode_of_unsuccessful successful, successful]

theorem keepsScore_shared {left right : ℕ} (leftMember : left ∈ entry.2)
    (rightMember : right ∈ entry.2) (leftSuccessful : (nodes left).isSuccessful = true)
    (rightSuccessful : (nodes right).isSuccessful = true)
    (leftKeeps : keepsScore runtime nodes entry.2 left)
    (rightKeeps : keepsScore runtime nodes entry.2 right)
    (apart : executorKey runtime (nodes left) ≠ executorKey runtime (nodes right))
    (leftReports : gpuUuid ∈ uuidsOf runtime (nodes left))
    (rightReports : gpuUuid ∈ uuidsOf runtime (nodes right)) :
    (nodes left).isRented = true := by
  have leftCopy : left ∈ reporters runtime nodes entry.2 gpuUuid :=
    mem_reporters.mpr ⟨leftMember, leftSuccessful, leftReports⟩
  have rightCopy : right ∈ reporters runtime nodes entry.2 gpuUuid :=
    mem_reporters.mpr ⟨rightMember, rightSuccessful, rightReports⟩
  have contested : isContested runtime nodes (reporters runtime nodes entry.2 gpuUuid) = true :=
    decide_eq_true (Group.two_le_length_dedup (List.mem_map_of_mem leftCopy)
      (List.mem_map_of_mem rightCopy) apart)
  rcases leftKeeps with rented | leftKept
  · exact rented
  · have keeps := leftKept gpuUuid leftReports contested
    -- the right copy cannot be preferred as well, so it is rented, and a rented copy is
    -- preferred to an idle one
    rcases rightKeeps with rightRented | rightKept
    · have least : preference runtime (nodes left) ≤ preference runtime (nodes right) :=
        keptCopy_le keeps rightCopy
      by_contra idle
      rw [Bool.not_eq_true] at idle
      simp only [preference, Prod.Lex.toLex_le_toLex, rightRented, idle, Bool.not_true,
        Bool.not_false, Bool.true_eq_false, false_and, or_false] at least
      exact absurd least (by decide)
    · have same := keeps.symm.trans (rightKept gpuUuid rightReports contested)
      cases same
      exact absurd rfl apart

end Survivors

/-! ## Sets of cards listed more than once -/

/-- Results of one hotkey that share a GPU report the same GPUs. -/
def ListsWholeSets (runtime : PyRuntime) (fleet : Fleet) : Prop :=
  ∀ entry ∈ fleet.jobResults, ∀ gpuUuid,
    ∀ left ∈ reporters runtime fleet.nodes entry.2 gpuUuid,
      ∀ right ∈ reporters runtime fleet.nodes entry.2 gpuUuid,
        uuidsOf runtime (fleet.nodes left) = uuidsOf runtime (fleet.nodes right)

theorem reporters_eq_of_whole (whole : ListsWholeSets runtime fleet)
    (listed : entry ∈ fleet.jobResults) {other : String}
    (reports : id ∈ reporters runtime fleet.nodes entry.2 gpuUuid)
    (reportsOther : id ∈ reporters runtime fleet.nodes entry.2 other) :
    reporters runtime fleet.nodes entry.2 gpuUuid =
      reporters runtime fleet.nodes entry.2 other := by
  have onlyOne : ∀ {first second : String},
      id ∈ reporters runtime fleet.nodes entry.2 first →
      id ∈ reporters runtime fleet.nodes entry.2 second → ∀ copy ∈ entry.2,
      (fleet.nodes copy).isSuccessful = true → first ∈ uuidsOf runtime (fleet.nodes copy) →
        second ∈ uuidsOf runtime (fleet.nodes copy) := by
    intro first second idFirst idSecond copy member successful reported
    have copyFirst := mem_reporters.mpr ⟨member, successful, reported⟩
    rw [whole entry listed first copy copyFirst id idFirst]
    exact (mem_reporters.mp idSecond).2.2
  rw [reporters, reporters]
  apply List.filter_congr
  intro copy member
  rw [List.mem_filter] at member
  rw [decide_eq_decide]
  exact ⟨onlyOne reports reportsOther copy member.1 member.2,
    onlyOne reportsOther reports copy member.1 member.2⟩

theorem keptCopy_keepsScore (whole : ListsWholeSets runtime fleet)
    (listed : entry ∈ fleet.jobResults) {kept : ℕ}
    (keeps : keptCopy runtime fleet.nodes (reporters runtime fleet.nodes entry.2) gpuUuid =
      some kept) :
    keepsScore runtime fleet.nodes entry.2 kept := by
  right
  intro other reportsOther _
  have reports : kept ∈ reporters runtime fleet.nodes entry.2 gpuUuid :=
    keptCopy_mem keeps
  rcases mem_reporters.mp reports with ⟨member, successful, -⟩
  have same := reporters_eq_of_whole whole listed reports
    (mem_reporters.mpr ⟨member, successful, reportsOther⟩)
  rw [keptCopy] at keeps ⊢
  rw [← same, keeps]

/-- What a returned pass guarantees; the last two parts where results that share a GPU report the
same GPUs. -/
theorem keepOneExecutorPerGpu_guarantees (runtime : PyRuntime) {fleet settled : Fleet}
    (returned : keepOneExecutorPerGpu runtime fleet = .ok settled) {entry : String × List ℕ}
    (listed : entry ∈ fleet.jobResults) :
    (∀ id ∈ entry.2, (fleet.nodes id).isRented = true → settled.nodes id = fleet.nodes id) ∧
    (∀ id ∈ entry.2, (settled.nodes id).isSuccessful = true ↔
      (fleet.nodes id).isSuccessful = true ∧ keepsScore runtime fleet.nodes entry.2 id) ∧
    (∀ left ∈ entry.2, ∀ right ∈ entry.2, (settled.nodes left).isSuccessful = true →
      (settled.nodes right).isSuccessful = true →
      executorKey runtime (fleet.nodes left) ≠ executorKey runtime (fleet.nodes right) →
      ∀ gpuUuid ∈ uuidsOf runtime (fleet.nodes left),
        gpuUuid ∈ uuidsOf runtime (fleet.nodes right) →
        (fleet.nodes left).isRented = true ∧ (fleet.nodes right).isRented = true) ∧
    (∀ id ∈ entry.2, (fleet.nodes id).isSuccessful = true →
      (settled.nodes id).isSuccessful = false → ∃ gpuUuid, ∃ kept,
        id ∈ reporters runtime fleet.nodes entry.2 gpuUuid ∧
        kept ∈ reporters runtime fleet.nodes entry.2 gpuUuid ∧
        (∀ copy ∈ reporters runtime fleet.nodes entry.2 gpuUuid,
          preference runtime (fleet.nodes kept) ≤ preference runtime (fleet.nodes copy)) ∧
        settled.nodes id = zeroScore (fleet.nodes id)
          (gpuAliasEvent entry.1 gpuUuid (fleet.nodes id) (fleet.nodes kept)) ∧
        (ListsWholeSets runtime fleet → (settled.nodes kept).isSuccessful = true)) ∧
    (ListsWholeSets runtime fleet → ∀ gpuUuid,
      ∀ id ∈ reporters runtime fleet.nodes entry.2 gpuUuid,
        ∃ kept ∈ reporters runtime fleet.nodes entry.2 gpuUuid,
          (settled.nodes kept).isSuccessful = true) := by
  have value {id : ℕ} (member : id ∈ entry.2) :=
    (gpusSettled_of_returned returned).listed entry listed id member
  have survives {id : ℕ} (member : id ∈ entry.2) : (settled.nodes id).isSuccessful = true ↔
      (fleet.nodes id).isSuccessful = true ∧ keepsScore runtime fleet.nodes entry.2 id := by
    rw [value member]
    exact settledHotkeyNode_isSuccessful member
  have keptSurvives {gpuUuid : String} {kept : ℕ} (whole : ListsWholeSets runtime fleet)
      (keeps : keptCopy runtime fleet.nodes (reporters runtime fleet.nodes entry.2) gpuUuid =
        some kept) : (settled.nodes kept).isSuccessful = true := by
    have reports := mem_reporters.mp (keptCopy_mem keeps)
    exact (survives reports.1).mpr ⟨reports.2.1, keptCopy_keepsScore whole listed keeps⟩
  refine ⟨?_, fun id member => survives member, ?_, ?_, ?_⟩
  · intro id member rented
    rw [value member]
    apply settledNode_of_kept
    intro gpuUuid _
    simp [loses, rented]
  · intro left leftMember right rightMember leftSurvives rightSurvives apart gpuUuid leftReports
      rightReports
    rcases (survives leftMember).mp leftSurvives with ⟨leftSuccessful, leftKeeps⟩
    rcases (survives rightMember).mp rightSurvives with ⟨rightSuccessful, rightKeeps⟩
    exact ⟨keepsScore_shared leftMember rightMember leftSuccessful rightSuccessful leftKeeps
        rightKeeps apart leftReports rightReports,
      keepsScore_shared rightMember leftMember rightSuccessful leftSuccessful rightKeeps
        leftKeeps apart.symm rightReports leftReports⟩
  · intro id member successful zeroed
    rcases settledHotkeyNode_cases runtime member successful with
      ⟨keeps, -⟩ | ⟨-, gpuUuid, loss, zeroedAs⟩
    · rw [(survives member).mpr ⟨successful, keeps⟩] at zeroed
      cases zeroed
    · have reports := ((loses_iff ..).mp loss).2.1
      rcases exists_keptCopy runtime fleet.nodes reports with ⟨kept, keeps⟩
      refine ⟨gpuUuid, kept, reports, keptCopy_mem keeps, fun copy => keptCopy_le keeps, ?_,
        fun whole => keptSurvives whole keeps⟩
      rw [value member, zeroedAs, aliasOf, keeps]
      rfl
  · intro whole gpuUuid id reports
    rcases exists_keptCopy runtime fleet.nodes reports with ⟨kept, keeps⟩
    exact ⟨kept, keptCopy_mem keeps, keptSurvives whole keeps⟩

section Sample

def reporting (uuid : String) (gpus : List String) : ValidatedNode :=
  { Sample.idle with
    executorInfo := Sample.executor uuid
    spec := some [("gpu", .dict [("details",
      .list (gpus.map fun gpuUuid => .dict [("uuid", .str gpuUuid)]))])] }

def overlapping : Fleet :=
  .ofMiner "miner" 3 fun id =>
    match id with
    | 0 => reporting "a" ["GPU-1", "GPU-2"]
    | 1 => reporting "b" ["GPU-2", "GPU-3"]
    | _ => reporting "c" ["GPU-3"]

def overlappingSettled : Fleet := Raising.left (keepOneExecutorPerGpu Sample.runtime overlapping)

theorem overlapping_returns :
    keepOneExecutorPerGpu Sample.runtime overlapping = .ok overlappingSettled :=
  Raising.eq_ok_left (by decide +kernel)

theorem overlapping_guarantees :
    keepOneExecutorPerGpu Sample.runtime overlapping = .ok overlappingSettled ∧
      ∃ gpuUuid, ∃ kept, overlappingSettled.nodes 2 = zeroScore (overlapping.nodes 2)
        (gpuAliasEvent "miner" gpuUuid (overlapping.nodes 2) (overlapping.nodes kept)) := by
  refine ⟨overlapping_returns, ?_⟩
  have guarantees := keepOneExecutorPerGpu_guarantees Sample.runtime overlapping_returns
    (List.mem_singleton.mpr (Eq.refl ("miner", List.range 3)))
  rcases guarantees.2.2.2.1 2 (by decide) (by decide +kernel) (by decide +kernel) with
    ⟨gpuUuid, kept, -, -, -, zeroed, -⟩
  exact ⟨gpuUuid, kept, zeroed⟩

theorem overlapping_leaves_gpu_unpaid :
    keepOneExecutorPerGpu Sample.runtime overlapping = .ok overlappingSettled ∧
      2 ∈ reporters Sample.runtime overlapping.nodes [0, 1, 2] "GPU-3" ∧
      (∀ id ∈ reporters Sample.runtime overlapping.nodes [0, 1, 2] "GPU-3",
        (overlappingSettled.nodes id).isSuccessful = false) ∧
      (overlappingSettled.nodes 2).validationEvent =
        some (gpuAliasEvent "miner" "GPU-3" (overlapping.nodes 2) (overlapping.nodes 1)) ∧
      (∀ id ∈ [0, 1, 2], (overlapping.nodes id).executorInfo.uuid = "b" →
        (overlappingSettled.nodes id).isSuccessful = false) :=
  ⟨overlapping_returns, by decide +kernel, by decide +kernel, by decide +kernel,
    by decide +kernel⟩

end Sample

end Lium.DuplicateExecutor
