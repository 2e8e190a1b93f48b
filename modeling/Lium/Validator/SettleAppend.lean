import Lium.Incentive.FleetAppend
import Lium.Validator.OneExecutorPerGpu
import Lium.Validator.OneMinerPerExecutor
import Lium.Validator.SettleCycle

/-! # Settling with one more result

A result that proves no endpoint and reports no GPU takes no part in the duplicate passes:
settling a fleet it was appended to is settling the fleet and appending it then.
-/

namespace Lium

variable (rentedExecutors : List (String × String)) {copy : String × ℕ} {runtime : PyRuntime}
  {fleet : Fleet} {node : ValidatedNode}

namespace Fleet

variable (fleet : Fleet) (hotkey : String) (node : ValidatedNode)

theorem mem_append_entries :
    copy ∈ (fleet.append hotkey node).entries ↔
      copy = (hotkey, fleet.freshId) ∨ copy ∈ fleet.entries := by
  rw [(fleet.append_entries_perm hotkey node).mem_iff, List.mem_cons]

theorem mem_ids_of_mem_entries (listed : copy ∈ fleet.entries) :
    copy.2 ∈ fleet.ids := by
  rw [← entries_map_snd]
  exact List.mem_map_of_mem listed

def listOf : List ℕ := fleet.lists.getD hotkey []

theorem mem_append_jobResults {entry : String × List ℕ}
    (member : entry ∈ (fleet.append hotkey node).jobResults) :
    (entry ∈ fleet.jobResults ∧ entry.1 ≠ hotkey) ∨
      entry = (hotkey, fleet.listOf hotkey ++ [fleet.freshId]) := by
  have value : (fleet.lists.set hotkey (fleet.listOf hotkey ++ [fleet.freshId])).get? entry.1 =
      some entry.2 := PyDict.get?_eq_some_of_mem _ member
  rw [PyDict.get?_set] at value
  by_cases same : entry.1 = hotkey
  · rw [if_pos same] at value
    exact .inr (Prod.ext same (Option.some.inj value).symm)
  · rw [if_neg same] at value
    exact .inl ⟨fleet.lists.mem_of_get? value, same⟩

theorem listOf_mem {id : ℕ} (member : id ∈ fleet.listOf hotkey) :
    (hotkey, fleet.listOf hotkey) ∈ fleet.jobResults := by
  rw [listOf, PyDict.getD] at member ⊢
  cases found : fleet.lists.get? hotkey with
  | none =>
    rw [found] at member
    cases member
  | some ids => exact fleet.lists.mem_of_get? found

theorem ids_append :
    ∀ id, id ∈ (fleet.append hotkey node).ids ↔ id = fleet.freshId ∨ id ∈ fleet.ids := by
  intro id
  have permuted := (fleet.append_entries_perm hotkey node).map Prod.snd
  rw [entries_map_snd, List.map_cons, entries_map_snd] at permuted
  rw [permuted.mem_iff, List.mem_cons]

end Fleet

namespace DuplicateExecutor

structure Silent (runtime : PyRuntime) (node : ValidatedNode) : Prop where
  notLoggedIn : ¬0 < node.executorInfo.sshPort
  noGpus : gpuUuids runtime node = .ok []

variable {rentalHotkeys : PyDict String String} (silent : Silent runtime node) (hotkey : String)

include silent

theorem Silent.uuidsOf_eq : uuidsOf runtime node = [] := by
  rw [uuidsOf, silent.noGpus]
  rfl

/-! ## The endpoint pass -/

theorem sameCopies_append : SameCopies runtime (fleet.append hotkey node) fleet where
  scored := by
    intro endpoint copy
    constructor
    · rintro ⟨listed, successful, loggedIn, reached⟩
      rcases (fleet.mem_append_entries hotkey node).mp listed with rfl | member
      · rw [fleet.append_nodes_freshId] at loggedIn
        exact absurd loggedIn silent.notLoggedIn
      · have same := fleet.append_nodes hotkey node (fleet.mem_ids_of_mem_entries member)
        rw [same] at successful loggedIn reached
        exact ⟨member, successful, loggedIn, reached⟩
    · rintro ⟨listed, successful, loggedIn, reached⟩
      have same := fleet.append_nodes hotkey node (fleet.mem_ids_of_mem_entries listed)
      rw [← same] at successful loggedIn reached
      exact ⟨(fleet.mem_append_entries hotkey node).mpr (.inr listed), successful, loggedIn,
        reached⟩
  nodes := fun scored => fleet.append_nodes hotkey node (fleet.mem_ids_of_mem_entries scored.listed)

theorem gpusReadable_append :
    GpusReadable runtime (fleet.append hotkey node) ↔ GpusReadable runtime fleet := by
  constructor
  · intro readable copy listed successful
    have same := fleet.append_nodes hotkey node (fleet.mem_ids_of_mem_entries listed)
    rw [← same] at successful ⊢
    exact readable copy ((fleet.mem_append_entries hotkey node).mpr (.inr listed)) successful
  · intro readable copy listed successful
    rcases (fleet.mem_append_entries hotkey node).mp listed with rfl | member
    · rw [fleet.append_nodes_freshId]
      exact ⟨[], silent.noGpus⟩
    · rw [fleet.append_nodes hotkey node (fleet.mem_ids_of_mem_entries member)] at successful ⊢
      exact readable copy member successful

theorem minersSettled_append :
    minersSettled runtime rentalHotkeys (fleet.append hotkey node) =
      (minersSettled runtime rentalHotkeys fleet).append hotkey node := by
  have same : SameCopies runtime (fleet.append hotkey node) fleet := sameCopies_append silent hotkey
  have nodes : endpointsSettled runtime rentalHotkeys (fleet.append hotkey node) =
      Function.update (endpointsSettled runtime rentalHotkeys fleet) fleet.freshId node := by
    funext id
    by_cases fresh : id = fleet.freshId
    · subst fresh
      rw [Function.update_self, endpointsSettled_of_kept, fleet.append_nodes_freshId]
      intro endpoint copy displaced isFresh
      have listed := (same.scored.mp displaced.scored).listed
      exact fleet.freshId_not_mem (isFresh ▸ fleet.mem_ids_of_mem_entries listed)
    · rw [Function.update_of_ne fresh]
      exact same.endpointsSettled_eq (fleet.append_nodes_of_ne hotkey node fresh)
  rw [minersSettled, nodes]
  rfl

/-! ## The GPU pass -/

variable {nodes : ℕ → ValidatedNode} {fresh : ℕ}

section

variable (added : nodes fresh = node)
include added

theorem reportsOf_append
    (ids : List ℕ) :
    reportsOf runtime nodes (ids ++ [fresh]) = reportsOf runtime nodes ids ∨
      reportsOf runtime nodes (ids ++ [fresh]) = reportsOf runtime nodes ids ++ [(fresh, [])] := by
  rw [reportsOf, reportsOf, List.filter_append, List.map_append]
  cases successful : (nodes fresh).isSuccessful with
  | false => simp [successful]
  | true => simp [added, silent.uuidsOf_eq]

theorem gpusOf_append
    (ids : List ℕ) : gpusOf runtime nodes (ids ++ [fresh]) = gpusOf runtime nodes ids := by
  rw [gpusOf, gpusOf]
  rcases reportsOf_append silent added ids with same | extended
  · rw [same]
  · rw [extended, PyDict.groupBy, List.foldl_append]
    rfl

theorem reporters_append
    (ids : List ℕ) : reporters runtime nodes (ids ++ [fresh]) = reporters runtime nodes ids := by
  funext gpuUuid
  rw [reporters, reporters, List.filter_append, List.filter_append]
  have none : (([fresh].filter fun id => (nodes id).isSuccessful).filter fun id =>
      decide (gpuUuid ∈ uuidsOf runtime (nodes id))) = [] := by
    rw [List.filter_eq_nil_iff]
    intro id member
    have isFresh := List.mem_singleton.mp (List.mem_of_mem_filter member)
    rw [isFresh, added, silent.uuidsOf_eq]
    simp
  rw [none, List.append_nil]

theorem settledHotkeyNode_append (ids : List ℕ) (id : ℕ) :
    settledHotkeyNode runtime nodes (hotkey, ids ++ [fresh]) id =
      settledHotkeyNode runtime nodes (hotkey, ids) id := by
  rw [settledHotkeyNode, settledHotkeyNode, reporters_append silent added,
    gpusOf_append silent added]

end

theorem GpusSettled.append {settled : Fleet} (gpusSettled : GpusSettled runtime fleet settled) :
    GpusSettled runtime (fleet.append hotkey node) (settled.append hotkey node) := by
  have sameFresh : settled.freshId = fleet.freshId := by
    rw [gpusSettled.lists]
    rfl
  have agree : ∀ {entry : String × List ℕ}, entry ∈ fleet.jobResults → ∀ id ∈ entry.2,
      (fleet.append hotkey node).nodes id = fleet.nodes id := by
    intro entry listed id member
    exact fleet.append_nodes hotkey node (List.mem_flatMap.mpr ⟨entry, listed, member⟩)
  have later : ∀ {entry : String × List ℕ}, entry ∈ fleet.jobResults → ∀ id ∈ entry.2,
      (settled.append hotkey node).nodes id = settledHotkeyNode runtime fleet.nodes entry id := by
    intro entry listed id member
    have known : id ∈ fleet.ids := List.mem_flatMap.mpr ⟨entry, listed, member⟩
    have notFresh : id ≠ settled.freshId := by
      rintro rfl
      exact fleet.freshId_not_mem (sameFresh ▸ known)
    rw [settled.append_nodes_of_ne hotkey node notFresh]
    exact gpusSettled.listed entry listed id member
  refine ⟨?_, ?_, ?_⟩
  · rw [gpusSettled.lists]
    rfl
  · intro entry listed id member
    rcases fleet.mem_append_jobResults hotkey node listed with ⟨before, -⟩ | rfl
    · rw [later before id member, settledHotkeyNode_congr (agree before) member]
    · rw [settledHotkeyNode_append silent hotkey (fleet.append_nodes_freshId hotkey node)]
      rcases List.mem_append.mp member with before | fresh
      · have listed := fleet.listOf_mem hotkey before
        rw [later listed id before, settledHotkeyNode_congr (agree listed) before]
      · have isFresh := List.mem_singleton.mp fresh
        subst isFresh
        have notListed : fleet.freshId ∉ fleet.listOf hotkey := by
          intro member
          exact fleet.freshId_not_mem
            (List.mem_flatMap.mpr ⟨_, fleet.listOf_mem hotkey member, member⟩)
        rw [settledHotkeyNode_of_not_mem _ notListed, fleet.append_nodes_freshId, ← sameFresh,
          settled.append_nodes_freshId]
  · intro id other
    rw [fleet.ids_append, not_or] at other
    have notFresh : id ≠ settled.freshId := by
      rw [sameFresh]
      exact other.1
    rw [settled.append_nodes_of_ne hotkey node notFresh,
      fleet.append_nodes_of_ne hotkey node other.1]
    exact gpusSettled.unlisted id other.2

end DuplicateExecutor

/-! ## Both passes -/

open DuplicateExecutor

theorem settleDuplicates_of_readable (readable : GpusReadable runtime fleet) :
    GpusSettled runtime
      (minersSettled runtime (PyDict.ofList (rentedExecutors.map fun rented =>
        (runtime.lower rented.1, rented.2))) fleet)
      (settleDuplicates runtime rentedExecutors fleet) := by
  rw [settleDuplicates, keepOneMinerPerExecutor_eq_ok_iff.mpr ⟨readable, rfl⟩]
  generalize PyDict.ofList (rentedExecutors.map fun rented =>
    (runtime.lower rented.1, rented.2)) = rentalHotkeys
  have settledReadable : GpusReadable runtime (minersSettled runtime rentalHotkeys fleet) :=
    gpusReadable_minersSettled readable
  have permuted := List.perm_insertionSort (fun left right : String × List ℕ => left.1 ≤ right.1)
    (minersSettled runtime rentalHotkeys fleet).jobResults
  have nodup := (permuted.flatMap_right Prod.snd).nodup_iff.mpr
    (minersSettled runtime rentalHotkeys fleet).nodesNodup
  have returns : Raising.Succeeds (keepOneExecutorPerGpu runtime
      (minersSettled runtime rentalHotkeys fleet)) := by
    apply succeeds_forEach_settleHotkey nodup
    intro entry listed id member
    apply settledReadable (entry.1, id)
    rw [Fleet.entries, List.mem_flatMap]
    exact ⟨entry, permuted.mem_iff.mp listed, List.mem_map_of_mem member⟩
  rcases returns with ⟨settled, returned⟩
  simp only [returned, Raising.left_ok]
  exact gpusSettled_of_returned returned

theorem settleDuplicates_of_unreadable (unreadable : ¬GpusReadable runtime fleet) :
    settleDuplicates runtime rentedExecutors fleet = fleet := by
  rw [settleDuplicates]
  generalize PyDict.ofList (rentedExecutors.map fun rented =>
    (runtime.lower rented.1, rented.2)) = rentalHotkeys
  cases returned : keepOneMinerPerExecutor runtime rentalHotkeys fleet with
  | error cause => rfl
  | ok settled => exact absurd (keepOneMinerPerExecutor_eq_ok_iff.mp returned).1 unreadable

theorem settleDuplicates_lists (runtime : PyRuntime) (rentedExecutors : List (String × String))
    (fleet : Fleet) :
    settleDuplicates runtime rentedExecutors fleet =
      fleet.withNodes (settleDuplicates runtime rentedExecutors fleet).nodes := by
  by_cases readable : GpusReadable runtime fleet
  · exact (settleDuplicates_of_readable rentedExecutors readable).lists
  · rw [settleDuplicates_of_unreadable rentedExecutors readable]
    rfl

theorem settleDuplicates_of_unsuccessful {id : ℕ}
    (unsuccessful : (fleet.nodes id).isSuccessful = false) :
    (settleDuplicates runtime rentedExecutors fleet).nodes id = fleet.nodes id := by
  by_cases readable : GpusReadable runtime fleet
  · have gpusSettled := settleDuplicates_of_readable rentedExecutors readable
    generalize PyDict.ofList (rentedExecutors.map fun rented =>
      (runtime.lower rented.1, rented.2)) = rentalHotkeys at gpusSettled
    have undisplaced : (minersSettled runtime rentalHotkeys fleet).nodes id = fleet.nodes id := by
      apply endpointsSettled_of_kept
      intro endpoint copy displaced same
      have successful := displaced.scored.successful
      rw [same, unsuccessful] at successful
      exact Bool.false_ne_true successful
    by_cases listed : id ∈ (minersSettled runtime rentalHotkeys fleet).ids
    · rcases List.mem_flatMap.mp listed with ⟨entry, entryListed, member⟩
      rw [gpusSettled.listed entry entryListed id member, settledHotkeyNode_of_unsuccessful,
        undisplaced]
      rw [undisplaced]
      exact unsuccessful
    · rw [gpusSettled.unlisted id listed, undisplaced]
  · rw [settleDuplicates_of_unreadable rentedExecutors readable]

structure Demoted (original settled : ValidatedNode) : Prop where
  executorInfo : settled.executorInfo = original.executorInfo
  score : settled.score ≤ original.score

theorem settledHotkeyNode_demoted (runtime : PyRuntime) (nodes : ℕ → ValidatedNode)
    (entry : String × List ℕ) (id : ℕ) :
    Demoted (nodes id) (settledHotkeyNode runtime nodes entry id) := by
  rw [settledHotkeyNode, settledNode]
  cases List.find? _ _ with
  | none => exact ⟨rfl, le_rfl⟩
  | some gpuUuid => exact ⟨rfl, zero_le⟩

theorem settleDuplicates_demoted (runtime : PyRuntime)
    (rentedExecutors : List (String × String)) (fleet : Fleet) (id : ℕ) :
    Demoted (fleet.nodes id) ((settleDuplicates runtime rentedExecutors fleet).nodes id) := by
  by_cases readable : GpusReadable runtime fleet
  · have gpusSettled := settleDuplicates_of_readable rentedExecutors readable
    generalize PyDict.ofList (rentedExecutors.map fun rented =>
      (runtime.lower rented.1, rented.2)) = rentalHotkeys at gpusSettled
    have first : Demoted (fleet.nodes id) ((minersSettled runtime rentalHotkeys fleet).nodes id) := by
      by_cases displaced : ∃ endpoint copy,
          Displaced runtime rentalHotkeys fleet endpoint copy ∧ copy.2 = id
      · rcases displaced with ⟨endpoint, copy, displaced, rfl⟩
        rw [show (minersSettled runtime rentalHotkeys fleet).nodes copy.2 = _ from
          endpointsSettled_of_displaced displaced]
        exact ⟨rfl, zero_le⟩
      · rw [show (minersSettled runtime rentalHotkeys fleet).nodes id = fleet.nodes id from
          endpointsSettled_of_kept fun endpoint copy isDisplaced same =>
            displaced ⟨endpoint, copy, isDisplaced, same⟩]
        exact ⟨rfl, le_rfl⟩
    by_cases listed : id ∈ (minersSettled runtime rentalHotkeys fleet).ids
    · rcases List.mem_flatMap.mp listed with ⟨entry, entryListed, member⟩
      rw [gpusSettled.listed entry entryListed id member]
      have second := settledHotkeyNode_demoted runtime
        (minersSettled runtime rentalHotkeys fleet).nodes entry id
      exact ⟨second.executorInfo.trans first.executorInfo, second.score.trans first.score⟩
    · rw [gpusSettled.unlisted id listed]
      exact first
  · rw [settleDuplicates_of_unreadable rentedExecutors readable]
    exact ⟨rfl, le_rfl⟩

theorem settleDuplicates_append (fleet : Fleet) (hotkey : String) (silent : Silent runtime node) :
    settleDuplicates runtime rentedExecutors (fleet.append hotkey node) =
      (settleDuplicates runtime rentedExecutors fleet).append hotkey node := by
  by_cases readable : GpusReadable runtime fleet
  · have appended := settleDuplicates_of_readable rentedExecutors
      ((gpusReadable_append silent hotkey).mpr readable)
    rw [minersSettled_append silent hotkey] at appended
    exact appended.unique
      ((settleDuplicates_of_readable rentedExecutors readable).append silent hotkey)
  · rw [settleDuplicates_of_unreadable rentedExecutors readable, settleDuplicates_of_unreadable]
    rwa [gpusReadable_append silent hotkey]

theorem countGpusByModel_append (counts : JobResult → Bool) (fleet : Fleet) (hotkey : String)
    (node : ValidatedNode) (gpuModel : String) :
    (countGpusByModel counts (fleet.append hotkey node).results).getD gpuModel 0 =
      (countGpusByModel counts fleet.results).getD gpuModel 0 +
        if counts (.fresh node) ∧ node.gpuModel.getD "" = gpuModel then node.gpuCount else 0 := by
  have results : (fleet.append hotkey node).results.Perm (.fresh node :: fleet.results) := by
    rw [Fleet.results, Fleet.results]
    refine ((fleet.append_entries_perm hotkey node).map _).trans ?_
    rw [List.map_cons, fleet.append_nodes_freshId]
    apply List.Perm.of_eq
    congr 1
    apply List.map_congr_left
    intro copy listed
    rw [fleet.append_nodes hotkey node (fleet.mem_ids_of_mem_entries listed)]
  rw [countGpusByModel_getD, countGpusByModel_getD, (results.map _).sum_eq, List.map_cons,
    List.sum_cons, Nat.add_comm]
  rfl

end Lium
