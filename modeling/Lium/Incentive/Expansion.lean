import Lium.Incentive.RentalPrice

/-! # Expanding and merging split nodes

The closed forms of the two loops around scoring. After the expansion every listed
result is a `Fleet.portion`, and the lists are `Fleet.expandedRefs`; the merge folds
each free portion back into its node and restores the lists.
-/

namespace Lium

def ResultRef.id : ResultRef → ℕ
  | node id => id
  | remainder id => id

variable {item : String × ResultRef}

namespace Fleet

variable (fleet : Fleet)

def ids : List ℕ := fleet.jobResults.flatMap Prod.snd

def freeGpuCount (id : ℕ) : Option ℕ :=
  RentalPrice.freeGpuCountOfPartiallyRentedSplit (fleet.nodes id)

def isPartiallyRentedSplit (id : ℕ) : Bool := (fleet.freeGpuCount id).isSome

def portion : ResultRef → JobResult
  | .node id =>
    match fleet.freeGpuCount id with
    | none => .fresh (fleet.nodes id)
    | some _ => RentalPrice.rentedPortion (.fresh (fleet.nodes id))
  | .remainder id =>
    match fleet.freeGpuCount id with
    | none => .fresh (fleet.nodes id)
    | some freeGpuCount => RentalPrice.freePortion (.fresh (fleet.nodes id)) freeGpuCount

theorem portion_of_whole {fleet : Fleet} {ref : ResultRef}
    (whole : fleet.freeGpuCount ref.id = none) : fleet.portion ref = fleet.result ref := by
  cases ref with
  | node id =>
    have whole : fleet.freeGpuCount id = none := whole
    simp [portion, result, whole]
  | remainder id =>
    have whole : fleet.freeGpuCount id = none := whole
    simp [portion, result, whole]

theorem portion_fresh (fleet : Fleet) (ref : ResultRef) :
    ∃ node isRemainder, fleet.portion ref =
      { JobResult.fresh node with isSplitRemainder := isRemainder } := by
  cases ref with
  | node id => cases free : fleet.freeGpuCount id <;> simp only [portion, free] <;> exact ⟨_, _, rfl⟩
  | remainder id =>
    cases free : fleet.freeGpuCount id <;> simp only [portion, free] <;> exact ⟨_, _, rfl⟩

def expandIds (ids : List ℕ) : List ResultRef :=
  ids.map .node ++ (ids.filter fleet.isPartiallyRentedSplit).map .remainder

def expandedRefs : List (String × List ResultRef) :=
  fleet.jobResults.map fun entry => (entry.1, fleet.expandIds entry.2)

def scored : List (String × ResultRef) :=
  fleet.expandedRefs.flatMap fun entry => entry.2.map (entry.1, ·)

def splitPortions : List SplitPortions :=
  (fleet.entries.filter fun entry => fleet.isPartiallyRentedSplit entry.2).map
    fun entry => ⟨entry.1, entry.2⟩

theorem entries_map_snd : fleet.entries.map Prod.snd = fleet.ids := by
  simp [entries, ids, List.map_flatMap, Function.comp_def]

variable {hotkey : String}

theorem mem_entries {id : ℕ} :
    (hotkey, id) ∈ fleet.entries ↔ ∃ ids, (hotkey, ids) ∈ fleet.jobResults ∧ id ∈ ids := by
  simp only [entries, List.mem_flatMap, List.mem_map, Prod.mk.injEq]
  constructor
  · rintro ⟨entry, member, other, otherMember, rfl, rfl⟩
    exact ⟨entry.2, member, otherMember⟩
  · rintro ⟨ids, member, idMember⟩
    exact ⟨(hotkey, ids), member, id, idMember, rfl, rfl⟩

theorem mem_scored_node {id : ℕ} :
    (hotkey, ResultRef.node id) ∈ fleet.scored ↔ (hotkey, id) ∈ fleet.entries := by
  rw [mem_entries]
  simp [scored, expandedRefs, expandIds]

theorem mem_scored_remainder {id : ℕ} :
    (hotkey, ResultRef.remainder id) ∈ fleet.scored ↔
      (hotkey, id) ∈ fleet.entries ∧ fleet.isPartiallyRentedSplit id = true := by
  rw [mem_entries]
  simp [scored, expandedRefs, expandIds]
  aesop

theorem mem_entries_of_mem_scored (member : item ∈ fleet.scored) :
    (item.1, item.2.id) ∈ fleet.entries := by
  obtain ⟨hotkey, ref⟩ := item
  cases ref with
  | node id => exact fleet.mem_scored_node.mp member
  | remainder id => exact (fleet.mem_scored_remainder.mp member).1

theorem id_mem_ids (member : item ∈ fleet.scored) :
    item.2.id ∈ fleet.ids := by
  rw [← entries_map_snd]
  exact List.mem_map_of_mem (f := Prod.snd) (fleet.mem_entries_of_mem_scored member)

theorem scored_perm :
    fleet.scored.Perm ((fleet.entries.map fun entry => (entry.1, ResultRef.node entry.2)) ++
      (fleet.entries.filter fun entry => fleet.isPartiallyRentedSplit entry.2).map
        fun entry => (entry.1, ResultRef.remainder entry.2)) := by
  have split := List.flatMap_append_perm fleet.jobResults
    (fun entry => entry.2.map fun id => (entry.1, ResultRef.node id))
    (fun entry => (entry.2.filter fleet.isPartiallyRentedSplit).map
      fun id => (entry.1, ResultRef.remainder id))
  convert split.symm using 2
  · simp [scored, expandedRefs, expandIds, List.flatMap_map, Function.comp_def]
  · simp [entries, List.map_flatMap, Function.comp_def]
  · simp [entries, List.filter_flatMap, List.map_flatMap, List.filter_map, Function.comp_def]

theorem entries_ids_nodup : (fleet.entries.map Prod.snd).Nodup := by
  rw [entries_map_snd]
  exact fleet.nodesNodup

theorem scored_nodup : (fleet.scored.map Prod.snd).Nodup := by
  have permuted := fleet.scored_perm.map Prod.snd
  rw [List.map_append, List.map_map, List.map_map] at permuted
  rw [permuted.nodup_iff, List.nodup_append]
  have nodup := fleet.entries_ids_nodup
  refine ⟨?_, ?_, ?_⟩
  · simpa [Function.comp_def] using nodup.map (f := ResultRef.node) fun _ _ equal => by
      cases equal; rfl
  · have filtered := nodup.sublist (List.Sublist.map Prod.snd
      (List.filter_sublist (p := fun entry => fleet.isPartiallyRentedSplit entry.2)))
    simpa [Function.comp_def] using filtered.map (f := ResultRef.remainder) fun _ _ equal => by
      cases equal; rfl
  · intro left leftMember right rightMember
    obtain ⟨_, -, rfl⟩ := List.mem_map.mp leftMember
    obtain ⟨_, -, rfl⟩ := List.mem_map.mp rightMember
    intro equal
    cases equal

theorem hotkey_unique {left right : String × ResultRef} (leftMember : left ∈ fleet.scored)
    (rightMember : right ∈ fleet.scored) (same : left.2 = right.2) : left = right :=
  List.inj_on_of_nodup_map fleet.scored_nodup leftMember rightMember same

end Fleet

namespace RentalPrice

variable (fleet : Fleet)

/-! ## The expansion loop -/

def appendRemainders (entries : List (String × ℕ))
    (jobResults : List (String × List ResultRef)) : List (String × List ResultRef) :=
  jobResults.map fun entry =>
    (entry.1, entry.2 ++ (entries.filter fun other =>
      other.1 = entry.1 && fleet.isPartiallyRentedSplit other.2).map fun other =>
        .remainder other.2)

def expandedState (entries : List (String × ℕ)) (state : IncentiveState) : IncentiveState :=
  { state with
    heap := fun ref =>
      if ref.id ∈ entries.map Prod.snd then fleet.portion ref else state.heap ref
    jobResults := appendRemainders fleet entries state.jobResults }

theorem appendRemainders_nil (jobResults : List (String × List ResultRef)) :
    appendRemainders fleet [] jobResults = jobResults := by
  simp [appendRemainders]

theorem appendRemainders_cons_whole {entry : String × ℕ} (rest : List (String × ℕ))
    (jobResults : List (String × List ResultRef))
    (whole : fleet.isPartiallyRentedSplit entry.2 = false) :
    appendRemainders fleet (entry :: rest) jobResults =
      appendRemainders fleet rest jobResults := by
  simp [appendRemainders, whole]

theorem appendRemainders_cons_split {entry : String × ℕ} (rest : List (String × ℕ))
    (jobResults : List (String × List ResultRef))
    (split : fleet.isPartiallyRentedSplit entry.2 = true) :
    appendRemainders fleet (entry :: rest) jobResults =
      appendRemainders fleet rest
        (modifyList entry.1 (· ++ [.remainder entry.2]) jobResults) := by
  simp only [appendRemainders, modifyList, List.map_map]
  apply List.map_congr_left
  intro listed _
  by_cases same : listed.1 = entry.1
  · simp [same, split]
  · have different : ¬entry.1 = listed.1 := fun equal => same equal.symm
    simp [same, different]

theorem expandResult_eq (state : IncentiveState) (portions : List SplitPortions)
    (entry : String × ℕ)
    (untouched : ∀ ref : ResultRef, ref.id = entry.2 → state.heap ref = fleet.result ref) :
    expandResult (state, portions) entry =
      (expandedState fleet [entry] state,
        portions ++ if fleet.isPartiallyRentedSplit entry.2 then [⟨entry.1, entry.2⟩] else []) := by
  obtain ⟨hotkey, id⟩ := entry
  have fresh : state.heap (.node id) = .fresh (fleet.nodes id) := untouched (.node id) rfl
  cases free : fleet.freeGpuCount id with
  | none =>
    have whole : fleet.isPartiallyRentedSplit id = false := by
      simp [Fleet.isPartiallyRentedSplit, free]
    have sameHeap : (fun ref : ResultRef => if ref.id = id then fleet.portion ref
        else state.heap ref) = state.heap := by
      funext ref
      split_ifs with isId
      · rw [untouched ref isId, Fleet.portion_of_whole (isId ▸ free)]
      · rfl
    have unfolded : expandResult (state, portions) (hotkey, id) = (state, portions) := by
      simp only [expandResult, fresh, JobResult.fresh]
      rw [show freeGpuCountOfPartiallyRentedSplit (fleet.nodes id) = none from free]
    rw [unfolded]
    simp [expandedState, whole, sameHeap, appendRemainders_cons_whole,
      appendRemainders_nil]
  | some freeGpuCount =>
    have split : fleet.isPartiallyRentedSplit id = true := by
      simp [Fleet.isPartiallyRentedSplit, free]
    simp only [expandResult, fresh, JobResult.fresh]
    rw [show freeGpuCountOfPartiallyRentedSplit (fleet.nodes id) = some freeGpuCount from free]
    simp only [expandedState, split, if_true, appendRemainders_cons_split,
      appendRemainders_nil, IncentiveState.write]
    congr 2
    funext ref
    by_cases isNode : ref = .node id
    · subst isNode
      simp [Fleet.portion, free, ResultRef.id, JobResult.fresh]
    · rw [Function.update_of_ne isNode]
      by_cases isRemainder : ref = .remainder id
      · subst isRemainder
        simp [Fleet.portion, free, ResultRef.id, JobResult.fresh]
      · rw [Function.update_of_ne isRemainder]
        have other : ref.id ∉ [id] := by
          cases ref <;> simp_all [ResultRef.id]
        simp [other]

theorem expandedState_cons (entry : String × ℕ) (rest : List (String × ℕ))
    (state : IncentiveState) :
    expandedState fleet rest (expandedState fleet [entry] state) =
      expandedState fleet (entry :: rest) state := by
  have heaps : ∀ ref : ResultRef,
      (if ref.id ∈ rest.map Prod.snd then fleet.portion ref
        else if ref.id ∈ [entry].map Prod.snd then fleet.portion ref else state.heap ref) =
      if ref.id ∈ (entry :: rest).map Prod.snd then fleet.portion ref else state.heap ref := by
    intro ref
    by_cases first : ref.id = entry.2 <;> by_cases later : ref.id ∈ rest.map Prod.snd <;>
      simp_all
  have lists : appendRemainders fleet rest (appendRemainders fleet [entry] state.jobResults) =
      appendRemainders fleet (entry :: rest) state.jobResults := by
    cases split : fleet.isPartiallyRentedSplit entry.2 with
    | false => rw [appendRemainders_cons_whole _ _ _ split, appendRemainders_nil,
        appendRemainders_cons_whole _ _ _ split]
    | true => rw [appendRemainders_cons_split _ _ _ split, appendRemainders_nil,
        appendRemainders_cons_split _ _ _ split]
  simp only [expandedState, lists, heaps]

theorem foldl_expandResult (entries : List (String × ℕ)) (nodup : (entries.map Prod.snd).Nodup)
    (state : IncentiveState) (portions : List SplitPortions)
    (untouched : ∀ ref : ResultRef, ref.id ∈ entries.map Prod.snd →
      state.heap ref = fleet.result ref) :
    entries.foldl expandResult (state, portions) =
      (expandedState fleet entries state,
        portions ++ (entries.filter fun entry => fleet.isPartiallyRentedSplit entry.2).map
          fun entry => ⟨entry.1, entry.2⟩) := by
  induction entries generalizing state portions with
  | nil => simp [expandedState, appendRemainders]
  | cons entry rest induction =>
    rw [List.map_cons, List.nodup_cons] at nodup
    have first : ∀ ref : ResultRef, ref.id = entry.2 → state.heap ref = fleet.result ref :=
      fun ref isEntry => untouched ref (isEntry ▸ List.mem_cons_self ..)
    rw [List.foldl_cons, expandResult_eq fleet state portions entry first,
      induction nodup.2, expandedState_cons, List.append_assoc]
    · congr 2
      cases split : fleet.isPartiallyRentedSplit entry.2 <;> simp [split]
    · intro ref later
      have other : ref.id ≠ entry.2 := fun equal => nodup.1 (equal ▸ later)
      simpa [expandedState, other] using untouched ref (List.mem_cons_of_mem _ later)

theorem entries_filter_hotkey {entry : String × List ℕ} (member : entry ∈ fleet.jobResults) :
    (fleet.entries.filter fun other => other.1 = entry.1) = entry.2.map (entry.1, ·) := by
  have nodup := fleet.hotkeysNodup
  unfold Fleet.entries
  revert member nodup
  induction fleet.jobResults with
  | nil => intro member; cases member
  | cons head rest induction =>
    intro member nodup
    rw [List.map_cons, List.nodup_cons] at nodup
    rw [List.flatMap_cons, List.filter_append]
    have none_of_other : ∀ {hotkey : String} {others : List (String × List ℕ)},
        hotkey ∉ others.map Prod.fst →
        ((others.flatMap fun other => other.2.map (other.1, ·)).filter
          fun other => other.1 = hotkey) = [] := by
      intro hotkey others absent
      rw [List.filter_eq_nil_iff]
      intro item itemMember same
      obtain ⟨other, otherMember, listed⟩ := List.mem_flatMap.mp itemMember
      obtain ⟨id, -, rfl⟩ := List.mem_map.mp listed
      exact absent (List.mem_map.mpr ⟨other, otherMember, by simpa using same⟩)
    rcases List.mem_cons.mp member with same | member
    · subst same
      rw [none_of_other nodup.1]
      simp [List.filter_map, Function.comp_def]
    · have different : ¬head.1 = entry.1 := fun equal =>
        nodup.1 (equal ▸ List.mem_map_of_mem member)
      rw [induction member nodup.2]
      simp [List.filter_map, Function.comp_def, different]

theorem appendRemainders_entries :
    appendRemainders fleet fleet.entries fleet.refs = fleet.expandedRefs := by
  unfold appendRemainders Fleet.refs Fleet.expandedRefs
  rw [List.map_map]
  apply List.map_congr_left
  intro entry member
  have own := entries_filter_hotkey fleet member
  simp only [Function.comp_apply, Fleet.expandIds]
  congr 2
  rw [show (fun other : String × ℕ => decide (other.1 = entry.1) &&
      fleet.isPartiallyRentedSplit other.2) = fun other =>
        fleet.isPartiallyRentedSplit other.2 && decide (other.1 = entry.1) from
      funext fun other => Bool.and_comm _ _, ← List.filter_filter, own, List.filter_map,
    List.map_map]
  rfl

def scoringStart : IncentiveState :=
  expandedState fleet fleet.entries (.start fleet)

theorem expandPartiallyRentedSplitResults_eq :
    expandPartiallyRentedSplitResults fleet (.start fleet) =
      (scoringStart fleet, fleet.splitPortions) :=
  foldl_expandResult fleet fleet.entries fleet.entries_ids_nodup (.start fleet) []
    fun _ _ => rfl

theorem scoringStart_jobResults : (scoringStart fleet).jobResults = fleet.expandedRefs :=
  appendRemainders_entries fleet

theorem scoringStart_scoringOrder : (scoringStart fleet).scoringOrder = fleet.scored := by
  unfold IncentiveState.scoringOrder Fleet.scored
  rw [scoringStart_jobResults]

theorem scoringStart_heap (member : item ∈ fleet.scored) :
    (scoringStart fleet).heap item.2 = fleet.portion item.2 := by
  have listed : item.2.id ∈ fleet.entries.map Prod.snd := by
    rw [fleet.entries_map_snd]
    exact fleet.id_mem_ids member
  exact if_pos listed

/-! ## The merge loop -/

def dropRemainders (portions : List SplitPortions)
    (jobResults : List (String × List ResultRef)) : List (String × List ResultRef) :=
  jobResults.map fun entry =>
    (entry.1, entry.2.filter fun ref =>
      portions.all fun split => split.hotkey ≠ entry.1 || ref ≠ .remainder split.id)

def mergedHeap (portions : List SplitPortions) (heap : ResultRef → JobResult) :
    ResultRef → JobResult
  | .node id =>
    if id ∈ portions.map SplitPortions.id then
      mergeResults (heap (.node id)) (heap (.remainder id))
    else heap (.node id)
  | .remainder id => heap (.remainder id)

def mergedState (portions : List SplitPortions) (state : IncentiveState) : IncentiveState :=
  { state with
    heap := mergedHeap portions state.heap
    jobResults := dropRemainders portions state.jobResults }

theorem dropRemainders_cons (split : SplitPortions) (rest : List SplitPortions)
    (jobResults : List (String × List ResultRef)) :
    dropRemainders rest
        (modifyList split.hotkey (·.filter (· ≠ .remainder split.id)) jobResults) =
      dropRemainders (split :: rest) jobResults := by
  simp only [dropRemainders, modifyList, List.map_map]
  apply List.map_congr_left
  intro entry _
  by_cases same : entry.1 = split.hotkey
  · simp [same, List.filter_filter, Bool.and_comm]
  · have different : ¬split.hotkey = entry.1 := fun equal => same equal.symm
    simp [same, different]

theorem foldl_mergePortions (portions : List SplitPortions)
    (nodup : (portions.map SplitPortions.id).Nodup) (state : IncentiveState) :
    portions.foldl mergePortions state = mergedState portions state := by
  induction portions generalizing state with
  | nil =>
    have sameHeap : mergedHeap [] state.heap = state.heap := by
      funext ref
      cases ref <;> simp [mergedHeap]
    simp [mergedState, dropRemainders, sameHeap]
  | cons split rest induction =>
    rw [List.map_cons, List.nodup_cons] at nodup
    rw [List.foldl_cons, induction nodup.2]
    unfold mergedState mergePortions IncentiveState.write
    simp only [dropRemainders_cons]
    congr 1
    funext ref
    cases ref with
    | remainder id => simp [mergedHeap]
    | node id =>
      by_cases same : id = split.id
      · subst same
        simp [mergedHeap, nodup.1]
      · simp [mergedHeap, same, Function.update_of_ne]

theorem splitPortions_nodup : (fleet.splitPortions.map SplitPortions.id).Nodup := by
  have filtered := fleet.entries_ids_nodup.sublist (List.Sublist.map Prod.snd
    (List.filter_sublist (p := fun entry => fleet.isPartiallyRentedSplit entry.2)))
  simpa [Fleet.splitPortions, Function.comp_def] using filtered

theorem mem_splitPortions {split : SplitPortions} :
    split ∈ fleet.splitPortions ↔
      (split.hotkey, split.id) ∈ fleet.entries ∧
        fleet.isPartiallyRentedSplit split.id = true := by
  simp only [Fleet.splitPortions, List.mem_map, List.mem_filter]
  constructor
  · rintro ⟨entry, member, rfl⟩
    exact member
  · intro member
    exact ⟨(split.hotkey, split.id), member, rfl⟩

theorem mem_splitPortions_ids {id : ℕ} :
    id ∈ fleet.splitPortions.map SplitPortions.id ↔
      id ∈ fleet.ids ∧ fleet.isPartiallyRentedSplit id = true := by
  rw [← fleet.entries_map_snd]
  simp only [List.mem_map, mem_splitPortions]
  constructor
  · rintro ⟨split, ⟨listed, isSplit⟩, rfl⟩
    exact ⟨⟨_, listed, rfl⟩, isSplit⟩
  · rintro ⟨⟨entry, listed, rfl⟩, isSplit⟩
    exact ⟨⟨entry.1, entry.2⟩, ⟨listed, isSplit⟩, rfl⟩

theorem dropRemainders_expandedRefs :
    dropRemainders fleet.splitPortions fleet.expandedRefs = fleet.refs := by
  unfold dropRemainders Fleet.expandedRefs Fleet.refs
  rw [List.map_map]
  apply List.map_congr_left
  intro entry member
  simp only [Function.comp_apply, Fleet.expandIds, List.filter_append]
  have nodesKept : ((entry.2.map ResultRef.node).filter fun ref =>
      fleet.splitPortions.all fun split =>
        split.hotkey ≠ entry.1 || ref ≠ .remainder split.id) = entry.2.map .node := by
    rw [List.filter_eq_self]
    intro ref listed
    obtain ⟨id, -, rfl⟩ := List.mem_map.mp listed
    simp
  have remaindersDropped :
      (((entry.2.filter fleet.isPartiallyRentedSplit).map ResultRef.remainder).filter
        fun ref => fleet.splitPortions.all fun split =>
          split.hotkey ≠ entry.1 || ref ≠ .remainder split.id) = [] := by
    rw [List.filter_eq_nil_iff]
    intro ref listed kept
    obtain ⟨id, idListed, rfl⟩ := List.mem_map.mp listed
    rw [List.mem_filter] at idListed
    have isPortion : ⟨entry.1, id⟩ ∈ fleet.splitPortions :=
      (mem_splitPortions fleet).mpr
        ⟨fleet.mem_entries.mpr ⟨entry.2, member, idListed.1⟩, idListed.2⟩
    simpa using List.all_eq_true.mp kept _ isPortion
  rw [nodesKept, remaindersDropped, List.append_nil]

end RentalPrice

end Lium
