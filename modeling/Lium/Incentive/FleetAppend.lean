import Lium.Foundation.Grouping
import Lium.Incentive.Run

/-! # One more result

A fleet with a result appended to a miner's list. A whole node is scored beside the others
and none of their portions changes.
-/

namespace Lium.Fleet

variable (fleet : Fleet) (hotkey : String) (node : ValidatedNode)

def lists : PyDict String (List ℕ) := ⟨fleet.jobResults, fleet.hotkeysNodup⟩

def freshId : ℕ := fleet.ids.sum + 1

theorem freshId_not_mem : fleet.freshId ∉ fleet.ids := by
  intro member
  have bound := List.le_sum_of_mem member
  simp only [freshId] at bound
  omega

theorem appended_entries_perm :
    ((fleet.lists.appendUnder fleet.freshId [hotkey]).entries).Perm
      ((hotkey, fleet.freshId) :: fleet.entries) :=
  PyDict.entries_setItem_perm hotkey fleet.freshId fleet.lists.items

/-- `job_results.setdefault(hotkey, []).append(result)`. -/
def append : Fleet where
  nodes := Function.update fleet.nodes fleet.freshId node
  jobResults := (fleet.lists.appendUnder fleet.freshId [hotkey]).items
  hotkeysNodup := (fleet.lists.appendUnder fleet.freshId [hotkey]).keysNodup
  nodesNodup := by
    have permuted := (fleet.appended_entries_perm hotkey).map Prod.snd
    rw [PyDict.entries, List.map_flatMap, List.map_cons, fleet.entries_map_snd] at permuted
    simp only [List.map_map, Function.comp_def, List.map_id'] at permuted
    rw [permuted.nodup_iff, List.nodup_cons]
    exact ⟨fleet.freshId_not_mem, fleet.nodesNodup⟩

theorem append_entries_perm :
    (fleet.append hotkey node).entries.Perm ((hotkey, fleet.freshId) :: fleet.entries) :=
  fleet.appended_entries_perm hotkey

@[simp] theorem append_nodes_freshId : (fleet.append hotkey node).nodes fleet.freshId = node :=
  Function.update_self ..

theorem append_nodes_of_ne {id : ℕ} (other : id ≠ fleet.freshId) :
    (fleet.append hotkey node).nodes id = fleet.nodes id :=
  Function.update_of_ne other ..

theorem append_nodes {id : ℕ} (member : id ∈ fleet.ids) :
    (fleet.append hotkey node).nodes id = fleet.nodes id := by
  apply append_nodes_of_ne
  rintro rfl
  exact fleet.freshId_not_mem member

theorem append_freeGpuCount {id : ℕ} (member : id ∈ fleet.ids) :
    (fleet.append hotkey node).freeGpuCount id = fleet.freeGpuCount id := by
  rw [freeGpuCount, freeGpuCount, fleet.append_nodes hotkey node member]

theorem append_portion {ref : ResultRef} (member : ref.id ∈ fleet.ids) :
    (fleet.append hotkey node).portion ref = fleet.portion ref := by
  have nodes := fleet.append_nodes hotkey node member
  have free := fleet.append_freeGpuCount hotkey node member
  cases ref with
  | node id =>
    simp only [ResultRef.id] at nodes free
    simp only [portion, nodes, free]
  | remainder id =>
    simp only [ResultRef.id] at nodes free
    simp only [portion, nodes, free]

section Whole

variable {node} (whole : RentalPrice.freeGpuCountOfPartiallyRentedSplit node = none)

include whole

theorem append_whole : (fleet.append hotkey node).freeGpuCount fleet.freshId = none := by
  rw [freeGpuCount, append_nodes_freshId, whole]

theorem append_portion_freshId :
    (fleet.append hotkey node).portion (.node fleet.freshId) = .fresh node := by
  have free := fleet.append_whole hotkey whole
  simp only [portion, free, append_nodes_freshId]

theorem append_scored_perm :
    (fleet.append hotkey node).scored.Perm
      ((hotkey, .node fleet.freshId) :: fleet.scored) := by
  have entries := fleet.append_entries_perm hotkey node
  have notSplit : (fleet.append hotkey node).isPartiallyRentedSplit fleet.freshId = false := by
    rw [isPartiallyRentedSplit, fleet.append_whole hotkey whole, Option.isSome_none]
  have splits : (((hotkey, fleet.freshId) :: fleet.entries).filter fun entry =>
      (fleet.append hotkey node).isPartiallyRentedSplit entry.2) =
      fleet.entries.filter fun entry => fleet.isPartiallyRentedSplit entry.2 := by
    rw [List.filter_cons_of_neg (by simp [notSplit])]
    apply List.filter_congr
    intro entry member
    have listed : entry.2 ∈ fleet.ids := by
      rw [← fleet.entries_map_snd]
      exact List.mem_map_of_mem member
    rw [isPartiallyRentedSplit, isPartiallyRentedSplit,
      fleet.append_freeGpuCount hotkey node listed]
  refine (fleet.append hotkey node).scored_perm.trans ?_
  refine ((entries.map _).append ((entries.filter _).map _)).trans ?_
  rw [splits, List.map_cons, List.cons_append]
  exact fleet.scored_perm.symm.cons _

end Whole

end Lium.Fleet
