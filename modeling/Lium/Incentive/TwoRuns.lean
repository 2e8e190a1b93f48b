import Lium.Incentive.Reassignment

/-! # Two runs side by side

Reassignment reads a few fields of the candidates and the bucket counts. Two runs that
agree on these, through a view that hides the rest, stay in agreement.
-/

namespace Lium.RentalPrice

/-- A view of results that reassignment cannot tell from the results. -/
structure ReassignmentView (view : JobResult → JobResult) : Prop where
  move : ∀ config counts baseModel result,
    splitTierMove config counts baseModel (view result) =
      (splitTierMove config counts baseModel result).map view
  gpuCount : ∀ result, (view result).gpuCount = result.gpuCount
  countBucket : ∀ result, (view result).countBucket = result.countBucket
  uuid : ∀ result, (view result).executorInfo.uuid = result.executorInfo.uuid

structure Alike (view : JobResult → JobResult) (shared : ResultRef → Prop)
    (left right : IncentiveState) : Prop where
  heap : ∀ ref, shared ref → view (left.heap ref) = view (right.heap ref)
  counts : ∀ key, left.pools.unrentedCountByBucket.getD key 0 =
    right.pools.unrentedCountByBucket.getD key 0

section Simulation

variable {view : JobResult → JobResult} {shared : ResultRef → Prop} {left right : IncentiveState}

theorem reassignSplitCandidate_alike (env : Env) (isView : ReassignmentView view)
    (alike : Alike view shared left right) {candidate : String × ResultRef}
    (isShared : shared candidate.2) :
    Alike view shared (reassignSplitCandidate env left candidate)
      (reassignSplitCandidate env right candidate) := by
  rcases candidate with ⟨baseModel, ref⟩
  have sameResult := alike.heap ref isShared
  have sameGpus : (left.heap ref).gpuCount = (right.heap ref).gpuCount := by
    rw [← isView.gpuCount, sameResult, isView.gpuCount]
  have sameBucket : (left.heap ref).countBucket = (right.heap ref).countBucket := by
    rw [← isView.countBucket, sameResult, isView.countBucket]
  have sameMove : (splitTierMove env.config left.pools.unrentedCountByBucket baseModel
        (left.heap ref)).map view =
      (splitTierMove env.config right.pools.unrentedCountByBucket baseModel
        (right.heap ref)).map view := by
    rw [← isView.move, ← isView.move, sameResult]
    simp only [splitTierMove, alike.counts]
  simp only [reassignSplitCandidate]
  cases leftMove : splitTierMove env.config left.pools.unrentedCountByBucket baseModel
      (left.heap ref) with
  | none =>
    cases rightMove : splitTierMove env.config right.pools.unrentedCountByBucket baseModel
        (right.heap ref) with
    | none => exact alike
    | some moved =>
      rw [leftMove, rightMove] at sameMove
      cases sameMove
  | some leftMoved =>
    cases rightMove : splitTierMove env.config right.pools.unrentedCountByBucket baseModel
        (right.heap ref) with
    | none =>
      rw [leftMove, rightMove] at sameMove
      cases sameMove
    | some rightMoved =>
      rw [leftMove, rightMove] at sameMove
      have sameMoved : view leftMoved = view rightMoved := Option.some.inj sameMove
      have sameTarget : leftMoved.countBucket = rightMoved.countBucket := by
        rw [← isView.countBucket, sameMoved, isView.countBucket]
      constructor
      · intro other otherShared
        by_cases same : other = ref
        · subst same
          simpa [IncentiveState.write] using sameMoved
        · simpa [IncentiveState.write, Function.update_of_ne same] using
            alike.heap other otherShared
      · intro key
        simp only [movePools, PyDict.getD_set, alike.counts, sameGpus, sameBucket,
          sameTarget]

theorem foldl_reassignSplitCandidate_alike (env : Env) (isView : ReassignmentView view)
    (candidates : List (String × ResultRef))
    (allShared : ∀ candidate ∈ candidates, shared candidate.2)
    (alike : Alike view shared left right) :
    Alike view shared (candidates.foldl (reassignSplitCandidate env) left)
      (candidates.foldl (reassignSplitCandidate env) right) := by
  induction candidates generalizing left right with
  | nil => exact alike
  | cons candidate rest induction =>
    apply induction
    · exact fun other member => allShared other (List.mem_cons_of_mem candidate member)
    · exact reassignSplitCandidate_alike env isView alike
        (allShared candidate (List.mem_cons_self ..))

theorem reassignSplitCandidates_alike (env : Env) (isView : ReassignmentView view)
    (sameOrder : sortedByUuid left.heap left.pools.splitFallbackCandidates =
      sortedByUuid right.heap right.pools.splitFallbackCandidates)
    (allShared : ∀ candidate ∈ left.pools.splitFallbackCandidates, shared candidate.2)
    (alike : Alike view shared left right) :
    Alike view shared (reassignSplitCandidates env left)
      (reassignSplitCandidates env right) := by
  simp only [reassignSplitCandidates, ← sameOrder]
  apply foldl_reassignSplitCandidate_alike env isView _ _ alike
  intro candidate member
  exact allShared candidate ((sortedByUuid_perm _ _).mem_iff.mp member)

theorem sortedByUuid_congr {leftHeap rightHeap : ResultRef → JobResult}
    (candidates : List (String × ResultRef))
    (same : ∀ candidate ∈ candidates, (leftHeap candidate.2).executorInfo.uuid =
      (rightHeap candidate.2).executorInfo.uuid) :
    sortedByUuid leftHeap candidates = sortedByUuid rightHeap candidates := by
  have mapped := List.map_insertionSort
    (fun left right : String × ResultRef =>
      (leftHeap left.2).executorInfo.uuid ≤ (leftHeap right.2).executorInfo.uuid)
    (fun left right : String × ResultRef =>
      (rightHeap left.2).executorInfo.uuid ≤ (rightHeap right.2).executorInfo.uuid)
    id candidates (by
      intro first firstMember second secondMember
      rw [same first firstMember, same second secondMember]
      exact Iff.rfl)
  rw [List.map_id, List.map_id] at mapped
  exact mapped

end Simulation

end Lium.RentalPrice
