import Lium.Incentive.Expansion
import Lium.Incentive.PoolTotals
import Lium.Incentive.Preparation

/-! # The phases of a run

Preparing a result reads nothing but the result, so the pre-pass completes exactly when
every portion can be prepared, and then the whole run is a total function of the fleet.
`finalState` is that function.
-/

namespace Lium.RentalPrice

open Raising Scoring

variable (env : Env) (fleet : Fleet)

theorem preProcessJobResult_cellStep :
    CellStep (preProcessJobResult env) IncentiveState.heap Prod.snd
      (fun item result => prepareJobResult env (markHotkeyExcluded env item.1 result))
      commitPrepared where
  completes := by
    intro item state content processed
    simp only [preProcessJobResult, processed]
  raises := by
    intro item state cause processed
    simp only [preProcessJobResult, processed]
    exact ⟨_, rfl⟩
  writes := fun _ _ _ => rfl

theorem portion_unscored (hotkey : String) (ref : ResultRef) :
    Unscored (markHotkeyExcluded env hotkey (fleet.portion ref)) := by
  obtain ⟨node, isRemainder, equal⟩ := fleet.portion_fresh ref
  rw [equal]
  exact ⟨rfl, rfl, rfl, rfl⟩

def preparation (item : String × ResultRef) : Raising PyError JobResult JobResult :=
  prepareJobResult env (markHotkeyExcluded env item.1 (fleet.portion item.2))

def prepared (item : String × ResultRef) : JobResult := (preparation env fleet item).left

def Completes : Prop := ∀ item ∈ fleet.scored, ∃ result, preparation env fleet item = .ok result

variable {item : String × ResultRef}

variable {env fleet} in
theorem Completes.preparation_eq (completes : Completes env fleet) (member : item ∈ fleet.scored) :
    preparation env fleet item = .ok (prepared env fleet item) := by
  obtain ⟨result, returned⟩ := completes item member
  rw [prepared, returned, left_ok]

/-! ## The state after each phase -/

def preparedState : IncentiveState :=
  fleet.scored.foldl (fun state item => commitPrepared item (prepared env fleet item) state)
    (scoringStart fleet)

def settledState : IncentiveState := onFinishPreProcess env (preparedState env fleet)

def paidState : IncentiveState :=
  fleet.scored.foldl (postProcessJobResult env) (settledState env fleet)

def finalState : IncentiveState := mergedState fleet.splitPortions (paidState env fleet)

theorem foldl_commitPrepared (items : List (String × ResultRef))
    (content : String × ResultRef → JobResult) (state : IncentiveState) :
    items.foldl (fun state item => commitPrepared item (content item) state) state =
      { state with
        heap := updateEach Prod.snd (fun item _ => content item) items state.heap
        pools := countAll items content state.pools } := by
  induction items generalizing state with
  | nil => rfl
  | cons item rest induction => rw [List.foldl_cons, induction]; rfl

theorem preparedState_eq :
    preparedState env fleet =
      { scoringStart fleet with
        heap := updateEach Prod.snd (fun item _ => prepared env fleet item) fleet.scored
          (scoringStart fleet).heap
        pools := countAll fleet.scored (prepared env fleet) {} } :=
  foldl_commitPrepared _ _ _

theorem preparedState_heap (member : item ∈ fleet.scored) :
    (preparedState env fleet).heap item.2 = prepared env fleet item := by
  rw [preparedState_eq]
  exact updateEach_of_mem (fun item _ => prepared env fleet item) _ fleet.scored_nodup member

theorem onFinishPreProcess_jobResults (state : IncentiveState) :
    (onFinishPreProcess env state).jobResults = state.jobResults := by
  have reassigned : ∀ (candidates : List (String × ResultRef)) (start : IncentiveState),
      (candidates.foldl (reassignSplitCandidate env) start).jobResults = start.jobResults := by
    intro candidates
    induction candidates with
    | nil => exact fun _ => rfl
    | cons candidate rest induction =>
      intro start
      rw [List.foldl_cons, induction]
      simp only [reassignSplitCandidate]
      split <;> rfl
  exact reassigned _ _

theorem settledState_scoringOrder : (settledState env fleet).scoringOrder = fleet.scored := by
  unfold IncentiveState.scoringOrder
  rw [settledState, onFinishPreProcess_jobResults, preparedState_eq]
  exact scoringStart_scoringOrder fleet

theorem preparation_eq_prepareJobResult
    (member : item ∈ fleet.scored) :
    prepareJobResult env (markHotkeyExcluded env item.1 ((scoringStart fleet).heap item.2)) =
      preparation env fleet item := by
  rw [scoringStart_heap fleet member, preparation]

variable {env fleet} in
theorem Completes.prePass_eq (completes : Completes env fleet) :
    forEach (preProcessJobResult env) fleet.scored (scoringStart fleet) =
      .ok (preparedState env fleet) := by
  apply (preProcessJobResult_cellStep env).forEach_eq fleet.scored_nodup
  intro item member
  exact (preparation_eq_prepareJobResult env fleet member).trans
    (completes.preparation_eq member)

theorem calculateMiningScores_eq_ok_iff {final : IncentiveState} :
    calculateMiningScores env fleet = .ok final ↔
      Completes env fleet ∧ final = finalState env fleet := by
  simp only [calculateMiningScores, expandPartiallyRentedSplitResults_eq, scoreJobResults,
    bind_eq_ok_iff, scoringStart_scoringOrder]
  have merges := foldl_mergePortions fleet.splitPortions (splitPortions_nodup fleet)
  constructor
  · rintro ⟨paid, ⟨scored, prePassed, paidEq⟩, merged⟩
    have completes : Completes env fleet := by
      intro item member
      rw [← preparation_eq_prepareJobResult env fleet member]
      exact (preProcessJobResult_cellStep env).processed_of_forEach_ok fleet.scored_nodup
        prePassed item member
    refine ⟨completes, ?_⟩
    have ran := completes.prePass_eq
    rw [ran] at prePassed
    cases prePassed
    cases paidEq
    cases merged
    rw [merges, finalState]
    congr 1
    change (settledState env fleet).scoringOrder.foldl _ _ = _
    rw [settledState_scoringOrder]
    rfl
  · rintro ⟨completes, rfl⟩
    have ran := completes.prePass_eq
    refine ⟨paidState env fleet, ⟨preparedState env fleet, ran, ?_⟩, ?_⟩
    · change Except.ok ((settledState env fleet).scoringOrder.foldl _ _) = _
      rw [settledState_scoringOrder]
      rfl
    · rw [merges]
      rfl

end Lium.RentalPrice
