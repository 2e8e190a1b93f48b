import Lium.Incentive.SplitRoundTrip

/-! # The published formula

A result publishes the scalars its incentive was computed from. Evaluating the formula of
their version on them gives the incentive back.
-/

namespace Lium

/-- The value of a published formula. A missing scalar counts as 0, and so does a quotient
by 0. -/
def FormulaInputs.value : FormulaInputs → ℚ
  | miningV1 inputs =>
    inputs.miningShare.getD 0 * inputs.miningScore.getD 0 / inputs.totalMiningScore.getD 0
  | rentalPriceV2 inputs =>
    let rentalTerm :=
      inputs.rentalShare.getD 0 * inputs.gpuCount * inputs.effectiveRate.getD 0 /
        inputs.totalRentalCost.getD 0
    match inputs.unbucketed with
    | none => rentalTerm
    | some unbucketed =>
      let unbucketedTerm :=
        unbucketed.unbucketedShare * inputs.gpuCount * unbucketed.floorTopUpRate.getD 0 /
          unbucketed.unbucketedRentalCost.getD 0
      if unbucketed.spotPay then unbucketedTerm else rentalTerm + unbucketedTerm
  | mixedV1 _ _ mining unrented => mining.value + unrented.value

def JobResult.Reproducible (result : JobResult) : Prop :=
  ∀ incentive, result.incentive = some incentive → incentive = result.incentiveFormulaInputs.value

namespace RentalPrice

open Raising Scoring

structure Unpublished (result : JobResult) : Prop where
  incentive : result.incentive = none
  unbucketedShare : result.unbucketedShare = none
  mixedFormulaInputs : result.mixedFormulaInputs = none

section Pay

variable {env : Env} {pools : Pools} {shares : Shares} {result : JobResult}

theorem unbucketedPay_eq_div (nonneg : 0 ≤ shares.unbucketedRentalCost) (gpuCount : ℕ)
    (rate : ℚ) :
    unbucketedPay shares gpuCount rate =
      shares.unbucketedShare * gpuCount * rate / shares.unbucketedRentalCost := by
  rw [unbucketedPay]
  split_ifs with zero
  · rw [le_antisymm zero nonneg, div_zero]
  · rfl

theorem spotAmounts_value (unbucketed_nonneg : 0 ≤ shares.unbucketedRentalCost)
    (spot : result.spotPayCandidate = true) (unpublished : Unpublished result) :
    (spotAmounts env shares result).incentive.getD 0 =
      (spotAmounts env shares result).incentiveFormulaInputs.value := by
  have mixed : (spotAmounts env shares result).mixedFormulaInputs = none :=
    unpublished.mixedFormulaInputs
  have isSpot : (spotAmounts env shares result).spotPayCandidate = true := spot
  have fromShare : (spotAmounts env shares result).paidFromRentalShare = true := by
    rw [JobResult.paidFromRentalShare, isSpot, Bool.or_true]
  rw [JobResult.incentiveFormulaInputs, mixed]
  simp only [fromShare, if_true, FormulaInputs.value, JobResult.rentalFormulaInputs,
    JobResult.unbucketedFormulaInputs, isSpot]
  exact unbucketedPay_eq_div unbucketed_nonneg _ _

theorem payMining_value (mining_nonneg : 0 ≤ pools.totalMiningScore)
    (fromShare : result.paidFromRentalShare = false) (unpublished : Unpublished result) :
    (payMining env pools result).incentive.getD 0 =
      (setCycleFormulaContext env shares
        (payMining env pools result)).incentiveFormulaInputs.value := by
  have kept : (payMining env pools result).mixedFormulaInputs = none ∧
      (payMining env pools result).paidFromRentalShare = false ∧
      (payMining env pools result).miningShare = some (miningShare env) ∧
      (payMining env pools result).totalMiningScore = some pools.totalMiningScore ∧
      (payMining env pools result).miningScore = result.miningScore := by
    simp only [payMining]
    split <;> exact ⟨unpublished.mixedFormulaInputs, fromShare, rfl, rfl, rfl⟩
  rcases kept with ⟨mixed, notShare, share, total, score⟩
  have inputs : (setCycleFormulaContext env shares
      (payMining env pools result)).incentiveFormulaInputs = .miningV1
        (setCycleFormulaContext env shares (payMining env pools result)).miningFormulaInputs := by
    rw [JobResult.incentiveFormulaInputs]
    simp only [setCycleFormulaContext, mixed]
    exact if_neg (Bool.eq_false_iff.mp notShare)
  rw [inputs, payMining_incentive mining_nonneg unpublished.incentive]
  change _ = (payMining env pools result).miningShare.getD 0 *
    (payMining env pools result).miningScore.getD 0 /
    (payMining env pools result).totalMiningScore.getD 0
  rw [share, score, total]
  cases result.miningScore <;> simp [proRata]

theorem rentalAmounts_value (cost_nonneg : 0 ≤ shares.totalRentalCost)
    (unbucketed_nonneg : 0 ≤ shares.unbucketedRentalCost)
    (spot : result.spotPayCandidate = false) (eligible : result.eligibleForRentalShare = true)
    (unpublished : Unpublished result) :
    (rentalAmounts env pools shares result).incentive.getD 0 =
      (rentalAmounts env pools shares result).incentiveFormulaInputs.value := by
  have kept : (rentalAmounts env pools shares result).mixedFormulaInputs = none ∧
      (rentalAmounts env pools shares result).paidFromRentalShare = true := by
    have fromShare : result.paidFromRentalShare = true := by
      rw [JobResult.paidFromRentalShare, eligible, Bool.true_or]
    simp only [rentalAmounts]
    split_ifs <;> exact ⟨unpublished.mixedFormulaInputs, fromShare⟩
  rw [JobResult.incentiveFormulaInputs, kept.1]
  simp only [kept.2, if_true, FormulaInputs.value, JobResult.rentalFormulaInputs,
    JobResult.unbucketedFormulaInputs, JobResult.cycleFormulaContext]
  simp only [rentalAmounts, ite_pos_div cost_nonneg, unbucketedPay_eq_div unbucketed_nonneg]
  split_ifs
  · simp [recordUnbucketed, setCycleFormulaContext, spot]
  · simp [setCycleFormulaContext, unpublished.unbucketedShare]

theorem payJobResult_value (unpublished : Unpublished result)
    (mining_nonneg : 0 ≤ pools.totalMiningScore) (cost_nonneg : 0 ≤ shares.totalRentalCost)
    (unbucketed_nonneg : 0 ≤ shares.unbucketedRentalCost) :
    (payJobResult env pools shares result).incentive.getD 0 =
      (payJobResult env pools shares result).incentiveFormulaInputs.value := by
  rcases payJobResult_eq_withReasons env pools shares result with ⟨reasons, equal⟩
  rw [equal]
  change (payAmounts env pools shares result).incentive.getD 0 =
    (payAmounts env pools shares result).incentiveFormulaInputs.value
  rw [payAmounts]
  cases spot : result.spotPayCandidate with
  | true =>
    rw [if_pos rfl]
    exact spotAmounts_value unbucketed_nonneg spot unpublished
  | false =>
    rw [if_neg Bool.false_ne_true]
    cases eligible : result.eligibleForRentalShare with
    | true =>
      exact rentalAmounts_value cost_nonneg unbucketed_nonneg spot eligible unpublished
    | false =>
      have notShare : result.paidFromRentalShare = false := by
        rw [JobResult.paidFromRentalShare, eligible, spot, Bool.or_false]
      exact payMining_value mining_nonneg notShare unpublished

theorem splitIncentiveAcrossPools_inputs (result : JobResult) :
    (splitIncentiveAcrossPools result).incentiveFormulaInputs = result.incentiveFormulaInputs := by
  simp only [splitIncentiveAcrossPools]
  split <;> rfl

end Pay

/-! ## The run -/

section Run

variable {env : Env} {fleet : Fleet}

theorem Completes.unpublished (completes : Completes env fleet) {item : String × ResultRef}
    (member : item ∈ fleet.scored) : Unpublished ((settledState env fleet).heap item.2) := by
  have settled := completes.settledResult member
  have prepared : Unpublished (prepared env fleet item) := by
    rcases fleet.portion_fresh item.2 with ⟨node, isRemainder, fresh⟩
    rw [← (prepared_preparedResult item).frame, fresh]
    exact ⟨rfl, rfl, rfl⟩
  constructor
  · rw [settled.kept (·.incentive) fun _ _ => rfl, prepared.incentive]
  · rw [settled.kept (·.unbucketedShare) fun _ _ => rfl, prepared.unbucketedShare]
  · rw [settled.kept (·.mixedFormulaInputs) fun _ _ => rfl, prepared.mixedFormulaInputs]

theorem Completes.paidState_value (completes : Completes env fleet) {item : String × ResultRef}
    (member : item ∈ fleet.scored) :
    ((paidState env fleet).heap item.2).incentive.getD 0 =
      ((paidState env fleet).heap item.2).incentiveFormulaInputs.value := by
  rcases completes.totals_nonneg with ⟨mining, cost, unbucketed⟩
  rw [paidState_heap env fleet member, splitIncentiveAcrossPools_incentive,
    splitIncentiveAcrossPools_inputs]
  exact payJobResult_value (completes.unpublished member) mining cost unbucketed

theorem Completes.final_value (completes : Completes env fleet) {entry : String × ℕ}
    (member : entry ∈ fleet.entries) :
    ((finalState env fleet).heap (.node entry.2)).incentive.getD 0 =
      ((finalState env fleet).heap (.node entry.2)).incentiveFormulaInputs.value := by
  have node := completes.paidState_value (fleet.mem_scored_node.mpr member)
  cases split : fleet.isPartiallyRentedSplit entry.2 with
  | false =>
    rw [mergedHeap_of_whole split]
    exact node
  | true =>
    have remainder := completes.paidState_value
      (fleet.mem_scored_remainder.mpr ⟨member, split⟩)
    rw [mergedHeap_of_split member split]
    exact congrArg₂ (· + ·) node remainder

end Run

/-- The published formula reproduces the incentive of every result in the lists. -/
theorem published_formula_reproduces_incentive (env : Env) (fleet : Fleet) :
    ∀ item ∈ (left (calculateMiningScores env fleet)).scoringOrder,
      ((left (calculateMiningScores env fleet)).heap item.2).Reproducible := by
  intro item listed incentive paid
  by_cases completes : Completes env fleet
  · have returned := (calculateMiningScores_eq_ok_iff env fleet).mpr ⟨completes, rfl⟩
    rw [returned, left_ok] at listed paid ⊢
    rw [finalState_scoringOrder] at listed
    rcases List.mem_map.mp listed with ⟨entry, member, rfl⟩
    rw [← completes.final_value member, paid, Option.getD_some]
  · -- a run that raises has paid nobody
    rw [left_of_raises completes] at listed paid
    rw [IncentiveState.scoringOrder, abandonedState_jobResults] at listed
    rcases fleet.portion_fresh item.2 with ⟨node, isRemainder, fresh⟩
    rw [← (abandonedState_prepared listed).frame, fresh] at paid
    cases paid

theorem sample_formula_reproduces_incentive :
    ∃ final, calculateMiningScores Sample.env Sample.fleet = .ok final ∧
      ∃ incentive, (final.heap (.node 2)).incentive = some incentive ∧
        incentive = (final.heap (.node 2)).incentiveFormulaInputs.value := by
  have completes : Completes Sample.env Sample.fleet := by
    rw [completes_iff]
    decide +kernel
  have returned := (calculateMiningScores_eq_ok_iff Sample.env Sample.fleet).mpr ⟨completes, rfl⟩
  have reproduces := published_formula_reproduces_incentive Sample.env Sample.fleet
    ("miner", .node 2)
  rw [returned, left_ok, finalState_scoringOrder] at reproduces
  have member : ("miner", 2) ∈ Sample.fleet.entries := by decide
  have paid := finalState_node_incentive Sample.env member
  have split : Sample.fleet.isPartiallyRentedSplit 2 = true := by decide +kernel
  rw [if_pos split] at paid
  exact ⟨_, returned, _, paid, reproduces (List.mem_map_of_mem member) _ paid⟩

end RentalPrice

end Lium
