import Lium.Incentive.Exclusion
import Lium.Incentive.ReferralPool

/-! # Node rows behind a cycle's vector

The rows of a cycle's paid nodes add up to the miners' incentives. Burners and hotkeys that left
the list between scoring and the final weights are the exceptions.
-/

namespace Lium

structure NodeShare where
  executorId : String
  hotkey : String
  rented : ℚ
  idle : ℚ
  spot : Bool
  deriving DecidableEq

def NodeShare.amount (row : NodeShare) : ℚ := row.rented + row.idle

def nodeShareOf (minerHotkey : String) (result : JobResult) : Option NodeShare :=
  let rented := result.incentiveRented.getD 0
  let idle := result.incentiveIdle.getD 0
  if rented ≤ 0 ∧ idle ≤ 0 then none
  else some
    { executorId := result.executorInfo.uuid
      hotkey := minerHotkey
      rented
      idle
      spot := result.isSpot }

def cycleNodeShares (state : IncentiveState) : List NodeShare :=
  state.scoringOrder.filterMap fun item => nodeShareOf item.1 (state.heap item.2)

def reportedFor (rows : List NodeShare) (hotkey : String) : ℚ :=
  ((rows.filter (·.hotkey = hotkey)).map NodeShare.amount).sum

def JobResult.ReportsIncentive (result : JobResult) : Prop :=
  result.incentiveRented.getD 0 + result.incentiveIdle.getD 0 = result.incentive.getD 0

theorem reportedFor_nodeShareOf (minerHotkey : String) {result : JobResult}
    (reports : result.ReportsIncentive) (nonneg : 0 ≤ result.incentive.getD 0)
    (rows : List NodeShare) (hotkey : String) :
    reportedFor ((nodeShareOf minerHotkey result).toList ++ rows) hotkey =
      (if minerHotkey = hotkey then result.incentive.getD 0 else 0) + reportedFor rows hotkey := by
  simp only [nodeShareOf]
  split
  case isTrue unpriced =>
    have unpaid : result.incentive.getD 0 = 0 := by
      rw [JobResult.ReportsIncentive] at reports
      linarith [unpriced.1, unpriced.2]
    simp [unpaid]
  case isFalse =>
    by_cases own : minerHotkey = hotkey
    · simp [reportedFor, own, NodeShare.amount, reports.symm]
    · simp [reportedFor, own]

theorem reportedFor_cycleNodeShares {state : IncentiveState}
    (reports : ∀ item ∈ state.scoringOrder, (state.heap item.2).ReportsIncentive)
    (nonneg : ∀ item ∈ state.scoringOrder, 0 ≤ (state.heap item.2).incentive.getD 0)
    (hotkey : String) :
    reportedFor (cycleNodeShares state) hotkey =
      ((state.incentives.filter (·.1 = hotkey)).map Prod.snd).sum := by
  rw [cycleNodeShares, IncentiveState.incentives]
  generalize state.scoringOrder = items at reports nonneg
  induction items with
  | nil => rfl
  | cons item rest induction =>
    rw [List.forall_mem_cons] at reports nonneg
    have row := reportedFor_nodeShareOf item.1 reports.1 nonneg.1
      (rest.filterMap fun item => nodeShareOf item.1 (state.heap item.2)) hotkey
    have split : ((item :: rest).filterMap fun item => nodeShareOf item.1 (state.heap item.2)) =
        (nodeShareOf item.1 (state.heap item.2)).toList ++
          rest.filterMap fun item => nodeShareOf item.1 (state.heap item.2) := by
      rw [List.filterMap_cons]
      cases nodeShareOf item.1 (state.heap item.2) <;> rfl
    rw [split, row, induction reports.2 nonneg.2, List.map_cons]
    by_cases own : item.1 = hotkey
    · simp [own]
    · simp [own]

namespace RentalPrice

open Raising Scoring

section Completed

variable {env : Env} {fleet : Fleet}

theorem payJobResult_parts (env : Env) (pools : Pools) (shares : Shares) (result : JobResult) :
    (payJobResult env pools shares result).incentiveRented = result.incentiveRented ∧
      (payJobResult env pools shares result).incentiveIdle = result.incentiveIdle := by
  rcases payJobResult_eq_withReasons env pools shares result with ⟨reasons, equal⟩
  rw [equal]
  simp only [payAmounts]
  split_ifs
  · exact ⟨rfl, rfl⟩
  · simp only [payMining]
    split <;> exact ⟨rfl, rfl⟩
  · simp only [rentalAmounts]
    split_ifs <;> exact ⟨rfl, rfl⟩

theorem setIncentiveSplit_reportsIncentive (result : JobResult) (rented idle : ℚ) :
    (result.setIncentiveSplit rented idle).ReportsIncentive := rfl

theorem Completes.paid_reportsIncentive (completes : Completes env fleet)
    {item : String × ResultRef} (member : item ∈ fleet.scored) :
    (splitIncentiveAcrossPools (paid env fleet item)).ReportsIncentive := by
  cases unpaid : (paid env fleet item).incentive with
  | some amount =>
    simp only [splitIncentiveAcrossPools, unpaid]
    exact setIncentiveSplit_reportsIncentive _ _ _
  | none =>
    -- nothing before the post-pass writes the two parts
    have parts := payJobResult_parts env (settledState env fleet).pools
      (settledState env fleet).shares ((settledState env fleet).heap item.2)
    have settled := completes.settledResult member
    have rented := settled.kept (·.incentiveRented) fun _ _ => rfl
    have idle := settled.kept (·.incentiveIdle) fun _ _ => rfl
    rcases fleet.portion_fresh item.2 with ⟨node, isRemainder, fresh⟩
    rw [← (prepared_preparedResult item).frame, fresh] at rented idle
    have noRented : (paid env fleet item).incentiveRented = none := parts.1.trans rented
    have noIdle : (paid env fleet item).incentiveIdle = none := parts.2.trans idle
    simp only [splitIncentiveAcrossPools, unpaid, JobResult.ReportsIncentive, noRented, noIdle]
    exact add_zero 0

theorem Completes.final_reportsIncentive (completes : Completes env fleet) {entry : String × ℕ}
    (member : entry ∈ fleet.entries) :
    ((finalState env fleet).heap (.node entry.2)).ReportsIncentive := by
  cases split : fleet.isPartiallyRentedSplit entry.2 with
  | true =>
    rw [mergedHeap_of_split member split]
    exact setIncentiveSplit_reportsIncentive _ _ _
  | false =>
    have scored := fleet.mem_scored_node.mpr member
    have stored := paidState_heap env fleet scored
    rw [mergedHeap_of_whole split]
    dsimp only at stored
    rw [stored]
    exact completes.paid_reportsIncentive scored

theorem Completes.reportedFor_eq (completes : Completes env fleet) (hotkey : String) :
    reportedFor (cycleNodeShares (finalState env fleet)) hotkey =
      (finalState env fleet).minerIncentives.getD hotkey 0 := by
  have conserved := completes.emissionConserved
  rw [conserved.minerIncentives_eq]
  apply reportedFor_cycleNodeShares
  · intro item listed
    rw [finalState_scoringOrder] at listed
    rcases List.mem_map.mp listed with ⟨entry, member, rfl⟩
    exact completes.final_reportsIncentive member
  · intro item listed
    cases paid : ((finalState env fleet).heap item.2).incentive with
    | none => exact le_refl 0
    | some incentive => exact conserved.incentive_nonneg item listed incentive paid

end Completed

end RentalPrice

/-! ## The vector reported with the rows -/

def WeightSettings.inEnv (settings : WeightSettings) (env : Env) : WeightSettings :=
  { settings with scoringExcludedHotkeys := env.getScoringExcludedHotkeys }

namespace IncentiveState

variable (state : IncentiveState) (settings : WeightSettings) (miners : List Neuron)

def burnScores : PyDict String ℚ :=
  BurnService.calculateBurnScores settings miners state.shares.burnShare

def cycleScores (ema : PyDict String ℚ) : PyDict String ℚ :=
  FinalWeights.calculateFinalWeights settings ema state.minerIncentives state.shares.burnShare
    miners

end IncentiveState

/-- How the rows of a cycle are contained in the vector reported with them. -/
structure RowsBacked (state : IncentiveState) (settings : WeightSettings) (miners : List Neuron)
    (ema : PyDict String ℚ) : Prop where
  /-- A row's hotkey has an entry exactly if the miners list still holds it. -/
  entry : ∀ row ∈ cycleNodeShares state, row.hotkey ∈ (state.cycleScores settings miners ema).keys ↔
    row.hotkey ∈ miners.map Neuron.hotkey
  contained : ∀ hotkey ∈ miners.map Neuron.hotkey,
    hotkey ∉ (state.burnScores settings miners).keys →
      reportedFor (cycleNodeShares state) hotkey ≤
        (state.cycleScores settings miners ema).getD hotkey 0
  exact : ∀ hotkey ∈ miners.map Neuron.hotkey,
    hotkey ∉ (state.burnScores settings miners).keys →
    hotkey ∉ (FinalWeights.eligibleReferrers settings (state.burnScores settings miners) miners
      ema).keys →
      reportedFor (cycleNodeShares state) hotkey =
        (state.cycleScores settings miners ema).getD hotkey 0
  /-- A burner's rows are not part of its entry. -/
  burner : ∀ hotkey score, (state.burnScores settings miners).get? hotkey = some score →
    (state.cycleScores settings miners ema).getD hotkey 0 ≤ score

namespace RentalPrice

variable {env : Env} {fleet : Fleet}

theorem Completes.rowsBacked (completes : Completes env fleet) (settings : WeightSettings)
    (miners : List Neuron) (ema : PyDict String ℚ) :
    RowsBacked (finalState env fleet) (settings.inEnv env) miners ema := by
  have incentives : FinalWeights.Nonneg (finalState env fleet).minerIncentives :=
    completes.minerIncentives_nonneg
  have unpaid : ∀ hotkey ∈ (settings.inEnv env).scoringExcludedHotkeys,
      (finalState env fleet).minerIncentives.getD hotkey 0 = 0 :=
    fun _ => completes.minerIncentives_of_excluded
  have burn_nonneg := completes.emissionConserved.burnShare_nonneg
  have settled := FinalWeights.calculateFinalWeights_weightsSettled (settings.inEnv env) ema miners
    incentives burn_nonneg
  have exact : ∀ hotkey ∈ miners.map Neuron.hotkey,
      hotkey ∉ ((finalState env fleet).burnScores (settings.inEnv env) miners).keys →
      hotkey ∉ (FinalWeights.eligibleReferrers (settings.inEnv env)
        ((finalState env fleet).burnScores (settings.inEnv env) miners) miners ema).keys →
        reportedFor (cycleNodeShares (finalState env fleet)) hotkey =
          ((finalState env fleet).cycleScores (settings.inEnv env) miners ema).getD hotkey 0 := by
    intro hotkey listed miner unreferred
    rw [completes.reportedFor_eq]
    by_cases excluded : hotkey ∈ (settings.inEnv env).scoringExcludedHotkeys
    · rw [unpaid hotkey excluded]
      exact (settled.excluded hotkey excluded miner).symm
    · exact (settled.earned hotkey listed miner excluded unreferred).symm
  constructor
  case entry => exact fun row _ => settled.keys row.hotkey
  case contained =>
    intro hotkey listed miner
    by_cases referred : hotkey ∈ (FinalWeights.eligibleReferrers (settings.inEnv env)
        ((finalState env fleet).burnScores (settings.inEnv env) miners) miners ema).keys
    · rw [completes.reportedFor_eq]
      exact settled.referrers hotkey referred
    · exact (exact hotkey listed miner referred).le
  case exact => exact exact
  case burner =>
    intro hotkey score held
    exact FinalWeights.calculateFinalWeights_le_burnScore (settings.inEnv env) ema miners
      incentives burn_nonneg unpaid held

end RentalPrice

namespace Sample

def burnSettings : WeightSettings where
  newBurners := [47, 1, 1, 1, 1, 1, 1, 1, 1, 1]
  newBurnersNonempty := List.cons_ne_nil _ _
  burnerColdkeys := .ofList [(47, "payout")]
  scoringExcludedHotkeys := []
  referralEmissionShare := 0

def burningMiner : List Neuron := [⟨47, "miner", "payout"⟩]

theorem completes : RentalPrice.Completes env fleet :=
  (RentalPrice.completes_iff env fleet).mpr (by decide +kernel)

end Sample

/-- The rows of a scored cycle are contained in its vector, for every listed miner. -/
theorem cycleNodeShares_backed (env : Env) (fleet : Fleet) (final : IncentiveState)
    (returned : RentalPrice.calculateMiningScores env fleet = .ok final)
    (settings : WeightSettings) (miners : List Neuron) (ema : PyDict String ℚ) :
    RowsBacked final (settings.inEnv env) miners ema := by
  rcases (RentalPrice.calculateMiningScores_eq_ok_iff env fleet).mp returned with
    ⟨completes, rfl⟩
  exact completes.rowsBacked settings miners ema

theorem sample_rows_backed :
    ∃ final, RentalPrice.calculateMiningScores Sample.env Sample.fleet = .ok final ∧
      RowsBacked final (Sample.burnSettings.inEnv Sample.env) [⟨3, "miner", "cold"⟩] .empty := by
  have returned := (RentalPrice.calculateMiningScores_eq_ok_iff Sample.env Sample.fleet).mpr
    ⟨Sample.completes, rfl⟩
  exact ⟨_, returned, cycleNodeShares_backed _ _ _ returned _ _ _⟩

theorem departed_and_burner_rows_unbacked :
    ∃ final, RentalPrice.calculateMiningScores Sample.env Sample.fleet = .ok final ∧
      (∃ row ∈ cycleNodeShares final,
        row.hotkey ∉ (final.cycleScores (Sample.burnSettings.inEnv Sample.env) [] .empty).keys) ∧
      (final.cycleScores (Sample.burnSettings.inEnv Sample.env) Sample.burningMiner .empty).getD
          "miner" 0 <
        reportedFor (cycleNodeShares final) "miner" := by
  refine ⟨RentalPrice.finalState Sample.env Sample.fleet,
    (RentalPrice.calculateMiningScores_eq_ok_iff _ _).mpr ⟨Sample.completes, rfl⟩, ?_, ?_⟩
  · decide +kernel
  · decide +kernel

end Lium
