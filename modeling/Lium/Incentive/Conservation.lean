import Lium.Incentive.Payment
import Lium.Incentive.Readability

/-! # Emission conservation

The shares partition the emission, and what the results are paid adds up to the shares
that have a claim on them, over the whole fleet and per miner.
-/

namespace Lium

def IncentiveState.incentives (state : IncentiveState) : List (String × ℚ) :=
  state.scoringOrder.map fun item => (item.1, (state.heap item.2).incentive.getD 0)

def payIf (total share : ℚ) : ℚ := if 0 < total then share else 0

structure EmissionConserved (env : Env) (state : IncentiveState) : Prop where
  rentalShare_nonneg : 0 ≤ state.shares.rentalShare
  unbucketedShare_nonneg : 0 ≤ state.shares.unbucketedShare
  burnShare_nonneg : 0 ≤ state.shares.burnShare
  shares_sum : RentalPrice.miningShare env + state.shares.rentalShare +
    state.shares.unbucketedShare + state.shares.burnShare = 1
  incentive_nonneg : ∀ item ∈ state.scoringOrder, ∀ incentive,
    (state.heap item.2).incentive = some incentive → 0 ≤ incentive
  incentive_sum : (state.incentives.map Prod.snd).sum =
    payIf state.pools.totalMiningScore (RentalPrice.miningShare env) +
      payIf state.shares.totalRentalCost state.shares.rentalShare +
      payIf state.shares.unbucketedRentalCost state.shares.unbucketedShare
  minerIncentives_eq : ∀ hotkey, state.minerIncentives.getD hotkey 0 =
    ((state.incentives.filter (·.1 = hotkey)).map Prod.snd).sum

namespace RentalPrice

open Raising Scoring CellSums

/-! ## The shares -/

theorem shareForRentalCost_nonneg (epochSubnetEmission : ℚ) {rentalCost : ℚ}
    (cost_nonneg : 0 ≤ rentalCost) : 0 ≤ shareForRentalCost epochSubnetEmission rentalCost := by
  unfold shareForRentalCost
  split_ifs with positive
  · exact le_rfl
  · have emission := not_le.mp positive
    have ratio : 0 < fixedRatio := by norm_num [fixedRatio]
    positivity

theorem settleShares_partition (env : Env) (seed : Option RentalPriceSnapshot) {shares : Shares}
    (cost_nonneg : 0 ≤ shares.totalRentalCost)
    (unbucketed_nonneg : 0 ≤ shares.unbucketedRentalCost) :
    let settled := settleShares env seed shares
    0 ≤ settled.rentalShare ∧ 0 ≤ settled.unbucketedShare ∧ 0 ≤ settled.burnShare ∧
      miningShare env + settled.rentalShare + settled.unbucketedShare + settled.burnShare = 1 := by
  have kept := settleShares_kept env seed shares
  have burn := env.shared.getTotalBurnEmission_mem
  have rentalRaw : 0 ≤ (settleShares env seed shares).rentalShareRaw := by
    change 0 ≤ if pricesMissing env seed then 0 else _
    split_ifs
    · exact le_rfl
    · apply shareForRentalCost_nonneg
      have cost := kept.2.1
      change (fetchPrices env seed shares).totalRentalCost = _ at cost
      rwa [cost]
  have unbucketedRaw : 0 ≤ (settleShares env seed shares).unbucketedShareRaw := by
    apply shareForRentalCost_nonneg
    have cost := kept.2.2
    change (fetchPrices env seed shares).unbucketedRentalCost = _ at cost
    rwa [cost]
  have rental : (settleShares env seed shares).rentalShare =
      min (settleShares env seed shares).rentalShareRaw env.shared.getTotalBurnEmission := rfl
  have unbucketed : (settleShares env seed shares).unbucketedShare =
      min (settleShares env seed shares).unbucketedShareRaw
        (max 0 (env.shared.getTotalBurnEmission - (settleShares env seed shares).rentalShare)) :=
    rfl
  have burned : (settleShares env seed shares).burnShare =
      env.shared.getTotalBurnEmission - (settleShares env seed shares).rentalShare -
        (settleShares env seed shares).unbucketedShare := rfl
  have capped : (settleShares env seed shares).rentalShare ≤ env.shared.getTotalBurnEmission :=
    rental ▸ min_le_right _ _
  have headroom : (settleShares env seed shares).unbucketedShare ≤
      env.shared.getTotalBurnEmission - (settleShares env seed shares).rentalShare := by
    rw [unbucketed, max_eq_right (sub_nonneg.mpr capped)]
    exact min_le_right _ _
  refine ⟨rental ▸ le_min rentalRaw burn.1, ?_, ?_, ?_⟩
  · exact unbucketed ▸ le_min unbucketedRaw (le_max_left _ _)
  · rw [burned]
    linarith
  · rw [burned, miningShare]
    ring

/-! ## The final state -/

section Phases

variable (env : Env) (fleet : Fleet)

theorem finalState_jobResults : (finalState env fleet).jobResults = fleet.refs := by
  change dropRemainders fleet.splitPortions (paidState env fleet).jobResults = _
  rw [paidState_eq]
  change dropRemainders fleet.splitPortions (settledState env fleet).jobResults = _
  rw [settledState, onFinishPreProcess_jobResults, preparedState_eq]
  change dropRemainders fleet.splitPortions (scoringStart fleet).jobResults = _
  rw [scoringStart_jobResults, dropRemainders_expandedRefs]

theorem finalState_scoringOrder :
    (finalState env fleet).scoringOrder =
      fleet.entries.map fun entry => (entry.1, ResultRef.node entry.2) := by
  rw [IncentiveState.scoringOrder, finalState_jobResults]
  simp [Fleet.refs, Fleet.entries, List.flatMap_map, List.map_flatMap, Function.comp_def]

theorem finalState_shares : (finalState env fleet).shares = (settledState env fleet).shares := by
  change (paidState env fleet).shares = _
  rw [paidState_eq]

theorem finalState_pools : (finalState env fleet).pools = (settledState env fleet).pools := by
  change (paidState env fleet).pools = _
  rw [paidState_eq]

def portionIncentive (item : String × ResultRef) : ℚ := (paid env fleet item).incentive.getD 0

theorem settledState_minerIncentives : (settledState env fleet).minerIncentives = .empty := by
  change (reassignedState env fleet).minerIncentives = _
  rw [reassignedState, reassignSplitCandidates_kept env (·.minerIncentives)
    (fun _ _ _ _ _ _ _ => rfl), preparedState_eq]
  rfl

theorem finalState_minerIncentives (hotkey : String) :
    (finalState env fleet).minerIncentives.getD hotkey 0 =
      ((fleet.scored.filter (·.1 = hotkey)).map (portionIncentive env fleet)).sum := by
  change (paidState env fleet).minerIncentives.getD hotkey 0 = _
  rw [paidState_eq, sum_filter_map]
  simp only [decide_eq_true_eq]
  refine (measure_foldl (fun incentives : PyDict String ℚ => incentives.getD hotkey 0)
    (fun item => if item.1 = hotkey then portionIncentive env fleet item else 0) ?_ _ _).trans ?_
  · intro incentives item
    rw [portionIncentive]
    cases (paid env fleet item).incentive with
    | none => simp [addMinerIncentive]
    | some amount => simp [addMinerIncentive, PyDict.getD_add, eq_comm]
  · rw [settledState_minerIncentives, PyDict.getD_empty, zero_add]

theorem splitIncentiveAcrossPools_incentive (result : JobResult) :
    (splitIncentiveAcrossPools result).incentive = result.incentive := by
  unfold splitIncentiveAcrossPools
  split
  · rfl
  · next incentive paid =>
      rw [paid]
      simp [JobResult.setIncentiveSplit]

variable {fleet} in
theorem finalState_node_incentive {entry : String × ℕ} (member : entry ∈ fleet.entries) :
    ((finalState env fleet).heap (.node entry.2)).incentive =
      if fleet.isPartiallyRentedSplit entry.2 then
        some (portionIncentive env fleet (entry.1, .node entry.2) +
          portionIncentive env fleet (entry.1, .remainder entry.2))
      else (paid env fleet (entry.1, .node entry.2)).incentive := by
  have node := paidState_heap env fleet (fleet.mem_scored_node.mpr member)
  have listed : entry.2 ∈ fleet.splitPortions.map SplitPortions.id ↔
      fleet.isPartiallyRentedSplit entry.2 = true := by
    rw [mem_splitPortions_ids]
    refine and_iff_right ?_
    rw [← fleet.entries_map_snd]
    exact List.mem_map_of_mem member
  change (mergedHeap fleet.splitPortions (paidState env fleet).heap (.node entry.2)).incentive = _
  simp only [mergedHeap, listed]
  split_ifs with split
  · have remainder := paidState_heap env fleet
      (fleet.mem_scored_remainder.mpr ⟨member, split⟩)
    dsimp only at node remainder
    rw [node, remainder]
    simp only [mergeResults, JobResult.setIncentiveSplit, splitIncentiveAcrossPools_incentive]
    rfl
  · dsimp only at node
    rw [node, splitIncentiveAcrossPools_incentive]

variable {fleet} in
theorem finalState_incentive {entry : String × ℕ} (member : entry ∈ fleet.entries) :
    ((finalState env fleet).heap (.node entry.2)).incentive.getD 0 =
      portionIncentive env fleet (entry.1, .node entry.2) +
        if fleet.isPartiallyRentedSplit entry.2 then
          portionIncentive env fleet (entry.1, .remainder entry.2)
        else 0 := by
  rw [finalState_node_incentive env member]
  split_ifs
  · rfl
  · rw [add_zero]
    rfl

theorem sum_finalState_incentives (keep : String → Bool) :
    (((finalState env fleet).incentives.filter fun entry => keep entry.1).map Prod.snd).sum =
      ((fleet.scored.filter fun item => keep item.1).map (portionIncentive env fleet)).sum := by
  have permuted := (fleet.scored_perm.map fun item =>
    if keep item.1 then portionIncentive env fleet item else 0).sum_eq
  rw [sum_filter_map, sum_filter_map, permuted, List.map_append, List.sum_append, List.map_map,
    List.map_map, sum_filter_map, ← List.sum_map_add, IncentiveState.incentives,
    finalState_scoringOrder, List.map_map, List.map_map]
  refine congrArg List.sum (List.map_congr_left ?_)
  intro entry member
  have merged := finalState_incentive env member
  simp only [Function.comp_apply, merged]
  split_ifs <;> simp

variable {env fleet}

theorem sumOver_nonneg {weight : JobResult → ℚ} {heap : ResultRef → JobResult}
    (nonneg : ∀ item ∈ fleet.scored, 0 ≤ weight (heap item.2)) :
    0 ≤ sumOver Prod.snd (fun _ => weight) fleet.scored heap := by
  apply List.sum_nonneg
  intro term listed
  obtain ⟨item, member, rfl⟩ := List.mem_map.mp listed
  exact nonneg item member

theorem Completes.totals_nonneg (completes : Completes env fleet) :
    0 ≤ (settledState env fleet).pools.totalMiningScore ∧
      0 ≤ (settledState env fleet).shares.totalRentalCost ∧
      0 ≤ (settledState env fleet).shares.unbucketedRentalCost := by
  rw [settledState_totalMiningScore completes, settledState_totalRentalCost completes,
    settledState_unbucketedRentalCost completes]
  refine ⟨sumOver_nonneg fun item member => ?_, sumOver_nonneg fun item member => ?_,
    sumOver_nonneg fun item member => ?_⟩
  · exact miningClaim_nonneg (completes.settledResult member).priced
  · exact bucketClaim_nonneg (completes.settledResult member).priced
      settledState_multiplier_nonneg
  · exact unbucketedClaim_nonneg (completes.settledResult member).priced

variable {item : String × ResultRef}

theorem Completes.unpaid (completes : Completes env fleet)
    (member : item ∈ fleet.scored) :
    ((settledState env fleet).heap item.2).incentive = none := by
  rw [(completes.settledResult member).kept (·.incentive) fun _ _ => rfl,
    ← (prepared_preparedResult item).frame]
  obtain ⟨node, isRemainder, equal⟩ := fleet.portion_fresh item.2
  rw [equal]
  rfl

theorem Completes.portionIncentive_eq (completes : Completes env fleet)
    (member : item ∈ fleet.scored) :
    portionIncentive env fleet item =
      proRata (miningShare env) (settledState env fleet).pools.totalMiningScore
          (miningClaim ((settledState env fleet).heap item.2)) +
        proRata (settledState env fleet).shares.rentalShare
          (settledState env fleet).shares.totalRentalCost
          (bucketClaim (multiplierIn (settledState env fleet).shares)
            ((settledState env fleet).heap item.2)) +
        proRata (settledState env fleet).shares.unbucketedShare
          (settledState env fleet).shares.unbucketedRentalCost
          (unbucketedClaim (multiplierIn (settledState env fleet).shares)
            ((settledState env fleet).heap item.2)) :=
  payJobResult_incentive (completes.settledResult member).priced (completes.unpaid member)
    completes.totals_nonneg.1 completes.totals_nonneg.2.1 completes.totals_nonneg.2.2

theorem Completes.shares_partition (completes : Completes env fleet) :
    0 ≤ (settledState env fleet).shares.rentalShare ∧
      0 ≤ (settledState env fleet).shares.unbucketedShare ∧
      0 ≤ (settledState env fleet).shares.burnShare ∧
      miningShare env + (settledState env fleet).shares.rentalShare +
        (settledState env fleet).shares.unbucketedShare +
        (settledState env fleet).shares.burnShare = 1 := by
  obtain ⟨-, cost, unbucketed⟩ := completes.totals_nonneg
  rw [settledState_shares, (settleShares_kept _ _ _).2.1] at cost
  rw [settledState_shares, (settleShares_kept _ _ _).2.2] at unbucketed
  exact settleShares_partition env _ cost unbucketed

theorem miningShare_nonneg (env : Env) : 0 ≤ miningShare env :=
  sub_nonneg.mpr env.shared.getTotalBurnEmission_mem.2

theorem Completes.portionIncentive_nonneg (completes : Completes env fleet)
    (member : item ∈ fleet.scored) :
    0 ≤ portionIncentive env fleet item := by
  obtain ⟨mining, cost, unbucketed⟩ := completes.totals_nonneg
  obtain ⟨rentalShare, unbucketedShare, -, -⟩ := completes.shares_partition
  have priced := (completes.settledResult member).priced
  rw [completes.portionIncentive_eq member]
  refine add_nonneg (add_nonneg ?_ ?_) ?_
  · exact proRata_nonneg (miningShare_nonneg env) mining (miningClaim_nonneg priced)
  · exact proRata_nonneg rentalShare cost
      (bucketClaim_nonneg priced settledState_multiplier_nonneg)
  · exact proRata_nonneg unbucketedShare unbucketed (unbucketedClaim_nonneg priced)

theorem Completes.sum_portionIncentive (completes : Completes env fleet) :
    (fleet.scored.map (portionIncentive env fleet)).sum =
      payIf (settledState env fleet).pools.totalMiningScore (miningShare env) +
        payIf (settledState env fleet).shares.totalRentalCost
          (settledState env fleet).shares.rentalShare +
        payIf (settledState env fleet).shares.unbucketedRentalCost
          (settledState env fleet).shares.unbucketedShare := by
  obtain ⟨mining, cost, unbucketed⟩ := completes.totals_nonneg
  rw [List.map_congr_left fun item member => completes.portionIncentive_eq member,
    List.sum_map_add, List.sum_map_add, sum_map_proRata, sum_map_proRata, sum_map_proRata]
  -- the claims of each kind add up to the total they are divided by
  rw [show (fleet.scored.map fun item => miningClaim ((settledState env fleet).heap item.2)).sum =
      _ from (settledState_totalMiningScore completes).symm,
    show (fleet.scored.map fun item => bucketClaim (multiplierIn (settledState env fleet).shares)
      ((settledState env fleet).heap item.2)).sum = _ from
        (settledState_totalRentalCost completes).symm,
    show (fleet.scored.map fun item => unbucketedClaim
      (multiplierIn (settledState env fleet).shares) ((settledState env fleet).heap item.2)).sum =
        _ from (settledState_unbucketedRentalCost completes).symm]
  rw [proRata_total mining, proRata_total cost, proRata_total unbucketed]
  rfl

theorem Completes.emissionConserved (completes : Completes env fleet) :
    EmissionConserved env (finalState env fleet) := by
  obtain ⟨rentalShare, unbucketedShare, burnShare, partition⟩ := completes.shares_partition
  constructor
  case rentalShare_nonneg => rwa [finalState_shares]
  case unbucketedShare_nonneg => rwa [finalState_shares]
  case burnShare_nonneg => rwa [finalState_shares]
  case shares_sum => rwa [finalState_shares]
  case incentive_nonneg =>
    intro item listed incentive paid
    rw [finalState_scoringOrder] at listed
    obtain ⟨entry, member, rfl⟩ := List.mem_map.mp listed
    have merged := finalState_incentive env member
    rw [paid, Option.getD_some] at merged
    rw [merged]
    apply add_nonneg
    · exact completes.portionIncentive_nonneg (fleet.mem_scored_node.mpr member)
    · split_ifs with split
      · exact completes.portionIncentive_nonneg
          (fleet.mem_scored_remainder.mpr ⟨member, split⟩)
      · exact le_rfl
  case incentive_sum =>
    have all := sum_finalState_incentives env fleet fun _ => true
    rw [List.filter_true, List.filter_true, completes.sum_portionIncentive] at all
    rw [all, finalState_pools, finalState_shares]
  case minerIncentives_eq =>
    intro hotkey
    rw [finalState_minerIncentives]
    exact (sum_finalState_incentives env fleet fun other => other = hotkey).symm

end Phases

/-- A run returns exactly on readable input, and then it conserves the emission. -/
theorem calculateMiningScores_conserves_emission (env : Env) (fleet : Fleet) :
    (Succeeds (calculateMiningScores env fleet) ↔ ∀ item ∈ fleet.scored,
      isReadable env (markHotkeyExcluded env item.1 (fleet.portion item.2)) = true) ∧
    ∀ final, calculateMiningScores env fleet = .ok final → EmissionConserved env final := by
  refine ⟨calculateMiningScores_succeeds_iff env fleet, ?_⟩
  intro final returned
  obtain ⟨completes, rfl⟩ := (calculateMiningScores_eq_ok_iff env fleet).mp returned
  exact completes.emissionConserved

theorem sample_conserves_emission :
    ∃ final, calculateMiningScores Sample.env Sample.fleet = .ok final ∧
      EmissionConserved Sample.env final := by
  obtain ⟨returns, conserves⟩ :=
    calculateMiningScores_conserves_emission Sample.env Sample.fleet
  obtain ⟨final, returned⟩ := returns.mpr (by decide +kernel)
  exact ⟨final, returned, conserves final returned⟩

end RentalPrice

end Lium
