import Lium.Incentive.Settlement

/-! # Claims and pay

Each result has a claim on each of the three shares. The pre-pass totals are the sums of
these claims, and the post-pass pays every result its claims pro rata.
-/

namespace Lium.RentalPrice

open Raising Scoring CellSums

/-! ## Claims -/

section Claims

variable (multiplier : BucketKey → ℚ) (result : JobResult)

def dilutedRate : ℚ := result.hourlyRateValue * multiplier result.bucketKey

def nodeMultiplier : ℚ := result.sysboxMultiplierValue * result.driverMultiplierValue

def secureRate : ℚ := dilutedRate multiplier result * nodeMultiplier result

def topUpRate : ℚ :=
  (flooredRate result (dilutedRate multiplier result) - dilutedRate multiplier result) *
    nodeMultiplier result

def miningClaim : ℚ := result.miningScore.getD 0

def bucketClaim : ℚ :=
  if result.eligibleForRentalShare then result.gpuCount * secureRate multiplier result else 0

def unbucketedClaim : ℚ :=
  if result.spotPayCandidate then result.gpuCount * result.effectiveRateValue
  else if result.eligibleForRentalShare then result.gpuCount * topUpRate multiplier result
  else 0

variable {multiplier result}

theorem le_flooredRate (rate : ℚ) : rate ≤ flooredRate result rate := by
  unfold flooredRate
  split
  · exact le_rfl
  · split_ifs
    · exact le_rfl
    · exact le_max_left _ _

variable {env : Env}

section

variable (priced : Priced env result)
include priced

section

variable (eligible : result.eligibleForRentalShare = true)
include eligible

theorem noRate_of_not_counted (uncounted : result.isCounted = false) :
    result.maxCap.getD 0 = 0 ∨ result.hourlyRateValue = 0 := by
  have notSpot : result.spotPayCandidate = false := by
    by_contra isSpot
    have notEligible := (priced.spot (by simpa using isSpot)).1
    rw [eligible] at notEligible
    cases notEligible
  have nonneg := (priced.rates_nonneg eligible).1
  by_contra both
  rw [not_or] at both
  have counted : result.isCounted = true := by
    have rated := lt_of_le_of_ne nonneg (Ne.symm both.2)
    have capped := Nat.pos_of_ne_zero both.1
    simp [JobResult.isCounted, notSpot, eligible, rated, capped]
  rw [counted] at uncounted
  cases uncounted

theorem flooredRate_of_not_counted (uncounted : result.isCounted = false)
    (rate : ℚ) : flooredRate result rate = rate := by
  unfold flooredRate
  split
  · rfl
  · rw [if_pos (noRate_of_not_counted priced eligible uncounted)]

theorem nodeMultiplier_nonneg : 0 ≤ nodeMultiplier result :=
  mul_nonneg (priced.rates_nonneg eligible).2.1 (priced.rates_nonneg eligible).2.2

theorem topUpRate_nonneg : 0 ≤ topUpRate multiplier result :=
  mul_nonneg (sub_nonneg.mpr (le_flooredRate _)) (nodeMultiplier_nonneg priced eligible)

end

theorem miningClaim_nonneg :
    0 ≤ miningClaim result := by
  unfold miningClaim
  cases scored : result.miningScore with
  | none => exact le_rfl
  | some score => exact priced.miningScore_nonneg score scored

theorem bucketClaim_nonneg
    (multiplier_nonneg : ∀ key, 0 ≤ multiplier key) : 0 ≤ bucketClaim multiplier result := by
  unfold bucketClaim
  split_ifs with eligible
  · have diluted : 0 ≤ dilutedRate multiplier result :=
      mul_nonneg (priced.rates_nonneg eligible).1 (multiplier_nonneg _)
    exact mul_nonneg (Nat.cast_nonneg _)
      (mul_nonneg diluted (nodeMultiplier_nonneg priced eligible))
  · exact le_rfl

theorem unbucketedClaim_nonneg :
    0 ≤ unbucketedClaim multiplier result := by
  unfold unbucketedClaim
  split_ifs with spot eligible
  · exact mul_nonneg (Nat.cast_nonneg _) (priced.spot spot).2.2
  · exact mul_nonneg (Nat.cast_nonneg _) (topUpRate_nonneg priced eligible)
  · exact le_rfl

end

end Claims

/-! ## The totals are sums of claims -/

def multiplierIn (shares : Shares) (key : BucketKey) : ℚ :=
  shares.capMultiplierByBucket.getD key 0

theorem settleShares_kept (env : Env) (seed : Option RentalPriceSnapshot) (shares : Shares) :
    (settleShares env seed shares).capMultiplierByBucket = shares.capMultiplierByBucket ∧
      (settleShares env seed shares).totalRentalCost = shares.totalRentalCost ∧
      (settleShares env seed shares).unbucketedRentalCost = shares.unbucketedRentalCost := by
  unfold settleShares fetchPrices
  split <;> exact ⟨rfl, rfl, rfl⟩

section Totals

variable {env : Env} {fleet : Fleet}

theorem reassignedState_shares : (reassignedState env fleet).shares = {} := by
  rw [reassignedState, reassignSplitCandidates_kept env (·.shares)
    (fun _ _ _ _ _ _ _ => rfl), preparedState_eq]
  rfl

theorem settledState_pools : (settledState env fleet).pools = (reassignedState env fleet).pools :=
  rfl

theorem settledState_shares :
    (settledState env fleet).shares =
      settleShares env (settleCosts env (reassignedState env fleet)).seedSnapshot
        (settleCosts env (reassignedState env fleet)).shares := rfl

theorem settledState_capMultipliers :
    (settledState env fleet).shares.capMultiplierByBucket =
      capMultipliers env.config (settledState env fleet).pools.unrentedCountByBucket .empty := by
  rw [settledState_shares, (settleShares_kept _ _ _).1, settleCosts, reassignedState_shares,
    settledState_pools]

theorem settledState_multiplier (key : BucketKey) :
    multiplierIn (settledState env fleet).shares key =
      capMultiplierOf env.config key
        ((settledState env fleet).pools.unrentedCountByBucket.getD key 0) := by
  rw [← capMultipliers_getD, multiplierIn, settledState_capMultipliers]

def sharesFor (env : Env) (totalRentalCost unbucketedRentalCost : ℚ) : Shares :=
  settleShares env none { totalRentalCost, unbucketedRentalCost }

def withMultipliers (shares : Shares) (multipliers : PyDict BucketKey ℚ) : Shares :=
  { shares with capMultiplierByBucket := multipliers }

theorem settleShares_withMultipliers (env : Env) (seed : Option RentalPriceSnapshot)
    (shares : Shares) (multipliers : PyDict BucketKey ℚ) :
    settleShares env seed (withMultipliers shares multipliers) =
      withMultipliers (settleShares env seed shares) multipliers := by
  have fetched : fetchPrices env seed (withMultipliers shares multipliers) =
      withMultipliers (fetchPrices env seed shares) multipliers := by
    simp only [fetchPrices]
    split <;> rfl
  simp only [settleShares, fetched]
  rfl

theorem sharesFor_rentalShare (env : Env) (totalRentalCost left right : ℚ) :
    (sharesFor env totalRentalCost left).rentalShare =
      (sharesFor env totalRentalCost right).rentalShare := by
  have fetched : ∀ unbucketedRentalCost,
      (fetchPrices env none { totalRentalCost, unbucketedRentalCost }).epochSubnetEmission =
        (fetchPrices env none { totalRentalCost }).epochSubnetEmission ∧
      (fetchPrices env none { totalRentalCost, unbucketedRentalCost }).totalRentalCost =
        totalRentalCost := by
    intro unbucketedRentalCost
    simp only [fetchPrices]
    split <;> exact ⟨rfl, rfl⟩
  simp only [sharesFor, settleShares, (fetched left).1, (fetched left).2, (fetched right).1,
    (fetched right).2]

theorem reassignedState_seedSnapshot : (reassignedState env fleet).seedSnapshot = none := by
  rw [reassignedState, reassignSplitCandidates_kept env (·.seedSnapshot)
    (fun _ _ _ _ _ _ _ => rfl), preparedState_eq]
  rfl

theorem settledState_shares_eq :
    (settledState env fleet).shares =
      withMultipliers
        (sharesFor env (settledState env fleet).shares.totalRentalCost
          (settledState env fleet).shares.unbucketedRentalCost)
        (settledState env fleet).shares.capMultiplierByBucket := by
  have seed : (settleCosts env (reassignedState env fleet)).seedSnapshot = none :=
    reassignedState_seedSnapshot
  rw [settledState_shares, seed, (settleShares_kept _ _ _).1, (settleShares_kept _ _ _).2.1,
    (settleShares_kept _ _ _).2.2, sharesFor, ← settleShares_withMultipliers]
  simp only [settleCosts, reassignedState_shares, withMultipliers]

theorem settledState_rentalShare :
    (settledState env fleet).shares.rentalShare =
      (sharesFor env (settledState env fleet).shares.totalRentalCost
        (settledState env fleet).shares.unbucketedRentalCost).rentalShare := by
  conv_lhs => rw [settledState_shares_eq]
  rfl

theorem settledState_multiplier_nonneg (key : BucketKey) :
    0 ≤ multiplierIn (settledState env fleet).shares key := by
  rw [settledState_multiplier, capMultiplierOf]
  split_ifs
  · positivity
  · exact le_rfl

theorem settledState_totalMiningScore (completes : Completes env fleet) :
    (settledState env fleet).pools.totalMiningScore =
      sumOver Prod.snd (fun _ => miningClaim) fleet.scored (settledState env fleet).heap := by
  rw [settledState_pools, reassignedState,
    reassignSplitCandidates_kept env (·.pools.totalMiningScore) (fun _ _ _ _ _ _ _ => rfl),
    preparedState_pools, countAll_totalMiningScore]
  refine (zero_add _).trans (congrArg List.sum (List.map_congr_left ?_))
  intro item member
  exact ((completes.settledResult member).kept miningClaim fun _ _ => rfl).symm

theorem rateUnder_eq_bucketClaim {multiplier : BucketKey → ℚ} {result : JobResult}
    (priced : Priced env result)
    (noCap : ∀ key : BucketKey, env.config.cap key.1 key.2 = 0 → multiplier key = 0) :
    rateUnder (fun key => AddMonoidHom.mulLeft (multiplier key)) result =
      bucketClaim multiplier result := by
  unfold rateUnder bucketClaim secureRate dilutedRate nodeMultiplier
  by_cases counted : result.isCounted = true
  · have eligible : result.eligibleForRentalShare = true := by
      simp only [JobResult.isCounted, Bool.and_eq_true] at counted
      exact counted.1.1.2
    rw [if_pos counted, if_pos eligible, AddMonoidHom.coe_mulLeft, JobResult.weightedRate]
    ring
  · rw [if_neg counted]
    split_ifs with eligible
    · rcases noRate_of_not_counted priced eligible (by simpa using counted) with cap | rate
      · rw [(priced.eligible eligible).2.2.2] at cap
        simp [noCap _ cap]
      · simp [rate]
    · rfl

theorem spotPay_add_topUp_eq_unbucketedClaim {shares : Shares} {result : JobResult}
    (priced : Priced env result) :
    ((if result.spotPayCandidate then result.gpuCount * result.effectiveRateValue else 0) +
      if result.isCounted && result.fillerRevenuePerGpuHour.isSome then
        let diluted := result.hourlyRateValue *
          shares.capMultiplierByBucket.getD (result.baseModel, result.countBucket.getD 0) 0
        result.gpuCount * (flooredRate result diluted - diluted) *
          result.sysboxMultiplierValue * result.driverMultiplierValue
      else 0) = unbucketedClaim (multiplierIn shares) result := by
  unfold unbucketedClaim
  cases spot : result.spotPayCandidate with
  | true => simp [JobResult.isCounted, spot]
  | false =>
    simp only [Bool.false_eq_true, if_false, zero_add]
    cases eligible : result.eligibleForRentalShare with
    | false => simp [JobResult.isCounted, eligible]
    | true =>
      rw [if_pos rfl]
      split_ifs with candidate
      · simp only [topUpRate, dilutedRate, nodeMultiplier, multiplierIn,
          JobResult.bucketKey]
        ring
      · rw [Bool.and_eq_true, not_and_or] at candidate
        have noFloor : flooredRate result (dilutedRate (multiplierIn shares) result) =
            dilutedRate (multiplierIn shares) result := by
          rcases candidate with uncounted | noAverage
          · exact flooredRate_of_not_counted priced eligible (by simpa using uncounted) _
          · have missing : result.fillerRevenuePerGpuHour = none := by
              simpa using noAverage
            simp [flooredRate, missing]
        simp [topUpRate, noFloor]

theorem settledState_bucketCost :
    (settledState env fleet).shares.totalRentalCost =
      bucketRentalCost (settledState env fleet).pools.weightedRateSumByBucket
        (settledState env fleet).shares.capMultiplierByBucket := by
  rw [settledState_capMultipliers, settledState_shares, (settleShares_kept _ _ _).2.1,
    settleCosts, reassignedState_shares, settledState_pools]
  dsimp only
  rw [zero_add]

theorem settledState_totalRentalCost (completes : Completes env fleet) :
    (settledState env fleet).shares.totalRentalCost =
      sumOver Prod.snd (fun _ => bucketClaim (multiplierIn (settledState env fleet).shares))
        fleet.scored (settledState env fleet).heap := by
  have cost : (settledState env fleet).shares.totalRentalCost =
      bucketRates (fun key => AddMonoidHom.mulLeft
        (multiplierIn (settledState env fleet).shares key))
        fleet.scored (reassignedState env fleet).heap := by
    rw [← (reassignedState_spec env fleet).booked.rates, settledState_bucketCost, settledState_pools]
    rfl
  rw [cost]
  apply sumOver_congr
  intro item member
  have sameRate : rateUnder (fun key => AddMonoidHom.mulLeft
      (multiplierIn (settledState env fleet).shares key))
        ((reassignedState env fleet).heap item.2) =
      rateUnder (fun key => AddMonoidHom.mulLeft
        (multiplierIn (settledState env fleet).shares key))
        ((settledState env fleet).heap item.2) := by
    cases spot : (prepared env fleet item).spotPayCandidate with
    | false => rw [settledState_heap_of_not_spot member spot]
    | true =>
      rw [settledState_heap_of_spot member spot]
      rfl
  rw [sameRate]
  refine rateUnder_eq_bucketClaim (completes.settledResult member).priced fun key noCap => ?_
  rw [settledState_multiplier, capMultiplierOf, noCap]
  simp

theorem reassignedState_secureFloorCandidates :
    (reassignedState env fleet).pools.secureFloorCandidates =
      candidatesOf fleet.scored (prepared env fleet)
        fun result => result.isCounted && result.fillerRevenuePerGpuHour.isSome := by
  rw [reassignedState, reassignSplitCandidates_kept env (·.pools.secureFloorCandidates)
    (fun _ _ _ _ _ _ _ => rfl), preparedState_pools, countAll_secureFloorCandidates]
  exact List.nil_append _

theorem settledState_unbucketedCost :
    (settledState env fleet).shares.unbucketedRentalCost =
      spotPay (settledState env fleet).heap
          (candidatesOf fleet.scored (prepared env fleet) (·.spotPayCandidate)) +
        secureFloorTopUp (settledState env fleet).heap
          (settledState env fleet).shares.capMultiplierByBucket
          (candidatesOf fleet.scored (prepared env fleet)
            fun result => result.isCounted && result.fillerRevenuePerGpuHour.isSome) := by
  rw [settledState_capMultipliers, settledState_heap, ← reassignedState_spotPayCandidates,
    ← reassignedState_secureFloorCandidates, settledState_shares,
    (settleShares_kept _ _ _).2.2, settleCosts, reassignedState_shares, settledState_pools]
  dsimp only
  rw [zero_add]

theorem sum_candidatesOf (condition : JobResult → Bool) (value : String × ResultRef → ℚ) :
    ((candidatesOf fleet.scored (prepared env fleet) condition).map value).sum =
      (fleet.scored.map fun item => if condition (prepared env fleet item) then
        value ((prepared env fleet item).baseModel, item.2) else 0).sum := by
  rw [candidatesOf, List.map_map, sum_filter_map]
  rfl

theorem settledState_unbucketedRentalCost (completes : Completes env fleet) :
    (settledState env fleet).shares.unbucketedRentalCost =
      sumOver Prod.snd
        (fun _ => unbucketedClaim (multiplierIn (settledState env fleet).shares))
        fleet.scored (settledState env fleet).heap := by
  rw [settledState_unbucketedCost, spotPay, secureFloorTopUp, sum_candidatesOf,
    sum_candidatesOf, ← List.sum_map_add]
  refine congrArg List.sum (List.map_congr_left ?_)
  intro item member
  have settled := completes.settledResult member
  rw [← settled.counted, ← settled.kept (·.spotPayCandidate) fun _ _ => rfl,
    ← settled.kept (·.fillerRevenuePerGpuHour) fun _ _ => rfl,
    ← settled.kept (·.baseModel) fun _ _ => rfl]
  exact spotPay_add_topUp_eq_unbucketedClaim settled.priced

end Totals

/-! ## The pay of one result -/

/-- What `_post_process_job_result` sets, apart from the reasons. -/
def payAmounts (env : Env) (pools : Pools) (shares : Shares) (result : JobResult) : JobResult :=
  if result.spotPayCandidate then spotAmounts env shares result
  else if !result.eligibleForRentalShare then
    setCycleFormulaContext env shares (payMining env pools result)
  else rentalAmounts env pools shares result

section Pay

variable {env : Env} {pools : Pools} {shares : Shares} {result : JobResult}

variable (env pools shares result) in
theorem payJobResult_eq_withReasons :
    ∃ reasons, payJobResult env pools shares result =
      (payAmounts env pools shares result).withReasons reasons := by
  simp only [payJobResult, payAmounts]
  split_ifs
  · exact JobResult.recordReasonIf_eq_withReasons _ _ _
  · exact ⟨_, rfl⟩
  · rcases (rentalAmounts env pools shares result).recordReasonIf_eq_withReasons
      (shares.capMultiplierByBucket.getD (paidBucketKey env result) 0 = 0)
      .noUnrentedCapacityForGpuCount with ⟨first, capped⟩
    rcases recordZeroDriverAndSysboxReasons_eq_withReasons result.driverMultiplierValue
      result.sysboxMultiplierValue ((rentalAmounts env pools shares result).withReasons first)
      with ⟨reasons, explained⟩
    exact ⟨reasons, by rw [payRental, capped, explained]; rfl⟩

def payOver (original paid : JobResult) : JobResult :=
  { original with
    incentive := paid.incentive
    incentiveRented := paid.incentiveRented
    incentiveIdle := paid.incentiveIdle
    miningShare := paid.miningShare
    totalMiningScore := paid.totalMiningScore
    effectiveRate := paid.effectiveRate
    totalUnrentedByGpuType := paid.totalUnrentedByGpuType
    capDilutionApplied := paid.capDilutionApplied
    unbucketedShare := paid.unbucketedShare
    unbucketedRentalCost := paid.unbucketedRentalCost
    floorTopUpRate := paid.floorTopUpRate
    unrentedCapMultiplier := paid.unrentedCapMultiplier
    totalRentalCost := paid.totalRentalCost
    rentalShare := paid.rentalShare
    rentalShareRaw := paid.rentalShareRaw
    totalBurnEmission := paid.totalBurnEmission
    burnShare := paid.burnShare
    validatorTaoPriceUsd := paid.validatorTaoPriceUsd
    validatorAlphaRateTaoPerBlock := paid.validatorAlphaRateTaoPerBlock
    estimatedEpochEmissionUsd := paid.estimatedEpochEmissionUsd
    tempoBlocks := paid.tempoBlocks
    secondsPerBlock := paid.secondsPerBlock
    fixedRatio := paid.fixedRatio
    zeroIncentiveReasons := paid.zeroIncentiveReasons }

variable (env pools shares result) in
theorem payJobResult_frame :
    payOver result (payJobResult env pools shares result) =
      payJobResult env pools shares result := by
  rcases payJobResult_eq_withReasons env pools shares result with ⟨reasons, equal⟩
  rw [equal]
  simp only [payAmounts]
  split_ifs
  · rfl
  · simp only [payMining]
    split <;> rfl
  · simp only [rentalAmounts]
    split_ifs <;> rfl

theorem payJobResult_kept {β : Type} (field : JobResult → β)
    (unwritten : ∀ original paid, field (payOver original paid) = field original) :
    field (splitIncentiveAcrossPools (payJobResult env pools shares result)) = field result := by
  have splits : ∀ paid, payOver result paid = paid →
      payOver result (splitIncentiveAcrossPools paid) = splitIncentiveAcrossPools paid := by
    intro paid frame
    have commutes : ∀ rented idle, payOver result (paid.setIncentiveSplit rented idle) =
        (payOver result paid).setIncentiveSplit rented idle := fun _ _ => rfl
    simp only [splitIncentiveAcrossPools]
    split
    · exact frame
    · rw [commutes, frame]
  rw [← splits _ (payJobResult_frame env pools shares result)]
  exact unwritten _ _

theorem unbucketedPay_eq (cost_nonneg : 0 ≤ shares.unbucketedRentalCost) (gpuCount : ℕ)
    (rate : ℚ) :
    unbucketedPay shares gpuCount rate =
      proRata shares.unbucketedShare shares.unbucketedRentalCost (gpuCount * rate) := by
  rw [← ite_pos_eq_proRata cost_nonneg, unbucketedPay, ← mul_assoc]
  by_cases positive : 0 < shares.unbucketedRentalCost
  · rw [if_neg (not_le.mpr positive), if_pos positive]
  · rw [if_pos (not_lt.mp positive), if_neg positive]

theorem payMining_incentive (total_nonneg : 0 ≤ pools.totalMiningScore)
    (unpaid : result.incentive = none) :
    (payMining env pools result).incentive =
      result.miningScore.map (proRata (miningShare env) pools.totalMiningScore) := by
  unfold payMining
  cases scored : result.miningScore with
  | none => exact unpaid
  | some score => simp only [ite_pos_eq_proRata total_nonneg, Option.map_some]

theorem paidBucketKey_eq (priced : Priced env result)
    (eligible : result.eligibleForRentalShare = true) :
    paidBucketKey env result = result.bucketKey := by
  rcases Option.isSome_iff_exists.mp (priced.eligible eligible).2.2.1 with ⟨bucket, bucketed⟩
  simp [paidBucketKey, JobResult.bucketKey, bucketed]

theorem payJobResult_incentive (priced : Priced env result) (unpaid : result.incentive = none)
    (mining_nonneg : 0 ≤ pools.totalMiningScore) (cost_nonneg : 0 ≤ shares.totalRentalCost)
    (unbucketed_nonneg : 0 ≤ shares.unbucketedRentalCost) :
    (payJobResult env pools shares result).incentive.getD 0 =
      proRata (miningShare env) pools.totalMiningScore (miningClaim result) +
        proRata shares.rentalShare shares.totalRentalCost
          (bucketClaim (multiplierIn shares) result) +
        proRata shares.unbucketedShare shares.unbucketedRentalCost
          (unbucketedClaim (multiplierIn shares) result) := by
  have noMining : result.paidFromRentalShare = true → miningClaim result = 0 := by
    intro paid
    exact priced.outOfMining (priced.idle_of_paid paid)
  rcases payJobResult_eq_withReasons env pools shares result with ⟨reasons, equal⟩
  rw [equal]
  rw [JobResult.withReasons_incentive, payAmounts]
  cases spot : result.spotPayCandidate with
  | true =>
    rw [if_pos rfl, spotAmounts, unbucketedPay_eq unbucketed_nonneg,
      noMining (by simp [JobResult.paidFromRentalShare, spot])]
    simp [bucketClaim, (priced.spot spot).1, unbucketedClaim, spot]
  | false =>
    cases eligible : result.eligibleForRentalShare with
    | true =>
      have nonneg : 0 ≤ topUpRate (multiplierIn shares) result := topUpRate_nonneg priced eligible
      rw [noMining (by simp [JobResult.paidFromRentalShare, eligible])]
      simp only [Bool.false_eq_true, if_false, Bool.not_true, bucketClaim, unbucketedClaim,
        eligible, spot, if_true, rentalAmounts, paidBucketKey_eq priced eligible,
        mul_assoc shares.rentalShare, ite_pos_eq_proRata cost_nonneg,
        unbucketedPay_eq unbucketed_nonneg, proRata_zero_claim, zero_add]
      change (if 0 < topUpRate (multiplierIn shares) result then _ else _ :
        JobResult).incentive.getD 0 = _
      split_ifs with positive
      · rfl
      · rw [le_antisymm (not_lt.mp positive) nonneg, mul_zero, proRata_zero_claim, add_zero]
        rfl
    | false =>
      simp only [Bool.false_eq_true, if_false, Bool.not_false, if_true]
      change (payMining env pools result).incentive.getD 0 = _
      rw [payMining_incentive mining_nonneg unpaid, miningClaim]
      cases result.miningScore <;> simp [bucketClaim, eligible, unbucketedClaim, spot]

variable (env pools shares result) in
theorem payJobResult_isSome :
    (payJobResult env pools shares result).incentive.isSome =
      (result.paidFromRentalShare || result.miningScore.isSome || result.incentive.isSome) := by
  rcases payJobResult_eq_withReasons env pools shares result with ⟨reasons, equal⟩
  rw [equal, JobResult.withReasons_incentive, payAmounts, JobResult.paidFromRentalShare]
  cases spot : result.spotPayCandidate with
  | true => simp [spotAmounts]
  | false =>
    cases eligible : result.eligibleForRentalShare with
    | true =>
      simp only [Bool.false_eq_true, if_false, Bool.not_true, rentalAmounts]
      split_ifs <;> rfl
    | false =>
      simp only [Bool.false_eq_true, if_false, Bool.not_false, if_true]
      change (payMining env pools result).incentive.isSome = _
      simp only [payMining]
      cases result.miningScore <;> simp

end Pay

/-! ## The post-pass -/

theorem foldl_postProcessJobResult (env : Env) (items : List (String × ResultRef))
    (nodup : (items.map Prod.snd).Nodup) (state : IncentiveState) :
    items.foldl (postProcessJobResult env) state =
      { state with
        heap := updateEach Prod.snd (fun _ result => splitIncentiveAcrossPools
          (payJobResult env state.pools state.shares result)) items state.heap
        minerIncentives := items.foldl (fun incentives item => addMinerIncentive item.1
          (payJobResult env state.pools state.shares (state.heap item.2)).incentive incentives)
          state.minerIncentives } := by
  induction items generalizing state with
  | nil => rfl
  | cons item rest induction =>
    rw [List.map_cons, List.nodup_cons] at nodup
    rw [List.foldl_cons, induction nodup.2]
    have later : ∀ incentives, ∀ other ∈ rest,
        addMinerIncentive other.1 (payJobResult env state.pools state.shares
          ((postProcessJobResult env state item).heap other.2)).incentive incentives =
        addMinerIncentive other.1 (payJobResult env state.pools state.shares
          (state.heap other.2)).incentive incentives := by
      intro incentives other member
      have different : other.2 ≠ item.2 := fun equal =>
        nodup.1 (equal ▸ List.mem_map_of_mem member)
      simp only [postProcessJobResult, IncentiveState.write,
        Function.update_of_ne different]
    have folded := List.foldl_ext _ _
      (postProcessJobResult env state item).minerIncentives later
    rw [List.foldl_cons, updateEach_cons]
    exact congrArg (fun incentives => ({ state with
      heap := _
      minerIncentives := incentives } : IncentiveState)) folded

section Phases

variable (env : Env) (fleet : Fleet)

def paid (item : String × ResultRef) : JobResult :=
  payJobResult env (settledState env fleet).pools (settledState env fleet).shares
    ((settledState env fleet).heap item.2)

theorem paidState_eq :
    paidState env fleet =
      { settledState env fleet with
        heap := updateEach Prod.snd (fun _ result => splitIncentiveAcrossPools
          (payJobResult env (settledState env fleet).pools (settledState env fleet).shares
            result)) fleet.scored (settledState env fleet).heap
        minerIncentives := fleet.scored.foldl (fun incentives item =>
          addMinerIncentive item.1 (paid env fleet item).incentive incentives)
          (settledState env fleet).minerIncentives } :=
  foldl_postProcessJobResult env fleet.scored fleet.scored_nodup (settledState env fleet)

theorem paidState_heap {item : String × ResultRef} (member : item ∈ fleet.scored) :
    (paidState env fleet).heap item.2 = splitIncentiveAcrossPools (paid env fleet item) := by
  rw [paidState_eq]
  exact updateEach_of_mem (fun _ result => splitIncentiveAcrossPools
    (payJobResult env (settledState env fleet).pools (settledState env fleet).shares result))
    _ fleet.scored_nodup member

end Phases

end Lium.RentalPrice
