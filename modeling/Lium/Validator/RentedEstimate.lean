import Lium.Incentive.Hypothetical
import Lium.Validator.SettleAppend
import Lium.Validator.SnapshotDenominators

/-! # Estimates of rented executors

The estimate divides a node's weight by the GPU total of its model with its own GPUs in it, but
joins the mining score of a fleet that was divided by the totals without them. Live pay divides
everything by the new totals.
-/

namespace Lium

variable {env : Env}

namespace Scoring

open Raising

theorem miningWeight_nonneg (env : Env) (result : JobResult) : 0 ≤ miningWeight env result := by
  rw [miningWeight]
  split
  · have sysbox := rentedSysboxMultiplier_nonneg env result
    have uptime := uptimeMultiplierOf_nonneg env result
    have driver := env.getMinDriverMultiplier_nonneg result.nvidiaDriverVersion result.isRented
    have factor := spotRentalFactor_nonneg env result
    have score : (0 : ℚ) ≤ result.score := NNRat.coe_nonneg _
    have portion : (0 : ℚ) ≤ (env.redis.portionPerGpuType (result.gpuModel.getD "") : ℚ≥0) :=
      NNRat.coe_nonneg _
    positivity
  · exact le_rfl

variable {result : JobResult}

theorem mined_of_miningWeight (weighs : miningWeight env result ≠ 0) : Mined env result := by
  have conditions : (result.isRented && result.isSuccessful &&
      !excludedFromBothPools env result) = true := by
    by_contra fails
    rw [miningWeight, if_neg fails] at weighs
    exact weighs rfl
  simpa [Mined, and_assoc] using conditions

theorem Mined.countsInDenominator (mined : Mined env result) :
    countsInDenominator env result = true := by
  rcases mined with ⟨rented, successful, included⟩
  have noReason := (not_excluded_iff.mp included).2
  simp only [reasonsExcludedFromBothPools, List.append_eq_nil_iff, reasonIf] at noReason
  rcases noReason with ⟨⟨⟨⟨⟨⟨-, tier⟩, discord⟩, -⟩, maintenance⟩, -⟩, -⟩
  have offPath : onSpotPayPath result = false := by simp [onSpotPayPath, rented]
  have connected : env.isMissingDiscordAfterCutoff result = false := by
    split at discord
    · cases discord
    · simpa using discord
  have paidTier : (result.isSpot && !env.earnsSpotRentalIncentive result) = false := by
    simpa [offPath] using tier
  have kept : isPausedOrInMaintenance result = false := by
    have inService : result.isInMaintenance = false := by simpa using maintenance
    simp [isPausedOrInMaintenance, inService, rented]
  rw [countsInDenominator_eq, RentalPrice.countsInSnapshot, successful, paidTier, connected, kept]
  rfl

theorem defaultExecutorScore_isSome (env : Env) (factor : ℚ) (result : JobResult) :
    (defaultExecutorScore env factor result).miningScore.isSome = true := by
  rw [defaultExecutorScore]
  split_ifs
  · rfl
  · rfl
  · rfl
  · rfl
  · dsimp only
    split_ifs
    · rfl
    · rcases JobResult.recordReasonIf_eq_withReasons _ _ _ with ⟨reasons, recorded⟩
      rw [recorded]
      rfl

theorem calculateExecutorScore_isSome {scored : JobResult} (rented : result.isRented = true)
    (returned : calculateExecutorScore env result = .ok scored) :
    scored.miningScore.isSome = true := by
  rcases calculateExecutorScore_eq_ok returned with
    ⟨reasons, ⟨onPath, -⟩ | ⟨-, rfl⟩ | ⟨baseModel, state, gates, rfl⟩⟩
  · simp [onSpotPayPath, rented] at onPath
  · rfl
  · have notCandidate : isIdlePoolCandidate env baseModel result = false := by
      simp [isIdlePoolCandidate, rented]
    rw [notCandidate, runIdlePoolGates_of_not_candidate env baseModel rfl rfl] at gates
    cases gates
    have stillRented : (result.withReasons reasons).isRented = true := rented
    simp only [recordBlockedReasons, Bool.false_and, choosePool, stillRented, Bool.and_false,
      Bool.false_eq_true, if_false, Bool.not_true]
    split_ifs
    · rfl
    · exact defaultExecutorScore_isSome ..

end Scoring

namespace RentalPrice

open Raising Scoring

/-! ## Preparing a rented result -/

variable {result : JobResult}

theorem prepareJobResult_of_failed (env : Env)
    (failed : result.isSuccessful = false) :
    ∃ reasons, prepareJobResult env result = .ok (result.withReasons reasons) := by
  rcases recordOutdatedImageReason_eq_withReasons env result with ⟨reasons, outdated⟩
  rcases recordValidationFailedReason_eq_withReasons (result.withReasons reasons) with
    ⟨more, noted⟩
  have stillFailed : (!(result.withReasons reasons).isSuccessful) = true := by
    rw [Bool.not_eq_true']
    exact failed
  refine ⟨more, ?_⟩
  simp only [prepareJobResult, outdated, stillFailed, if_true, noted]
  rfl

theorem prepareJobResult_isSome {prepared : JobResult} (rented : result.isRented = true)
    (successful : result.isSuccessful = true)
    (returned : prepareJobResult env result = .ok prepared) :
    prepared.miningScore.isSome = true := by
  rcases prepareJobResult_eq_ok returned with
    ⟨reasons, more, ⟨failed, -⟩ | ⟨-, scored, baseModel, scoring, rfl⟩⟩
  · rw [successful] at failed
    cases failed
  · rw [priceJobResult_miningScore]
    have stillRented : (result.withReasons reasons).isRented = true := rented
    have isSome := calculateExecutorScore_isSome stillRented scoring
    exact isSome

theorem rented_pay {pools : Pools} {shares : Shares} (priced : Priced env result)
    (unpaid : result.incentive = none) (rented : result.isRented = true)
    (notSpot : result.spotPayCandidate = false) (mining_nonneg : 0 ≤ pools.totalMiningScore)
    (cost_nonneg : 0 ≤ shares.totalRentalCost)
    (unbucketed_nonneg : 0 ≤ shares.unbucketedRentalCost) :
    (payJobResult env pools shares result).incentive.isSome = result.miningScore.isSome ∧
      (payJobResult env pools shares result).incentive.getD 0 =
        proRata (miningShare env) pools.totalMiningScore (miningClaim result) := by
  have notEligible : result.eligibleForRentalShare = false := by
    rw [Bool.eq_false_iff]
    intro eligible
    have idle := (priced.eligible eligible).1
    rw [rented] at idle
    cases idle
  have noBucket : bucketClaim (multiplierIn shares) result = 0 := by
    simp [bucketClaim, notEligible]
  have noTopUp : unbucketedClaim (multiplierIn shares) result = 0 := by
    simp [unbucketedClaim, notSpot, notEligible]
  constructor
  · simp [payJobResult_isSome, JobResult.paidFromRentalShare, notSpot, notEligible, unpaid]
  · rw [payJobResult_incentive priced unpaid mining_nonneg cost_nonneg unbucketed_nonneg, noBucket,
      noTopUp, proRata_zero_claim, proRata_zero_claim, add_zero, add_zero]

theorem settledState_totalMiningScore_prepared (env : Env) (fleet : Fleet) :
    (settledState env fleet).pools.totalMiningScore =
      (fleet.scored.map fun item => miningClaim (prepared env fleet item)).sum := by
  rw [settledState_pools, reassignedState,
    reassignSplitCandidates_kept env (·.pools.totalMiningScore) (fun _ _ _ _ _ _ _ => rfl),
    preparedState_pools, countAll_totalMiningScore]
  exact zero_add _

/-! ## The hypothetical executor -/

section Hypothetical

variable (env : Env) (params : ExecutorEstimateParams)

theorem countsInDenominator_hypothetical :
    countsInDenominator env (.fresh (hypotheticalNode env.settings params)) =
      (hypotheticalNode env.settings params).isSuccessful := by
  rw [countsInDenominator_eq, countsInSnapshot]
  have connected : env.isMissingDiscordAfterCutoff
      (.fresh (hypotheticalNode env.settings params)) = false := by
    simp [Env.isMissingDiscordAfterCutoff, JobResult.fresh, hypotheticalNode]
  have inService : isPausedOrInMaintenance
      (.fresh (hypotheticalNode env.settings params)) = false := rfl
  rw [connected, inService, Bool.not_false, Bool.and_true, Bool.and_true]
  exact Bool.and_true _

theorem estimateExecutor_of_not_offered {pools : Pools} {snapshot : RentalPriceSnapshot}
    (seeds : seedPools env.runtime snapshot = .ok pools)
    (notOffered : isModelOff env.settings params.gpuModel = true ∨
      baseGpuMap.lookup params.gpuModel = none) :
    ∃ estimate, estimateExecutor env snapshot params = .ok estimate ∧
      estimate.incentive = none := by
  simp only [estimateExecutor, seedStateFromSnapshot, seeds, bind, Except.bind]
  cases modelOff : isModelOff env.settings params.gpuModel with
  | true => exact ⟨_, rfl, rfl⟩
  | false =>
    rw [notOffered.resolve_left (by rw [modelOff]; exact Bool.false_ne_true)]
    exact ⟨_, rfl, rfl⟩

end Hypothetical

/-! ## Mining totals -/

def weightOf (env : Env) (fleet : Fleet) (item : String × ResultRef) : ℚ :=
  miningWeight env (markHotkeyExcluded env item.1 (fleet.portion item.2))

def modelOf (fleet : Fleet) (item : String × ResultRef) : String :=
  (fleet.portion item.2).gpuModel.getD ""

def scoreUnder (env : Env) (fleet : Fleet) (totals : PyDict String ℕ) : ℚ :=
  (fleet.scored.map fun item =>
    weightOf env fleet item / (totals.getD (modelOf fleet item) 0 : ℕ)).sum

theorem weightOf_nonneg (env : Env) (fleet : Fleet) (item : String × ResultRef) :
    0 ≤ weightOf env fleet item := miningWeight_nonneg _ _

theorem Completes.totalMiningScore_eq {fleet : Fleet} (completes : Completes env fleet) :
    (settledState env fleet).pools.totalMiningScore =
      scoreUnder env fleet env.totalGpuModelCountMap := by
  rw [settledState_totalMiningScore_prepared]
  apply congrArg List.sum
  apply List.map_congr_left
  intro item member
  exact completes.miningClaim_prepared member

theorem le_countGpusByModel {counts : JobResult → Bool} {results : List JobResult}
    (member : result ∈ results) (counted : counts result = true) :
    result.gpuCount ≤ (countGpusByModel counts results).getD (result.gpuModel.getD "") 0 := by
  rw [countGpusByModel_getD]
  apply List.le_sum_of_mem
  rw [List.mem_map]
  exact ⟨result, member, if_pos ⟨counted, rfl⟩⟩

theorem countsInDenominator_of_rentedPortion {node : ValidatedNode} {free : ℕ}
    (split : freeGpuCountOfPartiallyRentedSplit node = some free)
    (counted : countsInDenominator env (rentedPortion (.fresh node)) = true) :
    countsInDenominator env (.fresh node) = true := by
  have hasGpus : node.gpuCount ≠ 0 := by
    rw [freeGpuCountOfPartiallyRentedSplit] at split
    split at split
    · omega
    · cases split
  simp only [countsInDenominator, Bool.and_eq_true] at counted ⊢
  rcases counted with ⟨⟨⟨⟨⟨⟨model, -⟩, scored⟩, tier⟩, discord⟩, paused⟩, maintenance⟩
  exact ⟨⟨⟨⟨⟨⟨model, decide_eq_true hasGpus⟩, scored⟩, tier⟩, discord⟩, paused⟩, maintenance⟩

variable {item : String × ResultRef}

section MinedItem

variable {fleet : Fleet}
  (mined : Mined env (markHotkeyExcluded env item.1 (fleet.portion item.2)))

include mined

theorem node_counted_of_mined :
    countsInDenominator env (.fresh (fleet.nodes item.2.id)) = true ∧
      (fleet.nodes item.2.id).gpuModel = (fleet.portion item.2).gpuModel ∧
      (fleet.portion item.2).gpuCount ≤ (fleet.nodes item.2.id).gpuCount := by
  have rented : (fleet.portion item.2).isRented = true := mined.1
  have counted : countsInDenominator env (fleet.portion item.2) = true :=
    mined.countsInDenominator
  rcases item with ⟨hotkey, id | id⟩
  · cases free : fleet.freeGpuCount id with
    | none =>
      simp only [Fleet.portion, free] at counted ⊢
      exact ⟨counted, rfl, le_rfl⟩
    | some count =>
      simp only [Fleet.portion, free] at counted ⊢
      exact ⟨countsInDenominator_of_rentedPortion free counted, rfl,
        (Nat.le_add_right ..).trans_eq (freeGpuCount_eq free).2⟩
  · cases free : fleet.freeGpuCount id with
    | none =>
      simp only [Fleet.portion, free] at counted ⊢
      exact ⟨counted, rfl, le_rfl⟩
    | some count =>
      simp only [Fleet.portion, free] at rented
      cases rented

theorem gpuCount_le_of_mined (member : item ∈ fleet.scored) :
    (fleet.portion item.2).gpuCount ≤
      (countGpusByModel (countsInDenominator env) fleet.results).getD (modelOf fleet item) 0 := by
  obtain ⟨counted, model, part⟩ := node_counted_of_mined mined
  have listed : JobResult.fresh (fleet.nodes item.2.id) ∈ fleet.results := by
    rw [Fleet.results, List.mem_map]
    exact ⟨_, fleet.mem_entries_of_mem_scored member, rfl⟩
  have bound := le_countGpusByModel listed counted
  rw [modelOf, ← model]
  exact part.trans bound

theorem counted_of_mined (member : item ∈ fleet.scored) :
    (countGpusByModel (countsInDenominator env) fleet.results).getD (modelOf fleet item) 0 ≠ 0 := by
  have hasGpus : 0 < (fleet.portion item.2).gpuCount :=
    ValidatedNode.gpuCount_pos_of_isSuccessful mined.2.1
  exact (hasGpus.trans_le (gpuCount_le_of_mined mined member)).ne'

end MinedItem

/-- Counted totals back every mined result, so the rental times that compare under them compare
under any totals. -/
theorem Completes.withDenominators {fleet : Fleet} (completes : Completes env fleet)
    (totals : env.totalGpuModelCountMap =
      countGpusByModel (countsInDenominator env) fleet.results)
    (denominators : PyDict String ℕ) :
    Completes (env.withDenominators denominators) fleet := by
  rw [completes_iff] at completes ⊢
  intro item member
  apply isReadable_withDenominators (completes item member)
  intro mined
  rw [totals]
  exact counted_of_mined mined member

/-! ## The estimate and the live run -/

variable {baseModel : String}

section Live

variable {fleet : Fleet} {params : ExecutorEstimateParams} {hotkey : String}
  {later : PyDict String ℕ}

theorem joined_totalMiningScore
    (completes : Completes (env.withDenominators later) (joined env fleet params hotkey)) :
    (settledState (env.withDenominators later)
        (joined env fleet params hotkey)).pools.totalMiningScore =
      scoreUnder env fleet later +
        miningClaim (prepared (env.withDenominators later) (joined env fleet params hotkey)
          (joinedItem fleet hotkey)) := by
  rw [settledState_totalMiningScore_prepared,
    ((fleet.append_scored_perm hotkey (hypotheticalNode_whole _ _)).map _).sum_eq, List.map_cons,
    List.sum_cons, add_comm]
  congr 2
  apply List.map_congr_left
  intro item member
  have listed : item ∈ (joined env fleet params hotkey).scored :=
    (mem_appended_scored hotkey (hypotheticalNode_whole _ _)).mpr (.inr member)
  rw [completes.miningClaim_prepared listed,
    fleet.append_portion hotkey _ (fleet.id_mem_ids member)]
  rfl

theorem hypothetical_miningClaim {denominators : PyDict String ℕ}
    (returned : prepareJobResult (env.withDenominators denominators)
      (.fresh (hypotheticalNode env.settings params)) = .ok result) :
    miningClaim result = miningWeight env (.fresh (hypotheticalNode env.settings params)) /
      (denominators.getD params.gpuModel 0 : ℕ) :=
  prepareJobResult_miningClaim ⟨rfl, rfl, rfl, rfl⟩ returned

theorem rented_rentalCost (uncounted : result.isCounted = false) :
    (hypotheticalShares env (getSnapshot env (finalState env fleet))
        (estimatePools env fleet result)).totalRentalCost =
      (settledState env fleet).shares.totalRentalCost := by
  have same : SameBuckets (finalState env fleet).pools (estimatePools env fleet result) := by
    refine ⟨?_, ?_⟩
    · intro key
      rw [estimatePools, count_getD, gpusIn, if_neg (by simp [uncounted])]
      rfl
    · intro weight
      rw [estimatePools, count_sumWith, rateUnder, if_neg (by simp [uncounted]), add_zero]
      rfl
  rw [(hypotheticalShares_kept _ _ _).2.1, settledState_bucketCost, settledState_capMultipliers,
    ← finalState_pools]
  exact (same.cost_eq env.config).symm

theorem Completes.rented_estimate (completes : Completes env fleet)
    (rented : params.isRented = true) (modelOn : isModelOff env.settings params.gpuModel = false)
    (known : baseGpuMap.lookup params.gpuModel = some baseModel) (returned : prepareJobResult
      (env.withDenominators (totalMapWithHypo (getSnapshot env (finalState env fleet)) params))
      (.fresh (hypotheticalNode env.settings params)) = .ok result) :
    ∃ estimate, estimateExecutor env (getSnapshot env (finalState env fleet)) params =
        .ok estimate ∧
      estimate.incentive.isSome = result.miningScore.isSome ∧
      estimate.incentive.getD 0 = proRata (miningShare env)
        ((settledState env fleet).pools.totalMiningScore + miningClaim result)
        (miningClaim result) := by
  rcases estimateExecutor_incentive params modelOn known (.inl rented) (.inl rented) returned with
    ⟨estimate, made, promised⟩
  have stillRented := (hypothetical_isRented returned).trans rented
  have unpaid := hypothetical_unpaid returned
  have notSpot := hypothetical_not_spot returned
  have scored := (hypothetical_preparedPriced returned).2
  have priced : Priced env result := { scored with }
  have nonneg := completes.totals_nonneg
  refine ⟨estimate, made, ?_⟩
  rw [promised, ← estimatePools_totalMiningScore]
  apply rented_pay priced unpaid stillRented notSpot
  · rw [estimatePools_totalMiningScore]
    exact add_nonneg nonneg.1 (miningClaim_nonneg priced)
  · rw [rented_rentalCost (priced.not_counted stillRented)]
    exact nonneg.2.1
  · rw [(hypotheticalShares_kept _ _ _).2.2, snapshot_unbucketedRentalCost]
    exact nonneg.2.2

theorem Completes.rented_live (rented : params.isRented = true)
    (scored : hotkey ∉ env.getScoringExcludedHotkeys)
    (completes : Completes (env.withDenominators later) (joined env fleet params hotkey)) :
    ∃ result, prepareJobResult (env.withDenominators later)
        (.fresh (hypotheticalNode env.settings params)) = .ok result ∧
      ((finalState (env.withDenominators later) (joined env fleet params hotkey)).heap
        (.node fleet.freshId)).incentive.isSome = result.miningScore.isSome ∧
      ((finalState (env.withDenominators later) (joined env fleet params hotkey)).heap
        (.node fleet.freshId)).incentive.getD 0 = proRata (miningShare env)
          (scoreUnder env fleet later + miningClaim result) (miningClaim result) := by
  have member := joinedItem_mem env fleet params hotkey
  have returned := completes.preparation_eq member
  rw [joined_preparation params hotkey later scored (.inl rented)] at returned
  have settled := completes.settledResult member
  have stillRented := (settled.kept (·.isRented) fun _ _ => rfl).trans
    ((hypothetical_isRented returned).trans rented)
  have unpaid := (settled.kept (·.incentive) fun _ _ => rfl).trans (hypothetical_unpaid returned)
  have notSpot := (settled.kept (·.spotPayCandidate) fun _ _ => rfl).trans
    (hypothetical_not_spot returned)
  have nonneg := completes.totals_nonneg
  have pay := rented_pay settled.priced unpaid stillRented notSpot nonneg.1 nonneg.2.1 nonneg.2.2
  rw [settled.kept (·.miningScore) fun _ _ => rfl, settled.kept miningClaim fun _ _ => rfl,
    joined_totalMiningScore completes] at pay
  refine ⟨_, returned, ?_⟩
  rw [joined_incentive params hotkey later]
  exact pay

end Live

/-! ## When the estimate is exact -/

section Exact

variable {fleet : Fleet} {gpuModel : String} {later : PyDict String ℕ} {count : ℕ}

def otherScore (env : Env) (fleet : Fleet) (gpuModel : String) : ℚ :=
  (fleet.scored.map fun item => if modelOf fleet item = gpuModel then 0
    else weightOf env fleet item /
      (env.totalGpuModelCountMap.getD (modelOf fleet item) 0 : ℕ)).sum

def peerWeight (env : Env) (fleet : Fleet) (gpuModel : String) : ℚ :=
  (fleet.scored.map fun item =>
    if modelOf fleet item = gpuModel then weightOf env fleet item else 0).sum

variable (env fleet gpuModel) in
theorem otherScore_nonneg : 0 ≤ otherScore env fleet gpuModel := by
  apply List.sum_nonneg
  intro score member
  rcases List.mem_map.mp member with ⟨item, -, rfl⟩
  split
  · exact le_rfl
  · exact div_nonneg (weightOf_nonneg ..) (Nat.cast_nonneg _)

theorem peerWeight_terms_nonneg (item : String × ResultRef) :
    0 ≤ if modelOf fleet item = gpuModel then weightOf env fleet item else 0 := by
  split
  · exact weightOf_nonneg ..
  · exact le_rfl

variable (env fleet gpuModel) in
theorem peerWeight_nonneg : 0 ≤ peerWeight env fleet gpuModel := by
  apply List.sum_nonneg
  intro weight member
  rcases List.mem_map.mp member with ⟨item, -, rfl⟩
  exact peerWeight_terms_nonneg item

theorem peerWeight_eq_zero_iff :
    peerWeight env fleet gpuModel = 0 ↔
      ∀ item ∈ fleet.scored, modelOf fleet item = gpuModel → weightOf env fleet item = 0 := by
  rw [peerWeight, sum_map_eq_zero_iff fun item _ => peerWeight_terms_nonneg item]
  simp only [ite_eq_right_iff]

theorem mining_sum_split
    (added : ∀ other, later.getD other 0 =
      env.totalGpuModelCountMap.getD other 0 + if other = gpuModel then count else 0) :
    scoreUnder env fleet later =
      otherScore env fleet gpuModel + peerWeight env fleet gpuModel /
        ((env.totalGpuModelCountMap.getD gpuModel 0 : ℕ) + (count : ℚ)) := by
  have shared : ∀ item ∈ fleet.scored, modelOf fleet item = gpuModel →
      ((later.getD (modelOf fleet item) 0 : ℕ) : ℚ) =
        (env.totalGpuModelCountMap.getD gpuModel 0 : ℕ) + (count : ℚ) := by
    intro item _ isModel
    rw [isModel, added, if_pos rfl, Nat.cast_add]
  rw [scoreUnder, sum_div_split shared]
  congr 2
  apply List.map_congr_left
  intro item _
  split
  · rfl
  · rename_i other
    rw [added, if_neg other, Nat.add_zero]

variable (env fleet gpuModel) in
theorem mining_sum_split_before :
    scoreUnder env fleet env.totalGpuModelCountMap =
      otherScore env fleet gpuModel + peerWeight env fleet gpuModel /
        (env.totalGpuModelCountMap.getD gpuModel 0 : ℕ) := by
  have unchanged : ∀ other, env.totalGpuModelCountMap.getD other 0 =
      env.totalGpuModelCountMap.getD other 0 + if other = gpuModel then 0 else 0 := by
    intro other
    rw [ite_self, Nat.add_zero]
  rw [mining_sum_split unchanged, Nat.cast_zero, add_zero]

section Backed

variable (backed : ∀ item ∈ fleet.scored, weightOf env fleet item ≠ 0 →
    env.totalGpuModelCountMap.getD (modelOf fleet item) 0 ≠ 0)

include backed

theorem peerWeight_backed (weighs : peerWeight env fleet gpuModel ≠ 0) :
    env.totalGpuModelCountMap.getD gpuModel 0 ≠ 0 := by
  rw [ne_eq, peerWeight_eq_zero_iff] at weighs
  simp only [not_forall] at weighs
  rcases weighs with ⟨item, member, rfl, weighs⟩
  exact backed item member weighs

theorem otherScore_eq_zero_iff (noPeers : peerWeight env fleet gpuModel = 0) :
    otherScore env fleet gpuModel = 0 ↔ ∀ item ∈ fleet.scored, weightOf env fleet item = 0 := by
  rw [peerWeight_eq_zero_iff] at noPeers
  rw [otherScore, sum_map_eq_zero_iff]
  · apply forall₂_congr
    intro item member
    by_cases isModel : modelOf fleet item = gpuModel
    · rw [if_pos isModel]
      exact iff_of_true rfl (noPeers item member isModel)
    · rw [if_neg isModel, div_eq_zero_iff, Nat.cast_eq_zero]
      constructor
      · rintro (noWeight | noTotal)
        · exact noWeight
        · by_contra weighs
          exact backed item member weighs noTotal
      · exact .inl
  · intro item _
    split
    · exact le_rfl
    · exact div_nonneg (weightOf_nonneg ..) (Nat.cast_nonneg _)

theorem rented_pay_eq_iff {share weight : ℚ} {seen : ℕ} (weight_pos : 0 < weight)
    (count_pos : 0 < count) (sees : env.totalGpuModelCountMap.getD gpuModel 0 ≤ seen)
    (added : ∀ other, later.getD other 0 =
      env.totalGpuModelCountMap.getD other 0 + if other = gpuModel then count else 0) :
    proRata share (scoreUnder env fleet env.totalGpuModelCountMap +
        weight / ((seen + count : ℕ) : ℚ)) (weight / ((seen + count : ℕ) : ℚ)) =
      proRata share (scoreUnder env fleet later + weight / (later.getD gpuModel 0 : ℕ))
        (weight / (later.getD gpuModel 0 : ℕ)) ↔
      share = 0 ∨
        ((∀ item ∈ fleet.scored, modelOf fleet item = gpuModel → weightOf env fleet item = 0) ∧
          ((∀ item ∈ fleet.scored, weightOf env fleet item = 0) ∨
            seen = env.totalGpuModelCountMap.getD gpuModel 0)) := by
  have others := otherScore_nonneg env fleet gpuModel
  have peers := peerWeight_nonneg env fleet gpuModel
  have total : ((later.getD gpuModel 0 : ℕ) : ℚ) =
      (env.totalGpuModelCountMap.getD gpuModel 0 : ℕ) + (count : ℚ) := by
    rw [added, if_pos rfl, Nat.cast_add]
  have actual_nonneg : (0 : ℚ) ≤ (env.totalGpuModelCountMap.getD gpuModel 0 : ℕ) :=
    Nat.cast_nonneg _
  have positive : (0 : ℚ) < count := Nat.cast_pos.mpr count_pos
  have seesRat : ((env.totalGpuModelCountMap.getD gpuModel 0 : ℕ) : ℚ) ≤ seen :=
    Nat.cast_le.mpr sees
  rw [mining_sum_split added, mining_sum_split_before env fleet gpuModel, total, Nat.cast_add,
    proRata_joined_eq_iff, newcomer_balance_iff weight_pos others peers actual_nonneg seesRat
      positive, ← peerWeight_eq_zero_iff, Nat.cast_inj]
  · apply or_congr_right
    apply and_congr_right
    intro noPeers
    rw [otherScore_eq_zero_iff backed noPeers]
  · intro weighs
    exact Nat.cast_ne_zero.mpr (peerWeight_backed backed weighs)
  · exact add_nonneg others (div_nonneg peers actual_nonneg)
  · exact add_nonneg others (div_nonneg peers (by linarith))
  · exact div_pos weight_pos (by linarith)
  · exact div_pos weight_pos (by linarith)

end Backed

end Exact

/-! ## The rented estimate -/

section Cycle

variable {fleet : Fleet} {params : ExecutorEstimateParams} {hotkey : String}
  {later : PyDict String ℕ}

/-- The estimate from the snapshot of a run and the run with the executor in it agree. -/
def EstimateIsLive (env : Env) (fleet : Fleet) (params : ExecutorEstimateParams) (hotkey : String)
    (later : PyDict String ℕ) : Prop :=
  ∃ estimate live,
    estimateExecutor env (getSnapshot env (finalState env fleet)) params = .ok estimate ∧
    calculateMiningScores (env.withDenominators later) (joined env fleet params hotkey) =
      .ok live ∧
    (live.heap (.node fleet.freshId)).incentive = estimate.incentive

theorem estimateIsLive_of_failed (completes : Completes env fleet)
    (rescored : Completes (env.withDenominators later) fleet)
    (rented : params.isRented = true) (scored : hotkey ∉ env.getScoringExcludedHotkeys)
    (failed : (hypotheticalNode env.settings params).isSuccessful = false) :
    EstimateIsLive env fleet params hotkey later := by
  have readable : isReadable (env.withDenominators later) (markHotkeyExcluded
      (env.withDenominators later) hotkey (.fresh (hypotheticalNode env.settings params))) =
      true := by
    rw [isReadable, show (markHotkeyExcluded (env.withDenominators later) hotkey
      (.fresh (hypotheticalNode env.settings params))).isSuccessful = false from failed]
    rfl
  have joins := rescored.append hotkey (hypotheticalNode_whole _ _) readable
  have unscored (denominators : PyDict String ℕ) :
      ∃ result, prepareJobResult (env.withDenominators denominators)
        (.fresh (hypotheticalNode env.settings params)) = .ok result ∧
        result.miningScore = none := by
    have stillFailed : (JobResult.fresh (hypotheticalNode env.settings params)).isSuccessful =
        false := failed
    rcases prepareJobResult_of_failed (env.withDenominators denominators) stillFailed with
      ⟨reasons, returned⟩
    exact ⟨_, returned, rfl⟩
  have seeds := seedPools_getSnapshot env (finalState_sameKeys env fleet)
  have estimated : ∃ estimate,
      estimateExecutor env (getSnapshot env (finalState env fleet)) params = .ok estimate ∧
        estimate.incentive = none := by
    cases modelOff : isModelOff env.settings params.gpuModel with
    | true => exact estimateExecutor_of_not_offered env params seeds (.inl modelOff)
    | false =>
      cases known : baseGpuMap.lookup params.gpuModel with
      | none => exact estimateExecutor_of_not_offered env params seeds (.inr known)
      | some baseModel =>
        rcases unscored (totalMapWithHypo (getSnapshot env (finalState env fleet)) params) with
          ⟨result, returned, none⟩
        rcases completes.rented_estimate rented modelOff known returned with
          ⟨estimate, made, isSome, -⟩
        rw [none, Option.isSome_none, Option.isSome_eq_false_iff, Option.isNone_iff_eq_none]
          at isSome
        exact ⟨estimate, made, isSome⟩
  rcases estimated with ⟨estimate, made, promised⟩
  rcases unscored later with ⟨result, returned, none⟩
  rcases joins.rented_live rented scored with ⟨paidResult, paidReturned, isSome, -⟩
  rw [returned] at paidReturned
  cases paidReturned
  rw [none, Option.isSome_none, Option.isSome_eq_false_iff, Option.isNone_iff_eq_none] at isSome
  exact ⟨estimate, _, made, (calculateMiningScores_eq_ok_iff _ _).mpr ⟨joins, rfl⟩,
    isSome.trans promised.symm⟩

/-- A scored executor of an unknown model breaks the live run, and one of a model that is off
is paid a number where the estimate has none. -/
theorem on_and_known_of_estimateIsLive (rented : params.isRented = true)
    (scored : hotkey ∉ env.getScoringExcludedHotkeys)
    (successful : (hypotheticalNode env.settings params).isSuccessful = true)
    (agrees : EstimateIsLive env fleet params hotkey later) :
    isModelOff env.settings params.gpuModel = false ∧
      ∃ baseModel, baseGpuMap.lookup params.gpuModel = some baseModel := by
  rcases agrees with ⟨estimate, live, made, run, same⟩
  rcases (calculateMiningScores_eq_ok_iff _ _).mp run with ⟨joins, rfl⟩
  rcases joins.rented_live rented scored with ⟨result, returned, isSome, -⟩
  rw [prepareJobResult_isSome rented successful returned, same] at isSome
  have seeds := seedPools_getSnapshot env (finalState_sameKeys env fleet)
  constructor
  · by_contra modelOff
    rw [Bool.not_eq_false] at modelOff
    rcases estimateExecutor_of_not_offered env params seeds (.inl modelOff) with
      ⟨other, otherMade, none⟩
    rw [made] at otherMade
    cases otherMade
    rw [none] at isSome
    cases isSome
  · have readable := (prepareJobResult_succeeds_iff (env.withDenominators later)
      ⟨rfl, rfl, rfl, rfl⟩).mp ⟨result, returned⟩
    rw [isReadable, show (JobResult.fresh (hypotheticalNode env.settings params)).isSuccessful =
      true from successful, Bool.not_true, Bool.false_or, Bool.and_eq_true] at readable
    exact Option.isSome_iff_exists.mp ((Bool.and_eq_true _ _).mp readable.1).1

theorem estimateIsLive_iff_pay (completes : Completes env fleet)
    (rescored : Completes (env.withDenominators later) fleet) (rented : params.isRented = true)
    (scored : hotkey ∉ env.getScoringExcludedHotkeys)
    (successful : (hypotheticalNode env.settings params).isSuccessful = true)
    (modelOn : isModelOff env.settings params.gpuModel = false)
    (known : baseGpuMap.lookup params.gpuModel = some baseModel) {seen : ℕ}
    (sees : (getSnapshot env (finalState env fleet)).mining.totalGpuModelCountMap.getD
      params.gpuModel 0 = seen)
    {weight : ℚ}
    (weighs : miningWeight env (.fresh (hypotheticalNode env.settings params)) = weight) :
    EstimateIsLive env fleet params hotkey later ↔
      proRata (miningShare env) (scoreUnder env fleet env.totalGpuModelCountMap +
          weight / ((seen + params.gpuCount : ℕ) : ℚ))
          (weight / ((seen + params.gpuCount : ℕ) : ℚ)) =
        proRata (miningShare env)
          (scoreUnder env fleet later + weight / (later.getD params.gpuModel 0 : ℕ))
          (weight / (later.getD params.gpuModel 0 : ℕ)) := by
  have modelKnown : knownGpuModel (some params.gpuModel) = true := by simp [knownGpuModel, known]
  have joins := rescored.join params modelKnown scored (.inl rented)
  rcases (prepareJobResult_succeeds_iff (env.withDenominators
    (totalMapWithHypo (getSnapshot env (finalState env fleet)) params))
      ⟨rfl, rfl, rfl, rfl⟩).mpr (hypotheticalNode_readable _ params modelKnown) with
      ⟨estimated, estimating⟩
  rcases completes.rented_estimate rented modelOn known estimating with
    ⟨estimate, made, estimateSome, estimateValue⟩
  rcases joins.rented_live rented scored with ⟨result, returned, liveSome, liveValue⟩
  have total : (totalMapWithHypo (getSnapshot env (finalState env fleet)) params).getD
      params.gpuModel 0 = seen + params.gpuCount := by
    rw [totalMapWithHypo, PyDict.getD_add, if_pos rfl, sees]
  rw [hypothetical_miningClaim estimating, total, weighs, completes.totalMiningScore_eq]
    at estimateValue
  rw [hypothetical_miningClaim returned, weighs] at liveValue
  rw [← estimateValue, ← liveValue]
  constructor
  · rintro ⟨other, live, otherMade, run, same⟩
    rw [made] at otherMade
    cases otherMade
    rcases (calculateMiningScores_eq_ok_iff _ _).mp run with ⟨-, rfl⟩
    rw [same]
  · intro same
    refine ⟨estimate, _, made, (calculateMiningScores_eq_ok_iff _ _).mpr ⟨joins, rfl⟩, ?_⟩
    apply eq_of_isSome_of_getD
    · rw [liveSome, estimateSome, prepareJobResult_isSome rented successful estimating,
        prepareJobResult_isSome rented successful returned]
    · exact same.symm

/-- The executor is not scored, or it is paid nothing, or nobody of its model has a weight and
nobody at all has one or the snapshot counts its model as the cycle does. -/
def RentedEstimateExact (env : Env) (fleet : Fleet) (params : ExecutorEstimateParams) : Prop :=
  (hypotheticalNode env.settings params).isSuccessful = false ∨
    (isModelOff env.settings params.gpuModel = false ∧
      (∃ baseModel, baseGpuMap.lookup params.gpuModel = some baseModel) ∧
      (miningWeight env (.fresh (hypotheticalNode env.settings params)) = 0 ∨
        miningShare env = 0 ∨
        ((∀ item ∈ fleet.scored, modelOf fleet item = params.gpuModel →
            weightOf env fleet item = 0) ∧
          ((∀ item ∈ fleet.scored, weightOf env fleet item = 0) ∨
            ∀ result ∈ fleet.results, result.gpuModel.getD "" = params.gpuModel →
              countsInSnapshot env result = true → isPausedOrInMaintenance result = false))))

section Counted

variable (completes : Completes env fleet)
  (totals : env.totalGpuModelCountMap =
    countGpusByModel (countsInDenominator env) fleet.results)
  (laterTotals : later =
    countGpusByModel (countsInDenominator env) (joined env fleet params hotkey).results)
  (rented : params.isRented = true) (scored : hotkey ∉ env.getScoringExcludedHotkeys)

include totals laterTotals

theorem later_getD (successful : (hypotheticalNode env.settings params).isSuccessful = true)
    (other : String) :
    later.getD other 0 = env.totalGpuModelCountMap.getD other 0 +
      if other = params.gpuModel then params.gpuCount else 0 := by
  rw [laterTotals, totals, countGpusByModel_append, countsInDenominator_hypothetical, successful]
  congr 1
  by_cases same : params.gpuModel = other
  · subst same
    rw [if_pos rfl]
    exact if_pos ⟨rfl, rfl⟩
  · rw [if_neg (Ne.symm same)]
    exact if_neg fun both => same both.2

include completes rented scored

theorem estimateIsLive_iff_weights
    (successful : (hypotheticalNode env.settings params).isSuccessful = true)
    (modelOn : isModelOff env.settings params.gpuModel = false)
    (known : baseGpuMap.lookup params.gpuModel = some baseModel) :
    EstimateIsLive env fleet params hotkey later ↔ RentedEstimateExact env fleet params := by
  have within : ∀ result ∈ fleet.results, countsInDenominator env result = true →
      countsInSnapshot env result = true := fun _ _ => countsInSnapshot_of_countsInDenominator
  have added := later_getD totals laterTotals successful
  have backed : ∀ item ∈ fleet.scored, weightOf env fleet item ≠ 0 →
      env.totalGpuModelCountMap.getD (modelOf fleet item) 0 ≠ 0 := by
    intro item member weighs
    rw [totals]
    exact counted_of_mined (mined_of_miningWeight weighs) member
  have sees : env.totalGpuModelCountMap.getD params.gpuModel 0 ≤
      (countGpusByModel (countsInSnapshot env) fleet.results).getD params.gpuModel 0 := by
    rw [totals]
    exact countGpusByModel_le within _
  have seenAlike : (countGpusByModel (countsInSnapshot env) fleet.results).getD
      params.gpuModel 0 = env.totalGpuModelCountMap.getD params.gpuModel 0 ↔
      ∀ result ∈ fleet.results, result.gpuModel.getD "" = params.gpuModel →
        countsInSnapshot env result = true → isPausedOrInMaintenance result = false := by
    rw [totals, countGpusByModel_getD_eq_iff within]
    exact forall₃_congr fun result _ _ => counted_alike_iff result
  have count_pos : 0 < params.gpuCount :=
    ValidatedNode.gpuCount_pos_of_isSuccessful successful
  rw [estimateIsLive_iff_pay completes (completes.withDenominators totals later) rented scored
    successful modelOn known (completes.snapshot_getD params.gpuModel) rfl, RentedEstimateExact,
    successful, or_iff_right (by decide), and_iff_right modelOn, and_iff_right ⟨baseModel, known⟩]
  by_cases noWeight : miningWeight env (.fresh (hypotheticalNode env.settings params)) = 0
  · rw [noWeight, zero_div, zero_div, proRata_zero_claim, proRata_zero_claim]
    exact iff_of_true rfl (.inl rfl)
  · have weight_pos := lt_of_le_of_ne (miningWeight_nonneg env
      (.fresh (hypotheticalNode env.settings params))) (Ne.symm noWeight)
    rw [or_iff_right noWeight, rented_pay_eq_iff backed weight_pos count_pos sees added, seenAlike]

theorem Completes.estimateIsLive_iff :
    EstimateIsLive env fleet params hotkey later ↔ RentedEstimateExact env fleet params := by
  cases successful : (hypotheticalNode env.settings params).isSuccessful with
  | false =>
    exact iff_of_true (estimateIsLive_of_failed completes
      (completes.withDenominators totals later) rented scored successful) (.inl successful)
  | true =>
    by_cases offered : isModelOff env.settings params.gpuModel = false ∧
      ∃ baseModel, baseGpuMap.lookup params.gpuModel = some baseModel
    · rcases offered with ⟨modelOn, baseModel, known⟩
      exact estimateIsLive_iff_weights completes totals laterTotals rented scored successful modelOn
        known
    · refine iff_of_false
        (fun agrees => offered (on_and_known_of_estimateIsLive rented scored successful agrees)) ?_
      rintro (failed | ⟨modelOn, known, -⟩)
      · rw [successful] at failed
        cases failed
      · exact offered ⟨modelOn, known⟩

end Counted

end Cycle

def scoreCycle (env : Env) (rentedExecutors : List (String × String)) (fleet : Fleet) :
    Raising PyError IncentiveState IncentiveState :=
  let (settled, denominators) := settleCycleResults env rentedExecutors fleet
  calculateMiningScores (env.withDenominators denominators) settled

/-- After a completed cycle the estimate of a rented executor equals its pay in a cycle it has
joined, under a hotkey that is not excluded, exactly under `RentedEstimateExact`. -/
theorem rented_estimate_eq_live_pay_iff (env : Env) (rentedExecutors : List (String × String))
    (fleet : Fleet) {settled : Fleet} {denominators : PyDict String ℕ}
    (settles : settleCycleResults env rentedExecutors fleet = (settled, denominators))
    {final : IncentiveState}
    (run : calculateMiningScores (env.withDenominators denominators) settled = .ok final)
    (params : ExecutorEstimateParams) (rented : params.isRented = true) (hotkey : String)
    (scored : hotkey ∉ env.getScoringExcludedHotkeys) :
    (∃ estimate live,
      estimateExecutor (env.withDenominators denominators)
        (getSnapshot (env.withDenominators denominators) final) params = .ok estimate ∧
      scoreCycle env rentedExecutors
        (fleet.append hotkey (hypotheticalNode env.settings params)) = .ok live ∧
      (live.heap (.node fleet.freshId)).incentive = estimate.incentive) ↔
    RentedEstimateExact env settled params := by
  rcases (calculateMiningScores_eq_ok_iff _ _).mp run with ⟨completes, rfl⟩
  rcases Prod.mk.inj settles with ⟨isSettled, counted⟩
  rw [isSettled] at counted
  have joins : settleDuplicates env.runtime rentedExecutors
      (fleet.append hotkey (hypotheticalNode env.settings params)) =
      settled.append hotkey (hypotheticalNode env.settings params) := by
    have silent : DuplicateExecutor.Silent env.runtime (hypotheticalNode env.settings params) :=
      ⟨by simp [hypotheticalNode], rfl⟩
    rw [settleDuplicates_append rentedExecutors fleet hotkey silent, isSettled]
  have sameFresh : settled.freshId = fleet.freshId := by
    rw [← isSettled, settleDuplicates_lists]
    rfl
  have agrees : EstimateIsLive (env.withDenominators denominators) settled params hotkey
      (countGpusByModel (countsInDenominator env)
        (settled.append hotkey (hypotheticalNode env.settings params)).results) ↔
      RentedEstimateExact (env.withDenominators denominators) settled params :=
    completes.estimateIsLive_iff counted.symm rfl rented scored
  rw [EstimateIsLive, sameFresh] at agrees
  simp only [scoreCycle, settleCycleResults, joins]
  exact agrees

section Sample

def rentedFleet : Fleet := .ofMiner "miner" 1 fun _ => Sample.rented

def rentedSettled : Fleet × PyDict String ℕ := settleCycleResults Sample.env [] rentedFleet

def rentedEnv : Env := Sample.env.withDenominators rentedSettled.2

def rentedParams (gpuModel : String) : ExecutorEstimateParams where
  gpuModel := gpuModel
  gpuCount := 8
  isRented := true

theorem rentedFleet_completes : Completes rentedEnv rentedSettled.1 := by
  rw [completes_iff]
  decide +kernel

theorem rentedFleet_runs :
    calculateMiningScores rentedEnv rentedSettled.1 =
      .ok (finalState rentedEnv rentedSettled.1) :=
  (calculateMiningScores_eq_ok_iff _ _).mpr ⟨rentedFleet_completes, rfl⟩

theorem other_model_estimate_is_live :
    ∃ estimate live,
      estimateExecutor rentedEnv (getSnapshot rentedEnv (finalState rentedEnv rentedSettled.1))
        (rentedParams "NVIDIA H200") = .ok estimate ∧
      scoreCycle Sample.env [] (rentedFleet.append "newcomer"
        (hypotheticalNode Sample.env.settings (rentedParams "NVIDIA H200"))) = .ok live ∧
      (live.heap (.node rentedFleet.freshId)).incentive = estimate.incentive :=
  (rented_estimate_eq_live_pay_iff Sample.env [] rentedFleet rfl rentedFleet_runs
    (rentedParams "NVIDIA H200") rfl "newcomer" (by decide)).mpr
    (.inr ⟨by decide, ⟨_, rfl⟩, .inr (.inr ⟨by decide +kernel, .inr (by decide +kernel)⟩)⟩)

theorem same_model_estimate_differs :
    calculateMiningScores rentedEnv rentedSettled.1 =
        .ok (finalState rentedEnv rentedSettled.1) ∧
      (∀ result ∈ rentedSettled.1.results, result.isSuccessful = true) ∧
      (estimateExecutor rentedEnv (getSnapshot rentedEnv (finalState rentedEnv rentedSettled.1))
        (rentedParams Sample.gpuModel)).toOption.map RentalPriceEstimate.incentive =
        some (some (1 / 30)) ∧
      (scoreCycle Sample.env [] (rentedFleet.append "newcomer" (hypotheticalNode
        Sample.env.settings (rentedParams Sample.gpuModel)))).toOption.map
          (fun live => (live.heap (.node rentedFleet.freshId)).incentive) =
        some (some (1 / 20)) :=
  ⟨rentedFleet_runs, by decide +kernel, by decide +kernel, by decide +kernel⟩

end Sample

end RentalPrice

end Lium
