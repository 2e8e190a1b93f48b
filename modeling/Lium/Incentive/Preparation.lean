import Lium.Incentive.GateFrame
import Lium.Incentive.RentalPrice

/-! # What preparing a result does to it

`PreparedResult` says which fields the pre-pass may write. `Pooled` and `Priced` say what
it writes there: each scored result has a nonnegative mining score, is in at most one of
the pools, and carries the rates of that pool.
-/

namespace Lium

open Raising Scoring

variable {result : JobResult}

theorem getBaseModelForGpu_eq_ok {baseModel : String}
    (found : getBaseModelForGpu result.gpuModel = .ok baseModel) :
    result.baseModel = baseModel := by
  unfold getBaseModelForGpu at found
  unfold JobResult.baseModel
  split at found
  · next known => rw [known]; exact Except.ok.inj found
  · cases found

variable {original : JobResult} {prepared : JobResult}

namespace Scoring

/-! ## Nonnegative multipliers -/

theorem rentedSysboxMultiplier_nonneg (env : Env) (result : JobResult) :
    0 ≤ rentedSysboxMultiplier env result := by
  rw [rentedSysboxMultiplier]
  split
  · exact zero_le_one
  · split
    · exact sub_nonneg.mpr env.settings.portionForSysboxRented.le_one
    · exact sub_nonneg.mpr env.settings.portionForSysbox.le_one

theorem uptimeMultiplierOf_nonneg (env : Env) (result : JobResult) :
    0 ≤ uptimeMultiplierOf env result := by
  simp only [uptimeMultiplierOf]
  split_ifs
  · exact zero_le_one
  · have remaining := sub_nonneg.mpr env.settings.portionForUptime.le_one
    have uptime : (0 : ℚ) ≤ min 1 ((env.redis.executorUptime result.executorInfo : ℚ) /
        env.settings.uptimeRequiredMinutes) :=
      le_min zero_le_one (div_nonneg (Nat.cast_nonneg _) (Nat.cast_nonneg _))
    exact add_nonneg remaining (mul_nonneg env.settings.portionForUptime.nonneg uptime)

theorem spotRentalFactor_nonneg (env : Env) (result : JobResult) :
    0 ≤ spotRentalFactor env result := by
  unfold spotRentalFactor
  split_ifs <;> norm_num [spotRentalIncentiveFactor]

theorem miningScoreOf_nonneg (env : Env) {factor : ℚ} (factor_nonneg : 0 ≤ factor)
    (totalGpuCount : ℕ) (result : JobResult) :
    0 ≤ miningScoreOf env factor totalGpuCount result := by
  have score := NNRat.coe_nonneg result.score
  have portion := NNRat.coe_nonneg (env.redis.portionPerGpuType (result.gpuModel.getD ""))
  have sysbox := rentedSysboxMultiplier_nonneg env result
  have uptime := uptimeMultiplierOf_nonneg env result
  have driver := env.getMinDriverMultiplier_nonneg result.nvidiaDriverVersion result.isRented
  unfold miningScoreOf
  positivity

/-! ## The fields the pre-pass writes -/

def prepareOver (original prepared : JobResult) : JobResult :=
  { original with
    gpuCount := prepared.gpuCount
    portUnpaidGpuCount := prepared.portUnpaidGpuCount
    isHotkeyExcludedFromScoring := prepared.isHotkeyExcludedFromScoring
    miningScore := prepared.miningScore
    sysboxMultiplier := prepared.sysboxMultiplier
    driverMultiplier := prepared.driverMultiplier
    uptimeMultiplier := prepared.uptimeMultiplier
    gpuPortion := prepared.gpuPortion
    totalGpuCount := prepared.totalGpuCount
    effectiveRate := prepared.effectiveRate
    hourlyRate := prepared.hourlyRate
    maxCap := prepared.maxCap
    countBucket := prepared.countBucket
    eligibleForRentalShare := prepared.eligibleForRentalShare
    spotPayCandidate := prepared.spotPayCandidate
    zeroIncentiveReasons := prepared.zeroIncentiveReasons }

structure PreparedResult (original prepared : JobResult) : Prop where
  frame : prepareOver original prepared = prepared
  gpuTotal : prepared.gpuCount + prepared.portUnpaidGpuCount =
    original.gpuCount + original.portUnpaidGpuCount
  gpuCount_pos : 0 < original.gpuCount → 0 < prepared.gpuCount
  whole : original.isSplitRemainder = false → prepared.gpuCount = original.gpuCount

namespace PreparedResult

theorem of_frame (frame : prepareOver original prepared = prepared)
    (gpuCount : prepared.gpuCount = original.gpuCount)
    (unpaid : prepared.portUnpaidGpuCount = original.portUnpaidGpuCount) :
    PreparedResult original prepared where
  frame := frame
  gpuTotal := by rw [gpuCount, unpaid]
  gpuCount_pos := fun positive => gpuCount ▸ positive
  whole := fun _ => gpuCount

theorem refl (result : JobResult) : PreparedResult result result := of_frame rfl rfl rfl

theorem isSplitRemainder (step : PreparedResult original prepared) :
    prepared.isSplitRemainder = original.isSplitRemainder :=
  (congrArg JobResult.isSplitRemainder step.frame).symm

theorem trans {first second third : JobResult} (left : PreparedResult first second)
    (right : PreparedResult second third) : PreparedResult first third where
  frame := by
    have composed : prepareOver first third =
      prepareOver (prepareOver first second) third := rfl
    rw [composed, left.frame, right.frame]
  gpuTotal := right.gpuTotal.trans left.gpuTotal
  gpuCount_pos := right.gpuCount_pos ∘ left.gpuCount_pos
  whole := fun notRemainder =>
    (right.whole (left.isSplitRemainder.trans notRemainder)).trans (left.whole notRemainder)

theorem of_gated {gated : JobResult} (step : GatedResult original gated) :
    PreparedResult original gated := by
  have covered : prepareOver original (gateOver original gated) =
    gateOver original gated := rfl
  rw [step.frame] at covered
  exact { step with frame := covered }

end PreparedResult

structure Unscored (result : JobResult) : Prop where
  spot : result.spotPayCandidate = false
  eligible : result.eligibleForRentalShare = false
  miningScore : result.miningScore = none
  unpaid : result.portUnpaidGpuCount = 0

theorem Unscored.withReasons (unscored : Unscored result)
    (reasons : List ZeroIncentiveReason) : Unscored (result.withReasons reasons) :=
  { unscored with }

/-! ## The pool a scored result is in -/

structure Pooled (env : Env) (result : JobResult) : Prop where
  scored : ∃ score, result.miningScore = some score ∧ 0 ≤ score
  outOfMining : result.isRented = false → result.miningScore = some 0
  spot : result.spotPayCandidate = true → result.eligibleForRentalShare = false ∧
    onSpotPayPath result = true ∧ result.fillerRevenuePerGpuHour.isSome = true
  eligible : result.eligibleForRentalShare = true → result.isRented = false ∧
    onSpotPayPath result = false ∧
    result.baseModel ∈ env.config.rentalIncentiveGpuTypes

variable {env : Env}

theorem Pooled.score_nonneg (pooled : Pooled env result)
    {score : ℚ} (scored : result.miningScore = some score) : 0 ≤ score := by
  obtain ⟨value, valueScored, nonneg⟩ := pooled.scored
  rw [scored, Option.some.injEq] at valueScored
  exact valueScored ▸ nonneg

theorem Pooled.noMiningScore (pooled : Pooled env result)
    (idle : result.isRented = false) : result.miningScore.getD 0 = 0 := by
  rw [pooled.outOfMining idle, Option.getD_some]

theorem Pooled.ofMiningScore {score : ℚ}
    (spot : result.spotPayCandidate = false) (eligible : result.eligibleForRentalShare = false)
    (scored : result.miningScore = some score) (nonneg : 0 ≤ score)
    (idle : result.isRented = false → score = 0) : Pooled env result where
  scored := ⟨score, scored, nonneg⟩
  outOfMining := fun isIdle => by rw [scored, idle isIdle]
  spot := fun isSpot => by rw [spot] at isSpot; cases isSpot
  eligible := fun isEligible => by rw [eligible] at isEligible; cases isEligible

theorem Pooled.withReasons (pooled : Pooled env result)
    (reasons : List ZeroIncentiveReason) : Pooled env (result.withReasons reasons) :=
  { pooled with }

theorem Pooled.recordReasonIf (pooled : Pooled env result)
    (condition : Bool) (reason : ZeroIncentiveReason) :
    Pooled env (result.recordReasonIf condition reason) := by
  cases condition
  · exact pooled
  · exact pooled.withReasons _

theorem PreparedResult.recordReasonIf (result : JobResult) (condition : Bool)
    (reason : ZeroIncentiveReason) :
    PreparedResult result (result.recordReasonIf condition reason) :=
  .of_gated (.recordReasonIf result condition reason)

/-! ## Scoring a result -/

def PreparedPooled (env : Env) (original result : JobResult) : Prop :=
  PreparedResult original result ∧ Pooled env result

theorem PreparedPooled.recordReasonIf (pooled : PreparedPooled env original result)
    (condition : Bool) (reason : ZeroIncentiveReason) :
    PreparedPooled env original (result.recordReasonIf condition reason) :=
  ⟨pooled.1.trans (.recordReasonIf _ _ _), pooled.2.recordReasonIf _ _⟩

theorem outOfPools_preparedPooled (env : Env)
    (spot : result.spotPayCandidate = false) :
    PreparedPooled env result (outOfPools result) :=
  ⟨.of_frame rfl rfl rfl, .ofMiningScore spot rfl rfl le_rfl fun _ => rfl⟩

theorem spotCandidate_preparedPooled
    (onPath : onSpotPayPath result = true)
    (average : result.fillerRevenuePerGpuHour.isSome = true) :
    PreparedPooled env result { outOfPools result with spotPayCandidate := true } := by
  refine ⟨.of_frame rfl rfl rfl, ⟨0, rfl, le_rfl⟩, fun _ => rfl,
    fun _ => ⟨rfl, onPath, average⟩, ?_⟩
  intro eligible
  cases eligible

theorem qualifySpotNode_preparedPooled (env : Env)
    (spot : result.spotPayCandidate = false) (onPath : onSpotPayPath result = true)
    (excluded : Bool) : PreparedPooled env result (qualifySpotNode result excluded) := by
  have out := outOfPools_preparedPooled env spot
  simp only [qualifySpotNode]
  split_ifs with _ _ noAverage
  · exact out
  · exact ⟨out.1.trans (.of_gated (.withReasons _ _)), out.2.withReasons _⟩
  · exact ⟨out.1.trans (.of_gated (.withReasons _ _)), out.2.withReasons _⟩
  · exact spotCandidate_preparedPooled onPath (by
      simpa [outOfPools, Option.isSome_iff_ne_none] using noAverage)

theorem qualifySpotNodeByTheSecureDecision_preparedPooled
    (spot : result.spotPayCandidate = false) (onPath : onSpotPayPath result = true) :
    PreparedPooled env result (qualifySpotNodeByTheSecureDecision result) := by
  have out := outOfPools_preparedPooled env spot
  simp only [qualifySpotNodeByTheSecureDecision]
  split_ifs with noAverage
  · exact ⟨out.1.trans (.of_gated (.withReasons _ _)), out.2.withReasons _⟩
  · exact spotCandidate_preparedPooled onPath (by
      simpa [outOfPools, Option.isSome_iff_ne_none] using noAverage)

theorem defaultExecutorScore_preparedPooled {factor : ℚ} (result : JobResult)
    (spot : result.spotPayCandidate = false) (eligible : result.eligibleForRentalShare = false)
    (rented : result.isRented = true) (factor_nonneg : 0 ≤ factor) :
    PreparedPooled env result (defaultExecutorScore env factor result) := by
  have zero : ∀ kept : JobResult, GatedResult result kept →
      PreparedPooled env result { kept with miningScore := some 0 } := by
    intro kept step
    have same : kept.spotPayCandidate = false ∧ kept.eligibleForRentalShare = false := by
      rw [← step.frame]
      exact ⟨spot, eligible⟩
    exact ⟨(PreparedResult.of_gated step).trans (.of_frame rfl rfl rfl),
      .ofMiningScore same.1 same.2 rfl le_rfl fun _ => rfl⟩
  simp only [defaultExecutorScore]
  split_ifs
  · exact zero _ (.recordReasonIf _ _ _)
  · exact zero _ (.recordReasonIf _ _ _)
  · exact zero _ (.refl _)
  · exact zero _ (.refl _)
  · exact ⟨.of_frame rfl rfl rfl, .ofMiningScore spot eligible rfl le_rfl fun _ => rfl⟩
  · apply PreparedPooled.recordReasonIf
    exact ⟨.of_frame rfl rfl rfl,
      .ofMiningScore spot eligible rfl (miningScoreOf_nonneg env factor_nonneg _ result)
        fun idle => by rw [show _ = result.isRented from rfl, rented] at idle; cases idle⟩

theorem recordZeroDriverAndSysboxReasons_eq_withReasons
    (driverMultiplier sysboxMultiplier : ℚ) (result : JobResult) :
    ∃ reasons, recordZeroDriverAndSysboxReasons driverMultiplier sysboxMultiplier result =
      result.withReasons reasons := by
  rcases result.recordReasonIf_eq_withReasons (driverMultiplier = 0) .nvidiaDriverBelowMinimum
    with ⟨first, equal⟩
  rw [recordZeroDriverAndSysboxReasons, equal]
  exact (result.withReasons first).recordReasonIf_eq_withReasons _ _

theorem recordBlockedReasons_eq_withReasons (env : Env) (state : Candidacy) :
    ∃ reasons, recordBlockedReasons env state = state.result.withReasons reasons := by
  rw [recordBlockedReasons]
  split_ifs
  · exact recordZeroDriverAndSysboxReasons_eq_withReasons _ _ _
  · exact ⟨state.result.zeroIncentiveReasons, rfl⟩

theorem choosePool_preparedPooled (baseModel : String) (excluded : Bool)
    {eligible : Bool} (spot : result.spotPayCandidate = false)
    (candidate : eligible = true →
      result.isRented = false ∧ result.baseModel ∈ env.config.rentalIncentiveGpuTypes) :
    PreparedPooled env result (choosePool env baseModel excluded eligible result) := by
  simp only [choosePool]
  split_ifs with spotPaid isEligible idle
  · rw [Bool.and_eq_true] at spotPaid
    exact qualifySpotNodeByTheSecureDecision_preparedPooled spot spotPaid.1
  · subst isEligible
    obtain ⟨idle, offered⟩ := candidate rfl
    have notSpot : onSpotPayPath result = false := by simpa using spotPaid
    refine ⟨.of_frame rfl rfl rfl, ⟨0, rfl, le_rfl⟩, fun _ => rfl, ?_,
      fun _ => ⟨idle, notSpot, offered⟩⟩
    intro isSpot
    rw [spot] at isSpot
    cases isSpot
  all_goals
    have blocked : eligible = false := Bool.eq_false_iff.mpr isEligible
    subst blocked
  · apply PreparedPooled.recordReasonIf
    exact ⟨.of_frame rfl rfl rfl, .ofMiningScore spot rfl rfl le_rfl fun _ => rfl⟩
  · exact ⟨.of_frame rfl rfl rfl, .ofMiningScore spot rfl rfl le_rfl fun _ => rfl⟩
  · obtain ⟨prepared, pooled⟩ := defaultExecutorScore_preparedPooled
      { result with eligibleForRentalShare := false } spot rfl (by simpa using idle)
      (spotRentalFactor_nonneg env { result with eligibleForRentalShare := false })
    have withdrawn : PreparedResult result { result with eligibleForRentalShare := false } :=
      .of_frame rfl rfl rfl
    exact ⟨withdrawn.trans prepared, pooled⟩

theorem recordReasons_eq_withReasons (result : JobResult)
    (reasons : List ZeroIncentiveReason) :
    recordReasons result reasons =
      result.withReasons (result.zeroIncentiveReasons ++ reasons) := by
  unfold recordReasons
  induction reasons generalizing result with
  | nil => rw [List.append_nil]; rfl
  | cons reason rest induction =>
    rw [List.foldl_cons, induction]
    simp [JobResult.recordReason, JobResult.withReasons]

theorem recordOutdatedImageReason_eq_withReasons (env : Env) (result : JobResult) :
    ∃ reasons, recordOutdatedImageReason env result = result.withReasons reasons :=
  result.recordReasonIf_eq_withReasons _ _

theorem recordValidationFailedReason_eq_withReasons (result : JobResult) :
    ∃ reasons, recordValidationFailedReason result = result.withReasons reasons :=
  result.recordReasonIf_eq_withReasons _ _

theorem recordExclusions_eq_withReasons (env : Env) (result : JobResult) :
    ∃ reasons, recordReasons (recordOutdatedImageReason env result)
      (reasonsExcludedFromBothPools env (recordOutdatedImageReason env result)) =
        result.withReasons reasons := by
  obtain ⟨first, outdated⟩ := recordOutdatedImageReason_eq_withReasons env result
  rw [recordReasons_eq_withReasons, outdated]
  exact ⟨_, rfl⟩

def excludedFromBothPools (env : Env) (result : JobResult) : Bool :=
  hasOutdatedImage env result || !(reasonsExcludedFromBothPools env result).isEmpty

/-- The exclusions do not depend on the reasons recorded so far. -/
theorem excludedFromBothPools_recorded (env : Env) (result : JobResult) :
    (hasOutdatedImage env result ||
      !(reasonsExcludedFromBothPools env (recordOutdatedImageReason env result)).isEmpty) =
      excludedFromBothPools env result := by
  rcases recordOutdatedImageReason_eq_withReasons env result with ⟨first, outdated⟩
  rw [outdated]
  rfl

theorem scoreInPool_eq_ok {baseModel : String} {excluded eligible : Bool} {scored : JobResult}
    (returned : scoreInPool env baseModel excluded eligible result = .ok scored) :
    scored = choosePool env baseModel excluded eligible result := by
  rw [scoreInPool] at returned
  split at returned
  · rw [bind_eq_ok_iff] at returned
    rcases returned with ⟨after, -, chosen⟩
    exact (Except.ok.inj chosen).symm
  · exact (Except.ok.inj returned).symm

theorem baseScored_prepared (env : Env) (result : JobResult) :
    PreparedResult result (baseScored env { result with eligibleForRentalShare := false }) :=
  .of_frame rfl rfl rfl

theorem calculateExecutorScore_eq_ok {scored : JobResult}
    (returned : calculateExecutorScore env result = .ok scored) :
    ∃ reasons,
      (onSpotPayPath result = true ∧
        scored = qualifySpotNode (result.withReasons reasons)
          (excludedFromBothPools env result)) ∨
      (excludedFromBothPools env result = true ∧
        scored = outOfPools (result.withReasons reasons)) ∨
      ∃ baseModel state, runIdlePoolGates env baseModel
          ⟨result.withReasons reasons, isIdlePoolCandidate env baseModel result,
            isIdlePoolCandidate env baseModel result && !excludedFromBothPools env result⟩ =
            .ok state ∧
        scored = choosePool env baseModel (excludedFromBothPools env result) state.eligible
          (recordBlockedReasons env state) := by
  rcases recordExclusions_eq_withReasons env result with ⟨reasons, recorded⟩
  refine ⟨reasons, ?_⟩
  simp only [calculateExecutorScore, recorded, excludedFromBothPools_recorded] at returned
  split_ifs at returned with onPath unknown
  · exact .inl ⟨((Bool.and_eq_true _ _).mp onPath).1, (Except.ok.inj returned).symm⟩
  · exact .inr (.inl ⟨((Bool.and_eq_true _ _).mp unknown).1, (Except.ok.inj returned).symm⟩)
  · rw [bind_eq_ok_iff] at returned
    rcases returned with ⟨baseModel, -, returned⟩
    rw [bind_eq_ok_iff] at returned
    rcases returned with ⟨state, gates, chosen⟩
    exact .inr (.inr ⟨baseModel, state, gates, scoreInPool_eq_ok chosen⟩)

theorem calculateExecutorScore_preparedPooled (env : Env)
    (unscored : Unscored result) :
    Ensures (PreparedResult result) (PreparedPooled env result)
      (calculateExecutorScore env result) := by
  obtain ⟨reasons, recorded⟩ := recordExclusions_eq_withReasons env result
  simp only [calculateExecutorScore, recorded]
  generalize (hasOutdatedImage env result ||
    !(reasonsExcludedFromBothPools env (recordOutdatedImageReason env result)).isEmpty) = excluded
  have prepared := PreparedResult.of_gated (.withReasons result reasons)
  have notSpot : (result.withReasons reasons).spotPayCandidate = false := unscored.spot
  have untouched : (result.withReasons reasons).portUnpaidGpuCount = 0 := unscored.unpaid
  generalize result.withReasons reasons = kept at prepared notSpot untouched ⊢
  split_ifs with onPath unknown
  · rw [Bool.and_eq_true] at onPath
    have qualified := qualifySpotNode_preparedPooled env notSpot onPath.1 excluded
    exact ⟨prepared.trans qualified.1, qualified.2⟩
  · have out := outOfPools_preparedPooled env notSpot
    exact ⟨prepared.trans out.1, out.2⟩
  · have known : Ensures (PreparedResult result) (fun base => kept.baseModel = base)
        (atState kept (getBaseModelForGpu kept.gpuModel)) :=
      ensures_atState _ prepared fun base found => getBaseModelForGpu_eq_ok found
    refine known.bind fun base isBase => ?_
    refine Ensures.bind ((runIdlePoolGates_gated env base _ untouched).mono
      (fun _ gated => prepared.trans (.of_gated gated)) (fun _ gated => gated)) ?_
    intro state gated
    obtain ⟨moreReasons, blocked⟩ := recordBlockedReasons_eq_withReasons env state
    rw [blocked]
    have sameNode : (state.result.withReasons moreReasons).spotPayCandidate = false ∧
        (state.result.withReasons moreReasons).isRented = kept.isRented ∧
        (state.result.withReasons moreReasons).baseModel = kept.baseModel := by
      rw [← gated.frame]
      exact ⟨notSpot, rfl, rfl⟩
    have chosen : PreparedPooled env (state.result.withReasons moreReasons)
        (choosePool env base excluded state.eligible
          (state.result.withReasons moreReasons)) :=
      choosePool_preparedPooled base excluded sameNode.1 (by
        intro eligible
        have candidate := gated.eligible eligible
        simp only [isIdlePoolCandidate, Bool.and_eq_true, Bool.not_eq_true',
          decide_eq_true_eq] at candidate
        rw [sameNode.2.1, sameNode.2.2, isBase]
        exact candidate.1.1)
    have reached : PreparedResult result (state.result.withReasons moreReasons) :=
      (prepared.trans (.of_gated gated.toGatedResult)).trans
        (.of_gated (.withReasons _ moreReasons))
    have pooled := And.intro (reached.trans chosen.1) chosen.2
    rw [scoreInPool]
    split
    · exact (ensures_atState _ (reached.trans (baseScored_prepared env _)) fun _ _ =>
        trivial).bind fun _ _ => pooled
    · exact pooled

end Scoring

namespace RentalPrice

/-! ## Pricing a result -/

theorem listedHourlyRate_nonneg (env : Env) (result : JobResult) :
    0 ≤ listedHourlyRate env result := by
  simp only [listedHourlyRate]
  split
  · exact NNRat.coe_nonneg _
  · exact le_max_of_le_left (NNRat.coe_nonneg _)

/-- What the pre-pass leaves on a result, by the pool it is in. -/
structure Priced (env : Env) (result : JobResult) : Prop where
  miningScore_nonneg : ∀ score, result.miningScore = some score → 0 ≤ score
  outOfMining : result.isRented = false → result.miningScore.getD 0 = 0
  spot : result.spotPayCandidate = true → result.eligibleForRentalShare = false ∧
    onSpotPayPath result = true ∧ 0 ≤ result.effectiveRateValue
  eligible : result.eligibleForRentalShare = true → result.isRented = false ∧
    onSpotPayPath result = false ∧
    result.countBucket.isSome = true ∧
    result.maxCap = some (env.config.cap result.bucketKey.1 result.bucketKey.2)
  rates_nonneg : result.eligibleForRentalShare = true → 0 ≤ result.hourlyRateValue ∧
    0 ≤ result.sysboxMultiplierValue ∧ 0 ≤ result.driverMultiplierValue

variable {env : Env}

theorem Priced.recordReasonIf (priced : Priced env result)
    (condition : Bool) (reason : ZeroIncentiveReason) :
    Priced env (result.recordReasonIf condition reason) := by
  obtain ⟨reasons, equal⟩ := result.recordReasonIf_eq_withReasons condition reason
  rw [equal]
  exact { priced with }

theorem Priced.ofUnpaid
    (spot : result.spotPayCandidate = false) (eligible : result.eligibleForRentalShare = false)
    (nonneg : ∀ score, result.miningScore = some score → 0 ≤ score)
    (idle : result.isRented = false → result.miningScore.getD 0 = 0) : Priced env result where
  miningScore_nonneg := nonneg
  outOfMining := idle
  spot := fun isSpot => by rw [spot] at isSpot; cases isSpot
  eligible := fun isEligible => by rw [eligible] at isEligible; cases isEligible
  rates_nonneg := fun isEligible => by rw [eligible] at isEligible; cases isEligible

theorem Priced.idle_of_paid (priced : Priced env result)
    (paid : result.paidFromRentalShare = true) : result.isRented = false := by
  rw [JobResult.paidFromRentalShare, Bool.or_eq_true] at paid
  rcases paid with eligible | spot
  · exact (priced.eligible eligible).1
  · have onPath := (priced.spot spot).2.1
    simp only [onSpotPayPath, Bool.and_eq_true, Bool.not_eq_true'] at onPath
    exact onPath.1.2

def PreparedPriced (env : Env) (original result : JobResult) : Prop :=
  PreparedResult original result ∧ Priced env result

theorem PreparedPriced.recordReasonIf (priced : PreparedPriced env original result)
    (condition : Bool) (reason : ZeroIncentiveReason) :
    PreparedPriced env original (result.recordReasonIf condition reason) :=
  ⟨priced.1.trans (.recordReasonIf _ _ _), priced.2.recordReasonIf _ _⟩

theorem rateSpotNode_preparedPriced
    (pooled : Pooled env result) (spot : result.spotPayCandidate = true) (baseModel : String) :
    PreparedPriced env result (rateSpotNode env baseModel result) := by
  obtain ⟨notEligible, onPath, -⟩ := pooled.spot spot
  refine ⟨.of_frame rfl rfl rfl, fun score => pooled.score_nonneg, pooled.noMiningScore,
    fun _ => ⟨notEligible, onPath, ?_⟩, ?_, ?_⟩
  · apply le_min
    · exact mul_nonneg (by norm_num [fillerRevenuePayFactor]) (NNRat.coe_nonneg _)
    · refine mul_nonneg (mul_nonneg ?_ ?_) ?_
      · simp only [JobResult.hourlyRateValue, Option.getD_some]
        split_ifs
        · exact listedHourlyRate_nonneg env result
        · exact le_rfl
      · exact env.unrentedSysboxMultiplier_nonneg _
      · exact env.getMinDriverMultiplier_nonneg result.nvidiaDriverVersion false
  all_goals
    intro eligible
    rw [show (rateSpotNode env baseModel result).eligibleForRentalShare =
      result.eligibleForRentalShare from rfl, notEligible] at eligible
    cases eligible

theorem priceSpotNode_preparedPriced
    (pooled : Pooled env result) (spot : result.spotPayCandidate = true) (baseModel : String) :
    PreparedPriced env result (priceSpotNode env baseModel result) := by
  have rated := rateSpotNode_preparedPriced pooled spot baseModel
  simp only [priceSpotNode, recordZeroDriverAndSysboxReasons]
  exact (((rated.recordReasonIf _ _).recordReasonIf _ _).recordReasonIf _ _).recordReasonIf _ _

theorem rateIdleNode_preparedPriced
    (pooled : Pooled env result) (eligible : result.eligibleForRentalShare = true) :
    PreparedPriced env result (rateIdleNode env result.baseModel result) := by
  obtain ⟨idle, notSpot, -⟩ := pooled.eligible eligible
  refine ⟨.of_frame rfl rfl rfl, fun score => pooled.score_nonneg, pooled.noMiningScore, ?_,
    fun _ => ⟨idle, notSpot, rfl, rfl⟩, fun _ => ⟨listedHourlyRate_nonneg env result,
      env.unrentedSysboxMultiplier_nonneg _, env.getMinDriverMultiplier_nonneg result.nvidiaDriverVersion false⟩⟩
  intro spot
  have notEligible := (pooled.spot spot).1
  rw [eligible] at notEligible
  cases notEligible

/-- A prepared result is the recorded one, or its score priced. -/
theorem prepareJobResult_eq_ok (returned : prepareJobResult env result = .ok prepared) :
    ∃ reasons more,
      (result.isSuccessful = false ∧ prepared = result.withReasons more) ∨
        result.isSuccessful = true ∧ ∃ scored baseModel,
          calculateExecutorScore env (result.withReasons reasons) = .ok scored ∧
            prepared = priceJobResult env baseModel (scored.withReasons more) := by
  rcases recordOutdatedImageReason_eq_withReasons env result with ⟨reasons, outdated⟩
  simp only [prepareJobResult, outdated] at returned
  split_ifs at returned with failed
  · cases returned
    rcases recordValidationFailedReason_eq_withReasons (result.withReasons reasons)
      with ⟨more, noted⟩
    exact ⟨reasons, more, .inl ⟨(Bool.not_eq_true' _).mp failed, noted⟩⟩
  · rw [bind_eq_ok_iff] at returned
    rcases returned with ⟨scored, scoring, returned⟩
    rw [bind_eq_ok_iff] at returned
    rcases returned with ⟨baseModel, -, priced⟩
    cases priced
    rcases recordValidationFailedReason_eq_withReasons scored with ⟨more, noted⟩
    have successful : result.isSuccessful = true := by
      rw [Bool.not_eq_true, Bool.not_eq_false'] at failed
      exact failed
    exact ⟨reasons, more, .inr ⟨successful, scored, baseModel, scoring, by rw [noted]⟩⟩

theorem prepareJobResult_preparedPriced (env : Env)
    (unscored : Unscored result) :
    Ensures (PreparedResult result) (PreparedPriced env result)
      (prepareJobResult env result) := by
  obtain ⟨reasons, outdated⟩ := recordOutdatedImageReason_eq_withReasons env result
  simp only [prepareJobResult, outdated]
  have recorded := PreparedResult.of_gated (.withReasons result reasons)
  have unscoredKept := unscored.withReasons reasons
  generalize result.withReasons reasons = kept at recorded unscoredKept ⊢
  split_ifs
  · apply PreparedPriced.recordReasonIf
    refine ⟨recorded, .ofUnpaid unscoredKept.spot unscoredKept.eligible ?_ ?_⟩
    · intro score scored
      rw [unscoredKept.miningScore] at scored
      cases scored
    · intro _
      rw [unscoredKept.miningScore, Option.getD_none]
  · apply Ensures.bind ((calculateExecutorScore_preparedPooled env unscoredKept).mono
      (fun _ => recorded.trans) (fun _ => id))
    intro scored pooled
    have noted : PreparedPooled env kept (recordValidationFailedReason scored) :=
      pooled.recordReasonIf _ _
    generalize recordValidationFailedReason scored = noted' at noted ⊢
    have prepared := recorded.trans noted.1
    apply Ensures.bind (ensures_atState _ prepared fun base => getBaseModelForGpu_eq_ok)
    intro base isBase
    subst isBase
    change PreparedPriced env result (priceJobResult env noted'.baseModel noted')
    unfold priceJobResult
    by_cases spot : noted'.spotPayCandidate = true
    · have priced := priceSpotNode_preparedPriced noted.2 spot noted'.baseModel
      rw [if_pos spot]
      exact ⟨prepared.trans priced.1, priced.2⟩
    · rw [if_neg spot]
      by_cases eligible : noted'.eligibleForRentalShare = true
      · have priced := rateIdleNode_preparedPriced noted.2 eligible
        rw [if_neg (not_not.mpr (noted.2.eligible eligible).2.2), if_pos eligible]
        exact ⟨prepared.trans priced.1, priced.2⟩
      · have unpaid : PreparedPriced env result noted' :=
          ⟨prepared, .ofUnpaid (Bool.eq_false_iff.mpr spot) (Bool.eq_false_iff.mpr eligible)
            (fun score => noted.2.score_nonneg) noted.2.noMiningScore⟩
        rw [if_neg eligible]
        split_ifs <;> exact unpaid

end RentalPrice

end Lium
