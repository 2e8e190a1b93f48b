import Lium.Incentive.Preparation

/-! # Preparing a result without its filler revenue

Off the spot pay path no decision of the pre-pass reads the filler revenues: erasing them
before or after the preparation gives the same result.
-/

namespace Lium

variable (env : Env) {result : JobResult}

def ValidatedNode.eraseFiller (node : ValidatedNode) : ValidatedNode :=
  { node with fillerRevenuePerGpuHour := none, fillerRevenueUsdPerHour := none }

def JobResult.eraseFiller (result : JobResult) : JobResult :=
  { result with fillerRevenuePerGpuHour := none, fillerRevenueUsdPerHour := none }

theorem JobResult.recordReasonIf_eraseFiller (result : JobResult) (condition : Bool)
    (reason : ZeroIncentiveReason) :
    result.eraseFiller.recordReasonIf condition reason =
      (result.recordReasonIf condition reason).eraseFiller := by
  cases condition <;> rfl

namespace Scoring

open Raising

/-! ## The gates -/

def Candidacy.eraseFiller (state : Candidacy) : Candidacy :=
  { state with result := state.result.eraseFiller }

theorem idlePoolGate_eraseFiller {measured : Type} (enforced : Bool)
    (reason : ZeroIncentiveReason) {measure : JobResult → Except PyError (Option measured)}
    (oblivious : ∀ result : JobResult, measure result.eraseFiller = measure result)
    (state : Candidacy) :
    idlePoolGate enforced reason measure state.eraseFiller =
      mapBoth JobResult.eraseFiller Candidacy.eraseFiller
        (idlePoolGate enforced reason measure state) := by
  simp only [idlePoolGate, Candidacy.eraseFiller, oblivious]
  rw [atState_mapBoth JobResult.eraseFiller]
  apply mapBoth_bind
  intro failing _
  by_cases fails : (failing.isSome && enforced) = true
  · simp only [id, if_pos fails]
    rfl
  · simp only [id, if_neg fails]
    rfl

theorem applyPortLimit_eraseFiller (state : Candidacy) :
    applyPortLimit state.eraseFiller =
      mapBoth JobResult.eraseFiller Candidacy.eraseFiller (applyPortLimit state) := by
  simp only [applyPortLimit, Candidacy.eraseFiller]
  rw [atState_mapBoth JobResult.eraseFiller]
  apply mapBoth_bind
  intro limited _
  cases limited with
  | none => rfl
  | some limited =>
    by_cases nonePaid : limited.paidSplitCount = 0
    · simp only [id, if_pos nonePaid]
      rfl
    · simp only [id, if_neg nonePaid]
      rfl

theorem applyDiskLimit_eraseFiller (state : Candidacy) :
    applyDiskLimit state.eraseFiller = (applyDiskLimit state).eraseFiller := by
  have measured : Gates.diskLimitedRemainder state.eraseFiller.result =
    Gates.diskLimitedRemainder state.result := rfl
  simp only [applyDiskLimit, measured]
  rw [show state.eraseFiller.idlePoolCandidate = state.idlePoolCandidate from rfl]
  cases if state.idlePoolCandidate then Gates.diskLimitedRemainder state.result else none with
  | none => rfl
  | some limited =>
    by_cases nonePaid : limited.paidSplitCount = 0
    · simp only [if_pos nonePaid]
      rfl
    · simp only [if_neg nonePaid]
      rfl

theorem runIdlePoolGates_eraseFiller (baseModel : String) (state : Candidacy) :
    runIdlePoolGates env baseModel state.eraseFiller =
      mapBoth JobResult.eraseFiller Candidacy.eraseFiller
        (runIdlePoolGates env baseModel state) := by
  simp only [runIdlePoolGates]
  rw [applyPortLimit_eraseFiller]
  apply mapBoth_bind
  intro sized _
  rw [applyDiskLimit_eraseFiller, softPriceGate, idlePoolGate_eraseFiller _ _ fun _ => rfl]
  apply mapBoth_bind
  intro priced _
  rw [diskGate, idlePoolGate_eraseFiller _ _ fun _ => rfl]
  apply mapBoth_bind
  intro measured _
  rw [full8xGate, idlePoolGate_eraseFiller _ _ fun _ => rfl]
  apply mapBoth_bind
  intro capable _
  rw [powerCapGate, idlePoolGate_eraseFiller _ _ fun _ => rfl]
  apply mapBoth_bind
  intro capped _
  exact idlePoolGate_eraseFiller _ _ (fun _ => rfl) capped

/-! ## The score -/

theorem defaultExecutorScore_eraseFiller (factor : ℚ) (result : JobResult) :
    defaultExecutorScore env factor result.eraseFiller =
      (defaultExecutorScore env factor result).eraseFiller := by
  simp only [defaultExecutorScore, apply_ite JobResult.eraseFiller]
  refine ite_congr rfl (fun _ => ?_) fun _ => ite_congr rfl (fun _ => ?_) fun _ =>
    ite_congr rfl (fun _ => rfl) fun _ => ite_congr rfl (fun _ => rfl) fun _ =>
      ite_congr rfl (fun _ => rfl) fun _ => ?_
  · rw [recordOutdatedImageReason, JobResult.recordReasonIf_eraseFiller]
    rfl
  · rw [JobResult.recordReasonIf_eraseFiller]
    rfl
  · rw [← JobResult.recordReasonIf_eraseFiller]
    rfl

theorem choosePool_eraseFiller (baseModel : String) (excluded eligible : Bool)
    (offPath : onSpotPayPath result = false) :
    choosePool env baseModel excluded eligible result.eraseFiller =
      (choosePool env baseModel excluded eligible result).eraseFiller := by
  have offPathErased : onSpotPayPath result.eraseFiller = false := offPath
  simp only [choosePool, offPath, offPathErased, Bool.false_and, Bool.false_eq_true, if_false,
    apply_ite JobResult.eraseFiller]
  refine ite_congr rfl (fun _ => rfl) fun _ => ite_congr rfl (fun _ => ?_) fun _ =>
    ite_congr rfl (fun _ => rfl) fun _ => ?_
  · rw [← JobResult.recordReasonIf_eraseFiller]
    rfl
  · rw [← defaultExecutorScore_eraseFiller]
    rfl

theorem scoreInPool_eraseFiller (baseModel : String) (excluded eligible : Bool)
    (offPath : onSpotPayPath result = false) :
    scoreInPool env baseModel excluded eligible result.eraseFiller =
      mapBoth JobResult.eraseFiller JobResult.eraseFiller
        (scoreInPool env baseModel excluded eligible result) := by
  simp only [scoreInPool, choosePool_eraseFiller env baseModel excluded eligible offPath,
    apply_ite (mapBoth JobResult.eraseFiller JobResult.eraseFiller)]
  refine ite_congr rfl (fun _ => ?_) fun _ => rfl
  change Raising.atState
    (baseScored env { result with eligibleForRentalShare := false }).eraseFiller
      (isRentedAfterCutoff env result) >>= _ = _
  rw [atState_mapBoth]
  exact mapBoth_bind fun _ _ => rfl

theorem recordBlockedReasons_eraseFiller (state : Candidacy) :
    recordBlockedReasons env state.eraseFiller =
      (recordBlockedReasons env state).eraseFiller := by
  simp only [recordBlockedReasons, apply_ite JobResult.eraseFiller]
  refine ite_congr rfl (fun _ => ?_) fun _ => rfl
  rw [recordZeroDriverAndSysboxReasons, recordZeroDriverAndSysboxReasons,
    ← JobResult.recordReasonIf_eraseFiller, ← JobResult.recordReasonIf_eraseFiller]
  rfl

theorem calculateExecutorScore_eraseFiller (untouched : result.portUnpaidGpuCount = 0)
    (offPath : onSpotPayPath result = false) :
    calculateExecutorScore env result.eraseFiller =
      mapBoth JobResult.eraseFiller JobResult.eraseFiller
        (calculateExecutorScore env result) := by
  have outdated : recordOutdatedImageReason env result.eraseFiller =
      (recordOutdatedImageReason env result).eraseFiller :=
    result.recordReasonIf_eraseFiller _ _
  have exclusions : reasonsExcludedFromBothPools env
      (recordOutdatedImageReason env result.eraseFiller) =
      reasonsExcludedFromBothPools env (recordOutdatedImageReason env result) := by
    rw [outdated]
    rfl
  rcases recordExclusions_eq_withReasons env result with ⟨reasons, recorded⟩
  have recordedErased : recordReasons (recordOutdatedImageReason env result.eraseFiller)
      (reasonsExcludedFromBothPools env (recordOutdatedImageReason env result)) =
        (result.withReasons reasons).eraseFiller := by
    rw [← recorded, outdated, recordReasons_eq_withReasons, recordReasons_eq_withReasons]
    rfl
  have sameImage : hasOutdatedImage env result.eraseFiller = hasOutdatedImage env result := rfl
  simp only [calculateExecutorScore, recorded, recordedErased, exclusions, sameImage]
  generalize (hasOutdatedImage env result ||
    !(reasonsExcludedFromBothPools env (recordOutdatedImageReason env result)).isEmpty) = excluded
  have untouched : (result.withReasons reasons).portUnpaidGpuCount = 0 := untouched
  have offPath : onSpotPayPath (result.withReasons reasons) = false := offPath
  generalize result.withReasons reasons = kept at untouched offPath ⊢
  have offPathErased : onSpotPayPath kept.eraseFiller = false := offPath
  simp only [offPath, offPathErased, Bool.false_and, Bool.false_eq_true, if_false,
    apply_ite (mapBoth JobResult.eraseFiller JobResult.eraseFiller)]
  refine ite_congr rfl (fun _ => rfl) fun _ => ?_
  rw [atState_mapBoth JobResult.eraseFiller]
  apply mapBoth_bind
  intro baseModel _
  refine (congrArg (· >>= _) (runIdlePoolGates_eraseFiller env baseModel
    { result := kept
      idlePoolCandidate := isIdlePoolCandidate env baseModel kept
      eligible := isIdlePoolCandidate env baseModel kept && !excluded })).trans ?_
  apply mapBoth_bind
  intro state returned
  have gated := (runIdlePoolGates_gated env baseModel _ untouched).of_ok returned
  rcases recordBlockedReasons_eq_withReasons env state with ⟨moreReasons, blocked⟩
  have stillOff : onSpotPayPath (recordBlockedReasons env state) = false := by
    rw [blocked, ← gated.frame]
    exact offPath
  change scoreInPool env baseModel excluded state.eligible
    (recordBlockedReasons env state.eraseFiller) = _
  rw [recordBlockedReasons_eraseFiller]
  exact scoreInPool_eraseFiller env baseModel excluded state.eligible stillOff

end Scoring

namespace RentalPrice

open Raising Scoring

theorem prepareJobResult_eraseFiller (unscored : Unscored result)
    (offPath : onSpotPayPath result = false) :
    prepareJobResult env result.eraseFiller =
      mapBoth JobResult.eraseFiller JobResult.eraseFiller (prepareJobResult env result) := by
  have outdated : recordOutdatedImageReason env result.eraseFiller =
      (recordOutdatedImageReason env result).eraseFiller :=
    result.recordReasonIf_eraseFiller _ _
  rcases recordOutdatedImageReason_eq_withReasons env result with ⟨reasons, recorded⟩
  have unscored : Unscored (result.withReasons reasons) := unscored.withReasons reasons
  have offPath : onSpotPayPath (result.withReasons reasons) = false := offPath
  simp only [prepareJobResult, outdated, recorded]
  generalize result.withReasons reasons = kept at unscored offPath ⊢
  rw [apply_ite (mapBoth JobResult.eraseFiller JobResult.eraseFiller)]
  refine ite_congr rfl (fun _ => ?_) fun _ => ?_
  · exact congrArg Except.ok (kept.recordReasonIf_eraseFiller _ _)
  · rw [calculateExecutorScore_eraseFiller env unscored.unpaid offPath]
    apply mapBoth_bind
    intro scored returned
    have pooled := (calculateExecutorScore_preparedPooled env unscored).of_ok returned
    have noted : recordValidationFailedReason scored.eraseFiller =
        (recordValidationFailedReason scored).eraseFiller := scored.recordReasonIf_eraseFiller _ _
    have stillOff : onSpotPayPath scored = false := by
      rw [← pooled.1.frame]
      exact offPath
    have notSpot : scored.spotPayCandidate = false := by
      by_contra isSpot
      have onPath := (pooled.2.spot (by simpa using isSpot)).2.1
      rw [stillOff] at onPath
      cases onPath
    have notSpot : (recordValidationFailedReason scored).spotPayCandidate = false := by
      rcases recordValidationFailedReason_eq_withReasons scored with ⟨more, equal⟩
      rw [equal]
      exact notSpot
    simp only [noted]
    generalize recordValidationFailedReason scored = noted at notSpot ⊢
    refine (congrArg (· >>= _) (atState_mapBoth JobResult.eraseFiller noted
      (getBaseModelForGpu noted.gpuModel))).trans ?_
    apply mapBoth_bind
    intro baseModel _
    refine congrArg Except.ok ?_
    have notSpotErased : noted.eraseFiller.spotPayCandidate = false := notSpot
    simp only [id, priceJobResult, notSpot, notSpotErased, Bool.false_eq_true, if_false,
      apply_ite JobResult.eraseFiller]
    exact ite_congr rfl (fun _ => rfl) fun _ => ite_congr rfl (fun _ => rfl) fun _ => rfl

end RentalPrice

end Lium
