import Lium.Incentive.SplitRoundTrip

/-! # What the denominators decide

The GPU totals per model enter scoring in one place, the mining score of a rented node.
Preparing an idle node does not read them, and the mining score of any node is a weight
that does not depend on them, divided by the total of its model.
-/

namespace Lium

open Raising

namespace Scoring

variable (env : Env) (denominators : PyDict String ℕ)

/-! ## Idle nodes -/

variable {result : JobResult}

theorem calculateExecutorScore_withDenominators
    (untouched : result.portUnpaidGpuCount = 0) (idle : result.isRented = false) :
    calculateExecutorScore (env.withDenominators denominators) result =
      calculateExecutorScore env result := by
  rcases recordExclusions_eq_withReasons env result with ⟨reasons, recorded⟩
  have recordedAlike : recordReasons
      (recordOutdatedImageReason (env.withDenominators denominators) result)
      (reasonsExcludedFromBothPools (env.withDenominators denominators)
        (recordOutdatedImageReason (env.withDenominators denominators) result)) =
      result.withReasons reasons := recorded
  simp only [calculateExecutorScore, recorded, recordedAlike]
  congr 1
  congr 1
  apply bind_congr_of_ok
  intro baseModel _
  apply bind_congr_of_ok
  intro state returned
  have gated := (runIdlePoolGates_gated env baseModel _ untouched).of_ok returned
  rcases recordBlockedReasons_eq_withReasons env state with ⟨more, blocked⟩
  have stillIdle : (recordBlockedReasons env state).isRented = false := by
    rw [blocked, ← gated.frame]
    exact idle
  change scoreInPool (env.withDenominators denominators) _ _ _ (recordBlockedReasons env state) = _
  simp only [scoreInPool, choosePool, stillIdle, Bool.false_and, Bool.false_eq_true, if_false,
    Bool.not_false, if_true]
  rfl

/-! ## Mining weights -/

variable {env}

/-- The mining score of a node before it is divided by the GPU total of its model. -/
def miningWeight (env : Env) (result : JobResult) : ℚ :=
  if result.isRented && result.isSuccessful && !excludedFromBothPools env result then
    result.score * (env.redis.portionPerGpuType (result.gpuModel.getD "") : ℚ≥0) *
      result.gpuCount *
      (rentedSysboxMultiplier env result * uptimeMultiplierOf env result *
        env.getMinDriverMultiplier result.nvidiaDriverVersion result.isRented *
        spotRentalFactor env result)
  else 0

def modelTotal (env : Env) (result : JobResult) : ℕ :=
  env.totalGpuModelCountMap.getD (result.gpuModel.getD "") 0

theorem not_excluded_iff :
    excludedFromBothPools env result = false ↔
      hasOutdatedImage env result = false ∧ reasonsExcludedFromBothPools env result = [] := by
  rw [excludedFromBothPools, Bool.or_eq_false_iff, Bool.not_eq_false', List.isEmpty_iff]

theorem scored_of_not_excluded
    (included : excludedFromBothPools env result = false) :
    hasOutdatedImage env result = false ∧ result.isHotkeyExcludedFromScoring = false ∧
      result.isInMaintenance = false := by
  rw [not_excluded_iff] at included
  refine ⟨included.1, ?_⟩
  have noReason := included.2
  simp only [reasonsExcludedFromBothPools, List.append_eq_nil_iff, reasonIf,
    ite_eq_right_iff, List.cons_ne_nil, imp_false, Bool.not_eq_true] at noReason
  exact ⟨noReason.2, noReason.1.1.2⟩

theorem defaultExecutorScore_miningScore (rented : result.isRented = true)
    (included : excludedFromBothPools env result = false)
    (successful : result.isSuccessful = true) :
    (defaultExecutorScore env (spotRentalFactor env result) result).miningScore.getD 0 =
      miningWeight env result / modelTotal env result := by
  rcases scored_of_not_excluded included with ⟨image, hotkey, maintenance⟩
  simp only [defaultExecutorScore, image, hotkey, maintenance, rented, miningWeight, successful,
    included, modelTotal, Bool.false_eq_true, if_false, Bool.not_false,
    Bool.and_self, if_true, Bool.not_true, Bool.and_false, Bool.or_self]
  split_ifs with noScore noTotal
  · simp [noScore]
  · simp [noTotal]
  · rcases JobResult.recordReasonIf_eq_withReasons _ _ _ with ⟨reasons, recorded⟩
    rw [recorded]
    change miningScoreOf env _ _ result = _
    simp only [miningScoreOf, rented]
    ring

theorem miningWeight_of_excluded
    (excluded : excludedFromBothPools env result = true) : miningWeight env result = 0 := by
  rw [miningWeight, excluded, Bool.not_true, Bool.and_false, if_neg Bool.false_ne_true]

theorem choosePool_miningScore (baseModel : String)
    (rented : result.isRented = true) (successful : result.isSuccessful = true) :
    (choosePool env baseModel (excludedFromBothPools env result) false
        result).miningScore.getD 0 =
      miningWeight env result / modelTotal env result := by
  simp only [choosePool, rented, Bool.and_false, Bool.false_eq_true, if_false, Bool.not_true]
  cases excluded : excludedFromBothPools env result with
  | true => simp [miningWeight_of_excluded excluded]
  | false =>
    rw [if_neg Bool.false_ne_true]
    exact defaultExecutorScore_miningScore rented excluded successful

theorem calculateExecutorScore_miningScore {scored : JobResult}
    (rented : result.isRented = true) (successful : result.isSuccessful = true)
    (returned : calculateExecutorScore env result = .ok scored) :
    scored.miningScore.getD 0 = miningWeight env result / modelTotal env result := by
  rcases calculateExecutorScore_eq_ok returned with
    ⟨reasons, ⟨onPath, -⟩ | ⟨excluded, rfl⟩ | ⟨baseModel, state, gates, rfl⟩⟩
  · simp [onSpotPayPath, rented] at onPath
  · simp [outOfPools, miningWeight_of_excluded excluded]
  · have notCandidate : isIdlePoolCandidate env baseModel result = false := by
      simp [isIdlePoolCandidate, rented]
    rw [notCandidate, runIdlePoolGates_of_not_candidate env baseModel rfl rfl] at gates
    cases gates
    exact choosePool_miningScore baseModel rented successful

end Scoring

namespace RentalPrice

open Scoring

theorem prepareJobResult_withDenominators (env : Env) (denominators : PyDict String ℕ)
    {result : JobResult} (untouched : result.portUnpaidGpuCount = 0)
    (idle : result.isRented = false) :
    prepareJobResult (env.withDenominators denominators) result =
      prepareJobResult env result := by
  rcases recordOutdatedImageReason_eq_withReasons env result with ⟨reasons, outdated⟩
  have outdatedAlike : recordOutdatedImageReason (env.withDenominators denominators) result =
      result.withReasons reasons := outdated
  have scored := calculateExecutorScore_withDenominators env denominators
    (show (result.withReasons reasons).portUnpaidGpuCount = 0 from untouched) idle
  simp only [prepareJobResult, outdated, outdatedAlike, scored]
  rfl

theorem priceJobResult_miningScore (env : Env) (baseModel : String) (result : JobResult) :
    (priceJobResult env baseModel result).miningScore = result.miningScore := by
  rcases priceSpotNode_eq_withReasons env baseModel result with ⟨reasons, priced⟩
  simp only [priceJobResult, priced]
  split_ifs <;> rfl

theorem prepareJobResult_miningClaim {env : Env} {result prepared : JobResult}
    (unscored : Unscored result) (returned : prepareJobResult env result = .ok prepared) :
    miningClaim prepared = miningWeight env result / modelTotal env result := by
  cases rented : result.isRented with
  | false =>
    have ensured := (prepareJobResult_preparedPriced env unscored).of_ok returned
    have idle : prepared.isRented = false := by
      rw [← ensured.1.frame]
      exact rented
    rw [miningClaim, ensured.2.outOfMining idle, miningWeight, rented]
    simp
  | true =>
    rcases prepareJobResult_eq_ok returned with
      ⟨reasons, more, ⟨failed, rfl⟩ | ⟨successful, scored, baseModel, scoring, rfl⟩⟩
    · rw [miningWeight, failed]
      simp [miningClaim, JobResult.withReasons, unscored.miningScore]
    · rw [miningClaim, priceJobResult_miningScore]
      have stillRented : (result.withReasons reasons).isRented = true := rented
      have claim := calculateExecutorScore_miningScore stillRented successful scoring
      exact claim

theorem Completes.miningClaim_prepared {env : Env} {fleet : Fleet}
    (completes : Completes env fleet) {item : String × ResultRef}
    (member : item ∈ fleet.scored) :
    miningClaim (prepared env fleet item) =
      miningWeight env (markHotkeyExcluded env item.1 (fleet.portion item.2)) /
        modelTotal env (fleet.portion item.2) :=
  prepareJobResult_miningClaim (portion_unscored env fleet item.1 item.2)
    (completes.preparation_eq member)

end RentalPrice

end Lium
