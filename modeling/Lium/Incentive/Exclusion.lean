import Lium.Incentive.Denominators

/-! # Excluded hotkeys

An executor of an excluded hotkey is in no pool, so its miner is paid nothing.
-/

namespace Lium

namespace Scoring

open Raising

variable {env : Env}

theorem choosePool_of_excluded (baseModel : String) {result : JobResult}
    (unpaid : result.spotPayCandidate = false) :
    (choosePool env baseModel true false result).spotPayCandidate = false ∧
      (choosePool env baseModel true false result).eligibleForRentalShare = false := by
  simp only [choosePool, Bool.and_false, Bool.false_eq_true, if_false, if_true]
  split
  · rcases JobResult.recordReasonIf_eq_withReasons _ _ _ with ⟨reasons, recorded⟩
    rw [recorded]
    exact ⟨unpaid, rfl⟩
  · exact ⟨unpaid, rfl⟩

theorem calculateExecutorScore_of_excluded {result scored : JobResult}
    (unscored : Unscored result) (excluded : excludedFromBothPools env result = true)
    (returned : calculateExecutorScore env result = .ok scored) :
    scored.spotPayCandidate = false ∧ scored.eligibleForRentalShare = false := by
  rcases calculateExecutorScore_eq_ok returned with
    ⟨reasons, ⟨-, rfl⟩ | ⟨-, rfl⟩ | ⟨baseModel, state, gates, rfl⟩⟩
  · rw [excluded]
    exact ⟨unscored.spot, rfl⟩
  · exact ⟨unscored.spot, rfl⟩
  · rw [excluded] at gates ⊢
    rw [Bool.not_true, Bool.and_false] at gates
    have gated := (runIdlePoolGates_gated env baseModel _
      (unscored.withReasons reasons).unpaid).of_ok gates
    have blocked : state.eligible = false := by
      cases eligible : state.eligible with
      | false => rfl
      | true => exact absurd (gated.eligible eligible) Bool.false_ne_true
    rcases recordBlockedReasons_eq_withReasons env state with ⟨more, explained⟩
    rw [blocked, explained]
    apply choosePool_of_excluded
    change state.result.spotPayCandidate = false
    rw [← gated.frame]
    exact unscored.spot

end Scoring

namespace RentalPrice

open Raising Scoring

theorem prepareJobResult_of_excluded {env : Env} {result prepared : JobResult}
    (unscored : Unscored result) (excluded : excludedFromBothPools env result = true)
    (returned : prepareJobResult env result = .ok prepared) :
    prepared.spotPayCandidate = false ∧ prepared.eligibleForRentalShare = false := by
  rcases prepareJobResult_eq_ok returned with
    ⟨reasons, more, ⟨-, rfl⟩ | ⟨-, scored, baseModel, scoring, rfl⟩⟩
  · exact ⟨unscored.spot, unscored.eligible⟩
  · rcases calculateExecutorScore_of_excluded (unscored.withReasons reasons) excluded scoring
      with ⟨spot, eligible⟩
    have unpaid : priceJobResult env baseModel (scored.withReasons more) =
        scored.withReasons more := by
      simp [priceJobResult, JobResult.withReasons, spot, eligible]
    rw [unpaid]
    exact ⟨spot, eligible⟩

section Completed

variable {env : Env} {fleet : Fleet}

theorem Completes.portionIncentive_of_excluded (completes : Completes env fleet)
    {item : String × ResultRef} (member : item ∈ fleet.scored)
    (excluded : item.1 ∈ env.getScoringExcludedHotkeys) : portionIncentive env fleet item = 0 := by
  have returned := completes.preparation_eq member
  have unscored := portion_unscored env fleet item.1 item.2
  have marked : excludedFromBothPools env
      (markHotkeyExcluded env item.1 (fleet.portion item.2)) = true := by
    rw [← Bool.not_eq_false]
    intro included
    have unmarked := (scored_of_not_excluded included).2.1
    simp [markHotkeyExcluded, excluded] at unmarked
  have settled := completes.settledResult member
  rcases prepareJobResult_of_excluded unscored marked returned with ⟨spot, eligible⟩
  have mining := prepareJobResult_miningClaim unscored returned
  rw [miningWeight_of_excluded marked, zero_div] at mining
  have settledMining := settled.kept miningClaim fun _ _ => rfl
  have settledSpot := settled.kept (·.spotPayCandidate) fun _ _ => rfl
  have settledEligible := settled.kept (·.eligibleForRentalShare) fun _ _ => rfl
  rw [completes.portionIncentive_eq member, settledMining, mining, bucketClaim, unbucketedClaim,
    settledSpot, settledEligible, spot, eligible]
  simp

theorem Completes.minerIncentives_of_excluded (completes : Completes env fleet) {hotkey : String}
    (excluded : hotkey ∈ env.getScoringExcludedHotkeys) :
    (finalState env fleet).minerIncentives.getD hotkey 0 = 0 := by
  rw [finalState_minerIncentives]
  apply List.sum_eq_zero
  intro amount listed
  rcases List.mem_map.mp listed with ⟨item, kept, rfl⟩
  rcases List.mem_filter.mp kept with ⟨member, own⟩
  apply completes.portionIncentive_of_excluded member
  rw [of_decide_eq_true own]
  exact excluded

theorem Completes.minerIncentives_nonneg (completes : Completes env fleet) (hotkey : String) :
    0 ≤ (finalState env fleet).minerIncentives.getD hotkey 0 := by
  rw [finalState_minerIncentives]
  apply List.sum_nonneg
  intro amount listed
  rcases List.mem_map.mp listed with ⟨item, kept, rfl⟩
  exact completes.portionIncentive_nonneg (List.mem_filter.mp kept).1

end Completed

end RentalPrice

end Lium
