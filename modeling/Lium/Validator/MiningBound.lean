import Lium.Validator.RentedEstimate
import Mathlib.Algebra.BigOperators.Ring.Finset

/-! # A model's mining scores and its portion

The denominators of a cycle count whole nodes before split nodes are expanded. Whatever is
paid from the mining share was counted there, so the mining scores of a model add up to its
portion at most.
-/

namespace Lium

namespace Scoring

variable (env : Env) (result : JobResult)

theorem rentedSysboxMultiplier_le_one : rentedSysboxMultiplier env result ≤ 1 := by
  rw [rentedSysboxMultiplier]
  split
  · exact le_rfl
  · split
    · exact sub_le_self _ env.settings.portionForSysboxRented.nonneg
    · exact sub_le_self _ env.settings.portionForSysbox.nonneg

theorem uptimeMultiplierOf_le_one : uptimeMultiplierOf env result ≤ 1 := by
  simp only [uptimeMultiplierOf]
  split_ifs
  · exact le_rfl
  · have part := mul_le_of_le_one_right env.settings.portionForUptime.nonneg
      (min_le_left 1 ((env.redis.executorUptime result.executorInfo : ℚ) /
        env.settings.uptimeRequiredMinutes))
    linarith

theorem getMinDriverMultiplier_le_one :
    env.getMinDriverMultiplier result.nvidiaDriverVersion result.isRented ≤ 1 := by
  unfold Env.getMinDriverMultiplier
  repeat' split
  all_goals norm_num

theorem spotRentalFactor_le_one : spotRentalFactor env result ≤ 1 := by
  unfold spotRentalFactor
  split_ifs <;> norm_num [spotRentalIncentiveFactor]

theorem miningWeight_le (score : result.score ≤ 1) :
    miningWeight env result ≤
      (env.redis.portionPerGpuType (result.gpuModel.getD "") : ℚ≥0) * result.gpuCount := by
  have portion := NNRat.coe_nonneg (env.redis.portionPerGpuType (result.gpuModel.getD ""))
  have gpus : (0 : ℚ) ≤ result.gpuCount := Nat.cast_nonneg _
  rw [miningWeight]
  split
  · have scored : (result.score : ℚ) ≤ 1 := by exact_mod_cast score
    have multiplied : rentedSysboxMultiplier env result * uptimeMultiplierOf env result *
        env.getMinDriverMultiplier result.nvidiaDriverVersion result.isRented *
        spotRentalFactor env result ≤ 1 :=
      mul_le_one₀ (mul_le_one₀ (mul_le_one₀ (rentedSysboxMultiplier_le_one env result)
          (uptimeMultiplierOf_nonneg env result) (uptimeMultiplierOf_le_one env result))
          (env.getMinDriverMultiplier_nonneg ..) (getMinDriverMultiplier_le_one env result))
        (spotRentalFactor_nonneg env result) (spotRentalFactor_le_one env result)
    have unweighted := mul_nonneg (mul_nonneg (NNRat.coe_nonneg result.score) portion) gpus
    apply (mul_le_of_le_one_right unweighted multiplied).trans
    rw [mul_assoc]
    exact mul_le_of_le_one_left (mul_nonneg portion gpus) scored
  · exact mul_nonneg portion gpus

end Scoring

namespace RentalPrice

open Scoring CellSums

variable {env : Env} {fleet : Fleet} {item : String × ResultRef}

theorem Completes.finalState_kept (completes : Completes env fleet) {β : Type}
    (member : item ∈ fleet.scored) (field : JobResult → β)
    (unpaid : ∀ original paid, field (payOver original paid) = field original)
    (unsettled : ∀ original settled, field (settleOver original settled) = field original)
    (unmerged : ∀ merged free, field (mergeResults merged free) = field merged) :
    field ((finalState env fleet).heap item.2) = field (prepared env fleet item) := by
  rw [← completes.paidState_kept member field unpaid unsettled]
  rcases item with ⟨hotkey, id | id⟩
  · simp only [finalState, mergedState, mergedHeap]
    split_ifs
    · exact unmerged ..
    · rfl
  · rfl

def weighedGpus (env : Env) (fleet : Fleet) (gpuModel : String) (item : String × ResultRef) : ℕ :=
  if weightOf env fleet item ≠ 0 ∧ modelOf fleet item = gpuModel then
    (fleet.portion item.2).gpuCount
  else 0

theorem sum_weighedGpus_le (env : Env) (fleet : Fleet) (gpuModel : String) :
    (fleet.scored.map (weighedGpus env fleet gpuModel)).sum ≤
      (countGpusByModel (countsInDenominator env) fleet.results).getD gpuModel 0 := by
  have free : ∀ entry ∈ fleet.entries.filter fun entry => fleet.isPartiallyRentedSplit entry.2,
      weighedGpus env fleet gpuModel (entry.1, .remainder entry.2) = 0 := by
    intro entry member
    rw [weighedGpus, if_neg]
    rintro ⟨weighs, -⟩
    have rented : (fleet.portion (.remainder entry.2)).isRented = true :=
      (mined_of_miningWeight weighs).1
    obtain ⟨count, split⟩ := Option.isSome_iff_exists.mp (List.mem_filter.mp member).2
    simp only [Fleet.portion, split] at rented
    cases rented
  have frees : (((fleet.entries.filter fun entry => fleet.isPartiallyRentedSplit entry.2).map
      fun entry => (entry.1, ResultRef.remainder entry.2)).map
        (weighedGpus env fleet gpuModel)).sum = 0 := by
    rw [List.map_map]
    exact List.sum_eq_zero (List.forall_mem_map.mpr free)
  rw [(fleet.scored_perm.map _).sum_eq, List.map_append, List.sum_append, frees, add_zero,
    List.map_map, countGpusByModel_getD, Fleet.results, List.map_map]
  apply List.sum_le_sum
  intro entry _
  rw [Function.comp_apply, Function.comp_apply, weighedGpus]
  split_ifs with weighs counted counted
  · exact (node_counted_of_mined (mined_of_miningWeight weighs.1)).2.2
  · obtain ⟨counts, model, -⟩ := node_counted_of_mined (mined_of_miningWeight weighs.1)
    refine absurd ⟨counts, ?_⟩ counted
    rw [← weighs.2, modelOf, ← model]
    rfl
  · exact Nat.zero_le _
  · exact le_rfl

theorem miningClaim_le (score : (fleet.portion item.2).score ≤ 1) (total : ℕ) :
    weightOf env fleet item / total ≤
      (env.redis.portionPerGpuType (modelOf fleet item) : ℚ≥0) *
        weighedGpus env fleet (modelOf fleet item) item / total := by
  apply div_le_div_of_nonneg_right _ (Nat.cast_nonneg total)
  by_cases weighs : weightOf env fleet item = 0
  · rw [weighs]
    exact mul_nonneg (NNRat.coe_nonneg _) (Nat.cast_nonneg _)
  · rw [weighedGpus, if_pos ⟨weighs, rfl⟩]
    have bound := miningWeight_le env (markHotkeyExcluded env item.1 (fleet.portion item.2)) score
    exact bound

theorem score_portion (fleet : Fleet) (ref : ResultRef) :
    (fleet.portion ref).score = (fleet.nodes ref.id).score := by
  cases ref with
  | node id => cases free : fleet.freeGpuCount id <;> simp only [Fleet.portion, free] <;> rfl
  | remainder id => cases free : fleet.freeGpuCount id <;> simp only [Fleet.portion, free] <;> rfl

theorem Completes.final_mining (completes : Completes env fleet)
    (member : item ∈ fleet.scored) :
    ((finalState env fleet).heap item.2).gpuModel = (fleet.portion item.2).gpuModel ∧
      ((finalState env fleet).heap item.2).miningScore.getD 0 =
        weightOf env fleet item / (env.totalGpuModelCountMap.getD (modelOf fleet item) 0 : ℕ) := by
  constructor
  · rw [completes.finalState_kept member (·.gpuModel) (fun _ _ => rfl) (fun _ _ => rfl)
      (fun _ _ => rfl)]
    have preparing := prepareJobResult_preparedPriced env (portion_unscored env fleet item.1 item.2)
    rw [← (preparing.of_ok (completes.preparation_eq member)).1.frame]
    rfl
  · rw [completes.finalState_kept member (·.miningScore) (fun _ _ => rfl) (fun _ _ => rfl)
      (fun _ _ => rfl)]
    exact completes.miningClaim_prepared member

/-- The mining scores of a model add up to its portion at most, and nothing scores without
being counted in the total of its model. -/
theorem mining_scores_within_portion (env : Env) (rentedExecutors : List (String × String))
    (fleet : Fleet) (scores : ∀ entry ∈ fleet.entries, (fleet.nodes entry.2).score ≤ 1) :
    let settled := settleCycleResults env rentedExecutors fleet
    ∀ final, calculateMiningScores (env.withDenominators settled.2) settled.1 = .ok final →
      (∀ gpuModel, (settled.1.scored.map fun item =>
        if (final.heap item.2).gpuModel = some gpuModel then
          (final.heap item.2).miningScore.getD 0 else 0).sum ≤
        (env.redis.portionPerGpuType gpuModel : ℚ≥0)) ∧
      ∀ item ∈ settled.1.scored, 0 < (final.heap item.2).miningScore.getD 0 →
        ∃ gpuModel, (final.heap item.2).gpuModel = some gpuModel ∧
          (settled.1.portion item.2).gpuCount ≤ settled.2.getD gpuModel 0 := by
  intro settled final returned
  obtain ⟨completes, rfl⟩ := (calculateMiningScores_eq_ok_iff _ _).mp returned
  have score : ∀ item ∈ settled.1.scored, (settled.1.portion item.2).score ≤ 1 := by
    intro item member
    rw [score_portion]
    apply (settleDuplicates_demoted env.runtime rentedExecutors fleet item.2.id).score.trans
    apply scores (item.1, item.2.id)
    have listed := settled.1.mem_entries_of_mem_scored member
    rw [show settled.1 = _ from settleDuplicates_lists env.runtime rentedExecutors fleet] at listed
    exact listed
  constructor
  · intro gpuModel
    let share : ℚ := (env.redis.portionPerGpuType gpuModel : ℚ≥0) / (settled.2.getD gpuModel 0 : ℕ)
    have shared : 0 ≤ share := div_nonneg (NNRat.coe_nonneg _) (Nat.cast_nonneg _)
    have counted : ((settled.1.scored.map (weighedGpus env settled.1 gpuModel)).sum : ℚ) ≤
        (settled.2.getD gpuModel 0 : ℕ) :=
      Nat.cast_le.mpr (sum_weighedGpus_le env settled.1 gpuModel)
    calc _ ≤ (settled.1.scored.map fun item =>
          share * (weighedGpus env settled.1 gpuModel item : ℚ)).sum := by
          apply List.sum_le_sum
          intro item member
          rw [(completes.final_mining member).1, (completes.final_mining member).2]
          split_ifs with model
          · have own : modelOf settled.1 item = gpuModel := by rw [modelOf, model, Option.getD_some]
            have bound : weightOf env settled.1 item / _ ≤ _ :=
              miningClaim_le (score item member) (settled.2.getD gpuModel 0)
            rw [own, mul_div_right_comm] at bound
            rw [own]
            exact bound
          · exact mul_nonneg shared (Nat.cast_nonneg _)
      _ = share * (settled.1.scored.map (weighedGpus env settled.1 gpuModel)).sum := by
          rw [List.sum_map_mul_left, Nat.cast_list_sum, List.map_map]
          rfl
      _ ≤ share * (settled.2.getD gpuModel 0 : ℕ) := mul_le_mul_of_nonneg_left counted shared
      _ ≤ (env.redis.portionPerGpuType gpuModel : ℚ≥0) := by
          by_cases empty : ((settled.2.getD gpuModel 0 : ℕ) : ℚ) = 0
          · rw [empty, mul_zero]
            exact NNRat.coe_nonneg _
          · exact (div_mul_cancel₀ _ empty).le
  · intro item member positive
    rw [(completes.final_mining member).2] at positive
    have weighs : weightOf env settled.1 item ≠ 0 := by
      intro weightless
      have unscored : weightOf (env.withDenominators settled.2) settled.1 item = 0 := weightless
      rw [unscored, zero_div] at positive
      exact lt_irrefl 0 positive
    have known : (settled.1.portion item.2).hasGpuModel = true := by
      have successful := (mined_of_miningWeight weighs).2.1
      simp only [ValidatedNode.isSuccessful, Bool.and_eq_true] at successful
      exact successful.1.2
    have bound := gpuCount_le_of_mined (mined_of_miningWeight weighs) member
    cases model : (settled.1.portion item.2).gpuModel with
    | none =>
      rw [ValidatedNode.hasGpuModel, model] at known
      cases known
    | some gpuModel =>
      rw [modelOf, model, Option.getD_some] at bound
      exact ⟨gpuModel, (completes.final_mining member).1.trans model, bound⟩

theorem rentedFleet_within_portion :
    calculateMiningScores rentedEnv rentedSettled.1 =
        .ok (finalState rentedEnv rentedSettled.1) ∧
      (rentedSettled.1.scored.map fun item =>
        if ((finalState rentedEnv rentedSettled.1).heap item.2).gpuModel =
            some Sample.gpuModel then
          ((finalState rentedEnv rentedSettled.1).heap item.2).miningScore.getD 0 else 0).sum ≤
        (Sample.env.redis.portionPerGpuType Sample.gpuModel : ℚ≥0) :=
  ⟨rentedFleet_runs, (mining_scores_within_portion Sample.env [] rentedFleet
    (fun _ _ => le_refl (1 : ℚ≥0)) _ rentedFleet_runs).1 Sample.gpuModel⟩

end RentalPrice

end Lium
