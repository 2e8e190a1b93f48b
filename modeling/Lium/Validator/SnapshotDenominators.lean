import Lium.Incentive.SplitRoundTrip
import Lium.Validator.SettleCycle

/-! # Snapshot denominators

The snapshot counts the GPUs per model again, with a filter of its own. It skips neither a
node in maintenance nor an idle one whose rentals are paused.
-/

namespace Lium

/-- A node out of the denominators that the snapshot does not skip. -/
def isPausedOrInMaintenance (result : JobResult) : Bool :=
  result.isInMaintenance || (result.isNewRentalsPaused && !result.isRented)

theorem countsInDenominator_eq (env : Env) (result : JobResult) :
    countsInDenominator env result =
      (RentalPrice.countsInSnapshot env result && !isPausedOrInMaintenance result) := by
  have counted : decide (result.gpuCount ≠ 0) = decide (0 < result.gpuCount) := by
    simp [Nat.pos_iff_ne_zero]
  rw [countsInDenominator, RentalPrice.countsInSnapshot, isPausedOrInMaintenance,
    ValidatedNode.isSuccessful, counted]
  cases result.hasGpuModel <;> cases decide (0 < result.gpuCount) <;> cases result.isSpot <;>
    cases result.isInMaintenance <;> simp [Bool.and_assoc]

namespace RentalPrice

open Raising Scoring

section Final

variable {env : Env} {fleet : Fleet}

def resize (node : ValidatedNode) (gpuCount : ℕ) : ValidatedNode := { node with gpuCount }

theorem eq_of_resize_eq {left right : ValidatedNode} (same : resize left 0 = resize right 0)
    (gpuCount : left.gpuCount = right.gpuCount) : left = right :=
  calc left = resize (resize left 0) left.gpuCount := rfl
    _ = resize (resize right 0) right.gpuCount := by rw [same, gpuCount]
    _ = right := rfl

def unsized (result : JobResult) : ValidatedNode × Bool :=
  (resize result.toValidatedNode 0, result.isSplitRemainder)

theorem unsized_portion_node (id : ℕ) :
    unsized (fleet.portion (.node id)) = unsized (.fresh (fleet.nodes id)) := by
  cases free : fleet.freeGpuCount id with
  | none => simp only [Fleet.portion, free]
  | some freeGpuCount =>
    simp only [Fleet.portion, free]
    rfl

variable {entry : String × ℕ}

section

variable (completes : Completes env fleet)
include completes

theorem Completes.final_unsized
    (member : entry ∈ fleet.entries) :
    unsized ((finalState env fleet).heap (.node entry.2)) =
      unsized (.fresh (fleet.nodes entry.2)) := by
  have nodeMember := fleet.mem_scored_node.mpr member
  have paid := completes.paidState_kept nodeMember unsized (fun _ _ => rfl) (fun _ _ => rfl)
  have prepared : unsized (prepared env fleet (entry.1, .node entry.2)) =
      unsized (fleet.portion (.node entry.2)) := by
    rw [← (prepared_preparedResult (entry.1, ResultRef.node entry.2)).frame]
    rfl
  have kept := paid.trans (prepared.trans (unsized_portion_node entry.2))
  cases split : fleet.isPartiallyRentedSplit entry.2 with
  | false =>
    rw [mergedHeap_of_whole split]
    exact kept
  | true =>
    rw [mergedHeap_of_split member split]
    exact kept

theorem Completes.final_toValidatedNode
    (member : entry ∈ fleet.entries) :
    ((finalState env fleet).heap (.node entry.2)).toValidatedNode = fleet.nodes entry.2 := by
  apply eq_of_resize_eq
  · exact congrArg Prod.fst (completes.final_unsized member)
  · exact completes.final_gpuCount member

theorem Completes.snapshot_counts
    (member : entry ∈ fleet.entries) :
    countsInSnapshot env ((finalState env fleet).heap (.node entry.2)) =
      countsInSnapshot env (.fresh (fleet.nodes entry.2)) := by
  have node := completes.final_toValidatedNode member
  have remainder := congrArg Prod.snd (completes.final_unsized member)
  simp only [unsized] at remainder
  simp only [countsInSnapshot, Env.earnsSpotRentalIncentive, Env.isMissingDiscordAfterCutoff,
    node, remainder]
  rfl

theorem Completes.snapshot_getD (gpuModel : String) :
    (getSnapshot env (finalState env fleet)).mining.totalGpuModelCountMap.getD gpuModel 0 =
      (countGpusByModel (countsInSnapshot env) fleet.results).getD gpuModel 0 := by
  simp only [getSnapshot, Fleet.results, countGpusByModel_getD, finalState_scoringOrder,
    List.map_map]
  apply congrArg List.sum
  apply List.map_congr_left
  intro entry member
  simp only [Function.comp_apply, completes.snapshot_counts member,
    completes.final_toValidatedNode member]
  rfl

end

theorem countsInSnapshot_of_countsInDenominator {result : JobResult}
    (counted : countsInDenominator env result = true) : countsInSnapshot env result = true := by
  rw [countsInDenominator_eq, Bool.and_eq_true] at counted
  exact counted.1

theorem counted_alike_iff (result : JobResult) :
    (countsInSnapshot env result = true → countsInDenominator env result = false →
        result.gpuCount = 0) ↔
      (countsInSnapshot env result = true → isPausedOrInMaintenance result = false) := by
  apply imp_congr_right
  intro counted
  rw [countsInDenominator_eq, counted, Bool.true_and]
  have hasGpus : 0 < result.gpuCount := by
    simp only [countsInSnapshot, Bool.and_eq_true] at counted
    exact ValidatedNode.gpuCount_pos_of_isSuccessful counted.1.1
  cases isPausedOrInMaintenance result <;> simp; omega

theorem Completes.snapshot_denominators_iff (completes : Completes env fleet) :
    (∀ gpuModel,
      (getSnapshot env (finalState env fleet)).mining.totalGpuModelCountMap.getD gpuModel 0 =
        (countGpusByModel (countsInDenominator env) fleet.results).getD gpuModel 0) ↔
      ∀ result ∈ fleet.results, countsInSnapshot env result = true →
        isPausedOrInMaintenance result = false := by
  simp only [completes.snapshot_getD]
  rw [countGpusByModel_eq_iff fun _ _ => countsInSnapshot_of_countsInDenominator]
  exact forall₂_congr fun result _ => counted_alike_iff result

end Final

/-- The snapshot has the denominators of the run exactly when none of the results it counts is
paused while idle or in maintenance. -/
theorem getSnapshot_denominators_iff (env : Env) (rentedExecutors : List (String × String))
    (fleet settled : Fleet) (denominators : PyDict String ℕ)
    (settles : settleCycleResults env rentedExecutors fleet = (settled, denominators))
    {final : IncentiveState}
    (run : calculateMiningScores (env.withDenominators denominators) settled = .ok final) :
    (∀ gpuModel,
      (getSnapshot (env.withDenominators denominators) final).mining.totalGpuModelCountMap.getD
          gpuModel 0 = denominators.getD gpuModel 0) ↔
      ∀ result ∈ settled.results, countsInSnapshot env result = true →
        isPausedOrInMaintenance result = false := by
  rcases (calculateMiningScores_eq_ok_iff _ _).mp run with ⟨completes, rfl⟩
  rw [settleCycleResults] at settles
  rcases Prod.mk.inj settles with ⟨rfl, counted⟩
  have agrees := completes.snapshot_denominators_iff
  rw [← counted] at agrees ⊢
  exact agrees

section Sample

def pausableFleet (isNewRentalsPaused : Bool) : Fleet :=
  .ofMiner "miner" 1 fun _ => { Sample.idle with isNewRentalsPaused }

def pausableSettled (isNewRentalsPaused : Bool) : Fleet × PyDict String ℕ :=
  settleCycleResults Sample.env [] (pausableFleet isNewRentalsPaused)

def pausableEnv (isNewRentalsPaused : Bool) : Env :=
  Sample.env.withDenominators (pausableSettled isNewRentalsPaused).2

theorem pausableFleet_completes (isNewRentalsPaused : Bool) :
    Completes (pausableEnv isNewRentalsPaused) (pausableSettled isNewRentalsPaused).1 := by
  rw [completes_iff]
  cases isNewRentalsPaused <;> decide +kernel

theorem pausableFleet_runs (isNewRentalsPaused : Bool) :
    calculateMiningScores (pausableEnv isNewRentalsPaused) (pausableSettled isNewRentalsPaused).1 =
      .ok (finalState (pausableEnv isNewRentalsPaused) (pausableSettled isNewRentalsPaused).1) :=
  (calculateMiningScores_eq_ok_iff _ _).mpr ⟨pausableFleet_completes isNewRentalsPaused, rfl⟩

theorem unpaused_snapshot_denominators :
    (getSnapshot (pausableEnv false) (finalState (pausableEnv false)
        (pausableSettled false).1)).mining.totalGpuModelCountMap.getD Sample.gpuModel 0 =
      (pausableSettled false).2.getD Sample.gpuModel 0 :=
  (getSnapshot_denominators_iff Sample.env [] (pausableFleet false) _ _ rfl
    (pausableFleet_runs false)).mpr (by decide +kernel) Sample.gpuModel

theorem paused_snapshot_differs :
    ∃ final, calculateMiningScores (pausableEnv true) (pausableSettled true).1 = .ok final ∧
      (getSnapshot (pausableEnv true) final).mining.totalGpuModelCountMap.getD
        Sample.gpuModel 0 = 8 ∧
      (pausableSettled true).2.getD Sample.gpuModel 0 = 0 := by
  refine ⟨_, pausableFleet_runs true, ?_, ?_⟩
  · rw [(pausableFleet_completes true).snapshot_getD]
    decide +kernel
  · decide +kernel

end Sample

end RentalPrice

end Lium
