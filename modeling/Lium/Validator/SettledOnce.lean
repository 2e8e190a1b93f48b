import Lium.Validator.SettleAppend

/-! # A settled cycle stays settled

Each pass only takes scores away, so what the two leave is settled for both: settling again
changes no result and no denominator.
-/

namespace Lium

open DuplicateExecutor

variable {runtime : PyRuntime} {fleet settled : Fleet}

/-- One hotkey earns at an endpoint, and executors of a hotkey share a GPU only when rented. -/
structure Settled (runtime : PyRuntime) (fleet : Fleet) : Prop where
  endpoints : ∀ endpoint left right, ScoredAt runtime fleet endpoint left →
    ScoredAt runtime fleet endpoint right → left.1 = right.1
  gpus : ∀ entry ∈ fleet.jobResults, ∀ gpuUuid,
    ∀ left ∈ reporters runtime fleet.nodes entry.2 gpuUuid,
      ∀ right ∈ reporters runtime fleet.nodes entry.2 gpuUuid,
        executorKey runtime (fleet.nodes left) ≠ executorKey runtime (fleet.nodes right) →
          (fleet.nodes left).isRented = true

namespace DuplicateExecutor.GpusSettled

variable (gpusSettled : GpusSettled runtime fleet settled)
include gpusSettled

theorem kept {entry : String × List ℕ} (listed : entry ∈ fleet.jobResults) {id : ℕ}
    (member : id ∈ entry.2) (successful : (settled.nodes id).isSuccessful = true) :
    settled.nodes id = fleet.nodes id ∧ (fleet.nodes id).isSuccessful = true ∧
      keepsScore runtime fleet.nodes entry.2 id := by
  rw [gpusSettled.listed entry listed id member] at successful ⊢
  have before := (settledHotkeyNode_isSuccessful member).mp successful
  rcases settledHotkeyNode_cases runtime member before.1 with ⟨-, same⟩ | ⟨loses, -⟩
  · exact ⟨same, before⟩
  · exact absurd before.2 loses

theorem scoredBefore {endpoint : String} {copy : String × ℕ}
    (scored : ScoredAt runtime settled endpoint copy) : ScoredAt runtime fleet endpoint copy := by
  rcases scored with ⟨listed, successful, loggedIn, reached⟩
  rw [gpusSettled.lists] at listed
  rcases List.mem_flatMap.mp listed with ⟨entry, entryListed, copies⟩
  rcases List.mem_map.mp copies with ⟨id, member, rfl⟩
  have kept := gpusSettled.kept entryListed member successful
  rw [kept.1] at loggedIn reached
  exact ⟨listed, kept.2.1, loggedIn, reached⟩

end DuplicateExecutor.GpusSettled

theorem Settled.gpusSettled (settled : Settled runtime fleet) :
    GpusSettled runtime fleet fleet where
  lists := rfl
  listed := by
    intro entry listed id member
    symm
    apply settledNode_of_kept
    intro gpuUuid _
    rw [Bool.eq_false_iff]
    intro loss
    rcases (loses_iff ..).mp loss with ⟨contested, reports, -, idle⟩
    have alone : ((reporters runtime fleet.nodes entry.2 gpuUuid).map fun copy =>
        executorKey runtime (fleet.nodes copy)).dedup ⊆ [executorKey runtime (fleet.nodes id)] := by
      intro key reported
      rcases List.mem_map.mp (List.mem_dedup.mp reported) with ⟨copy, copyReports, rfl⟩
      by_contra apart
      rw [settled.gpus entry listed gpuUuid id reports copy copyReports
        (fun same => apart (List.mem_singleton.mpr same.symm))] at idle
      cases idle
    have few := (List.subperm_of_subset (List.nodup_dedup _) alone).length_le
    have several := of_decide_eq_true contested
    rw [List.length_singleton] at few
    omega
  unlisted := fun _ _ => rfl

variable (rentedExecutors : List (String × String))

theorem settled_settleDuplicates (readable : GpusReadable runtime fleet) :
    Settled runtime (settleDuplicates runtime rentedExecutors fleet) := by
  have gpusSettled := settleDuplicates_of_readable rentedExecutors readable
  constructor
  case endpoints =>
    intro endpoint left right leftScored rightScored
    have leftKeeps := scoredAt_minersSettled_keeper (gpusSettled.scoredBefore leftScored)
    rw [scoredAt_minersSettled_keeper (gpusSettled.scoredBefore rightScored)] at leftKeeps
    exact (Option.some.inj leftKeeps).symm
  case gpus =>
    intro entry listed gpuUuid left leftReports right rightReports apart
    rw [gpusSettled.lists] at listed
    rcases mem_reporters.mp leftReports with ⟨leftMember, leftScored, leftReported⟩
    rcases mem_reporters.mp rightReports with ⟨rightMember, rightScored, rightReported⟩
    rcases gpusSettled.kept listed leftMember leftScored with ⟨leftSame, leftBefore, leftKeeps⟩
    rcases gpusSettled.kept listed rightMember rightScored with
      ⟨rightSame, rightBefore, rightKeeps⟩
    rw [leftSame] at leftReported apart ⊢
    rw [rightSame] at rightReported apart
    exact keepsScore_shared leftMember rightMember leftBefore rightBefore leftKeeps rightKeeps apart
      leftReported rightReported

theorem settleDuplicates_of_settled (settled : Settled runtime fleet) :
    settleDuplicates runtime rentedExecutors fleet = fleet := by
  by_cases readable : GpusReadable runtime fleet
  · have gpusSettled := settleDuplicates_of_readable rentedExecutors readable
    rw [minersSettled_of_unique settled.endpoints] at gpusSettled
    exact gpusSettled.unique settled.gpusSettled
  · exact settleDuplicates_of_unreadable rentedExecutors readable

/-- What is settled stays so, whatever rentals the backend names by the next time. -/
theorem settleCycleResults_settles (env : Env) (fleet : Fleet) :
    (GpusReadable env.runtime fleet →
      Settled env.runtime (settleCycleResults env rentedExecutors fleet).1) ∧
    ∀ laterRentals, settleCycleResults env laterRentals
        (settleCycleResults env rentedExecutors fleet).1 =
      settleCycleResults env rentedExecutors fleet := by
  refine ⟨settled_settleDuplicates rentedExecutors, ?_⟩
  intro laterRentals
  by_cases readable : GpusReadable env.runtime fleet
  · have settled := settled_settleDuplicates rentedExecutors readable
    simp only [settleCycleResults, settleDuplicates_of_settled laterRentals settled]
  · simp only [settleCycleResults, settleDuplicates_of_unreadable _ readable]

end Lium
