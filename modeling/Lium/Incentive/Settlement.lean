import Lium.Foundation.ProRata
import Lium.Incentive.Reassignment
import Lium.Incentive.Run

/-! # Settling the shares

Between the passes the bucket tables become cap multipliers and costs. Here the tables
are read back as sums over the scored results, so that what the post-pass pays can be
compared with what the pre-pass counted.
-/

namespace Lium.RentalPrice

open Raising Scoring CellSums

/-! ## Cap multipliers -/

/-- `min(count, cap) / count`, or 0 for an empty bucket or one without a cap. -/
def capMultiplierOf (config : IncentiveConfig) (key : BucketKey) (count : ℕ) : ℚ :=
  if 0 < count ∧ 0 < config.cap key.1 key.2 then
    (min count (config.cap key.1 key.2) : ℕ) / count
  else 0

theorem capMultipliers_getD (config : IncentiveConfig) (counts : PyDict BucketKey ℕ)
    (key : BucketKey) :
    (capMultipliers config counts .empty).getD key 0 =
      capMultiplierOf config key (counts.getD key 0) := by
  rw [PyDict.getD, capMultipliers, PyDict.get?_setEach, PyDict.getD, PyDict.get?_empty,
    Option.or_none]
  cases counts.get? key with
  | none => simp [capMultiplierOf]
  | some count =>
    simp only [Option.bind_some, Option.getD_some, capMultiplierOf]
    split_ifs <;> rfl

/-! ## Prepared results -/

section Phases

variable {env : Env} {fleet : Fleet}

theorem prepared_preparedResult (item : String × ResultRef) :
    PreparedResult (fleet.portion item.2) (prepared env fleet item) := by
  have marked : PreparedResult (fleet.portion item.2)
      (markHotkeyExcluded env item.1 (fleet.portion item.2)) := .of_frame rfl rfl rfl
  have ensures := prepareJobResult_preparedPriced env
    (portion_unscored env fleet item.1 item.2)
  exact marked.trans (ensures.mono (fun _ => id) (fun _ => And.left)).left

theorem prepared_isRented (item : String × ResultRef) :
    (prepared env fleet item).isRented = (fleet.portion item.2).isRented := by
  rw [← (prepared_preparedResult item).frame]
  rfl

theorem isRented_of_split {id : ℕ} (split : fleet.isPartiallyRentedSplit id = true) :
    (fleet.portion (.node id)).isRented = true := by
  rcases Option.isSome_iff_exists.mp split with ⟨count, free⟩
  have rented := free
  simp only [Fleet.freeGpuCount, freeGpuCountOfPartiallyRentedSplit,
    Option.ite_none_right_eq_some] at rented
  simp [Fleet.portion, free, rentedPortion, JobResult.fresh, rented.1.1]

variable {item : String × ResultRef}

theorem Completes.priced (completes : Completes env fleet)
    (member : item ∈ fleet.scored) : Priced env (prepared env fleet item) :=
  ((prepareJobResult_preparedPriced env (portion_unscored env fleet item.1 item.2)).of_ok
    (completes.preparation_eq member)).2

/-! ## The reassigned state -/

variable (env fleet) in
def reassignedState : IncentiveState := reassignSplitCandidates env (preparedState env fleet)

theorem preparedState_pools :
    (preparedState env fleet).pools = countAll fleet.scored (prepared env fleet) {} := by
  rw [preparedState_eq]

theorem preparedState_splitFallbackCandidates :
    (preparedState env fleet).pools.splitFallbackCandidates =
      candidatesOf fleet.scored (prepared env fleet)
        fun result => result.isCounted && isSplitFallbackCandidate result := by
  rw [preparedState_pools, countAll_splitFallbackCandidates]
  exact List.nil_append _

theorem candidatesOf_nodup (condition : JobResult → Bool) :
    ((candidatesOf fleet.scored (prepared env fleet) condition).map Prod.snd).Nodup := by
  have sublist := List.Sublist.map Prod.snd
    (List.filter_sublist (l := fleet.scored) (p := fun item => condition (prepared env fleet item)))
  simpa [candidatesOf, Function.comp_def] using fleet.scored_nodup.sublist sublist

variable {condition : JobResult → Bool}

theorem mem_candidatesOf {candidate : String × ResultRef} :
    candidate ∈ candidatesOf fleet.scored (prepared env fleet) condition ↔
      ∃ item ∈ fleet.scored, condition (prepared env fleet item) = true ∧
        ((prepared env fleet item).baseModel, item.2) = candidate := by
  simp only [candidatesOf, List.mem_map, List.mem_filter, and_assoc]

variable (env fleet) in
theorem reassignedState_spec :
    Reassigned env.config fleet.scored (preparedState env fleet)
      (reassignedState env fleet) := by
  have perm := sortedByUuid_perm (preparedState env fleet).heap
    (preparedState env fleet).pools.splitFallbackCandidates
  refine foldl_reassignSplitCandidate_spec fleet.scored_nodup _
    ((perm.map Prod.snd).nodup_iff.mpr ?_) (preparedState env fleet) ?_ ?_
  · rw [preparedState_splitFallbackCandidates]
    exact candidatesOf_nodup _
  · rw [preparedState_pools]
    exact countAll_booked _ _ _ fun item member => preparedState_heap env fleet member
  · intro candidate sorted
    have member := perm.mem_iff.mp sorted
    rw [preparedState_splitFallbackCandidates] at member
    obtain ⟨item, itemMember, holds, rfl⟩ := mem_candidatesOf.mp member
    rw [Bool.and_eq_true] at holds
    have stored := preparedState_heap env fleet itemMember
    exact ⟨⟨item, itemMember, rfl⟩, by rw [stored], by rw [stored]; exact holds.1,
      by rw [stored]; exact holds.2⟩

/-! ## The settled results -/

def settleOver (original settled : JobResult) : JobResult :=
  { rebucketOver original settled with
    spotPoolMultiplier := settled.spotPoolMultiplier
    effectiveRate := settled.effectiveRate }

structure SettledResult (env : Env) (original settled : JobResult) : Prop where
  frame : settleOver original settled = settled
  counted : settled.isCounted = original.isCounted
  priced : Priced env settled
  secureRate : original.spotPayCandidate = false →
    settled.effectiveRate = original.effectiveRate

variable {original : JobResult}

theorem SettledResult.kept {β : Type} {settled : JobResult}
    (step : SettledResult env original settled) (field : JobResult → β)
    (unwritten : ∀ original settled, field (settleOver original settled) = field original) :
    field settled = field original := by
  have equal := unwritten original settled
  rwa [step.frame] at equal

variable {moved : JobResult}

theorem Rebucketed.priced (step : Rebucketed env.config original moved)
    (priced : Priced env original) :
    Priced env moved := by
  have cap := step.cap
  have bucket := step.bucket
  rw [← step.frame]
  rw [← step.frame] at cap bucket
  refine { priced with eligible := ?_ }
  intro eligible
  obtain ⟨idle, notSpot, bucketed, capped⟩ := priced.eligible eligible
  exact ⟨idle, notSpot, bucket bucketed, cap capped⟩

theorem spotPoolByModel_nonneg (heap : ResultRef → JobResult)
    (candidates : List (String × ResultRef)) (baseModel : String) :
    0 ≤ (spotPoolByModel heap candidates).getD baseModel 0 := by
  have keeps : ∀ start : PyDict String ℚ, 0 ≤ start.getD baseModel 0 →
      0 ≤ (candidates.foldl (fun pools candidate => pools.set candidate.1
        ((heap candidate.2).fillerRevenueUsdPerHour.getD 0 : ℚ≥0)) start).getD baseModel 0 := by
    induction candidates with
    | nil => exact fun _ nonneg => nonneg
    | cons candidate rest induction =>
      intro start nonneg
      apply induction
      rw [PyDict.getD_set]
      split_ifs
      · exact NNRat.coe_nonneg _
      · exact nonneg
  exact keeps .empty le_rfl

theorem spotPoolMultiplierOf_nonneg (heap : ResultRef → JobResult)
    (candidates : List (String × ResultRef)) (rateSums : PyDict String ℚ)
    (baseModel : String) :
    0 ≤ spotPoolMultiplierOf rateSums (spotPoolByModel heap candidates) baseModel := by
  simp only [spotPoolMultiplierOf]
  split_ifs with positive
  · exact le_min zero_le_one
      (div_nonneg (spotPoolByModel_nonneg heap candidates baseModel) positive.le)
  · exact zero_le_one

theorem scaleSpotPay_settled {multiplier : ℚ} (step : Rebucketed env.config original moved)
    (priced : Priced env original) (spot : original.spotPayCandidate = true)
    (nonneg : 0 ≤ multiplier) :
    SettledResult env original (scaleSpotPay multiplier moved) where
  frame := by
    have covered : settleOver original
        (scaleSpotPay multiplier (rebucketOver original moved)) =
      scaleSpotPay multiplier (rebucketOver original moved) := rfl
    rw [step.frame] at covered
    exact covered
  counted := step.counted
  priced := by
    have moved := step.priced priced
    refine { moved with spot := ?_ }
    intro isSpot
    obtain ⟨notEligible, onPath, rate⟩ := moved.spot isSpot
    exact ⟨notEligible, onPath, mul_nonneg rate nonneg⟩
  secureRate := fun notSpot => by rw [spot] at notSpot; cases notSpot

theorem Rebucketed.settled (step : Rebucketed env.config original moved)
    (priced : Priced env original) :
    SettledResult env original moved where
  frame := by
    have covered : settleOver original (rebucketOver original moved) =
      rebucketOver original moved := rfl
    rw [step.frame] at covered
    exact covered
  counted := step.counted
  priced := step.priced priced
  secureRate := fun _ => by rw [← step.frame]; rfl

theorem reassignedState_spotPayCandidates :
    (reassignedState env fleet).pools.spotPayCandidates =
      candidatesOf fleet.scored (prepared env fleet) (·.spotPayCandidate) := by
  rw [reassignedState, reassignSplitCandidates_kept env (·.pools.spotPayCandidates)
    (fun _ _ _ _ _ _ _ => rfl), preparedState_pools, countAll_spotPayCandidates]
  exact List.nil_append _

theorem settledState_heap :
    (settledState env fleet).heap =
      spotPayWithinFillerEarnings (reassignedState env fleet).heap
        (candidatesOf fleet.scored (prepared env fleet) (·.spotPayCandidate)) := by
  rw [← reassignedState_spotPayCandidates]
  rfl

theorem not_mem_candidatesOf (member : item ∈ fleet.scored)
    (fails : condition (prepared env fleet item) = false) :
    item.2 ∉ (candidatesOf fleet.scored (prepared env fleet) condition).map Prod.snd := by
  intro listed
  obtain ⟨candidate, candidateMember, owns⟩ := List.mem_map.mp listed
  obtain ⟨other, otherMember, holds, rfl⟩ := mem_candidatesOf.mp candidateMember
  have same : other = item := fleet.hotkey_unique otherMember member owns
  rw [same, fails] at holds
  cases holds

theorem settledState_heap_of_not_spot
    (member : item ∈ fleet.scored)
    (notSpot : (prepared env fleet item).spotPayCandidate = false) :
    (settledState env fleet).heap item.2 = (reassignedState env fleet).heap item.2 := by
  rw [settledState_heap]
  exact updateEach_of_not_mem _ _ _ (not_mem_candidatesOf member notSpot)

theorem settledState_heap_of_spot
    (member : item ∈ fleet.scored)
    (spot : (prepared env fleet item).spotPayCandidate = true) :
    (settledState env fleet).heap item.2 =
      scaleSpotPay
        (spotPoolMultiplierOf
          (spotRateSumByModel (reassignedState env fleet).heap
            (candidatesOf fleet.scored (prepared env fleet) (·.spotPayCandidate)))
          (spotPoolByModel (reassignedState env fleet).heap
            (candidatesOf fleet.scored (prepared env fleet) (·.spotPayCandidate)))
          (prepared env fleet item).baseModel)
        ((reassignedState env fleet).heap item.2) := by
  rw [settledState_heap]
  exact updateEach_of_mem _ _ (candidatesOf_nodup _)
    (mem_candidatesOf.mpr ⟨item, member, spot, rfl⟩)

theorem Completes.settledResult (completes : Completes env fleet) (member : item ∈ fleet.scored) :
    SettledResult env (prepared env fleet item) ((settledState env fleet).heap item.2) := by
  have priced := completes.priced member
  have step := (reassignedState_spec env fleet).rebucketed item.2
  rw [preparedState_heap env fleet member] at step
  cases spot : (prepared env fleet item).spotPayCandidate with
  | false =>
    rw [settledState_heap_of_not_spot member spot]
    exact step.settled priced
  | true =>
    rw [settledState_heap_of_spot member spot]
    exact scaleSpotPay_settled step priced spot (spotPoolMultiplierOf_nonneg _ _ _ _)

theorem Completes.settled_isRented (completes : Completes env fleet)
    (member : item ∈ fleet.scored) :
    ((settledState env fleet).heap item.2).isRented = (fleet.portion item.2).isRented := by
  rw [(completes.settledResult member).kept (·.isRented) fun _ _ => rfl, prepared_isRented]

end Phases

end Lium.RentalPrice
