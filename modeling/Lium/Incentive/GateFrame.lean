import Lium.Incentive.ExecutorScore

/-! # What the idle-pool gates change

The gates touch a result's GPU count, the count of GPUs withheld from the pools and the
recorded reasons, and nothing else. They only ever withdraw eligibility, and they never
lose a GPU.
-/

namespace Lium

variable (state : Scoring.Candidacy) {freeGpuCount minCount : ℕ} {available : Int} {result : JobResult}
  {measured : Type}

namespace Gates

variable {limited : PortLimitedRemainder}

theorem sizePortLimit_spec (sized : sizePortLimit freeGpuCount minCount available = some limited) :
    limited.paidSplitCount ≤ freeGpuCount / minCount ∧
      limited.unpaidGpuCount =
        if limited.paidSplitCount = 0 then freeGpuCount
        else (freeGpuCount / minCount - limited.paidSplitCount) * minCount := by
  simp only [sizePortLimit, Option.ite_none_left_eq_some, Option.some.injEq] at sized
  obtain ⟨-, rfl⟩ := sized
  refine ⟨?_, rfl⟩
  dsimp only
  split_ifs
  · exact min_le_left _ _
  · exact Nat.zero_le _

theorem sizePortLimit_unpaid_lt
    (sized : sizePortLimit freeGpuCount minCount available = some limited)
    (paid : limited.paidSplitCount ≠ 0) : limited.unpaidGpuCount < freeGpuCount := by
  obtain ⟨fits, unpaid⟩ := sizePortLimit_spec sized
  rw [unpaid, if_neg paid]
  have minPositive : 0 < minCount := by
    rcases Nat.eq_zero_or_pos minCount with zero | positive
    · rw [zero, Nat.div_zero] at fits
      exact absurd (Nat.le_zero.mp fits) paid
    · exact positive
  calc (freeGpuCount / minCount - limited.paidSplitCount) * minCount
      < freeGpuCount / minCount * minCount :=
        Nat.mul_lt_mul_of_pos_right (by omega) minPositive
    _ ≤ freeGpuCount := Nat.div_mul_le_self _ _

theorem sizeDiskLimit_spec {listable listableGpus : Int} {limited : DiskLimitedRemainder}
    (sized : sizeDiskLimit freeGpuCount minCount listable listableGpus = some limited) :
    limited.unpaidGpuCount = freeGpuCount - min freeGpuCount listableGpus.toNat ∧
      (limited.paidSplitCount ≠ 0 → 0 < min freeGpuCount listableGpus.toNat) := by
  simp only [sizeDiskLimit, Option.ite_none_left_eq_some, Option.some.injEq] at sized
  obtain ⟨-, rfl⟩ := sized
  refine ⟨rfl, ?_⟩
  dsimp only
  split_ifs with nonePaid
  · exact fun paid => absurd rfl paid
  · exact fun _ => Nat.pos_of_ne_zero nonePaid

theorem portLimitedRemainder_some (measured : portLimitedRemainder result = .ok (some limited)) :
    result.isSplitRemainder = true ∧ ∃ minCount available,
      sizePortLimit (result.gpuCount + result.portUnpaidGpuCount) minCount available =
        some limited := by
  unfold portLimitedRemainder at measured
  split at measured
  · cases measured
  · next spec minCount sizing =>
      refine ⟨?_, minCount, ?_⟩
      · by_contra notRemainder
        simp [remainderSizing, notRemainder] at sizing
      · cases ports : availablePorts spec with
        | error error => rw [ports] at measured; cases measured
        | ok available =>
          rw [ports] at measured
          simp only [Except.map, Except.ok.injEq, Option.bind_eq_some_iff] at measured
          obtain ⟨count, -, sized⟩ := measured
          exact ⟨count, sized⟩

theorem diskLimitedRemainder_some {limited : DiskLimitedRemainder}
    (measured : diskLimitedRemainder result = some limited) :
    result.isSplitRemainder = true ∧ ∃ minCount listable listableGpus,
      sizeDiskLimit (result.gpuCount + result.portUnpaidGpuCount) minCount listable
        listableGpus = some limited := by
  unfold diskLimitedRemainder at measured
  split at measured
  · cases measured
  · next spec minCount sizing =>
      refine ⟨?_, minCount, ?_⟩
      · by_contra notRemainder
        simp [remainderSizing, notRemainder] at sizing
      · obtain ⟨listing, -, sized⟩ := Option.bind_eq_some_iff.mp measured
        exact ⟨listing.1, listing.2, sized⟩

end Gates

namespace Scoring

open Raising

def gateOver (original gated : JobResult) : JobResult :=
  { original with
    gpuCount := gated.gpuCount
    portUnpaidGpuCount := gated.portUnpaidGpuCount
    zeroIncentiveReasons := gated.zeroIncentiveReasons }

structure GatedResult (original gated : JobResult) : Prop where
  frame : gateOver original gated = gated
  gpuTotal : gated.gpuCount + gated.portUnpaidGpuCount =
    original.gpuCount + original.portUnpaidGpuCount
  gpuCount_pos : 0 < original.gpuCount → 0 < gated.gpuCount
  whole : original.isSplitRemainder = false → gated.gpuCount = original.gpuCount

namespace GatedResult

theorem refl (result : JobResult) : GatedResult result result where
  frame := rfl
  gpuTotal := rfl
  gpuCount_pos := id
  whole := fun _ => rfl

theorem isSplitRemainder {original gated : JobResult} (step : GatedResult original gated) :
    gated.isSplitRemainder = original.isSplitRemainder :=
  (congrArg JobResult.isSplitRemainder step.frame).symm

theorem trans {first second third : JobResult} (left : GatedResult first second)
    (right : GatedResult second third) : GatedResult first third where
  frame := by
    have composed : gateOver first third = gateOver (gateOver first second) third := rfl
    rw [composed, left.frame, right.frame]
  gpuTotal := right.gpuTotal.trans left.gpuTotal
  gpuCount_pos := right.gpuCount_pos ∘ left.gpuCount_pos
  whole := fun notRemainder =>
    (right.whole (left.isSplitRemainder.trans notRemainder)).trans (left.whole notRemainder)

theorem withReasons (result : JobResult) (reasons : List ZeroIncentiveReason) :
    GatedResult result (result.withReasons reasons) where
  frame := rfl
  gpuTotal := rfl
  gpuCount_pos := id
  whole := fun _ => rfl

theorem recordReasonIf (result : JobResult) (condition : Bool)
    (reason : ZeroIncentiveReason) :
    GatedResult result (result.recordReasonIf condition reason) := by
  obtain ⟨reasons, equal⟩ := result.recordReasonIf_eq_withReasons condition reason
  exact equal ▸ withReasons result reasons

end GatedResult

structure Gated (start state : Candidacy) : Prop extends
    GatedResult start.result state.result where
  candidate : state.idlePoolCandidate = start.idlePoolCandidate
  eligible : state.eligible = true → start.eligible = true

namespace Gated

theorem refl : Gated state state where
  toGatedResult := .refl _
  candidate := rfl
  eligible := id

theorem trans {first second third : Candidacy} (left : Gated first second)
    (right : Gated second third) : Gated first third where
  toGatedResult := left.toGatedResult.trans right.toGatedResult
  candidate := right.candidate.trans left.candidate
  eligible := left.eligible ∘ right.eligible

theorem block (reason : ZeroIncentiveReason) :
    Gated state (state.block reason) where
  toGatedResult := .withReasons _ _
  candidate := rfl
  eligible := fun blocked => by cases blocked

theorem withhold {gpuCount : ℕ} (reason : ZeroIncentiveReason)
    (remainder : state.result.isSplitRemainder = true)
    (fewer : gpuCount < state.result.gpuCount ∨ gpuCount = 0) :
    Gated state (state.withhold gpuCount reason) where
  frame := rfl
  gpuTotal := by
    simp only [Candidacy.withhold, JobResult.recordReason]
    omega
  gpuCount_pos := fun positive => by
    simp only [Candidacy.withhold, JobResult.recordReason]
    omega
  whole := fun notRemainder => by rw [remainder] at notRemainder; cases notRemainder
  candidate := rfl
  eligible := id

end Gated

/-! ## Each gate -/

theorem idlePoolGate_cases (enforced : Bool) (reason : ZeroIncentiveReason)
    (measure : JobResult → Except PyError (Option measured)) (state : Candidacy) :
    Ensures (· = state.result) (fun passed => passed = state ∨ passed = state.block reason)
      (idlePoolGate enforced reason measure state) := by
  have measures : ∀ verdict : Except PyError (Option measured),
      Ensures (· = state.result) (fun _ => True) (atState state.result verdict) :=
    fun verdict => ensures_atState verdict rfl fun _ _ => trivial
  apply (measures _).bind
  intro failing _
  change _ ∨ _
  split_ifs
  · exact .inr rfl
  · exact .inl rfl

theorem idlePoolGate_gated (enforced : Bool) (reason : ZeroIncentiveReason)
    (measure : JobResult → Except PyError (Option measured)) (state : Candidacy) :
    Ensures (GatedResult state.result) (Gated state)
      (idlePoolGate enforced reason measure state) := by
  apply (idlePoolGate_cases enforced reason measure state).mono
  · rintro left rfl
    exact .refl _
  · rintro passed (rfl | rfl)
    · exact .refl _
    · exact .block state reason

theorem applyPortLimit_gated
    (untouched : state.result.portUnpaidGpuCount = 0) :
    Ensures (GatedResult state.result) (Gated state) (applyPortLimit state) := by
  have measures : Ensures (GatedResult state.result)
      (fun limited => ∀ limit, limited = some limit →
        Gates.portLimitedRemainder state.result = .ok (some limit))
      (atState state.result
        (if state.idlePoolCandidate then Gates.portLimitedRemainder state.result
        else .ok none)) := by
    apply ensures_atState _ (.refl _)
    intro limited measured limit isSome
    subst isSome
    split_ifs at measured
    · exact measured
    · cases measured
  apply measures.bind
  intro limited measured
  cases limited with
  | none => exact .refl state
  | some limit =>
    obtain ⟨remainder, minCount, available, sized⟩ :=
      Gates.portLimitedRemainder_some (measured limit rfl)
    simp only
    split_ifs with nonePaid
    · exact .block state _
    · apply Gated.withhold state _ remainder
      exact .inl (by simpa [untouched] using Gates.sizePortLimit_unpaid_lt sized nonePaid)

theorem applyDiskLimit_gated : Gated state (applyDiskLimit state) := by
  unfold applyDiskLimit
  cases candidate : state.idlePoolCandidate with
  | false => exact .refl state
  | true =>
    simp only [if_true]
    split
    · exact .refl state
    · next limit measured =>
        obtain ⟨remainder, minCount, listable, listableGpus, sized⟩ :=
          Gates.diskLimitedRemainder_some measured
        split_ifs with nonePaid
        · exact .block state _
        · apply Gated.withhold state _ remainder
          obtain ⟨unpaid, positive⟩ := Gates.sizeDiskLimit_spec sized
          have kept := positive nonePaid
          omega

theorem gated_bind {start : Candidacy} {computation : Raising PyError JobResult Candidacy}
    {next : Candidacy → Raising PyError JobResult Candidacy}
    (first : Ensures (GatedResult start.result) (Gated start) computation)
    (second : ∀ state, Ensures (GatedResult state.result) (Gated state) (next state)) :
    Ensures (GatedResult start.result) (Gated start) (computation >>= next) :=
  first.bind fun state gated =>
    (second state).mono (fun _ => gated.toGatedResult.trans) (fun _ => gated.trans)

theorem runIdlePoolGates_gated (env : Env) (baseModel : String) (state : Candidacy)
    (untouched : state.result.portUnpaidGpuCount = 0) :
    Ensures (GatedResult state.result) (Gated state) (runIdlePoolGates env baseModel state) := by
  apply gated_bind (applyPortLimit_gated state untouched)
  intro portLimited
  refine gated_bind ((idlePoolGate_gated _ _ _ _).mono
    (fun _ => (applyDiskLimit_gated portLimited).toGatedResult.trans)
    (fun _ => (applyDiskLimit_gated portLimited).trans)) fun priced => ?_
  refine gated_bind (idlePoolGate_gated _ _ _ _) fun measured => ?_
  refine gated_bind (idlePoolGate_gated _ _ _ _) fun capable => ?_
  exact gated_bind (idlePoolGate_gated _ _ _ _) fun capped => idlePoolGate_gated _ _ _ _

end Scoring

end Lium
