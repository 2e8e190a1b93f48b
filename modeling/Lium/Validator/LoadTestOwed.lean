import Lium.Validator.GpuLossHold

/-! # A node that lost a GPU proves its cards

From a hold on the node owes a load test: the hold is stored or the marker it turned into. Two other
checks write the marker with a weaker meaning, and a GPU reset passes over a hold, so the debt can
get lost.
-/

namespace Lium.GpuLossHold

open RentedGpuDrop

namespace Cycle

variable (cycle : Cycle)

def putsOnHold (state : State) : Bool :=
  !cycle.missingGpusUnderReset &&
    cycle.judgeScrape.any fun drop => (cycle.faultMark state.hold drop).isHeld

def owedAfter (settings : Settings) (owed : Bool) (state : State) : Bool :=
  cycle.putsOnHold state ||
    (owed && !((cycle.run settings state).1.probesPassed || cycle.replacedAll))

def KeepsUnlisted (settings : Settings) (state : State) : Prop :=
  (cycle.run settings state).1.failed = true ∨
    (cycle.run settings state).1.carriesGpuLost = true

instance (settings : Settings) (state : State) :
    Decidable (cycle.KeepsUnlisted settings state) :=
  inferInstanceAs (Decidable (_ ∨ _))

end Cycle

/-- While the load test is owed, no cycle without a rental lists the node. -/
def ProvesBeforeListing (settings : Settings) : Bool → State → List Cycle → Prop
  | _, _, [] => True
  | owed, state, cycle :: cycles =>
    (cycle.owedAfter settings owed state = true → cycle.rented = false →
      cycle.KeepsUnlisted settings state) ∧
    ProvesBeforeListing settings (cycle.owedAfter settings owed state)
      (cycle.run settings state).2 cycles

instance ProvesBeforeListing.decidable (settings : Settings) :
    ∀ (cycles : List Cycle) (owed : Bool) (state : State),
      Decidable (ProvesBeforeListing settings owed state cycles)
  | [], _, _ => .isTrue trivial
  | cycle :: cycles, owed, state =>
    haveI := ProvesBeforeListing.decidable settings cycles
      (cycle.owedAfter settings owed state) (cycle.run settings state).2
    inferInstanceAs (Decidable ((_ → _ → _) ∧ _))

/-- Kinds of cycles that can lose the debt. -/
structure Hazards where
  /-- The rows differ from the count, and the scrape starts no hold by itself. -/
  weakMismatch : Bool
  /-- The memory read condemns a card under a live rental. -/
  flaggedUnderRental : Bool
  /-- No rental, every anchored card listed, and a GPU reset covers the node. -/
  resetWithoutRental : Bool
deriving DecidableEq, Repr

namespace Cycle

variable (cycle : Cycle)

def strongFault : Bool :=
  !cycle.missingGpusUnderReset && cycle.judgeScrape.any fun drop => !drop.confirmFirst

def hazards (settings : Settings) (state : State) : Hazards where
  weakMismatch := cycle.detailsMismatch settings && !cycle.strongFault
  flaggedUnderRental := cycle.rented && cycle.memoryFlagged state.resetRequiredStreak
  resetWithoutRental := cycle.missingGpusUnderReset && cycle.anchoredMissing.isEmpty &&
    !cycle.rented

end Cycle

def Within (settings : Settings) (allowed : Hazards) : State → List Cycle → Prop
  | _, [] => True
  | state, cycle :: cycles =>
    ((cycle.hazards settings state).weakMismatch = true → allowed.weakMismatch = true) ∧
    ((cycle.hazards settings state).flaggedUnderRental = true →
      allowed.flaggedUnderRental = true) ∧
    ((cycle.hazards settings state).resetWithoutRental = true →
      allowed.resetWithoutRental = true) ∧
    Within settings allowed (cycle.run settings state).2 cycles

instance Within.decidable (settings : Settings) (allowed : Hazards) :
    ∀ (cycles : List Cycle) (state : State), Decidable (Within settings allowed state cycles)
  | [], _ => .isTrue trivial
  | cycle :: cycles, state =>
    haveI := Within.decidable settings allowed cycles (cycle.run settings state).2
    inferInstanceAs (Decidable ((_ → _) ∧ (_ → _) ∧ (_ → _) ∧ _))

section Debt

def Held (state : State) : Prop :=
  ∃ mark, state.hold = some mark ∧ mark.isHeld = true ∧ mark.replaced = false

def TestOwed (state : State) : Prop :=
  ∃ marker, state.marker = some marker ∧ marker.source = sourceGpuLossHold

variable {settings : Settings} {cycle : Cycle} {state : State}

theorem gpuModelValidCheck_frame :
    (cycle.gpuModelValidCheck settings state).1.halted = false ∧
      (cycle.gpuModelValidCheck settings state).2.hold = state.hold ∧
      (cycle.gpuModelValidCheck settings state).2.resetRequiredStreak =
        state.resetRequiredStreak := by
  unfold Cycle.gpuModelValidCheck
  repeat' split
  all_goals exact ⟨rfl, rfl, rfl⟩

theorem gpuMemoryHealthCheck_frame :
    (cycle.gpuMemoryHealthCheck settings state).1.halted = false ∧
      (cycle.gpuMemoryHealthCheck settings state).2.hold = state.hold := by
  unfold Cycle.gpuMemoryHealthCheck
  repeat' split
  all_goals exact ⟨rfl, rfl⟩

theorem hold_everyCardProbes (marker : RecheckMarker) :
    (cycle.everyCardProbes marker state).2.hold = state.hold := by
  unfold Cycle.everyCardProbes
  repeat' split
  all_goals rfl

theorem hold_postRentalGpuRecheckCheck :
    (cycle.postRentalGpuRecheckCheck state).2.hold = state.hold := by
  unfold Cycle.postRentalGpuRecheckCheck
  split
  · rfl
  · split
    · exact hold_everyCardProbes _
    · split
      · rfl
      · split
        · exact hold_everyCardProbes _
        · rfl

variable {parts : List (State → Outcome × State)}

theorem hold_inSequence
    (kept : ∀ part ∈ parts, ∀ state, (part state).2.hold = state.hold) (state : State) :
    (inSequence parts state).2.hold = state.hold := by
  induction parts generalizing state with
  | nil => rfl
  | cons part parts induction =>
    have first := kept part List.mem_cons_self state
    have rest := induction (fun part member => kept part (List.mem_cons_of_mem _ member))
      (part state).2
    unfold inSequence
    split
    · exact first
    · exact rest.trans first

variable {part : State → Outcome × State}

theorem reasons_inSequence {state : State} {reason : String}
    (carried : reason ∈ (part state).1.reasons) :
    reason ∈ (inSequence (part :: parts) state).1.reasons := by
  unfold inSequence
  split
  · exact carried
  · exact List.mem_append_left _ carried

def Cycle.laterParts (settings : Settings) (cycle : Cycle) : List (State → Outcome × State) :=
  [ fun state => (.other cycle.stopsBeforeModel, state)
  , cycle.gpuModelValidCheck settings
  , fun state => (.other cycle.stopsBeforeMemory, state)
  , cycle.gpuMemoryHealthCheck settings
  , fun state => (.other cycle.stopsBeforeRecheck, state)
  , fun state => (cycle.tenantEnforcement, state)
  , cycle.postRentalGpuRecheckCheck
  , fun state => (.other cycle.stopsAfterRecheck, state) ]

theorem run_eq_inSequence :
    cycle.run settings state =
      inSequence (cycle.gpuLossHoldCheck :: cycle.laterParts settings) state := rfl

theorem hold_laterParts (state : State) :
    (inSequence (cycle.laterParts settings) state).2.hold = state.hold := by
  apply hold_inSequence
  simp only [Cycle.laterParts, List.forall_mem_cons, List.not_mem_nil, false_imp_iff,
    implies_true, and_true, true_and]
  exact ⟨fun _ => gpuModelValidCheck_frame.2.1, fun _ => gpuMemoryHealthCheck_frame.2,
    fun _ => hold_postRentalGpuRecheckCheck⟩

theorem hold_run :
    (cycle.run settings state).2.hold = (cycle.gpuLossHoldCheck state).2.hold := by
  rw [run_eq_inSequence, inSequence]
  split
  · rfl
  · exact hold_laterParts _

theorem Held.run (held : Held (cycle.gpuLossHoldCheck state).2) :
    Held (cycle.run settings state).2 := by
  rcases held with ⟨mark, stored, isHeld, current⟩
  exact ⟨mark, hold_run.trans stored, isHeld, current⟩

/-- How a cycle ends that has the test to do: with the probes passed, or with the test still
owed and, without a rental, the node not listed. -/
def Settles (cycle : Cycle) (result : Outcome × State) : Prop :=
  result.1.probesPassed = true ∨
    TestOwed result.2 ∧ (cycle.rented = false →
      result.1.failed = true ∨ result.1.carriesGpuLost = true)

theorem Settles.cons
    (kept : TestOwed (part state).2)
    (halts : (part state).1.halted = true → cycle.rented = true)
    (rest : Settles cycle (inSequence parts (part state).2)) :
    Settles cycle (inSequence (part :: parts) state) := by
  unfold inSequence
  split
  · next stops =>
      apply Or.inr
      constructor
      · exact kept
      · intro unrented
        rcases Bool.or_eq_true_iff.mp stops with failed | halted
        · exact .inl failed
        · rw [halts halted] at unrented
          cases unrented
  · rcases rest with passed | ⟨owed, unlisted⟩
    · apply Or.inl
      simp [passed]
    · apply Or.inr
      constructor
      · exact owed
      · intro unrented
        rcases unlisted unrented with failed | lost
        · exact .inl failed
        · apply Or.inr
          simp only [Outcome.carriesGpuLost, decide_eq_true_eq] at lost ⊢
          exact List.mem_append_right _ lost

theorem Settles.other {stops : Bool}
    (owed : TestOwed state) (rest : Settles cycle (inSequence parts state)) :
    Settles cycle (inSequence ((fun state => (.other stops, state)) :: parts) state) := by
  apply Settles.cons
  · exact owed
  · simp [Outcome.other]
  · exact rest

theorem Settles.first
    (decides : (part state).1.probesPassed = true ∨
      TestOwed (part state).2 ∧ (part state).1.failed = true) :
    Settles cycle (inSequence (part :: parts) state) := by
  unfold inSequence
  rcases decides with passed | ⟨owed, failed⟩
  · apply Or.inl
    split
    · exact passed
    · simp [passed]
  · simp only [failed, Bool.true_or, if_true]
    exact .inr ⟨owed, fun _ => .inl failed⟩

theorem everyCardProbes_decides {marker : RecheckMarker} (stored : state.marker = some marker)
    (source : marker.source = sourceGpuLossHold) :
    (cycle.everyCardProbes marker state).1.probesPassed = true ∨
      TestOwed (cycle.everyCardProbes marker state).2 ∧
        (cycle.everyCardProbes marker state).1.failed = true := by
  unfold Cycle.everyCardProbes
  split
  · exact .inr ⟨⟨marker, stored, source⟩, rfl⟩
  · split
    · rw [Cycle.recheckNotRun, if_pos source]
      exact .inr ⟨⟨marker, stored, source⟩, rfl⟩
    · exact .inl rfl

theorem TestOwed.recheck (owed : TestOwed state) (parts : List (State → Outcome × State)) :
    Settles cycle (inSequence (cycle.postRentalGpuRecheckCheck :: parts) state) := by
  rcases owed with ⟨marker, stored, source⟩
  apply Settles.first
  have probes : _ ∨ TestOwed (cycle.everyCardProbes marker state).2 ∧ _ :=
    everyCardProbes_decides stored source
  simp only [Cycle.postRentalGpuRecheckCheck, stored]
  split
  · exact probes
  · split
    · rw [Cycle.recheckNotRun, if_pos source]
      exact .inr ⟨⟨_, rfl, source⟩, rfl⟩
    · split
      · exact probes
      · rw [Cycle.recheckNotRun, if_pos source]
        exact .inr ⟨⟨marker, stored, source⟩, rfl⟩

theorem TestOwed.of_marker {next : State} (owed : TestOwed state)
    (kept : next.marker = state.marker) : TestOwed next := by
  rcases owed with ⟨marker, stored, source⟩
  exact ⟨marker, kept.trans stored, source⟩

theorem marker_gpuMemoryHealthCheck
    (unflagged : (cycle.rented && cycle.memoryFlagged state.resetRequiredStreak) = false) :
    (cycle.gpuMemoryHealthCheck settings state).2.marker = state.marker := by
  unfold Cycle.gpuMemoryHealthCheck
  split
  · next flagged =>
      rw [flagged, Bool.and_true] at unflagged
      simp [unflagged]
  · split <;> rfl

theorem TestOwed.laterParts (owed : TestOwed state)
    (fits : cycle.detailsMismatch settings = false)
    (unflagged : (cycle.rented && cycle.memoryFlagged state.resetRequiredStreak) = false) :
    Settles cycle (inSequence (cycle.laterParts settings) state) := by
  have afterModel : TestOwed (cycle.gpuModelValidCheck settings state).2 := by
    apply owed.of_marker
    unfold Cycle.gpuModelValidCheck
    rw [fits]
    repeat' split
    all_goals first | rfl | contradiction
  have afterMemory : TestOwed (cycle.gpuMemoryHealthCheck settings
      (cycle.gpuModelValidCheck settings state).2).2 := by
    apply afterModel.of_marker
    apply marker_gpuMemoryHealthCheck
    rwa [gpuModelValidCheck_frame.2.2]
  apply Settles.other owed
  apply Settles.cons afterModel (by simp [gpuModelValidCheck_frame.1])
  apply Settles.other afterModel
  apply Settles.cons afterMemory (by simp [gpuMemoryHealthCheck_frame.1])
  apply Settles.other afterMemory
  apply Settles.cons
  · exact afterMemory
  · exact id
  · exact afterMemory.recheck _

/-- What `GpuLossHoldCheck` can make of a debt in a cycle that starts no hold: it fails the
cycle, keeps the hold under a rental, or leaves the test to the recheck. -/
def PassesDebtOn (cycle : Cycle) (result : Outcome × State) : Prop :=
  (result.1.failed = true ∧ (Held result.2 ∨ TestOwed result.2)) ∨
    (cycle.rented = true ∧ Held result.2) ∨ TestOwed result.2

theorem not_held_of_unmarked (unmarked : state.hold = none) : ¬ Held state := by
  rintro ⟨mark, stored, -⟩
  rw [unmarked] at stored
  cases stored

section

variable (owed : Held state ∨ TestOwed state)
include owed

theorem cleanScrape_passesDebtOn
    (kept : cycle.replacedAll = false) : PassesDebtOn cycle (cycle.cleanScrape state) := by
  unfold Cycle.cleanScrape
  split
  · simp only [kept, Bool.and_false, Bool.false_eq_true, if_false]
    exact .inl ⟨rfl, owed⟩
  · split
    · next unmarked => exact .inr (.inr (owed.resolve_left (not_held_of_unmarked unmarked)))
    · next mark marked =>
        rw [kept, Bool.or_false]
        split
        · next void =>
            -- the mark is no hold, so the debt is the marker's
            have unheld : ¬ Held state := by
              rintro ⟨other, stored, isHeld, current⟩
              rw [marked] at stored
              cases stored
              simp [isHeld, current] at void
            have markerOwed := owed.resolve_left unheld
            exact .inr (.inr (markerOwed.of_marker rfl))
        · next valid =>
            have isHeld : mark.isHeld = true ∧ mark.replaced = false := by
              simpa using valid
            split
            · next rented => exact .inr (.inl ⟨rented, mark, marked, isHeld⟩)
            · exact .inr (.inr ⟨_, rfl, rfl⟩)

theorem gpuLossHoldCheck_passesDebtOn
    (noHold : cycle.putsOnHold state = false) (kept : cycle.replacedAll = false)
    (uncovered : (cycle.hazards settings state).resetWithoutRental = false) :
    PassesDebtOn cycle (cycle.gpuLossHoldCheck state) := by
  unfold Cycle.gpuLossHoldCheck
  split
  · next covered =>
      split
      · next listed =>
          have rented : cycle.rented = true := by
            simpa [Cycle.hazards, covered, listed] using uncovered
          rcases owed with held | owed
          · exact .inr (.inl ⟨rented, held⟩)
          · exact .inr (.inr owed)
      · exact .inl ⟨rfl, owed⟩
  · next judged =>
      split
      · next drop found =>
          have isPending : (cycle.faultMark state.hold drop).isHeld = false := by
            simpa [Cycle.putsOnHold, judged, found] using noHold
          have unmarked : state.hold = none := by
            simp only [Cycle.faultMark, Bool.or_eq_false_iff] at isPending
            simpa using isPending.1
          have markerOwed := owed.resolve_left (not_held_of_unmarked unmarked)
          exact .inr (.inr (markerOwed.of_marker rfl))
      · exact cleanScrape_passesDebtOn owed kept

end

theorem run_of_putsOnHold (holds : cycle.putsOnHold state = true) :
    Held (cycle.run settings state).2 ∧ cycle.KeepsUnlisted settings state := by
  simp only [Cycle.putsOnHold, Bool.and_eq_true, Bool.not_eq_true', Option.any_eq_true] at holds
  rcases holds with ⟨judged, drop, found, isHeld⟩
  have check : cycle.gpuLossHoldCheck state = cycle.faultyScrape drop state := by
    simp [Cycle.gpuLossHoldCheck, judged, found]
  constructor
  · apply Held.run
    rw [check]
    exact ⟨_, rfl, isHeld, rfl⟩
  · apply Or.inr
    rw [Outcome.carriesGpuLost, decide_eq_true_eq, run_eq_inSequence]
    apply reasons_inSequence
    simp [check, Cycle.faultyScrape, isHeld, Outcome.failure]

theorem gpuLossHoldCheck_frame :
    (cycle.gpuLossHoldCheck state).1.halted = false ∧
      (cycle.gpuLossHoldCheck state).2.resetRequiredStreak = state.resetRequiredStreak := by
  simp only [Cycle.gpuLossHoldCheck, Cycle.faultyScrape, Cycle.cleanScrape]
  repeat' split
  all_goals exact ⟨rfl, rfl⟩

theorem detailsMismatch_eq_false (noHold : cycle.putsOnHold state = false)
    (harmless : (cycle.hazards settings state).weakMismatch = false) :
    cycle.detailsMismatch settings = false := by
  by_contra mismatches
  have mismatch := Bool.eq_true_of_not_eq_false mismatches
  have strong : cycle.strongFault = true := by
    simpa [Cycle.hazards, mismatch] using harmless
  simp only [Cycle.strongFault, Bool.and_eq_true, Option.any_eq_true] at strong
  rcases strong with ⟨judged, drop, found, certain⟩
  simp [Cycle.putsOnHold, judged, found, Cycle.faultMark, certain] at noHold

theorem run_of_owed (owed : Held state ∨ TestOwed state)
    (harmless : cycle.hazards settings state = ⟨false, false, false⟩)
    (noHold : cycle.putsOnHold state = false) (kept : cycle.replacedAll = false) :
    (cycle.run settings state).1.probesPassed = true ∨
      (Held (cycle.run settings state).2 ∨ TestOwed (cycle.run settings state).2) ∧
        (cycle.rented = false → cycle.KeepsUnlisted settings state) := by
  have fits := detailsMismatch_eq_false noHold (congrArg Hazards.weakMismatch harmless)
  have unflagged := congrArg Hazards.flaggedUnderRental harmless
  have debt := gpuLossHoldCheck_passesDebtOn owed noHold kept
    (congrArg Hazards.resetWithoutRental harmless)
  rcases debt with ⟨failed, still⟩ | ⟨rented, held⟩ | owedNext
  · have stopped : cycle.run settings state = cycle.gpuLossHoldCheck state := by
      rw [run_eq_inSequence, inSequence]
      simp [failed]
    apply Or.inr
    rw [Cycle.KeepsUnlisted, stopped]
    exact ⟨still, fun _ => .inl failed⟩
  · apply Or.inr
    constructor
    · exact .inl held.run
    · intro unrented
      rw [rented] at unrented
      cases unrented
  · have settles : Settles cycle (cycle.run settings state) := by
      rw [run_eq_inSequence]
      apply Settles.cons owedNext
      · simp [gpuLossHoldCheck_frame.1]
      · apply owedNext.laterParts fits
        rw [gpuLossHoldCheck_frame.2]
        exact unflagged
    rcases settles with passed | ⟨owedAfter, unlisted⟩
    · exact .inl passed
    · exact .inr ⟨.inr owedAfter, unlisted⟩

theorem owedAfter_stored {owed : Bool} (stored : owed = true → Held state ∨ TestOwed state)
    (harmless : cycle.hazards settings state = ⟨false, false, false⟩)
    (owedNext : cycle.owedAfter settings owed state = true) :
    (Held (cycle.run settings state).2 ∨ TestOwed (cycle.run settings state).2) ∧
      (cycle.rented = false → cycle.KeepsUnlisted settings state) := by
  by_cases holds : cycle.putsOnHold state = true
  · have onHold : Held (cycle.run settings state).2 ∧ _ := run_of_putsOnHold holds
    exact ⟨.inl onHold.1, fun _ => onHold.2⟩
  · simp only [Cycle.owedAfter, Bool.or_eq_true, holds, Bool.false_eq_true, false_or,
      Bool.and_eq_true, Bool.not_eq_true', Bool.or_eq_false_iff] at owedNext
    rcases owedNext with ⟨isOwed, unpassed, kept⟩
    rcases run_of_owed (stored isOwed) harmless (Bool.eq_false_iff.mpr holds) kept with
      passed | carried
    · rw [unpassed] at passed
      cases passed
    · exact carried

theorem provesBeforeListing_of_harmless {cycles : List Cycle} {owed : Bool}
    (stored : owed = true → Held state ∨ TestOwed state)
    (within : Within settings ⟨false, false, false⟩ state cycles) :
    ProvesBeforeListing settings owed state cycles := by
  induction cycles generalizing owed state with
  | nil => trivial
  | cons cycle cycles induction =>
    rcases within with ⟨fits, unflagged, uncovered, later⟩
    have harmless : cycle.hazards settings state = ⟨false, false, false⟩ := by
      rcases hazards : cycle.hazards settings state with ⟨first, second, third⟩
      simp only [hazards, Bool.false_eq_true, imp_false, Bool.not_eq_true] at fits unflagged uncovered
      rw [fits, unflagged, uncovered]
    constructor
    · intro owedNext
      exact (owedAfter_stored stored harmless owedNext).2
    · apply induction _ later
      intro owedNext
      exact (owedAfter_stored stored harmless owedNext).1

end Debt

section Losses

def sampleSettings : Settings := ⟨["H100"], true⟩

def nothingStored : State := ⟨none, none, 0⟩

def sampleCard (uuid : String) : Card := ⟨some uuid, some "H100", some "H100"⟩

def healthyCycle : Cycle where
  now := 0
  anchor := ["a", "b"]
  scrape := ⟨2, [sampleCard "a", sampleCard "b"], none⟩
  pods := []
  resets := []
  recentReset := none
  podsStranded := false
  memory := .ok false
  fillerOnly := false
  fillersRemoved := false
  probes := ⟨[], false, true⟩
  stopsBeforeModel := false
  stopsBeforeMemory := false
  stopsBeforeRecheck := false
  stopsAfterRecheck := false

def lostCycle : Cycle := { healthyCycle with scrape := ⟨2, [sampleCard "a"], none⟩ }

def unprobedCycle : Cycle := { healthyCycle with probes := ⟨[], true, true⟩ }

def cutShortCycle : Cycle := { healthyCycle with scrape := ⟨2, [sampleCard "a"], some none⟩ }

def flaggedRentedCycle : Cycle :=
  { healthyCycle with pods := [⟨some 2, "pod"⟩], memory := .flagged }

def fillerCycle : Cycle := { healthyCycle with fillerOnly := true }

def resetCycle : Cycle := { fillerCycle with resets := [[]] }

def cutShortRun : List Cycle := [lostCycle, unprobedCycle, cutShortCycle, fillerCycle]

def flaggedRun : List Cycle := [lostCycle, unprobedCycle, flaggedRentedCycle, fillerCycle]

def resetRun : List Cycle := [lostCycle, resetCycle]

theorem not_proves_cutShortRun :
    ¬ ProvesBeforeListing sampleSettings false nothingStored cutShortRun := by
  decide +kernel

theorem not_proves_flaggedRun :
    ¬ ProvesBeforeListing sampleSettings false nothingStored flaggedRun := by
  decide +kernel

theorem not_proves_resetRun :
    ¬ ProvesBeforeListing sampleSettings false nothingStored resetRun := by
  decide +kernel

theorem weak_evidence_lists_unproven :
    ¬ ∀ settings state cycles, ProvesBeforeListing settings false state cycles := by
  intro proves
  exact not_proves_cutShortRun (proves sampleSettings nothingStored cutShortRun)

/-- The guarantee holds for all runs just of the cycles without any of the three hazards. -/
theorem provesBeforeListing_iff (allowed : Hazards) :
    (∀ settings state cycles, Within settings allowed state cycles →
      ProvesBeforeListing settings false state cycles) ↔ allowed = ⟨false, false, false⟩ := by
  rcases allowed with ⟨weakMismatch, flaggedUnderRental, resetWithoutRental⟩
  constructor
  · intro proves
    -- each hazard has a run that needs no other one
    cases weakMismatch with
    | true =>
      apply absurd (proves sampleSettings nothingStored cutShortRun _) not_proves_cutShortRun
      cases flaggedUnderRental <;> cases resetWithoutRental <;> decide +kernel
    | false =>
      cases flaggedUnderRental with
      | true =>
        apply absurd (proves sampleSettings nothingStored flaggedRun _) not_proves_flaggedRun
        cases resetWithoutRental <;> decide +kernel
      | false =>
        cases resetWithoutRental with
        | true =>
          apply absurd (proves sampleSettings nothingStored resetRun _) not_proves_resetRun
          decide +kernel
        | false => rfl
  · intro none
    rw [none]
    intro settings state cycles within
    apply provesBeforeListing_of_harmless _ within
    intro owed
    cases owed

end Losses

end Lium.GpuLossHold
