import Lium.Foundation.Text
import Lium.Validator.ExecutorRollout
import Mathlib.Data.List.Chain

/-! # Rollout grace does not chain

The stored state is told by the age of the open window: the cycles it has been counted in. An
observation keeps the window or opens a new one, and the latter only at an age past the grace.
-/

namespace Lium.Rollout

open Coroutine ExecutorRolloutTracker

variable {window : RolloutWindow} {before next : RolloutState} {tracker : ExecutorRolloutTracker}
  {first second third : RolloutState} {jobBlock : ℕ} {state : RolloutState}

/-! ## Cycles -/

/-- What a cycle sees: the registry's digest at its start and at its end, and how many results
it withholds. -/
structure CycleInput where
  jobBlock : ℕ
  startDigest : Option String
  startNow : Int
  endDigest : Option String
  endNow : Int
  withheldCount : ℕ

/-- The rollout side of one cycle: the windows at its start and at its end. -/
def observeCycle (tracker : ExecutorRolloutTracker) (runtime : PyRuntime) (input : CycleInput) :
    Coroutine Stored (RolloutWindow × RolloutWindow) := do
  let startWindow ← tracker.observeExecutorRollout runtime input.startDigest input.jobBlock
    input.startNow none
  let endWindow ← tracker.observeExecutorRollout runtime input.endDigest input.jobBlock
    input.endNow (some startWindow)
  recordWithheldVerdicts endWindow input.withheldCount input.jobBlock
  pure (startWindow, endWindow)

structure CycleRecord where
  jobBlock : ℕ
  startWindow : RolloutWindow
  endWindow : RolloutWindow
  before : RolloutState
  after : RolloutState

namespace CycleRecord

variable (record : CycleRecord)

def startCovered : Bool := record.startWindow.covers record.jobBlock

def endCovered : Bool := record.endWindow.covers record.jobBlock

def covered : Bool := record.startCovered || record.endCovered

def opens : Prop :=
  record.after.openedJobBlock ≠ none ∧
    record.after.openedJobBlock ≠ record.before.openedJobBlock

end CycleRecord

/-- Cycles one after the other, from what Redis holds. -/
inductive Run (tracker : ExecutorRolloutTracker) (runtime : PyRuntime) :
    Stored → List CycleRecord → Prop
  | nil (stored) : Run tracker runtime stored []
  | cons {stored left startWindow endWindow records} (input : CycleInput) :
      (.returned (startWindow, endWindow), left) ∈ observeCycle tracker runtime input stored →
      Run tracker runtime left records →
      Run tracker runtime stored
        (⟨input.jobBlock, startWindow, endWindow, stored.getD {}, left.getD {}⟩ :: records)

/-! ## The age of the window -/

namespace RolloutState

def ageAt (jobBlock : ℕ) (state : RolloutState) : ℕ :=
  if state.lastJobBlock = some jobBlock then state.cyclesSeen else state.cyclesSeen + 1

def WellFormed (state : RolloutState) : Prop := state.openedJobBlock ≠ none → state.digest ≠ none

def CountedAt (jobBlock : ℕ) (state : RolloutState) : Prop :=
  state.openedJobBlock ≠ none → state.lastJobBlock = some jobBlock

theorem ageAt_of_counted (counted : state.lastJobBlock = some jobBlock) :
    state.ageAt jobBlock = state.cyclesSeen :=
  if_pos counted

theorem ageAt_of_other {other : ℕ} (counted : state.lastJobBlock = some other)
    (different : other ≠ jobBlock) :
    state.ageAt jobBlock = state.cyclesSeen + 1 := by
  apply if_neg
  rw [counted, Option.some.injEq]
  exact different

end RolloutState

open RolloutState

/-- What an observation may do to the stored state. -/
inductive Aged (tracker : ExecutorRolloutTracker) (jobBlock : ℕ) (before after : RolloutState) :
    Prop
  | kept (window : after.openedJobBlock = before.openedJobBlock)
      (age : after.openedJobBlock ≠ none → after.ageAt jobBlock = before.ageAt jobBlock)
      (counted : before.CountedAt jobBlock → after.CountedAt jobBlock)
  | opened
      (allowed : before.openedJobBlock = none ∨
        tracker.graceCycles + 2 ≤ (before.ageAt jobBlock : Int))
      (window : after.openedJobBlock = some jobBlock)
      (counted : after.lastJobBlock = some jobBlock) (age : after.cyclesSeen = 1)

namespace Aged

theorem of_same (window : second.openedJobBlock = first.openedJobBlock)
    (last : second.lastJobBlock = first.lastJobBlock)
    (seen : second.cyclesSeen = first.cyclesSeen) : Aged tracker jobBlock first second := by
  refine .kept window ?_ ?_
  · intro _
    rw [ageAt, ageAt, last, seen]
  · rw [CountedAt, CountedAt, window, last]
    exact id

theorem refl (state : RolloutState) : Aged tracker jobBlock state state := of_same rfl rfl rfl

theorem of_unopened (before : first.openedJobBlock = none) (after : second.openedJobBlock = none) :
    Aged tracker jobBlock first second :=
  .kept (after.trans before.symm) (fun isOpen => absurd after isOpen)
    fun _ isOpen => absurd after isOpen

theorem trans (left : Aged tracker jobBlock first second)
    (right : Aged tracker jobBlock second third) : Aged tracker jobBlock first third := by
  cases right with
  | opened allowed window counted age =>
    cases left with
    | opened firstAllowed _ _ _ => exact .opened firstAllowed window counted age
    | kept keptWindow keptAge _ =>
      refine .opened ?_ window counted age
      by_cases isOpen : second.openedJobBlock = none
      · exact .inl (keptWindow.symm.trans isOpen)
      · rw [← keptAge isOpen]
        exact .inr (allowed.resolve_left isOpen)
  | kept window age counted =>
    cases left with
    | kept keptWindow keptAge keptCounted =>
      refine .kept (window.trans keptWindow) (fun isOpen => ?_) (counted ∘ keptCounted)
      exact (age isOpen).trans (keptAge (window ▸ isOpen))
    | opened allowed openedWindow openedCounted openedAge =>
      have stillOpen : third.openedJobBlock = some jobBlock := window.trans openedWindow
      have isOpen : third.openedJobBlock ≠ none := by
        rw [stillOpen]
        exact Option.some_ne_none jobBlock
      have stillCounted := counted (fun _ => openedCounted) isOpen
      have kept := age isOpen
      rw [ageAt_of_counted stillCounted, ageAt_of_counted openedCounted, openedAge] at kept
      exact .opened allowed stillOpen stillCounted kept

end Aged

/-- The window shows the stored state, and the cycle has been counted in it. -/
structure Shows (tracker : ExecutorRolloutTracker) (jobBlock : ℕ) (window : RolloutWindow)
    (state : RolloutState) : Prop where
  openedJobBlock : window.openedJobBlock = state.openedJobBlock
  cyclesSeen : window.cyclesSeen = state.cyclesSeen
  graceCycles : window.graceCycles = tracker.graceCycles
  counted : state.CountedAt jobBlock

/-- What an observation leaves behind, and what it returns if it does. -/
structure Observation (tracker : ExecutorRolloutTracker) (jobBlock : ℕ) (before : RolloutState)
    (ending : Ending RolloutWindow) (after : RolloutState) : Prop where
  wellFormed : after.WellFormed
  aged : Aged tracker jobBlock before after
  shows : ∀ window, ending = .returned window → Shows tracker jobBlock window after

/-! ## One observation -/

section Observe

variable {stored : Stored}

theorem ensures_save (state : RolloutState) :
    Ensures (save state) stored fun ending left =>
      left = some state ∨ ending ≠ .returned () ∧ left = stored := by
  rw [save, ensures_await]
  exact ⟨.inl rfl, ⟨.inr ⟨nofun, rfl⟩, .inl rfl⟩, .inr ⟨nofun, rfl⟩, .inl rfl⟩

theorem ensures_saveThen {α : Type} {value : α} (shows : α → RolloutState → Prop)
    (held : stored.getD {} = before) (beforeFormed : before.WellFormed)
    (aged : Aged tracker jobBlock before next) (nextFormed : next.WellFormed)
    (shown : shows value next) :
    Ensures (do save next; pure value) stored fun ending left =>
      (left.getD {}).WellFormed ∧ Aged tracker jobBlock before (left.getD {}) ∧
        ∀ value, ending = .returned value → shows value (left.getD {}) := by
  refine (ensures_save next).bind ?returned ?raised ?cancelled
  case returned =>
    intro _ left saved
    rcases saved with written | ⟨notReturned, -⟩
    · rw [ensures_pure, written]
      refine ⟨nextFormed, aged, ?_⟩
      intro returned equal
      cases equal
      exact shown
    · exact absurd rfl notReturned
  all_goals
    intro left saved
    rcases saved with written | ⟨-, unwritten⟩
    · rw [written]
      exact ⟨nextFormed, aged, fun _ => nofun⟩
    · rw [unwritten, held]
      exact ⟨beforeFormed, .refl before, fun _ => nofun⟩

theorem ensures_saveAndShow (held : stored.getD {} = before) (beforeFormed : before.WellFormed)
    (nextFormed : next.WellFormed) (aged : Aged tracker jobBlock before next)
    (shown : Shows tracker jobBlock window next) :
    Ensures (do save next; pure window) stored fun ending left =>
      Observation tracker jobBlock before ending (left.getD {}) := by
  refine (ensures_saveThen _ held beforeFormed aged nextFormed shown).mono ?_
  rintro ending left ⟨formed, aged, shows⟩
  exact ⟨formed, aged, shows⟩

theorem window_shows (counted : state.CountedAt jobBlock) :
    Shows tracker jobBlock (tracker.window state) state :=
  ⟨rfl, rfl, rfl, counted⟩

variable (tracker) in
theorem ensures_closeTheWindow (held : stored.getD {} = state) (formed : state.WellFormed)
    (counted : state.CountedAt jobBlock) :
    Ensures (tracker.closeTheWindowWhenItIsOver state jobBlock) stored fun ending left =>
      Observation tracker jobBlock state ending (left.getD {}) := by
  simp only [closeTheWindowWhenItIsOver]
  split
  · rw [ensures_pure, held]
    refine ⟨formed, .refl state, ?_⟩
    intro window equal
    cases equal
    exact window_shows counted
  · exact ensures_saveAndShow held formed (fun isOpen => formed isOpen) (.of_same rfl rfl rfl)
      ⟨rfl, rfl, rfl, counted⟩

variable (tracker) in
theorem ensures_reactToTheChangedDigest (held : stored.getD {} = state)
    (formed : state.WellFormed) (counted : state.CountedAt jobBlock) (digest : String)
    (now : Int) :
    Ensures (tracker.reactToTheChangedDigest state digest jobBlock now) stored fun ending left =>
      Observation tracker jobBlock state ending (left.getD {}) := by
  rw [reactToTheChangedDigest]
  split
  case isTrue unseeded =>
    have unopened : state.openedJobBlock = none := by
      by_contra isOpen
      exact formed isOpen unseeded
    refine ensures_saveAndShow held formed ?_ (.of_unopened unopened rfl) ?_
    · exact fun isOpen => absurd rfl isOpen
    · exact window_shows fun isOpen => absurd rfl isOpen
  case isFalse seeded =>
    split
    case isTrue mayOpen =>
      refine ensures_saveAndShow held formed ?_ ?_ ?_
      · intro _
        exact Option.some_ne_none digest
      · refine .opened ?_ rfl rfl rfl
        by_cases isOpen : state.openedJobBlock = none
        · exact .inl isOpen
        · rw [ageAt_of_counted (counted isOpen)]
          simpa [aNewWindowMayOpen, isOpen] using mayOpen
      · exact window_shows fun _ => rfl
    case isFalse =>
      refine ensures_saveAndShow held formed ?_ ?_ ?_
      · intro _
        exact Option.some_ne_none digest
      · exact .of_same rfl rfl rfl
      · exact window_shows counted

variable (tracker) in
theorem ensures_countThisCycle (held : stored.getD {} = state) (formed : state.WellFormed) :
    Ensures (countThisCycle state jobBlock) stored fun ending left =>
      (left.getD {}).WellFormed ∧ Aged tracker jobBlock state (left.getD {}) ∧
        ∀ counted, ending = .returned counted →
          left.getD {} = counted ∧ counted.CountedAt jobBlock := by
  rw [countThisCycle]
  split
  case isTrue skipped =>
    rw [ensures_pure, held]
    refine ⟨formed, .refl state, ?_⟩
    intro counted equal
    cases equal
    exact ⟨rfl, fun isOpen => skipped.resolve_left isOpen⟩
  case isFalse fresh =>
    rw [not_or] at fresh
    have aged : Aged tracker jobBlock state
        { state with lastJobBlock := some jobBlock, cyclesSeen := state.cyclesSeen + 1 } := by
      refine .kept rfl (fun _ => ?_) fun _ _ => rfl
      rw [ageAt_of_counted rfl, ageAt, if_neg fresh.2]
    exact ensures_saveThen (fun counted left => left = counted ∧ counted.CountedAt jobBlock) held
      formed aged formed ⟨rfl, fun _ => rfl⟩

theorem ensures_load :
    Ensures load stored fun ending left =>
      left = stored ∧ ∀ state, ending = .returned state → state = stored.getD {} := by
  rw [load, ensures_await]
  refine ⟨⟨rfl, ?_⟩, ⟨⟨rfl, fun _ => nofun⟩, rfl, fun _ => nofun⟩, ⟨rfl, fun _ => nofun⟩, rfl,
    fun _ => nofun⟩
  intro state equal
  cases equal
  rfl

theorem Observation.after {ending : Ending RolloutWindow}
    (aged : Aged tracker jobBlock first second)
    (observed : Observation tracker jobBlock second ending third) :
    Observation tracker jobBlock first ending third :=
  ⟨observed.wellFormed, aged.trans observed.aged, observed.shows⟩

variable (runtime : PyRuntime)

theorem ensures_observe (digest : Option String) (now : Int)
    (formed : (stored.getD {}).WellFormed) :
    Ensures (tracker.observe runtime digest jobBlock now) stored fun ending left =>
      Observation tracker jobBlock (stored.getD {}) ending (left.getD {}) := by
  rw [observe]
  refine ensures_load.bind ?_ ?_ ?_
  · intro state left loaded
    rw [loaded.1, loaded.2 state rfl]
    refine (ensures_countThisCycle tracker rfl formed).bind ?_ ?_ ?_
    · rintro counted left ⟨countedFormed, aged, returned⟩
      rcases returned counted rfl with ⟨held, isCounted⟩
      rw [held] at countedFormed aged
      have closes := ensures_closeTheWindow tracker held countedFormed isCounted
      have reacts := ensures_reactToTheChangedDigest tracker held countedFormed isCounted
      split
      · exact closes.mono fun _ _ observed => observed.after aged
      · split
        · exact closes.mono fun _ _ observed => observed.after aged
        · exact (reacts _ now).mono fun _ _ observed => observed.after aged
    all_goals
      rintro left ⟨leftFormed, aged, -⟩
      exact ⟨leftFormed, aged, fun _ => nofun⟩
  all_goals
    intro left loaded
    rw [loaded.1]
    exact ⟨formed, .refl _, fun _ => nofun⟩

theorem ensures_observeExecutorRollout (digest : Option String) (now : Int)
    (fallback : Option RolloutWindow) (formed : (stored.getD {}).WellFormed) :
    Ensures (tracker.observeExecutorRollout runtime digest jobBlock now fallback) stored
      fun ending left => (left.getD {}).WellFormed ∧
        Aged tracker jobBlock (stored.getD {}) (left.getD {}) ∧
        ∀ window, ending = .returned window →
          Shows tracker jobBlock window (left.getD {}) ∨
            window = fallback.getD (unknownWindow digest) := by
  rw [observeExecutorRollout, ensures_tryExcept]
  refine (ensures_observe runtime digest now formed).mono ?_
  intro ending left observed
  cases ending with
  | returned _ => exact ⟨observed.wellFormed, observed.aged, fun _ is => .inl (observed.shows _ is)⟩
  | raised =>
    refine (ensures_pure _).mpr ⟨observed.wellFormed, observed.aged, ?_⟩
    rintro _ ⟨⟩
    exact .inr rfl
  | cancelled => exact ⟨observed.wellFormed, observed.aged, by rintro _ ⟨⟩⟩

end Observe

/-! ## One cycle -/

section Cycle

theorem covers_iff :
    window.covers jobBlock = true ↔ ∃ opened, window.openedJobBlock = some opened ∧
      0 < window.graceCycles ∧ opened ≤ jobBlock ∧ 0 < window.cyclesSeen ∧
        (window.cyclesSeen : Int) ≤ window.graceCycles := by
  rw [RolloutWindow.covers]
  cases window.openedJobBlock with
  | none => simp
  | some opened => simp [and_assoc]

theorem Shows.of_covers (shown : Shows tracker jobBlock window state)
    (covers : window.covers jobBlock = true) :
    state.openedJobBlock ≠ none ∧ state.lastJobBlock = some jobBlock ∧ 0 < state.cyclesSeen ∧
      (state.cyclesSeen : Int) ≤ tracker.graceCycles := by
  rcases covers_iff.mp covers with ⟨opened, isOpen, -, -, positive, within⟩
  rw [shown.openedJobBlock] at isOpen
  rw [shown.cyclesSeen] at positive within
  rw [shown.graceCycles] at within
  have notNone : state.openedJobBlock ≠ none := by
    rw [isOpen]
    exact Option.some_ne_none opened
  exact ⟨notNone, shown.counted notNone, positive, within⟩

theorem Shows.persists {after : RolloutState} (shown : Shows tracker jobBlock window before)
    (covers : window.covers jobBlock = true) (aged : Aged tracker jobBlock before after) :
    Shows tracker jobBlock window after := by
  rcases shown.of_covers covers with ⟨isOpen, counted, -, within⟩
  cases aged with
  | opened allowed _ _ _ =>
    have young := allowed.resolve_left isOpen
    rw [ageAt_of_counted counted] at young
    omega
  | kept kept age keepsCount =>
    have stillOpen : after.openedJobBlock ≠ none := by
      rw [kept]
      exact isOpen
    have stillCounted := keepsCount (fun _ => counted)
    have same := age stillOpen
    rw [ageAt_of_counted counted, ageAt_of_counted (stillCounted stillOpen)] at same
    exact ⟨shown.openedJobBlock.trans kept.symm, shown.cyclesSeen.trans same.symm,
      shown.graceCycles, stillCounted⟩

variable (tracker) in
theorem ensures_recordWithheldVerdicts {stored : Stored} (window : RolloutWindow)
    (withheldCount : ℕ) (formed : (stored.getD {}).WellFormed) :
    Ensures (recordWithheldVerdicts window withheldCount jobBlock) stored fun _ left =>
      (left.getD {}).WellFormed ∧ Aged tracker jobBlock (stored.getD {}) (left.getD {}) := by
  have unchanged : (stored.getD {}).WellFormed ∧
      Aged tracker jobBlock (stored.getD {}) (stored.getD {}) := ⟨formed, .refl _⟩
  have recorded : Ensures (recordWithheld withheldCount) stored fun _ left =>
      (left.getD {}).WellFormed ∧ Aged tracker jobBlock (stored.getD {}) (left.getD {}) := by
    rw [recordWithheld]
    split
    · exact (ensures_pure _).mpr unchanged
    · refine ensures_load.bind ?_ ?_ ?_
      · intro state left loaded
        rw [loaded.1, loaded.2 state rfl]
        refine (ensures_save _).mono ?_
        intro ending left saved
        rcases saved with written | ⟨-, unwritten⟩
        · rw [written]
          exact ⟨fun isOpen => formed isOpen, .of_same rfl rfl rfl⟩
        · rw [unwritten]
          exact unchanged
      all_goals
        intro left loaded
        rw [loaded.1]
        exact unchanged
  rw [recordWithheldVerdicts]
  split
  · exact recorded.caught
  · exact (ensures_pure _).mpr unchanged

/-- What one finished cycle does: it ages the window, and a window that covers it is the one
that Redis then holds. -/
structure CycleStep (tracker : ExecutorRolloutTracker) (record : CycleRecord) : Prop where
  wellFormed : record.after.WellFormed
  aged : Aged tracker record.jobBlock record.before record.after
  startShows : record.startCovered = true →
    Shows tracker record.jobBlock record.startWindow record.after
  endShows : record.endCovered = true →
    Shows tracker record.jobBlock record.endWindow record.after

/-- A covered cycle leaves its window open, counted and within its grace. -/
theorem CycleStep.of_covered {record : CycleRecord} (step : CycleStep tracker record)
    (covered : record.covered = true) :
    record.after.openedJobBlock ≠ none ∧ record.after.lastJobBlock = some record.jobBlock ∧
      0 < record.after.cyclesSeen ∧ (record.after.cyclesSeen : Int) ≤ tracker.graceCycles := by
  rcases (Bool.or_eq_true _ _).mp covered with atStart | atEnd
  · exact (step.startShows atStart).of_covers atStart
  · exact (step.endShows atEnd).of_covers atEnd

theorem observeCycle_step {runtime : PyRuntime} {input : CycleInput} {stored left : Stored}
    {startWindow endWindow : RolloutWindow} (formed : (stored.getD {}).WellFormed)
    (ended : (.returned (startWindow, endWindow), left) ∈
      observeCycle tracker runtime input stored) :
    CycleStep tracker
      ⟨input.jobBlock, startWindow, endWindow, stored.getD {}, left.getD {}⟩ := by
  have ensured : Ensures (observeCycle tracker runtime input) stored fun ending left =>
      ∀ startWindow endWindow, ending = .returned (startWindow, endWindow) →
        CycleStep tracker
          ⟨input.jobBlock, startWindow, endWindow, stored.getD {}, left.getD {}⟩ := by
    rw [observeCycle]
    refine (ensures_observeExecutorRollout runtime input.startDigest input.startNow none
      formed).bind ?_ (fun _ _ _ _ => nofun) (fun _ _ _ _ => nofun)
    rintro startWindow middle ⟨middleFormed, startAged, startSeen⟩
    have startShown : startWindow.covers input.jobBlock = true →
        Shows tracker input.jobBlock startWindow (middle.getD {}) := by
      intro covers
      rcases startSeen startWindow rfl with shown | unknown
      · exact shown
      · rw [unknown] at covers
        exact absurd covers Bool.false_ne_true
    refine (ensures_observeExecutorRollout runtime input.endDigest input.endNow
      (some startWindow) middleFormed).bind ?_ (fun _ _ _ _ => nofun) (fun _ _ _ _ => nofun)
    rintro endWindow observed ⟨observedFormed, endAged, endSeen⟩
    have endShown : endWindow.covers input.jobBlock = true →
        Shows tracker input.jobBlock endWindow (observed.getD {}) := by
      intro covers
      rcases endSeen endWindow rfl with shown | same
      · exact shown
      · rw [Option.getD_some] at same
        rw [same] at covers ⊢
        exact (startShown covers).persists covers endAged
    refine (ensures_recordWithheldVerdicts tracker endWindow input.withheldCount
      observedFormed).bind ?_ (fun _ _ _ _ => nofun) (fun _ _ _ _ => nofun)
    rintro _ left ⟨leftFormed, recordAged⟩
    rw [ensures_pure]
    intro _ _ equal
    cases equal
    exact ⟨leftFormed, (startAged.trans endAged).trans recordAged,
      fun covers => (startShown covers).persists covers (endAged.trans recordAged),
      fun covers => (endShown covers).persists covers recordAged⟩
  exact ensured _ _ ended startWindow endWindow rfl

end Cycle

/-! ## Whole runs -/

section Runs

variable {runtime : PyRuntime} {stored : Stored} {records : List CycleRecord}

theorem Run.steps (run : Run tracker runtime stored records)
    (formed : (stored.getD {}).WellFormed) : ∀ record ∈ records, CycleStep tracker record := by
  induction run with
  | nil => exact fun _ member => absurd member List.not_mem_nil
  | cons input ended rest induction =>
    have step := observeCycle_step formed ended
    exact List.forall_mem_cons.mpr ⟨step, induction step.wellFormed⟩

theorem Run.linked (run : Run tracker runtime stored records) :
    records.IsChain fun previous next => next.before = previous.after := by
  induction run with
  | nil => exact .nil
  | cons input ended rest induction =>
    cases rest with
    | nil => exact .singleton _
    | cons => exact .cons_cons rfl induction

/-- Cycles in a row, each a step from what the one before it left. -/
structure InARow (tracker : ExecutorRolloutTracker) (records : List CycleRecord) : Prop where
  linked : records.IsChain fun previous next => next.before = previous.after
  steps : ∀ record ∈ records, CycleStep tracker record
  increasing : (records.map CycleRecord.jobBlock).Pairwise (· < ·)

theorem InARow.part {segment : List CycleRecord} (inARow : InARow tracker records)
    (part : segment <:+: records) : InARow tracker segment where
  linked := inARow.linked.infix part
  steps := fun record member => inARow.steps record (part.subset member)
  increasing := inARow.increasing.sublist (part.sublist.map _)

theorem InARow.after_covered {previous next : CycleRecord}
    (inARow : InARow tracker (previous :: next :: records)) (covered : previous.covered = true) :
    next.after.openedJobBlock = next.before.openedJobBlock ∧
      next.after.ageAt next.jobBlock = previous.after.cyclesSeen + 1 := by
  rcases inARow with ⟨linked, steps, increasing⟩
  rw [List.isChain_cons_cons] at linked
  rw [List.map_cons, List.pairwise_cons] at increasing
  rcases (steps previous List.mem_cons_self).of_covered covered with ⟨isOpen, counted, -, within⟩
  have later := (increasing.1 next.jobBlock (List.mem_map_of_mem List.mem_cons_self)).ne
  have age := ageAt_of_other counted later
  rw [← linked.1] at isOpen age within ⊢
  cases (steps next (by simp)).aged with
  | kept window same _ => exact ⟨window, (same (window ▸ isOpen)).trans age⟩
  | opened allowed _ _ _ =>
    have old := allowed.resolve_left isOpen
    omega

theorem covered_run_ages {previous : CycleRecord} (inARow : InARow tracker (previous :: records))
    (covered : ∀ record ∈ previous :: records, record.covered = true) :
    (previous.after.cyclesSeen + records.length : Int) ≤ tracker.graceCycles := by
  induction records generalizing previous with
  | nil =>
    rcases (inARow.steps _ List.mem_cons_self).of_covered (covered _ List.mem_cons_self) with
      ⟨-, -, -, within⟩
    simpa using within
  | cons next rest induction =>
    rw [List.forall_mem_cons] at covered
    have later := inARow.part (List.suffix_cons previous _).isInfix
    rcases (later.steps _ List.mem_cons_self).of_covered (covered.2 _ List.mem_cons_self) with
      ⟨-, counted, -, -⟩
    have aged := (inARow.after_covered covered.1).2
    rw [ageAt_of_counted counted] at aged
    have bound := induction later covered.2
    rw [List.length_cons]
    omega

theorem exists_uncoveredEnd (inARow : InARow tracker records)
    (length : (records.length : Int) = max tracker.graceCycles 0 + 1) :
    ∃ record ∈ records, record.endCovered = false := by
  by_contra allCovered
  have covered : ∀ record ∈ records, record.covered = true := by
    intro record member
    rw [CycleRecord.covered, Bool.or_eq_true]
    by_contra uncovered
    exact allCovered ⟨record, member, Bool.eq_false_iff.mpr (not_or.mp uncovered).2⟩
  cases records with
  | nil =>
    rw [List.length_nil] at length
    omega
  | cons first rest =>
    have ages := covered_run_ages inARow covered
    rcases (inARow.steps _ List.mem_cons_self).of_covered (covered _ List.mem_cons_self) with
      ⟨-, -, positive, within⟩
    rw [List.length_cons] at length
    omega

theorem uncovered_before_opening {previous opening : CycleRecord}
    (inARow : InARow tracker (previous :: opening :: records)) (opens : opening.opens) :
    previous.covered = false := by
  rw [← Bool.not_eq_true]
  intro covered
  exact opens.2 (inARow.after_covered covered).1

end Runs

theorem opening_covered_by_own_window {record : CycleRecord} (step : CycleStep tracker record)
    (opens : record.opens) :
    (record.startCovered = true → record.startWindow.openedJobBlock = some record.jobBlock) ∧
      (record.endCovered = true → record.endWindow.openedJobBlock = some record.jobBlock) := by
  have opened : record.after.openedJobBlock = some record.jobBlock := by
    cases step.aged with
    | kept window _ _ => exact absurd window opens.2
    | opened _ window _ _ => exact window
  exact ⟨fun covered => (step.startShows covered).openedJobBlock.trans opened,
    fun covered => (step.endShows covered).openedJobBlock.trans opened⟩

/-- What keeps the graced cycles of a run apart. -/
structure GraceBounded (tracker : ExecutorRolloutTracker) (records : List CycleRecord) :
    Prop where
  inert : tracker.graceCycles ≤ 0 → ∀ record ∈ records, record.covered = false
  /-- Among any `grace_cycles + 1` cycles in a row one is not covered at its end. -/
  uncoveredEnd : ∀ before segment after, records = before ++ segment ++ after →
    (segment.length : Int) = max tracker.graceCycles 0 + 1 →
      ∃ record ∈ segment, record.endCovered = false
  /-- Between a covered cycle and a later opening lies a cycle that is not covered at all. -/
  uncoveredBetween : ∀ before covered between opening after,
    records = before ++ covered :: (between ++ opening :: after) →
    covered.covered = true → opening.opens →
      ∃ record ∈ between, record.startCovered = false ∧ record.endCovered = false
  /-- A window that covers the cycle of an opening is the one that opened. -/
  ownWindow : ∀ record ∈ records, record.opens →
    (record.startCovered = true → record.startWindow.openedJobBlock = some record.jobBlock) ∧
      (record.endCovered = true → record.endWindow.openedJobBlock = some record.jobBlock)

/-! A window that is two cycles long, seen in its second cycle and in the one after it. -/

def sampleRuntime : PyRuntime where
  floatOfText := fun _ => none
  intOfHexText := fun _ => none
  intOfText := Text.numeral
  intOfText_toString := Text.numeral_toString
  textOf := fun _ => ""
  split := fun _ text => [text]
  strip := id
  lower := id

def sampleState (last cyclesSeen : ℕ) (closed : Bool) : RolloutState :=
  { digest := some "new"
    previousDigest := some "old"
    startedAt := some 0
    openedJobBlock := some 10
    lastJobBlock := some last
    cyclesSeen := cyclesSeen
    closed := closed }

def sampleTracker : ExecutorRolloutTracker := .ofConfigured 5

def sampleRecords : List CycleRecord :=
  [⟨20, sampleTracker.window (sampleState 20 2 false), sampleTracker.window (sampleState 20 2 false),
      sampleState 10 1 false, sampleState 20 2 false⟩,
    ⟨30, sampleTracker.window (sampleState 30 3 false), sampleTracker.window (sampleState 30 3 true),
      sampleState 20 2 false, sampleState 30 3 true⟩]

theorem sampleRun :
    Run sampleTracker sampleRuntime (some (sampleState 10 1 false)) sampleRecords := by
  have second : (.returned (sampleTracker.window (sampleState 20 2 false),
      sampleTracker.window (sampleState 20 2 false)), some (sampleState 20 2 false)) ∈
      observeCycle sampleTracker sampleRuntime ⟨20, none, 0, none, 0, 0⟩
        (some (sampleState 10 1 false)) := by decide +kernel
  have third : (.returned (sampleTracker.window (sampleState 30 3 false),
      sampleTracker.window (sampleState 30 3 true)), some (sampleState 30 3 true)) ∈
      observeCycle sampleTracker sampleRuntime ⟨30, none, 0, none, 0, 0⟩
        (some (sampleState 20 2 false)) := by decide +kernel
  exact .cons _ second (.cons _ third (.nil _))

/-- Rollout grace never chains, whatever the registry says and whichever Redis operations
fail. -/
theorem rollout_grace_bounded (tracker : ExecutorRolloutTracker) (runtime : PyRuntime)
    (stored : Stored) (formed : (stored.getD {}).WellFormed) (records : List CycleRecord)
    (run : Run tracker runtime stored records)
    (increasing : (records.map CycleRecord.jobBlock).Pairwise (· < ·)) :
    GraceBounded tracker records := by
  have steps := run.steps formed
  have inARow : InARow tracker records := ⟨run.linked, steps, increasing⟩
  constructor
  case ownWindow =>
    exact fun record member opens => opening_covered_by_own_window (steps record member) opens
  case inert =>
    intro noGrace record member
    rw [← Bool.not_eq_true]
    intro covered
    rcases (steps record member).of_covered covered with ⟨-, -, positive, within⟩
    omega
  case uncoveredEnd =>
    intro before segment after split length
    exact exists_uncoveredEnd (inARow.part ⟨before, after, split.symm⟩) length
  case uncoveredBetween =>
    intro before covered between opening after split isCovered opens
    -- the cycle right before the opening cannot be covered, so it is not `covered` itself
    induction between using List.reverseRecOn with
    | nil =>
      have adjacent : covered :: opening :: after <:+: records := ⟨before, [], by simp [split]⟩
      have uncovered := uncovered_before_opening (inARow.part adjacent) opens
      rw [isCovered] at uncovered
      cases uncovered
    | append_singleton others previous =>
      have adjacent : previous :: opening :: after <:+: records :=
        ⟨before ++ covered :: others, [], by simp [split]⟩
      have uncovered := uncovered_before_opening (inARow.part adjacent) opens
      rw [CycleRecord.covered, Bool.or_eq_false_iff] at uncovered
      exact ⟨previous, by simp, uncovered⟩

theorem sample_grace_bounded :
    GraceBounded sampleTracker sampleRecords ∧
      sampleRecords.map CycleRecord.endCovered = [true, false] :=
  ⟨rollout_grace_bounded sampleTracker sampleRuntime (some (sampleState 10 1 false))
      (fun _ => Option.some_ne_none _) sampleRecords sampleRun (by decide), by decide⟩

end Lium.Rollout
