import Lium.Validator.Settlement

/-! # Cycle reports

A cycle's report is kept in a Redis list before it is sent; a pass at the end of every cycle replays
the list, oldest first, and caps it. What a report says is a parameter.
-/

namespace Lium.CycleReports

open Coroutine

variable {ρ : Type} [DecidableEq ρ]

/-- A report in the list, with the number of the call that kept it. -/
abbrev Kept (ρ : Type) := ℕ × ρ

/-- One pass of the replay: the list it read, newest first, the reports it sent and those the
backend took, in order. -/
structure Pass (ρ : Type) where
  listed : List (Kept ρ)
  attempted : List (Kept ρ)
  delivered : List (Kept ρ)

/-- The settlement's own state, the list under `UNACKED_CYCLE_REPORTS_KEY`, and the history
that the statements are about: calls are numbered, and a report is known by its call. -/
structure State (ρ : Type) where
  settlement : Settlement.State
  kept : List (Kept ρ)
  calls : ℕ
  /-- the reports that got into the list -/
  pushed : List ℕ
  /-- the reports whose `lpush` raised, before or after it took effect -/
  unkept : List ℕ
  /-- the reports sent, once per attempt -/
  sends : List ℕ
  /-- the kept reports whose text the backend took, with a receipt or with a 4xx -/
  delivered : List ℕ
  /-- the reports cut off the list, with the number of newer ones in it -/
  dropped : List (ℕ × ℕ)
  /-- newest first -/
  passes : List (Pass ρ)
  /-- the calls that came to their end -/
  finished : List ℕ

def unackedCycleReportsMax : ℕ := 200

namespace State

def start (settlement : Settlement.State) : State ρ where
  settlement := settlement
  kept := []
  calls := 0
  pushed := []
  unkept := []
  sends := []
  delivered := []
  dropped := []
  passes := []
  finished := []

def opened (state : State ρ) : State ρ := { state with calls := state.calls + 1 }

def lpush (report : Kept ρ) (state : State ρ) : State ρ :=
  { state with kept := report :: state.kept, pushed := report.1 :: state.pushed }

def lpushRaised (number : ℕ) (state : State ρ) : State ρ :=
  { state with unkept := number :: state.unkept }

def sent (number : ℕ) (state : State ρ) : State ρ :=
  { state with sends := number :: state.sends }

/-- The backend took a text: every kept report that reads so is delivered. -/
def taken (payload : ρ) (state : State ρ) : State ρ :=
  { state with
    delivered := (state.kept.filter fun report => report.2 = payload).map Prod.fst ++
      state.delivered }

/-- `lrem` with count 0. -/
def lrem (payload : ρ) (state : State ρ) : State ρ :=
  { state with kept := state.kept.filter fun report => report.2 ≠ payload }

def newerThan (number : ℕ) (state : State ρ) : ℕ :=
  (state.kept.filter fun report => number < report.1).length

def ltrim (state : State ρ) : State ρ :=
  { state with
    kept := state.kept.take unackedCycleReportsMax
    dropped := (state.kept.drop unackedCycleReportsMax).map (fun report =>
      (report.1, state.newerThan report.1)) ++ state.dropped }

def passOpened (listed : List (Kept ρ)) (state : State ρ) : State ρ :=
  { state with passes := ⟨listed, [], []⟩ :: state.passes }

def inPass (change : Pass ρ → Pass ρ) (state : State ρ) : State ρ :=
  match state.passes with
  | [] => state
  | pass :: older => { state with passes := change pass :: older }

def closed (number : ℕ) (state : State ρ) : State ρ :=
  { state with finished := number :: state.finished }

end State

def Pass.attempt (report : Kept ρ) (pass : Pass ρ) : Pass ρ :=
  { pass with attempted := pass.attempted ++ [report] }

def Pass.deliver (report : Kept ρ) (pass : Pass ρ) : Pass ρ :=
  { pass with delivered := pass.delivered ++ [report] }

/-! ## The calls -/

/-- `_deliver_cycle_report`: a receipt counts, and so does a 4xx, which would only block the
reports behind it. -/
def deliverCycleReport (report : Kept ρ) : Coroutine (State ρ) Bool := do
  modify (State.sent report.1)
  tryExcept
    (do
      await id fun _ => ()
      choose
        [do
            modify (State.taken report.2)
            pure true,
          pure false])
    (pure false)

def keepCycleReport (report : Kept ρ) : Coroutine (State ρ) Bool :=
  tryExcept
    (do
      await (State.lpush report) fun _ => ()
      pure true)
    (do
      modify (State.lpushRaised report.1)
      pure false)

def capKeptCycleReports : Coroutine (State ρ) Unit :=
  tryExcept
    (do
      let keptCount ← await id fun state => state.kept.length
      if keptCount ≤ unackedCycleReportsMax then pure () else await State.ltrim fun _ => ())
    (pure ())

def replayEach : List (Kept ρ) → Coroutine (State ρ) Unit
  | [] => pure ()
  | report :: rest => do
      modify (State.inPass (Pass.attempt report))
      let delivered ← deliverCycleReport report
      if delivered then do
        modify (State.inPass (Pass.deliver report))
        tryExcept (await (State.lrem report.2) fun _ => ()) (pure ())
        replayEach rest
      else pure ()

def replayUnackedCycleReports : Coroutine (State ρ) Unit := do
  let kept ← tryExcept
    (do
      let kept ← await id State.kept
      pure (some kept))
    (pure none)
  match kept with
  | none => pure ()
  | some kept => do
      modify (State.passOpened kept)
      replayEach kept.reverse

def deliverKeptSettlementReports : Coroutine (State ρ) Unit := do
  let _ ← onPart State.settlement (fun state settlement => { state with settlement })
    Settlement.retryPendingInclusion
  replayUnackedCycleReports

/-- `report_cycle_scores`; a cycle without a verified burner is not reported. -/
def reportCycleScores (burnerHotkey : Option String) (payload : ρ) :
    Coroutine (State ρ) Unit :=
  match burnerHotkey with
  | none => pure ()
  | some _ => do
      let number ← read State.calls
      modify State.opened
      let kept ← keepCycleReport (number, payload)
      if !kept then do
        -- this send is its only chance
        let _ ← withinTimeout (deliverCycleReport (number, payload))
      let _ ← withinBudget deliverKeptSettlementReports
      capKeptCycleReports
      modify (State.closed number)

/-- What the calls can reach, whichever operations fail and wherever a call is cut off. In
between the settlement's own state may change in any way. -/
inductive Reaches : State ρ → Prop
  | start (settlement) : Reaches (State.start settlement)
  | call {state ending left} (settlement : Settlement.State) (burnerHotkey : Option String)
      (payload : ρ) :
      Reaches state →
      (ending, left) ∈ reportCycleScores burnerHotkey payload { state with settlement } →
      Reaches left

end Lium.CycleReports
