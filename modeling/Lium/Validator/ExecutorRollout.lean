import Lium.Foundation.Coroutine
import Lium.Foundation.PyValue

/-! # Executor-image rollouts

The tracker remembers in Redis which executor image is current and in which cycle that last
changed. While a window is open the cycle withholds the verdicts that a rollout explains; here only
their number counts. Every Redis operation may raise, before or after it took effect.
-/

namespace Lium.Rollout

/-! ## Image digests -/

def isLowerHexDigit (char : Char) : Bool :=
  ('0' ≤ char && char ≤ '9') || ('a' ≤ char && char ≤ 'f')

/-- `^sha256:[0-9a-f]{64}$`, matched in full. -/
def isSha256Digest (text : String) : Bool :=
  text.toList.take 7 = "sha256:".toList && (text.toList.drop 7).length = 64 &&
    (text.toList.drop 7).all isLowerHexDigit

def normalizeSha256Digest (runtime : PyRuntime) (value : PyValue) : Option String :=
  match value with
  | .str text =>
    let digest := runtime.lower (runtime.strip text)
    if isSha256Digest digest then some digest else none
  | _ => none

/-! ## The tracker -/

def maxRolloutGraceCycles : Int := 2

structure RolloutState where
  digest : Option String := none
  previousDigest : Option String := none
  startedAt : Option Int := none
  openedJobBlock : Option ℕ := none
  lastJobBlock : Option ℕ := none
  cyclesSeen : ℕ := 0
  withheld : ℕ := 0
  closed : Bool := false
  deriving DecidableEq

structure RolloutWindow where
  digest : Option String
  previousDigest : Option String
  startedAt : Option Int
  openedJobBlock : Option ℕ
  cyclesSeen : ℕ
  graceCycles : Int
  deriving DecidableEq

def RolloutWindow.covers (window : RolloutWindow) (jobBlock : ℕ) : Bool :=
  match window.openedJobBlock with
  | none => false
  | some openedJobBlock =>
    0 < window.graceCycles && openedJobBlock ≤ jobBlock && 0 < window.cyclesSeen &&
      (window.cyclesSeen : Int) ≤ window.graceCycles

structure ExecutorRolloutTracker where
  graceCycles : Int
  capped : graceCycles ≤ maxRolloutGraceCycles

def ExecutorRolloutTracker.ofConfigured (configuredGraceCycles : Int) :
    ExecutorRolloutTracker where
  graceCycles := min configuredGraceCycles maxRolloutGraceCycles
  capped := min_le_right _ _

namespace ExecutorRolloutTracker

open Coroutine

/-- The value under `ROLLOUT_STATE_KEY`. It is only ever what `_save` wrote. -/
abbrev Stored := Option RolloutState

def load : Coroutine Stored RolloutState := await id fun stored => stored.getD {}

def save (state : RolloutState) : Coroutine Stored Unit := await (fun _ => some state) fun _ => ()

variable (tracker : ExecutorRolloutTracker)

def window (state : RolloutState) : RolloutWindow where
  digest := state.digest
  previousDigest := state.previousDigest
  startedAt := state.startedAt
  openedJobBlock := state.openedJobBlock
  cyclesSeen := state.cyclesSeen
  graceCycles := tracker.graceCycles

def countThisCycle (state : RolloutState) (jobBlock : ℕ) : Coroutine Stored RolloutState :=
  if state.openedJobBlock = none ∨ state.lastJobBlock = some jobBlock then pure state
  else do
    let counted :=
      { state with lastJobBlock := some jobBlock, cyclesSeen := state.cyclesSeen + 1 }
    save counted
    pure counted

def aNewWindowMayOpen (state : RolloutState) : Bool :=
  state.openedJobBlock = none || tracker.graceCycles + 2 ≤ (state.cyclesSeen : Int)

def reactToTheChangedDigest (state : RolloutState) (digest : String) (jobBlock : ℕ) (now : Int) :
    Coroutine Stored RolloutWindow :=
  if state.digest = none then do
    let seeded : RolloutState := { digest := some digest }
    save seeded
    pure (tracker.window seeded)
  else if tracker.aNewWindowMayOpen state then do
    let opened : RolloutState :=
      { digest := some digest
        previousDigest := state.digest
        startedAt := some now
        openedJobBlock := some jobBlock
        lastJobBlock := some jobBlock
        cyclesSeen := 1 }
    save opened
    pure (tracker.window opened)
  else do
    let chained := { state with digest := some digest, previousDigest := state.digest }
    save chained
    pure (tracker.window chained)

def closeTheWindowWhenItIsOver (state : RolloutState) (jobBlock : ℕ) :
    Coroutine Stored RolloutWindow :=
  let window := tracker.window state
  if tracker.graceCycles ≤ 0 ∨ state.openedJobBlock = none ∨ state.closed ∨
      window.covers jobBlock then pure window
  else do
    save { state with closed := true }
    pure window

def observe (runtime : PyRuntime) (digest : Option String) (jobBlock : ℕ) (now : Int) :
    Coroutine Stored RolloutWindow := do
  let digest := digest.bind fun text => normalizeSha256Digest runtime (.str text)
  let state ← load
  let state ← countThisCycle state jobBlock
  match digest with
  | none => tracker.closeTheWindowWhenItIsOver state jobBlock
  | some digest =>
    if state.digest = some digest then tracker.closeTheWindowWhenItIsOver state jobBlock
    else tracker.reactToTheChangedDigest state digest jobBlock now

def recordWithheld (count : ℕ) : Coroutine Stored Unit :=
  if count = 0 then pure ()
  else do
    let state ← load
    save { state with withheld := state.withheld + count }

/-! ## The two observations of a cycle -/

/-- The window of a cycle that knows nothing: every verdict stands. -/
def unknownWindow (digest : Option String) : RolloutWindow where
  digest := digest
  previousDigest := none
  startedAt := none
  openedJobBlock := none
  cyclesSeen := 0
  graceCycles := 0

def observeExecutorRollout (runtime : PyRuntime) (executorDigest : Option String) (jobBlock : ℕ)
    (now : Int) (fallback : Option RolloutWindow) : Coroutine Stored RolloutWindow :=
  tryExcept (tracker.observe runtime executorDigest jobBlock now)
    (pure (fallback.getD (unknownWindow executorDigest)))

def recordWithheldVerdicts (window : RolloutWindow) (withheldCount jobBlock : ℕ) :
    Coroutine Stored Unit :=
  if window.covers jobBlock then tryExcept (recordWithheld withheldCount) (pure ())
  else pure ()

end ExecutorRolloutTracker

end Lium.Rollout
