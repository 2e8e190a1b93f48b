import Mathlib.Data.List.Sort
import Mathlib.Data.String.Basic
import Lium.Foundation.Coroutine
import Lium.Foundation.Transfer

/-! # Settled windows

The validator submits the backend's settled vector once per tempo and reports the block at which
the chain took it. An unanswered report is kept in the process and in Redis. Windows are keyed by
their tempo index, whose text is the key in the source.
-/

namespace Lium.Settlement

open Coroutine

deriving instance DecidableEq for PyDict

/-- `{**kept, **own}`. -/
def merge (kept own : PyDict ℕ ℕ) : PyDict ℕ ℕ := own.setEach (fun _ block => some block) kept

def putEntry (index : ℕ) (block : Option ℕ) (entries : PyDict ℕ ℕ) : PyDict ℕ ℕ :=
  match block with
  | none => entries.filter fun key _ => key ≠ index
  | some block => entries.set index block

/-- A vector handed to the chain, with what had been accepted, acknowledged and kept in Redis
by then. -/
structure Submission where
  index : ℕ
  accepted : List (ℕ × ℕ)
  acknowledged : List (ℕ × ℕ)
  pending : PyDict ℕ ℕ
  deriving DecidableEq

/-- The process and Redis; the last four fields are the history that the statements are
about. -/
structure State where
  unacknowledgedInclusions : PyDict ℕ ℕ
  settledTempoDone : Option ℕ
  /-- the map under `PENDING_INCLUSION_KEY` -/
  pending : PyDict ℕ ℕ
  submissions : List Submission
  accepted : List (ℕ × ℕ)
  reported : List (ℕ × ℕ)
  acknowledged : List (ℕ × ℕ)
  deriving DecidableEq

def State.start (kept : PyDict ℕ ℕ) : State where
  unacknowledgedInclusions := .empty
  settledTempoDone := none
  pending := kept
  submissions := []
  accepted := []
  reported := []
  acknowledged := []

namespace State

def withOwn (index : ℕ) (block : Option ℕ) (state : State) : State :=
  { state with unacknowledgedInclusions := putEntry index block state.unacknowledgedInclusions }

def submitted (index : ℕ) (state : State) : State :=
  { state with
    submissions := state.submissions ++
      [⟨index, state.accepted, state.acknowledged, state.pending⟩] }

def taken (index block : ℕ) (state : State) : State :=
  { state with
    settledTempoDone := some index
    accepted := state.accepted ++ [(index, block)] }

def sent (index block : ℕ) (state : State) : State :=
  { state with reported := state.reported ++ [(index, block)] }

def answered (index block : ℕ) (state : State) : State :=
  { state with acknowledged := state.acknowledged ++ [(index, block)] }

end State

def tempoIndex (block tempo : ℕ) : ℕ := block / tempo

/-! ## Pending inclusions -/

/-- `_pending_inclusions`; `none` when Redis cannot be read. -/
def pendingInclusions : Coroutine State (Option (PyDict ℕ ℕ)) :=
  tryExcept
    (do
      let kept ← await id State.pending
      let own ← read State.unacknowledgedInclusions
      pure (some (merge kept own)))
    (pure none)

/-- `_keep_pending_inclusion`; without a block the entry is dropped. -/
def keepPendingInclusion (index : ℕ) (block : Option ℕ) : Coroutine State Unit := do
  modify (State.withOwn index block)
  let pending ← pendingInclusions
  match pending with
  | none => pure ()
  | some pending =>
    tryExcept
      (await (fun state => { state with pending := putEntry index block pending }) fun _ => ())
      (pure ())

/-- `backend_client.report_settled_weights_result`: whether the backend answered. -/
def reportSettledWeightsResult (index block : ℕ) : Coroutine State Bool := do
  modify (State.sent index block)
  await id fun _ => ()
  choose
    [do
        modify (State.answered index block)
        pure true,
      pure false]

def confirmInclusion (index block : ℕ) : Coroutine State Bool := do
  keepPendingInclusion index (some block)
  let confirmed ← tryExcept (reportSettledWeightsResult index block) (pure false)
  keepPendingInclusion index (if confirmed then none else some block)
  pure confirmed

/-- The loop of `_retry_pending_inclusion`, up to the first report without an answer. -/
def confirmEach : List (ℕ × ℕ) → Coroutine State Bool
  | [] => pure true
  | (index, block) :: rest => do
      let confirmed ← confirmInclusion index block
      if confirmed then confirmEach rest else pure false

/-- `sorted(pending.items())`, by the text of the index. -/
def sortedEntries (pending : PyDict ℕ ℕ) : List (ℕ × ℕ) :=
  pending.items.insertionSort fun left right => toString left.1 ≤ toString right.1

def retryPendingInclusion : Coroutine State Bool := do
  let pending ← pendingInclusions
  match pending with
  | none => pure false
  | some pending => confirmEach (sortedEntries pending)

/-! ## Submitting a window -/

/-- What a call sees: the block before it (`none` if the read fails) and after the chain's
answer, and the window the backend serves. -/
structure SubmitInput where
  blockBefore : Option ℕ
  blockAfter : Option ℕ
  window : Option (List (String × ℚ))

def fetchSettledWindow (input : SubmitInput) : Coroutine State (Option (List (String × ℚ))) :=
  tryExcept (await id fun _ => input.window) (pure none)

/-- `_submit_vector`: whether the chain took the vector. -/
def submitVector (index : ℕ) : Coroutine State Bool := do
  modify (State.submitted index)
  tryExcept
    (do
      await id fun _ => ()
      choose [pure true, pure false])
    (pure false)

/-- The part of `submit_settled_window` behind the pending reports. -/
def submitServedWindow (index blockBefore : ℕ) (input : SubmitInput) : Coroutine State Bool := do
  let window ← fetchSettledWindow input
  match window with
  | none => pure false
  | some hotkeyScores =>
    if !hotkeyScores.any fun entry => entry.2 ≠ 0 then do
      -- frozen empty: asking again only gets the same answer
      modify fun state => { state with settledTempoDone := some index }
      pure false
    else do
      let accepted ← submitVector index
      if accepted then do
        let block := input.blockAfter.getD blockBefore
        modify (State.taken index block)
        let _ ← confirmInclusion index block
        pure true
      else pure false

def submitSettledWindow (tempo : ℕ) (input : SubmitInput) : Coroutine State Bool :=
  match input.blockBefore with
  | none => raise
  | some blockBefore =>
    if tempo = 0 then raise
    else do
      let index := tempoIndex blockBefore tempo
      let done ← read State.settledTempoDone
      if done = some index then pure true
      else do
        let reported ← retryPendingInclusion
        if reported then submitServedWindow index blockBefore input else pure false

/-! ## Runs -/

structure SubmitInput.Follows (input : SubmitInput) (clock : ℕ) : Prop where
  before : ∀ block, input.blockBefore = some block → clock ≤ block
  after : ∀ block later, input.blockBefore = some block → input.blockAfter = some later →
    block ≤ later

def SubmitInput.clock (input : SubmitInput) (clock : ℕ) : ℕ :=
  match input.blockBefore with
  | none => clock
  | some block => input.blockAfter.getD block

/-- What a process can reach from what Redis held when it started, whichever operations fail
and wherever a call is cut off, with the last block read. The endings of a call that is
cancelled at an await are the states it passes through. -/
inductive Reaches (tempo : ℕ) (kept : PyDict ℕ ℕ) : ℕ → State → Prop
  | start (clock) : Reaches tempo kept clock (State.start kept)
  | submit {clock state ending left} (input : SubmitInput) :
      Reaches tempo kept clock state → input.Follows clock →
      (ending, left) ∈ submitSettledWindow tempo input state →
      Reaches tempo kept (input.clock clock) left
  | retry {clock state ending left} :
      Reaches tempo kept clock state → (ending, left) ∈ retryPendingInclusion state →
      Reaches tempo kept clock left

end Lium.Settlement
