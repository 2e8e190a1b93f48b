import Lium.Validator.EditSwap
import Mathlib.Logic.Function.Iterate

/-! # A create and the delete of its pod

At every await of the create the delete of its pod may have gone on by any number of steps: it
flags the create, waits, removes what bears the pod's name and answers. Commands take effect as
asked; any of them, and any step of the create, may raise after that.
-/

namespace Lium.DeleteRace

open Coroutine EditSwap

/-! ## The delete -/

/-- How far the delete is. From `waiting` on, the create is flagged. -/
inductive DeletePhase
  | idle
  | waiting
  | stopped
  | removed
  | answered
  deriving DecidableEq

def DeletePhase.gone : DeletePhase → Bool
  | .removed | .answered => true
  | _ => false

inductive Answer
  | containerCreated
  | failedContainerRequest
  deriving DecidableEq

/-- `ran` is the container the create ran last; `hostAtRemoval` what the forced removal found.
`stranded`: a command raised and left a container parked that the swap will not touch again,
because it was the rename aside or a command of the undo. -/
structure Race where
  delete : DeletePhase := .idle
  hostAtRemoval : Option Host := none
  nextId : ℕ
  ran : Option ℕ := none
  answer : Option Answer := none
  stranded : Bool := false
  renamedBackAfterRemoval : Bool := false
  deriving DecidableEq

/-- The next step of `delete_container`: the cancel, the graceful stop, the forced removal,
the answer. The waits before the stop may end at any time. -/
def deleteStep (state : State Race) : State Race :=
  match state.world.delete with
  | .idle => { state with world := { state.world with delete := .waiting } }
  | .waiting =>
    { state with
      host := ((Command.stop .own).effect state.host).getD state.host
      world := { state.world with delete := .stopped } }
  | .stopped =>
    { state with
      host := state.host.put none .own
      world := { state.world with delete := .removed, hostAtRemoval := some state.host } }
  | .removed => { state with world := { state.world with delete := .answered } }
  | .answered => state

/-- An await: the delete goes on by some of its steps. -/
def interfere : Coroutine (State Race) Unit := fun state =>
  (List.range 5).map fun steps => (.returned (), deleteStep^[steps] state)

/-! ## The shell -/

def State.did (state : State Race) (command : Command) (host : Host) : State Race :=
  { state with
    host
    world :=
      { state.world with
        ran := match command with
          | .run id => some id
          | _ => state.world.ran
        renamedBackAfterRemoval := state.world.renamedBackAfterRemoval ||
          (command = .rename .parked .own && state.world.delete.gone) } }

def perform (command : Command) : Coroutine (State Race) Bool := fun state =>
  match command.effect state.host with
  | some host => [(.returned true, State.did state command host)]
  | none => [(.returned false, state)]

def State.strandIf (state : State Race) (undo : Bool) : State Race :=
  { state with
    world :=
      { state.world with
        stranded := state.world.stranded ||
          (state.host.parked.isSome && (undo || state.parkedName.isNone)) } }

/-- The node as the create reaches it; `undo` for the commands of `__aexit__`. -/
def shell (undo : Bool) : Shell Race where
  command command := do
    interfere
    let reported ← perform command
    interfere
    choose [pure reported, do
      modify fun state => State.strandIf state undo
      raise]
  look := do
    interfere
    let seen ← read State.host
    interfere
    choose [pure (some seen), raise]

/-! ## The create -/

/-- An awaited step that touches no container of the pod. -/
def step : Coroutine (State Race) Unit := do
  interfere
  choose [pure (), raise, fail .podGpusGone, fail .containerGoneBeforeExec]

/-- `inflight_creates.is_cancelled`. -/
def isCancelled (state : State Race) : Bool := state.world.delete ≠ .idle

/-- `cleanup_failed_container_creation`; by name too, this being the pod's only create. -/
def cleanupFailedContainerCreation (containerId : Option ℕ) (keepContainer : Bool) :
    Coroutine (State Race) Unit :=
  if keepContainer then pure ()
  else tryExcept
    (do
      let _ ← (shell false).command (removalOf containerId)
      pure ())
    (pure ())

/-- The flagged create of a filler removes its container before the GPUs' power is restored. -/
def clearFiller (filler : Bool) : Coroutine (State Race) Unit :=
  if filler then do
    cleanupFailedContainerCreation none false
    step
  else pure ()

/-- `_abort_if_cancelled_by_delete`. -/
def abortIfCancelledByDelete (filler : Bool) : Coroutine (State Race) Unit := do
  let cancelled ← read isCancelled
  if cancelled then do
    clearFiller filler
    fail .cancelledByDelete
  else pure ()

/-- `_unless_cancelled_by_delete`: a long step, which the flag cuts short unless it is already
done. -/
def unlessCancelledByDelete (filler : Bool) : Coroutine (State Race) Unit := do
  step
  choose [pure (), abortIfCancelledByDelete filler]

/-- `clean_existing_containers`, for the pod's own name: a container listed under it goes by its
ID, unless the backend names it as active. -/
def cleanExistingContainers : Coroutine (State Race) Unit := do
  let listed ← (shell false).look
  match listed.bind Host.own with
  | none => pure ()
  | some container => choose [pure (), do
      let _ ← (shell false).command (.removeId container.id)
      pure ()]

def State.numbered (state : State Race) : State Race :=
  { state with world := { state.world with nextId := state.world.nextId + 1 } }

/-- `docker run` once; `none` if it raised. -/
def runContainer (id : ℕ) : Coroutine (State Race) (Option Bool) :=
  tryExcept
    (do
      let ran ← (shell false).command (.run id)
      pure (some ran))
    (pure none)

/-- `_remove_failed_rental_container_for_retry`, which logs its own failure. -/
def removeForRetry : Coroutine (State Race) Unit :=
  tryExcept
    (do
      let _ ← (shell false).command (.remove .own)
      pure ())
    (pure ())

/-- `_run_rental_docker_create_attempts`: a failed run is final, or what it left goes and the run is
repeated. A name that is taken is kept, unless its container never started. The answer is the
container's ID, if the client gave one. -/
def runAttempts (filler : Bool) : ℕ → Coroutine (State Race) (Option ℕ)
  | 0 => raise
  | attempts + 1 => do
      let id ← read fun state => state.world.nextId
      modify State.numbered
      let ran ← runContainer id
      if ran = some true then choose [pure (some id), pure none]
      else if ran = some false then
        choose [fail .sameNameContainerKept, do
          removeForRetry
          runAttempts filler attempts]
      else
        choose [raise, do
          choose [pure (), abortIfCancelledByDelete filler]
          removeForRetry
          choose [pure (), abortIfCancelledByDelete filler]
          runAttempts filler attempts]

/-- A handler that raises again: the exception it caught, or one of its own. -/
def reraise {α : Type} : Coroutine (State Race) α := choose [raise, fail .other]

def State.replacedBy (state : State Race) (id : Option ℕ) : State Race :=
  { state with replacementId := id }

/-- From the look at the flag before `docker run` to the health check. -/
def runReplacement (filler : Bool) (attempts : ℕ) : Coroutine (State Race) Unit := do
  step
  abortIfCancelledByDelete filler
  step
  let containerId ← runAttempts filler attempts
  modify fun state => State.replacedBy state containerId
  step

/-- Its handler. `container_id` is the ID the swap was given. -/
def runFailed : Coroutine (State Race) Unit := do
  let keeps ← read fun state => decide (state.error = some .sameNameContainerKept)
  let containerId ← read State.replacementId
  cleanupFailedContainerCreation containerId keeps
  reraise

/-- From the volume's setup to the caching of the pod. -/
def bootstrap (filler : Bool) : Coroutine (State Race) Unit := do
  step
  abortIfCancelledByDelete filler
  step

/-- Its handler: a container that is gone may be the delete's doing. -/
def bootstrapFailed (filler : Bool) : Coroutine (State Race) Unit := do
  let containerId ← read State.replacementId
  cleanupFailedContainerCreation containerId false
  let gone ← read fun state => decide (state.error = some .containerGoneBeforeExec)
  if gone then do
    abortIfCancelledByDelete filler
    reraise
  else reraise

/-- An edit parks its container before the replacement is made. -/
def parkIfEditing (editing filler : Bool) : Coroutine (State Race) Unit :=
  if editing then do
    step
    abortIfCancelledByDelete filler
    let _ ← park (shell false)
    pure ()
  else pure ()

def State.replied (state : State Race) : State Race :=
  { state with
    replacementIsUp := true
    world := { state.world with answer := some .containerCreated } }

structure CreateRequest where
  editing : Bool
  filler : Bool
  attempts : ℕ

/-- `create_container`, inside its connections. -/
def createBody (request : CreateRequest) : Coroutine (State Race) Unit := do
  step
  abortIfCancelledByDelete request.filler
  unlessCancelledByDelete request.filler
  parkIfEditing request.editing request.filler
  step
  cleanExistingContainers
  step
  tryExcept (runReplacement request.filler request.attempts) runFailed
  tryExcept (bootstrap request.filler) (bootstrapFailed request.filler)
  step
  modify State.replied

def State.answeredFailed (state : State Race) : State Race :=
  { state with world := { state.world with answer := some .failedContainerRequest } }

/-- After the reply: the inspector's start, which the delete may cut short, and the swap's end. -/
def stepsAfterReply : Coroutine (State Race) Unit := do
  interfere
  choose [aexit (shell true) none, aexit (shell true) (some .other)]
  interfere

def answerFailure (error : Option CreateError) : Coroutine (State Race) Unit := do
  aexit (shell true) error
  interfere
  modify State.answeredFailed
  interfere

/-- `create_container` to the end of its steps after the reply, and what the delete does then.
The delete starts while the create is registered; letting it start up to the end adds runs in
which more of the create is done when it starts. -/
def createContainer (request : CreateRequest) : Coroutine (State Race) Unit := fun state =>
  (createBody request state).flatMap fun ending =>
    match ending.1 with
    | .returned _ => stepsAfterReply ending.2
    | _ => answerFailure (raisedBy ending.1 ending.2) ending.2

end Lium.DeleteRace
