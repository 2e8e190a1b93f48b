import Lium.Foundation.Coroutine

/-! # The edit swap

An edit parks the pod's container under another name, creates the replacement, and at the end
removes the parked container or gives it its name back. It talks to the node through a `Shell`,
which decides what a command's report says about its effect.
-/

namespace Lium.EditSwap

open Coroutine

/-! ## The node -/

/-- The names a pod's containers go by: the pod's own, and that with `EDIT_PARKED_SUFFIX`. -/
inductive PodName
  | own
  | parked
  deriving DecidableEq

structure Container where
  id : ℕ
  running : Bool
  deriving DecidableEq

/-- The containers under the pod's two names; docker gives a name to one container at a time.
No command of the swap addresses any other container. -/
structure Host where
  own : Option Container
  parked : Option Container
  deriving DecidableEq

namespace Host

def named (host : Host) : PodName → Option Container
  | .own => host.own
  | .parked => host.parked

def put (host : Host) (container : Option Container) : PodName → Host
  | .own => { host with own := container }
  | .parked => { host with parked := container }

def Holds (host : Host) (id : ℕ) : Prop :=
  (∃ container, host.own = some container ∧ container.id = id) ∨
    ∃ container, host.parked = some container ∧ container.id = id

end Host

/-- `remove` is `docker rm -fv <name> 2>/dev/null || true`, whose report nobody reads. -/
inductive Command
  | rename (source target : PodName)
  | remove (name : PodName)
  | removeId (id : ℕ)
  | stop (name : PodName)
  | kill (name : PodName)
  | killContainerProcesses (name : PodName)
  | start (name : PodName)
  | run (id : ℕ)
  deriving DecidableEq

/-- What a command does to the node; `none` if there is nothing for it to act on, or the name
it would give is taken. -/
def Command.effect : Command → Host → Option Host
  | .rename source target, host =>
    match host.named source, host.named target with
    | some container, none => some ((host.put none source).put (some container) target)
    | _, _ => none
  | .remove name, host => (host.named name).map fun _ => host.put none name
  | .removeId id, host =>
    if (host.own.any fun container => container.id = id) then some (host.put none .own)
    else if (host.parked.any fun container => container.id = id) then
      some (host.put none .parked)
    else none
  | .stop name, host =>
    (host.named name).map fun container => host.put (some { container with running := false }) name
  | .kill name, host | .killContainerProcesses name, host =>
    ((host.named name).filter Container.running).map fun container =>
      host.put (some { container with running := false }) name
  | .start name, host =>
    (host.named name).map fun container => host.put (some { container with running := true }) name
  | .run id, host =>
    match host.own with
    | none => some (host.put (some ⟨id, true⟩) .own)
    | some _ => none

section Effects

variable {host left : Host} {id : ℕ}

theorem effect_rename {source target : PodName}
    (acts : (Command.rename source target).effect host = some left) :
    ∃ container, host.named source = some container ∧ host.named target = none ∧
      left = (host.put none source).put (some container) target := by
  simp only [Command.effect] at acts
  split at acts
  case h_1 container found free => exact ⟨container, found, free, (Option.some.inj acts).symm⟩
  case h_2 => cases acts

theorem effect_remove {name : PodName} (acts : (Command.remove name).effect host = some left) :
    left = host.put none name := by
  simp only [Command.effect] at acts
  rcases Option.map_eq_some_iff.mp acts with ⟨_, _, equal⟩
  exact equal.symm

def Command.Switches (name : PodName) : Command → Prop
  | .stop target | .kill target | .killContainerProcesses target | .start target => target = name
  | _ => False

theorem effect_switches {command : Command} {name : PodName} (switches : command.Switches name)
    (acts : command.effect host = some left) :
    ∃ container running, host.named name = some container ∧
      left = host.put (some ⟨container.id, running⟩) name := by
  cases command with
  | stop target | start target =>
    cases switches
    simp only [Command.effect] at acts
    rcases Option.map_eq_some_iff.mp acts with ⟨container, found, equal⟩
    exact ⟨container, _, found, equal.symm⟩
  | kill target | killContainerProcesses target =>
    cases switches
    simp only [Command.effect] at acts
    rcases Option.map_eq_some_iff.mp acts with ⟨container, found, equal⟩
    exact ⟨container, _, (Option.filter_eq_some_iff.mp found).1, equal.symm⟩
  | rename source target => cases switches
  | remove target => cases switches
  | removeId removed => cases switches
  | run fresh => cases switches

theorem effect_removeId_parked (acts : (Command.removeId id).effect host = some left)
    (other : ∀ container, host.parked = some container → container.id ≠ id) :
    left = host.put none .own := by
  simp only [Command.effect] at acts
  split at acts
  · exact (Option.some.inj acts).symm
  · split at acts
    case isTrue found =>
      rcases Option.any_eq_true _ _ |>.mp found with ⟨container, parked, same⟩
      exact (other container parked (of_decide_eq_true same)).elim
    case isFalse => cases acts

end Effects

/-! ## The swap's state -/

inductive CreateError
  | cancelledByDelete
  | unkillableParkedContainer
  | podGpusGone
  | sameNameContainerKept
  | containerGoneBeforeExec
  | other
  deriving DecidableEq

/-- The node, the `_EditSwap` object, the exception in flight, and the world around the
create. -/
structure State (ω : Type) where
  host : Host
  parkedName : Option PodName := none
  parkedId : Option ℕ := none
  bringUp : Bool := false
  replacementIsUp : Bool := false
  replacementId : Option ℕ := none
  unkillable : Bool := false
  error : Option CreateError := none
  world : ω
  deriving DecidableEq

namespace State

variable {ω : Type}

def parkedAs (state : State ω) (id : ℕ) : State ω :=
  { state with parkedName := some .parked, parkedId := some id }

def unparked (state : State ω) : State ω := { state with parkedName := none }

def unkillableIs (state : State ω) (value : Bool) : State ω := { state with unkillable := value }

def failing (state : State ω) (error : CreateError) : State ω := { state with error := some error }

end State

/-- How the swap reaches the node: a command's report, `true` for exit status 0, and what a
listing or an inspection shows, `none` if it exits otherwise. -/
structure Shell (ω : Type) where
  command : Command → Coroutine (State ω) Bool
  look : Coroutine (State ω) (Option Host)

section Swap

variable {ω : Type} {α : Type}

def fail (error : CreateError) : Coroutine (State ω) α := do
  modify fun state => state.failing error
  raise

/-- The exception `__aexit__` is given. -/
def raisedBy : Ending α → State ω → Option CreateError
  | .returned _, _ => none
  | .raised, state => some (state.error.getD .other)
  | .cancelled, _ => some .other

variable (shell : Shell ω)

/-! ## Parking -/

def inspectRunning (name : PodName) : Coroutine (State ω) (Option Bool) := do
  let seen ← shell.look
  pure ((seen.bind fun host => host.named name).map Container.running)

/-- `_PARK_KILL_WAIT_SECONDS` over `_PARK_KILL_SETTLE_SECONDS`. -/
def parkKillLooks : ℕ := max 1 (30 / max 2 1)

def seenStopped : ℕ → Coroutine (State ω) Bool
  | 0 => pure false
  | looks + 1 => do
      let running ← inspectRunning shell .parked
      if running = some false then pure true else seenStopped looks

/-- `_killed_after_failed_stop`. The first choice is a kill whose error does not say that
dockerd lost the exit event. -/
def killedAfterFailedStop : Coroutine (State ω) Bool := do
  let _ ← shell.command (.kill .parked)
  let isStopped ← seenStopped shell parkKillLooks
  if isStopped then pure true
  else choose [pure false, do
    let _ ← shell.command (.killContainerProcesses .parked)
    let running ← inspectRunning shell .parked
    let stopped := decide (running = some false)
    modify fun state => state.unkillableIs (!stopped)
    pure stopped]

def renameBackIfRunning : Coroutine (State ω) Unit := do
  let running ← inspectRunning shell .parked
  if running = some true then do
    let renamedBack ← shell.command (.rename .parked .own)
    if renamedBack then modify State.unparked else pure ()
  else pure ()

def giveUpParking : Coroutine (State ω) Unit := do
  renameBackIfRunning shell
  let unkillable ← read State.unkillable
  fail (if unkillable then .unkillableParkedContainer else .other)

def parkContainer (id : ℕ) : Coroutine (State ω) (Option PodName) := do
  let renamed ← shell.command (.rename .own .parked)
  if renamed then do
    modify fun state => state.parkedAs id
    let stopped ← shell.command (.stop .parked)
    if stopped then pure (some .parked)
    else do
      let killed ← killedAfterFailedStop shell
      if killed then pure (some .parked)
      else do
        giveUpParking shell
        pure (some .parked)
  else fail .other

/-- `_park`; `none` if there is nothing to park. -/
def park : Coroutine (State ω) (Option PodName) := do
  let listed ← shell.look
  match listed with
  | none => fail .other
  | some ⟨none, none⟩ => pure none
  | some ⟨none, some container⟩ => do
      -- an earlier edit crashed between park and restore
      let renamed ← shell.command (.rename .parked .own)
      if renamed then parkContainer shell container.id else fail .other
  | some ⟨some container, none⟩ => parkContainer shell container.id
  | some ⟨some container, some _⟩ => do
      let _ ← shell.command (.remove .parked)
      parkContainer shell container.id

/-! ## The end of the swap -/

/-- The restored container is started: by `bring_up`, of whose steps only the start touches a
container, or by a bare `docker start`. -/
def startRestored : Coroutine (State ω) Unit := do
  let bringUp ← read State.bringUp
  if bringUp then do
    let _ ← tryExcept (withinTimeout (shell.command (.start .own))) (pure none)
    pure ()
  else do
    let _ ← shell.command (.start .own)
    pure ()

/-- By ID once there is one, else by name. -/
def removalOf : Option ℕ → Command
  | some id => .removeId id
  | none => .remove .own

def removeReplacement : Coroutine (State ω) Bool := do
  let replacementId ← read State.replacementId
  shell.command (removalOf replacementId)

def restore (start : Bool) : Coroutine (State ω) Unit := do
  let _ ← removeReplacement shell
  let renamed ← shell.command (.rename .parked .own)
  if renamed && start then startRestored shell else pure ()

def removeParked : Coroutine (State ω) Unit := do
  let parkedId ← read State.parkedId
  match parkedId with
  | some id => do
      let _ ← shell.command (.removeId id)
      pure ()
  | none => fail .other

/-- The edit stands, or its pod is being deleted. -/
def dropsParked (error : Option CreateError) (state : State ω) : Bool :=
  error = none || state.replacementIsUp || error = some .cancelledByDelete

/-- `__aexit__`, given the exception that ended the create's body. -/
def aexit (error : Option CreateError) : Coroutine (State ω) Unit := do
  let parkedName ← read State.parkedName
  match parkedName with
  | none => pure ()
  | some _ => do
      let drops ← read (dropsParked error)
      tryExcept
        (if drops then removeParked shell else restore shell (error ≠ some .podGpusGone))
        (pure ())

end Swap

end Lium.EditSwap
