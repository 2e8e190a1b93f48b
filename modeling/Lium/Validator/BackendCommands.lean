import Lium.Foundation.ExpiringKey

/-! # Backend commands

The backend may send one request several times under one command id. Each delivery tries to
set a claim under the id; the one that set it runs the job, keeps the claim alive and leaves
the responses there, and the others replay them or are ignored.
-/

namespace Lium.BackendCommands

inductive CommandState where
  | running
  | finished
deriving DecidableEq, Repr

structure BackendCommand where
  state : CommandState
  owner : String
  responses : List String
deriving DecidableEq, Repr

structure Setup (ρ : Type) where
  /-- The `uuid4` of each delivery. -/
  owner : ℕ → String
  modelDumpJson : ρ → String
  parse : String → Option ρ
  claimTtl : ℕ
  answerTtl : ℕ

/-- How a Redis command ends. With its reply lost it has been carried out, and the client
sends it again; a command that fails has not been, and its caller gets the exception. -/
inductive Reply where
  | received
  | lost
  | failed
deriving DecidableEq, Repr

/-- Where a delivery is in `miner_driver`. -/
inductive Phase where
  /-- In the loop of `claim_backend_command`, before its SET NX. -/
  | claiming
  /-- The key was taken; before its GET. -/
  | refused
  /-- It has its claim, which runs out at the deadline unless refreshed. -/
  | granted (deadline : ℕ)
  | duplicate (existing : BackendCommand)
  | running (responses : List String)
  /-- The job runs without a claim. -/
  | unguarded
  /-- The job is over; before the final update. -/
  | finishing (succeeded : Bool) (responses : List String)
  | ended (succeeded : Bool) (responses : List String) (updated : Bool)
  | answered
  | ignored
deriving DecidableEq, Repr

/-- The delivery has set its claim and started its job under it. A heartbeat cancelled on its
way to Redis can still be carried out when the job is over. -/
def Phase.underClaim : Phase → Bool
  | .running _ => true
  | .finishing _ _ => true
  | .ended _ _ _ => true
  | _ => false

/-- What a delivery does next, or what happens to its job. -/
inductive Command (ρ : Type) where
  | setNx (reply : Reply)
  | get (reply : Reply)
  | resume
  | respond (response : ρ)
  | heartbeat (reply : Reply)
  | finish (succeeded : Bool)
  | update (reply : Reply)
deriving DecidableEq, Repr

def Command.ClaimAnswered {ρ : Type} (command : Command ρ) : Prop :=
  command ≠ .setNx .failed ∧ command ≠ .get .failed

structure Effect (ρ : Type) where
  key : ExpiringKey BackendCommand
  phase : Phase
  sent : List ρ
  startsJob : Bool

/-- The record of a job that is over; a failure without any answer releases the claim. -/
def finalValue (succeeded : Bool) (responses : List String) : Option BackendCommand :=
  if succeeded = true ∨ responses ≠ [] then some ⟨.finished, "", responses⟩ else none

namespace Setup

variable {ρ : Type} (setup : Setup ρ)

def claim (delivery : ℕ) : BackendCommand := ⟨.running, setup.owner delivery, []⟩

def updateBackendCommand (delivery : ℕ) (value : Option BackendCommand) (deadline : ℕ)
    (key : ExpiringKey BackendCommand) : ExpiringKey BackendCommand :=
  key.compareAndSet (setup.claim delivery) value deadline

/-- `_handle_backend_command_duplicate`: a record whose responses do not parse back lets the
job run. -/
def handleDuplicate (existing : BackendCommand) (key : ExpiringKey BackendCommand) : Effect ρ :=
  match existing.state with
  | .finished =>
    match existing.responses.mapM setup.parse with
    | some replies => ⟨key, .answered, replies, false⟩
    | none => ⟨key, .unguarded, [], true⟩
  | .running => ⟨key, .ignored, [], false⟩

/-- The SET NX of `claim_backend_command`. -/
def setClaim (delivery now : ℕ) (key : ExpiringKey BackendCommand) : Reply → Effect ρ
  | .failed => ⟨key, .unguarded, [], true⟩
  | .lost =>
    ⟨key.setIfAbsent (setup.claim delivery) (now + setup.claimTtl), .claiming, [], false⟩
  | .received =>
    match key with
    | none =>
      ⟨some (setup.claim delivery, now + setup.claimTtl), .granted (now + setup.claimTtl),
        [], false⟩
    | some entry => ⟨some entry, .refused, [], false⟩

/-- The GET of `claim_backend_command`. A SET NX sent again finds the claim it set itself. -/
def getClaim (delivery : ℕ) (key : ExpiringKey BackendCommand) : Reply → Effect ρ
  | .failed => ⟨key, .unguarded, [], true⟩
  | .lost => ⟨key, .refused, [], false⟩
  | .received =>
    match key with
    | none => ⟨none, .claiming, [], false⟩
    | some (existing, deadline) =>
      if existing = setup.claim delivery then
        ⟨some (existing, deadline), .granted deadline, [], false⟩
      else ⟨some (existing, deadline), .duplicate existing, [], false⟩

/-- The update at the end of `miner_driver`. -/
def finishCommand (delivery now : ℕ) (key : ExpiringKey BackendCommand) (succeeded : Bool)
    (responses : List String) : Reply → Effect ρ
  | .failed => ⟨key, .ended succeeded responses false, [], false⟩
  | .lost =>
    ⟨setup.updateBackendCommand delivery (finalValue succeeded responses)
      (now + setup.answerTtl) key, .finishing succeeded responses, [], false⟩
  | .received =>
    ⟨setup.updateBackendCommand delivery (finalValue succeeded responses)
      (now + setup.answerTtl) key, .ended succeeded responses true, [], false⟩

/-- `_refresh_backend_command` goes on after an update that failed. -/
def refreshed (delivery now : ℕ) (key : ExpiringKey BackendCommand) (phase : Phase)
    (reply : Reply) : ExpiringKey BackendCommand :=
  if phase.underClaim = true ∧ reply ≠ .failed then
    setup.updateBackendCommand delivery (some (setup.claim delivery)) (now + setup.claimTtl) key
  else key

/-- One command of a delivery. A command that its phase does not have changes nothing. -/
def deliver (delivery now : ℕ) (key : ExpiringKey BackendCommand) :
    Phase → Command ρ → Effect ρ
  | .claiming, .setNx reply => setup.setClaim delivery now key reply
  | .refused, .get reply => setup.getClaim delivery key reply
  | .granted _, .resume => ⟨key, .running [], [], true⟩
  | .duplicate existing, .resume => setup.handleDuplicate existing key
  | .running responses, .respond response =>
    ⟨key, .running (responses ++ [setup.modelDumpJson response]), [response], false⟩
  | .unguarded, .respond response => ⟨key, .unguarded, [response], false⟩
  | .running responses, .finish succeeded => ⟨key, .finishing succeeded responses, [], false⟩
  | .finishing succeeded responses, .update reply =>
    setup.finishCommand delivery now key succeeded responses reply
  | phase, .heartbeat reply =>
    ⟨setup.refreshed delivery now key phase reply, phase, [], false⟩
  | phase, _ => ⟨key, phase, [], false⟩

end Setup

/-- The key of one command id, the deliveries, and what they did: the messages appended to the
queue and the jobs started, each with its delivery. -/
structure State (ρ : Type) where
  now : ℕ
  key : ExpiringKey BackendCommand
  phases : ℕ → Phase
  messageQueue : List (ℕ × ρ)
  started : List ℕ

inductive Event (ρ : Type) where
  | wait (seconds : ℕ)
  | act (delivery : ℕ) (command : Command ρ)
deriving DecidableEq, Repr

def Event.ClaimAnswered {ρ : Type} : Event ρ → Prop
  | .wait _ => True
  | .act _ command => command.ClaimAnswered

namespace State

variable {ρ : Type}

def start : State ρ := ⟨0, none, fun _ => .claiming, [], []⟩

def afterWait (state : State ρ) (seconds : ℕ) : State ρ :=
  { state with now := state.now + seconds, key := state.key.expire (state.now + seconds) }

def afterEffect (state : State ρ) (delivery : ℕ) (effect : Effect ρ) : State ρ where
  now := state.now
  key := effect.key
  phases := Function.update state.phases delivery effect.phase
  messageQueue := state.messageQueue ++ effect.sent.map fun reply => (delivery, reply)
  started := state.started ++ if effect.startsJob then [delivery] else []

def sentBy (state : State ρ) (delivery : ℕ) : List ρ :=
  state.messageQueue.filterMap fun message =>
    if message.1 = delivery then some message.2 else none

end State

namespace Setup

variable {ρ : Type} (setup : Setup ρ)

def step (state : State ρ) : Event ρ → State ρ
  | .wait seconds => state.afterWait seconds
  | .act delivery command =>
    state.afterEffect delivery
      (setup.deliver delivery state.now state.key (state.phases delivery) command)

def run (events : List (Event ρ)) (state : State ρ) : State ρ := events.foldl setup.step state

end Setup

end Lium.BackendCommands
