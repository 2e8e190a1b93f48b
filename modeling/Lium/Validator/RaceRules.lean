import Lium.Validator.DeleteRace

/-! # Reasoning about the race

A step of the delete is the forced removal, or leaves the pod's names as they are. A fact that
no such step disturbs holds across an await; the rules below say what a command, a look and a
failing step leave of it.
-/

namespace Lium.DeleteRace

open Coroutine EditSwap

variable {command : Command}

/-! ## The Docker IDs under the pod's names -/

def ownId (state : State Race) : Option ℕ := state.host.own.map Container.id

def asideId (state : State Race) : Option ℕ := state.host.parked.map Container.id

def gone (state : State Race) : Bool := state.world.delete.gone

theorem ids_did_of_switches {state : State Race} {name : PodName} {host : Host}
    (switches : command.Switches name) (acts : command.effect state.host = some host) :
    ownId (State.did state command host) = ownId state ∧
      asideId (State.did state command host) = asideId state := by
  rcases effect_switches switches acts with ⟨container, running, named, left⟩
  cases name <;> simp_all [ownId, asideId, State.did, Host.put, Host.named]

section Steps

variable (state : State Race)

/-- A step of the delete leaves what the create and its swap keep, and what is parked. -/
@[simp]
theorem deleteStep_kept :
    ((deleteStep state).parkedName = state.parkedName ∧
      (deleteStep state).parkedId = state.parkedId ∧
      (deleteStep state).replacementId = state.replacementId ∧
      (deleteStep state).replacementIsUp = state.replacementIsUp ∧
      (deleteStep state).error = state.error ∧ asideId (deleteStep state) = asideId state) ∧
    (deleteStep state).world.nextId = state.world.nextId ∧
      (deleteStep state).world.ran = state.world.ran ∧
      (deleteStep state).world.answer = state.world.answer ∧
      (deleteStep state).world.stranded = state.world.stranded ∧
      (deleteStep state).world.renamedBackAfterRemoval =
        state.world.renamedBackAfterRemoval := by
  rcases state with ⟨⟨own, parked⟩⟩
  rw [deleteStep]
  split
  case h_2 => cases own <;> repeat' constructor
  all_goals repeat' constructor

theorem deleteStep_cases :
    (gone (deleteStep state) = gone state ∧ ownId (deleteStep state) = ownId state ∧
        (deleteStep state).world.hostAtRemoval = state.world.hostAtRemoval) ∨
      (gone state = false ∧ gone (deleteStep state) = true ∧ ownId (deleteStep state) = none ∧
        (deleteStep state).world.hostAtRemoval = some state.host) := by
  cases phase : state.world.delete with
  | idle => left; simp [deleteStep, phase, gone, ownId, DeletePhase.gone]
  | waiting =>
    left
    rcases host : state.host with ⟨own, parked⟩
    cases own <;>
      simp [deleteStep, phase, gone, ownId, DeletePhase.gone, host, Command.effect, Host.named,
        Host.put]
  | stopped => right; simp [deleteStep, phase, gone, ownId, DeletePhase.gone, Host.put]
  | removed => left; simp [deleteStep, phase, gone, ownId, DeletePhase.gone]
  | answered => left; simp [deleteStep, phase]

theorem ownId_deleteStep_of_none (free : ownId state = none) : ownId (deleteStep state) = none := by
  rcases deleteStep_cases state with ⟨_, same, _⟩ | ⟨_, _, freed, _⟩
  · rw [same, free]
  · exact freed

theorem removed_deleteStep (removed : gone state = true → ownId state = none) :
    gone (deleteStep state) = true → ownId (deleteStep state) = none := by
  rcases deleteStep_cases state with ⟨same, names, _⟩ | ⟨_, _, freed, _⟩
  · rwa [same, names]
  · exact fun _ => freed

theorem standing_deleteStep (standing : gone state = false → ownId state = state.world.ran) :
    gone (deleteStep state) = false → ownId (deleteStep state) = (deleteStep state).world.ran := by
  rcases deleteStep_cases state with ⟨same, names, _⟩ | ⟨_, after, _⟩
  · simpa [same, names] using standing
  · simp [after]

theorem ownId_deleteStep {id : ℕ} (bears : ownId (deleteStep state) = some id) :
    ownId state = some id := by
  rcases deleteStep_cases state with ⟨_, same, _⟩ | ⟨_, _, freed, _⟩
  · rw [← same, bears]
  · rw [freed] at bears
    cases bears

end Steps

/-! ## Rules for the race -/

/-- A fact about the create that the delete does not disturb, nor the raising of an exception,
and under which a raise strands no container. -/
structure Lasting (holds : State Race → Prop) : Prop where
  stable : ∀ state, holds state → holds (deleteStep state)
  failing : ∀ state error, error ≠ .sameNameContainerKept → holds state →
    holds (state.failing error)
  known : ∀ state, holds state → State.strandIf state false = state

section Rules

variable {state : State Race} {holds weaker raised : State Race → Prop}

theorem Lasting.strandIf (lasting : Lasting holds) (held : holds state) :
    holds (State.strandIf state false) := by
  rwa [lasting.known state held]

theorem ensures_interfere
    (stable : ∀ state, holds state → holds (deleteStep state)) (held : holds state) :
    Ensures interfere state (Ends (fun _ left => holds left) raised) := by
  have iterated (steps : ℕ) : holds (deleteStep^[steps] state) := by
    induction steps with
    | zero => exact held
    | succ steps induction =>
      rw [Function.iterate_succ_apply']
      exact stable _ induction
  intro ending left reached
  rcases List.mem_map.mp reached with ⟨steps, _, equal⟩
  cases equal
  exact iterated steps

variable {next : Bool → State Race → Prop}

theorem ensures_perform (acts : ∀ host, command.effect state.host = some host →
      next true (State.did state command host))
    (idles : command.effect state.host = none → next false state) :
    Ensures (perform command) state (Ends next raised) := by
  intro ending left reached
  rw [perform] at reached
  split at reached
  case h_1 host effect =>
    cases List.mem_singleton.mp reached
    exact acts host effect
  case h_2 effect =>
    cases List.mem_singleton.mp reached
    exact idles effect

theorem ensures_command {undo : Bool} (stable : ∀ state, holds state → holds (deleteStep state))
    (held : holds state)
    (acts : ∀ state host, holds state → command.effect state.host = some host →
      next true (State.did state command host))
    (idles : ∀ state, holds state → command.effect state.host = none → next false state)
    (nextStable : ∀ reported state, next reported state → next reported (deleteStep state))
    (raises : ∀ reported state, next reported state → raised (State.strandIf state undo)) :
    Ensures ((shell undo).command command) state (Ends next raised) := by
  refine (ensures_interfere stable held).andThen ?_
  intro _ asked held
  refine (ensures_perform (acts asked · held) (idles asked held)).andThen ?_
  intro reported done reached
  refine (ensures_interfere (nextStable reported) reached).andThen ?_
  intro _ left reached
  refine (ensures_choose_pair _ _).mpr ⟨?_, ?_⟩
  · exact (ensures_pure _).mpr reached
  · simp only [ensures_modify_bind, ensures_raise]
    exact raises reported left reached

theorem ensures_look {undo : Bool} {holds : State Race → Prop} {next : Host → State Race → Prop}
    (stable : ∀ state, holds state → holds (deleteStep state)) (held : holds state)
    (sees : ∀ state, holds state → next state.host state)
    (nextStable : ∀ host state, next host state → next host (deleteStep state))
    (raises : ∀ host state, next host state → raised state) :
    Ensures (shell undo).look state
      (Ends (fun seen left => ∃ host, seen = some host ∧ next host left) raised) := by
  refine (ensures_interfere stable held).andThen ?_
  intro _ asked held
  rw [ensures_read_bind]
  refine (ensures_interfere (nextStable asked.host) (sees asked held)).andThen ?_
  intro _ left reached
  refine (ensures_choose_pair _ _).mpr ⟨?_, ?_⟩
  · exact (ensures_pure _).mpr ⟨asked.host, rfl, reached⟩
  · exact ensures_raise.mpr (raises _ left reached)

theorem ensures_fail {α : Type} {error : CreateError} {returned : α → State Race → Prop}
    (lasting : Lasting holds) (named : error ≠ .sameNameContainerKept) (held : holds state) :
    Ensures (fail error : Coroutine (State Race) α) state (Ends returned holds) := by
  simp only [fail, ensures_modify_bind, ensures_raise]
  exact lasting.failing state error named held

theorem ensures_step (lasting : Lasting holds) (held : holds state) :
    Ensures step state (Ends (fun _ left => holds left) holds) := by
  refine (ensures_interfere lasting.stable held).andThen ?_
  intro _ left held
  rw [ensures_choose]
  intro option listed
  simp only [List.mem_cons, List.not_mem_nil, or_false] at listed
  rcases listed with rfl | rfl | rfl | rfl
  · exact (ensures_pure _).mpr held
  · exact ensures_raise.mpr held
  · exact ensures_fail lasting (by decide) held
  · exact ensures_fail lasting (by decide) held

theorem ensures_reraise {α : Type} {returned : α → State Race → Prop} (lasting : Lasting holds)
    (held : holds state) :
    Ensures (reraise : Coroutine (State Race) α) state (Ends returned holds) := by
  rw [reraise]
  refine (ensures_choose_pair _ _).mpr ⟨?_, ?_⟩
  · exact ensures_raise.mpr held
  · exact ensures_fail lasting (by decide) held

/-- The fact survives the removal of what bears the pod's name. -/
def Clears (holds : State Race → Prop) : Prop :=
  ∀ state host, holds state → (Command.remove .own).effect state.host = some host →
    holds (State.did state (.remove .own) host)

theorem ensures_removeOwn (lasting : Lasting holds) (clears : Clears holds)
    (held : holds state) :
    Ensures ((shell false).command (.remove .own)) state (Ends (fun _ left => holds left) holds) := by
  exact ensures_command lasting.stable held clears (fun _ held _ => held)
    (fun _ => lasting.stable) (fun _ _ held => lasting.strandIf held)

theorem ensures_clearFiller (filler : Bool) (lasting : Lasting holds) (clears : Clears holds)
    (held : holds state) :
    Ensures (clearFiller filler) state (Ends (fun _ left => holds left) holds) := by
  rw [clearFiller]
  split
  · have cleared : Ensures (cleanupFailedContainerCreation none false) state
        (Ends (fun _ left => holds left) holds) := by
      rw [cleanupFailedContainerCreation, if_neg (by decide)]
      exact (ensures_removeOwn lasting clears held).swallowed
    refine cleared.andThen ?_
    exact fun _ _ held => ensures_step lasting held
  · exact (ensures_pure _).mpr held

theorem ensures_abortIfCancelledByDelete (filler : Bool) (lasting : Lasting weaker)
    (clears : Clears weaker) (implies : ∀ state, holds state → weaker state)
    (held : holds state) :
    Ensures (abortIfCancelledByDelete filler) state
      (Ends (fun _ left => holds left ∧ left.world.delete = .idle) weaker) := by
  simp only [abortIfCancelledByDelete, ensures_read_bind]
  split
  · refine (ensures_clearFiller filler lasting clears (implies state held)).andThen ?_
    exact fun _ _ held => ensures_fail lasting (by decide) held
  case isFalse unflagged =>
    refine (ensures_pure _).mpr ⟨held, ?_⟩
    simpa [isCancelled] using unflagged

end Rules

end Lium.DeleteRace
