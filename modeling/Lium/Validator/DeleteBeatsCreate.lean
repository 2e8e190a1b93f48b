import Lium.Validator.CreateRuns

/-! # Who wins the race

The swap ends with nothing parked, and with nothing under the pod's name once the delete has removed
it. The exceptions are the undo's rename back and a command that raised with a container parked.
-/

namespace Lium.DeleteRace

open Coroutine EditSwap

variable (error : Option CreateError) {id : ℕ} {host : Host}

/-! ## The end of the swap -/

section Exit

variable {state : State Race}

structure Over (state : State Race) : Prop where
  kept : state.world.answer = some .containerCreated → Kept state
  names : (state.world.stranded = true ∧ asideId state ≠ none) ∨
    (state.world.stranded = false ∧ asideId state = none ∧
      (gone state = false → state.world.renamedBackAfterRemoval = false) ∧
        (gone state = true →
          (ownId state = none ↔ state.world.renamedBackAfterRemoval = false)))

theorem Over.deleteStep (finished : Over state) : Over (deleteStep state) := by
  refine ⟨fun created => (finished.kept (by simpa using created)).deleteStep, ?_⟩
  simp only [deleteStep_kept]
  rcases finished.names with stranded | ⟨safe, free, quiet, restored⟩
  · exact .inl stranded
  · refine .inr ⟨safe, free, ?_⟩
    rcases deleteStep_cases state with ⟨same, names, _⟩ | ⟨before, after, freed, _⟩
    · rw [same, names]
      exact ⟨quiet, restored⟩
    · rw [freed]
      exact ⟨fun _ => quiet before, fun _ => iff_of_true rfl (quiet before)⟩

theorem ensures_over {α : Type} {program : Coroutine (State Race) α}
    (ensured : Ensures program state (Ends (fun _ left => Over left) Over)) :
    Ensures program state fun _ left => Over left := by
  refine ensured.mono ?_
  intro ending left held
  cases ending with
  | returned _ => exact held
  | raised => exact held
  | cancelled => exact held.elim

/-- What is parked can go by its ID. -/
structure Droppable (id : ℕ) (state : State Race) : Prop where
  notStranded : state.world.stranded = false
  notRenamed : state.world.renamedBackAfterRemoval = false
  aside : asideId state = some id
  distinct : ownId state ≠ some id
  removed : gone state = true → ownId state = none
  kept : state.world.answer = some .containerCreated → Kept state

theorem Droppable.deleteStep (droppable : Droppable id state) :
    Droppable id (deleteStep state) := by
  refine ⟨by simpa using droppable.notStranded, by simpa using droppable.notRenamed,
    by simpa using droppable.aside, ?_, removed_deleteStep state droppable.removed,
    fun created => (droppable.kept (by simpa using created)).deleteStep⟩
  exact fun bears => droppable.distinct (ownId_deleteStep state bears)

theorem Droppable.after_remove (droppable : Droppable id state)
    (acts : (Command.removeId id).effect state.host = some host) :
    Over (State.did state (.removeId id) host) := by
  have elsewhere : (state.host.own.any fun container => container.id = id) = false := by
    rw [Bool.eq_false_iff]
    intro found
    rcases (Option.any_eq_true _ _).mp found with ⟨container, own, same⟩
    exact droppable.distinct (by simp [ownId, own, of_decide_eq_true same])
  have left : host = state.host.put none .parked := by
    simp only [Command.effect, elsewhere] at acts
    split at acts
    · cases ‹false = true›
    · split at acts
      · exact (Option.some.inj acts).symm
      · cases acts
  have renamed : (State.did state (.removeId id) host).world.renamedBackAfterRemoval = false := by
    simp [State.did, droppable.notRenamed]
  have own : ownId (State.did state (.removeId id) host) = ownId state := by
    simp [ownId, State.did, left, Host.put]
  refine ⟨?_, .inr ⟨droppable.notStranded, ?_, fun _ => renamed, ?_⟩⟩
  · intro created
    have kept := droppable.kept created
    exact ⟨kept.ran, fun remains => own.trans (kept.standing remains), fun removed =>
      ⟨own.trans (kept.removed removed).1, (kept.removed removed).2⟩⟩
  · simp [asideId, State.did, left, Host.put]
  · intro removed
    rw [own, renamed]
    exact iff_of_true (droppable.removed removed) rfl

theorem ensures_removeParked (known : state.parkedId = some id) (droppable : Droppable id state) :
    Ensures (removeParked (shell true)) state fun _ left => Over left := by
  apply ensures_over
  rw [removeParked, ensures_read_bind, known]
  have removed : Ensures ((shell true).command (.removeId id)) state
      (Ends (fun _ left => Over left ∧ asideId left = none) Over) := by
    refine ensures_command (fun _ droppable => droppable.deleteStep) droppable ?_ ?_ ?_ ?_
    · intro later host droppable acts
      have finished := droppable.after_remove acts
      refine ⟨finished, ?_⟩
      rcases finished.names with ⟨stranded, _⟩ | ⟨_, free, _⟩
      · rw [show (State.did later (.removeId id) host).world.stranded = false from
          droppable.notStranded] at stranded
        cases stranded
      · exact free
    · intro later droppable idles
      rcases Option.map_eq_some_iff.mp droppable.aside with ⟨container, parked, identified⟩
      simp only [Command.effect, parked, Option.any_some, identified, decide_true, if_true] at idles
      split at idles <;> cases idles
    · exact fun _ _ held => ⟨held.1.deleteStep, by simpa using held.2⟩
    · intro _ later held
      rw [strandIf_of_free held.2]
      exact held.1
  refine removed.andThen ?_
  exact fun _ _ held => (ensures_pure _).mpr held.1

/-- The pod's name is free, and what is parked is to have it back. -/
structure Restoring (state : State Race) : Prop extends Cleared state where
  parked : asideId state ≠ none

section

variable (restoring : Restoring state)
include restoring

theorem Restoring.deleteStep : Restoring (deleteStep state) :=
  ⟨Cleared.lasting.stable state restoring.toCleared, by simpa using restoring.parked⟩

theorem Restoring.over_of_raise :
    Over (State.strandIf state true) := by
  rcases Option.ne_none_iff_exists'.mp restoring.parked with ⟨id, aside⟩
  rcases Option.map_eq_some_iff.mp aside with ⟨container, parked, _⟩
  refine ⟨?_, .inl ⟨by simp [State.strandIf, parked], restoring.parked⟩⟩
  simp [State.strandIf, restoring.quiet.unanswered]

theorem Restoring.after_rename
    (acts : (Command.rename .parked .own).effect state.host = some host) :
    Over (State.did state (.rename .parked .own) host) ∧
      asideId (State.did state (.rename .parked .own) host) = none := by
  rcases effect_rename acts with ⟨container, _, _, left⟩
  have free : asideId (State.did state (.rename .parked .own) host) = none := by
    simp [asideId, State.did, left, Host.put]
  have own : ownId (State.did state (.rename .parked .own) host) = some container.id := by
    simp [ownId, State.did, left, Host.put]
  have renamed : (State.did state (.rename .parked .own) host).world.renamedBackAfterRemoval =
      gone state := by
    simp [State.did, restoring.quiet.notRenamed, gone]
  refine ⟨⟨by simp [State.did, restoring.quiet.unanswered],
    .inr ⟨restoring.quiet.notStranded, free, fun remains => renamed.trans remains, ?_⟩⟩, free⟩
  intro removed
  rw [own, renamed, show gone state = true from removed]
  simp

theorem ensures_renameBack :
    Ensures ((shell true).command (.rename .parked .own)) state
      (Ends (fun _ left => Over left ∧ asideId left = none) Over) := by
  refine ensures_command (fun _ restoring => restoring.deleteStep) restoring ?_ ?_ ?_ ?_
  · exact fun _ _ restoring acts => restoring.after_rename acts
  · intro later restoring idles
    rcases Option.ne_none_iff_exists'.mp restoring.parked with ⟨id, aside⟩
    rcases Option.map_eq_some_iff.mp aside with ⟨container, parked, _⟩
    have own : later.host.own = none := ownId_eq_none_iff.mp restoring.free
    simp [Command.effect, Host.named, own, parked] at idles
  · exact fun _ _ held => ⟨held.1.deleteStep, by simpa using held.2⟩
  · intro _ later held
    rw [strandIf_of_free held.2]
    exact held.1

end

theorem ensures_start (finished : Over state) (free : asideId state = none) :
    Ensures ((shell true).command (.start .own)) state
      (Ends (fun _ left => Over left ∧ asideId left = none) Over) := by
  have stable (later : State Race) (held : Over later ∧ asideId later = none) :
      Over (deleteStep later) ∧ asideId (deleteStep later) = none :=
    ⟨held.1.deleteStep, by simpa using held.2⟩
  refine ensures_command stable ⟨finished, free⟩ ?_ (fun _ held _ => held) (fun _ => stable) ?_
  · intro later host held acts
    have switches : (Command.start .own).Switches .own := rfl
    rcases ids_did_of_switches switches acts with ⟨own, aside⟩
    have world : (State.did later (.start .own) host).world = later.world := by simp [State.did]
    refine ⟨⟨?_, ?_⟩, aside.trans held.2⟩
    · intro created
      rw [world] at created
      have kept := held.1.kept created
      refine ⟨?_, ?_, ?_⟩
      · rw [world]
        exact kept.ran
      · rw [gone, world, own]
        exact kept.standing
      · rw [gone, world, own]
        exact kept.removed
    · rw [gone, world, own, aside]
      exact held.1.names
  · intro _ later held
    rw [strandIf_of_free held.2]
    exact held.1

theorem ensures_startRestored (finished : Over state) (free : asideId state = none) :
    Ensures (startRestored (shell true)) state fun _ left => Over left := by
  have started := ensures_over ((ensures_start finished free).weaken (fun _ _ held => held.1)
    (fun _ held => held))
  rw [startRestored, ensures_read_bind]
  split
  · refine started.withinTimeout.caught.bind ?_
    exact fun _ _ finished => (ensures_pure _).mpr finished
  · refine started.bind ?_
    exact fun _ _ finished => (ensures_pure _).mpr finished

theorem ensures_removeReplacement (running : Running state) (parked : asideId state ≠ none) :
    Ensures (removeReplacement (shell true)) state
      (Ends (fun _ left => Restoring left) Over) := by
  rw [removeReplacement, ensures_read_bind]
  have stable (later : State Race) (held : Running later ∧ asideId later ≠ none ∧
      later.replacementId = state.replacementId) : Running (deleteStep later) ∧
        asideId (deleteStep later) ≠ none ∧
          (deleteStep later).replacementId = state.replacementId :=
    ⟨Running.lasting.stable later held.1, by simpa using held.2.1, by simpa using held.2.2⟩
  refine ensures_command stable ⟨running, parked, rfl⟩ ?_ ?_
    (fun _ _ restoring => restoring.deleteStep) (fun _ _ restoring => restoring.over_of_raise)
  · intro later host held acts
    rw [← held.2.2] at acts ⊢
    have freed := held.1.removal_acts acts
    refine ⟨held.1.after_removal (removalOf_kind _) freed, ?_⟩
    intro free
    rw [asideId_eq_none_iff] at free
    exact held.2.1 (asideId_eq_none_iff.mpr (freed.2.symm.trans free))
  · intro later held idles
    rw [← held.2.2] at idles
    exact ⟨⟨held.1, held.1.removal_idles idles⟩, held.2.1⟩

theorem ensures_restore (start : Bool) (running : Running state) (parked : asideId state ≠ none) :
    Ensures (restore (shell true) start) state fun _ left => Over left := by
  rw [restore]
  refine (ensures_removeReplacement running parked).bind ?_ (fun _ finished => finished)
    (fun _ absurd => absurd.elim)
  intro _ later restoring
  refine (ensures_renameBack restoring).bind ?_ (fun _ finished => finished)
    (fun _ absurd => absurd.elim)
  intro reported later held
  split
  · exact ensures_startRestored held.1 held.2
  · exact (ensures_pure _).mpr held.1

theorem ensures_aexit_unparked (unparked : state.parkedName = none)
    (finished : Over state) : Ensures (aexit (shell true) error) state fun _ left => Over left := by
  rw [aexit, ensures_read_bind, unparked]
  exact (ensures_pure _).mpr finished

theorem ensures_aexit_replied (replied : Replied state) :
    Ensures (aexit (shell true) error) state fun _ left => Over left := by
  rcases replied.aside with ⟨unparked, free⟩ | ⟨id, parked, aside, known, _, distinct⟩
  · apply ensures_aexit_unparked error unparked
    refine ⟨fun _ => replied.kept, .inr ⟨replied.notStranded, free, fun _ => replied.notRenamed, ?_⟩⟩
    exact fun removed => iff_of_true (replied.kept.removed removed).1 replied.notRenamed
  · have drops : dropsParked error state = true := by simp [dropsParked, replied.up]
    rw [aexit, ensures_read_bind, parked, ensures_read_bind, drops, if_pos rfl]
    apply Ensures.caught
    apply ensures_removeParked known
    refine ⟨replied.notStranded, replied.notRenamed, aside, ?_,
      fun removed => (replied.kept.removed removed).1, fun _ => replied.kept⟩
    intro bears
    cases removed : gone state with
    | true =>
      rw [(replied.kept.removed removed).1] at bears
      cases bears
    | false => exact distinct ((replied.kept.standing removed).symm.trans bears)

theorem Undoable.droppable (undoable : Undoable state) (running : Running state)
    (aside : asideId state = some id) (distinct : state.world.ran ≠ some id) :
    Droppable id state :=
  { undoable, undoable.quiet with
    aside
    distinct := fun bears => distinct (running.mine id bears)
    kept := by simp [undoable.quiet.unanswered] }

theorem ensures_aexit_failed (failed : Failed state) :
    Ensures (aexit (shell true) error) state fun _ left => Over left := by
  rcases failed with undoable | stranded
  · rcases undoable.aside with ⟨unparked, free⟩ | ⟨id, parked, aside, known, _, distinct⟩
    · apply ensures_aexit_unparked error unparked
      refine ⟨by simp [undoable.quiet.unanswered],
        .inr ⟨undoable.quiet.notStranded, free, fun _ => undoable.quiet.notRenamed, ?_⟩⟩
      exact fun removed => iff_of_true (undoable.removed removed) undoable.quiet.notRenamed
    · have running : Running state := by
        rcases undoable.swapped with unparked | running
        · rw [unparked] at parked
          cases parked
        · exact running
      rw [aexit, ensures_read_bind, parked, ensures_read_bind]
      apply Ensures.caught
      split
      · exact ensures_removeParked known (undoable.droppable running aside distinct)
      · exact ensures_restore _ running (by rw [aside]; simp)
  · apply ensures_aexit_unparked error stranded.unparked
    exact ⟨by simp [stranded.unanswered], .inl ⟨stranded.stranded, stranded.parked⟩⟩

theorem Over.answeredFailed (finished : Over state) : Over (State.answeredFailed state) :=
  ⟨by simp [State.answeredFailed], finished.names⟩

theorem ensures_interfere_over (finished : Over state) :
    Ensures interfere state fun _ left => Over left :=
  ensures_over (ensures_interfere (fun _ finished => finished.deleteStep) finished)

theorem ensures_stepsAfterReply (replied : Replied state) :
    Ensures stepsAfterReply state fun _ left => Over left := by
  have stable (later : State Race) (replied : Replied later) : Replied (deleteStep later) :=
    ⟨by simpa using replied.notStranded, by simpa using replied.notRenamed,
      replied.aside.deleteStep, replied.kept.deleteStep, by simpa using replied.up⟩
  have waited : Ensures interfere state (Ends (fun _ left => Replied left) fun _ => False) :=
    ensures_interfere stable replied
  rw [stepsAfterReply]
  refine waited.bind ?_ (fun _ absurd => absurd.elim) (fun _ absurd => absurd.elim)
  intro _ later replied
  have exited : Ensures (choose [aexit (shell true) none, aexit (shell true) (some .other)]) later
      fun _ left => Over left := by
    refine (ensures_choose_pair _ _).mpr ⟨?_, ?_⟩
    · exact ensures_aexit_replied none replied
    · exact ensures_aexit_replied (some .other) replied
  refine exited.bind ?_
  exact fun _ _ finished => ensures_interfere_over finished

theorem ensures_answerFailure (failed : Failed state) :
    Ensures (answerFailure error) state fun _ left => Over left := by
  rw [answerFailure]
  refine (ensures_aexit_failed error failed).bind ?_
  intro _ later finished
  refine (ensures_interfere_over finished).bind ?_
  intro _ later finished
  rw [ensures_modify_bind]
  exact ensures_interfere_over finished.answeredFailed

end Exit

/-! ## The race -/

def entered (host : Host) (bringUp : Bool) (nextId : ℕ) : State Race :=
  { host, bringUp, world := { nextId } }

/-- A node a create can start on: nothing is parked, a first create finds nothing under the
pod's name, and IDs are not reused. -/
structure Startable (request : CreateRequest) (host : Host) (nextId : ℕ) : Prop where
  noneParked : host.parked = none
  first : request.editing = false → host.own = none
  numbered : ∀ container, host.own = some container → container.id < nextId

variable {request : CreateRequest}

theorem Startable.before {nextId : ℕ} (startable : Startable request host nextId) (bringUp : Bool) :
    Before request.editing (entered host bringUp nextId) where
  quiet := ⟨rfl, rfl, rfl, by simp [entered]⟩
  unparked := rfl
  noneAside := asideId_eq_none_iff.mpr startable.noneParked
  noReplacement := rfl
  noneRan := rfl
  removed := by simp [gone, entered, DeletePhase.gone]
  numbered := by
    intro id bears
    rcases Option.map_eq_some_iff.mp bears with ⟨container, own, rfl⟩
    exact startable.numbered container own
  first editing := ownId_eq_none_iff.mpr (startable.first editing)

theorem ensures_createContainer {state : State Race}
    (before : Before request.editing state) :
    Ensures (createContainer request) state fun _ left => Over left := by
  intro final left reached
  rcases List.mem_flatMap.mp reached with ⟨⟨ending, middle⟩, body, continued⟩
  have ended := ensures_createBody request before ending middle body
  cases ending with
  | returned _ => exact ensures_stepsAfterReply ended final left continued
  | raised => exact ensures_answerFailure _ ended final left continued
  | cancelled => exact ended.elim

/-- What a delete that answered `ContainerDeleted` promises. -/
structure Clean (state : State Race) : Prop where
  own : state.host.own = none
  parked : state.host.parked = none
  existed : state.world.answer = some .containerCreated →
    ∃ host container, state.world.hostAtRemoval = some host ∧ host.own = some container ∧
      state.world.ran = some container.id

theorem Kept.existed {state : State Race} (kept : Kept state) (removed : gone state = true) :
    ∃ host container, state.world.hostAtRemoval = some host ∧ host.own = some container ∧
      state.world.ran = some container.id := by
  rcases (kept.removed removed).2 with ⟨host, found, same⟩
  rcases Option.ne_none_iff_exists'.mp kept.ran with ⟨id, ran⟩
  rcases Option.map_eq_some_iff.mp (same.trans ran) with ⟨container, own, identified⟩
  exact ⟨host, container, found, own, by rw [ran, identified]⟩

/-- Once both have ended, a delete that answered leaves the node clean unless the undo's rename back
ran after the forced removal, or a raise left the container parked. -/
theorem delete_beats_create_iff {request : CreateRequest} {host : Host} {nextId : ℕ}
    (startable : Startable request host nextId) (bringUp : Bool) {ending : Ending Unit}
    {left : State Race}
    (ended : (ending, left) ∈ createContainer request (entered host bringUp nextId))
    (answered : left.world.delete = .answered) :
    Clean left ↔
      left.world.renamedBackAfterRemoval = false ∧ left.world.stranded = false := by
  have finished := ensures_createContainer (startable.before bringUp) ending left ended
  have removed : gone left = true := by rw [gone, answered]; rfl
  constructor
  · intro clean
    rcases finished.names with ⟨_, parked⟩ | ⟨safe, _, _, restored⟩
    · exact (parked (asideId_eq_none_iff.mpr clean.parked)).elim
    · exact ⟨(restored removed).mp (ownId_eq_none_iff.mpr clean.own), safe⟩
  · intro undisturbed
    rcases finished.names with ⟨stranded, _⟩ | ⟨_, free, _, restored⟩
    · rw [undisturbed.2] at stranded
      cases stranded
    · refine ⟨ownId_eq_none_iff.mp ((restored removed).mpr undisturbed.1),
        asideId_eq_none_iff.mp free, ?_⟩
      exact fun created => (finished.kept created).existed removed

/-! ## Two runs -/

theorem mem_createContainer_of_raised {state middle left : State Race}
    {ending : Ending Unit} (body : (.raised, middle) ∈ createBody request state)
    (answers : (ending, left) ∈ answerFailure (raisedBy (.raised : Ending Unit) middle) middle) :
    (ending, left) ∈ createContainer request state :=
  List.mem_flatMap.mpr ⟨_, body, answers⟩

def sampleEdit : CreateRequest := { editing := true, filler := false, attempts := 1 }

def sampleStart : State Race := entered { own := some ⟨0, true⟩, parked := none } true 1

def sampleDeleted : State Race :=
  { sampleStart with
    host := { own := none, parked := none }
    world := { delete := .answered, nextId := 1
               hostAtRemoval := some { own := some ⟨0, false⟩, parked := none } } }

def sampleAborted : State Race :=
  { sampleDeleted with
    error := some .cancelledByDelete
    world := { sampleDeleted.world with answer := some .failedContainerRequest } }

theorem sample_delete_beats_create :
    Clean sampleAborted ↔ sampleAborted.world.renamedBackAfterRemoval = false ∧
      sampleAborted.world.stranded = false := by
  have startable : Startable sampleEdit { own := some ⟨0, true⟩, parked := none } 1 :=
    ⟨rfl, by decide, by simp⟩
  have waits : (Ending.returned (), sampleDeleted) ∈ step sampleStart := by decide +kernel
  have looks : (Ending.raised, sampleDeleted.failing .cancelledByDelete) ∈
      abortIfCancelledByDelete false sampleDeleted := by decide +kernel
  have body : (Ending.raised, sampleDeleted.failing .cancelledByDelete) ∈
      createBody sampleEdit sampleStart := mem_bind waits (mem_bind_of_raised looks)
  have answers : (Ending.returned (), sampleAborted) ∈
      answerFailure (some .cancelledByDelete) (sampleDeleted.failing .cancelledByDelete) := by
    decide +kernel
  exact delete_beats_create_iff startable true (mem_createContainer_of_raised body answers) rfl

def sampleParked : State Race :=
  { sampleStart with
    host := { own := none, parked := some ⟨0, false⟩ }
    parkedName := some .parked
    parkedId := some 0 }

def sampleOutlasted : State Race :=
  { sampleParked with
    world := { delete := .answered, nextId := 1, hostAtRemoval := some sampleParked.host } }

def sampleRestored : State Race :=
  { sampleOutlasted with
    host := { own := some ⟨0, true⟩, parked := none }
    world := { sampleOutlasted.world with
      answer := some .failedContainerRequest, renamedBackAfterRemoval := true } }

theorem undo_outlives_delete :
    ∃ ending left, (ending, left) ∈ createContainer sampleEdit sampleStart ∧
      left.world.delete = .answered ∧ ¬ Clean left := by
  have waits : (Ending.returned (), sampleStart) ∈ step sampleStart := by decide +kernel
  have looks : (Ending.returned (), sampleStart) ∈ abortIfCancelledByDelete false sampleStart := by
    decide +kernel
  have pulls : (Ending.returned (), sampleStart) ∈ unlessCancelledByDelete false sampleStart := by
    decide +kernel
  have parks : (Ending.returned (), sampleParked) ∈ parkIfEditing true false sampleStart := by
    decide +kernel
  have fails : (Ending.raised, sampleOutlasted) ∈ step sampleParked := by decide +kernel
  have body : (Ending.raised, sampleOutlasted) ∈ createBody sampleEdit sampleStart :=
    mem_bind waits (mem_bind looks (mem_bind pulls (mem_bind parks (mem_bind_of_raised fails))))
  have answers : (Ending.returned (), sampleRestored) ∈
      answerFailure (some .other) sampleOutlasted := by decide +kernel
  refine ⟨_, sampleRestored, mem_createContainer_of_raised body answers, rfl, ?_⟩
  intro clean
  cases clean.own

end Lium.DeleteRace
