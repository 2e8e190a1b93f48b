import Lium.Validator.RaceRules

/-! # The create up to its `docker run`

What holds at each point of a create, whatever the delete does meanwhile: before anything is
parked, with the pod's name free for a replacement, and after a failure. Cleaning up and
parking lead from one to the other.
-/

namespace Lium.DeleteRace

open Coroutine EditSwap

/-! ## What holds along a create -/

variable {host : Host} {command : Command}

section Facts

variable {state : State Race}

structure Quiet (state : State Race) : Prop where
  notStranded : state.world.stranded = false
  notRenamed : state.world.renamedBackAfterRemoval = false
  unanswered : state.world.answer = none
  named : state.error ≠ some .sameNameContainerKept

/-- What is parked is what the swap set aside, and this create did not run it. -/
def Aside (state : State Race) : Prop :=
  (state.parkedName = none ∧ asideId state = none) ∨
    ∃ id, state.parkedName = some .parked ∧ asideId state = some id ∧
      state.parkedId = some id ∧ id < state.world.nextId ∧ state.world.ran ≠ some id

theorem Quiet.deleteStep (quiet : Quiet state) : Quiet (deleteStep state) :=
  ⟨by simpa using quiet.notStranded, by simpa using quiet.notRenamed,
    by simpa using quiet.unanswered, by simpa using quiet.named⟩

theorem Quiet.failing {error : CreateError} (quiet : Quiet state)
    (named : error ≠ .sameNameContainerKept) : Quiet (state.failing error) :=
  { quiet with named := by simpa [State.failing] using named }

theorem Quiet.did (quiet : Quiet state) (forward : command ≠ .rename .parked .own) :
    Quiet (State.did state command host) :=
  { quiet with notRenamed := by simp [State.did, forward, quiet.notRenamed] }

theorem Aside.deleteStep (aside : Aside state) : Aside (deleteStep state) := by
  simpa [Aside] using aside

theorem asideId_eq_none_iff : asideId state = none ↔ state.host.parked = none := by
  simp [asideId]

theorem ownId_eq_none_iff : ownId state = none ↔ state.host.own = none := by
  simp [ownId]

theorem strandIf_of_free {undo : Bool} (free : asideId state = none) :
    State.strandIf state undo = state := by
  rw [asideId_eq_none_iff] at free
  simp [State.strandIf, free]

theorem Aside.known (aside : Aside state) : State.strandIf state false = state := by
  rcases aside with ⟨_, free⟩ | ⟨id, parked, _⟩
  · exact strandIf_of_free free
  · have known : state.parkedName.isNone = false := by rw [parked]; rfl
    simp [State.strandIf, known]

/-- What bears the pod's name is this create's container. -/
structure Running (state : State Race) : Prop where
  quiet : Quiet state
  aside : Aside state
  mine : ∀ id, ownId state = some id → state.world.ran = some id
  replaced : state.replacementId = none ∨ state.replacementId = state.world.ran

theorem Running.lasting : Lasting Running where
  stable state running := ⟨running.quiet.deleteStep, running.aside.deleteStep,
    fun id bears => by simpa using running.mine id (ownId_deleteStep state bears),
    by simpa using running.replaced⟩
  failing _ _ named running := { running with quiet := running.quiet.failing named }
  known _ running := running.aside.known

/-- The name is free for a replacement. -/
structure Ready (state : State Race) : Prop extends Running state where
  free : ownId state = none
  noReplacement : state.replacementId = none

theorem Ready.lasting : Lasting Ready where
  stable state ready := ⟨Running.lasting.stable state ready.toRunning,
    ownId_deleteStep_of_none state ready.free, by simpa using ready.noReplacement⟩
  failing _ _ named ready := { ready with quiet := ready.quiet.failing named }
  known _ ready := ready.aside.known

/-- The failed create has cleaned up after itself. -/
structure Cleared (state : State Race) : Prop extends Running state where
  free : ownId state = none

theorem Cleared.lasting : Lasting Cleared where
  stable state cleared := ⟨Running.lasting.stable state cleared.toRunning,
    ownId_deleteStep_of_none state cleared.free⟩
  failing _ _ named cleared := { cleared with quiet := cleared.quiet.failing named }
  known _ cleared := cleared.aside.known

structure Started (state : State Race) : Prop extends Running state where
  ran : state.world.ran ≠ none
  standing : gone state = false → ownId state = state.world.ran

theorem Started.lasting : Lasting Started where
  stable state started := ⟨Running.lasting.stable state started.toRunning,
    by simpa using started.ran, standing_deleteStep state started.standing⟩
  failing _ _ named started := { started with quiet := started.quiet.failing named }
  known _ started := started.aside.known

/-- The forced removal found the create's container, or will. -/
structure Kept (state : State Race) : Prop where
  ran : state.world.ran ≠ none
  standing : gone state = false → ownId state = state.world.ran
  removed : gone state = true → ownId state = none ∧
    ∃ host, state.world.hostAtRemoval = some host ∧
      host.own.map Container.id = state.world.ran

theorem Kept.deleteStep (kept : Kept state) : Kept (deleteStep state) := by
  refine ⟨by simpa using kept.ran, standing_deleteStep state kept.standing, ?_⟩
  rcases deleteStep_cases state with ⟨same, names, found⟩ | ⟨before, _, freed, found⟩
  · simpa [same, names, found] using kept.removed
  · intro _
    refine ⟨freed, state.host, found, ?_⟩
    simp only [deleteStep_kept]
    exact kept.standing before

structure Passed (state : State Race) : Prop extends Running state where
  kept : Kept state

theorem Passed.lasting : Lasting Passed where
  stable state passed := ⟨Running.lasting.stable state passed.toRunning, passed.kept.deleteStep⟩
  failing _ _ named passed :=
    { passed with quiet := passed.quiet.failing named, kept := { passed.kept with } }
  known _ passed := passed.aside.known

theorem Started.passed (started : Started state) (unflagged : state.world.delete = .idle) :
    Passed state := by
  have remains : gone state = false := by rw [gone, unflagged]; rfl
  refine ⟨started.toRunning, started.ran, started.standing, ?_⟩
  intro removed
  rw [remains] at removed
  cases removed

structure Before (editing : Bool) (state : State Race) : Prop where
  quiet : Quiet state
  unparked : state.parkedName = none
  noneAside : asideId state = none
  noReplacement : state.replacementId = none
  noneRan : state.world.ran = none
  removed : gone state = true → ownId state = none
  numbered : ∀ id, ownId state = some id → id < state.world.nextId
  first : editing = false → ownId state = none

theorem Before.lasting (editing : Bool) : Lasting (Before editing) where
  stable state before := by
    refine ⟨before.quiet.deleteStep, by simpa using before.unparked,
      by simpa using before.noneAside, by simpa using before.noReplacement,
      by simpa using before.noneRan, removed_deleteStep state before.removed, ?_, ?_⟩
    · intro id bears
      simpa using before.numbered id (ownId_deleteStep state bears)
    · exact fun first => ownId_deleteStep_of_none state (before.first first)
  failing _ _ named before := { before with quiet := before.quiet.failing named }
  known _ before := strandIf_of_free before.noneAside

theorem Before.ready {editing : Bool} (before : Before editing state)
    (free : ownId state = none) : Ready state where
  quiet := before.quiet
  aside := .inl ⟨before.unparked, before.noneAside⟩
  mine := by simp [free]
  replaced := .inl before.noReplacement
  free := free
  noReplacement := before.noReplacement

/-- A failed body whose swap knows where its container is. -/
structure Undoable (state : State Race) : Prop where
  quiet : Quiet state
  aside : Aside state
  removed : gone state = true → ownId state = none
  swapped : state.parkedName = none ∨ Running state

/-- A failed body whose swap does not. -/
structure Stranded (state : State Race) : Prop where
  stranded : state.world.stranded = true
  parked : asideId state ≠ none
  unparked : state.parkedName = none
  unanswered : state.world.answer = none

def Failed (state : State Race) : Prop := Undoable state ∨ Stranded state

theorem Before.failed {editing : Bool} (before : Before editing state) : Failed state :=
  .inl ⟨before.quiet, .inl ⟨before.unparked, before.noneAside⟩, before.removed,
    .inl before.unparked⟩

theorem Cleared.failed (cleared : Cleared state) : Failed state :=
  .inl ⟨cleared.quiet, cleared.aside, fun _ => cleared.free, .inr cleared.toRunning⟩

theorem Ready.failed (ready : Ready state) : Failed state :=
  Cleared.failed ⟨ready.toRunning, ready.free⟩

theorem Passed.failed (passed : Passed state) : Failed state :=
  .inl ⟨passed.quiet, passed.aside, fun removed => (passed.kept.removed removed).1,
    .inr passed.toRunning⟩

end Facts

/-! ## Cleaning up -/

section Cleaning

variable {state : State Race}

theorem effect_removeOwn {left : Host} (acts : (Command.remove .own).effect host = some left) :
    left.own = none ∧ left.parked = host.parked := by
  rw [effect_remove acts]
  exact ⟨rfl, rfl⟩

theorem own_eq_none_of_idle (idles : (Command.remove .own).effect host = none) :
    host.own = none := by
  simpa [Command.effect, Host.named] using idles

theorem Running.removal_acts (running : Running state)
    (acts : (removalOf state.replacementId).effect state.host = some host) :
    host.own = none ∧ host.parked = state.host.parked := by
  cases replaced : state.replacementId with
  | none =>
    rw [replaced] at acts
    exact effect_removeOwn acts
  | some id =>
    rw [replaced] at acts
    have other : ∀ container, state.host.parked = some container → container.id ≠ id := by
      intro container parked same
      rcases running.aside with ⟨_, free⟩ | ⟨aside, _, parkedAs, _, _, distinct⟩
      · rw [asideId_eq_none_iff, parked] at free
        cases free
      · rcases running.replaced with none | ran
        · rw [none] at replaced
          cases replaced
        · rw [asideId, parked, Option.map_some, same] at parkedAs
          exact distinct (by rw [← ran, replaced, parkedAs])
    rw [effect_removeId_parked acts other]
    exact ⟨rfl, rfl⟩

theorem Running.removal_idles (running : Running state)
    (idles : (removalOf state.replacementId).effect state.host = none) :
    ownId state = none := by
  cases replaced : state.replacementId with
  | none =>
    rw [replaced] at idles
    exact ownId_eq_none_iff.mpr (own_eq_none_of_idle idles)
  | some id =>
    cases bears : ownId state with
    | none => rfl
    | some mine =>
      have same : mine = id := by
        rcases running.replaced with none | ran
        · rw [none] at replaced
          cases replaced
        · rw [replaced, running.mine mine bears] at ran
          exact (Option.some.inj ran).symm
      rcases Option.map_eq_some_iff.mp bears with ⟨container, own, identified⟩
      rw [replaced] at idles
      simp [removalOf, Command.effect, own, identified, same] at idles

theorem Running.after_removal (running : Running state)
    (kind : command = .remove .own ∨ ∃ id, command = .removeId id)
    (freed : host.own = none ∧ host.parked = state.host.parked) :
    Cleared (State.did state command host) := by
  have renames : command ≠ .rename .parked .own := by
    rcases kind with rfl | ⟨id, rfl⟩ <;> simp
  have ran : (State.did state command host).world.ran = state.world.ran := by
    rcases kind with rfl | ⟨id, rfl⟩ <;> rfl
  have aside : asideId (State.did state command host) = asideId state := by
    rw [asideId, asideId, ← freed.2]
    rfl
  have free : ownId (State.did state command host) = none := ownId_eq_none_iff.mpr freed.1
  refine ⟨⟨running.quiet.did renames, ?_, by simp [free], ?_⟩, free⟩
  · rw [Aside, aside, ran]
    exact running.aside
  · rw [ran]
    exact running.replaced

theorem removalOf_kind (id : Option ℕ) :
    removalOf id = .remove .own ∨ ∃ removed, removalOf id = .removeId removed := by
  cases id with
  | none => exact .inl rfl
  | some removed => exact .inr ⟨removed, rfl⟩

theorem Running.clears : Clears Running :=
  fun _ _ running acts =>
    (running.after_removal (.inl rfl) (effect_removeOwn acts)).toRunning

theorem Cleared.clears : Clears Cleared :=
  fun _ _ cleared acts => cleared.toRunning.after_removal (.inl rfl) (effect_removeOwn acts)

theorem Ready.clears : Clears Ready :=
  fun _ _ ready acts =>
    have cleared := ready.toRunning.after_removal (.inl rfl) (effect_removeOwn acts)
    ⟨cleared.toRunning, cleared.free, ready.noReplacement⟩

theorem Before.clears (editing : Bool) : Clears (Before editing) := by
  intro state host before acts
  rcases effect_removeOwn acts with ⟨own, parked⟩
  have free : ownId (State.did state (.remove .own) host) = none := ownId_eq_none_iff.mpr own
  have aside : asideId (State.did state (.remove .own) host) = none :=
    asideId_eq_none_iff.mpr (parked.trans (asideId_eq_none_iff.mp before.noneAside))
  exact
    { before with
      quiet := before.quiet.did (by simp), noneAside := aside, removed := fun _ => free
      numbered := by simp [free], first := fun _ => free }

theorem ensures_cleanup {raised : State Race → Prop} (running : Running state) :
    Ensures (cleanupFailedContainerCreation state.replacementId false) state
      (Ends (fun _ left => Cleared left) raised) := by
  rw [cleanupFailedContainerCreation, if_neg (by decide)]
  have removed : Ensures ((shell false).command (removalOf state.replacementId)) state
      (Ends (fun _ left => Cleared left) Cleared) := by
    have stable (later : State Race)
        (held : Running later ∧ later.replacementId = state.replacementId) :
        Running (deleteStep later) ∧
          (deleteStep later).replacementId = state.replacementId :=
      ⟨Running.lasting.stable later held.1, by simpa using held.2⟩
    refine ensures_command stable ⟨running, rfl⟩ ?_ ?_ (fun _ => Cleared.lasting.stable)
      (fun _ _ cleared => Cleared.lasting.strandIf cleared)
    · intro later host held acts
      rw [← held.2] at acts ⊢
      exact held.1.after_removal (removalOf_kind _) (held.1.removal_acts acts)
    · intro later held idles
      rw [← held.2] at idles
      exact ⟨held.1, held.1.removal_idles idles⟩
  exact removed.swallowed

end Cleaning

/-! ## Parking -/

section Parking

variable {state : State Race}

structure Moved (id : ℕ) (state : State Race) : Prop where
  quiet : Quiet state
  unparked : state.parkedName = none
  aside : asideId state = some id
  noReplacement : state.replacementId = none
  noneRan : state.world.ran = none
  free : ownId state = none
  numbered : id < state.world.nextId

variable {id : ℕ}

theorem Moved.deleteStep (moved : Moved id state) : Moved id (deleteStep state) :=
  ⟨moved.quiet.deleteStep, by simpa using moved.unparked, by simpa using moved.aside,
    by simpa using moved.noReplacement, by simpa using moved.noneRan,
    ownId_deleteStep_of_none state moved.free, by simpa using moved.numbered⟩

theorem Moved.ready (moved : Moved id state) : Ready (state.parkedAs id) where
  quiet := { moved.quiet with }
  aside := .inr ⟨id, rfl, moved.aside, rfl, moved.numbered, by
    rw [show (state.parkedAs id).world.ran = none from moved.noneRan]
    simp⟩
  mine := by
    intro other bears
    rw [show ownId (state.parkedAs id) = none from moved.free] at bears
    cases bears
  replaced := .inl moved.noReplacement
  free := moved.free
  noReplacement := moved.noReplacement

theorem Moved.stranded (moved : Moved id state) :
    Stranded (State.strandIf state false) where
  stranded := by
    rcases Option.map_eq_some_iff.mp moved.aside with ⟨container, parked, _⟩
    simp [State.strandIf, parked, moved.unparked]
  parked := by
    rw [show asideId (State.strandIf state false) = asideId state from rfl, moved.aside]
    simp
  unparked := moved.unparked
  unanswered := moved.quiet.unanswered

def Listed (listed : Option ℕ) (state : State Race) : Prop :=
  Before true state ∧ (ownId state = listed ∨ ownId state = none)

theorem Listed.deleteStep {listed : Option ℕ} (known : Listed listed state) :
    Listed listed (deleteStep state) := by
  refine ⟨(Before.lasting true).stable state known.1, ?_⟩
  rcases deleteStep_cases state with ⟨_, names, _⟩ | ⟨_, _, freed, _⟩
  · rw [names]
    exact known.2
  · exact .inr freed

theorem Listed.moved (known : Listed (some id) state)
    (acts : (Command.rename .own .parked).effect state.host = some host) :
    Moved id (State.did state (.rename .own .parked) host) := by
  rcases effect_rename acts with ⟨container, own, _, left⟩
  have bears : ownId state = some container.id := by
    simp only [Host.named] at own
    simp [ownId, own]
  have identified : container.id = id := by
    rcases known.2 with same | free
    · exact Option.some.inj (bears.symm.trans same)
    · rw [bears] at free
      cases free
  refine
    { known.1 with quiet := known.1.quiet.did (by simp), aside := ?_, free := ?_, numbered := ?_ }
  · simp [asideId, State.did, left, Host.put, identified]
  · simp [ownId, State.did, left, Host.put]
  · rw [← identified]
    exact known.1.numbered _ bears

theorem Ready.after_stop (ready : Ready state)
    (acts : (Command.stop .parked).effect state.host = some host) :
    Ready (State.did state (.stop .parked) host) := by
  have switches : (Command.stop .parked).Switches .parked := rfl
  rcases ids_did_of_switches switches acts with ⟨own, aside⟩
  refine
    { ready with
      quiet := ready.quiet.did (by simp), aside := ?_, mine := by simp [own, ready.free]
      free := own.trans ready.free }
  rw [Aside, aside]
  exact ready.aside

theorem ensures_stop (ready : Ready state) (parked : asideId state ≠ none) :
    Ensures ((shell false).command (.stop .parked)) state
      (Ends (fun reported left => reported = true ∧ Ready left) Ready) := by
  have stable (later : State Race) (held : Ready later ∧ asideId later ≠ none) :
      Ready (deleteStep later) ∧ asideId (deleteStep later) ≠ none :=
    ⟨Ready.lasting.stable later held.1, by simpa using held.2⟩
  refine ensures_command stable ⟨ready, parked⟩ ?_ ?_ ?_
    (fun _ _ held => Ready.lasting.strandIf held.2)
  · exact fun later host held acts => ⟨rfl, held.1.after_stop acts⟩
  · intro later held idles
    have free : later.host.parked = none := by
      simpa [Command.effect, Host.named] using idles
    exact (held.2 (asideId_eq_none_iff.mpr free)).elim
  · exact fun _ later held => ⟨held.1, Ready.lasting.stable later held.2⟩

theorem ensures_parkContainer (known : Listed (some id) state) :
    Ensures (parkContainer (shell false) id) state (Ends (fun _ left => Ready left) Failed) := by
  rw [parkContainer]
  have renamed : Ensures ((shell false).command (.rename .own .parked)) state
      (Ends (fun reported left => if reported then Moved id left else Before true left)
        Failed) := by
    refine ensures_command (fun _ known => known.deleteStep) known ?_ ?_ ?_ ?_
    · exact fun _ _ known acts => known.moved acts
    · exact fun _ known _ => known.1
    · intro reported later held
      cases reported with
      | true => exact Moved.deleteStep held
      | false => exact (Before.lasting true).stable later held
    · intro reported later held
      cases reported with
      | true => exact .inr (Moved.stranded held)
      | false => exact Before.failed ((Before.lasting true).strandIf held)
  refine renamed.andThen ?_
  intro reported left held
  cases reported with
  | false =>
    refine (ensures_fail (Before.lasting true) (by decide) held).weaken (fun _ _ ready => ready) ?_
    exact fun _ before => before.failed
  | true =>
    rw [if_pos rfl, ensures_modify_bind]
    have ready : Ready (left.parkedAs id) := Moved.ready held
    have parked : asideId (left.parkedAs id) ≠ none := by
      rw [show asideId (left.parkedAs id) = some id from held.aside]
      simp
    have stopped := (ensures_stop ready parked).raising (fun _ ready => ready.failed)
    refine stopped.andThen ?_
    intro stopped last held
    rcases held with ⟨rfl, ready⟩
    exact (ensures_pure _).mpr ready

theorem ensures_park (before : Before true state) :
    Ensures (park (shell false)) state (Ends (fun _ left => Ready left) Failed) := by
  rw [park]
  have listed : Ensures (shell false).look state (Ends (fun seen left => ∃ host, seen = some host ∧
      (Listed (host.own.map Container.id) left ∧ host.parked = none)) Failed) := by
    refine ensures_look (Before.lasting true).stable before ?_ ?_ ?_
    · exact fun later before => ⟨⟨before, .inl rfl⟩, asideId_eq_none_iff.mp before.noneAside⟩
    · exact fun _ _ held => ⟨held.1.deleteStep, held.2⟩
    · exact fun _ _ held => held.1.1.failed
  refine listed.andThen ?_
  intro seen left held
  rcases held with ⟨⟨own, parked⟩, rfl, known, free⟩
  cases free
  cases own with
  | none =>
    have free : ownId left = none := by
      rcases known.2 with same | free
      · exact same
      · exact free
    exact (ensures_pure _).mpr (known.1.ready free)
  | some container => exact ensures_parkContainer known

end Parking

end Lium.DeleteRace
