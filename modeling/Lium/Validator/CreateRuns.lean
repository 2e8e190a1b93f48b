import Lium.Validator.CreateParks

/-! # The create from its `docker run` on

The run and its repetitions, the bootstrap with the last look at the flag, and from them the
body of the create as a whole: it returns with its container standing or removed by the
delete's own hand, or it fails with nothing of its own left.
-/

namespace Lium.DeleteRace

open Coroutine EditSwap

variable (filler : Bool) {id : ℕ}

/-! ## Running the replacement -/

section Replacing

variable {state : State Race}

structure Unclaimed (state : State Race) : Prop extends Running state where
  noReplacement : state.replacementId = none

theorem Unclaimed.lasting : Lasting Unclaimed where
  stable state unclaimed := ⟨Running.lasting.stable state unclaimed.toRunning,
    by simpa using unclaimed.noReplacement⟩
  failing _ _ named unclaimed := { unclaimed with quiet := unclaimed.quiet.failing named }
  known _ unclaimed := unclaimed.aside.known

theorem Unclaimed.clears : Clears Unclaimed :=
  fun state host unclaimed acts =>
    ⟨Running.clears state host unclaimed.toRunning acts, unclaimed.noReplacement⟩

structure Numbered (id : ℕ) (state : State Race) : Prop extends Ready state where
  bound : id < state.world.nextId
  fresh : asideId state ≠ some id

theorem Numbered.deleteStep (numbered : Numbered id state) :
    Numbered id (deleteStep state) :=
  ⟨Ready.lasting.stable state numbered.toReady, by simpa using numbered.bound,
    by simpa using numbered.fresh⟩

theorem Ready.numbered (ready : Ready state) :
    Numbered state.world.nextId (State.numbered state) := by
  have aside : Aside (State.numbered state) := by
    rcases ready.aside with none | ⟨id, parked, named, known, bound, distinct⟩
    · exact .inl none
    · exact .inr ⟨id, parked, named, known, Nat.lt_succ_of_lt bound, distinct⟩
  refine
    { ready with
      quiet := { ready.quiet with }, aside, bound := Nat.lt_succ_self _, fresh := ?_ }
  intro same
  rcases ready.aside with ⟨_, free⟩ | ⟨id, _, named, _, bound, _⟩
  · rw [show asideId (State.numbered state) = asideId state from rfl, free] at same
    cases same
  · rw [show asideId (State.numbered state) = asideId state from rfl, named] at same
    cases same
    exact Nat.lt_irrefl _ bound

structure StartedAs (id : ℕ) (state : State Race) : Prop extends Started state where
  noReplacement : state.replacementId = none
  identified : state.world.ran = some id

theorem StartedAs.deleteStep (started : StartedAs id state) :
    StartedAs id (deleteStep state) :=
  ⟨Started.lasting.stable state started.toStarted, by simpa using started.noReplacement,
    by simpa using started.identified⟩

theorem Numbered.after_run {host : Host} (numbered : Numbered id state)
    (acts : (Command.run id).effect state.host = some host) :
    StartedAs id (State.did state (.run id) host) := by
  have left : host = state.host.put (some ⟨id, true⟩) .own := by
    simp only [Command.effect] at acts
    split at acts
    · exact (Option.some.inj acts).symm
    · cases acts
  have own : ownId (State.did state (.run id) host) = some id := by
    simp [ownId, State.did, left, Host.put]
  have aside : Aside (State.did state (.run id) host) := by
    have same : asideId (State.did state (.run id) host) = asideId state := by
      simp [asideId, State.did, left, Host.put]
    rcases numbered.aside with ⟨unparked, free⟩ | ⟨parkedId, parked, named, known, bound, _⟩
    · exact .inl ⟨unparked, same.trans free⟩
    · refine .inr ⟨parkedId, parked, same.trans named, known, bound, ?_⟩
      intro equal
      cases equal
      exact numbered.fresh named
  refine ⟨⟨⟨numbered.quiet.did (by simp), aside, ?_, .inl numbered.noReplacement⟩,
    by simp [State.did], fun _ => own⟩, numbered.noReplacement, rfl⟩
  intro other bears
  rw [own] at bears
  exact bears

theorem ensures_runContainer {raised : State Race → Prop} (numbered : Numbered id state) :
    Ensures (runContainer id) state (Ends (fun ran left =>
      (ran = some true ∧ StartedAs id left) ∨ (ran = none ∧ Unclaimed left)) raised) := by
  have ran : Ensures ((shell false).command (.run id)) state
      (Ends (fun reported left => reported = true ∧ StartedAs id left) Unclaimed) := by
    refine ensures_command (fun _ numbered => numbered.deleteStep) numbered ?_ ?_ ?_ ?_
    · exact fun _ _ numbered acts => ⟨rfl, numbered.after_run acts⟩
    · intro later numbered idles
      have own : later.host.own = none := ownId_eq_none_iff.mp numbered.free
      simp [Command.effect, own] at idles
    · exact fun _ _ held => ⟨held.1, held.2.deleteStep⟩
    · exact fun _ _ held => Unclaimed.lasting.strandIf ⟨held.2.toRunning, held.2.noReplacement⟩
  apply Ensures.handled
  · refine ran.andThen ?_
    intro reported left held
    exact (ensures_pure _).mpr (.inl ⟨by rw [held.1], held.2⟩)
  · exact fun _ unclaimed => (ensures_pure _).mpr (.inr ⟨rfl, unclaimed⟩)

theorem ensures_removeForRetry {raised : State Race → Prop} (unclaimed : Unclaimed state) :
    Ensures removeForRetry state (Ends (fun _ left => Ready left) raised) := by
  have removed : Ensures ((shell false).command (.remove .own)) state
      (Ends (fun _ left => Ready left) Ready) := by
    refine ensures_command Unclaimed.lasting.stable unclaimed ?_ ?_
      (fun _ => Ready.lasting.stable) (fun _ _ ready => Ready.lasting.strandIf ready)
    · intro later host unclaimed acts
      have cleared := unclaimed.toRunning.after_removal (.inl rfl) (effect_removeOwn acts)
      exact ⟨cleared.toRunning, cleared.free, unclaimed.noReplacement⟩
    · intro later unclaimed idles
      exact ⟨unclaimed.toRunning, ownId_eq_none_iff.mpr (own_eq_none_of_idle idles),
        unclaimed.noReplacement⟩
  exact removed.swallowed

theorem ensures_mayAbort {holds : State Race → Prop} (lasting : Lasting holds)
    (clears : Clears holds) (held : holds state) :
    Ensures (choose [pure (), abortIfCancelledByDelete filler]) state
      (Ends (fun _ left => holds left) holds) := by
  refine (ensures_choose_pair _ _).mpr ⟨?_, ?_⟩
  · exact (ensures_pure _).mpr held
  · refine (ensures_abortIfCancelledByDelete filler lasting clears (fun _ held => held)
      held).weaken ?_ (fun _ held => held)
    exact fun _ _ held => held.1

def Answers (id : Option ℕ) (state : State Race) : Prop :=
  Started state ∧ state.replacementId = none ∧ (id = none ∨ id = state.world.ran)

theorem ensures_runAttempts (attempts : ℕ) (ready : Ready state) :
    Ensures (runAttempts filler attempts) state (Ends Answers Running) := by
  induction attempts generalizing state with
  | zero => exact ensures_raise.mpr ready.toRunning
  | succ attempts induction =>
    rw [runAttempts, ensures_read_bind, ensures_modify_bind]
    refine (ensures_runContainer ready.numbered).andThen ?_
    intro ran left held
    rcases held with ⟨rfl, started⟩ | ⟨rfl, unclaimed⟩
    · rw [if_pos rfl, ensures_choose_pair]
      constructor
      · exact (ensures_pure _).mpr ⟨started.toStarted, started.noReplacement,
          .inr started.identified.symm⟩
      · exact (ensures_pure _).mpr ⟨started.toStarted, started.noReplacement, .inl rfl⟩
    · rw [if_neg (by decide), if_neg (by decide), ensures_choose_pair]
      constructor
      · exact ensures_raise.mpr unclaimed.toRunning
      · -- what the failed run left goes before the run is repeated
        have looked := (ensures_mayAbort filler Unclaimed.lasting Unclaimed.clears
          unclaimed).raising (fun _ held => held.toRunning)
        refine looked.andThen ?_
        intro _ later unclaimed
        refine (ensures_removeForRetry unclaimed).andThen ?_
        intro _ later ready
        have looked := (ensures_mayAbort filler Ready.lasting Ready.clears ready).raising
          (fun _ held => held.toRunning)
        refine looked.andThen ?_
        exact fun _ _ ready => induction ready

theorem Answers.replaced {id : Option ℕ} (answers : Answers id state) :
    Started (State.replacedBy state id) :=
  { answers.1 with quiet := { answers.1.quiet with }, replaced := answers.2.2 }

theorem ensures_runReplacement (attempts : ℕ) (ready : Ready state) :
    Ensures (runReplacement filler attempts) state
      (Ends (fun _ left => Started left) Running) := by
  rw [runReplacement]
  have stepped {state : State Race} (ready : Ready state) :=
    (ensures_step Ready.lasting ready).raising (fun _ held => held.toRunning)
  refine (stepped ready).andThen ?_
  intro _ later ready
  have looked := ensures_abortIfCancelledByDelete filler Running.lasting Running.clears
    (fun _ (held : Ready _) => held.toRunning) ready
  refine looked.andThen ?_
  intro _ later held
  refine (stepped held.1).andThen ?_
  intro _ later ready
  refine (ensures_runAttempts filler attempts ready).andThen ?_
  intro id later answers
  rw [ensures_modify_bind]
  exact (ensures_step Started.lasting answers.replaced).raising (fun _ held => held.toRunning)

variable {returned : Unit → State Race → Prop}

theorem ensures_runFailed (running : Running state) :
    Ensures runFailed state (Ends returned Failed) := by
  rw [runFailed, ensures_read_bind, ensures_read_bind, decide_eq_false running.quiet.named]
  refine (ensures_cleanup running).andThen ?_
  intro _ left cleared
  exact (ensures_reraise Cleared.lasting cleared).raising (fun _ held => held.failed)

theorem ensures_bootstrap (started : Started state) :
    Ensures (bootstrap filler) state (Ends (fun _ left => Passed left) Running) := by
  rw [bootstrap]
  have stepped := (ensures_step Started.lasting started).raising (fun _ held => held.toRunning)
  refine stepped.andThen ?_
  intro _ later started
  have looked := ensures_abortIfCancelledByDelete filler Running.lasting Running.clears
    (fun _ (held : Started _) => held.toRunning) started
  refine looked.andThen ?_
  intro _ later held
  exact (ensures_step Passed.lasting (held.1.passed held.2)).raising (fun _ held => held.toRunning)

theorem ensures_bootstrapFailed
    (running : Running state) :
    Ensures (bootstrapFailed filler) state (Ends returned Failed) := by
  rw [bootstrapFailed, ensures_read_bind]
  refine (ensures_cleanup running).andThen ?_
  intro _ later cleared
  rw [ensures_read_bind]
  have reraised {later : State Race} (cleared : Cleared later) :
      Ensures (reraise : Coroutine (State Race) Unit) later (Ends returned Failed) :=
    (ensures_reraise Cleared.lasting cleared).raising (fun _ held => held.failed)
  split
  · have looked := (ensures_abortIfCancelledByDelete filler Cleared.lasting Cleared.clears
      (fun _ (held : Cleared _) => held) cleared).raising (fun _ held => held.failed)
    refine looked.andThen ?_
    exact fun _ _ held => reraised held.1
  · exact reraised cleared

end Replacing

/-! ## The create's body -/

section Body

variable {state : State Race}

/-- The create has answered, and what it parked is still to be removed. -/
structure Replied (state : State Race) : Prop where
  notStranded : state.world.stranded = false
  notRenamed : state.world.renamedBackAfterRemoval = false
  aside : Aside state
  kept : Kept state
  up : state.replacementIsUp = true

theorem Passed.replied (passed : Passed state) : Replied (State.replied state) :=
  { passed, passed.quiet with kept := { passed.kept with }, up := rfl }

theorem ensures_cleanExistingContainers (ready : Ready state) :
    Ensures cleanExistingContainers state (Ends (fun _ left => Ready left) Failed) := by
  rw [cleanExistingContainers]
  have listed : Ensures (shell false).look state (Ends (fun seen left => ∃ host,
      seen = some host ∧ (Ready left ∧ host.own = none)) Failed) := by
    refine ensures_look Ready.lasting.stable ready ?_ ?_ ?_
    · exact fun _ ready => ⟨ready, ownId_eq_none_iff.mp ready.free⟩
    · exact fun _ later held => ⟨Ready.lasting.stable later held.1, held.2⟩
    · exact fun _ _ held => held.1.failed
  refine listed.andThen ?_
  intro seen left held
  rcases held with ⟨⟨own, parked⟩, rfl, ready, free⟩
  cases free
  exact (ensures_pure _).mpr ready

theorem ensures_parkIfEditing (editing filler : Bool) (before : Before editing state) :
    Ensures (parkIfEditing editing filler) state (Ends (fun _ left => Ready left) Failed) := by
  rw [parkIfEditing]
  cases editing with
  | false => exact (ensures_pure _).mpr (before.ready (before.first rfl))
  | true =>
    rw [if_pos rfl]
    have stepped := (ensures_step (Before.lasting true) before).raising (fun _ held => held.failed)
    refine stepped.andThen ?_
    intro _ later before
    have looked := (ensures_abortIfCancelledByDelete filler (Before.lasting true)
      (Before.clears true) (fun _ (held : Before true _) => held) before).raising
        (fun _ held => held.failed)
    refine looked.andThen ?_
    intro _ later held
    refine (ensures_park held.1).andThen ?_
    exact fun _ _ ready => (ensures_pure _).mpr ready

theorem ensures_createBody (request : CreateRequest) (before : Before request.editing state) :
    Ensures (createBody request) state (Ends (fun _ left => Replied left) Failed) := by
  rw [createBody]
  have waits {state : State Race} (before : Before request.editing state) :=
    (ensures_step (Before.lasting request.editing) before).raising (fun _ held => held.failed)
  have readies {state : State Race} (ready : Ready state) :=
    (ensures_step Ready.lasting ready).raising (fun _ held => held.failed)
  refine (waits before).andThen ?_
  intro _ later before
  have looked := (ensures_abortIfCancelledByDelete request.filler
    (Before.lasting request.editing) (Before.clears request.editing)
    (fun _ (held : Before request.editing _) => held) before).raising (fun _ held => held.failed)
  refine looked.andThen ?_
  intro _ later held
  have pulled : Ensures (unlessCancelledByDelete request.filler) later
      (Ends (fun _ left => Before request.editing left) Failed) := by
    refine (waits held.1).andThen ?_
    intro _ later before
    exact (ensures_mayAbort request.filler (Before.lasting request.editing)
      (Before.clears request.editing) before).raising (fun _ held => held.failed)
  refine pulled.andThen ?_
  intro _ later before
  refine (ensures_parkIfEditing _ _ before).andThen ?_
  intro _ later ready
  refine (readies ready).andThen ?_
  intro _ later ready
  refine (ensures_cleanExistingContainers ready).andThen ?_
  intro _ later ready
  refine (readies ready).andThen ?_
  intro _ later ready
  refine ((ensures_runReplacement _ _ ready).handled fun _ running =>
    ensures_runFailed running).andThen ?_
  intro _ later started
  refine ((ensures_bootstrap _ started).handled fun _ running =>
    ensures_bootstrapFailed _ running).andThen ?_
  intro _ later passed
  refine ((ensures_step Passed.lasting passed).raising (fun _ held => held.failed)).andThen ?_
  intro _ later passed
  exact (ensures_modify _).mpr passed.replied

end Body

end Lium.DeleteRace
