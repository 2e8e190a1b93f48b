import Lium.Validator.ExpressLane

/-! # The lanes never share an executor

An entry of `in_flight` is `express` exactly while an express verification runs, and `cycle` as long
as the wave has not released its claim, however the stretches of the two lanes follow each other.
-/

namespace Lium.ExpressLane

variable {selection : Selection} {executor : PortalExecutor} {state : State} {before after : State}

/-! ## What most of the lane's code leaves alone -/

def Pending.identity (pending : Pending) : PortalExecutor × String × Bool :=
  (pending.executor, pending.minerHotkey, pending.recheckOnly)

/-- Code that starts and ends no verification and holds or releases no executor; it may make
new objects and change the queue. -/
structure Frame (before after : State) : Prop where
  inFlight : after.inFlight = before.inFlight
  running : after.running = before.running
  rechecksInFlight : after.rechecksInFlight = before.rechecksInFlight
  claims : after.claims = before.claims
  ticks : after.ticks = before.ticks
  allocated : before.allocated ≤ after.allocated
  identity : ∀ ref < before.allocated,
    (after.objects ref).identity = (before.objects ref).identity

namespace Frame

variable {between : State}

theorem refl (state : State) : Frame state state :=
  ⟨rfl, rfl, rfl, rfl, rfl, le_rfl, fun _ _ => rfl⟩

theorem trans (first : Frame before between) (second : Frame between after) :
    Frame before after where
  inFlight := second.inFlight.trans first.inFlight
  running := second.running.trans first.running
  rechecksInFlight := second.rechecksInFlight.trans first.rechecksInFlight
  claims := second.claims.trans first.claims
  ticks := second.ticks.trans first.ticks
  allocated := first.allocated.trans second.allocated
  identity := fun ref made =>
    (second.identity ref (made.trans_le first.allocated)).trans (first.identity ref made)

theorem executorId (frame : Frame before after) {ref : ℕ} (made : ref < before.allocated) :
    after.executorId ref = before.executorId ref :=
  congrArg (fun identity => identity.1.id) (frame.identity ref made)

theorem verifying (frame : Frame before after)
    (made : ∀ verification ∈ before.running, verification.ref < before.allocated) :
    after.verifying = before.verifying := by
  rw [State.verifying, State.verifying, frame.running]
  exact List.map_congr_left fun verification member =>
    frame.executorId (made verification member)

end Frame

variable {change : Pending → Pending}

theorem frame_mutate (state : State) (ref : ℕ)
    (kept : ∀ pending, (change pending).identity = pending.identity := by intro pending; rfl) :
    Frame state (state.mutate ref change) := by
  refine ⟨rfl, rfl, rfl, rfl, rfl, le_rfl, ?_⟩
  intro other _
  by_cases same : other = ref
  · simp only [State.mutate, same, Function.update_self, kept]
  · simp only [State.mutate, Function.update_of_ne same]

theorem frame_queue (state : State) (pending : PyDict String ℕ) :
    Frame state { state with pending } :=
  ⟨rfl, rfl, rfl, rfl, rfl, le_rfl, fun _ _ => rfl⟩

theorem frame_track (state : State) (view : TickView) (hotkey : String)
    (executor : PortalExecutor) : Frame state (state.track view hotkey executor).2 := by
  rw [State.track]
  split
  · exact Frame.refl state
  · refine ⟨rfl, rfl, rfl, rfl, rfl, Nat.le_succ _, ?_⟩
    intro ref made
    simp only [Function.update_of_ne (Nat.ne_of_lt made)]

theorem frame_candidates (state : State) (settings : Settings) (view : TickView) :
    Frame state (state.candidates settings view).state := by
  rw [State.candidates]
  refine List.foldlRecOn (motive := fun selection => Frame state selection.state) view.snapshot
    (Selection.consider settings view) (b := ⟨state, [], []⟩) (Frame.refl state) ?_
  intro selection frame entry _
  refine frame.trans ?_
  rw [Selection.consider]
  split
  · exact Frame.refl _
  · split
    · exact Frame.refl _
    · exact frame_track _ _ _ _

theorem frame_select (state : State) (settings : Settings) (view : TickView) :
    Frame state (state.select settings view).1 :=
  (frame_candidates state settings view).trans (frame_queue _ _)

/-- Code about one object, which may take the object's executor out of the queue. -/
structure Settles (before after : State) (ref : ℕ) : Prop where
  frame : Frame before after
  others : ∀ other ≠ ref, after.objects other = before.objects other
  executorId : after.executorId ref = before.executorId ref
  pending : ∀ executor, after.pending.get? executor = before.pending.get? executor ∨
    executor = before.executorId ref ∧ after.pending.get? executor = none

namespace Settles

variable {between : State} {ref : ℕ}

theorem trans (first : Settles before between ref) (second : Settles between after ref) :
    Settles before after ref where
  frame := first.frame.trans second.frame
  others other different := (second.others other different).trans (first.others other different)
  executorId := second.executorId.trans first.executorId
  pending executor := by
    rcases second.pending executor with same | ⟨isRef, gone⟩
    · rw [same]
      exact first.pending executor
    · exact .inr ⟨isRef.trans first.executorId, gone⟩

theorem mutate (state : State) (ref : ℕ)
    (kept : ∀ pending, (change pending).identity = pending.identity := by intro pending; rfl) :
    Settles state (state.mutate ref change) ref where
  frame := frame_mutate state ref kept
  others _ different := Function.update_of_ne different _ _
  executorId := by
    simp only [State.executorId, State.mutate, Function.update_self]
    exact congrArg (fun identity => identity.1.id) (kept (state.objects ref))
  pending _ := .inl rfl

theorem leave (state : State) (ref : ℕ) (leftToCycle : List String) :
    Settles state
      { state with leftToCycle, pending := state.pending.erase (state.executorId ref) } ref where
  frame := ⟨rfl, rfl, rfl, rfl, rfl, le_rfl, fun _ _ => rfl⟩
  others _ _ := rfl
  executorId := rfl
  pending executor := by
    rw [PyDict.get?_erase]
    split
    case isTrue same => exact .inr ⟨same, rfl⟩
    case isFalse => exact .inl rfl

theorem defer (state : State) (settings : Settings) (ref : ℕ) (reason : State.DeferReason)
    (now : ℤ) : Settles state (state.defer settings ref reason now) ref := by
  rw [State.defer]
  split
  · exact leave _ _ _
  · exact mutate _ _

theorem concluded (state : State) (settings : Settings) (now : ℤ) (verification : Verification)
    (ending : State.Ending) :
    Settles state (state.concluded settings now verification ending) verification.ref := by
  cases ending with
  | cancelled => exact ⟨Frame.refl state, fun _ _ => rfl, rfl, fun _ => .inl rfl⟩
  | jobFilesRemoved =>
    rw [State.concluded]
    exact mutate _ _
  | minerDidNotReturnExecutor | raised =>
    rw [State.concluded]
    exact (mutate _ _).trans (defer _ _ _ _ _)
  | published passed recorded =>
    simp only [State.concluded]
    split
    · exact (mutate _ _).trans (mutate _ _)
    · split <;> exact (mutate _ _).trans (leave _ _ _)

variable {executor : String}

theorem shrinks (settles : Settles before after ref) {queuedRef : ℕ}
    (queued : after.pending.get? executor = some queuedRef) :
    before.pending.get? executor = some queuedRef := by
  rcases settles.pending executor with same | ⟨_, gone⟩
  · rw [← same, queued]
  · rw [gone] at queued
    cases queued

theorem keeps (settles : Settles before after ref) (different : executor ≠ before.executorId ref) :
    after.pending.get? executor = before.pending.get? executor :=
  (settles.pending executor).resolve_right fun taken => different taken.1

end Settles

/-! ## The queue and the candidates -/

/-- The queue holds objects made for its executors, none of them for a recheck only. -/
def State.QueueSound (state : State) : Prop :=
  ∀ executor ref, state.pending.get? executor = some ref →
    ref < state.allocated ∧ state.executorId ref = executor ∧
      (state.objects ref).recheckOnly = false

theorem State.QueueSound.of_frame (sound : before.QueueSound) (frame : Frame before after)
    (shrinks : ∀ executor ref, after.pending.get? executor = some ref →
      before.pending.get? executor = some ref) : after.QueueSound := by
  intro executor ref queued
  rcases sound executor ref (shrinks executor ref queued) with ⟨made, isFor, notRecheck⟩
  refine ⟨made.trans_le frame.allocated, (frame.executorId made).trans isFor, ?_⟩
  rw [← notRecheck]
  exact congrArg (fun identity => identity.2.2) (frame.identity ref made)

/-- An object of a selection: the queued one of its executor, or one made for a recheck and
selected once, before any attempt. -/
def State.Selectable (state : State) (refs : List ℕ) (ref : ℕ) : Prop :=
  ref < state.allocated ∧
    (((state.objects ref).recheckOnly = false ∧
        state.pending.get? (state.executorId ref) = some ref) ∨
      ((state.objects ref).recheckOnly = true ∧
        (state.objects ref).attempts + refs.count ref ≤ 1))

variable {ref : ℕ} {refs : List ℕ}

theorem State.Selectable.of_count_le {fewer : List ℕ} (selectable : state.Selectable refs ref)
    (fewerTimes : fewer.count ref ≤ refs.count ref) :
    state.Selectable fewer ref := by
  rcases selectable with ⟨made, queued | ⟨recheck, once⟩⟩
  · exact ⟨made, .inl queued⟩
  · exact ⟨made, .inr ⟨recheck, by omega⟩⟩

/-- What the loop of `_select` has made so far. -/
structure Selection.Sound (selection : Selection) : Prop where
  queue : selection.state.QueueSound
  selectable : ∀ ref ∈ selection.candidates,
    selection.state.Selectable selection.candidates ref
  present : ∀ ref ∈ selection.candidates, selection.state.executorId ref ∈ selection.present
  free : ∀ ref ∈ selection.candidates,
    selection.state.inFlight.contains (selection.state.executorId ref) = false

/-- A new object for an executor that was not queued; it is queued unless it is for a recheck
only. -/
structure Enrols (before after : State) (executor : PortalExecutor) : Prop where
  unqueued : before.pending.get? executor.id = none
  allocated : after.allocated = before.allocated + 1
  others : ∀ ref < before.allocated, after.objects ref = before.objects ref
  executorId : after.executorId before.allocated = executor.id
  attempts : (after.objects before.allocated).attempts = 0
  pending : ((after.objects before.allocated).recheckOnly = false ∧
      after.pending = before.pending.set executor.id before.allocated) ∨
    ((after.objects before.allocated).recheckOnly = true ∧ after.pending = before.pending)

theorem track_cases (state : State) (view : TickView) (hotkey : String)
    (executor : PortalExecutor) :
    (∃ ref, state.pending.get? executor.id = some ref ∧
        state.track view hotkey executor = (ref, state)) ∨
      ((state.track view hotkey executor).1 = state.allocated ∧
        Enrols state (state.track view hotkey executor).2 executor) := by
  cases queued : state.pending.get? executor.id with
  | some ref => exact .inl ⟨ref, rfl, by simp only [State.track, queued]⟩
  | none =>
    right
    simp only [State.track, queued, true_and]
    refine ⟨queued, rfl, ?_, ?_, ?_, ?_⟩
    · intro ref made
      exact Function.update_of_ne (Nat.ne_of_lt made) _ _
    · simp only [State.executorId, Function.update_self]
    · simp only [Function.update_self]
    · cases isNew : state.newToLane view executor
      · exact .inr ⟨by simp only [Function.update_self, Bool.not_false], rfl⟩
      · exact .inl ⟨by simp only [Function.update_self, Bool.not_true], rfl⟩

namespace Enrols

section

variable (enrols : Enrols before after executor)
include enrols

theorem executorId_of_lt
    (made : ref < before.allocated) : after.executorId ref = before.executorId ref :=
  congrArg (fun object => object.executor.id) (enrols.others ref made)

theorem queueSound (queue : before.QueueSound) :
    after.QueueSound := by
  have older : ∀ other ref, before.pending.get? other = some ref →
      ref < after.allocated ∧ after.executorId ref = other ∧
        (after.objects ref).recheckOnly = false := by
    intro other ref queued
    rcases queue other ref queued with ⟨made, isFor, notRecheck⟩
    refine ⟨?_, (enrols.executorId_of_lt made).trans isFor, ?_⟩
    · rw [enrols.allocated]
      omega
    · rw [enrols.others ref made]
      exact notRecheck
  intro other ref queued
  rcases enrols.pending with ⟨notRecheck, set⟩ | ⟨_, same⟩
  · rw [set, PyDict.get?_set] at queued
    split at queued
    case isTrue equal =>
      cases queued
      refine ⟨?_, enrols.executorId.trans equal.symm, notRecheck⟩
      rw [enrols.allocated]
      omega
    case isFalse => exact older other ref queued
  · rw [same] at queued
    exact older other ref queued

theorem selectable
    (selectable : before.Selectable refs ref) : after.Selectable refs ref := by
  rcases selectable with ⟨made, found⟩
  refine ⟨by rw [enrols.allocated]; omega, ?_⟩
  rw [enrols.others ref made, enrols.executorId_of_lt made]
  rcases found with ⟨notRecheck, queued⟩ | recheck
  · refine .inl ⟨notRecheck, ?_⟩
    rcases enrols.pending with ⟨_, set⟩ | ⟨_, same⟩
    · have different : before.executorId ref ≠ executor.id := by
        intro equal
        rw [equal, enrols.unqueued] at queued
        cases queued
      rw [set, PyDict.get?_set_other _ different]
      exact queued
    · rw [same]
      exact queued
  · exact .inr recheck

theorem selectable_new
    (fresh : before.allocated ∉ refs) :
    after.Selectable (refs ++ [before.allocated]) before.allocated := by
  refine ⟨by rw [enrols.allocated]; omega, ?_⟩
  rcases enrols.pending with ⟨notRecheck, set⟩ | ⟨recheck, _⟩
  · refine .inl ⟨notRecheck, ?_⟩
    rw [set, enrols.executorId, PyDict.get?_set_self]
  · refine .inr ⟨recheck, ?_⟩
    rw [enrols.attempts, List.count_append, List.count_eq_zero_of_not_mem fresh,
      List.count_singleton_self]

end

end Enrols

theorem selectable_append {added : ℕ} (selectable : state.Selectable refs ref)
    (other : (state.objects ref).recheckOnly = true → ref ≠ added) :
    state.Selectable (refs ++ [added]) ref := by
  rcases selectable with ⟨made, queued | ⟨recheck, once⟩⟩
  · exact ⟨made, .inl queued⟩
  · refine ⟨made, .inr ⟨recheck, ?_⟩⟩
    rw [List.count_append, List.count_singleton, if_neg]
    · exact once
    · simpa using (other recheck).symm

namespace Selection.Sound

theorem see (sound : selection.Sound) (executor : String) :
    Selection.Sound { selection with present := selection.present ++ [executor] } :=
  { sound with present := fun ref member => List.mem_append_left _ (sound.present ref member) }

theorem enrol (sound : selection.Sound) {next : State}
    (enrols : Enrols selection.state next executor)
    (inFlight : next.inFlight = selection.state.inFlight) :
    Selection.Sound { selection with state := next } where
  queue := enrols.queueSound sound.queue
  selectable := fun ref member => enrols.selectable (sound.selectable ref member)
  present := by
    intro ref member
    rw [enrols.executorId_of_lt (sound.selectable ref member).1]
    exact sound.present ref member
  free := by
    intro ref member
    rw [enrols.executorId_of_lt (sound.selectable ref member).1, inFlight]
    exact sound.free ref member

theorem add (sound : selection.Sound) {added : ℕ}
    (selectable : selection.state.Selectable (selection.candidates ++ [added]) added)
    (others : ∀ ref ∈ selection.candidates,
      (selection.state.objects ref).recheckOnly = true → ref ≠ added)
    (present : selection.state.executorId added ∈ selection.present)
    (free : selection.state.inFlight.contains (selection.state.executorId added) = false) :
    Selection.Sound { selection with candidates := selection.candidates ++ [added] } :=
  { sound with
    selectable := List.forall_mem_append.mpr
      ⟨fun ref earlier => selectable_append (sound.selectable ref earlier) (others ref earlier),
        List.forall_mem_singleton.mpr selectable⟩
    present := List.forall_mem_append.mpr ⟨sound.present, List.forall_mem_singleton.mpr present⟩
    free := List.forall_mem_append.mpr ⟨sound.free, List.forall_mem_singleton.mpr free⟩ }

end Selection.Sound

theorem track_sound (sound : selection.Sound) (view : TickView) (hotkey : String)
    (executor : PortalExecutor) :
    let tracked := selection.state.track view hotkey executor
    Selection.Sound ⟨tracked.2, selection.present, selection.candidates⟩ ∧
      tracked.2.executorId tracked.1 = executor.id ∧
      tracked.2.Selectable (selection.candidates ++ [tracked.1]) tracked.1 ∧
      ∀ ref ∈ selection.candidates,
        (tracked.2.objects ref).recheckOnly = true → ref ≠ tracked.1 := by
  have frame := frame_track selection.state view hotkey executor
  rcases track_cases selection.state view hotkey executor with
    ⟨queuedRef, queued, tracked⟩ | ⟨isNew, enrols⟩
  · rcases sound.queue executor.id queuedRef queued with ⟨made, isFor, notRecheck⟩
    simp only [tracked]
    refine ⟨sound, isFor, ⟨made, .inl ⟨notRecheck, isFor ▸ queued⟩⟩, ?_⟩
    intro ref _ recheck same
    rw [same, notRecheck] at recheck
    cases recheck
  · have fresh : selection.state.allocated ∉ selection.candidates :=
      fun member => Nat.lt_irrefl _ (sound.selectable _ member).1
    simp only [isNew]
    refine ⟨sound.enrol enrols frame.inFlight, enrols.executorId, enrols.selectable_new fresh, ?_⟩
    intro ref member _ same
    exact fresh (same ▸ member)

theorem consider_sound (sound : selection.Sound) (settings : Settings) (view : TickView)
    (entry : String × PortalExecutor) :
    (selection.consider settings view entry).Sound := by
  rw [Selection.consider]
  split
  · exact sound
  split
  · exact sound
  rcases track_sound sound view entry.1 entry.2 with ⟨tracked, isFor, selectable, others⟩
  have seen := tracked.see entry.2.id
  dsimp only
  split
  · exact seen
  · rename_i ready
    apply seen.add selectable others
    · rw [isFor]
      exact List.mem_append_right _ (List.mem_singleton_self _)
    · rw [isFor, ← Bool.not_eq_true]
      intro held
      simp [State.waits, held] at ready

theorem candidates_sound (queue : state.QueueSound) (settings : Settings) (view : TickView) :
    (state.candidates settings view).Sound := by
  refine List.foldlRecOn view.snapshot (Selection.consider settings view) ?_
    fun selection sound entry _ => consider_sound sound settings view entry
  refine ⟨queue, ?_, ?_, ?_⟩ <;> intro ref member <;> cases member

theorem chooseUnderCaps_sublist (maxPerMiner : ℤ) (hotkeyOf : ℕ → String) (refs : List ℕ)
    (room : ℤ) (counted : List String) :
    (chooseUnderCaps maxPerMiner hotkeyOf room counted refs).Sublist refs := by
  induction refs generalizing room counted with
  | nil => exact .slnil
  | cons ref rest induction =>
    rw [chooseUnderCaps]
    split
    · exact List.nil_sublist _
    split
    · exact (induction _ _).cons _
    · exact (induction _ _).cons_cons _

theorem prune_queueSound (queue : state.QueueSound) (present : List String) :
    (state.prune present).QueueSound := by
  apply queue.of_frame (frame_queue state _)
  intro executor ref queued
  exact ((PyDict.get?_filter_eq_some _ _).mp queued).1

theorem select_sound (queue : state.QueueSound) (settings : Settings) (view : TickView) :
    (state.select settings view).1.QueueSound ∧
      (∀ ref ∈ (state.select settings view).2,
        (state.select settings view).1.Selectable (state.select settings view).2 ref) ∧
      ∀ ref ∈ (state.select settings view).2,
        (state.select settings view).1.inFlight.contains
          ((state.select settings view).1.executorId ref) = false := by
  have sound := candidates_sound queue settings view
  rw [State.select]
  generalize state.candidates settings view = selection at sound
  have chosen := (chooseUnderCaps_sublist settings.maxInFlightPerMiner
    (fun ref => ((selection.state.prune selection.present).objects ref).minerHotkey)
    (selection.candidates.insertionSort fun first second =>
      (selection.state.prune selection.present).sortKey first ≤
        (selection.state.prune selection.present).sortKey second)
    (settings.maxInFlight - (selection.state.prune selection.present).expressInFlight.length)
    (selection.state.prune selection.present).countedMiners).subperm.trans
      (List.perm_insertionSort _ _).subperm
  refine ⟨prune_queueSound sound.queue _, ?_, ?_⟩
  · intro ref member
    have candidate := chosen.subset member
    apply State.Selectable.of_count_le _ (chosen.count_le ref)
    rcases sound.selectable ref candidate with ⟨made, ⟨notRecheck, queued⟩ | recheck⟩
    · refine ⟨made, .inl ⟨notRecheck, ?_⟩⟩
      apply (PyDict.get?_filter_eq_some _ _).mpr
      have isPresent : selection.state.executorId ref ∈ selection.present :=
        sound.present ref candidate
      exact ⟨queued, Bool.or_eq_true_iff.mpr (.inl (decide_eq_true isPresent))⟩
    · exact ⟨made, .inr recheck⟩
  · exact fun ref member => sound.free ref (chosen.subset member)

/-- Code that changes neither the queue nor how often an object was tried. -/
structure Marks (before after : State) : Prop where
  frame : Frame before after
  pending : after.pending = before.pending
  allocated : after.allocated = before.allocated
  attempts : ∀ ref, (after.objects ref).attempts = (before.objects ref).attempts

theorem marks_foldl (view : TickView) (refs : List ℕ) (state : State) :
    Marks state (refs.foldl (State.markRequested view) state) := by
  induction refs generalizing state with
  | nil => exact ⟨Frame.refl state, rfl, rfl, fun _ => rfl⟩
  | cons ref rest induction =>
    rcases induction (state.markRequested view ref) with ⟨frame, pending, allocated, attempts⟩
    have marked : Frame state (state.markRequested view ref) := by
      rw [State.markRequested]
      exact frame_mutate _ _
    refine ⟨marked.trans frame, pending, allocated, ?_⟩
    intro other
    rw [List.foldl_cons, attempts other]
    by_cases same : other = ref
    · simp only [State.markRequested, State.mutate, same, Function.update_self]
    · simp only [State.markRequested, State.mutate, Function.update_of_ne same]

theorem Marks.selectable (marks : Marks before after) (selectable : before.Selectable refs ref) :
    after.Selectable refs ref := by
  rcases selectable with ⟨made, found⟩
  have sameRecheck : (after.objects ref).recheckOnly = (before.objects ref).recheckOnly :=
    congrArg (fun identity => identity.2.2) (marks.frame.identity ref made)
  refine ⟨marks.allocated ▸ made, ?_⟩
  rw [sameRecheck, marks.attempts, marks.pending, marks.frame.executorId made]
  exact found

/-- A tick's selection, to be launched later. -/
structure Selects (before selected : State) (chosen : List ℕ) : Prop where
  frame : Frame before selected
  queue : selected.QueueSound
  selectable : ∀ ref ∈ chosen, selected.Selectable chosen ref
  free : ∀ ref ∈ chosen, selected.inFlight.contains (selected.executorId ref) = false

theorem tickSelects_cases (queue : state.QueueSound) (settings : Settings) (view : TickView) :
    ∃ selected, Marks (state.select settings view).1 selected ∧
      Selects state selected (state.select settings view).2 ∧
      (((state.select settings view).2 = [] ∧ state.tickSelects settings view = selected) ∨
        ((state.select settings view).2 ≠ [] ∧ state.tickSelects settings view =
          { selected with ticks := selected.ticks ++ [(state.select settings view).2] })) := by
  rcases select_sound queue settings view with ⟨selectedQueue, selectable, free⟩
  have marks := marks_foldl view (state.select settings view).2 (state.select settings view).1
  refine ⟨_, marks, ⟨(frame_select state settings view).trans marks.frame, ?_,
    fun ref member => marks.selectable (selectable ref member), ?_⟩, ?_⟩
  · exact selectedQueue.of_frame marks.frame fun executor ref queued => marks.pending ▸ queued
  · intro ref member
    rw [marks.frame.inFlight, marks.frame.executorId (selectable ref member).1]
    exact free ref member
  · simp only [State.tickSelects]
    split
    case isTrue empty => exact .inl ⟨List.isEmpty_iff.mp empty, rfl⟩
    case isFalse some => exact .inr ⟨fun none => some (List.isEmpty_iff.mpr none), rfl⟩

/-! ## Exclusion -/

/-- `in_flight` says who holds an executor. -/
structure Exclusive (state : State) : Prop where
  queue : state.QueueSound
  ticks : ∀ tick ∈ state.ticks, ∀ ref ∈ tick, ref < state.allocated
  running : ∀ verification ∈ state.running, verification.ref < state.allocated
  express : ∀ executor,
    state.inFlight.get? executor = some .express ↔ executor ∈ state.verifying
  nodup : state.verifying.Nodup
  cycle : ∀ executor ∈ state.claims.flatten, state.inFlight.get? executor = some .cycle
  claimsNodup : state.claims.flatten.Nodup

namespace Exclusive

theorem of_frame (exclusive : Exclusive state) (frame : Frame state after)
    (queue : after.QueueSound) : Exclusive after where
  queue := queue
  ticks := by
    intro tick member ref selected
    rw [frame.ticks] at member
    exact (exclusive.ticks tick member ref selected).trans_le frame.allocated
  running := by
    intro verification member
    rw [frame.running] at member
    exact (exclusive.running verification member).trans_le frame.allocated
  express := by
    intro executor
    rw [frame.inFlight, frame.verifying exclusive.running]
    exact exclusive.express executor
  nodup := by
    rw [frame.verifying exclusive.running]
    exact exclusive.nodup
  cycle := by
    rw [frame.inFlight, frame.claims]
    exact exclusive.cycle
  claimsNodup := by
    rw [frame.claims]
    exact exclusive.claimsNodup

variable {executor : String}

theorem not_mem_claims (exclusive : Exclusive state)
    (verifying : executor ∈ state.verifying) : executor ∉ state.claims.flatten := by
  intro claimed
  have held := (exclusive.express executor).mpr verifying
  rw [exclusive.cycle executor claimed] at held
  cases held

theorem with_inFlight (exclusive : Exclusive state) {inFlight : PyDict String Lane}
    {claims : List (List String)}
    (express : ∀ executor, inFlight.get? executor = some .express ↔
      state.inFlight.get? executor = some .express)
    (cycle : ∀ executor ∈ claims.flatten, inFlight.get? executor = some .cycle)
    (nodup : claims.flatten.Nodup) : Exclusive { state with inFlight, claims } :=
  { exclusive with
    express := fun executor => (express executor).trans (exclusive.express executor)
    cycle, claimsNodup := nodup }

/-! ### The wave's steps -/

theorem get?_foldl_claim (executors : List String) (inFlight : PyDict String Lane)
    (executor : String) :
    (executors.foldl (fun inFlight executor => inFlight.set executor Lane.cycle) inFlight).get?
      executor = if executor ∈ executors then some .cycle else inFlight.get? executor := by
  induction executors generalizing inFlight with
  | nil => rfl
  | cons first rest induction =>
    rw [List.foldl_cons, induction, PyDict.get?_set]
    by_cases later : executor ∈ rest
    · simp [later]
    · by_cases same : executor = first <;> simp [later, same]

theorem get?_releaseCycleClaims (state : State) (executors : List String) (executor : String) :
    (state.releaseCycleClaims executors).inFlight.get? executor =
      if executor ∈ executors ∧ state.inFlight.get? executor = some .cycle then some .cycleDone
      else state.inFlight.get? executor := by
  simp only [State.releaseCycleClaims]
  generalize state.inFlight = inFlight
  induction executors generalizing inFlight with
  | nil => simp
  | cons first rest induction =>
    rw [List.foldl_cons, induction]
    by_cases same : executor = first
    · by_cases held : inFlight.get? first = some .cycle <;> simp [same, held]
    · by_cases held : inFlight.get? first = some .cycle <;>
        simp [same, held, PyDict.get?_set_other _ same]

theorem stopAwaiting (exclusive : Exclusive state) (hotkey jobBatchId : String) :
    Exclusive (state.stopAwaitingWaveList hotkey jobBatchId) := by
  rw [State.stopAwaitingWaveList]
  split
  · exact { exclusive with }
  · exact exclusive

theorem claimed_free {listed : List String}
    (claimed : executor ∈ state.claimed listed) :
    state.inFlight.get? executor ≠ some .express ∧ executor ∉ state.pending.keys := by
  have kept := (List.mem_filter.mp claimed).2
  rw [← PyDict.contains_iff]
  simpa using kept

section

variable (exclusive : Exclusive state)
include exclusive

theorem claim (listed : List String)
    (single : ∀ executor ∈ state.claimed listed, executor ∉ state.claims.flatten) :
    Exclusive { state with
      inFlight := (state.claimed listed).foldl
        (fun inFlight executor => inFlight.set executor Lane.cycle) state.inFlight
      claims := state.claims ++ [state.claimed listed] } := by
  apply exclusive.with_inFlight
  · intro executor
    rw [get?_foldl_claim]
    split
    case isTrue claimed => exact ⟨fun held => (by cases held), fun held => ((claimed_free claimed).1 held).elim⟩
    case isFalse => exact Iff.rfl
  · intro executor member
    rw [get?_foldl_claim]
    split
    case isTrue => rfl
    case isFalse unclaimed =>
      rw [List.flatten_append, List.mem_append] at member
      rcases member with earlier | now
      · exact exclusive.cycle executor earlier
      · exact (unclaimed (by simpa using now)).elim
  · rw [List.flatten_append, List.flatten_singleton, List.nodup_append']
    exact ⟨exclusive.claimsNodup, (PyDict.keysNodup _).filter _,
      fun executor earlier now => single executor now earlier⟩

theorem release {executors : List String}
    (member : executors ∈ state.claims) :
    Exclusive { state.releaseCycleClaims executors with claims := state.claims.erase executors } := by
  have split := (List.perm_cons_erase member).flatten
  rw [List.flatten_cons] at split
  have nodup := split.nodup_iff.mp exclusive.claimsNodup
  rcases List.nodup_append'.mp nodup with ⟨_, restNodup, apart⟩
  apply exclusive.with_inFlight _ _ restNodup
  · intro executor
    rw [get?_releaseCycleClaims]
    split
    case isTrue held => simp [held.2]
    case isFalse => exact Iff.rfl
  · intro executor claimed
    have others : executor ∉ executors := fun released => apart released claimed
    rw [get?_releaseCycleClaims, if_neg fun released => others released.1]
    exact exclusive.cycle executor (split.mem_iff.mpr (List.mem_append_right _ claimed))

theorem requestEnds
    (verifying : executor ∈ state.verifying) : state.releaseCycleClaims [executor] = state := by
  have held := (exclusive.express executor).mpr verifying
  simp [State.releaseCycleClaims, held]

theorem forgetCycleDone : Exclusive state.forgetCycleDone := by
  apply exclusive.with_inFlight _ _ exclusive.claimsNodup
  · intro executor
    rw [PyDict.get?_filter_eq_some]
    simp
  · intro executor claimed
    rw [PyDict.get?_filter_eq_some]
    exact ⟨exclusive.cycle executor claimed, rfl⟩

end

/-! ### The lane's steps -/

section

variable (exclusive : Exclusive state)
include exclusive

theorem select (settings : Settings) (view : TickView) :
    Exclusive (state.tickSelects settings view) := by
  rcases tickSelects_cases exclusive.queue settings view with ⟨selected, _, selects, ended⟩
  have kept := exclusive.of_frame selects.frame selects.queue
  rcases ended with ⟨_, unchanged⟩ | ⟨_, queued⟩
  · rw [unchanged]
    exact kept
  · rw [queued]
    have made := fun ref chosen => (selects.selectable ref chosen).1
    exact
      { kept with
        ticks := List.forall_mem_append.mpr ⟨kept.ticks, List.forall_mem_singleton.mpr made⟩ }

theorem with_fewer_ticks (tick : List ℕ) :
    Exclusive { state with ticks := state.ticks.erase tick } :=
  { exclusive with
    ticks := fun other member => exclusive.ticks other (List.mem_of_mem_erase member) }

theorem verify (made : ref < state.allocated)
    (free : ¬state.inFlight.contains (state.executorId ref)) : Exclusive (state.verify ref) := by
  have absent : state.inFlight.get? (state.executorId ref) = none := by
    rw [PyDict.contains] at free
    simpa using free
  have verifying : (state.verify ref).verifying = state.verifying ++ [state.executorId ref] := by
    simp only [State.verifying, State.verify, List.map_append, List.map_cons, List.map_nil]
    rfl
  have idle : state.executorId ref ∉ state.verifying := by
    intro held
    rw [(exclusive.express _).mpr held] at absent
    cases absent
  refine
    { exclusive with
      running := List.forall_mem_append.mpr ⟨exclusive.running, List.forall_mem_singleton.mpr made⟩
      express := ?_, nodup := ?_, cycle := ?_ }
  · intro executor
    rw [verifying, List.mem_append, List.mem_singleton, ← exclusive.express executor]
    simp only [State.verify, PyDict.get?_set]
    split
    case isTrue same => simp [same]
    case isFalse different => simp [different]
  · rw [verifying, List.nodup_append']
    exact ⟨exclusive.nodup, List.nodup_singleton _,
      fun executor earlier now => idle (List.mem_singleton.mp now ▸ earlier)⟩
  · intro executor claimed
    have different : executor ≠ state.executorId ref := by
      intro same
      rw [← same, exclusive.cycle executor claimed] at absent
      cases absent
    simp only [State.verify, PyDict.get?_set_other _ different]
    exact exclusive.cycle executor claimed

theorem settle (settles : Settles state after ref) :
    Exclusive after :=
  exclusive.of_frame settles.frame
    (exclusive.queue.of_frame settles.frame fun _ _ => settles.shrinks)

end

variable {settings : Settings}

theorem launchOne (exclusive : Exclusive state) (settings : Settings) (miners : List String)
    (now : ℤ) (made : ref < state.allocated) :
    Exclusive (state.launchOne settings miners now ref) := by
  rw [State.launchOne]
  split
  · exact exclusive
  case isFalse free =>
    split
    · exact exclusive
    split
    · exact exclusive.settle ((Settles.mutate _ _).trans (.defer _ _ _ _ _))
    · exact exclusive.verify made free

theorem launchOne_allocated (settings : Settings) (miners : List String) (now : ℤ) (ref : ℕ) :
    (state.launchOne settings miners now ref).allocated = state.allocated := by
  rw [State.launchOne]
  split
  · rfl
  split
  · rfl
  split
  · rw [State.defer]
    split <;> rfl
  · rfl

theorem launch_foldl (settings : Settings) (miners : List String) (now : ℤ) {tick : List ℕ}
    (exclusive : Exclusive state) (made : ∀ ref ∈ tick, ref < state.allocated) :
    Exclusive (tick.foldl (State.launchOne settings miners now) state) := by
  induction tick generalizing state with
  | nil => exact exclusive
  | cons ref rest induction =>
    apply induction (exclusive.launchOne settings miners now (made ref List.mem_cons_self))
    intro later inRest
    rw [launchOne_allocated]
    exact made later (List.mem_cons_of_mem _ inRest)

variable {verification : Verification}

theorem mem_verifying_erase (exclusive : Exclusive state)
    (member : verification ∈ state.running) (executor : String) :
    executor ∈ (state.verified verification).verifying ↔
      executor ≠ state.executorId verification.ref ∧ executor ∈ state.verifying := by
  have split := (List.perm_cons_erase member).map fun verification =>
    state.executorId verification.ref
  rw [List.map_cons] at split
  have nodup := split.nodup_iff.mp exclusive.nodup
  change executor ∈ (state.running.erase verification).map _ ↔ executor ≠ _ ∧ executor ∈ state.running.map _
  rw [split.mem_iff, List.mem_cons]
  constructor
  · intro remains
    refine ⟨?_, .inr remains⟩
    intro same
    exact (List.nodup_cons.mp nodup).1 (same ▸ remains)
  · intro held
    rcases held.2 with same | remains
    · exact (held.1 same).elim
    · exact remains

theorem verified (exclusive : Exclusive state)
    (member : verification ∈ state.running) : Exclusive (state.verified verification) := by
  have verifying : state.executorId verification.ref ∈ state.verifying :=
    List.mem_map_of_mem member
  have held := (exclusive.express _).mpr verifying
  refine
    { exclusive with
      running := fun other running => exclusive.running other (List.mem_of_mem_erase running)
      express := ?_, nodup := ?_, cycle := ?_ }
  · intro executor
    rw [exclusive.mem_verifying_erase member, ← exclusive.express executor]
    simp only [State.verified, held, if_true, PyDict.get?_erase]
    split
    case isTrue same => simp [same]
    case isFalse different => simp [different]
  · exact exclusive.nodup.sublist (List.erase_sublist.map _)
  · intro executor claimed
    have different : executor ≠ state.executorId verification.ref :=
      fun same => exclusive.not_mem_claims verifying (same ▸ claimed)
    simp only [State.verified, held, if_true, PyDict.get?_erase, if_neg different]
    exact exclusive.cycle executor claimed

theorem step {overlap : ℕ} {next : State} (exclusive : Exclusive state)
    (step : Step settings overlap state next) : Exclusive next := by
  cases step with
  | startAwaiting jobBatchId hotkeys => exact { exclusive with }
  | stopAwaiting hotkey jobBatchId => exact exclusive.stopAwaiting hotkey jobBatchId
  | claim hotkey jobBatchId listed single =>
    have stopped := exclusive.stopAwaiting hotkey jobBatchId
    apply stopped.claim
    rw [State.stopAwaitingWaveList]
    split <;> exact single
  | release executors member => exact exclusive.release member
  | requestEnds executor verifying =>
    rw [exclusive.requestEnds verifying]
    exact exclusive
  | forgetCycleDone => exact exclusive.forgetCycleDone
  | select view room => exact exclusive.select settings view
  | abandon tick => exact exclusive.with_fewer_ticks tick
  | launch tick miners now member =>
    exact (exclusive.with_fewer_ticks tick).launch_foldl settings miners now
      (exclusive.ticks tick member)
  | endRecheck executor => exact { exclusive with }
  | finish verification ending now member =>
    have settles := Settles.concluded state settings now verification ending
    exact (exclusive.settle settles).verified (settles.frame.running ▸ member)

theorem start : Exclusive .start where
  queue := by rintro _ _ ⟨⟩
  ticks := by rintro _ ⟨⟩
  running := by rintro _ ⟨⟩
  express _ := iff_of_false (by rintro ⟨⟩) (by rintro ⟨⟩)
  nodup := List.nodup_nil
  cycle := by rintro _ ⟨⟩
  claimsNodup := List.nodup_nil

theorem of_reaches {overlap : ℕ} (reaches : Reaches settings overlap state) :
    Exclusive state := by
  induction reaches with
  | start => exact Exclusive.start
  | step _ taken induction => exact induction.step taken

end Exclusive

/-- However many ticks overlap, no executor is verified twice at once or by both lanes, and the wave
takes nothing that the lane has queued. -/
theorem lanes_never_share (settings : Settings) (overlap : ℕ) (state : State)
    (reaches : Reaches settings overlap state) :
    (∀ executor ∈ state.claims.flatten, executor ∉ state.verifying) ∧ state.verifying.Nodup ∧
      ∀ hotkey jobBatchId listed, ∃ claimed,
        (state.claimForCycle hotkey jobBatchId listed).claims = state.claims ++ [claimed] ∧
          ∀ executor ∈ claimed, executor ∉ state.pending.keys := by
  have exclusive := Exclusive.of_reaches reaches
  refine ⟨?_, exclusive.nodup, ?_⟩
  · intro executor claimed verifying
    exact exclusive.not_mem_claims verifying claimed
  · intro hotkey jobBatchId listed
    refine ⟨(state.stopAwaitingWaveList hotkey jobBatchId).claimed listed, ?_, ?_⟩
    · simp only [State.claimForCycle, State.stopAwaitingWaveList]
      split <;> rfl
    · intro executor claimed
      have free := (Exclusive.claimed_free claimed).2
      rw [State.stopAwaitingWaveList] at free
      split at free <;> exact free

def sampleSettings : Settings := ⟨1, 1, "validator", false, 35, 8, true⟩

def sampleView (hotkey executor : String) : TickView :=
  ⟨[(hotkey, ⟨executor, "validator", some 0⟩)], [], 0, [], 0, 0, 0⟩

def sampleState : State :=
  ((State.start.tickSelects sampleSettings (sampleView "miner" "new")).launch sampleSettings
    ["miner"] 0 [0]).claimForCycle "miner" "batch" ["new", "known"]

theorem sample_lanes_apart :
    sampleState.verifying = ["new"] ∧ sampleState.claims = [["known"]] ∧
      sampleState.verifying.Nodup := by
  have reaches : Reaches sampleSettings 1 sampleState := by
    refine .step (.step (.step .start (.select _ (sampleView "miner" "new") ?_))
      (.launch _ [0] ["miner"] 0 ?_)) (.claim _ "miner" "batch" ["new", "known"] ?_)
    · decide
    · decide +kernel
    · decide +kernel
  exact ⟨by decide +kernel, by decide +kernel,
    (lanes_never_share sampleSettings 1 sampleState reaches).2.1⟩

end Lium.ExpressLane
