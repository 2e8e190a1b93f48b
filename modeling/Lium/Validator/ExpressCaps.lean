import Lium.Validator.LanesExclusive

/-! # The express lane's caps

A selection counts what runs, but the launch comes two awaits later and counts nothing. The caps
hold as long as one selection is launched before the next is made.
-/

namespace Lium.ExpressLane

variable {overlap : ℕ} {before after : State} {verification : Verification}

/-! ## A selection keeps to the room it counted -/

section Choice

variable (maxPerMiner : ℤ) (hotkeyOf : ℕ → String)

theorem chooseUnderCaps_length (refs : List ℕ) (room : ℤ) (counted : List String) :
    ((chooseUnderCaps maxPerMiner hotkeyOf room counted refs).length : ℤ) ≤ max room 0 := by
  induction refs generalizing room counted with
  | nil => exact le_max_right _ _
  | cons ref rest induction =>
    rw [chooseUnderCaps]
    split
    · exact le_max_right _ _
    split
    · exact induction room counted
    · have later := induction (room - 1) (hotkeyOf ref :: counted)
      rw [List.length_cons]
      push_cast
      omega

theorem chooseUnderCaps_perMiner (refs : List ℕ) (room : ℤ) (counted : List String)
    (hotkey : String) :
    (chooseUnderCaps maxPerMiner hotkeyOf room counted refs).countP (hotkeyOf · = hotkey) = 0 ∨
      (counted.count hotkey : ℤ) +
        (chooseUnderCaps maxPerMiner hotkeyOf room counted refs).countP (hotkeyOf · = hotkey) ≤
          maxPerMiner := by
  induction refs generalizing room counted with
  | nil => exact .inl rfl
  | cons ref rest induction =>
    rw [chooseUnderCaps]
    split
    · exact .inl rfl
    split
    · exact induction room counted
    case isFalse below =>
      have later := induction (room - 1) (hotkeyOf ref :: counted)
      rw [List.countP_cons]
      by_cases same : hotkeyOf ref = hotkey
      · right
        rw [same, List.count_cons_self] at later
        rw [same] at below ⊢
        simp only [decide_true, if_true]
        push_cast at later ⊢
        omega
      · rw [List.count_cons_of_ne same] at later
        simp only [same, decide_false, Bool.false_eq_true, if_false, Nat.add_zero]
        exact later

end Choice

/-! ## What the selection counts -/

variable {settings : Settings} {state : State}

theorem mem_expressInFlight (executor : String) :
    executor ∈ state.expressInFlight ↔ state.inFlight.get? executor = some .express := by
  rw [← PyDict.mem_items_iff, State.expressInFlight, List.mem_map]
  constructor
  · intro found
    rcases found with ⟨item, member, same⟩
    rcases List.mem_filter.mp member with ⟨inItems, isExpress⟩
    have pair : item = (executor, .express) := Prod.ext same (of_decide_eq_true isExpress)
    exact pair ▸ inItems
  · intro member
    exact ⟨_, List.mem_filter.mpr ⟨member, rfl⟩, rfl⟩

theorem expressInFlight_nodup (state : State) : state.expressInFlight.Nodup :=
  state.inFlight.keysNodup.sublist (List.filter_sublist.map _)

theorem Exclusive.expressInFlight_length (exclusive : Exclusive state) :
    state.expressInFlight.length = state.running.length := by
  have same : state.expressInFlight.Perm state.verifying := by
    apply (List.perm_ext_iff_of_nodup (expressInFlight_nodup state) exclusive.nodup).mpr
    intro executor
    rw [mem_expressInFlight, exclusive.express]
  rw [same.length_eq, State.verifying, List.length_map]

variable {executor : String}

theorem Exclusive.contains_of_verifying (exclusive : Exclusive state)
    (verifying : executor ∈ state.verifying) : state.inFlight.contains executor = true := by
  rw [PyDict.contains, (exclusive.express executor).mpr verifying, Option.isSome_some]

def Counted (state : State) : Prop :=
  ∀ verification ∈ state.running,
    ((state.objects verification.ref).recheckOnly = true →
      state.rechecksInFlight.get? (state.executorId verification.ref) =
        some (state.objects verification.ref).minerHotkey) ∧
    ((state.objects verification.ref).recheckOnly = false →
      ∃ ref, state.pending.get? (state.executorId verification.ref) = some ref ∧
        (state.objects ref).minerHotkey = (state.objects verification.ref).minerHotkey)

theorem length_le_of_found (exclusive : Exclusive state) {part : List Verification}
    (sublist : part.Sublist state.running) {executors : List String}
    (found : ∀ verification ∈ part, state.executorId verification.ref ∈ executors) :
    part.length ≤ executors.length := by
  have nodup : (part.map fun verification => state.executorId verification.ref).Nodup :=
    exclusive.nodup.sublist (sublist.map _)
  have subset : (part.map fun verification => state.executorId verification.ref) ⊆ executors := by
    intro executor member
    rcases List.mem_map.mp member with ⟨verification, inPart, same⟩
    exact same ▸ found verification inPart
  have bound := (nodup.subperm subset).length_le
  rwa [List.length_map] at bound

def State.verifyingForAs (state : State) (hotkey : String) (recheckOnly : Bool) :
    List Verification :=
  (state.verifyingFor hotkey).filter fun verification =>
    (state.objects verification.ref).recheckOnly = recheckOnly

theorem mem_verifyingForAs {hotkey : String} {recheckOnly : Bool}
    (member : verification ∈ state.verifyingForAs hotkey recheckOnly) :
    verification ∈ state.running ∧ (state.objects verification.ref).minerHotkey = hotkey ∧
      (state.objects verification.ref).recheckOnly = recheckOnly := by
  rcases List.mem_filter.mp member with ⟨inMiner, isAs⟩
  rcases List.mem_filter.mp inMiner with ⟨running, isMiner⟩
  exact ⟨running, of_decide_eq_true isMiner, of_decide_eq_true isAs⟩

theorem verifyingForAs_sublist (hotkey : String) (recheckOnly : Bool) :
    (state.verifyingForAs hotkey recheckOnly).Sublist state.running :=
  List.filter_sublist.trans List.filter_sublist

theorem Counted.rechecks_le (counted : Counted state) (exclusive : Exclusive state)
    (hotkey : String) :
    (state.verifyingForAs hotkey true).length ≤ state.rechecksInFlight.values.count hotkey := by
  have found : ∀ verification ∈ state.verifyingForAs hotkey true,
      state.executorId verification.ref ∈
        (state.rechecksInFlight.items.filter fun item => item.2 = hotkey).map Prod.fst := by
    intro verification member
    rcases mem_verifyingForAs member with ⟨running, isMiner, recheck⟩
    have held := (counted verification running).1 recheck
    rw [isMiner, ← PyDict.mem_items_iff] at held
    exact List.mem_map.mpr ⟨_, List.mem_filter.mpr ⟨held, decide_eq_true rfl⟩, rfl⟩
  have bound := length_le_of_found exclusive (verifyingForAs_sublist hotkey true) found
  rw [List.length_map, ← List.countP_eq_length_filter] at bound
  rw [PyDict.values, List.count, List.countP_map]
  exact bound

theorem Counted.queued_le (counted : Counted state) (exclusive : Exclusive state)
    (hotkey : String) :
    (state.verifyingForAs hotkey false).length ≤
      (state.expressInFlight.filterMap fun executor =>
        (state.pending.get? executor).map fun ref => (state.objects ref).minerHotkey).count hotkey := by
  have found : ∀ verification ∈ state.verifyingForAs hotkey false,
      state.executorId verification.ref ∈ state.expressInFlight.filter fun executor =>
        (state.pending.get? executor).map (fun ref => (state.objects ref).minerHotkey) ==
          some hotkey := by
    intro verification member
    rcases mem_verifyingForAs member with ⟨running, isMiner, notRecheck⟩
    rcases (counted verification running).2 notRecheck with ⟨ref, queued, sameMiner⟩
    apply List.mem_filter.mpr
    refine ⟨(mem_expressInFlight _).mpr ((exclusive.express _).mpr (List.mem_map_of_mem running)), ?_⟩
    rw [queued, Option.map_some, sameMiner, isMiner, beq_self_eq_true]
  have bound := length_le_of_found exclusive (verifyingForAs_sublist hotkey false) found
  rw [List.count_filterMap, List.countP_eq_length_filter]
  exact bound

theorem Counted.verifyingFor_le (counted : Counted state) (exclusive : Exclusive state)
    (hotkey : String) : (state.verifyingFor hotkey).length ≤ state.countedMiners.count hotkey := by
  have parts : (state.verifyingFor hotkey).length =
      (state.verifyingForAs hotkey true).length + (state.verifyingForAs hotkey false).length := by
    rw [State.verifyingForAs, State.verifyingForAs, ← List.countP_eq_length_filter,
      ← List.countP_eq_length_filter]
    rw [List.length_eq_countP_add_countP fun verification =>
      (state.objects verification.ref).recheckOnly = true]
    simp
  have rechecks := counted.rechecks_le exclusive hotkey
  have queued := counted.queued_le exclusive hotkey
  rw [State.countedMiners, List.count_append, parts]
  omega

/-! ## What runs and what is selected -/

/-- What runs and what is about to be launched stay under both caps together. -/
structure Committed (settings : Settings) (state : State) (refs : List ℕ) : Prop where
  total : (state.running.length : ℤ) + refs.length ≤ settings.maxInFlight
  perMiner : ∀ hotkey, ((state.verifyingFor hotkey).length : ℤ) +
    refs.countP (fun ref => (state.objects ref).minerHotkey = hotkey) ≤
      settings.maxInFlightPerMiner

/-- The caps hold, with the one selection that waits for its launch. -/
structure Capped (settings : Settings) (state : State) : Prop where
  single : state.ticks.length ≤ 1
  committed : Committed settings state state.ticks.flatten
  counted : Counted state
  waiting : ∀ tick ∈ state.ticks, ∀ ref ∈ tick,
    state.Selectable tick ref ∧ state.executorId ref ∉ state.verifying

variable {ref : ℕ}

theorem Frame.minerHotkey (frame : Frame before after) (made : ref < before.allocated) :
    (after.objects ref).minerHotkey = (before.objects ref).minerHotkey :=
  congrArg (fun identity => identity.2.1) (frame.identity ref made)

theorem Frame.recheckOnly (frame : Frame before after) (made : ref < before.allocated) :
    (after.objects ref).recheckOnly = (before.objects ref).recheckOnly :=
  congrArg (fun identity => identity.2.2) (frame.identity ref made)

theorem Frame.verifyingFor (frame : Frame before after) (exclusive : Exclusive before)
    (hotkey : String) :
    after.verifyingFor hotkey = before.verifyingFor hotkey := by
  rw [State.verifyingFor, State.verifyingFor, frame.running]
  apply List.filter_congr
  intro verification member
  rw [frame.minerHotkey (exclusive.running verification member)]

theorem Counted.of_frame (counted : Counted before) (exclusive : Exclusive before)
    (frame : Frame before after)
    (kept : ∀ executor ∈ before.verifying, ∀ ref, before.pending.get? executor = some ref →
      after.pending.get? executor = some ref) : Counted after := by
  intro verification member
  rw [frame.running] at member
  have made := exclusive.running verification member
  rw [frame.recheckOnly made, frame.minerHotkey made, frame.executorId made,
    frame.rechecksInFlight]
  refine ⟨(counted verification member).1, ?_⟩
  intro notRecheck
  rcases (counted verification member).2 notRecheck with ⟨ref, queued, sameMiner⟩
  refine ⟨ref, kept _ (List.mem_map_of_mem member) ref queued, ?_⟩
  rw [frame.minerHotkey (exclusive.queue _ ref queued).1]
  exact sameMiner

/-! ### The selection -/

theorem consider_keeps {selection : Selection} (view : TickView) (entry : String × PortalExecutor)
    (queued : selection.state.pending.get? executor = some ref) :
    (selection.consider settings view entry).state.pending.get? executor = some ref := by
  rw [Selection.consider]
  split
  · exact queued
  split
  · exact queued
  rcases track_cases selection.state view entry.1 entry.2 with ⟨_, _, tracked⟩ | ⟨_, enrols⟩
  · simp only [tracked]
    exact queued
  · rcases enrols.pending with ⟨_, set⟩ | ⟨_, same⟩
    · have different : executor ≠ entry.2.id := by
        intro equal
        rw [equal, enrols.unqueued] at queued
        cases queued
      simp only [set, PyDict.get?_set_other _ different]
      exact queued
    · simp only [same]
      exact queued

theorem select_keeps (view : TickView)
    (held : state.inFlight.contains executor = true)
    (queued : state.pending.get? executor = some ref) :
    (state.select settings view).1.pending.get? executor = some ref := by
  have loop := List.foldlRecOn
    (motive := fun selection : Selection => selection.state.pending.get? executor = some ref)
    view.snapshot (Selection.consider settings view) (b := ⟨state, [], []⟩) queued
    fun _ queued entry _ => consider_keeps view entry queued
  apply (PyDict.get?_filter_eq_some _ _).mpr
  refine ⟨loop, Bool.or_eq_true_iff.mpr (.inr ?_)⟩
  rw [(frame_candidates state settings view).inFlight]
  exact held

variable {refs : List ℕ}

theorem Committed.fewer {fewer : List ℕ} (committed : Committed settings state refs)
    (sublist : fewer.Sublist refs) : Committed settings state fewer where
  total := by
    have shorter := sublist.length_le
    have total := committed.total
    omega
  perMiner := by
    intro hotkey
    have shorter := sublist.countP_le (p := fun ref => (state.objects ref).minerHotkey = hotkey)
    have perMiner := committed.perMiner hotkey
    omega

theorem Committed.of_frame (committed : Committed settings before refs)
    (exclusive : Exclusive before) (frame : Frame before after)
    (made : ∀ ref ∈ refs, ref < before.allocated) :
    Committed settings after refs where
  total := by
    rw [frame.running]
    exact committed.total
  perMiner := by
    intro hotkey
    have same : refs.countP (fun ref => (after.objects ref).minerHotkey = hotkey) =
        refs.countP fun ref => (before.objects ref).minerHotkey = hotkey := by
      apply List.countP_congr
      intro ref member
      rw [frame.minerHotkey (made ref member)]
    rw [frame.verifyingFor exclusive, same]
    exact committed.perMiner hotkey

theorem select_length (state : State) (settings : Settings) (view : TickView) :
    ((state.select settings view).2.length : ℤ) ≤
      max (settings.maxInFlight - (state.select settings view).1.expressInFlight.length) 0 :=
  chooseUnderCaps_length _ _ _ _ _

theorem select_perMiner (state : State) (settings : Settings) (view : TickView) (hotkey : String) :
    let chosen := (state.select settings view).2.countP fun ref =>
      ((state.select settings view).1.objects ref).minerHotkey = hotkey
    chosen = 0 ∨ ((state.select settings view).1.countedMiners.count hotkey : ℤ) + chosen ≤
      settings.maxInFlightPerMiner :=
  chooseUnderCaps_perMiner _ _ _ _ _ _

theorem select_committed (exclusive : Exclusive state) (counted : Counted state)
    (committed : Committed settings state []) (view : TickView) :
    Committed settings (state.select settings view).1 (state.select settings view).2 := by
  have frame := frame_select state settings view
  have queue := (select_sound exclusive.queue settings view).1
  have selectedExclusive := exclusive.of_frame frame queue
  have selectedCounted : Counted (state.select settings view).1 := by
    apply counted.of_frame exclusive frame
    intro executor verifying ref queued
    exact select_keeps view (exclusive.contains_of_verifying verifying) queued
  have inFlight := selectedExclusive.expressInFlight_length
  have running := committed.total
  refine ⟨?_, ?_⟩
  · have room := select_length state settings view
    rw [inFlight, frame.running] at room
    rw [frame.running]
    simp only [List.length_nil, Nat.cast_zero] at running
    omega
  · intro hotkey
    have choice := select_perMiner state settings view hotkey
    have perMiner := committed.perMiner hotkey
    rw [← frame.verifyingFor exclusive] at perMiner
    have bound := selectedCounted.verifyingFor_le selectedExclusive hotkey
    simp only [List.countP_nil, Nat.cast_zero] at perMiner
    rcases choice with none | some <;> omega

theorem Capped.select (exclusive : Exclusive state) (capped : Capped settings state)
    (idle : state.ticks = []) (view : TickView) :
    Capped settings (state.tickSelects settings view) := by
  have committed := capped.committed
  rw [idle, List.flatten_nil] at committed
  have selected := select_committed exclusive capped.counted committed view
  rcases tickSelects_cases exclusive.queue settings view with
    ⟨next, marks, selects, ended⟩
  have counted : Counted next := by
    apply capped.counted.of_frame exclusive selects.frame
    intro executor verifying ref queued
    rw [marks.pending]
    exact select_keeps view (exclusive.contains_of_verifying verifying) queued
  have nextCommitted : Committed settings next (state.select settings view).2 := by
    apply selected.of_frame (exclusive.of_frame (frame_select state settings view)
      (select_sound exclusive.queue settings view).1) marks.frame
    exact fun ref member => marks.allocated ▸ (selects.selectable ref member).1
  have nextExclusive := exclusive.of_frame selects.frame selects.queue
  have noTicks : next.ticks = [] := selects.frame.ticks.trans idle
  rcases ended with ⟨nothing, unchanged⟩ | ⟨_, queued⟩
  · rw [unchanged]
    rw [nothing] at nextCommitted
    refine ⟨by rw [noTicks]; exact Nat.zero_le _, by rw [noTicks]; exact nextCommitted, counted, ?_⟩
    rw [noTicks]
    intro tick member
    cases member
  · rw [queued, noTicks, List.nil_append]
    refine ⟨le_rfl, ?_, counted, ?_⟩
    · simp only [List.flatten_singleton]
      exact ⟨nextCommitted.total, nextCommitted.perMiner⟩
    · intro tick member ref inTick
      rw [List.mem_singleton.mp member] at inTick ⊢
      refine ⟨selects.selectable ref inTick, ?_⟩
      intro verifying
      have held : next.inFlight.contains (next.executorId ref) = true :=
        nextExclusive.contains_of_verifying verifying
      rw [selects.free ref inTick] at held
      cases held

/-! ### The launch -/

/-- An object whose turn in the launch is still to come: it can be launched only while the
queue holds it, or if it was selected once for a recheck. -/
def State.Awaited (state : State) (miners : List String) (refs : List ℕ) (ref : ℕ) : Prop :=
  ref < state.allocated ∧
    (((state.objects ref).recheckOnly = false ∧
        (state.pending.get? (state.executorId ref) = some ref ∨
          (state.pending.get? (state.executorId ref) = none ∧
            (state.objects ref).minerHotkey ∉ miners))) ∨
      ((state.objects ref).recheckOnly = true ∧
        (state.objects ref).attempts + refs.count ref ≤ 1))

structure Launching (settings : Settings) (miners : List String) (state : State)
    (refs : List ℕ) : Prop where
  exclusive : Exclusive state
  committed : Committed settings state refs
  counted : Counted state
  awaited : ∀ ref ∈ refs, state.Awaited miners refs ref

variable {miners : List String}

theorem State.Awaited.of_count_le {fewer : List ℕ}
    (awaited : state.Awaited miners refs ref) (fewerTimes : fewer.count ref ≤ refs.count ref) :
    state.Awaited miners fewer ref := by
  rcases awaited with ⟨made, queued | ⟨recheck, once⟩⟩
  · exact ⟨made, .inl queued⟩
  · exact ⟨made, .inr ⟨recheck, by omega⟩⟩

variable {rest : List ℕ}

theorem Launching.skip
    (launching : Launching settings miners state (ref :: rest)) :
    Launching settings miners state rest where
  exclusive := launching.exclusive
  committed := launching.committed.fewer (List.sublist_cons_self ref rest)
  counted := launching.counted
  awaited := fun other member =>
    (launching.awaited other (List.mem_cons_of_mem _ member)).of_count_le
      ((List.sublist_cons_self ref rest).count_le other)

/-- A chosen executor whose miner is not serving is put off. -/
def State.putOff (state : State) (settings : Settings) (ref : ℕ) (now : ℤ) : State :=
  (state.mutate ref fun pending => { pending with attempts := pending.attempts + 1 }).defer
    settings ref .other now

theorem settles_putOff (ref : ℕ) (now : ℤ) : Settles state (state.putOff settings ref now) ref :=
  (Settles.mutate state ref).trans (.defer _ _ _ _ _)

theorem putOff_attempts (ref : ℕ) (now : ℤ) :
    ((state.putOff settings ref now).objects ref).attempts = (state.objects ref).attempts + 1 := by
  rw [State.putOff, State.defer]
  split <;> simp only [State.leaveToCycle, State.mutate, Function.update_self]

theorem putOff_pending (ref : ℕ) (now : ℤ) (executor : String) :
    (state.putOff settings ref now).pending.get? executor = state.pending.get? executor ∨
      (executor = state.executorId ref ∧ maxAttempts ≤ (state.objects ref).attempts + 1 ∧
        (state.putOff settings ref now).pending.get? executor = none) := by
  have tried : (state.mutate ref fun pending =>
      { pending with attempts := pending.attempts + 1 }).executorId ref = state.executorId ref := by
    simp only [State.executorId, State.mutate, Function.update_self]
  rw [State.putOff, State.defer]
  split
  case isTrue last =>
    simp only [State.leaveToCycle, tried, PyDict.get?_erase]
    split
    case isTrue same =>
      refine .inr ⟨same, ?_, rfl⟩
      simpa [State.mutate, State.maxAttemptsFor] using last
    case isFalse => exact .inl rfl
  case isFalse => exact .inl rfl

/-- What is left to launch stays so when the head is put off: an object that was queued with it
leaves the queue with it, and has the same miner. -/
theorem State.Awaited.putOff {other : ℕ}
    (head : state.Awaited miners (ref :: rest) ref)
    (awaited : state.Awaited miners (ref :: rest) other)
    (notServing : (state.objects ref).minerHotkey ∉ miners) (now : ℤ) :
    (state.putOff settings ref now).Awaited miners rest other := by
  have settles : Settles state (state.putOff settings ref now) ref := settles_putOff ref now
  have frame := settles.frame
  have made := awaited.1
  refine ⟨made.trans_le frame.allocated, ?_⟩
  rw [frame.recheckOnly made, frame.executorId made, frame.minerHotkey made]
  rcases awaited.2 with ⟨notRecheck, queued⟩ | ⟨recheck, once⟩
  · refine .inl ⟨notRecheck, ?_⟩
    rcases putOff_pending ref now (state.executorId other) with same | ⟨isRef, last, gone⟩
    · rw [same]
      exact queued
    · refine .inr ⟨gone, ?_⟩
      rcases queued with queued | ⟨_, otherNotServing⟩
      · rcases head.2 with ⟨_, headQueued | ⟨absent, _⟩⟩ | ⟨_, headOnce⟩
        · rw [← isRef, queued] at headQueued
          rw [Option.some.inj headQueued]
          exact notServing
        · rw [← isRef, queued] at absent
          cases absent
        · -- a recheck is never the last attempt here
          rw [List.count_cons_self, maxAttempts] at *
          omega
      · exact otherNotServing
  · refine .inr ⟨recheck, ?_⟩
    by_cases same : other = ref
    · rw [same, List.count_cons_self] at once
      rw [same, putOff_attempts]
      omega
    · rw [List.count_cons_of_ne (Ne.symm same)] at once
      rw [settles.others other same]
      exact once

theorem Launching.putOff
    (launching : Launching settings miners state (ref :: rest))
    (free : ¬state.inFlight.contains (state.executorId ref))
    (notServing : (state.objects ref).minerHotkey ∉ miners) (now : ℤ) :
    Launching settings miners (state.putOff settings ref now) rest := by
  have settles : Settles state (state.putOff settings ref now) ref := settles_putOff ref now
  have made : ∀ other ∈ rest, other < state.allocated :=
    fun other member => (launching.awaited other (List.mem_cons_of_mem _ member)).1
  constructor
  · exact launching.exclusive.settle settles
  · exact launching.skip.committed.of_frame launching.exclusive settles.frame made
  · apply launching.counted.of_frame launching.exclusive settles.frame
    intro executor verifying queuedRef queued
    rcases settles.pending executor with same | ⟨isRef, _⟩
    · exact same.trans queued
    · exact absurd (launching.exclusive.contains_of_verifying verifying) (isRef ▸ free)
  · intro other member
    exact (launching.awaited ref List.mem_cons_self).putOff
      (launching.awaited other (List.mem_cons_of_mem _ member)) notServing now

theorem verify_verifyingFor (ref : ℕ) (hotkey : String) :
    ((state.verify ref).verifyingFor hotkey).length = (state.verifyingFor hotkey).length +
      if (state.objects ref).minerHotkey = hotkey then 1 else 0 := by
  change ((state.running ++ [_]).filter fun verification : Verification =>
    (state.objects verification.ref).minerHotkey = hotkey).length = _
  rw [List.filter_append, List.length_append, State.verifyingFor]
  by_cases same : (state.objects ref).minerHotkey = hotkey <;> simp [same]

theorem Committed.verify
    (committed : Committed settings state (ref :: rest)) :
    Committed settings (state.verify ref) rest where
  total := by
    have total := committed.total
    simp only [State.verify, List.length_append, List.length_cons, List.length_nil] at total ⊢
    push_cast at total ⊢
    omega
  perMiner := by
    intro hotkey
    have perMiner := committed.perMiner hotkey
    change (((state.verify ref).verifyingFor hotkey).length : ℤ) +
      rest.countP (fun ref => (state.objects ref).minerHotkey = hotkey) ≤ _
    rw [verify_verifyingFor]
    rw [List.countP_cons] at perMiner
    simp only [decide_eq_true_eq] at perMiner
    push_cast at perMiner ⊢
    omega

theorem Counted.verify (counted : Counted state)
    (idle : state.executorId ref ∉ state.verifying)
    (queued : (state.objects ref).recheckOnly = false →
      state.pending.get? (state.executorId ref) = some ref) :
    Counted (state.verify ref) := by
  intro verification member
  rcases List.mem_append.mp member with earlier | now
  · have different : state.executorId verification.ref ≠ state.executorId ref := by
      intro same
      rw [← same] at idle
      exact idle (List.mem_map_of_mem (f := fun running => state.executorId running.ref) earlier)
    rcases counted verification earlier with ⟨asRecheck, asQueued⟩
    refine ⟨?_, asQueued⟩
    intro recheck
    have held := asRecheck recheck
    change (state.verify ref).rechecksInFlight.get? (state.executorId verification.ref) =
      some (state.objects verification.ref).minerHotkey
    rw [← held]
    simp only [State.verify]
    split
    · exact PyDict.get?_set_other _ different _
    · rfl
  · rw [List.mem_singleton.mp now]
    constructor
    · intro recheck
      have isRecheck : (state.objects ref).recheckOnly = true := recheck
      simp only [State.verify, isRecheck, if_true]
      exact PyDict.get?_set_self _ _ _
    · intro notRecheck
      exact ⟨ref, queued notRecheck, rfl⟩

theorem Launching.verify
    (launching : Launching settings miners state (ref :: rest))
    (free : ¬state.inFlight.contains (state.executorId ref))
    (serving : (state.objects ref).minerHotkey ∈ miners) :
    Launching settings miners (state.verify ref) rest := by
  have head := launching.awaited ref List.mem_cons_self
  constructor
  · exact launching.exclusive.verify head.1 free
  · exact launching.committed.verify
  · apply launching.counted.verify
    · intro verifying
      exact free (launching.exclusive.contains_of_verifying verifying)
    · intro notRecheck
      rcases head.2 with ⟨_, queued | ⟨_, notServing⟩⟩ | ⟨recheck, _⟩
      · exact queued
      · exact (notServing serving).elim
      · rw [notRecheck] at recheck
        cases recheck
  · exact launching.skip.awaited

theorem Launching.launchOne
    (launching : Launching settings miners state (ref :: rest)) (now : ℤ) :
    Launching settings miners (state.launchOne settings miners now ref) rest := by
  rw [State.launchOne]
  split
  · exact launching.skip
  case isFalse free =>
    split
    · exact launching.skip
    split
    case isTrue notServing => exact launching.putOff free notServing now
    case isFalse serving => exact launching.verify free (not_not.mp serving)

theorem Launching.foldl
    (launching : Launching settings miners state refs) (now : ℤ) :
    Launching settings miners (refs.foldl (State.launchOne settings miners now) state) [] := by
  induction refs generalizing state with
  | nil => exact launching
  | cons ref rest induction => exact induction (launching.launchOne now)

theorem launchOne_ticks (miners : List String) (now : ℤ) (ref : ℕ) :
    (state.launchOne settings miners now ref).ticks = state.ticks := by
  rw [State.launchOne]
  split
  · rfl
  split
  · rfl
  split
  · have settles : Settles state (state.putOff settings ref now) ref := settles_putOff ref now
    exact settles.frame.ticks
  · rfl

theorem Capped.launch (exclusive : Exclusive state) (capped : Capped settings state)
    {tick : List ℕ} (member : tick ∈ state.ticks) (miners : List String) (now : ℤ) :
    Capped settings (state.launch settings miners now tick) := by
  have only : state.ticks = [tick] := by
    have single := capped.single
    cases ticks : state.ticks with
    | nil =>
      rw [ticks] at member
      cases member
    | cons first rest =>
      rw [ticks] at member single
      have noMore : rest = [] := List.length_eq_zero_iff.mp (by simpa using single)
      rw [noMore] at member ⊢
      rw [List.mem_singleton.mp member]
  have launching : Launching settings miners { state with ticks := state.ticks.erase tick } tick := by
    have committed := capped.committed
    rw [only, List.flatten_singleton] at committed
    refine ⟨exclusive.with_fewer_ticks tick, ⟨committed.total, committed.perMiner⟩,
      capped.counted, ?_⟩
    intro ref inTick
    rcases (capped.waiting tick member ref inTick).1 with ⟨made, ⟨notRecheck, queued⟩ | recheck⟩
    · exact ⟨made, .inl ⟨notRecheck, .inl queued⟩⟩
    · exact ⟨made, .inr recheck⟩
  have ended := launching.foldl now
  have launched := List.foldlRecOn (motive := fun next : State => next.ticks = []) tick
    (State.launchOne settings miners now) (b := { state with ticks := state.ticks.erase tick })
    (by rw [only, List.erase_cons_head])
    fun _ none ref _ => (launchOne_ticks miners now ref).trans none
  rw [State.launch]
  refine ⟨by rw [launched]; exact Nat.zero_le _, by rw [launched]; exact ended.committed,
    ended.counted, ?_⟩
  rw [launched]
  intro other none
  cases none

/-! ### The end of a verification -/

theorem Committed.verified (committed : Committed settings state refs)
    (verification : Verification) : Committed settings (state.verified verification) refs where
  total := by
    have fewer : (state.running.erase verification).length ≤ state.running.length :=
      List.erase_sublist.length_le
    have total := committed.total
    simp only [State.verified]
    omega
  perMiner := by
    intro hotkey
    have fewer : ((state.verified verification).verifyingFor hotkey).length ≤
        (state.verifyingFor hotkey).length := (List.erase_sublist.filter _).length_le
    have perMiner := committed.perMiner hotkey
    change (((state.verified verification).verifyingFor hotkey).length : ℤ) +
      refs.countP (fun ref => (state.objects ref).minerHotkey = hotkey) ≤ _
    omega

theorem Exclusive.made_of_ticks (exclusive : Exclusive state) :
    ∀ ref ∈ state.ticks.flatten, ref < state.allocated := by
  intro ref inTicks
  rcases List.mem_flatten.mp inTicks with ⟨tick, inTick, selected⟩
  exact exclusive.ticks tick inTick ref selected

namespace Settles

section

variable (settles : Settles state after verification.ref)
include settles

theorem mem_verifying (exclusive : Exclusive state)
    (member : verification ∈ state.running)
    (stays : executor ∈ (after.verified verification).verifying) :
    executor ≠ state.executorId verification.ref ∧ executor ∈ state.verifying := by
  have stillRunning : verification ∈ after.running := settles.frame.running ▸ member
  have settled := exclusive.settle settles
  rcases (settled.mem_verifying_erase stillRunning _).mp stays with ⟨different, before⟩
  rw [settles.executorId] at different
  rw [settles.frame.verifying exclusive.running] at before
  exact ⟨different, before⟩

theorem counted (exclusive : Exclusive state)
    (counted : Counted state) (member : verification ∈ state.running) :
    Counted (after.verified verification) := by
  intro other remains
  have frame := settles.frame
  have running : other ∈ state.running := frame.running ▸ List.mem_of_mem_erase remains
  have made := exclusive.running other running
  have different : state.executorId other.ref ≠ state.executorId verification.ref := by
    have stays : state.executorId other.ref ∈ (after.verified verification).verifying := by
      rw [← frame.executorId made]
      exact List.mem_map_of_mem (f := fun verification : Verification =>
        after.executorId verification.ref) remains
    exact (settles.mem_verifying exclusive member stays).1
  rcases counted other running with ⟨asRecheck, asQueued⟩
  change ((after.objects other.ref).recheckOnly = true →
      (after.rechecksInFlight.erase (after.executorId verification.ref)).get?
        (after.executorId other.ref) = some (after.objects other.ref).minerHotkey) ∧
    ((after.objects other.ref).recheckOnly = false →
      ∃ ref, after.pending.get? (after.executorId other.ref) = some ref ∧
        (after.objects ref).minerHotkey = (after.objects other.ref).minerHotkey)
  rw [frame.recheckOnly made, frame.minerHotkey made, frame.executorId made,
    settles.executorId, PyDict.get?_erase, if_neg different, frame.rechecksInFlight,
    settles.keeps different]
  refine ⟨asRecheck, ?_⟩
  intro notRecheck
  rcases asQueued notRecheck with ⟨ref, queued, sameMiner⟩
  refine ⟨ref, queued, ?_⟩
  rw [frame.minerHotkey (exclusive.queue _ ref queued).1]
  exact sameMiner

theorem selectable
    (selectable : state.Selectable refs ref)
    (different : state.executorId ref ≠ state.executorId verification.ref) :
    after.Selectable refs ref := by
  have made := selectable.1
  have otherRef : ref ≠ verification.ref := fun same => different (congrArg _ same)
  refine ⟨made.trans_le settles.frame.allocated, ?_⟩
  rw [settles.frame.executorId made, settles.others ref otherRef, settles.keeps different]
  exact selectable.2

end

end Settles

theorem Capped.finish (exclusive : Exclusive state) (capped : Capped settings state)
    (member : verification ∈ state.running) (ending : State.Ending) (now : ℤ) :
    Capped settings ((state.concluded settings now verification ending).verified verification) := by
  have settles := Settles.concluded state settings now verification ending
  generalize state.concluded settings now verification ending = after at settles
  have frame := settles.frame
  constructor
  · exact frame.ticks ▸ capped.single
  · have committed := (capped.committed.of_frame exclusive frame
      exclusive.made_of_ticks).verified verification
    rw [← frame.ticks] at committed
    exact committed
  · exact settles.counted exclusive capped.counted member
  · intro tick inTicks ref inTick
    rcases capped.waiting tick (frame.ticks ▸ inTicks) ref inTick with ⟨selectable, idle⟩
    constructor
    · apply settles.selectable selectable
      intro same
      rw [same] at idle
      exact idle (List.mem_map_of_mem member)
    · intro verifying
      have stays := (settles.mem_verifying exclusive member verifying).2
      exact idle (frame.executorId selectable.1 ▸ stays)

/-! ### Every stretch of code -/

theorem Capped.with_wave (capped : Capped settings state) (inFlight : PyDict String Lane)
    (minersAwaitingWaveList : PyDict String String) (recheckRuns : String → ℕ)
    (claims : List (List String)) :
    Capped settings
      { state with inFlight, minersAwaitingWaveList, recheckRuns, claims } :=
  { capped with committed := { capped.committed with } }

theorem Capped.abandon (capped : Capped settings state) (tick : List ℕ) :
    Capped settings { state with ticks := state.ticks.erase tick } := by
  have committed := capped.committed.fewer (List.erase_sublist (a := tick)).flatten
  exact
    { capped with
      single := List.erase_sublist.length_le.trans capped.single
      committed := { committed with }
      waiting := fun other member => capped.waiting other (List.mem_of_mem_erase member) }

theorem Capped.step {next : State} (few : overlap ≤ 1) (exclusive : Exclusive state)
    (capped : Capped settings state) (step : Step settings overlap state next) :
    Capped settings next := by
  cases step with
  | startAwaiting jobBatchId hotkeys => exact capped.with_wave _ _ _ _
  | stopAwaiting hotkey jobBatchId =>
    rw [State.stopAwaitingWaveList]
    split
    · exact capped.with_wave _ _ _ _
    · exact capped
  | claim hotkey jobBatchId listed single =>
    simp only [State.claimForCycle, State.stopAwaitingWaveList]
    split <;> exact capped.with_wave _ _ _ _
  | release executors member => exact capped.with_wave _ _ _ _
  | requestEnds executor verifying =>
    rw [exclusive.requestEnds verifying]
    exact capped
  | forgetCycleDone => exact capped.with_wave _ _ _ _
  | select view room =>
    have idle : state.ticks = [] := List.length_eq_zero_iff.mp (by omega)
    exact capped.select exclusive idle view
  | abandon tick => exact capped.abandon tick
  | launch tick miners now member => exact capped.launch exclusive member miners now
  | endRecheck executor => exact capped.with_wave _ _ _ _
  | finish verification ending now member => exact capped.finish exclusive member ending now

theorem Capped.start (total : 0 ≤ settings.maxInFlight)
    (perMiner : 0 ≤ settings.maxInFlightPerMiner) : Capped settings .start := by
  refine ⟨Nat.zero_le _, ⟨total, fun _ => perMiner⟩, ?_, ?_⟩
  · intro verification member
    cases member
  · intro tick member
    cases member

theorem Capped.of_reaches (few : overlap ≤ 1) (total : 0 ≤ settings.maxInFlight)
    (perMiner : 0 ≤ settings.maxInFlightPerMiner) (reaches : Reaches settings overlap state) :
    Capped settings state := by
  induction reaches with
  | start => exact Capped.start total perMiner
  | step earlier taken induction =>
    exact induction.step few (Exclusive.of_reaches earlier) taken

/-! ## A cap of zero -/

theorem select_nothing (capZero : settings.maxInFlight = 0 ∨ settings.maxInFlightPerMiner = 0)
    (view : TickView) : (state.select settings view).2 = [] := by
  rcases capZero with total | perMiner
  · apply List.length_eq_zero_iff.mp
    have room := select_length state settings view
    omega
  · apply List.eq_nil_iff_forall_not_mem.mpr
    intro ref member
    have choice := select_perMiner state settings view
      ((state.select settings view).1.objects ref).minerHotkey
    have positive := List.countP_pos_iff (p := fun other : ℕ =>
      ((state.select settings view).1.objects other).minerHotkey =
        ((state.select settings view).1.objects ref).minerHotkey).mpr
      ⟨ref, member, decide_eq_true rfl⟩
    omega

theorem idle_of_reaches (capZero : settings.maxInFlight = 0 ∨ settings.maxInFlightPerMiner = 0)
    (reaches : Reaches settings overlap state) : state.ticks = [] ∧ state.running = [] := by
  induction reaches with
  | start => exact ⟨rfl, rfl⟩
  | @step state next earlier taken induction =>
    rcases induction with ⟨noTicks, noneRunning⟩
    cases taken with
    | startAwaiting jobBatchId hotkeys => exact ⟨noTicks, noneRunning⟩
    | stopAwaiting hotkey jobBatchId =>
      rw [State.stopAwaitingWaveList]
      split <;> exact ⟨noTicks, noneRunning⟩
    | claim hotkey jobBatchId listed single =>
      simp only [State.claimForCycle, State.stopAwaitingWaveList]
      split <;> exact ⟨noTicks, noneRunning⟩
    | release executors member => exact ⟨noTicks, noneRunning⟩
    | requestEnds executor verifying => exact ⟨noTicks, noneRunning⟩
    | forgetCycleDone => exact ⟨noTicks, noneRunning⟩
    | select view room =>
      have nothing : (state.select settings view).2 = [] := select_nothing capZero view
      rcases tickSelects_cases (Exclusive.of_reaches earlier).queue settings view with
        ⟨selected, _, selects, ⟨_, unchanged⟩ | ⟨some, _⟩⟩
      · rw [unchanged, selects.frame.ticks, selects.frame.running]
        exact ⟨noTicks, noneRunning⟩
      · exact (some nothing).elim
    | abandon tick =>
      refine ⟨?_, noneRunning⟩
      simp only [noTicks, List.erase_nil]
    | launch tick miners now member =>
      rw [noTicks] at member
      cases member
    | endRecheck executor => exact ⟨noTicks, noneRunning⟩
    | finish verification ending now member =>
      rw [noneRunning] at member
      cases member

end Lium.ExpressLane
