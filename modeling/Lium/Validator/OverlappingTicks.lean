import Lium.Validator.ExpressCaps

/-! # Overlapping ticks

Two ticks that both select before either launches count the same room. From any number of
verifications below the cap they start one too many, so the caps hold just if a selection is
launched before the next one is made.
-/

namespace Lium.ExpressLane

variable {settings : Settings} {state : State}

def freshName (index : ℕ) : String := String.ofList (List.replicate index 'x')

theorem freshName_ne {first second : ℕ} (different : first ≠ second) :
    freshName first ≠ freshName second := by
  intro same
  have lists := String.ofList_injective same
  exact different (by simpa using congrArg List.length lists)

def newcomer (settings : Settings) (name : String) : TickView :=
  ⟨[(name, ⟨name, settings.myHotkey, some 0⟩)], [], 0, [], 0, 0, 0⟩

/-- The lane has met the first names only, and each as its own miner's executor. -/
structure Tame (state : State) (names : ℕ) : Prop where
  awaiting : state.minersAwaitingWaveList = .empty
  left : state.leftToCycle = []
  rechecks : state.rechecksInFlight = .empty
  hotkeys : ∀ ref < state.allocated, (state.objects ref).minerHotkey = state.executorId ref
  unheld : ∀ index ≥ names, state.inFlight.get? (freshName index) = none
  unqueued : ∀ index ≥ names, state.pending.get? (freshName index) = none

def State.withNewcomer (state : State) (settings : Settings) (name : String) : State :=
  { state with
    objects := Function.update state.objects state.allocated
      ⟨⟨name, settings.myHotkey, some 0⟩, name, 0, 0, 0, 0, none, false, false⟩
    allocated := state.allocated + 1
    pending := state.pending.set name state.allocated }

variable {names index : ℕ}

section Newcomer

variable {name : String} (tame : Tame state names) (unheld : state.inFlight.get? name = none)
  (unqueued : state.pending.get? name = none)

include tame

theorem withNewcomer_hotkeys :
    ∀ ref < state.allocated + 1,
      ((state.withNewcomer settings name).objects ref).minerHotkey =
        (state.withNewcomer settings name).executorId ref := by
  intro ref made
  by_cases new : ref = state.allocated
  · simp only [State.withNewcomer, State.executorId, new, Function.update_self]
  · have older : ref < state.allocated := by omega
    simp only [State.withNewcomer, State.executorId, Function.update_of_ne new]
    exact tame.hotkeys ref older

include unheld unqueued

theorem candidates_newcomer :
    state.candidates settings (newcomer settings name) =
      ⟨state.withNewcomer settings name, [name], [state.allocated]⟩ := by
  have isNew : state.newToLane (newcomer settings name) ⟨name, settings.myHotkey, some 0⟩ =
      true := by
    simp [State.newToLane, newcomer, tame.left, restartLookback]
  have tracked : state.track (newcomer settings name) name ⟨name, settings.myHotkey, some 0⟩ =
      (state.allocated, state.withNewcomer settings name) := by
    simp only [State.track, unqueued, isNew, if_true, State.withNewcomer]
    rfl
  have ready : (state.withNewcomer settings name).waits (newcomer settings name) name
      ⟨name, settings.myHotkey, some 0⟩ state.allocated = false := by
    simp [State.waits, State.withNewcomer, PyDict.contains, unheld, tame.awaiting, newcomer]
  change Selection.consider settings (newcomer settings name) ⟨state, [], []⟩
    (name, ⟨name, settings.myHotkey, some 0⟩) = _
  simp only [Selection.consider, isNew, tracked, ready]
  simp

def State.enrolled (state : State) (settings : Settings) (name : String) : State :=
  (state.withNewcomer settings name).prune [name]

theorem select_newcomer (exclusive : Exclusive state)
    (room : (state.running.length : ℤ) < settings.maxInFlight)
    (perMiner : 1 ≤ settings.maxInFlightPerMiner) :
    state.select settings (newcomer settings name) =
      (state.enrolled settings name, [state.allocated]) := by
  have frame := frame_select state settings (newcomer settings name)
  have queue := (select_sound exclusive.queue settings (newcomer settings name)).1
  have selected : (state.select settings (newcomer settings name)).1 =
      state.enrolled settings name := by
    simp only [State.select, candidates_newcomer tame unheld unqueued]
    rfl
  rw [selected] at frame queue
  have inFlight := (exclusive.of_frame frame queue).expressInFlight_length
  rw [frame.running] at inFlight
  have uncounted : name ∉ (state.enrolled settings name).countedMiners := by
    intro counted
    rcases List.mem_append.mp counted with queued | recheck
    · rcases List.mem_filterMap.mp queued with ⟨executor, held, found⟩
      rcases Option.map_eq_some_iff.mp found with ⟨ref, isQueued, sameMiner⟩
      rcases queue executor ref isQueued with ⟨made, isFor, _⟩
      have own : ((state.enrolled settings name).objects ref).minerHotkey =
          (state.enrolled settings name).executorId ref :=
        withNewcomer_hotkeys tame ref made
      rw [own, isFor] at sameMiner
      rw [mem_expressInFlight, sameMiner, frame.inFlight, unheld] at held
      cases held
    · have none : (state.enrolled settings name).rechecksInFlight.values = [] := by
        rw [frame.rechecksInFlight, tame.rechecks]
        rfl
      rw [none] at recheck
      cases recheck
  have chosen : (state.select settings (newcomer settings name)).2 = [state.allocated] := by
    simp only [State.select, candidates_newcomer tame unheld unqueued, List.insertionSort_cons,
      List.insertionSort_nil, List.orderedInsert_nil]
    change chooseUnderCaps settings.maxInFlightPerMiner
      (fun ref => ((state.enrolled settings name).objects ref).minerHotkey)
      (settings.maxInFlight - (state.enrolled settings name).expressInFlight.length)
      (state.enrolled settings name).countedMiners [state.allocated] = _
    have hotkey : ((state.enrolled settings name).objects state.allocated).minerHotkey = name := by
      simp only [State.enrolled, State.prune, State.withNewcomer, Function.update_self]
    rw [chooseUnderCaps, if_neg (by omega), hotkey,
      List.count_eq_zero_of_not_mem uncounted, if_neg (by omega), chooseUnderCaps]
  exact Prod.ext selected chosen

structure Waits (before after : State) (name : String) : Prop where
  running : after.running = before.running
  inFlight : after.inFlight = before.inFlight
  ticks : after.ticks = before.ticks ++ [[before.allocated]]
  allocated : after.allocated = before.allocated + 1
  executorId : after.executorId before.allocated = name
  recheckOnly : (after.objects before.allocated).recheckOnly = false
  others : ∀ ref < before.allocated, (after.objects ref).identity = (before.objects ref).identity

theorem tickSelects_newcomer (exclusive : Exclusive state)
    (room : (state.running.length : ℤ) < settings.maxInFlight)
    (perMiner : 1 ≤ settings.maxInFlightPerMiner) (more : names ≤ index)
    (others : ∀ later ≥ index, freshName later ≠ name) :
    Waits state (state.tickSelects settings (newcomer settings name)) name ∧
      Tame (state.tickSelects settings (newcomer settings name)) index := by
  have selected := select_newcomer tame unheld unqueued exclusive room perMiner
  have marked : ∀ ref, (((state.enrolled settings name).markRequested
      (newcomer settings name) state.allocated).objects ref).identity =
        ((state.withNewcomer settings name).objects ref).identity := by
    intro ref
    by_cases same : ref = state.allocated
    · simp only [State.markRequested, State.mutate, same, Function.update_self]
      rfl
    · simp only [State.markRequested, State.mutate, Function.update_of_ne same]
      rfl
  have new : (state.withNewcomer settings name).objects state.allocated =
      ⟨⟨name, settings.myHotkey, some 0⟩, name, 0, 0, 0, 0, none, false, false⟩ := by
    simp only [State.withNewcomer, Function.update_self]
  have markedNew := marked state.allocated
  rw [new] at markedNew
  simp only [State.tickSelects, selected, List.foldl_cons, List.foldl_nil, List.isEmpty_cons,
    Bool.false_eq_true, if_false]
  refine ⟨⟨rfl, rfl, rfl, rfl, congrArg (fun identity => identity.1.id) markedNew,
    congrArg (fun identity => identity.2.2) markedNew, ?_⟩,
    ⟨tame.awaiting, tame.left, tame.rechecks, ?_, ?_, ?_⟩⟩
  · intro ref older
    rw [marked ref]
    simp only [State.withNewcomer, Function.update_of_ne (Nat.ne_of_lt older)]
  · intro ref made
    have own : ((state.withNewcomer settings name).objects ref).minerHotkey =
        (state.withNewcomer settings name).executorId ref :=
      withNewcomer_hotkeys tame ref made
    have same := marked ref
    exact (congrArg (fun identity => identity.2.1) same).trans
      (own.trans (congrArg (fun identity => identity.1.id) same).symm)
  · intro later isLater
    exact tame.unheld later (more.trans isLater)
  · intro later isLater
    have unqueued := tame.unqueued later (more.trans isLater)
    change ((state.pending.set name state.allocated).filter _).get? (freshName later) = none
    rw [PyDict.get?_filter, PyDict.get?_set_other _ (others later isLater), unqueued,
      Option.filter_none]

end Newcomer

theorem Tame.launch (tame : Tame state names) (settings : Settings) {ref : ℕ}
    (made : ref < state.allocated) (isName : state.executorId ref = freshName index)
    (known : index < names) (notRecheck : (state.objects ref).recheckOnly = false)
    (unheld : state.inFlight.get? (freshName index) = none) :
    state.launch settings [freshName index] 0 [ref] =
        ({ state with ticks := state.ticks.erase [ref] } : State).verify ref ∧
      Tame (({ state with ticks := state.ticks.erase [ref] } : State).verify ref) names := by
  have hotkey : (state.objects ref).minerHotkey = freshName index :=
    (tame.hotkeys ref made).trans isName
  have isFor : (state.objects ref).executor.id = freshName index := isName
  refine ⟨?_, { tame with rechecks := ?_, unheld := ?_ }⟩
  · simp [State.launch, State.launchOne, State.executorId, isFor, hotkey, PyDict.contains, unheld,
      tame.awaiting]
  · simp only [State.verify, notRecheck]
    exact tame.rechecks
  · intro later isLater
    have different : freshName later ≠ freshName index := freshName_ne (by omega)
    simp only [State.verify, State.executorId, isFor]
    rw [PyDict.get?_set_other _ different]
    exact tame.unheld later isLater

theorem tame_start : Tame .start 0 := by
  refine ⟨rfl, rfl, rfl, ?_, fun _ _ => rfl, fun _ _ => rfl⟩
  intro ref made
  cases made

variable {overlap : ℕ}

theorem Reaches.selects (reaches : Reaches settings overlap state)
    (tame : Tame state names) (allowed : state.ticks.length < overlap)
    (room : (state.running.length : ℤ) < settings.maxInFlight)
    (perMiner : 1 ≤ settings.maxInFlightPerMiner) :
    ∃ selected, Reaches settings overlap selected ∧ Waits state selected (freshName names) ∧
      Tame selected (names + 1) := by
  have others : ∀ later ≥ names + 1, freshName later ≠ freshName names := by
    intro later isLater
    exact freshName_ne (by omega)
  rcases tickSelects_newcomer tame (tame.unheld names le_rfl) (tame.unqueued names le_rfl)
    (Exclusive.of_reaches reaches) room perMiner (Nat.le_succ names) others with
    ⟨waits, selectedTame⟩
  exact ⟨_, .step reaches (.select state _ allowed), waits, selectedTame⟩

theorem Reaches.launches {ref : ℕ} (reaches : Reaches settings overlap state)
    (tame : Tame state names) (selected : [ref] ∈ state.ticks) (made : ref < state.allocated)
    (isName : state.executorId ref = freshName index) (known : index < names)
    (notRecheck : (state.objects ref).recheckOnly = false)
    (unheld : state.inFlight.get? (freshName index) = none) :
    Reaches settings overlap
        (({ state with ticks := state.ticks.erase [ref] } : State).verify ref) ∧
      Tame (({ state with ticks := state.ticks.erase [ref] } : State).verify ref) names := by
  rcases tame.launch settings made isName known notRecheck unheld with ⟨launched, nextTame⟩
  have next := Reaches.step reaches (.launch state [ref] [freshName index] 0 selected)
  rw [launched] at next
  exact ⟨next, nextTame⟩

theorem reaches_running (some : 1 ≤ overlap)
    (perMiner : 1 ≤ settings.maxInFlightPerMiner) (count : ℕ)
    (room : (count : ℤ) ≤ settings.maxInFlight) :
    ∃ state, Reaches settings overlap state ∧ state.running.length = count ∧ state.ticks = [] ∧
      Tame state count := by
  induction count with
  | zero => exact ⟨.start, .start, rfl, rfl, tame_start⟩
  | succ count induction =>
    rcases induction (by omega) with ⟨state, reaches, running, noTicks, tame⟩
    rcases reaches.selects tame (by rw [noTicks]; exact some) (by omega) perMiner with
      ⟨selected, selects, waits, selectedTame⟩
    have only : selected.ticks = [[state.allocated]] := by
      rw [waits.ticks, noTicks, List.nil_append]
    have unheld : selected.inFlight.get? (freshName count) = none := by
      rw [waits.inFlight]
      exact tame.unheld count le_rfl
    rcases selects.launches selectedTame (by rw [only]; exact List.mem_cons_self)
      (by rw [waits.allocated]; omega) waits.executorId (Nat.lt_succ_self count)
      waits.recheckOnly unheld with ⟨launched, nextTame⟩
    refine ⟨_, launched, ?_, ?_, nextTame⟩
    · simp only [State.verify, List.length_append, waits.running, running, List.length_cons,
        List.length_nil]
    · simp only [State.verify, only, List.erase_cons_head]

theorem reaches_over_cap (two : 2 ≤ overlap)
    (perMiner : 1 ≤ settings.maxInFlightPerMiner) (positive : 1 ≤ settings.maxInFlight) :
    ∃ state, Reaches settings overlap state ∧
      settings.maxInFlight < state.running.length := by
  rcases reaches_running (by omega : 1 ≤ overlap) perMiner (settings.maxInFlight - 1).toNat
    (by omega) with ⟨state, reaches, running, noTicks, tame⟩
  generalize hcount : (settings.maxInFlight - 1).toNat = count at running tame
  -- both ticks select
  rcases reaches.selects tame (by rw [noTicks]; exact two.trans' (by decide)) (by omega)
    perMiner with ⟨first, firstReaches, firstWaits, firstTame⟩
  have firstTicks : first.ticks = [[state.allocated]] := by
    rw [firstWaits.ticks, noTicks, List.nil_append]
  rcases firstReaches.selects firstTame (by rw [firstTicks]; exact two)
    (by rw [firstWaits.running]; omega) perMiner with
    ⟨second, secondReaches, secondWaits, secondTame⟩
  have secondTicks : second.ticks = [[state.allocated], [first.allocated]] := by
    rw [secondWaits.ticks, firstTicks]
    rfl
  have older : state.allocated < first.allocated := by
    rw [firstWaits.allocated]
    exact Nat.lt_succ_self _
  have firstObject := secondWaits.others state.allocated older
  have firstName : second.executorId state.allocated = freshName count :=
    (congrArg (fun identity => identity.1.id) firstObject).trans firstWaits.executorId
  have unheld : ∀ later ≥ count, second.inFlight.get? (freshName later) = none := by
    intro later isLater
    rw [secondWaits.inFlight, firstWaits.inFlight]
    exact tame.unheld later isLater
  -- the first tick launches, and then the second
  rcases secondReaches.launches secondTame (by rw [secondTicks]; exact List.mem_cons_self)
    (by rw [secondWaits.allocated]; omega) firstName (by omega)
    ((congrArg (fun identity => identity.2.2) firstObject).trans firstWaits.recheckOnly)
    (unheld count le_rfl) with ⟨thirdReaches, thirdTame⟩
  have stillUnheld : (({ second with ticks := second.ticks.erase [state.allocated] } :
      State).verify state.allocated).inFlight.get? (freshName (count + 1)) = none := by
    have different : freshName (count + 1) ≠ second.executorId state.allocated := by
      rw [firstName]
      exact freshName_ne (by omega)
    exact (PyDict.get?_set_other _ different _).trans (unheld (count + 1) (by omega))
  have stillSelected : [first.allocated] ∈ second.ticks.erase [state.allocated] := by
    rw [secondTicks, List.erase_cons_head]
    exact List.mem_cons_self
  have secondMade : first.allocated < second.allocated := by
    rw [secondWaits.allocated]
    exact Nat.lt_succ_self _
  have fourthReaches := (thirdReaches.launches thirdTame stillSelected secondMade
    secondWaits.executorId (Nat.lt_succ_self _) secondWaits.recheckOnly stillUnheld).1
  refine ⟨_, fourthReaches, ?_⟩
  simp only [State.verify, List.length_append, secondWaits.running, firstWaits.running, running,
    List.length_cons, List.length_nil]
  push_cast
  omega

/-- The caps hold in every interleaving just if ticks do not overlap, or a cap is zero. -/
theorem caps_hold_iff (settings : Settings) (overlap : ℕ) :
    (∀ state, Reaches settings overlap state →
      (state.expressInFlight.length : ℤ) ≤ settings.maxInFlight ∧
        ∀ hotkey, ((state.verifyingFor hotkey).length : ℤ) ≤ settings.maxInFlightPerMiner) ↔
      0 ≤ settings.maxInFlight ∧ 0 ≤ settings.maxInFlightPerMiner ∧
        (overlap ≤ 1 ∨ settings.maxInFlight = 0 ∨ settings.maxInFlightPerMiner = 0) := by
  constructor
  · intro hold
    have atStart := hold .start .start
    have total : 0 ≤ settings.maxInFlight := atStart.1
    have perMiner : 0 ≤ settings.maxInFlightPerMiner := atStart.2 ""
    refine ⟨total, perMiner, ?_⟩
    by_contra overlapping
    push Not at overlapping
    rcases overlapping with ⟨two, someTotal, somePerMiner⟩
    have exceeded : ∃ state, Reaches settings overlap state ∧
        settings.maxInFlight < state.running.length :=
      reaches_over_cap two (by omega) (by omega)
    rcases exceeded with ⟨state, reaches, above⟩
    have under := (hold state reaches).1
    rw [(Exclusive.of_reaches reaches).expressInFlight_length] at under
    omega
  · intro condition state reaches
    rcases condition with ⟨total, perMiner, condition⟩
    have exclusive := Exclusive.of_reaches reaches
    rw [exclusive.expressInFlight_length]
    rcases condition with few | capZero
    · have capped := Capped.of_reaches few total perMiner reaches
      refine ⟨?_, ?_⟩
      · have := capped.committed.total
        omega
      · intro hotkey
        have := capped.committed.perMiner hotkey
        omega
    · rcases idle_of_reaches capZero reaches with ⟨_, noneRunning⟩
      refine ⟨by rw [noneRunning]; exact total, ?_⟩
      intro hotkey
      rw [State.verifyingFor, noneRunning]
      exact perMiner

theorem two_ticks_exceed_caps :
    ∃ state, Reaches sampleSettings 2 state ∧ sampleSettings.maxInFlight = 1 ∧
      state.expressInFlight = ["first", "second"] := by
  refine ⟨_, .step (.step (.step (.step .start
    (.select _ (sampleView "miner" "first") ?_)) (.select _ (sampleView "other" "second") ?_))
    (.launch _ [0] ["miner"] 0 ?_)) (.launch _ [1] ["other"] 0 ?_), rfl, ?_⟩
  · decide
  all_goals decide +kernel

end Lium.ExpressLane
