import Mathlib.Data.List.Basic

/-! # Deferred port checks

Under disk pressure `PortConnectivityCheck` publishes the ports of the last completed check again.
What that check found is in Redis; whether it went on record in full is in the process.
-/

namespace Lium.PortDeferral

/-- How an awaited Redis command ends. -/
inductive Fate where
  | done
  | raised (applied : Bool)
  | cancelled (applied : Bool)
deriving DecidableEq, Repr

namespace Fate

def applied : Fate → Bool
  | .done => true
  | .raised applied => applied
  | .cancelled applied => applied

/-- Whether the code around a write takes it for carried out; a cancellation passes it by. -/
def saved : Fate → Option Bool
  | .done => some true
  | .raised _ => some false
  | .cancelled _ => none

end Fate

/-- `DISK_PRESSURE_MAX_DEFERRALS`. -/
def maxDeferrals : ℕ := 3

/-- `VERIFIED_PORTS_MEMORY_TTL_SECONDS`. -/
def memoryTtl : ℕ := 24 * 3600

/-- The ports a completed check verified, with the setup it saw. -/
structure VerifiedPorts where
  identity : String
  pairs : List (ℕ × ℕ)
  measuredAt : ℕ
deriving DecidableEq, Repr

/-- What the runs of one executor leave behind. `completedCheckSavedAt` is the process's entry in
`_COMPLETED_CHECK_SAVED_AT`; the rest is in Redis. -/
structure State where
  completedCheckSavedAt : Option ℕ
  verifiedPorts : Option VerifiedPorts
  deferrals : ℕ
  externalProbeMiss : Bool
  sysboxVerified : Bool
deriving DecidableEq, Repr

variable {state next : State}

inductive ExternalProbe where
  | notAsked
  | passed
  | blocked
deriving DecidableEq, Repr

/-- The result of `verify_ports`. -/
structure Probe where
  successfulPorts : List (ℕ × ℕ)
  externalProbe : ExternalProbe
  sysboxMeasured : Option Bool
deriving DecidableEq, Repr

/-- What one run meets. An await that a branch does not reach is not looked at. -/
structure Run where
  now : ℕ
  hasJobBatchId : Bool
  fingerprint : String
  rented : Bool
  selfRent : Bool
  rentedPorts : List ℕ
  fillerPorts : List ℕ
  fillerIsLium : Bool
  pressureCheckEnabled : Bool
  pressure : Bool
  readingCancelled : Bool
  readPorts : Fate
  readSysbox : Fate
  readDeferrals : Fate
  reserve : Fate
  /-- `none`: `verify_ports` raised or was cancelled. -/
  probe : Option Probe
  outsideEnforced : Bool
  outside : Fate
  savePorts : Fate
  clearDeferrals : Fate
  keepSysbox : Fate
  /-- Sysbox after the tolerated downgrades. -/
  sysboxNow : Bool
  saveSysbox : Fate
deriving DecidableEq, Repr

inductive Gate where
  | cancelled
  | defers (memory : VerifiedPorts)
  | proceeds
deriving DecidableEq, Repr

structure Republished where
  verifiedPortPairs : List (ℕ × ℕ)
  sysboxRuntime : Bool
deriving DecidableEq, Repr

/-- What a deferred run published, or the pairs a run verified whose probe completed. -/
structure Outcome where
  deferred : Option Republished
  completed : Option (List (ℕ × ℕ))
deriving DecidableEq, Repr

namespace Run

variable (run : Run)

def deferralEligible : Bool :=
  !run.selfRent && (run.rented || (!run.fillerPorts.isEmpty && run.fillerIsLium))

/-- `_load_pressure_gate_memory`: the memory and the streak, `none` when cancelled. A read that
fails is no memory. -/
def loadPressureGateMemory (state : State) : Option (Option VerifiedPorts × ℕ) :=
  if !run.deferralEligible then some (none, 0)
  else
    match run.readPorts, run.readSysbox, run.readDeferrals with
    | .done, .done, .done =>
      some (state.verifiedPorts.filter (·.identity = run.fingerprint), state.deferrals)
    | .done, .done, .cancelled _ => none
    | .done, .cancelled _, _ => none
    | .cancelled _, _, _ => none
    | _, _, _ => some (none, 0)

def hasFreshCompletedCheck (state : State) : Bool :=
  state.completedCheckSavedAt.any fun savedAt => decide (run.now - savedAt < memoryTtl)

def wouldDefer (state : State) (deferrals : ℕ) : Bool :=
  run.pressure && run.deferralEligible && decide (deferrals < maxDeferrals) &&
    run.hasFreshCompletedCheck state

/-- `record_disk_pressure_deferral`. -/
def reserved (state : State) : State :=
  if run.reserve.applied then { state with deferrals := state.deferrals + 1 } else state

/-- `_reserve_pressure_deferral`: a deferral not on record, or past the bound, runs the check. -/
def reservePressureDeferral (memory : VerifiedPorts) (state : State) : Gate × State :=
  match run.reserve with
  | .cancelled _ => (.cancelled, run.reserved state)
  | .raised _ => (.proceeds, run.reserved state)
  | .done =>
    if maxDeferrals < (run.reserved state).deferrals then (.proceeds, run.reserved state)
    else (.defers memory, run.reserved state)

def diskPressureGate (state : State) : Gate × State :=
  if !run.pressureCheckEnabled then (.proceeds, state)
  else if run.readingCancelled then (.cancelled, state)
  else
    match run.loadPressureGateMemory state with
    | none => (.cancelled, state)
    | some (none, _) => (.proceeds, state)
    | some (some memory, deferrals) =>
      if run.wouldDefer state deferrals then run.reservePressureDeferral memory state
      else (.proceeds, state)

/-- `_deferred`: a port that a rental or a filler took since is left out. -/
def withoutBusy (pairs : List (ℕ × ℕ)) : List (ℕ × ℕ) :=
  pairs.filter fun pair => pair.2 ∉ run.rentedPorts ∧ pair.2 ∉ run.fillerPorts

/-- `_outside_failure_confirmed`, `none` when cancelled: the second failure in a row counts. -/
def outsideFailureConfirmed (probe : Probe) (state : State) : Option Bool × State :=
  match probe.externalProbe with
  | .notAsked => (some false, state)
  | .passed =>
    (run.outside.saved.map fun _ => false,
      if run.outside.applied then { state with externalProbeMiss := false } else state)
  | .blocked =>
    (run.outside.saved.map fun recorded =>
        recorded && state.externalProbeMiss && run.outsideEnforced,
      if run.outside.applied then { state with externalProbeMiss := true } else state)

def recordVerifiedPorts (pairs : List (ℕ × ℕ)) (state : State) : State :=
  if run.savePorts.applied then
    { state with verifiedPorts := some ⟨run.fingerprint, pairs, run.now⟩ }
  else state

def clearDisk (state : State) : State :=
  if run.clearDeferrals.applied then { state with deferrals := 0 } else state

/-- `_save_completed_ports_and_deferral_counter`: whether every write is in Redis, `none` when
cancelled. -/
def saveCompletedPortsAndDeferralCounter (pairs : List (ℕ × ℕ)) (state : State) :
    Option Bool × State :=
  match run.savePorts with
  | .cancelled _ => (none, run.recordVerifiedPorts pairs state)
  | .raised _ => (some false, run.recordVerifiedPorts pairs state)
  | .done =>
    (run.clearDeferrals.saved, run.clearDisk (run.recordVerifiedPorts pairs state))

def updateLastVerifiedSysbox (probe : Probe) (state : State) : Option Bool × State :=
  (run.saveSysbox.saved,
    if run.saveSysbox.applied then
      match probe.sysboxMeasured with
      | some measured => { state with sysboxVerified := measured }
      | none =>
        if !run.rented && !run.sysboxNow then { state with sysboxVerified := false } else state
    else state)

def saveVerdict (probe : Probe) (pairs : List (ℕ × ℕ)) (state : State) : State :=
  let dropped := { state with completedCheckSavedAt := none }
  let saved := run.saveCompletedPortsAndDeferralCounter pairs dropped
  match saved.1, run.keepSysbox with
  | some portsSaved, .done =>
    let sysbox := run.updateLastVerifiedSysbox probe saved.2
    if portsSaved && sysbox.1 = some true then
      { sysbox.2 with completedCheckSavedAt := some run.now }
    else sysbox.2
  | _, _ => saved.2

def afterProbe (probe : Probe) (state : State) : Outcome × State :=
  match run.outsideFailureConfirmed probe state with
  | (none, next) => (⟨none, some probe.successfulPorts⟩, next)
  | (some confirmed, next) =>
    let pairs := if confirmed then [] else probe.successfulPorts
    (⟨none, some pairs⟩, run.saveVerdict probe pairs next)

/-- `PortConnectivityCheck.run`. -/
def exec (state : State) : Outcome × State :=
  if !run.hasJobBatchId then (⟨none, none⟩, state)
  else
    match run.diskPressureGate state with
    | (.cancelled, next) => (⟨none, none⟩, next)
    | (.defers memory, next) =>
      (⟨some ⟨run.withoutBusy memory.pairs, state.sysboxVerified⟩, none⟩, next)
    | (.proceeds, next) =>
      match run.probe with
      | none => (⟨none, none⟩, next)
      | some probe => run.afterProbe probe next

/-- The run is cancelled between the end of its probe and the point where the earlier check's
entry is dropped. -/
def cutOffAfterProbe : Bool :=
  run.outside.saved.isNone && run.probe.any fun probe => decide (probe.externalProbe ≠ .notAsked)

section Gate

variable {run : Run} {memory : VerifiedPorts}

theorem loadPressureGateMemory_eq_some {deferrals : ℕ}
    (loaded : run.loadPressureGateMemory state = some (some memory, deferrals)) :
    state.verifiedPorts = some memory ∧ memory.identity = run.fingerprint ∧
      deferrals = state.deferrals := by
  revert loaded
  fun_cases Run.loadPressureGateMemory run state with
  | case2 =>
    intro loaded
    simp only [Option.some.injEq, Prod.mk.injEq, Option.filter_eq_some_iff, decide_eq_true_eq]
      at loaded
    exact ⟨loaded.1.1, loaded.1.2, loaded.2.symm⟩
  | _ => intro loaded; simp at loaded

/-- The gate touches nothing but the streak, and never shortens it. -/
structure GateFrame (state next : State) : Prop where
  savedAt : next.completedCheckSavedAt = state.completedCheckSavedAt
  verifiedPorts : next.verifiedPorts = state.verifiedPorts
  deferrals : state.deferrals ≤ next.deferrals

@[refl] theorem GateFrame.refl (state : State) : GateFrame state state := ⟨rfl, rfl, Nat.le_refl _⟩

theorem gateFrame_reserved (run : Run) (state : State) : GateFrame state (run.reserved state) := by
  rw [Run.reserved]
  split
  · exact ⟨rfl, rfl, Nat.le_succ _⟩
  · rfl

theorem diskPressureGate_frame (run : Run) (state : State) :
    GateFrame state (run.diskPressureGate state).2 := by
  fun_cases Run.diskPressureGate run state with
  | case5 =>
    have reserved := gateFrame_reserved run state
    rw [Run.reservePressureDeferral]
    split
    · exact reserved
    · exact reserved
    · split <;> exact reserved
  | _ => rfl

theorem reservePressureDeferral_defers {ports : VerifiedPorts}
    (defers : (run.reservePressureDeferral ports state).1 = .defers memory) :
    memory = ports ∧
      (run.reservePressureDeferral ports state).2.deferrals = state.deferrals + 1 ∧
      state.deferrals + 1 ≤ maxDeferrals := by
  cases outcome : run.reserve with
  | cancelled applied => simp [Run.reservePressureDeferral, outcome] at defers
  | raised applied => simp [Run.reservePressureDeferral, outcome] at defers
  | done =>
    have counted : (run.reserved state).deferrals = state.deferrals + 1 := by
      simp [Run.reserved, outcome, Fate.applied]
    simp only [Run.reservePressureDeferral, outcome, counted] at defers ⊢
    by_cases past : maxDeferrals < state.deferrals + 1
    · simp [past] at defers
    · simp only [past, if_false, Gate.defers.injEq] at defers ⊢
      exact ⟨defers.symm, counted, Nat.le_of_not_lt past⟩

theorem diskPressureGate_defers (defers : (run.diskPressureGate state).1 = .defers memory) :
    state.completedCheckSavedAt ≠ none ∧ state.verifiedPorts = some memory ∧
      memory.identity = run.fingerprint ∧
      (run.diskPressureGate state).2.deferrals = state.deferrals + 1 ∧
      state.deferrals + 1 ≤ maxDeferrals := by
  revert defers
  fun_cases Run.diskPressureGate run state with
  | case5 _ _ ports deferrals loaded would =>
    intro defers
    rcases loadPressureGateMemory_eq_some loaded with ⟨stored, same, -⟩
    rcases reservePressureDeferral_defers defers with ⟨rfl, counted, bounded⟩
    have saved : state.completedCheckSavedAt ≠ none := by
      intro absent
      simp [Run.wouldDefer, Run.hasFreshCompletedCheck, absent] at would
    exact ⟨saved, stored, same, counted, bounded⟩
  | _ => intro defers; simp at defers

end Gate

section Verdict

variable {run : Run} {probe : Probe}

theorem cutOffAfterProbe_of_unconfirmed (probed : run.probe = some probe)
    (unconfirmed : (run.outsideFailureConfirmed probe state).1 = none) :
    run.cutOffAfterProbe = true := by
  rw [Run.cutOffAfterProbe, probed]
  revert unconfirmed
  fun_cases Run.outsideFailureConfirmed run probe state with
  | case1 => intro unconfirmed; simp at unconfirmed
  | case2 asked => simp [asked]
  | case3 asked => simp [asked]

variable {pairs : List (ℕ × ℕ)}

theorem saveCompletedPorts_saved
    (saved : (run.saveCompletedPortsAndDeferralCounter pairs state).1 = some true) :
    (run.saveCompletedPortsAndDeferralCounter pairs state).2.verifiedPorts =
      some ⟨run.fingerprint, pairs, run.now⟩ := by
  cases ports : run.savePorts with
  | cancelled applied => simp [Run.saveCompletedPortsAndDeferralCounter, ports] at saved
  | raised applied => simp [Run.saveCompletedPortsAndDeferralCounter, ports] at saved
  | done =>
    simp only [Run.saveCompletedPortsAndDeferralCounter, ports, Run.clearDisk]
    split <;> simp [Run.recordVerifiedPorts, ports, Fate.applied]

theorem saveCompletedPorts_savedAt (run : Run) (pairs : List (ℕ × ℕ)) (state : State) :
    (run.saveCompletedPortsAndDeferralCounter pairs state).2.completedCheckSavedAt =
      state.completedCheckSavedAt := by
  have recorded : (run.recordVerifiedPorts pairs state).completedCheckSavedAt =
      state.completedCheckSavedAt := by
    rw [Run.recordVerifiedPorts]
    split <;> rfl
  rw [Run.saveCompletedPortsAndDeferralCounter]
  split
  · exact recorded
  · exact recorded
  · dsimp only [Run.clearDisk]
    split <;> exact recorded

theorem updateLastVerifiedSysbox_frame (run : Run) (probe : Probe) (state : State) :
    GateFrame state (run.updateLastVerifiedSysbox probe state).2 := by
  rw [Run.updateLastVerifiedSysbox]
  repeat' split
  all_goals exact ⟨rfl, rfl, Nat.le_refl _⟩

theorem saveVerdict_saved
    (saved : (run.saveVerdict probe pairs state).completedCheckSavedAt ≠ none) :
    (run.saveVerdict probe pairs state).verifiedPorts =
      some ⟨run.fingerprint, pairs, run.now⟩ := by
  have dropped := saveCompletedPorts_savedAt run pairs { state with completedCheckSavedAt := none }
  revert saved
  fun_cases Run.saveVerdict run probe pairs state with
  | case1 droppedState completed portsSaved keep stored sysbox both =>
    intro saved
    have complete : completed.1 = some true := by
      rw [stored]
      simp only [Bool.and_eq_true] at both
      rw [both.1]
    rw [(updateLastVerifiedSysbox_frame run probe _).verifiedPorts]
    exact saveCompletedPorts_saved complete
  | case2 droppedState completed portsSaved keep stored sysbox notBoth =>
    intro saved
    exact absurd ((updateLastVerifiedSysbox_frame run probe _).savedAt.trans dropped) saved
  | case3 => intro saved; exact absurd dropped saved

end Verdict

end Run

structure Verdict where
  identity : String
  pairs : List (ℕ × ℕ)
deriving DecidableEq, Repr

variable {last : Option Verdict}

def Outcome.latest (outcome : Outcome) (run : Run) (last : Option Verdict) : Option Verdict :=
  match outcome.completed with
  | some pairs => some ⟨run.fingerprint, pairs⟩
  | none => last

def Outcome.streak (outcome : Outcome) (streak : ℕ) : ℕ :=
  match outcome.completed, outcome.deferred with
  | some _, _ => 0
  | none, some _ => streak + 1
  | none, none => streak

/-- Each deferred run publishes the latest verdict without the busy ports, under that verdict's
setup. -/
def RepublishesLatest : Option Verdict → State → List Run → Prop
  | _, _, [] => True
  | last, state, run :: rest =>
    (∀ published ∈ (run.exec state).1.deferred, ∃ verdict ∈ last,
      verdict.identity = run.fingerprint ∧
        published.verifiedPortPairs = run.withoutBusy verdict.pairs) ∧
    RepublishesLatest ((run.exec state).1.latest run last) (run.exec state).2 rest

/-- No streak of deferrals is longer than the bound. -/
def DefersBoundedly : ℕ → State → List Run → Prop
  | _, _, [] => True
  | streak, state, run :: rest =>
    (run.exec state).1.streak streak ≤ maxDeferrals ∧
    DefersBoundedly ((run.exec state).1.streak streak) (run.exec state).2 rest

instance RepublishesLatest.decide : (last : Option Verdict) → (state : State) →
    (runs : List Run) → Decidable (RepublishesLatest last state runs)
  | _, _, [] => isTrue trivial
  | last, state, run :: rest =>
    have := RepublishesLatest.decide ((run.exec state).1.latest run last) (run.exec state).2 rest
    inferInstanceAs (Decidable (_ ∧ _))

/-- The process's entry vouches for the ports in Redis. -/
def OnRecord (last : Option Verdict) (state : State) : Prop :=
  state.completedCheckSavedAt ≠ none → ∃ verdict ∈ last, ∃ ports,
    state.verifiedPorts = some ports ∧ ports.identity = verdict.identity ∧
      ports.pairs = verdict.pairs

section Step

variable {streak : ℕ} {run : Run}

theorem afterProbe_deferred (run : Run) (probe : Probe) (state : State) :
    (run.afterProbe probe state).1.deferred = none := by
  fun_cases Run.afterProbe run probe state <;> rfl

theorem afterProbe_streak (run : Run) (probe : Probe) (state : State) (streak : ℕ) :
    (run.afterProbe probe state).1.streak streak = 0 := by
  fun_cases Run.afterProbe run probe state <;> rfl

theorem OnRecord.of_frame (record : OnRecord last state) (frame : Run.GateFrame state next) :
    OnRecord last next := by
  rw [OnRecord, frame.savedAt, frame.verifiedPorts]
  exact record

theorem onRecord_afterProbe {probe : Probe} (probed : run.probe = some probe)
    (notCut : run.cutOffAfterProbe = false) :
    OnRecord ((run.afterProbe probe state).1.latest run last) (run.afterProbe probe state).2 := by
  fun_cases Run.afterProbe run probe state with
  | case1 next unconfirmed =>
    have noAnswer : (run.outsideFailureConfirmed probe state).1 = none := by rw [unconfirmed]
    rw [Run.cutOffAfterProbe_of_unconfirmed probed noAnswer] at notCut
    exact absurd notCut.symm Bool.false_ne_true
  | case2 confirmed next _ pairs =>
    intro saved
    exact ⟨_, rfl, _, Run.saveVerdict_saved saved, rfl, rfl⟩

theorem OnRecord.exec (record : OnRecord last state) (notCut : run.cutOffAfterProbe = false) :
    OnRecord ((run.exec state).1.latest run last) (run.exec state).2 := by
  have frame := run.diskPressureGate_frame state
  fun_cases Run.exec run state with
  | case1 => exact record
  | case2 _ next gate =>
    rw [gate] at frame
    exact record.of_frame frame
  | case3 _ memory next gate =>
    rw [gate] at frame
    exact record.of_frame frame
  | case4 _ next gate _ =>
    rw [gate] at frame
    exact record.of_frame frame
  | case5 _ next gate probe probed => exact onRecord_afterProbe probed notCut

theorem OnRecord.deferred (record : OnRecord last state) {published : Republished}
    (deferred : published ∈ (run.exec state).1.deferred) : ∃ verdict ∈ last,
      verdict.identity = run.fingerprint ∧
        published.verifiedPortPairs = run.withoutBusy verdict.pairs := by
  revert deferred
  fun_cases Run.exec run state with
  | case3 _ memory next gate =>
    intro deferred
    have defers : (run.diskPressureGate state).1 = .defers memory := by rw [gate]
    rcases Run.diskPressureGate_defers defers with ⟨saved, stored, same, -, -⟩
    rcases record saved with ⟨verdict, isLast, ports, found, identity, portPairs⟩
    have isMemory : memory = ports := Option.some.inj (stored.symm.trans found)
    have fromMemory : _ = published := Option.some.inj deferred
    subst isMemory
    exact ⟨verdict, isLast, identity.symm.trans same, by rw [← fromMemory, portPairs]⟩
  | case5 _ next gate probe probed =>
    intro deferred
    rw [afterProbe_deferred] at deferred
    cases deferred
  | _ => intro deferred; cases deferred

theorem streak_exec (run : Run) (counted : streak ≤ state.deferrals)
    (bounded : streak ≤ maxDeferrals) :
    (run.exec state).1.streak streak ≤ (run.exec state).2.deferrals ∧
      (run.exec state).1.streak streak ≤ maxDeferrals := by
  have frame := run.diskPressureGate_frame state
  fun_cases Run.exec run state with
  | case1 => exact ⟨counted, bounded⟩
  | case2 _ next gate =>
    rw [gate] at frame
    exact ⟨Nat.le_trans counted frame.deferrals, bounded⟩
  | case3 _ memory next gate =>
    have defers : (run.diskPressureGate state).1 = .defers memory := by rw [gate]
    rcases Run.diskPressureGate_defers defers with ⟨-, -, -, reserved, within⟩
    rw [gate] at reserved
    change streak + 1 ≤ next.deferrals ∧ streak + 1 ≤ maxDeferrals
    dsimp only at reserved
    omega
  | case4 _ next gate _ =>
    rw [gate] at frame
    exact ⟨Nat.le_trans counted frame.deferrals, bounded⟩
  | case5 _ next gate probe probed =>
    rw [afterProbe_streak]
    exact ⟨Nat.zero_le _, Nat.zero_le _⟩

end Step

theorem OnRecord.republishesLatest {runs : List Run} (record : OnRecord last state)
    (notCut : ∀ run ∈ runs, run.cutOffAfterProbe = false) :
    RepublishesLatest last state runs := by
  induction runs generalizing last state with
  | nil => exact trivial
  | cons run rest induction =>
    have here := notCut run (List.mem_cons_self ..)
    constructor
    · intro published deferred
      exact record.deferred deferred
    · apply induction (record.exec here)
      intro later isLater
      exact notCut later (List.mem_cons_of_mem _ isLater)

theorem defersBoundedly {streak : ℕ} (runs : List Run) (counted : streak ≤ state.deferrals)
    (bounded : streak ≤ maxDeferrals) :
    DefersBoundedly streak state runs := by
  induction runs generalizing streak state with
  | nil => exact trivial
  | cons run rest induction =>
    rcases streak_exec run counted bounded with ⟨countedNext, boundedNext⟩
    exact ⟨boundedNext, induction countedNext boundedNext⟩

namespace Sample

def fresh : State where
  completedCheckSavedAt := none
  verifiedPorts := none
  deferrals := 0
  externalProbeMiss := false
  sysboxVerified := false

def probing (now port : ℕ) : Run where
  now := now
  hasJobBatchId := true
  fingerprint := "10.0.0.1|||22"
  rented := true
  selfRent := false
  rentedPorts := []
  fillerPorts := []
  fillerIsLium := false
  pressureCheckEnabled := true
  pressure := false
  readingCancelled := false
  readPorts := .done
  readSysbox := .done
  readDeferrals := .done
  reserve := .done
  probe := some ⟨[(port, port)], .passed, some true⟩
  outsideEnforced := false
  outside := .done
  savePorts := .done
  clearDeferrals := .done
  keepSysbox := .done
  sysboxNow := true
  saveSysbox := .done

def cutOffRuns : List Run :=
  [probing 0 9000, { probing 900 9001 with outside := .cancelled false },
    { probing 1800 9001 with pressure := true }]

theorem not_republishesLatest_cutOffRuns : ¬ RepublishesLatest none fresh cutOffRuns := by
  decide +kernel

end Sample

theorem cut_off_run_republishes_older_verdict :
    Sample.fresh.completedCheckSavedAt = none ∧
      ¬ (RepublishesLatest none Sample.fresh Sample.cutOffRuns ∧
        DefersBoundedly 0 Sample.fresh Sample.cutOffRuns) := by
  constructor
  · rfl
  · intro both
    exact Sample.not_republishesLatest_cutOffRuns both.1

/-- Deferred runs publish the latest verdict, and at most `maxDeferrals` stand between two, exactly
if no run is cancelled while the outside reading of its completed probe is put on record. -/
theorem deferrals_sound_iff_not_cutOff (cutOff : Bool) :
    (∀ (state : State) (runs : List Run), state.completedCheckSavedAt = none →
      (∀ run ∈ runs, run.cutOffAfterProbe = true → cutOff = true) →
      RepublishesLatest none state runs ∧ DefersBoundedly 0 state runs) ↔ cutOff = false := by
  constructor
  · intro sound
    cases cutOff with
    | false => rfl
    | true =>
      have latest := (sound Sample.fresh Sample.cutOffRuns rfl fun _ _ _ => rfl).1
      exact absurd latest Sample.not_republishesLatest_cutOffRuns
  · rintro rfl state runs start within
    have record : OnRecord none state := fun saved => absurd start saved
    constructor
    · apply record.republishesLatest
      intro run isRun
      exact Bool.eq_false_iff.mpr fun cut => Bool.false_ne_true (within run isRun cut)
    · exact defersBoundedly runs (Nat.zero_le _) (Nat.zero_le _)

end Lium.PortDeferral
