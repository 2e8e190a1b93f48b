import Lium.Foundation.Transfer
import Mathlib.Data.List.Sort

/-! # The wave and the express lane

Two lanes validate executors in one process. Between two awaits a coroutine runs alone, so the
system moves in steps: one per stretch of code without an await.
-/

namespace Lium.ExpressLane

/-- The values of `MinerService.in_flight`. -/
inductive Lane
  | cycle
  | express
  | cycleDone
  deriving DecidableEq

structure Settings where
  maxInFlight : ℤ
  maxInFlightPerMiner : ℤ
  myHotkey : String
  fastPath : Bool
  minerSnapshotRetrySeconds : ℤ
  minerSnapshotMaxAttempts : ℕ
  failedFirstPassRetryEnabled : Bool

def restartLookback : ℤ := 30 * 60
def maxAttempts : ℕ := 3
def retrySeconds : ℤ := 120
def firstPassFailedRetrySeconds : ℤ := 60
def firstPassMaxRuns : ℕ := 3

structure PortalExecutor where
  id : String
  validatorHotkey : String
  createdAt : Option ℤ

/-- `_Pending`, an object that the queue, a tick and a verification may share. -/
structure Pending where
  executor : PortalExecutor
  minerHotkey : String
  firstSeenAt : ℤ
  attempts : ℕ := 0
  notBefore : ℤ := 0
  failedRuns : ℕ := 0
  recheckDeadline : Option ℤ := none
  recheckOnly : Bool := false
  requested : Bool := false

/-- A running `_verify`: its `_Pending`, and the attempt it is. -/
structure Verification where
  ref : ℕ
  attempt : ℕ
  deriving DecidableEq

/-- What both lanes share. `objects` are the `_Pending` objects made so far, by number, and
`pending` maps an executor to its object. `ticks` are the selections not launched yet, and
`claims` the executors of each wave request not released yet. -/
structure State where
  inFlight : PyDict String Lane
  minersAwaitingWaveList : PyDict String String
  pending : PyDict String ℕ
  objects : ℕ → Pending
  allocated : ℕ
  leftToCycle : List String
  recheckRuns : String → ℕ
  rechecksInFlight : PyDict String String
  running : List Verification
  ticks : List (List ℕ)
  claims : List (List String)

namespace State

def start : State where
  inFlight := .empty
  minersAwaitingWaveList := .empty
  pending := .empty
  objects := fun _ => ⟨⟨"", "", none⟩, "", 0, 0, 0, 0, none, false, false⟩
  allocated := 0
  leftToCycle := []
  recheckRuns := fun _ => 0
  rechecksInFlight := .empty
  running := []
  ticks := []
  claims := []

def executorId (state : State) (ref : ℕ) : String := (state.objects ref).executor.id

def verifying (state : State) : List String :=
  state.running.map fun verification => state.executorId verification.ref

/-- `[e for e, lane in in_flight.items() if lane == EXPRESS_LANE]`. -/
def expressInFlight (state : State) : List String :=
  (state.inFlight.items.filter fun item => item.2 = .express).map Prod.fst

def verifyingFor (state : State) (hotkey : String) : List Verification :=
  state.running.filter fun verification => (state.objects verification.ref).minerHotkey = hotkey

def mutate (state : State) (ref : ℕ) (change : Pending → Pending) : State :=
  { state with objects := Function.update state.objects ref (change (state.objects ref)) }

/-! ## The wave -/

def startAwaitingWaveLists (state : State) (jobBatchId : String) (hotkeys : List String) : State :=
  { state with
    minersAwaitingWaveList := .ofList (hotkeys.map fun hotkey => (hotkey, jobBatchId)) }

def stopAwaitingWaveList (state : State) (hotkey jobBatchId : String) : State :=
  if state.minersAwaitingWaveList.get? hotkey = some jobBatchId then
    { state with minersAwaitingWaveList := state.minersAwaitingWaveList.erase hotkey }
  else state

def firstEntryPerUuid (listed : List String) : List String :=
  (PyDict.ofList (listed.map fun executor => (executor, ()))).keys

def claimed (state : State) (listed : List String) : List String :=
  (firstEntryPerUuid listed).filter fun executor =>
    !(state.inFlight.get? executor = some .express || state.pending.contains executor)

def claimForCycle (state : State) (hotkey jobBatchId : String) (listed : List String) : State :=
  let state := state.stopAwaitingWaveList hotkey jobBatchId
  let claimed := state.claimed listed
  { state with
    inFlight := claimed.foldl (fun inFlight executor => inFlight.set executor .cycle) state.inFlight
    claims := state.claims ++ [claimed] }

def releaseCycleClaims (state : State) (executors : List String) : State :=
  { state with
    inFlight := executors.foldl (fun inFlight executor =>
      if inFlight.get? executor = some .cycle then inFlight.set executor .cycleDone
      else inFlight) state.inFlight }

def forgetCycleDone (state : State) : State :=
  { state with inFlight := state.inFlight.filter fun _ lane => lane ≠ .cycleDone }

/-! ## Selection -/

end State

/-- What a tick has read by the time it selects: the portal's executors by miner, with the
self-hosted miners' ones, and the rest. -/
structure TickView where
  snapshot : List (String × PortalExecutor)
  validated : List String
  fleetKnownSince : ℤ
  rechecks : List String
  recheckDeadline : ℤ
  now : ℤ
  nowWall : ℤ

structure Selection where
  state : State
  present : List String
  candidates : List ℕ

namespace State

def newToLane (state : State) (view : TickView) (executor : PortalExecutor) : Bool :=
  !(executor.id ∈ view.validated || executor.id ∈ state.leftToCycle ||
    match executor.createdAt with
    | none => true
    | some createdAt => createdAt < view.fleetKnownSince - restartLookback)

def track (state : State) (view : TickView) (hotkey : String) (executor : PortalExecutor) :
    ℕ × State :=
  match state.pending.get? executor.id with
  | some ref => (ref, state)
  | none =>
    let isNew := state.newToLane view executor
    let object : Pending :=
      { executor := executor, minerHotkey := hotkey, firstSeenAt := view.nowWall,
        recheckOnly := !isNew }
    (state.allocated,
      { state with
        objects := Function.update state.objects state.allocated object
        allocated := state.allocated + 1
        pending :=
          if isNew then state.pending.set executor.id state.allocated else state.pending })

/-- Why a tracked executor is no candidate of this tick. -/
def waits (state : State) (view : TickView) (hotkey : String) (executor : PortalExecutor)
    (ref : ℕ) : Bool :=
  state.inFlight.contains executor.id || (state.objects ref).notBefore > view.now ||
    state.minersAwaitingWaveList.contains hotkey

end State

/-- The body of the loop of `_select`. -/
def Selection.consider (settings : Settings) (view : TickView) (selection : Selection)
    (entry : String × PortalExecutor) : Selection :=
  let executor := entry.2
  if executor.validatorHotkey ≠ settings.myHotkey then selection
  else if !selection.state.newToLane view executor && executor.id ∉ view.rechecks then selection
  else
    let tracked := selection.state.track view entry.1 executor
    { state := tracked.2
      present := selection.present ++ [executor.id]
      candidates :=
        if tracked.2.waits view entry.1 executor tracked.1 then selection.candidates
        else selection.candidates ++ [tracked.1] }

/-- The oldest registrations that both caps leave room for. `counted` are the miners of the
verifications counted so far. -/
def chooseUnderCaps (maxPerMiner : ℤ) (hotkeyOf : ℕ → String) :
    ℤ → List String → List ℕ → List ℕ
  | _, _, [] => []
  | room, counted, ref :: rest =>
    if room ≤ 0 then []
    else if (counted.count (hotkeyOf ref) : ℤ) ≥ maxPerMiner then
      chooseUnderCaps maxPerMiner hotkeyOf room counted rest
    else ref :: chooseUnderCaps maxPerMiner hotkeyOf (room - 1) (hotkeyOf ref :: counted) rest

namespace State

/-- The queue as the loop leaves it, and the candidates. -/
def candidates (state : State) (settings : Settings) (view : TickView) : Selection :=
  view.snapshot.foldl (Selection.consider settings view) ⟨state, [], []⟩

/-- Removed from the portal, or validated by the cycle, before the lane got to it. -/
def prune (state : State) (present : List String) : State :=
  { state with
    pending := state.pending.filter fun executor _ =>
      executor ∈ present || state.inFlight.contains executor }

def countedMiners (state : State) : List String :=
  state.expressInFlight.filterMap (fun executor =>
    (state.pending.get? executor).map fun ref => (state.objects ref).minerHotkey) ++
  state.rechecksInFlight.values

def sortKey (state : State) (ref : ℕ) : ℤ :=
  (state.objects ref).executor.createdAt.getD (state.objects ref).firstSeenAt

/-- `_select`: the state it leaves, and the objects chosen. -/
def select (state : State) (settings : Settings) (view : TickView) : State × List ℕ :=
  let selection := state.candidates settings view
  let pruned := selection.state.prune selection.present
  let sorted := selection.candidates.insertionSort fun first second =>
    pruned.sortKey first ≤ pruned.sortKey second
  (pruned,
    chooseUnderCaps settings.maxInFlightPerMiner (fun ref => (pruned.objects ref).minerHotkey)
      (settings.maxInFlight - pruned.expressInFlight.length) pruned.countedMiners sorted)

def markRequested (view : TickView) (state : State) (ref : ℕ) : State :=
  let requested : Bool := state.executorId ref ∈ view.rechecks
  state.mutate ref fun pending =>
    { pending with
      requested := requested
      recheckDeadline :=
        if requested && state.executorId ref ∈ view.validated then some view.recheckDeadline
        else none }

/-- The tick from its last read to the first await of `_launch`. -/
def tickSelects (state : State) (settings : Settings) (view : TickView) : State :=
  let (selected, chosen) := state.select settings view
  let marked := chosen.foldl (markRequested view) selected
  if chosen.isEmpty then marked else { marked with ticks := marked.ticks ++ [chosen] }

/-! ## Launch -/

/-- Why a verification is put off: only for one reason does the fast path change the wait. -/
inductive DeferReason
  | minerDidNotReturnExecutor
  | other
  deriving DecidableEq

def retrySecondsFor (settings : Settings) (reason : DeferReason) : ℤ :=
  if settings.fastPath && reason = .minerDidNotReturnExecutor then
    settings.minerSnapshotRetrySeconds
  else retrySeconds

def maxAttemptsFor (settings : Settings) (reason : DeferReason) : ℕ :=
  if settings.fastPath && reason = .minerDidNotReturnExecutor then
    max maxAttempts settings.minerSnapshotMaxAttempts
  else maxAttempts

def leaveToCycle (state : State) (executor : String) : State :=
  { state with
    leftToCycle := executor :: state.leftToCycle
    pending := state.pending.erase executor }

def defer (state : State) (settings : Settings) (ref : ℕ) (reason : DeferReason) (now : ℤ) :
    State :=
  if (state.objects ref).attempts ≥ maxAttemptsFor settings reason then
    state.leaveToCycle (state.executorId ref)
  else
    state.mutate ref fun pending =>
      { pending with notBefore := now + retrySecondsFor settings reason }

def verify (state : State) (ref : ℕ) : State :=
  let object := state.objects ref
  let executor := state.executorId ref
  { state with
    inFlight := state.inFlight.set executor .express
    rechecksInFlight :=
      if object.recheckOnly then state.rechecksInFlight.set executor object.minerHotkey
      else state.rechecksInFlight
    recheckRuns :=
      if object.requested then
        Function.update state.recheckRuns executor (state.recheckRuns executor + 1)
      else state.recheckRuns
    running := state.running ++ [⟨ref, object.attempts + 1⟩] }

/-- The body of the loop of `_launch`, with the miners it was given. -/
def launchOne (settings : Settings) (miners : List String) (now : ℤ) (state : State) (ref : ℕ) :
    State :=
  let object := state.objects ref
  if state.inFlight.contains (state.executorId ref) then state
  else if state.minersAwaitingWaveList.contains object.minerHotkey then state
  else if object.minerHotkey ∉ miners then
    (state.mutate ref fun pending => { pending with attempts := pending.attempts + 1 }).defer
      settings ref .other now
  else state.verify ref

def launch (state : State) (settings : Settings) (miners : List String) (now : ℤ)
    (tick : List ℕ) : State :=
  tick.foldl (launchOne settings miners now) { state with ticks := state.ticks.erase tick }

/-- `_end_recheck`, without the request in Redis. -/
def endRecheck (state : State) (executor : String) : State :=
  { state with recheckRuns := Function.update state.recheckRuns executor 0 }

/-! ## The end of a verification -/

/-- How a verification ends. A result is published, and a pass recorded in Redis or not. -/
inductive Ending
  | cancelled
  | jobFilesRemoved
  | minerDidNotReturnExecutor
  | raised
  | published (passed recorded : Bool)

def concluded (state : State) (settings : Settings) (now : ℤ) (verification : Verification) :
    Ending → State
  | .cancelled => state
  | .jobFilesRemoved =>
    state.mutate verification.ref fun pending =>
      { pending with notBefore := now + retrySeconds }
  | .minerDidNotReturnExecutor =>
    (state.mutate verification.ref fun pending =>
      { pending with attempts := verification.attempt }).defer settings verification.ref
        .minerDidNotReturnExecutor now
  | .raised =>
    (state.mutate verification.ref fun pending =>
      { pending with attempts := verification.attempt }).defer settings verification.ref .other now
  | .published passed recorded =>
    let state := state.mutate verification.ref fun pending =>
      { pending with attempts := verification.attempt, recheckDeadline := none }
    let executor := state.executorId verification.ref
    let failedRuns := (state.objects verification.ref).failedRuns + 1
    if !passed && settings.failedFirstPassRetryEnabled && failedRuns < firstPassMaxRuns then
      state.mutate verification.ref fun pending =>
        { pending with
          failedRuns := failedRuns, notBefore := now + firstPassFailedRetrySeconds }
    else if passed && recorded then { state with pending := state.pending.erase executor }
    else state.leaveToCycle executor

/-- The `finally` of `_verify`. -/
def verified (state : State) (verification : Verification) : State :=
  let executor := state.executorId verification.ref
  { state with
    inFlight :=
      if state.inFlight.get? executor = some .express then state.inFlight.erase executor
      else state.inFlight
    rechecksInFlight := state.rechecksInFlight.erase executor
    running := state.running.erase verification }

end State

/-! ## The system -/

/-- One stretch of code without an await. At most `overlap` ticks may be between their
selection and their launch, and no executor has two unreleased claims of the wave. -/
inductive Step (settings : Settings) (overlap : ℕ) : State → State → Prop
  | startAwaiting (state jobBatchId hotkeys) :
      Step settings overlap state (state.startAwaitingWaveLists jobBatchId hotkeys)
  | stopAwaiting (state hotkey jobBatchId) :
      Step settings overlap state (state.stopAwaitingWaveList hotkey jobBatchId)
  | claim (state hotkey jobBatchId listed) :
      (∀ executor ∈ state.claimed listed, executor ∉ state.claims.flatten) →
      Step settings overlap state (state.claimForCycle hotkey jobBatchId listed)
  | release (state executors) :
      executors ∈ state.claims →
      Step settings overlap state
        { state.releaseCycleClaims executors with claims := state.claims.erase executors }
  /-- the release of an express verification's own request -/
  | requestEnds (state executor) :
      executor ∈ state.verifying → Step settings overlap state (state.releaseCycleClaims [executor])
  | forgetCycleDone (state) : Step settings overlap state state.forgetCycleDone
  | select (state view) :
      state.ticks.length < overlap → Step settings overlap state (state.tickSelects settings view)
  /-- no rentals, no inputs, no job files, or an exception -/
  | abandon (state tick) : Step settings overlap state { state with ticks := state.ticks.erase tick }
  | launch (state tick miners now) :
      tick ∈ state.ticks → Step settings overlap state (state.launch settings miners now tick)
  | endRecheck (state executor) : Step settings overlap state (state.endRecheck executor)
  | finish (state verification ending now) :
      verification ∈ state.running →
      Step settings overlap state
        ((state.concluded settings now verification ending).verified verification)

inductive Reaches (settings : Settings) (overlap : ℕ) : State → Prop
  | start : Reaches settings overlap .start
  | step {state next} : Reaches settings overlap state → Step settings overlap state next →
      Reaches settings overlap next

end Lium.ExpressLane
