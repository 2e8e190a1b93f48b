import Lium.Validator.RentedGpuDrop

/-! # Incidents of a rented pod

`RentedGpuDropCheck._track_pod` keeps one mark per pod, in the process and in Redis, and decides
from it each cycle whether a fault or a recovery is posted to the backend.
-/

namespace Lium.DropIncidents

open RentedGpuDrop

structure Evidence where
  expected : ℤ
  visible : ℤ
  faults : List Fault
  missingUuids : List String
  nvmlErrorCode : Option ℕ
  nvmlCount : ℤ
  rentedTotal : Option ℤ
  podGpuCount : Option ℤ
deriving DecidableEq, Repr

def evidence (drop : GpuDrop) (rentedTotal podGpuCount : Option ℤ) : Evidence :=
  ⟨drop.expected, drop.visible, drop.faults, drop.missingUuids, drop.nvmlErrorCode,
    drop.nvmlCount, rentedTotal, podGpuCount⟩

/-- The backend's answer: `none` for no answer, otherwise its delivery. -/
abbrev Answer := Option (Option String)

def noRetry (answer : Answer) : Bool :=
  answer.any fun delivery =>
    decide (delivery ∈ [none, some "notified", some "recorded", some "not_rented"])

/-- The backend wrote the incident, or gave no answer and may have. -/
def mayBeRecorded : Answer → Bool
  | none => true
  | some delivery => decide (delivery ∉ [some "disabled", some "not_rented"])

structure DropMark where
  firstSeenAt : Option ℕ
  consecutiveCycles : ℕ
  reported : Bool
  recorded : Bool
  unanswered : Bool
  recovering : Bool
  evidence : Option Evidence
  ecc : Bool
  observedAt : Option ℕ
deriving DecidableEq, Repr

namespace DropMark

/-- `DropMark(now_iso, recorded=…, unanswered=…)`. -/
def fresh (firstSeenAt : Option ℕ) (recorded unanswered : Bool) : DropMark :=
  ⟨firstSeenAt, 1, false, recorded, unanswered, false, none, false, none⟩

def closed : DropMark := ⟨none, 1, false, false, false, true, none, false, none⟩

def needsRecovery (mark : DropMark) : Bool := mark.recorded || mark.unanswered

def afterAnswer (mark : DropMark) (answer : Answer) (evidence : Evidence) : DropMark :=
  match answer with
  | none => { mark with reported := false, unanswered := true }
  | some delivery =>
    { mark with
      reported := noRetry (some delivery)
      recorded := mark.recorded || mayBeRecorded (some delivery)
      evidence := if noRetry (some delivery) then some evidence else mark.evidence }

end DropMark

/-- How a Redis write or delete ends: it may raise with or without having been carried out. -/
inductive Fate where
  | done
  | lost
  | failed
deriving DecidableEq, Repr

structure Cycle where
  now : ℕ
  /-- The fault of the cycle; `none` is a clean cycle. -/
  drop : Option GpuDrop
  rentedTotal : Option ℤ
  podGpuCount : Option ℤ
  memoryUnread : Bool
  /-- What the backend answers to a post of the cycle. -/
  answer : Answer
  readFails : Bool
  write : Fate
  delete : Fate
deriving DecidableEq, Repr

inductive PostState where
  | fault
  | recovered
deriving DecidableEq, Repr

structure Post where
  state : PostState
  firstSeenAt : Option ℕ
  consecutiveCycles : ℕ
  observedAt : ℕ
deriving DecidableEq, Repr

structure State where
  localMark : Option DropMark
  stored : Option DropMark
deriving DecidableEq, Repr

namespace Cycle

variable (cycle : Cycle)

def namesEcc : Bool := cycle.drop.any fun drop => decide (.eccUncorrected ∈ drop.faults)

def evidenceOf (drop : GpuDrop) : Evidence := evidence drop cycle.rentedTotal cycle.podGpuCount

/-- `_save`: Redis is written only where it could be read. -/
def save (mark : DropMark) (state : State) : State where
  localMark := some mark
  stored := if cycle.readFails then state.stored else
    match cycle.write with
    | .done => some mark
    | .lost => some mark
    | .failed => state.stored

def forget (state : State) : State :=
  match cycle.delete with
  | .done => ⟨none, none⟩
  | .lost => ⟨some .closed, none⟩
  | .failed => ⟨some .closed, state.stored⟩

/-- The process's own mark is preferred to the copy. -/
def markOf (state : State) : Option DropMark :=
  state.localMark.or (if cycle.readFails then none else state.stored)

def owedMark (mark : DropMark) : DropMark :=
  { mark with
    recovering := true
    observedAt := some ((if mark.recovering then mark.observedAt else none).getD cycle.now) }

def recover (mark : DropMark) (state : State) : Option Post × State :=
  if !mark.needsRecovery then (none, cycle.forget state)
  else
    (some ⟨.recovered, mark.firstSeenAt, mark.consecutiveCycles,
        ((cycle.owedMark mark).observedAt).getD cycle.now⟩,
      if noRetry cycle.answer then cycle.forget state
      else if cycle.owedMark mark ≠ mark then cycle.save (cycle.owedMark mark) state
      else state)

/-- The mark of the incident a faulty cycle belongs to. A recovery the backend has not
acknowledged is still owed by the incident after it. -/
def incidentMark : Option DropMark → DropMark
  | none => .fresh (some cycle.now) false false
  | some mark =>
    if mark.recovering then .fresh (some cycle.now) mark.recorded mark.unanswered
    else { mark with consecutiveCycles := mark.consecutiveCycles + 1 }

def faultMark (drop : GpuDrop) (mark : Option DropMark) : DropMark :=
  { cycle.incidentMark mark with
    ecc := (cycle.incidentMark mark).ecc || decide (Fault.eccUncorrected ∈ drop.faults) }

def held (drop : GpuDrop) (mark : DropMark) : Bool :=
  drop.confirmFirst && decide (mark.consecutiveCycles < 2)

def due (drop : GpuDrop) (mark : DropMark) : Bool :=
  !mark.reported || decide (mark.evidence ≠ some (cycle.evidenceOf drop))

def trackFault (drop : GpuDrop) (state : State) : Option Post × State :=
  let mark := cycle.faultMark drop (cycle.markOf state)
  if cycle.due drop mark && !held drop mark then
    (some ⟨.fault, mark.firstSeenAt, mark.consecutiveCycles, cycle.now⟩,
      cycle.save (mark.afterAnswer cycle.answer (cycle.evidenceOf drop)) state)
  else (none, cycle.save mark state)

def trackClean (state : State) : Option Post × State :=
  match cycle.markOf state with
  | none => (none, state)
  | some mark =>
    -- without a memory reading a broken card may not have healed
    if cycle.memoryUnread && mark.ecc then (none, cycle.save mark state)
    else cycle.recover mark state

def trackPod (state : State) : Option Post × State :=
  match cycle.drop with
  | some drop => cycle.trackFault drop state
  | none => cycle.trackClean state

end Cycle

structure Event where
  cycle : Cycle
  post : Option Post
deriving DecidableEq, Repr

def run (cycles : List Cycle) : List Event × State :=
  cycles.foldl
    (fun done cycle => (done.1 ++ [⟨cycle, (cycle.trackPod done.2).1⟩], (cycle.trackPod done.2).2))
    ([], ⟨none, none⟩)

/-! ## What the events say

An incident goes from a faulty cycle to the first clean one that is proof: with a memory
reading, or of an incident that named no ECC fault. -/

namespace Event

variable (event : Event)

def postsFault : Bool := event.post.any fun post => decide (post.state = .fault)

def postsRecovery : Bool := event.post.any fun post => decide (post.state = .recovered)

def mayStand : Bool := event.postsFault && mayBeRecorded event.cycle.answer

def acknowledgedRecovery : Bool := event.postsRecovery && noRetry event.cycle.answer

end Event

/-- The faulty cycles of the latest incident, and whether it is over. -/
structure Incident where
  events : List Event
  isOver : Bool

namespace Incident

def namesEcc (incident : Incident) : Bool := incident.events.any fun event => event.cycle.namesEcc

def provenClean (incident : Incident) (cycle : Cycle) : Bool :=
  !cycle.memoryUnread || !incident.namesEcc

def current (incident : Incident) : List Event := if incident.isOver then [] else incident.events

def extend (incident : Incident) (event : Event) : Incident :=
  match event.cycle.drop with
  | some _ => ⟨incident.current ++ [event], false⟩
  | none => { incident with isOver := incident.isOver || incident.provenClean event.cycle }

def lastPost (events : List Event) : Option Event := (events.filter Event.postsFault).getLast?

end Incident

def incidentOf (events : List Event) : Incident := events.foldl Incident.extend ⟨[], true⟩

/-- The events since the last acknowledged recovery. -/
def sinceRecovery (events : List Event) : List Event :=
  events.foldl (fun since event => if event.acknowledgedRecovery then [] else since ++ [event]) []

/-- A fault is to be reported: it is not held back, and the incident has no report, none the
backend acknowledged last, or one with other evidence. -/
def FaultDue (events : List Event) (cycle : Cycle) (drop : GpuDrop) : Prop :=
  ¬ (drop.confirmFirst = true ∧ (incidentOf events).current = []) ∧
    ∀ last ∈ Incident.lastPost (incidentOf events).current,
      noRetry last.cycle.answer = false ∨
        last.cycle.drop.map last.cycle.evidenceOf ≠ some (cycle.evidenceOf drop)

/-- A recovery is owed: a report since the last acknowledged one may stand. -/
def RecoveryOwed (events : List Event) : Prop :=
  ∃ event ∈ sinceRecovery events, event.mayStand = true

end Lium.DropIncidents
