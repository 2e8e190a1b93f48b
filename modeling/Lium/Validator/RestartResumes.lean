import Lium.Foundation.Transfer
import Mathlib.Algebra.Order.Field.Rat

/-! # Creates cut off by a restart

A connector that starts sweeps the records of the creates that ran: one that was cut off is listed
for the backend to send again, one that was resumed before is reported failed. A step goes from one
await to the next, so a crash between two steps is a crash at an await.
-/

namespace Lium.RestartResumes

def createCutOffByRestartStep : String := "validator_restarted"
def maxCreateResumes : ℕ := 1

inductive WorkloadKind
  | customerRental
  | filler
  deriving DecidableEq

structure InflightBackendCreate where
  minerHotkey : String
  executorId : String
  workloadKind : WorkloadKind
  startedAtUnixSeconds : ℤ
  resumes : ℕ
  deriving DecidableEq

structure ContainerCreateRequest where
  podId : String
  minerHotkey : String
  executorId : String
  workloadKind : WorkloadKind

structure FailedContainerRequest where
  minerHotkey : String
  executorId : String
  podId : String
  workloadKind : WorkloadKind
  msg : String
  detail : String
  failureStep : String

/-- A message to the backend. `other` stands for those that no sweep queues. -/
inductive Message
  | failed (request : FailedContainerRequest)
  | other

/-! ## What happened -/

inductive Cause
  | completedCreate
  | delete
  | sentFailure
  | staleRecord
  deriving DecidableEq

inductive Event
  /-- a sweep has read the records of these pods -/
  | swept (podIds : List String)
  /-- a sweep has queued the failed request of the pod -/
  | failed (podId : String)
  /-- a sweep has ended with this report -/
  | reported (podIds : List String)
  /-- the failed request of the pod was sent -/
  | sent (podId : String)
  /-- the pod had a record, and no longer has -/
  | removed (podId : String) (cause : Cause)
  deriving DecidableEq

/-! ## The connector -/

inductive Job
  /-- about to write the record, with the count taken from memory -/
  | writing (request : ContainerCreateRequest) (resumes : ℕ)
  | driving (podId : String)
  /-- the create has ended; about to remove the record -/
  | removing (podId : String)
  | deleting (podId : String)
  | finished

inductive Sender
  | idle
  | sending (message : Message)
  | untracking (podId : String)

inductive Phase
  | down
  | sweeping (left : List (String × InflightBackendCreate)) (rentedPodIds resumed : List String)
  | serving

structure Connector where
  phase : Phase
  resumeCountByPodId : String → Option ℕ
  deletedPodIds : String → Bool
  /-- `inflight_creates`: how many creates of a pod run -/
  runningCreates : String → ℕ
  messageQueue : List Message
  sender : Sender
  jobs : List Job

def Connector.off : Connector :=
  ⟨.down, fun _ => none, fun _ => false, fun _ => 0, [], .idle, []⟩

/-- Redis, the connector and, latest first, what has happened. -/
structure World where
  records : PyDict String InflightBackendCreate
  connector : Connector
  log : List Event

def World.initial : World := ⟨.empty, .off, []⟩

def World.remove (world : World) (podId : String) (cause : Cause) : World :=
  { world with
    records := world.records.erase podId
    log := if world.records.contains podId then .removed podId cause :: world.log else world.log }

/-! ## The sweep -/

def cutOffFailure (podId : String) (create : InflightBackendCreate) : FailedContainerRequest where
  minerHotkey := create.minerHotkey
  executorId := create.executorId
  podId := podId
  workloadKind := create.workloadKind
  msg := "The create was interrupted by a validator restart. Please try again."
  detail := "validator connector restarted during the create (started " ++
    toString create.startedAtUnixSeconds ++ ")"
  failureStep := createCutOffByRestartStep

/-- The create has ended, or is older than any create runs. -/
def recordIsStale (maxAge : ℤ) (now : ℚ) (rentedPodIds : List String) (podId : String)
    (create : InflightBackendCreate) : Bool :=
  podId ∈ rentedPodIds || (maxAge : ℚ) < now - create.startedAtUnixSeconds

def sweepOne (maxAge : ℤ) (now : ℚ) (left : List (String × InflightBackendCreate))
    (rentedPodIds resumed : List String) (podId : String) (create : InflightBackendCreate)
    (world : World) : World :=
  let onto (resumed : List String) : Phase := .sweeping left rentedPodIds resumed
  if recordIsStale maxAge now rentedPodIds podId create then
    let world := world.remove podId .staleRecord
    { world with connector := { world.connector with phase := onto resumed } }
  else if create.resumes < maxCreateResumes then
    { world with
      records := world.records.set podId
        { create with startedAtUnixSeconds := now.floor, resumes := create.resumes + 1 }
      connector :=
        { world.connector with
          phase := onto (resumed ++ [podId])
          resumeCountByPodId :=
            Function.update world.connector.resumeCountByPodId podId (some (create.resumes + 1)) } }
  else
    { world with
      connector :=
        { world.connector with
          phase := onto resumed
          messageQueue :=
            world.connector.messageQueue ++ [.failed (cutOffFailure podId create)] }
      log := .failed podId :: world.log }

/-! ## Deliveries and sends -/

/-- A create is delivered: the part of `_run_miner_job` before the record is written. -/
def takeCreate (request : ContainerCreateRequest) (connector : Connector) : Connector :=
  let tracked :=
    { connector with
      runningCreates := Function.update connector.runningCreates request.podId
        (connector.runningCreates request.podId + 1) }
  if connector.deletedPodIds request.podId then
    { tracked with jobs := connector.jobs ++ [.driving request.podId] }
  else
    { tracked with
      resumeCountByPodId := Function.update connector.resumeCountByPodId request.podId none
      jobs := connector.jobs ++
        [.writing request ((connector.resumeCountByPodId request.podId).getD 0)] }

def takeDelete (podId : String) (connector : Connector) : Connector :=
  { connector with
    deletedPodIds :=
      if 0 < connector.runningCreates podId then Function.update connector.deletedPodIds podId true
      else connector.deletedPodIds
    jobs := connector.jobs ++ [.deleting podId] }

/-- The `finally` of a create, after the record is removed. -/
def leaveCreate (podId : String) (connector : Connector) : Connector :=
  { connector with
    deletedPodIds :=
      if connector.runningCreates podId = 1 then Function.update connector.deletedPodIds podId false
      else connector.deletedPodIds
    runningCreates :=
      Function.update connector.runningCreates podId (connector.runningCreates podId - 1) }

def World.withConnector (world : World) (connector : Connector) : World :=
  { world with connector := connector }

def World.setJob (world : World) (index : ℕ) (job : Job) : World :=
  world.withConnector { world.connector with jobs := world.connector.jobs.set index job }

def advanceJob (now : ℚ) (index : ℕ) (world : World) : Job → Option World
  | .writing request resumes =>
    let create : InflightBackendCreate :=
      ⟨request.minerHotkey, request.executorId, request.workloadKind, now.floor, resumes⟩
    some ({ world with records := world.records.set request.podId create }.setJob index
      (.driving request.podId))
  | .driving podId => some (world.setJob index (.removing podId))
  | .removing podId =>
    let world := (world.remove podId .completedCreate).setJob index .finished
    some (world.withConnector (leaveCreate podId world.connector))
  | .deleting podId => some ((world.remove podId .delete).setJob index .finished)
  | .finished => none

inductive SendEnd
  | sent
  | failed
  | tooBig

def endSend (message : Message) (result : SendEnd) (world : World) : World :=
  let connector := world.connector
  match result, message with
  | .sent, .failed request =>
    if request.failureStep = createCutOffByRestartStep then
      { world with
        connector := { connector with sender := .untracking request.podId }
        log := .sent request.podId :: world.log }
    else world.withConnector { connector with sender := .idle }
  | .sent, .other | .tooBig, _ => world.withConnector { connector with sender := .idle }
  | .failed, _ =>
    world.withConnector
      { connector with sender := .idle, messageQueue := message :: connector.messageQueue }

/-! ## Lifetimes -/

inductive Action
  /-- the connector starts, and reads the records in some order and the rented pods -/
  | start (creates : List (String × InflightBackendCreate)) (rentedPodIds : List String)
  | sweepNext (now : ℚ)
  | report
  | create (request : ContainerCreateRequest)
  | delete (podId : String)
  | advance (index : ℕ) (now : ℚ)
  /-- a job queues its reply -/
  | reply
  | takeMessage
  | endSend (result : SendEnd)
  | untrack
  | crash

def Action.isDelivery : Action → Bool
  | .create _ | .delete _ => true
  | _ => false

def World.isServing (world : World) : Bool :=
  match world.connector.phase with
  | .serving => true
  | _ => false

def serve (world : World) : Action → Option World
  | .create request => some (world.withConnector (takeCreate request world.connector))
  | .delete podId => some (world.withConnector (takeDelete podId world.connector))
  | .advance index now => world.connector.jobs[index]?.bind (advanceJob now index world)
  | .reply =>
    some (world.withConnector
      { world.connector with messageQueue := world.connector.messageQueue ++ [.other] })
  | .takeMessage =>
    match world.connector.sender, world.connector.messageQueue with
    | .idle, message :: rest =>
      some (world.withConnector
        { world.connector with sender := .sending message, messageQueue := rest })
    | _, _ => none
  | .endSend result =>
    match world.connector.sender with
    | .sending message => some (endSend message result world)
    | _ => none
  | .untrack =>
    match world.connector.sender with
    | .untracking podId =>
      let world := world.remove podId .sentFailure
      some (world.withConnector { world.connector with sender := .idle })
    | _ => none
  | _ => none

def sweep (maxAge : ℤ) (left : List (String × InflightBackendCreate))
    (rentedPodIds resumed : List String) (world : World) : Action → Option World
  | .sweepNext now =>
    match left with
    | (podId, create) :: left =>
      some (sweepOne maxAge now left rentedPodIds resumed podId create world)
    | [] => none
  | .report =>
    match left with
    | [] =>
      some
        { world with
          connector := { world.connector with phase := .serving }
          log := .reported resumed :: world.log }
    | _ :: _ => none
  | _ => none

def beginSweep (world : World) : Action → Option World
  | .start creates rentedPodIds =>
    if creates.Perm world.records.items then
      some
        { world with
          connector := { world.connector with phase := .sweeping creates rentedPodIds [] }
          log := .swept (creates.map Prod.fst) :: world.log }
    else none
  | _ => none

def step (maxAge : ℤ) (world : World) : Action → Option World
  | .crash => some (world.withConnector .off)
  | action =>
    match world.connector.phase with
    | .down => beginSweep world action
    | .sweeping left rentedPodIds resumed => sweep maxAge left rentedPodIds resumed world action
    | .serving => serve world action

end Lium.RestartResumes
