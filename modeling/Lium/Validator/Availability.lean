import Lium.Validator.SettleCycle

/-! # Availability errors

A node that failed may be published as soon as its miner answers, while the share of failures is
trusted; the cycle's end judges the share again over all results. Results are objects that several
lists name, so they live in a heap.
-/

namespace Lium.Availability

open DuplicateExecutor

inductive ReachSource
  | validator
  | container
  | miner
  deriving DecidableEq

/-- One failed reachability check. `rest` is what is only compared and shown: the target, the
texts, and what else was seen. -/
structure AvailabilityError where
  reasonCode : String
  reachSource : Option ReachSource
  declaredPortCount : Option Int := none
  required : Option Int := none
  rest : List (String × String) := []
  deriving DecidableEq

/-- A result of the wave, with the fields that only reporting reads. -/
structure CycleResult extends ValidatedNode where
  jobBatchId : String
  availabilityErrors : Option (List AvailabilityError) := none
  carriedForRenterGpuReset : Bool := false

abbrev Results := ℕ → CycleResult

/-! ## Our own outage -/

def nodeGpuFaultCodes : List String :=
  ["GPU_LOST", "GPU_MEMORY_HEALTH_FAILED", "GPU_THERMAL_COLLAPSE", "VERIFICATION_FAILED"]

def isTheNodesOwnFault (error : AvailabilityError) : Bool :=
  error.reasonCode ∈ nodeGpuFaultCodes ||
    error.reasonCode = "INSUFFICIENT_PORTS" &&
      match error.declaredPortCount, error.required with
      | some declared, some required => declared < required
      | _, _ => false

def smallestFleetThatCanShowAnOutage : ℕ := 5

def fleetShareThatMeansOurOwnOutage : ℚ := 1 / 2

def isOurOwnOutage (unreachableCount checkedCount : ℕ) : Bool :=
  smallestFleetThatCanShowAnOutage ≤ checkedCount &&
    fleetShareThatMeansOurOwnOutage < (unreachableCount / checkedCount : ℚ)

def isTheValidatorsOwnReading (result : CycleResult) : Bool :=
  match result.availabilityErrors with
  | none => false
  | some errors => errors.isEmpty || errors.any fun error => error.reachSource ≠ some .miner

def checkedAndUnreachable (results : Results) (ids : List ℕ) : List ℕ × List ℕ :=
  let checked := ids.filter fun id => isTheValidatorsOwnReading (results id)
  (checked, checked.filter fun id =>
    ((results id).availabilityErrors.getD []).any fun error => !isTheNodesOwnFault error)

def ownFaultEntries (result : CycleResult) : List AvailabilityError :=
  (result.availabilityErrors.getD []).filter isTheNodesOwnFault

/-- `own_fault_entries or None`. -/
def silenced (result : CycleResult) : CycleResult :=
  { result with
    availabilityErrors :=
      if (ownFaultEntries result).isEmpty then none else some (ownFaultEntries result) }

/-- `silence_availability_errors_on_our_own_outage`: the results, and how many were silenced. -/
def silenceAvailabilityErrorsOnOurOwnOutage (results : Results) (ids : List ℕ) : Results × ℕ :=
  let (checked, unreachable) := checkedAndUnreachable results ids
  if isOurOwnOutage unreachable.length checked.length then
    (fun id => if id ∈ checked then silenced (results id) else results id, checked.length)
  else (results, 0)

/-! ## The running share -/

structure RunningOutageTally where
  jobBatchId : String
  /-- lower-case -/
  rentedExecutorIds : List String
  checkedCount : ℕ := 0
  unreachableCount : ℕ := 0
  /-- executor uuids published early this cycle -/
  publishedEarly : List String := []

def mayGoEarly (runtime : PyRuntime) (rentedExecutorIds : List String) (result : CycleResult) :
    Bool :=
  result.availabilityErrors.any (!·.isEmpty) && !result.isSuccessful && !result.isRented &&
    executorKey runtime result.toValidatedNode ∉ rentedExecutorIds

namespace RunningOutageTally

def trusted (tally : RunningOutageTally) : Bool :=
  smallestFleetThatCanShowAnOutage ≤ tally.checkedCount &&
    !isOurOwnOutage tally.unreachableCount tally.checkedCount

def ofThisBatch (tally : RunningOutageTally) (results : Results) (ids : List ℕ) : List ℕ :=
  ids.filter fun id => (results id).jobBatchId = tally.jobBatchId

def count (results : Results) (tally : RunningOutageTally) (ids : List ℕ) : RunningOutageTally :=
  let (checked, unreachable) := checkedAndUnreachable results (tally.ofThisBatch results ids)
  { tally with
    checkedCount := tally.checkedCount + checked.length
    unreachableCount := tally.unreachableCount + unreachable.length }

/-- Count one miner's results; those that may be published now. -/
def add (runtime : PyRuntime) (results : Results) (tally : RunningOutageTally) (ids : List ℕ) :
    RunningOutageTally × List ℕ :=
  let counted := tally.count results ids
  let (checked, _) := checkedAndUnreachable results (tally.ofThisBatch results ids)
  (counted,
    if counted.trusted then
      checked.filter fun id => mayGoEarly runtime tally.rentedExecutorIds (results id)
    else [])

/-- A result with the list the last cycle published for it, under its own entries. -/
def restored (runtime : PyRuntime) (tally : RunningOutageTally)
    (publishedBefore : PyDict String (List AvailabilityError)) (result : CycleResult) :
    CycleResult :=
  if result.executorInfo.uuid ∉ tally.publishedEarly then result
  else
    match publishedBefore.get? (executorKey runtime result.toValidatedNode) with
    | none => result
    | some before =>
      let kept := result.availabilityErrors.getD []
      { result with
        availabilityErrors := some (kept ++ before.filter fun error => error ∉ kept) }

def restorePublishedEarly (runtime : PyRuntime) (tally : RunningOutageTally) (results : Results)
    (ids : List ℕ) (publishedBefore : PyDict String (List AvailabilityError)) : Results :=
  fun id => if id ∈ ids then tally.restored runtime publishedBefore (results id) else results id

end RunningOutageTally

/-! ## Publishing -/

structure MinerJob where
  minerHotkey : String
  minerColdkey : Option String
  results : List ℕ

/-- `if miner_coldkey`. -/
def MinerJob.hasColdkey (job : MinerJob) : Bool := job.minerColdkey.any (· ≠ "")

/-- What publishing changes: the lists the cycles published, the results sent so far in this
cycle, and the list the backend stores per executor. -/
structure Publisher where
  cyclePublishedAvailability : PyDict String (List AvailabilityError)
  published : List ℕ := []
  stored : String → List AvailabilityError

/-- The backend's side of one spec: `None` leaves the stored list alone. -/
def store (results : Results) (stored : String → List AvailabilityError) (id : ℕ) :
    String → List AvailabilityError :=
  match (results id).availabilityErrors with
  | none => stored
  | some errors => Function.update stored (results id).executorInfo.uuid errors

def Publisher.hides (publisher : Publisher) (uuid : String) : Prop := publisher.stored uuid ≠ []

/-- The lists remembered for the next cycle. -/
def rememberPublished (runtime : PyRuntime) (results : Results)
    (remembered : PyDict String (List AvailabilityError)) (id : ℕ) :
    PyDict String (List AvailabilityError) :=
  match (results id).availabilityErrors with
  | none => remembered
  | some errors => remembered.set (executorKey runtime (results id).toValidatedNode) errors

/-- `publish_machine_specs`, of which every spec goes out. -/
def publishMachineSpecs (runtime : PyRuntime) (results : Results) (ids : List ℕ)
    (isWholeMinerBatch : Bool) (publisher : Publisher) : Publisher where
  cyclePublishedAvailability :=
    if isWholeMinerBatch then
      ids.foldl (rememberPublished runtime results) publisher.cyclePublishedAvailability
    else publisher.cyclePublishedAvailability
  published := publisher.published ++ ids
  stored := ids.foldl (store results) publisher.stored

structure WaveState where
  outageTally : Option RunningOutageTally
  publisher : Publisher

def publishUnreachableEarly (runtime : PyRuntime) (results : Results) (state : WaveState)
    (job : MinerJob) : WaveState :=
  match state.outageTally with
  | none => state
  | some tally =>
    let (counted, early) := tally.add runtime results job.results
    if early.isEmpty || !job.hasColdkey then { state with outageTally := some counted }
    else
      { outageTally := some
          { counted with
            publishedEarly := counted.publishedEarly ++
              early.map fun id => (results id).executorInfo.uuid }
        publisher := publishMachineSpecs runtime results early false state.publisher }

/-- The jobs of a wave, in the order in which they answer. -/
def runWave (runtime : PyRuntime) (results : Results) (answers : List MinerJob)
    (state : WaveState) : WaveState :=
  answers.foldl (publishUnreachableEarly runtime results) state

/-! ## The end of the cycle -/

def specsToPublish (results : Results) (ids : List ℕ) : List ℕ :=
  ids.filter fun id =>
    !(results id).duplicateSharesKeptRow && !(results id).carriedForRenterGpuReset

def reportedResults (runtime : PyRuntime) (wave : WaveState) (results : Results)
    (ids : List ℕ) : Results :=
  let (kept, silencedCount) := silenceAvailabilityErrorsOnOurOwnOutage results ids
  match wave.outageTally with
  | none => kept
  | some tally =>
    if silencedCount = 0 then kept
    else tally.restorePublishedEarly runtime kept ids wave.publisher.cyclePublishedAvailability

def publishJob (runtime : PyRuntime) (results : Results) (publisher : Publisher)
    (job : MinerJob) : Publisher :=
  if job.hasColdkey then
    publishMachineSpecs runtime results (specsToPublish results job.results) true publisher
  else publisher

def finishCycle (runtime : PyRuntime) (wave : WaveState) (results : Results)
    (jobs : List MinerJob) : Publisher :=
  let reported := reportedResults runtime wave results (jobs.flatMap MinerJob.results)
  jobs.foldl (publishJob runtime reported) wave.publisher

/-- The answers that were in by the deadline, one per hotkey. -/
structure Collected where
  jobs : List MinerJob
  hotkeysNodup : (jobs.map MinerJob.minerHotkey).Nodup
  resultsNodup : (jobs.flatMap MinerJob.results).Nodup

namespace Collected

variable (collected : Collected)

def ids : List ℕ := collected.jobs.flatMap MinerJob.results

def fleet (results : Results) : Fleet where
  nodes id := (results id).toValidatedNode
  jobResults := collected.jobs.map fun job => (job.minerHotkey, job.results)
  hotkeysNodup := by
    rw [List.map_map]
    exact collected.hotkeysNodup
  nodesNodup := by
    rw [List.flatMap_map]
    exact collected.resultsNodup

def settle (runtime : PyRuntime) (rentedExecutors : List (String × String)) (results : Results) :
    Results :=
  fun id => { results id with
    toValidatedNode :=
      (settleDuplicates runtime rentedExecutors (collected.fleet results)).nodes id }

end Collected

end Lium.Availability
