import Lium.Validator.RentedGpuDrop

/-! # Holding a node that lost a GPU

One cycle of a node: the hold of `GpuLossHoldCheck`, the marker that `GpuModelValidCheck` and
`GpuMemoryHealthCheck` write too, and the load test of `PostRentalGpuRecheckCheck`. Other checks may
stop a cycle between any two of these.
-/

namespace Lium.GpuLossHold

open RentedGpuDrop

structure DropMark where
  isHeld : Bool
  since : ℕ
  lastSeen : ℕ
  replaced : Bool
deriving DecidableEq, Repr

structure RecheckMarker where
  source : String
  verdict : String
  fillerSkips : ℕ
deriving DecidableEq, Repr

def sourceGpuLossHold : String := "gpu_loss_hold"

def fillerSkipLimit : ℕ := 3

def resetRequiredStreakLimit : ℕ := 3

structure State where
  hold : Option DropMark
  marker : Option RecheckMarker
  resetRequiredStreak : ℕ
deriving DecidableEq, Repr

inductive MemoryRead where
  | ok (resetRequired : Bool)
  | flagged
  | unread
deriving DecidableEq, Repr

structure CardProbes where
  failures : List String
  allCardsInconclusive : Bool
  faultProbeOk : Bool
deriving DecidableEq, Repr

structure Settings where
  gpuModelRates : List String
  memoryHealthEnforced : Bool
deriving DecidableEq, Repr

structure Cycle where
  now : ℕ
  /-- The anchored UUIDs of the verified-job record. -/
  anchor : List String
  scrape : Scrape
  /-- This miner's pods on the executor. -/
  pods : List RentedPod
  /-- The GPUs each reset in progress names. -/
  resets : List (List String)
  /-- The GPUs a reset named that ended a moment ago. -/
  recentReset : Option (List String)
  /-- A pod's container names GPUs the host does not list, or cannot be read. -/
  podsStranded : Bool
  memory : MemoryRead
  fillerOnly : Bool
  fillersRemoved : Bool
  probes : CardProbes
  /-- Another check fails the cycle before `GpuModelValidCheck`, before `GpuMemoryHealthCheck`,
  before `PostRentalGpuRecheckCheck` or after it. -/
  stopsBeforeModel : Bool
  stopsBeforeMemory : Bool
  stopsBeforeRecheck : Bool
  stopsAfterRecheck : Bool
deriving DecidableEq, Repr

/-- What a part of a cycle came to: whether it failed the cycle or ended it early, the reason
codes of its events, and whether the every-card probes passed in it. -/
structure Outcome where
  failed : Bool
  halted : Bool
  reasons : List String
  probesPassed : Bool
deriving DecidableEq, Repr

namespace Outcome

def passed (reason : String) : Outcome := ⟨false, false, [reason], false⟩

def failure (fatal : Bool) (reasons : List String) : Outcome := ⟨fatal, false, reasons, false⟩

def other (stops : Bool) : Outcome := ⟨stops, false, [], false⟩

def carriesGpuLost (outcome : Outcome) : Bool := decide ("GPU_LOST" ∈ outcome.reasons)

end Outcome

def fullSetChanged (anchor current : List String) : Bool :=
  decide (anchor ≠ []) && decide (current.length = anchor.length) &&
    !(current.all (· ∈ anchor) && anchor.all (· ∈ current))

namespace Cycle

variable (cycle : Cycle)

def rented : Bool := !cycle.pods.isEmpty

def anchored : List String := splitUuids cycle.anchor

def listed : List String := sortedSet (listedUuids cycle.scrape.gpuDetails)

def setChanged : Bool := fullSetChanged cycle.anchored cycle.listed

def replacedAll : Bool := cycle.setChanged && cycle.anchored.all (· ∉ cycle.listed)

def anchoredMissing : List String := cycle.anchored.filter (· ∉ cycle.listed)

/-- The resets that count: one that has ended only if it named its GPUs. -/
def coveringResets : List (List String) :=
  cycle.resets ++ (cycle.recentReset.filter (· ≠ [])).toList

/-- `missing_gpus_under_reset`: a reset that names no GPU covers the node. -/
def missingGpusUnderReset : Bool :=
  decide (cycle.coveringResets ≠ []) &&
    (cycle.coveringResets.any (·.isEmpty) ||
      (decide (cycle.anchoredMissing ≠ []) &&
        cycle.anchoredMissing.all (· ∈ cycle.coveringResets.flatten)))

/-- `judge_scrape`: a full set of other cards is judged without the anchor. -/
def judgeScrape : Option GpuDrop :=
  judgeRentedGpus (rentedGpuCount cycle.pods) (if cycle.setChanged then [] else cycle.anchored)
    cycle.scrape.gpuCount (listedUuids cycle.scrape.gpuDetails) cycle.scrape.gpuDetails.length
    cycle.scrape.gpuScrapeError []

/-- The mark a faulty cycle leaves: weak evidence holds only what was marked before. -/
def faultMark (hold : Option DropMark) (drop : GpuDrop) : DropMark where
  isHeld := hold.isSome || !drop.confirmFirst
  since := (hold.map DropMark.since).getD cycle.now
  lastSeen := cycle.now
  replaced := false

def gpuLossMarker : RecheckMarker := ⟨sourceGpuLossHold, "gpu_lost", 0⟩

/-- `GpuLossHoldCheck.run` on a scrape without a fault. -/
def cleanScrape (state : State) : Outcome × State :=
  if cycle.setChanged && cycle.rented && cycle.podsStranded then
    (.failure true ["GPU_LOST"],
      if state.hold.isSome && cycle.replacedAll then { state with hold := none } else state)
  else
    match state.hold with
    | none => (.passed "GPU_LOST_NONE", state)
    | some mark =>
      if !mark.isHeld || mark.replaced || cycle.replacedAll then
        (.passed "GPU_LOST_NONE", { state with hold := none })
      else if cycle.rented then (.failure false ["GPU_LOST"], state)
      else
        (.passed "GPU_LOST_CLEAN_AGAIN",
          { state with hold := none, marker := some gpuLossMarker })

/-- `GpuLossHoldCheck.run` on a scrape with a fault: only an NVML loss code over a full list is
left to it to fail. -/
def faultyScrape (drop : GpuDrop) (state : State) : Outcome × State :=
  let mark := cycle.faultMark state.hold drop
  (if mark.isHeld then
      .failure (decide (drop.faults = [.nvmlError]) && !cycle.rented) ["GPU_LOST"]
    else .passed "GPU_LOST_PENDING",
    { state with hold := some mark })

def gpuLossHoldCheck (state : State) : Outcome × State :=
  if cycle.missingGpusUnderReset then
    if cycle.anchoredMissing = [] then (.passed "GPU_LOST_GPU_RESET_IN_PROGRESS", state)
    else (.failure true ["SCRAPE_GPU_RESET_IN_PROGRESS"], state)
  else
    match cycle.judgeScrape with
    | some drop => cycle.faultyScrape drop state
    | none => cycle.cleanScrape state

def cardReferences : List (Option String) :=
  if 0 < cycle.scrape.gpuCount then cycle.scrape.gpuDetails.map Card.reference else []

def supported (settings : Settings) (reference : Option String) : Bool :=
  reference.any fun model => decide (model ∈ settings.gpuModelRates)

def modelKey (card : Card) : String :=
  if card.name = card.reference then card.name.getD "None"
  else card.name.getD "None" ++ " (as " ++ card.reference.getD "None" ++ ")"

def rowsComparable (settings : Settings) : Bool :=
  decide (settings.gpuModelRates ≠ []) &&
    supported settings cycle.cardReferences.head?.join && decide (cycle.scrape.gpuCount ≠ 0)

/-- A row list of another length than the count owes a load test. -/
def detailsMismatch (settings : Settings) : Bool :=
  cycle.rowsComparable settings &&
    decide ((cycle.scrape.gpuDetails.length : ℤ) ≠ cycle.scrape.gpuCount)

def gpuDropMarker : RecheckMarker := ⟨"gpu_details_mismatch", "gpu_missing", 0⟩

def oneModel : Bool := decide ((cycle.scrape.gpuDetails.map modelKey).dedup.length = 1)

def gpuModelValidCheck (settings : Settings) (state : State) : Outcome × State :=
  if settings.gpuModelRates = [] then (.failure true ["GPU_MODEL_POLICY_MISSING"], state)
  else if !supported settings cycle.cardReferences.head?.join then
    (.failure true ["GPU_MODEL_UNSUPPORTED"], state)
  else if cycle.scrape.gpuCount = 0 then (.failure true ["GPU_COUNT_ZERO"], state)
  else if cycle.detailsMismatch settings then
    (.failure true ["GPU_DETAILS_MISMATCH"], { state with marker := some gpuDropMarker })
  else if !cycle.cardReferences.all (supported settings) then
    (.failure (!cycle.rented) ["GPU_MODEL_UNSUPPORTED"], state)
  else if !cycle.oneModel then
    (.failure (!cycle.rented) ["GPU_MODEL_MIXED"], state)
  else (.passed "GPU_MODEL_OK", state)

/-- The streak of reads that ask for a reset, after this cycle's read. -/
def nextStreak (streak : ℕ) : ℕ :=
  match cycle.memory with
  | .ok true => streak + 1
  | .ok false => 0
  | .flagged => 0
  | .unread => streak

/-- The memory read condemns a card, by itself or as the last of a streak. -/
def memoryFlagged (streak : ℕ) : Bool :=
  match cycle.memory with
  | .flagged => true
  | .ok true => decide (resetRequiredStreakLimit ≤ streak + 1)
  | _ => false

def memoryMarker : RecheckMarker := ⟨"gpu.validate.memory_health", "flagged", 0⟩

def gpuMemoryHealthCheck (settings : Settings) (state : State) : Outcome × State :=
  let counted := { state with resetRequiredStreak := cycle.nextStreak state.resetRequiredStreak }
  if cycle.memoryFlagged state.resetRequiredStreak then
    (if settings.memoryHealthEnforced then
        .failure (!cycle.rented) ["GPU_MEMORY_HEALTH_FAILED"]
      else .passed "GPU_MEMORY_HEALTH_FLAGGED",
      if cycle.rented then { counted with marker := some memoryMarker } else counted)
  else
    match cycle.memory with
    | .ok true => (.passed "GPU_MEMORY_HEALTH_RESET_ADVISED", counted)
    | .unread => (.passed "GPU_MEMORY_HEALTH_UNKNOWN", counted)
    | _ => (.passed "GPU_MEMORY_HEALTH_OK", counted)

/-- A node back from a lost GPU is not let through without the test. -/
def recheckNotRun (marker : RecheckMarker) (reason : String) : Outcome :=
  if marker.source = sourceGpuLossHold then .failure true ["GPU_LOST"] else .passed reason

/-- The every-card probes of the recheck. -/
def everyCardProbes (marker : RecheckMarker) (state : State) : Outcome × State :=
  if cycle.probes.failures ≠ [] then
    (.failure true ("POST_RENTAL_GPU_RECHECK_FAILED" ::
        if marker.source = sourceGpuLossHold then ["GPU_LOST"] else []), state)
  else if !cycle.probes.faultProbeOk || cycle.probes.allCardsInconclusive then
    (recheckNotRun marker "POST_RENTAL_GPU_RECHECK_INCONCLUSIVE", state)
  else (⟨false, false, ["POST_RENTAL_GPU_RECHECK_PASSED"], true⟩, { state with marker := none })

def postRentalGpuRecheckCheck (state : State) : Outcome × State :=
  match state.marker with
  | none => (.passed "POST_RENTAL_GPU_RECHECK_NOT_NEEDED", state)
  | some marker =>
    if !cycle.fillerOnly then cycle.everyCardProbes marker state
    else if marker.fillerSkips < fillerSkipLimit then
      (recheckNotRun marker "POST_RENTAL_GPU_RECHECK_SKIPPED_ACTIVE_FILLER",
        { state with marker := some { marker with fillerSkips := marker.fillerSkips + 1 } })
    else if cycle.fillersRemoved then cycle.everyCardProbes marker state
    else (recheckNotRun marker "POST_RENTAL_GPU_RECHECK_INCONCLUSIVE", state)

/-- `TenantEnforcementCheck` ends a rented cycle here. -/
def tenantEnforcement : Outcome := ⟨false, cycle.rented, [], false⟩

end Cycle

/-- Parts of a cycle one after another, until one fails it or ends it. -/
def inSequence : List (State → Outcome × State) → State → Outcome × State
  | [], state => (⟨false, false, [], false⟩, state)
  | part :: parts, state =>
    if (part state).1.failed || (part state).1.halted then part state
    else
      let later := inSequence parts (part state).2
      (⟨later.1.failed, later.1.halted, (part state).1.reasons ++ later.1.reasons,
        (part state).1.probesPassed || later.1.probesPassed⟩, later.2)

/-- A validation cycle: the four checks in the pipeline's order. -/
def Cycle.run (settings : Settings) (cycle : Cycle) (state : State) : Outcome × State :=
  inSequence
    [ cycle.gpuLossHoldCheck
    , fun state => (.other cycle.stopsBeforeModel, state)
    , cycle.gpuModelValidCheck settings
    , fun state => (.other cycle.stopsBeforeMemory, state)
    , cycle.gpuMemoryHealthCheck settings
    , fun state => (.other cycle.stopsBeforeRecheck, state)
    , fun state => (cycle.tenantEnforcement, state)
    , cycle.postRentalGpuRecheckCheck
    , fun state => (.other cycle.stopsAfterRecheck, state) ]
    state

end Lium.GpuLossHold
