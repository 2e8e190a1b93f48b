import Mathlib.Data.List.Sort
import Mathlib.Data.Prod.Lex
import Mathlib.Data.String.Basic
import Lium.Foundation.Grouping
import Lium.Incentive.State

/-! # Duplicates within a cycle

One machine keeps its score under one hotkey (`keep_one_miner_per_executor`) and one GPU under one
executor of a hotkey (`keep_one_executor_per_gpu`). What the passes only log is left out.
-/

namespace Lium

def Fleet.withNodes (fleet : Fleet) (nodes : ℕ → ValidatedNode) : Fleet :=
  { fleet with nodes }

namespace DuplicateExecutor

def cycleCheckId : String := "executor.cycle.duplicate_across_miners"
def gpuAliasCheckId : String := "executor.cycle.gpu_alias_same_miner"
def acrossMinersReason : String := "EXECUTOR_DUPLICATE_ACROSS_MINERS"
def gpuAliasReason : String := "EXECUTOR_GPU_ALIAS"

/-- `str(result.executor_info.uuid).lower()`. -/
def executorKey (runtime : PyRuntime) (node : ValidatedNode) : String :=
  runtime.lower node.executorInfo.uuid

def sshEndpoint (runtime : PyRuntime) (node : ValidatedNode) : String :=
  runtime.lower (runtime.strip node.executorInfo.address) ++ ":" ++
    toString node.executorInfo.sshPort

/-- The uuid an entry of `gpu.details` reports, if it is a dictionary with one. -/
def reportedUuid (runtime : PyRuntime) : PyValue → Option String
  | .dict fields =>
    let uuid := PyValue.field fields "uuid"
    if uuid.truthy then some (uuid.text runtime) else none
  | _ => none

def gpuUuids (runtime : PyRuntime) (node : ValidatedNode) : Except PyError (List String) := do
  let gpu := (PyValue.field (node.spec.getD []) "gpu").orElse (.dict [])
  let details ← gpu.get "details"
  let entries ← (details.orElse (.list [])).iterate
  return (entries.filterMap (reportedUuid runtime)).dedup.insertionSort (· ≤ ·)

def zeroScore (node : ValidatedNode) (event : ValidationEvent) : ValidatedNode :=
  { node with
    score := 0
    jobScore := 0
    failureReasonCode := some event.reasonCode
    validationEvent := some event }

/-! ## One hotkey per machine -/

/-- `_keeper`: the hotkey a rental names, else one with a rented copy, else any; of
several the one that sorts first. -/
def keeper (runtime : PyRuntime) (rentalHotkeys : PyDict String String)
    (nodes : ℕ → ValidatedNode) (copies : List (String × ℕ)) : Option String :=
  let hotkeys := copies.map Prod.fst
  let rentedCopies := copies.filter fun copy => (nodes copy.2).isRented
  let holders := (rentedCopies.filterMap fun copy =>
    rentalHotkeys.get? (executorKey runtime (nodes copy.2))).filter (· ∈ hotkeys)
  let rented := rentedCopies.map Prod.fst
  List.argmin id
    (if !holders.isEmpty then holders else if !rented.isEmpty then rented else hotkeys)

def scoredCopies (fleet : Fleet) : List (String × ℕ) :=
  (fleet.jobResults.insertionSort fun left right => left.1 ≤ right.1).flatMap fun entry =>
    (entry.2.filter fun id => (fleet.nodes id).isSuccessful).map (entry.1, ·)

def settleEndpoint (runtime : PyRuntime) (rentalHotkeys : PyDict String String) (fleet : Fleet)
    (nodes : ℕ → ValidatedNode) (group : String × List (String × ℕ)) : ℕ → ValidatedNode :=
  let (endpoint, copies) := group
  if (copies.map Prod.fst).dedup.length < 2 then nodes
  else
    let keptBy := (keeper runtime rentalHotkeys fleet.nodes copies).getD ""
    let keptUuids := (copies.filter (·.1 = keptBy)).map fun copy =>
      executorKey runtime (fleet.nodes copy.2)
    (copies.filter (·.1 ≠ keptBy)).foldl (fun nodes copy =>
      let node := fleet.nodes copy.2
      Function.update nodes copy.2
        { zeroScore node
            { reasonCode := acrossMinersReason
              checkId := cycleCheckId
              whatWeSaw :=
                [("executor_uuid", node.executorInfo.uuid), ("ssh_endpoint", endpoint),
                  ("miner_hotkey", copy.1), ("kept_by_hotkey", keptBy)] } with
          duplicateKeptBy := some keptBy
          duplicateSharesKeptRow := executorKey runtime node ∈ keptUuids }) nodes

/-- `keep_one_miner_per_executor`. The keys a node reports are read before anything is
zeroed, and reading its GPUs may raise. -/
def keepOneMinerPerExecutor (runtime : PyRuntime) (rentalHotkeys : PyDict String String)
    (fleet : Fleet) : Except PyError Fleet := do
  let scored := scoredCopies fleet
  let byEndpoint := PyDict.groupBy (fun copy : String × ℕ =>
    let node := fleet.nodes copy.2
    if 0 < node.executorInfo.sshPort then [sshEndpoint runtime node] else []) scored
  let _ ← scored.mapM fun copy => gpuUuids runtime (fleet.nodes copy.2)
  return fleet.withNodes
    (byEndpoint.items.foldl (settleEndpoint runtime rentalHotkeys fleet) fleet.nodes)

/-! ## One executor per GPU -/

/-- A rented copy before an idle one, then the lowest executor uuid. -/
def preference (runtime : PyRuntime) (node : ValidatedNode) : Bool ×ₗ String :=
  toLex (!node.isRented, executorKey runtime node)

def gpuAliasEvent (hotkey gpuUuid : String) (node kept : ValidatedNode) : ValidationEvent where
  reasonCode := gpuAliasReason
  checkId := gpuAliasCheckId
  whatWeSaw :=
    [("executor_uuid", node.executorInfo.uuid),
      ("kept_by_executor_uuid", kept.executorInfo.uuid), ("gpu_uuid", gpuUuid),
      ("miner_hotkey", hotkey)]

def isContested (runtime : PyRuntime) (nodes : ℕ → ValidatedNode) (copies : List ℕ) : Bool :=
  2 ≤ (copies.map fun id => executorKey runtime (nodes id)).dedup.length

/-- The body of the loop over the copies of one GPU: the keeper and the rented copies stay,
and a result already zeroed for another GPU keeps its event. -/
def settleCopy (hotkey gpuUuid : String) (kept : ℕ) (state : (ℕ → ValidatedNode) × List ℕ)
    (id : ℕ) : (ℕ → ValidatedNode) × List ℕ :=
  let (nodes, seen) := state
  if id = kept || (nodes id).isRented || id ∈ seen then (nodes, seen)
  else
    (Function.update nodes id
      (zeroScore (nodes id) (gpuAliasEvent hotkey gpuUuid (nodes id) (nodes kept))), id :: seen)

def settleGpu (runtime : PyRuntime) (hotkey : String) (copiesOf : String → List ℕ)
    (state : (ℕ → ValidatedNode) × List ℕ) (gpuUuid : String) : (ℕ → ValidatedNode) × List ℕ :=
  let copies := copiesOf gpuUuid
  if !isContested runtime state.1 copies then state
  else
    match copies.argmin fun id => preference runtime (state.1 id) with
    | none => state
    | some kept => copies.foldl (settleCopy hotkey gpuUuid kept) state

def gpuReports (runtime : PyRuntime) (nodes : ℕ → ValidatedNode) (ids : List ℕ) :
    Except PyError (List (ℕ × List String)) :=
  (ids.filter fun id => (nodes id).isSuccessful).mapM fun id => do
    let uuids ← gpuUuids runtime (nodes id)
    return (id, uuids)

def settleHotkey (runtime : PyRuntime) (entry : String × List ℕ) (fleet : Fleet) :
    Raising PyError Fleet Fleet := do
  let reports ← Raising.atState fleet (gpuReports runtime fleet.nodes entry.2)
  let byGpu := PyDict.groupBy Prod.snd reports
  let copiesOf (gpuUuid : String) : List ℕ := (byGpu.getD gpuUuid []).map Prod.fst
  let gpus := byGpu.keys.insertionSort (· ≤ ·)
  return fleet.withNodes
    (gpus.foldl (settleGpu runtime entry.1 copiesOf) (fleet.nodes, [])).1

def keepOneExecutorPerGpu (runtime : PyRuntime) (fleet : Fleet) :
    Raising PyError Fleet Fleet :=
  Raising.forEach (settleHotkey runtime)
    (fleet.jobResults.insertionSort fun left right => left.1 ≤ right.1) fleet

end DuplicateExecutor

end Lium
