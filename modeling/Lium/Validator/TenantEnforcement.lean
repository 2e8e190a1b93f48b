import Lium.Foundation.Text
import Mathlib.Algebra.Order.Field.Rat
import Mathlib.Data.List.Perm.Basic

/-! # The verdict on a rented node

`TenantEnforcementCheck.run` walks over the pods of a node. A pod that runs, or that is waited for,
lets the walk go on; any other ends it. What the host and the backend answer about a pod is part
of the pod.
-/

namespace Lium.TenantEnforcement

def minPortCount : ℤ := 3
def podContainerNameGraceMinutes : ℚ := 15
def gpuUtilizationLimit : ℚ := 5
def gpuMemoryUtilizationLimit : ℚ := 5
def podContainerPrefix : String := "pod_"

/-! ## Pods -/

inductive PodStatus
  | pending
  | rebootPending
  | rebootFailed
  | other
  deriving DecidableEq

inductive ContainerState
  | running
  | exited
  | absent
  | unknown
  deriving DecidableEq

structure Diagnostics where
  containerMissing : Bool
  containerStatus : Option String

def containerStateFromDiagnostics (diagnostics : Diagnostics) : ContainerState :=
  if diagnostics.containerMissing then .absent
  else
    match diagnostics.containerStatus with
    | none => .unknown
    | some status => if status = "running" then .running else .exited

/-- What reading a container comes to. Keys are `none` when dockerd refuses to read them. -/
inductive PodRead
  | unreachable
  | read (running : Bool) (authorizedKeys : Option (List String))

inductive Recovery
  | unreachable
  | notRecovered
  | started (again : PodRead)

structure Pod where
  podId : String
  containerName : String
  createdAt : Option ℚ
  status : PodStatus
  read : PodRead
  renterGpuResetInProgress : Bool
  diagnostics : Diagnostics
  /-- the backend's answer, `none` when it has none -/
  rentalActive : Option Bool
  recovery : Recovery

def Pod.containerNamePending (pod : Pod) : Bool := Text.strip pod.containerName = ""

def Pod.dockerContainerName (pod : Pod) : String :=
  if pod.containerNamePending then podContainerPrefix ++ pod.podId else Text.strip pod.containerName

def Pod.withinContainerNameGrace (now : ℚ) (pod : Pod) : Bool :=
  pod.status ∈ [.pending, .rebootPending] ||
    match pod.createdAt with
    | none => true
    | some createdAt => now - createdAt < podContainerNameGraceMinutes * 60

/-- A pod that is down and is judged in the next cycle. -/
def Pod.waitedFor (now : ℚ) (pod : Pod) : Bool :=
  pod.containerNamePending && pod.withinContainerNameGrace now || pod.renterGpuResetInProgress

/-! ## Ports -/

structure Ports where
  /-- `none` is a count that is not an integer -/
  availablePortCount : Option ℤ
  supportsGpuSplitting : Bool
  gpuSplittingMinCount : Option ℤ
  gpuCount : ℤ

def portCountBelowListingFloor (ports : Ports) : Option ℤ :=
  ports.availablePortCount.filter (· < minPortCount)

def splitPortRequirement (ports : Ports) : Option (ℤ × ℤ) :=
  match ports.gpuSplittingMinCount with
  | some minCount =>
    if ports.supportsGpuSplitting && 0 < minCount then
      let maxSplits := ports.gpuCount / minCount
      some (maxSplits, max (maxSplits * minPortCount) minPortCount)
    else none
  | none => none

def splitPortShortfall (ports : Ports) (verifiedOverride : Option ℤ) : Option (ℤ × ℤ × ℤ) :=
  match splitPortRequirement ports, ports.availablePortCount with
  | some need, some available =>
    let count := verifiedOverride.getD available
    if minPortCount ≤ available ∧ count < need.2 then some (count, need) else none
  | _, _ => none

/-- The second probe of a split node. `probed` has the count that it found and, when the backend
was read again and shows no other rental, the count with the fillers of that reading. -/
inductive Reprobe
  | failed
  | probed (portCount : ℤ) (fresh : Option ℤ)

def Reprobe.shortfall (ports : Ports) : Reprobe → Option (ℤ × ℤ × ℤ)
  | .failed => splitPortShortfall ports none
  | .probed portCount fresh =>
    match splitPortShortfall ports (some portCount), fresh with
    | some _, some count => splitPortShortfall ports (some count)
    | short, _ => short

/-! ## The check -/

structure GpuUsage where
  gpuUtilization : Option ℚ
  memoryUtilization : Option ℚ

/-- A node and its rental as one run of the check sees them. -/
structure Facts where
  pods : List Pod
  ports : Ports
  fillerContainers : List String
  /-- the container of each GPU process -/
  gpuProcesses : List (Option String)
  gpuDetails : List GpuUsage
  ownerFlag : Bool
  /-- listed on this node a moment ago, and running our image -/
  recentlyListedFiller : String → Bool
  hostStartsGpuContainer : Bool

structure Cycle where
  now : ℚ
  maintenanceWindow : Bool
  recoverStalePods : Bool
  enforcePortFloorOnStalePod : Bool
  rebootFailedHostCheckEnabled : Bool

inductive Event
  | notRented
  | executorTransportUnreachable
  | stalePodNotRunning
  | insufficientPortsForSplits
  | insufficientPorts
  | podNotRunning
  | rebootFailedHostFault
  | providerMaintenance
  | gpuOutsideTenant
  | alreadyRented
  deriving DecidableEq

/-- The updates are `none` where the check leaves the field alone. -/
structure CheckResult where
  passed : Bool
  event : Event
  rented : Option Bool := none
  sshPubKeys : Option (Option (List String)) := none
  clearVerifiedJobInfo : Bool := false
  podStates : List (String × ContainerState) := []
  halt : Bool := false

inductive Judgement
  | goesOn (state : ContainerState) (sshPubKeys : List String)
  | fails (event : Event) (state : Option ContainerState) (clears : Bool)
  | stale (state : ContainerState)

def recoverDownedPod (cycle : Cycle) (facts : Facts) (pod : Pod) : Judgement :=
  let state := containerStateFromDiagnostics pod.diagnostics
  let down :=
    if cycle.rebootFailedHostCheckEnabled && pod.status = .rebootFailed &&
        facts.pods.length = 1 && !facts.hostStartsGpuContainer then
      Judgement.fails .rebootFailedHostFault (some state) true
    else .fails .podNotRunning (some state) true
  match cycle.recoverStalePods, pod.recovery with
  | true, .unreachable | true, .started .unreachable =>
    .fails .executorTransportUnreachable (some .unknown) false
  | true, .started (.read true keys) => .goesOn .running (keys.getD [])
  | _, _ => down

def judgePod (cycle : Cycle) (facts : Facts) (pod : Pod) : Judgement :=
  match pod.read with
  | .unreachable => .fails .executorTransportUnreachable none false
  | .read true keys => .goesOn .running (keys.getD [])
  | .read false _ =>
    if pod.waitedFor cycle.now then .goesOn .unknown []
    else if cycle.maintenanceWindow then
      .goesOn (containerStateFromDiagnostics pod.diagnostics) []
    else
      match pod.rentalActive with
      | some false => .stale (containerStateFromDiagnostics pod.diagnostics)
      | _ => recoverDownedPod cycle facts pod

/-- The walk's dictionary of container states and the keys last read. -/
structure Seen where
  stateByPodId : String → Option ContainerState
  sshPubKeys : List String

def Seen.note (seen : Seen) (pod : Pod) (state : ContainerState) (keys : List String) : Seen :=
  ⟨Function.update seen.stateByPodId pod.podId (some state), keys⟩

def CheckResult.withPodStates (result : CheckResult) (pods : List Pod) (seen : Seen) :
    CheckResult :=
  { result with
    podStates := pods.map fun pod => (pod.podId, (seen.stateByPodId pod.podId).getD .unknown) }

/-- Only the first pod of the list can know this, since the walk goes on only past live pods;
whatever is not known of another pod counts as live. -/
def everyListedPodStale (pods : List Pod) (stalePodIndex : ℕ) : Bool :=
  stalePodIndex = 0 &&
    (pods.drop 1).all fun other =>
      match other.read, other.rentalActive with
      | .read false _, some false => true
      | _, _ => false

inductive Reprobed
  | shortfall (short : Option (ℤ × ℤ × ℤ))
  | rerun (result : CheckResult)

/-- The verdict at a stale pod; the flag tells that every listed pod is stale. -/
def stalePodResult (cycle : Cycle) (facts : Facts) (reprobed : Reprobed) (seen : Seen)
    (everyStale : Bool) : CheckResult :=
  let judged (passed : Bool) (event : Event) : CheckResult :=
    CheckResult.withPodStates
      { passed := passed, event := event, rented := some false, sshPubKeys := some none }
      facts.pods seen
  let listed :=
    if (portCountBelowListingFloor facts.ports).isSome && cycle.enforcePortFloorOnStalePod &&
        everyStale then
      judged false .insufficientPorts
    else judged true .stalePodNotRunning
  if (splitPortShortfall facts.ports none).isSome && everyStale then
    match reprobed with
    | .rerun result => result
    | .shortfall (some _) => judged false .insufficientPortsForSplits
    | .shortfall none => listed
  else listed

/-- The first pod that does not let the walk go on gives the verdict. -/
def walk (cycle : Cycle) (facts : Facts) (reprobed : Reprobed) :
    ℕ → List Pod → Seen → CheckResult ⊕ Seen
  | _, [], seen => .inr seen
  | index, pod :: rest, seen =>
    match judgePod cycle facts pod with
    | .goesOn state keys => walk cycle facts reprobed (index + 1) rest (seen.note pod state keys)
    | .fails event state clears =>
      .inl (CheckResult.withPodStates
        { passed := false, event := event, clearVerifiedJobInfo := clears } facts.pods
        (state.elim seen (seen.note pod · [])))
    | .stale state =>
      .inl (stalePodResult cycle facts reprobed (seen.note pod state [])
        (everyListedPodStale facts.pods index))

def hasGpuProcessOutsideContainer (containers : List String) (processes : List (Option String)) :
    Bool :=
  processes.any fun process =>
    match process with
    | some name => name = "" || name ∉ containers
    | none => true

def isGpuUsageWithinLimits (details : List GpuUsage) (processes : List (Option String)) : Bool :=
  processes.isEmpty || details.all fun detail =>
    detail.gpuUtilization.getD gpuUtilizationLimit < gpuUtilizationLimit &&
      detail.memoryUtilization.getD gpuMemoryUtilizationLimit ≤ gpuMemoryUtilizationLimit

def gpuOutsideTenant (facts : Facts) : Bool :=
  let containers := facts.pods.map Pod.dockerContainerName ++ facts.fillerContainers
  let recent := (facts.gpuProcesses.filterMap id).filter facts.recentlyListedFiller
  !facts.ownerFlag && hasGpuProcessOutsideContainer (containers ++ recent) facts.gpuProcesses &&
    !isGpuUsageWithinLimits facts.gpuDetails facts.gpuProcesses

/-- The verdict when every pod has let the walk go on. -/
def tenantResult (cycle : Cycle) (facts : Facts) (seen : Seen) : CheckResult :=
  if cycle.maintenanceWindow then
    { passed := false, event := .providerMaintenance, rented := some true,
      sshPubKeys := some (some seen.sshPubKeys) }
  else if gpuOutsideTenant facts then
    { passed := false, event := .gpuOutsideTenant, sshPubKeys := some (some seen.sshPubKeys) }
  else
    { passed := true, event := .alreadyRented, rented := some true,
      sshPubKeys := some (some seen.sshPubKeys), halt := true }

def check (cycle : Cycle) (facts : Facts) (reprobed : Reprobed) : CheckResult :=
  if facts.pods = [] then
    { passed := true, event := .notRented, rented := some false, sshPubKeys := some none }
  else
    match walk cycle facts reprobed 0 facts.pods ⟨fun _ => none, []⟩ with
    | .inl result => result
    | .inr seen => (tenantResult cycle facts seen).withPodStates facts.pods seen

/-- A node as the cycle finds it, with what its second probe would find: in `replaced` a rental
that took the node since the cycle's snapshot. -/
inductive Node
  | mk (facts : Facts) (reprobe : Reprobe)
  | replaced (facts : Facts) (portCount : ℤ) (rentedNow : Node)

def run (cycle : Cycle) : Node → CheckResult
  | .mk facts reprobe => check cycle facts (.shortfall (reprobe.shortfall facts.ports))
  | .replaced facts portCount rentedNow =>
    check cycle facts
      (match splitPortShortfall facts.ports (some portCount) with
      | none => .shortfall none
      | some _ => .rerun (run cycle rentedNow))

end Lium.TenantEnforcement
