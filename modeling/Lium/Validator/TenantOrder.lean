import Lium.Validator.TenantEnforcement

/-! # Which pod's verdict a node gets

The walk over a node's pods ends at the first that does not let it go on. So the verdict on a node
with a live rental can come from a closed one that is listed before it.
-/

namespace Lium.TenantEnforcement

def CheckResult.outcome (result : CheckResult) : Bool × Option Bool := (result.passed, result.rented)

/-! ## Kinds of pods -/

def Pod.isRunning (pod : Pod) : Bool :=
  match pod.read with
  | .read running _ => running
  | .unreachable => false

/-- The container runs and the backend calls the rental active. -/
def Pod.Live (pod : Pod) : Prop := pod.isRunning ∧ pod.rentalActive = some true

def GoesOn (cycle : Cycle) (facts : Facts) (pod : Pod) : Prop :=
  ∃ state keys, judgePod cycle facts pod = .goesOn state keys

variable {first : Pod} {rest : List Pod}

section Check

variable {cycle : Cycle} {facts : Facts} {reprobed : Reprobed}

theorem Pod.Live.goesOn {pod : Pod} (live : pod.Live) : GoesOn cycle facts pod := by
  obtain ⟨running, -⟩ := live
  unfold Pod.isRunning at running
  unfold GoesOn judgePod
  split at running
  next keys read => subst running; simp [read]
  next => simp at running

section

variable (outside : cycle.maintenanceWindow = false)
include outside

end

end Check

/-! ## Every order of a node's pods -/

def Node.facts : Node → Facts
  | .mk facts _ => facts
  | .replaced facts _ _ => facts

def Node.reprobed (cycle : Cycle) : Node → Reprobed
  | .mk facts reprobe => .shortfall (reprobe.shortfall facts.ports)
  | .replaced facts portCount rentedNow =>
    match splitPortShortfall facts.ports (some portCount) with
    | none => .shortfall none
    | some _ => .rerun (run cycle rentedNow)

section Orders

variable {cycle : Cycle} {node : Node} (outside : cycle.maintenanceWindow = false)

include outside

end Orders

namespace Sample

def cycle : Cycle :=
  { now := 0, maintenanceWindow := false, recoverStalePods := true
    enforcePortFloorOnStalePod := true, rebootFailedHostCheckEnabled := false }

def pod (podId : String) (running active : Bool) : Pod :=
  { podId := podId, containerName := podId, createdAt := none, status := .other
    read := .read running (some []), renterGpuResetInProgress := false
    diagnostics := ⟨false, some (if running then "running" else "exited")⟩
    rentalActive := some active, recovery := .notRecovered }

def node (pods : List Pod) : Node :=
  .mk
    { pods := pods, ports := ⟨some 100, false, none, 2⟩, fillerContainers := [], gpuProcesses := []
      gpuDetails := [], ownerFlag := false, recentlyListedFiller := fun _ => false
      hostStartsGpuContainer := true }
    .failed

end Sample

end Lium.TenantEnforcement
