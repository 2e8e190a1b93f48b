import Lium.Incentive.Snapshot
import Lium.Validator.DuplicateExecutor

/-! # Settling a cycle

`settle_cycle_results` runs the duplicate passes and then counts the scored GPUs per model,
the denominators of the mining scores.
-/

namespace Lium

/-- The results with the duplicate passes applied. A failure of a pass is logged, and the
results stay as they are by then. -/
def settleDuplicates (runtime : PyRuntime) (rentedExecutors : List (String × String))
    (fleet : Fleet) : Fleet :=
  let rentalHotkeys := PyDict.ofList (rentedExecutors.map fun rented =>
    (runtime.lower rented.1, rented.2))
  match DuplicateExecutor.keepOneMinerPerExecutor runtime rentalHotkeys fleet with
  | .error _ => fleet
  | .ok settled => Raising.left (DuplicateExecutor.keepOneExecutorPerGpu runtime settled)

def countsInDenominator (env : Env) (result : JobResult) : Bool :=
  result.hasGpuModel && result.gpuCount ≠ 0 && (0 < result.score || 0 < result.jobScore) &&
    (!result.isSpot || env.earnsSpotRentalIncentive result) &&
    !env.isMissingDiscordAfterCutoff result &&
    !(result.isNewRentalsPaused && !result.isRented) &&
    !result.isInMaintenance

def Fleet.results (fleet : Fleet) : List JobResult :=
  fleet.entries.map fun entry => .fresh (fleet.nodes entry.2)

/-- `settle_cycle_results`: the settled results and the GPUs per model. -/
def settleCycleResults (env : Env) (rentedExecutors : List (String × String)) (fleet : Fleet) :
    Fleet × PyDict String ℕ :=
  let settled := settleDuplicates env.runtime rentedExecutors fleet
  (settled, countGpusByModel (countsInDenominator env) settled.results)

end Lium
