import Mathlib.Algebra.Order.Ring.Int
import Mathlib.Data.List.Induction

/-! # A sensor that stays blind

`InspectorRentedCheck` counts the runs in a row in which the sensor saw nothing of the rental. A run
with a provider's finding counts too, but leaves the score gate alone.
-/

namespace Lium.BlindStreak

structure Settings where
  blindStreakLimit : ℤ
  blindStreakEnforcementEnabled : Bool
  /-- `BLOCKS_FOR_JOB * SECONDS_PER_BLOCK`. -/
  jobSeconds : ℤ

/-- A finding, with what `is_platform_origin` and `host_write_findings` make of it. -/
structure Finding where
  platformOrigin : Bool
  hostWrite : Bool
  deriving DecidableEq

/-- `findings` that are no list of objects are `none`; a start time that is missing is 0. -/
structure Report where
  findings : Option (List Finding)
  canaryOk : Option Bool
  collectorStartedUnix : ℤ

/-- What `validate_rented_executor` answers, and the time. -/
structure Reading where
  error : String
  report : Report
  now : ℤ

inductive Outcome
  | error
  | canaryFailed
  | collectorNotRunning
  | collectorRecentlyStarted
  | clean
  | malicious
  deriving DecidableEq

def blindOutcomes : List Outcome :=
  [.error, .canaryFailed, .collectorNotRunning, .collectorRecentlyStarted]

structure CheckResult where
  passed : Bool
  outcome : Outcome
  inspectorBlindStreakPassed : Option Bool := none
  inspectorHostWritePassed : Option Bool := none

section Check

variable (settings : Settings)

def Reading.canaryFailed (reading : Reading) : Bool := reading.report.canaryOk = some false

def Reading.collectorNotRunning (reading : Reading) : Bool :=
  reading.report.collectorStartedUnix = 0

def Reading.collectorStartWarnings (reading : Reading) : Bool :=
  reading.report.collectorStartedUnix ≠ 0 ∧
    reading.now - reading.report.collectorStartedUnix < settings.jobSeconds

/-- `_sensor_outcome`, and the branches of `run`: they differ in the outcome of a sensor that saw
the rental. -/
def sensorOutcome (reading : Reading) (seen : Outcome) : Outcome :=
  if reading.canaryFailed then .canaryFailed
  else if reading.collectorNotRunning then .collectorNotRunning
  else if reading.collectorStartWarnings settings then .collectorRecentlyStarted
  else seen

/-- `stored` is the streak in Redis. -/
def recordBlindStreakAndDecidePass (outcome : Outcome) (stored : Option ℕ) : Bool × Option ℕ :=
  if outcome ∉ blindOutcomes then (true, none)
  else
    let streak := stored.getD 0 + 1
    (if (streak : ℤ) < settings.blindStreakLimit then true
      else !settings.blindStreakEnforcementEnabled, some streak)

def scoreGateUpdatesForFailedStreak (passed : Bool) : Option Bool :=
  if passed then none else some false

/-- The three returns of `run` that decide by the streak. -/
def decided (outcome : Outcome) (stored : Option ℕ) : CheckResult × Option ℕ :=
  let recorded := recordBlindStreakAndDecidePass settings outcome stored
  ({ passed := recorded.1, outcome
     inspectorBlindStreakPassed := scoreGateUpdatesForFailedStreak recorded.1 }, recorded.2)

def recordProviderOrigin (provider : List Finding) : CheckResult :=
  let enforced := provider.any (·.hostWrite)
  { passed := !enforced, outcome := .malicious
    inspectorHostWritePassed := if enforced then some false else none }

/-- `InspectorRentedCheck.run` of an executor with rented pods. -/
def run (reading : Reading) (stored : Option ℕ) : CheckResult × Option ℕ :=
  if reading.error ≠ "" then decided settings .error stored
  else
    match reading.report.findings with
    | none => decided settings .error stored
    | some findings =>
      let provider := findings.filter (!·.platformOrigin)
      if provider.isEmpty then decided settings (sensorOutcome settings reading .clean) stored
      else
        (recordProviderOrigin provider, (recordBlindStreakAndDecidePass settings
          (sensorOutcome settings reading .malicious) stored).2)

end Check

variable {settings : Settings} {reading : Reading}

section Run

variable (enforced : settings.blindStreakEnforcementEnabled = true)
include enforced

end Run

def enforcing : Settings := ⟨5, true, 600⟩

end Lium.BlindStreak
