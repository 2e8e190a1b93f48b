import Lium.Foundation.Lanes
import Mathlib.Data.Finset.Basic
import Mathlib.Data.List.Dedup

/-! # The validation pipeline

Checks run one after another or, in a parallel stage, in lanes that each work on their own copy of
the context. A stage's results are merged field by field in lane order. Times are left out.
-/

namespace Lium.Pipeline

/-! ## Values and contexts -/

/-- What the pipeline asks of the values it carries: `is`, Python's `==`, by which different
values can be equal (`True == 1`) and a value can differ from itself (`nan`), `bool`, the values a
withheld pass ends with, and `dict(evidence or {})` with `reason_code` and `check_id` set where
missing. -/
class PyObject (V : Type) extends BEq V where
  isObject : DecidableEq V
  truthy : V → Bool
  falseObject : V
  zeroObject : V
  namedEvidence : Option V → String → String → V

/-- The fields of `Context` apart from `state`; those the pipeline itself names, and the rest. -/
inductive ContextField
  | clearVerifiedJobInfo
  | clearVerifiedJobEvidence
  | gpuFingerprintPassed
  | rented
  | score
  | jobScore
  | success
  | other (name : String)
  deriving DecidableEq

instance {V : Type} [PyObject V] : DecidableEq V := PyObject.isObject

/-- A dict, whose order nothing here reads. -/
structure Dict (V : Type) where
  entries : String → Option V
  keys : Finset String
  mem_keys : ∀ key, key ∈ keys ↔ (entries key).isSome = true

/-- The value of `specs`. -/
inductive Specs (V : Type)
  | dict (content : Dict V)
  | other (value : V)

variable {V : Type}

def Dict.empty : Dict V := ⟨fun _ => none, ∅, by simp⟩

theorem Dict.ext_entries {first second : Dict V} (same : first.entries = second.entries) :
    first = second := by
  rcases first with ⟨entries, keys, firstKeys⟩
  rcases second with ⟨_, otherKeys, secondKeys⟩
  cases same
  congr 1
  ext key
  rw [firstKeys, secondKeys]

namespace Specs

def toDict : Specs V → Dict V
  | .dict content => content
  | .other _ => .empty

def entries (specs : Specs V) : String → Option V := specs.toDict.entries

/-- `isinstance(specs, dict)`. -/
def isDict : Specs V → Bool
  | .dict _ => true
  | .other _ => false

end Specs

/-- `ContextState`; `φ` are its fields apart from `specs`. -/
@[ext]
structure ContextState (φ V : Type) where
  fields : φ → V
  specs : Specs V

@[ext]
structure Context (φ V : Type) where
  fields : ContextField → V
  state : ContextState φ V

/-- A check result's `updates`: the context fields it names, `state` apart. -/
structure Updates (φ V : Type) where
  fields : ContextField → Option V
  state : Option (ContextState φ V)

/-- What `summarize_steps` adds to `what_we_saw`, without its times. -/
structure StepSummary where
  steps : List String
  stepsFailed : Option String
  deriving DecidableEq

/-- A `ValidationEvent`; `content` stands for its other fields, and an empty `checkId` for
none. -/
structure ValidationEvent where
  checkId : String
  reasonCode : String
  content : String
  summary : Option StepSummary := none
  deriving DecidableEq

structure CheckResult (φ V : Type) where
  passed : Bool
  event : ValidationEvent
  updates : Updates φ V
  halt : Bool := false
  fatal : Option Bool := none
  extraEvents : List ValidationEvent := []

/-- A check; `none` is an exception. -/
structure Check (φ V : Type) where
  checkId : String
  fatal : Bool
  run : Context φ V → Option (CheckResult φ V)

structure RanCheck (φ V : Type) where
  check : Check φ V
  result : CheckResult φ V
  beforeState : ContextState φ V

variable {φ : Type}

def RanCheck.failed (ran : RanCheck φ V) : Bool :=
  !ran.result.passed && ran.result.fatal.getD ran.check.fatal

def RanCheck.stopsRun (ran : RanCheck φ V) : Bool :=
  ran.failed || ran.result.halt

/-- `res.event.check_id or chk.check_id`. -/
def RanCheck.eventCheckId (ran : RanCheck φ V) : String :=
  if ran.result.event.checkId = "" then ran.check.checkId else ran.result.event.checkId

/-- `model_copy(update=updates)`. -/
def Context.modelCopy (ctx : Context φ V) (updates : Updates φ V) : Context φ V where
  fields := fun name => (updates.fields name).getD (ctx.fields name)
  state := updates.state.getD ctx.state

section Applying

variable [PyObject V]

/-! ## Applying a result -/

def mergeField (current before after : V) : V :=
  if after = before ∨ after == before then current else after

def mergeSpec (current before after : Option V) : Option V :=
  match before, after with
  | some _, none => none
  | none, some value => some value
  | some old, some value => if old == value then current else some value
  | none, none => current

def mergeDict (current old new : Dict V) : Dict V where
  entries := fun key => mergeSpec (current.entries key) (old.entries key) (new.entries key)
  keys := (current.keys ∪ new.keys).filter fun key =>
    (mergeSpec (current.entries key) (old.entries key) (new.entries key)).isSome
  mem_keys := by
    intro key
    rw [Finset.mem_filter, and_iff_right_iff_imp, Finset.mem_union, current.mem_keys, new.mem_keys]
    cases old.entries key <;> cases new.entries key <;> simp [mergeSpec]

def sameEntry : Option V → Option V → Bool
  | some value, some other => value = other || value == other
  | _, _ => false

/-- `==` of two dicts, which takes a value for equal to itself. -/
def Dict.equal (first second : Dict V) : Bool :=
  decide (∀ key ∈ first.keys ∪ second.keys,
    sameEntry (first.entries key) (second.entries key) = true)

/-- The merge of `specs`; a current value that is no dict counts as an empty one. -/
def mergeSpecs (current before after : Specs V) : Specs V :=
  match before, after with
  | .dict old, .dict new =>
    if new.equal old then current else .dict (mergeDict current.toDict old new)
  | .other old, .other new => if new = old ∨ new == old then current else after
  | _, _ => after

/-- `merge_state`: `current` with every field that changed from `before` to `after`. -/
def mergeState (current before after : ContextState φ V) : ContextState φ V where
  fields := fun name => mergeField (current.fields name) (before.fields name) (after.fields name)
  specs := mergeSpecs current.specs before.specs after.specs

def RanCheck.updatesWithClearVerifiedJobEvidence (ran : RanCheck φ V) : Updates φ V :=
  let updates := ran.result.updates
  if (updates.fields .clearVerifiedJobInfo).any PyObject.truthy then
    { updates with
      fields := fun name =>
        if name = .clearVerifiedJobEvidence then
          some (PyObject.namedEvidence (updates.fields .clearVerifiedJobEvidence)
            ran.result.event.reasonCode ran.eventCheckId)
        else updates.fields name }
  else updates

/-- `_apply`. A result without updates changes nothing, with no case of its own. -/
def apply (ctx : Context φ V) (ran : RanCheck φ V) (parallel : Bool) : Context φ V :=
  let updates := ran.updatesWithClearVerifiedJobEvidence
  ctx.modelCopy
    { updates with
      state := updates.state.map fun state =>
        if parallel then mergeState ctx.state ran.beforeState state else state }

/-! ## The steps of a pipeline -/

/-- A `ParallelStage`; its constructor drops the empty lanes. -/
structure ParallelStage (φ V : Type) where
  lanes : List (List (Check φ V))
  nonempty : ∀ lane ∈ lanes, lane ≠ []

/-- `ParallelStage.__init__`. -/
def ParallelStage.ofLanes (lanes : List (List (Check φ V))) : ParallelStage φ V where
  lanes := lanes.filter fun lane => !lane.isEmpty
  nonempty := by
    intro lane member empty
    rw [empty] at member
    cases (List.mem_filter.mp member).2

def ParallelStage.checks (stage : ParallelStage φ V) : List (Check φ V) := stage.lanes.flatten

inductive Step (φ V : Type)
  | check (chk : Check φ V)
  | stage (lanes : ParallelStage φ V)

namespace Step

def parallel : Step φ V → Bool
  | .check _ => false
  | .stage _ => true

def checks : Step φ V → List (Check φ V)
  | .check chk => [chk]
  | .stage lanes => lanes.checks

end Step

/-- `_run_lane` as far as it has come: the checks it has still to run, its copy of the
context, and what it ran. -/
structure LaneTask (φ V : Type) where
  remaining : List (Check φ V)
  current : Context φ V
  ran : List (RanCheck φ V) := []
  stopped : Bool := false
  raised : Bool := false

namespace LaneTask

def after (task : LaneTask φ V) (rest : List (Check φ V)) (ran : RanCheck φ V) : LaneTask φ V :=
  if ran.stopsRun then { task with remaining := rest, ran := task.ran ++ [ran], stopped := true }
  else
    { task with
      remaining := rest
      ran := task.ran ++ [ran]
      current := apply task.current ran false }

def advance (task : LaneTask φ V) : LaneTask φ V :=
  if task.stopped then task
  else
    match task.remaining with
    | [] => task
    | chk :: rest =>
      match chk.run task.current with
      | none => { task with raised := true }
      | some result => task.after rest ⟨chk, result, task.current.state⟩

end LaneTask

/-- `_run_stage` may end so from these tasks: with an exception some lane raised, or with
what the lanes ran, all of them to their ends or until some lane stopped. A lane may have gone
on after another one stopped, until its cancellation reached it. -/
def StageEnds (tasks : List (LaneTask φ V)) (outcome : Option (List (RanCheck φ V))) : Prop :=
  (outcome = none ∧ ∃ task ∈ tasks, task.raised) ∨
    (outcome = some (tasks.flatMap LaneTask.ran) ∧
      ((∀ task ∈ tasks, task.remaining = []) ∨ ∃ task ∈ tasks, task.stopped))

def ParallelStage.tasks (stage : ParallelStage φ V) (ctx : Context φ V) : List (LaneTask φ V) :=
  stage.lanes.map fun lane => ⟨lane, ctx, [], false, false⟩

/-- `_run_step`; a stage under any schedule of its lanes' checks. -/
def StepRan (ctx : Context φ V) : Step φ V → Option (List (RanCheck φ V)) → Prop
  | .check chk, outcome =>
    outcome = (chk.run ctx).map fun result => [⟨chk, result, ctx.state⟩]
  | .stage stage, outcome =>
    ∃ schedule, StageEnds (runSchedule LaneTask.advance schedule (stage.tasks ctx)) outcome

/-! ## The run -/

/-- What `Pipeline.run` returns, unless it raises. -/
inductive Verdict (φ V : Type)
  | raised
  | returned (passed : Bool) (events : List ValidationEvent) (ctx : Context φ V)

structure Progress (φ V : Type) where
  ctx : Context φ V
  events : List ValidationEvent := []
  steps : List String := []

def summarizeSteps (steps : List String) (failedCheckId : Option String) : StepSummary where
  steps := steps.eraseDups
  stepsFailed := failedCheckId.filter fun checkId => checkId ≠ ""

def withheld : Updates φ V where
  fields
    | .rented | .success => some PyObject.falseObject
    | .score | .jobScore => some PyObject.zeroObject
    | _ => none
  state := none

def isFingerprint (event : ValidationEvent) : Bool := event.checkId = "gpu.validate.fingerprint"

/-- `_ended`. Without an event of the fingerprint check there is nothing to move to the end,
and `next` raises. -/
def ended (progress : Progress φ V) : Verdict φ V :=
  if PyObject.truthy (progress.ctx.fields .gpuFingerprintPassed) then
    .returned true progress.events progress.ctx
  else
    match progress.events.find? isFingerprint with
    | none => .raised
    | some failure =>
      .returned false (progress.events.eraseP isFingerprint ++ [failure])
        (progress.ctx.modelCopy withheld)

def reported (ran : RanCheck φ V) (lastOfRun : Bool) (steps : List String) : ValidationEvent :=
  if ran.failed || ran.result.halt || lastOfRun then
    { ran.result.event with
      summary := some (summarizeSteps steps (if ran.failed then some ran.eventCheckId else none)) }
  else ran.result.event

def emitted (ran : RanCheck φ V) (parallel lastOfRun : Bool) (progress : Progress φ V) :
    Progress φ V :=
  let steps := progress.steps ++ [ran.check.checkId]
  { ctx := apply progress.ctx ran parallel
    events := progress.events ++ ran.result.extraEvents ++ [reported ran lastOfRun steps]
    steps := steps }

/-- The inner loop of the run, over what one step ran; it may return. -/
def replay (parallel lastStep : Bool) :
    List (RanCheck φ V) → Progress φ V → Except (Verdict φ V) (Progress φ V)
  | [], progress => .ok progress
  | ran :: rest, progress =>
    let next := emitted ran parallel (lastStep && rest.isEmpty) progress
    if ran.failed then .error (.returned false next.events next.ctx)
    else if ran.result.halt then .error (ended next)
    else replay parallel lastStep rest next

/-- One turn of the run's loop; `max` of the times of a stage that ran nothing raises. -/
def stepped (parallel lastStep : Bool) (progress : Progress φ V) :
    Option (List (RanCheck φ V)) → Except (Verdict φ V) (Progress φ V)
  | none => .error .raised
  | some [] => .error .raised
  | some (first :: rest) => replay parallel lastStep (first :: rest) progress

def Continues (rest : Progress φ V → Verdict φ V → Prop) (verdict : Verdict φ V) :
    Except (Verdict φ V) (Progress φ V) → Prop
  | .error early => verdict = early
  | .ok next => rest next verdict

/-- `Pipeline.run` from a turn of its loop on: the verdicts it can come to. -/
def Runs : List (Step φ V) → Progress φ V → Verdict φ V → Prop
  | [], progress, verdict => verdict = ended progress
  | step :: rest, progress, verdict =>
    ∃ outcome, StepRan progress.ctx step outcome ∧
      Continues (Runs rest) verdict (stepped step.parallel rest.isEmpty progress outcome)

/-- The pipeline with each stage replaced by its lanes' checks in lane order. -/
def serial (steps : List (Step φ V)) : List (Step φ V) :=
  (steps.flatMap Step.checks).map .check

end Applying

end Lium.Pipeline
