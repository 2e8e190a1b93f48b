import Lium.Validator.LaneFootprint
import Mathlib.Data.Set.Lattice
import Mathlib.Order.CompletePartialOrder

/-! # A parallel stage passes as its serial order does

Under every schedule a lane runs a prefix of what it would run alone. If no lane stops, each result
finds the context as the serial run has it on whatever its lane touches.
-/

namespace Lium.Pipeline

variable {φ V : Type}

/-! ## The serial run -/

theorem serial_cons (step : Step φ V) (rest : List (Step φ V)) :
    serial (step :: rest) = step.checks.map .check ++ serial rest := by
  rw [serial, List.flatMap_cons, List.map_append, serial]

theorem last_and_isEmpty_append {α : Type} (lastStep : Bool) (first second : List α) :
    (lastStep && (first ++ second).isEmpty) =
      (lastStep && second.isEmpty && first.isEmpty) := by
  cases first <;> simp

variable [PyObject V]

def runChecks (lastStep : Bool) :
    List (Check φ V) → Progress φ V → Except (Verdict φ V) (Progress φ V)
  | [], progress => .ok progress
  | chk :: rest, progress =>
    stepped false (lastStep && rest.isEmpty) progress
      ((chk.run progress.ctx).map fun result => [⟨chk, result, progress.ctx.state⟩]) >>=
    runChecks lastStep rest

theorem runs_checks_append (checks : List (Check φ V)) (rest : List (Step φ V))
    (progress : Progress φ V) (verdict : Verdict φ V) :
    Runs (checks.map .check ++ rest) progress verdict ↔
      Continues (Runs rest) verdict (runChecks rest.isEmpty checks progress) := by
  induction checks generalizing progress with
  | nil => exact Iff.rfl
  | cons chk tail induction =>
    have lastStep : (tail.map Step.check ++ rest).isEmpty = (rest.isEmpty && tail.isEmpty) := by
      cases tail <;> simp
    rw [runChecks, List.map_cons, List.cons_append]
    simp only [Runs, StepRan, exists_eq_left, Step.parallel, lastStep]
    cases stepped false (rest.isEmpty && tail.isEmpty) progress
        ((chk.run progress.ctx).map fun result => [⟨chk, result, progress.ctx.state⟩]) with
    | error early => exact Iff.rfl
    | ok next => exact induction next

theorem runChecks_append (lastStep : Bool) (first second : List (Check φ V))
    (progress : Progress φ V) :
    runChecks lastStep (first ++ second) progress =
      runChecks (lastStep && second.isEmpty) first progress >>= runChecks lastStep second := by
  induction first generalizing progress with
  | nil => rfl
  | cons chk rest induction =>
    rw [List.cons_append, runChecks, runChecks, last_and_isEmpty_append, bind_assoc]
    exact congrArg _ (funext induction)

theorem replay_append (parallel lastStep : Bool) (first second : List (RanCheck φ V))
    (progress : Progress φ V) :
    replay parallel lastStep (first ++ second) progress =
      replay parallel (lastStep && second.isEmpty) first progress >>=
        replay parallel lastStep second := by
  induction first generalizing progress with
  | nil => rfl
  | cons ran rest induction =>
    rw [List.cons_append, replay, replay, last_and_isEmpty_append]
    split
    · rfl
    · split
      · rfl
      · exact induction _

/-! ## One check -/

theorem stopsRun_eq_failed {φ V : Type} {ran : RanCheck φ V} (goesOn : ran.result.halt = false) :
    ran.stopsRun = ran.failed := by
  rw [RanCheck.stopsRun, goesOn, Bool.or_false]

/-- The run goes on from a result that does not halt it, or has failed. -/
def unlessFailed (ran : RanCheck φ V) (next : Progress φ V)
    (rest : Progress φ V → Except (Verdict φ V) (Progress φ V)) :
    Except (Verdict φ V) (Progress φ V) :=
  if ran.failed then .error (.returned false next.events next.ctx) else rest next

theorem replay_cons {ran : RanCheck φ V} (goesOn : ran.result.halt = false)
    (parallel lastStep : Bool) (tail : List (RanCheck φ V)) (progress : Progress φ V) :
    replay parallel lastStep (ran :: tail) progress =
      unlessFailed ran (emitted ran parallel (lastStep && tail.isEmpty) progress)
        (replay parallel lastStep tail) := by
  rw [replay, goesOn, if_neg Bool.false_ne_true, unlessFailed]

variable {result : CheckResult φ V} {progress : Progress φ V}

theorem runChecks_cons {chk : Check φ V} (runs : chk.run progress.ctx = some result)
    (goesOn : result.halt = false) (lastStep : Bool) (rest : List (Check φ V)) :
    runChecks lastStep (chk :: rest) progress =
      unlessFailed ⟨chk, result, progress.ctx.state⟩
        (emitted ⟨chk, result, progress.ctx.state⟩ false (lastStep && rest.isEmpty) progress)
        (runChecks lastStep rest) := by
  have halts : (RanCheck.mk chk result progress.ctx.state).result.halt = false := goesOn
  rw [runChecks, runs, Option.map_some, stepped, replay_cons halts, List.isEmpty_nil,
    Bool.and_true, unlessFailed, unlessFailed]
  split <;> rfl

theorem CheckResult.Alike.failed {φ V : Type} {touches : Set (Place φ)}
    {left right : CheckResult φ V}
    (alike : left.Alike touches right) (chk : Check φ V) (before before' : ContextState φ V) :
    (RanCheck.mk chk left before).failed = (RanCheck.mk chk right before').failed := by
  simp only [RanCheck.failed, alike.passed, alike.fatal]

theorem emitted_parallel {chk : Check φ V} {footprint : Footprint φ} {lane : Context φ V}
    {left right : CheckResult φ V} (alike : left.Alike footprint.touches right)
    (applied : apply progress.ctx ⟨chk, left, lane.state⟩ true =
      apply progress.ctx ⟨chk, right, progress.ctx.state⟩ false)
    {last lastLane : Bool}
    (flags : (RanCheck.mk chk left lane.state).failed = true ∨ lastLane = last) :
    emitted ⟨chk, left, lane.state⟩ true lastLane progress =
      emitted ⟨chk, right, progress.ctx.state⟩ false last progress := by
  have failed := alike.failed chk lane.state progress.ctx.state
  have sameReport : ∀ steps, reported ⟨chk, left, lane.state⟩ lastLane steps =
      reported ⟨chk, right, progress.ctx.state⟩ last steps := by
    intro steps
    rcases flags with stops | same
    · simp only [reported, ← failed, stops, alike.event, RanCheck.eventCheckId, Bool.true_or]
    · simp only [reported, ← failed, same, alike.event, alike.halt, RanCheck.eventCheckId]
  simp only [emitted, applied, alike.extraEvents, sameReport]

/-! ## One lane -/

def soloRan : List (Check φ V) → Context φ V → List (RanCheck φ V)
  | [], _ => []
  | chk :: rest, ctx =>
    match chk.run ctx with
    | none => []
    | some result =>
      let ran : RanCheck φ V := ⟨chk, result, ctx.state⟩
      if ran.stopsRun then [ran] else ran :: soloRan rest (apply ctx ran false)

/-- The checks of a lane keep to a footprint, and no change of theirs goes unseen by `==`. -/
def KeepsTo (footprint : Footprint φ) (lane : List (Check φ V)) : Prop :=
  ∀ chk ∈ lane, chk.Confined footprint ∧ chk.ShowsChanges

section OneLane

variable {footprint : Footprint φ} {checks rest : List (Check φ V)} {chk : Check φ V}
  {ctx : Context φ V}

theorem KeepsTo.tail (keepsTo : KeepsTo footprint (chk :: rest)) : KeepsTo footprint rest :=
  fun chk member => keepsTo chk (List.mem_cons_of_mem _ member)

theorem KeepsTo.runs (keepsTo : KeepsTo footprint (chk :: rest))
    (isDict : ctx.state.specs.Comparable) :
    ∃ result, chk.run ctx = some result ∧ result.halt = false ∧
      (RanCheck.mk chk result ctx.state).Within footprint.writes ∧
      (apply ctx ⟨chk, result, ctx.state⟩ false).state.specs.Comparable := by
  have confined := (keepsTo chk List.mem_cons_self).1
  rcases confined.runs ctx isDict with ⟨result, runs, goesOn⟩
  have within := confined.within ctx result isDict runs
  exact ⟨result, runs, goesOn, within, within.apply_comparable isDict⟩

theorem soloRan_cons (runs : chk.run ctx = some result) (goesOn : result.halt = false)
    (rest : List (Check φ V)) :
    soloRan (chk :: rest) ctx =
      if (RanCheck.mk chk result ctx.state).failed then [⟨chk, result, ctx.state⟩]
      else ⟨chk, result, ctx.state⟩ :: soloRan rest (apply ctx ⟨chk, result, ctx.state⟩ false) := by
  have halts : (RanCheck.mk chk result ctx.state).result.halt = false := goesOn
  simp only [soloRan, runs, stopsRun_eq_failed halts]

section

variable (keepsTo : KeepsTo footprint checks)
include keepsTo

theorem soloRan_isEmpty
    (isDict : ctx.state.specs.Comparable) : (soloRan checks ctx).isEmpty = checks.isEmpty := by
  cases checks with
  | nil => rfl
  | cons chk rest =>
    rcases keepsTo.runs isDict with ⟨result, runs, goesOn, -⟩
    rw [soloRan_cons runs goesOn]
    split <;> rfl

theorem soloRan_goesOn
    (isDict : ctx.state.specs.Comparable) {ran : RanCheck φ V} (member : ran ∈ soloRan checks ctx) :
    ran.result.halt = false := by
  induction checks generalizing ctx with
  | nil => cases member
  | cons chk rest induction =>
    rcases keepsTo.runs isDict with ⟨result, runs, goesOn, -, dictAfter⟩
    rw [soloRan_cons runs goesOn] at member
    split at member
    · rw [List.mem_singleton.mp member]
      exact goesOn
    · rcases List.mem_cons.mp member with first | later
      · rw [first]
        exact goesOn
      · exact induction keepsTo.tail dictAfter later

theorem runChecks_keeps {lastStep : Bool} {next : Progress φ V}
    (isDict : progress.ctx.state.specs.Comparable)
    (goesOn : runChecks lastStep checks progress = .ok next) :
    next.ctx.state.specs.Comparable ∧
      Set.EqOn next.ctx.read progress.ctx.read footprint.writesᶜ := by
  induction checks generalizing progress with
  | nil =>
    cases goesOn
    exact ⟨isDict, Set.eqOn_refl _ _⟩
  | cons chk rest induction =>
    rcases keepsTo.runs isDict with ⟨result, runs, noHalt, within, dictNext⟩
    rw [runChecks_cons runs noHalt, unlessFailed] at goesOn
    split at goesOn
    · cases goesOn
    · rcases induction keepsTo.tail dictNext goesOn with ⟨dictAfter, kept⟩
      exact ⟨dictAfter, kept.trans within.apply_eqOn⟩

/-- What a lane ran on its own copy, applied where the lane finds what it touches as it was,
is what running its checks there gives. -/
theorem replay_soloRan (lastStep : Bool) {lane : Context φ V}
    (laneDict : lane.state.specs.Comparable)
    (isDict : progress.ctx.state.specs.Comparable)
    (agree : Set.EqOn lane.read progress.ctx.read footprint.touches) :
    replay true lastStep (soloRan checks lane) progress =
      runChecks lastStep checks progress := by
  induction checks generalizing lane progress with
  | nil => rfl
  | cons chk rest induction =>
    rcases keepsTo chk List.mem_cons_self with ⟨confined, shows⟩
    rcases keepsTo.runs laneDict with ⟨left, ranLane, laneGoesOn, -, laneAfter⟩
    rcases keepsTo.runs isDict with ⟨right, ran, goesOn, -, dictAfter⟩
    have alike := confined.determined lane progress.ctx left right laneDict isDict agree
      ranLane ran
    have applied := confined.apply_parallel shows laneDict isDict agree ranLane ran
    have failed := alike.failed chk lane.state progress.ctx.state
    have halts : (RanCheck.mk chk left lane.state).result.halt = false := laneGoesOn
    rw [soloRan_cons ranLane laneGoesOn, runChecks_cons ran goesOn]
    split
    case isTrue stops =>
      rw [replay_cons halts, emitted_parallel alike applied (.inl stops), unlessFailed,
        unlessFailed, if_pos stops, if_pos (failed ▸ stops)]
    case isFalse passes =>
      have sameFlag := congrArg (lastStep && ·) (soloRan_isEmpty keepsTo.tail laneAfter)
      rw [replay_cons halts, emitted_parallel alike applied (.inr sameFlag), unlessFailed,
        unlessFailed, if_neg passes, if_neg (failed ▸ passes)]
      exact induction keepsTo.tail laneAfter dictAfter (alike.apply_eqOn agree)

end

end OneLane

/-! ## All lanes -/

/-- Each lane keeps to its footprint, and no lane touches what an earlier one writes. -/
structure Independent (lanes : List (List (Check φ V))) (footprints : List (Footprint φ)) :
    Prop where
  keepsTo : List.Forall₂ (fun lane footprint => KeepsTo footprint lane) lanes footprints
  separate : footprints.Pairwise fun earlier later => Disjoint earlier.writes later.touches

section Lanes

variable {lanes : List (List (Check φ V))} {footprints : List (Footprint φ)} {ctx : Context φ V}

theorem flatMap_soloRan_isEmpty (independent : Independent lanes footprints)
    (isDict : ctx.state.specs.Comparable) :
    (lanes.flatMap fun lane => soloRan lane ctx).isEmpty = lanes.flatten.isEmpty := by
  have keepsTo := independent.keepsTo
  clear independent
  induction keepsTo with
  | nil => rfl
  | cons head tail induction =>
    rename_i lane footprint lanes footprints
    have first := soloRan_isEmpty head isDict
    cases lane with
    | nil => exact induction
    | cons chk rest =>
      cases ran : soloRan (chk :: rest) ctx with
      | nil =>
        rw [ran] at first
        cases first
      | cons ran rest => simp [ran]

theorem replay_lanes (independent : Independent lanes footprints) (lastStep : Bool)
    (ctxDict : ctx.state.specs.Comparable) (isDict : progress.ctx.state.specs.Comparable)
    (agree : ∀ footprint ∈ footprints,
      Set.EqOn ctx.read progress.ctx.read footprint.touches) :
    replay true lastStep (lanes.flatMap fun lane => soloRan lane ctx) progress =
      runChecks lastStep lanes.flatten progress := by
  rcases independent with ⟨keepsTo, separate⟩
  induction keepsTo generalizing progress with
  | nil => rfl
  | cons head tail induction =>
    rename_i lane footprint lanes footprints
    rcases List.pairwise_cons.mp separate with ⟨firstSeparate, restSeparate⟩
    rw [List.flatMap_cons, List.flatten_cons, replay_append, runChecks_append,
      flatMap_soloRan_isEmpty ⟨tail, restSeparate⟩ ctxDict,
      replay_soloRan head _ ctxDict isDict (agree footprint List.mem_cons_self)]
    cases ranLane : runChecks (lastStep && lanes.flatten.isEmpty) lane progress with
    | error early => rfl
    | ok next =>
      rcases runChecks_keeps head isDict ranLane with ⟨nextDict, kept⟩
      apply induction nextDict _ restSeparate
      intro later member place touched
      have notWritten : place ∉ footprint.writes :=
        fun written => (firstSeparate later member).notMem_of_mem_left written touched
      rw [kept notWritten]
      exact agree later (List.mem_cons_of_mem _ member) touched

end Lanes

variable {results : List (RanCheck φ V)}

theorem replay_failed (goOn : ∀ ran ∈ results, ran.result.halt = false)
    (fails : ∃ ran ∈ results, ran.failed) (parallel lastStep : Bool) (progress : Progress φ V) :
    ∃ events ctx, replay parallel lastStep results progress = .error (.returned false events ctx) := by
  induction results generalizing progress with
  | nil =>
    rcases fails with ⟨ran, member, _⟩
    cases member
  | cons ran rest induction =>
    rw [replay_cons (goOn ran List.mem_cons_self), unlessFailed]
    split
    case isTrue => exact ⟨_, _, rfl⟩
    case isFalse passes =>
      apply induction (fun ran member => goOn ran (List.mem_cons_of_mem _ member))
      rcases fails with ⟨failing, member, failed⟩
      rcases List.mem_cons.mp member with first | later
      · rw [first] at failed
        exact (passes failed).elim
      · exact ⟨failing, later, failed⟩

/-! ## The schedules of a stage -/

def LaneTask.total (task : LaneTask φ V) : List (RanCheck φ V) :=
  task.ran ++ if task.stopped then [] else soloRan task.remaining task.current

structure LaneTask.Follows (ctx : Context φ V) (lane : List (Check φ V)) (task : LaneTask φ V) :
    Prop where
  total : task.total = soloRan lane ctx
  stops : task.stopped → ∃ ran ∈ task.ran, ran.stopsRun
  raised : task.raised = false
  isDict : task.current.state.specs.Comparable
  keepsTo : ∃ footprint, KeepsTo footprint task.remaining

theorem LaneTask.Follows.advance {ctx : Context φ V} {lane : List (Check φ V)}
    {task : LaneTask φ V} (follows : task.Follows ctx lane) : task.advance.Follows ctx lane := by
  rw [LaneTask.advance]
  split
  case isTrue => exact follows
  case isFalse going =>
    split
    case h_1 => exact follows
    case h_2 chk rest remaining =>
      rcases follows.keepsTo with ⟨footprint, keepsTo⟩
      rw [remaining] at keepsTo
      rcases keepsTo.runs follows.isDict with ⟨result, runs, goesOn, -, dictAfter⟩
      have total := follows.total
      rw [LaneTask.total, if_neg going, remaining] at total
      simp only [soloRan, runs] at total
      simp only [runs, LaneTask.after]
      split
      case isTrue stops =>
        refine ⟨?_, ?_, follows.raised, follows.isDict, footprint, keepsTo.tail⟩
        · rw [if_pos stops] at total
          rw [LaneTask.total, if_pos rfl, List.append_nil]
          exact total
        · intro _
          exact ⟨_, List.mem_append_right _ List.mem_cons_self, stops⟩
      case isFalse passes =>
        refine ⟨?_, ?_, follows.raised, dictAfter, footprint, keepsTo.tail⟩
        · rw [if_neg passes] at total
          rw [LaneTask.total, if_neg going, List.append_assoc]
          exact total
        · intro stopped
          exact (going stopped).elim

inductive SameTurn : Except (Verdict φ V) (Progress φ V) → Except (Verdict φ V) (Progress φ V) → Prop
  | same (turn : Except (Verdict φ V) (Progress φ V)) : SameTurn turn turn
  | failed (events events' : List ValidationEvent) (ctx ctx' : Context φ V) :
      SameTurn (.error (.returned false events ctx)) (.error (.returned false events' ctx'))

theorem flatMap_ran_eq {lanes : List (List (Check φ V))} {tasks : List (LaneTask φ V)}
    {ctx : Context φ V} (follow : List.Forall₂ (LaneTask.Follows ctx) lanes tasks)
    (complete : ∀ task ∈ tasks, task.remaining = []) :
    tasks.flatMap LaneTask.ran = lanes.flatMap fun lane => soloRan lane ctx := by
  induction follow with
  | nil => rfl
  | cons head tail induction =>
    rename_i lane task lanes tasks
    have total := head.total
    rw [LaneTask.total, complete task List.mem_cons_self, soloRan, ite_self,
      List.append_nil] at total
    rw [List.flatMap_cons, List.flatMap_cons, total,
      induction fun task member => complete task (List.mem_cons_of_mem _ member)]

theorem stepped_some (ranSome : results ≠ []) (parallel lastStep : Bool) (progress : Progress φ V) :
    stepped parallel lastStep progress (some results) =
      replay parallel lastStep results progress := by
  cases results with
  | nil => exact (ranSome rfl).elim
  | cons first rest => rfl

variable {stage : ParallelStage φ V}

theorem ParallelStage.soloRan_ne_nil {footprints : List (Footprint φ)}
    (independent : Independent stage.lanes footprints) (populated : stage.lanes ≠ [])
    {ctx : Context φ V} (isDict : ctx.state.specs.Comparable) :
    stage.lanes.flatMap (fun lane => soloRan lane ctx) ≠ [] := by
  intro empty
  have noChecks := flatMap_soloRan_isEmpty independent isDict
  rw [empty, List.isEmpty_nil, eq_comm, List.isEmpty_iff, List.flatten_eq_nil_iff] at noChecks
  rcases List.exists_mem_of_ne_nil _ populated with ⟨lane, member⟩
  exact stage.nonempty lane member (noChecks lane member)

theorem ParallelStage.tasks_follow {footprints : List (Footprint φ)}
    (independent : Independent stage.lanes footprints) {ctx : Context φ V}
    (isDict : ctx.state.specs.Comparable) :
    List.Forall₂ (LaneTask.Follows ctx) stage.lanes (stage.tasks ctx) := by
  rw [ParallelStage.tasks, List.forall₂_map_right_iff, List.forall₂_same]
  intro lane member
  rcases exists_start_of_mem independent.keepsTo.flip member with ⟨footprint, _, keepsTo⟩
  exact ⟨rfl, fun stopped => (Bool.false_ne_true stopped).elim, rfl, isDict, footprint, keepsTo⟩

variable {outcome : Option (List (RanCheck φ V))}

theorem stage_sameTurn {footprints : List (Footprint φ)}
    (independent : Independent stage.lanes footprints) (populated : stage.lanes ≠ [])
    (lastStep : Bool) (isDict : progress.ctx.state.specs.Comparable)
    (ran : StepRan progress.ctx (.stage stage) outcome) :
    SameTurn (stepped true lastStep progress outcome)
      (runChecks lastStep stage.checks progress) := by
  rcases ran with ⟨schedule, ends⟩
  have follow := forall₂_runSchedule LaneTask.advance
    (fun _ _ follows => LaneTask.Follows.advance follows)
    (stage.tasks_follow independent isDict) schedule
  generalize runSchedule LaneTask.advance schedule (stage.tasks progress.ctx) = tasks at ends follow
  have applied := replay_lanes independent lastStep isDict isDict
    (fun footprint _ => Set.eqOn_refl progress.ctx.read footprint.touches)
  have goOn : ∀ ran ∈ stage.lanes.flatMap fun lane => soloRan lane progress.ctx,
      ran.result.halt = false := by
    intro ran member
    rcases List.mem_flatMap.mp member with ⟨lane, inLanes, inLane⟩
    rcases exists_start_of_mem independent.keepsTo.flip inLanes with ⟨footprint, _, keepsTo⟩
    exact soloRan_goesOn keepsTo isDict inLane
  have among : ∀ task ∈ tasks, ∀ ran ∈ task.ran,
      ran ∈ stage.lanes.flatMap fun lane => soloRan lane progress.ctx := by
    intro task member ran inTask
    rcases exists_start_of_mem follow member with ⟨lane, inLanes, follows⟩
    apply List.mem_flatMap.mpr
    refine ⟨lane, inLanes, ?_⟩
    rw [← follows.total]
    exact List.mem_append_left _ inTask
  rcases ends with ⟨_, task, member, raised⟩ | ⟨collected, complete | ⟨task, member, stopped⟩⟩
  · rcases exists_start_of_mem follow member with ⟨_, _, follows⟩
    rw [follows.raised] at raised
    cases raised
  · rw [collected, flatMap_ran_eq follow complete,
      stepped_some (stage.soloRan_ne_nil independent populated isDict), applied]
    exact .same _
  · rcases exists_start_of_mem follow member with ⟨_, _, follows⟩
    rcases follows.stops stopped with ⟨ran, inTask, stops⟩
    have inStage := among task member ran inTask
    rw [stopsRun_eq_failed (goOn ran inStage)] at stops
    have collectedRan : ran ∈ tasks.flatMap LaneTask.ran := List.mem_flatMap.mpr ⟨_, member, inTask⟩
    have collectedGoOn : ∀ ran ∈ tasks.flatMap LaneTask.ran, ran.result.halt = false := by
      intro ran inTasks
      rcases List.mem_flatMap.mp inTasks with ⟨task, member, inTask⟩
      exact goOn ran (among task member ran inTask)
    rcases replay_failed goOn ⟨ran, inStage, stops⟩ true lastStep progress with ⟨_, _, serialFails⟩
    rcases replay_failed collectedGoOn ⟨ran, collectedRan, stops⟩ true lastStep progress with
      ⟨_, _, fails⟩
    rw [collected, stepped_some (List.ne_nil_of_mem collectedRan), fails,
      ParallelStage.checks, ← applied, serialFails]
    exact .failed _ _ _ _

/-! ## The whole run -/

/-- Every stage has a check to run, and its lanes keep out of each other's way. -/
def Step.LanesIndependent : Step φ V → Prop
  | .check _ => True
  | .stage group => group.lanes ≠ [] ∧ ∃ footprints, Independent group.lanes footprints

/-- `specs` is a dict of values equal to themselves whenever the run comes to a stage. -/
def DictAtStages : List (Step φ V) → Progress φ V → Prop
  | [], _ => True
  | step :: rest, progress =>
    (step.parallel → progress.ctx.state.specs.Comparable) ∧
      ∀ next, runChecks rest.isEmpty step.checks progress = .ok next → DictAtStages rest next

theorem Step.LanesIndependent.checks_ne_nil {step : Step φ V}
    (independent : step.LanesIndependent) :
    step.checks ≠ [] := by
  cases step with
  | check chk => exact List.cons_ne_nil _ _
  | stage stage =>
    intro noChecks
    rcases List.exists_mem_of_ne_nil _ independent.1 with ⟨lane, member⟩
    exact stage.nonempty lane member (List.flatten_eq_nil_iff.mp noChecks lane member)

variable {steps : List (Step φ V)}

theorem serial_isEmpty (independent : ∀ step ∈ steps, step.LanesIndependent) :
    (serial steps).isEmpty = steps.isEmpty := by
  cases steps with
  | nil => rfl
  | cons step rest =>
    have nonempty := (independent step List.mem_cons_self).checks_ne_nil
    cases checks : step.checks with
    | nil => exact (nonempty checks).elim
    | cons chk tail => simp [serial_cons, checks]

theorem step_sameTurn {step : Step φ V} (independent : step.LanesIndependent) (lastStep : Bool)
    (isDict : step.parallel → progress.ctx.state.specs.Comparable)
    (ran : StepRan progress.ctx step outcome) :
    SameTurn (stepped step.parallel lastStep progress outcome)
      (runChecks lastStep step.checks progress) := by
  cases step with
  | check chk =>
    rw [StepRan] at ran
    simp only [ran, Step.checks, Step.parallel, runChecks, List.isEmpty_nil, Bool.and_true]
    cases stepped false lastStep progress
        ((chk.run progress.ctx).map fun result => [⟨chk, result, progress.ctx.state⟩]) <;>
      exact .same _
  | stage stage =>
    rcases independent with ⟨populated, footprints, lanes⟩
    exact stage_sameTurn lanes populated lastStep (isDict rfl) ran

theorem passes_iff_of_runs (independent : ∀ step ∈ steps, step.LanesIndependent)
    (isDict : DictAtStages steps progress) {verdict serialVerdict : Verdict φ V}
    (runs : Runs steps progress verdict) (runsSerial : Runs (serial steps) progress serialVerdict)
    (events : List ValidationEvent) (ctx : Context φ V) :
    verdict = .returned true events ctx ↔ serialVerdict = .returned true events ctx := by
  induction steps generalizing progress with
  | nil => rw [show verdict = serialVerdict from Eq.trans runs (Eq.symm runsSerial)]
  | cons step rest induction =>
    have independentRest := fun step member => independent step (List.mem_cons_of_mem _ member)
    rcases isDict with ⟨dictHere, dictLater⟩
    rcases runs with ⟨outcome, ran, continues⟩
    rw [serial_cons, runs_checks_append, serial_isEmpty independentRest] at runsSerial
    have turns := step_sameTurn (independent step List.mem_cons_self) rest.isEmpty dictHere ran
    generalize stepped step.parallel rest.isEmpty progress outcome = turn at turns continues
    generalize serialTurn : runChecks rest.isEmpty step.checks progress = checksTurn
      at turns runsSerial
    cases turns with
    | same =>
      cases turn with
      | error early =>
        rw [show verdict = serialVerdict from Eq.trans continues (Eq.symm runsSerial)]
      | ok next => exact induction independentRest (dictLater next serialTurn) continues runsSerial
    | failed =>
      rw [show verdict = _ from continues, show serialVerdict = _ from runsSerial]
      constructor <;> intro passes <;> cases passes

/-- A pipeline whose stages have lanes that keep out of each other's way passes as its serial
form does, with the same events and the same final context, under every schedule. -/
theorem run_passes_iff_serial (steps : List (Step φ V)) (ctx : Context φ V)
    (independent : ∀ step ∈ steps, step.LanesIndependent)
    (isDict : DictAtStages steps ⟨ctx, [], []⟩) (verdict serialVerdict : Verdict φ V)
    (runs : Runs steps ⟨ctx, [], []⟩ verdict)
    (runsSerial : Runs (serial steps) ⟨ctx, [], []⟩ serialVerdict)
    (events : List ValidationEvent) (final : Context φ V) :
    verdict = .returned true events final ↔ serialVerdict = .returned true events final :=
  passes_iff_of_runs independent isDict runs runsSerial events final

/-! ## Values that are equal and differ -/

/-- Some of Python's values: `True == 1`, and `nan != nan`. -/
inductive Scalar
  | nan
  | bool (value : Bool)
  | int (value : ℤ)
  | text (value : String)
  deriving DecidableEq

def Scalar.number : Scalar → Option ℤ
  | .bool value => some (if value then 1 else 0)
  | .int value => some value
  | .text _ | .nan => none

instance : PyObject Scalar where
  beq first second :=
    match first.number, second.number with
    | some left, some right => left = right
    | none, none => first = second && first ≠ .nan
    | _, _ => false
  isObject := inferInstance
  truthy
    | .nan => true
    | .bool value => value
    | .int value => value ≠ 0
    | .text value => value ≠ ""
  falseObject := .bool false
  zeroObject := .int 0
  namedEvidence evidence reasonCode checkId := evidence.getD (.text (reasonCode ++ checkId))

def Dict.set (content : Dict Scalar) (key : String) (value : Scalar) : Dict Scalar where
  entries := fun other => if other = key then some value else content.entries other
  keys := insert key content.keys
  mem_keys := by
    intro other
    by_cases same : other = key <;> simp [same, content.mem_keys]

def Specs.set (specs : Specs Scalar) (key : String) (value : Scalar) : Specs Scalar :=
  match specs with
  | .dict content => .dict (content.set key value)
  | .other old => .other old

def writing (key : String) (value : Scalar) : Check Unit Scalar where
  checkId := key
  fatal := true
  run ctx := some
    { passed := true
      event := ⟨key, "OK", "", none⟩
      updates := ⟨fun _ => none, some { ctx.state with specs := ctx.state.specs.set key value }⟩ }

def keyFootprint (key : String) : Footprint Unit := ⟨{.spec key}, {.spec key}, subset_rfl⟩

theorem writing_confined (key : String) {value : Scalar} (reflexive : (value == value) = true) :
    (writing key value).Confined (keyFootprint key) := by
  have set_entries : ∀ (specs : Specs Scalar) (other : String), specs.Comparable →
      (specs.set key value).entries other =
        if other = key then some value else specs.entries other := by
    intro specs other isDict
    cases specs with
    | dict content => rfl
    | other old => cases isDict.isDict
  refine ⟨fun ctx _ => ⟨_, rfl, rfl⟩, ?_, ?_⟩
  · intro ctx result isDict runs
    cases runs
    refine ⟨fun _ _ => rfl, ?_⟩
    intro state changed
    cases changed
    refine ⟨?_, ?_⟩
    · refine ⟨?_, ?_⟩
      · cases dict : ctx.state.specs with
        | dict content => rfl
        | other old =>
          rw [dict] at isDict
          cases isDict.isDict
      · intro other held member
        simp only [set_entries _ _ isDict] at member
        split at member
        · cases member
          exact reflexive
        · exact isDict.reflexive other held member
    · intro place outside
      cases place with
      | field name => rfl
      | context name => rfl
      | spec other =>
        have different : other ≠ key := fun same => outside (congrArg Place.spec same)
        simp only [ContextState.read, set_entries _ _ isDict, if_neg different]
  · intro first second left right firstDict secondDict agree runs runs'
    cases runs
    cases runs'
    refine ⟨rfl, rfl, rfl, rfl, rfl, rfl, .some ?_⟩
    intro place touched
    cases touched
    simp only [ContextState.read, set_entries _ _ firstDict, set_entries _ _ secondDict, if_pos]

theorem writing_text_shows (key text : String) : (writing key (.text text)).ShowsChanges := by
  intro ctx result state isDict runs changed place old new before after equal
  cases runs
  cases changed
  cases place with
  | field name => exact Option.some.inj (before.symm.trans after)
  | context name => cases before
  | spec other =>
    cases specs : ctx.state.specs with
    | other value =>
      rw [specs] at isDict
      cases isDict.isDict
    | dict content =>
      simp only [ContextState.read, specs, Specs.set, Specs.entries, Specs.toDict, Dict.set]
        at before after
      split at after
      · cases after
        cases old with
        | nan => simp [BEq.beq, Scalar.number] at equal
        | bool value => simp [BEq.beq, Scalar.number] at equal
        | int value => simp [BEq.beq, Scalar.number] at equal
        | text value =>
          have same : value = text ∨ text = value := by
            simpa [BEq.beq, Scalar.number] using equal
          rcases same with same | same <;> rw [same]
      · exact Option.some.inj (before.symm.trans after)

def telling (key : String) : Check Unit Scalar where
  checkId := key
  fatal := true
  run ctx := some
    { passed := true
      event :=
        ⟨key, "OK", if ctx.state.specs.entries key = some (.int 1) then "1" else "other", none⟩
      updates := ⟨fun _ => none, none⟩ }

def contextWith (content : Dict Scalar) : Context Unit Scalar where
  fields
    | .gpuFingerprintPassed => .bool true
    | _ => .bool false
  state := ⟨fun _ => .bool false, .dict content⟩

def twoLanes : List (Step Unit Scalar) :=
  [.stage (.ofLanes [[writing "verified_ports" (.text "open")], [writing "ram" (.text "measured")]])]

theorem twoLanes_run_passes :
    ∃ events final, Runs twoLanes ⟨contextWith .empty, [], []⟩ (.returned true events final) := by
  have runs : ∃ verdict, Runs twoLanes ⟨contextWith .empty, [], []⟩ verdict :=
    ⟨_, _, ⟨[1, 0], .inr ⟨rfl, .inl (by
      simp [runSchedule, ParallelStage.tasks, ParallelStage.ofLanes, LaneTask.advance,
        LaneTask.after, writing, RanCheck.stopsRun, RanCheck.failed])⟩⟩, rfl⟩
  rcases runs with ⟨verdict, runs⟩
  have independent : ∀ step ∈ twoLanes, step.LanesIndependent := by
    intro step member
    rw [List.mem_singleton.mp member]
    refine ⟨List.cons_ne_nil _ _, [keyFootprint "verified_ports", keyFootprint "ram"], ?_, ?_⟩
    · refine .cons ?_ (.cons ?_ .nil) <;> intro chk inLane <;> rw [List.mem_singleton.mp inLane] <;>
        exact ⟨writing_confined _ (by decide), writing_text_shows _ _⟩
    · simp [keyFootprint]
  have serialPasses : ∃ events final, Runs (serial twoLanes) ⟨contextWith .empty, [], []⟩
      (.returned true events final) := ⟨_, _, _, rfl, _, rfl, rfl⟩
  rcases serialPasses with ⟨events, final, runsSerial⟩
  have passes := run_passes_iff_serial twoLanes (contextWith .empty) independent
    ⟨fun _ => ⟨rfl, fun _ _ none => nomatch none⟩, fun _ _ => trivial⟩ verdict _ runs runsSerial
    events final
  exact ⟨events, final, passes.mpr rfl ▸ runs⟩

/-- A stage that tells apart what the checks of two lanes left under a key. -/
def tellingApart (key : String) (lanes : List (List (Check Unit Scalar))) :
    List (Step Unit Scalar) :=
  [.stage (.ofLanes lanes), .check (telling key)]

/-- A stage of empty lanes raises; a change of `True` into `1` is lost; and a lane that changes
some key puts back the `nan` that another lane has replaced. -/
theorem stage_differs_from_serial :
    (Runs [.stage (.ofLanes [[]])] ⟨contextWith .empty, [], []⟩ .raised ∧
      Runs (serial [.stage (.ofLanes [[]])]) ⟨contextWith .empty, [], []⟩
        (.returned true [] (contextWith .empty))) ∧
    (∀ key, (writing key (.int 1)).Confined (keyFootprint key)) ∧
    ∀ old lanes, (old, lanes) ∈
      [(Scalar.bool true, [[writing "ram" (.int 1)]]),
        (.nan, [[writing "ram" (.int 1)], [writing "ports" (.int 1)]])] →
      ∃ events final serialEvents serialFinal,
        Runs (tellingApart "ram" lanes) ⟨contextWith (Dict.empty.set "ram" old), [], []⟩
          (.returned true events final) ∧
        Runs (serial (tellingApart "ram" lanes)) ⟨contextWith (Dict.empty.set "ram" old), [], []⟩
          (.returned true serialEvents serialFinal) ∧ events ≠ serialEvents := by
  refine ⟨⟨⟨_, ⟨[], .inr ⟨rfl, .inl ?_⟩⟩, rfl⟩, rfl⟩,
    fun key => writing_confined key (by decide), ?_⟩
  · simp [runSchedule, ParallelStage.tasks, ParallelStage.ofLanes]
  · intro old lanes member
    simp only [List.mem_cons, Prod.mk.injEq, List.not_mem_nil, or_false] at member
    rcases member with ⟨rfl, rfl⟩ | ⟨rfl, rfl⟩
    · refine ⟨_, _, _, _, ⟨_, ⟨[0], .inr ⟨rfl, .inl ?_⟩⟩, _, rfl, rfl⟩, ⟨_, rfl, _, rfl, rfl⟩,
        by decide⟩
      simp [runSchedule, ParallelStage.tasks, ParallelStage.ofLanes, LaneTask.advance,
        LaneTask.after, writing, RanCheck.stopsRun, RanCheck.failed]
    · refine ⟨_, _, _, _, ⟨_, ⟨[0, 1], .inr ⟨rfl, .inl ?_⟩⟩, _, rfl, rfl⟩,
        ⟨_, rfl, _, rfl, _, rfl, rfl⟩, by decide⟩
      simp [runSchedule, ParallelStage.tasks, ParallelStage.ofLanes, LaneTask.advance,
        LaneTask.after, writing, RanCheck.stopsRun, RanCheck.failed]

end Lium.Pipeline
