import Mathlib.Data.Finset.SDiff
import Mathlib.Data.Rat.Floor

/-! # GPUs held for their heat

`GpuThermalThrottleCheck` remembers in Redis the GPUs that collapsed under load, and an unrented
node fails while one of them is unproven.
-/

namespace Lium.ThermalHold

def minUtilizationPct : ℚ := 80

def minClockRatio : ℚ := 1 / 2

def clocksEventReasonSwPowerCap : ℤ := 0x4

def thermalReasonNames : List (ℤ × String) :=
  [(0x8, "hw_slowdown"), (0x20, "sw_thermal_slowdown"), (0x40, "hw_thermal_slowdown")]

/-- A float. -/
inductive Number
  | finite (value : ℚ)
  | inf (negative : Bool)
  | nan

namespace Number

def lt (bound : ℚ) : Number → Bool
  | finite value => value < bound
  | inf negative => negative
  | nan => false

def atLeast (bound : ℚ) : Number → Bool
  | finite value => bound ≤ value
  | inf negative => !negative
  | nan => false

def truthy : Number → Bool
  | finite value => value ≠ 0
  | _ => true

def div : Number → Number → Number
  | finite value, finite by_ => finite (value / by_)
  | finite _, inf _ => finite 0
  | inf negative, finite by_ => inf (negative != decide (by_ < 0))
  | _, _ => nan

/-- `int(value)`; `none` is a `ValueError` or an `OverflowError`. -/
def toInt : Number → Option ℤ
  | finite value => some (if value < 0 then ⌈value⌉ else ⌊value⌋)
  | _ => none

end Number

/-- A value of the scrape, as `float` takes it: not at all, as a number, or with an
`OverflowError`, which `_to_number` does not catch. -/
inductive Measured
  | unread
  | number (value : Number)
  | tooLarge

/-- `_to_number`; the outer `none` is an exception. -/
def toNumber : Measured → Option (Option Number)
  | .unread => some none
  | .number value => some (some value)
  | .tooLarge => none

/-- A row of `gpu_details`. -/
structure Detail where
  uuid : Option String
  gpuUtilization : Measured
  clocksEventReasons : Measured
  graphicsSpeed : Measured
  maxGraphicsSpeed : Measured
  temperature : Measured

structure Finding where
  uuid : Option String
  reasons : List String
  collapsed : Bool

/-- `reasons & bit`, for a single bit. -/
def hasBit (reasons bit : ℤ) : Bool := reasons / bit % 2 ≠ 0

def thermalReasons (reasons : Option ℤ) : List String :=
  reasons.elim [] fun reasons =>
    (thermalReasonNames.filter fun entry => hasBit reasons entry.1).map Prod.snd

/-- What is found of a busy row. -/
def findingOf (uuid : Option String) (reasons : Option ℤ) (clock maxClock : Option Number) :
    Option Finding :=
  let thermalReasons := thermalReasons reasons
  let clockRatio := clock.bind fun clock => maxClock.bind fun maxClock =>
    if maxClock.truthy then some (clock.div maxClock) else none
  let powerCapped := reasons.any (hasBit · clocksEventReasonSwPowerCap)
  let lowClock := clockRatio.any (Number.lt minClockRatio) && !powerCapped
  if thermalReasons.isEmpty && !lowClock then none
  else some {
    uuid := uuid
    reasons := thermalReasons ++ if lowClock then ["clock_below_half_of_max"] else []
    collapsed := !thermalReasons.isEmpty && clockRatio.any (Number.lt minClockRatio) }

/-- `judge_gpu`; the outer `none` is an exception. -/
def judgeGpu (detail : Detail) : Option (Option Finding) := do
  let utilization ← toNumber detail.gpuUtilization
  if utilization.all (Number.lt minUtilizationPct) then return none
  let reasonsValue ← toNumber detail.clocksEventReasons
  let reasons ← reasonsValue.elim (some none) fun value => value.toInt.map some
  let clock ← toNumber detail.graphicsSpeed
  let maxClock ← toNumber detail.maxGraphicsSpeed
  match findingOf detail.uuid reasons clock maxClock with
  | none => return none
  | some finding =>
    let _ ← toNumber detail.temperature
    return some finding

def Measured.number? : Measured → Option Number
  | .number value => some value
  | _ => none

/-- `_judgeable_busy`. What is too large here has raised in `judge_gpu` before. -/
def judgeableBusy (detail : Detail) : Bool :=
  detail.gpuUtilization.number?.any (Number.atLeast minUtilizationPct) &&
    detail.graphicsSpeed.number?.isSome &&
    detail.maxGraphicsSpeed.number?.any Number.truthy && detail.clocksEventReasons.number?.isSome

/-- The Redis value of the hold. -/
structure Mark where
  gpus : Finset String
  since : String

/-- What a run reads: the scrape, the GPUs that a renter locked, the rental and the time. -/
structure Reading where
  gpuDetails : List Detail
  clockLocked : Finset String
  rented : Bool
  now : String

inductive Outcome
  | collapsed
  | throttled
  | ok
  deriving DecidableEq

def marked (mark : Option Mark) : Finset String := mark.elim ∅ Mark.gpus

/-- The scrape lists a row, and a uuid on every one. -/
def Reading.named (reading : Reading) : Bool :=
  !reading.gpuDetails.isEmpty && reading.gpuDetails.all fun detail => detail.uuid.any (· ≠ "")

def collapsedUuids (collapsed : List Finding) : Finset String :=
  (collapsed.filterMap Finding.uuid).toFinset

/-- The marked GPUs still unproven after this reading. -/
def held (reading : Reading) (collapsed : List Finding) (mark : Option Mark) : Finset String :=
  let proven := ((reading.gpuDetails.filter judgeableBusy).filterMap Detail.uuid).toFinset
  let markedNow := if reading.named then
      marked mark ∩ (reading.gpuDetails.filterMap Detail.uuid).toFinset
    else marked mark
  markedNow \ (proven \ collapsedUuids collapsed) ∪ collapsedUuids collapsed

/-- The GPUs held and since when, and the mark that is left in Redis. -/
def updateHold (reading : Reading) (collapsed : List Finding) (mark : Option Mark) :
    (Finset String × String) × Option Mark :=
  let held := held reading collapsed mark
  let since := (mark.filter (·.gpus ≠ ∅)).elim reading.now Mark.since
  ((held, since),
    if held = marked mark ∧ collapsedUuids collapsed = ∅ then mark
    else if held = ∅ then none else some ⟨held, since⟩)

/-- The findings that no renter's clock lock explains. -/
def throttled (reading : Reading) (findings : List (Option Finding)) : List Finding :=
  (findings.filterMap id).filter fun finding =>
    finding.uuid.all (· ∉ reading.clockLocked) || finding.reasons ≠ ["clock_below_half_of_max"]

def finish (reading : Reading) (throttled : List Finding) (mark : Option Mark) :
    Outcome × Option Mark :=
  let collapsed := throttled.filter Finding.collapsed
  let hold := updateHold reading collapsed mark
  (if (collapsed ≠ [] ∨ hold.1.1 ≠ ∅) ∧ reading.rented = false then .collapsed
    else if throttled ≠ [] then .throttled else .ok, hold.2)

/-- `none` is a run that raises, before it reads the mark. -/
def run (reading : Reading) (mark : Option Mark) : Option (Outcome × Option Mark) := do
  let findings ← reading.gpuDetails.mapM judgeGpu
  return finish reading (throttled reading findings) mark

/-- The mark that the runs leave, from none. -/
def markAfter (runs : List Reading) : Option Mark :=
  runs.foldl (fun mark reading => (run reading mark).elim mark Prod.snd) none

/-! ## One run -/

def judgedCollapsed (detail : Detail) : Bool :=
  (judgeGpu detail).join.any Finding.collapsed

def Detail.busy (detail : Detail) : Bool :=
  detail.gpuUtilization.number?.any fun value => !value.lt minUtilizationPct

/-- A reading that `float` takes. -/
def Measured.fits : Measured → Bool
  | .tooLarge => false
  | _ => true

/-- A reading that `float` takes, and `int` after it. -/
def Measured.fitsInt : Measured → Bool
  | .unread => true
  | .number value => value.toInt.isSome
  | .tooLarge => false

/-- The row is read without an exception: it is not busy, or its reasons are a finite number or
none, its clocks are not too large, and neither is its temperature if there is a finding. -/
def Detail.readable (detail : Detail) : Bool :=
  detail.gpuUtilization.fits &&
    (!detail.busy ||
      (detail.clocksEventReasons.fitsInt && detail.graphicsSpeed.fits &&
        detail.maxGraphicsSpeed.fits &&
        (detail.temperature.fits ||
          (findingOf detail.uuid (detail.clocksEventReasons.number?.bind Number.toInt)
            detail.graphicsSpeed.number? detail.maxGraphicsSpeed.number?).isNone)))

def Reading.collapses (reading : Reading) (uuid : String) : Prop :=
  ∃ detail ∈ reading.gpuDetails, detail.uuid = some uuid ∧ judgedCollapsed detail = true

/-- The run neither proves the GPU nor shows that it was replaced. -/
def Reading.holds (reading : Reading) (uuid : String) : Prop :=
  (reading.named = true → ∃ detail ∈ reading.gpuDetails, detail.uuid = some uuid) ∧
    ∀ detail ∈ reading.gpuDetails, judgeableBusy detail = true → detail.uuid ≠ some uuid

variable {reading : Reading} {mark : Option Mark} {uuid : String}

theorem judgeGpu_isSome (detail : Detail) : (judgeGpu detail).isSome = detail.readable := by
  rcases detail with ⟨uuid, utilization, reasons, clock, maxClock, temperature⟩
  cases utilization with
  | unread => rfl
  | tooLarge => rfl
  | number value =>
    cases idle : value.lt minUtilizationPct with
    | true =>
      simp [judgeGpu, toNumber, Detail.readable, Detail.busy, Measured.fits, Measured.number?, idle]
    | false =>
      simp only [judgeGpu, Detail.readable, Detail.busy, show toNumber (.number value) =
        some (some value) from rfl, show (Measured.number value).fits = true from rfl,
        Measured.number?, Option.bind_eq_bind, Option.bind_some, Option.all_some, Option.any_some,
        idle, Bool.false_eq_true, if_false, Bool.not_false, Bool.not_true, Bool.false_or,
        Bool.true_and]
      cases clock <;> cases maxClock <;> rcases reasons with _ | (_ | _ | _) | _ <;>
        simp only [toNumber, Measured.fits, Measured.fitsInt, Number.toInt, Option.bind_none,
          Option.bind_some, Option.elim_none, Option.elim_some, Option.map_none, Option.map_some,
          Option.isSome_none, Option.isSome_some, Bool.false_and, Bool.and_false, Bool.true_and] <;>
        cases findingOf .. <;> cases temperature <;> rfl

/-- A finding is what the readings of its row give. -/
theorem findingOf_of_judged {detail : Detail} {finding : Finding}
    (judged : (judgeGpu detail).join = some finding) :
    ∃ reasons clock maxClock, findingOf detail.uuid reasons clock maxClock = some finding := by
  simp only [judgeGpu, Option.bind_eq_bind, Option.join_eq_some_iff, Option.bind_eq_some_iff]
    at judged
  rcases judged with ⟨utilization, -, judged⟩
  split at judged
  · cases judged
  simp only [Option.bind_eq_some_iff] at judged
  rcases judged with ⟨_, -, reasons, -, clock, -, maxClock, -, judged⟩
  split at judged
  · cases judged
  next found =>
    rcases Option.bind_eq_some_iff.mp judged with ⟨_, -, same⟩
    cases same
    exact ⟨reasons, clock, maxClock, found⟩

/-- A collapse has a reason of its own, so no clock lock explains it. -/
theorem reasons_of_collapsed {detail : Detail} {finding : Finding}
    (judged : (judgeGpu detail).join = some finding) (collapsed : finding.collapsed = true) :
    finding.uuid = detail.uuid ∧ finding.reasons ≠ ["clock_below_half_of_max"] := by
  have other (reasons : Option ℤ) : "clock_below_half_of_max" ∉ thermalReasons reasons := by
    cases reasons <;> simp [thermalReasons, thermalReasonNames]
  rcases findingOf_of_judged judged with ⟨eventReasons, clock, maxClock, found⟩
  rw [findingOf] at found
  split at found
  · cases found
  cases found
  refine ⟨rfl, fun same => ?_⟩
  cases heat : thermalReasons eventReasons with
  | nil => simp [heat] at collapsed
  | cons reason reasons =>
    refine other eventReasons ?_
    rw [heat, List.cons_append, List.cons.injEq] at same
    rw [heat, same.1]
    exact List.mem_cons_self

/-- The findings of a run in which no row raises. -/
def Reading.throttled (reading : Reading) : List Finding :=
  ThermalHold.throttled reading (reading.gpuDetails.map fun detail => (judgeGpu detail).join)

def Reading.returns (reading : Reading) : Bool := reading.gpuDetails.all Detail.readable

theorem run_eq : run reading mark =
    if reading.returns then some (finish reading reading.throttled mark) else none := by
  have judged (details : List Detail) : details.mapM judgeGpu =
      if details.all Detail.readable then
        some (details.map fun detail => (judgeGpu detail).join) else none := by
    induction details with
    | nil => rfl
    | cons detail rest induction =>
      rw [List.mapM_cons, induction, List.all_cons, ← judgeGpu_isSome]
      cases judged : judgeGpu detail with
      | none => rfl
      | some finding =>
        rw [List.map_cons, judged]
        cases rest.all Detail.readable <;> rfl
  rw [run, judged, Reading.returns]
  split <;> rfl

theorem mem_collapsed {finding : Finding} :
    finding ∈ reading.throttled.filter Finding.collapsed ↔
      ∃ detail ∈ reading.gpuDetails,
        (judgeGpu detail).join = some finding ∧ finding.collapsed = true := by
  simp only [Reading.throttled, throttled, List.mem_filter, List.mem_filterMap, List.mem_map,
    id_eq, exists_exists_and_eq_and, Bool.or_eq_true, decide_eq_true_eq]
  constructor
  · rintro ⟨⟨⟨detail, listed, judged⟩, _⟩, collapsed⟩
    exact ⟨detail, listed, judged, collapsed⟩
  · rintro ⟨detail, listed, judged, collapsed⟩
    exact ⟨⟨⟨detail, listed, judged⟩, .inr (reasons_of_collapsed judged collapsed).2⟩, collapsed⟩

theorem mem_collapsedUuids :
    uuid ∈ collapsedUuids (reading.throttled.filter Finding.collapsed) ↔
      reading.collapses uuid := by
  simp only [collapsedUuids, List.mem_toFinset, List.mem_filterMap, mem_collapsed]
  constructor
  · rintro ⟨finding, ⟨detail, listed, judged, collapsed⟩, named⟩
    exact ⟨detail, listed, (reasons_of_collapsed judged collapsed).1.symm.trans named,
      by simp [judgedCollapsed, judged, collapsed]⟩
  · rintro ⟨detail, listed, named, collapsed⟩
    rcases (Option.any_eq_true _ _).mp collapsed with ⟨finding, judged, collapsed⟩
    exact ⟨finding, ⟨detail, listed, judged, collapsed⟩,
      (reasons_of_collapsed judged collapsed).1.trans named⟩

theorem mem_held : uuid ∈ held reading (reading.throttled.filter Finding.collapsed) mark ↔
    reading.collapses uuid ∨ uuid ∈ marked mark ∧ reading.holds uuid := by
  simp only [held, Finset.mem_union, Finset.mem_sdiff, mem_collapsedUuids]
  have proven : uuid ∈ ((reading.gpuDetails.filter judgeableBusy).filterMap
      Detail.uuid).toFinset ↔
        ¬ ∀ detail ∈ reading.gpuDetails, judgeableBusy detail = true →
          detail.uuid ≠ some uuid := by
    simp [and_assoc]
  have listed : uuid ∈ (if reading.named = true then
      marked mark ∩ (reading.gpuDetails.filterMap Detail.uuid).toFinset else marked mark) ↔
        uuid ∈ marked mark ∧
          (reading.named = true → ∃ detail ∈ reading.gpuDetails, detail.uuid = some uuid) := by
    split_ifs with named <;> simp [named]
  rw [proven, listed, Reading.holds, or_comm, not_and_not_right, and_assoc]
  by_cases collapses : reading.collapses uuid
  · simp only [collapses, true_or]
  · simp only [collapses, false_or, imp_false, not_not]

theorem marked_updateHold (collapsed : List Finding) :
    marked (updateHold reading collapsed mark).2 = held reading collapsed mark := by
  rw [updateHold]
  dsimp only
  split_ifs with same none
  · exact same.1.symm
  · exact none.symm
  · rfl

theorem finish_collapsed_iff : (finish reading reading.throttled mark).1 = .collapsed ↔
    reading.rented = false ∧ ((∃ detail ∈ reading.gpuDetails, judgedCollapsed detail = true) ∨
      ∃ uuid ∈ marked mark, reading.holds uuid) := by
  have passes : (if reading.throttled ≠ [] then Outcome.throttled else .ok) ≠ .collapsed := by
    split_ifs <;> decide
  have now : reading.throttled.filter Finding.collapsed ≠ [] ↔
      ∃ detail ∈ reading.gpuDetails, judgedCollapsed detail = true := by
    simp only [ne_eq, List.eq_nil_iff_forall_not_mem, not_forall, not_not, mem_collapsed,
      judgedCollapsed, Option.any_eq_true]
    exact exists_comm.trans (exists_congr fun detail => exists_and_left)
  have named : (∃ uuid, reading.collapses uuid) →
      ∃ detail ∈ reading.gpuDetails, judgedCollapsed detail = true := by
    rintro ⟨uuid, detail, listed, _, collapsed⟩
    exact ⟨detail, listed, collapsed⟩
  rw [finish, ite_eq_left_iff, updateHold]
  simp only [passes, imp_false, not_not, now, ← Finset.nonempty_iff_ne_empty, Finset.Nonempty,
    mem_held, exists_or]
  rw [and_comm, ← or_assoc, or_iff_left_of_imp named]

/-! ## Sequences of runs -/

/-- The GPU collapsed in one of the runs, and no later one proved it or showed it replaced. -/
def Unproven (uuid : String) (runs : List Reading) : Prop :=
  ∃ earlier hit since, runs = earlier ++ hit :: since ∧ hit.collapses uuid ∧
    ∀ reading ∈ since, ¬ reading.collapses uuid ∧ reading.holds uuid

/-- Only the runs that return keep the mark. -/
theorem mem_marked_markAfter (runs : List Reading) :
    uuid ∈ marked (markAfter runs) ↔ Unproven uuid (runs.filter Reading.returns) := by
  induction runs using List.reverseRecOn with
  | nil =>
    refine ⟨fun none => absurd none (Finset.notMem_empty uuid), ?_⟩
    rintro ⟨earlier, hit, since, split, _⟩
    simp at split
  | append_singleton runs reading induction =>
    rw [markAfter, List.foldl_concat, ← markAfter, run_eq, List.filter_append]
    by_cases returns : reading.returns = true
    swap
    · rw [if_neg returns, List.filter_cons_of_neg returns, List.filter_nil, List.append_nil]
      exact induction
    rw [if_pos returns, List.filter_cons_of_pos returns, List.filter_nil, Option.elim_some, finish,
      marked_updateHold, mem_held, induction]
    constructor
    · intro either
      by_cases collapses : reading.collapses uuid
      · exact ⟨_, reading, [], rfl, collapses, by simp⟩
      · rcases either.resolve_left collapses with ⟨⟨earlier, hit, since, same, first, later⟩, holds⟩
        refine ⟨earlier, hit, since ++ [reading], by simp [same], first, ?_⟩
        rw [List.forall_mem_append, List.forall_mem_singleton]
        exact ⟨later, collapses, holds⟩
    · rintro ⟨earlier, hit, since, split, first, later⟩
      rcases since.eq_nil_or_concat' with rfl | ⟨since, last, rfl⟩
      · rcases List.append_inj' split rfl with ⟨_, ⟨⟩⟩
        exact .inl first
      · rw [List.forall_mem_append, List.forall_mem_singleton] at later
        rw [← List.cons_append, ← List.append_assoc] at split
        rcases List.append_inj' split rfl with ⟨same, ⟨⟩⟩
        exact .inr ⟨⟨earlier, hit, since, same, first, later.1⟩, later.2.2⟩

/-- An unrented run fails just if a GPU is judged collapsed in it, or one collapsed in an earlier
run and no run since, this one included, proves it or shows it replaced. A rented run never
fails. -/
def HoldsExact (before : List Reading) (reading : Reading) : Prop :=
  (run reading (markAfter before)).map Prod.fst = some .collapsed ↔ reading.rented = false ∧
    ((∃ detail ∈ reading.gpuDetails, judgedCollapsed detail = true) ∨
      ∃ uuid, Unproven uuid before ∧ reading.holds uuid)

theorem holdsExact_of_returns {before : List Reading} (now : reading.returns = true)
    (earlier : ∀ run ∈ before, run.returns = true) : HoldsExact before reading := by
  rw [HoldsExact, run_eq, if_pos now, Option.map_some, Option.some_inj, finish_collapsed_iff]
  simp only [mem_marked_markAfter, List.filter_eq_self.mpr earlier]

/-- Without a collapse there is no mark either, so no run fails, also one that raises. -/
theorem holdsExact_of_not_collapsed {before : List Reading}
    (never : ∀ run ∈ before ++ [reading], ∀ detail ∈ run.gpuDetails,
      judgedCollapsed detail = false) : HoldsExact before reading := by
  have cool (run : Reading) (member : run ∈ before ++ [reading]) :
      ¬ ∃ detail ∈ run.gpuDetails, judgedCollapsed detail = true := by
    rintro ⟨detail, listed, collapsed⟩
    exact Bool.false_ne_true ((never run member detail listed).symm.trans collapsed)
  have proven {runs : List Reading} (part : runs ⊆ before) (uuid : String) :
      ¬ Unproven uuid runs := by
    rintro ⟨earlier, hit, since, rfl, ⟨detail, listed, _, collapsed⟩, _⟩
    exact cool hit (List.mem_append_left _ (part (by simp))) ⟨detail, listed, collapsed⟩
  have quiet := cool reading (by simp)
  have mark : ∀ uuid, uuid ∉ marked (markAfter before) := fun uuid held =>
    proven (List.filter_subset_self before) uuid (mem_marked_markAfter before |>.mp held)
  rw [HoldsExact, run_eq]
  split
  · rw [Option.map_some, Option.some_inj, finish_collapsed_iff]
    simp [quiet, mark, proven (List.Subset.refl before)]
  · simp [quiet, proven (List.Subset.refl before)]

/-- Whatever rows the scrapes may hold, the holds are exact just if each of them is read without
an exception, or none is ever judged collapsed: a row that raises hides a collapse in another. -/
theorem thermal_holds_exact_iff (allowed : Detail → Prop) :
    (∀ before reading, (∀ run ∈ before ++ [reading], ∀ detail ∈ run.gpuDetails, allowed detail) →
      HoldsExact before reading) ↔
    (∀ detail, allowed detail → detail.readable = true) ∨
      ∀ detail, allowed detail → judgedCollapsed detail = false := by
  constructor
  · intro exact
    by_contra neither
    push Not at neither
    rcases neither with ⟨⟨raising, allowedRaising, raises⟩, hot, allowedHot, collapsed⟩
    let reading : Reading :=
      { gpuDetails := [hot, raising], clockLocked := ∅, rented := false, now := "" }
    have rows : ∀ run ∈ [] ++ [reading], ∀ detail ∈ run.gpuDetails, allowed detail := by
      simp [reading, allowedRaising, allowedHot]
    have fails := (exact [] reading rows).mpr
      ⟨rfl, .inl ⟨hot, List.mem_cons_self, by simpa using collapsed⟩⟩
    rw [run_eq, if_neg (by simp [Reading.returns, reading, raises])] at fails
    cases fails
  · rintro (readable | cool) before reading rows
    · refine holdsExact_of_returns ?_ fun run member => ?_ <;>
        refine List.all_eq_true.mpr fun detail listed => readable detail (rows _ ?_ detail listed)
      · exact List.mem_append_right _ List.mem_cons_self
      · exact List.mem_append_left _ member
    · exact holdsExact_of_not_collapsed fun run member detail listed =>
        cool detail (rows run member detail listed)

/-- A GPU at a tenth of its clock with the thermal bit set, and a busy one whose reasons are NaN:
the run raises, where one without the second row fails the node. -/
theorem unreadable_row_hides_collapse :
    ∃ hot unreadable : Detail, ∃ reading : Reading, reading.gpuDetails = [hot, unreadable] ∧
      judgedCollapsed hot = true ∧ unreadable.uuid = some "GPU-1" ∧
      run reading none = none ∧ ¬ HoldsExact [] reading ∧
      HoldsExact [] { reading with gpuDetails := [hot] } := by
  let hot : Detail :=
    { uuid := some "GPU-0", gpuUtilization := .number (.finite 99)
      clocksEventReasons := .number (.finite 0x20), graphicsSpeed := .number (.finite 198)
      maxGraphicsSpeed := .number (.finite 1980), temperature := .number (.finite 87) }
  let unreadable : Detail :=
    { uuid := some "GPU-1", gpuUtilization := .number (.finite 90)
      clocksEventReasons := .number .nan, graphicsSpeed := .number (.finite 1980)
      maxGraphicsSpeed := .number (.finite 1980), temperature := .number (.finite 60) }
  let reading : Reading :=
    { gpuDetails := [hot, unreadable], clockLocked := ∅, rented := false, now := "" }
  have collapsed : judgedCollapsed hot = true := by decide +kernel
  have raises : run reading none = none := by decide +kernel
  refine ⟨hot, unreadable, reading, rfl, collapsed, rfl, raises, fun exact => ?_, ?_⟩
  · have fails := exact.mpr ⟨rfl, .inl ⟨hot, List.mem_cons_self, collapsed⟩⟩
    rw [show markAfter [] = none from rfl, raises] at fails
    cases fails
  · exact holdsExact_of_returns (by decide +kernel) (by simp)

end Lium.ThermalHold
