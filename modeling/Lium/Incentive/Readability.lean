import Lium.Foundation.Text
import Lium.Incentive.Run

/-! # When a run raises

Preparing a result raises on a GPU model outside the base-model table, and on readings of a scrape
that the gates do not cover. A run returns exactly when every portion `isReadable`.
-/

namespace Lium

variable {state next : Scoring.Candidacy}

namespace Gates

open Raising

/-! ## Readings that raise -/

/-- Every verified port can be hashed, if they are counted. -/
def verifiedPortsReadable (spec : List (String × PyValue)) : Bool :=
  match PyValue.field spec "port_verify_first_miss" with
  | .bool true => true
  | _ =>
    match (PyValue.field spec "available_port_count").asInt with
    | none => true
    | some _ =>
      match PyValue.field spec "verified_ports" with
      | .list verified => verified.all PyValue.hashable
      | _ => true

def portsReadable (result : JobResult) : Bool :=
  (remainderSizing result).all fun sizing => verifiedPortsReadable sizing.1

/-- What stops the disk measurement, if anything does, is one of the caught exceptions. -/
def diskReadable (runtime : PyRuntime) (result : JobResult) : Bool :=
  result.spec.all fun spec =>
    spec.isEmpty ||
    match measureDisk runtime spec with
    | .ok _ => true
    | .error error => unreadableScrape error

def isOptionalText : PyValue → Bool
  | .none => true
  | .str _ => true
  | _ => false

def needsProfilingAccess (baseModel : String) (result : JobResult) : Bool :=
  result.gpuCount = full8xCapabilityGpuCount && baseModel ∈ full8xCapabilityBaseModels &&
    !hasRealSplitting result && result.attestationDigest.isNone

/-- The two profiling fields are texts or absent, if they are reported. -/
def profilingReadable (spec : List (String × PyValue)) : Bool :=
  match PyValue.field spec "ncu_profiling_access" with
  | .str text =>
    text = ncuProfilingUnrestricted ||
      isOptionalText (PyValue.field spec "ncu_profiling_scrape_error")
  | .none => isOptionalText (PyValue.field spec "ncu_profiling_scrape_error")
  | _ => false

def capabilityReadable (baseModel : String) (result : JobResult) : Bool :=
  !needsProfilingAccess baseModel result || result.spec.all profilingReadable

theorem availablePorts_succeeds_iff (spec : List (String × PyValue)) :
    Succeeds (availablePorts spec) ↔ verifiedPortsReadable spec = true := by
  unfold availablePorts verifiedPortsReadable
  cases (PyValue.field spec "available_port_count").asInt with
  | none =>
    cases PyValue.field spec "port_verify_first_miss" with
    | bool missed => cases missed <;> simp
    | _ => simp
  | some available =>
    cases PyValue.field spec "verified_ports" with
    | list verified =>
      have counted : Succeeds (do
          let distinct ← PyValue.distinctCount verified
          return some (min available distinct)) ↔
          verified.all PyValue.hashable = true := by
        rw [List.all_eq_true, ← PyValue.distinctCount_ok_iff, succeeds_bind_iff]
        exact exists_congr fun distinct => and_iff_left ⟨_, rfl⟩
      cases PyValue.field spec "port_verify_first_miss" with
      | bool missed =>
        cases missed with
        | true => simp
        | false => exact counted
      | _ => exact counted
    | _ =>
      cases PyValue.field spec "port_verify_first_miss" with
      | bool missed => cases missed <;> simp
      | _ => simp

theorem portLimitedRemainder_succeeds_iff (result : JobResult) :
    Succeeds (portLimitedRemainder result) ↔ portsReadable result = true := by
  unfold portLimitedRemainder portsReadable
  cases remainderSizing result with
  | none => simp
  | some sizing =>
    rw [Option.all_some, ← availablePorts_succeeds_iff]
    cases outcome : availablePorts sizing.1 <;> simp [outcome, Except.map]

theorem insufficientDisk_succeeds_iff (runtime : PyRuntime) (result : JobResult) :
    Succeeds (insufficientDisk runtime result) ↔ diskReadable runtime result = true := by
  unfold insufficientDisk diskReadable
  rcases result.spec with _ | _ | ⟨entry, rest⟩
  · simp
  · simp
  · simp only [Option.all_some, List.isEmpty_cons, Bool.false_or]
    cases measureDisk runtime (entry :: rest) with
    | ok measured =>
      simp only [iff_true]
      split_ifs <;> exact succeeds_ok _
    | error error =>
      simp only
      split_ifs with caught <;> simp [caught]

theorem optionalText_succeeds_iff (value : PyValue) :
    Succeeds (optionalText value) ↔ isOptionalText value = true := by
  cases value <;> simp [optionalText, isOptionalText]

def isUnrestricted (spec : List (String × PyValue)) : Bool :=
  match PyValue.field spec "ncu_profiling_access" with
  | .str text => text = ncuProfilingUnrestricted
  | _ => false

theorem profilingReadable_iff (spec : List (String × PyValue)) :
    profilingReadable spec = true ↔ isUnrestricted spec = true ∨
      isOptionalText (PyValue.field spec "ncu_profiling_access") = true ∧
        isOptionalText (PyValue.field spec "ncu_profiling_scrape_error") = true := by
  unfold profilingReadable isUnrestricted
  cases PyValue.field spec "ncu_profiling_access" <;> simp [isOptionalText]

theorem missingFull8xCapability_succeeds_iff (baseModel : String) (result : JobResult) :
    Succeeds (missingFull8xCapability baseModel result) ↔
      capabilityReadable baseModel result = true := by
  unfold missingFull8xCapability capabilityReadable needsProfilingAccess
  by_cases gpus : result.gpuCount = full8xCapabilityGpuCount
  · by_cases listed : baseModel ∈ full8xCapabilityBaseModels
    · cases result.spec with
      | none => simp [gpus, listed]
      | some spec =>
        have verdict : Succeeds (do
            let access ← optionalText (PyValue.field spec "ncu_profiling_access")
            let scrapeError ← optionalText (PyValue.field spec "ncu_profiling_scrape_error")
            return some (MissingFull8xCapability.mk access scrapeError)) ↔
            isOptionalText (PyValue.field spec "ncu_profiling_access") = true ∧
              isOptionalText (PyValue.field spec "ncu_profiling_scrape_error") = true := by
          rw [← optionalText_succeeds_iff, ← optionalText_succeeds_iff]
          constructor
          · intro returned
            obtain ⟨access, first, rest⟩ := succeeds_bind_iff.mp returned
            obtain ⟨scrapeError, second, -⟩ := succeeds_bind_iff.mp rest
            exact ⟨⟨access, first⟩, ⟨scrapeError, second⟩⟩
          · rintro ⟨⟨access, first⟩, ⟨scrapeError, second⟩⟩
            exact succeeds_bind_iff.mpr
              ⟨access, first, succeeds_bind_iff.mpr ⟨scrapeError, second, _, rfl⟩⟩
        simp only [gpus, listed, ne_eq, not_true_eq_false, if_false, decide_true,
          Bool.true_and, Option.all_some]
        change Succeeds (if isUnrestricted spec || hasRealSplitting result ||
          result.attestationDigest.isSome then _ else _) ↔ _
        by_cases excused : hasRealSplitting result || result.attestationDigest.isSome
        · rw [if_pos (by rw [Bool.or_assoc, excused, Bool.or_true])]
          rw [Bool.or_eq_true] at excused
          rcases excused with splitting | attested
          · simp [splitting]
          · simp [Option.isNone_eq_false_iff.mpr attested]
        · simp only [Bool.or_eq_true, not_or, Bool.not_eq_true] at excused
          cases unrestricted : isUnrestricted spec with
          | true =>
            simp [(profilingReadable_iff spec).mpr (.inl unrestricted)]
          | false =>
            have readable := profilingReadable_iff spec
            rw [unrestricted] at readable
            simp only [Bool.false_eq_true, false_or] at readable
            simp only [excused.1, excused.2, Bool.or_self, Bool.false_eq_true, if_false]
            rw [verdict, ← readable]
            simp [excused.2]
    · simp [gpus, listed]
  · simp [gpus]

/-! ## The size of a remainder -/

def portUnpaid (result : JobResult) : ℕ :=
  match portLimitedRemainder result with
  | .ok (some limited) => limited.unpaidGpuCount
  | _ => 0

def diskUnpaid (result : JobResult) : ℕ :=
  (diskLimitedRemainder result).elim 0 (·.unpaidGpuCount)

/-- The GPUs the port rule takes out of the pools. A remainder without any paid split is
blocked as a whole instead. -/
def portWithheld (result : JobResult) : ℕ :=
  match portLimitedRemainder result with
  | .ok (some limited) => if limited.paidSplitCount = 0 then 0 else limited.unpaidGpuCount
  | _ => 0

def diskWithheld (result : JobResult) : ℕ :=
  (diskLimitedRemainder result).elim 0 fun limited =>
    if limited.paidSplitCount = 0 then 0 else limited.unpaidGpuCount

def sizedGpuCount (result : JobResult) : ℕ :=
  result.gpuCount - max (portWithheld result) (diskWithheld result)

end Gates

variable {result : JobResult}

namespace Scoring

open Raising

def withholdGpus (result : JobResult) (withheld : ℕ) (reasons : List ZeroIncentiveReason) :
    JobResult :=
  { result with
    gpuCount := result.gpuCount - withheld
    portUnpaidGpuCount := result.portUnpaidGpuCount + withheld
    zeroIncentiveReasons := reasons }

theorem withholdGpus_withholdGpus (result : JobResult) (first second : ℕ)
    (reasons more : List ZeroIncentiveReason) :
    withholdGpus (withholdGpus result first reasons) second more =
      withholdGpus result (first + second) more := by
  simp only [withholdGpus, Nat.sub_sub, Nat.add_assoc]

/-- `next` is `state` with `withheld` GPUs taken out of the pools, of the `unpaid` that a
candidate which stays eligible loses. -/
structure Sized (state next : Candidacy) (withheld unpaid : ℕ) : Prop where
  candidate : next.idlePoolCandidate = state.idlePoolCandidate
  eligible : next.eligible = true → state.eligible = true ∧ withheld = unpaid
  result : ∃ reasons, next.result = withholdGpus state.result withheld reasons

theorem Sized.refl (state : Candidacy) : Sized state state 0 0 where
  candidate := rfl
  eligible := fun eligible => ⟨eligible, rfl⟩
  result := ⟨state.result.zeroIncentiveReasons, rfl⟩

theorem Sized.block (state : Candidacy) (reason : ZeroIncentiveReason) (unpaid : ℕ) :
    Sized state (state.block reason) 0 unpaid where
  candidate := rfl
  eligible := fun blocked => by cases blocked
  result := ⟨_, rfl⟩

theorem Sized.withhold (state : Candidacy) (reason : ZeroIncentiveReason) (gpuCount : ℕ) :
    Sized state (state.withhold gpuCount reason) gpuCount gpuCount where
  candidate := rfl
  eligible := fun eligible => ⟨eligible, rfl⟩
  result := ⟨_, rfl⟩

theorem applyPortLimit_sized (candidate : state.idlePoolCandidate = true)
    (returned : applyPortLimit state = .ok next) :
    Sized state next (Gates.portWithheld state.result) (Gates.portUnpaid state.result) := by
  unfold applyPortLimit at returned
  rw [if_pos candidate, bind_eq_ok_iff] at returned
  obtain ⟨limited, measured, returned⟩ := returned
  rw [atState_eq_ok_iff] at measured
  cases returned
  unfold Gates.portWithheld Gates.portUnpaid
  rw [measured]
  cases limited with
  | none => exact .refl state
  | some limited =>
    simp only
    split_ifs with nonePaid
    · exact .block state _ _
    · exact .withhold state _ _

theorem diskLimitedRemainder_withholdGpus {withheld : ℕ} (fits : withheld ≤ result.gpuCount)
    (reasons : List ZeroIncentiveReason) :
    Gates.diskLimitedRemainder (withholdGpus result withheld reasons) =
      Gates.diskLimitedRemainder result := by
  have total : (withholdGpus result withheld reasons).gpuCount +
      (withholdGpus result withheld reasons).portUnpaidGpuCount =
      result.gpuCount + result.portUnpaidGpuCount := by
    simp only [withholdGpus]
    omega
  unfold Gates.diskLimitedRemainder
  rw [total]
  rfl

theorem limits_sized (candidate : state.idlePoolCandidate = true)
    (untouched : state.result.portUnpaidGpuCount = 0) (returned : applyPortLimit state = .ok next) :
    Sized state (applyDiskLimit next)
      (max (Gates.portWithheld state.result) (Gates.diskWithheld state.result))
      (max (Gates.portUnpaid state.result) (Gates.diskUnpaid state.result)) := by
  have total := ((applyPortLimit_gated state untouched).of_ok returned).gpuTotal
  have port := applyPortLimit_sized candidate returned
  obtain ⟨reasons, shrunk⟩ := port.result
  have withheld : next.result.portUnpaidGpuCount = Gates.portWithheld state.result := by
    simp only [shrunk, withholdGpus, untouched, Nat.zero_add]
  have measured : Gates.diskLimitedRemainder next.result =
      Gates.diskLimitedRemainder state.result := by
    rw [shrunk]
    apply diskLimitedRemainder_withholdGpus
    rw [withheld, untouched] at total
    omega
  unfold applyDiskLimit Gates.diskWithheld Gates.diskUnpaid
  simp only [if_pos (port.candidate.trans candidate), measured]
  cases Gates.diskLimitedRemainder state.result with
  | none => simpa using port
  | some limited =>
    simp only [Option.elim_some]
    split_ifs with nonePaid
    · refine ⟨port.candidate, fun blocked => (by cases blocked), ?_⟩
      obtain ⟨more, blocked⟩ := (Sized.block next .diskLimitedRemainder 0).result
      refine ⟨more, ?_⟩
      rw [blocked, shrunk, withholdGpus_withholdGpus]
      simp
    · refine ⟨port.candidate, ?_, ?_⟩
      · intro eligible
        obtain ⟨still, same⟩ := port.eligible eligible
        exact ⟨still, by rw [same]⟩
      · obtain ⟨more, shrunkAgain⟩ := (Sized.withhold next .diskLimitedRemainder
          (limited.unpaidGpuCount - next.result.portUnpaidGpuCount)).result
        refine ⟨more, ?_⟩
        rw [shrunkAgain, withheld, shrunk, withholdGpus_withholdGpus]
        congr 1
        omega

/-! ## The gates -/

structure Passed (start state : Candidacy) : Prop where
  candidate : state.idlePoolCandidate = start.idlePoolCandidate
  eligible : state.eligible = true → start.eligible = true
  result : ∃ reasons, state.result = start.result.withReasons reasons

theorem Passed.refl (state : Candidacy) : Passed state state :=
  ⟨rfl, id, state.result.zeroIncentiveReasons, rfl⟩

theorem Passed.trans {first second third : Candidacy} (left : Passed first second)
    (right : Passed second third) : Passed first third := by
  obtain ⟨reasons, leftResult⟩ := left.result
  obtain ⟨more, rightResult⟩ := right.result
  refine ⟨right.candidate.trans left.candidate, left.eligible ∘ right.eligible, more, ?_⟩
  rw [rightResult, leftResult]
  rfl

section Gate

variable {measured : Type} {enforced : Bool} {reason : ZeroIncentiveReason}
  {measure : JobResult → Except PyError (Option measured)}

theorem idlePoolGate_passed (returned : idlePoolGate enforced reason measure state = .ok next) :
    Passed state next := by
  rcases (idlePoolGate_cases enforced reason measure state).of_ok returned with same | blocked
  · rw [same]
    exact .refl state
  · rw [blocked]
    exact ⟨rfl, fun eligible => (by cases eligible), _, rfl⟩

theorem idlePoolGate_succeeds_iff :
    Succeeds (idlePoolGate enforced reason measure state) ↔
      (shouldRunIdlePoolGate state.idlePoolCandidate state.eligible enforced = true →
        Succeeds (measure state.result)) := by
  have returns : Succeeds (idlePoolGate enforced reason measure state) ↔
      Succeeds (if shouldRunIdlePoolGate state.idlePoolCandidate state.eligible enforced then
        measure state.result else .ok none) := by
    unfold idlePoolGate
    rw [succeeds_bind_iff, ← succeeds_atState_iff]
    exact exists_congr fun failing => and_iff_left ⟨_, rfl⟩
  refine returns.trans ?_
  split_ifs with runs <;> simp [runs]

end Gate

def runMeasuringGates (env : Env) (baseModel : String) (state : Candidacy) :
    Raising PyError JobResult Candidacy := do
  let state ← softPriceGate env state
  let state ← diskGate env state
  let state ← full8xGate baseModel state
  let state ← powerCapGate env state
  powerCapRevertGate env state

theorem runIdlePoolGates_eq (env : Env) (baseModel : String) (state : Candidacy) :
    runIdlePoolGates env baseModel state =
      applyPortLimit state >>= fun state => runMeasuringGates env baseModel (applyDiskLimit state) :=
  rfl

theorem runMeasuringGates_passed {env : Env} {baseModel : String}
    (returned : runMeasuringGates env baseModel state = .ok next) : Passed state next := by
  simp only [runMeasuringGates, bind_eq_ok_iff] at returned
  obtain ⟨priced, first, measured, second, capable, third, capped, fourth, fifth⟩ := returned
  exact (idlePoolGate_passed first).trans ((idlePoolGate_passed second).trans
    ((idlePoolGate_passed third).trans ((idlePoolGate_passed fourth).trans
      (idlePoolGate_passed fifth))))

theorem runMeasuringGates_succeeds_iff {env : Env} {baseModel : String}
    (candidate : state.idlePoolCandidate = true) :
    Succeeds (runMeasuringGates env baseModel state) ↔
      Gates.diskReadable env.runtime state.result = true ∧
        Gates.capabilityReadable baseModel state.result = true := by
  have runs : ∀ {next : Candidacy}, Passed state next →
      shouldRunIdlePoolGate next.idlePoolCandidate next.eligible true = true := by
    intro next passed
    simp [shouldRunIdlePoolGate, passed.candidate, candidate]
  have disk : ∀ {next : Candidacy}, Passed state next →
      (Succeeds (diskGate env next) ↔ Gates.diskReadable env.runtime state.result = true) := by
    intro next passed
    obtain ⟨reasons, same⟩ := passed.result
    rw [diskGate, idlePoolGate_succeeds_iff, same, Gates.insufficientDisk_succeeds_iff]
    exact imp_iff_right (runs passed)
  have capability : ∀ {next : Candidacy}, Passed state next →
      (Succeeds (full8xGate baseModel next) ↔
        Gates.capabilityReadable baseModel state.result = true) := by
    intro next passed
    obtain ⟨reasons, same⟩ := passed.result
    rw [full8xGate, idlePoolGate_succeeds_iff, same, Gates.missingFull8xCapability_succeeds_iff]
    exact imp_iff_right (runs passed)
  have always : ∀ {enforced : Bool} {reason : ZeroIncentiveReason} {measured : Type}
      (verdict : JobResult → Option measured) (next : Candidacy),
      Succeeds (idlePoolGate enforced reason (fun result => .ok (verdict result)) next) := by
    intro enforced reason measured verdict next
    exact idlePoolGate_succeeds_iff.mpr fun _ => succeeds_ok _
  simp only [runMeasuringGates, succeeds_bind_iff]
  constructor
  · rintro ⟨priced, first, measured, second, capable, third, -⟩
    have passed := idlePoolGate_passed first
    exact ⟨(disk passed).mp ⟨measured, second⟩,
      (capability (passed.trans (idlePoolGate_passed second))).mp ⟨capable, third⟩⟩
  · rintro ⟨readableDisk, readableCapability⟩
    obtain ⟨priced, first⟩ := always _ state
    have passed := idlePoolGate_passed first
    obtain ⟨measured, second⟩ := (disk passed).mpr readableDisk
    have passed := passed.trans (idlePoolGate_passed second)
    obtain ⟨capable, third⟩ := (capability passed).mpr readableCapability
    obtain ⟨capped, fourth⟩ := always _ capable
    exact ⟨priced, first, measured, second, capable, third, capped, fourth, always _ capped⟩

theorem runIdlePoolGates_of_not_candidate (env : Env) (baseModel : String)
    (candidate : state.idlePoolCandidate = false) (eligible : state.eligible = false) :
    runIdlePoolGates env baseModel state = .ok state := by
  have skips : ∀ {enforced : Bool} {reason : ZeroIncentiveReason} {measured : Type}
      (measure : JobResult → Except PyError (Option measured)),
      idlePoolGate enforced reason measure state = .ok state := by
    intro enforced reason measured measure
    simp [idlePoolGate, shouldRunIdlePoolGate, candidate, eligible, atState, bind, Except.bind,
      pure, Except.pure]
  have port : applyPortLimit state = .ok state := by
    simp [applyPortLimit, candidate, atState, bind, Except.bind, pure, Except.pure]
  have disk : applyDiskLimit state = state := by simp [applyDiskLimit, candidate]
  simp only [runIdlePoolGates, softPriceGate, diskGate, full8xGate, powerCapGate,
    powerCapRevertGate, port, disk, skips, bind, Except.bind]

def scrapeReadable (env : Env) (baseModel : String) (result : JobResult) : Bool :=
  Gates.portsReadable result && Gates.diskReadable env.runtime result &&
    Gates.capabilityReadable baseModel { result with gpuCount := Gates.sizedGpuCount result }

theorem runIdlePoolGates_succeeds_iff (env : Env) (baseModel : String)
    (untouched : state.result.portUnpaidGpuCount = 0) (candidate : state.idlePoolCandidate = true) :
    Succeeds (runIdlePoolGates env baseModel state) ↔
      scrapeReadable env baseModel state.result = true := by
  have port : Succeeds (applyPortLimit state) ↔ Gates.portsReadable state.result = true := by
    rw [← Gates.portLimitedRemainder_succeeds_iff, applyPortLimit, if_pos candidate,
      succeeds_bind_return_iff, succeeds_atState_iff]
  have measuring : ∀ {next : Candidacy}, applyPortLimit state = .ok next →
      (Succeeds (runMeasuringGates env baseModel (applyDiskLimit next)) ↔
        Gates.diskReadable env.runtime state.result = true ∧
          Gates.capabilityReadable baseModel
            { state.result with gpuCount := Gates.sizedGpuCount state.result } = true) := by
    intro next returned
    have sized := limits_sized candidate untouched returned
    obtain ⟨reasons, shrunk⟩ := sized.result
    rw [runMeasuringGates_succeeds_iff (sized.candidate.trans candidate), shrunk]
    rfl
  rw [runIdlePoolGates_eq, succeeds_bind_iff, scrapeReadable, Bool.and_eq_true, Bool.and_eq_true,
    and_assoc, ← port]
  constructor
  · rintro ⟨next, returned, succeeds⟩
    exact ⟨⟨next, returned⟩, (measuring returned).mp succeeds⟩
  · rintro ⟨⟨next, returned⟩, readable⟩
    exact ⟨next, returned, (measuring returned).mpr readable⟩

/-! ## One result -/

variable {env : Env}

def isGated (env : Env) (result : JobResult) : Bool :=
  isIdlePoolCandidate env result.baseModel result &&
    !(onSpotPayPath result && !env.settings.spotIdlePaySecureDecisionEnabled)

/-- The time of a rental that is scored compares with the cutoff. -/
def rentalTimeReadable (env : Env) (result : JobResult) : Bool :=
  !(result.isRented && !excludedFromBothPools env result && comesToCutoff env result) ||
    result.rentalCreatedAt.all fun created =>
      env.settings.sysboxRentedCutoff.aware = created.aware

/-- Nothing the pre-pass reads of the result makes it raise. -/
def isReadable (env : Env) (result : JobResult) : Bool :=
  !result.isSuccessful ||
    (knownGpuModel result.gpuModel && rentalTimeReadable env result &&
      (!isGated env result || scrapeReadable env result.baseModel result))

theorem succeeds_isRentedAfterCutoff_iff (rented : result.isRented = true) :
    Succeeds (isRentedAfterCutoff env result) ↔
      (result.rentalCreatedAt.all fun created =>
        env.settings.sysboxRentedCutoff.aware = created.aware) = true := by
  rw [isRentedAfterCutoff]
  cases result.rentalCreatedAt with
  | none => simp
  | some created =>
    simp only [if_pos rented, Datetime.notAfter, Option.all_some, decide_eq_true_eq]
    split <;> simp [*]

theorem succeeds_scoreInPool_iff {baseModel : String} :
    Succeeds (scoreInPool env baseModel (excludedFromBothPools env result) false result) ↔
      rentalTimeReadable env result = true := by
  rw [scoreInPool, rentalTimeReadable, Bool.not_false, Bool.and_true]
  split
  next comes =>
    have rented : result.isRented = true := by
      simp only [Bool.and_eq_true] at comes
      exact comes.1.1
    rw [succeeds_bind_return_iff, succeeds_atState_iff, succeeds_isRentedAfterCutoff_iff rented,
      comes, Bool.not_true, Bool.false_or]
  next stays =>
    rw [Bool.eq_false_iff.mpr stays, Bool.not_false, Bool.true_or]
    simp [pure, Except.pure]

theorem succeeds_scoreInPool_of_idle {baseModel : String} {excluded eligible : Bool}
    (idle : result.isRented = false) :
    Succeeds (scoreInPool env baseModel excluded eligible result) := by
  rw [scoreInPool, idle, Bool.false_and, Bool.false_and, Bool.false_and,
    if_neg Bool.false_ne_true]
  exact succeeds_ok _

/-- A result that goes on to the mining score. -/
def Mined (env : Env) (result : JobResult) : Prop :=
  result.isRented = true ∧ result.isSuccessful = true ∧ excludedFromBothPools env result = false

/-- The totals decide which rental times are compared, so readability carries over to other
totals if every mined result is compared already. -/
theorem isReadable_withDenominators {denominators : PyDict String ℕ}
    (readable : isReadable env result = true) (backed : Mined env result →
      env.totalGpuModelCountMap.getD (result.gpuModel.getD "") 0 ≠ 0) :
    isReadable (env.withDenominators denominators) result = true := by
  unfold isReadable at readable ⊢
  cases successful : result.isSuccessful with
  | false => rfl
  | true =>
    simp only [successful, Bool.not_true, Bool.false_or, Bool.and_eq_true] at readable ⊢
    refine ⟨⟨readable.1.1, ?_⟩, readable.2⟩
    have timed := readable.1.2
    rw [rentalTimeReadable, Bool.or_eq_true, Bool.not_eq_true'] at timed ⊢
    rcases timed with stays | comparable
    · left
      by_contra goes
      simp only [Bool.not_eq_false, Bool.and_eq_true, Bool.not_eq_true'] at goes
      obtain ⟨⟨rented, included⟩, comes⟩ := goes
      have counted := backed ⟨rented, successful, included⟩
      have compared : comesToCutoff env result = true := by
        rw [comesToCutoff, Bool.and_eq_true] at comes ⊢
        exact ⟨comes.1, decide_eq_true counted⟩
      have kept : excludedFromBothPools env result = false := included
      rw [rented, kept, compared] at stays
      cases stays
    · exact .inr comparable

theorem calculateExecutorScore_succeeds_iff (env : Env)
    (untouched : result.portUnpaidGpuCount = 0) (known : knownGpuModel result.gpuModel = true) :
    Succeeds (calculateExecutorScore env result) ↔
      rentalTimeReadable env result = true ∧
        (isGated env result = true → scrapeReadable env result.baseModel result = true) := by
  obtain ⟨reasons, recorded⟩ := recordExclusions_eq_withReasons env result
  simp only [calculateExecutorScore, recorded, excludedFromBothPools_recorded]
  obtain ⟨baseModel, found⟩ := (getBaseModelForGpu_ok_iff _).mpr known
  have isBase : result.baseModel = baseModel := getBaseModelForGpu_eq_ok found
  subst isBase
  have sameModel : (result.withReasons reasons).gpuModel = result.gpuModel := rfl
  have samePath : onSpotPayPath (result.withReasons reasons) = onSpotPayPath result := rfl
  rw [sameModel, samePath, known, found, Bool.not_true, Bool.and_false, if_neg Bool.false_ne_true]
  have idleReadable (idle : result.isRented = false) : rentalTimeReadable env result = true := by
    simp [rentalTimeReadable, idle]
  by_cases pathOnly : onSpotPayPath result && !env.settings.spotIdlePaySecureDecisionEnabled
  · have idle : result.isRented = false := by
      simp only [onSpotPayPath, Bool.and_eq_true, Bool.not_eq_true'] at pathOnly
      exact pathOnly.1.1.2
    simp [pathOnly, isGated, idleReadable idle]
  · rw [if_neg pathOnly]
    have gated : isGated env result = isIdlePoolCandidate env result.baseModel result := by
      simp [isGated, Bool.eq_false_iff.mpr pathOnly]
    rw [gated]
    change Succeeds (runIdlePoolGates env result.baseModel
      { result := result.withReasons reasons
        idlePoolCandidate := isIdlePoolCandidate env result.baseModel result
        eligible := isIdlePoolCandidate env result.baseModel result &&
          !excludedFromBothPools env result } >>= _) ↔ _
    rw [succeeds_bind_iff]
    cases candidate : isIdlePoolCandidate env result.baseModel result with
    | false =>
      rw [runIdlePoolGates_of_not_candidate env _ rfl
        (Bool.false_and !excludedFromBothPools env result)]
      simp only [Except.ok.injEq, exists_eq_left', Bool.false_eq_true, false_imp_iff, and_true]
      exact @succeeds_scoreInPool_iff (result.withReasons reasons) env result.baseModel
    | true =>
      have idle : result.isRented = false := by
        simp only [isIdlePoolCandidate, Bool.and_eq_true, Bool.not_eq_true'] at candidate
        exact candidate.1.1
      rw [idleReadable idle, eq_self, true_and, true_imp_iff]
      have gates : Succeeds (runIdlePoolGates env result.baseModel
          ⟨result.withReasons reasons, true, true && !excludedFromBothPools env result⟩) ↔
          scrapeReadable env result.baseModel result = true :=
        runIdlePoolGates_succeeds_iff env result.baseModel untouched rfl
      rw [← gates]
      refine exists_congr fun state => and_iff_left_of_imp fun returned => ?_
      have passed := (runIdlePoolGates_gated env _ _ untouched).of_ok returned
      obtain ⟨more, blocked⟩ := recordBlockedReasons_eq_withReasons env state
      apply succeeds_scoreInPool_of_idle
      rw [blocked, ← passed.frame]
      exact idle

end Scoring

namespace RentalPrice

open Raising Scoring

theorem prepareJobResult_succeeds_iff (env : Env) (unscored : Unscored result) :
    Succeeds (prepareJobResult env result) ↔ isReadable env result = true := by
  obtain ⟨reasons, outdated⟩ := recordOutdatedImageReason_eq_withReasons env result
  have same : isReadable env result = isReadable env (result.withReasons reasons) := rfl
  have unscored : Unscored (result.withReasons reasons) := unscored.withReasons reasons
  rw [same, prepareJobResult, outdated]
  generalize result.withReasons reasons = result at unscored ⊢
  unfold isReadable
  cases successful : result.isSuccessful with
  | false => simp
  | true =>
    simp only [Bool.not_true, Bool.false_eq_true, if_false, Bool.false_or, Bool.and_eq_true]
    have priced : ∀ {scored : JobResult}, calculateExecutorScore env result = .ok scored →
        (Succeeds (getBaseModelForGpu (recordValidationFailedReason scored).gpuModel) ↔
          knownGpuModel result.gpuModel = true) := by
      intro scored returned
      have frame := ((calculateExecutorScore_preparedPooled env unscored).of_ok returned).1.frame
      have sameModel : (recordValidationFailedReason scored).gpuModel = result.gpuModel := by
        obtain ⟨more, noted⟩ := recordValidationFailedReason_eq_withReasons scored
        rw [noted, ← frame]
        rfl
      rw [sameModel]
      exact getBaseModelForGpu_ok_iff _
    rw [succeeds_bind_iff]
    simp only [succeeds_bind_return_iff, succeeds_atState_iff]
    constructor
    · rintro ⟨scored, returned, found⟩
      have known := (priced returned).mp found
      have readable := (calculateExecutorScore_succeeds_iff env unscored.unpaid known).mp
        ⟨scored, returned⟩
      refine ⟨⟨known, readable.1⟩, ?_⟩
      cases gated : isGated env result with
      | false => rfl
      | true => exact readable.2 gated
    · rintro ⟨⟨known, timed⟩, readable⟩
      obtain ⟨scored, returned⟩ :=
        (calculateExecutorScore_succeeds_iff env unscored.unpaid known).mpr ⟨timed, by
          intro gated
          rw [gated] at readable
          exact readable⟩
      exact ⟨scored, returned, (priced returned).mpr known⟩

/-! ## The run -/

theorem completes_iff (env : Env) (fleet : Fleet) :
    Completes env fleet ↔ ∀ item ∈ fleet.scored,
      isReadable env (markHotkeyExcluded env item.1 (fleet.portion item.2)) = true := by
  apply forall₂_congr
  intro item member
  exact prepareJobResult_succeeds_iff env (portion_unscored env fleet item.1 item.2)

theorem calculateMiningScores_succeeds_iff (env : Env) (fleet : Fleet) :
    Succeeds (calculateMiningScores env fleet) ↔ ∀ item ∈ fleet.scored,
      isReadable env (markHotkeyExcluded env item.1 (fleet.portion item.2)) = true := by
  simp only [Succeeds, calculateMiningScores_eq_ok_iff, exists_and_left, exists_eq,
    and_true, completes_iff]

end RentalPrice

/-! ## A small cycle -/

namespace Sample

def runtime : PyRuntime where
  floatOfText := fun _ => none
  intOfHexText := fun _ => none
  intOfText := Text.numeral
  intOfText_toString := Text.numeral_toString
  textOf := fun _ => ""
  split := fun _ text => [text]
  strip := id
  lower := id

def portion : Portion := ⟨1 / 2, by norm_num, by norm_num⟩

def gpuModel : String := "NVIDIA H100 80GB HBM3"

def config : IncentiveConfig where
  rentalIncentiveGpuTypes := ["H100"]
  maxUnrentedGpus := .ofList [("H100", .ofList [(8, 16), (2, 8)])]
  rentalPricesPerHour := .ofList [(gpuModel, 2)]
  gpuCountCustomPrices := .ofList [("*", .ofList [("*", .defaultPrice 1)])]

def env : Env where
  runtime := runtime
  config := config
  settings :=
    { discordIncentiveCutoff := 0
      sysboxRentedCutoff := ⟨0, false⟩
      minDriverCutoff := 0
      portionForUptime := portion
      uptimeRequiredMinutes := 60
      uptimeRequiredPositive := by norm_num
      portionForSysbox := portion
      portionForSysboxUnrented := portion
      portionForSysboxRented := portion }
  shared := { machinePricesP90 := .empty, softLimitPriceRate := 1, totalBurnEmission := 9 / 10 }
  redis :=
    { portionPerGpuType := fun _ => 1
      executorUptime := fun _ => 60
      gpuPowerCapReverts := fun _ => [] }
  prices := { taoPrice := some 300, alphaRate := some 1 }
  now := 0
  totalGpuModelCountMap := .ofList [(gpuModel, 24)]

def executor (uuid : String) : ExecutorSSHInfo where
  uuid := uuid
  address := ""
  port := 0
  sshPort := 0

def idle : ValidatedNode where
  executorInfo := executor "idle"
  score := 1
  jobScore := 1
  gpuModel := some gpuModel
  gpuCount := 8
  sysboxRuntime := true

def rented : ValidatedNode :=
  { idle with executorInfo := executor "rented", isRented := true }

def split : ValidatedNode :=
  { idle with
    executorInfo := executor "split"
    isRented := true
    supportsGpuSplitting := true
    gpuSplittingMinCount := some 2
    rentedGpuCount := some 4 }

def spot : ValidatedNode :=
  { idle with
    executorInfo := executor "spot"
    isSpot := true
    isOnSpotPayList := true
    hasLiumFiller := true
    fillerRevenuePerGpuHour := some 1
    fillerRevenueUsdPerHour := some 4 }

def fleet : Fleet :=
  .ofMiner "miner" 4 fun id =>
    match id with
    | 0 => idle
    | 1 => rented
    | 2 => split
    | _ => spot

end Sample

end Lium
