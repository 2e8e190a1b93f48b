import Lium.Foundation.Purge
import Lium.Validator.RentalProbe

/-! # Another miner's cycles under the same UUID

Executor UUIDs are what miners report. Cycles of several miners on one UUID take turns on the
same Redis, and the records of the probe and of the hardware identity do not say whose they are.
-/

namespace Lium.RentalProbe

structure Cycle where
  minerHotkey : String
  hardware : HardwareAnswers
  probeReached : Bool
  probe : ProbeAnswers
deriving DecidableEq, Repr

structure Verdicts where
  hardwarePassed : Bool
  probe : Option ProbeResult
deriving DecidableEq, Repr

/-- The hardware identity first. A finding ends the cycle, unless a renter's pod is live. -/
def Cycle.exec (settings : Settings) (executorUuid : String) (cycle : Cycle) (redis : Redis) :
    Verdicts × Redis :=
  let ctx : Ctx := ⟨cycle.minerHotkey, executorUuid⟩
  let identity := checkHardwareIdentity ctx cycle.hardware redis
  let passed := identity.1.isEmpty
  if (passed || cycle.hardware.hasLiveRental) && cycle.probeReached then
    let probed := run settings ctx cycle.probe identity.2
    (⟨passed, some probed.1⟩, probed.2)
  else (⟨passed, none⟩, identity.2)

def cyclesOn (settings : Settings) (executorUuid : String) :
    Turns String Cycle Redis Verdicts where
  agent := Cycle.minerHotkey
  exec := Cycle.exec settings executorUuid

/-! ## What a cycle leaves in Redis -/

section Writes

variable {settings : Settings} {ctx : Ctx} {redis : Redis}

/-- The identity record is written whatever Redis holds. -/
def HardwareAnswers.RecordsIdentity (answers : HardwareAnswers) : Prop :=
  answers.gpus ≠ [] ∧ answers.dmiIdentity ≠ "" ∧ answers.overlays = []

/-- A node that stays idle, with the time that a standing failure needs and a probe that passes or
fails. -/
structure ProbeAnswers.Conclusive (answers : ProbeAnswers) : Prop where
  free : answers.rented = false ∧ answers.portCheckDeferred = false
  time : 270 ≤ answers.taskSecondsLeft ∧ 60 ≤ answers.createDeadline
  input : answers.missingInput = false ∧ answers.hasDefaultImage = true ∧
    answers.imagePresent = some true
  locked : answers.createLock = some true ∧ answers.busyNow = some .idle ∧
    answers.rereadOverran = false
  verdict : answers.outcome = .ok ∨
    answers.rentedMeanwhile = some .untouched ∧ ∃ failure, answers.outcome = .failed failure

def Cycle.Probes (cycle : Cycle) : Prop :=
  (cycle.hardware.findings none = [] ∨ cycle.hardware.hasLiveRental = true) ∧
    cycle.probeReached = true ∧ cycle.probe.Conclusive

theorem mayProbe_eq_none {answers : ProbeAnswers} {standing : Option Failure} :
    mayProbe settings ctx answers redis standing = none ↔
      skipReason settings ctx answers redis standing = none ∧
      (answers.missingInput = false ∧ answers.hasDefaultImage = true ∧
        answers.imagePresent = some true) ∧
      answers.createLock = some true ∧ answers.busyNow = some .idle ∧
        answers.rereadOverran = false := by
  rw [mayProbe]
  cases skipReason settings ctx answers redis standing with
  | some reason => cases reason <;> simp
  | none =>
    cases answers.missingInput <;> cases answers.hasDefaultImage <;> simp
    rcases answers.imagePresent with _ | _ | _ <;> rcases answers.createLock with _ | _ | _ <;>
      simp [idleUnderLock]
    rcases answers.busyNow with _ | _ | _ | _ <;> simp

/-- A probe that leaves something in Redis was conclusive. -/
theorem conclusive_of_run {answers : ProbeAnswers}
    (writes : (run settings ctx answers redis).2 ≠ redis) : answers.Conclusive := by
  rw [run] at writes
  cases may : mayProbe settings ctx answers redis (standingFailure settings ctx redis) with
  | some result => simp [may] at writes
  | none =>
    rcases mayProbe_eq_none.mp may with ⟨free, input, locked⟩
    rw [skipReason] at free
    split_ifs at free with rented deferred late
    have time : 270 ≤ answers.taskSecondsLeft := by
      rw [minTaskSecondsLeft] at late
      split_ifs at late <;> omega
    rw [may] at writes
    dsimp only at writes
    split_ifs at writes with short
    · exact absurd rfl writes
    · refine ⟨⟨by simpa using rented, by simpa using deferred⟩, ⟨time, not_lt.mp short⟩, input,
        locked, ?_⟩
      cases outcome : answers.outcome with
      | ok => exact .inl rfl
      | inconclusive reason => simp [outcome] at writes
      | failed failure =>
        refine .inr ⟨?_, failure, rfl⟩
        rcases meanwhile : answers.rentedMeanwhile with _ | _ | _ | _ <;>
          simp [outcome, meanwhile] at writes ⊢

/-- A cycle that neither records an identity nor ends a probe leaves Redis as it is. -/
theorem exec_of_silent {executorUuid : String} {cycle : Cycle}
    (records : ¬ cycle.hardware.RecordsIdentity) (probes : ¬ cycle.Probes) (redis : Redis) :
    (cycle.exec settings executorUuid redis).2 = redis := by
  have unrecorded : (checkHardwareIdentity ⟨cycle.minerHotkey, executorUuid⟩ cycle.hardware
      redis).2 = redis := if_neg records
  rw [Cycle.exec]
  dsimp only
  rw [unrecorded]
  split_ifs with reached
  · by_contra writes
    rw [Bool.and_eq_true, Bool.or_eq_true, List.isEmpty_iff] at reached
    refine probes ⟨reached.1.imp_left fun passed => ?_, reached.2, conclusive_of_run writes⟩
    -- without a record there is no drift, and the other findings do not depend on it
    rw [checkHardwareIdentity, HardwareAnswers.findings, List.append_eq_nil_iff] at passed
    rw [HardwareAnswers.findings, passed.1]
    rfl
  · rfl

end Writes

/-! ## What the miner notices -/

namespace Sample

def settings : Settings := ⟨6, by decide, false⟩

def host (now : ℕ) (gpu dmi : String) : HardwareAnswers where
  now := now
  reported := [gpu]
  kernel := some [gpu]
  hasSsh := true
  overlays := []
  dmiIdentity := dmi
  hostKernel := []
  hasLiveRental := false

def idle (now : ℕ) (outcome : ProbeOutcome) : ProbeAnswers where
  now := now
  rented := false
  portCheckDeferred := false
  taskSecondsLeft := 600
  missingInput := false
  hasDefaultImage := true
  imagePresent := some true
  createLock := some true
  busyNow := some .idle
  rereadOverran := false
  createDeadline := 300
  outcome := outcome
  rentedMeanwhile := some .untouched
  doneAt := now

def unpulled (now : ℕ) : ProbeAnswers := { idle now .ok with imagePresent := some false }

def probing (miner : String) (answers : ProbeAnswers) : Cycle where
  minerHotkey := miner
  hardware := host answers.now "GPU-0" ""
  probeReached := true
  probe := answers

def showing (miner : String) (now : ℕ) (gpu dmi : String) : Cycle where
  minerHotkey := miner
  hardware := host now gpu dmi
  probeReached := false
  probe := idle now .ok

def stamped : List Cycle := [probing "B" (idle 0 .ok), probing "A" (idle 900 .ok)]

def failing : List Cycle :=
  [probing "B" (idle 0 (.failed ⟨.sshdListen, none⟩)),
    probing "A" (unpulled 900)]

def overwritten : List Cycle :=
  [showing "A" 0 "GPU-0" "board-1|", showing "B" 900 "GPU-1" "board-2|",
    showing "A" 1800 "GPU-0" "board-3|"]

end Sample

theorem replayed_uuid_changes_verdicts :
    ((cyclesOn Sample.settings "node").answers "A" Redis.empty Sample.stamped =
        [⟨true, some (.noVerdict (.skipped .withinInterval))⟩] ∧
      (cyclesOn Sample.settings "node").answers "A" Redis.empty
        ((cyclesOn Sample.settings "node").purge "A" Sample.stamped) =
          [⟨true, some .ok⟩]) ∧
    ((cyclesOn Sample.settings "node").answers "A" Redis.empty Sample.failing =
        [⟨true, some (.carried ⟨.sshdListen, none⟩ (.skipped .imageNotPulled))⟩] ∧
      (cyclesOn Sample.settings "node").answers "A" Redis.empty
        ((cyclesOn Sample.settings "node").purge "A" Sample.failing) =
          [⟨true, some (.noVerdict (.skipped .imageNotPulled))⟩]) ∧
    ((cyclesOn Sample.settings "node").answers "A" Redis.empty Sample.overwritten =
        [⟨true, none⟩, ⟨true, none⟩] ∧
      (cyclesOn Sample.settings "node").answers "A" Redis.empty
        ((cyclesOn Sample.settings "node").purge "A" Sample.overwritten) =
          [⟨true, none⟩, ⟨false, none⟩]) := by
  decide +kernel

section Notices

variable {settings : Settings} {executorUuid : String} {cycle : Cycle}

theorem run_identity (ctx : Ctx) (answers : ProbeAnswers) (redis : Redis) :
    (run settings ctx answers redis).2.identity = redis.identity := by
  fun_cases RentalProbe.run settings ctx answers redis <;> rfl

/-- The record is left under the key of every miner on the UUID. -/
theorem exec_identity (records : cycle.hardware.RecordsIdentity) (miner : String) :
    (cycle.exec settings executorUuid Redis.empty).2.identity
      (identityKey ⟨miner, executorUuid⟩) = some
        (⟨cycle.hardware.gpus, cycle.hardware.dmiIdentity⟩, cycle.hardware.now + recordTtl) := by
  have written : (checkHardwareIdentity ⟨cycle.minerHotkey, executorUuid⟩ cycle.hardware
      Redis.empty).2.identity (identityKey ⟨miner, executorUuid⟩) = some
        (⟨cycle.hardware.gpus, cycle.hardware.dmiIdentity⟩, cycle.hardware.now + recordTtl) := by
    rw [checkHardwareIdentity]
    dsimp only
    rw [if_pos ⟨records.1, records.2.1, records.2.2⟩]
    exact Function.update_self ..
  rw [Cycle.exec]
  dsimp only
  split
  · rw [run_identity, written]
  · exact written

/-- The next identity on the same GPUs, read at the same time, is found to have changed. -/
theorem identity_noticed {miner : String} (other : cycle.minerHotkey ≠ miner)
    (records : cycle.hardware.RecordsIdentity) :
    ∃ own : Cycle, own.minerHotkey = miner ∧
      ¬ (cyclesOn settings executorUuid).Undisturbed miner Redis.empty [cycle, own] := by
  have kept := @exec_identity settings executorUuid cycle records miner
  rcases records with ⟨gpus, dmi, overlays⟩
  obtain ⟨board, known, changed⟩ :
      ∃ board : String, board ≠ "" ∧ cycle.hardware.dmiIdentity ≠ board := by
    by_cases same : cycle.hardware.dmiIdentity = "board-1|"
    · exact ⟨"board-2|", by decide, by rw [same]; decide⟩
    · exact ⟨"board-1|", by decide, same⟩
  let hardware : HardwareAnswers := { cycle.hardware with
    dmiIdentity := board, hasSsh := true, hostKernel := cycle.hardware.reported }
  have agree : gpuSourcesDisagree (sortedSet hardware.reported)
      (hardware.hostKernelSet.or hardware.kernelSet) = false := by
    rw [HardwareAnswers.hostKernelSet]
    split_ifs with disagree
    · simp [gpuSourcesDisagree, hardware]
    · simp only [Bool.and_eq_true, not_and, Bool.not_eq_true] at disagree
      rw [Option.none_or, ← Bool.not_eq_true]
      intro differ
      have empty : hardware.reported = [] := by simpa [hardware] using disagree ⟨differ, rfl⟩
      rw [empty, gpuSourcesDisagree, show sortedSet [] = [] from rfl] at differ
      simp at differ
  have passed (redis : Redis) : ((Cycle.mk miner hardware false cycle.probe).exec settings
      executorUuid redis).1.hardwarePassed = !dmiIdentityDrifted
        (((redis.identity (identityKey ⟨miner, executorUuid⟩)).expire hardware.now).map Prod.fst)
        hardware.gpus board := by
    simp only [Cycle.exec, checkHardwareIdentity, HardwareAnswers.findings, agree, Bool.and_false,
      Bool.false_eq_true, if_false]
    simp [hardware, overlays, apply_ite List.isEmpty]
  refine ⟨⟨miner, hardware, false, cycle.probe⟩, rfl, fun undisturbed => ?_⟩
  simp only [Turns.Undisturbed, Turns.purge, Turns.answers, cyclesOn, List.filter_cons, other,
    decide_true, decide_false, Bool.false_eq_true, if_true, if_false, List.filter_nil,
    List.cons.injEq, and_true] at undisturbed
  have verdict := congrArg Verdicts.hardwarePassed undisturbed
  have drifted : dmiIdentityDrifted (some ⟨cycle.hardware.gpus, cycle.hardware.dmiIdentity⟩)
      hardware.gpus board = true := by
    have same : hardware.gpus = cycle.hardware.gpus := rfl
    simp [dmiIdentityDrifted, same, known, dmi, changed]
  have live : cycle.hardware.now < cycle.hardware.now + recordTtl :=
    Nat.lt_add_of_pos_right (by decide)
  rw [passed, passed, kept, ExpiringKey.expire, Option.filter_some, if_pos (decide_eq_true live),
    Option.map_some, drifted] at verdict
  exact Bool.false_ne_true verdict

theorem exec_probing (miner : String) (answers : ProbeAnswers) (redis : Redis) :
    (Sample.probing miner answers).exec settings executorUuid redis =
      (⟨true, some (run settings ⟨miner, executorUuid⟩ answers redis).1⟩,
        (run settings ⟨miner, executorUuid⟩ answers redis).2) := by
  have identity : checkHardwareIdentity ⟨miner, executorUuid⟩ (Sample.host answers.now "GPU-0" "")
      redis = ([], redis) := by
    have drifted (previous : Option Identity) (gpus : List String) :
        dmiIdentityDrifted previous gpus "" = false := by
      simp [dmiIdentityDrifted]
    rw [checkHardwareIdentity, HardwareAnswers.findings, Sample.host, drifted]
    rfl
  rw [Cycle.exec, Sample.probing, identity]
  rfl

/-- Without its image a cycle has only the standing failure to tell. -/
theorem run_unpulled (settings : Settings) (ctx : Ctx) (redis : Redis) : ∃ reason,
    (run settings ctx (Sample.unpulled 0) redis).1 =
      withoutVerdict (standingFailure settings ctx redis) (.skipped reason) := by
  rw [run, mayProbe]
  cases skip : skipReason settings ctx (Sample.unpulled 0) redis
      (standingFailure settings ctx redis) with
  | none => exact ⟨.imageNotPulled, rfl⟩
  | some reason =>
    have free : reason ≠ .rented := by
      rintro rfl
      rw [skipReason, if_neg (by decide)] at skip
      split_ifs at skip <;> cases skip
    refine ⟨reason, ?_⟩
    cases reason <;> first | rfl | exact absurd rfl free

theorem standing_of_stampFailure {ctx : Ctx} {step : Step} (stands : step ≠ .egress) :
    standingFailure settings ctx (stampFailure ctx Redis.empty ⟨step, none⟩) =
      some ⟨step, none⟩ := by
  simp [standingFailure, stampFailure, stands]

theorem standing_replaced {ctx : Ctx} {step : Step} (stands : step ≠ .egress)
    {answers : ProbeAnswers} (conclusive : answers.Conclusive)
    (differs : ∀ failure, answers.outcome = .failed failure → failure.step ≠ step) :
    standingFailure settings ctx (run settings ctx answers
      (stampFailure ctx Redis.empty ⟨step, none⟩)).2 ≠ some ⟨step, none⟩ := by
  have may : mayProbe settings ctx answers (stampFailure ctx Redis.empty ⟨step, none⟩)
      (some ⟨step, none⟩) = none := by
    refine mayProbe_eq_none.mpr ⟨?_, conclusive.input, conclusive.locked⟩
    have never : lastOkAt ctx answers (stampFailure ctx Redis.empty ⟨step, none⟩) = none := by
      simp [lastOkAt, stampFailure, ExpiringKey.expire]
    simp [skipReason, conclusive.free, never, minTaskSecondsLeft, conclusive.time.1]
  rw [run]
  simp only [standing_of_stampFailure stands, may, if_neg (not_lt.mpr conclusive.time.2)]
  rcases conclusive.verdict with passes | ⟨untouched, failure, fails⟩
  · simp [passes, stampPass, standingFailure]
  · have changed := differs failure fails
    simp only [fails, untouched, stampFailure, standingFailure, Function.update_self]
    intro same
    exact changed (congrArg Failure.step (Option.some_inj.mp (Option.filter_eq_some_iff.mp same).1))

/-- A failure that the miner's own probe left is replaced or cleared. -/
theorem probe_noticed {miner : String} (other : cycle.minerHotkey ≠ miner)
    (records : ¬ cycle.hardware.RecordsIdentity) (probes : cycle.Probes) :
    ∃ first last : Cycle, first.minerHotkey = miner ∧ last.minerHotkey = miner ∧
      ¬ (cyclesOn settings executorUuid).Undisturbed miner Redis.empty [first, cycle, last] := by
  rcases probes with ⟨passed, reached, conclusive⟩
  obtain ⟨step, stands, differs⟩ : ∃ step : Step, step ≠ .egress ∧
      ∀ failure, cycle.probe.outcome = .failed failure → failure.step ≠ step := by
    by_cases same : ∃ failure, cycle.probe.outcome = .failed failure ∧ failure.step = .sshLogin
    · rcases same with ⟨failure, outcome, login⟩
      refine ⟨.gpuCount, by decide, fun found known => ?_⟩
      rw [outcome, ProbeOutcome.failed.injEq] at known
      rw [← known, login]
      decide
    · exact ⟨.sshLogin, by decide, fun failure outcome login => same ⟨failure, outcome, login⟩⟩
  let left := stampFailure ⟨miner, executorUuid⟩ Redis.empty ⟨step, none⟩
  have first : (run settings ⟨miner, executorUuid⟩ (Sample.idle 0 (.failed ⟨step, none⟩))
    Redis.empty).2 = left := rfl
  have standing : standingFailure settings ⟨miner, executorUuid⟩ left = some ⟨step, none⟩ :=
    standing_of_stampFailure stands
  have second : (cycle.exec settings executorUuid left).2 =
      (run settings ⟨cycle.minerHotkey, executorUuid⟩ cycle.probe left).2 := by
    have unrecorded : checkHardwareIdentity ⟨cycle.minerHotkey, executorUuid⟩ cycle.hardware left =
        (cycle.hardware.findings none, left) := Prod.ext rfl (if_neg records)
    rw [Cycle.exec, unrecorded]
    dsimp only
    rw [if_pos (by simpa [reached] using passed)]
  have replaced : standingFailure settings ⟨miner, executorUuid⟩
      (cycle.exec settings executorUuid left).2 ≠ some ⟨step, none⟩ := by
    -- the keys do not say whose the records are
    have shared : standingFailure settings ⟨cycle.minerHotkey, executorUuid⟩ _ ≠ _ :=
      standing_replaced stands conclusive differs
    rw [second]
    exact shared
  refine ⟨Sample.probing miner (Sample.idle 0 (.failed ⟨step, none⟩)),
    Sample.probing miner (Sample.unpulled 0), rfl, rfl, fun undisturbed => ?_⟩
  have hotkey (answers : ProbeAnswers) : (Sample.probing miner answers).minerHotkey = miner := rfl
  simp only [Turns.Undisturbed, Turns.purge, Turns.answers, cyclesOn, List.filter_cons, other,
    hotkey, decide_true, decide_false, Bool.false_eq_true, if_true, if_false, List.filter_nil,
    List.cons.injEq, true_and, and_true, exec_probing, Verdicts.mk.injEq, Option.some_inj,
    first] at undisturbed
  rcases run_unpulled settings ⟨miner, executorUuid⟩
    (cycle.exec settings executorUuid left).2 with ⟨_, shared⟩
  rcases run_unpulled settings ⟨miner, executorUuid⟩ left with ⟨_, alone⟩
  rw [shared, alone, standing] at undisturbed
  cases found : standingFailure settings ⟨miner, executorUuid⟩
      (cycle.exec settings executorUuid left).2 with
  | none =>
    rw [found] at undisturbed
    cases undisturbed
  | some failure =>
    rw [found] at undisturbed
    cases undisturbed
    exact replaced found

end Notices

/-- Whatever cycles other miners may run on its UUID, a miner's verdicts are those it gets alone
exactly if none of them can be read to an identity record and none ends a probe. -/
theorem undisturbed_iff_no_shared_record (settings : Settings) (executorUuid miner : String)
    (allowed : Cycle → Prop) :
    (∀ schedule : List Cycle,
      (∀ cycle ∈ schedule, cycle.minerHotkey ≠ miner → allowed cycle) →
      (cyclesOn settings executorUuid).Undisturbed miner Redis.empty schedule) ↔
    ∀ cycle, cycle.minerHotkey ≠ miner → allowed cycle →
      ¬ cycle.hardware.RecordsIdentity ∧ ¬ cycle.Probes := by
  constructor
  · intro undisturbed cycle other allows
    have silent : ¬ cycle.hardware.RecordsIdentity := by
      intro records
      rcases identity_noticed other records with ⟨own, rfl, disturbed⟩
      exact disturbed (undisturbed _ (by simp [allows]))
    refine ⟨silent, fun probes => ?_⟩
    rcases probe_noticed other silent probes with ⟨first, last, rfl, same, disturbed⟩
    exact disturbed (undisturbed _ (by simp [allows, same]))
  · intro silent schedule within
    refine Turns.undisturbed_of_others_idle fun cycle listed other => ?_
    have quiet := silent cycle other (within cycle listed other)
    exact exec_of_silent quiet.1 quiet.2

end Lium.RentalProbe
