import Lium.Validator.Availability
import Lium.Validator.SettleAppend

/-! # Early publishing does not change who is hidden

Against a backend that agrees with what the last cycle published, the cycle's own publish ends with
the same executors hidden whether or not the early specs went out.
-/

namespace Lium.Availability

open DuplicateExecutor

variable {answers : List MinerJob} {tally : RunningOutageTally} {id : ℕ} {runtime : PyRuntime}
  {results : Results}

def uuidOf (results : Results) (id : ℕ) : String := (results id).executorInfo.uuid

def cycleTally (runtime : PyRuntime) (jobBatchId : String)
    (rentedExecutors : List (String × String)) : RunningOutageTally where
  jobBatchId := jobBatchId
  rentedExecutorIds := rentedExecutors.map fun rented => runtime.lower rented.1

/-! ## What a wave publishes -/

def sentEarly (runtime : PyRuntime) (results : Results) :
    RunningOutageTally → List MinerJob → List ℕ
  | _, [] => []
  | tally, job :: rest =>
    (if job.hasColdkey then (tally.add runtime results job.results).2 else []) ++
      sentEarly runtime results (tally.count results job.results) rest

def countAll (results : Results) (tally : RunningOutageTally) (answers : List MinerJob) :
    RunningOutageTally :=
  answers.foldl (fun tally job => tally.count results job.results) tally

theorem sentEarly_publishedEarly (tally : RunningOutageTally) (uuids : List String)
    (answers : List MinerJob) :
    sentEarly runtime results { tally with publishedEarly := uuids } answers =
      sentEarly runtime results tally answers := by
  induction answers generalizing tally with
  | nil => rfl
  | cons job rest induction =>
    exact congrArg (_ ++ ·) (induction (tally.count results job.results))

theorem countAll_publishedEarly (tally : RunningOutageTally) (uuids : List String)
    (answers : List MinerJob) :
    countAll results { tally with publishedEarly := uuids } answers =
      { countAll results tally answers with publishedEarly := uuids } := by
  induction answers generalizing tally with
  | nil => rfl
  | cons job rest induction => exact induction (tally.count results job.results)

theorem publishMachineSpecs_nil (publisher : Publisher) :
    publishMachineSpecs runtime results [] false publisher = publisher := by
  simp [publishMachineSpecs]

theorem publishMachineSpecs_append (first second : List ℕ) (publisher : Publisher) :
    publishMachineSpecs runtime results (first ++ second) false publisher =
      publishMachineSpecs runtime results second false
        (publishMachineSpecs runtime results first false publisher) := by
  simp [publishMachineSpecs]

theorem publishUnreachableEarly_eq (tally : RunningOutageTally) (publisher : Publisher)
    (job : MinerJob) :
    let early := if job.hasColdkey then (tally.add runtime results job.results).2 else []
    publishUnreachableEarly runtime results ⟨some tally, publisher⟩ job =
      ⟨some { tally.count results job.results with
          publishedEarly := tally.publishedEarly ++ early.map (uuidOf results) },
        publishMachineSpecs runtime results early false publisher⟩ := by
  intro early
  have counted : (tally.count results job.results).publishedEarly = tally.publishedEarly := rfl
  have silent : ∀ sent : List ℕ, sent = [] →
      ({ outageTally := some (tally.count results job.results), publisher } : WaveState) =
        ⟨some { tally.count results job.results with
          publishedEarly := tally.publishedEarly ++ sent.map (uuidOf results) },
          publishMachineSpecs runtime results sent false publisher⟩ := by
    rintro sent rfl
    rw [publishMachineSpecs_nil, List.map_nil, List.append_nil, ← counted]
  simp only [publishUnreachableEarly]
  cases coldkey : job.hasColdkey with
  | false =>
    rw [Bool.not_false, Bool.or_true, if_pos rfl]
    exact silent early (by simp only [early, coldkey, Bool.false_eq_true, if_false])
  | true =>
    have sent : early = (tally.add runtime results job.results).2 := by
      simp only [early, coldkey, if_true]
    rw [Bool.not_true, Bool.or_false, ← sent]
    by_cases none : early = []
    · rw [if_pos (List.isEmpty_iff.mpr none)]
      exact silent early none
    · rw [if_neg (mt List.isEmpty_iff.mp none)]
      rfl

theorem runWave_eq (tally : RunningOutageTally) (publisher : Publisher)
    (answers : List MinerJob) :
    runWave runtime results answers ⟨some tally, publisher⟩ =
      ⟨some { countAll results tally answers with
          publishedEarly := tally.publishedEarly ++
            (sentEarly runtime results tally answers).map (uuidOf results) },
        publishMachineSpecs runtime results (sentEarly runtime results tally answers) false
          publisher⟩ := by
  induction answers generalizing tally publisher with
  | nil =>
    rw [sentEarly, publishMachineSpecs_nil, List.map_nil, List.append_nil]
    rfl
  | cons job rest induction =>
    rw [runWave, List.foldl_cons, publishUnreachableEarly_eq]
    refine (induction _ _).trans ?_
    rw [sentEarly_publishedEarly, countAll_publishedEarly, sentEarly, List.map_append,
      ← List.append_assoc, publishMachineSpecs_append]
    rfl

theorem runWave_none (publisher : Publisher) (answers : List MinerJob) :
    runWave runtime results answers ⟨none, publisher⟩ = ⟨none, publisher⟩ := by
  induction answers with
  | nil => rfl
  | cons job rest induction => exact induction

/-- A spec goes out early with the answer it came in, if the share counted up to and with that
answer is trusted. -/
structure GoesEarly (runtime : PyRuntime) (results : Results) (tally : RunningOutageTally)
    (before : List MinerJob) (job : MinerJob) (id : ℕ) : Prop where
  listed : id ∈ job.results
  coldkey : job.hasColdkey = true
  trusted : (countAll results tally (before ++ [job])).trusted = true
  batch : (results id).jobBatchId = tally.jobBatchId
  checked : isTheValidatorsOwnReading (results id) = true
  allowed : mayGoEarly runtime tally.rentedExecutorIds (results id) = true

theorem mem_add_early {job : MinerJob} :
    id ∈ (if job.hasColdkey then (tally.add runtime results job.results).2 else []) ↔
      GoesEarly runtime results tally [] job id := by
  simp only [RunningOutageTally.add, List.mem_ite_nil_right, checkedAndUnreachable,
    RunningOutageTally.ofThisBatch, List.mem_filter, decide_eq_true_eq]
  constructor
  · rintro ⟨coldkey, trusted, ⟨⟨listed, batch⟩, checked⟩, allowed⟩
    exact ⟨listed, coldkey, trusted, batch, checked, allowed⟩
  · rintro ⟨listed, coldkey, trusted, batch, checked, allowed⟩
    exact ⟨coldkey, trusted, ⟨⟨listed, batch⟩, checked⟩, allowed⟩

theorem mem_sentEarly :
    id ∈ sentEarly runtime results tally answers ↔
      ∃ before job after, answers = before ++ job :: after ∧
        GoesEarly runtime results tally before job id := by
  induction answers generalizing tally with
  | nil => simp [sentEarly]
  | cons first rest induction =>
    rw [sentEarly, List.mem_append, mem_add_early, induction]
    constructor
    · rintro (early | ⟨before, job, after, rfl, early⟩)
      · exact ⟨[], first, rest, rfl, early⟩
      · exact ⟨first :: before, job, after, rfl, { early with }⟩
    · rintro ⟨before, job, after, split, early⟩
      cases before with
      | nil =>
        cases split
        exact .inl early
      | cons head before =>
        cases split
        exact .inr ⟨before, job, after, rfl, { early with }⟩

/-! ## What the cycle publishes -/

def cycleSpecs (results : Results) (jobs : List MinerJob) : List ℕ :=
  jobs.flatMap fun job => if job.hasColdkey then specsToPublish results job.results else []

theorem foldl_publishJob (jobs : List MinerJob) (publisher : Publisher) :
    (jobs.foldl (publishJob runtime results) publisher).published =
        publisher.published ++ cycleSpecs results jobs ∧
      (jobs.foldl (publishJob runtime results) publisher).stored =
        (cycleSpecs results jobs).foldl (store results) publisher.stored := by
  induction jobs generalizing publisher with
  | nil => simp [cycleSpecs]
  | cons job rest induction =>
    rcases induction (publishJob runtime results publisher job) with ⟨published, stored⟩
    have specs : cycleSpecs results (job :: rest) = _ ++ cycleSpecs results rest :=
      List.flatMap_cons
    rw [List.foldl_cons, published, stored, specs, List.foldl_append, ← List.append_assoc]
    cases coldkey : job.hasColdkey <;> simp [publishJob, publishMachineSpecs, coldkey]

variable {jobs : List MinerJob}

theorem mem_cycleSpecs :
    id ∈ cycleSpecs results jobs ↔ ∃ job ∈ jobs, job.hasColdkey = true ∧ id ∈ job.results ∧
      (results id).duplicateSharesKeptRow = false ∧
        (results id).carriedForRenterGpuReset = false := by
  simp only [cycleSpecs, List.mem_flatMap, List.mem_ite_nil_right, specsToPublish, List.mem_filter,
    Bool.and_eq_true, Bool.not_eq_true']

theorem foldl_store {ids : List ℕ} (stored : String → List AvailabilityError)
    (distinct : ∀ other ∈ ids, uuidOf results other = uuidOf results id → other = id) :
    ids.foldl (store results) stored (uuidOf results id) =
      if id ∈ ids then (results id).availabilityErrors.getD (stored (uuidOf results id))
      else stored (uuidOf results id) := by
  induction ids generalizing stored with
  | nil => rfl
  | cons head rest induction =>
    rw [List.forall_mem_cons] at distinct
    rw [List.foldl_cons, induction _ distinct.2]
    by_cases own : head = id
    · have first : store results stored head (uuidOf results id) =
          (results id).availabilityErrors.getD (stored (uuidOf results id)) := by
        rw [store, own]
        cases (results id).availabilityErrors with
        | none => rfl
        | some errors => exact Function.update_self ..
      rw [first, if_pos (List.mem_cons.mpr (.inl own.symm))]
      cases (results id).availabilityErrors <;> simp
    · have other : uuidOf results id ≠ uuidOf results head := fun same =>
        own (distinct.1 same.symm)
      have first : store results stored head (uuidOf results id) =
          stored (uuidOf results id) := by
        rw [store]
        cases (results head).availabilityErrors with
        | none => rfl
        | some errors => exact Function.update_of_ne other ..
      simp only [first, List.mem_cons, Ne.symm own, false_or]

/-! ## What the cycle reports -/

section Reported

variable {wave : WaveState} {ids : List ℕ}

theorem reportedResults_frame (id : ℕ) :
    reportedResults runtime wave results ids id =
      { results id with
        availabilityErrors := (reportedResults runtime wave results ids id).availabilityErrors }
      := by
  have silencedFrame : ∀ id, (silenceAvailabilityErrorsOnOurOwnOutage results ids).1 id =
      { results id with availabilityErrors :=
        ((silenceAvailabilityErrorsOnOurOwnOutage results ids).1 id).availabilityErrors } := by
    intro id
    simp only [silenceAvailabilityErrorsOnOurOwnOutage]
    split
    · dsimp only
      split <;> rfl
    · rfl
  simp only [reportedResults]
  cases wave.outageTally with
  | none => exact silencedFrame id
  | some tally =>
    dsimp only
    split
    · exact silencedFrame id
    · simp only [RunningOutageTally.restorePublishedEarly, RunningOutageTally.restored]
      rw [silencedFrame id]
      split
      · split
        · rfl
        · split <;> rfl
      · rfl

theorem uuidOf_reportedResults (id : ℕ) :
    uuidOf (reportedResults runtime wave results ids) id = uuidOf results id := by
  rw [uuidOf, reportedResults_frame]
  rfl

theorem cycleSpecs_reportedResults (jobs : List MinerJob) :
    cycleSpecs (reportedResults runtime wave results ids) jobs = cycleSpecs results jobs := by
  have flags : ∀ listed, specsToPublish (reportedResults runtime wave results ids) listed =
      specsToPublish results listed := by
    intro listed
    apply List.filter_congr
    intro id _
    rw [reportedResults_frame]
  simp only [cycleSpecs, flags]

def looksLikeOurOutage (results : Results) (ids : List ℕ) : Bool :=
  isOurOwnOutage (checkedAndUnreachable results ids).2.length
    (checkedAndUnreachable results ids).1.length

theorem silence_of_trusted (trusted : looksLikeOurOutage results ids = false) :
    silenceAvailabilityErrorsOnOurOwnOutage results ids = (results, 0) := by
  rw [looksLikeOurOutage] at trusted
  simp only [silenceAvailabilityErrorsOnOurOwnOutage, trusted, Bool.false_eq_true, if_false]

theorem silence_of_outage (outage : looksLikeOurOutage results ids = true) :
    (silenceAvailabilityErrorsOnOurOwnOutage results ids).2 ≠ 0 := by
  rw [looksLikeOurOutage] at outage
  simp only [silenceAvailabilityErrorsOnOurOwnOutage, outage, if_true]
  rw [isOurOwnOutage, Bool.and_eq_true, decide_eq_true_eq, smallestFleetThatCanShowAnOutage]
    at outage
  omega

theorem reportedResults_none (publisher : Publisher) :
    reportedResults runtime ⟨none, publisher⟩ results ids =
      (silenceAvailabilityErrorsOnOurOwnOutage results ids).1 := rfl

theorem silence_of_checked (outage : looksLikeOurOutage results ids = true) (listed : id ∈ ids)
    (checked : isTheValidatorsOwnReading (results id) = true) :
    (silenceAvailabilityErrorsOnOurOwnOutage results ids).1 id = silenced (results id) := by
  rw [looksLikeOurOutage] at outage
  have counted : id ∈ (checkedAndUnreachable results ids).1 :=
    List.mem_filter.mpr ⟨listed, checked⟩
  simp only [silenceAvailabilityErrorsOnOurOwnOutage, outage, if_true, counted]

variable {publisher : Publisher}

theorem reportedResults_of_trusted (trusted : looksLikeOurOutage results ids = false) :
    reportedResults runtime wave results ids = results := by
  simp only [reportedResults, silence_of_trusted trusted, if_true]
  cases wave.outageTally <;> rfl

theorem reportedResults_of_outage (outage : looksLikeOurOutage results ids = true)
    (listed : id ∈ ids) :
    reportedResults runtime ⟨some tally, publisher⟩ results ids id =
      tally.restored runtime publisher.cyclePublishedAvailability
        ((silenceAvailabilityErrorsOnOurOwnOutage results ids).1 id) := by
  simp only [reportedResults, if_neg (silence_of_outage outage),
    RunningOutageTally.restorePublishedEarly, listed, if_true]

theorem reportedResults_of_unsent (listed : id ∈ ids)
    (unsent : uuidOf results id ∉ tally.publishedEarly) :
    reportedResults runtime ⟨some tally, publisher⟩ results ids id =
      (silenceAvailabilityErrorsOnOurOwnOutage results ids).1 id := by
  cases outage : looksLikeOurOutage results ids with
  | false => rw [reportedResults_of_trusted outage, silence_of_trusted outage]
  | true =>
    rw [reportedResults_of_outage outage listed, RunningOutageTally.restored, if_pos]
    have same : uuidOf (reportedResults runtime ⟨none, publisher⟩ results ids) id =
        uuidOf results id := uuidOf_reportedResults id
    rw [reportedResults_none, uuidOf] at same
    rwa [same]

end Reported

/-! ## Two cycles, with and without the early specs -/

theorem silenced_getD (result : CycleResult) :
    (silenced result).availabilityErrors.getD [] = ownFaultEntries result := by
  rw [silenced]
  cases ownFaultEntries result <;> rfl

theorem restored_hides (own before : List AvailabilityError) :
    own ++ before.filter (fun error => error ∉ own) ≠ [] ↔
      (if own.isEmpty then none else some own).getD before ≠ [] := by
  cases own with
  | nil => simp
  | cons error rest => simp

section Finish

variable {collected : Collected}

theorem settle_of_unsuccessful (rentedExecutors : List (String × String))
    (unsuccessful : (results id).isSuccessful = false) :
    collected.settle runtime rentedExecutors results id = results id := by
  have same : (settleDuplicates runtime rentedExecutors (collected.fleet results)).nodes id =
      (collected.fleet results).nodes id := by
    apply settleDuplicates_of_unsuccessful
    exact unsuccessful
  rw [Collected.settle, same]
  rfl

theorem uuidOf_settle (rentedExecutors : List (String × String)) (id : ℕ) :
    uuidOf (collected.settle runtime rentedExecutors results) id = uuidOf results id :=
  congrArg ExecutorSSHInfo.uuid (settleDuplicates_demoted runtime rentedExecutors _ id).executorInfo

theorem cycleSpecs_subset (sent : id ∈ cycleSpecs results jobs) :
    id ∈ jobs.flatMap MinerJob.results := by
  rcases mem_cycleSpecs.mp sent with ⟨job, listed, -, member, -⟩
  exact List.mem_flatMap.mpr ⟨job, listed, member⟩

end Finish

/-! ## The same cycle with and without the early specs -/

def DistinctExecutors (results : Results) (ids : List ℕ) : Prop :=
  ∀ left ∈ ids, ∀ right ∈ ids, uuidOf results left = uuidOf results right → left = right

/-- The backend holds for every executor of the cycle what the last cycle published for it. -/
def BackendAgrees (runtime : PyRuntime) (results : Results) (ids : List ℕ)
    (publisher : Publisher) : Prop :=
  ∀ id ∈ ids, publisher.cyclePublishedAvailability.get?
    (executorKey runtime (results id).toValidatedNode) =
      some (publisher.stored (uuidOf results id))

/-- The results as a wave returns them, before any pass has marked one. -/
def Unmarked (results : Results) (ids : List ℕ) : Prop :=
  ∀ id ∈ ids, (results id).duplicateSharesKeptRow = false ∧
    (results id).carriedForRenterGpuReset = false

def cycleLists (runtime : PyRuntime) (results : Results) (answers : List MinerJob)
    (collected : Collected) (rentedExecutors : List (String × String)) (publisher : Publisher)
    (outageTally : Option RunningOutageTally) : Publisher :=
  finishCycle runtime (runWave runtime results answers ⟨outageTally, publisher⟩)
    (collected.settle runtime rentedExecutors results) collected.jobs

section TwoCycles

variable {collected : Collected} {publisher : Publisher}

theorem sentEarly_subset (sent : id ∈ sentEarly runtime results tally answers) :
    id ∈ answers.flatMap MinerJob.results := by
  rcases mem_sentEarly.mp sent with ⟨before, job, after, rfl, early⟩
  exact List.mem_flatMap.mpr ⟨job, by simp, early.listed⟩

variable (collected) in
theorem sentEarly_settled (sent : id ∈ sentEarly runtime results tally answers)
    (rentedExecutors : List (String × String)) :
    collected.settle runtime rentedExecutors results id = results id ∧
      isTheValidatorsOwnReading (results id) = true ∧
        ∃ errors, (results id).availabilityErrors = some errors := by
  rcases mem_sentEarly.mp sent with ⟨before, job, after, rfl, early⟩
  have allowed := early.allowed
  simp only [mayGoEarly, Bool.and_eq_true, Bool.not_eq_true'] at allowed
  refine ⟨settle_of_unsuccessful rentedExecutors allowed.1.1.2, early.checked, ?_⟩
  rcases (Option.any_eq_true ..).mp allowed.1.1.1 with ⟨errors, failed, -⟩
  exact ⟨errors, failed⟩

variable (returned : collected.jobs.Perm answers)
  (distinct : DistinctExecutors results collected.ids) (listed : id ∈ collected.ids)
include returned distinct listed

theorem sentEarly_distinct : ∀ other ∈ sentEarly runtime results tally answers,
    uuidOf results other = uuidOf results id → other = id := by
  intro other sent
  have member : other ∈ collected.ids :=
    (returned.flatMap_right MinerJob.results).mem_iff.mpr (sentEarly_subset sent)
  exact distinct other member id listed

theorem uuidOf_mem_publishedEarly :
    uuidOf results id ∈ (sentEarly runtime results tally answers).map (uuidOf results) ↔
      id ∈ sentEarly runtime results tally answers := by
  rw [List.mem_map]
  constructor
  · rintro ⟨other, sent, same⟩
    rwa [← sentEarly_distinct returned distinct listed other sent same]
  · exact fun sent => ⟨id, sent, rfl⟩

omit returned in
theorem finishCycle_stored (rentedExecutors : List (String × String)) (wave : WaveState) :
    (finishCycle runtime wave (collected.settle runtime rentedExecutors results)
        collected.jobs).stored (uuidOf results id) =
      if id ∈ cycleSpecs (collected.settle runtime rentedExecutors results) collected.jobs then
        (reportedResults runtime wave (collected.settle runtime rentedExecutors results)
          collected.ids id).availabilityErrors.getD (wave.publisher.stored (uuidOf results id))
      else wave.publisher.stored (uuidOf results id) := by
  have sameUuid : ∀ other, uuidOf (reportedResults runtime wave
      (collected.settle runtime rentedExecutors results) collected.ids) other =
        uuidOf results other :=
    fun other => (uuidOf_reportedResults other).trans (uuidOf_settle rentedExecutors other)
  have apart : ∀ other ∈ cycleSpecs (collected.settle runtime rentedExecutors results)
      collected.jobs, uuidOf (reportedResults runtime wave
        (collected.settle runtime rentedExecutors results) collected.ids) other =
          uuidOf (reportedResults runtime wave
            (collected.settle runtime rentedExecutors results) collected.ids) id → other = id := by
    intro other sent
    rw [sameUuid, sameUuid]
    exact distinct other (cycleSpecs_subset sent) id listed
  have stored := foldl_store wave.publisher.stored apart
  rw [sameUuid] at stored
  rw [finishCycle, (foldl_publishJob _ _).2, cycleSpecs_reportedResults]
  exact stored

theorem cycleLists_of_unsent (unpublished : tally.publishedEarly = [])
    (rentedExecutors : List (String × String))
    (unsent : id ∉ sentEarly runtime results tally answers) :
    (cycleLists runtime results answers collected rentedExecutors publisher (some tally)).stored
        (uuidOf results id) =
      (cycleLists runtime results answers collected rentedExecutors publisher none).stored
        (uuidOf results id) := by
  have sameStored : (sentEarly runtime results tally answers).foldl (store results)
      publisher.stored (uuidOf results id) = publisher.stored (uuidOf results id) := by
    rw [foldl_store publisher.stored (sentEarly_distinct returned distinct listed), if_neg unsent]
  have notSent : uuidOf (collected.settle runtime rentedExecutors results) id ∉
      tally.publishedEarly ++ (sentEarly runtime results tally answers).map (uuidOf results) := by
    rw [uuidOf_settle, unpublished, List.nil_append,
      uuidOf_mem_publishedEarly returned distinct listed]
    exact unsent
  rw [cycleLists, cycleLists, finishCycle_stored distinct listed,
    finishCycle_stored distinct listed, runWave_eq, runWave_none, reportedResults_none,
    reportedResults_of_unsent listed notSent]
  simp only [publishMachineSpecs, sameStored]

theorem cycleLists_of_sent (unmarked : Unmarked results collected.ids)
    (agrees : BackendAgrees runtime results collected.ids publisher)
    (rentedExecutors : List (String × String))
    (sent : id ∈ sentEarly runtime results tally answers) :
    (cycleLists runtime results answers collected rentedExecutors publisher (some tally)).stored
        (uuidOf results id) ≠ [] ↔
      (cycleLists runtime results answers collected rentedExecutors publisher none).stored
        (uuidOf results id) ≠ [] := by
  rcases sentEarly_settled collected sent rentedExecutors with
    ⟨unchanged, checked, errors, failed⟩
  have resent : id ∈ cycleSpecs (collected.settle runtime rentedExecutors results)
      collected.jobs := by
    rcases mem_sentEarly.mp sent with ⟨before, job, after, split, early⟩
    have collectedJob : job ∈ collected.jobs := by
      rw [returned.mem_iff, split]
      simp
    refine mem_cycleSpecs.mpr ⟨job, collectedJob, early.coldkey, early.listed, ?_⟩
    rw [unchanged]
    exact unmarked id listed
  rw [cycleLists, cycleLists, finishCycle_stored distinct listed,
    finishCycle_stored distinct listed, if_pos resent, if_pos resent, runWave_eq, runWave_none,
    reportedResults_none]
  cases outage : looksLikeOurOutage (collected.settle runtime rentedExecutors results)
      collected.ids with
  | false =>
    rw [reportedResults_of_trusted outage, silence_of_trusted outage]
    simp only [unchanged, failed, Option.getD_some]
  | true =>
    have ownReading : isTheValidatorsOwnReading
        (collected.settle runtime rentedExecutors results id) = true := by
      rw [unchanged]
      exact checked
    have isSent : (silenced (results id)).executorInfo.uuid ∈
        tally.publishedEarly ++
          (sentEarly runtime results tally answers).map (uuidOf results) :=
      List.mem_append.mpr (.inr ((uuidOf_mem_publishedEarly returned distinct listed).mpr sent))
    have before : publisher.cyclePublishedAvailability.get?
        (executorKey runtime (silenced (results id)).toValidatedNode) =
          some (publisher.stored (uuidOf results id)) := agrees id listed
    rw [reportedResults_of_outage outage listed, silence_of_checked outage listed ownReading,
      unchanged, RunningOutageTally.restored, if_neg (not_not.mpr isSent)]
    simp only [publishMachineSpecs, Bool.false_eq_true, if_false, before, Option.getD_some,
      silenced_getD]
    exact restored_hides (ownFaultEntries (results id)) (publisher.stored (uuidOf results id))

end TwoCycles

/-! Fifteen nodes. The first miner answers with one failure of six, which is sent at once; the
second answers with nothing but failures, and the cycle reads as our own outage. -/

def sampleUnreachable : AvailabilityError where
  reasonCode := "EXECUTOR_SSH_UNREACHABLE"
  reachSource := some .validator

def sampleResults : Results := fun id =>
  { executorInfo :=
      { uuid := "executor-" ++ toString id, address := "10.0.0.1", port := 8080, sshPort := 22 }
    score := 0
    jobScore := 0
    failureReasonCode := if id = 0 ∨ 6 ≤ id then some "EXECUTOR_SSH_UNREACHABLE" else none
    jobBatchId := "batch"
    availabilityErrors := some (if id = 0 ∨ 6 ≤ id then [sampleUnreachable] else []) }

def sampleAnswers : List MinerJob :=
  [⟨"first", some "coldkey", [0, 1, 2, 3, 4, 5]⟩,
    ⟨"second", some "coldkey", [6, 7, 8, 9, 10, 11, 12, 13, 14]⟩]

def sampleCollected : Collected where
  jobs := sampleAnswers.reverse
  hotkeysNodup := by decide
  resultsNodup := by decide

def samplePublisher : Publisher where
  cyclePublishedAvailability :=
    .ofList (sampleCollected.ids.map fun id => (uuidOf sampleResults id, []))
  stored := fun _ => []

/-- Every executor of a cycle without a rollout window is hidden at its end exactly when it
would be had nothing been published early, in whichever order the miners answer. -/
theorem earlyPublishing_keeps_hidden (runtime : PyRuntime) (results : Results)
    (answers : List MinerJob) (collected : Collected) (jobBatchId : String)
    (rentedExecutors : List (String × String)) (publisher : Publisher)
    (returned : collected.jobs.Perm answers) (unmarked : Unmarked results collected.ids)
    (distinct : DistinctExecutors results collected.ids)
    (agrees : BackendAgrees runtime results collected.ids publisher) :
    ∀ id ∈ collected.ids,
      ((cycleLists runtime results answers collected rentedExecutors publisher
          (some (cycleTally runtime jobBatchId rentedExecutors))).hides (uuidOf results id) ↔
        (cycleLists runtime results answers collected rentedExecutors publisher none).hides
          (uuidOf results id)) := by
  intro id listed
  rw [Publisher.hides, Publisher.hides]
  by_cases sent : id ∈ sentEarly runtime results
      (cycleTally runtime jobBatchId rentedExecutors) answers
  · exact cycleLists_of_sent returned distinct listed unmarked agrees rentedExecutors sent
  · rw [cycleLists_of_unsent returned distinct listed rfl rentedExecutors sent]

theorem sample_keeps_hidden :
    sentEarly Sample.runtime sampleResults (cycleTally Sample.runtime "batch" [])
        sampleAnswers = [0] ∧
      ∀ id ∈ sampleCollected.ids,
        ((cycleLists Sample.runtime sampleResults sampleAnswers sampleCollected [] samplePublisher
            (some (cycleTally Sample.runtime "batch" []))).hides (uuidOf sampleResults id) ↔
          (cycleLists Sample.runtime sampleResults sampleAnswers sampleCollected []
            samplePublisher none).hides (uuidOf sampleResults id)) := by
  refine ⟨by decide +kernel, earlyPublishing_keeps_hidden Sample.runtime sampleResults
    sampleAnswers sampleCollected "batch" [] samplePublisher ?_ ?_ ?_ ?_⟩
  · exact List.reverse_perm sampleAnswers
  · rw [Unmarked]
    exact fun _ _ => ⟨rfl, rfl⟩
  · have distinct : ∀ left ∈ sampleCollected.ids, ∀ right ∈ sampleCollected.ids,
        uuidOf sampleResults left = uuidOf sampleResults right → left = right := by decide +kernel
    exact distinct
  · have agrees : ∀ id ∈ sampleCollected.ids, samplePublisher.cyclePublishedAvailability.get?
        (executorKey Sample.runtime (sampleResults id).toValidatedNode) =
          some (samplePublisher.stored (uuidOf sampleResults id)) := by decide +kernel
    exact agrees

end Lium.Availability
