import Lium.Validator.RestartResumes
import Mathlib.Tactic.Linarith

/-! # How often a create is resumed

A restart lists a create at most once between two removals of its record, as long as no delivery
comes at a bad moment: after its resumption was counted, or while its failed request still waits.
-/

namespace Lium.RestartResumes

/-! ## What a log says -/

/-- The reports that list the pod since its record was last removed by a create or a delete. -/
def listings (podId : String) : List Event → ℕ
  | [] => 0
  | .reported podIds :: rest => listings podId rest + if podId ∈ podIds then 1 else 0
  | .removed other .completedCreate :: rest | .removed other .delete :: rest =>
    if other = podId then 0 else listings podId rest
  | _ :: rest => listings podId rest

/-- The pod was reported failed, and that request has not been sent. -/
def unsent (podId : String) : List Event → Bool
  | [] => false
  | .failed other :: rest => other = podId || unsent podId rest
  | .sent other :: rest => other ≠ podId && unsent podId rest
  | _ :: rest => unsent podId rest

def sweptPodIds : List Event → List String
  | [] => []
  | .swept podIds :: _ => podIds
  | _ :: rest => sweptPodIds rest

def failedInSweep : List Event → List String
  | [] => []
  | .swept _ :: _ => []
  | .failed podId :: rest => podId :: failedInSweep rest
  | _ :: rest => failedInSweep rest

/-- At no moment has a pod been listed more often than allowed since its record was removed. -/
def ListedAtMost (log : List Event) : Prop :=
  ∀ moment, moment <:+ log → ∀ podId, listings podId moment ≤ maxCreateResumes

/-- A sweep that ends has listed or reported failed every pod whose record it read. -/
def NoneForgotten (log : List Event) : Prop :=
  ∀ podIds before, .reported podIds :: before <:+ log →
    ∀ podId ∈ sweptPodIds before, podId ∈ podIds ∨ podId ∈ failedInSweep before

/-- No record is removed while the pod's failed request waits. -/
def KeptUntilSent (log : List Event) : Prop :=
  ∀ podId cause before, .removed podId cause :: before <:+ log → unsent podId before = false

structure Guarantee (log : List Event) : Prop where
  listedAtMost : ListedAtMost log
  noneForgotten : NoneForgotten log
  keptUntilSent : KeptUntilSent log

/-! ## Runs -/

/-- The sweep finds no pod rented and no record too old. -/
def inScope (maxAge : ℤ) (world : World) (action : Action) : Bool :=
  match world.connector.phase, action with
  | .sweeping ((podId, create) :: _) rentedPodIds _, .sweepNext now =>
    !recordIsStale maxAge now rentedPodIds podId create
  | _, _ => true

def act (maxAge : ℤ) (world : World) (action : Action) : Option World :=
  if inScope maxAge world action then step maxAge world action else none

def play (maxAge : ℤ) (world : World) (actions : List Action) : Option World :=
  actions.foldlM (act maxAge) world

/-- Whatever a run and what follows it without another delivery have done is as it should be. -/
def Robust (maxAge : ℤ) (actions : List Action) : Prop :=
  ∀ before after : List Action, before <+: actions → (∀ action ∈ after, action.isDelivery = false) →
    ∀ world, play maxAge .initial (before ++ after) = some world → Guarantee world.log

/-- The delivery does not come at a bad moment. -/
def Timely (world : World) : Action → Prop
  | .create request =>
    world.isServing →
      unsent request.podId world.log = false ∧
      (listings request.podId world.log = 0 ∨
        (world.connector.resumeCountByPodId request.podId).isSome ∨
        world.connector.deletedPodIds request.podId)
  | .delete podId => world.isServing → unsent podId world.log = false
  | _ => True

def Orderly (maxAge : ℤ) (actions : List Action) : Prop :=
  ∀ before action, before ++ [action] <+: actions →
    ∀ world, play maxAge .initial before = some world → Timely world action

/-! ## The log grows -/

variable {event : Event} {log : List Event} {podId : String}

theorem ListedAtMost.cons (kept : ListedAtMost log)
    (now : ∀ podId, listings podId (event :: log) ≤ maxCreateResumes) :
    ListedAtMost (event :: log) := by
  intro moment suffix
  obtain rfl | earlier := List.suffix_cons_iff.mp suffix
  · exact now
  · exact kept moment earlier

theorem NoneForgotten.cons (kept : NoneForgotten log)
    (now : ∀ podIds, event = .reported podIds →
      ∀ podId ∈ sweptPodIds log, podId ∈ podIds ∨ podId ∈ failedInSweep log) :
    NoneForgotten (event :: log) := by
  intro podIds before suffix
  obtain same | earlier := List.suffix_cons_iff.mp suffix
  · obtain ⟨rfl, rfl⟩ := List.cons.inj same
    exact now podIds rfl
  · exact kept podIds before earlier

theorem KeptUntilSent.cons (kept : KeptUntilSent log)
    (now : ∀ podId cause, event = .removed podId cause → unsent podId log = false) :
    KeptUntilSent (event :: log) := by
  intro podId cause before suffix
  obtain same | earlier := List.suffix_cons_iff.mp suffix
  · obtain ⟨rfl, rfl⟩ := List.cons.inj same
    exact now podId cause rfl
  · exact kept podId cause before earlier

theorem Guarantee.cons (guarantee : Guarantee log)
    (same : ∀ podId, listings podId (event :: log) = listings podId log)
    (notReported : ∀ podIds, event ≠ .reported podIds)
    (notRemoved : ∀ podId cause, event ≠ .removed podId cause) : Guarantee (event :: log) where
  listedAtMost := guarantee.listedAtMost.cons fun podId => by
    rw [same]
    exact guarantee.listedAtMost log List.suffix_rfl podId
  noneForgotten := guarantee.noneForgotten.cons fun podIds is => absurd is (notReported podIds)
  keptUntilSent := guarantee.keptUntilSent.cons fun podId cause is =>
    absurd is (notRemoved podId cause)

theorem listings_removed_le (podId other : String) (cause : Cause) (log : List Event) :
    listings podId (.removed other cause :: log) ≤ listings podId log := by
  cases cause with
  | completedCreate | delete =>
    simp only [listings]
    split <;> simp
  | sentFailure | staleRecord => exact le_rfl

theorem Guarantee.removed (guarantee : Guarantee log)
    (sent : unsent podId log = false) (cause : Cause) :
    Guarantee (.removed podId cause :: log) where
  listedAtMost := guarantee.listedAtMost.cons fun other =>
    (listings_removed_le other podId cause log).trans
      (guarantee.listedAtMost log List.suffix_rfl other)
  noneForgotten := guarantee.noneForgotten.cons fun podIds is => by cases is
  keptUntilSent := guarantee.keptUntilSent.cons fun other cause is => by
    cases is
    exact sent

/-! ## The invariant of an orderly run -/

def Job.podId? : Job → Option String
  | .writing request _ => some request.podId
  | .driving podId | .removing podId | .deleting podId => some podId
  | .finished => none

/-- A job works on no pod whose failed request waits, and a count it is about to write is enough. -/
structure Job.Safe (log : List Event) (job : Job) : Prop where
  sent : ∀ podId, job.podId? = some podId → unsent podId log = false
  enough : ∀ request resumes, job = .writing request resumes → listings request.podId log ≤ resumes

/-- What the memory of a serving connector owes to the log. -/
structure Connector.Serving (log : List Event) (connector : Connector) : Prop where
  remembered : ∀ podId count, connector.resumeCountByPodId podId = some count →
    listings podId log ≤ count
  jobs : ∀ job ∈ connector.jobs, job.Safe log
  sender : ∀ podId, connector.sender = .untracking podId → unsent podId log = false

/-- What a sweep owes to the records and the log: the pods it has listed are not in the log yet. -/
structure Sweeping (records : PyDict String InflightBackendCreate) (log : List Event)
    (left : List (String × InflightBackendCreate)) (resumed : List String)
    (counts : String → Option ℕ) : Prop where
  nodup : (left.map Prod.fst).Nodup
  unswept : ∀ entry ∈ left, records.get? entry.1 = some entry.2
  below : ∀ podId ∈ resumed, listings podId log < maxCreateResumes
  counted : ∀ podId ∈ resumed, ∀ create, records.get? podId = some create →
    listings podId log < create.resumes
  remembered : ∀ podId count, counts podId = some count → listings podId log < count
  covered : ∀ podId ∈ sweptPodIds log,
    podId ∈ left.map Prod.fst ∨ podId ∈ resumed ∨ podId ∈ failedInSweep log

inductive Connector.Safe (records : PyDict String InflightBackendCreate) (log : List Event) :
    Connector → Prop
  | off : Connector.Safe records log .off
  | sweeping {left : List (String × InflightBackendCreate)} {rentedPodIds resumed : List String}
      {counts : String → Option ℕ} {queue : List Message}
      (sweep : Sweeping records log left resumed counts) :
      Connector.Safe records log
        ⟨.sweeping left rentedPodIds resumed, counts, fun _ => false, fun _ => 0, queue, .idle, []⟩
  | serving {connector : Connector} (phase : connector.phase = .serving)
      (serving : connector.Serving log) : Connector.Safe records log connector

/-- What holds of Redis and the log at every moment. -/
structure Durable (records : PyDict String InflightBackendCreate) (log : List Event) : Prop where
  guarantee : Guarantee log
  counted : ∀ podId create, records.get? podId = some create → listings podId log ≤ create.resumes
  recorded : ∀ podId, unsent podId log = true → records.contains podId = true

structure Invariant (world : World) : Prop where
  durable : Durable world.records world.log
  connector : world.connector.Safe world.records world.log

/-! ### Redis and the log -/

section Durable

variable {records : PyDict String InflightBackendCreate}

section

variable (durable : Durable records log)
include durable

theorem Durable.set {create : InflightBackendCreate}
    (enough : listings podId log ≤ create.resumes) :
    Durable (records.set podId create) log where
  guarantee := durable.guarantee
  counted := by
    intro other found
    rw [PyDict.get?_set]
    split
    next same =>
      rintro ⟨⟩
      exact same ▸ enough
    next => exact durable.counted other found
  recorded := by
    intro other waits
    have before := durable.recorded other waits
    rw [PyDict.contains, PyDict.get?_set]
    split
    next => rfl
    next => exact before

theorem Durable.failed (recorded : records.contains podId = true) :
    Durable records (.failed podId :: log) where
  guarantee := durable.guarantee.cons (fun _ => rfl) (by simp) (by simp)
  counted := durable.counted
  recorded := by
    intro other waits
    simp only [unsent, Bool.or_eq_true, decide_eq_true_eq] at waits
    obtain rfl | waits := waits
    · exact recorded
    · exact durable.recorded other waits

theorem Durable.sent (podId : String) : Durable records (.sent podId :: log) where
  guarantee := durable.guarantee.cons (fun _ => rfl) (by simp) (by simp)
  counted := durable.counted
  recorded := by
    intro other waits
    simp only [unsent, Bool.and_eq_true] at waits
    exact durable.recorded other waits.2

theorem Durable.swept (podIds : List String) : Durable records (.swept podIds :: log) :=
  { durable with guarantee := durable.guarantee.cons (fun _ => rfl) (by simp) (by simp) }

end

end Durable

theorem listings_remove_le (world : World) (podId other : String) (cause : Cause) :
    listings other (world.remove podId cause).log ≤ listings other world.log := by
  unfold World.remove
  dsimp only
  split
  next => exact listings_removed_le other podId cause world.log
  next => exact le_rfl

@[simp]
theorem unsent_remove (world : World) (podId other : String) (cause : Cause) :
    unsent other (world.remove podId cause).log = unsent other world.log := by
  unfold World.remove
  dsimp only
  split <;> rfl

variable {world : World}

theorem Durable.remove (durable : Durable world.records world.log)
    (sent : unsent podId world.log = false) (cause : Cause) :
    Durable (world.remove podId cause).records (world.remove podId cause).log where
  guarantee := by
    unfold World.remove
    dsimp only
    split
    next => exact durable.guarantee.removed sent cause
    next => exact durable.guarantee
  counted := by
    intro other create found
    rw [World.remove, PyDict.get?_erase] at found
    split at found
    next => cases found
    next => exact (listings_remove_le world podId other cause).trans (durable.counted other create found)
  recorded := by
    intro other waits
    rw [unsent_remove] at waits
    have different : other ≠ podId := by
      rintro rfl
      rw [sent] at waits
      cases waits
    rw [World.remove, PyDict.contains, PyDict.get?_erase, if_neg different]
    exact durable.recorded other waits

/-! ### A serving connector -/

variable {job : Job}

theorem Job.Safe.mono {later : List Event} (safe : job.Safe log)
    (fewer : ∀ podId, listings podId later ≤ listings podId log)
    (sent : ∀ podId, unsent podId log = false → unsent podId later = false) : job.Safe later where
  sent podId is := sent podId (safe.sent podId is)
  enough request resumes is := (fewer _).trans (safe.enough request resumes is)

variable {connector : Connector}

theorem Connector.Serving.mono {later : List Event} (serving : connector.Serving log)
    (fewer : ∀ podId, listings podId later ≤ listings podId log)
    (sent : ∀ podId, unsent podId log = false → unsent podId later = false) :
    connector.Serving later where
  remembered podId count is := (fewer podId).trans (serving.remembered podId count is)
  jobs job mem := (serving.jobs job mem).mono fewer sent
  sender podId is := sent podId (serving.sender podId is)

theorem Connector.Serving.remove (serving : world.connector.Serving world.log)
    (podId : String) (cause : Cause) :
    world.connector.Serving (world.remove podId cause).log :=
  serving.mono (listings_remove_le world podId · cause) fun other sent => by
    rwa [unsent_remove]

theorem Connector.Serving.setJob (serving : connector.Serving log) (index : ℕ)
    (safe : job.Safe log) :
    Connector.Serving log { connector with jobs := connector.jobs.set index job } := by
  refine { serving with jobs := fun other mem => ?_ }
  obtain before | rfl := List.mem_or_eq_of_mem_set mem
  · exact serving.jobs other before
  · exact safe

structure World.Serves (world : World) : Prop where
  durable : Durable world.records world.log
  phase : world.connector.phase = .serving
  serving : world.connector.Serving world.log

theorem Job.Safe.of_podId {next : Job} (safe : job.Safe log)
    (same : next.podId? = job.podId?)
    (notWriting : ∀ request resumes, next ≠ .writing request resumes) :
    next.Safe log where
  sent podId is := safe.sent podId (same ▸ is)
  enough request resumes is := absurd is (notWriting request resumes)

theorem Job.safe_finished (log : List Event) : Job.finished.Safe log where
  sent podId is := by cases is
  enough request resumes is := by cases is

theorem World.Serves.remove (serves : world.Serves)
    (sent : unsent podId world.log = false) (cause : Cause) (index : ℕ) :
    ((world.remove podId cause).setJob index .finished).Serves where
  durable := serves.durable.remove sent cause
  phase := serves.phase
  serving := (serves.serving.remove podId cause).setJob index (Job.safe_finished _)

variable {next : World}

theorem World.Serves.advanceJob (serves : world.Serves)
    (safe : job.Safe world.log) {now : ℚ} {index : ℕ}
    (step : advanceJob now index world job = some next) : next.Serves := by
  cases job with
  | writing request resumes =>
    cases step
    exact ⟨serves.durable.set (safe.enough request resumes rfl), serves.phase,
      serves.serving.setJob index (safe.of_podId rfl (by simp))⟩
  | driving podId =>
    cases step
    exact ⟨serves.durable, serves.phase, serves.serving.setJob index (safe.of_podId rfl (by simp))⟩
  | removing podId =>
    cases step
    have removed := serves.remove (safe.sent podId rfl) .completedCreate index
    exact { removed with serving := { removed.serving with } }
  | deleting podId =>
    cases step
    exact serves.remove (safe.sent podId rfl) .delete index
  | finished => cases step

theorem Connector.Serving.addJob (serving : connector.Serving log) (safe : job.Safe log) :
    ∀ other ∈ connector.jobs ++ [job], other.Safe log :=
  List.forall_mem_append.mpr ⟨serving.jobs, List.forall_mem_singleton.mpr safe⟩

theorem World.Serves.takeCreate (serves : world.Serves)
    {request : ContainerCreateRequest} (timely : Timely world (.create request)) :
    (world.withConnector (takeCreate request world.connector)).Serves := by
  obtain ⟨sent, enough⟩ := timely (by simp [World.isServing, serves.phase])
  have serving := serves.serving
  refine ⟨serves.durable, ?_, ?_⟩
  · unfold RestartResumes.takeCreate World.withConnector
    dsimp only
    split <;> exact serves.phase
  · unfold RestartResumes.takeCreate World.withConnector
    dsimp only
    split
    next deleted =>
      refine ⟨serving.remembered, serving.addJob ⟨?_, by simp⟩, serving.sender⟩
      rintro podId ⟨⟩
      exact sent
    next notDeleted =>
      refine ⟨?_, serving.addJob ⟨?_, ?_⟩, serving.sender⟩
      · intro podId count is
        simp only [Function.update_apply] at is
        split at is
        next => cases is
        next => exact serving.remembered podId count is
      · rintro podId ⟨⟩
        exact sent
      · rintro request resumes ⟨⟩
        cases known : world.connector.resumeCountByPodId request.podId with
        | none => simpa [known, notDeleted] using enough
        | some count => exact serving.remembered request.podId count known

theorem World.Serves.takeDelete (serves : world.Serves)
    (timely : Timely world (.delete podId)) :
    (world.withConnector (takeDelete podId world.connector)).Serves := by
  have sent := timely (by simp [World.isServing, serves.phase])
  refine
    { serves with
      serving := { serves.serving with jobs := serves.serving.addJob ⟨?_, by simp⟩ } }
  rintro podId ⟨⟩
  exact sent

theorem World.Serves.endSend (serves : world.Serves) (message : Message)
    (result : SendEnd) : (endSend message result world).Serves := by
  have idle (queue : List Message) : (world.withConnector
      { world.connector with sender := .idle, messageQueue := queue }).Serves :=
    { serves with
      serving := { serves.serving with sender := by simp [World.withConnector] } }
  cases result with
  | sent =>
    cases message with
    | failed request =>
      unfold RestartResumes.endSend
      dsimp only
      split
      next =>
        have serving : world.connector.Serving (.sent request.podId :: world.log) :=
          serves.serving.mono (fun _ => le_rfl) fun podId sent => by simp [unsent, sent]
        refine ⟨serves.durable.sent request.podId, serves.phase,
          ⟨serving.remembered, serving.jobs, ?_⟩⟩
        rintro podId ⟨⟩
        simp [unsent]
      next => exact idle world.connector.messageQueue
    | other => exact idle world.connector.messageQueue
  | failed => exact idle (message :: world.connector.messageQueue)
  | tooBig => exact idle world.connector.messageQueue

variable {action : Action}

theorem World.Serves.serve (serves : world.Serves)
    (timely : Timely world action) (step : serve world action = some next) : next.Serves := by
  have serving := serves.serving
  cases action with
  | create request =>
    cases step
    exact serves.takeCreate timely
  | delete podId =>
    cases step
    exact serves.takeDelete timely
  | advance index now =>
    obtain ⟨job, found, advanced⟩ := Option.bind_eq_some_iff.mp step
    exact serves.advanceJob (serving.jobs job (List.mem_of_getElem? found)) advanced
  | reply =>
    cases step
    exact { serves with serving := { serving with } }
  | takeMessage =>
    simp only [RestartResumes.serve] at step
    split at step
    next =>
      cases step
      exact { serves with serving := { serving with sender := by simp [World.withConnector] } }
    next => cases step
  | endSend result =>
    simp only [RestartResumes.serve] at step
    split at step
    next message _ =>
      cases step
      exact serves.endSend message result
    next => cases step
  | untrack =>
    simp only [RestartResumes.serve] at step
    split at step
    next podId untracking =>
      cases step
      have later := serving.remove podId .sentFailure
      exact ⟨serves.durable.remove (serving.sender podId untracking) .sentFailure, serves.phase,
        ⟨later.remembered, later.jobs, by simp [World.withConnector]⟩⟩
    next => cases step
  | start | sweepNext | report | crash => cases step

/-! ### A sweeping connector -/

variable {records : PyDict String InflightBackendCreate}
  {left : List (String × InflightBackendCreate)} {rentedPodIds resumed : List String}
  {counts : String → Option ℕ} {queue : List Message} {create : InflightBackendCreate}

theorem Sweeping.start {creates : List (String × InflightBackendCreate)}
    (read : creates.Perm records.items) :
    Sweeping records (.swept (creates.map Prod.fst) :: log) creates [] (fun _ => none) where
  nodup := (read.map Prod.fst).nodup_iff.mpr records.keysNodup
  unswept entry mem := records.get?_eq_some_of_mem (read.mem_iff.mp mem)
  below := by simp
  counted := by simp
  remembered := by simp
  covered podId mem := .inl mem

theorem Sweeping.resume (sweep : Sweeping records log ((podId, create) :: left) resumed counts)
    (durable : Durable records log) (few : create.resumes < maxCreateResumes)
    {again : InflightBackendCreate} (counted : again.resumes = create.resumes + 1) :
    Sweeping (records.set podId again) log left (resumed ++ [podId])
      (Function.update counts podId (some (create.resumes + 1))) := by
  have listed : listings podId log ≤ create.resumes :=
    durable.counted podId create (sweep.unswept (podId, create) List.mem_cons_self)
  obtain ⟨fresh, nodup⟩ := List.nodup_cons.mp sweep.nodup
  refine ⟨nodup, ?_, List.forall_mem_append.mpr
    ⟨sweep.below, List.forall_mem_singleton.mpr (listed.trans_lt few)⟩, ?_, ?_, ?_⟩
  · intro entry mem
    have different : entry.1 ≠ podId := fun same =>
      fresh (List.mem_map.mpr ⟨entry, mem, same⟩)
    rw [PyDict.get?_set_other _ different]
    exact sweep.unswept entry (List.mem_cons_of_mem _ mem)
  · intro other mem found
    rw [PyDict.get?_set]
    split
    next same =>
      rintro ⟨⟩
      rw [same, counted]
      exact Nat.lt_succ_of_le listed
    next different =>
      have before := (List.mem_append.mp mem).resolve_right (by simpa using different)
      exact sweep.counted other before found
  · intro other count
    rw [Function.update_apply]
    split
    next same =>
      rintro ⟨⟩
      exact same ▸ Nat.lt_succ_of_le listed
    next => exact sweep.remembered other count
  · intro other mem
    have := sweep.covered other mem
    simp only [List.map_cons, List.mem_cons, List.mem_append, List.not_mem_nil, or_false] at this ⊢
    tauto

theorem Sweeping.fail (sweep : Sweeping records log ((podId, create) :: left) resumed counts) :
    Sweeping records (.failed podId :: log) left resumed counts := by
  refine
    { sweep with
      nodup := (List.nodup_cons.mp sweep.nodup).2, covered := fun other mem => ?_
      unswept := fun entry mem => sweep.unswept entry (List.mem_cons_of_mem _ mem) }
  have := sweep.covered other mem
  simp only [List.map_cons, List.mem_cons, failedInSweep] at this ⊢
  tauto

theorem listings_reported (other : String) (log : List Event) (resumed : List String) :
    listings other (.reported resumed :: log) =
      listings other log + if other ∈ resumed then 1 else 0 := rfl

theorem Sweeping.report (sweep : Sweeping records log [] resumed counts)
    (durable : Durable records log) : Durable records (.reported resumed :: log) where
  guarantee :=
    { listedAtMost := durable.guarantee.listedAtMost.cons fun other => by
        rw [listings_reported]
        split
        next mem => exact sweep.below other mem
        next => exact durable.guarantee.listedAtMost log List.suffix_rfl other
      noneForgotten := durable.guarantee.noneForgotten.cons fun podIds is other mem => by
        cases is
        simpa using sweep.covered other mem
      keptUntilSent := durable.guarantee.keptUntilSent.cons fun _ _ is => by cases is }
  counted other found is := by
    rw [listings_reported]
    split
    next mem => exact sweep.counted other mem found is
    next => exact durable.counted other found is
  recorded := durable.recorded

/-! ### Every step -/

variable {maxAge : ℤ}

theorem Invariant.sweepOne (durable : Durable world.records world.log)
    (sweep : Sweeping world.records world.log ((podId, create) :: left) resumed counts)
    (memory : world.connector = ⟨.sweeping ((podId, create) :: left) rentedPodIds resumed, counts,
      fun _ => false, fun _ => 0, queue, .idle, []⟩) {now : ℚ}
    (young : recordIsStale maxAge now rentedPodIds podId create = false) :
    Invariant (sweepOne maxAge now left rentedPodIds resumed podId create world) := by
  have found := sweep.unswept (podId, create) List.mem_cons_self
  simp only [RestartResumes.sweepOne, young, Bool.false_eq_true, if_false, memory]
  split
  next few =>
    have listed := durable.counted podId create found
    exact ⟨durable.set (Nat.le_succ_of_le listed), .sweeping (sweep.resume durable few rfl)⟩
  next =>
    exact ⟨durable.failed (by simp [PyDict.contains, found]), .sweeping sweep.fail⟩

theorem step_of_ne_crash (maxAge : ℤ) (world : World) (goesOn : action ≠ .crash) :
    step maxAge world action =
      match world.connector.phase with
      | .down => beginSweep world action
      | .sweeping left rentedPodIds resumed => sweep maxAge left rentedPodIds resumed world action
      | .serving => serve world action := by
  cases action <;> first | rfl | exact absurd rfl goesOn

theorem Invariant.beginSweep (durable : Durable world.records world.log)
    (memory : world.connector = .off)
    (began : beginSweep world action = some next) : Invariant next := by
  cases action with
  | start creates rentedPodIds =>
    simp only [RestartResumes.beginSweep, memory] at began
    split at began
    next read =>
      cases began
      exact ⟨durable.swept _, .sweeping (Sweeping.start read)⟩
    next => cases began
  | _ => cases began

theorem Invariant.sweep (durable : Durable world.records world.log)
    (sweeping : Sweeping world.records world.log left resumed counts)
    (memory : world.connector = ⟨.sweeping left rentedPodIds resumed, counts,
      fun _ => false, fun _ => 0, queue, .idle, []⟩) (within : inScope maxAge world action = true)
    (swept : sweep maxAge left rentedPodIds resumed world action = some next) :
    Invariant next := by
  cases action with
  | sweepNext now =>
    cases left with
    | nil => cases swept
    | cons entry left =>
      cases swept
      exact Invariant.sweepOne durable sweeping memory (by simpa [inScope, memory] using within)
  | report =>
    cases left with
    | nil =>
      cases swept
      refine ⟨sweeping.report durable, .serving rfl ?_⟩
      simp only [memory]
      refine ⟨fun podId count known => ?_, by simp, by simp⟩
      have before := sweeping.remembered podId count known
      rw [listings_reported]
      split <;> omega
    | cons entry left => cases swept
  | _ => cases swept

theorem Invariant.act (invariant : Invariant world) (timely : Timely world action)
    (step : act maxAge world action = some next) : Invariant next := by
  obtain ⟨durable, safe⟩ := invariant
  unfold RestartResumes.act at step
  split at step
  next within =>
    by_cases goesOn : action = .crash
    · subst goesOn
      cases step
      exact ⟨durable, .off⟩
    · rw [step_of_ne_crash maxAge world goesOn] at step
      generalize memory : world.connector = connector at safe step
      cases safe with
      | off => exact Invariant.beginSweep durable memory step
      | sweeping sweeping => exact Invariant.sweep durable sweeping memory within step
      | serving phase serving =>
        rw [phase] at step
        subst memory
        have serves := World.Serves.serve ⟨durable, phase, serving⟩ timely step
        exact ⟨serves.durable, .serving serves.phase serves.serving⟩
  next => cases step

theorem Invariant.initial : Invariant .initial where
  durable :=
    { guarantee :=
        { listedAtMost := by
            intro moment suffix podId
            rw [List.suffix_nil.mp suffix]
            exact Nat.zero_le _
          noneForgotten := by
            intro podIds before suffix
            cases List.suffix_nil.mp suffix
          keptUntilSent := by
            intro podId cause before suffix
            cases List.suffix_nil.mp suffix }
      counted := by
        intro podId create found
        cases found
      recorded := by
        intro podId waits
        cases waits }
  connector := .off

/-! ## Orderly runs are robust -/

theorem play_concat (maxAge : ℤ) (world : World) (actions : List Action) (action : Action) :
    play maxAge world (actions ++ [action]) =
      (play maxAge world actions).bind (act maxAge · action) := by
  simp [play, List.foldlM_append]

variable {actions : List Action}

theorem orderly_concat_iff :
    Orderly maxAge (actions ++ [action]) ↔
      Orderly maxAge actions ∧
        ∀ world, play maxAge .initial actions = some world → Timely world action := by
  constructor
  · intro orderly
    exact ⟨fun before earlier is => orderly before earlier (is.trans (List.prefix_append _ _)),
      orderly actions action List.prefix_rfl⟩
  · rintro ⟨orderly, timely⟩ before last is
    obtain same | earlier := List.prefix_concat_iff.mp is
    · obtain ⟨rfl, rfl⟩ := List.append_inj' same rfl |>.imp_right List.singleton_inj.mp
      exact timely
    · exact orderly before last earlier

theorem Orderly.invariant (orderly : Orderly maxAge actions)
    (played : play maxAge .initial actions = some world) : Invariant world := by
  induction actions using List.reverseRecOn generalizing world with
  | nil =>
    cases played
    exact Invariant.initial
  | append_singleton actions action induction =>
    obtain ⟨before, timely⟩ := orderly_concat_iff.mp orderly
    rw [play_concat] at played
    obtain ⟨middle, first, last⟩ := Option.bind_eq_some_iff.mp played
    exact (induction before first).act (timely middle first) last

theorem Timely.of_not_delivery
    (other : action.isDelivery = false) : Timely world action := by
  cases action <;> trivial

theorem Orderly.append {after : List Action} (orderly : Orderly maxAge actions)
    (others : ∀ action ∈ after, action.isDelivery = false) : Orderly maxAge (actions ++ after) := by
  induction after using List.reverseRecOn with
  | nil => rwa [List.append_nil]
  | append_singleton after action induction =>
    rw [← List.append_assoc, orderly_concat_iff]
    refine ⟨induction fun other mem => others other (List.mem_append_left _ mem), fun world _ => ?_⟩
    exact Timely.of_not_delivery (others action (by simp))

theorem Orderly.robust (orderly : Orderly maxAge actions) :
    Robust maxAge actions := by
  intro before after cut others world played
  have prefixed : Orderly maxAge before := fun earlier action is =>
    orderly earlier action (is.trans cut)
  exact ((prefixed.append others).invariant played).durable.guarantee

end Lium.RestartResumes
