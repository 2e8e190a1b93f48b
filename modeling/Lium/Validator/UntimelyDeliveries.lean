import Lium.Validator.ResumeBound

/-! # What an untimely delivery leads to

After a delivery at a bad moment the scheduler can list a pod once too often, or lose a record
before its request is sent. So orderly runs are the only robust ones.
-/

namespace Lium.RestartResumes

variable {actions : List Action} {maxAge : ℤ}

def Leads (maxAge : ℤ) (world next : World) : Prop :=
  ∃ after : List Action, (∀ action ∈ after, action.isDelivery = false) ∧
    play maxAge world after = some next

section Leads

variable {world middle next : World}

theorem Leads.refl (maxAge : ℤ) (world : World) : Leads maxAge world world :=
  ⟨[], by simp, rfl⟩

theorem Leads.head (action : Action) (other : action.isDelivery = false)
    (acts : act maxAge world action = some middle) (leads : Leads maxAge middle next) :
    Leads maxAge world next := by
  obtain ⟨after, others, played⟩ := leads
  refine ⟨action :: after, by simpa [other] using others, ?_⟩
  simpa [play, acts] using played

theorem Leads.trans (first : Leads maxAge world middle) (second : Leads maxAge middle next) :
    Leads maxAge world next := by
  obtain ⟨after, others, played⟩ := first
  obtain ⟨later, laterOthers, laterPlayed⟩ := second
  refine ⟨after ++ later, ?_, ?_⟩
  · intro action mem
    exact (List.mem_append.mp mem).elim (others action) (laterOthers action)
  · rw [play, List.foldlM_append, ← play, played]
    exact laterPlayed

theorem act_of_serving (serving : world.connector.phase = .serving) {action : Action}
    (goesOn : action ≠ .crash) : act maxAge world action = serve world action := by
  unfold act inScope
  rw [step_of_ne_crash maxAge world goesOn, serving]
  rfl

theorem act_crash (maxAge : ℤ) (world : World) :
    act maxAge world .crash = some (world.withConnector .off) := by
  unfold act inScope
  split <;> simp_all [step]

end Leads

/-! ## A sweep runs to its end -/

variable {podId : String}

section Sweep

variable {world : World}

theorem sweepOne_spec {now : ℚ} {rentedPodIds : List String} {create : InflightBackendCreate}
    (young : recordIsStale maxAge now rentedPodIds podId create = false)
    (left : List (String × InflightBackendCreate)) (resumed : List String) (world : World) :
    ∃ listed, (sweepOne maxAge now left rentedPodIds resumed podId create world).connector.phase =
        .sweeping left rentedPodIds listed ∧
      resumed ⊆ listed ∧ (create.resumes < maxCreateResumes → podId ∈ listed) ∧
      ∀ other, listings other
        (sweepOne maxAge now left rentedPodIds resumed podId create world).log =
          listings other world.log := by
  simp only [sweepOne, young, Bool.false_eq_true, if_false]
  split
  next few => exact ⟨resumed ++ [podId], rfl, by simp, by simp, fun _ => rfl⟩
  next many => exact ⟨resumed, rfl, List.Subset.refl _, fun few => absurd few many, fun _ => rfl⟩

theorem leads_through_sweep (maxAge : ℤ) {left : List (String × InflightBackendCreate)}
    {resumed : List String} (phase : world.connector.phase = .sweeping left [] resumed) :
    ∃ next listed, Leads maxAge world next ∧ next.connector.phase = .sweeping [] [] listed ∧
      resumed ⊆ listed ∧
      (∀ entry ∈ left, entry.2.resumes < maxCreateResumes → entry.1 ∈ listed) ∧
      ∀ podId, listings podId next.log = listings podId world.log := by
  induction left generalizing world resumed with
  | nil =>
    exact ⟨world, resumed, .refl maxAge world, phase, List.Subset.refl _, by simp, fun _ => rfl⟩
  | cons entry left induction =>
    obtain ⟨podId, create⟩ := entry
    have young : recordIsStale maxAge (create.startedAtUnixSeconds + maxAge) [] podId create =
        false := by simp [recordIsStale]
    obtain ⟨swept, now, more, mine, same⟩ := sweepOne_spec young left resumed world
    obtain ⟨next, listed, leads, done, rest, others, sameLater⟩ := induction now
    refine ⟨next, listed,
      .head (.sweepNext (create.startedAtUnixSeconds + maxAge)) rfl ?_ leads, done,
      fun podId mem => rest (more mem), ?_, fun podId => (sameLater podId).trans (same podId)⟩
    · unfold act inScope
      rw [step_of_ne_crash maxAge world (by simp), phase]
      simp [young, sweep]
    · rintro entry mem few
      obtain rfl | later := List.mem_cons.mp mem
      · exact rest (mine few)
      · exact others entry later few

theorem leads_to_report (maxAge : ℤ) (off : world.connector = .off) :
    ∃ next, Leads maxAge world next ∧ ∀ podId create, world.records.get? podId = some create →
      create.resumes < maxCreateResumes →
        listings podId next.log = listings podId world.log + 1 := by
  let begun : World :=
    { world with
      connector := { Connector.off with phase := .sweeping world.records.items [] [] }
      log := .swept (world.records.items.map Prod.fst) :: world.log }
  have begins : act maxAge world (.start world.records.items []) = some begun := by
    unfold act inScope
    rw [step_of_ne_crash maxAge world (by simp), off]
    simp [Connector.off, beginSweep, off, begun]
  obtain ⟨swept, listed, sweeps, phase, -, all, same⟩ :=
    leads_through_sweep maxAge (show begun.connector.phase = _ from rfl)
  let reported : World :=
    { swept with
      connector := { swept.connector with phase := .serving }
      log := .reported listed :: swept.log }
  have reports : act maxAge swept .report = some reported := by
    unfold act inScope
    rw [step_of_ne_crash maxAge swept (by simp), phase]
    rfl
  refine ⟨reported, .head _ rfl begins (sweeps.trans (.head _ rfl reports (.refl maxAge reported))),
    fun podId create found few => ?_⟩
  have mem := all (podId, create) (world.records.mem_of_get? found) few
  rw [listings_reported, if_pos mem, same]
  rfl

end Sweep

/-! ## Deliveries at a bad moment -/

section Deliveries

theorem phase_takeCreate (request : ContainerCreateRequest) (connector : Connector) :
    (takeCreate request connector).phase = connector.phase := by
  unfold takeCreate
  dsimp only
  split <;> rfl

variable (maxAge : ℤ) {world : World} (phase : world.connector.phase = .serving)
include phase

theorem leads_by_job {next : World} {jobs : List Job} {job : Job}
    (last : world.connector.jobs = jobs ++ [job]) (now : ℚ)
    (advances : advanceJob now jobs.length world job = some next) :
    Leads maxAge world next := by
  refine .head (.advance jobs.length now) rfl ?_ (.refl maxAge next)
  rw [act_of_serving phase (by simp)]
  simpa [serve, last] using advances

variable {request : ContainerCreateRequest}

theorem leads_to_record (notDeleted : world.connector.deletedPodIds request.podId = false) :
    ∃ next create, Leads maxAge (world.withConnector (takeCreate request world.connector)) next ∧
      next.records = world.records.set request.podId create ∧
      create.resumes = (world.connector.resumeCountByPodId request.podId).getD 0 ∧
      next.log = world.log ∧ next.connector.phase = .serving ∧
      next.connector.jobs = world.connector.jobs ++ [.driving request.podId] := by
  have jobs : (takeCreate request world.connector).jobs = world.connector.jobs ++
      [.writing request ((world.connector.resumeCountByPodId request.podId).getD 0)] := by
    simp [takeCreate, notDeleted]
  have taken : (takeCreate request world.connector).phase = .serving := by
    rw [phase_takeCreate, phase]
  refine ⟨_, _, leads_by_job maxAge taken jobs 0 rfl, rfl, rfl, rfl, taken, ?_⟩
  simp [World.setJob, World.withConnector, jobs]

theorem leads_to_listing (unknown : world.connector.resumeCountByPodId request.podId = none)
    (notDeleted : world.connector.deletedPodIds request.podId = false) :
    ∃ next, Leads maxAge (world.withConnector (takeCreate request world.connector)) next ∧
      listings request.podId next.log = listings request.podId world.log + 1 := by
  obtain ⟨written, create, writes, records, count, log, -, -⟩ :=
    leads_to_record maxAge phase notDeleted
  obtain ⟨next, restarts, listed⟩ :=
    leads_to_report maxAge (show (written.withConnector .off).connector = .off from rfl)
  refine ⟨next, writes.trans (.head .crash rfl (act_crash maxAge written) restarts), ?_⟩
  have found : (written.withConnector .off).records.get? request.podId = some create := by
    simp [World.withConnector, records]
  rw [listed request.podId create found (by simp [count, unknown, maxCreateResumes])]
  exact congrArg (listings request.podId · + 1) log

theorem leads_to_removal {jobs : List Job}
    (last : world.connector.jobs = jobs ++ [.driving podId])
    (recorded : world.records.contains podId = true) :
    ∃ next, Leads maxAge world next ∧
      next.log = .removed podId .completedCreate :: world.log := by
  let ended := world.setJob jobs.length (.removing podId)
  have ends : Leads maxAge world ended := leads_by_job maxAge phase last 0 rfl
  have endedJobs : ended.connector.jobs = jobs ++ [.removing podId] := by
    simp [ended, World.setJob, World.withConnector, last]
  refine ⟨_, ends.trans (@leads_by_job maxAge ended phase _ _ _ endedJobs 0 rfl), ?_⟩
  have same : ended.records = world.records := rfl
  simp [World.withConnector, World.setJob, World.remove, same, recorded]
  rfl

theorem leads_from_create_to_removal (request : ContainerCreateRequest)
    (recorded : world.records.contains request.podId = true) :
    ∃ next, Leads maxAge (world.withConnector (takeCreate request world.connector)) next ∧
      next.log = .removed request.podId .completedCreate :: world.log := by
  cases deleted : world.connector.deletedPodIds request.podId with
  | true =>
    have jobs : (takeCreate request world.connector).jobs =
        world.connector.jobs ++ [.driving request.podId] := by
      simp [takeCreate, deleted]
    have taken : (takeCreate request world.connector).phase = .serving := by
      rw [phase_takeCreate, phase]
    exact @leads_to_removal _ maxAge (world.withConnector _) taken _ jobs recorded
  | false =>
    obtain ⟨written, create, writes, records, -, log, serving, jobs⟩ :=
      leads_to_record maxAge phase deleted
    obtain ⟨next, leads, removed⟩ := leads_to_removal maxAge serving jobs
      (by simp [records, PyDict.contains])
    exact ⟨next, writes.trans leads, by rw [removed, log]⟩

theorem leads_from_delete_to_removal (recorded : world.records.contains podId = true) :
    ∃ next, Leads maxAge (world.withConnector (takeDelete podId world.connector)) next ∧
      next.log = .removed podId .delete :: world.log := by
  have taken : (takeDelete podId world.connector).phase = .serving := phase
  have jobs : (takeDelete podId world.connector).jobs =
      world.connector.jobs ++ [.deleting podId] := rfl
  refine ⟨_, @leads_by_job maxAge (world.withConnector _) taken _ _ _ jobs 0 rfl, ?_⟩
  simp [World.withConnector, World.setJob, World.remove, recorded]

end Deliveries

/-! ## Only orderly runs are robust -/

theorem Robust.of_leads (robust : Robust maxAge actions) {world next : World}
    (played : play maxAge .initial actions = some world) (leads : Leads maxAge world next) :
    Guarantee next.log := by
  obtain ⟨after, others, goesOn⟩ := leads
  refine robust actions after List.prefix_rfl others next ?_
  rw [play, List.foldlM_append, ← play, played]
  exact goesOn

theorem Robust.sent_of_removal (robust : Robust maxAge actions) {world : World}
    (played : play maxAge .initial actions = some world) {cause : Cause} {log : List Event}
    (removal : ∃ next, Leads maxAge world next ∧ next.log = .removed podId cause :: log) :
    unsent podId log = false := by
  obtain ⟨next, leads, removed⟩ := removal
  refine (robust.of_leads played leads).keptUntilSent podId cause log ?_
  rw [removed]

theorem phase_of_isServing {world : World} (serving : world.isServing = true) :
    world.connector.phase = .serving := by
  unfold World.isServing at serving
  split at serving
  next is => exact is
  next => cases serving

section Timely

variable {world : World} (invariant : Invariant world)
  (played : play maxAge .initial actions = some world)

include invariant played

theorem Robust.timely_create {request : ContainerCreateRequest}
    (robust : Robust maxAge (actions ++ [.create request])) : Timely world (.create request) := by
  intro serving
  have phase := phase_of_isServing serving
  have taken : play maxAge .initial (actions ++ [.create request]) =
      some (world.withConnector (takeCreate request world.connector)) := by
    rw [play_concat, played]
    exact act_of_serving phase (by simp)
  constructor
  · by_contra waits
    rw [Bool.not_eq_false] at waits
    have recorded := invariant.durable.recorded request.podId waits
    have sent := robust.sent_of_removal taken
      (leads_from_create_to_removal maxAge phase request recorded)
    exact absurd (sent.symm.trans waits) (by simp)
  · by_contra untimely
    push Not at untimely
    obtain ⟨listed, unknown, notDeleted⟩ := untimely
    obtain ⟨next, leads, again⟩ := leads_to_listing maxAge phase (by simpa using unknown)
      (by simpa using notDeleted)
    have bound := (robust.of_leads taken leads).listedAtMost next.log List.suffix_rfl request.podId
    rw [again, maxCreateResumes] at bound
    omega

theorem Robust.timely_delete (robust : Robust maxAge (actions ++ [.delete podId])) :
    Timely world (.delete podId) := by
  intro serving
  have phase := phase_of_isServing serving
  have taken : play maxAge .initial (actions ++ [.delete podId]) =
      some (world.withConnector (takeDelete podId world.connector)) := by
    rw [play_concat, played]
    exact act_of_serving phase (by simp)
  by_contra waits
  rw [Bool.not_eq_false] at waits
  have recorded := invariant.durable.recorded podId waits
  have sent := robust.sent_of_removal taken (leads_from_delete_to_removal maxAge phase recorded)
  exact absurd (sent.symm.trans waits) (by simp)

end Timely

theorem Robust.orderly (robust : Robust maxAge actions) :
    Orderly maxAge actions := by
  induction actions using List.reverseRecOn with
  | nil =>
    intro before action is
    simp at is
  | append_singleton actions action induction =>
    have earlier : Robust maxAge actions := fun before after cut =>
      robust before after (cut.trans (List.prefix_append _ _))
    have orderly := induction earlier
    refine orderly_concat_iff.mpr ⟨orderly, fun world played => ?_⟩
    have invariant := orderly.invariant played
    cases action with
    | create request => exact robust.timely_create invariant played
    | delete podId => exact robust.timely_delete invariant played
    | _ => trivial

/-- No create is resumed too often or forgotten exactly when none is delivered after its pod was
listed with no count waiting for it, nor any delivery while the pod's failed request waits. -/
theorem robust_iff_orderly (maxAge : ℤ) (actions : List Action) :
    Robust maxAge actions ↔ Orderly maxAge actions :=
  ⟨Robust.orderly, Orderly.robust⟩

/-! ## A create delivered twice after a restart -/

namespace Sample

def request : ContainerCreateRequest := ⟨"pod", "hotkey", "executor", .customerRental⟩

def record (resumes : ℕ) : InflightBackendCreate :=
  ⟨"hotkey", "executor", .customerRental, 0, resumes⟩

def twiceDelivered : List Action :=
  [.start [] [], .report, .create request, .advance 0 0, .crash,
    .start [("pod", record 0)] [], .sweepNext 0, .report,
    .create request, .advance 0 0, .create request, .advance 1 0, .crash,
    .start [("pod", record 0)] [], .sweepNext 0, .report]

end Sample

theorem second_delivery_forgets_resume :
    ∃ world, play 3900 .initial Sample.twiceDelivered = some world ∧ ¬ Guarantee world.log := by
  have log : (play 3900 .initial Sample.twiceDelivered).map (·.log) =
      some [.reported ["pod"], .swept ["pod"], .reported ["pod"], .swept ["pod"], .reported [],
        .swept []] := by
    decide +kernel
  obtain ⟨world, played, is⟩ := Option.map_eq_some_iff.mp log
  refine ⟨world, played, fun guarantee => ?_⟩
  have bound := guarantee.listedAtMost world.log List.suffix_rfl "pod"
  rw [is] at bound
  exact absurd bound (by decide)

end Lium.RestartResumes
