import Lium.Foundation.Text
import Lium.Validator.BackendCommands

/-! # One run per answer

An update needs the stored claim, a finished record is replayed until it expires, and a job that
gave no answer lets its claim go. A job starts next to another claim only if its own ran out.
-/

namespace Lium.BackendCommands

variable {record : BackendCommand} {phase : Phase} {delivery now deadline : ℕ} {ρ : Type}
  {setup : Setup ρ}

section Rely

/-! What a delivery leaves of a key it does not hold. -/

variable {key : ExpiringKey BackendCommand}

theorem claim_injective (distinct : Function.Injective setup.owner) :
    Function.Injective setup.claim := by
  intro first second same
  exact distinct (congrArg BackendCommand.owner same)

theorem updateBackendCommand_of_ne {value : Option BackendCommand}
    (other : key.map Prod.fst ≠ some (setup.claim delivery)) :
    setup.updateBackendCommand delivery value deadline key = key :=
  ExpiringKey.compareAndSet_of_ne other

theorem finalValue_ne {value : BackendCommand} (running : value.state = .running)
    (succeeded : Bool) (responses : List String) :
    finalValue succeeded responses ≠ some value := by
  rw [finalValue]
  split
  · rintro ⟨⟩
    cases running
  · simp

/-- What a command can do to the key: set it where it is absent, or update its own claim. -/
theorem deliver_key (phase : Phase) (command : Command ρ) :
    let next := (setup.deliver delivery now key phase command).key
    next = key ∨ (key = none ∧ ∃ deadline, next = some (setup.claim delivery, deadline)) ∨
      ∃ value deadline, next = setup.updateBackendCommand delivery value deadline key ∧
        (value = some (setup.claim delivery) ∨ ∃ succeeded responses,
          phase = .finishing succeeded responses ∧ value = finalValue succeeded responses) := by
  fun_cases Setup.deliver setup delivery now key phase command with
  | case1 reply =>
    cases key with
    | none =>
      cases reply with
      | failed => exact .inl rfl
      | _ => exact .inr (.inl ⟨rfl, _, rfl⟩)
    | some entry => cases reply <;> exact .inl rfl
  | case2 reply =>
    left
    rw [Setup.getClaim.eq_def]
    repeat' split
    all_goals rfl
  | case4 found =>
    left
    rw [Setup.handleDuplicate]
    repeat' split
    all_goals rfl
  | case8 succeeded responses reply =>
    cases reply with
    | failed => exact .inl rfl
    | _ => exact .inr (.inr ⟨_, _, rfl, .inr ⟨_, _, rfl, rfl⟩⟩)
  | case9 phase reply =>
    rw [Setup.refreshed]
    split
    · exact .inr (.inr ⟨_, _, rfl, .inl rfl⟩)
    · exact .inl rfl
  | _ => exact .inl rfl

theorem deliver_key_of_taken {existing : BackendCommand}
    (other : existing ≠ setup.claim delivery) (phase : Phase) (command : Command ρ) :
    (setup.deliver delivery now (some (existing, deadline)) phase command).key =
      some (existing, deadline) := by
  rcases deliver_key phase command with same | ⟨absent, -⟩ | ⟨value, later, updated, -⟩
  · exact same
  · cases absent
  · rw [updated]
    exact updateBackendCommand_of_ne (by simpa using other)

theorem deliver_key_ne {value : BackendCommand}
    (absent : key.map Prod.fst ≠ some value) (other : setup.claim delivery ≠ value)
    (running : value.state = .running) (phase : Phase) (command : Command ρ) :
    (setup.deliver delivery now key phase command).key.map Prod.fst ≠ some value := by
  rcases deliver_key phase command with same | ⟨-, _, claimed⟩ | ⟨stored, _, updated, written⟩
  · rwa [same]
  · simpa [claimed] using other
  · rw [updated]
    apply ExpiringKey.compareAndSet_ne absent
    rcases written with rfl | ⟨succeeded, responses, -, rfl⟩
    · simpa using other
    · exact finalValue_ne running succeeded responses

end Rely

section Lease

/-- A delivery about to start its job has the stored claim while that has not run out, and one
whose final update succeeded has none. -/
structure Lawful (setup : Setup ρ) (delivery now : ℕ) (key : ExpiringKey BackendCommand)
    (phase : Phase) : Prop where
  granted : ∀ deadline, phase = .granted deadline → now < deadline →
    key = some (setup.claim delivery, deadline)
  released : ∀ succeeded responses, phase = .ended succeeded responses true →
    key.map Prod.fst ≠ some (setup.claim delivery)

variable {key : ExpiringKey BackendCommand}

theorem handleDuplicate_phase (existing : BackendCommand) :
    (setup.handleDuplicate existing key).phase ∈ [Phase.answered, .unguarded, .ignored] := by
  rw [Setup.handleDuplicate]
  split
  · split <;> simp
  · simp

section

variable (lawful : Lawful setup delivery now key phase)
include lawful

theorem Lawful.refreshed (reply : Reply) :
    Lawful setup delivery now (setup.refreshed delivery now key phase reply) phase := by
  constructor
  · intro deadline isGranted live
    rw [isGranted]
    simpa [Setup.refreshed, Phase.underClaim] using lawful.granted deadline isGranted live
  · intro succeeded responses isEnded
    have gone := lawful.released succeeded responses isEnded
    simpa only [Setup.refreshed, updateBackendCommand_of_ne gone, ite_self] using gone

theorem Lawful.deliver (command : Command ρ) :
    Lawful setup delivery now (setup.deliver delivery now key phase command).key
      (setup.deliver delivery now key phase command).phase := by
  fun_cases Setup.deliver setup delivery now key phase command with
  | case1 reply =>
    cases reply with
    | received => cases key <;> constructor <;> simp [Setup.setClaim]
    | _ => constructor <;> simp [Setup.setClaim]
  | case2 reply =>
    cases reply with
    | received =>
      simp only [Setup.getClaim]
      split
      · constructor <;> simp
      · split <;> constructor <;> simp_all
    | _ => constructor <;> simp [Setup.getClaim]
  | case4 existing =>
    have ends : (setup.handleDuplicate existing key).phase ∈ _ := handleDuplicate_phase existing
    constructor
    · intro deadline isGranted
      simp [isGranted] at ends
    · intro succeeded responses isEnded
      simp [isEnded] at ends
  | case8 succeeded responses reply =>
    cases reply with
    | received =>
      constructor
      · simp [Setup.finishCommand]
      · intro _ _ _
        exact ExpiringKey.compareAndSet_released (finalValue_ne rfl _ _)
    | _ => constructor <;> simp [Setup.finishCommand]
  | case9 phase reply => exact lawful.refreshed reply
  | case10 phase command => exact lawful
  | _ => constructor <;> simp

theorem Lawful.deliver_other
    (distinct : Function.Injective setup.owner) {other : ℕ} (apart : other ≠ delivery)
    (otherPhase : Phase) (command : Command ρ) :
    Lawful setup delivery now (setup.deliver other now key otherPhase command).key phase := by
  have claims : setup.claim other ≠ setup.claim delivery :=
    (claim_injective distinct).ne apart
  constructor
  · intro deadline isGranted live
    rw [lawful.granted deadline isGranted live]
    exact deliver_key_of_taken claims.symm otherPhase command
  · intro succeeded responses isEnded
    exact deliver_key_ne (lawful.released succeeded responses isEnded) claims rfl otherPhase command

theorem Lawful.wait (seconds : ℕ) :
    Lawful setup delivery (now + seconds) (key.expire (now + seconds)) phase := by
  constructor
  · intro deadline isGranted live
    rw [lawful.granted deadline isGranted (by omega)]
    exact ExpiringKey.expire_of_lt live
  · intro succeeded responses isEnded
    exact ExpiringKey.map_expire_ne (lawful.released succeeded responses isEnded)

end

end Lease

section Records

def Setup.Dumped (setup : Setup ρ) (texts : List String) : Prop :=
  ∃ replies : List ρ, texts = replies.map setup.modelDumpJson

def Setup.RecordDumped (setup : Setup ρ) (record : BackendCommand) : Prop :=
  record.state = .finished → setup.Dumped record.responses

def Setup.KeyDumped (setup : Setup ρ) (key : ExpiringKey BackendCommand) : Prop :=
  ∀ entry ∈ key, setup.RecordDumped entry.1

def Setup.PhaseDumped (setup : Setup ρ) : Phase → Prop
  | .duplicate existing => setup.RecordDumped existing
  | .running responses => setup.Dumped responses
  | .finishing _ responses => setup.Dumped responses
  | _ => True

variable {key : ExpiringKey BackendCommand}

theorem recordDumped_claim (delivery : ℕ) : setup.RecordDumped (setup.claim delivery) := by
  intro isFinished
  cases isFinished

theorem recordDumped_finalValue {responses : List String} (dumped : setup.Dumped responses)
    (succeeded : Bool) : ∀ record ∈ finalValue succeeded responses, setup.RecordDumped record := by
  intro record final
  rw [finalValue] at final
  split at final
  · cases final
    intro _
    exact dumped
  · cases final

theorem keyDumped_deliver (keyDumped : setup.KeyDumped key)
    (phaseDumped : setup.PhaseDumped phase) (command : Command ρ) :
    setup.KeyDumped (setup.deliver delivery now key phase command).key := by
  rcases deliver_key phase command with same | ⟨-, _, claimed⟩ | ⟨value, _, updated, written⟩
  · rwa [same]
  · rw [claimed]
    rintro _ ⟨⟩
    exact recordDumped_claim delivery
  · rw [updated, Setup.updateBackendCommand, ExpiringKey.compareAndSet]
    split
    · intro entry member
      rcases Option.map_eq_some_iff.mp member with ⟨record, rfl, rfl⟩
      rcases written with claimed | ⟨succeeded, responses, rfl, final⟩
      · cases claimed
        exact recordDumped_claim delivery
      · exact recordDumped_finalValue phaseDumped succeeded record final.symm
    · exact keyDumped

theorem phaseDumped_deliver (keyDumped : setup.KeyDumped key)
    (phaseDumped : setup.PhaseDumped phase) (command : Command ρ) :
    setup.PhaseDumped (setup.deliver delivery now key phase command).phase := by
  fun_cases Setup.deliver setup delivery now key phase command with
  | case1 reply =>
    cases reply with
    | received => cases key <;> trivial
    | _ => trivial
  | case2 reply =>
    cases reply with
    | received =>
      cases key with
      | none => trivial
      | some entry =>
        simp only [Setup.getClaim]
        split
        · trivial
        · exact keyDumped entry rfl
    | _ => trivial
  | case4 existing =>
    rw [Setup.handleDuplicate]
    repeat' split
    all_goals trivial
  | case3 => exact ⟨[], rfl⟩
  | case5 responses response =>
    rcases phaseDumped with ⟨replies, rfl⟩
    exact ⟨replies ++ [response], by simp⟩
  | case8 succeeded responses reply =>
    cases reply with
    | lost => exact phaseDumped
    | _ => trivial
  | _ => exact phaseDumped

end Records

variable {command : Command ρ}

section Silence

/-- The delivery has neither started a job nor found out that it is a duplicate to ignore. -/
def Phase.undecided : Phase → Bool
  | .claiming => true
  | .refused => true
  | .granted _ => true
  | .duplicate _ => true
  | _ => false

variable {key : ExpiringKey BackendCommand}

theorem deliver_undecided
    (undecided : (setup.deliver delivery now key phase command).phase.undecided = true) :
    phase.undecided = true ∧ (setup.deliver delivery now key phase command).sent = [] ∧
      (setup.deliver delivery now key phase command).startsJob = false := by
  revert undecided
  fun_cases Setup.deliver setup delivery now key phase command with
  | case1 reply =>
    cases reply with
    | received => cases key <;> simp [Setup.setClaim, Phase.undecided]
    | _ => simp [Setup.setClaim, Phase.undecided]
  | case2 reply =>
    cases reply with
    | received =>
      cases key with
      | none => simp [Setup.getClaim, Phase.undecided]
      | some entry =>
        simp only [Setup.getClaim]
        split <;> simp [Phase.undecided]
    | _ => simp [Setup.getClaim, Phase.undecided]
  | case4 existing =>
    intro undecided
    have ends : (setup.handleDuplicate existing key).phase ∈ _ := handleDuplicate_phase existing
    generalize (setup.handleDuplicate existing key).phase = next at ends undecided
    simp only [List.mem_cons, List.not_mem_nil, or_false] at ends
    rcases ends with rfl | rfl | rfl <;> cases undecided
  | case8 succeeded responses reply => cases reply <;> simp [Setup.finishCommand, Phase.undecided]
  | _ => simp [Phase.undecided]

theorem sentBy_afterEffect (state : State ρ) (delivery other : ℕ) (effect : Effect ρ) :
    (state.afterEffect delivery effect).sentBy other =
      state.sentBy other ++ if other = delivery then effect.sent else [] := by
  rw [State.sentBy, State.afterEffect, List.filterMap_append, ← State.sentBy, List.filterMap_map]
  by_cases same : other = delivery
  · subst same
    simp
  · simp [Ne.symm same, same]

theorem mem_started_afterEffect (state : State ρ) (delivery other : ℕ) (effect : Effect ρ) :
    other ∈ (state.afterEffect delivery effect).started ↔
      other ∈ state.started ∨ other = delivery ∧ effect.startsJob = true := by
  rw [State.afterEffect, List.mem_append]
  split
  · next starts => simp [starts]
  · next rests => simp [rests]

end Silence

structure Invariant (setup : Setup ρ) (state : State ρ) : Prop where
  lawful : ∀ delivery, Lawful setup delivery state.now state.key (state.phases delivery)
  keyDumped : setup.KeyDumped state.key
  phaseDumped : ∀ delivery, setup.PhaseDumped (state.phases delivery)
  silent : ∀ delivery, (state.phases delivery).undecided = true →
    state.sentBy delivery = [] ∧ delivery ∉ state.started

theorem invariant_start : Invariant setup (.start : State ρ) where
  lawful delivery := by constructor <;> simp [State.start]
  keyDumped := by
    intro entry member
    cases member
  phaseDumped _ := trivial
  silent _ _ := ⟨rfl, by simp [State.start]⟩

theorem Invariant.step {state : State ρ} (invariant : Invariant setup state)
    (distinct : Function.Injective setup.owner) (event : Event ρ) :
    Invariant setup (setup.step state event) := by
  cases event with
  | wait seconds =>
    constructor
    · intro delivery
      exact (invariant.lawful delivery).wait seconds
    · intro entry member
      exact invariant.keyDumped entry (Option.filter_eq_some_iff.mp member).1
    · exact invariant.phaseDumped
    · exact invariant.silent
  | act delivery command =>
    have dumped := invariant.phaseDumped delivery
    constructor
    · intro other
      by_cases same : other = delivery
      · subst same
        simpa [Setup.step, State.afterEffect] using (invariant.lawful other).deliver command
      · simpa [Setup.step, State.afterEffect, same] using
          (invariant.lawful other).deliver_other distinct (Ne.symm same) _ command
    · exact keyDumped_deliver invariant.keyDumped dumped command
    · intro other
      by_cases same : other = delivery
      · subst same
        simpa [Setup.step, State.afterEffect] using
          phaseDumped_deliver invariant.keyDumped dumped command
      · simpa [Setup.step, State.afterEffect, same] using invariant.phaseDumped other
    · intro other undecided
      rw [Setup.step, sentBy_afterEffect, mem_started_afterEffect]
      by_cases same : other = delivery
      · subst same
        rcases deliver_undecided (by simpa [Setup.step, State.afterEffect] using undecided)
          with ⟨before, unsent, unstarted⟩
        simpa [unsent, unstarted] using invariant.silent other before
      · have before : (state.phases other).undecided = true := by
          simpa [Setup.step, State.afterEffect, same] using undecided
        simpa [same] using invariant.silent other before

theorem Invariant.run {state : State ρ} (invariant : Invariant setup state)
    (distinct : Function.Injective setup.owner) (events : List (Event ρ)) :
    Invariant setup (setup.run events state) := by
  induction events generalizing state with
  | nil => exact invariant
  | cons event events induction => exact induction (invariant.step distinct event)

section Replay

variable {replies : List ρ}

theorem mapM_parse (parses : ∀ reply, setup.parse (setup.modelDumpJson reply) = some reply)
    (replies : List ρ) : (replies.map setup.modelDumpJson).mapM setup.parse = some replies := by
  induction replies with
  | nil => rfl
  | cons reply replies induction => simp [parses, induction]

def ReplayStage (record : BackendCommand) (replies : List ρ) (phase : Phase) (sent : List ρ) :
    Prop :=
  (phase = .claiming ∨ phase = .refused ∨ phase = .duplicate record) ∧ sent = [] ∨
    phase = .answered ∧ sent = replies

/-- The finished record, with the responses it is the record of. -/
structure Recorded (setup : Setup ρ) (record : BackendCommand) (replies : List ρ) : Prop where
  finished : record.state = .finished
  dumped : record.responses = replies.map setup.modelDumpJson
  parses : ∀ reply, setup.parse (setup.modelDumpJson reply) = some reply

theorem Recorded.ne_claim (recorded : Recorded setup record replies) (delivery : ℕ) :
    record ≠ setup.claim delivery := by
  intro same
  have isFinished := recorded.finished
  rw [same] at isFinished
  cases isFinished

theorem Recorded.handleDuplicate (recorded : Recorded setup record replies)
    (key : ExpiringKey BackendCommand) :
    setup.handleDuplicate record key = ⟨key, .answered, replies, false⟩ := by
  rw [Setup.handleDuplicate, recorded.finished, recorded.dumped, mapM_parse recorded.parses]

variable {state : State ρ}

theorem ReplayStage.deliver (recorded : Recorded setup record replies) {sent : List ρ}
    (stage : ReplayStage record replies phase sent) (answered : command.ClaimAnswered) :
    ReplayStage record replies
        (setup.deliver delivery now (some (record, deadline)) phase command).phase
        (sent ++ (setup.deliver delivery now (some (record, deadline)) phase command).sent) ∧
      (setup.deliver delivery now (some (record, deadline)) phase command).startsJob = false := by
  rcases stage with ⟨rfl | rfl | rfl, rfl⟩ | ⟨rfl, rfl⟩
  · cases command with
    | setNx reply =>
      cases reply with
      | received => simp [Setup.deliver, Setup.setClaim, ReplayStage]
      | lost => simp [Setup.deliver, Setup.setClaim, ReplayStage]
      | failed => exact absurd rfl answered.1
    | _ => simp [Setup.deliver, ReplayStage]
  · cases command with
    | get reply =>
      cases reply with
      | received =>
        simp [Setup.deliver, Setup.getClaim, recorded.ne_claim, ReplayStage]
      | lost => simp [Setup.deliver, Setup.getClaim, ReplayStage]
      | failed => exact absurd rfl answered.2
    | _ => simp [Setup.deliver, ReplayStage]
  · cases command with
    | resume => simp [Setup.deliver, recorded.handleDuplicate, ReplayStage]
    | _ => simp [Setup.deliver, ReplayStage]
  · cases command <;> simp [Setup.deliver, ReplayStage]

/-- The record is stored, and a delivery that came after it is being answered from it. -/
structure Replays (record : BackendCommand) (replies : List ρ) (deadline delivery : ℕ)
    (state : State ρ) : Prop where
  stored : state.key = some (record, deadline)
  stage : ReplayStage record replies (state.phases delivery) (state.sentBy delivery)
  unstarted : delivery ∉ state.started

theorem Replays.step (recorded : Recorded setup record replies)
    (replays : Replays record replies deadline delivery state) {event : Event ρ}
    (answered : event.ClaimAnswered) (live : (setup.step state event).now < deadline) :
    Replays record replies deadline delivery (setup.step state event) := by
  cases event with
  | wait seconds =>
    constructor
    · change state.key.expire (state.now + seconds) = _
      rw [replays.stored]
      exact ExpiringKey.expire_of_lt live
    · exact replays.stage
    · exact replays.unstarted
  | act acting command =>
    constructor
    · change (setup.deliver acting state.now state.key _ command).key = _
      rw [replays.stored]
      exact deliver_key_of_taken (recorded.ne_claim acting) _ command
    · rw [Setup.step, sentBy_afterEffect, replays.stored]
      by_cases same : delivery = acting
      · subst same
        simpa [State.afterEffect] using (replays.stage.deliver recorded answered).1
      · simpa [State.afterEffect, same] using replays.stage
    · rw [Setup.step, mem_started_afterEffect, replays.stored]
      intro starts
      rcases starts with before | ⟨rfl, starts⟩
      · exact replays.unstarted before
      · rw [(replays.stage.deliver recorded answered).2] at starts
        cases starts

theorem now_le_step (state : State ρ) (event : Event ρ) :
    state.now ≤ (setup.step state event).now := by
  cases event with
  | wait seconds => exact Nat.le_add_right _ _
  | act delivery command => exact Nat.le_refl _

theorem now_le_run (events : List (Event ρ)) (state : State ρ) :
    state.now ≤ (setup.run events state).now := by
  induction events generalizing state with
  | nil => exact Nat.le_refl _
  | cons event events induction => exact Nat.le_trans (now_le_step state event) (induction _)

theorem Replays.run (recorded : Recorded setup record replies)
    (replays : Replays record replies deadline delivery state) {events : List (Event ρ)}
    (answered : ∀ event ∈ events, event.ClaimAnswered)
    (live : (setup.run events state).now < deadline) :
    Replays record replies deadline delivery (setup.run events state) := by
  induction events generalizing state with
  | nil => exact replays
  | cons event events induction =>
    have liveStep : (setup.step state event).now < deadline :=
      Nat.lt_of_le_of_lt (now_le_run events _) live
    have stepped := replays.step recorded (answered event List.mem_cons_self) liveStep
    apply induction stepped
    · intro later member
      exact answered later (List.mem_cons_of_mem _ member)
    · exact live

def replayRest : Phase → List (Command ρ)
  | .claiming => [.setNx .received, .get .received, .resume]
  | .refused => [.get .received, .resume]
  | .duplicate _ => [.resume]
  | _ => []

theorem Replays.rest (recorded : Recorded setup record replies)
    (replays : Replays record replies deadline delivery state) :
    ((setup.run ((replayRest (state.phases delivery)).map (.act delivery)) state).phases
      delivery) = .answered := by
  rcases replays.stage with ⟨phase | phase | phase, -⟩ | ⟨phase, -⟩
  all_goals
    simp [phase, replayRest, Setup.run, Setup.step, Setup.deliver, Setup.setClaim, Setup.getClaim,
      State.afterEffect, replays.stored, recorded.ne_claim, recorded.handleDuplicate]

theorem now_run_acts (delivery : ℕ) (commands : List (Command ρ)) (state : State ρ) :
    (setup.run (commands.map (.act delivery)) state).now = state.now := by
  induction commands generalizing state with
  | nil => rfl
  | cons command commands induction => exact induction _

theorem replayRest_length (phase : Phase) : (replayRest phase : List (Command ρ)).length ≤ 3 := by
  cases phase <;> simp [replayRest]

end Replay

section OneRun

variable (setup) (state : State ρ)

/-- An update of a delivery whose claim is not the stored value leaves the key alone. -/
def UpdatesNeedClaim : Prop :=
  ∀ delivery command, (∃ reply, command = .heartbeat reply ∨ command = .update reply) →
    state.key.map Prod.fst ≠ some (setup.claim delivery) →
    (setup.step state (.act delivery command)).key = state.key

def Starts (event : Event ρ) (delivery : ℕ) : Prop :=
  (setup.step state event).started = state.started ++ [delivery]

/-- No job starts while another delivery's claim is stored. -/
def ExclusiveStarts : Prop :=
  ∀ event delivery, event.ClaimAnswered → Starts setup state event delivery →
    ∀ other deadline, state.key = some (setup.claim other, deadline) → delivery = other

/-- A job starts while another delivery's claim is stored only if the claim it starts under has
run out since it was set. -/
def ExclusiveWithinLease : Prop :=
  ∀ event delivery, event.ClaimAnswered → Starts setup state event delivery →
    ∀ other deadline, state.key = some (setup.claim other, deadline) →
      delivery = other ∨ ∃ ownDeadline ≤ state.now, state.phases delivery = .granted ownDeadline

/-- The delivery has appended nothing or exactly the replies, has started no job, and gets to
the end with three more commands at most. -/
def AnswersFrom (replies : List ρ) (delivery : ℕ) : Prop :=
  (state.sentBy delivery = [] ∨ state.phases delivery = .answered ∧
    state.sentBy delivery = replies) ∧
  delivery ∉ state.started ∧
  ∃ rest : List (Command ρ), rest.length ≤ 3 ∧
    (setup.run (rest.map (.act delivery)) state).phases delivery = .answered ∧
    (setup.run (rest.map (.act delivery)) state).sentBy delivery = replies ∧
    delivery ∉ (setup.run (rest.map (.act delivery)) state).started

/-- Until a finished record expires, it answers every delivery that comes after it. -/
def RecordAnswers : Prop :=
  ∀ record deadline, state.key = some (record, deadline) → record.state = .finished →
    ∃ replies : List ρ, record.responses = replies.map setup.modelDumpJson ∧
      ∀ delivery later, state.phases delivery = .claiming →
        (∀ event ∈ later, event.ClaimAnswered) → (setup.run later state).now < deadline →
        AnswersFrom setup (setup.run later state) replies delivery

/-- A failure without any response leaves no claim behind, when its update succeeds. -/
def FailureReleases : Prop :=
  ∀ delivery, state.phases delivery = .ended false [] true →
    state.key.map Prod.fst ≠ some (setup.claim delivery)

variable {setup} {state}

theorem updatesNeedClaim : UpdatesNeedClaim setup state := by
  intro delivery command updates foreign
  change (setup.deliver delivery state.now state.key _ command).key = state.key
  rcases updates with ⟨reply, rfl | rfl⟩
  · simp only [Setup.deliver, Setup.refreshed, updateBackendCommand_of_ne foreign, ite_self]
  · cases state.phases delivery with
    | finishing succeeded responses =>
      cases reply <;>
        simp [Setup.deliver, Setup.finishCommand, updateBackendCommand_of_ne foreign]
    | _ => rfl

theorem Invariant.granted_of_startsJob (invariant : Invariant setup state)
    (parses : ∀ reply, setup.parse (setup.modelDumpJson reply) = some reply)
    (answered : command.ClaimAnswered)
    (starts : (setup.deliver delivery state.now state.key (state.phases delivery)
      command).startsJob = true) :
    ∃ deadline, state.phases delivery = .granted deadline := by
  have dumped := invariant.phaseDumped delivery
  revert starts dumped
  generalize state.phases delivery = phase
  fun_cases Setup.deliver setup delivery state.now state.key phase command with
  | case1 reply =>
    cases reply with
    | received => cases state.key <;> simp [Setup.setClaim]
    | lost => simp [Setup.setClaim]
    | failed => exact absurd rfl answered.1
  | case2 reply =>
    cases reply with
    | received =>
      cases state.key with
      | none => simp [Setup.getClaim]
      | some entry =>
        simp only [Setup.getClaim]
        split <;> simp
    | lost => simp [Setup.getClaim]
    | failed => exact absurd rfl answered.2
  | case3 deadline =>
    intro _ _
    exact ⟨deadline, rfl⟩
  | case4 existing =>
    intro starts dumped
    cases finished : existing.state with
    | running => simp [Setup.handleDuplicate, finished] at starts
    | finished =>
      rcases dumped finished with ⟨replies, texts⟩
      simp [Setup.handleDuplicate, finished, texts, mapM_parse parses] at starts
  | case8 succeeded responses reply => cases reply <;> simp [Setup.finishCommand]
  | _ => simp

theorem Invariant.exclusiveWithinLease (invariant : Invariant setup state)
    (distinct : Function.Injective setup.owner)
    (parses : ∀ reply, setup.parse (setup.modelDumpJson reply) = some reply) :
    ExclusiveWithinLease setup state := by
  intro event delivery answered starts other deadline stored
  cases event with
  | wait seconds => simp [Starts, Setup.step, State.afterWait] at starts
  | act acting command =>
    rw [Starts, Setup.step, State.afterEffect, List.append_cancel_left_eq] at starts
    split at starts
    · next startsJob =>
        cases starts
        rcases invariant.granted_of_startsJob parses answered startsJob with ⟨own, granted⟩
        by_cases live : state.now < own
        · have held := (invariant.lawful _).granted own granted live
          rw [stored] at held
          have claims := congrArg Prod.fst (Option.some.inj held)
          exact .inl (claim_injective distinct claims).symm
        · exact .inr ⟨own, Nat.le_of_not_lt live, granted⟩
    · cases starts

theorem Replays.answersFrom {replies : List ρ} (recorded : Recorded setup record replies)
    (replays : Replays record replies deadline delivery state) (live : state.now < deadline) :
    AnswersFrom setup state replies delivery := by
  constructor
  · rcases replays.stage with ⟨-, unsent⟩ | answered
    · exact .inl unsent
    · exact .inr answered
  constructor
  · exact replays.unstarted
  · have phase := replays.rest recorded
    have answered : ∀ event ∈ (replayRest (state.phases delivery)).map (Event.act delivery),
        Event.ClaimAnswered (ρ := ρ) event := by
      cases state.phases delivery <;>
        simp [replayRest, Event.ClaimAnswered, Command.ClaimAnswered]
    have still := replays.run recorded answered (by rwa [now_run_acts])
    exists replayRest (state.phases delivery)
    constructor
    · exact replayRest_length _
    constructor
    · exact phase
    constructor
    · rcases still.stage with ⟨early, -⟩ | ⟨-, sent⟩
      · simp [phase] at early
      · exact sent
    · exact still.unstarted

theorem Invariant.recordAnswers (invariant : Invariant setup state)
    (parses : ∀ reply, setup.parse (setup.modelDumpJson reply) = some reply) :
    RecordAnswers setup state := by
  intro record deadline stored finished
  rcases invariant.keyDumped _ stored finished with ⟨replies, dumped⟩
  exists replies
  constructor
  · exact dumped
  · intro delivery later claiming answered live
    have silent := invariant.silent delivery (by rw [claiming]; rfl)
    have recorded : Recorded setup record replies := ⟨finished, dumped, parses⟩
    have replays : Replays record replies deadline delivery state :=
      ⟨stored, .inl ⟨.inl claiming, silent.1⟩, silent.2⟩
    exact (replays.run recorded answered live).answersFrom recorded live

/-- After any events, with no Redis error on a claim. -/
theorem command_runs_once_per_answer (setup : Setup ρ)
    (distinct : Function.Injective setup.owner)
    (parses : ∀ reply, setup.parse (setup.modelDumpJson reply) = some reply)
    (events : List (Event ρ)) :
    UpdatesNeedClaim setup (setup.run events .start) ∧
      ExclusiveWithinLease setup (setup.run events .start) ∧
      RecordAnswers setup (setup.run events .start) ∧
      FailureReleases setup (setup.run events .start) := by
  have invariant := invariant_start.run distinct events
  constructor
  · exact updatesNeedClaim
  constructor
  · exact invariant.exclusiveWithinLease distinct parses
  constructor
  · exact invariant.recordAnswers parses
  · intro delivery ended
    exact (invariant.lawful delivery).released false [] ended

end OneRun

def textSetup : Setup String := ⟨toString, id, some, 60, 900⟩

theorem textSetup_distinct : Function.Injective textSetup.owner := by
  intro first second same
  have numerals : Text.numeral (toString first) = Text.numeral (toString second) :=
    congrArg Text.numeral same
  rw [Text.numeral_toString, Text.numeral_toString] at numerals
  exact Int.ofNat.inj (Option.some.inj numerals)

def lateStart : List (Event String) :=
  [.act 0 (.setNx .received), .wait 60, .act 1 (.setNx .received)]

theorem command_runs_once_textSetup :
    ExclusiveWithinLease textSetup (textSetup.run lateStart .start) ∧
      RecordAnswers textSetup (textSetup.run lateStart .start) := by
  have all := command_runs_once_per_answer textSetup textSetup_distinct (fun _ => rfl) lateStart
  exact ⟨all.2.1, all.2.2.1⟩

theorem late_start_beside_other_claim :
    ¬ ∀ events : List (Event String), (∀ event ∈ events, event.ClaimAnswered) →
      ExclusiveStarts textSetup (textSetup.run events .start) := by
  intro exclusive
  have answered : ∀ event ∈ lateStart, event.ClaimAnswered := by
    simp [lateStart, Event.ClaimAnswered, Command.ClaimAnswered]
  have same := exclusive lateStart answered (.act 0 .resume) 0
    (by simp [Event.ClaimAnswered, Command.ClaimAnswered]) rfl 1 120 rfl
  cases same

end Lium.BackendCommands
