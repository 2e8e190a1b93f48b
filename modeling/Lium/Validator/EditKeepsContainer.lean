import Lium.Validator.EditSwap
import Mathlib.Data.List.Pairwise

/-! # What a failed edit leaves of the container

On this shell only exit status 0 is a promise. A failed edit loses the container in one way: the
rename back in a park that gave up takes effect unreported, and the undo then removes what bears
the pod's name.
-/

namespace Lium.EditSwap

open Coroutine

variable {id : ℕ} {command : Command}

/-! ## The uncertain shell -/

inductive Report
  | exitZero
  | exitNonZero
  | raises
  | cancels
  deriving DecidableEq

def Report.ending : Report → Ending Bool
  | .exitZero => .returned true
  | .exitNonZero => .returned false
  | .raises => .raised
  | .cancels => .cancelled

/-- A command that was sent, whether it took effect, and what came back. -/
structure Outcome where
  command : Command
  happened : Bool
  report : Report
  deriving DecidableEq

variable {outcome : Outcome}

/-- What can become of a command: exit status 0 means that it took effect. -/
def outcomes (command : Command) (host : Host) : List Outcome :=
  match command.effect host with
  | some _ =>
    [⟨command, true, .exitZero⟩, ⟨command, false, .exitNonZero⟩, ⟨command, true, .exitNonZero⟩,
      ⟨command, false, .raises⟩, ⟨command, true, .raises⟩, ⟨command, false, .cancels⟩,
      ⟨command, true, .cancels⟩]
  | none =>
    [⟨command, false, .exitNonZero⟩, ⟨command, false, .raises⟩, ⟨command, false, .cancels⟩]

abbrev Log := List Outcome

def State.after (state : State Log) (outcome : Outcome) : State Log :=
  { state with
    host := if outcome.happened then (outcome.command.effect state.host).getD state.host
      else state.host
    world := state.world ++ [outcome] }

def uncertain : Shell Log where
  command command := fun state =>
    (outcomes command state.host).map fun outcome => (outcome.report.ending, state.after outcome)
  look := fun state =>
    [(.returned (some state.host), state), (.returned none, state), (.raised, state),
      (.cancelled, state)]

variable {host : Host}

section Shell

variable {state : State Log}

def Outcome.Fits (outcome : Outcome) (host : Host) : Prop :=
  (outcome.happened = true → (outcome.command.effect host).isSome) ∧
    (outcome.report = .exitZero → outcome.happened = true)

theorem fits_of_mem (listed : outcome ∈ outcomes command host) :
    outcome.command = command ∧ outcome.Fits host := by
  rw [outcomes] at listed
  split at listed
  case h_1 left found =>
    have possible : (command.effect host).isSome = true := by rw [found]; rfl
    simp only [List.mem_cons, List.not_mem_nil, or_false] at listed
    rcases listed with rfl | rfl | rfl | rfl | rfl | rfl | rfl <;>
      exact ⟨rfl, fun _ => possible, by simp⟩
  case h_2 =>
    simp only [List.mem_cons, List.not_mem_nil, or_false] at listed
    rcases listed with rfl | rfl | rfl <;> exact ⟨rfl, by simp, by simp⟩

theorem ensures_command {post : Ending Bool → State Log → Prop}
    (each : ∀ outcome : Outcome, outcome.command = command → outcome.Fits state.host →
      post outcome.report.ending (state.after outcome)) :
    Ensures (uncertain.command command) state post := by
  intro ending left reached
  rcases List.mem_map.mp reached with ⟨outcome, listed, equal⟩
  cases equal
  rcases fits_of_mem listed with ⟨same, fits⟩
  exact each outcome same fits

theorem ensures_reported {α : Type} {report : Report} {next : Bool → Coroutine (State Log) α}
    {post : Ending α → State Log → Prop}
    (zero : report = .exitZero → Ensures (next true) state post)
    (nonZero : Ensures (next false) state post) (raised : post .raised state)
    (cancelled : post .cancelled state) : Ensures (resume next report.ending) state post := by
  cases report with
  | exitZero => exact zero rfl
  | exitNonZero => exact nonZero
  | raises => exact (ensures_resume_raised _).mpr raised
  | cancels => exact (ensures_resume_cancelled _).mpr cancelled

theorem ensures_look {post : Ending (Option Host) → State Log → Prop}
    (seen : post (.returned (some state.host)) state) (unseen : post (.returned none) state)
    (raised : post .raised state) (cancelled : post .cancelled state) :
    Ensures uncertain.look state post := by
  intro ending left reached
  simp only [uncertain, List.mem_cons, List.not_mem_nil, or_false, Prod.mk.injEq] at reached
  rcases reached with ⟨rfl, rfl⟩ | ⟨rfl, rfl⟩ | ⟨rfl, rfl⟩ | ⟨rfl, rfl⟩
  · exact seen
  · exact unseen
  · exact raised
  · exact cancelled

theorem ensures_inspectRunning (name : PodName) {holds : State Log → Prop} (held : holds state) :
    Ensures (inspectRunning uncertain name) state fun _ left => holds left := by
  rw [inspectRunning]
  have looked : Ensures uncertain.look state fun _ left => holds left :=
    ensures_look held held held held
  refine looked.bind ?_
  exact fun _ _ held => (ensures_pure _).mpr held

end Shell

/-! ## The outcomes that lose a container -/

/-- The container has its name back, and the swap does not know. -/
def Outcome.RenamesBackUnseen (outcome : Outcome) : Prop :=
  outcome.command = .rename .parked .own ∧ outcome.happened = true ∧ outcome.report ≠ .exitZero

/-- What bears the pod's name is removed. -/
def Outcome.RemovesOwn (outcome : Outcome) : Prop :=
  outcome.command = .remove .own ∧ outcome.happened = true

def Harmless (first second : Outcome) : Prop :=
  ¬ (first.RenamesBackUnseen ∧ second.RemovesOwn)

/-- No rename back that went unseen is followed by a removal by the pod's name. -/
def Log.Harmless (log : Log) : Prop := log.Pairwise EditSwap.Harmless

def State.Seen (state : State Log) : Prop :=
  ∀ outcome ∈ state.world, ¬ outcome.RenamesBackUnseen

def State.Unremoved (state : State Log) : Prop :=
  ∀ outcome ∈ state.world, ¬ outcome.RemovesOwn

section Logs

variable {state : State Log}

theorem seen_after (seen : state.Seen) (last : ¬ outcome.RenamesBackUnseen) :
    (state.after outcome).Seen :=
  List.forall_mem_append.mpr ⟨seen, List.forall_mem_singleton.mpr last⟩

theorem unremoved_after (unremoved : state.Unremoved) (last : ¬ outcome.RemovesOwn) :
    (state.after outcome).Unremoved :=
  List.forall_mem_append.mpr ⟨unremoved, List.forall_mem_singleton.mpr last⟩

theorem harmless_of_seen (seen : state.Seen) : state.world.Harmless :=
  List.pairwise_of_forall_mem_list fun first listed _ _ both => seen first listed both.1

theorem harmless_of_unremoved (unremoved : state.Unremoved) : state.world.Harmless :=
  List.pairwise_of_forall_mem_list fun _ _ second listed both => unremoved second listed both.2

theorem harmless_after_iff (last : ¬ outcome.RemovesOwn) :
    (state.after outcome).world.Harmless ↔ state.world.Harmless := by
  simp only [Log.Harmless, State.after, List.pairwise_append, List.pairwise_singleton, true_and,
    List.mem_singleton]
  constructor
  · exact fun split => split.1
  · intro harmless
    refine ⟨harmless, ?_⟩
    intro first _ second equal both
    rw [equal] at both
    exact last both.2

end Logs

/-! ## Where the container is -/

section Places

variable {state : State Log}

def Host.AtOwn (host : Host) (id : ℕ) : Prop :=
  ∃ container, host.own = some container ∧ container.id = id

def Host.AtParked (host : Host) (id : ℕ) : Prop :=
  ∃ container, host.parked = some container ∧ container.id = id

theorem host_after_cases (fits : outcome.Fits state.host) :
    (outcome.happened = false ∧ (state.after outcome).host = state.host) ∨
      (outcome.happened = true ∧
        outcome.command.effect state.host = some (state.after outcome).host) := by
  cases happened : outcome.happened with
  | false => exact .inl ⟨rfl, by simp [State.after, happened]⟩
  | true =>
    rcases Option.isSome_iff_exists.mp (fits.1 happened) with ⟨left, acts⟩
    exact .inr ⟨rfl, by simp [State.after, happened, acts]⟩

structure Whole (id : ℕ) (state : State Log) : Prop where
  atOwn : state.host.AtOwn id
  unparked : state.parkedName = none
  noReplacement : state.replacementId = none
  seen : state.Seen
  unremoved : state.Unremoved

/-- A swap with nothing to undo: `__aexit__` leaves the node alone. -/
structure Untouched (id : ℕ) (state : State Log) : Prop where
  holds : state.host.Holds id
  unparked : state.parkedName = none
  seen : state.Seen

structure Parked (id : ℕ) (state : State Log) : Prop where
  atParked : state.host.AtParked id
  parked : state.parkedName = some .parked
  noReplacement : state.replacementId = none
  seen : state.Seen
  unremoved : state.Unremoved

structure Mistaken (id : ℕ) (state : State Log) : Prop where
  atOwn : state.host.AtOwn id
  freed : state.host.parked = none
  parked : state.parkedName = some .parked
  noReplacement : state.replacementId = none
  unseen : ∃ outcome ∈ state.world, outcome.RenamesBackUnseen
  unremoved : state.Unremoved

theorem Whole.untouched (whole : Whole id state) : Untouched id state :=
  ⟨.inl whole.atOwn, whole.unparked, whole.seen⟩

theorem Whole.after_remove (whole : Whole id state) (fits : outcome.Fits state.host)
    (command : outcome.command = .remove .parked) : Whole id (state.after outcome) := by
  refine
    { whole with
      atOwn := ?_
      seen := seen_after whole.seen (by simp [Outcome.RenamesBackUnseen, command])
      unremoved := unremoved_after whole.unremoved (by simp [Outcome.RemovesOwn, command]) }
  rcases host_after_cases fits with ⟨_, same⟩ | ⟨_, acts⟩
  · rw [same]
    exact whole.atOwn
  · rw [command] at acts
    rw [effect_remove acts]
    exact whole.atOwn

theorem Whole.after_rename (whole : Whole id state) (fits : outcome.Fits state.host)
    (command : outcome.command = .rename .own .parked) :
    (outcome.happened = false ∧ Whole id (state.after outcome)) ∨
      Parked id ((state.after outcome).parkedAs id) := by
  have seen : (state.after outcome).Seen :=
    seen_after whole.seen (by simp [Outcome.RenamesBackUnseen, command])
  have unremoved : (state.after outcome).Unremoved :=
    unremoved_after whole.unremoved (by simp [Outcome.RemovesOwn, command])
  rcases host_after_cases fits with ⟨idle, same⟩ | ⟨_, acts⟩
  · exact .inl ⟨idle, { whole with atOwn := by rw [same]; exact whole.atOwn, seen, unremoved }⟩
  · right
    rw [command] at acts
    rcases effect_rename acts with ⟨container, found, _, equal⟩
    rcases whole.atOwn with ⟨before, named, identified⟩
    cases named.symm.trans found
    refine ⟨⟨container, ?_, identified⟩, rfl, whole.noReplacement, seen, unremoved⟩
    change (state.after outcome).host.parked = some container
    rw [equal]
    rfl

theorem Parked.untouched_of_unknown (parked : Parked id (state.parkedAs id))
    (unparked : state.parkedName = none) : Untouched id state :=
  ⟨.inr parked.atParked, unparked, parked.seen⟩

theorem Parked.after_switch (parked : Parked id state) (fits : outcome.Fits state.host)
    (switches : outcome.command.Switches .parked) : Parked id (state.after outcome) := by
  refine
    { parked with
      atParked := ?_, seen := seen_after parked.seen ?_
      unremoved := unremoved_after parked.unremoved ?_ }
  · rcases host_after_cases fits with ⟨_, same⟩ | ⟨_, acts⟩
    · rw [same]
      exact parked.atParked
    · rcases effect_switches switches acts with ⟨container, running, found, equal⟩
      rcases parked.atParked with ⟨before, named, identified⟩
      cases named.symm.trans found
      rw [equal]
      exact ⟨_, rfl, identified⟩
  · exact fun unseen => by simp [unseen.1, Command.Switches] at switches
  · exact fun removes => by simp [removes.1, Command.Switches] at switches

theorem Parked.after_renameBack (parked : Parked id state) (fits : outcome.Fits state.host)
    (command : outcome.command = .rename .parked .own) :
    (outcome.happened = false ∧ Parked id (state.after outcome)) ∨
      (outcome.report = .exitZero ∧ Untouched id (state.after outcome).unparked) ∨
        (outcome.report ≠ .exitZero ∧ Mistaken id (state.after outcome)) := by
  have unremoved : (state.after outcome).Unremoved :=
    unremoved_after parked.unremoved (by simp [Outcome.RemovesOwn, command])
  rcases host_after_cases fits with ⟨idle, same⟩ | ⟨happened, acts⟩
  · refine .inl ⟨idle, { parked with atParked := ?_, seen := ?_, unremoved }⟩
    · rw [same]
      exact parked.atParked
    · exact seen_after parked.seen (by simp [Outcome.RenamesBackUnseen, idle])
  · right
    rw [command] at acts
    rcases effect_rename acts with ⟨container, found, _, equal⟩
    rcases parked.atParked with ⟨before, named, identified⟩
    cases named.symm.trans found
    have atOwn : (state.after outcome).host.AtOwn id :=
      ⟨container, by rw [equal]; rfl, identified⟩
    by_cases reported : outcome.report = .exitZero
    · refine .inl ⟨reported, .inl atOwn, rfl, ?_⟩
      exact seen_after parked.seen (by simp [Outcome.RenamesBackUnseen, reported])
    · refine .inr ⟨reported, atOwn, by rw [equal]; rfl, parked.parked, parked.noReplacement, ?_,
        unremoved⟩
      exact ⟨outcome, List.mem_append_right _ (List.mem_singleton.mpr rfl), command, happened,
        reported⟩

end Places

/-! ## Parking -/

section Parking

variable {state : State Log}

def ParkEnds (id : ℕ) {α : Type} : Ending α → State Log → Prop
  | .returned _, left => Parked id left
  | _, left => Untouched id left ∨ Parked id left ∨ Mistaken id left

theorem ensures_switch (command : Command) (parked : Parked id state)
    (switches : command.Switches .parked) :
    Ensures (uncertain.command command) state fun _ left => Parked id left := by
  apply ensures_command
  intro outcome same fits
  exact parked.after_switch fits (by rw [same]; exact switches)

theorem ensures_seenStopped (looks : ℕ) (parked : Parked id state) :
    Ensures (seenStopped uncertain looks) state fun _ left => Parked id left := by
  induction looks generalizing state with
  | zero => exact (ensures_pure _).mpr parked
  | succ looks induction =>
    rw [seenStopped]
    refine (ensures_inspectRunning .parked parked).bind ?_
    intro running left parked
    split
    · exact (ensures_pure _).mpr parked
    · exact induction parked

theorem ensures_killedAfterFailedStop (parked : Parked id state) :
    Ensures (killedAfterFailedStop uncertain) state fun _ left => Parked id left := by
  rw [killedAfterFailedStop]
  refine (ensures_switch (.kill .parked) parked rfl).bind ?_
  intro _ killed parked
  refine (ensures_seenStopped _ parked).bind ?_
  intro isStopped seen parked
  cases isStopped with
  | true => exact (ensures_pure _).mpr parked
  | false =>
    rw [if_neg (by decide)]
    refine (ensures_choose_pair _ _).mpr ⟨?_, ?_⟩
    · exact (ensures_pure _).mpr parked
    · -- dockerd lost the exit event: kill the processes and look once more
      refine (ensures_switch (.killContainerProcesses .parked) parked rfl).bind ?_
      intro _ direct parked
      refine (ensures_inspectRunning .parked parked).bind ?_
      intro running left parked
      simp only [ensures_modify_bind, ensures_pure]
      exact { parked with }

theorem Untouched.failing (untouched : Untouched id state) (error : CreateError) :
    Untouched id (state.failing error) :=
  { untouched with }

theorem ParkEnds.failing {α : Type} {error : CreateError}
    (ends : Untouched id state ∨ Parked id state ∨ Mistaken id state) :
    Ensures (fail error : Coroutine (State Log) α) state (ParkEnds id) := by
  simp only [fail, ensures_modify_bind, ensures_raise]
  rcases ends with untouched | parked | mistaken
  · exact .inl (untouched.failing error)
  · exact .inr (.inl { parked with })
  · exact .inr (.inr { mistaken with })

theorem ensures_renameBackIfRunning (parked : Parked id state) :
    Ensures (renameBackIfRunning uncertain) state fun _ left =>
      Untouched id left ∨ Parked id left ∨ Mistaken id left := by
  rw [renameBackIfRunning]
  refine (ensures_inspectRunning .parked parked).bind ?_ (fun _ held => .inr (.inl held))
    (fun _ held => .inr (.inl held))
  intro running seen parked
  split
  · rw [ensures_bind]
    apply ensures_command
    intro outcome same fits
    rcases parked.after_renameBack fits same with ⟨idle, parked⟩ | ⟨reported, untouched⟩ |
      ⟨unreported, mistaken⟩
    · exact ensures_reported (fun zero => by simp [fits.2 zero] at idle)
        ((ensures_pure _).mpr (.inr (.inl parked))) (.inr (.inl parked)) (.inr (.inl parked))
    · rw [reported]
      exact (ensures_modify _).mpr (.inl untouched)
    · exact ensures_reported (fun zero => (unreported zero).elim)
        ((ensures_pure _).mpr (.inr (.inr mistaken))) (.inr (.inr mistaken)) (.inr (.inr mistaken))
  · exact (ensures_pure _).mpr (.inr (.inl parked))

theorem ensures_giveUpParking (parked : Parked id state) :
    Ensures (giveUpParking uncertain) state (ParkEnds id) := by
  rw [giveUpParking]
  refine (ensures_renameBackIfRunning parked).bind ?_
  intro _ left ends
  simp only [ensures_read_bind]
  exact ParkEnds.failing ends

theorem ensures_parkContainer (whole : Whole id state) :
    Ensures (parkContainer uncertain id) state (ParkEnds id) := by
  rw [parkContainer, ensures_bind]
  apply ensures_command
  intro outcome same fits
  rcases whole.after_rename fits same with ⟨idle, whole⟩ | parked
  · exact ensures_reported (fun zero => by simp [fits.2 zero] at idle)
      (ParkEnds.failing (.inl whole.untouched)) (.inl whole.untouched) (.inl whole.untouched)
  · have untouched := parked.untouched_of_unknown whole.unparked
    refine ensures_reported (fun _ => ?_) (ParkEnds.failing (.inl untouched)) (.inl untouched)
      (.inl untouched)
    rw [if_pos rfl, ensures_modify_bind]
    refine (ensures_switch (.stop .parked) parked rfl).bind ?_ (fun _ held => .inr (.inl held))
      (fun _ held => .inr (.inl held))
    intro stopped left parked
    split
    · exact (ensures_pure _).mpr parked
    · refine (ensures_killedAfterFailedStop parked).bind ?_
        (fun _ held => .inr (.inl held)) (fun _ held => .inr (.inl held))
      intro killed left parked
      split
      · exact (ensures_pure _).mpr parked
      · refine (ensures_giveUpParking parked).bind ?_
        exact fun _ _ parked => (ensures_pure _).mpr parked

theorem ensures_park (whole : Whole id state) :
    Ensures (park uncertain) state (ParkEnds id) := by
  rw [park, ensures_bind]
  rcases whole.atOwn with ⟨container, named, identified⟩
  subst identified
  apply ensures_look
  · simp only [ensures_resume_returned]
    rcases host : state.host with ⟨own, stale⟩
    have listed : own = some container := by rw [← named, host]
    subst listed
    cases stale with
    | none => exact ensures_parkContainer whole
    | some leftover =>
      rw [ensures_bind]
      apply ensures_command
      intro outcome same fits
      have whole := whole.after_remove fits same
      exact ensures_reported (fun _ => ensures_parkContainer whole) (ensures_parkContainer whole)
        (.inl whole.untouched) (.inl whole.untouched)
  · exact ParkEnds.failing (.inl whole.untouched)
  · exact (ensures_resume_raised _).mpr (.inl whole.untouched)
  · exact (ensures_resume_cancelled _).mpr (.inl whole.untouched)

end Parking

/-! ## The undo -/

section Undo

variable {state : State Log} {source target : PodName}

theorem holds_effect_rename {left : Host}
    (acts : (Command.rename source target).effect host = some left) :
    left.Holds id ↔ host.Holds id := by
  rcases effect_rename acts with ⟨container, found, free, rfl⟩
  rcases host with ⟨own, parked⟩
  cases source <;> cases target <;> simp_all [Host.named, Host.put, Host.Holds]

theorem holds_effect_switches {left : Host} {name : PodName} (switches : command.Switches name)
    (acts : command.effect host = some left) :
    left.Holds id ↔ host.Holds id := by
  rcases effect_switches switches acts with ⟨container, running, found, rfl⟩
  rcases host with ⟨own, parked⟩
  cases name <;> simp_all [Host.named, Host.put, Host.Holds]

/-- What became of the container is what the log says. -/
def Fate (id : ℕ) (state : State Log) : Prop := state.host.Holds id ↔ state.world.Harmless

theorem Fate.of_seen (holds : state.host.Holds id) (seen : state.Seen) : Fate id state :=
  iff_of_true holds (harmless_of_seen seen)

theorem Fate.of_unremoved (holds : state.host.Holds id) (unremoved : state.Unremoved) :
    Fate id state :=
  iff_of_true holds (harmless_of_unremoved unremoved)

theorem Fate.after_rename (fate : Fate id state) (fits : outcome.Fits state.host)
    (command : outcome.command = .rename source target) :
    Fate id (state.after outcome) := by
  rw [Fate, harmless_after_iff (by simp [Outcome.RemovesOwn, command])]
  rcases host_after_cases fits with ⟨_, same⟩ | ⟨_, acts⟩
  · rw [same]
    exact fate
  · rw [command] at acts
    exact (holds_effect_rename acts).trans fate

theorem Fate.after_switch {name : PodName} (fate : Fate id state)
    (fits : outcome.Fits state.host) (switches : outcome.command.Switches name) :
    Fate id (state.after outcome) := by
  have keeps : ¬ outcome.RemovesOwn := by
    intro removes
    rw [removes.1] at switches
    cases switches
  rw [Fate, harmless_after_iff keeps]
  rcases host_after_cases fits with ⟨_, same⟩ | ⟨_, acts⟩
  · rw [same]
    exact fate
  · exact (holds_effect_switches switches acts).trans fate

/-- Parked, with whatever the create's body did under the pod's own name. -/
structure Standing (id : ℕ) (state : State Log) : Prop where
  atParked : state.host.AtParked id
  parked : state.parkedName = some .parked
  replacement : state.replacementId ≠ some id
  seen : state.Seen

theorem Standing.after_remove (standing : Standing id state) (fits : outcome.Fits state.host)
    (command : outcome.command = .remove .own ∨
      ∃ other, outcome.command = .removeId other ∧ other ≠ id) :
    Fate id (state.after outcome) := by
  have seen : (state.after outcome).Seen := by
    apply seen_after standing.seen
    intro unseen
    rcases command with byName | ⟨other, byId, _⟩
    · rw [unseen.1] at byName
      cases byName
    · rw [unseen.1] at byId
      cases byId
  refine Fate.of_seen (.inr ?_) seen
  rcases host_after_cases fits with ⟨_, same⟩ | ⟨_, acts⟩
  · rw [same]
    exact standing.atParked
  · have freed : (state.after outcome).host = state.host.put none .own := by
      rcases command with byName | ⟨other, byId, distinct⟩
      · rw [byName] at acts
        exact effect_remove acts
      · rw [byId] at acts
        apply effect_removeId_parked acts
        intro container parked same
        rcases standing.atParked with ⟨mine, named, identified⟩
        cases named.symm.trans parked
        exact distinct (same.symm.trans identified)
    rw [freed]
    exact standing.atParked

theorem Mistaken.after_remove (mistaken : Mistaken id state) (fits : outcome.Fits state.host)
    (command : outcome.command = .remove .own) : Fate id (state.after outcome) := by
  rcases host_after_cases fits with ⟨idle, same⟩ | ⟨happened, acts⟩
  · refine Fate.of_unremoved (.inl ?_) (unremoved_after mistaken.unremoved ?_)
    · rw [same]
      exact mistaken.atOwn
    · simp [Outcome.RemovesOwn, idle]
  · rcases mistaken.unseen with ⟨first, listed, unseen⟩
    apply iff_of_false
    · rw [command] at acts
      rw [effect_remove acts]
      simp [Host.Holds, Host.put, mistaken.freed]
    · simp only [Log.Harmless, State.after, List.pairwise_append, List.mem_singleton]
      exact fun split => split.2.2 first listed outcome rfl ⟨unseen, command, happened⟩

theorem ensures_removeReplacement (ready : Standing id state ∨ Mistaken id state) :
    Ensures (removeReplacement uncertain) state fun _ left => Fate id left := by
  simp only [removeReplacement, ensures_read_bind]
  rcases ready with standing | mistaken
  · cases replaced : state.replacementId with
    | none =>
      apply ensures_command
      intro outcome same fits
      exact standing.after_remove fits (.inl same)
    | some other =>
      apply ensures_command
      intro outcome same fits
      refine standing.after_remove fits (.inr ⟨other, same, ?_⟩)
      intro equal
      exact standing.replacement (by rw [replaced, equal])
  · rw [mistaken.noReplacement]
    apply ensures_command
    intro outcome same fits
    exact mistaken.after_remove fits same

theorem ensures_start (fate : Fate id state) :
    Ensures (uncertain.command (.start .own)) state fun _ left => Fate id left := by
  apply ensures_command
  intro outcome same fits
  exact fate.after_switch fits (show outcome.command.Switches .own by rw [same]; rfl)

theorem ensures_startRestored (fate : Fate id state) :
    Ensures (startRestored uncertain) state fun _ left => Fate id left := by
  simp only [startRestored, ensures_read_bind]
  split
  · refine (ensures_start fate).withinTimeout.caught.bind ?_
    exact fun _ _ fate => (ensures_pure _).mpr fate
  · refine (ensures_start fate).bind ?_
    exact fun _ _ fate => (ensures_pure _).mpr fate

theorem ensures_restore (start : Bool) (ready : Standing id state ∨ Mistaken id state) :
    Ensures (restore uncertain start) state fun _ left => Fate id left := by
  rw [restore]
  refine (ensures_removeReplacement ready).bind ?_
  intro _ removed fate
  have renamed : Ensures (uncertain.command (.rename .parked .own)) removed
      fun _ left => Fate id left := by
    apply ensures_command
    intro outcome same fits
    exact fate.after_rename fits same
  refine renamed.bind ?_
  intro reported left fate
  split
  · exact ensures_startRestored fate
  · exact (ensures_pure _).mpr fate

theorem ensures_aexit_of_unparked (error : Option CreateError) (untouched : Untouched id state) :
    Ensures (aexit uncertain error) state fun _ left => Fate id left := by
  simp only [aexit, ensures_read_bind, untouched.unparked,
    ensures_pure]
  exact Fate.of_seen untouched.holds untouched.seen

theorem ensures_aexit_of_parked {error : CreateError} (failed : error ≠ .cancelledByDelete)
    (down : state.replacementIsUp = false) (parked : state.parkedName = some .parked)
    (ready : Standing id state ∨ Mistaken id state) :
    Ensures (aexit uncertain (some error)) state fun _ left => Fate id left := by
  have undone : dropsParked (some error) state = false := by simp [dropsParked, down, failed]
  simp only [aexit, ensures_read_bind, parked, undone,
    Bool.false_eq_true, if_false]
  exact (ensures_restore _ ready).caught

end Undo

/-! ## A failed edit -/

/-- What the body of a create may do once the container is parked: it works under the pod's
own name, and the replacement is a new container. -/
structure Creates (before left : State Log) : Prop where
  parkedName : left.parkedName = before.parkedName
  parked : left.host.parked = before.host.parked
  log : left.world = before.world
  replacement : ∀ id, left.replacementId = some id →
    before.replacementId = some id ∨ ¬ before.host.Holds id

def CreateBody (body : Coroutine (State Log) Unit) : Prop :=
  ∀ state, Ensures body state fun _ left => Creates state left

def entered (host : Host) (bringUp : Bool) : State Log := { host, bringUp, world := [] }

theorem entered_whole {container : Container} (named : host.own = some container) (bringUp : Bool) :
    Whole container.id (entered host bringUp) :=
  ⟨⟨container, named, rfl⟩, rfl, rfl, by simp [State.Seen, entered],
    by simp [State.Unremoved, entered]⟩

theorem Parked.standing {before left : State Log} (parked : Parked id before)
    (creates : Creates before left) : Standing id left where
  atParked := by
    rw [Host.AtParked, creates.parked]
    exact parked.atParked
  parked := creates.parkedName.trans parked.parked
  replacement := by
    intro replaced
    rcases creates.replacement id replaced with earlier | fresh
    · rw [parked.noReplacement] at earlier
      cases earlier
    · exact fresh (.inr parked.atParked)
  seen := by
    rw [State.Seen, creates.log]
    exact parked.seen

theorem ensures_parked_create {body : Coroutine (State Log) Unit} {state : State Log}
    (creates : CreateBody body) (whole : Whole id state) :
    Ensures (do let _ ← park uncertain; body) state fun _ left =>
      Untouched id left ∨ Standing id left ∨ Mistaken id left := by
  have weaken (left : State Log) (ends : Untouched id left ∨ Parked id left ∨ Mistaken id left) :
      Untouched id left ∨ Standing id left ∨ Mistaken id left := by
    rcases ends with untouched | parked | mistaken
    · exact .inl untouched
    · exact .inr (.inl (parked.standing ⟨rfl, rfl, rfl, fun _ same => .inl same⟩))
    · exact .inr (.inr mistaken)
  refine (ensures_park whole).bind ?_ weaken weaken
  intro _ middle parked
  refine (creates middle).mono ?_
  intro _ left created
  exact .inr (.inl (parked.standing created))

/-- For every outcome of every command: a failed edit leaves the pod's container on the node
unless a rename back that went unseen was followed by the removal of what bears the pod's
name. -/
theorem failed_edit_keeps_container_iff {body : Coroutine (State Log) Unit}
    (creates : CreateBody body) {host : Host} {container : Container}
    (named : host.own = some container) (bringUp : Bool) {ending : Ending Unit}
    {middle : State Log}
    (reached : (ending, middle) ∈ (do let _ ← park uncertain; body) (entered host bringUp))
    {error : CreateError} (failed : raisedBy ending middle = some error)
    (other : error ≠ .cancelledByDelete) (down : middle.replacementIsUp = false)
    {exit : Ending Unit} {left : State Log}
    (exited : (exit, left) ∈ aexit uncertain (raisedBy ending middle) middle) :
    left.host.Holds container.id ↔ left.world.Harmless := by
  rw [failed] at exited
  rcases ensures_parked_create creates (entered_whole named bringUp) ending middle reached with
    untouched | standing | mistaken
  · exact ensures_aexit_of_unparked _ untouched exit left exited
  · exact ensures_aexit_of_parked other down standing.parked (.inl standing) exit left exited
  · exact ensures_aexit_of_parked other down mistaken.parked (.inr mistaken) exit left exited

def samplePod : Host := { own := some ⟨7, true⟩, parked := none }

def sampleParked : State Log :=
  { host := { own := none, parked := some ⟨7, false⟩ }
    parkedName := some .parked
    parkedId := some 7
    world := [⟨.rename .own .parked, true, .exitZero⟩, ⟨.stop .parked, true, .exitZero⟩] }

def sampleRestored : State Log :=
  { sampleParked with
    host := samplePod
    world := sampleParked.world ++ [⟨.remove .own, false, .exitNonZero⟩,
      ⟨.rename .parked .own, true, .exitZero⟩, ⟨.start .own, true, .exitZero⟩] }

theorem sample_edit_keeps_container :
    sampleRestored.host.Holds 7 ↔ sampleRestored.world.Harmless := by
  have creates : CreateBody raise := by
    intro state
    exact ensures_raise.mpr ⟨rfl, rfl, rfl, fun _ same => .inl same⟩
  have reached : (Ending.raised, sampleParked) ∈
      (do let _ ← park uncertain; raise : Coroutine (State Log) Unit)
        (entered samplePod false) := by decide +kernel
  have exited : (Ending.returned (), sampleRestored) ∈
      aexit uncertain (raisedBy (Ending.raised (α := Unit)) sampleParked) sampleParked := by
    decide +kernel
  have named : samplePod.own = some ⟨7, true⟩ := rfl
  exact failed_edit_keeps_container_iff creates named false reached rfl (by decide) rfl exited

def sampleMistaken : State Log :=
  { host := samplePod
    parkedName := some .parked
    parkedId := some 7
    error := some .other
    world := [⟨.rename .own .parked, true, .exitZero⟩, ⟨.stop .parked, false, .exitNonZero⟩,
      ⟨.kill .parked, false, .exitNonZero⟩, ⟨.rename .parked .own, true, .exitNonZero⟩] }

def sampleLost : State Log :=
  { sampleMistaken with
    host := { own := none, parked := none }
    world := sampleMistaken.world ++ [⟨.remove .own, true, .exitZero⟩,
      ⟨.rename .parked .own, false, .exitNonZero⟩] }

theorem edit_destroys_only_container :
    ∃ ending middle exit left,
      (ending, middle) ∈ (do let _ ← park uncertain; pure ()) (entered samplePod false) ∧
        raisedBy ending middle = some .other ∧ middle.replacementIsUp = false ∧
          (exit, left) ∈ aexit uncertain (raisedBy ending middle) middle ∧
            ¬ left.host.Holds 7 := by
  refine ⟨.raised, sampleMistaken, .returned (), sampleLost, ?_, rfl, rfl, ?_, ?_⟩
  · decide +kernel
  · decide +kernel
  · simp [Host.Holds, sampleLost]

end Lium.EditSwap
