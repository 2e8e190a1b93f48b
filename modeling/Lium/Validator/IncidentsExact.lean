import Lium.Validator.DropIncidents
import Mathlib.Data.List.Induction

/-! # Incidents are reported and closed exactly

The process's own mark says what the events say: how far the incident has come, what its last
report was and whether a recovery is owed. Whatever Redis does, the mark never falls behind.
-/

namespace Lium.DropIncidents

open RentedGpuDrop

variable {drop : GpuDrop} {event : Event}

section History

variable {events : List Event}

theorem incidentOf_concat (events : List Event) (event : Event) :
    incidentOf (events ++ [event]) = (incidentOf events).extend event := by
  rw [incidentOf, List.foldl_concat, ← incidentOf]

theorem sinceRecovery_concat (events : List Event) (event : Event) :
    sinceRecovery (events ++ [event]) =
      if event.acknowledgedRecovery then [] else sinceRecovery events ++ [event] := by
  rw [sinceRecovery, List.foldl_concat, ← sinceRecovery]

theorem recoveryOwed_concat (open_ : event.acknowledgedRecovery = false) :
    RecoveryOwed (events ++ [event]) ↔ RecoveryOwed events ∨ event.mayStand = true := by
  simp only [RecoveryOwed, sinceRecovery_concat, open_, Bool.false_eq_true, if_false,
    List.mem_append, List.mem_singleton]
  constructor
  · intro owed
    rcases owed with ⟨report, member | rfl, stands⟩
    · exact .inl ⟨report, member, stands⟩
    · exact .inr stands
  · intro owed
    rcases owed with ⟨report, member, stands⟩ | stands
    · exact ⟨report, .inl member, stands⟩
    · exact ⟨event, .inr rfl, stands⟩

theorem lastPost_concat (events : List Event) (event : Event) :
    Incident.lastPost (events ++ [event]) =
      if event.postsFault then some event else Incident.lastPost events := by
  rw [Incident.lastPost, List.filter_append]
  by_cases posts : event.postsFault = true
  · simp [posts]
  · simp [posts, Incident.lastPost]

end History

structure Marks (mark : DropMark) (events : List Event) : Prop where
  started : events ≠ []
  cycles : mark.consecutiveCycles = events.length
  reported : mark.reported = (Incident.lastPost events).any fun last => noRetry last.cycle.answer
  evidence : ∀ last ∈ Incident.lastPost events, mark.reported = true →
    mark.evidence = last.cycle.drop.map last.cycle.evidenceOf
  ecc : mark.ecc = events.any fun event => event.cycle.namesEcc

/-- What the process's own mark says of the events. -/
structure Shows (events : List Event) (mark : DropMark) : Prop where
  owed : mark.needsRecovery = true ↔ RecoveryOwed events
  recovering : mark.recovering = true → (incidentOf events).isOver = true ∧
    (mark.needsRecovery = true → mark.ecc = (incidentOf events).namesEcc)
  running : mark.recovering = false →
    (incidentOf events).isOver = false ∧ Marks mark (incidentOf events).events

structure Tracks (events : List Event) (state : State) : Prop where
  unmarked : state.localMark = none →
    state.stored = none ∧ (incidentOf events).isOver = true ∧ ¬ RecoveryOwed events
  marked : ∀ mark, state.localMark = some mark → Shows events mark

variable {events : List Event} {state : State} {cycle : Cycle} {mark : DropMark}

theorem Shows.tracks (shows : Shows events mark) (marked : state.localMark = some mark) :
    Tracks events state := by
  constructor
  · intro unmarked
    rw [marked] at unmarked
    cases unmarked
  · intro other isMark
    rw [marked] at isMark
    cases isMark
    exact shows

theorem Tracks.markOf_eq (tracks : Tracks events state) (cycle : Cycle) :
    cycle.markOf state = state.localMark := by
  rw [Cycle.markOf]
  cases marked : state.localMark with
  | none => simp [(tracks.unmarked marked).1]
  | some mark => rfl

section Faults

structure Continues (mark : DropMark) (before : List Event) : Prop where
  opened : mark.recovering = false
  cycles : mark.consecutiveCycles = before.length + 1
  reported : mark.reported = (Incident.lastPost before).any fun last => noRetry last.cycle.answer
  evidence : ∀ last ∈ Incident.lastPost before, mark.reported = true →
    mark.evidence = last.cycle.drop.map last.cycle.evidenceOf

theorem continues_fresh (firstSeenAt : Option ℕ) (recorded unanswered : Bool) :
    Continues (.fresh firstSeenAt recorded unanswered) [] where
  opened := rfl
  cycles := rfl
  reported := rfl
  evidence := by
    intro last isLast
    cases isLast

theorem Tracks.incidentMark (tracks : Tracks events state) (cycle : Cycle) :
    Continues (cycle.incidentMark state.localMark) (incidentOf events).current ∧
      (cycle.incidentMark state.localMark).ecc =
        (incidentOf events).current.any (fun event => event.cycle.namesEcc) ∧
      ((cycle.incidentMark state.localMark).needsRecovery = true ↔ RecoveryOwed events) := by
  cases marked : state.localMark with
  | none =>
    rcases tracks.unmarked marked with ⟨-, isOver, settled⟩
    have noEvents : (incidentOf events).current = [] := by
      simp [Incident.current, isOver]
    rw [noEvents]
    constructor
    · exact continues_fresh _ _ _
    · simp [Cycle.incidentMark, DropMark.fresh, DropMark.needsRecovery, settled]
  | some mark =>
    have shows := tracks.marked mark marked
    rw [← shows.owed, Cycle.incidentMark]
    split
    · next recovering =>
        have noEvents : (incidentOf events).current = [] := by
          simp [Incident.current, (shows.recovering recovering).1]
        rw [noEvents]
        constructor
        · exact continues_fresh _ _ _
        · simp [DropMark.fresh, DropMark.needsRecovery]
    · next running =>
        rcases shows.running (Bool.eq_false_iff.mpr running) with ⟨isOpen, marks⟩
        have sameEvents : (incidentOf events).current = (incidentOf events).events := by
          simp [Incident.current, isOpen]
        rw [sameEvents]
        constructor
        · exact ⟨Bool.eq_false_iff.mpr running, congrArg (· + 1) marks.cycles, marks.reported,
            marks.evidence⟩
        · exact ⟨marks.ecc, Iff.rfl⟩

theorem Continues.posts_iff
    (continues : Continues mark (incidentOf events).current) (drop : GpuDrop) :
    (cycle.due drop mark && !Cycle.held drop mark) = true ↔ FaultDue events cycle drop := by
  have first : Cycle.held drop mark = true ↔
      drop.confirmFirst = true ∧ (incidentOf events).current = [] := by
    rw [Cycle.held, continues.cycles, Bool.and_eq_true, decide_eq_true_eq,
      ← List.length_eq_zero_iff]
    constructor
    · intro held
      exact ⟨held.1, by omega⟩
    · intro held
      exact ⟨held.1, by omega⟩
  have isDue : cycle.due drop mark = true ↔
      ∀ last ∈ Incident.lastPost (incidentOf events).current,
        noRetry last.cycle.answer = false ∨
          last.cycle.drop.map last.cycle.evidenceOf ≠ some (cycle.evidenceOf drop) := by
    rw [Cycle.due, Bool.or_eq_true, decide_eq_true_eq, Bool.not_eq_true']
    cases posted : Incident.lastPost (incidentOf events).current with
    | none =>
      have unreported : mark.reported = false := by
        rw [continues.reported, posted]
        rfl
      simp [unreported]
    | some last =>
      have reported : mark.reported = noRetry last.cycle.answer := by
        rw [continues.reported, posted]
        rfl
      have evidence := continues.evidence last posted
      rw [reported] at evidence ⊢
      cases acknowledged : noRetry last.cycle.answer with
      | false => simp [acknowledged]
      | true => simp [acknowledged, evidence acknowledged]
  rw [FaultDue, Bool.and_eq_true, Bool.not_eq_true', ← Bool.not_eq_true, first, isDue]
  exact and_comm

theorem tracks_save_fault (isFault : event.cycle.drop = some drop)
    (opened : mark.recovering = false)
    (marks : Marks mark ((incidentOf events).current ++ [event]))
    (owed : mark.needsRecovery = true ↔ RecoveryOwed (events ++ [event])) :
    Tracks (events ++ [event]) (cycle.save mark state) := by
  have incident : incidentOf (events ++ [event]) =
      ⟨(incidentOf events).current ++ [event], false⟩ := by
    rw [incidentOf_concat, Incident.extend, isFault]
  apply Shows.tracks _ (show _ = some mark from rfl)
  refine ⟨owed, fun recovering => ?_, fun _ => ?_⟩
  · rw [opened] at recovering
    cases recovering
  · rw [incident]
    exact ⟨rfl, marks⟩

theorem any_namesEcc_concat (before : List Event) (isFault : event.cycle.drop = some drop) :
    (before ++ [event]).any (fun event => event.cycle.namesEcc) =
      (before.any (fun event => event.cycle.namesEcc) ||
        decide (Fault.eccUncorrected ∈ drop.faults)) := by
  simp [Cycle.namesEcc, isFault]

theorem Continues.marks_unposted {before : List Event}
    (continues : Continues mark before) (isFault : cycle.drop = some drop)
    (ecc : mark.ecc = before.any fun event => event.cycle.namesEcc) :
    Marks { mark with ecc := mark.ecc || decide (Fault.eccUncorrected ∈ drop.faults) }
      (before ++ [⟨cycle, none⟩]) where
  started := by simp
  cycles := by simp [continues.cycles]
  reported := by simp [lastPost_concat, Event.postsFault, continues.reported]
  evidence := by simpa [lastPost_concat, Event.postsFault] using continues.evidence
  ecc := by rw [any_namesEcc_concat before isFault, ecc]

theorem Continues.marks_posted {before : List Event}
    (continues : Continues mark before) (isFault : cycle.drop = some drop)
    (ecc : mark.ecc = before.any fun event => event.cycle.namesEcc) {post : Post}
    (isReport : post.state = .fault) :
    Marks (DropMark.afterAnswer
        { mark with ecc := mark.ecc || decide (Fault.eccUncorrected ∈ drop.faults) }
        cycle.answer (cycle.evidenceOf drop)) (before ++ [⟨cycle, some post⟩]) := by
  have last : Incident.lastPost (before ++ [⟨cycle, some post⟩]) = some ⟨cycle, some post⟩ := by
    simp [lastPost_concat, Event.postsFault, isReport]
  have eccNow : (mark.ecc || decide (Fault.eccUncorrected ∈ drop.faults)) =
      (before ++ [(⟨cycle, some post⟩ : Event)]).any fun event => event.cycle.namesEcc := by
    rw [ecc, any_namesEcc_concat before isFault]
  cases answered : cycle.answer with
  | none =>
    constructor
    · simp
    · simp [DropMark.afterAnswer, continues.cycles]
    · simp [DropMark.afterAnswer, last, answered, noRetry]
    · simp [DropMark.afterAnswer]
    · exact eccNow
  | some delivery =>
    constructor
    · simp
    · simp [DropMark.afterAnswer, continues.cycles]
    · simp [DropMark.afterAnswer, last, answered]
    · rw [last]
      intro event isLast acknowledged
      cases isLast
      have isReported : noRetry (some delivery) = true := acknowledged
      simp [DropMark.afterAnswer, isReported, isFault]
    · exact eccNow

theorem needsRecovery_afterAnswer (mark : DropMark) (answer : Answer) (evidence : Evidence) :
    (mark.afterAnswer answer evidence).needsRecovery =
      (mark.needsRecovery || mayBeRecorded answer) := by
  cases answer with
  | none => simp [DropMark.afterAnswer, DropMark.needsRecovery, mayBeRecorded]
  | some delivery => simp [DropMark.afterAnswer, DropMark.needsRecovery, Bool.or_right_comm]

theorem Tracks.trackFault (tracks : Tracks events state)
    (isFault : cycle.drop = some drop) :
    Tracks (events ++ [⟨cycle, (cycle.trackFault drop state).1⟩])
      (cycle.trackFault drop state).2 := by
  rcases tracks.incidentMark cycle with ⟨continues, ecc, owed⟩
  rw [Cycle.trackFault, tracks.markOf_eq]
  split
  · apply tracks_save_fault isFault
    · cases cycle.answer <;> exact continues.opened
    · exact continues.marks_posted isFault ecc rfl
    · rw [needsRecovery_afterAnswer, Bool.or_eq_true,
        recoveryOwed_concat (by simp [Event.acknowledgedRecovery, Event.postsRecovery]), ← owed]
      simp [Event.mayStand, Event.postsFault, Cycle.faultMark, DropMark.needsRecovery]
  · apply tracks_save_fault isFault
    · exact continues.opened
    · exact continues.marks_unposted isFault ecc
    · rw [recoveryOwed_concat (by simp [Event.acknowledgedRecovery, Event.postsRecovery]), ← owed]
      simp [Event.mayStand, Event.postsFault, Cycle.faultMark, DropMark.needsRecovery]

end Faults

section Cleans

variable {post : Option Post}

theorem incidentOf_clean (isClean : cycle.drop = none) (events : List Event)
    (post : Option Post) :
    incidentOf (events ++ [⟨cycle, post⟩]) =
      { incidentOf events with
        isOver := (incidentOf events).isOver || (incidentOf events).provenClean cycle } := by
  rw [incidentOf_concat, Incident.extend]
  simp [isClean]

theorem namesEcc_clean (isClean : cycle.drop = none) (events : List Event)
    (post : Option Post) :
    (incidentOf (events ++ [⟨cycle, post⟩])).namesEcc = (incidentOf events).namesEcc := by
  rw [incidentOf_clean isClean]
  rfl

theorem Shows.keep (shows : Shows events mark) (isClean : cycle.drop = none)
    (unacknowledged : (Event.mk cycle post).acknowledgedRecovery = false)
    (noFault : (Event.mk cycle post).postsFault = false)
    (unproven : mark.recovering = false → (incidentOf events).provenClean cycle = false) :
    Shows (events ++ [⟨cycle, post⟩]) mark := by
  constructor
  · rw [shows.owed, recoveryOwed_concat unacknowledged]
    simp [Event.mayStand, noFault]
  · intro recovering
    rw [namesEcc_clean isClean, incidentOf_clean isClean]
    rcases shows.recovering recovering with ⟨isOver, ecc⟩
    exact ⟨by simp [isOver], ecc⟩
  · intro running
    rw [incidentOf_clean isClean]
    rcases shows.running running with ⟨isOpen, marks⟩
    exact ⟨by simp [isOpen, unproven running], marks⟩

theorem tracks_forget {next : List Event} (settled : ¬ RecoveryOwed next)
    (isOver : (incidentOf next).isOver = true) : Tracks next (cycle.forget state) := by
  have closed : Shows next .closed := by
    constructor
    · constructor
      · intro needs
        cases needs
      · intro owed
        exact absurd owed settled
    · intro _
      exact ⟨isOver, fun needs => by cases needs⟩
    · intro running
      cases running
  rw [Cycle.forget]
  cases cycle.delete with
  | done => exact ⟨fun _ => ⟨rfl, isOver, settled⟩, fun _ isMark => by cases isMark⟩
  | lost => exact closed.tracks rfl
  | failed => exact closed.tracks rfl

theorem tracks_save_owed {next : List Event}
    (owed : RecoveryOwed next) (needs : mark.needsRecovery = true)
    (isOver : (incidentOf next).isOver = true) (ecc : mark.ecc = (incidentOf next).namesEcc) :
    Tracks next (cycle.save (cycle.owedMark mark) state) := by
  apply Shows.tracks _ (show _ = some (cycle.owedMark mark) from rfl)
  constructor
  · exact ⟨fun _ => owed, fun _ => needs⟩
  · intro _
    exact ⟨isOver, fun _ => ecc⟩
  · intro running
    cases running

theorem Shows.ecc_eq (shows : Shows events mark)
    (matters : mark.recovering = false ∨ mark.needsRecovery = true) :
    mark.ecc = (incidentOf events).namesEcc := by
  cases recovers : mark.recovering with
  | true =>
    rw [recovers] at matters
    rcases matters with running | needs
    · cases running
    · exact (shows.recovering recovers).2 needs
  | false => exact (shows.running recovers).2.ecc

theorem Shows.isOver_of_looked (shows : Shows events mark)
    (looks : (cycle.memoryUnread && mark.ecc) = false) (isClean : cycle.drop = none)
    (post : Option Post) : (incidentOf (events ++ [⟨cycle, post⟩])).isOver = true := by
  rw [incidentOf_clean isClean, Bool.or_eq_true]
  cases recovers : mark.recovering with
  | true => exact .inl (shows.recovering recovers).1
  | false =>
    apply Or.inr
    rw [Incident.provenClean, ← shows.ecc_eq (.inl recovers), ← Bool.not_and, looks]
    rfl

theorem Shows.recover (shows : Shows events mark)
    (marked : state.localMark = some mark) (looks : (cycle.memoryUnread && mark.ecc) = false)
    (isClean : cycle.drop = none) :
    Tracks (events ++ [⟨cycle, (cycle.recover mark state).1⟩]) (cycle.recover mark state).2 := by
  have isOver := shows.isOver_of_looked looks isClean
  have owed := shows.owed
  rw [Cycle.recover]
  split
  · next settled =>
      apply tracks_forget _ (isOver _)
      rw [recoveryOwed_concat (by simp [Event.acknowledgedRecovery, Event.postsRecovery]), ← owed]
      simpa [Event.mayStand, Event.postsFault] using settled
  · next owes =>
      have needs : mark.needsRecovery = true := by simpa using owes
      dsimp only
      split
      · next done =>
          apply tracks_forget _ (isOver _)
          simp [RecoveryOwed, sinceRecovery_concat, Event.acknowledgedRecovery,
            Event.postsRecovery, done]
      · next pending =>
          have unacknowledged : ∀ post, (Event.mk cycle post).acknowledgedRecovery = false := by
            intro post
            simp [Event.acknowledgedRecovery, pending]
          split
          · apply tracks_save_owed _ needs (isOver _)
            · rw [namesEcc_clean isClean]
              exact shows.ecc_eq (.inr needs)
            · rw [recoveryOwed_concat (unacknowledged _)]
              exact .inl (owed.mp needs)
          · next same =>
              -- the mark already says that a recovery was posted
              have recovers : mark.recovering = true := by
                have unchanged := not_not.mp same
                rw [← unchanged]
                rfl
              apply Shows.tracks _ marked
              apply shows.keep isClean (unacknowledged _)
              · simp [Event.postsFault]
              · intro running
                rw [recovers] at running
                cases running

theorem Tracks.trackClean (tracks : Tracks events state) (isClean : cycle.drop = none) :
    Tracks (events ++ [⟨cycle, (cycle.trackClean state).1⟩]) (cycle.trackClean state).2 := by
  have quiet : (Event.mk cycle none).acknowledgedRecovery = false := by
    simp [Event.acknowledgedRecovery, Event.postsRecovery]
  rw [Cycle.trackClean, tracks.markOf_eq]
  split
  · next unmarked =>
      rcases tracks.unmarked unmarked with ⟨stored, isOver, settled⟩
      refine ⟨fun _ => ⟨stored, ?_, ?_⟩, fun mark isMark => ?_⟩
      · rw [incidentOf_clean isClean]
        simp [isOver]
      · rw [recoveryOwed_concat quiet]
        simp [settled, Event.mayStand, Event.postsFault]
      · rw [unmarked] at isMark
        cases isMark
  · next mark marked =>
      have shows := tracks.marked mark marked
      split
      · next unread =>
          apply Shows.tracks _ (show _ = some mark from rfl)
          apply shows.keep isClean quiet rfl
          intro running
          rw [Incident.provenClean, ← shows.ecc_eq (.inl running), ← Bool.not_and, unread]
          rfl
      · next looks => exact shows.recover marked (Bool.eq_false_iff.mpr looks) isClean

end Cleans

theorem Tracks.trackPod (tracks : Tracks events state) (cycle : Cycle) :
    Tracks (events ++ [⟨cycle, (cycle.trackPod state).1⟩]) (cycle.trackPod state).2 := by
  rw [Cycle.trackPod]
  split
  · next drop isFault => exact tracks.trackFault isFault
  · next isClean => exact tracks.trackClean isClean

theorem tracks_start : Tracks [] ⟨none, none⟩ where
  unmarked _ := ⟨rfl, rfl, by simp [RecoveryOwed, sinceRecovery]⟩
  marked := by simp

theorem tracks_run (cycles : List Cycle) : Tracks (run cycles).1 (run cycles).2 := by
  induction cycles using List.reverseRecOn with
  | nil => exact tracks_start
  | append_singleton cycles cycle induction =>
    rw [run, List.foldl_concat, ← run]
    exact induction.trackPod cycle

def postAfter (cycles : List Cycle) (cycle : Cycle) : Option Post :=
  (cycle.trackPod (run cycles).2).1

theorem Tracks.posts_fault_iff (tracks : Tracks events state) (isFault : cycle.drop = some drop) :
    (∃ post, (cycle.trackPod state).1 = some post ∧ post.state = .fault) ↔
      FaultDue events cycle drop := by
  have continues : Continues (cycle.faultMark drop state.localMark) (incidentOf events).current :=
    { (tracks.incidentMark cycle).1 with }
  rw [← continues.posts_iff]
  simp only [Cycle.trackPod, isFault, Cycle.trackFault, tracks.markOf_eq]
  split
  · next posts => simp [posts]
  · next rests => simp [rests]

theorem Tracks.posts_recovery_iff (tracks : Tracks events state) (isClean : cycle.drop = none)
    (proven : (incidentOf events).provenClean cycle = true) :
    (∃ post, (cycle.trackPod state).1 = some post ∧ post.state = .recovered) ↔
      RecoveryOwed events := by
  simp only [Cycle.trackPod, isClean, Cycle.trackClean, tracks.markOf_eq]
  cases marked : state.localMark with
  | none =>
    simp [(tracks.unmarked marked).2.2]
  | some mark =>
    have shows := tracks.marked mark marked
    rw [← shows.owed]
    cases needs : mark.needsRecovery with
    | false =>
      dsimp only
      split
      · simp
      · simp [Cycle.recover, needs]
    | true =>
      have looks : (cycle.memoryUnread && mark.ecc) = false := by
        rw [Incident.provenClean, ← Bool.not_and, Bool.not_eq_true'] at proven
        rw [shows.ecc_eq (.inr needs), proven]
      simp [looks, Cycle.recover, needs]

/-- In a faulty cycle a fault is posted just if it is due, and in a clean cycle that is proof a
recovery just if one is owed, whatever the backend answers and Redis loses. -/
theorem incidents_reported_exactly (cycles : List Cycle) (cycle : Cycle) :
    (∀ drop, cycle.drop = some drop →
      ((∃ post, postAfter cycles cycle = some post ∧ post.state = .fault) ↔
        FaultDue (run cycles).1 cycle drop)) ∧
    (cycle.drop = none → (incidentOf (run cycles).1).provenClean cycle = true →
      ((∃ post, postAfter cycles cycle = some post ∧ post.state = .recovered) ↔
        RecoveryOwed (run cycles).1)) := by
  have tracks := tracks_run cycles
  constructor
  · intro drop isFault
    exact tracks.posts_fault_iff isFault
  · intro isClean proven
    exact tracks.posts_recovery_iff isClean proven

end Lium.DropIncidents
