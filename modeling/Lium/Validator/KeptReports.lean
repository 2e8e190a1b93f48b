import Lium.Validator.CycleReports

/-! # No kept cycle report is lost silently

Each operation on the list, on the backend or on the history keeps one invariant. The replay
removes a report only after the backend took its text, and the cap cuts only behind a full
list of newer reports.
-/

namespace Lium.CycleReports

open Coroutine

variable {ρ : Type}

/-- A pass sends reports in the order they were kept, each only after the backend took all
older ones of the pass. -/
structure Pass.Ordered (pass : Pass ρ) : Prop where
  ascending : (pass.listed.reverse.map Prod.fst).Pairwise (· < ·)
  inOrder : pass.attempted <+: pass.listed.reverse
  afterOlder : ∀ before report after, pass.attempted = before ++ report :: after →
    ∀ older ∈ before, older ∈ pass.delivered

structure ReportsAccounted (state : State ρ) : Prop where
  /-- a report that got into the list is in it, was delivered, or was cut off behind a full
  list of newer ones -/
  kept : ∀ number ∈ state.pushed, number ∈ state.kept.map Prod.fst ∨
    number ∈ state.delivered ∨
      ∃ newer, (number, newer) ∈ state.dropped ∧ unackedCycleReportsMax ≤ newer
  ordered : ∀ pass ∈ state.passes, pass.Ordered
  /-- a report that did not get into the list was sent once in its call, and never again; one whose
  `lpush` raised after it took effect is in the list like any other -/
  once : ∀ number ∈ state.finished, number ∉ state.pushed → state.sends.count number = 1

structure Invariant (state : State ρ) : Prop extends ReportsAccounted state where
  sorted : (state.kept.map Prod.fst).Pairwise (· > ·)
  keptPushed : ∀ report ∈ state.kept, report.1 ∈ state.pushed
  pushedOpened : ∀ number ∈ state.pushed, number < state.calls
  sendsOpened : ∀ number ∈ state.sends, number < state.calls
  finishedOpened : ∀ number ∈ state.finished, number < state.calls

/-! ## One operation -/

variable {number : ℕ} {payload : ρ}

namespace Invariant

variable {state : State ρ} {report : Kept ρ}

theorem start (settlement : Settlement.State) : Invariant (State.start settlement : State ρ) := by
  constructor
  case toReportsAccounted =>
    constructor
    all_goals exact fun _ member => absurd member List.not_mem_nil
  case sorted => exact List.Pairwise.nil
  all_goals exact fun _ member => absurd member List.not_mem_nil

section

variable (invariant : Invariant state)
include invariant

theorem withSettlement (settlement : Settlement.State) :
    Invariant { state with settlement } :=
  { invariant with }

theorem opened : Invariant state.opened :=
  { invariant with
    pushedOpened := fun number member => Nat.lt_succ_of_lt (invariant.pushedOpened number member)
    sendsOpened := fun number member => Nat.lt_succ_of_lt (invariant.sendsOpened number member)
    finishedOpened := fun number member =>
      Nat.lt_succ_of_lt (invariant.finishedOpened number member) }

theorem lpush (current : report.1 < state.calls)
    (newest : ∀ number ∈ state.pushed, number < report.1) : Invariant (state.lpush report) := by
  refine
    { invariant with
      kept := ?_, once := ?_, sorted := List.pairwise_cons.mpr ⟨?_, invariant.sorted⟩
      keptPushed := List.forall_mem_cons.mpr ⟨List.mem_cons_self, ?_⟩
      pushedOpened := List.forall_mem_cons.mpr ⟨current, invariant.pushedOpened⟩ }
  · intro number member
    rcases List.mem_cons.mp member with same | old
    · rw [same]
      exact .inl List.mem_cons_self
    · exact (invariant.kept number old).imp_left (List.mem_cons_of_mem _)
  · intro number finished unpushed
    exact invariant.once number finished fun old => unpushed (List.mem_cons_of_mem _ old)
  · intro number member
    rcases List.mem_map.mp member with ⟨older, olderMember, same⟩
    rw [← same]
    exact newest older.1 (invariant.keptPushed older olderMember)
  · exact fun older member => List.mem_cons_of_mem _ (invariant.keptPushed older member)

theorem lpushRaised (number : ℕ) : Invariant (state.lpushRaised number) :=
  { invariant with }

theorem sent (current : number < state.calls)
    (allowed : number ∈ state.pushed ∨ number ∉ state.finished) :
    Invariant (state.sent number) := by
  refine
    { invariant with
      once := ?_, sendsOpened := List.forall_mem_cons.mpr ⟨current, invariant.sendsOpened⟩ }
  intro other finished unpushed
  have apart : number ≠ other := by
    intro same
    rw [same] at allowed
    exact allowed.elim unpushed (fun unfinished => unfinished finished)
  rw [State.sent, List.count_cons_of_ne apart]
  exact invariant.once other finished unpushed

end

theorem taken [DecidableEq ρ] (invariant : Invariant state) (payload : ρ) :
    Invariant (state.taken payload) := by
  refine { invariant with kept := ?_ }
  intro number member
  exact (invariant.kept number member).imp_right (.imp_left (List.mem_append_right _))

theorem lrem [DecidableEq ρ] (invariant : Invariant state)
    (delivered : ∀ report ∈ state.kept, report.2 = payload → report.1 ∈ state.delivered) :
    Invariant (state.lrem payload) := by
  refine { invariant with kept := ?_, sorted := ?_, keptPushed := ?_ }
  · intro number member
    rcases invariant.kept number member with inList | done
    · rcases List.mem_map.mp inList with ⟨report, reportMember, rfl⟩
      by_cases same : report.2 = payload
      · exact .inr (.inl (delivered report reportMember same))
      · exact .inl (List.mem_map_of_mem (List.mem_filter.mpr ⟨reportMember, by simpa using same⟩))
    · exact .inr done
  · exact invariant.sorted.sublist (List.filter_sublist.map Prod.fst)
  · exact fun report member => invariant.keptPushed report (List.mem_filter.mp member).1

section

variable (invariant : Invariant state)
include invariant

theorem cut_newer (cut : report ∈ state.kept.drop unackedCycleReportsMax) :
    unackedCycleReportsMax ≤ state.newerThan report.1 := by
  have falls := invariant.sorted
  rw [← List.take_append_drop unackedCycleReportsMax state.kept, List.map_append,
    List.pairwise_append] at falls
  have newer : ∀ ahead ∈ state.kept.take unackedCycleReportsMax, report.1 < ahead.1 := by
    intro ahead member
    exact falls.2.2 ahead.1 (List.mem_map_of_mem member) report.1 (List.mem_map_of_mem cut)
  have full : (state.kept.take unackedCycleReportsMax).length = unackedCycleReportsMax := by
    have long : unackedCycleReportsMax < state.kept.length := by
      have positive := List.length_pos_of_mem cut
      rw [List.length_drop] at positive
      omega
    rw [List.length_take]
    omega
  have counted : ((state.kept.take unackedCycleReportsMax).filter fun ahead =>
      report.1 < ahead.1) = state.kept.take unackedCycleReportsMax := by
    rw [List.filter_eq_self]
    intro ahead member
    exact decide_eq_true (newer ahead member)
  rw [State.newerThan, ← full, ← counted]
  exact ((List.take_sublist _ _).filter _).length_le

theorem ltrim : Invariant state.ltrim := by
  refine { invariant with kept := ?_, sorted := ?_, keptPushed := ?_ }
  · intro number member
    rcases invariant.kept number member with inList | delivered | ⟨newer, dropped, enough⟩
    · rcases List.mem_map.mp inList with ⟨report, reportMember, rfl⟩
      rw [← List.take_append_drop unackedCycleReportsMax state.kept, List.mem_append]
        at reportMember
      rcases reportMember with stays | cut
      · exact .inl (List.mem_map_of_mem stays)
      · exact .inr (.inr ⟨state.newerThan report.1, List.mem_append_left _
          (List.mem_map.mpr ⟨report, cut, rfl⟩), invariant.cut_newer cut⟩)
    · exact .inr (.inl delivered)
    · exact .inr (.inr ⟨newer, List.mem_append_right _ dropped, enough⟩)
  · exact invariant.sorted.sublist ((List.take_sublist _ _).map Prod.fst)
  · exact fun report member => invariant.keptPushed report (List.mem_of_mem_take member)

theorem withPasses {passes : List (Pass ρ)}
    (ordered : ∀ pass ∈ passes, pass.Ordered) : Invariant { state with passes } :=
  { invariant with ordered }

theorem closed (current : number < state.calls)
    (sentOnce : number ∉ state.pushed → state.sends.count number = 1) :
    Invariant (state.closed number) :=
  { invariant with
    once := List.forall_mem_cons.mpr ⟨sentOnce, invariant.once⟩
    finishedOpened := List.forall_mem_cons.mpr ⟨current, invariant.finishedOpened⟩ }

end

end Invariant

/-! ## One pass -/

structure Unmoved (before after : State ρ) : Prop where
  calls : after.calls = before.calls
  pushed : after.pushed = before.pushed
  finished : after.finished = before.finished
  sends : ∀ number, number ∉ before.pushed → after.sends.count number = before.sends.count number

theorem Unmoved.refl (state : State ρ) : Unmoved state state := ⟨rfl, rfl, rfl, fun _ _ => rfl⟩

theorem Unmoved.trans {first second third : State ρ} (left : Unmoved first second)
    (right : Unmoved second third) : Unmoved first third := by
  refine ⟨right.calls.trans left.calls, right.pushed.trans left.pushed,
    right.finished.trans left.finished, ?_⟩
  intro number unpushed
  rw [right.sends number (by rwa [left.pushed]), left.sends number unpushed]

theorem Unmoved.sent {state : State ρ} (pushed : number ∈ state.pushed) :
    Unmoved state (state.sent number) := by
  refine ⟨rfl, rfl, rfl, ?_⟩
  intro other unpushed
  apply List.count_cons_of_ne
  intro same
  rw [same] at pushed
  exact unpushed pushed

theorem Unmoved.inPass (state : State ρ) (change : Pass ρ → Pass ρ) :
    Unmoved state (state.inPass change) := by
  rw [State.inPass]
  split
  · exact .refl state
  · exact ⟨rfl, rfl, rfl, fun _ _ => rfl⟩

theorem Pass.Ordered.of_last {listed done : List (Kept ρ)} {last : Option (Kept ρ)}
    (ascending : (listed.reverse.map Prod.fst).Pairwise (· < ·))
    (inOrder : done ++ last.toList <+: listed.reverse) :
    (⟨listed, done ++ last.toList, done⟩ : Pass ρ).Ordered := by
  refine ⟨ascending, inOrder, ?_⟩
  intro before report after split older member
  have short : before.length ≤ done.length := by
    have lengths := congrArg List.length split
    have atMostOne : last.toList.length ≤ 1 := by cases last <;> simp
    simp only [List.length_append, List.length_cons] at lengths
    omega
  have earlier : before <+: done := by
    apply List.prefix_of_prefix_length_le (List.prefix_append before (report :: after)) _ short
    rw [← split]
    exact List.prefix_append done last.toList
  exact earlier.subset member

/-- A pass in which the backend took the reports `done`, and perhaps one more is on its way. -/
structure Running (listed done : List (Kept ρ)) (last : Option (Kept ρ)) (state : State ρ) :
    Prop where
  invariant : Invariant state
  pass : ∃ older, state.passes = ⟨listed, done ++ last.toList, done⟩ :: older
  ascending : (listed.reverse.map Prod.fst).Pairwise (· < ·)
  inOrder : done ++ last.toList <+: listed.reverse
  listedPushed : ∀ report ∈ listed, report.1 ∈ state.pushed

variable {change : Pass ρ → Pass ρ}

namespace Running

variable {listed done : List (Kept ρ)} {last : Option (Kept ρ)} {state : State ρ} {report : Kept ρ}

theorem advance (running : Running listed done last state) {nextDone : List (Kept ρ)}
    {nextLast : Option (Kept ρ)} (changed : change ⟨listed, done ++ last.toList, done⟩ =
      ⟨listed, nextDone ++ nextLast.toList, nextDone⟩)
    (inOrder : nextDone ++ nextLast.toList <+: listed.reverse) :
    Running listed nextDone nextLast (state.inPass change) := by
  rcases running.pass with ⟨older, passes⟩
  have next : state.inPass change =
      { state with passes := ⟨listed, nextDone ++ nextLast.toList, nextDone⟩ :: older } := by
    rw [State.inPass, passes, ← changed]
  have ordered := running.invariant.ordered
  rw [passes, List.forall_mem_cons] at ordered
  rw [next]
  have next := Pass.Ordered.of_last running.ascending inOrder
  exact
    { running with
      invariant := running.invariant.withPasses (List.forall_mem_cons.mpr ⟨next, ordered.2⟩)
      pass := ⟨older, rfl⟩, inOrder }

theorem attempt (running : Running listed done none state)
    (inOrder : done ++ [report] <+: listed.reverse) :
    Running listed done (some report) (state.inPass (Pass.attempt report)) := by
  refine running.advance ?_ inOrder
  simp [Pass.attempt]

theorem deliver (running : Running listed done (some report) state) :
    Running listed (done ++ [report]) none (state.inPass (Pass.deliver report)) := by
  refine running.advance ?_ ?_
  · simp [Pass.deliver]
  · simpa using running.inOrder

theorem sent (running : Running listed done last state) (member : report ∈ listed) :
    Running listed done last (state.sent report.1) :=
  have pushed := running.listedPushed report member
  { running with
    invariant := running.invariant.sent (running.invariant.pushedOpened _ pushed) (.inl pushed) }

variable [DecidableEq ρ]

theorem taken (running : Running listed done last state) (payload : ρ) :
    Running listed done last (state.taken payload) :=
  { running with invariant := running.invariant.taken payload }

theorem lrem (running : Running listed done last state)
    (delivered : ∀ report ∈ state.kept, report.2 = payload → report.1 ∈ state.delivered) :
    Running listed done last (state.lrem payload) :=
  { running with invariant := running.invariant.lrem delivered }

end Running

section Programs

variable [DecidableEq ρ] {state : State ρ}

theorem Unmoved.taken (state : State ρ) (payload : ρ) : Unmoved state (state.taken payload) :=
  ⟨rfl, rfl, rfl, fun _ _ => rfl⟩

theorem Unmoved.lrem (state : State ρ) (payload : ρ) : Unmoved state (state.lrem payload) :=
  ⟨rfl, rfl, rfl, fun _ _ => rfl⟩

omit [DecidableEq ρ] in
theorem inPass_delivers
    (delivered : ∀ report ∈ state.kept, report.2 = payload → report.1 ∈ state.delivered) :
    ∀ report ∈ (state.inPass change).kept, report.2 = payload →
      report.1 ∈ (state.inPass change).delivered := by
  rw [State.inPass]
  split <;> exact delivered

theorem ensures_lrem (payload : ρ) :
    Ensures (tryExcept (await (State.lrem payload) fun _ => ()) (pure ())) state fun _ left =>
      left = state ∨ left = state.lrem payload := by
  simp [ensures_tryExcept, ensures_await]

theorem ensures_deliverCycleReport (report : Kept ρ) :
    Ensures (deliverCycleReport report) state fun ending left =>
      left = (state.sent report.1).taken report.2 ∨
        left = state.sent report.1 ∧ ending ≠ .returned true := by
  simp [deliverCycleReport, ensures_tryExcept, ensures_await, ensures_choose]

theorem taken_delivers : ∀ report ∈ (state.taken payload).kept,
    report.2 = payload → report.1 ∈ (state.taken payload).delivered := by
  intro report member same
  refine List.mem_append_left _ (List.mem_map_of_mem (List.mem_filter.mpr ⟨member, ?_⟩))
  exact decide_eq_true same

theorem ensures_replayEach {listed done rest : List (Kept ρ)}
    (running : Running listed done none state) (split : listed.reverse = done ++ rest) :
    Ensures (replayEach rest) state fun _ left => Invariant left ∧ Unmoved state left := by
  induction rest generalizing done state with
  | nil =>
    rw [replayEach, ensures_pure]
    exact ⟨running.invariant, .refl state⟩
  | cons report rest induction =>
    have member : report ∈ listed := by
      rw [← List.mem_reverse, split]
      simp
    have inOrder : done ++ [report] <+: listed.reverse := by
      rw [split]
      exact ⟨rest, by simp⟩
    have attempted := running.attempt inOrder
    have sent := attempted.sent member
    have moved : Unmoved state ((state.inPass (Pass.attempt report)).sent report.1) :=
      (Unmoved.inPass state _).trans (.sent (attempted.listedPushed report member))
    have taken := sent.taken report.2
    have takenMoved := moved.trans (.taken _ report.2)
    have ended : ∀ (ending : Ending Bool) left,
        left = ((state.inPass (Pass.attempt report)).sent report.1).taken report.2 ∨
          left = (state.inPass (Pass.attempt report)).sent report.1 ∧ ending ≠ .returned true →
        Invariant left ∧ Unmoved state left := by
      intro ending left outcome
      rcases outcome with rfl | ⟨rfl, -⟩
      · exact ⟨taken.invariant, takenMoved⟩
      · exact ⟨sent.invariant, moved⟩
    rw [replayEach, ensures_modify_bind]
    refine (ensures_deliverCycleReport report).bind ?answered (ended .raised) (ended .cancelled)
    intro delivered left outcome
    cases delivered with
    | false => exact (ensures_pure _).mpr (ended _ left outcome)
    | true =>
      rcases outcome with rfl | ⟨-, unanswered⟩
      · rw [if_pos rfl, ensures_modify_bind]
        have delivers := taken.deliver
        have deliversMoved := takenMoved.trans (.inPass _ (Pass.deliver report))
        have removed := delivers.lrem (inPass_delivers taken_delivers)
        have removedMoved := deliversMoved.trans (.lrem _ report.2)
        have nextSplit : listed.reverse = (done ++ [report]) ++ rest := by
          rw [split, List.append_assoc]
          rfl
        refine (ensures_lrem report.2).bind ?replayed ?raised ?cut
        case replayed =>
          intro _ left either
          rcases either with rfl | rfl
          · exact (induction delivers nextSplit).mono fun _ _ later =>
              ⟨later.1, deliversMoved.trans later.2⟩
          · exact (induction removed nextSplit).mono fun _ _ later =>
              ⟨later.1, removedMoved.trans later.2⟩
        all_goals
          intro left either
          rcases either with rfl | rfl
          · exact ⟨delivers.invariant, deliversMoved⟩
          · exact ⟨removed.invariant, removedMoved⟩
      · exact absurd rfl unanswered

theorem ensures_replay (invariant : Invariant state) :
    Ensures replayUnackedCycleReports state fun _ left => Invariant left ∧ Unmoved state left := by
  have read : Ensures (tryExcept
      (do
        let kept ← await id State.kept
        pure (some kept))
      (pure none)) state fun ending left => left = state ∧
        ∀ kept, ending = .returned (some kept) → kept = state.kept := by
    simp [ensures_tryExcept, ensures_await]
  have untouched : ∀ left, left = state → Invariant left ∧ Unmoved state left := by
    intro left same
    rw [same]
    exact ⟨invariant, .refl state⟩
  rw [replayUnackedCycleReports]
  refine read.bind ?listed (fun left seen => untouched left seen.1)
    (fun left seen => untouched left seen.1)
  intro kept left seen
  cases kept with
  | none => exact (ensures_pure _).mpr (untouched left seen.1)
  | some kept =>
    rw [seen.1, seen.2 kept rfl]
    dsimp only
    rw [ensures_modify_bind]
    have ascending : (state.kept.reverse.map Prod.fst).Pairwise (· < ·) := by
      rw [List.map_reverse, List.pairwise_reverse]
      exact invariant.sorted
    have fresh : (⟨state.kept, [] ++ Option.none.toList, []⟩ : Pass ρ).Ordered :=
      .of_last ascending List.nil_prefix
    have ordered : ∀ pass ∈ (state.passOpened state.kept).passes, pass.Ordered :=
      List.forall_mem_cons.mpr ⟨fresh, invariant.ordered⟩
    have running : Running state.kept [] none (state.passOpened state.kept) :=
      ⟨invariant.withPasses ordered, ⟨state.passes, rfl⟩, ascending, List.nil_prefix,
        invariant.keptPushed⟩
    have opens : Unmoved state (state.passOpened state.kept) := ⟨rfl, rfl, rfl, fun _ _ => rfl⟩
    exact (ensures_replayEach running rfl).mono fun _ _ ended =>
      ⟨ended.1, opens.trans ended.2⟩

theorem ensures_deliverKept (invariant : Invariant state) :
    Ensures deliverKeptSettlementReports state fun _ left =>
      Invariant left ∧ Unmoved state left := by
  have settled : ∀ settlement, Invariant { state with settlement } ∧
      Unmoved state { state with settlement } := fun settlement =>
    ⟨invariant.withSettlement settlement, rfl, rfl, rfl, fun _ _ => rfl⟩
  have retried : Ensures (onPart State.settlement (fun state settlement => { state with settlement })
      Settlement.retryPendingInclusion) state fun _ left =>
        Invariant left ∧ Unmoved state left :=
    (ensures_onPart ..).mpr fun _ settlement _ => settled settlement
  rw [deliverKeptSettlementReports]
  refine retried.bind ?_
  intro _ left ended
  exact (ensures_replay ended.1).mono fun _ _ replayed =>
    ⟨replayed.1, ended.2.trans replayed.2⟩

omit [DecidableEq ρ] in
theorem ensures_cap (invariant : Invariant state) :
    Ensures capKeptCycleReports state fun _ left => Invariant left ∧ Unmoved state left := by
  have untouched : Invariant state ∧ Unmoved state state := ⟨invariant, .refl state⟩
  have trimmed : Invariant state.ltrim ∧ Unmoved state state.ltrim :=
    ⟨invariant.ltrim, rfl, rfl, rfl, fun _ _ => rfl⟩
  have body : Ensures (do
      let keptCount ← await id fun state => state.kept.length
      if keptCount ≤ unackedCycleReportsMax then pure () else await State.ltrim fun _ => ())
      state fun _ left => Invariant left ∧ Unmoved state left := by
    rw [ensures_bind, ensures_await]
    simp only [ensures_resume_returned, ensures_resume_raised, ensures_resume_cancelled, id_eq]
    refine ⟨?_, ⟨untouched, untouched⟩, untouched, untouched⟩
    split
    · exact (ensures_pure _).mpr untouched
    · exact (ensures_await ..).mpr ⟨trimmed, ⟨untouched, trimmed⟩, untouched, trimmed⟩
  exact body.caught

/-! ## One call -/

structure Current (number : ℕ) (state : State ρ) : Prop where
  invariant : Invariant state
  opened : number < state.calls
  sentOnce : number ∉ state.pushed → state.sends.count number = 1

omit [DecidableEq ρ] in
theorem Current.unmoved {left : State ρ} (current : Current number state)
    (invariant : Invariant left) (unmoved : Unmoved state left) : Current number left := by
  refine ⟨invariant, ?_, ?_⟩
  · rw [unmoved.calls]
    exact current.opened
  · rw [unmoved.pushed]
    intro unpushed
    rw [unmoved.sends number unpushed]
    exact current.sentOnce unpushed

omit [DecidableEq ρ] in
theorem ensures_keepCycleReport (report : Kept ρ) :
    Ensures (keepCycleReport report) state fun ending left =>
      left = state.lpush report ∨
        (left = state ∨ left = state.lpushRaised report.1 ∨
          left = (state.lpush report).lpushRaised report.1) ∧ ending ≠ .returned true := by
  simp [keepCycleReport, ensures_tryExcept, ensures_await]

theorem ensures_finish (current : Current number state) :
    Ensures (do
      let _ ← withinBudget deliverKeptSettlementReports
      capKeptCycleReports
      modify (State.closed number)) state fun _ left => Invariant left := by
  have passed : Ensures (withinBudget deliverKeptSettlementReports) state fun _ left =>
      Current number left := by
    rw [withinBudget, ensures_choose_pair, ensures_pure]
    refine ⟨current, ?_⟩
    refine Ensures.withinTimeout ((ensures_deliverKept current.invariant).mono ?_)
    exact fun _ left ended => current.unmoved ended.1 ended.2
  refine passed.bind ?_ (fun _ left => left.invariant) (fun _ left => left.invariant)
  intro _ replayed replayedCurrent
  have capped := (ensures_cap replayedCurrent.invariant).mono fun _ left ended =>
    replayedCurrent.unmoved ended.1 ended.2
  refine capped.bind ?_ (fun _ left => left.invariant) (fun _ left => left.invariant)
  intro _ left leftCurrent
  rw [ensures_modify]
  exact leftCurrent.invariant.closed leftCurrent.opened leftCurrent.sentOnce

theorem ensures_reportCycleScores (invariant : Invariant state) (burnerHotkey : Option String)
    (payload : ρ) :
    Ensures (reportCycleScores burnerHotkey payload) state fun _ left => Invariant left := by
  cases burnerHotkey with
  | none => exact (ensures_pure _).mpr invariant
  | some burner =>
    have opened := invariant.opened
    have unfinished : state.calls ∉ state.finished := fun member =>
      (invariant.finishedOpened _ member).ne rfl
    have unsent : state.sends.count state.calls = 0 := by
      rw [List.count_eq_zero]
      exact fun member => (invariant.sendsOpened _ member).ne rfl
    have pushed : Invariant (state.opened.lpush (state.calls, payload)) :=
      opened.lpush (Nat.lt_succ_self _) invariant.pushedOpened
    have kept : Current state.calls (state.opened.lpush (state.calls, payload)) :=
      ⟨pushed, Nat.lt_succ_self _, fun absent => absurd List.mem_cons_self absent⟩
    rw [reportCycleScores, ensures_read_bind, ensures_modify_bind]
    have keeps : ∀ left, left = state.opened.lpush (state.calls, payload) ∨
          left = state.opened ∨ left = state.opened.lpushRaised state.calls ∨
            left = (state.opened.lpush (state.calls, payload)).lpushRaised state.calls →
        Invariant left ∧ state.calls < left.calls ∧ state.calls ∉ left.finished ∧
          left.sends.count state.calls = 0 := by
      intro left either
      rcases either with rfl | rfl | rfl | rfl
      · exact ⟨pushed, Nat.lt_succ_self _, unfinished, unsent⟩
      · exact ⟨opened, Nat.lt_succ_self _, unfinished, unsent⟩
      · exact ⟨opened.lpushRaised _, Nat.lt_succ_self _, unfinished, unsent⟩
      · exact ⟨pushed.lpushRaised _, Nat.lt_succ_self _, unfinished, unsent⟩
    refine (ensures_keepCycleReport (state.calls, payload)).bind ?answered ?raised ?cut
    case answered =>
      intro isKept left outcome
      cases isKept with
      | true =>
        rcases outcome with rfl | ⟨-, unkept⟩
        · exact ensures_finish kept
        · exact absurd rfl unkept
      | false =>
        rcases keeps left (outcome.imp_right And.left) with
          ⟨leftInvariant, current, leftUnfinished, leftUnsent⟩
        have sent := leftInvariant.sent current (.inr leftUnfinished)
        have sentOnce : (left.sent state.calls).sends.count state.calls = 1 := by
          rw [State.sent, List.count_cons_self, leftUnsent]
        have delivered : Ensures (withinTimeout
            (deliverCycleReport (state.calls, payload))) left fun _ after =>
              Current state.calls after := by
          refine Ensures.withinTimeout ((ensures_deliverCycleReport _).mono ?_)
          intro _ after either
          rcases either with rfl | ⟨rfl, -⟩
          · exact ⟨sent.taken payload, current, fun _ => sentOnce⟩
          · exact ⟨sent, current, fun _ => sentOnce⟩
        refine delivered.bind ?_ (fun _ after => after.invariant) (fun _ after => after.invariant)
        exact fun _ _ after => ensures_finish after
    case raised => exact fun left outcome => (keeps left (outcome.imp_right And.left)).1
    case cut => exact fun left outcome => (keeps left (outcome.imp_right And.left)).1

end Programs

/-! ## Whole runs -/

theorem Reaches.invariant [DecidableEq ρ] {state : State ρ} (reaches : Reaches state) :
    Invariant state := by
  induction reaches with
  | start settlement => exact .start settlement
  | call settlement burnerHotkey payload _ ended induction =>
    exact ensures_reportCycleScores (induction.withSettlement settlement) burnerHotkey payload
      _ _ ended

/-- No kept report is lost silently, and the passes keep the order, over every run of calls. -/
theorem kept_reports_accounted {ρ : Type} [DecidableEq ρ] (state : State ρ)
    (reaches : Reaches state) : ReportsAccounted state :=
  reaches.invariant.toReportsAccounted

theorem sample_reports_accounted :
    ∃ state : State String, Reaches state ∧ state.pushed = [0] ∧ state.delivered = [0] ∧
      state.kept = [] ∧ ReportsAccounted state := by
  have returns : mayReturn (reportCycleScores (some "burner") "cycle")
      (State.start (.start PyDict.empty)) (fun _ left =>
        left.pushed = [0] && left.delivered = [0] && left.kept = []) = true := by
    decide +kernel
  rcases exists_of_mayReturn returns with ⟨_, state, ended, checked⟩
  simp only [Bool.and_eq_true, decide_eq_true_eq] at checked
  have reaches : Reaches state :=
    .call (.start PyDict.empty) (some "burner") "cycle" (.start (.start PyDict.empty)) ended
  exact ⟨state, reaches, checked.1.1, checked.1.2, checked.2, kept_reports_accounted state reaches⟩

/-- The `lpush` raises after it took effect: the call sends the report, and so does the replay. -/
theorem raised_lpush_sent_twice :
    ∃ state : State String, Reaches state ∧ state.unkept = [0] ∧ state.finished = [0] ∧
      state.sends.count 0 = 2 := by
  have returns : mayReturn (reportCycleScores (some "burner") "cycle")
      (State.start (.start PyDict.empty)) (fun _ left =>
        left.unkept = [0] && left.finished = [0] && left.sends.count 0 = 2) = true := by
    decide +kernel
  rcases exists_of_mayReturn returns with ⟨_, state, ended, checked⟩
  simp only [Bool.and_eq_true, decide_eq_true_eq] at checked
  have reaches : Reaches state :=
    .call (.start PyDict.empty) (some "burner") "cycle" (.start (.start PyDict.empty)) ended
  exact ⟨state, reaches, checked.1.1, checked.1.2, checked.2⟩

end Lium.CycleReports
