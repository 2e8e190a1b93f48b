import Lium.Validator.Settlement

/-! # Settled windows are accounted

What the process and Redis hold for a window is an accepted pair or one that Redis held at the
start. The next vector waits until all of these are acknowledged.
-/

namespace Lium.Settlement

open Coroutine

variable {state : State} {index other block : ℕ}

/-! ## Entries -/

theorem get?_merge (kept own : PyDict ℕ ℕ) (index : ℕ) :
    (merge kept own).get? index = (own.get? index).or (kept.get? index) := by
  rw [merge, PyDict.get?_setEach]
  cases own.get? index <;> rfl

variable {written : Option ℕ}

theorem get?_putEntry {entries : PyDict ℕ ℕ}
    (found : (putEntry index written entries).get? other = some block) :
    other = index ∧ written = some block ∨ other ≠ index ∧ entries.get? other = some block := by
  cases written with
  | none =>
    rw [putEntry, PyDict.get?_filter_eq_some, decide_eq_true_eq] at found
    exact .inr ⟨found.2, found.1⟩
  | some value =>
    rw [putEntry, PyDict.get?_set] at found
    split at found
    case isTrue same => exact .inl ⟨same, found⟩
    case isFalse apart => exact .inr ⟨apart, found⟩

theorem get?_putEntry_of_ne (written : Option ℕ) (entries : PyDict ℕ ℕ) (apart : other ≠ index) :
    (putEntry index written entries).get? other = entries.get? other := by
  cases written with
  | none =>
    ext block
    rw [putEntry, PyDict.get?_filter_eq_some, decide_eq_true_eq]
    exact and_iff_left apart
  | some value => exact entries.get?_set_other apart value

theorem get?_putEntry_self (index : ℕ) (written : Option ℕ) (entries : PyDict ℕ ℕ) :
    (putEntry index written entries).get? index = written := by
  cases written with
  | none =>
    rw [Option.eq_none_iff_forall_ne_some]
    intro block found
    rw [putEntry, PyDict.get?_filter_eq_some, decide_eq_true_eq] at found
    exact found.2 rfl
  | some value => exact entries.get?_set_self index value

/-! ## The invariant -/

/-- Accepted by this process or by the one that left the entry in Redis. -/
def State.Known (kept : PyDict ℕ ℕ) (state : State) (index block : ℕ) : Prop :=
  (index, block) ∈ state.accepted ∨ kept.get? index = some block

/-- Of every entry that the process or Redis holds. -/
def State.Holding (state : State) (holds : ℕ → ℕ → Prop) : Prop :=
  ∀ index block, state.unacknowledgedInclusions.get? index = some block ∨
    state.pending.get? index = some block → holds index block

structure Accounted (kept : PyDict ℕ ℕ) (state : State) : Prop where
  /-- an accepted window is acknowledged or remembered -/
  remembered : ∀ index block, (index, block) ∈ state.accepted →
    (index, block) ∈ state.acknowledged ∨
      state.unacknowledgedInclusions.get? index = some block
  /-- nothing is held that was not accepted, here or before -/
  known : state.Holding (state.Known kept)
  reported : ∀ index block, (index, block) ∈ state.reported → state.Known kept index block
  /-- an entry of Redis that the process's own hides is acknowledged -/
  hidden : ∀ index block, state.pending.get? index = some block →
    (index, block) ∈ state.acknowledged ∨ state.unacknowledgedInclusions.get? index = none ∨
      state.unacknowledgedInclusions.get? index = some block
  gated : ∀ submission ∈ state.submissions, ∀ index block,
    (index, block) ∈ submission.accepted ∨ submission.pending.get? index = some block →
      (index, block) ∈ submission.acknowledged

structure Unmoved (before after : State) : Prop where
  accepted : after.accepted = before.accepted
  submissions : after.submissions = before.submissions
  settledTempoDone : after.settledTempoDone = before.settledTempoDone
  acknowledged : ∀ pair ∈ before.acknowledged, pair ∈ after.acknowledged

theorem Unmoved.refl (state : State) : Unmoved state state :=
  ⟨rfl, rfl, rfl, fun _ member => member⟩

theorem Unmoved.trans {first second third : State} (left : Unmoved first second)
    (right : Unmoved second third) : Unmoved first third :=
  ⟨right.accepted.trans left.accepted, right.submissions.trans left.submissions,
    right.settledTempoDone.trans left.settledTempoDone,
    fun pair member => right.acknowledged pair (left.acknowledged pair member)⟩

/-- Everything held is acknowledged or an entry of the given map. -/
def Within (entries : PyDict ℕ ℕ) (state : State) : Prop :=
  state.Holding fun index block =>
    (index, block) ∈ state.acknowledged ∨ entries.get? index = some block

/-! ## Keeping an entry -/

/-- Redis holds what it held or what the process read from it, overlaid with its own. -/
inductive Rekept (before : State) : State → Prop
  | same : Rekept before before
  | written (pending : PyDict ℕ ℕ)
      (entries : ∀ index block, pending.get? index = some block →
        before.unacknowledgedInclusions.get? index = some block ∨
          before.unacknowledgedInclusions.get? index = none ∧
            before.pending.get? index = some block) :
      Rekept before { before with pending }

theorem ensures_pendingInclusions (state : State) :
    Ensures pendingInclusions state fun ending left =>
      left = state ∧ ∀ pending, ending = .returned (some pending) →
        pending = merge state.pending state.unacknowledgedInclusions := by
  simp [pendingInclusions, ensures_tryExcept, ensures_await]

theorem ensures_keepPendingInclusion (state : State) (index : ℕ) (block : Option ℕ) :
    Ensures (keepPendingInclusion index block) state fun _ left =>
      Rekept (state.withOwn index block) left := by
  rw [keepPendingInclusion, ensures_modify_bind]
  refine (ensures_pendingInclusions (state.withOwn index block)).bind ?returned ?raised ?cancelled
  case returned =>
    intro pending left read
    rw [read.1]
    cases pending with
    | none => exact (ensures_pure _).mpr .same
    | some pending =>
      have rewritten : Rekept (state.withOwn index block)
          { state.withOwn index block with pending := putEntry index block pending } := by
        refine .written _ ?_
        intro other value found
        rw [read.2 pending rfl] at found
        rcases get?_putEntry found with ⟨same, written⟩ | ⟨apart, merged⟩
        · rw [same, State.withOwn, get?_putEntry_self]
          exact .inl written
        · rw [get?_merge] at merged
          cases own : (state.withOwn index block).unacknowledgedInclusions.get? other with
          | none =>
            rw [own] at merged
            exact .inr ⟨rfl, merged⟩
          | some ownBlock =>
            rw [own] at merged
            exact .inl merged
      rw [ensures_tryExcept, ensures_await]
      simp only [ensures_pure]
      exact ⟨rewritten, ⟨.same, rewritten⟩, .same, rewritten⟩
  all_goals
    intro left read
    rw [read.1]
    exact .same

section Steps

variable {kept entries : PyDict ℕ ℕ} {left : State} {holds : ℕ → ℕ → Prop}

theorem State.Holding.rekept (holding : state.Holding holds) (rekept : Rekept state left) :
    left.Holding holds := by
  cases rekept with
  | same => exact holding
  | written pending entries =>
    intro index block held
    rcases held with own | found
    · exact holding index block (.inl own)
    · rcases entries index block found with own | ⟨-, stored⟩
      · exact holding index block (.inl own)
      · exact holding index block (.inr stored)

theorem State.Holding.withOwn (holding : state.Holding holds)
    (entry : ∀ block, written = some block → holds index block) :
    (state.withOwn index written).Holding holds := by
  intro other value held
  rcases held with own | found
  · rcases get?_putEntry own with ⟨same, isWritten⟩ | ⟨-, old⟩
    · rw [same]
      exact entry value isWritten
    · exact holding other value (.inl old)
  · exact holding other value (.inr found)

theorem Rekept.own (rekept : Rekept state left) :
    left.unacknowledgedInclusions = state.unacknowledgedInclusions := by
  cases rekept <;> rfl

theorem Rekept.unmoved (rekept : Rekept state left) : Unmoved state left := by
  cases rekept with
  | same => exact .refl state
  | written pending entries => exact ⟨rfl, rfl, rfl, fun _ member => member⟩

theorem Accounted.rekept (accounted : Accounted kept state) (rekept : Rekept state left) :
    Accounted kept left := by
  cases rekept with
  | same => exact accounted
  | written pending entries =>
    refine
      { accounted with
        known := accounted.known.rekept (.written pending entries), hidden := ?_ }
    intro index block found
    rcases entries index block found with own | ⟨none, -⟩
    · exact .inr (.inr own)
    · exact .inr (.inl none)

theorem Within.rekept (within : Within entries state) (rekept : Rekept state left) :
    Within entries left := by
  have rekeptWithin := State.Holding.rekept within rekept
  cases rekept <;> exact rekeptWithin

/-- The process's own entry is rewritten: what it and Redis held there is acknowledged or still
seen. -/
theorem Accounted.withOwn (accounted : Accounted kept state)
    (known : ∀ block, written = some block → state.Known kept index block)
    (own : ∀ block, state.unacknowledgedInclusions.get? index = some block →
      (index, block) ∈ state.acknowledged ∨ written = some block)
    (stored : ∀ block, state.pending.get? index = some block →
      (index, block) ∈ state.acknowledged ∨ written = none ∨ written = some block) :
    Accounted kept (state.withOwn index written) := by
  refine
    { accounted with
      remembered := ?_, known := accounted.known.withOwn known, hidden := ?_ }
  · intro other value accepted
    rcases accounted.remembered other value accepted with acknowledged | held
    · exact .inl acknowledged
    · by_cases same : other = index
      · rw [same] at held ⊢
        rw [State.withOwn, get?_putEntry_self]
        exact own value held
      · rw [State.withOwn, get?_putEntry_of_ne _ _ same]
        exact .inr held
  · intro other value found
    by_cases same : other = index
    · rw [same] at found ⊢
      rw [State.withOwn, get?_putEntry_self]
      exact stored value found
    · rw [State.withOwn, get?_putEntry_of_ne _ _ same]
      exact accounted.hidden other value found

theorem Accounted.sent (accounted : Accounted kept state)
    (own : state.unacknowledgedInclusions.get? index = some block) :
    Accounted kept (state.sent index block) := by
  refine { accounted with reported := ?_ }
  intro other value member
  rcases List.mem_append.mp member with old | new
  · exact accounted.reported other value old
  · cases List.mem_singleton.mp new
    exact accounted.known index block (.inl own)

theorem Accounted.answered (accounted : Accounted kept state) :
    Accounted kept (state.answered index block) :=
  { accounted with
    remembered := fun other value accepted =>
      (accounted.remembered other value accepted).imp_left (List.mem_append_left _)
    hidden := fun other value found =>
      (accounted.hidden other value found).imp_left (List.mem_append_left _) }

theorem Within.answered (within : Within entries state) :
    Within entries (state.answered index block) :=
  fun other value held => (within other value held).imp_left (List.mem_append_left _)

end Steps

/-! ## A pass over the pending reports -/

structure Passing (kept entries : PyDict ℕ ℕ) (start state : State) : Prop where
  accounted : Accounted kept state
  within : Within entries state
  unmoved : Unmoved start state

section Pass

variable {kept entries : PyDict ℕ ℕ} {start left : State}

section

variable (passing : Passing kept entries start state)
include passing

theorem Passing.rekept
    (rekept : Rekept state left) : Passing kept entries start left :=
  ⟨passing.accounted.rekept rekept, passing.within.rekept rekept,
    passing.unmoved.trans rekept.unmoved⟩

theorem Passing.withOwn
    (entry : entries.get? index = some block)
    (known : start.Known kept index block) :
    Passing kept entries start (state.withOwn index (some block)) := by
  have entered : ∀ value, (index, value) ∈ state.acknowledged ∨ entries.get? index = some value →
      (index, value) ∈ state.acknowledged ∨ some block = some value :=
    fun value held => held.imp_right entry.symm.trans
  rw [State.Known, ← passing.unmoved.accepted] at known
  exact ⟨passing.accounted.withOwn (by rintro _ ⟨⟩; exact known)
      (fun value own => entered value (passing.within index value (.inl own)))
      (fun value stored =>
        (entered value (passing.within index value (.inr stored))).imp_right .inr),
    State.Holding.withOwn passing.within (by rintro _ ⟨⟩; exact .inr entry),
    passing.unmoved.trans ⟨rfl, rfl, rfl, fun _ member => member⟩⟩

theorem Passing.sent
    (own : state.unacknowledgedInclusions.get? index = some block) :
    Passing kept entries start (state.sent index block) :=
  ⟨passing.accounted.sent own, passing.within,
    passing.unmoved.trans ⟨rfl, rfl, rfl, fun _ member => member⟩⟩

theorem Passing.answered :
    Passing kept entries start (state.answered index block) :=
  ⟨passing.accounted.answered, passing.within.answered,
    passing.unmoved.trans ⟨rfl, rfl, rfl, fun _ member => List.mem_append_left _ member⟩⟩

theorem Passing.dropped
    (own : state.unacknowledgedInclusions.get? index = some block)
    (acknowledged : (index, block) ∈ state.acknowledged) :
    Passing kept entries start (state.withOwn index none) := by
  refine ⟨passing.accounted.withOwn (by rintro _ ⟨⟩) ?_ fun _ _ => .inr (.inl rfl),
    State.Holding.withOwn passing.within (by rintro _ ⟨⟩),
    passing.unmoved.trans ⟨rfl, rfl, rfl, fun _ member => member⟩⟩
  intro value held
  cases own.symm.trans held
  exact .inl acknowledged

theorem ensures_report
    (own : state.unacknowledgedInclusions.get? index = some block) :
    Ensures (tryExcept (reportSettledWeightsResult index block) (pure false)) state
      fun ending left => Passing kept entries start left ∧
        left.unacknowledgedInclusions.get? index = some block ∧
        (ending = .returned true → (index, block) ∈ left.acknowledged) := by
  have sent := passing.sent own
  have unanswered : ∀ ending : Ending Bool, ending ≠ .returned true →
      Passing kept entries start (state.sent index block) ∧
        (state.sent index block).unacknowledgedInclusions.get? index = some block ∧
        (ending = .returned true → (index, block) ∈ (state.sent index block).acknowledged) :=
    fun ending other => ⟨sent, own, fun equal => absurd equal other⟩
  rw [ensures_tryExcept, reportSettledWeightsResult, ensures_modify_bind, ensures_bind,
    ensures_await]
  simp only [ensures_resume_returned, ensures_resume_raised, ensures_resume_cancelled, id_eq,
    ensures_choose, List.forall_mem_cons, ensures_bind, ensures_modify, ensures_pure]
  have failed := unanswered (.returned false) (by simp)
  have cancelled := unanswered .cancelled (by simp)
  refine ⟨⟨⟨sent.answered, own, ?_⟩, failed, fun _ member => ?_⟩, ⟨failed, failed⟩, cancelled,
    cancelled⟩
  · exact fun _ => List.mem_append_right _ (List.mem_singleton.mpr rfl)
  · cases member

end

theorem ensures_confirmInclusion
    (passing : Passing kept entries start (state.withOwn index (some block)))
    (entry : entries.get? index = some block) (known : start.Known kept index block) :
    Ensures (confirmInclusion index block) state fun ending left =>
      Passing kept entries start left ∧
        (ending = .returned true → (index, block) ∈ left.acknowledged) := by
  rw [confirmInclusion]
  refine (ensures_keepPendingInclusion state index (some block)).bind ?kept ?keepRaised ?keepCut
  case kept =>
    intro _ keptState rekept
    have own : keptState.unacknowledgedInclusions.get? index = some block := by
      rw [rekept.own]
      exact get?_putEntry_self ..
    refine (ensures_report (passing.rekept rekept) own).bind ?answered ?raised ?cut
    case answered =>
      intro confirmed answered report
      rcases report with ⟨answeredPassing, stillOwn, acknowledged⟩
      have again : Passing kept entries start
          (answered.withOwn index (if confirmed then none else some block)) := by
        cases confirmed with
        | true => exact answeredPassing.dropped stillOwn (acknowledged rfl)
        | false => exact answeredPassing.withOwn entry known
      refine (ensures_keepPendingInclusion answered index _).bind ?_ ?_ ?_
      · intro _ left rekept
        rw [ensures_pure]
        refine ⟨again.rekept rekept, ?_⟩
        intro equal
        have isConfirmed : confirmed = true := by
          cases equal
          rfl
        exact rekept.unmoved.acknowledged _ (acknowledged (congrArg _ isConfirmed))
      · exact fun left rekept => ⟨again.rekept rekept, by rintro ⟨⟩⟩
      · exact fun left rekept => ⟨again.rekept rekept, by rintro ⟨⟩⟩
    case raised => exact fun left report => ⟨report.1, by rintro ⟨⟩⟩
    case cut => exact fun left report => ⟨report.1, by rintro ⟨⟩⟩
  case keepRaised => exact fun left rekept => ⟨passing.rekept rekept, by rintro ⟨⟩⟩
  case keepCut => exact fun left rekept => ⟨passing.rekept rekept, by rintro ⟨⟩⟩

theorem ensures_confirmEach (pairs : List (ℕ × ℕ))
    (listed : ∀ pair ∈ pairs, entries.get? pair.1 = some pair.2)
    (known : ∀ index block, entries.get? index = some block → state.Known kept index block)
    (passing : Passing kept entries state state) :
    Ensures (confirmEach pairs) state fun ending left =>
      Passing kept entries state left ∧
        (ending = .returned true → ∀ pair ∈ pairs, pair ∈ left.acknowledged) := by
  induction pairs generalizing state with
  | nil =>
    rw [confirmEach, ensures_pure]
    exact ⟨passing, fun _ _ member => absurd member List.not_mem_nil⟩
  | cons pair rest induction =>
    rcases pair with ⟨index, block⟩
    rw [List.forall_mem_cons] at listed
    have isKnown := known index block listed.1
    rw [confirmEach]
    refine (ensures_confirmInclusion (passing.withOwn listed.1 isKnown) listed.1
      isKnown).bind ?_ ?_ ?_
    · intro confirmed middle confirmation
      rcases confirmation with ⟨middlePassing, acknowledged⟩
      cases confirmed with
      | false => exact (ensures_pure _).mpr ⟨middlePassing, by rintro ⟨⟩⟩
      | true =>
        have later := induction listed.2
          (by simpa only [State.Known, middlePassing.unmoved.accepted] using known)
          ⟨middlePassing.accounted, middlePassing.within, .refl middle⟩
        refine later.mono ?_
        intro ending left ended
        refine ⟨⟨ended.1.accounted, ended.1.within,
          middlePassing.unmoved.trans ended.1.unmoved⟩, ?_⟩
        intro returned
        rw [List.forall_mem_cons]
        exact ⟨ended.1.unmoved.acknowledged _ (acknowledged rfl), ended.2 returned⟩
    · exact fun left confirmation => ⟨confirmation.1, by rintro ⟨⟩⟩
    · exact fun left confirmation => ⟨confirmation.1, by rintro ⟨⟩⟩

/-- Every accepted window and every entry of Redis is acknowledged. -/
structure Settled (state : State) : Prop where
  accepted : ∀ pair ∈ state.accepted, pair ∈ state.acknowledged
  pending : ∀ index block, state.pending.get? index = some block →
    (index, block) ∈ state.acknowledged

theorem Passing.settled (passing : Passing kept entries start state)
    (all : ∀ index block, entries.get? index = some block →
      (index, block) ∈ state.acknowledged) : Settled state := by
  constructor
  · intro pair accepted
    rcases passing.accounted.remembered pair.1 pair.2 accepted with acknowledged | own
    · exact acknowledged
    · exact (passing.within pair.1 pair.2 (.inl own)).elim id (all pair.1 pair.2)
  · intro index block stored
    exact (passing.within index block (.inr stored)).elim id (all index block)

theorem Accounted.within_merge (accounted : Accounted kept state) :
    Within (merge state.pending state.unacknowledgedInclusions) state := by
  intro index block held
  rw [get?_merge]
  rcases held with own | stored
  · rw [own]
    exact .inr rfl
  · rcases accounted.hidden index block stored with acknowledged | none | same
    · exact .inl acknowledged
    · rw [none]
      exact .inr stored
    · rw [same]
      exact .inr rfl

theorem Accounted.known_merge (accounted : Accounted kept state)
    (found : (merge state.pending state.unacknowledgedInclusions).get? index = some block) :
    state.Known kept index block := by
  rw [get?_merge, Option.or_eq_some_iff] at found
  rcases found with own | ⟨-, stored⟩
  · exact accounted.known index block (.inl own)
  · exact accounted.known index block (.inr stored)

theorem ensures_retryPendingInclusion (accounted : Accounted kept state) :
    Ensures retryPendingInclusion state fun ending left =>
      Accounted kept left ∧ Unmoved state left ∧ (ending = .returned true → Settled left) := by
  rw [retryPendingInclusion]
  refine (ensures_pendingInclusions state).bind ?_ ?_ ?_
  · intro pending left read
    rw [read.1]
    cases pending with
    | none => exact (ensures_pure _).mpr ⟨accounted, .refl state, nofun⟩
    | some pending =>
      rw [read.2 pending rfl]
      have sorted : ∀ pair, pair ∈ sortedEntries
          (merge state.pending state.unacknowledgedInclusions) ↔
            (merge state.pending state.unacknowledgedInclusions).get? pair.1 = some pair.2 := by
        intro pair
        rw [sortedEntries, List.mem_insertionSort]
        exact PyDict.mem_items_iff _
      refine (ensures_confirmEach _ (fun pair member => (sorted pair).mp member)
        (fun _ _ => accounted.known_merge)
        ⟨accounted, accounted.within_merge, .refl state⟩).mono ?_
      intro ending left ended
      refine ⟨ended.1.accounted, ended.1.unmoved, fun returned => ended.1.settled ?_⟩
      intro index block found
      exact ended.2 returned (index, block) ((sorted (index, block)).mpr found)
  all_goals
    intro left read
    rw [read.1]
    exact ⟨accounted, .refl state, nofun⟩

end Pass

/-! ## One submission -/

section Submit

variable {kept : PyDict ℕ ℕ} {left : State}

section

variable (accounted : Accounted kept state)
include accounted

section

variable (settled : Settled state)
include settled

theorem Accounted.submitted :
    Accounted kept (state.submitted index) := by
  refine { accounted with gated := ?_ }
  intro submission member
  rcases List.mem_append.mp member with old | new
  · exact accounted.gated submission old
  · cases List.mem_singleton.mp new
    intro other value held
    exact held.elim (settled.accepted (other, value)) (settled.pending other value)

theorem Accounted.taken :
    Accounted kept ((state.taken index block).withOwn index (some block)) := by
  refine ⟨?_, ?_, ?_, ?_, accounted.gated⟩
  · intro other value accepted
    rcases List.mem_append.mp accepted with old | new
    · exact .inl (settled.accepted (other, value) old)
    · cases List.mem_singleton.mp new
      exact .inr (get?_putEntry_self ..)
  · have old : (state.taken index block).Holding ((state.taken index block).Known kept) :=
      fun other value held => (accounted.known other value held).imp_left (List.mem_append_left _)
    refine old.withOwn ?_
    rintro _ ⟨⟩
    exact .inl (List.mem_append_right _ (List.mem_singleton.mpr rfl))
  · intro other value reported
    exact (accounted.reported other value reported).imp_left (List.mem_append_left _)
  · exact fun other value stored => .inl (settled.pending other value stored)

theorem ensures_submitVector :
    Ensures (submitVector index) state fun _ left =>
      Accounted kept left ∧ Settled left ∧ left.accepted = state.accepted ∧
        left.settledTempoDone = state.settledTempoDone := by
  have submitted : Accounted kept (state.submitted index) ∧ Settled (state.submitted index) ∧
      (state.submitted index).accepted = state.accepted ∧
        (state.submitted index).settledTempoDone = state.settledTempoDone :=
    ⟨accounted.submitted settled, ⟨settled.accepted, settled.pending⟩, rfl, rfl⟩
  rw [submitVector, ensures_modify_bind, ensures_tryExcept,
    ensures_bind, ensures_await]
  simp only [ensures_resume_returned, ensures_resume_raised, ensures_resume_cancelled, id_eq,
    ensures_choose, List.forall_mem_cons, ensures_pure]
  refine ⟨⟨submitted, submitted, fun _ member => ?_⟩, ⟨submitted, submitted⟩, submitted, submitted⟩
  cases member

theorem ensures_confirmTaken :
    Ensures (confirmInclusion index block) (state.taken index block) fun _ left =>
      Accounted kept left ∧ left.accepted = state.accepted ++ [(index, block)] ∧
        left.settledTempoDone = some index := by
  have within : Within (merge state.pending (putEntry index (some block)
      state.unacknowledgedInclusions)) ((state.taken index block).withOwn index (some block)) := by
    intro other value held
    rcases held with own | stored
    · have written : (putEntry index (some block) state.unacknowledgedInclusions).get? other =
          some value := own
      rw [get?_merge, written]
      exact .inr rfl
    · exact .inl (settled.pending other value stored)
  have entry : (merge state.pending (putEntry index (some block)
      state.unacknowledgedInclusions)).get? index = some block := by
    rw [get?_merge, get?_putEntry_self]
    rfl
  have passing : Passing kept (merge state.pending (putEntry index (some block)
      state.unacknowledgedInclusions)) (state.taken index block)
      ((state.taken index block).withOwn index (some block)) :=
    ⟨accounted.taken settled, within, ⟨rfl, rfl, rfl, fun _ member => member⟩⟩
  refine (ensures_confirmInclusion passing entry
    (.inl (List.mem_append_right _ (List.mem_singleton.mpr rfl)))).mono ?_
  intro _ left confirmation
  exact ⟨confirmation.1.accounted, confirmation.1.unmoved.accepted,
    confirmation.1.unmoved.settledTempoDone⟩

end

end

theorem ensures_fetchSettledWindow (input : SubmitInput) :
    Ensures (fetchSettledWindow input) state fun _ left => left = state := by
  simp [fetchSettledWindow, ensures_tryExcept, ensures_await]

/-- What a call does to the windows: nothing, an empty one marked done, or one taken. -/
inductive Numbering (index : ℕ) (state left : State) : Prop
  | same (accepted : left.accepted = state.accepted)
      (done : left.settledTempoDone = state.settledTempoDone)
  | frozen (accepted : left.accepted = state.accepted) (done : left.settledTempoDone = some index)
  | taken (block : ℕ) (accepted : left.accepted = state.accepted ++ [(index, block)])
      (done : left.settledTempoDone = some index)

theorem ensures_submitServedWindow (blockBefore : ℕ) (input : SubmitInput)
    (accounted : Accounted kept state) (settled : Settled state) :
    Ensures (submitServedWindow index blockBefore input) state fun _ left =>
      Accounted kept left ∧ Numbering index state left := by
  have untouched : Accounted kept state ∧ Numbering index state state :=
    ⟨accounted, .same rfl rfl⟩
  rw [submitServedWindow]
  refine (ensures_fetchSettledWindow input).bind ?fetched ?fetchRaised ?fetchCut
  case fetched =>
    intro window left same
    rw [same]
    cases window with
    | none => exact (ensures_pure _).mpr untouched
    | some hotkeyScores =>
      dsimp only
      split
      · rw [ensures_modify_bind, ensures_pure]
        exact ⟨{ accounted with }, .frozen rfl rfl⟩
      · refine (ensures_submitVector accounted settled).bind ?answered ?raised ?cut
        case answered =>
          intro accepted submitted vector
          rcases vector with ⟨submittedAccounted, submittedSettled, sameAccepted, sameDone⟩
          cases accepted with
          | false => exact (ensures_pure _).mpr ⟨submittedAccounted, .same sameAccepted sameDone⟩
          | true =>
            rw [if_pos rfl, ensures_modify_bind]
            have confirmed : ∀ left : State, Accounted kept left ∧ left.accepted =
                submitted.accepted ++ [(index, input.blockAfter.getD blockBefore)] ∧
                  left.settledTempoDone = some index →
                Accounted kept left ∧ Numbering index state left := by
              intro left ⟨leftAccounted, leftAccepted, leftDone⟩
              rw [sameAccepted] at leftAccepted
              exact ⟨leftAccounted, .taken _ leftAccepted leftDone⟩
            refine (ensures_confirmTaken submittedAccounted submittedSettled).bind
              ?_ confirmed confirmed
            exact fun _ left taken => (ensures_pure _).mpr (confirmed left taken)
        case raised => exact fun left vector => ⟨vector.1, .same vector.2.2.1 vector.2.2.2⟩
        case cut => exact fun left vector => ⟨vector.1, .same vector.2.2.1 vector.2.2.2⟩
  all_goals
    intro left same
    rw [same]
    exact untouched

/-- A call that reads block `blockBefore` acts on its tempo, and only if that is not done. -/
def Calls (tempo : ℕ) (input : SubmitInput) (state left : State) : Prop :=
  (left.accepted = state.accepted ∧ left.settledTempoDone = state.settledTempoDone) ∨
    ∃ blockBefore, input.blockBefore = some blockBefore ∧
      state.settledTempoDone ≠ some (tempoIndex blockBefore tempo) ∧
        Numbering (tempoIndex blockBefore tempo) state left

theorem ensures_submitSettledWindow (tempo : ℕ) (input : SubmitInput)
    (accounted : Accounted kept state) :
    Ensures (submitSettledWindow tempo input) state fun _ left =>
      Accounted kept left ∧ Calls tempo input state left := by
  have untouched : Accounted kept state ∧ Calls tempo input state state :=
    ⟨accounted, .inl ⟨rfl, rfl⟩⟩
  have retried : ∀ left, Accounted kept left ∧ Unmoved state left →
      Accounted kept left ∧ Calls tempo input state left :=
    fun left retry => ⟨retry.1, .inl ⟨retry.2.accepted, retry.2.settledTempoDone⟩⟩
  rw [submitSettledWindow]
  cases before : input.blockBefore with
  | none => exact ensures_raise.mpr untouched
  | some blockBefore =>
    dsimp only
    split
    case isTrue => exact ensures_raise.mpr untouched
    case isFalse =>
      rw [ensures_read_bind]
      split
      case isTrue => exact (ensures_pure _).mpr untouched
      case isFalse fresh =>
        refine (ensures_retryPendingInclusion accounted).bind ?reported ?raised ?cut
        case reported =>
          intro reported middle retry
          rcases retry with ⟨middleAccounted, unmoved, settled⟩
          cases reported with
          | false => exact (ensures_pure _).mpr (retried middle ⟨middleAccounted, unmoved⟩)
          | true =>
            refine (ensures_submitServedWindow blockBefore input middleAccounted
              (settled rfl)).mono ?_
            intro _ left served
            refine ⟨served.1, .inr ⟨blockBefore, before, fresh, ?_⟩⟩
            cases served.2 with
            | same accepted done =>
              exact .same (accepted.trans unmoved.accepted)
                (done.trans unmoved.settledTempoDone)
            | frozen accepted done => exact .frozen (accepted.trans unmoved.accepted) done
            | taken block accepted done =>
              rw [unmoved.accepted] at accepted
              exact .taken block accepted done
        case raised => exact fun left retry => retried left ⟨retry.1, retry.2.1⟩
        case cut => exact fun left retry => retried left ⟨retry.1, retry.2.1⟩

end Submit

/-! ## Whole runs -/

structure Numbered (tempo clock : ℕ) (state : State) : Prop where
  nodup : (state.accepted.map Prod.fst).Nodup
  upTo : ∀ pair ∈ state.accepted, ∃ last, state.settledTempoDone = some last ∧ pair.1 ≤ last
  clocked : ∀ last, state.settledTempoDone = some last → last ≤ tempoIndex clock tempo

theorem SubmitInput.Follows.clock_le {input : SubmitInput} {clock : ℕ}
    (follows : input.Follows clock) :
    clock ≤ input.clock clock ∧
      ∀ blockBefore, input.blockBefore = some blockBefore → blockBefore ≤ input.clock clock := by
  rw [SubmitInput.clock]
  cases before : input.blockBefore with
  | none => exact ⟨le_rfl, fun _ => nofun⟩
  | some blockBefore =>
    have first := follows.before blockBefore before
    cases after : input.blockAfter with
    | none =>
      refine ⟨first, fun block equal => ?_⟩
      cases equal
      exact le_rfl
    | some blockAfter =>
      have second := follows.after blockBefore blockAfter before after
      refine ⟨first.trans second, fun block equal => ?_⟩
      cases equal
      exact second

namespace Numbered

variable {tempo clock later : ℕ} {left : State}

section

variable (numbered : Numbered tempo clock state)
include numbered

theorem idle (clockLe : clock ≤ later)
    (accepted : left.accepted = state.accepted)
    (done : left.settledTempoDone = state.settledTempoDone) : Numbered tempo later left := by
  constructor
  · rw [accepted]
    exact numbered.nodup
  · rw [accepted, done]
    exact numbered.upTo
  · rw [done]
    exact fun last isDone => (numbered.clocked last isDone).trans (Nat.div_le_div_right clockLe)

theorem accepted_lt (reached : tempoIndex clock tempo ≤ index)
    (fresh : state.settledTempoDone ≠ some index) :
    ∀ pair ∈ state.accepted, pair.1 < index := by
  intro pair accepted
  rcases numbered.upTo pair accepted with ⟨last, done, le⟩
  have lastLe := (numbered.clocked last done).trans reached
  have apart : last ≠ index := by
    intro same
    rw [same] at done
    exact fresh done
  omega

theorem numbering (clockLe : clock ≤ later) (reached : tempoIndex clock tempo ≤ index)
    (current : index ≤ tempoIndex later tempo) (fresh : state.settledTempoDone ≠ some index)
    (numbering : Numbering index state left) :
    Numbered tempo later left := by
  have earlier := numbered.accepted_lt reached fresh
  have clocked : left.settledTempoDone = some index →
      ∀ last, left.settledTempoDone = some last → last ≤ tempoIndex later tempo := by
    intro done last isLast
    rw [done] at isLast
    exact Option.some.inj isLast ▸ current
  cases numbering with
  | same accepted done => exact numbered.idle clockLe accepted done
  | frozen accepted done =>
    constructor
    · rw [accepted]
      exact numbered.nodup
    · rw [accepted, done]
      exact fun pair member => ⟨_, rfl, (earlier pair member).le⟩
    · exact clocked done
  | taken block accepted done =>
    constructor
    · rw [accepted, List.map_append, List.nodup_append]
      refine ⟨numbered.nodup, List.nodup_singleton _, ?_⟩
      intro first member other singleton same
      rcases List.mem_map.mp member with ⟨pair, pairMember, rfl⟩
      rw [List.mem_singleton.mp singleton] at same
      exact (earlier pair pairMember).ne same
    · rw [accepted, done]
      intro pair member
      rcases List.mem_append.mp member with old | new
      · exact ⟨_, rfl, (earlier pair old).le⟩
      · rw [List.mem_singleton.mp new]
        exact ⟨_, rfl, le_rfl⟩
    · exact clocked done

end

theorem calls {input : SubmitInput} (numbered : Numbered tempo clock state)
    (follows : input.Follows clock) (calls : Calls tempo input state left) :
    Numbered tempo (input.clock clock) left := by
  rcases follows.clock_le with ⟨clockLe, blockLe⟩
  rcases calls with ⟨accepted, done⟩ | ⟨blockBefore, before, fresh, numbering⟩
  · exact numbered.idle clockLe accepted done
  · exact numbered.numbering clockLe (Nat.div_le_div_right (follows.before _ before))
      (Nat.div_le_div_right (blockLe blockBefore before)) fresh numbering

end Numbered

theorem Reaches.accounted {tempo clock : ℕ} {kept : PyDict ℕ ℕ}
    (reaches : Reaches tempo kept clock state) :
    Accounted kept state ∧ Numbered tempo clock state := by
  induction reaches with
  | start clock =>
    refine ⟨⟨?_, ?_, ?_, ?_, ?_⟩, ⟨List.nodup_nil, ?_, ?_⟩⟩
    · exact fun _ _ member => absurd member List.not_mem_nil
    · exact fun index block held => held.elim nofun .inr
    · exact fun _ _ member => absurd member List.not_mem_nil
    · exact fun _ _ _ => .inr (.inl rfl)
    · exact fun _ member => absurd member List.not_mem_nil
    · exact fun _ member => absurd member List.not_mem_nil
    · exact fun _ => nofun
  | submit input _ follows ended induction =>
    have called := ensures_submitSettledWindow tempo input induction.1 _ _ ended
    exact ⟨called.1, induction.2.calls follows called.2⟩
  | retry _ ended induction =>
    have retried := ensures_retryPendingInclusion induction.1 _ _ ended
    exact ⟨retried.1, induction.2.idle le_rfl retried.2.1.accepted retried.2.1.settledTempoDone⟩

/-- The account of a process that started on `kept`. -/
structure WindowsAccounted (kept : PyDict ℕ ℕ) (state : State) : Prop where
  /-- a vector is submitted only when every window accepted before it and every entry kept in
  Redis is acknowledged -/
  gated : ∀ submission ∈ state.submissions, ∀ index block,
    (index, block) ∈ submission.accepted ∨ submission.pending.get? index = some block →
      (index, block) ∈ submission.acknowledged
  /-- at most one vector is accepted per tempo -/
  once : (state.accepted.map Prod.fst).Nodup
  /-- an accepted window is acknowledged or remembered -/
  remembered : ∀ index block, (index, block) ∈ state.accepted →
    (index, block) ∈ state.acknowledged ∨
      state.unacknowledgedInclusions.get? index = some block
  /-- a report carries the block recorded when its window was accepted, by this process or by
  the one that left the entry in Redis -/
  recorded : ∀ index block, (index, block) ∈ state.reported →
    (index, block) ∈ state.accepted ∨ kept.get? index = some block

/-! A process that restarts in the tempo of an entry that Redis still holds. -/

def sampleKept : PyDict ℕ ℕ := PyDict.empty.set 5 510

def sampleInput : SubmitInput where
  blockBefore := some 520
  blockAfter := some 530
  window := some [("hotkey", 1)]

theorem sampleInput_follows : sampleInput.Follows 520 where
  before := by
    intro block equal
    cases equal
    exact le_rfl
  after := by
    intro block later equal laterEqual
    cases equal
    cases laterEqual
    decide

def sampleUnwritten : State where
  unacknowledgedInclusions := .empty
  settledTempoDone := some 5
  pending := sampleKept
  submissions := [⟨5, [], [(5, 510)], sampleKept⟩]
  accepted := [(5, 530)]
  reported := [(5, 510), (5, 530)]
  acknowledged := [(5, 510), (5, 530)]

theorem restart_reports_older_block :
    ∃ clock state, Reaches 100 sampleKept clock state ∧ state.accepted = [(5, 530)] ∧
      state.reported = [(5, 510), (5, 530), (5, 510)] := by
  have submits : mayReturn (submitSettledWindow 100 sampleInput) (State.start sampleKept)
      (fun _ left => left = sampleUnwritten) = true := by
    decide +kernel
  have retries : mayReturn retryPendingInclusion sampleUnwritten (fun _ left =>
      left.accepted = [(5, 530)] && left.reported = [(5, 510), (5, 530), (5, 510)]) = true := by
    decide +kernel
  rcases exists_of_mayReturn submits with ⟨_, middle, submitted, same⟩
  rw [of_decide_eq_true same] at submitted
  rcases exists_of_mayReturn retries with ⟨_, state, retried, checked⟩
  rw [Bool.and_eq_true, decide_eq_true_eq, decide_eq_true_eq] at checked
  exact ⟨_, state, .retry (.submit sampleInput (.start 520) sampleInput_follows submitted)
    retried, checked.1, checked.2⟩

/-- Settled windows are accounted at every moment of a process, whichever operations fail. -/
theorem settled_windows_accounted (tempo clock : ℕ) (kept : PyDict ℕ ℕ) (state : State)
    (reaches : Reaches tempo kept clock state) : WindowsAccounted kept state := by
  rcases reaches.accounted with ⟨accounted, numbered⟩
  exact ⟨accounted.gated, numbered.nodup, accounted.remembered, accounted.reported⟩

theorem sample_windows_accounted :
    ∃ clock state, Reaches 100 PyDict.empty clock state ∧ state.accepted = [(5, 530)] ∧
      WindowsAccounted PyDict.empty state := by
  have returns : mayReturn (submitSettledWindow 100 sampleInput) (State.start PyDict.empty)
      (fun _ left => left.accepted = [(5, 530)]) = true := by
    decide +kernel
  rcases exists_of_mayReturn returns with ⟨_, state, ended, checked⟩
  have reaches : Reaches 100 PyDict.empty (sampleInput.clock 520) state :=
    .submit sampleInput (.start 520) sampleInput_follows ended
  exact ⟨_, state, reaches, of_decide_eq_true checked,
    settled_windows_accounted 100 _ PyDict.empty state reaches⟩

end Lium.Settlement
