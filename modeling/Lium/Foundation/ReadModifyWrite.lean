import Mathlib.Data.List.Nodup

/-! # Read, change, write back

Callers that each read a shared value, change their copy and write it back as a whole, in any order
of the single accesses. Whoever is not behind the last write left no trace.
-/

namespace Lium

inductive Access (ι : Type) where
  | read (caller : ι)
  | write (caller : ι)
deriving DecidableEq, Repr

namespace Access

variable {ι : Type}

def caller : Access ι → ι
  | .read caller => caller
  | .write caller => caller

def writer? : Access ι → Option ι
  | .read _ => none
  | .write caller => some caller

end Access

structure Shared (ι α : Type) where
  value : α
  copies : ι → Option α

namespace Shared

variable {ι α β : Type}

def start (initial : α) : Shared ι α := ⟨initial, fun _ => none⟩

def map (f : α → β) (shared : Shared ι α) : Shared ι β :=
  ⟨f shared.value, fun caller => (shared.copies caller).map f⟩

variable [DecidableEq ι] (update : ι → α → α)

def access (shared : Shared ι α) : Access ι → Shared ι α
  | .read caller =>
    { shared with copies := Function.update shared.copies caller (some shared.value) }
  | .write caller =>
    match shared.copies caller with
    | none => shared
    | some copy => { shared with value := update caller copy }

def run (schedule : List (Access ι)) (shared : Shared ι α) : Shared ι α :=
  schedule.foldl (access update) shared

@[simp] theorem run_nil (shared : Shared ι α) : run update [] shared = shared := rfl

@[simp] theorem run_cons (access : Access ι) (schedule : List (Access ι))
    (shared : Shared ι α) :
    run update (access :: schedule) shared =
      run update schedule (shared.access update access) := rfl

theorem run_append (first second : List (Access ι)) (shared : Shared ι α) :
    run update (first ++ second) shared = run update second (run update first shared) :=
  List.foldl_append

variable {update} {other : ι → β → β} {f : α → β}

theorem map_access (commutes : ∀ caller value, f (update caller value) = other caller (f value))
    (shared : Shared ι α) (access : Access ι) :
    (shared.access update access).map f = (shared.map f).access other access := by
  cases access with
  | read caller =>
    simp only [Shared.access, map, mk.injEq, true_and]
    funext reader
    by_cases same : reader = caller
    · subst same
      simp
    · simp [Function.update_of_ne same]
  | write caller =>
    cases copied : shared.copies caller with
    | none => simp [Shared.access, map, copied]
    | some copy => simp [Shared.access, map, copied, commutes]

theorem map_run (commutes : ∀ caller value, f (update caller value) = other caller (f value))
    (schedule : List (Access ι)) (shared : Shared ι α) :
    (run update schedule shared).map f = run other schedule (shared.map f) := by
  induction schedule generalizing shared with
  | nil => rfl
  | cons access schedule induction =>
    rw [run_cons, run_cons, induction, map_access commutes]

end Shared

section Lineage

variable {ι α : Type} [DecidableEq ι]

def signUpdate (caller : ι) (signed : List ι) : List ι := signed ++ [caller]

/-- The callers behind the last write: its own, after the callers behind the value it read. -/
def lineage (schedule : List (Access ι)) : List ι :=
  (Shared.run signUpdate schedule (.start [])).value

/-- The value after any schedule is what its lineage makes of the initial one. -/
theorem value_run_eq_foldl (update : ι → α → α) (schedule : List (Access ι)) (initial : α) :
    (Shared.run update schedule (.start initial)).value =
      (lineage schedule).foldl (fun value caller => update caller value) initial := by
  have commutes : ∀ caller signed,
      (signUpdate caller signed).foldl (fun value caller => update caller value) initial =
        update caller (signed.foldl (fun value caller => update caller value) initial) := by
    intro caller signed
    rw [signUpdate, List.foldl_concat]
  have mapped := Shared.map_run commutes schedule (.start [])
  exact (congrArg Shared.value mapped).symm

/-- Every value and every copy is signed by callers that wrote, in the order of their writes. -/
def SignedBy (writers : List ι) (shared : Shared ι (List ι)) : Prop :=
  shared.value.Sublist writers ∧
    ∀ caller, ∀ copy ∈ shared.copies caller, copy.Sublist writers

variable {writers : List ι} {shared : Shared ι (List ι)}

theorem signedBy_access (signed : SignedBy writers shared) (access : Access ι) :
    SignedBy (writers ++ access.writer?.toList) (shared.access signUpdate access) := by
  rcases signed with ⟨value, copies⟩
  cases access with
  | read caller =>
    simp only [Access.writer?, Option.toList_none, List.append_nil]
    constructor
    · exact value
    · intro reader copy copied
      by_cases same : reader = caller
      · subst same
        have isValue : shared.value = copy := by
          simpa [Shared.access] using copied
        exact isValue ▸ value
      · apply copies reader
        simpa [Shared.access, Function.update_of_ne same] using copied
  | write caller =>
    have kept : ∀ reader, ∀ copy ∈ shared.copies reader,
        copy.Sublist (writers ++ [caller]) := by
      intro reader copy copied
      exact (copies reader copy copied).trans (List.sublist_append_left _ _)
    cases copied : shared.copies caller with
    | none =>
      simp only [Shared.access, copied]
      exact ⟨value.trans (List.sublist_append_left _ _), kept⟩
    | some copy =>
      simp only [Shared.access, copied]
      exact ⟨(copies caller copy copied).append (.refl _), kept⟩

theorem signedBy_run (signed : SignedBy writers shared) (schedule : List (Access ι)) :
    SignedBy (writers ++ schedule.filterMap Access.writer?)
      (Shared.run signUpdate schedule shared) := by
  induction schedule generalizing writers shared with
  | nil => simpa using signed
  | cons access schedule induction =>
    have later := induction (signedBy_access signed access)
    cases access with
    | read caller => simpa [Access.writer?, List.filterMap_cons] using later
    | write caller => simpa [Access.writer?, List.filterMap_cons] using later

theorem lineage_sublist (schedule : List (Access ι)) :
    (lineage schedule).Sublist (schedule.filterMap Access.writer?) := by
  have initially : SignedBy [] (Shared.start (ι := ι) ([] : List ι)) := by
    constructor
    · exact .refl _
    · intro caller copy copied
      cases copied
  exact (signedBy_run initially schedule).1

/-- Every caller reads, then writes, and that is all it does. -/
def Finished (schedule : List (Access ι)) : Prop :=
  ∀ caller, schedule.filter (fun access => access.caller = caller) =
    [.read caller, .write caller]

variable {schedule : List (Access ι)}

theorem Finished.nodup_lineage (finished : Finished schedule) :
    (lineage schedule).Nodup := by
  apply (lineage_sublist schedule).nodup
  rw [List.nodup_iff_count_le_one]
  intro caller
  have own : ∀ access : Access ι, (access.writer? == some caller) =
      ((access.writer? == some caller) && decide (access.caller = caller)) := by
    intro access
    cases access with
    | read reader => rfl
    | write writer => by_cases same : writer = caller <;> simp [Access.writer?, Access.caller, same]
  calc (schedule.filterMap Access.writer?).count caller
      = schedule.countP (fun access => access.writer? == some caller) := List.count_filterMap
    _ = (schedule.filter fun access => access.caller = caller).countP
          (fun access => access.writer? == some caller) := by
        rw [List.countP_filter]
        exact congrArg (fun counted => schedule.countP counted) (funext own)
    _ ≤ 1 := by simp [finished caller, Access.writer?]

theorem Finished.read_mem (finished : Finished schedule) (caller : ι) :
    .read caller ∈ schedule := by
  have reads : Access.read caller ∈ schedule.filter fun access => access.caller = caller := by
    rw [finished caller]
    exact List.mem_cons_self
  exact (List.mem_filter.mp reads).1

/-- Callers one after another: nobody reads while another is between its read and its write. -/
def serialSchedule (order : List ι) : List (Access ι) :=
  order.flatMap fun caller => [.read caller, .write caller]

theorem lineage_serialSchedule (order : List ι) : lineage (serialSchedule order) = order := by
  have signs : ∀ shared : Shared ι (List ι),
      (Shared.run signUpdate (serialSchedule order) shared).value = shared.value ++ order := by
    induction order with
    | nil => simp [serialSchedule]
    | cons caller order induction =>
      intro shared
      rw [serialSchedule, List.flatMap_cons, Shared.run_append, ← serialSchedule, induction]
      simp [Shared.access, signUpdate]
  exact signs (.start [])

omit [DecidableEq ι] in
theorem pair_sublist_of_serialSchedule {order : List ι} {first second : ι}
    (inOrder : [Access.write first, .read second].Sublist (serialSchedule order)) :
    [first, second].Sublist order := by
  induction order with
  | nil => cases inOrder
  | cons caller order induction =>
    have unread : [Access.write first, .read second].Sublist
        (.write caller :: serialSchedule order) := by
      cases inOrder with
      | cons _ later => exact later
    cases unread with
    | cons _ later => exact .cons _ (induction later)
    | cons_cons _ later =>
      have reads := List.singleton_sublist.mp later
      have isLater : second ∈ order := by
        simpa [serialSchedule] using reads
      exact .cons_cons _ (List.singleton_sublist.mpr isLater)

end Lineage

theorem pair_sublist_concat {α : Type} {first second last : α} {entries : List α} :
    [first, second].Sublist (entries ++ [last]) ↔
      [first, second].Sublist entries ∨ first ∈ entries ∧ second = last := by
  constructor
  · intro inOrder
    rcases List.sublist_append_iff.mp inOrder with ⟨front, back, split, inEntries, inLast⟩
    rcases List.sublist_singleton.mp inLast with rfl | rfl
    · rw [List.append_nil] at split
      exact .inl (split ▸ inEntries)
    · rcases List.append_inj' (show [first] ++ [second] = front ++ [last] from split) rfl
        with ⟨rfl, same⟩
      exact .inr ⟨List.singleton_sublist.mp inEntries, List.singleton_injective same⟩
  · intro ordered
    rcases ordered with earlier | ⟨member, rfl⟩
    · exact earlier.trans (List.sublist_append_left _ _)
    · exact (List.singleton_sublist.mpr member).append (.refl [second])

theorem forall_pair_sublist_concat {α : Type} {first last : α} {entries : List α}
    {property : α → Prop} :
    (∀ second, [first, second].Sublist (entries ++ [last]) → property second) ↔
      (∀ second, [first, second].Sublist entries → property second) ∧
        (first ∈ entries → property last) := by
  simp only [pair_sublist_concat, or_imp, forall_and, and_imp]
  exact and_congr_right fun _ => ⟨fun all member => all last member rfl,
    fun holds _ member same => same ▸ holds member⟩

end Lium
