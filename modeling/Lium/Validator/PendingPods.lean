import Lium.Foundation.ReadModifyWrite
import Mathlib.Data.Fintype.Basic

/-! # Pending-pod marks

The marks of one executor are one field of a Redis hash. `add_pending_pod` and
`remove_pending_pod` read the field, change the list and write it back whole, so calls that
overlap can undo each other: a mark is kept just if its call is behind the last write.
-/

namespace Lium.PendingPods

/-- An item of the list. Its keys other than these are not read. -/
structure Mark where
  time : Option ℤ
  podId : Option String
  kind : Option String
  gpuUuids : Option (List String)
  /-- The call that appended the item. It is not stored: it tells apart items that two calls
  made of the same values. -/
  addedBy : Option ℕ
deriving DecidableEq, Repr

inductive Stored where
  | absent
  | single (item : Mark)
  | listed (items : List Mark)
  | other
deriving DecidableEq, Repr

/-- The items before their age is looked at. -/
def Stored.items : Stored → List Mark
  | .absent => []
  | .single item => [item]
  | .listed items => items
  | .other => []

def getPendingPods (maxAgeSeconds : Option ℤ) (now : ℤ) (stored : Stored) : List Mark :=
  stored.items.filter fun item =>
    !(maxAgeSeconds.any fun maxAge => decide (maxAge ≤ now - item.time.getD 0))

theorem getPendingPods_none (now : ℤ) (stored : Stored) :
    getPendingPods none now stored = stored.items := by
  simp [getPendingPods]

/-- A call with its arguments; `now` is the clock when the call makes its item. -/
inductive Call where
  | add (podId : String) (kind : Option String) (gpuUuids : Option (List String)) (now : ℤ)
  | remove (podId : String) (kind : Option String) (now : ℤ)
deriving DecidableEq, Repr

variable {item : Mark}

namespace Call

def now : Call → ℤ
  | .add _ _ _ now => now
  | .remove _ _ now => now

/-- The item an `add_pending_pod` appends: an empty kind or list leaves its key out. -/
def mark? (caller : ℕ) : Call → Option Mark
  | .add podId kind gpuUuids now =>
    some
      { time := some now
        podId := some podId
        kind := kind.filter (· ≠ "")
        gpuUuids := gpuUuids.filter (· ≠ [])
        addedBy := some caller }
  | .remove _ _ _ => none

/-- What `remove_pending_pod` leaves in the list. -/
def keeps : Call → Mark → Bool
  | .add _ _ _ _, _ => true
  | .remove podId kind _, item =>
    decide (item.podId.getD "" ≠ podId) || (kind.isSome && decide (item.kind ≠ kind))

/-- A call of `remove_pending_pod` for the item's pod, and for its kind or for any. -/
def Covers (call : Call) (item : Mark) : Prop := call.keeps item = false

instance (call : Call) (item : Mark) : Decidable (call.Covers item) :=
  inferInstanceAs (Decidable (call.keeps item = false))

def change (call : Call) (caller : ℕ) (items : List Mark) : List Mark :=
  items.filter call.keeps ++ (call.mark? caller).toList

/-- What a call leaves in the field: an `add_pending_pod` always sets it, a
`remove_pending_pod` deletes it when nothing is left. -/
def writeBack (call : Call) (items : List Mark) : Stored :=
  match call with
  | .add _ _ _ _ => .listed items
  | .remove _ _ _ => if items = [] then .absent else .listed items

def update (call : Call) (caller : ℕ) (stored : Stored) : Stored :=
  call.writeBack (call.change caller (getPendingPods none call.now stored))

theorem items_update (call : Call) (caller : ℕ) (stored : Stored) :
    (call.update caller stored).items = call.change caller stored.items := by
  rw [update, getPendingPods_none]
  cases call with
  | add podId kind gpuUuids now => rfl
  | remove podId kind now =>
    simp only [writeBack]
    split
    · next nothing => rw [nothing]; rfl
    · rfl

variable {caller : ℕ}

theorem addedBy_of_mark? {call : Call} (appended : call.mark? caller = some item) :
    item.addedBy = some caller := by
  cases call with
  | add podId kind gpuUuids now =>
    cases appended
    rfl
  | remove podId kind now => cases appended

theorem mem_change {call : Call} {items : List Mark} :
    item ∈ call.change caller items ↔
      item ∈ items ∧ ¬ call.Covers item ∨ call.mark? caller = some item := by
  simp [change, Covers]

end Call

/-- Calls for one executor and the order of their Redis commands: each call reads, then
writes, and all of them finish. -/
structure Session (count : ℕ) where
  calls : Fin count → Call
  initial : Stored
  unmarked : ∀ item ∈ initial.items, item.addedBy = none
  schedule : List (Access (Fin count))
  finished : Finished schedule

namespace Session

variable {count : ℕ} (session : Session count)

def stored : Stored :=
  (Shared.run (fun caller => (session.calls caller).update caller) session.schedule
    (.start session.initial)).value

def mark? (caller : Fin count) : Option Mark := (session.calls caller).mark? caller

/-- `get_pending_pods` without an age limit, once all calls have finished. -/
def pending (now : ℤ) : List Mark := getPendingPods none now session.stored

/-- The first call had finished when the second one started. -/
def Precedes (first second : Fin count) : Prop :=
  [Access.write first, .read second].Sublist session.schedule

/-- Every mark no call covers is present, and none is that a call covers which started after
the mark's own call had finished. -/
def MarksSurvive : Prop :=
  (∀ caller item, session.mark? caller = some item →
    (∀ other, ¬ (session.calls other).Covers item) → ∀ now, item ∈ session.pending now) ∧
  ∀ caller other item, session.mark? caller = some item →
    (session.calls other).Covers item → session.Precedes caller other →
    ∀ now, item ∉ session.pending now

/-- The same of the callers behind the last write: an uncovered mark's caller is among them,
and a mark's caller that a later call covers is followed there by a call that covers it. -/
def NoneOverwritten : Prop :=
  (∀ caller item, session.mark? caller = some item →
    (∀ other, ¬ (session.calls other).Covers item) → caller ∈ lineage session.schedule) ∧
  ∀ caller other item, session.mark? caller = some item →
    (session.calls other).Covers item → session.Precedes caller other →
    caller ∈ lineage session.schedule →
    ∃ remover, [caller, remover].Sublist (lineage session.schedule) ∧
      (session.calls remover).Covers item

theorem pending_eq_foldl (now : ℤ) :
    session.pending now = (lineage session.schedule).foldl
      (fun items caller => (session.calls caller).change caller items) session.initial.items := by
  have onItems := Shared.map_run (f := Stored.items)
    (fun caller => (session.calls caller).items_update caller) session.schedule
    (.start session.initial)
  rw [pending, getPendingPods_none, stored,
    ← value_run_eq_foldl (fun caller => (session.calls caller).change caller)]
  exact congrArg Shared.value onItems

theorem mem_foldl_change {callers : List (Fin count)} (distinct : callers.Nodup)
    {caller : Fin count} (appended : session.mark? caller = some item) :
    item ∈ callers.foldl (fun items caller => (session.calls caller).change caller items)
        session.initial.items ↔
      caller ∈ callers ∧ ∀ remover, [caller, remover].Sublist callers →
        ¬ (session.calls remover).Covers item := by
  induction callers using List.reverseRecOn with
  | nil =>
    have tag := Call.addedBy_of_mark? appended
    constructor
    · intro initial
      rw [session.unmarked item initial] at tag
      cases tag
    · intro behind
      cases behind.1
  | append_singleton callers last induction =>
    rcases List.nodup_append.mp distinct with ⟨earlierDistinct, -, apart⟩
    rw [List.foldl_concat, Call.mem_change, induction earlierDistinct,
      forall_pair_sublist_concat]
    by_cases isLast : caller = last
    · -- nothing follows the last caller
      subst isLast
      have absent : caller ∉ callers := by
        intro member
        exact apart caller member caller (List.mem_singleton_self _) rfl
      constructor
      · intro _
        refine ⟨List.mem_concat_self, ?_, fun member => absurd member absent⟩
        intro remover follows
        exact absurd (follows.subset List.mem_cons_self) absent
      · intro _
        exact .inr appended
    · have foreign : (session.calls last).mark? last ≠ some item := by
        intro same
        have tags := (Call.addedBy_of_mark? same).symm.trans (Call.addedBy_of_mark? appended)
        exact isLast (Fin.ext (Option.some.inj tags).symm)
      have behind : caller ∈ callers ++ [last] ↔ caller ∈ callers := by simp [isLast]
      rw [behind, or_iff_left foreign]
      constructor
      · intro kept
        exact ⟨kept.1.1, kept.1.2, fun _ => kept.2⟩
      · intro kept
        exact ⟨⟨kept.1, kept.2.1⟩, kept.2.2 kept.1⟩

theorem mem_pending_iff (now : ℤ) {caller : Fin count}
    (appended : session.mark? caller = some item) :
    item ∈ session.pending now ↔
      caller ∈ lineage session.schedule ∧
        ∀ remover, [caller, remover].Sublist (lineage session.schedule) →
          ¬ (session.calls remover).Covers item := by
  rw [pending_eq_foldl]
  exact session.mem_foldl_change session.finished.nodup_lineage appended

/-- The marks survive the interleaving just if no write that counts was overwritten. -/
theorem marksSurvive_iff_noneOverwritten : session.MarksSurvive ↔ session.NoneOverwritten := by
  refine and_congr (forall₃_congr fun caller item appended => forall_congr' fun uncovered => ?_)
    (forall₄_congr fun caller other item appended => forall₂_congr fun _ _ => ?_)
  · simp only [session.mem_pending_iff _ appended, forall_const]
    exact and_iff_left fun remover _ => uncovered remover
  · simp only [session.mem_pending_iff _ appended, forall_const, not_and, not_forall, not_not,
      exists_prop]

/-- A mark that was stored before the calls. -/
theorem stored_mem_foldl (stored : item ∈ session.initial.items) (callers : List (Fin count)) :
    item ∈ callers.foldl (fun items caller => (session.calls caller).change caller items)
        session.initial.items ↔
      ∀ caller ∈ callers, ¬ (session.calls caller).Covers item := by
  induction callers using List.reverseRecOn with
  | nil => simpa using stored
  | append_singleton callers last induction =>
    have foreign : (session.calls last).mark? last ≠ some item := by
      intro same
      cases (session.unmarked item stored).symm.trans (Call.addedBy_of_mark? same)
    rw [List.foldl_concat, Call.mem_change, induction, or_iff_left foreign, List.forall_mem_append,
      List.forall_mem_singleton]

/-- Calls that do not overlap keep every mark that none covers, and drop those a later one does.
Of the marks stored before them they keep just those that none covers. -/
theorem marks_survive_serial {order : List (Fin count)}
    (serial : session.schedule = serialSchedule order) :
    session.MarksSurvive ∧ ∀ item ∈ session.initial.items, ∀ now,
      item ∈ session.pending now ↔ ∀ caller, ¬ (session.calls caller).Covers item := by
  have everyone : ∀ caller, caller ∈ order := by
    intro caller
    have reads := session.finished.read_mem caller
    rw [serial] at reads
    simpa [serialSchedule] using reads
  refine ⟨⟨?_, ?_⟩, ?_⟩
  · intro caller item appended uncovered now
    rw [session.mem_pending_iff now appended, serial, lineage_serialSchedule]
    exact ⟨everyone caller, fun remover _ => uncovered remover⟩
  · intro caller other item appended covered precedes now
    rw [session.mem_pending_iff now appended, serial, lineage_serialSchedule]
    rw [Precedes, serial] at precedes
    exact fun present => present.2 other (pair_sublist_of_serialSchedule precedes) covered
  · intro item stored now
    rw [session.pending_eq_foldl, serial, lineage_serialSchedule, session.stored_mem_foldl stored]
    exact ⟨fun kept caller => kept caller (everyone caller), fun kept caller _ => kept caller⟩

end Session

def overlappingAdds : Session 2 where
  calls := fun caller => .add (if caller = 0 then "first" else "second") none none 0
  initial := .absent
  unmarked := by simp [Stored.items]
  schedule := [.read 0, .read 1, .write 0, .write 1]
  finished := by unfold Finished; decide

theorem overlapping_adds_lose_mark : ¬ overlappingAdds.MarksSurvive := by
  intro survive
  have present := survive.1 0 ⟨some 0, some "first", none, none, some 0⟩ rfl (by decide) 0
  revert present
  decide

def storedMark : Mark := ⟨some 0, some "stored", none, none, none⟩

def serialAdds : Session 2 :=
  { overlappingAdds with
    initial := .single storedMark
    unmarked := by simp [Stored.items, storedMark]
    schedule := serialSchedule [1, 0]
    finished := by unfold Finished; decide }

theorem serial_adds_keep_marks :
    serialAdds.MarksSurvive ∧ ∀ now, storedMark ∈ serialAdds.pending now :=
  ⟨(serialAdds.marks_survive_serial rfl).1, fun now =>
    ((serialAdds.marks_survive_serial rfl).2 storedMark (by decide) now).mpr (by decide)⟩

end Lium.PendingPods
