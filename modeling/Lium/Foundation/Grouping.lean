import Mathlib.Data.List.Dedup
import Mathlib.Data.List.MinMax
import Lium.Foundation.PyDict

/-! # Grouping by key

`groups[key].append(item)` over a list of items, as a `defaultdict(list)` is filled, and the
choice of one item of a group.
-/

namespace Lium

namespace PyDict

variable {κ α : Type} [DecidableEq κ]

/-- `groups[key].append(item)` for each of the keys. -/
def appendUnder (item : α) (groups : PyDict κ (List α)) (keys : List κ) : PyDict κ (List α) :=
  keys.foldl (fun groups key => groups.set key (groups.getD key [] ++ [item])) groups

def groupBy (keysOf : α → List κ) (items : List α) : PyDict κ (List α) :=
  items.foldl (fun groups item => appendUnder item groups (keysOf item)) .empty

theorem appendUnder_getD (item : α) (groups : PyDict κ (List α)) {keys : List κ}
    (nodup : keys.Nodup) (key : κ) :
    (appendUnder item groups keys).getD key [] =
      groups.getD key [] ++ if key ∈ keys then [item] else [] := by
  rw [appendUnder]
  induction keys generalizing groups with
  | nil => simp
  | cons head rest induction =>
    rw [List.nodup_cons] at nodup
    rw [List.foldl_cons, induction _ nodup.2, getD_set]
    by_cases same : key = head
    · subst same
      simp [nodup.1]
    · simp [same]

theorem mem_keys_appendUnder (item : α) (groups : PyDict κ (List α)) (keys : List κ) (key : κ) :
    key ∈ (appendUnder item groups keys).keys ↔ key ∈ groups.keys ∨ key ∈ keys := by
  rw [appendUnder]
  induction keys generalizing groups with
  | nil => simp
  | cons head rest induction =>
    rw [List.foldl_cons, induction, mem_keys_set, List.mem_cons]
    tauto

theorem groupBy_getD {keysOf : α → List κ} {items : List α}
    (nodup : ∀ item ∈ items, (keysOf item).Nodup) (key : κ) :
    (groupBy keysOf items).getD key [] = items.filter (key ∈ keysOf ·) := by
  have folded : ∀ start : PyDict κ (List α),
      (items.foldl (fun groups item => appendUnder item groups (keysOf item)) start).getD key [] =
        start.getD key [] ++ items.filter (key ∈ keysOf ·) := by
    induction items with
    | nil => simp
    | cons item rest induction =>
      intro start
      rw [List.foldl_cons, induction fun other member => nodup other (List.mem_cons_of_mem _ member),
        appendUnder_getD _ _ (nodup item (List.mem_cons_self ..)), List.append_assoc,
        List.filter_cons]
      by_cases listed : key ∈ keysOf item <;> simp [listed]
  exact (folded .empty).trans (by rw [getD_empty, List.nil_append])

theorem mem_keys_groupBy (keysOf : α → List κ) (items : List α) (key : κ) :
    key ∈ (groupBy keysOf items).keys ↔ ∃ item ∈ items, key ∈ keysOf item := by
  have folded : ∀ start : PyDict κ (List α),
      key ∈ (items.foldl (fun groups item =>
          appendUnder item groups (keysOf item)) start).keys ↔
        key ∈ start.keys ∨ ∃ item ∈ items, key ∈ keysOf item := by
    induction items with
    | nil => simp
    | cons item rest induction =>
      intro start
      rw [List.foldl_cons, induction, mem_keys_appendUnder, List.exists_mem_cons_iff, or_assoc]
  exact (folded .empty).trans (or_iff_right List.not_mem_nil)

def entries (groups : PyDict κ (List α)) : List (κ × α) :=
  groups.items.flatMap fun group => group.2.map (group.1, ·)

theorem entries_setItem_perm (key : κ) (item : α) (items : List (κ × List α)) :
    ((setItem key ((lookupItem key items).getD [] ++ [item]) items).flatMap
        fun group => group.2.map (group.1, ·)).Perm
      ((key, item) :: items.flatMap fun group => group.2.map (group.1, ·)) := by
  induction items with
  | nil => simp [setItem, lookupItem]
  | cons group rest induction =>
    by_cases same : group.1 = key
    · subst same
      simp only [setItem, lookupItem, if_true, Option.getD_some, List.flatMap_cons,
        List.map_append, List.map_cons, List.map_nil, List.append_assoc]
      exact List.perm_middle
    · simp only [setItem, lookupItem, if_neg same, List.flatMap_cons]
      exact (induction.append_left _).trans List.perm_middle

end PyDict

/-! ## Choosing from a group -/

namespace Group

theorem two_le_length_dedup {α : Type} [DecidableEq α] {items : List α} {left right : α}
    (leftMember : left ∈ items) (rightMember : right ∈ items) (apart : left ≠ right) :
    2 ≤ items.dedup.length := by
  have pair : [left, right].Nodup := by simp [apart]
  have covered : [left, right] ⊆ items.dedup := by
    intro item member
    rw [List.mem_dedup]
    simp only [List.mem_cons, List.not_mem_nil, or_false] at member
    rcases member with rfl | rfl
    · exact leftMember
    · exact rightMember
  exact (List.subperm_of_subset pair covered).length_le

theorem argmin_congr {α β : Type} [LinearOrder β] {left right : α → β} {items : List α}
    (same : ∀ item ∈ items, left item = right item) : items.argmin left = items.argmin right := by
  induction items with
  | nil => rfl
  | cons item rest induction =>
    rw [List.forall_mem_cons] at same
    rw [List.argmin_cons, List.argmin_cons, induction same.2, same.1]
    cases least : rest.argmin right with
    | none => rfl
    | some found =>
      dsimp only
      rw [same.2 found (List.argmin_mem (Option.mem_def.mpr least))]

theorem argmin_id_congr {α : Type} [LinearOrder α] {left right : List α}
    (same : ∀ item, item ∈ left ↔ item ∈ right) : left.argmin id = right.argmin id := by
  cases least : left.argmin id with
  | none =>
    rw [List.argmin_eq_none] at least
    subst least
    have empty : right = [] := List.eq_nil_iff_forall_not_mem.mpr fun item member =>
      List.not_mem_nil ((same item).mpr member)
    rw [empty]
    rfl
  | some found =>
    have member := List.argmin_mem (Option.mem_def.mpr least)
    have nonempty : right.argmin id ≠ none :=
      mt List.argmin_eq_none.mp (List.ne_nil_of_mem ((same found).mp member))
    rcases Option.ne_none_iff_exists'.mp nonempty with ⟨other, otherLeast⟩
    have otherMember := List.argmin_mem (Option.mem_def.mpr otherLeast)
    rw [otherLeast, Option.some.injEq]
    apply le_antisymm
    · exact List.le_of_mem_argmin ((same other).mpr otherMember) (Option.mem_def.mpr least)
    · exact List.le_of_mem_argmin ((same found).mp member) (Option.mem_def.mpr otherLeast)

end Group

end Lium
