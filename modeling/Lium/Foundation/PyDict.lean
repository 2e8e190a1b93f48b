import Mathlib.Algebra.BigOperators.Group.List.Basic
import Mathlib.Data.List.Nodup
import Mathlib.Tactic.Abel

/-! # Insertion-ordered dictionaries

A `PyDict` holds each key once, in insertion order; overwriting keeps an entry's position. Sums over
the entries are stated against an arbitrary weight, so that a lookup and a total are both instances.
-/

namespace Lium

/-- Each step of the loop adds the weight of its item to a measure of the state. -/
theorem measure_foldl {σ α M : Type} [AddCommMonoid M] {step : σ → α → σ} (measure : σ → M)
    (weight : α → M) (adds : ∀ state item, measure (step state item) = measure state + weight item)
    (items : List α) (state : σ) :
    measure (items.foldl step state) = measure state + (items.map weight).sum := by
  induction items generalizing state with
  | nil => simp
  | cons item rest induction =>
    rw [List.foldl_cons, induction, adds, List.map_cons, List.sum_cons, add_assoc]

/-- Entries in insertion order, each key at most once. -/
structure PyDict (κ ν : Type) where
  items : List (κ × ν)
  keysNodup : (items.map Prod.fst).Nodup

namespace PyDict

variable {κ ν : Type}

def empty : PyDict κ ν := ⟨[], List.nodup_nil⟩

def keys (dict : PyDict κ ν) : List κ := dict.items.map Prod.fst

def values (dict : PyDict κ ν) : List ν := dict.items.map Prod.snd

def sumWith {M : Type} [AddCommMonoid M] (dict : PyDict κ ν)
    (weight : κ → ν → M) : M :=
  (dict.items.map fun item => weight item.1 item.2).sum

variable [DecidableEq κ]

def lookupItem (key : κ) : List (κ × ν) → Option ν
  | [] => none
  | item :: rest => if item.1 = key then some item.2 else lookupItem key rest

def setItem (key : κ) (value : ν) : List (κ × ν) → List (κ × ν)
  | [] => [(key, value)]
  | item :: rest =>
    if item.1 = key then (key, value) :: rest else item :: setItem key value rest

theorem mem_keys_setItem (key other : κ) (value : ν) (items : List (κ × ν)) :
    other ∈ (setItem key value items).map Prod.fst ↔
      other = key ∨ other ∈ items.map Prod.fst := by
  induction items with
  | nil => simp [setItem]
  | cons item rest induction =>
    by_cases same : item.1 = key
    · simp [setItem, same]
    · simp only [setItem, if_neg same, List.map_cons, List.mem_cons, induction]
      tauto

theorem nodup_keys_setItem (key : κ) (value : ν) (items : List (κ × ν))
    (nodup : (items.map Prod.fst).Nodup) :
    ((setItem key value items).map Prod.fst).Nodup := by
  induction items with
  | nil => simp [setItem]
  | cons item rest induction =>
    rw [List.map_cons, List.nodup_cons] at nodup
    by_cases same : item.1 = key
    · rw [same] at nodup
      simpa [setItem, same] using nodup
    · rw [setItem, if_neg same, List.map_cons, List.nodup_cons]
      refine ⟨fun member => ?_, induction nodup.2⟩
      rcases (mem_keys_setItem key item.1 value rest).mp member with equal | member
      · exact same equal
      · exact nodup.1 member

/-- `dict.get(key)`. -/
def get? (dict : PyDict κ ν) (key : κ) : Option ν := lookupItem key dict.items

/-- `dict.get(key, default)`. -/
def getD (dict : PyDict κ ν) (key : κ) (default : ν) : ν := (dict.get? key).getD default

/-- `key in dict`. -/
def contains (dict : PyDict κ ν) (key : κ) : Bool := (dict.get? key).isSome

/-- `dict[key] = value`. -/
def set (dict : PyDict κ ν) (key : κ) (value : ν) : PyDict κ ν where
  items := setItem key value dict.items
  keysNodup := nodup_keys_setItem key value dict.items dict.keysNodup

/-- `dict[key] = dict.get(key, 0) + amount`. -/
def add [Zero ν] [Add ν] (dict : PyDict κ ν) (key : κ) (amount : ν) : PyDict κ ν :=
  dict.set key (dict.getD key 0 + amount)

def ofList (pairs : List (κ × ν)) : PyDict κ ν :=
  pairs.foldl (fun dict pair => dict.set pair.1 pair.2) empty

@[simp] theorem get?_empty (key : κ) : (empty : PyDict κ ν).get? key = none := rfl

@[simp] theorem getD_empty (key : κ) (default : ν) :
    (empty : PyDict κ ν).getD key default = default := rfl

private theorem lookupItem_setItem_self (key : κ) (value : ν) (items : List (κ × ν)) :
    lookupItem key (setItem key value items) = some value := by
  induction items with
  | nil => simp [setItem, lookupItem]
  | cons item rest induction =>
    by_cases same : item.1 = key
    · simp [setItem, lookupItem, same]
    · simp [setItem, lookupItem, same, induction]

private theorem lookupItem_setItem_other {key other : κ} (different : other ≠ key)
    (value : ν) (items : List (κ × ν)) :
    lookupItem other (setItem key value items) = lookupItem other items := by
  induction items with
  | nil => simp [setItem, lookupItem, different.symm]
  | cons item rest induction =>
    by_cases same : item.1 = key
    · simp [setItem, lookupItem, same, different.symm]
    · simp [setItem, lookupItem, same, induction]

variable (dict : PyDict κ ν) (key : κ)

@[simp] theorem get?_set_self (value : ν) :
    (dict.set key value).get? key = some value :=
  lookupItem_setItem_self key value dict.items

theorem get?_set_other {key other : κ} (different : other ≠ key)
    (value : ν) : (dict.set key value).get? other = dict.get? other :=
  lookupItem_setItem_other different value dict.items

theorem get?_set (other : κ) (value : ν) :
    (dict.set key value).get? other =
      if other = key then some value else dict.get? other := by
  by_cases same : other = key
  · subst same
    simp
  · rw [get?_set_other dict same, if_neg same]

theorem getD_set (other : κ) (value default : ν) :
    (dict.set key value).getD other default =
      if other = key then value else dict.getD other default := by
  unfold getD
  rw [get?_set]
  split <;> rfl

theorem getD_add [AddMonoid ν] (other : κ) (amount : ν) :
    (dict.add key amount).getD other 0 =
      dict.getD other 0 + if other = key then amount else 0 := by
  rw [add, getD_set]
  by_cases same : other = key
  · rw [if_pos same, if_pos same, same]
  · rw [if_neg same, if_neg same, add_zero]

variable (items : List (κ × ν))

private theorem lookupItem_isSome_iff :
    (lookupItem key items).isSome ↔ key ∈ items.map Prod.fst := by
  induction items with
  | nil => simp [lookupItem]
  | cons item rest induction =>
    by_cases same : item.1 = key
    · simp [lookupItem, same]
    · simp only [lookupItem, if_neg same, induction, List.map_cons, List.mem_cons]
      exact ⟨Or.inr, fun member => member.resolve_left fun equal => same equal.symm⟩

theorem contains_iff :
    dict.contains key = true ↔ key ∈ dict.keys :=
  lookupItem_isSome_iff key dict.items

theorem get?_eq_none_iff :
    dict.get? key = none ↔ key ∉ dict.keys := by
  rw [← contains_iff, contains]
  cases dict.get? key <;> simp

variable {left right : PyDict κ ν}

theorem get?_eq_of_getD {key : κ} {default : ν} (presence : key ∈ left.keys ↔ key ∈ right.keys)
    (value : left.getD key default = right.getD key default) : left.get? key = right.get? key := by
  rw [getD, getD] at value
  rw [← contains_iff, ← contains_iff, contains, contains] at presence
  cases leftItem : left.get? key <;> cases rightItem : right.get? key <;>
    simp_all

theorem mem_keys_set (other : κ) (value : ν) :
    other ∈ (dict.set key value).keys ↔ other = key ∨ other ∈ dict.keys :=
  mem_keys_setItem key other value dict.items

private theorem lookupItem_eq_some_of_mem
    (nodup : (items.map Prod.fst).Nodup) {key : κ} {value : ν}
    (member : (key, value) ∈ items) : lookupItem key items = some value := by
  induction items with
  | nil => cases member
  | cons item rest induction =>
    rw [List.map_cons, List.nodup_cons] at nodup
    rcases List.mem_cons.mp member with equal | member
    · subst equal
      simp [lookupItem]
    · have different : item.1 ≠ key := fun equal =>
        nodup.1 (equal ▸ List.mem_map_of_mem (f := Prod.fst) member)
      simpa [lookupItem, different] using induction nodup.2 member

theorem get?_eq_some_of_mem {key : κ} {value : ν}
    (member : (key, value) ∈ dict.items) : dict.get? key = some value :=
  lookupItem_eq_some_of_mem dict.items dict.keysNodup member

private theorem mem_of_lookupItem {key : κ} {value : ν}
    (found : lookupItem key items = some value) : (key, value) ∈ items := by
  induction items with
  | nil => simp [lookupItem] at found
  | cons item rest induction =>
    by_cases same : item.1 = key
    · simp only [lookupItem, if_pos same, Option.some.injEq] at found
      exact List.mem_cons.mpr (.inl (Prod.ext same.symm found.symm))
    · rw [lookupItem, if_neg same] at found
      exact List.mem_cons_of_mem item (induction found)

theorem mem_of_get? {key : κ} {value : ν}
    (found : dict.get? key = some value) : (key, value) ∈ dict.items :=
  mem_of_lookupItem dict.items found

def setEach {ω : Type} (value : κ → ν → Option ω) (dict : PyDict κ ν)
    (start : PyDict κ ω) : PyDict κ ω :=
  dict.items.foldl (fun built item => (value item.1 item.2).elim built (built.set item.1)) start

variable {ω : Type} (value : κ → ν → Option ω)

private theorem get?_foldl_set_of_not_mem
    (items : List (κ × ν)) (start : PyDict κ ω) {key : κ}
    (absent : key ∉ items.map Prod.fst) :
    (items.foldl (fun built item => (value item.1 item.2).elim built (built.set item.1))
      start).get? key = start.get? key := by
  induction items generalizing start with
  | nil => rfl
  | cons item rest induction =>
    rw [List.map_cons, List.mem_cons, not_or] at absent
    rw [List.foldl_cons, induction _ absent.2]
    cases value item.1 item.2 with
    | none => rfl
    | some assigned => exact get?_set_other start absent.1 assigned

private theorem get?_foldl_set (items : List (κ × ν))
    (nodup : (items.map Prod.fst).Nodup) (start : PyDict κ ω) (key : κ) :
    (items.foldl (fun built item => (value item.1 item.2).elim built (built.set item.1))
      start).get? key =
      ((lookupItem key items).bind (value key)).or (start.get? key) := by
  induction items generalizing start with
  | nil => rfl
  | cons item rest induction =>
    rw [List.map_cons, List.nodup_cons] at nodup
    rw [List.foldl_cons, lookupItem]
    by_cases same : item.1 = key
    · subst same
      rw [get?_foldl_set_of_not_mem value rest _ nodup.1, if_pos rfl, Option.bind_some]
      cases value item.1 item.2 with
      | none => rfl
      | some assigned => simp
    · rw [induction nodup.2, if_neg same]
      congr 1
      cases value item.1 item.2 with
      | none => rfl
      | some assigned => exact get?_set_other start (Ne.symm same) assigned

theorem get?_setEach (dict : PyDict κ ν)
    (start : PyDict κ ω) (key : κ) :
    (dict.setEach value start).get? key =
      ((dict.get? key).bind (value key)).or (start.get? key) :=
  get?_foldl_set value dict.items dict.keysNodup start key

/-! ## Items in order -/

omit [DecidableEq κ] in
theorem ext_items (same : left.items = right.items) : left = right := by
  cases left
  cases right
  cases same
  rfl

private theorem setItem_of_not_mem {key : κ} (value : ν) (items : List (κ × ν))
    (fresh : key ∉ items.map Prod.fst) : setItem key value items = items ++ [(key, value)] := by
  induction items with
  | nil => rfl
  | cons item rest induction =>
    rw [List.map_cons, List.mem_cons, not_or] at fresh
    rw [setItem, if_neg (Ne.symm fresh.1), induction fresh.2, List.cons_append]

theorem items_set_of_not_mem {key : κ} (fresh : key ∉ dict.keys) (value : ν) :
    (dict.set key value).items = dict.items ++ [(key, value)] :=
  setItem_of_not_mem value dict.items fresh

private theorem keys_setItem (value : ν) (items : List (κ × ν)) :
    (setItem key value items).map Prod.fst =
      if key ∈ items.map Prod.fst then items.map Prod.fst else items.map Prod.fst ++ [key] := by
  induction items with
  | nil => rfl
  | cons item rest induction =>
    by_cases same : item.1 = key
    · simp [setItem, same]
    · simp only [setItem, if_neg same, List.map_cons, induction, List.mem_cons, Ne.symm same,
        false_or]
      split_ifs <;> rfl

theorem keys_set (value : ν) :
    (dict.set key value).keys = if key ∈ dict.keys then dict.keys else dict.keys ++ [key] :=
  keys_setItem key value dict.items

theorem keys_set_congr {right : PyDict κ ω} (same : left.keys = right.keys) (key : κ)
    (leftValue : ν) (rightValue : ω) :
    (left.set key leftValue).keys = (right.set key rightValue).keys := by
  rw [keys_set, keys_set, same]

theorem items_foldl_set {α : Type} (key : α → κ) (value : α → ν) (entries : List α)
    (start : PyDict κ ν) (nodup : (start.keys ++ entries.map key).Nodup) :
    (entries.foldl (fun dict entry => dict.set (key entry) (value entry)) start).items =
      start.items ++ entries.map fun entry => (key entry, value entry) := by
  induction entries generalizing start with
  | nil => simp
  | cons entry rest induction =>
    have fresh : key entry ∉ start.keys := by
      rw [List.map_cons, List.nodup_append] at nodup
      intro member
      exact nodup.2.2 _ member _ List.mem_cons_self rfl
    have items := items_set_of_not_mem start fresh (value entry)
    have keys : (start.set (key entry) (value entry)).keys = start.keys ++ [key entry] := by
      rw [keys_set, if_neg fresh]
    rw [List.foldl_cons, induction, items, List.append_assoc]
    · rfl
    · rw [keys, List.append_assoc]
      exact nodup

theorem items_ofList {pairs : List (κ × ν)} (nodup : (pairs.map Prod.fst).Nodup) :
    (ofList pairs).items = pairs := by
  rw [ofList, items_foldl_set Prod.fst Prod.snd pairs empty nodup]
  exact List.map_id pairs

theorem items_eq_map_keys (default : ν) :
    dict.items = dict.keys.map fun key => (key, dict.getD key default) := by
  rw [keys, List.map_map]
  conv_lhs => rw [← List.map_id dict.items]
  apply List.map_congr_left
  intro item member
  rw [Function.comp_apply, getD, get?_eq_some_of_mem dict member, Option.getD_some, id]

section Sums

variable {M : Type} [AddCommMonoid M]

def contribution (dict : PyDict κ ν) (weight : κ → ν → M) (key : κ) : M :=
  (dict.get? key).elim 0 (weight key)

variable (weight : κ → ν → M)

omit [DecidableEq κ] in
@[simp] theorem sumWith_empty :
    (empty : PyDict κ ν).sumWith weight = 0 := rfl

private theorem sum_setItem (key : κ) (value : ν)
    (items : List (κ × ν)) :
    ((setItem key value items).map fun item => weight item.1 item.2).sum +
        (lookupItem key items).elim 0 (weight key) =
      (items.map fun item => weight item.1 item.2).sum + weight key value := by
  induction items with
  | nil => simp [setItem, lookupItem]
  | cons item rest induction =>
    by_cases same : item.1 = key
    · subst same
      simp only [setItem, lookupItem, if_true, List.map_cons, List.sum_cons,
        Option.elim_some]
      abel
    · simp only [setItem, lookupItem, if_neg same, List.map_cons, List.sum_cons]
      rw [add_assoc, induction, add_assoc]

theorem sumWith_set (key : κ) (value : ν) :
    (dict.set key value).sumWith weight + dict.contribution weight key =
      dict.sumWith weight + weight key value :=
  sum_setItem weight key value dict.items

private theorem sum_single_of_not_mem (read : ν → M) (key : κ) (items : List (κ × ν))
    (fresh : key ∉ items.map Prod.fst) :
    (items.map fun item => if item.1 = key then read item.2 else 0).sum = 0 := by
  induction items with
  | nil => rfl
  | cons item rest induction =>
    simp only [List.map_cons, List.mem_cons, not_or] at fresh
    rw [List.map_cons, List.sum_cons, if_neg (Ne.symm fresh.1), induction fresh.2, add_zero]

private theorem sum_single (read : ν → M) (key : κ) (items : List (κ × ν))
    (nodup : (items.map Prod.fst).Nodup) :
    (items.map fun item => if item.1 = key then read item.2 else 0).sum =
      (lookupItem key items).elim 0 read := by
  induction items with
  | nil => rfl
  | cons item rest induction =>
    rw [List.map_cons, List.nodup_cons] at nodup
    by_cases same : item.1 = key
    · have absent := sum_single_of_not_mem read key rest (same ▸ nodup.1)
      simp [lookupItem, same, absent]
    · simpa [lookupItem, same] using induction nodup.2

theorem sumWith_single (read : ν → M) (key : κ) :
    dict.sumWith (fun other value => if other = key then read value else 0) =
      (dict.get? key).elim 0 read :=
  sum_single read key dict.items dict.keysNodup

end Sums

section Additive

variable {A M : Type} [AddCommMonoid A] [AddCommMonoid M]

theorem sumWith_add (dict : PyDict κ A) (weight : κ → A →+ M) (key : κ) (amount : A) :
    (dict.add key amount).sumWith (fun other value => weight other value) =
      dict.sumWith (fun other value => weight other value) + weight key amount := by
  have replaced : ∀ items : List (κ × A),
      ((setItem key ((lookupItem key items).getD 0 + amount) items).map
          fun item => weight item.1 item.2).sum =
        (items.map fun item => weight item.1 item.2).sum + weight key amount := by
    intro items
    induction items with
    | nil => simp [setItem, lookupItem]
    | cons item rest induction =>
      by_cases same : item.1 = key
      · subst same
        simp only [setItem, lookupItem, if_true, List.map_cons, List.sum_cons,
          Option.getD_some, map_add]
        abel
      · simp only [setItem, lookupItem, if_neg same, List.map_cons, List.sum_cons,
          induction, add_assoc]
  exact replaced dict.items

end Additive

end PyDict

end Lium
