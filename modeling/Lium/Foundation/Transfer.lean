import Lium.Foundation.PyDict
import Mathlib.Algebra.BigOperators.Group.Finset.Basic

/-! # Amounts moved between the entries of a dictionary

Loops that add to a dictionary one amount per entry of another one. Each entry changes by
its own amount and the total by the sum of the amounts, whatever the order of the entries.
-/

namespace Lium.PyDict

variable {κ ν : Type} [DecidableEq κ]

def filter (keep : κ → ν → Bool) (dict : PyDict κ ν) : PyDict κ ν where
  items := dict.items.filter fun item => keep item.1 item.2
  keysNodup := dict.keysNodup.sublist (List.filter_sublist.map Prod.fst)

variable {key : κ} {value : ν}

theorem mem_items_iff (dict : PyDict κ ν) :
    (key, value) ∈ dict.items ↔ dict.get? key = some value :=
  ⟨dict.get?_eq_some_of_mem, dict.mem_of_get?⟩

theorem mem_keys_iff (dict : PyDict κ ν) :
    key ∈ dict.keys ↔ ∃ value, dict.get? key = some value := by
  rw [← contains_iff, contains, Option.isSome_iff_exists]

theorem get?_filter_eq_some (keep : κ → ν → Bool) (dict : PyDict κ ν) :
    (dict.filter keep).get? key = some value ↔
      dict.get? key = some value ∧ keep key value = true := by
  rw [← mem_items_iff, ← mem_items_iff, filter, List.mem_filter]

theorem get?_filter (keep : κ → ν → Bool) (dict : PyDict κ ν) (key : κ) :
    (dict.filter keep).get? key = (dict.get? key).filter (keep key) := by
  apply Option.ext
  intro value
  rw [get?_filter_eq_some, Option.filter_eq_some_iff]

/-- `del dict[key]`, or `dict.pop(key, None)`. -/
def erase (dict : PyDict κ ν) (key : κ) : PyDict κ ν := dict.filter fun other _ => other ≠ key

theorem get?_erase (dict : PyDict κ ν) (key other : κ) :
    (dict.erase key).get? other = if other = key then none else dict.get? other := by
  rw [erase, get?_filter]
  split
  case isTrue same => cases dict.get? other <;> simp [same]
  case isFalse different => cases dict.get? other <;> simp [different]

theorem get?_ofList_keyed {key : ν → κ} {values : List ν} (nodup : (values.map key).Nodup)
    {index : κ} :
    (ofList (values.map fun value => (key value, value))).get? index = some value ↔
      value ∈ values ∧ key value = index := by
  have keysNodup : ((values.map fun value => (key value, value)).map Prod.fst).Nodup := by
    rwa [List.map_map]
  rw [← mem_items_iff, items_ofList keysNodup, List.mem_map]
  grind

theorem mem_keys_erase {dict : PyDict κ ν} {other : κ} :
    other ∈ (dict.erase key).keys ↔ other ≠ key ∧ other ∈ dict.keys := by
  rw [mem_keys_iff, mem_keys_iff, get?_erase]
  split_ifs with same <;> simp [same]

theorem keys_erase (dict : PyDict κ ν) (key : κ) :
    (dict.erase key).keys = dict.keys.erase key := by
  have nodup : dict.keys.Nodup := dict.keysNodup
  rw [nodup.erase_eq_filter, PyDict.keys, PyDict.keys, List.filter_map]
  apply congrArg (List.map Prod.fst)
  apply List.filter_congr
  intro item _
  by_cases same : item.1 = key <;> simp [same]

theorem countP_keys_erase {dict : PyDict κ ν} (member : key ∈ dict.keys) (counts : κ → Bool) :
    dict.keys.countP counts =
      (dict.erase key).keys.countP counts + if counts key then 1 else 0 := by
  rw [keys_erase, (List.perm_cons_erase member).countP_eq, List.countP_cons]

theorem length_items_erase {dict : PyDict κ ν} (member : key ∈ dict.keys) :
    (dict.erase key).items.length + 1 = dict.items.length := by
  have shorter := List.length_erase_add_one member
  rw [← keys_erase] at shorter
  simpa [PyDict.keys] using shorter

section Totals

variable {M : Type} [AddCommMonoid M]

theorem sum_values_eq (dict : PyDict κ M) :
    dict.values.sum = ∑ key ∈ dict.keys.toFinset, dict.getD key 0 := by
  have nodup : dict.keys.Nodup := dict.keysNodup
  rw [List.sum_toFinset _ nodup, values, dict.items_eq_map_keys 0, List.map_map]
  rfl

theorem sum_values_set (dict : PyDict κ M) (key : κ) (value : M) :
    (dict.set key value).values.sum + dict.getD key 0 = dict.values.sum + value := by
  have replaced := dict.sumWith_set (fun _ value => value) key value
  have contributed : dict.contribution (fun _ value => value) key = dict.getD key 0 := by
    rw [contribution, getD]
    cases dict.get? key <;> rfl
  rw [contributed] at replaced
  exact replaced

end Totals

/-! ## One amount per entry of another dictionary -/

section AddEach

variable {A : Type} [AddCommMonoid A]

/-- `for key, value in source.items(): dict[key] = dict.get(key, 0) + amount(value)`. -/
def addEach (amount : ν → A) (source : PyDict κ ν) (dict : PyDict κ A) : PyDict κ A :=
  source.items.foldl (fun built item => built.add item.1 (amount item.2)) dict

def amountAt (amount : ν → A) (source : PyDict κ ν) (key : κ) : A :=
  (source.get? key).elim 0 amount

variable (amount : ν → A)

theorem amountAt_of_not_mem {source : PyDict κ ν} (absent : key ∉ source.keys) :
    source.amountAt amount key = 0 := by
  rw [amountAt, (source.get?_eq_none_iff key).mpr absent, Option.elim_none]

theorem amountAt_of_get? {source : PyDict κ ν} (found : source.get? key = some value) :
    source.amountAt amount key = amount value := by
  rw [amountAt, found, Option.elim_some]

variable (source : PyDict κ ν)

theorem getD_addEach (dict : PyDict κ A) (key : κ) :
    (source.addEach amount dict).getD key 0 = dict.getD key 0 + source.amountAt amount key := by
  have added := measure_foldl (fun built : PyDict κ A => built.getD key 0) _
    (fun built (item : κ × ν) => built.getD_add item.1 key (amount item.2)) source.items dict
  rw [addEach, added, amountAt, ← sumWith_single]
  simp only [eq_comm]
  rfl

theorem mem_keys_addEach (dict : PyDict κ A) (key : κ) :
    key ∈ (source.addEach amount dict).keys ↔ key ∈ source.keys ∨ key ∈ dict.keys := by
  have folded : ∀ (items : List (κ × ν)) (start : PyDict κ A),
      key ∈ (items.foldl (fun built item => built.add item.1 (amount item.2)) start).keys ↔
        key ∈ items.map Prod.fst ∨ key ∈ start.keys := by
    intro items
    induction items with
    | nil => simp
    | cons item rest induction =>
      intro start
      rw [List.foldl_cons, induction, add, mem_keys_set, List.map_cons, List.mem_cons]
      tauto
  exact folded source.items dict

theorem sum_values_addEach (dict : PyDict κ A) :
    (source.addEach amount dict).values.sum =
      dict.values.sum + (source.values.map amount).sum := by
  have added := measure_foldl (fun built : PyDict κ A => built.values.sum) _
    (fun built (item : κ × ν) => built.sumWith_add (fun _ => AddMonoidHom.id A) item.1
      (amount item.2)) source.items dict
  have mapped : source.values.map amount = source.items.map fun item => amount item.2 :=
    List.map_map
  rw [addEach, added, mapped]
  rfl

theorem sum_amountAt :
    ∑ key ∈ source.keys.toFinset, source.amountAt amount key =
      (source.values.map amount).sum := by
  have nodup : source.keys.Nodup := source.keysNodup
  rw [List.sum_toFinset _ nodup, keys, values, List.map_map, List.map_map]
  congr 1
  apply List.map_congr_left
  intro item member
  exact amountAt_of_get? amount (source.get?_eq_some_of_mem member)

end AddEach

end Lium.PyDict
