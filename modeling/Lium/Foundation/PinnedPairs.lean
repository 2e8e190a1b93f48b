import Mathlib.Data.List.Nodup

/-! # Pairs pinned both ways

Two lookup tables hold one set of pairs, each from its own side. A batch that agrees with what is
pinned can be written to both, and nothing that was pinned moves.
-/

namespace Lium.PinnedPairs

variable {α β : Type} [DecidableEq α]

def writeAll : List (α × β) → (α → Option β) → α → Option β
  | [], table => table
  | pair :: rest, table => writeAll rest (Function.update table pair.1 (some pair.2))

variable {table : α → Option β} {key : α}

theorem writeAll_of_not_mem {pairs : List (α × β)} (absent : key ∉ pairs.map Prod.fst) :
    writeAll pairs table key = table key := by
  induction pairs generalizing table with
  | nil => rfl
  | cons pair rest induction =>
    rw [List.map_cons, List.mem_cons, not_or] at absent
    rw [writeAll, induction absent.2, Function.update_of_ne absent.1]

variable {value : β}

theorem writeAll_of_mem {pairs : List (α × β)} (distinct : (pairs.map Prod.fst).Nodup)
    (listed : (key, value) ∈ pairs) :
    writeAll pairs table key = some value := by
  induction pairs generalizing table with
  | nil => cases listed
  | cons pair rest induction =>
    rw [List.map_cons, List.nodup_cons] at distinct
    rcases List.mem_cons.mp listed with rfl | later
    · rw [writeAll, writeAll_of_not_mem distinct.1, Function.update_self]
    · exact induction distinct.2 later

theorem writeAll_eq_some_iff {pairs : List (α × β)} (distinct : (pairs.map Prod.fst).Nodup) :
    writeAll pairs table key = some value ↔
      (key, value) ∈ pairs ∨ (key ∉ pairs.map Prod.fst ∧ table key = some value) := by
  by_cases listed : key ∈ pairs.map Prod.fst
  · obtain ⟨⟨key', value'⟩, member, rfl⟩ := List.mem_map.mp listed
    rw [writeAll_of_mem distinct member]
    constructor
    · rintro ⟨⟩
      exact .inl member
    · rintro (written | ⟨absent, -⟩)
      · have same := List.inj_on_of_nodup_map distinct member written rfl
        cases same
        rfl
      · exact absurd listed absent
  · rw [writeAll_of_not_mem listed]
    constructor
    · exact fun held => .inr ⟨listed, held⟩
    · rintro (written | ⟨-, held⟩)
      · exact absurd (List.mem_map_of_mem written) listed
      · exact held

def Inverse (forward : α → Option β) (backward : β → Option α) : Prop :=
  ∀ key value, forward key = some value ↔ backward value = some key

/-- No pair of the batch has a side that is pinned to anything else. -/
structure Agrees (pairs : List (α × β)) (forward : α → Option β) (backward : β → Option α) :
    Prop where
  keys : (pairs.map Prod.fst).Nodup
  values : (pairs.map Prod.snd).Nodup
  forward : ∀ pair ∈ pairs, ∀ pinned, forward pair.1 = some pinned → pinned = pair.2
  backward : ∀ pair ∈ pairs, ∀ owner, backward pair.2 = some owner → owner = pair.1

section Batch

variable {pairs : List (α × β)} {forward : α → Option β} {backward : β → Option α}

theorem Agrees.keeps (agrees : Agrees pairs forward backward) (held : forward key = some value) :
    writeAll pairs forward key = some value := by
  by_cases listed : key ∈ pairs.map Prod.fst
  · obtain ⟨pair, member, rfl⟩ := List.mem_map.mp listed
    rw [agrees.forward pair member value held]
    exact writeAll_of_mem agrees.keys member
  · rw [writeAll_of_not_mem listed, held]

omit [DecidableEq α] in
theorem Agrees.swap (agrees : Agrees pairs forward backward) :
    Agrees (pairs.map Prod.swap) backward forward where
  keys := by
    rw [List.map_map]
    exact agrees.values
  values := by
    rw [List.map_map]
    exact agrees.keys
  forward pair listed owner held := by
    obtain ⟨original, member, rfl⟩ := List.mem_map.mp listed
    exact agrees.backward original member owner held
  backward pair listed pinned held := by
    obtain ⟨original, member, rfl⟩ := List.mem_map.mp listed
    exact agrees.forward original member pinned held

variable [DecidableEq β]

private theorem Agrees.backward_of_forward (agrees : Agrees pairs forward backward)
    (inverse : Inverse forward backward) (written : writeAll pairs forward key = some value) :
    writeAll (pairs.map Prod.swap) backward value = some key := by
  rcases (writeAll_eq_some_iff agrees.keys).mp written with member | ⟨-, held⟩
  · exact writeAll_of_mem agrees.swap.keys (List.mem_map_of_mem member)
  · exact agrees.swap.keeps ((inverse key value).mp held)

theorem Agrees.inverse (agrees : Agrees pairs forward backward)
    (inverse : Inverse forward backward) :
    Inverse (writeAll pairs forward) (writeAll (pairs.map Prod.swap) backward) := by
  intro key value
  refine ⟨agrees.backward_of_forward inverse, fun written => ?_⟩
  have back := agrees.swap.backward_of_forward (fun value key => (inverse key value).symm) written
  rwa [List.map_map, Prod.swap_swap_eq, List.map_id] at back

end Batch

end Lium.PinnedPairs
