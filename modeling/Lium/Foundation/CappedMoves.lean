import Mathlib.Algebra.Order.BigOperators.Group.Finset
import Mathlib.Algebra.Order.Field.Basic
import Mathlib.Algebra.Order.Field.Rat

/-! # Moving items between capped bins

Every item sits in a bin and names one other bin it may move to. A visit moves the item
when its bin is over its cap and the other one has room for the whole item.
-/

namespace Lium.CappedMoves

structure Rules (ι κ : Type) where
  cap : κ → ℕ
  size : ι → ℕ
  target : ι → κ

structure Bins (ι κ : Type) where
  place : ι → κ
  fill : κ → ℕ

variable {ι κ : Type} {rules : Rules ι κ} {bins start : Bins ι κ}

def Admits (rules : Rules ι κ) (bins : Bins ι κ) (item : ι) : Prop :=
  0 < rules.cap (rules.target item) ∧
    rules.cap (bins.place item) < bins.fill (bins.place item) ∧
    bins.fill (rules.target item) + rules.size item ≤ rules.cap (rules.target item)

instance (rules : Rules ι κ) (bins : Bins ι κ) (item : ι) : Decidable (Admits rules bins item) :=
  inferInstanceAs (Decidable (_ ∧ _ ∧ _))

variable {item : ι}

theorem Admits.place_ne (admits : Admits rules bins item) :
    bins.place item ≠ rules.target item := by
  intro same
  obtain ⟨-, crowded, fits⟩ := admits
  rw [same] at crowded
  omega

variable [DecidableEq ι] [DecidableEq κ]

def move (rules : Rules ι κ) (bins : Bins ι κ) (item : ι) : Bins ι κ where
  place := Function.update bins.place item (rules.target item)
  fill := Function.update
    (Function.update bins.fill (bins.place item)
      (bins.fill (bins.place item) - rules.size item))
    (rules.target item) (bins.fill (rules.target item) + rules.size item)

def visit (rules : Rules ι κ) (bins : Bins ι κ) (item : ι) : Bins ι κ :=
  if Admits rules bins item then move rules bins item else bins

def pass (rules : Rules ι κ) (bins : Bins ι κ) (items : List ι) : Bins ι κ :=
  items.foldl (visit rules) bins

theorem visit_cases (rules : Rules ι κ) (bins : Bins ι κ) (item : ι) :
    (¬ Admits rules bins item ∧ visit rules bins item = bins) ∨
      (Admits rules bins item ∧ visit rules bins item = move rules bins item) := by
  by_cases admits : Admits rules bins item
  · exact .inr ⟨admits, if_pos admits⟩
  · exact .inl ⟨admits, if_neg admits⟩

theorem fill_move_target (rules : Rules ι κ) (bins : Bins ι κ) (item : ι) :
    (move rules bins item).fill (rules.target item) =
      bins.fill (rules.target item) + rules.size item :=
  Function.update_self ..

theorem fill_move_source (admits : Admits rules bins item) :
    (move rules bins item).fill (bins.place item) =
      bins.fill (bins.place item) - rules.size item := by
  dsimp only [move]
  rw [Function.update_of_ne admits.place_ne, Function.update_self]

theorem fill_move_other {bin : κ} (source : bin ≠ bins.place item)
    (target : bin ≠ rules.target item) : (move rules bins item).fill bin = bins.fill bin := by
  dsimp only [move]
  rw [Function.update_of_ne target, Function.update_of_ne source]

theorem fill_visit_le (rules : Rules ι κ) (bins : Bins ι κ) (item : ι) (bin : κ) :
    (visit rules bins item).fill bin ≤ max (bins.fill bin) (rules.cap bin) := by
  obtain ⟨-, same⟩ | ⟨admits, moved⟩ := visit_cases rules bins item
  · rw [same]
    exact le_max_left ..
  · rw [moved]
    by_cases target : bin = rules.target item
    · subst target
      rw [fill_move_target]
      exact le_max_of_le_right admits.2.2
    · by_cases source : bin = bins.place item
      · subst source
        rw [fill_move_source admits]
        exact le_max_of_le_left (Nat.sub_le ..)
      · rw [fill_move_other source target]
        exact le_max_left ..

theorem place_visit_of_ne (rules : Rules ι κ) (bins : Bins ι κ) {other : ι}
    (different : other ≠ item) :
    (visit rules bins item).place other = bins.place other := by
  obtain ⟨-, same⟩ | ⟨-, moved⟩ := visit_cases rules bins item
  · rw [same]
  · rw [moved]
    exact Function.update_of_ne different ..

/-! ## What the items gain -/

/-- The bins now, against those at the start: no bin is fuller than it was or than its cap,
and an item that moved left a bin over its cap for one that is not. -/
structure Improved (rules : Rules ι κ) (start bins : Bins ι κ) : Prop where
  fill : ∀ bin, bins.fill bin ≤ max (start.fill bin) (rules.cap bin)
  place : ∀ item, bins.place item = start.place item ∨
    (bins.place item = rules.target item ∧
      rules.cap (start.place item) < start.fill (start.place item) ∧
      bins.fill (rules.target item) ≤ rules.cap (rules.target item))

omit [DecidableEq ι] [DecidableEq κ] in
theorem Improved.refl (rules : Rules ι κ) (start : Bins ι κ) : Improved rules start start :=
  ⟨fun _ => le_max_left .., fun _ => .inl rfl⟩

theorem Improved.visit (improved : Improved rules start bins) (item : ι) :
    Improved rules start (visit rules bins item) where
  fill := by
    intro bin
    calc (CappedMoves.visit rules bins item).fill bin
        ≤ max (bins.fill bin) (rules.cap bin) := fill_visit_le ..
      _ ≤ max (start.fill bin) (rules.cap bin) :=
        max_le (improved.fill bin) (le_max_right ..)
  place := by
    intro other
    have settled : bins.fill (rules.target other) ≤ rules.cap (rules.target other) →
        (CappedMoves.visit rules bins item).fill (rules.target other) ≤
          rules.cap (rules.target other) :=
      fun roomy => (fill_visit_le ..).trans (max_le roomy le_rfl)
    by_cases same : other = item
    · subst same
      obtain ⟨-, unmoved⟩ | ⟨admits, moved⟩ := visit_cases rules bins other
      · rw [unmoved]
        exact improved.place other
      · obtain home | ⟨atTarget, -⟩ := improved.place other
        · have crowded := admits.2.1
          have bound := improved.fill (start.place other)
          rw [home] at crowded
          refine .inr ⟨?_, (lt_max_iff.mp (crowded.trans_le bound)).resolve_right (lt_irrefl _), ?_⟩
          · rw [moved]
            exact Function.update_self ..
          · rw [moved, fill_move_target]
            exact admits.2.2
        · exact absurd atTarget admits.place_ne
    · rw [place_visit_of_ne rules bins same]
      obtain home | ⟨atTarget, crowded, roomy⟩ := improved.place other
      · exact .inl home
      · exact .inr ⟨atTarget, crowded, settled roomy⟩

theorem improved_pass (rules : Rules ι κ) (start : Bins ι κ) (items : List ι) :
    Improved rules start (pass rules start items) :=
  List.foldlRecOn items (visit rules) (Improved.refl rules start)
    fun _ improved item _ => improved.visit item

/-! ## What the bins hold -/

def held (rules : Rules ι κ) (items : Finset ι) (bins : Bins ι κ) (bin : κ) : ℕ :=
  ∑ item ∈ items with bins.place item = bin, rules.size item

def Included (rules : Rules ι κ) (items : Finset ι) (bins : Bins ι κ) : Prop :=
  ∀ bin, held rules items bins bin ≤ bins.fill bin

variable {items : Finset ι}

omit [DecidableEq ι] in
theorem Included.size_le (included : Included rules items bins) (member : item ∈ items) :
    rules.size item ≤ bins.fill (bins.place item) := by
  have own : item ∈ items.filter fun other => bins.place other = bins.place item :=
    Finset.mem_filter.mpr ⟨member, rfl⟩
  exact (Finset.single_le_sum (fun _ _ => Nat.zero_le _) own).trans (included _)

theorem held_move (rules : Rules ι κ) (bins : Bins ι κ) (member : item ∈ items) (bin : κ) :
    held rules items (move rules bins item) bin +
        (if bins.place item = bin then rules.size item else 0) =
      held rules items bins bin + (if rules.target item = bin then rules.size item else 0) := by
  have others : ∑ other ∈ items.erase item,
      (if (move rules bins item).place other = bin then rules.size other else 0) =
      ∑ other ∈ items.erase item, if bins.place other = bin then rules.size other else 0 := by
    apply Finset.sum_congr rfl
    intro other rest
    have stays : (move rules bins item).place other = bins.place other :=
      Function.update_of_ne (Finset.ne_of_mem_erase rest) ..
    simp only [stays]
  have own : (move rules bins item).place item = rules.target item := Function.update_self ..
  simp only [held, Finset.sum_filter]
  rw [← Finset.add_sum_erase _ _ member, ← Finset.add_sum_erase _ _ member, others, own]
  omega

theorem Included.visit (included : Included rules items bins) (member : item ∈ items) :
    Included rules items (visit rules bins item) := by
  obtain ⟨-, same⟩ | ⟨admits, moved⟩ := visit_cases rules bins item
  · rw [same]
    exact included
  · rw [moved]
    intro bin
    have exchanged := held_move rules bins member bin
    have holds := included bin
    by_cases target : bin = rules.target item
    · subst target
      rw [fill_move_target]
      rw [if_neg admits.place_ne, if_pos rfl] at exchanged
      omega
    · rw [if_neg (Ne.symm target)] at exchanged
      by_cases source : bin = bins.place item
      · subst source
        rw [fill_move_source admits]
        rw [if_pos rfl] at exchanged
        omega
      · rw [fill_move_other source target]
        rw [if_neg (Ne.symm source)] at exchanged
        omega

theorem Included.pass (included : Included rules items bins) {order : List ι}
    (members : ∀ item ∈ order, item ∈ items) : Included rules items (pass rules bins order) :=
  List.foldlRecOn order (CappedMoves.visit rules) included
    fun _ sofar item listed => sofar.visit (members item listed)

/-! ## Dilution -/

def dilution (cap fill : ℕ) : ℚ := (min fill cap : ℕ) / fill

variable {cap fill : ℕ}

theorem dilution_of_le (positive : 0 < fill) (under : fill ≤ cap) :
    dilution cap fill = 1 := by
  rw [dilution, min_eq_left under]
  exact div_self (Nat.cast_ne_zero.mpr positive.ne')

theorem dilution_lt_one (crowded : cap < fill) : dilution cap fill < 1 := by
  rw [dilution, min_eq_right crowded.le, div_lt_one (Nat.cast_pos.mpr (by omega))]
  exact Nat.cast_lt.mpr crowded

theorem dilution_mono {before after : ℕ} (positive : 0 < after) (bound : after ≤ max before cap) :
    dilution cap before ≤ dilution cap after := by
  by_cases under : after ≤ cap
  · rw [dilution_of_le positive under]
    exact div_le_one_of_le₀ (Nat.cast_le.mpr (min_le_left ..)) (Nat.cast_nonneg _)
  · have crowded : cap < after := not_le.mp under
    have emptier : after ≤ before := (le_max_iff.mp bound).resolve_right under
    rw [dilution, dilution, min_eq_right crowded.le, min_eq_right (crowded.le.trans emptier)]
    exact div_le_div_of_nonneg_left (Nat.cast_nonneg _) (Nat.cast_pos.mpr positive)
      (Nat.cast_le.mpr emptier)

omit [DecidableEq ι] in
theorem Improved.dilution_le (improved : Improved rules start bins)
    (included : Included rules items bins) (member : item ∈ items) (sized : 0 < rules.size item) :
    dilution (rules.cap (start.place item)) (start.fill (start.place item)) ≤
        dilution (rules.cap (bins.place item)) (bins.fill (bins.place item)) ∧
      (bins.place item ≠ start.place item →
        dilution (rules.cap (start.place item)) (start.fill (start.place item)) <
          dilution (rules.cap (bins.place item)) (bins.fill (bins.place item))) := by
  have positive : 0 < bins.fill (bins.place item) := sized.trans_le (included.size_le member)
  obtain stays | ⟨atTarget, crowded, roomy⟩ := improved.place item
  · rw [stays] at positive ⊢
    exact ⟨dilution_mono positive (improved.fill _), fun moved => absurd rfl moved⟩
  · rw [atTarget] at positive ⊢
    rw [dilution_of_le positive roomy]
    exact ⟨(dilution_lt_one crowded).le, fun _ => dilution_lt_one crowded⟩

/-! ## One pass is enough -/

def Homed (rules : Rules ι κ) (home : ι → κ) (bins : Bins ι κ) : Prop :=
  ∀ item, bins.place item = home item ∨ bins.place item = rules.target item

variable {home : ι → κ}

theorem Homed.visit (homed : Homed rules home bins) (item : ι) :
    Homed rules home (visit rules bins item) := by
  intro other
  by_cases same : other = item
  · subst same
    obtain ⟨-, unmoved⟩ | ⟨-, moved⟩ := visit_cases rules bins other
    · rw [unmoved]
      exact homed other
    · rw [moved]
      exact .inr (Function.update_self ..)
  · rw [place_visit_of_ne rules bins same]
    exact homed other

theorem not_admits_visit_self (rules : Rules ι κ) (bins : Bins ι κ) (item : ι) :
    ¬ Admits rules (visit rules bins item) item := by
  obtain ⟨refused, same⟩ | ⟨-, moved⟩ := visit_cases rules bins item
  · rwa [same]
  · rw [moved]
    intro admits
    exact admits.place_ne (Function.update_self ..)

/-- A refused item stays refused: only a bin over its cap gives room, and no more of it
than the size of the item that leaves. -/
theorem not_admits_visit (homed : Homed rules home bins) {other : ι}
    (smaller : home other = rules.target item → rules.size other ≤ rules.size item)
    (refused : ¬ Admits rules bins item) : ¬ Admits rules (visit rules bins other) item := by
  by_cases same : item = other
  · subst same
    exact not_admits_visit_self rules bins item
  obtain ⟨-, unmoved⟩ | ⟨leaves, moved⟩ := visit_cases rules bins other
  · rwa [unmoved]
  · rintro ⟨capped, crowded, fits⟩
    have place := place_visit_of_ne rules bins same
    have bound := fill_visit_le rules bins other (bins.place item)
    rw [place] at crowded
    have crowdedBefore : rules.cap (bins.place item) < bins.fill (bins.place item) :=
      (lt_max_iff.mp (crowded.trans_le bound)).resolve_right (lt_irrefl _)
    apply refused
    refine ⟨capped, crowdedBefore, ?_⟩
    rw [moved] at fits
    by_cases enters : rules.target item = rules.target other
    · rw [enters, fill_move_target] at fits
      rw [enters]
      omega
    · by_cases source : rules.target item = bins.place other
      · have atHome : home other = rules.target item := by
          rw [source]
          exact ((homed other).resolve_right leaves.place_ne).symm
        have size := smaller atHome
        have crowds := leaves.2.1
        rw [source, fill_move_source leaves] at fits
        rw [source]
        omega
      · rwa [fill_move_other source enters] at fits

theorem not_admits_pass (order : List ι) (homed : Homed rules home bins)
    (smaller : ∀ item ∈ order, ∀ other ∈ order, home other = rules.target item →
      rules.size other ≤ rules.size item) (member : item ∈ order) :
    ¬ Admits rules (pass rules bins order) item := by
  induction order generalizing bins with
  | nil => cases member
  | cons first rest induction =>
    rcases List.mem_cons.mp member with same | member
    · subst same
      have kept : Homed rules home (pass rules (visit rules bins item) rest) ∧
          ¬ Admits rules (pass rules (visit rules bins item) rest) item :=
        List.foldlRecOn (motive := fun bins => Homed rules home bins ∧ ¬ Admits rules bins item)
          rest (visit rules) ⟨homed.visit item, not_admits_visit_self rules bins item⟩
          fun _ sofar other listed => ⟨sofar.1.visit other, not_admits_visit sofar.1
            (smaller item (List.mem_cons_self ..) other (List.mem_cons_of_mem _ listed)) sofar.2⟩
      exact kept.2
    · exact induction (homed.visit first)
        (fun item listed other otherListed => smaller item (List.mem_cons_of_mem _ listed) other
          (List.mem_cons_of_mem _ otherListed)) member

end Lium.CappedMoves
