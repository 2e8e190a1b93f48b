import Mathlib.Data.List.MinMax
import Mathlib.Data.List.Sort
import Mathlib.Data.Prod.Lex
import Mathlib.Data.Rat.Floor
import Mathlib.Data.String.Basic

/-! # The emitted weight vector

`subtensor_client.py`: the scores become u16 values, and every live hotkey that the vector
dropped gets one unit from the largest burn entry.
-/

namespace Lium

/-- `round(value)`: an exact tie goes to the even number. -/
def roundHalfEven (value : ℚ) : ℤ :=
  let below := ⌊value⌋
  let rest := value - below
  if rest < 1 / 2 then below
  else if 1 / 2 < rest then below + 1
  else if below % 2 = 0 then below else below + 1

theorem roundHalfEven_intCast (value : ℤ) : roundHalfEven value = value := by
  simp [roundHalfEven]

theorem roundHalfEven_mem (value : ℚ) :
    ⌊value⌋ ≤ roundHalfEven value ∧ roundHalfEven value ≤ ⌊value⌋ + 1 := by
  simp only [roundHalfEven]
  split_ifs <;> omega

theorem roundHalfEven_mono {left right : ℚ} (le : left ≤ right) :
    roundHalfEven left ≤ roundHalfEven right := by
  rcases (Int.floor_mono le).lt_or_eq with below | same
  · have lower := (roundHalfEven_mem left).2
    have upper := (roundHalfEven_mem right).1
    omega
  · simp only [roundHalfEven, same]
    split_ifs <;> first | omega | (exfalso; linarith)

namespace SubtensorClient

def u16Max : ℕ := 65535

/-- The value of a positive weight, lifted to 1 where it rounds to 0. -/
def emittedValue (maxWeight weight : ℚ) : ℕ :=
  let value := (roundHalfEven (weight / maxWeight * u16Max)).toNat
  if value = 0 then 1 else value

/-- The uids with their values, and the entries that were lifted. -/
def convertWeightsWithPositiveFloor (entries : List (ℕ × ℚ)) : List (ℕ × ℕ) × List (ℕ × ℚ) :=
  match (entries.map Prod.snd).max? with
  | none => ([], [])
  | some maxWeight =>
    if maxWeight ≤ 0 then ([], [])
    else
      let positive := entries.filter fun entry => 0 < entry.2
      (positive.map fun entry => (entry.1, emittedValue maxWeight entry.2),
        positive.filter fun entry => roundHalfEven (entry.2 / maxWeight * u16Max) = 0)

structure Miner where
  uid : ℕ
  hotkey : String

def selectFloorCandidates (uids : List ℕ) (miners : List Miner) (activeHotkeys : List String)
    (burnUids : List ℕ) : List (ℕ × String) :=
  ((miners.filter fun miner => miner.hotkey ∈ activeHotkeys && miner.uid ∉ uids &&
    miner.uid ∉ burnUids).map fun miner => (miner.uid, miner.hotkey)).insertionSort
      fun left right => toLex left ≤ toLex right

def largestBurnIndex (burnUids : List ℕ) (vector : List (ℕ × ℕ)) : Option ℕ :=
  ((List.range vector.length).filter fun index => (vector.getD index (0, 0)).1 ∈ burnUids).argmax
    fun index => (vector.getD index (0, 0)).2

def fundFloor (burnUids : List ℕ) : List (ℕ × String) → List (ℕ × ℕ) →
    List (ℕ × ℕ) × List String
  | [], vector => (vector, [])
  | (uid, hotkey) :: rest, vector =>
    match largestBurnIndex burnUids vector with
    | none => (vector, [])
    | some donor =>
      if (vector.getD donor (0, 0)).2 ≤ 1 then (vector, [])
      else
        let funded := fundFloor burnUids rest
          (vector.modify donor (fun entry => (entry.1, entry.2 - 1)) ++ [(uid, 1)])
        (funded.1, hotkey :: funded.2)

def applyEligibilityFloor (vector : List (ℕ × ℕ)) (miners : List Miner)
    (activeHotkeys : List String) (burnUids : List ℕ) : List (ℕ × ℕ) × List String :=
  fundFloor burnUids
    (selectFloorCandidates (vector.map Prod.fst) miners activeHotkeys burnUids) vector

/-! ## Values -/

theorem emittedValue_mono {maxWeight left right : ℚ} (positive : 0 < maxWeight)
    (le : left ≤ right) : emittedValue maxWeight left ≤ emittedValue maxWeight right := by
  have scaled : left / maxWeight * u16Max ≤ right / maxWeight * u16Max := by gcongr
  have rounded := Int.toNat_le_toNat (roundHalfEven_mono scaled)
  simp only [emittedValue]
  split_ifs <;> omega

theorem emittedValue_self {maxWeight : ℚ} (positive : 0 < maxWeight) :
    emittedValue maxWeight maxWeight = u16Max := by
  have whole : maxWeight / maxWeight * u16Max = ((u16Max : ℤ) : ℚ) := by
    rw [div_self positive.ne', one_mul]
    rfl
  rw [emittedValue, whole, roundHalfEven_intCast]
  rfl

theorem emittedValue_pos (maxWeight weight : ℚ) : 1 ≤ emittedValue maxWeight weight := by
  simp only [emittedValue]
  split_ifs <;> omega

theorem convertWeightsWithPositiveFloor_eq {entries : List (ℕ × ℚ)}
    (earns : ∃ entry ∈ entries, 0 < entry.2) :
    ∃ maxWeight, 0 < maxWeight ∧ (∃ entry ∈ entries, entry.2 = maxWeight) ∧
      (∀ entry ∈ entries, entry.2 ≤ maxWeight) ∧
      (convertWeightsWithPositiveFloor entries).1 =
        (entries.filter fun entry => 0 < entry.2).map
          fun entry => (entry.1, emittedValue maxWeight entry.2) := by
  obtain ⟨earner, listed, positive⟩ := earns
  cases largest : (entries.map Prod.snd).max? with
  | none =>
    rw [List.max?_eq_none_iff, List.map_eq_nil_iff] at largest
    subst largest
    cases listed
  | some maxWeight =>
    obtain ⟨attained, bound⟩ := List.max?_eq_some_iff.mp largest
    have le : ∀ entry ∈ entries, entry.2 ≤ maxWeight := fun entry member =>
      bound _ (List.mem_map_of_mem member)
    have above : 0 < maxWeight := positive.trans_le (le earner listed)
    refine ⟨maxWeight, above, List.mem_map.mp attained, le, ?_⟩
    simp only [convertWeightsWithPositiveFloor, largest, if_neg above.not_ge]

/-! ## The floor -/

structure Spared (burnUids : List ℕ) (before after : ℕ × ℕ) : Prop where
  uid : after.1 = before.1
  earned : before.1 ∉ burnUids → after = before
  kept : 1 ≤ before.2 → 1 ≤ after.2

def burnMass (burnUids : List ℕ) (vector : List (ℕ × ℕ)) : ℕ :=
  (vector.map fun entry => if entry.1 ∈ burnUids then entry.2 - 1 else 0).sum

variable {burnUids : List ℕ}

theorem Spared.refl (entry : ℕ × ℕ) : Spared burnUids entry entry :=
  ⟨rfl, fun _ => rfl, id⟩

theorem Spared.trans {first second third : ℕ × ℕ} (left : Spared burnUids first second)
    (right : Spared burnUids second third) : Spared burnUids first third where
  uid := right.uid.trans left.uid
  earned := by
    intro earns
    have same := left.earned earns
    rw [right.earned (same ▸ earns), same]
  kept := right.kept ∘ left.kept

theorem forall₂_spared_refl (vector : List (ℕ × ℕ)) :
    List.Forall₂ (Spared burnUids) vector vector :=
  List.forall₂_same.mpr fun entry _ => .refl entry

theorem forall₂_spared_trans {first second third : List (ℕ × ℕ)}
    (left : List.Forall₂ (Spared burnUids) first second)
    (right : List.Forall₂ (Spared burnUids) second third) :
    List.Forall₂ (Spared burnUids) first third := by
  induction left generalizing third with
  | nil => exact right
  | cons head tail induction =>
    cases right with
    | cons next rest => exact .cons (head.trans next) (induction rest)

theorem burnMass_eq_zero {vector : List (ℕ × ℕ)}
    (poor : ∀ entry ∈ vector, entry.1 ∈ burnUids → entry.2 ≤ 1) : burnMass burnUids vector = 0 := by
  apply List.sum_eq_zero
  rw [List.forall_mem_map]
  intro entry member
  split_ifs with burns
  · exact Nat.sub_eq_zero_of_le (poor entry member burns)
  · rfl

theorem largestBurnIndex_cases (burnUids : List ℕ) (vector : List (ℕ × ℕ)) :
    (burnMass burnUids vector = 0 ∧
      ∀ donor, largestBurnIndex burnUids vector = some donor →
        (vector.getD donor (0, 0)).2 ≤ 1) ∨
    ∃ before entry after, vector = before ++ entry :: after ∧ entry.1 ∈ burnUids ∧
      2 ≤ entry.2 ∧ largestBurnIndex burnUids vector = some before.length := by
  have indexed : ∀ entry ∈ vector, entry.1 ∈ burnUids →
      ∃ index ∈ (List.range vector.length).filter fun index =>
        (vector.getD index (0, 0)).1 ∈ burnUids, vector.getD index (0, 0) = entry := by
    intro entry member burns
    obtain ⟨index, within, rfl⟩ := List.getElem_of_mem member
    have read : vector.getD index (0, 0) = vector[index] := by
      simp [within]
    refine ⟨index, List.mem_filter.mpr ⟨List.mem_range.mpr within, ?_⟩, read⟩
    rw [read]
    exact decide_eq_true burns
  cases largest : largestBurnIndex burnUids vector with
  | none =>
    refine .inl ⟨burnMass_eq_zero ?_, fun donor gives => by cases gives⟩
    intro entry member burns
    obtain ⟨index, listed, -⟩ := indexed entry member burns
    rw [List.argmax_eq_none.mp largest] at listed
    cases listed
  | some donor =>
    by_cases poor : (vector.getD donor (0, 0)).2 ≤ 1
    · refine .inl ⟨burnMass_eq_zero ?_, fun other same => by cases same; exact poor⟩
      intro entry member burns
      obtain ⟨index, listed, rfl⟩ := indexed entry member burns
      exact (List.le_of_mem_argmax listed largest).trans poor
    · right
      obtain ⟨listed, burns⟩ := List.mem_filter.mp (List.argmax_mem largest)
      have within := List.mem_range.mp listed
      have read : vector.getD donor (0, 0) = vector[donor] := by
        simp [within]
      rw [read] at poor burns
      refine ⟨vector.take donor, vector[donor], vector.drop (donor + 1), ?_,
        of_decide_eq_true burns, by omega, ?_⟩
      · rw [List.cons_getElem_drop_succ, List.take_append_drop]
      · rw [List.length_take_of_le within.le]

theorem fundFloor_spec (candidates : List (ℕ × String)) (vector : List (ℕ × ℕ))
    (unburned : ∀ candidate ∈ candidates, candidate.1 ∉ burnUids) :
    let funded := candidates.take (burnMass burnUids vector)
    List.Forall₂ (Spared burnUids) (vector ++ funded.map fun candidate => (candidate.1, 1))
        (fundFloor burnUids candidates vector).1 ∧
      (fundFloor burnUids candidates vector).2 = funded.map Prod.snd ∧
      ((fundFloor burnUids candidates vector).1.map Prod.snd).sum =
        (vector.map Prod.snd).sum := by
  induction candidates generalizing vector with
  | nil =>
    simp only [List.take_nil, List.map_nil, List.append_nil, fundFloor, and_self, and_true]
    exact forall₂_spared_refl vector
  | cons candidate rest induction =>
    obtain ⟨uid, hotkey⟩ := candidate
    rw [List.forall_mem_cons] at unburned
    obtain ⟨spent, stops⟩ | ⟨before, entry, after, rfl, burns, rich, donor⟩ :=
      largestBurnIndex_cases burnUids vector
    · have stopped : fundFloor burnUids ((uid, hotkey) :: rest) vector = (vector, []) := by
        rw [fundFloor]
        split
        · rfl
        · next donor gives => rw [if_pos (stops donor gives)]
      rw [spent, stopped]
      simp only [List.take_zero, List.map_nil, List.append_nil, and_self, and_true]
      exact forall₂_spared_refl vector
    · -- the donor gives one unit and the candidate gets it
      let paid : List (ℕ × ℕ) := before ++ (entry.1, entry.2 - 1) :: after ++ [(uid, 1)]
      have step : fundFloor burnUids ((uid, hotkey) :: rest) (before ++ entry :: after) =
          ((fundFloor burnUids rest paid).1, hotkey :: (fundFloor burnUids rest paid).2) := by
        have read : (before ++ entry :: after).getD before.length (0, 0) = entry := by simp
        have given : (before ++ entry :: after).modify before.length
            (fun entry => (entry.1, entry.2 - 1)) = before ++ (entry.1, entry.2 - 1) :: after := by
          rw [List.modify_eq_take_cons_drop (by simp)]
          simp
        rw [fundFloor, donor]
        simp only [read, given]
        rw [if_neg (by omega)]
      have mass : burnMass burnUids (before ++ entry :: after) = burnMass burnUids paid + 1 := by
        simp only [burnMass, paid, List.map_append, List.map_cons, List.map_nil, List.sum_append,
          List.sum_cons, List.sum_nil, if_pos burns, if_neg unburned.1]
        omega
      obtain ⟨spared, floored, total⟩ := induction paid unburned.2
      rw [step, mass, List.take_succ_cons, floored, total]
      refine ⟨?_, rfl, ?_⟩
      · refine forall₂_spared_trans ?_ spared
        have donated : Spared burnUids entry (entry.1, entry.2 - 1) :=
          ⟨rfl, fun earns => absurd burns earns, fun _ => by dsimp only; omega⟩
        simp only [paid, List.append_assoc, List.cons_append, List.map_cons]
        exact List.rel_append (forall₂_spared_refl before)
          (.cons donated (forall₂_spared_refl _))
      · simp only [paid, List.map_append, List.map_cons, List.map_nil, List.sum_append,
          List.sum_cons, List.sum_nil]
        omega

theorem mem_selectFloorCandidates {uids : List ℕ} {miners : List Miner}
    {activeHotkeys : List String} {candidate : ℕ × String} :
    candidate ∈ selectFloorCandidates uids miners activeHotkeys burnUids ↔
      ∃ miner ∈ miners, (miner.uid, miner.hotkey) = candidate ∧ miner.hotkey ∈ activeHotkeys ∧
        miner.uid ∉ uids ∧ miner.uid ∉ burnUids := by
  simp only [selectFloorCandidates, List.mem_insertionSort, List.mem_map, List.mem_filter,
    Bool.and_eq_true, decide_eq_true_eq]
  constructor
  · rintro ⟨miner, ⟨listed, ⟨active, missing⟩, unburned⟩, same⟩
    exact ⟨miner, listed, same, active, missing, unburned⟩
  · rintro ⟨miner, listed, same, active, missing, unburned⟩
    exact ⟨miner, ⟨listed, ⟨active, missing⟩, unburned⟩, same⟩

theorem selectFloorCandidates_ascending {miners : List Miner}
    (distinct : (miners.map Miner.uid).Nodup) (uids : List ℕ) (activeHotkeys : List String) :
    (selectFloorCandidates uids miners activeHotkeys burnUids).Pairwise (·.1 < ·.1) := by
  let order := fun left right : ℕ × String => toLex left ≤ toLex right
  have total : Std.Total order := ⟨fun left right => le_total (toLex left) (toLex right)⟩
  have trans : IsTrans _ order := ⟨fun _ _ _ => le_trans⟩
  have unequal : ((selectFloorCandidates uids miners activeHotkeys burnUids).map Prod.fst).Nodup := by
    rw [selectFloorCandidates, ((List.perm_insertionSort _ _).map Prod.fst).nodup_iff, List.map_map]
    exact distinct.sublist (List.filter_sublist.map _)
  have sorted : (selectFloorCandidates uids miners activeHotkeys burnUids).Pairwise order :=
    List.pairwise_insertionSort order _
  rw [List.Nodup, List.pairwise_map] at unequal
  refine (sorted.and unequal).imp ?_
  rintro left right ⟨le, different⟩
  exact (Prod.Lex.le_iff.mp le).resolve_right fun same => different same.1

/-- Every earner keeps a value, in the order of the weights; then the live hotkeys the vector
lacks get a unit each, lowest uid first, as far as the burn entries can pay for them. -/
theorem weight_pipeline_keeps_earners (entries : List (ℕ × ℚ))
    (earns : ∃ entry ∈ entries, 0 < entry.2) (miners : List Miner)
    (distinct : (miners.map Miner.uid).Nodup) (activeHotkeys : List String)
    (burnUids : List ℕ) :
    (∃ value : ℚ → ℕ,
      (convertWeightsWithPositiveFloor entries).1 =
        (entries.filter fun entry => 0 < entry.2).map (fun entry => (entry.1, value entry.2)) ∧
      (∀ entry ∈ entries, 1 ≤ value entry.2 ∧ value entry.2 ≤ u16Max) ∧
      (∀ entry ∈ entries, (∀ other ∈ entries, other.2 ≤ entry.2) → value entry.2 = u16Max) ∧
      ∀ left ∈ entries, ∀ right ∈ entries, left.2 ≤ right.2 → value left.2 ≤ value right.2) ∧
    ∀ vector : List (ℕ × ℕ),
      let candidates := selectFloorCandidates (vector.map Prod.fst) miners activeHotkeys burnUids
      let count := min candidates.length (burnMass burnUids vector)
      let floored := applyEligibilityFloor vector miners activeHotkeys burnUids
      candidates.Pairwise (·.1 < ·.1) ∧
      (∀ candidate, candidate ∈ candidates ↔ ∃ miner ∈ miners,
        (miner.uid, miner.hotkey) = candidate ∧ miner.hotkey ∈ activeHotkeys ∧
          miner.uid ∉ vector.map Prod.fst ∧ miner.uid ∉ burnUids) ∧
      List.Forall₂ (Spared burnUids)
        (vector ++ (candidates.take count).map fun candidate => (candidate.1, 1)) floored.1 ∧
      floored.2 = (candidates.take count).map Prod.snd ∧
      (floored.1.map Prod.snd).sum = (vector.map Prod.snd).sum := by
  constructor
  · obtain ⟨maxWeight, positive, ⟨largest, listed, attained⟩, bound, converted⟩ :=
      convertWeightsWithPositiveFloor_eq earns
    refine ⟨emittedValue maxWeight, converted, ?_, ?_, ?_⟩
    · intro entry member
      refine ⟨emittedValue_pos .., ?_⟩
      rw [← emittedValue_self positive]
      exact emittedValue_mono positive (bound entry member)
    · intro entry member most
      have same : entry.2 = maxWeight :=
        le_antisymm (bound entry member) (attained ▸ most largest listed)
      rw [same, emittedValue_self positive]
    · intro left _ right _ le
      exact emittedValue_mono positive le
  · intro vector candidates count floored
    have unburned : ∀ candidate ∈ candidates, candidate.1 ∉ burnUids := by
      intro candidate member
      obtain ⟨miner, -, rfl, -, -, unburned⟩ := mem_selectFloorCandidates.mp member
      exact unburned
    have funded := fundFloor_spec candidates vector unburned
    have cut : candidates.take count = candidates.take (burnMass burnUids vector) := by
      rw [show count = min _ _ from min_comm .., ← List.take_eq_take_min]
    rw [cut]
    exact ⟨selectFloorCandidates_ascending distinct .., fun _ => mem_selectFloorCandidates, funded⟩

/-- Three earners, the last one lifted to 1, and two burn entries that pay for two hotkeys. -/
theorem weight_pipeline_keeps_earners_pair :
    let entries : List (ℕ × ℚ) := [(0, 1), (1, 1 / 2), (2, 1 / 1000000)]
    let miners : List Miner := [⟨0, "burner"⟩, ⟨3, "other"⟩, ⟨4, "live"⟩, ⟨5, "idle"⟩]
    (∃ value : ℚ → ℕ, [(0, 65535), (1, 32768), (2, 1)] =
        entries.map (fun entry => (entry.1, value entry.2)) ∧ value 1 = u16Max ∧
      value (1 / 1000000) ≤ value (1 / 2)) ∧
    ((applyEligibilityFloor [(0, 3), (1, 2), (2, 1)] miners ["other", "live"] [0, 1]).1.map
      Prod.snd).sum = 6 := by
  intro entries miners
  rcases weight_pipeline_keeps_earners entries ⟨(0, 1), .head _, one_pos⟩ miners (by decide)
    ["other", "live"] [0, 1] with ⟨⟨value, converted, _, largest, ordered⟩, floored⟩
  refine ⟨⟨value, ?_, ?_, ?_⟩, (floored [(0, 3), (1, 2), (2, 1)]).2.2.2.2⟩
  · have kept : entries.filter (fun entry => 0 < entry.2) = entries := by decide +kernel
    rw [kept] at converted
    rw [← converted]
    decide +kernel
  · exact largest (0, 1) (.head _) (by decide +kernel)
  · exact ordered (2, 1 / 1000000) (by simp [entries]) (1, 1 / 2) (by simp [entries]) (by norm_num)

end SubtensorClient

end Lium
