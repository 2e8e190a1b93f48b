import Lium.Foundation.ProRata
import Lium.Foundation.Transfer
import Mathlib.Algebra.BigOperators.Group.Finset.Piecewise
import Mathlib.Tactic.Positivity

/-! # Final weights of a cycle

The burn slots get the burn share and every other listed miner its incentive. Two transfers follow:
what an excluded hotkey still holds goes to burn, and the referral pool comes out of burn.
-/

namespace Lium

/-- `bittensor.NeuronInfo`, as far as the weights read it. -/
structure Neuron where
  uid : ℕ
  hotkey : String
  coldkey : String

/-- The burn and referral settings. An empty slot list would divide by zero. -/
structure WeightSettings where
  newBurners : List ℕ
  newBurnersNonempty : newBurners ≠ []
  burnerColdkeys : PyDict ℕ String
  scoringExcludedHotkeys : List String
  referralEmissionShare : ℚ

namespace BurnService

variable (settings : WeightSettings)

def burnerColdkeyMatches (miner : Neuron) : Bool :=
  match settings.burnerColdkeys.get? miner.uid with
  | none => true
  | some expectedColdkey => miner.coldkey == expectedColdkey

def assignBurnScore (burnScorePerSlot : ℚ) (burnScores : PyDict String ℚ) (miner : Neuron) :
    PyDict String ℚ :=
  let slots := settings.newBurners.count miner.uid
  if slots = 0 then burnScores
  else if !burnerColdkeyMatches settings miner then burnScores
  else burnScores.set miner.hotkey (burnScorePerSlot * slots)

/-- `_calculate_new_burn_logic`. -/
def calculateBurnScores (miners : List Neuron) (burnShare : ℚ) : PyDict String ℚ :=
  miners.foldl (assignBurnScore settings (burnShare / settings.newBurners.length)) .empty

variable {settings}

structure BurnScored (miners : List Neuron) (burnScores : PyDict String ℚ) : Prop where
  listed : ∀ hotkey ∈ burnScores.keys, hotkey ∈ miners.map Neuron.hotkey
  nonneg : ∀ {hotkey score}, burnScores.get? hotkey = some score → 0 ≤ score

theorem assignBurnScore_burnScored {miners : List Neuron} {burnScores : PyDict String ℚ}
    (scored : BurnScored miners burnScores) {burnScorePerSlot : ℚ}
    (nonneg : 0 ≤ burnScorePerSlot) {miner : Neuron} (member : miner ∈ miners) :
    BurnScored miners (assignBurnScore settings burnScorePerSlot burnScores miner) := by
  simp only [assignBurnScore]
  split
  · exact scored
  · split
    · exact scored
    · constructor
      · intro hotkey assigned
        rcases (burnScores.mem_keys_set _ _ _).mp assigned with equal | kept
        · rw [equal]
          exact List.mem_map_of_mem member
        · exact scored.listed hotkey kept
      · intro hotkey score found
        rw [PyDict.get?_set] at found
        split at found
        · cases found
          positivity
        · exact scored.nonneg found

theorem calculateBurnScores_burnScored (settings : WeightSettings) (miners : List Neuron)
    {burnShare : ℚ} (nonneg : 0 ≤ burnShare) :
    BurnScored miners (calculateBurnScores settings miners burnShare) := by
  have perSlot : 0 ≤ burnShare / settings.newBurners.length := by positivity
  have folded : ∀ (rest : List Neuron) (start : PyDict String ℚ), rest ⊆ miners →
      BurnScored miners start →
      BurnScored miners
        (rest.foldl (assignBurnScore settings (burnShare / settings.newBurners.length)) start) := by
    intro rest
    induction rest with
    | nil => exact fun _ _ scored => scored
    | cons miner rest induction =>
      intro start subset scored
      rw [List.foldl_cons]
      rcases List.cons_subset.mp subset with ⟨member, subset⟩
      exact induction _ subset (assignBurnScore_burnScored scored perSlot member)
  apply folded miners .empty (List.Subset.refl miners)
  exact ⟨fun _ member => absurd member List.not_mem_nil, fun found => nomatch found⟩

end BurnService

namespace FinalWeights

variable (settings : WeightSettings)

/-- The burn scores, completed with the incentive of every other listed miner. -/
def completeScores (minerIncentives : PyDict String ℚ) (miners : List Neuron)
    (burnScores : PyDict String ℚ) : PyDict String ℚ :=
  miners.foldl
    (fun cycleScores miner =>
      if cycleScores.contains miner.hotkey then cycleScores
      else cycleScores.set miner.hotkey (minerIncentives.getD miner.hotkey 0))
    burnScores

/-- One round of the zeroing loop of `_burn_excluded_hotkey_scores`: `freed` and the scores. -/
def zeroExcluded (burnScores : PyDict String ℚ) (state : ℚ × PyDict String ℚ)
    (hotkey : String) : ℚ × PyDict String ℚ :=
  if burnScores.contains hotkey || !state.2.contains hotkey then state
  else (state.1 + max (state.2.getD hotkey 0) 0, state.2.set hotkey 0)

/-- `_burn_excluded_hotkey_scores`. Every burner has an entry, so `+=` never misses one. -/
def burnExcludedHotkeyScores (cycleScores burnScores : PyDict String ℚ) : PyDict String ℚ :=
  if settings.scoringExcludedHotkeys.isEmpty then cycleScores
  else
    let zeroed := settings.scoringExcludedHotkeys.foldl (zeroExcluded burnScores) (0, cycleScores)
    let freed := zeroed.1
    if freed ≤ 0 then zeroed.2
    else
      let burnTotal := burnScores.values.sum
      if burnTotal ≤ 0 then zeroed.2
      else burnScores.addEach (fun score => freed * score / burnTotal) zeroed.2

def eligibleReferrers (burnScores : PyDict String ℚ) (miners : List Neuron)
    (ema : PyDict String ℚ) : PyDict String ℚ :=
  ema.filter fun hotkey value =>
    decide (hotkey ∈ miners.map Neuron.hotkey) && !burnScores.contains hotkey &&
      !decide (hotkey ∈ settings.scoringExcludedHotkeys) && decide (0 < value)

def clampedShare : ℚ := min (max settings.referralEmissionShare 0) 1

/-- `_apply_referral_pool`. The feed client answers an empty `ema` when it has none. -/
def applyReferralPool (ema : PyDict String ℚ) (cycleScores burnScores : PyDict String ℚ)
    (miners : List Neuron) : PyDict String ℚ :=
  let share := clampedShare settings
  if ¬0 < share then cycleScores
  else if ema.items.isEmpty then cycleScores
  else
    let eligible := eligibleReferrers settings burnScores miners ema
    let totalEma := eligible.values.sum
    if totalEma ≤ 0 then cycleScores
    else
      let burnTotal := burnScores.values.sum
      if burnTotal ≤ 0 then cycleScores
      else
        let referralPool := min (share * cycleScores.values.sum) burnTotal
        if referralPool ≤ 0 then cycleScores
        else
          eligible.addEach (fun value => referralPool * (value / totalEma))
            (burnScores.addEach (fun score => -(referralPool * (score / burnTotal))) cycleScores)

variable (ema minerIncentives : PyDict String ℚ) (burnShare : ℚ) (miners : List Neuron)

def scoresBeforeReferral : PyDict String ℚ :=
  let burnScores := BurnService.calculateBurnScores settings miners burnShare
  burnExcludedHotkeyScores settings (completeScores minerIncentives miners burnScores) burnScores

def calculateFinalWeights : PyDict String ℚ :=
  applyReferralPool settings ema (scoresBeforeReferral settings minerIncentives burnShare miners)
    (BurnService.calculateBurnScores settings miners burnShare) miners

/-! ## Completing the scores -/

variable {settings ema minerIncentives burnShare miners} {burnScores : PyDict String ℚ}

theorem completeScores_get? (hotkey : String) :
    (completeScores minerIncentives miners burnScores).get? hotkey =
      (burnScores.get? hotkey).or
        (if hotkey ∈ miners.map Neuron.hotkey then some (minerIncentives.getD hotkey 0)
        else none) := by
  induction miners generalizing burnScores with
  | nil => simp [completeScores]
  | cons miner rest induction =>
    rw [completeScores, List.foldl_cons, ← completeScores, induction, List.map_cons]
    by_cases same : hotkey = miner.hotkey
    · subst same
      cases held : burnScores.get? miner.hotkey with
      | some score => simp [PyDict.contains, held]
      | none => simp [PyDict.contains, held]
    · have untouched : (if burnScores.contains miner.hotkey then burnScores
          else burnScores.set miner.hotkey (minerIncentives.getD miner.hotkey 0)).get? hotkey =
          burnScores.get? hotkey := by
        split
        · rfl
        · exact burnScores.get?_set_other same _
      simp only [untouched, List.mem_cons, same, false_or]

theorem completeScores_of_burner {hotkey : String} {score : ℚ}
    (burner : burnScores.get? hotkey = some score) :
    (completeScores minerIncentives miners burnScores).get? hotkey = some score := by
  rw [completeScores_get?, burner, Option.some_or]

theorem completeScores_of_miner {hotkey : String} (miner : hotkey ∉ burnScores.keys)
    (listed : hotkey ∈ miners.map Neuron.hotkey) :
    (completeScores minerIncentives miners burnScores).get? hotkey =
      some (minerIncentives.getD hotkey 0) := by
  rw [completeScores_get?, (burnScores.get?_eq_none_iff hotkey).mpr miner, Option.none_or,
    if_pos listed]

theorem mem_keys_completeScores (scored : BurnService.BurnScored miners burnScores)
    (hotkey : String) :
    hotkey ∈ (completeScores minerIncentives miners burnScores).keys ↔
      hotkey ∈ miners.map Neuron.hotkey := by
  rw [PyDict.mem_keys_iff, completeScores_get?]
  by_cases burner : hotkey ∈ burnScores.keys
  · rcases burnScores.mem_keys_iff.mp burner with ⟨score, held⟩
    simp [held, scored.listed hotkey burner]
  · rw [(burnScores.get?_eq_none_iff hotkey).mpr burner, Option.none_or]
    split <;> simp [*]

def listedMiners (burnScores : PyDict String ℚ) (miners : List Neuron) : Finset String :=
  (miners.map Neuron.hotkey).toFinset.filter fun hotkey => hotkey ∉ burnScores.keys

theorem sum_completeScores (scored : BurnService.BurnScored miners burnScores) :
    (completeScores minerIncentives miners burnScores).values.sum =
      burnScores.values.sum +
        ∑ hotkey ∈ listedMiners burnScores miners, minerIncentives.getD hotkey 0 := by
  have keys : (completeScores minerIncentives miners burnScores).keys.toFinset =
      (miners.map Neuron.hotkey).toFinset := by
    ext hotkey
    rw [List.mem_toFinset, List.mem_toFinset, mem_keys_completeScores scored]
  have burners : burnScores.keys.toFinset =
      (miners.map Neuron.hotkey).toFinset.filter fun hotkey => hotkey ∈ burnScores.keys := by
    ext hotkey
    rw [Finset.mem_filter, List.mem_toFinset, List.mem_toFinset]
    exact ⟨fun burner => ⟨scored.listed hotkey burner, burner⟩, And.right⟩
  rw [PyDict.sum_values_eq, PyDict.sum_values_eq burnScores, keys, burners, listedMiners,
    ← Finset.sum_filter_add_sum_filter_not _ fun hotkey => hotkey ∈ burnScores.keys]
  congr 1
  · apply Finset.sum_congr rfl
    intro hotkey member
    rcases burnScores.mem_keys_iff.mp (Finset.mem_filter.mp member).2 with ⟨score, held⟩
    rw [PyDict.getD, PyDict.getD, completeScores_of_burner held, held]
  · apply Finset.sum_congr rfl
    intro hotkey member
    rcases Finset.mem_filter.mp member with ⟨listed, miner⟩
    rw [PyDict.getD, completeScores_of_miner miner (List.mem_toFinset.mp listed),
      Option.getD_some]

/-! ## Burning what an excluded hotkey holds -/

def Nonneg (scores : PyDict String ℚ) : Prop := ∀ hotkey, 0 ≤ scores.getD hotkey 0

theorem zeroExcluded_get? (burnScores : PyDict String ℚ) (state : ℚ × PyDict String ℚ)
    (excluded hotkey : String) :
    (zeroExcluded burnScores state excluded).2.get? hotkey =
      if hotkey = excluded ∧ hotkey ∉ burnScores.keys then (state.2.get? hotkey).map fun _ => 0
      else state.2.get? hotkey := by
  rw [zeroExcluded]
  by_cases same : hotkey = excluded
  · subst same
    cases burner : burnScores.contains hotkey with
    | true =>
      have member := (burnScores.contains_iff hotkey).mp burner
      simp [member]
    | false =>
      have absent : hotkey ∉ burnScores.keys := by
        rw [← PyDict.contains_iff, burner]
        exact Bool.false_ne_true
      cases held : state.2.get? hotkey with
      | none => simp [PyDict.contains, held]
      | some score => simp [PyDict.contains, held, absent]
  · have kept : ¬(hotkey = excluded ∧ hotkey ∉ burnScores.keys) := fun both => same both.1
    rw [if_neg kept]
    split
    · rfl
    · exact state.2.get?_set_other same 0

theorem foldl_zeroExcluded_get? (burnScores : PyDict String ℚ) (excluded : List String)
    (state : ℚ × PyDict String ℚ) (hotkey : String) :
    (excluded.foldl (zeroExcluded burnScores) state).2.get? hotkey =
      if hotkey ∈ excluded ∧ hotkey ∉ burnScores.keys then (state.2.get? hotkey).map fun _ => 0
      else state.2.get? hotkey := by
  induction excluded generalizing state with
  | nil => simp
  | cons first rest induction =>
    rw [List.foldl_cons, induction, zeroExcluded_get?]
    by_cases burner : hotkey ∈ burnScores.keys
    · simp [burner]
    · by_cases same : hotkey = first
      · subst same
        cases state.2.get? hotkey <;> simp [burner]
      · simp [same]

theorem zeroExcluded_freed (burnScores : PyDict String ℚ) {state : ℚ × PyDict String ℚ}
    (nonneg : Nonneg state.2) (excluded : String) :
    state.1 ≤ (zeroExcluded burnScores state excluded).1 ∧
      Nonneg (zeroExcluded burnScores state excluded).2 ∧
      (zeroExcluded burnScores state excluded).1 +
          (zeroExcluded burnScores state excluded).2.values.sum =
        state.1 + state.2.values.sum := by
  rw [zeroExcluded]
  split
  · exact ⟨le_refl _, nonneg, rfl⟩
  · refine ⟨?_, ?_, ?_⟩
    · exact le_add_of_nonneg_right (le_max_right _ _)
    · intro hotkey
      rw [PyDict.getD_set]
      split
      · exact le_refl 0
      · exact nonneg hotkey
    · have replaced := state.2.sum_values_set excluded 0
      rw [max_eq_left (nonneg excluded)]
      linarith

theorem foldl_zeroExcluded_freed (burnScores : PyDict String ℚ) (excluded : List String)
    (state : ℚ × PyDict String ℚ) (nonneg : Nonneg state.2) :
    state.1 ≤ (excluded.foldl (zeroExcluded burnScores) state).1 ∧
      (excluded.foldl (zeroExcluded burnScores) state).1 +
          (excluded.foldl (zeroExcluded burnScores) state).2.values.sum =
        state.1 + state.2.values.sum := by
  induction excluded generalizing state with
  | nil => exact ⟨le_refl _, rfl⟩
  | cons first rest induction =>
    rcases zeroExcluded_freed burnScores nonneg first with ⟨grows, kept, conserved⟩
    rcases induction (zeroExcluded burnScores state first) kept with ⟨growsOn, conservedOn⟩
    exact ⟨le_trans grows growsOn, conservedOn.trans conserved⟩

def zeroedScores (settings : WeightSettings) (cycleScores burnScores : PyDict String ℚ) :
    ℚ × PyDict String ℚ :=
  settings.scoringExcludedHotkeys.foldl (zeroExcluded burnScores) (0, cycleScores)

theorem burnExcludedHotkeyScores_eq (cycleScores burnScores : PyDict String ℚ) :
    burnExcludedHotkeyScores settings cycleScores burnScores =
      if (zeroedScores settings cycleScores burnScores).1 ≤ 0 ∨ burnScores.values.sum ≤ 0 then
        (zeroedScores settings cycleScores burnScores).2
      else
        burnScores.addEach
          (proRata (zeroedScores settings cycleScores burnScores).1 burnScores.values.sum)
          (zeroedScores settings cycleScores burnScores).2 := by
  rw [burnExcludedHotkeyScores]
  split
  case isTrue none =>
    rw [zeroedScores, List.isEmpty_iff.mp none, List.foldl_nil, if_pos (.inl (le_refl 0))]
  case isFalse some =>
    change (if (zeroedScores settings cycleScores burnScores).1 ≤ 0 then _ else
      if burnScores.values.sum ≤ 0 then _ else _) = _
    by_cases freed : (zeroedScores settings cycleScores burnScores).1 ≤ 0
    · rw [if_pos freed, if_pos (.inl freed)]
      rfl
    · by_cases total : burnScores.values.sum ≤ 0
      · rw [if_neg freed, if_pos total, if_pos (.inr total)]
        rfl
      · rw [if_neg freed, if_neg total, if_neg (not_or.mpr ⟨freed, total⟩)]
        rfl

theorem zeroedScores_getD (cycleScores burnScores : PyDict String ℚ) (hotkey : String) :
    (zeroedScores settings cycleScores burnScores).2.getD hotkey 0 =
      if hotkey ∈ settings.scoringExcludedHotkeys ∧ hotkey ∉ burnScores.keys then 0
      else cycleScores.getD hotkey 0 := by
  rw [PyDict.getD, zeroedScores, foldl_zeroExcluded_get?]
  split
  · cases cycleScores.get? hotkey <;> rfl
  · rfl

theorem mem_keys_zeroedScores (cycleScores burnScores : PyDict String ℚ) (hotkey : String) :
    hotkey ∈ (zeroedScores settings cycleScores burnScores).2.keys ↔
      hotkey ∈ cycleScores.keys := by
  rw [← PyDict.contains_iff, ← PyDict.contains_iff, PyDict.contains, PyDict.contains,
    zeroedScores, foldl_zeroExcluded_get?]
  split
  · rw [Option.isSome_map]
  · rfl

theorem burnTotal_nonneg (scored : BurnService.BurnScored miners burnScores) :
    0 ≤ burnScores.values.sum := by
  apply List.sum_nonneg
  intro score member
  rcases List.mem_map.mp member with ⟨item, held, rfl⟩
  exact scored.nonneg (burnScores.get?_eq_some_of_mem held)

theorem completeScores_nonneg (scored : BurnService.BurnScored miners burnScores)
    (incentives : Nonneg minerIncentives) :
    Nonneg (completeScores minerIncentives miners burnScores) := by
  intro hotkey
  rw [PyDict.getD, completeScores_get?]
  cases held : burnScores.get? hotkey with
  | some score => exact scored.nonneg held
  | none =>
    rw [Option.none_or]
    split
    · exact incentives hotkey
    · exact le_refl 0

variable {cycleScores : PyDict String ℚ}

variable (settings) in
theorem burnExcludedHotkeyScores_getD (scored : BurnService.BurnScored miners burnScores)
    (nonneg : Nonneg cycleScores) (hotkey : String) :
    (burnExcludedHotkeyScores settings cycleScores burnScores).getD hotkey 0 =
      (zeroedScores settings cycleScores burnScores).2.getD hotkey 0 +
        burnScores.amountAt
          (proRata (zeroedScores settings cycleScores burnScores).1 burnScores.values.sum)
          hotkey := by
  rw [burnExcludedHotkeyScores_eq]
  split
  case isFalse => exact PyDict.getD_addEach _ _ _ _
  case isTrue shortcut =>
    have nothing : ∀ score,
        proRata (zeroedScores settings cycleScores burnScores).1 burnScores.values.sum score =
          0 := by
      intro score
      rcases shortcut with freed | total
      · have none := le_antisymm freed
          (foldl_zeroExcluded_freed burnScores settings.scoringExcludedHotkeys (0, cycleScores)
            nonneg).1
        rw [none, proRata, zero_mul, zero_div]
      · rw [le_antisymm total (burnTotal_nonneg scored), proRata_zero_total]
    have unpaid : burnScores.amountAt
        (proRata (zeroedScores settings cycleScores burnScores).1 burnScores.values.sum) hotkey =
        0 := by
      rw [PyDict.amountAt]
      cases burnScores.get? hotkey with
      | none => rfl
      | some score => exact nothing score
    rw [unpaid, add_zero]

theorem sum_burnExcludedHotkeyScores (nonneg : Nonneg cycleScores)
    (positive : 0 < burnScores.values.sum) :
    (burnExcludedHotkeyScores settings cycleScores burnScores).values.sum =
      cycleScores.values.sum := by
  rcases foldl_zeroExcluded_freed burnScores settings.scoringExcludedHotkeys (0, cycleScores)
    nonneg with ⟨grows, conserved⟩
  change 0 ≤ (zeroedScores settings cycleScores burnScores).1 at grows
  change (zeroedScores settings cycleScores burnScores).1 +
    (zeroedScores settings cycleScores burnScores).2.values.sum = 0 + cycleScores.values.sum
    at conserved
  rw [burnExcludedHotkeyScores_eq]
  split
  case isTrue shortcut =>
    have none := le_antisymm (shortcut.resolve_right (not_le.mpr positive)) grows
    linarith
  case isFalse =>
    have distributed := sum_map_proRata (zeroedScores settings cycleScores burnScores).1
      burnScores.values.sum id burnScores.values
    rw [List.map_id, proRata_total positive.le, if_pos positive] at distributed
    rw [PyDict.sum_values_addEach]
    simp only [id] at distributed
    linarith

theorem burnExcludedHotkeyScores_of_unpaid
    (nonneg : Nonneg cycleScores)
    (unpaid : ∀ hotkey ∈ settings.scoringExcludedHotkeys, hotkey ∉ burnScores.keys →
      cycleScores.getD hotkey 0 = 0) (hotkey : String) :
    (burnExcludedHotkeyScores settings cycleScores burnScores).getD hotkey 0 =
      cycleScores.getD hotkey 0 := by
  have unchanged : ∀ hotkey, (zeroedScores settings cycleScores burnScores).2.getD hotkey 0 =
      cycleScores.getD hotkey 0 := by
    intro hotkey
    rw [zeroedScores_getD]
    split
    · next excluded => exact (unpaid hotkey excluded.1 excluded.2).symm
    · rfl
  have keys : (zeroedScores settings cycleScores burnScores).2.keys.toFinset =
      cycleScores.keys.toFinset := by
    ext hotkey
    rw [List.mem_toFinset, List.mem_toFinset, mem_keys_zeroedScores]
  have total : (zeroedScores settings cycleScores burnScores).2.values.sum =
      cycleScores.values.sum := by
    rw [PyDict.sum_values_eq, PyDict.sum_values_eq, keys]
    exact Finset.sum_congr rfl fun hotkey _ => unchanged hotkey
  have conserved := (foldl_zeroExcluded_freed burnScores settings.scoringExcludedHotkeys
    (0, cycleScores) nonneg).2
  change (zeroedScores settings cycleScores burnScores).1 +
    (zeroedScores settings cycleScores burnScores).2.values.sum = 0 + cycleScores.values.sum
    at conserved
  have freed : (zeroedScores settings cycleScores burnScores).1 ≤ 0 := by linarith
  rw [burnExcludedHotkeyScores_eq, if_pos (.inl freed), unchanged]

/-! ## The scores before the referral step -/

structure SettledBeforeReferral (settings : WeightSettings) (minerIncentives : PyDict String ℚ)
    (miners : List Neuron) (burnScores scores : PyDict String ℚ) : Prop where
  keys : ∀ hotkey, hotkey ∈ scores.keys ↔ hotkey ∈ miners.map Neuron.hotkey
  burner : ∀ {hotkey score}, burnScores.get? hotkey = some score → score ≤ scores.getD hotkey 0
  excluded : ∀ hotkey ∈ settings.scoringExcludedHotkeys, hotkey ∉ burnScores.keys →
    scores.getD hotkey 0 = 0
  earned : ∀ hotkey ∈ miners.map Neuron.hotkey, hotkey ∉ burnScores.keys →
    hotkey ∉ settings.scoringExcludedHotkeys →
      scores.getD hotkey 0 = minerIncentives.getD hotkey 0
  conserved : 0 < burnScores.values.sum →
    scores.values.sum = burnScores.values.sum +
      ∑ hotkey ∈ listedMiners burnScores miners, minerIncentives.getD hotkey 0

theorem settledBeforeReferral (scored : BurnService.BurnScored miners burnScores)
    (incentives : Nonneg minerIncentives) :
    SettledBeforeReferral settings minerIncentives miners burnScores
      (burnExcludedHotkeyScores settings (completeScores minerIncentives miners burnScores)
        burnScores) := by
  have nonneg := completeScores_nonneg scored incentives
  have getD := burnExcludedHotkeyScores_getD settings scored nonneg
  constructor
  case keys =>
    intro hotkey
    have burner := scored.listed hotkey
    rw [burnExcludedHotkeyScores_eq, ← mem_keys_completeScores scored hotkey]
    rw [← mem_keys_completeScores scored hotkey] at burner
    split
    · exact mem_keys_zeroedScores _ _ _
    · rw [PyDict.mem_keys_addEach, mem_keys_zeroedScores]
      exact ⟨fun either => either.elim burner id, .inr⟩
  case burner =>
    intro hotkey score held
    have burner : hotkey ∈ burnScores.keys := burnScores.mem_keys_iff.mpr ⟨score, held⟩
    have kept : ¬(hotkey ∈ settings.scoringExcludedHotkeys ∧ hotkey ∉ burnScores.keys) :=
      fun both => both.2 burner
    have freed := (foldl_zeroExcluded_freed burnScores settings.scoringExcludedHotkeys
      (0, completeScores minerIncentives miners burnScores) nonneg).1
    rw [getD, zeroedScores_getD, if_neg kept, PyDict.amountAt_of_get? _ held, PyDict.getD,
      completeScores_of_burner held, Option.getD_some]
    exact le_add_of_nonneg_right
      (proRata_nonneg freed (burnTotal_nonneg scored) (scored.nonneg held))
  case excluded =>
    intro hotkey excluded miner
    rw [getD, zeroedScores_getD, if_pos ⟨excluded, miner⟩, PyDict.amountAt_of_not_mem _ miner,
      add_zero]
  case earned =>
    intro hotkey listed miner included
    rw [getD, zeroedScores_getD, if_neg fun both => included both.1,
      PyDict.amountAt_of_not_mem _ miner, add_zero, PyDict.getD,
      completeScores_of_miner miner listed, Option.getD_some]
  case conserved =>
    intro positive
    rw [sum_burnExcludedHotkeyScores nonneg positive, sum_completeScores scored]

end FinalWeights

end Lium
