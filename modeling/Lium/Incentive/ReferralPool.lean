import Lium.Incentive.FinalWeights

/-! # Referral rewards out of burn

The pool is capped at the burn total and drawn in proportion to the burn scores, so no burner
is overdrawn and no miner pays for it.
-/

namespace Lium.FinalWeights

variable {score : ℚ} {referralPool : ℚ} {burnShare : ℚ} {settings : WeightSettings}
  {ema minerIncentives burnScores : PyDict String ℚ} {miners : List Neuron}

/-! ## The referral step -/

def payReferrers (referralPool : ℚ) (eligible burnScores cycleScores : PyDict String ℚ) :
    PyDict String ℚ :=
  eligible.addEach (fun value => referralPool * (value / eligible.values.sum))
    (burnScores.addEach (fun score => -(referralPool * (score / burnScores.values.sum)))
      cycleScores)

variable (settings ema burnScores miners) in
theorem applyReferralPool_cases (cycleScores : PyDict String ℚ) :
    applyReferralPool settings ema cycleScores burnScores miners = cycleScores ∨
      ∃ referralPool, 0 < referralPool ∧ referralPool ≤ burnScores.values.sum ∧
        0 < (eligibleReferrers settings burnScores miners ema).values.sum ∧
        applyReferralPool settings ema cycleScores burnScores miners =
          payReferrers referralPool (eligibleReferrers settings burnScores miners ema)
            burnScores cycleScores := by
  rw [applyReferralPool]
  split
  · exact .inl rfl
  split
  · exact .inl rfl
  simp only
  split
  · exact .inl rfl
  next referred =>
    split
    · exact .inl rfl
    split
    · exact .inl rfl
    next paid =>
      exact .inr ⟨_, not_le.mp paid, min_le_right _ _, not_le.mp referred, rfl⟩

/-- When the share, the feed, the burn or the eligible set is empty, nothing is redirected. -/
def ReferralInert (settings : WeightSettings) (ema : PyDict String ℚ) (miners : List Neuron)
    (burnScores : PyDict String ℚ) : Prop :=
  settings.referralEmissionShare ≤ 0 ∨ ema.items = [] ∨ burnScores.values.sum ≤ 0 ∨
    (eligibleReferrers settings burnScores miners ema).items = []

theorem applyReferralPool_of_inert (cycleScores : PyDict String ℚ)
    (inert : ReferralInert settings ema miners burnScores) :
    applyReferralPool settings ema cycleScores burnScores miners = cycleScores := by
  rcases inert with share | feed | burn | eligible
  · have clamped : ¬0 < clampedShare settings := by
      rw [clampedShare, max_eq_right share, min_eq_left zero_le_one]
      exact lt_irrefl 0
    rw [applyReferralPool, if_pos clamped]
  · simp [applyReferralPool, feed]
  · simp [applyReferralPool, burn]
  · simp [applyReferralPool, PyDict.values, eligible]

variable {hotkey : String}

theorem eligibleReferrers_get? {value : ℚ}
    (held : (eligibleReferrers settings burnScores miners ema).get? hotkey = some value) :
    hotkey ∈ miners.map Neuron.hotkey ∧ hotkey ∉ burnScores.keys ∧
      hotkey ∉ settings.scoringExcludedHotkeys ∧ 0 < value := by
  rw [eligibleReferrers, PyDict.get?_filter_eq_some] at held
  simpa only [Bool.and_eq_true, Bool.not_eq_true', decide_eq_true_eq, decide_eq_false_iff_not,
    ← Bool.not_eq_true, PyDict.contains_iff, and_assoc] using held.2

theorem eligibleReferrers_of_mem
    (eligible : hotkey ∈ (eligibleReferrers settings burnScores miners ema).keys) :
    hotkey ∈ miners.map Neuron.hotkey ∧ hotkey ∉ burnScores.keys ∧
      hotkey ∉ settings.scoringExcludedHotkeys := by
  rcases (PyDict.mem_keys_iff _).mp eligible with ⟨value, held⟩
  rcases eligibleReferrers_get? held with ⟨listed, miner, included, -⟩
  exact ⟨listed, miner, included⟩

theorem sum_map_mul_div (pool : ℚ) {claims : List ℚ} (positive : 0 < claims.sum) :
    (claims.map fun claim => pool * (claim / claims.sum)).sum = pool := by
  have distributed := sum_map_proRata pool claims.sum id claims
  rw [List.map_id, proRata_total positive.le, if_pos positive] at distributed
  simpa only [proRata, mul_div_assoc, id] using distributed

section PayReferrers

variable {eligible cycleScores : PyDict String ℚ}

theorem payReferrers_getD_of_burner (held : burnScores.get? hotkey = some score)
    (unreferred : hotkey ∉ eligible.keys) :
    (payReferrers referralPool eligible burnScores cycleScores).getD hotkey 0 =
      cycleScores.getD hotkey 0 - referralPool * (score / burnScores.values.sum) := by
  rw [payReferrers, PyDict.getD_addEach, PyDict.getD_addEach,
    PyDict.amountAt_of_not_mem _ unreferred, PyDict.amountAt_of_get? _ held, add_zero,
    ← sub_eq_add_neg]

theorem payReferrers_getD_of_miner (miner : hotkey ∉ burnScores.keys) :
    (payReferrers referralPool eligible burnScores cycleScores).getD hotkey 0 =
      cycleScores.getD hotkey 0 +
        eligible.amountAt (fun value => referralPool * (value / eligible.values.sum)) hotkey := by
  rw [payReferrers, PyDict.getD_addEach, PyDict.getD_addEach, PyDict.amountAt_of_not_mem _ miner,
    add_zero]

theorem sum_payReferrers (burned : 0 < burnScores.values.sum)
    (referred : 0 < eligible.values.sum) :
    (payReferrers referralPool eligible burnScores cycleScores).values.sum =
      cycleScores.values.sum := by
  have drawn : (burnScores.values.map
      fun score => -(referralPool * (score / burnScores.values.sum))).sum = -referralPool := by
    have taken := sum_map_mul_div (-referralPool) burned
    simpa only [neg_mul] using taken
  rw [payReferrers, PyDict.sum_values_addEach, PyDict.sum_values_addEach, drawn,
    sum_map_mul_div referralPool referred]
  ring

theorem cut_le_burnScore (nonneg : 0 ≤ score) (burned : 0 < burnScores.values.sum)
    (capped : referralPool ≤ burnScores.values.sum) :
    referralPool * (score / burnScores.values.sum) ≤ score := by
  rw [← mul_div_assoc, div_le_iff₀ burned, mul_comm]
  exact mul_le_mul_of_nonneg_left capped nonneg

end PayReferrers

theorem referralReward_nonneg (positive : 0 < referralPool)
    (referred : 0 < (eligibleReferrers settings burnScores miners ema).values.sum)
    (hotkey : String) :
    0 ≤ (eligibleReferrers settings burnScores miners ema).amountAt
      (fun value => referralPool *
        (value / (eligibleReferrers settings burnScores miners ema).values.sum)) hotkey := by
  rw [PyDict.amountAt]
  cases held : (eligibleReferrers settings burnScores miners ema).get? hotkey with
  | none => exact le_refl 0
  | some value =>
    rcases eligibleReferrers_get? held with ⟨-, -, -, value_pos⟩
    exact mul_nonneg positive.le (div_nonneg value_pos.le referred.le)

/-! ## The whole step -/

/-- Value only moves out of burn: what the final scores guarantee. -/
structure WeightsSettled (settings : WeightSettings) (ema minerIncentives : PyDict String ℚ)
    (miners : List Neuron) (burnScores scores : PyDict String ℚ) : Prop where
  keys : ∀ hotkey, hotkey ∈ scores.keys ↔ hotkey ∈ miners.map Neuron.hotkey
  nonneg : ∀ hotkey, 0 ≤ scores.getD hotkey 0
  earned : ∀ hotkey ∈ miners.map Neuron.hotkey, hotkey ∉ burnScores.keys →
    hotkey ∉ settings.scoringExcludedHotkeys →
    hotkey ∉ (eligibleReferrers settings burnScores miners ema).keys →
      scores.getD hotkey 0 = minerIncentives.getD hotkey 0
  excluded : ∀ hotkey ∈ settings.scoringExcludedHotkeys, hotkey ∉ burnScores.keys →
    scores.getD hotkey 0 = 0
  referrers : ∀ hotkey ∈ (eligibleReferrers settings burnScores miners ema).keys,
    minerIncentives.getD hotkey 0 ≤ scores.getD hotkey 0
  paid : ∑ hotkey ∈ (eligibleReferrers settings burnScores miners ema).keys.toFinset,
      (scores.getD hotkey 0 - minerIncentives.getD hotkey 0) ≤ burnScores.values.sum
  conserved : 0 < burnScores.values.sum →
    scores.values.sum = burnScores.values.sum +
      ∑ hotkey ∈ listedMiners burnScores miners, minerIncentives.getD hotkey 0

namespace SettledBeforeReferral

variable {scores : PyDict String ℚ} (scored : BurnService.BurnScored miners burnScores)
  (settled : SettledBeforeReferral settings minerIncentives miners burnScores scores)

include scored settled

theorem nonneg (incentives : Nonneg minerIncentives) : Nonneg scores := by
  intro hotkey
  cases held : burnScores.get? hotkey with
  | some score => exact le_trans (scored.nonneg held) (settled.burner held)
  | none =>
    have miner := (burnScores.get?_eq_none_iff hotkey).mp held
    by_cases excluded : hotkey ∈ settings.scoringExcludedHotkeys
    · exact (settled.excluded hotkey excluded miner).ge
    · by_cases listed : hotkey ∈ miners.map Neuron.hotkey
      · rw [settled.earned hotkey listed miner excluded]
        exact incentives hotkey
      · rw [← settled.keys, ← PyDict.get?_eq_none_iff] at listed
        rw [PyDict.getD, listed, Option.getD_none]

omit scored in
theorem eligible_earned
    (eligible : hotkey ∈ (eligibleReferrers settings burnScores miners ema).keys) :
    scores.getD hotkey 0 = minerIncentives.getD hotkey 0 := by
  rcases eligibleReferrers_of_mem eligible with ⟨listed, miner, included⟩
  exact settled.earned hotkey listed miner included

theorem weightsSettled (incentives : Nonneg minerIncentives) :
    WeightsSettled settings ema minerIncentives miners burnScores scores where
  keys := settled.keys
  nonneg := settled.nonneg scored incentives
  earned := fun hotkey listed miner included _ => settled.earned hotkey listed miner included
  excluded := settled.excluded
  referrers := fun _ eligible => (settled.eligible_earned eligible).ge
  paid := by
    rw [Finset.sum_eq_zero]
    · exact burnTotal_nonneg scored
    · intro hotkey eligible
      rw [settled.eligible_earned (List.mem_toFinset.mp eligible), sub_self]
  conserved := settled.conserved

theorem weightsSettled_payReferrers (incentives : Nonneg minerIncentives)
    (positive : 0 < referralPool) (capped : referralPool ≤ burnScores.values.sum)
    (referred : 0 < (eligibleReferrers settings burnScores miners ema).values.sum) :
    WeightsSettled settings ema minerIncentives miners burnScores
      (payReferrers referralPool (eligibleReferrers settings burnScores miners ema) burnScores
        scores) := by
  have burned : 0 < burnScores.values.sum := positive.trans_le capped
  have scores_nonneg := settled.nonneg scored incentives
  constructor
  case keys =>
    intro hotkey
    rw [payReferrers, PyDict.mem_keys_addEach, PyDict.mem_keys_addEach, settled.keys]
    constructor
    · rintro (eligible | burner | listed)
      · exact (eligibleReferrers_of_mem eligible).1
      · exact scored.listed hotkey burner
      · exact listed
    · exact fun listed => .inr (.inr listed)
  case nonneg =>
    intro hotkey
    cases held : burnScores.get? hotkey with
    | some score =>
      have burner : hotkey ∈ burnScores.keys := burnScores.mem_keys_iff.mpr ⟨score, held⟩
      have unreferred :
          hotkey ∉ (eligibleReferrers settings burnScores miners ema).keys :=
        fun eligible => (eligibleReferrers_of_mem eligible).2.1 burner
      have cut := cut_le_burnScore (scored.nonneg held) burned capped
      rw [payReferrers_getD_of_burner held unreferred]
      linarith [settled.burner held]
    | none =>
      rw [payReferrers_getD_of_miner ((burnScores.get?_eq_none_iff hotkey).mp held)]
      exact add_nonneg (scores_nonneg hotkey) (referralReward_nonneg positive referred hotkey)
  case earned =>
    intro hotkey listed miner included unreferred
    rw [payReferrers_getD_of_miner miner, PyDict.amountAt_of_not_mem _ unreferred, add_zero,
      settled.earned hotkey listed miner included]
  case excluded =>
    intro hotkey excluded miner
    have unreferred : hotkey ∉ (eligibleReferrers settings burnScores miners ema).keys :=
      fun eligible => (eligibleReferrers_of_mem eligible).2.2 excluded
    rw [payReferrers_getD_of_miner miner, PyDict.amountAt_of_not_mem _ unreferred, add_zero,
      settled.excluded hotkey excluded miner]
  case referrers =>
    intro hotkey eligible
    rw [payReferrers_getD_of_miner (eligibleReferrers_of_mem eligible).2.1,
      settled.eligible_earned eligible]
    exact le_add_of_nonneg_right (referralReward_nonneg positive referred hotkey)
  case paid =>
    have rewards : ∀ hotkey ∈ (eligibleReferrers settings burnScores miners ema).keys.toFinset,
        (payReferrers referralPool (eligibleReferrers settings burnScores miners ema) burnScores
            scores).getD hotkey 0 - minerIncentives.getD hotkey 0 =
          (eligibleReferrers settings burnScores miners ema).amountAt
            (fun value => referralPool *
              (value / (eligibleReferrers settings burnScores miners ema).values.sum))
            hotkey := by
      intro hotkey member
      have eligible := List.mem_toFinset.mp member
      rw [payReferrers_getD_of_miner (eligibleReferrers_of_mem eligible).2.1,
        settled.eligible_earned eligible, add_sub_cancel_left]
    rw [Finset.sum_congr rfl rewards, PyDict.sum_amountAt, sum_map_mul_div _ referred]
    exact capped
  case conserved =>
    intro _
    rw [sum_payReferrers burned referred, settled.conserved burned]

end SettledBeforeReferral

theorem calculateFinalWeights_weightsSettled (settings : WeightSettings) (ema : PyDict String ℚ)
    {minerIncentives : PyDict String ℚ} (miners : List Neuron)
    (incentives : Nonneg minerIncentives) (burn_nonneg : 0 ≤ burnShare) :
    WeightsSettled settings ema minerIncentives miners
      (BurnService.calculateBurnScores settings miners burnShare)
      (calculateFinalWeights settings ema minerIncentives burnShare miners) := by
  have scored := BurnService.calculateBurnScores_burnScored settings miners burn_nonneg
  have settled : SettledBeforeReferral settings minerIncentives miners _
      (scoresBeforeReferral settings minerIncentives burnShare miners) :=
    settledBeforeReferral scored incentives
  rcases applyReferralPool_cases settings ema
      (BurnService.calculateBurnScores settings miners burnShare) miners
      (scoresBeforeReferral settings minerIncentives burnShare miners) with
    unpaid | ⟨referralPool, positive, capped, referred, paid⟩
  · rw [calculateFinalWeights, unpaid]
    exact settled.weightsSettled scored incentives
  · rw [calculateFinalWeights, paid]
    exact settled.weightsSettled_payReferrers scored incentives positive capped referred

theorem calculateFinalWeights_le_burnScore (settings : WeightSettings) (ema : PyDict String ℚ)
    {minerIncentives : PyDict String ℚ} (miners : List Neuron)
    (incentives : Nonneg minerIncentives) (burn_nonneg : 0 ≤ burnShare)
    (unpaid : ∀ hotkey ∈ settings.scoringExcludedHotkeys, minerIncentives.getD hotkey 0 = 0)
    (held : (BurnService.calculateBurnScores settings miners burnShare).get? hotkey =
      some score) :
    (calculateFinalWeights settings ema minerIncentives burnShare miners).getD hotkey 0 ≤
      score := by
  have scored := BurnService.calculateBurnScores_burnScored settings miners burn_nonneg
  have burner := (PyDict.mem_keys_iff _).mpr ⟨score, held⟩
  have nonneg := completeScores_nonneg scored incentives
  have noneFreed : ∀ hotkey ∈ settings.scoringExcludedHotkeys,
      hotkey ∉ (BurnService.calculateBurnScores settings miners burnShare).keys →
        (completeScores minerIncentives miners
          (BurnService.calculateBurnScores settings miners burnShare)).getD hotkey 0 = 0 := by
    intro other excluded miner
    rw [PyDict.getD, completeScores_get?, (PyDict.get?_eq_none_iff _ _).mpr miner,
      Option.none_or]
    split
    · exact unpaid other excluded
    · rfl
  have before : (scoresBeforeReferral settings minerIncentives burnShare miners).getD hotkey 0 =
      score := by
    rw [scoresBeforeReferral, burnExcludedHotkeyScores_of_unpaid nonneg noneFreed, PyDict.getD,
      completeScores_of_burner held, Option.getD_some]
  rcases applyReferralPool_cases settings ema
      (BurnService.calculateBurnScores settings miners burnShare) miners
      (scoresBeforeReferral settings minerIncentives burnShare miners) with
    inert | ⟨referralPool, positive, -, -, paid⟩
  · rw [calculateFinalWeights, inert, before]
  · have unreferred : hotkey ∉ (eligibleReferrers settings
        (BurnService.calculateBurnScores settings miners burnShare) miners ema).keys :=
      fun eligible => (eligibleReferrers_of_mem eligible).2.1 burner
    rw [calculateFinalWeights, paid, payReferrers_getD_of_burner held unreferred, before]
    exact sub_le_self score (mul_nonneg positive.le
      (div_nonneg (scored.nonneg held) (burnTotal_nonneg scored)))

theorem nonneg_of_values {scores : PyDict String ℚ} (nonneg : ∀ value ∈ scores.values, 0 ≤ value) :
    Nonneg scores := by
  intro hotkey
  rw [PyDict.getD]
  cases held : scores.get? hotkey with
  | none => exact le_refl 0
  | some value => exact nonneg value (List.mem_map_of_mem (f := Prod.snd) (scores.mem_of_get? held))

def sampleSettings : WeightSettings where
  newBurners := [47, 47]
  newBurnersNonempty := List.cons_ne_nil _ _
  burnerColdkeys := .ofList [(47, "payout")]
  scoringExcludedHotkeys := ["excluded"]
  referralEmissionShare := 1 / 10

def sampleMiners : List Neuron :=
  [⟨47, "burner", "payout"⟩, ⟨1, "miner", "c1"⟩, ⟨2, "referrer", "c2"⟩, ⟨3, "excluded", "c3"⟩]

def sampleMinerIncentives : PyDict String ℚ :=
  .ofList [("miner", 1 / 4), ("referrer", 1 / 8), ("excluded", 1 / 8)]

def sampleEma : PyDict String ℚ := .ofList [("referrer", 3), ("stranger", 5)]

/-- Final cycle weights only move value out of burn, and an inert referral step moves none. -/
theorem calculateFinalWeights_moves_only_burn (settings : WeightSettings)
    (ema minerIncentives : PyDict String ℚ) (burnShare : ℚ) (miners : List Neuron)
    (incentives : Nonneg minerIncentives) (burn_nonneg : 0 ≤ burnShare) :
    WeightsSettled settings ema minerIncentives miners
        (BurnService.calculateBurnScores settings miners burnShare)
        (calculateFinalWeights settings ema minerIncentives burnShare miners) ∧
      (ReferralInert settings ema miners
          (BurnService.calculateBurnScores settings miners burnShare) →
        calculateFinalWeights settings ema minerIncentives burnShare miners =
          scoresBeforeReferral settings minerIncentives burnShare miners) :=
  ⟨calculateFinalWeights_weightsSettled settings ema miners incentives burn_nonneg,
    applyReferralPool_of_inert _⟩

theorem sample_moves_only_burn :
    (WeightsSettled sampleSettings sampleEma sampleMinerIncentives sampleMiners
        (BurnService.calculateBurnScores sampleSettings sampleMiners (1 / 2))
        (calculateFinalWeights sampleSettings sampleEma sampleMinerIncentives (1 / 2)
          sampleMiners) ∧
      (ReferralInert sampleSettings sampleEma sampleMiners
          (BurnService.calculateBurnScores sampleSettings sampleMiners (1 / 2)) →
        calculateFinalWeights sampleSettings sampleEma sampleMinerIncentives (1 / 2)
            sampleMiners =
          scoresBeforeReferral sampleSettings sampleMinerIncentives (1 / 2) sampleMiners)) ∧
      (calculateFinalWeights sampleSettings sampleEma sampleMinerIncentives (1 / 2)
          sampleMiners).items =
        [("burner", 21 / 40), ("miner", 1 / 4), ("referrer", 9 / 40), ("excluded", 0)] :=
  ⟨calculateFinalWeights_moves_only_burn sampleSettings sampleEma sampleMinerIncentives (1 / 2)
      sampleMiners (nonneg_of_values (by decide +kernel)) (by norm_num),
    by decide +kernel⟩

end Lium.FinalWeights
