import Lium.Foundation.CellSums
import Lium.Incentive.PoolTotals

/-! # Reassigning split candidates

`Booked` ties the two bucket tables to the results: each bucket holds the GPUs, and the
weighted rates, of exactly the counted results whose bucket it is. The pre-pass
establishes it and every reassignment keeps it.
-/

namespace Lium.RentalPrice

open CellSums

variable {config : IncentiveConfig}

/-! ## Books over a heap -/

def gpusIn (key : BucketKey) (result : JobResult) : ℕ :=
  if result.isCounted ∧ result.bucketKey = key then result.gpuCount else 0

def rateUnder (weight : BucketKey → ℚ →+ ℚ) (result : JobResult) : ℚ :=
  if result.isCounted then weight result.bucketKey result.weightedRate else 0

def bucketCount (items : List (String × ResultRef)) (heap : ResultRef → JobResult)
    (key : BucketKey) : ℕ :=
  sumOver Prod.snd (fun _ => gpusIn key) items heap

def bucketRates (weight : BucketKey → ℚ →+ ℚ) (items : List (String × ResultRef))
    (heap : ResultRef → JobResult) : ℚ :=
  sumOver Prod.snd (fun _ => rateUnder weight) items heap

structure Booked (items : List (String × ResultRef)) (heap : ResultRef → JobResult)
    (pools : Pools) : Prop where
  counts : ∀ key, pools.unrentedCountByBucket.getD key 0 = bucketCount items heap key
  rates : ∀ weight : BucketKey → ℚ →+ ℚ,
    pools.weightedRateSumByBucket.sumWith (fun key value => weight key value) =
      bucketRates weight items heap

theorem countAll_booked (items : List (String × ResultRef)) (heap : ResultRef → JobResult)
    (prepared : String × ResultRef → JobResult)
    (stored : ∀ item ∈ items, heap item.2 = prepared item) :
    Booked items heap (countAll items prepared {}) where
  counts := by
    intro key
    rw [countAll_unrentedCount, PyDict.getD_empty, Nat.zero_add]
    apply congrArg List.sum
    apply List.map_congr_left
    intro item member
    simp only [gpusIn, stored item member]
  rates := by
    intro weight
    rw [countAll_weightedRateSum, PyDict.sumWith_empty, zero_add]
    apply congrArg List.sum
    apply List.map_congr_left
    intro item member
    simp only [rateUnder, stored item member]

/-! ## One move -/

def rebucketOver (original moved : JobResult) : JobResult :=
  { original with
    bucketReassignedFrom := moved.bucketReassignedFrom
    bucketReassignedFromMultiplier := moved.bucketReassignedFromMultiplier
    countBucket := moved.countBucket
    maxCap := moved.maxCap }

structure Rebucketed (config : IncentiveConfig) (original moved : JobResult) : Prop where
  frame : rebucketOver original moved = moved
  counted : moved.isCounted = original.isCounted
  bucket : original.countBucket.isSome = true → moved.countBucket.isSome = true
  cap : original.maxCap = some (config.cap original.bucketKey.1 original.bucketKey.2) →
    moved.maxCap = some (config.cap moved.bucketKey.1 moved.bucketKey.2)

namespace Rebucketed

theorem refl (result : JobResult) : Rebucketed config result result :=
  ⟨rfl, rfl, id, id⟩

theorem trans {first second third : JobResult} (left : Rebucketed config first second)
    (right : Rebucketed config second third) : Rebucketed config first third where
  frame := by
    have composed : rebucketOver first third =
      rebucketOver (rebucketOver first second) third := rfl
    rw [composed, left.frame, right.frame]
  counted := right.counted.trans left.counted
  bucket := right.bucket ∘ left.bucket
  cap := right.cap ∘ left.cap

end Rebucketed

structure SplitCandidate (heap : ResultRef → JobResult) (candidate : String × ResultRef) :
    Prop where
  baseModel : (heap candidate.2).baseModel = candidate.1
  counted : (heap candidate.2).isCounted = true
  pinned : isSplitFallbackCandidate (heap candidate.2) = true

variable {heap : ResultRef → JobResult}

theorem SplitCandidate.bucket_ne {candidate : String × ResultRef}
    (split : SplitCandidate heap candidate) :
    (heap candidate.2).countBucket.getD 0 ≠
      (heap candidate.2).gpuSplittingMinCount.getD 0 := by
  have pinned := split.pinned
  unfold isSplitFallbackCandidate at pinned
  split at pinned
  · cases pinned
  · next minCount splits =>
      simp only [Bool.and_eq_true, decide_eq_true_eq] at pinned
      obtain ⟨bucket, different⟩ := pinned
      have min : (heap candidate.2).gpuSplittingMinCount = some minCount := by
        simp only [ValidatedNode.splits, ValidatedNode.splitMinCount,
          Option.ite_none_right_eq_some, Option.filter_eq_some_iff] at splits
        exact splits.2.1
      intro equal
      rw [min, bucket] at equal
      rw [bucket] at different
      exact different (congrArg some equal)

theorem splitTierMove_rebucketed {counts : PyDict BucketKey ℕ} {result moved : JobResult}
    (counted : result.isCounted = true)
    (move : splitTierMove config counts result.baseModel result = some moved) :
    Rebucketed config result moved ∧
      moved.countBucket = some (result.gpuSplittingMinCount.getD 0) := by
  simp only [splitTierMove] at move
  split_ifs at move with noTier underCap noRoom
  cases move
  refine ⟨⟨rfl, ?_, fun _ => rfl, fun _ => rfl⟩, rfl⟩
  rw [counted]
  simp only [JobResult.isCounted, Bool.and_eq_true, Bool.not_eq_true',
    decide_eq_true_eq] at counted ⊢
  exact ⟨counted.1, Nat.pos_of_ne_zero noTier⟩

theorem Rebucketed.unmoved {original moved : JobResult} (step : Rebucketed config original moved) :
    moved.gpuCount = original.gpuCount ∧ moved.weightedRate = original.weightedRate ∧
      moved.baseModel = original.baseModel := by
  rw [← step.frame]
  exact ⟨rfl, rfl, rfl⟩

variable {items : List (String × ResultRef)} {item : String × ResultRef}

theorem Booked.move {pools : Pools} {moved : JobResult} (booked : Booked items heap pools)
    (nodup : (items.map Prod.snd).Nodup) (member : item ∈ items)
    (counted : (heap item.2).isCounted = true) (step : Rebucketed config (heap item.2) moved)
    (different : moved.bucketKey ≠ (heap item.2).bucketKey) :
    Booked items (Function.update heap item.2 moved)
      (movePools pools (heap item.2).bucketKey moved.bucketKey (heap item.2).gpuCount
        (heap item.2).weightedRate) where
  counts := by
    intro key
    have exchange : bucketCount items (Function.update heap item.2 moved) key +
        gpusIn key (heap item.2) = bucketCount items heap key + gpusIn key moved :=
      sumOver_update (fun _ => gpusIn key) heap nodup member moved
    have own : gpusIn key (heap item.2) ≤ bucketCount items heap key :=
      List.single_le_sum (fun _ _ => Nat.zero_le _) _ (List.mem_map_of_mem member)
    simp only [movePools, PyDict.getD_set, booked.counts]
    simp only [gpusIn, counted, step.counted, step.unmoved.1, true_and] at exchange own
    by_cases target : key = moved.bucketKey
    · subst target
      rw [if_pos rfl]
      rw [if_neg (Ne.symm different), if_pos rfl] at exchange
      omega
    · rw [if_neg target]
      rw [if_neg (Ne.symm target)] at exchange
      by_cases source : key = (heap item.2).bucketKey
      · subst source
        rw [if_pos rfl]
        rw [if_pos rfl] at exchange own
        omega
      · rw [if_neg source]
        rw [if_neg (Ne.symm source)] at exchange
        omega
  rates := by
    intro weight
    have exchange : bucketRates weight items (Function.update heap item.2 moved) +
        rateUnder weight (heap item.2) = bucketRates weight items heap + rateUnder weight moved :=
      sumOver_update (fun _ => rateUnder weight) heap nodup member moved
    simp only [rateUnder, counted, step.counted, step.unmoved.2.1, if_true] at exchange
    simp only [movePools, PyDict.sumWith_add, booked.rates, map_neg]
    linarith

/-! ## The whole pass -/

structure Reassigned (config : IncentiveConfig) (items : List (String × ResultRef))
    (before after : IncentiveState) : Prop where
  booked : Booked items after.heap after.pools
  rebucketed : ∀ ref, Rebucketed config (before.heap ref) (after.heap ref)

theorem reassignSplitCandidate_spec (env : Env) {state : IncentiveState} {baseModel : String}
    (nodup : (items.map Prod.snd).Nodup) (booked : Booked items state.heap state.pools)
    (member : item ∈ items) (split : SplitCandidate state.heap (baseModel, item.2)) :
    Reassigned env.config items state
        (reassignSplitCandidate env state (baseModel, item.2)) ∧
      ∀ ref, ref ≠ item.2 →
        (reassignSplitCandidate env state (baseModel, item.2)).heap ref = state.heap ref := by
  have isBase : (state.heap item.2).baseModel = baseModel := split.baseModel
  subst isBase
  simp only [reassignSplitCandidate]
  split
  · exact ⟨⟨booked, fun _ => .refl _⟩, fun _ _ => rfl⟩
  · next moved move =>
      obtain ⟨step, bucket⟩ := splitTierMove_rebucketed split.counted move
      have keys : moved.bucketKey =
          ((state.heap item.2).baseModel, moved.countBucket.getD 0) := by
        rw [JobResult.bucketKey, step.unmoved.2.2]
      have different : moved.bucketKey ≠ (state.heap item.2).bucketKey := by
        rw [keys, bucket]
        intro equal
        exact split.bucket_ne (congrArg Prod.snd equal).symm
      refine ⟨⟨?_, ?_⟩, fun ref other => Function.update_of_ne other _ _⟩
      · have moves := booked.move nodup member split.counted step different
        rw [keys] at moves
        exact moves
      · intro ref
        by_cases same : ref = item.2
        · subst same
          simpa [IncentiveState.write] using step
        · simpa [IncentiveState.write, Function.update_of_ne same] using
            Rebucketed.refl (state.heap ref)

theorem foldl_reassignSplitCandidate_spec {env : Env}
    (nodup : (items.map Prod.snd).Nodup) (candidates : List (String × ResultRef))
    (candidatesNodup : (candidates.map Prod.snd).Nodup) (state : IncentiveState)
    (booked : Booked items state.heap state.pools)
    (split : ∀ candidate ∈ candidates,
      (∃ item ∈ items, item.2 = candidate.2) ∧ SplitCandidate state.heap candidate) :
    Reassigned env.config items state
      (candidates.foldl (reassignSplitCandidate env) state) := by
  induction candidates generalizing state with
  | nil => exact ⟨booked, fun _ => .refl _⟩
  | cons candidate rest induction =>
    rw [List.map_cons, List.nodup_cons] at candidatesNodup
    obtain ⟨⟨item, member, owns⟩, isSplit⟩ := split candidate (List.mem_cons_self ..)
    obtain ⟨baseModel, ref⟩ := candidate
    obtain rfl : item.2 = ref := owns
    obtain ⟨first, others⟩ := reassignSplitCandidate_spec env nodup booked member isSplit
    have later := induction candidatesNodup.2
      (reassignSplitCandidate env state (baseModel, item.2)) first.booked (by
        intro other otherMember
        obtain ⟨owned, otherSplit⟩ := split other (List.mem_cons_of_mem _ otherMember)
        -- a later candidate is another result, so this move left it alone
        have unmoved := others other.2 fun equal =>
          candidatesNodup.1 (equal ▸ List.mem_map_of_mem otherMember)
        refine ⟨owned, ?_, ?_, ?_⟩
        · rw [unmoved]; exact otherSplit.baseModel
        · rw [unmoved]; exact otherSplit.counted
        · rw [unmoved]; exact otherSplit.pinned)
    exact ⟨later.booked, fun ref => (first.rebucketed ref).trans (later.rebucketed ref)⟩

theorem sortedByUuid_perm (heap : ResultRef → JobResult)
    (candidates : List (String × ResultRef)) :
    (sortedByUuid heap candidates).Perm candidates :=
  List.perm_insertionSort _ _

theorem reassignSplitCandidates_kept {β : Type} (env : Env) (field : IncentiveState → β)
    (kept : ∀ (state : IncentiveState) ref moved source target gpuCount rate,
      field { state.write ref moved with
        pools := movePools state.pools source target gpuCount rate } = field state)
    (state : IncentiveState) :
    field (reassignSplitCandidates env state) = field state := by
  unfold reassignSplitCandidates
  generalize sortedByUuid state.heap state.pools.splitFallbackCandidates = candidates
  induction candidates generalizing state with
  | nil => rfl
  | cons candidate rest induction =>
    rw [List.foldl_cons, induction]
    simp only [reassignSplitCandidate]
    split
    · rfl
    · exact kept ..

end Lium.RentalPrice
