import Lium.Incentive.Conservation
import Lium.Incentive.TwoRuns

/-! # Independence of the enumeration order

Every table is read through sums or lookups that ignore the order of the results, the
split candidates are sorted, and the spot pools are equal where they overwrite each other.
-/

namespace Lium

variable {item : String × ResultRef} {env : Env} {fleet : Fleet}

/-- The same results with the hotkeys and the miners' lists in another order. -/
structure Fleet.Reordered (left right : Fleet) : Prop where
  nodes : left.nodes = right.nodes
  jobResults : ∃ hotkeysMoved, left.jobResults.Perm hotkeysMoved ∧
    List.Forall₂ (fun before after => before.1 = after.1 ∧ before.2.Perm after.2)
      hotkeysMoved right.jobResults

/-- Two final states that no result, no miner and no share can tell apart. -/
structure SameOutcome (fleet : Fleet) (left right : IncentiveState) : Prop where
  results : ∀ entry ∈ fleet.entries, left.heap (.node entry.2) = right.heap (.node entry.2)
  minerIncentives : ∀ hotkey, left.minerIncentives.get? hotkey = right.minerIncentives.get? hotkey
  rentalShare : left.shares.rentalShare = right.shares.rentalShare
  unbucketedShare : left.shares.unbucketedShare = right.shares.unbucketedShare
  burnShare : left.shares.burnShare = right.shares.burnShare

namespace Fleet.Reordered

variable {left right : Fleet} (reordered : left.Reordered right)
include reordered

theorem entries_perm : left.entries.Perm right.entries := by
  rcases reordered.jobResults with ⟨hotkeysMoved, moved, listsMoved⟩
  apply (moved.flatMap_right _).trans
  simp only [Fleet.entries]
  clear moved
  generalize right.jobResults = lists at listsMoved
  induction listsMoved with
  | nil => exact .nil
  | cons same rest induction =>
    rw [List.flatMap_cons, List.flatMap_cons, ← same.1]
    exact (same.2.map _).append induction

theorem freeGpuCount_eq : left.freeGpuCount = right.freeGpuCount := by
  funext id
  rw [Fleet.freeGpuCount, Fleet.freeGpuCount, reordered.nodes]

theorem split_eq : left.isPartiallyRentedSplit = right.isPartiallyRentedSplit := by
  funext id
  rw [Fleet.isPartiallyRentedSplit, Fleet.isPartiallyRentedSplit, reordered.freeGpuCount_eq]

theorem portion_eq : left.portion = right.portion := by
  funext ref
  cases ref <;> simp only [Fleet.portion, reordered.freeGpuCount_eq, reordered.nodes]

theorem scored_perm : left.scored.Perm right.scored := by
  have entries := reordered.entries_perm
  refine left.scored_perm.trans (.trans ?_ right.scored_perm.symm)
  rw [reordered.split_eq]
  exact (entries.map _).append ((entries.filter _).map _)

theorem preparation_eq (env : Env) :
    RentalPrice.preparation env left = RentalPrice.preparation env right := by
  funext item
  rw [RentalPrice.preparation, RentalPrice.preparation, reordered.portion_eq]

theorem prepared_eq (env : Env) :
    RentalPrice.prepared env left = RentalPrice.prepared env right := by
  funext item
  rw [RentalPrice.prepared, RentalPrice.prepared, reordered.preparation_eq]

theorem completes_iff (env : Env) :
    RentalPrice.Completes env left ↔ RentalPrice.Completes env right := by
  simp only [RentalPrice.Completes, reordered.preparation_eq env, reordered.scored_perm.mem_iff]

end Fleet.Reordered

namespace RentalPrice

open Raising Scoring CellSums

/-! ## Sorted candidates -/

theorem sortedByUuid_eq_of_perm (heap : ResultRef → JobResult)
    {left right : List (String × ResultRef)} (perm : left.Perm right)
    (injective : ∀ first ∈ left, ∀ second ∈ left, (heap first.2).executorInfo.uuid =
      (heap second.2).executorInfo.uuid → first = second) :
    sortedByUuid heap left = sortedByUuid heap right := by
  let order := fun first second : String × ResultRef =>
    (heap first.2).executorInfo.uuid ≤ (heap second.2).executorInfo.uuid
  have total : Std.Total order := ⟨fun _ _ => String.le_total _ _⟩
  have trans : IsTrans _ order := ⟨fun _ _ _ => String.le_trans⟩
  have leftPerm := sortedByUuid_perm heap left
  have rightPerm := sortedByUuid_perm heap right
  apply List.Perm.eq_of_pairwise _ (List.pairwise_insertionSort order left)
    (List.pairwise_insertionSort order right) (leftPerm.trans (perm.trans rightPerm.symm))
  intro first second firstMember secondMember le ge
  apply injective first (leftPerm.mem_iff.mp firstMember) second _ (String.le_antisymm le ge)
  exact perm.mem_iff.mpr (rightPerm.mem_iff.mp secondMember)

/-! ## Spot pools -/

theorem spotRateSumByModel_getD (heap : ResultRef → JobResult)
    (candidates : List (String × ResultRef)) (baseModel : String) :
    (spotRateSumByModel heap candidates).getD baseModel 0 =
      (candidates.map fun candidate => if candidate.1 = baseModel then
        (heap candidate.2).gpuCount * (heap candidate.2).effectiveRateValue else 0).sum := by
  refine (measure_foldl (fun sums : PyDict String ℚ => sums.getD baseModel 0) _ ?_ candidates
    .empty).trans (by rw [PyDict.getD_empty, zero_add])
  intro sums candidate
  simp only [PyDict.getD_add, eq_comm]

theorem spotPoolByModel_getD {heap : ResultRef → JobResult}
    {candidates : List (String × ResultRef)} {candidate : String × ResultRef}
    (member : candidate ∈ candidates)
    (same : ∀ other ∈ candidates, other.1 = candidate.1 →
      (heap other.2).fillerRevenueUsdPerHour.getD 0 =
        (heap candidate.2).fillerRevenueUsdPerHour.getD 0) :
    (spotPoolByModel heap candidates).getD candidate.1 0 =
      ((heap candidate.2).fillerRevenueUsdPerHour.getD 0 : ℚ≥0) := by
  have folded : ∀ (rest : List (String × ResultRef)) (start : PyDict String ℚ),
      (∀ other ∈ rest, other ∈ candidates) →
      (candidate ∈ rest ∨ start.getD candidate.1 0 =
        ((heap candidate.2).fillerRevenueUsdPerHour.getD 0 : ℚ≥0)) →
      (rest.foldl (fun pools other => pools.set other.1
        ((heap other.2).fillerRevenueUsdPerHour.getD 0 : ℚ≥0)) start).getD candidate.1 0 =
        ((heap candidate.2).fillerRevenueUsdPerHour.getD 0 : ℚ≥0) := by
    intro rest
    induction rest with
    | nil =>
      intro start _ reached
      exact reached.resolve_left (List.not_mem_nil)
    | cons other rest induction =>
      intro start listed reached
      apply induction _ fun later laterMember => listed later (List.mem_cons_of_mem _ laterMember)
      by_cases model : other.1 = candidate.1
      · right
        rw [PyDict.getD_set, if_pos model.symm,
          same other (listed other (List.mem_cons_self ..)) model]
      · rcases reached with later | done
        · left
          rcases List.mem_cons.mp later with isOther | later
          · exact absurd (congrArg Prod.fst isOther).symm model
          · exact later
        · right
          rw [PyDict.getD_set, if_neg fun equal => model equal.symm]
          exact done
  exact folded candidates .empty (fun _ => id) (.inl member)

/-! ## The pay of one result -/

theorem payJobResult_congr (env : Env) {leftPools rightPools : Pools} (shares : Shares)
    {leftMultipliers rightMultipliers : PyDict BucketKey ℚ} (result : JobResult)
    (mining : leftPools.totalMiningScore = rightPools.totalMiningScore)
    (counts : ∀ key, leftPools.unrentedCountByBucket.getD key 0 =
      rightPools.unrentedCountByBucket.getD key 0)
    (multipliers : ∀ key, leftMultipliers.getD key 0 = rightMultipliers.getD key 0) :
    payJobResult env leftPools (withMultipliers shares leftMultipliers) result =
      payJobResult env rightPools (withMultipliers shares rightMultipliers) result := by
  simp only [payJobResult, paySpot, spotAmounts, payRental, rentalAmounts, payMining, mining,
    counts, withMultipliers, multipliers]
  rfl

theorem mem_foldl_addMinerIncentive (items : List (String × ResultRef))
    (incentive : String × ResultRef → Option ℚ) (start : PyDict String ℚ) (hotkey : String) :
    hotkey ∈ (items.foldl (fun incentives item =>
        addMinerIncentive item.1 (incentive item) incentives) start).keys ↔
      hotkey ∈ start.keys ∨ ∃ item ∈ items, item.1 = hotkey ∧ (incentive item).isSome = true := by
  induction items generalizing start with
  | nil => simp
  | cons item rest induction =>
    rw [List.foldl_cons, induction, List.exists_mem_cons_iff]
    cases paid : incentive item with
    | none => simp [addMinerIncentive]
    | some amount =>
      simp only [addMinerIncentive, PyDict.add, PyDict.mem_keys_set, Option.isSome_some,
        and_true, eq_comm]
      tauto

theorem mem_finalState_minerIncentives (env : Env) (fleet : Fleet) (hotkey : String) :
    hotkey ∈ (finalState env fleet).minerIncentives.keys ↔
      ∃ item ∈ fleet.scored, item.1 = hotkey ∧ (paid env fleet item).incentive.isSome = true := by
  change hotkey ∈ (paidState env fleet).minerIncentives.keys ↔ _
  rw [paidState_eq]
  refine (mem_foldl_addMinerIncentive _ (fun item => (paid env fleet item).incentive) _ _).trans ?_
  rw [settledState_minerIncentives]
  exact or_iff_right List.not_mem_nil

/-! ## Two runs -/

theorem id_view : ReassignmentView id where
  move := fun _ _ _ _ => (congrFun Option.map_id _).symm
  gpuCount := fun _ => rfl
  countBucket := fun _ => rfl
  uuid := fun _ => rfl

/-- The executor uuids of the nodes are pairwise distinct. -/
def DistinctUuids (fleet : Fleet) : Prop :=
  (fleet.entries.map fun entry => (fleet.nodes entry.2).executorInfo.uuid).Nodup

/-- Spot candidates of one model report the same filler earnings of the model. -/
def SameSpotPools (env : Env) (fleet : Fleet) : Prop :=
  ∀ first ∈ fleet.scored, ∀ second ∈ fleet.scored,
    (prepared env fleet first).spotPayCandidate = true →
    (prepared env fleet second).spotPayCandidate = true →
    (prepared env fleet first).baseModel = (prepared env fleet second).baseModel →
    (prepared env fleet first).fillerRevenueUsdPerHour =
      (prepared env fleet second).fillerRevenueUsdPerHour

theorem prepared_uuid (env : Env) (fleet : Fleet) (item : String × ResultRef) :
    (prepared env fleet item).executorInfo.uuid = (fleet.nodes item.2.id).executorInfo.uuid := by
  rw [← (prepared_preparedResult item).frame]
  rcases item with ⟨hotkey, ref⟩
  cases ref with
  | node id =>
    cases free : fleet.freeGpuCount id <;> simp only [Fleet.portion, free] <;> rfl
  | remainder id =>
    cases free : fleet.freeGpuCount id <;> simp only [Fleet.portion, free] <;> rfl

theorem DistinctUuids.item_unique (distinct : DistinctUuids fleet)
    {first second : String × ResultRef} (firstMember : first ∈ fleet.scored)
    (secondMember : second ∈ fleet.scored)
    (firstIdle : (prepared env fleet first).isRented = false)
    (secondIdle : (prepared env fleet second).isRented = false)
    (sameUuid : (prepared env fleet first).executorInfo.uuid =
      (prepared env fleet second).executorInfo.uuid) : first = second := by
  rw [prepared_uuid, prepared_uuid] at sameUuid
  rw [prepared_isRented] at firstIdle secondIdle
  have entry := List.inj_on_of_nodup_map distinct (fleet.mem_entries_of_mem_scored firstMember)
    (fleet.mem_entries_of_mem_scored secondMember) sameUuid
  have sameId : first.2.id = second.2.id := congrArg Prod.snd entry
  apply fleet.hotkey_unique firstMember secondMember
  rcases first with ⟨firstHotkey, firstRef⟩
  rcases second with ⟨secondHotkey, secondRef⟩
  dsimp only at sameId firstIdle secondIdle ⊢
  cases firstRef <;> cases secondRef <;> cases sameId
  · rfl
  · have rented := isRented_of_split (fleet.mem_scored_remainder.mp secondMember).2
    rw [firstIdle] at rented
    cases rented
  · have rented := isRented_of_split (fleet.mem_scored_remainder.mp firstMember).2
    rw [secondIdle] at rented
    cases rented
  · rfl

section Reordering

variable {left right : Fleet} (reordered : left.Reordered right)
include reordered

variable (env) in
theorem candidatesOf_perm (condition : JobResult → Bool) :
    (candidatesOf left.scored (prepared env left) condition).Perm
      (candidatesOf right.scored (prepared env right) condition) := by
  rw [candidatesOf, candidatesOf, reordered.prepared_eq]
  exact (reordered.scored_perm.filter _).map _

variable (env) in
theorem preparedState_reordered :
    Alike id (· ∈ left.scored.map Prod.snd) (preparedState env left) (preparedState env right) where
  heap := by
    intro ref listed
    rcases List.mem_map.mp listed with ⟨item, member, rfl⟩
    rw [preparedState_heap env left member,
      preparedState_heap env right (reordered.scored_perm.mem_iff.mp member),
      reordered.prepared_eq]
  counts := by
    intro key
    rw [preparedState_pools, preparedState_pools, countAll_unrentedCount, countAll_unrentedCount,
      reordered.prepared_eq, (reordered.scored_perm.map _).sum_eq]

theorem SameSpotPools.transfer (samePools : SameSpotPools env left) : SameSpotPools env right := by
  intro first firstMember second secondMember
  rw [← reordered.prepared_eq]
  exact samePools first (reordered.scored_perm.mem_iff.mpr firstMember) second
    (reordered.scored_perm.mem_iff.mpr secondMember)

omit reordered in
theorem spotPool_eq (samePools : SameSpotPools env fleet) (member : item ∈ fleet.scored)
    (spot : (prepared env fleet item).spotPayCandidate = true) :
    (spotPoolByModel (reassignedState env fleet).heap
        (candidatesOf fleet.scored (prepared env fleet) (·.spotPayCandidate))).getD
        (prepared env fleet item).baseModel 0 =
      ((prepared env fleet item).fillerRevenueUsdPerHour.getD 0 : ℚ≥0) := by
  have kept : ∀ other ∈ fleet.scored,
      ((reassignedState env fleet).heap other.2).fillerRevenueUsdPerHour =
        (prepared env fleet other).fillerRevenueUsdPerHour := by
    intro other otherMember
    rw [← ((reassignedState_spec env fleet).rebucketed other.2).frame,
      ← preparedState_heap env fleet otherMember]
    rfl
  have pool := spotPoolByModel_getD (mem_candidatesOf.mpr ⟨item, member, spot, rfl⟩) (by
    intro candidate listed sameModel
    rcases mem_candidatesOf.mp listed with ⟨other, otherMember, otherSpot, rfl⟩
    rw [kept other otherMember, kept item member]
    exact congrArg (Option.getD · 0)
      (samePools other otherMember item member otherSpot spot sameModel))
  rw [kept item member] at pool
  exact pool

end Reordering

/-- A completed run and a reordered one whose candidates sort and pool alike. -/
structure Reruns (env : Env) (left right : Fleet) : Prop where
  reordered : left.Reordered right
  distinct : DistinctUuids left
  samePools : SameSpotPools env left
  completes : Completes env left

namespace Reruns

variable {left right : Fleet} (runs : Reruns env left right)
include runs

theorem sortedByUuid_reordered :
    sortedByUuid (preparedState env left).heap
        (preparedState env left).pools.splitFallbackCandidates =
      sortedByUuid (preparedState env right).heap
        (preparedState env right).pools.splitFallbackCandidates := by
  rw [preparedState_splitFallbackCandidates, preparedState_splitFallbackCandidates]
  have idle : ∀ item ∈ left.scored, ((prepared env left item).isCounted &&
      isSplitFallbackCandidate (prepared env left item)) = true →
      (prepared env left item).isRented = false := by
    intro item member condition
    simp only [JobResult.isCounted, Bool.and_eq_true] at condition
    exact ((runs.completes.priced member).eligible condition.1.1.1.2).1
  have sorted := sortedByUuid_eq_of_perm (preparedState env left).heap
    (candidatesOf_perm env runs.reordered fun result =>
      result.isCounted && isSplitFallbackCandidate result) (by
    intro first firstListed second secondListed sameUuid
    rcases mem_candidatesOf.mp firstListed with ⟨item, member, condition, rfl⟩
    rcases mem_candidatesOf.mp secondListed with ⟨other, otherMember, otherCondition, rfl⟩
    rw [preparedState_heap env left member, preparedState_heap env left otherMember] at sameUuid
    rw [runs.distinct.item_unique member otherMember (idle item member condition)
      (idle other otherMember otherCondition) sameUuid])
  rw [sorted]
  apply sortedByUuid_congr
  intro candidate listed
  rcases mem_candidatesOf.mp listed with ⟨item, member, -, rfl⟩
  have leftMember := runs.reordered.scored_perm.mem_iff.mpr member
  have same := (preparedState_reordered env runs.reordered).heap item.2
    (List.mem_map_of_mem leftMember)
  exact congrArg (·.executorInfo.uuid) same

theorem reassignedState_reordered :
    Alike id (· ∈ left.scored.map Prod.snd) (reassignedState env left)
      (reassignedState env right) := by
  apply reassignSplitCandidates_alike env id_view
    (runs.sortedByUuid_reordered) _ (preparedState_reordered env runs.reordered)
  intro candidate listed
  rw [preparedState_splitFallbackCandidates] at listed
  rcases mem_candidatesOf.mp listed with ⟨item, member, -, rfl⟩
  exact List.mem_map.mpr ⟨item, member, rfl⟩

theorem spotRateSum_reordered (baseModel : String) :
    (spotRateSumByModel (reassignedState env left).heap
        (candidatesOf left.scored (prepared env left) (·.spotPayCandidate))).getD baseModel 0 =
      (spotRateSumByModel (reassignedState env right).heap
        (candidatesOf right.scored (prepared env right) (·.spotPayCandidate))).getD baseModel 0 := by
  have same := runs.reassignedState_reordered.heap
  have permuted := candidatesOf_perm env runs.reordered (·.spotPayCandidate)
  rw [spotRateSumByModel_getD, spotRateSumByModel_getD, ← (permuted.map _).sum_eq]
  apply congrArg List.sum
  apply List.map_congr_left
  intro candidate listed
  rcases mem_candidatesOf.mp listed with ⟨item, member, -, rfl⟩
  have sameResult := same item.2 (List.mem_map_of_mem member)
  simp only [id_eq] at sameResult
  rw [sameResult]

theorem multiplierIn_reordered : multiplierIn (settledState env left).shares =
    multiplierIn (settledState env right).shares := by
  funext key
  rw [settledState_multiplier, settledState_multiplier, settledState_pools, settledState_pools,
    runs.reassignedState_reordered.counts]

theorem settledState_heap_reordered (member : item ∈ left.scored) :
    (settledState env left).heap item.2 = (settledState env right).heap item.2 := by
  have rightMember := runs.reordered.scored_perm.mem_iff.mp member
  have sameResult := runs.reassignedState_reordered.heap item.2
    (List.mem_map_of_mem member)
  have samePrepared := congrFun (runs.reordered.prepared_eq env) item
  simp only [id_eq] at sameResult
  cases spot : (prepared env left item).spotPayCandidate with
  | false =>
    have rightSpot := samePrepared ▸ spot
    rw [settledState_heap_of_not_spot member spot,
      settledState_heap_of_not_spot rightMember rightSpot, sameResult]
  | true =>
    have rightSpot := samePrepared ▸ spot
    have rightPools := runs.samePools.transfer runs.reordered
    rw [settledState_heap_of_spot member spot, settledState_heap_of_spot rightMember rightSpot,
      spotPoolMultiplierOf, spotPoolMultiplierOf, spotPool_eq runs.samePools member spot,
      spotPool_eq rightPools rightMember rightSpot, runs.spotRateSum_reordered, sameResult,
      samePrepared]

theorem sumOver_reordered (weight : JobResult → ℚ) :
    sumOver Prod.snd (fun _ => weight) left.scored (settledState env left).heap =
      sumOver Prod.snd (fun _ => weight) right.scored (settledState env right).heap := by
  rw [sumOver, sumOver, ← (runs.reordered.scored_perm.map _).sum_eq]
  apply congrArg List.sum
  apply List.map_congr_left
  intro item member
  rw [runs.settledState_heap_reordered member]

theorem totalMiningScore_reordered : (settledState env left).pools.totalMiningScore =
    (settledState env right).pools.totalMiningScore := by
  rw [settledState_totalMiningScore runs.completes,
    settledState_totalMiningScore ((runs.reordered.completes_iff env).mp runs.completes)]
  exact runs.sumOver_reordered miningClaim

theorem settledState_shares_reordered :
    (settledState env left).shares = withMultipliers (settledState env right).shares
      (settledState env left).shares.capMultiplierByBucket := by
  have rightCompletes := (runs.reordered.completes_iff env).mp runs.completes
  have cost : (settledState env left).shares.totalRentalCost =
      (settledState env right).shares.totalRentalCost := by
    rw [settledState_totalRentalCost runs.completes, settledState_totalRentalCost rightCompletes,
      runs.multiplierIn_reordered]
    exact runs.sumOver_reordered _
  have unbucketed : (settledState env left).shares.unbucketedRentalCost =
      (settledState env right).shares.unbucketedRentalCost := by
    rw [settledState_unbucketedRentalCost runs.completes,
      settledState_unbucketedRentalCost rightCompletes,
      runs.multiplierIn_reordered]
    exact runs.sumOver_reordered _
  have rightShares : (settledState env right).shares = _ := settledState_shares_eq
  conv_lhs => rw [settledState_shares_eq, cost, unbucketed]
  conv_rhs => rw [rightShares]
  rfl

theorem paid_reordered (member : item ∈ left.scored) :
    paid env left item = paid env right item := by
  rw [paid, runs.settledState_heap_reordered member,
    runs.settledState_shares_reordered]
  apply payJobResult_congr
  · exact runs.totalMiningScore_reordered
  · exact runs.reassignedState_reordered.counts
  · exact congrFun (runs.multiplierIn_reordered)

theorem finalState_heap_reordered {entry : String × ℕ} (member : entry ∈ left.entries) :
    (finalState env left).heap (.node entry.2) = (finalState env right).heap (.node entry.2) := by
  have samePaid : ∀ ref, (entry.1, ref) ∈ left.scored →
      (paidState env left).heap ref = (paidState env right).heap ref := by
    intro ref listed
    have leftPaid := paidState_heap env left listed
    have rightPaid := paidState_heap env right (runs.reordered.scored_perm.mem_iff.mp listed)
    rw [leftPaid, rightPaid, runs.paid_reordered listed]
  have node := samePaid (.node entry.2) (left.mem_scored_node.mpr member)
  have sameIds : entry.2 ∈ right.splitPortions.map SplitPortions.id ↔
      entry.2 ∈ left.splitPortions.map SplitPortions.id := by
    rw [mem_splitPortions_ids, mem_splitPortions_ids, ← Fleet.entries_map_snd,
      ← Fleet.entries_map_snd, runs.reordered.split_eq, (runs.reordered.entries_perm.map _).mem_iff]
  simp only [finalState, mergedState, mergedHeap, sameIds, node]
  split_ifs with listed
  · have split := ((mem_splitPortions_ids left).mp listed).2
    rw [samePaid _ (left.mem_scored_remainder.mpr ⟨member, split⟩)]
  · rfl

theorem minerIncentives_reordered (hotkey : String) :
    (finalState env left).minerIncentives.get? hotkey =
      (finalState env right).minerIncentives.get? hotkey := by
  have sum : (finalState env left).minerIncentives.getD hotkey 0 =
      (finalState env right).minerIncentives.getD hotkey 0 := by
    rw [finalState_minerIncentives, finalState_minerIncentives,
      ← ((runs.reordered.scored_perm.filter _).map _).sum_eq]
    apply congrArg List.sum
    apply List.map_congr_left
    intro item member
    rw [portionIncentive, portionIncentive,
      runs.paid_reordered (List.mem_filter.mp member).1]
  have presence : hotkey ∈ (finalState env left).minerIncentives.keys ↔
      hotkey ∈ (finalState env right).minerIncentives.keys := by
    rw [mem_finalState_minerIncentives, mem_finalState_minerIncentives]
    constructor
    · rintro ⟨item, member, owns, isPaid⟩
      rw [runs.paid_reordered member] at isPaid
      exact ⟨item, runs.reordered.scored_perm.mem_iff.mp member, owns, isPaid⟩
    · rintro ⟨item, member, owns, isPaid⟩
      have leftMember := runs.reordered.scored_perm.mem_iff.mpr member
      rw [← runs.paid_reordered leftMember] at isPaid
      exact ⟨item, leftMember, owns, isPaid⟩
  exact PyDict.get?_eq_of_getD presence sum

end Reruns

/-- Neither the order of the hotkeys nor the order of a miner's results matters. -/
theorem calculateMiningScores_order_independent (env : Env) {left right : Fleet}
    (reordered : left.Reordered right) (distinct : DistinctUuids left)
    (samePools : SameSpotPools env left) :
    (Succeeds (calculateMiningScores env left) ↔ Succeeds (calculateMiningScores env right)) ∧
      ∀ leftFinal rightFinal, calculateMiningScores env left = .ok leftFinal →
        calculateMiningScores env right = .ok rightFinal →
        SameOutcome left leftFinal rightFinal := by
  constructor
  · simp only [Succeeds, calculateMiningScores_eq_ok_iff, exists_and_left, exists_eq, and_true]
    exact reordered.completes_iff env
  · intro leftFinal rightFinal leftRun rightRun
    rcases (calculateMiningScores_eq_ok_iff env left).mp leftRun with ⟨completes, rfl⟩
    rcases (calculateMiningScores_eq_ok_iff env right).mp rightRun with ⟨-, rfl⟩
    have runs : Reruns env left right := ⟨reordered, distinct, samePools, completes⟩
    refine ⟨fun entry => runs.finalState_heap_reordered, runs.minerIncentives_reordered,
      ?_, ?_, ?_⟩ <;>
    · rw [finalState_shares, finalState_shares, runs.settledState_shares_reordered]
      rfl

def sampleMiners : Fleet where
  nodes := Sample.fleet.nodes
  jobResults := [("first", [0, 1]), ("second", [2, 3])]
  hotkeysNodup := by decide
  nodesNodup := by decide

def sampleMinersReordered : Fleet where
  nodes := Sample.fleet.nodes
  jobResults := [("second", [3, 2]), ("first", [0, 1])]
  hotkeysNodup := by decide
  nodesNodup := by decide

theorem sampleMiners_reordered : sampleMiners.Reordered sampleMinersReordered where
  nodes := rfl
  jobResults := ⟨[("second", [2, 3]), ("first", [0, 1])], .swap _ _ _,
    .cons ⟨rfl, .swap _ _ _⟩ (.cons ⟨rfl, .refl _⟩ .nil)⟩

theorem sampleMiners_order_independent :
    ∃ leftFinal rightFinal,
      calculateMiningScores Sample.env sampleMiners = .ok leftFinal ∧
      calculateMiningScores Sample.env sampleMinersReordered = .ok rightFinal ∧
      SameOutcome sampleMiners leftFinal rightFinal := by
  have samePools : SameSpotPools Sample.env sampleMiners := by
    unfold SameSpotPools
    decide +kernel
  have independent := calculateMiningScores_order_independent Sample.env sampleMiners_reordered
    (by unfold DistinctUuids; decide) samePools
  have leftSucceeds := (calculateMiningScores_succeeds_iff Sample.env sampleMiners).mpr
    (by decide +kernel)
  rcases leftSucceeds with ⟨leftFinal, leftRun⟩
  rcases independent.1.mp ⟨leftFinal, leftRun⟩ with ⟨rightFinal, rightRun⟩
  exact ⟨leftFinal, rightFinal, leftRun, rightRun,
    independent.2 leftFinal rightFinal leftRun rightRun⟩

end RentalPrice

end Lium
