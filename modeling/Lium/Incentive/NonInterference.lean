import Lium.Incentive.Conservation
import Lium.Incentive.FillerErasure
import Lium.Incentive.TwoRuns

/-! # Non-interference of the unbucketed pool

Two fleets that differ in their idle spot nodes and in the filler revenues of the other
nodes are scored alike, as far as the mining pool and the buckets go.
-/

namespace Lium

open Scoring

variable {left right : Fleet} {fleet : Fleet} {id : ℕ}

namespace Fleet

def offPath (fleet : Fleet) (id : ℕ) : Bool := !onSpotPayPath (.fresh (fleet.nodes id))

def offPathLists (fleet : Fleet) : List (String × List ℕ) :=
  (fleet.jobResults.map fun entry => (entry.1, entry.2.filter fleet.offPath)).filter
    fun entry => !entry.2.isEmpty

/-- Two fleets that differ in the presence and contents of idle spot nodes on the spot pay
path, and in the filler revenues of the other nodes. -/
structure SameOffPath (left right : Fleet) : Prop where
  lists : left.offPathLists = right.offPathLists
  nodes : ∀ entry ∈ left.offPathLists, ∀ id ∈ entry.2,
    (left.nodes id).eraseFiller = (right.nodes id).eraseFiller

def offPathItems (fleet : Fleet) : List (String × ResultRef) :=
  fleet.scored.filter fun item => !onSpotPayPath (fleet.portion item.2)

theorem onSpotPayPath_portion_node (fleet : Fleet) (id : ℕ) :
    onSpotPayPath (fleet.portion (.node id)) = onSpotPayPath (.fresh (fleet.nodes id)) := by
  simp only [portion]
  split <;> rfl

theorem offPath_of_split (split : fleet.isPartiallyRentedSplit id = true) :
    fleet.offPath id = true := by
  rcases Option.isSome_iff_exists.mp split with ⟨count, free⟩
  simp only [freeGpuCount, RentalPrice.freeGpuCountOfPartiallyRentedSplit,
    Option.ite_none_right_eq_some] at free
  simp [offPath, onSpotPayPath, JobResult.fresh, free.1.1]

theorem onSpotPayPath_portion_remainder (split : fleet.isPartiallyRentedSplit id = true) :
    onSpotPayPath (fleet.portion (.remainder id)) = false := by
  rcases Option.isSome_iff_exists.mp split with ⟨freeGpuCount, free⟩
  simp [portion, free, onSpotPayPath, RentalPrice.freePortion]

theorem filter_expandIds (fleet : Fleet) (ids : List ℕ) :
    ((fleet.expandIds ids).filter fun ref => !onSpotPayPath (fleet.portion ref)) =
      fleet.expandIds (ids.filter fleet.offPath) := by
  have splits : (ids.filter fleet.offPath).filter fleet.isPartiallyRentedSplit =
      ids.filter fleet.isPartiallyRentedSplit := by
    rw [List.filter_filter]
    apply List.filter_congr
    intro id _
    cases split : fleet.isPartiallyRentedSplit id with
    | false => rfl
    | true => rw [offPath_of_split split, Bool.and_self]
  rw [expandIds, expandIds, List.filter_append, splits]
  congr 1
  · rw [List.filter_map]
    congr 1
    apply List.filter_congr
    intro id _
    rw [Function.comp_apply, onSpotPayPath_portion_node, offPath]
  · rw [List.filter_eq_self]
    intro ref member
    rcases List.mem_map.mp member with ⟨id, idMember, rfl⟩
    rw [onSpotPayPath_portion_remainder (List.mem_filter.mp idMember).2, Bool.not_false]

theorem flatMap_filter_nonempty {α β : Type} (expand : α → List ℕ → List β)
    (empty : ∀ key, expand key [] = []) (lists : List (α × List ℕ)) :
    ((lists.filter fun entry => !entry.2.isEmpty).flatMap fun entry => expand entry.1 entry.2) =
      lists.flatMap fun entry => expand entry.1 entry.2 := by
  induction lists with
  | nil => rfl
  | cons entry rest induction =>
    rcases entry with ⟨key, ids⟩
    cases ids with
    | nil => simpa [empty] using induction
    | cons id ids => simpa using induction

theorem offPathItems_eq (fleet : Fleet) :
    fleet.offPathItems =
      fleet.offPathLists.flatMap fun entry => (fleet.expandIds entry.2).map (entry.1, ·) := by
  have nonempty := flatMap_filter_nonempty
    (fun (hotkey : String) ids => (fleet.expandIds ids).map (hotkey, ·)) (fun _ => rfl)
    (fleet.jobResults.map fun entry => (entry.1, entry.2.filter fleet.offPath))
  rw [offPathLists, nonempty, offPathItems, scored, expandedRefs, List.flatMap_map,
    List.flatMap_map, List.filter_flatMap]
  congr 1
  funext entry
  rw [← filter_expandIds, List.filter_map]
  rfl

/-! ## Two fleets that are the same off the path -/

theorem freeGpuCount_of_erased
    (erased : (left.nodes id).eraseFiller = (right.nodes id).eraseFiller) :
    left.freeGpuCount id = right.freeGpuCount id := by
  have oblivious : ∀ node : ValidatedNode,
      RentalPrice.freeGpuCountOfPartiallyRentedSplit node.eraseFiller =
        RentalPrice.freeGpuCountOfPartiallyRentedSplit node := fun _ => rfl
  rw [freeGpuCount, freeGpuCount, ← oblivious, erased, oblivious]

theorem portion_of_erased {ref : ResultRef}
    (erased : (left.nodes ref.id).eraseFiller = (right.nodes ref.id).eraseFiller) :
    (left.portion ref).eraseFiller = (right.portion ref).eraseFiller := by
  have free := freeGpuCount_of_erased erased
  have fresh : (JobResult.fresh (left.nodes ref.id)).eraseFiller =
      (JobResult.fresh (right.nodes ref.id)).eraseFiller := congrArg JobResult.fresh erased
  cases ref with
  | node id =>
    simp only [ResultRef.id] at free fresh
    simp only [portion, free]
    split
    · exact fresh
    · exact congrArg RentalPrice.rentedPortion fresh
  | remainder id =>
    simp only [ResultRef.id] at free fresh
    simp only [portion, free]
    split
    · exact fresh
    · exact congrArg (RentalPrice.freePortion · _) fresh

namespace SameOffPath

variable (same : SameOffPath left right)
include same

theorem expandIds_eq {entry : String × List ℕ} (listed : entry ∈ left.offPathLists) :
    left.expandIds entry.2 = right.expandIds entry.2 := by
  rw [expandIds, expandIds]
  congr 2
  apply List.filter_congr
  intro id member
  exact congrArg Option.isSome (freeGpuCount_of_erased (same.nodes entry listed id member))

theorem offPathItems_eq : left.offPathItems = right.offPathItems := by
  rw [left.offPathItems_eq, right.offPathItems_eq, ← same.lists]
  apply List.flatMap_congr
  intro entry listed
  rw [same.expandIds_eq listed]

variable {item : String × ResultRef}

section

variable (member : item ∈ left.offPathItems)
include member

theorem nodes_eq :
    (left.nodes item.2.id).eraseFiller = (right.nodes item.2.id).eraseFiller := by
  rw [left.offPathItems_eq] at member
  rcases List.mem_flatMap.mp member with ⟨entry, listed, expanded⟩
  rcases List.mem_map.mp expanded with ⟨ref, refMember, rfl⟩
  apply same.nodes entry listed
  rcases List.mem_append.mp refMember with isNode | isRemainder
  · rcases List.mem_map.mp isNode with ⟨id, idMember, rfl⟩
    exact idMember
  · rcases List.mem_map.mp isRemainder with ⟨id, idMember, rfl⟩
    exact (List.mem_filter.mp idMember).1

theorem portion_eq :
    (left.portion item.2).eraseFiller = (right.portion item.2).eraseFiller :=
  portion_of_erased (same.nodes_eq member)

theorem portion_isRented_eq :
    (left.portion item.2).isRented = (right.portion item.2).isRented :=
  congrArg (·.isRented) (same.portion_eq member)

end

end SameOffPath

end Fleet

structure SecureFields where
  miningScore : Option ℚ
  countBucket : Option ℕ
  unrentedCapMultiplier : Option ℚ
  effectiveRate : Option ℚ
  miningShare : Option ℚ

def JobResult.secureFields (result : JobResult) : SecureFields where
  miningScore := result.miningScore
  countBucket := result.countBucket
  unrentedCapMultiplier := result.unrentedCapMultiplier
  effectiveRate := result.effectiveRate
  miningShare := result.miningShare

/-- `rental_share * gpu_count * effective_rate / total_rental_cost`. -/
def IncentiveState.bucketTerm (state : IncentiveState) (ref : ResultRef) : ℚ :=
  state.shares.rentalShare * (state.heap ref).gpuCount * (state.heap ref).effectiveRateValue /
    state.shares.totalRentalCost

structure SameSecurePay (items : List (String × ResultRef)) (left right : IncentiveState) :
    Prop where
  rentalShare : left.shares.rentalShare = right.shares.rentalShare
  totalRentalCost : left.shares.totalRentalCost = right.shares.totalRentalCost
  totalMiningScore : left.pools.totalMiningScore = right.pools.totalMiningScore
  secureFields : ∀ item ∈ items,
    (left.heap item.2).secureFields = (right.heap item.2).secureFields
  rented : ∀ item ∈ items, (left.heap item.2).isRented = true →
    (left.heap item.2).incentive = (right.heap item.2).incentive
  bucketTerm : ∀ item ∈ items, (left.heap item.2).isRented = false →
    left.bucketTerm item.2 = right.bucketTerm item.2

namespace RentalPrice

open Raising CellSums

/-! ## What the post-pass sets off the path -/

def paidSecureFields (env : Env) (multiplier : BucketKey → ℚ) (result : JobResult) :
    SecureFields :=
  if result.eligibleForRentalShare then
    { result.secureFields with
      unrentedCapMultiplier := some (multiplier result.bucketKey)
      effectiveRate := some (secureRate multiplier result) }
  else { result.secureFields with miningShare := some (miningShare env) }

theorem payMining_kept (env : Env) (pools : Pools) (result : JobResult) :
    payMining env pools result =
      { result with
        miningShare := some (miningShare env)
        totalMiningScore := some pools.totalMiningScore
        incentive := (payMining env pools result).incentive } := by
  simp only [payMining]
  split <;> rfl

theorem payJobResult_secureFields {env : Env} {result : JobResult} (priced : Priced env result)
    (notSpot : result.spotPayCandidate = false) (pools : Pools) (shares : Shares) :
    (payJobResult env pools shares result).secureFields =
      paidSecureFields env (multiplierIn shares) result := by
  rcases payJobResult_eq_withReasons env pools shares result with ⟨reasons, equal⟩
  rw [equal]
  change (payAmounts env pools shares result).secureFields = _
  rw [payAmounts, notSpot, if_neg Bool.false_ne_true, paidSecureFields]
  cases eligible : result.eligibleForRentalShare with
  | false =>
    rw [Bool.not_false, if_pos rfl, if_neg Bool.false_ne_true, payMining_kept]
    rfl
  | true =>
    rw [Bool.not_true, if_neg Bool.false_ne_true, if_pos rfl]
    simp only [rentalAmounts, paidBucketKey_eq priced eligible]
    split_ifs <;> rfl

/-! ## One run, off the path -/

section OneRun

variable {env : Env} {item : String × ResultRef}

theorem mem_scored_of_offPath (member : item ∈ fleet.offPathItems) :
    item ∈ fleet.scored := (List.mem_filter.mp member).1

theorem offPath_portion (member : item ∈ fleet.offPathItems) :
    onSpotPayPath (fleet.portion item.2) = false := by
  simpa using (List.mem_filter.mp member).2

theorem sum_scored_eq {M : Type} [AddCommMonoid M] {weight : String × ResultRef → M}
    (vanishes : ∀ item ∈ fleet.scored, onSpotPayPath (fleet.portion item.2) = true →
      weight item = 0) :
    (fleet.scored.map weight).sum = (fleet.offPathItems.map weight).sum := by
  rw [Fleet.offPathItems, sum_filter_map]
  apply congrArg List.sum
  apply List.map_congr_left
  intro item member
  cases onPath : onSpotPayPath (fleet.portion item.2) with
  | false => rw [Bool.not_false, if_pos rfl]
  | true => rw [Bool.not_true, if_neg Bool.false_ne_true, vanishes item member onPath]

variable (env) in
theorem onSpotPayPath_prepared (item : String × ResultRef) :
    onSpotPayPath (prepared env fleet item) = onSpotPayPath (fleet.portion item.2) := by
  rw [← (prepared_preparedResult item).frame]
  rfl

section

variable (completes : Completes env fleet)
include completes

theorem Completes.not_spot
    (member : item ∈ fleet.offPathItems) :
    (prepared env fleet item).spotPayCandidate = false := by
  by_contra isSpot
  have priced := completes.priced (mem_scored_of_offPath member)
  have onPath := (priced.spot (by simpa using isSpot)).2.1
  rw [onSpotPayPath_prepared, offPath_portion member] at onPath
  cases onPath

theorem Completes.not_eligible
    (member : item ∈ fleet.scored) (onPath : onSpotPayPath (fleet.portion item.2) = true) :
    (prepared env fleet item).eligibleForRentalShare = false := by
  by_contra eligible
  have offPath := ((completes.priced member).eligible (by simpa using eligible)).2.1
  rw [onSpotPayPath_prepared, onPath] at offPath
  cases offPath

theorem Completes.settled_heap
    (member : item ∈ fleet.offPathItems) :
    (settledState env fleet).heap item.2 = (reassignedState env fleet).heap item.2 :=
  settledState_heap_of_not_spot (mem_scored_of_offPath member) (completes.not_spot member)

theorem Completes.counts_eq (key : BucketKey) :
    (preparedState env fleet).pools.unrentedCountByBucket.getD key 0 =
      (fleet.offPathItems.map fun item => gpusIn key (prepared env fleet item)).sum := by
  rw [preparedState_pools, countAll_unrentedCount, PyDict.getD_empty, Nat.zero_add]
  apply sum_scored_eq
  intro item member onPath
  have notEligible := completes.not_eligible member onPath
  simp [JobResult.isCounted, notEligible]

theorem Completes.splitFallbackCandidates_eq :
    (preparedState env fleet).pools.splitFallbackCandidates =
      candidatesOf fleet.offPathItems (prepared env fleet)
        fun result => result.isCounted && isSplitFallbackCandidate result := by
  rw [preparedState_splitFallbackCandidates, candidatesOf, candidatesOf, Fleet.offPathItems,
    List.filter_filter]
  congr 1
  apply List.filter_congr
  intro item member
  cases onPath : onSpotPayPath (fleet.portion item.2) with
  | false => simp
  | true =>
    have notEligible := completes.not_eligible member onPath
    simp [JobResult.isCounted, notEligible]

theorem Completes.miningClaim_onPath
    (item : String × ResultRef) (member : item ∈ fleet.scored)
    (onPath : onSpotPayPath (fleet.portion item.2) = true) :
    miningClaim ((settledState env fleet).heap item.2) = 0 := by
  have priced := completes.priced member
  have prepared_onPath := (onSpotPayPath_prepared env item).trans onPath
  rw [(completes.settledResult member).kept miningClaim fun _ _ => rfl]
  apply priced.outOfMining
  simp only [onSpotPayPath, Bool.and_eq_true, Bool.not_eq_true'] at prepared_onPath
  exact prepared_onPath.1.2

theorem Completes.bucketClaim_onPath
    (multiplier : BucketKey → ℚ) (item : String × ResultRef) (member : item ∈ fleet.scored)
    (onPath : onSpotPayPath (fleet.portion item.2) = true) :
    bucketClaim multiplier ((settledState env fleet).heap item.2) = 0 := by
  have kept := (completes.settledResult member).kept (·.eligibleForRentalShare) fun _ _ => rfl
  simp only [completes.not_eligible member onPath] at kept
  rw [bucketClaim, kept, if_neg Bool.false_ne_true]

end

theorem splitIncentiveAcrossPools_kept (result : JobResult) :
    (splitIncentiveAcrossPools result).secureFields = result.secureFields ∧
      (splitIncentiveAcrossPools result).isRented = result.isRented ∧
      (splitIncentiveAcrossPools result).gpuCount = result.gpuCount := by
  simp only [splitIncentiveAcrossPools]
  split <;> exact ⟨rfl, rfl, rfl⟩

theorem paid_kept (item : String × ResultRef) :
    (paid env fleet item).isRented = ((settledState env fleet).heap item.2).isRented ∧
      (paid env fleet item).gpuCount = ((settledState env fleet).heap item.2).gpuCount := by
  rcases payJobResult_eq_withReasons env (settledState env fleet).pools
    (settledState env fleet).shares ((settledState env fleet).heap item.2) with ⟨reasons, equal⟩
  rw [paid, equal]
  simp only [JobResult.withReasons, payAmounts]
  split_ifs
  · exact ⟨rfl, rfl⟩
  · rw [payMining_kept]
    exact ⟨rfl, rfl⟩
  · simp only [rentalAmounts]
    split_ifs <;> exact ⟨rfl, rfl⟩

theorem finalState_heap_kept (member : item ∈ fleet.scored) :
    ((finalState env fleet).heap item.2).secureFields = (paid env fleet item).secureFields ∧
      ((finalState env fleet).heap item.2).isRented = (paid env fleet item).isRented := by
  have stored := paidState_heap env fleet member
  have kept := splitIncentiveAcrossPools_kept (paid env fleet item)
  rw [← stored] at kept
  rcases item with ⟨hotkey, ref⟩
  cases ref with
  | remainder id => exact ⟨kept.1, kept.2.1⟩
  | node id =>
    simp only [finalState, mergedState, mergedHeap]
    split_ifs
    · exact ⟨kept.1, kept.2.1⟩
    · exact ⟨kept.1, kept.2.1⟩

theorem finalState_heap_idle (member : item ∈ fleet.scored)
    (idle : (fleet.portion item.2).isRented = false) :
    (finalState env fleet).heap item.2 = splitIncentiveAcrossPools (paid env fleet item) := by
  rw [← paidState_heap env fleet member]
  rcases item with ⟨hotkey, ref⟩
  cases ref with
  | remainder id => rfl
  | node id =>
    have whole : id ∉ fleet.splitPortions.map SplitPortions.id := by
      intro listed
      have rented := isRented_of_split ((mem_splitPortions_ids fleet).mp listed).2
      rw [idle] at rented
      cases rented
    exact if_neg whole

theorem Completes.portionIncentive_of_no_filler (completes : Completes env fleet)
    (member : item ∈ fleet.offPathItems)
    (noFiller : (fleet.portion item.2).fillerRevenuePerGpuHour = none) :
    portionIncentive env fleet item =
      proRata (miningShare env) (settledState env fleet).pools.totalMiningScore
          (miningClaim ((settledState env fleet).heap item.2)) +
        proRata (settledState env fleet).shares.rentalShare
          (settledState env fleet).shares.totalRentalCost
          (bucketClaim (multiplierIn (settledState env fleet).shares)
            ((settledState env fleet).heap item.2)) := by
  have scored := mem_scored_of_offPath member
  have settled := completes.settledResult scored
  have spot : ((settledState env fleet).heap item.2).spotPayCandidate = false := by
    rw [settled.kept (·.spotPayCandidate) fun _ _ => rfl, completes.not_spot member]
  have filler : ((settledState env fleet).heap item.2).fillerRevenuePerGpuHour = none := by
    rw [settled.kept (·.fillerRevenuePerGpuHour) fun _ _ => rfl,
      ← (prepared_preparedResult item).frame]
    exact noFiller
  have noClaim : unbucketedClaim (multiplierIn (settledState env fleet).shares)
      ((settledState env fleet).heap item.2) = 0 := by
    simp [unbucketedClaim, spot, topUpRate, flooredRate, filler]
  rw [completes.portionIncentive_eq scored, noClaim, proRata_zero_claim, add_zero]

theorem Completes.paid_rented (completes : Completes env fleet)
    (member : item ∈ fleet.scored) (rented : (fleet.portion item.2).isRented = true) :
    (paid env fleet item).incentive = ((settledState env fleet).heap item.2).miningScore.map
      (proRata (miningShare env) (settledState env fleet).pools.totalMiningScore) := by
  have priced := (completes.settledResult member).priced
  have notPaid : ((settledState env fleet).heap item.2).paidFromRentalShare = false := by
    by_contra isPaid
    have idle := priced.idle_of_paid (by simpa using isPaid)
    rw [completes.settled_isRented member, rented] at idle
    cases idle
  rw [JobResult.paidFromRentalShare, Bool.or_eq_false_iff] at notPaid
  rcases payJobResult_eq_withReasons env (settledState env fleet).pools
    (settledState env fleet).shares ((settledState env fleet).heap item.2) with ⟨reasons, equal⟩
  rw [paid, equal, ← payMining_incentive completes.totals_nonneg.1 (completes.unpaid member),
    JobResult.withReasons_incentive, payAmounts, notPaid.2, notPaid.1]
  rfl

theorem noFiller_of_split (split : fleet.isPartiallyRentedSplit id = true) :
    (fleet.portion (.remainder id)).fillerRevenuePerGpuHour = none := by
  rcases Option.isSome_iff_exists.mp split with ⟨count, free⟩
  simp [Fleet.portion, free, freePortion]

theorem Completes.paid_secureFields (completes : Completes env fleet)
    (member : item ∈ fleet.offPathItems) :
    (paid env fleet item).secureFields =
      paidSecureFields env (multiplierIn (settledState env fleet).shares)
        ((settledState env fleet).heap item.2) := by
  have settled := completes.settledResult (mem_scored_of_offPath member)
  apply payJobResult_secureFields settled.priced
  rw [settled.kept (·.spotPayCandidate) fun _ _ => rfl, completes.not_spot member]

theorem Completes.final_isRented (completes : Completes env fleet)
    (member : item ∈ fleet.scored) :
    ((finalState env fleet).heap item.2).isRented = (fleet.portion item.2).isRented := by
  rw [(finalState_heap_kept member).2, (paid_kept item).1, completes.settled_isRented member]

theorem final_gpuCount_idle (member : item ∈ fleet.scored)
    (idle : (fleet.portion item.2).isRented = false) :
    ((finalState env fleet).heap item.2).gpuCount =
      ((settledState env fleet).heap item.2).gpuCount := by
  rw [finalState_heap_idle member idle, (splitIncentiveAcrossPools_kept _).2.2,
    (paid_kept item).2]

end OneRun

/-! ## Two runs -/

theorem eraseFiller_view : ReassignmentView JobResult.eraseFiller where
  move := by
    intro config counts baseModel result
    simp only [splitTierMove, apply_ite (Option.map JobResult.eraseFiller), Option.map_none]
    rfl
  gpuCount := fun _ => rfl
  countBucket := fun _ => rfl
  uuid := fun _ => rfl

/-- Completed runs of two fleets that are the same off the path. -/
structure RunsAlike (env : Env) (left right : Fleet) : Prop where
  same : left.SameOffPath right
  leftRun : Completes env left
  rightRun : Completes env right

namespace RunsAlike

variable {env : Env} (runs : RunsAlike env left right)
include runs

variable {item : String × ResultRef}

theorem mem_right (member : item ∈ left.offPathItems) : item ∈ right.offPathItems :=
  runs.same.offPathItems_eq ▸ member

theorem prepared_eq (member : item ∈ left.offPathItems) :
    (prepared env left item).eraseFiller = (prepared env right item).eraseFiller := by
  have rightMember := runs.mem_right member
  have leftPrepared := prepareJobResult_eraseFiller env
    (portion_unscored env left item.1 item.2) (offPath_portion member)
  have rightPrepared := prepareJobResult_eraseFiller env
    (portion_unscored env right item.1 item.2) (offPath_portion rightMember)
  have sameInput : (markHotkeyExcluded env item.1 (left.portion item.2)).eraseFiller =
      (markHotkeyExcluded env item.1 (right.portion item.2)).eraseFiller :=
    congrArg (markHotkeyExcluded env item.1) (runs.same.portion_eq member)
  have leftReturned := runs.leftRun.preparation_eq (mem_scored_of_offPath member)
  have rightReturned := runs.rightRun.preparation_eq (mem_scored_of_offPath rightMember)
  rw [preparation] at leftReturned rightReturned
  rw [leftReturned, mapBoth_ok, sameInput, rightPrepared, rightReturned, mapBoth_ok] at leftPrepared
  exact (Except.ok.inj leftPrepared).symm

theorem prepared_congr {β : Type} (member : item ∈ left.offPathItems)
    (field : JobResult → β) (oblivious : ∀ result, field result.eraseFiller = field result) :
    field (prepared env left item) = field (prepared env right item) := by
  rw [← oblivious, runs.prepared_eq member, oblivious]

theorem preparedState_alike :
    Alike JobResult.eraseFiller (· ∈ left.offPathItems.map Prod.snd)
      (preparedState env left) (preparedState env right) where
  heap := by
    intro ref listed
    rcases List.mem_map.mp listed with ⟨item, member, rfl⟩
    have rightMember := runs.mem_right member
    rw [preparedState_heap env left (mem_scored_of_offPath member),
      preparedState_heap env right (mem_scored_of_offPath rightMember)]
    exact runs.prepared_eq member
  counts := by
    intro key
    rw [runs.leftRun.counts_eq, runs.rightRun.counts_eq, ← runs.same.offPathItems_eq]
    apply congrArg List.sum
    apply List.map_congr_left
    intro item member
    exact runs.prepared_congr member (gpusIn key) fun _ => rfl

theorem splitFallbackCandidates_eq :
    (preparedState env left).pools.splitFallbackCandidates =
      (preparedState env right).pools.splitFallbackCandidates := by
  rw [runs.leftRun.splitFallbackCandidates_eq, runs.rightRun.splitFallbackCandidates_eq,
    ← runs.same.offPathItems_eq, candidatesOf, candidatesOf]
  have sameCandidates : (left.offPathItems.filter fun item =>
      (prepared env left item).isCounted && isSplitFallbackCandidate (prepared env left item)) =
      left.offPathItems.filter fun item => (prepared env right item).isCounted &&
        isSplitFallbackCandidate (prepared env right item) := by
    apply List.filter_congr
    intro item member
    exact runs.prepared_congr member
      (fun result => result.isCounted && isSplitFallbackCandidate result) fun _ => rfl
  rw [sameCandidates]
  apply List.map_congr_left
  intro item member
  rw [runs.prepared_congr (List.mem_filter.mp member).1
    JobResult.baseModel fun _ => rfl]

theorem reassignedState_alike :
    Alike JobResult.eraseFiller (· ∈ left.offPathItems.map Prod.snd)
      (reassignedState env left) (reassignedState env right) := by
  have alike := runs.preparedState_alike
  have shared : ∀ candidate ∈ (preparedState env left).pools.splitFallbackCandidates,
      candidate.2 ∈ left.offPathItems.map Prod.snd := by
    intro candidate listed
    rw [runs.leftRun.splitFallbackCandidates_eq, candidatesOf] at listed
    rcases List.mem_map.mp listed with ⟨item, member, rfl⟩
    exact List.mem_map.mpr ⟨item, (List.mem_filter.mp member).1, rfl⟩
  apply reassignSplitCandidates_alike env eraseFiller_view _ shared alike
  rw [← runs.splitFallbackCandidates_eq]
  apply sortedByUuid_congr
  intro candidate listed
  exact congrArg (·.executorInfo.uuid) (alike.heap _ (shared candidate listed))

theorem settled_eq (member : item ∈ left.offPathItems) :
    ((settledState env left).heap item.2).eraseFiller =
      ((settledState env right).heap item.2).eraseFiller := by
  have rightMember := runs.mem_right member
  rw [runs.leftRun.settled_heap member, runs.rightRun.settled_heap rightMember]
  exact runs.reassignedState_alike.heap _
    (List.mem_map_of_mem member)

theorem settled_congr {β : Type} (member : item ∈ left.offPathItems)
    (field : JobResult → β) (oblivious : ∀ result, field result.eraseFiller = field result) :
    field ((settledState env left).heap item.2) =
      field ((settledState env right).heap item.2) := by
  rw [← oblivious, runs.settled_eq member, oblivious]

theorem multiplier_eq : multiplierIn (settledState env left).shares =
    multiplierIn (settledState env right).shares := by
  funext key
  rw [settledState_multiplier, settledState_multiplier, settledState_pools, settledState_pools,
    runs.reassignedState_alike.counts]

theorem totalMiningScore_eq : (settledState env left).pools.totalMiningScore =
    (settledState env right).pools.totalMiningScore := by
  rw [settledState_totalMiningScore runs.leftRun, settledState_totalMiningScore runs.rightRun,
    sumOver, sumOver, sum_scored_eq runs.leftRun.miningClaim_onPath,
    sum_scored_eq runs.rightRun.miningClaim_onPath, ← runs.same.offPathItems_eq]
  apply congrArg List.sum
  apply List.map_congr_left
  intro item member
  exact runs.settled_congr member miningClaim fun _ => rfl

theorem totalRentalCost_eq : (settledState env left).shares.totalRentalCost =
    (settledState env right).shares.totalRentalCost := by
  rw [settledState_totalRentalCost runs.leftRun, settledState_totalRentalCost runs.rightRun,
    sumOver, sumOver, sum_scored_eq (runs.leftRun.bucketClaim_onPath _),
    sum_scored_eq (runs.rightRun.bucketClaim_onPath _), ← runs.same.offPathItems_eq,
    runs.multiplier_eq]
  apply congrArg List.sum
  apply List.map_congr_left
  intro item member
  exact runs.settled_congr member (bucketClaim _) fun _ => rfl

theorem rentalShare_eq : (settledState env left).shares.rentalShare =
    (settledState env right).shares.rentalShare := by
  rw [settledState_rentalShare, settledState_rentalShare,
    runs.totalRentalCost_eq]
  exact sharesFor_rentalShare _ _ _ _

theorem portionIncentive_eq (member : item ∈ left.offPathItems)
    (leftNone : (left.portion item.2).fillerRevenuePerGpuHour = none)
    (rightNone : (right.portion item.2).fillerRevenuePerGpuHour = none) :
    portionIncentive env left item = portionIncentive env right item := by
  have rightMember := runs.mem_right member
  rw [runs.leftRun.portionIncentive_of_no_filler member leftNone,
    runs.rightRun.portionIncentive_of_no_filler rightMember rightNone,
    runs.totalMiningScore_eq,
    runs.totalRentalCost_eq,
    runs.rentalShare_eq,
    runs.multiplier_eq,
    runs.settled_congr member miningClaim fun _ => rfl,
    runs.settled_congr member (bucketClaim _) fun _ => rfl]

theorem paid_rented_eq (member : item ∈ left.offPathItems)
    (rented : (left.portion item.2).isRented = true) :
    (paid env left item).incentive = (paid env right item).incentive := by
  have rightMember := runs.mem_right member
  rw [runs.leftRun.paid_rented (mem_scored_of_offPath member) rented,
    runs.rightRun.paid_rented (mem_scored_of_offPath rightMember)
      ((runs.same.portion_isRented_eq member).symm.trans rented),
    runs.totalMiningScore_eq,
    runs.settled_congr member (·.miningScore) fun _ => rfl]

theorem splitIncentive_eq {hotkey : String}
    (member : (hotkey, ResultRef.node id) ∈ left.offPathItems)
    (split : left.isPartiallyRentedSplit id = true) :
    portionIncentive env left (hotkey, .node id) +
        portionIncentive env left (hotkey, .remainder id) =
      portionIncentive env right (hotkey, .node id) +
        portionIncentive env right (hotkey, .remainder id) := by
  have rented := runs.paid_rented_eq member (isRented_of_split split)
  have free := Fleet.freeGpuCount_of_erased (runs.same.nodes_eq member)
  have rightSplit : right.isPartiallyRentedSplit id = true := by
    rw [← split]
    exact congrArg Option.isSome free.symm
  have remainder : (hotkey, ResultRef.remainder id) ∈ left.offPathItems := by
    apply List.mem_filter.mpr
    rw [Fleet.onSpotPayPath_portion_remainder split]
    exact ⟨left.mem_scored_remainder.mpr
      ⟨left.mem_scored_node.mp (mem_scored_of_offPath member), split⟩, rfl⟩
  have freePaid := runs.portionIncentive_eq remainder
    (noFiller_of_split split) (noFiller_of_split rightSplit)
  have rentedPaid : portionIncentive env left (hotkey, .node id) =
      portionIncentive env right (hotkey, .node id) := congrArg (·.getD 0) rented
  rw [freePaid, rentedPaid]

theorem final_rented_eq (member : item ∈ left.offPathItems)
    (rented : (left.portion item.2).isRented = true) :
    ((finalState env left).heap item.2).incentive =
      ((finalState env right).heap item.2).incentive := by
  have leftScored := mem_scored_of_offPath member
  have rightScored := mem_scored_of_offPath (runs.mem_right member)
  have paidEq := runs.paid_rented_eq member rented
  rcases item with ⟨hotkey, ref⟩
  cases ref with
  | remainder id =>
    rcases Option.isSome_iff_exists.mp (left.mem_scored_remainder.mp leftScored).2 with
      ⟨count, free⟩
    simp [Fleet.portion, free, freePortion] at rented
  | node id =>
    have leftFinal := finalState_node_incentive env (left.mem_scored_node.mp leftScored)
    have rightFinal := finalState_node_incentive env (right.mem_scored_node.mp rightScored)
    have sameSplit : left.isPartiallyRentedSplit id = right.isPartiallyRentedSplit id :=
      congrArg Option.isSome (Fleet.freeGpuCount_of_erased (runs.same.nodes_eq member))
    dsimp only at leftFinal rightFinal paidEq ⊢
    rw [leftFinal, rightFinal, ← sameSplit, paidEq]
    split_ifs with split
    · rw [runs.splitIncentive_eq member split]
    · rfl

theorem final_secureFields_eq (member : item ∈ left.offPathItems) :
    ((finalState env left).heap item.2).secureFields =
      ((finalState env right).heap item.2).secureFields := by
  have rightMember := runs.mem_right member
  rw [(finalState_heap_kept (mem_scored_of_offPath member)).1,
    (finalState_heap_kept (mem_scored_of_offPath rightMember)).1,
    runs.leftRun.paid_secureFields member, runs.rightRun.paid_secureFields rightMember,
    runs.multiplier_eq]
  exact runs.settled_congr member (paidSecureFields env _)
    fun _ => rfl

theorem finalState_sameSecurePay :
    SameSecurePay left.offPathItems (finalState env left) (finalState env right) where
  rentalShare := by
    rw [finalState_shares, finalState_shares]
    exact runs.rentalShare_eq
  totalRentalCost := by
    rw [finalState_shares, finalState_shares]
    exact runs.totalRentalCost_eq
  totalMiningScore := by
    rw [finalState_pools, finalState_pools]
    exact runs.totalMiningScore_eq
  secureFields := fun item => runs.final_secureFields_eq
  rented := by
    intro item member rented
    rw [runs.leftRun.final_isRented (mem_scored_of_offPath member)] at rented
    exact runs.final_rented_eq member rented
  bucketTerm := by
    intro item member idle
    have rightMember := runs.mem_right member
    rw [runs.leftRun.final_isRented (mem_scored_of_offPath member)] at idle
    have rightIdle := (runs.same.portion_isRented_eq member).symm.trans idle
    have rates := congrArg SecureFields.effectiveRate
      (runs.final_secureFields_eq member)
    have gpus : ((finalState env left).heap item.2).gpuCount =
        ((finalState env right).heap item.2).gpuCount := by
      rw [final_gpuCount_idle (mem_scored_of_offPath member) idle,
        final_gpuCount_idle (mem_scored_of_offPath rightMember) rightIdle]
      exact runs.settled_congr member (·.gpuCount) fun _ => rfl
    simp only [JobResult.secureFields] at rates
    rw [IncentiveState.bucketTerm, IncentiveState.bucketTerm, gpus,
      JobResult.effectiveRateValue, JobResult.effectiveRateValue, rates, finalState_shares,
      finalState_shares, runs.rentalShare_eq,
      runs.totalRentalCost_eq]

end RunsAlike

/-- Spot pay and floor top-ups never scale a payee of the mining pool or of a bucket. -/
theorem spot_and_fillers_do_not_interfere (env : Env) {left right : Fleet}
    (same : left.SameOffPath right) {leftFinal rightFinal : IncentiveState}
    (leftRun : calculateMiningScores env left = .ok leftFinal)
    (rightRun : calculateMiningScores env right = .ok rightFinal) :
    left.offPathItems = right.offPathItems ∧
      SameSecurePay left.offPathItems leftFinal rightFinal := by
  rcases (calculateMiningScores_eq_ok_iff env left).mp leftRun with ⟨leftCompletes, rfl⟩
  rcases (calculateMiningScores_eq_ok_iff env right).mp rightRun with ⟨rightCompletes, rfl⟩
  have runs : RunsAlike env left right := ⟨same, leftCompletes, rightCompletes⟩
  exact ⟨same.offPathItems_eq, runs.finalState_sameSecurePay⟩

def sampleFlooredFleet : Fleet :=
  .ofMiner "miner" 3 fun id =>
    match id with
    | 0 => { Sample.idle with fillerRevenuePerGpuHour := some 5 }
    | 1 => Sample.rented
    | _ => Sample.split

theorem sample_sameOffPath : Sample.fleet.SameOffPath sampleFlooredFleet where
  lists := by decide
  nodes := by
    have lists : Sample.fleet.offPathLists = [("miner", [0, 1, 2])] := by decide
    intro entry listed id member
    rw [lists, List.mem_singleton] at listed
    subst listed
    have cases : id = 0 ∨ id = 1 ∨ id = 2 := by simpa using member
    rcases cases with rfl | rfl | rfl <;> rfl

theorem sample_spot_does_not_interfere :
    ∃ leftFinal rightFinal,
      calculateMiningScores Sample.env Sample.fleet = .ok leftFinal ∧
      calculateMiningScores Sample.env sampleFlooredFleet = .ok rightFinal ∧
      SameSecurePay Sample.fleet.offPathItems leftFinal rightFinal := by
  rcases (calculateMiningScores_succeeds_iff Sample.env Sample.fleet).mpr (by decide +kernel)
    with ⟨leftFinal, leftRun⟩
  rcases (calculateMiningScores_succeeds_iff Sample.env sampleFlooredFleet).mpr
    (by decide +kernel) with ⟨rightFinal, rightRun⟩
  exact ⟨leftFinal, rightFinal, leftRun, rightRun,
    (spot_and_fillers_do_not_interfere Sample.env sample_sameOffPath leftRun rightRun).2⟩

end RentalPrice

end Lium
