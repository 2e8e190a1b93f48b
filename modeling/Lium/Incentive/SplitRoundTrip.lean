import Lium.Incentive.Conservation

/-! # Partially rented split nodes

Expansion takes GPUs out of a split node and the two sizing rules take more out of its free
portion. The merge gives them all back, if the run reaches it.
-/

namespace Lium

variable {entry : String × ℕ} {item : String × ResultRef} {env : Env} {result : JobResult}

namespace Scoring

open Raising

/-! ## The GPUs a free portion is paid for -/

theorem defaultExecutorScore_eligible (env : Env) (factor : ℚ) (result : JobResult) :
    (defaultExecutorScore env factor result).eligibleForRentalShare =
      result.eligibleForRentalShare := by
  rcases recordOutdatedImageReason_eq_withReasons env result with ⟨reasons, outdated⟩
  simp only [defaultExecutorScore, outdated, JobResult.recordReasonIf, JobResult.recordReason,
    JobResult.withReasons]
  split_ifs <;> rfl

variable {baseModel : String}

theorem choosePool_of_eligible {excluded eligible : Bool}
    (stays : (choosePool env baseModel excluded eligible result).eligibleForRentalShare = true) :
    eligible = true ∧ (choosePool env baseModel excluded eligible result).gpuCount =
      result.gpuCount := by
  have spotPaid : (qualifySpotNodeByTheSecureDecision result).eligibleForRentalShare = false := by
    simp only [qualifySpotNodeByTheSecureDecision]
    split_ifs <;> rfl
  cases eligible with
  | true =>
    refine ⟨rfl, ?_⟩
    simp only [choosePool, Bool.and_true] at stays ⊢
    split_ifs at stays ⊢
    · rw [spotPaid] at stays
      cases stays
    · rfl
  | false =>
    simp only [choosePool, Bool.and_false, Bool.false_eq_true, if_false] at stays
    split_ifs at stays
    · simp only [JobResult.recordReasonIf, JobResult.recordReason] at stays
      split_ifs at stays
    · rw [defaultExecutorScore_eligible] at stays
      cases stays

theorem runIdlePoolGates_of_eligible {state next : Candidacy}
    (untouched : state.result.portUnpaidGpuCount = 0)
    (candidate : state.eligible = true → state.idlePoolCandidate = true)
    (returned : runIdlePoolGates env baseModel state = .ok next) (eligible : next.eligible = true) :
    next.result.gpuCount = state.result.gpuCount -
      max (Gates.portUnpaid state.result) (Gates.diskUnpaid state.result) := by
  have gated := (runIdlePoolGates_gated env baseModel state untouched).of_ok returned
  rw [runIdlePoolGates_eq, bind_eq_ok_iff] at returned
  rcases returned with ⟨limited, portLimited, measured⟩
  have passed := runMeasuringGates_passed measured
  rcases passed.result with ⟨reasons, same⟩
  have sized := limits_sized (candidate (gated.eligible eligible)) untouched portLimited
  rcases sized.result with ⟨more, shrunk⟩
  rw [same, shrunk, (sized.eligible (passed.eligible eligible)).2]
  rfl

theorem calculateExecutorScore_of_eligible {scored : JobResult}
    (untouched : result.portUnpaidGpuCount = 0)
    (returned : calculateExecutorScore env result = .ok scored)
    (eligible : scored.eligibleForRentalShare = true) :
    scored.gpuCount =
      result.gpuCount - max (Gates.portUnpaid result) (Gates.diskUnpaid result) := by
  rcases calculateExecutorScore_eq_ok returned with
    ⟨reasons, ⟨-, rfl⟩ | ⟨-, rfl⟩ | ⟨baseModel, state, gated, rfl⟩⟩
  · simp only [qualifySpotNode] at eligible
    split_ifs at eligible <;> cases eligible
  · cases eligible
  · have pool := choosePool_of_eligible eligible
    have pool := choosePool_of_eligible eligible
    rcases recordBlockedReasons_eq_withReasons env state with ⟨more, blocked⟩
    rw [pool.2, blocked]
    exact runIdlePoolGates_of_eligible untouched
      (fun isEligible => (Bool.and_eq_true _ _ ▸ isEligible).1) gated pool.1

end Scoring

namespace RentalPrice

open Raising Scoring

theorem priceSpotNode_eq_withReasons (env : Env) (baseModel : String) (result : JobResult) :
    ∃ reasons, priceSpotNode env baseModel result =
      (rateSpotNode env baseModel result).withReasons reasons := by
  simp only [priceSpotNode, recordZeroDriverAndSysboxReasons, JobResult.recordReasonIf]
  split_ifs <;> exact ⟨_, rfl⟩

theorem priceJobResult_kept (env : Env) (baseModel : String) (result : JobResult) :
    (priceJobResult env baseModel result).gpuCount = result.gpuCount ∧
      (priceJobResult env baseModel result).eligibleForRentalShare =
        result.eligibleForRentalShare := by
  rcases priceSpotNode_eq_withReasons env baseModel result with ⟨reasons, priced⟩
  simp only [priceJobResult, priced]
  split_ifs <;> exact ⟨rfl, rfl⟩

theorem prepareJobResult_of_eligible {prepared : JobResult} (unscored : Unscored result)
    (returned : prepareJobResult env result = .ok prepared)
    (eligible : prepared.eligibleForRentalShare = true) :
    prepared.gpuCount =
      result.gpuCount - max (Gates.portUnpaid result) (Gates.diskUnpaid result) := by
  rcases prepareJobResult_eq_ok returned with
    ⟨reasons, more, ⟨-, rfl⟩ | ⟨-, scored, baseModel, scoring, rfl⟩⟩
  · exact absurd (unscored.eligible.symm.trans eligible) Bool.false_ne_true
  · have kept := priceJobResult_kept env baseModel (scored.withReasons more)
    rw [kept.2, JobResult.withReasons_eligibleForRentalShare] at eligible
    rw [kept.1, JobResult.withReasons_gpuCount]
    have sized := calculateExecutorScore_of_eligible (unscored.withReasons reasons).unpaid scoring
      eligible
    exact sized

end RentalPrice

/-! ## The round trip -/

/-- The free GPUs that neither sizing rule leaves unpaid. -/
def Fleet.paidFreeGpuCount (fleet : Fleet) (id freeGpuCount : ℕ) : ℕ :=
  freeGpuCount - max (Gates.portUnpaid (fleet.portion (.remainder id)))
    (Gates.diskUnpaid (fleet.portion (.remainder id)))

structure PaidFor (fleet : Fleet) (state : IncentiveState) (id gpuCount : ℕ) : Prop where
  portion : (state.heap (.remainder id)).gpuCount = gpuCount
  published : (state.heap (.node id)).mixedFormulaInputs.map (·.freeGpuCount) = some gpuCount
  /-- The buckets hold the GPU counts the results are paid for, and nothing else. -/
  booked : ∀ key, state.pools.unrentedCountByBucket.getD key 0 =
    RentalPrice.bucketCount fleet.scored state.heap key

def JobResult.SplitsIncentive (result : JobResult) : Prop :=
  ∀ incentive, result.incentive = some incentive →
    ∃ rented idle, result.incentiveRented = some rented ∧ result.incentiveIdle = some idle ∧
      incentive = rented + idle

structure SplitRoundTrip (fleet : Fleet) (state : IncentiveState) : Prop where
  lists : state.jobResults = fleet.refs
  gpuCount : ∀ entry ∈ fleet.entries,
    (state.heap (.node entry.2)).gpuCount = (fleet.nodes entry.2).gpuCount
  incentive : ∀ entry ∈ fleet.entries, (state.heap (.node entry.2)).SplitsIncentive
  freePortion : ∀ entry ∈ fleet.entries, ∀ freeGpuCount,
    fleet.freeGpuCount entry.2 = some freeGpuCount →
    (state.heap (.remainder entry.2)).eligibleForRentalShare = true →
    0 < fleet.paidFreeGpuCount entry.2 freeGpuCount ∧
      PaidFor fleet state entry.2 (fleet.paidFreeGpuCount entry.2 freeGpuCount)

theorem JobResult.setIncentiveSplit_splitsIncentive (result : JobResult) (rented idle : ℚ) :
    (result.setIncentiveSplit rented idle).SplitsIncentive := by
  intro incentive paid
  cases paid
  exact ⟨rented, idle, rfl, rfl, rfl⟩

namespace RentalPrice

open Raising Scoring CellSums

theorem splitIncentiveAcrossPools_splitsIncentive (result : JobResult) :
    (splitIncentiveAcrossPools result).SplitsIncentive := by
  cases unpaid : result.incentive with
  | none =>
    intro incentive paid
    rw [splitIncentiveAcrossPools_incentive, unpaid] at paid
    cases paid
  | some amount =>
    simp only [splitIncentiveAcrossPools, unpaid]
    exact JobResult.setIncentiveSplit_splitsIncentive _ _ _

/-! ## A run that completes -/

section Completed

variable {fleet : Fleet}

theorem Completes.paidState_kept (completes : Completes env fleet) {β : Type}
    (member : item ∈ fleet.scored) (field : JobResult → β)
    (unpaid : ∀ original paid, field (payOver original paid) = field original)
    (unsettled : ∀ original settled, field (settleOver original settled) = field original) :
    field ((paidState env fleet).heap item.2) = field (prepared env fleet item) := by
  rw [paidState_heap env fleet member, paid, payJobResult_kept field unpaid,
    (completes.settledResult member).kept field unsettled]

variable {id freeGpuCount : ℕ}

theorem freeGpuCount_eq (free : fleet.freeGpuCount id = some freeGpuCount) :
    0 < freeGpuCount ∧
      (fleet.nodes id).rentedGpuCount.getD 0 + freeGpuCount = (fleet.nodes id).gpuCount := by
  simp only [Fleet.freeGpuCount, freeGpuCountOfPartiallyRentedSplit,
    Option.ite_none_right_eq_some, Option.some.injEq] at free
  omega

theorem mergedHeap_of_split (member : entry ∈ fleet.entries)
    (split : fleet.isPartiallyRentedSplit entry.2 = true) :
    (finalState env fleet).heap (.node entry.2) =
      mergeResults ((paidState env fleet).heap (.node entry.2))
        ((paidState env fleet).heap (.remainder entry.2)) := by
  have listed : entry.2 ∈ fleet.splitPortions.map SplitPortions.id := by
    rw [mem_splitPortions_ids, ← fleet.entries_map_snd]
    exact ⟨List.mem_map_of_mem member, split⟩
  exact if_pos listed

theorem mergedHeap_of_whole (whole : fleet.isPartiallyRentedSplit id = false) :
    (finalState env fleet).heap (.node id) = (paidState env fleet).heap (.node id) := by
  have unlisted : id ∉ fleet.splitPortions.map SplitPortions.id := by
    intro listed
    rw [((mem_splitPortions_ids fleet).mp listed).2] at whole
    cases whole
  exact if_neg unlisted

theorem Completes.final_gpuCount (completes : Completes env fleet)
    (member : entry ∈ fleet.entries) :
    ((finalState env fleet).heap (.node entry.2)).gpuCount = (fleet.nodes entry.2).gpuCount := by
  have nodeMember := fleet.mem_scored_node.mpr member
  have node := completes.paidState_kept nodeMember (·.gpuCount) (fun _ _ => rfl) (fun _ _ => rfl)
  have nodeStep : PreparedResult (fleet.portion (.node entry.2))
      (prepared env fleet (entry.1, .node entry.2)) :=
    prepared_preparedResult (entry.1, .node entry.2)
  cases free : fleet.freeGpuCount entry.2 with
  | none =>
    have whole : fleet.isPartiallyRentedSplit entry.2 = false := by
      rw [Fleet.isPartiallyRentedSplit, free, Option.isSome_none]
    have fresh : fleet.portion (.node entry.2) = .fresh (fleet.nodes entry.2) := by
      simp only [Fleet.portion, free]
    rw [fresh] at nodeStep
    rw [mergedHeap_of_whole whole]
    exact node.trans (nodeStep.whole rfl)
  | some freeGpuCount =>
    have split : fleet.isPartiallyRentedSplit entry.2 = true := by
      rw [Fleet.isPartiallyRentedSplit, free, Option.isSome_some]
    have freeMember := fleet.mem_scored_remainder.mpr ⟨member, split⟩
    have remainder := completes.paidState_kept freeMember
      (fun result => result.gpuCount + result.portUnpaidGpuCount)
      (fun _ _ => rfl) (fun _ _ => rfl)
    have freeStep : PreparedResult (fleet.portion (.remainder entry.2))
        (prepared env fleet (entry.1, .remainder entry.2)) :=
      prepared_preparedResult (entry.1, .remainder entry.2)
    have rented : fleet.portion (.node entry.2) =
        rentedPortion (.fresh (fleet.nodes entry.2)) := by simp only [Fleet.portion, free]
    have idle : fleet.portion (.remainder entry.2) =
        freePortion (.fresh (fleet.nodes entry.2)) freeGpuCount := by
      simp only [Fleet.portion, free]
    rw [rented] at nodeStep
    rw [idle] at freeStep
    have nodeGpus := node.trans (nodeStep.whole rfl)
    have freeGpus := remainder.trans freeStep.gpuTotal
    rw [mergedHeap_of_split member split]
    refine Eq.trans ?_ (freeGpuCount_eq free).2
    exact congrArg₂ (· + ·) nodeGpus freeGpus

theorem final_splitsIncentive (member : entry ∈ fleet.entries) :
    ((finalState env fleet).heap (.node entry.2)).SplitsIncentive := by
  cases split : fleet.isPartiallyRentedSplit entry.2 with
  | true =>
    rw [mergedHeap_of_split member split]
    exact JobResult.setIncentiveSplit_splitsIncentive _ _ _
  | false =>
    have stored := paidState_heap env fleet (fleet.mem_scored_node.mpr member)
    rw [mergedHeap_of_whole split]
    dsimp only at stored
    rw [stored]
    exact splitIncentiveAcrossPools_splitsIncentive _

theorem gpusIn_of_not_eligible (key : BucketKey)
    (notEligible : result.eligibleForRentalShare = false) : gpusIn key result = 0 := by
  simp [gpusIn, JobResult.isCounted, notEligible]

theorem Completes.gpusIn_final (completes : Completes env fleet) (key : BucketKey)
    (member : item ∈ fleet.scored) :
    gpusIn key ((finalState env fleet).heap item.2) =
      gpusIn key ((settledState env fleet).heap item.2) := by
  have kept : gpusIn key ((paidState env fleet).heap item.2) =
      gpusIn key ((settledState env fleet).heap item.2) := by
    rw [paidState_heap env fleet member, paid, payJobResult_kept (gpusIn key) fun _ _ => rfl]
  rcases item with ⟨hotkey, ref⟩
  cases ref with
  | remainder id => exact kept
  | node id =>
    have listed := fleet.mem_scored_node.mp member
    cases split : fleet.isPartiallyRentedSplit id with
    | false =>
      rw [← kept]
      exact congrArg (gpusIn key) (mergedHeap_of_whole split)
    | true =>
      have rented := (completes.settled_isRented member).trans (isRented_of_split split)
      have notEligible : ((settledState env fleet).heap (.node id)).eligibleForRentalShare =
          false := by
        by_contra eligible
        have idle := ((completes.settledResult member).priced.eligible (by simpa using eligible)).1
        rw [rented] at idle
        cases idle
      have paidEligible : ((paidState env fleet).heap (.node id)).eligibleForRentalShare =
          false := by
        have stored := paidState_heap env fleet member
        dsimp only at stored
        rw [stored, paid, payJobResult_kept (·.eligibleForRentalShare) fun _ _ => rfl]
        exact notEligible
      have merged : (finalState env fleet).heap (.node id) = _ :=
        mergedHeap_of_split listed split
      rw [merged, gpusIn_of_not_eligible key notEligible]
      exact gpusIn_of_not_eligible key paidEligible

theorem Completes.final_booked (completes : Completes env fleet) (key : BucketKey) :
    (finalState env fleet).pools.unrentedCountByBucket.getD key 0 =
      bucketCount fleet.scored (finalState env fleet).heap key := by
  rw [finalState_pools, settledState_pools, (reassignedState_spec env fleet).booked.counts]
  apply sumOver_congr
  intro item member
  rw [completes.gpusIn_final key member]
  cases spot : (prepared env fleet item).spotPayCandidate with
  | false => rw [settledState_heap_of_not_spot member spot]
  | true =>
    rw [settledState_heap_of_spot member spot]
    rfl

theorem unpaid_markHotkeyExcluded (env : Env) (hotkey : String) (result : JobResult) :
    Gates.portUnpaid (markHotkeyExcluded env hotkey result) = Gates.portUnpaid result ∧
      Gates.diskUnpaid (markHotkeyExcluded env hotkey result) = Gates.diskUnpaid result :=
  ⟨rfl, rfl⟩

theorem Completes.prepared_of_eligible (completes : Completes env fleet)
    (member : item ∈ fleet.scored)
    (eligible : (prepared env fleet item).eligibleForRentalShare = true) :
    (prepared env fleet item).gpuCount = (fleet.portion item.2).gpuCount -
      max (Gates.portUnpaid (fleet.portion item.2)) (Gates.diskUnpaid (fleet.portion item.2)) := by
  have returned := completes.preparation_eq member
  rw [preparation] at returned
  have sized := prepareJobResult_of_eligible (portion_unscored env fleet item.1 item.2) returned
    eligible
  rw [(unpaid_markHotkeyExcluded _ _ _).1, (unpaid_markHotkeyExcluded _ _ _).2] at sized
  exact sized

theorem Completes.final_freePortion (completes : Completes env fleet)
    (member : entry ∈ fleet.entries) (free : fleet.freeGpuCount entry.2 = some freeGpuCount)
    (eligible : ((finalState env fleet).heap (.remainder entry.2)).eligibleForRentalShare = true) :
    0 < fleet.paidFreeGpuCount entry.2 freeGpuCount ∧
      PaidFor fleet (finalState env fleet) entry.2
        (fleet.paidFreeGpuCount entry.2 freeGpuCount) := by
  have split : fleet.isPartiallyRentedSplit entry.2 = true := by
    rw [Fleet.isPartiallyRentedSplit, free, Option.isSome_some]
  have freeMember := fleet.mem_scored_remainder.mpr ⟨member, split⟩
  have kept := completes.paidState_kept freeMember (·.eligibleForRentalShare)
    (fun _ _ => rfl) (fun _ _ => rfl)
  have gpus := completes.paidState_kept freeMember (·.gpuCount) (fun _ _ => rfl) (fun _ _ => rfl)
  have sized := completes.prepared_of_eligible freeMember (kept.symm.trans eligible)
  have idle : (fleet.portion (.remainder entry.2)).gpuCount = freeGpuCount := by
    simp only [Fleet.portion, free, freePortion]
  have step : PreparedResult (fleet.portion (.remainder entry.2))
      (prepared env fleet (entry.1, .remainder entry.2)) :=
    prepared_preparedResult (entry.1, .remainder entry.2)
  have paidGpus : (prepared env fleet (entry.1, .remainder entry.2)).gpuCount =
      fleet.paidFreeGpuCount entry.2 freeGpuCount := by
    rw [sized, idle, Fleet.paidFreeGpuCount]
  refine ⟨?_, gpus.trans paidGpus, ?_, completes.final_booked⟩
  · rw [← paidGpus]
    apply step.gpuCount_pos
    rw [idle]
    exact (freeGpuCount_eq free).1
  · rw [mergedHeap_of_split member split]
    exact congrArg some (gpus.trans paidGpus)

theorem Completes.splitRoundTrip (completes : Completes env fleet) :
    SplitRoundTrip fleet (finalState env fleet) where
  lists := finalState_jobResults env fleet
  gpuCount := fun _ => completes.final_gpuCount
  incentive := fun _ => final_splitsIncentive
  freePortion := fun _ member _ => completes.final_freePortion member

end Completed

/-! ## A run that raises -/

section Raised

variable {fleet : Fleet}

variable (env fleet) in
def abandonedState : IncentiveState :=
  left (forEach (preProcessJobResult env) fleet.scored (scoringStart fleet))

theorem left_of_raises (raises : ¬Completes env fleet) :
    left (calculateMiningScores env fleet) = abandonedState env fleet := by
  have notOk : ∀ final, calculateMiningScores env fleet ≠ .ok final := fun final returned =>
    raises ((calculateMiningScores_eq_ok_iff env fleet).mp returned).1
  simp only [calculateMiningScores, expandPartiallyRentedSplitResults_eq, scoreJobResults,
    scoringStart_scoringOrder] at notOk ⊢
  rw [abandonedState]
  cases outcome : forEach (preProcessJobResult env) fleet.scored (scoringStart fleet) with
  | ok state =>
    rw [outcome] at notOk
    exact absurd rfl (notOk _)
  | error raised => rfl

theorem abandonedState_jobResults :
    (abandonedState env fleet).jobResults = fleet.expandedRefs := by
  have kept : ∀ item ∈ fleet.scored, ∀ state : IncentiveState,
      state.jobResults = fleet.expandedRefs →
      (left (preProcessJobResult env item state)).jobResults = fleet.expandedRefs := by
    intro item _ state same
    simp only [preProcessJobResult]
    split <;> exact same
  exact forEach_left_invariant fleet.scored kept (scoringStart fleet)
    (scoringStart_jobResults fleet)

theorem abandonedState_prepared (member : item ∈ fleet.scored) :
    PreparedResult (fleet.portion item.2) ((abandonedState env fleet).heap item.2) := by
  have writes : ∀ (item : String × ResultRef) (state : IncentiveState), ∃ content,
      (Unscored (markHotkeyExcluded env item.1 (state.heap item.2)) →
        PreparedResult (state.heap item.2) content) ∧
      (left (preProcessJobResult env item state)).heap =
        Function.update state.heap item.2 content := by
    intro item state
    refine ⟨(prepareJobResult env (markHotkeyExcluded env item.1 (state.heap item.2))).left,
      fun unscored => ?_, ?_⟩
    · have marked : PreparedResult (state.heap item.2)
          (markHotkeyExcluded env item.1 (state.heap item.2)) := .of_frame rfl rfl rfl
      exact marked.trans ((prepareJobResult_preparedPriced env unscored).mono (fun _ => id)
        (fun _ => And.left)).left
    · simp only [preProcessJobResult]
      split <;> next outcome => rw [outcome]; rfl
  have cells := forEach_left_cells IncentiveState.heap (fun item before after =>
    Unscored (markHotkeyExcluded env item.1 before) → PreparedResult before after) writes
    fleet.scored fleet.scored_nodup (scoringStart fleet) member
  rw [scoringStart_heap fleet member] at cells
  rcases cells with untouched | prepared
  · rw [abandonedState, untouched]
    exact .refl _
  · exact prepared (portion_unscored env fleet item.1 item.2)

theorem expandedRefs_of_whole
    (whole : ∀ entry ∈ fleet.entries, fleet.isPartiallyRentedSplit entry.2 = false) :
    fleet.expandedRefs = fleet.refs := by
  apply List.map_congr_left
  intro entry member
  have noneSplit : entry.2.filter fleet.isPartiallyRentedSplit = [] := by
    apply List.filter_eq_nil_iff.mpr
    intro id listed
    rw [whole (entry.1, id) (fleet.mem_entries.mpr ⟨entry.2, member, listed⟩)]
    exact Bool.false_ne_true
  rw [Fleet.expandIds, noneSplit, List.map_nil, List.append_nil]

theorem abandonedState_splitRoundTrip
    (whole : ∀ entry ∈ fleet.entries, fleet.isPartiallyRentedSplit entry.2 = false) :
    SplitRoundTrip fleet (abandonedState env fleet) := by
  have prepared : ∀ entry ∈ fleet.entries, PreparedResult (.fresh (fleet.nodes entry.2))
      ((abandonedState env fleet).heap (.node entry.2)) := by
    intro entry member
    have free : fleet.freeGpuCount entry.2 = none :=
      Option.isSome_eq_false_iff.mp (whole entry member) |> Option.isNone_iff_eq_none.mp
    have fresh : fleet.portion (.node entry.2) = .fresh (fleet.nodes entry.2) := by
      simp only [Fleet.portion, free]
    rw [← fresh]
    exact abandonedState_prepared (fleet.mem_scored_node.mpr member)
  constructor
  · rw [abandonedState_jobResults, expandedRefs_of_whole whole]
  · intro entry member
    exact (prepared entry member).whole rfl
  · intro entry member incentive paid
    rw [← (prepared entry member).frame] at paid
    cases paid
  · intro entry member freeGpuCount free
    have split := whole entry member
    rw [Fleet.isPartiallyRentedSplit, free] at split
    cases split

theorem abandonedState_not_splitRoundTrip (member : entry ∈ fleet.entries)
    (split : fleet.isPartiallyRentedSplit entry.2 = true) :
    ¬SplitRoundTrip fleet (abandonedState env fleet) := by
  intro roundTrip
  have lists := roundTrip.lists
  rw [abandonedState_jobResults] at lists
  have listed : (entry.1, ResultRef.remainder entry.2) ∈ fleet.scored :=
    fleet.mem_scored_remainder.mpr ⟨member, split⟩
  rw [Fleet.scored, lists] at listed
  simp [Fleet.refs] at listed

end Raised

/-- The GPUs and the lists come back unless the pre-pass raises on a fleet with a partially
rented split node. -/
theorem splitRoundTrip_iff (env : Env) (fleet : Fleet) :
    SplitRoundTrip fleet (left (calculateMiningScores env fleet)) ↔
      (∀ entry ∈ fleet.entries, fleet.isPartiallyRentedSplit entry.2 = false) ∨
        ∀ item ∈ fleet.scored,
          isReadable env (markHotkeyExcluded env item.1 (fleet.portion item.2)) = true := by
  rw [← completes_iff]
  by_cases completes : Completes env fleet
  · have returned := (calculateMiningScores_eq_ok_iff env fleet).mpr ⟨completes, rfl⟩
    rw [returned, left_ok]
    exact iff_of_true completes.splitRoundTrip (.inr completes)
  · rw [left_of_raises completes, or_iff_left completes]
    constructor
    · intro roundTrip entry member
      by_contra split
      exact abandonedState_not_splitRoundTrip member (by simpa using split) roundTrip
    · exact abandonedState_splitRoundTrip

def unhashablePortFleet : Fleet :=
  .ofMiner "miner" 1 fun _ =>
    { Sample.split with
      spec := some [("available_port_count", .int 8),
        ("verified_ports", .list [.list [.int 8080, .int 80]])] }

theorem unhashablePort_breaks_splitRoundTrip :
    ¬SplitRoundTrip unhashablePortFleet
      (left (calculateMiningScores Sample.env unhashablePortFleet)) := by
  have raises : ¬Completes Sample.env unhashablePortFleet := by
    rw [completes_iff]
    decide +kernel
  have listed : ("miner", 0) ∈ unhashablePortFleet.entries := by decide
  rw [left_of_raises raises]
  exact abandonedState_not_splitRoundTrip listed (by decide +kernel)

end RentalPrice

end Lium
