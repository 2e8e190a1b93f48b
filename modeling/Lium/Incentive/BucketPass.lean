import Lium.Foundation.CappedMoves
import Lium.Incentive.Readability
import Lium.Incentive.Reassignment

/-! # What the reassignment pass is worth

The pass over the split candidates is the pass of `CappedMoves` over their buckets, for any
fills that include the executors concerned.
-/

namespace Lium.RentalPrice

open CappedMoves

def bucketFill (state : IncentiveState) (key : BucketKey) : ℕ :=
  state.pools.unrentedCountByBucket.getD key 0

def bins (state : IncentiveState) : Bins ResultRef BucketKey where
  place ref := (state.heap ref).bucketKey
  fill := bucketFill state

def splitTier (result : JobResult) : BucketKey :=
  (result.baseModel, result.gpuSplittingMinCount.getD 0)

def splitRules (config : IncentiveConfig) (heap : ResultRef → JobResult) :
    Rules ResultRef BucketKey where
  cap key := config.cap key.1 key.2
  size ref := (heap ref).gpuCount
  target ref := splitTier (heap ref)

variable {env : Env} {state : IncentiveState} {ref : ResultRef}

theorem reassignSplitCandidate_cases (env : Env) (state : IncentiveState) (ref : ResultRef) :
    let result := state.heap ref
    let next := reassignSplitCandidate env state (result.baseModel, ref)
    (¬ Admits (splitRules env.config state.heap) (bins state) ref ∧ next = state) ∨
      (Admits (splitRules env.config state.heap) (bins state) ref ∧
        ∃ multiplier,
          next = { state.write ref
              { result with
                bucketReassignedFrom := some (result.countBucket.getD 0)
                bucketReassignedFromMultiplier := some multiplier
                countBucket := some (result.gpuSplittingMinCount.getD 0)
                maxCap := some (env.config.cap result.baseModel
                  (result.gpuSplittingMinCount.getD 0)) } with
            pools := movePools state.pools result.bucketKey (splitTier result) result.gpuCount
              result.weightedRate }) := by
  intro result next
  simp only [Admits, splitRules, bins, bucketFill, splitTier, JobResult.bucketKey]
  simp only [next, result, reassignSplitCandidate, splitTierMove]
  split_ifs with noTier underCap noRoom
  · exact .inl ⟨by omega, rfl⟩
  · exact .inl ⟨by omega, rfl⟩
  · exact .inl ⟨by omega, rfl⟩
  · exact .inr ⟨⟨by omega, by omega, by omega⟩, _, rfl⟩

theorem reassignSplitCandidate_bins (env : Env) (state : IncentiveState) (ref : ResultRef) :
    let next := reassignSplitCandidate env state ((state.heap ref).baseModel, ref)
    bins next = visit (splitRules env.config state.heap) (bins state) ref ∧
      splitRules env.config next.heap = splitRules env.config state.heap := by
  intro next
  obtain ⟨refused, same⟩ | ⟨admits, multiplier, moved⟩ :=
    reassignSplitCandidate_cases env state ref
  · rw [visit, if_neg refused]
    exact ⟨congrArg bins same, congrArg (splitRules env.config ·.heap) same⟩
  · rw [visit, if_pos admits]
    have written : ∀ other, splitTier (next.heap other) = splitTier (state.heap other) ∧
        (next.heap other).gpuCount = (state.heap other).gpuCount ∧
        (next.heap other).bucketKey =
          (move (splitRules env.config state.heap) (bins state) ref).place other := by
      intro other
      by_cases same : other = ref
      · subst same
        simp [next, moved, IncentiveState.write, move, splitTier, splitRules,
          JobResult.bucketKey, JobResult.baseModel]
      · simp [next, moved, IncentiveState.write, move, bins, same]
    constructor
    · have places : (bins next).place =
          (move (splitRules env.config state.heap) (bins state) ref).place :=
        funext fun other => (written other).2.2
      have fills : (bins next).fill =
          (move (splitRules env.config state.heap) (bins state) ref).fill := by
        funext key
        simp only [bins, bucketFill, next, moved, movePools, PyDict.getD_set]
        simp only [move, Function.update_apply]
        rfl
      exact congrArg₂ Bins.mk places fills
    · simp only [splitRules, (written _).1, (written _).2.1]

def Named (heap : ResultRef → JobResult) (candidates : List (String × ResultRef)) : Prop :=
  ∀ candidate ∈ candidates, candidate.1 = (heap candidate.2).baseModel

theorem baseModel_reassignSplitCandidate (env : Env) (state : IncentiveState)
    (ref other : ResultRef) :
    ((reassignSplitCandidate env state ((state.heap ref).baseModel, ref)).heap other).baseModel =
      (state.heap other).baseModel := by
  have rules := (reassignSplitCandidate_bins env state ref).2
  exact congrArg Prod.fst (congrArg (Rules.target · other) rules)

theorem foldl_reassignSplitCandidate_bins (env : Env) (candidates : List (String × ResultRef))
    (state : IncentiveState) (named : Named state.heap candidates) :
    let next := candidates.foldl (reassignSplitCandidate env) state
    bins next = pass (splitRules env.config state.heap) (bins state) (candidates.map Prod.snd) ∧
      splitRules env.config next.heap = splitRules env.config state.heap := by
  induction candidates generalizing state with
  | nil => exact ⟨rfl, rfl⟩
  | cons candidate rest induction =>
    have own : candidate = ((state.heap candidate.2).baseModel, candidate.2) :=
      Prod.ext (named candidate (List.mem_cons_self ..)) rfl
    have first := reassignSplitCandidate_bins env state candidate.2
    rw [← own] at first
    have later := induction (reassignSplitCandidate env state candidate) (by
      intro other member
      have kept := baseModel_reassignSplitCandidate env state candidate.2 other.2
      rw [← own] at kept
      rw [kept]
      exact named other (List.mem_cons_of_mem _ member))
    rw [first.1, first.2] at later
    exact later

theorem reassignSplitCandidates_bins (env : Env) (state : IncentiveState)
    (named : Named state.heap state.pools.splitFallbackCandidates) :
    bins (reassignSplitCandidates env state) =
      pass (splitRules env.config state.heap) (bins state)
        ((sortedByUuid state.heap state.pools.splitFallbackCandidates).map Prod.snd) := by
  refine (foldl_reassignSplitCandidate_bins env _ state ?_).1
  intro candidate member
  exact named candidate ((sortedByUuid_perm ..).mem_iff.mp member)

/-! ## Totals of a model -/

def modelSum {M : Type} [AddCommMonoid M] (baseModel : String) (table : PyDict BucketKey M) : M :=
  table.sumWith fun key value => if key.1 = baseModel then value else 0

theorem modelSum_set {M : Type} [AddCommMonoid M] (baseModel : String)
    (table : PyDict BucketKey M) (key : BucketKey) (value : M) :
    modelSum baseModel (table.set key value) +
        (if key.1 = baseModel then table.getD key 0 else 0) =
      modelSum baseModel table + (if key.1 = baseModel then value else 0) := by
  have replaced := table.sumWith_set
    (fun key value => if key.1 = baseModel then value else 0) key value
  have own : table.contribution (fun key value => if key.1 = baseModel then value else 0) key =
      if key.1 = baseModel then table.getD key 0 else 0 := by
    unfold PyDict.contribution PyDict.getD
    cases table.get? key <;> simp
  rwa [own] at replaced

theorem modelSum_movePools {pools : Pools} {source target : BucketKey} {gpuCount : ℕ}
    (within : source.1 = target.1) (different : target ≠ source)
    (enough : gpuCount ≤ pools.unrentedCountByBucket.getD source 0) (rate : ℚ)
    (baseModel : String) :
    let moved := movePools pools source target gpuCount rate
    modelSum baseModel moved.unrentedCountByBucket =
        modelSum baseModel pools.unrentedCountByBucket ∧
      modelSum baseModel moved.weightedRateSumByBucket =
        modelSum baseModel pools.weightedRateSumByBucket := by
  intro moved
  constructor
  · have leaves := modelSum_set baseModel pools.unrentedCountByBucket source
      (pools.unrentedCountByBucket.getD source 0 - gpuCount)
    have enters := modelSum_set baseModel
      (pools.unrentedCountByBucket.set source
        (pools.unrentedCountByBucket.getD source 0 - gpuCount)) target
      (pools.unrentedCountByBucket.getD target 0 + gpuCount)
    rw [PyDict.getD_set, if_neg different, ← within] at enters
    simp only [moved, movePools]
    split_ifs at leaves enters <;> omega
  · have leaves := modelSum_set baseModel pools.weightedRateSumByBucket source
      (pools.weightedRateSumByBucket.getD source 0 + -rate)
    have enters := modelSum_set baseModel
      (pools.weightedRateSumByBucket.add source (-rate)) target
      ((pools.weightedRateSumByBucket.add source (-rate)).getD target 0 + rate)
    rw [← within] at enters
    simp only [moved, movePools, PyDict.add] at leaves enters ⊢
    split_ifs at leaves enters <;> linarith

/-- The fills count the executors, and the candidates are among them. -/
structure Filled (config : IncentiveConfig) (executors : Finset ResultRef)
    (state : IncentiveState) (candidates : List (String × ResultRef)) : Prop where
  named : Named state.heap candidates
  listed : ∀ candidate ∈ candidates, candidate.2 ∈ executors
  included : Included (splitRules config state.heap) executors (bins state)

namespace Filled

variable {executors : Finset ResultRef} {candidates : List (String × ResultRef)}

theorem mono {fewer : List (String × ResultRef)}
    (filled : Filled env.config executors state candidates) (subset : fewer ⊆ candidates) :
    Filled env.config executors state fewer :=
  ⟨fun candidate member => filled.named candidate (subset member),
    fun candidate member => filled.listed candidate (subset member), filled.included⟩

theorem included_foldl (filled : Filled env.config executors state candidates) :
    Included (splitRules env.config state.heap) executors
      (bins (candidates.foldl (reassignSplitCandidate env) state)) := by
  rw [(foldl_reassignSplitCandidate_bins env candidates state filled.named).1]
  apply filled.included.pass
  simpa using fun ref baseModel member => filled.listed (baseModel, ref) member

theorem enough {earlier later : List (String × ResultRef)} {candidate : String × ResultRef}
    (filled : Filled env.config executors state (earlier ++ candidate :: later)) :
    let now := earlier.foldl (reassignSplitCandidate env) state
    candidate = ((now.heap candidate.2).baseModel, candidate.2) ∧
      (now.heap candidate.2).gpuCount ≤ bucketFill now (now.heap candidate.2).bucketKey := by
  have before := filled.mono (List.subset_append_left earlier (candidate :: later))
  have member : candidate ∈ earlier ++ candidate :: later := by simp
  have rules := (foldl_reassignSplitCandidate_bins env earlier state before.named).2
  constructor
  · refine Prod.ext ?_ rfl
    rw [filled.named candidate member]
    exact (congrArg (fun rules => (Rules.target rules candidate.2).1) rules).symm
  · have included := before.included_foldl
    rw [← rules] at included
    exact included.size_le (filled.listed candidate member)

theorem modelSum_kept (filled : Filled env.config executors state candidates)
    (baseModel : String) :
    let next := candidates.foldl (reassignSplitCandidate env) state
    modelSum baseModel next.pools.unrentedCountByBucket =
        modelSum baseModel state.pools.unrentedCountByBucket ∧
      modelSum baseModel next.pools.weightedRateSumByBucket =
        modelSum baseModel state.pools.weightedRateSumByBucket := by
  induction candidates using List.reverseRecOn with
  | nil => exact ⟨rfl, rfl⟩
  | append_singleton earlier candidate induction =>
    have sofar := induction (filled.mono (List.subset_append_left ..))
    obtain ⟨own, holds⟩ := filled.enough
    rw [List.foldl_append, List.foldl_cons, List.foldl_nil]
    generalize earlier.foldl (reassignSplitCandidate env) state = now at sofar own holds ⊢
    rw [own]
    obtain ⟨-, same⟩ | ⟨admits, multiplier, moved⟩ :=
      reassignSplitCandidate_cases env now candidate.2
    · rw [same]
      exact sofar
    · rw [moved]
      have within : (now.heap candidate.2).bucketKey.1 = (splitTier (now.heap candidate.2)).1 := rfl
      have kept := modelSum_movePools within admits.place_ne.symm holds
        (now.heap candidate.2).weightedRate baseModel
      exact ⟨kept.1.trans sofar.1, kept.2.trans sofar.2⟩

end Filled

/-- `min(count, cap) / count`. -/
def bucketMultiplier (config : IncentiveConfig) (state : IncentiveState) (key : BucketKey) : ℚ :=
  dilution (config.cap key.1 key.2) (bucketFill state key)

/-- The pass moves GPUs within a model, fills no bucket past its cap, and leaves every executor in a
bucket that pays no less, a moved one in a bucket that pays more. -/
theorem reassignSplitCandidates_pareto (env : Env) (state : IncentiveState)
    (executors : Finset ResultRef)
    (filled : Filled env.config executors state state.pools.splitFallbackCandidates) :
    let after := reassignSplitCandidates env state
    (∀ baseModel,
      modelSum baseModel after.pools.unrentedCountByBucket =
          modelSum baseModel state.pools.unrentedCountByBucket ∧
        modelSum baseModel after.pools.weightedRateSumByBucket =
          modelSum baseModel state.pools.weightedRateSumByBucket) ∧
    (∀ earlier candidate later,
      sortedByUuid state.heap state.pools.splitFallbackCandidates =
        earlier ++ candidate :: later →
      let now := earlier.foldl (reassignSplitCandidate env) state
      (now.heap candidate.2).gpuCount ≤ bucketFill now (now.heap candidate.2).bucketKey) ∧
    (∀ key, bucketFill state key ≤ env.config.cap key.1 key.2 →
      bucketFill after key ≤ env.config.cap key.1 key.2) ∧
    (∀ key, env.config.cap key.1 key.2 < bucketFill state key →
      bucketFill after key ≤ bucketFill state key) ∧
    ∀ ref ∈ executors, 0 < (state.heap ref).gpuCount →
      bucketMultiplier env.config state (state.heap ref).bucketKey ≤
          bucketMultiplier env.config after (after.heap ref).bucketKey ∧
        ((after.heap ref).bucketKey ≠ (state.heap ref).bucketKey →
          bucketMultiplier env.config state (state.heap ref).bucketKey <
            bucketMultiplier env.config after (after.heap ref).bucketKey) := by
  intro after
  have sorted := filled.mono (sortedByUuid_perm state.heap _).subset
  have improved : Improved (splitRules env.config state.heap) (bins state) (bins after) := by
    rw [reassignSplitCandidates_bins env state filled.named]
    exact improved_pass ..
  refine ⟨sorted.modelSum_kept, ?_, ?_, ?_, ?_⟩
  · intro earlier candidate later split
    rw [split] at sorted
    exact sorted.enough.2
  · intro key under
    exact (improved.fill key).trans (max_le under le_rfl)
  · intro key crowded
    exact (improved.fill key).trans (max_le le_rfl crowded.le)
  · intro ref member sized
    exact improved.dilution_le sorted.included_foldl member sized

/-! ## One pass is enough -/

def unmoved (before after : IncentiveState) : List (String × ResultRef) :=
  before.pools.splitFallbackCandidates.filter fun candidate =>
    (after.heap candidate.2).countBucket = (before.heap candidate.2).countBucket

def withSplitCandidates (state : IncentiveState) (candidates : List (String × ResultRef)) :
    IncentiveState :=
  { state with pools := { state.pools with splitFallbackCandidates := candidates } }

theorem foldl_reassignSplitCandidate_eq_self (candidates : List (String × ResultRef))
    (named : Named state.heap candidates)
    (refused : ∀ candidate ∈ candidates,
      ¬ Admits (splitRules env.config state.heap) (bins state) candidate.2) :
    candidates.foldl (reassignSplitCandidate env) state = state := by
  induction candidates with
  | nil => rfl
  | cons candidate rest induction =>
    have own : candidate = ((state.heap candidate.2).baseModel, candidate.2) :=
      Prod.ext (named candidate (List.mem_cons_self ..)) rfl
    have stays : reassignSplitCandidate env state candidate = state := by
      rw [own]
      obtain ⟨-, same⟩ | ⟨admits, -⟩ := reassignSplitCandidate_cases env state candidate.2
      · exact same
      · exact absurd admits (refused candidate (List.mem_cons_self ..))
    rw [List.foldl_cons, stays]
    exact induction (fun other member => named other (List.mem_cons_of_mem _ member))
      fun other member => refused other (List.mem_cons_of_mem _ member)

/-- After one pass no candidate in its first bucket could still move, so a second pass over
those changes nothing. -/
theorem reassignSplitCandidates_settled (env : Env) (state : IncentiveState)
    (named : Named state.heap state.pools.splitFallbackCandidates)
    (pinned : ∀ candidate ∈ state.pools.splitFallbackCandidates,
      (state.heap candidate.2).countBucket = some (state.heap candidate.2).gpuCount ∧
        ∃ minCount < (state.heap candidate.2).gpuCount,
          (state.heap candidate.2).gpuSplittingMinCount = some minCount) :
    let after := reassignSplitCandidates env state
    (∀ candidate ∈ unmoved state after,
      let source := (after.heap candidate.2).bucketKey
      let target := splitTier (after.heap candidate.2)
      ¬ (0 < env.config.cap target.1 target.2 ∧
        env.config.cap source.1 source.2 < bucketFill after source ∧
        bucketFill after target + (after.heap candidate.2).gpuCount ≤
          env.config.cap target.1 target.2)) ∧
      reassignSplitCandidates env (withSplitCandidates after (unmoved state after)) =
        withSplitCandidates after (unmoved state after) := by
  intro after
  have sorted : Named state.heap
      (sortedByUuid state.heap state.pools.splitFallbackCandidates) := fun candidate member =>
    named candidate ((sortedByUuid_perm ..).mem_iff.mp member)
  obtain ⟨filled, rules⟩ := foldl_reassignSplitCandidate_bins env _ state sorted
  have refused : ∀ candidate ∈ state.pools.splitFallbackCandidates,
      ¬ Admits (splitRules env.config after.heap) (bins after) candidate.2 := by
    intro candidate member
    have visited : candidate.2 ∈
        (sortedByUuid state.heap state.pools.splitFallbackCandidates).map Prod.snd :=
      List.mem_map_of_mem ((sortedByUuid_perm ..).mem_iff.mpr member)
    rw [show splitRules env.config after.heap = _ from rules, show bins after = _ from filled]
    have homed : Homed (splitRules env.config state.heap) (bins state).place (bins state) :=
      fun _ => .inl rfl
    apply not_admits_pass _ homed _ visited
    intro item itemVisited other otherVisited meets
    -- the bucket of a candidate is its GPU count, and its tier is below
    obtain ⟨_, itemMember, rfl⟩ := List.mem_map.mp itemVisited
    obtain ⟨_, otherMember, rfl⟩ := List.mem_map.mp otherVisited
    obtain ⟨-, minCount, below, splits⟩ := pinned _ ((sortedByUuid_perm ..).mem_iff.mp itemMember)
    obtain ⟨bucket, -⟩ := pinned _ ((sortedByUuid_perm ..).mem_iff.mp otherMember)
    have met : (JobResult.countBucket _).getD 0 = (ValidatedNode.gpuSplittingMinCount _).getD 0 :=
      congrArg Prod.snd meets
    rw [bucket, splits, Option.getD_some, Option.getD_some] at met
    exact met.trans_le below.le
  refine ⟨?_, ?_⟩
  · intro candidate member
    exact refused candidate (List.mem_of_mem_filter member)
  · apply foldl_reassignSplitCandidate_eq_self
    · intro candidate member
      have listed := List.mem_of_mem_filter ((sortedByUuid_perm ..).mem_iff.mp member)
      rw [named candidate listed]
      exact (congrArg (fun rules => (Rules.target rules candidate.2).1) rules).symm
    · intro candidate member
      exact refused candidate (List.mem_of_mem_filter ((sortedByUuid_perm ..).mem_iff.mp member))

/-! ## Three nodes in a bucket for two -/

namespace CrowdedBucket

def node : JobResult :=
  { JobResult.fresh { Sample.idle with
      supportsGpuSplitting := true, gpuSplittingMinCount := some 2 } with
    hourlyRate := some 2, countBucket := some 8, maxCap := some 16 }

def executors : Finset ResultRef := {.node 0, .node 1, .node 2}

def start : IncentiveState where
  jobResults := []
  heap := fun _ => node
  pools :=
    { unrentedCountByBucket := .ofList [(("H100", 8), 24)]
      weightedRateSumByBucket := .ofList [(("H100", 8), 48)]
      splitFallbackCandidates := [("H100", .node 0), ("H100", .node 1)] }

theorem named : Named start.heap start.pools.splitFallbackCandidates := by
  unfold Named
  decide

theorem filled :
    Filled Sample.config executors start start.pools.splitFallbackCandidates where
  named := named
  listed := by decide
  included := by
    intro key
    by_cases own : key = ("H100", 8)
    · subst own
      decide
    · have elsewhere : ∀ ref, (bins start).place ref ≠ key := fun _ => Ne.symm own
      simp [held, elsewhere]

end CrowdedBucket

open CrowdedBucket in
theorem crowdedBucket_pareto :
    Filled Sample.config executors start start.pools.splitFallbackCandidates ∧
      bucketMultiplier Sample.config start ("H100", 8) <
        bucketMultiplier Sample.config (reassignSplitCandidates Sample.env start) ("H100", 2) :=
  ⟨filled, ((reassignSplitCandidates_pareto Sample.env start executors filled).2.2.2.2 (.node 0)
    (by decide) (by decide)).2 (by decide)⟩

open CrowdedBucket in
theorem crowdedBucket_settled :
    let after := reassignSplitCandidates Sample.env start
    ("H100", .node 1) ∈ unmoved start after ∧
      reassignSplitCandidates Sample.env (withSplitCandidates after (unmoved start after)) =
        withSplitCandidates after (unmoved start after) := by
  refine ⟨by decide, (reassignSplitCandidates_settled Sample.env start named ?_).2⟩
  intro candidate member
  exact ⟨rfl, 2, (by decide : 2 < 8), rfl⟩

end Lium.RentalPrice
