import Lium.Incentive.ExecutorScore

/-! # State of a scoring cycle

Job results are mutated through shared references, so `ResultRef` names an object and the state
holds the heap. The counters are grouped by the phase that writes them.
-/

namespace Lium

/-- A result object: a node of the fleet, or the virtual free portion of one. -/
inductive ResultRef
  | node (id : ℕ)
  | remainder (id : ℕ)
  deriving DecidableEq

/-- `(base_model, gpu_count_bucket)`. -/
abbrev BucketKey := String × ℕ

/-- The results a cycle is given: each miner's list, over distinct result objects. -/
structure Fleet where
  nodes : ℕ → ValidatedNode
  jobResults : List (String × List ℕ)
  hotkeysNodup : (jobResults.map Prod.fst).Nodup
  nodesNodup : (jobResults.flatMap Prod.snd).Nodup

structure GpuBucketRentalState where
  unrentedCount : ℕ
  maxCap : ℕ
  capMultiplier : ℚ
  weightedRateSum : ℚ

structure RentalMiningState where
  totalGpuCount : ℕ
  totalMiningScore : ℚ
  totalGpuModelCountMap : PyDict String ℕ

structure RentalShareState where
  totalRentalCost : ℚ
  byBucket : PyDict String GpuBucketRentalState
  unbucketedRentalCost : ℚ

structure RentalPriceSnapshot where
  epochSubnetEmission : ℚ
  rentalShare : ℚ
  burnShare : ℚ
  mining : RentalMiningState
  rental : RentalShareState

structure Pools where
  totalMiningScore : ℚ := 0
  unrentedCountByBucket : PyDict BucketKey ℕ := .empty
  weightedRateSumByBucket : PyDict BucketKey ℚ := .empty
  splitFallbackCandidates : List (String × ResultRef) := []
  spotPayCandidates : List (String × ResultRef) := []
  secureFloorCandidates : List (String × ResultRef) := []

structure Shares where
  capMultiplierByBucket : PyDict BucketKey ℚ := .empty
  totalRentalCost : ℚ := 0
  unbucketedRentalCost : ℚ := 0
  rentalShareRaw : ℚ := 0
  rentalShare : ℚ := 0
  unbucketedShareRaw : ℚ := 0
  unbucketedShare : ℚ := 0
  unbucketedPaidFraction : ℚ := 1
  burnShare : ℚ := 0
  epochSubnetEmission : ℚ := 0
  validatorTaoPriceUsd : Option ℚ := none
  validatorAlphaRateTaoPerBlock : Option ℚ := none

/-- The two results a partially rented split node is scored as: node `id` keeps the
rented portion, `remainder id` is the free one, in the list of `hotkey`. -/
structure SplitPortions where
  hotkey : String
  id : ℕ

structure IncentiveState where
  jobResults : List (String × List ResultRef)
  heap : ResultRef → JobResult
  pools : Pools := {}
  shares : Shares := {}
  minerIncentives : PyDict String ℚ := .empty
  seedSnapshot : Option RentalPriceSnapshot := none

namespace Fleet

def refs (fleet : Fleet) : List (String × List ResultRef) :=
  fleet.jobResults.map fun entry => (entry.1, entry.2.map .node)

/-- The object a ref names before scoring. No remainder exists yet. -/
def result (fleet : Fleet) : ResultRef → JobResult
  | .node id => .fresh (fleet.nodes id)
  | .remainder id => .fresh (fleet.nodes id)

def entries (fleet : Fleet) : List (String × ℕ) :=
  fleet.jobResults.flatMap fun entry => entry.2.map (entry.1, ·)

def ofMiner (hotkey : String) (count : ℕ) (nodes : ℕ → ValidatedNode) : Fleet where
  nodes := nodes
  jobResults := [(hotkey, List.range count)]
  hotkeysNodup := List.nodup_singleton _
  nodesNodup := by simpa using List.nodup_range

end Fleet

namespace IncentiveState

def start (fleet : Fleet) : IncentiveState where
  jobResults := fleet.refs
  heap := fleet.result

def write (state : IncentiveState) (ref : ResultRef) (result : JobResult) : IncentiveState :=
  { state with heap := Function.update state.heap ref result }

/-- The order of the nested loops over `self.job_results`. -/
def scoringOrder (state : IncentiveState) : List (String × ResultRef) :=
  state.jobResults.flatMap fun entry => entry.2.map (entry.1, ·)

end IncentiveState

end Lium
