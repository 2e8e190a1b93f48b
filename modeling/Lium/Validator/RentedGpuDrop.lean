import Mathlib.Data.List.Dedup
import Mathlib.Data.List.Sort
import Mathlib.Algebra.Ring.Int.Defs

/-! # What a scrape shows against what it should

`judge_rented_gpus` compares the cards a scrape lists with the rented count, the driver's count
and the anchored cards, and says whether what it found may be a glitch of one cycle.
-/

namespace Lium.RentedGpuDrop

inductive Fault where
  | belowRentedCount
  | detailsShortOfCount
  | anchoredGpuMissing
  | nvmlError
  | eccUncorrected
deriving DecidableEq, Repr

/-- A row of `gpu_details`. `reference` is the model the row is scored as, `none` where there is
none. -/
structure Card where
  uuid : Option String
  name : Option String
  reference : Option String
deriving DecidableEq, Repr

/-- What a cycle scraped. `gpuScrapeError` is `none` where there is no error, and otherwise the
NVML return code in it, if it has one. -/
structure Scrape where
  gpuCount : ℤ
  gpuDetails : List Card
  gpuScrapeError : Option (Option ℕ)
deriving DecidableEq, Repr

structure RentedPod where
  gpuCount : Option ℤ
  containerName : String
deriving DecidableEq, Repr

structure GpuDrop where
  expected : ℤ
  visible : ℤ
  nvmlCount : ℤ
  missingUuids : List String
  nvmlErrorCode : Option ℕ
  faults : List Fault
  confirmFirst : Bool
deriving DecidableEq, Repr

/-- NVML return codes of a card that is gone or unusable. -/
def nvmlGpuLossCodes : List ℕ := [9, 15, 16, 28, 999]

def maxMissingUuids : ℕ := 16

def maxUuidChars : ℕ := 64

/-- `sorted(set(values))`. -/
def sortedSet (values : List String) : List String := values.dedup.insertionSort (· ≤ ·)

/-- `split_uuids` of a joined list, given as its parts. -/
def splitUuids (parts : List String) : List String := sortedSet (parts.filter (· ≠ ""))

def listedUuids (gpuDetails : List Card) : List String :=
  gpuDetails.filterMap fun card => card.uuid.filter (· ≠ "")

/-- `rented_gpu_count or 1`. -/
def atLeastOne : Option ℤ → ℤ
  | some count => if count = 0 then 1 else count
  | none => 1

/-- `_rented_gpu_count`: unknown when a pod did not send its count. -/
def rentedGpuCount (pods : List RentedPod) : Option ℤ :=
  if pods ≠ [] ∧ ∀ pod ∈ pods, pod.gpuCount.getD 0 ≠ 0 then
    some (pods.map fun pod => pod.gpuCount.getD 0).sum
  else none

section Judgement

variable (rentedCount : Option ℤ) (anchorUuids : List String) (nvmlCount : ℤ)
  (listed : List String) (listedCount : ℕ) (scrapeError : Option (Option ℕ))
  (brokenUuids : List String)

/-- The anchored cards not listed; rows without any UUID say nothing about them. -/
def missingAnchored : List String :=
  if listed ≠ [] ∨ listedCount = 0 then
    (sortedSet (anchorUuids.filter (· ∉ listed))).take maxMissingUuids
  else []

def countFaults : List Fault :=
  (if (listedCount : ℤ) < atLeastOne rentedCount then [.belowRentedCount] else []) ++
  (if (listedCount : ℤ) < nvmlCount then [.detailsShortOfCount] else []) ++
  (if missingAnchored anchorUuids listed listedCount ≠ [] then [.anchoredGpuMissing] else [])

/-- A loss code is a fault by itself, another code only next to one. -/
def namesNvmlError (code : Option ℕ) (found : List Fault) : Bool :=
  match code with
  | some code => decide (code ∈ nvmlGpuLossCodes) || !found.isEmpty
  | none => false

def isLossCode (code : Option ℕ) : Bool := code.any fun code => decide (code ∈ nvmlGpuLossCodes)

def faults : List Fault :=
  countFaults rentedCount anchorUuids nvmlCount listed listedCount ++
  (if namesNvmlError scrapeError.join
      (countFaults rentedCount anchorUuids nvmlCount listed listedCount) then [.nvmlError]
    else []) ++
  (if brokenUuids ≠ [] then [.eccUncorrected] else [])

def expectedCount : ℤ :=
  max (max (atLeastOne rentedCount) anchorUuids.dedup.length) nvmlCount

/-- The rows are short only because an error cut the scrape's loop. -/
def cutShort (found : List Fault) : Bool :=
  scrapeError.isSome && decide (.detailsShortOfCount ∈ found) &&
    decide (max (atLeastOne rentedCount) (anchorUuids.dedup.length : ℤ) ≤ nvmlCount)

/-- A card is missing only from a list that has another one twice. -/
def duplicateListed (found : List Fault) : Bool :=
  decide (.anchoredGpuMissing ∈ found) && decide (listed.dedup.length < listed.length) &&
    decide (expectedCount rentedCount anchorUuids nvmlCount ≤ listedCount)

/-- The fault a scrape shows, or `none` when every card is there. -/
def judgeRentedGpus : Option GpuDrop :=
  let missing := missingAnchored anchorUuids listed listedCount
  let namedBroken := (sortedSet brokenUuids).filter (· ∉ missing)
  let found := faults rentedCount anchorUuids nvmlCount listed listedCount scrapeError brokenUuids
  if found = [] then none
  else some
    { expected := expectedCount rentedCount anchorUuids nvmlCount
      visible := listedCount
      nvmlCount := nvmlCount
      missingUuids := ((missing ++ namedBroken).take maxMissingUuids).map fun uuid =>
        String.ofList (uuid.toList.take maxUuidChars)
      nvmlErrorCode := scrapeError.join
      faults := found
      confirmFirst := !isLossCode scrapeError.join &&
        (cutShort rentedCount anchorUuids nvmlCount scrapeError found ||
          duplicateListed rentedCount anchorUuids nvmlCount listed listedCount found) }

end Judgement

end Lium.RentedGpuDrop
