import Mathlib.Data.Finset.Card

/-! # The GPU anchor

A verified-job record is anchored to the cards of the first successful run. Another set of as many
cards replaces the anchor; nothing changes its size.
-/

namespace Lium.GpuAnchor

/-- The verified-job record of an executor. A missing one is read as the default. -/
structure Record where
  count : ℕ := 0
  failed : ℕ := 0
  spec : String := ""
  uuids : String := ""
  gpuAnchorBroken : Bool := false

def setVerifiedJobInfo (prevInfo : Record) (success : Bool) (spec uuids : String) : Record where
  count := if success then prevInfo.count + 1 else prevInfo.count
  failed := if success then prevInfo.failed else prevInfo.failed + 1
  spec := if prevInfo.spec ≠ "" then prevInfo.spec else spec
  uuids := if prevInfo.uuids ≠ "" then prevInfo.uuids else uuids
  gpuAnchorBroken := prevInfo.gpuAnchorBroken

def clearVerifiedJobInfo (prevInfo : Record) (reanchorUuids : String) : Record where
  spec := prevInfo.spec
  uuids := if reanchorUuids ≠ "" then reanchorUuids else prevInfo.uuids
  gpuAnchorBroken := prevInfo.gpuAnchorBroken

/-- The distinct UUIDs of a comma-joined list. -/
def splitUuids (csv : String) : Finset String :=
  (((csv.toList.splitOn ',').map String.ofList).filter (· ≠ "")).toFinset

def Record.anchor (record : Record) : Finset String := splitUuids record.uuids

/-- One validation run. The other checks are known by what they ask for. -/
structure Run where
  gpuModelCount : Option String
  gpuUuids : Option String
  hasLiveRental : Bool
  gpuAnchorHardEnabled : Bool
  reachesFingerprint : Bool
  othersSucceed : Bool
  othersClear : Bool

namespace Run

def current (run : Run) : Finset String := splitUuids (run.gpuUuids.getD "")

inductive Reason
  | uuidOk
  | gpuMissing
  | uuidChanged

structure CheckResult where
  passed : Bool := true
  fatal : Bool := true
  reason : Reason := .uuidOk
  gpuReanchor : Bool := false
  clearVerifiedJobInfo : Bool := false
  gpuFingerprintPassed : Bool := true

def fullSetChanged (anchor current : Finset String) : Bool :=
  anchor.Nonempty ∧ current.card = anchor.card ∧ current ≠ anchor

/-- `GpuFingerprintCheck.run`. -/
def gpuFingerprintCheck (run : Run) (verified : Record) : CheckResult :=
  if fullSetChanged verified.anchor run.current then { gpuReanchor := true }
  else if verified.anchor.Nonempty ∧ run.current.Nonempty ∧ verified.anchor ≠ run.current then
    { passed := false
      fatal := !run.hasLiveRental
      reason :=
        if run.gpuAnchorHardEnabled ∧ run.current \ verified.anchor = ∅ then .gpuMissing
        else .uuidChanged
      clearVerifiedJobInfo := true
      gpuFingerprintPassed := !run.hasLiveRental }
  else {}

/-- The check's part in the context that the run ends with. -/
def checked (run : Run) (verified : Record) : CheckResult :=
  if run.reachesFingerprint then run.gpuFingerprintCheck verified else {}

/-- Under a live rental the run goes on, and `_ended` fails it. -/
def success (run : Run) (verified : Record) : Bool :=
  run.othersSucceed && ((run.checked verified).passed || !(run.checked verified).fatal) &&
    (run.checked verified).gpuFingerprintPassed

/-- `_persist_verification_data`. -/
def persistVerificationData (run : Run) (verified : Record) : Record :=
  let gpuModelCount := run.gpuModelCount.getD ""
  let gpuUuids := run.gpuUuids.getD ""
  let reanchor := (run.checked verified).gpuReanchor
  if run.success verified then
    if gpuModelCount ≠ "" ∧ gpuUuids ≠ "" then
      setVerifiedJobInfo (if reanchor then { verified with uuids := "" } else verified) true
        gpuModelCount gpuUuids
    else verified
  else
    let reanchorUuids := if reanchor then gpuUuids else ""
    if (run.checked verified).clearVerifiedJobInfo || run.othersClear then
      clearVerifiedJobInfo verified reanchorUuids
    else
      setVerifiedJobInfo
        (if reanchorUuids ≠ "" then { verified with uuids := reanchorUuids } else verified)
        false "" ""

end Run

/-- The record after runs one after the other, from none. -/
def recordAfter (runs : List Run) : Record :=
  runs.foldl (fun verified run => run.persistVerificationData verified) {}

variable {run : Run} {verified : Record}

theorem gpuReanchor_iff : (run.checked verified).gpuReanchor = true ↔
    run.reachesFingerprint = true ∧ Run.fullSetChanged verified.anchor run.current = true := by
  simp only [Run.checked, Run.gpuFingerprintCheck]
  split_ifs <;> simp_all

theorem anchor_of_empty (none : verified.uuids = "") : verified.anchor = ∅ := by
  simp [Record.anchor, none, splitUuids]

theorem uuids_ne_empty (changed : Run.fullSetChanged verified.anchor run.current = true) :
    run.gpuUuids.getD "" ≠ "" := by
  intro none
  have unlisted : run.current = ∅ := by simp [Run.current, none, splitUuids]
  simp only [Run.fullSetChanged, unlisted, decide_eq_true_eq, Finset.card_empty] at changed
  exact changed.1.card_pos.ne changed.2.1

/-- What one run may do to the anchor. -/
inductive Anchors (run : Run) (verified after : Record) : Prop
  | kept (same : after.anchor = verified.anchor)
  | first (none : verified.anchor = ∅) (success : run.success verified = true)
      (scraped : after.anchor = run.current)
  | again (reached : run.reachesFingerprint = true)
      (changed : Run.fullSetChanged verified.anchor run.current = true)
      (scraped : after.anchor = run.current)

theorem anchors_persist (run : Run) (verified : Record) :
    Anchors run verified (run.persistVerificationData verified) := by
  cases reanchor : (run.checked verified).gpuReanchor with
  | true =>
    rcases gpuReanchor_iff.mp reanchor with ⟨reached, changed⟩
    have listed := uuids_ne_empty changed
    simp only [Run.persistVerificationData, reanchor, if_true, if_pos listed]
    split_ifs
    · exact .again reached changed (by simp [Record.anchor, setVerifiedJobInfo, Run.current])
    · exact .kept rfl
    · exact .again reached changed
        (by simp [Record.anchor, clearVerifiedJobInfo, Run.current, listed])
    · exact .again reached changed
        (by simp [Record.anchor, setVerifiedJobInfo, Run.current, listed])
  | false =>
    simp only [Run.persistVerificationData, reanchor, Bool.false_eq_true, if_false, ne_eq,
      not_true_eq_false]
    split_ifs with success written
    · by_cases none : verified.uuids = ""
      · exact .first (anchor_of_empty none) success
          (by simp [Record.anchor, setVerifiedJobInfo, Run.current, none])
      · exact .kept (by simp [Record.anchor, setVerifiedJobInfo, none])
    · exact .kept rfl
    · exact .kept (by simp [Record.anchor, clearVerifiedJobInfo])
    · by_cases none : verified.uuids = "" <;>
        exact .kept (by simp [Record.anchor, setVerifiedJobInfo, none])

theorem Anchors.card_eq {after : Record} (anchors : Anchors run verified after)
    (anchored : verified.anchor.Nonempty) : after.anchor.card = verified.anchor.card := by
  cases anchors with
  | kept same => rw [same]
  | first none _ _ => exact absurd none anchored.ne_empty
  | again _ changed scraped =>
    simp only [Run.fullSetChanged, decide_eq_true_eq] at changed
    rw [scraped, changed.2.1]

theorem card_anchor_foldl (runs : List Run) (anchored : verified.anchor.Nonempty) :
    (runs.foldl (fun verified run => run.persistVerificationData verified) verified).anchor.card =
      verified.anchor.card := by
  induction runs generalizing verified with
  | nil => rfl
  | cons run rest induction =>
    have same := (anchors_persist run verified).card_eq anchored
    rw [List.foldl_cons, induction (Finset.card_pos.mp (same ▸ anchored.card_pos)), same]

/-- Whatever the runs: the anchor is set by a successful run or replaced by another full set, so its
size stays, and a scrape of another size fails the check and leaves it. -/
theorem gpu_anchor_keeps_size (before after : List Run) (run : Run) :
    Anchors run (recordAfter before) (recordAfter (before ++ [run])) ∧
      ((recordAfter before).anchor.Nonempty →
        (recordAfter (before ++ after)).anchor.card = (recordAfter before).anchor.card ∧
          (run.current.Nonempty → run.current.card ≠ (recordAfter before).anchor.card →
            (run.gpuFingerprintCheck (recordAfter before)).passed = false ∧
              (recordAfter (before ++ [run])).anchor = (recordAfter before).anchor)) := by
  have anchors : Anchors run (recordAfter before) (recordAfter (before ++ [run])) := by
    simpa [recordAfter] using anchors_persist run (recordAfter before)
  refine ⟨anchors, fun anchored => ⟨?_, fun listed resized => ?_⟩⟩
  · rw [recordAfter, List.foldl_append]
    exact card_anchor_foldl after anchored
  have unchanged : Run.fullSetChanged (recordAfter before).anchor run.current = false := by
    simp [Run.fullSetChanged, resized]
  have different : (recordAfter before).anchor ≠ run.current := fun same => resized (same ▸ rfl)
  refine ⟨by simp [Run.gpuFingerprintCheck, unchanged, anchored, listed, different], ?_⟩
  cases anchors with
  | kept same => exact same
  | first none _ _ => exact absurd none anchored.ne_empty
  | again _ changed _ =>
    rw [unchanged] at changed
    cases changed

/-- Two cards are anchored; one that falls out fails the check, and two others replace them. -/
example :
    let run (uuids : String) : Run := ⟨some "H100:2", some uuids, false, false, true, true, false⟩
    (recordAfter [run "a,b", run "b"]).uuids = "a,b" ∧
      (recordAfter [run "a,b", run "b", run "c,d,c"]).uuids = "c,d,c" := by
  decide +kernel

end Lium.GpuAnchor
