import Lium.Foundation.PyDict
import Lium.Foundation.PyValue

/-! # The shadow VerifyX verdict

`VerifyXCheck._judge` feeds a probe's readings into the stored network EMA and gates on the
result. `verifyx_verdict` is meant to give the same answer with nothing written, for a shadow run
to compare with.
-/

namespace Lium.VerifyX

/-- `MIN_VERIFYX_EMA_DOWNLOAD_SPEED_MBPS`. -/
def minDownload : ℚ := 100

/-- `MIN_VERIFYX_EMA_UPLOAD_SPEED_MBPS`. -/
def minUpload : ℚ := 10

/-- `MAX_KEPT_UPLOAD_PROBES`. -/
def maxKeptUploadProbes : ℕ := 8

/-- `MAX_PACKAGE_FALLBACK_PROBES`. -/
def maxPackageFallbackProbes : ℕ := 8

abbrev Fields := List (String × PyValue)

/-- The data of a VerifyX result whose network entry is an object. -/
structure ResultData where
  fields : Fields
  network : Fields
  network_eq : PyValue.field fields "network" = .dict network

structure NetworkEMA where
  emaVerifyxDownloadSpeed : Option ℚ
  emaVerifyxUploadSpeed : Option ℚ
deriving DecidableEq

section Readings

def isNone : PyValue → Bool
  | .none => true
  | _ => false

/-- A number that is no truth value. -/
def asNumber : PyValue → Option ℚ
  | .int value => some value
  | .float value => some value
  | _ => none

def isPositiveNumber (value : PyValue) : Bool :=
  (asNumber value).any (0 < ·)

def isSpeedReading (value : PyValue) : Bool :=
  isPositiveNumber value || (asNumber value).any (· = 0)

/-- `compute_ema` on a reading, with `NETWORK_EMA_ALPHA`. -/
def computeEma (prev : Option ℚ) (current : ℚ) : ℚ :=
  match prev with
  | none => current
  | some prev => 1 / 2 * current + (1 - 1 / 2) * prev

/-- The number fed for a reading; a failed measurement feeds 0. -/
def fedNumber (reading : PyValue) : ℚ :=
  (asNumber reading).getD 0

def emaIfGated (prev : Option ℚ) (reading : PyValue) : Option ℚ :=
  if !isNone reading && !isSpeedReading reading then prev
  else some (computeEma prev (fedNumber reading))

def fallbackUploadReading (reading : PyValue) (uploadBlocked : Bool) : PyValue :=
  if uploadBlocked && !isPositiveNumber reading then .none else reading

def uploadEmaBase (prevUpload : Option ℚ) (reading : PyValue) : Option ℚ :=
  if prevUpload.any (· < minUpload) && isSpeedReading reading then none else prevUpload

end Readings

def prevDownload (prevEma : Option NetworkEMA) : Option ℚ :=
  prevEma.bind NetworkEMA.emaVerifyxDownloadSpeed

def prevUpload (prevEma : Option NetworkEMA) : Option ℚ :=
  prevEma.bind NetworkEMA.emaVerifyxUploadSpeed

section Gates

inductive DownloadGate where
  | unseeded
  | deferred
  | tooSlow
  | pass
deriving DecidableEq, Repr

def downloadGate (emaDownload : Option ℚ) (prevEma : Option NetworkEMA) (firstPass : Bool) :
    DownloadGate :=
  match emaDownload with
  | none => .unseeded
  | some ema =>
    if minDownload ≤ ema then .pass
    else if firstPass && (prevDownload prevEma).isNone then .deferred
    else .tooSlow

def uploadTooSlow (emaUpload : Option ℚ) (uploadReading : PyValue) (prevEma : Option NetworkEMA)
    (firstPass : Bool) : Bool :=
  match emaUpload with
  | none => false
  | some ema =>
    if minUpload ≤ ema then false
    else !((prevUpload prevEma).isNone && (firstPass || !isSpeedReading uploadReading))

end Gates

section Shadow

def gatedDownloadEma (network : Fields) (prevEma : Option NetworkEMA) : Option ℚ :=
  let reading := PyValue.field network "download_speed"
  if isNone reading && (PyValue.field network "cloudflare_fallback").truthy then
    prevDownload prevEma
  else emaIfGated (prevDownload prevEma) reading

def uploadReading (network : Fields) : PyValue :=
  fallbackUploadReading (PyValue.field network "upload_speed")
    (PyValue.field network "cloudflare_upload_fallback").truthy

/-- The upload EMA `verifyx_verdict` judges. -/
def gatedUploadEma (network : Fields) (prevEma : Option NetworkEMA) : Option ℚ :=
  let uploadFallback := (PyValue.field network "cloudflare_upload_fallback").truthy
  let upload := uploadReading network
  if isNone upload && (uploadFallback || (prevUpload prevEma).isNone) then prevUpload prevEma
  else emaIfGated (uploadEmaBase (prevUpload prevEma) upload) upload

/-- `verifyx_verdict`; a network entry that is no object reads as an empty one. -/
def verifyxVerdict (resultData : Option Fields) (prevEma : Option NetworkEMA) (firstPass : Bool) :
    Bool :=
  match resultData with
  | none => false
  | some data =>
    if (PyValue.field data "success").truthy then
      let network := match PyValue.field data "network" with
        | .dict network => network
        | _ => []
      if downloadGate (gatedDownloadEma network prevEma) prevEma firstPass = .tooSlow then false
      else !uploadTooSlow (gatedUploadEma network prevEma) (uploadReading network) prevEma
        firstPass
    else false

end Shadow

section Judge

inductive Direction where
  | download
  | upload
deriving DecidableEq, Repr

def Direction.text : Direction → String
  | .download => "download"
  | .upload => "upload"

/-- The counts of one host: probes in a row gated on the package reading, and probes in a row
that kept the upload EMA. -/
structure Counters where
  packageFallbackProbes : ℕ
  keptUploadProbes : ℕ
deriving DecidableEq, Repr

/-- A fallback counts while it has not come more than `cap` times in a row; a probe without it
starts the count again. -/
def fallbackWithin (cap : ℕ) (fallback : Bool) (count : ℕ) : Bool × ℕ :=
  if fallback then (count + 1 ≤ cap, count + 1) else (false, 0)

def isPackageReadingGated : Bool → ℕ → Bool × ℕ :=
  fallbackWithin maxPackageFallbackProbes

def uploadKeptWithinCap : Bool → ℕ → Bool × ℕ :=
  fallbackWithin maxKeptUploadProbes

structure Fed where
  ema : Option ℚ
  network : PyDict String PyValue
  unavailable : List Direction

def Direction.emaKey (direction : Direction) : String :=
  "ema_verifyx_" ++ direction.text ++ "_speed"

def Direction.speedKey (direction : Direction) : String :=
  "verifyx_" ++ direction.text ++ "_speed"

def keepEma (network : PyDict String PyValue) (direction : Direction) (prev : Option ℚ)
    (unavailable : List Direction) : Fed where
  ema := prev
  network := match prev with
    | some ema => network.set direction.emaKey (.float ema)
    | none => network
  unavailable := unavailable ++ [direction]

def feedEma (network : PyDict String PyValue) (direction : Direction) (reading : PyValue)
    (prev : Option ℚ) (unavailable : List Direction) (keepPreviousOnNone : Bool) : Fed :=
  if isNone reading && keepPreviousOnNone then keepEma network direction prev unavailable
  else if !isNone reading && !isSpeedReading reading then
    keepEma network direction prev unavailable
  else
    let published :=
      if isNone reading then network else network.set direction.speedKey reading
    let ema := computeEma prev (fedNumber reading)
    ⟨some ema, published.set direction.emaKey (.float ema), unavailable⟩

/-- What the check makes of one result. `gate` is absent when the probe itself failed. -/
structure Judged where
  passed : Bool
  gate : Option DownloadGate
  tooSlow : Option Direction
  network : PyDict String PyValue
  unavailable : List Direction
  counters : Counters

def withoutEma (network : PyDict String PyValue) : PyDict String PyValue where
  items := network.items.filter fun entry =>
    entry.1 ≠ Direction.download.emaKey ∧ entry.1 ≠ Direction.upload.emaKey
  keysNodup := network.keysNodup.sublist (List.filter_sublist.map Prod.fst)

/-- The download reading `_judge` feeds. -/
def judgedDownload (network : Fields) (packageGated : Bool) : PyValue :=
  let capacity := PyValue.field network "capacity_download_speed"
  if (PyValue.field network "cloudflare_fallback").truthy && !packageGated then
    if isPositiveNumber capacity then capacity else .float 0
  else PyValue.field network "download_speed"

/-- `VerifyXCheck._judge` on a result whose network entry is an object, over the network entry of
the scrape. -/
def judge (scraped : PyDict String PyValue) (data : ResultData) (prevEma : Option NetworkEMA)
    (firstPass : Bool) (counters : Counters) : Judged :=
  if (PyValue.field data.fields "success").truthy then
    let packageGated := isPackageReadingGated
      (PyValue.field data.network "cloudflare_fallback").truthy counters.packageFallbackProbes
    let uploadBlocked := uploadKeptWithinCap
      (PyValue.field data.network "cloudflare_upload_fallback").truthy counters.keptUploadProbes
    let counted : Counters := ⟨packageGated.2, uploadBlocked.2⟩
    let download := feedEma scraped .download (judgedDownload data.network packageGated.1)
      (prevDownload prevEma) [] packageGated.1
    let reading := fallbackUploadReading (PyValue.field data.network "upload_speed")
      uploadBlocked.1
    let upload := feedEma download.network .upload reading
      (uploadEmaBase (prevUpload prevEma) reading) download.unavailable
      (uploadBlocked.1 || (prevUpload prevEma).isNone)
    match downloadGate download.ema prevEma firstPass with
    | .unseeded => ⟨true, some .unseeded, none, upload.network, upload.unavailable, counted⟩
    | .deferred =>
      ⟨true, some .deferred, none, withoutEma upload.network, upload.unavailable, counted⟩
    | .tooSlow =>
      ⟨false, some .tooSlow, some .download, upload.network, upload.unavailable, counted⟩
    | .pass =>
      if uploadTooSlow upload.ema reading prevEma firstPass then
        ⟨false, some .pass, some .upload, upload.network, upload.unavailable, counted⟩
      else ⟨true, some .pass, none, upload.network, upload.unavailable, counted⟩
  else ⟨false, none, none, scraped, [], counters⟩

end Judge

section Agreement

theorem fallbackWithin_of_lt {cap count : ℕ} (below : count < cap) (fallback : Bool) :
    (fallbackWithin cap fallback count).1 = fallback := by
  cases fallback with
  | false => rfl
  | true => exact decide_eq_true below

theorem feedEma_ema (network : PyDict String PyValue) (direction : Direction) (reading : PyValue)
    (prev : Option ℚ) (unavailable : List Direction) (keep : Bool) :
    (feedEma network direction reading prev unavailable keep).ema =
      if isNone reading && keep then prev else emaIfGated prev reading := by
  rw [feedEma, emaIfGated]
  split
  · rfl
  · split <;> rfl

theorem isSpeedReading_of_isNone {reading : PyValue} (missing : isNone reading = true) :
    isSpeedReading reading = false := by
  cases reading <;> first | rfl | cases missing

variable {scraped : PyDict String PyValue} {data : ResultData} {prevEma : Option NetworkEMA}
  {firstPass : Bool} {counters : Counters}

theorem upload_ema_eq (published : PyDict String PyValue) (network : Fields)
    (prevEma : Option NetworkEMA) (unavailable : List Direction) :
    (feedEma published .upload (uploadReading network)
      (uploadEmaBase (prevUpload prevEma) (uploadReading network)) unavailable
      ((PyValue.field network "cloudflare_upload_fallback").truthy ||
        (prevUpload prevEma).isNone)).ema = gatedUploadEma network prevEma := by
  rw [feedEma_ema, gatedUploadEma]
  split
  · rename_i kept
    rw [Bool.and_eq_true] at kept
    rw [uploadEmaBase, isSpeedReading_of_isNone kept.1, Bool.and_false]
    rfl
  · rfl

def passedBy (gate : DownloadGate) (slowUpload : Bool) : Bool :=
  match gate with
  | .unseeded => true
  | .deferred => true
  | .tooSlow => false
  | .pass => !slowUpload

theorem judge_passed (scraped : PyDict String PyValue) (prevEma : Option NetworkEMA)
    (firstPass : Bool) (succeeded : (PyValue.field data.fields "success").truthy = true)
    (belowPackage : counters.packageFallbackProbes < maxPackageFallbackProbes)
    (belowUpload : counters.keptUploadProbes < maxKeptUploadProbes) :
    (judge scraped data prevEma firstPass counters).passed =
      passedBy (downloadGate (gatedDownloadEma data.network prevEma) prevEma firstPass)
        (uploadTooSlow (gatedUploadEma data.network prevEma) (uploadReading data.network) prevEma
          firstPass) := by
  have blocked : (uploadKeptWithinCap
      (PyValue.field data.network "cloudflare_upload_fallback").truthy
      counters.keptUploadProbes).1 =
        (PyValue.field data.network "cloudflare_upload_fallback").truthy :=
    fallbackWithin_of_lt belowUpload _
  have gated : (isPackageReadingGated (PyValue.field data.network "cloudflare_fallback").truthy
      counters.packageFallbackProbes).1 =
        (PyValue.field data.network "cloudflare_fallback").truthy :=
    fallbackWithin_of_lt belowPackage _
  have download : (feedEma scraped .download (judgedDownload data.network
      (PyValue.field data.network "cloudflare_fallback").truthy) (prevDownload prevEma) []
        (PyValue.field data.network "cloudflare_fallback").truthy).ema =
          gatedDownloadEma data.network prevEma := by
    rw [feedEma_ema, judgedDownload, Bool.and_not_self]
    rfl
  rw [judge, if_pos succeeded]
  dsimp only
  rw [gated, download, blocked]
  change Judged.passed (match downloadGate _ _ _ with
    | .unseeded => _ | .deferred => _ | .tooSlow => _
    | .pass => if uploadTooSlow (feedEma _ _ (uploadReading data.network)
        (uploadEmaBase _ (uploadReading data.network)) _ _).ema (uploadReading data.network) _ _
        then _ else _) = _
  rw [upload_ema_eq]
  cases downloadGate (gatedDownloadEma data.network prevEma) prevEma firstPass with
  | unseeded => rfl
  | deferred => rfl
  | tooSlow => rfl
  | pass =>
    cases uploadTooSlow (gatedUploadEma data.network prevEma) (uploadReading data.network) prevEma
      firstPass <;> rfl

/-- The check passes such a result before it reads the upload: the download was never measured,
and this probe leaves it unseeded or is a first pass below the floor. -/
def PassesBeforeUpload (network : Fields) (prevEma : Option NetworkEMA) (firstPass : Bool) :
    Prop :=
  prevDownload prevEma = none ∧
    ((isNone (PyValue.field network "download_speed") = true ∧
        (PyValue.field network "cloudflare_fallback").truthy = true) ∨
      (isNone (PyValue.field network "download_speed") = false ∧
        isSpeedReading (PyValue.field network "download_speed") = false) ∨
      (firstPass = true ∧ fedNumber (PyValue.field network "download_speed") < minDownload))

theorem downloadGate_of_measured {prev : ℚ} (measured : prevDownload prevEma = some prev)
    (network : Fields) (firstPass : Bool) :
    downloadGate (gatedDownloadEma network prevEma) prevEma firstPass = .tooSlow ∨
      downloadGate (gatedDownloadEma network prevEma) prevEma firstPass = .pass := by
  have judged : ∃ ema, gatedDownloadEma network prevEma = some ema := by
    rw [gatedDownloadEma, measured, emaIfGated]
    split
    · exact ⟨prev, rfl⟩
    · split
      · exact ⟨prev, rfl⟩
      · exact ⟨_, rfl⟩
  rcases judged with ⟨ema, judged⟩
  simp only [downloadGate, judged, measured, Option.isNone_some, Bool.and_false,
    Bool.false_eq_true, if_false]
  split
  · exact Or.inr rfl
  · exact Or.inl rfl

theorem passesBeforeUpload_iff (network : Fields) (prevEma : Option NetworkEMA)
    (firstPass : Bool) :
    PassesBeforeUpload network prevEma firstPass ↔
      downloadGate (gatedDownloadEma network prevEma) prevEma firstPass = .unseeded ∨
        downloadGate (gatedDownloadEma network prevEma) prevEma firstPass = .deferred := by
  rw [PassesBeforeUpload]
  cases measured : prevDownload prevEma with
  | some prev =>
    rcases downloadGate_of_measured measured network firstPass with gate | gate <;> simp [gate]
  | none =>
    -- unseeded without a sample, deferred on a first pass with one below the floor
    rw [gatedDownloadEma, measured, emaIfGated, ← not_le]
    cases isNone (PyValue.field network "download_speed") <;>
      cases (PyValue.field network "cloudflare_fallback").truthy <;>
      cases isSpeedReading (PyValue.field network "download_speed") <;>
      cases firstPass <;>
      by_cases fast : minDownload ≤ fedNumber (PyValue.field network "download_speed") <;>
      simp [downloadGate, computeEma, measured, fast]

end Agreement

namespace Sample

def unreadable : ResultData where
  fields := [("success", .bool true),
    ("network", .dict [("download_speed", .str "n/a"), ("upload_speed", .float 5)])]
  network := [("download_speed", .str "n/a"), ("upload_speed", .float 5)]
  network_eq := rfl

end Sample

theorem unreadable_download_parts_verdicts :
    (judge PyDict.empty Sample.unreadable none false ⟨0, 0⟩).passed = true ∧
      verifyxVerdict (some Sample.unreadable.fields) none false = false := by
  decide +kernel

/-- Below the caps, the shadow verdict is the check's own exactly if the check does not pass the
result before it reads an upload that is too slow. -/
theorem verdict_eq_passed_iff (scraped : PyDict String PyValue) (data : ResultData)
    (prevEma : Option NetworkEMA) (firstPass : Bool) (counters : Counters)
    (belowPackage : counters.packageFallbackProbes < maxPackageFallbackProbes)
    (belowUpload : counters.keptUploadProbes < maxKeptUploadProbes) :
    (verifyxVerdict (some data.fields) prevEma firstPass = true ↔
        (judge scraped data prevEma firstPass counters).passed = true) ↔
      ¬ ((PyValue.field data.fields "success").truthy = true ∧
        PassesBeforeUpload data.network prevEma firstPass ∧
        uploadTooSlow (gatedUploadEma data.network prevEma) (uploadReading data.network) prevEma
          firstPass = true) := by
  cases succeeded : (PyValue.field data.fields "success").truthy with
  | false =>
    have failed : (judge scraped data prevEma firstPass counters).passed = false := by
      simp [judge, succeeded]
    simp [failed, verifyxVerdict, succeeded]
  | true =>
    have verdict : verifyxVerdict (some data.fields) prevEma firstPass =
        (decide (downloadGate (gatedDownloadEma data.network prevEma) prevEma firstPass ≠
            .tooSlow) &&
          !uploadTooSlow (gatedUploadEma data.network prevEma) (uploadReading data.network) prevEma
            firstPass) := by
      simp only [verifyxVerdict, if_pos succeeded, data.network_eq]
      split <;> simp_all
    rw [verdict, judge_passed scraped prevEma firstPass succeeded belowPackage belowUpload,
      passesBeforeUpload_iff]
    -- what is left compares two readings of the gate and of the upload's answer
    cases downloadGate (gatedDownloadEma data.network prevEma) prevEma firstPass <;>
      cases uploadTooSlow (gatedUploadEma data.network prevEma) (uploadReading data.network)
        prevEma firstPass <;> simp [passedBy]

theorem verdict_eq_passed_iff_unreadable :
    (verifyxVerdict (some Sample.unreadable.fields) none false = true ↔
        (judge PyDict.empty Sample.unreadable none false ⟨0, 0⟩).passed = true) ↔
      ¬ ((PyValue.field Sample.unreadable.fields "success").truthy = true ∧
        PassesBeforeUpload Sample.unreadable.network none false ∧
        uploadTooSlow (gatedUploadEma Sample.unreadable.network none)
          (uploadReading Sample.unreadable.network) none false = true) :=
  verdict_eq_passed_iff PyDict.empty Sample.unreadable none false ⟨0, 0⟩ (by decide) (by decide)

end Lium.VerifyX
