import Lium.Foundation.PinnedPairs
import Lium.Foundation.PyValue
import Lium.Foundation.Text
import Mathlib.Data.List.Sort

/-! # The identity of an attested GPU

`GpuAttestationIdentityCheck.run` compares what the cards attest and what the scrape reports with
the pins in Redis, and pins both when nothing is found. `none` is a run that raises; an exception
inside the record's `try` leaves the findings appended so far.
-/

namespace Lium.AttestationIdentity

/-- The first 32 hexadecimal digits of the digest of a device key. -/
abbrev Identity := BitVec 128

/-- The name of a card as the scrape leaves it: a text, or a falsy value kept as it is. -/
inductive GpuName
  | none
  | text (value : String)
  /-- `0`, `0.0` or `False`, with how it prints -/
  | zero (shown : String)
  | emptyList
  | emptyDict
  deriving DecidableEq

namespace GpuName

def truthy : GpuName → Bool
  | text value => value ≠ ""
  | _ => false

/-- `name in (None, "")`. -/
def unknown : GpuName → Bool
  | none => true
  | text value => value = ""
  | _ => false

/-- What Python's equality compares: all zeros are equal. -/
def comparand : GpuName → GpuName
  | zero _ => zero ""
  | name => name

def same (first second : GpuName) : Bool := first.comparand = second.comparand

def shown : GpuName → String
  | none => "None"
  | text value => value
  | zero shown => shown
  | emptyList => "[]"
  | emptyDict => "\x7b\x7d"

end GpuName

def h100Sxm : String := "NVIDIA H100 80GB HBM3"
def h100Pcie : String := "NVIDIA H100 PCIe"

def normalizationMap : List (String × String) :=
  [("Tesla V100-SXM2-16GB", "NVIDIA Tesla V100 Tensor Core GPU"),
    ("Tesla V100-SXM2-32GB", "NVIDIA Tesla V100 Tensor Core GPU"),
    ("Tesla V100-PCIE-16GB", "NVIDIA Tesla V100 Tensor Core GPU"),
    ("Tesla V100-PCIE-32GB", "NVIDIA Tesla V100 Tensor Core GPU"),
    ("Tesla H100 80GB HBM3", "NVIDIA H100 80GB HBM3"),
    ("Tesla T4", "NVIDIA T4 Tensor Core GPU"),
    ("NVIDIA T4", "NVIDIA T4 Tensor Core GPU"),
    ("NVIDIA A10", "NVIDIA A10 Tensor Core GPU"),
    ("NVIDIA A10G", "NVIDIA A10 Tensor Core GPU")]

def normalizeText (name : String) : String :=
  (normalizationMap.lookup (Text.strip name)).getD (Text.strip name)

def normalizeGpuModel : GpuName → String
  | .text name => if name = "" then "" else normalizeText name
  | _ => ""

/-- A name of the raw scrape, where a value that is no text has no `strip`. -/
def normalizeRawName (name : PyValue) : Option String :=
  if name.truthy then
    match name with
    | .str text => some (normalizeText text)
    | _ => none
  else some ""

/-- H100 SXM modules on adapter boards: no NVLink at all, and every card has the SXM name. -/
def isSxmOnPcieAdapter (specs : List (String × PyValue)) : Option Bool :=
  match PyValue.field specs "interconnect" with
  | .dict interconnect =>
    let off := match PyValue.field interconnect "nvlink" with
      | .bool false => true
      | _ => false
    let unpaired := match PyValue.field interconnect "nvlink_pairs" with
      | .int pairs => pairs = 0
      | .float pairs => pairs = 0
      | .bool pairs => !pairs
      | _ => false
    if off && unpaired then do
      let details ← (((PyValue.field specs "gpu").orElse (.dict [])).get "details").toOption
      let gpus ← (details.orElse (.list [])).iterate.toOption
      let names ← gpus.filterMapM fun gpu =>
        match gpu with
        | .dict fields => (normalizeRawName (PyValue.field fields "name")).map some
        | _ => some none
      return names ≠ [] && names.all (· = h100Sxm)
    else some false
  | _ => some false

/-! ## What a run reads of a node -/

structure GpuDetail where
  /-- `none` is a value that is no text -/
  uuid : Option String
  name : GpuName
  capacity : PyValue

/-- One card of the output of the attest command. A missing field reads `None`. -/
structure AttestRow where
  uuid : PyValue := .none
  serial : PyValue := .none
  vbios : PyValue := .none
  pci : PyValue := .none
  certRc : PyValue := .none
  chain : PyValue := .none
  report : PyValue := .none

inductive EvidenceError
  /-- `AttestationInvalid`, or text that is not base64 -/
  | invalid
  | other

structure Input where
  gpuUuids : String
  rows : List AttestRow
  /-- decoding a chain and a report and verifying them against the nonce of the run -/
  verifyGpuEvidence : PyValue → PyValue → Except EvidenceError Identity
  gpuDetails : List GpuDetail
  specs : List (String × PyValue)
  /-- the address and the port of the executor -/
  host : String
  liveRental : Bool

inductive Evidence
  | verified (identity : Identity)
  | unavailable
  | invalid
  deriving DecidableEq

/-- What is pinned of a card; `serial` is what `_serial` makes of the reported one. -/
structure Hardware where
  name : GpuName
  capacity : PyValue
  serial : Option String
  vbios : PyValue
  pci : PyValue

structure Card where
  uuid : String
  evidence : Evidence
  /-- `none` is a UUID without a row of details -/
  hardware : Option Hardware

def Card.identity (card : Card) : Option Identity :=
  match card.evidence with
  | .verified identity => some identity
  | _ => none

def Card.serial (card : Card) : Option String := card.hardware.bind Hardware.serial

def noSerial : List String := ["", "0", "N/A", "[N/A]", "Not Supported"]

/-- `_serial`: a truthy value that is no text has no `strip`. -/
def serialOf (value : PyValue) : Option (Option String) :=
  let known (text : String) := if Text.strip text ∈ noSerial then none else some (Text.strip text)
  if value.truthy then
    match value with
    | .str text => some (known text)
    | _ => none
  else some none

/-- `sorted(set(reported_gpu_uuids(ctx)))`. -/
def Input.reported (input : Input) : List String :=
  (((input.gpuUuids.toList.splitOn ',').map String.ofList).filter (· ≠ "")).dedup.insertionSort
    (· ≤ ·)

/-- `by_uuid`: the last row of a UUID. -/
def Input.row? (input : Input) (uuid : String) : Option AttestRow :=
  input.rows.reverse.find? fun row =>
    match row.uuid with
    | .str text => text = uuid
    | _ => false

def Input.evidence (input : Input) (row? : Option AttestRow) : Option Evidence :=
  match row? with
  | none => some .unavailable
  | some row =>
    if row.chain.truthy && row.report.truthy then
      match input.verifyGpuEvidence row.chain row.report with
      | .ok identity => some (.verified identity)
      | .error .invalid => some .invalid
      | .error .other => none
    else some .unavailable

/-- `hw_by_uuid`: the last row of details of a UUID, with the fields of its attest row. -/
def Input.hardware (input : Input) (adapter : Bool) (uuid : String) (row? : Option AttestRow) :
    Option (Option Hardware) :=
  match input.gpuDetails.reverse.find? fun detail => detail.uuid = some uuid with
  | none => some none
  | some detail => do
      let row := row?.getD {}
      let serial ← serialOf row.serial
      return some
        { name := if adapter then .text h100Sxm else detail.name
          capacity := detail.capacity
          serial := serial
          vbios := row.vbios
          pci := row.pci }

def Input.card (input : Input) (adapter : Bool) (uuid : String) : Option Card := do
  let evidence ← input.evidence (input.row? uuid)
  let hardware ← input.hardware adapter uuid (input.row? uuid)
  return ⟨uuid, evidence, hardware⟩

structure Reading where
  adapter : Bool
  cards : List Card

/-- A row with an unhashable UUID cannot be indexed. -/
def Input.indexable (input : Input) : Bool :=
  input.rows.all fun row => !row.uuid.truthy || row.uuid.hashable

def Input.reading (input : Input) : Option Reading :=
  if input.indexable then do
    let adapter ← isSxmOnPcieAdapter input.specs
    let cards ← input.reported.mapM (input.card adapter)
    return ⟨adapter, cards⟩
  else none

def Reading.hardware (reading : Reading) : List Hardware := reading.cards.filterMap Card.hardware

/-! ## Findings -/

structure HostRecord where
  uuids : List String
  slots : List String

/-- The five tables of the check, each under key names of its own. -/
structure Pins where
  uuid : String → Option Identity
  identity : Identity → Option String
  hw : String → Option Hardware
  serial : String → Option String
  host : String → Option HostRecord

def Pins.empty : Pins where
  uuid _ := none
  identity _ := none
  hw _ := none
  serial _ := none
  host _ := none

inductive Finding
  | attestationInvalid
  | oneCardUnderSeveralUuids
  | mixedModelsOneHost
  | oneSerialUnderSeveralUuids
  | serialMoved
  | uuidsChangedSameSlots
  | identityMoved
  | identityChanged
  | hardwareChangedUnderUuid
  deriving DecidableEq

/-- What is kept in `moved` of a card. -/
inductive Note
  | uuidChangedIdentity
  | attestedBeforeUnavailableNow
  | identityWasUnder (owner : String)
  | serialWasUnder (owner : String)
  deriving DecidableEq

inductive HwField
  | name
  | capacity
  | serial
  deriving DecidableEq

def capacityTolerance : ℚ := 1 / 10

/-- `value in (None, "")`. -/
def unknownCapacity : PyValue → Bool
  | .none => true
  | .str text => text = ""
  | _ => false

/-- `none` is a capacity that `float` cannot read. -/
def capacityChanged (runtime : PyRuntime) (old new : PyValue) : Option Bool :=
  if unknownCapacity old || unknownCapacity new then some false
  else do
    let old ← (old.toFloat runtime).toOption
    let new ← (new.toFloat runtime).toOption
    return capacityTolerance * max old new < |old - new|

def nameChanged (adapter : Bool) (old new : GpuName) : Bool :=
  let listedAsH100 (name : GpuName) := normalizeGpuModel name ∈ [h100Sxm, h100Pcie]
  !(old.unknown || new.unknown) && !(adapter && listedAsH100 old && listedAsH100 new) &&
    !old.same new

def serialChanged (old new : Option String) : Bool :=
  match old, new with
  | some old, some new => old ≠ new
  | _, _ => false

/-- The pinned fields that a UUID changed; a field unknown on either side is not compared. -/
def hwChanges (runtime : PyRuntime) (previous current : Hardware) (adapter : Bool) :
    Option (List HwField) := do
  let capacity ← capacityChanged runtime previous.capacity current.capacity
  return (if nameChanged adapter previous.name current.name then [.name] else []) ++
    (if capacity then [.capacity] else []) ++
    (if serialChanged previous.serial current.serial then [.serial] else [])

/-- Bus id and model of each card, empty unless every card has a bus id. -/
def Reading.hostSlots (runtime : PyRuntime) (reading : Reading) : List String :=
  if reading.hardware ≠ [] && reading.hardware.all (·.pci.truthy) then
    (reading.hardware.map fun hw => hw.pci.text runtime ++ "|" ++ hw.name.shown).insertionSort
      (· ≤ ·)
  else []

def Reading.findings (reading : Reading) : List Finding :=
  let modelNames := reading.hardware.filterMap fun hw =>
    if hw.name.truthy then some hw.name else none
  (if reading.cards.any (·.evidence = .invalid) then [.attestationInvalid] else []) ++
    (if (reading.cards.filterMap Card.identity).Nodup then [] else [.oneCardUnderSeveralUuids]) ++
    (if 1 < modelNames.dedup.length then [.mixedModelsOneHost] else []) ++
    (if (reading.cards.filterMap Card.serial).Nodup then [] else [.oneSerialUnderSeveralUuids])

namespace Pins

variable (pins : Pins)

def pinNote (card : Card) : Option Note :=
  match pins.uuid card.uuid, card.evidence with
  | some pinned, .verified identity => if pinned = identity then none else some .uuidChangedIdentity
  | some _, .unavailable => some .attestedBeforeUnavailableNow
  | _, _ => none

def identityNote (card : Card) : Option Note := do
  let owner ← pins.identity (← card.identity)
  if owner = card.uuid then none else some (.identityWasUnder owner)

def serialNote (card : Card) : Option Note := do
  let owner ← pins.serial (← card.serial)
  if owner = card.uuid then none else some (.serialWasUnder owner)

/-- A later note on a card replaces an earlier one. -/
def note (card : Card) : Option Note :=
  (pins.serialNote card).or ((pins.identityNote card).or (pins.pinNote card))

/-- `none` is an exception; a card without hardware, or without a record of it, changes nothing. -/
def changes (runtime : PyRuntime) (adapter : Bool) (card : Card) : Option (List HwField) :=
  match card.hardware, pins.hw card.uuid with
  | some current, some previous => hwChanges runtime previous current adapter
  | _, _ => some []

end Pins

structure Judged where
  notes : List Note
  changed : List (List HwField)
  raised : Bool

def judgeCards (runtime : PyRuntime) (pins : Pins) (adapter : Bool) : List Card → Judged
  | [] => ⟨[], [], false⟩
  | card :: rest =>
    match pins.changes runtime adapter card with
    | none => ⟨[], [], true⟩
    | some fields =>
      let judged := judgeCards runtime pins adapter rest
      ⟨(pins.note card).toList ++ judged.notes, fields :: judged.changed, judged.raised⟩

def Note.isSerialWasUnder : Note → Bool
  | .serialWasUnder _ => true
  | _ => false

def Note.isIdentityWasUnder : Note → Bool
  | .identityWasUnder _ => true
  | _ => false

def Note.isIdentityChange : Note → Bool
  | .uuidChangedIdentity | .attestedBeforeUnavailableNow => true
  | _ => false

/-- Every UUID of the host is new, the models and the slots are the same, and not every card has
a serial. -/
def uuidsChangedSameSlots (previous : Option HostRecord) (reading : Reading)
    (slots : List String) : Bool :=
  match previous with
  | some host =>
    slots ≠ [] && host.slots = slots &&
      reading.cards.all (fun card => card.uuid ∉ host.uuids) &&
      !reading.hardware.all (·.serial.isSome)
  | none => false

/-- All findings. A moved serial is found card by card, and stays found when a later card raises;
the other notes count only when the loop has come to its end. -/
def allFindings (runtime : PyRuntime) (pins : Pins) (host : String) (reading : Reading) :
    List Finding :=
  let judged := judgeCards runtime pins reading.adapter reading.cards
  let slots := reading.hostSlots runtime
  reading.findings ++ (judged.notes.filter Note.isSerialWasUnder).map (fun _ => .serialMoved) ++
    if judged.raised then []
    else
      (if uuidsChangedSameSlots (pins.host host) reading slots then
        [.uuidsChangedSameSlots] else []) ++
      (if judged.notes.any Note.isIdentityWasUnder then [.identityMoved] else []) ++
      (if judged.notes.any Note.isIdentityChange then [.identityChanged] else []) ++
      (if judged.changed.any (· ≠ []) then [.hardwareChangedUnderUuid] else [])

/-! ## Pins -/

def Reading.identities (reading : Reading) : List (String × Identity) :=
  reading.cards.filterMap fun card => card.identity.map (card.uuid, ·)

def Reading.hardwarePairs (reading : Reading) : List (String × Hardware) :=
  reading.cards.filterMap fun card => card.hardware.map (card.uuid, ·)

def Reading.serials (reading : Reading) : List (String × String) :=
  reading.cards.filterMap fun card => card.serial.map (·, card.uuid)

open PinnedPairs in
def Pins.pinCards (pins : Pins) (reading : Reading) : Pins :=
  { pins with
    uuid := writeAll reading.identities pins.uuid
    identity := writeAll (reading.identities.map Prod.swap) pins.identity
    hw := writeAll reading.hardwarePairs pins.hw
    serial := writeAll reading.serials pins.serial }

def Pins.pinHost (pins : Pins) (host : String) (slots : List String) (reading : Reading) : Pins :=
  if slots = [] then pins
  else
    { pins with
      host := Function.update pins.host host (some ⟨reading.cards.map Card.uuid, slots⟩) }

def Pins.afterReading (runtime : PyRuntime) (pins : Pins) (host : String) (reading : Reading) :
    Pins :=
  if (judgeCards runtime pins reading.adapter reading.cards).raised then pins
  else
    (if allFindings runtime pins host reading = [] then pins.pinCards reading else pins).pinHost
      host (reading.hostSlots runtime) reading

/-! ## The verdict -/

structure Settings where
  identityEnforcementEnabled : Bool
  ccVbiosMinimumEnforcementEnabled : Bool
  /-- the least VBIOS of a model: hexadecimal fields, where `XX` matches any value -/
  ccVbiosMinimums : List (String × List (Option Int))
  /-- `re.search` for a model between word boundaries of a name -/
  namesModel : String → String → Bool

def fieldsBelow : List Int → List (Option Int) → Bool
  | got :: seen, some need :: minimum =>
    if got = need then fieldsBelow seen minimum else got < need
  | _ :: seen, none :: minimum => fieldsBelow seen minimum
  | _, _ => false

/-- `none` is a VBIOS that does not parse as the same number of fields. -/
def vbiosBelow (runtime : PyRuntime) (seen : PyValue) (minimum : List (Option Int)) :
    Option Bool := do
  let text ← match seen with
    | .str text => some text
    | _ => none
  let fields ← (runtime.split "." (runtime.strip text)).mapM runtime.intOfHexText
  if fields.length = minimum.length then some (fieldsBelow fields minimum) else none

def ccVbiosFails (settings : Settings) (runtime : PyRuntime) (reading : Reading)
    (rows : List AttestRow) : Bool :=
  let certified := rows.any fun row => match row.certRc with
    | .int code => code = 0
    | .float code => code = 0
    | .bool code => !code
    | _ => false
  let below (hw : Hardware) : Bool :=
    let name := if hw.name.truthy then hw.name.shown else ""
    match settings.ccVbiosMinimums.find? fun entry => settings.namesModel entry.1 name with
    | some entry => entry.2 ≠ [] && vbiosBelow runtime hw.vbios entry.2 = some true
    | none => false
  settings.ccVbiosMinimumEnforcementEnabled && 2 ≤ reading.hardware.length && certified &&
    reading.hardware.any below

inductive Template
  | ccVbiosBelowMinimum
  | swapped
  | mismatch
  | inconsistent
  | ok
  | unavailable
  deriving DecidableEq

structure CheckResult where
  passed : Bool
  template : Template
  /-- `none` is the default of the check -/
  fatal : Option Bool := none
  gpuAttestationIdentityPassed : Option Bool := none
  ccVbiosPassed : Option Bool := none
  deriving DecidableEq

def swapFindings : List Finding := [.identityMoved, .serialMoved, .uuidsChangedSameSlots]

def mismatchFindings : List Finding :=
  [.attestationInvalid, .oneCardUnderSeveralUuids, .identityChanged]

def verdict (settings : Settings) (ccFails : Bool) (liveRental : Bool) (reading : Reading)
    (findings : List Finding) : CheckResult :=
  let enforce := settings.identityEnforcementEnabled
  let ccPassed := if ccFails then some false else none
  if findings ≠ [] then
    { passed := !(enforce || ccFails)
      template :=
        if ccFails && !enforce then .ccVbiosBelowMinimum
        else if findings.any (· ∈ swapFindings) then .swapped
        else if findings.any (· ∈ mismatchFindings) then .mismatch
        else .inconsistent
      fatal := some !liveRental
      gpuAttestationIdentityPassed := if enforce then some false else none
      ccVbiosPassed := ccPassed }
  else if ccFails then
    { passed := false
      template := .ccVbiosBelowMinimum
      fatal := some !liveRental
      ccVbiosPassed := ccPassed }
  else
    { passed := true
      template :=
        if reading.cards.any (·.identity.isSome) &&
            !reading.cards.any (·.evidence = .unavailable) then .ok
        else .unavailable }

def run (settings : Settings) (runtime : PyRuntime) (pins : Pins) (input : Input) :
    Option (CheckResult × Pins) :=
  input.reading.map fun reading =>
    (verdict settings (ccVbiosFails settings runtime reading input.rows) input.liveRental reading
        (allFindings runtime pins input.host reading),
      pins.afterReading runtime input.host reading)

end Lium.AttestationIdentity
