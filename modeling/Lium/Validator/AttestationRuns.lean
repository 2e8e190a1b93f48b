import Lium.Validator.AttestationIdentity

/-! # Runs of the identity check

What a run has compared when it finds nothing, what it can do to the pins, and when no exception
cuts its comparison short.
-/

namespace Lium.AttestationIdentity

variable {first second : Pins} {adapter : Bool} {card : Card} {pins : Pins}

/-! ## What a run finds -/

section Run

variable {settings : Settings} {runtime : PyRuntime} {input : Input} {host : String}
  {reading : Reading}

theorem card_uuid {uuid : String} (read : input.card adapter uuid = some card) :
    card.uuid = uuid := by
  simp only [Input.card, Option.bind_eq_bind, Option.bind_eq_some_iff, Option.pure_def,
    Option.some.injEq] at read
  obtain ⟨_, _, _, _, rfl⟩ := read
  rfl

section

variable (read : input.reading = some reading)
include read

theorem reading_eq_some :
    isSxmOnPcieAdapter input.specs = some reading.adapter ∧
      input.reported.mapM (input.card reading.adapter) = some reading.cards := by
  rw [Input.reading] at read
  split at read
  · simp only [Option.bind_eq_bind, Option.bind_eq_some_iff, Option.pure_def,
      Option.some.injEq] at read
    obtain ⟨adapter, adapts, cards, mapped, rfl⟩ := read
    exact ⟨adapts, mapped⟩
  · cases read

theorem cards_of_reading :
    reading.cards.map Card.uuid = input.reported ∧
      ∀ card ∈ reading.cards, input.card reading.adapter card.uuid = some card := by
  have mapped := (reading_eq_some read).2
  generalize input.reported = reported at mapped ⊢
  generalize reading.cards = cards at mapped ⊢
  induction reported generalizing cards with
  | nil =>
    cases mapped
    exact ⟨rfl, by simp⟩
  | cons uuid rest induction =>
    simp only [List.mapM_cons, Option.bind_eq_bind, Option.bind_eq_some_iff, Option.pure_def,
      Option.some.injEq] at mapped
    obtain ⟨card, readCard, later, mapped, rfl⟩ := mapped
    obtain ⟨uuids, readLater⟩ := induction later mapped
    have same := card_uuid readCard
    subst same
    exact ⟨by rw [List.map_cons, uuids], List.forall_mem_cons.mpr ⟨readCard, readLater⟩⟩

theorem uuids_nodup :
    (reading.cards.map Card.uuid).Nodup := by
  rw [(cards_of_reading read).1, Input.reported, (List.perm_insertionSort _ _).nodup_iff]
  exact List.nodup_dedup _

end

theorem judgeCards_of_not_raised {cards : List Card}
    (finished : (judgeCards runtime pins adapter cards).raised = false) :
    (judgeCards runtime pins adapter cards).notes = cards.filterMap pins.note ∧
      ∀ card ∈ cards, ∃ fields ∈ (judgeCards runtime pins adapter cards).changed,
        pins.changes runtime adapter card = some fields := by
  induction cards with
  | nil => exact ⟨rfl, by simp⟩
  | cons card rest induction =>
    rw [judgeCards] at finished ⊢
    cases compared : pins.changes runtime adapter card with
    | none =>
      rw [compared] at finished
      cases finished
    | some fields =>
      rw [compared] at finished
      obtain ⟨notes, changed⟩ := induction finished
      constructor
      · dsimp only
        rw [notes, List.filterMap_cons]
        cases pins.note card <;> rfl
      · refine List.forall_mem_cons.mpr ⟨⟨fields, List.mem_cons_self, compared⟩, ?_⟩
        intro other listed
        obtain ⟨fields', found, compared'⟩ := changed other listed
        exact ⟨fields', List.mem_cons_of_mem _ found, compared'⟩

theorem exists_of_raised {cards : List Card}
    (raises : (judgeCards runtime pins adapter cards).raised = true) :
    ∃ card ∈ cards, pins.changes runtime adapter card = none := by
  induction cards with
  | nil => cases raises
  | cons card rest induction =>
    rw [judgeCards] at raises
    cases compared : pins.changes runtime adapter card with
    | none => exact ⟨card, List.mem_cons_self, compared⟩
    | some fields =>
      rw [compared] at raises
      obtain ⟨other, listed, fails⟩ := induction raises
      exact ⟨other, List.mem_cons_of_mem _ listed, fails⟩

structure Clean (runtime : PyRuntime) (pins : Pins) (reading : Reading) : Prop where
  valid : ∀ card ∈ reading.cards, card.evidence ≠ .invalid
  identities : (reading.cards.filterMap Card.identity).Nodup
  serials : (reading.cards.filterMap Card.serial).Nodup
  notes : ∀ card ∈ reading.cards, pins.note card = none
  unchanged : ∀ card ∈ reading.cards, pins.changes runtime reading.adapter card = some []

theorem Note.isSerialWasUnder_or (note : Note) :
    note.isSerialWasUnder = true ∨ note.isIdentityWasUnder = true ∨
      note.isIdentityChange = true := by
  cases note <;> simp [isSerialWasUnder, isIdentityWasUnder, isIdentityChange]

theorem of_findings_nil (none : reading.findings = []) :
    (∀ card ∈ reading.cards, card.evidence ≠ .invalid) ∧
      (reading.cards.filterMap Card.identity).Nodup ∧
      (reading.cards.filterMap Card.serial).Nodup := by
  simp only [Reading.findings, List.append_eq_nil_iff, ite_eq_left_iff, ite_eq_right_iff,
    List.any_eq_true, decide_eq_true_eq, imp_false, not_exists, not_and, not_not,
    List.cons_ne_nil] at none
  exact ⟨none.1.1.1, none.1.1.2, none.2⟩

theorem clean_of_allFindings_nil
    (finished : (judgeCards runtime pins reading.adapter reading.cards).raised = false)
    (none : allFindings runtime pins host reading = []) : Clean runtime pins reading := by
  obtain ⟨notes, changed⟩ := judgeCards_of_not_raised finished
  simp only [allFindings, finished, List.append_eq_nil_iff, List.map_eq_nil_iff,
    List.filter_eq_nil_iff, Bool.false_eq_true, if_false, ite_eq_right_iff, List.cons_ne_nil,
    imp_false, Bool.not_eq_true, List.any_eq_false, decide_eq_true_eq, not_not] at none
  obtain ⟨⟨alone, noSerial⟩, ⟨⟨-, noMoved⟩, noChange⟩, noFields⟩ := none
  obtain ⟨valid, identities, serials⟩ := of_findings_nil alone
  refine ⟨valid, identities, serials, fun card listed => ?_, fun card listed => ?_⟩
  · cases noted : pins.note card with
    | none => rfl
    | some note =>
      have kept : note ∈ (judgeCards runtime pins reading.adapter reading.cards).notes := by
        rw [notes]
        exact List.mem_filterMap.mpr ⟨card, listed, noted⟩
      rcases note.isSerialWasUnder_or with kind | kind | kind
      · exact absurd kind (Bool.eq_false_iff.mp (noSerial note kept))
      · exact absurd kind (Bool.eq_false_iff.mp (noMoved note kept))
      · exact absurd kind (Bool.eq_false_iff.mp (noChange note kept))
  · obtain ⟨fields, found, compared⟩ := changed card listed
    rw [compared, noFields fields found]

theorem allFindings_nil_of_passed {result : CheckResult} {after : Pins}
    (enforced : settings.identityEnforcementEnabled = true)
    (ran : run settings runtime pins input = some (result, after)) (passed : result.passed = true) :
    ∃ reading, input.reading = some reading ∧
      allFindings runtime pins input.host reading = [] ∧
      after = pins.afterReading runtime input.host reading := by
  obtain ⟨reading, read, same⟩ := Option.map_eq_some_iff.mp ran
  cases same
  refine ⟨reading, read, ?_, rfl⟩
  by_contra found
  rw [verdict, if_pos found, enforced] at passed
  cases passed

section Notes

section

variable (unnoted : pins.note card = none)
include unnoted

theorem notes_none :
    pins.serialNote card = none ∧ pins.identityNote card = none ∧ pins.pinNote card = none := by
  rwa [Pins.note, Option.or_eq_none_iff, Option.or_eq_none_iff] at unnoted

theorem pinned_eq_of_note_none {identity pinned : Identity}
    (verified : card.identity = some identity) (held : pins.uuid card.uuid = some pinned) :
    pinned = identity := by
  have noted := (notes_none unnoted).2.2
  rw [Card.identity] at verified
  split at verified
  next evidence =>
    cases verified
    simp only [Pins.pinNote, held, evidence, ite_eq_left_iff, reduceCtorEq, imp_false,
      not_not] at noted
    exact noted
  next => cases verified

end

end Notes

structure SameTables (first second : Pins) : Prop where
  uuid : first.uuid = second.uuid
  identity : first.identity = second.identity
  hw : first.hw = second.hw
  serial : first.serial = second.serial

theorem SameTables.trans {third : Pins} (same : SameTables first second)
    (same' : SameTables second third) : SameTables first third where
  uuid := same.uuid.trans same'.uuid
  identity := same.identity.trans same'.identity
  hw := same.hw.trans same'.hw
  serial := same.serial.trans same'.serial

theorem pinHost_sameTables (slots : List String) :
    SameTables (pins.pinHost host slots reading) pins := by
  rw [Pins.pinHost]
  split <;> exact ⟨rfl, rfl, rfl, rfl⟩

theorem afterReading_of_finished
    (finished : (judgeCards runtime pins reading.adapter reading.cards).raised = false)
    (none : allFindings runtime pins host reading = []) :
    SameTables (pins.afterReading runtime host reading) (pins.pinCards reading) := by
  rw [Pins.afterReading, finished, if_neg Bool.false_ne_true, if_pos none]
  exact pinHost_sameTables _

theorem afterReading_cases :
    (Clean runtime pins reading ∧
        SameTables (pins.afterReading runtime host reading) (pins.pinCards reading)) ∨
      SameTables (pins.afterReading runtime host reading) pins := by
  cases finished : (judgeCards runtime pins reading.adapter reading.cards).raised with
  | true =>
    right
    rw [Pins.afterReading, finished, if_pos rfl]
    exact ⟨rfl, rfl, rfl, rfl⟩
  | false =>
    by_cases none : allFindings runtime pins host reading = []
    · exact .inl ⟨clean_of_allFindings_nil finished none, afterReading_of_finished finished none⟩
    · right
      rw [Pins.afterReading, finished, if_neg Bool.false_ne_true, if_neg none]
      exact pinHost_sameTables _

end Run

/-! ## Runs one after another -/

def Pins.after (settings : Settings) (runtime : PyRuntime) (pins : Pins) (input : Input) : Pins :=
  ((run settings runtime pins input).map Prod.snd).getD pins

def pinsAfter (settings : Settings) (runtime : PyRuntime) (history : List Input) : Pins :=
  history.foldl (Pins.after settings runtime) .empty

theorem pinsAfter_induction {settings : Settings} {runtime : PyRuntime} (Holds : Pins → Prop)
    {history : List Input} (empty : Holds .empty)
    (step : ∀ pins, ∀ input ∈ history, Holds pins → Holds (pins.after settings runtime input)) :
    Holds (pinsAfter settings runtime history) := by
  rw [pinsAfter]
  generalize Pins.empty = pins at empty
  induction history generalizing pins with
  | nil => exact empty
  | cons input rest induction =>
    exact induction (fun pins input listed => step pins input (List.mem_cons_of_mem _ listed)) _
      (step pins input List.mem_cons_self empty)

theorem after_cases (settings : Settings) (runtime : PyRuntime) (pins : Pins) (input : Input) :
    (∃ reading, input.reading = some reading ∧ Clean runtime pins reading ∧
        SameTables (pins.after settings runtime input) (pins.pinCards reading)) ∨
      SameTables (pins.after settings runtime input) pins := by
  rw [Pins.after, run]
  cases read : input.reading with
  | none => exact .inr ⟨rfl, rfl, rfl, rfl⟩
  | some reading =>
    rcases afterReading_cases with ⟨clean, pinned⟩ | unchanged
    · exact .inl ⟨reading, rfl, clean, pinned⟩
    · exact .inr unchanged

theorem after_of_reading (settings : Settings) {runtime : PyRuntime} {input : Input}
    {reading : Reading} (read : input.reading = some reading) :
    pins.after settings runtime input = pins.afterReading runtime input.host reading := by
  rw [Pins.after, run, read]
  rfl

/-! ## Capacities that can be compared -/

def Readable (runtime : PyRuntime) (capacity : PyValue) : Prop :=
  unknownCapacity capacity = true ∨ ∃ value, capacity.toFloat runtime = .ok value

theorem capacityChanged_eq_none_iff {runtime : PyRuntime} {capacity : PyValue} :
    capacityChanged runtime capacity capacity = none ↔ ¬ Readable runtime capacity := by
  rw [Readable, capacityChanged]
  cases unknown : unknownCapacity capacity with
  | true => simp
  | false => cases capacity.toFloat runtime <;> simp [Except.toOption]

theorem capacityChanged_of_readable {runtime : PyRuntime} {old new : PyValue}
    (oldReadable : Readable runtime old) (newReadable : Readable runtime new) :
    capacityChanged runtime old new ≠ none := by
  rw [capacityChanged]
  rcases oldReadable with unknown | ⟨oldValue, old⟩
  · simp [unknown]
  · rcases newReadable with unknown | ⟨newValue, new⟩
    · simp [unknown]
    · simp only [old, new, Except.toOption]
      split <;> simp

theorem not_raised_of_readable {runtime : PyRuntime} {reading : Reading}
    (reported : ∀ card ∈ reading.cards, ∀ hw ∈ card.hardware, Readable runtime hw.capacity)
    (pinned : ∀ uuid, ∀ hw ∈ pins.hw uuid, Readable runtime hw.capacity) :
    (judgeCards runtime pins reading.adapter reading.cards).raised = false := by
  rw [← Bool.not_eq_true]
  intro raises
  obtain ⟨card, listed, fails⟩ := exists_of_raised raises
  rw [Pins.changes] at fails
  split at fails
  next current previous has was =>
    have compared := capacityChanged_of_readable (pinned card.uuid previous was)
      (reported card listed current has)
    rw [hwChanges] at fails
    cases read : capacityChanged runtime previous.capacity current.capacity with
    | none => exact compared read
    | some changed =>
      rw [read] at fails
      cases fails
  next => cases fails

/-! ## Nodes with one card -/

structure SoleCard where
  name : GpuName
  capacity : PyValue
  serial : String
  identity : Option Identity
  /-- no NVLink between H100 SXM cards -/
  adapter : Bool

namespace SoleCard

def specs (card : SoleCard) : List (String × PyValue) :=
  if card.adapter then
    [("interconnect", .dict [("nvlink", .bool false), ("nvlink_pairs", .int 0)]),
      ("gpu", .dict [("details", .list [.dict [("name", .str h100Sxm)]])])]
  else []

def row (card : SoleCard) : AttestRow where
  uuid := .str "GPU-0"
  serial := .str card.serial
  chain := .str "chain"
  report := .bool card.identity.isSome

def input (card : SoleCard) : Input where
  gpuUuids := "GPU-0"
  rows := [card.row]
  verifyGpuEvidence _ _ := .ok (card.identity.getD 0)
  gpuDetails := [⟨some "GPU-0", card.name, card.capacity⟩]
  specs := card.specs
  host := "10.0.0.1:22"
  liveRental := false

def hardware (card : SoleCard) : Hardware :=
  ⟨if card.adapter then .text h100Sxm else card.name, card.capacity,
    if Text.strip card.serial ∈ noSerial then none else some (Text.strip card.serial),
    .none, .none⟩

def evidence (card : SoleCard) : Evidence :=
  match card.identity with
  | some identity => .verified identity
  | none => .unavailable

def read (card : SoleCard) : Card := ⟨"GPU-0", card.evidence, some card.hardware⟩

def reading (card : SoleCard) : Reading := ⟨card.adapter, [card.read]⟩

variable (card : SoleCard)

theorem input_reported : card.input.reported = ["GPU-0"] := by
  simp only [Input.reported, input]
  decide +kernel

theorem adapter_eq : isSxmOnPcieAdapter card.specs = some card.adapter := by
  rw [specs]
  cases card.adapter <;> decide +kernel

theorem serialOf_eq : serialOf (.str card.serial) = some card.hardware.serial := by
  by_cases empty : card.serial = ""
  · have stripped : Text.strip "" ∈ noSerial := by decide +kernel
    simp [serialOf, PyValue.truthy, hardware, empty, stripped]
  · simp [serialOf, PyValue.truthy, hardware, empty]

theorem input_card : card.input.card card.adapter "GPU-0" = some card.read := by
  have listed : card.input.row? "GPU-0" = some card.row := by
    simp [Input.row?, input, row]
  have evidence : card.input.evidence (some card.row) = some card.evidence := by
    rw [SoleCard.evidence]
    cases known : card.identity <;> simp [Input.evidence, input, row, PyValue.truthy, known]
  have hardware : card.input.hardware card.adapter "GPU-0" (some card.row) =
      some (some card.hardware) := by
    simp only [Input.hardware, input, row, List.reverse_cons, List.reverse_nil, List.nil_append,
      Option.getD_some, card.serialOf_eq]
    rfl
  rw [Input.card, listed, evidence, hardware]
  rfl

theorem input_reading : card.input.reading = some card.reading := by
  have indexable : card.input.indexable = true := rfl
  have adapter : isSxmOnPcieAdapter card.input.specs = _ := card.adapter_eq
  have cards : card.input.reported.mapM (card.input.card card.adapter) = some [card.read] := by
    rw [input_reported, List.mapM_cons, input_card]
    rfl
  rw [Input.reading, if_pos indexable, adapter, Option.bind_eq_bind, Option.bind_some, cards]
  rfl

theorem findings_nil : card.reading.findings = [] := by
  have valid : card.read.evidence ≠ .invalid := by
    rw [read, evidence]
    cases card.identity <;> simp
  have sole : card.reading.cards = [card.read] := rfl
  have soleHardware : card.reading.hardware = [card.hardware] := rfl
  have identities : (card.reading.cards.filterMap Card.identity).Nodup := by
    rw [sole, List.filterMap_cons]
    split <;> simp
  have serials : (card.reading.cards.filterMap Card.serial).Nodup := by
    rw [sole, List.filterMap_cons]
    split <;> simp
  have models : ¬ 1 < (card.reading.hardware.filterMap fun hw =>
      if hw.name.truthy then some hw.name else none).dedup.length := by
    rw [soleHardware, List.filterMap_cons]
    split <;> simp
  rw [Reading.findings]
  simp only [if_pos identities, if_pos serials, if_neg models]
  simp [sole, valid]

variable {card} {settings : Settings} {runtime : PyRuntime}

theorem passed_of_allFindings_nil
    (none : allFindings runtime pins card.input.host card.reading = []) :
    ∃ result, run settings runtime pins card.input =
        some (result, pins.after settings runtime card.input) ∧ result.passed = true := by
  have compliant : ccVbiosFails settings runtime card.reading card.input.rows = false := by
    simp [ccVbiosFails, Reading.hardware, reading, read]
  refine ⟨verdict settings false card.input.liveRental card.reading [], ?_, rfl⟩
  rw [after_of_reading settings card.input_reading, run, card.input_reading, Option.map_some, none,
    compliant]

theorem passes_of_unchanged (noted : pins.note card.read = none)
    (unchanged : pins.changes runtime card.adapter card.read = some []) :
    (∃ result, run settings runtime pins card.input =
        some (result, pins.after settings runtime card.input) ∧ result.passed = true) ∧
      SameTables (pins.after settings runtime card.input) (pins.pinCards card.reading) := by
  have judged : judgeCards runtime pins card.reading.adapter card.reading.cards =
      ⟨[], [[]], false⟩ := by
    simp [reading, judgeCards, unchanged, noted]
  have slots : card.reading.hostSlots runtime = [] := rfl
  have settled : uuidsChangedSameSlots (pins.host card.input.host) card.reading [] = false := by
    cases pins.host card.input.host <;> rfl
  have none : allFindings runtime pins card.input.host card.reading = [] := by
    simp [allFindings, findings_nil, judged, slots, settled]
  refine ⟨passed_of_allFindings_nil none, ?_⟩
  rw [after_of_reading settings card.input_reading]
  exact afterReading_of_finished (by rw [judged]) none

theorem passes_of_raised (raises : pins.changes runtime card.adapter card.read = none) :
    (∃ result, run settings runtime pins card.input =
        some (result, pins.after settings runtime card.input) ∧ result.passed = true) ∧
      pins.after settings runtime card.input = pins := by
  have judged : judgeCards runtime pins card.reading.adapter card.reading.cards =
      ⟨[], [], true⟩ := by
    simp [reading, judgeCards, raises]
  have none : allFindings runtime pins card.input.host card.reading = [] := by
    simp [allFindings, findings_nil, judged]
  refine ⟨passed_of_allFindings_nil none, ?_⟩
  rw [after_of_reading settings card.input_reading, Pins.afterReading, judged]
  rfl

end SoleCard

section Congruence

variable (same : SameTables first second)

include same

end Congruence

def Settings.enforcing (settings : Settings) : Settings :=
  { settings with identityEnforcementEnabled := true }

namespace Sample

def runtime : PyRuntime where
  floatOfText := fun _ => none
  intOfHexText := fun _ => none
  intOfText := Text.numeral
  intOfText_toString := Text.numeral_toString
  textOf := fun _ => ""
  split := fun _ text => [text]
  strip := Text.strip
  lower := id

def settings : Settings where
  identityEnforcementEnabled := true
  ccVbiosMinimumEnforcementEnabled := true
  ccVbiosMinimums :=
    [("B200", [some 0x97, some 0, some 0xe4, some 0, none]),
      ("B300", [some 0x97, some 0x10, some 0x64, some 0, none])]
  namesModel := fun _ _ => false

theorem not_readable : ¬ Readable runtime (.str "N/A") := by
  rintro (unknown | ⟨value, read⟩)
  · revert unknown
    decide
  · cases read

end Sample

end Lium.AttestationIdentity
