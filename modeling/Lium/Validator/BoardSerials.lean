import Lium.Validator.AttestedPins

/-! # What a board is known by

Each run compares a card with the last record of its UUID and then replaces the record. A field
that is unknown on either side is not compared, so a record without it forgets what the ones
before it said.
-/

namespace Lium.AttestationIdentity

open PinnedPairs

def passes (settings : Settings) (runtime : PyRuntime) (pins : Pins) (input : Input) : Bool :=
  (run settings runtime pins input).any fun ran => ran.1.passed

/-- What the scrapes of a history may hold. -/
structure Policy where
  detailsMissing : Bool
  serialMissing : Bool
  modelMissing : Bool
  capacityUnreadable : Bool
  adapterRuns : Bool

def Policy.strict : Policy := ⟨false, false, false, false, false⟩

structure Policy.Admits (policy : Policy) (runtime : PyRuntime) (hw : Hardware) : Prop where
  serial : policy.serialMissing = false → hw.serial.isSome = true
  model : policy.modelMissing = false → hw.name.unknown = false
  capacity : policy.capacityUnreadable = false → Readable runtime hw.capacity

def Input.Conforms (policy : Policy) (runtime : PyRuntime) (input : Input) : Prop :=
  ∀ reading, input.reading = some reading →
    (policy.adapterRuns = false → reading.adapter = false) ∧
      ∀ card ∈ reading.cards, (policy.detailsMissing = false → card.hardware.isSome = true) ∧
        ∀ hw ∈ card.hardware, policy.Admits runtime hw

/-! ## Complete scrapes -/

section Complete

variable {settings : Settings} {runtime : PyRuntime} {pins : Pins} {input : Input}
  {reading : Reading}

/-- What the pins hold of a card once it has passed. -/
structure Pins.Hold (pins : Pins) (uuid : String) (hw : Hardware) : Prop where
  record : ∃ record, pins.hw uuid = some record ∧ record.serial = hw.serial ∧
    record.name.comparand = hw.name.comparand
  owner : ∀ serial ∈ hw.serial, pins.serial serial = some uuid

def Pins.Complete (runtime : PyRuntime) (pins : Pins) : Prop :=
  ∀ uuid, ∀ hw ∈ pins.hw uuid, Policy.strict.Admits runtime hw

theorem eq_of_hwChanges_nil {previous current : Hardware}
    (before : Policy.strict.Admits runtime previous) (now : Policy.strict.Admits runtime current)
    (unchanged : hwChanges runtime previous current false = some []) :
    previous.serial = current.serial ∧ previous.name.comparand = current.name.comparand := by
  obtain ⟨serial, hadSerial⟩ := Option.isSome_iff_exists.mp (before.serial rfl)
  obtain ⟨serial', hasSerial⟩ := Option.isSome_iff_exists.mp (now.serial rfl)
  have hadName := before.model rfl
  have hasName := now.model rfl
  simp only [hwChanges, Option.bind_eq_bind, Option.bind_eq_some_iff, Option.pure_def,
    Option.some.injEq, List.append_eq_nil_iff, ite_eq_right_iff, List.cons_ne_nil, imp_false,
    Bool.not_eq_true] at unchanged
  obtain ⟨capacity, -, ⟨name, -⟩, serials⟩ := unchanged
  constructor
  · simpa [serialChanged, hadSerial, hasSerial] using serials
  · simpa [nameChanged, hadName, hasName, GpuName.same] using name

theorem serials_keys (reading : Reading) :
    reading.serials.map Prod.fst = reading.cards.filterMap Card.serial := by
  rw [Reading.serials, List.map_filterMap]
  congr 1
  funext card
  cases card.serial <;> rfl

variable {uuid : String}

theorem mem_serials {serial : String} :
    (serial, uuid) ∈ reading.serials ↔
      ∃ card ∈ reading.cards, card.uuid = uuid ∧ card.serial = some serial := by
  simp only [Reading.serials, List.mem_filterMap, Option.map_eq_some_iff, Prod.mk.injEq]
  constructor
  · rintro ⟨card, listed, serial', known, rfl, rfl⟩
    exact ⟨card, listed, rfl, known⟩
  · rintro ⟨card, listed, rfl, known⟩
    exact ⟨card, listed, serial, known, rfl, rfl⟩

variable {hw : Hardware}

theorem Pins.Hold.pinCards (held : pins.Hold uuid hw)
    (clean : Clean runtime pins reading) (distinct : (reading.cards.map Card.uuid).Nodup)
    (complete : pins.Complete runtime) (adapter : reading.adapter = false)
    (admitted : ∀ card ∈ reading.cards, ∀ hw ∈ card.hardware,
      Policy.strict.Admits runtime hw) :
    (pins.pinCards reading).Hold uuid hw := by
  have keys := keys_nodup Card.hardware reading.cards distinct
  constructor
  · obtain ⟨record, was, serial, name⟩ := held.record
    by_cases listed : uuid ∈ reading.hardwarePairs.map Prod.fst
    · obtain ⟨⟨uuid', current⟩, member, same⟩ := List.mem_map.mp listed
      cases same
      refine ⟨current, writeAll_of_mem keys member, ?_⟩
      obtain ⟨card, read, rfl, has⟩ := mem_hardwarePairs.mp member
      have unchanged := clean.unchanged card read
      rw [Pins.changes, has, was, adapter] at unchanged
      obtain ⟨sameSerial, sameName⟩ := eq_of_hwChanges_nil (complete _ record was)
        (admitted card read current has) unchanged
      exact ⟨sameSerial.symm.trans serial, sameName.symm.trans name⟩
    · exact ⟨record, (writeAll_of_not_mem listed).trans was, serial, name⟩
  · intro serial known
    have was := held.owner serial known
    by_cases listed : serial ∈ reading.serials.map Prod.fst
    · obtain ⟨⟨serial', owner⟩, member, same⟩ := List.mem_map.mp listed
      cases same
      obtain ⟨card, read, rfl, has⟩ := mem_serials.mp member
      have noted := (notes_none (clean.notes card read)).1
      have owns : uuid = card.uuid := by simpa [Pins.serialNote, has, was] using noted
      rw [owns]
      exact writeAll_of_mem (serials_keys reading ▸ clean.serials) member
    · exact (writeAll_of_not_mem listed).trans was

theorem Pins.Hold.congr {other : Pins} (held : pins.Hold uuid hw)
    (same : SameTables other pins) : other.Hold uuid hw where
  record := same.hw ▸ held.record
  owner := same.serial ▸ held.owner

theorem Pins.Complete.after (complete : pins.Complete runtime)
    (conforms : input.Conforms .strict runtime) :
    (pins.after settings runtime input).Complete runtime := by
  intro uuid hw held
  rcases hw_after held with ⟨reading, read, card, listed, -, has⟩ | before
  · exact ((conforms reading read).2 card listed).2 hw has
  · exact complete uuid hw before

theorem Pins.Hold.after (held : pins.Hold uuid hw)
    (complete : pins.Complete runtime) (conforms : input.Conforms .strict runtime) :
    (pins.after settings runtime input).Hold uuid hw := by
  rcases after_cases settings runtime pins input with ⟨reading, read, clean, pinned⟩ | same
  · obtain ⟨adapter, admitted⟩ := conforms reading read
    exact (held.pinCards clean (uuids_nodup read) complete (adapter rfl) fun card listed =>
      (admitted card listed).2).congr pinned
  · exact held.congr same

section

variable (enforced : settings.identityEnforcementEnabled = true)
include enforced

end

end Complete

/-! ## Forgetting -/

section Forgetting

variable (settings : Settings) (runtime : PyRuntime)

variable {cards : List SoleCard}

def board (name : GpuName) (serial : String) (capacity : PyValue) (adapter : Bool) : SoleCard :=
  ⟨name, capacity, serial, none, adapter⟩

variable {card : SoleCard}

theorem SoleCard.conforms {policy : Policy}
    (adapter : policy.adapterRuns = false → card.adapter = false)
    (admits : policy.Admits runtime card.hardware) : card.input.Conforms policy runtime := by
  intro reading read
  cases read.symm.trans card.input_reading
  refine ⟨adapter, fun other listed => ?_⟩
  cases List.mem_singleton.mp listed
  refine ⟨fun _ => rfl, fun hw has => ?_⟩
  cases has
  exact admits

end Forgetting

end Lium.AttestationIdentity
