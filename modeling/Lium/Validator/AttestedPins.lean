import Lium.Validator.AttestationRuns

/-! # Attested identities stay one to one

The two tables only grow by pairs that agree with them. What a passing run has shown depends on the
comparison having come to its end: a capacity that `float` cannot read stops it.
-/

namespace Lium.AttestationIdentity

open PinnedPairs

section Pairs

variable {settings : Settings} {runtime : PyRuntime} {pins : Pins} {input : Input}
  {reading : Reading} {uuid : String}

theorem mem_pairs {β : Type} {field : Card → Option β} {cards : List Card}
    {value : β} :
    (uuid, value) ∈ cards.filterMap (fun card => (field card).map (card.uuid, ·)) ↔
      ∃ card ∈ cards, card.uuid = uuid ∧ field card = some value := by
  simp only [List.mem_filterMap, Option.map_eq_some_iff, Prod.mk.injEq]
  constructor
  · rintro ⟨card, listed, value', known, rfl, rfl⟩
    exact ⟨card, listed, rfl, known⟩
  · rintro ⟨card, listed, rfl, known⟩
    exact ⟨card, listed, value, known, rfl, rfl⟩

variable {identity : Identity}

theorem mem_identities :
    (uuid, identity) ∈ reading.identities ↔
      ∃ card ∈ reading.cards, card.uuid = uuid ∧ card.identity = some identity :=
  mem_pairs

theorem mem_hardwarePairs {hw : Hardware} :
    (uuid, hw) ∈ reading.hardwarePairs ↔
      ∃ card ∈ reading.cards, card.uuid = uuid ∧ card.hardware = some hw :=
  mem_pairs

theorem keys_nodup {β : Type} (field : Card → Option β) (cards : List Card)
    (distinct : (cards.map Card.uuid).Nodup) :
    ((cards.filterMap fun card => (field card).map (card.uuid, ·)).map Prod.fst).Nodup := by
  rw [List.map_filterMap]
  apply List.Nodup.sublist _ distinct
  induction cards with
  | nil => exact .slnil
  | cons card rest induction =>
    have later := induction (List.nodup_cons.mp distinct).2
    rw [List.filterMap_cons, List.map_cons]
    cases field card with
    | none => exact later.cons _
    | some value => exact later.cons_cons _

theorem identities_values :
    reading.identities.map Prod.snd = reading.cards.filterMap Card.identity := by
  rw [Reading.identities, List.map_filterMap]
  congr 1
  funext card
  cases card.identity <;> rfl

theorem Clean.agrees (clean : Clean runtime pins reading)
    (distinct : (reading.cards.map Card.uuid).Nodup) :
    Agrees reading.identities pins.uuid pins.identity where
  keys := keys_nodup Card.identity reading.cards distinct
  values := identities_values ▸ clean.identities
  forward pair listed pinned held := by
    obtain ⟨card, read, same, verified⟩ := mem_identities.mp listed
    exact pinned_eq_of_note_none (clean.notes card read) verified (same ▸ held)
  backward pair listed owner held := by
    obtain ⟨card, read, same, verified⟩ := mem_identities.mp listed
    have noted := (notes_none (clean.notes card read)).2.1
    simpa [Pins.identityNote, verified, held, same] using noted

theorem after_keeps (held : pins.uuid uuid = some identity) :
    (pins.after settings runtime input).uuid uuid = some identity := by
  rcases after_cases settings runtime pins input with ⟨reading, read, clean, pinned⟩ | same
  · rw [pinned.uuid]
    exact (clean.agrees (uuids_nodup read)).keeps held
  · rw [same.uuid, held]

theorem after_keeps_owner
    (held : pins.identity identity = some uuid) :
    (pins.after settings runtime input).identity identity = some uuid := by
  rcases after_cases settings runtime pins input with ⟨reading, read, clean, pinned⟩ | same
  · rw [pinned.identity]
    exact (clean.agrees (uuids_nodup read)).swap.keeps held
  · rw [same.identity, held]

theorem after_inverse (inverse : Inverse pins.uuid pins.identity) :
    Inverse (pins.after settings runtime input).uuid
      (pins.after settings runtime input).identity := by
  rcases after_cases settings runtime pins input with ⟨reading, read, clean, pinned⟩ | same
  · rw [pinned.uuid, pinned.identity]
    exact (clean.agrees (uuids_nodup read)).inverse inverse
  · rw [same.uuid, same.identity]
    exact inverse

theorem pinsAfter_inverse (history : List Input) :
    Inverse (pinsAfter settings runtime history).uuid
      (pinsAfter settings runtime history).identity := by
  apply pinsAfter_induction fun pins => Inverse pins.uuid pins.identity
  · intro uuid identity
    constructor <;> rintro ⟨⟩
  · exact fun _ _ _ inverse => after_inverse inverse

end Pairs

/-! ## What a passing run has shown -/

/-- What is asked of one run on the pins that it meets. -/
structure OneToOne (settings : Settings) (runtime : PyRuntime) (pins : Pins) (input : Input) :
    Prop where
  inverse : Inverse pins.uuid pins.identity
  keeps : ∀ uuid identity, pins.uuid uuid = some identity →
    (pins.after settings runtime input).uuid uuid = some identity
  keepsOwner : ∀ uuid identity, pins.identity identity = some uuid →
    (pins.after settings runtime input).identity identity = some uuid
  passing : ∀ result after reading, run settings runtime pins input = some (result, after) →
    result.passed = true → input.reading = some reading →
      (∀ card ∈ reading.cards, ∀ identity ∈ card.identity,
        after.uuid card.uuid = some identity) ∧
      (∀ first ∈ reading.cards, ∀ second ∈ reading.cards, ∀ identity ∈ first.identity,
        second.identity = some identity → first.uuid = second.uuid) ∧
      ∀ card ∈ reading.cards, (pins.uuid card.uuid).isSome = true → card.identity.isSome = true

def Input.Reports (allowed : PyValue → Prop) (input : Input) : Prop :=
  ∀ detail ∈ input.gpuDetails, allowed detail.capacity

section Passing

variable {settings : Settings} {runtime : PyRuntime} {pins : Pins} {input : Input}
  {reading : Reading} {allowed : PyValue → Prop}

theorem capacity_of_reports (reports : input.Reports allowed) (read : input.reading = some reading)
    {card : Card} (listed : card ∈ reading.cards) {hw : Hardware} (has : card.hardware = some hw) :
    allowed hw.capacity := by
  have readCard := (cards_of_reading read).2 card listed
  simp only [Input.card, Option.bind_eq_bind, Option.bind_eq_some_iff, Option.pure_def,
    Option.some.injEq] at readCard
  obtain ⟨evidence, -, hardware, readHardware, built⟩ := readCard
  rw [← built] at has
  cases has
  rw [Input.hardware] at readHardware
  split at readHardware
  next => cases readHardware
  next detail found =>
    simp only [Option.bind_eq_bind, Option.bind_eq_some_iff, Option.pure_def,
      Option.some.injEq] at readHardware
    obtain ⟨serial, -, rfl⟩ := readHardware
    exact reports detail (List.mem_reverse.mp (List.mem_of_find?_eq_some found))

theorem hw_after {uuid : String} {hw : Hardware}
    (held : (pins.after settings runtime input).hw uuid = some hw) :
    (∃ reading, input.reading = some reading ∧ ∃ card ∈ reading.cards,
        card.uuid = uuid ∧ card.hardware = some hw) ∨ pins.hw uuid = some hw := by
  rcases after_cases settings runtime pins input with ⟨reading, read, -, pinned⟩ | same
  · rw [pinned.hw] at held
    have distinct := keys_nodup Card.hardware reading.cards (uuids_nodup read)
    rcases (writeAll_eq_some_iff distinct).mp held with listed | ⟨-, before⟩
    · exact .inl ⟨reading, read, mem_hardwarePairs.mp listed⟩
    · exact .inr before
  · exact .inr (same.hw ▸ held)

theorem pinned_readable (history : List Input)
    (reports : ∀ input ∈ history, input.Reports (Readable runtime)) :
    ∀ uuid, ∀ hw ∈ (pinsAfter settings runtime history).hw uuid,
      Readable runtime hw.capacity := by
  apply pinsAfter_induction fun pins => ∀ uuid, ∀ hw ∈ pins.hw uuid, Readable runtime hw.capacity
  · rintro uuid hw ⟨⟩
  · intro pins input ran readable uuid hw held
    rcases hw_after held with ⟨reading, read, card, listed, -, has⟩ | before
    · exact capacity_of_reports (reports input ran) read listed has
    · exact readable uuid hw before

theorem oneToOne_of_finished (enforced : settings.identityEnforcementEnabled = true)
    (inverse : Inverse pins.uuid pins.identity)
    (finished : ∀ reading, input.reading = some reading →
      (judgeCards runtime pins reading.adapter reading.cards).raised = false) :
    OneToOne settings runtime pins input where
  inverse := inverse
  keeps _ _ held := after_keeps held
  keepsOwner _ _ held := after_keeps_owner held
  passing result after reading ran passed read := by
    obtain ⟨reading', read', none, rfl⟩ := allFindings_nil_of_passed enforced ran passed
    cases read.symm.trans read'
    have clean := clean_of_allFindings_nil (finished reading read) none
    have agrees := clean.agrees (uuids_nodup read)
    refine ⟨fun card listed identity verified => ?_, ?_, fun card listed held => ?_⟩
    · rw [(afterReading_of_finished (finished reading read) none).uuid]
      exact writeAll_of_mem agrees.keys (mem_identities.mpr ⟨card, listed, rfl, verified⟩)
    · intro first listed second listed' identity verified verified'
      have same := List.inj_on_of_nodup_map agrees.values
        (mem_identities.mpr ⟨first, listed, rfl, verified⟩)
        (mem_identities.mpr ⟨second, listed', rfl, verified'⟩) rfl
      exact congrArg Prod.fst same
    · obtain ⟨pinned, held⟩ := Option.isSome_iff_exists.mp held
      have sent : card.evidence ≠ .unavailable := by
        intro evidence
        have noted := (notes_none (clean.notes card listed)).2.2
        simp [Pins.pinNote, held, evidence] at noted
      have valid := clean.valid card listed
      rw [Card.identity]
      cases evidence : card.evidence with
      | verified identity => rfl
      | unavailable => exact absurd evidence sent
      | invalid => exact absurd evidence valid

end Passing

/-! ## A capacity that stops the comparison -/

def attested (capacity : PyValue) (identity : Identity) : SoleCard :=
  ⟨.text "NVIDIA H200", capacity, "", some identity, false⟩

theorem not_oneToOne_of_unreadable (settings : Settings) (runtime : PyRuntime)
    {capacity : PyValue} (unreadable : ¬ Readable runtime capacity) :
    ¬ OneToOne settings runtime (pinsAfter settings runtime [(attested capacity 1).input])
      (attested capacity 2).input := by
  intro oneToOne
  obtain ⟨-, pinned⟩ : _ ∧ SameTables (Pins.empty.after settings runtime (attested capacity 1).input)
      (Pins.empty.pinCards (attested capacity 1).reading) :=
    SoleCard.passes_of_unchanged rfl rfl
  change OneToOne settings runtime (Pins.empty.after settings runtime _) _ at oneToOne
  generalize Pins.empty.after settings runtime (attested capacity 1).input = pins at *
  have raises : pins.changes runtime false (attested capacity 2).read = none := by
    have fails := capacityChanged_eq_none_iff.mpr unreadable
    have held : pins.hw "GPU-0" = some (attested capacity 1).hardware := by
      rw [pinned.hw]
      rfl
    simp [Pins.changes, SoleCard.read, held, hwChanges, SoleCard.hardware, attested, fails]
  obtain ⟨⟨result, ran, passed⟩, unchanged⟩ :=
    @SoleCard.passes_of_raised pins (attested capacity 2) settings runtime raises
  rw [unchanged] at ran
  have shown := (oneToOne.passing result pins (attested capacity 2).reading ran passed
    (attested capacity 2).input_reading).1 _ List.mem_cons_self 2 rfl
  have first : pins.uuid "GPU-0" = some 1 := by
    rw [pinned.uuid]
    rfl
  have both : (some 1 : Option Identity) = some 2 := first.symm.trans shown
  revert both
  decide

/-- The identities are one to one, and passing runs show it, exactly when every capacity that may
be reported is missing or a number. -/
theorem oneToOne_iff_readable (settings : Settings) (runtime : PyRuntime)
    (allowed : PyValue → Prop) :
    (∀ history input, (∀ earlier ∈ history, Input.Reports allowed earlier) →
        Input.Reports allowed input →
        OneToOne settings.enforcing runtime (pinsAfter settings.enforcing runtime history) input) ↔
      ∀ capacity, allowed capacity → Readable runtime capacity := by
  constructor
  · intro holds capacity reported
    by_contra unreadable
    have reports (identity : Identity) : (attested capacity identity).input.Reports allowed := by
      intro detail listed
      rw [List.mem_singleton.mp listed]
      exact reported
    exact not_oneToOne_of_unreadable settings.enforcing runtime unreadable
      (holds _ _ (List.forall_mem_singleton.mpr (reports 1)) (reports 2))
  · intro readable history input earlier reports
    apply oneToOne_of_finished rfl (pinsAfter_inverse history)
    intro reading read
    apply not_raised_of_readable
    · intro card listed hw has
      exact readable _ (capacity_of_reports reports read listed has)
    · apply pinned_readable
      exact fun input ran detail listed => readable _ (earlier input ran detail listed)

theorem unreadable_capacity_hides_identity_change :
    ¬ OneToOne Sample.settings Sample.runtime
      (pinsAfter Sample.settings Sample.runtime [(attested (.str "N/A") 1).input])
      (attested (.str "N/A") 2).input := by
  apply not_oneToOne_of_unreadable
  exact Sample.not_readable

end Lium.AttestationIdentity
