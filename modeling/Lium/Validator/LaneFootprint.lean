import Lium.Validator.Pipeline

/-! # What the checks of a lane touch

A check confined to its lane's places does on the lane's copy of the context what it would do on any
context that agrees there, and its result, merged into such a context, leaves what the check would.
-/

namespace Lium.Pipeline

variable {φ V : Type}

/-- The places checks read and write: the fields of the state, the keys of its `specs`, and
the other fields of the context. -/
inductive Place (φ : Type)
  | field (name : φ)
  | spec (key : String)
  | context (name : ContextField)

def ContextState.read (state : ContextState φ V) : Place φ → Option V
  | .field name => some (state.fields name)
  | .spec key => state.specs.entries key
  | .context _ => none

def Context.read (ctx : Context φ V) : Place φ → Option V
  | .field name => ctx.state.read (.field name)
  | .spec key => ctx.state.read (.spec key)
  | .context name => some (ctx.fields name)

theorem Context.state_eqOn {first second : Context φ V} {places : Set (Place φ)}
    (agree : Set.EqOn first.read second.read places) :
    Set.EqOn first.state.read second.state.read places := by
  intro place member
  cases place with
  | field name => exact agree member
  | spec key => exact agree member
  | context name => rfl

structure Footprint (φ : Type) where
  touches : Set (Place φ)
  writes : Set (Place φ)
  writes_subset : writes ⊆ touches

/-- The results of one check on two contexts are the same as far as the footprint goes. -/
structure CheckResult.Alike (touches : Set (Place φ)) (first second : CheckResult φ V) :
    Prop where
  passed : first.passed = second.passed
  event : first.event = second.event
  halt : first.halt = second.halt
  fatal : first.fatal = second.fatal
  extraEvents : first.extraEvents = second.extraEvents
  fields : first.updates.fields = second.updates.fields
  state : Option.Rel (fun left right => Set.EqOn left.read right.read touches)
    first.updates.state second.updates.state

variable {touches : Set (Place φ)}

theorem CheckResult.Alike.states {first second : CheckResult φ V}
    (alike : first.Alike touches second) :
    (first.updates.state = none ∧ second.updates.state = none) ∨
      ∃ left right, first.updates.state = some left ∧ second.updates.state = some right ∧
        Set.EqOn left.read right.read touches := by
  have related := alike.state
  cases leftState : first.updates.state <;> cases rightState : second.updates.state <;>
    rw [leftState, rightState] at related
  case none.none => exact .inl ⟨rfl, rfl⟩
  case none.some => cases related
  case some.none => cases related
  case some.some =>
    cases related with
    | some same => exact .inr ⟨_, _, rfl, rfl, same⟩

def Shows [PyObject V] (before after : Option V) : Prop :=
  ∀ old new, before = some old → after = some new → (old == new || new == old) = true → old = new

/-- A change of a spec shows, and so does that a value stayed: it is equal to itself. -/
def ShowsSpec [PyObject V] (before after : Option V) : Prop :=
  Shows before after ∧ ∀ value ∈ before, (value == value) = true

theorem Specs.eq_dict {specs : Specs V} (isDict : specs.isDict) : specs = .dict specs.toDict := by
  cases specs with
  | dict content => rfl
  | other value => cases isDict

/-- A dict of values that are equal to themselves. -/
structure Specs.Comparable [PyObject V] (specs : Specs V) : Prop where
  isDict : specs.isDict = true
  reflexive : ∀ key, ∀ value ∈ specs.entries key, (value == value) = true

variable {writes : Set (Place φ)}

section Merging

variable [PyObject V]

theorem mergeField_isMerge :
    IsMerge (mergeField (V := V)) fun before after => Shows (some before) (some after) where
  unchanged := by
    intro current value _
    rw [mergeField, if_pos (.inl rfl)]
  changed := by
    intro before after shows
    rw [mergeField]
    split
    case isTrue equal =>
      rcases equal with same | equal
      · exact same.symm
      · exact shows before after rfl rfl (by rw [equal, Bool.or_true])
    case isFalse => rfl

theorem mergeSpec_isMerge : IsMerge (mergeSpec (V := V)) ShowsSpec where
  unchanged := by
    intro current value shows
    cases value with
    | none => rfl
    | some value => exact if_pos (shows.2 value rfl)
  changed := by
    rintro before after ⟨shows, -⟩
    cases before with
    | none => cases after <;> rfl
    | some old =>
      cases after with
      | none => rfl
      | some new =>
        simp only [mergeSpec]
        split
        case isTrue equal => rw [shows old new rfl rfl (by rw [equal, Bool.true_or])]
        case isFalse => rfl

/-- Two dicts that are equal have no change that shows, and merging them key by key keeps what is
current. -/
theorem mergeDict_of_equal {current old new : Dict V}
    (shows : ∀ key, ShowsSpec (old.entries key) (new.entries key)) (equal : new.equal old = true) :
    mergeDict current old new = current := by
  apply Dict.ext_entries
  funext key
  rw [Dict.equal, decide_eq_true_eq] at equal
  have same : old.entries key = new.entries key := by
    by_cases listed : key ∈ new.keys ∪ old.keys
    · have values := equal key listed
      cases newValue : new.entries key <;> cases oldValue : old.entries key <;>
        rw [newValue, oldValue] at values
      case some.some value other =>
        rw [sameEntry, Bool.or_eq_true, decide_eq_true_eq] at values
        rcases values with same | equal
        · rw [same]
        · rw [(shows key).1 other value oldValue newValue (by rw [equal, Bool.or_true])]
      all_goals cases values
    · rw [Finset.mem_union, not_or, new.mem_keys, old.mem_keys, Bool.not_eq_true,
        Bool.not_eq_true, Option.isSome_eq_false_iff, Option.isSome_eq_false_iff,
        Option.isNone_iff_eq_none, Option.isNone_iff_eq_none] at listed
      rw [listed.1, listed.2]
  have shown := shows key
  change mergeSpec (current.entries key) (old.entries key) (new.entries key) = _
  rw [← same] at shown ⊢
  exact mergeSpec_isMerge.unchanged _ _ shown

theorem mergeState_eq_direct {current before after direct : ContextState φ V}
    (currentDict : current.specs.isDict) (beforeDict : before.specs.Comparable)
    (afterDict : after.specs.isDict) (directDict : direct.specs.isDict)
    (kept : Set.EqOn after.read before.read writesᶜ)
    (keptDirect : Set.EqOn direct.read current.read writesᶜ)
    (same : Set.EqOn after.read direct.read writes)
    (current_before : Set.EqOn current.read before.read writes)
    (shows : ∀ place, Shows (before.read place) (after.read place)) :
    mergeState current before after = direct := by
  apply ContextState.ext
  · funext name
    have fieldsKept : Set.EqOn after.fields before.fields (Set.preimage Place.field writes)ᶜ :=
      fun name outside => Option.some.inj (kept outside)
    exact mergeField_isMerge.merge_eq_direct fieldsKept
      (fun name outside => Option.some.inj (keptDirect outside))
      (fun name inside => Option.some.inj (same inside))
      (fun name inside => Option.some.inj (current_before inside))
      (fun name => shows (.field name)) name
  · have specsShow : ∀ key, ShowsSpec (before.specs.entries key) (after.specs.entries key) :=
      fun key => ⟨shows (.spec key), beforeDict.reflexive key⟩
    have merged : mergeSpecs current.specs before.specs after.specs =
        .dict (mergeDict current.specs.toDict before.specs.toDict after.specs.toDict) := by
      rw [Specs.eq_dict beforeDict.isDict, Specs.eq_dict afterDict, mergeSpecs]
      split
      next equal =>
        have unmoved : mergeDict current.specs.toDict before.specs.toDict after.specs.toDict =
            current.specs.toDict := mergeDict_of_equal specsShow equal
        exact (Specs.eq_dict currentDict).trans (congrArg Specs.dict unmoved.symm)
      next => rfl
    rw [mergeState, merged, Specs.eq_dict directDict]
    apply congrArg Specs.dict
    apply Dict.ext_entries
    funext key
    have keysKept : Set.EqOn after.specs.entries before.specs.entries
        (Set.preimage Place.spec writes)ᶜ := fun key outside => kept outside
    exact mergeSpec_isMerge.merge_eq_direct keysKept (fun key outside => keptDirect outside)
      (fun key inside => same inside) (fun key inside => current_before inside) specsShow key

end Merging

section Confinement

variable [PyObject V]

/-- The updates name only context fields among these places and leave every other place of
the state as it was, `specs` a dict of values that are equal to themselves. -/
structure RanCheck.Within (ran : RanCheck φ V) (writes : Set (Place φ)) : Prop where
  fields : ∀ name, Place.context name ∉ writes →
    ran.updatesWithClearVerifiedJobEvidence.fields name = none
  state : ∀ state, ran.result.updates.state = some state →
    state.specs.Comparable ∧ Set.EqOn state.read ran.beforeState.read writesᶜ

/-- A check that neither halts nor raises, is a function of what its lane touches, and writes
only what its lane writes. -/
structure Check.Confined (chk : Check φ V) (footprint : Footprint φ) : Prop where
  runs : ∀ ctx : Context φ V, ctx.state.specs.Comparable →
    ∃ result, chk.run ctx = some result ∧ result.halt = false
  within : ∀ (ctx : Context φ V) (result : CheckResult φ V), ctx.state.specs.Comparable →
    chk.run ctx = some result → (RanCheck.mk chk result ctx.state).Within footprint.writes
  determined : ∀ (first second : Context φ V) (left right : CheckResult φ V),
    first.state.specs.Comparable → second.state.specs.Comparable →
    Set.EqOn first.read second.read footprint.touches →
    chk.run first = some left → chk.run second = some right → left.Alike footprint.touches right

/-- Where the check changes a value of the state, the old and the new value are not equal
by `==`. -/
def Check.ShowsChanges (chk : Check φ V) : Prop :=
  ∀ (ctx : Context φ V) (result : CheckResult φ V) (state : ContextState φ V),
    ctx.state.specs.Comparable → chk.run ctx = some result → result.updates.state = some state →
    ∀ place, Shows (ctx.state.read place) (state.read place)

theorem updates_state (ran : RanCheck φ V) :
    ran.updatesWithClearVerifiedJobEvidence.state = ran.result.updates.state := by
  rw [RanCheck.updatesWithClearVerifiedJobEvidence]
  split <;> rfl

theorem CheckResult.Alike.updates_fields {left right : CheckResult φ V}
    (alike : left.Alike touches right) (chk : Check φ V) (before before' : ContextState φ V) :
    (RanCheck.mk chk left before).updatesWithClearVerifiedJobEvidence.fields =
      (RanCheck.mk chk right before').updatesWithClearVerifiedJobEvidence.fields := by
  simp only [RanCheck.updatesWithClearVerifiedJobEvidence, RanCheck.eventCheckId, alike.event,
    alike.fields]
  split
  · rfl
  · exact alike.fields

theorem apply_fields (ctx : Context φ V) (ran : RanCheck φ V) (parallel : Bool)
    (name : ContextField) :
    (apply ctx ran parallel).fields name =
      (ran.updatesWithClearVerifiedJobEvidence.fields name).getD (ctx.fields name) := rfl

theorem apply_state_none {ran : RanCheck φ V} (unchanged : ran.result.updates.state = none)
    (ctx : Context φ V) (parallel : Bool) : (apply ctx ran parallel).state = ctx.state := by
  simp only [apply, Context.modelCopy, updates_state, unchanged, Option.map_none, Option.getD_none]

theorem apply_state_some {ran : RanCheck φ V} {state : ContextState φ V}
    (changed : ran.result.updates.state = some state) (ctx : Context φ V) (parallel : Bool) :
    (apply ctx ran parallel).state =
      if parallel then mergeState ctx.state ran.beforeState state else state := by
  simp only [apply, Context.modelCopy, updates_state, changed, Option.map_some, Option.getD_some]

variable {result : CheckResult φ V}

theorem RanCheck.Within.apply_eqOn {ctx : Context φ V} {chk : Check φ V}
    (within : (RanCheck.mk chk result ctx.state).Within writes) :
    Set.EqOn (apply ctx ⟨chk, result, ctx.state⟩ false).read ctx.read writesᶜ := by
  have stateKept : Set.EqOn (apply ctx ⟨chk, result, ctx.state⟩ false).state.read
      ctx.state.read writesᶜ := by
    cases changed : result.updates.state with
    | none =>
      rw [apply_state_none changed]
      exact Set.eqOn_refl _ _
    | some state =>
      rw [apply_state_some changed]
      exact (within.state state changed).2
  intro place outside
  cases place with
  | field name => exact stateKept outside
  | spec key => exact stateKept outside
  | context name =>
    simp only [Context.read, apply_fields, within.fields name outside, Option.getD_none]

theorem RanCheck.Within.apply_comparable {ctx : Context φ V} {chk : Check φ V}
    (within : (RanCheck.mk chk result ctx.state).Within writes)
    (isDict : ctx.state.specs.Comparable) :
    (apply ctx ⟨chk, result, ctx.state⟩ false).state.specs.Comparable := by
  cases changed : result.updates.state with
  | none =>
    rw [apply_state_none changed]
    exact isDict
  | some state =>
    rw [apply_state_some changed]
    exact (within.state state changed).1

section TwoContexts

variable {chk : Check φ V} {footprint : Footprint φ} {lane ctx : Context φ V}
  {left right : CheckResult φ V}

theorem CheckResult.Alike.apply_eqOn (alike : left.Alike footprint.touches right)
    (agree : Set.EqOn lane.read ctx.read footprint.touches) :
    Set.EqOn (apply lane ⟨chk, left, lane.state⟩ false).read
      (apply ctx ⟨chk, right, ctx.state⟩ false).read footprint.touches := by
  have statesAgree : Set.EqOn (apply lane ⟨chk, left, lane.state⟩ false).state.read
      (apply ctx ⟨chk, right, ctx.state⟩ false).state.read footprint.touches := by
    rcases alike.states with ⟨leftNone, rightNone⟩ | ⟨_, _, leftSome, rightSome, same⟩
    · rw [apply_state_none leftNone, apply_state_none rightNone]
      exact Context.state_eqOn agree
    · rw [apply_state_some leftSome, apply_state_some rightSome]
      exact same
  intro place touched
  cases place with
  | field name => exact statesAgree touched
  | spec key => exact statesAgree touched
  | context name =>
    have sameField : lane.fields name = ctx.fields name := Option.some.inj (agree touched)
    simp only [Context.read, apply_fields, alike.updates_fields chk lane.state ctx.state,
      sameField]

theorem Check.Confined.apply_parallel (confined : chk.Confined footprint)
    (shows : chk.ShowsChanges) (laneDict : lane.state.specs.Comparable)
    (isDict : ctx.state.specs.Comparable)
    (agree : Set.EqOn lane.read ctx.read footprint.touches)
    (ranLane : chk.run lane = some left) (ran : chk.run ctx = some right) :
    apply ctx ⟨chk, left, lane.state⟩ true = apply ctx ⟨chk, right, ctx.state⟩ false := by
  have alike := confined.determined lane ctx left right laneDict isDict agree ranLane ran
  apply Context.ext
  · funext name
    rw [apply_fields, apply_fields, alike.updates_fields chk lane.state ctx.state]
  · rcases alike.states with ⟨leftNone, rightNone⟩ | ⟨after, direct, leftSome, rightSome, same⟩
    · rw [apply_state_none leftNone, apply_state_none rightNone]
    · rw [apply_state_some leftSome, apply_state_some rightSome]
      have laneWrites := (confined.within lane left laneDict ranLane).state after leftSome
      have writes := (confined.within ctx right isDict ran).state direct rightSome
      have before : Set.EqOn ctx.state.read lane.state.read footprint.writes :=
        ((Context.state_eqOn agree).mono footprint.writes_subset).symm
      exact mergeState_eq_direct isDict.isDict laneDict laneWrites.1.isDict writes.1.isDict
        laneWrites.2 writes.2
        (same.mono footprint.writes_subset) before
        (shows lane left after laneDict ranLane leftSome)

end TwoContexts

end Confinement

end Lium.Pipeline
