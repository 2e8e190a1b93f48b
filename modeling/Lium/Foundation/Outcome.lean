import Mathlib.Data.List.Nodup

/-! # Stateful computations that may raise

`Raising` keeps the state reached next to the exception, and `forEach` is a loop over such steps.
The second half is about loops whose steps each own one cell of a heap.
-/

namespace Lium

/-- An exception, with the state its computation had reached. -/
structure Raised (ε σ : Type) where
  error : ε
  left : σ

abbrev Raising (ε σ α : Type) := Except (Raised ε σ) α

namespace Raising

variable {ε ζ σ π α β ρ γ : Type}

def left : Raising ε σ σ → σ
  | .ok state => state
  | .error raised => raised.left

def atState (state : σ) : Except ε α → Raising ε σ α
  | .ok value => .ok value
  | .error error => .error ⟨error, state⟩

/-- `for item in items: step(item)`, ended by the first exception. -/
def forEach (step : α → σ → Raising ε σ σ) : List α → σ → Raising ε σ σ
  | [], state => .ok state
  | item :: rest, state => step item state >>= forEach step rest

@[simp] theorem left_ok (state : σ) : left (.ok state : Raising ε σ σ) = state := rfl

@[simp] theorem left_error (raised : Raised ε σ) :
    left (.error raised : Raising ε σ σ) = raised.left := rfl

variable {computation : Raising ε σ σ}

theorem eq_ok_left (returns : computation.isOk = true) :
    computation = .ok (left computation) := by
  cases computation with
  | ok state => rfl
  | error raised => cases returns

variable {next : α → Except ζ β}

theorem bind_eq_ok_iff {computation : Except ζ α} {value : β} :
    computation >>= next = .ok value ↔
      ∃ middle, computation = .ok middle ∧ next middle = .ok value := by
  cases computation <;> simp [bind, Except.bind]

theorem bind_congr_of_ok {computation : Except ζ α} {left right : α → Except ζ β}
    (same : ∀ value, computation = .ok value → left value = right value) :
    computation >>= left = computation >>= right := by
  cases returned : computation with
  | error cause => rfl
  | ok value => exact same value returned

variable {items : List α} {value : α → β}

theorem mapM_eq_map {computation : α → Except ζ β} {results : List β}
    (returned : items.mapM computation = .ok results)
    (reads : ∀ item ∈ items, ∀ result, computation item = .ok result → result = value item) :
    results = items.map value := by
  induction items generalizing results with
  | nil =>
    cases returned
    rfl
  | cons item rest induction =>
    rw [List.forall_mem_cons] at reads
    rw [List.mapM_cons, bind_eq_ok_iff] at returned
    rcases returned with ⟨first, firstReturned, returned⟩
    rw [bind_eq_ok_iff] at returned
    rcases returned with ⟨others, othersReturned, returned⟩
    cases returned
    rw [reads.1 first firstReturned, induction othersReturned reads.2, List.map_cons]

variable {state : σ} {expression : Except ε α}

@[simp] theorem atState_eq_ok_iff {value : α} :
    atState state expression = .ok value ↔ expression = .ok value := by
  cases expression <;> simp [atState]

def Succeeds (computation : Except ζ α) : Prop := ∃ value, computation = .ok value

theorem succeeds_bind_iff {computation : Except ζ α} :
    Succeeds (computation >>= next) ↔
      ∃ middle, computation = .ok middle ∧ Succeeds (next middle) := by
  simp only [Succeeds, bind_eq_ok_iff]
  rw [exists_comm]
  simp only [exists_and_left]

theorem succeeds_bind_return_iff {computation : Except ζ α} :
    Succeeds (computation >>= fun middle => pure (value middle)) ↔ Succeeds computation :=
  succeeds_bind_iff.trans (exists_congr fun _ => and_iff_left ⟨_, rfl⟩)

@[simp] theorem succeeds_atState_iff :
    Succeeds (atState state expression) ↔ Succeeds expression := by
  simp only [Succeeds, atState_eq_ok_iff]

@[simp] theorem succeeds_ok (value : α) : Succeeds (.ok value : Except ζ α) := ⟨value, rfl⟩

@[simp] theorem not_succeeds_error (cause : ζ) : ¬Succeeds (.error cause : Except ζ α) := by
  rintro ⟨value, returned⟩
  cases returned

theorem succeeds_mapM_iff {computation : α → Except ζ β} :
    Succeeds (items.mapM computation) ↔ ∀ item ∈ items, Succeeds (computation item) := by
  induction items with
  | nil => simp [Succeeds, pure, Except.pure]
  | cons item rest induction =>
    rw [List.forall_mem_cons, ← induction, List.mapM_cons, succeeds_bind_iff]
    simp only [succeeds_bind_return_iff]
    exact exists_and_right

theorem forEach_cons_of_ok {step : α → σ → Raising ε σ σ} {item : α} {next : σ}
    (stepped : step item state = .ok next) (rest : List α) :
    forEach step (item :: rest) state = forEach step rest next := by
  rw [forEach, stepped]
  rfl

theorem forEach_left_invariant {invariant : σ → Prop} {step : α → σ → Raising ε σ σ}
    (items : List α)
    (preserved : ∀ item ∈ items, ∀ state, invariant state → invariant (left (step item state)))
    (state : σ) (initial : invariant state) :
    invariant (left (forEach step items state)) := by
  induction items generalizing state with
  | nil => exact initial
  | cons item rest induction =>
    have stepped := preserved item (List.mem_cons_self ..) state initial
    have later := fun other member => preserved other (List.mem_cons_of_mem item member)
    cases outcome : step item state with
    | ok next =>
      rw [outcome, left_ok] at stepped
      rw [forEach_cons_of_ok outcome]
      exact induction later next stepped
    | error raised =>
      rw [outcome, left_error] at stepped
      simpa [forEach, outcome, bind, Except.bind] using stepped

/-! ## Mapping a computation -/

def mapBoth (onLeft : σ → π) (onValue : α → β) : Raising ε σ α → Raising ε π β
  | .ok value => .ok (onValue value)
  | .error raised => .error ⟨raised.error, onLeft raised.left⟩

@[simp] theorem mapBoth_ok (onLeft : σ → π) (onValue : α → β) (value : α) :
    mapBoth onLeft onValue (.ok value : Raising ε σ α) = .ok (onValue value) := rfl

theorem atState_mapBoth (onLeft : σ → π) (state : σ) (expression : Except ε α) :
    atState (onLeft state) expression = mapBoth onLeft id (atState state expression) := by
  cases expression <;> rfl

variable {next : α → Raising ε σ β}

theorem mapBoth_bind {onLeft : σ → π} {onMiddle : α → γ} {onValue : β → ρ}
    {computation : Raising ε σ α} {other : γ → Raising ε π ρ}
    (commutes : ∀ value, computation = .ok value →
      other (onMiddle value) = mapBoth onLeft onValue (next value)) :
    mapBoth onLeft onMiddle computation >>= other =
      mapBoth onLeft onValue (computation >>= next) := by
  cases computation with
  | ok value => exact commutes value rfl
  | error raised => rfl

/-! ## Postconditions -/

/-- A postcondition for either way out: on the state an exception leaves, and on the value. -/
def Ensures (onRaise : σ → Prop) (onReturn : α → Prop) : Raising ε σ α → Prop
  | .ok value => onReturn value
  | .error raised => onRaise raised.left

variable {onRaise : σ → Prop}

theorem Ensures.bind {middle : α → Prop} {onReturn : β → Prop} {computation : Raising ε σ α}
    (first : Ensures onRaise middle computation)
    (second : ∀ value, middle value → Ensures onRaise onReturn (next value)) :
    Ensures onRaise onReturn (computation >>= next) := by
  cases computation with
  | ok value => exact second value first
  | error raised => exact first

variable {onReturn : α → Prop}

theorem Ensures.mono {weakRaise : σ → Prop} {weakReturn : α → Prop} {computation : Raising ε σ α}
    (strong : Ensures onRaise onReturn computation)
    (raise : ∀ state, onRaise state → weakRaise state)
    (return_ : ∀ value, onReturn value → weakReturn value) :
    Ensures weakRaise weakReturn computation := by
  cases computation with
  | ok value => exact return_ value strong
  | error raised => exact raise _ strong

theorem ensures_atState (expression : Except ε α) (raise : onRaise state)
    (return_ : ∀ value, expression = .ok value → onReturn value) :
    Ensures onRaise onReturn (atState state expression) := by
  cases outcome : expression with
  | ok value => exact return_ value outcome
  | error error => exact raise

theorem Ensures.left {post : σ → Prop} (ensures : Ensures post post computation) :
    post computation.left := by
  cases computation with
  | ok state => exact ensures
  | error raised => exact ensures

theorem Ensures.of_ok {computation : Raising ε σ α} {value : α}
    (ensures : Ensures onRaise onReturn computation) (returned : computation = .ok value) :
    onReturn value := by
  subst returned
  exact ensures

/-! ## Loops over the cells of a heap -/

section Cells

variable [DecidableEq ρ]

def updateEach (cell : α → ρ) (rewrite : α → γ → γ) (items : List α) (heap : ρ → γ) : ρ → γ :=
  items.foldl (fun heap item =>
    Function.update heap (cell item) (rewrite item (heap (cell item)))) heap

theorem updateEach_cons (cell : α → ρ) (rewrite : α → γ → γ) (item : α) (rest : List α)
    (heap : ρ → γ) :
    updateEach cell rewrite (item :: rest) heap =
      updateEach cell rewrite rest
        (Function.update heap (cell item) (rewrite item (heap (cell item)))) := rfl

theorem updateEach_of_not_mem {cell : α → ρ} (rewrite : α → γ → γ) (items : List α)
    (heap : ρ → γ) {ref : ρ} (notMember : ref ∉ items.map cell) :
    updateEach cell rewrite items heap ref = heap ref := by
  induction items generalizing heap with
  | nil => rfl
  | cons item rest induction =>
    rw [List.map_cons, List.mem_cons, not_or] at notMember
    rw [updateEach_cons, induction _ notMember.2, Function.update_of_ne notMember.1]

theorem updateEach_of_mem {cell : α → ρ} (rewrite : α → γ → γ) (heap : ρ → γ)
    (nodup : (items.map cell).Nodup) {item : α} (member : item ∈ items) :
    updateEach cell rewrite items heap (cell item) = rewrite item (heap (cell item)) := by
  induction items generalizing heap with
  | nil => cases member
  | cons head rest induction =>
    rw [List.map_cons, List.nodup_cons] at nodup
    rw [updateEach_cons]
    rcases List.mem_cons.mp member with same | member
    · subst same
      rw [updateEach_of_not_mem _ _ _ nodup.1, Function.update_self]
    · have different : cell item ≠ cell head := fun equal =>
        nodup.1 (equal ▸ List.mem_map_of_mem member)
      rw [induction _ nodup.2 member, Function.update_of_ne different]

theorem foldl_update_of_agree {cell : α → ρ} {content : α → γ} {ref : ρ} {value : γ}
    (agree : ∀ item ∈ items, cell item = ref → content item = value) (heap : ρ → γ) :
    items.foldl (fun heap item => Function.update heap (cell item) (content item)) heap ref =
      if ref ∈ items.map cell then value else heap ref := by
  induction items generalizing heap with
  | nil => rfl
  | cons item rest induction =>
    rw [List.forall_mem_cons] at agree
    rw [List.foldl_cons, induction agree.2, List.map_cons]
    by_cases later : ref ∈ rest.map cell
    · rw [if_pos later, if_pos (List.mem_cons_of_mem _ later)]
    · rw [if_neg later]
      by_cases same : cell item = ref
      · subst same
        rw [Function.update_self, if_pos (List.mem_cons_self ..), agree.1 rfl]
      · rw [Function.update_of_ne (Ne.symm same), if_neg]
        simp only [List.mem_cons, later, or_false]
        exact Ne.symm same

/-- If a step writes its own cell only, then after the loop, raised or not, the cell of an
item is as it was or as one step left it. -/
theorem forEach_left_cells {step : α → σ → Raising ε σ σ} (heap : σ → ρ → γ) {cell : α → ρ}
    (post : α → γ → γ → Prop)
    (writes : ∀ item state, ∃ content, post item (heap state (cell item)) content ∧
      heap (left (step item state)) = Function.update (heap state) (cell item) content)
    (items : List α) (nodup : (items.map cell).Nodup) (state : σ) {item : α}
    (member : item ∈ items) :
    heap (left (forEach step items state)) (cell item) = heap state (cell item) ∨
      post item (heap state (cell item)) (heap (left (forEach step items state)) (cell item)) := by
  have unlisted : ∀ (rest : List α) (state : σ) (ref : ρ), ref ∉ rest.map cell →
      heap (left (forEach step rest state)) ref = heap state ref := by
    intro rest start ref notMember
    have kept : ∀ other ∈ rest, ∀ reached, heap reached ref = heap start ref →
        heap (left (step other reached)) ref = heap start ref := by
      intro other otherMember reached same
      rcases writes other reached with ⟨content, -, written⟩
      have different : ref ≠ cell other := fun equal =>
        notMember (equal ▸ List.mem_map_of_mem otherMember)
      rw [written, Function.update_of_ne different, same]
    exact forEach_left_invariant rest kept start rfl
  induction items generalizing state with
  | nil => cases member
  | cons head rest induction =>
    rw [List.map_cons, List.nodup_cons] at nodup
    rcases writes head state with ⟨content, stepped, written⟩
    have reaches : left (forEach step (head :: rest) state) = left (step head state) ∨
        left (forEach step (head :: rest) state) =
          left (forEach step rest (left (step head state))) := by
      cases outcome : step head state with
      | ok next => exact .inr (by rw [forEach_cons_of_ok outcome, left_ok])
      | error raised => exact .inl (by simp [forEach, outcome, bind, Except.bind])
    rcases List.mem_cons.mp member with same | later
    · subst same
      right
      have written := congrFun written (cell item)
      rw [Function.update_self] at written
      rcases reaches with stopped | went
      · rw [stopped, written]
        exact stepped
      · rw [went, unlisted _ _ _ nodup.1, written]
        exact stepped
    · have different : cell item ≠ cell head := fun equal =>
        nodup.1 (equal ▸ List.mem_map_of_mem later)
      have kept : heap (left (step head state)) (cell item) = heap state (cell item) := by
        rw [written, Function.update_of_ne different]
      rcases reaches with stopped | went
      · rw [stopped, kept]
        exact .inl rfl
      · rw [went, ← kept]
        exact induction nodup.2 _ later

/-- A step that reads one cell, processes it, and commits the new content to that cell
(and to whatever else of the state `commit` keeps). -/
structure CellStep (step : α → σ → Raising ε σ σ) (heap : σ → ρ → γ) (cell : α → ρ)
    (process : α → γ → Except ζ γ) (commit : α → γ → σ → σ) : Prop where
  completes : ∀ item state content, process item (heap state (cell item)) = .ok content →
    step item state = .ok (commit item content state)
  raises : ∀ item state cause, process item (heap state (cell item)) = .error cause →
    ∃ raised, step item state = .error raised
  writes : ∀ item content state,
    heap (commit item content state) = Function.update (heap state) (cell item) content

variable {step : α → σ → Raising ε σ σ} {heap : σ → ρ → γ} {cell : α → ρ}
  {process : α → γ → Except ζ γ} {commit : α → γ → σ → σ}

theorem CellStep.forEach_eq (cells : CellStep step heap cell process commit)
    (nodup : (items.map cell).Nodup) {content : α → γ}
    (processed : ∀ item ∈ items, process item (heap state (cell item)) = .ok (content item)) :
    forEach step items state =
      .ok (items.foldl (fun state item => commit item (content item) state) state) := by
  induction items generalizing state with
  | nil => rfl
  | cons item rest induction =>
    rw [List.map_cons, List.nodup_cons] at nodup
    rw [forEach_cons_of_ok (cells.completes item state _
      (processed item (List.mem_cons_self ..))), List.foldl_cons]
    apply induction nodup.2
    intro other member
    -- a later item owns a different cell, so its content is still the initial one
    have different : cell other ≠ cell item := fun equal =>
      nodup.1 (equal ▸ List.mem_map_of_mem member)
    rw [cells.writes, Function.update_of_ne different]
    exact processed other (List.mem_cons_of_mem item member)

theorem CellStep.processed_of_forEach_ok (cells : CellStep step heap cell process commit)
    (nodup : (items.map cell).Nodup) {final : σ}
    (completed : forEach step items state = .ok final) :
    ∀ item ∈ items, ∃ content, process item (heap state (cell item)) = .ok content := by
  induction items generalizing state with
  | nil => simp
  | cons item rest induction =>
    rw [List.map_cons, List.nodup_cons] at nodup
    rw [forEach, bind_eq_ok_iff] at completed
    obtain ⟨next, stepped, completed⟩ := completed
    obtain ⟨content, processedItem⟩ :
        ∃ content, process item (heap state (cell item)) = .ok content := by
      cases outcome : process item (heap state (cell item)) with
      | ok content => exact ⟨content, rfl⟩
      | error cause =>
        obtain ⟨raised, failed⟩ := cells.raises item state cause outcome
        simp [stepped] at failed
    have nextEq : next = commit item content state := by
      have ran := cells.completes item state content processedItem
      rw [stepped] at ran
      exact Except.ok.inj ran
    subst nextEq
    intro other member
    rcases List.mem_cons.mp member with same | member
    · exact same ▸ ⟨content, processedItem⟩
    · have different : cell other ≠ cell item := fun equal =>
        nodup.1 (equal ▸ List.mem_map_of_mem member)
      obtain ⟨later, processedLater⟩ := induction nodup.2 completed other member
      rw [cells.writes, Function.update_of_ne different] at processedLater
      exact ⟨later, processedLater⟩

end Cells

end Raising

end Lium
