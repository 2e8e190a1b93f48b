import Mathlib.Data.List.Basic

/-! # Coroutines over failing services

A coroutine is given by every way it can end from a state. An awaited operation may raise before or
after it took effect, and the task may be cancelled at an await. `Ensures` is the weakest
precondition, with one equation per construct.
-/

namespace Lium

/-- How a coroutine ends. `raised` is an `Exception`; a cancellation is not one. -/
inductive Ending (α : Type)
  | returned (value : α)
  | raised
  | cancelled
  deriving DecidableEq

/-- Every ending from a state, with the state it leaves. -/
def Coroutine (σ α : Type) : Type := σ → List (Ending α × σ)

namespace Coroutine

variable {σ α β : Type}

def resume (next : α → Coroutine σ β) : Ending α → Coroutine σ β
  | .returned value => next value
  | .raised => fun state => [(.raised, state)]
  | .cancelled => fun state => [(.cancelled, state)]

instance : Monad (Coroutine σ) where
  pure value := fun state => [(.returned value, state)]
  bind first next := fun state =>
    (first state).flatMap fun ending => resume next ending.1 ending.2

def read (view : σ → α) : Coroutine σ α := fun state => [(.returned (view state), state)]

def modify (change : σ → σ) : Coroutine σ Unit := fun state => [(.returned (), change state)]

def raise : Coroutine σ α := fun state => [(.raised, state)]

/-- An awaited operation: it may fail, or the task be cancelled in it, before or after the
operation took effect. -/
def await (effect : σ → σ) (answer : σ → α) : Coroutine σ α := fun state =>
  [(.returned (answer state), effect state), (.raised, state), (.raised, effect state),
    (.cancelled, state), (.cancelled, effect state)]

def choose (options : List (Coroutine σ α)) : Coroutine σ α := fun state =>
  options.flatMap fun option => option state

/-- `try: body except Exception: handler`. -/
def tryExcept (body handler : Coroutine σ α) : Coroutine σ α := fun state =>
  (body state).flatMap fun ending =>
    match ending.1 with
    | .returned value => [(.returned value, ending.2)]
    | .raised => handler ending.2
    | .cancelled => [(.cancelled, ending.2)]

/-- `try: await wait_for(body, timeout) except TimeoutError`, with time left: the body starts,
and may be cancelled at any await. The answer is what it returned if it came to its end. -/
def withinTimeout (body : Coroutine σ α) : Coroutine σ (Option α) := fun state =>
  (body state).map fun ending =>
    match ending.1 with
    | .returned value => (.returned (some value), ending.2)
    | .raised => (.raised, ending.2)
    | .cancelled => (.returned none, ending.2)

def withinBudget (body : Coroutine σ α) : Coroutine σ (Option α) :=
  choose [pure none, withinTimeout body]

def onPart {π : Type} (part : σ → π) (put : σ → π → σ) (program : Coroutine π α) :
    Coroutine σ α := fun state =>
  (program (part state)).map fun ending => (ending.1, put state ending.2)

def mayReturn (program : Coroutine σ α) (state : σ) (check : α → σ → Bool) : Bool :=
  (program state).any fun ending =>
    match ending.1 with
    | .returned value => check value ending.2
    | _ => false

variable {program : Coroutine σ α}

theorem exists_of_mayReturn {state : σ} {check : α → σ → Bool}
    (passes : mayReturn program state check = true) :
    ∃ value left, (.returned value, left) ∈ program state ∧ check value left = true := by
  rcases List.any_eq_true.mp passes with ⟨⟨ending, left⟩, reached, checked⟩
  cases ending with
  | returned value => exact ⟨value, left, reached, checked⟩
  | raised => cases checked
  | cancelled => cases checked

variable {first : Coroutine σ α}

theorem mem_bind {next : α → Coroutine σ β} {state middle left : σ} {value : α}
    {ending : Ending β} (reached : (.returned value, middle) ∈ first state)
    (continued : (ending, left) ∈ next value middle) : (ending, left) ∈ (first >>= next) state :=
  List.mem_flatMap.mpr ⟨_, reached, continued⟩

theorem mem_bind_of_raised {next : α → Coroutine σ β} {state left : σ}
    (reached : (.raised, left) ∈ first state) : (.raised, left) ∈ (first >>= next) state :=
  List.mem_flatMap.mpr ⟨_, reached, List.mem_singleton.mpr rfl⟩

/-! ## Every ending -/

/-- Every ending of a coroutine, and the state it leaves, satisfies `post`. -/
def Ensures (program : Coroutine σ α) (state : σ) (post : Ending α → σ → Prop) : Prop :=
  ∀ ending left, (ending, left) ∈ program state → post ending left

variable {body : Coroutine σ α}

section Rules

variable {state : σ} {post : Ending α → σ → Prop}

theorem Ensures.mono {weaker : Ending α → σ → Prop} (ensured : Ensures program state post)
    (implies : ∀ ending left, post ending left → weaker ending left) :
    Ensures program state weaker :=
  fun ending left reached => implies ending left (ensured ending left reached)

@[simp] theorem ensures_pure (value : α) :
    Ensures (pure value : Coroutine σ α) state post ↔ post (.returned value) state := by
  simp [Ensures, pure]

@[simp] theorem ensures_raise :
    Ensures (raise : Coroutine σ α) state post ↔ post .raised state := by
  simp [Ensures, raise]

@[simp] theorem ensures_read (view : σ → α) :
    Ensures (read view) state post ↔ post (.returned (view state)) state := by
  simp [Ensures, read]

@[simp] theorem ensures_modify (change : σ → σ) {post : Ending Unit → σ → Prop} :
    Ensures (modify change) state post ↔ post (.returned ()) (change state) := by
  simp [Ensures, modify]

theorem ensures_await (effect : σ → σ) (answer : σ → α) :
    Ensures (await effect answer) state post ↔
      post (.returned (answer state)) (effect state) ∧
        (post .raised state ∧ post .raised (effect state)) ∧
          post .cancelled state ∧ post .cancelled (effect state) := by
  simp only [Ensures, await, List.mem_cons, List.not_mem_nil, or_false, Prod.mk.injEq]
  constructor
  · intro all
    exact ⟨all _ _ (.inl ⟨rfl, rfl⟩), ⟨all _ _ (.inr (.inl ⟨rfl, rfl⟩)),
      all _ _ (.inr (.inr (.inl ⟨rfl, rfl⟩)))⟩, all _ _ (.inr (.inr (.inr (.inl ⟨rfl, rfl⟩)))),
      all _ _ (.inr (.inr (.inr (.inr ⟨rfl, rfl⟩))))⟩
  · rintro ⟨done, ⟨before, after⟩, cut, cutAfter⟩ ending left
      (⟨rfl, rfl⟩ | ⟨rfl, rfl⟩ | ⟨rfl, rfl⟩ | ⟨rfl, rfl⟩ | ⟨rfl, rfl⟩)
    · exact done
    · exact before
    · exact after
    · exact cut
    · exact cutAfter

section Bind

variable {post : Ending β → σ → Prop}

@[simp] theorem ensures_bind (first : Coroutine σ α) (next : α → Coroutine σ β) :
    Ensures (first >>= next) state post ↔
      Ensures first state fun ending left => Ensures (resume next ending) left post := by
  simp only [Ensures, bind, List.mem_flatMap]
  constructor
  · intro all ending left reached final last continued
    exact all final last ⟨(ending, left), reached, continued⟩
  · rintro all final last ⟨⟨ending, left⟩, reached, continued⟩
    exact all ending left reached final last continued

variable (next : α → Coroutine σ β)

@[simp] theorem ensures_resume_returned (value : α) :
    Ensures (resume next (.returned value)) state post ↔ Ensures (next value) state post :=
  Iff.rfl

@[simp] theorem ensures_resume_raised :
    Ensures (resume next .raised) state post ↔ post .raised state := by
  simp [Ensures, resume]

@[simp] theorem ensures_resume_cancelled :
    Ensures (resume next .cancelled) state post ↔ post .cancelled state := by
  simp [Ensures, resume]

theorem ensures_read_bind (view : σ → α) (next : α → Coroutine σ β) :
    Ensures (read view >>= next) state post ↔ Ensures (next (view state)) state post := by
  rw [ensures_bind, ensures_read, ensures_resume_returned]

theorem ensures_modify_bind (change : σ → σ) (next : Unit → Coroutine σ β) :
    Ensures (modify change >>= next) state post ↔ Ensures (next ()) (change state) post := by
  rw [ensures_bind, ensures_modify, ensures_resume_returned]

theorem Ensures.bind {next : α → Coroutine σ β} {middle : Ending α → σ → Prop}
    (ensured : Ensures first state middle)
    (returned : ∀ value left, middle (.returned value) left → Ensures (next value) left post)
    (raised : ∀ left, middle .raised left → post .raised left := by exact fun _ held => held)
    (cancelled : ∀ left, middle .cancelled left → post .cancelled left := by
      exact fun _ held => held) :
    Ensures (first >>= next) state post := by
  rw [ensures_bind]
  intro ending left reached
  have held := ensured ending left reached
  cases ending with
  | returned value => exact returned value left held
  | raised => exact (ensures_resume_raised next).mpr (raised left held)
  | cancelled => exact (ensures_resume_cancelled next).mpr (cancelled left held)

end Bind

theorem ensures_choose (options : List (Coroutine σ α)) :
    Ensures (choose options) state post ↔ ∀ option ∈ options, Ensures option state post := by
  simp only [Ensures, choose, List.mem_flatMap]
  constructor
  · intro all option listed ending left reached
    exact all ending left ⟨option, listed, reached⟩
  · rintro all ending left ⟨option, listed, reached⟩
    exact all option listed ending left reached

theorem ensures_choose_pair (first second : Coroutine σ α) :
    Ensures (choose [first, second]) state post ↔
      Ensures first state post ∧ Ensures second state post := by
  simp [ensures_choose]

theorem ensures_tryExcept (body handler : Coroutine σ α) :
    Ensures (tryExcept body handler) state post ↔
      Ensures body state fun ending left =>
        match ending with
        | .raised => Ensures handler left post
        | other => post other left := by
  simp only [Ensures, tryExcept, List.mem_flatMap]
  constructor
  · intro all ending left reached
    cases ending with
    | returned value => exact all _ _ ⟨_, reached, List.mem_singleton.mpr rfl⟩
    | raised => exact fun final last handled => all final last ⟨_, reached, handled⟩
    | cancelled => exact all _ _ ⟨_, reached, List.mem_singleton.mpr rfl⟩
  · rintro all final last ⟨⟨ending, left⟩, reached, continued⟩
    have ensured := all ending left reached
    cases ending with
    | returned value =>
      cases List.mem_singleton.mp continued
      exact ensured
    | raised => exact ensured final last continued
    | cancelled =>
      cases List.mem_singleton.mp continued
      exact ensured

theorem ensures_withinTimeout (body : Coroutine σ α) {post : Ending (Option α) → σ → Prop} :
    Ensures (withinTimeout body) state post ↔
      Ensures body state fun ending left =>
        match ending with
        | .returned value => post (.returned (some value)) left
        | .raised => post .raised left
        | .cancelled => post (.returned none) left := by
  simp only [Ensures, withinTimeout, List.mem_map]
  constructor
  · intro all ending left reached
    cases ending <;> exact all _ _ ⟨_, reached, rfl⟩
  · intro all final last reached
    rcases reached with ⟨⟨ending, left⟩, reached, equal⟩
    have ensured := all ending left reached
    cases ending <;> cases equal <;> exact ensured

theorem Ensures.withinTimeout {post : σ → Prop}
    (ensured : Ensures body state fun _ left => post left) :
    Ensures (withinTimeout body) state fun _ left => post left := by
  rw [ensures_withinTimeout]
  refine ensured.mono ?_
  intro ending left held
  cases ending <;> exact held

theorem Ensures.caught {value : α} {post : σ → Prop}
    (ensured : Ensures body state fun _ left => post left) :
    Ensures (tryExcept body (pure value)) state fun _ left => post left := by
  rw [ensures_tryExcept]
  refine ensured.mono ?_
  intro ending left held
  cases ending with
  | returned value => exact held
  | raised => exact (ensures_pure _).mpr held
  | cancelled => exact held

theorem ensures_onPart {π : Type} (part : σ → π) (put : σ → π → σ) (program : Coroutine π α) :
    Ensures (onPart part put program) state post ↔
      Ensures program (part state) fun ending left => post ending (put state left) := by
  simp only [Ensures, onPart, List.mem_map]
  constructor
  · exact fun all ending left reached => all _ _ ⟨_, reached, rfl⟩
  · intro all final last reached
    rcases reached with ⟨⟨ending, left⟩, reached, equal⟩
    cases equal
    exact all ending left reached

end Rules

/-! ## Endings without cancellation -/

def Ends (returned : α → σ → Prop) (raised : σ → Prop) : Ending α → σ → Prop
  | .returned value, left => returned value left
  | .raised, left => raised left
  | .cancelled, _ => False

section Ends

variable {state : σ} {returned : α → σ → Prop} {raised : σ → Prop}

theorem Ensures.weaken {returned' : α → σ → Prop} {raised' : σ → Prop}
    (ensured : Ensures program state (Ends returned raised))
    (returns : ∀ value left, returned value left → returned' value left)
    (raises : ∀ left, raised left → raised' left) :
    Ensures program state (Ends returned' raised') := by
  refine ensured.mono ?_
  intro ending left held
  cases ending with
  | returned value => exact returns value left held
  | raised => exact raises left held
  | cancelled => exact held

theorem Ensures.raising {raised' : σ → Prop}
    (ensured : Ensures program state (Ends returned raised))
    (raises : ∀ left, raised left → raised' left) :
    Ensures program state (Ends returned raised') :=
  ensured.weaken (fun _ _ held => held) raises

theorem Ensures.andThen {next : α → Coroutine σ β} {final : β → σ → Prop}
    (ensured : Ensures first state (Ends returned raised))
    (continued : ∀ value left, returned value left →
      Ensures (next value) left (Ends final raised)) :
    Ensures (first >>= next) state (Ends final raised) :=
  ensured.bind continued

theorem Ensures.handled {handler : Coroutine σ α} {failed : σ → Prop}
    (ensured : Ensures body state (Ends returned failed))
    (handles : ∀ left, failed left → Ensures handler left (Ends returned raised)) :
    Ensures (tryExcept body handler) state (Ends returned raised) := by
  rw [ensures_tryExcept]
  refine ensured.mono ?_
  intro ending left held
  cases ending with
  | returned value => exact held
  | raised => exact handles left held
  | cancelled => exact held

/-- `try: await body except Exception: pass`. -/
theorem Ensures.swallowed {holds : σ → Prop}
    (ensured : Ensures body state (Ends (fun _ left => holds left) holds)) :
    Ensures (tryExcept (do let _ ← body; pure ()) (pure ())) state
      (Ends (fun _ left => holds left) raised) := by
  refine Ensures.handled (ensured.andThen ?_) ?_
  · exact fun _ _ held => (ensures_pure _).mpr held
  · exact fun _ held => (ensures_pure _).mpr held

end Ends

end Coroutine

end Lium
