import Mathlib.Data.List.Basic

/-! # What an agent sees of a shared state

Agents take turns on one state, and each turn answers the agent that takes it. An agent is
undisturbed when its answers are those it gets with the others' turns left out.
-/

namespace Lium

structure Turns (ι τ σ ω : Type) where
  agent : τ → ι
  exec : τ → σ → ω × σ

namespace Turns

variable {ι τ σ ω : Type} [DecidableEq ι] (turns : Turns ι τ σ ω)

def answers (agent : ι) : σ → List τ → List ω
  | _, [] => []
  | state, turn :: rest =>
    if turns.agent turn = agent then
      (turns.exec turn state).1 :: answers agent (turns.exec turn state).2 rest
    else answers agent (turns.exec turn state).2 rest

def purge (agent : ι) (schedule : List τ) : List τ :=
  schedule.filter fun turn => turns.agent turn = agent

def Undisturbed (agent : ι) (state : σ) (schedule : List τ) : Prop :=
  turns.answers agent state schedule = turns.answers agent state (turns.purge agent schedule)

instance [DecidableEq ω] (agent : ι) (state : σ) (schedule : List τ) :
    Decidable (turns.Undisturbed agent state schedule) :=
  inferInstanceAs (Decidable (_ = _))

variable {turns}

theorem undisturbed_of_others_idle {agent : ι} {schedule : List τ}
    (idle : ∀ turn ∈ schedule, turns.agent turn ≠ agent →
      ∀ state, (turns.exec turn state).2 = state)
    {state : σ} : turns.Undisturbed agent state schedule := by
  induction schedule generalizing state with
  | nil => rfl
  | cons turn rest induction =>
    rw [List.forall_mem_cons] at idle
    have later (state : σ) : turns.Undisturbed agent state rest := induction idle.2
    unfold Undisturbed at later ⊢
    by_cases own : turns.agent turn = agent
    · have kept : turns.purge agent (turn :: rest) = turn :: turns.purge agent rest := by
        simp [purge, own]
      rw [kept, answers, answers, if_pos own, if_pos own, later]
    · have dropped : turns.purge agent (turn :: rest) = turns.purge agent rest := by
        simp [purge, own]
      rw [dropped, answers, if_neg own, later, idle.1 own]

end Turns

end Lium
