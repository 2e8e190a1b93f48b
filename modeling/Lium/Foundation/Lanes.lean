import Mathlib.Data.List.Forall2
import Mathlib.Data.Set.Function

/-! # Independent lanes

Tasks that share nothing, advanced one step at a time in the order of a schedule, and the
three-way merge that puts what a task changed on its own copy of a store into another copy.
-/

namespace Lium

section Schedules

variable {τ : Type} (step : τ → τ)

def runSchedule (schedule : List ℕ) (tasks : List τ) : List τ :=
  schedule.foldl (fun tasks position => tasks.modify position step) tasks

variable {ι : Type} {keeps : ι → τ → Prop} {starts : List ι} {tasks : List τ}

theorem exists_start_of_mem (related : List.Forall₂ keeps starts tasks) {task : τ}
    (member : task ∈ tasks) : ∃ start ∈ starts, keeps start task := by
  induction related with
  | nil => cases member
  | cons head tail induction =>
    rcases List.mem_cons.mp member with first | later
    · exact ⟨_, List.mem_cons_self, first ▸ head⟩
    · rcases induction later with ⟨start, inTail, kept⟩
      exact ⟨start, List.mem_cons_of_mem _ inTail, kept⟩

theorem forall₂_modify (kept : ∀ start task, keeps start task → keeps start (step task))
    (initially : List.Forall₂ keeps starts tasks) (position : ℕ) :
    List.Forall₂ keeps starts (tasks.modify position step) := by
  induction initially generalizing position with
  | nil => cases position <;> exact .nil
  | cons head tail induction =>
    cases position with
    | zero => exact .cons (kept _ _ head) tail
    | succ position => exact .cons head (induction position)

theorem forall₂_runSchedule (kept : ∀ start task, keeps start task → keeps start (step task))
    (initially : List.Forall₂ keeps starts tasks) (schedule : List ℕ) :
    List.Forall₂ keeps starts (runSchedule step schedule tasks) := by
  induction schedule generalizing tasks with
  | nil => exact initially
  | cons position schedule induction =>
    exact induction (forall₂_modify step kept initially position)

end Schedules

section Merges

variable {α ι : Type}

/-- A three-way merge of `current`, `before` and `after`: what shows that it did not change stays
current, and a change that shows is taken over where current is still as it was before. -/
structure IsMerge (merge : α → α → α → α) (shows : α → α → Prop) : Prop where
  unchanged : ∀ current value, shows value value → merge current value value = current
  changed : ∀ before after, shows before after → merge before before after = after

/-- Merging one task's change into a store that differs from the task's copy only outside
what the task writes gives what the task would have made of that store. -/
theorem IsMerge.merge_eq_direct {merge : α → α → α → α} {shows : α → α → Prop}
    (merges : IsMerge merge shows) {writes : Set ι} {current before after direct : ι → α}
    (kept : Set.EqOn after before writesᶜ) (keptDirect : Set.EqOn direct current writesᶜ)
    (same : Set.EqOn after direct writes) (current_before : Set.EqOn current before writes)
    (changesShow : ∀ place, shows (before place) (after place)) (place : ι) :
    merge (current place) (before place) (after place) = direct place := by
  by_cases written : place ∈ writes
  · rw [current_before written, merges.changed _ _ (changesShow place), same written]
  · have shown := changesShow place
    rw [kept written] at shown ⊢
    rw [merges.unchanged _ _ shown, keptDirect written]

end Merges

end Lium
