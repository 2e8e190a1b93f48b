import Mathlib.Data.Option.Basic
import Mathlib.Tactic.Common

/-! # A key that expires

One key of a store with a time to live: setting it only where it is absent, and replacing it
only where it still holds what the caller expects.
-/

namespace Lium

abbrev ExpiringKey (α : Type) := Option (α × ℕ)

namespace ExpiringKey

variable {α : Type}

def expire (now : ℕ) (key : ExpiringKey α) : ExpiringKey α :=
  key.filter fun entry => now < entry.2

def setIfAbsent (value : α) (deadline : ℕ) : ExpiringKey α → ExpiringKey α
  | none => some (value, deadline)
  | some entry => some entry

variable {deadline : ℕ} {value : α}

theorem expire_of_lt {now : ℕ} (live : now < deadline) :
    expire now (some (value, deadline)) = some (value, deadline) := by
  simp [expire, live]

variable {key : ExpiringKey α}

theorem map_expire_ne {now : ℕ} (absent : key.map Prod.fst ≠ some value) :
    (key.expire now).map Prod.fst ≠ some value := by
  cases key with
  | none => exact absent
  | some entry =>
    by_cases live : now < entry.2
    · rw [expire_of_lt live]
      exact absent
    · have gone : expire now (some entry) = none := by
        simpa [expire] using live
      rw [gone]
      simp

variable [DecidableEq α]

/-- The key is replaced, or deleted, where it holds the expected value. -/
def compareAndSet (expected : α) (replacement : Option α) (deadline : ℕ)
    (key : ExpiringKey α) : ExpiringKey α :=
  if key.map Prod.fst = some expected then replacement.map fun value => (value, deadline)
  else key

variable {expected : α} {replacement : Option α}

theorem compareAndSet_of_ne (other : key.map Prod.fst ≠ some expected) :
    key.compareAndSet expected replacement deadline = key := by
  rw [compareAndSet, if_neg other]

theorem compareAndSet_ne (absent : key.map Prod.fst ≠ some value)
    (replaced : replacement ≠ some value) :
    (key.compareAndSet expected replacement deadline).map Prod.fst ≠ some value := by
  rw [compareAndSet]
  split
  · simpa [Option.map_map, Function.comp_def] using replaced
  · exact absent

theorem compareAndSet_released (replaced : replacement ≠ some expected) :
    (key.compareAndSet expected replacement deadline).map Prod.fst ≠ some expected := by
  by_cases held : key.map Prod.fst = some expected
  · rw [compareAndSet, if_pos held]
    simpa [Option.map_map, Function.comp_def] using replaced
  · rwa [compareAndSet_of_ne held]

end ExpiringKey

end Lium
