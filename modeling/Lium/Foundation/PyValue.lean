import Mathlib.Data.List.Dedup
import Mathlib.Data.Rat.Floor

/-! # Untyped Python values

The values a decoded JSON document can hold, with the parts of Python's dynamic
behaviour that scrape-reading code relies on: truthiness, `isinstance`, `dict.get`,
`float(...)`, and hashing into a `set`. Numbers are exact rationals.
-/

namespace Lium

inductive PyValue
  | none
  | bool (value : Bool)
  | int (value : Int)
  | float (value : ℚ)
  | str (value : String)
  | list (values : List PyValue)
  | dict (fields : List (String × PyValue))

/-- The exceptions the modelled code can raise. -/
inductive PyError
  | attributeError
  | keyError
  | overflowError
  | typeError
  | valueError
  | validationError
  deriving DecidableEq, Repr

/-- Conversions between text and values that the interpreter supplies. A failed
parse (`ValueError`) is `none`. -/
structure PyRuntime where
  /-- `float(text)` -/
  floatOfText : String → Option ℚ
  /-- `int(text, 16)` -/
  intOfHexText : String → Option Int
  /-- `int(text)`, which reads back what `str` writes for a natural number -/
  intOfText : String → Option Int
  intOfText_toString : ∀ value : ℕ, intOfText (toString value) = some (value : Int)
  /-- `str(value)` for a value that is not a string -/
  textOf : PyValue → String
  /-- `text.split(separator)` -/
  split : String → String → List String
  /-- `text.strip()` -/
  strip : String → String
  /-- `text.lower()` -/
  lower : String → String

namespace PyValue

/-- `bool(value)`. -/
def truthy : PyValue → Bool
  | none => false
  | bool value => value
  | int value => value ≠ 0
  | float value => value ≠ 0
  | str value => value ≠ ""
  | list values => !values.isEmpty
  | dict fields => !fields.isEmpty

/-- `str(value)`. -/
def text (runtime : PyRuntime) : PyValue → String
  | str value => value
  | value => runtime.textOf value

/-- `fields.get(key)` on the fields of a dictionary; a missing key reads `None`. -/
def field (fields : List (String × PyValue)) (key : String) : PyValue :=
  match fields.find? fun entry => entry.1 = key with
  | some entry => entry.2
  | Option.none => none

/-- `value.get(key)`: only a dictionary has the attribute. -/
def get (value : PyValue) (key : String) : Except PyError PyValue :=
  match value with
  | dict fields => .ok (field fields key)
  | _ => .error .attributeError

/-- `value or fallback`. -/
def orElse (value fallback : PyValue) : PyValue := if value.truthy then value else fallback

/-- Integers from here on round to infinity, and `float(value)` raises instead. -/
def floatBound : ℕ := 2 ^ 1024 - 2 ^ 970

/-- `float(value)`. -/
def toFloat (runtime : PyRuntime) : PyValue → Except PyError ℚ
  | bool value => .ok (if value then 1 else 0)
  | int value => if value.natAbs < floatBound then .ok value else .error .overflowError
  | float value => .ok value
  | str value =>
    match runtime.floatOfText value with
    | some parsed => .ok parsed
    | Option.none => .error .valueError
  | _ => .error .typeError

/-- What `for item in value` walks over: a dictionary its keys, a string its
characters; a number, a truth value or `None` is not iterable. -/
def iterate : PyValue → Except PyError (List PyValue)
  | list values => .ok values
  | dict fields => .ok (fields.map fun entry => str entry.1)
  | str value => .ok (value.toList.map fun char => str (String.singleton char))
  | _ => .error .typeError

/-- `isinstance(value, int) and not isinstance(value, bool)`. -/
def asInt : PyValue → Option Int
  | int value => some value
  | _ => Option.none

/-- Python's equality on hashable values: numbers of every type compare by value. -/
inductive HashKey
  | none
  | number (value : ℚ)
  | text (value : String)
  deriving DecidableEq

/-- The key a value hashes under. Lists and dictionaries are unhashable. -/
def hashKey : PyValue → Except PyError HashKey
  | none => .ok .none
  | bool value => .ok (.number (if value then 1 else 0))
  | int value => .ok (.number value)
  | float value => .ok (.number value)
  | str value => .ok (.text value)
  | list _ => .error .typeError
  | dict _ => .error .typeError

def hashable : PyValue → Bool
  | list _ => false
  | dict _ => false
  | _ => true

/-- `len(set(values))`. -/
def distinctCount (values : List PyValue) : Except PyError Nat := do
  let keys ← values.mapM hashKey
  return keys.dedup.length

theorem hashKey_ok_iff (value : PyValue) :
    (∃ key, value.hashKey = .ok key) ↔ value.hashable = true := by
  cases value <;> simp [hashKey, hashable]

theorem mapM_hashKey_ok_iff (values : List PyValue) :
    (∃ keys, values.mapM hashKey = .ok keys) ↔ ∀ value ∈ values, value.hashable = true := by
  induction values with
  | nil => simp [pure, Except.pure]
  | cons head tail induction =>
    rw [List.forall_mem_cons, ← induction, ← hashKey_ok_iff]
    cases first : head.hashKey <;> cases rest : tail.mapM hashKey <;>
      simp [List.mapM_cons, first, rest, bind, Except.bind, pure, Except.pure]

theorem distinctCount_ok_iff (values : List PyValue) :
    (∃ count, distinctCount values = .ok count) ↔
      ∀ value ∈ values, value.hashable = true := by
  rw [← mapM_hashKey_ok_iff]
  cases keys : values.mapM hashKey <;>
    simp [distinctCount, keys, bind, Except.bind, pure, Except.pure]

end PyValue

/-- `round(value, 1)`: to tenths, an exact tie to the even tenth. -/
def roundTenths (value : ℚ) : ℚ :=
  let tenths := ⌊value * 10⌋
  let rest := value * 10 - tenths
  let rounded :=
    if rest < 1 / 2 then tenths
    else if 1 / 2 < rest then tenths + 1
    else if tenths % 2 = 0 then tenths else tenths + 1
  rounded / 10

example : roundTenths (25 / 100) = 1 / 5 := by decide +kernel

end Lium
