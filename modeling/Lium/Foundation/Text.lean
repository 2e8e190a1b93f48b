import Mathlib.Data.List.Basic

/-! # Text

`str.rsplit` with one split, decimal numerals, prefixes, and what `str.strip` takes off.
-/

namespace Lium.Text

/-- `text.rsplit(separator, 1)` as a pair: the parts around the last separator, or `none`
when there is none. -/
def rsplitOnce (separator : Char) (text : String) : Option (String × String) :=
  let reversed := text.toList.reverse
  match reversed.dropWhile (· ≠ separator) with
  | [] => none
  | _ :: front =>
    some (String.ofList front.reverse,
      String.ofList (reversed.takeWhile (· ≠ separator)).reverse)

theorem rsplitOnce_append {separator : Char} (head : String) {tail : String}
    (absent : separator ∉ tail.toList) :
    rsplitOnce separator (head ++ String.ofList [separator] ++ tail) = some (head, tail) := by
  have passes : ∀ char ∈ tail.toList.reverse, decide (char ≠ separator) = true := by
    intro char member
    rw [decide_eq_true_eq]
    rintro rfl
    exact absent (List.mem_reverse.mp member)
  have reversed : (head ++ String.ofList [separator] ++ tail).toList.reverse =
      tail.toList.reverse ++ separator :: head.toList.reverse := by
    simp [String.toList_append]
  have stops : (separator :: head.toList.reverse).dropWhile (· ≠ separator) =
      separator :: head.toList.reverse := by
    simp
  simp only [rsplitOnce, reversed, List.dropWhile_append_of_pos passes,
    List.takeWhile_append_of_pos passes, stops]
  simp

theorem toList_toString (value : ℕ) : (toString value).toList = Nat.toDigits 10 value :=
  Nat.toList_repr

theorem isDigit_of_mem_toString {char : Char} {value : ℕ}
    (member : char ∈ (toString value).toList) : char.isDigit = true := by
  rw [toList_toString] at member
  exact Nat.isDigit_of_mem_toDigits (by decide) (by decide) member

theorem not_mem_toString {separator : Char} (notDigit : separator.isDigit = false) (value : ℕ) :
    separator ∉ (toString value).toList := by
  intro member
  rw [isDigit_of_mem_toString member] at notDigit
  cases notDigit

/-- `int(text)` on text that has nothing but digits. -/
def numeral (text : String) : Option Int :=
  if text.toList.all Char.isDigit then some (Nat.ofDigitChars 10 text.toList 0 : ℕ) else none

theorem numeral_toString (value : ℕ) : numeral (toString value) = some (value : Int) := by
  have allDigits : (toString value).toList.all Char.isDigit = true :=
    List.all_eq_true.mpr fun _ => isDigit_of_mem_toString
  rw [numeral, if_pos allDigits, toList_toString, Nat.ofDigitChars_ten_toDigits]

section Affixes

def startsWith (start text : String) : Bool :=
  start.toList.isPrefixOf text.toList

/-- `text.partition(separator)[2]`. -/
def afterFirst (separator : Char) (text : String) : String :=
  String.ofList ((text.toList.dropWhile (· ≠ separator)).drop 1)

/-- What `str.strip()` takes for white space. -/
def isSpace (char : Char) : Bool :=
  let code := char.toNat
  (9 ≤ code && code ≤ 13) || (28 ≤ code && code ≤ 32) || code == 0x85 || code == 0xa0 ||
    code == 0x1680 || (0x2000 ≤ code && code ≤ 0x200a) || code == 0x2028 || code == 0x2029 ||
    code == 0x202f || code == 0x205f || code == 0x3000

/-- `text.strip()`. -/
def strip (text : String) : String :=
  String.ofList ((text.toList.dropWhile isSpace).reverse.dropWhile isSpace).reverse

end Affixes

end Lium.Text
