import Lium.Foundation.Text

/-! # Lines of bytes

A file as bytes and as lines that keep their newlines, the white space that `bytes.strip` and
`bytes.rsplit` know, and the encoding of text, whose bytes below 128 are its characters.
-/

namespace Lium

abbrev Bytes := List UInt8

namespace Bytes

/-! ## Text -/

/-- `text.encode()`. -/
def encode (text : String) : Bytes := text.toList.flatMap String.utf8EncodeChar

theorem toNat_eq_of_mem_encodeChar {char : Char} {byte : UInt8}
    (member : byte ∈ String.utf8EncodeChar char) (ascii : byte.toNat < 128) :
    char.toNat = byte.toNat := by
  have value : char.val.toNat = char.toNat := rfl
  simp only [String.utf8EncodeChar, value] at member
  split at member
  · rw [List.mem_singleton] at member
    subst member
    simp only [UInt8.toNat_ofNat']
    omega
  · -- every byte of a longer encoding is at least 128
    exfalso
    split at member
    · simp only [List.mem_cons, List.not_mem_nil, or_false] at member
      rcases member with rfl | rfl <;> simp only [UInt8.toNat_ofNat'] at ascii <;> omega
    · split at member
      · simp only [List.mem_cons, List.not_mem_nil, or_false] at member
        rcases member with rfl | rfl | rfl <;> simp only [UInt8.toNat_ofNat'] at ascii <;> omega
      · simp only [List.mem_cons, List.not_mem_nil, or_false] at member
        rcases member with rfl | rfl | rfl | rfl <;>
          simp only [UInt8.toNat_ofNat'] at ascii <;> omega

variable {text : String}

theorem mem_encode {byte : UInt8} :
    byte ∈ encode text ↔ ∃ char ∈ text.toList, byte ∈ String.utf8EncodeChar char :=
  List.mem_flatMap

theorem mem_of_mem_encode (char : Char) (ascii : char.toNat < 128)
    (member : UInt8.ofNat char.toNat ∈ encode text) : char ∈ text.toList := by
  obtain ⟨other, listed, member⟩ := mem_encode.mp member
  have value : (UInt8.ofNat char.toNat).toNat = char.toNat := by
    rw [UInt8.toNat_ofNat']
    omega
  have same := toNat_eq_of_mem_encodeChar member (by rwa [value])
  rw [value] at same
  rwa [← Char.toNat_inj.mp same]

@[simp] theorem encode_append (first second : String) :
    encode (first ++ second) = encode first ++ encode second := by
  simp [encode, String.toList_append]

/-- The text of bytes that stand for themselves. -/
def asciiText (bytes : Bytes) : String :=
  String.ofList (bytes.map fun byte => Char.ofNat byte.toNat)

theorem asciiText_encode (ascii : ∀ char ∈ text.toList, char.toNat < 128) :
    asciiText (encode text) = text := by
  have chars : (encode text).map (fun byte => Char.ofNat byte.toNat) = text.toList := by
    rw [encode]
    generalize text.toList = list at ascii
    induction list with
    | nil => rfl
    | cons char rest induction =>
      obtain ⟨first, later⟩ := List.forall_mem_cons.mp ascii
      have encoded : String.utf8EncodeChar char = [UInt8.ofNat char.toNat] :=
        if_pos (Nat.le_of_lt_succ first)
      have value : (UInt8.ofNat char.toNat).toNat = char.toNat := by
        rw [UInt8.toNat_ofNat']
        omega
      rw [List.flatMap_cons, List.map_append, induction later, encoded, List.map_singleton, value,
        Char.ofNat_toNat]
      rfl
  rw [asciiText, chars, String.ofList_toList]

/-! ## White space -/

def isSpace (byte : UInt8) : Bool :=
  (9 ≤ byte.toNat && byte.toNat ≤ 13) || byte.toNat == 32

theorem isSpace_of_mem_encodeChar {char : Char} {byte : UInt8}
    (member : byte ∈ String.utf8EncodeChar char) (space : isSpace byte = true) :
    Text.isSpace char = true := by
  simp only [isSpace, Bool.or_eq_true, Bool.and_eq_true, decide_eq_true_eq, beq_iff_eq] at space
  have same := toNat_eq_of_mem_encodeChar member (by omega)
  simp only [Text.isSpace, same, Bool.or_eq_true, Bool.and_eq_true, decide_eq_true_eq, beq_iff_eq]
  omega

/-- `bytes.strip()`. -/
def strip (bytes : Bytes) : Bytes :=
  ((bytes.dropWhile isSpace).reverse.dropWhile isSpace).reverse

/-- `bytes.rsplit(None, 1)` when it has two parts. -/
def rsplitSpace (bytes : Bytes) : Option (Bytes × Bytes) :=
  let reversed := bytes.reverse
  match reversed.dropWhile (fun byte => !isSpace byte) with
  | [] => none
  | rest =>
    some ((rest.dropWhile isSpace).reverse,
      (reversed.takeWhile fun byte => !isSpace byte).reverse)

structure Bare (bytes : Bytes) : Prop where
  nonempty : bytes ≠ []
  head : ∀ byte ∈ bytes.head?, isSpace byte = false
  last : ∀ byte ∈ bytes.getLast?, isSpace byte = false

variable {bytes : Bytes}

theorem dropWhile_of_head (head : ∀ byte ∈ bytes.head?, isSpace byte = false) :
    bytes.dropWhile isSpace = bytes := by
  cases bytes with
  | nil => rfl
  | cons byte rest => rw [List.dropWhile_cons_of_neg (by simpa using head byte rfl)]

theorem Bare.strip_eq (bare : Bare bytes) : strip bytes = bytes := by
  have ends : ∀ byte ∈ bytes.reverse.head?, isSpace byte = false := by
    simpa using bare.last
  rw [strip, dropWhile_of_head bare.head, dropWhile_of_head ends, List.reverse_reverse]

theorem strip_append_of_isSpace (bytes : Bytes) {space : UInt8} (blank : isSpace space = true) :
    strip (bytes ++ [space]) = strip bytes := by
  rw [strip, strip, List.dropWhile_append]
  split
  next empty =>
    rw [List.isEmpty_iff.mp empty, List.dropWhile_cons_of_pos blank]
    rfl
  next =>
    rw [List.reverse_append, List.reverse_singleton, List.singleton_append,
      List.dropWhile_cons_of_pos blank]

theorem rsplitSpace_append {token : Bytes} (bare : Bare bytes)
    (whole : ∀ byte ∈ token, isSpace byte = false) :
    rsplitSpace (bytes ++ 32 :: token) = some (bytes, token) := by
  have ends : ∀ byte ∈ bytes.reverse.head?, isSpace byte = false := by
    simpa using bare.last
  have passes : ∀ byte ∈ token.reverse, (fun byte => !isSpace byte) byte = true := by
    intro byte member
    simp [whole byte (List.mem_reverse.mp member)]
  have reversed : (bytes ++ 32 :: token).reverse = token.reverse ++ 32 :: bytes.reverse := by
    simp
  have stops : (32 :: bytes.reverse).dropWhile (fun byte => !isSpace byte) = 32 :: bytes.reverse :=
    rfl
  have stops' : (32 :: bytes.reverse).takeWhile (fun byte => !isSpace byte) = [] := rfl
  simp only [rsplitSpace, reversed, List.dropWhile_append_of_pos passes,
    List.takeWhile_append_of_pos passes, stops, stops']
  rw [List.dropWhile_cons_of_pos (by decide), dropWhile_of_head ends]
  simp

theorem Bare.append {first second : Bytes} (bare : Bare first) (bare' : Bare second)
    (middle : Bytes) : Bare (first ++ middle ++ second) where
  nonempty := by simp [bare.nonempty]
  head := by
    rw [List.append_assoc, List.head?_append_of_ne_nil _ bare.nonempty]
    exact bare.head
  last := by
    rw [List.getLast?_append_of_ne_nil _ bare'.nonempty]
    exact bare'.last

theorem bare_of_no_space (nonempty : bytes ≠ [])
    (whole : ∀ byte ∈ bytes, isSpace byte = false) : Bare bytes :=
  ⟨nonempty, fun byte member => whole byte (List.mem_of_mem_head? member),
    fun byte member => whole byte (List.mem_of_mem_getLast? member)⟩

/-- What is left of a list without its blanks at both ends neither starts nor ends with one. -/
theorem ends_of_stripped {α : Type} (blank : α → Bool) (list : List α) :
    let rest := ((list.dropWhile blank).reverse.dropWhile blank).reverse
    (∀ entry ∈ rest.head?, blank entry = false) ∧ ∀ entry ∈ rest.getLast?, blank entry = false := by
  have starts : ∀ entry ∈ (list.dropWhile blank).head?, blank entry = false := by
    intro entry member
    have shape := List.head?_dropWhile_not blank list
    rw [Option.mem_def.mp member] at shape
    simpa using shape
  generalize list.dropWhile blank = kept at starts
  constructor
  · intro entry member
    obtain ⟨blanks, split⟩ : kept.reverse.dropWhile blank <:+ kept.reverse :=
      List.dropWhile_suffix _
    have joined : kept = (kept.reverse.dropWhile blank).reverse ++ blanks.reverse := by
      rw [← List.reverse_append, split, List.reverse_reverse]
    apply starts entry
    rw [joined]
    cases front : (kept.reverse.dropWhile blank).reverse with
    | nil =>
      rw [front] at member
      cases member
    | cons first rest =>
      rw [front] at member
      exact member
  · intro entry member
    rw [List.getLast?_reverse] at member
    have shape := List.head?_dropWhile_not blank kept.reverse
    rw [Option.mem_def.mp member] at shape
    simpa using shape

theorem bare_strip (nonempty : strip bytes ≠ []) : Bare (strip bytes) :=
  ⟨nonempty, (ends_of_stripped isSpace bytes).1, (ends_of_stripped isSpace bytes).2⟩

theorem bare_encode_strip (nonempty : Text.strip text ≠ "") :
    Bare (encode (Text.strip text)) := by
  obtain ⟨starts, ends⟩ := ends_of_stripped Text.isSpace text.toList
  have chars : (Text.strip text).toList ≠ [] := by
    simpa using nonempty
  have plain {char : Char} {byte : UInt8} (known : Text.isSpace char = false)
      (member : byte ∈ String.utf8EncodeChar char) : isSpace byte = false := by
    rw [← Bool.not_eq_true]
    intro space
    rw [isSpace_of_mem_encodeChar member space] at known
    cases known
  rw [Text.strip, String.toList_ofList] at chars
  rw [encode, Text.strip, String.toList_ofList]
  generalize ((text.toList.dropWhile Text.isSpace).reverse.dropWhile Text.isSpace).reverse = list
    at starts ends chars
  refine ⟨?_, ?_, ?_⟩
  · cases list with
    | nil => exact absurd rfl chars
    | cons char rest => simp
  · cases list with
    | nil => exact absurd rfl chars
    | cons char rest =>
      intro byte member
      rw [List.flatMap_cons, List.head?_append_of_ne_nil _ (String.utf8EncodeChar_ne_nil)] at member
      exact plain (starts char rfl) (List.mem_of_mem_head? member)
  · rcases List.eq_nil_or_concat list with rfl | ⟨front, char, rfl⟩
    · exact absurd rfl chars
    · intro byte member
      rw [List.concat_eq_append, List.flatMap_append, List.flatMap_singleton,
        List.getLast?_append_of_ne_nil _ (String.utf8EncodeChar_ne_nil)] at member
      exact plain (ends char (by simp)) (List.mem_of_mem_getLast? member)

/-! ## Lines -/

/-- `file.readlines()`: each line keeps its newline. -/
def readlines : Bytes → List Bytes
  | [] => []
  | byte :: rest =>
    if byte = 10 then [byte] :: readlines rest
    else
      match readlines rest with
      | [] => [[byte]]
      | line :: lines => (byte :: line) :: lines

def Complete (line : Bytes) : Prop := ∃ body : Bytes, 10 ∉ body ∧ line = body ++ [10]

/-- The lines of a file: all are complete, except that the last may have no newline. -/
def Lines : List Bytes → Prop
  | [] => True
  | line :: rest => (Complete line ∨ (rest = [] ∧ line ≠ [] ∧ 10 ∉ line)) ∧ Lines rest

theorem flatten_readlines (content : Bytes) : (readlines content).flatten = content := by
  induction content with
  | nil => rfl
  | cons byte rest induction =>
    rw [readlines]
    split
    · rw [List.flatten_cons, induction]
      rfl
    · split
      next none =>
        rw [none] at induction
        rw [← induction]
        rfl
      next line lines some =>
        rw [some] at induction
        rw [← induction]
        rfl

theorem lines_readlines (content : Bytes) : Lines (readlines content) := by
  induction content with
  | nil => trivial
  | cons byte rest induction =>
    rw [readlines]
    split
    next newline => exact ⟨.inl ⟨[], by simp, by rw [newline]; rfl⟩, induction⟩
    next other =>
      split
      next none => exact ⟨.inr ⟨rfl, by simp, by simpa using fun same => other same.symm⟩, trivial⟩
      next line lines some =>
        rw [some] at induction
        refine ⟨?_, induction.2⟩
        rcases induction.1 with ⟨body, plain, rfl⟩ | ⟨last, -, plain⟩
        · refine .inl ⟨byte :: body, ?_, rfl⟩
          rw [List.mem_cons, not_or]
          exact ⟨fun same => other same.symm, plain⟩
        · refine .inr ⟨last, by simp, ?_⟩
          rw [List.mem_cons, not_or]
          exact ⟨fun same => other same.symm, plain⟩

variable {line : Bytes}

theorem not_mem_strip (shape : Complete line ∨ 10 ∉ line) : 10 ∉ strip line := by
  intro member
  have kept : 10 ∈ (line.dropWhile isSpace).reverse.dropWhile isSpace := List.mem_reverse.mp member
  rcases shape with ⟨body, plain, rfl⟩ | plain
  · obtain ⟨dropped, split⟩ : (body ++ [10]).dropWhile isSpace <:+ body ++ [10] :=
      List.dropWhile_suffix _
    rcases List.eq_nil_or_concat ((body ++ [10]).dropWhile isSpace) with none | ⟨front, byte, rest⟩
    · rw [none] at kept
      cases kept
    · -- the newline at the end is white space, and what stands before it is of the body
      rw [rest, List.concat_eq_append, ← List.append_assoc] at split
      obtain ⟨whole, same⟩ := List.append_inj' split rfl
      cases same
      rw [rest, List.concat_eq_append, List.reverse_append, List.reverse_singleton,
        List.singleton_append, List.dropWhile_cons_of_pos (by decide)] at kept
      have listed := List.mem_reverse.mp ((List.dropWhile_suffix _).mem kept)
      exact plain (whole ▸ List.mem_append_right _ listed)
  · have listed := List.mem_reverse.mp ((List.dropWhile_suffix _).mem kept)
    exact plain ((List.dropWhile_suffix _).mem listed)

theorem readlines_append_of_complete (complete : Complete line) (rest : Bytes) :
    readlines (line ++ rest) = line :: readlines rest := by
  obtain ⟨body, plain, rfl⟩ := complete
  induction body with
  | nil => simp [readlines]
  | cons byte body induction =>
    rw [List.mem_cons, not_or] at plain
    rw [List.cons_append, List.cons_append, readlines, if_neg (fun same => plain.1 same.symm),
      induction plain.2]

theorem readlines_of_incomplete (nonempty : line ≠ []) (plain : 10 ∉ line) :
    readlines line = [line] := by
  induction line with
  | nil => exact absurd rfl nonempty
  | cons byte rest induction =>
    rw [List.mem_cons, not_or] at plain
    rw [readlines, if_neg (fun same => plain.1 same.symm)]
    cases rest with
    | nil => rfl
    | cons next rest => rw [induction (by simp) plain.2]

variable {lines : List Bytes}

theorem readlines_flatten (wellFormed : Lines lines) :
    readlines lines.flatten = lines := by
  induction lines with
  | nil => rfl
  | cons line rest induction =>
    rcases wellFormed.1 with complete | ⟨rfl, nonempty, plain⟩
    · rw [List.flatten_cons, readlines_append_of_complete complete, induction wellFormed.2]
    · rw [List.flatten_singleton, readlines_of_incomplete nonempty plain]

theorem Lines.of_mem (wellFormed : Lines lines)
    (listed : line ∈ lines) : Complete line ∨ 10 ∉ line := by
  induction lines with
  | nil => cases listed
  | cons first rest induction =>
    rcases List.mem_cons.mp listed with rfl | later
    · exact wellFormed.1.imp_right fun last => last.2.2
    · exact induction wellFormed.2 later

theorem Lines.filter (wellFormed : Lines lines) (keep : Bytes → Bool) :
    Lines (lines.filter keep) := by
  induction lines with
  | nil => trivial
  | cons line rest induction =>
    rw [List.filter_cons]
    split
    · refine ⟨wellFormed.1.imp_right fun last => ?_, induction wellFormed.2⟩
      rw [last.1]
      exact ⟨rfl, last.2⟩
    · exact induction wellFormed.2

theorem Lines.map (wellFormed : Lines lines) {rewrite : Bytes → Bytes}
    (complete : ∀ line, Complete line → Complete (rewrite line))
    (last : ∀ line, line ≠ [] → 10 ∉ line → Complete (rewrite line) ∨ rewrite line = line) :
    Lines (lines.map rewrite) := by
  induction lines with
  | nil => trivial
  | cons line rest induction =>
    refine ⟨?_, induction wellFormed.2⟩
    rcases wellFormed.1 with whole | ⟨rfl, nonempty, plain⟩
    · exact .inl (complete line whole)
    · rcases last line nonempty plain with whole | same
      · exact .inl whole
      · exact .inr ⟨rfl, same.symm ▸ nonempty, same.symm ▸ plain⟩

def lacksTrailingNewline (content : Bytes) : Bool :=
  content ≠ [] && content.getLast? ≠ some 10

def terminated (line : Bytes) : Bytes :=
  if line.getLast? = some 10 then line else line ++ [10]

theorem terminated_of_complete (complete : Complete line) :
    terminated line = line := by
  obtain ⟨body, -, rfl⟩ := complete
  simp [terminated]

theorem complete_terminated (shape : Complete line ∨ 10 ∉ line) :
    Complete (terminated line) := by
  rcases shape with complete | plain
  · rwa [terminated_of_complete complete]
  · refine ⟨line, plain, ?_⟩
    rw [terminated, if_neg]
    exact fun last => plain (List.mem_of_mem_getLast? last)

theorem flatten_terminated (wellFormed : Lines lines) :
    (lines.map terminated).flatten =
      lines.flatten ++ if lacksTrailingNewline lines.flatten then [10] else [] := by
  induction lines with
  | nil => rfl
  | cons line rest induction =>
    rcases wellFormed.1 with complete | ⟨rfl, nonempty, plain⟩
    · have same := terminated_of_complete complete
      obtain ⟨body, plain, rfl⟩ := complete
      have ends : lacksTrailingNewline ((body ++ [10]) ++ rest.flatten) =
          lacksTrailingNewline rest.flatten := by
        cases rest.flatten with
        | nil => simp [lacksTrailingNewline]
        | cons byte more => simp [lacksTrailingNewline, List.getLast?_append]
      rw [List.map_cons, List.flatten_cons, List.flatten_cons, same, induction wellFormed.2, ends]
      simp only [List.append_assoc]
    · have unended : line.getLast? ≠ some 10 := fun last => plain (List.mem_of_mem_getLast? last)
      simp [terminated, lacksTrailingNewline, nonempty, unended]

theorem lines_of_complete
    (complete : ∀ line ∈ lines, Complete line) : Lines lines := by
  induction lines with
  | nil => trivial
  | cons line rest induction =>
    obtain ⟨first, later⟩ := List.forall_mem_cons.mp complete
    exact ⟨.inl first, induction later⟩

end Bytes

end Lium
