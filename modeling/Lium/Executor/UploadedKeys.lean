import Lium.Foundation.ByteLines
import Mathlib.Data.Rat.Floor

/-! # Uploaded SSH keys

The executor appends the keys that a validator uploads to `authorized_keys`, marks each with the
time of its upload, and drops marked lines that are too old. The file is bytes; every edit but the
append reads it as lines. Times are exact rationals, no larger than a float.
-/

namespace Lium.UploadedKeys

open Bytes

variable {pubKey : String}

/-! ## The service -/

def uploadedKeyMarker : Bytes := encode "lium-uploaded-at="

/-- The least integer that `float` does not take. -/
def floatBound : ℤ := 2 ^ 1024 - 2 ^ 970

/-- `int` of a marker's value, which reads back what `str` writes of a time. -/
structure Numerals where
  intOf : Bytes → Option ℤ
  intOf_encode : ∀ value : ℤ, |value| < floatBound → intOf (encode (toString value)) = some value

/-- `int(now)`. -/
def truncated (now : ℚ) : ℤ := if 0 ≤ now then ⌊now⌋ else ⌈now⌉

def splitMarker (line : Bytes) : Bytes × Option Bytes :=
  match rsplitSpace (strip line) with
  | some (key, token) =>
    if uploadedKeyMarker.isPrefixOf token then (key, some (token.drop uploadedKeyMarker.length))
    else (strip line, none)
  | none => (strip line, none)

/-- The networks that a build names, and whether keys are pinned to them. A network has no quote
and no newline. -/
structure SourcePin where
  validatorSshSources : String
  executorSshSourcePin : Bool
  plain : ∀ char ∈ validatorSshSources.toList, char ≠ Char.ofNat 34 ∧ char ≠ '\n'

variable {pin : SourcePin}

def SourcePin.active (pin : SourcePin) : Bool :=
  pin.validatorSshSources ≠ "" && pin.executorSshSourcePin

def sourceOption : Bytes := encode "from=\""

def validatorSourcePinOption (pin : SourcePin) : Bytes :=
  if pin.active then sourceOption ++ encode pin.validatorSshSources ++ [34, 32] else []

def afterClosing : Bytes → Option Bytes
  | first :: second :: rest =>
    if first = 34 ∧ second = 32 then some rest else afterClosing (second :: rest)
  | _ => none

def withoutSourcePin (key : Bytes) : Bytes :=
  if sourceOption.isPrefixOf key then (afterClosing (key.drop sourceOption.length)).getD key
  else key

def keyWithoutMarkerAndSourcePin (line : Bytes) : Bytes := withoutSourcePin (splitMarker line).1

/-- Keep the accepted lines as they are; a file that loses none is not written. -/
def rewriteAuthorizedKeys (keep : Bytes → Bool) (content : Bytes) : Bytes × ℕ :=
  let lines := readlines content
  let kept := lines.filter keep
  let dropped := lines.length - kept.length
  if dropped = 0 then (content, 0) else (kept.flatten, dropped)

/-- A marked line whose time cannot be read is dropped as well. -/
def keepUnexpired (numerals : Numerals) (ttl : ℤ) (now : ℚ) (line : Bytes) : Bool :=
  match (splitMarker line).2 with
  | none => true
  | some uploadedAt =>
    match numerals.intOf uploadedAt with
    | some value => |now - value| ≤ ttl
    | none => false

/-- `now - int(uploaded_at)` is an `OverflowError`, which the purge does not catch. -/
def overflows (numerals : Numerals) (line : Bytes) : Bool :=
  ((splitMarker line).2.bind numerals.intOf).any fun value => floatBound ≤ |value|

/-- `none` is the error of a marker too large for a float: the file stays as it is. -/
def purgeExpiredUploadedKeys (numerals : Numerals) (ttl : ℤ) (now : ℚ) (content : Bytes) :
    Option (Bytes × ℕ) :=
  if (readlines content).any (overflows numerals) then none
  else some (rewriteAuthorizedKeys (keepUnexpired numerals ttl now) content)

def keepOther (pubKey : String) (line : Bytes) : Bool :=
  keyWithoutMarkerAndSourcePin line ≠ encode (Text.strip pubKey)

def removePubkeyFromHost (pubKey : String) (content : Bytes) : Bytes × ℕ :=
  rewriteAuthorizedKeys (keepOther pubKey) content

def stamp (now : ℚ) : Bytes :=
  32 :: (uploadedKeyMarker ++ encode (toString (truncated now))) ++ [10]

def uploadedLine (pin : SourcePin) (pubKey : String) (now : ℚ) : Bytes :=
  validatorSourcePinOption pin ++ encode (Text.strip pubKey) ++ stamp now

def OneLine (pubKey : String) : Prop :=
  '\n' ∉ (Text.strip pubKey).toList ∧ '\r' ∉ (Text.strip pubKey).toList

instance (pubKey : String) : Decidable (OneLine pubKey) := inferInstanceAs (Decidable (_ ∧ _))

/-- `none` is the error for a key of several lines. -/
def addPubkeyToHost (pin : SourcePin) (pubKey : String) (now : ℚ) (content : Bytes) :
    Option Bytes :=
  if OneLine pubKey then
    some (content ++ (if lacksTrailingNewline content then [10] else []) ++
      uploadedLine pin pubKey now)
  else none

/-- Blank lines, comments and marked lines stay as they are. -/
def stampLine (now : ℚ) (line : Bytes) : Bytes :=
  if strip line = [] ∨ (strip line).head? = some 35 ∨ (splitMarker line).2.isSome then line
  else strip line ++ stamp now

structure Host where
  authorizedKeys : Bytes
  legacyStampDone : Bool

/-- Stamp once; the done file is written even when there was nothing to stamp. -/
def stampLegacyUploadedKeys (now : ℚ) (host : Host) : Host :=
  if host.legacyStampDone then host
  else ⟨((readlines host.authorizedKeys).map (stampLine now)).flatten, true⟩

inductive Call
  | add (pin : SourcePin) (pubKey : String)
  | remove (pubKey : String)
  | purge (ttl : ℤ)
  | stampLegacy

def Host.call (numerals : Numerals) (host : Host) (now : ℚ) : Call → Host
  | .add pin pubKey =>
    { host with
      authorizedKeys :=
        (addPubkeyToHost pin pubKey now host.authorizedKeys).getD host.authorizedKeys }
  | .remove pubKey =>
    { host with authorizedKeys := (removePubkeyFromHost pubKey host.authorizedKeys).1 }
  | .purge ttl =>
    { host with
      authorizedKeys := (purgeExpiredUploadedKeys numerals ttl now host.authorizedKeys).elim
        host.authorizedKeys Prod.fst }
  | .stampLegacy => stampLegacyUploadedKeys now host

/-! ## Where a line comes from -/

structure Upload where
  pin : SourcePin
  pubKey : String
  uploadedAt : ℚ

structure Entry where
  line : Bytes
  upload : Option Upload

def Entry.plain (entry : Entry) : Bool :=
  entry.upload.isNone && (splitMarker entry.line).2.isNone

structure Tracked where
  host : Host
  entries : List Entry

def Entry.terminate (entry : Entry) : Entry := { entry with line := terminated entry.line }

def Tracked.start (host : Host) : Tracked :=
  ⟨host, (readlines host.authorizedKeys).map fun line => ⟨line, none⟩⟩

def track (numerals : Numerals) (tracked : Tracked) (now : ℚ) : Call → List Entry
  | .add pin pubKey =>
    if OneLine pubKey then
      tracked.entries.map Entry.terminate ++
        [⟨uploadedLine pin pubKey now, some ⟨pin, pubKey, now⟩⟩]
    else tracked.entries
  | .remove pubKey => tracked.entries.filter fun entry => keepOther pubKey entry.line
  | .purge ttl =>
    if (purgeExpiredUploadedKeys numerals ttl now tracked.host.authorizedKeys).isSome then
      tracked.entries.filter fun entry => keepUnexpired numerals ttl now entry.line
    else tracked.entries
  | .stampLegacy =>
    if tracked.host.legacyStampDone then tracked.entries
    else tracked.entries.map fun entry => { entry with line := stampLine now entry.line }

def Tracked.call (numerals : Numerals) (tracked : Tracked) (now : ℚ) (call : Call) : Tracked :=
  ⟨tracked.host.call numerals now call, track numerals tracked now call⟩

def Tracked.calls (numerals : Numerals) (tracked : Tracked) (history : List (ℚ × Call)) :
    Tracked :=
  history.foldl (fun tracked timed => tracked.call numerals timed.1 timed.2) tracked

/-! ## An uploaded line -/

section Upload

variable {now : ℚ}

theorem not_mem_encode_of_plain {text : String} {byte : UInt8}
    (plain : ∀ char ∈ text.toList, Text.isSpace char = false) (member : byte ∈ encode text) :
    isSpace byte = false := by
  obtain ⟨char, listed, member⟩ := mem_encode.mp member
  rw [← Bool.not_eq_true]
  intro space
  have blank := isSpace_of_mem_encodeChar member space
  rw [plain char listed] at blank
  cases blank

theorem isSpace_of_isDigit {char : Char} (digit : char.isDigit = true) :
    Text.isSpace char = false := by
  rw [Char.isDigit_iff_toNat] at digit
  have low : 48 ≤ char.toNat := digit.1
  have high : char.toNat ≤ 57 := digit.2
  simp only [Text.isSpace, Bool.or_eq_false_iff, Bool.and_eq_false_iff, decide_eq_false_iff_not,
    beq_eq_false_iff_ne]
  omega

theorem no_space_toString (value : ℤ) :
    ∀ byte ∈ encode (toString value), isSpace byte = false := by
  intro byte member
  have digits (value : ℕ) : ∀ char ∈ (toString value).toList, Text.isSpace char = false :=
    fun _ listed => isSpace_of_isDigit (Text.isDigit_of_mem_toString listed)
  cases value with
  | ofNat value => exact not_mem_encode_of_plain (digits value) member
  | negSucc value =>
    apply not_mem_encode_of_plain _ member
    intro char listed
    have shown : toString (Int.negSucc value) = "-" ++ toString (value + 1) := rfl
    rw [shown, String.toList_append, List.mem_append] at listed
    rcases listed with sign | listed
    · rw [List.mem_singleton.mp sign]
      decide
    · exact digits _ char listed

theorem token_no_space (now : ℚ) :
    ∀ byte ∈ uploadedKeyMarker ++ encode (toString (truncated now)), isSpace byte = false := by
  have marker : ∀ byte ∈ uploadedKeyMarker, isSpace byte = false := by
    decide +kernel
  intro byte member
  exact (List.mem_append.mp member).elim (marker byte) (no_space_toString _ byte)

theorem bare_key (nonempty : Text.strip pubKey ≠ "") :
    Bare (validatorSourcePinOption pin ++ encode (Text.strip pubKey)) := by
  have key := bare_encode_strip nonempty
  rw [validatorSourcePinOption]
  split
  · have option : Bare sourceOption :=
      bare_of_no_space (by decide) (by decide +kernel)
    rw [List.append_assoc sourceOption]
    exact option.append key _
  · rwa [List.nil_append]

theorem splitMarker_append_stamp {key : Bytes} (bare : Bare key) (now : ℚ) :
    splitMarker (key ++ stamp now) = (key, some (encode (toString (truncated now)))) := by
  have whole := token_no_space now
  have token : Bare (uploadedKeyMarker ++ encode (toString (truncated now))) :=
    bare_of_no_space (by simp [uploadedKeyMarker, encode]) whole
  have line : Bare (key ++ 32 :: (uploadedKeyMarker ++ encode (toString (truncated now)))) := by
    simpa using bare.append token [32]
  rw [stamp, splitMarker, ← List.append_assoc, strip_append_of_isSpace _ (by decide),
    line.strip_eq, rsplitSpace_append bare whole]
  simp

theorem splitMarker_uploadedLine (pin : SourcePin) (now : ℚ) (nonempty : Text.strip pubKey ≠ "") :
    splitMarker (uploadedLine pin pubKey now) =
      (validatorSourcePinOption pin ++ encode (Text.strip pubKey),
        some (encode (toString (truncated now)))) :=
  splitMarker_append_stamp (bare_key nonempty) now

variable {bytes rest : Bytes}

theorem afterClosing_append (plain : 34 ∉ bytes) :
    afterClosing (bytes ++ 34 :: 32 :: rest) = some rest := by
  induction bytes with
  | nil => simp [afterClosing]
  | cons byte bytes induction =>
    rw [List.mem_cons, not_or] at plain
    cases bytes with
    | nil => simp [afterClosing, Ne.symm plain.1]
    | cons next bytes =>
      rw [List.cons_append, List.cons_append, afterClosing, if_neg]
      · exact induction plain.2
      · exact fun both => plain.1 both.1.symm

theorem withoutSourcePin_of_active (active : pin.active = true) (key : Bytes) :
    withoutSourcePin (validatorSourcePinOption pin ++ key) = key := by
  have plain : 34 ∉ encode pin.validatorSshSources := by
    intro member
    exact (pin.plain _ (mem_of_mem_encode (Char.ofNat 34) (by decide) member)).1 rfl
  rw [validatorSourcePinOption, if_pos active, withoutSourcePin, if_pos (by simp)]
  simp [afterClosing_append plain]

def OpensWithSource (pubKey : String) : Prop :=
  sourceOption.isPrefixOf (encode (Text.strip pubKey)) = true ∧
    (afterClosing ((encode (Text.strip pubKey)).drop sourceOption.length)).isSome = true

theorem length_of_afterClosing (found : afterClosing bytes = some rest) :
    rest.length < bytes.length := by
  fun_induction afterClosing bytes with
  | case1 first second tail closes =>
    cases found
    simp only [List.length_cons]
    omega
  | case2 first second tail goesOn induction =>
    have shorter := induction found
    simp at shorter ⊢
    omega
  | case3 => cases found

theorem withoutSourcePin_eq_iff :
    withoutSourcePin (encode (Text.strip pubKey)) = encode (Text.strip pubKey) ↔
      ¬ OpensWithSource pubKey := by
  rw [OpensWithSource, withoutSourcePin]
  split
  next opens =>
    cases found : afterClosing ((encode (Text.strip pubKey)).drop sourceOption.length) with
    | none => simp
    | some rest =>
      have shorter := length_of_afterClosing found
      rw [List.length_drop] at shorter
      simp only [Option.getD_some, opens, Option.isSome_some, and_self, not_true, iff_false]
      intro same
      rw [same] at shorter
      omega
  next => simp [*]

/-- Removing a key takes off the lines that its uploads wrote, unless the upload was not pinned
and the key brings an option of its own. -/
theorem keepOther_uploadedLine (nonempty : Text.strip pubKey ≠ "") :
    keepOther pubKey (uploadedLine pin pubKey now) = false ↔
      pin.active = true ∨ ¬ OpensWithSource pubKey := by
  rw [keepOther, decide_eq_false_iff_not, not_not, keyWithoutMarkerAndSourcePin,
    splitMarker_uploadedLine _ _ nonempty]
  cases active : pin.active with
  | true => simp [withoutSourcePin_of_active active]
  | false => simpa [validatorSourcePinOption, active] using withoutSourcePin_eq_iff

theorem sub_truncated (now : ℚ) : now - 1 < truncated now ∧ (truncated now : ℚ) < now + 1 := by
  rw [truncated]
  split
  · exact ⟨Int.sub_one_lt_floor now, (Int.floor_le now).trans_lt (by linarith)⟩
  · exact ⟨lt_of_lt_of_le (by linarith) (Int.le_ceil now), Int.ceil_lt_add_one now⟩

def FloatSized (now : ℚ) : Prop := |now| < floatBound

theorem FloatSized.truncated (sized : FloatSized now) : |truncated now| < floatBound := by
  have positive : 0 < floatBound := by decide +kernel
  rw [FloatSized, abs_lt] at sized
  rw [abs_lt, UploadedKeys.truncated]
  split
  next known =>
    have low : 0 ≤ ⌊now⌋ := Int.floor_nonneg.mpr known
    exact ⟨by omega, Int.floor_lt.mpr sized.2⟩
  next known =>
    have high : ⌈now⌉ ≤ 0 := Int.ceil_le.mpr (by simpa using (not_le.mp known).le)
    exact ⟨Int.lt_ceil.mpr (by simpa using sized.1), by omega⟩

theorem overflows_append_stamp {numerals : Numerals} {key : Bytes} (bare : Bare key)
    (sized : FloatSized now) : overflows numerals (key ++ stamp now) = false := by
  rw [overflows, splitMarker_append_stamp bare, Option.bind_some,
    numerals.intOf_encode _ sized.truncated]
  simpa using sized.truncated

theorem uploadedAt_of_keepUnexpired {numerals : Numerals} {ttl : ℤ} {purgedAt : ℚ}
    (nonempty : Text.strip pubKey ≠ "") (sized : FloatSized now)
    (kept : keepUnexpired numerals ttl purgedAt (uploadedLine pin pubKey now) = true) :
    purgedAt - ttl - 1 ≤ now := by
  rw [keepUnexpired, splitMarker_uploadedLine _ _ nonempty] at kept
  simp only [numerals.intOf_encode _ sized.truncated, decide_eq_true_eq] at kept
  have recent := (abs_le.mp kept).2
  have stamped := (sub_truncated now).2
  linarith

theorem complete_append_stamp {line : Bytes} (plain : 10 ∉ line) :
    Complete (line ++ stamp now) := by
  refine ⟨line ++ 32 :: (uploadedKeyMarker ++ encode (toString (truncated now))), ?_,
    by simp [stamp]⟩
  have token : 10 ∉ uploadedKeyMarker ++ encode (toString (truncated now)) :=
    fun member => absurd (token_no_space now 10 member) (by decide)
  rw [List.mem_append, List.mem_cons, not_or, not_or]
  exact ⟨plain, by decide, token⟩

theorem complete_uploadedLine (oneLine : OneLine pubKey) :
    Complete (uploadedLine pin pubKey now) := by
  have key : 10 ∉ encode (Text.strip pubKey) :=
    fun member => oneLine.1 (mem_of_mem_encode '\n' (by decide) member)
  have option : 10 ∉ validatorSourcePinOption pin := by
    rw [validatorSourcePinOption]
    split
    · have sources : 10 ∉ encode pin.validatorSshSources := fun member =>
        (pin.plain _ (mem_of_mem_encode '\n' (by decide) member)).2 rfl
      have literal : 10 ∉ sourceOption := by
        decide +kernel
      simp [sources, literal]
    · simp
  exact complete_append_stamp (by simp [option, key])

end Upload

/-! ## The lines of a run -/

section Run

variable {numerals : Numerals} {allowed : SourcePin → String → Prop} {fits : Prop}
  {tracked : Tracked} {now : ℚ}

def Call.Within (allowed : SourcePin → String → Prop) : Call → Prop
  | .add pin pubKey => Text.strip pubKey ≠ "" ∧ allowed pin pubKey
  | _ => True

def Host.readable (numerals : Numerals) (host : Host) : Bool :=
  !(readlines host.authorizedKeys).any (overflows numerals)

/-- If the markers at the start fit into a float, so do those of all later lines. -/
structure Tracked.Sound (numerals : Numerals) (allowed : SourcePin → String → Prop) (fits : Prop)
    (tracked : Tracked) : Prop where
  lines : Lines (tracked.entries.map Entry.line)
  content : tracked.host.authorizedKeys = (tracked.entries.map Entry.line).flatten
  written : ∀ entry ∈ tracked.entries, ∀ upload ∈ entry.upload,
    entry.line = uploadedLine upload.pin upload.pubKey upload.uploadedAt ∧
      Text.strip upload.pubKey ≠ "" ∧ OneLine upload.pubKey ∧
      allowed upload.pin upload.pubKey ∧ FloatSized upload.uploadedAt
  readable : fits → ∀ entry ∈ tracked.entries, overflows numerals entry.line = false

theorem Tracked.Sound.readlines_eq (sound : tracked.Sound numerals allowed fits) :
    readlines tracked.host.authorizedKeys = tracked.entries.map Entry.line := by
  rw [sound.content, readlines_flatten sound.lines]

theorem start_sound {host : Host} (readable : fits → host.readable numerals = true) :
    (Tracked.start host).Sound numerals allowed fits := by
  have lines : (Tracked.start host).entries.map Entry.line = readlines host.authorizedKeys := by
    rw [Tracked.start, List.map_map]
    exact List.map_id _
  refine ⟨?_, ?_, ?_, ?_⟩
  · rw [lines]
    exact lines_readlines _
  · rw [lines, flatten_readlines]
    rfl
  · intro entry listed upload uploaded
    obtain ⟨line, -, rfl⟩ := List.mem_map.mp listed
    cases uploaded
  · intro known entry listed
    obtain ⟨line, member, rfl⟩ := List.mem_map.mp listed
    have small := readable known
    simp only [Host.readable, Bool.not_eq_true', List.any_eq_false, Bool.not_eq_true] at small
    exact small line member

theorem rewriteAuthorizedKeys_eq (keep : Bytes → Bool) (content : Bytes) :
    (rewriteAuthorizedKeys keep content).1 = ((readlines content).filter keep).flatten := by
  simp only [rewriteAuthorizedKeys]
  split
  next none =>
    have whole : (readlines content).filter keep = readlines content := by
      apply List.filter_eq_self.mpr
      apply List.length_filter_eq_length_iff.mp
      have shorter := List.length_filter_le keep (readlines content)
      omega
    rw [whole, flatten_readlines]
  next => rfl

theorem Tracked.Sound.filter (sound : tracked.Sound numerals allowed fits) (keep : Bytes → Bool) :
    Tracked.Sound numerals allowed fits
      ⟨{ tracked.host with
          authorizedKeys := (rewriteAuthorizedKeys keep tracked.host.authorizedKeys).1 },
        tracked.entries.filter fun entry => keep entry.line⟩ := by
  have same : (tracked.entries.filter fun entry => keep entry.line).map Entry.line =
      (tracked.entries.map Entry.line).filter keep := by
    rw [List.filter_map]
    rfl
  refine ⟨?_, ?_, ?_, ?_⟩
  · rw [same]
    exact sound.lines.filter keep
  · rw [rewriteAuthorizedKeys_eq, sound.readlines_eq, same]
  · exact fun entry listed => sound.written entry (List.mem_of_mem_filter listed)
  · exact fun known entry listed => sound.readable known entry (List.mem_of_mem_filter listed)

/-- No line of the file overflows, so the purge goes through. -/
theorem Tracked.Sound.purge_eq (sound : tracked.Sound numerals allowed fits) (known : fits)
    (ttl : ℤ) :
    purgeExpiredUploadedKeys numerals ttl now tracked.host.authorizedKeys =
      some (rewriteAuthorizedKeys (keepUnexpired numerals ttl now)
        tracked.host.authorizedKeys) := by
  rw [purgeExpiredUploadedKeys, if_neg]
  rw [sound.readlines_eq, List.any_map, List.any_eq_true]
  rintro ⟨entry, listed, large⟩
  exact Bool.false_ne_true ((sound.readable known entry listed).symm.trans large)

theorem terminated_eq (line : Bytes) : terminated line = line ∨ terminated line = line ++ [10] := by
  rw [terminated]
  split
  · exact .inl rfl
  · exact .inr rfl

theorem splitMarker_terminated (line : Bytes) :
    splitMarker (terminated line) = splitMarker line := by
  rcases terminated_eq line with unchanged | added
  · rw [unchanged]
  · rw [added, splitMarker, strip_append_of_isSpace _ (by decide), splitMarker]

theorem Tracked.Sound.add (sound : tracked.Sound numerals allowed fits)
    (nonempty : Text.strip pubKey ≠ "") (allows : allowed pin pubKey) (sized : FloatSized now) :
    (tracked.call numerals now (.add pin pubKey)).Sound numerals allowed fits := by
  by_cases oneLine : OneLine pubKey
  · have lines : (tracked.entries.map Entry.terminate).map Entry.line =
        (tracked.entries.map Entry.line).map terminated := by
      rw [List.map_map, List.map_map]
      rfl
    simp only [Tracked.call, track, Host.call, addPubkeyToHost, if_pos oneLine, Option.getD_some]
    refine ⟨?_, ?_, ?_, ?_⟩
    · apply lines_of_complete
      rw [List.map_append, lines]
      intro line listed
      rcases List.mem_append.mp listed with earlier | last
      · obtain ⟨before, member, rfl⟩ := List.mem_map.mp earlier
        exact complete_terminated (sound.lines.of_mem member)
      · rw [List.mem_singleton.mp last]
        exact complete_uploadedLine oneLine
    · rw [List.map_append, lines, List.flatten_append, flatten_terminated sound.lines,
        ← sound.content]
      simp
    · intro entry listed upload uploaded
      rcases List.mem_append.mp listed with earlier | last
      · obtain ⟨before, member, rfl⟩ := List.mem_map.mp earlier
        obtain ⟨written, kept⟩ := sound.written before member upload uploaded
        refine ⟨?_, kept⟩
        rw [Entry.terminate, written, terminated_of_complete (complete_uploadedLine kept.2.1)]
      · rw [List.mem_singleton] at last
        subst last
        cases uploaded
        exact ⟨rfl, nonempty, oneLine, allows, sized⟩
    · intro known entry listed
      rcases List.mem_append.mp listed with earlier | last
      · obtain ⟨before, member, rfl⟩ := List.mem_map.mp earlier
        rw [Entry.terminate, overflows, splitMarker_terminated]
        exact sound.readable known before member
      · rw [List.mem_singleton.mp last]
        exact overflows_append_stamp (bare_key nonempty) sized
  · simp only [Tracked.call, track, Host.call, addPubkeyToHost, if_neg oneLine, Option.getD_none]
    exact sound

theorem stampLine_of_marked {line value : Bytes} (marked : (splitMarker line).2 = some value) :
    stampLine now line = line := by
  rw [stampLine, if_pos]
  simp [marked]

theorem complete_stampLine {line : Bytes} (shape : Complete line ∨ 10 ∉ line) :
    Complete (stampLine now line) ∨ stampLine now line = line := by
  rw [stampLine]
  split
  · exact .inr rfl
  · exact .inl (complete_append_stamp (not_mem_strip shape))

theorem Tracked.Sound.stampLegacy (sound : tracked.Sound numerals allowed fits)
    (sized : FloatSized now) :
    (tracked.call numerals now .stampLegacy).Sound numerals allowed fits := by
  simp only [Tracked.call, track, Host.call, stampLegacyUploadedKeys]
  split
  · exact sound
  · have lines : (tracked.entries.map fun entry =>
        { entry with line := stampLine now entry.line }).map Entry.line =
        (tracked.entries.map Entry.line).map (stampLine now) := by
      rw [List.map_map, List.map_map]
      rfl
    refine ⟨?_, ?_, ?_, ?_⟩
    · rw [lines]
      apply sound.lines.map
      · intro line complete
        rcases complete_stampLine (.inl complete) with stamped | same
        · exact stamped
        · rwa [same]
      · exact fun line _ plain => complete_stampLine (.inr plain)
    · rw [lines, sound.readlines_eq]
    · intro entry listed upload uploaded
      obtain ⟨before, member, rfl⟩ := List.mem_map.mp listed
      obtain ⟨written, kept⟩ := sound.written before member upload uploaded
      refine ⟨?_, kept⟩
      have marked := congrArg Prod.snd
        (splitMarker_uploadedLine upload.pin upload.uploadedAt kept.1)
      rw [← written] at marked
      exact (stampLine_of_marked marked).trans written
    · intro known entry listed
      obtain ⟨before, member, rfl⟩ := List.mem_map.mp listed
      simp only [stampLine]
      split
      · exact sound.readable known before member
      next other => exact overflows_append_stamp (bare_strip (not_or.mp other).1) sized

theorem Tracked.Sound.call (sound : tracked.Sound numerals allowed fits) {call : Call}
    (sized : FloatSized now) (within : call.Within allowed) :
    (tracked.call numerals now call).Sound numerals allowed fits := by
  cases call with
  | add pin pubKey => exact sound.add within.1 within.2 sized
  | remove pubKey => exact sound.filter _
  | purge ttl =>
    simp only [Tracked.call, Host.call, track, purgeExpiredUploadedKeys]
    split
    · exact sound
    · exact sound.filter _
  | stampLegacy => exact sound.stampLegacy sized

theorem Tracked.Sound.calls (sound : tracked.Sound numerals allowed fits)
    {history : List (ℚ × Call)}
    (within : ∀ timed ∈ history, FloatSized timed.1 ∧ timed.2.Within allowed) :
    (tracked.calls numerals history).Sound numerals allowed fits := by
  induction history generalizing tracked with
  | nil => exact sound
  | cons timed rest induction =>
    obtain ⟨first, later⟩ := List.forall_mem_cons.mp within
    exact induction (sound.call first.1 first.2) later

end Run

/-! ## What the calls guarantee -/

structure Guarantee (numerals : Numerals) (before : Tracked) (now : ℚ) (call : Call) : Prop where
  lines : readlines before.host.authorizedKeys = before.entries.map Entry.line
  expired : ∀ ttl, call = .purge ttl → ∀ entry ∈ (before.call numerals now call).entries,
    ∀ upload ∈ entry.upload, ¬ upload.uploadedAt < now - ttl - 1
  removed : ∀ pubKey, call = .remove pubKey → ∀ entry ∈ (before.call numerals now call).entries,
    ∀ upload ∈ entry.upload, upload.pubKey ≠ pubKey
  keptByAdd : ∀ pin pubKey, call = .add pin pubKey →
    (before.call numerals now call).entries.filter Entry.plain = before.entries.filter Entry.plain ∨
      (before.call numerals now call).entries.filter Entry.plain =
        (before.entries.filter Entry.plain).map Entry.terminate
  keptByPurge : ∀ ttl, call = .purge ttl →
    (before.call numerals now call).entries.filter Entry.plain = before.entries.filter Entry.plain
  keptByRemove : ∀ pubKey, call = .remove pubKey → ∀ entry ∈ before.entries.filter Entry.plain,
    entry ∉ (before.call numerals now call).entries →
      keyWithoutMarkerAndSourcePin entry.line = encode (Text.strip pubKey)

section Guarantees

variable {numerals : Numerals} {allowed : SourcePin → String → Prop} {fits : Prop}
  {tracked : Tracked} {now : ℚ}

theorem plain_terminate (entry : Entry) : entry.terminate.plain = entry.plain := by
  rw [Entry.plain, Entry.terminate, splitMarker_terminated, Entry.plain]

theorem plain_of_add :
    (tracked.call numerals now (.add pin pubKey)).entries.filter Entry.plain =
        tracked.entries.filter Entry.plain ∨
      (tracked.call numerals now (.add pin pubKey)).entries.filter Entry.plain =
        (tracked.entries.filter Entry.plain).map Entry.terminate := by
  simp only [Tracked.call, track]
  split
  · right
    have upload : Entry.plain ⟨uploadedLine pin pubKey now, some ⟨pin, pubKey, now⟩⟩ = false := rfl
    rw [List.filter_append, List.filter_singleton, upload, List.filter_map]
    have same : Entry.plain ∘ Entry.terminate = Entry.plain := funext plain_terminate
    simp [same]
  · exact .inl rfl

theorem plain_of_purge {ttl : ℤ} :
    (tracked.call numerals now (.purge ttl)).entries.filter Entry.plain =
      tracked.entries.filter Entry.plain := by
  simp only [Tracked.call, track]
  split
  swap
  · rfl
  rw [List.filter_filter]
  apply List.filter_congr
  intro entry _
  cases plain : entry.plain with
  | false => rfl
  | true =>
    have unmarked : (splitMarker entry.line).2 = none := by
      simpa [Entry.plain] using And.right (by simpa [Entry.plain] using plain)
    simp [keepUnexpired, unmarked]

theorem guarantee_of_removable (sound : tracked.Sound numerals allowed fits) (call : Call)
    (removable : ∀ pin pubKey, allowed pin pubKey → Text.strip pubKey ≠ "" → OneLine pubKey →
      fits ∧ (pin.active = true ∨ ¬ OpensWithSource pubKey)) :
    Guarantee numerals tracked now call where
  lines := sound.readlines_eq
  expired ttl purges entry listed upload uploaded := by
    subst purges
    have before : entry ∈ tracked.entries := by
      simp only [Tracked.call, track] at listed
      split at listed
      · exact List.mem_of_mem_filter listed
      · exact listed
    obtain ⟨written, nonempty, oneLine, allows, sized⟩ := sound.written entry before upload uploaded
    have known := (removable _ _ allows nonempty oneLine).1
    simp only [Tracked.call, track, sound.purge_eq known, Option.isSome_some, if_true] at listed
    have kept := (List.mem_filter.mp listed).2
    rw [written] at kept
    exact not_lt.mpr (uploadedAt_of_keepUnexpired nonempty sized kept)
  removed pubKey removes entry listed upload uploaded := by
    subst removes
    obtain ⟨listed, kept⟩ := List.mem_filter.mp listed
    obtain ⟨written, nonempty, oneLine, allows, -⟩ := sound.written entry listed upload uploaded
    rintro rfl
    rw [written, (keepOther_uploadedLine nonempty).mpr
      (removable _ _ allows nonempty oneLine).2] at kept
    cases kept
  keptByAdd pin pubKey adds := by
    subst adds
    exact plain_of_add
  keptByPurge ttl purges := by
    subst purges
    exact plain_of_purge
  keptByRemove pubKey removes entry listed dropped := by
    subst removes
    by_contra other
    apply dropped
    exact List.mem_filter.mpr ⟨List.mem_of_mem_filter listed, decide_eq_true other⟩

theorem entries_after_add (host : Host) (oneLine : OneLine pubKey) :
    ((Tracked.start host).calls numerals [(0, .add pin pubKey)]).entries =
      (Tracked.start host).entries.map Entry.terminate ++
        [⟨uploadedLine pin pubKey 0, some ⟨pin, pubKey, 0⟩⟩] :=
  if_pos oneLine

theorem upload_after_add (host : Host) (oneLine : OneLine pubKey) :
    ⟨uploadedLine pin pubKey 0, some ⟨pin, pubKey, 0⟩⟩ ∈
      ((Tracked.start host).calls numerals [(0, .add pin pubKey)]).entries := by
  rw [entries_after_add host oneLine]
  exact List.mem_concat_self

theorem not_guarantee_of_opensWithSource (host : Host) (nonempty : Text.strip pubKey ≠ "")
    (oneLine : OneLine pubKey) (unpinned : pin.active = false) (opens : OpensWithSource pubKey) :
    ¬ Guarantee numerals ((Tracked.start host).calls numerals [(0, .add pin pubKey)]) 1
      (.remove pubKey) := by
  intro guarantee
  have kept : keepOther pubKey (uploadedLine pin pubKey 0) = true := by
    rw [← Bool.not_eq_false, keepOther_uploadedLine nonempty]
    simp [unpinned, opens]
  exact guarantee.removed pubKey rfl ⟨uploadedLine pin pubKey 0, some ⟨pin, pubKey, 0⟩⟩
    (List.mem_filter.mpr ⟨upload_after_add host oneLine, kept⟩) ⟨pin, pubKey, 0⟩ rfl rfl

/-- The line that overflows is still there after an upload, so no purge goes through. -/
theorem not_guarantee_of_overflow {host : Host} (large : host.readable numerals = false)
    (oneLine : OneLine pubKey) :
    ¬ Guarantee numerals ((Tracked.start host).calls numerals [(0, .add pin pubKey)]) 100
      (.purge 0) := by
  intro guarantee
  rw [Host.readable, Bool.not_eq_false', List.any_eq_true] at large
  rcases large with ⟨line, member, large⟩
  have raises : purgeExpiredUploadedKeys numerals 0 100
      ((Tracked.start host).calls numerals [(0, .add pin pubKey)]).host.authorizedKeys = none := by
    rw [purgeExpiredUploadedKeys, if_pos]
    rw [guarantee.lines, entries_after_add host oneLine, List.map_append, List.any_append,
      List.any_eq_true.mpr, Bool.true_or]
    refine ⟨terminated line, ?_, by rwa [overflows, splitMarker_terminated]⟩
    rw [List.map_map, Tracked.start, List.map_map]
    exact List.mem_map.mpr ⟨line, member, rfl⟩
  refine guarantee.expired 0 rfl ⟨uploadedLine pin pubKey 0, some ⟨pin, pubKey, 0⟩⟩ ?_
    ⟨pin, pubKey, 0⟩ rfl (by norm_num)
  simp only [Tracked.call, track, raises, Option.isSome_none, Bool.false_eq_true, if_false]
  exact upload_after_add host oneLine

/-- On a host the uploads are bounded and removable, and the other lines survive, exactly when no
key can be uploaded at all, or the markers that the file starts with fit into a float and every
key that may be uploaded is pinned or does not bring a source option of its own. -/
theorem guarantee_iff (numerals : Numerals) (allowed : SourcePin → String → Prop) (host : Host) :
    (∀ history now call,
        (∀ timed ∈ history ++ [(now, call)], FloatSized timed.1 ∧ timed.2.Within allowed) →
        Guarantee numerals ((Tracked.start host).calls numerals history) now call) ↔
      ∀ pin pubKey, allowed pin pubKey → Text.strip pubKey ≠ "" → OneLine pubKey →
        host.readable numerals = true ∧ (pin.active = true ∨ ¬ OpensWithSource pubKey) := by
  have small (now : ℚ) (low : 0 ≤ now) (high : now ≤ 100) : FloatSized now := by
    rw [FloatSized, abs_of_nonneg low]
    have large : (100 : ℤ) < floatBound := by decide +kernel
    exact high.trans_lt (by exact_mod_cast large)
  constructor
  · intro holds pin pubKey allows nonempty oneLine
    have within (now : ℚ) (call : Call) (sized : FloatSized now) (other : call.Within allowed) :
        ∀ timed ∈ [((0 : ℚ), Call.add pin pubKey)] ++ [(now, call)],
          FloatSized timed.1 ∧ timed.2.Within allowed := by
      simp only [List.cons_append, List.nil_append, List.forall_mem_cons]
      exact ⟨⟨small 0 (by norm_num) (by norm_num), nonempty, allows⟩, ⟨sized, other⟩, by simp⟩
    constructor
    · by_contra large
      exact not_guarantee_of_overflow (Bool.eq_false_iff.mpr large) oneLine
        (holds _ _ _ (within 100 (.purge 0) (small 100 (by norm_num) (by norm_num)) trivial))
    · by_contra neither
      rw [not_or, Bool.not_eq_true, not_not] at neither
      exact not_guarantee_of_opensWithSource host nonempty oneLine neither.1 neither.2
        (holds _ _ _ (within 1 (.remove pubKey) (small 1 (by norm_num) (by norm_num)) trivial))
  · intro conditions history now call within
    rw [List.forall_mem_append] at within
    exact guarantee_of_removable ((start_sound id).calls within.1) call conditions

end Guarantees

namespace Sample

def numerals : Numerals where
  intOf bytes :=
    match bytes with
    | 45 :: digits => (Text.numeral (asciiText digits)).map (- ·)
    | digits => Text.numeral (asciiText digits)
  intOf_encode value _ := by
    have ascii (value : ℕ) : ∀ char ∈ (toString value).toList, char.toNat < 128 := by
      intro char listed
      have digit := Text.isDigit_of_mem_toString listed
      rw [Char.isDigit_iff_toNat] at digit
      exact lt_of_le_of_lt digit.2 (by decide)
    have plain (value : ℕ) :
        Text.numeral (asciiText (encode (toString value))) = some (value : ℤ) := by
      rw [asciiText_encode (ascii value), Text.numeral_toString]
    cases value with
    | ofNat value =>
      have shown : encode (toString (Int.ofNat value)) = encode (toString value) := rfl
      rw [shown]
      split
      next digits signed =>
        have sign : '-' ∈ (toString value).toList :=
          mem_of_mem_encode '-' (by decide) (signed ▸ List.mem_cons_self)
        exact absurd sign (Text.not_mem_toString (by decide) value)
      next => exact plain value
    | negSucc value =>
      have shown : encode (toString (Int.negSucc value)) = 45 :: encode (toString (value + 1)) :=
        encode_append "-" (toString (value + 1))
      rw [shown]
      simp only [plain, Option.map_some]
      rfl

def unpinned : SourcePin := ⟨"", false, by simp⟩

def restrictedKey : String := "from=\"10.0.0.1\" ssh-ed25519 AAAA"

end Sample

theorem restricted_key_survives_removal :
    ¬ Guarantee Sample.numerals
      ((Tracked.start ⟨[], false⟩).calls Sample.numerals
        [(0, .add Sample.unpinned Sample.restrictedKey)]) 1 (.remove Sample.restrictedKey) :=
  not_guarantee_of_opensWithSource _ (by decide +kernel) (by decide +kernel) rfl
    ⟨by decide +kernel, by decide +kernel⟩

end Lium.UploadedKeys
