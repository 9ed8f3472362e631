import Mathlib.Data.List.Basic
/-!
# Fields of a configuration text

The firmware reads its configuration without building a tree: `field_value` walks over the members
of one object and hands out the text of the first value under a key
(`components/keyboard/src/config_payload.cpp:26-405`).

| here | there |
| --- | --- |
| `trim`, `skipWs` | `trim`, `skip_ws` (config_payload.cpp:26, 36) |
| `readUtf16CodeUnit`, `appendUtf8CodePoint`, `appendLiteralUtf8` | config_payload.cpp:55, 76, 104 |
| `parseString` (`parseEscape`, `parsePiece`, `parseChars`) | `parse_string` (config_payload.cpp:150) |
| `skipComposite`, `readValueRange` | `skip_composite`, `read_value_range` (config_payload.cpp:236, 265) |
| `fieldValue`, `firstArrayValue` | `field_value`, `first_array_value` (config_payload.cpp:298, 337) |
| `stringValue`, `boolValue` | `string_value`, `bool_value` (config_payload.cpp:356, 369) |
| `intLoop`, `intValue` | `int_value` (config_payload.cpp:380) |

A text is the list of its bytes, and a cursor the list of the bytes that are still ahead of it;
output parameters are never null. A result that leaves the range of `int` is undefined there; here
its low 32 bits remain, and `DigitLoop.overflowed` tells.
-/

namespace CodexKeyboard.Keyboard

/-- A literal of the source. -/
def ascii (text : String) : List UInt8 := text.toList.map fun c => UInt8.ofNat c.toNat

/-- `std::isspace` in the C locale. -/
def isSpace (byte : UInt8) : Bool := byte == 0x20 || (0x09 ≤ byte && byte ≤ 0x0D)

def trim (value : List UInt8) : List UInt8 := ((value.dropWhile isSpace).reverse.dropWhile isSpace).reverse

def skipWs (json : List UInt8) : List UInt8 := json.dropWhile isSpace

/-- The digit's value; `none` is -1. -/
def hexDigitValue (value : UInt8) : Option UInt8 :=
  if 0x30 ≤ value ∧ value ≤ 0x39 then some (value - 0x30)
  else if 0x61 ≤ value ∧ value ≤ 0x66 then some (10 + value - 0x61)
  else if 0x41 ≤ value ∧ value ≤ 0x46 then some (10 + value - 0x41)
  else none

/-- The digits of one code unit, high digit first. -/
def hexDigits : List UInt8 → UInt16 → Option UInt16
  | [], value => some value
  | digit :: digits, value =>
    match hexDigitValue digit with
    | none => none
    | some digit => hexDigits digits (value <<< 4 ||| digit.toUInt16)

def readUtf16CodeUnit (json : List UInt8) : Option (UInt16 × List UInt8) :=
  if json.length < 4 then none else (hexDigits (json.take 4) 0).map fun unit => (unit, json.drop 4)

/-- `static_cast<char>(mark | value)`. -/
def markedByte (mark value : UInt32) : UInt8 := (mark ||| value).toUInt8

def appendUtf8CodePoint (codePoint : UInt32) : Option (List UInt8) :=
  if codePoint > 0x10FFFF ∨ (0xD800 ≤ codePoint ∧ codePoint ≤ 0xDFFF) then none
  else if codePoint ≤ 0x7F then some [codePoint.toUInt8]
  else if codePoint ≤ 0x7FF then
    some [markedByte 0xC0 (codePoint >>> 6), markedByte 0x80 (codePoint &&& 0x3F)]
  else if codePoint ≤ 0xFFFF then
    some [markedByte 0xE0 (codePoint >>> 12), markedByte 0x80 (codePoint >>> 6 &&& 0x3F),
      markedByte 0x80 (codePoint &&& 0x3F)]
  else
    some [markedByte 0xF0 (codePoint >>> 18), markedByte 0x80 (codePoint >>> 12 &&& 0x3F),
      markedByte 0x80 (codePoint >>> 6 &&& 0x3F), markedByte 0x80 (codePoint &&& 0x3F)]

/-- The length of a sequence by its first byte; 0 for a byte that starts none. -/
def sequenceLen (lead : UInt8) : Nat :=
  if 0xC2 ≤ lead ∧ lead ≤ 0xDF then 2
  else if 0xE0 ≤ lead ∧ lead ≤ 0xEF then 3
  else if 0xF0 ≤ lead ∧ lead ≤ 0xF4 then 4
  else 0

/-- Lines 121-143: the bytes start with a well-formed sequence of more than one byte. -/
def startsSequence (bytes : List UInt8) : Bool :=
  let lead := bytes.headD 0
  let second := (bytes.drop 1).headD 0
  sequenceLen lead != 0 && sequenceLen lead ≤ bytes.length
    && ((bytes.take (sequenceLen lead)).drop 1).all (fun continuation => continuation &&& 0xC0 == 0x80)
    && !((lead == 0xE0 && second < 0xA0) || (lead == 0xED && second > 0x9F) ||
      (lead == 0xF0 && second < 0x90)
      || (lead == 0xF4 && second > 0x8F))

/-- The bytes of the character in front, and the cursor behind it. -/
def appendLiteralUtf8 : List UInt8 → Option (List UInt8 × List UInt8)
  | [] => none
  | lead :: rest =>
    if lead ≤ 0x7F then
      if lead < 0x20 then none else some ([lead], rest)
    else if startsSequence (lead :: rest) then
      some ((lead :: rest).take (sequenceLen lead), (lead :: rest).drop (sequenceLen lead))
    else none

/-- Lines 204-233: the code point behind `\u`. -/
def parseUnicodeEscape (json : List UInt8) : Option (List UInt8 × List UInt8) :=
  match readUtf16CodeUnit json with
  | none => none
  | some (first, rest) =>
    if 0xD800 ≤ first ∧ first ≤ 0xDBFF then
      if rest.take 2 ≠ [0x5C, 0x75] then none
      else
        match readUtf16CodeUnit (rest.drop 2) with
        | none => none
        | some (second, rest) =>
          if second < 0xDC00 ∨ second > 0xDFFF then none
          else
            (appendUtf8CodePoint
              ((0x10000 : UInt32) + (first.toUInt32 - 0xD800) <<< 10 + (second.toUInt32 - 0xDC00))).map
              fun bytes => (bytes, rest)
    else if 0xDC00 ≤ first ∧ first ≤ 0xDFFF then none
    else (appendUtf8CodePoint first.toUInt32).map fun bytes => (bytes, rest)

/-- Lines 174-236: behind a backslash. -/
def parseEscape : List UInt8 → Option (List UInt8 × List UInt8)
  | [] => none
  | escaped :: rest =>
    if escaped = 0x22 ∨ escaped = 0x5C ∨ escaped = 0x2F then some ([escaped], rest)
    else if escaped = 0x62 then some ([0x08], rest)
    else if escaped = 0x66 then some ([0x0C], rest)
    else if escaped = 0x6E then some ([0x0A], rest)
    else if escaped = 0x72 then some ([0x0D], rest)
    else if escaped = 0x74 then some ([0x09], rest)
    else if escaped = 0x75 then parseUnicodeEscape rest
    else none

/-- One turn of the loop of `parse_string`. -/
def parsePiece : List UInt8 → Option (List UInt8 × List UInt8)
  | [] => none
  | ch :: rest => if ch = 0x5C then parseEscape rest else appendLiteralUtf8 (ch :: rest)

/-! ## The cursor advances -/

theorem readUtf16CodeUnit_length {json rest : List UInt8} {unit : UInt16}
    (h : readUtf16CodeUnit json = some (unit, rest)) :
    rest.length + 4 = json.length := by
  rw [readUtf16CodeUnit] at h
  by_cases hshort : json.length < 4
  · rw [if_pos hshort] at h
    cases h
  · rw [if_neg hshort] at h
    obtain ⟨unit', -, hunit⟩ := Option.map_eq_some_iff.1 h
    cases hunit
    rw [List.length_drop]
    omega

theorem parseUnicodeEscape_length {json bytes rest : List UInt8}
    (h : parseUnicodeEscape json = some (bytes, rest)) :
    rest.length < json.length := by
  rw [parseUnicodeEscape] at h
  cases hfirst : readUtf16CodeUnit json with
  | none => simp [hfirst] at h
  | some read =>
    obtain ⟨first, after⟩ := read
    have hafter := readUtf16CodeUnit_length hfirst
    simp only [hfirst] at h
    split at h
    · split at h
      · cases h
      · cases hsecond : readUtf16CodeUnit (after.drop 2) with
        | none => simp [hsecond] at h
        | some read =>
          obtain ⟨second, last⟩ := read
          have hlast := readUtf16CodeUnit_length hsecond
          rw [List.length_drop] at hlast
          simp only [hsecond] at h
          split at h
          · cases h
          · obtain ⟨code, -, hcode⟩ := Option.map_eq_some_iff.1 h
            cases hcode
            omega
    · split at h
      · cases h
      · obtain ⟨code, -, hcode⟩ := Option.map_eq_some_iff.1 h
        cases hcode
        omega

theorem parseEscape_length {json bytes rest : List UInt8} (h : parseEscape json = some (bytes, rest)) :
    rest.length < json.length := by
  cases json with
  | nil => cases h
  | cons escaped after =>
    rw [List.length_cons]
    rw [parseEscape] at h
    by_cases hunicode : escaped = 0x75
    · subst hunicode
      have hrest := parseUnicodeEscape_length (show parseUnicodeEscape after = some (bytes, rest) from h)
      omega
    · have hsame : rest = after := by
        simp only [if_neg hunicode] at h
        split at h <;> first | cases h; rfl | skip
        split at h <;> first | cases h; rfl | skip
        split at h <;> first | cases h; rfl | skip
        split at h <;> first | cases h; rfl | skip
        split at h <;> first | cases h; rfl | skip
        split at h <;> first | cases h; rfl | skip
        cases h
      rw [hsame]
      omega

theorem appendLiteralUtf8_length {json bytes rest : List UInt8}
    (h : appendLiteralUtf8 json = some (bytes, rest)) :
    rest.length < json.length := by
  cases json with
  | nil => cases h
  | cons lead after =>
    rw [appendLiteralUtf8] at h
    split at h
    · split at h
      · cases h
      · cases h
        exact Nat.lt_succ_self _
    · split at h
      · rename_i hsequence
        cases h
        have hpositive : sequenceLen lead ≠ 0 := by
          intro hzero
          rw [startsSequence, List.headD_cons, hzero] at hsequence
          simp at hsequence
        rw [List.length_drop, List.length_cons]
        omega
      · cases h

theorem parsePiece_length {json bytes rest : List UInt8} (h : parsePiece json = some (bytes, rest)) :
    rest.length < json.length := by
  cases json with
  | nil => cases h
  | cons ch after =>
    rw [parsePiece] at h
    split at h
    · have hrest := parseEscape_length h
      rw [List.length_cons]
      omega
    · exact appendLiteralUtf8_length h

/-! ## Strings, values, members -/

/-- The loop of `parse_string`: what is decoded so far, and the cursor. -/
def parseChars (parsed json : List UInt8) : Option (List UInt8 × List UInt8) :=
  if json.head? = some 0x22 then some (parsed, json.drop 1)
  else
    match _h : parsePiece json with
    | none => none
    | some (bytes, rest) => parseChars (parsed ++ bytes) rest
termination_by json.length
decreasing_by exact parsePiece_length _h

def parseString (json : List UInt8) : Option (List UInt8 × List UInt8) :=
  if (skipWs json).head? = some 0x22 then parseChars [] ((skipWs json).drop 1) else none

theorem parseChars_length {parsed json bytes rest : List UInt8}
    (h : parseChars parsed json = some (bytes, rest)) :
    rest.length < json.length := by
  induction parsed, json using parseChars.induct with
  | case1 parsed json hquote =>
    rw [parseChars, if_pos hquote] at h
    cases h
    cases json with
    | nil => cases hquote
    | cons ch after => exact Nat.lt_succ_self _
  | case2 parsed json hquote hpiece =>
    rw [parseChars, if_neg hquote] at h
    split at h
    · cases h
    · rename_i heq
      rw [hpiece] at heq
      cases heq
  | case3 parsed json hquote bytes' rest' hpiece ih =>
    rw [parseChars, if_neg hquote] at h
    split at h
    · cases h
    · rename_i heq
      rw [hpiece] at heq
      cases heq
      exact Nat.lt_trans (ih h) (parsePiece_length hpiece)

theorem skipWs_length (json : List UInt8) : (skipWs json).length ≤ json.length :=
  (List.dropWhile_sublist _).length_le

theorem parseString_length {json bytes rest : List UInt8} (h : parseString json = some (bytes, rest)) :
    rest.length < json.length := by
  rw [parseString] at h
  split at h
  · have hrest := parseChars_length h
    have hskip := skipWs_length json
    rw [List.length_drop] at hrest
    omega
  · cases h

/-- The loop of `skip_composite`. -/
def skipNested (opening closing : UInt8) (depth : Int) (json : List UInt8) : Option (List UInt8) :=
  if json = [] then none
  else if json.head? = some 0x22 then
    match _h : parseString json with
    | none => none
    | some (_, rest) => skipNested opening closing depth rest
  else if json.head? = some opening then skipNested opening closing (depth + 1) (json.drop 1)
  else if json.head? = some closing then
    if depth - 1 = 0 then some (json.drop 1) else skipNested opening closing (depth - 1) (json.drop 1)
  else skipNested opening closing depth (json.drop 1)
termination_by json.length
decreasing_by
  · exact parseString_length _h
  all_goals
    rw [List.length_drop]
    have hpositive := List.length_pos_of_ne_nil (by assumption)
    omega

def skipComposite (opening closing : UInt8) (json : List UInt8) : Option (List UInt8) :=
  if json.head? = some opening then skipNested opening closing 0 json else none

/-- What lies between two cursors. -/
def between (json rest : List UInt8) : List UInt8 := json.take (json.length - rest.length)

/-- The text of the value in front, and the cursor behind it. -/
def readValueRange (json : List UInt8) : Option (List UInt8 × List UInt8) :=
  let json := skipWs json
  if json = [] then none
  else if json.head? = some 0x22 then (parseString json).map fun read => (between json read.2, read.2)
  else if json.head? = some 0x7B then (skipComposite 0x7B 0x7D json).map fun rest =>
    (between json rest, rest)
  else if json.head? = some 0x5B then (skipComposite 0x5B 0x5D json).map fun rest =>
    (between json rest, rest)
  else
    let rest := json.dropWhile fun ch => ch != 0x2C && ch != 0x7D && ch != 0x5D
    some (between json rest, rest)

theorem skipNested_length {opening closing : UInt8} {depth : Int} {json rest : List UInt8}
    (h : skipNested opening closing depth json = some rest) : rest.length < json.length := by
  induction depth, json using skipNested.induct opening closing with
  | case1 depth => simp [skipNested] at h
  | case2 depth json hne hquote hstring =>
    rw [skipNested, if_neg hne, if_pos hquote] at h
    split at h
    · cases h
    · rename_i heq
      rw [hstring] at heq
      cases heq
  | case3 depth json hne hquote bytes after hstring ih =>
    rw [skipNested, if_neg hne, if_pos hquote] at h
    split at h
    · cases h
    · rename_i heq
      rw [hstring] at heq
      cases heq
      exact Nat.lt_trans (ih h) (parseString_length hstring)
  | case4 depth json hne hquote hopen ih =>
    rw [skipNested, if_neg hne, if_neg hquote, if_pos hopen] at h
    have hrest := ih h
    rw [List.length_drop] at hrest
    omega
  | case5 depth json hne hquote hopen hclose hlast =>
    rw [skipNested, if_neg hne, if_neg hquote, if_neg hopen, if_pos hclose, if_pos hlast] at h
    cases h
    have hpositive := List.length_pos_of_ne_nil hne
    rw [List.length_drop]
    omega
  | case6 depth json hne hquote hopen hclose hlast ih =>
    rw [skipNested, if_neg hne, if_neg hquote, if_neg hopen, if_pos hclose, if_neg hlast] at h
    have hrest := ih h
    rw [List.length_drop] at hrest
    omega
  | case7 depth json hne hquote hopen hclose ih =>
    rw [skipNested, if_neg hne, if_neg hquote, if_neg hopen, if_neg hclose] at h
    have hrest := ih h
    rw [List.length_drop] at hrest
    omega

theorem skipComposite_length {opening closing : UInt8} {json rest : List UInt8}
    (h : skipComposite opening closing json = some rest) : rest.length < json.length := by
  rw [skipComposite] at h
  split at h
  · exact skipNested_length h
  · cases h

theorem readValueRange_length {json text rest : List UInt8} (h : readValueRange json = some (text, rest)) :
    rest.length ≤ json.length := by
  have hskip := skipWs_length json
  rw [readValueRange] at h
  split at h
  · cases h
  · split at h
    · obtain ⟨read, hread, heq⟩ := Option.map_eq_some_iff.1 h
      cases heq
      exact Nat.le_trans (Nat.le_of_lt (parseString_length hread)) hskip
    · split at h
      · obtain ⟨after, hafter, heq⟩ := Option.map_eq_some_iff.1 h
        cases heq
        exact Nat.le_trans (Nat.le_of_lt (skipComposite_length hafter)) hskip
      · split at h
        · obtain ⟨after, hafter, heq⟩ := Option.map_eq_some_iff.1 h
          cases heq
          exact Nat.le_trans (Nat.le_of_lt (skipComposite_length hafter)) hskip
        · cases h
          exact Nat.le_trans (List.dropWhile_sublist _).length_le hskip

/-- Lines 320-323. -/
def skipComma (json : List UInt8) : List UInt8 :=
  if (skipWs json).head? = some 0x2C then (skipWs json).drop 1 else skipWs json

theorem skipComma_length (json : List UInt8) : (skipComma json).length ≤ json.length := by
  have hskip := skipWs_length json
  rw [skipComma]
  split
  · rw [List.length_drop]
    omega
  · exact hskip

/-- The loop of `field_value`, from the cursor behind the opening brace. -/
def fieldLoop (field json : List UInt8) : Option (List UInt8) :=
  if json.length ≤ 1 then none
  else if (skipWs json).head? = some 0x7D then none
  else
    match _hkey : parseString (skipWs json) with
    | none => none
    | some (key, afterKey) =>
      if (skipWs afterKey).head? ≠ some 0x3A then none
      else
        match _hvalue : readValueRange ((skipWs afterKey).drop 1) with
        | none => none
        | some (text, afterValue) =>
          if key = field then some text else fieldLoop field (skipComma afterValue)
termination_by json.length
decreasing_by
  have hskip := skipWs_length json
  have hkey := parseString_length _hkey
  have hcolon := skipWs_length afterKey
  have hvalue := readValueRange_length _hvalue
  have hcomma := skipComma_length afterValue
  rw [List.length_drop] at hvalue
  omega

def fieldValue (object field : List UInt8) : Option (List UInt8) :=
  let object := trim object
  if object.length < 2 ∨ object.head? ≠ some 0x7B ∨ object.getLast? ≠ some 0x7D then none
  else fieldLoop field (object.drop 1)

def firstArrayValue (array : List UInt8) : Option (List UInt8) :=
  let array := trim array
  if array.length < 2 ∨ array.head? ≠ some 0x5B ∨ array.getLast? ≠ some 0x5D then none
  else if (skipWs (array.drop 1)).head? = some 0x5D then none
  else (readValueRange (skipWs (array.drop 1))).map (·.1)

def stringValue (value : List UInt8) : Option (List UInt8) :=
  match parseString value with
  | none => none
  | some (parsed, rest) => if skipWs rest = [] then some parsed else none

def boolValue (value : List UInt8) : Option Bool :=
  if trim value = ascii "true" then some true
  else if trim value = ascii "false" then some false
  else none

/-! ## Numbers -/

/-- The range of `int`. -/
def FitsInt (n : Int) : Prop := -0x80000000 ≤ n ∧ n ≤ 0x7FFFFFFF

instance (n : Int) : Decidable (FitsInt n) := inferInstanceAs (Decidable (_ ∧ _))

/-- The 32 bits that are left of a result. -/
def wrapInt (n : Int) : Int := n.bmod 0x100000000

/-- What a loop over digits leaves in its `int` (`none`: it met another character), and whether a
result was out of range. -/
structure DigitLoop where
  value : Option Int
  overflowed : Bool
deriving DecidableEq, Repr

/-- `parsed = parsed * 10 + (ch - '0')` for every digit. -/
def digitLoop (parsed : Int) : List UInt8 → DigitLoop
  | [] => ⟨some parsed, false⟩
  | ch :: rest =>
    if ch < 0x30 ∨ ch > 0x39 then ⟨none, false⟩
    else
      let product := parsed * 10
      let sum := wrapInt product + (ch - 0x30).toNat
      let loop := digitLoop (wrapInt sum) rest
      ⟨loop.value, !decide (FitsInt product) || !decide (FitsInt sum) || loop.overflowed⟩

/-- Line 404: `parsed * sign`. -/
def applySign (sign : Int) (loop : DigitLoop) : DigitLoop :=
  match loop.value with
  | none => loop
  | some parsed => ⟨some (wrapInt (parsed * sign)), loop.overflowed || !decide (FitsInt (parsed * sign))⟩

/-- `int_value` with what happens on its way. -/
def intLoop (value : List UInt8) : DigitLoop :=
  let value := trim value
  if value = [] then ⟨none, false⟩
  else
    let sign : Int := if value.head? = some 0x2D then -1 else 1
    let digits := if value.head? = some 0x2D then value.drop 1 else value
    if digits = [] then ⟨none, false⟩ else applySign sign (digitLoop 0 digits)

def intValue (value : List UInt8) : Option Int := (intLoop value).value

end CodexKeyboard.Keyboard
