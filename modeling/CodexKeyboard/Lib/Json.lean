import Mathlib.Data.List.Basic
/-!
# JSON texts

The grammar of RFC 8259 over bytes: `Derives` relates a text to the value it stands for. A text is a
list of bytes in UTF-8, whose characters are those of `Char` (`utf8`), so that an unpaired surrogate
stands for nothing.

* `StringText` — a string and what it decodes to.
* `Derives` — values, and the items and members between the brackets of a composite.
* `ObjectText` — an object between blanks, with the key, text and value of each member.
-/

namespace Lib

/-! ## UTF-8 -/

/-- The bytes of a text. -/
def utf8 (chars : List Char) : List UInt8 := chars.flatMap String.utf8EncodeChar

@[simp] theorem utf8_nil : utf8 [] = [] := rfl

@[simp] theorem utf8_cons (c : Char) (chars : List Char) :
    utf8 (c :: chars) = String.utf8EncodeChar c ++ utf8 chars := rfl

theorem utf8_append (left right : List Char) : utf8 (left ++ right) = utf8 left ++ utf8 right :=
  List.flatMap_append

/-- A byte behind the first one of a character. -/
def IsTail (byte : UInt8) : Prop := 0x80 ≤ byte.toNat ∧ byte.toNat ≤ 0xBF

/-- The sequences of more than one byte of RFC 3629, section 4. -/
inductive WideSequence : List UInt8 → Prop where
  | two {lead second : UInt8} (hlow : 0xC2 ≤ lead.toNat) (hhigh : lead.toNat ≤ 0xDF)
    (hsecond : IsTail second) :
    WideSequence [lead, second]
  | three {lead second third : UInt8} (hlow : 0xE0 ≤ lead.toNat) (hhigh : lead.toNat ≤ 0xEF)
    (hsecond : IsTail second)
    (hthird : IsTail third) (hlong : lead.toNat = 0xE0 → 0xA0 ≤ second.toNat)
    (hsurrogate : lead.toNat = 0xED → second.toNat ≤ 0x9F) : WideSequence [lead, second, third]
  | four {lead second third fourth : UInt8} (hlow : 0xF0 ≤ lead.toNat) (hhigh : lead.toNat ≤ 0xF4)
    (hsecond : IsTail second)
    (hthird : IsTail third) (hfourth : IsTail fourth) (hlong : lead.toNat = 0xF0 → 0x90 ≤ second.toNat)
    (hlast : lead.toNat = 0xF4 → second.toNat ≤ 0x8F) : WideSequence [lead, second, third, fourth]

theorem toNat_val_lt (c : Char) : c.toNat < 0xD800 ∨ 0xDFFF < c.toNat ∧ c.toNat < 0x110000 := c.valid

/-- A byte with its high bits as a prefix of the low ones. -/
theorem toNat_ofNat_of_lt {n : Nat} (h : n < 256) : (UInt8.ofNat n).toNat = n := by
  rw [UInt8.toNat_ofNat']
  exact Nat.mod_eq_of_lt h

theorem utf8EncodeChar_of_le {c : Char} (h : c.toNat ≤ 0x7F) :
    String.utf8EncodeChar c = [UInt8.ofNat c.toNat] := if_pos h

/-- Every other character takes a sequence of more than one byte. -/
theorem utf8EncodeChar_wide {c : Char} (h : 0x7F < c.toNat) : WideSequence (String.utf8EncodeChar c) := by
  have hvalid := toNat_val_lt c
  have htail : ∀ n, IsTail (UInt8.ofNat (n % 64 + 128)) := by
    intro n
    rw [IsTail, toNat_ofNat_of_lt (by omega)]
    omega
  rw [String.utf8EncodeChar]
  show WideSequence (ite (c.toNat ≤ 0x7F) _ _)
  generalize hcode : c.toNat = code at hvalid h
  have hval : c.val.toNat = code := hcode
  rw [hval, if_neg (Nat.not_le_of_lt h)]
  by_cases htwo : code ≤ 0x7FF
  · rw [if_pos htwo]
    refine .two ?_ ?_ (htail _)
    · rw [toNat_ofNat_of_lt (by omega)]
      omega
    · rw [toNat_ofNat_of_lt (by omega)]
      omega
  by_cases hthree : code ≤ 0xFFFF
  · rw [if_neg htwo, if_pos hthree]
    refine .three ?_ ?_ (htail _) (htail _) ?_ ?_
    · rw [toNat_ofNat_of_lt (by omega)]
      omega
    · rw [toNat_ofNat_of_lt (by omega)]
      omega
    · rw [toNat_ofNat_of_lt (by omega), toNat_ofNat_of_lt (by omega)]
      omega
    · rw [toNat_ofNat_of_lt (by omega), toNat_ofNat_of_lt (by omega)]
      omega
  · rw [if_neg htwo, if_neg hthree]
    refine .four ?_ ?_ (htail _) (htail _) (htail _) ?_ ?_
    · rw [toNat_ofNat_of_lt (by omega)]
      omega
    · rw [toNat_ofNat_of_lt (by omega)]
      omega
    · rw [toNat_ofNat_of_lt (by omega), toNat_ofNat_of_lt (by omega)]
      omega
    · rw [toNat_ofNat_of_lt (by omega), toNat_ofNat_of_lt (by omega)]
      omega

/-! ## Strings -/

/-- A value: a number stands for its own text, an object for its members in their order. -/
inductive Json where
  | null
  | bool (value : Bool)
  | number (text : List UInt8)
  | string (chars : List Char)
  | array (items : List Json)
  | object (members : List (List Char × Json))

/-- What four hexadecimal digits denote. -/
def hexValue (byte : UInt8) : Option Nat :=
  if 0x30 ≤ byte.toNat ∧ byte.toNat ≤ 0x39 then some (byte.toNat - 0x30)
  else if 0x41 ≤ byte.toNat ∧ byte.toNat ≤ 0x46 then some (byte.toNat - 0x41 + 10)
  else if 0x61 ≤ byte.toNat ∧ byte.toNat ≤ 0x66 then some (byte.toNat - 0x61 + 10)
  else none

/-- Four hexadecimal digits and the number they denote. -/
inductive HexUnit : List UInt8 → Nat → Prop where
  | mk {a b c d : UInt8} {i j k l : Nat} (ha : hexValue a = some i) (hb : hexValue b = some j)
    (hc : hexValue c = some k)
    (hd : hexValue d = some l) : HexUnit [a, b, c, d] (i * 4096 + j * 256 + k * 16 + l)

/-- The escapes of two bytes: the second byte and what they stand for. -/
def shortEscapes : List (UInt8 × Char) :=
  [(0x22, '"'), (0x5C, '\\'), (0x2F, '/'), (0x62, Char.ofNat 8), (0x66, Char.ofNat 12),
    (0x6E, '\n'), (0x72, '\r'), (0x74, '\t')]

/-- One character of a string. -/
inductive StringChar : List UInt8 → Char → Prop where
  | literal {c : Char} (hcontrol : 0x20 ≤ c.toNat) (hquote : c ≠ '"') (hslash : c ≠ '\\') :
    StringChar (String.utf8EncodeChar c) c
  | short {byte : UInt8} {c : Char} (h : (byte, c) ∈ shortEscapes) : StringChar [0x5C, byte] c
  | unit {hex : List UInt8} {c : Char} (h : HexUnit hex c.toNat) : StringChar (0x5C :: 0x75 :: hex) c
  | pair {high low : List UInt8} {i j : Nat} {c : Char} (hhigh : HexUnit high i) (hlow : HexUnit low j)
    (hi : 0xD800 ≤ i ∧ i ≤ 0xDBFF) (hj : 0xDC00 ≤ j ∧ j ≤ 0xDFFF)
    (h : c.toNat = 0x10000 + (i - 0xD800) * 1024 + (j - 0xDC00)) :
    StringChar (0x5C :: 0x75 :: (high ++ 0x5C :: 0x75 :: low)) c

/-- What stands between the quotes, and what it decodes to. -/
inductive StringBody : List UInt8 → List Char → Prop where
  | nil : StringBody [] []
  | cons {raw rest : List UInt8} {c : Char} {chars : List Char} (head : StringChar raw c)
    (tail : StringBody rest chars) :
    StringBody (raw ++ rest) (c :: chars)

inductive StringText : List UInt8 → List Char → Prop where
  | mk {body : List UInt8} {chars : List Char} (h : StringBody body chars) :
    StringText (0x22 :: (body ++ [0x22])) chars

/-! ## Numbers and blanks -/

def IsDigit (byte : UInt8) : Prop := 0x30 ≤ byte.toNat ∧ byte.toNat ≤ 0x39

def Digits (text : List UInt8) : Prop := text ≠ [] ∧ ∀ byte ∈ text, IsDigit byte

/-- No zero stands in front of an integer. -/
def IntegerPart (text : List UInt8) : Prop := Digits text ∧ (text.head? = some 0x30 → text = [0x30])

def FractionPart (text : List UInt8) : Prop := text = [] ∨ ∃ digits, Digits digits ∧ text = 0x2E :: digits

def ExponentPart (text : List UInt8) : Prop :=
  text = [] ∨ ∃ e sign digits, (e = 0x65 ∨ e = 0x45) ∧ (sign = [] ∨ sign = [0x2B] ∨ sign = [0x2D]) ∧
  Digits digits ∧
    text = e :: (sign ++ digits)

inductive NumberText : List UInt8 → Prop where
  | mk {sign integer fraction exponent : List UInt8} (hsign : sign = [] ∨ sign = [0x2D])
    (hinteger : IntegerPart integer)
    (hfraction : FractionPart fraction) (hexponent : ExponentPart exponent) :
    NumberText (sign ++ integer ++ fraction ++ exponent)

def Blank (text : List UInt8) : Prop := ∀ byte ∈ text, byte = 0x20 ∨ byte = 0x09 ∨ byte = 0x0A ∨ byte = 0x0D

/-! ## Values -/

/-- A member of an object: its key, the text of its value, and the value. -/
structure Member where
  key : List Char
  text : List UInt8
  value : Json

def Member.entry (m : Member) : List Char × Json := (m.key, m.value)

/-- What a text can be derived as. -/
inductive Phrase where
  | value (v : Json)
  | items (vs : List Json)
  | members (ms : List Member)

inductive Derives : Phrase → List UInt8 → Prop where
  | null : Derives (.value .null) [0x6E, 0x75, 0x6C, 0x6C]
  | true : Derives (.value (.bool true)) [0x74, 0x72, 0x75, 0x65]
  | false : Derives (.value (.bool false)) [0x66, 0x61, 0x6C, 0x73, 0x65]
  | number {text : List UInt8} (h : NumberText text) : Derives (.value (.number text)) text
  | string {text : List UInt8} {chars : List Char} (h : StringText text chars) :
    Derives (.value (.string chars)) text
  | array {vs : List Json} {body : List UInt8} (h : Derives (.items vs) body) :
    Derives (.value (.array vs)) (0x5B :: (body ++ [0x5D]))
  | object {ms : List Member} {body : List UInt8} (h : Derives (.members ms) body) :
    Derives (.value (.object (ms.map Member.entry))) (0x7B :: (body ++ [0x7D]))
  | noItems {blank : List UInt8} (h : Blank blank) : Derives (.items []) blank
  | lastItem {v : Json} {before text behind : List UInt8} (hbefore : Blank before)
    (h : Derives (.value v) text)
    (hbehind : Blank behind) : Derives (.items [v]) (before ++ text ++ behind)
  | item {v next : Json} {vs : List Json} {before text behind rest : List UInt8} (hbefore : Blank before)
    (h : Derives (.value v) text) (hbehind : Blank behind) (hrest : Derives (.items (next :: vs)) rest) :
    Derives (.items (v :: next :: vs)) (before ++ text ++ behind ++ 0x2C :: rest)
  | noMembers {blank : List UInt8} (h : Blank blank) : Derives (.members []) blank
  | lastMember {m : Member} {before key colon gap behind : List UInt8} (hbefore : Blank before)
    (hkey : StringText key m.key)
    (hcolon : Blank colon) (hgap : Blank gap) (h : Derives (.value m.value) m.text)
    (hbehind : Blank behind) :
    Derives (.members [m]) (before ++ key ++ colon ++ 0x3A :: (gap ++ m.text ++ behind))
  | member {m next : Member} {ms : List Member} {before key colon gap behind rest : List UInt8}
    (hbefore : Blank before)
    (hkey : StringText key m.key) (hcolon : Blank colon) (hgap : Blank gap)
    (h : Derives (.value m.value) m.text)
    (hbehind : Blank behind) (hrest : Derives (.members (next :: ms)) rest) :
    Derives (.members (m :: next :: ms))
      (before ++ key ++ colon ++ 0x3A :: (gap ++ m.text ++ behind ++ 0x2C :: rest))

/-- A text that is an object, and its members. -/
inductive ObjectText : List UInt8 → List Member → Prop where
  | mk {before body behind : List UInt8} {ms : List Member} (hbefore : Blank before)
    (h : Derives (.members ms) body)
    (hbehind : Blank behind) : ObjectText (before ++ 0x7B :: (body ++ 0x7D :: behind)) ms

/-- A value that no bracket encloses: a number or a literal name. -/
def Json.isScalar : Json → Bool
  | .null | .bool _ | .number _ => true
  | .string _ | .array _ | .object _ => false

end Lib
