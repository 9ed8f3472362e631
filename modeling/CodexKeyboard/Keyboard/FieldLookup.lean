import CodexKeyboard.Keyboard.ConfigFields
import CodexKeyboard.Lib.Json
import Mathlib.Algebra.Ring.Nat
/-!
# The field lookup is right on JSON

On the text of an object `field_value` answers the value of the first member whose decoded key is
the name, and `string_value` decodes a string (`field_lookup_correct`). A character of the grammar
is one turn of `parse_string` (`parsePiece_char`), every phrase is skipped by `skip_composite`
whichever bracket it counts (`skipNested_derives`), and `read_value_range` takes one value
(`readValueRange_value`).
-/

namespace CodexKeyboard.Keyboard

open Lib

/-! ## Characters -/

/-- The test of `append_literal_utf8` for a byte behind the first one. -/
theorem isTail_iff (byte : UInt8) : (byte &&& 0xC0 == 0x80) = true ↔ IsTail byte := by
  have hall : ∀ n < 256, (UInt8.ofNat n &&& 0xC0 == 0x80) = decide (0x80 ≤ n ∧ n ≤ 0xBF) := by
    decide +kernel
  have hbyte := hall byte.toNat byte.toNat_lt
  rw [UInt8.ofNat_toNat] at hbyte
  rw [hbyte, decide_eq_true_eq, IsTail]

/-- The length a first byte announces. -/
theorem sequenceLen_eq (lead : UInt8) : sequenceLen lead =
    if 0xC2 ≤ lead.toNat ∧ lead.toNat ≤ 0xDF then 2
    else if 0xE0 ≤ lead.toNat ∧ lead.toNat ≤ 0xEF then 3
    else if 0xF0 ≤ lead.toNat ∧ lead.toNat ≤ 0xF4 then 4
    else 0 := rfl

/-- The four second bytes that make a sequence overlong, a surrogate, or too large. -/
def badSecond (lead second : UInt8) : Bool :=
  (lead == 0xE0 && second < 0xA0) || (lead == 0xED && second > 0x9F) || (lead == 0xF0 && second < 0x90)
    || (lead == 0xF4 && second > 0x8F)

theorem badSecond_eq_false {lead second : UInt8} (he0 : lead.toNat = 0xE0 → 0xA0 ≤ second.toNat)
    (hed : lead.toNat = 0xED → second.toNat ≤ 0x9F) (hf0 : lead.toNat = 0xF0 → 0x90 ≤ second.toNat)
    (hf4 : lead.toNat = 0xF4 → second.toNat ≤ 0x8F) : badSecond lead second = false := by
  simp only [badSecond, Bool.or_eq_false_iff, Bool.and_eq_false_imp, beq_iff_eq,
    decide_eq_false_iff_not, UInt8.lt_iff_toNat_lt,
    gt_iff_lt]
  refine ⟨⟨⟨?_, ?_⟩, ?_⟩, ?_⟩
  · rintro rfl
    exact Nat.not_lt_of_le (he0 rfl)
  · rintro rfl
    exact Nat.not_lt_of_le (hed rfl)
  · rintro rfl
    exact Nat.not_lt_of_le (hf0 rfl)
  · rintro rfl
    exact Nat.not_lt_of_le (hf4 rfl)

/-- What `startsSequence` checks, for a first byte that announces `n` bytes. -/
theorem startsSequence_of {lead second : UInt8} {tail rest : List UInt8} {n : Nat}
    (hlen : sequenceLen lead = n + 2)
    (hn : tail.length = n) (htail : ∀ byte ∈ second :: tail, IsTail byte)
    (hsecond : badSecond lead second = false) :
    startsSequence (lead :: second :: (tail ++ rest)) = true := by
  have htake : (((lead :: second :: (tail ++ rest)).take (sequenceLen lead)).drop 1) = second :: tail := by
    rw [hlen, List.take_succ_cons, List.take_succ_cons, ← hn, List.take_left]
    rfl
  rw [startsSequence]
  simp only [List.headD_cons, List.drop_succ_cons, List.drop_zero,
    htake, Bool.and_eq_true, Bool.not_eq_true',
    List.all_eq_true, bne_iff_ne]
  refine ⟨⟨⟨?_, ?_⟩, ?_⟩, hsecond⟩
  · rw [hlen]
    omega
  · have hle : sequenceLen lead ≤ (lead :: second :: (tail ++ rest)).length := by
      rw [hlen, List.length_cons, List.length_cons, List.length_append]
      omega
    exact decide_eq_true hle
  · intro byte hbyte
    exact (isTail_iff byte).2 (htail byte hbyte)

/-- A sequence of more than one byte passes the checks of `append_literal_utf8`. -/
theorem startsSequence_wide {bytes : List UInt8} (h : WideSequence bytes) (rest : List UInt8) :
    ∃ lead tail, bytes = lead :: tail ∧ 0x7F < lead.toNat ∧ sequenceLen lead = bytes.length ∧
      startsSequence (bytes ++ rest) = true := by
  cases h with
  | two hlow hhigh hsecond =>
    rename_i lead second
    have hlen : sequenceLen lead = 2 := by
      rw [sequenceLen_eq, if_pos (by omega)]
    refine ⟨lead, [second], rfl, by omega, hlen, @startsSequence_of lead second [] rest 0 hlen rfl ?_ ?_⟩
    · intro byte hbyte
      rw [List.mem_singleton] at hbyte
      exact hbyte ▸ hsecond
    · apply badSecond_eq_false <;> omega
  | three hlow hhigh hsecond hthird hlong hsurrogate =>
    rename_i lead second third
    have hlen : sequenceLen lead = 3 := by
      rw [sequenceLen_eq, if_neg (by omega), if_pos (by omega)]
    refine ⟨lead, [second, third], rfl, by omega, hlen,
      @startsSequence_of lead second [third] rest 1 hlen rfl ?_ ?_⟩
    · intro byte hbyte
      simp only [List.mem_cons, List.not_mem_nil, or_false] at hbyte
      rcases hbyte with rfl | rfl
      · exact hsecond
      · exact hthird
    · apply badSecond_eq_false
      · exact hlong
      · exact hsurrogate
      · omega
      · omega
  | four hlow hhigh hsecond hthird hfourth hlong hlast =>
    rename_i lead second third fourth
    have hlen : sequenceLen lead = 4 := by
      rw [sequenceLen_eq, if_neg (by omega), if_neg (by omega), if_pos (by omega)]
    refine ⟨lead, [second, third, fourth], rfl, by omega, hlen,
      @startsSequence_of lead second [third, fourth] rest 2 hlen rfl ?_ ?_⟩
    · intro byte hbyte
      simp only [List.mem_cons, List.not_mem_nil, or_false] at hbyte
      rcases hbyte with rfl | rfl | rfl
      · exact hsecond
      · exact hthird
      · exact hfourth
    · apply badSecond_eq_false
      · omega
      · omega
      · exact hlong
      · exact hlast

theorem appendLiteralUtf8_char {c : Char} (h : 0x20 ≤ c.toNat) (rest : List UInt8) :
    appendLiteralUtf8 (String.utf8EncodeChar c ++ rest) = some (String.utf8EncodeChar c, rest) := by
  by_cases hascii : c.toNat ≤ 0x7F
  · rw [utf8EncodeChar_of_le hascii]
    have hlow : UInt8.ofNat c.toNat ≤ 0x7F := by
      rw [UInt8.le_iff_toNat_le, toNat_ofNat_of_lt (by omega)]
      exact hascii
    have hcontrol : ¬ UInt8.ofNat c.toNat < 0x20 := by
      rw [UInt8.lt_iff_toNat_lt, toNat_ofNat_of_lt (by omega)]
      exact Nat.not_lt_of_le h
    rw [List.singleton_append, appendLiteralUtf8, if_pos hlow, if_neg hcontrol]
  · obtain ⟨lead, tail, hbytes, hlead, hlength, hstarts⟩ :=
      startsSequence_wide (utf8EncodeChar_wide (Nat.lt_of_not_le hascii)) rest
    have hhigh : ¬ lead ≤ 0x7F := by
      rw [UInt8.le_iff_toNat_le]
      exact Nat.not_le_of_lt hlead
    rw [hbytes] at hlength hstarts ⊢
    rw [List.cons_append] at hstarts
    rw [List.cons_append, appendLiteralUtf8, if_neg hhigh, if_pos hstarts,
      hlength, ← List.cons_append, List.take_left,
      List.drop_left]

/-! ## Escapes -/

/-- The digits of the grammar are those of `hex_digit_value`. -/
theorem hexDigitValue_eq (byte : UInt8) : hexDigitValue byte = (hexValue byte).map UInt8.ofNat := by
  have hall :
    ∀ n < 256, hexDigitValue (UInt8.ofNat n) = (hexValue (UInt8.ofNat n)).map UInt8.ofNat := by
    decide +kernel
  have hbyte := hall byte.toNat byte.toNat_lt
  rwa [UInt8.ofNat_toNat] at hbyte

theorem hexValue_lt {byte : UInt8} {n : Nat} (h : hexValue byte = some n) : n < 16 := by
  rw [hexValue] at h
  split at h
  · cases h
    omega
  · split at h
    · cases h
      omega
    · split at h
      · cases h
        omega
      · cases h

/-- One digit shifted in. -/
theorem shiftDigit {value n : Nat} (hvalue : value < 4096) (hn : n < 16) :
    (UInt16.ofNat value <<< (4 : UInt16) ||| (UInt8.ofNat n).toUInt16) = UInt16.ofNat (value * 16 + n) := by
  apply UInt16.toNat_inj.1
  rw [UInt16.toNat_or, UInt16.toNat_shiftLeft, UInt8.toNat_toUInt16,
    UInt16.toNat_ofNat', UInt16.toNat_ofNat',
    toNat_ofNat_of_lt (by omega)]
  show (value % 65536) <<< 4 % 65536 ||| n = (value * 16 + n) % 65536
  rw [Nat.mod_eq_of_lt (show value < 65536 by omega), Nat.shiftLeft_eq,
    Nat.mod_eq_of_lt (show value * 2 ^ 4 < 65536 by omega),
    Nat.mod_eq_of_lt (show value * 16 + n < 65536 by omega), Nat.mul_comm value]
  rw [Nat.mul_comm value 16]
  exact (@Nat.two_pow_add_eq_or_of_lt 4 n hn value).symm

theorem readUtf16CodeUnit_hex {hex : List UInt8} {n : Nat} (h : HexUnit hex n) (rest : List UInt8) :
    readUtf16CodeUnit (hex ++ rest) = some (UInt16.ofNat n, rest) ∧ n < 65536 := by
  cases h with
  | mk ha hb hc hd =>
    rename_i a b c d i j k l
    have hi := hexValue_lt ha
    have hj := hexValue_lt hb
    have hk := hexValue_lt hc
    have hl := hexValue_lt hd
    have hdigits : hexDigits [a, b, c, d] 0 = some (UInt16.ofNat (i * 4096 + j * 256 + k * 16 + l)) := by
      simp only [hexDigits, hexDigitValue_eq, ha, hb, hc, hd, Option.map_some]
      have h0 := @shiftDigit 0 i (by omega) hi
      rw [show (0 : UInt16) = UInt16.ofNat 0 from rfl, h0, shiftDigit (by omega) hj,
        shiftDigit (by omega) hk,
        shiftDigit (by omega) hl]
      congr 2
      omega
    constructor
    · rw [readUtf16CodeUnit, if_neg (by simp)]
      show (hexDigits [a, b, c, d] 0).map _ = _
      rw [hdigits]
      rfl
    · omega

/-- Marks and bits that do not overlap. -/
theorem markedByte_eq {mark value : UInt32} {a k n : Nat} (hmark : mark.toNat = 2 ^ k * a)
    (hvalue : value.toNat = n)
    (hn : n < 2 ^ k) (hsum : 2 ^ k * a + n < 256) :
    markedByte mark value = UInt8.ofNat (n + 2 ^ k * a) := by
  apply UInt8.toNat_inj.1
  rw [markedByte, UInt32.toNat_toUInt8, UInt32.toNat_or, hmark, hvalue, ← Nat.two_pow_add_eq_or_of_lt hn,
    toNat_ofNat_of_lt (by omega), Nat.mod_eq_of_lt hsum, Nat.add_comm]

/-- `append_utf8_code_point` is the encoding of the character. -/
theorem appendUtf8CodePoint_char (c : Char) :
    appendUtf8CodePoint c.val = some (String.utf8EncodeChar c) := by
  have hvalid := toNat_val_lt c
  have hshift : ∀ k < 32, (c.val >>> UInt32.ofNat k).toNat = c.toNat / 2 ^ k := by
    intro k hk
    rw [UInt32.toNat_shiftRight, UInt32.toNat_ofNat', Nat.shiftRight_eq_div_pow,
      Nat.mod_eq_of_lt (show k < 2 ^ 32 by omega),
      Nat.mod_eq_of_lt hk]
    rfl
  have hand : ∀ value : UInt32, (value &&& 0x3F).toNat = value.toNat % 64 := by
    intro value
    rw [UInt32.toNat_and]
    exact Nat.and_two_pow_sub_one_eq_mod _ 6
  have htail :
    ∀ value : UInt32, markedByte 0x80 (value &&& 0x3F) = UInt8.ofNat (value.toNat % 64 + 128) := by
    intro value
    exact @markedByte_eq 0x80 _ 2 6 _ rfl (hand value) (Nat.mod_lt _ (by decide)) (by omega)
  have h6 : (c.val >>> 6).toNat = c.toNat / 64 := hshift 6 (by decide)
  have h12 : (c.val >>> 12).toNat = c.toNat / 4096 := hshift 12 (by decide)
  have h18 : (c.val >>> 18).toNat = c.toNat / 262144 := hshift 18 (by decide)
  have hval : c.val.toNat = c.toNat := rfl
  rw [appendUtf8CodePoint, String.utf8EncodeChar, if_neg (by
    rw [not_or, not_and, gt_iff_lt, UInt32.lt_iff_toNat_lt, UInt32.le_iff_toNat_le,
      UInt32.le_iff_toNat_le, hval]
    constructor
    · show ¬ 0x10FFFF < c.toNat
      omega
    · show 0xD800 ≤ c.toNat → ¬ c.toNat ≤ 0xDFFF
      omega)]
  simp only [UInt32.le_iff_toNat_le, UInt32.reduceToNat, htail, h6, h12, hval]
  by_cases hone : c.toNat ≤ 0x7F
  · rw [if_pos hone, if_pos hone]
    rfl
  by_cases htwo : c.toNat ≤ 0x7FF
  · have hlead := @markedByte_eq 0xC0 (c.val >>> 6) 3 6 (c.toNat / 64) rfl h6 (by omega) (by omega)
    rw [if_neg hone, if_pos htwo, if_neg hone, if_pos htwo, hlead,
      Nat.mod_eq_of_lt (show c.toNat / 64 < 32 by omega)]
    rfl
  by_cases hthree : c.toNat ≤ 0xFFFF
  · have hlead := @markedByte_eq 0xE0 (c.val >>> 12) 7 5 (c.toNat / 4096) rfl h12 (by omega) (by omega)
    rw [if_neg hone, if_neg htwo, if_pos hthree, if_neg hone, if_neg htwo, if_pos hthree, hlead,
      Nat.mod_eq_of_lt (show c.toNat / 4096 < 16 by omega)]
    rfl
  · have hlead := @markedByte_eq 0xF0 (c.val >>> 18) 15 4 (c.toNat / 262144) rfl h18 (by omega) (by omega)
    rw [if_neg hone, if_neg htwo, if_neg hthree, if_neg hone, if_neg htwo, if_neg hthree, hlead,
      Nat.mod_eq_of_lt (show c.toNat / 262144 < 8 by omega)]
    rfl

/-- A code unit outside the surrogates. -/
theorem parseUnicodeEscape_unit {hex : List UInt8} {c : Char} (h : HexUnit hex c.toNat)
    (rest : List UInt8) :
    parseUnicodeEscape (hex ++ rest) = some (String.utf8EncodeChar c, rest) := by
  have hvalid := toNat_val_lt c
  obtain ⟨hread, hlt⟩ := readUtf16CodeUnit_hex h rest
  have hunit : (UInt16.ofNat c.toNat).toNat = c.toNat := by
    rw [UInt16.toNat_ofNat']
    exact Nat.mod_eq_of_lt hlt
  have hhigh : ¬ (0xD800 ≤ UInt16.ofNat c.toNat ∧ UInt16.ofNat c.toNat ≤ 0xDBFF) := by
    rw [UInt16.le_iff_toNat_le, UInt16.le_iff_toNat_le, hunit]
    show ¬ (0xD800 ≤ c.toNat ∧ c.toNat ≤ 0xDBFF)
    omega
  have hlow : ¬ (0xDC00 ≤ UInt16.ofNat c.toNat ∧ UInt16.ofNat c.toNat ≤ 0xDFFF) := by
    rw [UInt16.le_iff_toNat_le, UInt16.le_iff_toNat_le, hunit]
    show ¬ (0xDC00 ≤ c.toNat ∧ c.toNat ≤ 0xDFFF)
    omega
  have hval : (UInt16.ofNat c.toNat).toUInt32 = c.val := by
    apply UInt32.toNat_inj.1
    rw [UInt16.toNat_toUInt32, hunit]
    rfl
  rw [parseUnicodeEscape, hread]
  simp only [if_neg hhigh, if_neg hlow, hval, appendUtf8CodePoint_char, Option.map_some]

/-- A pair of surrogates. -/
theorem parseUnicodeEscape_pair {high low : List UInt8} {i j : Nat} {c : Char}
    (hhigh : HexUnit high i) (hlow : HexUnit low j)
    (hi : 0xD800 ≤ i ∧ i ≤ 0xDBFF) (hj : 0xDC00 ≤ j ∧ j ≤ 0xDFFF)
    (h : c.toNat = 0x10000 + (i - 0xD800) * 1024 + (j - 0xDC00)) (rest : List UInt8) :
    parseUnicodeEscape (high ++ 0x5C :: 0x75 :: (low ++ rest)) = some (String.utf8EncodeChar c, rest) := by
  obtain ⟨hread, hilt⟩ := readUtf16CodeUnit_hex hhigh (0x5C :: 0x75 :: (low ++ rest))
  obtain ⟨hread', hjlt⟩ := readUtf16CodeUnit_hex hlow rest
  have hunit : (UInt16.ofNat i).toNat = i := by
    rw [UInt16.toNat_ofNat']
    exact Nat.mod_eq_of_lt hilt
  have hunit' : (UInt16.ofNat j).toNat = j := by
    rw [UInt16.toNat_ofNat']
    exact Nat.mod_eq_of_lt hjlt
  have hfirst : 0xD800 ≤ UInt16.ofNat i ∧ UInt16.ofNat i ≤ 0xDBFF := by
    rw [UInt16.le_iff_toNat_le, UInt16.le_iff_toNat_le, hunit]
    exact hi
  have hsecond : ¬ (UInt16.ofNat j < 0xDC00 ∨ UInt16.ofNat j > 0xDFFF) := by
    rw [gt_iff_lt, UInt16.lt_iff_toNat_lt, UInt16.lt_iff_toNat_lt, hunit']
    show ¬ (j < 0xDC00 ∨ 0xDFFF < j)
    omega
  have hval :
    (0x10000 : UInt32) + ((UInt16.ofNat i).toUInt32 - 0xD800) <<<
    10 + ((UInt16.ofNat j).toUInt32 - 0xDC00) = c.val := by
    apply UInt32.toNat_inj.1
    have hi32 : ((UInt16.ofNat i).toUInt32 - 0xD800).toNat = i - 0xD800 := by
      rw [UInt32.toNat_sub_of_le, UInt16.toNat_toUInt32, hunit]
      · rfl
      · rw [UInt32.le_iff_toNat_le, UInt16.toNat_toUInt32, hunit]
        exact hi.1
    have hj32 : ((UInt16.ofNat j).toUInt32 - 0xDC00).toNat = j - 0xDC00 := by
      rw [UInt32.toNat_sub_of_le, UInt16.toNat_toUInt32, hunit']
      · rfl
      · rw [UInt32.le_iff_toNat_le, UInt16.toNat_toUInt32, hunit']
        exact hj.1
    rw [UInt32.toNat_add, UInt32.toNat_add, UInt32.toNat_shiftLeft, hi32, hj32]
    show ((65536 + (i - 0xD800) <<< 10 % 4294967296) % 4294967296 + (j - 0xDC00)) % 4294967296 = c.toNat
    rw [h, Nat.shiftLeft_eq]
    omega
  rw [parseUnicodeEscape, hread]
  simp only [if_pos hfirst, List.take_succ_cons, List.take_zero, List.drop_succ_cons,
    List.drop_zero, hread', if_neg hsecond,
    hval, appendUtf8CodePoint_char, Option.map_some]
  rfl

/-- One turn of `parse_string` takes one character of the grammar. -/
theorem parsePiece_char {raw : List UInt8} {c : Char} (h : StringChar raw c) (rest : List UInt8) :
    parsePiece (raw ++ rest) = some (String.utf8EncodeChar c, rest) ∧ (raw ++ rest).head? ≠ some 0x22 := by
  cases h with
  | literal hcontrol hquote hslash =>
    have hparse := appendLiteralUtf8_char hcontrol rest
    have hhead : ∀ byte tail, String.utf8EncodeChar c = byte :: tail → byte ≠ 0x22 ∧ byte ≠ 0x5C := by
      intro byte tail hbytes
      by_cases hascii : c.toNat ≤ 0x7F
      · rw [utf8EncodeChar_of_le hascii] at hbytes
        cases hbytes
        constructor
        · intro heq
          apply hquote
          have hnat : c.toNat = 0x22 := by
            rw [← toNat_ofNat_of_lt (show c.toNat < 256 by omega), heq]
            rfl
          exact Char.toNat_inj.1 hnat
        · intro heq
          apply hslash
          have hnat : c.toNat = 0x5C := by
            rw [← toNat_ofNat_of_lt (show c.toNat < 256 by omega), heq]
            rfl
          exact Char.toNat_inj.1 hnat
      · obtain ⟨lead, tail', hlead, hwide, -, -⟩ :=
          startsSequence_wide (utf8EncodeChar_wide (Nat.lt_of_not_le hascii)) []
        rw [hlead] at hbytes
        cases hbytes
        constructor
        · rintro rfl
          exact absurd hwide (by decide)
        · rintro rfl
          exact absurd hwide (by decide)
    cases hbytes : String.utf8EncodeChar c with
    | nil => exact absurd hbytes String.utf8EncodeChar_ne_nil
    | cons byte tail =>
      obtain ⟨hquote', hslash'⟩ := hhead byte tail hbytes
      rw [hbytes] at hparse
      constructor
      · rw [List.cons_append, parsePiece, if_neg hslash']
        exact hparse
      · rw [List.cons_append, List.head?_cons]
        intro heq
        exact hquote' (Option.some.inj heq)
  | short hshort =>
    simp only [shortEscapes, List.mem_cons, Prod.mk.injEq, List.not_mem_nil, or_false] at hshort
    rcases hshort with ⟨rfl, rfl⟩ | ⟨rfl, rfl⟩ | ⟨rfl, rfl⟩ | ⟨rfl, rfl⟩ | ⟨rfl, rfl⟩ | ⟨rfl, rfl⟩
      | ⟨rfl, rfl⟩ | ⟨rfl, rfl⟩ <;>
      exact ⟨rfl, by simp⟩
  | unit hunit =>
    refine ⟨?_, by simp⟩
    rw [List.cons_append, List.cons_append, parsePiece, if_pos rfl]
    show parseUnicodeEscape _ = _
    exact parseUnicodeEscape_unit hunit rest
  | pair hhigh hlow hi hj hc =>
    refine ⟨?_, by simp⟩
    rw [List.cons_append, List.cons_append, parsePiece, if_pos rfl,
      List.append_assoc, List.cons_append, List.cons_append]
    show parseUnicodeEscape _ = _
    exact parseUnicodeEscape_pair hhigh hlow hi hj hc rest

/-! ## Strings -/

/-- The loop of `parse_string` takes what stands between the quotes. -/
theorem parseChars_body {body : List UInt8} {chars : List Char} (h : StringBody body chars)
    (parsed rest : List UInt8) :
    parseChars parsed (body ++ 0x22 :: rest) = some (parsed ++ utf8 chars, rest) := by
  induction h generalizing parsed with
  | nil =>
    rw [List.nil_append, parseChars, List.head?_cons, if_pos rfl, utf8_nil,
      List.append_nil, List.drop_succ_cons, List.drop_zero]
  | cons head tail ih =>
    rename_i raw after c chars
    obtain ⟨hpiece, hquote⟩ := parsePiece_char head (after ++ 0x22 :: rest)
    rw [List.append_assoc, parseChars, if_neg hquote]
    split
    · rename_i hnone
      rw [hpiece] at hnone
      cases hnone
    · rename_i hsome
      rw [hpiece] at hsome
      cases hsome
      rw [ih, utf8_cons, List.append_assoc]

/-- Blanks in front of a token are skipped. -/
theorem skipWs_blank {blank : List UInt8} (h : Blank blank) (rest : List UInt8) :
    skipWs (blank ++ rest) = skipWs rest := by
  induction blank with
  | nil => rfl
  | cons byte blank ih =>
    have hspace : isSpace byte = true := by
      rcases h byte List.mem_cons_self with rfl | rfl | rfl | rfl <;> rfl
    rw [List.cons_append, skipWs, List.dropWhile_cons_of_pos hspace]
    exact ih fun other hother => h other (List.mem_cons_of_mem _ hother)

theorem skipWs_cons {byte : UInt8} (h : isSpace byte = false) (rest : List UInt8) :
    skipWs (byte :: rest) = byte :: rest := by
  rw [skipWs, List.dropWhile_cons_of_neg (by rw [h]; exact Bool.false_ne_true)]

/-- **`parse_string` decodes a string and stops behind it.** -/
theorem parseString_text {raw : List UInt8} {chars : List Char} (h : StringText raw chars)
    (rest : List UInt8) :
    parseString (raw ++ rest) = some (utf8 chars, rest) := by
  cases h with
  | mk hbody =>
    rename_i body
    have hskip : skipWs (0x22 :: (body ++ [0x22]) ++ rest) = 0x22 :: (body ++ 0x22 :: rest) := by
      rw [List.cons_append, skipWs_cons rfl, List.append_assoc, List.singleton_append]
    rw [parseString, hskip, List.head?_cons, if_pos rfl, List.drop_succ_cons, List.drop_zero]
    exact parseChars_body hbody [] rest

/-! ## Skipping a value -/

/-- The bracket kinds of `read_value_range`. -/
def Brackets (opening closing : UInt8) : Prop :=
  opening = 0x7B ∧ closing = 0x7D ∨ opening = 0x5B ∧ closing = 0x5D

/-- A byte that is no quote and no bracket of the kind that is counted. -/
def Plain (opening closing byte : UInt8) : Prop := byte ≠ 0x22 ∧ byte ≠ opening ∧ byte ≠ closing

theorem skipNested_plain {opening closing byte : UInt8} (h : Plain opening closing byte)
    (depth : Int) (rest : List UInt8) :
    skipNested opening closing depth (byte :: rest) = skipNested opening closing depth rest := by
  obtain ⟨hquote, hopen, hclose⟩ := h
  rw [skipNested, if_neg (List.cons_ne_nil _ _), List.head?_cons, if_neg (by simpa using hquote),
    if_neg (by simpa using hopen),
    if_neg (by simpa using hclose), List.drop_succ_cons, List.drop_zero]

theorem skipNested_plains {opening closing : UInt8} {text : List UInt8}
    (h : ∀ byte ∈ text, Plain opening closing byte)
    (depth : Int) (rest : List UInt8) :
    skipNested opening closing depth (text ++ rest) = skipNested opening closing depth rest := by
  induction text with
  | nil => rfl
  | cons byte text ih =>
    rw [List.cons_append, skipNested_plain (h byte List.mem_cons_self)]
    exact ih fun other hother => h other (List.mem_cons_of_mem _ hother)

theorem skipNested_string {opening closing : UInt8} {raw : List UInt8} {chars : List Char}
    (h : StringText raw chars)
    (depth : Int) (rest : List UInt8) :
    skipNested opening closing depth (raw ++ rest) = skipNested opening closing depth rest := by
  have hparse := parseString_text h rest
  have hhead : (raw ++ rest).head? = some 0x22 ∧ raw ++ rest ≠ [] := by
    cases h with
    | mk hbody => exact ⟨rfl, List.cons_ne_nil _ _⟩
  rw [skipNested, if_neg hhead.2, if_pos hhead.1]
  split
  · rename_i hnone
    rw [hparse] at hnone
    cases hnone
  · rename_i hsome
    rw [hparse] at hsome
    cases hsome
    rfl

theorem skipNested_opening {opening closing : UInt8} (h : opening ≠ 0x22) (depth : Int)
    (rest : List UInt8) :
    skipNested opening closing depth (opening :: rest) = skipNested opening closing (depth + 1) rest := by
  rw [skipNested, if_neg (List.cons_ne_nil _ _), List.head?_cons, if_neg (by simpa using h),
    if_pos rfl, List.drop_succ_cons,
    List.drop_zero]

theorem skipNested_closing {opening closing : UInt8} (hquote : closing ≠ 0x22)
    (hopen : closing ≠ opening) (depth : Int)
    (rest : List UInt8) :
    skipNested opening closing depth (closing :: rest) =
      if depth - 1 = 0 then some rest else skipNested opening closing (depth - 1) rest := by
  rw [skipNested, if_neg (List.cons_ne_nil _ _), List.head?_cons, if_neg (by simpa using hquote),
    if_neg (by simpa using hopen),
    if_pos rfl, List.drop_succ_cons, List.drop_zero]

/-- A byte of a number or a literal name: no quote, no bracket, no comma, no blank. -/
def Quiet (byte : UInt8) : Prop :=
  byte ≠ 0x22 ∧ byte ≠ 0x2C ∧ byte ≠ 0x5B ∧ byte ≠ 0x5D ∧ byte ≠ 0x7B ∧ byte ≠ 0x7D ∧ isSpace byte = false

instance (byte : UInt8) : Decidable (Quiet byte) := inferInstanceAs (Decidable (_ ∧ _))

theorem quiet_digit {byte : UInt8} (h : IsDigit byte) : Quiet byte := by
  have hall : ∀ n < 256, 0x30 ≤ n ∧ n ≤ 0x39 → Quiet (UInt8.ofNat n) := by decide +kernel
  have hbyte := hall byte.toNat byte.toNat_lt h
  rwa [UInt8.ofNat_toNat] at hbyte

theorem quiet_digits {text : List UInt8} (h : Digits text) : ∀ byte ∈ text, Quiet byte :=
  fun byte hbyte => quiet_digit (h.2 byte hbyte)

/-- A short text is looked at byte by byte. -/
theorem quiet_all {text : List UInt8} (h : text.all (fun byte => decide (Quiet byte)) = true) :
    ∀ byte ∈ text, Quiet byte := by
  intro byte hbyte
  exact of_decide_eq_true (List.all_eq_true.mp h byte hbyte)

/-- Texts of quiet bytes one behind the other. -/
theorem quiet_append {left right : List UInt8} (hleft : ∀ byte ∈ left, Quiet byte)
    (hright : ∀ byte ∈ right, Quiet byte) :
    ∀ byte ∈ left ++ right, Quiet byte := by
  intro byte hbyte
  rcases List.mem_append.1 hbyte with hmem | hmem
  · exact hleft byte hmem
  · exact hright byte hmem

theorem quiet_number {text : List UInt8} (h : NumberText text) : text ≠ [] ∧ ∀ byte ∈ text, Quiet byte := by
  cases h with
  | mk hsign hinteger hfraction hexponent =>
    rename_i sign integer fraction exponent
    have hsign' : ∀ byte ∈ sign, Quiet byte := by
      rcases hsign with rfl | rfl <;> exact quiet_all (by decide)
    have hfraction' : ∀ byte ∈ fraction, Quiet byte := by
      rcases hfraction with rfl | ⟨digits, hdigits, rfl⟩
      · exact quiet_all (by decide)
      · exact @quiet_append [0x2E] digits (quiet_all (by decide)) (quiet_digits hdigits)
    have hexponent' : ∀ byte ∈ exponent, Quiet byte := by
      rcases hexponent with rfl | ⟨e, sign', digits, he, hsign'', hdigits, rfl⟩
      · exact quiet_all (by decide)
      · refine @quiet_append [e] (sign' ++ digits) ?_ (quiet_append ?_ (quiet_digits hdigits))
        · rcases he with rfl | rfl <;> exact quiet_all (by decide)
        · rcases hsign'' with rfl | rfl | rfl <;> exact quiet_all (by decide)
    constructor
    · intro hnil
      have hinteger' := hinteger.1.1
      simp only [List.append_eq_nil_iff] at hnil
      exact hinteger' hnil.1.1.2
    · exact quiet_append (quiet_append (quiet_append hsign' (quiet_digits hinteger.1)) hfraction')
        hexponent'

/-- The text of a scalar has only quiet bytes. -/
theorem quiet_scalar {v : Json} {text : List UInt8} (h : Derives (.value v) text)
    (hscalar : v.isScalar = true) :
    text ≠ [] ∧ ∀ byte ∈ text, Quiet byte := by
  cases h with
  | null => exact ⟨List.cons_ne_nil _ _, quiet_all (by decide)⟩
  | true => exact ⟨List.cons_ne_nil _ _, quiet_all (by decide)⟩
  | false => exact ⟨List.cons_ne_nil _ _, quiet_all (by decide)⟩
  | number hnumber => exact quiet_number hnumber
  | string hstring => cases hscalar
  | array hitems => cases hscalar
  | object hmembers => cases hscalar

theorem Quiet.plain {opening closing byte : UInt8} (h : Quiet byte) (hbrackets : Brackets opening closing) :
    Plain opening closing byte := by
  obtain ⟨hquote, -, hopen, hclose, hopen', hclose', -⟩ := h
  rcases hbrackets with ⟨rfl, rfl⟩ | ⟨rfl, rfl⟩
  · exact ⟨hquote, hopen', hclose'⟩
  · exact ⟨hquote, hopen, hclose⟩

theorem plain_blank {opening closing : UInt8} {blank : List UInt8} (h : Blank blank)
    (hbrackets : Brackets opening closing) :
    ∀ byte ∈ blank, Plain opening closing byte := by
  intro byte hbyte
  rcases hbrackets with ⟨rfl, rfl⟩ | ⟨rfl, rfl⟩ <;> rcases h byte hbyte with rfl | rfl | rfl | rfl <;>
    exact ⟨by decide, by decide, by decide⟩

/-- What stands in brackets is skipped inside brackets of the kind that is counted, whatever its own
kind. -/
theorem skipNested_enclosed {opening closing left right : UInt8} {body : List UInt8}
    (hbrackets : Brackets opening closing)
    (hkind : Brackets left right)
    (h : ∀ depth : Int, 1 ≤ depth →
      ∀ rest, skipNested opening closing depth (body ++ rest) = skipNested opening closing depth rest)
    {depth : Int} (hdepth : 1 ≤ depth) (rest : List UInt8) :
    skipNested opening closing depth (left :: (body ++ [right]) ++ rest) =
      skipNested opening closing depth rest := by
  have hquotes : opening ≠ 0x22 ∧ closing ≠ 0x22 ∧ closing ≠ opening := by
    rcases hbrackets with ⟨rfl, rfl⟩ | ⟨rfl, rfl⟩ <;> decide
  rw [List.cons_append, List.append_assoc, List.singleton_append]
  by_cases hsame : left = opening
  · have hright : right = closing := by
      rcases hbrackets with ⟨rfl, rfl⟩ | ⟨rfl, rfl⟩ <;> rcases hkind with ⟨rfl, rfl⟩ | ⟨rfl, rfl⟩
      · rfl
      · exact absurd hsame (by decide)
      · exact absurd hsame (by decide)
      · rfl
    subst hsame hright
    rw [skipNested_opening hquotes.1, h (depth + 1) (by omega),
      skipNested_closing hquotes.2.1 hquotes.2.2, if_neg (by omega),
      show depth + 1 - 1 = depth by omega]
  · have hplain : Plain opening closing left ∧ Plain opening closing right := by
      rcases hbrackets with ⟨rfl, rfl⟩ | ⟨rfl, rfl⟩ <;> rcases hkind with ⟨rfl, rfl⟩ | ⟨rfl, rfl⟩
      · exact absurd rfl hsame
      · exact ⟨⟨by decide, by decide, by decide⟩, ⟨by decide, by decide, by decide⟩⟩
      · exact ⟨⟨by decide, by decide, by decide⟩, ⟨by decide, by decide, by decide⟩⟩
      · exact absurd rfl hsame
    rw [skipNested_plain hplain.1, h depth hdepth, skipNested_plain hplain.2]

/-- **Every phrase of the grammar is skipped.** -/
theorem skipNested_derives {opening closing : UInt8} (hbrackets : Brackets opening closing)
    {phrase : Phrase} {text : List UInt8}
    (h : Derives phrase text) : ∀ depth : Int, 1 ≤ depth → ∀ rest,
      skipNested opening closing depth (text ++ rest) = skipNested opening closing depth rest := by
  have hcomma : Plain opening closing 0x2C := by
    rcases hbrackets with ⟨rfl, rfl⟩ | ⟨rfl, rfl⟩ <;> exact ⟨by decide, by decide, by decide⟩
  have hcolon : Plain opening closing 0x3A := Quiet.plain (by decide) hbrackets
  have hblank : ∀ {blank : List UInt8}, Blank blank → ∀ (depth : Int) rest,
      skipNested opening closing depth (blank ++ rest) = skipNested opening closing depth rest :=
    fun hblank => skipNested_plains (plain_blank hblank hbrackets)
  have hscalar : ∀ {v : Json} {text : List UInt8}, Derives (.value v) text → v.isScalar = true →
    ∀ (depth : Int) rest,
      skipNested opening closing depth (text ++ rest) = skipNested opening closing depth rest :=
    fun h hscalar => skipNested_plains fun byte hbyte =>
      ((quiet_scalar h hscalar).2 byte hbyte).plain hbrackets
  induction h with
  | null => exact fun depth _ rest => hscalar .null rfl depth rest
  | true => exact fun depth _ rest => hscalar .true rfl depth rest
  | false => exact fun depth _ rest => hscalar .false rfl depth rest
  | number h => exact fun depth _ rest => hscalar (.number h) rfl depth rest
  | string h => exact fun depth _ rest => skipNested_string h depth rest
  | array h ih =>
    exact fun depth hdepth rest => skipNested_enclosed hbrackets (.inr ⟨rfl, rfl⟩) ih hdepth rest
  | object h ih =>
    exact fun depth hdepth rest => skipNested_enclosed hbrackets (.inl ⟨rfl, rfl⟩) ih hdepth rest
  | noItems h => exact fun depth _ rest => hblank h depth rest
  | lastItem hbefore h hbehind ih =>
    intro depth hdepth rest
    rw [List.append_assoc, List.append_assoc, hblank hbefore, ih depth hdepth, hblank hbehind]
  | item hbefore h hbehind hrest ih ihrest =>
    intro depth hdepth rest
    simp only [List.append_assoc, List.cons_append]
    rw [hblank hbefore, ih depth hdepth, hblank hbehind, skipNested_plain hcomma, ihrest depth hdepth]
  | noMembers h => exact fun depth _ rest => hblank h depth rest
  | lastMember hbefore hkey hcolon' hgap h hbehind ih =>
    intro depth hdepth rest
    simp only [List.append_assoc, List.cons_append]
    rw [hblank hbefore, skipNested_string hkey, hblank hcolon', skipNested_plain hcolon,
      hblank hgap, ih depth hdepth,
      hblank hbehind]
  | member hbefore hkey hcolon' hgap h hbehind hrest ih ihrest =>
    intro depth hdepth rest
    simp only [List.append_assoc, List.cons_append]
    rw [hblank hbefore, skipNested_string hkey, hblank hcolon', skipNested_plain hcolon,
      hblank hgap, ih depth hdepth,
      hblank hbehind, skipNested_plain hcomma, ihrest depth hdepth]

/-! ## One value -/

/-- `skip_composite` stops behind the bracket that closes the value. -/
theorem skipComposite_enclosed {opening closing : UInt8} (hbrackets : Brackets opening closing)
    {phrase : Phrase}
    {body : List UInt8} (h : Derives phrase body) (rest : List UInt8) :
    skipComposite opening closing (opening :: (body ++ [closing]) ++ rest) = some rest := by
  have hquotes : opening ≠ 0x22 ∧ closing ≠ 0x22 ∧ closing ≠ opening := by
    rcases hbrackets with ⟨rfl, rfl⟩ | ⟨rfl, rfl⟩ <;> decide
  rw [List.cons_append, List.append_assoc, List.singleton_append,
    skipComposite, List.head?_cons, if_pos rfl,
    skipNested_opening hquotes.1, skipNested_derives hbrackets h _ (by omega),
      skipNested_closing hquotes.2.1 hquotes.2.2,
    if_pos (by omega)]

theorem between_append (text rest : List UInt8) : between (text ++ rest) rest = text := by
  rw [between, List.length_append, Nat.add_sub_cancel, List.take_left]

/-- What may stand behind the value of a member: a comma or the closing brace. -/
def Follows (rest : List UInt8) : Prop := ∃ tail, rest = 0x2C :: tail ∨ rest = 0x7D :: tail

/-- What `read_value_range` takes: the text of the value, and the blanks behind a scalar. -/
def Taken (m : Member) (taken : List UInt8) : Prop :=
  ∃ blank, Blank blank ∧ (blank = [] ∨ m.value.isScalar = true) ∧ taken = m.text ++ blank

/-- **`read_value_range` takes one value**, and leaves the cursor before blanks and what follows. -/
theorem readValueRange_value {m : Member} (h : Derives (.value m.value) m.text)
    {gap behind rest : List UInt8} (hgap : Blank gap)
    (hbehind : Blank behind) (hrest : Follows rest) :
    ∃ taken blank, Taken m taken ∧ Blank blank ∧
    readValueRange (gap ++ (m.text ++ (behind ++ rest))) = some (taken, blank ++ rest) := by
  have hempty : Blank [] := fun byte hbyte => absurd hbyte List.not_mem_nil
  obtain ⟨key, text, value⟩ := m
  have hvalue : Derives (.value value) text := h
  show ∃ taken blank, Taken ⟨key, text, value⟩ taken ∧ Blank blank ∧
    readValueRange (gap ++ (text ++ (behind ++ rest))) = _
  rw [readValueRange, skipWs_blank hgap]
  by_cases hscalar : value.isScalar = true
  · obtain ⟨hne, hquiet⟩ := quiet_scalar hvalue hscalar
    refine ⟨text ++ behind, [], ⟨behind, hbehind, .inr hscalar, rfl⟩, hempty, ?_⟩
    cases text with
    | nil => exact absurd rfl hne
    | cons byte tail =>
      have hfirst := hquiet byte List.mem_cons_self
      have hdrop :
        (byte :: tail ++ (behind ++ rest)).dropWhile (fun ch =>
        ch != 0x2C && ch != 0x7D && ch != 0x5D) = rest := by
        have hpass : ∀ ch ∈ byte :: tail ++ behind, (ch != 0x2C && ch != 0x7D && ch != 0x5D) = true := by
          intro ch hch
          simp only [Bool.and_eq_true, bne_iff_ne]
          rcases List.mem_append.1 hch with hmem | hmem
          · obtain ⟨-, hcomma, -, hclose, -, hbrace, -⟩ := hquiet ch hmem
            exact ⟨⟨hcomma, hbrace⟩, hclose⟩
          · rcases hbehind ch hmem with rfl | rfl | rfl | rfl <;> decide
        rw [← List.append_assoc, List.dropWhile_append_of_pos hpass]
        obtain ⟨tail, rfl | rfl⟩ := hrest
        · exact List.dropWhile_cons_of_neg (by decide)
        · exact List.dropWhile_cons_of_neg (by decide)
      rw [List.cons_append, skipWs_cons hfirst.2.2.2.2.2.2, if_neg (List.cons_ne_nil _ _), List.head?_cons,
        if_neg (by simpa using hfirst.1), if_neg (by simpa using hfirst.2.2.2.2.1),
          if_neg (by simpa using hfirst.2.2.1),
        ← List.cons_append, hdrop]
      show some (between (byte :: tail ++ (behind ++ rest)) rest, rest) = _
      rw [← List.append_assoc, between_append, List.nil_append]
  · refine ⟨text, behind, ⟨[], hempty, .inl rfl, (List.append_nil _).symm⟩, hbehind, ?_⟩
    cases hvalue with
    | null => exact absurd rfl hscalar
    | true => exact absurd rfl hscalar
    | false => exact absurd rfl hscalar
    | number hnumber => exact absurd rfl hscalar
    | string hstring =>
      have hparse := parseString_text hstring (behind ++ rest)
      have hskip : skipWs (text ++ (behind ++ rest)) = text ++ (behind ++ rest) ∧
        (text ++ (behind ++ rest)).head? = some 0x22 ∧
          text ++ (behind ++ rest) ≠ [] := by
        cases hstring with
        | mk hbody => exact ⟨skipWs_cons rfl _, rfl, List.cons_ne_nil _ _⟩
      rw [hskip.1, if_neg hskip.2.2, if_pos hskip.2.1, hparse, Option.map_some, between_append]
    | @array vs body hitems =>
      have hcomposite := skipComposite_enclosed (.inr ⟨rfl, rfl⟩) hitems (behind ++ rest)
      have hskip :
        skipWs (0x5B :: (body ++ [0x5D]) ++ (behind ++ rest)) = 0x5B :: (body ++ [0x5D]) ++
        (behind ++ rest) :=
        skipWs_cons rfl _
      rw [hskip, hcomposite, Option.map_some, between_append]
      rfl
    | @object ms body hmembers =>
      have hcomposite := skipComposite_enclosed (.inl ⟨rfl, rfl⟩) hmembers (behind ++ rest)
      have hskip :
        skipWs (0x7B :: (body ++ [0x7D]) ++ (behind ++ rest)) = 0x7B :: (body ++ [0x7D]) ++
        (behind ++ rest) :=
        skipWs_cons rfl _
      rw [hskip, hcomposite, Option.map_some, between_append]
      rfl

/-! ## One object -/

/-- What the lookup answers: nothing if no member has the key, else what is taken for the first that
has it. -/
def Answers (name : List UInt8) (ms : List Member) (answer : Option (List UInt8)) : Prop :=
  match ms.find? fun m => utf8 m.key == name with
  | none => answer = none
  | some m => ∃ taken, Taken m taken ∧ answer = some taken

theorem answers_cons_of_eq {name : List UInt8} {m : Member} {ms : List Member} {taken : List UInt8}
    (h : utf8 m.key = name)
    (htaken : Taken m taken) : Answers name (m :: ms) (some taken) := by
  rw [Answers, List.find?_cons_of_pos (by rw [h]; exact beq_self_eq_true name)]
  exact ⟨taken, htaken, rfl⟩

theorem answers_cons_of_ne {name : List UInt8} {m : Member} {ms : List Member}
    {answer : Option (List UInt8)}
    (h : utf8 m.key ≠ name) : Answers name (m :: ms) answer ↔ Answers name ms answer := by
  rw [Answers, Answers, List.find?_cons_of_neg (by rw [beq_iff_eq]; exact h)]

/-- One turn of the loop of `field_value`, at a member. -/
theorem fieldLoop_member {m : Member} {before key colon gap behind rest : List UInt8}
    (hbefore : Blank before)
    (hkey : StringText key m.key) (hcolon : Blank colon) (hgap : Blank gap)
    (h : Derives (.value m.value) m.text)
    (hbehind : Blank behind) (hrest : Follows rest) (name : List UInt8) :
    ∃ taken blank, Taken m taken ∧ Blank blank ∧
      fieldLoop name (before ++ (key ++ (colon ++ 0x3A :: (gap ++ (m.text ++ (behind ++ rest)))))) =
        if utf8 m.key = name then some taken else fieldLoop name (skipComma (blank ++ rest)) := by
  obtain ⟨taken, blank, htaken, hblank, hread⟩ := readValueRange_value h hgap hbehind hrest
  refine ⟨taken, blank, htaken, hblank, ?_⟩
  have hparse := parseString_text hkey (colon ++ 0x3A :: (gap ++ (m.text ++ (behind ++ rest))))
  have hskip : skipWs (before ++ (key ++ (colon ++ 0x3A :: (gap ++ (m.text ++ (behind ++ rest)))))) =
      key ++ (colon ++ 0x3A :: (gap ++ (m.text ++ (behind ++ rest)))) := by
    rw [skipWs_blank hbefore]
    cases hkey with
    | mk hbody => exact skipWs_cons rfl _
  have hhead : (key ++ (colon ++ 0x3A :: (gap ++ (m.text ++ (behind ++ rest))))).head? ≠ some 0x7D := by
    cases hkey with
    | mk hbody => exact by simp
  have hcolon' : skipWs (colon ++ 0x3A :: (gap ++ (m.text ++ (behind ++ rest)))) =
      0x3A :: (gap ++ (m.text ++ (behind ++ rest))) := by
    rw [skipWs_blank hcolon, skipWs_cons rfl]
  have hlong :
    ¬ (before ++ (key ++ (colon ++ 0x3A :: (gap ++ (m.text ++ (behind ++ rest)))))).length ≤ 1 := by
    cases hkey with
    | mk hbody =>
      simp only [List.length_append, List.length_cons]
      omega
  rw [fieldLoop, if_neg hlong, hskip, if_neg hhead]
  split
  · rename_i hnone
    rw [hparse] at hnone
    cases hnone
  · rename_i hsome
    rw [hparse] at hsome
    cases hsome
    rw [hcolon', if_neg (by simp)]
    split
    · rename_i hnone
      rw [List.drop_succ_cons, List.drop_zero, hread] at hnone
      cases hnone
    · rename_i hsome
      rw [List.drop_succ_cons, List.drop_zero, hread] at hsome
      cases hsome
      rfl

theorem skipComma_comma {blank : List UInt8} (h : Blank blank) (rest : List UInt8) :
    skipComma (blank ++ 0x2C :: rest) = rest := by
  rw [skipComma, skipWs_blank h, skipWs_cons rfl, List.head?_cons,
    if_pos rfl, List.drop_succ_cons, List.drop_zero]

theorem skipComma_brace {blank : List UInt8} (h : Blank blank) : skipComma (blank ++ [0x7D]) = [0x7D] := by
  rw [skipComma, skipWs_blank h, skipWs_cons rfl, List.head?_cons, if_neg (by simp)]

/-- The loop of `field_value` finds the first member with the key. -/
theorem fieldLoop_members {ms : List Member} {body : List UInt8} (h : Derives (.members ms) body)
    (name : List UInt8) :
    Answers name ms (fieldLoop name (body ++ [0x7D])) := by
  induction ms generalizing body with
  | nil =>
    cases h with
    | noMembers hblank =>
      show fieldLoop name (body ++ [0x7D]) = none
      rw [fieldLoop]
      by_cases hshort : (body ++ [0x7D]).length ≤ 1
      · rw [if_pos hshort]
      · rw [if_neg hshort, skipWs_blank hblank, skipWs_cons rfl, List.head?_cons, if_pos rfl]
  | cons m ms ih =>
    cases h with
    | lastMember hbefore hkey hcolon hgap h hbehind =>
      obtain ⟨taken, blank, htaken, hblank, hloop⟩ :=
        fieldLoop_member hbefore hkey hcolon hgap h hbehind ⟨[], .inr rfl⟩ name
      simp only [List.append_assoc, List.cons_append]
      rw [hloop]
      by_cases hname : utf8 m.key = name
      · rw [if_pos hname]
        exact answers_cons_of_eq hname htaken
      · rw [if_neg hname, answers_cons_of_ne hname, skipComma_brace hblank, fieldLoop,
          List.length_singleton, if_pos (Nat.le_refl 1)]
        rfl
    | member hbefore hkey hcolon hgap h hbehind hrest =>
      rename_i next ms before key colon gap behind rest
      obtain ⟨taken, blank, htaken, hblank, hloop⟩ :=
        fieldLoop_member hbefore hkey hcolon hgap h hbehind ⟨rest ++ [0x7D], .inl rfl⟩ name
      simp only [List.append_assoc, List.cons_append]
      rw [hloop]
      by_cases hname : utf8 m.key = name
      · rw [if_pos hname]
        exact answers_cons_of_eq hname htaken
      · rw [if_neg hname, answers_cons_of_ne hname, skipComma_comma hblank]
        exact ih hrest

/-- `trim` takes the blanks around an object away. -/
theorem trim_object {before body behind : List UInt8} (hbefore : Blank before) (hbehind : Blank behind) :
    trim (before ++ 0x7B :: (body ++ 0x7D :: behind)) = 0x7B :: (body ++ [0x7D]) := by
  have hfront :
    (before ++ 0x7B :: (body ++ 0x7D :: behind)).dropWhile isSpace = 0x7B :: (body ++ 0x7D :: behind) :=
    (skipWs_blank hbefore _).trans (skipWs_cons rfl _)
  have hreverse :
    (0x7B :: (body ++ 0x7D :: behind)).reverse = behind.reverse ++ 0x7D :: (0x7B :: body).reverse := by
    simp
  have hback : Blank behind.reverse := fun byte hbyte => hbehind byte (List.mem_reverse.1 hbyte)
  have hend :
    (behind.reverse ++ 0x7D :: (0x7B :: body).reverse).dropWhile isSpace = 0x7D :: (0x7B :: body).reverse :=
    (skipWs_blank hback _).trans (skipWs_cons rfl _)
  rw [trim, hfront, hreverse, hend]
  simp

theorem fieldValue_object {text : List UInt8} {ms : List Member} (h : ObjectText text ms)
    (name : List UInt8) :
    Answers name ms (fieldValue text name) := by
  cases h with
  | mk hbefore hmembers hbehind =>
    rename_i before body behind
    have hshape : ¬ ((0x7B :: (body ++ [0x7D])).length < 2 ∨ (0x7B :: (body ++ [0x7D])).head? ≠ some 0x7B ∨
        (0x7B :: (body ++ [0x7D])).getLast? ≠ some 0x7D) := by
      simp [List.getLast?_cons]
    rw [fieldValue]
    simp only [trim_object hbefore hbehind]
    rw [if_neg hshape, List.drop_succ_cons, List.drop_zero]
    exact fieldLoop_members hmembers name

/-- **Field lookup is right on JSON.** -/
theorem field_lookup_correct :
    (∀ text ms, ObjectText text ms → ∀ name,
      (fieldValue text name = none ↔ ∀ m ∈ ms, utf8 m.key ≠ name) ∧
        ∀ m, ms.find? (fun m => utf8 m.key == name) = some m → ∃ blank, Blank blank ∧
          (blank = [] ∨ m.value.isScalar = true) ∧ fieldValue text name = some (m.text ++ blank)) ∧
    ∀ before text chars behind, Blank before → StringText text chars → Blank behind →
      stringValue (before ++ text ++ behind) = some (utf8 chars) := by
  constructor
  · intro text ms h name
    have hanswers := fieldValue_object h name
    rw [Answers] at hanswers
    cases hfind : ms.find? fun m => utf8 m.key == name with
    | none =>
      rw [hfind] at hanswers
      rw [List.find?_eq_none] at hfind
      refine ⟨⟨fun _ m hm heq => hfind m hm (beq_iff_eq.2 heq), fun _ => hanswers⟩, ?_⟩
      intro m hm
      cases hm
    | some m =>
      rw [hfind] at hanswers
      obtain ⟨taken, ⟨blank, hblank, hscalar, rfl⟩, hanswer⟩ := hanswers
      have hkey : utf8 m.key = name := by
        have hsome := List.find?_some hfind
        exact beq_iff_eq.1 hsome
      constructor
      · rw [hanswer]
        exact ⟨fun hnone => (by cases hnone),
          fun hall => absurd hkey (hall m (List.mem_of_find?_eq_some hfind))⟩
      · intro other hother
        cases hother
        exact ⟨blank, hblank, hscalar, hanswer⟩
  · intro before text chars behind hbefore h hbehind
    have hempty : skipWs behind = [] := by
      rw [← List.append_nil behind, skipWs_blank hbehind]
      rfl
    have hparse : parseString (before ++ text ++ behind) = some (utf8 chars, behind) := by
      have hskip := skipWs_blank hbefore (text ++ behind)
      rw [← parseString_text h behind, List.append_assoc, parseString, parseString, hskip]
    rw [stringValue, hparse]
    exact if_pos hempty

/-- `"a"` with its letter written as an escape. -/
theorem stringText_escaped : StringText [0x22, 0x5C, 0x75, 0x30, 0x30, 0x36, 0x31, 0x22] ['a'] := by
  have hunit : HexUnit [0x30, 0x30, 0x36, 0x31] 'a'.toNat :=
    @HexUnit.mk 0x30 0x30 0x36 0x31 0 0 6 1 rfl rfl rfl rfl
  have hbody : StringBody ([0x5C, 0x75, 0x30, 0x30, 0x36, 0x31] ++ []) ['a'] := .cons (.unit hunit) .nil
  exact .mk hbody

/-- The object with that key, and a blank behind its number. -/
theorem objectText_escaped :
    ObjectText [0x7B, 0x22, 0x5C, 0x75, 0x30, 0x30, 0x36, 0x31, 0x22, 0x3A, 0x31, 0x20, 0x7D]
      [⟨['a'], [0x31], .number [0x31]⟩] := by
  have hempty : Blank [] := fun byte hbyte => absurd hbyte List.not_mem_nil
  have hspace : Blank [0x20] := fun byte hbyte => .inl (List.mem_singleton.1 hbyte)
  have hdigits : Digits [0x31] :=
    ⟨List.cons_ne_nil _ _, fun byte hbyte => List.mem_singleton.1 hbyte ▸ ⟨by decide, by decide⟩⟩
  have hnumber : NumberText ([] ++ [0x31] ++ [] ++ []) :=
    .mk (.inl rfl) ⟨hdigits, fun h => absurd h (by decide)⟩ (.inl rfl) (.inl rfl)
  have hmember := @Derives.lastMember ⟨['a'], [0x31], .number [0x31]⟩ [] _ [] []
    [0x20] hempty stringText_escaped hempty hempty
    (.number hnumber) hspace
  exact @ObjectText.mk [] _ [] _ hempty hmember hempty

theorem field_lookup_correct_escaped :
    (∃ blank, Blank blank ∧
      fieldValue [0x7B, 0x22, 0x5C, 0x75, 0x30, 0x30, 0x36, 0x31, 0x22, 0x3A, 0x31, 0x20, 0x7D]
        (ascii "a") = some (ascii "1" ++ blank)) ∧
      stringValue [0x22, 0x5C, 0x75, 0x30, 0x30, 0x36, 0x31, 0x22, 0x20] = some (ascii "a") := by
  have hempty : Blank [] := fun byte hbyte => absurd hbyte List.not_mem_nil
  have hspace : Blank [0x20] := fun byte hbyte => .inl (List.mem_singleton.1 hbyte)
  constructor
  · obtain ⟨blank, hblank, -, hvalue⟩ := (field_lookup_correct.1 _ _ objectText_escaped (ascii "a")).2 _ rfl
    exact ⟨blank, hblank, hvalue⟩
  · exact field_lookup_correct.2 [] _ ['a'] [0x20] hempty stringText_escaped hspace

end CodexKeyboard.Keyboard
