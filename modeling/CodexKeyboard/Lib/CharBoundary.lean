import CodexKeyboard.Lib.Json
/-!
# Boundaries between characters

Where a text of UTF-8 bytes may be cut: in front of every byte that begins a character, and at the
end. The boundaries of `utf8 text` are the lengths of the beginnings of `text`
(`isCharBoundary_utf8`), so a cut at a boundary leaves two texts.
-/

namespace Lib

instance (byte : UInt8) : Decidable (IsTail byte) := inferInstanceAs (Decidable (_ ∧ _))

/-- The bytes may be cut at `index`. -/
def isCharBoundary (bytes : List UInt8) (index : Nat) : Bool :=
  if index = 0 then true
  else match bytes[index]? with
    | none => decide (index = bytes.length)
    | some byte => !decide (IsTail byte)

/-- `bytes[..index]`; a cut inside a character fails. -/
def sliceTo (bytes : List UInt8) (index : Nat) : Option (List UInt8) :=
  if isCharBoundary bytes index then some (bytes.take index) else none

/-- `bytes[index..]`; a cut inside a character fails. -/
def sliceFrom (bytes : List UInt8) (index : Nat) : Option (List UInt8) :=
  if isCharBoundary bytes index then some (bytes.drop index) else none

/-- A character is a byte that is no tail and tails behind it. -/
theorem utf8EncodeChar_shape (c : Char) :
    ∃ lead tails, String.utf8EncodeChar c = lead :: tails ∧ ¬ IsTail lead ∧
    ∀ byte ∈ tails, IsTail byte := by
  by_cases hnarrow : c.toNat ≤ 0x7F
  · refine ⟨UInt8.ofNat c.toNat, [], utf8EncodeChar_of_le hnarrow, ?_, by simp⟩
    rw [IsTail, toNat_ofNat_of_lt (by omega)]
    omega
  · have hwide := utf8EncodeChar_wide (Nat.lt_of_not_le hnarrow)
    generalize String.utf8EncodeChar c = bytes at hwide
    have hlead : ∀ lead : UInt8, 0xC2 ≤ lead.toNat → ¬ IsTail lead := by
      intro lead hlow htail
      exact absurd htail.2 (by omega)
    cases hwide with
    | two hlow _ hsecond => exact ⟨_, _, rfl, hlead _ hlow, by simp [hsecond]⟩
    | three hlow _ hsecond hthird _ _ => exact ⟨_, _, rfl, hlead _ (by omega), by simp [hsecond, hthird]⟩
    | four hlow _ hsecond hthird hfourth _ _ =>
      exact ⟨_, _, rfl, hlead _ (by omega), by simp [hsecond, hthird, hfourth]⟩

/-- No byte that a character goes on with stands at `index`, which is not behind the end. -/
def BeginsAt (bytes : List UInt8) (index : Nat) : Prop :=
  index ≤ bytes.length ∧ ∀ byte, bytes[index]? = some byte → ¬ IsTail byte

theorem beginsAt_utf8 : ∀ {text : List Char} {index : Nat},
    BeginsAt (utf8 text) index ↔ ∃ before after, text = before ++ after ∧ (utf8 before).length = index
  | [], index => by
    constructor
    · rintro ⟨hle, -⟩
      exact ⟨[], [], rfl, (Nat.le_zero.mp hle).symm⟩
    · rintro ⟨before, after, heq, rfl⟩
      rw [(List.append_eq_nil_iff.mp heq.symm).1]
      exact ⟨Nat.le_refl _, by simp⟩
  | c :: text, index => by
    obtain ⟨lead, tails, hbytes, hlead, htails⟩ := utf8EncodeChar_shape c
    rw [utf8_cons, hbytes]
    by_cases hinside : index < (lead :: tails).length
    · cases index with
      | zero =>
        constructor
        · intro _
          exact ⟨[], c :: text, rfl, rfl⟩
        · intro _
          refine ⟨Nat.zero_le _, fun byte hbyte => ?_⟩
          cases hbyte
          exact hlead
      | succ index =>
        constructor
        · rintro ⟨-, hfirst⟩
          have hindex : index < tails.length := Nat.lt_of_succ_lt_succ hinside
          have hget : ((lead :: tails) ++ utf8 text)[index + 1]? = some tails[index] := by
            rw [List.getElem?_append_left hinside, List.getElem?_cons_succ, List.getElem?_eq_getElem hindex]
          exact absurd (htails _ (List.getElem_mem hindex)) (hfirst _ hget)
        · rintro ⟨before, after, heq, hlength⟩
          cases before with
          | nil => cases hlength
          | cons d before =>
            obtain ⟨rfl, -⟩ := List.cons.inj heq
            rw [utf8_cons, hbytes, List.length_append] at hlength
            omega
    · have hout : (lead :: tails).length ≤ index := Nat.le_of_not_lt hinside
      have hstep : BeginsAt ((lead :: tails) ++ utf8 text) index ↔
        BeginsAt (utf8 text) (index - (lead :: tails).length) := by
        rw [BeginsAt, BeginsAt, List.getElem?_append_right hout, List.length_append]
        exact and_congr_left fun _ => by omega
      rw [hstep, beginsAt_utf8]
      constructor
      · rintro ⟨before, after, rfl, hlength⟩
        refine ⟨c :: before, after, rfl, ?_⟩
        rw [utf8_cons, hbytes, List.length_append]
        omega
      · rintro ⟨before, after, heq, hlength⟩
        cases before with
        | nil =>
          rw [← hlength] at hout
          simp at hout
        | cons d before =>
          obtain ⟨rfl, rfl⟩ := List.cons.inj heq
          refine ⟨before, after, rfl, ?_⟩
          rw [utf8_cons, hbytes, List.length_append] at hlength
          omega

theorem isCharBoundary_iff {bytes : List UInt8} {index : Nat} (hzero : BeginsAt bytes 0) :
    isCharBoundary bytes index = true ↔ BeginsAt bytes index := by
  unfold isCharBoundary
  by_cases hindex : index = 0
  · subst hindex
    simp [hzero]
  rw [if_neg hindex]
  cases hget : bytes[index]? with
  | none =>
    have hlength := List.getElem?_eq_none_iff.mp hget
    simp only [decide_eq_true_eq, BeginsAt, hget]
    constructor
    · intro heq
      exact ⟨by omega, by simp⟩
    · rintro ⟨hle, -⟩
      omega
  | some byte =>
    obtain ⟨hlt, -⟩ := List.getElem?_eq_some_iff.mp hget
    simp only [BeginsAt, hget, Option.some.injEq, forall_eq', Bool.not_eq_true', decide_eq_false_iff_not]
    constructor
    · intro hbegin
      exact ⟨by omega, hbegin⟩
    · exact fun h => h.2

/-- **Where a text may be cut.** The boundaries are the lengths of the beginnings of the text. -/
theorem isCharBoundary_utf8 {text : List Char} {index : Nat} :
    isCharBoundary (utf8 text) index = true ↔ ∃ before after, text = before ++ after ∧
    (utf8 before).length = index := by
  have hzero : BeginsAt (utf8 text) 0 := beginsAt_utf8.mpr ⟨[], text, rfl, rfl⟩
  rw [isCharBoundary_iff hzero]
  exact beginsAt_utf8

/-- A cut behind a beginning takes that beginning. -/
theorem sliceTo_utf8 (before after : List Char) :
    sliceTo (utf8 (before ++ after)) (utf8 before).length = some (utf8 before) := by
  rw [sliceTo, if_pos (isCharBoundary_utf8.mpr ⟨before, after, rfl, rfl⟩), utf8_append, List.take_left]

theorem sliceFrom_utf8 (before after : List Char) :
    sliceFrom (utf8 (before ++ after)) (utf8 before).length = some (utf8 after) := by
  rw [sliceFrom, if_pos (isCharBoundary_utf8.mpr ⟨before, after, rfl, rfl⟩), utf8_append, List.drop_left]

end Lib
