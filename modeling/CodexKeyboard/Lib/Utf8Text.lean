import CodexKeyboard.Lib.Json
/-!
# Texts of UTF-8 bytes

The byte strings that are texts: every text the grammar of JSON derives is one (`Derives.isUtf8`).
-/

namespace Lib

def IsUtf8 (bytes : List UInt8) : Prop := ∃ chars, bytes = utf8 chars

theorem isUtf8_nil : IsUtf8 [] := ⟨[], rfl⟩

theorem IsUtf8.append {left right : List UInt8} : IsUtf8 left → IsUtf8 right → IsUtf8 (left ++ right) := by
  rintro ⟨before, rfl⟩ ⟨after, rfl⟩
  exact ⟨before ++ after, (utf8_append before after).symm⟩

/-- A byte below 0x80 is a character. -/
theorem utf8_ascii {byte : UInt8} (h : byte.toNat ≤ 0x7F) : utf8 [Char.ofNat byte.toNat] = [byte] := by
  have hcode : (Char.ofNat byte.toNat).toNat = byte.toNat := by
    rw [Char.ofNat, dif_pos (Or.inl (by omega))]
    rfl
  rw [utf8_cons, utf8_nil, List.append_nil, utf8EncodeChar_of_le (by omega), hcode, UInt8.ofNat_toNat]

theorem isUtf8_ascii {bytes : List UInt8} (h : ∀ byte ∈ bytes, byte.toNat ≤ 0x7F) : IsUtf8 bytes := by
  induction bytes with
  | nil => exact isUtf8_nil
  | cons byte bytes ih =>
    have hbyte : IsUtf8 [byte] := ⟨_, (utf8_ascii (h byte List.mem_cons_self)).symm⟩
    exact hbyte.append (ih fun b hb => h b (List.mem_cons_of_mem _ hb))

theorem IsUtf8.cons {byte : UInt8} {rest : List UInt8} (h : byte.toNat ≤ 0x7F)
    (hrest : IsUtf8 rest) : IsUtf8 (byte :: rest) :=
  IsUtf8.append ⟨_, (utf8_ascii h).symm⟩ hrest

/-! ## Texts of the grammar -/

theorem hexValue_ascii {byte : UInt8} {n : Nat} (h : hexValue byte = some n) : byte.toNat ≤ 0x7F := by
  rw [hexValue] at h
  split at h
  · omega
  · split at h
    · omega
    · split at h
      · omega
      · cases h

theorem HexUnit.isUtf8 {hex : List UInt8} {n : Nat} (h : HexUnit hex n) : IsUtf8 hex := by
  cases h with
  | mk ha hb hc hd =>
    refine isUtf8_ascii fun byte hbyte => ?_
    simp only [List.mem_cons, List.not_mem_nil, or_false] at hbyte
    rcases hbyte with rfl | rfl | rfl | rfl
    · exact hexValue_ascii ha
    · exact hexValue_ascii hb
    · exact hexValue_ascii hc
    · exact hexValue_ascii hd

theorem StringChar.isUtf8 {raw : List UInt8} {c : Char} (h : StringChar raw c) : IsUtf8 raw := by
  have hescape : ∀ rest, IsUtf8 rest → IsUtf8 (0x5C :: 0x75 :: rest) := fun rest hrest =>
    IsUtf8.cons (by decide) (IsUtf8.cons (by decide) hrest)
  cases h with
  | literal => exact ⟨[c], (List.append_nil _).symm⟩
  | short hmem =>
    refine isUtf8_ascii fun byte hbyte => ?_
    have hshort : ∀ entry ∈ shortEscapes, entry.1.toNat ≤ 0x7F := by decide
    simp only [List.mem_cons, List.not_mem_nil, or_false] at hbyte
    rcases hbyte with rfl | rfl
    · decide
    · exact hshort _ hmem
  | unit hhex => exact hescape _ hhex.isUtf8
  | pair hhigh hlow => exact hescape _ (hhigh.isUtf8.append (hescape _ hlow.isUtf8))

theorem StringBody.isUtf8 {body : List UInt8} {chars : List Char} (h : StringBody body chars) :
    IsUtf8 body := by
  induction h with
  | nil => exact isUtf8_nil
  | cons head _ ih => exact head.isUtf8.append ih

theorem StringText.isUtf8 {text : List UInt8} {chars : List Char} : StringText text chars → IsUtf8 text
  | .mk h => IsUtf8.cons (by decide) (h.isUtf8.append (isUtf8_ascii (by decide +kernel)))

theorem Blank.isUtf8 {text : List UInt8} (h : Blank text) : IsUtf8 text := by
  refine isUtf8_ascii fun byte hbyte => ?_
  rcases h byte hbyte with rfl | rfl | rfl | rfl <;> decide

theorem Digits.isUtf8 {text : List UInt8} (h : Digits text) : IsUtf8 text :=
  isUtf8_ascii fun byte hbyte => Nat.le_trans (h.2 byte hbyte).2 (by decide)

theorem NumberText.isUtf8 {text : List UInt8} (h : NumberText text) : IsUtf8 text := by
  cases h with
  | mk hsign hinteger hfraction hexponent =>
    refine ((IsUtf8.append ?_ hinteger.1.isUtf8).append ?_).append ?_
    · rcases hsign with rfl | rfl
      · exact isUtf8_nil
      · exact isUtf8_ascii (by decide +kernel)
    · rcases hfraction with rfl | ⟨digits, hdigits, rfl⟩
      · exact isUtf8_nil
      · exact IsUtf8.cons (by decide) hdigits.isUtf8
    · rcases hexponent with rfl | ⟨e, sign, digits, he, hsign, hdigits, rfl⟩
      · exact isUtf8_nil
      · refine IsUtf8.cons ?_ (IsUtf8.append ?_ hdigits.isUtf8)
        · rcases he with rfl | rfl <;> decide
        · rcases hsign with rfl | rfl | rfl <;> exact isUtf8_ascii (by decide +kernel)

/-- **What the grammar derives is a text.** -/
theorem Derives.isUtf8 {phrase : Phrase} {text : List UInt8} (h : Derives phrase text) : IsUtf8 text := by
  induction h with
  | null => exact isUtf8_ascii (by decide +kernel)
  | true => exact isUtf8_ascii (by decide +kernel)
  | false => exact isUtf8_ascii (by decide +kernel)
  | number h => exact h.isUtf8
  | string h => exact h.isUtf8
  | array _ ih => exact IsUtf8.cons (by decide) (ih.append (isUtf8_ascii (by decide +kernel)))
  | object _ ih => exact IsUtf8.cons (by decide) (ih.append (isUtf8_ascii (by decide +kernel)))
  | noItems h => exact h.isUtf8
  | lastItem hbefore _ hbehind ih => exact (hbefore.isUtf8.append ih).append hbehind.isUtf8
  | item hbefore _ hbehind _ ih ihrest =>
    exact ((hbefore.isUtf8.append ih).append hbehind.isUtf8).append (IsUtf8.cons (by decide) ihrest)
  | noMembers h => exact h.isUtf8
  | lastMember hbefore hkey hcolon hgap _ hbehind ih =>
    exact ((hbefore.isUtf8.append hkey.isUtf8).append hcolon.isUtf8).append
      (IsUtf8.cons (by decide) ((hgap.isUtf8.append ih).append hbehind.isUtf8))
  | member hbefore hkey hcolon hgap _ hbehind _ ih ihrest =>
    exact ((hbefore.isUtf8.append hkey.isUtf8).append hcolon.isUtf8).append (IsUtf8.cons (by decide)
      (((hgap.isUtf8.append ih).append hbehind.isUtf8).append (IsUtf8.cons (by decide) ihrest)))

theorem ObjectText.isUtf8 {text : List UInt8} {members : List Member} :
    ObjectText text members → IsUtf8 text
  | .mk hbefore h hbehind => hbefore.isUtf8.append (IsUtf8.cons (by decide)
      (h.isUtf8.append (IsUtf8.cons (by decide) hbehind.isUtf8)))

end Lib
