import Mathlib.Data.List.Basic
/-!
# Bitmaps

A set of numbers as the bits of a list of bytes, the lowest bit first. Marking a number adds exactly
that number (`member_mark`), and two bitmaps of one length with the same members are equal (`ext`).
-/

namespace Lib.Bitmap

def mask (index : Nat) : UInt8 := 1 <<< UInt8.ofNat (index % 8)

def member (bytes : List UInt8) (index : Nat) : Bool := bytes.getD (index / 8) 0 &&& mask index != 0

def mark (bytes : List UInt8) (index : Nat) : List UInt8 := bytes.modify (index / 8) (· ||| mask index)

@[simp] theorem length_mark (bytes : List UInt8) (index : Nat) :
    (mark bytes index).length = bytes.length := by
  simp [mark]

/-! ## One byte -/

theorem toBitVec_mask (index : Nat) : (mask index).toBitVec = BitVec.twoPow 8 (index % 8) := by
  have hall :
    ∀ bit : Fin 8, ((1 : UInt8) <<< UInt8.ofNat bit.val).toBitVec = BitVec.twoPow 8 bit.val := by decide
  exact hall ⟨index % 8, Nat.mod_lt _ (by omega)⟩

theorem and_mask (byte : UInt8) (index : Nat) :
    (byte &&& mask index != 0) = byte.toBitVec.getLsbD (index % 8) := by
  have hbit : index % 8 < 8 := Nat.mod_lt _ (by omega)
  rw [Bool.eq_iff_iff, bne_iff_ne, ne_eq, ← UInt8.toBitVec_inj,
    UInt8.toBitVec_and, toBitVec_mask, BitVec.and_twoPow]
  split
  · rename_i hset
    have hne : BitVec.twoPow 8 (index % 8) ≠ 0#8 := by
      intro hzero
      have := congrArg (fun word => word.getLsbD (index % 8)) hzero
      simp [hbit] at this
    simpa [hset] using hne
  · rename_i hclear
    simp [hclear]

theorem getLsbD_or_mask (byte : UInt8) (index bit : Nat) :
    (byte ||| mask index).toBitVec.getLsbD bit =
      (byte.toBitVec.getLsbD bit || decide (index % 8 = bit)) := by
  have hbit : index % 8 < 8 := Nat.mod_lt _ (by omega)
  rw [UInt8.toBitVec_or, BitVec.getLsbD_or, toBitVec_mask, BitVec.getLsbD_twoPow]
  simp [hbit]

/-! ## The whole bitmap -/

theorem member_eq (bytes : List UInt8) (index : Nat) :
    member bytes index = (bytes.getD (index / 8) 0).toBitVec.getLsbD (index % 8) := and_mask ..

@[simp] theorem member_replicate (n index : Nat) : member (List.replicate n 0) index = false := by
  rw [member_eq, List.getD_eq_getElem?_getD, List.getElem?_replicate]
  split <;> simp

theorem getD_mark {bytes : List UInt8} {index : Nat} (h : index / 8 < bytes.length) (i : Nat) :
    (mark bytes index).getD i 0 = if index / 8 = i then bytes.getD i 0 ||| mask index else
      bytes.getD i 0 := by
  simp only [mark, List.getD_eq_getElem?_getD, List.getElem?_modify]
  by_cases hi : index / 8 = i
  · subst hi
    simp [h]
  · simp [hi]

theorem member_mark {bytes : List UInt8} {index : Nat} (h : index / 8 < bytes.length) (other : Nat) :
    member (mark bytes index) other = true ↔ member bytes other = true ∨ other = index := by
  rw [member_eq, member_eq, getD_mark h]
  split
  · rename_i hword
    rw [getLsbD_or_mask, Bool.or_eq_true, decide_eq_true_eq]
    exact or_congr Iff.rfl ⟨fun hbit => by omega, fun heq => by omega⟩
  · rename_i hword
    exact ⟨.inl, fun hmem => hmem.resolve_right fun heq => hword (heq ▸ rfl)⟩

theorem member_drop_take {bytes : List UInt8} {offset n index : Nat} (h : index < 8 * n) :
    member ((bytes.drop offset).take n) index = member bytes (8 * offset + index) := by
  have hdiv : (8 * offset + index) / 8 = offset + index / 8 := by omega
  have hmod : (8 * offset + index) % 8 = index % 8 := by omega
  rw [member_eq, member_eq, hdiv, hmod, List.getD_eq_getElem?_getD, List.getD_eq_getElem?_getD,
    List.getElem?_take_of_lt (by omega), List.getElem?_drop]

theorem ext {left right : List UInt8} (hlen : left.length = right.length)
    (h : ∀ index, index / 8 < left.length → member left index = member right index) : left = right := by
  apply List.ext_getElem hlen
  intro i hl hr
  rw [← UInt8.toBitVec_inj]
  ext bit hbit
  have hdiv : (8 * i + bit) / 8 = i := by omega
  have hmod : (8 * i + bit) % 8 = bit := by omega
  have hmem := h (8 * i + bit) (by omega)
  rw [member_eq, member_eq, hdiv, hmod, List.getD_eq_getElem?_getD, List.getD_eq_getElem?_getD,
    List.getElem?_eq_getElem hl, List.getElem?_eq_getElem hr] at hmem
  exact hmem

end Lib.Bitmap
