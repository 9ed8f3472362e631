import Mathlib.Data.List.Basic
/-!
# Sets of bits in words

A set of numbers as the bits of a list of 64-bit words. What was inserted is a member
(`member_insert_self`), and inserting removes nothing (`member_insert`), so a filter built from
several such bits only ever grows.
-/

namespace Lib.BitSet

def mask (bit : Nat) : UInt64 := 1 <<< UInt64.ofNat (bit % 64)

def member (words : List UInt64) (bit : Nat) : Bool := words.getD (bit / 64) 0 &&& mask bit != 0

def insert (words : List UInt64) (bit : Nat) : List UInt64 := words.modify (bit / 64) (· ||| mask bit)

@[simp] theorem length_insert (words : List UInt64) (bit : Nat) :
    (insert words bit).length = words.length := by
  simp [insert]

theorem mask_ne_zero (bit : Nat) : mask bit ≠ 0 := by
  have hall : ∀ i : Fin 64, (1 : UInt64) <<< UInt64.ofNat i.val ≠ 0 := by decide
  exact hall ⟨bit % 64, Nat.mod_lt _ (by omega)⟩

theorem getD_insert {words : List UInt64} {bit index : Nat} (hindex : index < words.length) :
    (insert words bit).getD index 0 = if bit / 64 = index then words.getD index 0 ||| mask bit else
      words.getD index 0 := by
  simp only [insert, List.getD_eq_getElem?_getD, List.getElem?_modify, List.getElem?_eq_getElem hindex]
  split <;> rfl

theorem or_and_distrib (left right mask : UInt64) :
    (left ||| right) &&& mask = left &&& mask ||| right &&& mask := by
  rw [← UInt64.toBitVec_inj]
  ext i hi
  simp [Bool.and_or_distrib_right]

theorem and_or_ne_zero {word other mask : UInt64} (h : word &&& mask ≠ 0) :
    (word ||| other) &&& mask ≠ 0 := by
  intro hzero
  rw [or_and_distrib, UInt64.or_eq_zero_iff] at hzero
  exact h hzero.1

theorem member_insert_self {words : List UInt64} {bit : Nat} (hbit : bit / 64 < words.length) :
    member (insert words bit) bit = true := by
  have hself : (words.getD (bit / 64) 0 ||| mask bit) &&& mask bit ≠ 0 := by
    rw [UInt64.or_comm]
    exact and_or_ne_zero (UInt64.and_self ▸ mask_ne_zero bit)
  rw [member, getD_insert hbit, if_pos rfl]
  simpa using hself

theorem member_insert {words : List UInt64} {bit other : Nat} (h : member words bit = true) :
    member (insert words other) bit = true := by
  simp only [member, bne_iff_ne, ne_eq] at h ⊢
  have hbit : bit / 64 < words.length := by
    by_contra hout
    rw [List.getD_eq_getElem?_getD, List.getElem?_eq_none (Nat.not_lt.mp hout)] at h
    exact h (UInt64.zero_and)
  rw [getD_insert hbit]
  split
  · exact and_or_ne_zero h
  · exact h

end Lib.BitSet
