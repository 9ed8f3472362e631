import Mathlib.Data.List.Basic
/-!
# The bits of a word

A 64-bit word as a set of offsets. Shifting the word moves the set up and forgets what leaves the
word (`bit_shiftLeft_or_one`), a mask adds its own offset and no other (`bit_or_mask`), and testing
a mask reads one bit (`and_mask_ne_zero`).
-/

namespace Lib.Mask

/-- Bit `offset` of a word. -/
def bit (word : UInt64) (offset : Nat) : Bool := word.toBitVec.getLsbD offset

theorem bit_zero (offset : Nat) : bit 0 offset = false := by
  simp [bit]

theorem bit_one (offset : Nat) : bit 1 offset = decide (offset = 0) := by
  simp [bit]

theorem toBitVec_shiftLeft_of_lt (word : UInt64) {shift : UInt64} (h : shift.toNat < 64) :
    (word <<< shift).toBitVec = word.toBitVec <<< shift.toNat := by
  rw [UInt64.toBitVec_shiftLeft, BitVec.shiftLeft_eq', BitVec.toNat_umod, UInt64.toNat_toBitVec]
  congr 1
  exact Nat.mod_eq_of_lt h

/-- Moving the set up by `shift` and adding 0. -/
theorem bit_shiftLeft_or_one (word : UInt64) {shift : UInt64} (h : shift.toNat < 64) {offset : Nat}
    (hoffset : offset < 64) :
    bit (word <<< shift ||| 1) offset = true ↔
      offset = 0 ∨ shift.toNat ≤ offset ∧ bit word (offset - shift.toNat) = true := by
  have hone := bit_one offset
  rw [bit] at hone
  rw [bit, UInt64.toBitVec_or, BitVec.getLsbD_or, toBitVec_shiftLeft_of_lt word h,
    BitVec.getLsbD_shiftLeft, hone]
  simp [hoffset, bit, or_comm]

theorem bit_mask {offset : UInt64} (h : offset.toNat < 64) (other : Nat) :
    bit ((1 : UInt64) <<< offset) other = decide (other = offset.toNat) := by
  have hone := bit_one (other - offset.toNat)
  rw [bit] at hone
  rw [bit, toBitVec_shiftLeft_of_lt 1 h, BitVec.getLsbD_shiftLeft, hone, Bool.eq_iff_iff]
  simp
  omega

theorem bit_or_mask (word : UInt64) {offset : UInt64} (h : offset.toNat < 64) (other : Nat) :
    bit (word ||| (1 : UInt64) <<< offset) other = true ↔ bit word other = true ∨ other = offset.toNat := by
  have hmask := bit_mask h other
  rw [bit] at hmask
  rw [bit, UInt64.toBitVec_or, BitVec.getLsbD_or, hmask, Bool.or_eq_true, decide_eq_true_eq]
  rfl

theorem and_mask_ne_zero (word : UInt64) {offset : UInt64} (h : offset.toNat < 64) :
    word &&& (1 : UInt64) <<< offset ≠ 0 ↔ bit word offset.toNat = true := by
  constructor
  · intro hne
    by_contra hclear
    apply hne
    rw [← UInt64.toBitVec_inj]
    ext i hi
    have hmask := bit_mask h i
    rw [bit, BitVec.getLsbD_eq_getElem hi] at hmask
    rw [UInt64.toBitVec_and, BitVec.getElem_and, hmask]
    by_cases heq : i = offset.toNat
    · subst heq
      rw [bit, BitVec.getLsbD_eq_getElem hi] at hclear
      simp [hclear]
    · simp [heq]
  · intro hset hzero
    have hmask := bit_mask h offset.toNat
    have hbits := congrArg (fun word => word.toBitVec.getLsbD offset.toNat) hzero
    rw [bit] at hset hmask
    rw [UInt64.toBitVec_and, BitVec.getLsbD_and, hset, hmask] at hbits
    simp at hbits

end Lib.Mask
