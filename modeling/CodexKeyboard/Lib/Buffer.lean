import Mathlib.Data.List.Basic
import Mathlib.Tactic.Ring
/-!
# Byte buffers and little-endian integers

A buffer is a list of bytes of fixed length. `put` writes bytes at an offset, one after the other;
`slice` reads them. What was written is read back (`slice_put_self`), reads elsewhere do not see it
(`slice_put_of_disjoint`), and a buffer is determined by consecutive slices that cover it
(`eq_of_fields`). On top of that, integers of a fixed width.
-/

namespace Lib.Buffer

/-- Writes `bytes` from `offset` on, as far as the buffer reaches. -/
def put : List UInt8 → Nat → List UInt8 → List UInt8
  | buffer, _, [] => buffer
  | buffer, offset, byte :: bytes => put (buffer.set offset byte) (offset + 1) bytes

/-- The `n` bytes from `offset` on. -/
def slice (buffer : List UInt8) (offset n : Nat) : List UInt8 := (buffer.drop offset).take n

@[simp] theorem length_put (buffer : List UInt8) (offset : Nat) (bytes : List UInt8) :
    (put buffer offset bytes).length = buffer.length := by
  induction bytes generalizing buffer offset with
  | nil => rfl
  | cons byte bytes ih => rw [put, ih, List.length_set]

@[simp] theorem length_slice (buffer : List UInt8) (offset n : Nat) :
    (slice buffer offset n).length = min n (buffer.length - offset) := by simp [slice]

theorem getElem?_put (buffer : List UInt8) (offset : Nat) (bytes : List UInt8) (i : Nat) :
    (put buffer offset bytes)[i]? =
      if offset ≤ i ∧ i < offset + bytes.length ∧ i < buffer.length then bytes[i - offset]? else
        buffer[i]? := by
  induction bytes generalizing buffer offset with
  | nil => simp [put]; omega
  | cons byte bytes ih =>
    rw [put, ih, List.length_set, List.length_cons, List.getElem?_set]
    by_cases hi : offset = i
    · subst hi
      by_cases hlen : offset < buffer.length
      · simp [hlen]
      · simp [hlen]
    · rw [if_neg hi]
      by_cases hin : offset + 1 ≤ i ∧ i < offset + 1 + bytes.length ∧ i < buffer.length
      · rw [if_pos hin, if_pos (by omega), show i - offset = i - (offset + 1) + 1 by omega,
          List.getElem?_cons_succ]
      · rw [if_neg hin, if_neg (by omega)]

theorem getElem?_slice (buffer : List UInt8) (offset n i : Nat) :
    (slice buffer offset n)[i]? = if i < n then buffer[offset + i]? else none := by
  simp [slice, List.getElem?_take]

theorem slice_put_self {buffer bytes : List UInt8} {offset n : Nat} (hn : bytes.length = n)
    (h : offset + n ≤ buffer.length) : slice (put buffer offset bytes) offset n = bytes := by
  ext1 i
  rw [getElem?_slice, getElem?_put]
  by_cases hi : i < n
  · rw [if_pos hi, if_pos (by omega), Nat.add_sub_cancel_left]
  · rw [if_neg hi, List.getElem?_eq_none (by omega)]

theorem slice_put_of_disjoint {buffer bytes : List UInt8} {offset at_ n : Nat}
    (h : offset + n ≤ at_ ∨ at_ + bytes.length ≤ offset) :
    slice (put buffer at_ bytes) offset n = slice buffer offset n := by
  ext1 i
  rw [getElem?_slice, getElem?_slice, getElem?_put]
  by_cases hi : i < n
  · rw [if_pos hi, if_pos hi, if_neg (by omega)]
  · rw [if_neg hi, if_neg hi]

theorem slice_replicate {n offset len : Nat} {byte : UInt8} (h : offset + n ≤ len) :
    slice (List.replicate len byte) offset n = List.replicate n byte := by
  simp [slice]; omega

theorem slice_slice (buffer : List UInt8) {offset n at_ m : Nat} (h : at_ + m ≤ n) :
    slice (slice buffer offset n) at_ m = slice buffer (offset + at_) m := by
  ext1 i
  rw [getElem?_slice, getElem?_slice, getElem?_slice]
  by_cases hi : i < m
  · rw [if_pos hi, if_pos hi, if_pos (by omega), Nat.add_assoc]
  · rw [if_neg hi, if_neg hi]

theorem slice_add (buffer : List UInt8) (offset m n : Nat) :
    slice buffer offset (m + n) = slice buffer offset m ++ slice buffer (offset + m) n := by
  simp [slice, List.take_add, List.drop_drop]

theorem slice_append_left {left right : List UInt8} {offset n : Nat} (h : offset + n ≤ left.length) :
    slice (left ++ right) offset n = slice left offset n := by
  rw [slice, slice, List.drop_append_of_le_length (by omega),
    List.take_append_of_le_length (by rw [List.length_drop]; omega)]

theorem slice_take (buffer : List UInt8) {offset n m : Nat} (h : offset + n ≤ m) :
    slice (buffer.take m) offset n = slice buffer offset n := by
  have hslice := @slice_slice buffer 0 _ _ _ h
  rw [Nat.zero_add] at hslice
  exact hslice

theorem slice_append_right {left middle right : List UInt8} {offset n : Nat} (ho : left.length = offset)
    (hn : middle.length = n) : slice (left ++ middle ++ right) offset n = middle := by
  rw [slice, List.append_assoc, ← ho, List.drop_left, ← hn, List.take_left]

theorem take_put_of_le {buffer bytes : List UInt8} {offset n : Nat} (h : n ≤ offset) :
    (put buffer offset bytes).take n = buffer.take n :=
  @slice_put_of_disjoint _ _ 0 _ _ (.inl (by omega))

theorem put_append_left {left right bytes : List UInt8} {offset : Nat}
    (h : offset + bytes.length ≤ left.length) :
    put (left ++ right) offset bytes = put left offset bytes ++ right := by
  induction bytes generalizing left offset with
  | nil => rfl
  | cons byte bytes ih =>
    rw [List.length_cons] at h
    rw [put, put, List.set_append_left _ _ (by omega), ih (by rw [List.length_set]; omega)]

/-- A buffer up to the end of what was put into it. -/
theorem take_put {buffer bytes : List UInt8} {offset : Nat} (h : offset + bytes.length ≤ buffer.length) :
    (put buffer offset bytes).take (offset + bytes.length) = buffer.take offset ++ bytes := by
  have hsplit := slice_add (put buffer offset bytes) 0 offset bytes.length
  have hbefore : slice (put buffer offset bytes) 0 offset = slice buffer 0 offset :=
    slice_put_of_disjoint (.inl (Nat.zero_add offset).le)
  rw [Nat.zero_add, slice_put_self rfl h, hbefore] at hsplit
  exact hsplit

theorem put_eq_append {buffer bytes : List UInt8} {offset : Nat}
    (h : offset + bytes.length = buffer.length) :
    put buffer offset bytes = buffer.take offset ++ bytes := by
  rw [← take_put h.le, h]
  exact (List.take_of_length_le (length_put ..).le).symm

/-- Consecutive slices of the given widths. -/
def fields (buffer : List UInt8) : Nat → List Nat → List (List UInt8)
  | _, [] => []
  | offset, width :: widths => slice buffer offset width :: fields buffer (offset + width) widths

theorem flatten_fields (buffer : List UInt8) (offset : Nat) (widths : List Nat) :
    (fields buffer offset widths).flatten = slice buffer offset widths.sum := by
  induction widths generalizing offset with
  | nil => simp [fields, slice]
  | cons width widths ih => rw [fields, List.flatten_cons, ih, List.sum_cons, slice_add]

/-- Buffers that agree on consecutive slices covering them are equal. -/
theorem eq_of_fields {left right : List UInt8} (widths : List Nat) (hl : left.length ≤ widths.sum)
    (hr : right.length ≤ widths.sum) (h : fields left 0 widths = fields right 0 widths) : left = right := by
  have hflat := congrArg List.flatten h
  rw [flatten_fields, flatten_fields, slice, slice, List.drop_zero,
    List.drop_zero, List.take_of_length_le hl,
    List.take_of_length_le hr] at hflat
  exact hflat

/-- The byte-wise comparison without an early exit. -/
theorem foldl_difference (left right : List UInt8) (n : Nat) :
    (List.range n).foldl (fun difference index =>
      difference ||| (left.getD index 0 ^^^ right.getD index 0)) (0 : UInt8) = 0 ↔
      ∀ index < n, left.getD index 0 = right.getD index 0 := by
  induction n with
  | zero => simp
  | succ n ih =>
    rw [List.range_succ, List.foldl_append, List.foldl_cons, List.foldl_nil, UInt8.or_eq_zero_iff,
      ih, UInt8.xor_eq_zero_iff]
    constructor
    · rintro ⟨hbelow, hlast⟩ index hindex
      rcases Nat.lt_succ_iff_lt_or_eq.mp hindex with h | rfl
      · exact hbelow index h
      · exact hlast
    · intro hall
      exact ⟨fun index h => hall index (by omega), hall n (by omega)⟩

theorem eq_of_getD {left right : List UInt8} {n : Nat} (hl : left.length = n) (hr : right.length = n)
    (h : ∀ index < n, left.getD index 0 = right.getD index 0) : left = right := by
  apply List.ext_getElem (hl.trans hr.symm)
  intro index hleft hright
  have := h index (hl ▸ hleft)
  simpa [List.getD_eq_getElem?_getD, hleft, hright] using this

theorem getD_take (bytes : List UInt8) {index n : Nat} (h : index < n) :
    (bytes.take n).getD index 0 = bytes.getD index 0 := by
  rw [List.getD_eq_getElem?_getD, List.getD_eq_getElem?_getD, List.getElem?_take, if_pos h]

/-! ## Integers -/

/-- The `width` low bytes of a number, low byte first. -/
def toLe : Nat → Nat → List UInt8
  | 0, _ => []
  | width + 1, value => UInt8.ofNat value :: toLe width (value / 256)

def fromLe : List UInt8 → Nat
  | [] => 0
  | byte :: bytes => byte.toNat + 256 * fromLe bytes

@[simp] theorem length_toLe (width value : Nat) : (toLe width value).length = width := by
  induction width generalizing value with
  | zero => rfl
  | succ width ih => rw [toLe, List.length_cons, ih]

theorem fromLe_toLe (width value : Nat) : fromLe (toLe width value) = value % 256 ^ width := by
  induction width generalizing value with
  | zero => simp [toLe, fromLe, Nat.mod_one]
  | succ width ih =>
    have hbyte : (UInt8.ofNat value).toNat = value % 256 := UInt8.toNat_ofNat'
    rw [toLe, fromLe, ih, hbyte, Nat.pow_succ 256 width, Nat.mul_comm (256 ^ width), Nat.mod_mul]

theorem toLe_fromLe (bytes : List UInt8) : toLe bytes.length (fromLe bytes) = bytes := by
  induction bytes with
  | nil => rfl
  | cons byte bytes ih =>
    have hbyte : byte.toNat < 256 := byte.toNat_lt
    have hlow : UInt8.ofNat (fromLe (byte :: bytes)) = byte := by
      apply UInt8.toNat_inj.mp
      rw [UInt8.toNat_ofNat', fromLe]
      omega
    have hhigh : fromLe (byte :: bytes) / 256 = fromLe bytes := by rw [fromLe]; omega
    rw [List.length_cons, toLe, hlow, hhigh, ih]

theorem fromLe_lt (bytes : List UInt8) : fromLe bytes < 256 ^ bytes.length := by
  induction bytes with
  | nil => simp [fromLe]
  | cons byte bytes ih =>
    have hbyte : byte.toNat < 256 := byte.toNat_lt
    rw [fromLe, List.length_cons, Nat.pow_succ]
    omega

/-- The byte at an offset. -/
def getU8 (buffer : List UInt8) (offset : Nat) : UInt8 := buffer.getD offset 0
def getU16 (buffer : List UInt8) (offset : Nat) : UInt16 := UInt16.ofNat (fromLe (slice buffer offset 2))
def getU32 (buffer : List UInt8) (offset : Nat) : UInt32 := UInt32.ofNat (fromLe (slice buffer offset 4))
def getU64 (buffer : List UInt8) (offset : Nat) : UInt64 := UInt64.ofNat (fromLe (slice buffer offset 8))

def putU8 (buffer : List UInt8) (offset : Nat) (value : UInt8) : List UInt8 := put buffer offset [value]
def putU16 (buffer : List UInt8) (offset : Nat) (value : UInt16) : List UInt8 :=
  put buffer offset (toLe 2 value.toNat)
def putU32 (buffer : List UInt8) (offset : Nat) (value : UInt32) : List UInt8 :=
  put buffer offset (toLe 4 value.toNat)
def putU64 (buffer : List UInt8) (offset : Nat) (value : UInt64) : List UInt8 :=
  put buffer offset (toLe 8 value.toNat)

/-! What was put is read, and what is read is what stands there. -/

theorem getU8_of_slice {buffer : List UInt8} {offset : Nat} {value : UInt8}
    (h : slice buffer offset 1 = [value]) :
    getU8 buffer offset = value := by
  have hat := getElem?_slice buffer offset 1 0
  rw [h, if_pos Nat.one_pos, Nat.add_zero] at hat
  rw [getU8, List.getD_eq_getElem?_getD, ← hat]
  rfl

theorem getU16_of_slice {buffer : List UInt8} {offset : Nat} {value : UInt16}
    (h : slice buffer offset 2 = toLe 2 value.toNat) : getU16 buffer offset = value := by
  rw [getU16, h, fromLe_toLe, Nat.mod_eq_of_lt (show value.toNat < 256 ^ 2 from value.toNat_lt),
    UInt16.ofNat_toNat]

theorem getU32_of_slice {buffer : List UInt8} {offset : Nat} {value : UInt32}
    (h : slice buffer offset 4 = toLe 4 value.toNat) : getU32 buffer offset = value := by
  rw [getU32, h, fromLe_toLe, Nat.mod_eq_of_lt (show value.toNat < 256 ^ 4 from value.toNat_lt),
    UInt32.ofNat_toNat]

theorem getU64_of_slice {buffer : List UInt8} {offset : Nat} {value : UInt64}
    (h : slice buffer offset 8 = toLe 8 value.toNat) : getU64 buffer offset = value := by
  rw [getU64, h, fromLe_toLe, Nat.mod_eq_of_lt (show value.toNat < 256 ^ 8 from value.toNat_lt),
    UInt64.ofNat_toNat]

theorem slice_eq_getU8 {buffer : List UInt8} {offset : Nat} (h : offset < buffer.length) :
    slice buffer offset 1 = [getU8 buffer offset] := by
  ext1 i
  rw [getElem?_slice, getU8, List.getD_eq_getElem?_getD]
  cases i with
  | zero => simp [h]
  | succ i => simp

theorem toLe_fromLe_slice {buffer : List UInt8} {offset n : Nat} (h : offset + n ≤ buffer.length) :
    toLe n (fromLe (slice buffer offset n)) = slice buffer offset n := by
  have hlen : (slice buffer offset n).length = n := by rw [length_slice]; omega
  have := toLe_fromLe (slice buffer offset n)
  rwa [hlen] at this

theorem fromLe_slice_lt (buffer : List UInt8) (offset n : Nat) : fromLe (slice buffer offset n) < 256 ^ n :=
  (fromLe_lt _).trans_le (Nat.pow_le_pow_right (by omega) (by rw [length_slice]; omega))

theorem toLe_getU16 {buffer : List UInt8} {offset : Nat} (h : offset + 2 ≤ buffer.length) :
    toLe 2 (getU16 buffer offset).toNat = slice buffer offset 2 := by
  rw [getU16, UInt16.toNat_ofNat_of_lt' (fromLe_slice_lt _ _ 2), toLe_fromLe_slice h]

theorem toLe_getU32 {buffer : List UInt8} {offset : Nat} (h : offset + 4 ≤ buffer.length) :
    toLe 4 (getU32 buffer offset).toNat = slice buffer offset 4 := by
  rw [getU32, UInt32.toNat_ofNat_of_lt' (fromLe_slice_lt _ _ 4), toLe_fromLe_slice h]

theorem toLe_getU64 {buffer : List UInt8} {offset : Nat} (h : offset + 8 ≤ buffer.length) :
    toLe 8 (getU64 buffer offset).toNat = slice buffer offset 8 := by
  rw [getU64, UInt64.toNat_ofNat_of_lt' (fromLe_slice_lt _ _ 8), toLe_fromLe_slice h]

@[simp] theorem length_putU8 (buffer : List UInt8) (offset : Nat) (value : UInt8) :
    (putU8 buffer offset value).length = buffer.length := length_put ..
@[simp] theorem length_putU16 (buffer : List UInt8) (offset : Nat) (value : UInt16) :
    (putU16 buffer offset value).length = buffer.length := length_put ..
@[simp] theorem length_putU32 (buffer : List UInt8) (offset : Nat) (value : UInt32) :
    (putU32 buffer offset value).length = buffer.length := length_put ..
@[simp] theorem length_putU64 (buffer : List UInt8) (offset : Nat) (value : UInt64) :
    (putU64 buffer offset value).length = buffer.length := length_put ..

end Lib.Buffer
