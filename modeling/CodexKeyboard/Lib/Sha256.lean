import Mathlib.Algebra.Ring.Nat
import Mathlib.Data.List.Basic
/-!
# SHA-256

FIPS 180-4 for messages of whole bytes: the functions of section 4.1.2, the constants of 4.2.2 and
5.3.3 computed from the primes, padding (5.1.1) and the hash computation (6.2.2).

`absorb` applies a function to every whole block of a list and returns what is left; it may be done
piece by piece (`absorb_append`).
-/

namespace Lib

/-! ## Whole blocks -/

section Absorb
variable {σ α : Type}

/-- Feed the whole blocks of `n` elements to `f`; what is left comes back. -/
def absorb (f : σ → List α → σ) (n : Nat) (s : σ) (xs : List α) : σ × List α :=
  if 0 < n ∧ n ≤ xs.length then absorb f n (f s (xs.take n)) (xs.drop n) else (s, xs)
termination_by xs.length
decreasing_by
  rw [List.length_drop]
  omega

variable {f : σ → List α → σ} {n : Nat}

theorem absorb_of_lt {s : σ} {xs : List α} (h : xs.length < n) : absorb f n s xs = (s, xs) := by
  rw [absorb, if_neg (by omega)]

/-- A whole block in front. -/
theorem absorb_block {s : σ} {block : List α} (xs : List α) (hn : 0 < n) (hblock : block.length = n) :
    absorb f n s (block ++ xs) = absorb f n (f s block) xs := by
  rw [absorb, if_pos (by rw [List.length_append]; omega), ← hblock, List.take_left, List.drop_left]

/-- What is left is what does not fill a block. -/
theorem length_absorb (hn : 0 < n) (s : σ) (xs : List α) : (absorb f n s xs).2.length = xs.length % n := by
  induction s, xs using absorb.induct f n with
  | case1 s xs h ih =>
    rw [absorb, if_pos h, ih, List.length_drop]
    exact (Nat.mod_eq_sub_mod h.2).symm
  | case2 s xs h =>
    rw [absorb, if_neg h]
    exact (Nat.mod_eq_of_lt (Nat.lt_of_not_le fun hle => h ⟨hn, hle⟩)).symm

/-- What is left is fed together with what comes next. -/
theorem absorb_append (s : σ) (xs ys : List α) :
    absorb f n s (xs ++ ys) = absorb f n (absorb f n s xs).1 ((absorb f n s xs).2 ++ ys) := by
  induction s, xs using absorb.induct f n with
  | case1 s xs h ih =>
    have hlength : (xs.take n).length = n := List.length_take_of_le h.2
    have hsplit : xs ++ ys = xs.take n ++ (xs.drop n ++ ys) := by
      rw [← List.append_assoc, List.take_append_drop]
    rw [hsplit, absorb_block _ h.1 hlength, ih, absorb.eq_def f n s xs, if_pos h]
  | case2 s xs h =>
    rw [absorb.eq_def f n s xs, if_neg h]

end Absorb

namespace Sha256

/-! ## Functions (4.1.2) -/

def rotr (x : UInt32) (n : UInt32) : UInt32 := x >>> n ||| x <<< (32 - n)

def ch (x y z : UInt32) : UInt32 := (x &&& y) ^^^ (~~~x &&& z)
def maj (x y z : UInt32) : UInt32 := (x &&& y) ^^^ (x &&& z) ^^^ (y &&& z)
def bigSigma0 (x : UInt32) : UInt32 := rotr x 2 ^^^ rotr x 13 ^^^ rotr x 22
def bigSigma1 (x : UInt32) : UInt32 := rotr x 6 ^^^ rotr x 11 ^^^ rotr x 25
def smallSigma0 (x : UInt32) : UInt32 := rotr x 7 ^^^ rotr x 18 ^^^ x >>> 3
def smallSigma1 (x : UInt32) : UInt32 := rotr x 17 ^^^ rotr x 19 ^^^ x >>> 10

/-! ## Constants (4.2.2, 5.3.3) -/

/-- The first 64 primes. -/
def primes : List Nat :=
  [2, 3, 5, 7, 11, 13, 17, 19, 23, 29, 31, 37, 41, 43, 47, 53, 59, 61, 67, 71, 73, 79,
    83, 89, 97, 101, 103, 107, 109, 113, 127,
    131, 137, 139, 149, 151, 157, 163, 167, 173, 179, 181, 191, 193, 197, 199, 211, 223, 227, 229,
      233, 239, 241, 251, 257, 263,
    269, 271, 277, 281, 283, 293, 307, 311]

/-- The greatest number below `root + 2 ^ bits` whose power stays within the target, bit by bit. -/
def rootFrom (power target : Nat) : Nat → Nat → Nat
  | 0, root => root
  | bits + 1, root =>
    if (root + (1 <<< bits)) ^ power ≤ target then rootFrom power target bits (root + (1 <<< bits))
    else rootFrom power target bits root

/-- The first 32 bits of the fractional part of a root of `n`. -/
def fractionBits (power n : Nat) : UInt32 := UInt32.ofNat (rootFrom power (n <<< (32 * power)) 37 0)

/-- The bit-by-bit root is the integer root. -/
theorem rootFrom_spec {power target : Nat} {bits root : Nat} (hlow : root ^ power ≤ target)
    (hhigh : target < (root + 2 ^ bits) ^ power) :
    rootFrom power target bits root ^ power ≤ target ∧
    target < (rootFrom power target bits root + 1) ^ power := by
  induction bits generalizing root with
  | zero => exact ⟨hlow, hhigh⟩
  | succ bits ih =>
    rw [rootFrom, Nat.one_shiftLeft]
    by_cases hbit : (root + 2 ^ bits) ^ power ≤ target
    · rw [if_pos hbit]
      refine ih hbit ?_
      rw [Nat.add_assoc, ← Nat.two_mul, ← Nat.pow_succ']
      exact hhigh
    · rw [if_neg hbit]
      exact ih hlow (Nat.lt_of_not_le hbit)

/-- For a root below `2 ^ 37`, these are the low bits of the integer root of `n` times `2 ^ (32 *
power)`. -/
theorem fractionBits_eq {power n : Nat} (hpower : power ≠ 0) (h : n <<< (32 * power) < (2 ^ 37) ^ power) :
    ∃ root, root ^ power ≤ n <<< (32 * power) ∧ n <<< (32 * power) < (root + 1) ^ power ∧
      fractionBits power n = UInt32.ofNat root := by
  have hspec :=
    @rootFrom_spec power (n <<< (32 * power)) 37 0 (by
    rw [Nat.zero_pow (Nat.pos_of_ne_zero hpower)]; exact Nat.zero_le _)
    (by rw [Nat.zero_add]; exact h)
  exact ⟨_, hspec.1, hspec.2, rfl⟩

/-- The eight words of a hash value, or the working variables. -/
structure Words where
  a : UInt32
  b : UInt32
  c : UInt32
  d : UInt32
  e : UInt32
  f : UInt32
  g : UInt32
  h : UInt32
deriving DecidableEq, Repr

def Words.add (left right : Words) : Words :=
  ⟨left.a + right.a, left.b + right.b, left.c + right.c, left.d + right.d,
    left.e + right.e, left.f + right.f, left.g + right.g,
    left.h + right.h⟩

def Words.toList (words : Words) : List UInt32 :=
  [words.a, words.b, words.c, words.d, words.e, words.f, words.g, words.h]

/-- The square roots of the first eight primes. -/
def initialHash : Words :=
  ⟨fractionBits 2 2, fractionBits 2 3, fractionBits 2 5, fractionBits 2 7,
    fractionBits 2 11, fractionBits 2 13, fractionBits 2 17,
    fractionBits 2 19⟩

/-- The cube roots of the first 64 primes. -/
def roundConstant (t : Nat) : UInt32 := fractionBits 3 (primes.getD t 0)

/-! ## Padding (5.1.1) -/

/-- The bytes of a word, high byte first. -/
def wordBytes (word : UInt32) : List UInt8 :=
  [(word >>> 24).toUInt8, (word >>> 16).toUInt8, (word >>> 8).toUInt8, word.toUInt8]

/-- The `width` low bytes of a number, high byte first. -/
def bigEndian (width value : Nat) : List UInt8 :=
  (List.range width).map fun i => UInt8.ofNat (value >>> (8 * (width - 1 - i)))

/-- The zero bytes that fill the last block up to its length field. -/
def zeroCount (length : Nat) : Nat := (119 - length % 64) % 64

/-- The least number of zeros that leaves eight bytes of the last block. -/
theorem zeroCount_least (length : Nat) :
    (length + 1 + zeroCount length) % 64 = 56 ∧ ∀ k, (length + 1 + k) % 64 = 56 → zeroCount length ≤ k := by
  rw [zeroCount]
  constructor
  · omega
  · intro k hk
    omega

/-- The message with the bit after it, zeros and its length in bits. -/
def pad (message : List UInt8) : List UInt8 :=
  message ++ 0x80 :: (List.replicate (zeroCount message.length) 0 ++ bigEndian 8 (8 * message.length))

theorem length_bigEndian (width value : Nat) : (bigEndian width value).length = width := by
  rw [bigEndian, List.length_map, List.length_range]

/-- The padded message consists of whole blocks. -/
theorem absorb_pad {σ : Type} (f : σ → List UInt8 → σ) (s : σ) (message : List UInt8) :
    (absorb f 64 s (pad message)).2 = [] := by
  have hlength := @length_absorb _ _ f 64 (by decide) s (pad message)
  have hleast := (zeroCount_least message.length).1
  rw [pad, List.length_append, List.length_cons, List.length_append,
    List.length_replicate, length_bigEndian] at hlength
  rw [← List.length_eq_zero_iff, pad, hlength]
  omega

/-! ## Hash computation (6.2.2) -/

/-- Word `t` of a block. -/
def blockWord (block : List UInt8) (t : Nat) : UInt32 :=
  (block.getD (4 * t) 0).toUInt32 <<< 24 ||| (block.getD (4 * t + 1) 0).toUInt32 <<< 16
    ||| (block.getD (4 * t + 2) 0).toUInt32 <<< 8 ||| (block.getD (4 * t + 3) 0).toUInt32

/-- The message schedule. -/
def schedule (block : List UInt8) (t : Nat) : UInt32 :=
  if t < 16 then blockWord block t
  else
    smallSigma1 (schedule block (t - 2)) + schedule block (t - 7) + smallSigma0
      (schedule block (t - 15)) + schedule block (t - 16)

/-- One step of the compression. -/
def round (k w : UInt32) (v : Words) : Words :=
  let t1 := v.h + bigSigma1 v.e + ch v.e v.f v.g + k + w
  let t2 := bigSigma0 v.a + maj v.a v.b v.c
  ⟨t1 + t2, v.a, v.b, v.c, v.d + t1, v.e, v.f, v.g⟩

/-- The working variables after the first `t` steps. -/
def rounds (block : List UInt8) (start : Words) : Nat → Words
  | 0 => start
  | t + 1 => round (roundConstant t) (schedule block t) (rounds block start t)

/-- The next hash value. -/
def compress (value : Words) (block : List UInt8) : Words := (rounds block value 64).add value

/-- The message digest. -/
def digest (message : List UInt8) : List UInt8 :=
  (absorb compress 64 initialHash (pad message)).1.toList.flatMap wordBytes

end Sha256

end Lib
