import CodexKeyboard.Lib.Buffer
import CodexKeyboard.Lib.Run
import CodexKeyboard.Lib.Sha256
/-!
# SHA-256 of the firmware

`SoundSha256` (`features/speaker_assets/sound_asset_crypto.cpp:61-205`): a hash fed piece by piece
through a buffer of one block, with blocks that lie whole in a piece taken from it directly.

| here | there |
| --- | --- |
| `sha256InitialState`, `sha256RoundConstants` | `kSha256InitialState`, `kSha256RoundConstants` (sound_asset_crypto.cpp:10, 21) |
| `messageSchedule`, `compressionRounds`, `transform` | `SoundSha256::transform` (sound_asset_crypto.cpp:147) |
| `SoundSha256.update` | `SoundSha256::update` (sound_asset_crypto.cpp:74) |
| `SoundSha256.finish` | `SoundSha256::finish` (sound_asset_crypto.cpp:116) |

A null pointer with a length is left out; the direct blocks of `update` are the library's `absorb`.
-/

namespace CodexKeyboard.Assets

open Lib Buffer
open Sha256 (Words)

def sha256InitialState : Words :=
  ⟨0x6A09E667, 0xBB67AE85, 0x3C6EF372, 0xA54FF53A, 0x510E527F, 0x9B05688C, 0x1F83D9AB, 0x5BE0CD19⟩

def sha256RoundConstants : List UInt32 :=
  [0x428A2F98, 0x71374491, 0xB5C0FBCF, 0xE9B5DBA5,
    0x3956C25B, 0x59F111F1, 0x923F82A4, 0xAB1C5ED5,
    0xD807AA98, 0x12835B01, 0x243185BE, 0x550C7DC3,
    0x72BE5D74, 0x80DEB1FE, 0x9BDC06A7, 0xC19BF174,
    0xE49B69C1, 0xEFBE4786, 0x0FC19DC6, 0x240CA1CC,
    0x2DE92C6F, 0x4A7484AA, 0x5CB0A9DC, 0x76F988DA,
    0x983E5152, 0xA831C66D, 0xB00327C8, 0xBF597FC7,
    0xC6E00BF3, 0xD5A79147, 0x06CA6351, 0x14292967,
    0x27B70A85, 0x2E1B2138, 0x4D2C6DFC, 0x53380D13,
    0x650A7354, 0x766A0ABB, 0x81C2C92E, 0x92722C85,
    0xA2BFE8A1, 0xA81A664B, 0xC24B8B70, 0xC76C51A3,
    0xD192E819, 0xD6990624, 0xF40E3585, 0x106AA070,
    0x19A4C116, 0x1E376C08, 0x2748774C, 0x34B0BCB5,
    0x391C0CB3, 0x4ED8AA4A, 0x5B9CCA4F, 0x682E6FF3,
    0x748F82EE, 0x78A5636F, 0x84C87814, 0x8CC70208,
    0x90BEFFFA, 0xA4506CEB, 0xBEF9A3F7, 0xC67178F2]

def rotateRight (value bits : UInt32) : UInt32 := value >>> bits ||| value <<< (32 - bits)

def loadBe32 (bytes : List UInt8) (offset : Nat) : UInt32 :=
  (getU8 bytes offset).toUInt32 <<< 24 ||| (getU8 bytes (offset + 1)).toUInt32 <<< 16
    ||| (getU8 bytes (offset + 2)).toUInt32 <<< 8 ||| (getU8 bytes (offset + 3)).toUInt32

def storeBe32 (value : UInt32) : List UInt8 :=
  [(value >>> 24).toUInt8, (value >>> 16).toUInt8, (value >>> 8).toUInt8, value.toUInt8]

/-- `schedule[index]` from the words before it. -/
def scheduleWord (schedule : List UInt32) (index : Nat) : UInt32 :=
  let before15 := schedule.getD (index - 15) 0
  let before2 := schedule.getD (index - 2) 0
  let sigma0 := rotateRight before15 7 ^^^ rotateRight before15 18 ^^^ before15 >>> 3
  let sigma1 := rotateRight before2 17 ^^^ rotateRight before2 19 ^^^ before2 >>> 10
  schedule.getD (index - 16) 0 + sigma0 + schedule.getD (index - 7) 0 + sigma1

/-- The first `n` words of the schedule. -/
def messageSchedule (block : List UInt8) : Nat → List UInt32
  | 0 => []
  | index + 1 =>
    let schedule := messageSchedule block index
    schedule ++ [if index < 16 then loadBe32 block (index * 4) else scheduleWord schedule index]

/-- One round. -/
def compressionRound (schedule : List UInt32) (v : Words) (index : Nat) : Words :=
  let sum1 := rotateRight v.e 6 ^^^ rotateRight v.e 11 ^^^ rotateRight v.e 25
  let choose := (v.e &&& v.f) ^^^ (~~~v.e &&& v.g)
  let temporary1 := v.h + sum1 + choose + sha256RoundConstants.getD index 0 + schedule.getD index 0
  let sum0 := rotateRight v.a 2 ^^^ rotateRight v.a 13 ^^^ rotateRight v.a 22
  let majority := (v.a &&& v.b) ^^^ (v.a &&& v.c) ^^^ (v.b &&& v.c)
  let temporary2 := sum0 + majority
  { h := v.g, g := v.f, f := v.e, e := v.d + temporary1, d := v.c, c := v.b,
    b := v.a, a := temporary1 + temporary2 }

def transform (state : Words) (block : List UInt8) : Words :=
  let schedule := messageSchedule block 64
  let v := (List.range 64).foldl (compressionRound schedule) state
  ⟨state.a + v.a, state.b + v.b, state.c + v.c, state.d + v.d, state.e + v.e,
    state.f + v.f, state.g + v.g, state.h + v.h⟩

structure SoundSha256 where
  state : Words := sha256InitialState
  buffer : List UInt8 := List.replicate 64 0
  digest : List UInt8 := List.replicate 32 0
  totalBytes : UInt64 := 0
  bufferedBytes : Nat := 0
  finished : Bool := false
deriving DecidableEq, Repr

namespace SoundSha256

/-- Lines 88-101: the buffer is filled first, and a full one is transformed; the rest of the data
comes back. -/
def fillBuffer (s : SoundSha256) (data : List UInt8) : SoundSha256 × List UInt8 :=
  if s.bufferedBytes = 0 then (s, data)
  else
    let copyLength := min data.length (64 - s.bufferedBytes)
    let buffer := put s.buffer s.bufferedBytes (data.take copyLength)
    if s.bufferedBytes + copyLength = 64 then
      ({ s with buffer, state := transform s.state buffer, bufferedBytes := 0 }, data.drop copyLength)
    else ({ s with buffer, bufferedBytes := s.bufferedBytes + copyLength }, data.drop copyLength)

/-- Lines 103-112: whole blocks straight from the data, then the tail into the buffer. -/
def takeBlocks (s : SoundSha256) (data : List UInt8) : SoundSha256 :=
  let taken := absorb transform 64 s.state data
  if taken.2.length ≠ 0 then
    { s with state := taken.1, buffer := put s.buffer 0 taken.2, bufferedBytes := taken.2.length }
  else { s with state := taken.1 }

def update (s : SoundSha256) (data : List UInt8) : Bool × SoundSha256 :=
  if s.finished then (false, s)
  else if data.length = 0 then (true, s)
  else if data.length > 0x1FFFFFFFFFFFFFFF - s.totalBytes.toNat then (false, s)
  else
    let (s, data) := fillBuffer { s with totalBytes := s.totalBytes + UInt64.ofNat data.length } data
    (true, s.takeBlocks data)

/-- Lines 127-133: the bit after the message, and a block more if the length does not fit. -/
def closeMessage (s : SoundSha256) : SoundSha256 :=
  let buffer := putU8 s.buffer s.bufferedBytes 0x80
  let bufferedBytes := s.bufferedBytes + 1
  if bufferedBytes > 56 then
    let buffer := put buffer bufferedBytes (List.replicate (64 - bufferedBytes) 0)
    { s with buffer, state := transform s.state buffer, bufferedBytes := 0 }
  else { s with buffer, bufferedBytes }

def finish (s : SoundSha256) : List UInt8 × SoundSha256 :=
  if s.finished then (s.digest, s)
  else
    let messageBits := s.totalBytes * 8
    let s := s.closeMessage
    let buffer := put s.buffer s.bufferedBytes (List.replicate (56 - s.bufferedBytes) 0)
    let buffer :=
      put buffer 56 ((List.range 8).map fun index =>
      (messageBits >>> UInt64.ofNat (56 - index * 8)).toUInt8)
    let state := transform s.state buffer
    let digest := state.toList.flatMap storeBe32
    (digest, { s with buffer, state, bufferedBytes := 0, digest, finished := true })

end SoundSha256

/-! ## One block -/

theorem sha256InitialState_eq : sha256InitialState = Sha256.initialHash := by decide +kernel

theorem sha256RoundConstants_eq : ∀ t < 64, sha256RoundConstants.getD t 0 = Sha256.roundConstant t :=
  by decide +kernel

@[simp] theorem length_messageSchedule (block : List UInt8) (n : Nat) :
    (messageSchedule block n).length = n := by
  induction n with
  | zero => rfl
  | succ n ih => rw [messageSchedule, List.length_append, ih, List.length_singleton]

/-- The four terms of a word in the order of the source, and in that of the standard. -/
theorem schedule_sum (before16 before15 before7 before2 : UInt32) :
    before16 + (rotateRight before15 7 ^^^ rotateRight before15 18 ^^^ before15 >>> 3) + before7 +
        (rotateRight before2 17 ^^^ rotateRight before2 19 ^^^ before2 >>> 10) =
      Sha256.smallSigma1 before2 + before7 + Sha256.smallSigma0 before15 + before16 := by
  show before16 + Sha256.smallSigma0 before15 + before7 + Sha256.smallSigma1 before2 = _
  generalize Sha256.smallSigma0 before15 = sigma0
  generalize Sha256.smallSigma1 before2 = sigma1
  ac_rfl

/-- The words computed so far are those of the schedule. -/
theorem messageSchedule_getD (block : List UInt8) {n t : Nat} (ht : t < n) :
    (messageSchedule block n).getD t 0 = Sha256.schedule block t := by
  induction n generalizing t with
  | zero => omega
  | succ n ih =>
    rw [messageSchedule, List.getD_eq_getElem?_getD]
    by_cases hlast : t < n
    · rw [List.getElem?_append_left (by rwa [length_messageSchedule]), ← List.getD_eq_getElem?_getD]
      exact ih hlast
    · obtain rfl : t = n := by omega
      rw [List.getElem?_append_right (by rw [length_messageSchedule]), length_messageSchedule, Nat.sub_self,
        List.getElem?_cons_zero, Option.getD_some, Sha256.schedule]
      by_cases hinput : t < 16
      · rw [if_pos hinput, if_pos hinput, Nat.mul_comm]
        rfl
      · rw [if_neg hinput, if_neg hinput, scheduleWord, ih (by omega),
          ih (by omega), ih (by omega), ih (by omega)]
        exact schedule_sum _ _ _ _

theorem foldl_compressionRound (block : List UInt8) (state : Words) {t : Nat} (ht : t ≤ 64) :
    (List.range t).foldl (compressionRound (messageSchedule block 64)) state =
      Sha256.rounds block state t := by
  induction t with
  | zero => rfl
  | succ t ih =>
    rw [List.range_succ, List.foldl_append, ih (by omega), List.foldl_cons,
      List.foldl_nil, Sha256.rounds, compressionRound,
      messageSchedule_getD block (by omega), sha256RoundConstants_eq t (by omega)]
    rfl

/-- `transform` is the compression of the standard. -/
theorem transform_eq : transform = Sha256.compress := by
  funext state block
  rw [transform, Sha256.compress, ← foldl_compressionRound block state (Nat.le_refl 64), Words.add]
  simp only [UInt32.add_comm]

/-! ## The state between two calls -/

attribute [local irreducible] transform

namespace SoundSha256

/-- The bytes that wait for a whole block. -/
def pending (s : SoundSha256) : List UInt8 := s.buffer.take s.bufferedBytes

/-- The hash has taken in the message, which is shorter than `2 ^ 61` bytes. -/
structure Absorbed (s : SoundSha256) (message : List UInt8) : Prop where
  finished : s.finished = false
  length_buffer : s.buffer.length = 64
  totalBytes : s.totalBytes.toNat = message.length
  length_lt : message.length < 0x2000000000000000
  bufferedBytes_lt : s.bufferedBytes < 64
  absorbed : absorb transform 64 sha256InitialState message = (s.state, s.pending)

theorem length_pending {s : SoundSha256} (h : s.buffer.length = 64) (hlt : s.bufferedBytes < 64) :
    s.pending.length = s.bufferedBytes := by
  rw [pending, List.length_take]
  omega

theorem absorbed_nil : Absorbed {} [] :=
  ⟨rfl, List.length_replicate, rfl, by decide, by decide, absorb_of_lt (by decide)⟩

/-- The part of `update` that fills the buffer: nothing waits behind it, or nothing is left of the data. -/
theorem fillBuffer_spec {s : SoundSha256} (data : List UInt8) (hbuffer : s.buffer.length = 64)
    (hlt : s.bufferedBytes < 64) :
    absorb transform 64 s.state (s.pending ++ data) =
      absorb transform 64 (s.fillBuffer data).1.state
        ((s.fillBuffer data).1.pending ++ (s.fillBuffer data).2) ∧
    ((s.fillBuffer data).1.bufferedBytes = 0 ∨ (s.fillBuffer data).2 = []) ∧
    (s.fillBuffer data).1.buffer.length = 64 ∧ (s.fillBuffer data).1.bufferedBytes < 64 ∧
    (s.fillBuffer data).1.finished = s.finished ∧ (s.fillBuffer data).1.totalBytes = s.totalBytes := by
  obtain ⟨state, buffer, digest, totalBytes, bufferedBytes, finished⟩ := s
  have hbuffer : buffer.length = 64 := hbuffer
  have hlt : bufferedBytes < 64 := hlt
  by_cases hempty : bufferedBytes = 0
  · have hfill : fillBuffer ⟨state, buffer, digest, totalBytes, bufferedBytes, finished⟩ data =
        (⟨state, buffer, digest, totalBytes, bufferedBytes, finished⟩, data) := if_pos hempty
    rw [hfill]
    exact ⟨rfl, .inl hempty, hbuffer, hlt, rfl, rfl⟩
  · by_cases hfull : bufferedBytes + min data.length (64 - bufferedBytes) = 64
    · have hcopy : (data.take (64 - bufferedBytes)).length = 64 - bufferedBytes := by
        rw [List.length_take]
        omega
      have hput :
        put buffer bufferedBytes (data.take (64 - bufferedBytes)) = buffer.take bufferedBytes ++
        data.take (64 - bufferedBytes) :=
        put_eq_append (by omega)
      have hmin : min data.length (64 - bufferedBytes) = 64 - bufferedBytes := by omega
      have hfill : fillBuffer ⟨state, buffer, digest, totalBytes, bufferedBytes, finished⟩ data =
          (⟨transform state (buffer.take bufferedBytes ++ data.take (64 - bufferedBytes)),
            buffer.take bufferedBytes ++ data.take (64 - bufferedBytes), digest, totalBytes, 0, finished⟩,
            data.drop (64 - bufferedBytes)) := by
        rw [fillBuffer, if_neg hempty, if_pos hfull, hmin, hput]
      have hblock : (buffer.take bufferedBytes ++ data.take (64 - bufferedBytes)).length = 64 := by
        rw [List.length_append, hcopy, List.length_take]
        omega
      have hsplit : buffer.take bufferedBytes ++ data =
          (buffer.take bufferedBytes ++ data.take (64 - bufferedBytes)) ++
            data.drop (64 - bufferedBytes) := by
        rw [List.append_assoc, List.take_append_drop]
      rw [hfill]
      refine ⟨?_, .inl rfl, hblock, Nat.zero_lt_succ 63, rfl, rfl⟩
      rw [pending, hsplit, absorb_block _ (Nat.zero_lt_succ 63) hblock,
        pending, List.take_zero, List.nil_append]
    · have hall : min data.length (64 - bufferedBytes) = data.length := by omega
      have hfill : fillBuffer ⟨state, buffer, digest, totalBytes, bufferedBytes, finished⟩ data =
          (⟨state, put buffer bufferedBytes data, digest,
            totalBytes, bufferedBytes + data.length, finished⟩, []) := by
        rw [fillBuffer, if_neg hempty, if_neg hfull, hall, List.take_length, List.drop_length]
      have hlength : (put buffer bufferedBytes data).length = 64 := (length_put ..).trans hbuffer
      have htake := @take_put buffer data bufferedBytes (by omega)
      rw [hfill]
      refine ⟨?_, .inr rfl, hlength, ?_, rfl, rfl⟩
      · rw [List.append_nil, pending, pending, htake]
      · show bufferedBytes + data.length < 64
        omega

/-- The part that takes whole blocks from the data. -/
theorem takeBlocks_spec {s : SoundSha256} {data : List UInt8} (hbuffer : s.buffer.length = 64)
    (hlt : s.bufferedBytes < 64)
    (h : s.bufferedBytes = 0 ∨ data = []) :
    absorb transform 64 s.state (s.pending ++ data) =
      ((s.takeBlocks data).state, (s.takeBlocks data).pending) ∧
    (s.takeBlocks data).buffer.length = 64 ∧ (s.takeBlocks data).bufferedBytes < 64 ∧
    (s.takeBlocks data).finished = s.finished ∧ (s.takeBlocks data).totalBytes = s.totalBytes := by
  by_cases hdata : data = []
  · subst hdata
    have hnone : s.takeBlocks [] = s := by
      rw [takeBlocks, absorb_of_lt (by decide)]
      rfl
    rw [hnone, List.append_nil, absorb_of_lt (by rw [length_pending hbuffer hlt]; exact hlt)]
    exact ⟨rfl, hbuffer, hlt, rfl, rfl⟩
  · have hzero : s.bufferedBytes = 0 := h.resolve_right hdata
    have hpending : s.pending = [] := by rw [pending, hzero, List.take_zero]
    have htail : (absorb transform 64 s.state data).2.length < 64 := by
      rw [length_absorb (by decide)]
      omega
    rw [hpending, List.nil_append, takeBlocks]
    by_cases hrest : (absorb transform 64 s.state data).2.length = 0
    · rw [if_neg (not_not_intro hrest)]
      refine ⟨?_, hbuffer, hlt, rfl, rfl⟩
      have hnil : (absorb transform 64 s.state data).2 = [] := List.length_eq_zero_iff.1 hrest
      show _ = ((absorb transform 64 s.state data).1, s.buffer.take s.bufferedBytes)
      rw [hzero, List.take_zero, ← hnil]
    · rw [if_pos hrest]
      refine ⟨?_, (length_put ..).trans hbuffer, htail, rfl, rfl⟩
      have htake := @take_put s.buffer (absorb transform 64 s.state data).2 0 (by omega)
      rw [Nat.zero_add, List.take_zero, List.nil_append] at htake
      show _ = ((absorb transform 64 s.state data).1,
        (put s.buffer 0 _).take (absorb transform 64 s.state data).2.length)
      rw [htake]

theorem update_spec {s : SoundSha256} {message : List UInt8} (data : List UInt8) (h : s.Absorbed message)
    (hlength : message.length + data.length < 0x2000000000000000) :
    (s.update data).1 = true ∧ (s.update data).2.Absorbed (message ++ data) := by
  obtain ⟨state, buffer, digest, totalBytes, bufferedBytes, finished⟩ := s
  obtain ⟨hfinished, hbuffer, hbytes, -, hlt, habsorbed⟩ := h
  cases hfinished
  have hbytes : totalBytes.toNat = message.length := hbytes
  by_cases hempty : data.length = 0
  · have hnil : data = [] := List.length_eq_zero_iff.1 hempty
    have hupdate : update ⟨state, buffer, digest, totalBytes, bufferedBytes, false⟩ data =
        (true, ⟨state, buffer, digest, totalBytes, bufferedBytes, false⟩) := by
      rw [update, if_neg Bool.false_ne_true, if_pos hempty]
    rw [hupdate, hnil, List.append_nil]
    exact ⟨rfl, rfl, hbuffer, hbytes, by omega, hlt, habsorbed⟩
  · have hfits : ¬ data.length > 0x1FFFFFFFFFFFFFFF - totalBytes.toNat := by
      rw [hbytes]
      omega
    generalize hadvanced : totalBytes + UInt64.ofNat data.length = advanced
    have hcount : advanced.toNat = (message ++ data).length := by
      rw [← hadvanced, UInt64.toNat_add, UInt64.toNat_ofNat', hbytes, List.length_append]
      omega
    generalize hfill : fillBuffer ⟨state, buffer, digest, advanced, bufferedBytes, false⟩ data = filled
    have hupdate : update ⟨state, buffer, digest, totalBytes, bufferedBytes, false⟩ data =
        (true, filled.1.takeBlocks filled.2) := by
      rw [update, if_neg Bool.false_ne_true, if_neg hempty, if_neg hfits, ← hfill, ← hadvanced]
    have hspec := @fillBuffer_spec ⟨state, buffer, digest, advanced, bufferedBytes, false⟩ data hbuffer hlt
    rw [hfill] at hspec
    obtain ⟨habsorb, hside, hbuffer', hlt', hfinished', hbytes'⟩ := hspec
    obtain ⟨htake, hbuffer'', hlt'', hfinished'', hbytes''⟩ := takeBlocks_spec hbuffer' hlt' hside
    rw [hupdate]
    refine ⟨rfl, hfinished''.trans hfinished', hbuffer'', ?_, ?_, hlt'', ?_⟩
    · rw [hbytes'', hbytes', hcount]
    · rw [List.length_append]
      exact hlength
    · rw [absorb_append, habsorbed, ← htake, ← habsorb]
      rfl

end SoundSha256

/-! ## Padding -/

namespace SoundSha256

/-- `bufferedBytes` counts the bytes behind the last whole block. -/
theorem Absorbed.bufferedBytes_eq {s : SoundSha256} {message : List UInt8} (h : s.Absorbed message) :
    s.bufferedBytes = message.length % 64 := by
  have hlength := @length_absorb _ _ transform 64 (by decide) sha256InitialState message
  rw [h.absorbed] at hlength
  exact (length_pending h.length_buffer h.bufferedBytes_lt).symm.trans hlength

/-- The length field of `finish` is that of the standard. -/
theorem lengthBytes_eq {totalBytes : UInt64} {length : Nat} (hbytes : totalBytes.toNat = length)
    (hlt : length < 0x2000000000000000) :
    ((List.range 8).map fun index => ((totalBytes * 8) >>> UInt64.ofNat (56 - index * 8)).toUInt8) =
      Sha256.bigEndian 8 (8 * length) := by
  have hbits : (totalBytes * 8).toNat = 8 * length := by
    rw [UInt64.toNat_mul, hbytes]
    show length * 8 % 18446744073709551616 = 8 * length
    omega
  refine List.map_congr_left fun index hindex => ?_
  have hindex : index < 8 := List.mem_range.1 hindex
  apply UInt8.toNat_inj.1
  rw [UInt64.toNat_toUInt8, UInt64.toNat_shiftRight, UInt64.toNat_ofNat', hbits, UInt8.toNat_ofNat',
    Nat.mod_mod_of_dvd _ (by decide), Nat.mod_eq_of_lt (show 56 - index * 8 < 64 by omega),
    show 8 * (8 - 1 - index) = 56 - index * 8 by omega]

/-- The bit after the message and the zeros of a block that is too full for the length: up to 56
bytes wait. -/
theorem closeMessage_spec {s : SoundSha256} {message : List UInt8} (h : s.Absorbed message)
    (tail : List UInt8) :
    absorb transform 64 s.state
      (s.pending ++ 0x80 :: (List.replicate (Sha256.zeroCount message.length) 0 ++ tail)) =
      absorb transform 64 s.closeMessage.state
        (s.closeMessage.pending ++ (List.replicate (56 - s.closeMessage.bufferedBytes) 0 ++ tail)) ∧
    s.closeMessage.bufferedBytes ≤ 56 ∧ s.closeMessage.buffer.length = 64 := by
  have hresidue := h.bufferedBytes_eq
  obtain ⟨-, hbuffer, -, -, hlt, -⟩ := h
  obtain ⟨state, buffer, digest, totalBytes, bufferedBytes, finished⟩ := s
  have hbuffer : buffer.length = 64 := hbuffer
  have hlt : bufferedBytes < 64 := hlt
  have hresidue : bufferedBytes = message.length % 64 := hresidue
  have hclosed : (putU8 buffer bufferedBytes 0x80).length = 64 := (length_putU8 ..).trans hbuffer
  have hbit :
    (putU8 buffer bufferedBytes 0x80).take (bufferedBytes + 1) = buffer.take bufferedBytes ++ [0x80] :=
    @take_put buffer [0x80] bufferedBytes (by rw [List.length_singleton]; omega)
  by_cases hlong : bufferedBytes + 1 > 56
  · -- The length goes into a block of its own.
    have hzeros : Sha256.zeroCount message.length = (64 - (bufferedBytes + 1)) + 56 := by
      rw [Sha256.zeroCount]
      omega
    have hput :=
      @put_eq_append (putU8 buffer bufferedBytes 0x80) (List.replicate (64 - (bufferedBytes + 1)) 0)
      (bufferedBytes + 1)
      (by rw [List.length_replicate, hclosed]; omega)
    have hclose : closeMessage ⟨state, buffer, digest, totalBytes, bufferedBytes, finished⟩ =
        ⟨transform state (buffer.take bufferedBytes ++ [0x80] ++
          List.replicate (64 - (bufferedBytes + 1)) 0),
          buffer.take bufferedBytes ++ [0x80] ++ List.replicate (64 - (bufferedBytes + 1)) 0, digest,
            totalBytes, 0, finished⟩ := by
      rw [closeMessage, if_pos hlong, hput, hbit]
    have hblock :
      (buffer.take bufferedBytes ++ [0x80] ++ List.replicate (64 - (bufferedBytes + 1)) 0).length = 64 := by
      rw [List.length_append, List.length_append, List.length_take,
        List.length_singleton, List.length_replicate]
      omega
    rw [hclose]
    refine ⟨?_, Nat.zero_le 56, hblock⟩
    have hsplit :
      buffer.take bufferedBytes ++ 0x80 :: (List.replicate (Sha256.zeroCount message.length) 0 ++ tail) =
        (buffer.take bufferedBytes ++ [0x80] ++ List.replicate (64 - (bufferedBytes + 1)) 0) ++
          (List.replicate 56 0 ++ tail) := by
      rw [hzeros, List.replicate_add]
      simp only [List.append_assoc, List.cons_append, List.nil_append]
    rw [pending, hsplit, absorb_block _ (by decide) hblock, pending, List.take_zero, List.nil_append]
    rfl
  · -- The length fits behind the bit.
    have hzeros : Sha256.zeroCount message.length = 56 - (bufferedBytes + 1) := by
      rw [Sha256.zeroCount]
      omega
    have hclose : closeMessage ⟨state, buffer, digest, totalBytes, bufferedBytes, finished⟩ =
        ⟨state, putU8 buffer bufferedBytes 0x80, digest, totalBytes, bufferedBytes + 1, finished⟩ := by
      rw [closeMessage, if_neg hlong]
    rw [hclose]
    refine ⟨?_, Nat.le_of_not_lt hlong, hclosed⟩
    rw [pending, pending, hbit, hzeros, List.append_assoc, List.singleton_append]

/-- A second `finish` changes nothing. -/
theorem finish_finish (s : SoundSha256) : s.finish.2.finish = s.finish := by
  by_cases hdone : s.finished = true
  · have hsame : s.finish = (s.digest, s) := if_pos hdone
    rw [hsame]
    exact hsame
  · have hkept : s.finish.2.finished = true ∧ s.finish.1 = s.finish.2.digest := by
      rw [finish, if_neg hdone]
      exact ⟨rfl, rfl⟩
    have hagain : s.finish.2.finish = (s.finish.2.digest, s.finish.2) := if_pos hkept.1
    rw [hagain, ← hkept.2]

/-- `finish` gives the digest of the standard. -/
theorem finish_spec {s : SoundSha256} {message : List UInt8} (h : s.Absorbed message) :
    s.finish.1 = Sha256.digest message := by
  have hclose := closeMessage_spec h (Sha256.bigEndian 8 (8 * message.length))
  have hlengthBytes := lengthBytes_eq h.totalBytes h.length_lt
  have hdigest : Sha256.digest message = (absorb transform 64 s.state (s.pending ++ 0x80 ::
      (List.replicate (Sha256.zeroCount message.length) 0 ++
        Sha256.bigEndian 8 (8 * message.length)))).1.toList.flatMap storeBe32 := by
    rw [Sha256.digest, Sha256.pad, ← sha256InitialState_eq, ← transform_eq, absorb_append, h.absorbed]
    rfl
  obtain ⟨habsorb, hle, hbuffer⟩ := hclose
  have hopen : s.finished = false := h.finished
  have hzeros := @take_put s.closeMessage.buffer (List.replicate (56 - s.closeMessage.bufferedBytes) 0)
    s.closeMessage.bufferedBytes (by rw [List.length_replicate]; omega)
  have hbits := @put_eq_append
    (put s.closeMessage.buffer s.closeMessage.bufferedBytes
      (List.replicate (56 - s.closeMessage.bufferedBytes) 0))
    (Sha256.bigEndian 8 (8 * message.length)) 56 (by rw [Sha256.length_bigEndian, length_put, hbuffer])
  rw [List.length_replicate,
    show s.closeMessage.bufferedBytes + (56 - s.closeMessage.bufferedBytes) = 56 by omega] at hzeros
  rw [hzeros, List.append_assoc] at hbits
  have hblock : (s.closeMessage.buffer.take s.closeMessage.bufferedBytes ++
      (List.replicate (56 - s.closeMessage.bufferedBytes) 0 ++
        Sha256.bigEndian 8 (8 * message.length))).length = 64 := by
    rw [← hbits, length_put, length_put, hbuffer]
  have hlast := absorb_block (f := transform) (s := s.closeMessage.state) [] (Nat.zero_lt_succ 63) hblock
  rw [List.append_nil] at hlast
  have hlast := hlast.trans (absorb_of_lt (Nat.zero_lt_succ 63))
  have hfinish :
    s.finish.1 = (transform s.closeMessage.state (s.closeMessage.buffer.take s.closeMessage.bufferedBytes ++
      (List.replicate (56 - s.closeMessage.bufferedBytes) 0 ++
        Sha256.bigEndian 8 (8 * message.length)))).toList.flatMap storeBe32 := by
    rw [← hbits, ← hlengthBytes, finish, if_neg (by rw [hopen]; exact Bool.false_ne_true)]
  rw [hdigest, habsorb, pending, hlast, hfinish]

end SoundSha256

/-! ## Whole messages -/

namespace SoundSha256

/-- However a message is cut, every `update` takes its piece, and the hash has taken in the whole. -/
theorem updates_spec {s : SoundSha256} {message : List UInt8} (pieces : List (List UInt8))
    (h : s.Absorbed message)
    (hlength : message.length + pieces.flatten.length < 0x2000000000000000) :
    answers update s pieces = List.replicate pieces.length true ∧
    (after update s pieces).Absorbed (message ++ pieces.flatten) := by
  induction pieces generalizing s message with
  | nil =>
    rw [List.flatten_nil, List.append_nil]
    exact ⟨rfl, h⟩
  | cons piece pieces ih =>
    rw [List.flatten_cons, List.length_append] at hlength
    have hpiece := update_spec piece h (by omega)
    have hrest := ih hpiece.2 (by rw [List.length_append]; omega)
    constructor
    · rw [answers, hpiece.1, hrest.1, List.length_cons, List.replicate_succ]
    · rw [after_cons, List.flatten_cons, ← List.append_assoc]
      exact hrest.2

end SoundSha256

/-- **The hash is SHA-256 of the pieces together.** -/
theorem sound_sha256_incremental (pieces : List (List UInt8))
    (h : pieces.flatten.length < 0x2000000000000000) :
    answers SoundSha256.update {} pieces = List.replicate pieces.length true ∧
      (after SoundSha256.update {} pieces).finish.1 = Sha256.digest pieces.flatten ∧
      (after SoundSha256.update {} pieces).finish.2.finish = (after SoundSha256.update {} pieces).finish ∧
      ∀ others : List (List UInt8), others.flatten = pieces.flatten →
        (after SoundSha256.update {} others).finish.1 = (after SoundSha256.update {} pieces).finish.1 := by
  have hspec :=
    SoundSha256.updates_spec pieces SoundSha256.absorbed_nil (by rwa [List.length_nil, Nat.zero_add])
  rw [List.nil_append] at hspec
  refine ⟨hspec.1, SoundSha256.finish_spec hspec.2, SoundSha256.finish_finish _, ?_⟩
  intro others hothers
  have hother :=
    SoundSha256.updates_spec others SoundSha256.absorbed_nil (by
    rwa [hothers, List.length_nil, Nat.zero_add])
  rw [List.nil_append, hothers] at hother
  rw [SoundSha256.finish_spec hother.2, SoundSha256.finish_spec hspec.2]

/-- `"abc"` in two pieces, one of them empty. -/
theorem sound_sha256_incremental_abc :
    (after SoundSha256.update {} [[97, 98], [], [99]]).finish.1 = Sha256.digest [97, 98, 99] :=
  (sound_sha256_incremental [[97, 98], [], [99]] (by decide)).2.1

end CodexKeyboard.Assets
