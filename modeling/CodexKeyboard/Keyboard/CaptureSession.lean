import CodexKeyboard.Voice.Capture
import Mathlib.Algebra.Ring.Nat
/-!
# The session id of a capture

Slot, generation and connection of a capture packed into the 64 bits that every audio packet
carries. The keyboard packs and unpacks them (`components/keyboard/src/codex_slot_state.cpp`), the
host unpacks them (`lan_voice.rs`).

| here | there |
| --- | --- |
| `encodeCaptureSessionIdentity` | `encode_capture_session_identity` (codex_slot_state.cpp:7) |
| `decodeCaptureSessionIdentity` | `decode_capture_session_identity` (codex_slot_state.cpp:22) |
| `Voice.decodeCaptureSessionIdentity` | `decode_capture_session_identity` (lan_voice.rs:1309) |
-/

namespace CodexKeyboard.Keyboard

structure CaptureSessionIdentity where
  slot : UInt8 := 0
  captureGeneration : UInt32 := 0
  connectionGeneration : UInt32 := 0
deriving DecidableEq, Repr

def captureSessionMagic : UInt8 := 0xEC
def captureSessionMaxConnectionGeneration : UInt32 := 0x000FFFFF

/-- The zero id stands for an identity that cannot be packed. -/
def encodeCaptureSessionIdentity (identity : CaptureSessionIdentity) : UInt64 :=
  if identity.slot < 1 ∨ identity.slot > 4 ∨ identity.captureGeneration = 0 ∨
    identity.connectionGeneration = 0
      ∨ identity.connectionGeneration > captureSessionMaxConnectionGeneration then 0
  else
    captureSessionMagic.toUInt64 <<< 56 ||| identity.slot.toUInt64 <<< 52 |||
      identity.connectionGeneration.toUInt64 <<< 32
      ||| identity.captureGeneration.toUInt64

def decodeCaptureSessionIdentity (sessionId : UInt64) : Option CaptureSessionIdentity :=
  if (sessionId >>> 56).toUInt8 ≠ captureSessionMagic ∨ sessionId >>> 52 &&& 0x0F < 1 ∨
    sessionId >>> 52 &&& 0x0F > 4 then none
  else
    let decoded : CaptureSessionIdentity :=
      { slot := (sessionId >>> 52 &&& 0x0F).toUInt8
        captureGeneration := (sessionId &&& 0xFFFFFFFF).toUInt32
        connectionGeneration :=
          (sessionId >>> 32 &&& captureSessionMaxConnectionGeneration.toUInt64).toUInt32 }
    if decoded.captureGeneration = 0 ∨ decoded.connectionGeneration = 0 then none else some decoded

namespace CaptureSessionIdentity

/-- The identity as the host has it. -/
def onHost (identity : CaptureSessionIdentity) : Voice.CaptureSessionIdentity :=
  { slot := identity.slot.toNat, captureGeneration := identity.captureGeneration.toNat
    connectionGeneration := identity.connectionGeneration.toNat }

/-- An identity that has an id. -/
def Packs (identity : CaptureSessionIdentity) : Prop :=
  1 ≤ identity.slot.toNat ∧ identity.slot.toNat ≤ 4 ∧ identity.captureGeneration.toNat ≠ 0
    ∧ identity.connectionGeneration.toNat ≠ 0 ∧ identity.connectionGeneration.toNat < 0x100000

/-- The packed number, field by field. -/
def packed (identity : CaptureSessionIdentity) : Nat :=
  0x100000000 * (0x100000 * (16 * 0xEC + identity.slot.toNat) + identity.connectionGeneration.toNat)
    + identity.captureGeneration.toNat

end CaptureSessionIdentity

open CaptureSessionIdentity

/-! ## Bit fields -/

theorem toNat_shiftLeft {value : UInt64} {bits width : Nat} (hbits : bits < 64)
    (hvalue : value.toNat < 2 ^ width)
    (hwidth : bits + width ≤ 64) : (value <<< UInt64.ofNat bits).toNat = 2 ^ bits * value.toNat := by
  have hlt : 2 ^ bits * value.toNat < 2 ^ 64 :=
    calc
      2 ^ bits * value.toNat <
        2 ^ bits * 2 ^ width := Nat.mul_lt_mul_of_pos_left hvalue (Nat.two_pow_pos bits)
      _ = 2 ^ (bits + width) := (Nat.pow_add 2 bits width).symm
      _ ≤ 2 ^ 64 := Nat.pow_le_pow_right (by omega) hwidth
  rw [UInt64.toNat_shiftLeft,
    UInt64.toNat_ofNat_of_lt' (Nat.lt_trans hbits (by decide)), Nat.mod_eq_of_lt hbits,
    Nat.shiftLeft_eq, Nat.mul_comm, Nat.mod_eq_of_lt hlt]

theorem toNat_shiftRight (value : UInt64) {bits : Nat} (hbits : bits < 64) :
    (value >>> UInt64.ofNat bits).toNat = value.toNat / 2 ^ bits := by
  rw [UInt64.toNat_shiftRight,
    UInt64.toNat_ofNat_of_lt' (Nat.lt_trans hbits (by decide)), Nat.mod_eq_of_lt hbits,
    Nat.shiftRight_eq_div_pow]

/-- The fields do not overlap, so or-ing them adds them up. -/
theorem or_fields {magic slot connection capture : Nat} (hslot : slot < 2 ^ 4)
    (hconnection : connection < 2 ^ 20)
    (hcapture : capture < 2 ^ 32) :
    2 ^ 56 * magic ||| 2 ^ 52 * slot ||| 2 ^ 32 * connection ||| capture
      = 0x100000000 * (0x100000 * (16 * magic + slot) + connection) + capture := by
  have hslots := Nat.two_pow_add_eq_or_of_lt (i := 56) (b := 2 ^ 52 * slot) (by omega) magic
  have hconnections :=
    Nat.two_pow_add_eq_or_of_lt (i := 52) (b := 2 ^ 32 * connection) (by omega) (16 * magic + slot)
  have hcaptures := Nat.two_pow_add_eq_or_of_lt hcapture (2 ^ 20 * (16 * magic + slot) + connection)
  have hsum : 0x100000000 * (0x100000 * (16 * magic + slot) + connection) + capture
      = 2 ^ 32 * (2 ^ 20 * (16 * magic + slot) + connection) + capture := by omega
  rw [hsum, ← hslots, show 2 ^ 56 * magic + 2 ^ 52 * slot = 2 ^ 52 * (16 * magic + slot) by omega,
    ← hconnections,
    show 2 ^ 52 * (16 * magic + slot) + 2 ^ 32 * connection =
      2 ^ 32 * (2 ^ 20 * (16 * magic + slot) + connection) by omega,
    ← hcaptures]

/-! ## The two directions -/

theorem packs_iff {identity : CaptureSessionIdentity} :
    ¬ (identity.slot < 1 ∨ identity.slot > 4 ∨ identity.captureGeneration = 0 ∨
      identity.connectionGeneration = 0
      ∨ identity.connectionGeneration > captureSessionMaxConnectionGeneration) ↔ identity.Packs := by
  simp only [Packs, gt_iff_lt, UInt8.lt_iff_toNat_lt, UInt32.lt_iff_toNat_lt, ← UInt32.toNat_inj,
    captureSessionMaxConnectionGeneration, show (1 : UInt8).toNat = 1 from
      rfl, show (4 : UInt8).toNat = 4 from rfl,
    show (0 : UInt32).toNat = 0 from rfl, show (0x000FFFFF : UInt32).toNat = 0xFFFFF from rfl]
  omega

theorem toNat_encode {identity : CaptureSessionIdentity} (h : identity.Packs) :
    (encodeCaptureSessionIdentity identity).toNat = identity.packed := by
  have hslot : identity.slot.toUInt64.toNat < 2 ^ 3 := by
    rw [UInt8.toNat_toUInt64]
    exact Nat.lt_of_le_of_lt h.2.1 (by decide)
  have hconnection : identity.connectionGeneration.toUInt64.toNat < 2 ^ 20 := by
    rw [UInt32.toNat_toUInt64]
    exact h.2.2.2.2
  have hcapture := identity.captureGeneration.toNat_lt
  have hmagic : (captureSessionMagic.toUInt64 <<< 56).toNat = 2 ^ 56 * 0xEC :=
    @toNat_shiftLeft captureSessionMagic.toUInt64 56 8 (by decide) (by decide) (by decide)
  have hslots : (identity.slot.toUInt64 <<< 52).toNat = 2 ^ 52 * identity.slot.toUInt64.toNat :=
    @toNat_shiftLeft _ 52 _ (by decide) hslot (by decide)
  have hconnections :
      (identity.connectionGeneration.toUInt64 <<< 32).toNat =
        2 ^ 32 * identity.connectionGeneration.toUInt64.toNat :=
    @toNat_shiftLeft _ 32 _ (by decide) hconnection (by decide)
  rw [UInt8.toNat_toUInt64] at hslot hslots
  rw [UInt32.toNat_toUInt64] at hconnection hconnections
  rw [encodeCaptureSessionIdentity, if_neg (packs_iff.mpr h),
    UInt64.toNat_or, UInt64.toNat_or, UInt64.toNat_or,
    UInt32.toNat_toUInt64, hmagic, hslots, hconnections]
  exact or_fields (Nat.lt_of_le_of_lt h.2.1 (by decide)) hconnection hcapture

theorem packed_pos (identity : CaptureSessionIdentity) : 0 < identity.packed := by
  rw [packed]
  omega

theorem encode_ne_zero_iff {identity : CaptureSessionIdentity} :
    encodeCaptureSessionIdentity identity ≠ 0 ↔ identity.Packs := by
  constructor
  · intro h
    rw [← packs_iff]
    intro hinvalid
    rw [encodeCaptureSessionIdentity, if_pos hinvalid] at h
    exact h rfl
  · intro h hzero
    have hvalue := toNat_encode h
    have hpos := packed_pos identity
    rw [hzero] at hvalue
    exact Nat.ne_of_gt hpos hvalue.symm

/-- The fields of a packed number are those it was packed from. -/
theorem fields_iff {identity : CaptureSessionIdentity} {session : Nat} (hsession : session < 2 ^ 64) :
    (identity.Packs ∧ session / 0x100000000000000 = 0xEC ∧
      session / 0x10000000000000 % 16 = identity.slot.toNat
        ∧ session / 0x100000000 % 0x100000 = identity.connectionGeneration.toNat
        ∧ session % 0x100000000 = identity.captureGeneration.toNat) ↔
      identity.Packs ∧ session = identity.packed := by
  refine and_congr_right fun hpacks => ?_
  obtain ⟨hlow, hhigh, -, -, hmax⟩ := hpacks
  have hcapture := identity.captureGeneration.toNat_lt
  rw [packed]
  omega

theorem magic_iff (sessionId : UInt64) :
    (sessionId >>> 56).toUInt8 = captureSessionMagic ↔ sessionId.toNat / 0x100000000000000 = 0xEC := by
  have hshift : (sessionId >>> 56).toNat = sessionId.toNat / 2 ^ 56 :=
    toNat_shiftRight sessionId (by decide)
  have hlt := sessionId.toNat_lt
  rw [← UInt8.toNat_inj, UInt64.toNat_toUInt8, hshift, show captureSessionMagic.toNat = 0xEC from rfl]
  omega

theorem toNat_slotField (sessionId : UInt64) :
    (sessionId >>> 52 &&& 0x0F).toNat = sessionId.toNat / 0x10000000000000 % 16 := by
  have hshift : (sessionId >>> 52).toNat = sessionId.toNat / 2 ^ 52 :=
    toNat_shiftRight sessionId (by decide)
  rw [UInt64.toNat_and, hshift]
  exact Nat.and_two_pow_sub_one_eq_mod _ 4

theorem toNat_connectionField (sessionId : UInt64) :
    (sessionId >>> 32 &&& captureSessionMaxConnectionGeneration.toUInt64).toNat =
      sessionId.toNat / 0x100000000 % 0x100000 := by
  have hshift : (sessionId >>> 32).toNat = sessionId.toNat / 2 ^ 32 :=
    toNat_shiftRight sessionId (by decide)
  rw [UInt64.toNat_and, hshift]
  exact Nat.and_two_pow_sub_one_eq_mod _ 20

theorem toNat_captureField (sessionId : UInt64) :
    (sessionId &&& 0xFFFFFFFF).toNat = sessionId.toNat % 0x100000000 := by
  rw [UInt64.toNat_and]
  exact Nat.and_two_pow_sub_one_eq_mod _ 32

/-- What the decoder of the keyboard reads before its checks on the generations. -/
def unpacked (sessionId : UInt64) : CaptureSessionIdentity :=
  { slot := (sessionId >>> 52 &&& 0x0F).toUInt8
    captureGeneration := (sessionId &&& 0xFFFFFFFF).toUInt32
    connectionGeneration := (sessionId >>> 32 &&& captureSessionMaxConnectionGeneration.toUInt64).toUInt32 }

theorem toNat_unpacked (sessionId : UInt64) :
    (unpacked sessionId).slot.toNat = sessionId.toNat / 0x10000000000000 % 16
      ∧ (unpacked sessionId).captureGeneration.toNat = sessionId.toNat % 0x100000000
      ∧ (unpacked sessionId).connectionGeneration.toNat = sessionId.toNat / 0x100000000 % 0x100000 := by
  simp only [unpacked, UInt64.toNat_toUInt8, UInt64.toNat_toUInt32, toNat_slotField,
    toNat_connectionField, toNat_captureField]
  omega

/-- The decoder of the keyboard, on numbers. -/
theorem decode_eq_some {sessionId : UInt64} {identity : CaptureSessionIdentity} :
    decodeCaptureSessionIdentity sessionId = some identity ↔ identity.Packs ∧
    sessionId.toNat = identity.packed := by
  rw [← fields_iff sessionId.toNat_lt]
  obtain ⟨hslot, hcapture, hconnection⟩ := toNat_unpacked sessionId
  have hfield := toNat_slotField sessionId
  have hrange :
    ¬ ((sessionId >>> 56).toUInt8 ≠ captureSessionMagic ∨ sessionId >>> 52 &&& 0x0F < 1 ∨
    sessionId >>> 52 &&& 0x0F > 4) ↔
      sessionId.toNat / 0x100000000000000 = 0xEC ∧ 1 ≤ (unpacked sessionId).slot.toNat ∧
      (unpacked sessionId).slot.toNat ≤ 4 := by
    simp only [not_or, not_not, magic_iff, gt_iff_lt, UInt64.not_lt, UInt64.le_iff_toNat_le, hfield, hslot,
      show (1 : UInt64).toNat = 1 from rfl, show (4 : UInt64).toNat = 4 from rfl]
  have hgenerations :
    ¬ ((unpacked sessionId).captureGeneration = 0 ∨ (unpacked sessionId).connectionGeneration = 0) ↔
      (unpacked sessionId).captureGeneration.toNat ≠ 0 ∧
        (unpacked sessionId).connectionGeneration.toNat ≠ 0 := by
    simp only [not_or, ← UInt32.toNat_inj, show (0 : UInt32).toNat = 0 from rfl, ne_eq]
  have heq : decodeCaptureSessionIdentity sessionId =
      if (sessionId >>> 56).toUInt8 ≠ captureSessionMagic ∨ sessionId >>> 52 &&& 0x0F < 1 ∨
        sessionId >>> 52 &&& 0x0F > 4 then none
      else if (unpacked sessionId).captureGeneration = 0 ∨
      (unpacked sessionId).connectionGeneration = 0 then none
      else some (unpacked sessionId) := rfl
  rw [heq]
  constructor
  · intro h
    split at h
    · cases h
    · rename_i hmagic
      split at h
      · cases h
      · rename_i hnonzero
        obtain rfl := Option.some.inj h
        obtain ⟨hmagic, hlow, hhigh⟩ := hrange.mp hmagic
        obtain ⟨hcapture', hconnection'⟩ := hgenerations.mp hnonzero
        exact ⟨⟨hlow, hhigh, hcapture', hconnection', by omega⟩, hmagic,
          hslot.symm, hconnection.symm, hcapture.symm⟩
  · rintro ⟨⟨hlow, hhigh, hcapture', hconnection', -⟩, hmagic, hslot', hconnection'', hcapture''⟩
    have hidentity : unpacked sessionId = identity := by
      rw [CaptureSessionIdentity.mk.injEq]
      exact ⟨UInt8.toNat_inj.mp (hslot.trans hslot'), UInt32.toNat_inj.mp (hcapture.trans hcapture''),
        UInt32.toNat_inj.mp (hconnection.trans hconnection'')⟩
    rw [if_neg (hrange.mpr ⟨hmagic, hidentity ▸ hlow, hidentity ▸ hhigh⟩),
      if_neg (hgenerations.mpr ⟨hidentity ▸ hcapture', hidentity ▸ hconnection'⟩), hidentity]

theorem onHost_unpacked (sessionId : UInt64) :
    (unpacked sessionId).onHost =
      { slot := (sessionId.toNat >>> 52) &&& 0x0F,
        connectionGeneration := (sessionId.toNat >>> 32) &&& 0x000FFFFF
        captureGeneration := sessionId.toNat % 0x100000000 } := by
  obtain ⟨hslot, hcapture, hconnection⟩ := toNat_unpacked sessionId
  have hslots : (sessionId.toNat >>> 52) &&& 0x0F = sessionId.toNat / 0x10000000000000 % 16 := by
    rw [Nat.shiftRight_eq_div_pow]
    exact Nat.and_two_pow_sub_one_eq_mod _ 4
  have hconnections :
    (sessionId.toNat >>> 32) &&& 0x000FFFFF = sessionId.toNat / 0x100000000 % 0x100000 := by
    rw [Nat.shiftRight_eq_div_pow]
    exact Nat.and_two_pow_sub_one_eq_mod _ 20
  rw [onHost, hslot, hcapture, hconnection, hslots, hconnections]

theorem onHost_inj {left right : CaptureSessionIdentity} (h : left.onHost = right.onHost) :
    left = right := by
  simp only [onHost, Voice.CaptureSessionIdentity.mk.injEq, UInt8.toNat_inj, UInt32.toNat_inj] at h
  rw [CaptureSessionIdentity.mk.injEq]
  exact h

/-- The decoder of the host, on numbers. -/
theorem decode_host_eq_ok {sessionId : UInt64} {decoded : Voice.CaptureSessionIdentity} :
    Voice.decodeCaptureSessionIdentity sessionId.toNat = .ok decoded ↔
      ∃ identity : CaptureSessionIdentity, identity.onHost = decoded ∧ identity.Packs ∧
      sessionId.toNat = identity.packed := by
  obtain ⟨hslot, hcapture, hconnection⟩ := toNat_unpacked sessionId
  have hmagic : (sessionId.toNat >>> 56) % 0x100 = sessionId.toNat / 0x100000000000000 := by
    have hlt := sessionId.toNat_lt
    rw [Nat.shiftRight_eq_div_pow]
    omega
  have hiff := @fields_iff (unpacked sessionId) _ sessionId.toNat_lt
  have heq : Voice.decodeCaptureSessionIdentity sessionId.toNat =
      if sessionId.toNat / 0x100000000000000 ≠ 0xEC then .error .invalidSession
      else if ¬ (1 ≤ (unpacked sessionId).slot.toNat ∧ (unpacked sessionId).slot.toNat ≤ 4)
          ∨ (unpacked sessionId).connectionGeneration.toNat = 0 ∨
          (unpacked sessionId).captureGeneration.toNat = 0 then
        .error .invalidSession
      else .ok (unpacked sessionId).onHost := by
    rw [Voice.decodeCaptureSessionIdentity, hmagic, ← onHost_unpacked]
    rfl
  rw [heq]
  constructor
  · intro h
    split at h
    · cases h
    · rename_i hheader
      split at h
      · cases h
      · rename_i hfields
        simp only [not_or, not_not] at hheader hfields
        cases h
        refine ⟨unpacked sessionId, rfl, hiff.mp ⟨?_, hheader, hslot.symm, hconnection.symm, hcapture.symm⟩⟩
        exact ⟨hfields.1.1, hfields.1.2, hfields.2.2, hfields.2.1, by omega⟩
  · rintro ⟨identity, hdecoded, hpacks⟩
    obtain ⟨hpacks, hheader, hslot', hconnection', hcapture'⟩ := (fields_iff sessionId.toNat_lt).mpr hpacks
    have hidentity : unpacked sessionId = identity := by
      rw [CaptureSessionIdentity.mk.injEq]
      exact ⟨UInt8.toNat_inj.mp (hslot.trans hslot'), UInt32.toNat_inj.mp (hcapture.trans hcapture'),
        UInt32.toNat_inj.mp (hconnection.trans hconnection')⟩
    obtain ⟨hlow, hhigh, hcapture, hconnection, -⟩ := hpacks
    rw [hidentity, if_neg (not_not.mpr hheader), if_neg]
    · exact congrArg Except.ok hdecoded
    · simp only [not_or, not_not]
      exact ⟨⟨hlow, hhigh⟩, hconnection, hcapture⟩

/-- Keyboard and host read the same capture out of an id, and both accept exactly the ids that the
keyboard gives out, each of which belongs to one capture. -/
theorem capture_session_identity_agrees :
    (∀ identity, encodeCaptureSessionIdentity identity ≠ 0 →
      decodeCaptureSessionIdentity (encodeCaptureSessionIdentity identity) = some identity
        ∧ Voice.decodeCaptureSessionIdentity (encodeCaptureSessionIdentity identity).toNat =
          .ok identity.onHost) ∧
    (∀ sessionId identity, decodeCaptureSessionIdentity sessionId = some identity ↔
      sessionId ≠ 0 ∧ encodeCaptureSessionIdentity identity = sessionId) ∧
    (∀ sessionId : UInt64, ∀ decoded, Voice.decodeCaptureSessionIdentity sessionId.toNat = .ok decoded ↔
      ∃ identity : CaptureSessionIdentity, identity.onHost = decoded ∧ sessionId ≠ 0
        ∧ encodeCaptureSessionIdentity identity = sessionId) ∧
    (∀ left right, encodeCaptureSessionIdentity left ≠ 0 →
      encodeCaptureSessionIdentity left = encodeCaptureSessionIdentity right → left = right) := by
  have himage : ∀ (sessionId : UInt64) (identity : CaptureSessionIdentity),
      identity.Packs ∧ sessionId.toNat = identity.packed ↔ sessionId ≠ 0 ∧
      encodeCaptureSessionIdentity identity = sessionId := by
    intro sessionId identity
    constructor
    · rintro ⟨hpacks, hvalue⟩
      have heq : encodeCaptureSessionIdentity identity = sessionId :=
        UInt64.toNat_inj.mp ((toNat_encode hpacks).trans hvalue.symm)
      exact ⟨heq ▸ encode_ne_zero_iff.mpr hpacks, heq⟩
    · rintro ⟨hne, rfl⟩
      have hpacks := encode_ne_zero_iff.mp hne
      exact ⟨hpacks, toNat_encode hpacks⟩
  have hdecode : ∀ identity, encodeCaptureSessionIdentity identity ≠ 0 →
      decodeCaptureSessionIdentity (encodeCaptureSessionIdentity identity) = some identity :=
    fun identity hne => decode_eq_some.mpr ((himage _ identity).mpr ⟨hne, rfl⟩)
  refine ⟨fun identity hne =>
    ⟨hdecode identity hne, decode_host_eq_ok.mpr ⟨identity, rfl, (himage _ identity).mpr ⟨hne, rfl⟩⟩⟩,
    fun sessionId identity => decode_eq_some.trans (himage sessionId identity), fun sessionId decoded => ?_,
    fun left right hne heq => ?_⟩
  · rw [decode_host_eq_ok]
    exact exists_congr fun identity => and_congr_right fun _ => himage sessionId identity
  · have hleft := hdecode left hne
    rw [heq, hdecode right (heq ▸ hne)] at hleft
    exact (Option.some.inj hleft).symm

theorem capture_session_identity_agrees_slot_two :
    decodeCaptureSessionIdentity (encodeCaptureSessionIdentity ⟨2, 9, 5⟩) = some ⟨2, 9, 5⟩
      ∧ Voice.decodeCaptureSessionIdentity (encodeCaptureSessionIdentity ⟨2, 9, 5⟩).toNat = .ok ⟨2, 9, 5⟩ :=
  capture_session_identity_agrees.1 ⟨2, 9, 5⟩ (by decide)

end CodexKeyboard.Keyboard
