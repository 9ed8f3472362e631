import CodexKeyboard.Assets.Protocol
import CodexKeyboard.Lib.Transaction
/-!
# Wi-Fi records

A record carries one frame over TCP: a header of 16 bytes, a tag over the header and the frame, and
the frame (`speaker_assets_wifi_wire.cpp:290-383`). HMAC-SHA-256 is the parameter `hmac`, a function
of the key and of all bytes it was updated with.

| here | there |
| --- | --- |
| `SpeakerAssetsWifiRecord` | speaker_assets_wifi_wire.h:66 |
| `constantTimeEqual`, `keyIsValid` | speaker_assets_wifi_wire.cpp:60, 118 |
| `encodeSpeakerAssetsWifiRecord` | speaker_assets_wifi_wire.cpp:290 |
| `decodeSpeakerAssetsWifiRecord` | speaker_assets_wifi_wire.cpp:332 |

A kind has no value outside its enumeration, so `record_kind_is_valid` has nothing to refuse; null
pointers are left out.
-/

namespace CodexKeyboard.Assets

open Lib Buffer

inductive SpeakerAssetsWifiRecordKind where
  | request
  | response
deriving DecidableEq, Repr

def SpeakerAssetsWifiRecordKind.code : SpeakerAssetsWifiRecordKind → UInt8
  | .request => 1
  | .response => 2

structure SpeakerAssetsWifiRecord where
  kind : SpeakerAssetsWifiRecordKind := .request
  sequence : UInt32 := 0
  payloadLength : UInt16 := 0
  payload : Vector UInt8 wifiFrameMaxBytes := Vector.replicate _ 0
deriving DecidableEq, Repr

def wifiWireVersion : UInt8 := 1
def wifiTagBytes : Nat := 16
def wifiRecordHeaderBytes : Nat := 32
def wifiRecordMaxBytes : Nat := 157

/-- The bytes that differ are collected, not compared one by one. -/
def constantTimeEqual (first second : List UInt8) (length : Nat) : Bool :=
  (List.range length).foldl (fun difference index =>
    difference ||| (first.getD index 0 ^^^ second.getD index 0)) (0 : UInt8) == 0

def keyIsValid (key : SoundSha256Digest) : Bool := key.toList.any (· != 0)

/-- A payload array that starts with the given bytes. -/
def payloadOf (bytes : List UInt8) : Vector UInt8 wifiFrameMaxBytes :=
  Vector.ofFn fun i => bytes.getD i.val 0

/-- The first `payloadLength` bytes of the payload. -/
def SpeakerAssetsWifiRecord.frame (record : SpeakerAssetsWifiRecord) : List UInt8 :=
  record.payload.toList.take record.payloadLength.toNat

variable (hmac : SoundSha256Digest → List UInt8 → SoundSha256Digest)

/-- What an encoder that takes the record has checked. -/
def SpeakerAssetsWifiRecord.Encodable (record : SpeakerAssetsWifiRecord)
    (sessionKey : SoundSha256Digest) : Prop :=
  record.sequence ≠ 0 ∧ frameHeaderBytes ≤ record.payloadLength.toNat ∧
    record.payloadLength.toNat ≤ wifiFrameMaxBytes ∧ keyIsValid sessionKey = true

instance (record : SpeakerAssetsWifiRecord) (sessionKey : SoundSha256Digest) :
    Decidable (record.Encodable sessionKey) :=
  inferInstanceAs (Decidable (_ ∧ _))

/-- Header and frame in the zeroed array, before the tag. -/
def untagged (record : SpeakerAssetsWifiRecord) : List UInt8 :=
  let encoded := put (List.replicate wifiRecordMaxBytes 0) 0 (magic "EISF")
  let encoded := putU8 encoded 4 wifiWireVersion
  let encoded := putU8 encoded 5 record.kind.code
  let encoded := putU16 encoded 6 record.payloadLength
  let encoded := putU32 encoded 8 record.sequence
  put encoded wifiRecordHeaderBytes record.frame

/-- The tag over the first 16 bytes and `n` bytes of the frame. -/
def recordTag (sessionKey : SoundSha256Digest) (encoded : List UInt8) (n : Nat) : SoundSha256Digest :=
  hmac sessionKey (slice encoded 0 16 ++ slice encoded wifiRecordHeaderBytes n)

/-- The encoded array and how much of it is the record. -/
def encodeSpeakerAssetsWifiRecord (record : SpeakerAssetsWifiRecord) (sessionKey : SoundSha256Digest) :
    Option (List UInt8 × Nat) :=
  if record.Encodable sessionKey then
    let encoded := untagged record
    let digest := recordTag hmac sessionKey encoded record.payloadLength.toNat
    some (put encoded 16 (digest.toList.take wifiTagBytes),
      wifiRecordHeaderBytes + record.payloadLength.toNat)
  else none

/-- What the decoder checks before it reads a field. -/
def recordHeaderIsValid (encoded : List UInt8) (sessionKey : SoundSha256Digest)
    (expectedKind : SpeakerAssetsWifiRecordKind) : Prop :=
  wifiRecordHeaderBytes ≤ encoded.length ∧ encoded.length ≤ wifiRecordMaxBytes ∧
  keyIsValid sessionKey = true
    ∧ constantTimeEqual encoded (magic "EISF") 4 = true ∧ getU8 encoded 4 = wifiWireVersion
    ∧ getU8 encoded 5 = expectedKind.code ∧ getU8 encoded 12 = 0 ∧ getU8 encoded 13 = 0 ∧
    getU8 encoded 14 = 0
    ∧ getU8 encoded 15 = 0

instance (encoded : List UInt8) (sessionKey : SoundSha256Digest)
    (expectedKind : SpeakerAssetsWifiRecordKind) :
    Decidable (recordHeaderIsValid encoded sessionKey expectedKind) := inferInstanceAs (Decidable (_ ∧ _))

def decodeSpeakerAssetsWifiRecord (encoded : List UInt8) (sessionKey : SoundSha256Digest)
    (expectedKind : SpeakerAssetsWifiRecordKind) : Option SpeakerAssetsWifiRecord :=
  let n := (getU16 encoded 6).toNat
  if recordHeaderIsValid encoded sessionKey expectedKind ∧ getU32 encoded 8 ≠ 0 ∧ frameHeaderBytes ≤ n
      ∧ n ≤ wifiFrameMaxBytes ∧ encoded.length = wifiRecordHeaderBytes + n
      ∧ constantTimeEqual (recordTag hmac sessionKey encoded n).toList
        (encoded.drop 16) wifiTagBytes = true then
    some { kind := expectedKind, sequence := getU32 encoded 8, payloadLength := getU16 encoded 6
           payload := payloadOf (slice encoded wifiRecordHeaderBytes n) }
  else none

/-! ## The image of a record -/

variable {hmac} {key : SoundSha256Digest} {record : SpeakerAssetsWifiRecord} {encoded : List UInt8}

theorem constantTimeEqual_iff {first second : List UInt8} {length : Nat} (hfirst : length ≤ first.length)
    (hsecond : length ≤ second.length) :
    constantTimeEqual first second length = true ↔ first.take length = second.take length := by
  rw [constantTimeEqual, beq_iff_eq, foldl_difference]
  constructor
  · intro h
    refine eq_of_getD (List.length_take_of_le hfirst)
      (List.length_take_of_le hsecond) fun index hindex => ?_
    rw [getD_take _ hindex, getD_take _ hindex]
    exact h index hindex
  · intro h index hindex
    rw [← getD_take first hindex, h, getD_take second hindex]

@[simp] theorem length_untagged (record : SpeakerAssetsWifiRecord) :
    (untagged record).length = wifiRecordMaxBytes := by
  simp [untagged]

theorem length_frame (h : record.payloadLength.toNat ≤ wifiFrameMaxBytes) :
    record.frame.length = record.payloadLength.toNat := by
  rw [SpeakerAssetsWifiRecord.frame, List.length_take, Vector.length_toList]
  omega

theorem length_recordTag (encoded : List UInt8) (n : Nat) :
    ((recordTag hmac key encoded n).toList.take wifiTagBytes).length = 16 := by
  rw [List.length_take, Vector.length_toList]
  rfl

/-- The fields of a record, one after the other. -/
def recordFields (record : SpeakerAssetsWifiRecord) (tag : List UInt8) : List (List UInt8) :=
  [magic "EISF", [wifiWireVersion], [record.kind.code], toLe 2 record.payloadLength.toNat,
    toLe 4 record.sequence.toNat,
    [0], [0], [0], [0], tag, record.frame]

/-- The bytes are the record under the key: its fields and the tag over them, and nothing else. -/
structure IsRecord (hmac : SoundSha256Digest → List UInt8 → SoundSha256Digest) (key : SoundSha256Digest)
    (record : SpeakerAssetsWifiRecord) (encoded : List UInt8) : Prop where
  encodable : record.Encodable key
  length_eq : encoded.length = wifiRecordHeaderBytes + record.payloadLength.toNat
  fields_eq : fields encoded 0 [4, 1, 1, 2, 4, 1, 1, 1, 1, 16, record.payloadLength.toNat] =
    recordFields record ((recordTag hmac key encoded record.payloadLength.toNat).toList.take wifiTagBytes)

theorem length_magic_eisf : (magic "EISF").length = 4 := by decide

theorem untagged_fields (h : record.payloadLength.toNat ≤ wifiFrameMaxBytes) :
    fields (untagged record) 0 [4, 1, 1, 2, 4, 1, 1, 1, 1, 16, record.payloadLength.toNat] =
      recordFields record (List.replicate 16 0) := by
  have hframe := length_frame h
  rw [wifiFrameMaxBytes] at h
  -- the array is not to be written out
  simp (disch := simp [-List.reduceReplicate, wifiRecordMaxBytes, length_magic_eisf, hframe] <;>
    omega) only [untagged,
    wifiRecordHeaderBytes, fields, recordFields, putU8, putU16, putU32, slice_put_self,
      slice_put_of_disjoint, Nat.reduceAdd]
  rfl

/-- The tag is that of the fields before it and the frame. -/
theorem recordTag_eq {tag : List UInt8} {encoded : List UInt8}
    (h : fields encoded 0 [4, 1, 1, 2, 4, 1, 1, 1, 1, 16, record.payloadLength.toNat] =
      recordFields record tag) :
    recordTag hmac key encoded record.payloadLength.toNat =
      hmac key (((recordFields record []).take 9).flatten ++ record.frame) := by
  have hhead := flatten_fields encoded 0 [4, 1, 1, 2, 4, 1, 1, 1, 1]
  simp only [fields, recordFields, List.cons.injEq, and_true, Nat.reduceAdd] at h hhead
  have hsum : [4, 1, 1, 2, 4, 1, 1, 1, 1].sum = 16 := by decide
  rw [hsum] at hhead
  rw [recordTag, ← hhead, wifiRecordHeaderBytes, h.2.2.2.2.2.2.2.2.2.2]
  simp only [recordFields, h, List.take_succ_cons, List.take_zero]

theorem IsRecord.ext {left right : List UInt8} (hleft : IsRecord hmac key record left)
    (hright : IsRecord hmac key record right) :
    left = right := by
  have hsum : [4, 1, 1, 2, 4, 1, 1, 1, 1, 16, record.payloadLength.toNat].sum =
      wifiRecordHeaderBytes + record.payloadLength.toNat := by
    simp only [List.sum_cons, List.sum_nil, wifiRecordHeaderBytes]
    omega
  refine eq_of_fields _ (hleft.length_eq.trans hsum.symm).le (hright.length_eq.trans hsum.symm).le ?_
  rw [hleft.fields_eq, hright.fields_eq, recordTag_eq hleft.fields_eq, recordTag_eq hright.fields_eq]

/-! ## Encoding -/

theorem encode_isRecord (h : record.Encodable key) :
    ∃ array, encodeSpeakerAssetsWifiRecord hmac record key =
      some (array, wifiRecordHeaderBytes + record.payloadLength.toNat) ∧
    IsRecord hmac key record (array.take (wifiRecordHeaderBytes + record.payloadLength.toNat)) := by
  have hprefix := untagged_fields h.2.2.1
  have htag := @length_recordTag hmac key (untagged record) record.payloadLength.toNat
  have hmax : record.payloadLength.toNat ≤ 125 := h.2.2.1
  generalize hdigest :
    (recordTag hmac key (untagged record) record.payloadLength.toNat).toList.take wifiTagBytes = tag at htag
  refine ⟨put (untagged record) 16 tag, ?_, h, ?_, ?_⟩
  · rw [← hdigest]
    exact if_pos h
  · rw [List.length_take, length_put, length_untagged, wifiRecordMaxBytes, wifiRecordHeaderBytes]
    omega
  · have hkept : ∀ offset n, offset + n ≤ 16 ∨ 32 ≤ offset → offset + n ≤ 32 + record.payloadLength.toNat →
        slice ((put (untagged record) 16 tag).take
          (wifiRecordHeaderBytes + record.payloadLength.toNat)) offset n =
          slice (untagged record) offset n := by
      intro offset n hapart hwithin
      rw [slice_take _ (by rw [wifiRecordHeaderBytes]; exact hwithin), slice_put_of_disjoint]
      omega
    have hnew :
      slice ((put (untagged record) 16 tag).take
      (wifiRecordHeaderBytes + record.payloadLength.toNat)) 16 16 =
        tag := by
      rw [slice_take _ (by rw [wifiRecordHeaderBytes]; omega), slice_put_self htag]
      rw [length_untagged, wifiRecordMaxBytes]
      omega
    have hfields :
      fields ((put (untagged record) 16 tag).take (wifiRecordHeaderBytes + record.payloadLength.toNat)) 0
        [4, 1, 1, 2, 4, 1, 1, 1, 1, 16, record.payloadLength.toNat] = recordFields record tag := by
      simp only [fields, recordFields, List.cons.injEq, and_true, Nat.reduceAdd] at hprefix
      simp (disch := omega) only [fields, recordFields, hkept, hnew, hprefix, Nat.reduceAdd]
    rw [hfields, recordTag_eq hfields, ← hdigest, recordTag_eq hprefix]

theorem encode_eq_some {array : List UInt8} {length : Nat}
    (h : encodeSpeakerAssetsWifiRecord hmac record key = some (array, length)) :
    length = wifiRecordHeaderBytes + record.payloadLength.toNat ∧
    IsRecord hmac key record (array.take length) := by
  by_cases hencodable : record.Encodable key
  · obtain ⟨array', hencode, hrecord⟩ := @encode_isRecord hmac key record hencodable
    rw [h] at hencode
    cases hencode
    exact ⟨rfl, hrecord⟩
  · rw [encodeSpeakerAssetsWifiRecord, if_neg hencodable] at h
    cases h

/-- The bytes of a record are what the encoder writes for it. -/
theorem IsRecord.encode (h : IsRecord hmac key record encoded) :
    ∃ array, encodeSpeakerAssetsWifiRecord hmac record key = some (array, encoded.length) ∧
      array.take encoded.length = encoded := by
  obtain ⟨array, hencode, hrecord⟩ := @encode_isRecord hmac key record h.encodable
  rw [← h.length_eq] at hencode hrecord
  exact ⟨array, hencode, hrecord.ext h⟩

/-! ## Decoding -/

theorem length_payloadOf_take {bytes : List UInt8} (h : bytes.length ≤ wifiFrameMaxBytes) :
    (payloadOf bytes).toList.take bytes.length = bytes := by
  apply List.ext_getElem?
  intro i
  by_cases hi : i < bytes.length
  · have hmax : i < wifiFrameMaxBytes := hi.trans_le h
    simp [payloadOf, hi, hmax]
  · rw [List.getElem?_eq_none (by rw [List.length_take]; omega), List.getElem?_eq_none (by omega)]

/-- A record whose payload array is zero behind the frame. -/
def SpeakerAssetsWifiRecord.cleared (record : SpeakerAssetsWifiRecord) : SpeakerAssetsWifiRecord :=
  { record with payload := payloadOf record.frame }

theorem cleared_fields (record : SpeakerAssetsWifiRecord) : record.cleared.kind = record.kind ∧
    record.cleared.sequence = record.sequence ∧ record.cleared.payloadLength = record.payloadLength ∧
    record.cleared.payload = payloadOf record.frame := by
  unfold SpeakerAssetsWifiRecord.cleared
  exact ⟨rfl, rfl, rfl, rfl⟩

theorem frame_cleared (h : record.payloadLength.toNat ≤ wifiFrameMaxBytes) :
    record.cleared.frame = record.frame := by
  have hlength := length_frame h
  have htake := length_payloadOf_take (hlength.trans_le h)
  rw [hlength] at htake
  obtain ⟨-, -, hsame, hpayload⟩ := cleared_fields record
  rw [SpeakerAssetsWifiRecord.frame, hpayload, hsame, htake]

theorem IsRecord.decode (h : IsRecord hmac key record encoded) :
    decodeSpeakerAssetsWifiRecord hmac encoded key record.kind = some record.cleared := by
  obtain ⟨hsequence, hmin, hmax, hkey⟩ := h.encodable
  have hlength := h.length_eq
  have hfields := h.fields_eq
  simp only [fields, recordFields, List.cons.injEq, and_true, Nat.reduceAdd] at hfields
  obtain ⟨hmagic, hversion, hkind, hlen, hseq, h12, h13, h14, h15, htag, hframe⟩ := hfields
  have hlen16 : getU16 encoded 6 = record.payloadLength := getU16_of_slice hlen
  have hseq32 : getU32 encoded 8 = record.sequence := getU32_of_slice hseq
  rw [wifiRecordHeaderBytes] at hlength
  have hmax125 : record.payloadLength.toNat ≤ 125 := hmax
  have header : recordHeaderIsValid encoded key record.kind := by
    refine ⟨by rw [hlength, wifiRecordHeaderBytes]; omega,
      by rw [hlength, wifiRecordMaxBytes]; omega, hkey, ?_,
      getU8_of_slice hversion, getU8_of_slice hkind, getU8_of_slice h12, getU8_of_slice h13,
        getU8_of_slice h14,
      getU8_of_slice h15⟩
    rw [constantTimeEqual_iff (by omega) length_magic_eisf.ge, List.take_of_length_le length_magic_eisf.le]
    exact hmagic
  have hverified :
    constantTimeEqual (recordTag hmac key encoded record.payloadLength.toNat).toList
    (encoded.drop 16) wifiTagBytes
      = true := by
    rw [constantTimeEqual_iff (by rw [Vector.length_toList, wifiTagBytes]; omega)
      (by rw [List.length_drop, hlength, wifiTagBytes]; omega)]
    exact htag.symm
  rw [decodeSpeakerAssetsWifiRecord, hlen16, hseq32]
  have hall : recordHeaderIsValid encoded key record.kind ∧ record.sequence ≠ 0 ∧
      frameHeaderBytes ≤ record.payloadLength.toNat ∧ record.payloadLength.toNat ≤ wifiFrameMaxBytes ∧
      encoded.length = wifiRecordHeaderBytes + record.payloadLength.toNat ∧
      constantTimeEqual (recordTag hmac key encoded record.payloadLength.toNat).toList
        (encoded.drop 16) wifiTagBytes = true :=
    ⟨header, hsequence, hmin, hmax, hlength, hverified⟩
  rw [if_pos hall, wifiRecordHeaderBytes, hframe]
  rfl

theorem decode_eq_some {kind : SpeakerAssetsWifiRecordKind}
    (h : decodeSpeakerAssetsWifiRecord hmac encoded key kind = some record) :
    record.kind = kind ∧ IsRecord hmac key record encoded := by
  rw [decodeSpeakerAssetsWifiRecord] at h
  split at h
  · rename_i hall
    obtain ⟨⟨-, -, hkey, hmagic, hversion, hkind, h12, h13, h14, h15⟩,
      hsequence, hmin, hmax, hlength, hverified⟩ := hall
    have hmax125 : (getU16 encoded 6).toNat ≤ 125 := hmax
    rw [wifiRecordHeaderBytes] at hlength
    have hslice :
      (slice encoded wifiRecordHeaderBytes (getU16 encoded 6).toNat).length = (getU16 encoded 6).toNat := by
      rw [length_slice, hlength, wifiRecordHeaderBytes]
      omega
    rw [constantTimeEqual_iff (by omega) length_magic_eisf.ge,
      List.take_of_length_le length_magic_eisf.le] at hmagic
    rw [constantTimeEqual_iff (by rw [Vector.length_toList, wifiTagBytes]; omega)
      (by rw [List.length_drop, hlength, wifiTagBytes]; omega)] at hverified
    cases h
    have hframe := length_payloadOf_take (hslice.trans_le hmax)
    rw [hslice] at hframe
    refine ⟨rfl, ⟨hsequence, hmin, hmax, hkey⟩, hlength, ?_⟩
    simp only [fields, recordFields, Nat.reduceAdd, SpeakerAssetsWifiRecord.frame]
    rw [slice_eq_getU8 (by omega), slice_eq_getU8 (by omega), slice_eq_getU8 (by omega),
      slice_eq_getU8 (by omega),
      slice_eq_getU8 (by omega), slice_eq_getU8 (by omega), hversion, hkind, h12, h13, h14, h15,
        toLe_getU16 (by omega),
      toLe_getU32 (by omega), hframe, hverified]
    rw [← hmagic]
    rfl
  · cases h

/-! ## Tampering -/

/-- The bytes the tag is over. -/
def authenticated (encoded : List UInt8) : List UInt8 := encoded.take 16 ++ encoded.drop 32

/-- The tag that stands in a record. -/
def tagIn (encoded : List UInt8) : List UInt8 := slice encoded 16 16

theorem IsRecord.tag (h : IsRecord hmac key record encoded) :
    (hmac key (authenticated encoded)).toList.take wifiTagBytes = tagIn encoded := by
  have hfields := h.fields_eq
  simp only [fields, recordFields, List.cons.injEq, and_true, Nat.reduceAdd] at hfields
  have hbody : slice encoded wifiRecordHeaderBytes record.payloadLength.toNat = encoded.drop 32 := by
    rw [slice, wifiRecordHeaderBytes]
    apply List.take_of_length_le
    rw [List.length_drop, h.length_eq, wifiRecordHeaderBytes]
    omega
  rw [tagIn, hfields.2.2.2.2.2.2.2.2.2.1, recordTag, hbody]
  rfl

/-- A change of one byte inside the tag alone is seen. -/
theorem tagIn_set {i : Nat} {byte : UInt8} (hi : i < encoded.length) (hin : 16 ≤ i ∧ i < 32)
    (hne : encoded.getD i 0 ≠ byte) : tagIn (encoded.set i byte) ≠ tagIn encoded := by
  intro heq
  have hat := congrArg (fun bytes => bytes[i - 16]?) heq
  simp only [tagIn, getElem?_slice] at hat
  rw [if_pos (by omega), if_pos (by omega), show 16 + (i - 16) = i by omega,
    List.getElem?_set_self hi] at hat
  rw [List.getD_eq_getElem?_getD, ← hat] at hne
  exact hne rfl

theorem tagIn_set_of_ne {i : Nat} {byte : UInt8} (hout : ¬ (16 ≤ i ∧ i < 32)) :
    tagIn (encoded.set i byte) = tagIn encoded := by
  ext1 j
  simp only [tagIn, getElem?_slice]
  by_cases hj : j < 16
  · rw [if_pos hj, if_pos hj, List.getElem?_set_ne (by omega)]
  · rw [if_neg hj, if_neg hj]

theorem authenticated_set {i : Nat} {byte : UInt8} (hin : 16 ≤ i ∧ i < 32) :
    authenticated (encoded.set i byte) = authenticated encoded := by
  rw [authenticated, authenticated, List.take_set_of_le hin.1, List.drop_set_of_lt hin.2]

theorem authenticated_set_ne {i : Nat} {byte : UInt8} (hi : i < encoded.length)
    (hout : ¬ (16 ≤ i ∧ i < 32)) (hne : encoded.getD i 0 ≠ byte) :
    authenticated (encoded.set i byte) ≠ authenticated encoded := by
  intro heq
  have hsplit := List.append_inj heq (by rw [List.length_take, List.length_take, List.length_set])
  have hat : (encoded.set i byte)[i]? = encoded[i]? := by
    by_cases hlow : i < 16
    · have hget := congrArg (fun bytes => bytes[i]?) hsplit.1
      simpa only [List.getElem?_take, hlow, if_true] using hget
    · have hget := congrArg (fun bytes => bytes[i - 32]?) hsplit.2
      simp only [List.getElem?_drop] at hget
      rwa [show 32 + (i - 32) = i by omega] at hget
  rw [List.getElem?_set_self hi] at hat
  rw [List.getD_eq_getElem?_getD, ← hat] at hne
  exact hne rfl

/-- Records and the bytes that are accepted correspond, and whoever changes a byte of one under the
same key must find a second input with the same tag. -/
theorem wifi_records_roundtrip (hmac : SoundSha256Digest → List UInt8 → SoundSha256Digest)
    (key : SoundSha256Digest) :
    (∀ record array length, encodeSpeakerAssetsWifiRecord hmac record key = some (array, length) →
      ∃ decoded, decodeSpeakerAssetsWifiRecord hmac (array.take length) key record.kind = some decoded ∧
        decoded.kind = record.kind ∧ decoded.sequence = record.sequence ∧
        decoded.payloadLength = record.payloadLength ∧
        decoded.frame = record.frame) ∧
    (∀ encoded kind record, decodeSpeakerAssetsWifiRecord hmac encoded key kind = some record →
      record.kind = kind ∧
      ∃ array, encodeSpeakerAssetsWifiRecord hmac record key = some (array, encoded.length) ∧
        array.take encoded.length = encoded) ∧
    ∀ encoded kind record i byte, decodeSpeakerAssetsWifiRecord hmac encoded key kind = some record →
    i < encoded.length →
      encoded.getD i 0 ≠ byte → decodeSpeakerAssetsWifiRecord hmac (encoded.set i byte) key kind = none ∨
        authenticated (encoded.set i byte) ≠ authenticated encoded ∧
        (hmac key (authenticated (encoded.set i byte))).toList.take wifiTagBytes =
          (hmac key (authenticated encoded)).toList.take wifiTagBytes := by
  refine ⟨fun record array length h => ?_, fun encoded kind record h => ?_,
    fun encoded kind record i byte h hi hne => ?_⟩
  · obtain ⟨-, hrecord⟩ := encode_eq_some h
    obtain ⟨hkind, hsequence, hlen, -⟩ := cleared_fields record
    exact ⟨record.cleared, hrecord.decode, hkind, hsequence, hlen, frame_cleared hrecord.encodable.2.2.1⟩
  · obtain ⟨hkind, hrecord⟩ := decode_eq_some h
    exact ⟨hkind, hrecord.encode⟩
  · have hrecord := (decode_eq_some h).2
    cases hset : decodeSpeakerAssetsWifiRecord hmac (encoded.set i byte) key kind with
    | none => exact .inl rfl
    | some changed =>
      right
      have hchanged := (decode_eq_some hset).2
      by_cases hin : 16 ≤ i ∧ i < 32
      · -- the tag is that of the unchanged bytes
        have htag := hchanged.tag
        rw [authenticated_set hin, hrecord.tag] at htag
        exact absurd htag.symm (tagIn_set hi hin hne)
      · refine ⟨authenticated_set_ne hi hin hne, ?_⟩
        rw [hchanged.tag, hrecord.tag, tagIn_set_of_ne hin]

/-- The smallest frame under a key of ones, with a tag that repeats the key. -/
theorem wifi_records_roundtrip_smallest : ∃ array length decoded,
    encodeSpeakerAssetsWifiRecord (fun key _ => key) { sequence := 7, payloadLength := 24 }
      (Vector.replicate 32 1) =
      some (array, length) ∧
    decodeSpeakerAssetsWifiRecord (fun key _ => key) (array.take length)
      (Vector.replicate 32 1) .request = some decoded ∧
    decoded.sequence = 7 := by
  have hencodable :
    SpeakerAssetsWifiRecord.Encodable { sequence := 7, payloadLength := 24 } (Vector.replicate 32 1) := by
    decide
  obtain ⟨array, hencode, -⟩ := @encode_isRecord (fun key _ => key) _ _ hencodable
  obtain ⟨decoded, hdecode, -, hsequence, -, -⟩ :=
    (wifi_records_roundtrip (fun key _ => key) (Vector.replicate 32 1)).1 _ _ _ hencode
  exact ⟨array, _, decoded, hencode, hdecode, hsequence⟩

end CodexKeyboard.Assets
