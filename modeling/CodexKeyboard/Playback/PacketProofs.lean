import CodexKeyboard.Playback.Packets
import CodexKeyboard.Playback.Wire
import CodexKeyboard.Lib.Transaction
/-!
# The two playback codecs agree

Each packet is taken apart along its fields: what an encoder wrote at an offset is what the decoder
of the other side reads there (`fields_…`), and a packet whose tag verifies is the signed form of
its own fields (`eq_sign_of_verify`).
-/

namespace CodexKeyboard.LanPlayback

open Lib Buffer

attribute [local simp] requestBytes beginBytes ackBytes finishedBytes finishedAckBytes mailboxStatusBytes

variable {S : Sealing} {key : Key}

/-! ## Tags -/

theorem length_tagOf (packet : List UInt8) (split : Nat) :
    ((S.hmac key (packet.take split)).toList.take playbackTagBytes).length = 16 := by
  rw [List.length_take, Vector.length_toList]
  rfl

@[simp] theorem length_sign (packet : List UInt8) : (sign S packet key).length = packet.length :=
  length_put ..

/-- The tag stands in the last 16 bytes. -/
theorem drop_sign {packet : List UInt8} (h : 16 ≤ packet.length) :
    (sign S packet key).drop (packet.length - 16) =
      (S.hmac key (packet.take (packet.length - 16))).toList.take playbackTagBytes := by
  have htag := @length_tagOf S key packet (packet.length - 16)
  have hslice := @slice_put_self packet _ (packet.length - 16) _ htag (by omega)
  rw [slice, List.take_of_length_le (by rw [List.length_drop, length_put]; omega)] at hslice
  exact hslice

theorem slice_sign {packet : List UInt8} {offset n : Nat} (h : offset + n + 16 ≤ packet.length) :
    slice (sign S packet key) offset n = slice packet offset n :=
  slice_put_of_disjoint (.inl (by rw [playbackTagBytes]; omega))

theorem take_sign (packet : List UInt8) :
    (sign S packet key).take (packet.length - 16) = packet.take (packet.length - 16) := by
  by_cases h : 16 ≤ packet.length
  · exact @slice_sign S key packet 0 _ (by omega)
  · rw [show packet.length - 16 = 0 by omega, List.take_zero, List.take_zero]

/-- The last 16 bytes are the tag if signing the packet anew leaves it as it is. -/
theorem tag_iff {packet : List UInt8} (h : 16 ≤ packet.length) :
    (S.hmac key (packet.take (packet.length - 16))).toList.take playbackTagBytes =
      packet.drop (packet.length - 16) ↔
      packet = sign S packet key := by
  constructor
  · intro htag
    rw [← List.take_append_drop (packet.length - 16) (sign S packet key), take_sign, drop_sign h, htag,
      List.take_append_drop]
  · intro hsign
    rw [← drop_sign h, ← hsign]

theorem verify_eq_ok {packet : List UInt8} :
    verify S packet key = .ok () ↔ 16 ≤ packet.length ∧ packet = sign S packet key := by
  by_cases h : packet.length < 16
  · have hno : ¬ 16 ≤ packet.length := Nat.not_le.mpr h
    simp [verify, playbackTagBytes, h, hno]
  · have hlen : 16 ≤ packet.length := Nat.le_of_not_lt h
    have hwidth : packet.length - (packet.length - 16) = 16 := Nat.sub_sub_self hlen
    have htag := @tag_iff S key _ hlen
    rw [playbackTagBytes] at htag
    simp only [verify, playbackTagBytes, if_neg h, hwidth, htag, hlen, true_and]
    by_cases hsign : packet = sign S packet key
    · simp only [← hsign, if_true]
    · simp only [hsign, if_false, reduceCtorEq]

/-- The keyboard authenticates what the host would verify. -/
theorem authenticate_iff {packet : List UInt8} :
    Keyboard.authenticate S packet key = true ↔ verify S packet key = .ok () := by
  rw [verify_eq_ok]
  by_cases h : packet.length < 16
  · have hno : ¬ 16 ≤ packet.length := Nat.not_le.mpr h
    simp [Keyboard.authenticate, playbackTagBytes, h, hno]
  · have hlen : 16 ≤ packet.length := Nat.le_of_not_lt h
    have htag := @length_tagOf S key packet (packet.length - 16)
    have hat (index : Nat) :
      getU8 packet (packet.length - 16 + index) = (packet.drop (packet.length - 16)).getD index 0 := by
      rw [getU8, List.getD_eq_getElem?_getD, List.getD_eq_getElem?_getD, List.getElem?_drop]
    rw [← tag_iff hlen, and_iff_right hlen]
    simp only [Keyboard.authenticate, playbackTagBytes, if_neg h, beq_iff_eq, hat]
    simp only [getU8]
    rw [foldl_difference]
    constructor
    · intro hall
      apply eq_of_getD htag (by rw [List.length_drop]; omega)
      intro index hindex
      exact (getD_take _ hindex).trans (hall index hindex)
    · intro heq index hindex
      rw [← heq]
      exact (getD_take _ hindex).symm

/-! ## Fields -/

section Fields

variable {text : String} {length : Nat} {version byte : UInt8}

@[simp] theorem length_header : (header length text version byte).length = length := by simp [header]

@[simp] theorem length_encodeIdentity (packet : List UInt8) (identity : PlaybackIdentity) :
    (encodeIdentity packet identity).length = packet.length := by simp [encodeIdentity]

theorem slice_header_magic (htext : (magic text).length = 4) (h : 4 ≤ length) :
    slice (header length text version byte) 0 4 = magic text := by
  simp (disch := simp [htext, h]) only [header, putU8, slice_put_self, slice_put_of_disjoint]

theorem slice_header_version (h : 5 ≤ length) :
    slice (header length text version byte) 4 1 = [version] := by
  simp (disch := simp [h]) only [header, putU8, slice_put_self, slice_put_of_disjoint]

theorem slice_header_byte (h : 6 ≤ length) : slice (header length text version byte) 5 1 = [byte] := by
  simp (disch := simp [h]) only [header, putU8, slice_put_self]

theorem slice_header {offset n : Nat} (htext : (magic text).length = 4) (ho : 6 ≤ offset)
    (h : offset + n ≤ length) :
    slice (header length text version byte) offset n = List.replicate n 0 := by
  simp only [header, putU8]
  rw [slice_put_of_disjoint (.inr (by simpa using ho)),
    slice_put_of_disjoint (.inr (by simpa using by omega)),
    slice_put_of_disjoint (.inr (by rw [htext]; omega)), slice_replicate h]

theorem request_fields (request : PlaybackRequest) :
    fields (encodeRequest S request key) 0 [4, 1, 1, 2, 4, 4, 8] =
      [magic "EIPR", [playbackVersion], [request.slot], [0, 0], toLe 4 request.requestGeneration.toNat,
        toLe 4 request.connectionGeneration.toNat, toLe 8 request.nonce.toNat] := by
  simp (disch := first | decide | simp) only [encodeRequest, fields,
    putU32, putU64, slice_sign, slice_put_self,
    slice_put_of_disjoint, slice_header_magic, slice_header_version, slice_header_byte, slice_header,
    Nat.reduceAdd]
  rfl

theorem begin_fields (begin : PlaybackBegin) :
    fields (encodeBegin S begin key) 0 [4, 1, 1, 2, 4, 4, 8, 8, 4, 8, 2, 2, 8] =
      [magic "EIPB", [playbackVersion], [begin.identity.slot], [0, 0],
        toLe 4 begin.identity.requestGeneration.toNat,
        toLe 4 begin.identity.connectionGeneration.toNat, toLe 8 begin.identity.summaryGeneration.toNat,
        toLe 8 begin.identity.lease.toNat, toLe 4 begin.totalBytes.toNat, toLe 8 begin.totalSamples.toNat,
        toLe 2 begin.chunkBytes.toNat, [0, 0], toLe 8 begin.requestNonce.toNat] := by
  simp (disch := first | decide | simp) only [encodeBegin, encodeIdentity,
    fields, putU16, putU32, putU64, slice_sign,
    slice_put_self, slice_put_of_disjoint, slice_header_magic, slice_header_version,
      slice_header_byte, slice_header,
    Nat.reduceAdd]
  rfl

theorem ack_fields (ack : PlaybackAck) :
    fields (encodeAck S ack key) 0 [4, 1, 1, 1, 1, 4, 4, 8, 8, 4] =
      [magic "EIPA", [playbackVersion], [ack.identity.slot], [ack.status], [0],
        toLe 4 ack.identity.requestGeneration.toNat,
        toLe 4 ack.identity.connectionGeneration.toNat, toLe 8 ack.identity.summaryGeneration.toNat,
        toLe 8 ack.identity.lease.toNat, toLe 4 ack.nextOffset.toNat] := by
  simp (disch := first | decide | simp) only [encodeAck, encodeIdentity,
    fields, putU8, putU32, putU64, slice_sign,
    slice_put_self, slice_put_of_disjoint, slice_header_magic, slice_header_version,
      slice_header_byte, slice_header,
    Nat.reduceAdd]
  rfl

theorem finished_fields (finished : PlaybackFinished) :
    fields (encodeFinished S finished key) 0 [4, 1, 1, 2, 4, 4, 8, 8, 8] =
      [magic "EIPF", [playbackVersion], [finished.identity.slot], [0, 0],
        toLe 4 finished.identity.requestGeneration.toNat,
        toLe 4 finished.identity.connectionGeneration.toNat,
          toLe 8 finished.identity.summaryGeneration.toNat,
        toLe 8 finished.identity.lease.toNat, toLe 8 finished.playedSamples.toNat] := by
  simp (disch := first | decide | simp) only [encodeFinished, encodeIdentity, fields,
    putU32, putU64, slice_sign,
    slice_put_self, slice_put_of_disjoint, slice_header_magic, slice_header_version,
      slice_header_byte, slice_header,
    Nat.reduceAdd]
  rfl

theorem finishedAck_fields (identity : PlaybackIdentity) (status : UInt8) :
    fields (encodeFinishedAck S identity status key) 0 [4, 1, 1, 1, 1, 4, 4, 8, 8] =
      [magic "EIPK", [playbackVersion], [identity.slot], [status], [0],
        toLe 4 identity.requestGeneration.toNat,
        toLe 4 identity.connectionGeneration.toNat, toLe 8 identity.summaryGeneration.toNat,
        toLe 8 identity.lease.toNat] := by
  simp (disch := first | decide | simp) only [encodeFinishedAck, encodeIdentity,
    fields, putU8, putU32, putU64, slice_sign,
    slice_put_self, slice_put_of_disjoint, slice_header_magic, slice_header_version,
      slice_header_byte, slice_header,
    Nat.reduceAdd]
  rfl

/-- The packet `encode_mailbox_status` signs. -/
theorem mailboxStatus_fields (status : MailboxStatus) (heartbeatSequence : UInt32) :
    fields
      (sign S
      (put (putU32 (putU8 (header mailboxStatusBytes "EIMB" mailboxStatusVersion status.unreadSlots) 6
        status.runningTasks) 8 heartbeatSequence) 12 status.coverageBySlot.toList) key) 0
          [4, 1, 1, 1, 1, 4, 4] =
      [magic "EIMB", [mailboxStatusVersion], [status.unreadSlots], [status.runningTasks], [0],
        toLe 4 heartbeatSequence.toNat, status.coverageBySlot.toList] := by
  simp (disch := first | decide | simp) only [fields, putU8, putU32,
    slice_sign, slice_put_self, slice_put_of_disjoint,
    slice_header_magic, slice_header_version, slice_header_byte, slice_header, Nat.reduceAdd]
  rfl

theorem dataHeader_fields {length : Nat} (h : 40 ≤ length) (identity : PlaybackIdentity)
    (offset : UInt32) (payloadLen : Nat) :
    fields (dataHeader length identity offset payloadLen) 0 [4, 1, 1, 2, 4, 4, 8, 8, 4, 2, 2] =
      [magic "EIPD", [playbackVersion], [identity.slot], [0, 0], toLe 4 identity.requestGeneration.toNat,
        toLe 4 identity.connectionGeneration.toNat, toLe 8 identity.summaryGeneration.toNat,
        toLe 8 identity.lease.toNat, toLe 4 offset.toNat, toLe 2 (UInt16.ofNat payloadLen).toNat,
          [0, 0]] := by
  simp (disch := first | decide | omega | (simp; try omega)) only [dataHeader,
    encodeIdentity, fields, putU16, putU32, putU64,
    slice_put_self, slice_put_of_disjoint, slice_header_magic, slice_header_version,
      slice_header_byte, slice_header,
    Nat.reduceAdd]
  rfl

end Fields

/-! ## Decoders -/

theorem sign_sign (packet : List UInt8) (h : 16 ≤ packet.length) :
    sign S packet key = sign S (sign S packet key) key := by
  rw [← tag_iff (by rw [length_sign]; exact h), length_sign, take_sign, drop_sign h]

theorem verifyFixed_eq_ok {packet : List UInt8} {length : Nat} {text : String} :
    verifyFixed S packet length text key = .ok () ↔
      packet.length = length ∧ slice packet 0 4 = magic text ∧ getU8 packet 4 = playbackVersion ∧
        16 ≤ packet.length ∧ packet = sign S packet key := by
  unfold verifyFixed
  by_cases h : packet.length ≠ length ∨ slice packet 0 4 ≠ magic text ∨ getU8 packet 4 ≠ playbackVersion
  · rw [if_pos h]
    simp only [reduceCtorEq, false_iff]
    rintro ⟨hlen, hmagic, hversion, -⟩
    simp [hlen, hmagic, hversion] at h
  · rw [if_neg h, verify_eq_ok]
    simp only [not_or, not_not] at h
    simp only [h, true_and]

/-- Signed packets with the same fields are the same packet. -/
theorem eq_of_signed {left right : List UInt8} (widths : List Nat) (hlen : left.length = right.length)
    (hwidths : left.length = widths.sum + 16) (hl : left = sign S left key) (hr : right = sign S right key)
    (h : fields left 0 widths = fields right 0 widths) : left = right := by
  have hbody : left.take (left.length - 16) = right.take (right.length - 16) := by
    have hflat := congrArg List.flatten h
    rw [flatten_fields, flatten_fields, slice, slice, List.drop_zero, List.drop_zero] at hflat
    rwa [← hlen, show left.length - 16 = widths.sum by omega]
  have htag : left.drop (left.length - 16) = right.drop (right.length - 16) := by
    rw [← (tag_iff (by omega)).mpr hl, ← (tag_iff (by omega)).mpr hr, hbody]
  rw [← List.take_append_drop (left.length - 16) left, hbody, htag, List.take_append_drop]

theorem verified_eq_ok {α : Type} {x : Except PlaybackWireError Unit}
    {f : Unit → Except PlaybackWireError α} {a : α} :
    (x >>= f) = .ok a ↔ x = .ok () ∧ f () = .ok a := by
  rw [bind_eq_ok]
  exact ⟨fun ⟨(), hx, hf⟩ => ⟨hx, hf⟩, fun ⟨hx, hf⟩ => ⟨(), hx, hf⟩⟩

theorem refuse_eq_ok {α : Type} {refused : Prop} [Decidable refused] {e : PlaybackWireError} {a b : α} :
    (if refused then Except.error e else pure a) = .ok b ↔ ¬ refused ∧ a = b := by
  by_cases h : refused <;> simp [h]

def ValidRequest (request : PlaybackRequest) : Prop :=
  (1 ≤ request.slot ∧ request.slot ≤ 4) ∧ request.requestGeneration ≠ 0 ∧ request.connectionGeneration ≠ 0
    ∧ request.nonce ≠ 0

def ValidBegin (begin : PlaybackBegin) : Prop :=
  validIdentity begin.identity = true ∧ begin.totalBytes ≠ 0 ∧ begin.totalBytes.toNat ≤ playbackMaxEiadBytes
    ∧ begin.totalSamples ≠ 0 ∧ begin.chunkBytes ≠ 0 ∧ begin.chunkBytes.toNat ≤ playbackChunkBytes
    ∧ begin.requestNonce ≠ 0

def ValidAck (ack : PlaybackAck) : Prop := validIdentity ack.identity = true ∧ ack.status ≤ 3

def ValidFinished (finished : PlaybackFinished) : Prop :=
  validIdentity finished.identity = true ∧ finished.playedSamples ≠ 0

theorem encodeRequest_signed (request : PlaybackRequest) :
    (encodeRequest S request key).length = 40 ∧
      encodeRequest S request key = sign S (encodeRequest S request key) key := by
  constructor
  · simp [encodeRequest]
  · exact sign_sign _ (by simp)

theorem encodeBegin_signed (begin : PlaybackBegin) :
    (encodeBegin S begin key).length = 72 ∧
      encodeBegin S begin key = sign S (encodeBegin S begin key) key := by
  constructor
  · simp [encodeBegin]
  · exact sign_sign _ (by simp)

theorem encodeAck_signed (ack : PlaybackAck) :
    (encodeAck S ack key).length = 52 ∧ encodeAck S ack key = sign S (encodeAck S ack key) key := by
  constructor
  · simp [encodeAck]
  · exact sign_sign _ (by simp)

theorem encodeFinished_signed (finished : PlaybackFinished) :
    (encodeFinished S finished key).length = 56 ∧
      encodeFinished S finished key = sign S (encodeFinished S finished key) key := by
  constructor
  · simp [encodeFinished]
  · exact sign_sign _ (by simp)

theorem encodeFinishedAck_signed (identity : PlaybackIdentity) (status : UInt8) :
    (encodeFinishedAck S identity status key).length = 48 ∧
      encodeFinishedAck S identity status key = sign S (encodeFinishedAck S identity status key) key := by
  constructor
  · simp [encodeFinishedAck]
  · exact sign_sign _ (by simp)

/-! A decoder accepts the packets its own encoder writes for valid values, and no other. -/

theorem decodeRequest_eq_ok {packet : List UInt8} {request : PlaybackRequest} :
    decodeRequest S packet key = .ok request ↔ ValidRequest request ∧
    packet = encodeRequest S request key := by
  have hfields := @request_fields S key
  constructor
  · intro h
    obtain ⟨hfixed, h⟩ := verified_eq_ok.mp h
    obtain ⟨hlen, hmagic, hversion, -, hsigned⟩ := verifyFixed_eq_ok.mp hfixed
    obtain ⟨hguard, rfl⟩ := refuse_eq_ok.mp h
    simp only [not_or, not_not] at hguard
    obtain ⟨hreserved, hvalid⟩ := hguard
    rw [requestBytes] at hlen
    have hencoded := @encodeRequest_signed S key
    refine ⟨hvalid,
      eq_of_signed [4, 1, 1, 2, 4, 4, 8] (hlen.trans (hencoded _).1.symm) hlen hsigned (hencoded _).2 ?_⟩
    rw [hfields]
    simp (disch := simp [hlen]) only [fields, hmagic, ← hversion, ← hreserved,
      ← slice_eq_getU8, toLe_getU32, toLe_getU64,
      Nat.reduceAdd]
  · rintro ⟨hvalid, rfl⟩
    obtain ⟨hlen, hsigned⟩ := @encodeRequest_signed S key request
    have h := hfields request
    simp only [fields, List.cons.injEq, and_true, Nat.reduceAdd] at h
    obtain ⟨hmagic, hversion, hslot, hreserved, hrequest, hconnection, hnonce⟩ := h
    have hfixed := verifyFixed_eq_ok.mpr ⟨hlen, hmagic, getU8_of_slice hversion, by omega, hsigned⟩
    rw [decodeRequest, requestBytes, hfixed, ok_bind]
    simp only [hreserved, getU8_of_slice hslot, getU32_of_slice hrequest, getU32_of_slice hconnection,
      getU64_of_slice hnonce]
    exact refuse_eq_ok.mpr ⟨by simpa [ValidRequest] using hvalid, rfl⟩

theorem decodeBegin_eq_ok {packet : List UInt8} {begin : PlaybackBegin} :
    decodeBegin S packet key = .ok begin ↔ ValidBegin begin ∧ packet = encodeBegin S begin key := by
  have hfields := @begin_fields S key
  constructor
  · intro h
    obtain ⟨hfixed, h⟩ := verified_eq_ok.mp h
    obtain ⟨hlen, hmagic, hversion, -, hsigned⟩ := verifyFixed_eq_ok.mp hfixed
    obtain ⟨hguard, rfl⟩ := refuse_eq_ok.mp h
    simp only [not_or, not_not, Bool.not_eq_false, Nat.not_lt, gt_iff_lt] at hguard
    obtain ⟨hreserved, hreserved', hvalid⟩ := hguard
    rw [beginBytes] at hlen
    have hencoded := @encodeBegin_signed S key
    refine ⟨hvalid,
      eq_of_signed [4, 1, 1, 2, 4, 4, 8, 8, 4, 8, 2, 2, 8] (hlen.trans (hencoded _).1.symm) hlen hsigned
      (hencoded _).2 ?_⟩
    rw [hfields]
    simp (disch := simp [hlen]) only [fields, decodeIdentity, hmagic, ← hversion,
      hreserved, hreserved', ← slice_eq_getU8,
      toLe_getU16, toLe_getU32, toLe_getU64, Nat.reduceAdd]
  · rintro ⟨hvalid, rfl⟩
    obtain ⟨hlen, hsigned⟩ := @encodeBegin_signed S key begin
    have h := hfields begin
    simp only [fields, List.cons.injEq, and_true, Nat.reduceAdd] at h
    obtain ⟨hmagic, hversion, hslot, hreserved, hrequest, hconnection, hsummary,
      hlease, hbytes, hsamples, hchunk, hreserved',
      hnonce⟩ := h
    have hfixed := verifyFixed_eq_ok.mpr ⟨hlen, hmagic, getU8_of_slice hversion, by omega, hsigned⟩
    rw [decodeBegin, beginBytes, hfixed, ok_bind]
    simp only [decodeIdentity, hreserved, hreserved', getU8_of_slice hslot, getU32_of_slice hrequest,
      getU32_of_slice hconnection, getU64_of_slice hsummary, getU64_of_slice hlease, getU32_of_slice hbytes,
      getU64_of_slice hsamples, getU16_of_slice hchunk, getU64_of_slice hnonce]
    exact refuse_eq_ok.mpr ⟨by simpa [ValidBegin] using hvalid, rfl⟩

theorem decodeAck_eq_ok {packet : List UInt8} {ack : PlaybackAck} :
    decodeAck S packet key = .ok ack ↔ ValidAck ack ∧ packet = encodeAck S ack key := by
  have hfields := @ack_fields S key
  constructor
  · intro h
    obtain ⟨hfixed, h⟩ := verified_eq_ok.mp h
    obtain ⟨hlen, hmagic, hversion, -, hsigned⟩ := verifyFixed_eq_ok.mp hfixed
    obtain ⟨hguard, rfl⟩ := refuse_eq_ok.mp h
    simp only [not_or, not_not, Bool.not_eq_false, UInt8.not_lt, gt_iff_lt] at hguard
    obtain ⟨hreserved, hvalid⟩ := hguard
    rw [ackBytes] at hlen
    have hencoded := @encodeAck_signed S key
    refine ⟨hvalid,
      eq_of_signed [4, 1, 1, 1, 1, 4, 4, 8, 8, 4] (hlen.trans (hencoded _).1.symm) hlen hsigned
      (hencoded _).2 ?_⟩
    rw [hfields]
    simp (disch := simp [hlen]) only [fields, decodeIdentity, hmagic,
      ← hversion, ← hreserved, ← slice_eq_getU8,
      toLe_getU32, toLe_getU64, Nat.reduceAdd]
  · rintro ⟨hvalid, rfl⟩
    obtain ⟨hlen, hsigned⟩ := @encodeAck_signed S key ack
    have h := hfields ack
    simp only [fields, List.cons.injEq, and_true, Nat.reduceAdd] at h
    obtain ⟨hmagic, hversion, hslot, hstatus, hreserved, hrequest,
      hconnection, hsummary, hlease, hoffset⟩ := h
    have hfixed := verifyFixed_eq_ok.mpr ⟨hlen, hmagic, getU8_of_slice hversion, by omega, hsigned⟩
    rw [decodeAck, ackBytes, hfixed, ok_bind]
    simp only [decodeIdentity, getU8_of_slice hstatus, getU8_of_slice hreserved, getU8_of_slice hslot,
      getU32_of_slice hrequest, getU32_of_slice hconnection, getU64_of_slice hsummary,
        getU64_of_slice hlease,
      getU32_of_slice hoffset]
    exact refuse_eq_ok.mpr ⟨by simpa [ValidAck] using hvalid, rfl⟩

theorem decodeFinished_eq_ok {packet : List UInt8} {finished : PlaybackFinished} :
    decodeFinished S packet key = .ok finished ↔ ValidFinished finished ∧
    packet = encodeFinished S finished key := by
  have hfields := @finished_fields S key
  constructor
  · intro h
    obtain ⟨hfixed, h⟩ := verified_eq_ok.mp h
    obtain ⟨hlen, hmagic, hversion, -, hsigned⟩ := verifyFixed_eq_ok.mp hfixed
    obtain ⟨hguard, rfl⟩ := refuse_eq_ok.mp h
    simp only [not_or, not_not, Bool.not_eq_false] at hguard
    obtain ⟨hreserved, hvalid⟩ := hguard
    rw [finishedBytes] at hlen
    have hencoded := @encodeFinished_signed S key
    refine ⟨hvalid, eq_of_signed [4, 1, 1, 2, 4, 4, 8, 8, 8] (hlen.trans (hencoded _).1.symm) hlen hsigned
      (hencoded _).2 ?_⟩
    rw [hfields]
    simp (disch := simp [hlen]) only [fields, decodeIdentity, hmagic,
      ← hversion, ← hreserved, ← slice_eq_getU8,
      toLe_getU32, toLe_getU64, Nat.reduceAdd]
  · rintro ⟨hvalid, rfl⟩
    obtain ⟨hlen, hsigned⟩ := @encodeFinished_signed S key finished
    have h := hfields finished
    simp only [fields, List.cons.injEq, and_true, Nat.reduceAdd] at h
    obtain ⟨hmagic, hversion, hslot, hreserved, hrequest, hconnection, hsummary, hlease, hsamples⟩ := h
    have hfixed := verifyFixed_eq_ok.mpr ⟨hlen, hmagic, getU8_of_slice hversion, by omega, hsigned⟩
    rw [decodeFinished, finishedBytes, hfixed, ok_bind]
    simp only [decodeIdentity, hreserved, getU8_of_slice hslot, getU32_of_slice hrequest,
      getU32_of_slice hconnection,
      getU64_of_slice hsummary, getU64_of_slice hlease, getU64_of_slice hsamples]
    exact refuse_eq_ok.mpr ⟨by simpa [ValidFinished] using hvalid, rfl⟩

theorem decodeFinishedAck_eq_ok {packet : List UInt8} {identity : PlaybackIdentity} {status : UInt8} :
    decodeFinishedAck S packet key = .ok (identity, status) ↔
      (validIdentity identity = true ∧ status ≤ 1) ∧ packet = encodeFinishedAck S identity status key := by
  have hfields := @finishedAck_fields S key
  constructor
  · intro h
    obtain ⟨hfixed, h⟩ := verified_eq_ok.mp h
    obtain ⟨hlen, hmagic, hversion, -, hsigned⟩ := verifyFixed_eq_ok.mp hfixed
    obtain ⟨hguard, heq⟩ := refuse_eq_ok.mp h
    obtain ⟨rfl, rfl⟩ := Prod.mk.inj heq
    simp only [not_or, not_not, Bool.not_eq_false, UInt8.not_lt, gt_iff_lt] at hguard
    obtain ⟨hreserved, hvalid⟩ := hguard
    rw [finishedAckBytes] at hlen
    have hencoded := @encodeFinishedAck_signed S key
    refine ⟨hvalid, eq_of_signed [4, 1, 1, 1, 1, 4, 4, 8, 8] (hlen.trans (hencoded _ _).1.symm) hlen hsigned
      (hencoded _ _).2 ?_⟩
    rw [hfields]
    simp (disch := simp [hlen]) only [fields, decodeIdentity, hmagic,
      ← hversion, ← hreserved, ← slice_eq_getU8,
      toLe_getU32, toLe_getU64, Nat.reduceAdd]
  · rintro ⟨hvalid, rfl⟩
    obtain ⟨hlen, hsigned⟩ := @encodeFinishedAck_signed S key identity status
    have h := hfields identity status
    simp only [fields, List.cons.injEq, and_true, Nat.reduceAdd] at h
    obtain ⟨hmagic, hversion, hslot, hstatus, hreserved, hrequest, hconnection, hsummary, hlease⟩ := h
    have hfixed := verifyFixed_eq_ok.mpr ⟨hlen, hmagic, getU8_of_slice hversion, by omega, hsigned⟩
    rw [decodeFinishedAck, finishedAckBytes, hfixed, ok_bind]
    simp only [decodeIdentity, getU8_of_slice hstatus, getU8_of_slice hreserved, getU8_of_slice hslot,
      getU32_of_slice hrequest, getU32_of_slice hconnection, getU64_of_slice hsummary,
        getU64_of_slice hlease]
    exact refuse_eq_ok.mpr ⟨by simpa using hvalid, rfl⟩

theorem coverageAt_of_slice {packet : List UInt8} {coverage : Vector UInt8 4}
    (h : slice packet 12 4 = coverage.toList) :
    coverageAt packet = coverage := by
  apply Vector.ext
  intro index hindex
  have hat := getElem?_slice packet 12 4 index
  rw [h, if_pos hindex] at hat
  rw [coverageAt, Vector.getElem_ofFn, getU8, List.getD_eq_getElem?_getD, ← hat]
  simp [hindex]

theorem slice_eq_coverageAt {packet : List UInt8} (h : 16 ≤ packet.length) :
    (coverageAt packet).toList = slice packet 12 4 := by
  apply List.ext_getElem
  · rw [Vector.length_toList, length_slice]
    omega
  · intro index hl hr
    have hindex : index < 4 := by rwa [Vector.length_toList] at hl
    have hat := getElem?_slice packet 12 4 index
    rw [if_pos hindex] at hat
    apply Option.some.inj
    rw [← List.getElem?_eq_getElem hr, hat]
    have hin : 12 + index < packet.length := by omega
    simp [coverageAt, getU8, List.getD_eq_getElem?_getD, hin]

theorem decodeMailboxStatus_eq_ok {packet : List UInt8} {status : MailboxStatus}
    {heartbeatSequence : UInt32} :
    decodeMailboxStatus S packet key = .ok (status, heartbeatSequence) ↔
      encodeMailboxStatus S status heartbeatSequence key = .ok packet := by
  have hfields := @mailboxStatus_fields S key
  constructor
  · intro h
    rw [decodeMailboxStatus, refusing_eq_ok] at h
    obtain ⟨hshape, h⟩ := h
    obtain ⟨hverify, h⟩ := verified_eq_ok.mp h
    obtain ⟨hguard, heq⟩ := refuse_eq_ok.mp h
    obtain ⟨-, hsigned⟩ := verify_eq_ok.mp hverify
    obtain ⟨rfl, rfl⟩ := Prod.mk.inj heq
    simp only [not_or, not_not, Bool.not_eq_false] at hguard hshape
    obtain ⟨hlen, hmagic, hversion⟩ := hshape
    rw [mailboxStatusBytes] at hlen
    rw [encodeMailboxStatus, if_neg (by rw [hguard.2]; decide)]
    apply congrArg Except.ok
    apply Eq.symm
    refine eq_of_signed [4, 1, 1, 1, 1, 4, 4] ?_ hlen hsigned (sign_sign _ ?_) ?_
    · simp [hlen]
    · simp
    · rw [hfields]
      simp (disch := simp [hlen]) only [fields, hmagic, ← hversion,
        ← hguard.1, ← slice_eq_getU8, toLe_getU32,
        slice_eq_coverageAt, Nat.reduceAdd]
  · intro h
    rw [encodeMailboxStatus] at h
    split at h
    · cases h
    · rename_i hvalid
      rw [Bool.not_eq_false] at hvalid
      have hpacket := Except.ok.inj h
      have h := hfields status heartbeatSequence
      rw [hpacket] at h
      simp only [fields, List.cons.injEq, and_true, Nat.reduceAdd] at h
      obtain ⟨hmagic, hversion, hunread, hrunning, hreserved, hheartbeat, hcoverage⟩ := h
      have hlen : packet.length = 32 := by simp [← hpacket]
      have hverify : verify S packet key = .ok () :=
        verify_eq_ok.mpr ⟨by omega, by rw [← hpacket]; exact sign_sign _ (by simp)⟩
      rw [decodeMailboxStatus, if_neg (by simp [hlen, hmagic, getU8_of_slice hversion]), hverify, ok_bind]
      simp only [getU8_of_slice hunread, getU8_of_slice hrunning, getU8_of_slice hreserved,
        getU32_of_slice hheartbeat, coverageAt_of_slice hcoverage]
      exact refuse_eq_ok.mpr ⟨by simp [hvalid], rfl⟩

/-! ## Data -/

theorem slice_dataHeader {length : Nat} (h : 40 ≤ length) (identity : PlaybackIdentity)
    (offset : UInt32) (payloadLen : Nat) :
    slice (dataHeader length identity offset payloadLen) 0 40 =
      dataHeader 40 identity offset payloadLen := by
  have hlong := congrArg List.flatten (dataHeader_fields h identity offset payloadLen)
  have hshort := congrArg List.flatten (dataHeader_fields (le_refl 40) identity offset payloadLen)
  rw [← hshort, flatten_fields, flatten_fields] at hlong
  have hall :
    slice (dataHeader 40 identity offset payloadLen) 0 40 = dataHeader 40 identity offset payloadLen :=
    List.take_of_length_le (by simp [dataHeader])
  exact hlong.trans hall

/-- What `encode_data` returns: the header in clear, then the ciphertext and its tag. -/
theorem encodeData_of_encrypt {payload body tag : List UInt8} {identity : PlaybackIdentity}
    {requestNonce : UInt64}
    {offset : UInt32} (hidentity : validIdentity identity = true) (hnonce : requestNonce ≠ 0)
    (hpos : payload ≠ [])
    (hmax : payload.length ≤ 1024)
    (h : S.encrypt (deriveDataKey S identity requestNonce key) (dataNonce offset)
      (dataHeader 40 identity offset payload.length) payload = (body, tag)) :
    encodeData S identity requestNonce offset payload key =
      .ok (dataHeader 40 identity offset payload.length ++ body ++ tag) := by
  have hbody : body.length = payload.length := by
    have := S.length_ciphertext (deriveDataKey S identity requestNonce key) (dataNonce offset)
      (dataHeader 40 identity offset payload.length) payload
    rwa [h] at this
  have htag : tag.length = 16 := by
    have := S.length_tag (deriveDataKey S identity requestNonce key) (dataNonce offset)
      (dataHeader 40 identity offset payload.length) payload
    rwa [h] at this
  have hhead :
    slice (put (dataHeader (40 + payload.length + 16) identity offset payload.length) 40 payload) 0 40 =
      dataHeader 40 identity offset payload.length := by
    rw [slice_put_of_disjoint (.inl (by omega)), slice_dataHeader (by omega)]
  have hplain :
    slice (put (dataHeader (40 + payload.length + 16) identity offset payload.length) 40 payload) 40
      payload.length = payload := slice_put_self rfl (by simp [dataHeader])
  have hpacket :
    put (put (put (dataHeader (40 + payload.length + 16) identity offset payload.length) 40 payload)
    40 body)
      (40 + payload.length) tag = dataHeader 40 identity offset payload.length ++ body ++ tag := by
    have htake :=
      @take_put (put (dataHeader (40 + payload.length + 16) identity offset payload.length) 40 payload)
      body 40 (by simp [dataHeader, hbody])
    rw [hbody] at htake
    rw [put_eq_append (by simp [dataHeader, htag]), htake, ← hhead, slice, List.drop_zero]
  rw [encodeData, if_neg (by simp [hidentity, hnonce, hpos, hmax, playbackChunkBytes])]
  simp only [dataHeaderBytes, playbackTagBytes, hhead, hplain, h, hpacket]

theorem decodeData_eq_ok {packet payload : List UInt8} {identity : PlaybackIdentity} {requestNonce : UInt64}
    {offset : UInt32} :
    decodeData S packet requestNonce key = .ok (identity, offset, payload) ↔
      encodeData S identity requestNonce offset payload key = .ok packet := by
  constructor
  · intro h
    rw [decodeData, refusing_eq_ok, refusing_eq_ok] at h
    obtain ⟨hshape, hguard, h⟩ := h
    simp only [not_or, not_not, Bool.not_eq_false, Nat.not_lt, gt_iff_lt] at hshape hguard
    obtain ⟨-, hmagic, hversion⟩ := hshape
    obtain ⟨hreserved, hreserved', hidentity, hnonce, hpos, hmax, hlen⟩ := hguard
    rw [dataHeaderBytes, playbackTagBytes] at hlen
    simp only at h
    split at h
    · cases h
    · rename_i plaintext hopen
      cases h
      have hsealed := (S.decrypt_eq_some ..).mp hopen
      have hplain : payload.length = (getU16 packet 36).toNat := by
        rw [← S.length_ciphertext, hsealed, length_slice, dataHeaderBytes]
        omega
      have hheader :
        slice packet 0 40 = dataHeader 40 (decodeIdentity packet) (getU32 packet 32) payload.length := by
        have hwritten :=
          dataHeader_fields (le_refl 40) (decodeIdentity packet) (getU32 packet 32) payload.length
        have hread : fields packet 0 [4, 1, 1, 2, 4, 4, 8, 8, 4, 2, 2] =
            fields (dataHeader 40 (decodeIdentity packet) (getU32 packet 32) payload.length) 0
              [4, 1, 1, 2, 4, 4, 8, 8, 4, 2, 2] := by
          rw [hwritten, hplain, UInt16.ofNat_toNat]
          simp (disch := omega) only [fields, decodeIdentity, hmagic, ← hversion, hreserved, hreserved',
            ← slice_eq_getU8, toLe_getU16, toLe_getU32, toLe_getU64, Nat.reduceAdd]
        have hflat := congrArg List.flatten hread
        rw [flatten_fields, flatten_fields] at hflat
        exact hflat.trans (List.take_of_length_le (by simp [dataHeader]))
      have hne : payload ≠ [] := by
        rintro rfl
        exact hpos hplain.symm
      rw [dataHeaderBytes, hheader] at hsealed
      rw [encodeData_of_encrypt hidentity hnonce hne (hplain.trans_le hmax) hsealed,
        ← hheader, ← slice_add, slice,
        List.drop_zero, List.take_append_drop]
  · intro hencode
    obtain ⟨h, -⟩ := refusing_eq_ok.mp hencode
    simp only [not_or, Bool.not_eq_false, Nat.not_lt, gt_iff_lt, List.isEmpty_iff, playbackChunkBytes] at h
    obtain ⟨hidentity, hnonce, hpos, hmax⟩ := h
    rcases hsealed : S.encrypt (deriveDataKey S identity requestNonce key) (dataNonce offset)
      (dataHeader 40 identity offset payload.length) payload with ⟨body, tag⟩
    have hencoded := encodeData_of_encrypt hidentity hnonce hpos hmax hsealed
    have hpacket := Except.ok.inj (hencoded.symm.trans hencode)
    have hbody : body.length = payload.length := by
      have := S.length_ciphertext (deriveDataKey S identity requestNonce key) (dataNonce offset)
        (dataHeader 40 identity offset payload.length) payload
      rwa [hsealed] at this
    have htag : tag.length = 16 := by
      have := S.length_tag (deriveDataKey S identity requestNonce key) (dataNonce offset)
        (dataHeader 40 identity offset payload.length) payload
      rwa [hsealed] at this
    have hheader : (dataHeader 40 identity offset payload.length).length = 40 := by simp [dataHeader]
    have hread {o n : Nat} (hin : o + n ≤ 40) :
        slice packet o n = slice (dataHeader 40 identity offset payload.length) o n := by
      rw [← hpacket, List.append_assoc, slice_append_left (hin.trans_eq hheader.symm)]
    have hfields := dataHeader_fields (le_refl 40) identity offset payload.length
    simp (disch := omega) only [fields, ← hread, List.cons.injEq, and_true, Nat.reduceAdd] at hfields
    obtain ⟨hmagic, hversion, hslot, hreserved, hrequest, hconnection,
      hsummary, hlease, hoffset, hlength, hreserved'⟩ := hfields
    have hlen : packet.length = 40 + payload.length + 16 := by
      rw [← hpacket, List.length_append, List.length_append, hheader, hbody, htag]
    have hcount : (getU16 packet 36).toNat = payload.length := by
      rw [getU16_of_slice hlength, UInt16.toNat_ofNat_of_lt' (hmax.trans_lt (by decide))]
    have hidentity' : decodeIdentity packet = identity := by
      simp only [decodeIdentity, getU8_of_slice hslot, getU32_of_slice hrequest,
        getU32_of_slice hconnection,
        getU64_of_slice hsummary, getU64_of_slice hlease]
    have hpos' : payload.length ≠ 0 := fun h => hpos (List.length_eq_zero_iff.mp h)
    have hopen := (S.decrypt_eq_some ..).mpr hsealed
    have hhead : slice packet 0 40 = dataHeader 40 identity offset payload.length := by
      rw [hread (le_refl 40), slice, List.drop_zero, List.take_of_length_le hheader.le]
    have hcipher : slice packet 40 payload.length = body := by
      rw [← hpacket, slice_append_right hheader hbody]
    have hfront : (dataHeader 40 identity offset payload.length ++ body).length = 40 + payload.length := by
      rw [List.length_append, hheader, hbody]
    have hrest : packet.drop (40 + payload.length) = tag := by rw [← hpacket, ← hfront, List.drop_left]
    rw [decodeData, if_neg, if_neg]
    · simp only [dataHeaderBytes, hidentity', hcount, getU32_of_slice hoffset, hhead, hcipher, hrest, hopen]
    · simp [hreserved, hreserved', hidentity', hidentity, hnonce, hcount, hpos, hmax,
        hlen, playbackChunkBytes, dataHeaderBytes,
        playbackTagBytes]
    · simp [hmagic, getU8_of_slice hversion, hlen, dataHeaderBytes, playbackTagBytes]
      omega

/-! ## The keyboard's side -/

theorem reservedZero_iff {packet : List UInt8} {first : Nat} (h : first + 2 ≤ packet.length) :
    Keyboard.reservedZero packet first (first + 2) = true ↔ slice packet first 2 = [0, 0] := by
  have hsplit := slice_add packet first 1 1
  rw [slice_eq_getU8 (by omega), slice_eq_getU8 (by omega)] at hsplit
  rw [hsplit]
  simp [Keyboard.reservedZero, List.range']

theorem verifyFixed_iff {packet : List UInt8} {length : Nat} {text : String} :
    verifyFixed S packet length text key = .ok () ↔
      packet.length = length ∧ slice packet 0 4 = magic text ∧ getU8 packet 4 = playbackVersion ∧
        Keyboard.authenticate S packet key = true := by
  rw [verifyFixed, refusing_eq_ok, authenticate_iff]
  simp only [not_or, not_not, and_assoc]

/-- The keyboard writes what the host would write. -/
theorem keyboard_sign {packet : List UInt8} (h : 16 ≤ packet.length) :
    Keyboard.sign S packet key = some (sign S packet key) := if_neg (Nat.not_lt.mpr h)

theorem sending_eq_some {α : Type} {refused : Prop} [Decidable refused] {x : Option α} {a : α} :
    (if refused then none else x) = some a ↔ ¬ refused ∧ x = some a := by
  by_cases h : refused <;> simp [h]

theorem accepting_eq_some {α : Type} {accepted : Prop} [Decidable accepted] {a b : α} :
    (if accepted then some a else none) = some b ↔ accepted ∧ a = b := by
  by_cases h : accepted <;> simp [h]

theorem encodePlaybackRequest_eq_some {packet : List UInt8} {request : PlaybackRequest} {outputSize : Nat} :
    Keyboard.encodePlaybackRequest S request key outputSize = some packet ↔
      outputSize = 40 ∧ ValidRequest request ∧ encodeRequest S request key = packet := by
  rw [Keyboard.encodePlaybackRequest, sending_eq_some]
  simp only [not_or, not_not, UInt8.not_lt, gt_iff_lt]
  constructor
  · rintro ⟨⟨rfl, hlow, hhigh, hvalid⟩, h⟩
    rw [keyboard_sign (by simp)] at h
    exact ⟨rfl, ⟨⟨hlow, hhigh⟩, hvalid⟩, Option.some.inj h⟩
  · rintro ⟨rfl, ⟨⟨hlow, hhigh⟩, hvalid⟩, rfl⟩
    exact ⟨⟨rfl, hlow, hhigh, hvalid⟩, keyboard_sign (by simp)⟩

theorem encodePlaybackAck_eq_some {packet : List UInt8} {ack : PlaybackAck} {outputSize : Nat} :
    Keyboard.encodePlaybackAck S ack key outputSize = some packet ↔
      outputSize = 52 ∧ ValidAck ack ∧ encodeAck S ack key = packet := by
  rw [Keyboard.encodePlaybackAck, sending_eq_some]
  simp only [not_or, not_not, UInt8.not_lt, gt_iff_lt, Bool.not_eq_false]
  constructor
  · rintro ⟨⟨rfl, hvalid⟩, h⟩
    rw [keyboard_sign (by simp)] at h
    exact ⟨rfl, hvalid, Option.some.inj h⟩
  · rintro ⟨rfl, hvalid, rfl⟩
    exact ⟨⟨rfl, hvalid⟩, keyboard_sign (by simp)⟩

theorem encodePlaybackFinished_eq_some {packet : List UInt8} {finished : PlaybackFinished}
    {outputSize : Nat} :
    Keyboard.encodePlaybackFinished S finished key outputSize = some packet ↔
      outputSize = 56 ∧ ValidFinished finished ∧ encodeFinished S finished key = packet := by
  rw [Keyboard.encodePlaybackFinished, sending_eq_some]
  simp only [not_or, not_not, Bool.not_eq_false]
  constructor
  · rintro ⟨⟨rfl, hvalid⟩, h⟩
    rw [keyboard_sign (by simp)] at h
    exact ⟨rfl, hvalid, Option.some.inj h⟩
  · rintro ⟨rfl, hvalid, rfl⟩
    exact ⟨⟨rfl, hvalid⟩, keyboard_sign (by simp)⟩

/-! The keyboard's decoders accept what the host's own decoders would, except that a transfer must not be too long. -/

theorem decodePlaybackBegin_iff {packet : List UInt8} {begin : PlaybackBegin} :
    Keyboard.decodePlaybackBegin S packet key = some begin ↔
      decodeBegin S packet key = .ok begin ∧
      begin.totalSamples.toNat ≤ Keyboard.playbackMaximumSamples := by
  rw [Keyboard.decodePlaybackBegin, sending_eq_some, accepting_eq_some, decodeBegin, verified_eq_ok]
  simp only [refuse_eq_ok, verifyFixed_iff, not_or, not_not, Bool.not_eq_false, Nat.not_lt, gt_iff_lt]
  constructor
  · rintro ⟨⟨hlen, hmagic, hversion, htag, hreserved, hreserved'⟩,
      ⟨hidentity, hbytes, hmax, hsamples, hlimit, hvalid⟩, rfl⟩
    rw [beginBytes] at hlen
    exact ⟨⟨⟨hlen, hmagic, hversion, htag⟩, ⟨(reservedZero_iff (by omega)).mp hreserved,
      (reservedZero_iff (by omega)).mp hreserved', hidentity, hbytes, hmax, hsamples, hvalid⟩, rfl⟩, hlimit⟩
  · rintro ⟨⟨⟨hlen, hmagic, hversion, htag⟩,
      ⟨hreserved, hreserved', hidentity, hbytes, hmax, hsamples, hvalid⟩, rfl⟩,
      hlimit⟩
    rw [beginBytes] at hlen
    exact ⟨⟨hlen, hmagic, hversion, htag, (reservedZero_iff (by omega)).mpr hreserved,
      (reservedZero_iff (by omega)).mpr hreserved'⟩, ⟨hidentity,
        hbytes, hmax, hsamples, hlimit, hvalid⟩, rfl⟩

theorem decodePlaybackFinishedAck_iff {packet : List UInt8} {identity : PlaybackIdentity} {status : UInt8} :
    Keyboard.decodePlaybackFinishedAck S packet key = some (identity, status) ↔
      decodeFinishedAck S packet key = .ok (identity, status) := by
  rw [Keyboard.decodePlaybackFinishedAck, sending_eq_some,
    accepting_eq_some, decodeFinishedAck, verified_eq_ok]
  simp only [refuse_eq_ok, verifyFixed_iff, not_or, not_not, Bool.not_eq_false, UInt8.not_lt, gt_iff_lt]
  constructor
  · rintro ⟨⟨hlen, hmagic, hversion, htag, hreserved⟩, hvalid, heq⟩
    exact ⟨⟨hlen, hmagic, hversion, htag⟩, ⟨hreserved, hvalid⟩, heq⟩
  · rintro ⟨⟨hlen, hmagic, hversion, htag⟩, ⟨hreserved, hvalid⟩, heq⟩
    exact ⟨⟨hlen, hmagic, hversion, htag, hreserved⟩, hvalid, heq⟩

theorem mask_iff (byte : UInt8) : byte &&& ~~~0x0F = 0 ↔ byte &&& 0xF0 = 0 := Iff.rfl

theorem decodeKeyboardMailboxStatus_iff {packet : List UInt8} {status : Keyboard.MailboxWireStatus} :
    Keyboard.decodeMailboxStatus S packet key = some status ↔
      decodeMailboxStatus S packet key =
        .ok (⟨status.unreadSlots, status.runningTasks, status.coverageBySlot⟩,
          status.heartbeatSequence) := by
  rw [Keyboard.decodeMailboxStatus, sending_eq_some, sending_eq_some,
    accepting_eq_some, decodeMailboxStatus, refusing_eq_ok,
    verified_eq_ok]
  simp only [refuse_eq_ok]
  simp only [authenticate_iff, not_or, not_not, Bool.not_eq_false,
    UInt8.not_lt, gt_iff_lt, validMailboxStatus,
    Bool.and_eq_true, beq_iff_eq, decide_eq_true_eq, mask_iff]
  constructor
  · rintro ⟨⟨hlen, hmagic, hversion, htag, hreserved⟩, ⟨hunread, hrunning⟩, hcoverage, rfl⟩
    exact ⟨⟨hlen, hmagic, hversion⟩, htag, ⟨hreserved, ⟨hunread, hrunning⟩, hcoverage⟩, rfl⟩
  · rintro ⟨⟨hlen, hmagic, hversion⟩, htag, ⟨hreserved, ⟨hunread, hrunning⟩, hcoverage⟩, heq⟩
    obtain ⟨unreadSlots, runningTasks, heartbeatSequence, coverageBySlot⟩ := status
    simp only [Prod.mk.injEq, MailboxStatus.mk.injEq] at heq
    obtain ⟨⟨rfl, rfl, rfl⟩, rfl⟩ := heq
    exact ⟨⟨hlen, hmagic, hversion, htag, hreserved⟩, ⟨hunread, hrunning⟩, hcoverage, rfl⟩

theorem decrypt_length {dataKey : Key} {nonce head ciphertext tag plaintext : List UInt8}
    (h : S.decrypt dataKey nonce head ciphertext tag = some plaintext) :
    plaintext.length = ciphertext.length := by
  rw [← S.length_ciphertext dataKey nonce head plaintext, (S.decrypt_eq_some ..).mp h]

/-- With room for the plaintext, the keyboard opens what the host would. -/
theorem decodePlaybackData_iff {packet : List UInt8} {requestNonce : UInt64} {plaintextSize : Nat}
    {data : Keyboard.PlaybackWireData} :
    Keyboard.decodePlaybackData S packet requestNonce key plaintextSize = some data ↔
      decodeData S packet requestNonce key = .ok (data.identity, data.offset, data.payload) ∧
        data.payloadLength.toNat = data.payload.length ∧ data.payload.length ≤ plaintextSize := by
  rw [Keyboard.decodePlaybackData, sending_eq_some, sending_eq_some,
    decodeData, refusing_eq_ok, refusing_eq_ok]
  simp only [Keyboard.deriveDataKey, Keyboard.decryptDataPayload, not_or, not_not,
    Bool.not_eq_false, Nat.not_lt, gt_iff_lt]
  have htag (hlen : packet.length = dataHeaderBytes + (getU16 packet 36).toNat + playbackTagBytes) :
      slice packet (dataHeaderBytes + (getU16 packet 36).toNat) playbackTagBytes =
        packet.drop (dataHeaderBytes + (getU16 packet 36).toNat) :=
    List.take_of_length_le (by rw [List.length_drop]; omega)
  constructor
  · rintro ⟨⟨hnonce, hlong, hmagic, hversion, hreserved, hreserved'⟩,
      ⟨hidentity, hpos, hmax, hroom, hlen⟩, h⟩
    rw [if_neg hnonce, htag hlen, Option.bind_eq_bind, Option.bind_some, Option.bind_eq_bind] at h
    obtain ⟨plaintext, hopen, h⟩ := Option.bind_eq_some_iff.mp h
    cases h
    rw [dataHeaderBytes, playbackTagBytes] at hlong
    have hplain := decrypt_length hopen
    rw [length_slice] at hplain
    refine ⟨⟨⟨hlong, hmagic, hversion⟩, ⟨(reservedZero_iff (by omega)).mp hreserved,
      (reservedZero_iff (by omega)).mp hreserved', hidentity, hnonce, ?_, hmax, hlen⟩, ?_⟩, ?_⟩
    · intro h
      exact hpos (UInt16.toNat_inj.mp h)
    · simp only [deriveDataKey, hopen]
    · rw [dataHeaderBytes, playbackTagBytes] at hlen
      rw [dataHeaderBytes] at hplain
      have hcount : plaintext.length = (getU16 packet 36).toNat := by omega
      exact ⟨hcount.symm, hcount.trans_le hroom⟩
  · rintro ⟨⟨⟨hlong, hmagic, hversion⟩,
      ⟨hreserved, hreserved', hidentity, hnonce, hpos, hmax, hlen⟩, h⟩, hlength, hroom⟩
    split at h
    · cases h
    · rename_i plaintext hopen
      obtain ⟨identity, offset, payload, payloadLength⟩ := data
      simp only [Except.ok.injEq, Prod.mk.injEq] at h
      obtain ⟨rfl, rfl, rfl⟩ := h
      have hplain := decrypt_length hopen
      rw [length_slice, hlen] at hplain
      have hcount : payloadLength = getU16 packet 36 := by
        apply UInt16.toNat_inj.mp
        simp only at hlength
        omega
      subst hcount
      have hlen' := hlen
      rw [dataHeaderBytes, playbackTagBytes] at hlen'
      refine ⟨⟨hnonce, hlong, hmagic, hversion, (reservedZero_iff (by omega)).mpr hreserved,
        (reservedZero_iff (by omega)).mpr hreserved'⟩, ⟨hidentity,
          ?_, hmax, hlength.trans_le hroom, hlen⟩, ?_⟩
      · intro h
        exact hpos (congrArg UInt16.toNat h)
      · rw [if_neg hnonce, htag hlen, Option.bind_eq_bind, Option.bind_some, Option.bind_eq_bind]
        exact Option.bind_eq_some_iff.mpr ⟨_, hopen, rfl⟩

/-! ## Packets as the playback model has them

In `Playback.Wire` a packet is what its decoder yields. The checks made there are those of the byte
decoders. -/

def PlaybackIdentity.model (identity : PlaybackIdentity) : Playback.PlaybackIdentity where
  slot := identity.slot.toNat
  requestGeneration := identity.requestGeneration.toNat
  connectionGeneration := identity.connectionGeneration.toNat
  summaryGeneration := identity.summaryGeneration.toNat
  lease := identity.lease.toNat

def PlaybackBegin.model (begin : PlaybackBegin) : Playback.PlaybackBegin where
  identity := begin.identity.model
  totalBytes := begin.totalBytes.toNat
  totalSamples := begin.totalSamples.toNat
  chunkBytes := begin.chunkBytes.toNat
  requestNonce := begin.requestNonce.toNat

def PlaybackAck.model (ack : PlaybackAck) : Playback.PlaybackAck where
  identity := ack.identity.model
  status := ack.status.toNat
  nextOffset := ack.nextOffset.toNat

theorem validIdentity_model (identity : PlaybackIdentity) :
    Playback.validIdentity identity.model = validIdentity identity := by
  rw [Bool.eq_iff_iff]
  simp [Playback.validIdentity, validIdentity, PlaybackIdentity.model,
    UInt8.le_iff_toNat_le, ← UInt32.toNat_inj,
    ← UInt64.toNat_inj]
  intro _ _ _ _
  exact decide_eq_true_iff

/-- A decoded acknowledgement passes the check of the model. -/
theorem validAck_of_decode {packet : List UInt8} {ack : PlaybackAck}
    (h : decodeAck S packet key = .ok ack) :
    Playback.validAck ack.model = true := by
  obtain ⟨⟨hidentity, hstatus⟩, -⟩ := decodeAck_eq_ok.mp h
  rw [Playback.validAck, PlaybackAck.model, validIdentity_model, hidentity]
  simpa using UInt8.le_iff_toNat_le.mp hstatus

/-- A begin packet that the keyboard decodes passes the checks of the model. -/
theorem decodeBegin_of_decode {packet : List UInt8} {begin : PlaybackBegin}
    (h : Keyboard.decodePlaybackBegin S packet key = some begin) :
    Playback.decodeBegin begin.model = true := by
  obtain ⟨hhost, hlimit⟩ := decodePlaybackBegin_iff.mp h
  obtain ⟨⟨hidentity, hbytes, hmax, hsamples, hchunk, hsmall, hnonce⟩, -⟩ := decodeBegin_eq_ok.mp hhost
  rw [ne_eq, ← UInt32.toNat_inj] at hbytes
  rw [ne_eq, ← UInt64.toNat_inj] at hsamples hnonce
  rw [ne_eq, ← UInt16.toNat_inj] at hchunk
  have hlimit' : begin.totalSamples.toNat ≤ Playback.playbackMaximumSamples := hlimit
  have hmax' : begin.totalBytes.toNat ≤ Playback.playbackMaxEiadBytes := hmax
  have hsmall' : begin.chunkBytes.toNat ≤ Playback.playbackChunkBytes := hsmall
  simp only [Playback.decodeBegin, PlaybackBegin.model, validIdentity_model,
    hidentity, hlimit', hmax', hsmall', decide_true,
    Bool.true_and, Bool.and_true, Bool.and_eq_true, bne_iff_ne]
  exact ⟨⟨⟨hbytes, hsamples⟩, hchunk⟩, hnonce⟩

/-! ## Agreement -/

theorem encodeBegin_injective {left right : PlaybackBegin}
    (h : encodeBegin S left key = encodeBegin S right key) :
    left = right := by
  have hl := @begin_fields S key left
  have hr := @begin_fields S key right
  rw [h] at hl
  simp only [fields, List.cons.injEq, and_true, Nat.reduceAdd] at hl hr
  obtain ⟨-, -, hslot, -, hrequest, hconnection, hsummary,
    hlease, hbytes, hsamples, hchunk, -, hnonce⟩ := hl
  obtain ⟨-, -, hslot', -, hrequest', hconnection', hsummary', hlease',
    hbytes', hsamples', hchunk', -, hnonce'⟩ := hr
  obtain ⟨⟨slot, request, connection, summary, lease⟩, bytes, samples, chunk, nonce⟩ := left
  simp only at hslot hrequest hconnection hsummary hlease hbytes hsamples hchunk hnonce
  rw [← getU8_of_slice hslot, ← getU32_of_slice hrequest, ← getU32_of_slice hconnection,
    ← getU64_of_slice hsummary,
    ← getU64_of_slice hlease, ← getU32_of_slice hbytes, ← getU64_of_slice hsamples,
      ← getU16_of_slice hchunk,
    ← getU64_of_slice hnonce, getU8_of_slice hslot', getU32_of_slice hrequest',
      getU32_of_slice hconnection',
    getU64_of_slice hsummary', getU64_of_slice hlease', getU32_of_slice hbytes', getU64_of_slice hsamples',
    getU16_of_slice hchunk', getU64_of_slice hnonce']

theorem encodeFinishedAck_injective {left right : PlaybackIdentity} {status status' : UInt8}
    (h : encodeFinishedAck S left status key = encodeFinishedAck S right status' key) :
    left = right ∧ status = status' := by
  have hl := @finishedAck_fields S key left status
  have hr := @finishedAck_fields S key right status'
  rw [h] at hl
  simp only [fields, List.cons.injEq, and_true, Nat.reduceAdd] at hl hr
  obtain ⟨-, -, hslot, hstatus, -, hrequest, hconnection, hsummary, hlease⟩ := hl
  obtain ⟨-, -, hslot', hstatus', -, hrequest', hconnection', hsummary', hlease'⟩ := hr
  obtain ⟨slot, request, connection, summary, lease⟩ := left
  simp only at hslot hrequest hconnection hsummary hlease
  constructor
  · rw [← getU8_of_slice hslot, ← getU32_of_slice hrequest, ← getU32_of_slice hconnection,
      ← getU64_of_slice hsummary,
      ← getU64_of_slice hlease, getU8_of_slice hslot', getU32_of_slice hrequest',
        getU32_of_slice hconnection',
      getU64_of_slice hsummary', getU64_of_slice hlease']
  · rw [← getU8_of_slice hstatus, getU8_of_slice hstatus']

/-- The keyboard and the host agree on every packet: what one side sends, the other reads as it was
meant, and what a decoder accepts is what the encoder of the other side writes for it.
`encode_begin` and `encode_finished_ack` check nothing, so there the values have to be ones the
keyboard takes. -/
theorem playback_codecs_agree (S : Sealing) (key : Key) :
    ((∀ request packet outputSize, Keyboard.encodePlaybackRequest S request key outputSize = some packet →
        decodeRequest S packet key = .ok request) ∧
      (∀ request packet, decodeRequest S packet key = .ok request →
        Keyboard.encodePlaybackRequest S request key 40 = some packet)) ∧
    ((∀ ack packet outputSize, Keyboard.encodePlaybackAck S ack key outputSize = some packet →
        decodeAck S packet key = .ok ack) ∧
      (∀ ack packet, decodeAck S packet key = .ok ack →
        Keyboard.encodePlaybackAck S ack key 52 = some packet)) ∧
    ((∀ finished packet outputSize,
      Keyboard.encodePlaybackFinished S finished key outputSize = some packet →
        decodeFinished S packet key = .ok finished) ∧
      (∀ finished packet, decodeFinished S packet key = .ok finished →
        Keyboard.encodePlaybackFinished S finished key 56 = some packet)) ∧
    ((∀ begin begin', Keyboard.decodePlaybackBegin S (encodeBegin S begin key) key = some begin' ↔
        begin' = begin ∧ ValidBegin begin ∧ begin.totalSamples.toNat ≤ Keyboard.playbackMaximumSamples) ∧
      (∀ begin packet, Keyboard.decodePlaybackBegin S packet key = some begin →
        encodeBegin S begin key = packet)) ∧
    ((∀ identity requestNonce offset payload packet plaintextSize,
        encodeData S identity requestNonce offset payload key = .ok packet →
        payload.length ≤ plaintextSize →
        Keyboard.decodePlaybackData S packet requestNonce key plaintextSize =
          some ⟨identity, offset, payload, UInt16.ofNat payload.length⟩) ∧
      (∀ data requestNonce packet plaintextSize,
        Keyboard.decodePlaybackData S packet requestNonce key plaintextSize = some data →
        encodeData S data.identity requestNonce data.offset data.payload key = .ok packet)) ∧
    ((∀ identity status identity' status',
        Keyboard.decodePlaybackFinishedAck S (encodeFinishedAck S identity status key) key =
          some (identity', status') ↔
          (identity' = identity ∧ status' = status) ∧ validIdentity identity = true ∧ status ≤ 1) ∧
      (∀ identity status packet, Keyboard.decodePlaybackFinishedAck S packet key = some (identity, status) →
        encodeFinishedAck S identity status key = packet)) ∧
    ((∀ status heartbeatSequence packet, encodeMailboxStatus S status heartbeatSequence key = .ok packet →
        Keyboard.decodeMailboxStatus S packet key =
          some ⟨status.unreadSlots, status.runningTasks, heartbeatSequence, status.coverageBySlot⟩) ∧
      (∀ status packet, Keyboard.decodeMailboxStatus S packet key = some status →
        encodeMailboxStatus S ⟨status.unreadSlots,
          status.runningTasks, status.coverageBySlot⟩ status.heartbeatSequence key =
          .ok packet)) := by
  refine ⟨⟨?_, ?_⟩, ⟨?_, ?_⟩, ⟨?_, ?_⟩, ⟨?_, ?_⟩, ⟨?_, ?_⟩, ⟨?_, ?_⟩, ⟨?_, ?_⟩⟩
  · intro request packet outputSize h
    obtain ⟨-, hvalid, rfl⟩ := encodePlaybackRequest_eq_some.mp h
    exact decodeRequest_eq_ok.mpr ⟨hvalid, rfl⟩
  · intro request packet h
    obtain ⟨hvalid, rfl⟩ := decodeRequest_eq_ok.mp h
    exact encodePlaybackRequest_eq_some.mpr ⟨rfl, hvalid, rfl⟩
  · intro ack packet outputSize h
    obtain ⟨-, hvalid, rfl⟩ := encodePlaybackAck_eq_some.mp h
    exact decodeAck_eq_ok.mpr ⟨hvalid, rfl⟩
  · intro ack packet h
    obtain ⟨hvalid, rfl⟩ := decodeAck_eq_ok.mp h
    exact encodePlaybackAck_eq_some.mpr ⟨rfl, hvalid, rfl⟩
  · intro finished packet outputSize h
    obtain ⟨-, hvalid, rfl⟩ := encodePlaybackFinished_eq_some.mp h
    exact decodeFinished_eq_ok.mpr ⟨hvalid, rfl⟩
  · intro finished packet h
    obtain ⟨hvalid, rfl⟩ := decodeFinished_eq_ok.mp h
    exact encodePlaybackFinished_eq_some.mpr ⟨rfl, hvalid, rfl⟩
  · intro begin begin'
    rw [decodePlaybackBegin_iff, decodeBegin_eq_ok]
    constructor
    · rintro ⟨⟨hvalid, hsame⟩, hlimit⟩
      cases encodeBegin_injective hsame
      exact ⟨rfl, hvalid, hlimit⟩
    · rintro ⟨rfl, hvalid, hlimit⟩
      exact ⟨⟨hvalid, rfl⟩, hlimit⟩
  · intro begin packet h
    exact (decodeBegin_eq_ok.mp (decodePlaybackBegin_iff.mp h).1).2.symm
  · intro identity requestNonce offset payload packet plaintextSize h hroom
    have hsmall : payload.length ≤ 1024 := by
      obtain ⟨hguard, -⟩ := refusing_eq_ok.mp h
      simp only [not_or, Nat.not_lt, gt_iff_lt] at hguard
      exact hguard.2.2.2
    exact decodePlaybackData_iff.mpr ⟨decodeData_eq_ok.mpr h,
      UInt16.toNat_ofNat_of_lt' (hsmall.trans_lt (by decide)), hroom⟩
  · intro data requestNonce packet plaintextSize h
    exact decodeData_eq_ok.mp (decodePlaybackData_iff.mp h).1
  · intro identity status identity' status'
    rw [decodePlaybackFinishedAck_iff, decodeFinishedAck_eq_ok]
    constructor
    · rintro ⟨hvalid, hsame⟩
      obtain ⟨rfl, rfl⟩ := encodeFinishedAck_injective hsame
      exact ⟨⟨rfl, rfl⟩, hvalid⟩
    · rintro ⟨⟨rfl, rfl⟩, hvalid⟩
      exact ⟨hvalid, rfl⟩
  · intro identity status packet h
    exact (decodeFinishedAck_eq_ok.mp (decodePlaybackFinishedAck_iff.mp h)).2.symm
  · intro status heartbeatSequence packet h
    exact decodeKeyboardMailboxStatus_iff.mpr (decodeMailboxStatus_eq_ok.mpr h)
  · intro status packet h
    exact decodeMailboxStatus_eq_ok.mp (decodeKeyboardMailboxStatus_iff.mp h)

/-- No secrecy at all: enough to run the codecs. -/
def nullSealing : Sealing where
  hmac _ _ := Vector.replicate 32 0
  encrypt _ _ _ plaintext := (plaintext, List.replicate 16 0)
  decrypt _ _ _ ciphertext tag := if tag = List.replicate 16 0 then some ciphertext else none
  length_ciphertext _ _ _ _ := rfl
  length_tag _ _ _ _ := rfl
  decrypt_eq_some := by
    intro _ _ _ ciphertext tag plaintext
    rw [accepting_eq_some, Prod.mk.injEq]
    exact ⟨fun ⟨htag, htext⟩ => ⟨htext.symm, htag.symm⟩, fun ⟨htext, htag⟩ => ⟨htag.symm, htext.symm⟩⟩

/-- A transfer one sample longer than the keyboard takes. -/
def longBegin : PlaybackBegin where
  identity := ⟨1, 1, 1, 1, 1⟩
  totalBytes := 4
  totalSamples := 7200001
  chunkBytes := 1024
  requestNonce := 1

/-- `encode_begin` writes it and the host reads it back, but the keyboard does not. -/
theorem long_begin_refused :
    Keyboard.decodePlaybackBegin nullSealing (encodeBegin nullSealing longBegin (Vector.replicate 32 0))
        (Vector.replicate 32 0) = none ∧
      decodeBegin nullSealing (encodeBegin nullSealing longBegin (Vector.replicate 32 0))
        (Vector.replicate 32 0) =
        .ok longBegin := by
  decide +kernel

end CodexKeyboard.LanPlayback
