import CodexKeyboard.Assets.Protocol
import CodexKeyboard.Lib.Transaction
import Mathlib.Data.List.OfFn
/-!
# Frames and plans as bytes, both ways

What an encoder writes is read back by its decoder, and a decoder accepts no other bytes: a frame of
either transport is the image of what is read from it, with zeros behind it on USB, and the same
holds for plans.

| here | there |
| --- | --- |
| `frameImage` | what both frame encoders write before any padding (speaker_assets_protocol.cpp:156, 256, 294) |
| `decodeFramePrefix_eq_ok` | `decode_frame_prefix` (185) |
-/

namespace CodexKeyboard.Assets

open Lib Buffer

variable {H : Hashes}

/-! ## Frames -/

/-- A frame that an encoder with room for `maximumBodyBytes` takes. -/
def Encodable (frame : SpeakerAssetsFrame) (maximumBodyBytes : Nat) : Prop :=
  frame.requestId ≠ 0 ∧ frame.body.length ≤ maximumBodyBytes
    ∧ ¬ (frame.flags &&& ~~~knownFlags ≠ 0 ∨
      (frame.flags &&& flagError ≠ 0 ∧ frame.flags &&& flagResponse = 0)
      ∨ (frame.flags &&& flagResponse ≠ 0 ∧ frame.flags &&& flagAckRequested ≠ 0))

/-- Header and body, with the checksum. -/
def frameImage (H : Hashes) (frame : SpeakerAssetsFrame) : List UInt8 :=
  putU32 (encodeFramePrefix frame) 20 (H.crc32 (encodeFramePrefix frame))

theorem validateFrameForEncoding_eq_ok {frame : SpeakerAssetsFrame} {maximumBodyBytes : Nat} :
    validateFrameForEncoding frame maximumBodyBytes = .ok () ↔ Encodable frame maximumBodyBytes := by
  unfold validateFrameForEncoding Encodable
  by_cases hrequest : frame.requestId = 0
  · simp [hrequest]
  · by_cases hbody : frame.body.length > maximumBodyBytes
    · simp [hrequest, hbody]
    · rw [if_neg hrequest, if_neg hbody, and_iff_right hrequest, and_iff_right (Nat.le_of_not_lt hbody)]
      split
      · rename_i hflags
        exact iff_of_false (by rintro ⟨⟩) (not_not.mpr hflags)
      · rename_i hflags
        exact iff_of_true rfl hflags

@[simp] theorem length_encodeFramePrefix (frame : SpeakerAssetsFrame) :
    (encodeFramePrefix frame).length = 24 + frame.body.length := by
  simp [encodeFramePrefix, frameHeaderBytes]

@[simp] theorem length_frameImage (frame : SpeakerAssetsFrame) :
    (frameImage H frame).length = 24 + frame.body.length := by
  simp [frameImage]

theorem length_magic_eia : (magic "EIA").length = 3 := by decide

theorem prefix_fields (frame : SpeakerAssetsFrame) :
    fields (encodeFramePrefix frame) 0 [3, 1, 1, 1, 2, 4, 4, 4, 4, frame.body.length] =
      [magic "EIA", [1], [frame.opcode], [frame.flags], toLe 2 (UInt16.ofNat frame.body.length).toNat,
        toLe 4 frame.requestId.toNat, toLe 4 frame.sessionCookie.toNat,
          toLe 4 frame.objectOffset.toNat, [0, 0, 0, 0],
        frame.body] := by
  simp (disch := simp [frameHeaderBytes, length_magic_eia] <;> omega) only [encodeFramePrefix,
    frameHeaderBytes, fields, putU8, putU16,
    putU32, slice_put_self, slice_put_of_disjoint, slice_replicate, Nat.reduceAdd]
  rfl

theorem image_fields (frame : SpeakerAssetsFrame) :
    fields (frameImage H frame) 0 [3, 1, 1, 1, 2, 4, 4, 4, 4, frame.body.length] =
      [magic "EIA", [1], [frame.opcode], [frame.flags], toLe 2 (UInt16.ofNat frame.body.length).toNat,
        toLe 4 frame.requestId.toNat, toLe 4 frame.sessionCookie.toNat, toLe 4 frame.objectOffset.toNat,
        toLe 4 (H.crc32 (encodeFramePrefix frame)).toNat, frame.body] := by
  have h := prefix_fields frame
  simp only [fields, List.cons.injEq, and_true, Nat.reduceAdd] at h
  simp (disch := simp <;> omega) only [frameImage, fields, putU32, slice_put_self,
    slice_put_of_disjoint, h, Nat.reduceAdd]

/-- A frame with the checksum field blanked is the frame before its checksum. -/
theorem blank_image (frame : SpeakerAssetsFrame) :
    putU32 (frameImage H frame) 20 0 = encodeFramePrefix frame := by
  have h := prefix_fields frame
  have himage := image_fields (H := H) frame
  simp only [fields, List.cons.injEq, and_true, Nat.reduceAdd] at h himage
  refine eq_of_fields [3, 1, 1, 1, 2, 4, 4, 4, 4, frame.body.length] ?_ ?_ ?_
  · simp [List.sum_cons]
    omega
  · simp [List.sum_cons]
    omega
  · simp (disch := simp <;> omega) only [fields, putU32, slice_put_self, slice_put_of_disjoint,
      h, himage, Nat.reduceAdd]
    rfl

/-- What stands before the padding is determined by the fields that are read from it. -/
theorem eq_frameImage {encoded : List UInt8} {frame : SpeakerAssetsFrame}
    (hlength : encoded.length = 24 + frame.body.length)
    (hfields : fields encoded 0 [3, 1, 1, 1, 2, 4, 4, 4] =
      [magic "EIA", [1], [frame.opcode], [frame.flags], toLe 2 (UInt16.ofNat frame.body.length).toNat,
        toLe 4 frame.requestId.toNat, toLe 4 frame.sessionCookie.toNat, toLe 4 frame.objectOffset.toNat])
    (hbody : slice encoded 24 frame.body.length = frame.body)
    (hcrc : H.crc32 (putU32 encoded 20 0) = getU32 encoded 20) : encoded = frameImage H frame := by
  have hprefix := prefix_fields frame
  have himage := image_fields (H := H) frame
  simp only [fields, List.cons.injEq, and_true, Nat.reduceAdd] at hfields hprefix himage
  have hblank : putU32 encoded 20 0 = encodeFramePrefix frame := by
    refine eq_of_fields [3, 1, 1, 1, 2, 4, 4, 4, 4, frame.body.length] ?_ ?_ ?_
    · simp [List.sum_cons, hlength]
      omega
    · simp [List.sum_cons]
      omega
    · simp (disch := simp [hlength] <;> omega) only [fields, putU32, slice_put_self,
        slice_put_of_disjoint, hprefix, hfields, hbody,
        Nat.reduceAdd]
      rfl
  have hchecksum : slice encoded 20 4 = toLe 4 (H.crc32 (encodeFramePrefix frame)).toNat := by
    rw [← hblank, hcrc, toLe_getU32 (by omega)]
  refine eq_of_fields [3, 1, 1, 1, 2, 4, 4, 4, 4, frame.body.length] ?_ ?_ ?_
  · simp [List.sum_cons, hlength]
    omega
  · simp [List.sum_cons]
    omega
  · simp only [fields, himage, hfields, hbody, hchecksum, Nat.reduceAdd]

theorem eq_replicate_of_any {bytes : List UInt8} (h : ¬ bytes.any (· != 0) = true) :
    bytes = List.replicate bytes.length 0 := by
  rw [List.eq_replicate_iff]
  refine ⟨rfl, fun byte hbyte => ?_⟩
  by_contra hne
  exact h (List.any_eq_true.mpr ⟨byte, hbyte, bne_iff_ne.mpr hne⟩)

/-- The decoder of both transports accepts images of frames, with zeros behind them if it allows padding. -/
theorem decodeFramePrefix_eq_ok {encoded : List UInt8} {maximumBodyBytes : Nat} {padded : Bool}
    {frame : SpeakerAssetsFrame}
    (hmaximum : maximumBodyBytes < 65536) :
    decodeFramePrefix H encoded maximumBodyBytes padded = .ok frame ↔
      Encodable frame maximumBodyBytes
        ∧ ∃ padding, encoded = frameImage H frame ++ List.replicate padding 0 ∧
        (padded = false → padding = 0) := by
  unfold decodeFramePrefix
  dsimp only
  simp only [refusing_eq_ok, Except.ok.injEq]
  constructor
  · rintro ⟨hheader, hmagic, hversion, hflags, hbody, hlength, hpadding, hrequest, hcrc, rfl⟩
    rw [frameHeaderBytes] at hheader hlength hpadding hcrc
    rw [not_not] at hmagic hversion hcrc
    generalize hexact : 24 + (getU16 encoded 6).toNat = exact at *
    have hfits : exact ≤ encoded.length := by
      cases padded <;> simp at hlength <;> omega
    have hcore : (encoded.take exact).length = exact := List.length_take_of_le hfits
    have hbodies : (slice encoded 24 (getU16 encoded 6).toNat).length = (getU16 encoded 6).toNat := by
      rw [length_slice]
      omega
    have himage : encoded.take exact = frameImage H
        { opcode := getU8 encoded 4, flags := getU8 encoded 5, requestId := getU32 encoded 8,
          sessionCookie := getU32 encoded 12,
          objectOffset := getU32 encoded 16, body := slice encoded frameHeaderBytes
            (getU16 encoded 6).toNat } := by
      refine eq_frameImage ?_ ?_ ?_ ?_
      · rw [hcore, frameHeaderBytes, hbodies, hexact]
      · simp (disch := omega) only [fields, frameHeaderBytes, hbodies,
          UInt16.ofNat_toNat, slice_take, hmagic, toLe_getU16,
          toLe_getU32, Nat.reduceAdd, ← slice_eq_getU8]
        simp only [slice_eq_getU8 (show 3 < encoded.length by omega), hversion]
      · rw [frameHeaderBytes, hbodies, slice_take _ (by omega)]
      · rw [hcrc, getU32, getU32, slice_take _ (by omega)]
    refine ⟨⟨hrequest, ?_, hflags⟩, encoded.length - exact, ?_, fun hpadded => ?_⟩
    · rw [frameHeaderBytes, hbodies]
      exact Nat.le_of_not_lt hbody
    · rw [← himage]
      cases padded with
      | false =>
        have hsame : encoded.length = exact := by simpa using hlength
        rw [hsame, Nat.sub_self, List.replicate_zero, List.append_nil, List.take_of_length_le hsame.le]
      | true =>
        have hzeros := @eq_replicate_of_any (encoded.drop exact) (by simpa using hpadding)
        rw [List.length_drop] at hzeros
        rw [← hzeros, List.take_append_drop]
    · subst hpadded
      have hsame : encoded.length = exact := by simpa using hlength
      omega
  · rintro ⟨⟨hrequest, hbody, hflags⟩, padding, rfl, hpadding⟩
    have hfields := image_fields (H := H) frame
    simp only [fields, List.cons.injEq, and_true, Nat.reduceAdd] at hfields
    obtain ⟨hmagic, hversion, hopcode, hflag, hlength, hrequests, hcookie, hoffset, hcrc, hbodies⟩ :=
      hfields
    have hread (offset n : Nat) (h : offset + n ≤ 24 + frame.body.length) :
        slice (frameImage H frame ++ List.replicate padding 0) offset n =
          slice (frameImage H frame) offset n :=
      slice_append_left (by rw [length_frameImage]; exact h)
    have hsize : (UInt16.ofNat frame.body.length).toNat = frame.body.length :=
      UInt16.toNat_ofNat_of_lt' (show frame.body.length < 65536 by omega)
    rw [getU8_of_slice ((hread 5 1 (by omega)).trans hflag),
      getU16_of_slice ((hread 6 2 (by omega)).trans hlength), hsize,
      hread 0 3 (by omega), getU8_of_slice ((hread 3 1 (by omega)).trans hversion),
      getU32_of_slice ((hread 8 4 (by omega)).trans hrequests),
        getU32_of_slice ((hread 20 4 (by omega)).trans hcrc),
      getU8_of_slice ((hread 4 1 (by omega)).trans hopcode),
        getU32_of_slice ((hread 12 4 (by omega)).trans hcookie),
      getU32_of_slice ((hread 16 4 (by omega)).trans hoffset), frameHeaderBytes,
        hread 24 _ (by omega), hbodies]
    have htake :
      (frameImage H frame ++ List.replicate padding 0).take (24 + frame.body.length) = frameImage H frame :=
      List.take_left' (length_frameImage frame)
    have hdrop :
      (frameImage H frame ++ List.replicate padding 0).drop (24 + frame.body.length) =
      List.replicate padding 0 :=
      List.drop_left' (length_frameImage frame)
    rw [htake, hdrop, blank_image, List.length_append, length_frameImage, List.length_replicate]
    refine ⟨by omega, not_not.mpr hmagic, not_not.mpr rfl, hflags, Nat.not_lt.mpr hbody,
      ?_, ?_, hrequest, not_not.mpr rfl, rfl⟩
    · rintro (⟨hexact, hne⟩ | ⟨-, hlt⟩)
      · exact hne (by rw [hpadding hexact, Nat.add_zero])
      · omega
    · rintro ⟨-, hany⟩
      simp at hany

/-! ## The two transports -/

theorem encodeSpeakerAssetsWifiFrame_eq_ok {frame : SpeakerAssetsFrame} {encoded : List UInt8} :
    encodeSpeakerAssetsWifiFrame H frame = .ok encoded ↔ Encodable frame 101 ∧
    encoded = frameImage H frame := by
  unfold encodeSpeakerAssetsWifiFrame
  rw [bind_eq_ok]
  constructor
  · rintro ⟨_, hvalid, h⟩
    cases h
    exact ⟨validateFrameForEncoding_eq_ok.mp hvalid, rfl⟩
  · rintro ⟨hvalid, rfl⟩
    exact ⟨(), validateFrameForEncoding_eq_ok.mpr hvalid, rfl⟩

theorem encodeSpeakerAssetsUsbFrame_eq_ok {frame : SpeakerAssetsFrame} {encoded : List UInt8} :
    encodeSpeakerAssetsUsbFrame H frame = .ok encoded ↔
      Encodable frame 39 ∧
      encoded = frameImage H frame ++ List.replicate (63 - (24 + frame.body.length)) 0 := by
  have himage :
    putU32
    (encodeFramePrefix frame ++ List.replicate (usbFrameBytes - (encodeFramePrefix frame).length) 0) 20
      (H.crc32 (encodeFramePrefix frame)) = frameImage H frame ++
        List.replicate (63 - (24 + frame.body.length)) 0 := by
    rw [length_encodeFramePrefix, frameImage, putU32, putU32, put_append_left (by simp)]
    rfl
  unfold encodeSpeakerAssetsUsbFrame
  rw [bind_eq_ok]
  constructor
  · rintro ⟨_, hvalid, h⟩
    cases h
    exact ⟨validateFrameForEncoding_eq_ok.mp hvalid, himage⟩
  · rintro ⟨hvalid, rfl⟩
    exact ⟨(), validateFrameForEncoding_eq_ok.mpr hvalid, congrArg Except.ok himage⟩

/-- Each decoder accepts exactly what its encoder writes. -/
theorem decodeSpeakerAssetsWifiFrame_eq_ok {frame : SpeakerAssetsFrame} {encoded : List UInt8} :
    decodeSpeakerAssetsWifiFrame H encoded = .ok frame ↔
    encodeSpeakerAssetsWifiFrame H frame = .ok encoded := by
  rw [decodeSpeakerAssetsWifiFrame, refusing_eq_ok, decodeFramePrefix_eq_ok (by decide),
    encodeSpeakerAssetsWifiFrame_eq_ok,
    wifiFrameBodyBytes, wifiFrameMaxBytes]
  constructor
  · rintro ⟨-, hvalid, padding, rfl, hpadding⟩
    rw [hpadding rfl, List.replicate_zero, List.append_nil]
    exact ⟨hvalid, rfl⟩
  · rintro ⟨hvalid, rfl⟩
    have hbody := hvalid.2.1
    exact ⟨by rw [length_frameImage]; omega, hvalid, 0, (List.append_nil _).symm, fun _ => rfl⟩

theorem decodeSpeakerAssetsUsbFrame_eq_ok {frame : SpeakerAssetsFrame} {encoded : List UInt8} :
    decodeSpeakerAssetsUsbFrame H encoded = .ok frame ↔
    encodeSpeakerAssetsUsbFrame H frame = .ok encoded := by
  rw [decodeSpeakerAssetsUsbFrame, refusing_eq_ok, decodeFramePrefix_eq_ok (by decide),
    encodeSpeakerAssetsUsbFrame_eq_ok,
    usbFrameBodyBytes, usbFrameBytes, not_not]
  constructor
  · rintro ⟨hlength, hvalid, padding, rfl, -⟩
    rw [List.length_append, length_frameImage, List.length_replicate] at hlength
    exact ⟨hvalid, by rw [← hlength, Nat.add_sub_cancel_left]⟩
  · rintro ⟨hvalid, rfl⟩
    have hbody := hvalid.2.1
    refine ⟨?_, hvalid, _, rfl, fun h => by cases h⟩
    rw [List.length_append, length_frameImage, List.length_replicate]
    omega

/-! ## Plans -/

theorem toList_bytesAt {encoded : List UInt8} {offset n : Nat} (h : offset + n ≤ encoded.length) :
    (bytesAt encoded offset n).toList = slice encoded offset n := by
  apply List.ext_getElem
  · simp
    omega
  · intro i hi hi'
    have hlt : i < n := by simpa using hi
    have hat := getElem?_slice encoded offset n i
    rw [if_pos hlt, List.getElem?_eq_getElem hi', List.getElem?_eq_getElem (by omega)] at hat
    simp only [bytesAt, Vector.getElem_toList, Vector.getElem_ofFn, getU8, List.getD_eq_getElem?_getD,
      List.getElem?_eq_getElem (show offset + i < encoded.length by omega), Option.getD_some]
    exact (Option.some.inj hat).symm

/-- The words of a table, one after the other. -/
def wordBytes (words : List UInt32) : List UInt8 := words.flatMap fun word => toLe 4 word.toNat

theorem length_wordBytes (words : List UInt32) : (wordBytes words).length = 4 * words.length := by
  induction words with
  | nil => rfl
  | cons word words ih =>
    rw [wordBytes, List.flatMap_cons, List.length_append, length_toLe, ← wordBytes, ih, List.length_cons]
    omega

theorem wordBytes_inj {left right : List UInt32} (hlength : left.length = right.length)
    (h : wordBytes left = wordBytes right) :
    left = right := by
  induction left generalizing right with
  | nil => exact (List.length_eq_zero_iff.mp hlength.symm).symm
  | cons word words ih =>
    cases right with
    | nil => cases hlength
    | cons word' words' =>
      rw [wordBytes, wordBytes, List.flatMap_cons, List.flatMap_cons] at h
      obtain ⟨hword, hwords⟩ := List.append_inj h (by rw [length_toLe, length_toLe])
      have hvalue := congrArg fromLe hword
      rw [fromLe_toLe, fromLe_toLe, Nat.mod_eq_of_lt (show word.toNat < 256 ^ 4 from word.toNat_lt),
        Nat.mod_eq_of_lt (show word'.toNat < 256 ^ 4 from word'.toNat_lt)] at hvalue
      rw [UInt32.toNat_inj.mp hvalue, ih (Nat.succ.inj hlength) hwords]

theorem wordBytes_ofFn {encoded : List UInt8} {offset n : Nat} (h : offset + 4 * n ≤ encoded.length) :
    wordBytes (List.ofFn fun i : Fin n => getU32 encoded (offset + i.val * 4)) =
      slice encoded offset (4 * n) := by
  induction n with
  | zero => simp [wordBytes, slice]
  | succ n ih =>
    have hword := @toLe_getU32 encoded (offset + n * 4) (by omega)
    have hbelow := ih (by omega)
    rw [wordBytes] at hbelow ⊢
    rw [List.ofFn_succ', List.concat_eq_append, List.flatMap_append,
      List.flatMap_singleton, Fin.val_last, hword]
    simp only [Fin.val_castSucc]
    rw [hbelow, show 4 * (n + 1) = 4 * n + 4 by omega, slice_add, Nat.mul_comm n 4]

theorem length_magic_eibp : (magic "EIBP").length = 4 := by decide

/-- A plan's bytes before the checksum. -/
def planBody (plan : SoundBundlePlan) : List UInt8 :=
  let encoded := List.replicate planWireBytes 0
  let encoded := put encoded 0 (magic "EIBP")
  let encoded := putU16 encoded 4 1
  let encoded := putU16 encoded 6 640
  let encoded := putU64 encoded 8 plan.baseGeneration
  let encoded := put encoded 16 plan.baseBundleSha256.toList
  let encoded := putU32 encoded 48 plan.manifestBytes
  let encoded := putU32 encoded 52 plan.payloadBytes
  let encoded := putU32 encoded 56 plan.manifestCrc32
  let encoded := put encoded 60 plan.manifestSha256.toList
  let encoded := put encoded 92 plan.bundleSha256.toList
  put encoded 124 (wordBytes plan.payloadBlockCrc32.toList)

@[simp] theorem length_planBody (plan : SoundBundlePlan) : (planBody plan).length = 640 := by
  simp only [planBody, length_put, length_putU16, length_putU32, length_putU64, List.length_replicate]
  rfl

theorem plan_fields (plan : SoundBundlePlan) :
    fields (planBody plan) 0 [4, 2, 2, 8, 32, 4, 4, 4, 32, 32, 512] =
      [magic "EIBP", toLe 2 1, toLe 2 640, toLe 8 plan.baseGeneration.toNat, plan.baseBundleSha256.toList,
        toLe 4 plan.manifestBytes.toNat, toLe 4 plan.payloadBytes.toNat, toLe 4 plan.manifestCrc32.toNat,
        plan.manifestSha256.toList, plan.bundleSha256.toList, wordBytes plan.payloadBlockCrc32.toList] := by
  simp (disch := simp [-List.reduceReplicate, planWireBytes, length_magic_eibp, length_wordBytes])
    only [planBody, fields, putU16, putU32, putU64,
    slice_put_self, slice_put_of_disjoint, Nat.reduceAdd]
  rfl

theorem encodeSoundBundlePlanWire_eq_ok {plan : SoundBundlePlan} {encoded : List UInt8} :
    encodeSoundBundlePlanWire H plan = .ok encoded ↔
      soundBundlePlanShapeIsValid plan = true ∧
      encoded = putU32 (planBody plan) 636 (H.crc32 ((planBody plan).take 636)) := by
  unfold encodeSoundBundlePlanWire
  split
  · rename_i hvalid
    rw [Except.ok.injEq, and_iff_right hvalid]
    exact eq_comm
  · rename_i hinvalid
    exact iff_of_false (by rintro ⟨⟩) fun h => hinvalid h.1

theorem eq_of_slices {left right : List UInt8} (hl : left.length = 640) (hr : right.length = 640)
    (hbody : left.take 636 = right.take 636) (htail : slice left 636 4 = slice right 636 4) :
    left = right := by
  refine eq_of_fields [636, 4] hl.le hr.le ?_
  simp only [fields, slice, List.drop_zero, hbody, Nat.reduceAdd]
  rw [← slice, ← slice, htail]

/-- The plan in the fields of a buffer. -/
def planAt (encoded : List UInt8) : SoundBundlePlan :=
  { baseGeneration := getU64 encoded 8, baseBundleSha256 := bytesAt encoded 16 32,
    manifestBytes := getU32 encoded 48,
    payloadBytes :=
      getU32 encoded 52, manifestCrc32 := getU32 encoded 56, manifestSha256 := bytesAt encoded 60 32,
    bundleSha256 := bytesAt encoded 92 32, payloadBlockCrc32 := Vector.ofFn fun i =>
      getU32 encoded (124 + i.val * 4) }

theorem planAt_fields {encoded : List UInt8} (hlength : encoded.length = 640)
    (hmagic : slice encoded 0 4 = magic "EIBP")
    (hversion : getU16 encoded 4 = 1) (hsize : getU16 encoded 6 = 640) :
    fields encoded 0 [4, 2, 2, 8, 32, 4, 4, 4, 32, 32, 512] =
      fields (planBody (planAt encoded)) 0 [4, 2, 2, 8, 32, 4, 4, 4, 32, 32, 512] := by
  have hversions := @toLe_getU16 encoded 4 (by omega)
  have hsizes := @toLe_getU16 encoded 6 (by omega)
  have hwords := @wordBytes_ofFn encoded 124 128 (by omega)
  rw [hversion] at hversions
  rw [hsize] at hsizes
  rw [plan_fields]
  simp (disch := omega) only [fields, planAt, hmagic, toLe_getU32, toLe_getU64,
    toList_bytesAt, Vector.toList_ofFn, hwords,
    Nat.reduceAdd, Nat.reduceMul]
  rw [← hversions, ← hsizes]
  rfl

theorem planAt_image {encoded : List UInt8} {plan : SoundBundlePlan} (hlength : encoded.length = 640)
    (hfields : fields encoded 0 [4, 2, 2, 8, 32, 4, 4, 4, 32, 32, 512] =
      fields (planBody plan) 0 [4, 2, 2, 8, 32, 4, 4, 4, 32, 32, 512]) :
    planAt encoded = plan := by
  rw [plan_fields] at hfields
  simp only [fields, List.cons.injEq, and_true, Nat.reduceAdd] at hfields
  obtain ⟨-, -, -, hgeneration, hbase, hmanifest, hpayload, hcrc, hmanifests, hbundle, hwords⟩ := hfields
  have hdigest {digest : SoundSha256Digest} {offset : Nat} (hoffset : offset + 32 ≤ 640)
      (h : slice encoded offset 32 = digest.toList) : bytesAt encoded offset 32 = digest :=
    Vector.toList_inj.mp ((toList_bytesAt (by omega)).trans h)
  have htable :
    (Vector.ofFn fun i : Fin 128 => getU32 encoded (124 + i.val * 4)) = plan.payloadBlockCrc32 := by
    refine Vector.toList_inj.mp (wordBytes_inj (by simp) ?_)
    rw [Vector.toList_ofFn, wordBytes_ofFn (by omega), ← hwords]
  rw [planAt, getU64_of_slice hgeneration, hdigest (by omega) hbase, getU32_of_slice hmanifest,
    getU32_of_slice hpayload,
    getU32_of_slice hcrc, hdigest (by omega) hmanifests, hdigest (by omega) hbundle, htable]

/-- The decoder accepts exactly what the encoder writes for a valid plan. -/
theorem decodeSoundBundlePlanWire_eq_ok {encoded : List UInt8} {plan : SoundBundlePlan} :
    decodeSoundBundlePlanWire H encoded = .ok plan ↔ encodeSoundBundlePlanWire H plan = .ok encoded := by
  have hdecode : decodeSoundBundlePlanWire H encoded = .ok plan ↔ encoded.length = 640 ∧
    slice encoded 0 4 = magic "EIBP"
      ∧ getU16 encoded 4 = 1 ∧ getU16 encoded 6 = 640 ∧ H.crc32 (encoded.take 636) = getU32 encoded 636
      ∧ soundBundlePlanShapeIsValid (planAt encoded) = true ∧ planAt encoded = plan := by
    unfold decodeSoundBundlePlanWire
    simp only [refusing_eq_ok, not_not, planWireBytes]
    refine and_congr_right fun _ => and_congr_right fun _ => and_congr_right fun _ =>
      and_congr_right fun _ =>
      and_congr_right fun _ => ?_
    rw [← planAt]
    split
    · rename_i hvalid
      rw [Except.ok.injEq, and_iff_right hvalid]
    · rename_i hinvalid
      exact iff_of_false (by rintro ⟨⟩) fun h => hinvalid h.1
  rw [hdecode, encodeSoundBundlePlanWire_eq_ok]
  constructor
  · rintro ⟨hlength, hmagic, hversion, hsize, hcrc, hvalid, rfl⟩
    have hflat := congrArg List.flatten (planAt_fields hlength hmagic hversion hsize)
    have hsum : [4, 2, 2, 8, 32, 4, 4, 4, 32, 32, 512].sum = 636 := rfl
    rw [flatten_fields, flatten_fields, hsum, slice, slice, List.drop_zero, List.drop_zero] at hflat
    refine ⟨hvalid, eq_of_slices hlength (by rw [length_putU32, length_planBody]) ?_ ?_⟩
    · rw [putU32, take_put_of_le (Nat.le_refl 636)]
      exact hflat
    · rw [putU32, slice_put_self (length_toLe ..) (by rw [length_planBody]), ← hflat,
        hcrc, toLe_getU32 (by omega)]
  · rintro ⟨hvalid, rfl⟩
    have hlength : (putU32 (planBody plan) 636 (H.crc32 ((planBody plan).take 636))).length = 640 := by
      rw [length_putU32, length_planBody]
    have hbody :
      (putU32 (planBody plan) 636 (H.crc32 ((planBody plan).take 636))).take 636 =
      (planBody plan).take 636 :=
      take_put_of_le (Nat.le_refl 636)
    have hcrc : slice (putU32 (planBody plan) 636 (H.crc32 ((planBody plan).take 636))) 636 4 =
        toLe 4 (H.crc32 ((planBody plan).take 636)).toNat :=
      slice_put_self (length_toLe ..) (by rw [length_planBody])
    generalize putU32 (planBody plan) 636 (H.crc32 ((planBody plan).take 636)) = encoded at *
    have hread (offset n : Nat) (h : offset + n ≤ 636) :
      slice encoded offset n = slice (planBody plan) offset n := by
      rw [← slice_take encoded h, hbody, slice_take _ h]
    have hfields :
      fields encoded 0 [4, 2, 2, 8, 32, 4, 4, 4, 32, 32, 512] = fields (planBody plan) 0 [4, 2, 2, 8,
      32, 4, 4, 4, 32, 32, 512] := by
      simp (disch := omega) only [fields, hread, Nat.reduceAdd]
    have himage := planAt_image hlength hfields
    rw [plan_fields] at hfields
    simp only [fields, List.cons.injEq, and_true, Nat.reduceAdd] at hfields
    refine ⟨hlength, hfields.1, getU16_of_slice hfields.2.1, getU16_of_slice hfields.2.2.1, ?_,
      himage ▸ hvalid, himage⟩
    rw [hbody, getU32_of_slice hcrc]

/-- On both transports and for plans: what an encoder writes decodes to the value it was given,
every byte string a decoder accepts is what the encoder writes for the decoded value, and the plans
on the wire are the valid ones. -/
theorem asset_codecs_round_trip (H : Hashes) :
    (∀ frame encoded, encodeSpeakerAssetsUsbFrame H frame = .ok encoded ↔
      decodeSpeakerAssetsUsbFrame H encoded = .ok frame) ∧
    (∀ frame encoded, encodeSpeakerAssetsWifiFrame H frame = .ok encoded ↔
      decodeSpeakerAssetsWifiFrame H encoded = .ok frame) ∧
    (∀ plan encoded, encodeSoundBundlePlanWire H plan = .ok encoded ↔
      decodeSoundBundlePlanWire H encoded = .ok plan) ∧
    (∀ encoded, (∃ plan, decodeSoundBundlePlanWire H encoded = .ok plan) ↔
      ∃ plan, soundBundlePlanShapeIsValid plan = true ∧
      encodeSoundBundlePlanWire H plan = .ok encoded) := by
  refine ⟨fun _ _ => decodeSpeakerAssetsUsbFrame_eq_ok.symm,
    fun _ _ => decodeSpeakerAssetsWifiFrame_eq_ok.symm,
    fun _ _ => decodeSoundBundlePlanWire_eq_ok.symm, fun encoded => exists_congr fun plan => ?_⟩
  rw [decodeSoundBundlePlanWire_eq_ok]
  exact ⟨fun h => ⟨(encodeSoundBundlePlanWire_eq_ok.mp h).1, h⟩, fun h => h.2⟩

end CodexKeyboard.Assets
