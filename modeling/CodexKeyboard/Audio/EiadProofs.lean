import CodexKeyboard.Audio.Eiad
/-!
# Encoder and decoder in step

The decoder repeats for every code what the encoder did when it made it (`decode_encodeImaSample`),
so over a frame it gives the first sample and then the predictors the encoder held; frames are
independent.

| here | there |
| --- | --- |
| `heldPredictors`, `encoderState` | `predictor` and `step_index` in the loop of `encode_ima_frame_with_layout` (audio.rs:229-241) |
| `eiad_tracks` | `encode_eiad`, `inspect_eiad` and `decode_eiad` on one another's results |
-/

namespace CodexKeyboard.Audio

open Lib Lib.Buffer

/-! ## One sample -/

theorem code_lt (bits : ImaBits) : bits.code.toNat < 16 := by
  obtain ⟨negative, four, two, one⟩ := bits
  revert negative four two one
  decide

/-- A code says its sign and its bits. -/
theorem code_bits (bits : ImaBits) :
    decide (bits.code &&& 8 ≠ 0) = bits.negative ∧ decide (bits.code &&& 4 ≠ 0) = bits.four ∧
    decide (bits.code &&& 2 ≠ 0) = bits.two ∧ decide (bits.code &&& 1 ≠ 0) = bits.one := by
  obtain ⟨negative, four, two, one⟩ := bits
  revert negative four two one
  decide

/-- The decoder follows the encoder. -/
theorem decode_encodeImaSample (sample predictor : Int) (stepIndex : StepIndex) :
    decodeImaSample (encodeImaSample sample predictor stepIndex).1 predictor stepIndex =
      (encodeImaSample sample predictor stepIndex).2 := by
  unfold encodeImaSample decodeImaSample
  obtain ⟨hnegative, hfour, htwo, hone⟩ := code_bits (imaBits (sample - predictor) imaStepTable[stepIndex])
  simp only [hnegative, hfour, htwo, hone]

theorem encodeImaSample_lt (sample predictor : Int) (stepIndex : StepIndex) :
    (encodeImaSample sample predictor stepIndex).1.toNat < 16 := code_lt _

/-- `i16::MIN` to `i16::MAX`. -/
def InRange (sample : Int) : Prop := -32768 ≤ sample ∧ sample ≤ 32767

theorem inRange_clampSample (value : Int) : InRange (clampSample value) := by
  unfold InRange clampSample
  omega

theorem inRange_encodeImaSample (sample predictor : Int) (stepIndex : StepIndex) :
    InRange (encodeImaSample sample predictor stepIndex).2.1 := inRange_clampSample _

theorem inRange_sampleOf (low high : UInt8) : InRange (sampleOf low high) := by
  have hlow := low.toNat_lt
  have hhigh := high.toNat_lt
  unfold InRange sampleOf
  split <;> omega

/-! ## Samples as bytes -/

theorem sampleBytes_eq (sample : Int) : ∃ low high, sampleBytes sample = [low, high] ∧
    (low.toNat + 256 * high.toNat : Int) = sample % 65536 := by
  refine ⟨_, _, rfl, ?_⟩
  have hlow : (UInt8.ofNat (sample % 65536).toNat).toNat = (sample % 65536).toNat % 256 :=
    UInt8.toNat_ofNat'
  have hhigh :
    (UInt8.ofNat ((sample % 65536).toNat / 256)).toNat = (sample % 65536).toNat / 256 % 256 :=
    UInt8.toNat_ofNat'
  rw [hlow, hhigh]
  omega

theorem pcmSamples_flatMap : ∀ {samples : List Int}, (∀ sample ∈ samples, InRange sample) →
    pcmSamples (samples.flatMap sampleBytes) = samples
  | [], _ => rfl
  | sample :: samples, h => by
    obtain ⟨low, high, hbytes, hvalue⟩ := sampleBytes_eq sample
    have hrange := h sample (.head _)
    unfold InRange at hrange
    rw [List.flatMap_cons, hbytes]
    change sampleOf low high :: pcmSamples (samples.flatMap sampleBytes) = _
    rw [pcmSamples_flatMap fun s hs => h s (List.mem_cons_of_mem _ hs)]
    congr 1
    unfold sampleOf
    split <;> omega

theorem length_flatMap_sampleBytes (samples : List Int) :
    (samples.flatMap sampleBytes).length = 2 * samples.length := by
  induction samples with
  | nil => rfl
  | cons sample samples ih =>
    rw [List.flatMap_cons, List.length_append, ih, List.length_cons, sampleBytes, length_toLe]
    omega

theorem length_pcmSamples : ∀ pcm : List UInt8, (pcmSamples pcm).length = pcm.length / 2
  | [] => rfl
  | [_] => by simp [pcmSamples]
  | low :: high :: pcm => by
    rw [pcmSamples, List.length_cons, length_pcmSamples pcm, List.length_cons, List.length_cons]
    omega

theorem inRange_pcmSamples : ∀ {pcm : List UInt8}, ∀ sample ∈ pcmSamples pcm, InRange sample
  | low :: high :: pcm, sample, h => by
    rcases List.mem_cons.1 h with rfl | hrest
    · exact inRange_sampleOf low high
    · exact inRange_pcmSamples sample hrest

/-! ## Codes in bytes -/

/-- The code number `index` of a payload, read from its byte. -/
def codeIn (packed : UInt8) (index : Nat) : UInt8 := if index % 2 = 0 then packed &&& 0x0f else packed >>> 4

theorem nibbles_pack {low high : UInt8} (hlow : low.toNat < 16) (hhigh : high.toNat < 16) :
    (low ||| (high <<< 4)) &&& 0x0f = low ∧ (low ||| (high <<< 4)) >>> 4 = high := by
  have hall :
    ∀ a b : Fin 16, (UInt8.ofNat a.val ||| (UInt8.ofNat b.val <<< 4)) &&& 0x0f = UInt8.ofNat a.val ∧
      (UInt8.ofNat a.val ||| (UInt8.ofNat b.val <<< 4)) >>> 4 = UInt8.ofNat b.val := by decide
  have h := hall ⟨low.toNat, hlow⟩ ⟨high.toNat, hhigh⟩
  simp only [UInt8.ofNat_toNat] at h
  exact h

theorem nibble_single {low : UInt8} (hlow : low.toNat < 16) : low &&& 0x0f = low ∧ low &&& 0xf0 = 0 := by
  have hall : ∀ a : Fin 16, UInt8.ofNat a.val &&& 0x0f = UInt8.ofNat a.val ∧
    UInt8.ofNat a.val &&& 0xf0 = 0 := by decide
  have h := hall ⟨low.toNat, hlow⟩
  simp only [UInt8.ofNat_toNat] at h
  exact h

theorem length_packCodes : ∀ codes : List UInt8, (packCodes codes).length = (codes.length + 1) / 2
  | [] => rfl
  | [_] => by simp [packCodes]
  | low :: high :: codes => by
    rw [packCodes, List.length_cons, length_packCodes codes, List.length_cons, List.length_cons]
    omega

/-- Every code can be read from its byte. -/
theorem codeIn_packCodes :
    ∀ {codes : List UInt8}, (∀ code ∈ codes, code.toNat < 16) → ∀ i code, codes[i]? = some code →
    ∃ packed, (packCodes codes)[i / 2]? = some packed ∧ codeIn packed i = code
  | [], _, i, code, h => by simp at h
  | [low], hcodes, i, code, h => by
    have hlow := nibble_single (hcodes low (.head _))
    cases i with
    | zero =>
      cases h
      exact ⟨low, rfl, hlow.1⟩
    | succ i => simp at h
  | low :: high :: codes, hcodes, i, code, h => by
    have hpair := nibbles_pack (hcodes low (.head _)) (hcodes high (.tail _ (.head _)))
    match i, h with
    | 0, h =>
      cases h
      exact ⟨_, rfl, hpair.1⟩
    | 1, h =>
      cases h
      exact ⟨_, rfl, hpair.2⟩
    | i + 2, h =>
      have hrest := codeIn_packCodes (fun c hc => hcodes c (.tail _ (.tail _ hc))) i code (by simpa using h)
      obtain ⟨packed, hpacked, hcode⟩ := hrest
      refine ⟨packed, ?_, ?_⟩
      · rw [show (i + 2) / 2 = i / 2 + 1 by omega, packCodes, List.getElem?_cons_succ]
        exact hpacked
      · rw [codeIn, show (i + 2) % 2 = i % 2 by omega]
        exact hcode

/-- An odd number of codes leaves the last high nibble empty. -/
theorem getLast_packCodes :
    ∀ {codes : List UInt8}, (∀ code ∈ codes, code.toNat < 16) → codes.length % 2 = 1 →
    ∃ last, (packCodes codes)[(packCodes codes).length - 1]? = some last ∧ last &&& 0xf0 = 0
  | [], _, h => by cases h
  | [low], hcodes, _ => ⟨low, rfl, (nibble_single (hcodes low (.head _))).2⟩
  | low :: high :: codes, hcodes, h => by
    have hodd : codes.length % 2 = 1 := by
      rw [List.length_cons, List.length_cons] at h
      omega
    obtain ⟨last, hlast, hzero⟩ := getLast_packCodes (fun c hc => hcodes c (.tail _ (.tail _ hc))) hodd
    have hpos : 0 < (packCodes codes).length := by
      rw [length_packCodes]
      omega
    refine ⟨last, ?_, hzero⟩
    rw [packCodes, List.length_cons, Nat.add_sub_cancel,
      show (packCodes codes).length = (packCodes codes).length - 1 + 1 by omega,
      List.getElem?_cons_succ]
    exact hlast

/-! ## Bytes within a container -/

/-- The bytes stand in the container from `offset` on. -/
def At (eiad : List UInt8) (offset : Nat) (bytes : List UInt8) : Prop :=
  ∀ i byte, bytes[i]? = some byte → eiad[offset + i]? = some byte

section
variable {eiad bytes first second : List UInt8} {offset : Nat}

theorem At.left (h : At eiad offset (first ++ second)) : At eiad offset first := by
  intro i byte hi
  refine h i byte ?_
  rw [List.getElem?_append_left (List.getElem?_eq_some_iff.1 hi).1]
  exact hi

theorem At.right (h : At eiad offset (first ++ second)) : At eiad (offset + first.length) second := by
  intro i byte hi
  rw [Nat.add_assoc]
  refine h (first.length + i) byte ?_
  rw [List.getElem?_append_right (Nat.le_add_right _ _), Nat.add_sub_cancel_left]
  exact hi

theorem At.le (h : At eiad offset bytes) (hpos : 0 < bytes.length) :
    offset + bytes.length ≤ eiad.length := by
  obtain ⟨last, hlast⟩ : ∃ last, bytes[bytes.length - 1]? = some last :=
    ⟨bytes[bytes.length - 1], List.getElem?_eq_getElem (by omega)⟩
  have hin := (List.getElem?_eq_some_iff.1 (h _ last hlast)).1
  omega

theorem At.byteAt_eq (h : At eiad offset bytes) {i : Nat} {byte : UInt8} (hi : bytes[i]? = some byte) :
    byteAt eiad (offset + i) = .ok byte := by
  rw [Audio.byteAt, h i byte hi]

theorem At.slice_eq (h : At eiad offset bytes) : Buffer.slice eiad offset bytes.length = bytes := by
  ext1 i
  rw [getElem?_slice]
  by_cases hi : i < bytes.length
  · rw [if_pos hi, List.getElem?_eq_getElem hi]
    exact h i _ (List.getElem?_eq_getElem hi)
  · rw [if_neg hi, List.getElem?_eq_none (by omega)]

theorem At.readLe_eq {width value : Nat} (h : At eiad offset (toLe width value)) (hpos : 0 < width)
    (hvalue : value < 256 ^ width) :
    readLe width eiad offset = .ok value := by
  have hlength : (toLe width value).length = width := length_toLe width value
  have hle := h.le (by omega)
  have hslice := h.slice_eq
  rw [hlength] at hle hslice
  rw [Audio.readLe, if_pos hle, hslice, fromLe_toLe, Nat.mod_eq_of_lt hvalue]

end

/-! ## The samples of a frame -/

/-- The predictors that the encoder holds after each sample. -/
def heldPredictors : List Int → Int → StepIndex → List Int
  | [], _, _ => []
  | sample :: samples, predictor, stepIndex =>
    (encodeImaSample sample predictor stepIndex).2.1 ::
      heldPredictors samples (encodeImaSample sample predictor stepIndex).2.1
        (encodeImaSample sample predictor stepIndex).2.2

theorem length_encodeSamples : ∀ (samples : List Int) (predictor : Int) (stepIndex : StepIndex),
    (encodeSamples samples predictor stepIndex).length = samples.length
  | [], _, _ => rfl
  | sample :: samples, predictor, stepIndex => by
    simp only [encodeSamples, List.length_cons, length_encodeSamples]

theorem encodeSamples_lt : ∀ {samples : List Int} {predictor : Int} {stepIndex : StepIndex},
    ∀ code ∈ encodeSamples samples predictor stepIndex, code.toNat < 16
  | sample :: samples, predictor, stepIndex, code, h => by
    simp only [encodeSamples] at h
    rcases List.mem_cons.1 h with rfl | hrest
    · exact encodeImaSample_lt sample predictor stepIndex
    · exact encodeSamples_lt code hrest

theorem length_heldPredictors : ∀ (samples : List Int) (predictor : Int) (stepIndex : StepIndex),
    (heldPredictors samples predictor stepIndex).length = samples.length
  | [], _, _ => rfl
  | sample :: samples, predictor, stepIndex => by
    simp only [heldPredictors, List.length_cons, length_heldPredictors]

theorem inRange_heldPredictors : ∀ {samples : List Int} {predictor : Int} {stepIndex : StepIndex},
    ∀ held ∈ heldPredictors samples predictor stepIndex, InRange held
  | sample :: samples, predictor, stepIndex, held, h => by
    rcases List.mem_cons.1 h with rfl | hrest
    · exact inRange_encodeImaSample sample predictor stepIndex
    · exact inRange_heldPredictors held hrest

/-- The decoder, reading the codes that the encoder wrote, gives the predictors that the encoder held. -/
theorem decodeSamples_eq {eiad : List UInt8} {offset : Nat} :
    ∀ {samples : List Int} {predictor : Int} {stepIndex : StepIndex} {k : Nat},
    (∀ i code, (encodeSamples samples predictor stepIndex)[i]? = some code →
      ∃ packed, eiad[offset + (k + i) / 2]? = some packed ∧ codeIn packed (k + i) = code) →
    decodeSamples eiad offset samples.length (k + 1) predictor stepIndex =
      .ok (heldPredictors samples predictor stepIndex)
  | [], _, _, _, _ => rfl
  | sample :: samples, predictor, stepIndex, k, h => by
    obtain ⟨packed, hpacked, hcode⟩ := h 0 _ rfl
    have hbyte : byteAt eiad (offset + (k + 1 - 1) / 2) = .ok packed := by
      rw [Nat.add_sub_cancel, byteAt]
      rw [Nat.add_zero] at hpacked
      rw [hpacked]
    have hread :
      (if (k + 1) % 2 ≠ 0 then packed &&& 0x0f else packed >>> 4) =
      (encodeImaSample sample predictor stepIndex).1 := by
      have hcode : codeIn packed (k + 0) = (encodeImaSample sample predictor stepIndex).1 := hcode
      rw [← hcode, codeIn, Nat.add_zero k]
      by_cases heven : k % 2 = 0
      · rw [if_pos heven, if_pos (by omega)]
      · rw [if_neg heven, if_neg (by omega)]
    have hrest := @decodeSamples_eq eiad offset samples (encodeImaSample sample predictor stepIndex).2.1
      (encodeImaSample sample predictor stepIndex).2.2 (k + 1) (fun i code hi => by
        have hnext := h (i + 1) code (by rw [encodeSamples, List.getElem?_cons_succ]; exact hi)
        rw [show k + 1 + i = k + (i + 1) by omega]
        exact hnext)
    rw [List.length_cons, decodeSamples, hbyte, ok_bind]
    simp only [hread, decode_encodeImaSample, hrest, ok_bind, heldPredictors]
    rfl

/-! ## One frame -/

/-- What a frame of samples is written as, with the length of its payload. -/
def frameBytes : List Int → List UInt8
  | [] => []
  | first :: rest =>
    toLe 2 (rest.length + 1) ++ (sampleBytes first ++ ([UInt8.ofNat (initialStepIndex first rest).val, 0] ++
      (toLe 2 ((rest.length + 1) / 2) ++
        packCodes (encodeSamples rest first (initialStepIndex first rest)))))

/-- What the decoder makes of it. -/
def frameHeld : List Int → List Int
  | [] => []
  | first :: rest => first :: heldPredictors rest first (initialStepIndex first rest)

theorem length_frameHeld (frame : List Int) : (frameHeld frame).length = frame.length := by
  cases frame with
  | nil => rfl
  | cons first rest => rw [frameHeld, List.length_cons, length_heldPredictors, List.length_cons]

theorem inRange_frameHeld {frame : List Int} (h : ∀ sample ∈ frame, InRange sample) :
    ∀ held ∈ frameHeld frame, InRange held := by
  cases frame with
  | nil => intro held hheld; cases hheld
  | cons first rest =>
    intro held hheld
    rcases List.mem_cons.1 hheld with rfl | hrest
    · exact h held (.head _)
    · exact inRange_heldPredictors held hrest

theorem length_sampleBytes (sample : Int) : (sampleBytes sample).length = 2 := length_toLe 2 _

theorem length_frameBytes (first : Int) (rest : List Int) :
    (frameBytes (first :: rest)).length = 8 + (rest.length + 1) / 2 := by
  rw [frameBytes]
  simp only [List.length_append, length_toLe, length_sampleBytes, length_packCodes,
    length_encodeSamples, List.length_cons,
    List.length_nil]
  omega

theorem encodeImaFrame_eq {first : Int} {rest : List Int} (h : rest.length < 960) :
    encodeImaFrameWithLayout (first :: rest) true = .ok (frameBytes (first :: rest)) := by
  have hcount : u16Bytes (first :: rest).length = .ok (toLe 2 (rest.length + 1)) := by
    rw [u16Bytes, List.length_cons, if_pos (by omega)]
  have hpayload : u16Bytes ((rest.length + 1) / 2) = .ok (toLe 2 ((rest.length + 1) / 2)) := by
    rw [u16Bytes, if_pos (by omega)]
  simp only [encodeImaFrameWithLayout, hcount, if_true, hpayload, ok_bind, frameBytes, List.append_assoc]
  rfl

section
variable {eiad : List UInt8} {offset : Nat} {first : Int} {rest : List Int}

theorem require_ok {p : Prop} [Decidable p] (h : p) : require (decide p) = .ok () := by
  rw [require, decide_eq_true h]
  rfl

/-- The fields of a frame in a container. -/
theorem At.fields (h : At eiad offset (frameBytes (first :: rest))) (hrest : rest.length < 960) :
    readLe 2 eiad offset = .ok (rest.length + 1) ∧ At eiad (offset + 2) (sampleBytes first) ∧
      byteAt eiad (offset + 4) = .ok (UInt8.ofNat (initialStepIndex first rest).val) ∧
      byteAt eiad (offset + 5) = .ok 0 ∧
      readLe 2 eiad (offset + 6) = .ok ((rest.length + 1) / 2) ∧
      At eiad (offset + 8) (packCodes (encodeSamples rest first (initialStepIndex first rest))) := by
  rw [frameBytes] at h
  have hfirst := h.right
  rw [length_toLe] at hfirst
  have hstep := hfirst.right
  rw [length_sampleBytes, Nat.add_assoc] at hstep
  have hlength := hstep.right
  rw [show [UInt8.ofNat (initialStepIndex first rest).val, 0].length = 2 from rfl, Nat.add_assoc] at hlength
  have hcodes := hlength.right
  rw [length_toLe, Nat.add_assoc] at hcodes
  exact ⟨h.left.readLe_eq (by omega) (by omega), hfirst.left, hstep.left.byteAt_eq (i := 0) rfl,
    hstep.left.byteAt_eq (i := 1) rfl,
    hlength.left.readLe_eq (by omega) (by omega), hcodes⟩

theorem At.frame_le (h : At eiad offset (frameBytes (first :: rest))) :
    offset + 8 + (rest.length + 1) / 2 ≤ eiad.length := by
  have hlength := length_frameBytes first rest
  have hle := h.le (by omega)
  omega

/-- Inspection takes the frame. -/
theorem inspectFrame_eq (h : At eiad offset (frameBytes (first :: rest))) (hrest : rest.length < 960) :
    inspectFrame eiad offset (rest.length + 1) = .ok (offset + (frameBytes (first :: rest)).length) := by
  obtain ⟨hcount, -, hstep, hreserved, hpayload, hcodes⟩ := h.fields hrest
  have hin := h.frame_le
  have hstepLt : (UInt8.ofNat (initialStepIndex first rest).val).toNat ≤ 88 := by
    rw [UInt8.toNat_ofNat']
    omega
  have hdiv : divCeil (rest.length + 1 - 1) 2 = (rest.length + 1) / 2 := by
    rw [divCeil]
    omega
  rw [length_frameBytes]
  refine bind_eq_ok.2 ⟨(), require_ok (show offset + 8 ≤ eiad.length by omega), ?_⟩
  refine bind_eq_ok.2 ⟨_, hcount,
    bind_eq_ok.2 ⟨_, hstep, bind_eq_ok.2 ⟨_, hreserved, bind_eq_ok.2 ⟨_, hpayload, ?_⟩⟩⟩⟩
  refine bind_eq_ok.2 ⟨(), require_ok ⟨rfl, by omega, ?_, hstepLt, rfl, hdiv.symm⟩, ?_⟩
  · rw [eiadFrameSamples]
    omega
  refine bind_eq_ok.2 ⟨(), require_ok hin, ?_⟩
  rw [Nat.add_sub_cancel, eiadFrameHeaderBytes]
  by_cases hodd : rest.length % 2 = 0
  · rw [if_neg (by omega), ← Nat.add_assoc]
    rfl
  · obtain ⟨last, hlast, hzero⟩ :=
      @getLast_packCodes (encodeSamples rest first (initialStepIndex first rest))
      encodeSamples_lt (by rw [length_encodeSamples]; omega)
    rw [length_packCodes, length_encodeSamples] at hlast
    have hbyte := hcodes.byteAt_eq hlast
    rw [if_pos (by omega), show offset + 8 + (rest.length + 1) / 2 - 1 =
      offset + 8 + ((rest.length + 1) / 2 - 1) by omega, hbyte,
      ok_bind, require_ok hzero, ok_bind, ← Nat.add_assoc]
    rfl

/-- Decoding gives the first sample and the predictors. -/
theorem decodeFrame_eq (h : At eiad offset (frameBytes (first :: rest))) (hrest : rest.length < 960)
    (hfirst : InRange first) :
    decodeFrame eiad offset = .ok (frameHeld (first :: rest),
      offset + (frameBytes (first :: rest)).length) := by
  obtain ⟨hcount, hsample, hstep, -, hpayload, hcodes⟩ := h.fields hrest
  obtain ⟨low, high, hbytes, hvalue⟩ := sampleBytes_eq first
  rw [hbytes] at hsample
  have hlow : byteAt eiad (offset + 2) = .ok low := hsample.byteAt_eq (i := 0) rfl
  have hhigh : byteAt eiad (offset + 3) = .ok high := hsample.byteAt_eq (i := 1) rfl
  have hpredictor : sampleOf low high = first := by
    unfold InRange at hfirst
    unfold sampleOf
    split <;> omega
  have hindex :
    (UInt8.ofNat (initialStepIndex first rest).val).toNat = (initialStepIndex first rest).val := by
    rw [UInt8.toNat_ofNat']
    omega
  have hsamples := @decodeSamples_eq eiad (offset + 8) rest first (initialStepIndex first rest) 0 (by
    intro i code hi
    obtain ⟨packed, hpacked, hcode⟩ := codeIn_packCodes encodeSamples_lt i code hi
    rw [Nat.zero_add]
    exact ⟨packed, hcodes _ packed hpacked, hcode⟩)
  rw [length_frameBytes]
  simp only [decodeFrame, hcount, hlow, hhigh, hstep, hpayload, ok_bind, hpredictor,
    eiadFrameHeaderBytes, Nat.add_sub_cancel,
    hindex, (initialStepIndex first rest).isLt, dite_true, Fin.eta]
  rw [hsamples, ok_bind, ← Nat.add_assoc]
  rfl

end

/-! ## All frames -/

theorem divCeil_frames {n : Nat} (h : 0 < n) :
    divCeil n eiadFrameSamples = divCeil (n - 960) eiadFrameSamples + 1 := by
  unfold divCeil eiadFrameSamples
  omega

theorem framesOf_eq {samples : List Int} (h : samples ≠ []) :
    framesOf samples = samples.take 960 :: framesOf (samples.drop 960) := by
  have hpos : 0 < samples.length := List.length_pos_iff.2 h
  have hfront : frameOf samples 0 = samples.take 960 := by
    rw [frameOf, Nat.zero_mul, List.drop_zero, eiadFrameSamples]
  have hnext : ∀ index, frameOf samples (index + 1) = frameOf (samples.drop 960) index := by
    intro index
    rw [frameOf, frameOf, List.drop_drop, eiadFrameSamples,
      show (index + 1) * 960 = 960 + index * 960 by omega]
  rw [framesOf, framesOf, divCeil_frames hpos, List.length_drop, List.range_succ_eq_map,
    List.map_cons, List.map_map, hfront]
  exact congrArg (List.cons _) (List.map_congr_left fun index _ => hnext index)

/-- An induction over the frames. -/
theorem frames_induction {P : List Int → Prop} (nil : P [])
    (frame : ∀ samples, samples ≠ [] → P (samples.drop 960) → P samples)
    (samples : List Int) : P samples := by
  by_cases h : samples = []
  · rw [h]
    exact nil
  · exact frame samples h (frames_induction nil frame (samples.drop 960))
termination_by samples.length
decreasing_by
  have hpos : 0 < samples.length := List.length_pos_iff.2 h
  rw [List.length_drop]
  omega

/-- The frame at the front. -/
theorem front_frame {samples : List Int} (h : samples ≠ []) :
    ∃ first rest, samples.take 960 = first :: rest ∧ rest.length < 960 ∧
    rest.length + 1 = min 960 samples.length ∧
      first ∈ samples := by
  cases samples with
  | nil => exact absurd rfl h
  | cons first samples =>
    refine ⟨first, samples.take 959, List.take_succ_cons, ?_, ?_, .head _⟩
    · rw [List.length_take]
      omega
    · rw [List.length_take, List.length_cons]
      omega

theorem encodeFrames_eq (samples : List Int) :
    encodeFrames (framesOf samples) = .ok ((framesOf samples).flatMap frameBytes) := by
  induction samples using frames_induction with
  | nil => rfl
  | frame samples h ih =>
    obtain ⟨first, rest, hfront, hrest, -⟩ := front_frame h
    rw [framesOf_eq h, encodeFrames, hfront, encodeImaFrame_eq hrest, ok_bind, ih, ok_bind]
    rfl

section
variable {eiad : List UInt8}

theorem inspectFrames_eq (total : Nat) (samples : List Int) : ∀ {offset counted : Nat},
    At eiad offset ((framesOf samples).flatMap frameBytes) → counted + samples.length = total →
    inspectFrames eiad total (divCeil samples.length eiadFrameSamples) offset counted =
      .ok (offset + ((framesOf samples).flatMap frameBytes).length, total) := by
  induction samples using frames_induction with
  | nil =>
    intro offset counted _ htotal
    rw [← htotal]
    rfl
  | frame samples h ih =>
    intro offset counted hat htotal
    obtain ⟨first, rest, hfront, hrest, hcount, -⟩ := front_frame h
    have hpos : 0 < samples.length := List.length_pos_iff.2 h
    rw [framesOf_eq h, hfront, List.flatMap_cons] at hat ⊢
    -- the last frame takes what is left, the others take 960
    have hexpected :
      (if divCeil (samples.length - 960) eiadFrameSamples = 0 then total - counted else eiadFrameSamples) =
        rest.length + 1 := by
      unfold divCeil eiadFrameSamples
      split <;> omega
    have hnext := @ih _ (counted + (rest.length + 1)) hat.right (by rw [List.length_drop]; omega)
    rw [List.length_drop] at hnext
    rw [divCeil_frames hpos, inspectFrames, hexpected, inspectFrame_eq hat.left hrest, ok_bind,
      hnext, List.length_append,
      Nat.add_assoc]

theorem decodeFrames_eq (samples : List Int) :
    ∀ {offset : Nat}, At eiad offset ((framesOf samples).flatMap frameBytes) →
    (∀ sample ∈ samples, InRange sample) →
    decodeFrames eiad (divCeil samples.length eiadFrameSamples) offset =
      .ok ((framesOf samples).flatMap frameHeld) := by
  induction samples using frames_induction with
  | nil =>
    intro offset _ _
    rfl
  | frame samples h ih =>
    intro offset hat hrange
    obtain ⟨first, rest, hfront, hrest, -, hmem⟩ := front_frame h
    have hpos : 0 < samples.length := List.length_pos_iff.2 h
    rw [framesOf_eq h, hfront, List.flatMap_cons] at hat ⊢
    have hnext := ih hat.right fun sample hs => hrange sample (List.mem_of_mem_drop hs)
    rw [List.length_drop] at hnext
    rw [divCeil_frames hpos, decodeFrames, decodeFrame_eq hat.left hrest (hrange first hmem), ok_bind]
    simp only [hnext, ok_bind]
    rfl

end

/-- Every sample of the result belongs to the frame with its number. -/
theorem getElem?_frames (samples : List Int) : ∀ k < samples.length,
    ((framesOf samples).flatMap frameHeld)[k]? =
      (frameHeld (frameOf samples (k / eiadFrameSamples)))[k % eiadFrameSamples]? := by
  induction samples using frames_induction with
  | nil =>
    intro k hk
    exact absurd hk (Nat.not_lt_zero k)
  | frame samples h ih =>
    intro k hk
    rw [framesOf_eq h, List.flatMap_cons]
    have hlength : (frameHeld (samples.take 960)).length = min 960 samples.length := by
      rw [length_frameHeld, List.length_take]
    by_cases hfront : k < 960
    · rw [List.getElem?_append_left (by omega), frameOf, eiadFrameSamples, Nat.div_eq_of_lt hfront,
        Nat.mod_eq_of_lt hfront,
        Nat.zero_mul, List.drop_zero]
    · have hnext := ih (k - 960) (by rw [List.length_drop]; omega)
      rw [List.getElem?_append_right (by omega), hlength,
        show k - min 960 samples.length = k - 960 by omega, hnext]
      simp only [frameOf, eiadFrameSamples, List.drop_drop]
      rw [show 960 + (k - 960) / 960 * 960 = k / 960 * 960 by omega,
        show (k - 960) % 960 = k % 960 by omega]

theorem length_frames (samples : List Int) :
    ((framesOf samples).flatMap frameHeld).length = samples.length := by
  induction samples using frames_induction with
  | nil => rfl
  | frame samples h ih =>
    rw [framesOf_eq h, List.flatMap_cons, List.length_append, ih,
      length_frameHeld, List.length_take, List.length_drop]
    omega

theorem inRange_frames {samples : List Int} (h : ∀ sample ∈ samples, InRange sample) :
    ∀ held ∈ (framesOf samples).flatMap frameHeld, InRange held := by
  intro held hheld
  obtain ⟨frame, hframe, hheld⟩ := List.mem_flatMap.1 hheld
  obtain ⟨index, -, rfl⟩ := List.mem_map.1 hframe
  refine inRange_frameHeld (fun sample hs => h sample ?_) held hheld
  exact List.mem_of_mem_drop (List.mem_of_mem_take hs)

/-! ## The container -/

/-- What `encode_eiad` writes. -/
def eiadOf (samples : List Int) : List UInt8 :=
  eiadHeader samples.length (divCeil samples.length eiadFrameSamples) ++
    (framesOf samples).flatMap frameBytes

theorem length_eiadHeader (samples frames : Nat) : (eiadHeader samples frames).length = 32 := by
  simp only [eiadHeader, eiadMagic, List.length_append, length_toLe, List.length_cons, List.length_nil]

theorem requireField_eq {width value offset : Nat} {eiad : List UInt8}
    (h : At eiad offset (toLe width value)) (hpos : 0 < width)
    (hvalue : value < 256 ^ width) : requireField width eiad offset value = .ok () := by
  rw [requireField, h.readLe_eq hpos hvalue, ok_bind]
  exact require_ok rfl

section
variable {samples : List Int}

theorem eiadOf_at : At (eiadOf samples) 32 ((framesOf samples).flatMap frameBytes) := by
  intro i byte h
  rw [eiadOf, List.getElem?_append_right (by rw [length_eiadHeader]; omega),
    length_eiadHeader, Nat.add_sub_cancel_left]
  exact h

theorem length_eiadOf : (eiadOf samples).length = 32 + ((framesOf samples).flatMap frameBytes).length := by
  rw [eiadOf, List.length_append, length_eiadHeader]

theorem eiadOf_header :
    At (eiadOf samples) 0 (eiadHeader samples.length (divCeil samples.length eiadFrameSamples)) := by
  intro i byte h
  rw [Nat.zero_add, eiadOf, List.getElem?_append_left (List.getElem?_eq_some_iff.1 h).1]
  exact h

theorem inspectEiad_eiadOf (hpos : 0 < samples.length)
    (hmax : samples.length ≤ ttsSampleRate * maxTtsSeconds) :
    inspectEiad (eiadOf samples) =
      .ok ⟨ttsSampleRate, samples.length, divCeil samples.length eiadFrameSamples⟩ := by
  have hmax : samples.length ≤ 7200000 := hmax
  have hframes : divCeil samples.length eiadFrameSamples ≤ 7500 := by
    unfold divCeil eiadFrameSamples
    omega
  have h := @eiadOf_header samples
  have hmagic := h.left.left.left.left.left.left.left.left.left.slice_eq
  have hstart : 32 ≤ (eiadOf samples).length ∧ slice (eiadOf samples) 0 4 = eiadMagic := by
    rw [length_eiadOf]
    exact ⟨Nat.le_add_right _ _, hmagic⟩
  refine bind_eq_ok.2 ⟨(), ?_, ?_⟩
  · rw [eiadHeaderBytes, decide_eq_true hstart.1, decide_eq_true hstart.2]
    rfl
  refine bind_eq_ok.2 ⟨(),
    requireField_eq h.left.left.left.left.left.left.left.left.right (by omega) (by decide), ?_⟩
  refine bind_eq_ok.2 ⟨(),
    requireField_eq h.left.left.left.left.left.left.left.right (by omega) (by decide), ?_⟩
  refine bind_eq_ok.2 ⟨(), requireField_eq h.left.left.left.left.left.left.right (by omega) (by decide), ?_⟩
  refine bind_eq_ok.2 ⟨(), requireField_eq h.left.left.left.left.left.right (by omega) (by decide), ?_⟩
  refine bind_eq_ok.2 ⟨(), requireField_eq h.left.left.left.left.right (by omega) (by decide), ?_⟩
  refine bind_eq_ok.2 ⟨(), requireField_eq h.left.left.left.right (by omega) (by decide), ?_⟩
  refine bind_eq_ok.2 ⟨(), requireField_eq h.left.left.right (by omega) (by decide), ?_⟩
  refine bind_eq_ok.2 ⟨_, h.left.right.readLe_eq (by omega) (by omega), ?_⟩
  refine bind_eq_ok.2 ⟨_, h.right.readLe_eq (by omega) (by omega), ?_⟩
  refine bind_eq_ok.2 ⟨(), require_ok ⟨by omega, hmax, rfl⟩, ?_⟩
  refine bind_eq_ok.2 ⟨_, inspectFrames_eq samples.length samples eiadOf_at (Nat.zero_add _), ?_⟩
  refine bind_eq_ok.2 ⟨(), require_ok ⟨length_eiadOf.symm, rfl⟩, rfl⟩

theorem decodeEiad_eiadOf (hpos : 0 < samples.length)
    (hmax : samples.length ≤ ttsSampleRate * maxTtsSeconds)
    (hrange : ∀ sample ∈ samples, InRange sample) :
    decodeEiad (eiadOf samples) = .ok (((framesOf samples).flatMap frameHeld).flatMap sampleBytes) := by
  rw [decodeEiad, inspectEiad_eiadOf hpos hmax, ok_bind]
  refine bind_eq_ok.2 ⟨_, decodeFrames_eq samples eiadOf_at hrange, rfl⟩

end

theorem encodeEiad_eq {pcm : List UInt8} (hne : pcm ≠ []) (heven : pcm.length % 2 = 0)
    (hmax : pcm.length / 2 ≤ ttsSampleRate * maxTtsSeconds) :
    encodeEiad pcm = .ok (eiadOf (pcmSamples pcm)) := by
  have hvalid : validatePcm pcm = .ok (pcmSamples pcm).length := by
    rw [validatePcm, if_neg (by rintro (h | h); exacts [hne h, h heven]),
      if_neg (by omega), length_pcmSamples]
  rw [encodeEiad, hvalid, ok_bind, encodeFrames_eq, ok_bind]
  rfl

/-! ## The state of the encoder -/

/-- `predictor` and `step_index` in the loop of `encode_ima_frame_with_layout` once it has taken
`taken` samples after the first. -/
def encoderState (frame : List Int) (taken : Nat) : Int × StepIndex :=
  (frame.tail.take taken).foldl (fun state sample => (encodeImaSample sample state.1 state.2).2)
    (frame.headD 0, initialStepIndex (frame.headD 0) frame.tail)

/-- The codes of the frame are the ones made in these states. -/
theorem getElem?_encodeSamples : ∀ (samples : List Int) (predictor : Int) (stepIndex : StepIndex) (i : Nat),
    (encodeSamples samples predictor stepIndex)[i]? = samples[i]?.map fun sample =>
      (encodeImaSample sample
        ((samples.take i).foldl (fun state sample =>
          (encodeImaSample sample state.1 state.2).2) (predictor, stepIndex)).1
        ((samples.take i).foldl (fun state sample =>
          (encodeImaSample sample state.1 state.2).2) (predictor, stepIndex)).2).1
  | [], _, _, i => by rw [encodeSamples, List.getElem?_nil, List.getElem?_nil, Option.map_none]
  | sample :: samples, predictor, stepIndex, 0 => rfl
  | sample :: samples, predictor, stepIndex, i + 1 => by
    simp only [encodeSamples, List.getElem?_cons_succ,
      getElem?_encodeSamples samples _ _ i, List.take_succ_cons,
      List.foldl_cons]

theorem getElem?_heldPredictors :
    ∀ (samples : List Int) (predictor : Int) (stepIndex : StepIndex), ∀ i < samples.length,
    (heldPredictors samples predictor stepIndex)[i]? =
      some ((samples.take (i + 1)).foldl (fun state sample =>
        (encodeImaSample sample state.1 state.2).2) (predictor, stepIndex)).1
  | sample :: samples, predictor, stepIndex, 0, _ => rfl
  | sample :: samples, predictor, stepIndex, i + 1, h => by
    rw [heldPredictors, List.getElem?_cons_succ,
      getElem?_heldPredictors samples _ _ i (Nat.lt_of_succ_lt_succ h)]
    rfl

/-- The decoder's samples are the encoder's predictors. -/
theorem getElem?_frameHeld {frame : List Int} {j : Nat} (h : j < frame.length) :
    (frameHeld frame)[j]? = some (encoderState frame j).1 := by
  cases frame with
  | nil => exact absurd h (Nat.not_lt_zero j)
  | cons first rest =>
    cases j with
    | zero => rfl
    | succ i =>
      rw [frameHeld, List.getElem?_cons_succ, getElem?_heldPredictors _ _ _ i (Nat.lt_of_succ_lt_succ h)]
      rfl

/-- Before it has taken any, the encoder holds the first sample itself. -/
theorem encoderState_zero {frame : List Int} {first : Int} (h : frame[0]? = some first) :
    (encoderState frame 0).1 = first := by
  cases frame with
  | nil => cases h
  | cons sample rest =>
    cases h
    rfl

theorem getElem?_frameOf {samples : List Int} {k : Nat} :
    (frameOf samples (k / eiadFrameSamples))[k % eiadFrameSamples]? = samples[k]? := by
  have hlt : k % eiadFrameSamples < eiadFrameSamples := Nat.mod_lt _ (by decide)
  rw [frameOf, List.getElem?_take_of_lt hlt, List.getElem?_drop, Nat.mul_comm, Nat.div_add_mod]

theorem frameOf_lt {samples : List Int} {k : Nat} (hk : k < samples.length) :
    k % eiadFrameSamples < (frameOf samples (k / eiadFrameSamples)).length := by
  have hsample := @getElem?_frameOf samples k
  rw [List.getElem?_eq_getElem hk] at hsample
  exact (List.getElem?_eq_some_iff.1 hsample).1

/-! ## Accepted containers -/

section
variable {eiad : List UInt8}

theorem byteAt_of_lt {i : Nat} (h : i < eiad.length) : ∃ byte, byteAt eiad i = .ok byte := by
  refine ⟨eiad[i], ?_⟩
  rw [byteAt, List.getElem?_eq_getElem h]

theorem require_eq_ok {p : Prop} [Decidable p] {u : Unit} (h : require (decide p) = .ok u) : p :=
  of_decide_eq_true (ensure_eq_ok.1 h)

theorem decodeSamples_total {offset : Nat} : ∀ (count k : Nat) (predictor : Int) (stepIndex : StepIndex),
    offset + (k + count + 1) / 2 ≤ eiad.length →
    ∃ samples, decodeSamples eiad offset count (k + 1) predictor stepIndex = .ok samples ∧
    samples.length = count
  | 0, k, predictor, stepIndex, _ => ⟨[], rfl, rfl⟩
  | count + 1, k, predictor, stepIndex, h => by
    obtain ⟨packed, hpacked⟩ := @byteAt_of_lt eiad (offset + (k + 1 - 1) / 2) (by omega)
    obtain ⟨samples, hsamples, hlength⟩ := decodeSamples_total count (k + 1)
      (decodeImaSample (if (k + 1) % 2 ≠ 0 then packed &&& 0x0f else packed >>> 4) predictor stepIndex).1
      (decodeImaSample (if (k + 1) % 2 ≠ 0 then packed &&& 0x0f else packed >>> 4) predictor stepIndex).2
      (by rw [show k + 1 + count + 1 = k + (count + 1) + 1 by omega]; exact h)
    refine ⟨(decodeImaSample (if (k + 1) % 2 ≠ 0 then
      packed &&& 0x0f else packed >>> 4) predictor stepIndex).1 :: samples, ?_,
      by rw [List.length_cons, hlength]⟩
    rw [decodeSamples, hpacked, ok_bind]
    simp only [hsamples, ok_bind]
    rfl

/-- What inspection has seen of a frame. -/
theorem inspectFrame_sound {offset expected frameEnd : Nat}
    (h : inspectFrame eiad offset expected = .ok frameEnd) :
    ∃ stepIndex : UInt8, readLe 2 eiad offset = .ok expected ∧ expected ≠ 0 ∧
    byteAt eiad (offset + 4) = .ok stepIndex ∧
      stepIndex.toNat ≤ 88 ∧ readLe 2 eiad (offset + 6) = .ok (divCeil (expected - 1) 2) ∧
      frameEnd = offset + 8 + divCeil (expected - 1) 2 ∧ frameEnd ≤ eiad.length := by
  unfold inspectFrame at h
  obtain ⟨_, -, h⟩ := bind_eq_ok.1 h
  obtain ⟨frameSamples, hsamples, h⟩ := bind_eq_ok.1 h
  obtain ⟨stepIndex, hstep, h⟩ := bind_eq_ok.1 h
  obtain ⟨_, -, h⟩ := bind_eq_ok.1 h
  obtain ⟨payloadBytes, hpayload, h⟩ := bind_eq_ok.1 h
  obtain ⟨_, hfields, h⟩ := bind_eq_ok.1 h
  obtain ⟨hexpected, hne, -, hindex, -, hbytes⟩ := require_eq_ok hfields
  obtain ⟨_, hin, hlast⟩ := bind_eq_ok.1 h
  have hin := require_eq_ok hin
  subst hexpected hbytes
  have hend : frameEnd = offset + 8 + divCeil (frameSamples - 1) 2 := by
    split at hlast
    · obtain ⟨_, -, hlast⟩ := bind_eq_ok.1 hlast
      obtain ⟨_, -, hlast⟩ := bind_eq_ok.1 hlast
      cases hlast
      rfl
    · cases hlast
      rfl
  exact ⟨stepIndex, hsamples, hne, hstep, hindex, hpayload, hend, hend ▸ hin⟩

theorem decodeFrame_of_inspectFrame {offset expected frameEnd : Nat}
    (h : inspectFrame eiad offset expected = .ok frameEnd) :
    ∃ samples, decodeFrame eiad offset = .ok (samples, frameEnd) ∧ samples.length = expected := by
  obtain ⟨stepIndex, hcount, hne, hstep, hindex, hpayload, hend, hin⟩ := inspectFrame_sound h
  obtain ⟨low, hlow⟩ := @byteAt_of_lt eiad (offset + 2) (by omega)
  obtain ⟨high, hhigh⟩ := @byteAt_of_lt eiad (offset + 3) (by omega)
  have hlt : stepIndex.toNat < 89 := by omega
  obtain ⟨samples, hsamples, hlength⟩ :=
    @decodeSamples_total eiad (offset + 8) (expected - 1) 0 (sampleOf low high)
    ⟨stepIndex.toNat, hlt⟩ (by unfold divCeil at hend; omega)
  refine ⟨sampleOf low high :: samples, ?_, by rw [List.length_cons, hlength]; omega⟩
  simp only [decodeFrame, hcount, hlow, hhigh, hstep, hpayload,
    ok_bind, eiadFrameHeaderBytes, hlt, dite_true]
  rw [hsamples, ok_bind, hend]
  rfl

/-- Decoding takes the frames as inspection did. -/
theorem decodeFrames_of_inspectFrames {total : Nat} : ∀ {frames offset counted finish count : Nat},
    inspectFrames eiad total frames offset counted = .ok (finish, count) →
    ∃ samples, decodeFrames eiad frames offset = .ok samples ∧ counted + samples.length = count
  | 0, offset, counted, finish, count, h => by
    cases h
    exact ⟨[], rfl, rfl⟩
  | frames + 1, offset, counted, finish, count, h => by
    rw [inspectFrames] at h
    obtain ⟨next, hframe, hrest⟩ := bind_eq_ok.1 h
    obtain ⟨samples, hsamples, hlength⟩ := decodeFrame_of_inspectFrame hframe
    obtain ⟨others, hothers, hcount⟩ := decodeFrames_of_inspectFrames hrest
    refine ⟨samples ++ others, ?_, by rw [List.length_append, hlength, ← Nat.add_assoc]; exact hcount⟩
    rw [decodeFrames, hsamples, ok_bind]
    simp only [hothers, ok_bind]
    rfl

/-- Whatever inspection accepts is decoded, without an index beyond the end. -/
theorem decodeEiad_of_inspectEiad {metadata : EiadMetadata} (h : inspectEiad eiad = .ok metadata) :
    ∃ pcm, decodeEiad eiad = .ok pcm ∧ pcm.length = 2 * metadata.samples := by
  have hinspect := h
  unfold inspectEiad at h
  obtain ⟨_, -, h⟩ := bind_eq_ok.1 h
  obtain ⟨_, -, h⟩ := bind_eq_ok.1 h
  obtain ⟨_, -, h⟩ := bind_eq_ok.1 h
  obtain ⟨_, -, h⟩ := bind_eq_ok.1 h
  obtain ⟨_, -, h⟩ := bind_eq_ok.1 h
  obtain ⟨_, -, h⟩ := bind_eq_ok.1 h
  obtain ⟨_, -, h⟩ := bind_eq_ok.1 h
  obtain ⟨_, -, h⟩ := bind_eq_ok.1 h
  obtain ⟨samples, -, h⟩ := bind_eq_ok.1 h
  obtain ⟨frames, -, h⟩ := bind_eq_ok.1 h
  obtain ⟨_, -, h⟩ := bind_eq_ok.1 h
  obtain ⟨⟨finish, count⟩, hframes, h⟩ := bind_eq_ok.1 h
  obtain ⟨_, hcount, h⟩ := bind_eq_ok.1 h
  cases h
  obtain ⟨-, hcount⟩ := require_eq_ok hcount
  obtain ⟨decoded, hdecoded, hlength⟩ := decodeFrames_of_inspectFrames hframes
  refine ⟨decoded.flatMap sampleBytes, ?_, ?_⟩
  · rw [decodeEiad, hinspect, ok_bind, hdecoded]
    rfl
  · rw [length_flatMap_sampleBytes]
    change 2 * decoded.length = 2 * samples
    omega

end

/-! ## Both ways -/

/-- Encoding, inspection and decoding agree on every PCM, and decoding on everything inspection accepts. -/
theorem eiad_tracks :
    (∀ pcm : List UInt8, pcm ≠ [] → pcm.length % 2 = 0 → pcm.length / 2 ≤ ttsSampleRate * maxTtsSeconds →
      ∃ eiad decoded, encodeEiad pcm = .ok eiad ∧
        inspectEiad eiad = .ok ⟨ttsSampleRate, (pcmSamples pcm).length,
          (framesOf (pcmSamples pcm)).length⟩ ∧
        decodeEiad eiad = .ok decoded ∧ decoded.length = pcm.length ∧
        ∀ k < pcm.length / 2,
          (pcmSamples decoded)[k]? =
            some (encoderState (frameOf (pcmSamples pcm) (k / eiadFrameSamples)) (k % eiadFrameSamples)).1 ∧
          (k % eiadFrameSamples = 0 → (pcmSamples decoded)[k]? = (pcmSamples pcm)[k]?)) ∧
    ∀ (eiad : List UInt8) (metadata : EiadMetadata), inspectEiad eiad = .ok metadata →
      ∃ decoded, decodeEiad eiad = .ok decoded ∧ decoded.length = 2 * metadata.samples := by
  refine ⟨?_, fun eiad metadata h => decodeEiad_of_inspectEiad h⟩
  intro pcm hne heven hmax
  have hlength := length_pcmSamples pcm
  have hpos : 0 < (pcmSamples pcm).length := by
    have hpcm : 0 < pcm.length := List.length_pos_iff.2 hne
    omega
  have hcount : (framesOf (pcmSamples pcm)).length = divCeil (pcmSamples pcm).length eiadFrameSamples := by
    rw [framesOf, List.length_map, List.length_range]
  have hdecoded := pcmSamples_flatMap (inRange_frames (@inRange_pcmSamples pcm))
  refine ⟨eiadOf (pcmSamples pcm), _, encodeEiad_eq hne heven hmax, ?_,
    decodeEiad_eiadOf hpos (by rw [hlength]; exact hmax) inRange_pcmSamples, ?_, ?_⟩
  · rw [hcount]
    exact inspectEiad_eiadOf hpos (by rw [hlength]; exact hmax)
  · rw [length_flatMap_sampleBytes, length_frames]
    omega
  · intro k hk
    have hk : k < (pcmSamples pcm).length := by omega
    have hstate : (pcmSamples (((framesOf (pcmSamples pcm)).flatMap frameHeld).flatMap sampleBytes))[k]? =
        some (encoderState (frameOf (pcmSamples pcm) (k / eiadFrameSamples)) (k % eiadFrameSamples)).1 := by
      rw [hdecoded, getElem?_frames _ k hk, getElem?_frameHeld (frameOf_lt hk)]
    refine ⟨hstate, fun hstart => ?_⟩
    have hsample := @getElem?_frameOf (pcmSamples pcm) k
    rw [List.getElem?_eq_getElem hk, hstart] at hsample
    rw [hstate, hstart, encoderState_zero hsample, List.getElem?_eq_getElem hk]

/-- 1000 samples of a sawtooth: a frame of 960 and one of 40. -/
def sawtooth : List UInt8 := (List.range 2000).map fun i => UInt8.ofNat (7 * i)

/-- The first sample of the second frame, -30848, comes back as it was. -/
theorem eiad_tracks_sawtooth : ∃ eiad decoded, encodeEiad sawtooth = .ok eiad ∧
    inspectEiad eiad = .ok ⟨48000, 1000, 2⟩ ∧ decodeEiad eiad = .ok decoded ∧ decoded.length = 2000 ∧
    (pcmSamples decoded)[960]? = some (-30848) := by
  have hlength : sawtooth.length = 2000 := by rw [sawtooth, List.length_map, List.length_range]
  have hsamples : (pcmSamples sawtooth).length = 1000 := by rw [length_pcmSamples, hlength]
  have hframes : (framesOf (pcmSamples sawtooth)).length = 2 := by
    rw [framesOf, List.length_map, List.length_range, hsamples]
    rfl
  have hsecond : (pcmSamples sawtooth)[960]? = some (-30848) := by decide +kernel
  have hne : sawtooth ≠ [] := List.ne_nil_of_length_pos (by rw [hlength]; decide)
  obtain ⟨eiad, decoded, hencode, hinspect, hdecode, hdecoded, htracks⟩ :=
    eiad_tracks.1 sawtooth hne (by rw [hlength]) (by rw [hlength]; decide)
  rw [hsamples, hframes] at hinspect
  have hstart := (htracks 960 (by rw [hlength]; decide)).2 (by decide)
  exact ⟨eiad, decoded, hencode, hinspect, hdecode, hdecoded.trans hlength, hstart.trans hsecond⟩

end CodexKeyboard.Audio
