import CodexKeyboard.Lib.Buffer
import CodexKeyboard.Lib.Transaction
import Mathlib.Data.List.Basic
/-!
# EIAD audio

`src/app/host/src/audio.rs`: PCM in frames of 960 samples, each an IMA ADPCM block of its own.
Samples are integers, PCM and container are bytes; an index beyond a slice panics
(`AudioFault.outOfBounds`). The step index has the type of an index of the step table; `decodeEiad`
takes it from a byte after `inspectEiad` has looked at it.

| here | there |
| --- | --- |
| `encodeImaSample`, `decodeImaSample` | `encode_ima_sample`, `decode_ima_sample` (audio.rs:346, 517) |
| `encodeImaFrameWithLayout`, `encodeEiad` | audio.rs:199, 160 |
| `inspectEiad`, `decodeEiad` | audio.rs:392, 465 |
| `validatePcm`, `readLe` | `validate_pcm`, `read_u16`, `read_u32`, `read_u64` (audio.rs:82, 539-562) |
-/

namespace CodexKeyboard.Audio

open Lib Lib.Buffer

def ttsSampleRate : Nat := 48000
def maxTtsSeconds : Nat := 150
def eiadFrameSamples : Nat := 960
def eiadHeaderBytes : Nat := 32
def eiadFrameHeaderBytes : Nat := 8
def eiadVersion : Nat := 1

def imaIndexTable : List Int := [-1, -1, -1, -1, 2, 4, 6, 8, -1, -1, -1, -1, 2, 4, 6, 8]

def imaStepTable : Vector Int 89 := #v[
  7, 8, 9, 10, 11, 12, 13, 14, 16, 17, 19, 21, 23, 25, 28, 31, 34, 37, 41, 45, 50, 55, 60, 66,
  73, 80, 88, 97, 107, 118, 130, 143, 157, 173, 190, 209, 230, 253, 279, 307, 337, 371, 408, 449,
  494, 544, 598, 658, 724, 796, 876, 963, 1060, 1166, 1282, 1411, 1552, 1707, 1878, 2066, 2272,
  2499, 2749, 3024, 3327, 3660, 4026, 4428, 4871, 5358, 5894, 6484, 7132, 7845, 8630, 9493,
  10442, 11487, 12635, 13899, 15289, 16818, 18500, 20350, 22385, 24623, 27086, 29794, 32767]

/-- An index of the step table. -/
abbrev StepIndex := Fin 89

/-- `AudioError`; `InvalidWav` belongs to the other container. -/
inductive AudioError where
  | invalidPcm
  | invalidEiad
  | size
deriving DecidableEq, Repr

/-- How a function ends without a result. -/
inductive AudioFault where
  | error (e : AudioError)
  | outOfBounds
deriving DecidableEq, Repr

abbrev AudioM (α : Type) := Except AudioFault α

/-! ## Samples -/

/-- `clamp` to an `i16`. -/
def clampSample (value : Int) : Int := max (-32768) (min value 32767)

/-- `i16::from_le_bytes`. -/
def sampleOf (low high : UInt8) : Int :=
  if low.toNat + 256 * high.toNat < 32768 then low.toNat + 256 * high.toNat else
    low.toNat + 256 * high.toNat - 65536

/-- `i16::to_le_bytes`. -/
def sampleBytes (sample : Int) : List UInt8 := toLe 2 (sample % 65536).toNat

/-- `chunks_exact(2)` and `i16::from_le_bytes`. -/
def pcmSamples : List UInt8 → List Int
  | low :: high :: pcm => sampleOf low high :: pcmSamples pcm
  | _ => []

/-- `(*step_index + IMA_INDEX_TABLE[code]).clamp(0, 88)`; a code is a nibble. -/
def nextStepIndex (stepIndex : StepIndex) (code : UInt8) : StepIndex :=
  ⟨(max 0 (min ((stepIndex.val : Int) + imaIndexTable.getD code.toNat 0) 88)).toNat, by omega⟩

/-- `delta`: an eighth of the step, and the step, its half and its quarter for three bits. -/
def imaDelta (step : Int) (four two one : Bool) : Int :=
  step / 8 + (if four then step else 0) + (if two then step / 2 else 0) + (if one then step / 4 else 0)

/-- The predictor after a code with this sign and these bits. -/
def imaPredictor (predictor step : Int) (negative four two one : Bool) : Int :=
  clampSample (if negative then predictor - imaDelta step four two one else
    predictor + imaDelta step four two one)

/-- `decode_ima_sample`. -/
def decodeImaSample (code : UInt8) (predictor : Int) (stepIndex : StepIndex) : Int × StepIndex :=
  (imaPredictor predictor imaStepTable[stepIndex] (decide (code &&& 8 ≠ 0)) (decide (code &&& 4 ≠ 0))
    (decide (code &&& 2 ≠ 0)) (decide (code &&& 1 ≠ 0)), nextStepIndex stepIndex code)

/-- One test of the encoder: whether the difference takes the bit, and what is left of it. -/
def takeBit (difference part : Int) : Bool × Int :=
  if difference ≥ part then (true, difference - part) else (false, difference)

structure ImaBits where
  negative : Bool
  four : Bool
  two : Bool
  one : Bool
deriving DecidableEq, Repr

/-- The sign and the three bits of a difference. -/
def imaBits (difference step : Int) : ImaBits :=
  let negative := decide (difference < 0)
  let difference := if negative then -difference else difference
  let (four, difference) := takeBit difference step
  let (two, difference) := takeBit difference (step / 2)
  ⟨negative, four, two, decide (difference ≥ step / 4)⟩

def ImaBits.code (bits : ImaBits) : UInt8 :=
  (if bits.negative then 8 else 0) ||| (if bits.four then 4 else 0) ||| (if bits.two then 2 else 0) |||
    (if bits.one then 1 else 0)

/-- `encode_ima_sample`: the code, and the predictor and the step index it leaves. -/
def encodeImaSample (sample predictor : Int) (stepIndex : StepIndex) : UInt8 × Int × StepIndex :=
  let step := imaStepTable[stepIndex]
  let bits := imaBits (sample - predictor) step
  (bits.code, imaPredictor predictor step bits.negative bits.four bits.two bits.one,
    nextStepIndex stepIndex bits.code)

/-! ## Encoding -/

/-- `initial_step_index`. -/
def initialStepIndex (first : Int) : List Int → StepIndex
  | [] => 0
  | second :: _ =>
    (imaStepTable.findFinIdx? fun step => decide (step ≥ max ((second - first).natAbs : Int) 7)).getD 88

/-- The codes of the samples after the first. -/
def encodeSamples : List Int → Int → StepIndex → List UInt8
  | [], _, _ => []
  | sample :: samples, predictor, stepIndex =>
    let (code, predictor, stepIndex) := encodeImaSample sample predictor stepIndex
    code :: encodeSamples samples predictor stepIndex

/-- Two codes to a byte, the low nibble first. -/
def packCodes : List UInt8 → List UInt8
  | low :: high :: codes => (low ||| (high <<< 4)) :: packCodes codes
  | [low] => [low]
  | [] => []

/-- `u16::try_from(..)?.to_le_bytes()`. -/
def u16Bytes (n : Nat) : AudioM (List UInt8) := if n < 65536 then .ok (toLe 2 n) else .error (.error .size)

/-- `encode_ima_frame_with_layout`. -/
def encodeImaFrameWithLayout (samples : List Int) (includePayloadLength : Bool) : AudioM (List UInt8) :=
  match samples with
  | [] => .error (.error .invalidPcm)
  | first :: rest => do
    let encodedBytes := (rest.length + 1) / 2
    let stepIndex := initialStepIndex first rest
    let count ← u16Bytes samples.length
    let payloadLength ← if includePayloadLength then u16Bytes encodedBytes else .ok []
    return count ++ sampleBytes first ++ [UInt8.ofNat stepIndex.val, 0] ++ payloadLength ++
      packCodes (encodeSamples rest first stepIndex)

/-- `div_ceil`. -/
def divCeil (n d : Nat) : Nat := (n + d - 1) / d

/-- `chunks`. -/
def frameOf (samples : List Int) (index : Nat) : List Int :=
  (samples.drop (index * eiadFrameSamples)).take eiadFrameSamples

def framesOf (samples : List Int) : List (List Int) :=
  (List.range (divCeil samples.length eiadFrameSamples)).map (frameOf samples)

/-- `validate_pcm`. -/
def validatePcm (pcm : List UInt8) : AudioM Nat :=
  if pcm = [] ∨ pcm.length % 2 ≠ 0 then .error (.error .invalidPcm)
  else if pcm.length / 2 > ttsSampleRate * maxTtsSeconds then .error (.error .invalidPcm)
  else .ok (pcm.length / 2)

/-- `b"EIAD"`. -/
def eiadMagic : List UInt8 := [0x45, 0x49, 0x41, 0x44]

/-- The header of `encode_eiad`. -/
def eiadHeader (samples frames : Nat) : List UInt8 :=
  eiadMagic ++ toLe 2 eiadVersion ++ toLe 2 eiadHeaderBytes ++ toLe 4 ttsSampleRate ++ toLe 2 1 ++
    toLe 2 4 ++
    toLe 2 eiadFrameSamples ++ toLe 2 eiadFrameHeaderBytes ++ toLe 8 samples ++ toLe 4 frames

/-- The frames one after another. -/
def encodeFrames : List (List Int) → AudioM (List UInt8)
  | [] => .ok []
  | frame :: frames => do
    let encoded ← encodeImaFrameWithLayout frame true
    let rest ← encodeFrames frames
    return encoded ++ rest

/-- `encode_eiad`. -/
def encodeEiad (pcm : List UInt8) : AudioM (List UInt8) := do
  let totalSamples ← validatePcm pcm
  let frames ← encodeFrames (framesOf (pcmSamples pcm))
  return eiadHeader totalSamples (divCeil totalSamples eiadFrameSamples) ++ frames

/-! ## Inspection -/

structure EiadMetadata where
  sampleRate : Nat
  samples : Nat
  frames : Nat
deriving DecidableEq, Repr

/-- `read_u16`, `read_u32`, `read_u64`. -/
def readLe (width : Nat) (bytes : List UInt8) (offset : Nat) : AudioM Nat :=
  if offset + width ≤ bytes.length then .ok (fromLe (slice bytes offset width)) else
    .error (.error .invalidEiad)

/-- `bytes[index]`. -/
def byteAt (bytes : List UInt8) (index : Nat) : AudioM UInt8 :=
  match bytes[index]? with
  | some byte => .ok byte
  | none => .error .outOfBounds

/-- A test of `inspect_eiad`. -/
def require (c : Bool) : AudioM Unit := ensure c (.error .invalidEiad)

/-- A field of the header that has one value only. -/
def requireField (width : Nat) (eiad : List UInt8) (offset value : Nat) : AudioM Unit := do
  let found ← readLe width eiad offset
  require (decide (found = value))

/-- One round of the loop of `inspect_eiad`, with the samples the frame must have: where the frame ends. -/
def inspectFrame (eiad : List UInt8) (offset expectedSamples : Nat) : AudioM Nat := do
  let payloadStart := offset + eiadFrameHeaderBytes
  require (decide (payloadStart ≤ eiad.length))
  let frameSamples ← readLe 2 eiad offset
  let stepIndex ← byteAt eiad (offset + 4)
  let reserved ← byteAt eiad (offset + 5)
  let payloadBytes ← readLe 2 eiad (offset + 6)
  require (decide (frameSamples = expectedSamples ∧ frameSamples ≠ 0 ∧ frameSamples ≤ eiadFrameSamples ∧
    stepIndex.toNat ≤ 88 ∧ reserved = 0 ∧ payloadBytes = divCeil (expectedSamples - 1) 2))
  let frameEnd := payloadStart + payloadBytes
  require (decide (frameEnd ≤ eiad.length))
  if (frameSamples - 1) % 2 ≠ 0 then
    let last ← byteAt eiad (frameEnd - 1)
    require (decide (last &&& 0xf0 = 0))
    return frameEnd
  else return frameEnd

/-- The loop of `inspect_eiad` over the frames that are left: the offset and the count after them. -/
def inspectFrames (eiad : List UInt8) (samples : Nat) : Nat → Nat → Nat → AudioM (Nat × Nat)
  | 0, offset, counted => .ok (offset, counted)
  | frames + 1, offset, counted => do
    let expected := if frames = 0 then samples - counted else eiadFrameSamples
    let offset ← inspectFrame eiad offset expected
    inspectFrames eiad samples frames offset (counted + expected)

/-- `inspect_eiad`. -/
def inspectEiad (eiad : List UInt8) : AudioM EiadMetadata := do
  require (decide (eiadHeaderBytes ≤ eiad.length) && decide (slice eiad 0 4 = eiadMagic))
  requireField 2 eiad 4 eiadVersion
  requireField 2 eiad 6 eiadHeaderBytes
  requireField 4 eiad 8 ttsSampleRate
  requireField 2 eiad 12 1
  requireField 2 eiad 14 4
  requireField 2 eiad 16 eiadFrameSamples
  requireField 2 eiad 18 eiadFrameHeaderBytes
  let samples ← readLe 8 eiad 20
  let frames ← readLe 4 eiad 28
  require (decide (samples ≠ 0 ∧ samples ≤ ttsSampleRate * maxTtsSeconds ∧
    frames = divCeil samples eiadFrameSamples))
  let (offset, counted) ← inspectFrames eiad samples frames eiadHeaderBytes 0
  require (decide (offset = eiad.length ∧ counted = samples))
  return ⟨ttsSampleRate, samples, frames⟩

/-! ## Decoding -/

/-- The samples from number `index` on, `count` of them, of the payload at `offset`. -/
def decodeSamples (eiad : List UInt8) (offset : Nat) : Nat → Nat → Int → StepIndex → AudioM (List Int)
  | 0, _, _, _ => .ok []
  | count + 1, index, predictor, stepIndex => do
    let packed ← byteAt eiad (offset + (index - 1) / 2)
    let code := if index % 2 ≠ 0 then packed &&& 0x0f else packed >>> 4
    let (predictor, stepIndex) := decodeImaSample code predictor stepIndex
    let rest ← decodeSamples eiad offset count (index + 1) predictor stepIndex
    return predictor :: rest

/-- One frame of `decode_eiad`: its samples, and where the next frame starts. -/
def decodeFrame (eiad : List UInt8) (offset : Nat) : AudioM (List Int × Nat) := do
  let samples ← readLe 2 eiad offset
  let low ← byteAt eiad (offset + 2)
  let high ← byteAt eiad (offset + 3)
  let stepByte ← byteAt eiad (offset + 4)
  let payloadBytes ← readLe 2 eiad (offset + 6)
  let predictor := sampleOf low high
  if h : stepByte.toNat < 89 then
    let rest ← decodeSamples eiad (offset + eiadFrameHeaderBytes)
      (samples - 1) 1 predictor ⟨stepByte.toNat, h⟩
    return (predictor :: rest, offset + eiadFrameHeaderBytes + payloadBytes)
  else .error .outOfBounds

def decodeFrames (eiad : List UInt8) : Nat → Nat → AudioM (List Int)
  | 0, _ => .ok []
  | frames + 1, offset => do
    let (samples, offset) ← decodeFrame eiad offset
    let rest ← decodeFrames eiad frames offset
    return samples ++ rest

/-- `decode_eiad`. -/
def decodeEiad (eiad : List UInt8) : AudioM (List UInt8) := do
  let metadata ← inspectEiad eiad
  let samples ← decodeFrames eiad metadata.frames eiadHeaderBytes
  return samples.flatMap sampleBytes

end CodexKeyboard.Audio
