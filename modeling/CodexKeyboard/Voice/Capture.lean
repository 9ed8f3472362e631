import Mathlib.Tactic.Common
import CodexKeyboard.Lib.Run
/-!
# Voice capture

The capture half of `src/app/host/src/lan_voice.rs`: the datagrams of the keyboard's microphone and
the assembler that turns them into captures. HMAC-SHA-256 is a parameter; its key has the 32 bytes
it accepts. An `Instant` counts nanoseconds. The log lines are left out.

| here | there |
| --- | --- |
| `parseAudioFrame`, `parseAudioEnd` | `parse_audio_frame`, `parse_audio_end` (lan_voice.rs:1329, 1355) |
| `decodeCaptureSessionIdentity` | `decode_capture_session_identity` (lan_voice.rs:1308) |
| `verifyAudioAuthentication` | `verify_audio_authentication` (lan_voice.rs:1380) |
| `CaptureAssembler.ingest`, `ingestEnd`, `complete` | `impl CaptureAssembler` (lan_voice.rs:969) |
| `CaptureAssembler.takeReady`, `expireIncomplete`, `retire` | lan_voice.rs:1116-1150 |
| `captureStep` | the receive loop's uses of the assembler (lan_voice.rs:293-370) |
-/

namespace CodexKeyboard.Voice

open Lib

abbrev Bytes := List UInt8
abbrev Key := List UInt8
abbrev Instant := Nat

/-- `SocketAddr`. -/
structure SocketAddr where
  ip : List UInt8
  port : Nat
deriving DecidableEq, Repr

/-- The variants of `LanVoiceError` (lan_voice.rs:62) that the assembler returns. -/
inductive LanVoiceError where
  | invalidPacket
  | invalidSession
  | authentication
  | invalidSequence
  | captureLimit
  | captureTooShort
deriving DecidableEq, Repr

def audioHeaderBytes : Nat := 32
def audioAuthTagBytes : Nat := 16
def audioEndBytes : Nat := audioHeaderBytes + audioAuthTagBytes
def audioFrameSamples : Nat := 320
def audioFrameBytes : Nat := audioFrameSamples * 2
def audioSampleRate : Nat := 16000
def maxCaptureBytes : Nat := audioSampleRate * 2 * 90
def minCaptureFrames : Nat := 10
def maxCaptureGapFrames : Nat := 10
def maxActiveCaptures : Nat := 4
def maxRetiredSessions : Nat := 128
/-- 15 s. -/
def captureAbortTimeout : Nat := 15000000000

/-- `CaptureSessionIdentity`. -/
structure CaptureSessionIdentity where
  slot : Nat
  captureGeneration : Nat
  connectionGeneration : Nat
deriving DecidableEq, Repr

structure ParsedFrame where
  sessionId : Nat
  identity : CaptureSessionIdentity
  sequence : Nat
  payload : Bytes
deriving DecidableEq, Repr

structure ParsedEnd where
  sessionId : Nat
  identity : CaptureSessionIdentity
  finalSequence : Nat
deriving DecidableEq, Repr

/-! ## Datagrams -/

/-- `from_le_bytes`. -/
def fromLeBytes : Bytes → Nat
  | [] => 0
  | b :: bs => b.toNat + 0x100 * fromLeBytes bs

/-- `read_u16`, `read_u32`, `read_u64` (lan_voice.rs:1449). -/
def readLe (width : Nat) (bytes : Bytes) (offset : Nat) : Except LanVoiceError Nat :=
  if offset + width ≤ bytes.length then .ok (fromLeBytes ((bytes.drop offset).take width)) else
    .error .invalidPacket

def readU16 : Bytes → Nat → Except LanVoiceError Nat := readLe 2
def readU32 : Bytes → Nat → Except LanVoiceError Nat := readLe 4
def readU64 : Bytes → Nat → Except LanVoiceError Nat := readLe 8

/-- `b"EIAU"`, a frame. -/
def frameMagic : Bytes := [0x45, 0x49, 0x41, 0x55]
/-- `b"EIAE"`, the end of a capture. -/
def endMagic : Bytes := [0x45, 0x49, 0x41, 0x45]
/-- `b"EIHB"`, a heartbeat of an old keyboard. -/
def heartbeatMagic : Bytes := [0x45, 0x49, 0x48, 0x42]

/-- `decode_capture_session_identity`. -/
def decodeCaptureSessionIdentity (sessionId : Nat) : Except LanVoiceError CaptureSessionIdentity :=
  let identity : CaptureSessionIdentity :=
    { slot := (sessionId >>> 52) &&& 0x0F
      connectionGeneration := (sessionId >>> 32) &&& 0x000FFFFF
      captureGeneration := sessionId % 0x100000000 }
  if (sessionId >>> 56) % 0x100 ≠ 0xEC then .error .invalidSession
  else if ¬(1 ≤ identity.slot ∧ identity.slot ≤ 4) ∨ identity.connectionGeneration = 0 ∨
  identity.captureGeneration = 0 then
    .error .invalidSession
  else .ok identity

/-- The bytewise comparison with the tag: the differences of the pairs, or-ed together. -/
def tagMismatch (expected tag : Bytes) : UInt8 :=
  (expected.zip tag).foldl (fun difference pair => difference ||| (pair.1 ^^^ pair.2)) 0

/-- `verify_audio_authentication`. -/
def verifyAudioAuthentication (hmac : Key → Bytes → Bytes) (datagram : Bytes) (authKey : Option Key) :
    Except LanVoiceError Unit :=
  match authKey with
  | none => .error .authentication
  | some key =>
    if datagram.length < audioAuthTagBytes then .error .authentication
    else
      let authenticatedBytes := datagram.length - audioAuthTagBytes
      let expected := hmac key (datagram.take authenticatedBytes)
      if tagMismatch (expected.take audioAuthTagBytes) (datagram.drop authenticatedBytes) = 0 then .ok ()
      else .error .authentication

/-- `parse_audio_frame`. -/
def parseAudioFrame (hmac : Key → Bytes → Bytes) (datagram : Bytes) (authKey : Option Key) :
    Except LanVoiceError ParsedFrame :=
  if datagram.length ≠ audioHeaderBytes + audioFrameBytes + audioAuthTagBytes
      ∨ datagram.take 4 ≠ frameMagic
      ∨ datagram[4]? ≠ some 3
      ∨ datagram[5]? ≠ some 32
      ∨ datagram[6]? ≠ some 1
      ∨ datagram[7]? ≠ some 1
      ∨ readU32 datagram 20 ≠ .ok audioSampleRate
      ∨ readU16 datagram 28 ≠ .ok audioFrameSamples
      ∨ readU16 datagram 30 ≠ .ok audioFrameBytes then .error .invalidPacket
  else do
    verifyAudioAuthentication hmac datagram authKey
    let sessionId ← readU64 datagram 8
    let identity ← decodeCaptureSessionIdentity sessionId
    let sequence ← readU32 datagram 16
    return { sessionId, identity, sequence,
             payload := (datagram.drop audioHeaderBytes).take audioFrameBytes }

/-- `parse_audio_end`. -/
def parseAudioEnd (hmac : Key → Bytes → Bytes) (datagram : Bytes) (authKey : Option Key) :
    Except LanVoiceError ParsedEnd :=
  if datagram.length ≠ audioEndBytes
      ∨ datagram.take 4 ≠ endMagic
      ∨ datagram[4]? ≠ some 3
      ∨ datagram[5]? ≠ some 32
      ∨ datagram[6]? ≠ some 1
      ∨ datagram[7]? ≠ some 0
      ∨ readU32 datagram 20 ≠ .ok audioSampleRate
      ∨ readU16 datagram 28 ≠ .ok 0
      ∨ readU16 datagram 30 ≠ .ok 0 then .error .invalidPacket
  else do
    verifyAudioAuthentication hmac datagram authKey
    let sessionId ← readU64 datagram 8
    let identity ← decodeCaptureSessionIdentity sessionId
    let finalSequence ← readU32 datagram 16
    return { sessionId, identity, finalSequence }

/-! ## The assembler -/

structure ActiveCapture where
  sessionId : Nat
  identity : CaptureSessionIdentity
  source : SocketAddr
  nextSequence : Nat
  pcm : Bytes
  lastFrameAt : Instant
  finalSequence : Option Nat
deriving DecidableEq, Repr

structure CompletedCapture where
  sessionId : Nat
  identity : CaptureSessionIdentity
  pcm : Bytes
deriving DecidableEq, Repr

structure CaptureAssembler where
  active : Std.TreeMap Nat ActiveCapture
  retired : List Nat
  ready : List (Except LanVoiceError CompletedCapture)
  authKey : Option Key

/-- `saturating_add(1)` on a `u32`. -/
def saturatingSucc (n : Nat) : Nat := min (n + 1) 0xFFFFFFFF

namespace CaptureAssembler

/-- `CaptureAssembler::new`. -/
def new (authKey : Option Key) : CaptureAssembler := { active := ∅, retired := [], ready := [], authKey }

/-- `retire`: the oldest session is forgotten when there are too many. -/
def retire (s : CaptureAssembler) (sessionId : Nat) : CaptureAssembler :=
  if s.retired.contains sessionId then s
  else
    let retired := s.retired ++ [sessionId]
    { s with retired := retired.drop (retired.length - maxRetiredSessions) }

/-- `self.active.remove(&session_id); self.retire(session_id)`. -/
def discard (s : CaptureAssembler) (sessionId : Nat) : CaptureAssembler :=
  retire { s with active := s.active.erase sessionId } sessionId

/-- The capture behind `get_mut` after its assignments. -/
def store (s : CaptureAssembler) (capture : ActiveCapture) : CaptureAssembler :=
  { s with active := s.active.insert capture.sessionId capture }

/-- `complete`. -/
def complete (s : CaptureAssembler) (sessionId : Nat) : CaptureAssembler :=
  match s.active[sessionId]? with
  | none => s
  | some capture =>
    let s := s.discard sessionId
    { s with ready := s.ready ++ [
        if capture.nextSequence < minCaptureFrames then .error .captureTooShort
        else .ok { sessionId := capture.sessionId, identity := capture.identity, pcm := capture.pcm }] }

/-- The first frame of a session opens its capture (lan_voice.rs:1000-1021). -/
def openCapture (s : CaptureAssembler) (frame : ParsedFrame) (source : SocketAddr) (now : Instant) :
    Except LanVoiceError Unit × CaptureAssembler :=
  if s.active.contains frame.sessionId then (.ok (), s)
  else if frame.sequence > maxCaptureGapFrames then (.error .invalidSequence, s.retire frame.sessionId)
  else if s.active.size ≥ maxActiveCaptures then (.error .captureLimit, s.retire frame.sessionId)
  else (.ok (), s.store {
    sessionId := frame.sessionId, identity := frame.identity, source, nextSequence := 0, pcm := []
    lastFrameAt := now, finalSequence := none })

/-- `Vec::resize` to a longer length. -/
def resize (pcm : Bytes) (length : Nat) : Bytes := pcm ++ List.replicate (length - pcm.length) 0

/-- What the gap costs: zeros up to the sequence that came. -/
def fillGap (capture : ActiveCapture) (missingFrames upTo : Nat) : ActiveCapture :=
  if missingFrames > 0 then
    { capture with
      pcm := resize capture.pcm (capture.pcm.length + missingFrames * audioFrameBytes),
      nextSequence := upTo }
  else capture

/-- A frame of an open capture (lan_voice.rs:1023-1070). -/
def appendFrame (s : CaptureAssembler) (frame : ParsedFrame) (source : SocketAddr) (now : Instant) :
    Except LanVoiceError Unit × CaptureAssembler :=
  match s.active[frame.sessionId]? with
  | none => (.error .invalidSession, s)
  | some capture =>
    if capture.source ≠ source ∨ capture.identity ≠ frame.identity
        ∨ capture.finalSequence.any (fun finalSequence => frame.sequence ≥ finalSequence) then
      (.error .invalidSequence, s.discard frame.sessionId)
    else if frame.sequence < capture.nextSequence then (.ok (), s.store { capture with lastFrameAt := now })
    else
      let missingFrames := frame.sequence - capture.nextSequence
      let addedBytes := missingFrames * audioFrameBytes + frame.payload.length
      if missingFrames > maxCaptureGapFrames then (.error .invalidSequence, s.discard frame.sessionId)
      else if capture.pcm.length + addedBytes > maxCaptureBytes then
        (.error .captureLimit, s.discard frame.sessionId)
      else
        let filled := fillGap capture missingFrames frame.sequence
        let capture := { filled with
          pcm := filled.pcm ++ frame.payload, nextSequence := saturatingSucc filled.nextSequence,
          lastFrameAt := now }
        let s := s.store capture
        if capture.finalSequence = some capture.nextSequence then
          (.ok (), s.complete frame.sessionId) else (.ok (), s)

/-- `ingest_end`. -/
def ingestEnd (hmac : Key → Bytes → Bytes) (s : CaptureAssembler) (datagram : Bytes) (source : SocketAddr)
    (now : Instant) : Except LanVoiceError Unit × CaptureAssembler :=
  match parseAudioEnd hmac datagram s.authKey with
  | .error e => (.error e, s)
  | .ok terminal =>
    if s.retired.contains terminal.sessionId then (.ok (), s)
    else
      match s.active[terminal.sessionId]? with
      | none => (.error .invalidSession, s)
      | some capture =>
        if capture.source ≠ source ∨ capture.identity ≠ terminal.identity
            ∨ terminal.finalSequence < capture.nextSequence
            ∨ terminal.finalSequence * audioFrameBytes > maxCaptureBytes then
          (.error .invalidSequence, s.discard terminal.sessionId)
        else
          match capture.finalSequence with
          | some existing =>
            if existing = terminal.finalSequence then (.ok (), s.store { capture with lastFrameAt := now })
            else (.error .invalidSequence, s.discard terminal.sessionId)
          | none =>
            let missingFrames := terminal.finalSequence - capture.nextSequence
            if missingFrames > maxCaptureGapFrames then
              (.error .invalidSequence, s.discard terminal.sessionId)
            else
              let filled := fillGap capture missingFrames terminal.finalSequence
              let capture :=
                { filled with finalSequence := some terminal.finalSequence, lastFrameAt := now }
              let s := s.store capture
              if capture.nextSequence = terminal.finalSequence then (.ok (), s.complete terminal.sessionId)
              else (.ok (), s)

/-- `ingest`. -/
def ingest (hmac : Key → Bytes → Bytes) (s : CaptureAssembler) (datagram : Bytes) (source : SocketAddr)
    (now : Instant) : Except LanVoiceError Unit × CaptureAssembler :=
  if 4 ≤ datagram.length ∧ datagram.take 4 = endMagic then s.ingestEnd hmac datagram source now
  else
    match parseAudioFrame hmac datagram s.authKey with
    | .error e =>
      if e = .invalidPacket ∧ 4 ≤ datagram.length ∧ datagram.take 4 = heartbeatMagic then (.ok (), s)
        else (.error e, s)
    | .ok frame =>
      if s.retired.contains frame.sessionId then (.ok (), s)
      else
        match s.openCapture frame source now with
        | (.error e, s) => (.error e, s)
        | (.ok (), s) => s.appendFrame frame source now

/-- `take_ready`. -/
def takeReady (s : CaptureAssembler) : List (Except LanVoiceError CompletedCapture) × CaptureAssembler :=
  (s.ready, { s with ready := [] })

/-- The sessions that were silent for too long, in the order of the map. -/
def idle (s : CaptureAssembler) (now : Instant) : List Nat :=
  s.active.toList.filterMap fun e => if now - e.2.lastFrameAt ≥ captureAbortTimeout then some e.1 else none

/-- `expire_incomplete`. -/
def expireIncomplete (s : CaptureAssembler) (now : Instant) : List LanVoiceError × CaptureAssembler :=
  ((s.idle now).map fun _ => .invalidSequence, (s.idle now).foldl discard s)

end CaptureAssembler

/-! ## The receive loop -/

/-- What the receive loop does to the assembler. -/
inductive CaptureEvent where
  | datagram (bytes : Bytes) (source : SocketAddr) (now : Instant)
  | expire (now : Instant)
  | takeReady
  /-- The device secret was loaded (lan_voice.rs:307). -/
  | reloadKey (key : Key)
deriving DecidableEq, Repr

/-- What the receive loop gets. -/
inductive CaptureAnswer where
  | ingested (r : Except LanVoiceError Unit)
  | expired (errors : List LanVoiceError)
  | ready (captures : List (Except LanVoiceError CompletedCapture))
  | reloaded

open CaptureAssembler in
def captureStep (hmac : Key → Bytes → Bytes) (s : CaptureAssembler) :
    CaptureEvent → CaptureAnswer × CaptureAssembler
  | .datagram bytes source now =>
    ((.ingested (s.ingest hmac bytes source now).1), (s.ingest hmac bytes source now).2)
  | .expire now => (.expired (s.expireIncomplete now).1, (s.expireIncomplete now).2)
  | .takeReady => (.ready s.takeReady.1, s.takeReady.2)
  | .reloadKey key => (.reloaded, { s with authKey := some key })

end CodexKeyboard.Voice
