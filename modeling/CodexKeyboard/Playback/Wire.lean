import CodexKeyboard.Lib.Channel
import CodexKeyboard.Voice.Capture
/-!
# Packets of LAN playback

`src/app/host/src/lan_playback.rs` and `components/keyboard/src/codex_playback_wire.cpp`. A packet
is what its decoder yields: both sides authenticate every packet with the device key before they act
on it, so what arrives is something that the other side has sent. What the decoders check beyond
that is kept (`validAck`, `decodeBegin`, …), and a data packet carries the nonce its payload was
sealed under, since the receiver's nonce has to be the same for it to open.

| here | there |
| --- | --- |
| `PlaybackRequest`, `PlaybackIdentity`, `PlaybackBegin` | lan_playback.rs:30-56 |
| `validIdentity` | `valid_identity` (lan_playback.rs:363), `playback_wire_identity_valid` |
| `encodeData` | `encode_data` (lan_playback.rs:144) |
| `validRequest`, `validAck`, `validFinished` | `decode_request`, `decode_ack`, `decode_finished` |
| `decodeBegin`, `decodeData`, `decodeFinishedAck` | codex_playback_wire.cpp:290, 309, 374 |
| `dataMatchesReceivedPrefix` | `playback_data_matches_received_prefix` (codex_playback_wire.cpp:241) |
-/

namespace CodexKeyboard.Playback

open Lib Voice

structure PlaybackRequest where
  slot : Nat := 0
  requestGeneration : Nat := 0
  connectionGeneration : Nat := 0
  nonce : Nat := 0
deriving DecidableEq, Repr

structure PlaybackIdentity where
  slot : Nat := 0
  requestGeneration : Nat := 0
  connectionGeneration : Nat := 0
  summaryGeneration : Nat := 0
  lease : Nat := 0
deriving DecidableEq, Repr

structure PlaybackBegin where
  identity : PlaybackIdentity := {}
  totalBytes : Nat := 0
  totalSamples : Nat := 0
  chunkBytes : Nat := 0
  requestNonce : Nat := 0
deriving DecidableEq, Repr

structure PlaybackAck where
  identity : PlaybackIdentity
  status : Nat
  nextOffset : Nat
deriving DecidableEq, Repr

structure PlaybackFinished where
  identity : PlaybackIdentity
  playedSamples : Nat
deriving DecidableEq, Repr

/-- A data packet: the plaintext and the nonce of its key. -/
structure PlaybackData where
  identity : PlaybackIdentity
  requestNonce : Nat
  offset : Nat
  payload : Bytes
deriving DecidableEq, Repr

/-- What the host sends: `EIPB`, `EIPD` and `EIPK`. -/
inductive HostPacket where
  | begin (begin : PlaybackBegin)
  | data (data : PlaybackData)
  | finishedAck (identity : PlaybackIdentity) (status : Nat)
deriving DecidableEq, Repr

/-- What the keyboard sends: `EIPR`, `EIPA` and `EIPF`. -/
inductive KeyboardPacket where
  | request (request : PlaybackRequest)
  | ack (ack : PlaybackAck)
  | finished (finished : PlaybackFinished)
deriving DecidableEq, Repr

def playbackChunkBytes : Nat := 1024
/-- 4 MiB. -/
def playbackMaxEiadBytes : Nat := 0x400000
/-- `kPlaybackMaximumSamples`. -/
def playbackMaximumSamples : Nat := 48000 * 150

def validIdentity (identity : PlaybackIdentity) : Bool :=
  decide (1 ≤ identity.slot ∧ identity.slot ≤ 4) && identity.requestGeneration != 0 &&
    identity.connectionGeneration != 0
    && identity.summaryGeneration != 0 && identity.lease != 0

/-- The checks of `decode_request`. -/
def validRequest (request : PlaybackRequest) : Bool :=
  decide (1 ≤ request.slot ∧ request.slot ≤ 4) && request.requestGeneration != 0 &&
    request.connectionGeneration != 0
    && request.nonce != 0

/-- The checks of `decode_ack`. -/
def validAck (ack : PlaybackAck) : Bool := validIdentity ack.identity && decide (ack.status ≤ 3)

/-- The checks of `decode_finished`. -/
def validFinished (finished : PlaybackFinished) : Bool :=
  validIdentity finished.identity && finished.playedSamples != 0

/-- `encode_data`. -/
def encodeData (identity : PlaybackIdentity) (requestNonce offset : Nat) (payload : Bytes) :
    Option HostPacket :=
  if !validIdentity identity || requestNonce == 0 || payload.isEmpty || decide
    (payload.length > playbackChunkBytes) then
    none
  else some (.data { identity, requestNonce, offset, payload })

/-- The checks of `decode_playback_begin`. -/
def decodeBegin (begin : PlaybackBegin) : Bool :=
  validIdentity begin.identity && begin.totalBytes != 0 && decide (begin.totalBytes ≤ playbackMaxEiadBytes)
    && begin.totalSamples != 0 && decide (begin.totalSamples ≤ playbackMaximumSamples) &&
      begin.chunkBytes != 0
    && decide (begin.chunkBytes ≤ playbackChunkBytes) && begin.requestNonce != 0

/-- The checks of `decode_playback_data`: the payload opens only under the nonce it was sealed with. -/
def decodeData (data : PlaybackData) (requestNonce : Nat) : Bool :=
  requestNonce != 0 && validIdentity data.identity && !data.payload.isEmpty
    && decide (data.payload.length ≤ playbackChunkBytes) && decide (data.requestNonce = requestNonce)

/-- The checks of `decode_playback_finished_ack`. -/
def decodeFinishedAck (identity : PlaybackIdentity) (status : Nat) : Bool :=
  validIdentity identity && decide (status ≤ 1)

/-- `playback_data_matches_received_prefix`. -/
def dataMatchesReceivedPrefix (data : PlaybackData) (received : Bytes) (receivedBytes : Nat) : Bool :=
  !data.payload.isEmpty && decide (data.offset < receivedBytes)
    && decide (data.payload.length ≤ receivedBytes - data.offset)
    && decide ((received.drop data.offset).take data.payload.length = data.payload)

end CodexKeyboard.Playback
