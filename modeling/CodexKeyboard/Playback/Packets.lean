import CodexKeyboard.Lib.Buffer
/-!
# The bytes of LAN playback packets

Both codecs as they stand: `lan_playback.rs` writes and reads on the host, `codex_playback_wire.cpp`
on the keyboard. HMAC-SHA-256 and AES-256-GCM come from libraries on both sides and are the
parameter `Sealing`, with what GCM promises as its fields.

| here | there |
| --- | --- |
| `PlaybackRequest`, …, `MailboxStatus` | lan_playback.rs:30-73, `PlaybackWire…` (codex_playback_wire.h) |
| `encodeRequest`, `decodeRequest` | lan_playback.rs:75, 87 |
| `encodeBegin`, `decodeBegin` | lan_playback.rs:108, 122 |
| `encodeData`, `decodeData` | lan_playback.rs:147, 183 |
| `encodeAck`, `decodeAck`, `encodeFinished`, `decodeFinished` | lan_playback.rs:222-275 |
| `encodeFinishedAck`, `decodeFinishedAck` | lan_playback.rs:277, 288 |
| `encodeMailboxStatus`, `decodeMailboxStatus`, `validMailboxStatus` | lan_playback.rs:300-351 |
| `sign`, `verify`, `verifyFixed`, `deriveDataKey`, `dataNonce` | lan_playback.rs:380-427 |
| `Keyboard.…` | the function of that name in codex_playback_wire.cpp |
| `encodeIdentity`, `decodeIdentity`, `dataNonce` | the same on both sides |

A null pointer, a library call that fails for want of memory, and `decode_playback_request`, which
only the tests of the firmware call, are left out.
-/

namespace CodexKeyboard.LanPlayback

open Lib Buffer

abbrev Key := Vector UInt8 32

/-- HMAC-SHA-256, and AES-256-GCM with a detached tag. -/
structure Sealing where
  hmac : Key → List UInt8 → Key
  encrypt : Key → (nonce header plaintext : List UInt8) → List UInt8 × List UInt8
  decrypt : Key → (nonce header ciphertext tag : List UInt8) → Option (List UInt8)
  length_ciphertext :
    ∀ key nonce header plaintext, (encrypt key nonce header plaintext).1.length = plaintext.length
  length_tag : ∀ key nonce header plaintext, (encrypt key nonce header plaintext).2.length = 16
  /-- What was encrypted decrypts, and nothing else does. -/
  decrypt_eq_some : ∀ key nonce header ciphertext tag plaintext,
    decrypt key nonce header ciphertext tag = some plaintext ↔
      encrypt key nonce header plaintext = (ciphertext, tag)

structure PlaybackRequest where
  slot : UInt8
  requestGeneration : UInt32
  connectionGeneration : UInt32
  nonce : UInt64
deriving DecidableEq, Repr

structure PlaybackIdentity where
  slot : UInt8
  requestGeneration : UInt32
  connectionGeneration : UInt32
  summaryGeneration : UInt64
  lease : UInt64
deriving DecidableEq, Repr

structure PlaybackBegin where
  identity : PlaybackIdentity
  totalBytes : UInt32
  totalSamples : UInt64
  chunkBytes : UInt16
  requestNonce : UInt64
deriving DecidableEq, Repr

structure PlaybackAck where
  identity : PlaybackIdentity
  status : UInt8
  nextOffset : UInt32
deriving DecidableEq, Repr

structure PlaybackFinished where
  identity : PlaybackIdentity
  playedSamples : UInt64
deriving DecidableEq, Repr

structure MailboxStatus where
  unreadSlots : UInt8
  runningTasks : UInt8
  coverageBySlot : Vector UInt8 4
deriving DecidableEq, Repr

inductive PlaybackWireError where
  | malformed
  | authentication
deriving DecidableEq, Repr

def playbackVersion : UInt8 := 1
def mailboxStatusVersion : UInt8 := 3
def playbackTagBytes : Nat := 16
def playbackChunkBytes : Nat := 1024
/-- 4 MiB. -/
def playbackMaxEiadBytes : Nat := 0x400000
def requestBytes : Nat := 40
def beginBytes : Nat := 72
def ackBytes : Nat := 52
def finishedBytes : Nat := 56
def finishedAckBytes : Nat := 48
def dataHeaderBytes : Nat := 40
def mailboxStatusBytes : Nat := 32

/-- `b"EIPR"` and so on. -/
def magic (text : String) : List UInt8 := text.toList.map fun c => UInt8.ofNat c.toNat

def validIdentity (identity : PlaybackIdentity) : Bool :=
  decide (1 ≤ identity.slot ∧ identity.slot ≤ 4) && identity.requestGeneration != 0 &&
    identity.connectionGeneration != 0
    && identity.summaryGeneration != 0 && identity.lease != 0

def encodeIdentity (packet : List UInt8) (identity : PlaybackIdentity) : List UInt8 :=
  let packet := putU32 packet 8 identity.requestGeneration
  let packet := putU32 packet 12 identity.connectionGeneration
  let packet := putU64 packet 16 identity.summaryGeneration
  putU64 packet 24 identity.lease

def decodeIdentity (packet : List UInt8) : PlaybackIdentity where
  slot := getU8 packet 5
  requestGeneration := getU32 packet 8
  connectionGeneration := getU32 packet 12
  summaryGeneration := getU64 packet 16
  lease := getU64 packet 24

/-- A zeroed packet with its magic, its version and the byte after them. -/
def header (length : Nat) (text : String) (version byte : UInt8) : List UInt8 :=
  let packet := put (List.replicate length 0) 0 (magic text)
  let packet := putU8 packet 4 version
  putU8 packet 5 byte

/-- The 44 bytes a data key is derived from. -/
def dataKeyContext (identity : PlaybackIdentity) (requestNonce : UInt64) : List UInt8 :=
  let context := put (List.replicate 44 0) 0 (magic "EIPDKEY1")
  let context := putU8 context 8 identity.slot
  let context := putU32 context 12 identity.requestGeneration
  let context := putU32 context 16 identity.connectionGeneration
  let context := putU64 context 20 identity.summaryGeneration
  let context := putU64 context 28 identity.lease
  putU64 context 36 requestNonce

def dataNonce (offset : UInt32) : List UInt8 := putU32 (List.replicate 12 0) 0 offset

/-- Both halves of `valid_mailbox_status` that the keyboard checks as well: no unread slot beyond
the fourth, and a coverage for the unread slots and no other. -/
def coverageMatches (unreadSlots : UInt8) (coverageBySlot : Vector UInt8 4) : Bool :=
  (List.finRange 4).all fun index =>
    ((unreadSlots &&& (1 <<< UInt8.ofNat index.val)) != 0) == (coverageBySlot.get index != 0)

/-- Bytes 12 to 16. -/
def coverageAt (packet : List UInt8) : Vector UInt8 4 :=
  Vector.ofFn fun index => getU8 packet (12 + index.val)

/-! ## Host -/

section Host

variable (S : Sealing)

def sign (packet : List UInt8) (key : Key) : List UInt8 :=
  let split := packet.length - playbackTagBytes
  put packet split ((S.hmac key (packet.take split)).toList.take playbackTagBytes)

def verify (packet : List UInt8) (key : Key) : Except PlaybackWireError Unit :=
  if packet.length < playbackTagBytes then .error .malformed
  else
    let split := packet.length - playbackTagBytes
    if (S.hmac key (packet.take split)).toList.take (packet.length - split) = packet.drop split then .ok ()
    else .error .authentication

def verifyFixed (packet : List UInt8) (length : Nat) (text : String) (key : Key) :
    Except PlaybackWireError Unit :=
  if packet.length ≠ length ∨ slice packet 0 4 ≠ magic text ∨ getU8 packet 4 ≠ playbackVersion then
    .error .malformed
  else verify S packet key

def encodeRequest (request : PlaybackRequest) (key : Key) : List UInt8 :=
  let packet := header requestBytes "EIPR" playbackVersion request.slot
  let packet := putU32 packet 8 request.requestGeneration
  let packet := putU32 packet 12 request.connectionGeneration
  let packet := putU64 packet 16 request.nonce
  sign S packet key

def decodeRequest (packet : List UInt8) (key : Key) : Except PlaybackWireError PlaybackRequest := do
  verifyFixed S packet requestBytes "EIPR" key
  let request : PlaybackRequest :=
    { slot := getU8 packet 5, requestGeneration := getU32 packet 8,
      connectionGeneration := getU32 packet 12,
      nonce := getU64 packet 16 }
  if slice packet 6 2 ≠ [0, 0] ∨ ¬ (1 ≤ request.slot ∧ request.slot ≤ 4) ∨ request.requestGeneration = 0
      ∨ request.connectionGeneration = 0 ∨ request.nonce = 0 then .error .malformed
  else return request

def encodeBegin (begin : PlaybackBegin) (key : Key) : List UInt8 :=
  let packet := header beginBytes "EIPB" playbackVersion begin.identity.slot
  let packet := encodeIdentity packet begin.identity
  let packet := putU32 packet 32 begin.totalBytes
  let packet := putU64 packet 36 begin.totalSamples
  let packet := putU16 packet 44 begin.chunkBytes
  let packet := putU64 packet 48 begin.requestNonce
  sign S packet key

def decodeBegin (packet : List UInt8) (key : Key) : Except PlaybackWireError PlaybackBegin := do
  verifyFixed S packet beginBytes "EIPB" key
  let begin : PlaybackBegin :=
    { identity := decodeIdentity packet, totalBytes := getU32 packet 32, totalSamples := getU64 packet 36,
      chunkBytes := getU16 packet 44, requestNonce := getU64 packet 48 }
  if slice packet 6 2 ≠ [0, 0] ∨ slice packet 46 2 ≠ [0, 0] ∨ validIdentity begin.identity = false
      ∨ begin.totalBytes = 0 ∨ begin.totalBytes.toNat > playbackMaxEiadBytes ∨ begin.totalSamples = 0
      ∨ begin.chunkBytes = 0 ∨ begin.chunkBytes.toNat > playbackChunkBytes ∨ begin.requestNonce = 0 then
    .error .malformed
  else return begin

def deriveDataKey (identity : PlaybackIdentity) (requestNonce : UInt64) (rootKey : Key) : Key :=
  S.hmac rootKey (dataKeyContext identity requestNonce)

/-- A data packet before its payload. -/
def dataHeader (length : Nat) (identity : PlaybackIdentity) (offset : UInt32) (payloadLen : Nat) :
    List UInt8 :=
  let packet := header length "EIPD" playbackVersion identity.slot
  let packet := encodeIdentity packet identity
  let packet := putU32 packet 32 offset
  putU16 packet 36 (UInt16.ofNat payloadLen)

def encodeData (identity : PlaybackIdentity) (requestNonce : UInt64) (offset : UInt32)
    (payload : List UInt8) (key : Key) :
    Except PlaybackWireError (List UInt8) :=
  if validIdentity identity = false ∨ requestNonce = 0 ∨ payload.isEmpty ∨
    payload.length > playbackChunkBytes then
    .error .malformed
  else
    let packet :=
      dataHeader (dataHeaderBytes + payload.length + playbackTagBytes) identity offset payload.length
    let packet := put packet 40 payload
    let dataKey := deriveDataKey S identity requestNonce key
    let (body, tag) := S.encrypt dataKey (dataNonce offset) (slice packet 0 dataHeaderBytes)
      (slice packet dataHeaderBytes payload.length)
    .ok (put (put packet dataHeaderBytes body) (dataHeaderBytes + payload.length) tag)

def decodeData (packet : List UInt8) (requestNonce : UInt64) (key : Key) :
    Except PlaybackWireError (PlaybackIdentity × UInt32 × List UInt8) :=
  if packet.length < dataHeaderBytes + 1 + playbackTagBytes ∨ slice packet 0 4 ≠ magic "EIPD"
      ∨ getU8 packet 4 ≠ playbackVersion then .error .malformed
  else
    let identity := decodeIdentity packet
    let payloadLen := (getU16 packet 36).toNat
    if slice packet 6 2 ≠ [0, 0] ∨ slice packet 38 2 ≠ [0, 0] ∨ validIdentity identity = false ∨
      requestNonce = 0
        ∨ payloadLen = 0 ∨ payloadLen > playbackChunkBytes
        ∨ packet.length ≠ dataHeaderBytes + payloadLen + playbackTagBytes then .error .malformed
    else
      let offset := getU32 packet 32
      let dataKey := deriveDataKey S identity requestNonce key
      match S.decrypt dataKey (dataNonce offset) (slice packet 0 dataHeaderBytes)
          (slice packet dataHeaderBytes payloadLen) (packet.drop (dataHeaderBytes + payloadLen)) with
      | none => .error .authentication
      | some plaintext => .ok (identity, offset, plaintext)

def encodeAck (ack : PlaybackAck) (key : Key) : List UInt8 :=
  let packet := header ackBytes "EIPA" playbackVersion ack.identity.slot
  let packet := putU8 packet 6 ack.status
  let packet := encodeIdentity packet ack.identity
  let packet := putU32 packet 32 ack.nextOffset
  sign S packet key

def decodeAck (packet : List UInt8) (key : Key) : Except PlaybackWireError PlaybackAck := do
  verifyFixed S packet ackBytes "EIPA" key
  let ack : PlaybackAck :=
    { identity := decodeIdentity packet, status := getU8 packet 6, nextOffset := getU32 packet 32 }
  if getU8 packet 7 ≠ 0 ∨ validIdentity ack.identity = false ∨ ack.status > 3 then .error .malformed
  else return ack

def encodeFinished (finished : PlaybackFinished) (key : Key) : List UInt8 :=
  let packet := header finishedBytes "EIPF" playbackVersion finished.identity.slot
  let packet := encodeIdentity packet finished.identity
  let packet := putU64 packet 32 finished.playedSamples
  sign S packet key

def decodeFinished (packet : List UInt8) (key : Key) : Except PlaybackWireError PlaybackFinished := do
  verifyFixed S packet finishedBytes "EIPF" key
  let finished : PlaybackFinished :=
    { identity := decodeIdentity packet, playedSamples := getU64 packet 32 }
  if slice packet 6 2 ≠ [0, 0] ∨ validIdentity finished.identity = false ∨ finished.playedSamples = 0 then
    .error .malformed
  else return finished

def encodeFinishedAck (identity : PlaybackIdentity) (status : UInt8) (key : Key) : List UInt8 :=
  let packet := header finishedAckBytes "EIPK" playbackVersion identity.slot
  let packet := putU8 packet 6 status
  let packet := encodeIdentity packet identity
  sign S packet key

def decodeFinishedAck (packet : List UInt8) (key : Key) :
    Except PlaybackWireError (PlaybackIdentity × UInt8) := do
  verifyFixed S packet finishedAckBytes "EIPK" key
  let identity := decodeIdentity packet
  if getU8 packet 7 ≠ 0 ∨ validIdentity identity = false ∨ getU8 packet 6 > 1 then .error .malformed
  else return (identity, getU8 packet 6)

def validMailboxStatus (status : MailboxStatus) : Bool :=
  status.unreadSlots &&& ~~~0x0F == 0 && decide (status.runningTasks ≤ 4)
    && coverageMatches status.unreadSlots status.coverageBySlot

def encodeMailboxStatus (status : MailboxStatus) (heartbeatSequence : UInt32) (key : Key) :
    Except PlaybackWireError (List UInt8) :=
  if validMailboxStatus status = false then .error .malformed
  else
    let packet := header mailboxStatusBytes "EIMB" mailboxStatusVersion status.unreadSlots
    let packet := putU8 packet 6 status.runningTasks
    let packet := putU32 packet 8 heartbeatSequence
    let packet := put packet 12 status.coverageBySlot.toList
    .ok (sign S packet key)

def decodeMailboxStatus (packet : List UInt8) (key : Key) :
    Except PlaybackWireError (MailboxStatus × UInt32) :=
  if packet.length ≠ mailboxStatusBytes ∨ slice packet 0 4 ≠ magic "EIMB" ∨
    getU8 packet 4 ≠ mailboxStatusVersion then
    .error .malformed
  else do
    verify S packet key
    let status : MailboxStatus :=
      { unreadSlots := getU8 packet 5, runningTasks := getU8 packet 6, coverageBySlot := coverageAt packet }
    if getU8 packet 7 ≠ 0 ∨ validMailboxStatus status = false then .error .malformed
    else return (status, getU32 packet 8)

end Host

/-! ## Keyboard -/

namespace Keyboard

variable (S : Sealing)

/-- `kPlaybackMaximumSamples`. -/
def playbackMaximumSamples : Nat := 48000 * 150

/-- `PlaybackWireData`: the plaintext buffer and how much of it is the payload. -/
structure PlaybackWireData where
  identity : PlaybackIdentity
  offset : UInt32
  payload : List UInt8
  payloadLength : UInt16
deriving DecidableEq, Repr

structure MailboxWireStatus where
  unreadSlots : UInt8
  runningTasks : UInt8
  heartbeatSequence : UInt32
  coverageBySlot : Vector UInt8 4
deriving DecidableEq, Repr

/-- `sign`; `none` for `false`. -/
def sign (packet : List UInt8) (key : Key) : Option (List UInt8) :=
  if packet.length < playbackTagBytes then none
  else
    let bodySize := packet.length - playbackTagBytes
    some (put packet bodySize ((S.hmac key (packet.take bodySize)).toList.take playbackTagBytes))

/-- `authenticate`: the tags are compared without an early exit. -/
def authenticate (packet : List UInt8) (key : Key) : Bool :=
  if packet.length < playbackTagBytes then false
  else
    let bodySize := packet.length - playbackTagBytes
    let digest := S.hmac key (packet.take bodySize)
    let difference := (List.range playbackTagBytes).foldl
      (fun difference index =>
        difference ||| (getU8 digest.toList index ^^^ getU8 packet (bodySize + index))) 0
    difference == 0

/-- `reserved_zero`. -/
def reservedZero (packet : List UInt8) (first last : Nat) : Bool :=
  (List.range' first (last - first)).all fun index => getU8 packet index == 0

def encodePlaybackRequest (request : PlaybackRequest) (key : Key) (outputSize : Nat) :
    Option (List UInt8) :=
  if outputSize ≠ requestBytes ∨ request.slot < 1 ∨ request.slot > 4 ∨ request.requestGeneration = 0
      ∨ request.connectionGeneration = 0 ∨ request.nonce = 0 then none
  else
    let output := header outputSize "EIPR" playbackVersion request.slot
    let output := putU32 output 8 request.requestGeneration
    let output := putU32 output 12 request.connectionGeneration
    let output := putU64 output 16 request.nonce
    sign S output key

def decodePlaybackBegin (packet : List UInt8) (key : Key) : Option PlaybackBegin :=
  if packet.length ≠ beginBytes ∨ slice packet 0 4 ≠ magic "EIPB" ∨ getU8 packet 4 ≠ playbackVersion
      ∨ authenticate S packet key = false ∨ reservedZero packet 6 8 = false ∨
      reservedZero packet 46 48 = false then none
  else
    let begin : PlaybackBegin :=
      { identity := decodeIdentity packet, totalBytes := getU32 packet 32, totalSamples := getU64 packet 36,
        chunkBytes := getU16 packet 44, requestNonce := getU64 packet 48 }
    if validIdentity begin.identity ∧ begin.totalBytes ≠ 0 ∧ begin.totalBytes.toNat ≤ playbackMaxEiadBytes
        ∧ begin.totalSamples ≠ 0 ∧ begin.totalSamples.toNat ≤ playbackMaximumSamples ∧ begin.chunkBytes ≠ 0
        ∧ begin.chunkBytes.toNat ≤ playbackChunkBytes ∧ begin.requestNonce ≠ 0 then some begin
    else none

/-- `derive_data_key`. -/
def deriveDataKey (identity : PlaybackIdentity) (requestNonce : UInt64) (rootKey : Key) : Option Key :=
  if requestNonce = 0 then none else some (S.hmac rootKey (dataKeyContext identity requestNonce))

/-- `decrypt_data_payload`. -/
def decryptDataPayload (packet : List UInt8) (payloadLength : Nat) (dataKey : Key) : Option (List UInt8) :=
  S.decrypt dataKey (dataNonce (getU32 packet 32)) (slice packet 0 dataHeaderBytes)
    (slice packet dataHeaderBytes payloadLength)
    (slice packet (dataHeaderBytes + payloadLength) playbackTagBytes)

/-- `plaintextSize` is the room in the caller's buffer. -/
def decodePlaybackData (packet : List UInt8) (requestNonce : UInt64) (key : Key) (plaintextSize : Nat) :
    Option PlaybackWireData :=
  if requestNonce = 0 ∨ packet.length < dataHeaderBytes + 1 + playbackTagBytes ∨
    slice packet 0 4 ≠ magic "EIPD"
      ∨ getU8 packet 4 ≠ playbackVersion ∨ reservedZero packet 6 8 = false ∨
      reservedZero packet 38 40 = false then none
  else
    let payloadLength := getU16 packet 36
    let identity := decodeIdentity packet
    if validIdentity identity = false ∨ payloadLength = 0 ∨ payloadLength.toNat > playbackChunkBytes
        ∨ plaintextSize < payloadLength.toNat
        ∨ packet.length ≠ dataHeaderBytes + payloadLength.toNat + playbackTagBytes then none
    else do
      let dataKey ← deriveDataKey S identity requestNonce key
      let payload ← decryptDataPayload S packet payloadLength.toNat dataKey
      return { identity, offset := getU32 packet 32, payload, payloadLength }

def encodePlaybackAck (ack : PlaybackAck) (key : Key) (outputSize : Nat) : Option (List UInt8) :=
  if outputSize ≠ ackBytes ∨ validIdentity ack.identity = false ∨ ack.status > 3 then none
  else
    let output := header outputSize "EIPA" playbackVersion ack.identity.slot
    let output := putU8 output 6 ack.status
    let output := encodeIdentity output ack.identity
    let output := putU32 output 32 ack.nextOffset
    sign S output key

def encodePlaybackFinished (finished : PlaybackFinished) (key : Key) (outputSize : Nat) :
    Option (List UInt8) :=
  if outputSize ≠ finishedBytes ∨ validIdentity finished.identity = false ∨
    finished.playedSamples = 0 then none
  else
    let output := header outputSize "EIPF" playbackVersion finished.identity.slot
    let output := encodeIdentity output finished.identity
    let output := putU64 output 32 finished.playedSamples
    sign S output key

def decodePlaybackFinishedAck (packet : List UInt8) (key : Key) : Option (PlaybackIdentity × UInt8) :=
  if packet.length ≠ finishedAckBytes ∨ slice packet 0 4 ≠ magic "EIPK" ∨ getU8 packet 4 ≠ playbackVersion
      ∨ authenticate S packet key = false ∨ getU8 packet 7 ≠ 0 then none
  else
    let identity := decodeIdentity packet
    let status := getU8 packet 6
    if validIdentity identity ∧ status ≤ 1 then some (identity, status) else none

def decodeMailboxStatus (packet : List UInt8) (key : Key) : Option MailboxWireStatus :=
  if packet.length ≠ mailboxStatusBytes ∨ slice packet 0 4 ≠ magic "EIMB" ∨
    getU8 packet 4 ≠ mailboxStatusVersion
      ∨ authenticate S packet key = false ∨ getU8 packet 7 ≠ 0 then none
  else
    let status : MailboxWireStatus :=
      { unreadSlots := getU8 packet 5, runningTasks := getU8 packet 6, heartbeatSequence := getU32 packet 8,
        coverageBySlot := coverageAt packet }
    if (status.unreadSlots &&& 0xF0) ≠ 0 ∨ status.runningTasks > 4 then none
    else if coverageMatches status.unreadSlots status.coverageBySlot then some status else none

end Keyboard

end CodexKeyboard.LanPlayback
