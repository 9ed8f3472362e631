import CodexKeyboard.Lib.Buffer
/-!
# Data of the speaker asset update

The records that the session, the executor and the store of `src/firmware/features/speaker_assets`
pass around. Arrays of fixed size are vectors, so a digest has 32 bytes by its type, and an
enumeration has no value outside it.

| here | there |
| --- | --- |
| `SoundBankId`, …, `SoundTransactionOutcome`, `SoundStoreResult` | sound_asset_store.h:29-194 |
| `SpeakerAssetsFrame`, `SpeakerAssetsRouteToken`, `SpeakerAssetsStatus`, `SpeakerAssetsRegion` | speaker_assets_protocol.h:63-173 |
| `Hashes` | `SoundSha256`, `sound_crc32_iso_hdlc` (sound_asset_crypto.h) |

The body of a frame is its first `body_length` bytes; nothing reads the rest of the array.
-/

namespace CodexKeyboard.Assets

open Lib Buffer

abbrev SoundSha256Digest := Vector UInt8 32
abbrev TransactionId := Vector UInt8 16

/-- The two checksums, as functions of the bytes. -/
structure Hashes where
  sha256 : List UInt8 → SoundSha256Digest
  crc32 : List UInt8 → UInt32

def zeroDigest : SoundSha256Digest := Vector.replicate 32 0
def zeroTransactionId : TransactionId := Vector.replicate 16 0

def soundSectorSize : Nat := 0x1000
def soundPayloadMaxSize : Nat := 0x80000
def soundPayloadBlockSize : Nat := soundSectorSize
def soundPayloadBlockCount : Nat := 128

inductive SoundBankId where
  | a
  | b
deriving DecidableEq, Repr

/-- `static_cast<std::uint8_t>`. -/
def SoundBankId.code : SoundBankId → UInt8
  | .a => 0
  | .b => 1

inductive SoundStoreResult where
  | ok
  | invalidArgument
  | unavailable
  | ioError
  | invalidBank
  | invalidStaging
  | invalidManifest
  | crcMismatch
  | hashMismatch
  | incomplete
  | busy
  | bankPinned
  | staleBase
  | generationExhausted
  | transactionMismatch
  | splitBrain
  | factoryBlank
deriving DecidableEq, Repr

structure SoundBankSnapshot where
  valid : Bool := false
  bank : SoundBankId := .a
  generation : UInt64 := 0
  baseGeneration : UInt64 := 0
  transactionId : TransactionId := zeroTransactionId
  manifestBytes : UInt32 := 0
  payloadBytes : UInt32 := 0
  manifestSha256 : SoundSha256Digest := zeroDigest
  bundleSha256 : SoundSha256Digest := zeroDigest
deriving DecidableEq, Repr

structure SoundBundlePlan where
  baseGeneration : UInt64 := 0
  baseBundleSha256 : SoundSha256Digest := zeroDigest
  manifestBytes : UInt32 := 0
  payloadBytes : UInt32 := 0
  manifestCrc32 : UInt32 := 0
  manifestSha256 : SoundSha256Digest := zeroDigest
  bundleSha256 : SoundSha256Digest := zeroDigest
  payloadBlockCrc32 : Vector UInt32 128 := Vector.replicate 128 0
deriving DecidableEq, Repr

structure SoundUpdateIdentity where
  generation : UInt64 := 0
  targetBank : SoundBankId := .a
  transactionId : TransactionId := zeroTransactionId
deriving DecidableEq, Repr

structure SoundUpdateProgress where
  identity : SoundUpdateIdentity := {}
  manifestBytes : UInt32 := 0
  payloadBytes : UInt32 := 0
  payloadBlockCount : UInt16 := 0
  manifestComplete : Bool := false
  payloadCompleteBitmap : Vector UInt8 16 := Vector.replicate 16 0
  bundleSha256 : SoundSha256Digest := zeroDigest
deriving DecidableEq, Repr

inductive SoundTransactionState where
  | active
  | committed
  | unknown
deriving DecidableEq, Repr

structure SoundTransactionOutcome where
  state : SoundTransactionState := .unknown
  identity : SoundUpdateIdentity := {}
  manifestBytes : UInt32 := 0
  payloadBytes : UInt32 := 0
  bundleSha256 : SoundSha256Digest := zeroDigest
deriving DecidableEq, Repr

/-! ## Frames -/

inductive SpeakerAssetsTransport where
  | usb
  | reservedLegacy
  | wifi
deriving DecidableEq, Repr

structure SpeakerAssetsRouteToken where
  transport : SpeakerAssetsTransport := .usb
  routeId : UInt32 := 0
  generation : UInt32 := 0
deriving DecidableEq, Repr

structure SpeakerAssetsFrame where
  opcode : UInt8 := 0
  flags : UInt8 := 0
  requestId : UInt32 := 0
  sessionCookie : UInt32 := 0
  objectOffset : UInt32 := 0
  body : List UInt8 := []
deriving DecidableEq, Repr

inductive SpeakerAssetsRegion where
  | manifest
  | payload
deriving DecidableEq, Repr

def SpeakerAssetsRegion.code : SpeakerAssetsRegion → UInt8
  | .manifest => 0
  | .payload => 1

inductive SpeakerAssetsStatus where
  | ok
  | badRequest
  | unsupportedVersion
  | integrityError
  | busy
  | notReady
  | staleBase
  | transactionMismatch
  | incomplete
  | storageUnavailable
  | bankPinned
  | generationExhausted
  | splitBrain
  | pausedForInput
  | internalError
  | recoveryRequired
deriving DecidableEq, Repr

/-- The wire value. -/
def SpeakerAssetsStatus.code : SpeakerAssetsStatus → UInt8
  | .ok => 0
  | .badRequest => 1
  | .unsupportedVersion => 2
  | .integrityError => 3
  | .busy => 4
  | .notReady => 5
  | .staleBase => 6
  | .transactionMismatch => 7
  | .incomplete => 8
  | .storageUnavailable => 9
  | .bankPinned => 10
  | .generationExhausted => 11
  | .splitBrain => 12
  | .pausedForInput => 13
  | .internalError => 14
  | .recoveryRequired => 15

/-- `speaker_assets_status_from_store_result` (speaker_assets_session.cpp:1793). -/
def statusFromStoreResult : SoundStoreResult → SpeakerAssetsStatus
  | .ok => .ok
  | .invalidArgument => .badRequest
  | .unavailable | .ioError => .storageUnavailable
  | .invalidBank => .integrityError
  | .invalidStaging => .recoveryRequired
  | .invalidManifest | .crcMismatch | .hashMismatch => .integrityError
  | .incomplete => .incomplete
  | .busy => .busy
  | .bankPinned => .bankPinned
  | .staleBase => .staleBase
  | .generationExhausted => .generationExhausted
  | .transactionMismatch => .transactionMismatch
  | .splitBrain => .splitBrain
  | .factoryBlank => .storageUnavailable

/-- Statuses are told apart on the wire. -/
theorem SpeakerAssetsStatus.code_injective {left right : SpeakerAssetsStatus}
    (h : left.code = right.code) : left = right := by
  cases left <;> cases right <;> first | rfl | exact absurd h (by decide)

/-- An error of the store is never reported as success. -/
theorem statusFromStoreResult_eq_ok {result : SoundStoreResult} :
    statusFromStoreResult result = .ok ↔ result = .ok := by
  cases result <;> simp [statusFromStoreResult]

end CodexKeyboard.Assets
