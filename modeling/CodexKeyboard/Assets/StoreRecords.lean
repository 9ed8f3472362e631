import CodexKeyboard.Assets.SoundFormat
/-!
# Staging header and commit record

The two records that the sound asset store keeps in a bank (`sound_asset_store.cpp:424-799`). The
staging header names the update that owns the bank: its generation, its transaction and its whole
plan. The commit record says that the update is complete; its body is written first and its marker
last.

| here | there |
| --- | --- |
| `planIsValid`, `blockCount`, `blockLength` | `plan_is_valid`, `payload_block_count`, `payload_block_length` (sound_asset_store.cpp:366-410) |
| `deriveTransactionId` | `derive_transaction_id` (sound_asset_store.cpp:424) |
| `encodeStagingHeader`, `decodeStagingHeader` | sound_asset_store.cpp:516, 571 |
| `encodeCommitBody`, `encodeCommitMarker`, `decodeCommit` | sound_asset_store.cpp:645, 685, 698 |
| `validateSoundBank`, `validateSoundBankReadCandidate` | sound_asset_store.cpp:946, 860 |

What a failed call leaves in its output arguments is left out.
-/

namespace CodexKeyboard.Assets.SoundAssetStore

open Lib Buffer Storage

def storageVersion : UInt16 := 1
def stagingHeaderBytes : Nat := 704
def stagingHeaderCrcOffset : Nat := 700
def commitBodyBytes : Nat := 128
def commitBodyCrcOffset : Nat := 112
def commitMarkerOffset : Nat := 128
def commitMarkerBytes : Nat := 16

abbrev Checked (α : Type) : Type := Storage SoundStoreResult α

def mapFormat : SoundFormatError → SoundStoreResult
  | .invalidArgument => .invalidArgument
  | .ioError => .ioError
  | .hashMismatch => .hashMismatch
  | .invalidManifest | .invalidResource | .invalidMapping => .invalidManifest

def transactionIdValid (id : TransactionId) : Bool := !bytesAreZero id.toList

/-- `payload_block_count`. -/
def blockCount (payloadBytes : UInt32) : Nat :=
  (payloadBytes.toNat + soundPayloadBlockSize - 1) / soundPayloadBlockSize

/-- `payload_block_length`. -/
def blockLength (payloadBytes : UInt32) (blockIndex : Nat) : Nat :=
  min soundPayloadBlockSize (payloadBytes.toNat - blockIndex * soundPayloadBlockSize)

def planIsValid (plan : SoundBundlePlan) : Bool :=
  decide (manifestHeaderBytes ≤ plan.manifestBytes.toNat) &&
    decide (plan.manifestBytes.toNat ≤ soundSectorSize) &&
    decide (plan.payloadBytes.toNat ≤ soundPayloadMaxSize) && !digestIsZero plan.manifestSha256 &&
    !digestIsZero plan.bundleSha256 &&
      (plan.payloadBlockCrc32.toList.drop (blockCount plan.payloadBytes)).all (· == 0) &&
    (digestIsZero plan.baseBundleSha256 == (plan.baseGeneration == 0))

/-! ## Transactions -/

def transactionInput (plan : SoundBundlePlan) (targetBank : SoundBankId) (generation : UInt64) :
    List UInt8 :=
  magic "EASYINPUT-TXN-V1" ++ [targetBank.code] ++ toLe 8 generation.toNat ++
    toLe 8 plan.baseGeneration.toNat ++
    plan.baseBundleSha256.toList ++ toLe 4 plan.manifestBytes.toNat ++ toLe 4 plan.payloadBytes.toNat ++
    plan.manifestSha256.toList ++ plan.bundleSha256.toList

/-- The first half of the digest, or the second where the first is zero; its last byte is 1 where
both are. -/
def transactionIdOf (digest : SoundSha256Digest) : TransactionId :=
  let first := bytesAt digest.toList 0 16
  let second := bytesAt digest.toList 16 16
  if transactionIdValid first then first
  else if transactionIdValid second then second
  else bytesAt (putU8 second.toList 15 1) 0 16

/-- What `derive_transaction_id` derives. -/
def transactionId (H : Hashes) (plan : SoundBundlePlan) (targetBank : SoundBankId)
    (generation : UInt64) : TransactionId :=
  transactionIdOf (H.sha256 (transactionInput plan targetBank generation))

def deriveTransactionId (H : Hashes) (plan : SoundBundlePlan) (targetBank : SoundBankId)
    (generation : UInt64) :
    Checked TransactionId := do
  work mapIo .sha256 targetBank soundStagingHeaderOffset
    (transactionInput plan targetBank generation).length
  work mapIo .sha256 targetBank soundStagingHeaderOffset sha256FinishBudgetBytes
  return transactionId H plan targetBank generation

/-! ## The staging header -/

/-- The header up to its checksum. -/
def stagingFields (bank : SoundBankId) (generation : UInt64) (transaction : TransactionId)
    (plan : SoundBundlePlan) : List UInt8 :=
  let encoded := put (List.replicate stagingHeaderBytes 0) 0 (magic "EISH")
  let encoded := putU16 encoded 4 storageVersion
  let encoded := putU16 encoded 6 704
  let encoded := putU8 encoded 8 bank.code
  let encoded := putU64 encoded 16 generation
  let encoded := putU64 encoded 24 plan.baseGeneration
  let encoded := put encoded 32 transaction.toList
  let encoded := putU32 encoded 48 plan.manifestBytes
  let encoded := putU32 encoded 52 plan.payloadBytes
  let encoded := putU32 encoded 56 4096
  let encoded := putU16 encoded 60 (UInt16.ofNat (blockCount plan.payloadBytes))
  let encoded := putU32 encoded 64 plan.manifestCrc32
  let encoded := put encoded 72 plan.baseBundleSha256.toList
  let encoded := put encoded 104 plan.manifestSha256.toList
  let encoded := put encoded 136 plan.bundleSha256.toList
  put encoded 168 (plan.payloadBlockCrc32.toList.flatMap fun crc => toLe 4 crc.toNat)

def stagingHeader (H : Hashes) (bank : SoundBankId) (generation : UInt64)
    (transaction : TransactionId) (plan : SoundBundlePlan) :
    List UInt8 :=
  let encoded := stagingFields bank generation transaction plan
  putU32 encoded 700 (H.crc32 (encoded.take 700))

def encodeStagingHeader (H : Hashes) (bank : SoundBankId) (generation : UInt64)
    (transaction : TransactionId)
    (plan : SoundBundlePlan) : Checked (List UInt8) := do
  checkPieces mapIo .crc32 bank soundStagingHeaderOffset (pieces stagingHeaderCrcOffset)
  return stagingHeader H bank generation transaction plan

/-- What a staging header says. -/
structure Staged where
  generation : UInt64
  transaction : TransactionId
  plan : SoundBundlePlan
deriving DecidableEq, Repr

/-- The plan in the fields of a header. -/
def stagedPlan (encoded : List UInt8) : SoundBundlePlan :=
  { baseGeneration := getU64 encoded 24, baseBundleSha256 := bytesAt encoded 72 32,
    manifestBytes := getU32 encoded 48
    payloadBytes :=
      getU32 encoded 52, manifestCrc32 := getU32 encoded 64, manifestSha256 := bytesAt encoded 104 32
    bundleSha256 := bytesAt encoded 136 32, payloadBlockCrc32 := Vector.ofFn fun i =>
      getU32 encoded (168 + i.val * 4) }

def decodeStagingHeader (H : Hashes) (encoded : List UInt8) (expectedBank : SoundBankId) :
    Checked Staged := do
  refuse (slice encoded 0 4 ≠ magic "EISH" ∨ getU16 encoded 4 ≠ storageVersion ∨ getU16 encoded 6 ≠ 704
    ∨ getU8 encoded 8 ≠ expectedBank.code ∨ bytesAreZero (slice encoded 9 7) = false ∨
    getU32 encoded 56 ≠ 4096
    ∨ getU16 encoded 62 ≠ 0 ∨ getU32 encoded 68 ≠ 0 ∨ bytesAreZero (slice encoded 680 20) = false)
    SoundStoreResult.invalidStaging
  checkPieces mapIo .crc32 expectedBank soundStagingHeaderOffset (pieces stagingHeaderCrcOffset)
  refuse (getU32 encoded 700 ≠ H.crc32 (encoded.take 700)) SoundStoreResult.invalidStaging
  let generation := getU64 encoded 16
  let transaction := bytesAt encoded 32 16
  let decoded := stagedPlan encoded
  refuse (generation = 0 ∨ transactionIdValid transaction = false ∨ planIsValid decoded = false
    ∨ (getU16 encoded 60).toNat ≠ blockCount decoded.payloadBytes) SoundStoreResult.invalidStaging
  return { generation, transaction, plan := decoded }

/-! ## The commit record -/

/-- The body up to its checksum. -/
def commitFields (bank : SoundBankId) (generation : UInt64) (transaction : TransactionId)
    (plan : SoundBundlePlan) : List UInt8 :=
  let body := putU16 (List.replicate commitBodyBytes 0) 0 storageVersion
  let body := putU16 body 2 128
  let body := putU8 body 4 bank.code
  let body := putU64 body 8 generation
  let body := putU64 body 16 plan.baseGeneration
  let body := put body 24 transaction.toList
  let body := putU32 body 40 plan.manifestBytes
  let body := putU32 body 44 plan.payloadBytes
  let body := put body 48 plan.manifestSha256.toList
  put body 80 plan.bundleSha256.toList

def commitBody (H : Hashes) (bank : SoundBankId) (generation : UInt64) (transaction : TransactionId)
    (plan : SoundBundlePlan) :
    List UInt8 :=
  let body := commitFields bank generation transaction plan
  putU32 body 112 (H.crc32 (body.take 112))

def encodeCommitBody (H : Hashes) (bank : SoundBankId) (generation : UInt64) (transaction : TransactionId)
    (plan : SoundBundlePlan) : Checked (List UInt8) := do
  checkPieces mapIo .crc32 bank soundCommitOffset (pieces commitBodyCrcOffset)
  return commitBody H bank generation transaction plan

def encodeCommitMarker (bodyCrc : UInt32) : List UInt8 :=
  magic "EISC" ++ (magic "EISC").map (~~~ ·) ++ toLe 4 bodyCrc.toNat ++ toLe 4 (~~~bodyCrc).toNat

/-- The snapshot in the fields of a commit body. -/
def committedSnapshot (bank : SoundBankId) (body : List UInt8) : SoundBankSnapshot :=
  { valid := true, bank, generation := getU64 body 8, baseGeneration := getU64 body 16,
    transactionId := bytesAt body 24 16
    manifestBytes := getU32 body 40, payloadBytes := getU32 body 44, manifestSha256 := bytesAt body 48 32
    bundleSha256 := bytesAt body 80 32 }

/-- `0xFF` everywhere. -/
def isErased (bytes : List UInt8) : Bool := bytes.all (· == 0xFF)

def decodeCommit (H : Hashes) (bank : SoundBankId) : Checked SoundBankSnapshot := do
  let body ← read mapIo bank soundCommitOffset commitBodyBytes
  let marker ← read mapIo bank (soundCommitOffset + commitMarkerOffset) commitMarkerBytes
  refuse (isErased body = true ∧ isErased marker = true) SoundStoreResult.factoryBlank
  refuse (getU16 body 0 ≠ storageVersion ∨ getU16 body 2 ≠ 128 ∨ getU8 body 4 ≠ bank.code ∨
    bytesAreZero (slice body 5 3) = false
    ∨ bytesAreZero (slice body 116 12) = false) SoundStoreResult.invalidBank
  checkPieces mapIo .crc32 bank soundCommitOffset (pieces commitBodyCrcOffset)
  refuse (getU32 body 112 ≠ H.crc32 (body.take 112)) SoundStoreResult.invalidBank
  refuse (slice marker 0 8 ≠ magic "EISC" ++ (magic "EISC").map (~~~ ·)) SoundStoreResult.invalidBank
  refuse (getU32 marker 8 ≠ getU32 body 112 ∨
    getU32 marker 12 ≠ ~~~getU32 body 112) SoundStoreResult.invalidBank
  let decoded := committedSnapshot bank body
  refuse (decoded.generation = 0 ∨ decoded.baseGeneration ≠ decoded.generation - 1
    ∨ transactionIdValid decoded.transactionId = false ∨ decoded.manifestBytes.toNat < manifestHeaderBytes
    ∨ decoded.manifestBytes.toNat > soundSectorSize ∨ decoded.payloadBytes.toNat > soundPayloadMaxSize
    ∨ digestIsZero decoded.manifestSha256 = true ∨
    digestIsZero decoded.bundleSha256 = true) SoundStoreResult.invalidBank
  return decoded

/-! ## Validating a bank -/

/-- `validate_sound_bank_committed_content` (sound_asset_store.cpp:813). -/
def validateCommittedContent (H : Hashes) (bank : SoundBankId) : Checked SoundBankSnapshot := do
  let decoded ← decodeCommit H bank
  let _ ← ExceptT.adapt mapFormat (validateSoundManifest H bank decoded.manifestBytes decoded.payloadBytes)
  let digests ← ExceptT.adapt mapFormat
    (calculateSoundBankDigests H bank decoded.manifestBytes decoded.payloadBytes)
  refuse (digests.1 ≠ decoded.manifestSha256 ∨
    digests.2 ≠ decoded.bundleSha256) SoundStoreResult.hashMismatch
  return decoded

def validateSoundBankReadCandidate (H : Hashes) (committed : SoundBankSnapshot) : Checked Unit := do
  refuse (committed.valid = false ∨ committed.manifestBytes.toNat < manifestHeaderBytes
    ∨ committed.manifestBytes.toNat > soundSectorSize) SoundStoreResult.invalidBank
  let manifest ← hashedRegion mapIo [.sha256] committed.bank soundManifestOffset
    committed.manifestBytes.toNat
  work mapIo .sha256 committed.bank soundManifestOffset sha256FinishBudgetBytes
  refuse (H.sha256 manifest ≠ committed.manifestSha256) SoundStoreResult.hashMismatch

/-- `bank_validation_failure_is_nonfatal` (sound_asset_store.cpp:919). -/
def failureIsNonfatal (result : SoundStoreResult) : Bool :=
  result == .factoryBlank || result == .invalidBank || result == .invalidManifest || result == .hashMismatch

/-- A failure of the storage itself. -/
def failureIsOfStorage (result : SoundStoreResult) : Bool :=
  result == .unavailable || result == .ioError || result == .invalidArgument

/-- The first error that meets the condition. -/
def firstFailure (p : SoundStoreResult → Bool) :
    List (Except SoundStoreResult Unit) → Option SoundStoreResult
  | [] => none
  | .ok _ :: rest => firstFailure p rest
  | .error e :: rest => if p e then some e else firstFailure p rest

/-- The results of several checks together: one of the storage goes first. -/
def settle (results : List (Except SoundStoreResult Unit)) : Except SoundStoreResult Unit :=
  match firstFailure failureIsOfStorage results with
  | some e => .error e
  | none =>
    match firstFailure (fun _ => true) results with
    | some e => .error e
    | none => .ok ()

/-- The checks, each made whatever the ones before it gave. -/
def resultsOf : List (Checked Unit) → Checked (List (Except SoundStoreResult Unit))
  | [] => pure []
  | check :: rest => do
    let result ← Io.attempt check
    let results ← resultsOf rest
    return result :: results

/-- Where a bank that holds the bundle is erased. -/
def erasedRegions (decoded : SoundBankSnapshot) : List (Nat × Nat) :=
  [(soundManifestOffset + decoded.manifestBytes.toNat, soundSectorSize - decoded.manifestBytes.toNat),
    (soundPayloadOffset + decoded.payloadBytes.toNat, soundPayloadMaxSize - decoded.payloadBytes.toNat),
    (soundReservedOffset, soundReservedEndOffset - soundReservedOffset),
    (soundCommitOffset + commitMarkerOffset + commitMarkerBytes,
      soundSectorSize - commitMarkerOffset - commitMarkerBytes)]

def validateSoundBank (H : Hashes) (bank : SoundBankId) : Checked SoundBankSnapshot := do
  let decoded ← validateCommittedContent H bank
  let results ← resultsOf ((erasedRegions decoded).map fun place => verifyRegionErased bank place.1 place.2)
  match settle results with
  | .error e => throw e
  | .ok _ => return decoded

end CodexKeyboard.Assets.SoundAssetStore
