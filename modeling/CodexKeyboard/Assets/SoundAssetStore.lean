import CodexKeyboard.Assets.StoreRecords
/-!
# The sound asset store

`SoundAssetStore` (`features/speaker_assets/sound_asset_store.cpp:1001-2507`): one generation of
sounds is active in one of two banks while the next is staged in the other. The methods are programs
on the flash; what they keep in memory is lost with the power, and a new store finds out from the
flash what was committed.

| here | there |
| --- | --- |
| `selectSoundBanks` | `select_sound_banks` (sound_asset_store.cpp:1001) |
| `inspectBanks` | `validate_sound_bank` of both banks in `scan`, `query_current_active`, `refresh_selection_after_commit` |
| `nextTarget` | the checks against the active generation in `begin_new_update`, `begin_or_resume_update`, `discard_invalid_staging` |
| `beginNewUpdate`, `beginOrResumeUpdate` | `begin_new_update`, `begin_or_resume_update` (1174, 1325) |
| `resumeUpdate`, `loadStagingHeader` | 1481, 2150 |
| `queryCurrentActive`, `queryTransactionOutcome` | 1095, 1527 |
| `discardInvalidStaging` | 1580 |
| `writeManifest`, `writePayloadBlock`, `commitUpdate`, `abortUpdate` | 1736, 1807, 1872, 1978 |
| `acquireActiveRead`, `releaseRead`, `scanCommittedContent` | 2016, 2087, 2384 |
| `updateProgress` | 2118 |

The fields of a snapshot that is not valid, which nothing reads, are left out, and so are null
pointers. The slots of completed blocks are a function of the block.
-/

namespace CodexKeyboard.Assets

open Lib Buffer Storage

structure SoundStoreSelection where
  bankA : SoundBankSnapshot := {}
  bankB : SoundBankSnapshot := {}
  activeValid : Bool := false
  splitBrain : Bool := false
  active : SoundBankSnapshot := {}
deriving DecidableEq, Repr

structure SoundReadLease where
  valid : Bool := false
  leaseId : UInt64 := 0
  bank : SoundBankId := .a
  generation : UInt64 := 0
  bundleSha256 : SoundSha256Digest := zeroDigest
deriving DecidableEq, Repr

def selectSoundBanks (bankA bankB : SoundBankSnapshot) : SoundStoreSelection :=
  let selection : SoundStoreSelection := { bankA, bankB }
  if bankA.valid = false ∧ bankB.valid = false then selection
  else if bankB.valid = false then { selection with activeValid := true, active := bankA }
  else if bankA.valid = false then { selection with activeValid := true, active := bankB }
  else if bankA.generation > bankB.generation then
    if bankA.generation - bankB.generation ≠ 1 then { selection with splitBrain := true }
    else { selection with activeValid := true, active := bankA }
  else if bankB.generation > bankA.generation then
    if bankB.generation - bankA.generation ≠ 1 then { selection with splitBrain := true }
    else { selection with activeValid := true, active := bankB }
  else if bankA.bundleSha256 = bankB.bundleSha256 then
    { selection with activeValid := true, active := bankA }
  else { selection with splitBrain := true }

/-- The snapshot of a bank (`snapshot_for_bank`). -/
def SoundStoreSelection.snapshotFor (selection : SoundStoreSelection) : SoundBankId → SoundBankSnapshot
  | .a => selection.bankA
  | .b => selection.bankB

/-- `*erased_snapshot = {}`. -/
def SoundStoreSelection.erased (selection : SoundStoreSelection) : SoundBankId → SoundStoreSelection
  | .a => { selection with bankA := { bank := .a } }
  | .b => { selection with bankB := { bank := .b } }

structure SoundAssetStore where
  selection : SoundStoreSelection := {}
  scanned : Bool := false
  readSelection : SoundStoreSelection := {}
  readSelectionScanned : Bool := false
  readSelectionResult : SoundStoreResult := .unavailable
  updateActive : Bool := false
  updateBank : SoundBankId := .a
  updateGeneration : UInt64 := 0
  updatePlan : SoundBundlePlan := {}
  updateTransactionId : TransactionId := zeroTransactionId
  payloadComplete : Nat → Bool := fun _ => false
  manifestComplete : Bool := false
  readLeases : List SoundReadLease := List.replicate 8 {}
  nextReadLeaseId : UInt64 := 1

namespace SoundAssetStore

abbrev StoreMethod (α : Type) : Type := Method StorageCall StorageAnswer SoundAssetStore SoundStoreResult α

/-- The body; where it fails, the state changes by `undo` on the way out. -/
def onError {α : Type} (x : StoreMethod α) (undo : SoundAssetStore → SoundAssetStore) : StoreMethod α := do
  match ← Method.attempt x with
  | .ok a => return a
  | .error e =>
    modify undo
    throw e

/-! ## What the store keeps in memory -/

/-- Nothing that was found out about the flash counts any more. -/
def forgetSelection (s : SoundAssetStore) : SoundAssetStore :=
  { s with
    scanned := false, readSelectionScanned := false, readSelectionResult := .unavailable
    selection := {}, readSelection := {} }

def clearUpdateState (s : SoundAssetStore) : SoundAssetStore :=
  { s with updateActive := false, updateBank := .a, updateGeneration := 0, updatePlan := {}
           updateTransactionId := zeroTransactionId, payloadComplete := fun _ =>
             false, manifestComplete := false }

def targetIsPinned (s : SoundAssetStore) (bank : SoundBankId) : Bool :=
  s.readLeases.any fun lease => lease.valid && lease.bank == bank

def updateIdentity (s : SoundAssetStore) : SoundUpdateIdentity :=
  { generation := s.updateGeneration, targetBank := s.updateBank, transactionId := s.updateTransactionId }

/-- `read_selection_disposition` (sound_asset_store.cpp:927). -/
def readSelectionDisposition (selection : SoundStoreSelection)
    (bankAResult bankBResult : SoundStoreResult) : SoundStoreResult :=
  if selection.splitBrain then .splitBrain
  else if selection.activeValid then .ok
  else if bankAResult = .factoryBlank ∧ bankBResult = .factoryBlank then .factoryBlank
  else .unavailable

/-- A selection of both banks, made known to updates and to reads. -/
def publish (selection : SoundStoreSelection) (bankAResult bankBResult : SoundStoreResult)
    (s : SoundAssetStore) : SoundAssetStore :=
  { s with selection, scanned := true, readSelection := selection, readSelectionScanned := true
           readSelectionResult := readSelectionDisposition selection bankAResult bankBResult }

/-! ## Selecting -/

variable (H : Hashes)

/-- A bank and what was found wrong with it, unless the storage itself failed. -/
def inspectBank (bank : SoundBankId) : StoreMethod (SoundStoreResult × SoundBankSnapshot) := do
  match ← Method.attempt (Method.lift (validateSoundBank H bank)) with
  | .ok snapshot => return (.ok, snapshot)
  | .error e =>
    refuse (failureIsNonfatal e = false) e
    return (e, { bank })

def inspectBanks : StoreMethod (SoundStoreSelection × SoundStoreResult × SoundStoreResult) := do
  let bankA ← inspectBank H .a
  let bankB ← inspectBank H .b
  return (selectSoundBanks bankA.2 bankB.2, bankA.1, bankB.1)

def scan : StoreMethod Unit := do
  refuse ((← get).updateActive = true) SoundStoreResult.busy
  modify forgetSelection
  let found ← inspectBanks H
  modify (publish found.1 found.2.1 found.2.2)
  refuse (found.1.splitBrain = true) SoundStoreResult.splitBrain

/-- `if (!scanned_)`. -/
def ensureScanned : StoreMethod Unit := do
  if (← get).scanned then pure () else scan H

/-- `ensure_scanned` and the check for a split brain. -/
def ensureSelected : StoreMethod Unit := do
  ensureScanned H
  refuse ((← get).selection.splitBrain = true) SoundStoreResult.splitBrain

def queryCurrentActive : StoreMethod SoundBankSnapshot := do
  let found ← onError (inspectBanks H) forgetSelection
  onError (refuse (found.1.splitBrain = true) SoundStoreResult.splitBrain) forgetSelection
  modify (publish found.1 found.2.1 found.2.2)
  let s ← get
  if s.updateActive = true ∧ found.1.activeValid = true ∧ found.1.active.bank = s.updateBank
      ∧ found.1.active.generation = s.updateGeneration then
    refuse (found.1.active.transactionId ≠ s.updateTransactionId ∨
      found.1.active.bundleSha256 ≠ s.updatePlan.bundleSha256)
      SoundStoreResult.transactionMismatch
    modify clearUpdateState
    return if found.1.activeValid then found.1.active else {}
  else
    return if found.1.activeValid then found.1.active else {}

/-! ## Beginning -/

/-- The generation and the bank of the update after the active one. -/
def nextTarget (selection : SoundStoreSelection) (plan : SoundBundlePlan) :
    Except SoundStoreResult (UInt64 × SoundBankId) :=
  if selection.activeValid then
    if plan.baseGeneration ≠ selection.active.generation ∨
      plan.baseBundleSha256 ≠ selection.active.bundleSha256 then .error .staleBase
    else if selection.active.generation = 0xFFFFFFFFFFFFFFFF then .error .generationExhausted
    else .ok (selection.active.generation + 1, selection.active.bank.other)
  else if plan.baseGeneration ≠ 0 ∨ digestIsZero plan.baseBundleSha256 = false then .error .staleBase
  else .ok (1, .a)

def ofExcept {α : Type} : Except SoundStoreResult α → StoreMethod α
  | .ok a => pure a
  | .error e => throw e

/-- Erasing the target bank, its commit record first. -/
def reclaimBank (target : SoundBankId) : StoreMethod Unit := do
  onError (Method.lift (erase mapIo target soundCommitOffset soundSectorSize)) forgetSelection
  modify fun s => { s with selection := s.selection.erased target }
  Method.lift (erase mapIo target 0 soundCommitOffset)
  Method.lift (verifyRegionErased target 0 soundBankSize)

/-- The header without its magic, and then the magic; each is read back. -/
def writeStagingHeader (target : SoundBankId) (header : List UInt8) : Checked Unit := do
  write (fun _ => SoundStoreResult.ioError) target 4 (header.drop 4)
  let readback ← read (fun _ => SoundStoreResult.ioError) target 4 (stagingHeaderBytes - 4)
  refuse (header.drop 4 ≠ readback) SoundStoreResult.ioError
  write (fun _ => SoundStoreResult.ioError) target 0 (header.take 4)
  let readback ← read (fun _ => SoundStoreResult.ioError) target 0 4
  refuse (header.take 4 ≠ readback) SoundStoreResult.ioError

/-- `begin_new_update` up to the transaction id. -/
def reclaimTarget (plan : SoundBundlePlan) (generation : UInt64) (target : SoundBankId) :
    StoreMethod TransactionId :=
  onError (do
      refuse ((← get).targetIsPinned target = true) SoundStoreResult.bankPinned
      reclaimBank target
      Method.lift (deriveTransactionId H plan target generation))
    fun s => { s with updateGeneration := 0 }

/-- `begin_new_update` from there on. -/
def stageUpdate (plan : SoundBundlePlan) (generation : UInt64) (target : SoundBankId)
    (transaction : TransactionId) : StoreMethod Unit := do
  modify fun s => { s with
    updatePlan := plan, updateTransactionId := transaction, payloadComplete := fun _ => false
    manifestComplete := false, updateActive := true }
  onError (do
      let header ← Method.lift (encodeStagingHeader H target generation transaction plan)
      Method.lift (writeStagingHeader target header))
    clearUpdateState

def beginNewUpdate (plan : SoundBundlePlan) : StoreMethod SoundUpdateIdentity := do
  refuse (planIsValid plan = false) SoundStoreResult.invalidArgument
  refuse ((← get).updateActive = true) SoundStoreResult.busy
  ensureSelected H
  let next ← ofExcept (nextTarget (← get).selection plan)
  modify fun s => { s with updateGeneration := next.1, updateBank := next.2 }
  let transaction ← reclaimTarget H plan next.1 next.2
  stageUpdate H plan next.1 next.2 transaction
  return { generation := next.1, targetBank := next.2, transactionId := transaction }

/-! ## Resuming -/

def verifyManifest : StoreMethod Unit := do
  let s ← get
  let manifest ← Method.lift
    (hashedRegion (fun _ => SoundStoreResult.ioError) [.crc32] s.updateBank soundManifestOffset
    s.updatePlan.manifestBytes.toNat)
  let again ← Method.lift
    (hashedRegion (fun _ => SoundStoreResult.ioError) [.sha256] s.updateBank soundManifestOffset
    s.updatePlan.manifestBytes.toNat)
  Method.lift (work (fun _ => SoundStoreResult.ioError) .sha256 s.updateBank
    soundManifestOffset sha256FinishBudgetBytes)
  refuse (H.crc32 manifest ≠ s.updatePlan.manifestCrc32) SoundStoreResult.crcMismatch
  refuse (H.sha256 again ≠ s.updatePlan.manifestSha256) SoundStoreResult.hashMismatch

/-- The checksum of a block as the plan has it. -/
def planCrc (plan : SoundBundlePlan) (blockIndex : Nat) : UInt32 :=
  plan.payloadBlockCrc32.toList.getD blockIndex 0

/-- Whether the block in flash is the one of the plan. -/
def verifyPayloadBlock (blockIndex : Nat) : StoreMethod Bool := do
  let s ← get
  let length := blockLength s.updatePlan.payloadBytes blockIndex
  refuse (length = 0) SoundStoreResult.invalidArgument
  let block ← Method.lift (hashedRegion (fun _ => SoundStoreResult.ioError) [.crc32] s.updateBank
    (soundPayloadOffset + blockIndex * soundPayloadBlockSize) length)
  return H.crc32 block = planCrc s.updatePlan blockIndex

def setPayloadComplete (blockIndex : Nat) (complete : Bool) (s : SoundAssetStore) : SoundAssetStore :=
  { s with payloadComplete := Function.update s.payloadComplete blockIndex complete }

/-- The loop at the end of `load_staging_header`. -/
def loadPayloadBlocks : List Nat → StoreMethod Unit
  | [] => pure ()
  | blockIndex :: rest => do
    match ← Method.attempt (verifyPayloadBlock H blockIndex) with
    | .ok complete =>
      modify (setPayloadComplete blockIndex complete)
      loadPayloadBlocks rest
    | .error .ioError =>
      modify clearUpdateState
      throw .ioError
    | .error _ =>
      modify (setPayloadComplete blockIndex false)
      loadPayloadBlocks rest

/-- What `verify_manifest` says of a resumed update. -/
def loadManifest : StoreMethod Unit := do
  match ← Method.attempt (verifyManifest H) with
  | .ok _ => modify fun s => { s with manifestComplete := true }
  | .error e =>
    if e = .ioError ∨ e = .unavailable ∨ e = .invalidArgument then
      modify clearUpdateState
      throw e
    else pure ()

/-- An undecodable header is one of another transaction. -/
def orMismatch (e : SoundStoreResult) : SoundStoreResult :=
  if e = .invalidStaging then .transactionMismatch else e

/-- Whether a staged update follows the selected generation. -/
def followsSelection (selection : SoundStoreSelection) (staged : Staged) : Bool :=
  if selection.activeValid then
    decide (staged.plan.baseGeneration = selection.active.generation) &&
      decide (staged.plan.baseBundleSha256 = selection.active.bundleSha256) &&
      decide (staged.generation = selection.active.generation + 1)
  else staged.plan.baseGeneration == 0 && digestIsZero staged.plan.baseBundleSha256 &&
    staged.generation == 1

def loadStagingHeader (bank : SoundBankId) (transaction : TransactionId) : StoreMethod Unit := do
  let encoded ← Method.lift
    (read (fun _ => SoundStoreResult.ioError) bank soundStagingHeaderOffset stagingHeaderBytes)
  let staged ← Method.lift (ExceptT.adapt orMismatch (decodeStagingHeader H encoded bank))
  let expected ← Method.lift (deriveTransactionId H staged.plan bank staged.generation)
  refuse (staged.transaction ≠ transaction ∨
    expected ≠ staged.transaction) SoundStoreResult.transactionMismatch
  refuse (followsSelection (← get).selection staged = false) SoundStoreResult.staleBase
  modify fun s => { s with updateActive := true, updateBank := bank, updateGeneration := staged.generation
                           updatePlan := staged.plan, updateTransactionId := staged.transaction
                           payloadComplete := fun _ => false, manifestComplete := false }
  loadManifest H
  loadPayloadBlocks H (List.range (blockCount staged.plan.payloadBytes))

def beginOrResumeUpdate (plan : SoundBundlePlan) : StoreMethod SoundUpdateIdentity := do
  refuse (planIsValid plan = false) SoundStoreResult.invalidArgument
  if (← get).updateActive then
    refuse (plan ≠ (← get).updatePlan) SoundStoreResult.busy
    return (← get).updateIdentity
  else
    ensureSelected H
    let selection := (← get).selection
    let next ← ofExcept (nextTarget selection plan)
    refuse ((← get).targetIsPinned next.2 = true) SoundStoreResult.bankPinned
    let expected ← Method.lift (deriveTransactionId H plan next.2 next.1)
    if (selection.snapshotFor next.2).valid then beginNewUpdate H plan
    else
      let encoded ← Method.lift (read mapIo next.2 soundStagingHeaderOffset stagingHeaderBytes)
      if isErased encoded then beginNewUpdate H plan
      else
        let staged ← Method.lift (decodeStagingHeader H encoded next.2)
        let observed ← Method.lift (deriveTransactionId H staged.plan next.2 staged.generation)
        refuse (observed ≠ staged.transaction) SoundStoreResult.invalidStaging
        if selection.activeValid = true ∧ staged.generation ≤ selection.active.generation then
          beginNewUpdate H plan
        else
          refuse (staged.generation ≠ next.1 ∨
            staged.transaction ≠ expected ∨ staged.plan ≠ plan) SoundStoreResult.busy
          loadStagingHeader H next.2 expected
          return (← get).updateIdentity

/-- The candidates of `resume_update` in turn. -/
def resumeFrom (transaction : TransactionId) : List SoundBankId → StoreMethod SoundUpdateIdentity
  | [] => throw .transactionMismatch
  | candidate :: rest => do
    let s ← get
    if (s.selection.snapshotFor candidate).valid ∨ s.targetIsPinned candidate then
      resumeFrom transaction rest
    else
      match ← Method.attempt (loadStagingHeader H candidate transaction) with
      | .ok _ => return (← get).updateIdentity
      | .error e =>
        if e = .transactionMismatch ∨ e = .invalidBank then resumeFrom transaction rest else throw e

def resumeUpdate (transaction : TransactionId) : StoreMethod SoundUpdateIdentity := do
  refuse (transactionIdValid transaction = false) SoundStoreResult.invalidArgument
  refuse ((← get).updateActive = true) SoundStoreResult.busy
  ensureSelected H
  resumeFrom H transaction [.a, .b]

/-- The scan of `query_transaction_outcome`, which a split brain does not stop. -/
def scanForQuery : StoreMethod Unit := do
  match ← Method.attempt (ensureScanned H) with
  | .ok _ => pure ()
  | .error e => refuse (e ≠ .splitBrain) e

def committedOutcome (snapshot : SoundBankSnapshot) (transaction : TransactionId) :
    SoundTransactionOutcome :=
  { state := .committed, identity := { generation := snapshot.generation,
                                       targetBank := snapshot.bank, transactionId := transaction }
    manifestBytes :=
      snapshot.manifestBytes, payloadBytes := snapshot.payloadBytes, bundleSha256 := snapshot.bundleSha256 }

def queryTransactionOutcome (transaction : TransactionId) : StoreMethod SoundTransactionOutcome := do
  refuse (transactionIdValid transaction = false) SoundStoreResult.invalidArgument
  let s ← get
  if s.updateActive = true ∧ s.updateTransactionId = transaction then
    return { state := .active, identity := { s.updateIdentity with transactionId := transaction }
             manifestBytes := s.updatePlan.manifestBytes, payloadBytes := s.updatePlan.payloadBytes
             bundleSha256 := s.updatePlan.bundleSha256 }
  else
    scanForQuery H
    let selection := (← get).selection
    if selection.bankA.valid = true ∧ selection.bankA.transactionId = transaction then
      return committedOutcome selection.bankA transaction
    else if selection.bankB.valid = true ∧ selection.bankB.transactionId = transaction then
      return committedOutcome selection.bankB transaction
    else return { state := .unknown, identity := { transactionId := transaction } }

/-! ## Discarding -/

/-- What is in the staging header: nothing, something undecodable, or a header that names itself or
does not. -/
inductive StagingState where
  | erased
  | invalid
  | valid (authentic : Bool)
deriving DecidableEq, Repr

def stagingState (target : SoundBankId) : Checked StagingState := do
  let encoded ← read mapIo target soundStagingHeaderOffset stagingHeaderBytes
  if isErased encoded then return .erased
  else
    match ← Io.attempt (decodeStagingHeader H encoded target) with
    | .ok staged =>
      let observed ← deriveTransactionId H staged.plan target staged.generation
      return .valid (observed = staged.transaction)
    | .error e =>
      refuse (e ≠ .invalidStaging) e
      return .invalid

def discardInvalidStaging (plan : SoundBundlePlan) : StoreMethod Unit := do
  refuse (planIsValid plan = false) SoundStoreResult.invalidArgument
  refuse ((← get).updateActive = true) SoundStoreResult.busy
  ensureSelected H
  let selection := (← get).selection
  let next ← ofExcept (nextTarget selection plan)
  refuse (selection.activeValid = true ∧ next.2 = selection.active.bank) SoundStoreResult.invalidBank
  refuse ((← get).targetIsPinned next.2 = true) SoundStoreResult.bankPinned
  refuse ((selection.snapshotFor next.2).valid = true) SoundStoreResult.busy
  match ← Method.lift (stagingState H next.2) with
  | .erased => pure ()
  | .valid true => throw .busy
  | .valid false => pure ()
  | .invalid =>
    onError (do
        Method.lift (erase mapIo next.2 0 soundBankSize)
        Method.lift (verifyRegionErased next.2 0 soundBankSize))
      forgetSelection
    let cleared := selection.erased next.2
    let reselected := selectSoundBanks cleared.bankA cleared.bankB
    modify fun s => { s with
      selection := reselected, scanned := true, readSelection := {}, readSelectionScanned := false
      readSelectionResult := .unavailable }
    refuse (reselected.splitBrain = true) SoundStoreResult.splitBrain

/-! ## Writing -/

def markManifestComplete : StoreMethod Unit := do
  Method.lift (write mapIo (← get).updateBank soundJournalOffset [0])

def markPayloadComplete (blockIndex : Nat) : StoreMethod Unit := do
  refuse (blockIndex ≥ soundPayloadBlockCount) SoundStoreResult.invalidArgument
  let target := (← get).updateBank
  let journalOffset := soundJournalOffset + 1 + blockIndex / 8
  let current ← Method.lift (read mapIo target journalOffset 1)
  Method.lift
    (write mapIo target journalOffset [getU8 current 0 &&& ~~~(1 <<< UInt8.ofNat (blockIndex % 8))])

/-- Erasing and writing the manifest; it counts as complete once it has been read back. -/
def rewriteManifest (manifest : List UInt8) : StoreMethod Unit := do
  let target := (← get).updateBank
  Method.lift (erase mapIo target soundManifestOffset soundSectorSize)
  Method.lift (write mapIo target soundManifestOffset manifest)
  verifyManifest H
  modify fun s => { s with manifestComplete := true }
  markManifestComplete

def writeManifest (manifest : List UInt8) : StoreMethod Unit := do
  let s ← get
  refuse (s.updateActive = false) SoundStoreResult.transactionMismatch
  refuse (manifest.length ≠ s.updatePlan.manifestBytes.toNat) SoundStoreResult.invalidArgument
  Method.lift (checkPieces mapIo .crc32 s.updateBank soundManifestOffset (pieces manifest.length))
  Method.lift (checkPieces mapIo .sha256 s.updateBank soundManifestOffset (pieces manifest.length))
  Method.lift (work mapIo .sha256 s.updateBank soundManifestOffset sha256FinishBudgetBytes)
  refuse (H.crc32 manifest ≠ s.updatePlan.manifestCrc32 ∨ H.sha256 manifest ≠ s.updatePlan.manifestSha256)
    SoundStoreResult.crcMismatch
  if s.manifestComplete then
    match ← Method.attempt (verifyManifest H) with
    | .ok _ => pure ()
    | .error e =>
      refuse (e ≠ .crcMismatch ∧ e ≠ .hashMismatch) e
      modify fun s => { s with manifestComplete := false }
      rewriteManifest H manifest
  else rewriteManifest H manifest

def writePayloadBlock (blockIndex : Nat) (data : List UInt8) : StoreMethod Unit := do
  let s ← get
  refuse (s.updateActive = false) SoundStoreResult.transactionMismatch
  refuse (blockIndex ≥ blockCount s.updatePlan.payloadBytes ∨
    data.length ≠ blockLength s.updatePlan.payloadBytes blockIndex)
    SoundStoreResult.invalidArgument
  let physicalOffset := soundPayloadOffset + blockIndex * soundPayloadBlockSize
  Method.lift (checkPieces mapIo .crc32 s.updateBank physicalOffset (pieces data.length))
  refuse (H.crc32 data ≠ planCrc s.updatePlan blockIndex) SoundStoreResult.crcMismatch
  if s.payloadComplete blockIndex then
    let complete ← verifyPayloadBlock H blockIndex
    if complete then pure ()
    else
      modify (setPayloadComplete blockIndex false)
      throw .crcMismatch
  else
    Method.lift (erase mapIo s.updateBank physicalOffset soundPayloadBlockSize)
    Method.lift (write mapIo s.updateBank physicalOffset data)
    let complete ← verifyPayloadBlock H blockIndex
    refuse (complete = false) SoundStoreResult.crcMismatch
    modify (setPayloadComplete blockIndex true)
    markPayloadComplete blockIndex

/-! ## Committing -/

def verifyAllPayloadBlocks : List Nat → StoreMethod Unit
  | [] => pure ()
  | blockIndex :: rest => do
    let complete ← verifyPayloadBlock H blockIndex
    modify (setPayloadComplete blockIndex complete)
    refuse (complete = false) SoundStoreResult.incomplete
    verifyAllPayloadBlocks rest

/-- The error for a part of the commit record that is not found written. -/
def writeFailure : Except SoundStoreResult Unit → SoundStoreResult
  | .ok _ => .ioError
  | .error e => e

def readBack (target : SoundBankId) (offset : Nat) (bytes : List UInt8)
    (failure : SoundStoreResult) : Checked Unit := do
  match ← Io.attempt (read mapIo target offset bytes.length) with
  | .error _ => throw failure
  | .ok stored => refuse (stored ≠ bytes) failure

/-- A part of the commit record: what counts is what is read back. -/
def writeVerified (target : SoundBankId) (offset : Nat) (bytes : List UInt8) : Checked Unit := do
  let written ← Io.attempt (write mapIo target offset bytes)
  readBack target offset bytes (writeFailure written)

def refreshSelectionAfterCommit : StoreMethod Unit := do
  let found ← inspectBanks H
  let s ← get
  refuse (found.1.activeValid = false ∨ found.1.splitBrain = true ∨ found.1.active.bank ≠ s.updateBank
      ∨ found.1.active.generation ≠ s.updateGeneration)
    (if found.1.splitBrain then SoundStoreResult.splitBrain else .invalidBank)
  modify fun s => { s with
    selection := found.1, scanned := true, readSelection := found.1, readSelectionScanned := true
    readSelectionResult := .ok }

/-- Whether a committed snapshot is the one of the update. -/
def isOfUpdate (s : SoundAssetStore) (committed : SoundBankSnapshot) : Bool :=
  committed.generation == s.updateGeneration && decide (committed.transactionId = s.updateTransactionId) &&
    decide (committed.bundleSha256 = s.updatePlan.bundleSha256)

/-- Everything the target bank has to hold before its commit record is written. -/
def verifyContent (s : SoundAssetStore) : Checked Unit := do
  let _ ← ExceptT.adapt mapFormat
    (validateSoundManifest H s.updateBank s.updatePlan.manifestBytes s.updatePlan.payloadBytes)
  let digests ← ExceptT.adapt mapFormat
    (calculateSoundBankDigests H s.updateBank s.updatePlan.manifestBytes s.updatePlan.payloadBytes)
  refuse (digests.1 ≠ s.updatePlan.manifestSha256 ∨
    digests.2 ≠ s.updatePlan.bundleSha256) SoundStoreResult.hashMismatch

def commitUpdate : StoreMethod Unit := do
  refuse ((← get).updateActive = false) SoundStoreResult.transactionMismatch
  verifyManifest H
  verifyAllPayloadBlocks H (List.range (blockCount (← get).updatePlan.payloadBytes))
  let s ← get
  Method.lift (verifyContent H s)
  let body ← Method.lift
    (encodeCommitBody H s.updateBank s.updateGeneration s.updateTransactionId s.updatePlan)
  Method.lift (writeVerified s.updateBank soundCommitOffset body)
  Method.lift (writeVerified s.updateBank (soundCommitOffset + commitMarkerOffset)
    (encodeCommitMarker (getU32 body 112)))
  let committed ← Method.lift (validateSoundBank H s.updateBank)
  refuse (s.isOfUpdate committed = false) SoundStoreResult.hashMismatch
  refreshSelectionAfterCommit H
  modify clearUpdateState

def abortUpdate : StoreMethod Unit := do
  let s ← get
  if s.updateActive then
    match ← Method.attempt (Method.lift (validateSoundBank H s.updateBank)) with
    | .ok committed =>
      refuse (s.isOfUpdate committed = false) SoundStoreResult.transactionMismatch
      refreshSelectionAfterCommit H
      modify clearUpdateState
    | .error e =>
      refuse (e = .unavailable ∨ e = .ioError) e
      Method.lift (erase mapIo s.updateBank soundStagingHeaderOffset soundSectorSize)
      modify clearUpdateState
  else pure ()

/-! ## Reading -/

/-- A candidate of the fast selection: a manifest that does not fit makes it invalid. -/
def authenticate (candidate : SoundBankSnapshot) : StoreMethod SoundBankSnapshot := do
  if candidate.valid then
    match ← Method.attempt (Method.lift (validateSoundBankReadCandidate H candidate)) with
    | .ok _ => return candidate
    | .error e =>
      refuse (failureIsNonfatal e = false) e
      return { candidate with valid := false }
  else return candidate

/-- The commit record of a bank, unless the storage itself failed. -/
def readCommit (bank : SoundBankId) : StoreMethod (SoundStoreResult × SoundBankSnapshot) := do
  match ← Method.attempt (Method.lift (decodeCommit H bank)) with
  | .ok snapshot => return (.ok, snapshot)
  | .error e =>
    refuse (failureIsNonfatal e = false) e
    return (e, { bank })

/-- The selection for reads among two commit records. -/
def arbitrate (bankA bankB : SoundBankSnapshot) : StoreMethod SoundStoreSelection := do
  let candidates := selectSoundBanks bankA bankB
  if candidates.splitBrain then
    let bankA ← authenticate H bankA
    let bankB ← authenticate H bankB
    return selectSoundBanks bankA bankB
  else if candidates.activeValid then
    match candidates.active.bank with
    | .a =>
      let active ← authenticate H bankA
      if active.valid then return selectSoundBanks active { bankB with valid := false }
      else
        let fallback ← authenticate H bankB
        return selectSoundBanks active fallback
    | .b =>
      let active ← authenticate H bankB
      if active.valid then return selectSoundBanks { bankA with valid := false } active
      else
        let fallback ← authenticate H bankA
        return selectSoundBanks fallback active
  else return candidates

def scanCommittedContent : StoreMethod Unit := do
  refuse ((← get).updateActive = true) SoundStoreResult.busy
  modify fun s =>
    { s with readSelectionScanned := false, readSelectionResult := .unavailable, readSelection := {} }
  let bankA ← readCommit H .a
  let bankB ← readCommit H .b
  if bankA.1 = .factoryBlank ∧ bankB.1 = .factoryBlank then
    modify fun s => { s with readSelectionScanned := true, readSelectionResult := .factoryBlank }
    throw .factoryBlank
  else
    let candidates ← arbitrate H bankA.2 bankB.2
    let result :
      SoundStoreResult := if candidates.splitBrain then .splitBrain else
      if candidates.activeValid then .ok else .unavailable
    modify fun s =>
      { s with readSelection := candidates, readSelectionScanned := true, readSelectionResult := result }
    refuse (result ≠ .ok) result

/-- The first id, from `candidate` on, that is not zero and that no lease has. -/
def freeLeaseId (leases : List SoundReadLease) : Nat → UInt64 → UInt64
  | 0, candidate => candidate
  | attempts + 1, candidate =>
    let candidate := if candidate = 0 then 1 else candidate
    if leases.any fun lease => lease.valid && lease.leaseId == candidate then
      freeLeaseId leases attempts (candidate + 1)
    else candidate

/-- `if (!read_selection_scanned_)`. -/
def ensureReadScanned : StoreMethod Unit := do
  if (← get).readSelectionScanned then pure () else scanCommittedContent H

def acquireActiveRead : StoreMethod SoundReadLease := do
  ensureReadScanned H
  let s ← get
  refuse (s.readSelectionResult ≠ .ok) s.readSelectionResult
  refuse (s.readSelection.activeValid = false) (if s.readSelection.splitBrain then
    SoundStoreResult.splitBrain else .unavailable)
  let slot := s.readLeases.findIdx fun lease => !lease.valid
  refuse (slot ≥ s.readLeases.length) SoundStoreResult.busy
  let candidate := freeLeaseId s.readLeases 9 s.nextReadLeaseId
  refuse (candidate = 0) SoundStoreResult.busy
  let acquired : SoundReadLease :=
    { valid := true, leaseId := candidate, bank := s.readSelection.active.bank,
      generation := s.readSelection.active.generation
      bundleSha256 := s.readSelection.active.bundleSha256 }
  set { s with readLeases := s.readLeases.set slot acquired
               nextReadLeaseId := if candidate = 0xFFFFFFFFFFFFFFFF then 1 else candidate + 1 }
  return acquired

def releaseRead (lease : SoundReadLease) : StoreMethod Unit := do
  refuse (lease.valid = false) SoundStoreResult.invalidArgument
  let s ← get
  let slot := s.readLeases.findIdx (· == lease)
  refuse (slot ≥ s.readLeases.length) SoundStoreResult.transactionMismatch
  set { s with readLeases := s.readLeases.set slot {} }

/-- A bit of the progress bitmap. -/
def progressByte (s : SoundAssetStore) (index : Nat) : UInt8 :=
  (List.range 8).foldl (fun byte bit =>
    if 8 * index + bit < blockCount s.updatePlan.payloadBytes ∧ s.payloadComplete (8 * index + bit) = true
    then byte ||| (1 <<< UInt8.ofNat bit) else byte) 0

def updateProgress (s : SoundAssetStore) : Except SoundStoreResult SoundUpdateProgress :=
  if s.updateActive then
    .ok { identity := s.updateIdentity, manifestBytes := s.updatePlan.manifestBytes,
          payloadBytes := s.updatePlan.payloadBytes
          payloadBlockCount := UInt16.ofNat (blockCount s.updatePlan.payloadBytes),
          manifestComplete := s.manifestComplete
          payloadCompleteBitmap := Vector.ofFn fun index =>
            s.progressByte index.val, bundleSha256 := s.updatePlan.bundleSha256 }
  else .error .transactionMismatch

end SoundAssetStore

end CodexKeyboard.Assets
