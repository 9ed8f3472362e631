import CodexKeyboard.Assets.Protocol
import CodexKeyboard.Assets.SoundStorage
/-!
# The sound bundle format

What a bank has to hold to be played: `validate_sound_manifest` and `calculate_sound_bank_digests`
(`features/speaker_assets/sound_asset_format.cpp`). The manifest names the resources, each with its
place in the payload and its digest, and maps triggers to them.

| here | there |
| --- | --- |
| `SoundFormatError` | `SoundFormatResult` without `Ok` (sound_asset_format.h:10) |
| `readResourceRecord`, `readMappingRecord` | sound_asset_format.cpp:170, 212 |
| `hashBankRange`, `calculateResourceDigest` | sound_asset_format.cpp:256, 337 |
| `validateEiadResource`, `validateFrames` | `validate_eiad_resource` (sound_asset_format.cpp:367) |
| `validateUniqueResourceSha` | sound_asset_format.cpp:495 |
| `mappingTargetBit`, `completeResourceMask` | sound_asset_format.cpp:516, 553 |
| `validateSoundManifest`, `calculateSoundBankDigests` | sound_asset_format.cpp:565, 702 |

Masks are natural numbers, and numbers of 32 bits are natural numbers where the source checks their
sums. Null pointers are left out.
-/

namespace CodexKeyboard.Assets

open Lib Buffer Storage

inductive SoundFormatError where
  | invalidArgument
  | ioError
  | invalidManifest
  | invalidResource
  | invalidMapping
  | hashMismatch
deriving DecidableEq, Repr

structure SoundManifestSummary where
  manifestBytes : UInt32 := 0
  payloadBytes : UInt32 := 0
  resourceCount : UInt16 := 0
  mappingCount : UInt16 := 0
deriving DecidableEq, Repr

structure ResourceRecord where
  sha256 : SoundSha256Digest := zeroDigest
  payloadOffset : UInt32 := 0
  encodedBytes : UInt32 := 0
  decodedSamples : UInt32 := 0
  frameCount : UInt16 := 0
  codec : UInt8 := 0
  channels : UInt8 := 0
deriving DecidableEq, Repr

structure MappingRecord where
  trigger : UInt8 := 0
  index : UInt8 := 0
  resourceIndex : UInt16 := 0
deriving DecidableEq, Repr

def manifestHeaderBytes : Nat := 32
def resourceRecordBytes : Nat := 48
def mappingRecordBytes : Nat := 4
def maximumBootSamples : Nat := 384000
def maximumActionSamples : Nat := 96000

/-- Any failure of the storage. -/
def formatIo (_ : SoundStorageFault) : SoundFormatError := .ioError

abbrev Format (α : Type) : Type := Storage SoundFormatError α

def checkedAdd (e : SoundFormatError) (first second : Nat) : Format Nat := do
  refuse (second > 0xFFFFFFFF - first) e
  return first + second

def bytesAreZero (bytes : List UInt8) : Bool := bytes.all (· == 0)

def manifestShapeIsValid (resourceCount mappingCount manifestBytes : Nat) : Bool :=
  resourceCount ≤ 64 && mappingCount ≤ 64 &&
    manifestHeaderBytes + resourceCount * resourceRecordBytes + mappingCount * mappingRecordBytes ==
      manifestBytes

def readResourceRecord (bank : SoundBankId) (resourceIndex : Nat) : Format ResourceRecord := do
  let encoded ← read formatIo bank
    (soundManifestOffset + (manifestHeaderBytes + resourceIndex * resourceRecordBytes)) 48
  return { sha256 := bytesAt encoded 0 32, payloadOffset := getU32 encoded 32,
           encodedBytes := getU32 encoded 36
           decodedSamples := getU32 encoded 40, frameCount := getU16 encoded 44, codec := getU8 encoded 46
           channels := getU8 encoded 47 }

def readMappingRecord (bank : SoundBankId) (resourceCount mappingIndex : Nat) : Format MappingRecord := do
  let encoded ← read formatIo bank (soundManifestOffset +
    (manifestHeaderBytes + resourceCount * resourceRecordBytes + mappingIndex * mappingRecordBytes)) 4
  return { trigger := getU8 encoded 0, index := getU8 encoded 1, resourceIndex := getU16 encoded 2 }

/-- What the hashes of a range take in; `secondary` is whether a second hash takes it too. -/
def hashBankRange (bank : SoundBankId) (offset length : Nat) (secondary : Bool) : Format (List UInt8) :=
  hashedRegion formatIo (if secondary then [.sha256, .sha256] else [.sha256]) bank offset length

def finishHash (H : Hashes) (bank : SoundBankId) (offset : Nat) (message : List UInt8) :
    Format SoundSha256Digest := do
  work formatIo .sha256 bank offset sha256FinishBudgetBytes
  return H.sha256 message

def calculateResourceDigest (H : Hashes) (bank : SoundBankId) (record : ResourceRecord) :
    Format SoundSha256Digest := do
  let resourceOffset ← checkedAdd .invalidResource soundPayloadOffset record.payloadOffset.toNat
  let message ← hashBankRange bank resourceOffset record.encodedBytes.toNat false
  finishHash H bank resourceOffset message

/-- The checks on one frame; the cursor and the samples behind it. -/
def validateFrame (bank : SoundBankId) (record : ResourceRecord)
    (resourceOffset frameIndex cursor observedSamples : Nat) :
    Format (Nat × Nat) := do
  let encodedBytes := record.encodedBytes.toNat
  refuse (cursor > encodedBytes ∨ 6 > encodedBytes - cursor) SoundFormatError.invalidResource
  let frameOffset ← checkedAdd .invalidResource resourceOffset cursor
  let frameHeader ← read formatIo bank frameOffset 6
  let sampleCount := (getU16 frameHeader 0).toNat
  let expectedSamples :=
    if frameIndex + 1 = record.frameCount.toNat then record.decodedSamples.toNat - observedSamples else 480
  refuse (sampleCount = 0 ∨ sampleCount > 480 ∨ sampleCount ≠ expectedSamples ∨ getU8 frameHeader 4 ≥ 89
    ∨ getU8 frameHeader 5 ≠ 0) SoundFormatError.invalidResource
  let cursor ← checkedAdd .invalidResource cursor 6
  let encodedSampleBytes := sampleCount / 2
  refuse (cursor > encodedBytes ∨
    encodedSampleBytes > encodedBytes - cursor) SoundFormatError.invalidResource
  if sampleCount % 2 = 0 ∧ encodedSampleBytes ≠ 0 then
    let finalPayloadByte ← checkedAdd .invalidResource cursor (encodedSampleBytes - 1)
    let paddingOffset ← checkedAdd .invalidResource resourceOffset finalPayloadByte
    let padding ← read formatIo bank paddingOffset 1
    refuse (getU8 padding 0 &&& 0xF0 ≠ 0) SoundFormatError.invalidResource
    let cursor ← checkedAdd .invalidResource cursor encodedSampleBytes
    let observedSamples ← checkedAdd .invalidResource observedSamples sampleCount
    pure (cursor, observedSamples)
  else
    let cursor ← checkedAdd .invalidResource cursor encodedSampleBytes
    let observedSamples ← checkedAdd .invalidResource observedSamples sampleCount
    pure (cursor, observedSamples)

def validateFrames (bank : SoundBankId) (record : ResourceRecord) (resourceOffset : Nat) :
    List Nat → Nat × Nat → Format (Nat × Nat)
  | [], at_ => pure at_
  | frameIndex :: rest, at_ => do
    let at_ ← validateFrame bank record resourceOffset frameIndex at_.1 at_.2
    validateFrames bank record resourceOffset rest at_

def validateEiadResource (bank : SoundBankId) (record : ResourceRecord) : Format Unit := do
  refuse (record.encodedBytes.toNat < 20 ∨ record.decodedSamples = 0 ∨
    record.decodedSamples.toNat > maximumBootSamples
    ∨ record.frameCount = 0 ∨ record.frameCount.toNat ≠ 1 + (record.decodedSamples.toNat - 1) / 480 ∨
    record.codec ≠ 1
    ∨ record.channels ≠ 1) SoundFormatError.invalidResource
  let resourceOffset ← checkedAdd .invalidResource soundPayloadOffset record.payloadOffset.toNat
  let header ← read formatIo bank resourceOffset 20
  refuse (slice header 0 4 ≠ magic "EIAD" ∨ getU8 header 4 ≠ 1 ∨
    getU8 header 5 ≠ 1 ∨ getU32 header 6 ≠ 48000
    ∨ getU16 header 10 ≠ 480 ∨ getU16 header 12 ≠ record.frameCount ∨
    getU32 header 14 ≠ record.decodedSamples
    ∨ getU16 header 18 ≠ 20) SoundFormatError.invalidResource
  let at_ ← validateFrames bank record resourceOffset (List.range record.frameCount.toNat) (20, 0)
  refuse (¬ (at_.1 = record.encodedBytes.toNat ∧ at_.2 = record.decodedSamples.toNat))
    SoundFormatError.invalidResource

def validateUniqueResourceSha (bank : SoundBankId) (digest : SoundSha256Digest)
    (resourceIndex : Nat) : Format Unit :=
  (List.range resourceIndex).forM fun previousIndex => do
    let previous ← readResourceRecord bank previousIndex
    refuse (previous.sha256 = digest) SoundFormatError.invalidResource

/-- The bit of the trigger of a mapping. -/
def mappingTargetBit (mapping : MappingRecord) : Option Nat :=
  if mapping.trigger = 1 then if mapping.index ≠ 0 then none else some (1 <<< 0)
  else if mapping.trigger = 2 then
    if mapping.index.toNat < 1 ∨ mapping.index.toNat > 8 then none else some (1 <<< mapping.index.toNat)
  else if mapping.trigger = 3 ∨ mapping.trigger = 4 ∨ mapping.trigger = 5 then
    if mapping.index ≠ 0 then none else some (1 <<< (9 + mapping.trigger.toNat - 3))
  else none

def completeResourceMask (resourceCount : Nat) : Nat := (1 <<< resourceCount) - 1

/-- The checks on one resource; where the next one starts. -/
def validateResource (H : Hashes) (bank : SoundBankId)
    (payloadBytes expectedPayloadOffset resourceIndex : Nat) : Format Nat := do
  let resource ← readResourceRecord bank resourceIndex
  refuse (resource.payloadOffset.toNat ≠ expectedPayloadOffset ∨ resource.encodedBytes = 0
    ∨ resource.payloadOffset.toNat > payloadBytes
    ∨ resource.encodedBytes.toNat > payloadBytes - resource.payloadOffset.toNat)
      SoundFormatError.invalidResource
  let next ← checkedAdd .invalidResource resource.payloadOffset.toNat resource.encodedBytes.toNat
  validateUniqueResourceSha bank resource.sha256 resourceIndex
  validateEiadResource bank resource
  let observedDigest ← calculateResourceDigest H bank resource
  refuse (resource.sha256 ≠ observedDigest) SoundFormatError.hashMismatch
  return next

def validateResources (H : Hashes) (bank : SoundBankId) (payloadBytes : Nat) : List Nat → Nat → Format Nat
  | [], expectedPayloadOffset => pure expectedPayloadOffset
  | resourceIndex :: rest, expectedPayloadOffset => do
    let next ← validateResource H bank payloadBytes expectedPayloadOffset resourceIndex
    validateResources H bank payloadBytes rest next

/-- The checks on one mapping; the triggers and the resources seen so far. -/
def validateMapping (bank : SoundBankId) (resourceCount mappingIndex : Nat) (seen : Nat × Nat) :
    Format (Nat × Nat) := do
  let mapping ← readMappingRecord bank resourceCount mappingIndex
  match mappingTargetBit mapping with
  | none => throw .invalidMapping
  | some targetBit =>
    refuse (seen.1 &&& targetBit ≠ 0 ∨
      mapping.resourceIndex.toNat ≥ resourceCount) SoundFormatError.invalidMapping
    let referenced ← readResourceRecord bank mapping.resourceIndex.toNat
    let sampleLimit := if mapping.trigger = 1 then maximumBootSamples else maximumActionSamples
    refuse (referenced.decodedSamples.toNat > sampleLimit) SoundFormatError.invalidMapping
    return (seen.1 ||| targetBit, seen.2 ||| 1 <<< mapping.resourceIndex.toNat)

def validateMappings (bank : SoundBankId) (resourceCount : Nat) : List Nat → Nat × Nat → Format (Nat × Nat)
  | [], seen => pure seen
  | mappingIndex :: rest, seen => do
    let seen ← validateMapping bank resourceCount mappingIndex seen
    validateMappings bank resourceCount rest seen

def validateSoundManifest (H : Hashes) (bank : SoundBankId) (manifestBytes payloadBytes : UInt32) :
    Format SoundManifestSummary := do
  refuse (manifestBytes.toNat < manifestHeaderBytes ∨ manifestBytes.toNat > soundSectorSize
    ∨ payloadBytes.toNat > soundPayloadMaxSize) SoundFormatError.invalidArgument
  let header ← read formatIo bank soundManifestOffset 32
  let resourceCount := getU16 header 16
  let mappingCount := getU16 header 18
  refuse (slice header 0 4 ≠ magic "EISM" ∨ getU16 header 4 ≠ 1 ∨ getU16 header 6 ≠ 32 ∨
    getU32 header 8 ≠ manifestBytes
    ∨ getU32 header 12 ≠ payloadBytes ∨ bytesAreZero (slice header 20 12) = false
    ∨ manifestShapeIsValid resourceCount.toNat mappingCount.toNat manifestBytes.toNat =
      false) SoundFormatError.invalidManifest
  let expectedPayloadOffset ← validateResources H bank payloadBytes.toNat (List.range resourceCount.toNat) 0
  refuse (expectedPayloadOffset ≠ payloadBytes.toNat) SoundFormatError.invalidResource
  let seen ← validateMappings bank resourceCount.toNat (List.range mappingCount.toNat) (0, 0)
  refuse (seen.2 ≠ completeResourceMask resourceCount.toNat) SoundFormatError.invalidMapping
  return { manifestBytes, payloadBytes, resourceCount, mappingCount }

/-- The manifest digest and the bundle digest. -/
def calculateSoundBankDigests (H : Hashes) (bank : SoundBankId) (manifestBytes payloadBytes : UInt32) :
    Format (SoundSha256Digest × SoundSha256Digest) := do
  refuse (manifestBytes.toNat < manifestHeaderBytes ∨ manifestBytes.toNat > soundSectorSize
    ∨ payloadBytes.toNat > soundPayloadMaxSize) SoundFormatError.invalidArgument
  let bundlePrefix := magic "EASYINPUT-SND-V1" ++ toLe 4 manifestBytes.toNat
  work formatIo .sha256 bank soundManifestOffset bundlePrefix.length
  let manifest ← hashBankRange bank soundManifestOffset manifestBytes.toNat true
  let manifestDigest ← finishHash H bank soundManifestOffset manifest
  work formatIo .sha256 bank soundPayloadOffset 4
  let payload ← hashBankRange bank soundPayloadOffset payloadBytes.toNat false
  let bundleDigest ← finishHash H bank soundPayloadOffset
    (bundlePrefix ++ manifest ++ toLe 4 payloadBytes.toNat ++ payload)
  return (manifestDigest, bundleDigest)

/-! ## What the validator reads -/

section Observing
variable {evident : Flash → Flash → Prop} {bank : SoundBankId} {H : Hashes}

/-- A failed read is an I/O error, and nothing below the manifest is read. -/
abbrev ReadsBundle {α : Type} (evident : Flash → Flash → Prop) (bank : SoundBankId) (x : Format α) : Prop :=
  Observing evident bank soundManifestOffset (· = .ioError) x

theorem formatIo_faulty :
    ∀ e, Faulty e → (fun error => error = SoundFormatError.ioError) (formatIo e) := fun _ _ => rfl

theorem readsBundle_read {offset : Nat} (h : soundManifestOffset ≤ offset) (n : Nat) :
    ReadsBundle evident bank (read formatIo bank offset n) := observing_read formatIo_faulty h n

theorem readsBundle_work (offset n : Nat) :
    ReadsBundle evident bank (work formatIo .sha256 bank offset n) :=
  observing_work formatIo_faulty _ _ _ _

/-- A sum is no less than its first summand. -/
theorem readsBundle_checkedAdd {α : Type} {e : SoundFormatError} {first second low : Nat}
    {f : Nat → Format α} (h : low ≤ first)
    (hf : ∀ sum, low ≤ sum → ReadsBundle evident bank (f sum)) :
    ReadsBundle evident bank (checkedAdd e first second >>= f) := by
  by_cases hover : second > 0xFFFFFFFF - first
  · have hfail : (checkedAdd e first second >>= f) = throw e := by
      simp only [checkedAdd, refuse, if_pos hover]
      rfl
    rw [hfail]
    exact observes_throw e
  · have hsum : (checkedAdd e first second >>= f) = f (first + second) := by
      simp only [checkedAdd, refuse, if_neg hover]
      rfl
    rw [hsum]
    exact hf _ (h.trans (Nat.le_add_right ..))

theorem readsBundle_readResourceRecord (index : Nat) :
    ReadsBundle evident bank (readResourceRecord bank index) :=
  observes_bind (readsBundle_read (Nat.le_add_right ..) _) fun _ => observes_pure _

theorem readsBundle_readMappingRecord (count index : Nat) :
    ReadsBundle evident bank (readMappingRecord bank count index) :=
  observes_bind (readsBundle_read (Nat.le_add_right ..) _) fun _ => observes_pure _

theorem readsBundle_hashBankRange {offset : Nat} (h : soundManifestOffset ≤ offset) (n : Nat)
    (secondary : Bool) :
    ReadsBundle evident bank (hashBankRange bank offset n secondary) :=
  observing_hashedRegion formatIo_faulty _ h n

theorem readsBundle_finishHash (offset : Nat) (message : List UInt8) :
    ReadsBundle evident bank (finishHash H bank offset message) :=
  observes_bind (readsBundle_work _ _) fun _ => observes_pure _

theorem readsBundle_calculateResourceDigest (record : ResourceRecord) :
    ReadsBundle evident bank (calculateResourceDigest H bank record) := by
  refine readsBundle_checkedAdd (show soundManifestOffset ≤ soundPayloadOffset by decide)
    fun offset hoffset => ?_
  exact observes_bind (readsBundle_hashBankRange hoffset _ _) fun message =>
    readsBundle_finishHash offset message

theorem readsBundle_validateFrame (record : ResourceRecord) {resourceOffset : Nat}
    (h : soundManifestOffset ≤ resourceOffset)
    (frameIndex cursor observed : Nat) :
    ReadsBundle evident bank (validateFrame bank record resourceOffset frameIndex cursor observed) := by
  refine observes_bind (observes_refuse _ _) fun _ => ?_
  refine readsBundle_checkedAdd h fun frameOffset hframe => ?_
  refine observes_bind (readsBundle_read hframe _) fun header => ?_
  refine observes_bind (observes_refuse _ _) fun _ => ?_
  refine readsBundle_checkedAdd (Nat.zero_le cursor) fun cursor _ => ?_
  refine observes_bind (observes_refuse _ _) fun _ => ?_
  refine observes_ite ?_ ?_
  · refine readsBundle_checkedAdd (Nat.zero_le cursor) fun last _ => ?_
    refine readsBundle_checkedAdd h fun padding hpadding => ?_
    refine observes_bind (readsBundle_read hpadding _) fun byte => ?_
    refine observes_bind (observes_refuse _ _) fun _ => ?_
    refine readsBundle_checkedAdd (Nat.zero_le cursor) fun cursor _ => ?_
    exact readsBundle_checkedAdd (Nat.zero_le observed) fun observed _ => observes_pure _
  · refine readsBundle_checkedAdd (Nat.zero_le cursor) fun cursor _ => ?_
    exact readsBundle_checkedAdd (Nat.zero_le observed) fun observed _ => observes_pure _

theorem readsBundle_validateFrames (record : ResourceRecord) {resourceOffset : Nat}
    (h : soundManifestOffset ≤ resourceOffset)
    (frames : List Nat) (start : Nat × Nat) :
    ReadsBundle evident bank (validateFrames bank record resourceOffset frames start) := by
  induction frames generalizing start with
  | nil => exact observes_pure start
  | cons frame frames ih =>
    exact observes_bind (readsBundle_validateFrame record h frame _ _) fun next => ih next

theorem readsBundle_validateEiadResource (record : ResourceRecord) :
    ReadsBundle evident bank (validateEiadResource bank record) := by
  refine observes_bind (observes_refuse _ _) fun _ => ?_
  refine readsBundle_checkedAdd (show soundManifestOffset ≤ soundPayloadOffset by decide)
    fun offset hoffset => ?_
  refine observes_bind (readsBundle_read hoffset _) fun header => ?_
  refine observes_bind (observes_refuse _ _) fun _ => ?_
  exact observes_bind (readsBundle_validateFrames record hoffset _ _) fun _ => observes_refuse _ _

theorem readsBundle_validateUniqueResourceSha (digest : SoundSha256Digest) (index : Nat) :
    ReadsBundle evident bank (validateUniqueResourceSha bank digest index) :=
  observes_forM (fun previous => observes_bind (readsBundle_readResourceRecord previous) fun _ =>
    observes_refuse _ _) _

theorem readsBundle_validateResources (payloadBytes : Nat) (indexes : List Nat) (expected : Nat) :
    ReadsBundle evident bank (validateResources H bank payloadBytes indexes expected) := by
  induction indexes generalizing expected with
  | nil => exact observes_pure expected
  | cons index indexes ih =>
    refine observes_bind ?_ fun next => ih next
    refine observes_bind (readsBundle_readResourceRecord index) fun resource => ?_
    refine observes_bind (observes_refuse _ _) fun _ => ?_
    refine readsBundle_checkedAdd (Nat.zero_le _) fun next _ => ?_
    refine observes_bind (readsBundle_validateUniqueResourceSha _ _) fun _ => ?_
    refine observes_bind (readsBundle_validateEiadResource resource) fun _ => ?_
    refine observes_bind (readsBundle_calculateResourceDigest resource) fun digest => ?_
    exact observes_bind (observes_refuse _ _) fun _ => observes_pure next

theorem readsBundle_validateMapping (count index : Nat) (seen : Nat × Nat) :
    ReadsBundle evident bank (validateMapping bank count index seen) := by
  refine observes_bind (readsBundle_readMappingRecord count index) fun mapping => ?_
  split
  · exact observes_throw _
  · refine observes_bind (observes_refuse _ _) fun _ => ?_
    refine observes_bind (readsBundle_readResourceRecord _) fun referenced => ?_
    exact observes_bind (observes_refuse _ _) fun _ => observes_pure _

theorem readsBundle_validateMappings (count : Nat) (indexes : List Nat) (seen : Nat × Nat) :
    ReadsBundle evident bank (validateMappings bank count indexes seen) := by
  induction indexes generalizing seen with
  | nil => exact observes_pure seen
  | cons index indexes ih =>
    exact observes_bind (readsBundle_validateMapping count index seen) fun next => ih next

theorem readsBundle_validateSoundManifest (manifestBytes payloadBytes : UInt32) :
    ReadsBundle evident bank (validateSoundManifest H bank manifestBytes payloadBytes) := by
  refine observes_bind (observes_refuse _ _) fun _ => ?_
  refine observes_bind (readsBundle_read (Nat.le_refl _) _) fun header => ?_
  refine observes_bind (observes_refuse _ _) fun _ => ?_
  refine observes_bind (readsBundle_validateResources _ _ _) fun expected => ?_
  refine observes_bind (observes_refuse _ _) fun _ => ?_
  refine observes_bind (readsBundle_validateMappings _ _ _) fun seen => ?_
  exact observes_bind (observes_refuse _ _) fun _ => observes_pure _

theorem readsBundle_calculateSoundBankDigests (manifestBytes payloadBytes : UInt32) :
    ReadsBundle evident bank (calculateSoundBankDigests H bank manifestBytes payloadBytes) := by
  refine observes_bind (observes_refuse _ _) fun _ => ?_
  refine observes_bind (readsBundle_work _ _) fun _ => ?_
  refine observes_bind (readsBundle_hashBankRange (Nat.le_refl _) _ _) fun manifest => ?_
  refine observes_bind (readsBundle_finishHash _ _) fun manifestDigest => ?_
  refine observes_bind (readsBundle_work _ _) fun _ => ?_
  refine observes_bind (readsBundle_hashBankRange (show soundManifestOffset ≤ soundPayloadOffset by
    decide) _ _) fun payload => ?_
  exact observes_bind (readsBundle_finishHash _ _) fun bundleDigest => observes_pure _

end Observing

end CodexKeyboard.Assets
