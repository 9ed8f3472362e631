import CodexKeyboard.Assets.Codecs
import CodexKeyboard.Assets.StoreRecords
/-!
# The records of the store, both ways

A staging header that decodes is the image of what it decodes to, and the image of an update decodes
to the update; the same holds for the commit record as it stands in flash, its body and its marker
together.
-/

namespace CodexKeyboard.Assets.SoundAssetStore

open Lib Buffer Storage

variable {H : Hashes} {bank : SoundBankId} {s : Flash}

theorem zeros_of_bytesAreZero {bytes : List UInt8} {n : Nat} (hlength : bytes.length = n) :
    bytesAreZero bytes = true ↔ bytes = List.replicate n 0 := by
  rw [bytesAreZero, List.all_eq_true, List.eq_replicate_iff, and_iff_right hlength]
  exact forall₂_congr fun byte _ => beq_iff_eq

/-! ## The staging header -/

/-- What a decoder lets pass. -/
def Staged.Valid (staged : Staged) : Prop :=
  staged.generation ≠ 0 ∧ transactionIdValid staged.transaction = true ∧ planIsValid staged.plan = true

def Staged.image (H : Hashes) (bank : SoundBankId) (staged : Staged) : List UInt8 :=
  stagingHeader H bank staged.generation staged.transaction staged.plan

/-- The widths of the fields before the checksum, gaps included. -/
def stagingWidths : List Nat := [4, 2, 2, 1, 7, 8, 8, 16, 4, 4, 4, 2, 2, 4, 4, 32, 32, 32, 512, 20]

theorem length_magic_eish : (magic "EISH").length = 4 := by decide

theorem length_stagingFields (bank : SoundBankId) (generation : UInt64) (transaction : TransactionId)
    (plan : SoundBundlePlan) :
    (stagingFields bank generation transaction plan).length = 704 := by
  simp only [stagingFields, length_put, length_putU8, length_putU16,
    length_putU32, length_putU64, List.length_replicate]
  rfl

theorem fields_stagingFields (bank : SoundBankId) (generation : UInt64) (transaction : TransactionId)
    (plan : SoundBundlePlan) :
    fields (stagingFields bank generation transaction plan) 0 stagingWidths =
      [magic "EISH", toLe 2 1, toLe 2 704, [bank.code], List.replicate 7 0, toLe 8 generation.toNat,
        toLe 8 plan.baseGeneration.toNat, transaction.toList, toLe 4 plan.manifestBytes.toNat,
          toLe 4 plan.payloadBytes.toNat,
        toLe 4 4096, toLe 2 (UInt16.ofNat (blockCount plan.payloadBytes)).toNat, List.replicate 2 0,
        toLe 4 plan.manifestCrc32.toNat, List.replicate 4 0, plan.baseBundleSha256.toList,
          plan.manifestSha256.toList,
        plan.bundleSha256.toList, wordBytes plan.payloadBlockCrc32.toList, List.replicate 20 0] := by
  have hwords :
    ∀ words : List UInt32, (words.flatMap fun crc => toLe 4 crc.toNat) = wordBytes words := fun _ => rfl
  simp (disch := simp [-List.reduceReplicate, stagingHeaderBytes, length_magic_eish, length_wordBytes]) only
    [stagingFields, stagingWidths, fields, putU8, putU16, putU32,
      putU64, slice_put_self, slice_put_of_disjoint,
    hwords, Nat.reduceAdd]
  rw [slice_replicate (show 9 + 7 ≤ stagingHeaderBytes by decide),
    slice_replicate (show 62 + 2 ≤ stagingHeaderBytes by decide),
    slice_replicate (show 68 + 4 ≤ stagingHeaderBytes by decide),
      slice_replicate (show 680 + 20 ≤ stagingHeaderBytes by decide)]
  rfl

/-- What the fields of a header say. -/
def stagedAt (encoded : List UInt8) : Staged :=
  { generation := getU64 encoded 16, transaction := bytesAt encoded 32 16, plan := stagedPlan encoded }

/-- The fields that do not depend on the update. -/
def StagingConstants (encoded : List UInt8) (bank : SoundBankId) : Prop :=
  slice encoded 0 4 = magic "EISH" ∧ getU16 encoded 4 = 1 ∧ getU16 encoded 6 = 704 ∧
  getU8 encoded 8 = bank.code ∧
    slice encoded 9 7 = List.replicate 7 0 ∧ getU32 encoded 56 = 4096 ∧ getU16 encoded 62 = 0 ∧
    getU32 encoded 68 = 0 ∧
    slice encoded 680 20 = List.replicate 20 0

theorem eval_decodeStagingHeader {encoded : List UInt8} {staged : Staged} (hlength : encoded.length = 704) :
    (decodeStagingHeader H encoded bank).eval (faultless s) = .ok staged ↔
      StagingConstants encoded bank ∧ getU32 encoded 700 = H.crc32 (encoded.take 700) ∧
      (stagedAt encoded).Valid ∧
        (getU16 encoded 60).toNat = blockCount (stagedAt encoded).plan.payloadBytes ∧
          stagedAt encoded = staged := by
  have hgap : bytesAreZero (slice encoded 9 7) = true ↔ slice encoded 9 7 = List.replicate 7 0 :=
    zeros_of_bytesAreZero (by rw [length_slice, hlength]; rfl)
  have htail : bytesAreZero (slice encoded 680 20) = true ↔ slice encoded 680 20 = List.replicate 20 0 :=
    zeros_of_bytesAreZero (by rw [length_slice, hlength]; rfl)
  unfold decodeStagingHeader
  rw [Io.eval_refuse_bind_eq_ok]
  refine and_congr ?_ ?_
  · rw [StagingConstants, ← hgap, ← htail]
    simp only [not_or, not_not, Bool.not_eq_false, storageVersion]
  · show Io.eval _ (_ >>= fun _ => _) = _ ↔ _
    rw [Io.eval_bind, eval_checkPieces, Except.bind, Io.eval_refuse_bind_eq_ok, not_not]
    refine and_congr_right fun _ => ?_
    rw [Io.eval_refuse_bind_eq_ok]
    simp only [not_or, not_not, Bool.not_eq_false, Io.eval_pure, Except.ok.injEq,
      and_assoc, Staged.Valid, stagedAt, ne_eq]

/-- The fields of a header that decodes are those of the image of what it says. -/
theorem fields_stagedAt {encoded : List UInt8} (hlength : encoded.length = 704)
    (hconstants : StagingConstants encoded bank)
    (hcount : (getU16 encoded 60).toNat = blockCount (stagedAt encoded).plan.payloadBytes) :
    fields encoded 0 stagingWidths = fields
      (stagingFields bank (stagedAt encoded).generation (stagedAt encoded).transaction
        (stagedAt encoded).plan) 0 stagingWidths := by
  obtain ⟨hmagic, hversion, hsize, hbank, hgap, hblock, hzero, hzero', htail⟩ := hconstants
  have hversions := @toLe_getU16 encoded 4 (by omega)
  have hsizes := @toLe_getU16 encoded 6 (by omega)
  have hbanks := @slice_eq_getU8 encoded 8 (by omega)
  have hblocks := @toLe_getU32 encoded 56 (by omega)
  have hcounts := @toLe_getU16 encoded 60 (by omega)
  have hzeros := @toLe_getU16 encoded 62 (by omega)
  have hzeros' := @toLe_getU32 encoded 68 (by omega)
  have hwords := @wordBytes_ofFn encoded 168 128 (by omega)
  have hcountOf : UInt16.ofNat (blockCount (stagedAt encoded).plan.payloadBytes) = getU16 encoded 60 := by
    rw [← hcount, UInt16.ofNat_toNat]
  rw [hversion] at hversions
  rw [hsize] at hsizes
  rw [hbank] at hbanks
  rw [hblock] at hblocks
  rw [hzero] at hzeros
  rw [hzero'] at hzeros'
  rw [fields_stagingFields, hcountOf, hcounts]
  simp (disch := omega) only [stagingWidths, fields, stagedAt, stagedPlan, hmagic, hgap, htail,
    ← hversions, ← hsizes, hbanks, ← hblocks,
    ← hzeros, ← hzeros', toLe_getU32, toLe_getU64, toList_bytesAt, Vector.toList_ofFn, hwords,
      Nat.reduceAdd, Nat.reduceMul]
  rfl

theorem stagedAt_image {encoded : List UInt8} {staged : Staged} (hlength : encoded.length = 704)
    (hfields : fields encoded 0 stagingWidths =
      fields (stagingFields bank staged.generation staged.transaction staged.plan) 0 stagingWidths) :
    stagedAt encoded = staged := by
  rw [fields_stagingFields] at hfields
  simp only [stagingWidths, fields, List.cons.injEq, and_true, Nat.reduceAdd] at hfields
  obtain ⟨-, -, -, -, -, hgeneration, hbase, htransaction, hmanifest, hpayload, -, -,
    -, hcrc, -, hbases, hmanifests, hbundle,
    hwords, -⟩ := hfields
  have hbytes {n : Nat} {bytes : Vector UInt8 n} {offset : Nat} (hoffset : offset + n ≤ 704)
      (h : slice encoded offset n = bytes.toList) : bytesAt encoded offset n = bytes :=
    Vector.toList_inj.mp ((toList_bytesAt (by omega)).trans h)
  have htable :
    (Vector.ofFn fun i : Fin 128 => getU32 encoded (168 + i.val * 4)) = staged.plan.payloadBlockCrc32 := by
    refine Vector.toList_inj.mp (wordBytes_inj (by simp) ?_)
    rw [Vector.toList_ofFn, wordBytes_ofFn (by omega), ← hwords]
  rw [stagedAt, stagedPlan, getU64_of_slice hgeneration, hbytes (by omega) htransaction,
    getU64_of_slice hbase, hbytes (by omega) hbases,
    getU32_of_slice hmanifest, getU32_of_slice hpayload, getU32_of_slice hcrc, hbytes (by omega) hmanifests,
    hbytes (by omega) hbundle, htable]

theorem planIsValid_sizes {plan : SoundBundlePlan} (h : planIsValid plan = true) :
    plan.manifestBytes.toNat ≤ soundSectorSize ∧ plan.payloadBytes.toNat ≤ soundPayloadMaxSize := by
  simp only [planIsValid, Bool.and_eq_true, decide_eq_true_eq] at h
  exact ⟨h.1.1.1.1.1.2, h.1.1.1.1.2⟩

theorem blockCount_le {plan : SoundBundlePlan} (h : planIsValid plan = true) :
    blockCount plan.payloadBytes ≤ 128 := by
  have hbytes := (planIsValid_sizes h).2
  simp only [blockCount, soundPayloadBlockSize, soundSectorSize, soundPayloadMaxSize] at *
  omega

/-- A block ends with the payload at the latest. -/
theorem blockLength_end {payloadBytes : UInt32} {blockIndex : Nat}
    (h : blockIndex < blockCount payloadBytes) :
    blockIndex * soundPayloadBlockSize + blockLength payloadBytes blockIndex ≤ payloadBytes.toNat := by
  simp only [blockCount, blockLength, soundPayloadBlockSize, soundSectorSize] at *
  omega

theorem blockLength_le (payloadBytes : UInt32) (blockIndex : Nat) :
    blockLength payloadBytes blockIndex ≤ soundPayloadBlockSize :=
  Nat.min_le_left _ _

theorem length_image (staged : Staged) : (staged.image H bank).length = 704 := by
  rw [Staged.image, stagingHeader, length_putU32, length_stagingFields]

theorem take_image (staged : Staged) :
    (staged.image H bank).take 700 =
      (stagingFields bank staged.generation staged.transaction staged.plan).take 700 :=
  take_put_of_le (Nat.le_refl 700)

theorem crc_image (staged : Staged) :
    slice (staged.image H bank) 700 4 = toLe 4 (H.crc32 ((staged.image H bank).take 700)).toNat := by
  rw [take_image]
  exact slice_put_self (length_toLe ..) (by rw [length_stagingFields])

/-- What the fields of the image of an update say. -/
theorem fields_image (staged : Staged) : fields (staged.image H bank) 0 stagingWidths =
    fields (stagingFields bank staged.generation staged.transaction staged.plan) 0 stagingWidths := by
  have hread (offset n : Nat) (h : offset + n ≤ 700) : slice (staged.image H bank) offset n =
      slice (stagingFields bank staged.generation staged.transaction staged.plan) offset n := by
    rw [← slice_take _ h, take_image, slice_take _ h]
  simp (disch := omega) only [stagingWidths, fields, hread, Nat.reduceAdd]

theorem image_inj {left right : Staged} (h : left.image H bank = right.image H bank) : left = right := by
  rw [← stagedAt_image (length_image left) (fields_image left), h,
    stagedAt_image (length_image right) (fields_image right)]

/-- A header decodes to an update exactly when it is the image of that update. -/
theorem decodeStagingHeader_eq_ok {encoded : List UInt8} {staged : Staged}
    (hlength : encoded.length = 704) :
    (decodeStagingHeader H encoded bank).eval (faultless s) = .ok staged ↔ staged.Valid ∧
      encoded = staged.image H bank := by
  rw [eval_decodeStagingHeader hlength]
  constructor
  · rintro ⟨hconstants, hcrc, hvalid, hcount, rfl⟩
    have hflat := congrArg List.flatten (fields_stagedAt hlength hconstants hcount)
    have hsum : stagingWidths.sum = 700 := rfl
    rw [flatten_fields, flatten_fields, hsum, slice, slice, List.drop_zero, List.drop_zero] at hflat
    refine ⟨hvalid, eq_of_fields [700, 4] hlength.le (length_image _).le ?_⟩
    simp only [fields, Nat.reduceAdd]
    have hstart : ∀ bytes, slice bytes 0 700 = bytes.take 700 := fun bytes => rfl
    rw [hstart, hstart, crc_image, take_image, ← hflat, ← hcrc, toLe_getU32 (by omega)]
  · rintro ⟨hvalid, rfl⟩
    have himage := stagedAt_image hlength (fields_image staged)
    have hfields := @fields_image H bank staged
    rw [fields_stagingFields] at hfields
    simp only [stagingWidths, fields, List.cons.injEq, and_true, Nat.reduceAdd] at hfields
    obtain ⟨hmagic, hversion, hsize, hbank, hgap, -, -, -, -, -, hblock,
      hcount, hzero, -, hzero', -, -, -, -, htail⟩ := hfields
    have hversions : getU16 (staged.image H bank) 4 = 1 := getU16_of_slice hversion
    have hsizes : getU16 (staged.image H bank) 6 = 704 := getU16_of_slice hsize
    have hblocks : getU32 (staged.image H bank) 56 = 4096 := getU32_of_slice hblock
    have hzeros : getU16 (staged.image H bank) 62 = 0 := getU16_of_slice hzero
    have hzeros' : getU32 (staged.image H bank) 68 = 0 := getU32_of_slice hzero'
    have hcounts := blockCount_le hvalid.2.2
    refine ⟨⟨hmagic, hversions, hsizes, getU8_of_slice hbank, hgap, hblocks, hzeros, hzeros', htail⟩,
      getU32_of_slice (crc_image staged), himage.symm ▸ hvalid, ?_, himage⟩
    rw [himage, getU16_of_slice hcount, UInt16.toNat_ofNat_of_lt' (show _ < 65536 by omega)]

/-! ## The commit record -/

/-- What a snapshot that the decoder lets pass satisfies. -/
structure Committed (bank : SoundBankId) (snapshot : SoundBankSnapshot) : Prop where
  valid : snapshot.valid = true
  bank_eq : snapshot.bank = bank
  generation : snapshot.generation ≠ 0
  base : snapshot.baseGeneration = snapshot.generation - 1
  transaction : transactionIdValid snapshot.transactionId = true
  manifest_le : manifestHeaderBytes ≤ snapshot.manifestBytes.toNat
  le_manifest : snapshot.manifestBytes.toNat ≤ soundSectorSize
  payload : snapshot.payloadBytes.toNat ≤ soundPayloadMaxSize
  manifestDigest : digestIsZero snapshot.manifestSha256 = false
  bundleDigest : digestIsZero snapshot.bundleSha256 = false

/-- The plan of a committed update, as far as the record has it. -/
def planOf (snapshot : SoundBankSnapshot) : SoundBundlePlan :=
  { baseGeneration := snapshot.baseGeneration, manifestBytes := snapshot.manifestBytes,
    payloadBytes := snapshot.payloadBytes
    manifestSha256 := snapshot.manifestSha256, bundleSha256 := snapshot.bundleSha256 }

def commitWidths : List Nat := [2, 2, 1, 3, 8, 8, 16, 4, 4, 32, 32]

theorem length_commitFields (bank : SoundBankId) (generation : UInt64) (transaction : TransactionId)
    (plan : SoundBundlePlan) :
    (commitFields bank generation transaction plan).length = 128 := by
  simp only [commitFields, length_put, length_putU8, length_putU16,
    length_putU32, length_putU64, List.length_replicate]
  rfl

@[simp] theorem length_commitBody (bank : SoundBankId) (generation : UInt64)
    (transaction : TransactionId) (plan : SoundBundlePlan) :
    (commitBody H bank generation transaction plan).length = 128 := by
  rw [commitBody, length_putU32, length_commitFields]

theorem length_encodeCommitMarker (crc : UInt32) : (encodeCommitMarker crc).length = 16 := by
  rw [encodeCommitMarker, List.length_append, List.length_append, length_toLe, length_toLe]
  rfl

theorem fields_commitFields (bank : SoundBankId) (generation : UInt64) (transaction : TransactionId)
    (plan : SoundBundlePlan) :
    fields (commitFields bank generation transaction plan) 0 commitWidths =
      [toLe 2 1, toLe 2 128, [bank.code], List.replicate 3 0, toLe 8 generation.toNat,
        toLe 8 plan.baseGeneration.toNat,
        transaction.toList, toLe 4 plan.manifestBytes.toNat, toLe 4 plan.payloadBytes.toNat,
          plan.manifestSha256.toList,
        plan.bundleSha256.toList] := by
  simp (disch := simp [-List.reduceReplicate, commitBodyBytes]) only
    [commitFields, commitWidths, fields, putU8, putU16, putU32, putU64,
      slice_put_self, slice_put_of_disjoint, Nat.reduceAdd]
  rw [slice_replicate (show 5 + 3 ≤ commitBodyBytes by decide)]
  rfl

theorem tail_commitFields (bank : SoundBankId) (generation : UInt64) (transaction : TransactionId)
    (plan : SoundBundlePlan) :
    slice (commitFields bank generation transaction plan) 116 12 = List.replicate 12 0 := by
  simp (disch := simp [-List.reduceReplicate, commitBodyBytes]) only
    [commitFields, putU8, putU16, putU32, putU64, slice_put_of_disjoint]
  rw [slice_replicate (show 116 + 12 ≤ commitBodyBytes by decide)]

theorem take_commitBody (bank : SoundBankId) (generation : UInt64) (transaction : TransactionId)
    (plan : SoundBundlePlan) :
    (commitBody H bank generation transaction plan).take 112 =
      (commitFields bank generation transaction plan).take 112 :=
  take_put_of_le (Nat.le_refl 112)

theorem crc_commitBody (bank : SoundBankId) (generation : UInt64) (transaction : TransactionId)
    (plan : SoundBundlePlan) :
    slice (commitBody H bank generation transaction plan) 112 4 =
      toLe 4 (H.crc32 ((commitBody H bank generation transaction plan).take 112)).toNat := by
  rw [take_commitBody]
  exact slice_put_self (length_toLe ..) (by rw [length_commitFields]; decide)

theorem tail_commitBody (bank : SoundBankId) (generation : UInt64) (transaction : TransactionId)
    (plan : SoundBundlePlan) :
    slice (commitBody H bank generation transaction plan) 116 12 = List.replicate 12 0 := by
  rw [← tail_commitFields bank generation transaction plan]
  exact slice_put_of_disjoint (.inr (by rw [length_toLe]))

theorem fields_commitBody (bank : SoundBankId) (generation : UInt64) (transaction : TransactionId)
    (plan : SoundBundlePlan) :
    fields (commitBody H bank generation transaction plan) 0 commitWidths =
      [toLe 2 1, toLe 2 128, [bank.code], List.replicate 3 0, toLe 8 generation.toNat,
        toLe 8 plan.baseGeneration.toNat,
        transaction.toList, toLe 4 plan.manifestBytes.toNat, toLe 4 plan.payloadBytes.toNat,
          plan.manifestSha256.toList,
        plan.bundleSha256.toList] := by
  rw [← fields_commitFields]
  have hread (offset n : Nat) (h : offset + n ≤ 112) :
    slice (commitBody H bank generation transaction plan) offset n =
      slice (commitFields bank generation transaction plan) offset n := by
    rw [← slice_take _ h, take_commitBody, slice_take _ h]
  simp (disch := omega) only [commitWidths, fields, hread, Nat.reduceAdd]

/-- The snapshot of an update that is committed. -/
def snapshotOf (bank : SoundBankId) (staged : Staged) : SoundBankSnapshot :=
  { valid := true, bank, generation := staged.generation, baseGeneration := staged.plan.baseGeneration
    transactionId :=
      staged.transaction, manifestBytes := staged.plan.manifestBytes,
      payloadBytes := staged.plan.payloadBytes
    manifestSha256 := staged.plan.manifestSha256, bundleSha256 := staged.plan.bundleSha256 }

/-- The fields of a body are read back. -/
theorem committedSnapshot_commitBody (bank : SoundBankId) (staged : Staged) :
    committedSnapshot bank (commitBody H bank staged.generation staged.transaction staged.plan) =
      snapshotOf bank staged := by
  have hfields := fields_commitBody (H := H) bank staged.generation staged.transaction staged.plan
  have hlength := length_commitBody (H := H) bank staged.generation staged.transaction staged.plan
  generalize commitBody H bank staged.generation staged.transaction staged.plan = body at *
  simp only [commitWidths, fields, List.cons.injEq, and_true, Nat.reduceAdd] at hfields
  obtain ⟨-, -, -, -, hgeneration, hbase, htransaction, hmanifest, hpayload, hmanifests, hbundle⟩ := hfields
  have hbytes {n : Nat} {bytes : Vector UInt8 n} {offset : Nat} (hoffset : offset + n ≤ 128)
      (h : slice body offset n = bytes.toList) : bytesAt body offset n = bytes :=
    Vector.toList_inj.mp ((toList_bytesAt (by omega)).trans h)
  rw [committedSnapshot, getU64_of_slice hgeneration, getU64_of_slice hbase,
    hbytes (by omega) htransaction, getU32_of_slice hmanifest,
    getU32_of_slice hpayload, hbytes (by omega) hmanifests, hbytes (by omega) hbundle]
  rfl

/-- What the decoder asks of the fixed fields of a body. -/
def CommitConstants (body : List UInt8) (bank : SoundBankId) : Prop :=
  getU16 body 0 = 1 ∧ getU16 body 2 = 128 ∧ getU8 body 4 = bank.code ∧ slice body 5 3 = List.replicate 3 0 ∧
    slice body 116 12 = List.replicate 12 0

/-- What it asks of the marker. -/
def MarkerOf (marker : List UInt8) (crc : UInt32) : Prop :=
  slice marker 0 8 = magic "EISC" ++ (magic "EISC").map (~~~ ·) ∧ getU32 marker 8 = crc ∧
  getU32 marker 12 = ~~~crc

theorem markerOf_iff {marker : List UInt8} {crc : UInt32} (hlength : marker.length = 16) :
    MarkerOf marker crc ↔ marker = encodeCommitMarker crc := by
  have hmagic : (magic "EISC" ++ (magic "EISC").map (~~~ ·) : List UInt8).length = 8 := by decide
  have hmarker : fields (encodeCommitMarker crc) 0 [8, 4, 4] =
      [magic "EISC" ++ (magic "EISC").map (~~~ ·), toLe 4 crc.toNat, toLe 4 (~~~crc).toNat] := by
    simp only [fields, Nat.reduceAdd, encodeCommitMarker]
    rw [List.append_assoc, slice_append_left (by rw [hmagic]), slice, List.drop_zero,
      List.take_of_length_le hmagic.le, slice, slice,
      List.drop_left' hmagic, List.take_left' (length_toLe ..), ← List.append_assoc,
      List.drop_left' (by rw [List.length_append, hmagic, length_toLe]), List.take_of_length_le
        (length_toLe ..).le]
  constructor
  · rintro ⟨hstart, hcrc, hcomplement⟩
    refine eq_of_fields [8, 4, 4] hlength.le (length_encodeCommitMarker crc).le ?_
    rw [hmarker]
    simp only [fields, Nat.reduceAdd]
    rw [hstart, ← toLe_getU32 (by omega), ← toLe_getU32 (by omega), hcrc, hcomplement]
  · rintro rfl
    simp only [fields, List.cons.injEq, and_true, Nat.reduceAdd] at hmarker
    exact ⟨hmarker.1, getU32_of_slice hmarker.2.1, getU32_of_slice hmarker.2.2⟩

/-- The two parts of the record as they stand in flash. -/
def bodyOf (s : Flash) (bank : SoundBankId) : List UInt8 :=
  region (s bank) soundCommitOffset commitBodyBytes
def markerAt (s : Flash) (bank : SoundBankId) : List UInt8 :=
  region (s bank) (soundCommitOffset + commitMarkerOffset) commitMarkerBytes

theorem length_bodyOf (s : Flash) (bank : SoundBankId) : (bodyOf s bank).length = 128 := length_region ..
theorem length_markerAt (s : Flash) (bank : SoundBankId) : (markerAt s bank).length = 16 := length_region ..

theorem committed_iff {bank : SoundBankId} {body : List UInt8} :
    Committed bank (committedSnapshot bank body) ↔
      (committedSnapshot bank body).generation ≠ 0 ∧
      (committedSnapshot bank body).baseGeneration = (committedSnapshot bank body).generation - 1 ∧
      transactionIdValid (committedSnapshot bank body).transactionId = true ∧
      manifestHeaderBytes ≤ (committedSnapshot bank body).manifestBytes.toNat ∧
      (committedSnapshot bank body).manifestBytes.toNat ≤ soundSectorSize ∧
      (committedSnapshot bank body).payloadBytes.toNat ≤ soundPayloadMaxSize ∧
      digestIsZero (committedSnapshot bank body).manifestSha256 = false ∧
      digestIsZero (committedSnapshot bank body).bundleSha256 = false :=
  ⟨fun h => ⟨h.generation, h.base, h.transaction, h.manifest_le, h.le_manifest,
    h.payload, h.manifestDigest, h.bundleDigest⟩,
    fun ⟨h1, h2, h3, h4, h5, h6, h7, h8⟩ => ⟨rfl, rfl, h1, h2, h3, h4, h5, h6, h7, h8⟩⟩

theorem eval_decodeCommit {snapshot : SoundBankSnapshot} :
    (decodeCommit H bank).eval (faultless s) = .ok snapshot ↔
      CommitConstants (bodyOf s bank) bank ∧
      getU32 (bodyOf s bank) 112 = H.crc32 ((bodyOf s bank).take 112) ∧
        MarkerOf (markerAt s bank) (getU32 (bodyOf s bank) 112) ∧ Committed bank snapshot ∧
        committedSnapshot bank (bodyOf s bank) = snapshot := by
  have hgap : bytesAreZero (slice (bodyOf s bank) 5 3) = true ↔
    slice (bodyOf s bank) 5 3 = List.replicate 3 0 :=
    zeros_of_bytesAreZero (by rw [length_slice, length_bodyOf]; rfl)
  have htail : bytesAreZero (slice (bodyOf s bank) 116 12) = true ↔
    slice (bodyOf s bank) 116 12 = List.replicate 12 0 :=
    zeros_of_bytesAreZero (by rw [length_slice, length_bodyOf]; rfl)
  have herased : slice (markerAt s bank) 0 8 = magic "EISC" ++ (magic "EISC").map (~~~ ·) →
    isErased (markerAt s bank) = false := by
    intro hmagic
    have hfirst := getElem?_slice (markerAt s bank) 0 8 0
    rw [hmagic, if_pos (by decide), Nat.add_zero] at hfirst
    by_contra hall
    rw [Bool.not_eq_false, isErased, List.all_eq_true] at hall
    have hbyte := hall _ (List.mem_of_getElem? hfirst.symm)
    revert hbyte
    decide
  unfold decodeCommit
  rw [Io.eval_bind, eval_read, Except.bind, Io.eval_bind, eval_read, Except.bind,
    Io.eval_refuse_bind_eq_ok, Io.eval_refuse_bind_eq_ok,
    Io.eval_bind, eval_checkPieces, Except.bind, Io.eval_refuse_bind_eq_ok,
      Io.eval_refuse_bind_eq_ok, Io.eval_refuse_bind_eq_ok,
    Io.eval_refuse_bind_eq_ok, Io.eval_pure, ← bodyOf, ← markerAt]
  simp only [not_or, not_not, not_lt, not_and, Bool.not_eq_false, Bool.not_eq_true,
    Except.ok.injEq, CommitConstants, MarkerOf,
    and_assoc, gt_iff_lt, storageVersion, hgap, htail]
  constructor
  · rintro ⟨-, h0, h2, h4, h5, h116, hcrc, hmagic, h8, h12, hgeneration, hbase, htransaction,
      hmin, hmax, hpayload, hmanifest, hbundle,
      rfl⟩
    exact ⟨h0, h2, h4, h5, h116, hcrc, hmagic, h8, h12,
      committed_iff.2 ⟨hgeneration, hbase, htransaction, hmin, hmax, hpayload, hmanifest, hbundle⟩, rfl⟩
  · rintro ⟨h0, h2, h4, h5, h116, hcrc, hmagic, h8, h12, hcommitted, rfl⟩
    obtain ⟨hgeneration, hbase, htransaction, hmin, hmax, hpayload, hmanifest, hbundle⟩ :=
      committed_iff.1 hcommitted
    exact ⟨fun _ => herased hmagic, h0, h2, h4, h5, h116, hcrc, hmagic, h8, h12, hgeneration,
      hbase, htransaction, hmin, hmax, hpayload,
      hmanifest, hbundle, rfl⟩

/-- A body that the decoder lets pass is the image of what its fields say. -/
theorem body_of_constants {body : List UInt8} (hlength : body.length = 128)
    (hconstants : CommitConstants body bank)
    (hcrc : getU32 body 112 = H.crc32 (body.take 112)) :
    body =
      commitBody H bank (committedSnapshot bank body).generation (committedSnapshot bank body).transactionId
      (planOf (committedSnapshot bank body)) := by
  obtain ⟨hversion, hsize, hbank, hgap, htail⟩ := hconstants
  have hversions := @toLe_getU16 body 0 (by omega)
  have hsizes := @toLe_getU16 body 2 (by omega)
  have hbanks := @slice_eq_getU8 body 4 (by omega)
  rw [hversion] at hversions
  rw [hsize] at hsizes
  rw [hbank] at hbanks
  have hfields :
    fields body 0 commitWidths = fields (commitBody H bank (committedSnapshot bank body).generation
      (committedSnapshot bank body).transactionId (planOf (committedSnapshot bank body))) 0
        commitWidths := by
    rw [fields_commitBody]
    simp (disch := omega) only [commitWidths, fields, committedSnapshot, planOf, hgap,
      ← hversions, ← hsizes, hbanks, toLe_getU32,
      toLe_getU64, toList_bytesAt, Nat.reduceAdd]
    rfl
  have hflat := congrArg List.flatten hfields
  have hsum : commitWidths.sum = 112 := rfl
  rw [flatten_fields, flatten_fields, hsum, slice, slice, List.drop_zero, List.drop_zero] at hflat
  refine eq_of_fields [112, 4, 12] hlength.le (length_commitBody ..).le ?_
  simp only [fields, Nat.reduceAdd]
  have hstart : ∀ bytes : List UInt8, slice bytes 0 112 = bytes.take 112 := fun bytes => rfl
  rw [hstart, hstart, crc_commitBody, tail_commitBody, htail, ← hflat, ← hcrc, toLe_getU32 (by omega)]

/-- The image of an update satisfies what the decoder asks of a body. -/
theorem constants_commitBody (bank : SoundBankId) (generation : UInt64) (transaction : TransactionId)
    (plan : SoundBundlePlan) :
    CommitConstants (commitBody H bank generation transaction plan) bank := by
  have hfields := fields_commitBody (H := H) bank generation transaction plan
  simp only [commitWidths, fields, List.cons.injEq, and_true, Nat.reduceAdd] at hfields
  have hsize : getU16 (commitBody H bank generation transaction plan) 2 = 128 := getU16_of_slice hfields.2.1
  exact ⟨getU16_of_slice hfields.1, hsize, getU8_of_slice hfields.2.2.1,
    hfields.2.2.2.1, tail_commitBody ..⟩

/-- A record decodes to a snapshot exactly when it is the image of that snapshot, body and marker. -/
theorem decodeCommit_eq_ok {snapshot : SoundBankSnapshot} :
    (decodeCommit H bank).eval (faultless s) = .ok snapshot ↔
      Committed bank snapshot ∧
        bodyOf s bank = commitBody H bank snapshot.generation snapshot.transactionId (planOf snapshot) ∧
        markerAt s bank = encodeCommitMarker (getU32 (bodyOf s bank) 112) := by
  rw [eval_decodeCommit, markerOf_iff (length_markerAt ..)]
  constructor
  · rintro ⟨hconstants, hcrc, hmarker, hcommitted, rfl⟩
    exact ⟨hcommitted, body_of_constants (length_bodyOf ..) hconstants hcrc, hmarker⟩
  · rintro ⟨hcommitted, hbody, hmarker⟩
    have hsnapshot : committedSnapshot bank (bodyOf s bank) = snapshot := by
      rw [hbody]
      refine (committedSnapshot_commitBody bank ⟨snapshot.generation,
        snapshot.transactionId, planOf snapshot⟩).trans ?_
      rw [snapshotOf, planOf, ← hcommitted.bank_eq, ← hcommitted.valid]
    refine ⟨?_, ?_, hmarker, hcommitted, hsnapshot⟩
    · rw [hbody]
      exact constants_commitBody ..
    · rw [hbody]
      exact getU32_of_slice (crc_commitBody ..)

theorem eval_encodeStagingHeader (bank : SoundBankId) (generation : UInt64)
    (transaction : TransactionId) (plan : SoundBundlePlan) :
    (encodeStagingHeader H bank generation transaction plan).eval (faultless s) =
      .ok (stagingHeader H bank generation transaction plan) := by
  rw [encodeStagingHeader, Io.eval_bind, eval_checkPieces]
  rfl

theorem eval_encodeCommitBody (bank : SoundBankId) (generation : UInt64)
    (transaction : TransactionId) (plan : SoundBundlePlan) :
    (encodeCommitBody H bank generation transaction plan).eval (faultless s) =
      .ok (commitBody H bank generation transaction plan) := by
  rw [encodeCommitBody, Io.eval_bind, eval_checkPieces]
  rfl

/-! ## Both records -/

/-- Each record is accepted exactly as its encoder writes it: what decodes is the image of what it
decodes to, and the image of an update that the decoder lets pass decodes to that update. -/
theorem records_decode_as_written (H : Hashes) (bank : SoundBankId) (s : Flash) :
    (∀ (encoded : Vector UInt8 704) (staged : Staged),
      (decodeStagingHeader H encoded.toList bank).eval (faultless s) = .ok staged ↔
        staged.Valid ∧
          (encodeStagingHeader H bank staged.generation staged.transaction staged.plan).eval
            (faultless s) = .ok encoded.toList) ∧
    ∀ snapshot : SoundBankSnapshot, (decodeCommit H bank).eval (faultless s) = .ok snapshot ↔
      Committed bank snapshot ∧
        (encodeCommitBody H bank snapshot.generation snapshot.transactionId (planOf snapshot)).eval
          (faultless s) =
          .ok (bodyOf s bank) ∧
        markerAt s bank = encodeCommitMarker (getU32 (bodyOf s bank) 112) := by
  constructor
  · intro encoded staged
    rw [decodeStagingHeader_eq_ok (by simp), eval_encodeStagingHeader, Except.ok.injEq,
      eq_comm (a := encoded.toList), Staged.image]
  · intro snapshot
    rw [decodeCommit_eq_ok, eval_encodeCommitBody, Except.ok.injEq, eq_comm (a := bodyOf s bank)]

end CodexKeyboard.Assets.SoundAssetStore
