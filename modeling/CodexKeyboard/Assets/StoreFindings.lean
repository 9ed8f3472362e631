import CodexKeyboard.Assets.SoundAssetStore
import CodexKeyboard.Assets.StoreCodecs
/-!
# What the store finds in a flash

Each check of the store observes the flash: it finds what a flash without faults would show, or
fails with a fault of the storage. `recordOf`, `committed` and `stagedOf` are what is there to be
found: the commit record of a bank, the snapshot of a bank that passes every check, and the update
that owns a bank. A commit record depends on the last sector alone, a committed snapshot on
everything but the staging header.
-/

namespace CodexKeyboard.Assets.SoundAssetStore

open Lib Buffer Storage

/-- What the store says of a fault of the storage. -/
def StoreFault (e : SoundStoreResult) : Prop := e = .unavailable ∨ e = .ioError

theorem mapIo_fault : ∀ e, Faulty e → StoreFault (mapIo e) := by
  rintro e (rfl | rfl)
  · exact .inl rfl
  · exact .inr rfl

theorem ioError_fault : ∀ e, Faulty e → StoreFault ((fun _ => SoundStoreResult.ioError) e) :=
  fun _ _ => .inr rfl

theorem mapFormat_fault : ∀ e, e = SoundFormatError.ioError → StoreFault (mapFormat e) := by
  rintro e rfl
  exact .inr rfl

theorem StoreFault.fatal {e : SoundStoreResult} (h : StoreFault e) : failureIsNonfatal e = false := by
  rcases h with rfl | rfl <;> rfl

theorem StoreFault.ofStorage {e : SoundStoreResult} (h : StoreFault e) : failureIsOfStorage e = true := by
  rcases h with rfl | rfl <;> rfl

section Checks
variable {evident : Flash → Flash → Prop} {H : Hashes} {bank target : SoundBankId} {low : Nat}

abbrev Finding {α : Type} (evident : Flash → Flash → Prop) (bank : SoundBankId) (low : Nat)
    (x : Checked α) : Prop :=
  Observing evident bank low StoreFault x

theorem finding_deriveTransactionId (plan : SoundBundlePlan) (generation : UInt64) :
    Finding evident bank low (deriveTransactionId H plan target generation) := by
  refine observes_bind (observing_work mapIo_fault _ _ _ _) fun _ => ?_
  exact observes_bind (observing_work mapIo_fault _ _ _ _) fun _ => observes_pure _

@[simp] theorem eval_deriveTransactionId (s : Flash) (plan : SoundBundlePlan) (generation : UInt64) :
    (deriveTransactionId H plan target generation).eval (faultless s) =
      .ok (transactionId H plan target generation) := rfl

theorem finding_encodeStagingHeader (generation : UInt64) (transaction : TransactionId)
    (plan : SoundBundlePlan) :
    Finding evident bank low (encodeStagingHeader H target generation transaction plan) :=
  observes_bind (observing_checkPieces mapIo_fault _ _ _ _) fun _ => observes_pure _

theorem finding_encodeCommitBody (generation : UInt64) (transaction : TransactionId)
    (plan : SoundBundlePlan) :
    Finding evident bank low (encodeCommitBody H target generation transaction plan) :=
  observes_bind (observing_checkPieces mapIo_fault _ _ _ _) fun _ => observes_pure _

theorem finding_decodeStagingHeader (encoded : List UInt8) :
    Finding evident bank low (decodeStagingHeader H encoded target) := by
  refine observes_bind (observes_refuse _ _) fun _ => ?_
  refine observes_bind (observing_checkPieces mapIo_fault _ _ _ _) fun _ => ?_
  refine observes_bind (observes_refuse _ _) fun _ => ?_
  exact observes_bind (observes_refuse _ _) fun _ => observes_pure _

theorem finding_decodeCommit : Finding evident bank soundCommitOffset (decodeCommit H bank) := by
  refine observes_bind (observing_read mapIo_fault (Nat.le_refl _) _) fun body => ?_
  refine observes_bind (observing_read mapIo_fault (Nat.le_add_right ..) _) fun marker => ?_
  refine observes_bind (observes_refuse _ _) fun _ => ?_
  refine observes_bind (observes_refuse _ _) fun _ => ?_
  refine observes_bind (observing_checkPieces mapIo_fault _ _ _ _) fun _ => ?_
  refine observes_bind (observes_refuse _ _) fun _ => ?_
  refine observes_bind (observes_refuse _ _) fun _ => ?_
  refine observes_bind (observes_refuse _ _) fun _ => ?_
  exact observes_bind (observes_refuse _ _) fun _ => observes_pure _

theorem readsFrom_mono {low' : Nat} (h : low ≤ low') :
    ∀ c, ReadsFrom bank low' c → ReadsFrom bank low c := by
  intro c hc
  cases c with
  | read _ _ _ => exact ⟨hc.1, h.trans hc.2⟩
  | write _ _ _ => exact hc
  | erase _ _ _ => exact hc
  | checkpoint _ _ _ _ => exact hc
  | checkpointComplete => exact hc

theorem finding_validateCommittedContent :
    Finding evident bank soundManifestOffset (validateCommittedContent H bank) := by
  refine observes_bind ?_ fun decoded => ?_
  · exact Observes.weaken finding_decodeCommit (readsFrom_mono (by decide)) fun _ => id
  refine observes_bind (observes_adapt (readsBundle_validateSoundManifest _ _) mapFormat_fault) fun _ => ?_
  refine observes_bind (observes_adapt (readsBundle_calculateSoundBankDigests _ _) mapFormat_fault)
    fun digests => ?_
  exact observes_bind (observes_refuse _ _) fun _ => observes_pure _

theorem finding_verifyRegionErased {offset : Nat} (h : low ≤ offset) (n : Nat) :
    Finding evident bank low (verifyRegionErased bank offset n) :=
  observing_verifyRegionErased mapIo_fault h n

theorem finding_validateSoundBankReadCandidate (committed : SoundBankSnapshot) :
    Finding evident committed.bank soundManifestOffset (validateSoundBankReadCandidate H committed) := by
  refine observes_bind (observes_refuse _ _) fun _ => ?_
  refine observes_bind (observing_hashedRegion mapIo_fault _ (Nat.le_refl _) _) fun manifest => ?_
  refine observes_bind (observing_work mapIo_fault _ _ _ _) fun _ => ?_
  exact observes_refuse _ _

end Checks

/-! ## Several checks together -/

/-- The result of a check, or a fault in its place. -/
def OrFault (found : Except SoundStoreResult Unit) (result : Except SoundStoreResult Unit) : Prop :=
  result = found ∨ ∃ e, StoreFault e ∧ result = .error e

/-- A check that finds no failure of the storage. -/
def FaultFree (found : Except SoundStoreResult Unit) : Prop :=
  ∀ e, found = .error e → failureIsOfStorage e = false

/-- A fault in the place of a result goes before every other failure. -/
theorem settle_orFault {found results : List (Except SoundStoreResult Unit)}
    (hfree : ∀ x ∈ found, FaultFree x)
    (h : List.Forall₂ OrFault found results) : OrFault (settle found) (settle results) := by
  have hnone : ∀ {l : List (Except SoundStoreResult Unit)}, (∀ x ∈ l, FaultFree x) →
    firstFailure failureIsOfStorage l = none := by
    intro l hl
    induction l with
    | nil => rfl
    | cons x l ih =>
      obtain ⟨hx, hrest⟩ := List.forall_mem_cons.1 hl
      cases x with
      | ok a => exact ih hrest
      | error e =>
        rw [firstFailure, hx e rfl]
        exact ih hrest
  have hcases : results = found ∨ ∃ e, StoreFault e ∧ firstFailure failureIsOfStorage results = some e := by
    induction h with
    | nil => exact .inl rfl
    | @cons x y found results hxy _ ih =>
      obtain ⟨hx, hrest⟩ := List.forall_mem_cons.1 hfree
      rcases hxy with rfl | ⟨e, he, rfl⟩
      · rcases ih hrest with rfl | ⟨e, he, hfirst⟩
        · exact .inl rfl
        · refine .inr ⟨e, he, ?_⟩
          cases y with
          | ok a => exact hfirst
          | error e' =>
            rw [firstFailure, hx e' rfl]
            exact hfirst
      · refine .inr ⟨e, he, ?_⟩
        rw [firstFailure, he.ofStorage]
        rfl
  rcases hcases with rfl | ⟨e, he, hfirst⟩
  · exact .inl rfl
  · refine .inr ⟨e, he, ?_⟩
    rw [settle, hfirst]

section Together
variable {evident : Flash → Flash → Prop} {H : Hashes} {bank : SoundBankId} {low : Nat}

theorem eval_resultsOf (s : Flash) (checks : List (Checked Unit)) :
    (resultsOf checks).eval (faultless s) = .ok (checks.map fun check => check.eval (faultless s)) := by
  induction checks with
  | nil => rfl
  | cons check checks ih =>
    rw [resultsOf, Io.eval_bind, Io.eval_attempt, Except.bind, Io.eval_bind, ih]
    rfl

/-- Checks made one after the other, whatever the ones before gave. -/
theorem wp_resultsOf {checks : List (Checked Unit)}
    (h : ∀ check ∈ checks, Finding evident bank low check) (s : Flash) :
    Wp (soundFlash evident) (ReadsFrom bank low)
      (fun r s' => s' = s ∧ ∃ results, r = .ok results ∧
        List.Forall₂ OrFault (checks.map fun check => check.eval (faultless s)) results)
      (fun s' => s' = s) (resultsOf checks).run s := by
  induction checks with
  | nil => exact ⟨rfl, [], rfl, .nil⟩
  | cons check checks ih =>
    obtain ⟨hcheck, hchecks⟩ := List.forall_mem_cons.1 h
    show Wp _ _ _ _ (Driver.seq (Driver.seq check.run _) _) s
    rw [wp_seq, wp_seq]
    refine (hcheck.wp s).mono (fun _ => id) ?_ (fun _ => id)
    rintro r s' ⟨rfl, hr⟩
    show Wp _ _ _ _ (Driver.seq (resultsOf checks).run _) s'
    rw [wp_seq]
    refine (ih hchecks).mono (fun _ => id) ?_ (fun _ => id)
    rintro r' s'' ⟨rfl, results, rfl, hresults⟩
    exact ⟨rfl, r :: results, rfl, .cons hr hresults⟩

theorem faultFree_verifyRegionErased (s : Flash) (offset n : Nat) :
    FaultFree ((verifyRegionErased bank offset n).eval (faultless s)) := by
  have hall :
    ∀ (l : List (Nat × Nat)), FaultFree ((verifyErasedPieces bank offset l).eval (faultless s)) := by
    intro l
    induction l with
    | nil =>
      intro e he
      cases he
    | cons piece l ih =>
      intro e he
      rw [verifyErasedPieces, Io.eval_bind, eval_read, Except.bind, Io.eval_bind, Io.eval_refuse] at he
      split at he
      · cases he
        rfl
      · exact ih e he
  exact hall _

theorem finding_validateSoundBank :
    Finding evident bank soundManifestOffset (validateSoundBank H bank) := by
  refine observes_bind finding_validateCommittedContent fun decoded => ?_
  refine observes_of_wp fun s => ?_
  have hplaces : ∀ check ∈ (erasedRegions decoded).map fun place => verifyRegionErased bank place.1 place.2,
      Finding evident bank soundManifestOffset check := by
    simp only [erasedRegions, List.map_cons, List.map_nil, List.forall_mem_cons]
    exact ⟨finding_verifyRegionErased (Nat.le_add_right ..) _,
      finding_verifyRegionErased
        ((show soundManifestOffset ≤ soundPayloadOffset by decide).trans (Nat.le_add_right ..)) _,
      finding_verifyRegionErased (by decide) _, finding_verifyRegionErased (by decide) _, fun _ h =>
        absurd h List.not_mem_nil⟩
  have hfree : ∀ x ∈ ((erasedRegions decoded).map fun place => verifyRegionErased bank place.1 place.2).map
      fun check => check.eval (faultless s), FaultFree x := by
    simp only [List.map_map, List.forall_mem_map]
    exact fun place _ => faultFree_verifyRegionErased s _ _
  show Wp _ _ _ _ (Driver.seq (resultsOf _).run _) s
  rw [wp_seq]
  refine (wp_resultsOf hplaces s).mono (fun _ => id) ?_ (fun _ => id)
  rintro r s' ⟨rfl, results, rfl, hresults⟩
  rw [Io.eval_bind, eval_resultsOf, Except.bind]
  dsimp only [ExceptT.bindCont]
  rcases settle_orFault hfree hresults with hsettle | ⟨e, he, hsettle⟩
  · rw [← hsettle]
    cases settle results with
    | error e => exact ⟨rfl, .inl rfl⟩
    | ok a => exact ⟨rfl, .inl rfl⟩
  · rw [hsettle]
    exact ⟨rfl, .inr ⟨e, he, rfl⟩⟩

end Together

/-! ## Findings -/

section Findings
variable (H : Hashes) (s : Flash) (bank : SoundBankId)

/-- The commit record of a bank. -/
def recordOf : Except SoundStoreResult SoundBankSnapshot := (decodeCommit H bank).eval (faultless s)

/-- The snapshot of a bank that passes every check. -/
def committed : Option SoundBankSnapshot := ((validateSoundBank H bank).eval (faultless s)).toOption

/-- The manifest in a bank. -/
def manifestOf (s : Flash) (bank : SoundBankId) (snapshot : SoundBankSnapshot) : List UInt8 :=
  region (s bank) soundManifestOffset snapshot.manifestBytes.toNat

/-- What the digest of a bundle is taken of. -/
def bundleOf (s : Flash) (bank : SoundBankId) (snapshot : SoundBankSnapshot) : List UInt8 :=
  magic "EASYINPUT-SND-V1" ++ toLe 4 snapshot.manifestBytes.toNat ++ manifestOf s bank snapshot ++
    toLe 4 snapshot.payloadBytes.toNat ++
    region (s bank) soundPayloadOffset snapshot.payloadBytes.toNat

/-- The staging header of a bank. -/
def headerOf (s : Flash) (bank : SoundBankId) : List UInt8 :=
  region (s bank) soundStagingHeaderOffset stagingHeaderBytes

/-- The update that owns a bank: its header decodes. -/
def stagedOf : Option Staged := ((decodeStagingHeader H (headerOf s bank) bank).eval (faultless s)).toOption

end Findings

section Found
variable {H : Hashes} {s s' : Flash} {bank : SoundBankId} {snapshot : SoundBankSnapshot} {staged : Staged}

theorem committed_eq_some :
    committed H s bank = some snapshot ↔ (validateSoundBank H bank).eval (faultless s) = .ok snapshot := by
  rw [committed]
  cases (validateSoundBank H bank).eval (faultless s) <;> simp [Except.toOption]

/-- A bank that passes every check passes the ones on its record, and those on its content. -/
theorem validateCommittedContent_of_committed (h : committed H s bank = some snapshot) :
    (validateCommittedContent H bank).eval (faultless s) = .ok snapshot := by
  rw [committed_eq_some, validateSoundBank, Io.eval_bind_eq_ok] at h
  obtain ⟨decoded, hdecoded, h⟩ := h
  have hsame : decoded = snapshot := by
    rw [Io.eval_bind, eval_resultsOf, Except.bind] at h
    revert h
    cases settle _ with
    | error e => exact nofun
    | ok a => exact fun h => Except.ok.inj h
  rwa [← hsame]

theorem validateCommittedContent_eq_ok :
    (validateCommittedContent H bank).eval (faultless s) = .ok snapshot →
    recordOf H s bank = .ok snapshot ∧
    (calculateSoundBankDigests H bank snapshot.manifestBytes snapshot.payloadBytes).eval (faultless s) =
      .ok (snapshot.manifestSha256, snapshot.bundleSha256) := by
  intro h
  rw [validateCommittedContent, Io.eval_bind_eq_ok] at h
  obtain ⟨record, hrecord, h⟩ := h
  rw [Io.eval_bind_eq_ok] at h
  obtain ⟨_, _, h⟩ := h
  rw [Io.eval_bind_eq_ok] at h
  obtain ⟨digests, hdigests, h⟩ := h
  rw [Io.eval_refuse_bind_eq_ok, not_or, not_not, not_not] at h
  obtain ⟨⟨hmanifest, hbundle⟩, hsame⟩ := h
  rw [← Except.ok.inj hsame, ← hmanifest, ← hbundle]
  refine ⟨hrecord, ?_⟩
  rw [Io.eval_adapt] at hdigests
  revert hdigests
  cases (calculateSoundBankDigests H bank record.manifestBytes record.payloadBytes).eval (faultless s) with
  | error e => exact nofun
  | ok found => exact fun h => congrArg Except.ok (Except.ok.inj h)

/-- A committed snapshot is the one of the record. -/
theorem recordOf_of_committed (h : committed H s bank = some snapshot) : recordOf H s bank = .ok snapshot :=
  (validateCommittedContent_eq_ok (validateCommittedContent_of_committed h)).1

theorem recordOf_eq_ok : recordOf H s bank = .ok snapshot ↔
    Committed bank snapshot ∧
    bodyOf s bank = commitBody H bank snapshot.generation snapshot.transactionId (planOf snapshot) ∧
      markerAt s bank = encodeCommitMarker (getU32 (bodyOf s bank) 112) :=
  decodeCommit_eq_ok

theorem length_headerOf : (headerOf s bank).length = 704 := length_region ..

theorem stagedOf_eq_ok : stagedOf H s bank = some staged ↔
    (decodeStagingHeader H (headerOf s bank) bank).eval (faultless s) = .ok staged := by
  rw [stagedOf]
  generalize (decodeStagingHeader H (headerOf s bank) bank).eval (faultless s) = found
  cases found <;> simp [Except.toOption]

theorem stagedOf_eq_some :
    stagedOf H s bank = some staged ↔ staged.Valid ∧ headerOf s bank = staged.image H bank := by
  rw [stagedOf_eq_ok, decodeStagingHeader_eq_ok length_headerOf]

theorem recordOf_congr (h : ∀ i, soundCommitOffset ≤ i → s bank i = s' bank i) :
    recordOf H s bank = recordOf H s' bank :=
  have hfinds : Finding (fun _ _ => True) bank soundCommitOffset (decodeCommit H bank) :=
    finding_decodeCommit
  Observing.eval_congr hfinds h

theorem committed_congr (h : ∀ i, soundManifestOffset ≤ i → s bank i = s' bank i) :
    committed H s bank = committed H s' bank :=
  have hfinds : Finding (fun _ _ => True) bank soundManifestOffset (validateSoundBank H bank) :=
    finding_validateSoundBank
  congrArg Except.toOption (Observing.eval_congr hfinds h)

theorem stagedOf_congr (h : ∀ i, i < stagingHeaderBytes → s bank i = s' bank i) :
    stagedOf H s bank = stagedOf H s' bank := by
  have hheader : headerOf s bank = headerOf s' bank :=
    region_eq_iff.2 fun i _ hi => h i (by rwa [soundStagingHeaderOffset, Nat.zero_add] at hi)
  refine Option.ext fun staged => ?_
  rw [stagedOf_eq_some, stagedOf_eq_some, hheader]

/-- Where the record is erased there is none. -/
theorem recordOf_erased (h : ∀ i, soundCommitOffset + commitMarkerOffset ≤ i →
    i < soundCommitOffset + commitMarkerOffset + commitMarkerBytes →
    s bank i = 0xFF) : recordOf H s bank ≠ .ok snapshot := by
  intro hrecord
  have hmarker := (recordOf_eq_ok.1 hrecord).2.2
  have hfirst := congrArg (·[0]?) hmarker
  simp only [markerAt, getElem?_region, if_pos (show 0 < commitMarkerBytes by decide), Nat.add_zero]
    at hfirst
  rw [h _ (Nat.le_refl _) (by decide)] at hfirst
  exact absurd (Option.some.inj hfirst) (by decide +revert)

/-- Where the magic is erased no update owns the bank. -/
theorem stagedOf_erased (h : s bank 0 = 0xFF) : stagedOf H s bank = none := by
  refine Option.eq_none_iff_forall_ne_some.2 fun staged hstaged => ?_
  have hheader := (stagedOf_eq_some.1 hstaged).2
  have hmagic : slice (staged.image H bank) 0 4 = magic "EISH" := by
    have hfields := @fields_image H bank staged
    rw [fields_stagingFields] at hfields
    exact (List.cons.inj hfields).1
  have hfirst := congrArg (·[0]?) hmagic
  simp only [getElem?_slice, if_pos (show 0 < 4 by decide), ← hheader, headerOf, getElem?_region] at hfirst
  rw [if_pos (by decide), show soundStagingHeaderOffset + (0 + 0) = 0 by decide, h] at hfirst
  exact absurd hfirst (by decide)

theorem eval_finishHash (offset : Nat) (message : List UInt8) :
    (finishHash H bank offset message).eval (faultless s) = .ok (H.sha256 message) := rfl

/-- The digests of a committed snapshot are those of the bytes in its bank. -/
theorem committed_digests (h : committed H s bank = some snapshot) :
    H.sha256 (manifestOf s bank snapshot) = snapshot.manifestSha256 ∧
    H.sha256 (bundleOf s bank snapshot) = snapshot.bundleSha256 := by
  have hdigests := (validateCommittedContent_eq_ok (validateCommittedContent_of_committed h)).2
  rw [calculateSoundBankDigests, Io.eval_refuse_bind_eq_ok, Io.eval_bind,
    eval_work, Except.bind, Io.eval_bind_eq_ok] at hdigests
  obtain ⟨-, manifest, hmanifest, hdigests⟩ := hdigests
  rw [hashBankRange, eval_hashedRegion] at hmanifest
  obtain rfl := Except.ok.inj hmanifest
  rw [Io.eval_bind, eval_finishHash, Except.bind, Io.eval_bind,
    eval_work, Except.bind, Io.eval_bind_eq_ok] at hdigests
  obtain ⟨payload, hpayload, hdigests⟩ := hdigests
  rw [hashBankRange, eval_hashedRegion] at hpayload
  obtain rfl := Except.ok.inj hpayload
  rw [Io.eval_bind, eval_finishHash] at hdigests
  exact Prod.mk.inj (Except.ok.inj hdigests)

theorem committed_bank (h : committed H s bank = some snapshot) :
    snapshot.bank = bank ∧ snapshot.valid = true :=
  have hcommitted := (recordOf_eq_ok.1 (recordOf_of_committed h)).1
  ⟨hcommitted.bank_eq, hcommitted.valid⟩

/-- A record without a committed snapshot is none. -/
theorem committed_of_recordOf (h : ∀ snapshot, recordOf H s bank ≠ .ok snapshot) :
    committed H s bank = none :=
  Option.eq_none_iff_forall_ne_some.2 fun snapshot hcommitted =>
    h snapshot (recordOf_of_committed hcommitted)

end Found

end CodexKeyboard.Assets.SoundAssetStore
