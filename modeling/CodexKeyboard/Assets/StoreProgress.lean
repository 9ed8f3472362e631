import CodexKeyboard.Assets.StoreRuns
import CodexKeyboard.Assets.StoreReads
import CodexKeyboard.Assets.StoreCommit
import CodexKeyboard.Lib.Bitmap
/-!
# What an update is reported to have

The bits of an update say which of its blocks are in flash. They are set after a block was read back
and checked, and found out again when the update is resumed.

* `Honest` — what is marked complete is in flash, with the checksum of the plan. Every call keeps
  it, whatever the storage does
(`StoreOperation.honest`).
* `Exact` — what is marked complete is what is in flash. Resuming establishes it (`resumeUpdate_exact`).
-/

namespace CodexKeyboard.Assets.SoundAssetStore

open Lib Buffer Storage

section Progress
variable {H : Hashes} {evident : Flash → Flash → Prop} {st st' : SoundAssetStore} {s s' : Flash} {α : Type}

/-! ## What completion means -/

/-- The manifest in flash is the one of the plan. -/
def ManifestHeld (H : Hashes) (st : SoundAssetStore) (s : Flash) : Prop :=
  H.crc32 (region (s st.updateBank) soundManifestOffset st.updatePlan.manifestBytes.toNat) =
    st.updatePlan.manifestCrc32 ∧
    H.sha256 (region (s st.updateBank) soundManifestOffset st.updatePlan.manifestBytes.toNat) =
      st.updatePlan.manifestSha256

/-- The block in flash has the checksum of the plan. -/
def BlockHeld (H : Hashes) (st : SoundAssetStore) (s : Flash) (blockIndex : Nat) : Prop :=
  H.crc32 (region (s st.updateBank) (soundPayloadOffset + blockIndex * soundPayloadBlockSize)
    (blockLength st.updatePlan.payloadBytes blockIndex)) = planCrc st.updatePlan blockIndex

/-- What is marked complete is there. -/
structure Truthful (H : Hashes) (st : SoundAssetStore) (s : Flash) : Prop where
  plan : planIsValid st.updatePlan = true
  manifest : st.manifestComplete = true → ManifestHeld H st s
  blocks : ∀ blockIndex < blockCount st.updatePlan.payloadBytes, st.payloadComplete blockIndex =
    true → BlockHeld H st s blockIndex

/-- What is marked complete is what is there. -/
structure Exact (H : Hashes) (st : SoundAssetStore) (s : Flash) : Prop where
  plan : planIsValid st.updatePlan = true
  manifest : st.manifestComplete = true ↔ ManifestHeld H st s
  blocks : ∀ blockIndex < blockCount st.updatePlan.payloadBytes, st.payloadComplete blockIndex =
    true ↔ BlockHeld H st s blockIndex

theorem Exact.truthful (h : Exact H st s) : Truthful H st s :=
  ⟨h.plan, h.manifest.1, fun i hi => (h.blocks i hi).1⟩

/-- An update under way reports the truth. -/
def Honest (H : Hashes) (st : SoundAssetStore) (s : Flash) : Prop :=
  st.updateActive = true → Truthful H st s

theorem blockLength_pos {payloadBytes : UInt32} {blockIndex : Nat}
    (h : blockIndex < blockCount payloadBytes) :
    0 < blockLength payloadBytes blockIndex := by
  simp only [blockCount, blockLength, soundPayloadBlockSize, soundSectorSize] at h ⊢
  omega

theorem manifestHeld_congr (hsame : ∀ i, soundManifestOffset ≤ i →
    i < soundManifestOffset + st.updatePlan.manifestBytes.toNat →
    s' st.updateBank i = s st.updateBank i) : ManifestHeld H st s' ↔ ManifestHeld H st s := by
  rw [ManifestHeld, ManifestHeld, region_eq_iff.2 hsame]

theorem blockHeld_congr {blockIndex : Nat}
    (hsame : ∀ i, soundPayloadOffset + blockIndex * soundPayloadBlockSize ≤ i →
    i < soundPayloadOffset + blockIndex * soundPayloadBlockSize + soundPayloadBlockSize →
    s' st.updateBank i = s st.updateBank i) :
    BlockHeld H st s' blockIndex ↔ BlockHeld H st s blockIndex := by
  have hle : blockLength st.updatePlan.payloadBytes blockIndex ≤ soundPayloadBlockSize :=
    Nat.min_le_left _ _
  rw [BlockHeld, BlockHeld, region_eq_iff.2 fun i hi hlt => hsame i hi (by omega)]

/-- A change that leaves the manifest and the blocks that are marked as they are. -/
theorem Truthful.change (h : Truthful H st s)
    (hmanifest : st.manifestComplete = true → ∀ i, soundManifestOffset ≤ i → i < soundJournalOffset →
      s' st.updateBank i = s st.updateBank i)
    (hblocks : ∀ blockIndex < 128, st.payloadComplete blockIndex = true →
      ∀ i, soundPayloadOffset + blockIndex * soundPayloadBlockSize ≤ i →
      i < soundPayloadOffset + blockIndex * soundPayloadBlockSize + soundPayloadBlockSize →
      s' st.updateBank i = s st.updateBank i) :
    Truthful H st s' where
  plan := h.plan
  manifest hcomplete := by
    have hsector := (planIsValid_sizes h.plan).1
    refine (manifestHeld_congr fun i hi hlt => hmanifest hcomplete i hi (lt_of_lt_of_le hlt ?_)).2
      (h.manifest hcomplete)
    exact (Nat.add_le_add_left hsector _).trans (by decide)
  blocks blockIndex hindex hcomplete :=
    (blockHeld_congr (hblocks blockIndex (lt_of_lt_of_le hindex (blockCount_le h.plan)) hcomplete)).2
      (h.blocks blockIndex hindex hcomplete)

/-- Writing between the header and the end, but not to the manifest or a block that is marked. -/
theorem Truthful.outside (h : Truthful H st s)
    (hsame : ∀ i, soundManifestOffset ≤ i ∧ i < soundJournalOffset ∨ soundPayloadOffset ≤ i ∧
      i < soundReservedOffset →
      s' st.updateBank i = s st.updateBank i) : Truthful H st s' := by
  refine h.change (fun _ i hi hlt => hsame i (.inl ⟨hi, hlt⟩)) fun blockIndex hindex _ i hi hlt =>
    hsame i (.inr ⟨?_, ?_⟩)
  · exact (Nat.le_add_right ..).trans hi
  · simp only [soundPayloadOffset, soundPayloadBlockSize, soundSectorSize, soundReservedOffset] at hlt ⊢
    omega

/-! ## What the checks find -/

section Checks
variable {K : Flash → Prop} {bank : SoundBankId}

theorem meets_look {F : SoundStoreResult → Prop} {x : Checked α} {place : SoundBankId} {low : Nat}
    (hx : Observing evident place low F x)
    {Q : Except SoundStoreResult α → SoundAssetStore → Flash → Prop} (hK : K s)
    (hok : ∀ a, x.eval (faultless s) = .ok a → Q (.ok a) st s)
    (herror : ∀ e, x.eval (faultless s) = .error e ∨ F e → Q (.error e) st s) :
    Meets (soundFlash evident) (Leaves bank) (Method.lift x) Q K st s :=
  meets_observe (Observes.weaken hx ReadsFrom.leaves fun _ => id) hK hok herror

/-- Reading a region to hash it: what is there, or an I/O error. -/
theorem hashedRegion_spec (kinds : List SoundStorageWorkKind) (place : SoundBankId) (offset n : Nat)
    {Q : Except SoundStoreResult (List UInt8) → SoundAssetStore → Flash → Prop} (hK : K s)
    (hok : Q (.ok (region (s place) offset n)) st s)
    (herror : Q (.error .ioError) st s) :
    Meets (soundFlash evident) (Leaves bank)
      (Method.lift (hashedRegion (fun _ => SoundStoreResult.ioError) kinds place offset n)) Q K st s := by
  have hfinds : Observing evident place offset (fun e => e = SoundStoreResult.ioError)
      (hashedRegion (fun _ => SoundStoreResult.ioError) kinds place offset n) :=
    observing_hashedRegion (F := fun e => e = SoundStoreResult.ioError)
      (fun _ _ => rfl) kinds (Nat.le_refl _) n
  refine meets_look hfinds hK (fun a h => ?_) fun e h => ?_
  · rw [eval_hashedRegion] at h
    rwa [← Except.ok.inj h]
  · rw [eval_hashedRegion] at h
    rcases h with h | rfl
    · cases h
    · exact herror

theorem verifyManifest_spec (hK : K s) :
    Meets (soundFlash evident) (Leaves bank) (verifyManifest H)
      (Ends (fun _ st' s' => st' = st ∧ s' = s ∧ ManifestHeld H st s)
        fun e st' s' => st' = st ∧ s' = s ∧
        (e = .ioError ∨ (e = .crcMismatch ∨ e = .hashMismatch) ∧ ¬ ManifestHeld H st s)) K st s := by
  have hwork : ∀ place offset n, Observing evident .a 0 (fun e => e = SoundStoreResult.ioError)
      (work (fun _ => SoundStoreResult.ioError) .sha256 place offset n) := fun _ _ _ =>
        observing_work (F := fun e => e = SoundStoreResult.ioError) (fun _ _ => rfl) _ _ _ _
  refine meets_get_bind (meets_bind (hashedRegion_spec _ _ _ _ hK ?_ ⟨rfl, rfl, .inl rfl⟩))
  refine meets_bind (hashedRegion_spec _ _ _ _ hK ?_ ⟨rfl, rfl, .inl rfl⟩)
  refine meets_bind (meets_look (hwork _ _ _) hK (fun _ _ => ?_) fun e he => ⟨rfl, rfl, ?_⟩)
  · refine meets_refuse_bind (fun hcrc => ⟨rfl, rfl, .inr ⟨.inl rfl, fun hheld => hcrc hheld.1⟩⟩)
      fun hcrc => ?_
    refine meets_refuse (fun hsha => ⟨rfl, rfl, .inr ⟨.inr rfl, fun hheld => hsha hheld.2⟩⟩) fun hsha => ?_
    exact ⟨rfl, rfl, not_not.1 hcrc, not_not.1 hsha⟩
  · rcases he with he | rfl
    · rw [eval_work] at he
      cases he
    · exact .inl rfl

theorem verifyPayloadBlock_spec (blockIndex : Nat) (hK : K s) :
    Meets (soundFlash evident) (Leaves bank) (verifyPayloadBlock H blockIndex)
      (Ends (fun complete st' s' => st' = st ∧ s' = s ∧ (complete = true ↔ BlockHeld H st s blockIndex))
        fun e st' s' => st' = st ∧ s' = s ∧
        (e = .ioError ∨ blockLength st.updatePlan.payloadBytes blockIndex = 0)) K st s := by
  refine meets_get_bind (meets_refuse_bind (fun hzero => ⟨rfl, rfl, .inr hzero⟩) fun _ => ?_)
  refine meets_bind (hashedRegion_spec _ _ _ _ hK ?_ ⟨rfl, rfl, .inl rfl⟩)
  exact meets_pure ⟨rfl, rfl, decide_eq_true_iff⟩

end Checks

/-! ## Selecting -/

/-- What a selection changes does not matter. -/
def Unselective (I : SoundAssetStore → Flash → Prop) : Prop :=
  ∀ st s selection scanned readSelection readScanned result, I st s →
    I { st with
      selection := selection, scanned := scanned, readSelection := readSelection
      readSelectionScanned := readScanned, readSelectionResult := result } s

section Selecting
variable {K : Flash → Prop} {bank : SoundBankId} {I : SoundAssetStore → Flash → Prop}

theorem Unselective.forget (hI : Unselective I) (h : I st s) : I (forgetSelection st) s :=
  hI st s _ _ _ _ _ h

theorem keeps_inspectBanks (hK : ∀ st s, I st s → K s) :
    Keeps (soundFlash evident) (Leaves bank) I K (inspectBanks H) := by
  have hinspect (place : SoundBankId) :
    Keeps (soundFlash evident) (Leaves bank) I K (inspectBank H place) := by
    refine keeps_bind (keeps_attempt (keeps_find finding_validateSoundBank hK)) fun r => ?_
    cases r with
    | ok snapshot => exact keeps_pure _
    | error e => exact keeps_bind (keeps_refuse _ _) fun _ => keeps_pure _
  exact keeps_bind (hinspect .a) fun _ => keeps_bind (hinspect .b) fun _ => keeps_pure _

theorem keeps_scan (hI : Unselective I) (hK : ∀ st s, I st s → K s) :
    Keeps (soundFlash evident) (Leaves bank) I K (scan H) := by
  refine keeps_get fun st₁ s₁ h₁ => meets_refuse_bind (fun _ => h₁) fun _ => ?_
  refine keeps_bind (keeps_modify fun _ _ h => hI.forget h) (fun _ => ?_) st₁ s₁ h₁
  refine keeps_bind (keeps_inspectBanks hK) fun found => ?_
  exact keeps_bind (keeps_modify fun st s h => hI st s _ _ _ _ _ h) fun _ => keeps_refuse _ _

theorem keeps_ensureScanned (hI : Unselective I) (hK : ∀ st s, I st s → K s) :
    Keeps (soundFlash evident) (Leaves bank) I K (ensureScanned H) :=
  keeps_get fun st₁ s₁ h₁ => keeps_ite (keeps_pure _) (keeps_scan hI hK) st₁ s₁ h₁

theorem keeps_ensureSelected (hI : Unselective I) (hK : ∀ st s, I st s → K s) :
    Keeps (soundFlash evident) (Leaves bank) I K (ensureSelected H) := by
  refine keeps_bind (keeps_ensureScanned hI hK) fun _ => keeps_get fun st₁ s₁ h₁ => ?_
  exact keeps_refuse _ _ st₁ s₁ h₁

end Selecting

/-! ## Resuming -/

section Resuming
variable {K : Flash → Prop} {bank : SoundBankId}

/-- No update is under way, and nothing was written. -/
def NothingDone (s : Flash) (st' : SoundAssetStore) (s' : Flash) : Prop := s' = s ∧ st'.updateActive = false

/-- An update was taken up as it is in the flash, and nothing was written. -/
def TakenUp (H : Hashes) (s : Flash) (st' : SoundAssetStore) (s' : Flash) : Prop :=
  s' = s ∧ st'.updateActive = true ∧ Exact H st' s'

theorem loadManifest_exact (hK : K s) (hmanifest : st.manifestComplete = false) :
    Meets (soundFlash evident) (Leaves bank) (loadManifest H)
      (Ends (fun _ st' s' => s' = s ∧ ∃ complete, st' = { st with manifestComplete := complete } ∧
        (complete = true ↔ ManifestHeld H st s))
        fun _ => NothingDone s) K st s := by
  refine meets_attempt_bind ((verifyManifest_spec hK).mono ?_ fun _ => id)
  rintro (e | a) _ s' ⟨rfl, rfl, hr⟩
  · refine meets_ite (fun _ => meets_modify_bind (meets_throw ⟨rfl, rfl⟩)) fun hother =>
      meets_pure ⟨rfl, false, ?_, ?_⟩
    · rw [← hmanifest]
    · rcases hr with rfl | ⟨_, hnot⟩
      · exact absurd (.inl rfl) hother
      · exact ⟨fun h => absurd h Bool.false_ne_true, fun h => absurd h hnot⟩
  · exact meets_modify ⟨rfl, true, rfl, ⟨fun _ => hr, fun _ => rfl⟩⟩

theorem payloadComplete_set (st : SoundAssetStore) (blockIndex : Nat) (complete : Bool) :
    (setPayloadComplete blockIndex complete st).payloadComplete =
      Function.update st.payloadComplete blockIndex complete := rfl

/-- Each block of the list is marked as it is found, the others stay as they are marked. -/
theorem loadPayloadBlocks_exact (st : SoundAssetStore) (hK : K s) (blocks : List Nat)
    (hblocks : ∀ i ∈ blocks, i < blockCount st.updatePlan.payloadBytes) :
    Meets (soundFlash evident) (Leaves bank) (loadPayloadBlocks H blocks)
      (Ends (fun _ st' s' => s' = s ∧ ∃ payload, st' = { st with payloadComplete := payload } ∧
          ∀ i, if i ∈ blocks then payload i = true ↔
          BlockHeld H st s i else payload i = st.payloadComplete i)
        fun _ => NothingDone s) K st s := by
  induction blocks generalizing st with
  | nil => exact meets_pure ⟨rfl, st.payloadComplete, rfl, fun i => by rw [if_neg List.not_mem_nil]⟩
  | cons blockIndex blocks ih =>
    obtain ⟨hfirst, hrest⟩ := List.forall_mem_cons.1 hblocks
    refine meets_attempt_bind ((verifyPayloadBlock_spec blockIndex hK).mono ?_ fun _ => id)
    rintro (e | complete) st₁ s₁ ⟨hst, rfl, hr⟩
    · subst hst
      rcases hr with rfl | hzero
      · exact meets_modify_bind (meets_throw ⟨rfl, rfl⟩)
      · exact absurd hzero (blockLength_pos hfirst).ne'
    · subst hst
      refine meets_modify_bind ((ih (setPayloadComplete blockIndex complete st₁) hrest).mono ?_ fun _ => id)
      rintro (e | a) st₂ s₂ h₂
      · exact h₂
      · obtain ⟨rfl, payload, rfl, hpayload⟩ := h₂
        refine ⟨rfl, payload, rfl, fun i => ?_⟩
        have hi := hpayload i
        by_cases hmem : i ∈ blocks
        · rw [if_pos hmem] at hi
          rw [if_pos (List.mem_cons_of_mem _ hmem)]
          exact hi
        · rw [if_neg hmem] at hi
          by_cases hsame : i = blockIndex
          · subst hsame
            rw [if_pos List.mem_cons_self, hi, payloadComplete_set, Function.update_self]
            exact hr
          · rw [if_neg (fun h => (List.mem_cons.1 h).elim hsame hmem), hi, payloadComplete_set,
              Function.update_of_ne hsame]

theorem loadContent_exact (st : SoundAssetStore) (hK : K s) (hactive : st.updateActive = true)
    (hplan : planIsValid st.updatePlan = true)
    (hmanifest : st.manifestComplete = false) :
    Meets (soundFlash evident) (Leaves bank)
      (loadManifest H >>= fun _ => loadPayloadBlocks H (List.range (blockCount st.updatePlan.payloadBytes)))
      (Ends (fun _ => TakenUp H s) fun _ => NothingDone s) K st s := by
  refine (loadManifest_exact hK hmanifest).andThen ?_ fun _ _ _ h => h
  rintro _ _ s₁ ⟨rfl, complete, rfl, hheld⟩
  refine (loadPayloadBlocks_exact { st with manifestComplete := complete } hK _ fun i hi =>
    List.mem_range.1 hi).mono ?_ fun _ => id
  rintro (e | a) _ s₂ h₂
  · exact h₂
  · obtain ⟨rfl, payload, rfl, hpayload⟩ := h₂
    refine ⟨rfl, hactive, hplan, hheld, fun i hi => ?_⟩
    have hblock := hpayload i
    rwa [if_pos (List.mem_range.2 hi)] at hblock

theorem planIsValid_of_decoded {place : SoundBankId} {encoded : List UInt8} {staged : Staged}
    (hlength : encoded.length = 704)
    (h : Io.eval (faultless s) (ExceptT.adapt orMismatch (decodeStagingHeader H encoded place)) =
      .ok staged) :
    planIsValid staged.plan = true := by
  rw [Io.eval_adapt] at h
  cases hfound : (decodeStagingHeader H encoded place).eval (faultless s) with
  | error e =>
    rw [hfound] at h
    cases h
  | ok found =>
    rw [hfound] at h
    rw [← Except.ok.inj h]
    exact ((decodeStagingHeader_eq_ok hlength).1 hfound).1.2.2

theorem loadStagingHeader_exact (hK : K s) (place : SoundBankId) (transaction : TransactionId)
    (hinactive : st.updateActive = false) :
    Meets (soundFlash evident) (Leaves bank) (loadStagingHeader H place transaction)
      (Ends (fun _ => TakenUp H s) fun _ => NothingDone s) K st s := by
  have hfail :
    ∀ e, Ends (fun (_ : Unit) => TakenUp H s) (fun (_ : SoundStoreResult) => NothingDone s)
    (.error e) st s :=
    fun _ => ⟨rfl, hinactive⟩
  have hdecode (encoded : List UInt8) :
    Finding evident place 0 (ExceptT.adapt orMismatch (decodeStagingHeader H encoded place)) :=
    observes_adapt (finding_decodeStagingHeader encoded) orMismatch_fault
  have hderive (plan : SoundBundlePlan) (generation : UInt64) :
    Finding evident place 0 (deriveTransactionId H plan place generation) :=
    finding_deriveTransactionId plan generation
  refine meets_bind (meets_look (observing_read ioError_fault (Nat.zero_le _) _) hK
    (fun encoded hencoded => ?_) fun e _ => hfail e)
  refine meets_bind (meets_look (hdecode encoded) hK (fun staged hdecoded => ?_) fun e _ => hfail e)
  refine meets_bind (meets_look (hderive _ _) hK (fun expected _ => ?_) fun e _ => hfail e)
  refine meets_refuse_bind (fun _ => hfail _) fun _ =>
    meets_get_bind (meets_refuse_bind (fun _ => hfail _) fun _ => ?_)
  have hlength : encoded.length = 704 := Except.ok.inj hencoded ▸ length_region ..
  exact meets_modify_bind (loadContent_exact
    { st with
      updateActive := true, updateBank := place, updateGeneration := staged.generation
      updatePlan := staged.plan, updateTransactionId := staged.transaction
      payloadComplete := fun _ => false, manifestComplete := false }
    hK rfl (planIsValid_of_decoded hlength hdecoded) rfl)

theorem unselective_nothingDone (s : Flash) : Unselective (NothingDone s) := fun _ _ _ _ _ _ _ h => h

theorem resumeFrom_exact (hK : K s) (transaction : TransactionId) (candidates : List SoundBankId)
    (hinactive : st.updateActive = false) :
    Meets (soundFlash evident) (Leaves bank) (resumeFrom H transaction candidates)
      (Ends (fun identity st' s' => TakenUp H s st' s' ∧ identity = st'.updateIdentity) fun _ =>
        NothingDone s) K st s := by
  induction candidates generalizing st with
  | nil => exact meets_throw ⟨rfl, hinactive⟩
  | cons candidate candidates ih =>
    refine meets_get_bind (meets_ite (fun _ => ih hinactive) fun _ => ?_)
    refine meets_attempt_bind
      ((loadStagingHeader_exact hK candidate transaction hinactive).mono ?_ fun _ => id)
    rintro (e | a) st' s' ⟨rfl, h'⟩
    · exact meets_ite (fun _ => ih h') fun _ => meets_throw ⟨rfl, h'⟩
    · exact meets_get_bind (meets_pure ⟨⟨rfl, h'⟩, rfl⟩)

/-- An update that is resumed is exactly what the flash holds of it. -/
theorem resumeUpdate_exact (transaction : TransactionId) (hinactive : st.updateActive = false) :
    Meets (soundFlash evident) (Leaves bank) (resumeUpdate H transaction)
      (Ends (fun identity st' s' => TakenUp H s st' s' ∧ identity = st'.updateIdentity) fun _ =>
        NothingDone s)
      (fun s' => s' = s) st s := by
  have hsame : NothingDone s st s := ⟨rfl, hinactive⟩
  refine meets_refuse_bind (fun _ => hsame) fun _ =>
    meets_get_bind (meets_refuse_bind (fun _ => hsame) fun _ => ?_)
  refine (keeps_ensureSelected (unselective_nothingDone s) (fun _ _ h => h.1) st s hsame).andThen ?_
    fun _ _ _ h => h
  rintro _ st₁ s₁ ⟨rfl, h₁⟩
  exact resumeFrom_exact (K := fun s' => s' = s₁) rfl transaction [.a, .b] h₁

end Resuming

/-! ## Beginning -/

section Honesty

/-- A method, whatever the storage does. -/
abbrev Always (evident : Flash → Flash → Prop) (x : StoreMethod α)
    (Q : Except SoundStoreResult α → SoundAssetStore → Flash → Prop)
    (st : SoundAssetStore) (s : Flash) : Prop :=
      Meets (soundFlash evident) (fun _ => True) x Q (fun _ => True) st s

theorem always_of_leaves {x : StoreMethod α} {K : Flash → Prop}
    {P Q : Except SoundStoreResult α → SoundAssetStore → Flash → Prop}
    (h : Meets (soundFlash evident) (Leaves .a) x P K st s)
    (hP : ∀ r st' s', P r st' s' → Q r st' s') : Always evident x Q st s :=
  (h.mono hP fun _ _ => trivial).weaken fun _ _ => trivial

/-- Keeping the report true, whatever the storage does. -/
abbrev KeepsHonest (H : Hashes) (evident : Flash → Flash → Prop) (x : StoreMethod α) : Prop :=
  Keeps (soundFlash evident) (fun _ => True) (Honest H) (fun _ => True) x

/-- Without an update nothing is reported. -/
abbrev Idles (evident : Flash → Flash → Prop) (x : StoreMethod α) : Prop :=
  Keeps (soundFlash evident) (fun _ => True) (fun st _ => st.updateActive = false) (fun _ => True) x

theorem honest_of_inactive (h : st.updateActive = false) : Honest H st s :=
  fun hactive => absurd (h.symm.trans hactive) Bool.false_ne_true

theorem unselective_honest : Unselective (Honest H) := fun _ _ _ _ _ _ _ h hactive =>
  ⟨(h hactive).plan, (h hactive).manifest, (h hactive).blocks⟩

theorem idles_lift (x : Checked α) : Idles evident (Method.lift x) := fun _ _ h =>
  (meets_lift_trivial x).mono (fun _ _ _ hst => hst ▸ h) fun _ => id

theorem keeps_onError {x : StoreMethod α} {undo : SoundAssetStore → SoundAssetStore}
    {D : Device StorageCall StorageAnswer Flash}
    {G : StorageCall → Prop} {I : SoundAssetStore → Flash → Prop} {K : Flash → Prop} (hx : Keeps D G I K x)
    (hundo : ∀ st s, I st s → I (undo st) s) : Keeps D G I K (onError x undo) := by
  refine keeps_bind (keeps_attempt hx) fun r => ?_
  cases r with
  | ok a => exact keeps_pure _
  | error e => exact keeps_bind (keeps_modify hundo) fun _ => keeps_throw _

theorem idles_ensureSelected : Idles evident (ensureSelected H) :=
  Keeps.weaken (G := Leaves .a)
    (keeps_ensureSelected (fun _ _ _ _ _ _ _ h => h) fun _ _ _ => trivial) fun _ _ => trivial

theorem idles_reclaimTarget (plan : SoundBundlePlan) (generation : UInt64) (target : SoundBankId) :
    Idles evident (reclaimTarget H plan generation target) := by
  refine keeps_onError (keeps_get fun st s h => meets_refuse_bind (fun _ => h) fun _ => ?_) fun _ _ h => h
  refine keeps_bind ?_ (fun _ => idles_lift _) st s h
  refine keeps_bind (keeps_onError (idles_lift _) fun _ _ h => h) fun _ =>
    keeps_bind (keeps_modify fun _ _ h => h) fun _ => ?_
  exact keeps_bind (idles_lift _) fun _ => idles_lift _

/-- An update that has just begun has nothing to report. -/
theorem stageUpdate_honest {plan : SoundBundlePlan} (hplan : planIsValid plan = true)
    (generation : UInt64) (target : SoundBankId) (transaction : TransactionId) :
    Always evident (stageUpdate H plan generation target transaction) (fun _ => Honest H) st s := by
  refine meets_modify_bind (meets_onError ?_)
  generalize hst : ({ st with
    updatePlan := plan, updateTransactionId := transaction, payloadComplete := fun _ => false
    manifestComplete := false, updateActive := true } : SoundAssetStore) = fresh
  have hfresh : ∀ s', Honest H fresh s' := by
    subst hst
    exact fun s' _ =>
      ⟨hplan, fun h => absurd h Bool.false_ne_true, fun _ _ h => absurd h Bool.false_ne_true⟩
  refine (meets_lift_trivial _).andThen ?_ fun e st' s' _ => honest_of_inactive rfl
  rintro header _ s' rfl
  refine (meets_lift_trivial _).mono ?_ fun _ => id
  rintro (e | a) _ s'' rfl
  · exact honest_of_inactive rfl
  · exact hfresh s''

/-- From a state without an update, the report is true in the end. -/
abbrev Starts (H : Hashes) (evident : Flash → Flash → Prop) (x : StoreMethod α) : Prop :=
  ∀ st s, st.updateActive = false → Always evident x (fun _ => Honest H) st s

theorem Idles.starts {β : Type} {x : StoreMethod α} {f : α → StoreMethod β} (hx : Idles evident x)
    (hf : ∀ a, Starts H evident (f a)) :
    Starts H evident (x >>= f) := fun st s h =>
  (hx st s h).andThen (fun a st' s' h' => hf a st' s' h') fun _ _ _ h' => honest_of_inactive h'

theorem starts_ite {c : Prop} [Decidable c] {x y : StoreMethod α} (hx : Starts H evident x)
    (hy : Starts H evident y) :
    Starts H evident (if c then x else y) := by
  split
  · exact hx
  · exact hy

theorem idles_get : Idles evident (get : StoreMethod SoundAssetStore) := fun _ _ h => meets_get h

theorem idles_refuse (c : Prop) [Decidable c] (e : SoundStoreResult) :
    Idles evident (refuse c e : StoreMethod Unit) := keeps_refuse c e

theorem idles_ofExcept (x : Except SoundStoreResult α) : Idles evident (ofExcept x) := fun _ _ h =>
  meets_ofExcept (fun _ _ => h) fun _ _ => h

theorem starts_beginNewUpdate (plan : SoundBundlePlan) : Starts H evident (beginNewUpdate H plan) := by
  intro st s h
  refine meets_refuse_bind (fun _ => honest_of_inactive h) fun hplan => ?_
  refine Idles.starts idles_get (fun before => Idles.starts (idles_refuse _ _) fun _ => ?_) st s h
  refine Idles.starts idles_ensureSelected fun _ => Idles.starts idles_get fun selected =>
    Idles.starts (idles_ofExcept _) fun next => ?_
  refine Idles.starts (keeps_modify fun _ _ h => h) fun _ =>
    Idles.starts (idles_reclaimTarget _ _ _) fun transaction st₁ s₁ _ => ?_
  refine (stageUpdate_honest (by simpa using hplan) _ _ _).andThen ?_ fun _ _ _ h => h
  exact fun _ _ _ h => meets_pure h

theorem starts_loadStagingHeader (bank : SoundBankId) (transaction : TransactionId) :
    Starts H evident (loadStagingHeader H bank transaction >>= fun _ =>
      get >>= fun s => pure s.updateIdentity) := by
  intro st s h
  have hload :
    Always evident (loadStagingHeader H bank transaction)
    (Ends (fun _ => TakenUp H s) fun _ => NothingDone s) st s :=
    always_of_leaves (loadStagingHeader_exact (K := fun _ => True) trivial bank transaction h)
      fun _ _ _ => id
  refine hload.andThen (fun _ st' s' h' => meets_get_bind (meets_pure fun _ => h'.2.2.truthful))
    fun _ _ _ h' => honest_of_inactive h'.2

theorem beginOrResumeUpdate_honest (plan : SoundBundlePlan) :
    KeepsHonest H evident (beginOrResumeUpdate H plan) := by
  intro st s h
  refine meets_refuse_bind (fun _ => h) fun _ =>
    meets_get_bind (meets_ite (fun _ => ?_) fun hinactive => ?_)
  · exact meets_get_bind (meets_refuse_bind (fun _ => h) fun _ => meets_get_bind (meets_pure h))
  rw [Bool.not_eq_true] at hinactive
  refine Idles.starts idles_ensureSelected (fun _ => Idles.starts idles_get fun selected =>
    Idles.starts (idles_ofExcept _) fun next => ?_)
    st s hinactive
  refine Idles.starts idles_get fun pinned => Idles.starts (idles_refuse _ _) fun _ =>
    Idles.starts (idles_lift _) fun expected => ?_
  refine starts_ite (starts_beginNewUpdate plan) (Idles.starts (idles_lift _) fun encoded =>
    starts_ite (starts_beginNewUpdate plan) ?_)
  refine Idles.starts (idles_lift _) fun staged => Idles.starts (idles_lift _) fun observed =>
    Idles.starts (idles_refuse _ _) fun _ => ?_
  exact starts_ite (starts_beginNewUpdate plan)
    (Idles.starts (idles_refuse _ _) fun _ => starts_loadStagingHeader _ _)

theorem resumeUpdate_honest (transaction : TransactionId) :
    KeepsHonest H evident (resumeUpdate H transaction) := by
  intro st s h
  cases hactive : st.updateActive with
  | false =>
    refine always_of_leaves (resumeUpdate_exact transaction hactive) ?_
    rintro (e | identity) st' s' h'
    · exact honest_of_inactive h'.2
    · exact fun _ => h'.1.2.2.truthful
  | true =>
    refine meets_refuse_bind (fun _ => h) fun _ =>
      meets_get_bind (meets_refuse_bind (fun _ => h) fun hinactive => ?_)
    exact absurd hactive hinactive

/-! ## Discarding -/

theorem idles_discardInvalidStaging (plan : SoundBundlePlan) :
    Idles evident (discardInvalidStaging H plan) := by
  refine keeps_bind (keeps_refuse _ _) fun _ => keeps_bind idles_get fun before =>
    keeps_bind (keeps_refuse _ _) fun _ => ?_
  refine keeps_bind idles_ensureSelected fun _ => keeps_bind idles_get fun selected =>
    keeps_bind (idles_ofExcept _) fun next => ?_
  refine keeps_bind (keeps_refuse _ _) fun _ => keeps_bind idles_get fun pinned =>
    keeps_bind (keeps_refuse _ _) fun _ => ?_
  refine keeps_bind (keeps_refuse _ _) fun _ => keeps_bind (idles_lift _) fun state => ?_
  split
  · exact keeps_pure _
  · exact keeps_throw _
  · exact keeps_pure _
  · refine keeps_bind (keeps_onError (keeps_bind (idles_lift _) fun _ => idles_lift _) fun _ _ h =>
      h) fun _ => ?_
    exact keeps_bind (keeps_modify fun _ _ h => h) fun _ => keeps_refuse _ _

theorem discardInvalidStaging_honest (plan : SoundBundlePlan) :
    KeepsHonest H evident (discardInvalidStaging H plan) := by
  intro st s h
  cases hactive : st.updateActive with
  | false =>
    exact (idles_discardInvalidStaging plan st s hactive).mono
      (fun _ _ _ h' => honest_of_inactive h') fun _ => id
  | true =>
    refine meets_refuse_bind (fun _ => h) fun _ =>
      meets_get_bind (meets_refuse_bind (fun _ => h) fun hinactive => ?_)
    exact absurd hactive hinactive

/-! ## Writing -/

section Writing
variable {F : SoundStoreResult → Prop} {x : Checked α} {bank : SoundBankId} {low : Nat}

/-- A look at the flash changes nothing. -/
theorem always_find (hx : Finding evident bank low x)
    {Q : Except SoundStoreResult α → SoundAssetStore → Flash → Prop}
    (hok : ∀ a, Q (.ok a) st s) (herror : ∀ e, Q (.error e) st s) : Always evident (Method.lift x) Q st s :=
  always_of_leaves (K := fun _ => True)
    (meets_look hx trivial (fun a _ => hok a) fun e _ => herror e) fun _ _ _ => id

theorem honest_verifyManifest : KeepsHonest H evident (verifyManifest H) :=
  Keeps.weaken (G := Leaves .a) (keeps_verifyManifest fun _ _ _ => trivial) fun _ _ => trivial

/-- What a write or an erase may do to a range of the bank of the update. -/
def Within (st : SoundAssetStore) (s : Flash) (low high : Nat) (s' : Flash) : Prop :=
  ∀ i, i < low ∨ high ≤ i → s' st.updateBank i = s st.updateBank i

theorem always_write {offset : Nat} {bytes : List UInt8} {high : Nat}
    (hhigh : offset + bytes.length ≤ high) :
    Always evident (Method.lift (write mapIo st.updateBank offset bytes)) (fun _ st' s' => st' = st ∧
      Within st s offset high s') st s :=
  meets_write trivial (fun _ _ => trivial)
    (fun _ h _ => ⟨rfl, fun i hi => h.outside i (hi.imp_right hhigh.trans)⟩)
    fun _ _ _ h => ⟨rfl, fun i hi => h.outside i (hi.imp_right hhigh.trans)⟩

theorem always_erase {offset n : Nat} :
    Always evident (Method.lift (erase mapIo st.updateBank offset n)) (fun _ st' s' => st' = st ∧
      Within st s offset (offset + n) s') st s :=
  meets_erase trivial (fun _ _ _ => trivial) (fun _ h _ => ⟨rfl, h.outside⟩) fun _ _ _ h _ =>
    ⟨rfl, h.outside⟩

end Writing

/-- A step of an update that leaves the state alone. -/
theorem honest_step {x : StoreMethod Unit} {low high : Nat} (h : Truthful H st s)
    (hx : Always evident x (fun _ st' s' => st' = st ∧ Within st s low high s') st s)
    (hkeep : ∀ s', Within st s low high s' → Truthful H st s') {f : Unit → StoreMethod α}
    (hf : ∀ s', Truthful H st s' → Always evident (f ()) (fun _ => Honest H) st s') :
    Always evident (x >>= f) (fun _ => Honest H) st s := by
  refine hx.andThen ?_ ?_
  · rintro _ _ s' ⟨rfl, hs'⟩
    exact hf s' (hkeep s' hs')
  · rintro _ _ s' ⟨rfl, hs'⟩
    exact fun _ => hkeep s' hs'

/-- The journal is between the manifest and the blocks. -/
theorem Truthful.journal (h : Truthful H st s) {low high : Nat} (hlow : soundJournalOffset ≤ low)
    (hhigh : high ≤ soundPayloadOffset)
    (hwithin : Within st s low high s') : Truthful H st s' :=
  h.outside fun i hi => hwithin i (hi.imp (fun h => lt_of_lt_of_le h.2 hlow) fun h => hhigh.trans h.1)

theorem rewriteManifest_honest (h : Truthful H st s) (hincomplete : st.manifestComplete = false)
    {manifest : List UInt8}
    (hlength : manifest.length ≤ soundSectorSize) :
    Always evident (rewriteManifest H manifest) (fun _ => Honest H) st s := by
  -- the manifest is not marked, and the blocks are elsewhere
  have hkeep : ∀ s s', Truthful H st s → Within st s soundManifestOffset soundJournalOffset s' →
    Truthful H st s' := fun s s' h hs' =>
    h.change (fun hcomplete => absurd (hincomplete.symm.trans hcomplete) Bool.false_ne_true)
      fun blockIndex _ _ i hi _ =>
      hs' i (.inr (le_trans (by decide) ((Nat.le_add_right ..).trans hi)))
  refine meets_get_bind (honest_step h always_erase (hkeep s · h) fun s₁ h₁ => ?_)
  refine honest_step h₁ (always_write (Nat.add_le_add_left hlength _)) (hkeep s₁ · h₁) fun s₂ h₂ => ?_
  refine (always_of_leaves
    (@verifyManifest_spec H evident st s₂ (fun _ => True) .a trivial) fun _ _ _ => id).andThen ?_ ?_
  · rintro _ st₃ s₃ ⟨rfl, rfl, hheld⟩
    have hmarked :
      Truthful H { st₃ with manifestComplete := true } s₃ := ⟨h₂.plan, fun _ => hheld, h₂.blocks⟩
    refine meets_modify_bind (meets_get_bind ?_)
    refine (always_write (Nat.le_refl _)).mono ?_ fun _ => id
    rintro _ _ s₄ ⟨rfl, hs₄⟩
    exact fun _ => hmarked.journal (Nat.le_refl _) (by decide) hs₄
  · rintro _ _ s₃ ⟨rfl, rfl, _⟩
    exact fun _ => h₂

theorem writeManifest_honest (manifest : List UInt8) :
    KeepsHonest H evident (writeManifest H manifest) := by
  have hcheck (kind : SoundStorageWorkKind) (bank : SoundBankId) : Finding evident .a 0
      (checkPieces mapIo kind bank soundManifestOffset (pieces manifest.length)) :=
        observing_checkPieces mapIo_fault _ _ _ _
  have hfinish (bank : SoundBankId) : Finding evident .a 0
      (work mapIo .sha256 bank soundManifestOffset sha256FinishBudgetBytes) :=
        observing_work mapIo_fault _ _ _ _
  intro st s h
  refine meets_get_bind (meets_refuse_bind (fun _ => h) fun hactive =>
    meets_refuse_bind (fun _ => h) fun hlength => ?_)
  have htrue : Truthful H st s := h (Bool.not_eq_false _ ▸ hactive)
  have hsector : manifest.length ≤ soundSectorSize := not_not.1 hlength ▸ (planIsValid_sizes htrue.plan).1
  refine meets_bind (always_find (hcheck _ _) (fun _ => ?_) fun _ => h)
  refine meets_bind (always_find (hcheck _ _) (fun _ => ?_) fun _ => h)
  refine meets_bind
    (always_find (hfinish _) (fun _ => meets_refuse_bind (fun _ => h) fun _ => ?_) fun _ => h)
  refine meets_ite (fun _ => meets_attempt_bind ?_) fun hincomplete =>
    rewriteManifest_honest htrue (Bool.not_eq_true _ ▸ hincomplete) hsector
  refine always_of_leaves (@verifyManifest_spec H evident st s (fun _ => True) .a trivial) ?_
  rintro (e | a) st₁ s₁ h₁
  · obtain ⟨rfl, rfl, _⟩ := h₁
    have hcleared : Truthful H { st₁ with manifestComplete := false } s₁ :=
      ⟨htrue.plan, fun hcomplete => absurd hcomplete Bool.false_ne_true, htrue.blocks⟩
    exact meets_refuse_bind (fun _ => h) fun _ =>
      meets_modify_bind (rewriteManifest_honest hcleared rfl hsector)
  · obtain ⟨rfl, rfl, _⟩ := h₁
    exact meets_pure h

/-- A block is marked as it was found. -/
theorem Truthful.setPayloadComplete (h : Truthful H st s) {blockIndex : Nat} {complete : Bool}
    (hcomplete : complete = true → BlockHeld H st s blockIndex) :
    Truthful H (setPayloadComplete blockIndex complete st) s where
  plan := h.plan
  manifest := h.manifest
  blocks i hi hmarked := by
    rw [payloadComplete_set] at hmarked
    by_cases hsame : i = blockIndex
    · subst hsame
      rw [Function.update_self] at hmarked
      exact hcomplete hmarked
    · rw [Function.update_of_ne hsame] at hmarked
      exact h.blocks i hi hmarked

theorem markPayloadComplete_honest (h : Truthful H st s) (blockIndex : Nat) :
    Always evident (markPayloadComplete blockIndex) (fun _ => Honest H) st s := by
  refine meets_refuse_bind (fun _ _ => h) fun hcount => meets_get_bind ?_
  have hread (offset : Nat) : Finding evident st.updateBank 0 (read mapIo st.updateBank offset 1) :=
    observing_read mapIo_fault (Nat.zero_le _) _
  refine meets_bind (always_find (hread _) (fun _ => ?_) fun _ _ => h)
  refine (always_write (Nat.le_refl _)).mono ?_ fun _ => id
  rintro _ _ s₁ ⟨rfl, hs₁⟩ _
  refine h.journal (Nat.le_trans (by decide) (Nat.le_add_right ..)) ?_ hs₁
  simp only [soundJournalOffset, soundPayloadOffset, soundPayloadBlockCount, List.length_singleton]
    at hcount ⊢
  omega

/-- A block that is not marked may be erased and written. -/
theorem Truthful.block (h : Truthful H st s) {blockIndex low : Nat}
    (hincomplete : st.payloadComplete blockIndex = false)
    (hlow : low = soundPayloadOffset + blockIndex * soundPayloadBlockSize)
    (hwithin : Within st s low (low + soundPayloadBlockSize) s') :
    Truthful H st s' := by
  subst hlow
  refine h.change (fun _ i hi hlt =>
    hwithin i (.inl (lt_of_lt_of_le hlt ((show soundJournalOffset ≤ soundPayloadOffset by decide).trans
    (Nat.le_add_right ..))))) fun other _ hcomplete i hi hlt => hwithin i ?_
  have hne : other ≠ blockIndex := by
    rintro rfl
    exact absurd (hincomplete.symm.trans hcomplete) Bool.false_ne_true
  simp only [soundPayloadBlockSize, soundSectorSize] at hi hlt ⊢
  omega

theorem writePayloadBlock_honest (blockIndex : Nat) (data : List UInt8) :
    KeepsHonest H evident (writePayloadBlock H blockIndex data) := by
  have hcheck (bank : SoundBankId) (offset : Nat) : Finding evident .a 0
      (checkPieces mapIo .crc32 bank offset (pieces data.length)) := observing_checkPieces
        mapIo_fault _ _ _ _
  intro st s h
  refine meets_get_bind (meets_refuse_bind (fun _ => h) fun hactive =>
    meets_refuse_bind (fun _ => h) fun hblock => ?_)
  have htrue : Truthful H st s := h (Bool.not_eq_false _ ▸ hactive)
  rw [not_or, not_not, ge_iff_le, not_le] at hblock
  have hlength : data.length ≤ soundPayloadBlockSize := hblock.2 ▸ blockLength_le _ _
  refine meets_bind
    (always_find (hcheck _ _) (fun _ => meets_refuse_bind (fun _ => h) fun _ => ?_) fun _ => h)
  have hverify (s' : Flash) :=
    always_of_leaves (@verifyPayloadBlock_spec H evident st s' (fun _ => True) .a blockIndex trivial)
    fun _ _ _ => id
  refine meets_ite (fun _ => ?_) fun hincomplete => ?_
  · refine (hverify s).andThen ?_ ?_
    · rintro complete _ _ ⟨rfl, rfl, _⟩
      refine meets_ite (fun _ => meets_pure h) fun _ => meets_modify_bind (meets_throw fun _ => ?_)
      exact htrue.setPayloadComplete fun hcomplete => absurd hcomplete Bool.false_ne_true
    · rintro _ _ _ ⟨rfl, rfl, _⟩
      exact h
  rw [Bool.not_eq_true] at hincomplete
  refine honest_step htrue always_erase (fun s' => htrue.block hincomplete rfl) fun s₁ h₁ => ?_
  refine honest_step h₁ (always_write (Nat.add_le_add_left hlength _))
    (fun s' => h₁.block hincomplete rfl) fun s₂ h₂ => ?_
  refine (hverify s₂).andThen ?_ ?_
  · rintro complete _ _ ⟨rfl, rfl, hheld⟩
    refine meets_refuse_bind (fun _ _ => h₂) fun hcomplete =>
      meets_modify_bind (markPayloadComplete_honest ?_ _)
    exact h₂.setPayloadComplete fun _ => hheld.1 (Bool.not_eq_false _ ▸ hcomplete)
  · rintro _ _ _ ⟨rfl, rfl, _⟩
    exact fun _ => h₂

/-! ## Committing and aborting -/

theorem Honest.outside (h : Honest H st s) {low high : Nat} (hwithin : Within st s low high s')
    (hrange : high ≤ soundManifestOffset ∨ soundReservedOffset ≤ low) : Honest H st s' := fun hactive =>
  (h hactive).outside fun i hi => hwithin i (by
    rcases hrange with hlow | hhigh
    · refine .inr (hlow.trans ?_)
      rcases hi with hi | hi
      · exact hi.1
      · exact le_trans (by decide) hi.1
    · refine .inl (lt_of_lt_of_le ?_ hhigh)
      rcases hi with hi | hi
      · exact hi.2.trans (by decide)
      · exact hi.2)

theorem always_writeVerified {offset high : Nat} {bytes : List UInt8}
    (hhigh : offset + bytes.length ≤ high) :
    Always evident (Method.lift (writeVerified st.updateBank offset bytes))
      (fun _ st' s' => st' = st ∧ Within st s offset high s') st s := by
  have hread : Finding evident st.updateBank 0 (read mapIo st.updateBank offset bytes.length) :=
    observing_read mapIo_fault (Nat.zero_le _) _
  have hback (failure : SoundStoreResult) {s' : Flash} (hs' : Within st s offset high s') :
      Always evident (Method.lift (readBack st.updateBank offset bytes failure))
        (fun _ st' s' => st' = st ∧ Within st s offset high s') st s' := by
    rw [readBack, Method.lift_bind, Method.lift_attempt]
    refine meets_attempt_bind (always_find hread (fun stored => ?_) fun e => meets_throw ⟨rfl, hs'⟩)
    dsimp only
    rw [Method.lift_refuse]
    exact meets_refuse (fun _ => ⟨rfl, hs'⟩) fun _ => ⟨rfl, hs'⟩
  rw [writeVerified, Method.lift_bind, Method.lift_attempt]
  refine meets_attempt_bind ((always_write hhigh).mono ?_ fun _ => id)
  rintro r _ s' ⟨rfl, hs'⟩
  exact hback _ hs'

theorem honest_inspectBanks : KeepsHonest H evident (inspectBanks H) :=
  Keeps.weaken (G := Leaves .a) (keeps_inspectBanks fun _ _ _ => trivial) fun _ _ => trivial

theorem honest_clear : KeepsHonest H evident (modify clearUpdateState) :=
  keeps_modify fun _ _ _ => honest_of_inactive rfl

theorem honest_refreshSelectionAfterCommit : KeepsHonest H evident (refreshSelectionAfterCommit H) := by
  refine keeps_bind honest_inspectBanks fun found => keeps_get fun st s h =>
    meets_refuse_bind (fun _ => h) fun _ => ?_
  exact meets_modify (unselective_honest _ _ _ _ _ _ _ h)

theorem honest_verifyAllPayloadBlocks (blocks : List Nat) :
    KeepsHonest H evident (verifyAllPayloadBlocks H blocks) := by
  induction blocks with
  | nil => exact keeps_pure _
  | cons blockIndex blocks ih =>
    intro st s h
    refine (always_of_leaves
      (@verifyPayloadBlock_spec H evident st s (fun _ => True) .a blockIndex trivial) fun _ _ _ =>
      id).andThen ?_ ?_
    · rintro complete _ _ ⟨rfl, rfl, hheld⟩
      refine meets_modify_bind (keeps_bind (keeps_refuse _ _) (fun _ => ih) _ _ fun hactive => ?_)
      exact (h hactive).setPayloadComplete hheld.1
    · rintro _ _ _ ⟨rfl, rfl, _⟩
      exact h

theorem commitUpdate_honest : KeepsHonest H evident (commitUpdate H) := by
  refine keeps_get fun st₀ s₀ h₀ => meets_refuse_bind (fun _ => h₀) fun _ => ?_
  refine keeps_bind honest_verifyManifest (fun _ => keeps_get fun st₁ s₁ h₁ => ?_) st₀ s₀ h₀
  refine keeps_bind (honest_verifyAllPayloadBlocks _) (fun _ => keeps_get fun st s h => ?_) st₁ s₁ h₁
  have hcontent : Finding evident st.updateBank soundManifestOffset (verifyContent H st) :=
    finding_verifyContent
  have hencode :
    Finding evident st.updateBank 0
    (encodeCommitBody H st.updateBank st.updateGeneration st.updateTransactionId st.updatePlan) :=
    finding_encodeCommitBody _ _ _
  refine meets_bind (always_find hcontent (fun _ => ?_) fun _ => h)
  refine meets_bind (always_find hencode (fun body => ?_) fun _ => h)
  have hwrite {s : Flash} (h : Honest H st s) {offset : Nat} {bytes : List UInt8}
    (hrange : soundReservedOffset ≤ offset)
      {f : Unit → StoreMethod Unit} (hf : ∀ s', Honest H st s' →
        Always evident (f ()) (fun _ => Honest H) st s') :
      Always evident (Method.lift (writeVerified st.updateBank offset bytes) >>= f)
        (fun _ => Honest H) st s := by
    refine (always_writeVerified (Nat.le_refl _)).andThen ?_ ?_
    · rintro _ _ s' ⟨rfl, hs'⟩
      exact hf s' (h.outside hs' (.inr hrange))
    · rintro _ _ s' ⟨rfl, hs'⟩
      exact h.outside hs' (.inr hrange)
  refine hwrite h (by decide) fun s₂ h₂ => hwrite h₂ (by decide) fun s₃ h₃ => ?_
  refine meets_bind (always_find finding_validateSoundBank (fun committed =>
    meets_refuse_bind (fun _ => h₃) fun _ => ?_) fun _ => h₃)
  exact keeps_bind honest_refreshSelectionAfterCommit (fun _ => honest_clear) st s₃ h₃

theorem abortUpdate_honest : KeepsHonest H evident (abortUpdate H) := by
  refine keeps_get fun st s h => meets_ite (fun _ => ?_) fun _ => meets_pure h
  refine meets_attempt_bind (always_find finding_validateSoundBank (fun committed => ?_) fun e => ?_)
  · refine meets_refuse_bind (fun _ => h) fun _ => ?_
    exact keeps_bind honest_refreshSelectionAfterCommit (fun _ => honest_clear) st s h
  · refine meets_refuse_bind (fun _ => h) fun _ =>
      always_erase.andThen (fun _ st' s' _ => meets_modify (honest_of_inactive rfl)) ?_
    rintro _ _ s' ⟨rfl, hs'⟩
    exact h.outside hs' (.inl (by decide))

/-! ## Any call -/

theorem queryCurrentActive_honest : KeepsHonest H evident (queryCurrentActive H) := by
  have hforget : ∀ st s, Honest H st s → Honest H (forgetSelection st) s :=
    fun st s h => unselective_honest.forget h
  refine keeps_bind (keeps_onError honest_inspectBanks hforget) fun found => ?_
  refine keeps_bind (keeps_onError (keeps_refuse _ _) hforget) fun _ => ?_
  refine keeps_bind (keeps_modify fun st s h => unselective_honest st s _ _ _ _ _ h) fun _ =>
    keeps_get fun st s h => ?_
  refine meets_ite (fun _ => meets_refuse_bind (fun _ => h) fun _ => ?_) fun _ => meets_pure h
  exact meets_modify_bind (meets_pure (honest_of_inactive rfl))

theorem queryTransactionOutcome_honest (transaction : TransactionId) :
    KeepsHonest H evident (queryTransactionOutcome H transaction) := by
  have hscan : KeepsHonest H evident (ensureScanned H) :=
    Keeps.weaken (G := Leaves .a)
      (keeps_ensureScanned unselective_honest fun _ _ _ => trivial) fun _ _ => trivial
  have hquery : KeepsHonest H evident (scanForQuery H) := by
    refine keeps_bind (keeps_attempt hscan) fun r => ?_
    cases r with
    | ok a => exact keeps_pure _
    | error e => exact keeps_refuse _ _
  refine keeps_bind (keeps_refuse _ _) fun _ => keeps_get fun st s h =>
    meets_ite (fun _ => meets_pure h) fun _ => ?_
  refine keeps_bind hquery (fun _ => keeps_get fun st₁ s₁ h₁ => ?_) st s h
  exact meets_ite (fun _ => meets_pure h₁) fun _ => meets_ite (fun _ => meets_pure h₁) fun _ =>
    meets_pure h₁

theorem Read.honest (hread : Read st s st' s') (h : Honest H st s) : Honest H st' s' := by
  obtain ⟨rfl, _, _, _, _, _, rfl⟩ := hread
  exact fun hactive => ⟨(h hactive).plan, (h hactive).manifest, (h hactive).blocks⟩

theorem honest_map {β : Type} {x : StoreMethod α} {f : α → β} (hx : KeepsHonest H evident x) :
    KeepsHonest H evident (f <$> x) :=
  fun st s h => meets_map (hx st s h)

theorem honest_reading {x : StoreMethod α} (hx : ∀ st s, Reading evident .a st s x) :
    KeepsHonest H evident x := fun st s h =>
  always_of_leaves (hx st s st s (Read.refl st s)) fun _ _ _ hread => hread.honest h

/-- No call makes an update report what is not there. -/
theorem StoreOperation.honest (op : StoreOperation) : KeepsHonest H evident (op.method H) := by
  cases op with
  | scan =>
    exact Keeps.weaken (G := Leaves .a)
      (keeps_scan unselective_honest fun _ _ _ => trivial) fun _ _ => trivial
  | beginOrResume plan => exact honest_map (beginOrResumeUpdate_honest plan)
  | resume transaction => exact honest_map (resumeUpdate_honest transaction)
  | queryTransactionOutcome transaction => exact honest_map (queryTransactionOutcome_honest transaction)
  | queryCurrentActive => exact honest_map queryCurrentActive_honest
  | discardInvalidStaging plan => exact discardInvalidStaging_honest plan
  | writeManifest manifest => exact writeManifest_honest manifest
  | writePayloadBlock blockIndex data => exact writePayloadBlock_honest blockIndex data
  | commit => exact commitUpdate_honest
  | abort => exact abortUpdate_honest
  | acquireActiveRead => exact honest_map (honest_reading fun _ _ => reading_acquireActiveRead)
  | releaseRead lease => exact honest_reading fun _ _ => reading_releaseRead lease

end Honesty

/-! ## What is reported -/

/-- The bits of a byte of the bitmap. -/
theorem getLsbD_progressByte (st : SoundAssetStore) (index bit : Nat) (hbit : bit < 8) :
    (progressByte st index).toBitVec.getLsbD bit =
      decide (8 * index + bit < blockCount st.updatePlan.payloadBytes ∧
        st.payloadComplete (8 * index + bit) = true) := by
  have hall : ∀ (bits : List Nat) (byte : UInt8), (∀ i ∈ bits, i < 8) →
      (bits.foldl (fun byte bit =>
        if 8 * index + bit < blockCount st.updatePlan.payloadBytes ∧
          st.payloadComplete (8 * index + bit) = true
        then byte ||| (1 <<< UInt8.ofNat bit) else byte) byte).toBitVec.getLsbD bit =
      (byte.toBitVec.getLsbD bit || decide (bit ∈ bits ∧
        8 * index + bit < blockCount st.updatePlan.payloadBytes ∧
        st.payloadComplete (8 * index + bit) = true)) := by
    intro bits
    induction bits with
    | nil => simp
    | cons i bits ih =>
      intro byte hbits
      obtain ⟨hi, hrest⟩ := List.forall_mem_cons.1 hbits
      rw [List.foldl_cons, ih _ hrest]
      have hmask : (1 : UInt8) <<< UInt8.ofNat i = Bitmap.mask i := by rw [Bitmap.mask, Nat.mod_eq_of_lt hi]
      split
      · rename_i hset
        rw [hmask, Bitmap.getLsbD_or_mask, Nat.mod_eq_of_lt hi, Bool.or_assoc]
        congr 1
        by_cases hsame : i = bit
        · subst hsame
          simp [hset]
        · simp [hsame, Ne.symm hsame]
      · rename_i hclear
        congr 1
        by_cases hsame : i = bit
        · subst hsame
          simp [hclear]
        · simp [Ne.symm hsame]
  rw [progressByte, hall _ _ fun i hi => List.mem_range.1 hi]
  simp [hbit]

/-- A block is reported complete that is marked, and one of the update. -/
theorem member_updateProgress {progress : SoundUpdateProgress} (h : st.updateProgress = .ok progress)
    (hcount : blockCount st.updatePlan.payloadBytes ≤ 128) (blockIndex : Nat) :
    Bitmap.member progress.payloadCompleteBitmap.toList blockIndex = true ↔
      blockIndex < blockCount st.updatePlan.payloadBytes ∧ st.payloadComplete blockIndex = true := by
  rw [updateProgress] at h
  split at h
  · rw [← Except.ok.inj h, Bitmap.member_eq]
    by_cases hindex : blockIndex / 8 < 16
    · have hbyte :
        (Vector.ofFn fun index : Fin 16 => st.progressByte index.val).toList.getD (blockIndex / 8) 0 =
          st.progressByte (blockIndex / 8) := by
        rw [List.getD_eq_getElem?_getD, Vector.getElem?_toList, Vector.getElem?_ofFn,
          dif_pos hindex, Option.getD_some]
      rw [hbyte, getLsbD_progressByte _ _ _ (Nat.mod_lt _ (by decide)), Nat.div_add_mod, decide_eq_true_iff]
    · have hbyte :
        (Vector.ofFn fun index : Fin 16 => st.progressByte index.val).toList.getD
        (blockIndex / 8) 0 = 0 := by
        rw [List.getD_eq_getElem?_getD, Vector.getElem?_toList, Vector.getElem?_ofFn,
          dif_neg hindex, Option.getD_none]
      rw [hbyte]
      simp
      omega
  · cases h

theorem active_of_progress {progress : SoundUpdateProgress} (h : st.updateProgress = .ok progress) :
    st.updateActive = true ∧ progress.manifestComplete = st.manifestComplete := by
  rw [updateProgress] at h
  split at h
  · rename_i hactive
    rw [← Except.ok.inj h]
    exact ⟨hactive, rfl⟩
  · cases h

theorem resumeUpdate_any {bank : SoundBankId} (transaction : TransactionId) :
    Meets (soundFlash evident) (Leaves bank) (resumeUpdate H transaction)
      (Ends (fun identity st' s' => TakenUp H s st' s' ∧ identity = st'.updateIdentity) fun _ _ s' =>
        s' = s)
      (fun s' => s' = s) st s := by
  cases hactive : st.updateActive with
  | false =>
    refine (resumeUpdate_exact transaction hactive).mono ?_ fun _ => id
    rintro (e | identity) st' s' h'
    · exact h'.1
    · exact h'
  | true =>
    refine meets_refuse_bind (fun _ => rfl) fun _ =>
      meets_get_bind (meets_refuse_bind (fun _ => rfl) fun hinactive => ?_)
    exact absurd hactive hinactive

end Progress
end CodexKeyboard.Assets.SoundAssetStore
