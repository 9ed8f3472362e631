import CodexKeyboard.Assets.StoreBegin
/-!
# Writing, committing and aborting

The methods of an update under way. The manifest and the blocks lie between the header and the
commit record, where an update may write what it likes. The record is written body first: until the
body has been read back the marker stays as it was, and from then on a marker that is programmed
part of the way is the marker of this update, or none. So a flash whose power goes while an update
is committed holds the ground, or the ground and the update.
-/

namespace CodexKeyboard.Assets.SoundAssetStore

open Lib Buffer Storage

section Commit
variable {H : Hashes} {ground : Option SoundBankSnapshot} {st st' : SoundAssetStore} {s s' : Flash}
    {α : Type}

/-! ## The update goes on -/

/-- The update under way, with other flags. -/
structure Ongoing (H : Hashes) (ground : Option SoundBankSnapshot) (st st' : SoundAssetStore)
    (s' : Flash) : Prop where
  active : Active H ground st' s'
  flags : ∃ payload manifest, st' = { st with payloadComplete := payload, manifestComplete := manifest }

theorem Active.ongoing (h : Active H ground st s) : Ongoing H ground st st s :=
  ⟨h, st.payloadComplete, st.manifestComplete, rfl⟩

theorem Ongoing.pending_eq (h : Ongoing H ground st st' s') : st'.pending = st.pending := by
  obtain ⟨payload, manifest, rfl⟩ := h.flags
  rfl

theorem Ongoing.update_eq (h : Ongoing H ground st st' s') : st'.update = st.update := by
  obtain ⟨payload, manifest, rfl⟩ := h.flags
  rfl

theorem Ongoing.plan_eq (h : Ongoing H ground st st' s') : st'.updatePlan = st.updatePlan :=
  congrArg Staged.plan h.update_eq

theorem Ongoing.planIsValid (h : Ongoing H ground st st' s') : planIsValid st.updatePlan = true :=
  h.plan_eq ▸ h.active.valid.2.2

theorem Ongoing.sound (h : Ongoing H ground st st' s') : Sound H ground st.pending s' :=
  h.pending_eq ▸ h.active.sound

theorem Ongoing.setFlags (h : Ongoing H ground st st' s') (payload : Nat → Bool) (manifest : Bool) :
    Ongoing H ground st { st' with payloadComplete := payload, manifestComplete := manifest } s' := by
  refine ⟨h.active.flags payload manifest, ?_⟩
  obtain ⟨_, _, rfl⟩ := h.flags
  exact ⟨payload, manifest, rfl⟩

/-- Keeping the update under way, and the flash sound. -/
abbrev Carries (H : Hashes) (ground : Option SoundBankSnapshot) (st : SoundAssetStore)
    (x : StoreMethod α) : Prop :=
  Keeps (storeFlash H) (Leaves (target ground).other) (Ongoing H ground st) (Sound H ground st.pending) x

section Carrying
variable {k : SoundStorageFault → SoundStoreResult} {offset n : Nat} {bytes : List UInt8}

theorem carries_write (hlow : soundManifestOffset ≤ offset)
    (hhigh : offset + bytes.length ≤ soundCommitOffset)
    (hspare : ∀ i, offset ≤ i → i < offset + bytes.length → ¬ Spare st.updatePlan i) :
    Carries H ground st (Method.lift (write k (target ground) offset bytes)) := by
  intro st' s' h
  have hprogram {s'' : Flash} (hprogram : Programs s' (target ground) offset bytes s'') :
    Ongoing H ground st st' s'' := by
    refine ⟨h.active.above (hprogram.other _ (SoundBankId.other_ne _)) ?_ fun i hi =>
      hprogram.outside i (.inl (hi.trans_le hlow)), h.flags⟩
    refine h.active.ready.program hprogram hhigh ?_
    rw [h.update_eq]
    exact hspare
  exact meets_write leaves_write (fun _ h' => (hprogram h').sound)
    (fun _ h' _ => hprogram h') fun _ _ _ h' => hprogram h'

theorem carries_erase (hlow : soundManifestOffset ≤ offset) (hhigh : offset + n ≤ soundCommitOffset) :
    Carries H ground st (Method.lift (erase k (target ground) offset n)) := by
  intro st' s' h
  have herase {s'' : Flash} (herase : Erases s' (target ground) offset n s'') :
    Ongoing H ground st st' s'' :=
    ⟨h.active.above (herase.other _ (SoundBankId.other_ne _)) (h.active.ready.erase herase hhigh)
      fun i hi => herase.outside i (.inl (hi.trans_le hlow)), h.flags⟩
  exact meets_erase leaves_erase (fun _ h' _ => (herase h').sound)
    (fun _ h' _ => herase h') fun _ _ _ h' _ => herase h'

theorem carries_find {x : Checked α} {bank : SoundBankId} {low : Nat}
    (hx : Finding (TearEvident H) bank low x) :
    Carries H ground st (Method.lift x) := keeps_find hx fun _ _ h => h.sound

theorem carries_verifyManifest : Carries H ground st (verifyManifest H) :=
  keeps_verifyManifest fun _ _ h => h.sound

theorem carries_verifyPayloadBlock (blockIndex : Nat) :
    Carries H ground st (verifyPayloadBlock H blockIndex) :=
  keeps_verifyPayloadBlock (fun _ _ h => h.sound) blockIndex

theorem carries_setPayloadComplete (blockIndex : Nat) (complete : Bool) :
    Carries H ground st (modify (setPayloadComplete blockIndex complete)) :=
  keeps_modify fun _ _ h => h.setFlags _ _

/-! ## Manifest and blocks -/

theorem carries_markManifestComplete : Carries H ground st markManifestComplete := by
  refine keeps_get fun st' s' h => ?_
  rw [h.active.bank]
  exact carries_write (by decide) (by decide)
    (fun i hi hlt => not_spare_journal hi (hlt.trans (by decide))) st' s' h

theorem carries_rewriteManifest {manifest : List UInt8}
    (hlength : manifest.length = st.updatePlan.manifestBytes.toNat)
    (hplan : planIsValid st.updatePlan = true) :
    Carries H ground st (rewriteManifest H manifest) := by
  refine keeps_get fun st' s' h => ?_
  rw [h.active.bank]
  refine keeps_bind (carries_erase (Nat.le_refl _) (by decide)) (fun _ => ?_) st' s' h
  have hsector : manifest.length ≤ soundSectorSize := hlength ▸ (planIsValid_sizes hplan).1
  refine keeps_bind
    (carries_write (Nat.le_refl _) ((Nat.add_le_add_left hsector _).trans (by decide)) fun i _ hlt =>
    ?_) fun _ => ?_
  · exact not_spare_manifest hplan (hlength ▸ hlt)
  refine keeps_bind carries_verifyManifest fun _ => ?_
  exact keeps_bind (keeps_modify fun _ _ h => h.setFlags _ true) fun _ => carries_markManifestComplete

theorem carries_writeManifest (manifest : List UInt8) : Carries H ground st (writeManifest H manifest) := by
  have hcheck (kind : SoundStorageWorkKind) (bank : SoundBankId) : Finding (TearEvident H) .a 0
      (checkPieces mapIo kind bank soundManifestOffset (pieces manifest.length)) :=
        observing_checkPieces mapIo_fault _ _ _ _
  have hfinish (bank : SoundBankId) : Finding (TearEvident H) .a 0
      (work mapIo .sha256 bank soundManifestOffset sha256FinishBudgetBytes) :=
        observing_work mapIo_fault _ _ _ _
  refine keeps_get fun st' s' h => ?_
  refine meets_refuse_bind (fun _ => h) fun _ => meets_refuse_bind (fun _ => h) fun hlength => ?_
  have hbytes : manifest.length = st.updatePlan.manifestBytes.toNat := h.plan_eq ▸ not_not.1 hlength
  have hrewrite : Carries H ground st (rewriteManifest H manifest) :=
    carries_rewriteManifest hbytes h.planIsValid
  refine keeps_bind (carries_find (hcheck _ _)) (fun _ => ?_) st' s' h
  refine keeps_bind (carries_find (hcheck _ _)) fun _ => keeps_bind (carries_find (hfinish _)) fun _ => ?_
  refine keeps_bind (keeps_refuse _ _) fun _ => keeps_ite ?_ hrewrite
  refine keeps_bind (keeps_attempt carries_verifyManifest) fun r => ?_
  cases r with
  | ok a => exact keeps_pure _
  | error e =>
    refine keeps_bind (keeps_refuse _ _) fun _ => ?_
    exact keeps_bind (keeps_modify fun _ _ h => h.setFlags _ false) fun _ => hrewrite

theorem carries_markPayloadComplete (blockIndex : Nat) :
    Carries H ground st (markPayloadComplete blockIndex) := by
  intro st' s' h
  refine meets_refuse_bind (fun _ => h) fun hcount => meets_get_bind ?_
  have hread (offset : Nat) :
    Finding (TearEvident H) st'.updateBank 0 (read mapIo st'.updateBank offset 1) :=
    observing_read mapIo_fault (Nat.zero_le _) _
  refine keeps_bind (carries_find (hread _)) (fun current => ?_) st' s' h
  rw [h.active.bank]
  have hhigh : soundJournalOffset + 1 + blockIndex / 8 + 1 ≤ soundPayloadOffset := by
    simp only [soundJournalOffset, soundPayloadOffset, soundPayloadBlockCount] at hcount ⊢
    omega
  have hlow : soundJournalOffset ≤ soundJournalOffset + 1 + blockIndex / 8 := by omega
  refine carries_write ((show soundManifestOffset ≤ soundJournalOffset by decide).trans hlow)
    (hhigh.trans (by decide)) fun i hi hlt => ?_
  exact not_spare_journal (hlow.trans hi) (hlt.trans_le hhigh)

theorem carries_writePayloadBlock (blockIndex : Nat) (data : List UInt8) :
    Carries H ground st (writePayloadBlock H blockIndex data) := by
  have hcheck (bank : SoundBankId) (offset : Nat) : Finding (TearEvident H) .a 0
      (checkPieces mapIo .crc32 bank offset (pieces data.length)) := observing_checkPieces
        mapIo_fault _ _ _ _
  refine keeps_get fun st' s' h => ?_
  refine meets_refuse_bind (fun _ => h) fun _ => meets_refuse_bind (fun _ => h) fun hblock => ?_
  rw [not_or, not_not, ge_iff_le, not_le] at hblock
  have hindex : blockIndex < 128 := lt_of_lt_of_le hblock.1 (blockCount_le h.active.valid.2.2)
  have hlow : soundManifestOffset ≤ soundPayloadOffset + blockIndex * soundPayloadBlockSize :=
    (show soundManifestOffset ≤ soundPayloadOffset by decide).trans (Nat.le_add_right ..)
  have hhigh : soundPayloadOffset + blockIndex * soundPayloadBlockSize + soundPayloadBlockSize ≤
    soundCommitOffset := by
    simp only [soundPayloadOffset, soundPayloadBlockSize, soundSectorSize, soundCommitOffset]
    omega
  have hlength : data.length ≤ soundPayloadBlockSize := hblock.2 ▸ blockLength_le _ _
  refine keeps_bind (carries_find (hcheck _ _)) (fun _ => ?_) st' s' h
  refine keeps_bind (keeps_refuse _ _) fun _ => keeps_ite ?_ ?_
  · refine keeps_bind (carries_verifyPayloadBlock blockIndex) fun complete => keeps_ite (keeps_pure _) ?_
    exact keeps_bind (carries_setPayloadComplete _ _) fun _ => keeps_throw _
  · rw [h.active.bank]
    refine keeps_bind (carries_erase hlow hhigh) fun _ => ?_
    refine keeps_bind
      (carries_write hlow ((Nat.add_le_add_left hlength _).trans hhigh) fun i hi hlt => ?_) fun _ => ?_
    · refine not_spare_payload h.planIsValid ((Nat.le_add_right ..).trans hi) (hlt.trans_le ?_)
      rw [← h.plan_eq, Nat.add_assoc]
      exact Nat.add_le_add_left (hblock.2 ▸ blockLength_end hblock.1) _
    refine keeps_bind (carries_verifyPayloadBlock blockIndex) fun complete =>
      keeps_bind (keeps_refuse _ _) fun _ => ?_
    exact keeps_bind (carries_setPayloadComplete _ _) fun _ => carries_markPayloadComplete blockIndex

/-! ## The commit record -/

theorem carries_verifyAllPayloadBlocks (blocks : List Nat) :
    Carries H ground st (verifyAllPayloadBlocks H blocks) := by
  induction blocks with
  | nil => exact keeps_pure _
  | cons blockIndex blocks ih =>
    refine keeps_bind (carries_verifyPayloadBlock blockIndex) fun complete => ?_
    refine keeps_bind (carries_setPayloadComplete _ _) fun _ => ?_
    exact keeps_bind (keeps_refuse _ _) fun _ => ih

theorem finding_verifyContent {evident : Flash → Flash → Prop} :
    Finding evident st.updateBank soundManifestOffset (verifyContent H st) := by
  refine observes_bind (observes_adapt (readsBundle_validateSoundManifest _ _) mapFormat_fault) fun _ => ?_
  refine observes_bind (observes_adapt (readsBundle_calculateSoundBankDigests _ _) mapFormat_fault)
    fun digests => ?_
  exact observes_refuse _ _

end Carrying

/-- A part of the commit record that is written and found written. -/
theorem writeVerified_spec {I : Flash → Prop} {offset : Nat} {bytes : List UInt8}
    (hwrite : ∀ s', Programs s (target ground) offset bytes s' → I s') :
    On H ground (Method.lift (writeVerified (target ground) offset bytes))
      (Ends (fun _ st' s' => st' = st ∧ I s' ∧ region (s' (target ground)) offset bytes.length = bytes)
        fun _ st' s' => st' = st ∧ I s')
      I st s := by
  have hback (failure : SoundStoreResult) {s' : Flash} (hI' : I s') :
      On H ground (Method.lift (readBack (target ground) offset bytes failure))
        (Ends (fun _ st' s' => st' = st ∧ I s' ∧ region (s' (target ground)) offset bytes.length = bytes)
          fun _ st' s' => st' = st ∧ I s')
        I st s' := by
    rw [readBack, Method.lift_bind, Method.lift_attempt]
    refine meets_attempt_bind
      (meets_find (observing_read mapIo_fault (Nat.le_refl offset) _) hI' (fun stored hstored => ?_) ?_)
    · dsimp only
      rw [Method.lift_refuse]
      refine meets_refuse (fun _ => ⟨rfl, hI'⟩) fun hsame => ⟨rfl, hI', ?_⟩
      exact (Except.ok.inj hstored).trans (not_not.1 hsame)
    · exact fun e _ => meets_throw ⟨rfl, hI'⟩
  rw [writeVerified, Method.lift_bind, Method.lift_attempt]
  refine meets_attempt_bind ?_
  exact meets_write leaves_write hwrite (fun s' h _ => hback _ (hwrite s' h)) fun e s' _ h =>
    hback _ (hwrite s' h)

/-- Programming the body of the update. -/
theorem Active.programBody (h : Active H ground st s)
    (hprogram : Programs s (target ground) soundCommitOffset
      (bodyFor H (target ground) st.update) s') : Active H ground st s' :=
  h.above (hprogram.other _ (SoundBankId.other_ne _)) (h.ready.programBody hprogram)
    fun i hi => hprogram.outside i (.inl (hi.trans (by decide)))

/-- Programming the marker, once the body is there. -/
theorem Active.programMarker (h : Active H ground st s)
    (hbody : bodyOf s (target ground) = bodyFor H (target ground) st.update)
    (hprogram : Programs s (target ground) (soundCommitOffset + commitMarkerOffset)
      (markerFor H (target ground) st.update) s') :
    Active H ground st s' :=
  h.above (hprogram.other _ (SoundBankId.other_ne _)) (h.ready.programMarker hbody hprogram).1
    fun i hi => hprogram.outside i (.inl (hi.trans (by decide)))

/-! ## The end of an update -/

/-- What a scan finds during an update. -/
theorem Active.selected_current (h : Active H ground st s) :
    committed H s (target ground) = none ∧ (selected H s).current = ground ∨
      committed H s (target ground) = st.pending ∧ (selected H s).current = st.pending := by
  rcases h.sound.selected_current.2 with ⟨holder, hcurrent⟩ | ⟨snapshot, hcommitted, hpending, _, hcurrent⟩
  · refine .inl ⟨Option.eq_none_iff_forall_ne_some.2 fun snapshot hcommitted => ?_, hcurrent⟩
    have hgeneration : snapshot.generation.toNat = level ground + 1 := by
      rw [record_of_ready h.ready (recordOf_of_committed hcommitted)]
      exact h.generation
    have := holder snapshot hcommitted
    omega
  · rw [hpending]
    exact .inr ⟨hcommitted, hcurrent⟩

theorem Active.pending_eq (h : Active H ground st s) :
    st.pending = some (snapshotOf st.updateBank st.update) := if_pos h.active

/-- A snapshot that is selected in the bank of the update is the one of the update. -/
theorem Active.current_of_bank {snapshot : SoundBankSnapshot} (h : Active H ground st s)
    (hcurrent : (selected H s).current = some snapshot) (hbank : snapshot.bank = st.updateBank) :
    (selected H s).current = st.pending := by
  rcases h.selected_current with ⟨_, hground⟩ | ⟨_, hpending⟩
  · rw [hcurrent] at hground
    rw [h.bank, ← hground] at hbank
    exact absurd hbank.symm (SoundBankId.other_ne _)
  · exact hpending

theorem current_of_active {selection : SoundStoreSelection} (h : ¬ selection.activeValid = false) :
    selection.current = some selection.active := if_pos (Bool.not_eq_false _ ▸ h)

/-- After a refresh that found the update selected, it is over. -/
theorem finish_spec {K : Flash → Prop} (h : Active H ground st s) (hK : K s) :
    On H ground (refreshSelectionAfterCommit H >>= fun _ => modify clearUpdateState)
      (fun r st' s' => s' = s ∧ Stands H ground st' s' ∧
        (r = .ok () → st'.updateActive = false ∧ (selected H s').current = st.pending))
      K st s := by
  have hsame := h.stands
  refine Meets.andThen (P := Ends (fun _ st' s' => s' = s ∧ st'.selection = selected H s ∧
    (selected H s).current = st.pending)
    fun _ st' s' => st' = st ∧ s' = s) ?_ ?_ ?_
  · refine (inspectBanks_spec hK).andThen ?_ ?_
    · rintro result _ _ ⟨rfl, rfl, hresult⟩
      refine meets_get_bind (meets_refuse_bind (fun _ => ⟨rfl, rfl⟩) fun hselected =>
        meets_modify ⟨rfl, hresult _ rfl, ?_⟩)
      rw [hresult _ rfl, not_or, not_or, not_or, not_not] at hselected
      exact h.current_of_bank (current_of_active hselected.1) hselected.2.2.1
    · rintro e _ _ ⟨rfl, rfl, -⟩
      exact ⟨rfl, rfl⟩
  · rintro _ st' _ ⟨rfl, hselection, hcurrent⟩
    exact meets_modify ⟨rfl, ⟨_, h.sound.since, .inl (Idle.of_selected h.sound rfl hselection)⟩,
      fun _ => ⟨rfl, hcurrent⟩⟩
  · rintro e _ _ ⟨rfl, rfl⟩
    exact ⟨rfl, hsame, nofun⟩

/-- What a method leaves of an update: the store stands, and the flash holds the ground, or the
update as well. -/
def Leftover (H : Hashes) (ground : Option SoundBankSnapshot) (st st' : SoundAssetStore)
    (s' : Flash) : Prop :=
  Stands H ground st' s' ∧ Sound H ground st.pending s'

theorem Ongoing.leftover (h : Ongoing H ground st st' s') : Leftover H ground st st' s' :=
  ⟨h.active.stands, h.sound⟩

theorem commitUpdate_spec (h : Active H ground st s) :
    On H ground (commitUpdate H) (fun r st' s' => Leftover H ground st st' s' ∧
      (r = .ok () → st'.updateActive = false ∧ (selected H s').current = st.pending))
      (Sound H ground st.pending) st s := by
  have hfail {st' : SoundAssetStore} {s' : Flash} (h' : Ongoing H ground st st' s')
    (e : SoundStoreResult) : Leftover H ground st st' s' ∧
      ((.error e : Except SoundStoreResult Unit) = .ok () →
        st'.updateActive = false ∧ (selected H s').current = st.pending) :=
    ⟨h'.leftover, nofun⟩
  refine meets_get_bind (meets_refuse_bind (fun _ => hfail h.ongoing _) fun _ => ?_)
  refine (carries_verifyManifest st s h.ongoing).andThen ?_ fun e _ _ h' => hfail h' e
  intro _ st₁ s₁ h₁
  refine meets_get_bind ((carries_verifyAllPayloadBlocks _ st₁ s₁ h₁).andThen ?_ fun e _ _ h' => hfail h' e)
  intro _ st₂ s₂ h₂
  refine meets_get_bind (meets_find_bind finding_verifyContent h₂.sound (fun _ _ => ?_) fun e _ =>
    hfail h₂ e)
  refine meets_bind (meets_compute (finding_encodeCommitBody _ _ _)
    (eval_encodeCommitBody ..) h₂.sound ?_ fun e _ => hfail h₂ e)
  have hongoing {s' : Flash} (h' : Active H ground st₂ s') : Ongoing H ground st st₂ s' := ⟨h', h₂.flags⟩
  rw [h₂.active.bank]
  -- the body
  refine ((writeVerified_spec (fun s' h' => h₂.active.programBody h')).mono
    (fun _ _ _ => id) fun s' h' => (hongoing h').sound).andThen ?_ ?_
  case refine_2 =>
    rintro e _ s' ⟨rfl, h'⟩
    exact hfail (hongoing h') e
  rintro _ _ s₃ ⟨rfl, h₃, hbody⟩
  rw [length_bodyFor] at hbody
  -- the marker
  refine ((writeVerified_spec (fun s' h' => h₃.programMarker hbody h')).mono (fun _ _ _ => id) fun s' h' =>
    (hongoing h').sound).andThen ?_ ?_
  case refine_2 =>
    rintro e _ s' ⟨rfl, h'⟩
    exact hfail (hongoing h') e
  rintro _ _ s₄ ⟨rfl, h₄, -⟩
  refine meets_find_bind finding_validateSoundBank (hongoing h₄).sound (fun snapshot _ => ?_)
    fun e _ => hfail (hongoing h₄) e
  refine meets_refuse_bind (fun _ => hfail (hongoing h₄) _) fun _ =>
    (finish_spec h₄ (hongoing h₄).sound).mono ?_ fun _ => id
  rintro r st' _ ⟨rfl, hstands, hdone⟩
  rw [h₂.pending_eq] at hdone
  exact ⟨⟨hstands, (hongoing h₄).sound⟩, hdone⟩

/-! ## Aborting -/

/-- An update that is not committed can be forgotten. -/
theorem Active.clear (h : Active H ground st s) (huncommitted : committed H s (target ground) = none) :
    Idle H ground (clearUpdateState st) s where
  sound := h.sound.mono fun snapshot hcommitted _ => by
    rw [huncommitted] at hcommitted
    cases hcommitted
  inactive := rfl
  selection hscanned := (h.selection hscanned).1
  known _ snapshot hcommitted := by
    rw [huncommitted] at hcommitted
    cases hcommitted

/-- Erasing the header, whole or part of it. -/
theorem Active.eraseHeader {n : Nat} (h : Active H ground st s) (hlow : n ≤ soundManifestOffset)
    (herase : Erases s (target ground) soundStagingHeaderOffset n s')
    (hheader : ∀ staged, stagedOf H s' (target ground) = some staged →
      stagedOf H s (target ground) = some staged) :
    Active H ground st s' := by
  have hsame : ∀ i, soundManifestOffset ≤ i → s' (target ground) i = s (target ground) i := fun i hi =>
    herase.outside i (.inr (by rw [soundStagingHeaderOffset, Nat.zero_add]; exact hlow.trans hi))
  exact h.change (herase.other _ (SoundBankId.other_ne _))
    (h.ready.congr hsame) fun staged hstaged => h.header staged (hheader staged hstaged)

theorem abortUpdate_spec (h : Active H ground st s) :
    On H ground (abortUpdate H) (fun _ => Leftover H ground st) (Sound H ground st.pending) st s := by
  have hsame := h.ongoing.leftover
  refine meets_get_bind (meets_ite (fun _ => ?_) fun hinactive => absurd h.active hinactive)
  refine meets_attempt_bind
    (meets_find finding_validateSoundBank h.sound (fun snapshot _ => ?_) fun e he => ?_)
  · refine meets_refuse_bind (fun _ => hsame) fun _ => (finish_spec h h.sound).mono ?_ fun _ => id
    rintro r st' _ ⟨rfl, hstands, -⟩
    exact ⟨hstands, h.sound⟩
  refine meets_refuse_bind (fun _ => hsame) fun hfault => ?_
  have huncommitted : committed H s (target ground) = none := by
    rcases he with hinvalid | hfault'
    · rw [committed, ← h.bank, hinvalid]
      rfl
    · exact absurd hfault' hfault
  have hkeeps {s' : Flash} (herase : Erases s (target ground) soundStagingHeaderOffset soundSectorSize s')
      (hheader : ∀ staged, stagedOf H s' (target ground) = some staged →
        stagedOf H s (target ground) = some staged) :
      Active H ground st s' ∧ committed H s' (target ground) = none := by
    refine ⟨h.eraseHeader (by decide) herase hheader, (committed_congr fun i hi => ?_).trans huncommitted⟩
    exact herase.outside i (.inr hi)
  rw [h.bank]
  refine (meets_erase (P := fun _ st' s' => st' = st ∧ Active H ground st s' ∧
    committed H s' (target ground) = none)
    leaves_erase ?_ ?_ ?_).andThen ?_ ?_
  · exact fun s' herase hevident => (hkeeps herase (hevident _).2.2).1.sound
  · refine fun s' herase herased => ⟨rfl, hkeeps herase fun staged hstaged => ?_⟩
    rw [stagedOf_erased (herased 0 (Nat.le_refl 0) (by decide))] at hstaged
    cases hstaged
  · exact fun e s' _ herase hevident => ⟨rfl, hkeeps herase (hevident _).2.2⟩
  · rintro _ _ s' ⟨rfl, h', hnone⟩
    exact meets_modify ⟨(h'.clear hnone).stands, h'.sound⟩
  · rintro e _ s' ⟨rfl, h', -⟩
    exact h'.ongoing.leftover

/-! ## Asking what is active -/

theorem Active.published {selection : SoundStoreSelection} (h : Active H ground st s)
    (hselection : selection = selected H s)
    (huncommitted : committed H s (target ground) = none) (bankAResult bankBResult : SoundStoreResult) :
    Active H ground (publish selection bankAResult bankBResult st) s := by
  have hcurrent : (selected H s).current = ground := by
    rcases h.selected_current with ⟨_, hcurrent⟩ | ⟨hcommitted, _⟩
    · exact hcurrent
    · rw [huncommitted, h.pending_eq] at hcommitted
      cases hcommitted
  have hfaithful := (faithful_selected h.sound).1
  rw [hcurrent] at hfaithful
  refine { h with selection := fun _ => ⟨hselection ▸ hfaithful, ?_⟩ }
  show (selection.snapshotFor (target ground)).valid = false
  rw [hselection, selected_eq_arranged (target ground), snapshotFor_arranged, found_invalid huncommitted]

theorem Active.forget (h : Active H ground st s) : Active H ground (forgetSelection st) s :=
  { h with selection := nofun }

/-- During an update: the generation that is found active is the ground, or the update, which is
over then. -/
theorem queryCurrentActive_spec {K : Flash → Prop} (h : Active H ground st s) (hK : K s) :
    On H ground (queryCurrentActive H) (fun _ st' s' => s' = s ∧ Stands H ground st' s') K st s := by
  have hforget : Stands H ground (forgetSelection st) s := h.forget.stands
  refine meets_bind (meets_onError ((inspectBanks_spec hK).mono ?_ fun _ => id))
  rintro (e | result) st₁ s₁ ⟨rfl, rfl, hresult⟩
  · exact ⟨rfl, hforget⟩
  have hselected := hresult _ rfl
  refine meets_bind
    (meets_onError (meets_refuse (fun _ => ⟨rfl, hforget⟩) fun _ => meets_modify_bind (meets_get_bind ?_)))
  rw [hselected]
  refine meets_ite (fun hupdate => ?_) fun hother => ?_
  · -- the update was committed
    have hcurrent : (selected H s₁).current = st₁.pending :=
      h.current_of_bank (if_pos hupdate.2.1) hupdate.2.2.1
    have hidle :
      Idle H (selected H s₁).current
      (clearUpdateState (publish (selected H s₁) result.2.1 result.2.2 st₁)) s₁ :=
      Idle.of_selected h.sound rfl rfl
    have hactive : (selected H s₁).active = snapshotOf st₁.updateBank st₁.update := by
      rw [h.pending_eq, SoundStoreSelection.current, if_pos hupdate.2.1] at hcurrent
      exact Option.some.inj hcurrent
    refine meets_refuse_bind (fun hmismatch => ?_) fun _ =>
      meets_modify_bind (meets_pure ⟨rfl, _, h.sound.since, .inl hidle⟩)
    rw [hactive] at hmismatch
    rcases hmismatch with hne | hne <;> exact absurd rfl hne
  · -- it was not
    have huncommitted : committed H s₁ (target ground) = none := by
      rcases h.selected_current with ⟨hnone, _⟩ | ⟨_, hcurrent⟩
      · exact hnone
      · rw [h.pending_eq, SoundStoreSelection.current] at hcurrent
        split at hcurrent
        · rename_i hvalid
          have hsnapshot := Option.some.inj hcurrent
          exact absurd ⟨h.active, hvalid, by rw [hsnapshot]; rfl, by rw [hsnapshot]; rfl⟩ hother
        · cases hcurrent
    exact meets_pure ⟨rfl, (h.published rfl huncommitted _ _).stands⟩

/-- Without an update. -/
theorem Idle.queryCurrentActive_spec {K : Flash → Prop} (h : Idle H ground st s) (hK : K s) :
    On H ground (queryCurrentActive H) (fun _ st' s' => s' = s ∧ Idle H ground st' s') K st s := by
  refine meets_bind (meets_onError ((inspectBanks_spec hK).mono ?_ fun _ => id))
  rintro (e | result) st₁ s₁ ⟨rfl, rfl, hresult⟩
  · exact ⟨rfl, h.forget⟩
  refine meets_bind
    (meets_onError (meets_refuse (fun _ => ⟨rfl, h.forget⟩) fun _ => meets_modify_bind (meets_get_bind ?_)))
  have hidle : Idle H (selected H s₁).current (publish result.1 result.2.1 result.2.2 st₁) s₁ :=
    Idle.of_selected h.sound h.inactive (hresult _ rfl)
  rw [h.current] at hidle
  refine meets_ite (fun hupdate => ?_) fun _ => meets_pure ⟨rfl, hidle⟩
  rw [hidle.inactive] at hupdate
  cases hupdate.1

end Commit

end CodexKeyboard.Assets.SoundAssetStore
