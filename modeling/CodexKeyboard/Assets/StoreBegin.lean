import CodexKeyboard.Assets.StoreMethods
/-!
# Beginning, resuming and discarding

The methods that find or make an update under way. Before a new update the target is erased, its
commit record first, and found erased before the header goes in; so no header of an update after the
ground stands beside the record of another one.
-/

namespace CodexKeyboard.Assets.SoundAssetStore

open Lib Buffer Storage

section Begin
variable {H : Hashes} {ground : Option SoundBankSnapshot} {st : SoundAssetStore} {s s' : Flash} {α : Type}
  {K : Flash → Prop}

section Errors
variable {D : Device StorageCall StorageAnswer Flash} {G : StorageCall → Prop}
    {Q : Except SoundStoreResult α → SoundAssetStore → Flash → Prop}

theorem meets_onError {x : StoreMethod α} {undo : SoundAssetStore → SoundAssetStore}
    (h : Meets D G x (Ends (fun a => Q (.ok a)) fun e st' => Q (.error e) (undo st')) K st s) : Meets
      D G (onError x undo) Q K st s := by
  refine meets_attempt_bind (h.mono ?_ fun _ => id)
  intro r st' s' hr
  cases r with
  | error e => exact meets_modify_bind (meets_throw hr)
  | ok a => exact meets_pure hr

theorem meets_ofExcept {x : Except SoundStoreResult α} (hok : ∀ a, x = .ok a → Q (.ok a) st s)
    (herror : ∀ e, x = .error e → Q (.error e) st s) : Meets D G (ofExcept x) Q K st s := by
  cases x with
  | ok a => exact meets_pure (hok a rfl)
  | error e => exact meets_throw (herror e rfl)

end Errors

theorem verifyRegionErased_spec {bank : SoundBankId} {offset n : Nat}
    {Q : Except SoundStoreResult Unit → SoundAssetStore → Flash → Prop}
    (hK : K s) (hok : (∀ i, offset ≤ i → i < offset + n → s bank i = 0xFF) → Q (.ok ()) st s)
    (herror : ∀ e, Q (.error e) st s) :
    On H ground (Method.lift (verifyRegionErased bank offset n)) Q K st s :=
  meets_find (finding_verifyRegionErased (Nat.le_refl offset) n) hK (fun _ h =>
    hok (verifyRegionErased_eq_ok.1 h)) fun e _ => herror e

/-- The next update goes to the target, one generation after the ground. -/
theorem nextTarget_spec {selection : SoundStoreSelection} {plan : SoundBundlePlan}
    {next : UInt64 × SoundBankId}
    (hcurrent : selection.current = ground) (hnext : nextTarget selection plan = .ok next) :
    next.2 = target ground ∧ next.1.toNat = level ground + 1 := by
  rw [SoundStoreSelection.current] at hcurrent
  rw [nextTarget] at hnext
  split at hnext
  · rename_i hvalid
    rw [if_pos hvalid] at hcurrent
    split at hnext
    · cases hnext
    · split at hnext
      · cases hnext
      · rename_i hexhausted
        rw [← Except.ok.inj hnext, ← hcurrent]
        refine ⟨rfl, ?_⟩
        have hlt := selection.active.generation.toNat_lt
        have hne : selection.active.generation.toNat ≠ 0xFFFFFFFFFFFFFFFF :=
          fun h => hexhausted (UInt64.toNat_inj.1 h)
        rw [UInt64.toNat_add, UInt64.toNat_one, level, Nat.mod_eq_of_lt (by omega)]
  · rename_i hinvalid
    rw [if_neg hinvalid] at hcurrent
    split at hnext
    · cases hnext
    · rw [← Except.ok.inj hnext, ← hcurrent]
      exact ⟨rfl, rfl⟩

theorem transactionIdValid_transactionIdOf (digest : SoundSha256Digest) :
    transactionIdValid (transactionIdOf digest) = true := by
  rw [transactionIdOf]
  split
  · assumption
  split
  · assumption
  · rw [transactionIdValid, Bool.not_eq_true', bytesAreZero, List.all_eq_false]
    refine ⟨1, ?_, by decide⟩
    have hlength : (bytesAt digest.toList 16 16).toList.length = 16 := Vector.length_toList
    rw [toList_bytesAt (by rw [length_putU8]; omega)]
    refine List.mem_of_getElem? (i := 15) ?_
    rw [getElem?_slice, if_pos (by decide), putU8, getElem?_put, hlength, if_pos (by decide)]
    rfl

/-! ## Reclaiming the target -/

/-- No update is under way, and the target has no record. -/
structure Bare (H : Hashes) (ground : Option SoundBankSnapshot) (st : SoundAssetStore) (s : Flash) :
    Prop where
  sound : Sound H ground none s
  inactive : st.updateActive = false
  scanned : st.scanned = true
  faithful : Faithful H ground st.selection s
  spare : (st.selection.snapshotFor (target ground)).valid = false
  record : ∀ snapshot, recordOf H s (target ground) ≠ .ok snapshot
  reclaimable : Reclaimable H ground s

theorem Bare.idle (h : Bare H ground st s) : Idle H ground st s where
  sound := h.sound
  inactive := h.inactive
  selection _ := h.faithful
  known _ snapshot hcommitted := absurd (recordOf_of_committed hcommitted) (h.record snapshot)

theorem Bare.change (h : Bare H ground st s) (hother : s' (target ground).other = s (target ground).other)
    (hrecord : ∀ snapshot, recordOf H s' (target ground) ≠ .ok snapshot)
    (hreclaim : Reclaimable H ground s') : Bare H ground st s' :=
  { h with
    sound := h.sound.blank hother hrecord hreclaim
    faithful :=
      { h.faithful with spare := fun hvalid => absurd (h.spare.symm.trans hvalid) Bool.false_ne_true }
    record := hrecord
    reclaimable := hreclaim }

theorem snapshotFor_erased (selection : SoundStoreSelection) (bank : SoundBankId) :
    (selection.erased bank).snapshotFor bank = { bank } ∧
      (selection.erased bank).snapshotFor bank.other = selection.snapshotFor bank.other := by
  cases bank <;> exact ⟨rfl, rfl⟩

theorem current_erased (selection : SoundStoreSelection) (bank : SoundBankId) :
    (selection.erased bank).current = selection.current ∧
      (selection.erased bank).splitBrain = selection.splitBrain := by
  cases bank <;> exact ⟨rfl, rfl⟩

/-- The spare of a selection is forgotten. -/
theorem Faithful.erased {selection : SoundStoreSelection} (h : Faithful H ground selection s) :
    Faithful H ground (selection.erased (target ground)) s where
  one := (current_erased selection _).2.trans h.one
  current := (current_erased selection _).1.trans h.current
  ground_eq := (snapshotFor_erased selection _).2.trans h.ground_eq
  spare hvalid := by
    rw [(snapshotFor_erased selection _).1] at hvalid
    cases hvalid

/-- The commit record goes first. -/
theorem Idle.bare {offset n : Nat} (h : Idle H ground st s) (hscanned : st.scanned = true)
    (herase : Erases s (target ground) offset n s')
    (hmarker : ∀ i, soundCommitOffset + commitMarkerOffset ≤ i →
      i < soundCommitOffset + commitMarkerOffset + commitMarkerBytes →
      s' (target ground) i = 0xFF)
    (hreclaim' : Reclaimable H ground s') :
    Bare H ground { st with selection := st.selection.erased (target ground) } s' := by
  have hrecord : ∀ snapshot, recordOf H s' (target ground) ≠ .ok snapshot :=
    fun snapshot => recordOf_erased hmarker
  have hother := herase.other _ (SoundBankId.other_ne (target ground))
  exact {
    sound := h.sound.blank hother hrecord hreclaim'
    inactive := h.inactive
    scanned := hscanned
    faithful :=
      { (h.selection hscanned).erased with
        spare := fun hvalid => by
          rw [(snapshotFor_erased st.selection _).1] at hvalid
          cases hvalid }
    spare := by
      rw [(snapshotFor_erased st.selection _).1]
    record := hrecord
    reclaimable := hreclaim' }

/-- Every byte of the bank is erased. -/
def BankErased (s : Flash) (bank : SoundBankId) : Prop := ∀ i, i < soundBankSize → s bank i = 0xFF

/-- Reclaiming erases the target, or leaves a store that has to scan again or knows that it holds
nothing. -/
theorem reclaimBank_spec (h : Idle H ground st s) (hscanned : st.scanned = true)
    (hreclaim : Reclaimable H ground s) :
    On H ground (reclaimBank (target ground))
      (Ends (fun _ st' s' => st' = { st with selection := st.selection.erased (target ground) } ∧
        Bare H ground st' s' ∧
          BankErased s' (target ground))
        fun _ st' s' => Idle H ground st' s')
      (Sound H ground none) st s := by
  have htorn {offset n : Nat} {s' : Flash} (herase : Erases s (target ground) offset n s')
    (hevident : TearEvident H s s') :
      Idle H ground (forgetSelection st) s' :=
    ⟨(h.sound.torn hreclaim herase hevident).1, h.inactive, nofun, nofun⟩
  refine meets_bind (meets_onError (meets_erase leaves_erase ?_ ?_ ?_))
  · exact fun s' herase hevident => (htorn herase hevident).sound
  · intro s' herase herased
    refine meets_modify_bind ?_
    have hbare :=
      h.bare hscanned herase (fun i hle hlt =>
      herased i (le_trans (by decide) hle) (lt_of_lt_of_le hlt (by decide)))
      fun staged hstaged =>
        hreclaim staged
        ((stagedOf_congr fun i hi => (herase.outside i (.inl (hi.trans (by decide)))).symm).trans hstaged)
    refine (meets_erase
      (P := Ends (fun _ st' s' => st' = { st with selection := st.selection.erased (target ground) } ∧
      Bare H ground st' s') fun _ st' s' =>
        Idle H ground st' s') leaves_erase ?_ ?_ ?_).andThen ?_ fun _ _ _ h => h
    · intro s'' herase' hevident
      exact (hbare.sound.torn hbare.reclaimable herase' hevident).1
    · intro s'' herase' herased'
      refine ⟨rfl,
        hbare.change (herase'.other _ (SoundBankId.other_ne _))
        (fun snapshot hrecord => ?_) fun staged hstaged => ?_⟩
      · refine hbare.record snapshot (Eq.trans ?_ hrecord)
        exact recordOf_congr fun i hi => (herase'.outside i (.inr (by rwa [Nat.zero_add]))).symm
      · rw [stagedOf_erased (herased' 0 (Nat.le_refl 0) (by decide))] at hstaged
        cases hstaged
    · intro e s'' _ herase' hevident
      refine (hbare.change (herase'.other _ (SoundBankId.other_ne _)) (fun snapshot hrecord => ?_) ?_).idle
      · exact hbare.record snapshot ((hevident _).1 snapshot hrecord)
      · exact (hbare.sound.torn hbare.reclaimable herase' hevident).2
    · rintro a st' s'' ⟨hst, hbare'⟩
      refine verifyRegionErased_spec hbare'.sound (fun herased => ⟨hst, hbare', fun i hi => ?_⟩)
        fun e => hbare'.idle
      exact herased i (Nat.zero_le i) (by rwa [Nat.zero_add])
  · exact fun e s' _ herase hevident => htorn herase hevident

/-! ## A new update -/

/-- An update that has just begun: its target holds no record yet. -/
structure Begun (H : Hashes) (ground : Option SoundBankSnapshot) (st : SoundAssetStore) (s : Flash) :
    Prop where
  active : Active H ground st s
  scanned : st.scanned = true
  marker : markerAt s (target ground) = List.replicate commitMarkerBytes 0xFF

theorem Begun.change (h : Begun H ground st s) (hother : s' (target ground).other = s (target ground).other)
    (hsame : ∀ i, soundManifestOffset ≤ i → s' (target ground) i = s (target ground) i)
    (hheader : ∀ staged, stagedOf H s' (target ground) = some staged → staged = st.update) :
    Begun H ground st s' := by
  have hmarker : markerAt s' (target ground) = List.replicate commitMarkerBytes 0xFF :=
    (region_eq_iff.2 fun i hi _ => hsame i (le_trans (by decide) hi)).trans h.marker
  exact ⟨h.active.change hother (h.active.ready.congr hsame) hheader, h.scanned, hmarker⟩

theorem Begun.record (h : Begun H ground st s) (snapshot : SoundBankSnapshot) :
    recordOf H s (target ground) ≠ .ok snapshot :=
  recordOf_erased (markerAt_erased.1 h.marker)

theorem Begun.sound (h : Begun H ground st s) : Sound H ground none s :=
  h.active.sound.mono fun snapshot hcommitted _ => absurd (recordOf_of_committed hcommitted)
    (h.record snapshot)

/-- A header that could not be written ends the update. -/
theorem Begun.idle (h : Begun H ground st s) : Idle H ground (clearUpdateState st) s where
  sound := h.sound
  inactive := rfl
  selection hscanned := (h.active.selection hscanned).1
  known _ snapshot hcommitted := absurd (recordOf_of_committed hcommitted) (h.record snapshot)

/-- An update in a bank that is erased. -/
theorem Bare.begun (h : Bare H ground st s) (herased : BankErased s (target ground)) {st' : SoundAssetStore}
    (hactive : st'.updateActive = true) (hbank : st'.updateBank = target ground)
    (hscanned : st'.scanned = true)
    (hselection : st'.selection = st.selection)
    (hgeneration : st'.updateGeneration.toNat = level ground + 1)
    (hvalid : st'.update.Valid)
    (hauthentic : transactionId H st'.updatePlan (target ground) st'.updateGeneration =
      st'.updateTransactionId) : Begun H ground st' s := by
  have hmarker : markerAt s (target ground) = List.replicate commitMarkerBytes 0xFF :=
    markerAt_erased.2 fun i _ hi => herased i (lt_of_lt_of_le hi (by decide))
  have hstaged : stagedOf H s (target ground) = none := stagedOf_erased (herased 0 (by decide))
  refine ⟨⟨h.sound.of_none, hactive, hbank, hgeneration, hvalid, ?_, ?_, fun _ => ?_⟩, hscanned, hmarker⟩
  · exact ready_of_erased (fun i _ hi => herased i hi) hauthentic
  · rw [hstaged]
    exact nofun
  · rw [hselection]
    exact ⟨h.faithful, h.spare⟩

/-- A header that differs from the image of the update in its magic alone, and decodes, is that image. -/
theorem staged_of_tail {bank : SoundBankId} {staged update : Staged}
    (htail : (headerOf s bank).drop 4 = (update.image H bank).drop 4)
    (hstaged : stagedOf H s bank = some staged) : staged = update := by
  have hheader := (stagedOf_eq_some.1 hstaged).2
  have hmagic (x : Staged) : (x.image H bank).take 4 = magic "EISH" := by
    have hfields := @fields_image H bank x
    rw [fields_stagingFields] at hfields
    exact (List.cons.inj hfields).1
  refine @image_inj H bank _ _ ?_
  rw [← List.take_append_drop 4 (staged.image H bank),
    ← List.take_append_drop 4 (update.image H bank), hmagic, hmagic, ← htail, hheader]

theorem headerOf_drop (s : Flash) (bank : SoundBankId) :
    (headerOf s bank).drop 4 = region (s bank) 4 700 := by
  have hsplit : headerOf s bank = region (s bank) 0 4 ++ region (s bank) 4 700 :=
    region_add (s bank) 0 4 700
  rw [hsplit, List.drop_left' (length_region ..)]

/-- The header comes to stand in the target without ever being taken for another. -/
theorem writeStagingHeader_spec (h : Begun H ground st s) (herased : s (target ground) 0 = 0xFF) :
    On H ground (Method.lift (writeStagingHeader (target ground) (st.update.image H (target ground))))
      (fun _ st' s' => st' = st ∧ Begun H ground st s') (Sound H ground none) st s := by
  have hlength := @length_image H (target ground) st.update
  rw [writeStagingHeader, Method.lift_bind]
  -- while the first byte is erased the header is none
  have hfirst {s' : Flash}
    (hprogram : Programs s (target ground) 4 ((st.update.image H (target ground)).drop 4) s') :
      Begun H ground st s' := by
    refine h.change (hprogram.other _ (SoundBankId.other_ne _))
      (fun i hi => hprogram.outside i (.inr ?_)) fun staged hstaged => ?_
    · rw [List.length_drop, hlength]
      exact le_trans (by decide) hi
    · rw [stagedOf_erased ((hprogram.outside 0 (.inl (by decide))).trans herased)] at hstaged
      cases hstaged
  refine (meets_write (P := fun _ st' s' => st' = st ∧ Begun H ground st s') leaves_write
    (fun s' hprogram => (hfirst hprogram).sound)
    (fun s' hprogram _ => ⟨rfl, hfirst hprogram⟩) fun e s' _ hprogram =>
      ⟨rfl, hfirst hprogram⟩).andThen ?_ fun _ _ _ h => h
  rintro _ st' s' ⟨rfl, hbegun⟩
  rw [Method.lift_bind]
  refine meets_find_bind (observing_read ioError_fault (Nat.le_refl 4) _) hbegun.sound ?_ fun e _ =>
    ⟨rfl, hbegun⟩
  intro readback hreadback
  rw [Method.lift_bind, Method.lift_refuse]
  refine meets_refuse_bind (fun _ => ⟨rfl, hbegun⟩) fun hsame => ?_
  have htail : (headerOf s' (target ground)).drop 4 = (st'.update.image H (target ground)).drop 4 := by
    rw [headerOf_drop, not_not.1 hsame]
    exact Except.ok.inj hreadback
  -- from then on nothing but the magic is missing
  rw [Method.lift_bind]
  have hlast {s'' : Flash}
    (hprogram : Programs s' (target ground) 0 ((st'.update.image H (target ground)).take 4) s'') :
      Begun H ground st' s'' := by
    have houtside : ∀ i, 4 ≤ i → s'' (target ground) i = s' (target ground) i := fun i hi =>
      hprogram.outside i (.inr (by rw [List.length_take, hlength]; omega))
    refine hbegun.change (hprogram.other _ (SoundBankId.other_ne _))
      (fun i hi => houtside i (le_trans (by decide) hi)) ?_
    intro staged hstaged
    refine staged_of_tail ?_ hstaged
    rw [← htail, headerOf_drop, headerOf_drop]
    exact region_eq_iff.2 fun i hi _ => houtside i hi
  refine (meets_write (P := fun _ st'' s'' => st'' = st' ∧ Begun H ground st' s'') leaves_write
    (fun s' hprogram => (hlast hprogram).sound)
    (fun s' hprogram _ => ⟨rfl, hlast hprogram⟩) fun e s' _ hprogram =>
      ⟨rfl, hlast hprogram⟩).andThen ?_ fun _ _ _ h => h
  rintro _ st'' s'' ⟨rfl, hdone⟩
  rw [Method.lift_bind]
  refine meets_find_bind (observing_read ioError_fault (Nat.le_refl 0) _) hdone.sound ?_ fun e _ =>
    ⟨rfl, hdone⟩
  intro readback _
  rw [Method.lift_refuse]
  exact meets_refuse (fun _ => ⟨rfl, hdone⟩) fun _ => ⟨rfl, hdone⟩

theorem reclaimTarget_spec {plan : SoundBundlePlan} (h : Idle H ground st s) (hscanned : st.scanned = true)
    (hreclaim : Reclaimable H ground s) :
    On H ground (reclaimTarget H plan st.updateGeneration (target ground))
      (Ends (fun transaction st' s' =>
        st' = { st with selection := st.selection.erased (target ground) } ∧ Bare H ground st' s' ∧
          BankErased s' (target ground) ∧
          transaction = transactionId H plan (target ground) st.updateGeneration)
        fun _ st' s' => Idle H ground st' s')
      (Sound H ground none) st s := by
  refine meets_onError (meets_get_bind (meets_refuse_bind (fun _ => h.keep h.inactive rfl rfl) fun _ => ?_))
  refine (reclaimBank_spec h hscanned hreclaim).andThen ?_ fun e st' s' h' => h'.keep h'.inactive rfl rfl
  rintro _ st' s' ⟨hst, hbare, herased⟩
  refine meets_compute (finding_deriveTransactionId plan _)
    (eval_deriveTransactionId ..) hbare.sound ⟨hst, hbare, herased, rfl⟩ ?_
  exact fun e _ => hbare.idle.keep hbare.inactive rfl rfl

theorem stageUpdate_spec {plan : SoundBundlePlan} {transaction : TransactionId} (h : Bare H ground st s)
    (herased : BankErased s (target ground)) (hbank : st.updateBank = target ground)
    (hgeneration : st.updateGeneration.toNat = level ground + 1)
    (htransaction : transactionId H plan (target ground) st.updateGeneration = transaction)
    (hplan : planIsValid plan = true) :
    On H ground (stageUpdate H plan st.updateGeneration (target ground) transaction)
      (Ends (fun _ st' s' => Begun H ground st' s' ∧
          st'.updateIdentity = { st.updateIdentity with transactionId := transaction } ∧ st'.updatePlan = plan)
        fun _ st' s' => Idle H ground st' s')
      (Sound H ground none) st s := by
  have hnonzero : st.updateGeneration ≠ 0 := by
    intro hzero
    rw [hzero] at hgeneration
    cases hgeneration
  have htransactionValid : transactionIdValid transaction = true :=
    htransaction ▸ transactionIdValid_transactionIdOf _
  refine meets_modify_bind (meets_onError ?_)
  generalize hst' : ({ st with
    updatePlan := plan, updateTransactionId := transaction, payloadComplete := fun _ => false
    manifestComplete := false, updateActive := true } : SoundAssetStore) = st'
  have hbegun : Begun H ground st' s := by
    subst hst'
    exact h.begun herased rfl hbank h.scanned rfl hgeneration ⟨hnonzero,
      htransactionValid, hplan⟩ htransaction
  have hheader : stagingHeader H (target ground) st.updateGeneration transaction plan =
    st'.update.image H (target ground) := by
    subst hst'
    rfl
  refine meets_bind (meets_compute (finding_encodeStagingHeader _ _ _) (eval_encodeStagingHeader ..)
    hbegun.sound ?_ fun e _ => hbegun.idle)
  rw [hheader]
  refine (writeStagingHeader_spec hbegun (herased 0 (by decide))).mono ?_ fun _ => id
  rintro (e | a) _ s' ⟨rfl, h'⟩
  · exact h'.idle
  · subst hst'
    exact ⟨h', rfl, rfl⟩

/-- A new update: it stands in the target, or the store has none. -/
theorem beginNewUpdate_spec {plan : SoundBundlePlan} (h : Idle H ground st s)
    (hreclaim : Reclaimable H ground s) :
    On H ground (beginNewUpdate H plan)
      (Ends (fun identity st' s' => Begun H ground st' s' ∧ st'.updatePlan = plan ∧
          st'.updateTransactionId = transactionId H plan (target ground) st'.updateGeneration ∧
          identity = st'.updateIdentity)
        fun _ st' s' => Idle H ground st' s')
      (Sound H ground none) st s := by
  refine meets_refuse_bind (fun _ => h) fun hplan =>
    meets_get_bind (meets_refuse_bind (fun _ => h) fun _ => ?_)
  refine (ensureSelected_spec h h.sound).andThen ?_ ?_
  case refine_2 =>
    rintro e st' s' ⟨rfl, hidle, _⟩
    exact hidle
  rintro _ st₁ s₁ ⟨rfl, h₁, hscanned₁, _⟩
  refine meets_get_bind (meets_bind (meets_ofExcept (fun next hnext => ?_) fun e _ => h₁))
  obtain ⟨generation, bank⟩ := next
  obtain ⟨rfl, hgeneration⟩ := nextTarget_spec (h₁.selection (hscanned₁ rfl)).current hnext
  have hset :
    Idle H ground { st₁ with updateGeneration := generation, updateBank := target ground } s₁ :=
    h₁.keep h₁.inactive rfl rfl
  refine meets_modify_bind ((reclaimTarget_spec hset (hscanned₁ rfl) hreclaim).andThen ?_ fun _ _ _ h => h)
  rintro transaction st₂ s₂ ⟨rfl, h₂, herased, rfl⟩
  refine (stageUpdate_spec h₂ herased rfl hgeneration rfl (by simpa using hplan)).andThen ?_
    fun _ _ _ h => h
  rintro _ st₃ s₃ ⟨h₃, hidentity, hplan₃⟩
  simp only [updateIdentity, SoundUpdateIdentity.mk.injEq] at hidentity
  obtain ⟨hgeneration₃, hbank₃, htransaction₃⟩ := hidentity
  refine meets_pure ⟨h₃, hplan₃, ?_, ?_⟩
  · rw [htransaction₃, hgeneration₃]
  · rw [updateIdentity, hgeneration₃, hbank₃, htransaction₃]

/-! ## Resuming -/

section Verifying
variable {evident : Flash → Flash → Prop} {bank : SoundBankId} {I : SoundAssetStore → Flash → Prop}

theorem keeps_verifyManifest (hK : ∀ st s, I st s → K s) :
    Keeps (soundFlash evident) (Leaves bank) I K (verifyManifest H) := by
  have hwork :
    ∀ bank offset n, Finding evident .a 0
    (work (fun _ => SoundStoreResult.ioError) .sha256 bank offset n) :=
    fun _ _ _ => observing_work ioError_fault _ _ _ _
  refine keeps_get fun st s h => ?_
  refine keeps_bind (keeps_find (observing_hashedRegion ioError_fault _ (Nat.le_refl _) _) hK)
    (fun manifest => ?_) st s h
  refine keeps_bind (keeps_find (observing_hashedRegion ioError_fault _ (Nat.le_refl _) _) hK)
    fun again => ?_
  exact keeps_bind (keeps_find (hwork _ _ _) hK) fun _ => keeps_bind (keeps_refuse _ _) fun _ =>
    keeps_refuse _ _

theorem keeps_verifyPayloadBlock (hK : ∀ st s, I st s → K s) (blockIndex : Nat) :
    Keeps (soundFlash evident) (Leaves bank) I K (verifyPayloadBlock H blockIndex) := by
  refine keeps_get fun st s h => ?_
  refine keeps_bind (keeps_refuse _ _) (fun _ => ?_) st s h
  refine keeps_bind (keeps_find (observing_hashedRegion ioError_fault _ (Nat.le_refl _) _) hK)
    fun block => ?_
  exact keeps_pure _

end Verifying

/-- An update that is found again: it is not committed, and clearing it leaves a store without one. -/
structure Resumed (H : Hashes) (ground : Option SoundBankSnapshot) (st : SoundAssetStore)
    (s : Flash) : Prop where
  active : Active H ground st s
  scanned : st.scanned = true
  uncommitted : committed H s (target ground) = none

theorem Resumed.sound (h : Resumed H ground st s) : Sound H ground none s :=
  h.active.sound.mono fun snapshot hcommitted _ => by
    rw [h.uncommitted] at hcommitted
    cases hcommitted

theorem Resumed.idle (h : Resumed H ground st s) : Idle H ground (clearUpdateState st) s where
  sound := h.sound
  inactive := rfl
  selection hscanned := (h.active.selection hscanned).1
  known _ snapshot hcommitted := by
    rw [h.uncommitted] at hcommitted
    cases hcommitted

/-- What a failed attempt to take an update up leaves. -/
def GivesUp (H : Hashes) (ground : Option SoundBankSnapshot) (s : Flash) (st' : SoundAssetStore)
    (s' : Flash) : Prop :=
  s' = s ∧ Idle H ground st' s' ∧ st'.scanned = true

/-- The update as it was found, with other flags. -/
def SameUpdate (st : SoundAssetStore) (s : Flash) (st' : SoundAssetStore) (s' : Flash) : Prop :=
  s' = s ∧ ∃ payload manifest, st' = { st with payloadComplete := payload, manifestComplete := manifest }

theorem SameUpdate.resumed (hsame : SameUpdate st s st' s') (h : Resumed H ground st s) :
    Resumed H ground st' s' := by
  obtain ⟨rfl, payload, manifest, rfl⟩ := hsame
  exact ⟨h.active.flags payload manifest, h.scanned, h.uncommitted⟩

theorem loadManifest_spec (h : Resumed H ground st s) :
    On H ground (loadManifest H) (Ends (fun _ => SameUpdate st s) fun _ => GivesUp H ground s)
      (Sound H ground none) st s := by
  refine meets_attempt_bind ?_
  have hsame : SameUpdate st s st s := ⟨rfl, st.payloadComplete, st.manifestComplete, rfl⟩
  refine (keeps_verifyManifest (fun _ _ hst => (hst.resumed h).sound) st s hsame).mono ?_ fun _ => id
  intro r st' s' hst
  cases r with
  | ok a =>
    obtain ⟨rfl, payload, manifest, rfl⟩ := hst
    exact meets_modify ⟨rfl, payload, true, rfl⟩
  | error e =>
    refine meets_ite (fun _ => meets_modify_bind (meets_throw ?_)) fun _ => meets_pure hst
    exact ⟨hst.1, (hst.resumed h).idle, (hst.resumed h).scanned⟩

theorem loadPayloadBlocks_spec (h : Resumed H ground st s) (blocks : List Nat) :
    On H ground (loadPayloadBlocks H blocks) (Ends (fun _ => SameUpdate st s) fun _ => GivesUp H ground s)
      (Sound H ground none) st s := by
  suffices hall : ∀ st' s', SameUpdate st s st' s' → On H ground (loadPayloadBlocks H blocks)
      (Ends (fun _ => SameUpdate st s) fun _ => GivesUp H ground s) (Sound H ground none) st' s' from
    hall st s ⟨rfl, st.payloadComplete, st.manifestComplete, rfl⟩
  induction blocks with
  | nil => exact fun st' s' hst => meets_pure hst
  | cons blockIndex blocks ih =>
    intro st' s' hst
    refine meets_attempt_bind ?_
    refine (keeps_verifyPayloadBlock
      (fun _ _ hst => (hst.resumed h).sound) blockIndex st' s' hst).mono ?_ fun _ => id
    intro r st'' s'' hst''
    have hset (complete : Bool) : SameUpdate st s (setPayloadComplete blockIndex complete st'') s'' := by
      obtain ⟨rfl, payload, manifest, rfl⟩ := hst''
      exact ⟨rfl, _, manifest, rfl⟩
    have hfail : GivesUp H ground s (clearUpdateState st'') s'' :=
      ⟨hst''.1, (hst''.resumed h).idle, (hst''.resumed h).scanned⟩
    cases r with
    | ok complete => exact meets_modify_bind (ih _ _ (hset complete))
    | error e =>
      cases e with
      | ioError => exact meets_modify_bind (meets_throw hfail)
      | _ => exact meets_modify_bind (ih _ _ (hset false))

/-- A staged update that follows the selection is one generation ahead. -/
theorem followsSelection_spec {selection : SoundStoreSelection} {staged : Staged}
    (hcurrent : selection.current = ground)
    (hvalid : staged.Valid) (hfollows : followsSelection selection staged = true) :
    staged.generation.toNat = level ground + 1 ∧ staged.plan.baseGeneration.toNat = level ground := by
  have hnonzero : staged.generation.toNat ≠ 0 := fun h => hvalid.1 (UInt64.toNat_inj.1 h)
  rw [SoundStoreSelection.current] at hcurrent
  rw [followsSelection] at hfollows
  split at hfollows
  · rename_i hactive
    rw [if_pos hactive] at hcurrent
    simp only [Bool.and_eq_true, decide_eq_true_eq] at hfollows
    rw [hfollows.2, UInt64.toNat_add, UInt64.toNat_one] at hnonzero ⊢
    rw [hfollows.1.1, ← hcurrent, level]
    have := selection.active.generation.toNat_lt
    omega
  · rename_i hactive
    rw [if_neg hactive] at hcurrent
    simp only [Bool.and_eq_true, beq_iff_eq] at hfollows
    rw [hfollows.2, hfollows.1.1, ← hcurrent]
    exact ⟨rfl, rfl⟩

theorem orMismatch_fault : ∀ e, StoreFault e → StoreFault (orMismatch e) := by
  rintro e (rfl | rfl)
  · exact .inl rfl
  · exact .inr rfl

theorem finding_decodeOrMismatch {bank : SoundBankId} (encoded : List UInt8) :
    Finding (TearEvident H) .a 0 (ExceptT.adapt orMismatch (decodeStagingHeader H encoded bank)) :=
  observes_adapt (finding_decodeStagingHeader encoded) orMismatch_fault

/-- A header that is taken up again is the one of the update after the ground. -/
theorem Idle.resumed {bank : SoundBankId} {staged : Staged} (h : Idle H ground st s)
    (hscanned : st.scanned = true)
    (hspare : (st.selection.snapshotFor bank).valid = false) (hstaged : stagedOf H s bank = some staged)
    (hfollows : followsSelection st.selection staged = true) :
    bank = target ground ∧ Resumed H ground { st with
      updateActive := true, updateBank := bank, updateGeneration := staged.generation,
      updatePlan := staged.plan
      updateTransactionId := staged.transaction, payloadComplete := fun _ =>
        false, manifestComplete := false } s := by
  have hfaithful := h.selection hscanned
  have hvalid := (stagedOf_eq_some.1 hstaged).1
  have hgeneration := (followsSelection_spec hfaithful.current hvalid hfollows).1
  have hbank : bank = target ground := by
    by_contra hne
    rw [SoundBankId.eq_other hne] at hstaged
    have := h.sound.ground_staged staged hstaged
    omega
  subst hbank
  have hready : Ready H s (target ground) staged := by
    rcases h.sound.staged staged hstaged with hle | ⟨_, hready⟩
    · omega
    · exact hready
  have huncommitted : committed H s (target ground) = none := by
    refine Option.eq_none_iff_forall_ne_some.2 fun snapshot hcommitted => ?_
    rw [h.known hscanned snapshot hcommitted] at hspare
    cases hspare
  refine ⟨rfl, ⟨h.sound.of_none, rfl, rfl, hgeneration, hvalid,
    hready, ?_, fun _ => ⟨hfaithful, hspare⟩⟩, hscanned, huncommitted⟩
  intro staged' hstaged'
  exact (Option.some.inj (hstaged.symm.trans hstaged')).symm

/-- The update that owns a bank is taken up again; nothing is written. -/
def TakesUp (H : Hashes) (ground : Option SoundBankSnapshot) (bank : SoundBankId)
    (transaction : TransactionId) (s : Flash)
    (st' : SoundAssetStore) (s' : Flash) : Prop :=
  s' = s ∧ Resumed H ground st' s' ∧ bank = target ground ∧ stagedOf H s bank = some st'.update ∧
    st'.updateTransactionId = transaction

theorem loadStagingHeader_spec {bank : SoundBankId} {transaction : TransactionId}
    (h : Idle H ground st s) (hscanned : st.scanned = true)
    (hspare : (st.selection.snapshotFor bank).valid = false) :
    On H ground (loadStagingHeader H bank transaction)
      (Ends (fun _ => TakesUp H ground bank transaction s) fun _ => GivesUp H ground s)
      (Sound H ground none) st s := by
  have hfail : ∀ e, Ends (fun (_ : Unit) => TakesUp H ground bank transaction s)
    (fun (_ : SoundStoreResult) => GivesUp H ground s)
      (.error e) st s := fun _ => ⟨rfl, h, hscanned⟩
  refine meets_find_bind (observing_read ioError_fault (Nat.le_refl _) _) h.sound
    (fun encoded hencoded => ?_) fun e _ => hfail e
  have hheader : headerOf s bank = encoded := Except.ok.inj hencoded
  subst hheader
  refine meets_find_bind (finding_decodeOrMismatch _) h.sound (fun staged hdecoded => ?_) fun e _ => hfail e
  refine meets_bind (meets_compute (finding_deriveTransactionId _ _)
    (eval_deriveTransactionId ..) h.sound ?_ fun e _ => hfail e)
  refine meets_refuse_bind (fun _ => hfail _) fun hmatch =>
    meets_get_bind (meets_refuse_bind (fun _ => hfail _) fun hfollows => ?_)
  rw [not_or, not_not, not_not] at hmatch
  rw [Bool.not_eq_false] at hfollows
  have hstaged : stagedOf H s bank = some staged := by
    rw [Io.eval_adapt] at hdecoded
    rw [stagedOf_eq_ok]
    revert hdecoded
    cases (decodeStagingHeader H (headerOf s bank) bank).eval (faultless s) with
    | error e => exact fun h => nomatch h
    | ok found => exact fun h => congrArg Except.ok (Except.ok.inj h)
  obtain ⟨rfl, hresumed⟩ := h.resumed hscanned hspare hstaged hfollows
  refine meets_modify_bind ((loadManifest_spec hresumed).andThen ?_ ?_)
  · intro _ st₁ s₁ hsame₁
    refine (loadPayloadBlocks_spec (hsame₁.resumed hresumed) _).mono ?_ fun _ => id
    intro r st₂ s₂ hr
    cases r with
    | error e => exact ⟨hr.1.trans hsame₁.1, hr.2⟩
    | ok a =>
      have hresumed₂ := hr.resumed (hsame₁.resumed hresumed)
      obtain ⟨rfl, payload₁, manifest₁, rfl⟩ := hsame₁
      obtain ⟨rfl, payload₂, manifest₂, rfl⟩ := hr
      exact ⟨rfl, hresumed₂, rfl, hstaged, hmatch.1⟩
  · exact fun _ _ _ h => h

theorem resumeFrom_spec {transaction : TransactionId} (candidates : List SoundBankId)
    (h : Idle H ground st s)
    (hscanned : st.scanned = true) :
    On H ground (resumeFrom H transaction candidates)
      (Ends (fun identity st' s' => TakesUp H ground (target ground) transaction s st' s' ∧
        identity = st'.updateIdentity)
        fun _ => GivesUp H ground s)
      (Sound H ground none) st s := by
  induction candidates generalizing st with
  | nil => exact meets_throw ⟨rfl, h, hscanned⟩
  | cons candidate candidates ih =>
    refine meets_get_bind (meets_ite (fun _ => ih h hscanned) fun hfree => ?_)
    rw [not_or, Bool.not_eq_true] at hfree
    refine meets_attempt_bind ((loadStagingHeader_spec h hscanned hfree.1).mono ?_ fun _ => id)
    intro r st' s' hr
    cases r with
    | ok a =>
      obtain ⟨rfl, hresumed, rfl, hstaged, htransaction⟩ := hr
      exact meets_get_bind (meets_pure ⟨⟨rfl, hresumed, rfl, hstaged, htransaction⟩, rfl⟩)
    | error e =>
      obtain ⟨rfl, hidle, hscanned'⟩ := hr
      exact meets_ite (fun _ => ih hidle hscanned') fun _ => meets_throw ⟨rfl, hidle, hscanned'⟩

/-- An update that is found in the target again, or none. -/
theorem resumeUpdate_spec {transaction : TransactionId} (h : Idle H ground st s) :
    On H ground (resumeUpdate H transaction)
      (Ends (fun identity st' s' => TakesUp H ground (target ground) transaction s st' s' ∧
        identity = st'.updateIdentity)
        fun _ st' s' => s' = s ∧ Idle H ground st' s')
      (Sound H ground none) st s := by
  refine meets_refuse_bind (fun _ => ⟨rfl, h⟩) fun _ =>
    meets_get_bind (meets_refuse_bind (fun _ => ⟨rfl, h⟩) fun _ => ?_)
  refine (ensureSelected_spec h h.sound).andThen ?_ ?_
  · rintro _ st₁ s₁ ⟨rfl, h₁, hscanned₁, _⟩
    refine (resumeFrom_spec [.a, .b] h₁ (hscanned₁ rfl)).mono ?_ fun _ => id
    intro r st' s' hr
    cases r with
    | ok identity => exact hr
    | error e => exact ⟨hr.1, hr.2.1⟩
  · rintro e st₁ s₁ ⟨rfl, h₁, _⟩
    exact ⟨rfl, h₁⟩

/-- The bank after the ground holds a spare of the generation before it, or nothing that is committed. -/
theorem Idle.reclaimable_of_spare (h : Idle H ground st s) (hscanned : st.scanned = true)
    (hspare : (st.selection.snapshotFor (target ground)).valid = true) : Reclaimable H ground s := by
  have hcommitted := (h.selection hscanned).spare hspare
  have hrecord := recordOf_of_committed hcommitted
  have holder : (st.selection.snapshotFor (target ground)).generation.toNat + 1 = level ground :=
    (h.sound.pending_committed _ hcommitted).resolve_right nofun
  intro staged hstaged
  rcases h.sound.staged staged hstaged with hle | ⟨hgeneration, hready⟩
  · exact hle
  · have hsame : (st.selection.snapshotFor (target ground)).generation = staged.generation := by
      rw [record_of_ready hready hrecord]; rfl
    rw [hsame] at holder
    omega

/-- The update of the plan is under way, and not committed. -/
structure Begins (H : Hashes) (ground : Option SoundBankSnapshot) (plan : SoundBundlePlan)
    (identity : SoundUpdateIdentity)
    (st : SoundAssetStore) (s : Flash) : Prop where
  active : Active H ground st s
  sound : Sound H ground none s
  plan_eq : st.updatePlan = plan
  transaction : st.updateTransactionId = transactionId H plan (target ground) st.updateGeneration
  identity_eq : identity = st.updateIdentity

theorem headerOf_erased {bank : SoundBankId} (h : isErased (headerOf s bank) = true) : s bank 0 = 0xFF := by
  rw [isErased, List.all_eq_true] at h
  refine beq_iff_eq.1 (h _ (List.mem_of_getElem? (i := 0) ?_))
  rw [headerOf, getElem?_region, if_pos (by decide)]
  rfl

/-- `begin_or_resume_update` of a store without an update. -/
theorem beginOrResumeUpdate_spec {plan : SoundBundlePlan} (h : Idle H ground st s) :
    On H ground (beginOrResumeUpdate H plan)
      (Ends (fun identity => Begins H ground plan identity) fun _ st' s' => Idle H ground st' s')
      (Sound H ground none) st s := by
  have hnew : ∀ st', Idle H ground st' s → Reclaimable H ground s → On H ground (beginNewUpdate H plan)
      (Ends (fun identity => Begins H ground plan identity) fun _ st' s' => Idle H ground st' s')
      (Sound H ground none) st' s := by
    intro st' h' hreclaim
    refine (beginNewUpdate_spec h' hreclaim).mono ?_ fun _ => id
    intro r st'' s'' hr
    cases r with
    | error e => exact hr
    | ok identity => exact ⟨hr.1.active, hr.1.sound, hr.2.1, hr.2.2.1, hr.2.2.2⟩
  refine meets_refuse_bind (fun _ => h) fun _ => meets_get_bind (meets_ite (fun hactive => ?_) fun _ => ?_)
  · rw [h.inactive] at hactive
    cases hactive
  refine (ensureSelected_spec h h.sound).andThen ?_ ?_
  case refine_2 =>
    rintro e st₁ s₁ ⟨rfl, h₁, _⟩
    exact h₁
  rintro _ st₁ s₁ ⟨rfl, h₁, hscanned₁, _⟩
  have hscanned := hscanned₁ rfl
  have hfaithful := h₁.selection hscanned
  refine meets_get_bind (meets_bind (meets_ofExcept (fun next hnext => ?_) fun e _ => h₁))
  obtain ⟨generation, bank⟩ := next
  obtain ⟨rfl, hgeneration⟩ := nextTarget_spec hfaithful.current hnext
  refine meets_get_bind (meets_refuse_bind (fun _ => h₁) fun _ => ?_)
  refine meets_bind (meets_compute (finding_deriveTransactionId _ _)
    (eval_deriveTransactionId ..) h₁.sound ?_ fun e _ => h₁)
  refine meets_ite (fun hspare => hnew st₁ h₁ (h₁.reclaimable_of_spare hscanned hspare)) fun hspare => ?_
  refine meets_find_bind (observing_read mapIo_fault (Nat.le_refl _) _) h₁.sound
    (fun encoded hencoded => ?_) fun e _ => h₁
  have hheader : headerOf s₁ (target ground) = encoded := Except.ok.inj hencoded
  subst hheader
  refine meets_ite (fun herased => hnew st₁ h₁ fun staged hstaged => ?_) fun _ => ?_
  · rw [stagedOf_erased (headerOf_erased herased)] at hstaged
    cases hstaged
  have hfinds :
    Finding (TearEvident H) .a 0 (decodeStagingHeader H (headerOf s₁ (target ground)) (target ground)) :=
    finding_decodeStagingHeader _
  refine meets_find_bind hfinds h₁.sound (fun staged hdecoded => ?_) fun e _ => h₁
  refine meets_bind (meets_compute (finding_deriveTransactionId _ _)
    (eval_deriveTransactionId ..) h₁.sound ?_ fun e _ => h₁)
  refine meets_refuse_bind (fun _ => h₁) fun hauthentic => ?_
  have hstaged : stagedOf H s₁ (target ground) = some staged := stagedOf_eq_ok.2 hdecoded
  refine meets_ite (fun holder => hnew st₁ h₁ fun staged' hstaged' => ?_) fun _ =>
    meets_refuse_bind (fun _ => h₁) fun hsame => ?_
  · -- a header that the ground has left behind
    rw [← Option.some.inj (hstaged.symm.trans hstaged'), ← hfaithful.current,
      SoundStoreSelection.current, if_pos holder.1]
    exact UInt64.le_iff_toNat_le.1 holder.2
  rw [not_or, not_or, not_not, not_not, not_not] at hsame
  refine (loadStagingHeader_spec h₁ hscanned (Bool.not_eq_true _ ▸ hspare)).andThen ?_ fun _ _ _ h => h.2.1
  rintro _ st₂ s₂ ⟨rfl, hresumed, -, hstaged₂, htransaction⟩
  have hupdate : st₂.update = staged := Option.some.inj (hstaged₂.symm.trans hstaged)
  have hplan : st₂.updatePlan = plan := (congrArg Staged.plan hupdate).trans hsame.2.2
  have hgeneration₂ : st₂.updateGeneration = generation :=
    (congrArg Staged.generation hupdate).trans hsame.1
  refine meets_get_bind (meets_pure ⟨hresumed.active, hresumed.sound, hplan, ?_, rfl⟩)
  rw [htransaction, hgeneration₂]

/-! ## Discarding -/

/-- A header that is found undecodable is no update's. -/
theorem stagingState_spec {bank : SoundBankId} (hK : K s) :
    On H ground (Method.lift (stagingState H bank))
      (fun r st' s' => st' = st ∧ s' = s ∧ (r = .ok .invalid → stagedOf H s bank = none)) K st s := by
  rw [stagingState, Method.lift_bind]
  refine meets_find_bind (observing_read mapIo_fault (Nat.le_refl _) _) hK
    (fun encoded hencoded => ?_) fun e _ => ⟨rfl, rfl, fun h => by cases h⟩
  have hheader : headerOf s bank = encoded := Except.ok.inj hencoded
  subst hheader
  split
  · exact meets_pure ⟨rfl, rfl, fun h => by cases h⟩
  have hfinds : Finding (TearEvident H) .a 0 (decodeStagingHeader H (headerOf s bank) bank) :=
    finding_decodeStagingHeader _
  rw [Method.lift_bind, Method.lift_attempt]
  refine meets_attempt_bind (meets_find hfinds hK (fun staged _ => ?_) fun e he => ?_)
  · dsimp only
    rw [Method.lift_bind]
    refine meets_bind (meets_compute (finding_deriveTransactionId _ _) (eval_deriveTransactionId ..)
      hK ?_ fun e _ => ⟨rfl, rfl, fun h => by cases h⟩)
    exact meets_pure ⟨rfl, rfl, fun h => by cases h⟩
  · dsimp only
    rw [Method.lift_bind, Method.lift_refuse]
    refine meets_refuse_bind (fun _ => ⟨rfl, rfl, fun h => by cases h⟩) fun hinvalid =>
      meets_pure ⟨rfl, rfl, fun _ => ?_⟩
    rcases he with hdecoded | hfault
    · rw [stagedOf, hdecoded]
      rfl
    · rw [not_not.1 hinvalid] at hfault
      rcases hfault with h | h <;> cases h

/-- The selection that is made anew when the target is erased. -/
theorem Bare.reselected (h : Bare H ground { st with selection := st.selection.erased (target ground) } s) :
    Idle H ground { st with
      selection := selectSoundBanks (st.selection.erased (target ground)).bankA
        (st.selection.erased (target ground)).bankB
      scanned := true } s := by
  have hselection (selection : SoundStoreSelection) (bank : SoundBankId) :
    selectSoundBanks selection.bankA selection.bankB =
      arranged bank (selection.snapshotFor bank.other) (selection.snapshotFor bank) := by cases bank <;> rfl
  have hground : (st.selection.erased (target ground)).snapshotFor (target ground).other =
    found H s (target ground).other := by
    rw [found, h.sound.ground_committed]
    exact h.faithful.ground_eq
  have huncommitted := committed_of_recordOf h.record
  rw [hselection _ (target ground), hground]
  obtain ⟨hone, hcurrent⟩ := @arranged_blank (target ground) (found H s (target ground).other) _ h.spare
  refine ⟨h.sound, h.inactive, fun _ =>
    ⟨hone, hcurrent.trans (found_ground h.sound), ?_, fun hvalid => ?_⟩, fun _ snapshot hcommitted => ?_⟩
  · rw [snapshotFor_other_arranged, found, h.sound.ground_committed]
  · rw [snapshotFor_arranged] at hvalid
    exact absurd (h.spare.symm.trans hvalid) Bool.false_ne_true
  · rw [huncommitted] at hcommitted
    cases hcommitted

/-- Only a header that is no update's goes. -/
theorem discardInvalidStaging_spec {plan : SoundBundlePlan} (h : Idle H ground st s) :
    On H ground (discardInvalidStaging H plan) (fun _ st' s' => Idle H ground st' s')
      (Sound H ground none) st s := by
  refine meets_refuse_bind (fun _ => h) fun _ => meets_get_bind (meets_refuse_bind (fun _ => h) fun _ => ?_)
  refine (ensureSelected_spec h h.sound).andThen ?_ ?_
  case refine_2 =>
    rintro e st₁ s₁ ⟨rfl, h₁, _⟩
    exact h₁
  rintro _ st₁ s₁ ⟨rfl, h₁, hscanned₁, _⟩
  have hscanned := hscanned₁ rfl
  have hfaithful := h₁.selection hscanned
  refine meets_get_bind (meets_bind (meets_ofExcept (fun next hnext => ?_) fun e _ => h₁))
  obtain ⟨generation, bank⟩ := next
  obtain ⟨rfl, -⟩ := nextTarget_spec hfaithful.current hnext
  refine meets_refuse_bind (fun _ => h₁) fun _ =>
    meets_get_bind (meets_refuse_bind (fun _ => h₁) fun _ => ?_)
  refine meets_refuse_bind (fun _ => h₁) fun _ => ?_
  refine (stagingState_spec h₁.sound).andThen ?_ ?_
  case refine_2 =>
    rintro e st₂ s₂ ⟨rfl, rfl, -⟩
    exact h₁
  rintro state st₂ s₂ ⟨rfl, rfl, hinvalid⟩
  cases state with
  | erased => exact meets_pure h₁
  | valid authentic =>
    cases authentic with
    | false => exact meets_pure h₁
    | true => exact meets_throw h₁
  | invalid =>
    have hnone := hinvalid rfl
    have hreclaim : Reclaimable H ground s₂ := fun staged hstaged => by
      rw [hnone] at hstaged
      cases hstaged
    have hforget {s' : Flash} (hsound : Sound H ground none s') : Idle H ground (forgetSelection st₂) s' :=
      ⟨hsound, h₁.inactive, nofun, nofun⟩
    refine meets_bind (meets_onError ((meets_erase (P := Ends (fun _ st' s' => st' = st₂ ∧ Bare H ground
      { st₂ with selection := st₂.selection.erased (target ground) } s') fun _ st' s' => st' = st₂ ∧
        Sound H ground none s')
      leaves_erase ?_ ?_ ?_).andThen ?_ ?_))
    · exact fun s' herase hevident => (h₁.sound.torn hreclaim herase hevident).1
    · intro s' herase herased
      refine ⟨rfl,
        h₁.bare hscanned herase (fun i _ hi => herased i (Nat.zero_le i) ?_) fun staged hstaged => ?_⟩
      · exact lt_of_lt_of_le hi (by decide)
      · rw [stagedOf_erased (herased 0 (Nat.le_refl 0) (by decide))] at hstaged
        cases hstaged
    · exact fun e s' _ herase hevident => ⟨rfl, (h₁.sound.torn hreclaim herase hevident).1⟩
    · rintro _ _ s₃ ⟨rfl, hbare⟩
      refine verifyRegionErased_spec hbare.sound (fun _ => ?_) fun e => hforget hbare.sound
      have hidle := hbare.reselected
      exact meets_modify_bind (meets_refuse (fun _ => hidle.keep h₁.inactive rfl rfl) fun _ =>
        hidle.keep h₁.inactive rfl rfl)
    · rintro e _ s₃ ⟨rfl, hsound⟩
      exact hforget hsound

end Begin

end CodexKeyboard.Assets.SoundAssetStore
