import CodexKeyboard.Assets.StoreFindings
/-!
# One generation or the next

What holds of a flash between any two commands of the store, whatever the power leaves undone. The
store builds on one generation, the ground, or on none on a new device. The bank of the ground is
never touched; the other one, the target, is where everything happens. A commit record there is of
the generation before the ground or of the one after it. A staging header there that is ahead
belongs to an update whose commit marker is blank, or whose commit body is written; so a marker that
is programmed part of the way is the marker of that update, or none. Whatever was written and torn
there before, that update can still be committed: what its bundle leaves free is erased, and its
commit record fits over what is there.

* `Sound` — what holds of the flash. `Sound.selected_current`: a scan finds the ground, or the
  update that is under way.
* `Ready` — what makes it possible to commit an update in a bank, and `Ready.erase`, `Ready.program`
  what keeps it so.
* `Sound.rebase` — after a scan, what it selected is the ground.
-/

namespace CodexKeyboard.Assets

open Lib Buffer Storage

/-! ## Selecting -/

/-- What a selection settles on. -/
def SoundStoreSelection.current (selection : SoundStoreSelection) : Option SoundBankSnapshot :=
  if selection.activeValid then some selection.active else none

/-- The selection with `spare` in the target and `ground` in the other bank. -/
def arranged (target : SoundBankId) (ground spare : SoundBankSnapshot) : SoundStoreSelection :=
  match target with
  | .a => selectSoundBanks spare ground
  | .b => selectSoundBanks ground spare

section Selecting
variable {target : SoundBankId} {ground spare : SoundBankSnapshot}

theorem snapshotFor_selectSoundBanks (bankA bankB : SoundBankSnapshot) :
    (selectSoundBanks bankA bankB).bankA = bankA ∧ (selectSoundBanks bankA bankB).bankB = bankB := by
  unfold selectSoundBanks
  split_ifs <;> exact ⟨rfl, rfl⟩

@[simp] theorem snapshotFor_arranged : (arranged target ground spare).snapshotFor target = spare := by
  cases target with
  | a => exact (snapshotFor_selectSoundBanks _ _).1
  | b => exact (snapshotFor_selectSoundBanks _ _).2

@[simp] theorem snapshotFor_other_arranged :
    (arranged target ground spare).snapshotFor target.other = ground := by
  cases target with
  | a => exact (snapshotFor_selectSoundBanks _ _).2
  | b => exact (snapshotFor_selectSoundBanks _ _).1

/-- Without a spare the ground is selected. -/
theorem arranged_blank (hspare : spare.valid = false) :
    (arranged target ground spare).splitBrain = false ∧
      (arranged target ground spare).current = if ground.valid then some ground else none := by
  cases target <;> cases hground : ground.valid <;>
    simp [arranged, selectSoundBanks, hspare, hground, SoundStoreSelection.current]

/-- A spare of the generation before is not selected. -/
theorem arranged_older (hground : ground.valid = true) (hspare : spare.valid = true)
    (h : spare.generation.toNat + 1 = ground.generation.toNat) :
    (arranged target ground spare).splitBrain = false ∧
      (arranged target ground spare).current = some ground := by
  have hlt : spare.generation < ground.generation := UInt64.lt_iff_toNat_lt.2 (by omega)
  have hnot : ¬ ground.generation < spare.generation := fun h' => by
    have := UInt64.lt_iff_toNat_lt.1 h'
    omega
  have hdiff : ground.generation - spare.generation = 1 := by
    rw [← UInt64.toNat_inj, UInt64.toNat_sub_of_le _ _ (UInt64.le_iff_toNat_le.2 (by omega)),
      UInt64.toNat_one]
    omega
  cases target <;> simp [arranged, selectSoundBanks, hground, hspare, hlt,
    hnot, hdiff, SoundStoreSelection.current]

/-- A spare of the generation after is. -/
theorem arranged_newer (hspare : spare.valid = true)
    (h : ground.valid = true → spare.generation.toNat = ground.generation.toNat + 1) :
    (arranged target ground spare).splitBrain = false ∧
      (arranged target ground spare).current = some spare := by
  cases hground : ground.valid with
  | false =>
    cases target <;> simp [arranged, selectSoundBanks, hground, hspare, SoundStoreSelection.current]
  | true =>
    have hgeneration := h hground
    have hlt : ground.generation < spare.generation := UInt64.lt_iff_toNat_lt.2 (by omega)
    have hnot : ¬ spare.generation < ground.generation := fun h' => by
      have := UInt64.lt_iff_toNat_lt.1 h'
      omega
    have hdiff : spare.generation - ground.generation = 1 := by
      rw [← UInt64.toNat_inj, UInt64.toNat_sub_of_le _ _ (UInt64.le_iff_toNat_le.2 (by omega)),
        UInt64.toNat_one]
      omega
    cases target <;> simp [arranged, selectSoundBanks, hground, hspare, hlt,
      hnot, hdiff, SoundStoreSelection.current]

end Selecting

namespace SoundAssetStore

section Flashes
variable (H : Hashes)

/-- What a scan finds in a bank. -/
def found (s : Flash) (bank : SoundBankId) : SoundBankSnapshot := (committed H s bank).getD { bank }

/-- What a scan of a flash without faults selects. -/
def selected (s : Flash) : SoundStoreSelection := selectSoundBanks (found H s .a) (found H s .b)

end Flashes

/-- The bank that the update after the ground goes to. -/
def target : Option SoundBankSnapshot → SoundBankId
  | some snapshot => snapshot.bank.other
  | none => .a

/-- The generation of the ground, 0 on a new device. -/
def level : Option SoundBankSnapshot → Nat
  | some snapshot => snapshot.generation.toNat
  | none => 0

/-- The same generation, or a later one. -/
def Since (ground later : Option SoundBankSnapshot) : Prop := later = ground ∨ level ground < level later

theorem Since.trans {ground later last : Option SoundBankSnapshot} (h : Since ground later)
    (h' : Since later last) :
    Since ground last := by
  rcases h with rfl | h
  · exact h'
  · rcases h' with rfl | h'
    · exact .inr h
    · exact .inr (h.trans h')

/-- Where a bank stays erased that holds the bundle of the plan. -/
def Spare (plan : SoundBundlePlan) (i : Nat) : Prop :=
  soundManifestOffset + plan.manifestBytes.toNat ≤ i ∧ i < soundJournalOffset ∨
    soundPayloadOffset + plan.payloadBytes.toNat ≤ i ∧ i < soundReservedEndOffset ∨
    soundCommitOffset + commitMarkerOffset + commitMarkerBytes ≤ i ∧ i < soundBankSize

/-- The commit record of an update. -/
def bodyFor (H : Hashes) (bank : SoundBankId) (staged : Staged) : List UInt8 :=
  commitBody H bank staged.generation staged.transaction staged.plan

def markerFor (H : Hashes) (bank : SoundBankId) (staged : Staged) : List UInt8 :=
  encodeCommitMarker (getU32 (bodyFor H bank staged) 112)

/-- The bytes can still be written over what is there. -/
def Fits (bank : SoundBank) (offset : Nat) (bytes : List UInt8) : Prop :=
  ∀ i byte, bytes[i]? = some byte → bank (offset + i) &&& byte = byte

/-- The update can be committed in the bank, whatever was written and torn there before. -/
structure Ready (H : Hashes) (s : Flash) (bank : SoundBankId) (staged : Staged) : Prop where
  /-- The marker is not touched before the body is there. -/
  order : bodyOf s bank = bodyFor H bank staged ∨ markerAt s bank = List.replicate commitMarkerBytes 0xFF
  body : Fits (s bank) soundCommitOffset (bodyFor H bank staged)
  marker : Fits (s bank) (soundCommitOffset + commitMarkerOffset) (markerFor H bank staged)
  spare : ∀ i, Spare staged.plan i → s bank i = 0xFF
  authentic : transactionId H staged.plan bank staged.generation = staged.transaction

/-- `pending` is the snapshot of the update that is under way. -/
structure Sound (H : Hashes) (ground pending : Option SoundBankSnapshot) (s : Flash) : Prop where
  ground_committed : committed H s (target ground).other = ground
  ground_record : ∀ snapshot, recordOf H s (target ground).other = .ok snapshot →
    snapshot.generation.toNat = level ground
  ground_staged : ∀ staged, stagedOf H s (target ground).other = some staged →
    staged.generation.toNat ≤ level ground
  record : ∀ snapshot, recordOf H s (target ground) = .ok snapshot →
    snapshot.generation.toNat = level ground + 1 ∨ snapshot.generation.toNat + 1 = level ground
  staged : ∀ staged, stagedOf H s (target ground) = some staged →
    staged.generation.toNat ≤ level ground ∨ staged.generation.toNat = level ground + 1 ∧
    Ready H s (target ground) staged
  pending_committed : ∀ snapshot, committed H s (target ground) = some snapshot →
    snapshot.generation.toNat + 1 = level ground ∨ pending = some snapshot

/-! ## Ready for a commit -/

section Fitting
variable {H : Hashes} {s s' : Flash} {bank : SoundBankId} {staged : Staged} {offset n : Nat}
    {bytes : List UInt8}

theorem and_of_between_program {old byte byte' : UInt8} (h : old &&& byte = byte)
    (hbetween : Between (old &&& byte) old byte') :
    byte' &&& byte = byte := by
  have hlow := hbetween.1
  rw [h] at hlow
  rw [UInt8.and_comm, hlow]

theorem eq_of_between_erase {byte' : UInt8} (hbetween : Between 0xFF 0xFF byte') : byte' = 0xFF := by
  have h := hbetween.1
  rwa [UInt8.and_comm, hbetween.2] at h

theorem markerAt_erased : markerAt s bank = List.replicate commitMarkerBytes 0xFF ↔
    ∀ i, soundCommitOffset + commitMarkerOffset ≤ i →
    i < soundCommitOffset + commitMarkerOffset + commitMarkerBytes → s bank i = 0xFF := by
  have hall : region (fun _ => 0xFF) (soundCommitOffset + commitMarkerOffset) commitMarkerBytes =
      List.replicate commitMarkerBytes 0xFF := by rw [region, List.map_const', List.length_range]
  rw [← hall, markerAt, region_eq_iff]

/-- Bits that are as they should be stay so. -/
theorem eq_of_between {byte byte' : UInt8} (h : Between byte byte byte') : byte' = byte := by
  rw [← h.2, UInt8.and_comm, h.1]

theorem Fits.congr {here there : SoundBank} (h : Fits here offset bytes)
    (hsame : ∀ i, offset ≤ i → i < offset + bytes.length → there i = here i) : Fits there offset bytes := by
  intro i byte hbyte
  obtain ⟨hi, _⟩ := List.getElem?_eq_some_iff.1 hbyte
  rw [hsame _ (Nat.le_add_right ..) (Nat.add_lt_add_left hi _)]
  exact h i byte hbyte

/-- What is programmed with the bytes, or part of them, still takes them. -/
theorem Fits.program (h : Fits (s bank) offset bytes) (hprogram : Programs s bank offset bytes s') :
    Fits (s' bank) offset bytes :=
  fun i byte hbyte => and_of_between_program (h i byte hbyte) (hprogram.inside i byte hbyte)

theorem length_bodyFor (staged : Staged) : (bodyFor H bank staged).length = commitBodyBytes :=
  length_commitBody ..

theorem length_markerFor (staged : Staged) : (markerFor H bank staged).length = commitMarkerBytes :=
  length_encodeCommitMarker _

theorem spare_low {plan : SoundBundlePlan} {i : Nat} (h : Spare plan i) : soundManifestOffset ≤ i := by
  rcases h with h | h | h
  · exact (Nat.le_add_right ..).trans h.1
  · exact le_trans (by decide) ((Nat.le_add_right soundPayloadOffset plan.payloadBytes.toNat).trans h.1)
  · exact le_trans (by decide) h.1

/-- Nothing of the commit record is spare. -/
theorem not_spare_record {plan : SoundBundlePlan} {i : Nat} (hlow : soundCommitOffset ≤ i)
    (hhigh : i < soundCommitOffset + commitMarkerOffset + commitMarkerBytes) : ¬ Spare plan i := by
  rintro (h | h | h)
  · exact absurd (h.2.trans_le ((show soundJournalOffset ≤ soundCommitOffset by decide).trans hlow))
      (lt_irrefl i)
  · exact absurd
      (h.2.trans_le ((show soundReservedEndOffset ≤ soundCommitOffset by decide).trans hlow)) (lt_irrefl i)
  · exact absurd (hhigh.trans_le h.1) (lt_irrefl i)

section NotSpare
variable {plan : SoundBundlePlan} {i : Nat}

theorem not_spare_manifest (hplan : planIsValid plan = true)
    (h : i < soundManifestOffset + plan.manifestBytes.toNat) : ¬ Spare plan i := by
  have hsize := (planIsValid_sizes hplan).1
  simp only [Spare, soundManifestOffset, soundJournalOffset, soundPayloadOffset,
    soundReservedEndOffset, soundCommitOffset, soundSectorSize,
    commitMarkerOffset, commitMarkerBytes, soundBankSize] at *
  omega

theorem not_spare_journal (hlow : soundJournalOffset ≤ i) (hhigh : i < soundPayloadOffset) :
    ¬ Spare plan i := by
  simp only [Spare, soundManifestOffset, soundJournalOffset, soundPayloadOffset,
    soundReservedEndOffset, soundCommitOffset,
    commitMarkerOffset, commitMarkerBytes, soundBankSize] at *
  omega

theorem not_spare_payload (hplan : planIsValid plan = true) (hlow : soundPayloadOffset ≤ i)
    (hhigh : i < soundPayloadOffset + plan.payloadBytes.toNat) : ¬ Spare plan i := by
  have hsize := (planIsValid_sizes hplan).2
  simp only [Spare, soundManifestOffset, soundJournalOffset, soundPayloadOffset,
    soundReservedEndOffset, soundCommitOffset, soundPayloadMaxSize,
    commitMarkerOffset, commitMarkerBytes, soundBankSize] at *
  omega

end NotSpare

theorem Ready.congr (h : Ready H s bank staged)
    (hsame : ∀ i, soundManifestOffset ≤ i → s' bank i = s bank i) : Ready H s' bank staged := by
  have hrecord : ∀ i, soundCommitOffset ≤ i → s' bank i = s bank i :=
    fun i hi => hsame i (le_trans (by decide) hi)
  have hbody : bodyOf s' bank = bodyOf s bank := region_eq_iff.2 fun i hi _ => hrecord i hi
  have hmarker : markerAt s' bank = markerAt s bank :=
    region_eq_iff.2 fun i hi _ => hrecord i ((Nat.le_add_right ..).trans hi)
  refine ⟨?_, h.body.congr fun i hi _ => hrecord i hi, h.marker.congr fun i hi _ =>
    hrecord i ((Nat.le_add_right ..).trans hi), ?_, h.authentic⟩
  · rw [hbody, hmarker]
    exact h.order
  · exact fun i hi => (hsame i (spare_low hi)).trans (h.spare i hi)

/-- A change below the commit record that leaves what is spare erased. -/
theorem Ready.below (h : Ready H s bank staged) (hsame : ∀ i, soundCommitOffset ≤ i → s' bank i = s bank i)
    (hspare : ∀ i, Spare staged.plan i → s' bank i = 0xFF) : Ready H s' bank staged := by
  have hbody : bodyOf s' bank = bodyOf s bank := region_eq_iff.2 fun i hi _ => hsame i hi
  have hmarker : markerAt s' bank = markerAt s bank :=
    region_eq_iff.2 fun i hi _ => hsame i ((Nat.le_add_right ..).trans hi)
  refine ⟨?_, h.body.congr fun i hi _ => hsame i hi, h.marker.congr fun i hi _ =>
    hsame i ((Nat.le_add_right ..).trans hi), hspare, h.authentic⟩
  rw [hbody, hmarker]
  exact h.order

/-- An erase below the commit record, whole or part of it. -/
theorem Ready.erase (h : Ready H s bank staged) (herase : Erases s bank offset n s')
    (hhigh : offset + n ≤ soundCommitOffset) :
    Ready H s' bank staged := by
  refine h.below (fun i hi => herase.outside i (.inr (hhigh.trans hi))) fun i hi => ?_
  by_cases hrange : i < offset ∨ offset + n ≤ i
  · exact (herase.outside i hrange).trans (h.spare i hi)
  · rw [not_or, not_lt, not_le] at hrange
    have hinside := herase.inside i hrange.1 hrange.2
    rw [h.spare i hi] at hinside
    exact eq_of_between_erase hinside

/-- A write below the commit record to what is not spare, whole or part of it. -/
theorem Ready.program (h : Ready H s bank staged) (hprogram : Programs s bank offset bytes s')
    (hhigh : offset + bytes.length ≤ soundCommitOffset) (hspare : ∀ i, offset ≤ i →
      i < offset + bytes.length → ¬ Spare staged.plan i) :
    Ready H s' bank staged := by
  refine h.below (fun i hi => hprogram.outside i (.inr (hhigh.trans hi))) fun i hi =>
    (hprogram.outside i ?_).trans (h.spare i hi)
  by_contra hrange
  rw [not_or, not_lt, not_le] at hrange
  exact hspare i hrange.1 hrange.2 hi

theorem spare_outside_record (h : Ready H s bank staged)
    (hsame : ∀ i, i < soundCommitOffset ∨
      soundCommitOffset + commitMarkerOffset + commitMarkerBytes ≤ i → s' bank i = s bank i) :
    ∀ i, Spare staged.plan i → s' bank i = 0xFF := by
  intro i hi
  refine (hsame i ?_).trans (h.spare i hi)
  by_contra hrange
  rw [not_or, not_lt, not_le] at hrange
  exact not_spare_record hrange.1 hrange.2 hi

/-- Programming the body, or part of it. -/
theorem Ready.programBody (h : Ready H s bank staged)
    (hprogram : Programs s bank soundCommitOffset (bodyFor H bank staged) s') :
    Ready H s' bank staged := by
  have hlength : (bodyFor H bank staged).length = commitBodyBytes := length_bodyFor staged
  have habove : ∀ i, soundCommitOffset + commitMarkerOffset ≤ i → s' bank i = s bank i := fun i hi =>
    hprogram.outside i (.inr (by rw [hlength]; exact hi))
  refine ⟨?_, h.body.program hprogram, h.marker.congr fun i hi _ => habove i hi, ?_, h.authentic⟩
  · rcases h.order with hbody | hmarker
    · refine .inl (Eq.trans ?_ hbody)
      refine region_eq_iff.2 fun i hi hlt => ?_
      obtain ⟨j, rfl⟩ := Nat.exists_eq_add_of_le hi
      have hat := congrArg (·[j]?) hbody
      simp only [bodyOf, getElem?_region] at hat
      rw [if_pos (by omega)] at hat
      have hbetween := hprogram.inside j _ hat.symm
      rw [UInt8.and_self] at hbetween
      exact eq_of_between hbetween
    · exact .inr ((region_eq_iff.2 fun i hi _ => habove i hi).trans hmarker)
  · refine spare_outside_record h fun i hi => ?_
    rcases hi with hi | hi
    · exact hprogram.outside i (.inl hi)
    · exact habove i ((Nat.le_add_right ..).trans hi)

/-- Programming the marker, or part of it, once the body is there. -/
theorem Ready.programMarker (h : Ready H s bank staged) (hbody : bodyOf s bank = bodyFor H bank staged)
    (hprogram : Programs s bank (soundCommitOffset + commitMarkerOffset) (markerFor H bank staged) s') :
    Ready H s' bank staged ∧ bodyOf s' bank = bodyFor H bank staged := by
  have hlength : (markerFor H bank staged).length = commitMarkerBytes := length_markerFor staged
  have hbelow : ∀ i, i < soundCommitOffset + commitMarkerOffset → s' bank i = s bank i :=
    fun i hi => hprogram.outside i (.inl hi)
  have hbody' : bodyOf s' bank = bodyFor H bank staged :=
    (region_eq_iff.2 fun i _ hlt => hbelow i hlt).trans hbody
  refine ⟨⟨.inl hbody', h.body.congr fun i _ hlt => hbelow i ?_,
    h.marker.program hprogram, ?_, h.authentic⟩, hbody'⟩
  · rwa [length_bodyFor] at hlt
  · refine spare_outside_record h fun i hi => ?_
    rcases hi with hi | hi
    · exact hbelow i (lt_of_lt_of_le hi (Nat.le_add_right ..))
    · exact hprogram.outside i (.inr (by rw [hlength]; exact hi))

theorem fits_erased (herased : ∀ i, offset ≤ i → i < offset + bytes.length → s bank i = 0xFF) :
    Fits (s bank) offset bytes := by
  intro i byte hbyte
  obtain ⟨hi, _⟩ := List.getElem?_eq_some_iff.1 hbyte
  rw [herased _ (Nat.le_add_right ..) (Nat.add_lt_add_left hi _)]
  exact UInt8.neg_one_and

/-- A bank that is erased is ready for any update. -/
theorem ready_of_erased (herased : ∀ i, soundManifestOffset ≤ i → i < soundBankSize → s bank i = 0xFF)
    (hauthentic : transactionId H staged.plan bank staged.generation = staged.transaction) :
    Ready H s bank staged := by
  have hrecord : ∀ i, soundCommitOffset ≤ i → i < soundBankSize → s bank i = 0xFF := fun i hi hlt =>
    herased i (le_trans (by decide) hi) hlt
  refine ⟨.inr (markerAt_erased.2 fun i hi hlt => ?_), fits_erased fun i hi hlt => ?_,
    fits_erased fun i hi hlt => ?_, fun i hi => ?_,
    hauthentic⟩
  · exact hrecord i ((Nat.le_add_right ..).trans hi) (hlt.trans_le (by decide))
  · rw [length_bodyFor] at hlt
    exact hrecord i hi (hlt.trans_le (by decide))
  · rw [length_markerFor] at hlt
    exact hrecord i ((Nat.le_add_right ..).trans hi) (hlt.trans_le (by decide))
  · refine herased i (spare_low hi) ?_
    rcases hi with hi | hi | hi
    · exact hi.2.trans_le (by decide)
    · exact hi.2.trans_le (by decide)
    · exact hi.2

end Fitting

section Facts
variable {H : Hashes} {s s' : Flash} {bank : SoundBankId}
    {ground pending pending' : Option SoundBankSnapshot}
  {snapshot : SoundBankSnapshot} {staged : Staged}

theorem found_of_committed (h : committed H s bank = some snapshot) : found H s bank = snapshot :=
  by rw [found, h, Option.getD_some]

theorem found_valid (hvalid : (found H s bank).valid = true) :
    committed H s bank = some (found H s bank) := by
  cases h : committed H s bank with
  | none =>
    rw [found, h] at hvalid
    cases hvalid
  | some snapshot => rw [found_of_committed h]

theorem found_invalid (h : committed H s bank = none) : (found H s bank).valid = false := by
  rw [found, h]
  rfl

theorem selected_eq_arranged (bank : SoundBankId) :
    selected H s = arranged bank (found H s bank.other) (found H s bank) := by
  cases bank <;> rfl

theorem generation_ne_zero (h : recordOf H s bank = .ok snapshot) : snapshot.generation.toNat ≠ 0 := by
  intro hzero
  exact (recordOf_eq_ok.1 h).1.generation (UInt64.toNat_inj.1 hzero)

theorem Sound.mono (h : Sound H ground pending s)
    (hpending : ∀ snapshot, committed H s (target ground) = some snapshot → pending = some snapshot →
      snapshot.generation.toNat + 1 = level ground ∨ pending' = some snapshot) :
        Sound H ground pending' s :=
  { h with
    pending_committed := fun snapshot hsnapshot =>
      (h.pending_committed snapshot hsnapshot).elim .inl (hpending snapshot hsnapshot) }

theorem Sound.of_none (h : Sound H ground none s) : Sound H ground pending s := h.mono fun _ _ => nofun

/-- A flash whose target bank alone changed. -/
theorem Sound.change (h : Sound H ground pending s)
    (hother : s' (target ground).other = s (target ground).other)
    (record : ∀ snapshot, recordOf H s' (target ground) = .ok snapshot →
      snapshot.generation.toNat = level ground + 1 ∨ snapshot.generation.toNat + 1 = level ground)
    (staged : ∀ staged, stagedOf H s' (target ground) = some staged →
      staged.generation.toNat ≤ level ground ∨ staged.generation.toNat = level ground + 1 ∧
      Ready H s' (target ground) staged)
    (hpending : ∀ snapshot, committed H s' (target ground) = some snapshot →
      snapshot.generation.toNat + 1 = level ground ∨ pending' = some snapshot) :
        Sound H ground pending' s' where
  ground_committed := (committed_congr fun i _ => congrFun hother i).trans h.ground_committed
  ground_record snapshot hsnapshot :=
    h.ground_record snapshot ((recordOf_congr fun i _ => congrFun hother i).symm.trans hsnapshot)
  ground_staged staged hstaged := h.ground_staged staged
    ((stagedOf_congr fun i _ => congrFun hother i).symm.trans hstaged)
  record := record
  staged := staged
  pending_committed := hpending

theorem found_ground (h : Sound H ground pending s) : (if (found H s (target ground).other).valid then
    some (found H s (target ground).other) else none) = ground := by
  have hground := h.ground_committed
  cases hcommitted : committed H s (target ground).other with
  | none =>
    rw [found_invalid hcommitted, ← hground, hcommitted]
    rfl
  | some snapshot =>
    rw [found_of_committed hcommitted, (committed_bank hcommitted).2, ← hground, hcommitted]
    rfl

theorem level_of_ground (h : Sound H ground pending s)
    (hvalid : (found H s (target ground).other).valid = true) :
    (found H s (target ground).other).generation.toNat = level ground :=
  h.ground_record _ (recordOf_of_committed (found_valid hvalid))

/-- A scan is of one mind, and finds the ground or the update. -/
theorem Sound.selected_current (h : Sound H ground pending s) :
    (selected H s).splitBrain = false ∧
      ((∀ snapshot, committed H s (target ground) = some snapshot →
        snapshot.generation.toNat + 1 = level ground) ∧
          (selected H s).current = ground ∨
        ∃ snapshot, committed H s (target ground) = some snapshot ∧ pending = some snapshot ∧
          snapshot.generation.toNat = level ground + 1 ∧ (selected H s).current = some snapshot) := by
  rw [selected_eq_arranged (target ground)]
  cases hspare : committed H s (target ground) with
  | none =>
    obtain ⟨hsplit, hcurrent⟩ := @arranged_blank (target ground) (found H s (target ground).other) _
      (found_invalid hspare)
    exact ⟨hsplit, .inl ⟨nofun, hcurrent.trans (found_ground h)⟩⟩
  | some spare =>
    have hrecord := recordOf_of_committed hspare
    rw [found_of_committed hspare]
    rcases h.record spare hrecord with hnewer | holder
    · obtain ⟨hsplit, hcurrent⟩ := @arranged_newer (target ground) (found H s (target ground).other) _
        (committed_bank hspare).2 fun hvalid => by rw [level_of_ground h hvalid, hnewer]
      refine ⟨hsplit, .inr ⟨spare, rfl, ?_, hnewer, hcurrent⟩⟩
      exact (h.pending_committed spare hspare).resolve_left (by omega)
    · have hvalid : (found H s (target ground).other).valid = true := by
        by_contra hinvalid
        have hground := found_ground h
        rw [if_neg hinvalid] at hground
        rw [← hground] at holder
        exact Nat.succ_ne_zero _ holder
      obtain ⟨hsplit, hcurrent⟩ := @arranged_older (target ground) _ _ hvalid (committed_bank hspare).2
        (by rw [level_of_ground h hvalid, holder])
      have hground := found_ground h
      rw [if_pos hvalid] at hground
      refine ⟨hsplit, .inl ⟨?_, hcurrent.trans hground⟩⟩
      rintro _ ⟨⟩
      exact holder

theorem Sound.since (h : Sound H ground pending s) : Since ground (selected H s).current := by
  rcases h.selected_current.2 with ⟨_, hcurrent⟩ | ⟨snapshot, _, _, hgeneration, hcurrent⟩
  · exact .inl hcurrent
  · refine .inr ?_
    rw [hcurrent, level, hgeneration]
    exact Nat.lt_succ_self _

/-- What a scan selects is the ground from then on, with no update under way. -/
theorem Sound.rebase (h : Sound H ground pending s) : Sound H (selected H s).current none s := by
  rcases h.selected_current.2 with ⟨holder, hcurrent⟩ | ⟨snapshot, hcommitted, _, hgeneration, hcurrent⟩
  · rw [hcurrent]
    exact h.mono fun snapshot hsnapshot _ => .inl (holder snapshot hsnapshot)
  · have hbank : snapshot.bank = target ground := (committed_bank hcommitted).1
    have htarget : target (some snapshot) = (target ground).other := by rw [target, hbank]
    have hlevel : level (some snapshot) = level ground + 1 := hgeneration
    rw [hcurrent]
    constructor
    · rw [htarget, SoundBankId.other_other]
      exact hcommitted
    · rw [htarget, SoundBankId.other_other, hlevel]
      intro snapshot' hrecord
      rw [recordOf_of_committed hcommitted] at hrecord
      rw [← Except.ok.inj hrecord]
      exact hgeneration
    · rw [htarget, SoundBankId.other_other, hlevel]
      intro staged hstaged
      rcases h.staged staged hstaged with hle | ⟨heq, _⟩ <;> omega
    · rw [htarget, hlevel]
      intro snapshot' hrecord
      exact .inr (by rw [h.ground_record snapshot' hrecord])
    · rw [htarget, hlevel]
      intro staged hstaged
      exact .inl ((h.ground_staged staged hstaged).trans (Nat.le_succ _))
    · rw [htarget, hlevel]
      intro snapshot' hcommitted'
      exact .inl (by rw [h.ground_record snapshot' (recordOf_of_committed hcommitted')])

end Facts

end SoundAssetStore

end CodexKeyboard.Assets
