import CodexKeyboard.Assets.StoreMethods
/-!
# Reading

The methods behind a read lease write nothing, and of what the store keeps in memory they change
what reads keep alone.
-/

namespace CodexKeyboard.Assets.SoundAssetStore

open Lib Buffer Storage

section Reading
variable {H : Hashes} {evident : Flash → Flash → Prop} {bank : SoundBankId}
    {st st' : SoundAssetStore} {s s' : Flash} {α : Type}

/-- Nothing happened but to what reads keep. -/
def Read (st : SoundAssetStore) (s : Flash) (st' : SoundAssetStore) (s' : Flash) : Prop :=
  s' = s ∧ ∃ selection scanned result leases next,
    st' = { st with readSelection := selection, readSelectionScanned := scanned, readSelectionResult := result
                    readLeases := leases, nextReadLeaseId := next }

theorem Read.refl (st : SoundAssetStore) (s : Flash) : Read st s st s :=
  ⟨rfl, st.readSelection, st.readSelectionScanned, st.readSelectionResult,
    st.readLeases, st.nextReadLeaseId, rfl⟩

/-- A method that only reads. -/
abbrev Reading (evident : Flash → Flash → Prop) (bank : SoundBankId) (st : SoundAssetStore)
    (s : Flash) (x : StoreMethod α) : Prop :=
  Keeps (soundFlash evident) (Leaves bank) (Read st s) (fun s' => s' = s) x

theorem reading_find {x : Checked α} {place : SoundBankId} {low : Nat} (hx : Finding evident place low x) :
    Reading evident bank st s (Method.lift x) := keeps_find hx fun _ _ h => h.1

theorem reading_modify {f : SoundAssetStore → SoundAssetStore}
    (h : ∀ st' s', Read st s st' s' → Read st s (f st') s') :
    Reading evident bank st s (modify f) := keeps_modify h

theorem reading_authenticate (candidate : SoundBankSnapshot) :
    Reading evident bank st s (authenticate H candidate) := by
  refine keeps_ite ?_ (keeps_pure _)
  refine keeps_bind (keeps_attempt (reading_find (finding_validateSoundBankReadCandidate candidate)))
    fun r => ?_
  cases r with
  | ok a => exact keeps_pure _
  | error e => exact keeps_bind (keeps_refuse _ _) fun _ => keeps_pure _

theorem reading_readCommit (place : SoundBankId) : Reading evident bank st s (readCommit H place) := by
  refine keeps_bind (keeps_attempt (reading_find finding_decodeCommit)) fun r => ?_
  cases r with
  | ok a => exact keeps_pure _
  | error e => exact keeps_bind (keeps_refuse _ _) fun _ => keeps_pure _

theorem reading_arbitrate (bankA bankB : SoundBankSnapshot) :
    Reading evident bank st s (arbitrate H bankA bankB) := by
  refine keeps_ite ?_ (keeps_ite ?_ (keeps_pure _))
  · refine keeps_bind (reading_authenticate _) fun bankA => ?_
    exact keeps_bind (reading_authenticate _) fun bankB => keeps_pure _
  · split
    all_goals
      refine keeps_bind (reading_authenticate _) fun active => keeps_ite (keeps_pure _) ?_
      exact keeps_bind (reading_authenticate _) fun fallback => keeps_pure _

theorem reading_scanCommittedContent : Reading evident bank st s (scanCommittedContent H) := by
  refine keeps_get fun st₁ s₁ h₁ => meets_refuse_bind (fun _ => h₁) fun _ => ?_
  refine keeps_bind (reading_modify ?_) (fun _ => ?_) st₁ s₁ h₁
  · rintro st' s' ⟨rfl, _, _, _, leases, next, rfl⟩
    exact ⟨rfl, {}, false, .unavailable, leases, next, rfl⟩
  refine keeps_bind (reading_readCommit .a) fun bankA =>
    keeps_bind (reading_readCommit .b) fun bankB => keeps_ite ?_ ?_
  · refine keeps_bind (reading_modify ?_) fun _ => keeps_throw _
    rintro st' s' ⟨rfl, selection, _, _, leases, next, rfl⟩
    exact ⟨rfl, selection, true, .factoryBlank, leases, next, rfl⟩
  · refine keeps_bind (reading_arbitrate bankA.2 bankB.2) fun candidates =>
      keeps_bind (reading_modify ?_) fun _ => keeps_refuse _ _
    rintro st' s' ⟨rfl, _, _, _, leases, next, rfl⟩
    exact ⟨rfl, candidates, true, _, leases, next, rfl⟩

theorem reading_acquireActiveRead : Reading evident bank st s (acquireActiveRead H) := by
  have hscan : Reading evident bank st s (ensureReadScanned H) :=
    keeps_get fun st₁ s₁ h₁ => keeps_ite (keeps_pure _) reading_scanCommittedContent st₁ s₁ h₁
  refine keeps_bind hscan fun _ => keeps_get ?_
  rintro _ s₂ ⟨rfl, selection, scanned, result, leases, next, rfl⟩
  have hsame (leases' : List SoundReadLease) (next' : UInt64) : Read st s₂
      { st with readSelection := selection, readSelectionScanned := scanned, readSelectionResult := result
                readLeases := leases', nextReadLeaseId := next' } s₂ := ⟨rfl,
                  selection, scanned, result, leases', next', rfl⟩
  refine meets_refuse_bind (fun _ => hsame _ _) fun _ => meets_refuse_bind (fun _ => hsame _ _) fun _ => ?_
  refine meets_refuse_bind (fun _ => hsame _ _) fun _ => meets_refuse_bind (fun _ => hsame _ _) fun _ => ?_
  exact meets_bind (meets_set (meets_pure (hsame _ _)))

theorem reading_releaseRead (lease : SoundReadLease) : Reading evident bank st s (releaseRead lease) := by
  refine keeps_bind (keeps_refuse _ _) fun _ => keeps_get ?_
  rintro _ s₁ ⟨rfl, selection, scanned, result, leases, next, rfl⟩
  refine meets_refuse_bind (fun _ => ⟨rfl, selection, scanned, result, leases, next, rfl⟩) fun _ =>
    meets_set ?_
  exact ⟨rfl, selection, scanned, result, _, next, rfl⟩

end Reading

end CodexKeyboard.Assets.SoundAssetStore
