import CodexKeyboard.Assets.StoreServing
/-!
# Losses of power

Every method keeps what holds of a store between two calls, whatever is under way (`method_spec`),
and so does every run (`Stands.reaches`). The flash starts out erased, or with one bank committed;
an erase that does not succeed makes no check pass that did not pass before.

* `call_is_atomic` — a call leaves the generation that stood, or the update under way, and does not
  touch the bank of the former.
* `generation_never_falls` — the generation in use is never followed by an earlier one.
-/

namespace CodexKeyboard.Assets.SoundAssetStore

open Lib Buffer Storage

/-! ## One call -/

section Calls
variable {H : Hashes} {ground : Option SoundBankSnapshot} {st st' : SoundAssetStore} {s s' : Flash}
    {α : Type}

theorem Read.idle (h : Read st s st' s') (hidle : Idle H ground st s) : Idle H ground st' s' := by
  obtain ⟨rfl, _, _, _, _, _, rfl⟩ := h
  exact hidle.keep hidle.inactive rfl rfl

theorem Read.active (h : Read st s st' s') (hactive : Active H ground st s) : Active H ground st' s' := by
  obtain ⟨rfl, _, _, _, _, _, rfl⟩ := h
  exact { hactive with }

theorem Idle.pending_eq (h : Idle H ground st s) : st.pending = none := by rw [pending, h.inactive]; rfl

theorem Idle.leftover (h : Idle H ground st s) (h' : Idle H ground st' s') :
    Leftover H ground st st' s' := by
  refine ⟨h'.stands, ?_⟩
  rw [h.pending_eq]
  exact h'.sound

theorem Active.leftover (h : Active H ground st s) : Leftover H ground st st s := ⟨h.stands, h.sound⟩

theorem scanForQuery_spec (h : Idle H ground st s) :
    On H ground (scanForQuery H) (fun _ => Idle H ground) (Sound H ground none) st s := by
  refine meets_attempt_bind ((ensureScanned_spec h h.sound).mono ?_ fun _ => id)
  rintro (e | a) st₁ s₁ ⟨rfl, h₁, -, -⟩
  · exact meets_refuse (fun _ => h₁) fun _ => h₁
  · exact meets_pure h₁

/-- The calls of a store without an update. -/
theorem Idle.method_spec (h : Idle H ground st s) (op : StoreOperation) :
    On H ground (op.method H) (fun _ st' s' => Leftover H ground st st' s') (Sound H ground none) st s := by
  have hsame : Leftover H ground st st s := h.leftover h
  have hread {α : Type} {x : StoreMethod α} (hx : Reading (TearEvident H) (target ground).other st s x) :
      On H ground x (fun _ st' s' => Leftover H ground st st' s') (Sound H ground none) st s :=
    (hx st s (Read.refl st s)).mono (fun _ _ _ h' => h.leftover (h'.idle h)) fun s' hs' => hs' ▸ h.sound
  cases op with
  | scan => exact (scan_spec h h.sound).mono (fun _ _ _ h' => h.leftover (h'.1 ▸ h'.2.1)) fun _ => id
  | beginOrResume plan =>
    refine meets_map ((beginOrResumeUpdate_spec h).mono ?_ fun _ => id)
    rintro (e | identity) st' s' h'
    · exact h.leftover h'
    · exact ⟨h'.active.stands, h.pending_eq ▸ h'.sound⟩
  | resume transaction =>
    refine meets_map ((resumeUpdate_spec h).mono ?_ fun _ => id)
    rintro (e | identity) st' s' h'
    · exact h.leftover h'.2
    · exact ⟨h'.1.2.1.active.stands, h.pending_eq ▸ h'.1.2.1.sound⟩
  | queryTransactionOutcome transaction =>
    refine meets_map (meets_refuse_bind (fun _ => hsame) fun _ =>
      meets_get_bind (meets_ite (fun _ => meets_pure hsame) fun _ => ?_))
    refine (scanForQuery_spec h).andThen ?_ fun _ _ _ h' => h.leftover h'
    intro _ st₁ s₁ h₁
    refine meets_get_bind (meets_ite (fun _ => ?_) fun _ => meets_ite (fun _ => ?_) fun _ => ?_)
    all_goals exact meets_pure (h.leftover h₁)
  | queryCurrentActive =>
    refine meets_map ((h.queryCurrentActive_spec h.sound).mono ?_ fun _ => id)
    exact fun _ _ _ h' => h.leftover h'.2
  | discardInvalidStaging plan =>
    exact (discardInvalidStaging_spec h).mono (fun _ _ _ h' => h.leftover h') fun _ => id
  | writeManifest manifest =>
    exact meets_get_bind (meets_refuse_bind (fun _ => hsame) fun hactive => absurd h.inactive hactive)
  | writePayloadBlock blockIndex data =>
    exact meets_get_bind (meets_refuse_bind (fun _ => hsame) fun hactive => absurd h.inactive hactive)
  | commit =>
    exact meets_get_bind (meets_refuse_bind (fun _ => hsame) fun hactive => absurd h.inactive hactive)
  | abort =>
    refine meets_get_bind (meets_ite (fun hactive => ?_) fun _ => meets_pure hsame)
    rw [h.inactive] at hactive
    cases hactive
  | acquireActiveRead => exact meets_map (hread reading_acquireActiveRead)
  | releaseRead lease => exact hread (reading_releaseRead lease)

/-- The calls during an update. -/
theorem Active.method_spec (h : Active H ground st s) (op : StoreOperation) :
    On H ground (op.method H) (fun _ st' s' => Leftover H ground st st' s')
      (Sound H ground st.pending) st s := by
  have hsame : Leftover H ground st st s := h.leftover
  have hread {α : Type} {x : StoreMethod α} (hx : Reading (TearEvident H) (target ground).other st s x) :
      On H ground x (fun _ st' s' => Leftover H ground st st' s') (Sound H ground st.pending) st s := by
    refine (hx st s (Read.refl st s)).mono (fun _ st' s' h' => ⟨(h'.active h).stands, ?_⟩)
      fun s' hs' => hs' ▸ h.sound
    exact h'.1 ▸ h.sound
  have hcarry {x : StoreMethod Unit} (hx : Carries H ground st x) :
      On H ground x (fun _ st' s' => Leftover H ground st st' s') (Sound H ground st.pending) st s :=
    (hx st s h.ongoing).mono (fun _ _ _ h' => h'.leftover) fun _ => id
  have hbusy {β : Type} {x : Unit → StoreMethod β} :
    On H ground (get >>= fun s => refuse (s.updateActive = true) SoundStoreResult.busy >>= x)
      (fun _ st' s' => Leftover H ground st st' s') (Sound H ground st.pending) st s :=
    meets_get_bind (meets_refuse_bind (fun _ => hsame) fun hinactive => absurd h.active hinactive)
  cases op with
  | scan => exact hbusy
  | beginOrResume plan =>
    refine meets_map (meets_refuse_bind (fun _ => hsame) fun _ =>
      meets_get_bind (meets_ite (fun _ => ?_) fun hinactive => ?_))
    · exact meets_get_bind (meets_refuse_bind (fun _ => hsame) fun _ => meets_get_bind (meets_pure hsame))
    · exact absurd h.active hinactive
  | resume transaction => exact meets_map (meets_refuse_bind (fun _ => hsame) fun _ => hbusy)
  | queryTransactionOutcome transaction =>
    refine meets_map (meets_refuse_bind (fun _ => hsame) fun _ =>
      meets_get_bind (meets_ite (fun _ => meets_pure hsame) fun _ => ?_))
    have hscan :
      On H ground (scanForQuery H) (fun _ st' s' => st' = st ∧ s' = s)
      (Sound H ground st.pending) st s := by
      refine meets_attempt_bind
        (meets_get_bind (meets_ite (fun _ => meets_pure (meets_pure ⟨rfl, rfl⟩)) fun _ => ?_))
      refine meets_get_bind (meets_refuse_bind (fun _ => ?_) fun hinactive => absurd h.active hinactive)
      exact meets_refuse (fun _ => ⟨rfl, rfl⟩) fun _ => ⟨rfl, rfl⟩
    refine hscan.andThen ?_ ?_
    · rintro _ _ _ ⟨rfl, rfl⟩
      refine meets_get_bind (meets_ite (fun _ => ?_) fun _ => meets_ite (fun _ => ?_) fun _ => ?_)
      all_goals exact meets_pure hsame
    · rintro _ _ _ ⟨rfl, rfl⟩
      exact hsame
  | queryCurrentActive =>
    refine meets_map ((queryCurrentActive_spec h h.sound).mono ?_ fun _ => id)
    exact fun _ st' s' h' => ⟨h'.2, h'.1 ▸ h.sound⟩
  | discardInvalidStaging plan => exact meets_refuse_bind (fun _ => hsame) fun _ => hbusy
  | writeManifest manifest => exact hcarry (carries_writeManifest manifest)
  | writePayloadBlock blockIndex data => exact hcarry (carries_writePayloadBlock blockIndex data)
  | commit => exact (commitUpdate_spec h).mono (fun _ _ _ h' => h'.1) fun _ => id
  | abort => exact abortUpdate_spec h
  | acquireActiveRead => exact meets_map (hread reading_acquireActiveRead)
  | releaseRead lease => exact hread (reading_releaseRead lease)

end Calls

/-! ## Runs -/

section Runs
variable {H : Hashes} {ground : Option SoundBankSnapshot} {st st' : SoundAssetStore} {s s' : Flash}

/-- Both banks erased, or one of them committed and the other erased. The header of a committed bank
is not of a later update. -/
structure Initial (H : Hashes) (s : Flash) : Prop where
  spare : ∃ bank, BankErased s bank ∧
    (BankErased s bank.other ∨ ∃ snapshot, committed H s bank.other = some snapshot ∧
    ∀ staged, stagedOf H s bank.other = some staged → staged.generation ≤ snapshot.generation)

/-- A store that has just started. -/
theorem Sound.idle (h : Sound H ground none s) : Idle H ground {} s := ⟨h, rfl, nofun, nofun⟩

theorem Sound.stands_new {pending : Option SoundBankSnapshot} (h : Sound H ground pending s) :
    Stands H ground {} s :=
  ⟨(selected H s).current, h.since, .inl h.rebase.idle⟩

theorem Stands.of_since {later : Option SoundBankSnapshot} (hsince : Since ground later)
    (h : Stands H later st s) : Stands H ground st s := by
  obtain ⟨last, hlast, h⟩ := h
  exact ⟨last, hsince.trans hlast, h⟩

/-- A bank that is erased has neither record nor header. -/
theorem BankErased.nothing {bank : SoundBankId} (h : BankErased s bank) :
    (∀ snapshot, recordOf H s bank ≠ .ok snapshot) ∧ ∀ staged, stagedOf H s bank ≠ some staged := by
  refine ⟨fun snapshot => recordOf_erased fun i _ hi =>
    h i (lt_of_lt_of_le hi (by decide)), fun staged => ?_⟩
  rw [stagedOf_erased (h 0 (by decide))]
  exact nofun

/-- A bank that holds the ground, and an erased one. -/
theorem sound_of_erased (hground : committed H s (target ground).other = ground)
    (hrecord : ∀ snapshot, recordOf H s (target ground).other = .ok snapshot →
      snapshot.generation.toNat = level ground)
    (hstaged : ∀ staged, stagedOf H s (target ground).other = some staged →
      staged.generation.toNat ≤ level ground)
    (herased : BankErased s (target ground)) : Sound H ground none s where
  ground_committed := hground
  ground_record := hrecord
  ground_staged := hstaged
  record snapshot h := absurd h (herased.nothing.1 snapshot)
  staged staged h := absurd h (herased.nothing.2 staged)
  pending_committed snapshot h := absurd (recordOf_of_committed h) (herased.nothing.1 snapshot)

theorem Initial.sound (h : Initial H s) : ∃ ground, Sound H ground none s := by
  obtain ⟨bank, herased, herased' | ⟨snapshot, hcommitted, hstaged⟩⟩ := h.spare
  · have hall : ∀ target, BankErased s target := fun target => by
      by_cases hbank : target = bank
      · exact hbank ▸ herased
      · exact SoundBankId.eq_other hbank ▸ herased'
    refine ⟨none, sound_of_erased (committed_of_recordOf (hall _).nothing.1) ?_ ?_ (hall _)⟩
    · exact fun snapshot h => absurd h ((hall _).nothing.1 snapshot)
    · exact fun staged h => absurd h ((hall _).nothing.2 staged)
  · have hbank : target (some snapshot) = bank := by
      rw [target, (committed_bank hcommitted).1, SoundBankId.other_other]
    subst hbank
    refine ⟨some snapshot,
      sound_of_erased hcommitted (fun snapshot' hrecord => ?_) (fun staged h => ?_) herased⟩
    · rw [recordOf_of_committed hcommitted] at hrecord
      rw [← Except.ok.inj hrecord, level]
    · exact UInt64.le_iff_toNat_le.1 (hstaged staged h)

/-- A call leaves the ground alone, and what it leaves can be built on. -/
theorem method_spec (h : Idle H ground st s ∨ Active H ground st s) (op : StoreOperation) :
    On H ground (op.method H) (fun _ st' s' => Leftover H ground st st' s')
      (Sound H ground st.pending) st s := by
  rcases h with h | h
  · have hspec := h.method_spec op
    rwa [← h.pending_eq] at hspec
  · exact h.method_spec op

theorem Stands.method_spec (h : Stands H ground st s) (op : StoreOperation) :
    Meets (storeFlash H) (fun _ => True) (op.method H) (fun _ => Stands H ground)
      (Stands H ground {}) st s := by
  obtain ⟨later, hsince, h⟩ := h
  refine ((SoundAssetStore.method_spec h op).mono (fun _ _ _ h' => h'.1.of_since hsince) fun _ h' =>
    ?_).weaken fun _ _ => trivial
  exact h'.stands_new.of_since hsince

theorem Stands.new (h : Stands H ground st s) : Stands H ground {} s := by
  obtain ⟨later, hsince, h | h⟩ := h
  · exact h.sound.stands_new.of_since hsince
  · exact h.sound.stands_new.of_since hsince

theorem Stands.reaches {x y : SoundAssetStore × Flash} (hstands : Stands H ground x.1 x.2)
    (h : Reaches H (TearEvident H) x y) :
    Stands H ground y.1 y.2 :=
  Reaches.invariant (I := Stands H ground) (K := Stands H ground {})
    (fun op _ _ hstands => hstands.method_spec op)
    (fun _ => id) (fun _ _ => Stands.new) h hstands

/-- The generation that stands before a call: an update leaves it in the other bank, and without one
a scan selects it. -/
def base (H : Hashes) (st : SoundAssetStore) (s : Flash) : Option SoundBankSnapshot :=
  if st.updateActive then committed H s st.updateBank.other else (selected H s).current

/-- What a store that starts on this flash finds. -/
structure Finds (H : Hashes) (s : Flash) (P : Option SoundBankSnapshot → Prop) : Prop where
  /-- The banks do not contradict each other. -/
  one : (selected H s).splitBrain = false
  current : P (selected H s).current
  /-- The bytes of the generation in use have its digests. -/
  digests : ∀ snapshot, (selected H s).current = some snapshot →
    H.sha256 (manifestOf s snapshot.bank snapshot) = snapshot.manifestSha256 ∧
      H.sha256 (bundleOf s snapshot.bank snapshot) = snapshot.bundleSha256
  /-- A scan that succeeds selects it. -/
  scanned : ∀ calls st' s', Exec (storeFlash H) ((scan H).run.run {}) s calls (some (.ok (), st')) s' →
    s' = s ∧ st'.selection = selected H s

theorem base_eq (h : Idle H ground st s ∨ Active H ground st s) : base H st s = ground := by
  rcases h with h | h
  · rw [base, h.inactive]
    exact h.current
  · rw [base, if_pos h.active, h.bank]
    exact h.sound.ground_committed

theorem Sound.current_committed {pending : Option SoundBankSnapshot} {snapshot : SoundBankSnapshot}
    (h : Sound H ground pending s)
    (hcurrent : (selected H s).current = some snapshot) : committed H s snapshot.bank = some snapshot := by
  have hground := h.rebase.ground_committed
  rw [hcurrent] at hground
  rwa [target, SoundBankId.other_other] at hground

theorem scan_selects {K : Flash → Prop} (hK : K s) (hinactive : st.updateActive = false) :
    On H ground (scan H) (fun r st' s' => s' = s ∧ (r = .ok () → st'.selection = selected H s)) K st s := by
  refine meets_get_bind
    (meets_refuse_bind (fun hbusy => absurd (hinactive.symm.trans hbusy) Bool.false_ne_true) fun _ => ?_)
  refine meets_modify_bind ((inspectBanks_spec hK).andThen ?_ ?_)
  · rintro result st₁ s₁ ⟨rfl, rfl, hresult⟩
    exact meets_modify_bind (meets_refuse (fun _ => ⟨rfl, nofun⟩) fun _ => ⟨rfl, fun _ => hresult _ rfl⟩)
  · rintro e st₁ s₁ ⟨rfl, rfl, -⟩
    exact ⟨rfl, fun h => by cases h⟩

theorem Sound.finds {pending : Option SoundBankSnapshot} {P : Option SoundBankSnapshot → Prop}
    (h : Sound H ground pending s)
    (hP : P (selected H s).current) : Finds H s P where
  one := h.selected_current.1
  current := hP
  digests snapshot hcurrent := committed_digests (h.current_committed hcurrent)
  scanned calls st' s' hexec := by
    have hspec :
      On H ground (scan H) (fun r st' s' => s' = s ∧ (r = .ok () → st'.selection = selected H s))
      (fun _ => True) {} s :=
      scan_selects trivial rfl
    have hdone := (hspec.sound hexec).2
    exact ⟨hdone.1, hdone.2 rfl⟩

/-- What a flash may have come to, with an update pending. -/
theorem Sound.current_or {pending : Option SoundBankSnapshot} (h : Sound H ground pending s) :
    (selected H s).current = ground ∨ ∃ snapshot, pending = some snapshot ∧
      (selected H s).current = some snapshot := by
  rcases h.selected_current.2 with ⟨_, hcurrent⟩ | ⟨snapshot, _, hpending, _, hcurrent⟩
  · exact .inl hcurrent
  · exact .inr ⟨snapshot, hpending, hcurrent⟩

/-- An update whose commit returned Ok is over, and selected. -/
theorem commitUpdate_done (h : Idle H ground st s ∨ Active H ground st s) :
    On H ground (commitUpdate H) (fun r st' s' => r = .ok () → st'.updateActive = false ∧
      (selected H s').current = some (snapshotOf st.updateBank st.update)) (fun _ => True) st s := by
  rcases h with h | h
  · refine meets_get_bind (meets_refuse_bind (fun _ hr => ?_) fun hactive => absurd h.inactive hactive)
    cases hr
  · refine (commitUpdate_spec h).mono ?_ fun _ _ => trivial
    rintro r st' s' ⟨-, hdone⟩ hr
    rw [← h.pending_eq]
    exact hdone hr

/-- **Power loss.** Whatever the power interrupts, a store that starts again finds the generation
that stood, or the update that was under way, and the bank of the generation that stood is as it
was. A commit that returned Ok is found. -/
theorem call_is_atomic {s₀ t : Flash} (h₀ : Initial H s₀)
    (hreach : Reaches H (TearEvident H) ({}, s₀) (st, s)) (op : StoreOperation)
    {calls : List StorageCall} {o : Option (Except SoundStoreResult Unit × SoundAssetStore)}
    (hexec : Exec (storeFlash H) ((op.method H).run.run st) s calls o t) :
    Finds H t (fun current => current = base H st s ∨
        st.updateActive = true ∧ current = some (snapshotOf st.updateBank st.update)) ∧
      (∀ snapshot, base H st s = some snapshot → t snapshot.bank = s snapshot.bank ∧
        ∀ call ∈ calls, Leaves snapshot.bank call) ∧
      ∀ st', op = .commit → o = some (.ok (), st') →
        st'.updateActive = false ∧ (selected H t).current = some (snapshotOf st.updateBank st.update) := by
  obtain ⟨ground₀, hsound₀⟩ := h₀.sound
  obtain ⟨ground, -, hstands⟩ := hsound₀.stands_new.reaches hreach
  obtain ⟨hcalls, hout⟩ := (method_spec hstands op).sound hexec
  have hsound : Sound H ground st.pending t := by
    cases o with
    | none => exact hout
    | some result => exact hout.2
  rw [base_eq hstands]
  refine ⟨hsound.finds ?_, ?_, ?_⟩
  · rcases hsound.current_or with hcurrent | ⟨snapshot, hpending, hcurrent⟩
    · exact .inl hcurrent
    · rw [pending] at hpending
      split at hpending
      · exact .inr ⟨by assumption, by rw [hcurrent, ← hpending]⟩
      · cases hpending
  · rintro snapshot rfl
    have hbank : (target (some snapshot)).other = snapshot.bank := SoundBankId.other_other _
    rw [hbank] at hcalls
    exact ⟨leaves_exec hexec hcalls, hcalls⟩
  · rintro st' rfl rfl
    exact ((commitUpdate_done hstands).sound hexec).2 rfl

theorem initial_blankFlash (H : Hashes) : Initial H blankFlash := ⟨.a, fun _ _ => rfl, .inl fun _ _ => rfl⟩

/-- The power goes while the first update is aborted. -/
theorem call_is_atomic_abort :
    ∃ (calls : List StorageCall) (st : SoundAssetStore), st.updateActive = true ∧ st.updateBank = .a ∧
    Finds addingHashes tornFlash (fun current => current = base addingHashes st firstFlash ∨
        st.updateActive = true ∧ current = some (snapshotOf st.updateBank st.update)) ∧
      (∀ snapshot, base addingHashes st firstFlash = some snapshot →
        tornFlash snapshot.bank = firstFlash snapshot.bank ∧ ∀ call ∈ calls, Leaves snapshot.bank call) ∧
      ∀ st', StoreOperation.abort = .commit →
      (none : Option (Except SoundStoreResult Unit × SoundAssetStore)) = some (.ok (), st') →
        st'.updateActive = false ∧
        (selected addingHashes tornFlash).current = some (snapshotOf st.updateBank st.update) := by
  obtain ⟨_, st, hbegin, hactive, hbank⟩ := firstUpdate_begins
  obtain ⟨calls, habort⟩ := firstUpdate_aborts hactive hbank
  exact ⟨calls, st, hactive, hbank,
    call_is_atomic (initial_blankFlash _) (.single (.returns hbegin)) .abort habort⟩

/-- **Durability.** From a state without an update on, the generation in use is the same or a later one. -/
theorem generation_never_falls {s₀ : Flash} (h₀ : Initial H s₀)
    (hreach : Reaches H (TearEvident H) ({}, s₀) (st, s)) (hinactive : st.updateActive = false)
    (hlater : Reaches H (TearEvident H) (st, s) (st', s')) : Finds H s' (Since (selected H s).current) := by
  obtain ⟨ground₀, hsound₀⟩ := h₀.sound
  obtain ⟨ground, -, hidle | hactive⟩ := hsound₀.stands_new.reaches hreach
  · rw [hidle.current]
    obtain ⟨later, hsince, h | h⟩ := hidle.stands.reaches hlater
    · exact h.sound.finds (hsince.trans h.sound.since)
    · exact h.sound.finds (hsince.trans h.sound.since)
  · exact absurd (hactive.active.symm.trans hinactive) Bool.noConfusion

/-- The first update begins, and the power goes while it is aborted. -/
theorem generation_never_falls_abort :
    Finds addingHashes tornFlash (Since (selected addingHashes blankFlash).current) := by
  obtain ⟨_, st, hbegin, hactive, hbank⟩ := firstUpdate_begins
  obtain ⟨_, habort⟩ := firstUpdate_aborts hactive hbank
  exact @generation_never_falls _ {} _ _ _ _ (initial_blankFlash _) .refl rfl
    (.tail (.single (.returns hbegin)) (.powerLoss habort))

end Runs

end CodexKeyboard.Assets.SoundAssetStore
