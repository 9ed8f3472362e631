import CodexKeyboard.Assets.StoreSafety
/-!
# The store between two generations

What holds of the store and its flash between two calls, from the generation on that was in use
before: no update is under way (`Idle`), or one is, in the bank beside it (`Active`). A scan of
either finds the generation in use (`scan_spec`), and a change of the target that leaves it ready
leaves an update under way (`Active.change`).
-/

namespace CodexKeyboard.Assets.SoundAssetStore

open Lib Buffer Storage

/-- The checks that pass after an erase that did not succeed passed before it, and found the same. -/
def TearEvident (H : Hashes) (s s' : Flash) : Prop :=
  ∀ bank, (∀ snapshot, recordOf H s' bank = .ok snapshot → recordOf H s bank = .ok snapshot) ∧
    (∀ snapshot, committed H s' bank = some snapshot → committed H s bank = some snapshot) ∧
    ∀ staged, stagedOf H s' bank = some staged → stagedOf H s bank = some staged

abbrev storeFlash (H : Hashes) : Device StorageCall StorageAnswer Flash := soundFlash (TearEvident H)

/-! ## The memory of the store -/

/-- The update under way. -/
def update (st : SoundAssetStore) : Staged :=
  { generation := st.updateGeneration, transaction := st.updateTransactionId, plan := st.updatePlan }

/-- The snapshot it is committed as. -/
def pending (st : SoundAssetStore) : Option SoundBankSnapshot :=
  if st.updateActive then some (snapshotOf st.updateBank st.update) else none

/-- A selection with the ground active. -/
structure Faithful (H : Hashes) (ground : Option SoundBankSnapshot) (selection : SoundStoreSelection)
    (s : Flash) : Prop where
  one : selection.splitBrain = false
  current : selection.current = ground
  ground_eq : selection.snapshotFor (target ground).other = ground.getD { bank := (target ground).other }
  spare : (selection.snapshotFor (target ground)).valid = true →
    committed H s (target ground) = some (selection.snapshotFor (target ground))

/-- No update is under way. -/
structure Idle (H : Hashes) (ground : Option SoundBankSnapshot) (st : SoundAssetStore) (s : Flash) :
    Prop where
  sound : Sound H ground none s
  inactive : st.updateActive = false
  selection : st.scanned = true → Faithful H ground st.selection s
  known : st.scanned = true → ∀ snapshot, committed H s (target ground) = some snapshot →
    (st.selection.snapshotFor (target ground)).valid = true

/-- An update is under way, in the target. -/
structure Active (H : Hashes) (ground : Option SoundBankSnapshot) (st : SoundAssetStore)
    (s : Flash) : Prop where
  sound : Sound H ground st.pending s
  active : st.updateActive = true
  bank : st.updateBank = target ground
  generation : st.updateGeneration.toNat = level ground + 1
  valid : st.update.Valid
  ready : Ready H s (target ground) st.update
  header : ∀ staged, stagedOf H s (target ground) = some staged → staged = st.update
  selection : st.scanned = true → Faithful H ground st.selection s ∧
    (st.selection.snapshotFor (target ground)).valid = false

/-- What holds of a store between two calls, from a ground on. -/
def Stands (H : Hashes) (ground : Option SoundBankSnapshot) (st : SoundAssetStore) (s : Flash) : Prop :=
  ∃ later, Since ground later ∧ (Idle H later st s ∨ Active H later st s)

section Memory
variable {H : Hashes} {ground : Option SoundBankSnapshot} {st st' : SoundAssetStore} {s s' : Flash}

theorem Idle.stands (h : Idle H ground st s) : Stands H ground st s := ⟨ground, .inl rfl, .inl h⟩

theorem Active.stands (h : Active H ground st s) : Stands H ground st s := ⟨ground, .inl rfl, .inr h⟩

theorem Idle.keep (h : Idle H ground st s) (hactive : st'.updateActive = false)
    (hscanned : st'.scanned = st.scanned)
    (hselection : st'.selection = st.selection) : Idle H ground st' s :=
  ⟨h.sound, hactive, by rw [hscanned, hselection]; exact h.selection,
    by rw [hscanned, hselection]; exact h.known⟩

theorem Idle.forget (h : Idle H ground st s) : Idle H ground (forgetSelection st) s :=
  ⟨h.sound, h.inactive, nofun, nofun⟩

/-- What a scan selects is the ground of a store without an update. -/
theorem faithful_selected {pending : Option SoundBankSnapshot} (h : Sound H ground pending s) :
    Faithful H (selected H s).current (selected H s) s ∧ ∀ snapshot,
      committed H s (target (selected H s).current) = some snapshot →
        ((selected H s).snapshotFor (target (selected H s).current)).valid = true := by
  have hsound := h.rebase
  have hsnapshot : ∀ bank, (selected H s).snapshotFor bank = found H s bank := fun bank => by
    rw [selected_eq_arranged bank, snapshotFor_arranged]
  refine ⟨⟨h.selected_current.1, rfl, ?_, ?_⟩, ?_⟩
  · rw [hsnapshot, found, hsound.ground_committed]
  · rw [hsnapshot]
    exact found_valid
  · intro snapshot hcommitted
    rw [hsnapshot, found_of_committed hcommitted]
    exact (committed_bank hcommitted).2

theorem Idle.of_selected {pending : Option SoundBankSnapshot} (h : Sound H ground pending s)
    (hactive : st.updateActive = false)
    (hselection : st.selection = selected H s) : Idle H (selected H s).current st s :=
  ⟨h.rebase, hactive, fun _ => hselection ▸ (faithful_selected h).1,
    fun _ => hselection ▸ (faithful_selected h).2⟩

/-- Without an update the ground is what a scan selects. -/
theorem Idle.current (h : Idle H ground st s) : (selected H s).current = ground := by
  rcases h.sound.selected_current.2 with ⟨_, hcurrent⟩ | ⟨_, _, hpending, _⟩
  · exact hcurrent
  · cases hpending

end Memory

/-! ## Looking -/

section Looking
variable {H : Hashes} {ground : Option SoundBankSnapshot} {st : SoundAssetStore} {s : Flash} {α : Type}

/-- What a method on the bank that is not the ground's does. -/
abbrev On (H : Hashes) (ground : Option SoundBankSnapshot) (x : StoreMethod α)
    (Q : Except SoundStoreResult α → SoundAssetStore → Flash → Prop) (K : Flash → Prop)
    (st : SoundAssetStore) (s : Flash) : Prop :=
  Meets (storeFlash H) (Leaves (target ground).other) x Q K st s

section Find
variable {x : Checked α} {bank : SoundBankId} {low : Nat} {K : Flash → Prop}

theorem meets_find (hx : Finding (TearEvident H) bank low x)
    {Q : Except SoundStoreResult α → SoundAssetStore → Flash → Prop}
    (hK : K s) (hok : ∀ a, x.eval (faultless s) = .ok a → Q (.ok a) st s)
    (herror : ∀ e, x.eval (faultless s) = .error e ∨ StoreFault e → Q (.error e) st s) :
    On H ground (Method.lift x) Q K st s :=
  meets_observe (Observes.weaken hx ReadsFrom.leaves fun _ => id) hK hok herror

theorem meets_find_bind {β : Type} {f : α → StoreMethod β} (hx : Finding (TearEvident H) bank low x)
    {Q : Except SoundStoreResult β → SoundAssetStore → Flash → Prop} (hK : K s)
    (hok : ∀ a, x.eval (faultless s) = .ok a → On H ground (f a) Q K st s)
    (herror : ∀ e, x.eval (faultless s) = .error e ∨ StoreFault e → Q (.error e) st s) :
    On H ground (Method.lift x >>= f) Q K st s := by
  have hfind :
    On H ground (Method.lift x) (Ends (fun a st' s' => st' = st ∧ s' = s ∧ x.eval (faultless s) = .ok a)
      fun e st' s' => st' = st ∧ s' = s ∧ (x.eval (faultless s) = .error e ∨ StoreFault e)) K st s :=
    meets_find hx hK (fun a h => ⟨rfl, rfl, h⟩) fun e h => ⟨rfl, rfl, h⟩
  refine hfind.andThen ?_ ?_
  · rintro a _ _ ⟨rfl, rfl, h⟩
    exact hok a h
  · rintro e _ _ ⟨rfl, rfl, h⟩
    exact herror e h

/-- A check that finds nothing out but the result of a computation. -/
theorem meets_compute {a : α} (hx : Finding (TearEvident H) .a 0 x) (hvalue : x.eval (faultless s) = .ok a)
    {Q : Except SoundStoreResult α → SoundAssetStore → Flash → Prop} (hK : K s) (hok : Q (.ok a) st s)
    (herror : ∀ e, StoreFault e → Q (.error e) st s) : On H ground (Method.lift x) Q K st s := by
  refine meets_find hx hK (fun a' h => ?_) fun e he => ?_
  · rw [← Except.ok.inj (hvalue.symm.trans h)]
    exact hok
  · rcases he with h | h
    · cases hvalue.symm.trans h
    · exact herror e h

end Find

variable {K : Flash → Prop}

theorem keeps_find {x : Checked α} {evident : Flash → Flash → Prop} {bank other : SoundBankId} {low : Nat}
    {I : SoundAssetStore → Flash → Prop} (hx : Finding evident bank low x) (hK : ∀ st s, I st s → K s) :
    Keeps (soundFlash evident) (Leaves other) I K (Method.lift x) :=
  keeps_observe (Observes.weaken hx ReadsFrom.leaves fun _ => id) hK

theorem inspectBank_spec (bank : SoundBankId) (hK : K s) :
    On H ground (inspectBank H bank) (fun r st' s' => st' = st ∧
      s' = s ∧ ∀ x, r = .ok x → x.2 = found H s bank) K st s := by
  refine meets_attempt_bind
    (meets_find finding_validateSoundBank hK (fun snapshot hfound => ?_) fun e he => ?_)
  · refine meets_pure ⟨rfl, rfl, ?_⟩
    rintro _ ⟨⟩
    exact (found_of_committed (committed_eq_some.2 hfound)).symm
  · refine meets_refuse_bind (fun _ => ⟨rfl, rfl, nofun⟩) fun hnonfatal => meets_pure ⟨rfl, rfl, ?_⟩
    rintro _ ⟨⟩
    rcases he with hfound | he
    · rw [found, committed, hfound]
      rfl
    · exact absurd he.fatal hnonfatal

theorem inspectBanks_spec (hK : K s) :
    On H ground (inspectBanks H) (fun r st' s' => st' = st ∧
      s' = s ∧ ∀ x, r = .ok x → x.1 = selected H s) K st s := by
  refine (inspectBank_spec .a hK).andThen ?_ ?_
  · rintro bankA st' s' ⟨rfl, rfl, hbankA⟩
    refine (inspectBank_spec .b hK).andThen ?_ ?_
    · rintro bankB st'' s'' ⟨rfl, rfl, hbankB⟩
      refine meets_pure ⟨rfl, rfl, fun x hx => ?_⟩
      rw [← Except.ok.inj hx, hbankA _ rfl, hbankB _ rfl]
      rfl
    · rintro e st'' s'' ⟨rfl, rfl, -⟩
      exact ⟨rfl, rfl, fun _ hx => by cases hx⟩
  · rintro e st' s' ⟨rfl, rfl, -⟩
    exact ⟨rfl, rfl, fun _ hx => by cases hx⟩

/-- What a scan does: nothing is written, and where it succeeds the store knows what is in the flash. -/
def Scans (H : Hashes) (ground : Option SoundBankSnapshot) (st : SoundAssetStore) (s : Flash)
    (r : Except SoundStoreResult Unit)
    (st' : SoundAssetStore) (s' : Flash) : Prop :=
  s' = s ∧ Idle H ground st' s ∧ (r = .ok () → st'.scanned = true) ∧ st'.readLeases = st.readLeases

theorem scan_spec (h : Idle H ground st s) (hK : K s) :
    On H ground (scan H) (Scans H ground st s) K st s := by
  refine meets_get_bind (meets_refuse_bind (fun hbusy => ?_) fun _ => meets_modify_bind ?_)
  · rw [h.inactive] at hbusy
    cases hbusy
  refine (inspectBanks_spec hK).andThen ?_ ?_
  · rintro result st' s' ⟨rfl, rfl, hresult⟩
    have hselected : Idle H ground (publish result.1 result.2.1 result.2.2 (forgetSelection st)) s' := by
      have hidle :
        Idle H (selected H s').current (publish result.1 result.2.1 result.2.2 (forgetSelection st)) s' :=
        Idle.of_selected h.sound h.inactive (hresult _ rfl)
      rwa [h.current] at hidle
    exact meets_modify_bind (meets_refuse (fun _ => ⟨rfl, hselected, nofun, rfl⟩) fun _ =>
      ⟨rfl, hselected, fun _ => rfl, rfl⟩)
  · rintro e st' s' ⟨rfl, rfl, _⟩
    exact ⟨rfl, h.forget, nofun, rfl⟩

theorem ensureScanned_spec (h : Idle H ground st s) (hK : K s) :
    On H ground (ensureScanned H) (Scans H ground st s) K st s := by
  refine meets_get_bind (meets_ite (fun hscanned => ?_) fun _ => scan_spec h hK)
  exact meets_pure ⟨rfl, h, fun _ => hscanned, rfl⟩

theorem ensureSelected_spec (h : Idle H ground st s) (hK : K s) :
    On H ground (ensureSelected H) (Scans H ground st s) K st s := by
  refine (ensureScanned_spec h hK).andThen ?_ fun e st' s' ⟨hs, hidle, _, hleases⟩ =>
    ⟨hs, hidle, nofun, hleases⟩
  rintro a st' s' ⟨rfl, hidle, hscanned, hleases⟩
  exact meets_get_bind (meets_refuse (fun _ => ⟨rfl, hidle, nofun, hleases⟩) fun _ =>
    ⟨rfl, hidle, fun _ => hscanned rfl, hleases⟩)

end Looking

/-! ## Changing the target -/

section Target
variable {H : Hashes} {ground : Option SoundBankSnapshot} {st : SoundAssetStore} {s s' : Flash}
    {bank : SoundBankId} {staged : Staged}
  {snapshot : SoundBankSnapshot}

theorem leaves_write {offset : Nat} {bytes : List UInt8} :
    Leaves bank.other (.write bank offset bytes) := (SoundBankId.other_ne bank).symm

theorem leaves_erase {offset n : Nat} : Leaves bank.other (.erase bank offset n) :=
  (SoundBankId.other_ne bank).symm

/-- The record of a bank that is ready for an update is the one of the update. -/
theorem record_of_ready (h : Ready H s bank staged) (hrecord : recordOf H s bank = .ok snapshot) :
    snapshot = snapshotOf bank staged := by
  rcases h.order with hbody | hmarker
  · rw [← (eval_decodeCommit.1 hrecord).2.2.2.2, hbody, bodyFor, committedSnapshot_commitBody]
  · exact absurd hrecord (recordOf_erased (markerAt_erased.1 hmarker))

/-- No header in the target is of an update after the ground. -/
def Reclaimable (H : Hashes) (ground : Option SoundBankSnapshot) (s : Flash) : Prop :=
  ∀ staged, stagedOf H s (target ground) = some staged → staged.generation.toNat ≤ level ground

/-- An erase of the target that did not succeed. -/
theorem Sound.torn {offset n : Nat} (h : Sound H ground none s) (hreclaim : Reclaimable H ground s)
    (herase : Erases s (target ground) offset n s') (hevident : TearEvident H s s') :
    Sound H ground none s' ∧ Reclaimable H ground s' := by
  obtain ⟨hrecord, hcommitted, hstaged⟩ := hevident (target ground)
  refine ⟨h.change (herase.other _ (SoundBankId.other_ne _)) ?_ ?_ ?_,
    fun staged h => hreclaim staged (hstaged staged h)⟩
  · exact fun snapshot h' => h.record snapshot (hrecord snapshot h')
  · exact fun staged h' => .inl (hreclaim staged (hstaged staged h'))
  · exact fun snapshot h' => h.pending_committed snapshot (hcommitted snapshot h')

/-- A target without a record. -/
theorem Sound.blank {pending pending' : Option SoundBankSnapshot} (h : Sound H ground pending s)
    (hother : s' (target ground).other = s (target ground).other) (hrecord : ∀ snapshot,
      recordOf H s' (target ground) ≠ .ok snapshot)
    (hreclaim : Reclaimable H ground s') : Sound H ground pending' s' := by
  refine h.change hother (fun snapshot h' => absurd h' (hrecord snapshot))
    (fun staged h' => .inl (hreclaim staged h')) ?_
  intro snapshot h'
  rw [committed_of_recordOf hrecord] at h'
  cases h'

/-- What an update may do to the target: its commit record stays ready, and its header is the only one. -/
theorem Active.change (h : Active H ground st s)
    (hother : s' (target ground).other = s (target ground).other)
    (hready : Ready H s' (target ground) st.update)
    (hheader : ∀ staged, stagedOf H s' (target ground) = some staged → staged = st.update) :
    Active H ground st s' := by
  have hlevel : st.update.generation.toNat = level ground + 1 := h.generation
  refine { h with sound := ?_, ready := hready, header := hheader, selection := fun hscanned => ?_ }
  · refine h.sound.change hother ?_ ?_ ?_
    · intro snapshot hrecord
      rw [record_of_ready hready hrecord]
      exact .inl hlevel
    · intro staged hstaged
      rw [hheader staged hstaged]
      exact .inr ⟨hlevel, hready⟩
    · intro snapshot hcommitted
      rw [record_of_ready hready (recordOf_of_committed hcommitted), pending, if_pos h.active, h.bank]
      exact .inr rfl
  · obtain ⟨hfaithful, hspare⟩ := h.selection hscanned
    refine ⟨{ hfaithful with spare := fun hvalid => ?_ }, hspare⟩
    rw [hspare] at hvalid
    cases hvalid

theorem Active.flags (h : Active H ground st s) (payload : Nat → Bool) (manifest : Bool) :
    Active H ground { st with payloadComplete := payload, manifestComplete := manifest } s :=
  ⟨h.sound, h.active, h.bank, h.generation, h.valid, h.ready, h.header, h.selection⟩

/-- A change above the header that leaves the target ready. -/
theorem Active.above (h : Active H ground st s)
    (hother : s' (target ground).other = s (target ground).other)
    (hready : Ready H s' (target ground) st.update) (hsame : ∀ i, i < soundManifestOffset →
      s' (target ground) i = s (target ground) i) :
    Active H ground st s' := by
  refine h.change hother hready fun staged hstaged => h.header staged ?_
  rw [← hstaged]
  exact stagedOf_congr fun i hi => (hsame i (hi.trans (by decide))).symm

end Target

end CodexKeyboard.Assets.SoundAssetStore
