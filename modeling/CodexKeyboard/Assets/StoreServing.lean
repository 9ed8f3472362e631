import CodexKeyboard.Assets.StoreProgress
import CodexKeyboard.Lib.FaultFree
/-!
# The store on a storage without faults

A storage that serves every call is one of those that `soundFlash` allows, and the methods of a
store come to one end there.

* `serving` — the storage, and `serving_answers`, that it is one of those.
* `plays_beginOrResumeUpdate` — an update begins in a target without a header.
* `plays_resumeUpdate` — an update whose header stands in the target is taken up again.
* `firstUpdate_begins`, `firstUpdate_aborts` — the first update of a new device, and the power that
  goes while it is aborted.
-/

namespace CodexKeyboard.Assets.SoundAssetStore

open Lib Buffer Storage

/-! ## The storage -/

/-- A bank after a write that succeeded. -/
def programmed (bank : SoundBank) (offset : Nat) (bytes : List UInt8) : SoundBank := fun i =>
  if offset ≤ i then bank i &&& bytes.getD (i - offset) 0xFF else bank i

/-- A bank after an erase that succeeded. -/
def erased (bank : SoundBank) (offset n : Nat) : SoundBank :=
  fun i => if offset ≤ i ∧ i < offset + n then 0xFF else bank i

/-- Every call succeeds. -/
def serving (s : Flash) : (c : StorageCall) → StorageAnswer c × Flash
  | .read bank offset n => (.ok (region (s bank) offset n), s)
  | .write bank offset bytes => (.ok (), Function.update s bank (programmed (s bank) offset bytes))
  | .erase bank offset n => (.ok (), Function.update s bank (erased (s bank) offset n))
  | .checkpoint _ _ _ _ => (.ok (), s)
  | .checkpointComplete => ((), s)

theorem programmed_inside {bank : SoundBank} {offset i : Nat} {bytes : List UInt8} {byte : UInt8}
    (h : bytes[i]? = some byte) :
    programmed bank offset bytes (offset + i) = bank (offset + i) &&& byte := by
  rw [programmed, if_pos (Nat.le_add_right ..), Nat.add_sub_cancel_left,
    List.getD_eq_getElem?_getD, h, Option.getD_some]

theorem programmed_outside {bank : SoundBank} {offset i : Nat} {bytes : List UInt8}
    (h : i < offset ∨ offset + bytes.length ≤ i) :
    programmed bank offset bytes i = bank i := by
  rw [programmed]
  split
  · rw [List.getD_eq_getElem?_getD, List.getElem?_eq_none (by omega), Option.getD_none]
    exact UInt8.and_neg_one
  · rfl

theorem serving_answers (evident : Flash → Flash → Prop) (s : Flash) (c : StorageCall) :
    (soundFlash evident).answers s c (serving s c).1 (serving s c).2 := by
  cases c with
  | read bank offset n => exact ⟨rfl, .inl rfl⟩
  | write bank offset bytes =>
    have hexact : ∀ i byte, bytes[i]? = some byte →
        (serving s (.write bank offset bytes)).2 bank (offset + i) = s bank (offset + i) &&& byte := by
      intro i byte hbyte
      show Function.update s bank _ bank _ = _
      rw [Function.update_self, programmed_inside hbyte]
    refine ⟨⟨fun target htarget => Function.update_of_ne htarget ..,
      fun i hi => ?_, fun i byte hbyte => ?_⟩, .inl ⟨rfl, hexact⟩⟩
    · show Function.update s bank _ bank _ = _
      rw [Function.update_self, programmed_outside hi]
    · rw [hexact i byte hbyte]
      exact ⟨UInt8.and_self, by rw [UInt8.and_comm, ← UInt8.and_assoc, UInt8.and_self]⟩
  | erase bank offset n =>
    have hinside :
      ∀ i, offset ≤ i → i < offset + n → (serving s (.erase bank offset n)).2 bank i = 0xFF := by
      intro i hi hlt
      show Function.update s bank _ bank _ = _
      rw [Function.update_self, erased, if_pos ⟨hi, hlt⟩]
    refine ⟨⟨fun target htarget => Function.update_of_ne htarget ..,
      fun i hi => ?_, fun i hi hlt => ?_⟩, .inl ⟨rfl, hinside⟩⟩
    · show Function.update s bank _ bank _ = _
      rw [Function.update_self, erased, if_neg (by omega)]
    · rw [hinside i hi hlt]
      exact ⟨UInt8.and_neg_one, UInt8.and_self⟩
  | checkpoint _ _ _ _ => exact ⟨rfl, .inl rfl⟩
  | checkpointComplete => rfl

section Serving
variable {H : Hashes} {bank : SoundBankId} {st st' : SoundAssetStore} {s : Flash} {staged : Staged}

/-- A check finds there what is to be found. -/
theorem plays_find {α : Type} {x : Checked α} {r : Except SoundStoreResult α} {low : Nat}
    (hx : Finding (fun _ _ => True) bank low x)
    (h : x.eval (faultless s) = r) : Plays serving (Method.lift x : StoreMethod α) st s r st s := by
  rw [← h]
  have hserve : ∀ c, ReadsFrom bank low c → serving s c = (faultless s c, s) := by
    intro c hc
    cases c with
    | read _ _ _ => rfl
    | write _ _ _ => exact hc.elim
    | erase _ _ _ => exact hc.elim
    | checkpoint _ _ _ _ => rfl
    | checkpointComplete => rfl
  refine plays_observe hx hserve fun c hc => ?_
  have hanswers := serving_answers (fun _ _ => True) s c
  rwa [hserve c hc] at hanswers

theorem plays_deriveTransactionId (plan : SoundBundlePlan) (generation : UInt64) :
    Plays serving (Method.lift (deriveTransactionId H plan bank generation)) st s
      (.ok (transactionId H plan bank generation)) st s := by
  have hfinds : Finding (fun _ _ => True) .a 0 (deriveTransactionId H plan bank generation) :=
    finding_deriveTransactionId _ _
  exact plays_find hfinds (eval_deriveTransactionId ..)

theorem plays_encodeStagingHeader (plan : SoundBundlePlan) (generation : UInt64)
    (transaction : TransactionId) :
    Plays serving (Method.lift (encodeStagingHeader H bank generation transaction plan)) st s
      (.ok (stagingHeader H bank generation transaction plan)) st s := by
  have hfinds :
    Finding (fun _ _ => True) .a 0 (encodeStagingHeader H bank generation transaction plan) :=
    finding_encodeStagingHeader _ _ _
  exact plays_find hfinds (eval_encodeStagingHeader ..)

/-! ## Scanning -/

/-- A bank without a record is no reason to stop a scan. -/
theorem nonfatal_of_recordOf {e : SoundStoreResult} (h : recordOf H s bank = .error e) :
    failureIsNonfatal e = true := by
  rw [recordOf, decodeCommit, Io.eval_bind, eval_read, Except.bind, Io.eval_bind, eval_read, Except.bind,
    Io.eval_refuse_bind_eq_error] at h
  rcases h with ⟨_, rfl⟩ | ⟨_, h⟩
  · rfl
  rw [Io.eval_refuse_bind_eq_error, Io.eval_bind, eval_checkPieces, Except.bind] at h
  rcases h with ⟨_, rfl⟩ | ⟨_, h⟩
  · rfl
  simp only [Io.eval_refuse_bind_eq_error] at h
  rcases h with ⟨_, rfl⟩ | ⟨_, ⟨_, rfl⟩ | ⟨_, ⟨_, rfl⟩ | ⟨_, ⟨_, rfl⟩ | ⟨_, h⟩⟩⟩⟩
  · rfl
  · rfl
  · rfl
  · rfl
  · cases h

/-- What a scan can tell: the bank is committed, or has no record. -/
def Plain (H : Hashes) (s : Flash) (bank : SoundBankId) : Prop :=
  (∃ snapshot, committed H s bank = some snapshot) ∨ ∀ snapshot, recordOf H s bank ≠ .ok snapshot

/-- A bank without a record does not pass the check. -/
theorem eval_validateSoundBank_error {e : SoundStoreResult} (h : recordOf H s bank = .error e) :
    (validateSoundBank H bank).eval (faultless s) = .error e := by
  rw [validateSoundBank, Io.eval_bind, validateCommittedContent, Io.eval_bind]
  show ((recordOf H s bank).bind _).bind _ = _
  rw [h]
  rfl

theorem plays_inspectBank (st : SoundAssetStore) (h : Plain H s bank) :
    ∃ result, Plays serving (inspectBank H bank) st s (.ok (result, found H s bank)) st s := by
  rcases h with ⟨snapshot, hcommitted⟩ | hrecord
  · rw [found_of_committed hcommitted]
    exact ⟨.ok,
      plays_attempt_bind (plays_find finding_validateSoundBank (committed_eq_some.1 hcommitted))
      (plays_pure _)⟩
  · cases hfound : recordOf H s bank with
    | ok snapshot => exact absurd hfound (hrecord snapshot)
    | error e =>
      have hvalidate : (validateSoundBank H bank).eval (faultless s) = .error e :=
        eval_validateSoundBank_error hfound
      have hblank : found H s bank = { bank } := by
        rw [found, committed_of_recordOf hrecord, Option.getD_none]
      rw [hblank]
      refine ⟨e,
        plays_attempt_bind (plays_find finding_validateSoundBank hvalidate)
        (plays_refuse_bind ?_ (plays_pure _))⟩
      rw [nonfatal_of_recordOf hfound]
      exact Bool.noConfusion

theorem plays_scan (st : SoundAssetStore) (hactive : st.updateActive = false)
    (hplain : ∀ bank, Plain H s bank)
    (hone : (selected H s).splitBrain = false) :
    ∃ resultA resultB, Plays serving (scan H) st s (.ok ())
      (publish (selected H s) resultA resultB (forgetSelection st)) s := by
  obtain ⟨resultA, hA⟩ := plays_inspectBank (forgetSelection st) (hplain .a)
  obtain ⟨resultB, hB⟩ := plays_inspectBank (forgetSelection st) (hplain .b)
  refine ⟨resultA, resultB, plays_get_bind (plays_refuse_bind ?_ (plays_modify_bind ?_))⟩
  · rw [hactive]
    exact Bool.false_ne_true
  refine Plays.bind (hA.bind (hB.bind (plays_pure _))) (plays_modify_bind (plays_refuse _ ?_))
  rw [show selectSoundBanks (found H s .a) (found H s .b) = selected H s from rfl, hone]
  exact Bool.false_ne_true

/-- A store that has just started scans before it selects. -/
theorem plays_ensureSelected (hplain : ∀ bank, Plain H s bank) (hone : (selected H s).splitBrain = false) :
    ∃ resultA resultB, Plays serving (ensureSelected H) {} s (.ok ())
      (publish (selected H s) resultA resultB {}) s := by
  obtain ⟨resultA, resultB, hscan⟩ := plays_scan {} rfl hplain hone
  refine ⟨resultA, resultB, Plays.bind (plays_get_bind hscan) (plays_get_bind (plays_refuse _ ?_))⟩
  rw [show (publish (selected H s) resultA resultB (forgetSelection {})).selection =
    selected H s from rfl, hone]
  exact Bool.false_ne_true

/-! ## Beginning -/

theorem plays_onError {α : Type} {x : StoreMethod α} {undo : SoundAssetStore → SoundAssetStore}
    {a : α} {s' : Flash}
    (h : Plays serving x st s (.ok a) st' s') :
    Plays serving (onError x undo) st s (.ok a) st' s' := plays_attempt_bind h (plays_pure a)

theorem plays_ofExcept {α : Type} {x : Except SoundStoreResult α} {a : α} (h : x = .ok a) :
    Plays serving (ofExcept x) st s (.ok a) st s := by
  rw [h]
  exact plays_pure a

theorem plays_erase (k : SoundStorageFault → SoundStoreResult) (bank : SoundBankId) (offset n : Nat) :
    Plays serving (Method.lift (erase k bank offset n) : StoreMethod Unit) st s (.ok ()) st
      (Function.update s bank (erased (s bank) offset n)) := plays_lift rfl

theorem plays_write (k : SoundStorageFault → SoundStoreResult) (bank : SoundBankId) (offset : Nat)
    (bytes : List UInt8) :
    Plays serving (Method.lift (write k bank offset bytes) : StoreMethod Unit) st s (.ok ()) st
      (Function.update s bank (programmed (s bank) offset bytes)) := plays_lift rfl

/-- The flash with a bank erased, its commit record first. -/
def reclaimed (s : Flash) (bank : SoundBankId) : Flash :=
  let s' := Function.update s bank (erased (s bank) soundCommitOffset soundSectorSize)
  Function.update s' bank (erased (s' bank) 0 soundCommitOffset)

theorem bankErased_reclaimed (s : Flash) (bank : SoundBankId) : BankErased (reclaimed s bank) bank := by
  intro i hi
  rw [reclaimed, Function.update_self, erased]
  split
  · rfl
  · rename_i hlow
    rw [Function.update_self, erased, if_pos ⟨by omega, lt_of_lt_of_le hi (by decide)⟩]

theorem reclaimed_other {other : SoundBankId} (h : other ≠ bank) : reclaimed s bank other = s other := by
  rw [reclaimed, Function.update_of_ne h, Function.update_of_ne h]

/-- The flash with a header in an erased bank, its magic last. -/
def headed (s : Flash) (bank : SoundBankId) (header : List UInt8) : Flash :=
  let s' := Function.update s bank (programmed (s bank) 4 (header.drop 4))
  Function.update s' bank (programmed (s' bank) 0 (header.take 4))

theorem headed_above {header : List UInt8} {i : Nat} (hlength : header.length = 704) (hi : 704 ≤ i) :
    headed s bank header bank i = s bank i := by
  rw [headed, Function.update_self, programmed_outside, Function.update_self, programmed_outside]
  · rw [List.length_drop]
    omega
  · rw [List.length_take]
    omega

theorem headed_other {header : List UInt8} {other : SoundBankId} (h : other ≠ bank) :
    headed s bank header other = s other := by
  rw [headed, Function.update_of_ne h, Function.update_of_ne h]

theorem region_programmed (place : SoundBank) (offset : Nat) (bytes : List UInt8)
    (herased : ∀ i, offset ≤ i → i < offset + bytes.length → place i = 0xFF) :
    region (programmed place offset bytes) offset bytes.length = bytes := by
  refine List.ext_getElem? fun i => ?_
  rw [getElem?_region]
  split
  · rename_i hi
    rw [programmed_inside (List.getElem?_eq_getElem hi),
      herased _ (Nat.le_add_right ..) (Nat.add_lt_add_left hi _),
      List.getElem?_eq_getElem hi]
    exact congrArg some UInt8.neg_one_and
  · rename_i hi
    rw [List.getElem?_eq_none (not_lt.1 hi)]

/-- What is read back of the header without its magic. -/
theorem region_tail {header : List UInt8} (hlength : header.length = 704)
    (herased : ∀ i, i < 704 → s bank i = 0xFF) :
    region (programmed (s bank) 4 (header.drop 4)) 4 700 = header.drop 4 := by
  have hregion := region_programmed (s bank) 4 (header.drop 4) fun i _ hi =>
    herased i (by rw [List.length_drop] at hi; omega)
  rwa [List.length_drop, hlength] at hregion

/-- What is read back of the magic. -/
theorem region_head {header : List UInt8} (hlength : header.length = 704)
    (herased : ∀ i, i < 704 → s bank i = 0xFF) :
    region (programmed (programmed (s bank) 4 (header.drop 4)) 0 (header.take 4)) 0 4 = header.take 4 := by
  have hregion :=
    region_programmed (programmed (s bank) 4 (header.drop 4)) 0 (header.take 4) fun i _ hi => by
    rw [List.length_take] at hi
    rw [programmed_outside (.inl (by omega)), herased i (by omega)]
  rwa [List.length_take, hlength] at hregion

theorem headerOf_headed {header : List UInt8} (hlength : header.length = 704)
    (herased : ∀ i, i < 704 → s bank i = 0xFF) :
    headerOf (headed s bank header) bank = header := by
  have hsplit :
    headerOf (headed s bank header) bank = region (headed s bank header bank) 0 4 ++
    region (headed s bank header bank) 4 700 :=
    region_add (headed s bank header bank) 0 4 700
  have htail :
    region (headed s bank header bank) 4 700 = region (programmed (s bank) 4 (header.drop 4)) 4 700 := by
    rw [headed, Function.update_self, Function.update_self]
    refine region_eq_iff.2 fun i hi _ => programmed_outside (.inr ?_)
    rw [List.length_take]
    omega
  rw [hsplit, htail, region_tail hlength herased, headed, Function.update_self, Function.update_self,
    region_head hlength herased,
    List.take_append_drop]

theorem plays_writeStagingHeader {header : List UInt8} (hlength : header.length = 704)
    (herased : ∀ i, i < 704 → s bank i = 0xFF) :
    Plays serving (Method.lift (writeStagingHeader bank header)) st s (.ok ()) st
      (headed s bank header) := by
  have hread {s : Flash} (offset n : Nat) :
    Plays serving (Method.lift (read (fun _ => SoundStoreResult.ioError) bank offset n))
      st s (.ok (region (s bank) offset n)) st s := plays_find
        (observing_read ioError_fault (Nat.zero_le _) _) rfl
  rw [writeStagingHeader, Method.lift_bind]
  refine (plays_write _ _ _ _).bind ?_
  rw [Method.lift_bind]
  refine (hread _ _).bind ?_
  rw [Method.lift_bind, Method.lift_refuse]
  refine plays_refuse_bind ?_ ?_
  · rw [Function.update_self, show stagingHeaderBytes - 4 = 700 from rfl, region_tail hlength herased]
    exact fun h => h rfl
  rw [Method.lift_bind]
  refine (plays_write _ _ _ _).bind ?_
  rw [Method.lift_bind]
  refine (hread _ _).bind ?_
  rw [Method.lift_refuse]
  refine plays_refuse _ ?_
  rw [Function.update_self, Function.update_self, region_head hlength herased]
  exact fun h => h rfl

theorem plays_reclaimBank :
    Plays serving (reclaimBank bank) st s (.ok ()) { st with selection := st.selection.erased bank }
      (reclaimed s bank) := by
  refine Plays.bind (plays_onError (plays_erase _ _ _ _))
    (plays_modify_bind ((plays_erase _ _ _ _).bind ?_))
  refine plays_find (finding_verifyRegionErased (Nat.le_refl 0) _)
    (verifyRegionErased_eq_ok.2 fun i _ hi => ?_)
  exact bankErased_reclaimed s bank i (by rwa [Nat.zero_add] at hi)

theorem plays_reclaimTarget (plan : SoundBundlePlan) (generation : UInt64)
    (hpinned : st.targetIsPinned bank = false) :
    Plays serving (reclaimTarget H plan generation bank) st s (.ok (transactionId H plan bank generation))
      { st with selection := st.selection.erased bank } (reclaimed s bank) := by
  refine plays_onError
    (plays_get_bind (plays_refuse_bind ?_ (plays_reclaimBank.bind (plays_deriveTransactionId ..))))
  rw [hpinned]
  exact Bool.false_ne_true

theorem plays_stageUpdate (st : SoundAssetStore) (plan : SoundBundlePlan) (generation : UInt64)
    (transaction : TransactionId)
    (herased : ∀ i, i < 704 → s bank i = 0xFF) :
    Plays serving (stageUpdate H plan generation bank transaction) st s (.ok ())
      { st with updatePlan := plan, updateTransactionId := transaction, payloadComplete := fun _ => false
                manifestComplete := false, updateActive := true }
      (headed s bank (stagingHeader H bank generation transaction plan)) :=
  plays_modify_bind (plays_onError ((plays_encodeStagingHeader ..).bind
    (plays_writeStagingHeader (length_image ⟨generation, transaction, plan⟩) herased)))

/-- A store that has scanned need not do so again. -/
theorem plays_ensureSelected_again (hscanned : st.scanned = true) (hone : st.selection.splitBrain = false) :
    Plays serving (ensureSelected H) st s (.ok ()) st s := by
  refine Plays.bind (a := ()) (plays_get_bind (plays_if_pos hscanned (plays_pure _)))
    (plays_get_bind (plays_refuse _ ?_))
  rw [hone]
  exact Bool.false_ne_true

/-- A new update in a target that no reader holds. -/
theorem plays_beginNewUpdate {plan : SoundBundlePlan} {generation : UInt64}
    (hplan : planIsValid plan = true)
    (hactive : st.updateActive = false)
    (hscanned : st.scanned = true) (hone : st.selection.splitBrain = false)
    (hpinned : st.targetIsPinned bank = false)
    (hnext : nextTarget st.selection plan = .ok (generation, bank)) :
    ∃ st', Plays serving (beginNewUpdate H plan) st s
        (.ok { generation, targetBank := bank, transactionId := transactionId H plan bank generation }) st'
        (headed (reclaimed s bank) bank
          (stagingHeader H bank generation (transactionId H plan bank generation) plan)) ∧
      st'.updateActive = true ∧ st'.updateBank = bank := by
  have herased : ∀ i, i < 704 → reclaimed s bank bank i = 0xFF :=
    fun i hi => bankErased_reclaimed s bank i (hi.trans (by decide))
  generalize hset : ({ st with updateGeneration := generation, updateBank := bank } : SoundAssetStore) = set
  have hpinned' : set.targetIsPinned bank = false := by rw [← hset]; exact hpinned
  have htarget :
    Plays serving (reclaimTarget H plan generation bank) set s (.ok (transactionId H plan bank generation))
      { set with selection := set.selection.erased bank }
      (reclaimed s bank) := plays_reclaimTarget plan generation hpinned'
  generalize hbare :
    ({ set with selection := set.selection.erased bank } : SoundAssetStore) = bare at htarget
  have hbank : bare.updateBank = bank := by rw [← hbare, ← hset]
  have hstage :=
    @plays_stageUpdate H bank (reclaimed s bank) bare plan generation
    (transactionId H plan bank generation) herased
  refine ⟨{ bare with
    updatePlan := plan, updateTransactionId := transactionId H plan bank generation
    payloadComplete := fun _ => false, manifestComplete := false, updateActive := true }, ?_, rfl, hbank⟩
  refine plays_refuse_bind ?_
    (plays_get_bind
    (plays_refuse_bind ?_ ((plays_ensureSelected_again hscanned hone).bind (plays_get_bind ?_))))
  · rw [hplan]
    exact Bool.noConfusion
  · rw [hactive]
    exact Bool.false_ne_true
  · refine (plays_ofExcept hnext).bind (plays_modify_bind ?_)
    show Plays serving _
      ({ st with updateGeneration := generation, updateBank := bank } : SoundAssetStore) s _ _ _
    rw [hset]
    exact htarget.bind (hstage.bind (plays_pure _))

/-- An update begins in a target without a header. -/
theorem plays_beginOrResumeUpdate {plan : SoundBundlePlan} {generation : UInt64}
    (hplan : planIsValid plan = true)
    (hplain : ∀ bank, Plain H s bank) (hone : (selected H s).splitBrain = false)
    (hnext : nextTarget (selected H s) plan = .ok (generation, bank))
    (hblank : isErased (headerOf s bank) = true) :
    ∃ st', Plays serving (beginOrResumeUpdate H plan) {} s
        (.ok { generation, targetBank := bank, transactionId := transactionId H plan bank generation }) st'
        (headed (reclaimed s bank) bank
          (stagingHeader H bank generation (transactionId H plan bank generation) plan)) ∧
      st'.updateActive = true ∧ st'.updateBank = bank := by
  obtain ⟨resultA, resultB, hscan⟩ := plays_ensureSelected hplain hone
  generalize hstore : publish (selected H s) resultA resultB {} = store at hscan
  have hselection : store.selection = selected H s := by rw [← hstore]; rfl
  have hpinned : store.targetIsPinned bank = false := by
    rw [← hstore]
    cases bank <;> rfl
  obtain ⟨st', hbegin, hactive⟩ :=
    @plays_beginNewUpdate H bank store s plan generation hplan (by rw [← hstore]; rfl)
    (by rw [← hstore]; rfl)
    (hselection ▸ hone) hpinned (hselection ▸ hnext)
  have hread :
    Plays serving (Method.lift (read mapIo bank soundStagingHeaderOffset stagingHeaderBytes)) store s
    (.ok (headerOf s bank)) store s :=
    plays_find (observing_read mapIo_fault (Nat.zero_le _) _) rfl
  have hderive : Plays serving (Method.lift (deriveTransactionId H plan bank generation)) store s
      (.ok (transactionId H plan bank generation)) store s := plays_deriveTransactionId ..
  refine ⟨st',
    plays_refuse_bind ?_
    (plays_get_bind (plays_if_neg Bool.false_ne_true (hscan.bind (plays_get_bind ?_)))), hactive⟩
  · rw [hplan]
    exact Bool.noConfusion
  refine (plays_ofExcept (hselection ▸ hnext)).bind
    (plays_get_bind (plays_refuse_bind ?_ (hderive.bind ?_)))
  · show ¬ store.targetIsPinned bank = true
    rw [hpinned]
    exact Bool.false_ne_true
  by_cases hvalid : (store.selection.snapshotFor bank).valid = true
  · exact plays_if_pos hvalid hbegin
  · exact plays_if_neg hvalid (hread.bind (plays_if_pos hblank hbegin))

/-! ## What the flash has of an update -/

theorem plays_verifyManifest (H : Hashes) (st : SoundAssetStore) (s : Flash) :
    ∃ r, Plays serving (verifyManifest H) st s r st s ∧ ∀ e, r = .error e → e = .crcMismatch ∨
    e = .hashMismatch := by
  have hregion (kinds : List SoundStorageWorkKind) : Plays serving
      (Method.lift (hashedRegion (fun _ => SoundStoreResult.ioError) kinds st.updateBank
        soundManifestOffset st.updatePlan.manifestBytes.toNat))
      st s (.ok (region (s st.updateBank) soundManifestOffset st.updatePlan.manifestBytes.toNat)) st s :=
    plays_find (observing_hashedRegion ioError_fault kinds (Nat.le_refl _) _) (eval_hashedRegion ..)
  have hbudget : Finding (fun _ _ => True) .a 0
      (work (fun _ => SoundStoreResult.ioError) .sha256 st.updateBank
        soundManifestOffset sha256FinishBudgetBytes) :=
    observing_work ioError_fault _ _ _ _
  have hwork :
    Plays serving
    (Method.lift (work (fun _ => SoundStoreResult.ioError) .sha256 st.updateBank
    soundManifestOffset sha256FinishBudgetBytes))
      st s (.ok ()) st s := plays_find hbudget rfl
  by_cases hcrc :
    H.crc32 (region (s st.updateBank) soundManifestOffset st.updatePlan.manifestBytes.toNat) =
    st.updatePlan.manifestCrc32
  · by_cases hsha :
      H.sha256 (region (s st.updateBank) soundManifestOffset st.updatePlan.manifestBytes.toNat) =
      st.updatePlan.manifestSha256
    · refine ⟨.ok (), plays_get_bind ((hregion _).bind ((hregion _).bind (hwork.bind ?_))),
        fun e he => by cases he⟩
      exact plays_refuse_bind (not_not.2 hcrc) (plays_refuse _ (not_not.2 hsha))
    · refine ⟨.error .hashMismatch,
        plays_get_bind ((hregion _).bind ((hregion _).bind (hwork.bind ?_))), ?_⟩
      · exact plays_refuse_bind (not_not.2 hcrc) (plays_refused _ hsha)
      · exact fun e he => .inr (Except.error.inj he).symm
  · refine ⟨.error .crcMismatch, plays_get_bind ((hregion _).bind ((hregion _).bind (hwork.bind ?_))), ?_⟩
    · exact (plays_refused _ hcrc).bind_error
    · exact fun e he => .inl (Except.error.inj he).symm

theorem plays_loadManifest (st : SoundAssetStore) (hmanifest : st.manifestComplete = false) :
    ∃ complete, Plays serving (loadManifest H) st s (.ok ())
      { st with manifestComplete := complete } s := by
  obtain ⟨r, hverify, herror⟩ := plays_verifyManifest H st s
  cases r with
  | ok a => exact ⟨true, plays_attempt_bind hverify plays_modify⟩
  | error e =>
    refine ⟨false, plays_attempt_bind hverify ?_⟩
    have hother : ¬ (e = .ioError ∨ e = .unavailable ∨ e = .invalidArgument) := by
      rcases herror e rfl with rfl | rfl <;> decide
    refine plays_if_neg hother ?_
    rw [← hmanifest]
    exact plays_pure ()

theorem plays_verifyPayloadBlock {blockIndex : Nat}
    (h : blockIndex < blockCount st.updatePlan.payloadBytes) :
    ∃ complete, Plays serving (verifyPayloadBlock H blockIndex) st s (.ok complete) st s := by
  have hregion :
    Plays serving (Method.lift (hashedRegion (fun _ => SoundStoreResult.ioError) [.crc32] st.updateBank
        (soundPayloadOffset + blockIndex * soundPayloadBlockSize)
        (blockLength st.updatePlan.payloadBytes blockIndex))) st s
      (.ok (region (s st.updateBank) (soundPayloadOffset + blockIndex * soundPayloadBlockSize)
        (blockLength st.updatePlan.payloadBytes blockIndex))) st s :=
    plays_find (observing_hashedRegion ioError_fault _ (Nat.le_refl _) _) (eval_hashedRegion ..)
  exact ⟨_, plays_get_bind (plays_refuse_bind (blockLength_pos h).ne' (hregion.bind (plays_pure _)))⟩

theorem plays_loadPayloadBlocks (blocks : List Nat) (st : SoundAssetStore)
    (h : ∀ i ∈ blocks, i < blockCount st.updatePlan.payloadBytes) :
    ∃ payload, Plays serving (loadPayloadBlocks H blocks) st s (.ok ())
      { st with payloadComplete := payload } s := by
  induction blocks generalizing st with
  | nil => exact ⟨st.payloadComplete, plays_pure ()⟩
  | cons blockIndex blocks ih =>
    obtain ⟨hfirst, hrest⟩ := List.forall_mem_cons.1 h
    obtain ⟨complete, hverify⟩ := plays_verifyPayloadBlock (H := H) (s := s) hfirst
    obtain ⟨payload, hblocks⟩ := ih (setPayloadComplete blockIndex complete st) hrest
    exact ⟨payload, plays_attempt_bind hverify (plays_modify_bind hblocks)⟩

/-- The state that has taken the update up. -/
def taking (st : SoundAssetStore) (bank : SoundBankId) (staged : Staged) (payload : Nat → Bool)
    (manifest : Bool) : SoundAssetStore :=
  { st with
    updateActive := true, updateBank := bank, updateGeneration := staged.generation
    updatePlan := staged.plan, updateTransactionId := staged.transaction
    payloadComplete := payload, manifestComplete := manifest }

theorem plays_loadStagingHeader (hstaged : stagedOf H s bank = some staged)
    (hauthentic : transactionId H staged.plan bank staged.generation = staged.transaction)
    (hfollows : followsSelection st.selection staged = true) :
    ∃ payload manifest, Plays serving (loadStagingHeader H bank staged.transaction) st s (.ok ())
      (taking st bank staged payload manifest) s := by
  obtain ⟨manifest, hmanifest⟩ :=
    plays_loadManifest (H := H) (s := s) (taking st bank staged (fun _ => false) false) rfl
  obtain ⟨payload, hblocks⟩ :=
    plays_loadPayloadBlocks (H := H) (s := s) (List.range (blockCount staged.plan.payloadBytes))
    (taking st bank staged (fun _ => false) manifest) fun i hi => List.mem_range.1 hi
  have hread :
    Plays serving
    (Method.lift
    (read (fun _ => SoundStoreResult.ioError) bank soundStagingHeaderOffset stagingHeaderBytes))
      st s (.ok (headerOf s bank)) st s := plays_find (observing_read ioError_fault (Nat.zero_le _) _) rfl
  have hdecoded :
    Io.eval (faultless s) (ExceptT.adapt orMismatch (decodeStagingHeader H (headerOf s bank) bank)) =
    .ok staged := by
    rw [Io.eval_adapt, stagedOf_eq_ok.1 hstaged]
    rfl
  have hdecode :
    Finding (fun _ _ => True) bank 0
    (ExceptT.adapt orMismatch (decodeStagingHeader H (headerOf s bank) bank)) :=
    observes_adapt (finding_decodeStagingHeader _) orMismatch_fault
  have hderive :
    Finding (fun _ _ => True) bank 0 (deriveTransactionId H staged.plan bank staged.generation) :=
    finding_deriveTransactionId _ _
  refine ⟨payload, manifest,
    hread.bind
    ((plays_find hdecode hdecoded).bind ((plays_find hderive (eval_deriveTransactionId ..)).bind ?_))⟩
  refine plays_refuse_bind ?_
    (plays_get_bind (plays_refuse_bind ?_ (plays_modify_bind (hmanifest.bind hblocks))))
  · rw [hauthentic]
    exact fun h => h.elim (fun hne => hne rfl) fun hne => hne rfl
  · rw [hfollows]
    exact Bool.noConfusion

/-! ## Resuming -/

theorem plays_resumeFrom_here (hspare : (st.selection.snapshotFor bank).valid = false)
    (hpinned : st.targetIsPinned bank = false)
    {transaction : TransactionId}
    (hload : Plays serving (loadStagingHeader H bank transaction) st s (.ok ()) st' s)
    (rest : List SoundBankId) :
    Plays serving (resumeFrom H transaction (bank :: rest)) st s (.ok st'.updateIdentity) st' s := by
  refine plays_get_bind ?_
  rw [hspare, hpinned, if_neg (by simp)]
  exact plays_attempt_bind hload (plays_get_bind (plays_pure _))

theorem plays_resumeFrom_next (hvalid : (st.selection.snapshotFor bank).valid = true)
    {transaction : TransactionId}
    {rest : List SoundBankId} {r : Except SoundStoreResult SoundUpdateIdentity}
    (h : Plays serving (resumeFrom H transaction rest) st s r st' s) :
    Plays serving (resumeFrom H transaction (bank :: rest)) st s r st' s := by
  refine plays_get_bind ?_
  rw [if_pos (.inl hvalid)]
  exact h

theorem snapshotFor_selected (bank : SoundBankId) : (selected H s).snapshotFor bank = found H s bank := by
  rw [selected_eq_arranged bank, snapshotFor_arranged]

/-- The second bank is the target where the first is in use. -/
theorem valid_of_target (h : target (selected H s).current = .b)
    (hspare : ((selected H s).snapshotFor .b).valid = false) :
    ((selected H s).snapshotFor .a).valid = true := by
  rw [snapshotFor_selected] at hspare ⊢
  by_contra hinvalid
  have hnone : (selected H s).current = none := by
    simp [selected, selectSoundBanks, SoundStoreSelection.current, hspare, Bool.not_eq_true _ ▸ hinvalid]
  rw [hnone] at h
  cases h

/-- A store that has just started takes up the update whose header stands in the target. -/
theorem plays_resumeUpdate (hone : (selected H s).splitBrain = false)
    (hplain : Plain H s (target (selected H s).current).other)
    (hrecord : ∀ snapshot, recordOf H s (target (selected H s).current) ≠ .ok snapshot)
    (hstaged : stagedOf H s (target (selected H s).current) = some staged)
    (hauthentic : transactionId H staged.plan (target (selected H s).current) staged.generation =
      staged.transaction)
    (hfollows : followsSelection (selected H s) staged = true) :
    ∃ st', Plays serving (resumeUpdate H staged.transaction) {} s (.ok st'.updateIdentity) st' s ∧
    st'.updateActive = true ∧
      st'.updateBank = target (selected H s).current ∧ st'.update = staged := by
  have hall : ∀ bank, Plain H s bank := fun bank => by
    by_cases hbank : bank = target (selected H s).current
    · exact hbank ▸ .inr hrecord
    · exact SoundBankId.eq_other hbank ▸ hplain
  obtain ⟨resultA, resultB, hscan⟩ := plays_ensureSelected hall hone
  generalize hstore : publish (selected H s) resultA resultB {} = store at hscan
  have hselection : store.selection = selected H s := by rw [← hstore]; rfl
  have hspare : (store.selection.snapshotFor (target (selected H s).current)).valid = false := by
    rw [hselection, snapshotFor_selected]
    exact found_invalid (committed_of_recordOf hrecord)
  have hpinned : store.targetIsPinned (target (selected H s).current) = false := by
    rw [← hstore]
    cases target (selected H s).current <;> rfl
  obtain ⟨payload, manifest, hload⟩ :=
    @plays_loadStagingHeader H _ store s _ hstaged hauthentic (hselection ▸ hfollows)
  have hvalid : transactionIdValid staged.transaction = true := (stagedOf_eq_some.1 hstaged).1.2.1
  have hresume : Plays serving (resumeFrom H staged.transaction [.a, .b]) store s
      (.ok (taking store (target (selected H s).current) staged payload manifest).updateIdentity)
      (taking store (target (selected H s).current) staged payload manifest) s := by
    cases hbank : target (selected H s).current with
    | a =>
      rw [hbank] at hspare hpinned hload
      exact plays_resumeFrom_here hspare hpinned hload _
    | b =>
      rw [hbank] at hspare hpinned hload
      rw [hselection] at hspare
      refine plays_resumeFrom_next ?_ (plays_resumeFrom_here (hselection ▸ hspare) hpinned hload _)
      rw [hselection]
      exact valid_of_target hbank hspare
  refine ⟨_,
    plays_refuse_bind ?_
    (plays_get_bind (plays_refuse_bind Bool.false_ne_true (hscan.bind hresume))), rfl, rfl, rfl⟩
  rw [hvalid]
  exact Bool.noConfusion

/-! ## A new device -/

/-- A flash that was never written. -/
def blankFlash : Flash := fun _ _ => 0xFF

/-- Hashes that add up the bytes. -/
def addingHashes : Hashes where
  sha256 bytes := Vector.replicate 32 (UInt8.ofNat (bytes.map UInt8.toNat).sum + 1)
  crc32 bytes := UInt32.ofNat (bytes.map UInt8.toNat).sum

/-- A first bundle: a manifest and one byte of payload, both of which an erased bank has. -/
def firstPlan : SoundBundlePlan where
  manifestBytes := 4096
  payloadBytes := 1
  manifestCrc32 := 1044480
  manifestSha256 := Vector.replicate 32 1
  bundleSha256 := Vector.replicate 32 1
  payloadBlockCrc32 := (Vector.replicate 128 0).set 0 255

theorem firstPlan_valid : planIsValid firstPlan = true := by decide +kernel

def firstHeader : List UInt8 :=
  stagingHeader addingHashes .a 1 (transactionId addingHashes firstPlan .a 1) firstPlan

theorem length_firstHeader : firstHeader.length = 704 := by
  rw [firstHeader, stagingHeader, length_putU32, length_stagingFields]

/-- A new device after the first update has begun. -/
def firstFlash : Flash := headed (reclaimed blankFlash .a) .a firstHeader

theorem selected_of_blank (h : ∀ bank snapshot, recordOf H s bank ≠ .ok snapshot) :
    selected H s = { bankA := { bank := .a }, bankB := { bank := .b } } := by
  rw [selected, found, found, committed_of_recordOf (h .a), committed_of_recordOf (h .b)]
  rfl

theorem blankFlash_records (H : Hashes) :
    ∀ bank snapshot, recordOf H blankFlash bank ≠ .ok snapshot := fun _ _ =>
  recordOf_erased fun _ _ _ => rfl

theorem firstUpdate_begins : ∃ calls st, Exec (storeFlash addingHashes)
      (((StoreOperation.beginOrResume firstPlan).method addingHashes).run.run {}) blankFlash calls
        (some (.ok (), st)) firstFlash ∧
    st.updateActive = true ∧ st.updateBank = .a := by
  have hselected := selected_of_blank (blankFlash_records addingHashes)
  obtain ⟨st, hplays, hactive, hbank⟩ :=
    @plays_beginOrResumeUpdate addingHashes .a blankFlash firstPlan 1 firstPlan_valid
    (fun bank => .inr (blankFlash_records addingHashes bank)) (by rw [hselected])
    (by rw [hselected]; rfl) (by decide +kernel)
  obtain ⟨calls, hexec⟩ :=
    (hplays.map (f := fun _ => ())).exec (D := storeFlash addingHashes) (serving_answers _)
  exact ⟨calls, st, hexec, hactive, hbank⟩

/-- The header apart, the device is as it was. -/
theorem firstFlash_above {bank : SoundBankId} {i : Nat} (hi : bank = .a → 704 ≤ i)
    (hlt : i < soundBankSize) : firstFlash bank i = 0xFF := by
  cases bank with
  | a =>
    rw [firstFlash, headed_above length_firstHeader (hi rfl)]
    exact bankErased_reclaimed _ _ i hlt
  | b =>
    rw [firstFlash, headed_other (by decide), reclaimed_other (by decide)]
    rfl

theorem firstFlash_records : ∀ bank snapshot, recordOf addingHashes firstFlash bank ≠ .ok snapshot :=
  fun _ _ =>
  recordOf_erased fun _ hi hlt => firstFlash_above (fun _ => le_trans (by decide) hi)
    (lt_of_lt_of_le hlt (by decide))

/-- The device after half of the header was erased. -/
def tornFlash : Flash := Function.update firstFlash .a (erased (firstFlash .a) soundStagingHeaderOffset 352)

theorem tornFlash_records : ∀ bank snapshot, recordOf addingHashes tornFlash bank ≠ .ok snapshot := by
  refine fun bank snapshot => recordOf_erased fun i hi hlt => ?_
  have hfirst : firstFlash bank i = 0xFF :=
    firstFlash_above (fun _ => le_trans (by decide) hi) (lt_of_lt_of_le hlt (by decide))
  cases bank with
  | a =>
    rw [tornFlash, Function.update_self, erased, if_neg]
    · exact hfirst
    · exact fun h => absurd (lt_of_le_of_lt hi h.2) (by decide)
  | b =>
    rw [tornFlash, Function.update_of_ne (by decide)]
    exact hfirst

theorem tornFlash_staged (bank : SoundBankId) : stagedOf addingHashes tornFlash bank = none := by
  refine stagedOf_erased ?_
  cases bank with
  | a => rw [tornFlash, Function.update_self, erased, if_pos (by decide)]
  | b =>
    rw [tornFlash, Function.update_of_ne (by decide)]
    exact firstFlash_above (fun h => by cases h) (by decide)

/-- The power goes while the header is erased, and half of it is left. -/
theorem firstUpdate_torn :
    (storeFlash addingHashes).stops firstFlash (.erase .a soundStagingHeaderOffset soundSectorSize)
    tornFlash := by
  refine ⟨⟨fun target htarget => Function.update_of_ne htarget ..,
    fun i hi => ?_, fun i hi hlt => ?_⟩, fun bank => ⟨?_, ?_, ?_⟩⟩
  · rw [tornFlash, Function.update_self, erased, if_neg]
    intro h
    rcases hi with hi | hi
    · omega
    · exact absurd (lt_of_le_of_lt hi h.2) (by decide)
  · rw [tornFlash, Function.update_self, erased]
    split
    · exact ⟨UInt8.and_neg_one, UInt8.and_self⟩
    · exact ⟨UInt8.and_self, UInt8.and_neg_one⟩
  · exact fun snapshot h => absurd h (tornFlash_records bank snapshot)
  · exact fun snapshot h => absurd (recordOf_of_committed h) (tornFlash_records bank snapshot)
  · intro staged h
    rw [tornFlash_staged] at h
    cases h

/-- The update that has begun is aborted, and the power goes. -/
theorem firstUpdate_aborts (hactive : st.updateActive = true) (hbank : st.updateBank = .a) :
    Halts (storeFlash addingHashes) (StoreOperation.abort.method addingHashes) st firstFlash tornFlash := by
  obtain ⟨e, hrecord⟩ : ∃ e, recordOf addingHashes firstFlash .a = .error e := by
    cases h : recordOf addingHashes firstFlash .a with
    | ok snapshot => exact absurd h (firstFlash_records .a snapshot)
    | error e => exact ⟨e, rfl⟩
  have hserve := serving_answers (TearEvident addingHashes)
  have hvalidate :
    Plays serving (Method.lift (validateSoundBank addingHashes .a)) st firstFlash
    (.error e) st firstFlash :=
    plays_find finding_validateSoundBank (eval_validateSoundBank_error hrecord)
  have hfault : ¬ (e = .unavailable ∨ e = .ioError) := fun h => by
    have hnonfatal := nonfatal_of_recordOf hrecord
    rcases h with rfl | rfl
    · cases hnonfatal
    · cases hnonfatal
  refine halts_get_bind (halts_if_pos hactive ?_)
  rw [hbank]
  exact (plays_attempt hvalidate).halts hserve
    ((plays_refuse e hfault).halts hserve (Halts.bind (halts_issue firstUpdate_torn)))

end Serving

end CodexKeyboard.Assets.SoundAssetStore
