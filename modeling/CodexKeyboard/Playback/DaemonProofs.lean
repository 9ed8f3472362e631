import CodexKeyboard.Playback.Daemon
import CodexKeyboard.Store.Resume
/-!
# Entries and leases

The rows of `summary_playback_leases` are the entries of `active` that are not heard, as long as
every Cancelled event that names the lease of an entry has its identity (`entries_match_leases`).
`handle_lan_playback_event` removes the entry before it compares the identity, so another one loses
the entry and keeps the row (`stale_cancel_leaks_lease`).
-/

namespace CodexKeyboard.Playback

open Lib Voice Store HostDaemon

variable {env : Crates} {db db' : StoreDb} {d : HostDaemon} {lease : PlaybackLease}

/-! ## The operations of the store on leases -/

theorem cancel_leases {b : Bool} (h : cancelSummaryPlayback env db lease = .ok (b, db')) :
    db'.leases = deleteWhere (fun l => decide (l = lease.row)) db.leases := by
  unfold cancelSummaryPlayback at h
  simp only [bind_eq_ok] at h
  obtain ⟨_, _, h⟩ := h
  split at h
  · simp only [bind_eq_ok, writeSummaries_eq_ok, pure_eq_ok, Except.ok.injEq, Prod.mk.injEq] at h
    obtain ⟨db₁, ⟨_, rfl⟩, _, rfl⟩ := h
    rfl
  · cases h
    rfl

theorem finish_leases (h : finishSummaryPlayback env db lease = .ok (true, db')) :
    db'.leases = deleteWhere (fun l => decide (l.leaseId = lease.lease)) db.leases := by
  unfold finishSummaryPlayback at h
  simp only [bind_eq_ok] at h
  obtain ⟨_, _, h⟩ := h
  split at h
  · cases h
  · simp only [bind_eq_ok, ensure_eq_ok, writeSummaries_eq_ok,
      pure_eq_ok, Except.ok.injEq, Prod.mk.injEq] at h
    obtain ⟨db₁, ⟨_, rfl⟩, _, _, _, rfl⟩ := h
    rfl

theorem finish_false (h : finishSummaryPlayback env db lease = .ok (false, db')) : db' = db := by
  unfold finishSummaryPlayback at h
  simp only [bind_eq_ok] at h
  obtain ⟨_, _, h⟩ := h
  split at h
  · cases h
    rfl
  · simp only [bind_eq_ok, ensure_eq_ok, writeSummaries_eq_ok,
      pure_eq_ok, Except.ok.injEq, Prod.mk.injEq] at h
    obtain ⟨_, _, _, _, h, _⟩ := h
    cases h

/-- Without leases, a lease that is granted is new. -/
theorem acquire_leases {slot request connection leaseId : Nat} {out : Option PlaybackLease}
    (hnone : db.leases = [])
    (h : acquireSummaryPlayback db slot request connection leaseId = .ok (out, db')) :
    out = none ∧ db' = db ∨ ∃ lease, out = some lease ∧ db'.leases = [lease.row] := by
  unfold acquireSummaryPlayback at h
  simp only [bind_eq_ok] at h
  obtain ⟨_, _, _, _, h⟩ := h
  split at h
  · cases h
    exact Or.inl ⟨rfl, rfl⟩
  · split at h
    · cases h
      exact Or.inl ⟨rfl, rfl⟩
    · split at h
      · cases h
      · split at h
        · rename_i hfound
          rw [hnone] at hfound
          cases hfound
        · simp only [bind_eq_ok, ensure_eq_ok, writeSummaries_eq_ok,
            pure_eq_ok, Except.ok.injEq, Prod.mk.injEq] at h
          obtain ⟨_, _, db₁, ⟨_, rfl⟩, _, _, db₂, hins, rfl, rfl⟩ := h
          refine Or.inr ⟨_, rfl, ?_⟩
          unfold StoreDb.insertLease at hins
          split at hins
          · cases hins
            simp [hnone]
          · cases hins

/-- Only the operations of playback touch the leases. -/
theorem storeStep_leases (h : StoreInv db) {op : StoreOp} (hop : isPlaybackOp op = false) :
    (storeStep env db op).2.leases = db.leases := by
  have hone : ∀ {a b : StoreDb}, Effect op a b → b.leases = a.leases := by
    intro a b he
    cases he with
    | keep _ _ hl => exact hl
    | observe c _ hl => exact hl
    | claim r _ hl => exact hl
    | mark m p _ hl => exact hl
    | publish _ _ _ _ _ hl => exact hl
    | lease l hkind =>
      rw [hkind] at hop
      cases hop
    | cancel l _ _ _ _ _ hkind =>
      obtain ⟨_, rfl, _⟩ := hkind
      cases hop
    | hear lease hkind =>
      rw [hkind] at hop
      cases hop
    | recoverLeases _ _ _ _ hkind =>
      rw [hkind] at hop
      cases hop
  obtain ⟨mid, h1, h2⟩ := storeStep_effects env op h
  rw [hone h2, hone h1]

/-! ## What a step calls on the store -/

/-- One store comes from the other by calls that hear nothing. -/
def CallsWithoutFinish (env : Crates) (db db' : StoreDb) : Prop :=
  ∃ ops : List StoreOp, (∀ op ∈ ops, ∀ lease, op ≠ .finishSummaryPlayback lease) ∧
  db' = after (storeStep env) db ops

theorem CallsWithoutFinish.refl (env : Crates) (db : StoreDb) : CallsWithoutFinish env db db :=
  ⟨[], by simp, rfl⟩

theorem CallsWithoutFinish.trans {db'' : StoreDb} (h : CallsWithoutFinish env db db')
    (h' : CallsWithoutFinish env db' db'') :
    CallsWithoutFinish env db db'' := by
  obtain ⟨ops, hops, rfl⟩ := h
  obtain ⟨ops', hops', rfl⟩ := h'
  refine ⟨ops ++ ops', fun op hop => ?_, (after_append _ _ _).symm⟩
  rcases List.mem_append.1 hop with hop | hop
  · exact hops op hop
  · exact hops' op hop

theorem CallsWithoutFinish.one (op : StoreOp) (hop : ∀ lease, op ≠ .finishSummaryPlayback lease) :
    CallsWithoutFinish env db (storeStep env db op).2 := by
  refine ⟨[op], fun op' hop' => ?_, rfl⟩
  rw [List.mem_singleton.1 hop']
  exact hop

theorem CallsWithoutFinish.inv (h : CallsWithoutFinish env db db') (hi : StoreInv db) : StoreInv db' := by
  obtain ⟨ops, _, rfl⟩ := h
  exact after_induction (inv_storeStep env) ops hi

/-- What is heard afterwards was heard before. -/
theorem CallsWithoutFinish.heard (h : CallsWithoutFinish env db db') (hi : StoreInv db) {r : SummaryRow}
    (hr : r ∈ db'.summaries) (hheard : r.state = .heard) : r ∈ db.summaries := by
  obtain ⟨ops, hops, rfl⟩ := h
  induction ops generalizing db with
  | nil => exact hr
  | cons op ops ih =>
    have hlater :=
      ih (inv_storeStep env db op hi) (fun op' hop' => hops op' (List.mem_cons_of_mem _ hop')) hr
    rcases heard_of_finish env hi hlater hheard with hold | ⟨lease, heq, _⟩
    · exact hold
    · exact absurd heq (hops op (List.mem_cons_self ..) lease)

section
variable (env)

theorem sendCommand_frame (d : HostDaemon) (connected : Bool) (command : LanPlaybackCommand) :
    ∃ commands, (d.sendCommand connected command).2 = { d with commands := commands } := by
  unfold sendCommand
  split
  · exact ⟨_, rfl⟩
  · exact ⟨d.commands, rfl⟩

theorem cancelLease_calls (d : HostDaemon) (lease : PlaybackLease) :
    CallsWithoutFinish env d.store (d.cancelLease env lease).2.store :=
  CallsWithoutFinish.one (.cancelSummaryPlayback lease) fun _ h => by cases h

theorem supersede_calls (connected : Bool) : ∀ (entries : List (Nat × ActiveHostPlayback)) (d : HostDaemon),
    CallsWithoutFinish env d.store (HostDaemon.supersede env connected entries d).2.store
  | [], d => CallsWithoutFinish.refl env d.store
  | (leaseId, playback) :: rest, d => by
    obtain ⟨commands, hframe⟩ := sendCommand_frame d connected (.cancel playback.identity)
    unfold HostDaemon.supersede
    rw [hframe]
    dsimp only
    split
    · exact supersede_calls connected rest
        { d with commands := commands, active := removeKey leaseId d.active }
    · have hcancel := cancelLease_calls env { d with commands := commands } playback.lease
      split
      · exact hcancel
      · exact hcancel.trans (supersede_calls connected rest _)

theorem acquireLease_calls (request : PlaybackRequest) : ∀ (draws : List Nat) (d : HostDaemon),
    CallsWithoutFinish env d.store (acquireLease request draws d).2.store
  | [], d => CallsWithoutFinish.refl env d.store
  | leaseId :: draws, d => by
    have hone : CallsWithoutFinish env d.store (transact (acquireSummaryPlayback d.store request.slot
        request.requestGeneration request.connectionGeneration leaseId) d.store).2 :=
      CallsWithoutFinish.one (.acquireSummaryPlayback _ _ _ _) fun _ h => by cases h
    unfold acquireLease
    split
    · exact acquireLease_calls request draws d
    · dsimp only
      split
      · exact hone
      · exact hone
      · exact acquireLease_calls request draws d
      · exact CallsWithoutFinish.refl env d.store

theorem startPlayback_calls (d : HostDaemon) (lease : PlaybackLease) (request : PlaybackRequest)
    (source : SocketAddr)
    (connected : Bool) (loaded : Option LoadedSummary) :
    CallsWithoutFinish env d.store (d.startPlayback env lease request source connected loaded).store := by
  unfold startPlayback
  split
  · exact cancelLease_calls env d lease
  · rename_i loaded _
    obtain ⟨commands, hframe⟩ :=
      sendCommand_frame d connected (.start (startCommand lease request source loaded))
    dsimp only
    rw [hframe]
    split
    · exact cancelLease_calls env { d with commands := commands } lease
    · exact CallsWithoutFinish.refl env d.store

theorem handleCancelled_calls (d : HostDaemon) (identity : PlaybackIdentity) :
    CallsWithoutFinish env d.store (d.handleCancelled env identity).store := by
  unfold handleCancelled
  split
  · exact CallsWithoutFinish.refl env d.store
  · rename_i playback _
    dsimp only
    split
    · exact CallsWithoutFinish.refl env d.store
    · exact cancelLease_calls env { d with active := removeKey identity.lease d.active } playback.lease

theorem beginLanPlayback_calls (d : HostDaemon) (request : PlaybackRequest) (source : SocketAddr)
    (connected : Bool)
    (draws : List Nat) (loaded : Option LoadedSummary) :
    CallsWithoutFinish env d.store
      (d.beginLanPlayback env request source connected draws loaded).store := by
  have hsuperseded := supersede_calls env connected d.active d
  have hacquired := acquireLease_calls env request (draws.take 4)
    (HostDaemon.supersede env connected d.active d).2
  unfold beginLanPlayback
  split
  · exact CallsWithoutFinish.refl env d.store
  · dsimp only
    split
    · exact hsuperseded
    · split
      · exact (hsuperseded.trans hacquired).trans (startPlayback_calls env _ _ _ _ _ _)
      · exact hsuperseded.trans hacquired
      · exact hsuperseded.trans hacquired

/-! ## One entry, one lease -/

/-- No playback and no lease, or one playback, with its lease while it is not heard. -/
def InStep (active : List (Nat × ActiveHostPlayback)) (leases : List LeaseRow) : Prop :=
  active = [] ∧ leases = [] ∨
    ∃ p : ActiveHostPlayback, active = [(p.lease.lease, p)] ∧ p.identity = identityOf p.lease ∧
      leases = if p.heardCommitted then [] else [p.lease.row]

structure DaemonInv (d : HostDaemon) : Prop where
  store : StoreInv d.store
  inStep : InStep d.active d.store.leases

theorem deleteWhere_row (lease : PlaybackLease) :
    deleteWhere (fun l => decide (l = lease.row)) [lease.row] = [] := by
  simp [deleteWhere]

theorem removeKey_single {α : Type} (key : Nat) (value : α) : removeKey key [(key, value)] = [] := by
  simp [removeKey]

/-- A call that succeeds has taken the lease back; one that fails has changed nothing. -/
theorem cancelLease_cases (d : HostDaemon) (lease : PlaybackLease) :
    ((d.cancelLease env lease).1 = true ∧ (d.cancelLease env lease).2.failures = d.failures ∧
      (d.cancelLease env lease).2.active = d.active ∧
      (d.cancelLease env lease).2.store.leases =
        deleteWhere (fun l => decide (l = lease.row)) d.store.leases) ∨
    ((d.cancelLease env lease).1 = false ∧
      (d.cancelLease env lease).2 = { d with failures := d.failures + 1 }) := by
  unfold cancelLease
  cases hcall : cancelSummaryPlayback env d.store lease with
  | ok out =>
    obtain ⟨b, db'⟩ := out
    exact Or.inl ⟨rfl, rfl, rfl, cancel_leases hcall⟩
  | error e => exact Or.inr ⟨rfl, rfl⟩

/-- What the superseding loop leaves: nothing, or what was there. -/
theorem supersede_inStep (hi : InStep d.active d.store.leases) (connected : Bool) :
    InStep (HostDaemon.supersede env connected d.active d).2.active
      (HostDaemon.supersede env connected d.active d).2.store.leases ∧
    ((HostDaemon.supersede env connected d.active d).1 = true →
      (HostDaemon.supersede env connected d.active d).2.active = [] ∧
      (HostDaemon.supersede env connected d.active d).2.store.leases = []) ∧
    d.failures ≤ (HostDaemon.supersede env connected d.active d).2.failures := by
  have hi' := hi
  rcases hi with ⟨hactive, hleases⟩ | ⟨p, hactive, hid, hleases⟩
  · rw [hactive]
    exact ⟨hi', fun _ => ⟨hactive, hleases⟩, Nat.le_refl _⟩
  · rw [hactive]
    obtain ⟨commands, hframe⟩ := sendCommand_frame d connected (.cancel p.identity)
    have hcancel := cancelLease_cases env { d with commands := commands } p.lease
    simp only [HostDaemon.supersede, hframe]
    by_cases hheard : p.heardCommitted = true
    · rw [if_pos hheard] at hleases ⊢
      have hnone : removeKey p.lease.lease d.active = [] := by rw [hactive, removeKey_single]
      exact ⟨Or.inl ⟨hnone, hleases⟩, fun _ => ⟨hnone, hleases⟩, Nat.le_refl _⟩
    · rw [if_neg hheard] at hleases ⊢
      generalize HostDaemon.cancelLease env { d with commands := commands } p.lease = cancelled at hcancel ⊢
      rcases hcancel with ⟨hok, hfailures, hkept, hdeleted⟩ | ⟨hfail, hrest⟩
      · rw [if_neg (by simp [hok])]
        have hnone : removeKey p.lease.lease cancelled.2.active = [] := by
          rw [hkept]
          exact (congrArg _ hactive).trans (removeKey_single _ _)
        have hempty : cancelled.2.store.leases = [] := by
          rw [hdeleted]
          exact (congrArg _ hleases).trans (deleteWhere_row p.lease)
        exact ⟨Or.inl ⟨hnone, hempty⟩, fun _ => ⟨hnone, hempty⟩, Nat.le_of_eq hfailures.symm⟩
      · rw [if_pos (by simp [hfail]), hrest]
        exact ⟨hi', (fun h => by cases h), Nat.le_succ _⟩

/-- A lease comes out of the loop, or nothing has changed but the failures. -/
theorem acquireLease_cases (request : PlaybackRequest) :
    ∀ (draws : List Nat) (d : HostDaemon), d.store.leases = [] →
    ((acquireLease request draws d).2.active = d.active ∧
      d.failures ≤ (acquireLease request draws d).2.failures) ∧
    ((∃ lease, (acquireLease request draws d).1 = .granted lease ∧
        (acquireLease request draws d).2.store.leases = [lease.row]) ∨
      (∀ lease, (acquireLease request draws d).1 ≠ .granted lease) ∧
        (acquireLease request draws d).2.store.leases = [])
  | [], d, hnone => ⟨⟨rfl, Nat.le_refl _⟩, Or.inr ⟨(fun _ h => by cases h), hnone⟩⟩
  | leaseId :: draws, d, hnone => by
    have ih := acquireLease_cases request draws d hnone
    unfold acquireLease
    split
    · exact ih
    · cases hcall :
        acquireSummaryPlayback d.store request.slot request.requestGeneration request.connectionGeneration
          leaseId with
      | ok out =>
        obtain ⟨out, db'⟩ := out
        rcases acquire_leases hnone hcall with ⟨rfl, rfl⟩ | ⟨lease, rfl, hrow⟩
        · exact ⟨⟨rfl, Nat.le_refl _⟩, Or.inr ⟨(fun _ h => by cases h), hnone⟩⟩
        · exact ⟨⟨rfl, Nat.le_refl _⟩, Or.inl ⟨lease, rfl, hrow⟩⟩
      | error e =>
        simp only [transact_error]
        split
        · rename_i h
          cases h
        · rename_i h
          cases h
        · exact ih
        · exact ⟨⟨rfl, Nat.le_succ _⟩, Or.inr ⟨(fun _ h => by cases h), hnone⟩⟩

theorem cancelLease_failures (d : HostDaemon) (lease : PlaybackLease) :
    d.failures ≤ (d.cancelLease env lease).2.failures := by
  rcases cancelLease_cases env d lease with ⟨_, hsame, _⟩ | ⟨_, hfail⟩
  · exact Nat.le_of_eq hsame.symm
  · rw [hfail]
    exact Nat.le_succ _

theorem startPlayback_failures (d : HostDaemon) (lease : PlaybackLease) (request : PlaybackRequest)
    (source : SocketAddr)
    (connected : Bool) (loaded : Option LoadedSummary) :
    d.failures ≤ (d.startPlayback env lease request source connected loaded).failures := by
  unfold startPlayback
  split
  · exact cancelLease_failures env d lease
  · rename_i loaded _
    obtain ⟨commands, hframe⟩ :=
      sendCommand_frame d connected (.start (startCommand lease request source loaded))
    dsimp only
    rw [hframe]
    split
    · exact cancelLease_failures env { d with commands := commands } lease
    · exact Nat.le_refl _

theorem startPlayback_inStep (hactive : d.active = []) (hleases : d.store.leases = [lease.row])
    (request : PlaybackRequest) (source : SocketAddr) (connected : Bool) (loaded : Option LoadedSummary)
    (hok : (d.startPlayback env lease request source connected loaded).failures = d.failures) :
    InStep (d.startPlayback env lease request source connected loaded).active
      (d.startPlayback env lease request source connected loaded).store.leases := by
  have hcancel : ∀ d' : HostDaemon, d'.active = [] → d'.store.leases = [lease.row] →
      (d'.cancelLease env lease).2.failures = d'.failures →
      InStep (d'.cancelLease env lease).2.active (d'.cancelLease env lease).2.store.leases := by
    intro d' hactive' hleases' hok'
    rcases cancelLease_cases env d' lease with ⟨_, _, hkept, hdeleted⟩ | ⟨_, hfail⟩
    · exact Or.inl ⟨hkept.trans hactive', by rw [hdeleted, hleases', deleteWhere_row]⟩
    · rw [hfail] at hok'
      exact absurd hok' (by simp)
  unfold startPlayback at hok ⊢
  split at hok
  · exact hcancel d hactive hleases hok
  · rename_i loaded _
    obtain ⟨commands, hframe⟩ :=
      sendCommand_frame d connected (.start (startCommand lease request source loaded))
    dsimp only at hok ⊢
    rw [hframe] at hok ⊢
    split at hok
    · rename_i hsent
      rw [if_pos hsent]
      exact hcancel { d with commands := commands } hactive hleases hok
    · rename_i hsent
      rw [if_neg hsent]
      refine Or.inr ⟨{ lease, identity := identityOf lease, totalSamples := loaded.totalSamples,
                       heardCommitted := false },
        ?_, rfl, hleases⟩
      simp only [insertKey, hactive, List.filter_nil, List.nil_append]

/-- What a Cancelled event has to say: the identity of the entry it names, if it names one. -/
def CancelFits (d : HostDaemon) : DaemonEvent → Prop
  | .cancelled identity => ∀ e ∈ d.active, e.1 = identity.lease → e.2.identity = identity
  | _ => True

instance (d : HostDaemon) : ∀ event, Decidable (CancelFits d event)
  | .request .. => isTrue trivial
  | .finished .. => isTrue trivial
  | .cancelled _ => inferInstanceAs (Decidable (∀ e ∈ d.active, _))
  | .other _ => isTrue trivial

/-- No store call fails in a step, and a Cancelled event fits. -/
def StepFits (env : Crates) (d : HostDaemon) (event : DaemonEvent) : Prop :=
  (d.handlePlaybackEvent env event).failures = d.failures ∧ CancelFits d event

instance (env : Crates) (d : HostDaemon) (event : DaemonEvent) : Decidable (StepFits env d event) :=
  inferInstanceAs (Decidable (_ ∧ _))

theorem beginLanPlayback_inStep (hi : InStep d.active d.store.leases) (request : PlaybackRequest)
    (source : SocketAddr)
    (connected : Bool) (draws : List Nat) (loaded : Option LoadedSummary)
    (hok : (d.beginLanPlayback env request source connected draws loaded).failures = d.failures) :
    InStep (d.beginLanPlayback env request source connected draws loaded).active
      (d.beginLanPlayback env request source connected draws loaded).store.leases := by
  obtain ⟨hsuperseded, hempty, hle⟩ := supersede_inStep env hi connected
  unfold beginLanPlayback at hok ⊢
  by_cases hanswers : (d.active.any fun e => e.2.answers request) = true
  · rw [if_pos hanswers]
    exact hi
  · rw [if_neg hanswers] at hok ⊢
    generalize HostDaemon.supersede env connected d.active d = superseded at hok hsuperseded hempty hle ⊢
    dsimp only at hok ⊢
    by_cases hdone : superseded.1 = true
    · rw [if_neg (by simp [hdone])] at hok ⊢
      obtain ⟨hactive, hleases⟩ := hempty hdone
      obtain ⟨⟨hkept, hle'⟩, hcases⟩ := acquireLease_cases request (draws.take 4) superseded.2 hleases
      generalize acquireLease request (draws.take 4) superseded.2 = acquired at hok hkept hle' hcases ⊢
      obtain ⟨outcome, d'⟩ := acquired
      cases outcome with
      | granted lease =>
        rcases hcases with ⟨lease', heq, hrow⟩ | ⟨hnot, _⟩
        · cases heq
          have hmono := startPlayback_failures env d' lease request source connected loaded
          have hle' : superseded.2.failures ≤ d'.failures := hle'
          have hok' :
            (d'.startPlayback env lease request source connected loaded).failures = d'.failures := by
            dsimp only at hok
            omega
          exact startPlayback_inStep env (hkept.trans hactive) hrow request source connected loaded hok'
        · exact absurd rfl (hnot lease)
      | noUnread =>
        rcases hcases with ⟨_, heq, _⟩ | ⟨_, hnone⟩
        · cases heq
        · exact Or.inl ⟨hkept.trans hactive, hnone⟩
      | failed =>
        rcases hcases with ⟨_, heq, _⟩ | ⟨_, hnone⟩
        · cases heq
        · exact Or.inl ⟨hkept.trans hactive, hnone⟩
    · rw [if_pos (by simpa using hdone)]
      exact hsuperseded

theorem insertKey_single {α : Type} (key : Nat) (value value' : α) :
    insertKey key value [(key, value')] = [(key, value)] := by
  simp [insertKey]

/-- The entry that is heard has no lease any more. -/
theorem handleFinished_inStep (hi : InStep d.active d.store.leases) (finished : PlaybackFinished)
    (cleaned connected : Bool) :
    InStep (d.handleFinished env finished cleaned connected).active
      (d.handleFinished env finished cleaned connected).store.leases := by
  have hack : ∀ (d' : HostDaemon) (p : ActiveHostPlayback), d'.active = [(p.lease.lease, p)] →
      p.identity = identityOf p.lease → p.heardCommitted = true → d'.store.leases = [] →
      finished.identity.lease = p.lease.lease →
      InStep (d'.acknowledgeFinished finished.identity cleaned connected).active
        (d'.acknowledgeFinished finished.identity cleaned connected).store.leases := by
    intro d' p hactive hid hheard hleases hkey
    have hkept :
      InStep d'.active d'.store.leases := Or.inr ⟨p, hactive, hid, by rw [hleases, if_pos hheard]⟩
    obtain ⟨commands, hframe⟩ := sendCommand_frame d' connected (.finishAck finished.identity)
    unfold acknowledgeFinished
    split
    · exact hkept
    · dsimp only
      rw [hframe]
      split
      · exact Or.inl ⟨by rw [hactive, hkey, removeKey_single], hleases⟩
      · exact hkept
  have hi' := hi
  rcases hi with ⟨hactive, hleases⟩ | ⟨p, hactive, hid, hleases⟩
  · simp only [handleFinished, hactive, List.lookup_nil]
    rw [← hactive]
    exact hi'
  · by_cases hkey : finished.identity.lease = p.lease.lease
    · have hlookup : d.active.lookup finished.identity.lease = some p := by
        rw [hactive, hkey, List.lookup_cons_self]
      simp only [handleFinished, hlookup]
      split
      · exact hi'
      · by_cases hheard : p.heardCommitted = true
        · simp only [commitHeard, if_pos hheard, Bool.not_true, Bool.false_eq_true, if_false]
          rw [if_pos hheard] at hleases
          exact hack d p hactive hid hheard hleases hkey
        · rw [if_neg hheard] at hleases
          simp only [commitHeard, if_neg hheard]
          cases hcall : finishSummaryPlayback env d.store p.lease with
          | ok out =>
            obtain ⟨b, db'⟩ := out
            cases b with
            | true =>
              refine hack _ { p with heardCommitted := true } ?_ hid rfl ?_ hkey
              · simp only [transact_ok, hactive, hkey, insertKey_single]
              · simp only [transact_ok]
                rw [finish_leases hcall, hleases]
                simp [deleteWhere, PlaybackLease.row]
            | false =>
              simp only [transact_ok, Bool.not_false, if_true]
              rw [finish_false hcall]
              exact hi'
          | error e => exact hi'
    · have hlookup : d.active.lookup finished.identity.lease = none := by
        rw [hactive, List.lookup_cons, List.lookup_nil, beq_false_of_ne hkey]
      simp only [handleFinished, hlookup]
      exact hi'

theorem handleCancelled_inStep (hi : InStep d.active d.store.leases) {identity : PlaybackIdentity}
    (hfits : CancelFits d (.cancelled identity))
    (hok : (d.handleCancelled env identity).failures = d.failures) :
    InStep (d.handleCancelled env identity).active (d.handleCancelled env identity).store.leases := by
  have hi' := hi
  rcases hi with ⟨hactive, hleases⟩ | ⟨p, hactive, hid, hleases⟩
  · simp only [handleCancelled, hactive, List.lookup_nil]
    rw [← hactive]
    exact hi'
  · by_cases hkey : identity.lease = p.lease.lease
    · have hlookup : d.active.lookup identity.lease = some p := by
        rw [hactive, hkey, List.lookup_cons_self]
      have hsame : p.identity = identity :=
        hfits (p.lease.lease, p) (by rw [hactive]; exact List.mem_cons_self ..) hkey.symm
      have hnone : removeKey identity.lease d.active = [] := by rw [hactive, hkey, removeKey_single]
      simp only [handleCancelled, hlookup, hsame, hnone] at hok ⊢
      by_cases hheard : p.heardCommitted = true
      · rw [if_pos hheard] at hleases
        rw [if_pos (Or.inr hheard)]
        exact Or.inl ⟨rfl, hleases⟩
      · rw [if_neg hheard] at hleases
        rw [if_neg (by simp [hheard])] at hok ⊢
        rcases cancelLease_cases env { d with active := [] } p.lease with ⟨_, _, hkept, hdeleted⟩
          | ⟨_, hfail⟩
        · refine Or.inl ⟨hkept, ?_⟩
          rw [hdeleted]
          exact (congrArg _ hleases).trans (deleteWhere_row p.lease)
        · rw [hfail] at hok
          exact absurd hok (Nat.succ_ne_self _)
    · have hlookup : d.active.lookup identity.lease = none := by
        rw [hactive, List.lookup_cons, List.lookup_nil, beq_false_of_ne hkey]
      simp only [handleCancelled, hlookup]
      exact hi'

/-- The store after a Finished event: as it was, or with the summary of the entry heard. -/
theorem handleFinished_store (d : HostDaemon) (finished : PlaybackFinished) (cleaned connected : Bool) :
    (d.handleFinished env finished cleaned connected).store = d.store ∨
      ∃ e ∈ d.active, e.2.identity = finished.identity ∧ e.2.totalSamples = finished.playedSamples ∧
        (d.handleFinished env finished cleaned connected).store =
          (storeStep env d.store (.finishSummaryPlayback e.2.lease)).2 := by
  have hack :
    ∀ d' : HostDaemon, (d'.acknowledgeFinished finished.identity cleaned connected).store = d'.store := by
    intro d'
    obtain ⟨commands, hframe⟩ := sendCommand_frame d' connected (.finishAck finished.identity)
    unfold acknowledgeFinished
    split
    · rfl
    · dsimp only
      rw [hframe]
      split <;> rfl
  cases hlookup : d.active.lookup finished.identity.lease with
  | none =>
    have hsame : d.handleFinished env finished cleaned connected = d := by
      simp only [handleFinished, hlookup]
    exact Or.inl (by rw [hsame])
  | some playback =>
    have hmem : (finished.identity.lease, playback) ∈ d.active := by
      obtain ⟨before, rest, heq, _⟩ := List.lookup_eq_some_iff.1 hlookup
      rw [heq]
      exact List.mem_append_right _ (List.mem_cons_self ..)
    simp only [handleFinished, hlookup]
    split
    · exact Or.inl rfl
    · rename_i hsame
      simp only [not_or, not_not] at hsame
      by_cases hheard : playback.heardCommitted = true
      · simp only [commitHeard, if_pos hheard, Bool.not_true, Bool.false_eq_true, if_false]
        exact Or.inl (hack d)
      · refine Or.inr ⟨_, hmem, hsame.1, hsame.2, ?_⟩
        simp only [commitHeard, if_neg hheard, storeStep, Prod.map]
        cases hcall : finishSummaryPlayback env d.store playback.lease with
        | ok out =>
          obtain ⟨b, db'⟩ := out
          cases b with
          | true => exact hack _
          | false => rfl
        | error e => rfl

theorem daemonStep_inv (hi : DaemonInv d) {event : DaemonEvent} (hfits : StepFits env d event) :
    DaemonInv (d.handlePlaybackEvent env event) := by
  obtain ⟨hok, hcancel⟩ := hfits
  cases event with
  | request request source connected draws loaded =>
    exact ⟨(beginLanPlayback_calls env d request source connected draws loaded).inv hi.store,
      beginLanPlayback_inStep env hi.inStep request source connected draws loaded hok⟩
  | finished finished cleaned connected =>
    refine ⟨?_, handleFinished_inStep env hi.inStep finished cleaned connected⟩
    rcases handleFinished_store env d finished cleaned connected with hsame | ⟨e, _, _, _, hcall⟩
    · exact hsame ▸ hi.store
    · exact hcall ▸ inv_storeStep env d.store _ hi.store
  | cancelled identity =>
    refine ⟨?_, handleCancelled_inStep env hi.inStep hcancel hok⟩
    exact (handleCancelled_calls env d identity).inv hi.store
  | other op =>
    simp only [handlePlaybackEvent]
    split
    · exact hi
    · rename_i hop
      refine ⟨inv_storeStep env d.store op hi.store, ?_⟩
      rw [show ({ d with store := (storeStep env d.store op).2 } : HostDaemon).store.leases =
        d.store.leases from
        storeStep_leases hi.store (by simpa using hop)]
      exact hi.inStep

/-- A summary that a step makes heard is that of the entry a Finished event names. -/
theorem heard_of_finished (hi : StoreInv d.store) {event : DaemonEvent} {r : SummaryRow}
    (hr : r ∈ (d.handlePlaybackEvent env event).store.summaries) (hheard : r.state = .heard) :
    r ∈ d.store.summaries ∨ ∃ finished cleaned connected, event = .finished finished cleaned connected ∧
      ∃ e ∈ d.active, e.2.identity = finished.identity ∧ e.2.totalSamples = finished.playedSamples ∧
        e.2.lease.taskId = r.taskId ∧ e.2.lease.summaryGeneration = r.generation := by
  cases event with
  | request request source connected draws loaded =>
    exact Or.inl ((beginLanPlayback_calls env d request source connected draws loaded).heard hi hr hheard)
  | finished finished cleaned connected =>
    rcases handleFinished_store env d finished cleaned connected with hsame | ⟨e, he, hid, hsamples, hcall⟩
    · exact Or.inl (hsame ▸ hr)
    · have hr : r ∈ (d.handleFinished env finished cleaned connected).store.summaries := hr
      rw [hcall] at hr
      rcases heard_of_finish env hi hr hheard with hold | ⟨lease, heq, _, htask, hgen⟩
      · exact Or.inl hold
      · cases heq
        exact Or.inr ⟨finished, cleaned, connected, rfl, e, he, hid, hsamples, htask, hgen⟩
  | cancelled identity => exact Or.inl ((handleCancelled_calls env d identity).heard hi hr hheard)
  | other op =>
    simp only [handlePlaybackEvent] at hr
    split at hr
    · exact Or.inl hr
    · rename_i hop
      refine Or.inl ((CallsWithoutFinish.one op fun lease heq => ?_).heard hi hr hheard)
      rw [heq] at hop
      exact hop rfl

/-- A Finished event for a heard entry is only acknowledged. -/
theorem handleFinished_heard {e : Nat × ActiveHostPlayback} (hlookup : d.active.lookup e.1 = some e.2)
    (hheard : e.2.heardCommitted = true) {finished : PlaybackFinished}
    (hkey : finished.identity.lease = e.1)
    (hid : e.2.identity = finished.identity) (hsamples : e.2.totalSamples = finished.playedSamples)
    (cleaned connected : Bool) :
    (d.handleFinished env finished cleaned connected).store = d.store ∧
      (cleaned = true → connected = true →
        (d.handleFinished env finished cleaned connected).commands =
          d.commands ++ [.finishAck finished.identity]) := by
  have hack : d.handleFinished env finished cleaned connected =
      d.acknowledgeFinished finished.identity cleaned connected := by
    simp only [handleFinished, hkey, hlookup]
    rw [if_neg (by simp [hid, hsamples])]
    simp only [commitHeard, if_pos hheard, Bool.not_true, Bool.false_eq_true, if_false]
  rw [hack]
  constructor
  · obtain ⟨commands, hframe⟩ := sendCommand_frame d connected (.finishAck finished.identity)
    unfold acknowledgeFinished
    split
    · rfl
    · dsimp only
      rw [hframe]
      split <;> rfl
  · rintro rfl rfl
    rfl

end

/-! ## Runs -/

/-- The rows of the lease table are the entries that are not heard, at most one. -/
structure EntriesMatch (d : HostDaemon) : Prop where
  single : d.active.length ≤ 1
  entries : ∀ e ∈ d.active, e.1 = e.2.lease.lease ∧ e.2.identity = identityOf e.2.lease
  rows : ∀ row, row ∈ d.store.leases ↔ ∃ e ∈ d.active, e.2.heardCommitted = false ∧ row = e.2.lease.row

theorem InStep.entriesMatch (h : InStep d.active d.store.leases) : EntriesMatch d := by
  rcases h with ⟨hactive, hleases⟩ | ⟨p, hactive, hid, hleases⟩
  · refine ⟨by simp [hactive], by simp [hactive], fun row => ?_⟩
    simp [hactive, hleases]
  · refine ⟨by simp [hactive], fun e he => ?_, fun row => ?_⟩
    · rw [hactive, List.mem_singleton] at he
      rw [he]
      exact ⟨rfl, hid⟩
    · rw [hactive, hleases]
      by_cases hheard : p.heardCommitted = true
      · simp [hheard]
      · simp [hheard]

theorem daemonInv_run (ops : List StoreOp) {n : Nat}
    (hopen : answer (storeStep env) .empty ops (.restart .complete) = .restart (.ok n))
    (events : List DaemonEvent)
    (hfits : Throughout (daemonStep env) (StepFits env) (daemonStart env ops) events) :
    DaemonInv (daemonAfter env ops events) := by
  refine throughout_induction (I := DaemonInv)
    (fun d event hi hok => daemonStep_inv env hi hok) events ?_ hfits
  refine ⟨inv_storeAfter env _, Or.inl ⟨rfl, ?_⟩⟩
  have hstore :
    storeAfter env (ops ++ [.restart .complete]) =
    (storeStep env (storeAfter env ops) (.restart .complete)).2 :=
    after_concat _ _ _
  show (storeAfter env (ops ++ [.restart .complete])).leases = []
  rw [hstore]
  exact restart_ok env hopen

/-- In every run in which no store call fails and every Cancelled event fits, the leases are the
entries that are not heard; a summary is heard by a Finished event for its entry only; and a
Finished event for a heard entry leaves the store alone and is acknowledged once the cache is
cleaned up. -/
theorem entries_match_leases (env : Crates) (ops : List StoreOp) {n : Nat}
    (hopen : answer (storeStep env) .empty ops (.restart .complete) = .restart (.ok n))
    (events : List DaemonEvent)
    (hfits : Throughout (daemonStep env) (StepFits env) (daemonStart env ops) events) :
    EntriesMatch (daemonAfter env ops events) ∧
    (∀ event, ∀ r ∈ (daemonAfter env ops (events ++ [event])).store.summaries, r.state = .heard →
      r ∈ (daemonAfter env ops events).store.summaries ∨
      ∃ finished cleaned connected, event = .finished finished cleaned connected ∧
        ∃ e ∈ (daemonAfter env ops events).active, e.2.identity = finished.identity ∧
          e.2.totalSamples = finished.playedSamples ∧ e.2.lease.taskId = r.taskId ∧
          e.2.lease.summaryGeneration = r.generation) ∧
    (∀ finished cleaned connected, ∀ e ∈ (daemonAfter env ops events).active, e.2.heardCommitted = true →
      e.2.identity = finished.identity → e.2.totalSamples = finished.playedSamples →
      (daemonAfter env ops (events ++ [.finished finished cleaned connected])).store =
        (daemonAfter env ops events).store ∧
      (cleaned = true → connected = true →
        (daemonAfter env ops (events ++ [.finished finished cleaned connected])).commands =
          (daemonAfter env ops events).commands ++ [.finishAck finished.identity])) := by
  have hi := daemonInv_run ops hopen events hfits
  have hstep : ∀ event, daemonAfter env ops (events ++ [event]) =
      (daemonAfter env ops events).handlePlaybackEvent env event := fun event => after_concat _ _ _
  refine ⟨hi.inStep.entriesMatch, fun event r hr hheard => ?_,
    fun finished cleaned connected e he hheard hid hsamples => ?_⟩
  · rw [hstep] at hr
    exact heard_of_finished env hi.store hr hheard
  · rw [hstep]
    rcases hi.inStep with ⟨hactive, _⟩ | ⟨p, hactive, hpid, _⟩
    · rw [hactive] at he
      cases he
    · rw [hactive, List.mem_singleton] at he
      subst he
      refine handleFinished_heard env (e := (p.lease.lease, p)) ?_ hheard ?_ hid hsamples cleaned connected
      · rw [hactive, List.lookup_cons_self]
      · rw [← hid, hpid]
        rfl

/-- The keyboard asks for the summary of slot 1. -/
def playRequest : DaemonEvent :=
  .request { slot := 1, requestGeneration := 1, connectionGeneration := 1, nonce := 77 }
    { ip := [10, 0, 0, 2], port := 5000 }
    true [7] (some { eiad := [1, 2, 3], totalSamples := 480 })

/-- A Cancelled event with the lease of the entry and another request. -/
def staleCancel : DaemonEvent := .cancelled { identityOf sampleLease with requestGeneration := 2 }

/-- The entry is gone, and its lease stays in the table. -/
theorem stale_cancel_leaks_lease :
    answer (storeStep sampleCrates) .empty (heardRun.take 4) (.restart .complete) = .restart (.ok 0) ∧
    (daemonAfter sampleCrates (heardRun.take 4) [playRequest, staleCancel]).failures = 0 ∧
    ¬ EntriesMatch (daemonAfter sampleCrates (heardRun.take 4) [playRequest, staleCancel]) := by
  refine ⟨by rfl, by decide +kernel, fun h => ?_⟩
  have hrow :
    sampleLease.row ∈
    (daemonAfter sampleCrates (heardRun.take 4) [playRequest, staleCancel]).store.leases := by
    decide +kernel
  have hnone : (daemonAfter sampleCrates (heardRun.take 4) [playRequest, staleCancel]).active = [] :=
    by decide +kernel
  obtain ⟨e, he, _⟩ := (h.rows _).1 hrow
  rw [hnone] at he
  cases he

/-- The summary is played, and finished twice before the cache is cleaned up. -/
theorem played_summary_matches :
    EntriesMatch (daemonAfter sampleCrates (heardRun.take 4) [playRequest,
      .finished { identity := identityOf sampleLease, playedSamples := 480 } false true]) :=
  (entries_match_leases sampleCrates (heardRun.take 4) (n := 0) (by rfl) _ (by decide +kernel)).1

end CodexKeyboard.Playback
