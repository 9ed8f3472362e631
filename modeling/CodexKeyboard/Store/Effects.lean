import CodexKeyboard.Store.Playback
/-!
# What a call can do to the ledgers

`Effect op db db'` lists the changes a committed transaction of `op` makes to the completions, the
summaries and the leases, in the terms the invariants speak of. `storeStep_effects` is the one place
where the bodies of the operations are taken apart; everything about runs is derived from `Effect`.
-/

namespace CodexKeyboard.Store

open Lib

/-! ## The three ways an active claim changes -/

/-- The updates of a claimed row that publish nothing. -/
inductive ClaimMark where
  | resume
  | interrupt
  | abandon
deriving DecidableEq, Repr

def ClaimMark.apply : ClaimMark → SummaryRow → SummaryRow
  | .resume => setState .generating
  | .interrupt => setState .interrupted
  | .abandon => setAbandoned

/-- What `publish_summary` makes of a completion of the task: it is left alone, or it moves to `generation`
from the pending ones or from the summary that was current. -/
def Moves (db : StoreDb) (taskId : String) (generation : Nat) (c c' : CompletionRow) : Prop :=
  (c' = c ∧ ∀ q ∈ db.summaries, currentOf taskId q = true → coveredBy taskId q.generation c = false) ∨
  (c' = cover generation c ∧ c.taskId = taskId ∧
    (c.summarizedGeneration = none ∨
      ∃ q ∈ db.summaries, currentOf taskId q = true ∧ c.summarizedGeneration = some q.generation))

/-- The changes of one transaction. -/
inductive Effect (op : StoreOp) (db db' : StoreDb) : Prop where
  /-- Bindings, cursors and speech attempts only. -/
  | keep (hs : db'.summaries = db.summaries) (hc : db'.completions = db.completions)
    (hl : db'.leases = db.leases)
  | observe (c : CompletionRow) (hs : db'.summaries = db.summaries) (hl : db'.leases = db.leases)
      (hc : db'.completions = db.completions ++ [c]) (hpending : c.summarizedGeneration = none)
      (hfresh : ∀ o ∈ db.completions, o.completionId ≠ c.completionId)
  | claim (r : SummaryRow) (hc : db'.completions = db.completions) (hl : db'.leases = db.leases)
      (hs : db'.summaries = db.summaries ++ [r]) (hschema : summarySchema db'.summaries)
      (hstate : r.state = .generating) (hsuper : r.supersededBy = none) (hid : r.claimId = r.requestId)
      (hcovers : r.coversCompletions ≠ [] ∧ r.coversCompletions.length ≤ maxSummaryCompletionsPerClaim)
      (hload : ∃ cs, loadCompletions db r.taskId 0 r.coversCompletions = .ok cs)
      (hprev : ∀ p ∈ r.previousGeneration, ∃ q ∈ db.summaries,
        currentOf r.taskId q = true ∧ q.generation = p)
      (hcurrent : ∀ q ∈ db.summaries, currentOf r.taskId q = true →
        r.previousGeneration = some q.generation)
      (hop : ∃ requestId, op = .claimSummary r.taskId requestId)
  | mark (m : ClaimMark) (p : SummaryRow → Bool) (hc : db'.completions = db.completions)
    (hl : db'.leases = db.leases)
      (hs : db'.summaries = updateWhere p m.apply db.summaries) (hschema : summarySchema db'.summaries)
      (hp : ∀ r, p r = true → r.isActive = true)
  | publish (taskId requestId cacheObject : String) (generation : Nat)
    (move : CompletionRow → CompletionRow)
      (hl : db'.leases = db.leases)
      (hrow : ∃ r ∈ db.summaries, generatingClaim taskId generation requestId r = true)
      (hs : db'.summaries =
        updateWhere (generatingClaim taskId generation requestId) (setUnheard cacheObject)
        (updateWhere (currentOf taskId) (supersede generation) db.summaries))
      (hschema : summarySchema db'.summaries)
      (hc : db'.completions = db.completions.map move)
      (hmove : ∀ c ∈ db.completions, Moves db taskId generation c (move c))
      (hcount : 0 < db'.completions.countP (coveredBy taskId generation) ∧
        db'.completions.countP (coveredBy taskId generation) ≤ u32Max)
      (hop : ∃ claim, op = .publishSummary claim cacheObject ∧ claim.taskId = taskId ∧
        claim.generation = generation)
  | lease (l : LeaseRow)
    (hop : op = .acquireSummaryPlayback l.slot l.requestGeneration l.connectionGeneration l.leaseId)
      (hc : db'.completions = db.completions) (hl : db'.leases = db.leases ++ [l])
      (hrow : ∃ r ∈ db.summaries, r.taskId = l.taskId ∧
        r.generation = l.summaryGeneration ∧ r.state = .unheard ∧
        r.supersededBy = none)
      (hs : db'.summaries =
        updateWhere (fun r => decide (r.taskId = l.taskId ∧ r.generation = l.summaryGeneration ∧
        r.state = .unheard ∧ r.supersededBy = none)) (setState .leased) db.summaries)
      (hschema : summarySchema db'.summaries)
      (hfresh : ∀ o ∈ db.leases, o.leaseId ≠ l.leaseId ∧
        ¬(o.taskId = l.taskId ∧ o.summaryGeneration = l.summaryGeneration))
  | cancel (l : LeaseRow) (hmem : l ∈ db.leases) (hc : db'.completions = db.completions)
      (hl : db'.leases = deleteWhere (fun o => decide (o = l)) db.leases)
      (hs : db'.summaries = updateWhere (leasedRow l.taskId l.summaryGeneration) unlease db.summaries)
      (hschema : summarySchema db'.summaries) (hop : ∃ lease,
        op = .cancelSummaryPlayback lease ∧ lease.row = l)
  | hear (lease : PlaybackLease) (hop : op = .finishSummaryPlayback lease) (hmem : lease.row ∈ db.leases)
      (hc : db'.completions = db.completions)
      (hl : db'.leases = deleteWhere (fun o => decide (o.leaseId = lease.lease)) db.leases)
      (hs : db'.summaries = updateWhere (fun r => leasedRow lease.taskId lease.summaryGeneration r &&
        decide (r.cacheObject = some lease.cacheObject)) (setState .heard) db.summaries)
      (hcount : db.summaries.countP (fun r => leasedRow lease.taskId lease.summaryGeneration r &&
        decide (r.cacheObject = some lease.cacheObject)) = 1)
      (hschema : summarySchema db'.summaries)
  | recoverLeases (hc : db'.completions = db.completions) (hl : db'.leases = [])
      (hs : db'.summaries = updateWhere isLeased unlease db.summaries)
      (hschema : summarySchema db'.summaries)
      (hop : op = .restart .complete)

theorem Effect.refl (op : StoreOp) (db : StoreDb) : Effect op db db := .keep rfl rfl rfl

/-! ## The unique indexes -/

theorem SummaryRow.Compatible.symm (a b : SummaryRow) (h : a.Compatible b) : b.Compatible a :=
  ⟨fun ⟨h1, h2⟩ => h.1 ⟨h1.symm, h2.symm⟩, fun ⟨h1, h2, h3⟩ => h.2.1 ⟨h1.symm, h3, h2⟩,
    fun ⟨h1, h2⟩ => h.2.2.1 ⟨h2 ▸ h1, h2.symm⟩, fun ⟨h1, h2, h3⟩ => h.2.2.2 ⟨h1.symm, h3, h2⟩⟩

/-- The primary key of `summary_ledger`. -/
theorem eq_of_key {rows : List SummaryRow} (hs : summarySchema rows) {a b : SummaryRow}
    (ha : a ∈ rows) (hb : b ∈ rows)
    (htask : a.taskId = b.taskId) (hgen : a.generation = b.generation) : a = b := by
  by_contra hne
  exact (rel_of_pairwise SummaryRow.Compatible.symm hs.1 ha hb hne).1 ⟨htask, hgen⟩

/-- `summary_one_active_claim_per_task`. -/
theorem eq_of_active {rows : List SummaryRow} (hs : summarySchema rows) {a b : SummaryRow}
    (ha : a ∈ rows) (hb : b ∈ rows)
    (htask : a.taskId = b.taskId) (hactive : a.isActive = true) (hactive' : b.isActive = true) : a = b := by
  by_contra hne
  exact (rel_of_pairwise SummaryRow.Compatible.symm hs.1 ha hb hne).2.1 ⟨htask, hactive, hactive'⟩

/-- `summary_one_current_unread_per_task`. -/
theorem eq_of_current {taskId : String} {rows : List SummaryRow} (hs : summarySchema rows)
    {a b : SummaryRow} (ha : a ∈ rows)
    (hb : b ∈ rows) (hca : currentOf taskId a = true) (hcb : currentOf taskId b = true) : a = b := by
  by_contra hne
  simp only [currentOf, Bool.and_eq_true, decide_eq_true_eq] at hca hcb
  exact (rel_of_pairwise SummaryRow.Compatible.symm hs.1 ha hb hne).2.2.2 ⟨hca.1.trans hcb.1.symm,
    hca.2, hcb.2⟩

/-! ## Inversion of the operations -/

@[simp] theorem writeSummaries_eq_ok {db db' : StoreDb} {rows : List SummaryRow} :
    db.writeSummaries rows = .ok db' ↔ summarySchema rows ∧ db' = { db with summaries := rows } := by
  unfold StoreDb.writeSummaries
  by_cases h : summarySchema rows <;> simp [h, eq_comm]

section
variable {env : Crates} {db db' : StoreDb} {op : StoreOp}

theorem setBinding_effect {slot : Nat} {expected : Option Nat} {taskId : String} {b : Option Binding}
    (h : setBinding db slot expected taskId = .ok (b, db')) : Effect op db db' := by
  unfold setBinding at h
  simp only [bind_eq_ok, pure_eq_ok] at h
  obtain ⟨_, _, h⟩ := h
  split at h
  · cases h; exact .refl op db
  · simp only [bind_eq_ok] at h
    obtain ⟨_, _, h⟩ := h
    cases h
    exact .keep rfl rfl rfl

theorem commitRolloutCompletion_effect {now : Int} {binding : Option Binding}
    {expected : Option RolloutCursor}
    {next : RolloutCursor} {completionId turnPack : String} {out : CompletionOutcome}
    (h : commitRolloutCompletion env db now binding expected next completionId turnPack = .ok (out, db')) :
    Effect op db db' := by
  unfold commitRolloutCompletion at h
  simp only [bind_eq_ok, pure_eq_ok, ensure_eq_ok, Except.ok.injEq, Prod.mk.injEq] at h
  obtain ⟨_, _, _, _, _, _, ⟨outcome, db₁⟩, hrec, _, _, _, _, _, _, _, _, rfl, rfl⟩ := h
  unfold recordCompletion at hrec
  split at hrec
  · split at hrec
    · cases hrec; exact .keep rfl rfl rfl
    · cases hrec
  · rename_i hnone
    cases hrec
    refine .observe ⟨completionId, next.taskId, now, none, turnPack⟩ rfl rfl rfl rfl fun o ho => ?_
    simpa using List.find?_eq_none.1 hnone o ho

theorem queryCurrentUnread_eq_ok {taskId : String} {u : Option UnreadSummary}
    (h : queryCurrentUnread db taskId = .ok u) :
    (u = none ∧ ∀ r ∈ db.summaries, currentOf taskId r = false) ∨
    ∃ r ∈ db.summaries, currentOf taskId r = true ∧ ∃ cacheObject, r.cacheObject = some cacheObject ∧
      0 < db.completions.countP (coveredBy r.taskId r.generation) ∧
      db.completions.countP (coveredBy r.taskId r.generation) ≤ u32Max ∧
      u = some ⟨taskId, r.generation, cacheObject,
        db.completions.countP (coveredBy r.taskId r.generation)⟩ := by
  unfold queryCurrentUnread at h
  split at h
  · rename_i hnone
    cases h
    exact Or.inl ⟨rfl, fun r hr => by simpa using List.find?_eq_none.1 hnone r hr⟩
  · rename_i r hr
    dsimp only at h
    split at h
    · rename_i cacheObject hcache
      split at h
      · rename_i hpos
        split at h
        · rename_i hle
          cases h
          exact Or.inr ⟨r, List.mem_of_find?_eq_some hr, List.find?_some hr, cacheObject,
            hcache, hpos.2, hle, rfl⟩
        · cases h
      · cases h
    · cases h

/-- What a claim may take can be loaded again by its ids. -/
theorem loadCompletions_of_takePending {taskId : String}
    (hkeys : db.completions.Pairwise fun a b => a.completionId ≠ b.completionId) :
    ∀ {rows : List CompletionRow} {taken totalBytes : Nat} {cs : List PendingCompletion},
      (∀ r ∈ rows, r ∈ db.completions ∧ isPendingOf taskId r = true) → (taken = 0 → totalBytes = 0) →
      taken ≤ maxSummaryCompletionsPerClaim → takePending env taken totalBytes rows = .ok cs →
      loadCompletions db taskId totalBytes (cs.map PendingCompletion.completionId) = .ok cs ∧
        cs.length + taken ≤ maxSummaryCompletionsPerClaim
  | [], taken, totalBytes, cs, _, _, hle, h => by
    cases h
    exact ⟨rfl, by simpa using hle⟩
  | row :: rows, taken, totalBytes, cs, hrows, hzero, hle, h => by
    unfold takePending at h
    split at h
    · cases h; exact ⟨rfl, by simpa using hle⟩
    rename_i htaken
    split at h
    · cases h
    rename_i hrow
    dsimp only at h
    split at h
    · cases h; exact ⟨rfl, by simpa using hle⟩
    rename_i htotal
    simp only [bind_eq_ok, pure_eq_ok, Except.ok.injEq] at h
    obtain ⟨rest, hrest, rfl⟩ := h
    obtain ⟨hmem, hpend⟩ := hrows row List.mem_cons_self
    simp only [isPendingOf, Bool.and_eq_true, decide_eq_true_eq] at hpend
    simp only [not_or, Bool.not_eq_false, Nat.not_lt] at hrow
    have hfind : findCompletion db row.completionId taskId = some row := by
      unfold findCompletion
      cases hf :
        db.completions.find? fun c => decide (c.completionId = row.completionId ∧ c.taskId = taskId) with
      | none => simpa [hpend.1] using List.find?_eq_none.1 hf row hmem
      | some r' =>
        have hid := List.find?_some hf
        simp only [decide_eq_true_eq] at hid
        by_contra hne
        exact rel_of_pairwise (fun _ _ h => Ne.symm h) hkeys (List.mem_of_find?_eq_some hf) hmem
          (fun h => hne (by rw [h])) hid.1
    have hbytes : totalBytes + row.turnPack.utf8ByteSize ≤ maxSummaryTurnPackBytes := by
      have h64 : maxTurnPackBytes ≤ maxSummaryTurnPackBytes := by decide
      by_cases h0 : taken = 0
      · have := hzero h0; omega
      · simp only [not_and, Nat.not_lt] at htotal; exact htotal h0
    obtain ⟨hload, hlen⟩ := loadCompletions_of_takePending hkeys
      (fun r hr => hrows r (List.mem_cons_of_mem _ hr)) (fun h => by omega) (by omega) hrest
    refine ⟨?_, ?_⟩
    · simp only [List.map_cons, loadCompletions, hfind]
      simp [hpend.2, hrow, hbytes, hload]
    · simp only [List.length_cons]
      omega

theorem queryPending_load (hkeys : db.completions.Pairwise fun a b => a.completionId ≠ b.completionId)
    {taskId : String} {cs : List PendingCompletion}
    (h : queryPendingSummaryCompletions env db taskId = .ok cs) :
    loadCompletions db taskId 0 (cs.map PendingCompletion.completionId) = .ok cs ∧
      cs.length ≤ maxSummaryCompletionsPerClaim := by
  refine loadCompletions_of_takePending hkeys (fun r hr => ?_) (fun _ => rfl) (Nat.zero_le _) h
  have hr' := List.mem_of_mem_take hr
  rw [List.mem_insertionSort] at hr'
  exact List.mem_filter.1 hr'

/-- A new claim holds what is pending, and the summary that is current. -/
theorem insertClaim_effect (hs : summarySchema db.summaries)
    (hkeys : db.completions.Pairwise fun a b => a.completionId ≠ b.completionId)
    {taskId requestId : String} {out : Option SummaryClaimResult}
    (h : insertClaim env db taskId requestId = .ok (out, db')) :
    Effect (.claimSummary taskId requestId) db db' := by
  unfold insertClaim at h
  simp only [bind_eq_ok, pure_eq_ok] at h
  obtain ⟨previous, hprev, cs, hcs, h⟩ := h
  split at h
  · cases h; exact .refl _ db
  rename_i hne
  simp only [bind_eq_ok, ensure_eq_ok, writeSummaries_eq_ok, Except.ok.injEq, Prod.mk.injEq] at h
  obtain ⟨_, _, db₁, ⟨hschema, rfl⟩, _, rfl⟩ := h
  obtain ⟨hload, hlen⟩ := queryPending_load hkeys hcs
  refine .claim (claimedRow taskId requestId _ _ _) rfl rfl rfl hschema rfl rfl rfl ⟨?_, ?_⟩
    ⟨cs, hload⟩ ?_ ?_
    ⟨requestId, rfl⟩
  · simpa [claimedRow] using hne
  · simpa [claimedRow] using hlen
  · intro p hp
    rcases queryCurrentUnread_eq_ok hprev with ⟨rfl, _⟩ | ⟨q, hq, hcur, c, _, _, _, rfl⟩
    · cases hp
    · cases hp; exact ⟨q, hq, hcur, rfl⟩
  · intro x hx hxcur
    rcases queryCurrentUnread_eq_ok hprev with ⟨_, hnone⟩ | ⟨q, hq, hcur, c, _, _, _, rfl⟩
    · have : currentOf taskId x = true := hxcur
      rw [hnone x hx] at this; cases this
    · rw [eq_of_current hs hx hq hxcur hcur]; rfl

theorem replayRequest_effect {taskId requestId : String} {prior : SummaryRow}
    {out : Option SummaryClaimResult}
    (h : replayRequest db taskId requestId prior = .ok (out, db')) : Effect op db db' := by
  unfold replayRequest at h
  simp only [bind_eq_ok, pure_eq_ok] at h
  obtain ⟨_, _, h⟩ := h
  split at h <;> try (cases h; exact .refl op db)
  · cases h
  · simp only [bind_eq_ok, writeSummaries_eq_ok, Except.ok.injEq, Prod.mk.injEq] at h
    obtain ⟨db₁, ⟨hschema, rfl⟩, _, _, _, _, _, rfl⟩ := h
    refine .mark .resume _ rfl rfl rfl hschema fun r hp => ?_
    simp only [decide_eq_true_eq] at hp
    simp [SummaryRow.isActive, hp.2.2.2.1]
  · simp only [bind_eq_ok, Except.ok.injEq, Prod.mk.injEq] at h
    obtain ⟨_, _, _, rfl⟩ := h
    exact .refl op db

theorem claimSummary_effect (hs : summarySchema db.summaries)
    (hkeys : db.completions.Pairwise fun a b => a.completionId ≠ b.completionId)
    {taskId requestId : String} {out : Option SummaryClaimResult}
    (h : claimSummary env db taskId requestId = .ok (out, db')) :
    Effect (.claimSummary taskId requestId) db db' := by
  unfold claimSummary at h
  simp only [bind_eq_ok] at h
  obtain ⟨_, _, h⟩ := h
  split at h
  · exact replayRequest_effect h
  · split at h
    · simp only [bind_eq_ok, pure_eq_ok, Except.ok.injEq, Prod.mk.injEq] at h
      obtain ⟨_, _, _, _, _, rfl⟩ := h
      exact .refl _ db
    · exact insertClaim_effect hs hkeys h

theorem abandonSummaryClaim_effect {claim : SummaryClaim} {b : Bool}
    (h : abandonSummaryClaim env db claim = .ok (b, db')) : Effect op db db' := by
  unfold abandonSummaryClaim at h
  simp only [bind_eq_ok, writeSummaries_eq_ok, pure_eq_ok] at h
  obtain ⟨_, _, g, _, db₁, ⟨hschema, rfl⟩, h⟩ := h
  have hp : ∀ r, activeClaim claim.taskId g claim.requestId r = true → r.isActive = true := fun r hp => by
    simp only [activeClaim, Bool.and_eq_true] at hp; exact hp.2
  split at h <;> cases h <;> exact .mark .abandon _ rfl rfl rfl hschema hp

theorem abandonInterrupted_effect {taskId : String} {out : Option Nat}
    (h : abandonInterruptedSummaryForTask env db taskId = .ok (out, db')) : Effect op db db' := by
  unfold abandonInterruptedSummaryForTask at h
  simp only [bind_eq_ok] at h
  obtain ⟨_, _, h⟩ := h
  split at h
  · cases h; exact .refl op db
  · simp only [bind_eq_ok, writeSummaries_eq_ok, pure_eq_ok, Except.ok.injEq, Prod.mk.injEq] at h
    obtain ⟨db₁, ⟨hschema, rfl⟩, _, _, _, rfl⟩ := h
    refine .mark .abandon _ rfl rfl rfl hschema fun r hp => ?_
    simp only [interruptedOf, Bool.and_eq_true, decide_eq_true_eq] at hp
    simp [SummaryRow.isActive, hp.1.2]

theorem resumeInterrupted_effect {taskId : String} {out : Option SummaryClaim}
    (h : resumeInterruptedSummary env db taskId = .ok (out, db')) : Effect op db db' := by
  unfold resumeInterruptedSummary at h
  simp only [bind_eq_ok] at h
  obtain ⟨_, _, h⟩ := h
  split at h
  · cases h; exact .refl op db
  split at h
  · cases h
  · simp only [bind_eq_ok, writeSummaries_eq_ok, pure_eq_ok, Except.ok.injEq, Prod.mk.injEq] at h
    obtain ⟨db₁, ⟨hschema, rfl⟩, _, _, _, _, _, rfl⟩ := h
    refine .mark .resume _ rfl rfl rfl hschema fun r hp => ?_
    simp only [interruptedClaim, decide_eq_true_eq] at hp
    simp [SummaryRow.isActive, hp.2.2.1]

theorem beginTts_effect {claim : SummaryClaim} {s : TtsState}
    (h : beginSummaryTtsAttempt env db claim = .ok (s, db')) : Effect op db db' := by
  unfold beginSummaryTtsAttempt at h
  simp only [bind_eq_ok] at h
  obtain ⟨_, _, _, _, _, _, h⟩ := h
  split at h <;> cases h <;> exact .keep rfl rfl rfl

theorem markTts_effect {claim : SummaryClaim} {u : Unit}
    (h : markSummaryTtsAmbiguous env db claim = .ok (u, db')) : Effect op db db' := by
  unfold markSummaryTtsAmbiguous at h
  simp only [bind_eq_ok, pure_eq_ok, Except.ok.injEq, Prod.mk.injEq] at h
  obtain ⟨_, _, _, _, _, _, _, rfl⟩ := h
  exact .keep rfl rfl rfl

/-! ### Publication -/

/-- The completions of the claim move to the new generation, one by one. -/
theorem coverAll_eq_ok {taskId : String} {generation : Nat} :
    ∀ {cs : List PendingCompletion} {db db' : StoreDb}, cs.foldlM (coverOne taskId generation) db =
      .ok db' →
      ∃ move : CompletionRow → CompletionRow, db' = { db with completions := db.completions.map move } ∧
        (∀ c, move c = c ∨ move c = cover generation c ∧
          c.taskId = taskId ∧ c.summarizedGeneration = none) ∧
        (db.completions.map move).countP (coveredBy taskId generation) =
          db.completions.countP (coveredBy taskId generation) + cs.length
  | [], db, db', h => by
    cases h
    exact ⟨id, by simp, fun _ => Or.inl rfl, by simp⟩
  | c :: cs, db, db', h => by
    simp only [List.foldlM_cons, bind_eq_ok] at h
    obtain ⟨db₁, hone, hrest⟩ := h
    unfold coverOne at hone
    simp only [bind_eq_ok, ensure_eq_ok, decide_eq_true_eq, pure_eq_ok, Except.ok.injEq] at hone
    obtain ⟨_, hcount, rfl⟩ := hone
    obtain ⟨move, hdb', hmove, hn⟩ := coverAll_eq_ok hrest
    have hp : ∀ r, isClaimedCompletion taskId c r = true → r.taskId = taskId ∧
      r.summarizedGeneration = none := fun r h => by
      simp only [isClaimedCompletion, isPendingOf, Bool.and_eq_true,
        decide_eq_true_eq, Option.isNone_iff_eq_none] at h
      exact h.2
    refine ⟨fun r => move (if isClaimedCompletion taskId c r then cover generation r else r), ?_,
      fun r => ?_, ?_⟩
    · rw [hdb']
      simp [updateWhere, Function.comp_def]
    · show move _ = r ∨ move _ = _ ∧ _
      by_cases h : isClaimedCompletion taskId c r = true
      · obtain ⟨ht, hnone⟩ := hp r h
        rw [if_pos h]
        -- a covered completion is not pending, so no later one of the claim takes it
        rcases hmove (cover generation r) with heq | ⟨_, _, hpend⟩
        · exact Or.inr ⟨heq, ht, hnone⟩
        · cases hpend
      · rw [if_neg h]; exact hmove r
    · have hadd := countP_updateWhere_add (t := db.completions) (f := cover generation)
        (q := coveredBy taskId generation) fun r _ h => by
          obtain ⟨ht, hnone⟩ := hp r h
          simp [coveredBy, cover, ht, hnone]
      have hcomp :
        db.completions.map (fun r =>
        move (if isClaimedCompletion taskId c r then cover generation r else r)) =
          (updateWhere (isClaimedCompletion taskId c) (cover generation) db.completions).map move := by
        simp [updateWhere, Function.comp_def]
      rw [hcomp, hn, hadd, hcount, List.length_cons]
      omega

/-- Whatever the claim says about the previous summary, what is superseded is the current one. -/
theorem supersedePrevious_eq_ok (hs : summarySchema db.summaries) {claim : SummaryClaim}
    {generation n : Nat}
    (h : supersedePrevious db claim generation = .ok (n, db')) :
    ∃ moved : CompletionRow → Bool,
      (∀ c ∈ db.completions, moved c = true ↔ ∃ q ∈ db.summaries, currentOf claim.taskId q = true ∧
        coveredBy claim.taskId q.generation c = true) ∧
      n = db.completions.countP moved ∧
      db' = { db with
        summaries := updateWhere (currentOf claim.taskId) (supersede generation) db.summaries
        completions := updateWhere moved (cover generation) db.completions } := by
  unfold supersedePrevious at h
  simp only [bind_eq_ok] at h
  obtain ⟨current, hcurrent, h⟩ := h
  split at h
  · rename_i previous _
    simp only [bind_eq_ok, ensure_eq_ok, decide_eq_true_eq, toI64_eq_ok, writeSummaries_eq_ok, pure_eq_ok,
      Except.ok.injEq, Prod.mk.injEq] at h
    obtain ⟨_, rfl, _, ⟨_, rfl⟩, db₁, ⟨_, rfl⟩, _, _, _, _, rfl, rfl⟩ := h
    rcases queryCurrentUnread_eq_ok hcurrent with ⟨hcontra, _⟩
      | ⟨q, hq, hcur, cacheObject, _, _, hle, hprev⟩
    · cases hcontra
    cases hprev
    have htask : q.taskId = claim.taskId := by
      simp only [currentOf, Bool.and_eq_true, decide_eq_true_eq] at hcur; exact hcur.1
    rw [htask] at hle
    refine ⟨coveredBy claim.taskId q.generation, fun c _ => ⟨fun hc => ⟨q, hq, hcur, hc⟩, ?_⟩, ?_, ?_⟩
    · rintro ⟨q', hq', hcur', hc⟩
      rw [eq_of_current hs hq hq' hcur hcur']; exact hc
    · exact Nat.mod_eq_of_lt (Nat.lt_succ_of_le hle)
    · have hsame : updateWhere (fun r => currentOf claim.taskId r && decide (r.generation = q.generation))
          (supersede generation) db.summaries = updateWhere (currentOf claim.taskId)
          (supersede generation) db.summaries := by
        unfold updateWhere
        refine List.map_congr_left fun r hr => ?_
        by_cases hc : currentOf claim.taskId r = true
        · rw [eq_of_current hs hr hq hc hcur]; simp [hcur]
        · simp [hc]
      rw [hsame]
  · simp only [bind_eq_ok, ensure_eq_ok, pure_eq_ok, Except.ok.injEq, Prod.mk.injEq] at h
    obtain ⟨_, hnone, rfl, rfl⟩ := h
    rcases queryCurrentUnread_eq_ok hcurrent with ⟨_, hno⟩ | ⟨q, _, _, _, _, _, _, rfl⟩
    · refine ⟨fun _ => false, fun c _ => ⟨by simp, ?_⟩, by simp, ?_⟩
      · rintro ⟨q, hq, hcur, _⟩
        rw [hno q hq] at hcur; cases hcur
      · rw [updateWhere_none hno, updateWhere_none (fun _ _ => rfl)]
    · cases hnone

/-- A summarized completion belongs to a published summary that nothing superseded. -/
def CoveredByPublished (db : StoreDb) : Prop :=
  ∀ c ∈ db.completions, ∀ g, c.summarizedGeneration = some g →
    ∃ r ∈ db.summaries, r.taskId = c.taskId ∧ r.generation = g ∧
      (r.state = .unheard ∨ r.state = .leased ∨ r.state = .heard) ∧ r.supersededBy = none

theorem publishSummary_effect (hs : summarySchema db.summaries) (hcov : CoveredByPublished db)
    {claim : SummaryClaim}
    {cacheObject : String} {u : UnreadSummary}
    (h : publishSummary env db claim cacheObject = .ok (u, db')) :
    Effect (.publishSummary claim cacheObject) db db' := by
  unfold publishSummary at h
  simp only [bind_eq_ok, ensure_eq_ok, toI64_eq_ok] at h
  obtain ⟨_, hvalid, _, _, g, ⟨_, rfl⟩, h⟩ := h
  split at h
  · cases h
  rename_i stored hstored
  simp only [bind_eq_ok, ensure_eq_ok, decide_eq_true_eq, writeSummaries_eq_ok, pure_eq_ok, Except.ok.injEq,
    Prod.mk.injEq] at h
  obtain ⟨_, _, _, _, ⟨n, db₁⟩, hprev, db₂, hcover, db₃, ⟨hschema, rfl⟩, _, _, _, hle, _, rfl⟩ := h
  obtain ⟨moved, hmoved, hn, rfl⟩ := supersedePrevious_eq_ok hs hprev
  obtain ⟨move, rfl, hmove, hcount⟩ := coverAll_eq_ok hcover
  have hstored' := List.mem_of_find?_eq_some hstored
  have hgen := List.find?_some hstored
  -- the row is still generating, so no completion is covered by it yet
  have hnone : ∀ c ∈ db.completions, coveredBy claim.taskId claim.generation c = false := by
    intro c hc
    by_contra hcb
    simp only [Bool.not_eq_false, coveredBy, decide_eq_true_eq] at hcb
    simp only [generatingClaim, decide_eq_true_eq] at hgen
    obtain ⟨r, hr, htask, hg, hstate, _⟩ := hcov c hc _ hcb.2
    have := eq_of_key hs hr hstored' (htask.trans (hcb.1.trans hgen.1.symm)) (hg.trans hgen.2.1.symm)
    rw [this, hgen.2.2.1] at hstate
    simp at hstate
  refine .publish claim.taskId claim.requestId cacheObject claim.generation
    (fun c => move (if moved c then cover claim.generation c else c)) rfl ⟨stored, hstored',
      hgen⟩ rfl hschema ?_ ?_ ?_
    ⟨claim, rfl, rfl, rfl⟩
  · simp [StoreDb.deleteTts, updateWhere, Function.comp_def]
  · intro c hc
    show Moves db claim.taskId claim.generation c (move _)
    by_cases hm : moved c = true
    · rw [if_pos hm]
      obtain ⟨q, hq, hcur, hcb⟩ := (hmoved c hc).1 hm
      simp only [coveredBy, decide_eq_true_eq] at hcb
      rcases hmove (cover claim.generation c) with heq | ⟨_, _, hpend⟩
      · exact Or.inr ⟨heq, hcb.1, Or.inr ⟨q, hq, hcur, hcb.2⟩⟩
      · cases hpend
    · rw [if_neg hm]
      rcases hmove c with heq | ⟨heq, htask, hpend⟩
      · refine Or.inl ⟨heq, fun q hq hcur => ?_⟩
        by_contra hcb
        exact hm ((hmoved c hc).2 ⟨q, hq, hcur, by simpa using hcb⟩)
      · exact Or.inr ⟨heq, htask, Or.inl hpend⟩
  · have hadd := countP_updateWhere_add (t := db.completions) (p := moved) (f := cover claim.generation)
      (q := coveredBy claim.taskId claim.generation) fun c hc hm => by
        obtain ⟨q, _, _, hcb⟩ := (hmoved c hc).1 hm
        simp only [coveredBy, decide_eq_true_eq] at hcb
        exact ⟨by simp [coveredBy, cover, hcb.1], hnone c hc⟩
    have hzero : db.completions.countP (coveredBy claim.taskId claim.generation) = 0 :=
      List.countP_eq_zero.2 fun c hc => by simp [hnone c hc]
    have hpos : 0 < claim.completions.length := by
      unfold validateSummaryClaim at hvalid
      simp only [bind_eq_ok, ensure_eq_ok, decide_eq_true_eq] at hvalid
      obtain ⟨_, _, _, hv, _⟩ := hvalid
      exact List.length_pos_iff.2 hv.2.1
    simp only [StoreDb.deleteTts]
    rw [hcount, hadd, hzero, ← hn]
    omega

/-! ### Playback -/

theorem acquire_effect {slot request connection lease : Nat} {out : Option PlaybackLease}
    (h : acquireSummaryPlayback db slot request connection lease = .ok (out, db')) :
    Effect (.acquireSummaryPlayback slot request connection lease) db db' := by
  unfold acquireSummaryPlayback at h
  simp only [bind_eq_ok] at h
  obtain ⟨_, _, _, _, h⟩ := h
  split at h
  · cases h; exact .refl _ db
  split at h
  · cases h; exact .refl _ db
  rename_i binding _ _ summary hsummary
  split at h
  · cases h
  split at h
  · simp only [bind_eq_ok, pure_eq_ok, Except.ok.injEq, Prod.mk.injEq] at h
    obtain ⟨_, _, _, rfl⟩ := h
    exact .refl _ db
  rename_i hnone
  simp only [bind_eq_ok, ensure_eq_ok, decide_eq_true_eq, writeSummaries_eq_ok, pure_eq_ok, Except.ok.injEq,
    Prod.mk.injEq] at h
  obtain ⟨_, hstate, db₁, ⟨hschema, rfl⟩, _, _, db₂, hins, _, rfl⟩ := h
  have hcur := List.find?_some hsummary
  simp only [currentOf, SummaryRow.isCurrent, Bool.and_eq_true,
    decide_eq_true_eq, Option.isNone_iff_eq_none] at hcur
  unfold StoreDb.insertLease at hins
  split at hins
  · rename_i hfresh
    cases hins
    exact .lease (PlaybackLease.row _) rfl rfl rfl
      ⟨summary, List.mem_of_find?_eq_some hsummary, hcur.1, rfl, hstate, hcur.2.2⟩ rfl hschema hfresh.1
  · cases hins

theorem cancel_effect (hkeys : db.leases.Pairwise fun a b => a.leaseId ≠ b.leaseId)
    {lease : PlaybackLease} {b : Bool}
    (h : cancelSummaryPlayback env db lease = .ok (b, db')) :
    Effect (.cancelSummaryPlayback lease) db db' := by
  unfold cancelSummaryPlayback at h
  simp only [bind_eq_ok] at h
  obtain ⟨_, _, h⟩ := h
  split at h
  · rename_i hone
    simp only [bind_eq_ok, writeSummaries_eq_ok, pure_eq_ok, Except.ok.injEq, Prod.mk.injEq] at h
    obtain ⟨db₁, ⟨hschema, rfl⟩, _, rfl⟩ := h
    have hmem : lease.row ∈ db.leases := by
      obtain ⟨l, hl, heq⟩ := List.countP_pos_iff.1 (by rw [hone]; exact Nat.one_pos)
      exact (of_decide_eq_true heq) ▸ hl
    exact .cancel lease.row hmem rfl rfl rfl hschema ⟨lease, rfl, rfl⟩
  · rename_i hne
    simp only [pure_eq_ok, Except.ok.injEq, Prod.mk.injEq] at h
    obtain ⟨_, rfl⟩ := h
    have hle : db.leases.countP (fun l => decide (l = lease.row)) ≤ 1 :=
      countP_le_one hkeys fun a b hab hboth => by
        simp only [decide_eq_true_eq] at hboth
        exact hab (by rw [hboth.1, hboth.2])
    have hzero : ∀ l ∈ db.leases, ¬(l = lease.row) := by
      have h0 : db.leases.countP (fun l => decide (l = lease.row)) = 0 := by omega
      simpa using List.countP_eq_zero.1 h0
    refine .keep rfl rfl ?_
    simp only [deleteWhere]
    exact List.filter_eq_self.2 fun l hl => by simp [hzero l hl]

theorem finish_effect {lease : PlaybackLease} {b : Bool}
    (h : finishSummaryPlayback env db lease = .ok (b, db')) :
    Effect (.finishSummaryPlayback lease) db db' := by
  unfold finishSummaryPlayback at h
  simp only [bind_eq_ok] at h
  obtain ⟨_, _, h⟩ := h
  split at h
  · cases h; exact .refl _ db
  rename_i hmem
  simp only [bind_eq_ok, ensure_eq_ok, decide_eq_true_eq, writeSummaries_eq_ok, pure_eq_ok, Except.ok.injEq,
    Prod.mk.injEq] at h
  obtain ⟨db₁, ⟨hschema, rfl⟩, _, hcount, _, rfl⟩ := h
  exact .hear lease rfl (not_not.1 hmem) rfl rfl rfl hcount hschema

theorem recoverSummaries_effect {n : Nat} (h : recoverInterruptedSummaries db = .ok (n, db')) :
    Effect op db db' := by
  unfold recoverInterruptedSummaries at h
  simp only [bind_eq_ok, writeSummaries_eq_ok, pure_eq_ok, Except.ok.injEq, Prod.mk.injEq] at h
  obtain ⟨db₁, ⟨hschema, rfl⟩, _, rfl⟩ := h
  exact .mark .interrupt _ rfl rfl rfl hschema fun r hp => by
    simp only [isGenerating] at hp; simp [SummaryRow.isActive, hp]

theorem recoverLeases_effect {u : Unit} (h : recoverInterruptedPlaybackLeases db = .ok (u, db')) :
    Effect (.restart .complete) db db' := by
  unfold recoverInterruptedPlaybackLeases at h
  simp only [bind_eq_ok, writeSummaries_eq_ok, pure_eq_ok, Except.ok.injEq, Prod.mk.injEq] at h
  obtain ⟨db₁, ⟨hschema, rfl⟩, _, rfl⟩ := h
  exact .recoverLeases rfl rfl rfl hschema rfl

end

end CodexKeyboard.Store
