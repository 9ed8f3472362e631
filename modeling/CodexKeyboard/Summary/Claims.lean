import CodexKeyboard.Store.Resume
/-!
# A claim that is being worked on

What one call of the orchestrator does to the store, statement by statement. `Underway` is what
holds between the claim and its end: then every check of `abandon_summary_claim`,
`summary_tts_attempt` and `begin_summary_tts_attempt` passes. `Settled` is what the end leaves.
-/

namespace CodexKeyboard.Summary

open Lib Store

variable {env : Crates} {db db' : StoreDb} {claim : SummaryClaim}

/-! ## Rows a claim can be loaded from -/

/-- The columns of a row that `validate_summary_claim` reads again. -/
structure RowValid (env : Crates) (r : SummaryRow) : Prop where
  request : ∀ requestId ∈ r.requestId, validateSummaryRequest env r.taskId requestId = .ok ()
  fits : r.generation ≤ i64Max
  covers : ∀ id ∈ r.coversCompletions, env.isUuid id = true

def RowsValid (env : Crates) (db : StoreDb) : Prop := ∀ r ∈ db.summaries, RowValid env r

/-- No claim is being worked on, and none is left over. -/
def Quiet (db : StoreDb) : Prop := ∀ r ∈ db.summaries, r.isActive = false

theorem RowValid.same {r r' : SummaryRow} (h : RowValid env r) (hs : SameClaim r r') : RowValid env r' := by
  obtain ⟨htask, hgen, hreq, hcov⟩ := hs
  refine ⟨?_, ?_, ?_⟩
  · rw [hreq, htask]; exact h.request
  · rw [hgen]; exact h.fits
  · rw [hcov]; exact h.covers

/-- Every row after a call other than `claim_summary` was there before it. -/
theorem rows_effect {op : StoreOp} (hop : ∀ taskId requestId, op ≠ .claimSummary taskId requestId)
    (he : Effect op db db') :
    ∀ r' ∈ db'.summaries, ∃ r ∈ db.summaries, SameClaim r r' := by
  intro r' hr'
  rcases summaries_effect he with hs | ⟨p, f, hf, hs⟩ | ⟨r, _, requestId, heq⟩
    | ⟨taskId, requestId, cacheObject, generation, _, hs⟩
  · exact ⟨r', hs ▸ hr', .refl r'⟩
  · exact (sameClaim_update (sameClaim_rowUpdate hf)).2 r' (hs ▸ hr')
  · exact absurd heq (hop r.taskId requestId)
  · obtain ⟨r₁, hr₁, h1⟩ := (sameClaim_update (sameClaim_setUnheard cacheObject)).2 r' (hs ▸ hr')
    obtain ⟨r, hr, h2⟩ := (sameClaim_update (sameClaim_supersede generation)).2 r₁ hr₁
    exact ⟨r, hr, h2.trans h1⟩

/-- No row disappears. -/
theorem keys_effect {op : StoreOp} (he : Effect op db db') :
    ∀ r ∈ db.summaries, ∃ r' ∈ db'.summaries, r'.taskId = r.taskId ∧ r'.generation = r.generation := by
  intro r hr
  rcases summaries_effect he with hs | ⟨p, f, hf, hs⟩ | ⟨q, hs, _⟩
    | ⟨taskId, requestId, cacheObject, generation, _, hs⟩
  · exact ⟨r, hs ▸ hr, rfl, rfl⟩
  · obtain ⟨r', hr', h⟩ := (sameClaim_update (sameClaim_rowUpdate hf)).1 r hr
    exact ⟨r', hs ▸ hr', h.1, h.2.1⟩
  · exact ⟨r, hs ▸ List.mem_append_left _ hr, rfl, rfl⟩
  · obtain ⟨r₁, hr₁, h1⟩ :=
      (sameClaim_update (p := currentOf taskId) (sameClaim_supersede generation)).1 r hr
    obtain ⟨r₂, hr₂, h2⟩ := (sameClaim_update (p := generatingClaim taskId generation requestId)
      (sameClaim_setUnheard cacheObject)).1 r₁ hr₁
    exact ⟨r₂, hs ▸ hr₂, (h1.trans h2).1, (h1.trans h2).2.1⟩

/-- Only `claim_summary` makes a claim, so without one nothing becomes active. -/
theorem quiet_effect {op : StoreOp} (hop : ∀ taskId requestId, op ≠ .claimSummary taskId requestId)
    (hq : Quiet db)
    (he : Effect op db db') : Quiet db' := by
  intro r' hr'
  rcases summaries_effect he with hs | ⟨p, f, hf, hs⟩ | ⟨r, _, requestId, heq⟩ |
    ⟨taskId, requestId, cacheObject, generation, ⟨r, hr, hgen⟩, _⟩
  · exact hq r' (hs ▸ hr')
  · rw [hs] at hr'
    rcases mem_updateWhere.1 hr' with ⟨hr, _⟩ | ⟨r, hr, hp, rfl⟩
    · exact hq r' hr
    · by_contra hact
      exact absurd (hf.active r hp (by simpa using hact)).1 (by simp [hq r hr])
  · exact absurd heq (hop r.taskId requestId)
  · simp only [generatingClaim, decide_eq_true_eq] at hgen
    have := hq r hr
    simp [SummaryRow.isActive, hgen.2.2.1] at this

/-! ## What the claim holds -/

/-- The completions of a loaded claim are the stored ones, and pending. -/
theorem pending_of_load {taskId : String} :
    ∀ {ids : List String} {totalBytes : Nat} {cs : List PendingCompletion},
    loadCompletions db taskId totalBytes ids = .ok cs →
    cs.map PendingCompletion.completionId = ids ∧
    ∀ c ∈ cs, ∃ row ∈ db.completions, row.completionId = c.completionId ∧ row.taskId = taskId ∧
      row.turnPack = c.turnPack ∧ row.summarizedGeneration = none
  | [], _, cs, h => by
    cases h
    exact ⟨rfl, by simp⟩
  | id :: ids, totalBytes, cs, h => by
    unfold loadCompletions at h
    split at h
    · cases h
    rename_i row hrow
    simp only [bind_eq_ok, ensure_eq_ok, pure_eq_ok, Except.ok.injEq] at h
    obtain ⟨_, hnone, _, _, rest, hrest, rfl⟩ := h
    obtain ⟨hids, hpend⟩ := pending_of_load hrest
    have hfound := List.find?_some hrow
    simp only [decide_eq_true_eq] at hfound
    refine ⟨by simp [hids], fun c hc => ?_⟩
    rcases List.mem_cons.1 hc with rfl | hc
    · exact ⟨row, List.mem_of_find?_eq_some hrow, hfound.1, hfound.2, rfl, by simpa using hnone⟩
    · exact hpend c hc

theorem loadCompletions_congr (db db' : StoreDb) (h : db'.completions = db.completions)
    {taskId : String} {totalBytes : Nat} {ids : List String}
    {cs : List PendingCompletion} (hload : loadCompletions db taskId totalBytes ids = .ok cs) :
    loadCompletions db' taskId totalBytes ids = .ok cs := by
  refine loadCompletions_frame (fun completionId c hfind => ?_) hload
  unfold findCompletion at hfind ⊢
  rw [h]
  exact hfind

theorem completionsValid_of_load {taskId : String} :
    ∀ {ids : List String} {totalBytes : Nat} {cs : List PendingCompletion},
    loadCompletions db taskId totalBytes ids = .ok cs → (∀ id ∈ ids, env.isUuid id = true) →
    completionsValid env totalBytes cs = true
  | [], _, cs, h, _ => by
    cases h
    rfl
  | id :: ids, totalBytes, cs, h, huuid => by
    unfold loadCompletions at h
    split at h
    · cases h
    rename_i row hrow
    simp only [bind_eq_ok, ensure_eq_ok, pure_eq_ok, Except.ok.injEq, decide_eq_true_eq] at h
    obtain ⟨_, _, _, hbytes, rest, hrest, rfl⟩ := h
    have hrec := completionsValid_of_load hrest fun i hi => huuid i (List.mem_cons_of_mem _ hi)
    simp only [completionsValid, hrec, Bool.and_true, decide_eq_true_eq]
    exact ⟨huuid id List.mem_cons_self, hbytes⟩

theorem uuid_of_takePending :
    ∀ {rows : List CompletionRow} {taken totalBytes : Nat} {cs : List PendingCompletion},
    takePending env taken totalBytes rows = .ok cs → ∀ c ∈ cs, env.isUuid c.completionId = true
  | [], _, _, cs, h => by
    cases h
    simp
  | row :: rows, taken, totalBytes, cs, h => by
    unfold takePending at h
    split at h
    · cases h; simp
    split at h
    · cases h
    rename_i hrow
    dsimp only at h
    split at h
    · cases h; simp
    simp only [bind_eq_ok, pure_eq_ok, Except.ok.injEq] at h
    obtain ⟨rest, hrest, rfl⟩ := h
    intro c hc
    rcases List.mem_cons.1 hc with rfl | hc
    · simpa using fun hno => hrow (Or.inl hno)
    · exact uuid_of_takePending hrest c hc

/-- The row of a claim that is being worked on. -/
structure ClaimRow (claim : SummaryClaim) (r : SummaryRow) : Prop where
  taskId : r.taskId = claim.taskId
  generation : r.generation = claim.generation
  state : r.state = .generating
  requestId : r.requestId = some claim.requestId
  covers : r.coversCompletions = claim.completions.map PendingCompletion.completionId

theorem ClaimRow.isActive {r : SummaryRow} (hr : ClaimRow claim r) : r.isActive = true := by
  simp [SummaryRow.isActive, hr.state]

/-- All active rows are of `taskId`, and the summaries they replace are still current. -/
def Resumable (db : StoreDb) (taskId : String) : Prop :=
  ∀ r ∈ db.summaries, r.isActive = true → r.taskId = taskId ∧
    ∀ p ∈ r.previousGeneration, ∃ q ∈ db.summaries, currentOf taskId q = true ∧ q.generation = p

/-- `claim` is being worked on. -/
structure Underway (db : StoreDb) (claim : SummaryClaim) : Prop where
  row : ∃ r ∈ db.summaries, ClaimRow claim r
  load : loadCompletions db claim.taskId 0 (claim.completions.map PendingCompletion.completionId) =
    .ok claim.completions
  previousTask : ∀ previous ∈ claim.previousUnread, previous.taskId = claim.taskId
  resumable : Resumable db claim.taskId

theorem Quiet.resumable (h : Quiet db) (taskId : String) : Resumable db taskId := by
  intro r hr hact
  rw [h r hr] at hact
  cases hact

/-- A completion of the claim, as the ledger holds it. -/
def InLedger (db : StoreDb) (taskId : String) (c : PendingCompletion) (summarized : Option Nat) : Prop :=
  ∃ row ∈ db.completions, row.completionId = c.completionId ∧ row.taskId = taskId ∧
  row.turnPack = c.turnPack ∧
    row.summarizedGeneration = summarized

/-- The claim was published and its completions are carried by its generation, or it was abandoned
and they are pending again. -/
def Settled (db : StoreDb) (claim : SummaryClaim) : Prop :=
  (∃ r ∈ db.summaries, r.taskId = claim.taskId ∧ r.generation = claim.generation ∧ r.state = .unheard ∧
    ∀ c ∈ claim.completions, InLedger db claim.taskId c (some claim.generation)) ∨
  (∃ r ∈ db.summaries, r.taskId = claim.taskId ∧ r.generation = claim.generation ∧ r.state = .abandoned ∧
    ∀ c ∈ claim.completions, InLedger db claim.taskId c none)

/-! ## The checks of a claim that is being worked on -/

theorem claimId_of_row (h : LedgerInv db) {r : SummaryRow} (hr : r ∈ db.summaries)
    (hrow : ClaimRow claim r) : r.claimId = some claim.requestId := by
  rw [(h.active r hr hrow.isActive).claimId, hrow.requestId]

/-- The row of the claim is the only active one. -/
theorem eq_of_underway (h : LedgerInv db) (hu : Underway db claim) {r q : SummaryRow}
    (hr : r ∈ db.summaries) (hrow : ClaimRow claim r) (hq : q ∈ db.summaries)
    (hact : q.isActive = true) : q = r :=
  eq_of_active h.schema hq hr ((hu.resumable q hq hact).1.trans hrow.taskId.symm) hact hrow.isActive

theorem validate_underway (h : LedgerInv db) (hv : RowsValid env db) (hu : Underway db claim) :
    validateSummaryClaim env claim = .ok () ∧ claim.generation ≤ i64Max := by
  obtain ⟨r, hr, hrow⟩ := hu.row
  have hvalid := hv r hr
  have hclaim := h.active r hr hrow.isActive
  have hreq : validateSummaryRequest env claim.taskId claim.requestId = .ok () := by
    rw [← hrow.taskId]
    exact hvalid.request _ (by rw [hrow.requestId]; rfl)
  have hgen : claim.generation ≠ 0 := by
    have := (h.schema.2 r hr).1
    rw [hrow.generation] at this
    omega
  have hcovers := hclaim.covers
  rw [hrow.covers, List.length_map] at hcovers
  have hne : claim.completions ≠ [] := by
    intro hnil
    exact hcovers.1 (by rw [hnil]; rfl)
  have hcompletions : completionsValid env 0 claim.completions = true :=
    completionsValid_of_load hu.load fun id hid => hvalid.covers id (by rw [hrow.covers]; exact hid)
  refine ⟨?_, by rw [← hrow.generation]; exact hvalid.fits⟩
  unfold validateSummaryClaim
  rw [hreq]
  simp only [ok_bind]
  rw [decide_eq_true ⟨hgen, hne, hcovers.2, hu.previousTask⟩, hcompletions]
  rfl

/-! ## Its end -/

theorem countP_activeClaim (h : LedgerInv db) {r : SummaryRow} (hr : r ∈ db.summaries) (hrow : ClaimRow claim r) :
    db.summaries.countP (activeClaim claim.taskId claim.generation claim.requestId) = 1 := by
  refine countP_key h hr ?_ fun q hq => ?_
  · simp [activeClaim, hrow.taskId, hrow.generation, claimId_of_row h hr hrow, hrow.isActive]
  · simp only [activeClaim, Bool.and_eq_true, decide_eq_true_eq] at hq
    exact ⟨hq.1.1.trans hrow.taskId.symm, hq.1.2.1.trans hrow.generation.symm⟩

/-- Abandoning succeeds, and gives the completions back. -/
theorem abandon_underway (h : LedgerInv db) (hv : RowsValid env db) (hu : Underway db claim) :
    ∃ db', abandonSummaryClaim env db claim = .ok (true, db') ∧ Quiet db' ∧ Settled db' claim := by
  obtain ⟨hvalid, hfits⟩ := validate_underway h hv hu
  obtain ⟨r, hr, hrow⟩ := hu.row
  have hp : ∀ q, activeClaim claim.taskId claim.generation claim.requestId q = true →
    q.isActive = true := by
    intro q hq
    simp only [activeClaim, Bool.and_eq_true] at hq
    exact hq.2
  have hself : activeClaim claim.taskId claim.generation claim.requestId r = true := by
    simp [activeClaim, hrow.taskId, hrow.generation, claimId_of_row h hr hrow, hrow.isActive]
  have hwrite : db.writeSummaries
        (updateWhere (activeClaim claim.taskId claim.generation claim.requestId) setAbandoned db.summaries) =
      .ok { db with
        summaries := updateWhere (activeClaim claim.taskId claim.generation claim.requestId) setAbandoned
          db.summaries } :=
    writeSummaries_eq_ok.2 ⟨schema_mark h.schema .abandon hp, rfl⟩
  have heq : abandonSummaryClaim env db claim = .ok (true, StoreDb.deleteTts { db with
      summaries := updateWhere (activeClaim claim.taskId claim.generation claim.requestId)
        setAbandoned db.summaries }
      claim.taskId claim.generation) := by
    unfold abandonSummaryClaim
    rw [hvalid, toI64_eq_ok.2 ⟨hfits, rfl⟩]
    simp only [ok_bind, hwrite, countP_activeClaim h hr hrow, if_true, pure_eq_ok]
  refine ⟨_, heq, ?_,
    Or.inr ⟨setAbandoned r, mem_updateWhere_of_pos hr hself, hrow.taskId, hrow.generation, rfl, ?_⟩⟩
  · intro q hq
    rcases mem_updateWhere.1 hq with ⟨hq, hnot⟩ | ⟨q, _, _, rfl⟩
    · by_contra hact
      rw [eq_of_underway h hu hr hrow hq (by simpa using hact), hself] at hnot
      cases hnot
    · rfl
  · exact (pending_of_load hu.load).2

/-! ## Its speech attempt -/

theorem summaryTtsAttempt_underway (h : LedgerInv db) (hv : RowsValid env db) (hu : Underway db claim) :
    summaryTtsAttempt env db claim =
    .ok ((db.tts.find? (ttsOf claim.taskId claim.generation)).map TtsRow.state) := by
  obtain ⟨hvalid, hfits⟩ := validate_underway h hv hu
  obtain ⟨r, hr, hrow⟩ := hu.row
  have hany : (db.summaries.any fun r => decide (r.taskId = claim.taskId ∧ r.generation = claim.generation ∧
      r.requestId = some claim.requestId) && r.isActive) = true :=
    List.any_eq_true.2 ⟨r, hr, by simp [hrow.taskId, hrow.generation, hrow.requestId, hrow.isActive]⟩
  unfold summaryTtsAttempt
  rw [hvalid, toI64_eq_ok.2 ⟨hfits, rfl⟩]
  simp only [ok_bind, hany, if_true, pure_eq_ok]

/-- The first attempt of a claim starts. -/
theorem begin_underway (h : LedgerInv db) (hv : RowsValid env db) (hu : Underway db claim)
    (hfresh : db.tts.find? (ttsOf claim.taskId claim.generation) = none) :
    beginSummaryTtsAttempt env db claim =
      .ok (.started, { db with tts := db.tts ++ [⟨claim.taskId, claim.generation, .started⟩] }) := by
  obtain ⟨hvalid, hfits⟩ := validate_underway h hv hu
  obtain ⟨r, hr, hrow⟩ := hu.row
  have hactive : claimIsActive db claim.taskId claim.generation claim.requestId = true :=
    List.any_eq_true.2 ⟨r, hr, by
      simp [activeClaim, hrow.taskId, hrow.generation, claimId_of_row h hr hrow,
        hrow.isActive, hrow.requestId]⟩
  unfold beginSummaryTtsAttempt
  rw [hvalid, toI64_eq_ok.2 ⟨hfits, rfl⟩]
  simp only [ok_bind, hactive, ensure_true, hfresh, pure_eq_ok]

theorem Underway.of_tts (hu : Underway db claim) (tts : List TtsRow) : Underway { db with tts } claim :=
  ⟨hu.row, loadCompletions_congr db { db with tts } rfl hu.load, hu.previousTask, hu.resumable⟩

/-! ## Publication -/

theorem coverOne_keys {taskId : String} {generation : Nat} {c : PendingCompletion}
    (hkeys : db.completions.Pairwise fun a b => a.completionId ≠ b.completionId)
    (h : coverOne taskId generation db c = .ok db') :
    db'.summaries = db.summaries ∧ (db'.completions.Pairwise fun a b => a.completionId ≠ b.completionId) ∧
    (∃ row ∈ db'.completions, row.completionId = c.completionId ∧ row.taskId = taskId ∧
      row.turnPack = c.turnPack ∧
      row.summarizedGeneration = some generation) ∧
    ∀ row ∈ db.completions, row.summarizedGeneration = some generation → row ∈ db'.completions := by
  unfold coverOne at h
  simp only [bind_eq_ok, ensure_eq_ok, decide_eq_true_eq, pure_eq_ok, Except.ok.injEq] at h
  obtain ⟨_, hcount, rfl⟩ := h
  obtain ⟨row, hrow, hp⟩ := List.countP_pos_iff.1 (by rw [hcount]; exact Nat.one_pos)
  have hp' := hp
  simp only [isClaimedCompletion, isPendingOf, Bool.and_eq_true, decide_eq_true_eq] at hp'
  refine ⟨rfl, ?_,
    ⟨cover generation row, mem_updateWhere_of_pos hrow hp, hp'.1.1, hp'.2.1, hp'.1.2, rfl⟩, ?_⟩
  · refine pairwise_updateWhere hkeys fun a _ b _ hab => ?_
    split <;> split <;> exact hab
  · intro o ho hsome
    refine mem_updateWhere_of_neg ho ?_
    by_contra hc
    simp only [Bool.not_eq_false, isClaimedCompletion, isPendingOf, Bool.and_eq_true] at hc
    rw [hsome] at hc
    exact absurd hc.2.2 (by simp)

/-- After the loop over the claim every completion of it is carried by its generation. -/
theorem coverAll_covers {taskId : String} {generation : Nat} :
    ∀ {cs : List PendingCompletion} {db db' : StoreDb},
    (db.completions.Pairwise fun a b => a.completionId ≠ b.completionId) →
    cs.foldlM (coverOne taskId generation) db = .ok db' →
    (∀ c ∈ cs, InLedger db' taskId c (some generation)) ∧
    ∀ row ∈ db.completions, row.summarizedGeneration = some generation → row ∈ db'.completions
  | [], db, db', _, h => by
    cases h
    exact ⟨by simp, fun _ hrow _ => hrow⟩
  | c :: cs, db, db', hkeys, h => by
    simp only [List.foldlM_cons, bind_eq_ok] at h
    obtain ⟨db₁, hone, hrest⟩ := h
    obtain ⟨_, hkeys₁, ⟨row, hrow, hid, htask, hpack, hsome⟩, hkeep⟩ := coverOne_keys hkeys hone
    obtain ⟨hall, hkeep'⟩ := coverAll_covers hkeys₁ hrest
    refine ⟨fun c' hc' => ?_, fun o ho hsome => hkeep' o (hkeep o ho hsome) hsome⟩
    rcases List.mem_cons.1 hc' with rfl | hc'
    · exact ⟨row, hkeep' row hrow hsome, hid, htask, hpack, hsome⟩
    · exact hall c' hc'

/-- What a publication leaves. -/
theorem publish_underway (h : LedgerInv db) (hu : Underway db claim) {cacheObject : String}
    {u : UnreadSummary}
    (hp : publishSummary env db claim cacheObject = .ok (u, db')) : Quiet db' ∧ Settled db' claim := by
  obtain ⟨r, hr, hrow⟩ := hu.row
  unfold publishSummary at hp
  simp only [bind_eq_ok, ensure_eq_ok, toI64_eq_ok] at hp
  obtain ⟨_, _, _, _, g, ⟨_, rfl⟩, hp⟩ := hp
  split at hp
  · cases hp
  simp only [bind_eq_ok, ensure_eq_ok, writeSummaries_eq_ok,
    pure_eq_ok, Except.ok.injEq, Prod.mk.injEq] at hp
  obtain ⟨_, _, _, _, ⟨n, db₁⟩, hprev, db₂, hcover, db₃, ⟨_, rfl⟩, _, _, _, _, _, rfl⟩ := hp
  obtain ⟨moved, _, _, rfl⟩ := supersedePrevious_eq_ok h.schema hprev
  obtain ⟨move, hdb₂, _⟩ := coverAll_eq_ok hcover
  have hkeys₁ : (updateWhere moved (cover claim.generation) db.completions).Pairwise
      fun a b => a.completionId ≠ b.completionId :=
    pairwise_updateWhere h.completionKeys fun a _ b _ hab => by split <;> split <;> exact hab
  obtain ⟨hcovered, _⟩ := coverAll_covers hkeys₁ hcover
  have hgen : generatingClaim claim.taskId claim.generation claim.requestId r = true := by
    simp [generatingClaim, hrow.taskId, hrow.generation, hrow.state, claimId_of_row h hr hrow]
  -- the claimed row is not a current one, so superseding leaves it alone
  have hnot : currentOf claim.taskId r = false := by
    simp [currentOf, SummaryRow.isCurrent, SummaryRow.isUnreadState, hrow.state]
  have hsummaries :
    db₂.summaries = updateWhere (currentOf claim.taskId) (supersede claim.generation) db.summaries := by
    rw [hdb₂]
  refine ⟨?_, Or.inl ⟨setUnheard cacheObject r, ?_, hrow.taskId, hrow.generation, rfl, hcovered⟩⟩
  · intro q hq
    have hq :
      q ∈ updateWhere (generatingClaim claim.taskId claim.generation claim.requestId)
      (setUnheard cacheObject)
        db₂.summaries := hq
    rcases mem_updateWhere.1 hq with ⟨hq, hnotgen⟩ | ⟨q, _, _, rfl⟩
    · rw [hsummaries] at hq
      by_contra hact
      have hact : q.isActive = true := by simpa using hact
      rcases mem_updateWhere.1 hq with ⟨hq, _⟩ | ⟨q, hq, hcur, rfl⟩
      · rw [eq_of_underway h hu hr hrow hq hact, hgen] at hnotgen
        cases hnotgen
      · simp only [currentOf, SummaryRow.isCurrent, SummaryRow.isUnreadState,
          Bool.and_eq_true, Bool.or_eq_true, beq_iff_eq] at hcur
        rcases hcur.2.1 with hst | hst <;> simp [supersede, SummaryRow.isActive, hst] at hact
    · rfl
  · show setUnheard cacheObject r ∈ updateWhere _ _ db₂.summaries
    refine mem_updateWhere_of_pos ?_ hgen
    rw [hsummaries]
    exact mem_updateWhere_of_neg hr hnot

/-! ## Speech attempts so far -/

/-- No claim was spoken twice, and an active claim that was spoken has its attempt on record. -/
structure AttemptsInv (db : StoreDb) (synthesized : List (String × Nat)) : Prop where
  once : synthesized.Nodup
  recorded : ∀ k ∈ synthesized, ∃ r ∈ db.summaries, r.taskId = k.1 ∧ r.generation = k.2 ∧
    (r.isActive = true → (db.tts.find? (ttsOf k.1 k.2)).isSome = true)

variable {synthesized : List (String × Nat)}

theorem AttemptsInv.quiet (h : AttemptsInv db synthesized) (hq : Quiet db')
    (hkeys : ∀ r ∈ db.summaries, ∃ r' ∈ db'.summaries, r'.taskId = r.taskId ∧
      r'.generation = r.generation) :
    AttemptsInv db' synthesized := by
  refine ⟨h.once, fun k hk => ?_⟩
  obtain ⟨r, hr, htask, hgen, _⟩ := h.recorded k hk
  obtain ⟨r', hr', htask', hgen'⟩ := hkeys r hr
  refine ⟨r', hr', htask'.trans htask, hgen'.trans hgen, fun hact => ?_⟩
  rw [hq r' hr'] at hact
  cases hact

theorem AttemptsInv.update (h : AttemptsInv db synthesized) {p : SummaryRow → Bool}
    {f : SummaryRow → SummaryRow}
    (hf : RowUpdate p f) (hs : db'.summaries = updateWhere p f db.summaries) (ht : db'.tts = db.tts) :
    AttemptsInv db' synthesized := by
  refine ⟨h.once, fun k hk => ?_⟩
  obtain ⟨r, hr, htask, hgen, hattempt⟩ := h.recorded k hk
  rw [hs, ht]
  by_cases hp : p r = true
  · exact ⟨f r, mem_updateWhere_of_pos hr hp, (hf.key r).1.trans htask, (hf.key r).2.trans hgen,
      fun hact => hattempt (hf.active r hp hact).1⟩
  · exact ⟨r, mem_updateWhere_of_neg hr (by simpa using hp), htask, hgen, hattempt⟩

/-- A claim without an attempt on record was not spoken. -/
theorem AttemptsInv.not_mem (h : AttemptsInv db synthesized) (hl : LedgerInv db) (hu : Underway db claim)
    (hfresh : db.tts.find? (ttsOf claim.taskId claim.generation) = none) :
    (claim.taskId, claim.generation) ∉ synthesized := by
  intro hmem
  obtain ⟨q, hq, htask, hgen, hattempt⟩ := h.recorded _ hmem
  obtain ⟨r, hr, hrow⟩ := hu.row
  have heq :
    q = r := eq_of_key hl.schema hq hr (htask.trans hrow.taskId.symm) (hgen.trans hrow.generation.symm)
  have := hattempt (heq ▸ hrow.isActive)
  rw [hfresh] at this
  cases this

theorem AttemptsInv.begin (h : AttemptsInv db synthesized) (t : TtsRow) :
    AttemptsInv { db with tts := db.tts ++ [t] } synthesized := by
  refine ⟨h.once, fun k hk => ?_⟩
  obtain ⟨r, hr, htask, hgen, hattempt⟩ := h.recorded k hk
  refine ⟨r, hr, htask, hgen, fun hact => ?_⟩
  have hsome := hattempt hact
  simp only [List.find?_isSome] at hsome ⊢
  obtain ⟨x, hx, hp⟩ := hsome
  exact ⟨x, List.mem_append_left _ hx, hp⟩

theorem AttemptsInv.speak (h : AttemptsInv db synthesized) (hu : Underway db claim)
    (hnew : (claim.taskId, claim.generation) ∉ synthesized)
    (hattempt : (db.tts.find? (ttsOf claim.taskId claim.generation)).isSome = true) :
    AttemptsInv db (synthesized ++ [(claim.taskId, claim.generation)]) := by
  refine ⟨?_, fun k hk => ?_⟩
  · refine List.nodup_append.2 ⟨h.once, List.nodup_singleton _, fun a ha b hb => ?_⟩
    rw [List.mem_singleton.1 hb]
    rintro rfl
    exact hnew ha
  · rcases List.mem_append.1 hk with hk | hk
    · exact h.recorded k hk
    · rw [List.mem_singleton.1 hk]
      obtain ⟨r, hr, hrow⟩ := hu.row
      exact ⟨r, hr, hrow.taskId, hrow.generation, fun _ => hattempt⟩

/-! ## Its beginning -/

theorem previousTask_of_query {taskId : String} {u : Option UnreadSummary}
    (h : queryCurrentUnread db taskId = .ok u) :
    ∀ previous ∈ u, previous.taskId = taskId := by
  intro previous hprevious
  rcases queryCurrentUnread_eq_ok h with ⟨rfl, _⟩ | ⟨_, _, _, _, _, _, _, rfl⟩
  · cases hprevious
  · cases hprevious
    rfl

/-- `claim_summary` when no claim is active: nothing changes, or a new claim is under way. -/
theorem claimSummary_quiet (h : LedgerInv db) (hv : RowsValid env db) (hq : Quiet db)
    (ha : AttemptsInv db synthesized)
    {taskId requestId : String} {out : Option SummaryClaimResult}
    (hok : claimSummary env db taskId requestId = .ok (out, db')) :
    (db' = db ∧ ∀ claim, out ≠ some (.claimed claim)) ∨
    ∃ claim, out = some (.claimed claim) ∧ claim.taskId = taskId ∧ RowsValid env db' ∧ Underway db' claim ∧
      AttemptsInv db' synthesized := by
  unfold claimSummary at hok
  simp only [bind_eq_ok] at hok
  obtain ⟨_, hreq, hok⟩ := hok
  split at hok
  · -- the request is known: its row is not active
    rename_i prior hprior
    have hquiet := hq prior (List.mem_of_find?_eq_some hprior)
    unfold replayRequest at hok
    simp only [bind_eq_ok] at hok
    obtain ⟨_, _, hok⟩ := hok
    split at hok
    · cases hok; exact Or.inl ⟨rfl, fun claim heq => by cases heq⟩
    · cases hok; exact Or.inl ⟨rfl, fun claim heq => by cases heq⟩
    · cases hok; exact Or.inl ⟨rfl, fun claim heq => by cases heq⟩
    · cases hok; exact Or.inl ⟨rfl, fun claim heq => by cases heq⟩
    · cases hok
    · rename_i hst; simp [SummaryRow.isActive, hst] at hquiet
    · rename_i hst; simp [SummaryRow.isActive, hst] at hquiet
  split at hok
  · rename_i existing hexisting
    have hact := List.find?_some hexisting
    rw [hq existing (List.mem_of_find?_eq_some hexisting), Bool.and_false] at hact
    cases hact
  unfold insertClaim at hok
  simp only [bind_eq_ok, pure_eq_ok] at hok
  obtain ⟨previous, hprev, cs, hcs, hok⟩ := hok
  split at hok
  · cases hok; exact Or.inl ⟨rfl, fun claim heq => by cases heq⟩
  simp only [bind_eq_ok, ensure_eq_ok, decide_eq_true_eq, writeSummaries_eq_ok,
    Except.ok.injEq, Prod.mk.injEq] at hok
  obtain ⟨_, hmax, db₁, ⟨_, rfl⟩, rfl, rfl⟩ := hok
  obtain ⟨hload, _⟩ := queryPending_load h.completionKeys hcs
  have huuid : ∀ id ∈ cs.map PendingCompletion.completionId, env.isUuid id = true := by
    intro id hid
    obtain ⟨c, hc, rfl⟩ := List.mem_map.1 hid
    exact uuid_of_takePending hcs c hc
  refine Or.inr ⟨_, rfl, rfl, ?_,
    ⟨⟨_, List.mem_append_right _ (List.mem_singleton_self _), rfl, rfl, rfl, rfl, rfl⟩, ?_,
    previousTask_of_query hprev, ?_⟩, ha.once, ?_⟩
  · intro r hr
    rcases List.mem_append.1 hr with hr | hr
    · exact hv r hr
    · rw [List.mem_singleton.1 hr]
      exact ⟨fun q hq => by cases hq; exact hreq, hmax, huuid⟩
  · refine loadCompletions_congr db _ ?_ hload
    rfl
  · intro r hr hact
    rcases List.mem_append.1 hr with hr | hr
    · rw [hq r hr] at hact
      cases hact
    · rw [List.mem_singleton.1 hr]
      refine ⟨rfl, fun p hp => ?_⟩
      rcases queryCurrentUnread_eq_ok hprev with ⟨rfl, _⟩ | ⟨q, hq, hcur, _, _, _, _, rfl⟩
      · cases hp
      · cases hp
        exact ⟨q, List.mem_append_left _ hq, hcur, rfl⟩
  · intro k hk
    obtain ⟨r, hr, htask, hgen, _⟩ := ha.recorded k hk
    refine ⟨r, List.mem_append_left _ hr, htask, hgen, fun hact => ?_⟩
    rw [hq r hr] at hact
    cases hact

/-! ## Restart and resumption -/

theorem not_current_of_active {taskId : String} {r : SummaryRow} (h : r.isActive = true) :
    currentOf taskId r = false := by
  simp only [SummaryRow.isActive, Bool.or_eq_true, beq_iff_eq] at h
  rcases h with h | h <;> simp [currentOf, SummaryRow.isCurrent, SummaryRow.isUnreadState, h]

/-- What a claim relies on survives an update that keeps the current summaries current. -/
theorem Resumable.update {taskId : String} (h : Resumable db taskId) {p : SummaryRow → Bool}
    {f : SummaryRow → SummaryRow}
    (hf : RowUpdate p f) (hcur : ∀ r, p r = true → currentOf taskId r = true →
      currentOf taskId (f r) = true)
    (hs : db'.summaries = updateWhere p f db.summaries) : Resumable db' taskId := by
  have hprevious : ∀ p', (∃ q ∈ db.summaries, currentOf taskId q = true ∧ q.generation = p') →
      ∃ q ∈ db'.summaries, currentOf taskId q = true ∧ q.generation = p' := by
    rintro p' ⟨q, hq, hqcur, hgen⟩
    rw [hs]
    by_cases hp : p q = true
    · exact ⟨f q, mem_updateWhere_of_pos hq hp, hcur q hp hqcur, (hf.key q).2.trans hgen⟩
    · exact ⟨q, mem_updateWhere_of_neg hq (by simpa using hp), hqcur, hgen⟩
  intro r' hr' hact
  rw [hs] at hr'
  rcases mem_updateWhere.1 hr' with ⟨hr, _⟩ | ⟨r, hr, hp, rfl⟩
  · exact ⟨(h r' hr hact).1, fun p' hp' => hprevious p' ((h r' hr hact).2 p' hp')⟩
  · obtain ⟨htask, hprev⟩ := h r hr (hf.active r hp hact).1
    rw [(hf.key r).1, (hf.columns r).2.1]
    exact ⟨htask, fun p' hp' => hprevious p' (hprev p' hp')⟩

theorem Resumable.mark {taskId : String} (h : Resumable db taskId) (m : ClaimMark) {p : SummaryRow → Bool}
    (hp : ∀ r, p r = true → r.isActive = true) (hs : db'.summaries = updateWhere p m.apply db.summaries) :
    Resumable db' taskId :=
  h.update (rowUpdate_mark m hp)
    (fun r hpr hcur => by rw [not_current_of_active (hp r hpr)] at hcur; cases hcur) hs

theorem Resumable.recoverLeases {taskId : String} (h : Resumable db taskId)
    (hs : db'.summaries = updateWhere isLeased unlease db.summaries) : Resumable db' taskId := by
  have hf : RowUpdate isLeased unlease := rowUpdate_unlease fun r hp => by simpa [isLeased] using hp
  refine h.update hf (fun r _ hcur => ?_) hs
  simp only [currentOf, SummaryRow.isCurrent, SummaryRow.isUnreadState, Bool.and_eq_true, decide_eq_true_eq,
    Option.isNone_iff_eq_none] at hcur ⊢
  exact ⟨hcur.1, by simp [unlease, hcur.2.2], hcur.2.2⟩

theorem isGenerating_active (r : SummaryRow) (h : isGenerating r = true) : r.isActive = true := by
  simp only [isGenerating] at h
  simp [SummaryRow.isActive, h]

/-- The first recovery of `StateStore::open` leaves no claim generating. -/
theorem recoverSummaries_eq (h : LedgerInv db) : recoverInterruptedSummaries db =
    .ok (db.summaries.countP isGenerating,
      { db with summaries := updateWhere isGenerating (setState .interrupted) db.summaries }) := by
  have hschema : summarySchema (updateWhere isGenerating (setState .interrupted) db.summaries) :=
    schema_mark h.schema .interrupt isGenerating_active
  unfold recoverInterruptedSummaries
  rw [writeSummaries_eq_ok.2 ⟨hschema, rfl⟩]
  rfl

theorem interrupted_of_active {r : SummaryRow}
    (h : r ∈ updateWhere isGenerating (setState .interrupted) db.summaries)
    (hact : r.isActive = true) : r.state = .interrupted := by
  rcases mem_updateWhere.1 h with ⟨_, hnot⟩ | ⟨r, _, _, rfl⟩
  · simp only [isGenerating, beq_eq_false_iff_ne, ne_eq] at hnot
    simp only [SummaryRow.isActive, Bool.or_eq_true, beq_iff_eq] at hact
    exact hact.resolve_left hnot
  · rfl

/-- The claim `resume_interrupted_summary` hands out. -/
theorem resume_eq_ok {taskId : String} {out : SummaryClaim}
    (hok : resumeInterruptedSummary env db taskId = .ok (some out, db')) :
    ∃ r ∈ db.summaries, r.taskId = taskId ∧ r.state = .interrupted ∧ r.claimId = some out.requestId ∧
      db' = resumedDb db taskId r.generation out.requestId ∧ out.taskId = taskId ∧
      out.generation = r.generation ∧
      loadCompletions db' taskId 0 r.coversCompletions = .ok out.completions ∧
      loadPreviousUnread db' taskId r.previousGeneration = .ok out.previousUnread := by
  unfold resumeInterruptedSummary at hok
  simp only [bind_eq_ok] at hok
  obtain ⟨_, _, hok⟩ := hok
  split at hok
  · cases hok
  rename_i r hr
  split at hok
  · cases hok
  rename_i requestId hclaim
  simp only [bind_eq_ok, writeSummaries_eq_ok, pure_eq_ok,
    Except.ok.injEq, Prod.mk.injEq, Option.some.injEq] at hok
  obtain ⟨db₁, ⟨_, rfl⟩, _, _, claim, hload, rfl, rfl⟩ := hok
  unfold loadSummaryClaim at hload
  simp only [bind_eq_ok, pure_eq_ok, Except.ok.injEq] at hload
  obtain ⟨_, _, _, _, cs, hcs, previous, hprevious, rfl⟩ := hload
  have hfound := List.find?_some hr
  simp only [interruptedOf, decide_eq_true_eq] at hfound
  exact ⟨r, List.mem_of_find?_eq_some hr, hfound.1, hfound.2, hclaim, rfl, rfl, rfl, hcs, hprevious⟩

/-- After a restart the claim that was under way goes on, or there is none. -/
theorem resume_resumable (h : LedgerInv db) (hv : RowsValid env db) (ha : AttemptsInv db synthesized)
    {taskId : String}
    (hr : Resumable db taskId) (hint : ∀ r ∈ db.summaries, r.isActive = true → r.state = .interrupted) :
    (Quiet db ∧ ∀ out db', resumeInterruptedSummary env db taskId = .ok (out, db') → out = none ∧
      db' = db) ∨
    ∃ claim db', resumeInterruptedSummary env db taskId = .ok (some claim, db') ∧ claim.taskId = taskId ∧
      RowsValid env db' ∧ Underway db' claim ∧ AttemptsInv db' synthesized := by
  by_cases hex : ∃ r ∈ db.summaries, r.isActive = true
  · right
    obtain ⟨r, hmem, hact⟩ := hex
    have hst := hint r hmem hact
    obtain ⟨htask, hprev⟩ := hr r hmem hact
    have hinv := h.active r hmem hact
    obtain ⟨requestId, hclaim⟩ : ∃ requestId, r.claimId = some requestId := by
      rcases (h.schema.2 r hmem).2.2.2 with ⟨_, hsome, _⟩ | ⟨hst', _⟩ | ⟨hst', _⟩
      · exact Option.isSome_iff_exists.1 hsome
      · rw [hst] at hst'; cases hst'
      · simp [SummaryRow.isPublished, SummaryRow.isUnreadState, hst] at hst'
    have huuid : env.isUuid taskId = true := by
      have := (hv r hmem).request requestId (by rw [← hinv.claimId, hclaim]; rfl)
      unfold validateSummaryRequest at this
      simp only [ensure_eq_ok, decide_eq_true_eq] at this
      exact htask ▸ this.1
    obtain ⟨cs, hresume⟩ := resume_eq env h huuid hmem htask hst hclaim
    obtain ⟨u, hu⟩ := loadPrevious_of_current h hprev r.generation requestId
    rw [hu] at hresume
    refine ⟨_, _, hresume, rfl, ?_⟩
    obtain ⟨r', hmem', htask', hst', _, _, _, hgen', hload, hprevious⟩ := resume_eq_ok hresume
    have hsame :
      r' = r := eq_of_active h.schema hmem' hmem (htask'.trans htask.symm)
      (isActive_of_interrupted hst') hact
    rw [hsame] at hload
    have hmark : (resumedDb db taskId r.generation requestId).summaries =
      updateWhere (interruptedClaim taskId r.generation requestId) ClaimMark.resume.apply
        db.summaries := rfl
    have hactive : ∀ q, interruptedClaim taskId r.generation requestId q = true → q.isActive = true :=
      fun q => interruptedClaim_active
    have hids := (pending_of_load hload).1
    have hself : interruptedClaim taskId r.generation requestId r = true := by
      simp [interruptedClaim, htask, hst, hclaim]
    refine ⟨fun q hq => ?_,
      ⟨⟨setState .generating r, mem_updateWhere_of_pos hmem hself, htask, rfl, rfl, ?_, hids.symm⟩,
      ?_, ?_, ?_⟩, ?_⟩
    · obtain ⟨q₀, hq₀, hsame⟩ :=
        (sameClaim_update (sameClaim_rowUpdate (rowUpdate_mark .resume hactive))).2 q hq
      exact (hv q₀ hq₀).same hsame
    · show r.requestId = some requestId
      rw [← hinv.claimId, hclaim]
    · show loadCompletions _ taskId 0 (cs.map PendingCompletion.completionId) = .ok cs
      rw [hids]
      exact hload
    · show ∀ previous ∈ u, previous.taskId = taskId
      cases hp : r.previousGeneration with
      | none =>
        rw [hp] at hu
        cases hu
        intro previous hprevious
        cases hprevious
      | some p =>
        rw [hp] at hu
        unfold loadPreviousUnread at hu
        simp only [bind_eq_ok, pure_eq_ok, Except.ok.injEq] at hu
        obtain ⟨current, hcurrent, _, _, rfl⟩ := hu
        exact previousTask_of_query hcurrent
    · exact hr.mark .resume hactive hmark
    · exact ha.update (rowUpdate_mark .resume hactive) hmark rfl
  · left
    have hq : Quiet db := by
      intro r hmem
      by_contra hact
      exact hex ⟨r, hmem, by simpa using hact⟩
    refine ⟨hq, fun out db' hok => ?_⟩
    cases out with
    | none =>
      unfold resumeInterruptedSummary at hok
      simp only [bind_eq_ok] at hok
      obtain ⟨_, _, hok⟩ := hok
      split at hok
      · cases hok
        exact ⟨rfl, rfl⟩
      split at hok
      · cases hok
      · simp only [bind_eq_ok, pure_eq_ok, Except.ok.injEq, Prod.mk.injEq] at hok
        obtain ⟨_, _, _, _, _, _, hnone, _⟩ := hok
        cases hnone
    | some claim =>
      obtain ⟨r, hmem, _, hst, _⟩ := resume_eq_ok hok
      have := hq r hmem
      simp [SummaryRow.isActive, hst] at this

end CodexKeyboard.Summary
