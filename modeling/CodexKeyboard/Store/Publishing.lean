import CodexKeyboard.Store.Ledger
/-!
# What a publication writes

`publish_summary` (store.rs:1017) checks the claim of its caller against the rows as they are now.
`Published` says what it writes when it answers `Ok`, row by row; when it answers `Err` nothing is
written (`publication_exact`).

| here | there |
| --- | --- |
| `carried` | the two `UPDATE completion_ledger` (store.rs:1087, 1110) |
| `publishedRow` | the two `UPDATE summary_ledger` (store.rs:1069, 1127) |
-/

namespace CodexKeyboard.Store

open Lib

/-- The completions of the claim, and those that the previous unread summary of the claim carries. -/
def carried (claim : SummaryClaim) (c : CompletionRow) : Bool :=
  (claim.completions.any fun p => isClaimedCompletion claim.taskId p c)
    || claim.previousUnread.any fun previous => coveredBy claim.taskId previous.generation c

/-- The row of the claim is unheard, the previous one is superseded or stays leased. -/
def publishedRow (claim : SummaryClaim) (cacheObject : String) (r : SummaryRow) : SummaryRow :=
  if r.taskId = claim.taskId ∧ r.generation = claim.generation then setUnheard cacheObject r
  else if r.taskId = claim.taskId ∧
  claim.previousUnread.map UnreadSummary.generation = some r.generation then
    supersede claim.generation r
  else r

/-- What a publication has done. -/
structure Published (db : StoreDb) (claim : SummaryClaim) (cacheObject : String) (u : UnreadSummary)
    (db' : StoreDb) :
    Prop where
  claimRow : ∃ r ∈ db.summaries, generatingClaim claim.taskId claim.generation claim.requestId r = true ∧
    r.previousGeneration = claim.previousUnread.map UnreadSummary.generation ∧
    r.coversCompletions = claim.completions.map PendingCompletion.completionId
  previousRow : ∀ previous ∈ claim.previousUnread, ∃ r ∈ db.summaries, currentOf claim.taskId r = true ∧
    r.generation = previous.generation ∧ r.generation ≠ claim.generation
  pending : ∀ p ∈ claim.completions, ∃ c ∈ db.completions, c.completionId = p.completionId ∧
    c.taskId = claim.taskId ∧
    c.turnPack = p.turnPack ∧ c.summarizedGeneration = none
  distinct : (claim.completions.map PendingCompletion.completionId).Nodup
  fresh : ∀ c ∈ db.completions, coveredBy claim.taskId claim.generation c = false
  completions : db'.completions = updateWhere (carried claim) (cover claim.generation) db.completions
  summaries : db'.summaries = db.summaries.map (publishedRow claim cacheObject)
  speech : db'.tts = deleteWhere (ttsOf claim.taskId claim.generation) db.tts
  others : db'.bindings = db.bindings ∧ db'.cursors = db.cursors ∧ db'.leases = db.leases
  answer : u = ⟨claim.taskId, claim.generation, cacheObject,
    db'.completions.countP (coveredBy claim.taskId claim.generation)⟩

section
variable {env : Crates} {db db' : StoreDb} {claim : SummaryClaim} {cacheObject : String} {u : UnreadSummary}

theorem isClaimedCompletion_iff {taskId : String} {p : PendingCompletion} {c : CompletionRow} :
    isClaimedCompletion taskId p c = true ↔ c.completionId = p.completionId ∧ c.taskId = taskId ∧
      c.turnPack = p.turnPack ∧ c.summarizedGeneration = none := by
  simp only [isClaimedCompletion, isPendingOf, Bool.and_eq_true,
    decide_eq_true_eq, Option.isNone_iff_eq_none]
  constructor
  · rintro ⟨⟨hid, hpack⟩, htask, hnone⟩
    exact ⟨hid, htask, hpack, hnone⟩
  · rintro ⟨hid, htask, hpack, hnone⟩
    exact ⟨⟨hid, hpack⟩, htask, hnone⟩

/-- A covered completion is not pending. -/
theorem isClaimedCompletion_cover (taskId : String) (generation : Nat) (p : PendingCompletion)
    (c : CompletionRow) :
    isClaimedCompletion taskId p (cover generation c) = false := by
  by_contra h
  obtain ⟨-, -, -, hnone⟩ := isClaimedCompletion_iff.1 (eq_true_of_ne_false h)
  cases hnone

/-- Two updates to the same value, the second of rows that the first leaves alone. -/
theorem updateWhere_updateWhere {α : Type} {p q : α → Bool} {f : α → α} {t : List α}
    (h : ∀ r ∈ t, p r = true → q (f r) = false) :
    updateWhere q f (updateWhere p f t) = updateWhere (fun r => p r || q r) f t := by
  rw [updateWhere, updateWhere, updateWhere, List.map_map]
  apply List.map_congr_left
  intro r hr
  by_cases hp : p r = true
  · simp [hp, h r hr hp]
  · simp [hp]

/-! ## The completions of the claim -/

/-- The completions of the claim are rows of their own, all pending, and exactly they are covered. -/
theorem coverAll_exact {taskId : String} {generation : Nat} :
    ∀ {cs : List PendingCompletion} {db db' : StoreDb},
    (db.completions.Pairwise fun a b => a.completionId ≠ b.completionId) →
    cs.foldlM (coverOne taskId generation) db = .ok db' →
    (∀ p ∈ cs, ∃ c ∈ db.completions, isClaimedCompletion taskId p c = true) ∧
    (cs.map PendingCompletion.completionId).Nodup ∧
    db' = { db with
      completions := updateWhere (fun c => cs.any fun p => isClaimedCompletion taskId p c)
        (cover generation)
        db.completions }
  | [], db, db', _, h => by
    cases h
    refine ⟨fun p hp => absurd hp List.not_mem_nil, List.nodup_nil, ?_⟩
    simp [updateWhere]
  | p :: cs, db, db', hkeys, h => by
    simp only [List.foldlM_cons, bind_eq_ok] at h
    obtain ⟨db₁, hone, hrest⟩ := h
    unfold coverOne at hone
    simp only [bind_eq_ok, ensure_eq_ok, decide_eq_true_eq, pure_eq_ok, Except.ok.injEq] at hone
    obtain ⟨_, hcount, rfl⟩ := hone
    obtain ⟨c, hc, hclaimed⟩ := List.countP_pos_iff.1 (by rw [hcount]; exact Nat.one_pos)
    have hkeys' : (updateWhere (isClaimedCompletion taskId p) (cover generation) db.completions).Pairwise
        fun a b => a.completionId ≠ b.completionId := by
      apply pairwise_updateWhere hkeys
      intro a _ b _ hab
      split <;> split <;> exact hab
    obtain ⟨hpending, hnodup, hdb'⟩ := coverAll_exact hkeys' hrest
    -- a row that a later completion takes was not taken by the first
    have hlater : ∀ q ∈ cs, ∃ c' ∈ db.completions, isClaimedCompletion taskId q c' = true ∧
        isClaimedCompletion taskId p c' = false := by
      intro q hq
      obtain ⟨c', hc', hclaimed'⟩ := hpending q hq
      rcases mem_updateWhere.1 hc' with ⟨hmem, hother⟩ | ⟨c₀, _, _, rfl⟩
      · exact ⟨c', hmem, hclaimed', hother⟩
      · rw [isClaimedCompletion_cover] at hclaimed'
        cases hclaimed'
    refine ⟨?_, ?_, ?_⟩
    · intro q hq
      rcases List.mem_cons.1 hq with rfl | hq
      · exact ⟨c, hc, hclaimed⟩
      · obtain ⟨c', hmem, hclaimed', -⟩ := hlater q hq
        exact ⟨c', hmem, hclaimed'⟩
    · rw [List.map_cons, List.nodup_cons]
      refine ⟨fun hmem => ?_, hnodup⟩
      obtain ⟨q, hq, hid⟩ := List.mem_map.1 hmem
      obtain ⟨c', hmem', hclaimed', hother⟩ := hlater q hq
      have hsame : c'.completionId = c.completionId := by
        rw [(isClaimedCompletion_iff.1 hclaimed').1, (isClaimedCompletion_iff.1 hclaimed).1, hid]
      have hrow : c' = c := by
        by_contra hne
        exact rel_of_pairwise (fun _ _ h => Ne.symm h) hkeys hmem' hc hne hsame
      rw [hrow, hclaimed] at hother
      cases hother
    · rw [hdb']
      congr 1
      rw [updateWhere_updateWhere]
      · simp only [List.any_cons]
      · intro c' _ _
        simp [isClaimedCompletion_cover]

/-! ## The previous unread summary -/

/-- The completions that pass on from the previous summary. -/
def passedOn (claim : SummaryClaim) (c : CompletionRow) : Bool :=
  claim.previousUnread.any fun previous => coveredBy claim.taskId previous.generation c

/-- The row of the previous summary. -/
def isPrevious (claim : SummaryClaim) (r : SummaryRow) : Bool :=
  currentOf claim.taskId r && decide (claim.previousUnread.map UnreadSummary.generation = some r.generation)

theorem taskId_of_passedOn {c : CompletionRow} (h : passedOn claim c = true) : c.taskId = claim.taskId := by
  unfold passedOn at h
  cases hprevious : claim.previousUnread with
  | none =>
    rw [hprevious] at h
    cases h
  | some previous =>
    rw [hprevious, Option.any_some, coveredBy, decide_eq_true_eq] at h
    exact h.1

theorem supersedePrevious_exact {generation n : Nat}
    (h : supersedePrevious db claim generation = .ok (n, db')) :
    (∀ previous ∈ claim.previousUnread, ∃ r ∈ db.summaries, currentOf claim.taskId r = true ∧
      r.generation = previous.generation) ∧
    n = db.completions.countP (passedOn claim) ∧
    db' = { db with
      summaries := updateWhere (isPrevious claim) (supersede generation) db.summaries
      completions := updateWhere (passedOn claim) (cover generation) db.completions } := by
  unfold supersedePrevious at h
  simp only [bind_eq_ok] at h
  obtain ⟨current, hcurrent, h⟩ := h
  split at h
  · rename_i previous hprevious
    simp only [bind_eq_ok, ensure_eq_ok, decide_eq_true_eq, toI64_eq_ok, writeSummaries_eq_ok, pure_eq_ok,
      Except.ok.injEq, Prod.mk.injEq] at h
    obtain ⟨_, rfl, _, ⟨_, rfl⟩, db₁, ⟨_, rfl⟩, _, _, _, _, rfl, rfl⟩ := h
    rcases queryCurrentUnread_eq_ok hcurrent with ⟨hcontra, _⟩ | ⟨q, hq, hcur, object, _, _, hle, hread⟩
    · cases hcontra
    cases hread
    have htask : q.taskId = claim.taskId := by
      simp only [currentOf, Bool.and_eq_true, decide_eq_true_eq] at hcur
      exact hcur.1
    have hmoved : passedOn claim = coveredBy claim.taskId q.generation := by
      funext c
      rw [passedOn, hprevious, Option.any_some]
    have hrow :
      isPrevious claim = fun r => currentOf claim.taskId r && decide (r.generation = q.generation) := by
      funext r
      rw [isPrevious, hprevious, Option.map_some]
      simp only [Option.some.injEq, eq_comm]
    refine ⟨?_, ?_, ?_⟩
    · intro previous hmem
      rw [hprevious] at hmem
      cases hmem
      exact ⟨q, hq, hcur, rfl⟩
    · rw [hmoved, ← htask]
      exact Nat.mod_eq_of_lt (Nat.lt_succ_of_le hle)
    · rw [hmoved, hrow]
  · rename_i hprevious
    simp only [bind_eq_ok, ensure_eq_ok, pure_eq_ok, Except.ok.injEq, Prod.mk.injEq] at h
    obtain ⟨_, hnone, rfl, rfl⟩ := h
    have hmoved : ∀ c, passedOn claim c = false := fun c => by rw [passedOn, hprevious, Option.any_none]
    have hrow : ∀ r, isPrevious claim r = false := fun r => by simp [isPrevious, hprevious]
    refine ⟨?_, ?_, ?_⟩
    · intro previous hmem
      rw [hprevious] at hmem
      cases hmem
    · exact (List.countP_eq_zero.2 fun c _ => by simp [hmoved c]).symm
    · rw [updateWhere_none fun r _ => hrow r, updateWhere_none fun c _ => hmoved c]

/-! ## The whole call -/

theorem previousGenerationOf_eq_ok {expected : Option Nat} (h : previousGenerationOf claim = .ok expected) :
    expected = claim.previousUnread.map UnreadSummary.generation := by
  unfold previousGenerationOf at h
  split at h
  · rename_i previous hprevious
    simp only [bind_eq_ok, toI64_eq_ok, pure_eq_ok, Except.ok.injEq] at h
    obtain ⟨_, ⟨_, rfl⟩, rfl⟩ := h
    rw [hprevious, Option.map_some]
  · rename_i hprevious
    cases h
    rw [hprevious, Option.map_none]

/-- The row that is still generating carries nothing. -/
theorem coveredBy_generating (hl : LedgerInv db) {taskId requestId : String} {generation : Nat}
    {stored : SummaryRow}
    (hstored : stored ∈ db.summaries) (hgen : generatingClaim taskId generation requestId stored = true) :
    ∀ c ∈ db.completions, coveredBy taskId generation c = false := by
  intro c hc
  by_contra hcovered
  simp only [Bool.not_eq_false, coveredBy, decide_eq_true_eq] at hcovered
  simp only [generatingClaim, decide_eq_true_eq] at hgen
  obtain ⟨r, hr, htask, hg, hstate, -⟩ := hl.covered c hc _ hcovered.2
  have hsame :=
    eq_of_key hl.schema hr hstored (htask.trans (hcovered.1.trans hgen.1.symm)) (hg.trans hgen.2.1.symm)
  rw [hsame, hgen.2.2.1] at hstate
  simp at hstate

/-- The two updates of the ledger of summaries change two rows. -/
theorem publishedRow_eq (hs : summarySchema db.summaries) {stored : SummaryRow}
    (hstored : stored ∈ db.summaries)
    (hgen : generatingClaim claim.taskId claim.generation claim.requestId stored = true)
    (hprevious : ∀ previous ∈ claim.previousUnread, ∃ r ∈ db.summaries, currentOf claim.taskId r = true ∧
      r.generation = previous.generation) :
    updateWhere (generatingClaim claim.taskId claim.generation claim.requestId) (setUnheard cacheObject)
        (updateWhere (isPrevious claim) (supersede claim.generation) db.summaries) =
      db.summaries.map (publishedRow claim cacheObject) := by
  have hkey := hgen
  simp only [generatingClaim, decide_eq_true_eq] at hkey
  obtain ⟨htask, hgeneration, hstate, -⟩ := hkey
  rw [updateWhere, updateWhere, List.map_map]
  apply List.map_congr_left
  intro r hr
  rw [Function.comp_apply, publishedRow]
  by_cases hclaim : r.taskId = claim.taskId ∧ r.generation = claim.generation
  · have hrow : r = stored :=
      eq_of_key hs hr hstored (hclaim.1.trans htask.symm) (hclaim.2.trans hgeneration.symm)
    have hnot : isPrevious claim r = false := by
      rw [hrow]
      simp [isPrevious, currentOf, SummaryRow.isCurrent, SummaryRow.isUnreadState, hstate]
    rw [if_pos hclaim, hnot, if_neg Bool.false_ne_true, hrow, if_pos hgen]
  · rw [if_neg hclaim]
    have hother : ∀ r' : SummaryRow, r'.taskId = r.taskId → r'.generation = r.generation →
        generatingClaim claim.taskId claim.generation claim.requestId r' = false := by
      intro r' htask' hgeneration'
      by_contra hgen'
      simp only [Bool.not_eq_false, generatingClaim, decide_eq_true_eq] at hgen'
      exact hclaim ⟨htask' ▸ hgen'.1, hgeneration' ▸ hgen'.2.1⟩
    by_cases hold :
      r.taskId = claim.taskId ∧ claim.previousUnread.map UnreadSummary.generation = some r.generation
    · obtain ⟨previous, hmem, hsame⟩ := Option.map_eq_some_iff.1 hold.2
      obtain ⟨q, hq, hcur, hqgen⟩ := hprevious previous hmem
      have hqtask : q.taskId = claim.taskId := by
        simp only [currentOf, Bool.and_eq_true, decide_eq_true_eq] at hcur
        exact hcur.1
      have hrow : r = q := eq_of_key hs hr hq (hold.1.trans hqtask.symm) (hsame.symm.trans hqgen.symm)
      have hprev : isPrevious claim r = true := by
        rw [isPrevious, Bool.and_eq_true, decide_eq_true_eq]
        exact ⟨hrow ▸ hcur, hold.2⟩
      rw [if_pos hold, if_pos hprev, hother (supersede claim.generation r) rfl rfl,
        if_neg Bool.false_ne_true]
    · have hnot : isPrevious claim r = false := by
        by_contra hprev
        rw [Bool.not_eq_false, isPrevious, Bool.and_eq_true, decide_eq_true_eq] at hprev
        simp only [currentOf, Bool.and_eq_true, decide_eq_true_eq] at hprev
        exact hold ⟨hprev.1.1, hprev.2⟩
      rw [if_neg hold, hnot, if_neg Bool.false_ne_true, hother r rfl rfl, if_neg Bool.false_ne_true]

theorem published_of_ok (hl : LedgerInv db) (h : publishSummary env db claim cacheObject = .ok (u, db')) :
    Published db claim cacheObject u db' := by
  unfold publishSummary at h
  simp only [bind_eq_ok, ensure_eq_ok, toI64_eq_ok] at h
  obtain ⟨_, _, _, _, g, ⟨_, rfl⟩, h⟩ := h
  split at h
  · cases h
  rename_i stored hfound
  simp only [bind_eq_ok, ensure_eq_ok, decide_eq_true_eq, writeSummaries_eq_ok, pure_eq_ok, Except.ok.injEq,
    Prod.mk.injEq] at h
  obtain ⟨expected, hexpected, _, hclaim, ⟨n, db₁⟩, hprev, db₂,
    hcover, db₃, ⟨_, rfl⟩, _, _, _, _, rfl, rfl⟩ := h
  have hstored := List.mem_of_find?_eq_some hfound
  have hgen := List.find?_some hfound
  obtain ⟨hprevious, hn, rfl⟩ := supersedePrevious_exact hprev
  have hfresh := coveredBy_generating hl hstored hgen
  have hkeys : (updateWhere (passedOn claim) (cover claim.generation) db.completions).Pairwise
      fun a b => a.completionId ≠ b.completionId := by
    apply pairwise_updateWhere hl.completionKeys
    intro a _ b _ hab
    split <;> split <;> exact hab
  obtain ⟨hpending, hdistinct, hdb₂⟩ := coverAll_exact hkeys hcover
  obtain ⟨move, hdb₂', -, hcount⟩ := coverAll_eq_ok hcover
  -- a pending completion does not pass on from the previous summary
  have hkept :
    ∀ p ∈ claim.completions, ∃ c ∈ db.completions, isClaimedCompletion claim.taskId p c = true := by
    intro p hp
    obtain ⟨c, hc, hclaimed⟩ := hpending p hp
    rcases mem_updateWhere.1 hc with ⟨hmem, -⟩ | ⟨c₀, _, _, rfl⟩
    · exact ⟨c, hmem, hclaimed⟩
    · rw [isClaimedCompletion_cover] at hclaimed
      cases hclaimed
  have hcompletions :
    db₂.completions = updateWhere (carried claim) (cover claim.generation) db.completions := by
    rw [hdb₂]
    show updateWhere _ _ (updateWhere _ _ _) = _
    rw [updateWhere_updateWhere fun c _ _ => by simp [isClaimedCompletion_cover]]
    congr 1
    funext c
    rw [carried, Bool.or_comm]
    rfl
  have hcovered :
    db₂.completions.countP (coveredBy claim.taskId claim.generation) = n + claim.completions.length := by
    have hadd :=
      countP_updateWhere_add (t := db.completions) (p := passedOn claim) (f := cover claim.generation)
      (q := coveredBy claim.taskId claim.generation) fun c hc hpassed => by
        exact ⟨by simp [coveredBy, cover, taskId_of_passedOn hpassed], hfresh c hc⟩
    have hzero : db.completions.countP (coveredBy claim.taskId claim.generation) = 0 :=
      List.countP_eq_zero.2 fun c hc => by simp [hfresh c hc]
    rw [hdb₂', hcount, hadd, hzero, Nat.zero_add, hn]
  refine ⟨⟨stored, hstored, hgen, ?_, ?_⟩, ?_, ?_, hdistinct, hfresh, hcompletions, ?_, ?_, ?_, ?_⟩
  · rw [hclaim.1, previousGenerationOf_eq_ok hexpected]
  · exact hclaim.2
  · intro previous hmem
    obtain ⟨r, hr, hcur, hgeneration⟩ := hprevious previous hmem
    refine ⟨r, hr, hcur, hgeneration, fun hsame => ?_⟩
    simp only [currentOf, SummaryRow.isCurrent, SummaryRow.isUnreadState,
      Bool.and_eq_true, decide_eq_true_eq] at hcur
    simp only [generatingClaim, decide_eq_true_eq] at hgen
    rw [eq_of_key hl.schema hr hstored (hcur.1.trans hgen.1.symm) (hsame.trans hgen.2.1.symm),
      hgen.2.2.1] at hcur
    simp at hcur
  · intro p hp
    obtain ⟨c, hc, hclaimed⟩ := hkept p hp
    exact ⟨c, hc, isClaimedCompletion_iff.1 hclaimed⟩
  · rw [hdb₂']
    exact publishedRow_eq hl.schema hstored hgen hprevious
  · rw [hdb₂']
    rfl
  · rw [hdb₂']
    exact ⟨rfl, rfl, rfl⟩
  · rw [← hcovered]
    rfl

end

/-- **A publication is exact.** In every reachable store `publish_summary` answers `Err` and changes
nothing, or it answers `Ok` and has written what `Published` says. -/
theorem publication_exact (env : Crates) (ops : List StoreOp) (claim : SummaryClaim)
    (cacheObject : String) :
    (∃ e, storeStep env (storeAfter env ops) (.publishSummary claim cacheObject) =
      (.publish (.error e), storeAfter env ops)) ∨
      ∃ u db', storeStep env (storeAfter env ops) (.publishSummary claim cacheObject) =
        (.publish (.ok u), db') ∧
        Published (storeAfter env ops) claim cacheObject u db' := by
  have hl := (inv_storeAfter env ops).ledger
  cases hbody : publishSummary env (storeAfter env ops) claim cacheObject with
  | error e =>
    left
    refine ⟨e, ?_⟩
    rw [storeStep, hbody]
    rfl
  | ok result =>
    right
    obtain ⟨u, db'⟩ := result
    refine ⟨u, db', ?_, published_of_ok hl hbody⟩
    rw [storeStep, hbody]
    rfl

end CodexKeyboard.Store
