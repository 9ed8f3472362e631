import CodexKeyboard.Store.Effects
/-!
# What every reachable store satisfies

`StoreInv` is preserved by every `Effect` (`inv_effect`), so it holds after every run
(`inv_storeAfter`). Most effects change the state of rows and nothing else: `RowUpdate` says which
such updates are harmless, and `ledger_update` covers them all. Publication is the one that moves
completions.
-/

namespace CodexKeyboard.Store

open Lib

/-- Published and not superseded. -/
def SummaryRow.Standing (r : SummaryRow) : Prop :=
  (r.state = .unheard ∨ r.state = .leased ∨ r.state = .heard) ∧ r.supersededBy = none

/-- What an active claim relies on to be loaded again. -/
structure ClaimInv (db : StoreDb) (r : SummaryRow) : Prop where
  claimId : r.claimId = r.requestId
  covers : r.coversCompletions ≠ [] ∧ r.coversCompletions.length ≤ maxSummaryCompletionsPerClaim
  load : ∃ cs, loadCompletions db r.taskId 0 r.coversCompletions = .ok cs
  previous : ∀ p ∈ r.previousGeneration, ∃ q ∈ db.summaries, q.taskId = r.taskId ∧ q.generation = p ∧
    q.Standing
  current : ∀ q ∈ db.summaries, currentOf r.taskId q = true → r.previousGeneration = some q.generation

/-- The invariants of the summary and completion ledgers. -/
structure LedgerInv (db : StoreDb) : Prop where
  schema : summarySchema db.summaries
  completionKeys : db.completions.Pairwise fun a b => a.completionId ≠ b.completionId
  covered : CoveredByPublished db
  unread : ∀ r ∈ db.summaries, r.isCurrent = true → r.cacheObject.isSome = true ∧
    0 < db.completions.countP (coveredBy r.taskId r.generation) ∧
    db.completions.countP (coveredBy r.taskId r.generation) ≤ u32Max
  superseded : ∀ r ∈ db.summaries, r.supersededBy.isSome = true →
    r.state = .leased ∨ r.state = .heard ∨ r.state = .superseded
  active : ∀ r ∈ db.summaries, r.isActive = true → ClaimInv db r

/-- Some row with this key is leased. -/
def LeasedKey (rows : List SummaryRow) (taskId : String) (generation : Nat) : Prop :=
  ∃ r ∈ rows, r.taskId = taskId ∧ r.generation = generation ∧ r.state = .leased

/-- The lease table and the leased rows name the same summaries. -/
structure LeaseInv (db : StoreDb) : Prop where
  keys : db.leases.Pairwise fun a b => a.leaseId ≠ b.leaseId ∧
    ¬(a.taskId = b.taskId ∧ a.summaryGeneration = b.summaryGeneration)
  leased : ∀ taskId generation, LeasedKey db.summaries taskId generation ↔
    ∃ l ∈ db.leases, l.taskId = taskId ∧ l.summaryGeneration = generation

structure StoreInv (db : StoreDb) : Prop where
  ledger : LedgerInv db
  lease : LeaseInv db

theorem inv_emptyStore : StoreInv .empty where
  ledger := by
    refine ⟨⟨.nil, ?_⟩, .nil, ?_, ?_, ?_, ?_⟩ <;> simp [StoreDb.empty, CoveredByPublished]
  lease := ⟨.nil, by simp [StoreDb.empty, LeasedKey]⟩

/-! ## Loading a claim again -/

section
variable {db db' : StoreDb} {op : StoreOp}

theorem findCompletion_eq_some (hkeys : db.completions.Pairwise fun a b => a.completionId ≠ b.completionId)
    {completionId taskId : String} {c : CompletionRow} :
    findCompletion db completionId taskId = some c ↔
      c ∈ db.completions ∧ c.completionId = completionId ∧ c.taskId = taskId := by
  constructor
  · intro h
    have := List.find?_some h
    simp only [decide_eq_true_eq] at this
    exact ⟨List.mem_of_find?_eq_some h, this⟩
  · rintro ⟨hc, hid, htask⟩
    cases hf : findCompletion db completionId taskId with
    | none => simpa [hid, htask] using List.find?_eq_none.1 hf c hc
    | some c' =>
      have h' := List.find?_some hf
      simp only [decide_eq_true_eq] at h'
      by_contra hne
      exact rel_of_pairwise (fun _ _ h => Ne.symm h) hkeys (List.mem_of_find?_eq_some hf) hc
        (fun h => hne (by rw [h])) (h'.1.trans hid.symm)

/-- A claim whose completions are still there as they were loads as before. -/
theorem loadCompletions_frame {taskId : String}
    (h : ∀ completionId c, findCompletion db completionId taskId = some c →
      findCompletion db' completionId taskId = some c) :
    ∀ {ids : List String} {totalBytes : Nat} {cs : List PendingCompletion},
      loadCompletions db taskId totalBytes ids = .ok cs → loadCompletions db' taskId totalBytes ids = .ok cs
  | [], _, _, hload => hload
  | completionId :: ids, totalBytes, cs, hload => by
    unfold loadCompletions at hload ⊢
    cases hf : findCompletion db completionId taskId with
    | none => simp [hf] at hload
    | some c =>
      simp only [hf, h _ _ hf, bind_eq_ok, ensure_eq_ok, pure_eq_ok] at hload ⊢
      obtain ⟨u, hpend, v, hpack, rest, hrest, hcs⟩ := hload
      exact ⟨u, hpend, v, hpack, rest, loadCompletions_frame h hrest, hcs⟩

theorem load_frame (hkeys : db.completions.Pairwise fun a b => a.completionId ≠ b.completionId)
    (hkeys' : db'.completions.Pairwise fun a b => a.completionId ≠ b.completionId) {taskId : String}
    {ids : List String}
    (h : ∀ c ∈ db.completions, c.taskId = taskId → c ∈ db'.completions)
    (hload : ∃ cs, loadCompletions db taskId 0 ids = .ok cs) :
    ∃ cs, loadCompletions db' taskId 0 ids = .ok cs := by
  obtain ⟨cs, hcs⟩ := hload
  refine ⟨cs, loadCompletions_frame (fun completionId c hf => ?_) hcs⟩
  obtain ⟨hc, hid, htask⟩ := (findCompletion_eq_some hkeys).1 hf
  exact (findCompletion_eq_some hkeys').2 ⟨h c hc htask, hid, htask⟩

/-! ## Updates of the state column -/

/-- An update of rows that gives no claim back and takes no standing summary away. -/
structure RowUpdate (p : SummaryRow → Bool) (f : SummaryRow → SummaryRow) : Prop where
  key : ∀ r, (f r).taskId = r.taskId ∧ (f r).generation = r.generation
  columns : ∀ r, (f r).coversCompletions = r.coversCompletions ∧
    (f r).previousGeneration = r.previousGeneration ∧
    (f r).requestId = r.requestId ∧ (f r).cacheObject = r.cacheObject ∧ (f r).supersededBy = r.supersededBy
  standing : ∀ r, p r = true → r.Standing → (f r).Standing
  current : ∀ r, p r = true → (f r).isCurrent = true → r.isCurrent = true
  active : ∀ r, p r = true → (f r).isActive = true → r.isActive = true ∧ (f r).claimId = r.claimId
  superseded : ∀ r, p r = true → r.supersededBy.isSome = true →
    (r.state = .leased ∨ r.state = .heard ∨ r.state = .superseded) →
    ((f r).state = .leased ∨ (f r).state = .heard ∨ (f r).state = .superseded)

/-- A standing row stands after the update. -/
theorem standing_update {p : SummaryRow → Bool} {f : SummaryRow → SummaryRow} (hf : RowUpdate p f)
    {rows : List SummaryRow}
    {r : SummaryRow} (hr : r ∈ rows) (h : r.Standing) :
    ∃ r' ∈ updateWhere p f rows, r'.taskId = r.taskId ∧ r'.generation = r.generation ∧ r'.Standing := by
  by_cases hp : p r = true
  · exact ⟨f r, mem_updateWhere_of_pos hr hp, (hf.key r).1, (hf.key r).2, hf.standing r hp h⟩
  · exact ⟨r, mem_updateWhere_of_neg hr (by simpa using hp), rfl, rfl, h⟩

theorem ledger_update (h : LedgerInv db) {p : SummaryRow → Bool} {f : SummaryRow → SummaryRow}
    (hf : RowUpdate p f)
    (hc : db'.completions = db.completions) (hs : db'.summaries = updateWhere p f db.summaries)
    (hschema : summarySchema db'.summaries) : LedgerInv db' := by
  have hload : ∀ {taskId : String} {ids : List String}, (∃ cs, loadCompletions db taskId 0 ids = .ok cs) →
      ∃ cs, loadCompletions db' taskId 0 ids = .ok cs :=
    load_frame h.completionKeys (hc ▸ h.completionKeys) fun c hmem _ => hc ▸ hmem
  have hprev :
    ∀ {taskId : String} {g : Nat}, (∃ q ∈ db.summaries, q.taskId = taskId ∧ q.generation = g ∧ q.Standing) →
      ∃ q ∈ db'.summaries, q.taskId = taskId ∧ q.generation = g ∧ q.Standing := by
    rintro taskId g ⟨q, hq, rfl, rfl, hst⟩
    rw [hs]; exact standing_update hf hq hst
  have hcurrent : ∀ {taskId : String} {o : Option Nat},
      (∀ q ∈ db.summaries, currentOf taskId q = true → o = some q.generation) →
      ∀ q ∈ db'.summaries, currentOf taskId q = true → o = some q.generation := by
    intro taskId o hold q' hq' hcur
    rw [hs] at hq'
    rcases mem_updateWhere.1 hq' with ⟨hq, _⟩ | ⟨q, hq, hp, rfl⟩
    · exact hold q' hq hcur
    · simp only [currentOf, Bool.and_eq_true, decide_eq_true_eq] at hcur
      rw [(hf.key q).1] at hcur
      rw [(hf.key q).2]
      exact hold q hq (by simp [currentOf, hcur.1, hf.current q hp hcur.2])
  refine ⟨hschema, hc ▸ h.completionKeys, ?_, ?_, ?_, ?_⟩
  · intro c hmem g hg
    rw [hc] at hmem
    obtain ⟨r, hr, htask, hgen, hst⟩ := h.covered c hmem g hg
    exact hprev ⟨r, hr, htask, hgen, hst⟩
  · intro r' hr' hcur
    rw [hs] at hr'
    rw [hc]
    rcases mem_updateWhere.1 hr' with ⟨hr, _⟩ | ⟨r, hr, hp, rfl⟩
    · exact h.unread r' hr hcur
    · rw [(hf.key r).1, (hf.key r).2, (hf.columns r).2.2.2.1]
      exact h.unread r hr (hf.current r hp hcur)
  · intro r' hr' hsome
    rw [hs] at hr'
    rcases mem_updateWhere.1 hr' with ⟨hr, _⟩ | ⟨r, hr, hp, rfl⟩
    · exact h.superseded r' hr hsome
    · rw [(hf.columns r).2.2.2.2] at hsome
      exact hf.superseded r hp hsome (h.superseded r hr hsome)
  · intro r' hr' hact
    rw [hs] at hr'
    rcases mem_updateWhere.1 hr' with ⟨hr, _⟩ | ⟨r, hr, hp, rfl⟩
    · have := h.active r' hr hact
      exact ⟨this.claimId, this.covers, hload this.load,
        fun p hp => hprev (this.previous p hp), hcurrent this.current⟩
    · obtain ⟨hact', hclaim⟩ := hf.active r hp hact
      have := h.active r hr hact'
      obtain ⟨hcov, hpg, hreq, _, _⟩ := hf.columns r
      refine ⟨by rw [hclaim, hreq]; exact this.claimId,
        by rw [hcov]; exact this.covers, ?_, fun p hp => ?_, ?_⟩
      · rw [hcov, (hf.key r).1]; exact hload this.load
      · rw [hpg] at hp
        rw [(hf.key r).1]
        exact hprev (this.previous p hp)
      · rw [hpg, (hf.key r).1]
        exact hcurrent this.current

theorem rowUpdate_mark (m : ClaimMark) {p : SummaryRow → Bool} (hp : ∀ r, p r = true → r.isActive = true) :
    RowUpdate p m.apply := by
  have hst : ∀ r : SummaryRow, r.isActive = true → ¬ r.Standing ∧
    ¬(r.state = .leased ∨ r.state = .heard ∨ r.state = .superseded) := by
    intro r hact
    simp only [SummaryRow.isActive, Bool.or_eq_true, beq_iff_eq] at hact
    rcases hact with h | h <;> simp [SummaryRow.Standing, h]
  refine ⟨?_, ?_, ?_, ?_, ?_, ?_⟩
  · intro r; cases m <;> exact ⟨rfl, rfl⟩
  · intro r; cases m <;> exact ⟨rfl, rfl, rfl, rfl, rfl⟩
  · intro r hpr hs; exact absurd hs (hst r (hp r hpr)).1
  · intro r _ hcur
    cases m <;>
      simp [ClaimMark.apply, setState, setAbandoned, SummaryRow.isCurrent, SummaryRow.isUnreadState] at hcur
  · intro r hpr hact
    refine ⟨hp r hpr, ?_⟩
    cases m
    · rfl
    · rfl
    · simp [ClaimMark.apply, setAbandoned, SummaryRow.isActive] at hact
  · intro r hpr _ hstate; exact absurd hstate (hst r (hp r hpr)).2

theorem rowUpdate_lease {p : SummaryRow → Bool}
    (hp : ∀ r, p r = true → r.state = .unheard ∧ r.supersededBy = none) :
    RowUpdate p (setState .leased) := by
  refine ⟨fun _ => ⟨rfl, rfl⟩, fun _ => ⟨rfl, rfl, rfl, rfl, rfl⟩,
    fun r _ hs => ⟨Or.inr (Or.inl rfl), hs.2⟩, ?_, ?_, ?_⟩
  · intro r hpr _
    simp [SummaryRow.isCurrent, SummaryRow.isUnreadState, hp r hpr]
  · intro r _ hact
    simp [setState, SummaryRow.isActive] at hact
  · intro r _ _ _; exact Or.inl rfl

theorem rowUpdate_unlease {p : SummaryRow → Bool} (hp : ∀ r, p r = true → r.state = .leased) :
    RowUpdate p unlease := by
  refine ⟨fun _ => ⟨rfl, rfl⟩, fun _ => ⟨rfl, rfl, rfl, rfl, rfl⟩, fun r _ hs => ?_, ?_, ?_, ?_⟩
  · simp [SummaryRow.Standing, unlease, hs.2]
  · intro r hpr hcur
    simp only [SummaryRow.isCurrent, SummaryRow.isUnreadState, unlease, Bool.and_eq_true] at hcur ⊢
    exact ⟨by simp [hp r hpr], hcur.2⟩
  · intro r _ hact
    simp only [unlease, SummaryRow.isActive] at hact
    split at hact <;> simp at hact
  · intro r _ hsome _
    refine Or.inr (Or.inr ?_)
    simp only [unlease]
    rw [if_neg (fun h => by simp [h] at hsome)]

theorem rowUpdate_hear (p : SummaryRow → Bool) : RowUpdate p (setState .heard) := by
  refine ⟨fun _ => ⟨rfl, rfl⟩, fun _ => ⟨rfl, rfl, rfl, rfl, rfl⟩,
    fun r _ hs => ⟨Or.inr (Or.inr rfl), hs.2⟩, ?_, ?_, ?_⟩
  · intro r _ hcur
    simp [setState, SummaryRow.isCurrent, SummaryRow.isUnreadState] at hcur
  · intro r _ hact
    simp [setState, SummaryRow.isActive] at hact
  · intro r _ _ _; exact Or.inr (Or.inl rfl)

/-! ## Observation, claim, publication -/

theorem ledger_observe (h : LedgerInv db) {c : CompletionRow} (hs : db'.summaries = db.summaries)
    (hc : db'.completions = db.completions ++ [c]) (hpending : c.summarizedGeneration = none)
    (hfresh : ∀ o ∈ db.completions, o.completionId ≠ c.completionId) : LedgerInv db' := by
  have hkeys : db'.completions.Pairwise fun a b => a.completionId ≠ b.completionId := by
    rw [hc]
    refine List.pairwise_append.2 ⟨h.completionKeys, List.pairwise_singleton _ _, fun a ha b hb => ?_⟩
    rw [List.mem_singleton.1 hb]; exact hfresh a ha
  refine ⟨hs ▸ h.schema, hkeys, ?_, ?_, ?_, ?_⟩
  · intro o ho g hg
    rw [hc] at ho
    rcases List.mem_append.1 ho with ho | ho
    · rw [hs]; exact h.covered o ho g hg
    · rw [List.mem_singleton.1 ho, hpending] at hg; cases hg
  · intro r hr hcur
    rw [hs] at hr
    have hnew : coveredBy r.taskId r.generation c = false := by simp [coveredBy, hpending]
    rw [hc, List.countP_append, List.countP_singleton, hnew]
    exact h.unread r hr hcur
  · rw [hs]; exact h.superseded
  · intro r hr hact
    rw [hs] at hr
    have := h.active r hr hact
    refine ⟨this.claimId, this.covers,
      load_frame h.completionKeys hkeys (fun o ho _ => ?_) this.load, hs ▸ this.previous,
      hs ▸ this.current⟩
    rw [hc]; exact List.mem_append_left _ ho

theorem standing_of_current {taskId : String} {q : SummaryRow} (h : currentOf taskId q = true) :
    q.taskId = taskId ∧ q.Standing := by
  simp only [currentOf, SummaryRow.isCurrent, SummaryRow.isUnreadState,
    Bool.and_eq_true, decide_eq_true_eq, Bool.or_eq_true,
    beq_iff_eq, Option.isNone_iff_eq_none] at h
  obtain ⟨htask, hstate, hsuper⟩ := h
  exact ⟨htask, by rcases hstate with h | h <;> simp [h], hsuper⟩

theorem ledger_claim (h : LedgerInv db) {r : SummaryRow} (hc : db'.completions = db.completions)
    (hs : db'.summaries = db.summaries ++ [r]) (hschema : summarySchema db'.summaries)
    (hstate : r.state = .generating)
    (hsuper : r.supersededBy = none) (hid : r.claimId = r.requestId)
    (hcovers : r.coversCompletions ≠ [] ∧ r.coversCompletions.length ≤ maxSummaryCompletionsPerClaim)
    (hload : ∃ cs, loadCompletions db r.taskId 0 r.coversCompletions = .ok cs)
    (hprev : ∀ p ∈ r.previousGeneration, ∃ q ∈ db.summaries, currentOf r.taskId q = true ∧ q.generation = p)
    (hcurrent : ∀ q ∈ db.summaries, currentOf r.taskId q = true →
      r.previousGeneration = some q.generation) :
    LedgerInv db' := by
  have hkeys : db'.completions.Pairwise fun a b => a.completionId ≠ b.completionId := hc ▸ h.completionKeys
  have hmem : ∀ {x}, x ∈ db'.summaries ↔ x ∈ db.summaries ∨ x = r := by simp [hs]
  have hload' : ∀ {taskId : String} {ids : List String}, (∃ cs, loadCompletions db taskId 0 ids = .ok cs) →
      ∃ cs, loadCompletions db' taskId 0 ids = .ok cs :=
    load_frame h.completionKeys hkeys fun c hmem _ => hc ▸ hmem
  -- the new row is not a current one
  have hold : ∀ {taskId : String} {x : SummaryRow}, x ∈ db'.summaries → currentOf taskId x = true →
    x ∈ db.summaries := by
    intro taskId x hx hcur
    rcases hmem.1 hx with hx | rfl
    · exact hx
    · simp [currentOf, SummaryRow.isCurrent, SummaryRow.isUnreadState, hstate] at hcur
  refine ⟨hschema, hkeys, ?_, ?_, ?_, ?_⟩
  · intro c hcm g hg
    rw [hc] at hcm
    obtain ⟨q, hq, hrest⟩ := h.covered c hcm g hg
    exact ⟨q, hmem.2 (Or.inl hq), hrest⟩
  · intro x hx hcur
    rw [hc]
    rcases hmem.1 hx with hx | rfl
    · exact h.unread x hx hcur
    · simp [SummaryRow.isCurrent, SummaryRow.isUnreadState, hstate] at hcur
  · intro x hx hsome
    rcases hmem.1 hx with hx | rfl
    · exact h.superseded x hx hsome
    · simp [hsuper] at hsome
  · intro x hx hact
    rcases hmem.1 hx with hx | rfl
    · have := h.active x hx hact
      refine ⟨this.claimId, this.covers, hload' this.load, fun p hp => ?_,
        fun q hq hcur => this.current q (hold hq hcur) hcur⟩
      obtain ⟨q, hq, hrest⟩ := this.previous p hp
      exact ⟨q, hmem.2 (Or.inl hq), hrest⟩
    · refine ⟨hid, hcovers, hload' hload, fun p hp => ?_, fun q hq hcur => hcurrent q (hold hq hcur) hcur⟩
      obtain ⟨q, hq, hcur, hgen⟩ := hprev p hp
      exact ⟨q, hmem.2 (Or.inl hq), (standing_of_current hcur).1, hgen, (standing_of_current hcur).2⟩

section Publish
variable {taskId requestId cacheObject : String} {generation : Nat} {move : CompletionRow → CompletionRow}

/-- The rows after a publication: the published one, the superseded ones and the others. -/
theorem publish_rows (hs : db'.summaries = updateWhere (generatingClaim taskId generation requestId)
    (setUnheard cacheObject)
      (updateWhere (currentOf taskId) (supersede generation) db.summaries)) {r' : SummaryRow} :
    r' ∈ db'.summaries ↔
      (∃ r ∈ db.summaries, generatingClaim taskId generation requestId r = true ∧
        r' = setUnheard cacheObject r) ∨
      (∃ r ∈ db.summaries, currentOf taskId r = true ∧ r' = supersede generation r) ∨
      (r' ∈ db.summaries ∧ generatingClaim taskId generation requestId r' = false ∧
        currentOf taskId r' = false) := by
  have hexcl : ∀ r, currentOf taskId r = true → generatingClaim taskId generation requestId r = false ∧
      generatingClaim taskId generation requestId (supersede generation r) = false := by
    intro r hcur
    simp only [currentOf, SummaryRow.isCurrent, SummaryRow.isUnreadState,
      Bool.and_eq_true, Bool.or_eq_true, beq_iff_eq] at hcur
    rcases hcur.2.1 with h | h <;> simp [generatingClaim, supersede, h]
  rw [hs, mem_updateWhere]
  constructor
  · rintro (⟨hr, hg⟩ | ⟨r₀, hr₀, hg, rfl⟩)
    · rcases mem_updateWhere.1 hr with ⟨hr, hcur⟩ | ⟨r₀, hr₀, hcur, rfl⟩
      · exact Or.inr (Or.inr ⟨hr, hg, hcur⟩)
      · exact Or.inr (Or.inl ⟨r₀, hr₀, hcur, rfl⟩)
    · rcases mem_updateWhere.1 hr₀ with ⟨hr, _⟩ | ⟨r₁, _, hcur, rfl⟩
      · exact Or.inl ⟨r₀, hr, hg, rfl⟩
      · rw [(hexcl r₁ hcur).2] at hg; cases hg
  · rintro (⟨r, hr, hg, rfl⟩ | ⟨r, hr, hcur, rfl⟩ | ⟨hr, hg, hcur⟩)
    · have hcur : currentOf taskId r = false := by
        by_contra hc
        rw [(hexcl r (by simpa using hc)).1] at hg; cases hg
      exact Or.inr ⟨r, mem_updateWhere_of_neg hr hcur, hg, rfl⟩
    · exact Or.inl ⟨mem_updateWhere_of_pos hr hcur, (hexcl r hcur).2⟩
    · exact Or.inl ⟨mem_updateWhere_of_neg hr hcur, hg⟩

theorem Moves.key {c c' : CompletionRow} (h : Moves db taskId generation c c') :
    c'.completionId = c.completionId ∧ c'.taskId = c.taskId ∧ c'.turnPack = c.turnPack := by
  rcases h with ⟨rfl, _⟩ | ⟨rfl, _⟩ <;> exact ⟨rfl, rfl, rfl⟩

theorem Moves.eq_of_ne {c c' : CompletionRow} (h : Moves db taskId generation c c')
    (hne : c.taskId ≠ taskId) : c' = c := by
  rcases h with ⟨heq, _⟩ | ⟨_, htask, _⟩
  · exact heq
  · exact absurd htask hne

theorem ledger_publish (h : LedgerInv db)
    (hrow : ∃ r ∈ db.summaries, generatingClaim taskId generation requestId r = true)
    (hs : db'.summaries = updateWhere (generatingClaim taskId generation requestId) (setUnheard cacheObject)
      (updateWhere (currentOf taskId) (supersede generation) db.summaries))
    (hschema : summarySchema db'.summaries) (hc : db'.completions = db.completions.map move)
    (hmove : ∀ c ∈ db.completions, Moves db taskId generation c (move c))
    (hcount : 0 < db'.completions.countP (coveredBy taskId generation) ∧
      db'.completions.countP (coveredBy taskId generation) ≤ u32Max) : LedgerInv db' := by
  obtain ⟨row, hrow, hgen⟩ := hrow
  have hgen' := hgen
  simp only [generatingClaim, decide_eq_true_eq] at hgen'
  obtain ⟨hrowTask, hrowGen, hrowState, _⟩ := hgen'
  have hrowActive : row.isActive = true := by simp [SummaryRow.isActive, hrowState]
  have hkeys : db'.completions.Pairwise fun a b => a.completionId ≠ b.completionId := by
    rw [hc, List.pairwise_map]
    refine h.completionKeys.imp_of_mem fun ha hb hab => ?_
    rw [(hmove _ ha).key.1, (hmove _ hb).key.1]; exact hab
  have hmem := fun {r} => (publish_rows hs : r ∈ db'.summaries ↔ _)
  have hpublished : setUnheard cacheObject row ∈ db'.summaries := hmem.2 (Or.inl ⟨row, hrow, hgen, rfl⟩)
  have hother : ∀ r ∈ db.summaries, r.taskId ≠ taskId → r ∈ db'.summaries := fun r hr hne =>
    hmem.2 (Or.inr (Or.inr ⟨hr, by simp [generatingClaim, hne], by simp [currentOf, hne]⟩))
  refine ⟨hschema, hkeys, ?_, ?_, ?_, ?_⟩
  · intro c' hc' g hg
    rw [hc] at hc'
    obtain ⟨c, hcm, rfl⟩ := List.mem_map.1 hc'
    rcases hmove c hcm with ⟨heq, hkept⟩ | ⟨heq, htask, _⟩
    · rw [heq] at hg ⊢
      obtain ⟨r, hr, hrtask, hrgen, hstate, hsuper⟩ := h.covered c hcm g hg
      refine ⟨r, hmem.2 (Or.inr (Or.inr ⟨hr, ?_, ?_⟩)), hrtask, hrgen, hstate, hsuper⟩
      · rcases hstate with h | h | h <;> simp [generatingClaim, h]
      · -- a current row of the task would have given its completions up
        by_contra hcur
        have hcur : currentOf taskId r = true := by simpa using hcur
        have := hkept r hr hcur
        simp [coveredBy, hg, hrgen, ← hrtask, (standing_of_current hcur).1] at this
    · rw [heq] at hg ⊢
      cases hg
      have hnew : (setUnheard cacheObject row).supersededBy = none := by
        cases hsuper : row.supersededBy with
        | none => exact hsuper
        | some g =>
          have := h.superseded row hrow (by rw [hsuper]; rfl)
          rw [hrowState] at this
          simp at this
      exact ⟨_, hpublished, hrowTask.trans htask.symm, hrowGen, Or.inl rfl, hnew⟩
  · intro r' hr' hcur
    rcases hmem.1 hr' with ⟨r, hr, hg, rfl⟩ | ⟨r, _, _, rfl⟩ | ⟨hr, hg, hnot⟩
    · simp only [generatingClaim, decide_eq_true_eq] at hg
      have htask : (setUnheard cacheObject r).taskId = taskId := hg.1
      have hgeneration : (setUnheard cacheObject r).generation = generation := hg.2.1
      rw [htask, hgeneration]
      exact ⟨rfl, hcount⟩
    · simp [SummaryRow.isCurrent, supersede] at hcur
    · have hne : r'.taskId ≠ taskId := fun htask => by simp [currentOf, htask, hcur] at hnot
      have hsame : db'.completions.countP (coveredBy r'.taskId r'.generation) =
          db.completions.countP (coveredBy r'.taskId r'.generation) := by
        rw [hc, List.countP_map]
        refine List.countP_congr fun c hcm => ?_
        by_cases htask : c.taskId = taskId
        · have h1 : c.taskId ≠ r'.taskId := fun h => hne (h.symm.trans htask)
          have h2 : (move c).taskId ≠ r'.taskId := (hmove c hcm).key.2.1 ▸ h1
          simp [coveredBy, h1, h2]
        · simp [(hmove c hcm).eq_of_ne htask]
      rw [hsame]
      exact h.unread r' hr hcur
  · intro r' hr' hsome
    rcases hmem.1 hr' with ⟨r, hr, hg, rfl⟩ | ⟨r, hr, hcur, rfl⟩ | ⟨hr, _, _⟩
    · simp only [generatingClaim, decide_eq_true_eq] at hg
      have := h.superseded r hr hsome
      rw [hg.2.2.1] at this
      simp at this
    · simp only [currentOf, SummaryRow.isCurrent, SummaryRow.isUnreadState,
        Bool.and_eq_true, Bool.or_eq_true, beq_iff_eq] at hcur
      rcases hcur.2.1 with h | h <;> simp [supersede, h]
    · exact h.superseded r' hr hsome
  · intro r' hr' hact
    rcases hmem.1 hr' with ⟨r, _, _, rfl⟩ | ⟨r, _, hcur, rfl⟩ | ⟨hr, hg, _⟩
    · simp [setUnheard, SummaryRow.isActive] at hact
    · simp only [currentOf, SummaryRow.isCurrent, SummaryRow.isUnreadState,
        Bool.and_eq_true, Bool.or_eq_true, beq_iff_eq] at hcur
      rcases hcur.2.1 with h | h <;> simp [supersede, SummaryRow.isActive, h] at hact
    · -- the one active claim of the task is the published one
      have hne : r'.taskId ≠ taskId := fun htask => by
        have := eq_of_active h.schema hr hrow (htask.trans hrowTask.symm) hact hrowActive
        rw [this, hgen] at hg; cases hg
      have := h.active r' hr hact
      refine ⟨this.claimId, this.covers,
        load_frame h.completionKeys hkeys (fun c hcm htask => ?_) this.load, fun p hp => ?_,
        fun q' hq' hcur => ?_⟩
      · have hsame := (hmove c hcm).eq_of_ne (htask ▸ hne)
        rw [hc, ← hsame]; exact List.mem_map_of_mem hcm
      · obtain ⟨q, hq, hqtask, hqgen, hst⟩ := this.previous p hp
        exact ⟨q, hother q hq (hqtask ▸ hne), hqtask, hqgen, hst⟩
      · have hq'task := (standing_of_current hcur).1
        rcases hmem.1 hq' with ⟨q, _, hg', rfl⟩ | ⟨q, _, _, rfl⟩ | ⟨hq, _, _⟩
        · simp only [generatingClaim, decide_eq_true_eq] at hg'
          exact absurd (hq'task.symm.trans hg'.1) hne
        · simp [currentOf, SummaryRow.isCurrent, supersede] at hcur
        · exact this.current q' hq hcur

end Publish

/-! ## Leases -/

theorem leasedKey_update {rows : List SummaryRow} {p : SummaryRow → Bool}
    {f : SummaryRow → SummaryRow} (hf : RowUpdate p f)
    {taskId : String} {generation : Nat} :
    LeasedKey (updateWhere p f rows) taskId generation ↔
      ∃ r ∈ rows, r.taskId = taskId ∧ r.generation = generation ∧
        (p r = false ∧ r.state = .leased ∨ p r = true ∧ (f r).state = .leased) := by
  constructor
  · rintro ⟨r', hr', htask, hgen, hstate⟩
    rcases mem_updateWhere.1 hr' with ⟨hr, hp⟩ | ⟨r, hr, hp, rfl⟩
    · exact ⟨r', hr, htask, hgen, Or.inl ⟨hp, hstate⟩⟩
    · exact ⟨r, hr, (hf.key r).1 ▸ htask, (hf.key r).2 ▸ hgen, Or.inr ⟨hp, hstate⟩⟩
  · rintro ⟨r, hr, htask, hgen, ⟨hp, hstate⟩ | ⟨hp, hstate⟩⟩
    · exact ⟨r, mem_updateWhere_of_neg hr hp, htask, hgen, hstate⟩
    · exact ⟨f r, mem_updateWhere_of_pos hr hp, (hf.key r).1.trans htask, (hf.key r).2.trans hgen, hstate⟩

/-- An update that leaves every row as leased as it was. -/
theorem lease_update (h : LeaseInv db) {p : SummaryRow → Bool} {f : SummaryRow → SummaryRow}
    (hf : RowUpdate p f)
    (hl : db'.leases = db.leases) (hs : db'.summaries = updateWhere p f db.summaries)
    (hsame : ∀ r, p r = true → ((f r).state = .leased ↔ r.state = .leased)) : LeaseInv db' := by
  refine ⟨hl ▸ h.keys, fun taskId generation => ?_⟩
  rw [hs, leasedKey_update hf, hl, ← h.leased]
  constructor
  · rintro ⟨r, hr, htask, hgen, ⟨_, hst⟩ | ⟨hp, hst⟩⟩
    · exact ⟨r, hr, htask, hgen, hst⟩
    · exact ⟨r, hr, htask, hgen, (hsame r hp).1 hst⟩
  · rintro ⟨r, hr, htask, hgen, hst⟩
    refine ⟨r, hr, htask, hgen, ?_⟩
    by_cases hp : p r = true
    · exact Or.inr ⟨hp, (hsame r hp).2 hst⟩
    · exact Or.inl ⟨by simpa using hp, hst⟩

theorem lease_publish (h : LeaseInv db) {taskId requestId cacheObject : String} {generation : Nat}
    (hl : db'.leases = db.leases)
    (hs : db'.summaries = updateWhere (generatingClaim taskId generation requestId) (setUnheard cacheObject)
      (updateWhere (currentOf taskId) (supersede generation) db.summaries)) : LeaseInv db' := by
  refine ⟨hl ▸ h.keys, fun t g => ?_⟩
  rw [hl, ← h.leased]
  have hmem := fun {r} => (publish_rows hs : r ∈ db'.summaries ↔ _)
  constructor
  · rintro ⟨r', hr', htask, hgen, hst⟩
    rcases hmem.1 hr' with ⟨r, _, _, rfl⟩ | ⟨r, hr, _, rfl⟩ | ⟨hr, _, _⟩
    · simp [setUnheard] at hst
    · refine ⟨r, hr, htask, hgen, ?_⟩
      simp only [supersede] at hst
      split at hst
      · cases hst
      · exact hst
    · exact ⟨r', hr, htask, hgen, hst⟩
  · rintro ⟨r, hr, htask, hgen, hst⟩
    by_cases hcur : currentOf taskId r = true
    · exact ⟨supersede generation r, hmem.2 (Or.inr (Or.inl ⟨r, hr, hcur, rfl⟩)), htask, hgen,
        by simp [supersede, hst]⟩
    · exact ⟨r, hmem.2 (Or.inr (Or.inr ⟨hr, by simp [generatingClaim, hst], by simpa using hcur⟩)),
        htask, hgen, hst⟩

theorem lease_acquire (h : LeaseInv db) {l : LeaseRow} (hl : db'.leases = db.leases ++ [l])
    (hrow : ∃ r ∈ db.summaries, r.taskId = l.taskId ∧
      r.generation = l.summaryGeneration ∧ r.state = .unheard ∧
      r.supersededBy = none)
    (hs : db'.summaries =
      updateWhere (fun r => decide (r.taskId = l.taskId ∧ r.generation = l.summaryGeneration ∧
      r.state = .unheard ∧ r.supersededBy = none)) (setState .leased) db.summaries)
    (hfresh : ∀ o ∈ db.leases, o.leaseId ≠ l.leaseId ∧
      ¬(o.taskId = l.taskId ∧ o.summaryGeneration = l.summaryGeneration)) : LeaseInv db' := by
  refine ⟨?_, fun taskId generation => ?_⟩
  · rw [hl]
    refine List.pairwise_append.2 ⟨h.keys, List.pairwise_singleton _ _, fun a ha b hb => ?_⟩
    rw [List.mem_singleton.1 hb]; exact hfresh a ha
  · have hf : RowUpdate (fun r => decide (r.taskId = l.taskId ∧ r.generation = l.summaryGeneration ∧
        r.state = .unheard ∧ r.supersededBy = none)) (setState .leased) :=
      rowUpdate_lease fun r hp => (of_decide_eq_true hp).2.2
    rw [hs, leasedKey_update hf, hl]
    simp only [List.mem_append, List.mem_singleton]
    constructor
    · rintro ⟨r, hr, rfl, rfl, ⟨_, hst⟩ | ⟨hp, _⟩⟩
      · obtain ⟨o, ho, hkey⟩ := (h.leased _ _).1 ⟨r, hr, rfl, rfl, hst⟩
        exact ⟨o, Or.inl ho, hkey⟩
      · obtain ⟨htask, hgen, _⟩ := of_decide_eq_true hp
        exact ⟨l, Or.inr rfl, htask.symm, hgen.symm⟩
    · rintro ⟨o, ho | rfl, rfl, rfl⟩
      · obtain ⟨r, hr, htask, hgen, hst⟩ := (h.leased _ _).2 ⟨o, ho, rfl, rfl⟩
        exact ⟨r, hr, htask, hgen, Or.inl ⟨by simp [hst], hst⟩⟩
      · obtain ⟨r, hr, htask, hgen, hst, hsuper⟩ := hrow
        exact ⟨r, hr, htask, hgen, Or.inr ⟨by simp [htask, hgen, hst, hsuper], rfl⟩⟩

theorem eq_of_leaseKey (h : LeaseInv db) {a b : LeaseRow} (ha : a ∈ db.leases) (hb : b ∈ db.leases)
    (hkey : a.leaseId = b.leaseId ∨ a.taskId = b.taskId ∧
      a.summaryGeneration = b.summaryGeneration) : a = b := by
  by_contra hne
  have hrel := rel_of_pairwise (fun a b (h : a.leaseId ≠ b.leaseId ∧ ¬(a.taskId = b.taskId ∧
    a.summaryGeneration = b.summaryGeneration)) =>
      ⟨h.1.symm, fun ⟨h1, h2⟩ => h.2 ⟨h1.symm, h2.symm⟩⟩) h.keys ha hb hne
  rcases hkey with hkey | hkey
  · exact hrel.1 hkey
  · exact hrel.2 hkey

/-- A lease ends together with the leased state of its row. -/
theorem lease_release (h : LeaseInv db) {l : LeaseRow} {d : LeaseRow → Bool} {p : SummaryRow → Bool}
    {f : SummaryRow → SummaryRow} (hf : RowUpdate p f) (hd : ∀ o ∈ db.leases, d o = true ↔ o = l)
    (hl : db'.leases = deleteWhere d db.leases) (hs : db'.summaries = updateWhere p f db.summaries)
    (hp : ∀ r ∈ db.summaries, r.taskId = l.taskId → r.generation = l.summaryGeneration →
      r.state = .leased → p r = true)
    (hp' : ∀ r, p r = true → r.taskId = l.taskId ∧
      r.generation = l.summaryGeneration ∧ (f r).state ≠ .leased)
    (hmem : l ∈ db.leases) : LeaseInv db' := by
  have hdel : ∀ {o}, o ∈ db'.leases ↔ o ∈ db.leases ∧ o ≠ l := by
    intro o
    rw [hl, deleteWhere, List.mem_filter]
    refine and_congr_right fun ho => ?_
    rw [Bool.not_eq_true', ← Bool.not_eq_true]
    exact not_congr (hd o ho)
  refine ⟨?_, fun taskId generation => ?_⟩
  · rw [hl]; exact h.keys.filter _
  · rw [hs, leasedKey_update hf]
    constructor
    · rintro ⟨r, hr, rfl, rfl, ⟨hpr, hst⟩ | ⟨hpr, hst⟩⟩
      · obtain ⟨o, ho, htask, hgen⟩ := (h.leased _ _).1 ⟨r, hr, rfl, rfl, hst⟩
        refine ⟨o, hdel.2 ⟨ho, ?_⟩, htask, hgen⟩
        rintro rfl
        rw [hp r hr htask.symm hgen.symm hst] at hpr; cases hpr
      · exact absurd hst (hp' r hpr).2.2
    · rintro ⟨o, ho, rfl, rfl⟩
      obtain ⟨ho, hne⟩ := hdel.1 ho
      obtain ⟨r, hr, htask, hgen, hst⟩ := (h.leased _ _).2 ⟨o, ho, rfl, rfl⟩
      refine ⟨r, hr, htask, hgen, Or.inl ⟨?_, hst⟩⟩
      by_contra hpr
      obtain ⟨h1, h2, _⟩ := hp' r (by simpa using hpr)
      exact hne (eq_of_leaseKey h ho hmem (Or.inr ⟨htask.symm.trans h1, hgen.symm.trans h2⟩))

theorem lease_recover (hl : db'.leases = [])
    (hs : db'.summaries = updateWhere isLeased unlease db.summaries) :
    LeaseInv db' := by
  refine ⟨hl ▸ .nil, fun taskId generation => ?_⟩
  have hf : RowUpdate isLeased unlease := rowUpdate_unlease fun r hp => by simpa [isLeased] using hp
  rw [hs, leasedKey_update hf, hl]
  constructor
  · rintro ⟨r, _, _, _, ⟨hp, hst⟩ | ⟨_, hst⟩⟩
    · simp [isLeased, hst] at hp
    · simp only [unlease] at hst
      split at hst <;> cases hst
  · rintro ⟨l, hl, _⟩
    simp at hl

theorem unlease_not_leased (r : SummaryRow) : (unlease r).state ≠ .leased := by
  simp only [unlease]
  split <;> simp

/-! ## Runs -/

theorem rowUpdate_cancel (l : LeaseRow) : RowUpdate (leasedRow l.taskId l.summaryGeneration) unlease :=
  rowUpdate_unlease fun r hp => by simp only [leasedRow, decide_eq_true_eq] at hp; exact hp.2.2

theorem inv_effect (h : StoreInv db) (he : Effect op db db') : StoreInv db' := by
  cases he with
  | keep hs hc hl =>
    refine ⟨⟨hs ▸ h.ledger.schema, hc ▸ h.ledger.completionKeys, ?_, ?_,
      hs ▸ h.ledger.superseded, ?_⟩, ⟨hl ▸ h.lease.keys, ?_⟩⟩
    · intro c hcm; rw [hc] at hcm; rw [hs]; exact h.ledger.covered c hcm
    · intro r hr; rw [hs] at hr; rw [hc]; exact h.ledger.unread r hr
    · intro r hr hact
      rw [hs] at hr
      have := h.ledger.active r hr hact
      exact ⟨this.claimId, this.covers, load_frame h.ledger.completionKeys (hc ▸ h.ledger.completionKeys)
        (fun c hcm _ => hc ▸ hcm) this.load, hs ▸ this.previous, hs ▸ this.current⟩
    · intro taskId generation; rw [hs, hl]; exact h.lease.leased taskId generation
  | observe c hs hl hc hpending hfresh =>
    refine ⟨ledger_observe h.ledger hs hc hpending hfresh, ⟨hl ▸ h.lease.keys, fun taskId generation => ?_⟩⟩
    rw [hs, hl]; exact h.lease.leased taskId generation
  | claim r hc hl hs hschema hstate hsuper hid hcovers hload hprev hcurrent =>
    refine ⟨ledger_claim h.ledger hc hs hschema hstate hsuper hid hcovers hload hprev hcurrent,
      ⟨hl ▸ h.lease.keys, fun taskId generation => ?_⟩⟩
    rw [hl, ← h.lease.leased, hs]
    simp [LeasedKey, or_and_right, exists_or, hstate]
  | mark m p hc hl hs hschema hp =>
    refine ⟨ledger_update h.ledger (rowUpdate_mark m hp) hc hs hschema,
      lease_update h.lease (rowUpdate_mark m hp) hl hs fun r hpr => ?_⟩
    have hact := hp r hpr
    simp only [SummaryRow.isActive, Bool.or_eq_true, beq_iff_eq] at hact
    cases m <;> rcases hact with h | h <;> simp [ClaimMark.apply, setState, setAbandoned, h]
  | publish taskId requestId cacheObject generation move hl hrow hs hschema hc hmove hcount =>
    exact ⟨ledger_publish h.ledger hrow hs hschema hc hmove hcount, lease_publish h.lease hl hs⟩
  | lease l _ hc hl hrow hs hschema hfresh =>
    exact ⟨ledger_update h.ledger (rowUpdate_lease fun r hp => (of_decide_eq_true hp).2.2) hc hs hschema,
      lease_acquire h.lease hl hrow hs hfresh⟩
  | cancel l hmem hc hl hs hschema =>
    refine ⟨ledger_update h.ledger (rowUpdate_cancel l) hc hs hschema,
      lease_release h.lease (rowUpdate_cancel l)
        (fun o _ => by simp) hl hs (fun r _ h1 h2 h3 => by simp [leasedRow, h1, h2, h3])
        (fun r hp => ?_) hmem⟩
    simp only [leasedRow, decide_eq_true_eq] at hp
    exact ⟨hp.1, hp.2.1, unlease_not_leased r⟩
  | hear lease _ hmem hc hl hs hcount hschema =>
    refine ⟨ledger_update h.ledger (rowUpdate_hear _) hc hs hschema,
      lease_release (l := lease.row) h.lease (rowUpdate_hear _)
        (fun o ho => ?_) hl hs (fun r hr h1 h2 h3 => ?_) (fun r hp => ?_) hmem⟩
    · simp only [decide_eq_true_eq]
      exact ⟨fun hid => eq_of_leaseKey h.lease ho hmem (Or.inl hid), fun heq => by rw [heq]; rfl⟩
    · -- the one row the statement found is the row of the lease
      obtain ⟨q, hq, hqp⟩ := List.countP_pos_iff.1 (by rw [hcount]; exact Nat.one_pos)
      have hq' := hqp
      simp only [leasedRow, Bool.and_eq_true, decide_eq_true_eq] at hq'
      rw [eq_of_key h.ledger.schema hr hq (h1.trans hq'.1.1.symm) (h2.trans hq'.1.2.1.symm)]
      exact hqp
    · simp only [leasedRow, Bool.and_eq_true, decide_eq_true_eq] at hp
      exact ⟨hp.1.1, hp.1.2.1, by simp [setState]⟩
  | recoverLeases hc hl hs hschema =>
    exact ⟨ledger_update h.ledger (rowUpdate_unlease fun r hp => by
      simpa [isLeased] using hp) hc hs hschema, lease_recover hl hs⟩

/-- A committed transaction has its effect, a failed one none. -/
theorem effect_transact {α : Type} {body : Except StoreError (α × StoreDb)}
    (h : ∀ a db', body = .ok (a, db') → Effect op db db') : Effect op db (transact body db).2 :=
  transact_induction (.refl op db) h

/-- What a call does: one effect, or the two of a restart. -/
theorem storeStep_effects (env : Crates) (op : StoreOp) (h : StoreInv db) :
    ∃ mid, Effect op db mid ∧ Effect op mid (storeStep env db op).2 := by
  have one : ∀ {db'}, Effect op db db' → ∃ mid, Effect op db mid ∧ Effect op mid db' :=
    fun he => ⟨db, .refl op db, he⟩
  have hleases : db.leases.Pairwise fun a b => a.leaseId ≠ b.leaseId := h.lease.keys.imp fun h => h.1
  cases op with
  | setBinding => exact one (effect_transact fun _ _ => setBinding_effect)
  | commitRolloutCompletion => exact one (effect_transact fun _ _ => commitRolloutCompletion_effect)
  | claimSummary =>
    exact one (effect_transact fun _ _ => claimSummary_effect h.ledger.schema h.ledger.completionKeys)
  | abandonSummaryClaim => exact one (effect_transact fun _ _ => abandonSummaryClaim_effect)
  | abandonInterruptedSummaryForTask => exact one (effect_transact fun _ _ => abandonInterrupted_effect)
  | resumeInterruptedSummary => exact one (effect_transact fun _ _ => resumeInterrupted_effect)
  | publishSummary =>
    exact one (effect_transact fun _ _ => publishSummary_effect h.ledger.schema h.ledger.covered)
  | beginSummaryTtsAttempt => exact one (effect_transact fun _ _ => beginTts_effect)
  | markSummaryTtsAmbiguous => exact one (effect_transact fun _ _ => markTts_effect)
  | acquireSummaryPlayback => exact one (effect_transact fun _ _ => acquire_effect)
  | cancelSummaryPlayback => exact one (effect_transact fun _ _ => cancel_effect hleases)
  | finishSummaryPlayback => exact one (effect_transact fun _ _ => finish_effect)
  | restart progress =>
    have hfirst : Effect (.restart progress) db (transact (recoverInterruptedSummaries db) db).2 :=
      effect_transact fun _ _ => recoverSummaries_effect
    cases progress with
    | beforeSummaries => exact one (.refl _ db)
    | beforeLeases => exact one hfirst
    | complete =>
      refine ⟨_, hfirst, ?_⟩
      have hsecond :
        ∀ mid, Effect (.restart .complete) mid (transact (recoverInterruptedPlaybackLeases mid) mid).2 :=
        fun mid => effect_transact fun _ _ => recoverLeases_effect
      simp only [storeStep, openStore, Prod.map]
      split
      · rename_i heq; rw [heq]; exact .refl _ _
      · rename_i mid heq
        rw [heq]
        have := hsecond mid
        split <;> (rename_i heq'; rw [heq'] at this; exact this)

theorem inv_storeStep (env : Crates) (db : StoreDb) (op : StoreOp) (h : StoreInv db) :
    StoreInv (storeStep env db op).2 := by
  obtain ⟨mid, h1, h2⟩ := storeStep_effects env op h
  exact inv_effect (inv_effect h h1) h2

theorem inv_storeAfter (env : Crates) (ops : List StoreOp) : StoreInv (storeAfter env ops) :=
  after_induction (inv_storeStep env) ops inv_emptyStore

end

end CodexKeyboard.Store
