import CodexKeyboard.Store.Coverage
/-!
# Recovering an interrupted claim

A claim remembers the summary that was current when it was made. Playback may hear that summary between a
restart and the resume; `resume_interrupted_summary` then refuses the claim, and
`abandon_interrupted_summary_for_task` is the way out (`interrupted_recoverable`).
-/

namespace CodexKeyboard.Store

open Lib

variable {env : Crates} {op : StoreOp} {db db' : StoreDb}

/-! ## What the rows keep -/

/-- The columns no statement changes. -/
def SameClaim (r r' : SummaryRow) : Prop :=
  r'.taskId = r.taskId ∧ r'.generation = r.generation ∧ r'.requestId = r.requestId ∧
    r'.coversCompletions = r.coversCompletions

theorem SameClaim.refl (r : SummaryRow) : SameClaim r r := ⟨rfl, rfl, rfl, rfl⟩

theorem SameClaim.trans {a b c : SummaryRow} (h : SameClaim a b) (h' : SameClaim b c) : SameClaim a c :=
  ⟨h'.1.trans h.1, h'.2.1.trans h.2.1, h'.2.2.1.trans h.2.2.1, h'.2.2.2.trans h.2.2.2⟩

/-- An update that keeps the claim columns gives each row one successor, and no others. -/
theorem sameClaim_update {p : SummaryRow → Bool} {f : SummaryRow → SummaryRow} {rows : List SummaryRow}
    (hf : ∀ r, SameClaim r (f r)) :
    (∀ r ∈ rows, ∃ r' ∈ updateWhere p f rows, SameClaim r r') ∧
      ∀ r' ∈ updateWhere p f rows, ∃ r ∈ rows, SameClaim r r' := by
  constructor
  · intro r hr
    by_cases hp : p r = true
    · exact ⟨f r, mem_updateWhere_of_pos hr hp, hf r⟩
    · exact ⟨r, mem_updateWhere_of_neg hr (by simpa using hp), .refl r⟩
  · intro r' hr'
    rcases mem_updateWhere.1 hr' with ⟨hr, _⟩ | ⟨r, hr, _, rfl⟩
    · exact ⟨r', hr, .refl r'⟩
    · exact ⟨r, hr, hf r⟩

/-- What a call other than `claim_summary` and `publish_summary` does to the summaries. -/
theorem summaries_effect (he : Effect op db db') :
    db'.summaries = db.summaries ∨ (∃ p f, RowUpdate p f ∧ db'.summaries = updateWhere p f db.summaries) ∨
    (∃ r, db'.summaries = db.summaries ++ [r] ∧ ∃ requestId, op = .claimSummary r.taskId requestId) ∨
    ∃ taskId requestId cacheObject generation, (∃ r ∈ db.summaries,
      generatingClaim taskId generation requestId r = true) ∧
      db'.summaries = updateWhere (generatingClaim taskId generation requestId) (setUnheard cacheObject)
        (updateWhere (currentOf taskId) (supersede generation) db.summaries) := by
  cases he with
  | keep hs => exact Or.inl hs
  | observe c hs => exact Or.inl hs
  | claim r _ _ hs _ _ _ _ _ _ _ _ hop => exact Or.inr (Or.inr (Or.inl ⟨r, hs, hop⟩))
  | mark m p _ _ hs _ hp => exact Or.inr (Or.inl ⟨_, _, rowUpdate_mark m hp, hs⟩)
  | publish taskId requestId cacheObject generation move _ hrow hs =>
    exact Or.inr (Or.inr (Or.inr ⟨taskId, requestId, cacheObject, generation, hrow, hs⟩))
  | lease l _ _ _ _ hs =>
    exact Or.inr (Or.inl ⟨_, _, rowUpdate_lease fun r hp => (of_decide_eq_true hp).2.2, hs⟩)
  | cancel l _ _ _ hs => exact Or.inr (Or.inl ⟨_, _, rowUpdate_cancel l, hs⟩)
  | hear lease _ _ _ _ hs => exact Or.inr (Or.inl ⟨_, _, rowUpdate_hear _, hs⟩)
  | recoverLeases _ _ hs =>
    exact Or.inr (Or.inl ⟨_, _, rowUpdate_unlease fun r hp => by simpa [isLeased] using hp, hs⟩)

theorem sameClaim_rowUpdate {p : SummaryRow → Bool} {f : SummaryRow → SummaryRow} (h : RowUpdate p f)
    (r : SummaryRow) :
    SameClaim r (f r) := ⟨(h.key r).1, (h.key r).2, (h.columns r).2.2.1, (h.columns r).1⟩

theorem sameClaim_supersede (generation : Nat) (r : SummaryRow) :
    SameClaim r (supersede generation r) := .refl r
theorem sameClaim_setUnheard (cacheObject : String) (r : SummaryRow) :
    SameClaim r (setUnheard cacheObject r) := .refl r

/-- The rows belong to valid tasks. -/
def TasksValid (env : Crates) (db : StoreDb) : Prop := ∀ r ∈ db.summaries, env.isUuid r.taskId = true

theorem tasksValid_effect (hv : TasksValid env db)
    (hop : ∀ taskId requestId, op = .claimSummary taskId requestId → env.isUuid taskId = true)
    (he : Effect op db db') :
    TasksValid env db' := by
  intro r' hr'
  have hkept : ∀ r ∈ db.summaries, SameClaim r r' → env.isUuid r'.taskId = true := by
    intro r hr hsame
    rw [hsame.1]
    exact hv r hr
  rcases summaries_effect he with hs | ⟨p, f, hf, hs⟩ | ⟨r, hs, requestId, heq⟩ |
    ⟨taskId, requestId, cacheObject, generation, _, hs⟩
  · exact hv r' (hs ▸ hr')
  · obtain ⟨r, hr, hsame⟩ := (sameClaim_update (sameClaim_rowUpdate hf)).2 r' (hs ▸ hr')
    exact hkept r hr hsame
  · rw [hs, List.mem_append, List.mem_singleton] at hr'
    rcases hr' with hr' | rfl
    · exact hv r' hr'
    · exact hop _ requestId heq
  · obtain ⟨r₁, hr₁, h1⟩ := (sameClaim_update (sameClaim_setUnheard cacheObject)).2 r' (hs ▸ hr')
    obtain ⟨r, hr, h2⟩ := (sameClaim_update (sameClaim_supersede generation)).2 r₁ hr₁
    exact hkept r hr (h2.trans h1)

theorem claimSummary_invalid {taskId : String} (requestId : String) (htask : env.isUuid taskId = false) :
    claimSummary env db taskId requestId = .error .invalidSummaryRequest := by
  simp only [claimSummary, validateSummaryRequest, htask, Bool.false_eq_true, false_and, decide_false]
  rfl

/-- Only `claim_summary` inserts a row, and it checks the task first. -/
theorem tasksValid_storeStep (h : StoreInv db) (hv : TasksValid env db) (op : StoreOp) :
    TasksValid env (storeStep env db op).2 := by
  by_cases hop : ∀ taskId requestId, op = .claimSummary taskId requestId → env.isUuid taskId = true
  · obtain ⟨mid, h1, h2⟩ := storeStep_effects env op h
    exact tasksValid_effect (tasksValid_effect hv hop h1) hop h2
  · push Not at hop
    obtain ⟨taskId, requestId, rfl, htask⟩ := hop
    have hsame : (transact (claimSummary env db taskId requestId) db).2 = db := by
      rw [claimSummary_invalid requestId (eq_false_of_ne_true htask)]
      rfl
    show TasksValid env (transact (claimSummary env db taskId requestId) db).2
    rw [hsame]
    exact hv

theorem tasksValid_storeAfter (env : Crates) (ops : List StoreOp) :
    TasksValid env (storeAfter env ops) := by
  have hrun : StoreInv (storeAfter env ops) ∧ TasksValid env (storeAfter env ops) :=
    after_induction (I := fun db => StoreInv db ∧ TasksValid env db)
      (fun db op h => ⟨inv_storeStep env db op h.1, tasksValid_storeStep h.1 h.2 op⟩) ops
      ⟨inv_emptyStore, fun r hr => absurd hr List.not_mem_nil⟩
  exact hrun.2

/-! ## Statements that the schema never refuses -/

/-- An update that makes no index tighter. -/
theorem schema_update {rows : List SummaryRow} (h : summarySchema rows) {p : SummaryRow → Bool}
    {f : SummaryRow → SummaryRow}
    (hkey : ∀ r, (f r).taskId = r.taskId ∧ (f r).generation = r.generation ∧ (f r).requestId = r.requestId)
    (hactive : ∀ r, p r = true → (f r).isActive = true → r.isActive = true)
    (hcurrent : ∀ r, p r = true → (f r).isCurrent = true → r.isCurrent = true)
    (hchecked : ∀ r, p r = true → r.Checked → (f r).Checked) : summarySchema (updateWhere p f rows) := by
  have hsame : ∀ r, (if p r then f r else r).taskId = r.taskId ∧
    (if p r then f r else r).generation = r.generation ∧
      (if p r then f r else r).requestId = r.requestId ∧
      ((if p r then f r else r).isActive = true → r.isActive = true) ∧
      ((if p r then f r else r).isCurrent = true → r.isCurrent = true) := by
    intro r
    by_cases hp : p r = true
    · rw [if_pos hp]
      exact ⟨(hkey r).1, (hkey r).2.1, (hkey r).2.2, hactive r hp, hcurrent r hp⟩
    · rw [if_neg hp]
      exact ⟨rfl, rfl, rfl, id, id⟩
  refine ⟨pairwise_updateWhere h.1 fun a _ b _ hab => ?_, fun r' hr' => ?_⟩
  · obtain ⟨hat, hag, har, haa, hac⟩ := hsame a
    obtain ⟨hbt, hbg, hbr, hba, hbc⟩ := hsame b
    unfold SummaryRow.Compatible at hab ⊢
    rw [hat, hag, har, hbt, hbg, hbr]
    exact ⟨hab.1, fun h => hab.2.1 ⟨h.1, haa h.2.1, hba h.2.2⟩, hab.2.2.1,
      fun h => hab.2.2.2 ⟨h.1, hac h.2.1, hbc h.2.2⟩⟩
  · rcases mem_updateWhere.1 hr' with ⟨hr, _⟩ | ⟨r, hr, hp, rfl⟩
    · exact h.2 r' hr
    · exact hchecked r hp (h.2 r hr)

theorem schema_mark {rows : List SummaryRow} (h : summarySchema rows) (m : ClaimMark)
    {p : SummaryRow → Bool}
    (hp : ∀ r, p r = true → r.isActive = true) : summarySchema (updateWhere p m.apply rows) := by
  have hf := rowUpdate_mark m hp
  refine schema_update h (fun r => ⟨(hf.key r).1, (hf.key r).2, (hf.columns r).2.2.1⟩)
    (fun r hpr hact => (hf.active r hpr hact).1)
    hf.current fun r hpr hcheck => ?_
  obtain ⟨hgen, hprev, hsuper, hcols⟩ := hcheck
  have hact := hp r hpr
  have hpublished : r.isPublished = false := by
    simp only [SummaryRow.isActive, Bool.or_eq_true, beq_iff_eq] at hact
    rcases hact with h | h <;> simp [SummaryRow.isPublished, SummaryRow.isUnreadState, h]
  have hnotAbandoned : r.state ≠ .abandoned := by
    rintro hst
    simp [SummaryRow.isActive, hst] at hact
  rcases hcols with ⟨_, hclaim, hcache⟩ | ⟨hst, _⟩ | ⟨hst, _⟩
  · cases m
    · exact ⟨hgen, hprev, hsuper, Or.inl ⟨rfl, hclaim, hcache⟩⟩
    · exact ⟨hgen, hprev, hsuper, Or.inl ⟨rfl, hclaim, hcache⟩⟩
    · exact ⟨hgen, hprev, hsuper, Or.inr (Or.inl ⟨rfl, rfl, hcache⟩)⟩
  · exact absurd hst hnotAbandoned
  · rw [hpublished] at hst; cases hst

/-! ## The interrupted row of a task -/

section
variable {taskId : String} {r : SummaryRow}

theorem isActive_of_interrupted (h : r.state = .interrupted) : r.isActive = true :=
  by simp [SummaryRow.isActive, h]

theorem find_interrupted (h : LedgerInv db) (hr : r ∈ db.summaries) (htask : r.taskId = taskId)
    (hst : r.state = .interrupted) :
    db.summaries.find? (interruptedOf taskId) = some r := by
  cases hf : db.summaries.find? (interruptedOf taskId) with
  | none => simpa [interruptedOf, htask, hst] using List.find?_eq_none.1 hf r hr
  | some q =>
    have hq := List.find?_some hf
    simp only [interruptedOf, decide_eq_true_eq] at hq
    rw [eq_of_active h.schema (List.mem_of_find?_eq_some hf) hr (hq.1.trans htask.symm)
      (isActive_of_interrupted hq.2)
      (isActive_of_interrupted hst)]

/-- A predicate that holds of `r` and names its key selects that row alone. -/
theorem countP_key (h : LedgerInv db) (hr : r ∈ db.summaries) {p : SummaryRow → Bool} (hp : p r = true)
    (hkey : ∀ q, p q = true → q.taskId = r.taskId ∧ q.generation = r.generation) :
    db.summaries.countP p = 1 := by
  have hpos : 0 < db.summaries.countP p := List.countP_pos_iff.2 ⟨r, hr, hp⟩
  have hle : db.summaries.countP p ≤ 1 := countP_le_one h.schema.1 fun a b hab hboth =>
    hab.1 ⟨(hkey a hboth.1).1.trans (hkey b hboth.2).1.symm,
      (hkey a hboth.1).2.trans (hkey b hboth.2).2.symm⟩
  omega

/-- The database while `resume_interrupted_summary` loads the claim. -/
def resumedDb (db : StoreDb) (taskId : String) (generation : Nat) (requestId : String) : StoreDb :=
  { db with summaries := updateWhere (interruptedClaim
    taskId generation requestId) (setState .generating) db.summaries }

theorem interruptedClaim_active {generation : Nat} {requestId : String} {q : SummaryRow}
    (h : interruptedClaim taskId generation requestId q = true) : q.isActive = true := by
  simp only [interruptedClaim, decide_eq_true_eq] at h
  exact isActive_of_interrupted h.2.2.1

theorem ledger_resumed (h : LedgerInv db) (generation : Nat) (requestId : String) :
    LedgerInv (resumedDb db taskId generation requestId) :=
  ledger_update h (rowUpdate_mark .resume fun _ => interruptedClaim_active) rfl rfl
    (schema_mark h.schema .resume fun _ => interruptedClaim_active)

/-- Everything but the previous summary of the claim loads. -/
theorem resume_eq (env : Crates) (h : LedgerInv db) (huuid : env.isUuid taskId = true)
    (hr : r ∈ db.summaries)
    (htask : r.taskId = taskId) (hst : r.state = .interrupted) {requestId : String}
    (hclaim : r.claimId = some requestId) :
    ∃ cs, resumeInterruptedSummary env db taskId =
      match loadPreviousUnread (resumedDb db taskId r.generation requestId) taskId r.previousGeneration with
      | .ok previous =>
        .ok (some ⟨.replay, requestId, taskId, r.generation, previous, cs⟩,
          resumedDb db taskId r.generation requestId)
      | .error e => .error e := by
  have hinv := h.active r hr (isActive_of_interrupted hst)
  obtain ⟨cs, hload⟩ := hinv.load
  refine ⟨cs, ?_⟩
  have hcount : db.summaries.countP (interruptedClaim taskId r.generation requestId) = 1 :=
    countP_key h hr (by simp [interruptedClaim, htask, hst, hclaim]) fun q hq => by
      simp only [interruptedClaim, decide_eq_true_eq] at hq
      exact ⟨hq.1.trans htask.symm, hq.2.1⟩
  have hwrite :
    db.writeSummaries
    (updateWhere (interruptedClaim taskId r.generation requestId) (setState .generating) db.summaries) =
      .ok (resumedDb db taskId r.generation requestId) :=
    writeSummaries_eq_ok.2 ⟨schema_mark h.schema .resume fun _ => interruptedClaim_active, rfl⟩
  have hload' :
    loadCompletions (resumedDb db taskId r.generation requestId) taskId 0 r.coversCompletions = .ok cs := by
    rw [htask] at hload
    have hframe : ∀ completionId c, findCompletion db completionId taskId = some c →
        findCompletion (resumedDb db taskId r.generation requestId) completionId taskId =
          some c := fun _ _ hf => hf
    exact loadCompletions_frame hframe hload
  have hgen : 0 < r.generation ∧ r.previousGeneration ≠ some 0 :=
    ⟨(h.schema.2 r hr).1, (h.schema.2 r hr).2.1⟩
  unfold resumeInterruptedSummary loadSummaryClaim
  simp only [huuid, ensure_true, ok_bind, find_interrupted h hr htask hst, hclaim,
    hwrite, hcount, hload', hgen, hinv.covers,
    ne_eq, not_false_eq_true, and_self, decide_true]
  cases loadPreviousUnread (resumedDb db taskId r.generation requestId) taskId r.previousGeneration <;> rfl

/-- The claim loads when its previous summary is still the current one. -/
theorem loadPrevious_of_current (h : LedgerInv db) {previous : Option Nat}
    (hprev : ∀ p ∈ previous, ∃ q ∈ db.summaries, currentOf taskId q = true ∧ q.generation = p)
    (generation : Nat)
    (requestId : String) :
    ∃ u, loadPreviousUnread (resumedDb db taskId generation requestId) taskId previous = .ok u := by
  cases previous with
  | none => exact ⟨none, rfl⟩
  | some p =>
    obtain ⟨q, hq, hcur, hgen⟩ := hprev p rfl
    have hnot : interruptedClaim taskId generation requestId q = false := by
      by_contra hc
      have hact := interruptedClaim_active (by simpa using hc)
      simp only [currentOf, SummaryRow.isCurrent, SummaryRow.isUnreadState,
        Bool.and_eq_true, Bool.or_eq_true, beq_iff_eq] at hcur
      rcases hcur.2.1 with h | h <;> simp [SummaryRow.isActive, h] at hact
    have hq' : q ∈ (resumedDb db taskId generation requestId).summaries := mem_updateWhere_of_neg hq hnot
    obtain ⟨u, hu, hug⟩ := queryCurrentUnread_of_current (ledger_resumed h generation requestId) hq' hcur
    refine ⟨some u, ?_⟩
    simp [loadPreviousUnread, hu, hug, hgen]

/-- Without a current summary there is no previous one to go on from. -/
theorem loadPrevious_of_none {p : Nat} (hnone : ∀ q ∈ db.summaries, currentOf taskId q = false)
    (generation : Nat)
    (requestId : String) :
    loadPreviousUnread (resumedDb db taskId generation requestId) taskId (some p) =
      .error .invalidSummaryState := by
  have : queryCurrentUnread (resumedDb db taskId generation requestId) taskId = .ok none := by
    refine queryCurrentUnread_of_none fun q' hq' => ?_
    rcases mem_updateWhere.1 hq' with ⟨hq, _⟩ | ⟨q, _, _, rfl⟩
    · exact hnone q' hq
    · simp [currentOf, SummaryRow.isCurrent, SummaryRow.isUnreadState, setState]
  simp [loadPreviousUnread, this]

/-- The rows of a task that `abandon_interrupted_summary_for_task` gives up. -/
def abandonedRow (taskId : String) (generation : Nat) (q : SummaryRow) : Bool :=
  interruptedOf taskId q && decide (q.generation = generation)

theorem abandonedRow_iff {generation : Nat} {q : SummaryRow} :
    abandonedRow taskId generation q = true ↔ (q.taskId = taskId ∧ q.state = .interrupted) ∧
    q.generation = generation := by
  simp [abandonedRow, interruptedOf]

/-- `abandon_interrupted_summary_for_task` always gives an interrupted claim up. -/
theorem abandon_eq (env : Crates) (h : LedgerInv db) (huuid : env.isUuid taskId = true)
    (hr : r ∈ db.summaries)
    (htask : r.taskId = taskId) (hst : r.state = .interrupted) :
    abandonInterruptedSummaryForTask env db taskId = .ok (some r.generation, StoreDb.deleteTts
      { db with
        summaries := updateWhere (abandonedRow taskId r.generation) setAbandoned db.summaries }
        taskId r.generation) := by
  have hactive : ∀ q, abandonedRow taskId r.generation q = true → q.isActive = true := fun q hq =>
    isActive_of_interrupted (abandonedRow_iff.1 hq).1.2
  have hcount : db.summaries.countP (abandonedRow taskId r.generation) = 1 :=
    countP_key h hr (abandonedRow_iff.2 ⟨⟨htask, hst⟩, rfl⟩) fun q hq =>
      ⟨(abandonedRow_iff.1 hq).1.1.trans htask.symm, (abandonedRow_iff.1 hq).2⟩
  have hwrite :
    db.writeSummaries (updateWhere (abandonedRow taskId r.generation) setAbandoned db.summaries) = .ok
      { db with summaries := updateWhere (abandonedRow taskId r.generation) setAbandoned db.summaries } :=
    writeSummaries_eq_ok.2 ⟨schema_mark h.schema .abandon hactive, rfl⟩
  have hp : (fun q => interruptedOf taskId q && decide (q.generation = r.generation)) =
    abandonedRow taskId r.generation := rfl
  unfold abandonInterruptedSummaryForTask
  simp only [huuid, ensure_true, ok_bind, find_interrupted h hr htask hst, hp,
    hwrite, hcount, decide_true, pure_eq_ok]

/-- The task has no claim left after that. -/
theorem abandon_inactive (h : LedgerInv db) (hr : r ∈ db.summaries) (htask : r.taskId = taskId)
    (hst : r.state = .interrupted)
    {q : SummaryRow} (hq : q ∈ updateWhere (abandonedRow taskId r.generation) setAbandoned db.summaries)
    (hqtask : q.taskId = taskId) : q.isActive = false := by
  rcases mem_updateWhere.1 hq with ⟨hq, hp⟩ | ⟨q, _, _, rfl⟩
  · by_contra hact
    have := eq_of_active h.schema hq hr (hqtask.trans htask.symm) (by simpa using hact)
      (isActive_of_interrupted hst)
    rw [this, abandonedRow_iff.2 ⟨⟨htask, hst⟩, rfl⟩] at hp
    cases hp
  · rfl

end

/-- An interrupted claim resumes unless the summary it was to replace has been heard; then resuming
fails and leaves the store as it was, and abandoning succeeds and leaves the task without a claim
and its completions as they were. -/
theorem interrupted_recoverable (env : Crates) (ops : List StoreOp) (taskId : String)
    (r : SummaryRow) (hr : r ∈ (storeAfter env ops).summaries) (htask : r.taskId = taskId)
    (hst : r.state = .interrupted) :
    let resumes := ∃ claim, answer (storeStep env) .empty ops (.resumeInterruptedSummary taskId) =
      .resume (.ok (some claim)) ∧
      claim.generation = r.generation ∧ some claim.requestId = r.requestId
    let heard := ∃ q ∈ (storeAfter env ops).summaries, q.taskId = taskId ∧
      r.previousGeneration = some q.generation ∧
      q.state = .heard
    (resumes ↔ ¬ heard) ∧
    (heard → answer (storeStep env) .empty ops (.resumeInterruptedSummary taskId) =
      .resume (.error .invalidSummaryState) ∧
      storeAfter env (ops ++ [.resumeInterruptedSummary taskId]) = storeAfter env ops) ∧
    answer (storeStep env) .empty ops (.abandonInterruptedSummaryForTask taskId) =
      .abandonInterrupted (.ok (some r.generation)) ∧
    (storeAfter env (ops ++ [.abandonInterruptedSummaryForTask taskId])).completions =
      (storeAfter env ops).completions ∧
    ∀ q ∈ (storeAfter env (ops ++ [.abandonInterruptedSummaryForTask taskId])).summaries, q.taskId =
      taskId → q.isActive = false := by
  intro resumes heard
  have huuid : env.isUuid taskId = true := htask ▸ tasksValid_storeAfter env ops r hr
  have hinv := (inv_storeAfter env ops).ledger
  have hstep : ∀ op, storeAfter env (ops ++ [op]) = (storeStep env (storeAfter env ops) op).2 :=
    fun op => after_concat _ _ _
  have hclaimInv := hinv.active r hr (isActive_of_interrupted hst)
  -- the claim of an active row is its request
  obtain ⟨requestId, hclaim⟩ : ∃ requestId, r.claimId = some requestId := by
    rcases (hinv.schema.2 r hr).2.2.2 with ⟨_, hsome, _⟩ | ⟨hst', _⟩ | ⟨hst', _⟩
    · exact Option.isSome_iff_exists.1 hsome
    · rw [hst] at hst'; cases hst'
    · simp [SummaryRow.isPublished, SummaryRow.isUnreadState, hst] at hst'
  obtain ⟨cs, hresume⟩ := resume_eq env hinv huuid hr htask hst hclaim
  have hanswer : answer (storeStep env) .empty ops (.resumeInterruptedSummary taskId) =
      .resume
        (transact (resumeInterruptedSummary env (storeAfter env ops) taskId) (storeAfter env ops)).1 := rfl
  have hafter : storeAfter env (ops ++ [.resumeInterruptedSummary taskId]) =
      (transact (resumeInterruptedSummary env (storeAfter env ops) taskId) (storeAfter env ops)).2 :=
        hstep _
  -- hearing the previous summary is what ends its being current
  have hheard :
    heard → resumeInterruptedSummary env (storeAfter env ops) taskId = .error .invalidSummaryState := by
    rintro ⟨q, hq, hqtask, hprev, hqst⟩
    have hnone : ∀ x ∈ (storeAfter env ops).summaries, currentOf taskId x = false := by
      intro x hx
      by_contra hcur
      have hcur : currentOf taskId x = true := by simpa using hcur
      have hgen := hclaimInv.current x hx (htask ▸ hcur)
      rw [hprev, Option.some.injEq] at hgen
      rw [← eq_of_key hinv.schema hq hx (hqtask.trans (standing_of_current hcur).1.symm) hgen] at hcur
      simp [currentOf, SummaryRow.isCurrent, SummaryRow.isUnreadState, hqst] at hcur
    rw [hresume, hprev, loadPrevious_of_none hnone]
  have hnotHeard : ¬ heard → resumes := by
    intro hnot
    have hcurrent :
      ∀ p ∈ r.previousGeneration, ∃ q ∈ (storeAfter env ops).summaries, currentOf taskId q = true ∧
      q.generation = p := by
      intro p hp
      obtain ⟨q, hq, hqtask, hqgen, hstate, hsuper⟩ := hclaimInv.previous p hp
      refine ⟨q, hq, ?_, hqgen⟩
      rw [htask] at hqtask
      rcases hstate with h | h | h
      · simp [currentOf, SummaryRow.isCurrent, SummaryRow.isUnreadState, hqtask, h, hsuper]
      · simp [currentOf, SummaryRow.isCurrent, SummaryRow.isUnreadState, hqtask, h, hsuper]
      · exact absurd ⟨q, hq, hqtask, hqgen ▸ hp, h⟩ hnot
    obtain ⟨u, hu⟩ := loadPrevious_of_current hinv hcurrent r.generation requestId
    rw [hu] at hresume
    refine ⟨_, by rw [hanswer, hresume]; rfl, rfl, ?_⟩
    rw [← hclaimInv.claimId, hclaim]
  refine ⟨⟨?_, hnotHeard⟩, fun h => ?_, ?_, ?_, ?_⟩
  · rintro ⟨claim, hok, _⟩ h
    rw [hanswer, hheard h] at hok
    cases hok
  · rw [hanswer, hafter, hheard h]
    exact ⟨rfl, rfl⟩
  all_goals
    have habandon := abandon_eq env hinv huuid hr htask hst
  · show StoreAnswer.abandonInterrupted
      (transact (abandonInterruptedSummaryForTask env (storeAfter env ops) taskId) _).1 = _
    rw [habandon]; rfl
  · rw [hstep]
    show (transact (abandonInterruptedSummaryForTask env (storeAfter env ops) taskId)
      (storeAfter env ops)).2.completions = _
    rw [habandon]; rfl
  · rw [hstep]
    show ∀ q ∈
      (transact (abandonInterruptedSummaryForTask env (storeAfter env ops) taskId)
      (storeAfter env ops)).2.summaries, _
    rw [habandon]
    exact fun q hq hqtask => abandon_inactive hinv hr htask hst hq hqtask

/-! ## A claim whose previous summary is heard after a restart -/

/-- The crates on the values of `heardRun`: `sampleTask` and the two completion ids are UUIDs, and
`sha256` is asked for the digest of `sampleTask` only. -/
def sampleCrates : Crates where
  isUuid s := s.utf8ByteSize == 36
  isJsonObject s := s == "\x7b\x7d"
  sha256 _ := [189, 118, 98, 165, 238, 180, 22, 20, 231, 32, 212, 119, 171, 252,
    178, 39, 46, 25, 168, 167, 10, 147, 183,
    227, 188, 133, 96, 212, 74, 211, 38, 233]

def sampleTask : String := "11111111-1111-4111-8111-111111111111"

/-- A cursor just after the `n`th completion. -/
def sampleCursor (n : Nat) : RolloutCursor :=
  ⟨sampleTask, [0x2f, 0x72], 1, 1, 100 * n, 1, List.replicate 32 1⟩

def sampleReference : String := "bd7662a5eeb41614e720d477abfcb2272e19a8a70a93b7e3bc8560d44ad326e9/1"

def sampleLease : PlaybackLease := ⟨7, 1, sampleTask, 1, 1, 1, sampleReference⟩

/-- The first summary is published, a second claim replaces it, the Host restarts, and the first one
is played. -/
def heardRun : List StoreOp :=
  let first : PendingCompletion := ⟨"22222222-2222-4222-8222-222222222222", "\x7b\x7d"⟩
  let second : PendingCompletion := ⟨"33333333-3333-4333-8333-333333333333", "\x7b\x7d"⟩
  [.setBinding 1 none sampleTask,
   .commitRolloutCompletion 10 none none (sampleCursor 1) first.completionId first.turnPack,
   .claimSummary sampleTask "a",
   .publishSummary ⟨.inserted, "a", sampleTask, 1, none, [first]⟩ sampleReference,
   .commitRolloutCompletion 20 none (some (sampleCursor 1))
     (sampleCursor 2) second.completionId second.turnPack,
   .claimSummary sampleTask "b",
   .restart .complete,
   .acquireSummaryPlayback 1 1 1 7,
   .finishSummaryPlayback sampleLease]

/-- The second claim stays interrupted, and resuming it fails. -/
theorem resume_fails_after_hearing :
    (storeAfter sampleCrates heardRun).summaries.any (fun r =>
      decide (r.taskId = sampleTask ∧ r.state = .interrupted)) = true ∧
    answer (storeStep sampleCrates) .empty heardRun (.resumeInterruptedSummary sampleTask) =
      .resume (.error .invalidSummaryState) ∧
    storeAfter sampleCrates (heardRun ++ [.resumeInterruptedSummary sampleTask]) =
      storeAfter sampleCrates heardRun := by
  refine ⟨by decide, by rfl, by decide⟩

/-- Abandoning it leaves the task without a claim. -/
theorem interrupted_abandoned_after_hearing :
    answer (storeStep sampleCrates) .empty heardRun (.abandonInterruptedSummaryForTask sampleTask) =
      .abandonInterrupted (.ok (some 2)) ∧
    (storeAfter sampleCrates (heardRun ++ [.abandonInterruptedSummaryForTask sampleTask])).completions =
      (storeAfter sampleCrates heardRun).completions ∧
    ∀ q ∈ (storeAfter sampleCrates (heardRun ++ [.abandonInterruptedSummaryForTask sampleTask])).summaries,
      q.taskId = sampleTask → q.isActive = false :=
  (interrupted_recoverable sampleCrates heardRun sampleTask
    { claimedRow sampleTask "b" 2 ["33333333-3333-4333-8333-333333333333"] (some
      1) with state := .interrupted }
    (by decide) rfl rfl).2.2

end CodexKeyboard.Store
