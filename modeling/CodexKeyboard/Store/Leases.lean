import CodexKeyboard.Store.Coverage
/-!
# Playback leases and heard summaries

A row is leased exactly while its lease is stored (`LeaseInv`). Only `finish_summary_playback` makes
a row heard, and only with a stored lease (`heard_of_finish`); a lease comes into the table by the
acquire call with its own values only (`acquired_of_stored`), so a lease that was cancelled or
dropped by a restart is worthless until the same lease is acquired again.
-/

namespace CodexKeyboard.Store

open Lib

variable {db db' : StoreDb} {op : StoreOp}

theorem heard_update {p : SummaryRow → Bool} {f : SummaryRow → SummaryRow}
    (hnot : ∀ r, p r = true → (f r).state ≠ .heard) {rows : List SummaryRow} {r' : SummaryRow}
    (hr' : r' ∈ updateWhere p f rows) (hheard : r'.state = .heard) : r' ∈ rows := by
  rcases mem_updateWhere.1 hr' with ⟨hr, _⟩ | ⟨r, _, hp, rfl⟩
  · exact hr
  · exact absurd hheard (hnot r hp)

/-- What one effect can make heard. -/
theorem heard_effect (he : Effect op db db') {r' : SummaryRow} (hr' : r' ∈ db'.summaries)
    (hheard : r'.state = .heard) :
    r' ∈ db.summaries ∨ ∃ lease, op = .finishSummaryPlayback lease ∧ lease.row ∈ db.leases ∧
      lease.taskId = r'.taskId ∧ lease.summaryGeneration = r'.generation := by
  cases he with
  | keep hs => exact Or.inl (hs ▸ hr')
  | observe c hs => exact Or.inl (hs ▸ hr')
  | claim r _ _ hs _ hstate =>
    rw [hs] at hr'
    rcases List.mem_append.1 hr' with hr | hr
    · exact Or.inl hr
    · rw [List.mem_singleton.1 hr, hstate] at hheard; cases hheard
  | mark m p _ _ hs _ hp =>
    refine Or.inl (heard_update (fun r _ => ?_) (hs ▸ hr') hheard)
    cases m <;> simp [ClaimMark.apply, setState, setAbandoned]
  | publish taskId requestId cacheObject generation move _ _ hs =>
    rcases (publish_rows hs).1 hr' with ⟨r, _, _, rfl⟩ | ⟨r, hr, hcur, rfl⟩ | ⟨hr, _, _⟩
    · cases hheard
    · simp only [currentOf, SummaryRow.isCurrent, SummaryRow.isUnreadState,
        Bool.and_eq_true, Bool.or_eq_true, beq_iff_eq] at hcur
      rcases hcur.2.1 with h | h <;> simp [supersede, h] at hheard
    · exact Or.inl hr
  | lease l _ _ _ _ hs =>
    exact Or.inl (heard_update (fun r _ => by simp [setState])
      (hs ▸ hr') hheard)
  | cancel l _ _ _ hs =>
    refine Or.inl (heard_update (fun r _ => ?_) (hs ▸ hr') hheard)
    simp only [unlease]; split <;> simp
  | hear lease hop hmem _ _ hs =>
    rw [hs] at hr'
    rcases mem_updateWhere.1 hr' with ⟨hr, _⟩ | ⟨r, _, hp, rfl⟩
    · exact Or.inl hr
    · simp only [leasedRow, Bool.and_eq_true, decide_eq_true_eq] at hp
      exact Or.inr ⟨lease, hop, hmem, hp.1.1.symm, hp.1.2.1.symm⟩
  | recoverLeases _ _ hs =>
    refine Or.inl (heard_update (fun r _ => ?_) (hs ▸ hr') hheard)
    simp only [unlease]; split <;> simp

/-- A lease row appears by the acquire call with its values. -/
theorem acquired_effect (he : Effect op db db') {l : LeaseRow} (hnot : l ∉ db.leases)
    (hl : l ∈ db'.leases) :
    op = .acquireSummaryPlayback l.slot l.requestGeneration l.connectionGeneration l.leaseId := by
  have hsame : db'.leases = db.leases → False := fun h => hnot (h ▸ hl)
  cases he with
  | keep _ _ h => exact (hsame h).elim
  | observe c _ h => exact (hsame h).elim
  | claim r _ h => exact (hsame h).elim
  | mark m p _ h => exact (hsame h).elim
  | publish _ _ _ _ _ h => exact (hsame h).elim
  | lease l' hop _ h =>
    rw [h] at hl
    rcases List.mem_append.1 hl with hl | hl
    · exact absurd hl hnot
    · rw [List.mem_singleton.1 hl]; exact hop
  | cancel l' _ _ h => rw [h] at hl; exact absurd (List.mem_of_mem_filter hl) hnot
  | hear lease _ _ _ h => rw [h] at hl; exact absurd (List.mem_of_mem_filter hl) hnot
  | recoverLeases _ h => rw [h] at hl; simp at hl

theorem heard_of_finish (env : Crates) (h : StoreInv db) {r' : SummaryRow}
    (hr' : r' ∈ (storeStep env db op).2.summaries)
    (hheard : r'.state = .heard) :
    r' ∈ db.summaries ∨ ∃ lease, op = .finishSummaryPlayback lease ∧ lease.row ∈ db.leases ∧
      lease.taskId = r'.taskId ∧ lease.summaryGeneration = r'.generation := by
  obtain ⟨mid, h1, h2⟩ := storeStep_effects env op h
  rcases heard_effect h2 hr' hheard with hmid | ⟨lease, hop, hmem, hkey⟩
  · exact heard_effect h1 hmid hheard
  · -- the lease that `finish` found in between was stored before the call: only an acquire adds one
    refine Or.inr ⟨lease, hop, ?_, hkey⟩
    by_contra hnot
    have := acquired_effect h1 hnot hmem
    rw [hop] at this; cases this

theorem acquired_of_stored (env : Crates) (h : StoreInv db) {l : LeaseRow} (hnot : l ∉ db.leases)
    (hl : l ∈ (storeStep env db op).2.leases) :
    op = .acquireSummaryPlayback l.slot l.requestGeneration l.connectionGeneration l.leaseId := by
  obtain ⟨mid, h1, h2⟩ := storeStep_effects env op h
  by_cases hmid : l ∈ mid.leases
  · exact acquired_effect h1 hnot hmid
  · exact acquired_effect h2 hmid hl

/-- A lease row that a run brought back was acquired in that run, with exactly its values. -/
theorem acquire_of_run (env : Crates) (ops later : List StoreOp) {l : LeaseRow}
    (hnot : l ∉ (storeAfter env ops).leases)
    (hl : l ∈ (storeAfter env (ops ++ later)).leases) :
    ∃ mid rest, later =
      mid ++ .acquireSummaryPlayback l.slot l.requestGeneration l.connectionGeneration l.leaseId :: rest ∧
      l ∉ (storeAfter env (ops ++ mid)).leases := by
  rw [storeAfter_append] at hl
  obtain ⟨mid, op, rest, rfl, hpre, hpost⟩ :=
    exists_cause (Q := fun db : StoreDb => l ∈ db.leases) later hnot hl
  rw [← storeAfter_append] at hpre hpost
  exact ⟨mid, rest, by rw [acquired_of_stored env (inv_storeAfter env (ops ++ mid)) hpre hpost], hpre⟩

/-! ## The calls on a lease -/

section
variable (env : Crates) (lease : PlaybackLease)

theorem finish_true (h : (storeStep env db (.finishSummaryPlayback lease)).1 = .finish (.ok true)) :
    lease.row ∈ db.leases := by
  have hok : (transact (finishSummaryPlayback env db lease) db).1 = .ok true := by injection h
  have hbody := transact_fst_eq_ok.1 hok
  unfold finishSummaryPlayback at hbody
  simp only [bind_eq_ok] at hbody
  obtain ⟨_, _, hbody⟩ := hbody
  split at hbody
  · cases hbody
  · exact not_not.1 ‹_›

/-- Hearing a summary changes its own row, and nothing else of the ledgers. -/
theorem finish_frame (db : StoreDb) :
    (storeStep env db (.finishSummaryPlayback lease)).2.completions = db.completions ∧
    ∀ r ∈ db.summaries, ¬(r.taskId = lease.taskId ∧ r.generation = lease.summaryGeneration) →
      r ∈ (storeStep env db (.finishSummaryPlayback lease)).2.summaries := by
  have hbody : ∀ b db', finishSummaryPlayback env db lease = .ok (b, db') →
    db'.completions = db.completions ∧
      ∀ r ∈ db.summaries, ¬(r.taskId = lease.taskId ∧ r.generation = lease.summaryGeneration) →
      r ∈ db'.summaries := by
    intro b db' hok
    unfold finishSummaryPlayback at hok
    simp only [bind_eq_ok] at hok
    obtain ⟨_, _, hok⟩ := hok
    split at hok
    · cases hok; exact ⟨rfl, fun r hr _ => hr⟩
    · simp only [bind_eq_ok, writeSummaries_eq_ok, pure_eq_ok, Except.ok.injEq, Prod.mk.injEq] at hok
      obtain ⟨db₁, ⟨_, rfl⟩, _, _, _, rfl⟩ := hok
      refine ⟨rfl, fun r hr hne => mem_updateWhere_of_neg hr ?_⟩
      by_contra hp
      simp only [Bool.not_eq_false, leasedRow, Bool.and_eq_true, decide_eq_true_eq] at hp
      exact hne ⟨hp.1.1, hp.1.2.1⟩
  exact transact_induction (I := fun db' : StoreDb => db'.completions = db.completions ∧
    ∀ r ∈ db.summaries, ¬(r.taskId = lease.taskId ∧ r.generation = lease.summaryGeneration) →
    r ∈ db'.summaries)
    ⟨rfl, fun r hr _ => hr⟩ hbody

theorem cancel_ok {b : Bool} (h : (storeStep env db (.cancelSummaryPlayback lease)).1 = .cancel (.ok b)) :
    lease.row ∉ (storeStep env db (.cancelSummaryPlayback lease)).2.leases := by
  have hok : (transact (cancelSummaryPlayback env db lease) db).1 = .ok b := by injection h
  have hbody := transact_fst_eq_ok.1 hok
  show lease.row ∉ (transact (cancelSummaryPlayback env db lease) db).2.leases
  generalize (transact (cancelSummaryPlayback env db lease) db).2 = db' at hbody
  unfold cancelSummaryPlayback at hbody
  simp only [bind_eq_ok] at hbody
  obtain ⟨_, _, hbody⟩ := hbody
  split at hbody
  · simp only [bind_eq_ok, writeSummaries_eq_ok, pure_eq_ok, Except.ok.injEq, Prod.mk.injEq] at hbody
    obtain ⟨db₁, ⟨_, rfl⟩, _, rfl⟩ := hbody
    simp [deleteWhere]
  · cases hbody
    simp [deleteWhere]

end

theorem restart_ok (env : Crates) {n : Nat}
    (h : (storeStep env db (.restart .complete)).1 = .restart (.ok n)) :
    (storeStep env db (.restart .complete)).2.leases = [] := by
  simp only [storeStep, openStore, Prod.map] at h ⊢
  split at h
  · cases h
  · split at h
    · cases h
    · rename_i mid _ _ u last heq
      have hbody : recoverInterruptedPlaybackLeases mid = .ok (u, last) := by
        have := transact_fst_eq_ok.1 (congrArg Prod.fst heq)
        rwa [heq] at this
      unfold recoverInterruptedPlaybackLeases at hbody
      simp only [bind_eq_ok, writeSummaries_eq_ok, pure_eq_ok, Except.ok.injEq, Prod.mk.injEq] at hbody
      obtain ⟨_, _, _, rfl⟩ := hbody
      rfl

/-- Leased rows and stored leases are the same summaries; a summary is heard by `finish` with a
stored lease only; a lease that is not stored needs its acquire call again before it can finish; and
hearing a summary touches neither the other summaries of the task nor any completion. -/
theorem leases_in_step (env : Crates) (ops : List StoreOp) :
    (∀ r ∈ (storeAfter env ops).summaries, r.state = .leased ↔
      (storeAfter env ops).leases.countP (fun l =>
        decide (l.taskId = r.taskId ∧ l.summaryGeneration = r.generation)) = 1) ∧
    (∀ op, ∀ r ∈ (storeAfter env (ops ++ [op])).summaries, r.state = .heard →
      r ∈ (storeAfter env ops).summaries ∨
      ∃ lease, op = .finishSummaryPlayback lease ∧ lease.row ∈ (storeAfter env ops).leases ∧
        lease.taskId = r.taskId ∧ lease.summaryGeneration = r.generation) ∧
    (∀ lease later, lease.row ∉ (storeAfter env ops).leases →
      answer (storeStep env) .empty (ops ++ later) (.finishSummaryPlayback lease) = .finish (.ok true) →
      ∃ mid rest, later = mid ++
          .acquireSummaryPlayback lease.slot lease.requestGeneration lease.connectionGeneration
            lease.lease :: rest ∧
        lease.row ∉ (storeAfter env (ops ++ mid)).leases) ∧
    (∀ lease b, answer (storeStep env) .empty ops (.cancelSummaryPlayback lease) = .cancel (.ok b) →
      lease.row ∉ (storeAfter env (ops ++ [.cancelSummaryPlayback lease])).leases) ∧
    (∀ n, answer (storeStep env) .empty ops (.restart .complete) = .restart (.ok n) →
      (storeAfter env (ops ++ [.restart .complete])).leases = []) ∧
    (∀ lease, (storeAfter env (ops ++ [.finishSummaryPlayback lease])).completions =
      (storeAfter env ops).completions ∧
      ∀ r ∈ (storeAfter env ops).summaries, ¬(r.taskId = lease.taskId ∧
        r.generation = lease.summaryGeneration) →
        r ∈ (storeAfter env (ops ++ [.finishSummaryPlayback lease])).summaries) ∧
    (∀ r ∈ (storeAfter env ops).summaries, ∀ g, r.supersededBy = some g → r.generation < g ∧
      (storeAfter env ops).completions.countP (coveredBy r.taskId r.generation) = 0) := by
  have hinv := inv_storeAfter env ops
  have hstep : ∀ op, storeAfter env (ops ++ [op]) = (storeStep env (storeAfter env ops) op).2 :=
    fun op => after_concat _ _ _
  refine ⟨fun r hr => ?_, fun op r hr hheard => ?_, fun lease later hnot hfinish => ?_,
    fun lease b h => ?_, fun n h => ?_,
    fun lease => ?_, fun r hr g hg => ?_⟩
  · have hle : (storeAfter env ops).leases.countP
        (fun l => decide (l.taskId = r.taskId ∧ l.summaryGeneration = r.generation)) ≤ 1 :=
      countP_le_one hinv.lease.keys fun a b hab hboth => by
        simp only [decide_eq_true_eq] at hboth
        exact hab.2 ⟨hboth.1.1.trans hboth.2.1.symm, hboth.1.2.trans hboth.2.2.symm⟩
    have hpos : 0 < (storeAfter env ops).leases.countP
        (fun l => decide (l.taskId = r.taskId ∧ l.summaryGeneration = r.generation)) ↔
        LeasedKey (storeAfter env ops).summaries r.taskId r.generation := by
      rw [hinv.lease.leased, List.countP_pos_iff]
      simp
    constructor
    · intro hst
      have := hpos.2 ⟨r, hr, rfl, rfl, hst⟩
      omega
    · intro hone
      obtain ⟨r', hr', htask, hgen, hst⟩ := hpos.1 (by omega)
      rw [← eq_of_key hinv.ledger.schema hr' hr htask hgen]; exact hst
  · rw [hstep] at hr
    exact heard_of_finish env hinv hr hheard
  · exact acquire_of_run env ops later hnot (finish_true env lease hfinish)
  · rw [hstep]; exact cancel_ok env lease h
  · rw [hstep]; exact restart_ok env h
  · rw [hstep]; exact finish_frame env lease _
  · refine ⟨(hinv.ledger.schema.2 r hr).2.2.1 g hg, List.countP_eq_zero.2 fun c hc hcov => ?_⟩
    simp only [coveredBy, decide_eq_true_eq] at hcov
    obtain ⟨r', hr', htask, hgen, _, hsuper⟩ := hinv.ledger.covered c hc _ hcov.2
    rw [eq_of_key hinv.ledger.schema hr' hr (htask.trans hcov.1) hgen, hg] at hsuper
    cases hsuper

end CodexKeyboard.Store
