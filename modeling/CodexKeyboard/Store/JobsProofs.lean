import CodexKeyboard.Store.Jobs
/-!
# The prompt queue over whole runs: FIFO, bounds, idempotent submission and fencing

`JobsInv` is what every reachable queue satisfies. Each call has one lemma that says what it did
(`enqueue_eq_ok`, `claimNextRunnable_eq_ok`, …); everything else is derived from these.
-/

namespace CodexKeyboard.Store

open Lib

/-! ## What each call does -/

/-- The submission a row was inserted for. -/
def JobRow.submitted (r : JobRow) : NewJob where
  requestId := r.requestId
  taskId := r.taskId
  slot := r.slot
  generation := r.generation
  prompt := r.prompt
  cwd := r.cwd

/-- The columns no statement ever changes. -/
def JobRow.identity (r : JobRow) : Nat × NewJob := (r.sequence, r.submitted)

@[simp] theorem identity_setRunning (g : Nat) (r : JobRow) : (setRunning g r).identity = r.identity := rfl
@[simp] theorem identity_setCompleted (r : JobRow) : (setCompleted r).identity = r.identity := rfl
@[simp] theorem identity_setFailed (k : JobFailureKind) (r : JobRow) :
    (setFailed k r).identity = r.identity := rfl
@[simp] theorem identity_requeue (r : JobRow) : (requeue r).identity = r.identity := rfl

theorem requestId_of_identity {a b : JobRow} (h : a.identity = b.identity) : a.requestId = b.requestId :=
  congrArg (·.2.requestId) h

theorem taskId_of_identity {a b : JobRow} (h : a.identity = b.identity) : a.taskId = b.taskId :=
  congrArg (·.2.taskId) h

theorem sequence_of_identity {a b : JobRow} (h : a.identity = b.identity) : a.sequence = b.sequence :=
  congrArg (·.1) h

@[simp] theorem write_eq_ok {t t' : JobsTable} {rows : List JobRow} :
    t.write rows = .ok t' ↔ jobsSchema rows ∧ t' = { t with rows } := by
  unfold JobsTable.write
  by_cases h : jobsSchema rows <;> simp [h, eq_comm]

/-- The submission passes both checks made before the transaction. -/
def NewJob.Valid (job : NewJob) : Prop := validateSlot job.slot = .ok () ∧ validateJob job = .ok ()

theorem JobRow.Compatible.symm (a b : JobRow) (h : a.Compatible b) : b.Compatible a :=
  ⟨h.1.symm, h.2.1.symm, fun ⟨ht, hb, ha⟩ => h.2.2 ⟨ht.symm, ha, hb⟩⟩

/-- Two rows of one request are the same row. -/
theorem eq_of_requestId {rows : List JobRow} (hs : jobsSchema rows) {a b : JobRow} (ha : a ∈ rows)
    (hb : b ∈ rows)
    (h : a.requestId = b.requestId) : a = b := by
  by_contra hne
  exact (rel_of_pairwise JobRow.Compatible.symm hs.1 ha hb hne).2.1 h

theorem find_requestId {rows : List JobRow} {requestId : String} {r : JobRow}
    (h : rows.find? (fun r => decide (r.requestId = requestId)) = some r) :
    r ∈ rows ∧ r.requestId = requestId :=
  ⟨List.mem_of_find?_eq_some h, by simpa using List.find?_some h⟩

/-- The comparison of all five fields, behind the conversion of the generation. -/
theorem exactReplay_eq (r : JobRow) (job : NewJob) :
    exactReplay r job =
      if r.taskId = job.taskId ∧ r.slot = job.slot ∧ i64Max < job.generation then
        .error .generationOutOfRange
      else .ok (decide (r.submitted = { job with requestId := r.requestId })) := by
  unfold exactReplay
  by_cases hts : r.taskId = job.taskId ∧ r.slot = job.slot
  · obtain ⟨ht, hs⟩ := hts
    by_cases hg : i64Max < job.generation
    · simp [ht, hs, hg, toI64, Nat.not_le.2 hg]
    · simp [ht, hs, hg, toI64, Nat.not_lt.1 hg, JobRow.submitted]
  · have hne : r.submitted ≠ { job with requestId := r.requestId } := fun heq =>
      hts ⟨congrArg NewJob.taskId heq, congrArg NewJob.slot heq⟩
    rw [if_neg hts, if_neg fun h => hts ⟨h.1, h.2.1⟩, decide_eq_false hne]
    rfl

/-- An accepted submission repeats a row or appends one. -/
theorem enqueue_eq_ok {t t' : JobsTable} {job : NewJob} {out : EnqueueOutcome}
    (h : enqueue t job = .ok (out, t')) :
    (out = .replay ∧ t' = t ∧ ∃ r ∈ t.rows, r.submitted = job) ∨
    (out = .inserted ∧ job.Valid ∧ job.generation ≤ i64Max ∧
      (∀ r ∈ t.rows, r.requestId ≠ job.requestId) ∧ pendingCount t job.taskId < maxPendingJobsPerTask ∧
      jobsSchema t'.rows ∧
      t' = ⟨t.rows ++ [newRow (t.lastSequence + 1) job job.generation], t.lastSequence + 1⟩) := by
  unfold enqueue at h
  simp only [bind_eq_ok] at h
  obtain ⟨_, hslot, _, hjob, h⟩ := h
  split at h
  · rename_i r hr
    obtain ⟨hmem, hid⟩ := find_requestId hr
    simp only [bind_eq_ok, ensure_eq_ok, pure_eq_ok, Except.ok.injEq, Prod.mk.injEq] at h
    obtain ⟨b, hb, _, rfl, rfl, rfl⟩ := h
    refine Or.inl ⟨rfl, rfl, r, hmem, ?_⟩
    rw [exactReplay_eq, hid] at hb
    split at hb
    · cases hb
    · simpa using hb
  · rename_i hnone
    simp only [bind_eq_ok, ensure_eq_ok, toI64_eq_ok, write_eq_ok,
      decide_eq_true_eq, pure_eq_ok, Except.ok.injEq,
      Prod.mk.injEq] at h
    obtain ⟨_, hp, _, ⟨hg, rfl⟩, _, _, t₁, ⟨hs, rfl⟩, rfl, rfl⟩ := h
    refine Or.inr ⟨rfl, ⟨hslot, hjob⟩, hg, fun r hr => ?_, hp, hs, rfl⟩
    simpa using List.find?_eq_none.1 hnone r hr

/-- A claim takes a runnable row, and no other row of its request. -/
theorem claimNextRunnable_eq_ok {t t' : JobsTable} {out : Option Job}
    (h : claimNextRunnable t = .ok (out, t')) :
    (out = none ∧ t' = t) ∨
    ∃ r ∈ t.rows, isRunnable t.rows r = true ∧ runningCount t < maxGlobalRunningJobs ∧
      t.rows.countP (queuedRequest r.requestId) = 1 ∧ jobsSchema t'.rows ∧
      t' = { t with
        rows := updateWhere (queuedRequest r.requestId) (setRunning (r.claimGeneration + 1)) t.rows } ∧
      out = some (mapJob (setRunning (r.claimGeneration + 1) r)) := by
  unfold claimNextRunnable at h
  split at h
  · cases h; exact Or.inl ⟨rfl, rfl⟩
  rename_i hrun
  split at h
  · cases h; exact Or.inl ⟨rfl, rfl⟩
  rename_i r hr
  simp only [bind_eq_ok, ensure_eq_ok, write_eq_ok] at h
  obtain ⟨_, _, t₁, ⟨hs, rfl⟩, h⟩ := h
  split at h
  · cases h; exact Or.inl ⟨rfl, rfl⟩
  rename_i hc
  split at h
  · cases h
  rename_i r' hr'
  cases h
  obtain ⟨hmem', hid'⟩ := find_requestId hr'
  have hmem : r ∈ t.rows := List.mem_of_find?_eq_some hr
  have hrunnable : isRunnable t.rows r = true := List.find?_some hr
  have hq : queuedRequest r.requestId r = true := by
    simp only [isRunnable, Bool.and_eq_true] at hrunnable
    simp [queuedRequest, hrunnable.1.1]
  -- the row read back is the one just written: request ids are unique in the new table
  have hback : r' = setRunning (r.claimGeneration + 1) r :=
    eq_of_requestId hs hmem' (mem_updateWhere_of_pos hmem hq) hid'
  exact Or.inr ⟨r, hmem, hrunnable, by omega, not_not.1 hc, hs, rfl, by rw [hback]⟩

theorem markTerminal_eq_ok {t t' : JobsTable} {requestId : String} {g : Nat} {set : JobRow → JobRow}
    {b : Bool}
    (h : markTerminal t requestId g set = .ok (b, t')) :
    jobsSchema t'.rows ∧ t' = { t with rows := updateWhere (runningClaim requestId g) set t.rows } := by
  unfold markTerminal at h
  simp only [bind_eq_ok, toI64_eq_ok, write_eq_ok, pure_eq_ok, Except.ok.injEq, Prod.mk.injEq] at h
  obtain ⟨_, ⟨_, rfl⟩, _, ⟨hs, rfl⟩, _, rfl⟩ := h
  exact ⟨hs, rfl⟩

theorem recoverInterruptedJobs_eq_ok {t t' : JobsTable} {n : Nat}
    (h : recoverInterruptedJobs t = .ok (n, t')) :
    jobsSchema t'.rows ∧ t' = { t with rows := updateWhere JobRow.isRunning requeue t.rows } := by
  unfold recoverInterruptedJobs at h
  simp only [bind_eq_ok, write_eq_ok, pure_eq_ok, Except.ok.injEq, Prod.mk.injEq] at h
  obtain ⟨_, ⟨hs, rfl⟩, _, rfl⟩ := h
  exact ⟨hs, rfl⟩

/-- Everything one call can do to the table. -/
theorem jobStep_cases (t : JobsTable) (op : JobOp) :
    ((jobStep t op).2 = t ∧ ∀ job, (jobStep t op).1 ≠ .claim (.ok (some job))) ∨
    jobsSchema (jobStep t op).2.rows ∧
    ((∃ job, op = .enqueue job ∧ job.Valid ∧ job.generation ≤ i64Max ∧
        (∀ r ∈ t.rows, r.requestId ≠ job.requestId) ∧ pendingCount t job.taskId < maxPendingJobsPerTask ∧
        (jobStep t op).2 =
          ⟨t.rows ++ [newRow (t.lastSequence + 1) job job.generation], t.lastSequence + 1⟩) ∨
      (∃ r ∈ t.rows, op = .claimNextRunnable ∧
        (jobStep t op).1 = .claim (.ok (some (mapJob (setRunning (r.claimGeneration + 1) r)))) ∧
        isRunnable t.rows r = true ∧
        runningCount t < maxGlobalRunningJobs ∧ t.rows.countP (queuedRequest r.requestId) = 1 ∧
        (jobStep t op).2 =
          { t with
            rows := updateWhere (queuedRequest r.requestId) (setRunning (r.claimGeneration + 1)) t.rows }) ∨
      (∃ requestId g set, (op = .markCompleted requestId g ∧ set = setCompleted ∨
          ∃ k, op = .markFailed requestId g k ∧ set = setFailed k) ∧
        (jobStep t op).2 = { t with rows := updateWhere (runningClaim requestId g) set t.rows }) ∨
      (op = .restart ∧
        (jobStep t op).2 = { t with rows := updateWhere JobRow.isRunning requeue t.rows })) := by
  cases op with
  | enqueue job =>
    unfold jobStep Prod.map
    dsimp only
    cases h : enqueue t job with
    | error e => exact Or.inl ⟨rfl, by simp⟩
    | ok res =>
      obtain ⟨out, t'⟩ := res
      rcases enqueue_eq_ok h with ⟨_, ht, _⟩ | ⟨_, hv, hg, hf, hp, hs, ht⟩
      · exact Or.inl ⟨ht, by simp⟩
      · exact Or.inr ⟨hs, Or.inl ⟨job, rfl, hv, hg, hf, hp, ht⟩⟩
  | claimNextRunnable =>
    unfold jobStep Prod.map
    dsimp only
    cases h : claimNextRunnable t with
    | error e => exact Or.inl ⟨rfl, by simp⟩
    | ok res =>
      obtain ⟨out, t'⟩ := res
      rcases claimNextRunnable_eq_ok h with ⟨rfl, ht⟩ | ⟨r, hr, hrun, hlt, hc, hs, ht, rfl⟩
      · exact Or.inl ⟨ht, by simp⟩
      · exact Or.inr ⟨hs, Or.inr (Or.inl ⟨r, hr, rfl, rfl, hrun, hlt, hc, ht⟩)⟩
  | markCompleted requestId g =>
    unfold jobStep Prod.map
    dsimp only
    cases h : markCompleted t requestId g with
    | error e => exact Or.inl ⟨rfl, by simp⟩
    | ok res =>
      obtain ⟨hs, ht⟩ := markTerminal_eq_ok h
      exact Or.inr ⟨hs, Or.inr (Or.inr (Or.inl ⟨requestId, g, _, Or.inl ⟨rfl, rfl⟩, ht⟩))⟩
  | markFailed requestId g k =>
    unfold jobStep Prod.map
    dsimp only
    cases h : markFailed t requestId g k with
    | error e => exact Or.inl ⟨rfl, by simp⟩
    | ok res =>
      obtain ⟨hs, ht⟩ := markTerminal_eq_ok h
      exact Or.inr ⟨hs, Or.inr (Or.inr (Or.inl ⟨requestId, g, _, Or.inr ⟨k, rfl, rfl⟩, ht⟩))⟩
  | restart =>
    unfold jobStep Prod.map
    dsimp only
    cases h : recoverInterruptedJobs t with
    | error e => exact Or.inl ⟨rfl, by simp⟩
    | ok res =>
      obtain ⟨hs, ht⟩ := recoverInterruptedJobs_eq_ok h
      exact Or.inr ⟨hs, Or.inr (Or.inr (Or.inr ⟨rfl, ht⟩))⟩

/-! ## The invariant -/

/-- What every reachable queue satisfies. -/
structure JobsInv (t : JobsTable) : Prop where
  schema : jobsSchema t.rows
  sorted : t.rows.Pairwise fun a b => a.sequence < b.sequence
  bounded : ∀ r ∈ t.rows, r.sequence ≤ t.lastSequence
  valid : ∀ r ∈ t.rows, r.submitted.Valid ∧ r.generation ≤ i64Max
  running : runningCount t ≤ maxGlobalRunningJobs
  pending : ∀ task, pendingCount t task ≤ maxPendingJobsPerTask

theorem inv_empty : JobsInv .empty where
  schema := ⟨.nil, by simp [JobsTable.empty]⟩
  sorted := .nil
  bounded := by simp [JobsTable.empty]
  valid := by simp [JobsTable.empty]
  running := by simp [JobsTable.empty, runningCount]
  pending := by simp [JobsTable.empty, pendingCount]

/-- A statement that keeps identities, puts at most `k` more rows in `running` and makes no terminal row
pending again keeps the invariant. -/
theorem inv_update {t : JobsTable} (h : JobsInv t) {p : JobRow → Bool} {f : JobRow → JobRow}
    (hs : jobsSchema (updateWhere p f t.rows)) (hid : ∀ r, (f r).identity = r.identity)
    (hrun : runningCount { t with rows := updateWhere p f t.rows } ≤ maxGlobalRunningJobs)
    (hpend : ∀ r, p r = true → (f r).isPending = true → r.isPending = true) :
    JobsInv { t with rows := updateWhere p f t.rows } where
  schema := hs
  sorted := by
    refine pairwise_updateWhere h.sorted fun a _ b _ hab => ?_
    have key : ∀ r : JobRow, (if p r then f r else r).sequence = r.sequence := fun r => by
      split
      · exact sequence_of_identity (hid r)
      · rfl
    rw [key, key]; exact hab
  bounded := by
    intro r hr
    rcases mem_updateWhere.1 hr with ⟨hr, _⟩ | ⟨r₀, hr₀, _, rfl⟩
    · exact h.bounded r hr
    · rw [sequence_of_identity (hid r₀)]; exact h.bounded r₀ hr₀
  valid := by
    intro r hr
    rcases mem_updateWhere.1 hr with ⟨hr, _⟩ | ⟨r₀, hr₀, _, rfl⟩
    · exact h.valid r hr
    · have hsub : (f r₀).submitted = r₀.submitted := congrArg Prod.snd (hid r₀)
      have hgen : (f r₀).generation = r₀.generation := congrArg NewJob.generation hsub
      rw [hsub, hgen]; exact h.valid r₀ hr₀
  running := hrun
  pending := by
    intro task
    refine Nat.le_trans (countP_updateWhere_le fun r _ hp hq => ?_) (h.pending task)
    simp only [Bool.and_eq_true, decide_eq_true_eq] at hq ⊢
    exact ⟨taskId_of_identity (hid r) ▸ hq.1, hpend r hp hq.2⟩

theorem inv_jobStep (t : JobsTable) (op : JobOp) (h : JobsInv t) : JobsInv (jobStep t op).2 := by
  rcases jobStep_cases t op with ⟨heq, _⟩ | ⟨hs, hcase⟩
  · rw [heq]; exact h
  rcases hcase with ⟨job, _, hv, hg, hf, hp, ht⟩ | ⟨r, hr, _, _, hrun, hlt, hc, ht⟩
    | ⟨rid, g, set, hop, ht⟩ | ⟨_, ht⟩
  · rw [ht] at hs ⊢
    refine ⟨hs, ?_, ?_, ?_, ?_, ?_⟩
    · refine List.pairwise_append.2 ⟨h.sorted, List.pairwise_singleton _ _, fun a ha b hb => ?_⟩
      rw [List.mem_singleton.1 hb]
      exact Nat.lt_succ_of_le (h.bounded a ha)
    · intro r hr
      rcases List.mem_append.1 hr with hr | hr
      · exact Nat.le_succ_of_le (h.bounded r hr)
      · rw [List.mem_singleton.1 hr]; exact Nat.le_refl _
    · intro r hr
      rcases List.mem_append.1 hr with hr | hr
      · exact h.valid r hr
      · rw [List.mem_singleton.1 hr]; exact ⟨hv, hg⟩
    · have := h.running
      simpa [runningCount, List.countP_append, newRow, JobRow.isRunning] using this
    · intro task
      have := h.pending task
      simp only [pendingCount, List.countP_append, List.countP_singleton] at this hp ⊢
      by_cases htask : job.taskId = task
      · subst htask; simp only [newRow]; split <;> omega
      · simpa [newRow, htask] using this
  · rw [ht] at hs ⊢
    refine inv_update h hs (fun _ => rfl) ?_ ?_
    · have := @countP_updateWhere_le_add _ (queuedRequest r.requestId) JobRow.isRunning
        (setRunning (r.claimGeneration + 1)) t.rows
      unfold runningCount at hlt ⊢
      simp only [hc] at this ⊢
      omega
    · intro r' hp' _
      simp only [queuedRequest, Bool.and_eq_true] at hp'
      simp [JobRow.isPending, hp'.2]
  · rw [ht] at hs ⊢
    have hset : ∀ r', (set r').isRunning = false ∧ (set r').identity = r'.identity := by
      rcases hop with ⟨_, rfl⟩ | ⟨k, _, rfl⟩ <;> exact fun _ => ⟨rfl, rfl⟩
    refine inv_update h hs (fun r' => (hset r').2) ?_ ?_
    · refine Nat.le_trans (countP_updateWhere_le fun r' _ _ hq => ?_) h.running
      rw [(hset r').1] at hq; cases hq
    · intro r' hp' _
      simp only [runningClaim, Bool.and_eq_true] at hp'
      simp [JobRow.isPending, hp'.1.2]
  · rw [ht] at hs ⊢
    refine inv_update h hs (fun _ => rfl) ?_ ?_
    · refine Nat.le_trans (countP_updateWhere_le fun r' _ _ hq => ?_) h.running
      simp [requeue, JobRow.isRunning] at hq
    · intro r' hp' _
      simp [JobRow.isPending, hp']

theorem inv_jobsAfter (ops : List JobOp) : JobsInv (jobsAfter ops) :=
  after_induction inv_jobStep ops inv_empty

theorem jobsAfter_append (ops ops' : List JobOp) :
    jobsAfter (ops ++ ops') = after jobStep (jobsAfter ops) ops' :=
  after_append _ _ _

/-! ## Rows stay -/

/-- What a run can make of a row: its identity stays, and once it is terminal all of it does. -/
def JobRow.Becomes (r r' : JobRow) : Prop := r'.identity = r.identity ∧ (r.isTerminal = true → r' = r)

theorem JobRow.Becomes.trans {a b c : JobRow} (h : a.Becomes b) (h' : b.Becomes c) : a.Becomes c := by
  refine ⟨h'.1.trans h.1, fun ht => ?_⟩
  have hb := h.2 ht
  exact (h'.2 (hb ▸ ht)).trans hb

/-- Every row of the first table is in the second one. -/
def Extends (t t' : JobsTable) : Prop := ∀ r ∈ t.rows, ∃ r' ∈ t'.rows, r.Becomes r'

theorem extends_refl (t : JobsTable) : Extends t t := fun r hr => ⟨r, hr, rfl, fun _ => rfl⟩

theorem extends_trans (a b c : JobsTable) (h : Extends a b) (h' : Extends b c) : Extends a c := by
  intro r hr
  obtain ⟨r', hr', hb⟩ := h r hr
  obtain ⟨r'', hr'', hc⟩ := h' r' hr'
  exact ⟨r'', hr'', hb.trans hc⟩

/-- A statement that keeps identities and touches no terminal row. -/
theorem extends_update {t : JobsTable} {p : JobRow → Bool} {f : JobRow → JobRow}
    (hid : ∀ r, (f r).identity = r.identity) (hp : ∀ r, p r = true → r.isTerminal = false) :
    Extends t { t with rows := updateWhere p f t.rows } := by
  intro r hr
  by_cases h : p r = true
  · exact ⟨f r, mem_updateWhere_of_pos hr h, hid r, fun ht => by simp [hp r h] at ht⟩
  · exact ⟨r, mem_updateWhere_of_neg hr (by simpa using h), rfl, fun _ => rfl⟩

theorem extends_jobStep (t : JobsTable) (op : JobOp) : Extends t (jobStep t op).2 := by
  rcases jobStep_cases t op with ⟨heq, _⟩ | ⟨_, hcase⟩
  · rw [heq]; exact extends_refl t
  rcases hcase with ⟨job, _, _, _, _, _, ht⟩ | ⟨r, _, _, _, _, _, _, ht⟩ | ⟨rid, g, set, hop, ht⟩
    | ⟨_, ht⟩ <;> rw [ht]
  · exact fun r hr => ⟨r, List.mem_append_left _ hr, rfl, fun _ => rfl⟩
  · refine extends_update (fun _ => rfl) fun r' hp => ?_
    simp only [queuedRequest, Bool.and_eq_true] at hp
    simp [JobRow.isTerminal, JobRow.isPending, hp.2]
  · refine extends_update ?_ fun r' hp => ?_
    · rcases hop with ⟨_, rfl⟩ | ⟨k, _, rfl⟩ <;> exact fun _ => rfl
    · simp only [runningClaim, Bool.and_eq_true] at hp
      simp [JobRow.isTerminal, JobRow.isPending, hp.1.2]
  · exact extends_update (fun _ => rfl) fun r' hp => by simp [JobRow.isTerminal, JobRow.isPending, hp]

theorem extends_jobsAfter (ops ops' : List JobOp) : Extends (jobsAfter ops) (jobsAfter (ops ++ ops')) := by
  rw [jobsAfter_append]
  exact after_rel (I := fun _ => True) (fun _ _ _ => trivial) extends_refl extends_trans
    (fun t op _ => extends_jobStep t op) ops' trivial

end CodexKeyboard.Store
