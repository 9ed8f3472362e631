import CodexKeyboard.Store.JobsProofs
/-!
# Order of the prompt queue

The two `NOT EXISTS` sub-queries of `claim_next_runnable` only see queued and running rows. Because no step
takes a row out of those states except the terminal update of its own claim, that is enough: at every claim
the earlier jobs of the task are over (`terminal_of_claims`), and a job that a restart put back is claimed
again before any later one (`prompt_queue_fifo`, last part).
-/

namespace CodexKeyboard.Store

open Lib

/-- `claim_next_runnable`, called after the run `ops`, claims row `r`. -/
def Claims (ops : List JobOp) (r : JobRow) : Prop :=
  r ∈ (jobsAfter ops).rows ∧ ∃ job, job.requestId = r.requestId ∧
    answer jobStep .empty ops .claimNextRunnable = .claim (.ok (some job))

theorem isRunnable_of_claims {ops : List JobOp} {r : JobRow} (h : Claims ops r) :
    isRunnable (jobsAfter ops).rows r = true := by
  obtain ⟨hr, job, hid, hans⟩ := h
  rcases jobStep_cases (jobsAfter ops) .claimNextRunnable with ⟨_, hno⟩ | ⟨_, hcase⟩
  · exact absurd hans (hno job)
  rcases hcase with ⟨_, h, _⟩ | ⟨r₀, hr₀, _, hans₀, hrun, _⟩ | ⟨_, _, _, ⟨h, _⟩ | ⟨_, h, _⟩, _⟩
    | ⟨h, _⟩ <;> try cases h
  have hjob : job = mapJob (setRunning (r₀.claimGeneration + 1) r₀) := by
    have := hans.symm.trans hans₀
    injection this with this; injection this with this; injection this
  have hsame : r₀.requestId = r.requestId := by rw [← hid, hjob]; rfl
  exact eq_of_requestId (inv_jobsAfter ops).schema hr₀ hr hsame ▸ hrun

/-- The earlier jobs of the task of a claimed job are over. -/
theorem terminal_of_claims {ops : List JobOp} {r : JobRow} (h : Claims ops r) {r' : JobRow}
    (hr' : r' ∈ (jobsAfter ops).rows) (htask : r'.taskId = r.taskId) (hlt : r'.sequence < r.sequence) :
    r'.isTerminal = true := by
  have hrun := isRunnable_of_claims h
  simp only [isRunnable, Bool.and_eq_true, Bool.not_eq_true',
    List.any_eq_false, decide_eq_true_eq, not_and] at hrun
  have hnotRunning := hrun.1.2 r' hr' htask
  have hnotQueued : r'.isQueued ≠ true := fun hq => hrun.2 r' hr' ⟨htask, hq⟩ hlt
  simp only [Bool.not_eq_true] at hnotRunning hnotQueued
  simp [JobRow.isTerminal, JobRow.isPending, hnotRunning, hnotQueued]

/-! ## A queued row leaves its state by a claim only -/

/-- The row of a request is there and queued. -/
def QueuedIn (requestId : String) (t : JobsTable) : Prop :=
  ∃ r ∈ t.rows, r.requestId = requestId ∧ r.isQueued = true

theorem claims_of_not_queued {t : JobsTable} {op : JobOp} {requestId : String}
    (h : QueuedIn requestId t) (h' : ¬ QueuedIn requestId (jobStep t op).2) :
    op = .claimNextRunnable ∧ ∃ job, job.requestId = requestId ∧
      (jobStep t op).1 = .claim (.ok (some job)) := by
  obtain ⟨r, hr, hid, hq⟩ := h
  have hstay : r ∉ (jobStep t op).2.rows := fun hr' => h' ⟨r, hr', hid, hq⟩
  rcases jobStep_cases t op with ⟨heq, _⟩ | ⟨hs, hcase⟩
  · rw [heq] at hstay; exact absurd hr hstay
  have hrunning : r.isRunning = false := by
    cases hst : r.state <;> simp [JobRow.isQueued, JobRow.isRunning, hst] at hq ⊢
  rcases hcase with ⟨job, _, _, _, _, _, ht⟩ | ⟨r₀, hr₀, hop, hans, _, _, _, ht⟩
    | ⟨rid, g, set, _, ht⟩ | ⟨_, ht⟩
  · rw [ht] at hstay
    exact absurd (List.mem_append_left _ hr) hstay
  · refine ⟨hop, _, ?_, hans⟩
    -- another request's claim keeps the row
    by_contra hne
    rw [ht] at hstay
    refine hstay (mem_updateWhere_of_neg hr ?_)
    have hne' : r.requestId ≠ r₀.requestId := fun h => hne (h.symm.trans hid)
    simp [queuedRequest, hne']
  · rw [ht] at hstay
    exact absurd (mem_updateWhere_of_neg hr (by simp [runningClaim, hrunning])) hstay
  · rw [ht] at hstay
    exact absurd (mem_updateWhere_of_neg hr hrunning) hstay

/-- What a restart that opened the store did to a running row. -/
theorem queued_of_restart {ops : List JobOp} {n : Nat}
    (h : answer jobStep .empty ops .restart = .restart (.ok n))
    {j : JobRow} (hj : j ∈ (jobsAfter ops).rows) (hrun : j.isRunning = true) :
    requeue j ∈ (jobsAfter (ops ++ [.restart])).rows := by
  have hrec : (transact (recoverInterruptedJobs (jobsAfter ops)) (jobsAfter ops)).1 = .ok n := by
    injection h
  have hafter :
    jobsAfter (ops ++ [.restart]) = (transact (recoverInterruptedJobs (jobsAfter ops)) (jobsAfter ops)).2 :=
    after_concat _ _ _
  obtain ⟨_, ht⟩ := recoverInterruptedJobs_eq_ok (transact_fst_eq_ok.1 hrec)
  rw [hafter, ht]
  exact mem_updateWhere_of_pos hj hrun

/-- One running job a task, four in all, twelve pending ones a task; jobs of a task are claimed in
order, and a job that a restart interrupted is claimed again before any later job of its task. -/
theorem prompt_queue_fifo (ops : List JobOp) :
    (∀ task, (jobsAfter ops).rows.countP (fun r => decide (r.taskId = task) && r.isRunning) ≤ 1) ∧
    runningCount (jobsAfter ops) ≤ maxGlobalRunningJobs ∧
    (∀ task, pendingCount (jobsAfter ops) task ≤ maxPendingJobsPerTask) ∧
    (∀ r, Claims ops r → ∀ r' ∈ (jobsAfter ops).rows, r'.taskId = r.taskId → r'.sequence < r.sequence →
      r'.isTerminal = true) ∧
    (∀ before since n j r, ops = before ++ .restart :: since →
      answer jobStep .empty before .restart = .restart (.ok n) →
      j ∈ (jobsAfter before).rows → j.isRunning = true →
      Claims ops r → r.taskId = j.taskId → j.sequence < r.sequence →
      ∃ mid rest j', since = mid ++ .claimNextRunnable :: rest ∧ j'.identity = j.identity ∧
        Claims (before ++ .restart :: mid) j') := by
  have hinv := inv_jobsAfter ops
  refine ⟨fun task => ?_, hinv.running, hinv.pending, fun r h r' => terminal_of_claims h, ?_⟩
  · refine countP_le_one hinv.schema.1 fun a b hab hrun => ?_
    simp only [Bool.and_eq_true, decide_eq_true_eq] at hrun
    exact hab.2.2 ⟨hrun.1.1.trans hrun.2.1.symm, hrun.1.2, hrun.2.2⟩
  intro before since n j r hops hrestart hj hrun hclaims htask hlt
  subst hops
  have hqueued := queued_of_restart hrestart hj hrun
  have hsplit :
    ∀ tail, jobsAfter (before ++ .restart :: tail) =
    after jobStep (jobsAfter (before ++ [.restart])) tail := by
    intro tail
    rw [← jobsAfter_append, List.append_assoc, List.singleton_append]
  -- wherever the run goes, the job's row is the only one of its request
  have hrow : ∀ tail, ∃ j' ∈ (jobsAfter (before ++ .restart :: tail)).rows, j'.identity = j.identity ∧
      ∀ r ∈ (jobsAfter (before ++ .restart :: tail)).rows, r.requestId = j.requestId → r = j' := by
    intro tail
    obtain ⟨j', hj', hid, _⟩ := extends_jobsAfter (before ++ [.restart]) tail _ hqueued
    rw [List.append_assoc, List.singleton_append] at hj'
    have hid' : j'.identity = j.identity := hid
    exact ⟨j', hj', hid', fun r hr hrid =>
      eq_of_requestId (inv_jobsAfter _).schema hr hj' (hrid.trans (requestId_of_identity hid').symm)⟩
  -- it was queued after the restart and is over at the claim
  have hbegin : ¬¬ QueuedIn j.requestId (jobsAfter (before ++ [.restart])) :=
    not_not.2 ⟨_, hqueued, rfl, rfl⟩
  have hend : ¬ QueuedIn j.requestId (after jobStep (jobsAfter (before ++ [.restart])) since) := by
    rw [← hsplit]
    rintro ⟨q, hq, hqid, hqueued'⟩
    obtain ⟨j', hj', hid, huniq⟩ := hrow since
    have hterm := terminal_of_claims hclaims hj' ((taskId_of_identity hid).trans htask.symm)
      (sequence_of_identity hid ▸ hlt)
    rw [huniq q hq hqid] at hqueued'
    simp [JobRow.isTerminal, JobRow.isPending, hqueued'] at hterm
  -- so one of the steps in between took it out of the queue, and only a claim does that
  obtain ⟨mid, op, rest, hsince, hpre, hpost⟩ :=
    exists_cause (Q := fun t => ¬ QueuedIn j.requestId t) since hbegin hend
  obtain ⟨hop, job, hjob, hans⟩ := claims_of_not_queued (not_not.1 hpre) hpost
  obtain ⟨j', hj', hid, _⟩ := hrow mid
  refine ⟨mid, rest, j', hop ▸ hsince, hid, hj', job, hjob.trans (requestId_of_identity hid).symm, ?_⟩
  rw [hop, ← hsplit] at hans
  exact hans

/-- Two jobs of one task, the first interrupted by a restart while it runs. -/
theorem prompt_queue_fifo_interrupted :
    let first : NewJob := ⟨"a", "task", 1, 1, "p", [0x2f]⟩
    let before :
      List JobOp := [.enqueue first, .enqueue { first with requestId := "b" }, .claimNextRunnable]
    ∃ mid rest j', [.claimNextRunnable, .markCompleted "a" 2] = mid ++ .claimNextRunnable :: rest ∧
      j'.identity = (1, first) ∧ Claims (before ++ .restart :: mid) j' :=
  (prompt_queue_fifo _).2.2.2.2 _ [.claimNextRunnable, .markCompleted "a" 2] 1
    { newRow 1 ⟨"a", "task", 1, 1, "p", [0x2f]⟩ 1 with state := .running, claimGeneration := 1 }
    (newRow 2 ⟨"b", "task", 1, 1, "p", [0x2f]⟩ 1) rfl rfl (by decide) rfl
    ⟨by decide, _, rfl, rfl⟩ rfl (by decide)

end CodexKeyboard.Store
