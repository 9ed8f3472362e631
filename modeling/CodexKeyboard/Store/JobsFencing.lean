import CodexKeyboard.Store.JobsProofs
import Mathlib.Data.List.Induction
/-!
# Idempotent submission and fenced completion

A submission is decided by what is stored under its request id (`enqueue_of_stored`). The claims of
a request carry strictly increasing generations (`ClaimsInv.sorted`), and only the latest one is the
`claim_generation` of a running row (`ClaimsInv.running`): a completion with any other generation
finds no row to change.
-/

namespace CodexKeyboard.Store

open Lib

/-! ## Submitting a request again -/

/-- The error of a submission that differs from the stored one: both checks of `enqueue` come first, and a
generation above `i64::MAX` is only converted once task and slot agree. -/
def conflictError (stored : JobRow) (job : NewJob) : StoreError :=
  if validateSlot job.slot ≠ .ok () then .invalidSlot
  else if validateJob job ≠ .ok () then .invalidJob
  else if stored.taskId = job.taskId ∧ stored.slot = job.slot ∧ i64Max < job.generation then
    .generationOutOfRange
  else .requestIdConflict

theorem find_stored {t : JobsTable} (hinv : JobsInv t) {r : JobRow} (hr : r ∈ t.rows) :
    t.rows.find? (fun r' => decide (r'.requestId = r.requestId)) = some r := by
  cases h : t.rows.find? (fun r' => decide (r'.requestId = r.requestId)) with
  | none => simpa using List.find?_eq_none.1 h r hr
  | some r' =>
    obtain ⟨hr', hid⟩ := find_requestId h
    rw [eq_of_requestId hinv.schema hr' hr hid]

/-- A request that is stored is decided by its row alone, and never changes the table. -/
theorem enqueue_of_stored {t : JobsTable} (hinv : JobsInv t) {r : JobRow} (hr : r ∈ t.rows) {job : NewJob}
    (hid : job.requestId = r.requestId) :
    enqueue t job = if r.submitted = job then .ok (.replay, t) else .error (conflictError r job) := by
  have hfind := find_stored hinv hr
  rw [← hid] at hfind
  have hsub : { job with requestId := r.requestId } = job := by rw [← hid]
  have hvalid := hinv.valid r hr
  unfold enqueue conflictError
  rcases hslot : validateSlot job.slot with e | ⟨⟩
  · have hne : r.submitted ≠ job := fun h => by rw [← h, hvalid.1.1] at hslot; cases hslot
    have he : e = .invalidSlot := by simp [validateSlot] at hslot; exact hslot.2.symm
    simp [hne, he]
  rcases hjob : validateJob job with e | ⟨⟩
  · have hne : r.submitted ≠ job := fun h => by rw [← h, hvalid.1.2] at hjob; cases hjob
    have he : e = .invalidJob := by simp [validateJob] at hjob; exact hjob.2.symm
    simp [hne, he]
  simp only [ok_bind, hfind, exactReplay_eq, hsub]
  by_cases hrange : r.taskId = job.taskId ∧ r.slot = job.slot ∧ i64Max < job.generation
  · have hne : r.submitted ≠ job := fun h => by
      have : job.generation ≤ i64Max := h ▸ hvalid.2
      omega
    simp [hrange, hne]
  · by_cases heq : r.submitted = job
    · simp [hrange, heq]
    · simp [hrange, heq]

/-! ## Completions -/

/-- The calls that carry a claim generation. -/
def JobOp.marks (requestId : String) (generation : Nat) : JobOp → Prop
  | .markCompleted r g => r = requestId ∧ g = generation
  | .markFailed r g _ => r = requestId ∧ g = generation
  | _ => False

/-- A completion that names no running claim changes nothing. -/
theorem mark_of_no_claim {t : JobsTable} {op : JobOp} {requestId : String} {generation : Nat}
    (hop : op.marks requestId generation)
    (h : ∀ r ∈ t.rows, r.requestId = requestId → r.isRunning = true → r.claimGeneration ≠ generation) :
    (jobStep t op).2 = t := by
  have hnone : ∀ r ∈ t.rows, runningClaim requestId generation r = false := by
    intro r hr
    by_contra hc
    simp only [Bool.not_eq_false, runningClaim, Bool.and_eq_true, decide_eq_true_eq] at hc
    exact h r hr hc.1.1 hc.1.2 hc.2
  rcases jobStep_cases t op with ⟨heq, _⟩ | ⟨_, hcase⟩
  · exact heq
  rcases hcase with ⟨_, rfl, _⟩ | ⟨_, _, rfl, _⟩ | ⟨rid, g, set, hset, ht⟩ | ⟨rfl, _⟩ <;> try exact hop.elim
  have hargs : rid = requestId ∧ g = generation := by
    rcases hset with ⟨rfl, _⟩ | ⟨_, rfl, _⟩ <;> exact hop
  rw [ht, hargs.1, hargs.2, updateWhere_none hnone]

/-! ## The claims of a request -/

/-- The claim generation an answer hands out for a request. -/
def claimOf (requestId : String) : JobAnswer → Option Nat
  | .claim (.ok (some job)) => if job.requestId = requestId then some job.claimGeneration else none
  | _ => none

/-- The claim generations handed out for a request in a run from the empty database, oldest first. -/
def claimsOf (requestId : String) (ops : List JobOp) : List Nat :=
  (answers jobStep .empty ops).filterMap (claimOf requestId)

theorem claimsOf_concat (requestId : String) (ops : List JobOp) (op : JobOp) :
    claimsOf requestId (ops ++ [op]) =
      claimsOf requestId ops ++ (claimOf requestId (jobStep (jobsAfter ops) op).1).toList := by
  unfold claimsOf
  rw [answers_concat, List.filterMap_append]
  cases h : claimOf requestId (jobStep (jobsAfter ops) op).1 <;>
    simp [answer, jobsAfter] at h ⊢ <;> simp [h]

/-- The claim generations in a run and in the table it ends in. -/
structure ClaimsInv (ops : List JobOp) : Prop where
  known : ∀ requestId g, g ∈ claimsOf requestId ops → ∃ r ∈ (jobsAfter ops).rows, r.requestId = requestId
  le : ∀ r ∈ (jobsAfter ops).rows, ∀ g ∈ claimsOf r.requestId ops, g ≤ r.claimGeneration
  sorted : ∀ requestId, (claimsOf requestId ops).Pairwise (· < ·)
  running : ∀ r ∈ (jobsAfter ops).rows, r.isRunning = true →
    (claimsOf r.requestId ops).getLast? = some r.claimGeneration

theorem claimsInv_nil : ClaimsInv [] where
  known := by simp [claimsOf, answers]
  le := by simp [jobsAfter, JobsTable.empty]
  sorted := by simp [claimsOf, answers]
  running := by simp [jobsAfter, JobsTable.empty]

/-- The claim generation of the one row a claim takes. -/
theorem claimOf_claim (requestId : String) (r : JobRow) :
    claimOf requestId (.claim (.ok (some (mapJob (setRunning (r.claimGeneration + 1) r))))) =
      if r.requestId = requestId then some (r.claimGeneration + 1) else none := rfl

theorem claimOf_eq_none {t : JobsTable} {op : JobOp} {requestId : String}
    (h : ∀ job, (jobStep t op).1 ≠ .claim (.ok (some job))) :
    claimOf requestId (jobStep t op).1 = none := by
  unfold claimOf
  split
  · rename_i job heq; exact absurd heq (h job)
  · rfl

/-- A step that hands out no claim and starts no row keeps the generations in step. -/
theorem claimsInv_concat_of_none {ops : List JobOp} {op : JobOp} (h : ClaimsInv ops)
    (hnone : ∀ requestId, claimOf requestId (jobStep (jobsAfter ops) op).1 = none)
    (hrows : ∀ r' ∈ (jobsAfter (ops ++ [op])).rows,
      (∃ r ∈ (jobsAfter ops).rows, r'.requestId = r.requestId ∧ r'.claimGeneration = r.claimGeneration ∧
        (r'.isRunning = true → r.isRunning = true)) ∨
      ((∀ r ∈ (jobsAfter ops).rows, r.requestId ≠ r'.requestId) ∧ r'.isRunning = false)) :
    ClaimsInv (ops ++ [op]) := by
  have hsame : ∀ requestId, claimsOf requestId (ops ++ [op]) = claimsOf requestId ops := fun requestId => by
    rw [claimsOf_concat, hnone]; exact List.append_nil _
  refine ⟨fun requestId g hg => ?_, fun r' hr' g hg => ?_, fun requestId => ?_, fun r' hr' hrun => ?_⟩
  · obtain ⟨r, hr, hid⟩ := h.known requestId g (hsame requestId ▸ hg)
    obtain ⟨r', hr', hb, _⟩ := extends_jobsAfter ops [op] r hr
    exact ⟨r', hr', (requestId_of_identity hb).trans hid⟩
  · rw [hsame] at hg
    rcases hrows r' hr' with ⟨r, hr, hid, hgen, _⟩ | ⟨hnew, _⟩
    · rw [hgen]; exact h.le r hr g (hid ▸ hg)
    · obtain ⟨r, hr, hid⟩ := h.known _ g hg
      exact absurd hid (hnew r hr)
  · rw [hsame]; exact h.sorted requestId
  · rw [hsame]
    rcases hrows r' hr' with ⟨r, hr, hid, hgen, hrun'⟩ | ⟨_, hnot⟩
    · rw [hid, hgen]; exact h.running r hr (hrun' hrun)
    · rw [hnot] at hrun; cases hrun

/-- The rows an update leaves, for `claimsInv_concat_of_none`. -/
theorem rows_of_update {rows : List JobRow} {p : JobRow → Bool} {f : JobRow → JobRow}
    (hf : ∀ r, (f r).identity = r.identity ∧ (f r).claimGeneration = r.claimGeneration ∧
      (f r).isRunning = false) :
    ∀ r' ∈ updateWhere p f rows, ∃ r ∈ rows, r'.requestId = r.requestId ∧
    r'.claimGeneration = r.claimGeneration ∧
      (r'.isRunning = true → r.isRunning = true) := by
  intro r' hr'
  rcases mem_updateWhere.1 hr' with ⟨hr, _⟩ | ⟨r, hr, _, rfl⟩
  · exact ⟨r', hr, rfl, rfl, id⟩
  · obtain ⟨hid, hgen, hrun⟩ := hf r
    exact ⟨r, hr, requestId_of_identity hid, hgen, fun h => by rw [hrun] at h; cases h⟩

/-- The rows a claim of `r₀` leaves: its own and those of the other requests. -/
theorem rows_of_claim {rows : List JobRow} (hs : jobsSchema rows) {r₀ : JobRow} (hr₀ : r₀ ∈ rows)
    (hqueued : r₀.isQueued = true) (g : Nat) :
    ∀ r' ∈ updateWhere (queuedRequest r₀.requestId) (setRunning g) rows,
      r' = setRunning g r₀ ∨ (r' ∈ rows ∧ r₀.requestId ≠ r'.requestId) := by
  intro r' hr'
  rcases mem_updateWhere.1 hr' with ⟨hr, hp⟩ | ⟨r, hr, hp, rfl⟩
  · refine Or.inr ⟨hr, fun hid => ?_⟩
    rw [← eq_of_requestId hs hr₀ hr hid] at hp
    simp [queuedRequest, hqueued] at hp
  · simp only [queuedRequest, Bool.and_eq_true, decide_eq_true_eq] at hp
    exact Or.inl (by rw [eq_of_requestId hs hr hr₀ hp.1])

theorem claimsInv_concat {ops : List JobOp} (op : JobOp) (h : ClaimsInv ops) : ClaimsInv (ops ++ [op]) := by
  have hafter : jobsAfter (ops ++ [op]) = (jobStep (jobsAfter ops) op).2 := after_concat _ _ _
  have hop : ∀ a, (jobStep (jobsAfter ops) op).1 = .claim a → op = .claimNextRunnable := by
    intro a ha
    cases op <;> first | rfl | cases ha
  rcases jobStep_cases (jobsAfter ops) op with ⟨heq, hno⟩ | ⟨hs, hcase⟩
  · refine claimsInv_concat_of_none h (fun _ => claimOf_eq_none hno) ?_
    rw [hafter, heq]
    exact fun r hr => Or.inl ⟨r, hr, rfl, rfl, id⟩
  rcases hcase with ⟨job, rfl, _, _, hf, _, ht⟩ | ⟨r₀, hr₀, rfl, hans, hrun, _, _, ht⟩
    | ⟨rid, g, set, hset, ht⟩ | ⟨rfl, ht⟩
  · refine claimsInv_concat_of_none h (fun _ => claimOf_eq_none fun j hj => by cases hop _ hj) ?_
    rw [hafter, ht]
    intro r' hr'
    rcases List.mem_append.1 hr' with hr' | hr'
    · exact Or.inl ⟨r', hr', rfl, rfl, id⟩
    · rw [List.mem_singleton.1 hr']; exact Or.inr ⟨hf, rfl⟩
  · -- every other request keeps its claims and rows; this one gets a generation above all it had
    have hclaims : ∀ requestId, claimsOf requestId (ops ++ [.claimNextRunnable]) =
        claimsOf requestId ops ++ if r₀.requestId = requestId then [r₀.claimGeneration + 1] else
          [] := fun requestId => by
      rw [claimsOf_concat, hans, claimOf_claim]
      split <;> rfl
    have hqueued : r₀.isQueued = true := by
      simp only [isRunnable, Bool.and_eq_true] at hrun; exact hrun.1.1
    have hrows := rows_of_claim (inv_jobsAfter ops).schema hr₀ hqueued (r₀.claimGeneration + 1)
    have hle : ∀ g ∈ claimsOf r₀.requestId ops, g ≤ r₀.claimGeneration := h.le r₀ hr₀
    refine ⟨fun requestId g hg => ?_, fun r' hr' g hg => ?_, fun requestId => ?_, fun r' hr' hrun' => ?_⟩
    · have hknown : ∃ r ∈ (jobsAfter ops).rows, r.requestId = requestId := by
        rw [hclaims] at hg
        rcases List.mem_append.1 hg with hg | hg
        · exact h.known _ g hg
        · split at hg
          · exact ⟨r₀, hr₀, ‹_›⟩
          · simp at hg
      obtain ⟨r, hr, hid⟩ := hknown
      obtain ⟨r', hr', hb, _⟩ := extends_jobsAfter ops [.claimNextRunnable] r hr
      exact ⟨r', hr', (requestId_of_identity hb).trans hid⟩
    · rw [hafter, ht] at hr'
      rw [hclaims] at hg
      rcases hrows r' hr' with rfl | ⟨hr, hne⟩
      · have hid : (setRunning (r₀.claimGeneration + 1) r₀).requestId = r₀.requestId := rfl
        rw [hid, if_pos rfl] at hg
        rcases List.mem_append.1 hg with hg | hg
        · exact Nat.le_succ_of_le (hle g hg)
        · exact Nat.le_of_eq (List.mem_singleton.1 hg)
      · rw [if_neg hne, List.append_nil] at hg
        exact h.le r' hr g hg
    · rw [hclaims]
      refine List.pairwise_append.2 ⟨h.sorted requestId, ?_, fun g hg g' hg' => ?_⟩
      · split <;> simp
      · split at hg'
        · rename_i hid
          rw [List.mem_singleton.1 hg']
          exact Nat.lt_succ_of_le (hle g (hid ▸ hg))
        · simp at hg'
    · rw [hafter, ht] at hr'
      rw [hclaims]
      rcases hrows r' hr' with rfl | ⟨hr, hne⟩
      · have hid : (setRunning (r₀.claimGeneration + 1) r₀).requestId = r₀.requestId := rfl
        rw [hid, if_pos rfl, List.getLast?_append]
        rfl
      · rw [if_neg hne, List.append_nil]
        exact h.running r' hr hrun'
  · have hnot : op ≠ .claimNextRunnable := by rcases hset with ⟨rfl, _⟩ | ⟨_, rfl, _⟩ <;> simp
    refine claimsInv_concat_of_none h (fun _ => claimOf_eq_none fun j hj => hnot (hop _ hj)) ?_
    rw [hafter, ht]
    refine fun r' hr' => Or.inl (rows_of_update ?_ r' hr')
    rcases hset with ⟨_, rfl⟩ | ⟨_, _, rfl⟩ <;> exact fun _ => ⟨rfl, rfl, rfl⟩
  · refine claimsInv_concat_of_none h (fun _ => claimOf_eq_none fun j hj => by cases hop _ hj) ?_
    rw [hafter, ht]
    exact fun r' hr' => Or.inl (rows_of_update (f := requeue) (fun _ => ⟨rfl, rfl, rfl⟩) r' hr')

theorem claimsInv (ops : List JobOp) : ClaimsInv ops := by
  induction ops using List.reverseRecOn with
  | nil => exact claimsInv_nil
  | append_singleton ops op ih => exact claimsInv_concat op ih

/-- A running row holds the generation of the latest claim of its request, so a completion with any other
one finds no row. -/
theorem mark_of_stale {ops : List JobOp} {op : JobOp} {requestId : String} {generation : Nat}
    (hop : op.marks requestId generation) (h : (claimsOf requestId ops).getLast? ≠ some generation) :
    jobsAfter (ops ++ [op]) = jobsAfter ops := by
  refine (after_concat _ _ _).trans (mark_of_no_claim hop fun r hr hid hrun hgen => h ?_)
  rw [← hid, ← hgen]
  exact (claimsInv ops).running r hr hrun

/-! ## Idempotence and fencing over runs -/

/-- The table of the queue after `ops` and one more call, with the answer of that call. -/
theorem enqueue_answer {ops : List JobOp} {r : JobRow} (hr : r ∈ (jobsAfter ops).rows) {job : NewJob}
    (hid : job.requestId = r.requestId) :
    answer jobStep .empty ops (.enqueue job) =
      .enqueue (if r.submitted = job then .ok .replay else .error (conflictError r job)) ∧
    jobsAfter (ops ++ [.enqueue job]) = jobsAfter ops := by
  have hstep : jobStep (jobsAfter ops) (.enqueue job) =
      Prod.map JobAnswer.enqueue id (transact (enqueue (jobsAfter ops) job) (jobsAfter ops)) := rfl
  rw [enqueue_of_stored (inv_jobsAfter ops) hr hid] at hstep
  have hafter : jobsAfter (ops ++ [.enqueue job]) = (jobStep (jobsAfter ops) (.enqueue job)).2 :=
    after_concat _ _ _
  have hanswer :
    answer jobStep .empty ops (.enqueue job) = (jobStep (jobsAfter ops) (.enqueue job)).1 := rfl
  rw [hafter, hanswer, hstep]
  by_cases h : r.submitted = job
  · simp [h]
  · simp [h]

/-- Submissions are idempotent, completions are fenced by the claim generation, and a job ends once. -/
theorem jobs_idempotent_and_fenced (ops : List JobOp) :
    -- one row a request, and it stays that request's row
    (∀ r ∈ (jobsAfter ops).rows, ∀ later, ∃ r' ∈ (jobsAfter (ops ++ later)).rows, r'.identity = r.identity ∧
      ∀ q ∈ (jobsAfter (ops ++ later)).rows, q.requestId = r.requestId → q = r') ∧
    -- a repeated request
    (∀ r ∈ (jobsAfter ops).rows, ∀ job, job.requestId = r.requestId →
      answer jobStep .empty ops (.enqueue job) =
        .enqueue (if r.submitted = job then .ok .replay else .error (conflictError r job)) ∧
      jobsAfter (ops ++ [.enqueue job]) = jobsAfter ops) ∧
    -- completions
    (∀ requestId, (claimsOf requestId ops).Pairwise (· < ·)) ∧
    (∀ op requestId generation, op.marks requestId generation →
      (claimsOf requestId ops).getLast? ≠ some generation → jobsAfter (ops ++ [op]) = jobsAfter ops) ∧
    -- a terminal row is never written again
    (∀ r ∈ (jobsAfter ops).rows, r.isTerminal = true → ∀ later, r ∈ (jobsAfter (ops ++ later)).rows) := by
  refine ⟨fun r hr later => ?_, fun r hr job hid => enqueue_answer hr hid, (claimsInv ops).sorted,
    fun op requestId generation hop hstale => mark_of_stale hop hstale, fun r hr hterm later => ?_⟩
  · obtain ⟨r', hr', hb, _⟩ := extends_jobsAfter ops later r hr
    exact ⟨r', hr', hb, fun q hq hid =>
      eq_of_requestId (inv_jobsAfter _).schema hq hr' (hid.trans (requestId_of_identity hb).symm)⟩
  · obtain ⟨r', hr', _, hsame⟩ := extends_jobsAfter ops later r hr
    exact hsame hterm ▸ hr'

/-- A request submitted again with a slot the keyboard does not have is refused before its row is
looked up. -/
theorem enqueue_differing_invalid_slot :
    let job : NewJob := ⟨"a", "task", 1, 1, "p", [0x2f]⟩
    let again : NewJob := { job with slot := 5 }
    (jobsAfter [.enqueue job]).rows.map JobRow.submitted = [job] ∧ again ≠ job ∧
      again.requestId = job.requestId ∧
      answer jobStep .empty [.enqueue job] (.enqueue again) = .enqueue (.error .invalidSlot) ∧
      StoreError.invalidSlot ≠ .requestIdConflict := by
  refine ⟨by decide, by decide, rfl, rfl, by decide⟩

/-- A worker claimed a job, the Host restarted, and the worker's completion arrives after the second
claim. -/
theorem jobs_fenced_stale_worker :
    let job : NewJob := ⟨"a", "task", 1, 1, "p", [0x2f]⟩
    let ops : List JobOp := [.enqueue job, .claimNextRunnable, .restart, .claimNextRunnable]
    jobsAfter (ops ++ [.markCompleted "a" 1]) = jobsAfter ops :=
  (jobs_idempotent_and_fenced _).2.2.2.1 (.markCompleted "a" 1) "a" 1 ⟨rfl, rfl⟩ (by decide)

end CodexKeyboard.Store
