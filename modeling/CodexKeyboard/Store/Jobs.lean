import CodexKeyboard.Store.Basic
import CodexKeyboard.Lib.Run
import CodexKeyboard.Lib.Table
/-!
# The durable prompt queue: table `jobs`

`src/app/host/src/store.rs`. Rows are kept in rowid order, so `ORDER BY sequence ASC LIMIT 1` is the
first row of the list that qualifies (`JobsInv` proves the order). Timestamps are not modelled: no
query reads them.

| here | there |
| --- | --- |
| `JobRow`, `jobsSchema` | `CREATE TABLE jobs` with its `CHECK`, `UNIQUE` and `jobs_one_running_per_task` (store.rs:1851-1872) |
| `enqueue` | `StateStore::enqueue` (store.rs:366) |
| `claimNextRunnable` | `StateStore::claim_next_runnable` (store.rs:476) |
| `markCompleted`, `markFailed` | store.rs:603, 615 |
| `recoverInterruptedJobs` | `recover_interrupted_jobs` (store.rs:2151), run by `StateStore::open` |
-/

namespace CodexKeyboard.Store

open Lib

inductive JobState where
  | queued
  | running
  | completed
  | failed
deriving DecidableEq, Repr

/-- `JobFailureKind` (store.rs:105). -/
inductive JobFailureKind where
  | cliMissing
  | authentication
  | taskArchived
  | activeSession
  | timeout
  | invalidOutput
  | outputTooLarge
  | unsafeWorkingDirectory
  | processIo
  | exitFailure
deriving DecidableEq, Repr

/-- `NewJob` (store.rs:84); `cwd` is the bytes of the path. -/
structure NewJob where
  requestId : String
  taskId : String
  slot : Nat
  generation : Nat
  prompt : String
  cwd : List UInt8
deriving DecidableEq, Repr

/-- `Job` (store.rs:94). -/
structure Job where
  requestId : String
  taskId : String
  slot : Nat
  generation : Nat
  prompt : String
  cwd : List UInt8
  recoveryCount : Nat
  claimGeneration : Nat
deriving DecidableEq, Repr

/-- `EnqueueOutcome` (store.rs:137). -/
inductive EnqueueOutcome where
  | inserted
  | replay
deriving DecidableEq, Repr

/-- A row of `jobs`. -/
structure JobRow where
  sequence : Nat
  requestId : String
  taskId : String
  slot : Nat
  generation : Nat
  prompt : String
  cwd : List UInt8
  state : JobState
  recoveryCount : Nat
  claimGeneration : Nat
  failureKind : Option JobFailureKind
deriving DecidableEq, Repr

namespace JobRow

def isQueued (r : JobRow) : Bool := r.state == .queued
def isRunning (r : JobRow) : Bool := r.state == .running
/-- `state IN ('queued', 'running')`. -/
def isPending (r : JobRow) : Bool := r.isQueued || r.isRunning
/-- `completed` or `failed`. -/
def isTerminal (r : JobRow) : Bool := !r.isPending

end JobRow

/-- Two rows that the primary key, `UNIQUE(request_id)` and `jobs_one_running_per_task` allow together. -/
def JobRow.Compatible (a b : JobRow) : Prop :=
  a.sequence ≠ b.sequence ∧ a.requestId ≠ b.requestId ∧
    ¬(a.taskId = b.taskId ∧ a.isRunning = true ∧ b.isRunning = true)

/-- The `CHECK` constraints of one row. -/
def JobRow.Checked (r : JobRow) : Prop :=
  1 ≤ r.slot ∧ r.slot ≤ 4 ∧ r.recoveryCount ≤ u32Max

instance (a b : JobRow) : Decidable (a.Compatible b) := inferInstanceAs (Decidable (_ ∧ _ ∧ _))
instance (r : JobRow) : Decidable r.Checked := inferInstanceAs (Decidable (_ ∧ _ ∧ _))

/-- What SQLite enforces of the table. -/
def jobsSchema (rows : List JobRow) : Prop := rows.Pairwise JobRow.Compatible ∧ ∀ r ∈ rows, r.Checked

instance (rows : List JobRow) : Decidable (jobsSchema rows) := inferInstanceAs (Decidable (_ ∧ _))

/-- The table with the `sqlite_sequence` counter of its `AUTOINCREMENT` key. -/
structure JobsTable where
  rows : List JobRow
  lastSequence : Nat
deriving Repr

/-- The table `migrate` creates. -/
def JobsTable.empty : JobsTable := ⟨[], 0⟩

/-- A statement takes effect when the resulting table satisfies the schema. -/
def JobsTable.write (t : JobsTable) (rows : List JobRow) : Except StoreError JobsTable :=
  if jobsSchema rows then .ok { t with rows } else .error .sqlite

/-- `validate_job` (store.rs:2278). -/
def validateJob (job : NewJob) : Except StoreError Unit :=
  let requestOk := job.requestId ≠ "" ∧ job.requestId.utf8ByteSize ≤ maxRequestIdBytes ∧
    job.requestId.toList.any isAsciiControl = false
  let taskOk := job.taskId ≠ "" ∧ job.taskId.utf8ByteSize ≤ maxTaskIdBytes ∧
    job.taskId.toList.any isAsciiControl = false
  let promptOk := job.prompt.toList.all isWhitespace = false ∧ job.prompt.utf8ByteSize ≤ maxPromptBytes
  -- an absolute Unix path starts with '/'
  let cwdOk := job.cwd.head? = some 0x2f ∧ job.cwd ≠ [] ∧ job.cwd.length ≤ maxCwdBytes ∧ 0 ∉ job.cwd
  ensure (decide (requestOk ∧ taskOk ∧ promptOk ∧ cwdOk)) .invalidJob

/-- The `exact_replay` comparison (store.rs:387); `&&` reaches the conversion of the generation only
when task and slot agree. -/
def exactReplay (existing : JobRow) (job : NewJob) : Except StoreError Bool :=
  if existing.taskId = job.taskId ∧ existing.slot = job.slot then do
    let generation ← toI64 job.generation
    return decide (existing.generation = generation ∧ existing.prompt = job.prompt ∧ existing.cwd = job.cwd)
  else return false

/-- `SELECT COUNT(*) FROM jobs WHERE task_id = ?1 AND state IN ('queued', 'running')`. -/
def pendingCount (t : JobsTable) (taskId : String) : Nat :=
  t.rows.countP fun r => decide (r.taskId = taskId) && r.isPending

/-- `SELECT COUNT(*) FROM jobs WHERE state = 'running'`. -/
def runningCount (t : JobsTable) : Nat := t.rows.countP JobRow.isRunning

/-- The row an `INSERT` of `job` adds. -/
def newRow (sequence : Nat) (job : NewJob) (generation : Nat) : JobRow where
  sequence := sequence
  requestId := job.requestId
  taskId := job.taskId
  slot := job.slot
  generation := generation
  prompt := job.prompt
  cwd := job.cwd
  state := .queued
  recoveryCount := 0
  claimGeneration := 0
  failureKind := none

/-- `StateStore::enqueue`. -/
def enqueue (t : JobsTable) (job : NewJob) : Except StoreError (EnqueueOutcome × JobsTable) := do
  validateSlot job.slot
  validateJob job
  match t.rows.find? fun r => decide (r.requestId = job.requestId) with
  | some existing =>
    let replay ← exactReplay existing job
    ensure replay .requestIdConflict
    return (.replay, t)
  | none =>
    ensure (decide (pendingCount t job.taskId < maxPendingJobsPerTask)) .taskQueueFull
    let generation ← toI64 job.generation
    -- AUTOINCREMENT refuses to go past the largest rowid
    ensure (decide (t.lastSequence < i64Max)) .sqlite
    let t' ← t.write (t.rows ++ [newRow (t.lastSequence + 1) job generation])
    return (.inserted, { t' with lastSequence := t.lastSequence + 1 })

/-- The candidate of `claim_next_runnable` (store.rs:491): the first queued row of a task that has no
running row and no earlier queued one. -/
def isRunnable (rows : List JobRow) (queued : JobRow) : Bool :=
  queued.isQueued &&
  !(rows.any fun running => decide (running.taskId = queued.taskId) && running.isRunning) &&
  !(rows.any fun earlier => decide (earlier.taskId = queued.taskId) && earlier.isQueued &&
      decide (earlier.sequence < queued.sequence))

/-- `map_job` (store.rs:2190). -/
def mapJob (r : JobRow) : Job where
  requestId := r.requestId
  taskId := r.taskId
  slot := r.slot
  generation := r.generation
  prompt := r.prompt
  cwd := r.cwd
  recoveryCount := r.recoveryCount
  claimGeneration := r.claimGeneration

/-- `WHERE request_id = ?1 AND state = 'queued'`. -/
def queuedRequest (requestId : String) (r : JobRow) : Bool :=
  decide (r.requestId = requestId) && r.isQueued

/-- `SET state = 'running', claim_generation = ?2, failure_kind = NULL`. -/
def setRunning (claimGeneration : Nat) (r : JobRow) : JobRow :=
  { r with state := .running, claimGeneration, failureKind := none }

/-- `StateStore::claim_next_runnable`. -/
def claimNextRunnable (t : JobsTable) : Except StoreError (Option Job × JobsTable) := do
  if maxGlobalRunningJobs ≤ runningCount t then return (none, t)
  match t.rows.find? (isRunnable t.rows) with
  | none => return (none, t)
  | some candidate =>
    ensure (decide (candidate.claimGeneration < i64Max)) .claimGenerationOutOfRange
    let next := candidate.claimGeneration + 1
    let t' ← t.write (updateWhere (queuedRequest candidate.requestId) (setRunning next) t.rows)
    if t.rows.countP (queuedRequest candidate.requestId) ≠ 1 then return (none, t)
    match t'.rows.find? fun r => decide (r.requestId = candidate.requestId) with
    | none => throw .sqlite
    | some r => return (some (mapJob r), t')

/-- `WHERE request_id = ?1 AND state = 'running' AND claim_generation = ?2`. -/
def runningClaim (requestId : String) (claimGeneration : Nat) (r : JobRow) : Bool :=
  decide (r.requestId = requestId) && r.isRunning && decide (r.claimGeneration = claimGeneration)

/-- The terminal update `mark_completed` and `mark_failed` share: `true` when it changed one row. -/
def markTerminal (t : JobsTable) (requestId : String) (claimGeneration : Nat) (set : JobRow → JobRow) :
    Except StoreError (Bool × JobsTable) := do
  let generation ← toI64 claimGeneration
  let t' ← t.write (updateWhere (runningClaim requestId generation) set t.rows)
  return (decide (t.rows.countP (runningClaim requestId generation) = 1), t')

def setCompleted (r : JobRow) : JobRow := { r with state := .completed }
def setFailed (kind : JobFailureKind) (r : JobRow) : JobRow :=
  { r with state := .failed, failureKind := some kind }

/-- `StateStore::mark_completed`. -/
def markCompleted (t : JobsTable) (requestId : String) (claimGeneration : Nat) :=
  markTerminal t requestId claimGeneration setCompleted

/-- `StateStore::mark_failed`. -/
def markFailed (t : JobsTable) (requestId : String) (claimGeneration : Nat) (failure : JobFailureKind) :=
  markTerminal t requestId claimGeneration (setFailed failure)

/-- `SET state = 'queued', recovery_count = recovery_count + 1`. -/
def requeue (r : JobRow) : JobRow := { r with state := .queued, recoveryCount := r.recoveryCount + 1 }

/-- `recover_interrupted_jobs`: the number of jobs put back. -/
def recoverInterruptedJobs (t : JobsTable) : Except StoreError (Nat × JobsTable) := do
  let t' ← t.write (updateWhere JobRow.isRunning requeue t.rows)
  return (runningCount t, t')

/-! ## Runs -/

/-- One call on the queue. `restart` is a process that ends and a new one that opens the store. -/
inductive JobOp where
  | enqueue (job : NewJob)
  | claimNextRunnable
  | markCompleted (requestId : String) (claimGeneration : Nat)
  | markFailed (requestId : String) (claimGeneration : Nat) (failure : JobFailureKind)
  | restart
deriving DecidableEq, Repr

/-- What the caller of a call sees. -/
inductive JobAnswer where
  | enqueue (r : Except StoreError EnqueueOutcome)
  | claim (r : Except StoreError (Option Job))
  | mark (r : Except StoreError Bool)
  | restart (r : Except StoreError Nat)
deriving Repr

def jobStep (t : JobsTable) : JobOp → JobAnswer × JobsTable
  | .enqueue job => Prod.map .enqueue id (transact (enqueue t job) t)
  | .claimNextRunnable => Prod.map .claim id (transact (claimNextRunnable t) t)
  | .markCompleted requestId generation =>
    Prod.map .mark id (transact (markCompleted t requestId generation) t)
  | .markFailed requestId generation failure =>
    Prod.map .mark id (transact (markFailed t requestId generation failure) t)
  | .restart => Prod.map .restart id (transact (recoverInterruptedJobs t) t)

/-- The queue after a run from the empty database. -/
def jobsAfter (ops : List JobOp) : JobsTable := after jobStep .empty ops

end CodexKeyboard.Store
