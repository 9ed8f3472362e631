import CodexKeyboard.Summary.Synthesis
import Mathlib.Logic.Function.Basic
/-!
# The summary worker

`src/app/host/src/summary_worker.rs`. The worker is cut at the points where it reads the clock or
calls the orchestrator; other threads use the store in between. Instants and durations are in
nanoseconds, and an event says how much time has passed when it happens. `log` is not in the code:
it records the attempts.

| here | there |
| --- | --- |
| `summaryWorkTasksAfter` | `StateStore::summary_work_tasks_after` (store.rs:1408) |
| `SummaryWorker.scan` | the head of the loop of `run_ready` (summary_worker.rs:108-124) |
| `SummaryWorker.visit` | the loop body up to `orchestrator.resume` (summary_worker.rs:125-143) |
| `SummaryWorker.visitRun` | `orchestrator.run`, after a `resume` that answered `Idle` |
| `SummaryWorker.settle` | the `match result` (summary_worker.rs:145-187) |
-/

namespace CodexKeyboard.Summary

open Lib Store

def nanosPerSecond : Nat := 1000000000
def pollInterval : Nat := 250 * 1000000
def failureBackoff : Nat := 5 * nanosPerSecond
def manualBackoff : Nat := 60 * 60 * nanosPerSecond
def failureGiveUpCount : Nat := 5
def giveUpBackoff : Nat := 10 * 60 * nanosPerSecond

/-- The tasks with an interrupted claim and those with a pending completion, `UNION` without duplicates. -/
def summaryWork (db : StoreDb) : List String :=
  ((db.summaries.filter fun r => decide (r.state = .interrupted)).map SummaryRow.taskId ++
    (db.completions.filter fun c => c.summarizedGeneration.isNone).map CompletionRow.taskId).dedup

/-- `StateStore::summary_work_tasks_after`. -/
def summaryWorkTasksAfter (env : Crates) (db : StoreDb) (afterTaskId : Option String) :
    Except StoreError (List String) :=
  let selected :=
    (summaryWork db).filter fun taskId => afterTaskId.all (fun last => decide (last < taskId)) &&
    db.bindings.any fun b => decide (b.taskId = taskId)
  let tasks := (selected.insertionSort fun a b => a ≤ b).take 32
  if tasks.all env.isUuid then .ok tasks else .error .invalidSummaryState

/-- A call of the orchestrator for a task. -/
structure Attempt where
  taskId : String
  start : Nat
  finish : Nat
  /-- The generator or the synthesizer was called. -/
  paid : Bool
  published : Bool
deriving DecidableEq, Repr

/-- It cost something, and the same completions are still pending. -/
def Attempt.failed (a : Attempt) : Bool := a.paid && !a.published

/-- One call of the orchestrator, as the worker sees it: how long the worker waited before, and how
long it took. -/
structure CallInput where
  wait : Nat
  time : Nat
  answers : Answers
  budget : Option Nat

structure SummaryWorker where
  world : World
  scanAfter : Option String
  /-- The tasks of this scan that are still to be visited. -/
  tasks : List String
  /-- `resume` answered `Idle` for the first of them, and `run` is next. -/
  resumed : Bool
  retryAfter : String → Option Nat
  failures : String → Option Nat
  clock : Nat
  alive : Bool
  log : List Attempt

namespace SummaryWorker

def start (db : StoreDb) : SummaryWorker :=
  ⟨⟨db, [], []⟩, none, [], false, fun _ => none, fun _ => none, 0, true, []⟩

/-- `sleep_until_shutdown`. -/
def sleep (w : SummaryWorker) (duration : Nat) : SummaryWorker := { w with clock := w.clock + duration }

/-- A new scan, when the last one is through. -/
def scan (env : Crates) (w : SummaryWorker) : SummaryWorker :=
  match summaryWorkTasksAfter env w.world.db w.scanAfter with
  | .error _ => w.sleep failureBackoff
  | .ok [] => { w with scanAfter := none }.sleep pollInterval
  | .ok (task :: rest) => { w with tasks := task :: rest, scanAfter := (task :: rest).getLast? }

/-- The task is through; after the last one of the scan the worker sleeps. -/
def next (w : SummaryWorker) (rest : List String) : SummaryWorker :=
  let w := { w with tasks := rest, resumed := false }
  if rest = [] then w.sleep pollInterval else w

/-- The deadline of the task is in the future. -/
def isBackedOff (w : SummaryWorker) (taskId : String) : Bool :=
  (w.retryAfter taskId).any fun deadline => decide (w.clock < deadline)

def isPublished : Option Outcome → Bool
  | some (.ok (.published ..)) => true
  | _ => false

/-- Call the orchestrator; the attempt is recorded when there was something to attempt. -/
def call (w : SummaryWorker) (taskId : String) (x : Run Outcome) (input : CallInput) (record : Bool) :
    Option Outcome × SummaryWorker :=
  let (r, world) := x.run input.budget w.world
  let paid := decide (world.generated ≠ w.world.generated ∨ world.synthesized ≠ w.world.synthesized)
  let attempt : Attempt := ⟨taskId, w.clock, w.clock + input.time, paid, isPublished r⟩
  (r, { w with
    world, clock := w.clock + input.time, alive := r.isSome, log := if record then w.log ++ [attempt]
    else w.log })

/-- The `match result`. -/
def settle (w : SummaryWorker) (taskId : String) : Outcome → SummaryWorker
  | .ok (.published ..) | .ok (.alreadyPublished _) | .ok .idle =>
    { w with
      retryAfter := Function.update w.retryAfter taskId none
      failures := Function.update w.failures taskId none }
  | .ok (.manualTtsReconciliationRequired _) =>
    { w with
      retryAfter := Function.update w.retryAfter taskId (some (w.clock + manualBackoff))
      failures := Function.update w.failures taskId none }
  | .error _ =>
    let fails := (w.failures taskId).getD 0 + 1
    let backoff := if failureGiveUpCount ≤ fails then giveUpBackoff else failureBackoff
    { w with
      retryAfter := Function.update w.retryAfter taskId (some (w.clock + backoff))
      failures := Function.update w.failures taskId (some fails) }

/-- The visit of the first task: skip it while it is backed off, else resume it. -/
def visit (env : Crates) (w : SummaryWorker) (taskId : String) (rest : List String)
    (input : CallInput) : SummaryWorker :=
  let w := w.sleep input.wait
  if w.isBackedOff taskId then w.next rest
  else
    match w.call taskId (Orchestrator.resume env input.answers taskId) input
        (Orchestrator.resumedBy env w.world.db taskId).isSome with
    | (some (.ok .idle), w) => { w with resumed := true }
    | (some outcome, w) => (w.settle taskId outcome).next rest
    | (none, w) => w

/-- The other half of the visit. -/
def visitRun (env : Crates) (w : SummaryWorker) (taskId : String) (rest : List String)
    (requestId : String) (input : CallInput) :
    SummaryWorker :=
  let w := w.sleep input.wait
  match w.call taskId (Orchestrator.run env input.answers taskId requestId) input true with
  | (some outcome, w) => (w.settle taskId outcome).next rest
  | (none, w) => w

end SummaryWorker

inductive WorkerEvent where
  /-- Another thread uses the store. -/
  | others (op : StoreOp) (outside : isOthers op = true)
  | scan
  | visit (input : CallInput)
  | visitRun (requestId : String) (input : CallInput)

/-- One step of the worker; a step it is not at, and any step of a dead process, changes nothing. -/
def SummaryWorker.step (env : Crates) (w : SummaryWorker) (e : WorkerEvent) : Unit × SummaryWorker :=
  if w.alive then
    match e, w.tasks, w.resumed with
    | .others op _, _, _ => ((), { w with world := { w.world with db := (storeStep env w.world.db op).2 } })
    | .scan, [], _ => ((), w.scan env)
    | .visit input, taskId :: rest, false => ((), w.visit env taskId rest input)
    | .visitRun requestId input, taskId :: rest, true => ((), w.visitRun env taskId rest requestId input)
    | _, _, _ => ((), w)
  else ((), w)

def workerAfter (env : Crates) (w : SummaryWorker) (events : List WorkerEvent) : SummaryWorker :=
  after (SummaryWorker.step env) w events

/-! ## What throttling means -/

/-- How many attempts of the task failed in a row at the end of the log. -/
def failuresInARow (taskId : String) (log : List Attempt) : Nat :=
  ((log.filter fun a => decide (a.taskId = taskId)).reverse.takeWhile Attempt.failed).length

/-- What the last attempt of a log is followed by when it failed. -/
def backoffAfter (taskId : String) (log : List Attempt) : Nat :=
  if failureGiveUpCount ≤ failuresInARow taskId log then giveUpBackoff else failureBackoff

/-- After a failed attempt the task is left alone for the back-off. -/
def Throttled (log : List Attempt) : Prop :=
  ∀ i j a b, i < j → log[i]? = some a → log[j]? = some b → b.taskId = a.taskId → a.failed = true →
    a.finish + backoffAfter a.taskId (log.take (i + 1)) ≤ b.start

/-! ## Calls that cost something and end as if there was nothing to do -/

def isMissing : Except TtsCacheError SummaryDocument → Bool
  | .error (.cache .missingObject) => true
  | _ => false

/-- The synthesizer was called and the call ends in `Idle`: its answer is ambiguous or in another
voice, or the cache neither commits the audio nor holds it already. -/
def speechWasted (answers : Answers) : Bool :=
  match answers.synthesized with
  | .error .ambiguousAfterCommit => true
  | .error _ => false
  | .ok tts =>
    if tts.voice ≠ Orchestrator.summaryTtsVoice then true
    else
      match answers.committed with
      | .error _ => isMissing answers.recached
      | .ok () => false

/-- The same, from the speech attempt on: the attempt on record has changed, or the speech is wasted. -/
def attemptWasted (env : Crates) (db : StoreDb) (answers : Answers) (claim : SummaryClaim) : Bool :=
  match beginSummaryTtsAttempt env db claim with
  | .ok (.ambiguous, _) => true
  | .ok (.started, _) => speechWasted answers
  | .error _ => false

/-- The same, from the generator on: it answers a document that covers the claim, and the attempt is
wasted. -/
def documentWasted (env : Crates) (db : StoreDb) (answers : Answers) (claim : SummaryClaim) : Bool :=
  match answers.generated with
  | .error _ => false
  | .ok document =>
    (document.validateExpectedCovers env (Orchestrator.expectedCovers claim)).isOk &&
      attemptWasted env db answers claim

/-- The call for `claim` reaches the generator, and ends in `Idle`. -/
def paidForNothing (env : Crates) (db : StoreDb) (answers : Answers) (claim : SummaryClaim) : Bool :=
  isMissing answers.cached &&
  (match summaryTtsAttempt env db claim with
    | .ok none => true
    | _ => false) &&
  (match claim.previousUnread, answers.previous with
    | some _, .error _ => false
    | _, _ => true) &&
  documentWasted env db answers claim

/-- `resume` makes such a call. -/
def resumeWastes (env : Crates) (db : StoreDb) (taskId : String) (answers : Answers) : Bool :=
  match resumeInterruptedSummary env db taskId with
  | .ok (some claim, db) => paidForNothing env db answers claim
  | _ => false

/-- `run` makes such a call. -/
def runWastes (env : Crates) (db : StoreDb) (taskId requestId : String) (answers : Answers) : Bool :=
  match claimSummary env db taskId requestId with
  | .ok (some (.claimed claim), db) => paidForNothing env db answers claim
  | _ => false

/-- The step makes such a call. -/
def SummaryWorker.wastes (env : Crates) (w : SummaryWorker) (e : WorkerEvent) : Bool :=
  match e, w.tasks, w.resumed with
  | .visit input, taskId :: _, false =>
    w.alive && !(w.sleep input.wait).isBackedOff taskId && resumeWastes env w.world.db taskId input.answers
  | .visitRun requestId input, taskId :: _, true =>
    w.alive && runWastes env w.world.db taskId requestId input.answers
  | _, _, _ => false

end CodexKeyboard.Summary
