import CodexKeyboard.Store.Summary
import CodexKeyboard.Store.Completions
import CodexKeyboard.Lib.Run
/-!
# Playback leases and runs of the store

`src/app/host/src/store.rs`.

| here | there |
| --- | --- |
| `acquireSummaryPlayback` | `StateStore::acquire_summary_playback` (store.rs:1188) |
| `cancelSummaryPlayback`, `finishSummaryPlayback` | store.rs:1298, 1333 |
| `validatePlaybackLease` | `validate_playback_lease` (store.rs:1723) |
| `recoverInterruptedSummaries`, `recoverInterruptedPlaybackLeases` | store.rs:2164, 2176 |
| `storeStep` | one call on a `StateStore`, or a process that ends and a new one that runs `StateStore::open` |
-/

namespace CodexKeyboard.Store

open Lib

/-- `cache_matches`. -/
def cacheMatches (env : Crates) (lease : PlaybackLease) : Bool :=
  match Cache.CacheId.fromReference lease.cacheObject,
      Cache.CacheId.forTask env.sha256 lease.taskId lease.summaryGeneration with
  | some actual, some expected => decide (actual = expected)
  | _, _ => false

def validatePlaybackLease (env : Crates) (lease : PlaybackLease) : Except StoreError Unit := do
  validateSlot lease.slot
  ensure (decide (lease.lease ≠ 0 ∧ lease.lease ≤ i64Max ∧ lease.summaryGeneration ≠ 0 ∧
    lease.summaryGeneration ≤ i64Max ∧ lease.requestGeneration ≠ 0 ∧ lease.connectionGeneration ≠ 0 ∧
    env.isUuid lease.taskId = true ∧ cacheMatches env lease = true)) .invalidPlaybackLease

/-- The row `acquire_summary_playback` inserts for a lease, and the one `cancel` and `finish` look for. -/
def PlaybackLease.row (lease : PlaybackLease) : LeaseRow where
  leaseId := lease.lease
  taskId := lease.taskId
  summaryGeneration := lease.summaryGeneration
  slot := lease.slot
  requestGeneration := lease.requestGeneration
  connectionGeneration := lease.connectionGeneration

/-- `StateStore::acquire_summary_playback`. -/
def acquireSummaryPlayback (db : StoreDb) (slot requestGeneration connectionGeneration lease : Nat) :
    Except StoreError (Option PlaybackLease × StoreDb) := do
  validateSlot slot
  ensure (decide (requestGeneration ≠ 0 ∧ connectionGeneration ≠ 0 ∧ lease ≠ 0 ∧ lease ≤ i64Max))
    .invalidPlaybackLease
  match db.bindings.find? fun b => decide (b.slot = slot) with
  | none => return (none, db)
  | some binding =>
    match db.summaries.find? (currentOf binding.taskId) with
    | none => return (none, db)
    | some summary =>
      match summary.cacheObject with
      | none => throw .sqlite
      | some cacheObject =>
        let granted : PlaybackLease :=
          ⟨lease, slot, binding.taskId, summary.generation,
            requestGeneration, connectionGeneration, cacheObject⟩
        match db.leases.find? fun l =>
          decide (l.taskId = binding.taskId ∧ l.summaryGeneration = summary.generation) with
        | some existing =>
          ensure (decide (existing.leaseId = lease ∧ existing.slot = slot ∧
            existing.requestGeneration = requestGeneration ∧
            existing.connectionGeneration = connectionGeneration)) .playbackBusy
          return (some granted, db)
        | none =>
          ensure (decide (summary.state = .unheard)) .playbackBusy
          let p :=
            fun r : SummaryRow => decide (r.taskId = binding.taskId ∧ r.generation = summary.generation ∧
            r.state = .unheard ∧ r.supersededBy = none)
          let db' ← db.writeSummaries (updateWhere p (setState .leased) db.summaries)
          ensure (decide (db.summaries.countP p = 1)) .playbackBusy
          let db' ← db'.insertLease granted.row
          return (some granted, db')

/-- `SET state = CASE WHEN superseded_by IS NULL THEN 'unheard' ELSE 'superseded' END`. -/
def unlease (r : SummaryRow) : SummaryRow :=
  { r with state := if r.supersededBy = none then .unheard else .superseded }

/-- `WHERE task_id = ?1 AND generation = ?2 AND state = 'leased'`. -/
def leasedRow (taskId : String) (generation : Nat) (r : SummaryRow) : Bool :=
  decide (r.taskId = taskId ∧ r.generation = generation ∧ r.state = .leased)

/-- `StateStore::cancel_summary_playback`. -/
def cancelSummaryPlayback (env : Crates) (db : StoreDb) (lease : PlaybackLease) :
    Except StoreError (Bool × StoreDb) := do
  validatePlaybackLease env lease
  let removed := db.leases.countP fun l => decide (l = lease.row)
  let db := { db with leases := deleteWhere (fun l => decide (l = lease.row)) db.leases }
  if removed = 1 then
    let db' ← db.writeSummaries
      (updateWhere (leasedRow lease.taskId lease.summaryGeneration) unlease db.summaries)
    return (true, db')
  return (false, db)

/-- `StateStore::finish_summary_playback`. -/
def finishSummaryPlayback (env : Crates) (db : StoreDb) (lease : PlaybackLease) :
    Except StoreError (Bool × StoreDb) := do
  validatePlaybackLease env lease
  if lease.row ∉ db.leases then return (false, db)
  let p := fun r : SummaryRow => leasedRow lease.taskId lease.summaryGeneration r &&
    decide (r.cacheObject = some lease.cacheObject)
  let db' ← db.writeSummaries (updateWhere p (setState .heard) db.summaries)
  ensure (decide (db.summaries.countP p = 1)) .invalidSummaryState
  return (true, { db' with leases := deleteWhere (fun l => decide (l.leaseId = lease.lease)) db'.leases })

/-! ## Restart -/

def isGenerating (r : SummaryRow) : Bool := r.state == .generating
def isLeased (r : SummaryRow) : Bool := r.state == .leased

/-- `recover_interrupted_summaries`: the number of claims marked. -/
def recoverInterruptedSummaries (db : StoreDb) : Except StoreError (Nat × StoreDb) := do
  let db' ← db.writeSummaries (updateWhere isGenerating (setState .interrupted) db.summaries)
  return (db.summaries.countP isGenerating, db')

/-- `recover_interrupted_playback_leases`. -/
def recoverInterruptedPlaybackLeases (db : StoreDb) : Except StoreError (Unit × StoreDb) := do
  let db' ← db.writeSummaries (updateWhere isLeased unlease db.summaries)
  return ((), { db' with leases := [] })

/-! ## Runs -/

/-- How far `StateStore::open` gets before the next process. -/
inductive OpenProgress where
  | beforeSummaries
  | beforeLeases
  | complete
deriving DecidableEq, Repr

/-- The two recovery transactions of `StateStore::open` on these tables, each committed on its own. -/
def openStore (db : StoreDb) : OpenProgress → Except StoreError Nat × StoreDb
  | .beforeSummaries => (.ok 0, db)
  | .beforeLeases => transact (recoverInterruptedSummaries db) db
  | .complete =>
    match transact (recoverInterruptedSummaries db) db with
    | (.error e, db) => (.error e, db)
    | (.ok recovered, db) =>
      match transact (recoverInterruptedPlaybackLeases db) db with
      | (.error e, db) => (.error e, db)
      | (.ok _, db) => (.ok recovered, db)

/-- One call on the store; `now` is `unixepoch()` at the call. -/
inductive StoreOp where
  | setBinding (slot : Nat) (expectedGeneration : Option Nat) (taskId : String)
  | commitRolloutCompletion (now : Int) (binding : Option Binding) (expected : Option RolloutCursor)
      (next : RolloutCursor) (completionId turnPack : String)
  | claimSummary (taskId requestId : String)
  | abandonSummaryClaim (claim : SummaryClaim)
  | abandonInterruptedSummaryForTask (taskId : String)
  | resumeInterruptedSummary (taskId : String)
  | publishSummary (claim : SummaryClaim) (cacheObject : String)
  | beginSummaryTtsAttempt (claim : SummaryClaim)
  | markSummaryTtsAmbiguous (claim : SummaryClaim)
  | acquireSummaryPlayback (slot requestGeneration connectionGeneration lease : Nat)
  | cancelSummaryPlayback (lease : PlaybackLease)
  | finishSummaryPlayback (lease : PlaybackLease)
  | restart (progress : OpenProgress)
deriving DecidableEq, Repr

/-- What the caller of a call sees. -/
inductive StoreAnswer where
  | binding (r : Except StoreError (Option Binding))
  | completion (r : Except StoreError CompletionOutcome)
  | claim (r : Except StoreError (Option SummaryClaimResult))
  | abandon (r : Except StoreError Bool)
  | abandonInterrupted (r : Except StoreError (Option Nat))
  | resume (r : Except StoreError (Option SummaryClaim))
  | publish (r : Except StoreError UnreadSummary)
  | tts (r : Except StoreError TtsState)
  | ttsAmbiguous (r : Except StoreError Unit)
  | acquire (r : Except StoreError (Option PlaybackLease))
  | cancel (r : Except StoreError Bool)
  | finish (r : Except StoreError Bool)
  | restart (r : Except StoreError Nat)
deriving Repr

def storeStep (env : Crates) (db : StoreDb) : StoreOp → StoreAnswer × StoreDb
  | .setBinding slot expected taskId =>
    Prod.map .binding id (transact (setBinding db slot expected taskId) db)
  | .commitRolloutCompletion now binding expected next completionId turnPack =>
    Prod.map .completion id
      (transact (commitRolloutCompletion env db now binding expected next completionId turnPack) db)
  | .claimSummary taskId requestId =>
    Prod.map .claim id (transact (claimSummary env db taskId requestId) db)
  | .abandonSummaryClaim claim => Prod.map .abandon id (transact (abandonSummaryClaim env db claim) db)
  | .abandonInterruptedSummaryForTask taskId =>
    Prod.map .abandonInterrupted id (transact (abandonInterruptedSummaryForTask env db taskId) db)
  | .resumeInterruptedSummary taskId =>
    Prod.map .resume id (transact (resumeInterruptedSummary env db taskId) db)
  | .publishSummary claim cacheObject =>
    Prod.map .publish id (transact (publishSummary env db claim cacheObject) db)
  | .beginSummaryTtsAttempt claim => Prod.map .tts id (transact (beginSummaryTtsAttempt env db claim) db)
  | .markSummaryTtsAmbiguous claim =>
    Prod.map .ttsAmbiguous id (transact (markSummaryTtsAmbiguous env db claim) db)
  | .acquireSummaryPlayback slot request connection lease =>
    Prod.map .acquire id (transact (acquireSummaryPlayback db slot request connection lease) db)
  | .cancelSummaryPlayback lease => Prod.map .cancel id (transact (cancelSummaryPlayback env db lease) db)
  | .finishSummaryPlayback lease => Prod.map .finish id (transact (finishSummaryPlayback env db lease) db)
  | .restart progress => Prod.map .restart id (openStore db progress)

/-- The store after a run from the empty schema. -/
def storeAfter (env : Crates) (ops : List StoreOp) : StoreDb := after (storeStep env) .empty ops

end CodexKeyboard.Store
