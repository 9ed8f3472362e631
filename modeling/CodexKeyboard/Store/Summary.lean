import CodexKeyboard.Store.Tables
import CodexKeyboard.Lib.Transaction
import Mathlib.Data.List.Sort
/-!
# The summary ledger

`src/app/host/src/store.rs`. Each operation is one transaction: its body is an `Except` whose `ok` carries
what the transaction commits.

| here | there |
| --- | --- |
| `claimSummary` | `StateStore::claim_summary` (store.rs:676) |
| `abandonSummaryClaim` | `StateStore::abandon_summary_claim` (store.rs:822) |
| `abandonInterruptedSummaryForTask` | store.rs:827 |
| `summaryTtsAttempt`, `beginSummaryTtsAttempt`, `markSummaryTtsAmbiguous` | store.rs:870, 899, 944 |
| `resumeInterruptedSummary` | `StateStore::resume_interrupted_summary` (store.rs:972) |
| `publishSummary` | `StateStore::publish_summary` (store.rs:1017) |
| `queryPendingSummaryCompletions`, `loadSummaryClaim` | store.rs:1577, 1619 |
| `validateSummaryRequest`, `validateSummaryClaim` | store.rs:1684, 1695 |
-/

namespace CodexKeyboard.Store

open Lib

/-! ## Checks made before a transaction -/

def validateSummaryRequest (env : Crates) (taskId requestId : String) : Except StoreError Unit :=
  let requestValid := requestId ≠ "" ∧ requestId.utf8ByteSize ≤ maxRequestIdBytes ∧
    requestId.toList.any isAsciiControl = false
  ensure (decide (env.isUuid taskId = true ∧ requestValid)) .invalidSummaryRequest

/-- The loop over the completions of `validate_summary_claim`. -/
def completionsValid (env : Crates) (totalBytes : Nat) : List PendingCompletion → Bool
  | [] => true
  | c :: cs =>
    let totalBytes := totalBytes + c.turnPack.utf8ByteSize
    decide (env.isUuid c.completionId = true ∧ c.turnPack ≠ "" ∧
      c.turnPack.utf8ByteSize ≤ maxTurnPackBytes ∧
      totalBytes ≤ maxSummaryTurnPackBytes) && completionsValid env totalBytes cs

def validateSummaryClaim (env : Crates) (claim : SummaryClaim) : Except StoreError Unit := do
  validateSummaryRequest env claim.taskId claim.requestId
  ensure (decide (claim.generation ≠ 0 ∧ claim.completions ≠ [] ∧
    claim.completions.length ≤ maxSummaryCompletionsPerClaim ∧
    ∀ previous ∈ claim.previousUnread, previous.taskId = claim.taskId)) .invalidSummaryRequest
  ensure (completionsValid env 0 claim.completions) .invalidSummaryRequest

/-! ## Claims -/

/-- The loop of `query_pending_summary_completions` over the selected rows; `taken` completions with
`totalBytes` bytes of turn packs are in the claim already. -/
def takePending (env : Crates) (taken totalBytes : Nat) :
    List CompletionRow → Except StoreError (List PendingCompletion)
  | [] => .ok []
  | row :: rows =>
    if taken = maxSummaryCompletionsPerClaim then .ok []
    else if env.isUuid row.completionId = false ∨ row.turnPack = "" ∨
    maxTurnPackBytes < row.turnPack.utf8ByteSize then
      .error .invalidSummaryState
    else
      let nextTotal := totalBytes + row.turnPack.utf8ByteSize
      if taken ≠ 0 ∧ maxSummaryTurnPackBytes < nextTotal then .ok []
      else do
        let rest ← takePending env (taken + 1) nextTotal rows
        return ⟨row.completionId, row.turnPack⟩ :: rest

/-- `WHERE task_id = ?1 AND summarized_generation IS NULL`. -/
def isPendingOf (taskId : String) (c : CompletionRow) : Bool :=
  decide (c.taskId = taskId) && c.summarizedGeneration.isNone

/-- `query_pending_summary_completions`: `ORDER BY observed_at ASC, rowid ASC` is a stable sort of
the table. -/
def queryPendingSummaryCompletions (env : Crates) (db : StoreDb) (taskId : String) :
    Except StoreError (List PendingCompletion) :=
  takePending env 0 0 ((((db.completions.filter (isPendingOf taskId)).insertionSort
    fun a b => a.observedAt ≤ b.observedAt)).take (maxSummaryCompletionsPerClaim + 1))

/-- `WHERE completion_id = ?1 AND task_id = ?2`. -/
def findCompletion (db : StoreDb) (completionId taskId : String) : Option CompletionRow :=
  db.completions.find? fun c => decide (c.completionId = completionId ∧ c.taskId = taskId)

/-- The loop of `load_summary_claim` over the stored completion ids. -/
def loadCompletions (db : StoreDb) (taskId : String) (totalBytes : Nat) :
    List String → Except StoreError (List PendingCompletion)
  | [] => .ok []
  | completionId :: ids =>
    match findCompletion db completionId taskId with
    | none => .error .invalidSummaryState
    | some c => do
      ensure c.summarizedGeneration.isNone .invalidSummaryState
      let totalBytes := totalBytes + c.turnPack.utf8ByteSize
      ensure (decide (c.turnPack ≠ "" ∧ c.turnPack.utf8ByteSize ≤ maxTurnPackBytes ∧
        totalBytes ≤ maxSummaryTurnPackBytes)) .invalidSummaryState
      let rest ← loadCompletions db taskId totalBytes ids
      return ⟨completionId, c.turnPack⟩ :: rest

/-- The previous summary of a stored claim, which has to be the current one still (store.rs:1664-1674). -/
def loadPreviousUnread (db : StoreDb) (taskId : String) :
    Option Nat → Except StoreError (Option UnreadSummary)
  | some expected => do
    let current ← queryCurrentUnread db taskId
    ensure (decide (current.map UnreadSummary.generation = some expected)) .invalidSummaryState
    return current
  | none => .ok none

/-- `load_summary_claim`. -/
def loadSummaryClaim (db : StoreDb) (outcome : SummaryClaimOutcome) (requestId taskId : String)
    (generation : Nat)
    (previousGeneration : Option Nat) (covers : List String) : Except StoreError SummaryClaim := do
  ensure (decide (0 < generation ∧ previousGeneration ≠ some 0)) .invalidSummaryState
  ensure (decide (covers ≠ [] ∧ covers.length ≤ maxSummaryCompletionsPerClaim)) .invalidSummaryState
  let completions ← loadCompletions db taskId 0 covers
  let previousUnread ← loadPreviousUnread db taskId previousGeneration
  return ⟨outcome, requestId, taskId, generation, previousUnread, completions⟩

/-- `SET state = …`, the other columns as they are. -/
def setState (state : SummaryState) (r : SummaryRow) : SummaryRow := { r with state }

/-- `SELECT COALESCE(MAX(generation), 0) FROM summary_ledger WHERE task_id = ?1`. -/
def maxGeneration (db : StoreDb) (taskId : String) : Nat :=
  (db.summaries.filter fun r => decide (r.taskId = taskId)).foldl (fun m r => max m r.generation) 0

/-- The row `claim_summary` inserts. -/
def claimedRow (taskId requestId : String) (generation : Nat) (covers : List String)
    (previous : Option Nat) : SummaryRow where
  taskId := taskId
  generation := generation
  state := .generating
  coversCompletions := covers
  cacheObject := none
  requestId := some requestId
  claimId := some requestId
  previousGeneration := previous
  supersededBy := none

/-- The repeated request of `claim_summary` (store.rs:697-754): `prior` is the row with its request id. -/
def replayRequest (db : StoreDb) (taskId requestId : String) (prior : SummaryRow) :
    Except StoreError (Option SummaryClaimResult × StoreDb) := do
  ensure (decide (prior.taskId = taskId)) .summaryRequestConflict
  match prior.state with
  | .unheard | .leased | .heard | .superseded => return (some (.published taskId prior.generation), db)
  | .abandoned => throw .summaryRequestAbandoned
  | .interrupted =>
    let p := fun r : SummaryRow => decide (r.requestId = some requestId ∧ r.taskId = taskId ∧
      r.generation = prior.generation ∧ r.state = .interrupted ∧ r.claimId = some requestId)
    let db' ← db.writeSummaries (updateWhere p (setState .generating) db.summaries)
    ensure (decide (db.summaries.countP p = 1)) .summaryClaimChanged
    let claim ← loadSummaryClaim db' .replay requestId taskId prior.generation prior.previousGeneration
      prior.coversCompletions
    return (some (.claimed claim), db')
  | .generating =>
    let claim ← loadSummaryClaim db .replay requestId taskId prior.generation prior.previousGeneration
      prior.coversCompletions
    return (some (.claimed claim), db)

/-- The new claim of `claim_summary` (store.rs:782-835). -/
def insertClaim (env : Crates) (db : StoreDb) (taskId requestId : String) :
    Except StoreError (Option SummaryClaimResult × StoreDb) := do
  let previousUnread ← queryCurrentUnread db taskId
  let completions ← queryPendingSummaryCompletions env db taskId
  if completions = [] then return (none, db)
  ensure (decide (maxGeneration db taskId < i64Max)) .summaryGenerationOutOfRange
  let generation := maxGeneration db taskId + 1
  let covers := completions.map PendingCompletion.completionId
  let db ← db.writeSummaries (db.summaries ++
    [claimedRow taskId requestId generation covers (previousUnread.map UnreadSummary.generation)])
  return (some (.claimed ⟨.inserted, requestId, taskId, generation, previousUnread, completions⟩), db)

/-- `StateStore::claim_summary`. -/
def claimSummary (env : Crates) (db : StoreDb) (taskId requestId : String) :
    Except StoreError (Option SummaryClaimResult × StoreDb) := do
  validateSummaryRequest env taskId requestId
  match db.summaries.find? fun r => decide (r.requestId = some requestId) with
  | some prior => replayRequest db taskId requestId prior
  | none =>
    match db.summaries.find? fun r => decide (r.taskId = taskId) && r.isActive with
    | some existing => do
      ensure (decide (existing.claimId = some requestId)) .summaryBusy
      let claim ← loadSummaryClaim db .replay requestId taskId existing.generation
        existing.previousGeneration
        existing.coversCompletions
      return (some (.claimed claim), db)
    | none => insertClaim env db taskId requestId

/-- `SET state = 'abandoned', claim_id = NULL`. -/
def setAbandoned (r : SummaryRow) : SummaryRow := { r with state := .abandoned, claimId := none }

/-- `WHERE task_id = ?1 AND generation = ?2 AND state IN ('generating', 'interrupted') AND claim_id
= ?3`. -/
def activeClaim (taskId : String) (generation : Nat) (requestId : String) (r : SummaryRow) : Bool :=
  decide (r.taskId = taskId ∧ r.generation = generation ∧ r.claimId = some requestId) && r.isActive

/-- `StateStore::abandon_summary_claim`. -/
def abandonSummaryClaim (env : Crates) (db : StoreDb) (claim : SummaryClaim) :
    Except StoreError (Bool × StoreDb) := do
  validateSummaryClaim env claim
  let generation ← toI64 claim.generation
  let p := activeClaim claim.taskId generation claim.requestId
  let db' ← db.writeSummaries (updateWhere p setAbandoned db.summaries)
  if db.summaries.countP p = 1 then return (true, db'.deleteTts claim.taskId generation)
  return (false, db')

/-- `WHERE task_id = ?1 AND state = 'interrupted'`. -/
def interruptedOf (taskId : String) (r : SummaryRow) : Bool :=
  decide (r.taskId = taskId ∧ r.state = .interrupted)

/-- `StateStore::abandon_interrupted_summary_for_task`. -/
def abandonInterruptedSummaryForTask (env : Crates) (db : StoreDb) (taskId : String) :
    Except StoreError (Option Nat × StoreDb) := do
  ensure (env.isUuid taskId) .invalidSummaryRequest
  match db.summaries.find? (interruptedOf taskId) with
  | none => return (none, db)
  | some row =>
    let p := fun r => interruptedOf taskId r && decide (r.generation = row.generation)
    let db' ← db.writeSummaries (updateWhere p setAbandoned db.summaries)
    ensure (decide (db.summaries.countP p = 1)) .summaryClaimChanged
    return (some row.generation, db'.deleteTts taskId row.generation)

/-- `WHERE task_id = ?1 AND generation = ?2 AND state = 'interrupted' AND claim_id = ?3`. -/
def interruptedClaim (taskId : String) (generation : Nat) (requestId : String) (r : SummaryRow) : Bool :=
  decide (r.taskId = taskId ∧ r.generation = generation ∧ r.state = .interrupted ∧
    r.claimId = some requestId)

/-- `StateStore::resume_interrupted_summary`. -/
def resumeInterruptedSummary (env : Crates) (db : StoreDb) (taskId : String) :
    Except StoreError (Option SummaryClaim × StoreDb) := do
  ensure (env.isUuid taskId) .invalidSummaryRequest
  match db.summaries.find? (interruptedOf taskId) with
  | none => return (none, db)
  | some row =>
    match row.claimId with
    | none => throw .sqlite
    | some requestId =>
      let p := interruptedClaim taskId row.generation requestId
      let db' ← db.writeSummaries (updateWhere p (setState .generating) db.summaries)
      ensure (decide (db.summaries.countP p = 1)) .summaryClaimChanged
      let claim ← loadSummaryClaim db' .replay requestId taskId row.generation row.previousGeneration
        row.coversCompletions
      return (some claim, db')

/-! ## Speech attempts -/

/-- `WHERE task_id = ?1 AND generation = ?2` on `summary_tts_attempts`. -/
def ttsOf (taskId : String) (generation : Nat) (t : TtsRow) : Bool :=
  decide (t.taskId = taskId ∧ t.generation = generation)

/-- `EXISTS(SELECT 1 FROM summary_ledger WHERE … AND request_id = ?3 AND claim_id = ?3 AND state IN
(…))`. -/
def claimIsActive (db : StoreDb) (taskId : String) (generation : Nat) (requestId : String) : Bool :=
  db.summaries.any fun r =>
    activeClaim taskId generation requestId r && decide (r.requestId = some requestId)

/-- `StateStore::summary_tts_attempt`. -/
def summaryTtsAttempt (env : Crates) (db : StoreDb) (claim : SummaryClaim) :
    Except StoreError (Option TtsState) := do
  validateSummaryClaim env claim
  let generation ← toI64 claim.generation
  if db.summaries.any fun r => decide (r.taskId = claim.taskId ∧ r.generation = generation ∧
      r.requestId = some claim.requestId) && r.isActive then
    return (db.tts.find? (ttsOf claim.taskId generation)).map TtsRow.state
  else return none

/-- `StateStore::begin_summary_tts_attempt`. -/
def beginSummaryTtsAttempt (env : Crates) (db : StoreDb) (claim : SummaryClaim) :
    Except StoreError (TtsState × StoreDb) := do
  validateSummaryClaim env claim
  let generation ← toI64 claim.generation
  ensure (claimIsActive db claim.taskId generation claim.requestId) .summaryTtsAttemptChanged
  match db.tts.find? (ttsOf claim.taskId generation) with
  | some t => return (t.state, db)
  | none => return (.started, { db with tts := db.tts ++ [⟨claim.taskId, generation, .started⟩] })

/-- `StateStore::mark_summary_tts_ambiguous`; the key of the table allows one row at most, so a
count other than one is zero and nothing was written. -/
def markSummaryTtsAmbiguous (env : Crates) (db : StoreDb) (claim : SummaryClaim) :
    Except StoreError (Unit × StoreDb) := do
  validateSummaryClaim env claim
  let generation ← toI64 claim.generation
  let p := fun t : TtsRow =>
    ttsOf claim.taskId generation t && claimIsActive db claim.taskId generation claim.requestId
  ensure (decide (db.tts.countP p = 1)) .summaryTtsAttemptChanged
  return ((), { db with tts := updateWhere p (fun t => { t with state := .ambiguous }) db.tts })

/-! ## Publication -/

/-- `SET state = CASE WHEN state = 'unheard' THEN 'superseded' ELSE state END, superseded_by = ?3`. -/
def supersede (generation : Nat) (r : SummaryRow) : SummaryRow :=
  { r with state := if r.state = .unheard then .superseded else r.state, supersededBy := some generation }

/-- `SET summarized_generation = …`. -/
def cover (generation : Nat) (c : CompletionRow) : CompletionRow :=
  { c with summarizedGeneration := some generation }

/-- The previous unread summary makes room: its row and its completions pass to the new generation
(store.rs:1062-1107). The count is the `previous_coverage`, a `u32`. -/
def supersedePrevious (db : StoreDb) (claim : SummaryClaim) (generation : Nat) :
    Except StoreError (Nat × StoreDb) := do
  let current ← queryCurrentUnread db claim.taskId
  match claim.previousUnread with
  | some previous =>
    ensure (decide (current = some previous)) .summaryClaimChanged
    let previousGeneration ← toI64 previous.generation
    let p := fun r : SummaryRow => currentOf claim.taskId r && decide (r.generation = previousGeneration)
    let db' ← db.writeSummaries (updateWhere p (supersede generation) db.summaries)
    ensure (decide (db.summaries.countP p = 1)) .summaryClaimChanged
    let moved := coveredBy claim.taskId previousGeneration
    let previousCoverage := db.completions.countP moved % (u32Max + 1)
    ensure (decide (previousCoverage = previous.coverageCount)) .summaryClaimChanged
    return (previousCoverage,
      { db' with completions := updateWhere moved (cover generation) db'.completions })
  | none =>
    ensure current.isNone .summaryClaimChanged
    return (0, db)

/-- `WHERE completion_id = ?1 AND task_id = ?2 AND turn_pack = ?3 AND summarized_generation IS NULL`. -/
def isClaimedCompletion (taskId : String) (c : PendingCompletion) (r : CompletionRow) : Bool :=
  decide (r.completionId = c.completionId ∧ r.turnPack = c.turnPack) && isPendingOf taskId r

/-- One completion of the claim passes to the new generation (store.rs:1109-1125). -/
def coverOne (taskId : String) (generation : Nat) (db : StoreDb) (c : PendingCompletion) :
    Except StoreError StoreDb := do
  ensure (decide (db.completions.countP (isClaimedCompletion taskId c) = 1)) .summaryClaimChanged
  return { db with
    completions := updateWhere (isClaimedCompletion taskId c) (cover generation) db.completions }

/-- `SET state = 'unheard', cache_object = ?4, claim_id = NULL`. -/
def setUnheard (cacheObject : String) (r : SummaryRow) : SummaryRow :=
  { r with state := .unheard, cacheObject := some cacheObject, claimId := none }

/-- `WHERE task_id = ?1 AND generation = ?2 AND state = 'generating' AND claim_id = ?3`. -/
def generatingClaim (taskId : String) (generation : Nat) (requestId : String) (r : SummaryRow) : Bool :=
  decide (r.taskId = taskId ∧ r.generation = generation ∧ r.state = .generating ∧
    r.claimId = some requestId)

/-- `expected_previous` (store.rs:1043). -/
def previousGenerationOf (claim : SummaryClaim) : Except StoreError (Option Nat) :=
  match claim.previousUnread with
  | some previous => do
    let generation ← toI64 previous.generation
    return some generation
  | none => .ok none

/-- `StateStore::publish_summary`. -/
def publishSummary (env : Crates) (db : StoreDb) (claim : SummaryClaim) (cacheObject : String) :
    Except StoreError (UnreadSummary × StoreDb) := do
  validateSummaryClaim env claim
  ensure
    (decide ((Cache.CacheId.forTask env.sha256 claim.taskId claim.generation).map Cache.CacheId.reference =
    some cacheObject)) .invalidSummaryCacheReference
  let generation ← toI64 claim.generation
  let p := generatingClaim claim.taskId generation claim.requestId
  match db.summaries.find? p with
  | none => throw .summaryClaimChanged
  | some stored =>
    let expectedPrevious ← previousGenerationOf claim
    ensure (decide (stored.previousGeneration = expectedPrevious ∧
      stored.coversCompletions = claim.completions.map PendingCompletion.completionId)) .summaryClaimChanged
    let (previousCoverage, db) ← supersedePrevious db claim generation
    let db ← claim.completions.foldlM (coverOne claim.taskId generation) db
    let db' ← db.writeSummaries (updateWhere p (setUnheard cacheObject) db.summaries)
    ensure (decide (db.summaries.countP p = 1)) .summaryClaimChanged
    let coverageCount := previousCoverage + claim.completions.length
    ensure (decide (coverageCount ≤ u32Max)) .invalidSummaryState
    return (⟨claim.taskId, claim.generation, cacheObject, coverageCount⟩,
      db'.deleteTts claim.taskId generation)

end CodexKeyboard.Store
