import CodexKeyboard.Store.Basic
import CodexKeyboard.Cache.CacheId
import CodexKeyboard.Lib.Table
/-!
# The completion and summary tables

`src/app/host/src/store.rs`. Rows are in rowid order. `covers_completions` is the JSON text of a
list of ids and is held as that list. Columns that no modelled statement reads (`rollout_cursor`,
the timestamps other than `observed_at`) are left out.

| here | there |
| --- | --- |
| `SummaryState`, `SummaryRow`, `summarySchema` | `CREATE TABLE summary_ledger` and its three unique indexes (store.rs:1893-1920) |
| `CompletionRow` | `CREATE TABLE completion_ledger` (store.rs:1874) |
| `RolloutCursor` | `CREATE TABLE rollout_cursors`, `RolloutCursor` (store.rs:157) |
| `LeaseRow`, `leaseSchema` | `summary_playback_leases` (store.rs:2086) |
| `TtsRow` | `summary_tts_attempts` (store.rs:2072) |
| `queryCurrentUnread` | `query_current_unread` (store.rs:1543) |
-/

namespace CodexKeyboard.Store

open Lib

/-- What the store takes from other crates: `uuid`, `serde_json` and `sha2`. -/
structure Crates where
  /-- `uuid::Uuid::parse_str(..).is_ok()`. -/
  isUuid : String → Bool
  /-- `serde_json::from_str(..)` gives an object. -/
  isJsonObject : String → Bool
  sha256 : List UInt8 → List UInt8

/-- A row of `bindings`; also `Binding` (store.rs:143). -/
structure Binding where
  slot : Nat
  taskId : String
  generation : Nat
deriving DecidableEq, Repr

structure CompletionRow where
  completionId : String
  taskId : String
  observedAt : Int
  summarizedGeneration : Option Nat
  turnPack : String
deriving DecidableEq, Repr

structure RolloutCursor where
  taskId : String
  rolloutPath : List UInt8
  device : Nat
  inode : Nat
  offset : Nat
  generation : Nat
  anchor : List UInt8
deriving DecidableEq, Repr

inductive SummaryState where
  | generating
  | interrupted
  | abandoned
  | unheard
  | leased
  | heard
  | superseded
deriving DecidableEq, Repr

structure SummaryRow where
  taskId : String
  generation : Nat
  state : SummaryState
  coversCompletions : List String
  cacheObject : Option String
  requestId : Option String
  claimId : Option String
  previousGeneration : Option Nat
  supersededBy : Option Nat
deriving DecidableEq, Repr

namespace SummaryRow

/-- `state IN ('generating', 'interrupted')`. -/
def isActive (r : SummaryRow) : Bool := r.state == .generating || r.state == .interrupted
/-- `state IN ('unheard', 'leased')`. -/
def isUnreadState (r : SummaryRow) : Bool := r.state == .unheard || r.state == .leased
/-- `state IN ('unheard', 'leased') AND superseded_by IS NULL`. -/
def isCurrent (r : SummaryRow) : Bool := r.isUnreadState && r.supersededBy.isNone

/-- `state IN ('unheard', 'leased', 'heard', 'superseded')`. -/
def isPublished (r : SummaryRow) : Bool := r.isUnreadState || r.state == .heard || r.state == .superseded

/-- The primary key and the unique indexes `summary_one_active_claim_per_task`, `summary_request_id_unique`
and `summary_one_current_unread_per_task`. -/
def Compatible (a b : SummaryRow) : Prop :=
  ¬(a.taskId = b.taskId ∧ a.generation = b.generation) ∧
  ¬(a.taskId = b.taskId ∧ a.isActive = true ∧ b.isActive = true) ∧
  ¬(a.requestId.isSome = true ∧ a.requestId = b.requestId) ∧
  ¬(a.taskId = b.taskId ∧ a.isCurrent = true ∧ b.isCurrent = true)

/-- The `CHECK` constraints of a row. -/
def Checked (r : SummaryRow) : Prop :=
  0 < r.generation ∧ r.previousGeneration ≠ some 0 ∧ (∀ g ∈ r.supersededBy, r.generation < g) ∧
  (r.isActive = true ∧ r.claimId.isSome = true ∧ r.cacheObject = none ∨
    r.state = .abandoned ∧ r.claimId = none ∧ r.cacheObject = none ∨
    r.isPublished = true ∧ r.claimId = none)

instance (a b : SummaryRow) : Decidable (a.Compatible b) := inferInstanceAs (Decidable (_ ∧ _ ∧ _ ∧ _))
instance (r : SummaryRow) : Decidable r.Checked := inferInstanceAs (Decidable (_ ∧ _ ∧ _ ∧ _))

end SummaryRow

def summarySchema (rows : List SummaryRow) : Prop :=
  rows.Pairwise SummaryRow.Compatible ∧ ∀ r ∈ rows, r.Checked

instance (rows : List SummaryRow) : Decidable (summarySchema rows) := inferInstanceAs (Decidable (_ ∧ _))

/-- A row of `summary_playback_leases`. -/
structure LeaseRow where
  leaseId : Nat
  taskId : String
  summaryGeneration : Nat
  slot : Nat
  requestGeneration : Nat
  connectionGeneration : Nat
deriving DecidableEq, Repr

inductive TtsState where
  | started
  | ambiguous
deriving DecidableEq, Repr

/-- A row of `summary_tts_attempts`. -/
structure TtsRow where
  taskId : String
  generation : Nat
  state : TtsState
deriving DecidableEq, Repr

/-- The database behind `StateStore`, without the table `jobs`: no statement touches that table and
these. -/
structure StoreDb where
  bindings : List Binding
  completions : List CompletionRow
  cursors : List RolloutCursor
  summaries : List SummaryRow
  leases : List LeaseRow
  tts : List TtsRow
deriving DecidableEq, Repr

namespace StoreDb

def empty : StoreDb := ⟨[], [], [], [], [], []⟩

/-- A statement on `summary_ledger`: it takes effect when the result satisfies the schema. -/
def writeSummaries (db : StoreDb) (rows : List SummaryRow) : Except StoreError StoreDb :=
  if summarySchema rows then .ok { db with summaries := rows } else .error .sqlite

/-- `INSERT INTO summary_playback_leases`: primary key, `UNIQUE(task_id, summary_generation)`, the
`CHECK`s and the foreign key. -/
def insertLease (db : StoreDb) (l : LeaseRow) : Except StoreError StoreDb :=
  if (∀ o ∈ db.leases, o.leaseId ≠ l.leaseId ∧
    ¬(o.taskId = l.taskId ∧ o.summaryGeneration = l.summaryGeneration)) ∧
      0 < l.leaseId ∧ 0 < l.summaryGeneration ∧ 1 ≤ l.slot ∧ l.slot ≤ 4 ∧ 0 < l.requestGeneration ∧
      0 < l.connectionGeneration ∧
      ∃ r ∈ db.summaries, r.taskId = l.taskId ∧ r.generation = l.summaryGeneration then
    .ok { db with leases := db.leases ++ [l] }
  else .error .sqlite

/-- `DELETE FROM summary_tts_attempts WHERE task_id = ?1 AND generation = ?2`. -/
def deleteTts (db : StoreDb) (taskId : String) (generation : Nat) : StoreDb :=
  { db with tts := deleteWhere (fun t => decide (t.taskId = taskId ∧ t.generation = generation)) db.tts }

end StoreDb

/-- `PendingSummaryCompletion` (store.rs:180). -/
structure PendingCompletion where
  completionId : String
  turnPack : String
deriving DecidableEq, Repr

/-- `UnreadSummary` (store.rs:186). -/
structure UnreadSummary where
  taskId : String
  generation : Nat
  cacheObject : String
  coverageCount : Nat
deriving DecidableEq, Repr

/-- `SummaryPlaybackLease` (store.rs:194). -/
structure PlaybackLease where
  lease : Nat
  slot : Nat
  taskId : String
  summaryGeneration : Nat
  requestGeneration : Nat
  connectionGeneration : Nat
  cacheObject : String
deriving DecidableEq, Repr

inductive SummaryClaimOutcome where
  | inserted
  | replay
deriving DecidableEq, Repr

/-- `SummaryClaim` (store.rs:205). -/
structure SummaryClaim where
  outcome : SummaryClaimOutcome
  requestId : String
  taskId : String
  generation : Nat
  previousUnread : Option UnreadSummary
  completions : List PendingCompletion
deriving DecidableEq, Repr

/-- `SummaryClaimResult` (store.rs:215). -/
inductive SummaryClaimResult where
  | claimed (claim : SummaryClaim)
  | published (taskId : String) (generation : Nat)
deriving DecidableEq, Repr

/-- `WHERE task_id = ?1 AND summarized_generation = ?2`. -/
def coveredBy (taskId : String) (generation : Nat) (c : CompletionRow) : Bool :=
  decide (c.taskId = taskId ∧ c.summarizedGeneration = some generation)

/-- `WHERE summary.task_id = ?1 AND summary.state IN ('unheard', 'leased') AND summary.superseded_by
IS NULL`. -/
def currentOf (taskId : String) (r : SummaryRow) : Bool := decide (r.taskId = taskId) && r.isCurrent

/-- `query_current_unread`. -/
def queryCurrentUnread (db : StoreDb) (taskId : String) : Except StoreError (Option UnreadSummary) :=
  match db.summaries.find? (currentOf taskId) with
  | none => .ok none
  | some r =>
    let coverageCount := db.completions.countP (coveredBy r.taskId r.generation)
    match r.cacheObject with
    | some cacheObject =>
      if 0 < r.generation ∧ 0 < coverageCount then
        if coverageCount ≤ u32Max then .ok (some ⟨taskId, r.generation, cacheObject, coverageCount⟩)
        else .error .invalidSummaryState
      else .error .invalidSummaryState
    | none => .error .invalidSummaryState

end CodexKeyboard.Store
