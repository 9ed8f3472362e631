import CodexKeyboard.Store.Tables
import CodexKeyboard.Lib.Transaction
/-!
# Slot bindings and observed completions

`src/app/host/src/store.rs`.

| here | there |
| --- | --- |
| `setBinding` | `StateStore::set_binding` (store.rs:535) |
| `validateRolloutCompletion` | `validate_rollout_completion` (store.rs:2232) |
| `commitRolloutCompletion` | `commit_rollout_completion_on` (store.rs:1743); `binding` is the one `commit_bound_rollout_completion` passes |
-/

namespace CodexKeyboard.Store

open Lib

/-- `StateStore::set_binding`. -/
def setBinding (db : StoreDb) (slot : Nat) (expectedGeneration : Option Nat) (taskId : String) :
    Except StoreError (Option Binding × StoreDb) := do
  validateSlot slot
  let current := db.bindings.find? fun b => decide (b.slot = slot)
  if current.map Binding.generation ≠ expectedGeneration then return (none, db)
  let generation ← toI64 (match expectedGeneration with
    | some value => value + 1
    | none => 1)
  let binding : Binding := ⟨slot, taskId, generation⟩
  let bindings := match current with
    | some _ => updateWhere (fun b => decide (b.slot = slot)) (fun _ => binding) db.bindings
    | none => db.bindings ++ [binding]
  return (some binding, { db with bindings })

/-- `validate_rollout_completion`: the next cursor stays in its file and does not go back, or it opens the
next generation (`saturating_add`). -/
def validateRolloutCompletion (env : Crates) (expected : Option RolloutCursor) (next : RolloutCursor)
    (completionId turnPack : String) : Except StoreError Unit :=
  let baseValid := env.isUuid next.taskId = true ∧ env.isUuid completionId = true ∧
    next.rolloutPath.head? = some 0x2f ∧ next.rolloutPath ≠ [] ∧
      next.rolloutPath.length ≤ maxRolloutPathBytes ∧
    0 ∉ next.rolloutPath ∧ 0 < next.generation ∧ next.anchor ≠ List.replicate 32 0 ∧
    turnPack ≠ "" ∧ turnPack.utf8ByteSize ≤ maxTurnPackBytes ∧ env.isJsonObject turnPack = true
  let transitionValid := match expected with
    | none => decide (next.generation = 1)
    | some previous => decide (previous.taskId = next.taskId ∧
        (previous.rolloutPath = next.rolloutPath ∧ previous.device = next.device ∧
          previous.inode = next.inode ∧
          previous.generation = next.generation ∧ previous.offset ≤ next.offset ∨
        next.generation = min (previous.generation + 1) Cache.u64Max))
  ensure (decide baseValid && transitionValid) .invalidCompletion

/-- `to_sql_i64` (store.rs:2300). -/
def toSqlI64 (value : Nat) : Except StoreError Nat :=
  if value ≤ i64Max then .ok value else .error .invalidCompletion

/-- `INSERT … ON CONFLICT(task_id) DO UPDATE`. -/
def upsertCursor (cursors : List RolloutCursor) (next : RolloutCursor) : List RolloutCursor :=
  if cursors.any fun c => decide (c.taskId = next.taskId) then
    updateWhere (fun c => decide (c.taskId = next.taskId)) (fun _ => next) cursors
  else cursors ++ [next]

inductive CompletionOutcome where
  | inserted
  | replay
deriving DecidableEq, Repr

/-- The `still_bound` check (store.rs:1753-1767). -/
def checkStillBound (db : StoreDb) : Option Binding → Except StoreError Unit
  | some binding => do
    let generation ← toI64 binding.generation
    ensure (db.bindings.any fun b => decide (b = { binding with generation })) .bindingChanged
  | none => .ok ()

/-- The ledger after the completion of `next`, and whether it was there before (store.rs:1783-1809). -/
def recordCompletion (db : StoreDb) (now : Int) (taskId completionId turnPack : String) :
    Except StoreError (CompletionOutcome × StoreDb) :=
  match db.completions.find? fun c => decide (c.completionId = completionId) with
  | some c => if c.taskId = taskId then .ok (.replay, db) else .error .completionConflict
  | none =>
    .ok (.inserted,
      { db with completions := db.completions ++ [⟨completionId, taskId, now, none, turnPack⟩] })

/-- `commit_rollout_completion_on`; `now` is `unixepoch()`. -/
def commitRolloutCompletion (env : Crates) (db : StoreDb) (now : Int) (binding : Option Binding)
    (expected : Option RolloutCursor) (next : RolloutCursor) (completionId turnPack : String) :
    Except StoreError (CompletionOutcome × StoreDb) := do
  validateRolloutCompletion env expected next completionId turnPack
  checkStillBound db binding
  ensure (decide ((db.cursors.find? fun c => decide (c.taskId = next.taskId)) = expected))
    .rolloutCursorChanged
  let (outcome, db) ← recordCompletion db now next.taskId completionId turnPack
  let device ← toSqlI64 next.device
  let inode ← toSqlI64 next.inode
  let offset ← toSqlI64 next.offset
  let generation ← toSqlI64 next.generation
  return (outcome,
    { db with cursors := upsertCursor db.cursors { next with device, inode, offset, generation } })

end CodexKeyboard.Store
