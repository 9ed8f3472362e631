import CodexKeyboard.Store.Playback
/-!
# The rollout observer

`src/app/host/src/rollout_observer.rs`: one task and its rollout file. The turn builder and the
streaming record parser are parameters (`TurnApi`, `RecordParser`): `StreamingRecordParser::feed` is
a fold of `feed_byte` (rollout_observer.rs:1586). The path keeps naming the same file, so
`verify_path_identity` succeeds and is left out; the other tests of the file against the scan are
in. Counts of bytes of a file do not overflow a `u64`.

| here | there |
| --- | --- |
| `PendingScan`, `StreamingLine`, `CompletionVerification` | rollout_observer.rs:86-120 |
| `validateTrustedRange`, `trustFrom`, `startVerification` | `impl PendingScan` (rollout_observer.rs:132) |
| `advance`, `validateDigest` | `impl CompletionVerification` (rollout_observer.rs:177) |
| `applyRolloutValue` | `apply_rollout_value` (rollout_observer.rs:671) |
| `freshScan` | `fresh_scan` (rollout_observer.rs:737) |
| `anchorAt`, `hashRange`, `validateLineBoundary`, `validateSessionMeta` | `impl GuardedRollout` (rollout_observer.rs:798) |
| `scanLoop`, `finishPoll`, `pollTask` | `poll_task_with` (rollout_observer.rs:438) |
-/

namespace CodexKeyboard.Observer

open Lib Store

/-- `serde_json::Value`; the entries of an object have different keys. -/
inductive Json where
  | null
  | bool (b : Bool)
  | number (text : String)
  | string (s : String)
  | array (items : List Json)
  | object (entries : List (String × Json))

namespace Json

def asObject : Json → Option (List (String × Json))
  | .object entries => some entries
  | _ => none

def asStr : Json → Option String
  | .string s => some s
  | _ => none

end Json

/-- `Map::get`. -/
def getKey (entries : List (String × Json)) (key : String) : Option Json :=
  (entries.find? fun e => decide (e.1 = key)).map Prod.snd

/-- `object.get(key).and_then(Value::as_str)`. -/
def getStr (entries : List (String × Json)) (key : String) : Option String :=
  (getKey entries key).bind Json.asStr

/-- `ObserverError` (rollout_observer.rs:34), but for the variants of the catalog and of I/O. -/
inductive ObserverError where
  | store (e : StoreError)
  | invalidRollout
  | rolloutTooLarge
  | turnPackTooLarge
  | generationOverflow
deriving DecidableEq, Repr

def maxRolloutLineBytes : Nat := 256 * 1024
def rolloutAnchorBytes : Nat := 4 * 1024

def newline : UInt8 := 0x0a
def carriageReturn : UInt8 := 0x0d

/-- `TurnBuilder` (rollout_observer.rs:937) with builders of type `B`. -/
structure TurnApi (B : Type) where
  new : String → B
  turnId : B → String
  /-- `observe_response_item`. -/
  observeResponseItem : B → Json → Except ObserverError B
  /-- `assistant.clear()`, then `push_message("assistant", last)`. -/
  setFinalAnswer : B → String → Except ObserverError B
  /-- `serde_json::to_string(&builder.finish()?)` with its bound on the length. -/
  finish : B → Except ObserverError String

/-- `StreamingRecordParser` (rollout_observer.rs:1569) with states of type `P`. -/
structure RecordParser (P : Type) where
  new : P
  feedByte : P → UInt8 → Except ObserverError P
  finish : P → Except ObserverError Json

/-- `StreamingRecordParser::feed`. -/
def RecordParser.feed {P : Type} (parser : RecordParser P) (p : P) (bytes : List UInt8) :
    Except ObserverError P :=
  bytes.foldlM parser.feedByte p

/-- What the observer is built from: the store's crates, `serde_json::from_slice` and the two parsers. -/
structure ObserverEnv (B P : Type) where
  crates : Crates
  fromSlice : List UInt8 → Option Json
  turns : TurnApi B
  parser : RecordParser P

/-- A `CodexTask` and the identity of its rollout file. -/
structure RolloutTask where
  taskId : String
  rolloutPath : List UInt8
  device : Nat
  inode : Nat
deriving DecidableEq, Repr

structure StreamingLine (P : Type) where
  startOffset : Nat
  parser : P

/-- A digest in progress is the list of the bytes it was given. -/
structure CompletionVerification where
  startOffset : Nat
  endOffset : Nat
  offset : Nat
  digest : List UInt8
  expectedDigest : List UInt8
  completionId : String
  turnPack : String

structure PendingScan (B P : Type) where
  expected : Option RolloutCursor
  rolloutPath : List UInt8
  device : Nat
  inode : Nat
  generation : Nat
  offset : Nat
  anchor : List UInt8
  trustedOffset : Nat
  trustedAnchor : List UInt8
  trustedPrefixLen : Nat
  trustedPrefixAnchor : List UInt8
  trustedRangeDigest : List UInt8
  active : Option B
  streamingLine : Option (StreamingLine P)
  verification : Option CompletionVerification

section
variable {B P : Type} (env : ObserverEnv B P)

/-! ## The guarded file -/

/-- `anchor_at`: the digest of the 4 KiB before `offset`. -/
def anchorAt (content : List UInt8) (offset : Nat) : Except ObserverError (List UInt8) :=
  if content.length < offset then .error .invalidRollout
  else .ok (env.crates.sha256 ((content.take offset).drop (offset - rolloutAnchorBytes)))

/-- `line.last() == Some(&b'\r')` and its `pop`. -/
def stripCarriageReturn (line : List UInt8) : List UInt8 :=
  if line.getLast? = some carriageReturn then line.dropLast else line

/-- `advance`: at most `budget` more bytes of the range, and how many were read. -/
def advance (v : CompletionVerification) (content : List UInt8) (budget : Nat) :
    Except ObserverError (Nat × CompletionVerification) := do
  ensure (decide (v.startOffset ≤ v.offset ∧ v.offset ≤ v.endOffset)) .invalidRollout
  let wanted := min (v.endOffset - v.offset) budget
  ensure (decide (v.offset + wanted ≤ content.length)) .invalidRollout
  return (wanted,
    { v with digest := v.digest ++ (content.drop v.offset).take wanted, offset := v.offset + wanted })

/-- `required_turn_id` (rollout_observer.rs:1119). -/
def requiredTurnId (payload : List (String × Json)) : Except ObserverError String :=
  match getStr payload "turn_id" with
  | none => .error .invalidRollout
  | some turnId => if env.crates.isUuid turnId then .ok turnId else .error .invalidRollout

/-- The `task_complete` branch of `apply_rollout_value`; the active turn is taken whatever follows. -/
def completeTurn (payload : List (String × Json)) (active : Option B) :
    Except ObserverError (Option (String × String) × Option B) := do
  let turnId ← requiredTurnId env payload
  match active with
  | none => return (none, none)
  | some builder =>
    if env.turns.turnId builder ≠ turnId then return (none, none)
    match getStr payload "last_agent_message" with
    | none => return (none, none)
    | some last =>
      if last = "" then return (none, none)
      let builder ← env.turns.setFinalAnswer builder last
      let serialized ← env.turns.finish builder
      return (some (turnId, serialized), none)

/-- `apply_rollout_value`: the completion a record ends, if any, and the turn that is active after it. -/
def applyRolloutValue (value : Json) (active : Option B) :
    Except ObserverError (Option (String × String) × Option B) :=
  match value.asObject with
  | none => .error .invalidRollout
  | some object =>
    match getStr object "type" with
    | some "event_msg" =>
      match (getKey object "payload").bind Json.asObject with
      | none => .error .invalidRollout
      | some payload =>
        match getStr payload "type" with
        | some "task_started" => do
          let turnId ← requiredTurnId env payload
          return (none, some (env.turns.new turnId))
        | some "task_complete" => completeTurn env payload active
        | _ => .ok (none, active)
    | some "response_item" =>
      match active with
      | none => .ok (none, none)
      | some builder =>
        match getKey object "payload" with
        | none => .error .invalidRollout
        | some payload => do
          let builder ← env.turns.observeResponseItem builder payload
          return (none, some builder)
    | _ => .ok (none, active)

/-- The value of a line that fits the line buffer. -/
def parseShortLine (line : List UInt8) : Except ObserverError Json :=
  let line := stripCarriageReturn line
  if line = [] then .error .invalidRollout
  else match env.fromSlice line with
    | none => .error .invalidRollout
    | some value => .ok value

/-! ## Scanning -/

structure ObservedCompletion where
  completionId : String
  outcome : CompletionOutcome
deriving DecidableEq, Repr

/-- The local variables of `poll_task_with` while it reads (rollout_observer.rs:504-517). -/
structure Reading (B P : Type) where
  scan : PendingScan B P
  db : StoreDb
  offset : Nat
  line : List UInt8
  lineStart : Nat
  streamingLine : Option (StreamingLine P)
  active : Option B
  scanned : Nat
  completions : List ObservedCompletion

/-- What a poll sees: the file, how many bytes each read may give (after `scanned` bytes), and the
clock at the `n`th commit. -/
structure Poll where
  content : List UInt8
  chunk : Nat → Nat
  clock : Nat → Int
  binding : Option Binding

/-- An unfinished short line is read again by the next poll. -/
def nextOffset (incomplete : Bool) (r : Reading B P) : Nat :=
  if incomplete && r.streamingLine.isNone then r.lineStart else r.offset

/-- A poll of the task, or a restart of the Host between polls. -/
inductive ObserverOp where
  | poll (p : Poll)
  | restart

/-- The observer's memory of the task and the store. -/
structure ObserverState (B P : Type) where
  pending : Option (PendingScan B P)
  db : StoreDb

end

end CodexKeyboard.Observer
