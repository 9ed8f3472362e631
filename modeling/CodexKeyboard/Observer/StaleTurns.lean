import CodexKeyboard.Observer.TurnBuilder
import CodexKeyboard.Store.Resume
/-!
# Late completions and the active turn

`apply_rollout_value` takes the active builder before it compares the ids
(rollout_observer.rs:701-706), so a `task_complete` of another turn ends the active one as well.
What a turn comes to then depends on whether such a record lies between its start and its own
completion.

| here | there |
| --- | --- |
| `RecordKind`, `recordKind` | what `apply_rollout_value` tells apart (rollout_observer.rs:671-736) |
| `observerEnv` | `apply_rollout_value` with the `TurnBuilder` of rollout_observer.rs:926 |
| `applyRecords` | `apply_rollout_value` on one record after another |
| `turnOutcome` | the completion built from a turn's own items |
-/

namespace CodexKeyboard.Observer

open Lib Store

/-- A record as `apply_rollout_value` sees it. -/
inductive RecordKind where
  | started (turnId : String)
  | completed (turnId : String) (last : Option String)
  | item (payload : Option Json)
  | other
  | malformed

section
variable {P : Type} (crates : Crates) (redact : List Char → List Char)

/-- An event whose `payload` is an object. -/
def eventKind (payload : List (String × Json)) : RecordKind :=
  if getStr payload "type" = some "task_started" then
    match (getStr payload "turn_id").filter crates.isUuid with
    | some turnId => .started turnId
    | none => .malformed
  else if getStr payload "type" = some "task_complete" then
    match (getStr payload "turn_id").filter crates.isUuid with
    | some turnId => .completed turnId (getStr payload "last_agent_message")
    | none => .malformed
  else .other

def recordKind (value : Json) : RecordKind :=
  match value.asObject with
  | none => .malformed
  | some object =>
    if getStr object "type" = some "event_msg" then
      match (getKey object "payload").bind Json.asObject with
      | none => .malformed
      | some payload => eventKind crates payload
    else if getStr object "type" = some "response_item" then .item (getKey object "payload")
    else .other

/-- The observer with the builder of this file's source. -/
def observerEnv (fromSlice : List UInt8 → Option Json) (parser : RecordParser P) :
    ObserverEnv TurnBuilder P where
  crates := crates
  fromSlice := fromSlice
  turns := turnApi crates redact
  parser := parser

/-- What follows from the kind of a record and the active turn. -/
def applyKind (active : Option TurnBuilder) :
    RecordKind → Except ObserverError (Option (String × String) × Option TurnBuilder)
  | .started turnId => .ok (none, some { turnId })
  | .completed turnId last =>
    match active, last.filter (· ≠ "") with
    | some builder, some last =>
      if builder.turnId ≠ turnId then .ok (none, none)
      else ((builder.setFinalAnswer redact last).finish crates).map fun pack => (some (turnId, pack), none)
    | _, _ => .ok (none, none)
  | .item payload =>
    match active, payload with
    | none, _ => .ok (none, none)
    | some _, none => .error .invalidRollout
    | some builder, some payload =>
      (builder.observeResponseItem redact payload).map fun builder => (none, some builder)
  | .other => .ok (none, active)
  | .malformed => .error .invalidRollout

end

namespace RecordKind

def payload : RecordKind → Option Json
  | .item payload => payload
  | _ => none

end RecordKind

section
variable {P : Type} {crates : Crates} {redact : List Char → List Char}
    {fromSlice : List UInt8 → Option Json}
  {parser : RecordParser P}

theorem requiredTurnId_eq (payload : List (String × Json)) :
    requiredTurnId (observerEnv crates redact fromSlice parser) payload =
      match (getStr payload "turn_id").filter crates.isUuid with
      | some turnId => .ok turnId
      | none => .error .invalidRollout := by
  unfold requiredTurnId
  cases getStr payload "turn_id" with
  | none => rfl
  | some turnId =>
    by_cases h : crates.isUuid turnId = true
    · simp [observerEnv, h, Option.filter]
    · simp [observerEnv, h, Option.filter]

/-- The completion of the active turn. -/
theorem applyKind_own (b : TurnBuilder) {last : String} (hlast : last ≠ "") :
    applyKind crates redact (some b) (.completed b.turnId (some last)) =
      ((b.setFinalAnswer redact last).finish crates).map fun pack => (some (b.turnId, pack), none) := by
  have hfilter : (some last).filter (· ≠ "") = some last := by simp [Option.filter, hlast]
  simp only [applyKind, hfilter, ne_eq, not_true_eq_false, if_false]

/-- A late completion ends the active turn. -/
theorem applyKind_stale {b : TurnBuilder} {stale : String} (hstale : stale ≠ b.turnId)
    (last : Option String) :
    applyKind crates redact (some b) (.completed stale last) = .ok (none, none) := by
  cases hlast : last.filter (· ≠ "") with
  | none => simp only [applyKind, hlast]
  | some last => simp only [applyKind, hlast, if_pos hstale.symm]

theorem completeTurn_eq (payload : List (String × Json)) (active : Option TurnBuilder) :
    completeTurn (observerEnv crates redact fromSlice parser) payload active =
      applyKind crates redact active
        (match (getStr payload "turn_id").filter crates.isUuid with
        | some turnId => .completed turnId (getStr payload "last_agent_message")
        | none => .malformed) := by
  rw [completeTurn, requiredTurnId_eq]
  cases (getStr payload "turn_id").filter crates.isUuid with
  | none => rfl
  | some turnId =>
    cases active with
    | none => rfl
    | some builder =>
      cases getStr payload "last_agent_message" with
      | none => simp [applyKind, Option.filter]
      | some last =>
        by_cases hempty : last = ""
        · simp [applyKind, hempty, Option.filter]
        by_cases hturn : builder.turnId = turnId
        · subst hturn
          rw [applyKind_own builder hempty]
          simp only [observerEnv, turnApi, hempty, ok_bind, ne_eq, not_true_eq_false, if_false]
          cases (builder.setFinalAnswer redact last).finish crates <;> rfl
        · rw [applyKind_stale (Ne.symm hturn)]
          simp [observerEnv, turnApi, hturn]

theorem event_eq (payload : List (String × Json)) (active : Option TurnBuilder) :
    (match getStr payload "type" with
      | some "task_started" => do
        let turnId ← requiredTurnId (observerEnv crates redact fromSlice parser) payload
        return (none, some ((observerEnv crates redact fromSlice parser).turns.new turnId))
      | some "task_complete" => completeTurn (observerEnv crates redact fromSlice parser) payload active
      | _ => .ok (none, active)) =
    applyKind crates redact active (eventKind crates payload) := by
  unfold eventKind
  by_cases hstarted : getStr payload "type" = some "task_started"
  · rw [if_pos hstarted]
    simp only [hstarted, requiredTurnId_eq]
    cases (getStr payload "turn_id").filter crates.isUuid <;> rfl
  by_cases hcomplete : getStr payload "type" = some "task_complete"
  · rw [if_neg hstarted, if_pos hcomplete]
    simp only [hcomplete, completeTurn_eq]
  · rw [if_neg hstarted, if_neg hcomplete]
    split
    · exact absurd ‹_› hstarted
    · exact absurd ‹_› hcomplete
    · rfl

/-- A record acts by its kind alone. -/
theorem applyRolloutValue_eq (value : Json) (active : Option TurnBuilder) :
    applyRolloutValue (observerEnv crates redact fromSlice parser) value active =
      applyKind crates redact active (recordKind crates value) := by
  unfold applyRolloutValue recordKind
  cases value.asObject with
  | none => rfl
  | some object =>
    dsimp only
    by_cases hevent : getStr object "type" = some "event_msg"
    · rw [if_pos hevent]
      simp only [hevent]
      cases (getKey object "payload").bind Json.asObject with
      | none => rfl
      | some payload => exact event_eq payload active
    by_cases hitem : getStr object "type" = some "response_item"
    · rw [if_neg hevent, if_pos hitem]
      simp only [hitem]
      cases active with
      | none => rfl
      | some builder =>
        cases getKey object "payload" with
        | none => rfl
        | some payload => rfl
    · rw [if_neg hevent, if_neg hitem]
      split
      · exact absurd ‹_› hevent
      · exact absurd ‹_› hitem
      · rfl

end

/-! ## A late completion in front of the turn's own -/

def currentTurn : String := "22222222-2222-4222-8222-222222222222"
def completeRecord (turnId last : String) : Json :=
  .object [("type", .string "event_msg"),
    ("payload", .object [("type", .string "task_complete"), ("turn_id", .string turnId),
    ("last_agent_message", .string last)])]

def userItem (text : String) : Json :=
  .object [("type", .string "message"), ("role", .string "user"),
    ("content", .array [.object [("type", .string "input_text"), ("text", .string text)]])]

/-- Neither the lines nor the streaming parser are read. -/
def recordsEnv : ObserverEnv TurnBuilder Unit :=
  observerEnv sampleCrates id (fun _ => none) ⟨(), fun _ _ => .ok (), fun _ => .error .invalidRollout⟩

end CodexKeyboard.Observer
