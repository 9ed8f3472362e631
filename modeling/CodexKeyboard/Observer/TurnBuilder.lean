import CodexKeyboard.Observer.Rollout
import CodexKeyboard.Observer.TextCapture
/-!
# Building the pack of a turn

`TurnBuilder` (rollout_observer.rs:937-1069) collects the messages and the tool calls of a turn,
`finish` cuts them down and `serde_json` writes them. `redact_sensitive_text` is a parameter here;
the texts of a builder are lists of scalars.

| here | there |
| --- | --- |
| `compactText`, `compactMessages` | `compact_text`, `compact_messages` (rollout_observer.rs:1086, 1071) |
| `responseTurnId` | `response_turn_id` (rollout_observer.rs:1132) |
| `TurnBuilder.observeResponseItem`, `observeMessage`, `observeCall`, `observeOutput` | `observe_response_item` (rollout_observer.rs:956) |
| `TurnBuilder.pushMessage`, `TurnBuilder.finish` | rollout_observer.rs:1038, 1055 |
| `TurnPack.toJson`, `jsonString` | `serde_json::to_string` |
-/

namespace CodexKeyboard.Observer

open Lib Store

def maxTextBytesPerRole : Nat := 22 * 1024
def maxRawMessagesPerRole : Nat := 32
def maxMessagesPerRole : Nat := 8
def maxTools : Nat := 64
def maxToolNameBytes : Nat := 128
def maxToolStatusBytes : Nat := 64
def maxSerializedTurnPackBytes : Nat := 64 * 1024

/-! ## Compaction -/

/-- `&text[tail_start..]` for the first boundary that leaves at most `room` bytes. -/
def fittingEnd (room : Nat) (text : List Char) : List Char := (fitting room text.reverse).reverse

/-- `compact_text`. -/
def compactText (text : List Char) (maxBytes : Nat) : List Char :=
  if utf8Len text ≤ maxBytes then text
  else if maxBytes ≤ utf8Len truncationMarker then truncationMarker.take maxBytes
  else
    let available := maxBytes - utf8Len truncationMarker
    let headBudget := available / 3
    fitting headBudget text ++ truncationMarker ++ fittingEnd (available - headBudget) text

/-- The loop of `compact_messages`, from the last message on. -/
def compactNewest (remaining : Nat) : List (List Char) → List (List Char)
  | [] => []
  | message :: older =>
    if remaining = 0 then []
    else
      let message := compactText message (min remaining maxTextBytes)
      message :: compactNewest (remaining - utf8Len message) older

/-- `compact_messages`. -/
def compactMessages (messages : List (List Char)) : List (List Char) :=
  (compactNewest maxTextBytesPerRole (messages.reverse.take maxMessagesPerRole)).reverse

/-! ## The builder -/

structure ToolFact where
  name : List Char
  status : List Char
deriving DecidableEq, Repr

/-- `TurnBuilder`; `tool_calls` has one entry for an id. -/
structure TurnBuilder where
  turnId : String
  user : List (List Char) := []
  assistant : List (List Char) := []
  tools : List ToolFact := []
  toolCalls : List (String × Nat) := []
deriving DecidableEq, Repr

/-- The string at `key` of the object at `outer`. -/
def nestedStr (entries : List (String × Json)) (outer key : String) : Option String :=
  ((getKey entries outer).bind Json.asObject).bind fun inner => getStr inner key

/-- `response_turn_id`. -/
def responseTurnId (payload : List (String × Json)) : Option String :=
  (getStr payload "turn_id").or
    ((nestedStr payload "internal_chat_message_metadata_passthrough" "turn_id").or
      (nestedStr payload "metadata" "turn_id"))

/-- `Value::as_array`. -/
def Json.asArray : Json → Option (List Json)
  | .array items => some items
  | _ => none

/-- `target.remove(0)` when the list is full, then `push`. -/
def pushBounded {α : Type} (limit : Nat) (list : List α) (x : α) : List α :=
  (if list.length ≥ limit then list.tail else list) ++ [x]

/-- `tool_calls.insert`. -/
def insertCall (calls : List (String × Nat)) (callId : String) (index : Nat) : List (String × Nat) :=
  calls.filter (fun call => call.1 ≠ callId) ++ [(callId, index)]

/-- `tool_calls.retain`: the first tool is gone. -/
def shiftCalls (calls : List (String × Nat)) : List (String × Nat) :=
  calls.filterMap fun call => if call.2 = 0 then none else some (call.1, call.2 - 1)

namespace TurnBuilder

variable (redact : List Char → List Char)

/-- `push_message`. -/
def pushMessage (b : TurnBuilder) (role : String) (text : List Char) : TurnBuilder :=
  let text := redact text
  if text = [] then b
  else if role = "user" then
    { b with user := pushBounded maxRawMessagesPerRole b.user (compactText text maxTextBytes) }
  else { b with assistant := pushBounded maxRawMessagesPerRole b.assistant (compactText text maxTextBytes) }

/-- The text of a part of a message, if it is one. -/
def partText (part : List (String × Json)) : Option String :=
  if getStr part "type" = some "input_text" ∨ getStr part "type" = some "output_text" then
    getStr part "text" else none

/-- The loop over the parts of a message. -/
def pushParts (b : TurnBuilder) (role : String) : List Json → Except ObserverError TurnBuilder
  | [] => .ok b
  | part :: parts =>
    match part.asObject with
    | none => .error .invalidRollout
    | some entries =>
      match partText entries with
      | none => pushParts b role parts
      | some text => pushParts (b.pushMessage redact role text.toList) role parts

/-- A message. -/
def observeMessage (b : TurnBuilder) (payload : List (String × Json)) : Except ObserverError TurnBuilder :=
  match getStr payload "role" with
  | none => .error .invalidRollout
  | some role =>
    if role ≠ "user" ∧ role ≠ "assistant" then .ok b
    else
      match (getKey payload "content").bind Json.asArray with
      | none => .error .invalidRollout
      | some content => b.pushParts redact role content

/-- `call_id` as a key of `tool_calls`. -/
def callKey (payload : List (String × Json)) : Option String :=
  (getStr payload "call_id").filter fun callId =>
    callId ≠ "" ∧ callId.utf8ByteSize ≤ maxToolNameBytes ∧ callId.toList.any isAsciiControl = false

/-- A tool call. -/
def observeCall (b : TurnBuilder) (payload : List (String × Json)) : Except ObserverError TurnBuilder :=
  match getStr payload "name" with
  | none => .error .invalidRollout
  | some name =>
    if name = "" then .ok b
    else
      let status := (getStr payload "status").getD "requested"
      let tool : ToolFact := {
        name := compactText (redact name.toList) maxToolNameBytes
        status := compactText (redact status.toList) maxToolStatusBytes }
      let calls := if b.tools.length ≥ maxTools then shiftCalls b.toolCalls else b.toolCalls
      let tools := pushBounded maxTools b.tools tool
      .ok { b with
        tools
        toolCalls := match callKey payload with
          | none => calls
          | some callId => insertCall calls callId (tools.length - 1) }

/-- The output of a tool call. -/
def observeOutput (b : TurnBuilder) (payload : List (String × Json)) : TurnBuilder :=
  match (getStr payload "call_id").bind fun callId => b.toolCalls.lookup callId with
  | none => b
  | some index =>
    { b with tools := b.tools.modify index fun tool => { tool with status := "completed".toList } }

/-- `observe_response_item`. -/
def observeResponseItem (b : TurnBuilder) (payload : Json) : Except ObserverError TurnBuilder :=
  match payload.asObject with
  | none => .error .invalidRollout
  | some object =>
    if (responseTurnId object).any (fun turnId => turnId ≠ b.turnId) then .ok b
    else
      match getStr object "type" with
      | some "message" => b.observeMessage redact object
      | some "function_call" | some "custom_tool_call" => b.observeCall redact object
      | some "function_call_output" | some "custom_tool_call_output" => .ok (b.observeOutput object)
      | _ => .ok b

/-- `builder.assistant.clear()` and `push_message("assistant", last)`. -/
def setFinalAnswer (b : TurnBuilder) (last : String) : TurnBuilder :=
  { b with assistant := [] }.pushMessage redact "assistant" last.toList

end TurnBuilder

/-! ## The pack -/

/-- `TurnPack`, whose `v` is 1. -/
structure TurnPack where
  turnId : List Char
  user : List (List Char)
  assistant : List (List Char)
  tools : List ToolFact
deriving DecidableEq, Repr

def hexDigit (n : Nat) : Char := if n < 10 then Char.ofNat (0x30 + n) else Char.ofNat (0x57 + n)

/-- The escapes of `serde_json`. -/
def escapeChar (c : Char) : List Char :=
  if c = '"' then ['\\', '"']
  else if c = '\\' then ['\\', '\\']
  else if c.val = 0x08 then ['\\', 'b']
  else if c.val = 0x0c then ['\\', 'f']
  else if c = '\n' then ['\\', 'n']
  else if c = '\r' then ['\\', 'r']
  else if c = '\t' then ['\\', 't']
  else if c.val < 0x20 then ['\\', 'u', '0', '0', hexDigit (c.val.toNat / 16), hexDigit (c.val.toNat % 16)]
  else [c]

def jsonString (text : List Char) : List Char := '"' :: text.flatMap escapeChar ++ ['"']

/-- Items with commas between them. -/
def commas : List (List Char) → List Char
  | [] => []
  | [item] => item
  | item :: next :: items => item ++ ',' :: commas (next :: items)

def jsonArray (items : List (List Char)) : List Char := '[' :: commas items ++ [']']

def ToolFact.toJson (tool : ToolFact) : List Char :=
  "\x7b\"name\":".toList ++ jsonString tool.name ++ ",\"status\":".toList ++
    jsonString tool.status ++ "\x7d".toList

/-- `serde_json::to_string`. -/
def TurnPack.toJson (pack : TurnPack) : List Char :=
  "\x7b\"v\":1,\"turn_id\":".toList ++ jsonString pack.turnId
    ++ ",\"user\":".toList ++ jsonArray (pack.user.map jsonString)
    ++ ",\"assistant\":".toList ++ jsonArray (pack.assistant.map jsonString)
    ++ ",\"tools\":".toList ++ jsonArray (pack.tools.map ToolFact.toJson) ++ "\x7d".toList

/-- `finish`, when the id of the turn is a UUID. -/
def TurnBuilder.pack (b : TurnBuilder) : TurnPack where
  turnId := b.turnId.toList
  user := compactMessages b.user
  assistant := compactMessages b.assistant
  tools := b.tools

/-- `finish` and the bound on what `serde_json::to_string` makes of it (rollout_observer.rs:715-721). -/
def TurnBuilder.finish (crates : Crates) (b : TurnBuilder) : Except ObserverError String :=
  if crates.isUuid b.turnId = false then .error .invalidRollout
  else if utf8Len b.pack.toJson > maxSerializedTurnPackBytes then .error .turnPackTooLarge
  else .ok (String.ofList b.pack.toJson)

/-- The builder behind `apply_rollout_value`. -/
def turnApi (crates : Crates) (redact : List Char → List Char) : TurnApi TurnBuilder where
  new turnId := { turnId }
  turnId := TurnBuilder.turnId
  observeResponseItem := TurnBuilder.observeResponseItem redact
  setFinalAnswer b last := .ok (b.setFinalAnswer redact last)
  finish := TurnBuilder.finish crates

/-! ## The builder keeps its turn -/

section
variable {redact : List Char → List Char} {b b' : TurnBuilder}

/-- The builder without its messages. -/
def TurnBuilder.withoutMessages (b : TurnBuilder) : TurnBuilder := { b with user := [], assistant := [] }

theorem withoutMessages_pushMessage (redact : List Char → List Char) (b : TurnBuilder)
    (role : String) (text : List Char) :
    (b.pushMessage redact role text).withoutMessages = b.withoutMessages := by
  unfold TurnBuilder.pushMessage
  dsimp only
  split
  · rfl
  · split <;> rfl

theorem withoutMessages_pushParts {role : String} : ∀ {parts : List Json} {b b' : TurnBuilder},
    b.pushParts redact role parts = .ok b' → b'.withoutMessages = b.withoutMessages
  | [], b, b', h => by
    cases h
    rfl
  | part :: parts, b, b', h => by
    unfold TurnBuilder.pushParts at h
    split at h
    · cases h
    · split at h
      · exact withoutMessages_pushParts h
      · exact (withoutMessages_pushParts h).trans (withoutMessages_pushMessage redact b role _)

/-- A message touches the messages only. -/
theorem withoutMessages_observeMessage {payload : List (String × Json)}
    (h : b.observeMessage redact payload = .ok b') :
    b'.withoutMessages = b.withoutMessages := by
  unfold TurnBuilder.observeMessage at h
  split at h
  · cases h
  · split at h
    · cases h
      rfl
    · split at h
      · cases h
      · exact withoutMessages_pushParts h

theorem turnId_pushMessage (b : TurnBuilder) (role : String) (text : List Char) :
    (b.pushMessage redact role text).turnId = b.turnId := by
  have hframe := congrArg TurnBuilder.turnId (withoutMessages_pushMessage redact b role text)
  exact hframe

theorem turnId_observeMessage {payload : List (String × Json)}
    (h : b.observeMessage redact payload = .ok b') :
    b'.turnId = b.turnId := by
  have hframe := congrArg TurnBuilder.turnId (withoutMessages_observeMessage h)
  exact hframe

theorem turnId_observeCall {payload : List (String × Json)} (h : b.observeCall redact payload = .ok b') :
    b'.turnId = b.turnId := by
  unfold TurnBuilder.observeCall at h
  split at h
  · cases h
  · split at h
    · cases h
      rfl
    · cases h
      rfl

theorem turnId_observeOutput (b : TurnBuilder) (payload : List (String × Json)) :
    (b.observeOutput payload).turnId = b.turnId := by
  unfold TurnBuilder.observeOutput
  split <;> rfl

/-- What one response item can do. -/
theorem observeResponseItem_cases {payload : Json} (h : b.observeResponseItem redact payload = .ok b') :
    b' = b ∨ ∃ object, b.observeMessage redact object = .ok b' ∨ b.observeCall redact object = .ok b' ∨
      b' = b.observeOutput object := by
  unfold TurnBuilder.observeResponseItem at h
  split at h
  · cases h
  · rename_i object _
    split at h
    · cases h
      exact .inl rfl
    · split at h
      · exact .inr ⟨object, .inl h⟩
      · exact .inr ⟨object, .inr (.inl h)⟩
      · exact .inr ⟨object, .inr (.inl h)⟩
      · cases h
        exact .inr ⟨object, .inr (.inr rfl)⟩
      · cases h
        exact .inr ⟨object, .inr (.inr rfl)⟩
      · cases h
        exact .inl rfl

theorem turnId_observeResponseItem {payload : Json} (h : b.observeResponseItem redact payload = .ok b') :
    b'.turnId = b.turnId := by
  rcases observeResponseItem_cases h with rfl | ⟨object, hmessage | hcall | rfl⟩
  · rfl
  · exact turnId_observeMessage hmessage
  · exact turnId_observeCall hcall
  · exact turnId_observeOutput b object

/-- The response items of a turn, one after another. -/
def observeItems (redact : List Char → List Char) (b : TurnBuilder) (items : List Json) :
    Except ObserverError TurnBuilder :=
  items.foldlM (TurnBuilder.observeResponseItem redact) b

/-- What every item preserves, the items of a turn preserve. -/
theorem observeItems_induction {I : TurnBuilder → Prop}
    (hstep : ∀ b payload b', I b → b.observeResponseItem redact payload = .ok b' → I b') :
    ∀ {items : List Json} {b b' : TurnBuilder}, I b → observeItems redact b items = .ok b' → I b'
  | [], b, b', hb, h => by
    cases h
    exact hb
  | payload :: items, b, b', hb, h => by
    rw [observeItems, List.foldlM_cons, bind_eq_ok] at h
    obtain ⟨next, hnext, hrest⟩ := h
    exact observeItems_induction hstep (hstep b payload next hb hnext) hrest

theorem turnId_observeItems {items : List Json} (h : observeItems redact b items = .ok b') :
    b'.turnId = b.turnId :=
  observeItems_induction (I := fun c => c.turnId = b.turnId)
    (fun _ _ _ hc hstep => (turnId_observeResponseItem hstep).trans hc) rfl h

end

end CodexKeyboard.Observer
