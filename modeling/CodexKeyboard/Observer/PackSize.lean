import CodexKeyboard.Observer.StaleTurns
/-!
# The size of a turn pack

The budgets of a turn are in bytes of text (22 KiB of user messages, 12 KiB for the final answer, 64
tools), the limit of 64 KiB is on its JSON. The raw texts and the framing always fit
(`plainSize_le`); the escapes of control characters, quotes and backslashes need not.

| here | there |
| --- | --- |
| `growth` | the bytes that `serde_json` adds to a character |
| `TurnPack.rawSize`, `TurnPack.framing`, `TurnPack.escapes` | the parts of `serialized.len()` (rollout_observer.rs:718) |
| `ToolsBounded` | `MAX_TOOLS`, `MAX_TOOL_NAME_BYTES`, `MAX_TOOL_STATUS_BYTES` (rollout_observer.rs:28-30) |
-/

namespace CodexKeyboard.Observer

open Lib Store

/-- The sum of `f` over a list. -/
def sumOf {α : Type} (f : α → Nat) : List α → Nat
  | [] => 0
  | x :: xs => f x + sumOf f xs

section
variable {α : Type}

theorem sumOf_append (f : α → Nat) (xs ys : List α) : sumOf f (xs ++ ys) = sumOf f xs + sumOf f ys := by
  induction xs with
  | nil => simp [sumOf]
  | cons x xs ih => rw [List.cons_append, sumOf, sumOf, ih, Nat.add_assoc]

theorem sumOf_reverse (f : α → Nat) (xs : List α) : sumOf f xs.reverse = sumOf f xs := by
  induction xs with
  | nil => rfl
  | cons x xs ih =>
    rw [List.reverse_cons, sumOf_append, ih]
    simp only [sumOf]
    omega

theorem sumOf_add (f g : α → Nat) (xs : List α) :
    sumOf (fun x => f x + g x) xs = sumOf f xs + sumOf g xs := by
  induction xs with
  | nil => rfl
  | cons x xs ih =>
    simp only [sumOf, ih]
    omega

theorem sumOf_const (n : Nat) (xs : List α) : sumOf (fun _ => n) xs = n * xs.length := by
  induction xs with
  | nil => rfl
  | cons x xs ih =>
    rw [sumOf, ih, List.length_cons, Nat.mul_succ, Nat.add_comm]

theorem sumOf_map {β : Type} (f : β → Nat) (g : α → β) (xs : List α) :
    sumOf f (xs.map g) = sumOf (fun x => f (g x)) xs := by
  induction xs with
  | nil => rfl
  | cons x xs ih => rw [List.map_cons, sumOf, sumOf, ih]

theorem sumOf_le {f : α → Nat} {n : Nat} : ∀ {xs : List α}, (∀ x ∈ xs, f x ≤ n) → sumOf f xs ≤ n * xs.length
  | [], _ => Nat.zero_le _
  | x :: xs, h => by
    have hx := h x (.head _)
    have hxs := sumOf_le fun y hy => h y (List.mem_cons_of_mem _ hy)
    rw [sumOf, List.length_cons, Nat.mul_succ]
    omega

end

/-! ## JSON -/

/-- What escaping adds to a character. -/
def growth (c : Char) : Nat :=
  if c = '"' ∨ c = '\\' ∨ c.val = 0x08 ∨ c.val = 0x0c ∨ c = '\n' ∨ c = '\r' ∨ c = '\t' then 1
  else if c.val < 0x20 then 5
  else 0

/-- What escaping adds to a text. -/
def textGrowth (text : List Char) : Nat := sumOf growth text

theorem utf8Size_hexDigit {n : Nat} (h : n < 16) : (hexDigit n).utf8Size = 1 := by
  have hall : ∀ n < 16, (hexDigit n).utf8Size = 1 := by decide
  exact hall n h

theorem utf8Size_control {c : Char} (h : c.val < 0x20) : c.utf8Size = 1 := by
  rw [Char.utf8Size_eq_one_iff]
  exact UInt32.le_of_lt (UInt32.lt_trans h (by decide))

theorem utf8Len_escapeChar (c : Char) : utf8Len (escapeChar c) = c.utf8Size + growth c := by
  unfold escapeChar growth
  by_cases hquote : c = '"'
  · subst hquote; rfl
  by_cases hslash : c = '\\'
  · subst hslash; rfl
  by_cases hback : c.val = 0x08
  · rw [utf8Size_control (by rw [hback]; decide)]
    simp [hquote, hslash, hback]
    rfl
  by_cases hfeed : c.val = 0x0c
  · rw [utf8Size_control (by rw [hfeed]; decide)]
    simp [hquote, hslash, hfeed]
    rfl
  by_cases hnewline : c = '\n'
  · subst hnewline; rfl
  by_cases hreturn : c = '\r'
  · subst hreturn; rfl
  by_cases htab : c = '\t'
  · subst htab; rfl
  simp only [hquote, hslash, hback, hfeed, hnewline, hreturn, htab, if_false, or_self]
  by_cases hcontrol : c.val < 0x20
  · have hval : c.val.toNat < 0x20 := hcontrol
    rw [if_pos hcontrol, if_pos hcontrol, utf8Size_control hcontrol]
    simp only [utf8Len_cons, utf8Len_nil]
    rw [utf8Size_hexDigit (show c.val.toNat / 16 < 16 by omega),
      utf8Size_hexDigit (show c.val.toNat % 16 < 16 by omega)]
    rfl
  · rw [if_neg hcontrol, if_neg hcontrol]
    simp

theorem utf8Len_jsonString (text : List Char) :
    utf8Len (jsonString text) = utf8Len text + textGrowth text + 2 := by
  have hbody : utf8Len (text.flatMap escapeChar) = utf8Len text + textGrowth text := by
    induction text with
    | nil => rfl
    | cons c text ih =>
      rw [List.flatMap_cons, utf8Len_append, utf8Len_escapeChar, ih,
        utf8Len_cons, textGrowth, textGrowth, sumOf]
      omega
  have hquote : ('"' : Char).utf8Size = 1 := rfl
  rw [jsonString, List.cons_append, utf8Len_cons, utf8Len_append, hbody,
    hquote, utf8Len_cons, hquote, utf8Len_nil]
  omega

theorem utf8Len_commas :
    ∀ items : List (List Char), utf8Len (commas items) = sumOf utf8Len items + (items.length - 1)
  | [] => rfl
  | [item] => by simp [commas, sumOf]
  | item :: next :: items => by
    have ih := utf8Len_commas (next :: items)
    have hcomma : (',' : Char).utf8Size = 1 := rfl
    rw [commas, utf8Len_append, utf8Len_cons, ih, hcomma]
    simp only [sumOf, List.length_cons]
    omega

theorem utf8Len_jsonArray (items : List (List Char)) :
    utf8Len (jsonArray items) = sumOf utf8Len items + (items.length - 1) + 2 := by
  have hopen : ('[' : Char).utf8Size = 1 := rfl
  have hclose : (']' : Char).utf8Size = 1 := rfl
  rw [jsonArray, List.cons_append, utf8Len_cons, utf8Len_append, utf8Len_commas,
    hopen, utf8Len_cons, hclose, utf8Len_nil]
  omega

/-- An array of texts. -/
theorem utf8Len_jsonTexts (texts : List (List Char)) : utf8Len (jsonArray (texts.map jsonString)) =
    sumOf utf8Len texts + sumOf textGrowth texts + 2 * texts.length + (texts.length - 1) + 2 := by
  rw [utf8Len_jsonArray, sumOf_map, List.length_map]
  have hsum : sumOf (fun text => utf8Len (jsonString text)) texts =
      sumOf utf8Len texts + sumOf textGrowth texts + 2 * texts.length := by
    simp only [utf8Len_jsonString, sumOf_add, sumOf_const]
  omega

/-! ## The parts of a pack's size -/

namespace TurnPack

/-- The bytes of the texts. -/
def rawSize (pack : TurnPack) : Nat :=
  utf8Len pack.turnId + sumOf utf8Len pack.user + sumOf utf8Len pack.assistant +
    sumOf (fun tool => utf8Len tool.name + utf8Len tool.status) pack.tools

/-- The braces, keys, quotes and commas. -/
def framing (pack : TurnPack) : Nat :=
  56 + (2 * pack.user.length + (pack.user.length - 1)) +
    (2 * pack.assistant.length + (pack.assistant.length - 1)) +
    (23 * pack.tools.length + (pack.tools.length - 1))

/-- What the escapes add. -/
def escapes (pack : TurnPack) : Nat :=
  textGrowth pack.turnId + sumOf textGrowth pack.user + sumOf textGrowth pack.assistant +
    sumOf (fun tool => textGrowth tool.name + textGrowth tool.status) pack.tools

end TurnPack

theorem utf8Len_braceEnd : utf8Len "\x7d".toList = 1 := by rfl
theorem utf8Len_nameKey : utf8Len "\x7b\"name\":".toList = 8 := by rfl
theorem utf8Len_statusKey : utf8Len ",\"status\":".toList = 10 := by rfl
theorem utf8Len_turnKey : utf8Len "\x7b\"v\":1,\"turn_id\":".toList = 17 := by rfl
theorem utf8Len_userKey : utf8Len ",\"user\":".toList = 8 := by rfl
theorem utf8Len_assistantKey : utf8Len ",\"assistant\":".toList = 13 := by rfl
theorem utf8Len_toolsKey : utf8Len ",\"tools\":".toList = 9 := by rfl

theorem utf8Len_toolJson (tool : ToolFact) : utf8Len tool.toJson =
    utf8Len tool.name + utf8Len tool.status + (textGrowth tool.name + textGrowth tool.status) + 23 := by
  unfold ToolFact.toJson
  rw [utf8Len_append, utf8Len_append, utf8Len_append, utf8Len_append,
    utf8Len_nameKey, utf8Len_statusKey, utf8Len_braceEnd,
    utf8Len_jsonString, utf8Len_jsonString]
  omega

/-- The array of the tools. -/
theorem utf8Len_toolsJson (tools : List ToolFact) : utf8Len (jsonArray (tools.map ToolFact.toJson)) =
    sumOf (fun tool => utf8Len tool.name + utf8Len tool.status) tools +
      sumOf (fun tool => textGrowth tool.name + textGrowth tool.status)
        tools + 23 * tools.length + (tools.length - 1) + 2 := by
  have hsum :
    sumOf (fun tool => utf8Len tool.toJson) tools =
    sumOf (fun tool => utf8Len tool.name + utf8Len tool.status) tools +
      sumOf (fun tool => textGrowth tool.name + textGrowth tool.status) tools + 23 * tools.length := by
    simp only [utf8Len_toolJson]
    rw [sumOf_add, sumOf_add, sumOf_const]
  rw [utf8Len_jsonArray, sumOf_map, List.length_map, hsum]

theorem utf8Len_toJson (pack : TurnPack) :
    utf8Len pack.toJson = pack.rawSize + pack.framing + pack.escapes := by
  unfold TurnPack.toJson TurnPack.rawSize TurnPack.framing TurnPack.escapes
  rw [utf8Len_append, utf8Len_append, utf8Len_append, utf8Len_append,
    utf8Len_append, utf8Len_append, utf8Len_append,
    utf8Len_append, utf8Len_turnKey, utf8Len_userKey, utf8Len_assistantKey, utf8Len_toolsKey,
      utf8Len_braceEnd,
    utf8Len_jsonString, utf8Len_jsonTexts, utf8Len_jsonTexts, utf8Len_toolsJson]
  omega

/-! ## What compaction keeps -/

theorem utf8Len_reverse (text : List Char) : utf8Len text.reverse = utf8Len text := by
  induction text with
  | nil => rfl
  | cons c text ih =>
    rw [List.reverse_cons, utf8Len_append, ih, utf8Len_cons, utf8Len_cons, utf8Len_nil]
    omega

theorem utf8Len_fittingEnd_le (room : Nat) (text : List Char) : utf8Len (fittingEnd room text) ≤ room := by
  rw [fittingEnd, utf8Len_reverse]
  exact utf8Len_fitting_le text.reverse room

theorem utf8Len_compactText_le (text : List Char) (maxBytes : Nat) :
    utf8Len (compactText text maxBytes) ≤ maxBytes := by
  have hmarker : utf8Len truncationMarker = 13 := rfl
  unfold compactText
  by_cases hshort : utf8Len text ≤ maxBytes
  · rw [if_pos hshort]
    exact hshort
  rw [if_neg hshort]
  by_cases hnarrow : maxBytes ≤ utf8Len truncationMarker
  · rw [if_pos hnarrow]
    have hall : ∀ n ≤ 13, utf8Len (truncationMarker.take n) ≤ n := by decide
    exact hall maxBytes (hmarker ▸ hnarrow)
  · rw [if_neg hnarrow, utf8Len_append, utf8Len_append]
    have hhead := utf8Len_fitting_le text ((maxBytes - utf8Len truncationMarker) / 3)
    have htail := utf8Len_fittingEnd_le
      (maxBytes - utf8Len truncationMarker - (maxBytes - utf8Len truncationMarker) / 3) text
    omega

/-- The messages that are kept share what remains of the budget. -/
theorem sumOf_compactNewest_le : ∀ (messages : List (List Char)) (remaining : Nat),
    sumOf utf8Len (compactNewest remaining messages) ≤ remaining
  | [], _ => Nat.zero_le _
  | message :: older, remaining => by
    unfold compactNewest
    by_cases hzero : remaining = 0
    · rw [if_pos hzero]
      exact Nat.zero_le _
    rw [if_neg hzero]
    have hmessage := utf8Len_compactText_le message (min remaining maxTextBytes)
    have holder :=
      sumOf_compactNewest_le older (remaining - utf8Len (compactText message (min remaining maxTextBytes)))
    rw [sumOf]
    omega

theorem length_compactNewest_le : ∀ (messages : List (List Char)) (remaining : Nat),
    (compactNewest remaining messages).length ≤ messages.length
  | [], _ => Nat.le_refl _
  | message :: older, remaining => by
    unfold compactNewest
    by_cases hzero : remaining = 0
    · rw [if_pos hzero]
      exact Nat.zero_le _
    · rw [if_neg hzero, List.length_cons, List.length_cons]
      exact Nat.succ_le_succ (length_compactNewest_le older _)

theorem sumOf_compactMessages_le (messages : List (List Char)) :
    sumOf utf8Len (compactMessages messages) ≤ maxTextBytesPerRole := by
  rw [compactMessages, sumOf_reverse]
  exact sumOf_compactNewest_le _ _

theorem length_compactMessages_le (messages : List (List Char)) :
    (compactMessages messages).length ≤ min maxMessagesPerRole messages.length := by
  have hle := length_compactNewest_le (messages.reverse.take maxMessagesPerRole) maxTextBytesPerRole
  rw [List.length_take, List.length_reverse] at hle
  rw [compactMessages, List.length_reverse]
  exact hle

/-! ## What a builder holds -/

section
variable {redact : List Char → List Char} {b b' : TurnBuilder}

/-- At most 64 tools, each with a short name and status. -/
def ToolsBounded (tools : List ToolFact) : Prop :=
  tools.length ≤ maxTools ∧ ∀ tool ∈ tools, utf8Len tool.name ≤ maxToolNameBytes ∧
  utf8Len tool.status ≤ maxToolStatusBytes

theorem tools_pushMessage (b : TurnBuilder) (role : String) (text : List Char) :
    (b.pushMessage redact role text).tools = b.tools := by
  have hframe := congrArg TurnBuilder.tools (withoutMessages_pushMessage redact b role text)
  exact hframe

theorem tools_observeMessage {payload : List (String × Json)}
    (h : b.observeMessage redact payload = .ok b') :
    b'.tools = b.tools := by
  have hframe := congrArg TurnBuilder.tools (withoutMessages_observeMessage h)
  exact hframe

theorem mem_pushBounded {α : Type} {limit : Nat} {list : List α} {x y : α}
    (h : y ∈ pushBounded limit list x) :
    y ∈ list ∨ y = x := by
  rw [pushBounded, List.mem_append, List.mem_singleton] at h
  rcases h with hlist | hx
  · split at hlist
    · exact .inl (List.mem_of_mem_tail hlist)
    · exact .inl hlist
  · exact .inr hx

theorem length_pushBounded_le {α : Type} {limit : Nat} {list : List α} (x : α) (hpos : 0 < limit)
    (h : list.length ≤ limit) :
    (pushBounded limit list x).length ≤ limit := by
  rw [pushBounded, List.length_append, List.length_singleton]
  split
  · rw [List.length_tail]
    omega
  · omega

theorem toolsBounded_observeCall {payload : List (String × Json)} (hb : ToolsBounded b.tools)
    (h : b.observeCall redact payload = .ok b') : ToolsBounded b'.tools := by
  unfold TurnBuilder.observeCall at h
  split at h
  · cases h
  · split at h
    · cases h
      exact hb
    · cases h
      refine ⟨length_pushBounded_le _ (by decide) hb.1, fun tool htool => ?_⟩
      rcases mem_pushBounded htool with hold | rfl
      · exact hb.2 tool hold
      · exact ⟨utf8Len_compactText_le _ _, utf8Len_compactText_le _ _⟩

theorem toolsBounded_observeOutput (hb : ToolsBounded b.tools) (payload : List (String × Json)) :
    ToolsBounded (b.observeOutput payload).tools := by
  unfold TurnBuilder.observeOutput
  split
  · exact hb
  · rename_i index _
    refine ⟨by rw [List.length_modify]; exact hb.1, fun tool htool => ?_⟩
    obtain ⟨i, hi⟩ := List.mem_iff_getElem?.1 htool
    rw [List.getElem?_modify] at hi
    obtain ⟨old, hold, hchange⟩ := Option.map_eq_some_iff.1 hi
    have hbound := hb.2 old (List.mem_of_getElem? hold)
    by_cases hindex : index = i
    · rw [if_pos hindex] at hchange
      subst hchange
      exact ⟨hbound.1, Nat.le_of_ble_eq_true rfl⟩
    · rw [if_neg hindex] at hchange
      subst hchange
      exact hbound

theorem toolsBounded_observeItems {items : List Json} (h : observeItems redact b items = .ok b')
    (hb : ToolsBounded b.tools) :
    ToolsBounded b'.tools := by
  refine observeItems_induction (I := fun b => ToolsBounded b.tools) ?_ hb h
  intro b payload b' hb hstep
  rcases observeResponseItem_cases hstep with rfl | ⟨object, hmessage | hcall | rfl⟩
  · exact hb
  · rw [tools_observeMessage hmessage]
    exact hb
  · exact toolsBounded_observeCall hb hcall
  · exact toolsBounded_observeOutput hb object

/-! ## The final answer -/

theorem utf8ByteSize_ofList : ∀ text : List Char, (String.ofList text).utf8ByteSize = utf8Len text
  | [] => rfl
  | c :: text => by
    have hsplit : String.ofList (c :: text) = String.singleton c ++ String.ofList text := by
      apply String.toList_inj.1
      simp
    rw [hsplit, String.utf8ByteSize_append, String.utf8ByteSize_singleton,
      utf8ByteSize_ofList text, utf8Len_cons]

theorem utf8Len_toList (s : String) : utf8Len s.toList = s.utf8ByteSize := by
  rw [← utf8ByteSize_ofList, String.ofList_toList]

theorem turnId_setFinalAnswer (b : TurnBuilder) (last : String) :
    (b.setFinalAnswer redact last).turnId = b.turnId :=
  turnId_pushMessage _ _ _

theorem user_setFinalAnswer (b : TurnBuilder) (last : String) :
    (b.setFinalAnswer redact last).user = b.user := by
  unfold TurnBuilder.setFinalAnswer TurnBuilder.pushMessage
  dsimp only
  split
  · rfl
  · rw [if_neg (by decide)]

theorem tools_setFinalAnswer (b : TurnBuilder) (last : String) :
    (b.setFinalAnswer redact last).tools = b.tools :=
  tools_pushMessage _ _ _

/-- The only message of the assistant. -/
theorem assistant_setFinalAnswer (redact : List Char → List Char) (b : TurnBuilder) (last : String) :
    (b.setFinalAnswer redact last).assistant = [] ∨
    (b.setFinalAnswer redact last).assistant = [compactText (redact last.toList) maxTextBytes] := by
  unfold TurnBuilder.setFinalAnswer TurnBuilder.pushMessage
  by_cases hempty : redact last.toList = []
  · exact .inl (by simp [hempty])
  · exact .inr (by simp [hempty, pushBounded, maxRawMessagesPerRole])

theorem compactMessages_single (message : List Char) (h : utf8Len message ≤ maxTextBytes) :
    compactMessages [message] = [message] := by
  have htext : min maxTextBytesPerRole maxTextBytes = maxTextBytes := by decide
  have hzero : maxTextBytesPerRole ≠ 0 := by decide
  simp only [compactMessages, maxMessagesPerRole, List.reverse_cons,
    List.reverse_nil, List.nil_append, List.take_succ_cons,
    List.take_nil, compactNewest, if_neg hzero, htext]
  rw [compactText, if_pos h]

/-- Without the escapes every pack fits. -/
theorem plainSize_le {items : List Json} {turnId : String}
    (h : observeItems redact { turnId } items = .ok b) (last : String) :
    (b.setFinalAnswer redact last).pack.rawSize + (b.setFinalAnswer redact last).pack.framing ≤
      48720 + utf8Len turnId.toList := by
  have htools : ToolsBounded (b.setFinalAnswer redact last).tools := by
    rw [tools_setFinalAnswer]
    exact toolsBounded_observeItems h ⟨Nat.zero_le _, by simp⟩
  have hid : (b.setFinalAnswer redact last).turnId = turnId :=
    (turnId_setFinalAnswer b last).trans (turnId_observeItems h)
  have huser := sumOf_compactMessages_le (b.setFinalAnswer redact last).user
  have huserCount := length_compactMessages_le (b.setFinalAnswer redact last).user
  have hassistant :
    sumOf utf8Len (compactMessages (b.setFinalAnswer redact last).assistant) ≤ maxTextBytes ∧
      (compactMessages (b.setFinalAnswer redact last).assistant).length ≤ 1 := by
    rcases assistant_setFinalAnswer redact b last with hnone | hone
    · rw [hnone]
      decide
    · rw [hone, compactMessages_single _ (utf8Len_compactText_le _ _)]
      exact ⟨utf8Len_compactText_le _ _, Nat.le_refl _⟩
  have hfacts :
    sumOf (fun tool => utf8Len tool.name + utf8Len tool.status) (b.setFinalAnswer redact last).tools ≤
      192 * (b.setFinalAnswer redact last).tools.length := by
    refine sumOf_le fun tool htool => ?_
    have hbound := htools.2 tool htool
    simp only [maxToolNameBytes, maxToolStatusBytes] at hbound
    omega
  have hcount := htools.1
  simp only [maxTools, maxTextBytes, maxTextBytesPerRole, maxMessagesPerRole]
    at huser huserCount hassistant hcount
  simp only [TurnBuilder.pack, TurnPack.rawSize, TurnPack.framing, hid]
  omega

variable {P : Type} {crates : Crates} {fromSlice : List UInt8 → Option Json} {parser : RecordParser P}

/-- A completion fails on the size of its pack when the pack is larger than its limit, and never else. -/
theorem applyRolloutValue_eq_tooLarge {value : Json} {last : String}
    (hvalue : recordKind crates value = .completed b.turnId (some last))
    (hlast : last ≠ "") (huuid : crates.isUuid b.turnId = true) :
    applyRolloutValue (observerEnv crates redact fromSlice parser) value (some b) =
      .error .turnPackTooLarge ↔
      maxSerializedTurnPackBytes < utf8Len (b.setFinalAnswer redact last).pack.toJson := by
  have hid : crates.isUuid (b.setFinalAnswer redact last).turnId = true := by
    rw [turnId_setFinalAnswer]
    exact huuid
  rw [applyRolloutValue_eq, hvalue, applyKind_own b hlast, TurnBuilder.finish, if_neg (by simp [hid])]
  by_cases hlarge : utf8Len (b.setFinalAnswer redact last).pack.toJson > maxSerializedTurnPackBytes
  · rw [if_pos hlarge]
    exact iff_of_true rfl hlarge
  · rw [if_neg hlarge]
    exact iff_of_false (by intro h; cases h) hlarge

end

end CodexKeyboard.Observer
