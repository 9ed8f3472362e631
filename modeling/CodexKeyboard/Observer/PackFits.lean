import CodexKeyboard.Observer.ToolIndex
/-!
# The turns whose pack fits

Of the texts of a turn the pack keeps what the budgets leave: the last 64 tool calls, the answer
within 12 KiB, and of the last eight user texts, from the newest one on, 12 KiB each and 22 KiB
together. Counted on the response items and the last message, `plainBytes` is what that takes
without escapes, `escapes` what the escapes add, and `pack_fits_iff` says that nothing else decides.
-/

namespace CodexKeyboard.Observer

open Lib Store

/-! ## What a turn says -/

/-- A character with an escape of two characters. -/
def shortEscape (c : Char) : Bool :=
  c = '"' ∨ c = '\\' ∨ c.val = 0x08 ∨ c.val = 0x0c ∨ c = '\n' ∨ c = '\r' ∨ c = '\t'

/-- Another control character, whose escape has six. -/
def longEscape (c : Char) : Bool := !shortEscape c && decide (c.val < 0x20)

/-- What the escapes add to a text. -/
def escapeBytes (text : List Char) : Nat := text.countP shortEscape + 5 * text.countP longEscape

/-- The texts of a message. -/
def messageTexts (payload : List (String × Json)) : List String :=
  (((getKey payload "content").bind Json.asArray).getD []).filterMap fun part =>
    part.asObject.bind TurnBuilder.partText

/-- The user's texts in a response item of the turn, redacted. -/
def userTexts (redact : List Char → List Char) (turnId : String) (payload : Json) : List (List Char) :=
  match payload.asObject with
  | none => []
  | some object =>
    if (responseTurnId object).any (fun other => other ≠ turnId) then []
    else if getStr object "type" = some "message" ∧ getStr object "role" = some "user" then
      ((messageTexts object).map fun text => redact text.toList).filter fun text => text ≠ []
    else []

/-- The last user texts of the turn, within 12 KiB each, the newest one first. -/
def newestTexts (redact : List Char → List Char) (turnId : String) (items : List Json) : List (List Char) :=
  ((items.flatMap (userTexts redact turnId)).map fun text =>
    compactText text maxTextBytes).reverse.take maxMessagesPerRole

/-- The sum of `f` over the texts that find room, each cut to what those before it left. -/
def sumKept (f : List Char → Nat) (room : Nat) : List (List Char) → Nat
  | [] => 0
  | text :: older =>
    if room = 0 then 0
    else
      let kept := compactText text (min room maxTextBytes)
      f kept + sumKept f (room - utf8Len kept) older

/-- The answer, within 12 KiB. -/
def answerText (redact : List Char → List Char) (last : String) : List Char :=
  compactText (redact last.toList) maxTextBytes

section
variable (redact : List Char → List Char) (turnId : String) (items : List Json) (last : String)

/-- The bytes of the texts, and of the keys, quotes, brackets and commas around them. -/
def plainBytes : Nat :=
  56 + utf8Len turnId.toList +
    (sumKept utf8Len maxTextBytesPerRole (newestTexts redact turnId items) +
      (sumKept (fun _ => 3) maxTextBytesPerRole (newestTexts redact turnId items) - 1)) +
    (if redact last.toList = [] then 0 else utf8Len (answerText redact last) + 2) +
    (sumOf (fun call => utf8Len call.fact.name + utf8Len call.fact.status)
      (retained (callLog redact turnId items)) +
      (24 * (retained (callLog redact turnId items)).length - 1))

/-- What the escapes add to the texts. -/
def escapes : Nat :=
  escapeBytes turnId.toList + sumKept escapeBytes maxTextBytesPerRole (newestTexts redact turnId items) +
    escapeBytes (answerText redact last) +
    sumOf (fun call => escapeBytes call.fact.name + escapeBytes call.fact.status)
      (retained (callLog redact turnId items))

end

theorem textGrowth_eq (text : List Char) : textGrowth text = escapeBytes text := by
  induction text with
  | nil => rfl
  | cons c text ih =>
    have hc : growth c = (if shortEscape c then 1 else 0) + 5 * (if longEscape c then 1 else 0) := by
      unfold growth longEscape shortEscape
      split <;> split <;> simp_all
    rw [textGrowth] at ih
    rw [textGrowth, sumOf, ih, hc, escapeBytes, escapeBytes, List.countP_cons, List.countP_cons]
    omega

theorem sumOf_compactNewest (f : List Char → Nat) : ∀ (texts : List (List Char)) (room : Nat),
    sumOf f (compactNewest room texts) = sumKept f room texts
  | [], _ => rfl
  | text :: older, room => by
    rw [compactNewest, sumKept]
    split
    · rfl
    · rw [sumOf, sumOf_compactNewest f older]

/-! ## What the builder holds -/

section
variable {redact : List Char → List Char} {b b' : TurnBuilder}

/-- The last elements of a list that was not longer than it may be. -/
theorem take_reverse_pushBounded {α : Type} {limit m : Nat} {list list' : List α} (x : α) (hm : m ≤ limit)
    (h : list.reverse.take m = list'.reverse.take m) :
    (pushBounded limit list x).reverse.take m = (list' ++ [x]).reverse.take m := by
  cases m with
  | zero => rfl
  | succ m =>
    have hshorter : list.reverse.take m = list'.reverse.take m := by
      have htake := congrArg (List.take m) h
      rwa [List.take_take, List.take_take, Nat.min_eq_left (Nat.le_succ m)] at htake
    rw [pushBounded, List.reverse_append, List.reverse_append, List.reverse_singleton,
      List.singleton_append, List.singleton_append,
      List.take_succ_cons, List.take_succ_cons, ← hshorter]
    split
    · rw [← List.dropLast_reverse, List.dropLast_eq_take, List.take_take, List.length_reverse,
        Nat.min_eq_left (by omega)]
    · rfl

/-- The builder's last user messages are the last of these texts. -/
def HasTexts (texts : List (List Char)) (b : TurnBuilder) : Prop :=
  b.user.reverse.take maxMessagesPerRole =
    (texts.map fun text => compactText text maxTextBytes).reverse.take maxMessagesPerRole

theorem HasTexts.pushMessage {texts : List (List Char)} (h : HasTexts texts b) (text : List Char) :
    HasTexts (texts ++ [redact text].filter fun text => text ≠ []) (b.pushMessage redact "user" text) := by
  unfold TurnBuilder.pushMessage
  by_cases hempty : redact text = []
  · simpa [hempty] using h
  · have hpush := take_reverse_pushBounded (compactText (redact text) maxTextBytes)
      (show maxMessagesPerRole ≤ maxRawMessagesPerRole by decide) h
    simpa [HasTexts, hempty] using hpush

theorem HasTexts.pushParts :
    ∀ {parts : List Json} {texts : List (List Char)} {b b' : TurnBuilder}, HasTexts texts b →
    b.pushParts redact "user" parts = .ok b' →
    HasTexts
      (texts ++
      ((parts.filterMap fun part => part.asObject.bind TurnBuilder.partText).map fun text =>
      redact text.toList).filter
      fun text => text ≠ []) b'
  | [], texts, b, b', h, hparts => by
    cases hparts
    simpa using h
  | part :: parts, texts, b, b', h, hparts => by
    unfold TurnBuilder.pushParts at hparts
    cases hobject : part.asObject with
    | none =>
      rw [hobject] at hparts
      cases hparts
    | some entries =>
      rw [hobject] at hparts
      dsimp only at hparts
      cases htext : TurnBuilder.partText entries with
      | none =>
        rw [htext] at hparts
        have hrest := h.pushParts hparts
        simpa [hobject, htext] using hrest
      | some text =>
        rw [htext] at hparts
        have hrest := (h.pushMessage text.toList).pushParts hparts
        rw [List.append_assoc, ← List.filter_append] at hrest
        simpa [hobject, htext] using hrest

/-- The other role has a list of its own. -/
theorem user_pushParts {role : String} (hrole : role ≠ "user") : ∀ {parts : List Json} {b b' : TurnBuilder},
    b.pushParts redact role parts = .ok b' → b'.user = b.user
  | [], b, b', h => by
    cases h
    rfl
  | part :: parts, b, b', h => by
    have hpush (text : List Char) : (b.pushMessage redact role text).user = b.user := by
      unfold TurnBuilder.pushMessage
      dsimp only
      rw [if_neg hrole]
      split <;> rfl
    unfold TurnBuilder.pushParts at h
    split at h
    · cases h
    · split at h
      · exact user_pushParts hrole h
      · exact (user_pushParts hrole h).trans (hpush _)

theorem user_observeCall {payload : List (String × Json)}
    (h : b.observeCall redact payload = .ok b') : b'.user = b.user := by
  unfold TurnBuilder.observeCall at h
  split at h
  · cases h
  · split at h
    · cases h
      rfl
    · cases h
      rfl

theorem user_observeOutput (b : TurnBuilder) (payload : List (String × Json)) :
    (b.observeOutput payload).user = b.user := by
  unfold TurnBuilder.observeOutput
  split <;> rfl

theorem HasTexts.message {texts : List (List Char)} {object : List (String × Json)} (h : HasTexts texts b)
    (hmessage : b.observeMessage redact object = .ok b') :
    HasTexts (texts ++ if getStr object "role" = some "user" then
      ((messageTexts object).map fun text => redact text.toList).filter fun text => text ≠ [] else
        []) b' := by
  unfold TurnBuilder.observeMessage at hmessage
  cases hrole : getStr object "role" with
  | none =>
    rw [hrole] at hmessage
    cases hmessage
  | some role =>
    rw [hrole] at hmessage
    dsimp only at hmessage
    by_cases hknown : role ≠ "user" ∧ role ≠ "assistant"
    · rw [if_pos hknown] at hmessage
      cases hmessage
      rw [if_neg fun huser => hknown.1 (Option.some.inj huser), List.append_nil]
      exact h
    · rw [if_neg hknown] at hmessage
      cases hcontent : (getKey object "content").bind Json.asArray with
      | none =>
        rw [hcontent] at hmessage
        cases hmessage
      | some content =>
        rw [hcontent] at hmessage
        dsimp only at hmessage
        by_cases huser : role = "user"
        · subst huser
          rw [if_pos rfl, messageTexts, hcontent]
          exact h.pushParts hmessage
        · rw [if_neg fun heq => huser (Option.some.inj heq), List.append_nil,
            HasTexts, user_pushParts huser hmessage]
          exact h

/-- One response item. -/
theorem HasTexts.item {texts : List (List Char)} {payload : Json} (h : HasTexts texts b)
    (hstep : b.observeResponseItem redact payload = .ok b') :
    HasTexts (texts ++ userTexts redact b.turnId payload) b' := by
  have hsame (huser : b'.user = b.user) : HasTexts (texts ++ []) b' := by
    rw [List.append_nil, HasTexts, huser]
    exact h
  unfold TurnBuilder.observeResponseItem at hstep
  unfold userTexts
  cases hobject : payload.asObject with
  | none =>
    rw [hobject] at hstep
    cases hstep
  | some object =>
    rw [hobject] at hstep
    dsimp only at hstep ⊢
    by_cases hother : (responseTurnId object).any (fun turnId => turnId ≠ b.turnId) = true
    · rw [if_pos hother] at hstep ⊢
      cases hstep
      exact hsame rfl
    · rw [if_neg hother] at hstep ⊢
      split at hstep
      · rename_i htype
        have hmessage := h.message hstep
        simpa [htype] using hmessage
      · rename_i htype
        simpa [htype] using hsame (user_observeCall hstep)
      · rename_i htype
        simpa [htype] using hsame (user_observeCall hstep)
      · rename_i htype
        cases hstep
        simpa [htype] using hsame (user_observeOutput b object)
      · rename_i htype
        cases hstep
        simpa [htype] using hsame (user_observeOutput b object)
      · rename_i htype _ _ _ _
        cases hstep
        rw [if_neg fun hmessage => htype hmessage.1]
        exact hsame rfl

/-- The response items of a turn. -/
theorem HasTexts.items :
    ∀ {items : List Json} {texts : List (List Char)} {b b' : TurnBuilder}, HasTexts texts b →
    observeItems redact b items = .ok b' → HasTexts (texts ++ items.flatMap (userTexts redact b.turnId)) b'
  | [], texts, b, b', h, hrun => by
    cases hrun
    rw [List.flatMap_nil, List.append_nil]
    exact h
  | payload :: items, texts, b, b', h, hrun => by
    rw [observeItems, List.foldlM_cons, bind_eq_ok] at hrun
    obtain ⟨next, hnext, hrest⟩ := hrun
    have hitems := (h.item hnext).items hrest
    rwa [turnId_observeResponseItem hnext, List.append_assoc, ← List.flatMap_cons] at hitems

/-! ## The two sizes -/

variable {turnId : String} {items : List Json}

theorem compactMessages_user (h : observeItems redact { turnId } items = .ok b) :
    compactMessages b.user =
      (compactNewest maxTextBytesPerRole (newestTexts redact turnId items)).reverse := by
  have hnew : HasTexts [] ({ turnId } : TurnBuilder) := rfl
  have htexts := hnew.items h
  rw [HasTexts, List.nil_append] at htexts
  rw [compactMessages, htexts, newestTexts]

theorem assistant_setFinalAnswer_eq (redact : List Char → List Char) (b : TurnBuilder) (last : String) :
    (b.setFinalAnswer redact last).assistant = if redact last.toList = [] then [] else
      [answerText redact last] := by
  unfold TurnBuilder.setFinalAnswer TurnBuilder.pushMessage answerText
  by_cases hempty : redact last.toList = []
  · simp [hempty]
  · simp [hempty, pushBounded, maxRawMessagesPerRole]

theorem tools_of_items (h : observeItems redact { turnId } items = .ok b) (last : String) :
    (b.setFinalAnswer redact last).tools = (retained (callLog redact turnId items)).map Call.fact := by
  rw [tools_setFinalAnswer]
  exact (indexed_observeItems h).tools

theorem compactMessages_answer (redact : List Char → List Char) (b : TurnBuilder) (last : String) :
    compactMessages (b.setFinalAnswer redact last).assistant = if redact last.toList = [] then []
      else [answerText redact last] := by
  rw [assistant_setFinalAnswer_eq]
  split
  · rfl
  · exact compactMessages_single _ (utf8Len_compactText_le _ _)

/-- The pack, from the response items and the last message. -/
theorem pack_of_items (h : observeItems redact { turnId } items = .ok b) (last : String) :
    (b.setFinalAnswer redact last).pack = {
    turnId := turnId.toList
    user := (compactNewest maxTextBytesPerRole (newestTexts redact turnId items)).reverse
    assistant := if redact last.toList = [] then [] else [answerText redact last]
    tools := (retained (callLog redact turnId items)).map Call.fact } := by
  rw [TurnBuilder.pack, turnId_setFinalAnswer, turnId_observeItems h,
    user_setFinalAnswer, compactMessages_user h,
    compactMessages_answer, tools_of_items h]

/-- What the texts and the framing of the pack take. -/
theorem plainBytes_eq (h : observeItems redact { turnId } items = .ok b) (last : String) :
    (b.setFinalAnswer redact last).pack.rawSize + (b.setFinalAnswer redact last).pack.framing =
      plainBytes redact turnId items last := by
  have hcount : sumKept (fun _ => 3) maxTextBytesPerRole (newestTexts redact turnId items) =
      3 * (compactNewest maxTextBytesPerRole (newestTexts redact turnId items)).length := by
    rw [← sumOf_compactNewest, sumOf_const]
  rw [pack_of_items h, TurnPack.rawSize, TurnPack.framing, plainBytes, hcount]
  simp only [sumOf_reverse, sumOf_compactNewest, sumOf_map, List.length_reverse, List.length_map]
  by_cases hempty : redact last.toList = []
  · simp only [hempty, if_true, sumOf, List.length_nil]
    omega
  · simp only [hempty, if_false, sumOf, List.length_singleton]
    omega

/-- What the escapes add to the pack. -/
theorem escapes_eq (h : observeItems redact { turnId } items = .ok b) (last : String) :
    (b.setFinalAnswer redact last).pack.escapes = escapes redact turnId items last := by
  have hgrowth : textGrowth = escapeBytes := funext textGrowth_eq
  have hanswer :
    sumOf escapeBytes (if redact last.toList = [] then [] else [answerText redact last]) =
    escapeBytes (answerText redact last) := by
    by_cases hempty : redact last.toList = []
    · rw [if_pos hempty, answerText, hempty]
      rfl
    · rw [if_neg hempty]
      rfl
  rw [pack_of_items h, TurnPack.escapes, escapes, hgrowth]
  simp only [sumOf_reverse, sumOf_compactNewest, sumOf_map, hanswer]

variable {P : Type} {crates : Crates} {fromSlice : List UInt8 → Option Json} {parser : RecordParser P}

/-- **When a pack fits.** The completion of a turn is accepted on its size exactly when the escapes
of what its items and its last message say find room beside the texts, which leave 16771 bytes at
least. -/
theorem pack_fits_iff {last : String} {value : Json}
    (hparse : ∀ s, crates.isUuid s = true → s.utf8ByteSize ≤ 45) (huuid : crates.isUuid turnId = true)
    (hitems : observeItems redact { turnId } items = .ok b)
    (hvalue : recordKind crates value = .completed turnId (some last))
    (hlast : last ≠ "") :
    (utf8Len (b.setFinalAnswer redact last).pack.toJson ≤ maxSerializedTurnPackBytes ∧
        applyRolloutValue (observerEnv crates redact fromSlice parser) value (some b) ≠
          .error .turnPackTooLarge ↔
      escapes redact turnId items last ≤ maxSerializedTurnPackBytes - plainBytes redact turnId items last) ∧
    plainBytes redact turnId items last ≤ maxSerializedTurnPackBytes - 16771 := by
  have hid : b.turnId = turnId := turnId_observeItems hitems
  have hplain := plainSize_le hitems last
  have hshort := hparse turnId huuid
  rw [utf8Len_toList] at hplain
  have hlarge : applyRolloutValue (observerEnv crates redact fromSlice parser) value (some b) =
    .error .turnPackTooLarge ↔ _ :=
    applyRolloutValue_eq_tooLarge (hvalue.trans (by rw [hid])) hlast (by rw [hid]; exact huuid)
  rw [Ne, hlarge, utf8Len_toJson, ← plainBytes_eq hitems last, ← escapes_eq hitems last]
  simp only [maxSerializedTurnPackBytes]
  omega

/-- A turn with quotes in the message and a newline in the answer. -/
theorem short_turn_fits :
    utf8Len (TurnBuilder.setFinalAnswer id { turnId := currentTurn,
                                             user := ["say \"hi\"".toList] } "hi\n").pack.toJson ≤
        maxSerializedTurnPackBytes ∧
      applyRolloutValue recordsEnv (completeRecord currentTurn "hi\n")
        (some { turnId := currentTurn, user := ["say \"hi\"".toList] }) ≠ .error .turnPackTooLarge := by
  have hitems : observeItems id { turnId := currentTurn } [userItem "say \"hi\""] =
      .ok { turnId := currentTurn, user := ["say \"hi\"".toList] } := by
    decide +kernel
  have hroom : escapes id currentTurn [userItem "say \"hi\""] "hi\n" ≤
      maxSerializedTurnPackBytes - plainBytes id currentTurn [userItem "say \"hi\""] "hi\n" := by
    decide +kernel
  refine (pack_fits_iff ?_ (by decide) hitems rfl (by decide)).1.mpr hroom
  intro s hs
  have hsize : s.utf8ByteSize = 36 := eq_of_beq hs
  omega

end

/-! ## A text that grows too much -/

theorem utf8Len_replicate (n : Nat) (c : Char) : utf8Len (List.replicate n c) = n * c.utf8Size := by
  induction n with
  | zero => simp
  | succ n ih => rw [List.replicate_succ, utf8Len_cons, ih, Nat.succ_mul, Nat.add_comm]

theorem textGrowth_replicate (n : Nat) (c : Char) : textGrowth (List.replicate n c) = n * growth c := by
  induction n with
  | zero => simp [textGrowth, sumOf]
  | succ n ih =>
    rw [textGrowth] at ih
    rw [List.replicate_succ, textGrowth, sumOf, ih, Nat.succ_mul, Nat.add_comm]

/-- A message of control characters that is short enough to be kept as it is. -/
theorem observeItems_control {n : Nat} (hpos : 0 < n) (hshort : n ≤ maxTextBytes) :
    observeItems id { turnId := currentTurn } [userItem (String.ofList (List.replicate n '\x01'))] =
      .ok { turnId := currentTurn, user := [List.replicate n '\x01'] } := by
  have hne : List.replicate n '\x01' ≠ [] := by
    rw [Ne, List.replicate_eq_nil_iff]
    omega
  have hlen : utf8Len (List.replicate n '\x01') ≤ maxTextBytes := by
    rw [utf8Len_replicate, show ('\x01' : Char).utf8Size = 1 from rfl]
    omega
  have hpush : TurnBuilder.pushMessage id { turnId := currentTurn } "user" (List.replicate n '\x01') =
      { turnId := currentTurn, user := [List.replicate n '\x01'] } := by
    simp [TurnBuilder.pushMessage, hne, compactText, hlen, pushBounded, maxRawMessagesPerRole]
  change (do
    let b ← TurnBuilder.pushParts id { turnId := currentTurn } "user"
      [.object [("type", .string "input_text"),
        ("text", .string (String.ofList (List.replicate n '\x01')))]]
    pure b) = _
  change (Except.ok (TurnBuilder.pushMessage id { turnId := currentTurn } "user"
    (String.ofList (List.replicate n '\x01')).toList) : Except ObserverError TurnBuilder) = _
  rw [String.toList_ofList, hpush]

/-- 12000 control characters fit every budget of the builder and make a pack that is refused. -/
theorem control_text_wedges :
    observeItems id { turnId := currentTurn } [userItem (String.ofList (List.replicate 12000 '\x01'))] =
      .ok { turnId := currentTurn, user := [List.replicate 12000 '\x01'] } ∧
    applyRolloutValue recordsEnv (completeRecord currentTurn "done")
      (some { turnId := currentTurn, user := [List.replicate 12000 '\x01'] }) =
        .error .turnPackTooLarge := by
  refine ⟨observeItems_control (by decide) (by decide), ?_⟩
  have huser : compactMessages [List.replicate 12000 '\x01'] = [List.replicate 12000 '\x01'] := by
    apply compactMessages_single
    rw [utf8Len_replicate]
    decide
  have hvalue :
    recordKind sampleCrates (completeRecord currentTurn "done") =
    .completed currentTurn (some "done") := rfl
  rw [recordsEnv, applyRolloutValue_eq_tooLarge hvalue (by decide) (by decide), utf8Len_toJson]
  have hescapes : 12000 * 5 ≤ (TurnBuilder.setFinalAnswer id
      { turnId := currentTurn, user := [List.replicate 12000 '\x01'] } "done").pack.escapes := by
    simp only [TurnPack.escapes, TurnBuilder.pack, user_setFinalAnswer, huser, sumOf, textGrowth_replicate]
    rw [show growth '\x01' = 5 from rfl]
    omega
  have hraw : 12000 ≤ (TurnBuilder.setFinalAnswer id
      { turnId := currentTurn, user := [List.replicate 12000 '\x01'] } "done").pack.rawSize := by
    simp only [TurnPack.rawSize, TurnBuilder.pack, user_setFinalAnswer, huser, sumOf, utf8Len_replicate]
    rw [show ('\x01' : Char).utf8Size = 1 from rfl]
    omega
  simp only [maxSerializedTurnPackBytes]
  omega

end CodexKeyboard.Observer
