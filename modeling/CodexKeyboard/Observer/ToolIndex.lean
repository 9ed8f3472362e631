import CodexKeyboard.Observer.PackSize
import Mathlib.Data.List.Induction
/-!
# The index of the tool calls

`TurnBuilder` keeps the last 64 tool calls in a list and the place of each in `tool_calls`
(rollout_observer.rs:996-1031). A new call evicts the front of a full list and moves every place
down by one; a call with an id that is already filed takes over its entry. Against the log of all
calls of the turn, none of them evicted: the list is the end of the log, and the index has exactly
the place of the latest call with each id.

| here | there |
| --- | --- |
| `logItem` | the calls and outputs of `observe_response_item` (rollout_observer.rs:987-1031), without the bound |
-/

namespace CodexKeyboard.Observer

open Lib Store

variable {redact : List Char → List Char}

/-- A tool call of the turn: the id it can be filed under, and what is known of it. -/
structure Call where
  key : Option String
  fact : ToolFact
deriving DecidableEq, Repr

def Call.complete (call : Call) : Call :=
  { call with fact := { call.fact with status := "completed".toList } }

/-- The latest call with this id is completed. -/
def completeLatest (callId : String) : List Call → List Call
  | [] => []
  | call :: calls =>
    if calls.any (fun later => later.key == some callId) then call :: completeLatest callId calls
    else if call.key = some callId then call.complete :: calls
    else call :: calls

/-- A tool call is added to the log. -/
def logCall (redact : List Char → List Char) (log : List Call) (payload : List (String × Json)) :
    List Call :=
  match getStr payload "name" with
  | none => log
  | some name =>
    if name = "" then log
    else log ++ [{
      key := TurnBuilder.callKey payload
      fact := {
        name := compactText (redact name.toList) maxToolNameBytes
        status := compactText (redact ((getStr payload "status").getD "requested").toList)
          maxToolStatusBytes } }]

/-- The output of a tool call completes the latest call with its id. -/
def logOutput (log : List Call) (payload : List (String × Json)) : List Call :=
  match getStr payload "call_id" with
  | none => log
  | some callId => completeLatest callId log

/-- What a response item does to the log of the calls of a turn. -/
def logItem (redact : List Char → List Char) (turnId : String) (log : List Call) (payload : Json) :
    List Call :=
  match payload.asObject with
  | none => log
  | some object =>
    if (responseTurnId object).any (fun other => other ≠ turnId) then log
    else
      match getStr object "type" with
      | some "function_call" | some "custom_tool_call" => logCall redact log object
      | some "function_call_output" | some "custom_tool_call_output" => logOutput log object
      | _ => log

/-- The calls of a turn. -/
def callLog (redact : List Char → List Char) (turnId : String) (items : List Json) : List Call :=
  items.foldl (logItem redact turnId) []

/-- The last 64 calls. -/
def retained (log : List Call) : List Call := log.drop (log.length - maxTools)

/-- `index` is the place of the last of these keys that is `callId`. -/
def LatestAt (keys : List (Option String)) (callId : String) (index : Nat) : Prop :=
  ∃ before after, keys = before ++ some callId :: after ∧ before.length = index ∧ some callId ∉ after

/-! ## The latest of several calls -/

theorem LatestAt.lt {keys : List (Option String)} {callId : String} {index : Nat}
    (h : LatestAt keys callId index) :
    index < keys.length := by
  obtain ⟨before, after, rfl, rfl, -⟩ := h
  simp

theorem latestAt_concat {keys : List (Option String)} {key : Option String} {callId : String}
    {index : Nat} :
    LatestAt (keys ++ [key]) callId index ↔
      key = some callId ∧ index = keys.length ∨ key ≠ some callId ∧ LatestAt keys callId index := by
  constructor
  · rintro ⟨before, after, heq, rfl, hafter⟩
    rcases List.eq_nil_or_concat after with rfl | ⟨rest, last, rfl⟩
    · obtain ⟨rfl, hkey⟩ := List.append_inj' heq rfl
      exact .inl ⟨(List.cons.inj hkey).1, rfl⟩
    · rw [List.concat_eq_append] at heq hafter
      rw [← List.cons_append, ← List.append_assoc] at heq
      obtain ⟨rfl, hkey⟩ := List.append_inj' heq rfl
      obtain ⟨rfl, -⟩ := List.cons.inj hkey
      rw [List.mem_append, not_or, List.mem_singleton] at hafter
      exact .inr ⟨fun hlast => hafter.2 hlast.symm, before, rest, rfl, rfl, hafter.1⟩
  · rintro (⟨rfl, rfl⟩ | ⟨hkey, before, after, rfl, rfl, hafter⟩)
    · exact ⟨keys, [], rfl, rfl, by simp⟩
    · refine ⟨before, after ++ [key], by simp, rfl, ?_⟩
      rw [List.mem_append, not_or, List.mem_singleton]
      exact ⟨hafter, fun hlast => hkey hlast.symm⟩

theorem latestAt_tail {key : Option String} {keys : List (Option String)} {callId : String} {index : Nat} :
    LatestAt keys callId index ↔ LatestAt (key :: keys) callId (index + 1) := by
  constructor
  · rintro ⟨before, after, rfl, rfl, hafter⟩
    exact ⟨key :: before, after, rfl, rfl, hafter⟩
  · rintro ⟨before, after, heq, hlength, hafter⟩
    cases before with
    | nil => cases hlength
    | cons first before =>
      obtain ⟨-, rfl⟩ := List.cons.inj heq
      exact ⟨before, after, rfl, Nat.succ.inj hlength, hafter⟩

theorem LatestAt.unique : ∀ {keys : List (Option String)} {callId : String} {index other : Nat},
    LatestAt keys callId index → LatestAt keys callId other → index = other := by
  intro keys
  induction keys using List.reverseRecOn with
  | nil =>
    intro callId index other h
    exact absurd h.lt (Nat.not_lt_zero _)
  | append_singleton keys key ih =>
    intro callId index other h h'
    rcases latestAt_concat.mp h with ⟨hkey, rfl⟩ | ⟨hkey, h⟩
    · rcases latestAt_concat.mp h' with ⟨-, rfl⟩ | ⟨hkey', -⟩
      · rfl
      · exact absurd hkey hkey'
    · rcases latestAt_concat.mp h' with ⟨hkey', -⟩ | ⟨-, h'⟩
      · exact absurd hkey' hkey
      · exact ih h h'

theorem latestAt_of_mem {callId : String} {keys : List (Option String)} (h : some callId ∈ keys) :
    ∃ index, LatestAt keys callId index := by
  induction keys using List.reverseRecOn with
  | nil => cases h
  | append_singleton keys key ih =>
    by_cases hkey : key = some callId
    · exact ⟨_, latestAt_concat.mpr (.inl ⟨hkey, rfl⟩)⟩
    · rcases List.mem_append.mp h with hmem | hmem
      · obtain ⟨index, hindex⟩ := ih hmem
        exact ⟨index, latestAt_concat.mpr (.inr ⟨hkey, hindex⟩)⟩
      · exact absurd (List.mem_singleton.mp hmem).symm hkey

theorem any_key_iff {calls : List Call} {callId : String} :
    calls.any (fun later => later.key == some callId) = true ↔ some callId ∈ calls.map Call.key := by
  rw [List.any_eq_true, List.mem_map]
  simp

theorem keys_completeLatest (callId : String) : ∀ calls : List Call,
    (completeLatest callId calls).map Call.key = calls.map Call.key
  | [] => rfl
  | call :: calls => by
    unfold completeLatest
    split
    · rw [List.map_cons, List.map_cons, keys_completeLatest callId calls]
    · split <;> rfl

theorem completeLatest_of_not_mem {callId : String} :
    ∀ {calls : List Call}, some callId ∉ calls.map Call.key →
    completeLatest callId calls = calls
  | [], _ => rfl
  | call :: calls, h => by
    rw [List.map_cons, List.mem_cons, not_or] at h
    rw [completeLatest, if_neg (any_key_iff.not.mpr h.2), if_neg (fun hkey => h.1 hkey.symm)]

theorem completeLatest_latestAt {callId : String} : ∀ {calls : List Call} {index : Nat},
    LatestAt (calls.map Call.key) callId index →
    completeLatest callId calls = calls.modify index Call.complete
  | [], _, h => absurd h.lt (Nat.not_lt_zero _)
  | call :: calls, 0, h => by
    obtain ⟨before, after, heq, hlength, hafter⟩ := h
    rw [List.length_eq_zero_iff.mp hlength, List.nil_append, List.map_cons] at heq
    obtain ⟨hkey, rfl⟩ := List.cons.inj heq
    rw [completeLatest, if_neg (any_key_iff.not.mpr hafter), if_pos hkey]
    rfl
  | call :: calls, index + 1, h => by
    have hlater := latestAt_tail.mpr (List.map_cons ▸ h)
    have hmem : some callId ∈ calls.map Call.key := by
      obtain ⟨before, after, heq, -, -⟩ := hlater
      rw [heq]
      simp
    rw [completeLatest, if_pos (any_key_iff.mpr hmem),
      completeLatest_latestAt hlater, List.modify_succ_cons]

/-- An output reaches the retained calls, if the call it belongs to is one of them. -/
theorem completeLatest_append (callId : String) (kept : List Call) : ∀ dropped : List Call,
    ∃ dropped', completeLatest callId (dropped ++ kept) = dropped' ++ completeLatest callId kept ∧
      dropped'.length = dropped.length
  | [] => ⟨[], rfl, rfl⟩
  | call :: dropped => by
    obtain ⟨dropped', heq, hlength⟩ := completeLatest_append callId kept dropped
    rw [List.cons_append, completeLatest]
    by_cases hlater : (dropped ++ kept).any (fun later => later.key == some callId) = true
    · rw [if_pos hlater, heq]
      exact ⟨call :: dropped', rfl, by rw [List.length_cons, List.length_cons, hlength]⟩
    · have hkept : some callId ∉ kept.map Call.key := by
        rw [any_key_iff, List.map_append, List.mem_append, not_or] at hlater
        exact hlater.2
      rw [if_neg hlater, completeLatest_of_not_mem hkept]
      split
      · exact ⟨call.complete :: dropped, rfl, rfl⟩
      · exact ⟨call :: dropped, rfl, rfl⟩

/-! ## The last 64 -/

theorem length_retained (log : List Call) : (retained log).length = min maxTools log.length := by
  rw [retained, List.length_drop]
  omega

theorem retained_concat (log : List Call) (call : Call) :
    retained (log ++ [call]) = pushBounded maxTools (retained log) call := by
  have hlength := length_retained log
  have hpos : 0 < maxTools := by decide
  rw [pushBounded]
  by_cases hfull : (retained log).length ≥ maxTools
  · rw [if_pos hfull, retained, retained, List.length_append, List.length_singleton, List.tail_drop,
      List.drop_append_of_le_length (by omega)]
    congr 2
    omega
  · rw [if_neg hfull, retained, retained, List.length_append, List.length_singleton,
      show log.length + 1 - maxTools = 0 by
        omega, show log.length - maxTools = 0 by omega, List.drop_zero, List.drop_zero]

theorem retained_completeLatest (callId : String) (log : List Call) :
    retained (completeLatest callId log) = completeLatest callId (retained log) := by
  have hlength : (completeLatest callId log).length = log.length := by
    rw [← List.length_map Call.key, keys_completeLatest, List.length_map]
  obtain ⟨dropped', heq, hdropped⟩ :=
    completeLatest_append callId (log.drop (log.length - maxTools)) (log.take (log.length - maxTools))
  rw [List.take_append_drop] at heq
  rw [List.length_take, Nat.min_eq_left (Nat.sub_le ..)] at hdropped
  rw [retained, hlength, heq, ← hdropped, List.drop_left, hdropped, retained]

/-! ## The builder and the log -/

/-- The tools are the facts of the last 64 calls, and the index has the place of the latest call
with each id. -/
structure Indexed (log : List Call) (b : TurnBuilder) : Prop where
  tools : b.tools = (retained log).map Call.fact
  index : ∀ callId i, (callId, i) ∈ b.toolCalls ↔ LatestAt ((retained log).map Call.key) callId i

theorem mem_shiftCalls {calls : List (String × Nat)} {callId : String} {i : Nat} :
    (callId, i) ∈ shiftCalls calls ↔ (callId, i + 1) ∈ calls := by
  rw [shiftCalls, List.mem_filterMap]
  constructor
  · rintro ⟨⟨other, place⟩, hmem, heq⟩
    cases place with
    | zero => cases heq
    | succ place =>
      cases heq
      exact hmem
  · intro hmem
    exact ⟨_, hmem, rfl⟩

theorem mem_insertCall {calls : List (String × Nat)} {callId other : String} {place i : Nat} :
    (other, i) ∈ insertCall calls callId place ↔ callId = other ∧ i = place ∨ callId ≠ other ∧
      (other, i) ∈ calls := by
  rw [insertCall, List.mem_append, List.mem_filter, List.mem_singleton]
  simp only [ne_eq, decide_eq_true_eq, Prod.mk.injEq]
  constructor
  · rintro (⟨hmem, hne⟩ | ⟨rfl, rfl⟩)
    · exact .inr ⟨fun heq => hne heq.symm, hmem⟩
    · exact .inl ⟨rfl, rfl⟩
  · rintro (⟨rfl, rfl⟩ | ⟨hne, hmem⟩)
    · exact .inr ⟨rfl, rfl⟩
    · exact .inl ⟨hmem, fun heq => hne heq.symm⟩

/-- Without its front a full list has every place moved down. -/
theorem latestAt_tail_of_cons {keys : List (Option String)} (hne : keys ≠ []) {callId : String}
    {index : Nat} :
    LatestAt keys.tail callId index ↔ LatestAt keys callId (index + 1) := by
  cases keys with
  | nil => exact absurd rfl hne
  | cons key keys => exact latestAt_tail

/-- A new call. -/
theorem Indexed.push {log : List Call} {b : TurnBuilder} (h : Indexed log b) (key : Option String)
    (fact : ToolFact) :
    Indexed (log ++ [⟨key, fact⟩]) { b with
      tools := pushBounded maxTools b.tools fact
      toolCalls := match key with
        | none => if b.tools.length ≥ maxTools then shiftCalls b.toolCalls else b.toolCalls
        | some callId =>
          insertCall (if b.tools.length ≥ maxTools then shiftCalls b.toolCalls else b.toolCalls) callId
            ((pushBounded maxTools b.tools fact).length - 1) } := by
  have hlength : b.tools.length = (retained log).length := by rw [h.tools, List.length_map]
  -- what is kept of the list before the call is pushed, and of the index
  have hkept : ∃ kept, retained (log ++ [⟨key, fact⟩]) = kept ++ [⟨key, fact⟩] ∧
      pushBounded maxTools b.tools fact = kept.map Call.fact ++ [fact] ∧
      ∀ callId i, (callId, i) ∈ (if b.tools.length ≥ maxTools then
        shiftCalls b.toolCalls else b.toolCalls) ↔
        LatestAt (kept.map Call.key) callId i := by
    rw [retained_concat, pushBounded, pushBounded, hlength]
    by_cases hfull : (retained log).length ≥ maxTools
    · rw [if_pos hfull, if_pos hfull, if_pos hfull]
      refine ⟨(retained log).tail, rfl, by rw [h.tools, List.map_tail], fun callId i => ?_⟩
      have hne : (retained log).map Call.key ≠ [] := by
        intro hnil
        rw [List.map_eq_nil_iff] at hnil
        rw [hnil] at hfull
        exact absurd hfull (by decide)
      rw [mem_shiftCalls, h.index, List.map_tail, latestAt_tail_of_cons hne]
    · rw [if_neg hfull, if_neg hfull, if_neg hfull]
      exact ⟨retained log, rfl, by rw [h.tools], h.index⟩
  obtain ⟨kept, hretained, htools, hindex⟩ := hkept
  refine ⟨?_, fun callId i => ?_⟩
  · rw [hretained, List.map_append, htools]
    rfl
  · rw [hretained, List.map_append, List.map_singleton, latestAt_concat, List.length_map]
    dsimp only
    cases key with
    | none =>
      rw [hindex]
      simp
    | some filed =>
      dsimp only
      rw [mem_insertCall, hindex, htools, List.length_append, List.length_singleton,
        List.length_map, Nat.add_sub_cancel]
      simp only [Option.some.injEq, ne_eq]

theorem map_fact_modify (calls : List Call) (index : Nat) :
    (calls.modify index Call.complete).map Call.fact =
      (calls.map Call.fact).modify index fun tool => { tool with status := "completed".toList } := by
  apply List.ext_getElem?
  intro i
  rw [List.getElem?_map, List.getElem?_modify, List.getElem?_modify, List.getElem?_map]
  cases calls[i]? with
  | none => rfl
  | some call =>
    by_cases hindex : index = i
    · simp [hindex, Call.complete]
    · simp [hindex]

theorem Indexed.message {log : List Call} {b b' : TurnBuilder} (h : Indexed log b)
    (hframe : b'.withoutMessages = b.withoutMessages) : Indexed log b' := by
  have htools := congrArg TurnBuilder.tools hframe
  have hcalls := congrArg TurnBuilder.toolCalls hframe
  exact ⟨htools.trans h.tools,
    fun callId i => by rw [← h.index]; exact iff_of_eq (congrArg ((callId, i) ∈ ·) hcalls)⟩

/-- The output of a call. -/
theorem Indexed.output {log : List Call} {b : TurnBuilder} (h : Indexed log b)
    (payload : List (String × Json)) :
    Indexed (logOutput log payload) (b.observeOutput payload) := by
  unfold logOutput TurnBuilder.observeOutput
  cases hid : getStr payload "call_id" with
  | none => exact h
  | some callId =>
    have hkeys : (retained (completeLatest callId log)).map Call.key = (retained log).map Call.key := by
      rw [retained_completeLatest, keys_completeLatest]
    rw [Option.bind_some]
    dsimp only
    cases hplace : b.toolCalls.lookup callId with
    | none =>
      have hnone : some callId ∉ (retained log).map Call.key := by
        intro hmem
        obtain ⟨index, hindex⟩ := latestAt_of_mem hmem
        have hentry := List.lookup_eq_none_iff.mp hplace _ ((h.index callId index).mpr hindex)
        simp at hentry
      refine ⟨?_, fun other i => ?_⟩
      · rw [retained_completeLatest, completeLatest_of_not_mem hnone, h.tools]
      · rw [hkeys, h.index]
    | some index =>
      obtain ⟨before, after, hentries, -⟩ := List.lookup_eq_some_iff.mp hplace
      have hlatest : LatestAt ((retained log).map Call.key) callId index := by
        rw [← h.index, hentries]
        simp
      refine ⟨?_, fun other i => ?_⟩
      · dsimp only
        rw [retained_completeLatest, completeLatest_latestAt hlatest, h.tools, map_fact_modify]
      · rw [hkeys, h.index]

/-- A tool call. -/
theorem Indexed.call {log : List Call} {b b' : TurnBuilder} {payload : List (String × Json)}
    (h : Indexed log b)
    (hcall : b.observeCall redact payload = .ok b') : Indexed (logCall redact log payload) b' := by
  unfold TurnBuilder.observeCall at hcall
  unfold logCall
  cases hname : getStr payload "name" with
  | none =>
    rw [hname] at hcall
    cases hcall
  | some name =>
    rw [hname] at hcall
    dsimp only at hcall ⊢
    by_cases hempty : name = ""
    · rw [if_pos hempty] at hcall ⊢
      cases hcall
      exact h
    · rw [if_neg hempty] at hcall ⊢
      cases hcall
      exact h.push _ _

/-- One response item. -/
theorem Indexed.item {log : List Call} {b b' : TurnBuilder} {payload : Json} (h : Indexed log b)
    (hstep : b.observeResponseItem redact payload = .ok b') :
    Indexed (logItem redact b.turnId log payload) b' := by
  unfold TurnBuilder.observeResponseItem at hstep
  unfold logItem
  cases hobject : payload.asObject with
  | none =>
    rw [hobject] at hstep
    cases hstep
  | some object =>
    rw [hobject] at hstep
    dsimp only at hstep ⊢
    by_cases hother : (responseTurnId object).any (fun turnId => turnId ≠ b.turnId) = true
    · rw [if_pos hother] at hstep ⊢
      cases hstep
      exact h
    · rw [if_neg hother] at hstep ⊢
      split at hstep
      · rename_i htype
        simp only [htype]
        exact h.message (withoutMessages_observeMessage hstep)
      · rename_i htype
        simp only [htype]
        exact h.call hstep
      · rename_i htype
        simp only [htype]
        exact h.call hstep
      · rename_i htype
        simp only [htype]
        cases hstep
        exact h.output object
      · rename_i htype
        simp only [htype]
        cases hstep
        exact h.output object
      · cases hstep
        split
        · exact absurd ‹_› ‹_›
        · exact absurd ‹_› ‹_›
        · exact absurd ‹_› ‹_›
        · exact absurd ‹_› ‹_›
        · exact h

theorem Indexed.items : ∀ {items : List Json} {log : List Call} {b b' : TurnBuilder}, Indexed log b →
    observeItems redact b items = .ok b' → Indexed (items.foldl (logItem redact b.turnId) log) b'
  | [], log, b, b', h, hrun => by
    cases hrun
    exact h
  | payload :: items, log, b, b', h, hrun => by
    rw [observeItems, List.foldlM_cons, bind_eq_ok] at hrun
    obtain ⟨next, hnext, hrest⟩ := hrun
    have hitem := Indexed.items (h.item hnext) hrest
    rw [turnId_observeResponseItem hnext] at hitem
    exact hitem

theorem indexed_observeItems {turnId : String} {items : List Json} {b : TurnBuilder}
    (h : observeItems redact { turnId } items = .ok b) : Indexed (callLog redact turnId items) b := by
  have hnew : Indexed [] { turnId } := by
    refine ⟨rfl, fun callId i => iff_of_false List.not_mem_nil fun hlatest => ?_⟩
    exact absurd hlatest.lt (Nat.not_lt_zero _)
  exact hnew.items h

theorem Indexed.lookup {log : List Call} {b : TurnBuilder} (h : Indexed log b) (callId : String) (i : Nat) :
    b.toolCalls.lookup callId = some i ↔ LatestAt ((retained log).map Call.key) callId i := by
  rw [← h.index]
  constructor
  · intro hlookup
    obtain ⟨before, after, hentries, -⟩ := List.lookup_eq_some_iff.mp hlookup
    rw [hentries]
    simp
  · intro hmem
    cases hlookup : b.toolCalls.lookup callId with
    | none =>
      have hentry := List.lookup_eq_none_iff.mp hlookup _ hmem
      simp at hentry
    | some other =>
      obtain ⟨before, after, hentries, -⟩ := List.lookup_eq_some_iff.mp hlookup
      have hother : (callId, other) ∈ b.toolCalls := by
        rw [hentries]
        simp
      rw [((h.index callId other).mp hother).unique ((h.index callId i).mp hmem)]

/-- **The index of the tool calls.** After any response items every entry of the index lies within
the tools and at the latest call with its id, every id whose latest call is retained has its entry,
and the tools are the last 64 calls with every output at the latest call with its id. -/
theorem toolCalls_point_at_calls {turnId : String} {items : List Json} {b : TurnBuilder}
    (h : observeItems redact { turnId } items = .ok b) :
    (∀ entry ∈ b.toolCalls, entry.2 < b.tools.length) ∧
    (∀ callId i, (callId, i) ∈ b.toolCalls ↔
      LatestAt ((retained (callLog redact turnId items)).map Call.key) callId i) ∧
    (∀ callId i, b.toolCalls.lookup callId = some i ↔
      LatestAt ((retained (callLog redact turnId items)).map Call.key) callId i) ∧
    b.tools = (retained (callLog redact turnId items)).map Call.fact := by
  have hindexed := indexed_observeItems h
  refine ⟨fun entry hentry => ?_, hindexed.index, hindexed.lookup, hindexed.tools⟩
  have hlt := ((hindexed.index entry.1 entry.2).mp hentry).lt
  rwa [List.length_map, ← List.length_map Call.fact, ← hindexed.tools] at hlt

def toolCall (callId : String) : Json :=
  .object [("type", .string "function_call"), ("name", .string "ls"), ("call_id", .string callId)]

def toolOutput (callId : String) : Json :=
  .object [("type", .string "function_call_output"), ("call_id", .string callId)]

/-- One call more than are kept, then the outputs of the first, which is evicted, and of the last. -/
def evictingTurn : List Json :=
  (List.range 65).map (fun i => toolCall (toString i)) ++ [toolOutput "0", toolOutput "64"]

/-- The list after the turn. -/
def lastTools : List ToolFact :=
  List.replicate 63 ⟨"ls".toList, "requested".toList⟩ ++ [⟨"ls".toList, "completed".toList⟩]

theorem toolCalls_point_at_calls_output :
    ∃ b, observeItems id { turnId := "t" } evictingTurn = .ok b ∧ b.tools = lastTools ∧
      b.toolCalls.lookup "0" = none ∧ b.toolCalls.lookup "64" = some 63 ∧
      LatestAt ((retained (callLog id "t" evictingTurn)).map Call.key) "64" 63 ∧
      lastTools = (retained (callLog id "t" evictingTurn)).map Call.fact := by
  have hrun : ∃ b, observeItems id { turnId := "t" } evictingTurn = .ok b ∧ b.tools = lastTools ∧
      b.toolCalls.lookup "0" = none ∧ b.toolCalls.lookup "64" = some 63 := by
    have hdecides : (observeItems id { turnId := "t" } evictingTurn).toOption.any (fun b =>
        b.tools = lastTools ∧ b.toolCalls.lookup "0" = none ∧
        b.toolCalls.lookup "64" = some 63) = true := by
      decide +kernel
    cases hitems : observeItems id { turnId := "t" } evictingTurn with
    | error e =>
      rw [hitems] at hdecides
      cases hdecides
    | ok b =>
      rw [hitems] at hdecides
      exact ⟨b, rfl, of_decide_eq_true hdecides⟩
  obtain ⟨b, hitems, htools, hevicted, hretained⟩ := hrun
  have hindex := toolCalls_point_at_calls hitems
  exact ⟨b, hitems, htools, hevicted, hretained, (hindex.2.2.1 "64" 63).mp hretained, htools ▸ hindex.2.2.2⟩

end CodexKeyboard.Observer
