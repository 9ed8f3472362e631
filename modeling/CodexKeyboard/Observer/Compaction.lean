import CodexKeyboard.Lib.CharBoundary
import CodexKeyboard.Observer.PackSize
/-!
# Compaction on bytes

`compact_text` and `compact_messages` (rollout_observer.rs:1071-1101) cut texts at byte positions
that `utf8_floor` and `utf8_ceil` move to a character boundary; a slice off a boundary would panic
(`none`). On the bytes of a text they do what `compactText` and `compactMessages` say of its
characters, so no slice fails.

| here | there |
| --- | --- |
| `compactWithinBytes` | `compact_messages` (rollout_observer.rs:1071), its budget a parameter |
| `compactBytes` | `compact_text` (rollout_observer.rs:1086) |
| `utf8Floor`, `utf8Ceil` | `utf8_floor`, `utf8_ceil` (rollout_observer.rs:1103, 1111) |
-/

namespace CodexKeyboard.Observer

open Lib

/-- `while index > 0 && !text.is_char_boundary(index)`. -/
def floorFrom (bytes : List UInt8) : Nat → Nat
  | 0 => 0
  | index + 1 => if isCharBoundary bytes (index + 1) then index + 1 else floorFrom bytes index

/-- `utf8_floor`. -/
def utf8Floor (bytes : List UInt8) (index : Nat) : Nat := floorFrom bytes (min index bytes.length)

/-- `while index < text.len() && !text.is_char_boundary(index)`. -/
def ceilFrom (bytes : List UInt8) (index : Nat) : Nat :=
  if index < bytes.length ∧ isCharBoundary bytes index = false then ceilFrom bytes (index + 1) else index
termination_by bytes.length - index

/-- `utf8_ceil`. -/
def utf8Ceil (bytes : List UInt8) (index : Nat) : Nat := ceilFrom bytes (min index bytes.length)

/-- `compact_text`. -/
def compactBytes (text : List UInt8) (maxBytes : Nat) : Option (List UInt8) :=
  let marker := utf8 truncationMarker
  if text.length ≤ maxBytes then some text
  else if maxBytes ≤ marker.length then sliceTo marker maxBytes
  else
    let available := maxBytes - marker.length
    let headBudget := available / 3
    let tailBudget := available - headBudget
    let headEnd := utf8Floor text headBudget
    let tailStart := utf8Ceil text (text.length - tailBudget)
    do
      let head ← sliceTo text headEnd
      let tail ← sliceFrom text tailStart
      some (head ++ marker ++ tail)

/-- The loop of `compact_messages`. -/
def compactNewestBytes (remaining : Nat) : List (List UInt8) → Option (List (List UInt8))
  | [] => some []
  | message :: older =>
    if remaining = 0 then some []
    else do
      let message ← compactBytes message (min remaining maxTextBytes)
      let older ← compactNewestBytes (remaining - message.length) older
      some (message :: older)

/-- `compact_messages` with the budget `MAX_TEXT_BYTES_PER_ROLE` as an argument. -/
def compactWithinBytes (budget : Nat) (messages : List (List UInt8)) : Option (List (List UInt8)) :=
  (compactNewestBytes budget (messages.reverse.take maxMessagesPerRole)).map List.reverse

/-! ## The boundaries that are found -/

theorem length_utf8 (text : List Char) : (utf8 text).length = utf8Len text := by
  induction text with
  | nil => rfl
  | cons c text ih => rw [utf8_cons, List.length_append, ih, String.length_utf8EncodeChar, utf8Len_cons]

/-- `utf8_floor` finds the last boundary up to `index`. -/
theorem floorFrom_spec (bytes : List UInt8) : ∀ index, isCharBoundary bytes (floorFrom bytes index) = true ∧
    floorFrom bytes index ≤ index ∧ ∀ other ≤ index, isCharBoundary bytes other = true →
    other ≤ floorFrom bytes index
  | 0 => ⟨rfl, Nat.le_refl _, fun _ hle _ => hle⟩
  | index + 1 => by
    unfold floorFrom
    by_cases hhere : isCharBoundary bytes (index + 1) = true
    · rw [if_pos hhere]
      exact ⟨hhere, Nat.le_refl _, fun _ hle _ => hle⟩
    · rw [if_neg hhere]
      obtain ⟨hboundary, hle, hlast⟩ := floorFrom_spec bytes index
      refine ⟨hboundary, by omega, fun other hother hother' => ?_⟩
      have hne : other ≠ index + 1 := fun heq => hhere (heq ▸ hother')
      exact hlast other (by omega) hother'

/-- `utf8_ceil` finds the first boundary from `index` on. -/
theorem ceilFrom_spec (bytes : List UInt8) (index : Nat) (hindex : index ≤ bytes.length)
    (hend : isCharBoundary bytes bytes.length = true) : isCharBoundary bytes (ceilFrom bytes index) = true ∧
    index ≤ ceilFrom bytes index ∧ ∀ other, index ≤ other → isCharBoundary bytes other = true →
    ceilFrom bytes index ≤ other := by
  unfold ceilFrom
  by_cases hgo : index < bytes.length ∧ isCharBoundary bytes index = false
  · rw [if_pos hgo]
    obtain ⟨hboundary, hle, hfirst⟩ := ceilFrom_spec bytes (index + 1) hgo.1 hend
    refine ⟨hboundary, by omega, fun other hother hother' => ?_⟩
    have hne : other ≠ index := fun heq => by simp [heq, hgo.2] at hother'
    exact hfirst other (by omega) hother'
  · rw [if_neg hgo]
    refine ⟨?_, Nat.le_refl _, fun other hother _ => hother⟩
    by_cases hlt : index < bytes.length
    · exact Bool.not_eq_false _ ▸ fun hclear => hgo ⟨hlt, hclear⟩
    · rwa [show index = bytes.length by omega]
termination_by bytes.length - index

/-- No longer beginning of the text fits. -/
theorem fitting_longest : ∀ {room : Nat} {before after : List Char}, utf8Len before ≤ room →
    before <+: fitting room (before ++ after)
  | _, [], _, _ => List.nil_prefix
  | room, c :: before, after, h => by
    rw [utf8Len_cons] at h
    rw [List.cons_append, fitting, if_pos (by omega), List.cons_prefix_cons]
    exact ⟨rfl, fitting_longest (by omega)⟩

theorem utf8Len_le_of_prefix {short long : List Char} (h : short <+: long) :
    utf8Len short ≤ utf8Len long := by
  obtain ⟨rest, rfl⟩ := h
  rw [utf8Len_append]
  exact Nat.le_add_right ..

theorem utf8Floor_utf8 (text : List Char) (room : Nat) :
    utf8Floor (utf8 text) room = utf8Len (fitting room text) := by
  obtain ⟨hboundary, hle, hlast⟩ := floorFrom_spec (utf8 text) (min room (utf8 text).length)
  have hfits := utf8Len_fitting_le text room
  have hsplit := fitting_append_drop text room
  have hlength := congrArg utf8Len hsplit
  rw [utf8Len_append] at hlength
  rw [← utf8Floor] at hboundary hle hlast
  rw [length_utf8] at hle hlast
  apply Nat.le_antisymm
  · obtain ⟨before, after, htext, hbefore⟩ := isCharBoundary_utf8.mp hboundary
    rw [length_utf8] at hbefore
    have hroom : utf8Len before ≤ room := by omega
    have hprefix := utf8Len_le_of_prefix (@fitting_longest _ _ after hroom)
    rw [← htext] at hprefix
    omega
  · apply hlast
    · omega
    · exact isCharBoundary_utf8.mpr ⟨_, _, hsplit.symm, length_utf8 _⟩

theorem fittingEnd_split (room : Nat) (text : List Char) :
    ∃ before, text = before ++ fittingEnd room text := by
  have hsplit := congrArg List.reverse (fitting_append_drop text.reverse room)
  rw [List.reverse_append, List.reverse_reverse] at hsplit
  exact ⟨_, hsplit.symm⟩

theorem fittingEnd_longest {room : Nat} {before after : List Char} (h : utf8Len after ≤ room) :
    utf8Len after ≤ utf8Len (fittingEnd room (before ++ after)) := by
  have hprefix := utf8Len_le_of_prefix (@fitting_longest _ _ before.reverse (utf8Len_reverse after ▸ h))
  rwa [← List.reverse_append, utf8Len_reverse, ← utf8Len_reverse (fitting room _), ← fittingEnd] at hprefix

theorem utf8Ceil_utf8 (text : List Char) (room : Nat) :
    utf8Ceil (utf8 text) (utf8Len text - room) + utf8Len (fittingEnd room text) = utf8Len text := by
  have hend : isCharBoundary (utf8 text) (utf8 text).length = true :=
    isCharBoundary_utf8.mpr ⟨text, [], by simp, rfl⟩
  obtain ⟨hboundary, hle, hfirst⟩ :=
    ceilFrom_spec (utf8 text) (min (utf8Len text - room) (utf8 text).length) (Nat.min_le_right ..) hend
  obtain ⟨before, htext⟩ := fittingEnd_split room text
  have hlength := congrArg utf8Len htext
  have hfits := utf8Len_fittingEnd_le room text
  rw [utf8Len_append] at hlength
  rw [← utf8Ceil] at hboundary hle hfirst
  rw [length_utf8] at hle hfirst
  apply Nat.le_antisymm
  · have hlast :=
      hfirst (utf8Len before) (by omega) (isCharBoundary_utf8.mpr ⟨before, _, htext, length_utf8 _⟩)
    omega
  · obtain ⟨before', after', htext', hbefore'⟩ := isCharBoundary_utf8.mp hboundary
    rw [length_utf8] at hbefore'
    have hlength' := congrArg utf8Len htext'
    rw [utf8Len_append] at hlength'
    have hlongest := @fittingEnd_longest _ before' _ (show utf8Len after' ≤ room by omega)
    rw [← htext'] at hlongest
    omega

/-! ## `compact_text` -/

/-- On the bytes of a text `compact_text` takes no slice off a boundary, and does what `compactText`
says. -/
theorem compactBytes_utf8 (text : List Char) (maxBytes : Nat) :
    compactBytes (utf8 text) maxBytes = some (utf8 (compactText text maxBytes)) := by
  have hmarker : (utf8 truncationMarker).length = utf8Len truncationMarker := length_utf8 truncationMarker
  unfold compactBytes compactText
  dsimp only
  rw [length_utf8, hmarker]
  by_cases hshort : utf8Len text ≤ maxBytes
  · rw [if_pos hshort, if_pos hshort]
  rw [if_neg hshort, if_neg hshort]
  by_cases hnarrow : maxBytes ≤ utf8Len truncationMarker
  · rw [if_pos hnarrow, if_pos hnarrow]
    have hall :
      ∀ n ≤ 13, sliceTo (utf8 truncationMarker) n = some (utf8 (truncationMarker.take n)) := by
      decide +kernel
    exact hall maxBytes hnarrow
  rw [if_neg hnarrow, if_neg hnarrow]
  generalize (maxBytes - utf8Len truncationMarker) / 3 = headBudget
  generalize maxBytes - utf8Len truncationMarker - headBudget = tailBudget
  have hhead :
    sliceTo (utf8 text) (utf8Floor (utf8 text) headBudget) = some (utf8 (fitting headBudget text)) := by
    have hslice := sliceTo_utf8 (fitting headBudget text) (text.drop (fitting headBudget text).length)
    rw [fitting_append_drop, length_utf8] at hslice
    rw [utf8Floor_utf8, hslice]
  have htail : sliceFrom (utf8 text) (utf8Ceil (utf8 text) (utf8Len text - tailBudget)) =
      some (utf8 (fittingEnd tailBudget text)) := by
    obtain ⟨before, htext⟩ := fittingEnd_split tailBudget text
    have hceil := utf8Ceil_utf8 text tailBudget
    have hlength := congrArg utf8Len htext
    rw [utf8Len_append] at hlength
    have hslice := sliceFrom_utf8 before (fittingEnd tailBudget text)
    rw [← htext, length_utf8] at hslice
    rw [show utf8Ceil (utf8 text) (utf8Len text - tailBudget) = utf8Len before by omega, hslice]
  rw [hhead, htail]
  simp only [Option.bind_eq_bind, Option.bind_some, utf8_append]

/-- What is kept of a long text does not overlap. -/
theorem compactText_split {text : List Char} {maxBytes : Nat}
    (hmarker : utf8Len truncationMarker < maxBytes)
    (hlong : maxBytes < utf8Len text) : ∃ head middle tail, text = head ++ middle ++ tail ∧
      compactText text maxBytes = head ++ truncationMarker ++ tail := by
  unfold compactText
  rw [if_neg (Nat.not_le_of_lt hlong), if_neg (Nat.not_le_of_lt hmarker)]
  dsimp only
  have hhead := utf8Len_fitting_le text ((maxBytes - utf8Len truncationMarker) / 3)
  have htail := utf8Len_fittingEnd_le
    (maxBytes - utf8Len truncationMarker - (maxBytes - utf8Len truncationMarker) / 3) text
  obtain ⟨before, hbefore⟩ := fittingEnd_split
    (maxBytes - utf8Len truncationMarker - (maxBytes - utf8Len truncationMarker) / 3) text
  have hafter := fitting_append_drop text ((maxBytes - utf8Len truncationMarker) / 3)
  generalize fitting ((maxBytes - utf8Len truncationMarker) / 3) text = head at *
  generalize fittingEnd _ text = tail at *
  have hlength := congrArg utf8Len hbefore
  rw [utf8Len_append] at hlength
  -- the head is shorter than what stands before the tail
  have hprefix : head <+: before := by
    have hhead : head <+: text := ⟨_, hafter⟩
    rcases List.prefix_or_prefix_of_prefix hhead ⟨_, hbefore.symm⟩ with hprefix | hprefix
    · exact hprefix
    · have hle := utf8Len_le_of_prefix hprefix
      omega
  obtain ⟨middle, rfl⟩ := hprefix
  exact ⟨head, middle, tail, hbefore, rfl⟩

/-! ## `compact_messages` -/

theorem compactNewestBytes_utf8 : ∀ (messages : List (List Char)) (remaining : Nat),
    compactNewestBytes remaining (messages.map utf8) = some ((compactNewest remaining messages).map utf8)
  | [], _ => rfl
  | message :: older, remaining => by
    rw [List.map_cons, compactNewestBytes, compactNewest]
    by_cases hzero : remaining = 0
    · rw [if_pos hzero, if_pos hzero]
      rfl
    rw [if_neg hzero, if_neg hzero, compactBytes_utf8]
    simp only [Option.bind_eq_bind, Option.bind_some, length_utf8,
      compactNewestBytes_utf8 older, List.map_cons]

/-- Each limit is what the messages in front of it left of the budget, or `MAX_TEXT_BYTES` where
that is less. -/
def LimitsFrom (remaining : Nat) (limits : List Nat) (compacted : List (List Char)) : Prop :=
  ∀ i limit, limits[i]? = some limit →
    limit = min (remaining - sumOf utf8Len (compacted.take i)) maxTextBytes ∧ 0 < limit

theorem LimitsFrom.cons {remaining : Nat} {limits : List Nat} {message : List Char}
    {compacted : List (List Char)}
    (hpos : 0 < remaining) (h : LimitsFrom (remaining - utf8Len message) limits compacted) :
    LimitsFrom remaining (min remaining maxTextBytes :: limits) (message :: compacted) := by
  intro i limit hi
  cases i with
  | zero =>
    obtain rfl := Option.some.inj hi
    have hmax : 0 < maxTextBytes := by decide
    exact ⟨rfl, Nat.lt_min.mpr ⟨hpos, hmax⟩⟩
  | succ i =>
    rw [List.getElem?_cons_succ] at hi
    rw [List.take_succ_cons, sumOf, ← Nat.sub_sub]
    exact h i limit hi

/-- The messages that are kept, and the limit each was cut to; one that is not kept found the budget
used up. -/
theorem compactNewest_spec : ∀ (messages : List (List Char)) (remaining : Nat), ∃ kept limits,
    kept <+: messages ∧ limits.length = kept.length ∧
    LimitsFrom remaining limits (compactNewest remaining messages) ∧
      compactNewest remaining messages = List.zipWith compactText kept limits ∧
      (kept = messages ∨ sumOf utf8Len (compactNewest remaining messages) = remaining)
  | [], _ => ⟨[], [], List.nil_prefix, rfl, fun i limit hi => by simp at hi, rfl, .inl rfl⟩
  | message :: older, remaining => by
    rw [compactNewest]
    by_cases hzero : remaining = 0
    · rw [if_pos hzero]
      exact ⟨[], [], List.nil_prefix, rfl, fun i limit hi => by simp at hi, rfl, .inr hzero.symm⟩
    rw [if_neg hzero]
    obtain ⟨kept, limits, hprefix, hlength, hlimits, heq, hall⟩ :=
      compactNewest_spec older (remaining - utf8Len (compactText message (min remaining maxTextBytes)))
    have hfits := utf8Len_compactText_le message (min remaining maxTextBytes)
    refine ⟨message :: kept, min remaining maxTextBytes :: limits, ?_, ?_, ?_, ?_, ?_⟩
    · rw [List.cons_prefix_cons]
      exact ⟨rfl, hprefix⟩
    · rw [List.length_cons, List.length_cons, hlength]
    · exact hlimits.cons (Nat.pos_of_ne_zero hzero)
    · simp only [List.zipWith_cons_cons, heq]
    · rcases hall with hall | hspent
      · exact .inl (hall ▸ rfl)
      · refine .inr ?_
        rw [sumOf, hspent]
        omega

/-- The last `MAX_MESSAGES_PER_ROLE` messages. -/
def lastMessages (messages : List (List Char)) : List (List Char) :=
  (messages.reverse.take maxMessagesPerRole).reverse

/-- The same limits, the oldest message first. -/
theorem LimitsFrom.reverse {budget : Nat} {limits : List Nat} {compacted : List (List Char)}
    (h : LimitsFrom budget limits compacted) (hlength : limits.length = compacted.length) :
    ∀ i limit, limits.reverse[i]? = some limit →
      limit = min (budget - sumOf utf8Len (compacted.reverse.drop (i + 1))) maxTextBytes ∧ 0 < limit := by
  intro i limit hi
  have hlt : i < limits.length :=
    (List.length_reverse : limits.reverse.length = limits.length) ▸ (List.getElem?_eq_some_iff.mp hi).1
  rw [List.getElem?_reverse hlt] at hi
  rw [List.drop_reverse, sumOf_reverse, ← hlength,
    show limits.length - (i + 1) = limits.length - 1 - i by omega]
  exact h _ limit hi

/-- The messages are compacted from the newest one on. -/
theorem compactWithinBytes_map (budget : Nat) (messages : List (List Char)) :
    compactWithinBytes budget (messages.map utf8) =
    some ((compactNewest budget (messages.reverse.take maxMessagesPerRole)).reverse.map utf8) := by
  rw [compactWithinBytes, ← List.map_reverse, ← List.map_take, compactNewestBytes_utf8,
    Option.map_some, List.map_reverse]

theorem compactWithinBytes_utf8 (budget : Nat) (messages : List (List Char)) : ∃ kept limits,
    kept <:+ lastMessages messages ∧ limits.length = kept.length ∧
      (∀ i limit, limits[i]? = some limit → limit =
        min (budget - sumOf utf8Len ((List.zipWith compactText kept limits).drop (i + 1)))
          maxTextBytes ∧ 0 < limit) ∧
      compactWithinBytes budget (messages.map utf8) =
        some ((List.zipWith compactText kept limits).map utf8) ∧
      sumOf utf8Len (List.zipWith compactText kept limits) ≤ budget ∧
      (kept = lastMessages messages ∨ sumOf utf8Len (List.zipWith compactText kept limits) = budget) := by
  obtain ⟨kept, limits, hprefix, hlength, hlimits, heq, hall⟩ :=
    compactNewest_spec (messages.reverse.take maxMessagesPerRole) budget
  have hbudget := sumOf_compactNewest_le (messages.reverse.take maxMessagesPerRole) budget
  have hreverse :
    List.zipWith compactText kept.reverse limits.reverse = (List.zipWith compactText kept limits).reverse :=
    (List.reverse_zipWith hlength.symm).symm
  refine ⟨kept.reverse, limits.reverse, ?_, ?_, ?_, ?_, ?_, ?_⟩
  · rw [lastMessages]
    exact List.reverse_suffix.mpr hprefix
  · rw [List.length_reverse, List.length_reverse, hlength]
  · rw [hreverse]
    rw [heq] at hlimits
    exact hlimits.reverse (by rw [List.length_zipWith, hlength, Nat.min_self])
  · rw [compactWithinBytes_map, heq, hreverse]
  · rw [hreverse, sumOf_reverse, ← heq]
    exact hbudget
  · rw [hreverse, sumOf_reverse, ← heq]
    rcases hall with hall | hspent
    · exact .inl (hall ▸ rfl)
    · exact .inr hspent

/-- **Compaction keeps its budgets.** The messages that are kept are the last ones, in their order,
each the image of `compact_text` at what the newer ones left of the budget, but `MAX_TEXT_BYTES` at
most, and together no longer than the budget (all of it where one of the last messages is left out);
and `compact_text` takes no slice off a character boundary, stays within its limit, leaves a text
that fits, and otherwise keeps a beginning and an end of it that do not overlap. -/
theorem compaction_within_budget :
    (∀ (budget : Nat) (messages : List (List Char)), ∃ kept limits,
      kept <:+ lastMessages messages ∧ limits.length = kept.length ∧
      (∀ i limit, limits[i]? = some limit → limit =
        min (budget - sumOf utf8Len ((List.zipWith compactText kept limits).drop (i + 1)))
          maxTextBytes ∧ 0 < limit) ∧
      compactWithinBytes budget (messages.map utf8) =
        some ((List.zipWith compactText kept limits).map utf8) ∧
      sumOf utf8Len (List.zipWith compactText kept limits) ≤ budget ∧
      (kept = lastMessages messages ∨ sumOf utf8Len (List.zipWith compactText kept limits) = budget)) ∧
    ∀ (text : List Char) (maxBytes : Nat),
      compactBytes (utf8 text) maxBytes = some (utf8 (compactText text maxBytes)) ∧
      (utf8 (compactText text maxBytes)).length ≤ maxBytes ∧
      (utf8Len text ≤ maxBytes → compactText text maxBytes = text) ∧
      (utf8Len truncationMarker < maxBytes → maxBytes < utf8Len text → ∃ head middle tail,
        text = head ++ middle ++ tail ∧ compactText text maxBytes = head ++ truncationMarker ++ tail) := by
  refine ⟨compactWithinBytes_utf8, fun text maxBytes => ⟨?_, ?_, ?_, ?_⟩⟩
  · exact compactBytes_utf8 text maxBytes
  · rw [length_utf8]
    exact utf8Len_compactText_le text maxBytes
  · intro hshort
    rw [compactText, if_pos hshort]
  · exact compactText_split

/-- Of three messages the last fits, the one before is cut to the rest of the budget, and the first
is left out. -/
theorem compaction_within_budget_three :
    (∃ kept limits, kept <:+ lastMessages ["first".toList, List.replicate 40 'é', "last".toList] ∧
      (List.zipWith compactText kept limits).map utf8 =
        [List.replicate 2 'é' ++ truncationMarker ++ List.replicate 5 'é', "last".toList].map utf8 ∧
      sumOf utf8Len (List.zipWith compactText kept limits) ≤ 31) ∧
    ∃ head middle tail, List.replicate 40 'é' = head ++ middle ++ tail ∧
      compactText (List.replicate 40 'é') 27 = head ++ truncationMarker ++ tail := by
  refine ⟨?_, (compaction_within_budget.2 (List.replicate 40 'é') 27).2.2.2 (by decide) (by decide)⟩
  obtain ⟨kept, limits, hsuffix, -, -, heq, hbudget, -⟩ :=
    compaction_within_budget.1 31 ["first".toList, List.replicate 40 'é', "last".toList]
  have hnewest : (compactNewest 31
      (["first".toList, List.replicate 40 'é', "last".toList].reverse.take maxMessagesPerRole)).reverse =
      [List.replicate 2 'é' ++ truncationMarker ++ List.replicate 5 'é', "last".toList] := by
    decide +kernel
  rw [compactWithinBytes_map, hnewest] at heq
  exact ⟨kept, limits, hsuffix, (Option.some.inj heq).symm, hbudget⟩

end CodexKeyboard.Observer
