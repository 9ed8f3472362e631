import CodexKeyboard.Keyboard.AudioIoArbiter
/-!
# The speaker and the microphone exclude each other

A speaker call that returns true has seen no microphone after its reservation, so the microphone
that is there now was requested later; a microphone is ready only when it has seen no speaker after
that, so the reservation was finished. The invariant `Exclusive` says that a reservation which is
not finished is in the speaker word, and that only its own call may take it back: for this the
generations of the speaker calls in flight have to be different.
-/

namespace CodexKeyboard.Keyboard

open Lib Lib.Interleaving

namespace AudioIoArbiter

/-- A speaker call that has reserved and may find a microphone yet. -/
def unsettled : At → Bool
  | .running .speakerRecheck => true
  | .running .speakerRevoke => true
  | _ => false

/-- A speaker call that has found no microphone. -/
def settled : At → Bool
  | .running (.leave true) => true
  | .returned true => true
  | _ => false

/-- Behind the reservation. -/
def reserved : At → Bool
  | .running .speakerRecheck => true
  | .running .speakerRevoke => true
  | .running (.leave _) => true
  | .returned _ => true
  | _ => false

/-- Behind the first load of a ready call. -/
def seen : At → Bool
  | .running .readyPower => true
  | .running .readySpeaker => true
  | .returned _ => true
  | _ => false

variable {w : Words} {call : Call} {frame : Frame} {spurious : Bool}

theorem unsettled_operate (h : unsettled (operate w call frame spurious).2 = true) :
    frame = .speakerReserve ∧ w.speakerGeneration = 0 ∨ frame = .speakerRecheck := by
  cases frame with
  | speakerReserve =>
    rw [operate] at h
    split at h
    · rename_i hfree
      exact .inl ⟨rfl, hfree⟩
    · cases h
  | speakerRecheck => exact .inr rfl
  | enterLoad =>
    rw [operate] at h
    rcases enter_cases w.runtimeTransitionGate with hnext | ⟨hnext, -⟩ <;> rw [hnext] at h <;> cases h
  | enterExchange state =>
    rw [operate] at h
    split at h
    · cases call <;> cases h
    · rcases enter_cases w.runtimeTransitionGate with hnext | ⟨hnext, -⟩ <;> rw [hnext] at h <;> cases h
  | _ =>
    rw [operate] at h
    repeat' split at h
    all_goals cases h

/-- A call that has reserved stays behind its reservation. -/
theorem reserved_operate (h : reserved (.running frame) = true) :
    reserved (operate w call frame spurious).2 = true := by
  cases frame with
  | speakerRecheck =>
    rw [operate]
    split <;> rfl
  | speakerRevoke => rfl
  | leave accepted => rfl
  | _ => cases h

theorem seen_operate (h : seen (.running frame) = true) :
    seen (operate w call frame spurious).2 = true := by
  cases frame with
  | readyPower =>
    rw [operate]
    split <;> rfl
  | readySpeaker => rfl
  | _ => cases h

/-- A call that has reserved is settled only if it finds no microphone, or was settled before. -/
theorem settled_operate (hreserved : reserved (.running frame) = true)
    (h : settled (operate w call frame spurious).2 = true) :
    frame = .speakerRecheck ∧ w.microphoneGeneration = 0 ∨ frame = .leave true := by
  cases frame with
  | speakerRecheck =>
    refine .inl ⟨rfl, ?_⟩
    rw [operate] at h
    by_contra hmicrophone
    rw [if_pos hmicrophone] at h
    cases h
  | speakerRevoke => cases h
  | leave accepted =>
    cases accepted with
    | true => exact .inr rfl
    | false => cases h
  | _ => cases hreserved

/-- A ready call returns true only if it finds no speaker. -/
theorem ready_operate (hseen : seen (.running frame) = true)
    (h : (operate w call frame spurious).2 = .returned true) :
    w.speakerGeneration = 0 := by
  cases frame with
  | readyPower =>
    rw [operate] at h
    split at h <;> cases h
  | readySpeaker =>
    rw [operate] at h
    simpa using h
  | _ => cases hseen

/-- Only a speaker call is unsettled. -/
theorem speaker_of_unsettled (hdoes : call.does frame = true) (h : unsettled (.running frame) = true) :
    ∃ generation, call = .tryBeginSpeaker generation := by
  cases frame with
  | speakerRecheck => cases call <;> first | exact ⟨_, rfl⟩ | exact absurd hdoes Bool.false_ne_true
  | speakerRevoke => cases call <;> first | exact ⟨_, rfl⟩ | exact absurd hdoes Bool.false_ne_true
  | _ => cases h

/-! ## The invariant -/

structure Exclusive (entries : List Operation) (s : State) : Prop where
  stands : ∀ (id : Nat) call at', s.calls[id]? = some (call, at') → Stands call at'
  /-- The speaker calls that are not back have different generations. -/
  distinct :
    ∀ (i j : Nat) generation frame frame', s.calls[i]? =
    some (.tryBeginSpeaker generation, .running frame) →
    s.calls[j]? = some (.tryBeginSpeaker generation, .running frame') → i = j
  afterReserve : ∀ id, (∃ entry ∈ entries, Reserved id entry) →
    ∃ call at', s.calls[id]? = some (call, at') ∧ reserved at' = true
  afterSeen : ∀ id, (∃ entry ∈ entries, Seen id entry) →
    ∃ call at', s.calls[id]? = some (call, at') ∧ seen at' = true
  /-- A reservation that is neither finished nor taken back is in the word, and no other call may take
  it back. -/
  owner : ∀ (id : Nat) generation at', s.calls[id]? = some (.tryBeginSpeaker generation, at') →
    unsettled at' = true ∨ settled at' = true → Since (Reserved id) (SpeakerFinished generation) entries →
    generation ≠ 0 ∧ s.memory.speakerGeneration = generation ∧
      ∀ (other : Nat) call at'', other ≠ id → s.calls[other]? = some (call, at'') →
      call.generation = generation → unsettled at'' = false
  /-- The microphone that a call saw is there. -/
  microphone : ∀ (id : Nat) generation at', s.calls[id]? = some (.microphoneHardwareReady generation, at') →
    Since (Seen id) MicrophoneOver entries → s.memory.microphoneGeneration ≠ 0
  apart :
    ∀ (i j : Nat) generation generation' at', s.calls[i]? = some (.tryBeginSpeaker generation, at') →
    settled at' = true →
    Since (Reserved i) (SpeakerFinished generation) entries →
    s.calls[j]? = some (.microphoneHardwareReady generation', .returned true) →
    Since (Seen j) MicrophoneOver entries → False

theorem exclusive_new : Exclusive [] { memory := {} } := by
  refine ⟨nofun, nofun, ?_, ?_, nofun, nofun, nofun⟩
  · rintro id ⟨entry, hentry, -⟩
    cases hentry
  · rintro id ⟨entry, hentry, -⟩
    cases hentry

theorem first_unsettled (call : Call) : unsettled (first call) = false := by
  cases call <;> rw [first] <;> first | rfl | (split <;> rfl)

/-- One more call. -/
theorem Exclusive.called {entries : List Operation} {s : State} (h : Exclusive entries s) {call : Call}
    (hfresh : FreshGenerations s (.call call)) :
    Exclusive entries { s with calls := s.calls ++ [(call, first call)] } := by
  have hnone : s.calls[s.calls.length]? = none := List.getElem?_eq_none (Nat.le_refl _)
  have hreserved : ¬ ∃ entry ∈ entries, Reserved s.calls.length entry := by
    intro hsome
    obtain ⟨_, _, hcall, -⟩ := h.afterReserve _ hsome
    rw [hnone] at hcall
    cases hcall
  have hseen : ¬ ∃ entry ∈ entries, Seen s.calls.length entry := by
    intro hsome
    obtain ⟨_, _, hcall, -⟩ := h.afterSeen _ hsome
    rw [hnone] at hcall
    cases hcall
  have hkept : ∀ {id : Nat} {found : Call × At}, s.calls[id]? = some found →
    (s.calls ++ [(call, first call)])[id]? = some found := by
    intro id found hfound
    rw [List.getElem?_append_left (List.getElem?_eq_some_iff.mp hfound).1]
    exact hfound
  -- a speaker call that is not back does not have the generation of the new one
  have hother : ∀ {id : Nat} {generation : UInt32} {frame : Frame},
      s.calls[id]? = some (.tryBeginSpeaker generation, .running frame) →
      call ≠ .tryBeginSpeaker generation := by
    rintro id generation frame hcall rfl
    have hback := hfresh _ (List.mem_of_getElem? hcall) rfl
    cases hback
  refine ⟨?_, ?_, ?_, ?_, ?_, ?_, ?_⟩
  · intro id call' at' hcall
    rcases getElem?_called hcall with hold | ⟨-, hnew⟩
    · exact h.stands id call' at' hold
    · obtain ⟨rfl, rfl⟩ := Prod.mk.inj hnew
      exact stands_first call'
  · intro i j generation frame frame' hi hj
    rcases getElem?_called hi with hi | ⟨rfl, hnewi⟩ <;> rcases getElem?_called hj with hj | ⟨rfl, hnewj⟩
    · exact h.distinct i j generation frame frame' hi hj
    · exact absurd (Prod.mk.inj hnewj).1.symm (hother hi)
    · exact absurd (Prod.mk.inj hnewi).1.symm (hother hj)
    · rfl
  · intro id hsome
    obtain ⟨call', at', hcall, hbehind⟩ := h.afterReserve id hsome
    exact ⟨call', at', hkept hcall, hbehind⟩
  · intro id hsome
    obtain ⟨call', at', hcall, hbehind⟩ := h.afterSeen id hsome
    exact ⟨call', at', hkept hcall, hbehind⟩
  · intro id generation at' hcall hat hsince
    rcases getElem?_called hcall with hold | ⟨rfl, -⟩
    · obtain ⟨hne, hword, hothers⟩ := h.owner id generation at' hold hat hsince
      refine ⟨hne, hword, fun other call' at'' hneq hcall' hgeneration => ?_⟩
      rcases getElem?_called hcall' with hold' | ⟨-, hnew⟩
      · exact hothers other call' at'' hneq hold' hgeneration
      · rw [(Prod.mk.inj hnew).2]
        exact first_unsettled call
    · exact absurd hsince.exists hreserved
  · intro id generation at' hcall hsince
    rcases getElem?_called hcall with hold | ⟨rfl, -⟩
    · exact h.microphone id generation at' hold hsince
    · exact absurd hsince.exists hseen
  · intro i j generation generation' at' hi hat hsince hj hsince'
    rcases getElem?_called hi with hi | ⟨rfl, -⟩
    · rcases getElem?_called hj with hj | ⟨rfl, -⟩
      · exact h.apart i j generation generation' at' hi hat hsince hj hsince'
      · exact absurd hsince'.exists hseen
    · exact absurd hsince.exists hreserved

section Done
variable {entries : List Operation} {s : State} {id : Nat}

/-- An owner that is not finished by an operation still owns the word. -/
theorem Exclusive.owner_done (h : Exclusive entries s)
    (hcall : s.calls[id]? = some (call, .running frame)) (spurious : Bool)
    {i : Nat} {generation : UInt32} {at' : At}
    (hi : (s.calls.set id (call, (operate s.memory call frame spurious).2))[i]? =
      some (.tryBeginSpeaker generation, at'))
    (hat : unsettled at' = true ∨ settled at' = true)
    (hsince : Since (Reserved i) (SpeakerFinished generation)
      (entries ++ [⟨id, call, frame, (operate s.memory call frame spurious).2⟩])) :
    generation ≠ 0 ∧ (operate s.memory call frame spurious).1.speakerGeneration = generation ∧
      ∀ (other : Nat) call' at'', other ≠ i →
        (s.calls.set id (call, (operate s.memory call frame spurious).2))[other]? = some (call', at'') →
        call'.generation = generation → unsettled at'' = false := by
  have hmoves := speakerMoves s.memory call frame spurious
  have hunsettled := @unsettled_operate s.memory call frame spurious
  have hstands := h.stands id call (.running frame) hcall
  rcases since_concat.mp hsince with ⟨rfl, hframe, hnext⟩ | ⟨hold, hunfinished⟩
  · -- the reservation: the other speaker calls have other generations
    simp only at hframe hnext
    subst hframe
    rw [getElem?_done hcall, if_pos rfl] at hi
    obtain ⟨rfl, -⟩ := Prod.mk.inj (Option.some.inj hi)
    have hne : generation ≠ 0 := fun hzero => by
      rcases hstands.2 hzero with heq | heq <;> cases heq
    refine ⟨hne, ?_, fun other call' at'' hother hcall' hgeneration => ?_⟩
    · generalize operate s.memory (.tryBeginSpeaker generation) .speakerReserve spurious = result
        at hmoves hnext
      cases hmoves with
      | reserve _ => rfl
      | keep _ hreserve _ => exact absurd hnext hreserve
    · rw [getElem?_done hcall, if_neg hother] at hcall'
      have hstands' := h.stands other call' at'' hcall'
      cases at'' with
      | returned answer => rfl
      | running frame' =>
        cases hunsettled' : unsettled (.running frame') with
        | false => rfl
        | true =>
          obtain ⟨generation', rfl⟩ := speaker_of_unsettled hstands'.1 hunsettled'
          obtain rfl : generation' = generation := hgeneration
          exact absurd (h.distinct _ _ _ _ _ hcall' hcall) hother
  · -- what the owner and the others were before
    have hbefore : generation ≠ 0 ∧ s.memory.speakerGeneration = generation ∧
        (∀ (other : Nat) call' at'', other ≠ i → s.calls[other]? = some (call', at'') →
          call'.generation = generation →
          unsettled at'' = false) ∧ (i = id → frame ≠ .speakerRevoke) := by
      rcases getElem?_done_cases hcall hi with ⟨rfl, hfound⟩ | ⟨hne, hfound⟩
      · obtain ⟨rfl, rfl⟩ := Prod.mk.inj hfound
        obtain ⟨call', before, hcall', hbehind⟩ := h.afterReserve i hold.exists
        rw [hcall] at hcall'
        obtain ⟨-, rfl⟩ := Prod.mk.inj (Option.some.inj hcall')
        have hframe : frame ≠ .speakerRevoke ∧
          (unsettled (.running frame) = true ∨ settled (.running frame) = true) := by
          rcases hat with hat | hat
          · rcases hunsettled hat with ⟨rfl, -⟩ | rfl
            · cases hbehind
            · exact ⟨nofun, .inl rfl⟩
          · rcases settled_operate hbehind hat with ⟨rfl, -⟩ | rfl
            · exact ⟨nofun, .inl rfl⟩
            · exact ⟨nofun, .inr rfl⟩
        obtain ⟨hne, hword, hothers⟩ := h.owner i generation _ hcall hframe.2 hold
        exact ⟨hne, hword, hothers, fun _ => hframe.1⟩
      · obtain ⟨hne0, hword, hothers⟩ := h.owner i generation at' hfound hat hold
        exact ⟨hne0, hword, hothers, fun heq => absurd heq hne⟩
    obtain ⟨hne, hword, hothers, hown⟩ := hbefore
    refine ⟨hne, ?_, fun other call' at'' hother hcall' hgeneration => ?_⟩
    · generalize operate s.memory call frame spurious = result at hmoves hunfinished
      cases hmoves with
      | reserve hfree => exact absurd (hword.symm.trans hfree) hne
      | revoke howner =>
        by_cases hsame : i = id
        · exact absurd rfl (hown hsame)
        · have hfalse := hothers id call _ (Ne.symm hsame) hcall (howner.symm.trans hword)
          cases hfalse
      | finish howner => exact absurd ⟨rfl, howner.symm.trans hword, rfl⟩ hunfinished
      | keep hsame _ _ => exact hsame.trans hword
    · rcases getElem?_done_cases hcall hcall' with ⟨rfl, hfound⟩ | ⟨-, hfound⟩
      · obtain ⟨rfl, rfl⟩ := Prod.mk.inj hfound
        have hquiet := hothers other call' _ hother hcall hgeneration
        cases hafter : unsettled (operate s.memory call' frame spurious).2 with
        | false => rfl
        | true =>
          rcases hunsettled hafter with ⟨-, hfree⟩ | rfl
          · exact absurd (hword.symm.trans hfree) hne
          · cases hquiet
      · exact hothers other call' at'' hother hfound hgeneration

/-- The microphone that a call saw is there until it is over. -/
theorem Exclusive.microphone_done (h : Exclusive entries s)
    (hcall : s.calls[id]? = some (call, .running frame)) (spurious : Bool)
    {j : Nat} {generation : UInt32} {at' : At}
    (hj : (s.calls.set id (call, (operate s.memory call frame spurious).2))[j]? =
      some (.microphoneHardwareReady generation, at'))
    (hsince : Since (Seen j) MicrophoneOver
      (entries ++ [⟨id, call, frame, (operate s.memory call frame spurious).2⟩])) :
    (operate s.memory call frame spurious).1.microphoneGeneration ≠ 0 := by
  rcases since_concat.mp hsince with ⟨rfl, hframe, hnext⟩ | ⟨hold, hthere⟩
  · simp only at hframe hnext
    subst hframe
    rw [getElem?_done hcall, if_pos rfl] at hj
    obtain ⟨rfl, -⟩ := Prod.mk.inj (Option.some.inj hj)
    have hstands := h.stands _ _ _ hcall
    rw [operate] at hnext ⊢
    by_cases hmicrophone :
      s.memory.microphoneGeneration = (Call.microphoneHardwareReady generation).generation
    · rw [hmicrophone]
      intro hzero
      rcases hstands.2 hzero with heq | heq <;> cases heq
    · rw [if_neg hmicrophone] at hnext
      cases hnext
  · have hbefore : s.memory.microphoneGeneration ≠ 0 := by
      rcases getElem?_done_cases hcall hj with ⟨rfl, hfound⟩ | ⟨-, hfound⟩
      · obtain ⟨rfl, -⟩ := Prod.mk.inj hfound
        exact h.microphone _ _ _ hcall hold
      · exact h.microphone j generation at' hfound hold
    have hmoves := microphoneMoves s.memory call frame spurious
    generalize operate s.memory call frame spurious = result at hmoves hthere
    cases hmoves with
    | request => exact absurd (.inl rfl) hthere
    | finish _ => exact absurd (.inr ⟨rfl, rfl⟩) hthere
    | keep hsame => rw [hsame]; exact hbefore

/-- A speaker that is settled and a microphone that is ready stay apart. -/
theorem Exclusive.apart_done (h : Exclusive entries s)
    (hcall : s.calls[id]? = some (call, .running frame)) (spurious : Bool)
    {i j : Nat} {generation generation' : UInt32} {at' : At}
    (hi : (s.calls.set id (call, (operate s.memory call frame spurious).2))[i]? =
      some (.tryBeginSpeaker generation, at'))
    (hat : settled at' = true)
    (hsince : Since (Reserved i) (SpeakerFinished generation)
      (entries ++ [⟨id, call, frame, (operate s.memory call frame spurious).2⟩]))
    (hj : (s.calls.set id (call, (operate s.memory call frame spurious).2))[j]? =
      some (.microphoneHardwareReady generation', .returned true))
    (hsince' : Since (Seen j) MicrophoneOver
      (entries ++ [⟨id, call, frame, (operate s.memory call frame spurious).2⟩])) :
    False := by
  -- neither the reservation nor the first load of the ready call is this operation
  have hspeaker : Since (Reserved i) (SpeakerFinished generation) entries := by
    rcases since_concat.mp hsince with ⟨rfl, -, hnext⟩ | ⟨hold, -⟩
    · rw [getElem?_done hcall, if_pos rfl] at hi
      obtain ⟨-, rfl⟩ := Prod.mk.inj (Option.some.inj hi)
      rw [show (operate s.memory call frame spurious).2 = _ from hnext] at hat
      cases hat
    · exact hold
  have hmicrophone : Since (Seen j) MicrophoneOver entries := by
    rcases since_concat.mp hsince' with ⟨rfl, -, hnext⟩ | ⟨hold, -⟩
    · rw [getElem?_done hcall, if_pos rfl] at hj
      rw [(Prod.mk.inj (Option.some.inj hj)).2] at hnext
      cases hnext
    · exact hold
  have hthere : s.memory.microphoneGeneration ≠ 0 := by
    rcases getElem?_done_cases hcall hj with ⟨rfl, hfound⟩ | ⟨-, hfound⟩
    · obtain ⟨rfl, -⟩ := Prod.mk.inj hfound
      exact h.microphone _ _ _ hcall hmicrophone
    · exact h.microphone j generation' _ hfound hmicrophone
  -- the speaker was settled before
  obtain ⟨before, hbefore, hsettled⟩ :
    ∃ before, s.calls[i]? = some (.tryBeginSpeaker generation, before) ∧ settled before = true := by
    rcases getElem?_done_cases hcall hi with ⟨rfl, hfound⟩ | ⟨-, hfound⟩
    · obtain ⟨rfl, rfl⟩ := Prod.mk.inj hfound
      obtain ⟨call', before, hcall', hbehind⟩ := h.afterReserve i hspeaker.exists
      rw [hcall] at hcall'
      obtain ⟨-, rfl⟩ := Prod.mk.inj (Option.some.inj hcall')
      rcases settled_operate hbehind hat with ⟨-, hgone⟩ | rfl
      · exact absurd hgone hthere
      · exact ⟨_, hcall, rfl⟩
    · exact ⟨at', hfound, hat⟩
  rcases getElem?_done_cases hcall hj with ⟨rfl, hfound⟩ | ⟨-, hfound⟩
  · -- the ready call returns now, and finds no speaker
    obtain ⟨call', before', hcall', hbehind⟩ := h.afterSeen j hmicrophone.exists
    rw [hcall] at hcall'
    obtain ⟨-, rfl⟩ := Prod.mk.inj (Option.some.inj hcall')
    have hfree := ready_operate hbehind (Prod.mk.inj hfound).2.symm
    obtain ⟨hne, hword, -⟩ := h.owner i generation before hbefore (.inr hsettled) hspeaker
    exact hne (hword.symm.trans hfree)
  · exact h.apart i j generation generation' before hbefore hsettled hspeaker hfound hmicrophone

/-- One operation. -/
theorem Exclusive.done (h : Exclusive entries s) (hcall : s.calls[id]? = some (call, .running frame))
    (spurious : Bool) :
    Exclusive (entries ++ [⟨id, call, frame, (operate s.memory call frame spurious).2⟩])
      ⟨(operate s.memory call frame spurious).1,
        s.calls.set id (call, (operate s.memory call frame spurious).2)⟩ := by
  refine ⟨?_, ?_, ?_, ?_, fun _ _ _ hi hat hsince => h.owner_done hcall spurious hi hat hsince,
    fun _ _ _ hj hsince => h.microphone_done hcall spurious hj hsince,
    fun _ _ _ _ _ hi hat hsince hj hsince' => h.apart_done hcall spurious hi hat hsince hj hsince'⟩
  · intro other call' at' hother
    rcases getElem?_done_cases hcall hother with ⟨rfl, hfound⟩ | ⟨-, hfound⟩
    · obtain ⟨rfl, rfl⟩ := Prod.mk.inj hfound
      exact (h.stands other call' _ hcall).operate s.memory spurious
    · exact h.stands other call' at' hfound
  · intro i j generation frame' frame'' hi hj
    have hrunning :
      ∀ {other : Nat}
      {next : Frame}, (s.calls.set id (call, (operate s.memory call frame spurious).2))[other]? =
        some (.tryBeginSpeaker generation, .running next) →
        ∃ before, s.calls[other]? = some (.tryBeginSpeaker generation, .running before) := by
      intro other next hother
      rcases getElem?_done_cases hcall hother with ⟨rfl, hfound⟩ | ⟨-, hfound⟩
      · rw [(Prod.mk.inj hfound).1]
        exact ⟨frame, hcall⟩
      · exact ⟨next, hfound⟩
    obtain ⟨before, hbefore⟩ := hrunning hi
    obtain ⟨before', hbefore'⟩ := hrunning hj
    exact h.distinct i j generation before before' hbefore hbefore'
  · rintro other ⟨entry, hentry, hreserved⟩
    rcases List.mem_append.mp hentry with hold | hnew
    · obtain ⟨call', at', hother, hbehind⟩ := h.afterReserve other ⟨entry, hold, hreserved⟩
      rw [getElem?_done hcall]
      by_cases hsame : other = id
      · subst hsame
        rw [hcall] at hother
        obtain ⟨-, rfl⟩ := Prod.mk.inj (Option.some.inj hother)
        exact ⟨_, _, if_pos rfl, reserved_operate hbehind⟩
      · exact ⟨call', at', (if_neg hsame).trans hother, hbehind⟩
    · rw [List.mem_singleton.mp hnew] at hreserved
      obtain ⟨rfl, -, hnext⟩ := hreserved
      refine ⟨call, _, (getElem?_done hcall _ _).trans (if_pos rfl), ?_⟩
      rw [show (operate s.memory call frame spurious).2 = _ from hnext]
      rfl
  · rintro other ⟨entry, hentry, hseen⟩
    rcases List.mem_append.mp hentry with hold | hnew
    · obtain ⟨call', at', hother, hbehind⟩ := h.afterSeen other ⟨entry, hold, hseen⟩
      rw [getElem?_done hcall]
      by_cases hsame : other = id
      · subst hsame
        rw [hcall] at hother
        obtain ⟨-, rfl⟩ := Prod.mk.inj (Option.some.inj hother)
        exact ⟨_, _, if_pos rfl, seen_operate hbehind⟩
      · exact ⟨call', at', (if_neg hsame).trans hother, hbehind⟩
    · rw [List.mem_singleton.mp hnew] at hseen
      obtain ⟨rfl, -, hnext⟩ := hseen
      refine ⟨call, _, (getElem?_done hcall _ _).trans (if_pos rfl), ?_⟩
      rw [show (operate s.memory call frame spurious).2 = _ from hnext]
      rfl

end Done

/-- One step. -/
theorem Exclusive.step {shown : List (Event Call Bool × Option Operation)} {s : State}
    (h : Exclusive (log shown) s)
    {event : Event Call Bool} (hfresh : FreshGenerations s event) :
    Exclusive (log (shown ++ [(event, (Interleaving.step code s event).1)]))
      (Interleaving.step code s event).2 := by
  rw [log_concat]
  have hcases := step_cases code s event
  generalize Interleaving.step code s event = result at hcases
  cases hcases with
  | idle _ _ =>
    rw [Option.toList_none, List.append_nil]
    exact h
  | called call =>
    rw [Option.toList_none, List.append_nil]
    exact h.called hfresh
  | done choice hcall => exact h.done hcall choice

theorem exclusive_after (events : List (Event Call Bool))
    (hfresh : Throughout (Interleaving.step code) FreshGenerations { memory := {} } events) :
    Exclusive (log (trace (Interleaving.step code) { memory := {} } events))
      (after (Interleaving.step code) { memory := {} } events) := by
  have hrun :=
    @throughout_trace_induction State (Event Call Bool) (Option Operation) (Interleaving.step code)
    (fun shown s => Exclusive (log shown) s) FreshGenerations (fun _ _ _ h hok => h.step hok) []
    { memory := {} } events
    exclusive_new hfresh
  exact hrun

end AudioIoArbiter

end CodexKeyboard.Keyboard
