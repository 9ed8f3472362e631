import CodexKeyboard.Keyboard.AudioExclusion
/-!
# The gate of the deep sleep

The gate word is the closing bit, and then no call is behind the gate, or it counts the calls behind
it. A call that closes the gate finds it at 0, so nobody is behind it; what it then reads of the
speaker and the microphone stays true while the gate is closed. The invariant `Gated` says so; it
needs that nobody opens the gate while a call that closed it has not answered yet.
-/

namespace CodexKeyboard.Keyboard

open Lib Lib.Interleaving

namespace AudioIoArbiter

/-- Behind the gate. -/
def inside : At → Bool
  | .running (.leave _) => true
  | .running .speakerCheck => true
  | .running .speakerReserve => true
  | .running .speakerRecheck => true
  | .running .speakerRevoke => true
  | .running .clearPowerReady => true
  | .running .requestStore => true
  | _ => false

/-- What an operation does to the gate. -/
inductive GateMoves (w : Words) (call : Call) : Frame → Words × At → Prop
  | enter : GateMoves w call (.enterExchange w.runtimeTransitionGate)
    ({ w with runtimeTransitionGate := w.runtimeTransitionGate + 1 }, .running (entered call))
  | leave (accepted : Bool) : GateMoves w call (.leave accepted)
    ({ w with runtimeTransitionGate := w.runtimeTransitionGate - 1 }, .returned accepted)
  | close (hempty : w.runtimeTransitionGate = 0) : GateMoves w call .quiesceExchange
    ({ w with runtimeTransitionGate := kDeepSleepQuiescingBit }, .running .quiesceSpeaker)
  | reopen : GateMoves w call .quiesceReopen ({ w with runtimeTransitionGate := 0 }, .returned false)
  | cancel (hclosed : w.runtimeTransitionGate = kDeepSleepQuiescingBit) : GateMoves w call .cancel
    ({ w with runtimeTransitionGate := 0 }, .returned true)
  | keep {frame : Frame} {next : Words × At}
    (hsame : next.1.runtimeTransitionGate = w.runtimeTransitionGate)
    (hinside : inside next.2 = inside (.running frame)) (hshutting : shutting next.2 = true →
      shutting (.running frame) = true) :
    GateMoves w call frame next

variable {w : Words} {call : Call} {frame : Frame} {spurious : Bool}

theorem enter_outside (state : UInt32) : inside (enter state) = false ∧ shutting (enter state) = false := by
  rcases enter_cases state with hnext | ⟨hnext, -⟩ <;> rw [hnext] <;> exact ⟨rfl, rfl⟩

theorem gateMoves (w : Words) (call : Call) (frame : Frame) (spurious : Bool) :
    GateMoves w call frame (operate w call frame spurious) := by
  cases frame with
  | leave accepted => exact .leave accepted
  | quiesceReopen => exact .reopen
  | enterLoad =>
    obtain ⟨hinside, hshutting⟩ := enter_outside w.runtimeTransitionGate
    refine .keep rfl hinside fun h => ?_
    rw [operate, hshutting] at h
    cases h
  | enterExchange state =>
    rw [operate]
    split
    · rename_i hexchange
      rw [← hexchange.2]
      exact .enter
    · obtain ⟨hinside, hshutting⟩ := enter_outside w.runtimeTransitionGate
      refine .keep rfl hinside fun h => ?_
      rw [hshutting] at h
      cases h
  | quiesceExchange =>
    rw [operate]
    split
    · rename_i hempty
      exact .close hempty
    · exact .keep rfl rfl fun h => by cases h
  | cancel =>
    rw [operate]
    split
    · rename_i hclosed
      exact .cancel hclosed
    · exact .keep rfl rfl fun h => by cases h
  | _ =>
    rw [operate]
    refine .keep ?_ ?_ ?_
    all_goals
      repeat' split
      all_goals first | rfl | (intro hshutting; first | rfl | cases hshutting)

/-- A call that is about to enter has found room. -/
theorem room_of_exchange {state : UInt32} (h : Stands call (.running (.enterExchange state))) :
    state.toNat < 0x7FFFFFFF := by
  have hdoes := h.1
  rcases enters hdoes (.inr ⟨state, rfl⟩) with ⟨generation, rfl⟩ | ⟨generation, rfl⟩ <;>
    exact of_decide_eq_true hdoes

/-- A call has closed the gate after an operation: it had before, or does it now and finds the gate at 0. -/
theorem shutting_operate (h : shutting (operate w call frame spurious).2 = true) :
    shutting (.running frame) = true ∧
    (operate w call frame spurious).1.runtimeTransitionGate = w.runtimeTransitionGate ∨
      w.runtimeTransitionGate = 0 ∧
      (operate w call frame spurious).1.runtimeTransitionGate = kDeepSleepQuiescingBit := by
  have hmoves := gateMoves w call frame spurious
  generalize operate w call frame spurious = result at hmoves h ⊢
  cases hmoves with
  | enter => cases call <;> cases h
  | leave accepted => cases h
  | close hempty => exact .inr ⟨hempty, rfl⟩
  | reopen => cases h
  | cancel _ => cases h
  | keep hsame _ hshutting => exact .inl ⟨hshutting h, hsame⟩

/-- A deep sleep call comes to the microphone when it has found no speaker. -/
theorem noSpeaker_operate (h : (operate w call frame spurious).2 = .running .quiesceMicrophone) :
    w.speakerGeneration = 0 ∧ (operate w call frame spurious).1 = w := by
  cases frame with
  | quiesceSpeaker =>
    refine ⟨?_, rfl⟩
    rw [operate] at h
    by_contra hspeaker
    rw [if_pos hspeaker] at h
    cases h
  | enterLoad =>
    rw [operate] at h
    rcases enter_cases w.runtimeTransitionGate with hnext | ⟨hnext, -⟩ <;> rw [hnext] at h <;> cases h
  | enterExchange state =>
    rw [operate] at h
    split at h
    · cases call <;> cases h
    · rcases enter_cases w.runtimeTransitionGate with hnext | ⟨hnext, -⟩ <;> rw [hnext] at h <;> cases h
  | _ =>
    rw [operate] at h
    repeat' split at h
    all_goals cases h

/-- A deep sleep call returns true when it has found no microphone. -/
theorem quiesced_operate (hstands : Stands .tryBeginDeepSleepQuiesce (.running frame))
    (h : (operate w .tryBeginDeepSleepQuiesce frame spurious).2 = .returned true) :
    frame = .quiesceMicrophone ∧ w.microphoneGeneration = 0 ∧
    (operate w .tryBeginDeepSleepQuiesce frame spurious).1 = w := by
  have hdoes := hstands.1
  cases frame with
  | quiesceMicrophone =>
    refine ⟨rfl, ?_, rfl⟩
    rw [operate] at h
    by_contra hmicrophone
    rw [if_pos hmicrophone] at h
    cases h
  | quiesceExchange =>
    rw [operate] at h
    split at h <;> cases h
  | quiesceSpeaker => cases h
  | quiesceReopen => cases h
  | _ => exact absurd hdoes Bool.false_ne_true

/-- An operation that returns true to a speaker or a microphone is behind the gate. -/
theorem inside_of_accepted (hstands : Stands call (.running frame))
    (hcall : (∃ generation, call = .tryBeginSpeaker generation) ∨
      ∃ generation, call = .requestMicrophone generation)
    (haccepted : (operate w call frame spurious).2 = .returned true) : inside (.running frame) = true := by
  have hdoes := hstands.1
  cases frame with
  | leave accepted => rfl
  | speakerCheck => rfl
  | speakerReserve => rfl
  | speakerRecheck => rfl
  | speakerRevoke => rfl
  | clearPowerReady => rfl
  | requestStore => rfl
  | enterLoad =>
    rw [operate] at haccepted
    rcases enter_cases w.runtimeTransitionGate with hnext | ⟨hnext, -⟩ <;>
      rw [hnext] at haccepted <;> cases haccepted
  | enterExchange state =>
    rw [operate] at haccepted
    split at haccepted
    · cases haccepted
    · rcases enter_cases w.runtimeTransitionGate with hnext | ⟨hnext, -⟩ <;>
        rw [hnext] at haccepted <;> cases haccepted
  | _ =>
    rcases hcall with ⟨generation, rfl⟩ | ⟨generation, rfl⟩ <;> exact absurd hdoes Bool.false_ne_true

/-- Outside the gate nobody becomes active. -/
theorem idle_of_outside (houtside : inside (.running frame) = false) :
    (w.speakerGeneration = 0 → (operate w call frame spurious).1.speakerGeneration = 0) ∧
      (w.microphoneGeneration = 0 → (operate w call frame spurious).1.microphoneGeneration = 0) := by
  have hspeaker := speakerMoves w call frame spurious
  have hmicrophone := microphoneMoves w call frame spurious
  generalize operate w call frame spurious = result at hspeaker hmicrophone
  constructor
  · intro hidle
    cases hspeaker with
    | reserve _ => cases houtside
    | revoke _ => rfl
    | finish _ => rfl
    | keep hsame _ _ => exact hsame.trans hidle
  · intro hidle
    cases hmicrophone with
    | request => cases houtside
    | finish _ => rfl
    | keep hsame => exact hsame.trans hidle

/-! ## The invariant -/

/-- The gate is closed and nobody is behind it, or it counts. -/
def GateCounts (gate : UInt32) (count : Nat) : Prop :=
  gate = kDeepSleepQuiescingBit ∧ count = 0 ∨ gate.toNat = count ∧ count < 0x80000000

def countInside (calls : List (Call × At)) : Nat := calls.countP fun entry => inside entry.2

structure Gated (entries : List Operation) (s : State) : Prop where
  stands : ∀ (id : Nat) call at', s.calls[id]? = some (call, at') → Stands call at'
  gate : GateCounts s.memory.runtimeTransitionGate (countInside s.calls)
  /-- One call at a time has closed the gate without an answer yet. -/
  alone : ∀ (i j : Nat) call call' at' at'', s.calls[i]? = some (call, at') →
    s.calls[j]? = some (call', at'') →
    shutting at' = true → shutting at'' = true → i = j
  shut : ∀ (id : Nat) call at', s.calls[id]? = some (call, at') → shutting at' = true →
    s.memory.runtimeTransitionGate = kDeepSleepQuiescingBit
  noSpeaker : ∀ (id : Nat) call, s.calls[id]? = some (call, .running .quiesceMicrophone) →
    s.memory.speakerGeneration = 0
  back : ∀ id, (∃ entry ∈ entries, Quiesced id entry) → ∃ call, s.calls[id]? = some (call, .returned true)
  quiet : ∀ id : Nat, s.calls[id]? = some (.tryBeginDeepSleepQuiesce, .returned true) →
    Since (Quiesced id) Cancelled entries →
    s.memory.runtimeTransitionGate = kDeepSleepQuiescingBit ∧ s.memory.speakerGeneration = 0 ∧
      s.memory.microphoneGeneration = 0 ∧
      ∀ (other : Nat) call at', s.calls[other]? = some (call, at') → shutting at' = false

theorem gated_new : Gated [] { memory := {} } where
  stands _ _ _ hcall := by cases hcall
  gate := .inr ⟨rfl, by decide⟩
  alone _ _ _ _ _ _ hcall := by cases hcall
  shut _ _ _ hcall := by cases hcall
  noSpeaker _ _ hcall := by cases hcall
  back := by
    rintro id ⟨entry, hentry, -⟩
    cases hentry
  quiet _ hcall := by cases hcall

theorem first_outside (call : Call) : inside (first call) = false ∧ shutting (first call) = false := by
  cases call <;> rw [first] <;> first | exact ⟨rfl, rfl⟩ | (split <;> exact ⟨rfl, rfl⟩)

section Step
variable {entries : List Operation} {s : State} {id : Nat}

theorem countInside_called (calls : List (Call × At)) (call : Call) :
    countInside (calls ++ [(call, first call)]) = countInside calls := by
  rw [countInside, List.countP_append, List.countP_singleton, (first_outside call).1]
  rfl

theorem countInside_done {calls : List (Call × At)} {at' : At}
    (hcall : calls[id]? = some (call, at')) (next : At) :
    countInside (calls.set id (call, next)) + (inside at').toNat =
      countInside calls + (inside next).toNat := by
  obtain ⟨hlt, hold⟩ := List.getElem?_eq_some_iff.mp hcall
  rw [countInside, List.countP_set hlt, countInside, hold]
  dsimp only
  cases hinside : inside at' with
  | false => cases inside next <;> rfl
  | true =>
    have hpos : 0 < calls.countP fun entry => inside entry.2 :=
      List.countP_pos_iff.mpr ⟨_, List.getElem_mem hlt, by rw [hold]; exact hinside⟩
    cases inside next <;> simp <;> omega

/-- Nobody is behind a closed gate. -/
theorem Gated.outside (h : Gated entries s)
    (hclosed : s.memory.runtimeTransitionGate = kDeepSleepQuiescingBit) {at' : At}
    (hcall : s.calls[id]? = some (call, at')) : inside at' = false := by
  have hcount : countInside s.calls = 0 := by
    rcases h.gate with ⟨-, hcount⟩ | ⟨hgate, hlt⟩
    · exact hcount
    · rw [hclosed, show kDeepSleepQuiescingBit.toNat = 0x80000000 from rfl] at hgate
      omega
  have hnone := List.countP_eq_zero.mp hcount _ (List.mem_of_getElem? hcall)
  simpa using hnone

/-- One more call. -/
theorem Gated.called (h : Gated entries s) (call : Call) :
    Gated entries { s with calls := s.calls ++ [(call, first call)] } := by
  obtain ⟨-, houtside⟩ := first_outside call
  have hback : ¬ ∃ entry ∈ entries, Quiesced s.calls.length entry := by
    intro hsome
    obtain ⟨_, hcall⟩ := h.back _ hsome
    rw [List.getElem?_eq_none (Nat.le_refl _)] at hcall
    cases hcall
  -- a call that has closed the gate is not the new one
  have hshutting :
    ∀ {other : Nat} {call' : Call} {at' : At}, (s.calls ++ [(call, first call)])[other]? =
    some (call', at') →
      shutting at' = true → s.calls[other]? = some (call', at') := by
    intro other call' at' hother hat
    rcases getElem?_called hother with hold | ⟨-, hnew⟩
    · exact hold
    · rw [(Prod.mk.inj hnew).2, houtside] at hat
      cases hat
  refine ⟨?_, ?_, ?_, ?_, ?_, ?_, ?_⟩
  · intro other call' at' hother
    rcases getElem?_called hother with hold | ⟨-, hnew⟩
    · exact h.stands other call' at' hold
    · obtain ⟨rfl, rfl⟩ := Prod.mk.inj hnew
      exact stands_first call'
  · rw [countInside_called]
    exact h.gate
  · intro i j call' call'' at' at'' hi hj hat hat'
    exact h.alone i j call' call'' at' at'' (hshutting hi hat) (hshutting hj hat') hat hat'
  · intro other call' at' hother hat
    exact h.shut other call' at' (hshutting hother hat) hat
  · intro other call' hother
    exact h.noSpeaker other call' (hshutting hother rfl)
  · intro other hsome
    obtain ⟨call', hother⟩ := h.back other hsome
    refine ⟨call', ?_⟩
    rw [List.getElem?_append_left (List.getElem?_eq_some_iff.mp hother).1]
    exact hother
  · intro other hother hsince
    rcases getElem?_called hother with hold | ⟨rfl, -⟩
    · obtain ⟨hgate, hspeaker, hmicrophone, hquiet⟩ := h.quiet other hold hsince
      refine ⟨hgate, hspeaker, hmicrophone, fun other' call' at' hother' => ?_⟩
      cases hat : shutting at' with
      | false => rfl
      | true => exact (hquiet other' call' at' (hshutting hother' hat)).symm.trans hat |>.symm
    · exact absurd hsince.exists hback

/-- The gate is opened for nobody. -/
theorem opened {old new : Nat} (hgate : GateCounts kDeepSleepQuiescingBit old)
    (hcount : new + 0 = old + 0) :
    (0 : UInt32).toNat = new ∧ new < 0x80000000 := by
  rcases hgate with ⟨-, hnone⟩ | ⟨hopen, hlt⟩
  · exact ⟨by rw [UInt32.toNat_zero]; omega, by omega⟩
  · rw [show kDeepSleepQuiescingBit.toNat = 0x80000000 from rfl] at hopen
    omega

/-- The gate after an operation. -/
theorem Gated.gate_done (h : Gated entries s) (hcall : s.calls[id]? = some (call, .running frame))
    (spurious : Bool) :
    GateCounts (operate s.memory call frame spurious).1.runtimeTransitionGate
      (countInside (s.calls.set id (call, (operate s.memory call frame spurious).2))) := by
  have hcount := countInside_done hcall (operate s.memory call frame spurious).2
  have hgate := h.gate
  have hstands := h.stands id call _ hcall
  have hmoves := gateMoves s.memory call frame spurious
  generalize operate s.memory call frame spurious = result at hmoves hcount ⊢
  generalize countInside (s.calls.set id (call, result.2)) = new at hcount ⊢
  generalize countInside s.calls = old at hcount hgate
  cases hmoves with
  | enter =>
    -- the gate was open, and there was room
    have hroom := room_of_exchange hstands
    have hentered : inside (.running (entered call)) = true := by cases call <;> rfl
    dsimp only at hcount
    rw [hentered] at hcount
    simp only [inside, Bool.toNat_true, Bool.toNat_false] at hcount
    rcases hgate with ⟨hclosed, -⟩ | ⟨hopen, -⟩
    · rw [hclosed, show kDeepSleepQuiescingBit.toNat = 2147483648 from rfl] at hroom
      omega
    · refine .inr ⟨?_, by omega⟩
      dsimp only
      rw [UInt32.toNat_add, UInt32.toNat_one]
      omega
  | leave accepted =>
    simp only [inside, Bool.toNat_true, Bool.toNat_false] at hcount
    rcases hgate with ⟨-, hnone⟩ | ⟨hopen, hlt⟩
    · omega
    · have hpos : (1 : UInt32) ≤ s.memory.runtimeTransitionGate := by
        rw [UInt32.le_iff_toNat_le, UInt32.toNat_one]
        omega
      refine .inr ⟨?_, by omega⟩
      dsimp only
      rw [UInt32.toNat_sub_of_le _ _ hpos, UInt32.toNat_one]
      omega
  | close hempty =>
    simp only [inside, Bool.toNat_false] at hcount
    rcases hgate with ⟨hclosed, -⟩ | ⟨hopen, -⟩
    · rw [hempty] at hclosed
      exact absurd hclosed (by decide)
    · rw [hempty, UInt32.toNat_zero] at hopen
      exact .inl ⟨rfl, by omega⟩
  | reopen =>
    simp only [inside, Bool.toNat_false] at hcount
    rw [h.shut id call _ hcall rfl] at hgate
    exact .inr (opened hgate hcount)
  | cancel hclosed =>
    simp only [inside, Bool.toNat_false] at hcount
    rw [hclosed] at hgate
    exact .inr (opened hgate hcount)
  | keep hsame hinside _ =>
    rw [hinside] at hcount
    rw [hsame, show new = old by omega]
    exact hgate

/-- What a closed gate and nobody opening it mean for an operation. -/
theorem Gated.quiet_done (h : Gated entries s) (hcall : s.calls[id]? = some (call, .running frame))
    (spurious : Bool)
    (hclosed : s.memory.runtimeTransitionGate = kDeepSleepQuiescingBit)
    (hopener : shutting (.running frame) = false)
    (hcancel : ¬ Cancelled ⟨id, call, frame, (operate s.memory call frame spurious).2⟩) :
    (operate s.memory call frame spurious).1.runtimeTransitionGate = kDeepSleepQuiescingBit ∧
      shutting (operate s.memory call frame spurious).2 = false := by
  have houtside := h.outside hclosed hcall
  have hstands := h.stands id call _ hcall
  have hmoves := gateMoves s.memory call frame spurious
  generalize operate s.memory call frame spurious = result at hmoves hcancel ⊢
  cases hmoves with
  | enter =>
    have hroom := room_of_exchange hstands
    rw [hclosed, show kDeepSleepQuiescingBit.toNat = 2147483648 from rfl] at hroom
    omega
  | leave accepted => cases houtside
  | close hempty =>
    rw [hempty] at hclosed
    exact absurd hclosed (by decide)
  | reopen => cases hopener
  | cancel _ => exact absurd ⟨rfl, rfl⟩ hcancel
  | keep hsame _ hshutting =>
    refine ⟨hsame.trans hclosed, ?_⟩
    cases hat : shutting result.2 with
    | false => rfl
    | true =>
      rw [hshutting hat] at hopener
      cases hopener

/-- One operation. -/
theorem Gated.done (h : Gated entries s) (hcall : s.calls[id]? = some (call, .running frame))
    (spurious : Bool)
    (halone : frame = .cancel → ∀ entry ∈ s.calls, shutting entry.2 = false) :
    Gated (entries ++ [⟨id, call, frame, (operate s.memory call frame spurious).2⟩])
      ⟨(operate s.memory call frame spurious).1,
        s.calls.set id (call, (operate s.memory call frame spurious).2)⟩ := by
  refine ⟨?_, h.gate_done hcall spurious, ?_, ?_, ?_, ?_, ?_⟩
  · intro other call' at' hother
    rcases getElem?_done_cases hcall hother with ⟨rfl, hfound⟩ | ⟨-, hfound⟩
    · obtain ⟨rfl, rfl⟩ := Prod.mk.inj hfound
      exact (h.stands other call' _ hcall).operate s.memory spurious
    · exact h.stands other call' at' hfound
  · intro i j call' call'' at' at'' hi hj hat hat'
    -- of two calls that have closed the gate, one would have found it at 0 now
    have hone :
      ∀ {other : Nat} {call' : Call} {at' : At}, s.calls[other]? = some (call', at') → shutting at' = true →
        shutting (operate s.memory call frame spurious).2 = true → other = id := by
      intro other call' at' hother hat hnow
      rcases shutting_operate hnow with ⟨hbefore, -⟩ | ⟨hempty, -⟩
      · exact h.alone other id call' call at' _ hother hcall hat hbefore
      · have hshut := h.shut other call' at' hother hat
        rw [hempty] at hshut
        exact absurd hshut (by decide)
    rcases getElem?_done_cases hcall hi with ⟨rfl, hfound⟩ | ⟨-, hbefore⟩ <;>
      rcases getElem?_done_cases hcall hj with ⟨rfl, hfound'⟩ | ⟨-, hbefore'⟩
    · rfl
    · obtain ⟨-, rfl⟩ := Prod.mk.inj hfound
      exact (hone hbefore' hat' hat).symm
    · obtain ⟨-, rfl⟩ := Prod.mk.inj hfound'
      exact hone hbefore hat hat'
    · exact h.alone i j call' call'' at' at'' hbefore hbefore' hat hat'
  · intro other call' at' hother hat
    rcases getElem?_done_cases hcall hother with ⟨rfl, hfound⟩ | ⟨hne, hfound⟩
    · obtain ⟨-, rfl⟩ := Prod.mk.inj hfound
      rcases shutting_operate hat with ⟨hbefore, hsame⟩ | ⟨-, hclosed⟩
      · exact hsame.trans (h.shut other call _ hcall hbefore)
      · exact hclosed
    · have hopener : shutting (.running frame) = false := by
        cases hbefore : shutting (.running frame) with
        | false => rfl
        | true => exact absurd (h.alone other id call' call at' _ hfound hcall hat hbefore) hne
      refine (h.quiet_done hcall spurious (h.shut other call' at' hfound hat) hopener ?_).1
      rintro ⟨hcancel, -⟩
      have hnone := halone hcancel _ (List.mem_of_getElem? hfound)
      rw [hat] at hnone
      cases hnone
  · intro other call' hother
    rcases getElem?_done_cases hcall hother with ⟨rfl, hfound⟩ | ⟨-, hfound⟩
    · obtain ⟨hnone, hsame⟩ := noSpeaker_operate (Prod.mk.inj hfound).2.symm
      rw [hsame]
      exact hnone
    · have hclosed := h.shut other call' _ hfound rfl
      exact (idle_of_outside (h.outside hclosed hcall)).1 (h.noSpeaker other call' hfound)
  · rintro other ⟨entry, hentry, hquiesced⟩
    rcases List.mem_append.mp hentry with hold | hnew
    · obtain ⟨call', hother⟩ := h.back other ⟨entry, hold, hquiesced⟩
      have hne : other ≠ id := by
        rintro rfl
        rw [hcall] at hother
        cases hother
      exact ⟨call', (getElem?_done hcall _ _).trans ((if_neg hne).trans hother)⟩
    · rw [List.mem_singleton.mp hnew] at hquiesced
      obtain ⟨rfl, hnext⟩ := hquiesced
      refine ⟨call, (getElem?_done hcall _ _).trans ((if_pos rfl).trans ?_)⟩
      rw [show (operate s.memory call frame spurious).2 = _ from hnext]
  · intro other hother hsince
    rcases since_concat.mp hsince with ⟨rfl, hnext⟩ | ⟨hold, hcancel⟩
    · -- the answer of the call
      rw [getElem?_done hcall, if_pos rfl] at hother
      obtain ⟨rfl, -⟩ := Prod.mk.inj (Option.some.inj hother)
      obtain ⟨rfl, hmicrophone, hsame⟩ := quiesced_operate (h.stands id _ _ hcall) hnext
      rw [hsame]
      refine ⟨h.shut id _ _ hcall rfl, h.noSpeaker id _ hcall,
        hmicrophone, fun other call' at' hother' => ?_⟩
      rcases getElem?_done_cases hcall hother' with ⟨rfl, hfound⟩ | ⟨hne, hfound⟩
      · rw [(Prod.mk.inj hfound).2, show (operate s.memory _ _ spurious).2 = _ from hnext]
        rfl
      · cases hat : shutting at' with
        | false => rfl
        | true => exact absurd (h.alone other id call' _ at' _ hfound hcall hat rfl) hne
    · obtain ⟨call', hback⟩ := h.back other hold.exists
      rcases getElem?_done_cases hcall hother with ⟨rfl, -⟩ | ⟨-, hfound⟩
      · rw [hcall] at hback
        cases hback
      · obtain ⟨hclosed, hspeaker, hmicrophone, hnone⟩ := h.quiet other hfound hold
        obtain ⟨hgate, hshutting⟩ := h.quiet_done hcall spurious hclosed (hnone id call _ hcall) hcancel
        have hidle := @idle_of_outside s.memory call frame spurious (h.outside hclosed hcall)
        refine ⟨hgate, hidle.1 hspeaker, hidle.2 hmicrophone, fun other' call'' at' hother' => ?_⟩
        rcases getElem?_done_cases hcall hother' with ⟨rfl, hfound'⟩ | ⟨-, hfound'⟩
        · rw [(Prod.mk.inj hfound').2]
          exact hshutting
        · exact hnone other' call'' at' hfound'

end Step

/-- One step. -/
theorem Gated.step {shown : List (Event Call Bool × Option Operation)} {s : State} (h : Gated (log shown) s)
    {event : Event Call Bool} (halone : CancelsAlone s event) :
    Gated (log (shown ++ [(event, (Interleaving.step code s event).1)]))
      (Interleaving.step code s event).2 := by
  rw [log_concat]
  have hcases := step_cases code s event
  generalize Interleaving.step code s event = result at hcases
  cases hcases with
  | idle _ _ =>
    rw [Option.toList_none, List.append_nil]
    exact h
  | called call =>
    rw [Option.toList_none, List.append_nil]
    exact h.called call
  | done choice hcall =>
    refine h.done hcall choice fun hcancel => halone ?_
    rw [hcall, hcancel]
    rfl

theorem gated_after (events : List (Event Call Bool))
    (halone : Throughout (Interleaving.step code) CancelsAlone { memory := {} } events) :
    Gated (log (trace (Interleaving.step code) { memory := {} } events))
      (after (Interleaving.step code) { memory := {} } events) := by
  have hrun :=
    @throughout_trace_induction State (Event Call Bool) (Option Operation) (Interleaving.step code)
    (fun shown s => Gated (log shown) s) CancelsAlone (fun _ _ _ h hok => h.step hok) []
    { memory := {} } events
    gated_new halone
  exact hrun

/-! ## Runs -/

def run (events : List (Event Call Bool)) : State := after (Interleaving.step code) { memory := {} } events

def operations (events : List (Event Call Bool)) : List Operation :=
  log (trace (Interleaving.step code) { memory := {} } events)

/-- No speaker is on while a microphone is ready, in a run where the speaker calls in flight have
different generations. From a deep sleep call that returns true until it is cancelled nobody is
active and nobody is accepted, in a run where no deep sleep is cancelled between the operations of
such a call. -/
theorem speaker_and_microphone_exclude :
    (∀ events : List (Event Call Bool),
      Throughout (Interleaving.step code) FreshGenerations { memory := {} } events →
      ∀ (i j : Nat)
        (generation generation' : UInt32), ¬ (Speaking (run events) (operations events) i generation ∧
        Listening (run events) (operations events) j generation')) ∧
    ∀ events : List (Event Call Bool), Throughout (Interleaving.step code) CancelsAlone
      { memory := {} } events →
      ∀ id : Nat, Quiescing (run events) (operations events) id →
        (run events).memory.speakerGeneration = 0 ∧ (run events).memory.microphoneGeneration = 0 ∧
          ∀ (event : Event Call Bool) (operation : Operation),
            (Interleaving.step code (run events) event).1 = some operation →
              operation.next = .returned true →
            ∀ generation : UInt32, operation.call ≠ .tryBeginSpeaker generation ∧
              operation.call ≠ .requestMicrophone generation := by
  refine ⟨?_, ?_⟩
  · rintro events hfresh i j generation generation' ⟨⟨hi, hsince⟩, hj, hsince'⟩
    exact (exclusive_after events hfresh).apart i j generation generation' _ hi rfl hsince hj hsince'
  · rintro events halone id ⟨hcall, hsince⟩
    have hgated := gated_after events halone
    obtain ⟨hclosed, hspeaker, hmicrophone, -⟩ := hgated.quiet id hcall hsince
    refine ⟨hspeaker, hmicrophone, fun event operation hoperation hnext generation => ?_⟩
    -- a call that is accepted would be behind the gate
    have hcases := step_cases code (run events) event
    generalize Interleaving.step code (run events) event = result at hcases hoperation
    cases hcases with
    | idle _ _ => cases hoperation
    | called call => cases hoperation
    | @done other call frame choice hother =>
      obtain rfl := Option.some.inj hoperation
      have houtside := hgated.outside hclosed hother
      have hstands := hgated.stands other call _ hother
      refine ⟨fun heq => ?_, fun heq => ?_⟩
      · rw [inside_of_accepted hstands (.inl ⟨generation, heq⟩) hnext] at houtside
        cases houtside
      · rw [inside_of_accepted hstands (.inr ⟨generation, heq⟩) hnext] at houtside
        cases houtside

/-- A call and its operations. -/
def whole (id : Nat) (call : Call) (count : Nat) : List (Event Call Bool) :=
  .call call :: List.replicate count (.operate id false)

/-- A speaker plays and is finished, and a microphone becomes ready. -/
def inTurn : List (Event Call Bool) :=
  whole 0 (.tryBeginSpeaker 10) 6 ++ whole 1 (.finishSpeaker 10) 1 ++ whole 2 (.requestMicrophone 20) 5 ++
    whole 3 (.markMicrophonePowerReady 20) 2 ++ whole 4 (.microphoneHardwareReady 20) 3

theorem speaker_and_microphone_exclude_in_turn :
    (Listening (run inTurn) (operations inTurn) 4 20 ∧ ¬ Speaking (run inTurn) (operations inTurn) 0 10) ∧
    (run (whole 0 .tryBeginDeepSleepQuiesce 3)).memory.speakerGeneration = 0 :=
  ⟨⟨by decide,
    fun hspeaking => speaker_and_microphone_exclude.1 inTurn (by decide) 0 4 10 20 ⟨hspeaking, by decide⟩⟩,
    (speaker_and_microphone_exclude.2 (whole 0 .tryBeginDeepSleepQuiesce 3) (by decide) 0 (by decide)).1⟩

/-- Two speaker calls have one generation. The first has reserved and is finished, the second
reserves and returns true; then a microphone is requested, and the first takes back the reservation
of the second. -/
def sharedGeneration : List (Event Call Bool) :=
  whole 0 (.tryBeginSpeaker 10) 4 ++ [.call (.tryBeginSpeaker 10)] ++ whole 2 (.finishSpeaker 10) 1 ++
    List.replicate 6 (.operate 1 false) ++ whole 3 (.requestMicrophone 20) 5 ++
      List.replicate 2 (.operate 0 false) ++
    whole 4 (.markMicrophonePowerReady 20) 2 ++ whole 5 (.microphoneHardwareReady 20) 3

/-- A deep sleep is cancelled before the call that begins it has looked at the speaker. -/
def cancelledEarly : List (Event Call Bool) :=
  whole 0 .tryBeginDeepSleepQuiesce 1 ++ whole 1 .cancelDeepSleepQuiesce 1 ++
    List.replicate 2 (.operate 0 false) ++
    whole 2 (.tryBeginSpeaker 10) 6

/-- Without these conditions neither holds. -/
theorem speaker_meets_microphone :
    (¬ ∀ (events : List (Event Call Bool)) (i j : Nat) (generation generation' : UInt32),
      ¬ (Speaking (run events) (operations events) i generation ∧
        Listening (run events) (operations events) j generation')) ∧
    ¬ ∀ (events : List (Event Call Bool)) (id : Nat), Quiescing (run events) (operations events) id →
      (run events).memory.speakerGeneration = 0 := by
  refine ⟨fun hclaim => ?_, fun hclaim => ?_⟩
  · exact hclaim sharedGeneration 1 5 10 20 (by decide)
  · exact absurd (hclaim cancelledEarly 0 (by decide)) (by decide)

end AudioIoArbiter

end CodexKeyboard.Keyboard
