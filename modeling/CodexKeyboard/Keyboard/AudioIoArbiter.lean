import CodexKeyboard.Lib.Interleaving
/-!
# Who owns the audio hardware

`AudioIoArbiter` (audio_io_arbiter.cpp): four atomic words that the tasks of the speaker, the
microphone and the deep sleep share. A speaker checks for a microphone, reserves the hardware and
checks again, and takes its reservation back if a microphone was requested in between. A microphone
is ready when its power is and no speaker is active. Both enter through a gate, a count of the calls
inside; a deep sleep closes it when nobody is.

| here | there |
| --- | --- |
| `Words`, `Call` | audio_io_arbiter.h:12-50 |
| `enter`, `enterLoad`, `enterExchange` | `try_enter_runtime_transition`, audio_io_arbiter.cpp:148 |
| `leave` | `leave_runtime_transition`, audio_io_arbiter.cpp:165 |
| `speakerCheck` to `speakerRevoke` | `try_begin_speaker`, audio_io_arbiter.cpp:5 |
| `finishSpeaker` | audio_io_arbiter.cpp:36 |
| `clearPowerReady`, `requestStore` | `request_microphone`, audio_io_arbiter.cpp:48 |
| `markLoad`, `markStore` | `mark_microphone_power_ready`, audio_io_arbiter.cpp:58 |
| `finishMicrophone`, `finishPowerReady` | `finish_microphone`, audio_io_arbiter.cpp:68 |
| `readyMicrophone`, `readyPower`, `readySpeaker` | `microphone_hardware_ready`, audio_io_arbiter.cpp:105 |
| `quiesceExchange` to `quiesceReopen` | `try_begin_deep_sleep_quiesce`, audio_io_arbiter.cpp:114 |
| `cancel` | `cancel_deep_sleep_quiesce`, audio_io_arbiter.cpp:132 |

Every load, store and compare-exchange is one operation, and a call returns with its last one. The
calls that only load one word for their caller are left out.
-/

namespace CodexKeyboard.Keyboard

open Lib Lib.Interleaving

namespace AudioIoArbiter

def kDeepSleepQuiescingBit : UInt32 := 0x80000000

def kRuntimeTransitionCountMask : UInt32 := ~~~kDeepSleepQuiescingBit

structure Words where
  speakerGeneration : UInt32 := 0
  microphoneGeneration : UInt32 := 0
  microphonePowerReadyGeneration : UInt32 := 0
  runtimeTransitionGate : UInt32 := 0
deriving DecidableEq, Repr

inductive Call where
  | tryBeginSpeaker (generation : UInt32)
  | finishSpeaker (generation : UInt32)
  | requestMicrophone (generation : UInt32)
  | markMicrophonePowerReady (generation : UInt32)
  | finishMicrophone (generation : UInt32)
  | microphoneHardwareReady (generation : UInt32)
  | tryBeginDeepSleepQuiesce
  | cancelDeepSleepQuiesce
deriving DecidableEq, Repr

/-- The argument of a call. -/
def Call.generation : Call → UInt32
  | .tryBeginSpeaker generation => generation
  | .finishSpeaker generation => generation
  | .requestMicrophone generation => generation
  | .markMicrophonePowerReady generation => generation
  | .finishMicrophone generation => generation
  | .microphoneHardwareReady generation => generation
  | .tryBeginDeepSleepQuiesce => 0
  | .cancelDeepSleepQuiesce => 0

/-- The operation that a call does next. -/
inductive Frame where
  | enterLoad
  | enterExchange (state : UInt32)
  | leave (accepted : Bool)
  | speakerCheck
  | speakerReserve
  | speakerRecheck
  | speakerRevoke
  | finishSpeaker
  | clearPowerReady
  | requestStore
  | markLoad
  | markStore
  | finishMicrophone
  | finishPowerReady
  | readyMicrophone
  | readyPower
  | readySpeaker
  | quiesceExchange
  | quiesceSpeaker
  | quiesceMicrophone
  | quiesceReopen
  | cancel
deriving DecidableEq, Repr

/-- Where a call is: at its next operation, or back with its answer. -/
abbrev At := Progress Frame Bool

def first : Call → At
  | .tryBeginSpeaker generation => if generation = 0 then .returned false else .running .enterLoad
  | .finishSpeaker generation => if generation = 0 then .returned false else .running .finishSpeaker
  | .requestMicrophone generation => if generation = 0 then .returned false else .running .enterLoad
  | .markMicrophonePowerReady generation => if generation = 0 then .returned false else .running .markLoad
  | .finishMicrophone generation => if generation = 0 then .returned false else .running .finishMicrophone
  | .microphoneHardwareReady generation =>
    if generation = 0 then .returned false else .running .readyMicrophone
  | .tryBeginDeepSleepQuiesce => .running .quiesceExchange
  | .cancelDeepSleepQuiesce => .running .cancel

/-- The loop of `try_enter_runtime_transition` with the state it has read. -/
def enter (state : UInt32) : At :=
  if state &&& kDeepSleepQuiescingBit ≠ 0 then .returned false
  else if state &&& kRuntimeTransitionCountMask = kRuntimeTransitionCountMask then .returned false
  else .running (.enterExchange state)

/-- Behind the gate. -/
def entered : Call → Frame
  | .requestMicrophone _ => .clearPowerReady
  | _ => .speakerCheck

/-- One operation. A weak compare-exchange may fail without a reason. -/
def operate (w : Words) (call : Call) (frame : Frame) (spurious : Bool) : Words × At :=
  match frame with
  | .enterLoad => (w, enter w.runtimeTransitionGate)
  | .enterExchange state =>
    if spurious = false ∧ w.runtimeTransitionGate = state then
      ({ w with runtimeTransitionGate := state + 1 }, .running (entered call))
    else (w, enter w.runtimeTransitionGate)
  | .leave accepted => ({ w with runtimeTransitionGate := w.runtimeTransitionGate - 1 }, .returned accepted)
  | .speakerCheck => (w, .running (if w.microphoneGeneration = 0 then .speakerReserve else .leave false))
  | .speakerReserve =>
    if w.speakerGeneration = 0 then
      ({ w with speakerGeneration := call.generation }, .running .speakerRecheck)
    else (w, .running (.leave false))
  | .speakerRecheck => (w, .running (if w.microphoneGeneration ≠ 0 then .speakerRevoke else .leave true))
  | .speakerRevoke =>
    ({ w with
      speakerGeneration := if w.speakerGeneration = call.generation then 0 else w.speakerGeneration },
      .running (.leave false))
  | .finishSpeaker =>
    if w.speakerGeneration = call.generation then ({ w with speakerGeneration := 0 }, .returned true)
    else (w, .returned false)
  | .clearPowerReady => ({ w with microphonePowerReadyGeneration := 0 }, .running .requestStore)
  | .requestStore => ({ w with microphoneGeneration := call.generation }, .running (.leave true))
  | .markLoad =>
    (w, if w.microphoneGeneration = call.generation then .running .markStore else .returned false)
  | .markStore => ({ w with microphonePowerReadyGeneration := call.generation }, .returned true)
  | .finishMicrophone =>
    if w.microphoneGeneration = call.generation then
      ({ w with microphoneGeneration := 0 }, .running .finishPowerReady)
    else (w, .returned false)
  | .finishPowerReady =>
    ({ w with microphonePowerReadyGeneration :=
        if w.microphonePowerReadyGeneration = call.generation then 0 else
          w.microphonePowerReadyGeneration },
      .returned true)
  | .readyMicrophone =>
    (w, if w.microphoneGeneration = call.generation then .running .readyPower else .returned false)
  | .readyPower =>
    (w, if w.microphonePowerReadyGeneration = call.generation then
      .running .readySpeaker else .returned false)
  | .readySpeaker => (w, .returned (w.speakerGeneration = 0))
  | .quiesceExchange =>
    if w.runtimeTransitionGate = 0 then
      ({ w with runtimeTransitionGate := kDeepSleepQuiescingBit }, .running .quiesceSpeaker)
    else (w, .returned false)
  | .quiesceSpeaker =>
    (w, .running (if w.speakerGeneration ≠ 0 then .quiesceReopen else .quiesceMicrophone))
  | .quiesceMicrophone =>
    (w, if w.microphoneGeneration ≠ 0 then .running .quiesceReopen else .returned true)
  | .quiesceReopen => ({ w with runtimeTransitionGate := 0 }, .returned false)
  | .cancel =>
    if w.runtimeTransitionGate = kDeepSleepQuiescingBit then
      ({ w with runtimeTransitionGate := 0 }, .returned true)
    else (w, .returned false)

def code : Code Words Call Frame Bool Bool := ⟨first, operate⟩

abbrev State := System Words Call Frame Bool

abbrev Operation := Done Call Frame Bool

/-! ## What the calls have done -/

/-- The speaker call `id` reserved the hardware. -/
def Reserved (id : Nat) (done : Operation) : Prop :=
  done.id = id ∧ done.frame = .speakerReserve ∧ done.next = .running .speakerRecheck

/-- Speaker `generation` was finished. -/
def SpeakerFinished (generation : UInt32) (done : Operation) : Prop :=
  done.frame = .finishSpeaker ∧ done.call.generation = generation ∧ done.next = .returned true

/-- The ready call `id` saw its microphone. -/
def Seen (id : Nat) (done : Operation) : Prop :=
  done.id = id ∧ done.frame = .readyMicrophone ∧ done.next = .running .readyPower

/-- A microphone was finished, or another requested in its place. -/
def MicrophoneOver (done : Operation) : Prop :=
  done.frame = .requestStore ∨ done.frame = .finishMicrophone ∧ done.next = .running .finishPowerReady

def Quiesced (id : Nat) (done : Operation) : Prop := done.id = id ∧ done.next = .returned true

def Cancelled (done : Operation) : Prop := done.frame = .cancel ∧ done.next = .returned true

variable (s : State) (done : List Operation)

/-- A speaker call has returned true, and its reservation was not finished. -/
def Speaking (id : Nat) (generation : UInt32) : Prop :=
  s.calls[id]? = some (.tryBeginSpeaker generation, .returned true) ∧
  Since (Reserved id) (SpeakerFinished generation) done

/-- A microphone is ready: a call has returned true, and the microphone it saw is neither finished
nor replaced. -/
def Listening (id : Nat) (generation : UInt32) : Prop :=
  s.calls[id]? = some (.microphoneHardwareReady generation, .returned true) ∧
  Since (Seen id) MicrophoneOver done

/-- A deep sleep has returned true and was not cancelled. -/
def Quiescing (id : Nat) : Prop :=
  s.calls[id]? = some (.tryBeginDeepSleepQuiesce, .returned true) ∧ Since (Quiesced id) Cancelled done

instance (id : Nat) : DecidablePred (Reserved id) := fun _ => inferInstanceAs (Decidable (_ ∧ _ ∧ _))
instance (generation : UInt32) : DecidablePred (SpeakerFinished generation) :=
  fun _ => inferInstanceAs (Decidable (_ ∧ _ ∧ _))
instance (id : Nat) : DecidablePred (Seen id) := fun _ => inferInstanceAs (Decidable (_ ∧ _ ∧ _))
instance : DecidablePred MicrophoneOver := fun _ => inferInstanceAs (Decidable (_ ∨ _ ∧ _))
instance (id : Nat) : DecidablePred (Quiesced id) := fun _ => inferInstanceAs (Decidable (_ ∧ _))
instance : DecidablePred Cancelled := fun _ => inferInstanceAs (Decidable (_ ∧ _))
instance (id : Nat) (generation : UInt32) : Decidable (Speaking s done id generation) :=
  inferInstanceAs (Decidable (_ ∧ _))
instance (id : Nat) (generation : UInt32) : Decidable (Listening s done id generation) :=
  inferInstanceAs (Decidable (_ ∧ _))
instance (id : Nat) : Decidable (Quiescing s done id) := inferInstanceAs (Decidable (_ ∧ _))

/-- No speaker call starts with the generation of one that is not back. -/
def FreshGenerations (s : State) : Event Call Bool → Prop
  | .call (.tryBeginSpeaker generation) =>
    ∀ entry ∈ s.calls, entry.1 = .tryBeginSpeaker generation → entry.2.isReturned = true
  | _ => True

instance (s : State) : ∀ event : Event Call Bool, Decidable (FreshGenerations s event)
  | .call (.tryBeginSpeaker _) => inferInstanceAs (Decidable (∀ entry ∈ s.calls, _ → _))
  | .call (.finishSpeaker _) => isTrue trivial
  | .call (.requestMicrophone _) => isTrue trivial
  | .call (.markMicrophonePowerReady _) => isTrue trivial
  | .call (.finishMicrophone _) => isTrue trivial
  | .call (.microphoneHardwareReady _) => isTrue trivial
  | .call .tryBeginDeepSleepQuiesce => isTrue trivial
  | .call .cancelDeepSleepQuiesce => isTrue trivial
  | .operate _ _ => isTrue trivial

/-- A call that has closed the gate and may open it again. -/
def shutting : At → Bool
  | .running .quiesceSpeaker => true
  | .running .quiesceMicrophone => true
  | .running .quiesceReopen => true
  | _ => false

/-- No deep sleep is cancelled while a call that would begin one is between its operations. -/
def CancelsAlone (s : State) : Event Call Bool → Prop
  | .operate id _ =>
    s.calls[id]?.map Prod.snd = some (.running .cancel) → ∀ entry ∈ s.calls, shutting entry.2 = false
  | .call _ => True

instance (s : State) : ∀ event : Event Call Bool, Decidable (CancelsAlone s event)
  | .operate _ _ => inferInstanceAs (Decidable (_ → ∀ entry ∈ s.calls, _))
  | .call _ => isTrue trivial

/-! ## One operation -/

/-- The frames of a call. -/
def Call.does : Call → Frame → Bool
  | .tryBeginSpeaker _, .enterLoad => true
  | .tryBeginSpeaker _, .enterExchange state => state.toNat < 0x7FFFFFFF
  | .tryBeginSpeaker _, .leave _ => true
  | .tryBeginSpeaker _, .speakerCheck => true
  | .tryBeginSpeaker _, .speakerReserve => true
  | .tryBeginSpeaker _, .speakerRecheck => true
  | .tryBeginSpeaker _, .speakerRevoke => true
  | .finishSpeaker _, .finishSpeaker => true
  | .requestMicrophone _, .enterLoad => true
  | .requestMicrophone _, .enterExchange state => state.toNat < 0x7FFFFFFF
  | .requestMicrophone _, .leave _ => true
  | .requestMicrophone _, .clearPowerReady => true
  | .requestMicrophone _, .requestStore => true
  | .markMicrophonePowerReady _, .markLoad => true
  | .markMicrophonePowerReady _, .markStore => true
  | .finishMicrophone _, .finishMicrophone => true
  | .finishMicrophone _, .finishPowerReady => true
  | .microphoneHardwareReady _, .readyMicrophone => true
  | .microphoneHardwareReady _, .readyPower => true
  | .microphoneHardwareReady _, .readySpeaker => true
  | .tryBeginDeepSleepQuiesce, .quiesceExchange => true
  | .tryBeginDeepSleepQuiesce, .quiesceSpeaker => true
  | .tryBeginDeepSleepQuiesce, .quiesceMicrophone => true
  | .tryBeginDeepSleepQuiesce, .quiesceReopen => true
  | .cancelDeepSleepQuiesce, .cancel => true
  | _, _ => false

/-- A call that is not back does one of its own operations, with a generation that is not 0 if it
has one. -/
def Stands (call : Call) : At → Prop
  | .running frame => call.does frame = true ∧
    (call.generation = 0 → call = .tryBeginDeepSleepQuiesce ∨ call = .cancelDeepSleepQuiesce)
  | .returned _ => True

theorem stands_first (call : Call) : Stands call (first call) := by
  cases call with
  | tryBeginDeepSleepQuiesce => exact ⟨rfl, fun _ => .inl rfl⟩
  | cancelDeepSleepQuiesce => exact ⟨rfl, fun _ => .inr rfl⟩
  | _ generation =>
    rw [first]
    split
    · trivial
    · rename_i hne
      exact ⟨rfl, fun hzero => absurd hzero hne⟩

/-- The gate is entered while it is open and there is room in the count. -/
theorem enter_cases (state : UInt32) :
    enter state = .returned false ∨ enter state = .running (.enterExchange state) ∧
    state.toNat < 0x7FFFFFFF := by
  unfold enter
  by_cases hclosed : state &&& kDeepSleepQuiescingBit ≠ 0
  · rw [if_pos hclosed]
    exact .inl rfl
  rw [if_neg hclosed]
  by_cases hfull : state &&& kRuntimeTransitionCountMask = kRuntimeTransitionCountMask
  · rw [if_pos hfull]
    exact .inl rfl
  rw [if_neg hfull]
  refine .inr ⟨rfl, ?_⟩
  have hlt := state.toNat_lt
  have hopen : state.toNat < 2 ^ 31 := by
    rw [ne_eq, not_not] at hclosed
    have hbit := congrArg (fun word : UInt32 => word.toNat.testBit 31) hclosed
    rw [UInt32.toNat_and, show kDeepSleepQuiescingBit.toNat = 2 ^ 31 from rfl,
      Nat.testBit_and, Nat.testBit_two_pow_self,
      Bool.and_true, UInt32.toNat_zero, Nat.zero_testBit, Nat.testBit_eq_decide_div_mod_eq,
        decide_eq_false_iff_not] at hbit
    omega
  have hroom : state.toNat ≠ 2 ^ 31 - 1 := by
    intro heq
    refine hfull (UInt32.toNat_inj.mp ?_)
    rw [UInt32.toNat_and, heq]
    rfl
  omega

theorem Stands.enter {call : Call} {frame : Frame} (h : Stands call (.running frame))
    (hcall : (∃ generation, call = .tryBeginSpeaker generation) ∨
      ∃ generation, call = .requestMicrophone generation)
    (state : UInt32) : Stands call (enter state) := by
  rcases enter_cases state with hback | ⟨hnext, hroom⟩
  · rw [hback]
    trivial
  · rw [hnext]
    refine ⟨?_, h.2⟩
    rcases hcall with ⟨generation, rfl⟩ | ⟨generation, rfl⟩ <;> exact decide_eq_true hroom

theorem enters {call : Call} {frame : Frame} (hdoes : call.does frame = true)
    (hframe : frame = .enterLoad ∨ ∃ state, frame = .enterExchange state) :
    (∃ generation, call = .tryBeginSpeaker generation) ∨
      ∃ generation, call = .requestMicrophone generation := by
  rcases hframe with rfl | ⟨state, rfl⟩ <;> cases call <;>
    first | exact .inl ⟨_, rfl⟩ | exact .inr ⟨_, rfl⟩ | exact absurd hdoes Bool.false_ne_true

/-- A call goes from one of its frames to another. -/
theorem Stands.operate {call : Call} {frame : Frame} (h : Stands call (.running frame)) (w : Words)
    (spurious : Bool) :
    Stands call (operate w call frame spurious).2 := by
  obtain ⟨hdoes, hgeneration⟩ := id h
  cases frame with
  | enterLoad => exact h.enter (enters hdoes (.inl rfl)) w.runtimeTransitionGate
  | enterExchange state =>
    have hcall := enters hdoes (.inr ⟨state, rfl⟩)
    rw [AudioIoArbiter.operate]
    split
    · refine ⟨?_, hgeneration⟩
      rcases hcall with ⟨generation, rfl⟩ | ⟨generation, rfl⟩ <;> rfl
    · exact h.enter hcall w.runtimeTransitionGate
  | _ =>
    -- the other frames belong to one kind of call, or to the two that leave through the gate
    cases call <;> first
      | exact absurd hdoes Bool.false_ne_true
      | (simp only [AudioIoArbiter.operate]
         repeat' split
         all_goals trivial)

/-- What an operation does to the speaker word. -/
inductive SpeakerMoves (w : Words) (call : Call) : Frame → Words × At → Prop
  | reserve (hfree : w.speakerGeneration = 0) :
    SpeakerMoves w call .speakerReserve ({ w with speakerGeneration := call.generation },
      .running .speakerRecheck)
  | revoke (howner : w.speakerGeneration = call.generation) :
    SpeakerMoves w call .speakerRevoke ({ w with speakerGeneration := 0 }, .running (.leave false))
  | finish (howner : w.speakerGeneration = call.generation) :
    SpeakerMoves w call .finishSpeaker ({ w with speakerGeneration := 0 }, .returned true)
  | keep {frame : Frame} {next : Words × At} (hsame : next.1.speakerGeneration = w.speakerGeneration)
    (hreserve : next.2 ≠ .running .speakerRecheck)
    (hfinish : ¬ (frame = .finishSpeaker ∧ next.2 = .returned true)) :
    SpeakerMoves w call frame next

theorem speakerMoves (w : Words) (call : Call) (frame : Frame) (spurious : Bool) :
    SpeakerMoves w call frame (operate w call frame spurious) := by
  cases frame with
  | speakerReserve =>
    rw [operate]
    split
    · rename_i hfree
      exact .reserve hfree
    · exact .keep rfl nofun nofun
  | speakerRevoke =>
    rw [operate]
    split
    · rename_i howner
      exact .revoke howner
    · exact .keep rfl nofun nofun
  | finishSpeaker =>
    rw [operate]
    split
    · rename_i howner
      exact .finish howner
    · exact .keep rfl nofun nofun
  | enterLoad =>
    refine .keep rfl ?_ nofun
    rw [operate]
    rcases enter_cases w.runtimeTransitionGate with hnext | ⟨hnext, -⟩ <;> rw [hnext] <;> nofun
  | enterExchange state =>
    rw [operate]
    split
    · refine .keep rfl ?_ nofun
      cases call <;> nofun
    · refine .keep rfl ?_ nofun
      rcases enter_cases w.runtimeTransitionGate with hnext | ⟨hnext, -⟩ <;> rw [hnext] <;> nofun
  | _ =>
    rw [operate]
    refine .keep ?_ ?_ nofun
    all_goals
      repeat' split
      all_goals first | rfl | nofun

/-- What an operation does to the microphone word. -/
inductive MicrophoneMoves (w : Words) (call : Call) : Frame → Words × At → Prop
  | request :
    MicrophoneMoves w call .requestStore ({ w with microphoneGeneration := call.generation },
    .running (.leave true))
  | finish (howner : w.microphoneGeneration = call.generation) :
    MicrophoneMoves w call .finishMicrophone ({ w with microphoneGeneration := 0 },
      .running .finishPowerReady)
  | keep {frame : Frame} {next : Words × At}
    (hsame : next.1.microphoneGeneration = w.microphoneGeneration) :
    MicrophoneMoves w call frame next

theorem microphoneMoves (w : Words) (call : Call) (frame : Frame) (spurious : Bool) :
    MicrophoneMoves w call frame (operate w call frame spurious) := by
  cases frame with
  | requestStore => exact .request
  | finishMicrophone =>
    rw [operate]
    split
    · rename_i howner
      exact .finish howner
    · exact .keep rfl
  | _ =>
    refine .keep ?_
    rw [operate]
    repeat' split
    all_goals rfl

end AudioIoArbiter

end CodexKeyboard.Keyboard
