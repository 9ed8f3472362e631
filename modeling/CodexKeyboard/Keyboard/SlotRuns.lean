import CodexKeyboard.Keyboard.SlotState
import CodexKeyboard.Lib.Run
/-!
# Runs of the slot state

Capture, play request and playback over any sequence of keys, host messages and disconnects, with
any arguments (`components/keyboard/src/codex_slot_state.cpp`). What a run shows, its calls and
their answers, decides which capture is open (`PttRun`), which play request still stands
(`standingRequest`) and how far a playback has come (`Progress`); the state agrees with all three
(`Sound`).

| here | there |
| --- | --- |
| `SlotEvent`, `CodexSlotState.step` | the calls of `CodexSlotState` (codex_slot_state.cpp:63, 76-327) |
-/

namespace CodexKeyboard.Keyboard

open Lib

inductive SlotEvent where
  | seed (seed : Nat)
  | input (input : InputId) (phase : InputPhase) (connectionGeneration : Nat)
  | begin (begin : SlotPlaybackBegin)
  | started (identity : SlotPlaybackIdentity)
  | frame (identity : SlotPlaybackIdentity) (frameSequence : Nat)
  | transferComplete (identity : SlotPlaybackIdentity) (lastFrameSequence : Nat)
  | drained (identity : SlotPlaybackIdentity) (playedSamples : Nat)
  | acknowledge (identity : SlotPlaybackIdentity)
  | abort (identity : SlotPlaybackIdentity)
  | disconnect (connectionGeneration : Nat)
deriving DecidableEq, Repr

inductive SlotAnswer where
  | actions (actions : List DeviceAction)
  | begun (result : PlaybackBeginResult)
  | framed (result : PlaybackFrameResult)
  | done (result : Bool)
deriving DecidableEq, Repr

namespace CodexSlotState

def step (s : CodexSlotState) : SlotEvent → SlotAnswer × CodexSlotState
  | .seed seed => (.actions [], s.seedCaptureCounter seed)
  | .input input phase connectionGeneration =>
    (.actions (s.handleInput input phase connectionGeneration).1,
      (s.handleInput input phase connectionGeneration).2)
  | .begin begin => (.begun (s.beginPlayback begin).1, (s.beginPlayback begin).2)
  | .started identity => (.done (s.markPlaybackStarted identity).1, (s.markPlaybackStarted identity).2)
  | .frame identity frameSequence =>
    (.framed (s.acceptPlaybackFrame identity frameSequence).1,
      (s.acceptPlaybackFrame identity frameSequence).2)
  | .transferComplete identity lastFrameSequence =>
    (.done (s.markPlaybackTransferComplete identity lastFrameSequence).1,
      (s.markPlaybackTransferComplete identity lastFrameSequence).2)
  | .drained identity playedSamples =>
    (.done (s.markPlaybackDrained identity playedSamples).1,
      (s.markPlaybackDrained identity playedSamples).2)
  | .acknowledge identity => (.done (s.acknowledgeFinished identity).1, (s.acknowledgeFinished identity).2)
  | .abort identity => (.done (s.playbackMatches identity), s.abortPlayback identity)
  | .disconnect connectionGeneration =>
    (.actions (s.disconnect connectionGeneration).1, (s.disconnect connectionGeneration).2)

end CodexSlotState

/-! ## What a run shows -/

/-- What a run shows: its calls and their answers. -/
abbrev SlotTrace := List (SlotEvent × SlotAnswer)

structure SlotCapture where
  slot : Nat
  generation : Nat
  connectionGeneration : Nat
deriving DecidableEq, Repr

structure PlayRequest where
  slot : Nat
  generation : Nat
  connectionGeneration : Nat
deriving DecidableEq, Repr

def SlotAnswer.emitted : SlotAnswer → List DeviceAction
  | .actions pushed => pushed
  | _ => []

/-- All actions of a run, in order. -/
def emitted (seen : SlotTrace) : List DeviceAction := seen.flatMap fun call => call.2.emitted

/-- Reading the actions with one capture open at first and another at the end: a capture starts
while none is open, and it is the open one that ends. -/
inductive PttRun : Option SlotCapture → List DeviceAction → Option SlotCapture → Prop
  | nil (capture : Option SlotCapture) : PttRun capture [] capture
  | started {slot generation connectionGeneration : Nat} {actions : List DeviceAction}
    {capture : Option SlotCapture}
      (h : PttRun (some ⟨slot, generation, connectionGeneration⟩) actions capture) :
      PttRun none (.pttStarted slot generation connectionGeneration :: actions) capture
  | ended {slot generation connectionGeneration : Nat} {actions : List DeviceAction}
    {capture : Option SlotCapture}
      (h : PttRun none actions capture) :
      PttRun (some ⟨slot, generation, connectionGeneration⟩)
        (.pttEnded slot generation connectionGeneration :: actions) capture
  | playRequested {slot generation connectionGeneration : Nat} {actions : List DeviceAction}
    {first last : Option SlotCapture}
      (h : PttRun first actions last) :
        PttRun first (.playRequested slot generation connectionGeneration :: actions) last
  | playbackPreempted {slot : Nat} {playback : SlotPlaybackIdentity} {actions : List DeviceAction}
    {first last : Option SlotCapture}
      (h : PttRun first actions last) : PttRun first (.playbackPreempted slot playback :: actions) last
  | rejectedBusy {slot : Nat} {actions : List DeviceAction} {first last : Option SlotCapture}
      (h : PttRun first actions last) : PttRun first (.rejectedBusy slot :: actions) last

/-- An action asks for a playback, or starts a capture, which cancels the request. -/
def requestAfterAction (standing : Option PlayRequest) : DeviceAction → Option PlayRequest
  | .playRequested slot generation connectionGeneration => some ⟨slot, generation, connectionGeneration⟩
  | .pttStarted _ _ _ => none
  | _ => standing

/-- A request is used up by the playback that begins, and cancelled by a capture or by the loss of
its connection. -/
def requestAfter (standing : Option PlayRequest) : SlotEvent × SlotAnswer → Option PlayRequest
  | (.disconnect connectionGeneration, _) =>
    standing.filter fun request =>
      !(connectionGeneration == 0 || request.connectionGeneration == connectionGeneration)
  | (_, .begun .accepted) => none
  | (_, .actions actions) => actions.foldl requestAfterAction standing
  | _ => standing

/-- The latest play request that has been neither used nor cancelled. -/
def standingRequest (seen : SlotTrace) : Option PlayRequest := seen.foldl requestAfter none

def acceptedFrame : SlotEvent × SlotAnswer → Option (SlotPlaybackIdentity × Nat)
  | (.frame identity frameSequence, .framed .accepted) => some (identity, frameSequence)
  | _ => none

/-- The frames that were accepted, in order. -/
def acceptedFrames (seen : SlotTrace) : List (SlotPlaybackIdentity × Nat) := seen.filterMap acceptedFrame

/-- A playback that began in this run has had exactly its first `frames` frames accepted since. -/
structure Begun (seen : SlotTrace) (begin : SlotPlaybackBegin) (since : SlotTrace) (frames : Nat) :
    Prop where
  began : ∃ before, seen = before ++ (.begin begin, .begun .accepted) :: since
  accepted : acceptedFrames since = (List.range frames).map fun frame => (begin.identity, frame)

/-! ## What a call can do -/

/-- An action that neither starts nor ends a capture nor asks for a playback. -/
def DeviceAction.Neutral : DeviceAction → Prop
  | .pttStarted _ _ _ => False
  | .pttEnded _ _ _ => False
  | .playRequested _ _ _ => False
  | .playbackPreempted _ _ => True
  | .rejectedBusy _ => True

/-- An answer that says that nothing was started, ended, requested or accepted. -/
def SlotAnswer.Quiet : SlotAnswer → Prop
  | .actions pushed => ∀ action ∈ pushed, action.Neutral
  | .begun result => result ≠ .accepted
  | .framed result => result ≠ .accepted
  | .done _ => True

theorem PttRun.append {first middle last : Option SlotCapture} {left right : List DeviceAction}
    (h : PttRun first left middle)
    (h' : PttRun middle right last) : PttRun first (left ++ right) last := by
  induction h with
  | nil => exact h'
  | started _ ih => exact .started (ih h')
  | ended _ ih => exact .ended (ih h')
  | playRequested _ ih => exact .playRequested (ih h')
  | playbackPreempted _ ih => exact .playbackPreempted (ih h')
  | rejectedBusy _ ih => exact .rejectedBusy (ih h')

theorem PttRun.of_neutral (capture : Option SlotCapture) {pushed : List DeviceAction}
    (h : ∀ action ∈ pushed, action.Neutral) :
    PttRun capture pushed capture := by
  induction pushed with
  | nil => exact .nil capture
  | cons action pushed ih =>
    have hrest := ih fun other hmem => h other (List.mem_cons_of_mem _ hmem)
    have haction := h action List.mem_cons_self
    cases action with
    | pttStarted => exact haction.elim
    | pttEnded => exact haction.elim
    | playRequested => exact haction.elim
    | playbackPreempted => exact .playbackPreempted hrest
    | rejectedBusy => exact .rejectedBusy hrest

theorem foldl_requestAfterAction_neutral (standing : Option PlayRequest) {pushed : List DeviceAction}
    (h : ∀ action ∈ pushed, action.Neutral) : pushed.foldl requestAfterAction standing = standing := by
  induction pushed with
  | nil => rfl
  | cons action pushed ih =>
    have hrest := ih fun other hmem => h other (List.mem_cons_of_mem _ hmem)
    have haction := h action List.mem_cons_self
    cases action with
    | pttStarted => exact haction.elim
    | pttEnded => exact haction.elim
    | playRequested => exact haction.elim
    | playbackPreempted => exact hrest
    | rejectedBusy => exact hrest

section Concat
variable {seen : SlotTrace} {event : SlotEvent} {answer : SlotAnswer}

theorem emitted_concat : emitted (seen ++ [(event, answer)]) = emitted seen ++ answer.emitted := by
  simp [emitted]

theorem standingRequest_concat :
    standingRequest (seen ++ [(event, answer)]) = requestAfter (standingRequest seen) (event, answer) := by
  simp [standingRequest]

theorem Begun.concat {begin : SlotPlaybackBegin} {since : SlotTrace} {frames : Nat}
    (h : Begun seen begin since frames)
    (hframe : acceptedFrame (event, answer) = none) :
    Begun (seen ++ [(event, answer)]) begin (since ++ [(event, answer)]) frames := by
  obtain ⟨⟨before, rfl⟩, haccepted⟩ := h
  refine ⟨⟨before, by simp⟩, ?_⟩
  rw [acceptedFrames, List.filterMap_append, List.filterMap_cons_none hframe,
    List.filterMap_nil, List.append_nil]
  exact haccepted

theorem Begun.frame {begin : SlotPlaybackBegin} {since : SlotTrace} {frames : Nat}
    (h : Begun seen begin since frames) :
    Begun (seen ++ [(.frame begin.identity frames, .framed .accepted)]) begin
      (since ++ [(.frame begin.identity frames, .framed .accepted)]) (frames + 1) := by
  obtain ⟨⟨before, rfl⟩, haccepted⟩ := h
  refine ⟨⟨before, by simp⟩, ?_⟩
  rw [acceptedFrames, List.filterMap_append, ← acceptedFrames, haccepted, List.range_succ, List.map_append]
  rfl

theorem requestAfter_quiet {standing : Option PlayRequest}
    (hevent : ∀ generation, event ≠ .disconnect generation)
    (hquiet : answer.Quiet) : requestAfter standing (event, answer) = standing := by
  cases answer with
  | actions pushed =>
    cases event with
    | disconnect generation => exact absurd rfl (hevent generation)
    | _ => exact foldl_requestAfterAction_neutral standing hquiet
  | begun result =>
    cases event with
    | disconnect generation => exact absurd rfl (hevent generation)
    | _ => cases result <;> first | rfl | exact absurd rfl hquiet
  | framed result =>
    cases event with
    | disconnect generation => exact absurd rfl (hevent generation)
    | _ => rfl
  | done result =>
    cases event with
    | disconnect generation => exact absurd rfl (hevent generation)
    | _ => rfl

theorem acceptedFrame_quiet (hquiet : answer.Quiet) : acceptedFrame (event, answer) = none := by
  cases event with
  | frame identity frameSequence =>
    cases answer with
    | framed result => cases result <;> first | rfl | exact absurd rfl hquiet
    | _ => rfl
  | _ => rfl

theorem pttRun_quiet {first last : Option SlotCapture} (h : PttRun first (emitted seen) last)
    (hquiet : answer.Quiet) :
    PttRun first (emitted (seen ++ [(event, answer)])) last := by
  rw [emitted_concat]
  refine h.append ?_
  cases answer with
  | actions pushed => exact .of_neutral last hquiet
  | begun result => exact .nil last
  | framed result => exact .nil last
  | done result => exact .nil last

end Concat

namespace CodexSlotState

/-- A call, its answer and the state after it. -/
inductive Transition (s : CodexSlotState) : SlotEvent → SlotAnswer → CodexSlotState → Prop
  | nothing {event : SlotEvent} {answer : SlotAnswer}
    (hevent : ∀ generation, event ≠ .disconnect generation)
      (hquiet : answer.Quiet) : Transition s event answer s
  | seeded (seed : Nat) (hidle : s.captureGeneration = 0) :
    Transition s (.seed seed) (.actions []) { s with captureCounter := seed }
  | cleared {event : SlotEvent} {answer : SlotAnswer}
    (hevent : ∀ generation, event ≠ .disconnect generation)
      (hquiet : answer.Quiet) : Transition s event answer s.clearPlayback
  | captureStarted (input : InputId) (slot generation connectionGeneration : Nat)
    (preempted : List DeviceAction)
      (hidle : s.captureGeneration = 0) (hgeneration : generation ≠ 0)
      (hpreempted : ∀ action ∈ preempted, action.Neutral) :
      Transition s (.input input .pressed connectionGeneration)
        (.actions (preempted ++ [.pttStarted slot generation connectionGeneration]))
        { s.preemptPlayback.2.clearPending with
          captureCounter := generation, captureSlot := slot, captureGeneration := generation
          captureConnectionGeneration := connectionGeneration }
  | captureEnded (input : InputId) (connectionGeneration : Nat) (hactive : s.captureGeneration ≠ 0) :
      Transition s (.input input .released connectionGeneration)
        (.actions [.pttEnded s.captureSlot s.captureGeneration s.captureConnectionGeneration])
          s.clearCapture
  | playRequested (input : InputId) (slot generation connectionGeneration : Nat)
    (preempted : List DeviceAction)
      (hidle : s.captureGeneration = 0) (hslot : slot ≠ 0)
      (hpreempted : ∀ action ∈ preempted, action.Neutral) :
      Transition s (.input input .pressed connectionGeneration)
        (.actions (preempted ++ [.playRequested slot generation connectionGeneration]))
        { s.preemptPlayback.2 with
          requestCounter := generation, pendingPlaySlot := slot, pendingPlayRequestGeneration := generation
          pendingPlayConnectionGeneration := connectionGeneration }
  | begun (begin : SlotPlaybackBegin) (hidle : s.captureGeneration = 0)
    (hplayback : s.playbackPhase = .idle)
      (hslot : begin.identity.slot ≠ 0) (hrequest : s.pendingPlaySlot = begin.identity.slot
        ∧ s.pendingPlayRequestGeneration = begin.requestGeneration
        ∧ s.pendingPlayConnectionGeneration = begin.identity.connectionGeneration) :
      Transition s (.begin begin) (.begun .accepted)
        { s.clearPending with
          playbackIdentity := begin.identity, activePlayRequestGeneration := begin.requestGeneration
          playbackTotalFrames := begin.totalFrames, playbackTotalSamples := begin.totalSamples,
          playbackNextFrame := 0
          playbackPhase := .buffering }
  | playing (identity : SlotPlaybackIdentity) (hphase : s.playbackPhase = .buffering) :
      Transition s (.started identity) (.done true) { s with playbackPhase := .playing }
  | frameAccepted (hphase : s.playbackPhase = .buffering ∨ s.playbackPhase = .playing)
      (hmore : s.playbackNextFrame < s.playbackTotalFrames) :
      Transition s (.frame s.playbackIdentity s.playbackNextFrame) (.framed .accepted)
        { s with playbackNextFrame := s.playbackNextFrame + 1 }
  | transferred (identity : SlotPlaybackIdentity) (lastFrameSequence : Nat)
      (hphase : s.playbackPhase = .buffering ∨ s.playbackPhase = .playing)
      (hall : s.playbackNextFrame = s.playbackTotalFrames) :
      Transition s (.transferComplete identity lastFrameSequence) (.done true)
        { s with playbackPhase := .transferComplete }
  | drained (hphase : s.playbackPhase = .transferComplete) :
      Transition s (.drained s.playbackIdentity s.playbackTotalSamples) (.done true)
        { s with playbackPhase := .finishedPendingAck }
  | disconnected (connectionGeneration : Nat) :
      Transition s (.disconnect connectionGeneration) (.actions (s.disconnect connectionGeneration).1)
        (s.disconnect connectionGeneration).2

theorem neutral_preempt (s : CodexSlotState) : ∀ action ∈ s.preemptPlayback.1, action.Neutral := by
  rw [preemptPlayback]
  split
  · exact fun _ hmem => absurd hmem List.not_mem_nil
  · intro action hmem
    rw [List.mem_singleton.mp hmem]
    trivial

theorem nextNonzero_ne_zero (counter : Nat) : nextNonzero counter ≠ 0 := by
  rw [nextNonzero]
  split <;> omega

theorem captureActive_eq_false {s : CodexSlotState} :
    s.captureActive = false ↔ s.captureGeneration = 0 := by
  simp [captureActive]

theorem neutral_append {left right : List DeviceAction} (hl : ∀ action ∈ left, action.Neutral)
    (hr : ∀ action ∈ right, action.Neutral) : ∀ action ∈ left ++ right, action.Neutral := by
  intro action hmem
  rcases List.mem_append.mp hmem with h | h
  · exact hl action h
  · exact hr action h

theorem neutral_rejected (slot : Nat) : ∀ action ∈ [DeviceAction.rejectedBusy slot], action.Neutral := by
  intro action hmem
  rw [List.mem_singleton.mp hmem]
  trivial

theorem neutral_nil : ∀ action ∈ ([] : List DeviceAction), action.Neutral :=
  fun _ hmem => absurd hmem List.not_mem_nil

section Input
variable {s : CodexSlotState} (input : InputId) (connectionGeneration : Nat)

theorem transition_unrouted (ptt : Bool) (slot : Nat) (phase : InputPhase) :
    Transition s (.input input phase connectionGeneration) (.actions (s.handleUnrouted ptt slot phase).1)
      (s.handleUnrouted ptt slot phase).2 := by
  cases phase with
  | released => exact .nothing (fun _ => nofun) neutral_nil
  | pressed =>
    rw [handleUnrouted]
    cases ptt with
    | false => exact .nothing (fun _ => nofun) (neutral_rejected slot)
    | true =>
      have hneutral := neutral_append s.neutral_preempt (neutral_rejected slot)
      rw [if_pos rfl]
      rw [preemptPlayback] at hneutral ⊢
      split at hneutral
      · rename_i hidle
        rw [if_pos hidle]
        exact .nothing (fun _ => nofun) hneutral
      · rename_i hbusy
        rw [if_neg hbusy]
        exact .cleared (fun _ => nofun) hneutral

theorem transition_ptt (slot : Nat) (phase : InputPhase) :
    Transition s (.input input phase connectionGeneration)
      (.actions (s.handlePtt slot connectionGeneration phase).1)
      (s.handlePtt slot connectionGeneration phase).2 := by
  cases phase with
  | pressed =>
    rw [handlePtt]
    split
    · split
      · exact .nothing (fun _ => nofun) (neutral_rejected slot)
      · exact .nothing (fun _ => nofun) neutral_nil
    · rename_i hidle
      exact .captureStarted input slot _ connectionGeneration _
        (captureActive_eq_false.mp (by simpa using hidle))
        (nextNonzero_ne_zero _) s.neutral_preempt
  | released =>
    rw [handlePtt]
    split
    · rename_i hactive
      have hgeneration : s.captureGeneration ≠ 0 := by simpa [captureActive] using hactive.1
      rw [← hactive.2]
      exact .captureEnded input connectionGeneration hgeneration
    · exact .nothing (fun _ => nofun) neutral_nil

theorem transition_play {slot : Nat} (hslot : slot ≠ 0) :
    Transition s (.input input .pressed connectionGeneration)
      (.actions (s.handlePlay slot connectionGeneration).1)
      (s.handlePlay slot connectionGeneration).2 := by
  rw [handlePlay]
  split
  · exact .nothing (fun _ => nofun) (neutral_rejected slot)
  · rename_i hidle
    split
    · exact .nothing (fun _ => nofun) neutral_nil
    · exact .playRequested input slot _ connectionGeneration _
        (captureActive_eq_false.mp (by simpa using hidle)) hslot
        s.neutral_preempt

theorem transition_input (phase : InputPhase) :
    Transition s (.input input phase connectionGeneration)
      (.actions (s.handleInput input phase connectionGeneration).1)
      (s.handleInput input phase connectionGeneration).2 := by
  rw [handleInput]
  cases pttSlotForInput input with
  | some slot =>
    dsimp only
    split
    · exact transition_unrouted input connectionGeneration true slot phase
    · exact transition_ptt input connectionGeneration slot phase
  | none =>
    cases hplay : playSlotForInput input with
    | none => exact .nothing (fun _ => nofun) neutral_nil
    | some slot =>
      have hslot : slot ≠ 0 := by
        cases input <;> cases hplay <;> decide
      dsimp only
      split
      · exact transition_unrouted input connectionGeneration false slot phase
      · cases phase with
        | released => exact .nothing (fun _ => nofun) neutral_nil
        | pressed => exact transition_play input connectionGeneration hslot

end Input

section Playback
variable (s : CodexSlotState)

theorem playbackMatches_iff {identity : SlotPlaybackIdentity} :
    s.playbackMatches identity = true ↔
      s.playbackPhase ≠ .idle ∧ validPlaybackIdentity identity = true ∧ s.playbackIdentity = identity := by
  simp [playbackMatches, and_assoc]

theorem transition_begin (begin : SlotPlaybackBegin) :
    Transition s (.begin begin) (.begun (s.beginPlayback begin).1) (s.beginPlayback begin).2 := by
  rw [beginPlayback]
  split
  · exact .nothing (fun _ => nofun) nofun
  · rename_i hvalid
    split
    · exact .nothing (fun _ => nofun) nofun
    · rename_i hidle
      split
      · split <;> exact .nothing (fun _ => nofun) nofun
      · rename_i hphase
        split
        · exact .nothing (fun _ => nofun) nofun
        · rename_i hrequest
          simp only [not_or, not_not] at hphase hrequest
          have hslot : begin.identity.slot ≠ 0 := by
            intro hzero
            simp [validPlaybackIdentity, hzero] at hvalid
          exact .begun begin (captureActive_eq_false.mp (by simpa using hidle)) hphase hslot hrequest

theorem transition_frame (identity : SlotPlaybackIdentity) (frameSequence : Nat) :
    Transition s (.frame identity frameSequence) (.framed (s.acceptPlaybackFrame identity frameSequence).1)
      (s.acceptPlaybackFrame identity frameSequence).2 := by
  rw [acceptPlaybackFrame]
  split
  · exact .nothing (fun _ => nofun) nofun
  · split
    · exact .nothing (fun _ => nofun) nofun
    · rename_i hmatch
      split
      · exact .nothing (fun _ => nofun) nofun
      · rename_i hrange
        split
        · exact .nothing (fun _ => nofun) nofun
        · rename_i hnotold
          split
          · exact .nothing (fun _ => nofun) nofun
          · rename_i hnotnew
            obtain rfl : frameSequence = s.playbackNextFrame := by omega
            simp only [Bool.or_eq_true, Bool.not_eq_true', Bool.and_eq_true, bne_iff_ne,
              not_or, not_and, not_not,
              Bool.not_eq_false, playbackMatches_iff] at hmatch
            obtain ⟨⟨-, -, rfl⟩, hphase⟩ := hmatch
            have hphases : s.playbackPhase = .buffering ∨ s.playbackPhase = .playing := by
              by_cases hbuffering : s.playbackPhase = .buffering
              · exact .inl hbuffering
              · exact .inr (hphase hbuffering)
            exact .frameAccepted hphases (by omega)

theorem transition_step (event : SlotEvent) : Transition s event (s.step event).1 (s.step event).2 := by
  cases event with
  | seed seed =>
    simp only [step, seedCaptureCounter]
    split
    · rename_i hidle
      exact .seeded seed hidle.1
    · exact .nothing (fun _ => nofun) neutral_nil
  | input input phase connectionGeneration => exact transition_input input connectionGeneration phase
  | begin begin => exact transition_begin s begin
  | started identity =>
    simp only [step, markPlaybackStarted]
    split
    · exact .nothing (fun _ => nofun) trivial
    · rename_i hmatch
      simp only [Bool.or_eq_true, Bool.not_eq_true', bne_iff_ne, not_or, not_not] at hmatch
      exact .playing identity hmatch.2
  | frame identity frameSequence => exact transition_frame s identity frameSequence
  | transferComplete identity lastFrameSequence =>
    simp only [step, markPlaybackTransferComplete]
    split
    · exact .nothing (fun _ => nofun) trivial
    · rename_i hmatch
      simp only [Bool.or_eq_true, Bool.not_eq_true', Bool.and_eq_true, bne_iff_ne,
        not_or, not_and, not_not] at hmatch
      obtain ⟨⟨⟨-, hphase⟩, hall⟩, -⟩ := hmatch
      have hphases : s.playbackPhase = .buffering ∨ s.playbackPhase = .playing := by
        by_cases hbuffering : s.playbackPhase = .buffering
        · exact .inl hbuffering
        · exact .inr (hphase hbuffering)
      exact .transferred identity lastFrameSequence hphases hall
  | drained identity playedSamples =>
    simp only [step, markPlaybackDrained]
    split
    · exact .nothing (fun _ => nofun) trivial
    · rename_i hmatch
      simp only [Bool.or_eq_true, Bool.not_eq_true', bne_iff_ne, not_or, not_not,
        Bool.not_eq_false, playbackMatches_iff] at hmatch
      obtain ⟨⟨⟨-, -, rfl⟩, hphase⟩, rfl⟩ := hmatch
      exact .drained hphase
  | acknowledge identity =>
    simp only [step, acknowledgeFinished]
    split
    · exact .nothing (fun _ => nofun) trivial
    · exact .cleared (fun _ => nofun) trivial
  | abort identity =>
    simp only [step, abortPlayback]
    split
    · exact .cleared (fun _ => nofun) trivial
    · exact .nothing (fun _ => nofun) trivial
  | disconnect connectionGeneration => exact .disconnected connectionGeneration

end Playback

/-! ## What the state says of the run -/

def openCapture (s : CodexSlotState) : Option SlotCapture :=
  if s.captureGeneration = 0 then none else
    some ⟨s.captureSlot, s.captureGeneration, s.captureConnectionGeneration⟩

def openRequest (s : CodexSlotState) : Option PlayRequest :=
  if s.pendingPlaySlot = 0 then none
  else some ⟨s.pendingPlaySlot, s.pendingPlayRequestGeneration, s.pendingPlayConnectionGeneration⟩

/-- How far the playback has come since it began. -/
def Progress (seen : SlotTrace) (s : CodexSlotState) : Prop :=
  ∃ begin since, Begun seen begin since s.playbackNextFrame ∧ s.playbackIdentity = begin.identity
    ∧ s.playbackTotalFrames = begin.totalFrames ∧ s.playbackTotalSamples = begin.totalSamples
    ∧ (s.playbackPhase = .finishedPendingAck →
      (.drained begin.identity begin.totalSamples, .done true) ∈ since)

/-- The three parts of the state exclude one another. -/
structure Shape (s : CodexSlotState) : Prop where
  capturing : s.captureGeneration ≠ 0 → s.playbackPhase = .idle ∧ s.pendingPlaySlot = 0
  pending : s.pendingPlaySlot ≠ 0 → s.playbackPhase = .idle
  none_pending : s.pendingPlaySlot = 0 → s.pendingPlayRequestGeneration = 0 ∧
    s.pendingPlayConnectionGeneration = 0
  next_le : s.playbackNextFrame ≤ s.playbackTotalFrames
  complete : s.playbackPhase = .transferComplete ∨ s.playbackPhase = .finishedPendingAck →
    s.playbackNextFrame = s.playbackTotalFrames

/-- Each part of the state is what the run says it is. -/
structure Sound (seen : SlotTrace) (s : CodexSlotState) : Prop extends Shape s where
  ptt : PttRun none (emitted seen) s.openCapture
  request : standingRequest seen = s.openRequest
  progress : s.playbackPhase ≠ .idle → Progress seen s

theorem preempt_cases (s : CodexSlotState) :
    (s.playbackPhase = .idle ∧ s.preemptPlayback.2 = s) ∨ s.preemptPlayback.2 = s.clearPlayback := by
  rw [preemptPlayback]
  split
  · rename_i hidle
    exact .inl ⟨hidle, rfl⟩
  · exact .inr rfl

theorem preempt_playback (s : CodexSlotState) : s.preemptPlayback.2.playbackPhase = .idle
    ∧ (s.preemptPlayback.2.playbackNextFrame = s.playbackNextFrame ∧
      s.preemptPlayback.2.playbackTotalFrames = s.playbackTotalFrames
      ∨ s.preemptPlayback.2.playbackNextFrame = 0) := by
  rcases s.preempt_cases with ⟨hidle, hsame⟩ | hcleared
  · rw [hsame]
    exact ⟨hidle, .inl ⟨rfl, rfl⟩⟩
  · rw [hcleared]
    exact ⟨rfl, .inr rfl⟩

theorem preempt_next_le {s : CodexSlotState} (h : s.playbackNextFrame ≤ s.playbackTotalFrames) :
    s.preemptPlayback.2.playbackNextFrame ≤ s.preemptPlayback.2.playbackTotalFrames := by
  rcases s.preempt_playback.2 with ⟨hnext, htotal⟩ | hzero
  · rw [hnext, htotal]
    exact h
  · rw [hzero]
    exact Nat.zero_le _

theorem preempt_rest (s : CodexSlotState) : s.preemptPlayback.2.captureGeneration = s.captureGeneration
    ∧ s.preemptPlayback.2.openCapture = s.openCapture ∧ s.preemptPlayback.2.openRequest = s.openRequest
    ∧ s.preemptPlayback.2.pendingPlaySlot = s.pendingPlaySlot
    ∧ s.preemptPlayback.2.pendingPlayRequestGeneration = s.pendingPlayRequestGeneration
    ∧ s.preemptPlayback.2.pendingPlayConnectionGeneration = s.pendingPlayConnectionGeneration := by
  rcases s.preempt_cases with ⟨-, hsame⟩ | hcleared
  · rw [hsame]
    exact ⟨rfl, rfl, rfl, rfl, rfl, rfl⟩
  · rw [hcleared]
    exact ⟨rfl, rfl, rfl, rfl, rfl, rfl⟩

section Sound
variable {seen : SlotTrace} {s : CodexSlotState} {event : SlotEvent} {answer : SlotAnswer}

theorem Progress.concat (h : Progress seen s) (hframe : acceptedFrame (event, answer) = none) :
    Progress (seen ++ [(event, answer)]) s := by
  obtain ⟨begin, since, hbegun, hidentity, htotal, hsamples, hdrained⟩ := h
  exact ⟨begin, _, hbegun.concat hframe, hidentity, htotal, hsamples,
    fun hphase => List.mem_append_left _ (hdrained hphase)⟩

theorem Sound.nothing (h : Sound seen s) (hevent : ∀ generation, event ≠ .disconnect generation)
    (hquiet : answer.Quiet) :
    Sound (seen ++ [(event, answer)]) s where
  capturing := h.capturing
  pending := h.pending
  none_pending := h.none_pending
  next_le := h.next_le
  complete := h.complete
  ptt := pttRun_quiet h.ptt hquiet
  request := by rw [standingRequest_concat, requestAfter_quiet hevent hquiet, h.request]
  progress hphase := (h.progress hphase).concat (acceptedFrame_quiet hquiet)

theorem Sound.cleared (h : Sound seen s) (hevent : ∀ generation, event ≠ .disconnect generation)
    (hquiet : answer.Quiet) :
    Sound (seen ++ [(event, answer)]) s.clearPlayback where
  capturing hactive := ⟨rfl, (h.capturing hactive).2⟩
  pending _ := rfl
  none_pending := h.none_pending
  next_le := Nat.le_refl 0
  complete _ := rfl
  ptt := pttRun_quiet h.ptt hquiet
  request := by
    rw [standingRequest_concat, requestAfter_quiet hevent hquiet, h.request]
    rfl
  progress hphase := absurd rfl hphase

theorem foldl_requestAfterAction_concat (standing : Option PlayRequest)
    {preempted : List DeviceAction} (action : DeviceAction)
    (h : ∀ action ∈ preempted, action.Neutral) :
    (preempted ++ [action]).foldl requestAfterAction standing = requestAfterAction standing action := by
  rw [List.foldl_append, foldl_requestAfterAction_neutral standing h]
  rfl

theorem Sound.captureStarted (h : Sound seen s) (input : InputId)
    (slot generation connectionGeneration : Nat)
    {preempted : List DeviceAction} (hidle : s.captureGeneration = 0) (hgeneration : generation ≠ 0)
    (hpreempted : ∀ action ∈ preempted, action.Neutral) :
    Sound (seen ++ [(.input input .pressed connectionGeneration,
        .actions (preempted ++ [.pttStarted slot generation connectionGeneration]))])
      { s.preemptPlayback.2.clearPending with
        captureCounter := generation, captureSlot := slot, captureGeneration := generation
        captureConnectionGeneration := connectionGeneration } where
  capturing _ := ⟨s.preempt_playback.1, rfl⟩
  pending hpending := absurd rfl hpending
  none_pending _ := ⟨rfl, rfl⟩
  next_le := preempt_next_le h.next_le
  complete hphase := by
    have hphases := s.preempt_playback.1
    rcases hphase with hphase | hphase <;> exact absurd (hphases.symm.trans hphase) (by decide)
  ptt := by
    have hclosed : s.openCapture = none := if_pos hidle
    have hopen := h.ptt
    rw [hclosed] at hopen
    rw [emitted_concat, openCapture, if_neg hgeneration]
    exact hopen.append ((PttRun.of_neutral none hpreempted).append (.started (.nil _)))
  request := by
    rw [standingRequest_concat]
    exact foldl_requestAfterAction_concat _ _ hpreempted
  progress hphase := absurd s.preempt_playback.1 hphase

theorem Sound.playRequested (h : Sound seen s) (input : InputId) {slot : Nat}
    (generation connectionGeneration : Nat)
    {preempted : List DeviceAction} (hidle : s.captureGeneration = 0) (hslot : slot ≠ 0)
    (hpreempted : ∀ action ∈ preempted, action.Neutral) :
    Sound (seen ++ [(.input input .pressed connectionGeneration,
        .actions (preempted ++ [.playRequested slot generation connectionGeneration]))])
      { s.preemptPlayback.2 with
        requestCounter := generation, pendingPlaySlot := slot, pendingPlayRequestGeneration := generation
        pendingPlayConnectionGeneration := connectionGeneration } where
  capturing hactive := absurd (s.preempt_rest.1.trans hidle) hactive
  pending _ := s.preempt_playback.1
  none_pending hzero := absurd hzero hslot
  next_le := preempt_next_le h.next_le
  complete hphase := by
    have hphases := s.preempt_playback.1
    rcases hphase with hphase | hphase <;> exact absurd (hphases.symm.trans hphase) (by decide)
  ptt := by
    have hopen := h.ptt
    rw [← s.preempt_rest.2.1] at hopen
    rw [emitted_concat]
    exact hopen.append ((PttRun.of_neutral _ hpreempted).append (.playRequested (.nil _)))
  request := by
    rw [standingRequest_concat, openRequest, if_neg hslot]
    exact foldl_requestAfterAction_concat _ _ hpreempted
  progress hphase := absurd s.preempt_playback.1 hphase

theorem Sound.begun (h : Sound seen s) {begin : SlotPlaybackBegin} (hidle : s.captureGeneration = 0) :
    Sound (seen ++ [(.begin begin, .begun .accepted)])
      { s.clearPending with
        playbackIdentity := begin.identity, activePlayRequestGeneration := begin.requestGeneration
        playbackTotalFrames := begin.totalFrames, playbackTotalSamples := begin.totalSamples,
        playbackNextFrame := 0
        playbackPhase := .buffering } where
  capturing hactive := absurd hidle hactive
  pending hpending := absurd rfl hpending
  none_pending _ := ⟨rfl, rfl⟩
  next_le := Nat.zero_le _
  complete hphase := by rcases hphase with hphase | hphase <;> cases hphase
  ptt := by
    rw [emitted_concat]
    exact h.ptt.append (.nil _)
  request := by
    rw [standingRequest_concat]
    rfl
  progress _ := ⟨begin, [], ⟨⟨seen, rfl⟩, rfl⟩, rfl, rfl, rfl, fun hphase => by cases hphase⟩

/-- A call of the playback in progress that says only that it was done. -/
theorem Sound.phase (h : Sound seen s) {phase : SlotPlaybackPhase}
    (hevent : ∀ generation, event ≠ .disconnect generation)
    (hbusy : s.playbackPhase ≠ .idle)
    (hcomplete : phase = .transferComplete ∨ phase = .finishedPendingAck →
      s.playbackNextFrame = s.playbackTotalFrames)
    (hfinished : phase = .finishedPendingAck → event = .drained s.playbackIdentity s.playbackTotalSamples) :
    Sound (seen ++ [(event, .done true)]) { s with playbackPhase := phase } where
  capturing hactive := absurd (h.capturing hactive).1 hbusy
  pending hpending := absurd (h.pending hpending) hbusy
  none_pending := h.none_pending
  next_le := h.next_le
  complete := hcomplete
  ptt := pttRun_quiet h.ptt trivial
  request := by
    have hquiet : SlotAnswer.Quiet (.done true) := trivial
    rw [standingRequest_concat, requestAfter_quiet hevent hquiet, h.request]
    rfl
  progress _ := by
    obtain ⟨begin, since, hbegun, hidentity, htotal, hsamples, -⟩ := h.progress hbusy
    refine ⟨begin, _, hbegun.concat (acceptedFrame_quiet trivial),
      hidentity, htotal, hsamples, fun hphase => ?_⟩
    rw [hfinished hphase, hidentity, hsamples]
    exact List.mem_append_right _ List.mem_cons_self

theorem Sound.frameAccepted (h : Sound seen s)
    (hphase : s.playbackPhase = .buffering ∨ s.playbackPhase = .playing)
    (hmore : s.playbackNextFrame < s.playbackTotalFrames) :
    Sound (seen ++ [(.frame s.playbackIdentity s.playbackNextFrame, .framed .accepted)])
      { s with playbackNextFrame := s.playbackNextFrame + 1 } := by
  have hbusy : s.playbackPhase ≠ .idle := by rcases hphase with hphase | hphase <;> rw [hphase] <;> decide
  refine ⟨⟨h.capturing, h.pending, h.none_pending, hmore, fun hcomplete => ?_⟩, ?_, ?_, fun _ => ?_⟩
  · rcases hcomplete with hcomplete | hcomplete <;> rcases hphase with hphase | hphase <;>
      exact absurd (hphase.symm.trans hcomplete) (by decide)
  · rw [emitted_concat]
    exact h.ptt.append (.nil _)
  · rw [standingRequest_concat, h.request]
    rfl
  · obtain ⟨begin, since, hbegun, hidentity, htotal, hsamples, -⟩ := h.progress hbusy
    have hframes := hbegun.frame
    rw [← hidentity] at hframes
    refine ⟨begin, _, hframes, hidentity, htotal, hsamples, fun hfinished => ?_⟩
    rcases hphase with hphase | hphase <;> exact absurd (hphase.symm.trans hfinished) (by decide)

/-! A disconnect ends the capture, then the request, then the playback of its connection. -/

theorem disconnectCapture_spec (s : CodexSlotState) (connectionGeneration : Nat) :
    PttRun s.openCapture (s.disconnectCapture connectionGeneration).1
      (s.disconnectCapture connectionGeneration).2.openCapture
      ∧ ((s.disconnectCapture connectionGeneration).2 = s ∨
        (s.disconnectCapture connectionGeneration).2 = s.clearCapture)
      ∧ ∀ standing, (s.disconnectCapture connectionGeneration).1.foldl requestAfterAction standing =
        standing := by
  rw [disconnectCapture]
  split
  · rename_i hended
    have hactive : s.captureGeneration ≠ 0 := by simpa [captureActive] using hended.1
    refine ⟨?_, .inr rfl, fun _ => rfl⟩
    rw [openCapture, if_neg hactive]
    exact .ended (.nil _)
  · exact ⟨.nil _, .inl rfl, fun _ => rfl⟩

theorem disconnectPending_spec (s : CodexSlotState) (connectionGeneration : Nat) :
    (s.disconnectPending connectionGeneration).openRequest = s.openRequest.filter (fun request =>
        !(connectionGeneration == 0 || request.connectionGeneration == connectionGeneration))
      ∧ (s.disconnectPending connectionGeneration = s ∨
        s.disconnectPending connectionGeneration = s.clearPending) := by
  rw [disconnectPending]
  by_cases hnone : s.pendingPlaySlot = 0
  · have hopen : s.openRequest = none := if_pos hnone
    rw [hopen]
    split
    · exact ⟨rfl, .inr rfl⟩
    · exact ⟨hopen, .inl rfl⟩
  · have hopen : s.openRequest =
        some ⟨s.pendingPlaySlot, s.pendingPlayRequestGeneration,
          s.pendingPlayConnectionGeneration⟩ := if_neg hnone
    rw [hopen]
    split
    · rename_i hmatch
      refine ⟨?_, .inr rfl⟩
      rw [Option.filter_some, if_neg]
      · rfl
      · simp only [Bool.not_eq_true', Bool.not_eq_false, Bool.or_eq_true, beq_iff_eq]
        exact hmatch
    · rename_i hother
      refine ⟨?_, .inl rfl⟩
      rw [Option.filter_some, if_pos (by simpa using hother)]
      exact hopen

theorem Shape.clearCapture (h : s.Shape) : s.clearCapture.Shape where
  capturing hactive := absurd rfl hactive
  pending := h.pending
  none_pending := h.none_pending
  next_le := h.next_le
  complete := h.complete

theorem Shape.clearPending (h : s.Shape) : s.clearPending.Shape where
  capturing hactive := ⟨(h.capturing hactive).1, rfl⟩
  pending hpending := absurd rfl hpending
  none_pending _ := ⟨rfl, rfl⟩
  next_le := h.next_le
  complete := h.complete

theorem Shape.preempt (h : s.Shape) : s.preemptPlayback.2.Shape := by
  rcases s.preempt_cases with ⟨-, hsame⟩ | hcleared
  · rw [hsame]
    exact h
  · rw [hcleared]
    exact ⟨fun hactive => ⟨rfl, (h.capturing hactive).2⟩, fun _ => rfl,
      h.none_pending, Nat.le_refl 0, fun _ => rfl⟩

/-- A disconnect ends what belongs to its connection. -/
theorem Sound.disconnected (h : Sound seen s) (connectionGeneration : Nat) :
    Sound (seen ++ [(.disconnect connectionGeneration, .actions (s.disconnect connectionGeneration).1)])
      (s.disconnect connectionGeneration).2 := by
  obtain ⟨hptt, hcapture, hactions⟩ := s.disconnectCapture_spec connectionGeneration
  generalize hcaptured : s.disconnectCapture connectionGeneration = captured at hptt hcapture hactions
  have hshape : captured.2.Shape := by
    rcases hcapture with heq | heq
    · rw [heq]
      exact h.toShape
    · rw [heq]
      exact h.toShape.clearCapture
  have hrequest : captured.2.openRequest = s.openRequest := by
    rcases hcapture with heq | heq
    · rw [heq]
    · rw [heq]
      rfl
  have hprogress : captured.2.playbackPhase ≠ .idle → Progress seen captured.2 := by
    rcases hcapture with heq | heq <;> rw [heq] <;> exact h.progress
  obtain ⟨hstanding, hpending⟩ := captured.2.disconnectPending_spec connectionGeneration
  have hdisconnect : s.disconnect connectionGeneration =
      if connectionGeneration = 0
        ∨ (captured.2.disconnectPending connectionGeneration).playbackIdentity.connectionGeneration =
          connectionGeneration then
        (captured.1 ++ (captured.2.disconnectPending connectionGeneration).preemptPlayback.1,
          (captured.2.disconnectPending connectionGeneration).preemptPlayback.2)
      else (captured.1, captured.2.disconnectPending connectionGeneration) := by
    rw [disconnect, hcaptured]
  rw [hdisconnect]
  generalize captured.2.disconnectPending connectionGeneration = kept at hstanding hpending
  have hkept : kept.Shape := by
    rcases hpending with heq | heq
    · rw [heq]
      exact hshape
    · rw [heq]
      exact hshape.clearPending
  have hopen : kept.openCapture = captured.2.openCapture := by
    rcases hpending with heq | heq
    · rw [heq]
    · rw [heq]
      rfl
  have hprogresses : kept.playbackPhase ≠ .idle → Progress seen kept := by
    rcases hpending with heq | heq <;> rw [heq] <;> exact hprogress
  have hstandings (answer : SlotAnswer) :
      standingRequest (seen ++ [(.disconnect connectionGeneration, answer)]) = kept.openRequest := by
    rw [standingRequest_concat, h.request, hstanding, hrequest]
    rfl
  split
  · refine ⟨hkept.preempt, ?_, ?_, fun hphase => absurd kept.preempt_playback.1 hphase⟩
    · rw [emitted_concat, kept.preempt_rest.2.1, hopen]
      exact h.ptt.append (hptt.append (.of_neutral _ kept.neutral_preempt))
    · rw [hstandings, kept.preempt_rest.2.2.1]
  · refine ⟨hkept, ?_, hstandings _, fun hphase => (hprogresses hphase).concat rfl⟩
    rw [emitted_concat, hopen]
    exact h.ptt.append hptt

theorem Sound.captureEnded (h : Sound seen s) (input : InputId) (connectionGeneration : Nat)
    (hactive : s.captureGeneration ≠ 0) :
    Sound (seen ++ [(.input input .released connectionGeneration,
        .actions [.pttEnded s.captureSlot s.captureGeneration s.captureConnectionGeneration])])
          s.clearCapture := by
  refine ⟨h.toShape.clearCapture, ?_, ?_, fun hphase => (h.progress hphase).concat rfl⟩
  · have hopen := h.ptt
    rw [openCapture, if_neg hactive] at hopen
    rw [emitted_concat]
    exact hopen.append (.ended (.nil _))
  · rw [standingRequest_concat, h.request]
    rfl

theorem Sound.transition {t : CodexSlotState} (h : Sound seen s)
    (htransition : Transition s event answer t) :
    Sound (seen ++ [(event, answer)]) t := by
  cases htransition with
  | nothing hevent hquiet => exact h.nothing hevent hquiet
  | seeded seed hidle =>
    exact { @Sound.nothing _ _ (.seed seed) (.actions []) h (fun _ => nofun) neutral_nil with }
  | cleared hevent hquiet => exact h.cleared hevent hquiet
  | captureStarted input slot generation connectionGeneration preempted hidle hgeneration hpreempted =>
    exact h.captureStarted input slot generation connectionGeneration hidle hgeneration hpreempted
  | captureEnded input connectionGeneration hactive =>
    exact h.captureEnded input connectionGeneration hactive
  | playRequested input slot generation connectionGeneration preempted hidle hslot hpreempted =>
    exact h.playRequested input generation connectionGeneration hidle hslot hpreempted
  | begun begin hidle hplayback hslot hrequest => exact h.begun hidle
  | playing identity hphase =>
    exact h.phase (fun _ => nofun) (by rw [hphase]; decide) (by rintro (h | h) <;> cases h) nofun
  | frameAccepted hphase hmore => exact h.frameAccepted hphase hmore
  | transferred identity lastFrameSequence hphase hall =>
    exact h.phase (fun _ => nofun) (by rcases hphase with h | h <;> rw [h] <;> decide) (fun _ => hall) nofun
  | drained hphase =>
    exact h.phase (fun _ => nofun) (by rw [hphase]; decide) (fun _ => h.complete (.inl hphase))
      (fun _ => rfl)
  | disconnected connectionGeneration => exact h.disconnected connectionGeneration

end Sound

theorem sound_start : Sound [] {} where
  capturing hactive := absurd rfl hactive
  pending hpending := absurd rfl hpending
  none_pending _ := ⟨rfl, rfl⟩
  next_le := Nat.le_refl 0
  complete _ := rfl
  ptt := .nil none
  request := rfl
  progress hphase := absurd rfl hphase

theorem sound_after (events : List SlotEvent) : Sound (trace step {} events) (after step {} events) :=
  trace_induction (I := Sound)
    (fun _ s event h => h.transition (s.transition_step event)) events sound_start

theorem beginPlayback_accepted {s : CodexSlotState} {begin : SlotPlaybackBegin}
    (h : (s.beginPlayback begin).1 = .accepted) :
    s.openRequest = some ⟨begin.identity.slot, begin.requestGeneration,
      begin.identity.connectionGeneration⟩ := by
  have htransition := s.transition_begin begin
  rw [h] at htransition
  generalize (s.beginPlayback begin).2 = t at htransition
  cases htransition with
  | nothing _ hquiet => exact absurd rfl hquiet
  | cleared _ hquiet => exact absurd rfl hquiet
  | begun _ _ _ hslot hrequest =>
    obtain ⟨hslots, hgenerations, hconnections⟩ := hrequest
    rw [openRequest, if_neg (hslots ▸ hslot), hslots, hgenerations, hconnections]

/-- In every run: captures start and end in turn, and a capture ends as what it started as; a
capture, a play request and a playback never stand together; a playback has no more frames than it
announced, and all of them once its transfer is complete; it begins only for the play request that
stands; and it is reported finished only after its frames came in order, each once, and all its
samples were played. -/
theorem slot_state_runs (events : List SlotEvent) :
    let seen := trace step {} events
    let s := after step {} events
    PttRun none (emitted seen) s.openCapture ∧
    (s.captureActive = true → s.playbackPhase = .idle ∧ s.openRequest = none) ∧
    (s.openRequest ≠ none → s.playbackPhase = .idle) ∧
    s.playbackNextFrame ≤ s.playbackTotalFrames ∧
    (s.playbackPhase = .transferComplete ∨ s.playbackPhase = .finishedPendingAck →
      s.playbackNextFrame = s.playbackTotalFrames) ∧
    (∀ begin, (s.beginPlayback begin).1 = .accepted → standingRequest seen =
      some ⟨begin.identity.slot, begin.requestGeneration, begin.identity.connectionGeneration⟩) ∧
    (∀ slot identity, s.pendingFinished = some (slot, identity) → slot = identity.slot ∧
      ∃ begin since, begin.identity = identity ∧ Begun seen begin since begin.totalFrames
        ∧ (.drained identity begin.totalSamples, .done true) ∈ since) := by
  intro seen s
  have hsound : Sound seen s := sound_after events
  refine ⟨hsound.ptt, fun hactive => ?_, fun hopen => ?_, hsound.next_le,
    hsound.complete, fun begin hbegin => ?_,
    fun slot identity hfinished => ?_⟩
  · obtain ⟨hidle, hnone⟩ := hsound.capturing (by simpa [captureActive] using hactive)
    exact ⟨hidle, if_pos hnone⟩
  · exact hsound.pending fun hnone => hopen (if_pos hnone)
  · rw [hsound.request, beginPlayback_accepted hbegin]
  · rw [pendingFinished] at hfinished
    split at hfinished
    · rename_i hphase
      cases hfinished
      obtain ⟨begin, since, hbegun, hidentity, htotal, -, hdrained⟩ :=
        hsound.progress (by rw [hphase]; decide)
      rw [hsound.complete (.inr hphase), htotal] at hbegun
      exact ⟨rfl, begin, since, hidentity.symm, hbegun, hidentity ▸ hdrained hphase⟩
    · cases hfinished

end CodexSlotState

end CodexKeyboard.Keyboard
