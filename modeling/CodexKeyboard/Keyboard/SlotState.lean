import Mathlib.Data.List.Basic
/-!
# The keyboard's slot state

`CodexSlotState` (`components/keyboard/src/codex_slot_state.cpp`): what the eight slot keys and the
playback of a summary do to one another. Counters are `uint32_t`.

| here | there |
| --- | --- |
| `SlotPlaybackIdentity`, `SlotPlaybackBegin` | codex_slot_state.h:38, 88 |
| `DeviceAction` | `DeviceActionKind` and the fields each kind fills in (codex_slot_state.h:28, 49) |
| `handleInput` | `CodexSlotState::handle_input` (codex_slot_state.cpp:76) |
| `beginPlayback` … `abortPlayback` | codex_slot_state.cpp:166-291 |
| `disconnect` | `CodexSlotState::disconnect` (codex_slot_state.cpp:293) |
-/

namespace CodexKeyboard.Keyboard

/-- `easy_codex::PlaybackIdentity`: the wire's identity without the request. -/
structure SlotPlaybackIdentity where
  slot : Nat := 0
  summaryGeneration : Nat := 0
  lease : Nat := 0
  connectionGeneration : Nat := 0
deriving DecidableEq, Repr

/-- `valid_playback_identity`. -/
def validPlaybackIdentity (identity : SlotPlaybackIdentity) : Bool :=
  decide (1 ≤ identity.slot ∧ identity.slot ≤ 4) && identity.summaryGeneration != 0 && identity.lease != 0
    && identity.connectionGeneration != 0

/-- `easy_codex::PlaybackBegin`. -/
structure SlotPlaybackBegin where
  identity : SlotPlaybackIdentity
  requestGeneration : Nat
  totalFrames : Nat
  totalSamples : Nat
deriving DecidableEq, Repr

inductive InputId where
  | key1 | key2 | key3 | key4 | key5 | key6 | key7 | key8
  | encoderLeft | encoderRight | encoderPress
deriving DecidableEq, Repr

inductive InputPhase where
  | pressed
  | released
deriving DecidableEq, Repr

/-- `DeviceAction`, with the fields of each kind. -/
inductive DeviceAction where
  | pttStarted (slot captureGeneration connectionGeneration : Nat)
  | pttEnded (slot captureGeneration connectionGeneration : Nat)
  | playRequested (slot requestGeneration connectionGeneration : Nat)
  | playbackPreempted (slot : Nat) (playback : SlotPlaybackIdentity)
  | rejectedBusy (slot : Nat)
deriving DecidableEq, Repr

inductive PlaybackBeginResult where
  | accepted
  | duplicate
  | busy
  | invalid
deriving DecidableEq, Repr

inductive PlaybackFrameResult where
  | accepted
  | duplicate
  | outOfOrder
  | stale
  | invalid
deriving DecidableEq, Repr

inductive SlotPlaybackPhase where
  | idle
  | buffering
  | playing
  | transferComplete
  | finishedPendingAck
deriving DecidableEq, Repr

structure CodexSlotState where
  captureCounter : Nat := 0
  requestCounter : Nat := 0
  pendingPlaySlot : Nat := 0
  pendingPlayRequestGeneration : Nat := 0
  pendingPlayConnectionGeneration : Nat := 0
  activePlayRequestGeneration : Nat := 0
  captureSlot : Nat := 0
  captureGeneration : Nat := 0
  captureConnectionGeneration : Nat := 0
  playbackPhase : SlotPlaybackPhase := .idle
  playbackIdentity : SlotPlaybackIdentity := {}
  playbackTotalFrames : Nat := 0
  playbackNextFrame : Nat := 0
  playbackTotalSamples : Nat := 0
deriving DecidableEq, Repr

/-- `next_nonzero`. -/
def nextNonzero (counter : Nat) : Nat := if counter = 0xFFFFFFFF then 1 else counter + 1

/-- `ptt_slot_for_input`. -/
def pttSlotForInput : InputId → Option Nat
  | .key1 => some 1
  | .key2 => some 2
  | .key3 => some 3
  | .key4 => some 4
  | _ => none

/-- `play_slot_for_input`. -/
def playSlotForInput : InputId → Option Nat
  | .key5 => some 1
  | .key6 => some 2
  | .key7 => some 3
  | .key8 => some 4
  | _ => none

namespace CodexSlotState

/-- `seed_capture_counter`. -/
def seedCaptureCounter (s : CodexSlotState) (seed : Nat) : CodexSlotState :=
  if s.captureGeneration = 0 ∧ s.captureCounter = 0 then { s with captureCounter := seed } else s

/-- `capture_active`. -/
def captureActive (s : CodexSlotState) : Bool := s.captureGeneration != 0

/-- `playback_matches`. -/
def playbackMatches (s : CodexSlotState) (identity : SlotPlaybackIdentity) : Bool :=
  s.playbackPhase != .idle && validPlaybackIdentity identity && decide (s.playbackIdentity = identity)

/-- `clear_playback`. -/
def clearPlayback (s : CodexSlotState) : CodexSlotState :=
  { s with
    playbackPhase := .idle, playbackIdentity := {}, playbackTotalFrames := 0, playbackNextFrame := 0
    playbackTotalSamples := 0, activePlayRequestGeneration := 0 }

/-- `preempt_playback`, when a playback is there. -/
def preemptPlayback (s : CodexSlotState) : List DeviceAction × CodexSlotState :=
  if s.playbackPhase = .idle then ([], s)
  else ([.playbackPreempted s.playbackIdentity.slot s.playbackIdentity], s.clearPlayback)

def clearPending (s : CodexSlotState) : CodexSlotState :=
  { s with pendingPlaySlot := 0, pendingPlayRequestGeneration := 0, pendingPlayConnectionGeneration := 0 }

def clearCapture (s : CodexSlotState) : CodexSlotState :=
  { s with captureSlot := 0, captureGeneration := 0, captureConnectionGeneration := 0 }

/-- A slot key without a connection (codex_slot_state.cpp:83). -/
def handleUnrouted (s : CodexSlotState) (ptt : Bool) (slot : Nat) :
    InputPhase → List DeviceAction × CodexSlotState
  | .released => ([], s)
  | .pressed =>
    if ptt then (s.preemptPlayback.1 ++ [.rejectedBusy slot], s.preemptPlayback.2) else
      ([.rejectedBusy slot], s)

/-- A key of the first row: push to talk (codex_slot_state.cpp:99). -/
def handlePtt (s : CodexSlotState) (slot connectionGeneration : Nat) :
    InputPhase → List DeviceAction × CodexSlotState
  | .pressed =>
    if s.captureActive then (if s.captureSlot ≠ slot then [.rejectedBusy slot] else [], s)
    else
      let preempted := s.preemptPlayback
      let generation := nextNonzero preempted.2.captureCounter
      (preempted.1 ++ [.pttStarted slot generation connectionGeneration],
        { preempted.2.clearPending with
          captureCounter := generation, captureSlot := slot, captureGeneration := generation
          captureConnectionGeneration := connectionGeneration })
  | .released =>
    if s.captureActive ∧ s.captureSlot = slot then
      ([.pttEnded slot s.captureGeneration s.captureConnectionGeneration], s.clearCapture)
    else ([], s)

/-- A key of the second row: play the summary (codex_slot_state.cpp:137). -/
def handlePlay (s : CodexSlotState) (slot connectionGeneration : Nat) :
    List DeviceAction × CodexSlotState :=
  if s.captureActive then ([.rejectedBusy slot], s)
  else if s.playbackPhase ≠ .idle ∧ s.playbackIdentity.slot = slot then ([], s)
  else
    let preempted := s.preemptPlayback
    let generation := nextNonzero preempted.2.requestCounter
    (preempted.1 ++ [.playRequested slot generation connectionGeneration],
      { preempted.2 with
        requestCounter := generation, pendingPlaySlot := slot, pendingPlayRequestGeneration := generation
        pendingPlayConnectionGeneration := connectionGeneration })

/-- `handle_input`. -/
def handleInput (s : CodexSlotState) (input : InputId) (phase : InputPhase) (connectionGeneration : Nat) :
    List DeviceAction × CodexSlotState :=
  match pttSlotForInput input with
  | some slot =>
    if connectionGeneration = 0 then s.handleUnrouted true slot phase else
      s.handlePtt slot connectionGeneration phase
  | none =>
    match playSlotForInput input with
    | none => ([], s)
    | some slot =>
      if connectionGeneration = 0 then s.handleUnrouted false slot phase
      else
        match phase with
        | .released => ([], s)
        | .pressed => s.handlePlay slot connectionGeneration

/-- `begin_playback`. -/
def beginPlayback (s : CodexSlotState) (begin : SlotPlaybackBegin) : PlaybackBeginResult × CodexSlotState :=
  if !validPlaybackIdentity begin.identity || begin.requestGeneration == 0 || begin.totalFrames == 0
      || begin.totalSamples == 0 then (.invalid, s)
  else if s.captureActive then (.busy, s)
  else if s.playbackPhase ≠ .idle then
    if s.playbackIdentity = begin.identity ∧ s.activePlayRequestGeneration = begin.requestGeneration
        ∧ s.playbackTotalFrames = begin.totalFrames ∧ s.playbackTotalSamples = begin.totalSamples
          then (.duplicate, s)
    else (.busy, s)
  else if s.pendingPlaySlot ≠ begin.identity.slot ∨ s.pendingPlayRequestGeneration ≠ begin.requestGeneration
      ∨ s.pendingPlayConnectionGeneration ≠ begin.identity.connectionGeneration then (.invalid, s)
  else
    (.accepted, { s.clearPending with
      playbackIdentity := begin.identity, activePlayRequestGeneration := begin.requestGeneration
      playbackTotalFrames := begin.totalFrames, playbackTotalSamples := begin.totalSamples,
      playbackNextFrame := 0
      playbackPhase := .buffering })

/-- `mark_playback_started`. -/
def markPlaybackStarted (s : CodexSlotState) (identity : SlotPlaybackIdentity) : Bool × CodexSlotState :=
  if !s.playbackMatches identity || s.playbackPhase != .buffering then (false, s)
  else (true, { s with playbackPhase := .playing })

/-- `accept_playback_frame`. -/
def acceptPlaybackFrame (s : CodexSlotState) (identity : SlotPlaybackIdentity) (frameSequence : Nat) :
    PlaybackFrameResult × CodexSlotState :=
  if !validPlaybackIdentity identity then (.invalid, s)
  else if !s.playbackMatches identity || (s.playbackPhase != .buffering &&
    s.playbackPhase != .playing) then (.stale, s)
  else if frameSequence ≥ s.playbackTotalFrames then (.invalid, s)
  else if frameSequence < s.playbackNextFrame then (.duplicate, s)
  else if frameSequence > s.playbackNextFrame then (.outOfOrder, s)
  else (.accepted, { s with playbackNextFrame := s.playbackNextFrame + 1 })

/-- `mark_playback_transfer_complete`. -/
def markPlaybackTransferComplete (s : CodexSlotState) (identity : SlotPlaybackIdentity)
    (lastFrameSequence : Nat) :
    Bool × CodexSlotState :=
  if !s.playbackMatches identity || (s.playbackPhase != .buffering && s.playbackPhase != .playing)
      || s.playbackNextFrame != s.playbackTotalFrames ||
        lastFrameSequence + 1 != s.playbackTotalFrames then (false, s)
  else (true, { s with playbackPhase := .transferComplete })

/-- `mark_playback_drained`. -/
def markPlaybackDrained (s : CodexSlotState) (identity : SlotPlaybackIdentity) (playedSamples : Nat) :
    Bool × CodexSlotState :=
  if !s.playbackMatches identity || s.playbackPhase != .transferComplete || playedSamples !=
    s.playbackTotalSamples then
    (false, s)
  else (true, { s with playbackPhase := .finishedPendingAck })

/-- `pending_finished`: the slot and the playback of its action. -/
def pendingFinished (s : CodexSlotState) : Option (Nat × SlotPlaybackIdentity) :=
  if s.playbackPhase = .finishedPendingAck then some (s.playbackIdentity.slot, s.playbackIdentity) else none

/-- `acknowledge_finished`. -/
def acknowledgeFinished (s : CodexSlotState) (identity : SlotPlaybackIdentity) : Bool × CodexSlotState :=
  if !s.playbackMatches identity || s.playbackPhase != .finishedPendingAck then (false, s) else
    (true, s.clearPlayback)

/-- `abort_playback`; the callers do not look at its answer. -/
def abortPlayback (s : CodexSlotState) (identity : SlotPlaybackIdentity) : CodexSlotState :=
  if s.playbackMatches identity then s.clearPlayback else s

/-- The capture that a lost connection ends. -/
def disconnectCapture (s : CodexSlotState) (connectionGeneration : Nat) :
    List DeviceAction × CodexSlotState :=
  if s.captureActive ∧ (connectionGeneration = 0 ∨
    s.captureConnectionGeneration = connectionGeneration) then
    ([.pttEnded s.captureSlot s.captureGeneration s.captureConnectionGeneration], s.clearCapture)
  else ([], s)

def disconnectPending (s : CodexSlotState) (connectionGeneration : Nat) : CodexSlotState :=
  if connectionGeneration = 0 ∨ s.pendingPlayConnectionGeneration = connectionGeneration then
    s.clearPending else s

/-- `disconnect`. -/
def disconnect (s : CodexSlotState) (connectionGeneration : Nat) : List DeviceAction × CodexSlotState :=
  let captured := s.disconnectCapture connectionGeneration
  let s := captured.2.disconnectPending connectionGeneration
  if connectionGeneration = 0 ∨ s.playbackIdentity.connectionGeneration = connectionGeneration then
    (captured.1 ++ s.preemptPlayback.1, s.preemptPlayback.2)
  else (captured.1, s)

end CodexSlotState

end CodexKeyboard.Keyboard
