import CodexKeyboard.Keyboard.SlotState
/-!
# The keyboard's speaker

`SpeakerPlayback` (`components/keyboard/src/speaker_playback.cpp`) and the part of `SpeakerOutput`
(`main/platform/speaker_output.cpp`) that the playback of a summary sees. The worker task is the
environment: `workerCompletes` is `publish_completed`. The worker answers `Succeeded` only after
`play_asset_frames` has decoded the asset to its end and every frame, with the zeros that drain
them, was written (speaker_output.cpp:1128-1237), so a stream whose job succeeded is recorded as
drained: `drained` is history. `audioOwner` is the speaker's generation in the `AudioIoArbiter`.

| here | there |
| --- | --- |
| `SpeakerPlayback` | speaker_playback.cpp:7-121 |
| `SpeakerOutput.submit` | `submit_open_asset_request` (speaker_output.cpp:478) |
| `requestStreamingAsset`, `requestEmbeddedAsset` | speaker_output.cpp:574, 542 |
| `poll`, `cancelActive`, `completePowerHandoff` | speaker_output.cpp:616, 828 |
-/

namespace CodexKeyboard.Keyboard

inductive SpeakerPlaybackPhase where
  | idle
  | starting
  | playing
  | draining
deriving DecidableEq, Repr

inductive SpeakerPlaybackResult where
  | none
  | succeeded
  | cancelled
  | failed
deriving DecidableEq, Repr

structure SpeakerPlayback where
  phase : SpeakerPlaybackPhase := .idle
  pendingResult : SpeakerPlaybackResult := .none
  lastResult : SpeakerPlaybackResult := .none
  generationCounter : Nat := 0
  activeGeneration : Nat := 0
deriving DecidableEq, Repr

namespace SpeakerPlayback

/-- `active`. -/
def active (p : SpeakerPlayback) : Bool := p.phase != .idle

/-- `request`, when the player is idle. -/
def request (p : SpeakerPlayback) : SpeakerPlayback :=
  { p with
    generationCounter :=
      nextNonzero p.generationCounter, activeGeneration := nextNonzero p.generationCounter
    pendingResult := .none, phase := .starting }

/-- `matches`. -/
def isActive (p : SpeakerPlayback) (generation : Nat) : Bool :=
  generation != 0 && p.phase != .idle && decide (generation = p.activeGeneration)

/-- `begin_drain`, which `finish`, `cancel` and `fail` call. -/
def beginDrain (p : SpeakerPlayback) (generation : Nat) (result : SpeakerPlaybackResult) :
    SpeakerPlayback :=
  if !p.isActive generation then p
  else if p.phase = .draining then (if result = .failed then { p with pendingResult := .failed } else p)
  else { p with pendingResult := result, phase := .draining }

/-- `mark_drained`. -/
def markDrained (p : SpeakerPlayback) (generation : Nat) : Bool × SpeakerPlayback :=
  if !p.isActive generation || p.phase != .draining then (false, p)
  else (true,
    { p with lastResult := p.pendingResult, activeGeneration := 0, pendingResult := .none, phase := .idle })

/-- `mark_started`. -/
def markStarted (p : SpeakerPlayback) (generation : Nat) : SpeakerPlayback :=
  if p.isActive generation ∧ p.phase = .starting then { p with phase := .playing } else p

end SpeakerPlayback

/-- What the worker plays: the stream of a summary, whose type `σ` says which, or another sound. -/
inductive SpeakerJob (σ : Type) where
  | stream (stream : σ)
  | sound
deriving DecidableEq, Repr

/-- `SpeakerOutput::WorkerResult`. -/
inductive WorkerResult where
  | succeeded
  | cancelled
  | failed
deriving DecidableEq, Repr

structure SpeakerOutput (σ : Type) where
  playback : SpeakerPlayback := {}
  reservedGeneration : Nat := 0
  completedReservationGeneration : Nat := 0
  audioOwner : Nat := 0
  /-- The request the worker has not finished. -/
  job : Option (Nat × SpeakerJob σ) := none
  /-- `completed_generation_` and `completed_result_`. -/
  completed : Option (Nat × WorkerResult) := none
  drained : List σ := []
deriving DecidableEq, Repr

namespace SpeakerOutput
variable {σ : Type}

/-- `busy`. -/
def busy (s : SpeakerOutput σ) : Bool := s.playback.active || s.reservedGeneration != 0

/-- The ticket is taken back: `cancel` and `mark_drained`. -/
def giveUp (s : SpeakerOutput σ) (generation : Nat) : SpeakerOutput σ :=
  { s with playback := ((s.playback.beginDrain generation .cancelled).markDrained generation).2 }

/-- `submit_open_asset_request`; `granted` is the arbiter's answer as far as the microphone decides it. -/
def submit (s : SpeakerOutput σ) (granted : Bool) (job : SpeakerJob σ) : Bool × SpeakerOutput σ :=
  let generation := s.playback.activeGeneration
  if !granted || s.audioOwner != 0 then (false, s.giveUp generation)
  else (true, { s with
    audioOwner := generation, reservedGeneration := generation, completedReservationGeneration := 0
    completed := none, job := some (generation, job) })

/-- A request for an asset; `opens` says whether the decoder takes it. -/
def requestAsset (s : SpeakerOutput σ) (ready opens granted : Bool) (job : SpeakerJob σ) :
    Bool × SpeakerOutput σ :=
  if !ready then (false, s)
  else if s.playback.phase ≠ .idle then (false, s)
  else
    let s := { s with playback := s.playback.request }
    if !opens then (false, s.giveUp s.playback.activeGeneration) else s.submit granted job

/-- `request_streaming_asset`: `opens` includes that the asset has the expected samples. -/
def requestStreamingAsset (s : SpeakerOutput σ) (ready opens granted : Bool) (stream : σ) :
    Bool × SpeakerOutput σ :=
  s.requestAsset ready opens granted (.stream stream)

/-- `request_embedded_asset` and `request_asset`. -/
def requestSound (s : SpeakerOutput σ) (ready opens granted : Bool) : Bool × SpeakerOutput σ :=
  s.requestAsset ready opens granted .sound

/-- `publish_completed` by the worker. -/
def workerCompletes (s : SpeakerOutput σ) (result : WorkerResult) : SpeakerOutput σ :=
  match s.job with
  | none => s
  | some (generation, job) =>
    { s with
      job := none, completed := some (generation, result)
      drained := match result, job with
        | .succeeded, .stream stream => s.drained ++ [stream]
        | _, _ => s.drained }

/-- `cancel_active`; the worker is told, and answers when it has stopped. -/
def cancelActive (s : SpeakerOutput σ) : SpeakerOutput σ :=
  { s with playback := s.playback.beginDrain s.playback.activeGeneration .cancelled }

def resultOf : WorkerResult → SpeakerPlaybackResult
  | .succeeded => .succeeded
  | .cancelled => .cancelled
  | .failed => .failed

/-- A completion that the worker has published for the active generation (speaker_output.cpp:644). -/
def foldCompletion (s : SpeakerOutput σ) (generation : Nat) (result : WorkerResult) : SpeakerOutput σ :=
  let playback := s.playback.beginDrain generation (resultOf result)
  let drained := playback.markDrained generation
  { s with
    playback := drained.2
    completedReservationGeneration := if drained.1 then generation else s.completedReservationGeneration }

/-- The start that the worker has published (speaker_output.cpp:638). -/
def pollStarted (s : SpeakerOutput σ) (started : Bool) : SpeakerOutput σ :=
  if started then { s with playback := s.playback.markStarted s.playback.activeGeneration } else s

def pollCompleted (s : SpeakerOutput σ) : SpeakerOutput σ :=
  match s.completed with
  | none => s
  | some (generation, result) =>
    if s.playback.activeGeneration ≠ 0 ∧ generation = s.playback.activeGeneration then
      s.foldCompletion generation result
    else s

def pollAllowed (s : SpeakerOutput σ) (playbackAllowed : Bool) : SpeakerOutput σ :=
  if !playbackAllowed && s.playback.active then s.cancelActive else s

/-- `poll`; `started` says that the worker has published the start. -/
def poll (s : SpeakerOutput σ) (playbackAllowed started : Bool) : SpeakerOutput σ :=
  (s.pollStarted started).pollCompleted.pollAllowed playbackAllowed

/-- `complete_power_handoff`. -/
def completePowerHandoff (s : SpeakerOutput σ) : SpeakerOutput σ :=
  let generation := s.completedReservationGeneration
  if generation = 0 ∨ s.audioOwner ≠ generation then s
  else { s with
    audioOwner := 0, completedReservationGeneration := 0
    reservedGeneration := if s.reservedGeneration = generation then 0 else s.reservedGeneration }

end SpeakerOutput

end CodexKeyboard.Keyboard
