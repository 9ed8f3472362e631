import CodexKeyboard.Lib.Run
import CodexKeyboard.Playback.Host
import CodexKeyboard.Playback.Keyboard
/-!
# The two sides and the network

A run interleaves the steps of the host's receive loop, of the keyboard's main loop and of its
speaker worker. Any packet the one side has sent may come in at the other at any time: early, late,
twice or never. Anything else fails authentication and is no step. The daemon starts a transfer only
for a request that the host has reported, with the identity and the nonce of the request
(`begin_lan_playback`, health.rs:498).
-/

namespace CodexKeyboard.Playback

open Lib Voice Keyboard

structure System where
  host : ActiveLanPlayback := {}
  keyboard : Device := {}
deriving DecidableEq, Repr

/-- What the daemon adds to a request: the summary, its lease and its audio. -/
structure Summary where
  summaryGeneration : Nat
  lease : Nat
  totalSamples : Nat
  eiad : Bytes
deriving DecidableEq, Repr

/-- The start that `begin_lan_playback` makes of a request (health.rs:581). -/
def startOf (request : PlaybackRequest) (source : SocketAddr) (summary : Summary) : LanPlaybackStart :=
  { begin := {
      identity := {
        slot := request.slot, requestGeneration := request.requestGeneration
        connectionGeneration := request.connectionGeneration, summaryGeneration := summary.summaryGeneration
        lease := summary.lease }
      totalBytes := summary.eiad.length, totalSamples := summary.totalSamples,
      chunkBytes := playbackChunkBytes
      requestNonce := request.nonce }
    source, eiad := summary.eiad }

inductive SystemEvent where
  /-- The daemon starts a transfer for a request. -/
  | start (request : PlaybackRequest) (source : SocketAddr) (summary : Summary) (key : Bool) (now : Instant)
    (sends : List Bool)
  | finishAck (identity : PlaybackIdentity) (key : Bool) (now : Instant) (sends : List Bool)
  | cancel (identity : PlaybackIdentity)
  /-- A packet of the keyboard comes in at the host. -/
  | toHost (packet : KeyboardPacket) (source : SocketAddr) (now : Instant) (sends : List Bool)
  | tick (key : Bool) (now : Instant) (sends : List Bool)
  /-- A slot key of the keyboard. -/
  | input (input : InputId) (phase : InputPhase) (connectionGeneration : Nat) (chances : Chances)
  | disconnect (connectionGeneration : Nat) (chances : Chances)
  /-- A pass of the keyboard's main loop, with what its socket receives. -/
  | pass (chances : Chances) (playbackAllowed started bootSound handoff : Bool)
    (packets : List (Option HostPacket))
  /-- Another sound of the keyboard: the volume announcement. -/
  | sound (chances : Chances)
  | worker (result : WorkerResult)
deriving DecidableEq, Repr

namespace System

def withHost (s : System) (sends : List Bool) (f : ActiveLanPlayback → ActiveLanPlayback) : System :=
  { s with host := f { s.host with socket := s.host.socket.withOutcomes sends } }

def withKeyboard (s : System) (chances : Chances) (f : Device → Device) : System :=
  { s with keyboard := f { s.keyboard with socket := s.keyboard.socket.withOutcomes chances.sends } }

/-- What the keyboard's socket can receive: errors, and what the host has sent. -/
def authentic (s : System) (packets : List (Option HostPacket)) : List (Option HostPacket) :=
  packets.filter fun packet => packet.all fun packet => decide (packet ∈ s.host.socket.sent)

def step (s : System) : SystemEvent → System
  | .start request source summary key now sends =>
    if .request request source ∈ s.host.events then
      s.withHost sends fun h => h.handleCommand key now (.start (startOf request source summary))
    else s
  | .finishAck identity key now sends =>
    s.withHost sends fun h => h.handleCommand key now (.finishAck identity)
  | .cancel identity => s.withHost [] fun h => h.handleCommand true 0 (.cancel identity)
  | .toHost packet source now sends =>
    if packet ∈ s.keyboard.socket.sent then s.withHost sends fun h => h.ingest source now packet else s
  | .tick key now sends => s.withHost sends fun h => h.tick key now
  | .input input phase connectionGeneration chances =>
    s.withKeyboard chances fun d =>
      d.handleSlotTransition chances (d.slots.handleInput input phase connectionGeneration)
  | .disconnect connectionGeneration chances =>
    s.withKeyboard chances fun d => d.handleSlotTransition chances (d.slots.disconnect connectionGeneration)
  | .pass chances playbackAllowed started bootSound handoff packets =>
    s.withKeyboard chances fun d =>
      d.mainPass chances playbackAllowed started bootSound handoff (s.authentic packets)
  | .sound chances =>
    s.withKeyboard chances fun d =>
      { d with speaker := (d.speaker.requestSound chances.speakerReady chances.opens chances.granted).2 }
  | .worker result =>
    s.withKeyboard {} fun d => { d with speaker := d.speaker.workerCompletes result }

end System

/-- A run from the start of both sides. -/
def run (events : List SystemEvent) : System := after (fun s e => ((), System.step s e)) {} events

@[simp] theorem run_nil : run [] = {} := rfl

theorem run_concat (events : List SystemEvent) (event : SystemEvent) :
    run (events ++ [event]) = (run events).step event := after_concat _ _ _

/-- What every step preserves holds after every run. -/
theorem run_induction {I : System → Prop} (hinit : I {}) (hstep : ∀ s e, I s → I (s.step e))
    (events : List SystemEvent) : I (run events) := by
  unfold run
  exact after_induction hstep events hinit

end CodexKeyboard.Playback
