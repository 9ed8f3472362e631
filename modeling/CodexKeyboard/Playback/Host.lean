import CodexKeyboard.Playback.Wire
/-!
# The host's side of LAN playback

`ActiveLanPlayback` of `src/app/host/src/lan_voice.rs`, as the receive loop drives it. The socket
and the channel of events to the daemon are part of the state, with everything that went through
them. `key` says whether the device secret is loaded; packets come in only when it is. Heartbeats
and the mailbox status are left out: they touch no transfer. `started` is history: the transfers
that were begun.

| here | there |
| --- | --- |
| `ActivePlaybackTransfer`, `ActiveLanPlayback` | lan_voice.rs:483-508 |
| `handleCommand` | `handle_command` (lan_voice.rs:511) |
| `ingest`, `acceptRequestGeneration` | `ingest` (lan_voice.rs:631), `accept_request_generation` (lan_voice.rs:706) |
| `acceptAck` | `accept_ack` (lan_voice.rs:720) |
| `sendRange`, `sendNextData` | `send_next_data` (lan_voice.rs:841), the loop of `tick` |
| `tick` | `tick` (lan_voice.rs:874) |
-/

namespace CodexKeyboard.Playback

open Lib Voice

/-- 250 ms. -/
def playbackRetry : Nat := 250000000
def playbackMaxRetries : Nat := 16
/-- `MAX_TTS_SECONDS + 30` seconds (audio.rs:14). -/
def playbackFinishTimeout : Nat := (150 + 30) * 1000000000
def playbackSendWindowChunks : Nat := 6
/-- 120 s. -/
def playbackFinishedAckRetention : Nat := 120000000000

inductive PlaybackSendPhase where
  | beginAck
  | dataAck
  | deviceFinished
  | hostCommit
deriving DecidableEq, Repr

structure ActivePlaybackTransfer where
  begin : PlaybackBegin
  source : SocketAddr
  eiad : Bytes
  phase : PlaybackSendPhase
  acknowledgedOffset : Nat
  sentEndOffset : Nat
  lastSend : Instant
  retryCount : Nat
  finishDeadline : Instant
deriving DecidableEq, Repr

structure RetiredPlaybackFinish where
  identity : PlaybackIdentity
  source : SocketAddr
  expiresAt : Instant
deriving DecidableEq, Repr

/-- `LanPlaybackEvent`, what the daemon is told. -/
inductive LanPlaybackEvent where
  | request (request : PlaybackRequest) (source : SocketAddr)
  | finished (finished : PlaybackFinished)
  | cancelled (identity : PlaybackIdentity)
deriving DecidableEq, Repr

structure LanPlaybackStart where
  begin : PlaybackBegin
  source : SocketAddr
  eiad : Bytes
deriving DecidableEq, Repr

/-- `LanPlaybackCommand`, but for the mailbox. -/
inductive LanPlaybackCommand where
  | start (start : LanPlaybackStart)
  | finishAck (identity : PlaybackIdentity)
  | cancel (identity : PlaybackIdentity)
deriving DecidableEq, Repr

/-- `ActiveLanPlayback` with its socket and its events. -/
structure ActiveLanPlayback where
  transfer : Option ActivePlaybackTransfer := none
  retiredFinish : Option RetiredPlaybackFinish := none
  retiredCancel : Option RetiredPlaybackFinish := none
  /-- The newest entry of a slot and connection comes first. -/
  acceptedRequests : List ((Nat × Nat) × Nat) := []
  socket : Channel HostPacket := {}
  events : List LanPlaybackEvent := []
  started : List LanPlaybackStart := []
deriving DecidableEq, Repr

namespace ActiveLanPlayback

/-- `socket.send_to`. -/
def sendTo (h : ActiveLanPlayback) (p : HostPacket) : Bool × ActiveLanPlayback :=
  ((h.socket.send p).1, { h with socket := (h.socket.send p).2 })

/-- `events.send`. -/
def emit (h : ActiveLanPlayback) (e : LanPlaybackEvent) : ActiveLanPlayback :=
  { h with events := h.events ++ [e] }

/-- `self.transfer = None` and the event for it. -/
def cancelTransfer (h : ActiveLanPlayback) (identity : PlaybackIdentity) : ActiveLanPlayback :=
  emit { h with transfer := none } (.cancelled identity)

/-- `handle_command`. -/
def handleCommand (h : ActiveLanPlayback) (key : Bool) (now : Instant) :
    LanPlaybackCommand → ActiveLanPlayback
  | .start start =>
    if h.transfer.isSome ∨ start.eiad = [] ∨ start.eiad.length ≠ start.begin.totalBytes then
      h.emit (.cancelled start.begin.identity)
    else if !key then h.emit (.cancelled start.begin.identity)
    else
      let sent := h.sendTo (.begin start.begin)
      if !sent.1 then sent.2.emit (.cancelled start.begin.identity)
      else { sent.2 with
        transfer := some {
          begin := start.begin, source := start.source, eiad := start.eiad, phase := .beginAck
          acknowledgedOffset := 0, sentEndOffset := 0, lastSend := now, retryCount := 0
          finishDeadline := now + playbackFinishTimeout }
        started := sent.2.started ++ [start] }
  | .finishAck identity =>
    match h.transfer with
    | none => h
    | some transfer =>
      if ¬(transfer.begin.identity = identity ∧ transfer.phase = .hostCommit) then h
      else if !key then h
      else
        let sent := h.sendTo (.finishedAck identity 0)
        if !sent.1 then sent.2
        else { sent.2 with
          retiredFinish := some {
            identity, source := transfer.source, expiresAt := now + playbackFinishedAckRetention }
          transfer := none }
  | .cancel identity =>
    match h.transfer with
    | none => h
    | some transfer => if transfer.begin.identity = identity then { h with transfer := none } else h

/-- The loop that sends the chunks of `offset..stop`: `false` when a packet could not be made or
sent. It runs at most `fuel` rounds, and every round advances the offset. -/
def sendRange (transfer : ActivePlaybackTransfer) (stop : Nat) :
    Nat → Nat → ActiveLanPlayback → Bool × ActiveLanPlayback
  | 0, _, h => (true, h)
  | fuel + 1, offset, h =>
    if offset < stop then
      let chunkEnd := min (offset + playbackChunkBytes) stop
      match encodeData transfer.begin.identity transfer.begin.requestNonce offset
          ((transfer.eiad.drop offset).take (chunkEnd - offset)) with
      | none => (false, h)
      | some packet =>
        let sent := h.sendTo packet
        if !sent.1 then (false, sent.2) else sendRange transfer stop fuel chunkEnd sent.2
    else (true, h)

/-- Where the window of a transfer ends. -/
def windowEnd (transfer : ActivePlaybackTransfer) : Nat :=
  min (transfer.acknowledgedOffset + playbackChunkBytes * playbackSendWindowChunks) transfer.eiad.length

/-- `send_next_data` on the transfer that is being changed, and the cancellation when it fails. -/
def sendNextData (h : ActiveLanPlayback) (transfer : ActivePlaybackTransfer) (now : Instant) :
    ActiveLanPlayback :=
  let stop := windowEnd transfer
  let sent := sendRange transfer stop (stop - transfer.acknowledgedOffset) transfer.acknowledgedOffset h
  if !sent.1 then sent.2.cancelTransfer transfer.begin.identity
  else { sent.2 with transfer := some { transfer with
    sentEndOffset := stop, phase := .dataAck, lastSend := now } }

/-- A gap acknowledgement inside the window: send again from where the keyboard is. -/
def acceptGap (h : ActiveLanPlayback) (transfer : ActivePlaybackTransfer) (requestedOffset : Nat)
    (now : Instant) :
    ActiveLanPlayback :=
  if requestedOffset = transfer.acknowledgedOffset then
    if transfer.retryCount ≥ playbackMaxRetries then h.cancelTransfer transfer.begin.identity
    else h.sendNextData { transfer with retryCount := transfer.retryCount + 1 } now
  else h.sendNextData { transfer with acknowledgedOffset := requestedOffset, retryCount := 0 } now

/-- The keyboard rejected the transfer. -/
def acceptRejection (h : ActiveLanPlayback) (transfer : ActivePlaybackTransfer) (ack : PlaybackAck)
    (source : SocketAddr)
    (now : Instant) : ActiveLanPlayback :=
  if ack.status = 3 then
    cancelTransfer { (h.sendTo (.finishedAck transfer.begin.identity 1)).2 with
      retiredCancel := some { identity := transfer.begin.identity, source,
                              expiresAt := now + playbackFinishedAckRetention } }
      transfer.begin.identity
  else h.cancelTransfer transfer.begin.identity

/-- An acknowledgement with status 0. -/
def acceptProgress (h : ActiveLanPlayback) (transfer : ActivePlaybackTransfer) (nextOffset : Nat)
    (now : Instant) :
    ActiveLanPlayback :=
  match transfer.phase with
  | .beginAck =>
    if nextOffset = 0 then
      h.sendNextData { transfer with acknowledgedOffset := 0, retryCount := 0 } now else h
  | .dataAck =>
    if nextOffset > transfer.acknowledgedOffset ∧ nextOffset ≤ transfer.sentEndOffset then
      let transfer := { transfer with acknowledgedOffset := nextOffset, retryCount := 0 }
      if transfer.acknowledgedOffset ≠ transfer.sentEndOffset then { h with transfer := some transfer }
      else if transfer.acknowledgedOffset = transfer.eiad.length then
        { h with transfer := some { transfer with
            phase := .deviceFinished, finishDeadline := now + playbackFinishTimeout } }
      else h.sendNextData transfer now
    else h
  | .deviceFinished => h
  | .hostCommit => h

/-- The gap branch of `accept_ack` takes the acknowledgement (lan_voice.rs:745). -/
def gapInWindow (transfer : ActivePlaybackTransfer) (ack : PlaybackAck) : Prop :=
  transfer.phase = .dataAck ∧ ack.nextOffset ≥ transfer.acknowledgedOffset ∧
    ack.nextOffset ≤ transfer.sentEndOffset

instance (transfer : ActivePlaybackTransfer) (ack : PlaybackAck) : Decidable (gapInWindow transfer ack) :=
  inferInstanceAs (Decidable (_ ∧ _ ∧ _))

/-- `accept_ack`. -/
def acceptAck (h : ActiveLanPlayback) (ack : PlaybackAck) (source : SocketAddr) (now : Instant) :
    ActiveLanPlayback :=
  match h.transfer with
  | none =>
    match h.retiredCancel with
    | none => h
    | some retired =>
      if ack.status = 3 ∧ retired.source = source ∧ retired.identity = ack.identity ∧
        retired.expiresAt > now then
        (h.sendTo (.finishedAck ack.identity 1)).2
      else h
  | some transfer =>
    if transfer.source ≠ source ∨ transfer.begin.identity ≠ ack.identity then h
    else if ack.status = 1 ∧ gapInWindow transfer ack then h.acceptGap transfer ack.nextOffset now
    else if ack.status ≠ 0 then h.acceptRejection transfer ack source now
    else h.acceptProgress transfer ack.nextOffset now

/-- `accept_request_generation`. -/
def acceptRequestGeneration (h : ActiveLanPlayback) (request : PlaybackRequest) :
    Bool × ActiveLanPlayback :=
  let accepted := { h with acceptedRequests :=
    ((request.slot, request.connectionGeneration), request.requestGeneration) :: h.acceptedRequests }
  match h.acceptedRequests.lookup (request.slot, request.connectionGeneration) with
  | some floor => if request.requestGeneration ≤ floor then (false, h) else (true, accepted)
  | none => (true, accepted)

/-- A packet that says the keyboard has played the summary (lan_voice.rs:672). -/
def acceptFinished (h : ActiveLanPlayback) (finished : PlaybackFinished) (source : SocketAddr)
    (now : Instant) :
    ActiveLanPlayback :=
  match h.transfer with
  | none =>
    match h.retiredFinish with
    | none => h
    | some retired =>
      if retired.source = source ∧ retired.identity = finished.identity ∧ retired.expiresAt > now then
        (h.sendTo (.finishedAck finished.identity 0)).2
      else h
  | some transfer =>
    if transfer.source ≠ source ∨ transfer.begin.identity ≠ finished.identity
        ∨ transfer.begin.totalSamples ≠ finished.playedSamples
        ∨ ¬(transfer.phase = .deviceFinished ∨ transfer.phase = .hostCommit) then h
    else if transfer.phase = .deviceFinished then
      emit { h with transfer := some { transfer with
          phase := .hostCommit, finishDeadline := now + playbackFinishTimeout } } (.finished finished)
    else h.emit (.finished finished)

/-- `ingest`. -/
def ingest (h : ActiveLanPlayback) (source : SocketAddr) (now : Instant) :
    KeyboardPacket → ActiveLanPlayback
  | .request request =>
    if !validRequest request then h
    else
      let accepted := h.acceptRequestGeneration request
      if !accepted.1 then accepted.2
      else
        match accepted.2.transfer with
        | none => accepted.2.emit (.request request source)
        | some transfer =>
          (accepted.2.cancelTransfer transfer.begin.identity).emit (.request request source)
  | .ack ack => if !validAck ack then h else h.acceptAck ack source now
  | .finished finished => if !validFinished finished then h else h.acceptFinished finished source now

/-- The retired identities that are too old. -/
def expireRetired (h : ActiveLanPlayback) (now : Instant) : ActiveLanPlayback :=
  { h with
    retiredFinish := h.retiredFinish.filter fun retired => decide (now < retired.expiresAt)
    retiredCancel := h.retiredCancel.filter fun retired => decide (now < retired.expiresAt) }

/-- A retransmission of `tick`; nothing changes when it fails. -/
def resend (h : ActiveLanPlayback) (transfer : ActivePlaybackTransfer) (now : Instant) :
    ActiveLanPlayback :=
  let sent :=
    if transfer.phase = .beginAck then h.sendTo (.begin transfer.begin)
    else sendRange transfer transfer.sentEndOffset (transfer.sentEndOffset - transfer.acknowledgedOffset)
      transfer.acknowledgedOffset h
  if sent.1 then
    { sent.2 with transfer := some { transfer with
      retryCount := transfer.retryCount + 1, lastSend := now } }
  else sent.2

/-- `tick`. -/
def tick (h : ActiveLanPlayback) (key : Bool) (now : Instant) : ActiveLanPlayback :=
  let h := h.expireRetired now
  match h.transfer with
  | none => h
  | some transfer =>
    if transfer.phase = .deviceFinished ∨ transfer.phase = .hostCommit then
      if now ≥ transfer.finishDeadline then h.cancelTransfer transfer.begin.identity else h
    else if now - transfer.lastSend < playbackRetry then h
    else if transfer.retryCount ≥ playbackMaxRetries then h.cancelTransfer transfer.begin.identity
    else if !key then h
    else h.resend transfer now

end ActiveLanPlayback

end CodexKeyboard.Playback
