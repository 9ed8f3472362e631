import CodexKeyboard.Keyboard.Speaker
import CodexKeyboard.Playback.Wire
/-!
# The keyboard's side of LAN playback

`CodexLanPlayback` (`main/platform/codex_lan_playback.cpp`) with what it uses: the slots, the
speaker and its socket. `Chances` are the answers of the platform during one step: the clock, the
heap, the Wi-Fi service, the random nonce. The Wi-Fi lease, the addresses and the atomics that only
the decoder reads are left out. Three fields are history: the requests made, those a BEGIN was
accepted for, and `stored`, every `received_bytes_` a transfer has reached.

| here | there |
| --- | --- |
| `request`, `preempt`, `poll` | codex_lan_playback.cpp:55, 112, 135 |
| `sendRequest`, `sendAck`, `sendFinished` | codex_lan_playback.cpp:237-286 |
| `handleBegin`, `handleData`, `handleFinishedAck` | codex_lan_playback.cpp:334, 391, 452 |
| `beginSpeakerPlayback`, `markTransferComplete` | codex_lan_playback.cpp:480, 521 |
| `fail`, `cleanup` | codex_lan_playback.cpp:565, 611 |
| `handleSlotTransition` | `handle_codex_slot_transition` (app_main.cpp:331) |
| `mainPass` | `service_speaker` and `codex_playback.poll` in the main loop (app_main.cpp:3243-3248) |
-/

namespace CodexKeyboard.Playback

open Lib Voice Keyboard

def requestRetryMs : Nat := 500
def receiveTimeoutMs : Nat := 30000
def finishedRetryMs : Nat := 500
def cancelRetryMs : Nat := 100
def maximumRequestRetries : Nat := 12
def maximumFinishedRetries : Nat := 120
def maximumCancelRetries : Nat := 20
def streamingPrebufferBytes : Nat := 24 * 1024
/-- The attempts of `receive_packets`. -/
def maximumReceives : Nat := 6

inductive KeyboardPhase where
  | idle
  | awaitBegin
  | receiving
  | playing
  | finishedPendingAck
  | cancelling
deriving DecidableEq, Repr

/-- What the platform answers during one step. -/
structure Chances where
  /-- `millis()`. -/
  now : Nat := 0
  /-- The sends that fail. -/
  sends : List Bool := []
  /-- The Wi-Fi service is connected to the host, and of which generation. -/
  connected : Bool := true
  connectionGeneration : Nat := 1
  /-- The service lease and the socket. -/
  leases : Bool := true
  nonce : Nat := 1
  allocates : Bool := true
  speakerReady : Bool := true
  opens : Bool := true
  granted : Bool := true
deriving DecidableEq, Repr

/-- `random_nonce`. -/
def randomNonce (chances : Chances) : Nat := if chances.nonce = 0 then 1 else chances.nonce

structure CodexLanPlayback where
  phase : KeyboardPhase := .idle
  request : PlaybackRequest := {}
  begin : PlaybackBegin := {}
  encoded : Option Bytes := none
  receivedBytes : Nat := 0
  lastSendMs : Nat := 0
  requestRetries : Nat := 0
  finishedRetries : Nat := 0
  cancelRetries : Nat := 0
  cancelAcknowledged : Bool := false
  failureDiagnostic : Nat := 0
  deferredSlot : Nat := 0
  deferredRequestGeneration : Nat := 0
  deferredConnectionGeneration : Nat := 0
deriving DecidableEq, Repr

/-- The keyboard, as far as playback goes. -/
structure Device where
  playback : CodexLanPlayback := {}
  slots : CodexSlotState := {}
  speaker : SpeakerOutput PlaybackBegin := {}
  socket : Channel KeyboardPacket := {}
  drawn : List PlaybackRequest := []
  accepted : List PlaybackRequest := []
  stored : List (PlaybackIdentity × Nat) := []
deriving DecidableEq, Repr

/-- What `fail` is told; it sets the diagnostic unless one is set. -/
inductive FailReason where
  | socketReceive | beginTimeout | dataTimeout | beginAck | dataAck | psramAllocate | speakerFailed
    | finishedSend
  | finishedTimeout | speakerStart | transferComplete
deriving DecidableEq, Repr

def FailReason.diagnostic : FailReason → Nat
  | .socketReceive => 20
  | .beginTimeout => 21
  | .dataTimeout => 22
  | .beginAck => 23
  | .dataAck => 24
  | .psramAllocate => 25
  | .speakerFailed => 26
  | .finishedSend => 27
  | .finishedTimeout => 28
  | .speakerStart => 29
  | .transferComplete => 29

/-- `uint32_t` time since. -/
def elapsedMs (now since : Nat) : Nat := (now + 0x100000000 - since) % 0x100000000

namespace Device

/-- `slot_identity`. -/
def slotIdentity (d : Device) : SlotPlaybackIdentity :=
  { slot := d.playback.begin.identity.slot, summaryGeneration := d.playback.begin.identity.summaryGeneration
    lease := d.playback.begin.identity.lease
    connectionGeneration := d.playback.begin.identity.connectionGeneration }

/-- `sendto`. -/
def sendPacket (d : Device) (p : KeyboardPacket) : Bool × Device :=
  ((d.socket.send p).1, { d with socket := (d.socket.send p).2 })

/-- `send_request`. -/
def sendRequest (d : Device) : Bool × Device :=
  if !validRequest d.playback.request then (false, d) else d.sendPacket (.request d.playback.request)

/-- `send_ack`. -/
def sendAck (d : Device) (status : Nat) : Bool × Device :=
  let ack : PlaybackAck :=
    { identity := d.playback.begin.identity, status
      nextOffset :=
        if status = 3 ∧ d.playback.failureDiagnostic ≠ 0 then 0xEC000000 ||| d.playback.failureDiagnostic
        else d.playback.receivedBytes }
  if !validAck ack then (false, d) else d.sendPacket (.ack ack)

/-- `send_finished`. -/
def sendFinished (d : Device) : Bool × Device :=
  let finished : PlaybackFinished :=
    { identity := d.playback.begin.identity, playedSamples := d.playback.begin.totalSamples }
  if !validFinished finished then (false, d) else d.sendPacket (.finished finished)

/-- `speaker_->poll(false)`. -/
def stopSpeaker (d : Device) : Device := { d with speaker := d.speaker.poll false false }

/-- `fail`. -/
def fail (d : Device) (now : Nat) (reason : FailReason) : Device :=
  let playback := d.playback
  let d := { d with
    playback := { playback with
      failureDiagnostic := if playback.failureDiagnostic = 0 then reason.diagnostic else
        playback.failureDiagnostic
      phase := .cancelling, cancelRetries := 0, cancelAcknowledged := false, lastSendMs := now }
    slots := if validPlaybackIdentity d.slotIdentity then d.slots.abortPlayback d.slotIdentity else
      d.slots }
  if validPlaybackIdentity d.slotIdentity then
    let sent := d.sendAck 3
    stopSpeaker (if sent.1 then
      { sent.2 with playback := { sent.2.playback with
        cancelRetries := sent.2.playback.cancelRetries + 1 } }
    else sent.2)
  else d.stopSpeaker

/-- `cleanup(false)`. -/
def cleanup (d : Device) : Device :=
  let p := d.playback
  { d with playback := { p with
      phase := .idle, request := {}, begin := {}, encoded := none, receivedBytes := 0, requestRetries := 0
      finishedRetries := 0, cancelRetries := 0, cancelAcknowledged := false, failureDiagnostic := 0 } }

/-- The request goes out (codex_lan_playback.cpp:70-110). -/
def openRequest (d : Device) (chances : Chances)
    (slot requestGeneration connectionGeneration : Nat) : Device :=
  if !chances.connected || chances.connectionGeneration != connectionGeneration || !chances.leases then d
  else
    let nonce := randomNonce chances
    let request : PlaybackRequest := { slot, requestGeneration, connectionGeneration, nonce }
    let d := { d with playback := { d.playback with request := request }, drawn := d.drawn ++ [request] }
    let sent := d.sendRequest
    if !sent.1 then sent.2.cleanup
    else { sent.2 with playback := { sent.2.playback with
        phase := .awaitBegin, requestRetries := 0, lastSendMs := chances.now } }

/-- `request`. -/
def request (d : Device) (chances : Chances) (slot requestGeneration connectionGeneration : Nat) : Device :=
  if ¬(1 ≤ slot ∧ slot ≤ 4) ∨ requestGeneration = 0 ∨ connectionGeneration = 0 then d
  else
    match d.playback.phase with
    | .cancelling => { d with playback := { d.playback with
        deferredSlot := slot, deferredRequestGeneration := requestGeneration
        deferredConnectionGeneration := connectionGeneration } }
    | .awaitBegin => d.cleanup.openRequest chances slot requestGeneration connectionGeneration
    | .idle => d.openRequest chances slot requestGeneration connectionGeneration
    | .receiving => d
    | .playing => d
    | .finishedPendingAck => d

def clearDeferred (d : Device) : Device :=
  { d with playback := { d.playback with
      deferredSlot := 0, deferredRequestGeneration := 0, deferredConnectionGeneration := 0 } }

/-- `preempt`. -/
def preempt (d : Device) (now : Nat) (identity : SlotPlaybackIdentity) : Device :=
  if d.playback.phase = .idle then d
  else
    let d := d.clearDeferred
    if validPlaybackIdentity identity ∧ d.slotIdentity ≠ identity then d
    else
      let d := if validPlaybackIdentity d.slotIdentity then (d.sendAck 3).2 else d
      stopSpeaker { d with playback := { d.playback with
          phase := .cancelling, cancelRetries := 0, cancelAcknowledged := false, lastSendMs := now } }

/-- The BEGIN answers the request that is out. -/
def answersRequest (begin : PlaybackBegin) (request : PlaybackRequest) : Bool :=
  decide (begin.identity.slot = request.slot ∧
    begin.identity.requestGeneration = request.requestGeneration ∧
    begin.identity.connectionGeneration = request.connectionGeneration ∧ begin.requestNonce = request.nonce)

/-- `(total_bytes + chunk_bytes - 1) / chunk_bytes`. -/
def frameCount (begin : PlaybackBegin) : Nat := (begin.totalBytes + begin.chunkBytes - 1) / begin.chunkBytes

/-- A BEGIN for the request in phase `AwaitBegin` (codex_lan_playback.cpp:357-388). -/
def acceptBegin (d : Device) (chances : Chances) (begin : PlaybackBegin) : Device :=
  let d := { d with playback := { d.playback with begin := begin } }
  let slots := d.slots.beginPlayback
    { identity := d.slotIdentity, requestGeneration := begin.identity.requestGeneration
      totalFrames := frameCount begin, totalSamples := begin.totalSamples }
  if slots.1 ≠ .accepted then { d with slots := slots.2, playback := { d.playback with begin := {} } }
  else
    let d := { d with slots := slots.2, accepted := d.accepted ++ [d.playback.request] }
    if !chances.allocates then
      fail { d with slots := d.slots.abortPlayback d.slotIdentity } chances.now .psramAllocate
    else
      let d := { d with playback := { d.playback with
          encoded := some [], receivedBytes := 0, phase := .receiving, lastSendMs := chances.now } }
      let sent := d.sendAck 0
      if !sent.1 then sent.2.fail chances.now .beginAck else sent.2

/-- `handle_begin`. -/
def handleBegin (d : Device) (chances : Chances) (begin : PlaybackBegin) : Device :=
  if !decodeBegin begin || !answersRequest begin d.playback.request then d
  else if (d.playback.phase = .receiving ∨ d.playback.phase = .playing) ∧
  begin.identity = d.playback.begin.identity
      ∧ begin.totalBytes = d.playback.begin.totalBytes ∧ begin.totalSamples = d.playback.begin.totalSamples
      ∧ begin.requestNonce = d.playback.begin.requestNonce then (d.sendAck 0).2
  else if d.playback.phase ≠ .awaitBegin then d
  else d.acceptBegin chances begin

def setDiagnostic (d : Device) (diagnostic : Nat) : Device :=
  { d with playback := { d.playback with failureDiagnostic := diagnostic } }

/-- `begin_speaker_playback`; what `last_request_failure` adds to the diagnostic is left out. -/
def beginSpeakerPlayback (d : Device) (chances : Chances) : Bool × Device :=
  let d := d.setDiagnostic 0
  if !chances.speakerReady then (false, d.setDiagnostic 1)
  else
    let requested := d.speaker.requestStreamingAsset true chances.opens chances.granted d.playback.begin
    let d := { d with speaker := requested.2 }
    if !requested.1 then (false, d.setDiagnostic 10)
    else
      let started := d.slots.markPlaybackStarted d.slotIdentity
      let d := { d with slots := started.2 }
      if !started.1 then (false, d.setDiagnostic 2)
      else (true, { d with playback := { d.playback with phase := .playing } })

/-- `mark_transfer_complete`. -/
def markTransferComplete (d : Device) : Bool × Device :=
  let count := frameCount d.playback.begin
  let marked := d.slots.markPlaybackTransferComplete d.slotIdentity (count - 1)
  if count = 0 ∨ !marked.1 then (false, (d.setDiagnostic 3).stopSpeaker) else
    (true, { d with slots := marked.2 })

/-- The transfer is complete when all bytes are there (codex_lan_playback.cpp:447). -/
def completeTransfer (d : Device) (now : Nat) : Device :=
  if d.playback.receivedBytes = d.playback.begin.totalBytes then
    let marked := d.markTransferComplete
    if !marked.1 then marked.2.fail now .transferComplete else marked.2
  else d

/-- Enough of the stream is there to play it (codex_lan_playback.cpp:440). -/
def startAfterPrebuffer (d : Device) (chances : Chances) : Device :=
  if d.playback.phase = .receiving
      ∧ d.playback.receivedBytes ≥ min d.playback.begin.totalBytes streamingPrebufferBytes then
    let started := d.beginSpeakerPlayback chances
    if !started.1 then started.2.fail chances.now .speakerStart else started.2.completeTransfer chances.now
  else d.completeTransfer chances.now

/-- The next bytes are stored. -/
def storeChunk (d : Device) (now : Nat) (encoded payload : Bytes) : Device :=
  { d with
    playback := { d.playback with
      encoded := some (encoded ++ payload),
      receivedBytes := d.playback.receivedBytes + payload.length, lastSendMs := now }
    stored := d.stored ++ [(d.playback.begin.identity, d.playback.receivedBytes + payload.length)] }

/-- Data at the end of what is there (codex_lan_playback.cpp:420-450). -/
def acceptData (d : Device) (chances : Chances) (encoded payload : Bytes) : Device :=
  let frame :=
    d.slots.acceptPlaybackFrame d.slotIdentity (d.playback.receivedBytes / d.playback.begin.chunkBytes)
  if frame.1 ≠ .accepted then (sendAck { d with slots := frame.2 } 2).2
  else
    let sent := (storeChunk { d with slots := frame.2 } chances.now encoded payload).sendAck 0
    if !sent.1 then sent.2.fail chances.now .dataAck else sent.2.startAfterPrebuffer chances

/-- `handle_data`. -/
def handleData (d : Device) (chances : Chances) (data : PlaybackData) : Device :=
  if !decodeData data d.playback.begin.requestNonce || data.identity != d.playback.begin.identity then d
  else
    match d.playback.encoded with
    | none => d
    | some encoded =>
      if data.offset < d.playback.receivedBytes then
        if (d.playback.phase = .receiving ∨ d.playback.phase = .playing ∨
          d.playback.phase = .finishedPendingAck)
            ∧ dataMatchesReceivedPrefix data encoded d.playback.receivedBytes then (d.sendAck 0).2
        else d
      else if d.playback.phase ≠ .receiving ∧ d.playback.phase ≠ .playing then d
      else if data.offset ≠ d.playback.receivedBytes
          ∨ data.payload.length > d.playback.begin.totalBytes - d.playback.receivedBytes then
            (d.sendAck 1).2
      else d.acceptData chances encoded data.payload

/-- `handle_finished_ack`. -/
def handleFinishedAck (d : Device) (identity : PlaybackIdentity) (status : Nat) : Device :=
  if !decodeFinishedAck identity status || identity != d.playback.begin.identity then d
  else if d.playback.phase = .cancelling ∧ status = 1 then
    { d with playback := { d.playback with cancelAcknowledged := true } }
  else if d.playback.phase ≠ .finishedPendingAck ∨ status ≠ 0 then d
  else
    let acknowledged := d.slots.acknowledgeFinished d.slotIdentity
    if acknowledged.1 then cleanup { d with slots := acknowledged.2 } else
      { d with slots := acknowledged.2 }

def handlePacket (d : Device) (chances : Chances) : HostPacket → Device
  | .begin begin => d.handleBegin chances begin
  | .data data => d.handleData chances data
  | .finishedAck identity status => d.handleFinishedAck identity status

/-- `receive_packets`: what `recvfrom` answers, until the phase is `Idle` or `Cancelling`; `none` is
an error. -/
def receivePackets (d : Device) (chances : Chances) : List (Option HostPacket) → Device
  | [] => d
  | none :: _ => d.fail chances.now .socketReceive
  | some packet :: packets =>
    let d := d.handlePacket chances packet
    if d.playback.phase = .idle ∨ d.playback.phase = .cancelling then d else
      receivePackets d chances packets

/-- The end of a cancellation, and the request that had to wait for it. -/
def finishCancelling (d : Device) (chances : Chances) : Device :=
  let p := d.playback
  let d := d.clearDeferred.cleanup
  if p.deferredSlot ≠ 0 then
    d.request chances p.deferredSlot p.deferredRequestGeneration p.deferredConnectionGeneration
  else d

/-- `poll` in phase `Cancelling` (codex_lan_playback.cpp:139-176). -/
def pollCancelling (d : Device) (chances : Chances) (packets : List (Option HostPacket)) : Device :=
  let d := (d.receivePackets chances (packets.take maximumReceives)).stopSpeaker
  let hasIdentity := validPlaybackIdentity d.slotIdentity
  let d :=
    if hasIdentity ∧ d.playback.cancelAcknowledged = false ∧ d.playback.cancelRetries < maximumCancelRetries
        ∧ elapsedMs chances.now d.playback.lastSendMs ≥ cancelRetryMs then
      let d := (d.sendAck 3).2
      { d with playback := { d.playback with
        cancelRetries := d.playback.cancelRetries + 1, lastSendMs := chances.now } }
    else d
  if !d.speaker.busy ∧ (!hasIdentity ∨ d.playback.cancelAcknowledged ∨
    d.playback.cancelRetries ≥ maximumCancelRetries) then
    d.finishCancelling chances
  else d

/-- The request goes out again, or times out. -/
def retryRequest (d : Device) (now : Nat) : Device :=
  if d.playback.requestRetries ≥ maximumRequestRetries then d.fail now .beginTimeout
  else
    let sent := d.sendRequest
    if !sent.1 then sent.2.fail now .beginTimeout
    else { sent.2 with playback := { sent.2.playback with
        requestRetries := sent.2.playback.requestRetries + 1, lastSendMs := now } }

/-- The speaker has stopped in phase `Playing`. -/
def finishPlaying (d : Device) (now : Nat) : Device :=
  if d.speaker.playback.lastResult ≠ .succeeded then d.fail now .speakerFailed
  else
    let marked := d.slots.markPlaybackDrained d.slotIdentity d.playback.begin.totalSamples
    let d := { d with slots := marked.2 }
    if !marked.1 then d.fail now .speakerFailed
    else
      let sent := sendFinished
        { d with playback := { d.playback with phase := .finishedPendingAck, finishedRetries := 0 } }
      if !sent.1 then sent.2.fail now .finishedSend
      else { sent.2 with playback := { sent.2.playback with lastSendMs := now } }

/-- The FINISHED goes out again, or times out. -/
def retryFinished (d : Device) (now : Nat) : Device :=
  if d.playback.finishedRetries ≥ maximumFinishedRetries then d.fail now .finishedTimeout
  else
    let sent := d.sendFinished
    if !sent.1 then sent.2.fail now .finishedTimeout
    else { sent.2 with playback := { sent.2.playback with
        finishedRetries := sent.2.playback.finishedRetries + 1, lastSendMs := now } }

/-- What `poll` does after the packets (codex_lan_playback.cpp:179-211). -/
def pollPhase (d : Device) (now : Nat) : Device :=
  let waited := elapsedMs now d.playback.lastSendMs
  if d.playback.phase = .awaitBegin ∧ waited ≥ requestRetryMs then d.retryRequest now
  else if (d.playback.phase = .receiving ∨ d.playback.phase = .playing)
      ∧ d.playback.receivedBytes < d.playback.begin.totalBytes ∧
      waited ≥ receiveTimeoutMs then d.fail now .dataTimeout
  else if d.playback.phase = .playing ∧ !d.speaker.busy then d.finishPlaying now
  else if d.playback.phase = .finishedPendingAck ∧ waited ≥ finishedRetryMs then d.retryFinished now
  else d

/-- `poll`. -/
def poll (d : Device) (chances : Chances) (packets : List (Option HostPacket)) : Device :=
  if d.playback.phase = .idle then d
  else if d.playback.phase = .cancelling then d.pollCancelling chances packets
  else (d.receivePackets chances (packets.take maximumReceives)).pollPhase chances.now

/-! ## The main loop -/

/-- One action of `handle_codex_slot_transition`; the microphone is left out. -/
def handleAction (d : Device) (chances : Chances) : DeviceAction → Device
  | .pttStarted _ _ _ => d.preempt chances.now {}
  | .pttEnded _ _ _ => d
  | .playRequested slot requestGeneration connectionGeneration =>
    d.request chances slot requestGeneration connectionGeneration
  | .playbackPreempted _ playback => d.preempt chances.now playback
  | .rejectedBusy _ => d

/-- `handle_codex_slot_transition` of what a slot operation answers. -/
def handleSlotTransition (d : Device) (chances : Chances)
    (transition : List DeviceAction × CodexSlotState) : Device :=
  transition.1.foldl (fun d action => d.handleAction chances action) { d with slots := transition.2 }

/-- `service_speaker`: the speaker is polled, a boot sound may be requested, and the power handoff
follows unless the pass returned before it. -/
def serviceSpeaker (d : Device) (chances : Chances)
    (playbackAllowed started bootSound handoff : Bool) : Device :=
  let speaker := d.speaker.poll playbackAllowed started
  let speaker := if bootSound then (speaker.requestSound true chances.opens chances.granted).2 else speaker
  { d with speaker := if handoff then speaker.completePowerHandoff else speaker }

/-- The part of a main loop pass from `service_speaker` to `codex_playback.poll`. -/
def mainPass (d : Device) (chances : Chances) (playbackAllowed started bootSound handoff : Bool)
    (packets : List (Option HostPacket)) : Device :=
  (d.serviceSpeaker chances playbackAllowed started bootSound handoff).poll chances packets

end Device

end CodexKeyboard.Playback
