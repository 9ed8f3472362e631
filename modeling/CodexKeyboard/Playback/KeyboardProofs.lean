import CodexKeyboard.Keyboard.SpeakerProofs
import CodexKeyboard.Playback.HostProofs
/-!
# What the keyboard keeps

The invariant is about a view of the keyboard, the fields it reads, so that an operation on anything
else keeps it by definition. It is relative to the host's transfers `started`, to the ends of the
data the host has sent, `carried`, and to an earlier view `base` whose history has only grown since.
-/

namespace CodexKeyboard.Playback

open Lib Voice Keyboard

structure View where
  phase : KeyboardPhase
  request : PlaybackRequest
  begin : PlaybackBegin
  encoded : Option Bytes
  received : Nat
  sent : List KeyboardPacket
  drawn : List PlaybackRequest
  accepted : List PlaybackRequest
  stored : List (PlaybackIdentity × Nat)
  speaker : SpeakerOutput PlaybackBegin

def Device.view (d : Device) : View :=
  { phase := d.playback.phase, request := d.playback.request, begin := d.playback.begin,
    encoded := d.playback.encoded
    received := d.playback.receivedBytes, sent := d.socket.sent, drawn := d.drawn, accepted := d.accepted
    stored := d.stored, speaker := d.speaker }

/-- The request that a BEGIN answers. -/
def requestOf (begin : PlaybackBegin) : PlaybackRequest :=
  { slot := begin.identity.slot, requestGeneration := begin.identity.requestGeneration
    connectionGeneration := begin.identity.connectionGeneration, nonce := begin.requestNonce }

/-- The request was made once, not twice: the generation or the nonce was new. -/
def OnlyRequest (drawn : List PlaybackRequest) (request : PlaybackRequest) : Prop := drawn.count request ≤ 1

/-- The keyboard has had `n` bytes of the transfer. -/
def Reached (stored : List (PlaybackIdentity × Nat)) : Known := fun identity n =>
  n = 0 ∨ ∃ m, (identity, m) ∈ stored ∧ n ≤ m

/-- The speaker has played a stream of the transfer to its end. -/
def Drained (drained : List PlaybackBegin) : Known := fun identity samples =>
  ∃ begin ∈ drained, begin.identity = identity ∧ begin.totalSamples = samples

/-- The bytes that are there are the first of the transfer's. -/
structure Holding (started : List LanPlaybackStart) (begin : PlaybackBegin) (received : Nat)
    (drawn accepted : List PlaybackRequest) (stored : List (PlaybackIdentity × Nat))
    (encoded : Bytes) : Prop where
  accepted : requestOf begin ∈ accepted
  most : OnlyTransfer started begin.identity → OnlyRequest drawn (requestOf begin) →
    ∀ n, (begin.identity, n) ∈ stored → n ≤ received
  start : ∃ start ∈ started, start.begin = begin ∧ (OnlyTransfer started begin.identity →
    encoded = start.eiad.take received ∧ received ≤ start.eiad.length)

structure ViewInv (started : List LanPlaybackStart) (carried : Known) (base v : View) : Prop where
  grownSent : ∀ p ∈ base.sent, p ∈ v.sent
  grownStored : ∀ x ∈ base.stored, x ∈ v.stored
  grownDrained : ∀ b ∈ base.speaker.drained, b ∈ v.speaker.drained
  drawn : ∀ r ∈ v.accepted, r ∈ v.drawn
  stored : ∀ identity n, (identity, n) ∈ v.stored →
    carried identity n ∧ ∃ start ∈ started, start.begin.identity = identity ∧
    requestOf start.begin ∈ v.accepted
  acks : ∀ ack, .ack ack ∈ v.sent → ack.status ≤ 1 → Reached v.stored ack.identity ack.nextOffset
  finished : ∀ f, .finished f ∈ v.sent → Drained v.speaker.drained f.identity f.playedSamples
  current : Reached v.stored v.begin.identity v.received
  empty : v.encoded = none → v.received = 0
  holding : ∀ encoded, v.encoded = some encoded →
    Holding started v.begin v.received v.drawn v.accepted v.stored encoded
  idle : v.phase = .idle → v.encoded = none
  waiting : v.phase = .awaitBegin → v.encoded = none ∧ v.request ∈ v.drawn ∧
    (OnlyRequest v.drawn v.request → v.request ∉ v.accepted)
  playing : v.phase = .playing → Sounding v.speaker v.begin
  pending : v.phase = .finishedPendingAck → v.begin ∈ v.speaker.drained

/-- The invariant of a keyboard. -/
def DeviceInv (started : List LanPlaybackStart) (carried : Known) (base : View) (d : Device) : Prop :=
  ViewInv started carried base d.view

variable {started later : List LanPlaybackStart} {carried carried' : Known} {base v : View} {d : Device}

theorem Reached.mono {stored stored' : List (PlaybackIdentity × Nat)} (hle : ∀ x ∈ stored, x ∈ stored')
    {identity : PlaybackIdentity} {n : Nat} (h : Reached stored identity n) :
    Reached stored' identity n := by
  rcases h with h | ⟨m, hm, hn⟩
  · exact Or.inl h
  · exact Or.inr ⟨m, hle _ hm, hn⟩

theorem Drained.mono {drained drained' : List PlaybackBegin} (hle : ∀ b ∈ drained, b ∈ drained')
    {identity : PlaybackIdentity} {n : Nat} (h : Drained drained identity n) :
    Drained drained' identity n := by
  obtain ⟨b, hb, h⟩ := h
  exact ⟨b, hle b hb, h⟩

/-- The host has started more transfers and sent more data. -/
theorem ViewInv.mono (hi : ViewInv started carried base v)
    (hcarried : ∀ id n, carried id n → carried' id n) :
    ViewInv (started ++ later) carried' base v where
  grownSent := hi.grownSent
  grownStored := hi.grownStored
  grownDrained := hi.grownDrained
  drawn := hi.drawn
  stored identity n hmem := by
    obtain ⟨hc, start, hstart, h⟩ := hi.stored identity n hmem
    exact ⟨hcarried _ _ hc, start, List.mem_append_left _ hstart, h⟩
  acks := hi.acks
  finished := hi.finished
  current := hi.current
  empty := hi.empty
  holding encoded henc := by
    obtain ⟨haccepted, hmost, start, hstart, hbegin, hprefix⟩ := hi.holding encoded henc
    exact ⟨haccepted, fun honly => hmost honly.of_append, start, List.mem_append_left _ hstart, hbegin,
      fun honly => hprefix honly.of_append⟩
  idle := hi.idle
  waiting := hi.waiting
  playing := hi.playing
  pending := hi.pending

/-- From here on. -/
theorem ViewInv.rebase (hi : ViewInv started carried base v) : ViewInv started carried v v :=
  { hi with grownSent := fun _ h => h, grownStored := fun _ h => h, grownDrained := fun _ h => h }

/-! ## What the operations do to the view -/

theorem ViewInv.send (hi : ViewInv started carried base v) {p : KeyboardPacket}
    (hp : SaidBy (Reached v.stored) (Drained v.speaker.drained) p) :
    ViewInv started carried base { v with sent := v.sent ++ [p] } :=
  { hi with
    grownSent := fun q hq => List.mem_append_left _ (hi.grownSent q hq)
    acks := fun ack hmem hstatus => by
      rcases List.mem_append.1 hmem with hmem | hmem
      · exact hi.acks ack hmem hstatus
      · rw [← List.mem_singleton.1 hmem] at hp
        exact hp hstatus
    finished := fun f hmem => by
      rcases List.mem_append.1 hmem with hmem | hmem
      · exact hi.finished f hmem
      · rw [← List.mem_singleton.1 hmem] at hp
        exact hp }

/-- The speaker has changed, and has not played a stream to its end. -/
theorem ViewInv.withSpeaker (hi : ViewInv started carried base v) {speaker : SpeakerOutput PlaybackBegin}
    (hdrained : ∀ b ∈ v.speaker.drained, b ∈ speaker.drained)
    (hsounding : v.phase = .playing → Sounding speaker v.begin) :
    ViewInv started carried base { v with speaker := speaker } :=
  { hi with
    grownDrained := fun b hb => hdrained b (hi.grownDrained b hb)
    finished := fun f hmem => (hi.finished f hmem).mono hdrained
    playing := hsounding
    pending := fun h => hdrained _ (hi.pending h) }

theorem ViewInv.cancelling (hi : ViewInv started carried base v) :
    ViewInv started carried base { v with phase := .cancelling } :=
  { hi with
    idle := fun h => by cases h
    waiting := fun h => by cases h
    playing := fun h => by cases h
    pending := fun h => by cases h }

/-- Nothing is held any more. -/
theorem ViewInv.cleanup (hi : ViewInv started carried base v) :
    ViewInv started carried base { v with
      phase := .idle, request := {}, begin := {}, encoded := none, received := 0 } :=
  { hi with
    current := Or.inl rfl
    empty := fun _ => rfl
    holding := fun _ h => by cases h
    idle := fun _ => rfl
    waiting := fun h => by cases h
    playing := fun h => by cases h
    pending := fun h => by cases h }

/-- A request that is new waits for its BEGIN. -/
theorem ViewInv.await (hi : ViewInv started carried base v) (hidle : v.phase = .idle)
    (hdrawn : v.request ∈ v.drawn)
    (hnew : OnlyRequest v.drawn v.request → v.request ∉ v.accepted) :
    ViewInv started carried base { v with phase := .awaitBegin } :=
  { hi with
    idle := fun h => by cases h
    waiting := fun _ => ⟨hi.idle hidle, hdrawn, hnew⟩
    playing := fun h => by cases h
    pending := fun h => by cases h }

/-- A BEGIN for the request is taken. -/
theorem ViewInv.begun (hi : ViewInv started carried base v) (hphase : v.phase = .awaitBegin)
    {begin : PlaybackBegin}
    (hanswers : requestOf begin = v.request) (hstart : ∃ start ∈ started, start.begin = begin)
    {received : Nat}
    (hreceived : received = 0) :
    ViewInv started carried base { v with
      phase := .receiving, begin := begin, encoded := some [], received := received
      accepted := v.accepted ++ [v.request] } := by
  obtain ⟨_, hrequest, hnew⟩ := hi.waiting hphase
  subst hreceived
  refine { hi with
    drawn := fun r hr => ?_
    stored := fun identity n hmem => ?_
    current := Or.inl rfl
    empty := fun _ => rfl
    holding := fun encoded henc => ?_
    idle := fun h => by cases h
    waiting := fun h => by cases h
    playing := fun h => by cases h
    pending := fun h => by cases h }
  · rcases List.mem_append.1 hr with hr | hr
    · exact hi.drawn r hr
    · rw [List.mem_singleton.1 hr]
      exact hrequest
  · obtain ⟨hc, start, hs, hid, haccepted⟩ := hi.stored identity n hmem
    exact ⟨hc, start, hs, hid, List.mem_append_left _ haccepted⟩
  · cases henc
    obtain ⟨start, hmem, hbegin⟩ := hstart
    refine ⟨?_, fun honly hrequestOnly n hn => ?_, start, hmem, hbegin, fun _ => ⟨rfl, Nat.zero_le _⟩⟩
    · rw [hanswers]
      exact List.mem_append_right _ (List.mem_singleton.2 rfl)
    · -- bytes of the same transfer were stored for an earlier BEGIN, which answered the same request
      obtain ⟨_, other, hother, hid, haccepted⟩ := hi.stored _ n hn
      have hsame := start_eq_of_identity honly hother hmem hid (by rw [hbegin])
      rw [hsame, hbegin, hanswers] at haccepted
      rw [hanswers] at hrequestOnly
      exact absurd haccepted (hnew hrequestOnly)

/-- What is held is given up while the transfer is being cancelled. -/
theorem ViewInv.drop (hi : ViewInv started carried base v) (hreceived : v.received = 0) :
    ViewInv started carried base { v with phase := .cancelling, encoded := none } :=
  { hi.cancelling with
    empty := fun _ => hreceived
    holding := fun _ h => by cases h
    idle := fun h => by cases h
    waiting := fun h => by cases h }

/-- The next bytes of the transfer are stored. -/
theorem ViewInv.store (hi : ViewInv started carried base v)
    (hphase : v.phase = .receiving ∨ v.phase = .playing)
    {encoded : Bytes} (henc : v.encoded = some encoded) {data : PlaybackData}
    (hdata : ∃ start ∈ started, ChunkOf start data)
    (hid : data.identity = v.begin.identity) (hoffset : data.offset = v.received)
    (hcarried : carried v.begin.identity (v.received + data.payload.length)) :
    ViewInv started carried base { v with
      encoded := some (encoded ++ data.payload), received := v.received + data.payload.length
      stored := v.stored ++ [(v.begin.identity, v.received + data.payload.length)] } := by
  obtain ⟨haccepted, hmost, start, hmem, hbegin, hprefix⟩ := hi.holding encoded henc
  have hgrow : ∀ x ∈ v.stored, x ∈ v.stored ++ [(v.begin.identity, v.received + data.payload.length)] :=
    fun x hx => List.mem_append_left _ hx
  refine { hi with
    grownStored := fun x hx => hgrow x (hi.grownStored x hx)
    stored := fun identity n hn => ?_
    acks := fun ack hack hstatus => (hi.acks ack hack hstatus).mono hgrow
    current := Or.inr ⟨_, List.mem_append_right _ (List.mem_singleton.2 rfl), Nat.le_refl _⟩
    empty := fun h => by cases h
    holding := fun e he => ?_
    idle := fun h => ?_
    waiting := fun h => ?_ }
  · rcases List.mem_append.1 hn with hn | hn
    · exact hi.stored identity n hn
    · cases List.mem_singleton.1 hn
      exact ⟨hcarried, start, hmem, by rw [hbegin], by rw [hbegin]; exact haccepted⟩
  · cases he
    refine ⟨haccepted, fun honly hrequest n hn => ?_, start, hmem, hbegin, fun honly => ?_⟩
    · rcases List.mem_append.1 hn with hn | hn
      · exact Nat.le_trans (hmost honly hrequest n hn) (Nat.le_add_right _ _)
      · cases List.mem_singleton.1 hn
        exact Nat.le_refl _
    · obtain ⟨other, hother, hchunk⟩ := hdata
      have hsame := start_eq_of_identity honly hother hmem (hchunk.identity.symm.trans hid) (by rw [hbegin])
      subst hsame
      obtain ⟨hencoded, _⟩ := hprefix honly
      have hpayload := hchunk.payload
      have hinside := hchunk.inside
      rw [hoffset] at hpayload hinside
      refine ⟨?_, hinside⟩
      rw [List.take_add, ← hpayload, hencoded]
  · rcases hphase with hp | hp
    · cases hp.symm.trans h
    · cases hp.symm.trans h
  · rcases hphase with hp | hp
    · cases hp.symm.trans h
    · cases hp.symm.trans h

/-- The speaker has taken the stream. -/
theorem ViewInv.toPlaying (hi : ViewInv started carried base v) (hsounding : Sounding v.speaker v.begin) :
    ViewInv started carried base { v with phase := .playing } :=
  { hi with
    idle := fun h => by cases h
    waiting := fun h => by cases h
    playing := fun _ => hsounding
    pending := fun h => by cases h }

/-- The speaker has played the stream to its end. -/
theorem ViewInv.toFinished (hi : ViewInv started carried base v) (hdrained : v.begin ∈ v.speaker.drained) :
    ViewInv started carried base { v with phase := .finishedPendingAck } :=
  { hi with
    idle := fun h => by cases h
    waiting := fun h => by cases h
    playing := fun h => by cases h
    pending := fun _ => hdrained }

/-! ## Sending -/

namespace Device

theorem sendPacket_inv (hi : DeviceInv started carried base d) {p : KeyboardPacket}
    (hp : SaidBy (Reached d.stored) (Drained d.speaker.drained) p) :
    DeviceInv started carried base (d.sendPacket p).2 := by
  have hview : (d.sendPacket p).2.view = { d.view with sent := (d.socket.send p).2.sent } := rfl
  rw [DeviceInv, hview]
  rcases d.socket.send_cases p with ⟨_, hs, _⟩ | ⟨_, hs, _⟩
  · rw [hs]
    exact ViewInv.send hi hp
  · rw [hs]
    exact hi

theorem sendAck_frame (d : Device) (status : Nat) :
    ∃ socket, (d.sendAck status).2 = { d with socket := socket } := by
  unfold sendAck
  dsimp only
  generalize (if status = 3 ∧ d.playback.failureDiagnostic ≠ 0 then
    0xEC000000 ||| d.playback.failureDiagnostic
    else d.playback.receivedBytes) = offset
  split
  · exact ⟨d.socket, rfl⟩
  · exact ⟨_, rfl⟩

theorem sendAck_inv (hi : DeviceInv started carried base d) (status : Nat) :
    DeviceInv started carried base (d.sendAck status).2 := by
  unfold sendAck
  dsimp only
  generalize hoffset : (if status = 3 ∧ d.playback.failureDiagnostic ≠ 0 then
    0xEC000000 ||| d.playback.failureDiagnostic else d.playback.receivedBytes) = offset
  split
  · exact hi
  · refine sendPacket_inv hi fun hstatus => ?_
    have hstatus : status ≤ 1 := hstatus
    rw [if_neg (by omega)] at hoffset
    rw [← hoffset]
    exact ViewInv.current hi

theorem sendRequest_inv (hi : DeviceInv started carried base d) :
    DeviceInv started carried base d.sendRequest.2 := by
  unfold sendRequest
  split
  · exact hi
  · exact sendPacket_inv hi trivial

theorem sendRequest_frame (d : Device) : ∃ socket, d.sendRequest.2 = { d with socket := socket } := by
  unfold sendRequest
  split
  · exact ⟨d.socket, rfl⟩
  · exact ⟨_, rfl⟩

theorem sendFinished_inv (hi : DeviceInv started carried base d)
    (hphase : d.playback.phase = .finishedPendingAck) :
    DeviceInv started carried base d.sendFinished.2 := by
  unfold sendFinished
  dsimp only
  split
  · exact hi
  · exact sendPacket_inv hi ⟨d.playback.begin, ViewInv.pending hi hphase, rfl, rfl⟩

/-! ## The end of a transfer -/

theorem stopSpeaker_inv (hi : DeviceInv started carried base d) :
    DeviceInv started carried base d.stopSpeaker :=
  ViewInv.withSpeaker hi (fun _ hb => (SpeakerOutput.poll_drained d.speaker false false).symm ▸ hb)
    fun h => (ViewInv.playing hi h).poll _ _

/-- A transfer that fails is being cancelled, whatever its phase was. -/
theorem fail_inv (hi : ViewInv started carried base { d.view with phase := .cancelling }) (now : Nat)
    (reason : FailReason) :
    DeviceInv started carried base (d.fail now reason) := by
  have hstop : ∀ d' : Device, DeviceInv started carried base d' →
      DeviceInv started carried base
        (if validPlaybackIdentity d'.slotIdentity then
          let sent := d'.sendAck 3
          stopSpeaker (if sent.1 then
            { sent.2 with playback := { sent.2.playback with
              cancelRetries := sent.2.playback.cancelRetries + 1 } }
          else sent.2)
        else d'.stopSpeaker) := by
    intro d' hi'
    split
    · refine stopSpeaker_inv ?_
      split
      · exact sendAck_inv hi' 3
      · exact sendAck_inv hi' 3
    · exact stopSpeaker_inv hi'
  unfold fail
  exact hstop _ hi

theorem sendAckOrFail_inv (hi : DeviceInv started carried base d) (now : Nat) (reason : FailReason) :
    DeviceInv started carried base
      (if !(d.sendAck 0).1 then (d.sendAck 0).2.fail now reason else (d.sendAck 0).2) := by
  have hsent := sendAck_inv hi 0
  split
  · exact fail_inv (ViewInv.cancelling hsent) now reason
  · exact hsent

/-! ## A request -/

theorem cleanup_inv (hi : DeviceInv started carried base d) : DeviceInv started carried base d.cleanup :=
  ViewInv.cleanup hi

theorem openRequest_inv (hi : DeviceInv started carried base d) (hidle : d.playback.phase = .idle)
    (chances : Chances)
    (slot requestGeneration connectionGeneration : Nat) :
    DeviceInv started carried base (d.openRequest chances slot requestGeneration connectionGeneration) := by
  have hnone : d.playback.encoded = none := ViewInv.idle hi hidle
  unfold openRequest
  split
  · exact hi
  · dsimp only
    generalize hrequest : ({ slot, requestGeneration, connectionGeneration, nonce := randomNonce chances } :
      PlaybackRequest) = request
    have hdrawn : DeviceInv started carried base
        { d with playback := { d.playback with request := request }, drawn := d.drawn ++ [request] } :=
      { hi with
        drawn := fun r hr => List.mem_append_left _ (ViewInv.drawn hi r hr)
        holding := fun encoded henc => by cases hnone.symm.trans henc
        waiting := fun h => by cases hidle.symm.trans h }
    have hsent := sendRequest_inv hdrawn
    split
    · exact cleanup_inv hsent
    · obtain ⟨socket, hframe⟩ := sendRequest_frame
        { d with playback := { d.playback with request := request }, drawn := d.drawn ++ [request] }
      rw [hframe] at hsent ⊢
      refine ViewInv.await hsent hidle (List.mem_append_right _ (List.mem_singleton.2 rfl))
        fun honly hmem => ?_
      -- a request that was accepted before was made before, so it is made twice now
      have hpos := List.count_pos_iff.2 (ViewInv.drawn hi _ hmem)
      simp only [OnlyRequest, Device.view, List.count_append, List.count_singleton_self] at honly hpos
      omega

theorem request_inv (hi : DeviceInv started carried base d) (chances : Chances)
    (slot requestGeneration connectionGeneration : Nat) :
    DeviceInv started carried base (d.request chances slot requestGeneration connectionGeneration) := by
  unfold request
  split
  · exact hi
  · split
    · exact hi
    · exact openRequest_inv (cleanup_inv hi) rfl chances slot requestGeneration connectionGeneration
    · rename_i hidle
      exact openRequest_inv hi hidle chances slot requestGeneration connectionGeneration
    · exact hi
    · exact hi
    · exact hi

theorem preempt_inv (hi : DeviceInv started carried base d) (now : Nat) (identity : SlotPlaybackIdentity) :
    DeviceInv started carried base (d.preempt now identity) := by
  have hdeferred : DeviceInv started carried base d.clearDeferred := hi
  unfold preempt
  split
  · exact hi
  · dsimp only
    split
    · exact hdeferred
    · refine stopSpeaker_inv (ViewInv.cancelling (v := Device.view _) ?_)
      split
      · exact sendAck_inv hdeferred 3
      · exact hdeferred

/-! ## The packets of the host -/

theorem requestOf_eq {begin : PlaybackBegin} {request : PlaybackRequest}
    (h : answersRequest begin request = true) :
    requestOf begin = request := by
  obtain ⟨slot, generation, connection, nonce⟩ := request
  simp only [answersRequest, decide_eq_true_eq] at h
  simp only [requestOf, PlaybackRequest.mk.injEq]
  exact h

theorem acceptBegin_inv (hi : DeviceInv started carried base d) (hphase : d.playback.phase = .awaitBegin)
    {begin : PlaybackBegin} (hanswers : answersRequest begin d.playback.request = true)
    (hstart : ∃ start ∈ started, start.begin = begin) (chances : Chances) :
    DeviceInv started carried base (d.acceptBegin chances begin) := by
  have hnone : d.playback.encoded = none := (ViewInv.waiting hi hphase).1
  have hzero : d.playback.receivedBytes = 0 := ViewInv.empty hi hnone
  have hanswers := requestOf_eq hanswers
  unfold acceptBegin
  dsimp only
  split
  · -- the slot does not take it: nothing is held, as before
    exact { hi with
      current := Or.inl hzero
      holding := fun _ h => by cases hnone.symm.trans h
      playing := fun h => by cases hphase.symm.trans h
      pending := fun h => by cases hphase.symm.trans h }
  · split
    · refine fail_inv ?_ _ _
      have hdropped := (ViewInv.begun hi hphase hanswers hstart hzero).drop hzero
      rw [← show d.view.encoded = none from hnone] at hdropped
      exact hdropped
    · have hbegun := ViewInv.begun hi hphase hanswers hstart rfl
      refine sendAckOrFail_inv ?_ _ _
      exact hbegun

theorem handleBegin_inv (hi : DeviceInv started carried base d) {begin : PlaybackBegin}
    (hstart : ∃ start ∈ started, start.begin = begin) (chances : Chances) :
    DeviceInv started carried base (d.handleBegin chances begin) := by
  unfold handleBegin
  split
  · exact hi
  · rename_i hok
    simp only [Bool.or_eq_true, Bool.not_eq_true', not_or, Bool.not_eq_false] at hok
    split
    · exact sendAck_inv hi 0
    · split
      · exact hi
      · rename_i hphase
        exact acceptBegin_inv hi (by simpa using hphase) hok.2 hstart chances

/-- The speaker is asked to play, in phase `Receiving`. -/
theorem beginSpeakerPlayback_inv (hi : DeviceInv started carried base d)
    (hphase : d.playback.phase = .receiving)
    (chances : Chances) : DeviceInv started carried base (d.beginSpeakerPlayback chances).2 := by
  have hrequested : ∀ ready opens granted, DeviceInv started carried base
      { d with speaker := (d.speaker.requestStreamingAsset ready opens granted d.playback.begin).2 } := by
    intro ready opens granted
    refine ViewInv.withSpeaker hi (fun b hb => ?_) fun h => by cases hphase.symm.trans h
    rw [SpeakerOutput.requestStreamingAsset, SpeakerOutput.requestAsset_drained]
    exact hb
  unfold beginSpeakerPlayback
  dsimp only
  split
  · exact hi
  · split
    · exact hrequested true chances.opens chances.granted
    · rename_i htaken
      split
      · exact hrequested true chances.opens chances.granted
      · refine ViewInv.toPlaying (v := Device.view _) (hrequested true chances.opens chances.granted) ?_
        simp only [Bool.not_eq_true', Bool.not_eq_false] at htaken
        exact requestStreamingAsset_sounding htaken

theorem completeTransfer_inv (hi : DeviceInv started carried base d) (now : Nat) :
    DeviceInv started carried base (d.completeTransfer now) := by
  have hmarked : DeviceInv started carried base d.markTransferComplete.2 := by
    unfold markTransferComplete
    dsimp only
    split
    · exact stopSpeaker_inv (d := d.setDiagnostic 3) hi
    · exact hi
  unfold completeTransfer
  split
  · dsimp only
    split
    · exact fail_inv (ViewInv.cancelling hmarked) _ _
    · exact hmarked
  · exact hi

theorem startAfterPrebuffer_inv (hi : DeviceInv started carried base d) (chances : Chances) :
    DeviceInv started carried base (d.startAfterPrebuffer chances) := by
  unfold startAfterPrebuffer
  split
  · rename_i hphase
    have hstarted := beginSpeakerPlayback_inv hi hphase.1 chances
    dsimp only
    split
    · exact fail_inv (ViewInv.cancelling hstarted) _ _
    · exact completeTransfer_inv hstarted _
  · exact completeTransfer_inv hi _

theorem acceptData_inv (hi : DeviceInv started carried base d)
    (hphase : d.playback.phase = .receiving ∨ d.playback.phase = .playing) {encoded : Bytes}
    (henc : d.playback.encoded = some encoded) {data : PlaybackData}
    (hdata : ∃ start ∈ started, ChunkOf start data)
    (hid : data.identity = d.playback.begin.identity) (hoffset : data.offset = d.playback.receivedBytes)
    (hcarried : carried data.identity (data.offset + data.payload.length)) (chances : Chances) :
    DeviceInv started carried base (d.acceptData chances encoded data.payload) := by
  rw [hid, hoffset] at hcarried
  unfold acceptData
  dsimp only
  split
  · refine sendAck_inv ?_ 2
    exact hi
  · have hstored := ViewInv.store hi hphase henc hdata hid hoffset hcarried
    have hacked : ∀ d' : Device, DeviceInv started carried base d' →
        DeviceInv started carried base
          (if !(d'.sendAck 0).1 then (d'.sendAck 0).2.fail chances.now .dataAck
          else (d'.sendAck 0).2.startAfterPrebuffer chances) := by
      intro d' hi'
      have hsent := sendAck_inv hi' 0
      split
      · exact fail_inv (ViewInv.cancelling hsent) _ _
      · exact startAfterPrebuffer_inv hsent chances
    exact hacked _ hstored

theorem handleData_inv (hi : DeviceInv started carried base d) {data : PlaybackData}
    (hdata : ∃ start ∈ started, ChunkOf start data)
    (hcarried : carried data.identity (data.offset + data.payload.length)) (chances : Chances) :
    DeviceInv started carried base (d.handleData chances data) := by
  unfold handleData
  split
  · exact hi
  · rename_i hok
    simp only [Bool.or_eq_true, Bool.not_eq_true', not_or, Bool.not_eq_false, bne_iff_ne, not_not] at hok
    split
    · exact hi
    · rename_i encoded henc
      split
      · split
        · exact sendAck_inv hi 0
        · exact hi
      · split
        · exact hi
        · rename_i hphase
          split
          · exact sendAck_inv hi 1
          · rename_i hnext
            simp only [not_or, not_not] at hnext
            refine acceptData_inv hi ?_ henc hdata hok.2 hnext.1 hcarried chances
            by_cases hreceiving : d.playback.phase = .receiving
            · exact Or.inl hreceiving
            · exact Or.inr (by simpa [hreceiving] using hphase)

theorem handleFinishedAck_inv (hi : DeviceInv started carried base d) (identity : PlaybackIdentity)
    (status : Nat) :
    DeviceInv started carried base (d.handleFinishedAck identity status) := by
  unfold handleFinishedAck
  split
  · exact hi
  · split
    · exact hi
    · split
      · exact hi
      · dsimp only
        split
        · exact ViewInv.cleanup hi
        · exact hi

/-- What a packet says that the host has sent. -/
def Arriving (started : List LanPlaybackStart) (carried : Known) (packet : HostPacket) : Prop :=
  PacketOf started packet ∧ ∀ data, packet = .data data →
  carried data.identity (data.offset + data.payload.length)

theorem handlePacket_inv (hi : DeviceInv started carried base d) {packet : HostPacket}
    (hp : Arriving started carried packet) (chances : Chances) :
    DeviceInv started carried base (d.handlePacket chances packet) := by
  cases packet with
  | begin begin => exact handleBegin_inv hi hp.1 chances
  | data data => exact handleData_inv hi hp.1 (hp.2 data rfl) chances
  | finishedAck identity status => exact handleFinishedAck_inv hi identity status

theorem receivePackets_inv (chances : Chances) : ∀ (packets : List (Option HostPacket)) (d : Device),
    DeviceInv started carried base d → (∀ packet, some packet ∈ packets → Arriving started carried packet) →
    DeviceInv started carried base (d.receivePackets chances packets)
  | [], _, hi, _ => hi
  | none :: _, _, hi, _ => fail_inv (ViewInv.cancelling hi) _ _
  | some packet :: packets, d, hi, hall => by
    have hone := handlePacket_inv hi (hall packet (List.mem_cons_self ..)) chances
    unfold receivePackets
    dsimp only
    split
    · exact hone
    · exact receivePackets_inv chances packets _ hone fun p hp => hall p (List.mem_cons_of_mem _ hp)

/-! ## A pass of the main loop -/

theorem finishCancelling_inv (hi : DeviceInv started carried base d) (chances : Chances) :
    DeviceInv started carried base (d.finishCancelling chances) := by
  have hcleaned : DeviceInv started carried base d.clearDeferred.cleanup := ViewInv.cleanup hi
  unfold finishCancelling
  dsimp only
  split
  · exact request_inv hcleaned chances _ _ _
  · exact hcleaned

theorem pollCancelling_inv (hi : DeviceInv started carried base d) (chances : Chances)
    {packets : List (Option HostPacket)} (hall : ∀ packet, some packet ∈ packets →
      Arriving started carried packet) :
    DeviceInv started carried base (d.pollCancelling chances packets) := by
  have hreceived :=
    stopSpeaker_inv (receivePackets_inv chances (packets.take maximumReceives) d hi fun p hp =>
    hall p (List.mem_of_mem_take hp))
  have hend : ∀ d' : Device, DeviceInv started carried base d' → ∀ c : Prop, [Decidable c] →
      DeviceInv started carried base (if c then d'.finishCancelling chances else d') := by
    intro d' hi' c _
    split
    · exact finishCancelling_inv hi' chances
    · exact hi'
  unfold pollCancelling
  refine hend _ ?_ _
  split
  · exact sendAck_inv hreceived 3
  · exact hreceived

theorem retryRequest_inv (hi : DeviceInv started carried base d) (now : Nat) :
    DeviceInv started carried base (d.retryRequest now) := by
  have hsent := sendRequest_inv hi
  unfold retryRequest
  split
  · exact fail_inv (ViewInv.cancelling hi) _ _
  · dsimp only
    split
    · exact fail_inv (ViewInv.cancelling hsent) _ _
    · exact hsent

theorem retryFinished_inv (hi : DeviceInv started carried base d)
    (hphase : d.playback.phase = .finishedPendingAck)
    (now : Nat) : DeviceInv started carried base (d.retryFinished now) := by
  have hsent := sendFinished_inv hi hphase
  unfold retryFinished
  split
  · exact fail_inv (ViewInv.cancelling hi) _ _
  · dsimp only
    split
    · exact fail_inv (ViewInv.cancelling hsent) _ _
    · exact hsent

/-- The speaker is idle again in phase `Playing`: its result is that of the stream. -/
theorem finishPlaying_inv (hi : DeviceInv started carried base d) (hphase : d.playback.phase = .playing)
    (hidle : d.speaker.busy = false) (now : Nat) :
    DeviceInv started carried base (d.finishPlaying now) := by
  have hfailed := fail_inv (ViewInv.cancelling hi) now .speakerFailed
  unfold finishPlaying
  split
  · exact hfailed
  · rename_i hresult
    have hdrained : d.playback.begin ∈ d.speaker.drained := by
      have hsounding : Sounding d.speaker d.playback.begin := ViewInv.playing hi hphase
      have hrest : d.speaker.playback.phase = .idle := by
        simp only [SpeakerOutput.busy, SpeakerPlayback.active,
          Bool.or_eq_false_iff, bne_eq_false_iff_eq] at hidle
        exact hidle.1
      exact (hsounding.rest hrest).2 (by simpa using hresult)
    dsimp only
    split
    · refine fail_inv ?_ _ _
      exact ViewInv.cancelling hi
    · have hfinished := ViewInv.toFinished hi hdrained
      have hsend : ∀ d' : Device, DeviceInv started carried base d' →
        d'.playback.phase = .finishedPendingAck →
          DeviceInv started carried base
            (if !d'.sendFinished.1 then d'.sendFinished.2.fail now .finishedSend
            else { d'.sendFinished.2 with
              playback := { d'.sendFinished.2.playback with lastSendMs := now } }) := by
        intro d' hi' hphase'
        have hsent := sendFinished_inv hi' hphase'
        split
        · exact fail_inv (ViewInv.cancelling hsent) _ _
        · exact hsent
      exact hsend _ hfinished rfl

theorem pollPhase_inv (hi : DeviceInv started carried base d) (now : Nat) :
    DeviceInv started carried base (d.pollPhase now) := by
  unfold pollPhase
  dsimp only
  split
  · exact retryRequest_inv hi now
  · split
    · exact fail_inv (ViewInv.cancelling hi) _ _
    · split
      · rename_i hplaying
        exact finishPlaying_inv hi hplaying.1 (by simpa using hplaying.2) now
      · split
        · rename_i hpending
          exact retryFinished_inv hi hpending.1 now
        · exact hi

theorem poll_inv (hi : DeviceInv started carried base d) (chances : Chances)
    {packets : List (Option HostPacket)}
    (hall : ∀ packet, some packet ∈ packets → Arriving started carried packet) :
    DeviceInv started carried base (d.poll chances packets) := by
  unfold poll
  split
  · exact hi
  · split
    · exact pollCancelling_inv hi chances hall
    · exact pollPhase_inv (receivePackets_inv chances (packets.take maximumReceives) d hi fun p hp =>
        hall p (List.mem_of_mem_take hp)) _

theorem handleAction_inv (hi : DeviceInv started carried base d) (chances : Chances)
    (action : DeviceAction) :
    DeviceInv started carried base (d.handleAction chances action) := by
  cases action with
  | pttStarted => exact preempt_inv hi _ _
  | pttEnded => exact hi
  | playRequested => exact request_inv hi chances _ _ _
  | playbackPreempted => exact preempt_inv hi _ _
  | rejectedBusy => exact hi

theorem handleSlotTransition_inv (hi : DeviceInv started carried base d) (chances : Chances)
    (transition : List DeviceAction × CodexSlotState) :
    DeviceInv started carried base (d.handleSlotTransition chances transition) := by
  unfold handleSlotTransition
  have hslots : DeviceInv started carried base { d with slots := transition.2 } := hi
  generalize ({ d with slots := transition.2 } : Device) = d' at hslots
  induction transition.1 generalizing d' with
  | nil => exact hslots
  | cons action actions ih => exact ih _ (handleAction_inv hslots chances action)

/-- While a summary plays, the speaker is its own. -/
def Occupied (d : Device) : Prop := d.playback.phase = .playing → d.speaker.busy = true

theorem serviceSpeaker_inv (hi : DeviceInv started carried base d) (hbusy : Occupied d) (chances : Chances)
    (playbackAllowed speakerStarted bootSound handoff : Bool) :
    DeviceInv started carried base
      (d.serviceSpeaker chances playbackAllowed speakerStarted bootSound handoff) := by
  refine ViewInv.withSpeaker hi (fun b hb => ?_) fun hplaying => ?_
  · have hpolled : b ∈ (d.speaker.poll playbackAllowed speakerStarted).drained := by
      rw [SpeakerOutput.poll_drained]
      exact hb
    have hsound :
      b ∈ (if bootSound then
      ((d.speaker.poll playbackAllowed speakerStarted).requestSound true chances.opens
        chances.granted).2 else d.speaker.poll playbackAllowed speakerStarted).drained := by
      split
      · rw [SpeakerOutput.requestSound, SpeakerOutput.requestAsset_drained]
        exact hpolled
      · exact hpolled
    have hhandoff : ∀ {s : SpeakerOutput PlaybackBegin}, b ∈ s.drained →
        b ∈ (if handoff then s.completePowerHandoff else s).drained := by
      intro s hs
      split
      · rw [SpeakerOutput.completePowerHandoff_drained]
        exact hs
      · exact hs
    exact hhandoff hsound
  · have hsounding : Sounding d.speaker d.playback.begin := ViewInv.playing hi hplaying
    have hpolled := hsounding.poll playbackAllowed speakerStarted
    have hreserved : (d.speaker.poll playbackAllowed speakerStarted).reservedGeneration ≠ 0 := by
      rw [SpeakerOutput.poll_reserved]
      exact hsounding.reserved (hbusy hplaying)
    have hsound :
      Sounding (if bootSound then ((d.speaker.poll playbackAllowed speakerStarted).requestSound true
        chances.opens chances.granted).2 else
          d.speaker.poll playbackAllowed speakerStarted) d.playback.begin := by
      split
      · exact hpolled.requestSound hreserved _ _ _
      · exact hpolled
    have hhandoff : ∀ {s : SpeakerOutput PlaybackBegin}, Sounding s d.playback.begin →
        Sounding (if handoff then s.completePowerHandoff else s) d.playback.begin := by
      intro s hs
      split
      · exact hs.completePowerHandoff
      · exact hs
    exact hhandoff hsound

theorem mainPass_inv (hi : DeviceInv started carried base d) (hbusy : Occupied d) (chances : Chances)
    (playbackAllowed speakerStarted bootSound handoff : Bool) {packets : List (Option HostPacket)}
    (hall : ∀ packet, some packet ∈ packets → Arriving started carried packet) :
    DeviceInv started carried base
      (d.mainPass chances playbackAllowed speakerStarted bootSound handoff packets) :=
  poll_inv (serviceSpeaker_inv hi hbusy chances _ _ _ _) chances hall

/-! ## The speaker is busy between the passes -/

theorem sendAck_phase (d : Device) (status : Nat) :
    (d.sendAck status).2.playback.phase = d.playback.phase := by
  obtain ⟨socket, h⟩ := d.sendAck_frame status
  rw [h]

theorem fail_phase (d : Device) (now : Nat) (reason : FailReason) :
    (d.fail now reason).playback.phase = .cancelling := by
  have hstop : ∀ d' : Device, d'.playback.phase = .cancelling →
      (if validPlaybackIdentity d'.slotIdentity then
        let sent := d'.sendAck 3
        stopSpeaker (if sent.1 then
          { sent.2 with playback := { sent.2.playback with
            cancelRetries := sent.2.playback.cancelRetries + 1 } }
        else sent.2)
      else d'.stopSpeaker).playback.phase = .cancelling := by
    intro d' hd
    split
    · dsimp only
      split
      · exact (sendAck_phase d' 3).trans hd
      · exact (sendAck_phase d' 3).trans hd
    · exact hd
  unfold fail
  exact hstop _ rfl

theorem openRequest_phase (hidle : d.playback.phase = .idle) (chances : Chances)
    (slot requestGeneration connectionGeneration : Nat) :
    (d.openRequest chances slot requestGeneration connectionGeneration).playback.phase ≠ .playing := by
  unfold openRequest
  split
  · rw [hidle]
    decide
  · dsimp only
    split
    · exact fun h => by cases h
    · exact fun h => by cases h

theorem request_occupied (hbusy : Occupied d) (chances : Chances)
    (slot requestGeneration connectionGeneration : Nat) :
    Occupied (d.request chances slot requestGeneration connectionGeneration) := by
  unfold request
  split
  · exact hbusy
  · split
    · rename_i hphase
      exact fun h => by cases hphase.symm.trans h
    · exact fun h => absurd h (openRequest_phase rfl chances slot requestGeneration connectionGeneration)
    · rename_i hidle
      exact fun h => absurd h (openRequest_phase hidle chances slot requestGeneration connectionGeneration)
    · exact hbusy
    · exact hbusy
    · exact hbusy

theorem preempt_occupied (hbusy : Occupied d) (now : Nat) (identity : SlotPlaybackIdentity) :
    Occupied (d.preempt now identity) := by
  unfold preempt
  split
  · exact hbusy
  · dsimp only
    split
    · exact hbusy
    · exact fun h => by cases h

theorem handleSlotTransition_occupied (hbusy : Occupied d) (chances : Chances)
    (transition : List DeviceAction × CodexSlotState) :
    Occupied (d.handleSlotTransition chances transition) := by
  unfold handleSlotTransition
  have hslots : Occupied { d with slots := transition.2 } := hbusy
  generalize ({ d with slots := transition.2 } : Device) = d' at hslots
  induction transition.1 generalizing d' with
  | nil => exact hslots
  | cons action actions ih =>
    refine ih _ ?_
    cases action with
    | pttStarted => exact preempt_occupied hslots _ _
    | pttEnded => exact hslots
    | playRequested => exact request_occupied hslots _ _ _ _
    | playbackPreempted => exact preempt_occupied hslots _ _
    | rejectedBusy => exact hslots

theorem handlePacket_cancelling (hphase : d.playback.phase = .cancelling) (chances : Chances)
    (packet : HostPacket) :
    (d.handlePacket chances packet).playback.phase = .cancelling := by
  cases packet with
  | begin begin =>
    simp only [handlePacket, handleBegin, hphase]
    split
    · exact hphase
    · simpa using hphase
  | data data =>
    simp only [handlePacket, handleData, hphase]
    split
    · exact hphase
    · split
      · exact hphase
      · split
        · simpa using hphase
        · simpa using hphase
  | finishedAck identity status =>
    simp only [handlePacket, handleFinishedAck, hphase]
    split
    · exact hphase
    · split
      · rfl
      · simpa using hphase

theorem receivePackets_cancelling (hphase : d.playback.phase = .cancelling) (chances : Chances)
    (packets : List (Option HostPacket)) :
    (d.receivePackets chances packets).playback.phase = .cancelling := by
  cases packets with
  | nil => exact hphase
  | cons packet packets =>
    cases packet with
    | none => exact fail_phase _ _ _
    | some packet =>
      have hone := handlePacket_cancelling hphase chances packet
      unfold receivePackets
      dsimp only
      rw [if_pos (Or.inr hone)]
      exact hone

theorem pollCancelling_occupied (hphase : d.playback.phase = .cancelling) (chances : Chances)
    (packets : List (Option HostPacket)) : Occupied (d.pollCancelling chances packets) := by
  have hreceived :
    (d.receivePackets chances (packets.take maximumReceives)).stopSpeaker.playback.phase = .cancelling :=
    receivePackets_cancelling hphase chances _
  have hend : ∀ d' : Device, d'.playback.phase = .cancelling → ∀ c : Prop, [Decidable c] →
      Occupied (if c then d'.finishCancelling chances else d') := by
    intro d' hd c _
    split
    · unfold finishCancelling
      dsimp only
      have hcleaned : Occupied d'.clearDeferred.cleanup := fun h => by cases h
      split
      · exact request_occupied hcleaned chances _ _ _
      · exact hcleaned
    · exact fun h => by cases hd.symm.trans h
  unfold pollCancelling
  refine hend _ ?_ _
  split
  · exact (sendAck_phase _ 3).trans hreceived
  · exact hreceived

theorem sendFinished_phase (d : Device) : d.sendFinished.2.playback.phase = d.playback.phase := by
  unfold sendFinished
  dsimp only
  split
  · rfl
  · rfl

/-- A retransmission leaves the phase alone or cancels. -/
theorem resend_occupied {d' : Device} (hphase : d'.playback.phase ≠ .playing) (sent : Bool) (now : Nat)
    (reason : FailReason) {playback : CodexLanPlayback} (hsame : playback.phase = d'.playback.phase) :
    Occupied (if !sent then d'.fail now reason else { d' with playback := playback }) := by
  split
  · exact fun h => by cases (fail_phase ..).symm.trans h
  · exact fun h => absurd (hsame.symm.trans h) hphase

theorem pollPhase_occupied (d : Device) (now : Nat) : Occupied (d.pollPhase now) := by
  have hfail : ∀ (d' : Device) (reason : FailReason), Occupied (d'.fail now reason) :=
    fun d' reason h => by cases (fail_phase ..).symm.trans h
  unfold pollPhase
  dsimp only
  split
  · rename_i hawait
    unfold retryRequest
    split
    · exact hfail _ _
    · obtain ⟨socket, hframe⟩ := d.sendRequest_frame
      refine resend_occupied (fun h => ?_) _ _ _ rfl
      rw [hframe] at h
      cases hawait.1.symm.trans h
  · split
    · exact hfail _ _
    · split
      · unfold finishPlaying
        split
        · exact hfail _ _
        · dsimp only
          split
          · exact hfail _ _
          · refine resend_occupied (fun h => ?_) _ _ _ rfl
            cases (sendFinished_phase _).symm.trans h
      · rename_i hplaying
        split
        · rename_i hpending
          unfold retryFinished
          split
          · exact hfail _ _
          · refine resend_occupied (fun h => ?_) _ _ _ rfl
            cases hpending.1.symm.trans ((sendFinished_phase d).symm.trans h)
        · intro h
          simpa [h] using hplaying

theorem mainPass_occupied (d : Device) (chances : Chances)
    (playbackAllowed speakerStarted bootSound handoff : Bool)
    (packets : List (Option HostPacket)) :
    Occupied (d.mainPass chances playbackAllowed speakerStarted bootSound handoff packets) := by
  unfold mainPass poll
  split
  · rename_i hidle
    exact fun h => by cases hidle.symm.trans h
  · split
    · rename_i hphase
      exact pollCancelling_occupied hphase chances packets
    · exact pollPhase_occupied _ _

/-! ## Other sounds, and the worker -/

theorem sound_inv (hi : DeviceInv started carried base d) (hbusy : Occupied d)
    (ready opens granted : Bool) :
    DeviceInv started carried base { d with
      speaker := (d.speaker.requestSound ready opens granted).2 } := by
  refine ViewInv.withSpeaker hi (fun b hb => ?_) fun hplaying => ?_
  · rw [SpeakerOutput.requestSound, SpeakerOutput.requestAsset_drained]
    exact hb
  · have hsounding : Sounding d.speaker d.playback.begin := ViewInv.playing hi hplaying
    exact hsounding.requestSound (hsounding.reserved (hbusy hplaying)) ready opens granted

theorem sound_occupied (hi : DeviceInv started carried base d) (hbusy : Occupied d)
    (ready opens granted : Bool) :
    Occupied { d with speaker := (d.speaker.requestSound ready opens granted).2 } := by
  intro hplaying
  have hsounding : Sounding d.speaker d.playback.begin := ViewInv.playing hi hplaying
  have hreserved := hsounding.reserved (hbusy hplaying)
  have hsame := Sounding.requestSound_reserved hreserved (hsounding.owner hreserved) ready opens granted
  simp [SpeakerOutput.busy, hsame, hreserved]

theorem worker_inv (hi : DeviceInv started carried base d) (result : WorkerResult) :
    DeviceInv started carried base { d with speaker := d.speaker.workerCompletes result } :=
  ViewInv.withSpeaker hi (fun _ hb => SpeakerOutput.mem_workerCompletes_drained _ result hb) fun hplaying =>
    (ViewInv.playing hi hplaying).workerCompletes result

theorem worker_occupied (hbusy : Occupied d) (result : WorkerResult) :
    Occupied { d with speaker := d.speaker.workerCompletes result } := by
  intro hplaying
  have hbusy : d.speaker.busy = true := hbusy hplaying
  simp only [SpeakerOutput.workerCompletes]
  split
  · exact hbusy
  · exact hbusy

end Device

end CodexKeyboard.Playback
