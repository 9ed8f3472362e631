import CodexKeyboard.Playback.KeyboardProofs
/-!
# One transfer between the two sides

The invariants of both sides, each relative to what the other has said, hold in every run
(`systemInv_run`). From them, `transfer_safe`: for a transfer whose identity and request were used
once, the keyboard holds a beginning of its audio, the host has acknowledgements only for what the
keyboard has had, and what is finished was played.

The keyboard forgets `received_bytes_` when it gives a transfer up, and a window whose send fails
half way has no `sent_end_offset`: `offsets_not_ordered` are two runs where the three offsets are
not in order.
-/

namespace CodexKeyboard.Playback

open Lib Voice Keyboard

/-- The host has sent data of the transfer that ends there. -/
def Carried (sent : List HostPacket) : Known := fun identity n =>
  ∃ data, .data data ∈ sent ∧ data.identity = identity ∧ data.offset + data.payload.length = n

structure SystemInv (base : View) (s : System) : Prop where
  host : HostInv (Reached s.keyboard.stored) (Drained s.keyboard.speaker.drained) s.host
  keyboard : DeviceInv s.host.started (Carried s.host.socket.sent) base s.keyboard
  occupied : s.keyboard.Occupied

instance (started : List LanPlaybackStart) (identity : PlaybackIdentity) :
    Decidable (OnlyTransfer started identity) :=
  inferInstanceAs (Decidable (_ ≤ _))

instance (drawn : List PlaybackRequest) (request : PlaybackRequest) :
    Decidable (OnlyRequest drawn request) :=
  inferInstanceAs (Decidable (_ ≤ _))

variable {base : View} {s : System}

/-! ## One step -/

theorem System.mem_authentic {packets : List (Option HostPacket)} {packet : HostPacket}
    (h : some packet ∈ s.authentic packets) : packet ∈ s.host.socket.sent := by
  simp only [System.authentic, List.mem_filter, Option.all_some, decide_eq_true_eq] at h
  exact h.2

theorem SystemInv.arriving (hi : SystemInv base s) {packet : HostPacket} (h : packet ∈ s.host.socket.sent) :
    Device.Arriving s.host.started (Carried s.host.socket.sent) packet :=
  ⟨hi.host.packets packet h, fun data hdata => ⟨data, hdata ▸ h, rfl, rfl⟩⟩

/-- The host takes a step that keeps its invariant and its history. -/
theorem SystemInv.hostStep (hi : SystemInv base s) {host : ActiveLanPlayback} {sends : List Bool}
    (hhost : HostInv (Reached s.keyboard.stored) (Drained s.keyboard.speaker.drained) host)
    (hgrows : ActiveLanPlayback.Grows { s.host with socket := s.host.socket.withOutcomes sends } host) :
    SystemInv base { s with host := host } := by
  obtain ⟨⟨later, hlater⟩, hsent⟩ := hgrows
  have hlater : host.started = s.host.started ++ later := hlater
  refine ⟨hhost, ?_, hi.occupied⟩
  have hcarried : ∀ identity n, Carried s.host.socket.sent identity n →
    Carried host.socket.sent identity n := by
    rintro identity n ⟨data, hmem, h⟩
    exact ⟨data, hsent _ hmem, h⟩
  have hkeyboard : ViewInv (s.host.started ++ later) (Carried host.socket.sent) base s.keyboard.view :=
    ViewInv.mono hi.keyboard hcarried
  rw [← hlater] at hkeyboard
  exact hkeyboard

/-- The keyboard takes a step that keeps its invariant. -/
theorem SystemInv.keyboardStep (hi : SystemInv base s) {keyboard : Device}
    (hstep : ∀ base', DeviceInv s.host.started (Carried s.host.socket.sent) base' s.keyboard →
      DeviceInv s.host.started (Carried s.host.socket.sent) base' keyboard)
    (hoccupied : keyboard.Occupied) : SystemInv base { s with keyboard := keyboard } := by
  have hgrown := hstep _ (ViewInv.rebase hi.keyboard)
  refine ⟨?_, hstep base hi.keyboard, hoccupied⟩
  exact hi.host.mono (fun _ _ h => h.mono (ViewInv.grownStored hgrown)) fun _ _ h =>
    h.mono (ViewInv.grownDrained hgrown)

theorem System.step_inv (hi : SystemInv base s) (e : SystemEvent) : SystemInv base (s.step e) := by
  have hout : ∀ sends, HostInv (Reached s.keyboard.stored) (Drained s.keyboard.speaker.drained)
      { s.host with socket := s.host.socket.withOutcomes sends } := fun sends =>
    hi.host.build rfl (fun _ hp => Or.inl hp) hi.host.transfer (fun _ hf => Or.inl hf)
      (fun _ _ hr => Or.inl hr)
  have hin : ∀ (base' : View) (sends : List Bool),
      DeviceInv s.host.started (Carried s.host.socket.sent) base' s.keyboard →
      DeviceInv s.host.started (Carried s.host.socket.sent) base'
        { s.keyboard with socket := s.keyboard.socket.withOutcomes sends } := fun _ _ h => h
  cases e with
  | start request source summary key now sends =>
    simp only [step]
    split
    · rename_i hmem
      have hvalid := hi.host.requests request source hmem
      simp only [validRequest, Bool.and_eq_true, bne_iff_ne] at hvalid
      exact hi.hostStep (start_inv (hout sends) hvalid.2 (Or.inl rfl) key now)
        (ActiveLanPlayback.handleCommand_grows _ key now _)
    · exact hi
  | finishAck identity key now sends =>
    exact hi.hostStep (finishAck_inv (hout sends) identity key now)
      (ActiveLanPlayback.handleCommand_grows _ key now _)
  | cancel identity =>
    exact hi.hostStep (cancel_inv (hout []) identity true 0)
      (ActiveLanPlayback.handleCommand_grows _ true 0 _)
  | toHost packet source now sends =>
    simp only [step]
    split
    · rename_i hmem
      have hsaid : SaidBy (Reached s.keyboard.stored) (Drained s.keyboard.speaker.drained) packet := by
        cases packet with
        | request request => trivial
        | ack ack => exact ViewInv.acks hi.keyboard ack hmem
        | finished finished => exact ViewInv.finished hi.keyboard finished hmem
      exact hi.hostStep (ingest_inv (hout sends) hsaid source now)
        (ActiveLanPlayback.ingest_grows _ source now packet)
    · exact hi
  | tick key now sends =>
    exact hi.hostStep (tick_inv (hout sends) key now) (ActiveLanPlayback.tick_grows _ key now)
  | input input phase connectionGeneration chances =>
    refine hi.keyboardStep (fun base' h =>
      Device.handleSlotTransition_inv (hin base' chances.sends h) chances _)
      (Device.handleSlotTransition_occupied ?_ chances _)
    exact hi.occupied
  | disconnect connectionGeneration chances =>
    refine hi.keyboardStep (fun base' h =>
      Device.handleSlotTransition_inv (hin base' chances.sends h) chances _)
      (Device.handleSlotTransition_occupied ?_ chances _)
    exact hi.occupied
  | pass chances playbackAllowed speakerStarted bootSound handoff packets =>
    refine hi.keyboardStep (fun base' h =>
      Device.mainPass_inv (hin base' chances.sends h) ?_ chances _ _ _ _ ?_)
      (Device.mainPass_occupied _ chances _ _ _ _ _)
    · exact hi.occupied
    · intro packet hp
      exact hi.arriving (mem_authentic hp)
  | sound chances =>
    refine hi.keyboardStep (fun base' h => Device.sound_inv (hin base' chances.sends h) ?_ _ _ _)
      (Device.sound_occupied (hin base chances.sends hi.keyboard) ?_ _ _ _)
    · exact hi.occupied
    · exact hi.occupied
  | worker result =>
    refine hi.keyboardStep (fun base' h => Device.worker_inv (hin base' [] h) result)
      (Device.worker_occupied ?_ result)
    exact hi.occupied

/-- Both invariants hold in every run. -/
theorem systemInv_run (events : List SystemEvent) : SystemInv ({} : Device).view (run events) := by
  refine run_induction (I := SystemInv ({} : Device).view) ?_ (fun s e hi => System.step_inv hi e) events
  constructor
  · constructor <;> simp
  · constructor <;> simp [Device.view, Reached]
  · intro h
    cases h

/-- The keyboard forgets nothing that it has sent. -/
theorem sent_step (events : List SystemEvent) (e : SystemEvent) {packet : KeyboardPacket}
    (h : packet ∈ (run events).keyboard.socket.sent) :
    packet ∈ (run (events ++ [e])).keyboard.socket.sent := by
  rw [run_concat]
  have hi := systemInv_run events
  have hstep : SystemInv (run events).keyboard.view ((run events).step e) :=
    System.step_inv ⟨hi.host, ViewInv.rebase hi.keyboard, hi.occupied⟩ e
  exact ViewInv.grownSent hstep.keyboard packet h

/-! ## The transfer -/

/-- What holds of a transfer that was started, on both sides. -/
structure TransferSafe (s : System) (start : LanPlaybackStart) : Prop where
  /-- The keyboard holds the beginning of the audio. -/
  bytes : s.keyboard.playback.begin.identity = start.begin.identity →
    (s.keyboard.playback.encoded.getD []).take s.keyboard.playback.receivedBytes =
      start.eiad.take s.keyboard.playback.receivedBytes
  /-- The host has acknowledgements for bytes that the keyboard has had, and still has when it holds
  the transfer. -/
  acknowledged : ∀ transfer, s.host.transfer = some transfer →
    transfer.begin.identity = start.begin.identity →
    Reached s.keyboard.stored start.begin.identity transfer.acknowledgedOffset ∧
    (s.keyboard.playback.begin.identity = start.begin.identity → s.keyboard.playback.encoded.isSome = true →
      transfer.acknowledgedOffset ≤ s.keyboard.playback.receivedBytes)
  /-- What the keyboard has had was sent, before `sent_end_offset` while the host has the transfer. -/
  sent : ∀ n, Reached s.keyboard.stored start.begin.identity n →
    (n = 0 ∨ ∃ m, n ≤ m ∧ Carried s.host.socket.sent start.begin.identity m) ∧
    ∀ transfer, s.host.transfer = some transfer → transfer.begin.identity = start.begin.identity →
      n ≤ transfer.sentEndOffset
  /-- What the keyboard holds it has had. -/
  held : s.keyboard.playback.begin.identity = start.begin.identity →
    Reached s.keyboard.stored start.begin.identity s.keyboard.playback.receivedBytes
  complete : ∀ transfer, s.host.transfer = some transfer → transfer.begin.identity = start.begin.identity →
    transfer.phase = .deviceFinished ∨ transfer.phase = .hostCommit →
    Reached s.keyboard.stored start.begin.identity start.begin.totalBytes
  finished : ∀ finished, .finished finished ∈ s.host.events → finished.identity = start.begin.identity →
    finished.playedSamples = start.begin.totalSamples ∧
    Drained s.keyboard.speaker.drained start.begin.identity start.begin.totalSamples

/-- The host's transfer is the one that was started with its identity. -/
theorem SystemInv.transfer_start (hi : SystemInv base s) {start : LanPlaybackStart}
    (hstart : start ∈ s.host.started)
    (honly : OnlyTransfer s.host.started start.begin.identity) {transfer : ActivePlaybackTransfer}
    (ht : s.host.transfer = some transfer) (hid : transfer.begin.identity = start.begin.identity) :
    start.begin = transfer.begin ∧ start.eiad = transfer.eiad := by
  obtain ⟨other, hother, hbegin, heiad⟩ := (hi.host.transfer _ ht).start
  have hsame := start_eq_of_identity honly hother hstart (by rw [hbegin, hid]) rfl
  rw [← hsame]
  exact ⟨hbegin, heiad⟩

theorem transfer_safe (events : List SystemEvent) {start : LanPlaybackStart}
    (hstart : start ∈ (run events).host.started)
    (honly : OnlyTransfer (run events).host.started start.begin.identity)
    (hrequest : OnlyRequest (run events).keyboard.drawn (requestOf start.begin)) :
    TransferSafe (run events) start := by
  have hi := systemInv_run events
  generalize run events = s at *
  have hkeyboard :
    ViewInv s.host.started (Carried s.host.socket.sent) ({} : Device).view s.keyboard.view := hi.keyboard
  have hsame : ∀ {start' : LanPlaybackStart}, start' ∈ s.host.started →
      start'.begin.identity = start.begin.identity → start' = start := fun hmem hid =>
    start_eq_of_identity honly hmem hstart hid rfl
  refine ⟨fun hid => ?_, fun transfer ht hid => ?_, fun n hn => ?_,
    fun hid => ?_, fun transfer ht hid hphase => ?_,
    fun finished hmem hid => ?_⟩
  · cases henc : s.keyboard.playback.encoded with
    | none =>
      have hzero : s.keyboard.playback.receivedBytes = 0 := hkeyboard.empty henc
      simp [hzero]
    | some encoded =>
      obtain ⟨_, _, other, hother, hbegin, hprefix⟩ := hkeyboard.holding encoded henc
      have hbegin : other.begin = s.keyboard.playback.begin := hbegin
      have hstarted := hsame hother (by rw [hbegin, hid])
      subst hstarted
      obtain ⟨hencoded, _⟩ :=
        hprefix (by rw [← show other.begin = s.keyboard.view.begin from hbegin]; exact honly)
      have hencoded : encoded = other.eiad.take s.keyboard.playback.receivedBytes := hencoded
      rw [Option.getD_some, hencoded, List.take_take, Nat.min_self]
  · have hreached := (hi.host.transfer _ ht).reached
    rw [hid] at hreached
    refine ⟨hreached, fun hheld hsome => ?_⟩
    obtain ⟨encoded, henc⟩ := Option.isSome_iff_exists.1 hsome
    obtain ⟨_, hmost, other, hother, hbegin, _⟩ := hkeyboard.holding encoded henc
    have hbegin : other.begin = s.keyboard.playback.begin := hbegin
    have hstarted := hsame hother (by rw [hbegin, hheld])
    subst hstarted
    rcases hreached with hzero | ⟨m, hm, hle⟩
    · rw [hzero]
      exact Nat.zero_le _
    · refine Nat.le_trans hle (hmost ?_ ?_ m ?_)
      · rw [← show other.begin = s.keyboard.view.begin from hbegin]
        exact honly
      · rw [← show other.begin = s.keyboard.view.begin from hbegin]
        exact hrequest
      · rw [← show other.begin = s.keyboard.view.begin from hbegin]
        exact hm
  · rcases hn with rfl | ⟨m, hm, hle⟩
    · exact ⟨Or.inl rfl, fun _ _ _ => Nat.zero_le _⟩
    · obtain ⟨hcarried, _⟩ := hkeyboard.stored _ m hm
      refine ⟨Or.inr ⟨m, hle, hcarried⟩, fun transfer ht hid => ?_⟩
      obtain ⟨data, hdata, hdataId, hend⟩ := hcarried
      have hsent :=
        (hi.host.transfer _ ht).sent (by rw [hid]; exact honly) data hdata (hdataId.trans hid.symm)
      omega
  · have hcurrent := hkeyboard.current
    rw [show s.keyboard.view.begin.identity = start.begin.identity from hid] at hcurrent
    exact hcurrent
  · obtain ⟨hbegin, heiad⟩ := hi.transfer_start hstart honly ht hid
    have htransfer := hi.host.transfer _ ht
    have hreached := htransfer.reached
    rw [htransfer.complete hphase, ← heiad, (hi.host.starts start hstart).1, hid] at hreached
    exact hreached
  · obtain ⟨hdrained, other, hother, hotherId, hsamples⟩ := hi.host.finished finished hmem
    have hstarted := hsame hother (hotherId.trans hid)
    subst hstarted
    rw [hid, ← hsamples] at hdrained
    exact ⟨hsamples.symm, hdrained⟩

/-! ## A transfer of two chunks -/

def sampleIdentity : PlaybackIdentity :=
  { slot := 1, requestGeneration := 1, connectionGeneration := 1, summaryGeneration := 3, lease := 9 }

def sampleSource : SocketAddr := { ip := [10, 0, 0, 2], port := 5000 }

def sampleRequest : PlaybackRequest :=
  { slot := 1, requestGeneration := 1, connectionGeneration := 1, nonce := 77 }

def sampleSummary : Summary :=
  { summaryGeneration := 3, lease := 9, totalSamples := 480, eiad := List.replicate 1024 5 ++ [6] }

def sampleStart : LanPlaybackStart := startOf sampleRequest sampleSource sampleSummary

/-- An acknowledgement that arrives at the host. -/
def ackArrives (status nextOffset : Nat) (sends : List Bool) : SystemEvent :=
  .toHost (.ack { identity := sampleIdentity, status, nextOffset }) sampleSource 0 sends

/-- A pass of the keyboard's main loop in which packets arrive. -/
def passAt (now : Nat) (packets : List HostPacket) : SystemEvent :=
  .pass { now } true true false true (packets.map some)

def sampleChunk (offset length : Nat) : HostPacket :=
  .data { identity := sampleIdentity, requestNonce := 77, offset,
          payload := (sampleStart.eiad.drop offset).take length }

/-- The key is pressed, the transfer starts and the keyboard takes its BEGIN. -/
def sampleOpening : List SystemEvent :=
  [.input .key5 .pressed 1 { nonce := 77 }, .toHost (.request sampleRequest) sampleSource 0 [],
    .start sampleRequest sampleSource sampleSummary true 0 [], passAt 0 [.begin sampleStart.begin]]

/-- After the first chunk another key is pressed; no CANCEL arrives, and the keyboard gives the
transfer up. -/
def preemptedRun : List SystemEvent :=
  sampleOpening ++ [ackArrives 0 0 [], passAt 0 [sampleChunk 0 1024], ackArrives 0 1024 [],
    .input .key1 .pressed 1 {}] ++
    (List.range 21).map fun i => passAt (100 * (i + 1)) []

/-- The host's socket takes the first chunk of the window and refuses the second. -/
def refusedRun : List SystemEvent :=
  sampleOpening ++ [ackArrives 0 0 [true, false], passAt 0 [sampleChunk 0 1024]]

/-- The three offsets of a transfer need not be in order, though there is only one. -/
theorem offsets_not_ordered :
    ((run preemptedRun).host.started = [sampleStart] ∧
      (run preemptedRun).host.transfer.map (fun transfer => transfer.acknowledgedOffset) = some 1024 ∧
      (run preemptedRun).keyboard.playback.receivedBytes = 0) ∧
    ((run refusedRun).host.started = [sampleStart] ∧
      (run refusedRun).keyboard.playback.receivedBytes = 1024 ∧
      ∀ n ≤ refusedRun.length,
        ((run (refusedRun.take n)).host.transfer.map fun transfer => transfer.sentEndOffset).getD 0 =
          0) := by
  decide +kernel

/-- In the first of these runs, nothing worse happens. -/
theorem preempted_transfer_safe : TransferSafe (run preemptedRun) sampleStart :=
  transfer_safe preemptedRun (by decide +kernel) (by decide +kernel) (by decide +kernel)

end CodexKeyboard.Playback
