import Mathlib.Data.List.Nodup
import CodexKeyboard.Playback.System
/-!
# What the host's side keeps

Every packet the host sends belongs to a transfer it has started (`PacketOf`), and the transfer
under way has sent no byte beyond `sent_end_offset` (`TransferInv`). The invariant is relative to
what is known of the keyboard: `reached id n` says that it has had `n` bytes of a transfer, `drained
id n` that its speaker has played `n` samples of it.
-/

namespace CodexKeyboard.Playback

open Lib Voice

/-- What is known of the other side, about an identity and a number. -/
abbrev Known := PlaybackIdentity → Nat → Prop

/-- A piece of the audio of a transfer, with all that its packet says. -/
structure ChunkOf (start : LanPlaybackStart) (data : PlaybackData) : Prop where
  identity : data.identity = start.begin.identity
  nonce : data.requestNonce = start.begin.requestNonce
  payload : data.payload = (start.eiad.drop data.offset).take data.payload.length
  inside : data.offset + data.payload.length ≤ start.eiad.length

/-- A packet of a started transfer. -/
def PacketOf (started : List LanPlaybackStart) : HostPacket → Prop
  | .begin begin => ∃ start ∈ started, start.begin = begin
  | .data data => ∃ start ∈ started, ChunkOf start data
  | .finishedAck _ _ => True

/-- One transfer was started with the identity, not two: its lease was new. -/
def OnlyTransfer (started : List LanPlaybackStart) (identity : PlaybackIdentity) : Prop :=
  (started.map fun start => start.begin.identity).count identity ≤ 1

/-- A transfer was started with so many samples. -/
def Expected (started : List LanPlaybackStart) : Known := fun identity samples =>
  ∃ start ∈ started, start.begin.identity = identity ∧ start.begin.totalSamples = samples

/-- The transfer under way. -/
structure TransferInv (started : List LanPlaybackStart) (sent : List HostPacket) (reached : Known)
    (transfer : ActivePlaybackTransfer) : Prop where
  start : ∃ start ∈ started, start.begin = transfer.begin ∧ start.eiad = transfer.eiad
  window : transfer.sentEndOffset ≤ ActiveLanPlayback.windowEnd transfer
  acknowledged : transfer.acknowledgedOffset ≤ transfer.sentEndOffset
  reached : reached transfer.begin.identity transfer.acknowledgedOffset
  sent : OnlyTransfer started transfer.begin.identity → ∀ data, .data data ∈ sent →
    data.identity = transfer.begin.identity →
    data.offset + data.payload.length ≤ transfer.sentEndOffset
  complete : transfer.phase = .deviceFinished ∨ transfer.phase = .hostCommit →
    transfer.acknowledgedOffset = transfer.eiad.length
  beginning : transfer.phase = .beginAck → transfer.acknowledgedOffset = 0 ∧ transfer.sentEndOffset = 0

structure HostInv (reached drained : Known) (h : ActiveLanPlayback) : Prop where
  starts : ∀ start ∈ h.started, start.eiad.length = start.begin.totalBytes ∧ start.begin.requestNonce ≠ 0
  packets : ∀ p ∈ h.socket.sent, PacketOf h.started p
  transfer : ∀ transfer, h.transfer = some transfer → TransferInv h.started h.socket.sent reached transfer
  finished : ∀ finished, .finished finished ∈ h.events →
    drained finished.identity finished.playedSamples ∧
    Expected h.started finished.identity finished.playedSamples
  requests : ∀ request source, .request request source ∈ h.events → validRequest request = true

variable {reached reached' drained drained' : Known} {h : ActiveLanPlayback}
    {transfer : ActivePlaybackTransfer}
  {started : List LanPlaybackStart} {sent : List HostPacket}

theorem start_eq_of_identity {identity : PlaybackIdentity} (honly : OnlyTransfer started identity)
    {a b : LanPlaybackStart} (ha : a ∈ started) (hb : b ∈ started) (hida : a.begin.identity = identity)
    (hidb : b.begin.identity = identity) : a = b :=
  eq_of_count_map_le_one honly ha hb hida hidb

theorem OnlyTransfer.of_append {later : List LanPlaybackStart} {identity : PlaybackIdentity}
    (h : OnlyTransfer (started ++ later) identity) : OnlyTransfer started identity := by
  simp only [OnlyTransfer, List.map_append, List.count_append] at h ⊢
  omega

theorem PacketOf.mono {p : HostPacket} (hp : PacketOf started p) {later : List LanPlaybackStart}
    (hle : ∀ s ∈ started, s ∈ later) : PacketOf later p := by
  cases p with
  | begin b =>
    obtain ⟨s, hs, hb⟩ := hp
    exact ⟨s, hle s hs, hb⟩
  | data data =>
    obtain ⟨s, hs, hb⟩ := hp
    exact ⟨s, hle s hs, hb⟩
  | finishedAck _ _ => trivial

namespace ActiveLanPlayback

/-! ## Sending a range -/

theorem encodeData_some {identity : PlaybackIdentity} {nonce offset : Nat} {payload : Bytes}
    {packet : HostPacket}
    (h : encodeData identity nonce offset payload = some packet) :
    packet = .data { identity, requestNonce := nonce, offset, payload } := by
  unfold encodeData at h
  split at h
  · cases h
  · exact (Option.some.inj h).symm

theorem encodeData_isSome {identity : PlaybackIdentity} {nonce offset : Nat} {payload : Bytes}
    (hid : validIdentity identity = true) (hnonce : nonce ≠ 0) (hpos : payload ≠ [])
    (hlen : payload.length ≤ playbackChunkBytes) :
    (encodeData identity nonce offset payload).isSome = true := by
  unfold encodeData
  rw [if_neg]
  · rfl
  · simp only [hid, Bool.not_true, Bool.false_or, Bool.or_eq_true,
      beq_iff_eq, List.isEmpty_iff, decide_eq_true_eq]
    rintro ((h | h) | h)
    · exact hnonce h
    · exact hpos h
    · omega

/-- A range that is sent only touches the socket. -/
theorem sendRange_frame (transfer : ActivePlaybackTransfer) (stop : Nat) :
    ∀ (fuel offset : Nat) (h : ActiveLanPlayback),
    ∃ socket, (sendRange transfer stop fuel offset h).2 = { h with socket := socket }
  | 0, _, h => ⟨h.socket, rfl⟩
  | fuel + 1, offset, h => by
    simp only [sendRange]
    split
    · split
      · exact ⟨h.socket, rfl⟩
      · rename_i packet _
        split
        · exact ⟨(h.socket.send packet).2, rfl⟩
        · obtain ⟨socket, hs⟩ := sendRange_frame transfer stop fuel (min (offset + playbackChunkBytes) stop)
            (h.sendTo packet).2
          exact ⟨socket, hs⟩
    · exact ⟨h.socket, rfl⟩

/-- What is sent are chunks of the transfer before `stop`. -/
theorem mem_sendRange {transfer : ActivePlaybackTransfer} {stop : Nat} (hstop : stop ≤ transfer.eiad.length)
    {p : HostPacket} : ∀ {fuel offset : Nat} {h : ActiveLanPlayback},
    p ∈ (sendRange transfer stop fuel offset h).2.socket.sent → p ∈ h.socket.sent ∨
      ∃ data, p = .data data ∧ data.identity = transfer.begin.identity ∧
        data.requestNonce = transfer.begin.requestNonce ∧
        data.payload = (transfer.eiad.drop data.offset).take data.payload.length ∧
        data.offset + data.payload.length ≤ stop
  | 0, _, _, hp => Or.inl hp
  | fuel + 1, offset, h, hp => by
    simp only [sendRange] at hp
    split at hp
    · rename_i hlt
      split at hp
      · exact Or.inl hp
      · rename_i packet hpacket
        have hnew : p ∈ (h.sendTo packet).2.socket.sent → p ∈ h.socket.sent ∨
            ∃ data, p = .data data ∧ data.identity = transfer.begin.identity ∧
              data.requestNonce = transfer.begin.requestNonce ∧
              data.payload = (transfer.eiad.drop data.offset).take data.payload.length ∧
              data.offset + data.payload.length ≤ stop := by
          intro hp
          rcases Channel.mem_send hp with hp | rfl
          · exact Or.inl hp
          · refine Or.inr ⟨_, encodeData_some hpacket, rfl, rfl, ?_, ?_⟩
            · exact List.take_eq_take_iff.2 (by simp only [List.length_take, List.length_drop]; omega)
            · simp only [List.length_take, List.length_drop]
              omega
        split at hp
        · exact hnew hp
        · rcases mem_sendRange hstop hp with hp | hp
          · exact hnew hp
          · exact Or.inr hp
    · exact Or.inl hp

theorem mem_sendRange_of_mem {transfer : ActivePlaybackTransfer} {stop : Nat} {p : HostPacket} :
    ∀ {fuel offset : Nat} {h : ActiveLanPlayback},
    p ∈ h.socket.sent → p ∈ (sendRange transfer stop fuel offset h).2.socket.sent
  | 0, _, _, hp => hp
  | fuel + 1, offset, h, hp => by
    simp only [sendRange]
    split
    · split
      · exact hp
      · rename_i packet _
        split
        · exact Channel.mem_send_of_mem hp packet
        · exact mem_sendRange_of_mem (Channel.mem_send_of_mem hp packet)
    · exact hp

/-- Nothing but the socket can fail for a transfer with a valid identity and a nonce. -/
theorem sendRange_refused {transfer : ActivePlaybackTransfer} {stop : Nat}
    (hstop : stop ≤ transfer.eiad.length)
    (hid : validIdentity transfer.begin.identity = true) (hnonce : transfer.begin.requestNonce ≠ 0) :
    ∀ (fuel offset : Nat) (h : ActiveLanPlayback),
      (h.socket.refused ≤ (sendRange transfer stop fuel offset h).2.socket.refused) ∧
      ((sendRange transfer stop fuel offset h).1 = false →
        h.socket.refused < (sendRange transfer stop fuel offset h).2.socket.refused)
  | 0, _, _ => ⟨Nat.le_refl _, fun h => by cases h⟩
  | fuel + 1, offset, h => by
    simp only [sendRange]
    split
    · rename_i hlt
      have hpacket : (encodeData transfer.begin.identity transfer.begin.requestNonce offset
          ((transfer.eiad.drop offset).take
            (min (offset + playbackChunkBytes) stop - offset))).isSome = true := by
        refine encodeData_isSome hid hnonce ?_ ?_
        · intro hnil
          have := congrArg List.length hnil
          simp only [List.length_take, List.length_drop, List.length_nil, playbackChunkBytes] at this
          omega
        · simp only [List.length_take]
          omega
      split
      · rename_i hnone
        rw [hnone] at hpacket
        cases hpacket
      · rename_i packet _
        have hsend := h.socket.send_cases packet
        have ih := sendRange_refused hstop hid hnonce fuel (min (offset + playbackChunkBytes) stop)
          (h.sendTo packet).2
        rcases hsend with ⟨hok, _, hsame⟩ | ⟨hfail, _, hmore⟩
        · have hsent : (h.sendTo packet).1 = true := hok
          have hrefused : (h.sendTo packet).2.socket.refused = h.socket.refused := hsame
          rw [hrefused] at ih
          simpa [hsent] using ih
        · have hsent : (h.sendTo packet).1 = false := hfail
          have hrefused : (h.sendTo packet).2.socket.refused = h.socket.refused + 1 := hmore
          simp [hsent, hrefused]
    · exact ⟨Nat.le_refl _, fun h => by cases h⟩

theorem windowEnd_le (transfer : ActivePlaybackTransfer) : windowEnd transfer ≤ transfer.eiad.length :=
  Nat.min_le_right _ _

end ActiveLanPlayback

open ActiveLanPlayback

/-! ## Building the invariant -/

theorem TransferInv.mono_sent (ht : TransferInv started sent reached transfer) {sent' : List HostPacket}
    (hsent : ∀ data, .data data ∈ sent' → .data data ∈ sent) : TransferInv started sent' reached transfer :=
  { ht with sent := fun hd data hdata hid => ht.sent hd data (hsent data hdata) hid }

/-- A step that starts nothing. -/
theorem HostInv.build (hi : HostInv reached drained h) {h' : ActiveLanPlayback}
    (hstarted : h'.started = h.started)
    (hsent : ∀ p ∈ h'.socket.sent, p ∈ h.socket.sent ∨ PacketOf h.started p)
    (htransfer : ∀ t, h'.transfer = some t → TransferInv h.started h'.socket.sent reached t)
    (hfinished : ∀ f, .finished f ∈ h'.events → .finished f ∈ h.events ∨
      (drained f.identity f.playedSamples ∧ Expected h.started f.identity f.playedSamples))
    (hrequests : ∀ r source, .request r source ∈ h'.events →
      .request r source ∈ h.events ∨ validRequest r = true) :
    HostInv reached drained h' where
  starts := by rw [hstarted]; exact hi.starts
  packets p hp := by
    rw [hstarted]
    rcases hsent p hp with hp | hp
    · exact hi.packets p hp
    · exact hp
  transfer t ht := by rw [hstarted]; exact htransfer t ht
  finished f hf := by
    rw [hstarted]
    rcases hfinished f hf with hf | hf
    · exact hi.finished f hf
    · exact hf
  requests r source hr := by
    rcases hrequests r source hr with hr | hr
    · exact hi.requests r source hr
    · exact hr

theorem HostInv.mono (hi : HostInv reached drained h) (hr : ∀ id n, reached id n → reached' id n)
    (hd : ∀ id n, drained id n → drained' id n) : HostInv reached' drained' h :=
  { hi with
    transfer := fun t ht => { hi.transfer t ht with reached := hr _ _ (hi.transfer t ht).reached }
    finished := fun f hf => ⟨hd _ _ (hi.finished f hf).1, (hi.finished f hf).2⟩ }

/-- The transfer is dropped, which the daemon is told. -/
theorem HostInv.cancelTransfer (hi : HostInv reached drained h) (identity : PlaybackIdentity) :
    HostInv reached drained (h.cancelTransfer identity) := by
  refine hi.build rfl (fun p hp => Or.inl hp) (fun t ht => by cases ht) (fun f hf => ?_)
    (fun r source hr => ?_)
  · exact Or.inl (by simpa [ActiveLanPlayback.cancelTransfer, emit] using hf)
  · exact Or.inl (by simpa [ActiveLanPlayback.cancelTransfer, emit] using hr)

theorem HostInv.cancelled (hi : HostInv reached drained h) (identity : PlaybackIdentity) :
    HostInv reached drained (h.emit (.cancelled identity)) := by
  refine hi.build rfl (fun p hp => Or.inl hp) hi.transfer (fun f hf => ?_) (fun r source hr => ?_)
  · exact Or.inl (by simpa [emit] using hf)
  · exact Or.inl (by simpa [emit] using hr)

/-- A packet without data. -/
theorem HostInv.sendTo (hi : HostInv reached drained h) {p : HostPacket} (hp : PacketOf h.started p)
    (hdata : ∀ data, p ≠ .data data) : HostInv reached drained (h.sendTo p).2 := by
  refine hi.build rfl (fun q hq => ?_) (fun t ht => ?_) (fun f hf => Or.inl hf)
    (fun r source hr => Or.inl hr)
  · rcases Channel.mem_send hq with hq | rfl
    · exact Or.inl hq
    · exact Or.inr hp
  · refine (hi.transfer t ht).mono_sent fun data hmem => ?_
    rcases Channel.mem_send hmem with hmem | heq
    · exact hmem
    · exact absurd heq.symm (hdata data)

theorem HostInv.setTransfer (hi : HostInv reached drained h)
    (ht : TransferInv h.started h.socket.sent reached transfer) :
    HostInv reached drained { h with transfer := some transfer } :=
  hi.build rfl (fun p hp => Or.inl hp) (fun t heq => by cases heq; exact ht) (fun f hf => Or.inl hf)
    (fun r source hr => Or.inl hr)

theorem HostInv.clearTransfer (hi : HostInv reached drained h) :
    HostInv reached drained { h with transfer := none } :=
  hi.build rfl (fun _ hp => Or.inl hp) (fun _ heq => by cases heq) (fun _ hf => Or.inl hf)
    (fun _ _ hr => Or.inl hr)

theorem HostInv.withRetired (hi : HostInv reached drained h)
    (finish cancel : Option RetiredPlaybackFinish) :
    HostInv reached drained { h with retiredFinish := finish, retiredCancel := cancel } :=
  hi.build rfl (fun _ hp => Or.inl hp) hi.transfer (fun _ hf => Or.inl hf) (fun _ _ hr => Or.inl hr)

/-- The chunks of a range of the transfer. -/
theorem mem_sendRange_packet {transfer' : ActivePlaybackTransfer}
    (hstart : ∃ start ∈ h.started, start.begin = transfer'.begin ∧ start.eiad = transfer'.eiad) {stop : Nat}
    (hstop : stop ≤ transfer'.eiad.length) (fuel offset : Nat) :
    ∀ p ∈ (sendRange transfer' stop fuel offset h).2.socket.sent, p ∈ h.socket.sent ∨
      (PacketOf h.started p ∧ ∀ data, p = .data data → data.identity = transfer'.begin.identity ∧
        data.offset + data.payload.length ≤ stop) := by
  intro p hp
  rcases mem_sendRange hstop hp with hp | ⟨data, rfl, hid, hnonce, hpayload, hend⟩
  · exact Or.inl hp
  · obtain ⟨start, hmem, hbegin, heiad⟩ := hstart
    refine Or.inr ⟨⟨start, hmem, ?_, ?_, ?_, ?_⟩, fun d hd => ?_⟩
    · rw [hbegin]; exact hid
    · rw [hbegin]; exact hnonce
    · rw [heiad]; exact hpayload
    · rw [heiad]; omega
    · cases hd
      exact ⟨hid, hend⟩

/-! ## One lemma for each operation -/

/-- The next window goes out. -/
theorem sendNextData_inv (hi : HostInv reached drained h)
    (ht : TransferInv h.started h.socket.sent reached transfer)
    (now : Instant) : HostInv reached drained (h.sendNextData transfer now) := by
  obtain ⟨socket, hframe⟩ := sendRange_frame transfer (windowEnd transfer)
    (windowEnd transfer - transfer.acknowledgedOffset) transfer.acknowledgedOffset h
  have hpackets := mem_sendRange_packet (h := h) ht.start (windowEnd_le transfer)
    (windowEnd transfer - transfer.acknowledgedOffset)
    transfer.acknowledgedOffset
  unfold sendNextData
  dsimp only
  rw [hframe] at hpackets ⊢
  have hsent : HostInv reached drained { h with socket := socket, transfer := none } :=
    hi.build rfl (fun p hp => (hpackets p hp).imp id And.left) (fun t heq => by cases heq)
      (fun f hf => Or.inl hf)
      (fun r source hr => Or.inl hr)
  split
  · exact hsent.cancelTransfer transfer.begin.identity
  · refine hsent.setTransfer ⟨ht.start, Nat.le_refl _,
      Nat.le_trans ht.acknowledged ht.window, ht.reached, ?_, ?_, ?_⟩
    · intro hd data hdata hid
      rcases hpackets _ hdata with hold | ⟨_, hnew⟩
      · exact Nat.le_trans (ht.sent hd data hold hid) ht.window
      · exact (hnew data rfl).2
    · rintro (hphase | hphase) <;> cases hphase
    · intro hphase
      cases hphase

/-- The keyboard has got further, inside what was sent. -/
theorem TransferInv.progress (ht : TransferInv started sent reached transfer) {n : Nat} (retries : Nat)
    (hphase : transfer.phase = .dataAck) (hn : transfer.acknowledgedOffset ≤ n)
    (hsent : n ≤ transfer.sentEndOffset)
    (hreached : reached transfer.begin.identity n) :
    TransferInv started sent reached { transfer with acknowledgedOffset := n, retryCount := retries } where
  start := ht.start
  window := by
    have := ht.window
    simp only [windowEnd] at this ⊢
    omega
  acknowledged := hsent
  reached := hreached
  sent := ht.sent
  complete h := by simp [hphase] at h
  beginning h := by simp [hphase] at h

theorem TransferInv.retry (ht : TransferInv started sent reached transfer) (retries : Nat) :
    TransferInv started sent reached { transfer with retryCount := retries } :=
  ⟨ht.start, ht.window, ht.acknowledged, ht.reached, ht.sent, ht.complete, ht.beginning⟩

theorem acceptGap_inv (hi : HostInv reached drained h) (ht : h.transfer = some transfer) {ack : PlaybackAck}
    (hwindow : gapInWindow transfer ack) (hreached : reached transfer.begin.identity ack.nextOffset)
    (now : Instant) :
    HostInv reached drained (h.acceptGap transfer ack.nextOffset now) := by
  have htransfer := hi.transfer _ ht
  obtain ⟨hphase, hlow, hhigh⟩ := hwindow
  unfold acceptGap
  split
  · split
    · exact hi.cancelTransfer _
    · exact sendNextData_inv hi (htransfer.retry _) now
  · exact sendNextData_inv hi (htransfer.progress 0 hphase hlow hhigh hreached) now

theorem acceptProgress_inv (hi : HostInv reached drained h) (ht : h.transfer = some transfer)
    {nextOffset : Nat}
    (hreached : reached transfer.begin.identity nextOffset) (now : Instant) :
    HostInv reached drained (h.acceptProgress transfer nextOffset now) := by
  have htransfer := hi.transfer _ ht
  unfold acceptProgress
  split
  · rename_i hphase
    split
    · rename_i hzero
      obtain ⟨hacked, hend⟩ := htransfer.beginning hphase
      have hbegin : TransferInv h.started h.socket.sent reached
          { transfer with acknowledgedOffset := 0, retryCount := 0 } :=
        { htransfer with
          window := by simp only [hend, Nat.zero_le]
          acknowledged := Nat.zero_le _
          reached := hzero ▸ hreached
          complete := fun h => by simp [hphase] at h
          beginning := fun _ => ⟨rfl, hend⟩ }
      exact sendNextData_inv hi hbegin now
    · exact hi
  · rename_i hphase
    split
    · rename_i hin
      have hprogress := htransfer.progress 0 hphase (Nat.le_of_lt hin.1) hin.2 hreached
      dsimp only
      split
      · exact hi.setTransfer hprogress
      · split
        · rename_i hall
          exact hi.setTransfer ⟨hprogress.start, hprogress.window,
            hprogress.acknowledged, hprogress.reached,
            hprogress.sent, fun _ => hall, fun h => by cases h⟩
        · exact sendNextData_inv hi hprogress now
    · exact hi
  · exact hi
  · exact hi

theorem acceptRejection_inv (hi : HostInv reached drained h) (transfer : ActivePlaybackTransfer)
    (ack : PlaybackAck)
    (source : SocketAddr) (now : Instant) :
    HostInv reached drained (h.acceptRejection transfer ack source now) := by
  unfold acceptRejection
  split
  · have hsent := hi.sendTo (p := .finishedAck transfer.begin.identity 1) trivial (fun data => by simp)
    exact (hsent.withRetired _ _).cancelTransfer _
  · exact hi.cancelTransfer _

theorem acceptAck_inv (hi : HostInv reached drained h) {ack : PlaybackAck}
    (hack : ack.status ≤ 1 → reached ack.identity ack.nextOffset) (source : SocketAddr) (now : Instant) :
    HostInv reached drained (h.acceptAck ack source now) := by
  unfold acceptAck
  cases ht : h.transfer with
  | none =>
    dsimp only
    split
    · exact hi
    · split
      · exact hi.sendTo trivial (fun data => by simp)
      · exact hi
  | some transfer =>
    dsimp only
    split
    · exact hi
    · rename_i hsame
      simp only [not_or, not_not] at hsame
      split
      · rename_i hgap
        exact acceptGap_inv hi ht hgap.2 (hsame.2 ▸ hack (by omega)) now
      · split
        · exact acceptRejection_inv hi transfer ack source now
        · exact acceptProgress_inv hi ht (hsame.2 ▸ hack (by omega)) now

theorem acceptFinished_inv (hi : HostInv reached drained h) {finished : PlaybackFinished}
    (hfinished : drained finished.identity finished.playedSamples) (source : SocketAddr) (now : Instant) :
    HostInv reached drained (h.acceptFinished finished source now) := by
  unfold acceptFinished
  cases ht : h.transfer with
  | none =>
    dsimp only
    split
    · exact hi
    · split
      · exact hi.sendTo trivial (fun data => by simp)
      · exact hi
  | some transfer =>
    have htransfer := hi.transfer _ ht
    have hemit : ∀ {h' : ActiveLanPlayback}, HostInv reached drained h' →
        Expected h'.started finished.identity finished.playedSamples →
        HostInv reached drained (h'.emit (.finished finished)) := by
      intro h' hi' hexpected
      refine hi'.build rfl (fun p hp => Or.inl hp) hi'.transfer (fun f hf => ?_) (fun r source hr => ?_)
      · simp only [emit, List.mem_append, List.mem_singleton, LanPlaybackEvent.finished.injEq] at hf
        rcases hf with hf | rfl
        · exact Or.inl hf
        · exact Or.inr ⟨hfinished, hexpected⟩
      · exact Or.inl (by simpa [emit] using hr)
    dsimp only
    split
    · exact hi
    · rename_i hsame
      simp only [not_or, not_not] at hsame
      have hexpected : Expected h.started finished.identity finished.playedSamples := by
        obtain ⟨start, hstart, hbegin, _⟩ := htransfer.start
        exact ⟨start, hstart, by rw [hbegin, hsame.2.1], by rw [hbegin, hsame.2.2.1]⟩
      split
      · rename_i hphase
        exact hemit (hi.setTransfer ⟨htransfer.start, htransfer.window,
          htransfer.acknowledged, htransfer.reached,
          htransfer.sent, fun _ => htransfer.complete (Or.inl hphase), fun h => by cases h⟩) hexpected
      · exact hemit hi hexpected

theorem acceptRequest_inv (hi : HostInv reached drained h) (request : PlaybackRequest) :
    HostInv reached drained (h.acceptRequestGeneration request).2 := by
  have hgrow : HostInv reached drained { h with acceptedRequests :=
      ((request.slot, request.connectionGeneration), request.requestGeneration) :: h.acceptedRequests } :=
    hi.build rfl (fun _ hp => Or.inl hp) hi.transfer (fun _ hf => Or.inl hf) (fun _ _ hr => Or.inl hr)
  unfold acceptRequestGeneration
  dsimp only
  split
  · split
    · exact hi
    · exact hgrow
  · exact hgrow

/-- What a packet of the keyboard has to say for the host to stay right. -/
def SaidBy (reached drained : Known) : KeyboardPacket → Prop
  | .request _ => True
  | .ack ack => ack.status ≤ 1 → reached ack.identity ack.nextOffset
  | .finished finished => drained finished.identity finished.playedSamples

theorem ingest_inv (hi : HostInv reached drained h) {packet : KeyboardPacket}
    (hsaid : SaidBy reached drained packet)
    (source : SocketAddr) (now : Instant) : HostInv reached drained (h.ingest source now packet) := by
  cases packet with
  | request request =>
    simp only [ingest]
    split
    · exact hi
    · rename_i hvalid
      have haccepted := acceptRequest_inv hi request
      have hemit : ∀ {h' : ActiveLanPlayback}, HostInv reached drained h' →
          HostInv reached drained (h'.emit (.request request source)) := by
        intro h' hi'
        refine hi'.build rfl (fun p hp => Or.inl hp) hi'.transfer (fun f hf => ?_) (fun r s hr => ?_)
        · exact Or.inl (by simpa [emit] using hf)
        · simp only [emit, List.mem_append, List.mem_singleton, LanPlaybackEvent.request.injEq] at hr
          rcases hr with hr | ⟨rfl, _⟩
          · exact Or.inl hr
          · exact Or.inr (by simpa using hvalid)
      split
      · exact haccepted
      · split
        · exact hemit haccepted
        · exact hemit (haccepted.cancelTransfer _)
  | ack ack =>
    simp only [ingest]
    split
    · exact hi
    · exact acceptAck_inv hi hsaid source now
  | finished finished =>
    simp only [ingest]
    split
    · exact hi
    · exact acceptFinished_inv hi hsaid source now

theorem resend_inv (hi : HostInv reached drained h) (ht : h.transfer = some transfer) (now : Instant) :
    HostInv reached drained (h.resend transfer now) := by
  have htransfer := hi.transfer _ ht
  have hkeep : ∀ {h' : ActiveLanPlayback}, HostInv reached drained h' → h'.transfer = some transfer →
      HostInv reached drained
        { h' with
          transfer := some { transfer with retryCount := transfer.retryCount + 1, lastSend := now } } := by
    intro h' hi' ht'
    have hold := hi'.transfer _ ht'
    exact hi'.setTransfer ⟨hold.start, hold.window, hold.acknowledged,
      hold.reached, hold.sent, hold.complete,
      hold.beginning⟩
  unfold resend
  by_cases hphase : transfer.phase = .beginAck
  · obtain ⟨start, hstart, hbegin, _⟩ := htransfer.start
    have hsent := hi.sendTo (p := .begin transfer.begin) ⟨start, hstart, hbegin⟩ (fun data => by simp)
    simp only [if_pos hphase]
    split
    · exact hkeep hsent ht
    · exact hsent
  · obtain ⟨socket, hframe⟩ := sendRange_frame transfer transfer.sentEndOffset
      (transfer.sentEndOffset - transfer.acknowledgedOffset) transfer.acknowledgedOffset h
    have hstop :
      transfer.sentEndOffset ≤ transfer.eiad.length := Nat.le_trans htransfer.window (windowEnd_le _)
    have hpackets :=
      mem_sendRange_packet (h := h) htransfer.start hstop
      (transfer.sentEndOffset - transfer.acknowledgedOffset)
      transfer.acknowledgedOffset
    simp only [if_neg hphase]
    rw [hframe] at hpackets ⊢
    have hsent : HostInv reached drained { h with socket := socket } := by
      refine hi.build rfl (fun p hp => (hpackets p hp).imp id And.left) (fun t heq => ?_)
        (fun f hf => Or.inl hf)
        (fun r source hr => Or.inl hr)
      rw [ht] at heq
      cases heq
      refine { htransfer with sent := fun hd data hdata hid => ?_ }
      rcases hpackets _ hdata with hold | ⟨_, hnew⟩
      · exact htransfer.sent hd data hold hid
      · exact (hnew data rfl).2
    split
    · exact hkeep hsent ht
    · exact hsent

theorem tick_inv (hi : HostInv reached drained h) (key : Bool) (now : Instant) :
    HostInv reached drained (h.tick key now) := by
  have hi := hi.withRetired (h.retiredFinish.filter fun retired => decide (now < retired.expiresAt))
    (h.retiredCancel.filter fun retired => decide (now < retired.expiresAt))
  unfold tick expireRetired
  dsimp only
  split
  · exact hi
  · rename_i transfer ht
    split
    · split
      · exact hi.cancelTransfer _
      · exact hi
    · split
      · exact hi
      · split
        · exact hi.cancelTransfer _
        · split
          · exact hi
          · exact resend_inv hi ht now

/-- The transfer that a start begins. -/
theorem started_inv (hi : HostInv reached drained h) {start : LanPlaybackStart}
    {socket : Channel HostPacket}
    (hnonce : start.begin.requestNonce ≠ 0) (hlength : start.eiad.length = start.begin.totalBytes)
    (hzero : reached start.begin.identity 0) (hsent : ∀ p ∈ socket.sent,
      p ∈ h.socket.sent ∨ p = .begin start.begin)
    (now deadline : Instant) :
    HostInv reached drained { h with
      socket := socket
      transfer := some {
        begin := start.begin, source := start.source, eiad := start.eiad, phase := .beginAck,
        acknowledgedOffset := 0
        sentEndOffset := 0, lastSend := now, retryCount := 0, finishDeadline := deadline }
      started := h.started ++ [start] } where
  starts s hs := by
    rcases List.mem_append.1 hs with hs | hs
    · exact hi.starts s hs
    · rw [List.mem_singleton.1 hs]
      exact ⟨hlength, hnonce⟩
  packets p hp := by
    rcases hsent p hp with hp | rfl
    · exact (hi.packets p hp).mono fun s hs => List.mem_append_left _ hs
    · exact ⟨start, by simp, rfl⟩
  transfer t ht := by
    cases ht
    refine ⟨⟨start, by simp, rfl, rfl⟩, Nat.zero_le _, Nat.le_refl _,
      hzero, fun hd data hdata hid => ?_, ?_, ?_⟩
    · -- nothing was sent for this identity: it would be a second transfer with it
      rcases hsent _ hdata with hold | hnew
      · obtain ⟨old, hmem, hchunk⟩ := hi.packets _ hold
        have hnew : start.begin.identity ∉ h.started.map fun s => s.begin.identity := by
          intro hin
          have hpos := List.count_pos_iff.2 hin
          simp only [OnlyTransfer, List.map_append, List.map_cons, List.map_nil, List.count_append,
            List.count_singleton_self] at hd
          omega
        exact absurd (List.mem_map.2 ⟨old, hmem, hchunk.identity.symm.trans hid⟩) hnew
      · cases hnew
    · rintro (h | h) <;> cases h
    · exact fun _ => ⟨rfl, rfl⟩
  finished f hf := by
    obtain ⟨hdrained, other, hother, h⟩ := hi.finished f hf
    exact ⟨hdrained, other, List.mem_append_left _ hother, h⟩
  requests := hi.requests

/-- A start begins a transfer whose identity is new, or is refused. -/
theorem start_inv (hi : HostInv reached drained h) {start : LanPlaybackStart}
    (hnonce : start.begin.requestNonce ≠ 0)
    (hzero : reached start.begin.identity 0) (key : Bool) (now : Instant) :
    HostInv reached drained (h.handleCommand key now (.start start)) := by
  simp only [handleCommand]
  split
  · exact hi.cancelled _
  · rename_i hok
    simp only [not_or, not_not] at hok
    split
    · exact hi.cancelled _
    · rcases h.socket.send_cases (.begin start.begin) with ⟨hsent, _⟩ | ⟨hfail, hsame, _⟩
      · have hsent : (h.sendTo (.begin start.begin)).1 = true := hsent
        rw [if_neg (by simp [hsent])]
        exact started_inv hi hnonce hok.2.2 hzero (fun p hp => Channel.mem_send hp) now _
      · have hfail : (h.sendTo (.begin start.begin)).1 = false := hfail
        rw [if_pos (by simp [hfail])]
        have hframe : HostInv reached drained (h.sendTo (.begin start.begin)).2 :=
          hi.build rfl (fun p hp => Or.inl (hsame ▸ hp))
            (fun t ht => (hi.transfer t ht).mono_sent fun data hdata => hsame ▸ hdata)
            (fun f hf => Or.inl hf)
            (fun r source hr => Or.inl hr)
        exact hframe.cancelled _

theorem finishAck_inv (hi : HostInv reached drained h) (identity : PlaybackIdentity) (key : Bool)
    (now : Instant) :
    HostInv reached drained (h.handleCommand key now (.finishAck identity)) := by
  simp only [handleCommand]
  split
  · exact hi
  · split
    · exact hi
    · split
      · exact hi
      · have hsent := hi.sendTo (p := .finishedAck identity 0) trivial (fun data => by simp)
        split
        · exact hsent
        · exact (hsent.withRetired _ _).clearTransfer

theorem cancel_inv (hi : HostInv reached drained h) (identity : PlaybackIdentity) (key : Bool)
    (now : Instant) :
    HostInv reached drained (h.handleCommand key now (.cancel identity)) := by
  simp only [handleCommand]
  split
  · exact hi
  · split
    · exact hi.clearTransfer
    · exact hi

/-! ## The history grows -/

namespace ActiveLanPlayback

/-- Transfers and packets are only added. -/
def Grows (h h' : ActiveLanPlayback) : Prop :=
  (∃ later, h'.started = h.started ++ later) ∧ ∀ p ∈ h.socket.sent, p ∈ h'.socket.sent

theorem Grows.refl (h : ActiveLanPlayback) : Grows h h := ⟨⟨[], (List.append_nil _).symm⟩, fun _ hp => hp⟩

theorem sendTo_grows (h : ActiveLanPlayback) (packet : HostPacket) : Grows h (h.sendTo packet).2 :=
  ⟨⟨[], (List.append_nil _).symm⟩, fun _ hp => Channel.mem_send_of_mem hp packet⟩

theorem sendRange_grows (transfer : ActivePlaybackTransfer) (stop fuel offset : Nat)
    (h : ActiveLanPlayback) :
    Grows h (sendRange transfer stop fuel offset h).2 := by
  refine ⟨⟨[], ?_⟩, fun _ hp => mem_sendRange_of_mem hp⟩
  obtain ⟨socket, hframe⟩ := sendRange_frame transfer stop fuel offset h
  rw [hframe, List.append_nil]

theorem sendNextData_grows (h : ActiveLanPlayback) (transfer : ActivePlaybackTransfer) (now : Instant) :
    Grows h (h.sendNextData transfer now) := by
  have hsent :=
    sendRange_grows transfer (windowEnd transfer) (windowEnd transfer - transfer.acknowledgedOffset)
    transfer.acknowledgedOffset h
  unfold sendNextData
  dsimp only
  split
  · exact hsent
  · exact hsent

theorem acceptProgress_grows (h : ActiveLanPlayback) (transfer : ActivePlaybackTransfer)
    (nextOffset : Nat) (now : Instant) :
    Grows h (h.acceptProgress transfer nextOffset now) := by
  unfold acceptProgress
  split
  · split
    · exact sendNextData_grows h _ now
    · exact Grows.refl h
  · split
    · dsimp only
      split
      · exact Grows.refl h
      · split
        · exact Grows.refl h
        · exact sendNextData_grows h _ now
    · exact Grows.refl h
  · exact Grows.refl h
  · exact Grows.refl h

theorem acceptAck_grows (h : ActiveLanPlayback) (ack : PlaybackAck) (source : SocketAddr) (now : Instant) :
    Grows h (h.acceptAck ack source now) := by
  unfold acceptAck
  split
  · split
    · exact Grows.refl h
    · split
      · exact sendTo_grows h _
      · exact Grows.refl h
  · rename_i transfer _
    split
    · exact Grows.refl h
    · split
      · unfold acceptGap
        split
        · split
          · exact Grows.refl h
          · exact sendNextData_grows h _ now
        · exact sendNextData_grows h _ now
      · split
        · unfold acceptRejection
          split
          · exact sendTo_grows h _
          · exact Grows.refl h
        · exact acceptProgress_grows h transfer ack.nextOffset now

theorem acceptRequestGeneration_grows (h : ActiveLanPlayback) (request : PlaybackRequest) :
    Grows h (h.acceptRequestGeneration request).2 := by
  unfold acceptRequestGeneration
  dsimp only
  split
  · split
    · exact Grows.refl h
    · exact Grows.refl h
  · exact Grows.refl h

theorem ingest_grows (h : ActiveLanPlayback) (source : SocketAddr) (now : Instant)
    (packet : KeyboardPacket) :
    Grows h (h.ingest source now packet) := by
  cases packet with
  | request request =>
    have haccepted := acceptRequestGeneration_grows h request
    simp only [ingest]
    split
    · exact Grows.refl h
    · split
      · exact haccepted
      · split
        · exact haccepted
        · exact haccepted
  | ack ack =>
    simp only [ingest]
    split
    · exact Grows.refl h
    · exact acceptAck_grows h ack source now
  | finished finished =>
    simp only [ingest]
    split
    · exact Grows.refl h
    · unfold acceptFinished
      split
      · split
        · exact Grows.refl h
        · split
          · exact sendTo_grows h _
          · exact Grows.refl h
      · split
        · exact Grows.refl h
        · split
          · exact Grows.refl h
          · exact Grows.refl h

theorem tick_grows (h : ActiveLanPlayback) (key : Bool) (now : Instant) : Grows h (h.tick key now) := by
  have hexpired : Grows h (h.expireRetired now) := Grows.refl h
  unfold tick
  dsimp only
  split
  · exact hexpired
  · rename_i transfer _
    split
    · split
      · exact hexpired
      · exact hexpired
    · split
      · exact hexpired
      · split
        · exact hexpired
        · split
          · exact hexpired
          · have hbegin : Grows h ((h.expireRetired now).sendTo (.begin transfer.begin)).2 :=
              sendTo_grows (h.expireRetired now) _
            have hrange : Grows h (sendRange transfer transfer.sentEndOffset
                (transfer.sentEndOffset - transfer.acknowledgedOffset) transfer.acknowledgedOffset
                (h.expireRetired now)).2 := sendRange_grows transfer _ _ _ (h.expireRetired now)
            unfold resend
            by_cases hphase : transfer.phase = .beginAck
            · simp only [if_pos hphase]
              split
              · exact hbegin
              · exact hbegin
            · simp only [if_neg hphase]
              split
              · exact hrange
              · exact hrange

theorem handleCommand_grows (h : ActiveLanPlayback) (key : Bool) (now : Instant)
    (command : LanPlaybackCommand) :
    Grows h (h.handleCommand key now command) := by
  cases command with
  | start start =>
    simp only [handleCommand]
    split
    · exact Grows.refl h
    · split
      · exact Grows.refl h
      · split
        · exact sendTo_grows h _
        · exact ⟨⟨[start], rfl⟩, (sendTo_grows h _).2⟩
  | finishAck identity =>
    simp only [handleCommand]
    split
    · exact Grows.refl h
    · split
      · exact Grows.refl h
      · split
        · exact Grows.refl h
        · split
          · exact sendTo_grows h _
          · exact sendTo_grows h _
  | cancel identity =>
    simp only [handleCommand]
    split
    · exact Grows.refl h
    · split
      · exact Grows.refl h
      · exact Grows.refl h

end ActiveLanPlayback

end CodexKeyboard.Playback
