import CodexKeyboard.Playback.Transfer
/-!
# Acknowledgements that reject nothing

A status-1 acknowledgement that `accept_ack` does not take as a gap (lan_voice.rs:745) falls through
to the branch for rejections: it ends the transfer. `late_gap_aborts` are two runs with nothing but
reordering in which this happens. In every run whose gap acknowledgements all come in inside the
window, the transfer is given up for an acknowledgement only when the gap retries are used up
(`benign_acks_keep_transfer`).
-/

namespace CodexKeyboard.Playback

open Lib Voice Keyboard ActiveLanPlayback

variable {h : ActiveLanPlayback} {transfer : ActivePlaybackTransfer}

/-- The transfer is still there. -/
def Keeps (h : ActiveLanPlayback) (transfer : ActivePlaybackTransfer) : Prop :=
  ∃ transfer', h.transfer = some transfer' ∧ transfer'.begin = transfer.begin

/-- A gap at the acknowledged offset, once more than is allowed. -/
def GapRetriesExhausted (transfer : ActivePlaybackTransfer) (ack : PlaybackAck) : Prop :=
  ack.status = 1 ∧ gapInWindow transfer ack ∧ ack.nextOffset = transfer.acknowledgedOffset ∧
    playbackMaxRetries ≤ transfer.retryCount

/-! ## One acknowledgement -/

theorem sendNextData_keeps (h : ActiveLanPlayback) (transfer : ActivePlaybackTransfer)
    (hid : validIdentity transfer.begin.identity = true)
    (hnonce : transfer.begin.requestNonce ≠ 0) (now : Instant) :
    Keeps (h.sendNextData transfer now) transfer ∨
    h.socket.refused < (h.sendNextData transfer now).socket.refused := by
  have hrefused := sendRange_refused (windowEnd_le transfer) hid hnonce
    (windowEnd transfer - transfer.acknowledgedOffset) transfer.acknowledgedOffset h
  unfold sendNextData
  dsimp only
  split
  · rename_i hfail
    exact Or.inr (hrefused.2 (by simpa using hfail))
  · exact Or.inl ⟨_, rfl, rfl⟩

theorem acceptAck_keeps (ht : h.transfer = some transfer) (hnonce : transfer.begin.requestNonce ≠ 0)
    {ack : PlaybackAck}
    (hvalid : validAck ack = true) (hid : transfer.begin.identity = ack.identity) (hstatus : ack.status ≤ 1)
    (hwindow : ack.status = 1 → gapInWindow transfer ack) (source : SocketAddr) (now : Instant) :
    Keeps (h.acceptAck ack source now) transfer ∨ GapRetriesExhausted transfer ack ∨
      h.socket.refused < (h.acceptAck ack source now).socket.refused := by
  have hvalidId : validIdentity transfer.begin.identity = true := by
    rw [hid]
    simp only [validAck, Bool.and_eq_true] at hvalid
    exact hvalid.1
  have hsame : Keeps h transfer := ⟨transfer, ht, rfl⟩
  have hsend : ∀ changed : ActivePlaybackTransfer, changed.begin = transfer.begin →
      Keeps (h.sendNextData changed now) transfer ∨ GapRetriesExhausted transfer ack ∨
        h.socket.refused < (h.sendNextData changed now).socket.refused := by
    intro changed hbegin
    have hkeeps := sendNextData_keeps h changed (hbegin ▸ hvalidId) (hbegin ▸ hnonce) now
    rcases hkeeps with ⟨transfer', ht', hbegin'⟩ | hr
    · exact Or.inl ⟨transfer', ht', hbegin'.trans hbegin⟩
    · exact Or.inr (Or.inr hr)
  unfold acceptAck
  rw [ht]
  dsimp only
  split
  · exact Or.inl hsame
  · split
    · rename_i hgap
      unfold acceptGap
      split
      · rename_i hoffset
        split
        · rename_i hretries
          exact Or.inr (Or.inl ⟨hgap.1, hgap.2, hoffset, hretries⟩)
        · exact hsend _ rfl
      · exact hsend _ rfl
    · rename_i hgap
      split
      · -- a status that is neither 0 nor a gap in the window
        exact absurd ⟨by omega, hwindow (by omega)⟩ hgap
      · unfold acceptProgress
        split
        · split
          · exact hsend _ rfl
          · exact Or.inl hsame
        · split
          · dsimp only
            split
            · exact Or.inl ⟨_, rfl, rfl⟩
            · split
              · exact Or.inl ⟨_, rfl, rfl⟩
              · exact hsend _ rfl
          · exact Or.inl hsame
        · exact Or.inl hsame
        · exact Or.inl hsame

/-! ## Runs -/

theorem transfer_nonce {events : List SystemEvent} (ht : (run events).host.transfer = some transfer) :
    transfer.begin.requestNonce ≠ 0 := by
  have hi := (systemInv_run events).host
  obtain ⟨start, hmem, hbegin, _⟩ := (hi.transfer _ ht).start
  rw [← hbegin]
  exact (hi.starts start hmem).2

theorem sent_append (earlier rest : List SystemEvent) {packet : KeyboardPacket}
    (h : packet ∈ (run earlier).keyboard.socket.sent) :
    packet ∈ (run (earlier ++ rest)).keyboard.socket.sent := by
  induction rest generalizing earlier with
  | nil => simpa using h
  | cons e rest ih =>
    have hlater := ih (earlier ++ [e]) (sent_step earlier e h)
    rwa [List.append_assoc, List.singleton_append] at hlater

/-- In the run `events`, after `earlier`, the host takes in `ack` for its transfer, and is `later`
afterwards. -/
def AckAt (events earlier : List SystemEvent) (ack : PlaybackAck) (transfer : ActivePlaybackTransfer)
    (later : ActiveLanPlayback) : Prop :=
  ∃ now sends rest, events = earlier ++ .toHost (.ack ack) transfer.source now sends :: rest ∧
    .ack ack ∈ (run earlier).keyboard.socket.sent ∧ (run earlier).host.transfer = some transfer ∧
    transfer.begin.identity = ack.identity ∧
    later = (run (earlier ++ [.toHost (.ack ack) transfer.source now sends])).host

/-- The transfer is gone, and not because the host's own socket refused a packet. -/
def AbortedByAck (earlier : List SystemEvent) (transfer : ActivePlaybackTransfer)
    (later : ActiveLanPlayback) : Prop :=
  ¬ Keeps later transfer ∧ later.socket.refused = (run earlier).host.socket.refused

/-- No acknowledgement ends the transfer but a gap that is acknowledged too often. -/
def NeverAborted (events : List SystemEvent) (identity : PlaybackIdentity) : Prop :=
  ∀ earlier ack transfer later, AckAt events earlier ack transfer later →
  transfer.begin.identity = identity →
    AbortedByAck earlier transfer later → GapRetriesExhausted transfer ack

/-- Status 2 or 3 for the transfer. -/
def rejects (identity : PlaybackIdentity) : KeyboardPacket → Bool
  | .ack ack => decide (ack.identity = identity) && decide (2 ≤ ack.status)
  | _ => false

/-- The keyboard sends no status 2 or 3 for the transfer. -/
def NeverRejects (events : List SystemEvent) (identity : PlaybackIdentity) : Prop :=
  ∀ packet ∈ (run events).keyboard.socket.sent, rejects identity packet = false

/-- A gap acknowledgement that the host takes in for the transfer lies in its window. -/
def GapFits (identity : PlaybackIdentity) (s : System) : SystemEvent → Prop
  | .toHost (.ack ack) source _ _ =>
    ∀ transfer ∈ s.host.transfer, ack.status = 1 → ack.identity = identity →
      transfer.source = source → transfer.begin.identity = identity → gapInWindow transfer ack
  | _ => True

/-- Every gap acknowledgement for the transfer comes in in phase `DataAck`, between what is
acknowledged and what was sent. -/
def GapsInWindow (events : List SystemEvent) (identity : PlaybackIdentity) : Prop :=
  Throughout (fun s e => ((), System.step s e)) (GapFits identity) {} events

theorem benign_acks_keep_transfer (events : List SystemEvent) (identity : PlaybackIdentity)
    (hnever : NeverRejects events identity) (hgaps : GapsInWindow events identity) :
    NeverAborted events identity := by
  intro earlier ack transfer later hat hid habort
  obtain ⟨now, sends, rest, hevents, hsent, ht, hack, hlater⟩ := hat
  obtain ⟨hgone, hrefused⟩ := habort
  have hstatus : ack.status ≤ 1 := by
    have hmem : .ack ack ∈ (run events).keyboard.socket.sent := by
      rw [hevents]
      exact sent_append earlier _ hsent
    have hno := hnever _ hmem
    simp only [rejects, ← hack, hid, decide_true, Bool.true_and, decide_eq_false_iff_not] at hno
    omega
  have hwindow : ack.status = 1 → gapInWindow transfer ack := by
    rw [GapsInWindow, hevents, throughout_append] at hgaps
    have hfits : GapFits identity (run earlier) (.toHost (.ack ack) transfer.source now sends) := hgaps.2.1
    exact fun hgap => hfits transfer ht hgap (hack.symm.trans hid) rfl hid
  have hstep : later = ActiveLanPlayback.ingest
      { (run earlier).host with
        socket := (run earlier).host.socket.withOutcomes sends } transfer.source now (.ack ack) := by
    rw [hlater, run_concat]
    simp only [System.step, if_pos hsent]
    rfl
  have hsame : ({ (run earlier).host with socket := (run earlier).host.socket.withOutcomes sends } :
      ActiveLanPlayback).transfer = some transfer := ht
  by_cases hvalid : validAck ack = true
  · rw [ingest, if_neg (by simp [hvalid])] at hstep
    rcases acceptAck_keeps hsame (transfer_nonce ht) hvalid hack hstatus hwindow transfer.source now
      with hk | hexhausted | hr
    · rw [← hstep] at hk
      exact absurd hk hgone
    · exact hexhausted
    · rw [← hstep, hrefused] at hr
      exact absurd hr (Nat.lt_irrefl _)
  · -- an acknowledgement that does not decode changes nothing
    rw [ingest, if_pos (by simpa using hvalid)] at hstep
    exact absurd ⟨transfer, by rw [hstep]; exact ht, rfl⟩ hgone

/-! ## Delayed gap acknowledgements -/

/-- The second chunk overtakes the first, which makes the keyboard acknowledge a gap; then both are
taken. -/
def overtakenRun : List SystemEvent :=
  sampleOpening ++ [ackArrives 0 0 [], passAt 0 [sampleChunk 1024 1],
    passAt 0 [sampleChunk 0 1024, sampleChunk 1024 1]]

/-- The gap is older than the acknowledgement that the host has. -/
def delayedRun : List SystemEvent := overtakenRun ++ [ackArrives 0 1024 []]

/-- The gap is older than the end of the transfer. -/
def delayedPastEnd : List SystemEvent := delayedRun ++ [ackArrives 0 1025 []]

instance (identity : PlaybackIdentity) (s : System) : ∀ e, Decidable (GapFits identity s e)
  | .toHost (.ack _) _ _ _ => inferInstanceAs (Decidable (∀ transfer ∈ s.host.transfer, _))
  | .toHost (.request _) _ _ _ => isTrue trivial
  | .toHost (.finished _) _ _ _ => isTrue trivial
  | .start .. => isTrue trivial
  | .finishAck .. => isTrue trivial
  | .cancel _ => isTrue trivial
  | .tick .. => isTrue trivial
  | .input .. => isTrue trivial
  | .disconnect .. => isTrue trivial
  | .pass .. => isTrue trivial
  | .sound _ => isTrue trivial
  | .worker _ => isTrue trivial

theorem benign_gap_in_window : NeverAborted (overtakenRun ++ [ackArrives 1 0 []]) sampleIdentity :=
  benign_acks_keep_transfer _ _ (by unfold NeverRejects; decide +kernel)
    (by unfold GapsInWindow; decide +kernel)

/-- A late gap aborts a transfer of the run so far, whatever the retries: both runs have only benign
acknowledgements. -/
theorem late_gap_aborts :
    (NeverRejects (delayedRun ++ [ackArrives 1 0 []]) sampleIdentity ∧
      ¬ NeverAborted (delayedRun ++ [ackArrives 1 0 []]) sampleIdentity) ∧
    (NeverRejects (delayedPastEnd ++ [ackArrives 1 0 []]) sampleIdentity ∧
      ¬ NeverAborted (delayedPastEnd ++ [ackArrives 1 0 []]) sampleIdentity) := by
  have habort : ∀ earlier : List SystemEvent, ∀ h : (run earlier).host.transfer.isSome = true,
      .ack { identity := sampleIdentity, status := 1, nextOffset := 0 } ∈
        (run earlier).keyboard.socket.sent →
      ((run earlier).host.transfer.get h).begin.identity = sampleIdentity →
      ((run earlier).host.transfer.get h).source = sampleSource →
        ((run earlier).host.transfer.get h).retryCount = 0 →
      (run (earlier ++ [ackArrives 1 0 []])).host.transfer = none →
      (run (earlier ++ [ackArrives 1 0 []])).host.socket.refused = (run earlier).host.socket.refused →
      ¬ NeverAborted (earlier ++ [ackArrives 1 0 []]) sampleIdentity := by
    intro earlier h hsent hid hsource hretries hgone hrefused hnever
    have hlost :
      ¬ Keeps (run (earlier ++ [ackArrives 1 0 []])).host ((run earlier).host.transfer.get h) := by
      rintro ⟨transfer', ht, _⟩
      rw [hgone] at ht
      cases ht
    have hat :
      AckAt (earlier ++ [ackArrives 1 0 []]) earlier { identity := sampleIdentity,
                                                       status := 1, nextOffset := 0 }
        ((run earlier).host.transfer.get h) (run (earlier ++ [ackArrives 1 0 []])).host := by
      refine ⟨0, [], [], ?_, hsent, (Option.some_get h).symm, hid, ?_⟩
      · rw [hsource]
        rfl
      · rw [hsource]
        rfl
    have hexhausted := hnever _ _ _ _ hat hid ⟨hlost, hrefused⟩
    have hmax := hexhausted.2.2.2
    rw [hretries] at hmax
    exact absurd hmax (by decide)
  refine ⟨⟨by unfold NeverRejects; decide +kernel, ?_⟩, by unfold NeverRejects; decide +kernel, ?_⟩
  · exact habort delayedRun (by decide +kernel) (by decide +kernel) (by decide +kernel) (by decide +kernel)
      (by decide +kernel) (by decide +kernel) (by decide +kernel)
  · exact habort delayedPastEnd (by decide +kernel) (by decide +kernel) (by decide +kernel)
      (by decide +kernel)
      (by decide +kernel) (by decide +kernel) (by decide +kernel)

end CodexKeyboard.Playback
