import Mathlib.Data.List.Induction
import CodexKeyboard.Lib.Blocks
import CodexKeyboard.Voice.Capture
/-!
# What a completed capture holds

The assembler is proved against what was heard: the datagrams of the run, each with its source and
the key at its arrival. An open capture holds a block for every number below `next_sequence`, heard
or a gap of at most `MAX_CAPTURE_GAP_FRAMES`, and it is closed by the end packet at once, so
`final_sequence` is set in no open capture (`CaptureInv`). `captures_assembled` is the statement
over runs.
-/

namespace CodexKeyboard.Voice

open Lib

variable {hmac : Key → Bytes → Bytes}

/-! ## What the datagrams say -/

/-- The tag is the one of the key. -/
def Authentic (hmac : Key → Bytes → Bytes) (authKey : Option Key) (datagram : Bytes) : Prop :=
  ∃ key, authKey = some key ∧ audioAuthTagBytes ≤ datagram.length ∧
    ∀ pair ∈ ((hmac key (datagram.take (datagram.length - audioAuthTagBytes))).take audioAuthTagBytes).zip
      (datagram.drop (datagram.length - audioAuthTagBytes)), pair.1 = pair.2

/-- An authenticated EIAU frame with these contents. -/
structure AudioFrame (hmac : Key → Bytes → Bytes) (authKey : Option Key) (datagram : Bytes)
    (sessionId : Nat)
    (identity : CaptureSessionIdentity) (sequence : Nat) (payload : Bytes) : Prop where
  length : datagram.length = audioHeaderBytes + audioFrameBytes + audioAuthTagBytes
  magic : datagram.take 4 = frameMagic
  authentic : Authentic hmac authKey datagram
  session : fromLeBytes ((datagram.drop 8).take 8) = sessionId
  identified : decodeCaptureSessionIdentity sessionId = .ok identity
  numbered : fromLeBytes ((datagram.drop 16).take 4) = sequence
  carries : (datagram.drop audioHeaderBytes).take audioFrameBytes = payload

/-- An authenticated EIAE end packet with these contents. -/
structure AudioEnd (hmac : Key → Bytes → Bytes) (authKey : Option Key) (datagram : Bytes) (sessionId : Nat)
    (identity : CaptureSessionIdentity) (finalSequence : Nat) : Prop where
  length : datagram.length = audioEndBytes
  magic : datagram.take 4 = endMagic
  authentic : Authentic hmac authKey datagram
  session : fromLeBytes ((datagram.drop 8).take 8) = sessionId
  identified : decodeCaptureSessionIdentity sessionId = .ok identity
  numbered : fromLeBytes ((datagram.drop 16).take 4) = finalSequence

theorem or_fold_eq_zero (pairs : List (UInt8 × UInt8)) (difference : UInt8) :
    pairs.foldl (fun difference pair => difference ||| (pair.1 ^^^ pair.2)) difference = 0 ↔
      difference = 0 ∧ ∀ pair ∈ pairs, pair.1 = pair.2 := by
  induction pairs generalizing difference with
  | nil => simp
  | cons pair pairs ih => simp [ih, and_assoc]

theorem verify_ok {datagram : Bytes} {authKey : Option Key} {u : Unit}
    (h : verifyAudioAuthentication hmac datagram authKey = .ok u) : Authentic hmac authKey datagram := by
  unfold verifyAudioAuthentication at h
  split at h
  · cases h
  · rename_i key
    dsimp only at h
    split at h
    · cases h
    · rename_i hlen
      split at h
      · rename_i htag
        exact ⟨key, rfl, by omega, ((or_fold_eq_zero _ 0).1 htag).2⟩
      · cases h

theorem readLe_ok {width offset n : Nat} {bytes : Bytes} (h : readLe width bytes offset = .ok n) :
    fromLeBytes ((bytes.drop offset).take width) = n := by
  unfold readLe at h
  split at h
  · exact Except.ok.inj h
  · cases h

theorem bind_ok {ε α β : Type} {x : Except ε α} {f : α → Except ε β} {b : β} (h : x >>= f = .ok b) :
    ∃ a, x = .ok a ∧ f a = .ok b := by
  cases x with
  | error e => cases h
  | ok a => exact ⟨a, rfl, h⟩

theorem parseAudioFrame_ok {datagram : Bytes} {authKey : Option Key} {frame : ParsedFrame}
    (h : parseAudioFrame hmac datagram authKey = .ok frame) :
    AudioFrame hmac authKey datagram frame.sessionId frame.identity frame.sequence frame.payload := by
  unfold parseAudioFrame at h
  split at h
  · cases h
  · rename_i hhead
    simp only [not_or, not_not] at hhead
    obtain ⟨_, hauth, h⟩ := bind_ok h
    obtain ⟨sessionId, hsession, h⟩ := bind_ok h
    obtain ⟨identity, hidentity, h⟩ := bind_ok h
    obtain ⟨sequence, hsequence, h⟩ := bind_ok h
    cases h
    exact ⟨hhead.1, hhead.2.1, verify_ok hauth, readLe_ok hsession, hidentity, readLe_ok hsequence, rfl⟩

theorem parseAudioEnd_ok {datagram : Bytes} {authKey : Option Key} {terminal : ParsedEnd}
    (h : parseAudioEnd hmac datagram authKey = .ok terminal) :
    AudioEnd hmac authKey datagram terminal.sessionId terminal.identity terminal.finalSequence := by
  unfold parseAudioEnd at h
  split at h
  · cases h
  · rename_i hhead
    simp only [not_or, not_not] at hhead
    obtain ⟨_, hauth, h⟩ := bind_ok h
    obtain ⟨sessionId, hsession, h⟩ := bind_ok h
    obtain ⟨identity, hidentity, h⟩ := bind_ok h
    obtain ⟨finalSequence, hfinal, h⟩ := bind_ok h
    cases h
    exact ⟨hhead.1, hhead.2.1, verify_ok hauth, readLe_ok hsession, hidentity, readLe_ok hfinal⟩

theorem AudioFrame.payload_length {authKey : Option Key} {datagram : Bytes} {sessionId : Nat}
    {identity : CaptureSessionIdentity} {sequence : Nat} {payload : Bytes}
    (h : AudioFrame hmac authKey datagram sessionId identity sequence payload) :
    payload.length = audioFrameBytes := by
  rw [← h.carries, List.length_take, List.length_drop, h.length]
  decide

/-! ## What was heard -/

/-- What came in: a datagram, its source and the key of the assembler when it came. -/
abbrev Heard := Option Key → Bytes → SocketAddr → Prop

variable {heard heard' : Heard}

def HeardFrame (hmac : Key → Bytes → Bytes) (heard : Heard) (sessionId : Nat)
    (identity : CaptureSessionIdentity)
    (source : SocketAddr) (sequence : Nat) (payload : Bytes) : Prop :=
  ∃ authKey datagram, heard authKey datagram source ∧
    AudioFrame hmac authKey datagram sessionId identity sequence payload

def HeardEnd (hmac : Key → Bytes → Bytes) (heard : Heard) (sessionId : Nat)
    (identity : CaptureSessionIdentity)
    (source : SocketAddr) (finalSequence : Nat) : Prop :=
  ∃ authKey datagram, heard authKey datagram source ∧
  AudioEnd hmac authKey datagram sessionId identity finalSequence

/-- The bytes of a block that came or did not. -/
def blockBytes (block : Option Bytes) : Bytes := block.getD (List.replicate audioFrameBytes 0)

/-- A buffer with the blocks `0 … n - 1` of a session. -/
structure Assembly (hmac : Key → Bytes → Bytes) (heard : Heard) (sessionId : Nat)
    (identity : CaptureSessionIdentity)
    (source : SocketAddr) (blocks : List (Option Bytes)) (pcm : Bytes) : Prop where
  written : pcm = blocks.flatMap blockBytes
  limit : audioFrameBytes * blocks.length ≤ maxCaptureBytes
  frames : ∀ i payload, blocks[i]? = some (some payload) →
    HeardFrame hmac heard sessionId identity source i payload
  gaps : GapsWithin maxCaptureGapFrames blocks

namespace Assembly

variable {sessionId : Nat} {identity : CaptureSessionIdentity} {source : SocketAddr}
    {blocks : List (Option Bytes)}
  {pcm : Bytes}

theorem mono (h : Assembly hmac heard sessionId identity source blocks pcm)
    (hle : ∀ k b a, heard k b a → heard' k b a) :
    Assembly hmac heard' sessionId identity source blocks pcm :=
  ⟨h.written, h.limit, fun i p hp => by
    obtain ⟨k, b, hb, hf⟩ := h.frames i p hp
    exact ⟨k, b, hle _ _ _ hb, hf⟩, h.gaps⟩

theorem block_length (h : Assembly hmac heard sessionId identity source blocks pcm) :
    ∀ block ∈ blocks, (blockBytes block).length = audioFrameBytes := by
  intro block hmem
  cases block with
  | none => exact List.length_replicate
  | some payload =>
    obtain ⟨i, hi⟩ := List.getElem?_of_mem hmem
    obtain ⟨_, _, _, hframe⟩ := h.frames i payload hi
    exact hframe.payload_length

theorem pcm_length (h : Assembly hmac heard sessionId identity source blocks pcm) :
    pcm.length = audioFrameBytes * blocks.length := by
  rw [h.written]
  exact length_flatMap_blocks h.block_length

theorem empty : Assembly hmac heard sessionId identity source [] [] :=
  ⟨rfl, by decide, fun i p h => by simp at h, gapsWithin_nil⟩

/-- Zeros for the frames that were lost. -/
theorem append_gap (h : Assembly hmac heard sessionId identity source blocks pcm)
    (he : EndsFilled blocks) {m : Nat}
    (hm : m ≤ maxCaptureGapFrames) (hlimit : audioFrameBytes * (blocks.length + m) ≤ maxCaptureBytes) :
    Assembly hmac heard sessionId identity source (blocks ++ List.replicate m none)
      (pcm ++ List.replicate (m * audioFrameBytes) 0) where
  written := by
    rw [List.flatMap_append, ← h.written, List.flatMap_replicate]
    simp [blockBytes]
  limit := by simpa using hlimit
  frames i payload hp := by
    by_cases hi : i < blocks.length
    · rw [List.getElem?_append_left hi] at hp
      exact h.frames i payload hp
    · rw [List.getElem?_append_right (by omega), List.getElem?_replicate] at hp
      split at hp <;> simp at hp
  gaps := gapsWithin_append_gap h.gaps he hm

/-- The next frame. -/
theorem append_frame (h : Assembly hmac heard sessionId identity source blocks pcm) {payload : Bytes}
    (hp : HeardFrame hmac heard sessionId identity source blocks.length payload)
    (hlimit : audioFrameBytes * (blocks.length + 1) ≤ maxCaptureBytes) :
    Assembly hmac heard sessionId identity source (blocks ++ [some payload]) (pcm ++ payload) where
  written := by
    rw [List.flatMap_append, ← h.written]
    simp [blockBytes]
  limit := by simpa using hlimit
  frames i payload' hp' := by
    by_cases hi : i < blocks.length
    · rw [List.getElem?_append_left hi] at hp'
      exact h.frames i payload' hp'
    · rw [List.getElem?_append_right (by omega), List.getElem?_singleton] at hp'
      split at hp'
      · have : i = blocks.length := by omega
        subst this
        cases hp'
        exact hp
      · cases hp'
  gaps := gapsWithin_snoc h.gaps payload

end Assembly

/-! ## The assembler -/

/-- An open capture: its numbers so far, with a frame last, and no end. -/
structure OpenCapture (hmac : Key → Bytes → Bytes) (heard : Heard) (capture : ActiveCapture) : Prop where
  noEnd : capture.finalSequence = none
  assembly : ∃ blocks, blocks.length = capture.nextSequence ∧ EndsFilled blocks ∧
    Assembly hmac heard capture.sessionId capture.identity capture.source blocks capture.pcm

/-- What is handed on: the blocks of a session up to the number of its end packet. -/
def Finished (hmac : Key → Bytes → Bytes) (heard : Heard) (capture : CompletedCapture) : Prop :=
  ∃ source blocks, Assembly hmac heard capture.sessionId capture.identity source blocks capture.pcm ∧
    HeardEnd hmac heard capture.sessionId capture.identity source blocks.length ∧
    minCaptureFrames ≤ blocks.length

structure CaptureInv (hmac : Key → Bytes → Bytes) (heard : Heard) (s : CaptureAssembler) : Prop where
  opened : ∀ sessionId capture, s.active[sessionId]? = some capture →
    capture.sessionId = sessionId ∧ OpenCapture hmac heard capture
  finished : ∀ capture, .ok capture ∈ s.ready → Finished hmac heard capture

variable {s : CaptureAssembler} {sessionId : Nat} {capture : ActiveCapture} {now : Instant}

theorem OpenCapture.mono (h : OpenCapture hmac heard capture) (hle : ∀ k b a, heard k b a → heard' k b a) :
    OpenCapture hmac heard' capture := by
  obtain ⟨blocks, hn, he, ha⟩ := h.assembly
  exact ⟨h.noEnd, blocks, hn, he, ha.mono hle⟩

theorem Finished.mono {capture : CompletedCapture} (h : Finished hmac heard capture)
    (hle : ∀ k b a, heard k b a → heard' k b a) : Finished hmac heard' capture := by
  obtain ⟨source, blocks, ha, ⟨k, b, hb, hend⟩, hmin⟩ := h
  exact ⟨source, blocks, ha.mono hle, ⟨k, b, hle _ _ _ hb, hend⟩, hmin⟩

namespace CaptureInv

theorem mono (h : CaptureInv hmac heard s) (hle : ∀ k b a, heard k b a → heard' k b a) :
    CaptureInv hmac heard' s :=
  ⟨fun id c hc => ⟨(h.opened id c hc).1, (h.opened id c hc).2.mono hle⟩,
    fun c hc => (h.finished c hc).mono hle⟩

/-- The retired sessions and the key are free. -/
theorem congr {s' : CaptureAssembler} (h : CaptureInv hmac heard s) (ha : s'.active = s.active)
    (hr : s'.ready = s.ready) : CaptureInv hmac heard s' := by
  constructor
  · rw [ha]; exact h.opened
  · rw [hr]; exact h.finished

theorem retire (h : CaptureInv hmac heard s) (sessionId : Nat) :
    CaptureInv hmac heard (s.retire sessionId) := by
  unfold CaptureAssembler.retire
  split
  · exact h
  · exact h.congr rfl rfl

theorem erase (h : CaptureInv hmac heard s) (sessionId : Nat) :
    CaptureInv hmac heard { s with active := s.active.erase sessionId } := by
  refine ⟨fun id c hc => ?_, h.finished⟩
  rw [Std.TreeMap.getElem?_erase] at hc
  split at hc
  · cases hc
  · exact h.opened id c hc

theorem discard (h : CaptureInv hmac heard s) (sessionId : Nat) :
    CaptureInv hmac heard (s.discard sessionId) :=
  (h.erase sessionId).retire sessionId

theorem store (h : CaptureInv hmac heard s) (hc : OpenCapture hmac heard capture) :
    CaptureInv hmac heard (s.store capture) := by
  refine ⟨fun id c hget => ?_, h.finished⟩
  rw [CaptureAssembler.store, Std.TreeMap.getElem?_insert] at hget
  split at hget
  · rename_i heq
    cases hget
    exact ⟨Nat.compare_eq_eq.1 heq, hc⟩
  · exact h.opened id c hget

end CaptureInv

/-- The end packet moves a capture whose numbers are complete into the queue; the rest of the map is
what it was. -/
theorem CaptureInv.complete_store (h : CaptureInv hmac heard s) {blocks : List (Option Bytes)}
    (hn : blocks.length = capture.nextSequence)
    (ha : Assembly hmac heard capture.sessionId capture.identity capture.source blocks capture.pcm)
    (hend : HeardEnd hmac heard capture.sessionId capture.identity capture.source capture.nextSequence) :
    CaptureInv hmac heard ((s.store capture).complete capture.sessionId) := by
  have hget : (s.store capture).active[capture.sessionId]? = some capture := by
    rw [CaptureAssembler.store, Std.TreeMap.getElem?_insert_self]
  have hrest : CaptureInv hmac heard ((s.store capture).discard capture.sessionId) := by
    refine CaptureInv.retire (s := { s.store capture with
      active := (s.store capture).active.erase capture.sessionId })
      ⟨fun id c hc => ?_, h.finished⟩ capture.sessionId
    rw [CaptureAssembler.store, Std.TreeMap.getElem?_erase] at hc
    split at hc
    · cases hc
    · rename_i hne
      rw [Std.TreeMap.getElem?_insert, if_neg hne] at hc
      exact h.opened id c hc
  simp only [CaptureAssembler.complete, hget]
  refine ⟨hrest.opened, fun c hc => ?_⟩
  rcases List.mem_append.1 hc with hc | hc
  · exact hrest.finished c hc
  · split at hc
    · simp at hc
    · rename_i hmin
      cases List.mem_singleton.1 hc
      exact ⟨capture.source, blocks, ha, hn ▸ hend, by omega⟩

/-- Filling a gap of `m` frames. -/
theorem fillGap_eq {m upTo : Nat} (h : upTo = capture.nextSequence + m) :
    CaptureAssembler.fillGap capture m upTo =
      { capture with
        pcm := capture.pcm ++ List.replicate (m * audioFrameBytes) 0, nextSequence := upTo } := by
  unfold CaptureAssembler.fillGap CaptureAssembler.resize
  split
  · simp
  · have hm : m = 0 := by omega
    subst hm
    subst h
    simp

theorem saturatingSucc_eq {n : Nat} (h : n < 0xFFFFFFFF) : saturatingSucc n = n + 1 := Nat.min_eq_left h

theorem limit_frames {n : Nat} (h : audioFrameBytes * n ≤ maxCaptureBytes) : n ≤ 4500 := by
  simp only [audioFrameBytes, audioFrameSamples, maxCaptureBytes, audioSampleRate] at h
  omega

/-! ## One lemma for each operation -/

theorem openCapture_inv (h : CaptureInv hmac heard s) (frame : ParsedFrame) (source : SocketAddr)
    (now : Instant) :
    CaptureInv hmac heard (s.openCapture frame source now).2 := by
  unfold CaptureAssembler.openCapture
  split
  · exact h
  · split
    · exact h.retire _
    · split
      · exact h.retire _
      · exact h.store ⟨rfl, [], rfl, endsFilled_nil, Assembly.empty⟩

theorem appendFrame_inv (h : CaptureInv hmac heard s) {frame : ParsedFrame} {source : SocketAddr}
    (now : Instant)
    (hframe : HeardFrame hmac heard frame.sessionId frame.identity source frame.sequence frame.payload) :
    CaptureInv hmac heard (s.appendFrame frame source now).2 := by
  unfold CaptureAssembler.appendFrame
  cases hget : s.active[frame.sessionId]? with
  | none => exact h
  | some capture =>
    obtain ⟨hid, hopen⟩ := h.opened _ _ hget
    obtain ⟨blocks, hn, hfilled, ha⟩ := hopen.assembly
    dsimp only
    split
    · exact h.discard _
    · rename_i hsame
      simp only [not_or, not_not] at hsame
      obtain ⟨hsource, hidentity, _⟩ := hsame
      split
      · exact h.store ⟨hopen.noEnd, blocks, hn, hfilled, ha⟩
      · rename_i hlate
        split
        · exact h.discard _
        · rename_i hgap
          split
          · exact h.discard _
          · rename_i hlimit
            obtain ⟨m, hm⟩ : ∃ m, frame.sequence = capture.nextSequence + m :=
              ⟨frame.sequence - capture.nextSequence, by omega⟩
            rw [show frame.sequence - capture.nextSequence = m by omega] at hgap hlimit ⊢
            obtain ⟨_, _, _, hbytes⟩ := hframe
            rw [hbytes.payload_length, ha.pcm_length, hn] at hlimit
            have hroom : audioFrameBytes * (capture.nextSequence + m + 1) ≤ maxCaptureBytes := by
              rw [Nat.mul_succ, Nat.mul_add, Nat.mul_comm audioFrameBytes m]
              omega
            rw [fillGap_eq hm]
            dsimp only
            rw [if_neg (by rw [hopen.noEnd]; simp)]
            refine h.store ⟨hopen.noEnd, blocks ++ List.replicate m none ++ [some frame.payload], ?_,
              endsFilled_snoc _, ?_⟩
            · -- below the size limit the number does not saturate
              have hsmall := limit_frames hroom
              have hnext : saturatingSucc frame.sequence = capture.nextSequence + m + 1 := by
                rw [hm]
                exact saturatingSucc_eq (Nat.lt_of_le_of_lt (Nat.le_of_succ_le hsmall) (by decide))
              simp only [hnext, List.length_append, List.length_replicate, List.length_singleton]
              omega
            · have hgapped := ha.append_gap hfilled (m := m) (by omega) (by
                rw [hn]
                exact Nat.le_trans (Nat.mul_le_mul_left _ (by omega)) hroom)
              refine hgapped.append_frame ?_ ?_
              · rw [hid, hsource, hidentity, List.length_append, List.length_replicate, hn, ← hm]
                exact ⟨_, _, ‹_›, hbytes⟩
              · rw [List.length_append, List.length_replicate, hn]
                exact hroom

theorem ingestEnd_inv (h : CaptureInv hmac heard s) {datagram : Bytes} {source : SocketAddr} (now : Instant)
    (hheard : heard s.authKey datagram source) :
    CaptureInv hmac heard (s.ingestEnd hmac datagram source now).2 := by
  unfold CaptureAssembler.ingestEnd
  cases hparse : parseAudioEnd hmac datagram s.authKey with
  | error e => exact h
  | ok terminal =>
    have hend : HeardEnd hmac heard terminal.sessionId terminal.identity source terminal.finalSequence :=
      ⟨_, _, hheard, parseAudioEnd_ok hparse⟩
    dsimp only
    split
    · exact h
    · cases hget : s.active[terminal.sessionId]? with
      | none => exact h
      | some capture =>
        obtain ⟨hid, hopen⟩ := h.opened _ _ hget
        obtain ⟨blocks, hn, hfilled, ha⟩ := hopen.assembly
        dsimp only
        split
        · exact h.discard _
        · rename_i hsame
          simp only [not_or, not_not] at hsame
          obtain ⟨hsource, hidentity, hlate, hlimit⟩ := hsame
          rw [hopen.noEnd]
          dsimp only
          split
          · exact h.discard _
          · rename_i hgap
            obtain ⟨m, hm⟩ : ∃ m, terminal.finalSequence = capture.nextSequence + m :=
              ⟨terminal.finalSequence - capture.nextSequence, by omega⟩
            rw [show terminal.finalSequence - capture.nextSequence = m by omega] at hgap ⊢
            rw [fillGap_eq hm]
            dsimp only
            rw [if_pos rfl]
            have hgapped := ha.append_gap hfilled (m := m) (by omega) (by
              rw [hn, ← hm, Nat.mul_comm]
              omega)
            rw [← hid] at hend ⊢
            rw [← hidentity, ← hsource] at hend
            refine CaptureInv.complete_store h ?_ hgapped hend
            rw [List.length_append, List.length_replicate, hn, hm]

theorem ingest_inv (h : CaptureInv hmac heard s) {datagram : Bytes} {source : SocketAddr} (now : Instant)
    (hheard : heard s.authKey datagram source) :
    CaptureInv hmac heard (s.ingest hmac datagram source now).2 := by
  unfold CaptureAssembler.ingest
  split
  · exact ingestEnd_inv h now hheard
  · cases hparse : parseAudioFrame hmac datagram s.authKey with
    | error e => dsimp only; split <;> exact h
    | ok frame =>
      dsimp only
      split
      · exact h
      · have hopened := openCapture_inv h frame source now
        split
        · rename_i hres
          rw [hres] at hopened
          exact hopened
        · rename_i hres
          rw [hres] at hopened
          exact appendFrame_inv hopened now ⟨_, _, hheard, parseAudioFrame_ok hparse⟩

theorem expire_inv (h : CaptureInv hmac heard s) (now : Instant) :
    CaptureInv hmac heard (s.expireIncomplete now).2 := by
  unfold CaptureAssembler.expireIncomplete
  have hfold : ∀ (sessions : List Nat) (s : CaptureAssembler), CaptureInv hmac heard s →
      CaptureInv hmac heard (sessions.foldl CaptureAssembler.discard s) := by
    intro sessions
    induction sessions with
    | nil => intro s h; exact h
    | cons session sessions ih => intro s h; exact ih _ (h.discard session)
  exact hfold _ s h

/-! ## Runs -/

/-- The datagrams of a run, each with its source and the key at its arrival. -/
def heardIn (hmac : Key → Bytes → Bytes) (authKey : Option Key) (events : List CaptureEvent) : Heard :=
  fun key bytes source => ∃ earlier now later, events = earlier ++ .datagram bytes source now :: later ∧
    key = (after (captureStep hmac) (CaptureAssembler.new authKey) earlier).authKey

theorem heardIn_snoc {authKey key : Option Key} {events : List CaptureEvent} {bytes : Bytes}
    {source : SocketAddr}
    (h : heardIn hmac authKey events key bytes source) (event : CaptureEvent) :
    heardIn hmac authKey (events ++ [event]) key bytes source := by
  obtain ⟨earlier, now, later, rfl, hkey⟩ := h
  exact ⟨earlier, now, later ++ [event], by simp, hkey⟩

theorem captureStep_inv (h : CaptureInv hmac heard s) (event : CaptureEvent)
    (hheard : ∀ bytes source now, event = .datagram bytes source now → heard s.authKey bytes source) :
    CaptureInv hmac heard (captureStep hmac s event).2 := by
  cases event with
  | datagram bytes source now => exact ingest_inv h now (hheard bytes source now rfl)
  | expire now => exact expire_inv h now
  | takeReady => exact ⟨h.opened, fun c hc => by simp [captureStep, CaptureAssembler.takeReady] at hc⟩
  | reloadKey key => exact h.congr rfl rfl

theorem captureInv_run (authKey : Option Key) (events : List CaptureEvent) :
    CaptureInv hmac (heardIn hmac authKey events)
      (after (captureStep hmac) (CaptureAssembler.new authKey) events) := by
  induction events using List.reverseRecOn with
  | nil =>
    refine ⟨fun id c hc => ?_, fun c hc => ?_⟩
    · simp [CaptureAssembler.new] at hc
    · simp [CaptureAssembler.new] at hc
  | append_singleton events event ih =>
    rw [after_concat]
    refine captureStep_inv (ih.mono fun _ _ _ hk => heardIn_snoc hk event) event ?_
    rintro bytes source now rfl
    exact ⟨events, now, [], rfl, rfl⟩

/-- 640 bytes of silence. -/
def silentBlock : Bytes := List.replicate audioFrameBytes 0

/-- Block `i` of a capture. -/
def CompletedCapture.block (capture : CompletedCapture) (i : Nat) : Bytes :=
  (capture.pcm.drop (audioFrameBytes * i)).take audioFrameBytes

/-- A capture of `n` blocks, as the keyboard sent it but for short gaps. -/
structure Assembled (hmac : Key → Bytes → Bytes) (heard : Heard) (capture : CompletedCapture)
    (n : Nat) : Prop where
  size : capture.pcm.length = audioFrameBytes * n
  limit : audioFrameBytes * n ≤ maxCaptureBytes
  long : minCaptureFrames ≤ n
  blocks : ∃ source, ∃ cameAs : Nat → Option Bytes,
    HeardEnd hmac heard capture.sessionId capture.identity source n ∧
    (∀ i payload, i < n → cameAs i = some payload →
      HeardFrame hmac heard capture.sessionId capture.identity source i payload ∧
      capture.block i = payload) ∧
    (∀ i, i < n → cameAs i = none → capture.block i = silentBlock) ∧
    -- no more than `MAX_CAPTURE_GAP_FRAMES` blocks in a row came as nothing
    ∀ i, i + maxCaptureGapFrames < n → ∃ j, i ≤ j ∧ j ≤ i + maxCaptureGapFrames ∧ cameAs j ≠ none

theorem Finished.assembled {capture : CompletedCapture} (h : Finished hmac heard capture) :
    ∃ n, Assembled hmac heard capture n := by
  obtain ⟨source, blocks, ha, hend, hlong⟩ := h
  have hblock : ∀ i block, blocks[i]? = some block → capture.block i = blockBytes block := by
    intro i block hi
    rw [CompletedCapture.block, ha.written]
    exact take_drop_flatMap ha.block_length hi
  refine ⟨blocks.length, ha.pcm_length, ha.limit, hlong, source, fun i => blocks[i]?.join, hend, ?_, ?_, ?_⟩
  · intro i payload _ hcame
    have hi : blocks[i]? = some (some payload) := Option.join_eq_some_iff.1 hcame
    exact ⟨ha.frames i payload hi, hblock i _ hi⟩
  · intro i hlt hcame
    refine hblock i none ?_
    dsimp only at hcame
    rw [List.getElem?_eq_getElem hlt] at hcame ⊢
    exact congrArg some hcame
  · intro i hi
    obtain ⟨j, payload, hij, hji, hj⟩ := ha.gaps i hi
    exact ⟨j, hij, hji, by simp [hj]⟩

/-- **Captures are assembled.** Every capture that any run completes has a whole number `n` of
blocks within the limits, `n` is the number in an authenticated end packet of its session, and block
`i` is the payload of the authenticated frame `i` of the same session, source and identity, or
silence in a short gap. -/
theorem captures_assembled (hmac : Key → Bytes → Bytes) (authKey : Option Key) (events : List CaptureEvent)
    (capture : CompletedCapture)
    (h : .ok capture ∈ (after (captureStep hmac) (CaptureAssembler.new authKey) events).ready) :
    ∃ n, Assembled hmac (heardIn hmac authKey events) capture n :=
  ((captureInv_run authKey events).finished capture h).assembled

/-- A tag that every datagram below carries. -/
def sampleMac : Key → Bytes → Bytes := fun _ _ => List.replicate 32 7

/-- Session `0xEC10000100000001`, sequence 9, after nine frames that were lost. -/
def sampleFrame : Bytes :=
  [0x45, 0x49, 0x41, 0x55, 3, 32, 1, 1, 0x01, 0, 0, 0, 0x01, 0, 0x10, 0xEC,
    9, 0, 0, 0, 0x80, 0x3E, 0, 0, 0, 0, 0, 0,
    0x40, 0x01, 0x80, 0x02] ++ List.replicate 640 5 ++ List.replicate 16 7

def sampleEnd : Bytes :=
  [0x45, 0x49, 0x41, 0x45, 3, 32, 1, 0, 0x01, 0, 0, 0, 0x01, 0, 0x10, 0xEC,
    10, 0, 0, 0, 0x80, 0x3E, 0, 0, 0, 0, 0, 0,
    0, 0, 0, 0] ++ List.replicate 16 7

def sampleEvents : List CaptureEvent :=
  [.datagram sampleFrame ⟨[127, 0, 0, 1], 17333⟩ 1000, .datagram sampleEnd ⟨[127, 0, 0, 1], 17333⟩ 2000]

/-- Two datagrams complete a capture. -/
theorem sample_capture_assembled :
    ∃ capture n,
      .ok capture ∈ (after (captureStep sampleMac) (CaptureAssembler.new (some [])) sampleEvents).ready ∧
      Assembled sampleMac (heardIn sampleMac (some []) sampleEvents) capture n := by
  have hready : (after (captureStep sampleMac) (CaptureAssembler.new (some [])) sampleEvents).ready.any
      (fun r => r.isOk) = true := by decide +kernel
  obtain ⟨r, hmem, hok⟩ := List.any_eq_true.1 hready
  cases r with
  | error e => cases hok
  | ok capture =>
    obtain ⟨n, h⟩ := captures_assembled sampleMac (some []) sampleEvents capture hmem
    exact ⟨capture, n, hmem, h⟩

end CodexKeyboard.Voice
