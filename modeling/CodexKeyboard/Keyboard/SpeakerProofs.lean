import CodexKeyboard.Keyboard.Speaker
/-!
# One stream at the speaker

`Sounding s stream` holds from the moment the speaker takes a stream until it is asked what came of
it: the stream is being played, or the player is idle and a `Succeeded` in `last_result` means that
this stream was drained. Another sound cannot come in between, since the audio owner is released
only with the reservation.
-/

namespace CodexKeyboard.Keyboard

variable {σ : Type} {s : SpeakerOutput σ} {stream : σ}

structure Sounding (s : SpeakerOutput σ) (stream : σ) : Prop where
  owner : s.reservedGeneration ≠ 0 → s.audioOwner = s.reservedGeneration
  running : s.playback.phase ≠ .idle →
    s.playback.activeGeneration ≠ 0 ∧ s.reservedGeneration = s.playback.activeGeneration ∧
    s.completedReservationGeneration = 0 ∧
    (s.playback.phase = .draining → s.playback.pendingResult ≠ .succeeded) ∧
    (s.job = some (s.playback.activeGeneration, .stream stream) ∧ s.completed = none ∨
      s.job = none ∧ ∃ result, s.completed = some (s.playback.activeGeneration, result) ∧
        (result = .succeeded → stream ∈ s.drained))
  rest : s.playback.phase = .idle → s.job = none ∧ (s.playback.lastResult = .succeeded → stream ∈ s.drained)

theorem nextNonzero_ne_zero (n : Nat) : nextNonzero n ≠ 0 := by
  unfold nextNonzero
  split <;> omega

/-! ## The player -/

namespace SpeakerPlayback

variable {p : SpeakerPlayback} {generation : Nat} {result : SpeakerPlaybackResult}

theorem isActive_self (hg : p.activeGeneration ≠ 0) (hp : p.phase ≠ .idle) :
    p.isActive p.activeGeneration = true := by
  simp [isActive, hg, hp]

theorem beginDrain_generation (p : SpeakerPlayback) (generation : Nat) (result : SpeakerPlaybackResult) :
    (p.beginDrain generation result).activeGeneration = p.activeGeneration := by
  unfold beginDrain
  split
  · rfl
  · split
    · split <;> rfl
    · rfl

theorem beginDrain_idle (h : p.phase = .idle) : p.beginDrain generation result = p := by
  simp [beginDrain, isActive, h]

/-- A drain that begins ends with the phase `Draining`. -/
theorem beginDrain_phase (h : p.isActive generation = true) (result : SpeakerPlaybackResult) :
    (p.beginDrain generation result).phase = .draining := by
  unfold beginDrain
  rw [if_neg (by simp [h])]
  split
  · rename_i hd
    split <;> exact hd
  · rfl

/-- Only a success of a job that nothing has cancelled is a success. -/
theorem beginDrain_pending (h : p.isActive generation = true)
    (hcancel : p.phase = .draining → p.pendingResult ≠ .succeeded)
    (hres : (p.beginDrain generation result).pendingResult = .succeeded) : result = .succeeded := by
  unfold beginDrain at hres
  rw [if_neg (by simp [h])] at hres
  split at hres
  · rename_i hd
    split at hres
    · cases hres
    · exact absurd hres (hcancel hd)
  · exact hres

theorem markDrained_of_draining (h : p.isActive generation = true) (hd : p.phase = .draining) :
    p.markDrained generation =
      (true,
        { p with
          lastResult := p.pendingResult, activeGeneration := 0, pendingResult := .none,
          phase := .idle }) := by
  simp [markDrained, h, hd]

end SpeakerPlayback

open SpeakerPlayback

theorem request_active (p : SpeakerPlayback) : p.request.isActive p.request.activeGeneration = true :=
  isActive_self (nextNonzero_ne_zero _) (by simp [SpeakerPlayback.request])

/-- A ticket that is taken back leaves the player idle with a cancelled result. -/
theorem giveUp_playback (hactive : s.playback.isActive s.playback.activeGeneration = true)
    (hphase : s.playback.phase ≠ .draining) :
    (s.giveUp s.playback.activeGeneration).playback.phase = .idle ∧
      (s.giveUp s.playback.activeGeneration).playback.lastResult = .cancelled := by
  have hdrain : s.playback.beginDrain s.playback.activeGeneration .cancelled =
      { s.playback with pendingResult := .cancelled, phase := .draining } := by
    simp [beginDrain, hactive, hphase]
  have hstill :
    ({ s.playback with pendingResult := .cancelled, phase := .draining } : SpeakerPlayback).isActive
      s.playback.activeGeneration = true := by
    simp only [isActive, Bool.and_eq_true, decide_eq_true_eq] at hactive ⊢
    exact ⟨⟨hactive.1.1, by decide⟩, trivial⟩
  rw [SpeakerOutput.giveUp, hdrain, markDrained_of_draining hstill rfl]
  exact ⟨rfl, rfl⟩

/-! ## The speaker -/

namespace SpeakerOutput

/-- A poll touches the player and the reservation that is complete. -/
theorem poll_frame (s : SpeakerOutput σ) (allowed started : Bool) : ∃ playback reservation,
    s.poll allowed started =
      { s with playback := playback, completedReservationGeneration := reservation } := by
  have hstarted : ∃ playback, s.pollStarted started = { s with playback := playback } := by
    unfold pollStarted
    split
    · exact ⟨_, rfl⟩
    · exact ⟨s.playback, rfl⟩
  have hcompleted : ∀ s' : SpeakerOutput σ, ∃ playback reservation,
      s'.pollCompleted =
        { s' with playback := playback, completedReservationGeneration := reservation } := by
    intro s'
    unfold pollCompleted
    split
    · exact ⟨s'.playback, s'.completedReservationGeneration, rfl⟩
    · split
      · exact ⟨_, _, rfl⟩
      · exact ⟨s'.playback, s'.completedReservationGeneration, rfl⟩
  have hallowed :
    ∀ s' : SpeakerOutput σ, ∃ playback, s'.pollAllowed allowed = { s' with playback := playback } := by
    intro s'
    unfold pollAllowed
    split
    · exact ⟨_, rfl⟩
    · exact ⟨s'.playback, rfl⟩
  obtain ⟨p₁, h₁⟩ := hstarted
  obtain ⟨p₂, reservation, h₂⟩ := hcompleted { s with playback := p₁ }
  obtain ⟨p₃, h₃⟩ := hallowed { s with playback := p₂, completedReservationGeneration := reservation }
  refine ⟨p₃, reservation, ?_⟩
  rw [poll, h₁, h₂, h₃]

theorem poll_drained (s : SpeakerOutput σ) (allowed started : Bool) :
    (s.poll allowed started).drained = s.drained := by
  obtain ⟨_, _, h⟩ := s.poll_frame allowed started
  rw [h]

theorem poll_reserved (s : SpeakerOutput σ) (allowed started : Bool) :
    (s.poll allowed started).reservedGeneration = s.reservedGeneration := by
  obtain ⟨_, _, h⟩ := s.poll_frame allowed started
  rw [h]

theorem requestAsset_drained (s : SpeakerOutput σ) (ready opens granted : Bool) (job : SpeakerJob σ) :
    (s.requestAsset ready opens granted job).2.drained = s.drained := by
  unfold requestAsset
  split
  · rfl
  · split
    · rfl
    · dsimp only
      split
      · rfl
      · unfold submit
        dsimp only
        split <;> rfl

theorem completePowerHandoff_drained (s : SpeakerOutput σ) :
    s.completePowerHandoff.drained = s.drained := by
  unfold completePowerHandoff
  dsimp only
  split <;> rfl

theorem mem_workerCompletes_drained (s : SpeakerOutput σ) (result : WorkerResult) {stream : σ}
    (h : stream ∈ s.drained) :
    stream ∈ (s.workerCompletes result).drained := by
  unfold workerCompletes
  split
  · exact h
  · dsimp only
    split
    · exact List.mem_append_left _ h
    · exact h

end SpeakerOutput

namespace Sounding

theorem markStarted (h : Sounding s stream) :
    Sounding { s with playback := s.playback.markStarted s.playback.activeGeneration } stream := by
  by_cases hp : s.playback.isActive s.playback.activeGeneration ∧ s.playback.phase = .starting
  · rw [SpeakerPlayback.markStarted, if_pos hp]
    have hrunning := h.running (by simp [hp.2])
    refine ⟨h.owner, fun _ => ⟨hrunning.1, hrunning.2.1, hrunning.2.2.1, ?_, hrunning.2.2.2.2⟩, ?_⟩
    · intro hd
      cases hd
    · intro hi
      cases hi
  · rw [SpeakerPlayback.markStarted, if_neg hp]
    exact h

/-- The completion of the job that runs ends it. -/
theorem foldCompletion (h : Sounding s stream) {generation : Nat} {result : WorkerResult}
    (hcompleted : s.completed = some (generation, result))
    (hgeneration : generation = s.playback.activeGeneration) :
    Sounding (s.foldCompletion generation result) stream := by
  subst hgeneration
  by_cases hidle : s.playback.phase = .idle
  · have hsame : s.foldCompletion s.playback.activeGeneration result = s := by
      simp [SpeakerOutput.foldCompletion, beginDrain_idle hidle, markDrained, isActive, hidle]
    rw [hsame]
    exact h
  · obtain ⟨hgen, _, _, hpending, hjob⟩ := h.running hidle
    have hactive := isActive_self hgen hidle
    obtain ⟨hnone, hdrained⟩ : s.job = none ∧ (result = .succeeded → stream ∈ s.drained) := by
      rcases hjob with ⟨_, hc⟩ | ⟨hnone, result', hc, hd⟩
      · rw [hcompleted] at hc
        cases hc
      · rw [hcompleted] at hc
        cases hc
        exact ⟨hnone, hd⟩
    have hdraining := beginDrain_phase hactive (SpeakerOutput.resultOf result)
    have hstill :
      (s.playback.beginDrain s.playback.activeGeneration (SpeakerOutput.resultOf result)).isActive
        s.playback.activeGeneration = true := by
      have := isActive_self
        (p := s.playback.beginDrain s.playback.activeGeneration (SpeakerOutput.resultOf result))
        (by rw [beginDrain_generation]; exact hgen) (by simp [hdraining])
      rwa [beginDrain_generation] at this
    rw [SpeakerOutput.foldCompletion, markDrained_of_draining hstill hdraining]
    refine ⟨h.owner, fun hne => absurd rfl hne, fun _ => ⟨hnone, fun hlast => hdrained ?_⟩⟩
    have hsucceeded := beginDrain_pending hactive hpending hlast
    cases result with
    | succeeded => rfl
    | cancelled => cases hsucceeded
    | failed => cases hsucceeded

theorem cancelActive (h : Sounding s stream) : Sounding s.cancelActive stream := by
  by_cases hidle : s.playback.phase = .idle
  · rw [SpeakerOutput.cancelActive, beginDrain_idle hidle]
    exact h
  · obtain ⟨hgen, hreserved, hreservation, hpending, hjob⟩ := h.running hidle
    have hactive := isActive_self hgen hidle
    have hgeneration := beginDrain_generation s.playback s.playback.activeGeneration .cancelled
    have hphase := beginDrain_phase hactive .cancelled
    refine ⟨h.owner, fun _ => ?_, fun hi => ?_⟩
    · simp only [SpeakerOutput.cancelActive, hgeneration]
      refine ⟨hgen, hreserved, hreservation, fun _ hs => ?_, hjob⟩
      cases beginDrain_pending hactive hpending hs
    · rw [SpeakerOutput.cancelActive, hphase] at hi
      cases hi

theorem pollStarted (h : Sounding s stream) (started : Bool) : Sounding (s.pollStarted started) stream := by
  unfold SpeakerOutput.pollStarted
  split
  · exact h.markStarted
  · exact h

theorem pollCompleted (h : Sounding s stream) : Sounding s.pollCompleted stream := by
  unfold SpeakerOutput.pollCompleted
  split
  · exact h
  · rename_i generation result hcompleted
    split
    · rename_i hgeneration
      exact h.foldCompletion hcompleted hgeneration.2
    · exact h

theorem pollAllowed (h : Sounding s stream) (allowed : Bool) : Sounding (s.pollAllowed allowed) stream := by
  unfold SpeakerOutput.pollAllowed
  split
  · exact h.cancelActive
  · exact h

theorem poll (h : Sounding s stream) (allowed started : Bool) : Sounding (s.poll allowed started) stream :=
  ((h.pollStarted started).pollCompleted).pollAllowed allowed

/-- While the reservation is held, no other sound is taken. -/
theorem requestSound (h : Sounding s stream) (hreserved : s.reservedGeneration ≠ 0)
    (ready opens granted : Bool) :
    Sounding (s.requestSound ready opens granted).2 stream := by
  have howner : s.audioOwner ≠ 0 := by
    rw [h.owner hreserved]
    exact hreserved
  unfold SpeakerOutput.requestSound SpeakerOutput.requestAsset
  split
  · exact h
  · split
    · exact h
    · rename_i hidle
      have hgive :=
        giveUp_playback (s := { s with playback := s.playback.request }) (request_active s.playback)
        (by simp [SpeakerPlayback.request])
      have hrefused : Sounding (({ s with playback := s.playback.request } : SpeakerOutput σ).giveUp
          s.playback.request.activeGeneration) stream := by
        refine ⟨h.owner, fun hne => absurd hgive.1 hne,
          fun _ => ⟨(h.rest (by simpa using hidle)).1, fun hlast => ?_⟩⟩
        rw [hgive.2] at hlast
        cases hlast
      dsimp only
      split
      · exact hrefused
      · unfold SpeakerOutput.submit
        dsimp only
        rw [if_pos (by simp [howner])]
        exact hrefused

theorem requestSound_reserved (hreserved : s.reservedGeneration ≠ 0)
    (howner : s.audioOwner = s.reservedGeneration)
    (ready opens granted : Bool) :
    (s.requestSound ready opens granted).2.reservedGeneration = s.reservedGeneration := by
  unfold SpeakerOutput.requestSound SpeakerOutput.requestAsset
  split
  · rfl
  · split
    · rfl
    · dsimp only
      split
      · rfl
      · unfold SpeakerOutput.submit
        dsimp only
        rw [if_pos (by simp [howner, hreserved])]
        rfl

theorem completePowerHandoff (h : Sounding s stream) : Sounding s.completePowerHandoff stream := by
  unfold SpeakerOutput.completePowerHandoff
  dsimp only
  split
  · exact h
  · rename_i hgeneration
    simp only [not_or, not_not] at hgeneration
    refine ⟨fun hreserved => ?_, fun hrunning => ?_, h.rest⟩
    · -- the reservation that is left is not the owner's: there is none
      simp only at hreserved
      split at hreserved
      · exact absurd rfl hreserved
      · rename_i hother
        exact absurd ((h.owner hreserved).symm.trans hgeneration.2) hother
    · exact absurd (h.running hrunning).2.2.1 hgeneration.1

theorem workerCompletes (h : Sounding s stream) (result : WorkerResult) :
    Sounding (s.workerCompletes result) stream := by
  unfold SpeakerOutput.workerCompletes
  split
  · exact h
  · rename_i generation job hjob
    refine ⟨h.owner, fun hrunning => ?_, fun hidle => ?_⟩
    · obtain ⟨hgen, hreserved, hreservation, hpending, hrun⟩ := h.running hrunning
      refine ⟨hgen, hreserved, hreservation, hpending, Or.inr ⟨rfl, result, ?_, fun hs => ?_⟩⟩
      · rcases hrun with ⟨hsame, _⟩ | ⟨hnone, _⟩
        · rw [hjob] at hsame
          cases hsame
          rfl
        · rw [hjob] at hnone
          cases hnone
      · rcases hrun with ⟨hsame, _⟩ | ⟨hnone, _⟩
        · rw [hjob] at hsame
          cases hsame
          subst hs
          simp
        · rw [hjob] at hnone
          cases hnone
    · rw [(h.rest hidle).1] at hjob
      cases hjob

/-- A sounding stream that plays holds its reservation. -/
theorem reserved (h : Sounding s stream) (hbusy : s.busy = true) : s.reservedGeneration ≠ 0 := by
  by_cases hidle : s.playback.phase = .idle
  · simpa [SpeakerOutput.busy, active, hidle] using hbusy
  · rw [(h.running hidle).2.1]
    exact (h.running hidle).1

end Sounding

/-- A stream that is taken sounds. -/
theorem requestStreamingAsset_sounding {ready opens granted : Bool}
    (htaken : (s.requestStreamingAsset ready opens granted stream).1 = true) :
    Sounding (s.requestStreamingAsset ready opens granted stream).2 stream := by
  have hgen : s.playback.request.activeGeneration ≠ 0 := nextNonzero_ne_zero _
  unfold SpeakerOutput.requestStreamingAsset SpeakerOutput.requestAsset at htaken ⊢
  split at htaken
  · cases htaken
  · rename_i hready
    rw [if_neg hready]
    split at htaken
    · cases htaken
    · rename_i hidle
      rw [if_neg hidle]
      dsimp only at htaken ⊢
      split at htaken
      · cases htaken
      · rename_i hopens
        rw [if_neg hopens]
        unfold SpeakerOutput.submit at htaken ⊢
        dsimp only at htaken ⊢
        split at htaken
        · cases htaken
        · rename_i hgranted
          rw [if_neg hgranted]
          refine ⟨fun _ => rfl, fun _ => ⟨hgen, rfl, rfl, ?_, Or.inl ⟨rfl, rfl⟩⟩, ?_⟩
          · intro hd
            cases hd
          · intro hi
            cases hi

end CodexKeyboard.Keyboard
