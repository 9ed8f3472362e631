import CodexKeyboard.Summary.Worker
/-!
# Throttling of the summary worker

A call that costs something and does not publish ends in an error (`run_loud`, `resume_loud`),
unless it is one of those `paidForNothing` names. An error puts the task off, so runs without such
calls are throttled (`throttled_of_nothing_wasted`). One with an ambiguous speech answer is not
(`ambiguous_speech_not_throttled`).
-/

namespace CodexKeyboard.Summary

open Lib Store Proc

namespace Orchestrator

variable {env : Crates} {claim : SummaryClaim} {answers : Answers}

/-! ## Outcomes of a call -/

/-- The worker cannot take this for a call with nothing to do. -/
def Loud : Outcome → Prop
  | .error _ => True
  | .ok (.published ..) => True
  | _ => False

/-- A specification that does not look at the state. -/
abbrev Says {α : Type} (P : World → Prop) (x : Run α) (Q : α → Prop) : Prop :=
  Spec P x (fun r _ => Q r) fun _ => True

theorem says_act {α : Type} {P : World → Prop} (f : World → α × World) :
    Spec P (act f) (fun _ _ => True) fun _ => True :=
  spec_act fun _ _ => trivial

theorem says_reached (checkpoint : SummaryCheckpoint) (P : World → Prop) :
    Spec P (reached checkpoint) (fun _ => P) fun _ => True :=
      spec_interrupt (fun _ h => h) fun _ _ => trivial

theorem abandon_effect (P : World → Prop) : Says P (abandon env claim) fun _ => True := by
  refine spec_bind (says_act _) fun r => ?_
  split <;> exact spec_ret fun _ _ => trivial

/-- An outcome that is passed on after the claim is given back, or the error of giving it back. -/
theorem abandonThen_loud {P : World → Prop} {outcome : Outcome} {Q : Outcome → Prop} (h : Q outcome)
    (herror : ∀ error, Q (.error error)) : Says P (abandonThen env claim outcome) Q := by
  refine spec_bind (abandon_effect P) fun r => ?_
  split
  · exact spec_ret fun _ _ => h
  · exact spec_ret fun _ _ => herror _

theorem forTask_of_ne (sha256 : List UInt8 → List UInt8) (taskId : String) {generation : Nat}
    (h : generation ≠ 0) :
    ∃ id, Cache.CacheId.forTask sha256 taskId generation = some id := by
  unfold Cache.CacheId.forTask
  rw [if_neg h]
  exact ⟨_, rfl⟩

/-- What a recovery answers: `none` only when the cache has no object for the generation, and then
nothing happened. -/
def RecoverySays (cached : Except TtsCacheError SummaryDocument) (w₀ : World) :
    Except SummaryOrchestratorError (Option SummaryRunOutcome) → World → Prop
  | .ok (some outcome), _ => Loud (.ok outcome)
  | .ok none, w => isMissing cached = true ∧ w = w₀
  | .error _, _ => True

theorem recover_effect (hgen : claim.generation ≠ 0) (cached : Except TtsCacheError SummaryDocument)
    (w₀ : World) :
    Spec (fun w => w = w₀) (recoverAuthenticatedCache env claim cached)
      (RecoverySays cached w₀) fun _ => True := by
  -- the load answers an error only without calling back
  have hload :
    Spec (fun w => w = w₀)
    (loadTtsGenerationWith env cached claim.taskId claim.generation (publishCached env claim))
      (fun r w => ∀ error, r = .error error → cached = .error error ∧ w = w₀) fun _ => True := by
    unfold loadTtsGenerationWith
    obtain ⟨id, hid⟩ := forTask_of_ne env.sha256 claim.taskId hgen
    rw [hid]
    cases cached with
    | error e =>
      refine spec_ret fun w hw error herror => ?_
      cases herror
      exact ⟨rfl, hw⟩
    | ok summary =>
      have hcallback : Spec (fun w => w = w₀) (publishCached env claim summary ⟨id.reference⟩)
        (fun _ _ => True) fun _ => True := by
        unfold publishCached
        split
        · exact spec_ret fun _ _ => trivial
        · refine spec_bind (says_reached _ _) fun _ => spec_bind (says_act _) fun r => ?_
          split <;> exact spec_ret fun _ _ => trivial
      exact spec_bind hcallback fun r => spec_ret fun w _ error herror => by cases herror
  refine spec_bind hload fun r => ?_
  split
  · exact spec_bind (says_reached _ _) fun _ => spec_ret fun _ _ => trivial
  · exact spec_ret fun _ _ => trivial
  · refine spec_ret fun w hw => ?_
    obtain ⟨hcached, hw⟩ := hw _ rfl
    rw [hcached]
    exact ⟨rfl, hw⟩
  · exact spec_ret fun _ _ => trivial

theorem publish_loud (hgen : claim.generation ≠ 0) (P : World → Prop) :
    Says P (publish env answers claim) fun r =>
    Loud r ∨ (∃ error, answers.committed = .error error) ∧ isMissing answers.recached = true := by
  -- an error of the commit is the cache's
  have hcommit :
    Says P
    (publishTtsGenerationWith env answers.committed claim.taskId claim.generation (publishAudio env claim))
      fun r => ∀ error, r = .error error → answers.committed = .error error := by
    unfold publishTtsGenerationWith
    obtain ⟨id, hid⟩ := forTask_of_ne env.sha256 claim.taskId hgen
    rw [hid]
    split
    · rename_i error herror
      refine spec_ret fun w _ e he => ?_
      cases he
      exact herror
    · have hcallback : Says P (publishAudio env claim ⟨id.reference⟩) fun _ => True := by
        refine spec_bind (says_reached _ _) fun _ => spec_bind (says_act _) fun r => ?_
        split <;> exact spec_ret fun _ _ => trivial
      exact spec_bind hcallback fun r => spec_ret fun w _ error herror => by cases herror
  refine spec_bind hcommit fun r => ?_
  split
  · exact spec_bind (says_reached _ _) fun _ => spec_ret fun _ _ => Or.inl trivial
  · exact spec_bind (abandon_effect _) fun _ => spec_ret fun _ _ => Or.inl trivial
  · refine spec_forall fun w₀ hw₀ => spec_bind (recover_effect hgen answers.recached w₀) fun r => ?_
    have hcommitted := hw₀ _ rfl
    split
    · exact spec_ret fun w hw => Or.inl hw
    · refine spec_forall fun w hw => abandonThen_loud (Or.inr ⟨⟨_, hcommitted⟩, hw.1⟩) fun _ =>
        Or.inl trivial
    · exact abandonThen_loud (Or.inl trivial) fun _ => Or.inl trivial

theorem synthesize_loud (hgen : claim.generation ≠ 0) (db : StoreDb) :
    Says (fun w => w.db = db) (synthesize env answers claim) fun r => Loud r ∨
    attemptWasted env db answers claim = true := by
  have hbegin : Says (fun w => w.db = db) (onStore fun db => beginSummaryTtsAttempt env db claim)
      fun r => r = (transact (beginSummaryTtsAttempt env db claim) db).1 := by
    refine spec_onStore fun w hw => ?_
    rw [hw]
  have hcall : ∀ P, Says P (callSynthesizer answers claim) fun r => r = answers.synthesized :=
    fun P => spec_act fun w _ => rfl
  refine spec_bind hbegin fun r => ?_
  split
  · exact spec_ret fun _ _ => Or.inl trivial
  · refine spec_forall fun w hw => abandonThen_loud (Or.inr ?_) fun _ => Or.inl trivial
    obtain ⟨db', hdb⟩ : ∃ db', beginSummaryTtsAttempt env db claim = .ok (.ambiguous, db') :=
      ⟨_, transact_fst_eq_ok.1 hw.symm⟩
    simp [attemptWasted, hdb]
  · refine spec_forall fun w hw => ?_
    have hspeech : attemptWasted env db answers claim = speechWasted answers := by
      obtain ⟨db', hdb⟩ : ∃ db', beginSummaryTtsAttempt env db claim = .ok (.started, db') :=
        ⟨_, transact_fst_eq_ok.1 hw.symm⟩
      simp [attemptWasted, hdb]
    rw [hspeech]
    refine spec_bind (says_reached _ _) fun _ => spec_bind (hcall _) fun r => spec_forall fun w' hr => ?_
    unfold speechWasted
    rw [← hr]
    split
    · exact abandonThen_loud (Or.inr rfl) fun _ => Or.inl trivial
    · exact abandonThen_loud (Or.inl trivial) fun _ => Or.inl trivial
    · rename_i tts
      by_cases hvoice : tts.voice ≠ summaryTtsVoice
      · rw [if_pos hvoice]
        exact abandonThen_loud (Or.inr (by simp [hvoice])) fun _ => Or.inl trivial
      · rw [if_neg hvoice]
        refine spec_mono (spec_bind (says_reached _ fun _ => True) fun _ => publish_loud hgen _)
          (fun _ _ => trivial)
          (fun r _ hr => hr.imp_right ?_) fun _ => id
        rintro ⟨⟨error, hcommitted⟩, hmissing⟩
        simp [hvoice, hcommitted, hmissing]

theorem generate_loud (hgen : claim.generation ≠ 0) (db : StoreDb) :
    Says (fun w => w.db = db) (generate env answers claim) fun r => Loud r ∨
    documentWasted env db answers claim = true := by
  have hcall :
    Spec (fun w => w.db = db) (callGenerator answers claim) (fun r w => r = answers.generated ∧ w.db = db)
      fun _ => True := spec_act fun w hw => ⟨rfl, hw⟩
  refine spec_bind (says_reached _ _) fun _ => spec_bind hcall fun r => spec_and fun hr => ?_
  unfold documentWasted
  rw [← hr]
  split
  · exact abandonThen_loud (Or.inl trivial) fun _ => Or.inl trivial
  split
  · exact abandonThen_loud (Or.inl trivial) fun _ => Or.inl trivial
  · rename_i hvalid
    refine spec_bind (says_reached _ _) fun _ => spec_mono (synthesize_loud hgen db) (fun _ => id)
      (fun r _ => ?_) fun _ => id
    exact Or.imp_right fun hwasted => by simp [hvalid, hwasted, Except.isOk, Except.toBool]

/-- Neither the generator nor the synthesizer was called. -/
def Unpaid (w₀ w : World) : Prop := w.generated = w₀.generated ∧ w.synthesized = w₀.synthesized

/-- A call that costs something ends in an error or a publication, unless it is one of those that
are wasted. -/
theorem executeClaim_loud (hgen : claim.generation ≠ 0) (w₀ : World) :
    Spec (fun w => w = w₀) (executeClaim env answers claim)
      (fun r w => Unpaid w₀ w ∨ Loud r ∨ paidForNothing env w₀.db answers claim = true) fun _ => True := by
  have habandon :
    Spec (fun w => w = w₀) (abandonThen env claim (.ok .idle)) (fun _ w => Unpaid w₀ w) fun _ => True := by
    have hstore : Spec (fun w => w = w₀) (abandon env claim) (fun _ w => Unpaid w₀ w) fun _ => True := by
      refine spec_bind (Q := fun _ w => Unpaid w₀ w) (spec_onStore fun w hw => ?_) fun r => ?_
      · rw [hw]
        exact ⟨rfl, rfl⟩
      · split <;> exact spec_ret fun _ hw => hw
    refine spec_bind hstore fun r => ?_
    split <;> exact spec_ret fun _ hw => hw
  have hquery : Spec (fun w => w = w₀) (query fun db => summaryTtsAttempt env db claim)
      (fun r w => r = summaryTtsAttempt env w₀.db claim ∧ w = w₀) fun _ => True :=
    spec_act fun w hw => ⟨by rw [hw], hw⟩
  refine spec_bind (says_reached _ _) fun _ => spec_bind (recover_effect hgen answers.cached w₀) fun r => ?_
  split
  · exact spec_ret fun _ hw => Or.inr (Or.inl hw)
  · exact spec_bind (abandon_effect _) fun _ => spec_ret fun _ _ => Or.inr (Or.inl trivial)
  · refine spec_and fun hmissing => spec_bind hquery fun r => spec_and fun hr => ?_
    split
    · exact spec_ret fun _ _ => Or.inr (Or.inl trivial)
    · exact spec_mono habandon (fun _ => id) (fun _ _ => Or.inl) fun _ => id
    · unfold loadPrevious paidForNothing
      rw [hmissing, ← hr]
      split
      · exact spec_mono (abandonThen_loud (Q := Loud) trivial fun _ => trivial) (fun _ => id)
          (fun _ _ hr => Or.inr (Or.inl hr)) fun _ => id
      · rename_i hprevious
        refine spec_mono (generate_loud hgen w₀.db) (fun w hw => by rw [hw])
          (fun r _ hr => Or.inr (hr.imp_right fun hwasted => ?_))
          fun _ => id
        simp [hwasted]

theorem loadSummaryClaim_generation {db : StoreDb} {outcome : SummaryClaimOutcome}
    {requestId taskId : String} {generation : Nat}
    {previous : Option Nat} {covers : List String} {out : SummaryClaim}
    (h : loadSummaryClaim db outcome requestId taskId generation previous covers = .ok out) :
    out.generation ≠ 0 := by
  unfold loadSummaryClaim at h
  simp only [bind_eq_ok, ensure_eq_ok, decide_eq_true_eq, pure_eq_ok, Except.ok.injEq] at h
  obtain ⟨_, hgen, _, _, _, _, _, _, rfl⟩ := h
  exact Nat.ne_of_gt hgen.1

theorem claimSummary_generation {db db' : StoreDb} {taskId requestId : String} {out : SummaryClaim}
    (h : claimSummary env db taskId requestId = .ok (some (.claimed out), db')) : out.generation ≠ 0 := by
  unfold claimSummary at h
  simp only [bind_eq_ok] at h
  obtain ⟨_, _, h⟩ := h
  split at h
  · unfold replayRequest at h
    simp only [bind_eq_ok] at h
    obtain ⟨_, _, h⟩ := h
    split at h <;> try (cases h)
    · simp only [bind_eq_ok, pure_eq_ok, Except.ok.injEq, Prod.mk.injEq,
        Option.some.injEq, SummaryClaimResult.claimed.injEq] at h
      obtain ⟨_, _, _, _, _, hload, rfl, _⟩ := h
      exact loadSummaryClaim_generation hload
    · simp only [bind_eq_ok, pure_eq_ok, Except.ok.injEq, Prod.mk.injEq,
        Option.some.injEq, SummaryClaimResult.claimed.injEq] at h
      obtain ⟨_, hload, rfl, _⟩ := h
      exact loadSummaryClaim_generation hload
  split at h
  · simp only [bind_eq_ok, pure_eq_ok, Except.ok.injEq, Prod.mk.injEq,
      Option.some.injEq, SummaryClaimResult.claimed.injEq] at h
    obtain ⟨_, _, _, hload, rfl, _⟩ := h
    exact loadSummaryClaim_generation hload
  · unfold insertClaim at h
    simp only [bind_eq_ok, pure_eq_ok] at h
    obtain ⟨_, _, _, _, h⟩ := h
    split at h
    · cases h
    · simp only [bind_eq_ok, Except.ok.injEq, Prod.mk.injEq,
        Option.some.injEq, SummaryClaimResult.claimed.injEq] at h
      obtain ⟨_, _, _, _, rfl, _⟩ := h
      exact Nat.succ_ne_zero _

theorem resume_generation {db db' : StoreDb} {taskId : String} {out : SummaryClaim}
    (h : resumeInterruptedSummary env db taskId = .ok (some out, db')) : out.generation ≠ 0 := by
  unfold resumeInterruptedSummary at h
  simp only [bind_eq_ok] at h
  obtain ⟨_, _, h⟩ := h
  split at h
  · cases h
  split at h
  · cases h
  · simp only [bind_eq_ok, pure_eq_ok, Except.ok.injEq, Prod.mk.injEq, Option.some.injEq] at h
    obtain ⟨_, _, _, _, _, hload, rfl, _⟩ := h
    exact loadSummaryClaim_generation hload

/-- What the worker relies on about a call: when it cost something, it ends in an error or a publication. -/
def CostIsLoud (w₀ : World) (r : Outcome) (w : World) : Prop := Unpaid w₀ w ∨ Loud r

theorem run_loud {taskId requestId : String} (w₀ : World)
    (hquiet : runWastes env w₀.db taskId requestId answers = false) :
    Spec (fun w => w = w₀) (run env answers taskId requestId) (CostIsLoud w₀) fun _ => True := by
  have hclaim : Spec (fun w => w = w₀) (onStore fun db => claimSummary env db taskId requestId)
      (fun r w => r = (transact (claimSummary env w₀.db taskId requestId) w₀.db).1 ∧
        w = { w₀ with db := (transact (claimSummary env w₀.db taskId requestId) w₀.db).2 }) fun _ => True :=
    spec_onStore fun w hw => by rw [hw]; exact ⟨rfl, rfl⟩
  refine spec_bind hclaim fun r => spec_and fun hr => ?_
  split
  · exact spec_ret fun _ _ => Or.inr trivial
  · exact spec_ret fun w hw => by rw [hw]; exact Or.inl ⟨rfl, rfl⟩
  · exact spec_ret fun w hw => by rw [hw]; exact Or.inl ⟨rfl, rfl⟩
  · rename_i claim
    have hok := transact_fst_eq_ok.1 hr.symm
    unfold runWastes at hquiet
    rw [hok] at hquiet
    refine spec_mono (executeClaim_loud (claimSummary_generation hok) _) (fun _ => id)
      (fun r w hw => ?_) fun _ => id
    rcases hw with hw | hw | hw
    · exact Or.inl hw
    · exact Or.inr hw
    · exact absurd hw (by simp [hquiet])

theorem resume_loud {taskId : String} (w₀ : World)
    (hquiet : resumeWastes env w₀.db taskId answers = false) :
    Spec (fun w => w = w₀) (resume env answers taskId)
      (fun r w => CostIsLoud w₀ r w ∧
        (resumedBy env w₀.db taskId = none → r = .ok .idle ∨ ∃ error, r = .error error))
      fun _ => True := by
  have hresume : Spec (fun w => w = w₀) (onStore fun db => resumeInterruptedSummary env db taskId)
      (fun r w => r = (transact (resumeInterruptedSummary env w₀.db taskId) w₀.db).1 ∧
        w = { w₀ with db := (transact (resumeInterruptedSummary env w₀.db taskId) w₀.db).2 })
          fun _ => True :=
    spec_onStore fun w hw => by rw [hw]; exact ⟨rfl, rfl⟩
  refine spec_bind hresume fun r => spec_and fun hr => ?_
  split
  · exact spec_ret fun _ _ => ⟨Or.inr trivial, fun _ => Or.inr ⟨_, rfl⟩⟩
  · exact spec_ret fun w hw => by rw [hw]; exact ⟨Or.inl ⟨rfl, rfl⟩, fun _ => Or.inl rfl⟩
  · rename_i claim
    have hok := transact_fst_eq_ok.1 hr.symm
    unfold resumeWastes at hquiet
    rw [hok] at hquiet
    have hsome : resumedBy env w₀.db taskId = some claim := by
      unfold resumedBy
      rw [hok]
    refine spec_mono (executeClaim_loud (resume_generation hok) _) (fun _ => id)
      (fun r w hw => ⟨?_, ?_⟩) fun _ => id
    · rcases hw with hw | hw | hw
      · exact Or.inl hw
      · exact Or.inr hw
      · exact absurd hw (by simp [hquiet])
    · intro hnone
      rw [hsome] at hnone
      cases hnone

end Orchestrator

/-! ## The log -/

theorem failuresInARow_concat (taskId : String) (log : List Attempt) (b : Attempt) :
    failuresInARow taskId (log ++ [b]) =
      if b.taskId = taskId then (if b.failed then failuresInARow taskId log + 1 else 0) else
        failuresInARow taskId log := by
  unfold failuresInARow
  rw [List.filter_append]
  by_cases htask : b.taskId = taskId
  · by_cases hfailed : b.failed = true
    · simp [htask, hfailed]
    · simp [htask, hfailed]
  · simp [htask]

/-- An attempt may be added when every back-off of its task is over. -/
theorem throttled_concat {log : List Attempt} {b : Attempt} (h : Throttled log)
    (hdue : ∀ i a, log[i]? = some a → b.taskId = a.taskId → a.failed = true →
      a.finish + backoffAfter a.taskId (log.take (i + 1)) ≤ b.start) : Throttled (log ++ [b]) := by
  intro i j a c hij ha hc htask hfailed
  have hj : j < (log ++ [b]).length := (List.getElem?_eq_some_iff.1 hc).1
  rw [List.length_append, List.length_singleton] at hj
  have hi : i < log.length := by omega
  rw [List.getElem?_append_left hi] at ha
  rw [List.take_append_of_le_length (by omega)]
  by_cases hjlog : j < log.length
  · rw [List.getElem?_append_left hjlog] at hc
    exact h i j a c hij ha hc htask hfailed
  · have hjeq : j = log.length := by omega
    rw [hjeq, List.getElem?_concat_length] at hc
    cases hc
    exact hdue i a ha htask hfailed

/-! ## The worker -/

namespace SummaryWorker

variable {env : Crates} {w : SummaryWorker} {taskId : String}

/-- What the two maps know of the log: a failed attempt has a deadline until it is over, and is counted. -/
structure Tracked (w : SummaryWorker) : Prop where
  due : ∀ i a, w.log[i]? = some a → a.failed = true → ∃ deadline,
    a.finish + backoffAfter a.taskId (w.log.take (i + 1)) ≤ deadline ∧
    (deadline ≤ w.clock ∨ w.retryAfter a.taskId = some deadline)
  counted : ∀ taskId, failuresInARow taskId w.log ≤ (w.failures taskId).getD 0

/-- No deadline of the task is in the future. -/
def Ready (w : SummaryWorker) (taskId : String) : Prop :=
  ∀ deadline, w.retryAfter taskId = some deadline → deadline ≤ w.clock

theorem ready_of_not_backedOff (h : w.isBackedOff taskId = false) : w.Ready taskId := by
  intro deadline hd
  simp only [isBackedOff, hd, Option.any_some, decide_eq_false_iff_not, Nat.not_lt] at h
  exact h

theorem Tracked.over (h : Tracked w) (hr : w.Ready taskId) {i : Nat} {a : Attempt} (ha : w.log[i]? = some a)
    (htask : taskId = a.taskId) (hfailed : a.failed = true) :
    a.finish + backoffAfter a.taskId (w.log.take (i + 1)) ≤ w.clock := by
  obtain ⟨deadline, hle, hpast | hretry⟩ := h.due i a ha hfailed
  · omega
  · have := hr deadline (htask ▸ hretry)
    omega

/-- Time goes on, and the queue and the world change. -/
theorem Tracked.later (h : Tracked w) {w' : SummaryWorker} (hlog : w'.log = w.log)
    (hretry : w'.retryAfter = w.retryAfter)
    (hfailures : w'.failures = w.failures) (hclock : w.clock ≤ w'.clock) : Tracked w' := by
  refine ⟨fun i a ha hfailed => ?_, fun t => ?_⟩
  · rw [hlog] at ha ⊢
    rw [hretry]
    obtain ⟨deadline, hle, hpast | hheld⟩ := h.due i a ha hfailed
    · exact ⟨deadline, hle, Or.inl (by omega)⟩
    · exact ⟨deadline, hle, Or.inr hheld⟩
  · rw [hlog, hfailures]
    exact h.counted t

/-- An attempt that did not fail is added. -/
theorem Tracked.succeed (h : Tracked w) {w' : SummaryWorker} {b : Attempt} (hb : b.failed = false)
    (hlog : w'.log = w.log ++ [b]) (hretry : w'.retryAfter = w.retryAfter)
    (hfailures : w'.failures = w.failures)
    (hclock : w.clock ≤ w'.clock) : Tracked w' := by
  refine ⟨fun i a ha hfailed => ?_, fun t => ?_⟩
  · rw [hlog] at ha ⊢
    rw [hretry]
    have hi : i < w.log.length := by
      by_contra hge
      have hlen := (List.getElem?_eq_some_iff.1 ha).1
      rw [List.length_append, List.length_singleton] at hlen
      have hieq : i = w.log.length := by omega
      rw [hieq, List.getElem?_concat_length] at ha
      cases ha
      rw [hb] at hfailed
      cases hfailed
    rw [List.getElem?_append_left hi] at ha
    rw [List.take_append_of_le_length (by omega)]
    obtain ⟨deadline, hle, hpast | hheld⟩ := h.due i a ha hfailed
    · exact ⟨deadline, hle, Or.inl (by omega)⟩
    · exact ⟨deadline, hle, Or.inr hheld⟩
  · rw [hlog, hfailures, failuresInARow_concat, hb]
    have := h.counted t
    split
    · exact Nat.zero_le _
    · exact this

/-- A call of the orchestrator, for the two maps and the log. -/
structure Called (w : SummaryWorker) (taskId : String) (record : Bool) (r : Option Outcome)
    (w' : SummaryWorker)
    (b : Attempt) : Prop where
  retryAfter : w'.retryAfter = w.retryAfter
  failures : w'.failures = w.failures
  tasks : w'.tasks = w.tasks
  clock : w.clock ≤ w'.clock
  alive : w'.alive = r.isSome
  log : w'.log = if record then w.log ++ [b] else w.log
  attempt : b.taskId = taskId ∧ b.start = w.clock ∧ b.finish = w'.clock
  loud : ∀ outcome, r = some outcome → b.failed = true → ∃ error, outcome = .error error

theorem call_spec (taskId : String) {x : Run Outcome} (input : CallInput) (record : Bool)
    {φ : Outcome → Prop}
    (hx : Spec (fun s => s = w.world) x (fun r s => Orchestrator.CostIsLoud w.world r s ∧
      φ r) fun _ => True) :
    ∃ b, Called w taskId record (w.call taskId x input record).1 (w.call taskId x input record).2 b ∧
      ∀ outcome, (w.call taskId x input record).1 = some outcome → φ outcome := by
  refine ⟨_, ⟨rfl, rfl, rfl, Nat.le_add_right _ _, rfl, rfl,
    ⟨rfl, rfl, rfl⟩, fun outcome hout hfailed => ?_⟩, fun outcome hout => ?_⟩
  all_goals
    have hout : (x.run input.budget w.world).1 = some outcome := hout
    obtain ⟨r, hr, hcost, hφ⟩ : ∃ r, (x.run input.budget w.world).1 = some r ∧
        Orchestrator.CostIsLoud w.world r (x.run input.budget w.world).2 ∧ φ r := by
      rcases hx.run input.budget rfl with h | ⟨hnone, _⟩
      · exact h
      · rw [hout] at hnone
        cases hnone
    rw [hout] at hr
    cases hr
  · have hfailed : (decide ((x.run input.budget w.world).2.generated ≠ w.world.generated ∨
        (x.run input.budget w.world).2.synthesized ≠ w.world.synthesized) &&
        !isPublished (x.run input.budget w.world).1) = true := hfailed
    rw [hout, Bool.and_eq_true, decide_eq_true_eq, Bool.not_eq_true'] at hfailed
    obtain ⟨hpaid, hpublished⟩ := hfailed
    rcases hcost with ⟨hgenerated, hsynthesized⟩ | hloud
    · exact absurd hpaid (not_or.2 ⟨not_not.2 hgenerated, not_not.2 hsynthesized⟩)
    · cases outcome with
      | error error => exact ⟨error, rfl⟩
      | ok o =>
        cases o with
        | published => cases hpublished
        | idle => cases hloud
        | alreadyPublished => cases hloud
        | manualTtsReconciliationRequired => cases hloud
  · exact hφ

/-- After a call that did not end in an error the task starts over. -/
theorem tracked_settle_ok (h : Tracked w)
    (hover : ∀ i a, w.log[i]? = some a → taskId = a.taskId → a.failed = true →
      a.finish + backoffAfter a.taskId (w.log.take (i + 1)) ≤ w.clock)
    (hrow : failuresInARow taskId w.log = 0) (o : SummaryRunOutcome) :
    Tracked (w.settle taskId (.ok o)) := by
  have hdue : ∀ deadline : Option Nat, ∀ i a, w.log[i]? = some a → a.failed = true → ∃ d,
      a.finish + backoffAfter a.taskId (w.log.take (i + 1)) ≤ d ∧
      (d ≤ w.clock ∨ Function.update w.retryAfter taskId deadline a.taskId = some d) := by
    intro deadline i a ha hfailed
    by_cases htask : taskId = a.taskId
    · exact ⟨w.clock, hover i a ha htask hfailed, Or.inl (Nat.le_refl _)⟩
    · rw [Function.update_of_ne (Ne.symm htask)]
      exact h.due i a ha hfailed
  have hcounted : ∀ t, failuresInARow t w.log ≤ (Function.update w.failures taskId none t).getD 0 := by
    intro t
    by_cases htask : t = taskId
    · rw [htask, hrow]
      exact Nat.zero_le _
    · rw [Function.update_of_ne htask]
      exact h.counted t
  cases o <;> exact ⟨hdue _, hcounted⟩

/-- After an error the task is put off, and longer when it has failed often. -/
theorem tracked_settle_error (h : Tracked w) (hready : w.Ready taskId) {w' : SummaryWorker}
    {record : Bool} {b : Attempt}
    {r : Option Outcome} (hc : Called w taskId record r w' b) (error : SummaryOrchestratorError) :
    Tracked (w'.settle taskId (.error error)) := by
  obtain ⟨htaskb, _, hfinish⟩ := hc.attempt
  have hclock := hc.clock
  constructor
  · intro i a ha hfailed
    have ha : w'.log[i]? = some a := ha
    show ∃ d, a.finish + backoffAfter a.taskId (w'.log.take (i + 1)) ≤ d ∧
      (d ≤ w'.clock ∨ Function.update w'.retryAfter taskId _ a.taskId = some d)
    by_cases hi : i < w.log.length
    · -- an old attempt
      have hlog : w'.log[i]? = w.log[i]? ∧ w'.log.take (i + 1) = w.log.take (i + 1) := by
        rw [hc.log]
        cases record
        · exact ⟨rfl, rfl⟩
        · rw [if_pos rfl, List.getElem?_append_left hi, List.take_append_of_le_length (by omega)]
          exact ⟨rfl, rfl⟩
      rw [hlog.1] at ha
      rw [hlog.2]
      by_cases htask : taskId = a.taskId
      · exact ⟨w.clock, h.over hready ha htask hfailed, Or.inl hclock⟩
      · obtain ⟨d, hle, hpast | hheld⟩ := h.due i a ha hfailed
        · exact ⟨d, hle, Or.inl (by omega)⟩
        · refine ⟨d, hle, Or.inr ?_⟩
          rw [Function.update_of_ne (Ne.symm htask), hc.retryAfter]
          exact hheld
    · -- the attempt of this call
      have hlog := hc.log
      have hlen := (List.getElem?_eq_some_iff.1 ha).1
      cases record
      · rw [if_neg (by simp)] at hlog
        rw [hlog] at hlen
        exact absurd hlen hi
      rw [if_pos rfl] at hlog
      rw [hlog, List.length_append, List.length_singleton] at hlen
      have hieq : i = w.log.length := by omega
      rw [hlog, hieq, List.getElem?_concat_length] at ha
      cases ha
      rw [htaskb, Function.update_self]
      refine ⟨_, ?_, Or.inr rfl⟩
      have htake : w'.log.take (i + 1) = w.log ++ [b] := by
        rw [hlog, hieq]
        exact List.take_of_length_le (by simp)
      have hcount : failuresInARow taskId (w.log ++ [b]) = failuresInARow taskId w.log + 1 := by
        rw [failuresInARow_concat, if_pos htaskb, if_pos hfailed]
      have hcounted := h.counted taskId
      rw [htake, hfinish]
      unfold backoffAfter
      rw [hcount, hc.failures]
      have hle : failureBackoff ≤ giveUpBackoff := by decide
      split
      · rw [if_pos (by omega)]
      · split <;> omega
  · intro t
    show failuresInARow t w'.log ≤ (Function.update w'.failures taskId _ t).getD 0
    have hcounted := h.counted t
    have hrow : failuresInARow t w'.log ≤ failuresInARow t w.log + (if t = taskId then 1 else 0) := by
      rw [hc.log]
      cases record
      · simp
      · rw [if_pos rfl, failuresInARow_concat, htaskb]
        by_cases htask : taskId = t
        · rw [if_pos htask, if_pos htask.symm]
          split <;> omega
        · rw [if_neg htask]
          omega
    by_cases htask : t = taskId
    · rw [if_pos htask] at hrow
      rw [htask, Function.update_self, hc.failures]
      rw [htask] at hrow hcounted
      exact Nat.le_trans hrow (Nat.succ_le_succ hcounted)
    · rw [if_neg htask] at hrow
      rw [Function.update_of_ne htask, hc.failures]
      omega

/-! ### Steps and runs -/

/-- What every step keeps; between `resume` and `run` the deadline of the task is over. -/
structure Inv (w : SummaryWorker) : Prop where
  throttled : Throttled w.log
  tracked : w.alive = true → Tracked w
  ready : w.alive = true → w.resumed = true → ∃ taskId rest, w.tasks = taskId :: rest ∧ w.Ready taskId

theorem inv_start (db : StoreDb) : Inv (start db) := by
  refine ⟨fun i j a b _ ha => by simp [start] at ha,
    fun _ => ⟨fun i a ha => by simp [start] at ha, fun t => ?_⟩,
    fun _ hresumed => by cases hresumed⟩
  simp [start, failuresInARow]

theorem tracked_next (h : Tracked w) (rest : List String) : Tracked (w.next rest) := by
  unfold next
  split
  · exact h.later rfl rfl rfl (Nat.le_add_right _ _)
  · exact h.later rfl rfl rfl (Nat.le_refl _)

@[simp] theorem sleep_log (w : SummaryWorker) (duration : Nat) : (w.sleep duration).log = w.log := rfl

@[simp] theorem next_log (w : SummaryWorker) (rest : List String) : (w.next rest).log = w.log := by
  unfold next
  split <;> rfl

@[simp] theorem next_resumed (w : SummaryWorker) (rest : List String) : (w.next rest).resumed = false := by
  unfold next
  split <;> rfl

@[simp] theorem settle_log (w : SummaryWorker) (taskId : String) (outcome : Outcome) :
    (w.settle taskId outcome).log = w.log := by
  unfold settle
  split <;> rfl

/-- The log after a call at a time when the task is ready. -/
theorem Called.throttled {record : Bool} {r : Option Outcome} {w' : SummaryWorker} {b : Attempt}
    (hc : Called w taskId record r w' b) (ht : Throttled w.log) (h : Tracked w)
    (hready : w.Ready taskId) : Throttled w'.log := by
  rw [hc.log]
  split
  · refine throttled_concat ht fun i a ha htask hfailed => ?_
    rw [hc.attempt.2.1]
    exact h.over hready ha (hc.attempt.1.symm.trans htask) hfailed
  · exact ht

theorem Called.died {record : Bool} {w' : SummaryWorker} {b : Attempt}
    (hc : Called w taskId record none w' b)
    (ht : Throttled w.log) (h : Tracked w) (hready : w.Ready taskId) : Inv w' := by
  have hdead : w'.alive = false := hc.alive
  refine ⟨hc.throttled ht h hready, fun halive => ?_, fun halive => ?_⟩
  · rw [hdead] at halive
    cases halive
  · rw [hdead] at halive
    cases halive

/-- The end of a visit, after a call that was recorded or ended in an error. -/
theorem Called.settled {record : Bool} {w' : SummaryWorker} {b : Attempt} {outcome : Outcome}
    (hc : Called w taskId record (some outcome) w' b) (ht : Throttled w.log) (h : Tracked w)
    (hready : w.Ready taskId)
    (hrecord : record = true ∨ ∃ error, outcome = .error error) (rest : List String) :
    Inv ((w'.settle taskId outcome).next rest) := by
  refine ⟨by simpa using hc.throttled ht h hready, fun _ => tracked_next ?_ rest,
    fun _ hresumed => by simp at hresumed⟩
  cases outcome with
  | error error => exact tracked_settle_error h hready hc error
  | ok o =>
    have hrecord : record = true := hrecord.resolve_right (by rintro ⟨_, heq⟩; cases heq)
    have hlog := hc.log
    rw [hrecord, if_pos rfl] at hlog
    have hfailed : b.failed = false := by
      by_contra hb
      obtain ⟨error, heq⟩ := hc.loud _ rfl (by simpa using hb)
      cases heq
    refine tracked_settle_ok (h.succeed hfailed hlog hc.retryAfter hc.failures hc.clock)
      (fun i a ha htask hfail => ?_) ?_ o
    · -- a failed attempt is one of the old ones, and its deadline is over
      rw [hlog] at ha ⊢
      have hi : i < w.log.length := by
        by_contra hge
        have hlen := (List.getElem?_eq_some_iff.1 ha).1
        rw [List.length_append, List.length_singleton] at hlen
        have hieq : i = w.log.length := by omega
        rw [hieq, List.getElem?_concat_length] at ha
        cases ha
        rw [hfailed] at hfail
        cases hfail
      rw [List.getElem?_append_left hi] at ha
      rw [List.take_append_of_le_length (by omega)]
      exact Nat.le_trans (h.over hready ha htask hfail) hc.clock
    · rw [hlog, failuresInARow_concat, if_pos hc.attempt.1, hfailed]
      rfl

theorem inv_visit {rest : List String} (h : Inv w) (halive : w.alive = true) (input : CallInput)
    (hquiet : (w.sleep input.wait).isBackedOff taskId = false →
      resumeWastes env w.world.db taskId input.answers = false)
    (htasks : w.tasks = taskId :: rest) : Inv (w.visit env taskId rest input) := by
  have htracked : Tracked (w.sleep input.wait) :=
    (h.tracked halive).later rfl rfl rfl (Nat.le_add_right _ _)
  unfold visit
  by_cases hoff : (w.sleep input.wait).isBackedOff taskId = true
  · simp only [hoff, if_true]
    exact ⟨by simpa using h.throttled, fun _ => tracked_next htracked rest,
      fun _ hresumed => by simp at hresumed⟩
  · have hready : (w.sleep input.wait).Ready taskId := ready_of_not_backedOff (by simpa using hoff)
    obtain ⟨b, hc, hφ⟩ := call_spec taskId input (Orchestrator.resumedBy env w.world.db taskId).isSome
      (w := w.sleep input.wait) (Orchestrator.resume_loud w.world (hquiet (by simpa using hoff)))
    simp only [hoff, Bool.false_eq_true, if_false]
    have hdb : (w.sleep input.wait).world = w.world := rfl
    rw [hdb]
    generalize hcall : (w.sleep input.wait).call taskId (Orchestrator.resume env input.answers taskId) input
      (Orchestrator.resumedBy env w.world.db taskId).isSome = c at hc hφ ⊢
    obtain ⟨r, w'⟩ := c
    have hthrottled := hc.throttled h.throttled htracked hready
    cases r with
    | none => exact hc.died h.throttled htracked hready
    | some outcome =>
      by_cases hidle : outcome = .ok .idle
      · -- the claim was idle or there was none: `run` is next
        subst hidle
        refine ⟨hthrottled, fun _ => ?_,
          fun _ _ => ⟨taskId, rest, hc.tasks.trans htasks, fun deadline hd => ?_⟩⟩
        · have hfailed : b.failed = false := by
            by_contra hb
            obtain ⟨error, heq⟩ := hc.loud _ rfl (by simpa using hb)
            cases heq
          have hlog := hc.log
          split at hlog
          · exact htracked.succeed hfailed hlog hc.retryAfter hc.failures hc.clock
          · exact htracked.later hlog hc.retryAfter hc.failures hc.clock
        · have hd : w'.retryAfter taskId = some deadline := hd
          rw [hc.retryAfter] at hd
          exact Nat.le_trans (hready deadline hd) hc.clock
      · have hrecord : (Orchestrator.resumedBy env w.world.db taskId).isSome = true ∨
          ∃ error, outcome = .error error := by
          cases hres : Orchestrator.resumedBy env w.world.db taskId with
          | some claim => exact Or.inl rfl
          | none => exact Or.inr ((hφ outcome rfl hres).resolve_left hidle)
        have := hc.settled h.throttled htracked hready hrecord rest
        split
        · rename_i heq
          cases heq
          exact absurd rfl hidle
        · rename_i heq
          cases heq
          exact this
        · rename_i heq
          cases heq

theorem inv_visitRun {rest : List String} (h : Inv w) (halive : w.alive = true)
    (hready : w.Ready taskId) (requestId : String)
    (input : CallInput) (hquiet : runWastes env w.world.db taskId requestId input.answers = false) :
    Inv (w.visitRun env taskId rest requestId input) := by
  have htracked : Tracked (w.sleep input.wait) :=
    (h.tracked halive).later rfl rfl rfl (Nat.le_add_right _ _)
  have hready : (w.sleep input.wait).Ready taskId := fun deadline hd =>
    Nat.le_trans (hready deadline hd) (Nat.le_add_right _ _)
  have hspec :
    Spec (fun s => s = (w.sleep input.wait).world) (Orchestrator.run env input.answers taskId requestId)
      (fun r s => Orchestrator.CostIsLoud (w.sleep input.wait).world r s ∧ True) fun _ => True :=
    spec_mono (Orchestrator.run_loud w.world hquiet) (fun _ => id) (fun _ _ hr => ⟨hr, trivial⟩) fun _ => id
  obtain ⟨b, hc, _⟩ := call_spec taskId input true hspec
  unfold visitRun
  dsimp only
  generalize hcall :
    (w.sleep input.wait).call taskId (Orchestrator.run env input.answers taskId requestId) input
    true = c at hc ⊢
  obtain ⟨r, w'⟩ := c
  cases r with
  | none => exact hc.died h.throttled htracked hready
  | some outcome => exact hc.settled h.throttled htracked hready (Or.inl rfl) rest

theorem inv_scan (h : Inv w) (halive : w.alive = true) (htasks : w.tasks = []) : Inv (w.scan env) := by
  have hnot : w.resumed = false := by
    by_contra hresumed
    obtain ⟨taskId, rest, heq, _⟩ := h.ready halive (by simpa using hresumed)
    rw [htasks] at heq
    cases heq
  have hlater : ∀ w' : SummaryWorker, w'.log = w.log → w'.retryAfter = w.retryAfter →
    w'.failures = w.failures →
      w.clock ≤ w'.clock → w'.resumed = w.resumed → Inv w' := by
    intro w' hlog hretry hfailures hclock hresumed
    refine ⟨hlog ▸ h.throttled, fun _ => (h.tracked halive).later hlog hretry hfailures hclock,
      fun _ hr => ?_⟩
    rw [hresumed, hnot] at hr
    cases hr
  unfold scan
  split
  · exact hlater _ rfl rfl rfl (Nat.le_add_right _ _) rfl
  · exact hlater _ rfl rfl rfl (Nat.le_add_right _ _) rfl
  · exact hlater _ rfl rfl rfl (Nat.le_refl _) rfl

theorem inv_step (e : WorkerEvent) (h : Inv w) (hquiet : w.wastes env e = false) :
    Inv (w.step env e).2 := by
  unfold step
  by_cases halive : w.alive = true
  · rw [if_pos halive]
    cases e with
    | others op outside =>
      refine ⟨h.throttled,
        fun _ => (h.tracked halive).later rfl rfl rfl (Nat.le_refl _), fun _ hresumed => ?_⟩
      obtain ⟨taskId, rest, htasks, hready⟩ := h.ready halive hresumed
      exact ⟨taskId, rest, htasks, hready⟩
    | scan =>
      cases htasks : w.tasks with
      | nil => exact inv_scan h halive htasks
      | cons taskId rest => exact h
    | visit input =>
      cases htasks : w.tasks with
      | nil => exact h
      | cons taskId rest =>
        cases hresumed : w.resumed with
        | true => exact h
        | false =>
          unfold wastes at hquiet
          simp only [htasks, hresumed, halive, Bool.true_and,
            Bool.and_eq_false_imp, Bool.not_eq_true'] at hquiet
          exact inv_visit h halive input hquiet htasks
    | visitRun requestId input =>
      cases htasks : w.tasks with
      | nil => exact h
      | cons taskId rest =>
        cases hresumed : w.resumed with
        | false => exact h
        | true =>
          unfold wastes at hquiet
          simp only [htasks, hresumed, halive, Bool.true_and] at hquiet
          obtain ⟨taskId', rest', heq, hready⟩ := h.ready halive hresumed
          rw [htasks] at heq
          cases heq
          exact inv_visitRun h halive hready requestId input hquiet
  · rw [if_neg halive]
    exact h

end SummaryWorker

/-- A worker that never calls the generator or the synthesizer only to end idle is throttled. -/
theorem throttled_of_nothing_wasted (env : Crates) (db : StoreDb) (events : List WorkerEvent)
    (h : Throughout (SummaryWorker.step env) (fun w e => w.wastes env e = false) (.start db) events) :
    Throttled (workerAfter env (.start db) events).log :=
  (throughout_induction (fun _ e hinv hquiet => SummaryWorker.inv_step e hinv hquiet) events
    (SummaryWorker.inv_start db) h).throttled

/-- A worker with one pending completion and the task bound, and two rounds over it. -/
def twoRounds (answers : Answers) : List WorkerEvent :=
  [.others (.setBinding 2 none sampleTask) rfl,
   .others (.commitRolloutCompletion 20 none none
     (sampleCursor 1) "22222222-2222-4222-8222-222222222222" "\x7b\x7d") rfl,
   .scan, .visit ⟨0, 0, answers, none⟩, .visitRun "a" ⟨0, nanosPerSecond, answers, none⟩,
   .scan, .scan, .visit ⟨0, 0, answers, none⟩, .visitRun "b" ⟨0, nanosPerSecond, answers, none⟩]

/-- The generator answers the right document. -/
def sampleAnswers (synthesized : Except TtsError TtsAudio) : Answers :=
  ⟨.error (.cache .missingObject), .error .manifest,
    .ok ⟨1, [], [], [], "done", ["22222222-2222-4222-8222-222222222222"]⟩, synthesized, .ok (),
      .error .manifest⟩

/-- A rejected speech request is throttled. -/
theorem rejected_speech_throttled :
    Throttled
      (workerAfter sampleCrates (.start .empty) (twoRounds (sampleAnswers (.error .rejected)))).log :=
  throttled_of_nothing_wasted sampleCrates .empty _ (by decide)

/-- After an ambiguous one the worker is back in half a second. -/
theorem ambiguous_speech_not_throttled :
    ¬ Throttled (workerAfter sampleCrates (.start .empty)
      (twoRounds (sampleAnswers (.error .ambiguousAfterCommit)))).log := by
  have hlog :
    (workerAfter sampleCrates (.start .empty)
    (twoRounds (sampleAnswers (.error .ambiguousAfterCommit)))).log =
      [⟨sampleTask, 0, nanosPerSecond, true, false⟩,
       ⟨sampleTask, nanosPerSecond + 2 * pollInterval,
         2 * nanosPerSecond + 2 * pollInterval, true, false⟩] := by decide
  rw [hlog]
  intro h
  exact absurd (h 0 1 _ _ (by decide) rfl rfl rfl rfl) (by decide)

end CodexKeyboard.Summary
