import CodexKeyboard.Summary.Orchestrator
import CodexKeyboard.Summary.Claims
/-!
# One synthesis for each claim, and no claim left over

A call of the orchestrator leaves its claim settled, whatever the cache, the generator and the
synthesizer answer, and a crash leaves one that the next resume settles (`executeClaim_spec`). Over
every run of calls, crashes and restarts no claim is spoken twice (`spoken_once_and_settled`).
-/

namespace CodexKeyboard.Summary

open Lib Store Proc

variable {env : Crates} {claim : SummaryClaim}

/-! ## Between the statements of a call -/

/-- What holds of the world at any time. -/
structure Base (env : Crates) (w : World) : Prop where
  store : StoreInv w.db
  rows : RowsValid env w.db
  attempts : AttemptsInv w.db w.synthesized

/-- `claim` is being worked on. -/
def Working (env : Crates) (claim : SummaryClaim) (w : World) : Prop := Base env w ∧ Underway w.db claim

/-- `claim` is settled, and nothing else is being worked on. -/
def Finished (env : Crates) (claim : SummaryClaim) (w : World) : Prop :=
  Base env w ∧ Quiet w.db ∧ Settled w.db claim

/-- What a crash leaves while a claim of `taskId` is being worked on. -/
def Stopped (env : Crates) (taskId : String) (w : World) : Prop := Base env w ∧ Resumable w.db taskId

theorem Working.stopped {w : World} (h : Working env claim w) : Stopped env claim.taskId w :=
  ⟨h.1, h.2.resumable⟩
theorem Finished.stopped {w : World} (h : Finished env claim w) : Stopped env claim.taskId w :=
  ⟨h.1, h.2.1.resumable _⟩

/-- A statement other than `claim_summary` that leaves no claim active. -/
theorem Base.storeStep {w : World} (h : Base env w) (op : StoreOp)
    (hop : ∀ taskId requestId, op ≠ .claimSummary taskId requestId) (hq : Quiet (storeStep env w.db op).2) :
    Base env { w with db := (storeStep env w.db op).2 } := by
  obtain ⟨mid, h1, h2⟩ := storeStep_effects env op h.store
  refine ⟨inv_storeStep env w.db op h.store, fun r hr => ?_, h.attempts.quiet hq fun r hr => ?_⟩
  · obtain ⟨r₁, hr₁, hsame⟩ := rows_effect hop h2 r hr
    obtain ⟨r₀, hr₀, hsame'⟩ := rows_effect hop h1 r₁ hr₁
    exact (h.rows r₀ hr₀).same (hsame'.trans hsame)
  · obtain ⟨r₁, hr₁, htask, hgen⟩ := keys_effect h1 r hr
    obtain ⟨r₂, hr₂, htask', hgen'⟩ := keys_effect h2 r₁ hr₁
    exact ⟨r₂, hr₂, htask'.trans htask, hgen'.trans hgen⟩

namespace Orchestrator

/-! ## The stages of a call -/

theorem spec_onStore {α : Type} {P : World → Prop} {body : StoreDb → Except StoreError (α × StoreDb)}
    {Q : Except StoreError α → World → Prop} {C : World → Prop}
    (h : ∀ w, P w → Q (transact (body w.db) w.db).1 { w with db := (transact (body w.db) w.db).2 }) :
    Spec P (onStore body) Q C := spec_act fun w hw => h w hw

theorem reached_working (checkpoint : SummaryCheckpoint) :
    Spec (Working env claim) (reached checkpoint) (fun _ => Working env claim) (Stopped env claim.taskId) :=
  spec_interrupt (fun _ h => h) fun _ h => h.stopped

theorem reached_finished (checkpoint : SummaryCheckpoint) :
    Spec (Finished env claim) (reached checkpoint) (fun _ => Finished env claim)
      (Stopped env claim.taskId) :=
  spec_interrupt (fun _ h => h) fun _ h => h.stopped

theorem abandon_spec :
    Spec (Working env claim) (abandon env claim) (fun r w => r = .ok () ∧ Finished env claim w)
    (Stopped env claim.taskId) := by
  have hstore : Spec (Working env claim) (onStore fun db => abandonSummaryClaim env db claim)
      (fun r w => r = .ok true ∧ Finished env claim w) (Stopped env claim.taskId) := by
    refine spec_onStore fun w hw => ?_
    obtain ⟨db', hok, hquiet, hsettled⟩ := abandon_underway hw.1.store.ledger hw.1.rows hw.2
    have hbase := hw.1.storeStep (.abandonSummaryClaim claim) (fun _ _ h => by cases h)
    have hstep : (storeStep env w.db (.abandonSummaryClaim claim)).2 = db' := by
      show (transact (abandonSummaryClaim env w.db claim) w.db).2 = db'
      rw [hok, transact_ok]
    rw [hstep] at hbase
    rw [hok, transact_ok]
    exact ⟨rfl, hbase hquiet, hquiet, hsettled⟩
  refine spec_bind hstore fun r => spec_and fun hr => ?_
  rw [hr]
  exact spec_ret fun w hw => ⟨rfl, hw⟩

theorem abandonThen_spec (outcome : Outcome) : Spec (Working env claim) (abandonThen env claim outcome)
    (fun _ => Finished env claim) (Stopped env claim.taskId) := by
  refine spec_bind abandon_spec fun r => spec_and fun hr => ?_
  rw [hr]
  exact spec_ret fun w hw => hw

/-- A publication settles the claim, or fails and leaves everything as it was. -/
def Published {ε α : Type} (env : Crates) (claim : SummaryClaim) : Except ε α → World → Prop
  | .ok _, w => Finished env claim w
  | .error _, w => Working env claim w

theorem publishSummary_spec (cacheObject : String) :
    Spec (Working env claim) (onStore fun db => publishSummary env db claim cacheObject)
      (Published env claim)
      (Stopped env claim.taskId) := by
  refine spec_onStore fun w hw => ?_
  have hbase := hw.1.storeStep (.publishSummary claim cacheObject) (fun _ _ h => by cases h)
  have hstep : (storeStep env w.db (.publishSummary claim cacheObject)).2 =
    (transact (publishSummary env w.db claim cacheObject) w.db).2 := rfl
  rw [hstep] at hbase
  cases hok : publishSummary env w.db claim cacheObject with
  | error e => exact hw
  | ok p =>
    obtain ⟨hquiet, hsettled⟩ := publish_underway hw.1.store.ledger hw.2 hok
    rw [hok] at hbase
    exact ⟨hbase hquiet, hquiet, hsettled⟩

/-- Pass on what a publication answered. -/
theorem published_ret {ε ε' α α' : Type} {r : Except ε α} {r' : Except ε' α'}
    (h : (∃ a, r = .ok a) ↔ ∃ a, r' = .ok a) :
    Spec (Published env claim r) (pure r' : Run _) (Published env claim) (Stopped env claim.taskId) := by
  refine spec_ret fun w hw => ?_
  cases r <;> cases r' <;> simp_all [Published]

theorem publishCached_spec (cached : SummaryDocument) (publication : PublishedTtsGeneration) :
    Spec (Working env claim) (publishCached env claim cached publication) (Published env claim)
      (Stopped env claim.taskId) := by
  unfold publishCached
  cases cached.validateExpectedCovers env (expectedCovers claim) with
  | error e => exact spec_ret fun w hw => hw
  | ok _ =>
    refine spec_bind (reached_working _) fun _ => spec_bind (publishSummary_spec _) fun r => ?_
    cases r with
    | error e => exact published_ret (by simp)
    | ok u => exact published_ret (by simp)

theorem publishAudio_spec (audio : PublishedTtsGeneration) :
    Spec (Working env claim) (publishAudio env claim audio) (Published env claim)
      (Stopped env claim.taskId) := by
  refine spec_bind (reached_working _) fun _ => spec_bind (publishSummary_spec _) fun r => ?_
  cases r with
  | error e => exact published_ret (by simp)
  | ok u => exact published_ret (by simp)

/-- What a commit or a load with a publishing callback answered. -/
def CallbackPublished {ε ε' α : Type} (env : Crates) (claim : SummaryClaim) :
    Except ε' (Except ε α) → World → Prop
  | .ok r, w => Published env claim r w
  | .error _, w => Working env claim w

theorem load_spec (cached : Except TtsCacheError SummaryDocument) :
    Spec (Working env claim)
      (loadTtsGenerationWith env cached claim.taskId claim.generation (publishCached env claim))
      (CallbackPublished env claim) (Stopped env claim.taskId) := by
  unfold loadTtsGenerationWith
  split
  · exact spec_ret fun w hw => hw
  split
  · exact spec_ret fun w hw => hw
  · exact spec_bind (publishCached_spec _ _) fun r => spec_ret fun w hw => hw

theorem commit_spec (committed : Except TtsCacheError Unit) :
    Spec (Working env claim)
      (publishTtsGenerationWith env committed claim.taskId claim.generation (publishAudio env claim))
      (CallbackPublished env claim) (Stopped env claim.taskId) := by
  unfold publishTtsGenerationWith
  split
  · exact spec_ret fun w hw => hw
  split
  · exact spec_ret fun w hw => hw
  · exact spec_bind (publishAudio_spec _) fun r => spec_ret fun w hw => hw

/-- A recovery settles the claim exactly when it has an outcome. -/
def Recovered (env : Crates) (claim : SummaryClaim) :
    Except SummaryOrchestratorError (Option SummaryRunOutcome) → World → Prop
  | .ok (some _), w => Finished env claim w
  | _, w => Working env claim w

theorem recoverAuthenticatedCache_spec (cached : Except TtsCacheError SummaryDocument) :
    Spec (Working env claim) (recoverAuthenticatedCache env claim cached) (Recovered env claim)
      (Stopped env claim.taskId) := by
  refine spec_bind (load_spec cached) fun r => ?_
  split
  · exact spec_bind (reached_finished _) fun _ => spec_ret fun w hw => hw
  · exact spec_ret fun w hw => hw
  · exact spec_ret fun w hw => hw
  · exact spec_ret fun w hw => hw

theorem publish_spec (answers : Answers) :
    Spec (Working env claim) (publish env answers claim) (fun _ => Finished env claim)
      (Stopped env claim.taskId) := by
  refine spec_bind (commit_spec _) fun r => ?_
  split
  · exact spec_bind (reached_finished _) fun _ => spec_ret fun w hw => hw
  · exact spec_bind abandon_spec fun _ => spec_ret fun w hw => hw.2
  · refine spec_bind (recoverAuthenticatedCache_spec _) fun r => ?_
    split
    · exact spec_ret fun w hw => hw
    · exact abandonThen_spec _
    · exact abandonThen_spec _

/-- No speech attempt of the claim is on record. -/
def Untried (env : Crates) (claim : SummaryClaim) (w : World) : Prop :=
  Working env claim w ∧ w.db.tts.find? (ttsOf claim.taskId claim.generation) = none

/-- The attempt is on record, and the synthesizer has not been called. -/
def Started (env : Crates) (claim : SummaryClaim) (w : World) : Prop :=
  Working env claim w ∧ (w.db.tts.find? (ttsOf claim.taskId claim.generation)).isSome = true ∧
    (claim.taskId, claim.generation) ∉ w.synthesized

theorem begin_spec : Spec (Untried env claim) (onStore fun db => beginSummaryTtsAttempt env db claim)
    (fun r w => r = .ok .started ∧ Started env claim w) (Stopped env claim.taskId) := by
  refine spec_onStore fun w hw => ?_
  obtain ⟨⟨hbase, hu⟩, hfresh⟩ := hw
  have hinv := inv_storeStep env w.db (.beginSummaryTtsAttempt claim) hbase.store
  have hbegin := begin_underway hbase.store.ledger hbase.rows hu hfresh
  have hstep : (storeStep env w.db (.beginSummaryTtsAttempt claim)).2 =
    (transact (beginSummaryTtsAttempt env w.db claim) w.db).2 := rfl
  rw [hstep, hbegin, transact_ok] at hinv
  rw [hbegin, transact_ok]
  refine ⟨rfl, ⟨⟨hinv, hbase.rows, hbase.attempts.begin _⟩, hu.of_tts _⟩, ?_,
    hbase.attempts.not_mem hbase.store.ledger hu hfresh⟩
  simp [ttsOf]

theorem callSynthesizer_spec (answers : Answers) : Spec (Started env claim) (callSynthesizer answers claim)
    (fun _ => Working env claim) (Stopped env claim.taskId) := by
  refine spec_act fun w hw => ?_
  obtain ⟨⟨hbase, hu⟩, hattempt, hnew⟩ := hw
  exact ⟨⟨hbase.store, hbase.rows, hbase.attempts.speak hu hnew hattempt⟩, hu⟩

theorem synthesize_spec (answers : Answers) :
    Spec (Untried env claim) (synthesize env answers claim) (fun _ => Finished env claim)
      (Stopped env claim.taskId) := by
  refine spec_bind begin_spec fun r => spec_and fun hr => ?_
  rw [hr]
  refine spec_bind (spec_interrupt (fun _ h => h) fun _ h => h.1.stopped) fun _ => ?_
  refine spec_bind (callSynthesizer_spec answers) fun r => ?_
  split
  · exact abandonThen_spec _
  · exact abandonThen_spec _
  · split
    · exact abandonThen_spec _
    · exact spec_bind (reached_working _) fun _ => publish_spec answers

theorem generate_spec (answers : Answers) :
    Spec (Untried env claim) (generate env answers claim) (fun _ => Finished env claim)
      (Stopped env claim.taskId) := by
  have hcall : Spec (Untried env claim) (callGenerator answers claim) (fun _ => Untried env claim)
    (Stopped env claim.taskId) :=
    spec_act fun w hw => ⟨⟨⟨hw.1.1.store, hw.1.1.rows, hw.1.1.attempts⟩, hw.1.2⟩, hw.2⟩
  have habandon :
    ∀ outcome, Spec (Untried env claim) (abandonThen env claim outcome) (fun _ => Finished env claim)
      (Stopped env claim.taskId) := fun outcome => spec_pre (abandonThen_spec outcome) fun _ h => h.1
  refine spec_bind (spec_interrupt (fun _ h => h) fun _ h => h.1.stopped) fun _ =>
    spec_bind hcall fun r => ?_
  split
  · exact habandon _
  split
  · exact habandon _
  · exact spec_bind (spec_interrupt (fun _ h => h) fun _ h => h.1.stopped) fun _ => synthesize_spec answers

theorem loadPrevious_spec (answers : Answers) :
    Spec (Untried env claim) (loadPrevious env answers claim) (fun _ => Finished env claim)
      (Stopped env claim.taskId) := by
  unfold loadPrevious
  split
  · exact spec_pre (abandonThen_spec _) fun _ h => h.1
  · exact generate_spec answers

/-- A call settles its claim, and a crash leaves a claim to resume. -/
theorem executeClaim_spec (answers : Answers) :
    Spec (Working env claim) (executeClaim env answers claim) (fun _ => Finished env claim)
      (Stopped env claim.taskId) := by
  have hquery : Spec (Working env claim) (query fun db => summaryTtsAttempt env db claim)
      (fun r w => r = .ok ((w.db.tts.find? (ttsOf claim.taskId claim.generation)).map TtsRow.state) ∧
        Working env claim w)
      (Stopped env claim.taskId) :=
    spec_act fun w hw => ⟨summaryTtsAttempt_underway hw.1.store.ledger hw.1.rows hw.2, hw⟩
  refine spec_bind (reached_working _) fun _ => spec_bind (recoverAuthenticatedCache_spec _) fun r => ?_
  split
  · exact spec_ret fun w hw => hw
  · exact spec_bind abandon_spec fun _ => spec_ret fun w hw => hw.2
  · refine spec_bind hquery fun r => ?_
    split
    · rintro n w ⟨hr, _⟩
      cases hr
    · exact spec_pre (abandonThen_spec _) fun w hw => hw.2
    · refine spec_pre (loadPrevious_spec answers) fun w hw => ⟨hw.2, ?_⟩
      have := hw.1
      simpa using this.symm

/-! ## Whole calls -/

/-- `claim_summary` answered this claim. -/
def claimedBy (env : Crates) (db : StoreDb) (taskId requestId : String) : Option SummaryClaim :=
  match claimSummary env db taskId requestId with
  | .ok (some (.claimed claim), _) => some claim
  | _ => none

/-- `resume_interrupted_summary` answered this claim. -/
def resumedBy (env : Crates) (db : StoreDb) (taskId : String) : Option SummaryClaim :=
  match resumeInterruptedSummary env db taskId with
  | .ok (some claim, _) => some claim
  | _ => none

/-- Between two calls no claim is active; the one a call worked on is settled. -/
def Returned (env : Crates) (worked : Option SummaryClaim) (w : World) : Prop :=
  Base env w ∧ Quiet w.db ∧ ∀ claim ∈ worked, Settled w.db claim

theorem execute_returned (answers : Answers) {worked : Option SummaryClaim} (h : worked = some claim) :
    Spec (Working env claim) (executeClaim env answers claim) (fun _ => Returned env worked)
      (Stopped env claim.taskId) := by
  refine spec_mono (executeClaim_spec answers) (fun _ => id)
    (fun _ w hw => ⟨hw.1, hw.2.1, fun c hc => ?_⟩) fun _ => id
  rw [h] at hc
  cases hc
  exact hw.2.2

theorem run_spec (answers : Answers) (taskId requestId : String) {w₀ : World} (hbase : Base env w₀)
    (hq : Quiet w₀.db) :
    Spec (fun w => w = w₀) (run env answers taskId requestId)
      (fun _ => Returned env (claimedBy env w₀.db taskId requestId)) (Stopped env taskId) := by
  -- what the claim leaves, for each of its answers
  have hclaim : Spec (fun w => w = w₀) (onStore fun db => claimSummary env db taskId requestId)
      (fun r w => (∀ claim, r = .ok (some (.claimed claim)) → claim.taskId = taskId ∧
          claimedBy env w₀.db taskId requestId = some claim ∧ Working env claim w) ∧
        ((∀ claim, r ≠ .ok (some (.claimed claim))) →
          Returned env (claimedBy env w₀.db taskId requestId) w))
      (Stopped env taskId) := by
    refine spec_onStore fun w hw => ?_
    subst hw
    cases hok : claimSummary env w.db taskId requestId with
    | error e =>
      refine ⟨fun claim h => (by cases h), fun _ => ⟨hbase, hq, fun c hc => ?_⟩⟩
      simp [claimedBy, hok] at hc
    | ok p =>
      obtain ⟨out, db'⟩ := p
      have hinv := inv_storeStep env w.db (.claimSummary taskId requestId) hbase.store
      have hstep : (storeStep env w.db (.claimSummary taskId requestId)).2 =
        (transact (claimSummary env w.db taskId requestId) w.db).2 := rfl
      rw [hstep, hok, transact_ok] at hinv
      rcases claimSummary_quiet hbase.store.ledger hbase.rows hq hbase.attempts hok with
        ⟨rfl, hnone⟩ | ⟨claim, rfl, htask, hrows, hu, ha⟩
      · refine ⟨fun claim h => absurd (Except.ok.inj h) (hnone claim), fun _ => ⟨hbase, hq, fun c hc => ?_⟩⟩
        unfold claimedBy at hc
        rw [hok] at hc
        split at hc
        · rename_i claim _ heq
          cases heq
          exact absurd rfl (hnone claim)
        · cases hc
      · refine ⟨fun claim' h => ?_, fun h => absurd rfl (h claim)⟩
        cases h
        exact ⟨htask, by simp [claimedBy, hok], ⟨hinv, hrows, ha⟩, hu⟩
  refine spec_bind hclaim fun r => ?_
  split
  · exact spec_ret fun w hw => hw.2 fun _ h => by cases h
  · exact spec_ret fun w hw => hw.2 fun _ h => by cases h
  · exact spec_ret fun w hw => hw.2 fun _ h => by cases h
  · rename_i claim
    rintro n w ⟨hw, _⟩
    obtain ⟨htask, hworked, hworking⟩ := hw claim rfl
    rw [← htask] at hworked ⊢
    exact execute_returned answers hworked n w hworking

/-- After a restart. -/
theorem resume_spec (answers : Answers) (taskId : String) {w₀ : World} (hstopped : Stopped env taskId w₀)
    (hint : ∀ r ∈ w₀.db.summaries, r.isActive = true → r.state = .interrupted) :
    Spec (fun w => w = w₀) (resume env answers taskId) (fun _ => Returned env (resumedBy env w₀.db taskId))
      (Stopped env taskId) := by
  obtain ⟨hbase, hresumable⟩ := hstopped
  have hresume : Spec (fun w => w = w₀) (onStore fun db => resumeInterruptedSummary env db taskId)
      (fun r w => (∀ claim, r = .ok (some claim) → claim.taskId = taskId ∧
          resumedBy env w₀.db taskId = some claim ∧ Working env claim w) ∧
        ((∀ claim, r ≠ .ok (some claim)) → Returned env (resumedBy env w₀.db taskId) w))
      (Stopped env taskId) := by
    refine spec_onStore fun w hw => ?_
    subst hw
    have hinv := inv_storeStep env w.db (.resumeInterruptedSummary taskId) hbase.store
    have hstep : (storeStep env w.db (.resumeInterruptedSummary taskId)).2 =
      (transact (resumeInterruptedSummary env w.db taskId) w.db).2 := rfl
    rw [hstep] at hinv
    rcases resume_resumable hbase.store.ledger hbase.rows hbase.attempts hresumable hint with
      ⟨hq, hnone⟩ | ⟨claim, db', hok, htask, hrows, hu, ha⟩
    · have hresumed : resumedBy env w.db taskId = none := by
        unfold resumedBy
        split
        · rename_i claim db' heq
          cases (hnone _ _ heq).1
        · rfl
      rw [hresumed]
      cases hok : resumeInterruptedSummary env w.db taskId with
      | error e => exact ⟨fun claim h => (by cases h), fun _ => ⟨hbase, hq, fun c hc => (by cases hc)⟩⟩
      | ok p =>
        obtain ⟨out, db'⟩ := p
        obtain ⟨rfl, rfl⟩ := hnone out db' hok
        exact ⟨fun claim h => (by cases h), fun _ => ⟨hbase, hq, fun c hc => (by cases hc)⟩⟩
    · rw [hok, transact_ok] at hinv ⊢
      refine ⟨fun claim' h => ?_, fun h => absurd rfl (h claim)⟩
      cases h
      exact ⟨htask, by simp [resumedBy, hok], ⟨hinv, hrows, ha⟩, hu⟩
  refine spec_bind hresume fun r => ?_
  split
  · exact spec_ret fun w hw => hw.2 fun _ h => by cases h
  · exact spec_ret fun w hw => hw.2 fun _ h => by cases h
  · rename_i claim
    rintro n w ⟨hw, _⟩
    obtain ⟨htask, hworked, hworking⟩ := hw claim rfl
    rw [← htask] at hworked ⊢
    exact execute_returned answers hworked n w hworking

end Orchestrator

/-! ## Runs -/

/-- Calls that other parts of the Host make on the store. -/
def isOthers : StoreOp → Bool
  | .setBinding .. | .commitRolloutCompletion .. | .acquireSummaryPlayback .. | .cancelSummaryPlayback .. |
    .finishSummaryPlayback .. | .restart .. => true
  | _ => false

/-- What happens around the orchestrator. The budget of a call is the number of checkpoints it
reaches before its process dies. -/
inductive SummaryEvent where
  /-- Between two calls: observation, playback, or a restart with no call under way. -/
  | others (op : StoreOp) (outside : isOthers op = true)
  | run (taskId requestId : String) (answers : Answers) (budget : Option Nat)
  | resume (taskId : String) (answers : Answers) (budget : Option Nat)
  /-- The process that comes after a dead one recovers the store, and resumes the task once it is open. -/
  | restart (progress : OpenProgress) (answers : Answers) (budget : Option Nat)

/-- The world, and the task of the call during which the process died. -/
structure SummaryHost where
  world : World
  crashed : Option String
deriving DecidableEq, Repr

def SummaryHost.initial : SummaryHost := ⟨⟨.empty, [], []⟩, none⟩

/-- After a call for `taskId`. -/
def SummaryHost.afterCall (taskId : String) (r : Option Outcome × World) : Option Outcome × SummaryHost :=
  (r.1, ⟨r.2, if r.1.isSome then none else some taskId⟩)

def SummaryHost.step (env : Crates) (h : SummaryHost) (e : SummaryEvent) : Option Outcome × SummaryHost :=
  match h.crashed, e with
  | none, .others op _ => (none, { h with world := { h.world with db := (storeStep env h.world.db op).2 } })
  | none, .run taskId requestId answers budget =>
    SummaryHost.afterCall taskId ((Orchestrator.run env answers taskId requestId).run budget h.world)
  | none, .resume taskId answers budget =>
    SummaryHost.afterCall taskId ((Orchestrator.resume env answers taskId).run budget h.world)
  | some taskId, .restart progress answers budget =>
    let (opened, db) := openStore h.world.db progress
    let world := { h.world with db }
    match opened, progress with
    | .ok _, .complete =>
      SummaryHost.afterCall taskId ((Orchestrator.resume env answers taskId).run budget world)
    | _, _ => (none, { h with world })
  -- a dead process makes no call, and a live one is not restarted during a call
  | _, _ => (none, h)

/-- The claim an event works on. -/
def SummaryHost.claimOf (env : Crates) (h : SummaryHost) (e : SummaryEvent) : Option SummaryClaim :=
  match h.crashed, e with
  | none, .run taskId requestId _ _ => Orchestrator.claimedBy env h.world.db taskId requestId
  | none, .resume taskId _ _ => Orchestrator.resumedBy env h.world.db taskId
  | some taskId, .restart .complete _ _ =>
    Orchestrator.resumedBy env (openStore h.world.db .complete).2 taskId
  | _, _ => none

def hostAfter (env : Crates) (events : List SummaryEvent) : SummaryHost :=
  after (SummaryHost.step env) .initial events

/-- Between calls no claim is active, and after a crash there is one to resume at most. -/
def HostInv (env : Crates) (h : SummaryHost) : Prop :=
  match h.crashed with
  | none => Base env h.world ∧ Quiet h.world.db
  | some taskId => Stopped env taskId h.world

theorem hostInv_initial (env : Crates) : HostInv env .initial := by
  refine ⟨⟨inv_emptyStore, ?_, .nil, ?_⟩, ?_⟩ <;>
    simp [SummaryHost.initial, StoreDb.empty, RowsValid, Quiet]

/-- The two recoveries of `StateStore::open` leave a claim to resume as it is, and mark it interrupted. -/
theorem openStore_stopped {taskId : String} {w : World} (h : Stopped env taskId w)
    (progress : OpenProgress) :
    Stopped env taskId { w with db := (openStore w.db progress).2 } ∧
    (progress = .complete → (∃ n, (openStore w.db progress).1 = .ok n) →
      ∀ r ∈ (openStore w.db progress).2.summaries, r.isActive = true → r.state = .interrupted) := by
  obtain ⟨⟨hinv, hrows, ha⟩, hr⟩ := h
  have hrec := recoverSummaries_eq hinv.ledger
  have hmark : RowUpdate isGenerating (setState .interrupted) :=
    rowUpdate_mark .interrupt isGenerating_active
  have hunlease : RowUpdate isLeased unlease := rowUpdate_unlease fun r hp => by simpa [isLeased] using hp
  have hsub :
    ∀ {p : SummaryRow → Bool} {f : SummaryRow → SummaryRow} {rows : List SummaryRow}, RowUpdate p f →
      (∀ r ∈ rows, RowValid env r) → ∀ r ∈ updateWhere p f rows, RowValid env r := by
    intro p f rows hf hall r hr
    obtain ⟨r₀, hr₀, hsame⟩ := (sameClaim_update (sameClaim_rowUpdate hf)).2 r hr
    exact (hall r₀ hr₀).same hsame
  have hopen := inv_storeStep env w.db (.restart progress) hinv
  have hopen : StoreInv (openStore w.db progress).2 := hopen
  have hfirst :
    Resumable { w.db with
      summaries := updateWhere isGenerating (setState .interrupted) w.db.summaries } taskId :=
    hr.mark .interrupt isGenerating_active rfl
  have hattempts :
    AttemptsInv { w.db with summaries := updateWhere isGenerating (setState .interrupted) w.db.summaries }
      w.synthesized := ha.update hmark rfl rfl
  cases progress with
  | beforeSummaries => exact ⟨⟨⟨hinv, hrows, ha⟩, hr⟩, fun h => by cases h⟩
  | beforeLeases =>
    have heq : (openStore w.db .beforeLeases).2 =
        { w.db with summaries := updateWhere isGenerating (setState .interrupted) w.db.summaries } := by
      simp only [openStore, hrec, transact_ok]
    rw [heq] at hopen ⊢
    exact ⟨⟨⟨hopen, hsub hmark hrows, hattempts⟩, hfirst⟩, fun h => by cases h⟩
  | complete =>
    cases hleases : recoverInterruptedPlaybackLeases
        { w.db with summaries := updateWhere isGenerating (setState .interrupted) w.db.summaries } with
    | error e =>
      have heq : openStore w.db .complete = (.error e,
          { w.db with summaries := updateWhere isGenerating (setState .interrupted) w.db.summaries }) := by
        simp only [openStore, hrec, transact_ok, hleases, transact_error]
      rw [heq] at hopen ⊢
      refine ⟨⟨⟨hopen, hsub hmark hrows, hattempts⟩, hfirst⟩, fun _ hok => ?_⟩
      obtain ⟨n, hn⟩ := hok
      cases hn
    | ok p =>
      obtain ⟨u, db'⟩ := p
      have hdb : db'.summaries = updateWhere isLeased unlease
          (updateWhere isGenerating (setState .interrupted) w.db.summaries) ∧ db'.tts = w.db.tts := by
        unfold recoverInterruptedPlaybackLeases at hleases
        simp only [bind_eq_ok, writeSummaries_eq_ok, pure_eq_ok, Except.ok.injEq, Prod.mk.injEq] at hleases
        obtain ⟨_, ⟨_, rfl⟩, _, rfl⟩ := hleases
        exact ⟨rfl, rfl⟩
      have heq : openStore w.db .complete = (.ok (w.db.summaries.countP isGenerating), db') := by
        simp only [openStore, hrec, transact_ok, hleases]
      rw [heq] at hopen ⊢
      refine ⟨⟨⟨hopen, ?_, hattempts.update hunlease hdb.1 hdb.2⟩, hfirst.recoverLeases hdb.1⟩,
        fun _ _ r hr hact => ?_⟩
      · show RowsValid env db'
        unfold RowsValid
        rw [hdb.1]
        exact hsub hunlease (hsub hmark hrows)
      · have hr : r ∈ db'.summaries := hr
        rw [hdb.1] at hr
        rcases mem_updateWhere.1 hr with ⟨hr, _⟩ | ⟨r, _, hp, rfl⟩
        · exact interrupted_of_active hr hact
        · simp only [unlease, SummaryRow.isActive] at hact
          split at hact <;> simp at hact

/-- What a call leaves, as the next event finds it. -/
theorem hostInv_afterCall {taskId : String} {worked : Option SummaryClaim} {x : Run Outcome}
    {budget : Option Nat} {w : World}
    (h : Spec (fun w' => w' = w) x (fun _ => Orchestrator.Returned env worked) (Stopped env taskId)) :
    HostInv env (SummaryHost.afterCall taskId (x.run budget w)).2 ∧
    ((SummaryHost.afterCall taskId (x.run budget w)).2.crashed = none →
      ∀ claim ∈ worked, Settled (SummaryHost.afterCall taskId (x.run budget w)).2.world.db claim) := by
  rcases h.run budget rfl with ⟨a, hsome, hbase, hq, hsettled⟩ | ⟨hnone, hstopped⟩
  · simp only [SummaryHost.afterCall, hsome, HostInv, Option.isSome_some, if_true]
    exact ⟨⟨hbase, hq⟩, fun _ => hsettled⟩
  · simp only [SummaryHost.afterCall, hnone, HostInv]
    exact ⟨hstopped, fun hcontra => by cases hcontra⟩

/-- One event keeps the invariant, and a call that returns settles its claim. -/
theorem hostInv_step (env : Crates) (h : SummaryHost) (e : SummaryEvent) (hinv : HostInv env h) :
    HostInv env (h.step env e).2 ∧
    ((h.step env e).2.crashed = none → ∀ claim ∈ h.claimOf env e,
      Settled (h.step env e).2.world.db claim) := by
  obtain ⟨w, crashed⟩ := h
  cases crashed with
  | none =>
    obtain ⟨hbase, hq⟩ : Base env w ∧ Quiet w.db := hinv
    cases e with
    | others op outside =>
      have hop : ∀ taskId requestId, op ≠ .claimSummary taskId requestId := by
        rintro taskId requestId rfl
        cases outside
      obtain ⟨mid, h1, h2⟩ := storeStep_effects env op hbase.store
      have hquiet := quiet_effect hop (quiet_effect hop hq h1) h2
      exact ⟨⟨hbase.storeStep _ hop hquiet, hquiet⟩, fun _ claim hc => by cases hc⟩
    | run taskId requestId answers budget =>
      exact hostInv_afterCall (Orchestrator.run_spec answers taskId requestId hbase hq)
    | resume taskId answers budget =>
      refine hostInv_afterCall
        (Orchestrator.resume_spec answers taskId ⟨hbase, hq.resumable taskId⟩ fun r hr hact => ?_)
      rw [hq r hr] at hact
      cases hact
    | restart progress answers budget => exact ⟨⟨hbase, hq⟩, fun _ claim hc => by cases hc⟩
  | some taskId =>
    have hstopped : Stopped env taskId w := hinv
    cases e with
    | restart progress answers budget =>
      obtain ⟨hopened, hint⟩ := openStore_stopped hstopped progress
      cases hres : (openStore w.db progress).1 with
      | error err =>
        have heq : SummaryHost.step env ⟨w, some taskId⟩ (.restart progress answers budget) =
            (none, ⟨{ w with db := (openStore w.db progress).2 }, some taskId⟩) := by
          simp only [SummaryHost.step, hres]
        rw [heq]
        exact ⟨hopened, fun hcontra => by cases hcontra⟩
      | ok n =>
        cases progress with
        | complete =>
          have heq : SummaryHost.step env ⟨w, some taskId⟩ (.restart .complete answers budget) =
              SummaryHost.afterCall taskId ((Orchestrator.resume env answers taskId).run budget
                { w with db := (openStore w.db .complete).2 }) := by
            simp only [SummaryHost.step, hres]
          rw [heq]
          exact hostInv_afterCall (Orchestrator.resume_spec answers taskId hopened (hint rfl ⟨n, hres⟩))
        | beforeSummaries => exact ⟨hopened, fun hcontra => by cases hcontra⟩
        | beforeLeases =>
          have heq : SummaryHost.step env ⟨w, some taskId⟩ (.restart .beforeLeases answers budget) =
              (none, ⟨{ w with db := (openStore w.db .beforeLeases).2 }, some taskId⟩) := by
            simp only [SummaryHost.step, hres]
          rw [heq]
          exact ⟨hopened, fun hcontra => by cases hcontra⟩
    | others op outside => exact ⟨hstopped, fun hcontra => by cases hcontra⟩
    | run task requestId answers budget => exact ⟨hstopped, fun hcontra => by cases hcontra⟩
    | resume task answers budget => exact ⟨hstopped, fun hcontra => by cases hcontra⟩

theorem hostInv_hostAfter (env : Crates) (events : List SummaryEvent) :
    HostInv env (hostAfter env events) :=
  after_induction (fun h e hinv => (hostInv_step env h e hinv).1) events (hostInv_initial env)

theorem HostInv.base {h : SummaryHost} (hinv : HostInv env h) : Base env h.world := by
  unfold HostInv at hinv
  split at hinv
  · exact hinv.1
  · exact hinv.1

/-- The synthesizer is called once at most for a claim; when a call returns, no claim is active, and
the one it worked on is published with its completions or abandoned with them pending. -/
theorem spoken_once_and_settled (env : Crates) (events : List SummaryEvent) :
    (hostAfter env events).world.synthesized.Nodup ∧
    ((hostAfter env events).crashed = none → ∀ r ∈ (hostAfter env events).world.db.summaries,
      r.state ≠ .generating ∧ r.state ≠ .interrupted) ∧
    ∀ e, (hostAfter env (events ++ [e])).crashed = none → ∀ claim ∈ (hostAfter env events).claimOf env e,
      Settled (hostAfter env (events ++ [e])).world.db claim := by
  have hinv := hostInv_hostAfter env events
  refine ⟨hinv.base.attempts.once, fun halive r hr => ?_, fun e => ?_⟩
  · unfold HostInv at hinv
    rw [halive] at hinv
    have hquiet := hinv.2 r hr
    simp only [SummaryRow.isActive, Bool.or_eq_false_iff, beq_eq_false_iff_ne] at hquiet
    exact hquiet
  · have heq : hostAfter env (events ++ [e]) = ((hostAfter env events).step env e).2 := after_concat _ _ _
    rw [heq]
    exact (hostInv_step env _ e hinv).2

/-- The process dies right after the synthesizer was called, with the audio of the claim not in the
cache. -/
def spokenRun : List SummaryEvent :=
  let document : SummaryDocument := ⟨1, [], [], [], "done", ["22222222-2222-4222-8222-222222222222"]⟩
  let answers : Answers := ⟨.error (.cache .missingObject), .error .manifest, .ok document,
    .ok ⟨Orchestrator.summaryTtsVoice⟩, .ok (), .error .manifest⟩
  [.others (.commitRolloutCompletion 10 none none
    (sampleCursor 1) "22222222-2222-4222-8222-222222222222" "\x7b\x7d") rfl,
   .run sampleTask "a" answers (some 4),
   .restart .complete answers none]

example : (hostAfter sampleCrates spokenRun).world.synthesized = [(sampleTask, 1)] ∧
    (hostAfter sampleCrates spokenRun).world.db.summaries.map SummaryRow.state = [.abandoned] := by decide

end CodexKeyboard.Summary
