import CodexKeyboard.Store.Playback
import CodexKeyboard.Lib.Procedure
/-!
# The summary orchestrator

`src/app/host/src/summary_orchestrator.rs`, with the checks of `summary.rs` it makes. The cache, the
generator and the synthesizer are outside: `Answers` is what they say during one call, whatever that
is. The process may die at every checkpoint. Log lines are left out, and of a document or an audio
the fields that nothing here reads.

| here | there |
| --- | --- |
| `SummaryDocument.validate`, `validateExpectedCovers` | summary.rs:110, 88 |
| `loadTtsGenerationWith`, `publishTtsGenerationWith` | tts_cache.rs:163, 78: up to the callback they are an answer |
| `Orchestrator.run`, `resume` | `SummaryOrchestrator::run_with_observer`, `resume` (summary_orchestrator.rs:161, 154) |
| `executeClaim` and its stages `generate`, `synthesize`, `publish` | `execute_claim` (summary_orchestrator.rs:178) |
| `recoverAuthenticatedCache`, `abandon` | summary_orchestrator.rs:326, 364 |
-/

namespace CodexKeyboard.Summary

open Lib Store

/-! ## Documents -/

/-- The errors of a document (summary.rs:15). -/
inductive SummaryDocumentError where
  | size
  | json
  | schema
  | text
  | coverage
deriving DecidableEq, Repr

def summarySchemaVersion : Nat := 1
def maxSummaryItemsPerSection : Nat := 32
def maxSummaryItemBytes : Nat := 1024
def maxSpokenTextBytes : Nat := 24 * 1024
def maxCoversNewCompletions : Nat := 32

/-- `SummaryDocument` (summary.rs:42). -/
structure SummaryDocument where
  schema : Nat
  facts : List String
  pending : List String
  decisions : List String
  spokenText : String
  coversNewCompletions : List String
deriving DecidableEq, Repr

/-- `char::is_control`, the Unicode general category `Cc`. -/
def isControl (c : Char) : Bool := c.val < 0x20 || (0x7f ≤ c.val && c.val < 0xa0)

/-- `valid_text`. -/
def validText (value : String) (maxBytes : Nat) : Bool :=
  (value.toList.any fun c => !isWhitespace c) && decide (value.utf8ByteSize ≤ maxBytes) &&
    !value.toList.any isControl

/-- `validate_items`. -/
def validateItems (items : List String) : Except SummaryDocumentError Unit :=
  ensure (decide (items.length ≤ maxSummaryItemsPerSection) &&
    items.all (validText · maxSummaryItemBytes)) .text

def SummaryDocument.validate (env : Crates) (document : SummaryDocument) :
    Except SummaryDocumentError Unit := do
  ensure (decide (document.schema = summarySchemaVersion)) .schema
  validateItems document.facts
  validateItems document.pending
  validateItems document.decisions
  ensure (validText document.spokenText maxSpokenTextBytes) .text
  ensure (decide (document.coversNewCompletions ≠ [] ∧
    document.coversNewCompletions.length ≤ maxCoversNewCompletions)) .coverage
  ensure (document.coversNewCompletions.all env.isUuid && decide document.coversNewCompletions.Nodup)
    .coverage

def SummaryDocument.validateExpectedCovers (env : Crates) (document : SummaryDocument)
    (expected : List String) :
    Except SummaryDocumentError Unit := do
  document.validate env
  ensure (decide (document.coversNewCompletions = expected)) .coverage

/-! ## The world of a call -/

/-- The errors of the speech cache (tts_cache.rs:13); an audio error without its payload. -/
inductive TtsCacheError where
  | audio
  | cache (error : Cache.CacheError)
  | summary (error : SummaryDocumentError)
  | manifest
deriving DecidableEq, Repr

/-- The errors of the generator (spark_runner.rs:114). -/
inductive SparkError where
  | cliMissing
  | authentication
  | unsafeWorkspace
  | invalidInput
  | invalidOutput
  | outputTooLarge
  | timeout
  | cancelled
  | busy
  | processIo
  | rateLimited
  | serviceUnavailable
  | resourceLimit
  | modelUnavailable
  | localRuntime
  | silentExitFailure
  | exitFailure
deriving DecidableEq, Repr

/-- The errors of the synthesizer (dashscope.rs:484). -/
inductive TtsError where
  | credential
  | invalidRequest
  | rejected
  | rateLimited
  | unavailable
  | ambiguousAfterCommit
  | protocol
  | audioLimit
deriving DecidableEq, Repr

/-- The voice of the receipt of a `TtsAudio` (dashscope.rs:191). -/
structure TtsAudio where
  voice : String
deriving DecidableEq, Repr

/-- `PublishedTtsGeneration` (tts_cache.rs:41), without the figures of the audio. -/
structure PublishedTtsGeneration where
  cacheReference : String
deriving DecidableEq, Repr

/-- What the cache, the generator and the synthesizer answer during one call. -/
structure Answers where
  /-- `load_tts_generation_with` of the claimed generation, up to its callback. -/
  cached : Except TtsCacheError SummaryDocument
  /-- `load_tts_summary` of the previous unread generation. -/
  previous : Except TtsCacheError SummaryDocument
  generated : Except SparkError SummaryDocument
  synthesized : Except TtsError TtsAudio
  /-- `publish_tts_generation_with`, up to its callback. -/
  committed : Except TtsCacheError Unit
  /-- The second `load_tts_generation_with`, after a failed commit. -/
  recached : Except TtsCacheError SummaryDocument

/-- The store, and the claims the generator and the synthesizer were called for so far. -/
structure World where
  db : StoreDb
  generated : List (String × Nat)
  synthesized : List (String × Nat)
deriving DecidableEq, Repr

/-- `SummaryCheckpoint` (summary_orchestrator.rs:67). -/
inductive SummaryCheckpoint where
  | claimAcquired
  | previousUnreadLoaded
  | sparkGenerated
  | ttsAttemptStarted
  | ttsGenerated
  | cacheAuthenticated
  | ledgerPublished
deriving DecidableEq, Repr

/-- `SummaryRunOutcome` (summary_orchestrator.rs:86). -/
inductive SummaryRunOutcome where
  | idle
  | alreadyPublished (generation : Nat)
  | published (unread : UnreadSummary) (audio : PublishedTtsGeneration) (recoveredFromCache : Bool)
  | manualTtsReconciliationRequired (generation : Nat)
deriving DecidableEq, Repr

/-- `SummaryOrchestratorError` (summary_orchestrator.rs:105). -/
inductive SummaryOrchestratorError where
  | store (error : StoreError)
  | summary (error : SummaryDocumentError)
  | previousCache (error : TtsCacheError)
  | spark (error : SparkError)
  | tts (error : TtsError)
  | cache (error : TtsCacheError)
deriving DecidableEq, Repr

abbrev Run (α : Type) : Type := Proc World α
abbrev Outcome : Type := Except SummaryOrchestratorError SummaryRunOutcome

namespace Orchestrator

/-- `observer.reached(checkpoint)`: the process may die here, whichever checkpoint it is. -/
def reached (_checkpoint : SummaryCheckpoint) : Run Unit := Proc.interrupt

/-- One transaction of the store. -/
def onStore {α : Type} (body : StoreDb → Except StoreError (α × StoreDb)) : Run (Except StoreError α) :=
  Proc.act fun w => let (r, db) := transact (body w.db) w.db; (r, { w with db })

/-- One query of the store. -/
def query {α : Type} (body : StoreDb → α) : Run α := Proc.act fun w => (body w.db, w)

/-- `expected`, the covers a document for the claim must have. -/
def expectedCovers (claim : SummaryClaim) : List String :=
  claim.completions.map PendingCompletion.completionId

variable (env : Crates) (answers : Answers) (claim : SummaryClaim)

/-- `load_tts_generation_with`. -/
def loadTtsGenerationWith {β : Type} (cached : Except TtsCacheError SummaryDocument)
    (taskId : String) (generation : Nat)
    (afterAuthenticatedRead : SummaryDocument → PublishedTtsGeneration → Run β) :
    Run (Except TtsCacheError β) :=
  match Cache.CacheId.forTask env.sha256 taskId generation with
  | none => return .error (.cache .invalidGeneration)
  | some id =>
    match cached with
    | .error error => return .error error
    | .ok summary => do
      let r ← afterAuthenticatedRead summary ⟨id.reference⟩
      return .ok r

/-- `publish_tts_generation_with`. -/
def publishTtsGenerationWith {β : Type} (committed : Except TtsCacheError Unit) (taskId : String)
    (generation : Nat)
    (afterAuthenticatedRead : PublishedTtsGeneration → Run β) : Run (Except TtsCacheError β) :=
  match committed with
  | .error error => return .error error
  | .ok () =>
    match Cache.CacheId.forTask env.sha256 taskId generation with
    | none => return .error (.cache .invalidGeneration)
    | some id => do
      let r ← afterAuthenticatedRead ⟨id.reference⟩
      return .ok r

def abandon : Run (Except StoreError Unit) := do
  match ← onStore fun db => abandonSummaryClaim env db claim with
  | .ok true => return .ok ()
  | .ok false => return .error .summaryClaimChanged
  | .error error => return .error error

/-- `self.abandon(&claim)?` and then `outcome`. -/
def abandonThen (outcome : Outcome) : Run Outcome := do
  match ← abandon env claim with
  | .ok () => return outcome
  | .error error => return .error (.store error)

/-- The callback of `recover_authenticated_cache`. -/
def publishCached (cached : SummaryDocument) (publication : PublishedTtsGeneration) :
    Run (Except SummaryOrchestratorError (UnreadSummary × PublishedTtsGeneration)) := do
  match cached.validateExpectedCovers env (expectedCovers claim) with
  | .error error => return .error (.summary error)
  | .ok () =>
    reached .cacheAuthenticated
    match ← onStore fun db => publishSummary env db claim publication.cacheReference with
    | .error error => return .error (.store error)
    | .ok unread => return .ok (unread, publication)

def recoverAuthenticatedCache (cached : Except TtsCacheError SummaryDocument) :
    Run (Except SummaryOrchestratorError (Option SummaryRunOutcome)) := do
  match ← loadTtsGenerationWith env cached claim.taskId claim.generation (publishCached env claim) with
  | .ok (.ok (unread, audio)) =>
    reached .ledgerPublished
    return .ok (some (.published unread audio true))
  | .ok (.error error) => return .error error
  | .error (.cache .missingObject) => return .ok none
  | .error error => return .error (.cache error)

/-- The callback of the commit. -/
def publishAudio (audio : PublishedTtsGeneration) :
    Run (Except StoreError (UnreadSummary × PublishedTtsGeneration)) := do
  reached .cacheAuthenticated
  match ← onStore fun db => publishSummary env db claim audio.cacheReference with
  | .error error => return .error error
  | .ok unread => return .ok (unread, audio)

/-- The commit (summary_orchestrator.rs:279-323). -/
def publish : Run Outcome := do
  match ← publishTtsGenerationWith env answers.committed claim.taskId claim.generation
    (publishAudio env claim) with
  | .ok (.ok (unread, audio)) =>
    reached .ledgerPublished
    return .ok (.published unread audio false)
  | .ok (.error error) =>
    let _ ← abandon env claim
    return .error (.store error)
  | .error _ =>
    match ← recoverAuthenticatedCache env claim answers.recached with
    | .ok (some outcome) => return .ok outcome
    | .ok none => abandonThen env claim (.ok .idle)
    | .error error => abandonThen env claim (.error error)

/-- The call of the synthesizer. -/
def callSynthesizer : Run (Except TtsError TtsAudio) :=
  Proc.act fun w =>
    (answers.synthesized, { w with synthesized := w.synthesized ++ [(claim.taskId, claim.generation)] })

def summaryTtsVoice : String := "longanfengyue"

/-- The speech (summary_orchestrator.rs:236-277). -/
def synthesize : Run Outcome := do
  match ← onStore fun db => beginSummaryTtsAttempt env db claim with
  | .error error => return .error (.store error)
  | .ok .ambiguous => abandonThen env claim (.ok .idle)
  | .ok .started =>
    reached .ttsAttemptStarted
    match ← callSynthesizer answers claim with
    | .error .ambiguousAfterCommit => abandonThen env claim (.ok .idle)
    | .error error => abandonThen env claim (.error (.tts error))
    | .ok tts =>
      if tts.voice ≠ summaryTtsVoice then abandonThen env claim (.ok .idle)
      else do
        reached .ttsGenerated
        publish env answers claim

/-- The call of the generator. -/
def callGenerator : Run (Except SparkError SummaryDocument) :=
  Proc.act fun w =>
    (answers.generated, { w with generated := w.generated ++ [(claim.taskId, claim.generation)] })

/-- The document (summary_orchestrator.rs:216-234). -/
def generate : Run Outcome := do
  reached .previousUnreadLoaded
  match ← callGenerator answers claim with
  | .error error => abandonThen env claim (.error (.spark error))
  | .ok summary =>
    match summary.validateExpectedCovers env (expectedCovers claim) with
    | .error error => abandonThen env claim (.error (.summary error))
    | .ok () =>
      reached .sparkGenerated
      synthesize env answers claim

/-- The previous unread summary (summary_orchestrator.rs:204-215). -/
def loadPrevious : Run Outcome :=
  match claim.previousUnread, answers.previous with
  | some _, .error error => abandonThen env claim (.error (.previousCache error))
  | _, _ => generate env answers claim

def executeClaim : Run Outcome := do
  reached .claimAcquired
  match ← recoverAuthenticatedCache env claim answers.cached with
  | .ok (some outcome) => return .ok outcome
  | .error error =>
    let _ ← abandon env claim
    return .error error
  | .ok none =>
    match ← query fun db => summaryTtsAttempt env db claim with
    | .error error => return .error (.store error)
    | .ok (some _) => abandonThen env claim (.ok .idle)
    | .ok none => loadPrevious env answers claim

def run (taskId requestId : String) : Run Outcome := do
  match ← onStore fun db => claimSummary env db taskId requestId with
  | .error error => return .error (.store error)
  | .ok none => return .ok .idle
  | .ok (some (.published _ generation)) => return .ok (.alreadyPublished generation)
  | .ok (some (.claimed claim)) => executeClaim env answers claim

def resume (taskId : String) : Run Outcome := do
  match ← onStore fun db => resumeInterruptedSummary env db taskId with
  | .error error => return .error (.store error)
  | .ok none => return .ok .idle
  | .ok (some claim) => executeClaim env answers claim

end Orchestrator

end CodexKeyboard.Summary
