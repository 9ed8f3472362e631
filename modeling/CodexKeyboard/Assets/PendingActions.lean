import CodexKeyboard.Assets.SessionInvariant
/-!
# A pending action

While an action is pending the session answers every frame without changing, a close cuts the action
off from its route, and what the action borrows stays as it was. Only the completion with its token
and kind ends it.

| here | there |
| --- | --- |
| `Issued` | `begin_pending_action` (speaker_assets_session.cpp:1637) and the lines after each call |
| `Unanswered` | the `StaleCompletion` check of `complete` (1075) |
-/

namespace CodexKeyboard.Assets

open Lib Buffer Reassembly

namespace Session

/-! ## Emitted actions -/

/-- What no frame changes: the binding and the ring of replies. -/
structure Untouched (s t : Session) : Prop where
  routeBound : t.routeBound = s.routeBound
  route : t.route = s.route
  sessionCookie : t.sessionCookie = s.sessionCookie
  progress : t.progress = s.progress
  progressValid : t.progressValid = s.progressValid
  replay : t.replay = s.replay
  nextReplaySlot : t.nextReplaySlot = s.nextReplaySlot

/-- Nor is an action begun. -/
structure Quiet (s t : Session) : Prop extends Untouched s t where
  pending : t.pending = s.pending

theorem Quiet.refl (s : Session) : Quiet s s := ⟨⟨rfl, rfl, rfl, rfl, rfl, rfl, rfl⟩, rfl⟩

/-- A well-formed request of one frame. -/
def SingleFrameRequest (frame : SpeakerAssetsFrame) : Prop :=
  frame.flags = singleFrameRequestFlags ∧ frame.objectOffset = 0 ∧
    match SpeakerAssetsOpcode.ofByte frame.opcode with
    | some .currentActive => frame.sessionCookie = 0 ∧ frame.body = []
    | some .resume =>
      frame.sessionCookie = 0 ∧ frame.body.length = 16 ∧
      transactionIdIsValid (bytesAt frame.body 0 16) = true
    | some .query | some .commit | some .abort => frame.body = []
    | _ => False

/-- What the pending action records of a request of one frame. -/
structure OfSingleFrame (H : Hashes) (frame : SpeakerAssetsFrame) (pending : PendingAction) : Prop where
  shape : SingleFrameRequest frame
  fingerprint : pending.fingerprint = frameFingerprint H frame
  region : pending.region = .manifest
  unitIndex : pending.unitIndex = 0

/-- The session is bound to the route under the frame's cookie. -/
structure BoundTo (s : Session) (route : SpeakerAssetsRouteToken) (frame : SpeakerAssetsFrame) : Prop where
  bound : s.routeBound = true
  route : s.route = route
  cookie : frame.sessionCookie = s.sessionCookie

/-- The request behind an action: `s` is the session the last frame came to, `t` the one it left. -/
inductive Requested (H : Hashes) (s : Session) (route : SpeakerAssetsRouteToken)
    (frame : SpeakerAssetsFrame)
    (view : SpeakerAssetsActionView) (t : Session) : Prop
  | currentActive (hop : SpeakerAssetsOpcode.ofByte frame.opcode = some .currentActive)
    (hkind : view.kind = .queryCurrentActive)
      (hfrom : OfSingleFrame H frame t.pending)
  | resume (hop : SpeakerAssetsOpcode.ofByte frame.opcode = some .resume) (hkind : view.kind = .resumeQuery)
      (hmode : view.queryMode = .resumeOrRebind)
      (hidentity : transactionIdIsValid view.expectedIdentity.transactionId = true)
      (hfrom : OfSingleFrame H frame t.pending)
  | query (hop : SpeakerAssetsOpcode.ofByte frame.opcode = some .query) (hkind : view.kind = .resumeQuery)
      (hmode : view.queryMode = .currentProgress) (hbound : BoundTo s route frame)
      (hidentity : view.expectedIdentity = s.progress.identity) (hfrom : OfSingleFrame H frame t.pending)
  | terminal
      (hkind : SpeakerAssetsOpcode.ofByte frame.opcode = some .commit ∧ view.kind = .commit
        ∨ SpeakerAssetsOpcode.ofByte frame.opcode = some .abort ∧ view.kind = .abort)
      (hbound : BoundTo s route frame) (hidentity : view.expectedIdentity = s.progress.identity)
      (hfrom : OfSingleFrame H frame t.pending)
  | plan
      (hkind : SpeakerAssetsOpcode.ofByte frame.opcode = some .begin ∧ view.kind = .begin
        ∨ SpeakerAssetsOpcode.ofByte frame.opcode = some .recoverInvalidStaging ∧
        view.kind = .discardInvalidStaging)
      (hcookie : frame.sessionCookie = 0) (hplan : view.plan = some t.decodedPlan)
      (hfingerprint : t.pending.fingerprint = planFingerprint H t.decodedPlan)
      (hregion : t.pending.region = .manifest)
      (hindex : t.pending.unitIndex = 0)
  | unit (unit : DataUnit) (hop : SpeakerAssetsOpcode.ofByte frame.opcode = some .data)
      (hkind : view.kind = if unit.region = .manifest then .writeManifest else .writePayloadBlock)
      (hbound : BoundTo s route frame) (hunit : dataUnit s.progress frame = some unit)
      (hidentity : view.expectedIdentity = s.progress.identity) (hactive : t.blockAssembler.active = true)
      (hbytes : view.bytes = t.blockAssembler.data) (hlength : view.length = t.blockAssembler.expectedBytes)
      (hblock : view.blockIndex = unit.unitIndex)
      (hfingerprint : t.pending.fingerprint =
        unitFingerprint H unit.region unit.unitIndex t.blockAssembler.data)
      (hregion : t.pending.region = unit.region) (hindex : t.pending.unitIndex = unit.unitIndex)

/-- The view that was emitted and the pending action it is of. -/
structure Issued (H : Hashes) (s : Session) (route : SpeakerAssetsRouteToken) (frame : SpeakerAssetsFrame)
    (view : SpeakerAssetsActionView) (t : Session) : Prop where
  pending :
    t.pending =
      { active := true, kind := view.kind, route, token := view.token, requestId := frame.requestId,
        requestCookie := frame.sessionCookie, requestOffset := frame.objectOffset, opcode := frame.opcode,
        region := t.pending.region, unitIndex := t.pending.unitIndex, fingerprint := t.pending.fingerprint,
        expectedIdentity := view.expectedIdentity }
  owner : view.route = route
  requestId : view.requestId = frame.requestId
  cookie : view.sessionCookie = frame.sessionCookie
  fresh : ∀ entry ∈ s.replay, sameRequest route frame.sessionCookie frame.requestId entry = false
  request : Requested H s route frame view t

/-- A handler begins no action, or it emits the one it began; the binding and the ring stay. -/
def Issues (H : Hashes) (s : Session) (route : SpeakerAssetsRouteToken) (frame : SpeakerAssetsFrame)
    (handled : Handled) :
    Prop :=
  (Quiet s handled.2 ∧ ∀ view, handled.1 ≠ .action view)
    ∨ ∃ view, handled.1 = .action view ∧ Untouched s handled.2 ∧ Issued H s route frame view handled.2

variable {s t : Session} {H : Hashes} {route : SpeakerAssetsRouteToken} {frame : SpeakerAssetsFrame}

theorem reply_ne_action (reply : SpeakerAssetsFrame) (view : SpeakerAssetsActionView) :
    SpeakerAssetsEmission.reply reply ≠ .action view := by
  intro h
  cases h

theorem none_ne_action (view : SpeakerAssetsActionView) : SpeakerAssetsEmission.none ≠ .action view := by
  intro h
  cases h

theorem issues_reply {reply : SpeakerAssetsFrame} (h : Quiet s t) :
    Issues H s route frame (.reply reply, t) :=
  .inl ⟨h, reply_ne_action reply⟩

theorem issues_answer {status : SpeakerAssetsStatus} {cookie : UInt32} (h : Quiet s t) :
    Issues H s route frame (t.answer frame status cookie) := issues_reply h

theorem issues_missingReply {cookie : UInt32} {cells : Cells UInt8} {base : UInt32}
    {missing totalBitmapBytes : Nat}
    (h : Quiet s t) :
    Issues H s route frame (t.missingReply frame cookie cells base missing totalBitmapBytes) := by
  unfold missingReply
  dsimp only
  split
  · exact issues_answer h
  · exact issues_reply h

theorem fresh_of_miss {cookie requestId : UInt32} {opcode : UInt8} {region : SpeakerAssetsRegion}
    {unitIndex : UInt16}
    {fingerprint : SoundSha256Digest}
    (h : s.lookupReplay route cookie requestId opcode region unitIndex fingerprint = .miss) :
    ∀ entry ∈ s.replay, sameRequest route cookie requestId entry = false := by
  unfold lookupReplay at h
  split at h
  · cases h
  · split at h
    · cases h
    · rename_i hany
      simpa using hany

theorem issues_consumeCurrentActive (hop : SpeakerAssetsOpcode.ofByte frame.opcode = some .currentActive) :
    Issues H s route frame (s.consumeCurrentActive H route frame) := by
  unfold consumeCurrentActive
  split
  · exact issues_answer (.refl s)
  · rename_i hshape
    simp only [not_or, not_not] at hshape
    obtain ⟨hflags, hcookie, hoffset, hbody⟩ := hshape
    dsimp only
    split
    · exact issues_reply (.refl s)
    · exact issues_answer (.refl s)
    · rename_i hmiss
      split
      · exact issues_answer (.refl s)
      · refine .inr ⟨_, rfl, ⟨rfl, rfl, rfl, rfl, rfl, rfl, rfl⟩, ?_⟩
        refine ⟨rfl, rfl, rfl, rfl, ?_, .currentActive hop rfl ⟨?_, rfl, rfl, rfl⟩⟩
        · rw [hcookie]
          exact fresh_of_miss hmiss
        · simp [SingleFrameRequest, hop, hflags, hcookie, hoffset, hbody]

theorem issues_consumeResume (hop : SpeakerAssetsOpcode.ofByte frame.opcode = some .resume) :
    Issues H s route frame (s.consumeResume H route frame) := by
  unfold consumeResume
  split
  · exact issues_answer (.refl s)
  · rename_i hshape
    simp only [not_or, not_not] at hshape
    obtain ⟨hflags, hcookie, hoffset, hbody⟩ := hshape
    dsimp only
    split
    · exact issues_answer (.refl s)
    · rename_i hvalid
      rw [Bool.not_eq_true', Bool.not_eq_false] at hvalid
      split
      · exact issues_reply (.refl s)
      · exact issues_answer (.refl s)
      · rename_i hmiss
        split
        · exact issues_answer (.refl s)
        · refine .inr ⟨_, rfl, ⟨rfl, rfl, rfl, rfl, rfl, rfl, rfl⟩, ?_⟩
          refine ⟨rfl, rfl, rfl, rfl, ?_, .resume hop rfl rfl hvalid ⟨?_, rfl, rfl, rfl⟩⟩
          · rw [hcookie]
            exact fresh_of_miss hmiss
          · simp [SingleFrameRequest, hop, hflags, hcookie, hoffset, hbody, hvalid]

theorem issues_consumeQuery (hop : SpeakerAssetsOpcode.ofByte frame.opcode = some .query) :
    Issues H s route frame (s.consumeQuery H route frame) := by
  unfold consumeQuery
  split
  · exact issues_answer (.refl s)
  · rename_i hshape
    simp only [not_or, not_not] at hshape
    obtain ⟨hflags, hoffset, hbody⟩ := hshape
    dsimp only
    split
    · exact issues_reply (.refl s)
    · exact issues_answer (.refl s)
    · rename_i hmiss
      split
      · exact issues_answer (.refl s)
      · rename_i hguard
        obtain ⟨-, hbound, hroute, hcookie⟩ := Invariant.ready_of_guard hguard
        refine .inr ⟨_, rfl, ⟨rfl, rfl, rfl, rfl, rfl, rfl, rfl⟩, ?_⟩
        refine ⟨rfl, rfl, rfl, rfl, fresh_of_miss hmiss,
          .query hop rfl rfl ⟨hbound, hroute, hcookie⟩ rfl ⟨?_, rfl, rfl, rfl⟩⟩
        simp [SingleFrameRequest, hop, hflags, hoffset, hbody]

theorem issues_consumeTerminalAction {kind : SpeakerAssetsActionKind}
    (hkind : SpeakerAssetsOpcode.ofByte frame.opcode = some .commit ∧ kind = .commit
      ∨ SpeakerAssetsOpcode.ofByte frame.opcode = some .abort ∧ kind = .abort) :
    Issues H s route frame (s.consumeTerminalAction H route frame kind) := by
  unfold consumeTerminalAction
  split
  · exact issues_answer (.refl s)
  · rename_i hshape
    simp only [not_or, not_not] at hshape
    obtain ⟨hflags, hoffset, hbody⟩ := hshape
    dsimp only
    split
    · exact issues_reply (.refl s)
    · exact issues_answer (.refl s)
    · rename_i hmiss
      split
      · exact issues_answer (.refl s)
      · rename_i hguard
        obtain ⟨-, hbound, hroute, hcookie⟩ := Invariant.ready_of_guard hguard
        refine .inr ⟨_, rfl, ⟨rfl, rfl, rfl, rfl, rfl, rfl, rfl⟩, ?_⟩
        refine ⟨rfl, rfl, rfl, rfl, fresh_of_miss hmiss,
          .terminal hkind ⟨hbound, hroute, hcookie⟩ rfl ⟨?_, rfl, rfl, rfl⟩⟩
        rcases hkind with ⟨hop, -⟩ | ⟨hop, -⟩ <;> simp [SingleFrameRequest, hop, hflags, hoffset, hbody]

theorem quiet_openPlanAssembly {kind : SpeakerAssetsActionKind} :
    Quiet s (s.openPlanAssembly route frame kind).2 := by
  unfold openPlanAssembly
  split
  · split
    · exact .refl s
    · split
      · exact .refl s
      · exact ⟨⟨rfl, rfl, rfl, rfl, rfl, rfl, rfl⟩, rfl⟩
  · split
    · exact .refl s
    · split
      · exact .refl s
      · split
        · exact ⟨⟨rfl, rfl, rfl, rfl, rfl, rfl, rfl⟩, rfl⟩
        · exact ⟨⟨rfl, rfl, rfl, rfl, rfl, rfl, rfl⟩, rfl⟩
  · split
    · exact .refl s
    · exact .refl s
  · exact .refl s
  · exact .refl s

theorem issues_finishPlan {kind : SpeakerAssetsActionKind} (hs : Quiet s t)
    (hkind : SpeakerAssetsOpcode.ofByte frame.opcode = some .begin ∧ kind = .begin
      ∨ SpeakerAssetsOpcode.ofByte frame.opcode = some .recoverInvalidStaging ∧
      kind = .discardInvalidStaging)
    (hcookie : frame.sessionCookie = 0) : Issues H s route frame (t.finishPlan H route frame kind) := by
  have hrestored (plan : SoundBundlePlan) :
    Quiet s { t with decodedPlan := plan }.restoreAfterBeginAssembly :=
    ⟨⟨hs.routeBound, hs.route, hs.sessionCookie, hs.progress,
      hs.progressValid, hs.replay, hs.nextReplaySlot⟩, hs.pending⟩
  unfold finishPlan
  split
  · exact issues_answer (hrestored t.decodedPlan)
  · dsimp only
    split
    · exact issues_reply (hrestored _)
    · exact issues_answer (hrestored _)
    · rename_i hmiss
      split
      · exact issues_answer (hrestored _)
      · refine .inr ⟨_, rfl,
          ⟨hs.routeBound, hs.route, hs.sessionCookie, hs.progress,
            hs.progressValid, hs.replay, hs.nextReplaySlot⟩, ?_⟩
        refine ⟨rfl, rfl, rfl, rfl, ?_, .plan hkind hcookie rfl rfl rfl rfl⟩
        have hfresh := fresh_of_miss hmiss
        rwa [hcookie, ← hs.replay]

theorem issues_consumePlanAction {kind : SpeakerAssetsActionKind}
    (hkind : SpeakerAssetsOpcode.ofByte frame.opcode = some .begin ∧ kind = .begin
      ∨ SpeakerAssetsOpcode.ofByte frame.opcode = some .recoverInvalidStaging ∧
      kind = .discardInvalidStaging) :
    Issues H s route frame (s.consumePlanAction H route frame kind) := by
  unfold consumePlanAction
  split
  · exact issues_answer (.refl s)
  · split
    · exact issues_answer (.refl s)
    · rename_i hframe
      have hcookie : frame.sessionCookie = 0 := by
        simp only [planFrameIsValid, Bool.not_not, Bool.or_eq_true, not_or,
          bne_iff_ne, ne_eq, not_not] at hframe
        exact hframe.1.1.1.1.2
      have hopen := @quiet_openPlanAssembly s route frame kind
      split
      · rename_i heq
        rw [heq] at hopen
        exact issues_answer hopen
      · rename_i heq
        rw [heq] at hopen
        unfold feedPlan
        split
        · exact issues_answer hopen
        · have haccepted (assembler : PlanAssembler) : Quiet s (acceptedPlan _ frame assembler) :=
            ⟨⟨hopen.routeBound, hopen.route, hopen.sessionCookie,
              hopen.progress, hopen.progressValid, hopen.replay,
              hopen.nextReplaySlot⟩, hopen.pending⟩
          dsimp only
          split
          · exact issues_missingReply (haccepted _)
          · exact issues_finishPlan (haccepted _) hkind hcookie

theorem quiet_openUnit {unit : DataUnit} : Quiet s (s.openUnit frame unit).2 := by
  unfold openUnit
  split
  · split
    · exact .refl s
    · split
      · exact .refl s
      · exact ⟨⟨rfl, rfl, rfl, rfl, rfl, rfl, rfl⟩, rfl⟩
  · split
    · exact .refl s
    · exact .refl s

theorem issues_finishUnit {unit : DataUnit} (hs : Quiet s t)
    (hop : SpeakerAssetsOpcode.ofByte frame.opcode = some .data)
    (hbound : BoundTo s route frame) (hunit : dataUnit s.progress frame = some unit)
    (hactive : t.blockAssembler.active = true) :
    Issues H s route frame (t.finishUnit H route frame unit) := by
  have hback : Quiet s { t with blockAssembler := {}, phase := .ready } :=
    ⟨⟨hs.routeBound, hs.route, hs.sessionCookie, hs.progress,
      hs.progressValid, hs.replay, hs.nextReplaySlot⟩, hs.pending⟩
  unfold finishUnit
  dsimp only
  split
  · exact issues_reply hback
  · exact issues_answer hback
  · rename_i hmiss
    refine .inr ⟨_, rfl,
      ⟨hs.routeBound, hs.route, hs.sessionCookie, hs.progress,
        hs.progressValid, hs.replay, hs.nextReplaySlot⟩, ?_⟩
    refine ⟨rfl, rfl, rfl, rfl, ?_,
      .unit unit hop rfl hbound hunit (congrArg (·.identity) hs.progress) hactive rfl rfl rfl rfl rfl rfl⟩
    have hfresh := fresh_of_miss hmiss
    rwa [hs.sessionCookie, hs.replay, ← hbound.cookie] at hfresh

theorem issues_consumeData (hop : SpeakerAssetsOpcode.ofByte frame.opcode = some .data) :
    Issues H s route frame (s.consumeData H route frame) := by
  unfold consumeData
  dsimp only
  split
  · exact issues_answer (.refl s)
  · rename_i hguard
    simp only [not_or, not_and_or, not_not, Bool.not_eq_true', Bool.not_eq_false] at hguard
    obtain ⟨-, -, -, hbound, hroute, hcookie, -, -⟩ := hguard
    split
    · exact issues_answer (.refl s)
    · rename_i unit hunit
      split
      · exact issues_answer (.refl s)
      · have hopen := @quiet_openUnit s frame unit
        split
        · rename_i heq
          rw [heq] at hopen
          exact issues_answer hopen
        · rename_i heq
          rw [heq] at hopen
          unfold feedUnit
          split
          · exact issues_answer hopen
          · have haccepted (assembler : BlockAssembler) : Quiet s (acceptedUnit _ frame assembler) :=
              ⟨⟨hopen.routeBound, hopen.route, hopen.sessionCookie,
                hopen.progress, hopen.progressValid, hopen.replay,
                hopen.nextReplaySlot⟩, hopen.pending⟩
            dsimp only
            split
            · exact issues_missingReply (haccepted _)
            · rename_i hcomplete
              refine issues_finishUnit (haccepted _) hop ⟨hbound, hroute, hcookie⟩ hunit ?_
              simp only [BlockAssembler.complete, Bool.not_and, Bool.or_eq_true, Bool.not_eq_true', not_or,
                Bool.not_eq_false] at hcomplete
              exact hcomplete.1.1.1

theorem issues_consume : Issues H s route frame (s.consume H route frame).2 := by
  unfold consume
  split
  · exact .inl ⟨.refl s, none_ne_action⟩
  · split
    · exact issues_answer (.refl s)
    · split
      · unfold consumeCapabilities
        split
        · exact issues_answer (.refl s)
        · exact issues_reply (.refl s)
      · split
        · exact issues_answer (.refl s)
        · unfold dispatch
          dsimp only
          split
          · exact issues_consumePlanAction (.inl ⟨by assumption, rfl⟩)
          · exact issues_consumeResume (by assumption)
          · exact issues_consumeData (by assumption)
          · exact issues_consumeQuery (by assumption)
          · exact issues_consumeTerminalAction (.inl ⟨by assumption, rfl⟩)
          · exact issues_consumeTerminalAction (.inr ⟨by assumption, rfl⟩)
          · exact issues_consumePlanAction (.inr ⟨by assumption, rfl⟩)
          · exact issues_consumeCurrentActive (by assumption)
          · exact issues_answer (.refl s)
          · exact issues_answer (.refl s)

/-- The action a frame emits. -/
theorem issued_of_consume {view : SpeakerAssetsActionView}
    (h : (s.consume H route frame).2.1 = .action view) :
    Untouched s (s.consume H route frame).2.2 ∧
    Issued H s route frame view (s.consume H route frame).2.2 := by
  rcases @issues_consume s H route frame with ⟨-, hnone⟩ | ⟨view', heq, huntouched, hissued⟩
  · exact absurd h (hnone view)
  · rw [h] at heq
    cases heq
    exact ⟨huntouched, hissued⟩

namespace Issued

variable {view : SpeakerAssetsActionView}

theorem active (h : Issued H s route frame view t) : t.pending.active = true := by rw [h.pending]

theorem live (h : Issued H s route frame view t) : t.pending.orphaned = false := by rw [h.pending]

theorem token (h : Issued H s route frame view t) : t.pending.token = view.token := by rw [h.pending]

theorem kind (h : Issued H s route frame view t) : t.pending.kind = view.kind := by rw [h.pending]

/-- A view of a plan or of bytes holds what the session has at the call. -/
theorem plan (h : Issued H s route frame view t)
    (hkind : view.kind = .begin ∨ view.kind = .discardInvalidStaging) :
    view.plan = some t.decodedPlan := by
  cases h.request with
  | plan _ _ hplan => exact hplan
  | unit _ _ hother =>
    rw [hother] at hkind
    split at hkind <;> simp at hkind
  | terminal hother => rcases hother with ⟨-, hother⟩ | ⟨-, hother⟩ <;> simp [hother] at hkind
  | currentActive _ hother | resume _ hother | query _ hother => simp [hother] at hkind

theorem bytes (h : Issued H s route frame view t)
    (hkind : view.kind = .writeManifest ∨ view.kind = .writePayloadBlock) :
    t.blockAssembler.active = true ∧ view.bytes = t.blockAssembler.data := by
  cases h.request with
  | unit _ _ _ _ _ _ hactive hbytes => exact ⟨hactive, hbytes⟩
  | terminal hother | plan hother => rcases hother with ⟨-, hother⟩ | ⟨-, hother⟩ <;> simp [hother] at hkind
  | currentActive _ hother | resume _ hother | query _ hother => simp [hother] at hkind

end Issued

/-! ## While an action is pending -/

/-- The completion of the pending action, with any result. -/
def Answers (completion : SpeakerAssetsActionCompletion) (pending : PendingAction) : Prop :=
  completion.token = pending.token ∧ completion.kind = pending.kind

/-- No event of the run is the completion of the pending action. -/
def Unanswered (pending : PendingAction) (events : List SessionEvent) : Prop :=
  ∀ completion, .complete completion ∈ events → ¬ Answers completion pending

/-- What an event that is not its completion leaves of a pending action. -/
structure Held (s t : Session) : Prop where
  pending : t.pending = { s.pending with orphaned := t.pending.orphaned }
  orphaned : s.pending.orphaned = true → t.pending.orphaned = true
  plan : t.decodedPlan = s.decodedPlan
  bytes : PendingAction.borrowsBytes s.pending = true → t.blockAssembler = s.blockAssembler

theorem Held.refl (s : Session) : Held s s := ⟨rfl, id, rfl, fun _ => rfl⟩

theorem Held.trans {s t u : Session} (h : Held s t) (h' : Held t u) : Held s u where
  pending := by rw [h'.pending, h.pending]
  orphaned horphan := h'.orphaned (h.orphaned horphan)
  plan := h'.plan.trans h.plan
  bytes hborrows := by
    refine (h'.bytes ?_).trans (h.bytes hborrows)
    rw [h.pending]
    exact hborrows

theorem Held.active {s t : Session} (h : Held s t) (hactive : s.pending.active = true) :
    t.pending.active = true := by
  rw [h.pending]
  exact hactive

theorem Held.answers {s t : Session} (h : Held s t) {completion : SpeakerAssetsActionCompletion} :
    Answers completion t.pending ↔ Answers completion s.pending := by
  rw [h.pending]
  rfl

/-- A refusal, or the answer to a capabilities request: replies that no action is behind. -/
def IsBusyReply (frame reply : SpeakerAssetsFrame) : Prop :=
  (∃ status cookie, (status = .busy ∨ status = .badRequest) ∧ reply = statusReply frame status cookie)
    ∨ reply = capabilitiesReply frame

/-- While an action is pending a frame changes nothing, and no reply is the action's. -/
theorem consume_pending (hphase : s.phase = .actionPending) :
    (s.consume H route frame).2.2 = s
      ∧ ((s.consume H route frame).2.1 = .none ∨ ∃ reply, IsBusyReply frame reply ∧
        (s.consume H route frame).2.1 = .reply reply) := by
  have hanswer (status : SpeakerAssetsStatus) (cookie : UInt32)
    (h : status = .busy ∨ status = .badRequest) :
      (s.answer frame status cookie).2 = s
        ∧ ((s.answer frame status cookie).1 = .none
          ∨ ∃ reply, IsBusyReply frame reply ∧ (s.answer frame status cookie).1 = .reply reply) :=
    ⟨rfl, .inr ⟨_, .inl ⟨status, cookie, h, rfl⟩, rfl⟩⟩
  unfold consume
  split
  · exact ⟨rfl, .inl rfl⟩
  · split
    · exact hanswer _ _ (.inr rfl)
    · split
      · unfold consumeCapabilities
        split
        · exact hanswer _ _ (.inr rfl)
        · exact ⟨rfl, .inr ⟨_, .inr rfl, rfl⟩⟩
      · exact hanswer _ _ (.inl rfl)

/-- A completion of another action, or of none, changes nothing. -/
theorem complete_stale {completion : SpeakerAssetsActionCompletion}
    (h : s.pending.active = true → ¬ Answers completion s.pending) :
    (s.complete completion).2 = (.none, s) := by
  unfold complete
  split
  · rfl
  · rename_i hactive
    rw [if_pos]
    have := h (by simpa using hactive)
    rwa [Answers, not_and_or] at this

/-- The completion of an orphaned action: no reply, nothing bound. -/
theorem complete_orphaned {completion : SpeakerAssetsActionCompletion} (hactive : s.pending.active = true)
    (horphan : s.pending.orphaned = true) (h : Answers completion s.pending) :
    s.complete completion = (.ok, .none, s.clearPendingAction.reset) := by
  unfold complete
  rw [if_neg (by simp [hactive]), if_neg (by simp [h.1, h.2])]
  exact if_pos horphan

/-- A close of another route leaves the pending action; a close of its own route orphans it. -/
theorem held_routeClosed (hs : s.Invariant) (hphase : s.phase = .actionPending) :
    Held s (s.routeClosed route) ∧
    (s.pending.route = route → (s.routeClosed route).pending.orphaned = true) := by
  have hactive := hs.pending_iff.mpr hphase
  have hs' := hs.clearReplayForRoute route
  by_cases hroute : s.pending.route = route
  · have howns :
      ((s.clearReplayForRoute route).pending.active &&
      (s.clearReplayForRoute route).pending.route == route) = true := by
      simp [clearReplayForRoute, hactive, hroute]
    unfold routeClosed
    dsimp only
    rw [if_neg (by simp [howns]), if_pos howns]
    split
    · exact ⟨⟨rfl, fun _ => rfl, rfl, fun _ => rfl⟩, fun _ => rfl⟩
    · exact ⟨⟨rfl, fun _ => rfl, rfl, fun _ => rfl⟩, fun _ => rfl⟩
  · obtain ⟨hbinding, hplan⟩ := hs'.not_owned hphase hroute
    unfold routeClosed
    dsimp only
    rw [hbinding, hplan, if_pos (by simp [clearReplayForRoute, hroute])]
    exact ⟨⟨rfl, id, rfl, fun _ => rfl⟩, fun h => absurd h hroute⟩

theorem held_allRoutesClosed (hphase : s.pending.active = true) :
    Held s s.allRoutesClosed ∧ s.allRoutesClosed.pending.orphaned = true := by
  unfold allRoutesClosed
  dsimp only
  rw [if_pos hphase]
  split
  · exact ⟨⟨rfl, fun _ => rfl, rfl, fun _ => rfl⟩, rfl⟩
  · rename_i hborrows
    exact ⟨⟨rfl, fun _ => rfl, rfl, fun h => absurd h hborrows⟩, rfl⟩

theorem held_step (hs : s.Invariant) (hactive : s.pending.active = true) (event : SessionEvent)
    (hother : ∀ completion, event = .complete completion → ¬ Answers completion s.pending) :
    Held s (s.step H event).2 := by
  have hphase := hs.pending_iff.mp hactive
  cases event with
  | consume route frame =>
    have hsame : (s.step H (.consume route frame)).2 = s := (consume_pending hphase).1
    rw [hsame]
    exact .refl s
  | complete completion =>
    have hsame : (s.step H (.complete completion)).2 = s :=
      congrArg Prod.snd (complete_stale fun _ => hother completion rfl)
    rw [hsame]
    exact .refl s
  | routeClosed route => exact (held_routeClosed hs hphase).1
  | allRoutesClosed => exact (held_allRoutesClosed hactive).1
  | expirePartial route =>
    have hsame : (s.step H (.expirePartial route)).2 = s := by
      simp [step, expirePartial, hphase]
    rw [hsame]
    exact .refl s

/-- Whatever arrives before its completion, a pending action and what it borrows stay. -/
theorem held_after (hs : s.Invariant) (hactive : s.pending.active = true) (events : List SessionEvent)
    (hother : Unanswered s.pending events) : Held s (after (step H) s events) := by
  induction events generalizing s with
  | nil => exact .refl s
  | cons event events ih =>
    have hstep := held_step (H := H) hs hactive event fun completion heq =>
      hother completion (heq ▸ .head _)
    refine hstep.trans (ih (hs.step H event) (hstep.active hactive) fun completion hmem hanswers => ?_)
    exact hother completion (.tail _ hmem) (hstep.answers.mp hanswers)

/-- A close of its route, or of all, orphans the pending action. -/
theorem step_closesPending (hs : s.Invariant) (hactive : s.pending.active = true) {event : SessionEvent}
    (hcloses : event = .routeClosed s.pending.route ∨ event = .allRoutesClosed) :
    Held s (s.step H event).2 ∧ (s.step H event).2.pending.orphaned = true := by
  have hphase := hs.pending_iff.mp hactive
  rcases hcloses with rfl | rfl
  · exact ⟨(held_routeClosed hs hphase).1, (held_routeClosed hs hphase).2 rfl⟩
  · exact held_allRoutesClosed hactive

/-- What a call answers while an action is pending that it does not complete: nothing, or a refusal
of its own frame. -/
theorem answer_pending (hs : s.Invariant) (hactive : s.pending.active = true) (event : SessionEvent)
    (hother : ∀ completion, event = .complete completion → ¬ Answers completion s.pending) :
    (s.step H event).1.2 = .none
      ∨ ∃ route frame reply, event = .consume route frame ∧ IsBusyReply frame reply ∧
      (s.step H event).1.2 = .reply reply := by
  cases event with
  | consume route frame =>
    rcases (@consume_pending _ H route frame (hs.pending_iff.mp hactive)).2 with h | ⟨reply, h, hreply⟩
    · exact .inl h
    · exact .inr ⟨route, frame, reply, rfl, h, hreply⟩
  | complete completion =>
    exact .inl (congrArg Prod.fst (complete_stale fun _ => hother completion rfl))
  | routeClosed route => exact .inl rfl
  | allRoutesClosed => exact .inl rfl
  | expirePartial route => exact .inl rfl

/-- The session's phases over every run: what each has bound, which completions count, what becomes
of an action whose route was closed, and that a pending action keeps the plan or the bytes its view
was emitted with. -/
theorem session_state_machine (H : Hashes) (cookieSeed actionTokenSeed : UInt32)
    (events : List SessionEvent) :
    let s := after (step H) (Session.new cookieSeed actionTokenSeed) events
    (s.phase = .actionPending ↔ s.pending.active = true)
    ∧ (s.phase = .ready ∨ s.phase = .unitAssembly → s.routeBound = true ∧
      s.progressValid = true ∧ s.sessionCookie ≠ 0)
    ∧ (s.phase = .idle → s.routeBound = false ∧ s.planAssembler.bound = false)
    ∧ (∀ completion, (s.pending.active = true → ¬ Answers completion s.pending) →
      (s.complete completion).2 = (.none, s))
    ∧ (∀ close later, s.pending.active = true →
      (close = .routeClosed s.pending.route ∨ close = .allRoutesClosed) →
        Unanswered s.pending later →
        let t := after (step H) s (close :: later)
        t.pending = { s.pending with orphaned := true } ∧ t.routeBound = false
        ∧ (∀ event, (∀ completion, event = .complete completion → ¬ Answers completion s.pending) →
            (t.step H event).1.2 = .none ∨
              ∃ route frame reply, event = .consume route frame ∧ IsBusyReply frame reply
                ∧ (t.step H event).1.2 = .reply reply)
        ∧ ∀ completion, Answers completion s.pending →
            ∃ t', t.complete completion = (.ok, .none, t') ∧ t'.phase = .idle ∧ t'.routeBound = false)
    ∧ ∀ route frame view, (s.consume H route frame).2.1 = .action view →
        let s' := (s.consume H route frame).2.2
        ∀ later, Unanswered s'.pending later →
          let t := after (step H) s' later
          t.pending.active = true ∧ t.pending.token = view.token ∧ t.pending.kind = view.kind
          ∧ (view.kind = .begin ∨ view.kind = .discardInvalidStaging → view.plan = some t.decodedPlan)
          ∧ (view.kind = .writeManifest ∨ view.kind = .writePayloadBlock →
              t.blockAssembler.active = true ∧ view.bytes = t.blockAssembler.data) := by
  intro s
  have hs : s.Invariant := (invariant_new cookieSeed actionTokenSeed).after H events
  refine ⟨hs.pending_iff.symm, fun hphase => ?_, fun hphase => ⟨hs.idle hphase, ?_⟩,
    fun completion h => complete_stale h,
    ?_, ?_⟩
  · have hbound := hs.bound hphase
    exact ⟨hbound, (hs.binding hbound).1, (hs.binding hbound).2.1⟩
  · rw [hs.plan_fresh (by simp [hphase])]
  · intro close later hactive hcloses hlater t
    obtain ⟨hclosed, horphan⟩ := step_closesPending (H := H) hs hactive hcloses
    have hs1 := hs.step H close
    have hlater' : Unanswered (s.step H close).2.pending later := fun completion hmem hanswers =>
      hlater completion hmem (hclosed.answers.mp hanswers)
    have hheld : Held (s.step H close).2 t := held_after hs1 (hclosed.active hactive) later hlater'
    have hall := hclosed.trans hheld
    have ht : t.Invariant := hs1.after H later
    have hactive' := hall.active hactive
    have horphan' := hheld.orphaned horphan
    refine ⟨by rw [hall.pending, horphan'],
      ht.orphan (ht.pending_iff.mp hactive') horphan', fun event hother => ?_,
      fun completion hanswers => ?_⟩
    · exact answer_pending ht hactive' event fun completion heq hanswers =>
        hother completion heq (hall.answers.mp hanswers)
    · exact ⟨_, complete_orphaned hactive' horphan' (hall.answers.mpr hanswers), rfl, rfl⟩
  · intro route frame view hview s' later hlater t
    have hissued : Issued H s route frame view s' := (issued_of_consume hview).2
    have hheld : Held s' t := held_after (hs.consume H route frame) hissued.active later hlater
    refine ⟨hheld.active hissued.active, ?_, ?_, fun hkind => ?_, fun hkind => ?_⟩
    · rw [hheld.pending]
      exact hissued.token
    · rw [hheld.pending]
      exact hissued.kind
    · rw [hheld.plan]
      exact hissued.plan hkind
    · rw [hheld.bytes (by simpa [PendingAction.borrowsBytes, hissued.kind] using hkind)]
      exact hissued.bytes hkind

end Session

end CodexKeyboard.Assets
