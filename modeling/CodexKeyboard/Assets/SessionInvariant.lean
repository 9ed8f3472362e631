import CodexKeyboard.Assets.Session
import CodexKeyboard.Lib.Run
/-!
# The phases of the session

`Invariant` says what each phase means: which phases have a binding, an open plan or a pending
action. Every handler keeps it, so every run does.

| here | there |
| --- | --- |
| `SessionEvent` | the public member functions (speaker_assets_session.h) |
| `SpeakerAssetsActionKind.bound` | the kinds begun from `Ready` (speaker_assets_session.cpp:891-1062) |
-/

namespace CodexKeyboard.Assets

open Lib Buffer Reassembly

namespace Session

/-- Whether the request came from the bound route: the kinds that only `Ready` starts. A resume has
cookie 0. -/
def PendingAction.needsBinding (pending : PendingAction) : Bool :=
  match pending.kind with
  | .begin | .discardInvalidStaging | .queryCurrentActive => false
  | .resumeQuery => pending.requestCookie != 0
  | .writeManifest | .writePayloadBlock | .commit | .abort => true

/-- What the phases mean. -/
structure Invariant (s : Session) : Prop where
  binding : s.routeBound = true → s.progressValid = true ∧ s.sessionCookie ≠ 0 ∧
    progressIsWellFormed s.progress = true
  pending_iff : s.pending.active = true ↔ s.phase = .actionPending
  plan_open : s.phase = .beginAssembly → s.planAssembler.bound = true
  plan_fresh : s.phase ≠ .beginAssembly → s.planAssembler = {}
  idle : s.phase = .idle → s.routeBound = false
  bound : s.phase = .ready ∨ s.phase = .unitAssembly → s.routeBound = true
  assembling : s.phase = .beginAssembly →
    s.beginReplayFromReady = s.routeBound ∧ (s.routeBound = true → s.planAssembler.owner = s.route)
  live : s.phase = .actionPending → s.pending.orphaned = false →
    s.routeBound = PendingAction.needsBinding s.pending ∧ (s.routeBound = true → s.route = s.pending.route)
  orphan : s.phase = .actionPending → s.pending.orphaned = true → s.routeBound = false

theorem invariant_new (cookieSeed actionTokenSeed : UInt32) :
    (Session.new cookieSeed actionTokenSeed).Invariant := by
  constructor <;> simp [Session.new]

/-- The counters skip zero. -/
theorem issue_ne_zero (next : UInt32) : (issue next).1 ≠ 0 := by
  unfold issue
  split
  · decide
  · assumption

namespace Invariant

variable {s : Session}

theorem pending_inactive (h : s.Invariant) (hphase : s.phase ≠ .actionPending) : s.pending.active = false :=
  Bool.eq_false_iff.mpr fun hactive => hphase (h.pending_iff.mp hactive)

/-- Nothing bound, nothing open, nothing pending. -/
theorem of_idle (hphase : s.phase = .idle) (hbound : s.routeBound = false) (hplan : s.planAssembler = {})
    (hpending : s.pending.active = false) : s.Invariant where
  binding h := by rw [hbound] at h; cases h
  pending_iff := by simp [hphase, hpending]
  plan_open h := by rw [hphase] at h; cases h
  plan_fresh _ := hplan
  idle _ := hbound
  bound h := by rw [hphase] at h; rcases h with h | h <;> cases h
  assembling h := by rw [hphase] at h; cases h
  live h := by rw [hphase] at h; cases h
  orphan h := by rw [hphase] at h; cases h

/-- A binding, with or without an open unit. -/
theorem of_bound (hphase : s.phase = .ready ∨ s.phase = .unitAssembly) (hbound : s.routeBound = true)
    (hbinding : s.progressValid = true ∧ s.sessionCookie ≠ 0 ∧ progressIsWellFormed s.progress = true)
    (hplan : s.planAssembler = {}) (hpending : s.pending.active = false) : s.Invariant where
  binding _ := hbinding
  pending_iff := by rcases hphase with hphase | hphase <;> simp [hphase, hpending]
  plan_open h := by rcases hphase with hphase | hphase <;> rw [hphase] at h <;> cases h
  plan_fresh _ := hplan
  idle h := by rcases hphase with hphase | hphase <;> rw [hphase] at h <;> cases h
  bound _ := hbound
  assembling h := by rcases hphase with hphase | hphase <;> rw [hphase] at h <;> cases h
  live h := by rcases hphase with hphase | hphase <;> rw [hphase] at h <;> cases h
  orphan h := by rcases hphase with hphase | hphase <;> rw [hphase] at h <;> cases h

/-- A plan under assembly, over a binding or over none. -/
theorem of_assembling (hphase : s.phase = .beginAssembly)
    (hbinding : s.routeBound = true → s.progressValid = true ∧ s.sessionCookie ≠ 0 ∧
      progressIsWellFormed s.progress = true)
    (hplan : s.planAssembler.bound = true) (hfrom : s.beginReplayFromReady = s.routeBound)
    (howner : s.routeBound = true → s.planAssembler.owner = s.route) (hpending : s.pending.active = false) :
    s.Invariant where
  binding := hbinding
  pending_iff := by simp [hphase, hpending]
  plan_open _ := hplan
  plan_fresh h := absurd hphase h
  idle h := by rw [hphase] at h; cases h
  bound h := by rw [hphase] at h; rcases h with h | h <;> cases h
  assembling _ := ⟨hfrom, howner⟩
  live h := by rw [hphase] at h; cases h
  orphan h := by rw [hphase] at h; cases h

/-- An action begun for a route, which the binding, if any, is of. -/
theorem of_pending (hphase : s.phase = .actionPending) (hpending : s.pending.active = true)
    (hbinding : s.routeBound = true → s.progressValid = true ∧ s.sessionCookie ≠ 0 ∧
      progressIsWellFormed s.progress = true)
    (hplan : s.planAssembler = {})
    (hlive : s.pending.orphaned = false →
      s.routeBound = PendingAction.needsBinding s.pending ∧
      (s.routeBound = true → s.route = s.pending.route))
    (horphan : s.pending.orphaned = true → s.routeBound = false) : s.Invariant where
  binding := hbinding
  pending_iff := by simp [hphase, hpending]
  plan_open h := by rw [hphase] at h; cases h
  plan_fresh _ := hplan
  idle h := by rw [hphase] at h; cases h
  bound h := by rw [hphase] at h; rcases h with h | h <;> cases h
  assembling h := by rw [hphase] at h; cases h
  live _ := hlive
  orphan _ := horphan

theorem restoreAfterBeginAssembly (h : s.Invariant) (hphase : s.phase = .beginAssembly) :
    s.restoreAfterBeginAssembly.Invariant := by
  have hpending := h.pending_inactive (by simp [hphase])
  have hfrom := (h.assembling hphase).1
  cases hbound : s.routeBound with
  | true =>
    refine of_bound (.inl ?_) hbound (h.binding hbound) rfl hpending
    simp [Session.restoreAfterBeginAssembly, hfrom, hbound]
  | false =>
    refine of_idle ?_ hbound rfl hpending
    simp [Session.restoreAfterBeginAssembly, hbound]

/-! ## Single frames -/

/-- An action for a request without a binding, from `Idle`. -/
theorem begin_unbound (h : s.Invariant) (hphase : s.phase = .idle) {kind : SpeakerAssetsActionKind}
    {route : SpeakerAssetsRouteToken} {request : SpeakerAssetsFrame} {unitIndex : UInt16}
    {fingerprint : SoundSha256Digest}
    (hkind : PendingAction.needsBinding { kind, requestCookie := request.sessionCookie } = false)
    (identity : SoundUpdateIdentity) :
    Invariant
      { (s.beginPendingAction kind route request .manifest unitIndex fingerprint).2 with
        pending :=
          { (s.beginPendingAction kind route request .manifest unitIndex fingerprint).2.pending with
            expectedIdentity := identity } } := by
  have hbound := h.idle hphase
  refine of_pending rfl rfl h.binding (h.plan_fresh (by simp [hphase])) (fun _ => ?_) (fun _ => hbound)
  exact ⟨hbound.trans hkind.symm, fun hb => absurd hb (by simp [beginPendingAction, hbound])⟩

/-- An action of the bound route. -/
theorem begin_bound (h : s.Invariant) (hphase : s.phase ≠ .beginAssembly) (hbound : s.routeBound = true)
    {route : SpeakerAssetsRouteToken} (hroute : s.route = route) {kind : SpeakerAssetsActionKind}
    {request : SpeakerAssetsFrame} {region : SpeakerAssetsRegion} {unitIndex : UInt16}
    {fingerprint : SoundSha256Digest}
    (hkind : PendingAction.needsBinding { kind, requestCookie := request.sessionCookie } = true)
    (identity : SoundUpdateIdentity) :
    Invariant
      { (s.beginPendingAction kind route request region unitIndex fingerprint).2 with
        pending :=
          { (s.beginPendingAction kind route request region unitIndex fingerprint).2.pending with
            expectedIdentity := identity } } :=
  of_pending rfl rfl h.binding (h.plan_fresh hphase) (fun _ => ⟨hbound.trans hkind.symm, fun _ => hroute⟩)
    (fun horphan => absurd horphan (by simp [beginPendingAction]))

variable (H : Hashes)

theorem consumeCapabilities (h : s.Invariant) (frame : SpeakerAssetsFrame) :
    (s.consumeCapabilities frame).2.Invariant := by
  unfold Session.consumeCapabilities
  split
  · exact h
  · exact h

theorem consumeCurrentActive (h : s.Invariant) (route : SpeakerAssetsRouteToken)
    (frame : SpeakerAssetsFrame) :
    (s.consumeCurrentActive H route frame).2.Invariant := by
  unfold Session.consumeCurrentActive
  split
  · exact h
  · dsimp only
    split
    · exact h
    · exact h
    · split
      · exact h
      · rename_i hidle
        have hphase : s.phase = .idle := by
          by_contra hphase
          exact hidle (.inl hphase)
        exact h.begin_unbound hphase rfl {}

theorem consumeResume (h : s.Invariant) (route : SpeakerAssetsRouteToken) (frame : SpeakerAssetsFrame) :
    (s.consumeResume H route frame).2.Invariant := by
  unfold Session.consumeResume
  split
  · exact h
  · rename_i hshape
    have hcookie : frame.sessionCookie = 0 := by
      by_contra hcookie
      exact hshape (.inr (.inl hcookie))
    dsimp only
    split
    · exact h
    · split
      · exact h
      · exact h
      · split
        · exact h
        · rename_i hidle
          exact h.begin_unbound (not_not.mp hidle) (by simp [PendingAction.needsBinding, hcookie]) _

/-- The guard of the requests that only the bound route may make. -/
theorem ready_of_guard {route : SpeakerAssetsRouteToken} {cookie : UInt32}
    (hguard : ¬(s.phase ≠ .ready ∨ (!s.routeBound) = true ∨ s.route ≠ route ∨ cookie ≠ s.sessionCookie)) :
    s.phase = .ready ∧ s.routeBound = true ∧ s.route = route ∧ cookie = s.sessionCookie := by
  simpa [not_or] using hguard

theorem consumeQuery (h : s.Invariant) (route : SpeakerAssetsRouteToken) (frame : SpeakerAssetsFrame) :
    (s.consumeQuery H route frame).2.Invariant := by
  unfold Session.consumeQuery
  split
  · exact h
  · dsimp only
    split
    · exact h
    · exact h
    · split
      · exact h
      · rename_i hguard
        obtain ⟨hphase, hbound, hroute, hcookie⟩ := ready_of_guard hguard
        refine h.begin_bound (by simp [hphase]) hbound hroute ?_ _
        simpa [PendingAction.needsBinding, hcookie] using (h.binding hbound).2.1

theorem consumeTerminalAction (h : s.Invariant) (route : SpeakerAssetsRouteToken)
    (frame : SpeakerAssetsFrame)
    {kind : SpeakerAssetsActionKind} (hkind : kind = .commit ∨ kind = .abort) :
    (s.consumeTerminalAction H route frame kind).2.Invariant := by
  unfold Session.consumeTerminalAction
  split
  · exact h
  · dsimp only
    split
    · exact h
    · exact h
    · split
      · exact h
      · rename_i hguard
        obtain ⟨hphase, hbound, hroute, hcookie⟩ := ready_of_guard hguard
        refine h.begin_bound (by simp [hphase]) hbound hroute ?_ _
        rcases hkind with rfl | rfl <;> rfl

/-! ## Plans -/

theorem of_begin_ok {assembler assembler' : PlanAssembler} {owner : SpeakerAssetsRouteToken}
    {beginId : UInt32}
    (h : assembler.begin owner beginId = .ok assembler') :
    assembler'.bound = true ∧ assembler'.owner = owner := by
  unfold PlanAssembler.begin at h
  split at h
  · cases h
  · split at h
    · rename_i hbound
      split at h
      · rename_i hsame
        cases h
        exact ⟨hbound, hsame.1⟩
      · cases h
    · cases h
      exact ⟨rfl, rfl⟩

theorem of_acceptFragment_ok {assembler assembler' : PlanAssembler} {owner : SpeakerAssetsRouteToken}
    {beginId : UInt32}
    {offset : UInt16} {data : List UInt8}
    (h : assembler.acceptFragment owner beginId offset data = .ok assembler') :
    assembler'.bound = true ∧ assembler'.owner = assembler.owner ∧ assembler.owner = owner ∧
    assembler.beginId = beginId := by
  unfold PlanAssembler.acceptFragment at h
  split at h
  · cases h
  · rename_i hguard
    simp only [not_or, Bool.not_eq_false, not_not] at hguard
    split at h
    · cases h
    · split at h
      · cases h
      · obtain ⟨cells, -, h⟩ := bind_eq_ok.mp h
        cases h
        exact ⟨hguard.1, rfl, hguard.2⟩

theorem openPlanAssembly (h : s.Invariant) (route : SpeakerAssetsRouteToken) (frame : SpeakerAssetsFrame)
    (kind : SpeakerAssetsActionKind) :
    (s.openPlanAssembly route frame kind).2.Invariant
      ∧ ((s.openPlanAssembly route frame kind).1 = none →
        (s.openPlanAssembly route frame kind).2.phase = .beginAssembly) := by
  unfold Session.openPlanAssembly
  split
  · rename_i hphase
    have hpending := h.pending_inactive (by simp [hphase])
    have hbound := h.idle hphase
    split
    · exact ⟨h, nofun⟩
    · split
      · exact ⟨h, nofun⟩
      · rename_i assembler hbegin
        refine ⟨of_assembling rfl h.binding (of_begin_ok hbegin).1 hbound.symm
          (fun hb => ?_) hpending, fun _ => rfl⟩
        exact absurd hb (by simp [hbound])
  · rename_i hphase
    have hpending := h.pending_inactive (by simp [hphase])
    have hbound := h.bound (.inl hphase)
    split
    · exact ⟨h, nofun⟩
    · split
      · exact ⟨h, nofun⟩
      · rename_i hroute
        split
        · exact ⟨of_bound (.inl hphase) hbound (h.binding hbound) rfl hpending, nofun⟩
        · rename_i assembler hbegin
          refine ⟨of_assembling rfl h.binding (of_begin_ok hbegin).1 hbound.symm
            (fun _ => ?_) hpending, fun _ => rfl⟩
          rw [(of_begin_ok hbegin).2]
          simp only [Bool.or_eq_true, not_or, bne_iff_ne, ne_eq, not_not] at hroute
          exact hroute.1.2.symm
  · split
    · exact ⟨h, nofun⟩
    · exact ⟨h, fun _ => by assumption⟩
  · exact ⟨h, nofun⟩
  · exact ⟨h, nofun⟩

theorem acceptedPlan (h : s.Invariant) (hphase : s.phase = .beginAssembly) (frame : SpeakerAssetsFrame)
    {assembler : PlanAssembler} (hbound : assembler.bound = true)
    (howner : assembler.owner = s.planAssembler.owner) :
    (s.acceptedPlan frame assembler).Invariant :=
  of_assembling hphase h.binding hbound (h.assembling hphase).1 (fun hb =>
    howner.trans ((h.assembling hphase).2 hb))
    (h.pending_inactive (by simp [hphase]))

theorem missingReply (h : s.Invariant) (frame : SpeakerAssetsFrame) (cookie : UInt32)
    (cells : Cells UInt8) (base : UInt32)
    (missing totalBitmapBytes : Nat) :
    (s.missingReply frame cookie cells base missing totalBitmapBytes).2.Invariant := by
  unfold Session.missingReply
  dsimp only
  split
  · exact h
  · exact h

theorem withDecodedPlan (h : s.Invariant) (plan : SoundBundlePlan) :
    { s with decodedPlan := plan }.Invariant :=
  ⟨h.binding, h.pending_iff, h.plan_open, h.plan_fresh, h.idle, h.bound, h.assembling, h.live, h.orphan⟩

theorem finishPlan (h : s.Invariant) (hphase : s.phase = .beginAssembly) (route : SpeakerAssetsRouteToken)
    (frame : SpeakerAssetsFrame) {kind : SpeakerAssetsActionKind} (hkind : kind = .begin ∨
      kind = .discardInvalidStaging) :
    (s.finishPlan H route frame kind).2.Invariant := by
  unfold Session.finishPlan
  split
  · exact h.restoreAfterBeginAssembly hphase
  · rename_i plan _
    have h' := h.withDecodedPlan plan
    dsimp only
    split
    · exact h'.restoreAfterBeginAssembly hphase
    · exact h'.restoreAfterBeginAssembly hphase
    · split
      · exact h'.restoreAfterBeginAssembly hphase
      · rename_i hfrom
        have hbound : s.routeBound = false := by
          rw [← (h.assembling hphase).1]
          exact Bool.eq_false_iff.mpr hfrom
        refine of_pending rfl rfl h'.binding rfl (fun _ => ⟨?_, fun hb => ?_⟩) (fun _ => hbound)
        · rcases hkind with rfl | rfl <;> exact hbound
        · exact absurd hb (by simp [beginPendingAction, hbound])

theorem feedPlan (h : s.Invariant) (hphase : s.phase = .beginAssembly) (route : SpeakerAssetsRouteToken)
    (frame : SpeakerAssetsFrame) {kind : SpeakerAssetsActionKind} (hkind : kind = .begin ∨
      kind = .discardInvalidStaging) :
    (s.feedPlan H route frame kind).2.Invariant := by
  unfold Session.feedPlan
  split
  · exact h
  · rename_i assembler haccept
    obtain ⟨hbound, howner, -⟩ := of_acceptFragment_ok haccept
    have h' := h.acceptedPlan hphase frame hbound howner
    dsimp only
    split
    · exact h'.missingReply ..
    · exact h'.finishPlan H hphase route frame hkind

theorem consumePlanAction (h : s.Invariant) (route : SpeakerAssetsRouteToken) (frame : SpeakerAssetsFrame)
    (kind : SpeakerAssetsActionKind) : (s.consumePlanAction H route frame kind).2.Invariant := by
  unfold Session.consumePlanAction
  split
  · exact h
  · rename_i hkind
    rw [not_and_or, not_not, not_not] at hkind
    split
    · exact h
    · obtain ⟨hopen, hphase⟩ := h.openPlanAssembly route frame kind
      split
      · rename_i s' heq
        rw [heq] at hopen
        exact hopen
      · rename_i s' heq
        rw [heq] at hopen hphase
        exact hopen.feedPlan H (hphase rfl) route frame hkind

/-! ## Units -/

/-- Whatever the block assembler and the record of the open unit are, `Ready` and `UnitAssembly`
hold the same. -/
theorem toBound (h : s.Invariant) (hphase : s.phase = .ready ∨ s.phase = .unitAssembly) {t : Session}
    (ht : t.phase = .ready ∨ t.phase = .unitAssembly) (hbound : t.routeBound = s.routeBound)
    (hvalid : t.progressValid = s.progressValid) (hcookie : t.sessionCookie = s.sessionCookie)
    (hprogress : t.progress = s.progress) (hplan : t.planAssembler = s.planAssembler)
    (hpending : t.pending = s.pending) :
    t.Invariant := by
  have hb := h.bound hphase
  refine of_bound ht (hbound.trans hb) ?_ (hplan.trans (h.plan_fresh ?_)) ?_
  · rw [hvalid, hcookie, hprogress]
    exact h.binding hb
  · rcases hphase with hphase | hphase <;> simp [hphase]
  · rw [hpending]
    exact h.pending_inactive (by rcases hphase with hphase | hphase <;> simp [hphase])

theorem openUnit (h : s.Invariant) (hphase : s.phase = .ready ∨ s.phase = .unitAssembly)
    (frame : SpeakerAssetsFrame)
    (unit : DataUnit) :
    (s.openUnit frame unit).2.Invariant
      ∧ ((s.openUnit frame unit).1 = none → (s.openUnit frame unit).2.phase = .unitAssembly)
      ∧ (s.openUnit frame unit).2.route = s.route := by
  unfold Session.openUnit
  split
  · split
    · exact ⟨h, nofun, rfl⟩
    · split
      · exact ⟨h, nofun, rfl⟩
      · exact ⟨h.toBound hphase (.inr rfl) rfl rfl rfl rfl rfl rfl, fun _ => rfl, rfl⟩
  · split
    · exact ⟨h, nofun, rfl⟩
    · exact ⟨h, fun _ => hphase.resolve_left (by assumption), rfl⟩

theorem finishUnit (h : s.Invariant) (hphase : s.phase = .unitAssembly) {route : SpeakerAssetsRouteToken}
    (hroute : s.route = route) (frame : SpeakerAssetsFrame) (unit : DataUnit) :
    (s.finishUnit H route frame unit).2.Invariant := by
  have hback : { s with blockAssembler := {}, phase := .ready }.Invariant :=
    h.toBound (.inr hphase) (.inl rfl) rfl rfl rfl rfl rfl rfl
  unfold Session.finishUnit
  dsimp only
  split
  · exact hback
  · exact hback
  · refine h.begin_bound (by simp [hphase]) (h.bound (.inr hphase)) hroute ?_ _
    split <;> rfl

theorem feedUnit (h : s.Invariant) (hphase : s.phase = .unitAssembly) {route : SpeakerAssetsRouteToken}
    (hroute : s.route = route) (frame : SpeakerAssetsFrame) (unit : DataUnit) :
    (s.feedUnit H route frame unit).2.Invariant := by
  unfold Session.feedUnit
  split
  · exact h
  · rename_i assembler _
    have h' : (s.acceptedUnit frame assembler).Invariant :=
      h.toBound (.inr hphase) (.inr hphase) rfl rfl rfl rfl rfl rfl
    dsimp only
    split
    · exact h'.missingReply ..
    · exact h'.finishUnit H hphase hroute frame unit

theorem consumeData (h : s.Invariant) (route : SpeakerAssetsRouteToken) (frame : SpeakerAssetsFrame) :
    (s.consumeData H route frame).2.Invariant := by
  unfold Session.consumeData
  dsimp only
  split
  · exact h
  · rename_i hguard
    simp only [not_or, not_and_or, not_not] at hguard
    obtain ⟨-, -, -, -, hroute, -, -, hphase⟩ := hguard
    split
    · exact h
    · rename_i unit _
      split
      · exact h
      · obtain ⟨hopen, hunit, hsame⟩ := h.openUnit hphase frame unit
        split
        · rename_i s' heq
          rw [heq] at hopen
          exact hopen
        · rename_i s' heq
          rw [heq] at hopen hunit hsame
          exact hopen.feedUnit H (hunit rfl) (hsame.trans hroute) frame unit

/-! ## Every frame -/

theorem consume (h : s.Invariant) (route : SpeakerAssetsRouteToken) (frame : SpeakerAssetsFrame) :
    (s.consume H route frame).2.2.Invariant := by
  unfold Session.consume
  split
  · exact h
  · split
    · exact h
    · split
      · exact h.consumeCapabilities frame
      · split
        · exact h
        · unfold Session.dispatch
          dsimp only
          split
          · exact h.consumePlanAction H route frame .begin
          · exact h.consumeResume H route frame
          · exact h.consumeData H route frame
          · exact h.consumeQuery H route frame
          · exact h.consumeTerminalAction H route frame (.inl rfl)
          · exact h.consumeTerminalAction H route frame (.inr rfl)
          · exact h.consumePlanAction H route frame .discardInvalidStaging
          · exact h.consumeCurrentActive H route frame
          · exact h
          · exact h

/-! ## Completions, closes, expiry -/

theorem reset (s : Session) (hpending : s.pending.active = false) : s.reset.Invariant :=
  of_idle rfl rfl rfl hpending

theorem reset_finished (s : Session) : s.reset.clearPendingAction.Invariant :=
  of_idle rfl rfl rfl rfl

theorem clearBinding (hplan : s.planAssembler = {}) :
    { s.clearBinding with phase := .idle }.clearPendingAction.Invariant :=
  of_idle rfl rfl hplan rfl

/-- After an error: `Ready` for the requests that came from it, `Idle` for the others. -/
theorem completedWithError (h : s.Invariant) (hphase : s.phase = .actionPending)
    (horphan : s.pending.orphaned = false)
    (result : SoundStoreResult) :
    (s.completedWithError s.pending result).2.clearPendingAction.Invariant := by
  have hplan := h.plan_fresh (by simp [hphase])
  obtain ⟨hbound, -⟩ := h.live hphase horphan
  have hready (hneeds : PendingAction.needsBinding s.pending = true) (blockAssembler : BlockAssembler) :
      { s with phase := .ready, blockAssembler }.clearPendingAction.Invariant :=
    of_bound (.inl rfl) (hbound.trans hneeds) (h.binding (hbound.trans hneeds)) hplan rfl
  unfold Session.completedWithError
  dsimp only
  split
  · exact clearBinding hplan
  · exact clearBinding hplan
  · exact clearBinding hplan
  · split
    · exact hready (by simp_all [PendingAction.needsBinding]) s.blockAssembler
    · exact clearBinding hplan
  · exact hready (by simp_all [PendingAction.needsBinding]) {}
  · exact hready (by simp_all [PendingAction.needsBinding]) {}
  · exact hready (by simp_all [PendingAction.needsBinding]) s.blockAssembler
  · exact hready (by simp_all [PendingAction.needsBinding]) s.blockAssembler

/-- What the contract of a completion says about the progress that the session takes over. -/
theorem progress_wellFormed {finished : PendingAction} {completion : SpeakerAssetsActionCompletion}
    (hcontract : s.completionContract finished completion = true) :
    (finished.kind = .begin ∨ finished.kind = .resumeQuery ∧ completion.outcome = .active
      ∨ finished.kind = .writeManifest ∨ finished.kind = .writePayloadBlock) →
    progressIsWellFormed completion.progress = true := by
  unfold completionContract at hcontract
  rintro (hkind | ⟨hkind, hactive⟩ | hkind | hkind) <;> simp only [hkind, Bool.and_eq_true] at hcontract
  · simp only [progressMatchesPlan, Bool.and_eq_true] at hcontract
    tauto
  · simp only [hactive, Bool.and_eq_true] at hcontract
    split at hcontract
    · exact hcontract.2.2
    · simp only [progressMatchesSession, Bool.and_eq_true] at hcontract
      tauto
  · simp only [progressMatchesSession, Bool.and_eq_true] at hcontract
    tauto
  · simp only [progressMatchesSession, Bool.and_eq_true] at hcontract
    tauto

theorem completed (h : s.Invariant) (hphase : s.phase = .actionPending)
    (horphan : s.pending.orphaned = false)
    {completion : SpeakerAssetsActionCompletion}
    (hcontract : s.completionContract s.pending completion = true) :
    (s.completed s.pending completion).2.clearPendingAction.Invariant := by
  have hplan := h.plan_fresh (by simp [hphase])
  obtain ⟨hbound, -⟩ := h.live hphase horphan
  have hwf := progress_wellFormed hcontract
  -- a request with cookie 0 binds its route under a new cookie
  have hbinds (hprogress : progressIsWellFormed completion.progress = true) (reply : SpeakerAssetsFrame) :
      ({ s with
        progress := completion.progress, progressValid := true, route := s.pending.route,
        routeBound := true,
        sessionCookie := (issue s.nextCookie).1, nextCookie := (issue s.nextCookie).2,
        phase := .ready }.remembering s.pending reply).2.clearPendingAction.Invariant :=
    of_bound (.inl rfl) rfl ⟨rfl, issue_ne_zero _, hprogress⟩ hplan rfl
  -- a request of the bound route takes over the progress
  have hkeeps (hneeds : PendingAction.needsBinding s.pending = true)
      (hprogress : progressIsWellFormed completion.progress = true) (blockAssembler : BlockAssembler)
      (replay : List ReplayEntry) (nextReplaySlot : Nat) :
      { s with
        progress := completion.progress, progressValid := true, phase := .ready, blockAssembler, replay,
        nextReplaySlot }.clearPendingAction.Invariant :=
    of_bound (.inl rfl) (hbound.trans hneeds) ⟨rfl,
      (h.binding (hbound.trans hneeds)).2.1, hprogress⟩ hplan rfl
  unfold Session.completed
  dsimp only
  split
  · rename_i hkind
    exact hbinds (hwf (.inl hkind)) _
  · exact reset_finished _
  · exact reset_finished _
  · rename_i hkind
    split
    · exact reset_finished _
    · rename_i hactive
      have hprogress := hwf (.inr (.inl ⟨hkind, not_not.mp hactive⟩))
      split
      · exact hbinds hprogress _
      · rename_i hcookie
        exact hkeeps (by simp [PendingAction.needsBinding, hkind, hcookie]) hprogress s.blockAssembler _ _
  · rename_i hkind
    exact hkeeps (by simp [PendingAction.needsBinding, hkind]) (hwf (.inr (.inr (.inl hkind)))) {} _ _
  · rename_i hkind
    exact hkeeps (by simp [PendingAction.needsBinding, hkind]) (hwf (.inr (.inr (.inr hkind)))) {} _ _
  · exact reset_finished _
  · exact reset_finished _

theorem complete (h : s.Invariant) (completion : SpeakerAssetsActionCompletion) :
    (s.complete completion).2.2.Invariant := by
  unfold Session.complete
  split
  · exact h
  · rename_i hactive
    have hphase := h.pending_iff.mp (Bool.not_eq_false _ ▸ hactive)
    split
    · exact h
    · dsimp only
      split
      · exact reset _ rfl
      · rename_i horphan
        have horphan := Bool.eq_false_iff.mpr horphan
        split
        · exact h.completedWithError hphase horphan completion.result
        · split
          · exact reset _ rfl
          · rename_i hcontract
            exact h.completed hphase horphan (by simpa using hcontract)

/-- A pending action is cut off from its route. -/
theorem orphaned (h : s.Invariant) (hphase : s.phase = .actionPending) {t : Session}
    (ht : t.phase = .actionPending)
    (hpending : t.pending = { s.pending with orphaned := true }) (hbound : t.routeBound = false)
    (hplan : t.planAssembler = {}) : t.Invariant := by
  refine of_pending ht ?_ (fun hb => absurd hb (by simp [hbound])) hplan (fun horphan => ?_)
    (fun _ => hbound)
  · rw [hpending]
    exact h.pending_iff.mpr hphase
  · rw [hpending] at horphan
    cases horphan

theorem clearReplayForRoute (h : s.Invariant) (route : SpeakerAssetsRouteToken) :
    (s.clearReplayForRoute route).Invariant :=
  ⟨h.binding, h.pending_iff, h.plan_open, h.plan_fresh, h.idle, h.bound, h.assembling, h.live, h.orphan⟩

/-- While an action of another route is pending, nothing in the session is a route's own. -/
theorem not_owned (h : s.Invariant) (hphase : s.phase = .actionPending) {route : SpeakerAssetsRouteToken}
    (hother : s.pending.route ≠ route) :
    (s.routeBound && s.route == route) = false
      ∧ (s.planAssembler.bound && s.planAssembler.owner == route) = false := by
  constructor
  · cases hbound : s.routeBound with
    | false => rfl
    | true =>
      cases horphan : s.pending.orphaned with
      | true => exact absurd hbound (by simp [h.orphan hphase horphan])
      | false => simpa [(h.live hphase horphan).2 hbound] using hother
  · rw [h.plan_fresh (by simp [hphase])]
    rfl

theorem routeClosed (h : s.Invariant) (route : SpeakerAssetsRouteToken) :
    (s.routeClosed route).Invariant := by
  have h' := h.clearReplayForRoute route
  unfold Session.routeClosed
  dsimp only
  split
  · exact h'
  · rename_i howns
    split
    · rename_i hpending
      rw [Bool.and_eq_true] at hpending
      have hphase := h'.pending_iff.mp hpending.1
      have hplan := h'.plan_fresh (by simp [hphase])
      split
      · exact h'.orphaned hphase hphase rfl rfl hplan
      · exact h'.orphaned hphase hphase rfl rfl rfl
    · rename_i hpending
      refine reset _ (Bool.eq_false_iff.mpr fun hactive => howns ?_)
      have hphase := h'.pending_iff.mp hactive
      have hother : (s.clearReplayForRoute route).pending.route ≠ route := by
        intro hroute
        exact hpending (by simp [hactive, hroute])
      simp [h'.not_owned hphase hother, hother]

theorem allRoutesClosed (h : s.Invariant) : s.allRoutesClosed.Invariant := by
  unfold Session.allRoutesClosed
  dsimp only
  split
  · rename_i hactive
    have hphase := h.pending_iff.mp hactive
    have hplan := h.plan_fresh (by simp [hphase])
    split
    · exact h.orphaned hphase hphase rfl rfl hplan
    · exact h.orphaned hphase hphase rfl rfl rfl
  · rename_i hactive
    exact reset _ (Bool.eq_false_iff.mpr hactive)

theorem expirePartial (h : s.Invariant) (route : SpeakerAssetsRouteToken) :
    (s.expirePartial route).2.Invariant := by
  unfold Session.expirePartial
  split
  · rename_i hguard
    exact h.restoreAfterBeginAssembly hguard.1
  · split
    · rename_i hguard
      exact h.toBound (.inr hguard.1) (.inl rfl) rfl rfl rfl rfl rfl rfl
    · exact h

end Invariant

/-! ## Runs -/

/-- A call of a public member function. -/
inductive SessionEvent where
  | consume (route : SpeakerAssetsRouteToken) (frame : SpeakerAssetsFrame)
  | complete (completion : SpeakerAssetsActionCompletion)
  | routeClosed (route : SpeakerAssetsRouteToken)
  | allRoutesClosed
  | expirePartial (route : SpeakerAssetsRouteToken)
deriving DecidableEq, Repr

/-- What the caller gets back, and the session after the call. -/
def step (H : Hashes) (s : Session) :
    SessionEvent → (SpeakerAssetsSessionResult × SpeakerAssetsEmission) × Session
  | .consume route frame => let (result, emission, s) := s.consume H route frame; ((result, emission), s)
  | .complete completion => let (result, emission, s) := s.complete completion; ((result, emission), s)
  | .routeClosed route => ((.ok, .none), s.routeClosed route)
  | .allRoutesClosed => ((.ok, .none), s.allRoutesClosed)
  | .expirePartial route => ((.ok, .none), (s.expirePartial route).2)

variable (H : Hashes)

theorem Invariant.step {s : Session} (h : s.Invariant) (event : SessionEvent) :
    (s.step H event).2.Invariant := by
  cases event with
  | consume route frame => exact h.consume H route frame
  | complete completion => exact h.complete completion
  | routeClosed route => exact h.routeClosed route
  | allRoutesClosed => exact h.allRoutesClosed
  | expirePartial route => exact h.expirePartial route

theorem Invariant.after {s : Session} (h : s.Invariant) (events : List SessionEvent) :
    (after (Session.step H) s events).Invariant :=
  after_induction (fun _ event h => h.step H event) events h

end Session

end CodexKeyboard.Assets
