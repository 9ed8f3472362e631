import CodexKeyboard.Assets.Runtime
import CodexKeyboard.Assets.PendingActions
/-!
# What a step of the core does

`RuntimeCore.Invariant` ties the core's pending action to the session's. `FrameEffect` says what
becomes of a frame and `Transition` everything a step can do.

| here | there |
| --- | --- |
| `Timed` | the timers and `expire_partial` (speaker_assets_runtime.cpp:1363-1439, 1482-1532) |
| `FrameEffect` | `process_ingress` with everything it calls (1117-1286) |
| `ActionEffect` | `process_pending_action` once the executor is done (1315-1361) |
-/

namespace CodexKeyboard.Assets

open Lib

/-! ## The filter of closed routes -/

@[simp] theorem length_filterRemember (filter : List UInt64) (route : SpeakerAssetsRouteToken) :
    (filterRemember filter route).length = filter.length := by simp [filterRemember]

theorem filterContains_remember {filter : List UInt64} {route : SpeakerAssetsRouteToken}
    (h : filterContains filter route = true)
    (other : SpeakerAssetsRouteToken) : filterContains (filterRemember filter other) route = true := by
  simp only [filterContains, Bool.and_eq_true] at h ⊢
  exact ⟨BitSet.member_insert (BitSet.member_insert h.1), BitSet.member_insert (BitSet.member_insert h.2)⟩

theorem routeFilterBit_lt (route : SpeakerAssetsRouteToken) (salt : UInt32) :
    routeFilterBit route salt / 64 < closedRouteFilterWords := by
  have hbit : routeFilterBit route salt < 4096 := Nat.mod_lt _ (by omega)
  unfold closedRouteFilterWords
  omega

theorem filterContains_remember_self {filter : List UInt64}
    (hlength : filter.length = closedRouteFilterWords)
    (route : SpeakerAssetsRouteToken) : filterContains (filterRemember filter route) route = true := by
  simp only [filterContains, Bool.and_eq_true, filterRemember]
  refine ⟨BitSet.member_insert (BitSet.member_insert_self ?_), BitSet.member_insert_self ?_⟩
  · exact hlength ▸ routeFilterBit_lt route firstSalt
  · exact (BitSet.length_insert ..).symm ▸ hlength ▸ routeFilterBit_lt route secondSalt

theorem length_foldl_filterRemember (routes : List SpeakerAssetsRouteToken) (filter : List UInt64) :
    (routes.foldl filterRemember filter).length = filter.length := by
  induction routes generalizing filter with
  | nil => rfl
  | cons route routes ih => rw [List.foldl_cons, ih, length_filterRemember]

theorem filterContains_foldl {filter : List UInt64} {route : SpeakerAssetsRouteToken}
    (h : filterContains filter route = true)
    (routes : List SpeakerAssetsRouteToken) :
    filterContains (routes.foldl filterRemember filter) route = true := by
  induction routes generalizing filter with
  | nil => exact h
  | cons other routes ih => exact ih (filterContains_remember h other)

/-- Every route that was remembered is closed. -/
theorem filterContains_foldl_self {filter : List UInt64} (hlength : filter.length = closedRouteFilterWords)
    {route : SpeakerAssetsRouteToken} {routes : List SpeakerAssetsRouteToken} (hmem : route ∈ routes) :
    filterContains (routes.foldl filterRemember filter) route = true := by
  induction routes generalizing filter with
  | nil => cases hmem
  | cons other routes ih =>
    rcases List.mem_cons.mp hmem with rfl | hmem
    · exact filterContains_foldl (filterContains_remember_self hlength route) routes
    · exact ih ((length_filterRemember ..).trans hlength) hmem

/-! ## The session's pending action -/

namespace Session

variable {s : Session}

theorem pending_expirePartial (s : Session) (route : SpeakerAssetsRouteToken) :
    (s.expirePartial route).2.pending = s.pending := by
  unfold expirePartial restoreAfterBeginAssembly
  split
  · rfl
  · split <;> rfl

/-- Only an open assembly expires. -/
theorem phase_of_expirePartial {route : SpeakerAssetsRouteToken} (h : (s.expirePartial route).1 = true) :
    s.phase = .beginAssembly ∨ s.phase = .unitAssembly := by
  unfold expirePartial at h
  split at h
  · rename_i hguard
    exact .inl hguard.1
  · split at h
    · rename_i hguard
      exact .inr hguard.1
    · cases h

/-- The pending action is the same, though it may have become an orphan. -/
structure PendingKept (s t : Session) : Prop where
  pending : t.pending = { s.pending with orphaned := t.pending.orphaned }
  orphaned : s.pending.orphaned = true → t.pending.orphaned = true

theorem PendingKept.of_eq {t : Session} (h : t.pending = s.pending) : PendingKept s t :=
  ⟨by rw [h], fun horphan => by rw [h, horphan]⟩

theorem pendingKept_routeClosed (s : Session) (route : SpeakerAssetsRouteToken) :
    PendingKept s (s.routeClosed route) := by
  unfold routeClosed
  dsimp only
  split
  · exact .of_eq rfl
  · split
    · split <;> exact ⟨rfl, fun _ => rfl⟩
    · exact .of_eq rfl

theorem orphaned_routeClosed {route : SpeakerAssetsRouteToken} (hactive : s.pending.active = true)
    (hroute : s.pending.route = route) : (s.routeClosed route).pending.orphaned = true := by
  have howns :
    ((s.clearReplayForRoute route).pending.active &&
    (s.clearReplayForRoute route).pending.route == route) = true := by
    simp [clearReplayForRoute, hactive, hroute]
  unfold routeClosed
  dsimp only
  rw [if_neg (by simp [howns]), if_pos howns]
  split <;> rfl

theorem pendingKept_allRoutesClosed (s : Session) : PendingKept s s.allRoutesClosed := by
  unfold allRoutesClosed
  dsimp only
  split
  · split <;> exact ⟨rfl, fun _ => rfl⟩
  · exact .of_eq rfl

theorem orphaned_allRoutesClosed (hactive : s.pending.active = true) :
    s.allRoutesClosed.pending.orphaned = true :=
  (held_allRoutesClosed hactive).2

/-- What is pending after a completion: nothing, or what was. -/
theorem pending_complete (s : Session) (completion : SpeakerAssetsActionCompletion) :
    (s.complete completion).1 = .ok ∧ (s.complete completion).2.2.pending.active = false ∧
      Answers completion s.pending
        ∧ s.pending.active = true
      ∨ (s.complete completion).1 ≠ .ok ∧ (s.complete completion).2.2 = s
        ∧ ¬ (s.pending.active = true ∧ Answers completion s.pending) := by
  unfold complete
  split
  · rename_i hactive
    exact .inr ⟨by simp, rfl, by simp [hactive]⟩
  · rename_i hactive
    have hactive : s.pending.active = true := by simpa using hactive
    split
    · rename_i hstale
      refine .inr ⟨by simp, rfl, fun ⟨_, hanswers⟩ => ?_⟩
      rcases hstale with h | h
      · exact h hanswers.1
      · exact h hanswers.2
    · rename_i hstale
      simp only [not_or, not_not] at hstale
      dsimp only
      split
      · exact .inl ⟨rfl, rfl, hstale, hactive⟩
      · split
        · exact .inl ⟨rfl, rfl, hstale, hactive⟩
        · split
          · exact .inl ⟨rfl, rfl, hstale, hactive⟩
          · exact .inl ⟨rfl, rfl, hstale, hactive⟩

theorem reply_completedWithError (finished : PendingAction) (result : SoundStoreResult) :
    ∃ frame, (s.completedWithError finished result).1 = .reply frame := by
  unfold completedWithError
  cases finished.kind
  case resumeQuery =>
    dsimp only
    split <;> exact ⟨_, rfl⟩
  all_goals exact ⟨_, rfl⟩

theorem reply_completed (finished : PendingAction) (completion : SpeakerAssetsActionCompletion) :
    ∃ frame, (s.completed finished completion).1 = .reply frame := by
  unfold completed
  cases finished.kind
  case resumeQuery =>
    dsimp only
    split
    · exact ⟨_, rfl⟩
    · split <;> exact ⟨_, rfl⟩
  all_goals exact ⟨_, rfl⟩

/-- The completion of a live action is answered; an orphan's is not. -/
theorem emission_complete (completion : SpeakerAssetsActionCompletion)
    (hok : (s.complete completion).1 = .ok) :
    (s.complete completion).2.1 = .none
      ∨ s.pending.orphaned = false ∧ ∃ frame, (s.complete completion).2.1 = .reply frame := by
  rcases pending_complete s completion with ⟨-, -, hanswers, hactive⟩ | ⟨hrefused, -⟩
  · cases horphan : s.pending.orphaned with
    | true =>
      rw [complete_orphaned hactive horphan hanswers]
      exact .inl rfl
    | false =>
      refine .inr ⟨rfl, ?_⟩
      unfold complete
      rw [if_neg (by simp [hactive]), if_neg (by simp [hanswers.1, hanswers.2])]
      dsimp only
      rw [if_neg (by simp [horphan])]
      split
      · exact reply_completedWithError _ _
      · split
        · exact ⟨_, rfl⟩
        · exact reply_completed _ _
  · exact absurd hok hrefused

end Session

namespace RuntimeCore

open Session (PendingKept)

/-! ## The invariant -/

/-- The session waits for the action the view is of. -/
structure Pends (s : Session) (view : SpeakerAssetsActionView) : Prop where
  active : s.pending.active = true
  route : s.pending.route = view.route
  token : s.pending.token = view.token
  kind : s.pending.kind = view.kind

structure Invariant (core : RuntimeCore) : Prop where
  session : core.session.Invariant
  idle : core.pendingActionActive = false → core.session.pending.active = false
  pending : core.pendingActionActive = true → Pends core.session core.pendingAction
  lease : core.pendingActionActive = true → core.pendingActionLease.route = core.pendingAction.route
  pendingShape : core.pendingActionActive = true → routeShapeIsValid core.pendingAction.route = true
  lifecycleShape : ∀ record ∈ core.lifecycle, routeShapeIsValid record.route = true
  activeShape : ∀ route, some route ∈ core.activeRoutes → routeShapeIsValid route = true
  partialShape : core.sessionPartialActive = true → routeShapeIsValid core.sessionPartialRoute = true
  filter : core.closedRouteFilter.length = closedRouteFilterWords

theorem invariant_new (cookieSeed actionTokenSeed partialTimeoutMs sessionLeaseMs : UInt32) :
    (RuntimeCore.new cookieSeed actionTokenSeed partialTimeoutMs sessionLeaseMs).Invariant where
  session := Session.invariant_new cookieSeed actionTokenSeed
  idle _ := rfl
  pending := nofun
  lease := nofun
  pendingShape := nofun
  lifecycleShape := nofun
  activeShape route h := by
    have := List.eq_of_mem_replicate h
    cases this
  partialShape := nofun
  filter := rfl

/-! ## Timers -/

/-- Work that leaves the queues and the pending action: an assembly may have been ended, or begun
for the route. -/
structure Timed (route : SpeakerAssetsRouteToken) (core t : RuntimeCore) : Prop where
  queues : t.toRuntimeQueues = core.toRuntimeQueues
  session : core.session.Invariant → t.session.Invariant
  pending : t.session.pending = core.session.pending
  handed : t.handed = core.handed
  partialRoute : t.sessionPartialActive = true →
    (core.sessionPartialActive = true ∧ t.sessionPartialRoute = core.sessionPartialRoute) ∨
      t.sessionPartialRoute = route

namespace Timed

variable {route : SpeakerAssetsRouteToken} {core t u : RuntimeCore}

theorem refl : Timed route core core := ⟨rfl, id, rfl, rfl, fun h => .inl ⟨h, rfl⟩⟩

theorem trans (h : Timed route core t) (h' : Timed route t u) : Timed route core u where
  queues := h'.queues.trans h.queues
  session hs := h'.session (h.session hs)
  pending := h'.pending.trans h.pending
  handed := h'.handed.trans h.handed
  partialRoute hactive := by
    rcases h'.partialRoute hactive with ⟨hactive, hroute⟩ | hroute
    · rcases h.partialRoute hactive with ⟨hactive, hroute'⟩ | hroute'
      · exact .inl ⟨hactive, hroute.trans hroute'⟩
      · exact .inr (hroute.trans hroute')
    · exact .inr hroute

theorem clearSessionLease : Timed route core core.clearSessionLease :=
  ⟨rfl, id, rfl, rfl, fun h => .inl ⟨h, rfl⟩⟩

theorem refreshSessionLease (consumed : SpeakerAssetsRouteToken) (cookie activityMs : UInt32) :
    Timed route core (core.refreshSessionLease consumed cookie activityMs) := by
  unfold RuntimeCore.refreshSessionLease
  split
  · exact .refl
  · exact ⟨rfl, id, rfl, rfl, fun h => .inl ⟨h, rfl⟩⟩

theorem updateSessionPartialActivity (receivedMs : UInt32) (accepted : Bool) :
    Timed route core (core.updateSessionPartialActivity route receivedMs accepted) := by
  unfold RuntimeCore.updateSessionPartialActivity
  split
  · split
    · exact ⟨rfl, id, rfl, rfl, fun _ => .inr rfl⟩
    · exact .refl
  · split
    · exact ⟨rfl, id, rfl, rfl, nofun⟩
    · split
      · exact .refl
      · exact ⟨rfl, id, rfl, rfl, fun _ => .inr rfl⟩

theorem expireSessionPartialAfterLogicalFrame (nowMs : UInt32) :
    Timed route core (core.expireSessionPartialAfterLogicalFrame nowMs).2 := by
  unfold RuntimeCore.expireSessionPartialAfterLogicalFrame
  split
  · exact .refl
  · exact ⟨rfl, fun hs => hs.expirePartial _, Session.pending_expirePartial _ _, rfl, nofun⟩

theorem expirePartials (nowMs : UInt32) : Timed route core (core.expirePartials nowMs).2 := by
  unfold RuntimeCore.expirePartials
  split
  · exact ⟨rfl, fun hs => hs.expirePartial _, Session.pending_expirePartial _ _, rfl, nofun⟩
  · exact .refl

theorem partialActivity (core : RuntimeCore) (activityMs : UInt32) :
    Timed route core { core with sessionPartialLastActivityMs := activityMs } := ⟨rfl, id, rfl,
      rfl, fun h => .inl ⟨h, rfl⟩⟩

end Timed

/-! ## Frames -/

/-- What handing frames of one route to the session leads to: nothing to wait for, or the emitted action. -/
structure Handed (route : SpeakerAssetsRouteToken) (core : RuntimeCore)
    (emission : SpeakerAssetsEmission) (t : RuntimeCore) :
    Prop where
  queues : t.toRuntimeQueues = core.toRuntimeQueues
  session : t.session.Invariant
  handed : ∃ n, t.handed = core.handed ++ List.replicate n route
  partialRoute : t.sessionPartialActive = true →
    (core.sessionPartialActive = true ∧ t.sessionPartialRoute = core.sessionPartialRoute) ∨
      t.sessionPartialRoute = route
  pending : (∀ view, emission ≠ .action view) ∧ t.session.pending = core.session.pending
    ∨ ∃ view, emission = .action view ∧ view.route = route ∧ Pends t.session view ∧
    t.session.pending.orphaned = false

namespace Handed

variable {H : Hashes} {route : SpeakerAssetsRouteToken} {core t u : RuntimeCore}
    {emission : SpeakerAssetsEmission}

theorem timed (h : Handed route core emission t) (h' : Timed route t u) : Handed route core emission u where
  queues := h'.queues.trans h.queues
  session := h'.session h.session
  handed := h'.handed ▸ h.handed
  partialRoute hactive := by
    rcases h'.partialRoute hactive with ⟨hactive, hroute⟩ | hroute
    · rcases h.partialRoute hactive with ⟨hactive, hroute'⟩ | hroute'
      · exact .inl ⟨hactive, hroute.trans hroute'⟩
      · exact .inr (hroute.trans hroute')
    · exact .inr hroute
  pending := by
    rcases h.pending with ⟨hnone, hpending⟩ | ⟨view, rfl, hroute, hpends, hlive⟩
    · exact .inl ⟨hnone, h'.pending.trans hpending⟩
    · refine .inr ⟨view, rfl, hroute, ⟨?_, ?_, ?_, ?_⟩, h'.pending ▸ hlive⟩
      · exact h'.pending ▸ hpends.active
      · exact h'.pending ▸ hpends.route
      · exact h'.pending ▸ hpends.token
      · exact h'.pending ▸ hpends.kind

theorem handOver (hs : core.session.Invariant) (frame : SpeakerAssetsFrame) :
    Handed route core (core.handOver H route frame).2.1 (core.handOver H route frame).2.2 where
  queues := rfl
  session := hs.consume H route frame
  handed := ⟨1, rfl⟩
  partialRoute hactive := .inl ⟨hactive, rfl⟩
  pending := by
    rcases @Session.issues_consume core.session H route frame with
      ⟨hquiet, hnone⟩ | ⟨view, heq, -, hissued⟩
    · exact .inl ⟨hnone, hquiet.pending⟩
    · refine .inr ⟨view, heq, hissued.owner,
        ⟨hissued.active, ?_, hissued.token, hissued.kind⟩, hissued.live⟩
      have hroute := congrArg PendingAction.route hissued.pending
      exact hroute.trans hissued.owner.symm

/-- A second frame of the route, when the first began no action. -/
theorem again (h : Handed route core emission t) (hnone : ∀ view, emission ≠ .action view)
    {emission' : SpeakerAssetsEmission}
    (h' : Handed route t emission' u) : Handed route core emission' u where
  queues := h'.queues.trans h.queues
  session := h'.session
  handed := by
    obtain ⟨n, hn⟩ := h.handed
    obtain ⟨n', hn'⟩ := h'.handed
    exact ⟨n + n', by rw [hn', hn, List.append_assoc, List.replicate_append_replicate]⟩
  partialRoute hactive := by
    rcases h'.partialRoute hactive with ⟨hactive, hroute⟩ | hroute
    · rcases h.partialRoute hactive with ⟨hactive, hroute'⟩ | hroute'
      · exact .inl ⟨hactive, hroute.trans hroute'⟩
      · exact .inr (hroute.trans hroute')
    · exact .inr hroute
  pending := by
    have hpending : t.session.pending = core.session.pending := by
      rcases h.pending with ⟨-, hpending⟩ | ⟨view, heq, -⟩
      · exact hpending
      · exact absurd heq (hnone view)
    rcases h'.pending with ⟨hnone', hpending'⟩ | haction
    · exact .inl ⟨hnone', hpending'.trans hpending⟩
    · exact .inr haction

theorem consume_refused {s : Session} {frame : SpeakerAssetsFrame} (h : (s.consume H route frame).1 ≠ .ok) :
    (s.consume H route frame).2.1 = .none := by
  unfold Session.consume at h ⊢
  split
  · rfl
  · rename_i hshape
    rw [if_neg hshape] at h
    split at h
    · exact absurd rfl h
    · split at h
      · exact absurd rfl h
      · split at h <;> exact absurd rfl h

/-- Nothing expires under an action: the session is past assembling when it emits one. -/
theorem not_expired (hs : t.session.Invariant) {view : SpeakerAssetsActionView}
    (hpends : Pends t.session view)
    (nowMs : UInt32) : (t.expireSessionPartialAfterLogicalFrame nowMs).1 = false := by
  have hphase := hs.pending_iff.mp hpends.active
  unfold RuntimeCore.expireSessionPartialAfterLogicalFrame
  split
  · rfl
  · by_contra hexpired
    rcases Session.phase_of_expirePartial (Bool.not_eq_false _ ▸ hexpired) with h | h <;>
      rw [hphase] at h <;> cases h

theorem consumeOnce (hs : core.session.Invariant) (frame : SpeakerAssetsFrame) (activityMs : UInt32) :
    let (result, emission, expired, t) := core.consumeOnce H route frame activityMs
    Handed route core emission t ∧ (result ≠ .ok → emission = .none)
      ∧ (expired = true → ∀ view, emission ≠ .action view) := by
  have hhanded := @handOver H route _ hs frame
  unfold RuntimeCore.consumeOnce
  dsimp only
  split
  · rename_i emission t heq
    rw [heq] at hhanded
    have hlease : Handed route core emission (if t.session.routeBound then t else t.clearSessionLease) := by
      split
      · exact hhanded
      · exact hhanded.timed .clearSessionLease
    generalize (if t.session.routeBound then t else t.clearSessionLease) = t' at hlease
    have hupdated := hlease.timed (.updateSessionPartialActivity activityMs
      (t'.session.partialActivityCounter != core.session.partialActivityCounter))
    split
    · exact ⟨hupdated, fun h => absurd rfl h, nofun⟩
    · refine ⟨hupdated.timed (.expireSessionPartialAfterLogicalFrame activityMs), fun h => absurd rfl h,
        fun hexpired view haction => ?_⟩
      rcases hupdated.pending with ⟨hnone, -⟩ | ⟨view', -, -, hpends, -⟩
      · exact hnone view haction
      · rw [not_expired hupdated.session hpends] at hexpired
        cases hexpired
  · rename_i result emission t hresult heq
    rw [heq] at hhanded
    refine ⟨hhanded, fun h => ?_, nofun⟩
    have hrefused := @consume_refused H route core.session frame
    simp only [RuntimeCore.handOver] at heq
    rw [Prod.mk.injEq, Prod.mk.injEq] at heq
    rw [heq.1, heq.2.1] at hrefused
    exact hrefused h

theorem consumeAgain (hs : core.session.Invariant) (frame : SpeakerAssetsFrame) (activityMs : UInt32) :
    let (result, emission, t) := core.consumeAgain H route frame activityMs
    Handed route core emission t ∧ (result ≠ .ok → emission = .none) := by
  have hhanded := @handOver H route _ hs frame
  have hrefused := @consume_refused H route core.session frame
  unfold RuntimeCore.consumeAgain
  dsimp only
  split
  · rename_i emission t heq
    rw [heq] at hhanded
    exact ⟨hhanded.timed (.updateSessionPartialActivity activityMs _), fun h => absurd rfl h⟩
  · rename_i hresult
    exact ⟨hhanded, hrefused⟩

end Handed

/-- What becomes of a frame: its admission is retired, replied to, or kept with the action it began. -/
inductive FrameOutcome (core : RuntimeCore) (route : SpeakerAssetsRouteToken) (admissionId : UInt64)
    (t : RuntimeCore) : Prop
  | retired (hqueues : t.toRuntimeQueues =
    core.toRuntimeQueues.retireAdmissionWithoutReply route admissionId)
    (hpending : t.session.pending = core.session.pending)
  | replied (frame : SpeakerAssetsFrame)
    (hqueues : core.pushReply route frame admissionId = some t.toRuntimeQueues)
    (hpending : t.session.pending = core.session.pending) (hactive : core.routeIsActive route = true)
  | acted (view : SpeakerAssetsActionView)
    (hqueues : t.toRuntimeQueues =
      { core.toRuntimeQueues with
        pendingAction := view, pendingActionLease := { route, admissionId }, pendingActionActive := true })
    (hroute : view.route = route) (hpends : Pends t.session view)
    (hlive : t.session.pending.orphaned = false)
    (hactive : core.routeIsActive route = true)

theorem FrameOutcome.timed {core t u : RuntimeCore} {route other : SpeakerAssetsRouteToken}
    {admissionId : UInt64}
    (h : FrameOutcome core route admissionId t) (h' : Timed other t u) :
    FrameOutcome core route admissionId u := by
  cases h with
  | retired hqueues hpending => exact .retired (h'.queues.trans hqueues) (h'.pending.trans hpending)
  | replied frame hqueues hpending hactive =>
    exact .replied frame (h'.queues ▸ hqueues) (h'.pending.trans hpending) hactive
  | acted view hqueues hroute hpends hlive hactive =>
    refine .acted view (h'.queues.trans hqueues) hroute ⟨?_, ?_, ?_, ?_⟩ (h'.pending ▸ hlive) hactive
    · exact h'.pending ▸ hpends.active
    · exact h'.pending ▸ hpends.route
    · exact h'.pending ▸ hpends.token
    · exact h'.pending ▸ hpends.kind

structure FrameEffect (core : RuntimeCore) (route : SpeakerAssetsRouteToken) (admissionId : UInt64)
    (t : RuntimeCore) : Prop where
  session : t.session.Invariant
  handed : ∃ n, t.handed = core.handed ++ List.replicate n route ∧
    (core.routeIsActive route = false → n = 0)
  partialRoute : t.sessionPartialActive = true →
    (core.sessionPartialActive = true ∧ t.sessionPartialRoute = core.sessionPartialRoute)
      ∨ core.routeIsActive route = true ∧ t.sessionPartialRoute = route
  outcome : FrameOutcome core route admissionId t

namespace FrameEffect

variable {H : Hashes} {route : SpeakerAssetsRouteToken} {core t u : RuntimeCore} {admissionId : UInt64}

theorem timed (h : FrameEffect core route admissionId t) (hactive : core.routeIsActive route = true)
    (h' : Timed route t u) :
    FrameEffect core route admissionId u where
  session := h'.session h.session
  handed := h'.handed ▸ h.handed
  partialRoute hpart := by
    rcases h'.partialRoute hpart with ⟨hpart, hroute⟩ | hroute
    · rcases h.partialRoute hpart with ⟨hpart, hroute'⟩ | ⟨-, hroute'⟩
      · exact .inl ⟨hpart, hroute.trans hroute'⟩
      · exact .inr ⟨hactive, hroute.trans hroute'⟩
    · exact .inr ⟨hactive, hroute⟩
  outcome := h.outcome.timed h'

/-- The frame may have come after work on the timers. -/
theorem before {start : RuntimeCore} (h : FrameEffect start route admissionId u)
    (hqueues : start.toRuntimeQueues = core.toRuntimeQueues)
    (hpending : start.session.pending = core.session.pending)
    (hhanded : start.handed = core.handed)
    (hpart : start.sessionPartialActive = true →
      (core.sessionPartialActive = true ∧ start.sessionPartialRoute = core.sessionPartialRoute)
        ∨ core.routeIsActive route = true ∧ start.sessionPartialRoute = route) :
    FrameEffect core route admissionId u where
  session := h.session
  handed := by
    obtain ⟨n, hn, hzero⟩ := h.handed
    exact ⟨n, hhanded ▸ hn, fun hinactive => hzero (hqueues ▸ hinactive)⟩
  partialRoute hp := by
    rcases h.partialRoute hp with ⟨hp, hroute⟩ | ⟨hactive, hroute⟩
    · exact (hpart hp).imp (fun hold => ⟨hold.1, hroute.trans hold.2⟩) fun hnew =>
        ⟨hnew.1, hroute.trans hnew.2⟩
    · exact .inr ⟨hqueues ▸ hactive, hroute⟩
  outcome := by
    cases h.outcome with
    | retired houtcome hsame => exact .retired (hqueues ▸ houtcome) (hsame.trans hpending)
    | replied frame houtcome hsame hactive =>
      exact .replied frame (hqueues ▸ houtcome) (hsame.trans hpending) (hqueues ▸ hactive)
    | acted view houtcome hroute hpends hlive hactive =>
      exact .acted view (hqueues ▸ houtcome) hroute hpends hlive (hqueues ▸ hactive)

/-- The frame of a route that is not active, or that does not decode. -/
theorem dropped (hs : core.session.Invariant) (route : SpeakerAssetsRouteToken) (admissionId : UInt64) :
    FrameEffect core route admissionId (core.retire route admissionId) where
  session := hs
  handed := ⟨0, by simp [RuntimeCore.retire], fun _ => rfl⟩
  partialRoute h := .inl ⟨h, rfl⟩
  outcome := .retired rfl rfl

/-- A partial that expires after the frame. -/
theorem expired (h : FrameEffect core route admissionId t) (nowMs : UInt32) :
    FrameEffect core route admissionId (t.expireSessionPartialAfterLogicalFrame nowMs).2 := by
  have htimed : Timed route t (t.expireSessionPartialAfterLogicalFrame nowMs).2 :=
    .expireSessionPartialAfterLogicalFrame nowMs
  refine ⟨htimed.session h.session, htimed.handed ▸ h.handed, fun hp => ?_, h.outcome.timed htimed⟩
  unfold expireSessionPartialAfterLogicalFrame at hp ⊢
  split at hp
  · rename_i hguard
    rw [if_pos hguard]
    exact h.partialRoute hp
  · cases hp

theorem of_handed {emission : SpeakerAssetsEmission} (h : Handed route core emission t)
    (hactive : core.routeIsActive route = true)
    (hsession : u.session = t.session) (hhanded : u.handed = t.handed)
    (hpart : u.sessionPartialActive = t.sessionPartialActive)
    (hpartialRoute : u.sessionPartialRoute = t.sessionPartialRoute)
    (outcome : FrameOutcome core route admissionId u) :
    FrameEffect core route admissionId u where
  session := hsession ▸ h.session
  handed := by
    obtain ⟨n, hn⟩ := h.handed
    exact ⟨n, hhanded.trans hn, fun hinactive => by rw [hactive] at hinactive; cases hinactive⟩
  partialRoute hp := by
    rw [hpartialRoute]
    exact (h.partialRoute (hpart ▸ hp)).imp id fun hroute => ⟨hactive, hroute⟩
  outcome := outcome

theorem retire (h : Handed route core .none t) (hactive : core.routeIsActive route = true) :
    FrameEffect core route admissionId (t.retire route admissionId) := by
  refine of_handed h hactive rfl rfl rfl rfl (.retired ?_ ?_)
  · rw [← h.queues]
    rfl
  · rcases h.pending with ⟨-, hpending⟩ | ⟨view, heq, -⟩
    · exact hpending
    · cases heq

theorem reply_eq (frame : SpeakerAssetsFrame) (result : StepResult)
    (hroom : t.replies.length < replyCapacity) :
    ∃ queues, t.pushReply route frame admissionId = some queues
      ∧ t.reply route frame admissionId result = (result, { t with toRuntimeQueues := queues }) := by
  unfold reply
  have hpush : ∃ queues, t.pushReply route frame admissionId = some queues := by
    unfold RuntimeQueues.pushReply
    rw [if_neg (by omega)]
    exact ⟨_, rfl⟩
  obtain ⟨queues, hpush⟩ := hpush
  rw [hpush]
  exact ⟨queues, rfl, rfl⟩

/-- The final switch, with room for a reply. -/
theorem emit {emission : SpeakerAssetsEmission} (h : Handed route core emission t)
    (hactive : core.routeIsActive route = true)
    (hroom : core.replies.length < replyCapacity) (partialExpired : Bool) {noEmission : StepResult}
    (hnoEmission : noEmission ≠ .replyBackpressure) :
    FrameEffect core route admissionId (t.emit route admissionId emission partialExpired noEmission).2
      ∧ (t.emit route admissionId emission partialExpired noEmission).1 ≠ .replyBackpressure := by
  cases emission with
  | none =>
    refine ⟨retire h hactive, ?_⟩
    cases partialExpired
    · exact hnoEmission
    · exact nofun
  | reply frame =>
    have hroom' : t.replies.length < replyCapacity := by rwa [h.queues]
    obtain ⟨queues, hpush, heq⟩ := @reply_eq route _ admissionId frame
      (if partialExpired then .partialExpired else .replyQueued) hroom'
    simp only [RuntimeCore.emit, heq]
    refine ⟨of_handed h hactive rfl rfl rfl rfl (.replied frame (h.queues ▸ hpush) ?_ hactive), ?_⟩
    · rcases h.pending with ⟨-, hpending⟩ | ⟨view, heq, -⟩
      · exact hpending
      · cases heq
    · cases partialExpired <;> exact nofun
  | action view =>
    refine ⟨of_handed h hactive rfl rfl rfl rfl ?_, nofun⟩
    rcases h.pending with ⟨hnone, -⟩ | ⟨view', heq, hroute, hpends, hlive⟩
    · exact absurd rfl (hnone view)
    · cases heq
      exact .acted view (by rw [← h.queues]; rfl) hroute hpends hlive hactive

variable (hs : core.session.Invariant) (hactive : core.routeIsActive route = true)
  (hroom : core.replies.length < replyCapacity)

include hs hactive hroom

theorem consumePaused (frame : SpeakerAssetsFrame) (activityMs : UInt32) :
    FrameEffect core route admissionId (core.consumePaused route frame activityMs admissionId).2
      ∧ (core.consumePaused route frame activityMs admissionId).1 ≠ .replyBackpressure := by
  have hkept : Timed route core (if core.sessionPartialActive ∧ core.sessionPartialRoute = route then
      { core with sessionPartialLastActivityMs := activityMs } else core) := by
    split
    · exact .partialActivity core activityMs
    · exact .refl
  unfold RuntimeCore.consumePaused
  dsimp only
  generalize (if core.sessionPartialActive ∧ core.sessionPartialRoute = route then
    { core with sessionPartialLastActivityMs := activityMs } else core) = t at hkept
  have hroom' : t.replies.length < replyCapacity := by rwa [hkept.queues]
  obtain ⟨queues, hpush, heq⟩ := @reply_eq route _ admissionId (pausedReply frame) .replyQueued hroom'
  rw [heq]
  dsimp only
  have hreplied : FrameEffect core route admissionId { t with toRuntimeQueues := queues } :=
    { session := hkept.session hs
      handed := ⟨0, by simpa using hkept.handed, fun _ => rfl⟩
      partialRoute := fun hp => (hkept.partialRoute hp).imp id fun hroute => ⟨hactive, hroute⟩
      outcome := .replied (pausedReply frame) (hkept.queues ▸ hpush) hkept.pending hactive }
  refine ⟨hreplied.timed hactive (.expireSessionPartialAfterLogicalFrame activityMs), ?_⟩
  split <;> exact nofun

theorem consumeLogicalFrame (frame : SpeakerAssetsFrame) (activityMs : UInt32) {noEmission : StepResult}
    (hnoEmission : noEmission ≠ .replyBackpressure) (allowed : Bool) :
    FrameEffect core route admissionId
      (core.consumeLogicalFrame H route frame activityMs noEmission allowed admissionId).2
      ∧ (core.consumeLogicalFrame H route frame activityMs noEmission allowed admissionId).1 ≠
        .replyBackpressure := by
  have hkept : Timed route core (core.refreshSessionLease route frame.sessionCookie activityMs) :=
    .refreshSessionLease _ _ _
  unfold RuntimeCore.consumeLogicalFrame
  dsimp only
  generalize core.refreshSessionLease route frame.sessionCookie activityMs = start at hkept
  have hstart : start.session.Invariant := hkept.session hs
  have hactive' : start.routeIsActive route = true := by rwa [hkept.queues]
  have hroom' : start.replies.length < replyCapacity := by rwa [hkept.queues]
  have hback {u : RuntimeCore} (h : FrameEffect start route admissionId u) :
    FrameEffect core route admissionId u :=
    h.before hkept.queues hkept.pending hkept.handed fun hp =>
      (hkept.partialRoute hp).imp id fun hroute => ⟨hactive, hroute⟩
  split
  · have hpaused := @consumePaused _ _ admissionId hstart hactive' hroom' frame activityMs
    exact ⟨hback hpaused.1, hpaused.2⟩
  · have honce := @Handed.consumeOnce H route _ hstart frame activityMs
    split
    · rename_i emission t heq
      rw [heq] at honce
      have hemit := @emit _ _ _ admissionId _ honce.1 hactive' hroom' false _ hnoEmission
      exact ⟨hback hemit.1, hemit.2⟩
    · rename_i emission t heq
      rw [heq] at honce
      obtain ⟨hhanded, -, hexpired⟩ := honce
      have hagain := @Handed.consumeAgain H route _ hhanded.session frame activityMs
      split
      · rename_i emission' u heq'
        rw [heq'] at hagain
        have hemit :=
          @emit _ _ _ admissionId _ (hhanded.again (hexpired rfl) hagain.1) hactive' hroom' true _
          hnoEmission
        exact ⟨hback hemit.1, hemit.2⟩
      · rename_i result emission' u hresult heq'
        rw [heq'] at hagain
        have hnone : emission' = .none := hagain.2 hresult
        subst hnone
        exact ⟨hback (retire (hhanded.again (hexpired rfl) hagain.1) hactive'), nofun⟩
    · rename_i result emission expired t hkeptOnce hreplayed heq
      rw [heq] at honce
      have hnone : emission = .none := honce.2.1 fun hok => by
        cases expired
        · exact hkeptOnce hok rfl
        · exact hreplayed hok rfl
      subst hnone
      exact ⟨hback (retire honce.1 hactive'), nofun⟩

end FrameEffect

section Ingress
variable {H : Hashes} {core : RuntimeCore} (hs : core.session.Invariant)
    (hroom : core.replies.length < replyCapacity)
include hs hroom

theorem processFrame_effect {record : IngressRecord} (hactive : core.routeIsActive record.route = true)
    (decoded : Except SpeakerAssetsProtocolResult SpeakerAssetsFrame) {noEmission : StepResult}
    (hnoEmission : noEmission ≠ .replyBackpressure) (allowed : Bool) (nowMs : UInt32) :
    FrameEffect core record.route record.admissionId
      (core.processFrame H record decoded noEmission allowed nowMs).2
      ∧ (core.processFrame H record decoded noEmission allowed nowMs).1 ≠ .replyBackpressure := by
  unfold processFrame
  split
  · exact ⟨.dropped hs _ _, nofun⟩
  · exact FrameEffect.consumeLogicalFrame hs hactive hroom _ nowMs hnoEmission allowed

theorem processIngress_effect (record : IngressRecord) (allowed : Bool) (nowMs : UInt32) :
    FrameEffect core record.route record.admissionId (core.processIngress H record allowed nowMs).2
      ∧ (core.processIngress H record allowed nowMs).1 ≠ .replyBackpressure := by
  unfold processIngress
  split
  · exact ⟨.dropped hs _ _, nofun⟩
  · rename_i hactive
    have hactive : core.routeIsActive record.route = true := by simpa using hactive
    split
    · exact processFrame_effect hs hroom hactive _ (by simp) allowed nowMs
    · exact processFrame_effect hs hroom hactive _ (by simp) allowed nowMs

theorem stepIngress_effect (record : IngressRecord) (allowed : Bool) (nowMs : UInt32) :
    FrameEffect core record.route record.admissionId (core.stepIngress H record allowed nowMs).2
      ∧ (core.stepIngress H record allowed nowMs).1 ≠ .replyBackpressure := by
  obtain ⟨heffect, hresult⟩ := processIngress_effect (H := H) hs hroom record allowed nowMs
  unfold stepIngress
  dsimp only
  split
  · refine ⟨heffect.expired nowMs, ?_⟩
    dsimp only
    split
    · exact nofun
    · exact hresult
  · exact ⟨heffect, hresult⟩

end Ingress

/-! ## Actions -/

/-- What an answer of the executor leads to: it is refused, or the action is over and its admission
retired or replied to. -/
inductive ActionEffect (core : RuntimeCore) (completion : SpeakerAssetsActionCompletion)
    (t : RuntimeCore) : Prop
  | refused (hsame : t = core) (hother : ¬ Session.Answers completion core.session.pending)
  | ended (hanswers : Session.Answers completion core.session.pending) (hsession : t.session.Invariant)
    (hidle : t.session.pending.active = false) (hhanded : t.handed = core.handed)
    (hpart : t.sessionPartialActive = false)
    (hqueues :
      let done :=
        { core.toRuntimeQueues with pendingAction := {}, pendingActionLease := {}, pendingActionActive := false }
      t.toRuntimeQueues =
          done.retireAdmissionWithoutReply core.pendingActionLease.route core.pendingActionLease.admissionId
        ∨ core.session.pending.orphaned = false
          ∧ ∃ frame, done.pushReply core.pendingAction.route frame
            core.pendingActionLease.admissionId = some t.toRuntimeQueues)

theorem completeAction_effect {core : RuntimeCore} (hs : core.session.Invariant)
    (hactive : core.session.pending.active = true) (hroom : core.replies.length < replyCapacity)
    (completion : SpeakerAssetsActionCompletion)
    (nowMs : UInt32) {done : StepResult} (hdone : done ≠ .replyBackpressure) :
    ActionEffect core completion (core.completeAction completion nowMs done).2
      ∧ (core.completeAction completion nowMs done).1 ≠ .replyBackpressure := by
  have hcomplete := Session.pending_complete core.session completion
  have hemission := Session.emission_complete (s := core.session) completion
  have hinvariant := hs.complete completion
  unfold completeAction
  dsimp only
  split
  · rename_i emission session heq
    rw [heq] at hcomplete hemission hinvariant
    obtain ⟨-, hidle, hanswers, -⟩ := hcomplete.resolve_right fun h => h.1 rfl
    -- the timers that the completion starts or stops
    have htimed (start : RuntimeCore) :
        let t := if session.routeBound ∧ session.route = core.pendingAction.route then
            start.refreshSessionLease core.pendingAction.route session.sessionCookie nowMs
          else if session.routeBound then start else start.clearSessionLease
        Timed core.pendingAction.route start t ∧ t.sessionPartialActive = start.sessionPartialActive := by
      dsimp only
      split
      · refine ⟨.refreshSessionLease _ _ _, ?_⟩
        unfold refreshSessionLease
        split <;> rfl
      · split
        · exact ⟨.refl, rfl⟩
        · exact ⟨.clearSessionLease, rfl⟩
    obtain ⟨htimed, hpart⟩ := htimed
      { core with
        session, pendingAction := {}, pendingActionLease := {}, pendingActionActive := false,
          sessionPartialActive := false }
    generalize (if session.routeBound = true ∧ session.route = core.pendingAction.route then _ else
      _) = t at htimed hpart ⊢
    have hsession := htimed.session hinvariant
    have hpending : t.session.pending.active = false := htimed.pending ▸ hidle
    cases emission with
    | none =>
      refine ⟨.ended hanswers hsession hpending htimed.handed hpart (.inl ?_), hdone⟩
      exact congrArg
        (·.retireAdmissionWithoutReply core.pendingActionLease.route core.pendingActionLease.admissionId)
        htimed.queues
    | reply frame =>
      have hlive := ((hemission rfl).resolve_left nofun).1
      have hroom' : t.replies.length < replyCapacity := by rwa [htimed.queues]
      obtain ⟨queues, hpush, hreply⟩ := @FrameEffect.reply_eq core.pendingAction.route _
        core.pendingActionLease.admissionId frame done hroom'
      dsimp only
      rw [hreply]
      refine ⟨.ended hanswers hsession hpending htimed.handed hpart (.inr ⟨hlive, frame, ?_⟩), hdone⟩
      rw [htimed.queues] at hpush
      exact hpush
    | action view =>
      rcases hemission rfl with h | ⟨-, frame, h⟩ <;> cases h
  · rename_i hrefused
    refine ⟨.refused rfl fun hanswers => ?_, nofun⟩
    rcases hcomplete with ⟨hok, -⟩ | ⟨-, -, hnot⟩
    · exact hrefused _ _ (Prod.ext hok rfl)
    · exact hnot ⟨hactive, hanswers⟩

/-! ## Steps -/

/-- Everything one step can do. -/
inductive StepEffect (core t : RuntimeCore) : Prop
  | opened (record : LifecycleRecord) (rest : List LifecycleRecord)
    (slots : List (Option SpeakerAssetsRouteToken))
    (hlifecycle : core.lifecycle = record :: rest) (hkind : record.kind = .opened)
    (hslots : ∀ route, some route ∈ slots → some route ∈ core.activeRoutes
      ∨ route = record.route ∧ core.routeGenerationIsClosed record.route = false)
    (ht : t = { core with lifecycle := rest, activeRoutes := slots })
  | closed (record : LifecycleRecord) (rest : List LifecycleRecord)
    (hlifecycle : core.lifecycle = record :: rest)
    (hkind : record.kind = .closed) (ht : t = { core with lifecycle := rest }.closeRoute record.route)
  | waited (hqueues : t.toRuntimeQueues = core.toRuntimeQueues) (hsession : t.session.Invariant)
    (hpending : PendingKept core.session t.session) (hhanded : t.handed = core.handed)
    (hpart : t.sessionPartialActive = true →
      core.sessionPartialActive = true ∧ t.sessionPartialRoute = core.sessionPartialRoute)
  | completed (completion : SpeakerAssetsActionCompletion) (hactive : core.pendingActionActive = true)
    (heffect : ActionEffect core completion t)
  | framed (record : IngressRecord) (rest : List IngressRecord) (hidle : core.pendingActionActive = false)
    (hlifecycle : core.lifecycle = []) (hingress : core.ingress = record :: rest)
    (heffect : FrameEffect { core with ingress := rest } record.route record.admissionId t)

section Steps
variable {core : RuntimeCore}

/-- Only a route whose generation is not closed is added to the active ones. -/
theorem activateRoute_eq (q : RuntimeQueues) (route : SpeakerAssetsRouteToken) :
    ∃ slots, (q.activateRoute route).2 = { q with activeRoutes := slots }
      ∧ ∀ other, some other ∈ slots → some other ∈ q.activeRoutes ∨ other = route ∧
      q.routeGenerationIsClosed route = false := by
  unfold RuntimeQueues.activateRoute
  split
  · exact ⟨q.activeRoutes, rfl, fun other hmem => .inl hmem⟩
  · rename_i hopen
    split
    · exact ⟨q.activeRoutes, rfl, fun other hmem => .inl hmem⟩
    · split
      · exact ⟨q.activeRoutes, rfl, fun other hmem => .inl hmem⟩
      · refine ⟨_, rfl, fun other hmem => ?_⟩
        rcases List.mem_or_eq_of_mem_set hmem with hmem | heq
        · exact .inl hmem
        · exact .inr ⟨Option.some.inj heq, by simpa using hopen⟩

theorem processLifecycle_effect (record : LifecycleRecord) (rest : List LifecycleRecord)
    (hlifecycle : core.lifecycle = record :: rest) :
    StepEffect core ({ core with lifecycle := rest }.processLifecycle record).2 := by
  unfold processLifecycle
  split
  · rename_i hkind
    obtain ⟨slots, heq, hslots⟩ :=
      activateRoute_eq { core.toRuntimeQueues with lifecycle := rest } record.route
    refine .opened record rest slots hlifecycle hkind hslots ?_
    dsimp only
    rw [heq]
  · rename_i hkind
    exact .closed record rest hlifecycle hkind rfl

theorem waited_of_timed {route : SpeakerAssetsRouteToken} {t : RuntimeCore} (hs : core.session.Invariant)
    (h : Timed route core t) (hpart : t.sessionPartialActive = true →
      core.sessionPartialActive = true ∧ t.sessionPartialRoute = core.sessionPartialRoute) :
        StepEffect core t :=
  .waited h.queues (h.session hs) (.of_eq h.pending) h.handed hpart

theorem expireSessionLease_cases (core : RuntimeCore) (nowMs : UInt32) :
    (core.expireSessionLease nowMs = (false, core) ∨
      core.expireSessionLease nowMs = (false, core.clearSessionLease))
      ∨ ∃ t, core.expireSessionLease nowMs = (true, t) ∧ t.toRuntimeQueues = core.toRuntimeQueues
          ∧ t.session = core.session.routeClosed core.sessionLeaseRoute ∧ t.handed = core.handed
          ∧ (t.sessionPartialActive = true → core.sessionPartialActive = true ∧
            t.sessionPartialRoute = core.sessionPartialRoute) := by
  unfold expireSessionLease
  split
  · exact .inl (.inl rfl)
  · split
    · exact .inl (.inr rfl)
    · split
      · exact .inl (.inl rfl)
      · split
        · exact .inl (.inl rfl)
        · refine .inr ⟨_, rfl, ?_⟩
          dsimp only
          split
          · exact ⟨rfl, rfl, rfl, nofun⟩
          · exact ⟨rfl, rfl, rfl, fun h => ⟨h, rfl⟩⟩

theorem processPendingAction_effect (h : core.Invariant) (hactive : core.pendingActionActive = true)
    (nowMs : UInt32)
    (allowed : Bool) (executor : Option ActionExecutor) :
    StepEffect core (core.processPendingAction nowMs allowed executor).2
      ∧ ((core.processPendingAction nowMs allowed executor).1 = .replyBackpressure →
          (core.processPendingAction nowMs allowed executor).2 = core) := by
  have hself : StepEffect core core := @waited_of_timed _ {} _ h.session .refl fun hp => ⟨hp, rfl⟩
  unfold processPendingAction
  split
  · exact ⟨hself, nofun⟩
  · split
    · exact ⟨hself, fun _ => rfl⟩
    · rename_i hroom
      have hroom : core.replies.length < replyCapacity := by omega
      split
      · exact ⟨hself, nofun⟩
      · split
        · exact ⟨hself, nofun⟩
        · rename_i completion hcompleted
          have hdone : StepResult.actionCompleted ≠ .replyBackpressure := nofun
          have heffect :=
            completeAction_effect h.session (h.pending hactive).active hroom completion nowMs hdone
          exact ⟨.completed completion hactive heffect.1, fun hresult => absurd hresult heffect.2⟩
        · have hdone : StepResult.executorRejected ≠ .replyBackpressure := nofun
          have heffect := completeAction_effect h.session (h.pending hactive).active hroom
            { token := core.pendingAction.token, kind := core.pendingAction.kind,
              result := .unavailable } nowMs hdone
          exact ⟨.completed _ hactive heffect.1, fun hresult => absurd hresult heffect.2⟩

/-- The ingress queue is served once the lease is as it was, or cleared. -/
theorem ingress_effect {H : Hashes} (h : core.Invariant) (hlifecycle : core.lifecycle = [])
    (hidle : core.pendingActionActive = false) {nowMs : UInt32} {allowed : Bool} (start : RuntimeCore)
    (hstart : start = core ∨ start = core.clearSessionLease) :
    let (result, t) :=
      if start.replies.length ≥ replyCapacity then (StepResult.replyBackpressure, start)
      else match start.ingress with
        | record :: ingress => { start with ingress }.stepIngress H record allowed nowMs
        | [] => (.idle, start)
    StepEffect core t
      ∧ (result = .replyBackpressure → t.toRuntimeQueues = core.toRuntimeQueues ∧ t.session = core.session
        ∧ t.handed = core.handed) := by
  have hkept : Timed {} core start ∧ start.session = core.session
      ∧ start.sessionPartialActive = core.sessionPartialActive ∧
      start.sessionPartialRoute = core.sessionPartialRoute := by
    rcases hstart with rfl | rfl
    · exact ⟨.refl, rfl, rfl, rfl⟩
    · exact ⟨.clearSessionLease, rfl, rfl, rfl⟩
  obtain ⟨hkept, hsession, hpart, hpartialRoute⟩ := hkept
  have hwaits : StepEffect core start :=
    waited_of_timed h.session hkept fun hp => ⟨hpart ▸ hp, hpartialRoute⟩
  dsimp only
  split
  · exact ⟨hwaits, fun _ => ⟨hkept.queues, hsession, hkept.handed⟩⟩
  · rename_i hroom
    split
    · rename_i record rest hingress
      rw [hkept.queues] at hingress hroom
      have heffect := @stepIngress_effect H { start with ingress := rest }
        (hkept.session h.session) (by simpa [hkept.queues] using hroom) record allowed nowMs
      refine ⟨.framed record rest hidle hlifecycle hingress (heffect.1.before ?_ hkept.pending hkept.handed
        fun hp => .inl ⟨hpart ▸ hp, hpartialRoute⟩), fun hback => absurd hback heffect.2⟩
      simp [hkept.queues]
    · exact ⟨hwaits, fun hback => by cases hback⟩

theorem stepOnce_effect {H : Hashes} (h : core.Invariant) (nowMs : UInt32) (allowed : Bool)
    (executor : Option ActionExecutor) :
    StepEffect core (core.stepOnce H nowMs allowed executor).2
      ∧ ((core.stepOnce H nowMs allowed executor).1 = .replyBackpressure →
          (core.stepOnce H nowMs allowed executor).2.toRuntimeQueues = core.toRuntimeQueues
          ∧ (core.stepOnce H nowMs allowed executor).2.session = core.session
          ∧ (core.stepOnce H nowMs allowed executor).2.handed = core.handed) := by
  unfold stepOnce
  split
  · rename_i record rest hlifecycle
    refine ⟨processLifecycle_effect record rest hlifecycle, fun hresult => ?_⟩
    unfold processLifecycle at hresult
    split at hresult
    · dsimp only at hresult
      split at hresult <;> cases hresult
    · cases hresult
  · rename_i hlifecycle
    have htimed : Timed {} core (core.expirePartials nowMs).2 := .expirePartials nowMs
    unfold expirePartials at htimed ⊢
    split
    · rename_i t heq
      split at heq
      · rename_i hexpires
        cases heq
        rw [if_pos hexpires] at htimed
        exact ⟨waited_of_timed h.session htimed nofun, fun hback => by cases hback⟩
      · cases heq
    · rename_i t heq
      split at heq
      · cases heq
      · cases heq
        by_cases hactive : core.pendingActionActive = true
        · rw [if_pos hactive]
          obtain ⟨heffect, hresult⟩ := processPendingAction_effect h hactive nowMs allowed executor
          exact ⟨heffect, fun hback => by rw [hresult hback]; exact ⟨rfl, rfl, rfl⟩⟩
        · rw [if_neg hactive]
          have hidle : core.pendingActionActive = false := by simpa using hactive
          rcases expireSessionLease_cases core nowMs with (heq | heq)
            | ⟨t, heq, hqueues, hsession, hhanded, hpart⟩
          · rw [heq]
            exact ingress_effect h hlifecycle hidle core (.inl rfl)
          · rw [heq]
            exact ingress_effect h hlifecycle hidle core.clearSessionLease (.inr rfl)
          · rw [heq]
            refine ⟨.waited hqueues (hsession ▸ h.session.routeClosed _)
              (hsession ▸ Session.pendingKept_routeClosed _ _) hhanded
              hpart, fun hback => by cases hback⟩

end Steps

/-! ## The invariant is kept -/

namespace Invariant

variable {core t : RuntimeCore}

/-- The pending action and the routes are as they were. -/
theorem kept (h : core.Invariant) (hqueues : t.toRuntimeQueues = core.toRuntimeQueues)
    (hsession : t.session.Invariant)
    (hpending : PendingKept core.session t.session)
    (hpart : t.sessionPartialActive = true →
      core.sessionPartialActive = true ∧ t.sessionPartialRoute = core.sessionPartialRoute) :
        t.Invariant where
  session := hsession
  idle hidle := by
    rw [hpending.pending]
    exact h.idle (hqueues ▸ hidle)
  pending hactive := by
    have hold := h.pending (hqueues ▸ hactive)
    rw [hqueues]
    exact ⟨hpending.pending ▸ hold.active, hpending.pending ▸ hold.route, hpending.pending ▸ hold.token,
      hpending.pending ▸ hold.kind⟩
  lease hactive := hqueues ▸ h.lease (hqueues ▸ hactive)
  pendingShape hactive := hqueues ▸ h.pendingShape (hqueues ▸ hactive)
  lifecycleShape := hqueues ▸ h.lifecycleShape
  activeShape := hqueues ▸ h.activeShape
  partialShape hp := by
    rw [(hpart hp).2]
    exact h.partialShape (hpart hp).1
  filter := hqueues ▸ h.filter

/-- Changes to the queues that the invariant does not speak of, and fewer active routes. -/
theorem requeued (h : core.Invariant) {queues : RuntimeQueues}
    (hpendingAction : queues.pendingAction = core.pendingAction)
    (hlease : queues.pendingActionLease = core.pendingActionLease)
    (hactive : queues.pendingActionActive = core.pendingActionActive)
    (hlifecycle : ∀ record ∈ queues.lifecycle, routeShapeIsValid record.route = true)
    (hslots : ∀ route, some route ∈ queues.activeRoutes → routeShapeIsValid route = true)
    (hfilter : queues.closedRouteFilter.length = closedRouteFilterWords) :
    { core with toRuntimeQueues := queues }.Invariant where
  session := h.session
  idle hidle := h.idle (hactive ▸ hidle)
  pending hpending := hpendingAction ▸ h.pending (hactive ▸ hpending)
  lease hpending := by
    dsimp only
    rw [hlease, hpendingAction]
    exact h.lease (hactive ▸ hpending)
  pendingShape hpending := by
    dsimp only
    rw [hpendingAction]
    exact h.pendingShape (hactive ▸ hpending)
  lifecycleShape := hlifecycle
  activeShape := hslots
  partialShape := h.partialShape
  filter := hfilter

/-- Other replies, another ring of frames, another release. -/
theorem traffic (h : core.Invariant) (ingress : List IngressRecord) (replies : List RuntimeReply)
    (nextReplySequence : UInt32)
    (releaseNow : LogicalRequestLease) (queued released : List LogicalRequestLease) :
    { core with ingress, replies, nextReplySequence, releaseNow, queued, released }.Invariant :=
  h.requeued rfl rfl rfl h.lifecycleShape h.activeShape h.filter

end Invariant

theorem retireAdmissionWithoutReply_eq (q : RuntimeQueues) (route : SpeakerAssetsRouteToken)
    (admissionId : UInt64) :
    q.retireAdmissionWithoutReply route admissionId =
      { q with
        ingress := (q.retireAdmissionWithoutReply route admissionId).ingress
        releaseNow := (q.retireAdmissionWithoutReply route admissionId).releaseNow } := by
  unfold RuntimeQueues.retireAdmissionWithoutReply
  split <;> rfl

theorem pushReply_eq {q q' : RuntimeQueues} {route : SpeakerAssetsRouteToken}
    {frame : SpeakerAssetsFrame} {admissionId : UInt64}
    (h : q.pushReply route frame admissionId = some q') :
    q' =
      { q with
        replies := q.replies ++
          [{ sequence := q.nextReplySequence, route, lease := { route, admissionId }, frame }]
        nextReplySequence := q'.nextReplySequence
        queued := q.queued ++ [{ route, admissionId }] } := by
  unfold RuntimeQueues.pushReply at h
  split at h
  · cases h
  · cases h
    rfl

/-- The record that decides keeps its place and its route. -/
theorem map_route_foldLifecycle {kind : LifecycleKind} {route : SpeakerAssetsRouteToken}
    {records : List LifecycleRecord}
    {result : EnqueueResult} {folded : List LifecycleRecord}
    (h : RuntimeQueues.foldLifecycle kind route records = some (result, folded)) :
    folded.map (·.route) = records.map (·.route) := by
  induction records generalizing result folded with
  | nil => cases h
  | cons record rest ih =>
    unfold RuntimeQueues.foldLifecycle at h
    split at h
    · simp only [Option.map_eq_some_iff, Prod.exists, Prod.mk.injEq] at h
      obtain ⟨result', folded', hfolded, -, rfl⟩ := h
      simp [ih hfolded]
    · split at h
      · cases h
        rfl
      · split at h <;> cases h <;> rfl

theorem enqueueLifecycle_eq (q : RuntimeQueues) (kind : LifecycleKind) (route : SpeakerAssetsRouteToken) :
    ∃ lifecycle, (q.enqueueLifecycle kind route).2 = { q with lifecycle }
      ∧ ∀ record ∈ lifecycle, record.route ∈ q.lifecycle.map (·.route)
          ∨ record.route = route ∧ routeShapeIsValid route = true := by
  have hsame : ∀ record ∈ q.lifecycle, record.route ∈ q.lifecycle.map (·.route)
      ∨ record.route = route ∧ routeShapeIsValid route = true :=
    fun record hmem => .inl (List.mem_map_of_mem hmem)
  unfold RuntimeQueues.enqueueLifecycle
  split
  · exact ⟨q.lifecycle, rfl, hsame⟩
  · rename_i hshape
    have hshape : routeShapeIsValid route = true := by simpa using hshape
    split
    · rename_i result lifecycle hfolded
      refine ⟨lifecycle, rfl, fun record hmem => .inl ?_⟩
      rw [← map_route_foldLifecycle hfolded]
      exact List.mem_map_of_mem hmem
    · split
      · exact ⟨q.lifecycle, rfl, hsame⟩
      · split
        · exact ⟨q.lifecycle, rfl, hsame⟩
        · refine ⟨_, rfl, fun record hmem => ?_⟩
          rcases List.mem_append.mp hmem with hmem | hmem
          · exact hsame record hmem
          · obtain rfl := List.mem_singleton.mp hmem
            exact .inr ⟨rfl, hshape⟩

theorem enqueueIngress_eq (q : RuntimeQueues) (kind : IngressKind) (route : SpeakerAssetsRouteToken)
    (bytes : List UInt8)
    (receivedMs : UInt32) (admissionId : UInt64) :
    (q.enqueueIngress kind route bytes receivedMs admissionId).1 = .accepted
        ∧ (q.enqueueIngress kind route bytes receivedMs admissionId).2 =
            { q with ingress := q.ingress ++ [{ kind, route, admissionId, receivedMs, bytes }] }
      ∨ (q.enqueueIngress kind route bytes receivedMs admissionId).1 ≠ .accepted
        ∧ (q.enqueueIngress kind route bytes receivedMs admissionId).2 = q := by
  unfold RuntimeQueues.enqueueIngress
  split
  · exact .inr ⟨by simp, rfl⟩
  · split
    · exact .inr ⟨by simp, rfl⟩
    · exact .inl ⟨rfl, rfl⟩

/-- What an import can do. -/
inductive ImportEffect (core : RuntimeCore) (record : MailboxRecord) (result : EnqueueResult)
    (t : RuntimeCore) : Prop
  | refused (hresult : result ≠ .accepted) (ht : t = core)
  | lifecycle (records : List LifecycleRecord) (hkind : record.kind = .routeOpened ∨
    record.kind = .routeClosed)
    (hroutes : ∀ other ∈ records, other.route ∈ core.lifecycle.map (·.route) ∨
      routeShapeIsValid other.route = true)
    (ht : t = { core with lifecycle := records })
  | revoked (hkind : record.kind = .allRoutesClosed) (hlive : record.cancelled = false)
    (ht : t = core.revokeAllRoutes record.route)
  | ingress (kind : IngressKind) (hkind : record.kind.isFrame = true) (hresult : result = .accepted)
    (ht : t =
      { core with
        ingress := core.ingress
          ++ [{ kind, route := record.route, admissionId := record.admissionId,
                receivedMs := record.receivedMs,
                bytes := record.bytes }] })

theorem importMailboxRecord_effect (core : RuntimeCore) (record : MailboxRecord) :
    ImportEffect core record (core.importMailboxRecord record).1 (core.importMailboxRecord record).2 := by
  have hlifecycle (kind : LifecycleKind) (hkind : record.kind = .routeOpened ∨ record.kind = .routeClosed) :
      ImportEffect core record (core.enqueueLifecycle kind record.route).1
        { core with toRuntimeQueues := (core.enqueueLifecycle kind record.route).2 } := by
    obtain ⟨records, heq, hroutes⟩ := enqueueLifecycle_eq core.toRuntimeQueues kind record.route
    refine .lifecycle records hkind (fun other hmem => ?_) ?_
    · rcases hroutes other hmem with hold | ⟨hnew, hshape⟩
      · exact .inl hold
      · exact .inr (hnew ▸ hshape)
    · rw [heq]
  have hingress (kind : IngressKind) (hframe : record.kind.isFrame = true) :
      ImportEffect core record
        (core.enqueueIngress kind record.route record.bytes record.receivedMs record.admissionId).1
        { core with
          toRuntimeQueues :=
            (core.enqueueIngress kind record.route
              record.bytes record.receivedMs record.admissionId).2 } := by
    rcases enqueueIngress_eq core.toRuntimeQueues kind record.route record.bytes record.receivedMs
      record.admissionId with
      ⟨hresult, heq⟩ | ⟨hresult, heq⟩
    · exact .ingress kind hframe hresult (by rw [heq])
    · exact .refused hresult (by rw [heq])
  unfold importMailboxRecord
  split
  · exact .refused (by simp) rfl
  · rename_i hlive
    split
    · rename_i hkind
      exact hlifecycle .opened (.inl hkind)
    · rename_i hkind
      exact hlifecycle .closed (.inr hkind)
    · rename_i hkind
      exact .revoked hkind (by simpa using hlive) rfl
    · rename_i hkind
      split
      · exact .refused (by simp) rfl
      · exact hingress .usbFrame (by rw [hkind]; rfl)
    · rename_i hkind
      split
      · exact .refused (by simp) rfl
      · exact hingress .wifiFrame (by rw [hkind]; rfl)

namespace Invariant

variable {core t : RuntimeCore}

/-- What `closeRoute` leaves, field by field. -/
theorem closeRoute_queues (core : RuntimeCore) (route : SpeakerAssetsRouteToken) :
    (core.closeRoute route).toRuntimeQueues =
      { core.toRuntimeQueues with
        closedRouteFilter := filterRemember core.closedRouteFilter route
        activeRoutes := core.activeRoutes.map fun slot => if slot = some route then none else slot
        ingress := core.ingress.filter (·.route != route)
        replies := core.replies.filter (·.route != route) }
      ∧ (core.closeRoute route).session = core.session.routeClosed route ∧
      (core.closeRoute route).handed = core.handed
      ∧ (core.closeRoute route).sessionPartialActive =
        (core.sessionPartialActive && core.sessionPartialRoute != route)
      ∧ (core.closeRoute route).sessionPartialRoute = core.sessionPartialRoute := by
  unfold RuntimeCore.closeRoute
  dsimp only
  split
  · exact ⟨rfl, rfl, rfl, rfl, rfl⟩
  · exact ⟨rfl, rfl, rfl, rfl, rfl⟩

theorem revokeAllRoutes (h : core.Invariant) (overflow : SpeakerAssetsRouteToken) :
    (core.revokeAllRoutes overflow).Invariant := by
  have hkept := Session.pendingKept_allRoutesClosed core.session
  have hpart : (core.revokeAllRoutes overflow).sessionPartialActive = false := rfl
  refine ⟨h.session.allRoutesClosed, fun hidle => ?_, fun hactive => ?_, h.lease,
    h.pendingShape, nofun, fun route hmem => ?_,
    fun hp => ?_, (length_foldl_filterRemember ..).trans h.filter⟩
  · exact (congrArg PendingAction.active hkept.pending).trans (h.idle hidle)
  · have hold := h.pending hactive
    exact ⟨(congrArg PendingAction.active hkept.pending).trans hold.active,
      (congrArg PendingAction.route hkept.pending).trans hold.route,
      (congrArg PendingAction.token hkept.pending).trans hold.token,
      (congrArg PendingAction.kind hkept.pending).trans hold.kind⟩
  · cases List.eq_of_mem_replicate hmem
  · rw [hpart] at hp
    cases hp

theorem closeRoute (h : core.Invariant) (route : SpeakerAssetsRouteToken) :
    (core.closeRoute route).Invariant := by
  obtain ⟨hqueues, hsession, -, hpart, hpartialRoute⟩ := closeRoute_queues core route
  have hkept := Session.pendingKept_routeClosed core.session route
  have hactive : (core.closeRoute route).pendingActionActive = core.pendingActionActive := by rw [hqueues]
  have haction : (core.closeRoute route).pendingAction = core.pendingAction := by rw [hqueues]
  refine ⟨hsession ▸ h.session.routeClosed route, fun hidle => ?_, fun hpending => ?_,
    fun hpending => ?_, fun hpending => ?_,
    ?_, fun other hmem => ?_, fun hp => ?_, ?_⟩
  · rw [hsession]
    exact (congrArg PendingAction.active hkept.pending).trans (h.idle (hactive ▸ hidle))
  · have hold := h.pending (hactive ▸ hpending)
    rw [hsession, haction]
    exact ⟨(congrArg PendingAction.active hkept.pending).trans hold.active,
      (congrArg PendingAction.route hkept.pending).trans hold.route,
      (congrArg PendingAction.token hkept.pending).trans hold.token,
      (congrArg PendingAction.kind hkept.pending).trans hold.kind⟩
  · rw [haction, hqueues]
    exact h.lease (hactive ▸ hpending)
  · rw [haction]
    exact h.pendingShape (hactive ▸ hpending)
  · rw [hqueues]
    exact h.lifecycleShape
  · rw [hqueues] at hmem
    obtain ⟨slot, hslot, heq⟩ := List.mem_map.mp hmem
    split at heq
    · cases heq
    · exact h.activeShape other (heq ▸ hslot)
  · rw [hpart, Bool.and_eq_true] at hp
    rw [hpartialRoute]
    exact h.partialShape hp.1
  · rw [hqueues]
    exact (length_filterRemember ..).trans h.filter

theorem of_import (h : core.Invariant) {record : MailboxRecord} {result : EnqueueResult}
    (heffect : ImportEffect core record result t) : t.Invariant := by
  cases heffect with
  | refused _ ht => exact ht ▸ h
  | lifecycle records _ hroutes ht =>
    subst ht
    refine h.requeued rfl rfl rfl (fun other hmem => ?_) h.activeShape h.filter
    rcases hroutes other hmem with hold | hshape
    · obtain ⟨old, hold, heq⟩ := List.mem_map.mp hold
      exact heq ▸ h.lifecycleShape old hold
    · exact hshape
  | revoked _ _ ht => exact ht ▸ h.revokeAllRoutes _
  | ingress kind _ _ ht =>
    subst ht
    exact h.traffic _ core.replies core.nextReplySequence core.releaseNow core.queued core.released

theorem importMailboxRecord (h : core.Invariant) (record : MailboxRecord) :
    (core.importMailboxRecord record).2.Invariant :=
  h.of_import (importMailboxRecord_effect core record)

/-- The action is over. -/
theorem of_ended (h : core.Invariant) {completion : SpeakerAssetsActionCompletion}
    (heffect : ActionEffect core completion t) :
    t.Invariant := by
  cases heffect with
  | refused hsame => exact hsame ▸ h
  | ended _ hsession hidle _ hpart hqueues =>
    have hfields :
      t.pendingActionActive = false ∧ t.lifecycle = core.lifecycle ∧ t.activeRoutes = core.activeRoutes
        ∧ t.closedRouteFilter = core.closedRouteFilter := by
      rcases hqueues with hretired | ⟨-, frame, hpush⟩
      · rw [hretired, retireAdmissionWithoutReply_eq]
        exact ⟨rfl, rfl, rfl, rfl⟩
      · rw [pushReply_eq hpush]
        exact ⟨rfl, rfl, rfl, rfl⟩
    obtain ⟨hactive, hlifecycle, hslots, hfilter⟩ := hfields
    have hnone {P : Prop} (hpending : t.pendingActionActive = true) : P := by
      rw [hactive] at hpending
      cases hpending
    refine ⟨hsession, fun _ => hidle, hnone, hnone, hnone, hlifecycle ▸ h.lifecycleShape,
      hslots ▸ h.activeShape, fun hp => ?_,
      hfilter ▸ h.filter⟩
    rw [hpart] at hp
    cases hp

/-- A frame is done with, or has begun an action. -/
theorem of_frame (h : core.Invariant) (hidle : core.pendingActionActive = false)
    {route : SpeakerAssetsRouteToken}
    {admissionId : UInt64} (heffect : FrameEffect core route admissionId t) : t.Invariant := by
  have hshape : core.routeIsActive route = true → routeShapeIsValid route = true := fun hactive => by
    obtain ⟨slot, hslot, heq⟩ := List.any_eq_true.mp hactive
    obtain rfl := eq_of_beq heq
    exact h.activeShape route hslot
  have hpart : t.sessionPartialActive = true → routeShapeIsValid t.sessionPartialRoute = true :=
    fun hp => by
    rcases heffect.partialRoute hp with ⟨hp, hroute⟩ | ⟨hactive, hroute⟩
    · exact hroute ▸ h.partialShape hp
    · exact hroute ▸ hshape hactive
  have hnone {P : Prop} (hsame : t.pendingActionActive = core.pendingActionActive)
    (hpending : t.pendingActionActive = true) :
      P := by
    rw [hsame, hidle] at hpending
    cases hpending
  cases heffect.outcome with
  | retired hqueues hpending =>
    rw [retireAdmissionWithoutReply_eq] at hqueues
    have hsame : t.pendingActionActive = core.pendingActionActive := by rw [hqueues]
    refine ⟨heffect.session, fun _ => hpending ▸ h.idle hidle, hnone hsame,
      hnone hsame, hnone hsame, ?_, ?_, hpart, ?_⟩
    · rw [hqueues]
      exact h.lifecycleShape
    · rw [hqueues]
      exact h.activeShape
    · rw [hqueues]
      exact h.filter
  | replied frame hpush hpending =>
    have hqueues := pushReply_eq hpush
    have hsame : t.pendingActionActive = core.pendingActionActive := by rw [hqueues]
    refine ⟨heffect.session, fun _ => hpending ▸ h.idle hidle, hnone hsame,
      hnone hsame, hnone hsame, ?_, ?_, hpart, ?_⟩
    · rw [hqueues]
      exact h.lifecycleShape
    · rw [hqueues]
      exact h.activeShape
    · rw [hqueues]
      exact h.filter
  | acted view hqueues hroute hpends hlive hactive =>
    have hview : t.pendingAction = view := by rw [hqueues]
    refine ⟨heffect.session, fun hidle' => ?_, fun _ => hview ▸ hpends,
      fun _ => ?_, fun _ => ?_, ?_, ?_, hpart, ?_⟩
    · rw [hqueues] at hidle'
      cases hidle'
    · rw [hqueues]
      exact hroute.symm
    · rw [hview, hroute]
      exact hshape hactive
    · rw [hqueues]
      exact h.lifecycleShape
    · rw [hqueues]
      exact h.activeShape
    · rw [hqueues]
      exact h.filter

theorem of_step (h : core.Invariant) (heffect : StepEffect core t) : t.Invariant := by
  cases heffect with
  | opened record rest slots hlifecycle _ hslots ht =>
    subst ht
    have hrecords :
      ∀ other ∈ record :: rest, routeShapeIsValid other.route = true := hlifecycle ▸ h.lifecycleShape
    refine h.requeued rfl rfl rfl (fun other hmem => hrecords other (.tail _ hmem))
      (fun route hmem => ?_) h.filter
    rcases hslots route hmem with hold | ⟨rfl, -⟩
    · exact h.activeShape route hold
    · exact hrecords record (.head _)
  | closed record rest hlifecycle _ ht =>
    have hrecords :
      ∀ other ∈ record :: rest, routeShapeIsValid other.route = true := hlifecycle ▸ h.lifecycleShape
    have hpopped : { core with lifecycle := rest }.Invariant :=
      h.requeued rfl rfl rfl (fun other hmem => hrecords other (.tail _ hmem)) h.activeShape h.filter
    exact ht ▸ hpopped.closeRoute record.route
  | waited hqueues hsession hpending _ hpart => exact h.kept hqueues hsession hpending hpart
  | completed completion _ heffect => exact h.of_ended heffect
  | framed record rest hidle _ _ heffect =>
    exact (h.traffic rest core.replies core.nextReplySequence
      core.releaseNow core.queued core.released).of_frame hidle heffect

theorem step {H : Hashes} (h : core.Invariant) (nowMs : UInt32) (allowed : Bool)
    (executor : Option ActionExecutor) :
    (core.step H nowMs allowed executor).2.Invariant := by
  have hstart := h.traffic core.ingress core.replies core.nextReplySequence {} core.queued core.released
  have hstep := hstart.of_step (stepOnce_effect (H := H) hstart nowMs allowed executor).1
  unfold RuntimeCore.step
  exact hstep.traffic _ _ _ _ _ _

theorem popReplyIfSequence (h : core.Invariant) (sequence : UInt32) :
    (core.popReplyIfSequence sequence).2.Invariant := by
  unfold RuntimeCore.popReplyIfSequence
  split
  · split
    · exact h
    · exact h.traffic core.ingress _ core.nextReplySequence core.releaseNow core.queued core.released
  · exact h

theorem removeReplyIfSequence (h : core.Invariant) (sequence : UInt32) :
    (core.removeReplyIfSequence sequence).2.Invariant := by
  unfold RuntimeCore.removeReplyIfSequence
  split
  · exact h
  · exact h.traffic core.ingress _ core.nextReplySequence core.releaseNow core.queued core.released

end Invariant

end RuntimeCore
end CodexKeyboard.Assets
