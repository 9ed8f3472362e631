import CodexKeyboard.Assets.RuntimeProofs
import CodexKeyboard.Assets.MailboxProofs
import Mathlib.Data.List.ReduceOption
/-!
# Closed routes stay closed

The mailbox and the core together, under any interleaving of callbacks, imports, steps and replies.
Once a close was called for, no frame of the route comes out of the mailbox before the close; once
the core has processed it, the route is never active again, no frame of it reaches the session and
no reply for it is queued.

| here | there |
| --- | --- |
| `RuntimeSystem`, `RuntimeEvent` | `SpeakerAssetsSupervisor` (main/platform/speaker_assets_supervisor.cpp:577-710) |
| `RuntimeSystem.ClosesInCore` | `process_lifecycle`, `revoke_all_routes` (speaker_assets_runtime.cpp:1101, 940) |
| `RuntimeCore.ClosedIn` | what a close leaves behind, with `closed_route_filter_` (speaker_assets_runtime.h:494-501) |

`taken` holds the records that were taken and not imported yet.
-/

namespace CodexKeyboard.Assets

open Lib

structure RuntimeSystem where
  mailbox : Mailbox := {}
  taken : List MailboxRecord := []
  core : RuntimeCore

/-- A callback, an import, a step or the removal of a reply. -/
inductive RuntimeEvent where
  | mailbox (event : MailboxEvent)
  | importRecord (record : MailboxRecord)
  | step (nowMs : UInt32) (allowed : Bool) (executor : Option ActionExecutor)
  | popReply (sequence : UInt32)
  | removeReply (sequence : UInt32)

inductive RuntimeAnswer where
  | mailbox (answer : MailboxAnswer)
  | imported (result : EnqueueResult)
  | stepped (outcome : StepOutcome)
  | removed (done : Bool)
deriving DecidableEq, Repr

namespace RuntimeSystem

def new (cookieSeed actionTokenSeed partialTimeoutMs sessionLeaseMs : UInt32) : RuntimeSystem where
  core := RuntimeCore.new cookieSeed actionTokenSeed partialTimeoutMs sessionLeaseMs

def step (H : Hashes) (sys : RuntimeSystem) : RuntimeEvent → RuntimeAnswer × RuntimeSystem
  | .mailbox event =>
    let (answer, mailbox) := sys.mailbox.step event
    (.mailbox answer, { sys with mailbox, taken := sys.taken ++ answer.record.toList })
  | .importRecord record =>
    let (result, core) := sys.core.importMailboxRecord record
    (.imported result, { sys with core, taken := sys.taken.erase record })
  | .step nowMs allowed executor =>
    let (outcome, core) := sys.core.step H nowMs allowed executor
    (.stepped outcome, { sys with core })
  | .popReply sequence =>
    let (done, core) := sys.core.popReplyIfSequence sequence
    (.removed done, { sys with core })
  | .removeReply sequence =>
    let (done, core) := sys.core.removeReplyIfSequence sequence
    (.removed done, { sys with core })

end RuntimeSystem

/-- The record that the call took from the mailbox. -/
def RuntimeAnswer.record : RuntimeAnswer → Option MailboxRecord
  | .mailbox answer => answer.record
  | .imported _ | .stepped _ | .removed _ => none

namespace RuntimeCore

/-! ## The core -/

/-- The route is anywhere in the core. -/
def Knows (core : RuntimeCore) (route : SpeakerAssetsRouteToken) : Prop :=
  (∃ record ∈ core.lifecycle, record.route = route) ∨ (∃ record ∈ core.ingress, record.route = route)
    ∨ (∃ reply ∈ core.replies, reply.route = route) ∨ core.routeIsActive route = true
    ∨ (core.session.routeBound = true ∧ core.session.route = route)
    ∨ (core.pendingActionActive = true ∧ core.pendingAction.route = route)
    ∨ (core.sessionPartialActive = true ∧ core.sessionPartialRoute = route)

/-- What a processed close leaves behind. -/
structure ClosedIn (core : RuntimeCore) (route : SpeakerAssetsRouteToken) : Prop where
  remembered : core.routeGenerationIsClosed route = true
  inactive : core.routeIsActive route = false
  silent : ∀ reply ∈ core.replies, reply.route ≠ route
  orphaned : core.pendingActionActive = true → core.pendingAction.route = route →
    core.session.pending.orphaned = true

/-- Nothing of the route was handed to the session and no reply for it was queued. -/
structure Shuns (route : SpeakerAssetsRouteToken) (core t : RuntimeCore) : Prop where
  handed : ∃ new, t.handed = core.handed ++ new ∧ route ∉ new
  queued : ∃ new, t.queued = core.queued ++ new ∧ ∀ lease ∈ new, lease.route ≠ route

variable {core t u : RuntimeCore} {route : SpeakerAssetsRouteToken}

namespace Shuns

theorem of_same (hhanded : t.handed = core.handed) (hqueued : t.queued = core.queued) :
    Shuns route core t :=
  ⟨⟨[], by simp [hhanded]⟩, ⟨[], by simp [hqueued]⟩⟩

theorem refl : Shuns route core core := of_same rfl rfl

theorem trans (h : Shuns route core t) (h' : Shuns route t u) : Shuns route core u where
  handed := by
    obtain ⟨new, hnew, hmem⟩ := h.handed
    obtain ⟨new', hnew', hmem'⟩ := h'.handed
    exact ⟨new ++ new', by rw [hnew', hnew, List.append_assoc], by simp [hmem, hmem']⟩
  queued := by
    obtain ⟨new, hnew, hmem⟩ := h.queued
    obtain ⟨new', hnew', hmem'⟩ := h'.queued
    refine ⟨new ++ new', by rw [hnew', hnew, List.append_assoc], fun lease hlease => ?_⟩
    exact (List.mem_append.mp hlease).elim (hmem lease) (hmem' lease)

end Shuns

theorem inactive_iff {slots : List (Option SpeakerAssetsRouteToken)} :
    (slots.any (· == some route)) = false ↔ some route ∉ slots := by
  rw [List.any_eq_false]
  simp only [beq_iff_eq]
  constructor
  · intro h hmem
    exact h _ hmem rfl
  · rintro h slot hmem rfl
    exact h hmem

theorem shuns_closeRoute (core : RuntimeCore) (other : SpeakerAssetsRouteToken) :
    Shuns route core (core.closeRoute other) := by
  obtain ⟨hqueues, -, hhanded, -⟩ := Invariant.closeRoute_queues core other
  exact .of_same hhanded (by rw [hqueues])

/-- The routes that the core remembers on an overflow are those it knows of, and the overflowing one. -/
theorem mem_knownRoutes (h : core.Invariant) {overflow : SpeakerAssetsRouteToken}
    (hknows : core.Knows route ∨ routeShapeIsValid overflow = true ∧ overflow = route) :
    route ∈ core.knownRoutes overflow := by
  unfold knownRoutes
  simp only [List.mem_append]
  rcases hknows with (⟨record, hmem, rfl⟩ | ⟨record, hmem, rfl⟩ | ⟨reply, hmem, rfl⟩
    | hactive | ⟨hbound, rfl⟩ | ⟨hpending, rfl⟩
    | ⟨hpart, rfl⟩) | ⟨hshape, rfl⟩
  · exact .inl (.inl (.inl (.inl (.inl (.inl (.inr (List.mem_map_of_mem hmem)))))))
  · exact .inl (.inl (.inl (.inl (.inl (.inr (List.mem_map_of_mem hmem))))))
  · exact .inl (.inl (.inl (.inl (.inr (List.mem_map_of_mem hmem)))))
  · refine .inl (.inl (.inl (.inr (List.reduceOption_mem_iff.mpr ?_))))
    obtain ⟨slot, hslot, heq⟩ := List.any_eq_true.mp hactive
    obtain rfl := eq_of_beq heq
    exact hslot
  · exact .inl (.inl (.inr (by simp [hbound])))
  · exact .inl (.inr (by simp [hpending, h.pendingShape hpending]))
  · exact .inr (by simp [hpart, h.partialShape hpart])
  · exact .inl (.inl (.inl (.inl (.inl (.inl (.inl (by simp [hshape])))))))

/-- Closing every route closes those the core knew. -/
theorem closedIn_revokeAllRoutes (h : core.Invariant) {overflow : SpeakerAssetsRouteToken}
    (hknows : core.Knows route ∨ routeShapeIsValid overflow = true ∧ overflow = route) :
    (core.revokeAllRoutes overflow).ClosedIn route where
  remembered := filterContains_foldl_self h.filter (mem_knownRoutes h hknows)
  inactive := inactive_iff.mpr fun hmem => by cases List.eq_of_mem_replicate hmem
  silent := nofun
  orphaned hactive _ := Session.orphaned_allRoutesClosed (h.pending hactive).active

theorem closedIn_closeRoute (h : core.Invariant) (route : SpeakerAssetsRouteToken) :
    (core.closeRoute route).ClosedIn route := by
  obtain ⟨hqueues, hsession, -, -, -⟩ := Invariant.closeRoute_queues core route
  refine ⟨?_, inactive_iff.mpr fun hmem => ?_, fun reply hmem => ?_, fun hactive hroute => ?_⟩
  · unfold RuntimeQueues.routeGenerationIsClosed
    rw [hqueues]
    exact filterContains_remember_self h.filter route
  · rw [hqueues] at hmem
    obtain ⟨slot, -, heq⟩ := List.mem_map.mp hmem
    split at heq
    · cases heq
    · contradiction
  · rw [hqueues] at hmem
    simpa using (List.mem_filter.mp hmem).2
  · rw [hsession]
    have hactive : core.pendingActionActive = true := by rwa [hqueues] at hactive
    have hroute : core.pendingAction.route = route := by rwa [hqueues] at hroute
    have hpends := h.pending hactive
    exact Session.orphaned_routeClosed hpends.active (hpends.route.trans hroute)

namespace ClosedIn

/-- The filter and the active routes as they were, and no reply for the route. -/
theorem of_fields (hclosed : core.ClosedIn route) (hfilter : t.closedRouteFilter = core.closedRouteFilter)
    (hslots : t.activeRoutes = core.activeRoutes) (hreplies : ∀ reply ∈ t.replies,
      reply ∈ core.replies ∨ reply.route ≠ route)
    (horphaned : t.pendingActionActive = true → t.pendingAction.route = route →
      t.session.pending.orphaned = true) :
    t.ClosedIn route where
  remembered := by
    unfold RuntimeQueues.routeGenerationIsClosed
    rw [hfilter]
    exact hclosed.remembered
  inactive := by
    unfold RuntimeQueues.routeIsActive
    rw [hslots]
    exact hclosed.inactive
  silent reply hmem := (hreplies reply hmem).elim (hclosed.silent reply) id
  orphaned := horphaned

theorem of_import (h : core.Invariant) (hclosed : core.ClosedIn route) {record : MailboxRecord}
    {result : EnqueueResult}
    (heffect : ImportEffect core record result t) : t.ClosedIn route ∧ Shuns route core t := by
  cases heffect with
  | refused _ ht =>
    subst ht
    exact ⟨hclosed, .refl⟩
  | lifecycle records _ _ ht =>
    subst ht
    exact ⟨⟨hclosed.remembered, hclosed.inactive, hclosed.silent, hclosed.orphaned⟩, .of_same rfl rfl⟩
  | revoked _ _ ht =>
    subst ht
    refine ⟨⟨filterContains_foldl hclosed.remembered _, inactive_iff.mpr fun hmem => ?_,
      nofun, fun hactive _ => ?_⟩,
      .of_same rfl rfl⟩
    · cases List.eq_of_mem_replicate hmem
    · exact Session.orphaned_allRoutesClosed (h.pending hactive).active
  | ingress kind _ _ ht =>
    subst ht
    exact ⟨⟨hclosed.remembered, hclosed.inactive, hclosed.silent, hclosed.orphaned⟩, .of_same rfl rfl⟩

/-- A close of another route. -/
theorem closeRoute (hclosed : core.ClosedIn route) (other : SpeakerAssetsRouteToken) :
    (core.closeRoute other).ClosedIn route ∧ Shuns route core (core.closeRoute other) := by
  obtain ⟨hqueues, hsession, -, -, -⟩ := Invariant.closeRoute_queues core other
  refine ⟨⟨?_, inactive_iff.mpr fun hmem => ?_, fun reply hmem => ?_, fun hactive hroute => ?_⟩,
    shuns_closeRoute core other⟩
  · unfold RuntimeQueues.routeGenerationIsClosed
    rw [hqueues]
    exact filterContains_remember hclosed.remembered other
  · rw [hqueues] at hmem
    obtain ⟨slot, hslot, heq⟩ := List.mem_map.mp hmem
    split at heq
    · cases heq
    · exact inactive_iff.mp hclosed.inactive (heq ▸ hslot)
  · rw [hqueues] at hmem
    exact hclosed.silent reply (List.mem_filter.mp hmem).1
  · rw [hsession]
    have hactive : core.pendingActionActive = true := by rwa [hqueues] at hactive
    have hroute : core.pendingAction.route = route := by rwa [hqueues] at hroute
    exact (Session.pendingKept_routeClosed core.session other).orphaned (hclosed.orphaned hactive hroute)

theorem of_frame (hclosed : core.ClosedIn route) {other : SpeakerAssetsRouteToken} {admissionId : UInt64}
    (heffect : FrameEffect core other admissionId t) (hidle : core.pendingActionActive = false) :
    t.ClosedIn route ∧ Shuns route core t := by
  have hother : core.routeIsActive other = true → other ≠ route := fun hactive heq => by
    rw [heq, hclosed.inactive] at hactive
    cases hactive
  have hhanded : ∃ new, t.handed = core.handed ++ new ∧ route ∉ new := by
    obtain ⟨n, hn, hzero⟩ := heffect.handed
    refine ⟨_, hn, fun hmem => ?_⟩
    by_cases hactive : core.routeIsActive other = true
    · exact hother hactive (List.eq_of_mem_replicate hmem).symm
    · rw [hzero (by simpa using hactive)] at hmem
      cases hmem
  cases heffect.outcome with
  | retired hqueues _ =>
    rw [retireAdmissionWithoutReply_eq] at hqueues
    refine ⟨hclosed.of_fields (by rw [hqueues]) (by rw [hqueues])
      (fun reply hmem => .inl ?_) fun hactive => ?_, hhanded,
      [], by rw [hqueues, List.append_nil], nofun⟩
    · rwa [hqueues] at hmem
    · rw [hqueues, hidle] at hactive
      cases hactive
  | replied frame hpush _ hactive =>
    have hqueues := pushReply_eq hpush
    refine ⟨hclosed.of_fields (by rw [hqueues]) (by rw [hqueues])
      (fun reply hmem => ?_) fun hactive => ?_, hhanded,
      [{ route := other, admissionId }], by rw [hqueues], fun lease hmem => ?_⟩
    · rw [hqueues] at hmem
      rcases List.mem_append.mp hmem with hmem | hmem
      · exact .inl hmem
      · rw [List.mem_singleton.mp hmem]
        exact .inr (hother hactive)
    · rw [hqueues, hidle] at hactive
      cases hactive
    · rw [List.mem_singleton.mp hmem]
      exact hother hactive
  | acted view hqueues hview _ _ hactive =>
    refine ⟨hclosed.of_fields (by rw [hqueues]) (by rw [hqueues])
      (fun reply hmem => .inl ?_) fun _ hroute => ?_, hhanded,
      [], by rw [hqueues, List.append_nil], nofun⟩
    · rwa [hqueues] at hmem
    · rw [hqueues] at hroute
      exact absurd (hview.symm.trans hroute) (hother hactive)

/-- An action of the route that ends late says nothing: it is an orphan. -/
theorem of_ended (h : core.Invariant) (hclosed : core.ClosedIn route)
    (hactive : core.pendingActionActive = true)
    {completion : SpeakerAssetsActionCompletion} (heffect : ActionEffect core completion t) :
    t.ClosedIn route ∧ Shuns route core t := by
  cases heffect with
  | refused hsame =>
    subst hsame
    exact ⟨hclosed, .refl⟩
  | ended _ _ _ hhanded _ hqueues =>
    rcases hqueues with hqueues | ⟨hlive, frame, hpush⟩
    · rw [retireAdmissionWithoutReply_eq] at hqueues
      refine ⟨hclosed.of_fields (by rw [hqueues]) (by rw [hqueues])
        (fun reply hmem => .inl ?_) fun hpending => ?_,
        .of_same hhanded (by rw [hqueues])⟩
      · rwa [hqueues] at hmem
      · rw [hqueues] at hpending
        cases hpending
    · have hother : core.pendingAction.route ≠ route := fun heq => by
        rw [hclosed.orphaned hactive heq] at hlive
        cases hlive
      have hqueues := pushReply_eq hpush
      refine ⟨hclosed.of_fields (by rw [hqueues]) (by rw [hqueues])
        (fun reply hmem => ?_) fun hpending => ?_,
        ⟨[], by simp [hhanded]⟩,
          [{ route := core.pendingAction.route, admissionId := core.pendingActionLease.admissionId }],
        by rw [hqueues], fun lease hmem => ?_⟩
      · rw [hqueues] at hmem
        rcases List.mem_append.mp hmem with hmem | hmem
        · exact .inl hmem
        · rw [List.mem_singleton.mp hmem]
          exact .inr hother
      · rw [hqueues] at hpending
        cases hpending
      · rw [List.mem_singleton.mp hmem]
        exact hother

theorem of_step (h : core.Invariant) (hclosed : core.ClosedIn route) (heffect : StepEffect core t) :
    t.ClosedIn route ∧ Shuns route core t := by
  cases heffect with
  | opened record rest slots _ _ hslots ht =>
    subst ht
    refine ⟨⟨hclosed.remembered, inactive_iff.mpr fun hmem => ?_, hclosed.silent, hclosed.orphaned⟩,
      .of_same rfl rfl⟩
    rcases hslots route hmem with hold | ⟨heq, hopen⟩
    · exact inactive_iff.mp hclosed.inactive hold
    · rw [← heq, hclosed.remembered] at hopen
      cases hopen
  | closed record rest _ _ ht =>
    have hpopped : { core with lifecycle := rest }.ClosedIn route :=
      ⟨hclosed.remembered, hclosed.inactive, hclosed.silent, hclosed.orphaned⟩
    obtain ⟨hresult, hshuns⟩ := hpopped.closeRoute record.route
    subst ht
    exact ⟨hresult, Shuns.trans (t := { core with lifecycle := rest }) (.of_same rfl rfl) hshuns⟩
  | waited hqueues _ hpending hhanded _ =>
    refine ⟨⟨hqueues ▸ hclosed.remembered, hqueues ▸ hclosed.inactive, hqueues ▸ hclosed.silent,
      fun hactive hroute => ?_⟩,
      .of_same hhanded (by rw [hqueues])⟩
    exact hpending.orphaned (hclosed.orphaned (hqueues ▸ hactive) (hqueues ▸ hroute))
  | completed completion hactive heffect => exact hclosed.of_ended h hactive heffect
  | framed record rest hidle _ _ heffect =>
    have hpopped : { core with ingress := rest }.ClosedIn route :=
      ⟨hclosed.remembered, hclosed.inactive, hclosed.silent, hclosed.orphaned⟩
    obtain ⟨hresult, hshuns⟩ := hpopped.of_frame heffect hidle
    exact ⟨hresult, Shuns.trans (t := { core with ingress := rest }) (.of_same rfl rfl) hshuns⟩

end ClosedIn

/-- The step whose lifecycle record is the close of a route. -/
theorem step_closed (H : Hashes) {record : LifecycleRecord} {rest : List LifecycleRecord}
    (hlifecycle : core.lifecycle = record :: rest) (hkind : record.kind = .closed) (nowMs : UInt32)
    (allowed : Bool)
    (executor : Option ActionExecutor) :
    ∃ released, (core.step H nowMs allowed executor).2 =
      { ({ core with
        releaseNow := {}, lifecycle := rest } : RuntimeCore).closeRoute record.route with released } := by
  have honce : ({ core with releaseNow := {} } : RuntimeCore).stepOnce H nowMs allowed executor =
      (.lifecycleApplied, { core with releaseNow := {}, lifecycle := rest }.closeRoute record.route) := by
    unfold stepOnce
    split
    · rename_i other others heq
      rw [hlifecycle] at heq
      cases heq
      unfold processLifecycle
      rw [hkind]
    · rename_i heq
      rw [hlifecycle] at heq
      cases heq
  unfold step
  rw [honce]
  exact ⟨_, rfl⟩

theorem step_traffic (h : core.Invariant) (hclosed : core.ClosedIn route) (H : Hashes)
    (nowMs : UInt32) (allowed : Bool)
    (executor : Option ActionExecutor) :
    (core.step H nowMs allowed executor).2.ClosedIn route ∧
      Shuns route core (core.step H nowMs allowed executor).2 := by
  have hstart : ({ core with releaseNow := {} } : RuntimeCore).Invariant :=
    h.traffic core.ingress core.replies core.nextReplySequence {} core.queued core.released
  have hclosed' : ({ core with releaseNow := {} } : RuntimeCore).ClosedIn route :=
    ⟨hclosed.remembered, hclosed.inactive, hclosed.silent, hclosed.orphaned⟩
  obtain ⟨hresult, hshuns⟩ :=
    hclosed'.of_step hstart (stepOnce_effect (H := H) hstart nowMs allowed executor).1
  unfold step
  exact ⟨⟨hresult.remembered, hresult.inactive, hresult.silent, hresult.orphaned⟩,
    Shuns.trans (t := { core with releaseNow := {} }) (.of_same rfl rfl) (hshuns.trans (.of_same rfl rfl))⟩

/-- Fewer replies. -/
theorem ClosedIn.fewer (hclosed : core.ClosedIn route) {replies : List RuntimeReply}
    (hsub : List.Sublist replies core.replies) :
    { core with replies }.ClosedIn route :=
  ⟨hclosed.remembered, hclosed.inactive,
    fun reply hmem => hclosed.silent reply (hsub.subset hmem), hclosed.orphaned⟩

theorem popReplyIfSequence_eq (core : RuntimeCore) (sequence : UInt32) :
    ∃ replies, (core.popReplyIfSequence sequence).2 = { core with replies } ∧
    List.Sublist replies core.replies := by
  unfold popReplyIfSequence
  split
  · rename_i reply replies heq
    split
    · exact ⟨core.replies, rfl, List.Sublist.refl _⟩
    · exact ⟨replies, rfl, heq ▸ List.sublist_cons_self reply replies⟩
  · exact ⟨core.replies, rfl, List.Sublist.refl _⟩

theorem removeReplyIfSequence_eq (core : RuntimeCore) (sequence : UInt32) :
    ∃ replies, (core.removeReplyIfSequence sequence).2 = { core with replies } ∧
    List.Sublist replies core.replies := by
  unfold removeReplyIfSequence
  split
  · exact ⟨core.replies, rfl, List.Sublist.refl _⟩
  · exact ⟨_, rfl, List.eraseP_sublist⟩

end RuntimeCore

/-! ## The system -/

namespace RuntimeSystem

structure Invariant (sys : RuntimeSystem) : Prop where
  mailbox : sys.mailbox.Invariant
  core : sys.core.Invariant

theorem invariant_new (cookieSeed actionTokenSeed partialTimeoutMs sessionLeaseMs : UInt32) :
    (new cookieSeed actionTokenSeed partialTimeoutMs sessionLeaseMs).Invariant :=
  ⟨Mailbox.invariant_new, RuntimeCore.invariant_new ..⟩

variable {sys : RuntimeSystem} {H : Hashes} {route : SpeakerAssetsRouteToken}

theorem Invariant.step (h : sys.Invariant) (event : RuntimeEvent) : (sys.step H event).2.Invariant := by
  cases event with
  | mailbox event => exact ⟨h.mailbox.step event, h.core⟩
  | importRecord record => exact ⟨h.mailbox, h.core.importMailboxRecord record⟩
  | step nowMs allowed executor => exact ⟨h.mailbox, h.core.step nowMs allowed executor⟩
  | popReply sequence => exact ⟨h.mailbox, h.core.popReplyIfSequence sequence⟩
  | removeReply sequence => exact ⟨h.mailbox, h.core.removeReplyIfSequence sequence⟩

theorem Invariant.after (h : sys.Invariant) (events : List RuntimeEvent) :
    (after (RuntimeSystem.step H) sys events).Invariant :=
  after_induction (fun _ event h => h.step event) events h

/-- The core processes the close of the route here, or that of all routes while it knows the route. -/
def ClosesInCore (sys : RuntimeSystem) (event : RuntimeEvent) (route : SpeakerAssetsRouteToken) : Prop :=
  (∃ nowMs allowed executor record rest, event = .step nowMs allowed executor ∧
    sys.core.lifecycle = record :: rest
      ∧ record.kind = .closed ∧ record.route = route)
    ∨ ∃ record, event = .importRecord record ∧ record.kind = .allRoutesClosed ∧ record.cancelled = false
      ∧ (sys.core.Knows route ∨ routeShapeIsValid record.route = true ∧ record.route = route)

theorem closedIn_of_closes (h : sys.Invariant) {event : RuntimeEvent}
    (hcloses : sys.ClosesInCore event route) :
    (sys.step H event).2.core.ClosedIn route ∧
      RuntimeCore.Shuns route sys.core (sys.step H event).2.core := by
  rcases hcloses with ⟨nowMs, allowed, executor, record, rest, rfl, hlifecycle, hkind, rfl⟩
    | ⟨record, rfl, hkind, hlive, hknows⟩
  · obtain ⟨released, heq⟩ := RuntimeCore.step_closed H hlifecycle hkind nowMs allowed executor
    have hrecords :
      ∀ other ∈ record :: rest, routeShapeIsValid other.route = true := hlifecycle ▸ h.core.lifecycleShape
    have hpopped : ({ sys.core with releaseNow := {}, lifecycle := rest } : RuntimeCore).Invariant :=
      h.core.requeued rfl rfl rfl (fun other hmem => hrecords other (.tail _ hmem))
        h.core.activeShape h.core.filter
    have hclosed := RuntimeCore.closedIn_closeRoute hpopped record.route
    have hshuns := @RuntimeCore.shuns_closeRoute record.route
      { sys.core with releaseNow := {}, lifecycle := rest } record.route
    simp only [step, heq]
    exact ⟨⟨hclosed.remembered, hclosed.inactive, hclosed.silent, hclosed.orphaned⟩,
      hshuns.handed, hshuns.queued⟩
  · have heq : (sys.step H (.importRecord record)).2.core = sys.core.revokeAllRoutes record.route := by
      simp only [step, RuntimeCore.importMailboxRecord, hlive, hkind, Bool.false_eq_true, if_false]
    rw [heq]
    exact ⟨RuntimeCore.closedIn_revokeAllRoutes h.core hknows, .of_same rfl rfl⟩

theorem closedIn_step (h : sys.Invariant) (hclosed : sys.core.ClosedIn route) (event : RuntimeEvent) :
    (sys.step H event).2.core.ClosedIn route ∧
      RuntimeCore.Shuns route sys.core (sys.step H event).2.core := by
  cases event with
  | mailbox event => exact ⟨hclosed, .refl⟩
  | importRecord record =>
    exact hclosed.of_import h.core (RuntimeCore.importMailboxRecord_effect sys.core record)
  | step nowMs allowed executor => exact RuntimeCore.step_traffic h.core hclosed H nowMs allowed executor
  | popReply sequence =>
    obtain ⟨replies, heq, hsub⟩ := RuntimeCore.popReplyIfSequence_eq sys.core sequence
    simp only [step, heq]
    exact ⟨hclosed.fewer hsub, .of_same rfl rfl⟩
  | removeReply sequence =>
    obtain ⟨replies, heq, hsub⟩ := RuntimeCore.removeReplyIfSequence_eq sys.core sequence
    simp only [step, heq]
    exact ⟨hclosed.fewer hsub, .of_same rfl rfl⟩

/-- What the core closed stays closed. -/
theorem closedIn_after (h : sys.Invariant) (hclosed : sys.core.ClosedIn route)
    (events : List RuntimeEvent) :
    (after (step H) sys events).core.ClosedIn route
      ∧ RuntimeCore.Shuns route sys.core (after (step H) sys events).core := by
  have hkept := fun (s : RuntimeSystem) event (hs : s.Invariant ∧ s.core.ClosedIn route) =>
    And.intro (hs.1.step (H := H) event) (closedIn_step (H := H) hs.1 hs.2 event).1
  refine ⟨(after_induction hkept events ⟨h, hclosed⟩).2, ?_⟩
  exact after_rel (R := fun s t => RuntimeCore.Shuns route s.core t.core) hkept (fun _ => .refl)
    (fun _ _ _ => .trans)
    (fun s event hs => (closedIn_step hs.1 hs.2 event).2) events ⟨h, hclosed⟩

/-- What a call leaves of the mailbox. -/
theorem mailbox_step (sys : RuntimeSystem) (event : RuntimeEvent) :
    (∃ call, event = .mailbox call ∧ (sys.step H event).2.mailbox = (sys.mailbox.step call).2
        ∧ (sys.step H event).1 = .mailbox (sys.mailbox.step call).1)
      ∨ (sys.step H event).2.mailbox = sys.mailbox ∧ (sys.step H event).1.record = none := by
  cases event with
  | mailbox call => exact .inl ⟨call, rfl, rfl, rfl⟩
  | importRecord | step | popReply | removeReply => exact .inr ⟨rfl, rfl⟩

/-- Until its close is taken, a shut route stays shut. -/
theorem shut_after (h : sys.Invariant) (hshut : sys.mailbox.Shut route) (events : List RuntimeEvent)
    (hopen : ∀ answer ∈ answers (step H) sys events, ∀ record,
      answer.record = some record → ¬ record.Closes route) :
    (∀ answer ∈ answers (step H) sys events, ∀ record, answer.record = some record → ¬ record.Carries route)
      ∧ (after (step H) sys events).mailbox.Shut route := by
  induction events generalizing sys with
  | nil => exact ⟨nofun, hshut⟩
  | cons event events ih =>
    have hfirst := hopen _ (.head _)
    have hone : (sys.step H event).2.mailbox.Shut route
        ∧ ∀ record, (sys.step H event).1.record = some record → ¬ record.Carries route := by
      rcases mailbox_step (H := H) sys event with ⟨call, rfl, hmailbox, hanswer⟩ | ⟨hmailbox, hrecord⟩
      · rw [hmailbox, hanswer]
        rw [hanswer] at hfirst
        exact hshut.of_transition h.mailbox (Mailbox.transition h.mailbox call) hfirst
      · rw [hmailbox, hrecord]
        exact ⟨hshut, nofun⟩
    obtain ⟨hrest, hlast⟩ := ih (h.step event) hone.1 fun answer hmem => hopen answer (.tail _ hmem)
    refine ⟨fun answer hmem => ?_, hlast⟩
    rcases List.mem_cons.mp hmem with rfl | hmem
    · exact hone.2
    · exact hrest answer hmem

/-- A mailbox that is shut for good stays so. -/
theorem failClosed_step (h : sys.Invariant) (hfail : sys.mailbox.resourceSyncFailClosed = true)
    (event : RuntimeEvent) :
    (sys.step H event).2.mailbox.resourceSyncFailClosed = true := by
  rcases mailbox_step (H := H) sys event with ⟨call, rfl, hmailbox, -⟩ | ⟨hmailbox, -⟩
  · rw [hmailbox]
    exact Mailbox.failClosed_of_transition (Mailbox.transition h.mailbox call) hfail
  · rw [hmailbox]
    exact hfail

/-- A frame that is taken is of a route of the right shape. -/
theorem shape_of_answers (h : sys.Invariant) (events : List RuntimeEvent) :
    ∀ answer ∈ answers (step H) sys events, ∀ record, answer.record = some record →
    record.kind.isFrame = true →
      routeShapeIsValid record.route = true := by
  induction events generalizing sys with
  | nil => exact nofun
  | cons event events ih =>
    intro answer hmem
    rcases List.mem_cons.mp hmem with rfl | hmem
    · rcases mailbox_step (H := H) sys event with ⟨call, rfl, -, hanswer⟩ | ⟨-, hrecord⟩
      · rw [hanswer]
        exact Mailbox.shape_of_transition h.mailbox (Mailbox.transition h.mailbox call)
      · rw [hrecord]
        exact nofun
    · exact ih (h.step event) answer hmem

/-- Closed routes stay closed, in the mailbox from the call on and in the core from the step that
processes the close. -/
theorem closed_routes_stay_closed (H : Hashes)
    (cookieSeed actionTokenSeed partialTimeoutMs sessionLeaseMs : UInt32)
    (events : List RuntimeEvent) (route : SpeakerAssetsRouteToken) :
    let sys := after (step H) (new cookieSeed actionTokenSeed partialTimeoutMs sessionLeaseMs) events
    (∀ later,
      let closed := (sys.step H (.mailbox (.routeClosed route))).2
      (∀ answer ∈ answers (step H) closed later, ∀ record,
        answer.record = some record → ¬ record.Closes route) →
        (∀ answer ∈ answers (step H) closed later, ∀ record,
          answer.record = some record → ¬ record.Carries route)
        ∧ (routeShapeIsValid route = true → (after (step H) closed later).mailbox.Owed route))
    ∧ (sys.mailbox.resourceSyncFailClosed = true →
        ∀ later, (after (step H) sys later).mailbox.resourceSyncFailClosed = true)
    ∧ ∀ event, sys.ClosesInCore event route → ∀ later,
        let t := after (step H) sys (event :: later)
        t.core.routeIsActive route = false ∧ (∀ reply ∈ t.core.replies, reply.route ≠ route)
        ∧ RuntimeCore.Shuns route sys.core t.core := by
  intro sys
  have hsys : sys.Invariant := (invariant_new ..).after events
  refine ⟨?_, fun hfail later => ?_, fun event hcloses later => ?_⟩
  · intro later closed hopen
    have hclosed : closed.Invariant := hsys.step _
    cases hshape : routeShapeIsValid route with
    | true =>
      have hshut : closed.mailbox.Shut route := Mailbox.shut_step hsys.mailbox hshape
      obtain ⟨hframes, hlast⟩ := shut_after hclosed hshut later hopen
      exact ⟨hframes, fun _ => hlast.owed⟩
    | false =>
      refine ⟨fun answer hmem record hrecord hcarries => ?_, nofun⟩
      have hvalid := shape_of_answers hclosed later answer hmem record hrecord hcarries.1
      rw [hcarries.2, hshape] at hvalid
      cases hvalid
  · have hkept :=
      fun (s : RuntimeSystem) event (hs : s.Invariant ∧ s.mailbox.resourceSyncFailClosed = true) =>
      And.intro (hs.1.step (H := H) event) (failClosed_step (H := H) hs.1 hs.2 event)
    exact (after_induction hkept later ⟨hsys, hfail⟩).2
  · obtain ⟨hclosed, hshuns⟩ := closedIn_of_closes (H := H) hsys hcloses
    obtain ⟨hlast, hrest⟩ := closedIn_after (H := H) (hsys.step event) hclosed later
    exact ⟨hlast.inactive, hlast.silent, hshuns.trans hrest⟩

end RuntimeSystem
end CodexKeyboard.Assets
