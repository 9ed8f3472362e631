import CodexKeyboard.Assets.Retransmission
/-!
# Lost replies

A request that was answered and is sent again gets its reply again, as long as the ring holds it;
another request under its id is refused; a close forgets the replies of its route. A plan is
searched for only once its last fragment is in, so a session that does not take plan fragments, or
takes them for another request, never gets that far.

| here | there |
| --- | --- |
| `Acknowledged` | `begin_pending_action` (1637) to `remember_replay` (1774) |
| `lost_replies_are_harmless` | `lookup_replay` (1730) and its callers |
-/

namespace CodexKeyboard.Assets

open Lib Buffer Reassembly

namespace Session

variable {s : Session} {H : Hashes} {route : SpeakerAssetsRouteToken} {frame : SpeakerAssetsFrame}
  {view : SpeakerAssetsActionView} {reply : SpeakerAssetsFrame}

/-- The session after the action of `frame` was completed. -/
def acknowledgedAt (H : Hashes) (s : Session) (route : SpeakerAssetsRouteToken) (frame : SpeakerAssetsFrame)
    (between : List SessionEvent) (completion : SpeakerAssetsActionCompletion) : Session :=
  ((after (step H) (s.consume H route frame).2.2 between).complete completion).2.2

/-- The request whose last frame is `frame` began an action, and its completion was answered with
`reply`, which is no error. -/
structure Acknowledged (H : Hashes) (s : Session) (route : SpeakerAssetsRouteToken)
    (frame : SpeakerAssetsFrame)
    (view : SpeakerAssetsActionView) (between : List SessionEvent)
    (completion : SpeakerAssetsActionCompletion)
    (reply : SpeakerAssetsFrame) : Prop where
  action : (s.consume H route frame).2.1 = .action view
  unanswered : Unanswered (s.consume H route frame).2.2.pending between
  answers : Answers completion (s.consume H route frame).2.2.pending
  emission : ((after (step H) (s.consume H route frame).2.2 between).complete completion).2.1 = .reply reply
  ok : hasFlag reply flagError = false

/-- The entry that the completion left in the ring. -/
def entryOf (H : Hashes) (s : Session) (route : SpeakerAssetsRouteToken)
    (frame reply : SpeakerAssetsFrame) : ReplayEntry :=
  remembered (s.consume H route frame).2.2.pending reply

/-- A frame that begins an action is well formed, and came outside `ActionPending`. -/
theorem guards_of_action (h : (s.consume H route frame).2.1 = .action view) :
    sessionRouteIsValid route = true ∧ frame.requestId ≠ 0 := by
  unfold consume at h
  split at h
  · cases h
  · rename_i hguard
    simp only [not_or, Bool.not_eq_true', Bool.not_eq_false] at hguard
    exact ⟨hguard.1, hguard.2.1⟩

/-- The region and the index of the unit that a write action carries. -/
def viewRegion (view : SpeakerAssetsActionView) : SpeakerAssetsRegion :=
  if view.kind = .writeManifest then .manifest else .payload

/-- The kinds of the requests that fit one frame. -/
def IsSingleFrameKind (kind : SpeakerAssetsActionKind) : Prop :=
  kind = .queryCurrentActive ∨ kind = .resumeQuery ∨ kind = .commit ∨ kind = .abort

section Entry
variable {t : Session} (ht : t.Reachable) {entry : ReplayEntry} (hmem : entry ∈ t.replay)
    (hvalid : entry.valid = true)
include ht hmem hvalid

/-- The entry of a request of one frame answers it, or refuses what is not it. -/
theorem single_from_ring (hroute : sessionRouteIsValid route = true) (hid : frame.requestId ≠ 0)
    (hshape : SingleFrameRequest frame) (hphase : t.phase ≠ .actionPending)
    (hkey : entry.route = route ∧ entry.requestCookie = frame.sessionCookie ∧
      entry.requestId = frame.requestId) :
    t.step H (.consume route frame) =
      ((.ok, .reply
        (if entry.opcode = frame.opcode ∧ entry.region = .manifest ∧ entry.unitIndex = 0
            ∧ entry.fingerprint = frameFingerprint H frame then entry.reply
          else statusReply frame .integrityError frame.sessionCookie)), t) := by
  obtain ⟨rfl, hcookie, hrequest⟩ := hkey
  have hlookup := ht.ring.lookup hmem hvalid frame.opcode .manifest 0 (frameFingerprint H frame)
  rw [hcookie, hrequest] at hlookup
  obtain ⟨hexact, hconflict⟩ := consume_single (H := H) hroute hid hshape hphase
  simp only [step]
  split
  · rename_i hsame
    rw [if_pos hsame] at hlookup
    rw [hexact _ hlookup]
  · rename_i hother
    rw [if_neg hother] at hlookup
    rw [hconflict hlookup]

/-- So does the entry of a plan, once the plan is there. -/
theorem plan_from_ring {request : SpeakerAssetsFrame} (hroute : sessionRouteIsValid route = true)
    (hid : request.requestId ≠ 0)
    {kind : SpeakerAssetsActionKind} (hkind : PlanRequest request.opcode kind) {encoded : List UInt8}
    (hlen : encoded.length = 640)
    {plan : SoundBundlePlan} (hdecode : decodeSoundBundlePlanWire H encoded = .ok plan)
    {frames : List SpeakerAssetsFrame}
    (hframes : ∀ frame ∈ frames, IsPlanFragment request encoded frame)
    (htakes : ∀ frame ∈ frames.head?, t.TakesPlan route request kind encoded frame)
    (hcompletes : Completes t.planAssembler.cells 0 640 frames)
    (hkey : entry.route = route ∧ entry.requestCookie = 0 ∧ entry.requestId = request.requestId) :
    ∀ last ∈ frames.getLast?, AnsweredAtLast H t route frames
      (if entry.opcode = request.opcode ∧ entry.region = .manifest ∧ entry.unitIndex = 0
          ∧ entry.fingerprint = planFingerprint H plan then entry.reply
        else statusReply last .integrityError 0) := by
  obtain ⟨rfl, hcookie, hrequest⟩ := hkey
  have hlookup := ht.ring.lookup hmem hvalid request.opcode .manifest 0 (planFingerprint H plan)
  rw [hcookie, hrequest] at hlookup
  obtain ⟨hexact, hconflict⟩ := plan_transmission ht hroute hid hkind hframes htakes hlen hcompletes hdecode
  intro last hlast
  split
  · rename_i hsame
    rw [if_pos hsame] at hlookup
    exact hexact _ hlookup
  · rename_i hother
    rw [if_neg hother] at hlookup
    exact hconflict hlookup last hlast

/-- And the entry of a unit. -/
theorem unit_from_ring {request : SpeakerAssetsFrame} (hroute : sessionRouteIsValid route = true)
    (hid : request.requestId ≠ 0)
    (hop : SpeakerAssetsOpcode.ofByte request.opcode = some .data) {region : SpeakerAssetsRegion}
    {unitIndex : UInt16}
    {content : List UInt8} (htakes : t.TakesContent route request region unitIndex content)
    {frames : List SpeakerAssetsFrame}
    (hframes : ∀ frame ∈ frames, IsUnitFragment request region unitIndex content frame)
    (hopens : ∀ frame ∈ frames.head?, t.TakesUnit request region unitIndex content frame)
    (hcompletes : Completes t.unitCells (unitStart region unitIndex) content.length frames)
    (hkey : entry.route = route ∧ entry.requestCookie = request.sessionCookie ∧
      entry.requestId = request.requestId) :
    ∀ last ∈ frames.getLast?, AnsweredAtLast H t route frames
      (if entry.opcode = request.opcode ∧ entry.region = region ∧ entry.unitIndex = unitIndex
          ∧ entry.fingerprint = unitFingerprint H region unitIndex (some content) then entry.reply
        else statusReply last .integrityError request.sessionCookie) := by
  obtain ⟨rfl, hcookie, hrequest⟩ := hkey
  have hlookup :=
    ht.ring.lookup hmem hvalid request.opcode region unitIndex
    (unitFingerprint H region unitIndex (some content))
  rw [hcookie, hrequest] at hlookup
  obtain ⟨hexact, hconflict⟩ := unit_transmission ht hroute hid hop htakes hframes hopens hcompletes
  intro last hlast
  split
  · rename_i hsame
    rw [if_pos hsame] at hlookup
    exact hexact _ hlookup
  · rename_i hother
    rw [if_neg hother] at hlookup
    exact hconflict hlookup last hlast

end Entry

/-! ## What the entry of an acknowledged request matches -/

theorem entryOf_key (h : Issued H s route frame view (s.consume H route frame).2.2) :
    (entryOf H s route frame reply).route = route ∧
      (entryOf H s route frame reply).requestCookie = frame.sessionCookie
      ∧ (entryOf H s route frame reply).requestId = frame.requestId
      ∧ (entryOf H s route frame reply).opcode = frame.opcode := by
  unfold entryOf remembered
  rw [h.pending]
  exact ⟨rfl, rfl, rfl, rfl⟩

/-- The request of an action that fits one frame. -/
theorem Issued.single {t : Session} (h : Issued H s route frame view t)
    (hkind : IsSingleFrameKind view.kind) :
    OfSingleFrame H frame t.pending := by
  unfold IsSingleFrameKind at hkind
  cases h.request with
  | currentActive _ _ hfrom | resume _ _ _ _ hfrom | query _ _ _ _ _ hfrom | terminal _ _ _ hfrom =>
    exact hfrom
  | plan hother => rcases hother with ⟨-, hother⟩ | ⟨-, hother⟩ <;> simp [hother] at hkind
  | unit _ _ hother =>
    rw [hother] at hkind
    split at hkind <;> simp at hkind

/-- The request of an action that carries a plan. -/
theorem Issued.ofPlan {t : Session} (h : Issued H s route frame view t)
    (hkind : view.kind = .begin ∨ view.kind = .discardInvalidStaging) :
    PlanRequest frame.opcode view.kind ∧ frame.sessionCookie = 0 ∧
    t.pending.fingerprint = planFingerprint H t.decodedPlan
      ∧ t.pending.region = .manifest ∧ t.pending.unitIndex = 0 := by
  cases h.request with
  | plan hrequest hcookie _ hfingerprint hregion hindex =>
    exact ⟨hrequest, hcookie, hfingerprint, hregion, hindex⟩
  | unit _ _ hother =>
    rw [hother] at hkind
    split at hkind <;> simp at hkind
  | terminal hother => rcases hother with ⟨-, hother⟩ | ⟨-, hother⟩ <;> simp [hother] at hkind
  | currentActive _ hother | resume _ hother | query _ hother => simp [hother] at hkind

theorem unitIndex_of_dataUnit {progress : SoundUpdateProgress} {unit : DataUnit}
    (h : dataUnit progress frame = some unit)
    (hregion : unit.region = .manifest) : unit.unitIndex = 0 := by
  unfold dataUnit at h
  split at h
  · split at h
    · cases h
    · cases h
      cases hregion
  · split at h
    · cases h
    · cases h
      rfl

/-- The request of an action that carries the bytes of a unit. -/
theorem Issued.ofUnit {t : Session} (h : Issued H s route frame view t)
    (hkind : view.kind = .writeManifest ∨ view.kind = .writePayloadBlock) :
    SpeakerAssetsOpcode.ofByte frame.opcode = some .data ∧ BoundTo s route frame
      ∧ (viewRegion view = .manifest → view.blockIndex = 0) ∧ t.pending.region = viewRegion view
      ∧ t.pending.unitIndex = view.blockIndex ∧ view.bytes = t.blockAssembler.data
      ∧ t.pending.fingerprint = unitFingerprint H (viewRegion view) view.blockIndex view.bytes := by
  cases h.request with
  | unit unit hop hother hbound hunit hidentity hactive hbytes hlength hblock hfingerprint hregion hindex =>
    have hview : viewRegion view = unit.region := by
      rw [viewRegion, hother]
      cases unit.region <;> rfl
    rw [hview, hblock, hbytes]
    exact ⟨hop, hbound, unitIndex_of_dataUnit hunit, hregion, hindex, rfl, hfingerprint⟩
  | terminal hother | plan hother => rcases hother with ⟨-, hother⟩ | ⟨-, hother⟩ <;> simp [hother] at hkind
  | currentActive _ hother | resume _ hother | query _ hother => simp [hother] at hkind

theorem unitLength_congr {progress progress' : SoundUpdateProgress}
    (hmanifest : progress'.manifestBytes = progress.manifestBytes)
    (hpayload : progress'.payloadBytes = progress.payloadBytes) (region : SpeakerAssetsRegion)
    (unitIndex : UInt16) :
    unitLength progress' region unitIndex = unitLength progress region unitIndex := by
  unfold unitLength
  rw [hmanifest, hpayload]

/-- As long as its binding stands, the session takes the content of a write again as the same unit. -/
theorem takesContent_of_bound {t : Session} (hs : s.Reachable)
    (haction : (s.consume H route frame).2.1 = .action view)
    (hkind : view.kind = .writeManifest ∨ view.kind = .writePayloadBlock) {content : List UInt8}
    (hcontent : view.bytes = some content) (hsame : SameBinding (s.consume H route frame).2.2 t)
    (hbound : t.routeBound = true) :
    t.TakesContent route frame (viewRegion view) view.blockIndex content := by
  obtain ⟨huntouched, hissued⟩ := issued_of_consume haction
  obtain ⟨-, hboundTo, hzero, hregion, hindex, hbytes, -⟩ := hissued.ofUnit hkind
  have hreachable : (s.consume H route frame).2.2.Reachable := hs.step H (.consume route frame)
  have hphase := hreachable.invariant.pending_iff.mp hissued.active
  obtain ⟨hopen, hregion', hindex'⟩ := hreachable.assemblies.borrowed hphase hissued.live
    (by simpa [PendingAction.borrowsBytes, hissued.kind] using hkind)
  have hlive : (s.consume H route frame).2.2.routeBound = true := huntouched.routeBound.trans hboundTo.bound
  have hwf := (hreachable.invariant.binding hlive).2.2
  refine ⟨⟨hbound, ?_, ?_⟩, ?_, hzero⟩
  · rw [hsame.route, huntouched.route, hboundTo.route]
  · rw [hsame.sessionCookie, huntouched.sessionCookie, hboundTo.cookie]
  · rw [unitLength_congr hsame.manifestBytes hsame.payloadBytes, ← hregion, ← hindex, ← hregion',
      ← hindex', ← hopen.length]
    rw [hcontent, BlockAssembler.data, if_pos hopen.active] at hbytes
    rw [Option.some.inj hbytes, List.length_take, length_contents, hreachable.assemblies.unit_cells]
    have hle : (s.consume H route frame).2.2.blockAssembler.expectedBytes.toNat ≤ 4096 := by
      rw [hopen.length]
      exact unitLength_le hwf ..
    omega

/-- A reply from the ring is the reply of an entry of that route. -/
theorem entry_of_exact {cookie requestId : UInt32} {opcode : UInt8} {region : SpeakerAssetsRegion}
    {unitIndex : UInt16}
    {fingerprint : SoundSha256Digest}
    (h : s.lookupReplay route cookie requestId opcode region unitIndex fingerprint = .exact reply) :
    ∃ entry ∈ s.replay, entry.valid = true ∧ entry.route = route ∧ entry.reply = reply := by
  unfold lookupReplay at h
  split at h
  · rename_i entry hfind
    cases h
    have hpred := List.find?_some hfind
    simp only [Bool.and_eq_true] at hpred
    obtain ⟨hvalid, hroute, -, -⟩ := sameRequest_iff.mp hpred.1.1.1.1
    exact ⟨entry, List.mem_of_find?_eq_some hfind, hvalid, hroute, rfl⟩
  · split at h <;> cases h

/-- A session with an open unit refuses the fragments of every plan. -/
theorem plan_busy {request : SpeakerAssetsFrame} {kind : SpeakerAssetsActionKind} {encoded : List UInt8}
    (hroute : sessionRouteIsValid route = true) (hid : request.requestId ≠ 0)
    (hkind : PlanRequest request.opcode kind)
    (hframe : IsPlanFragment request encoded frame) (hphase : s.phase = .unitAssembly) :
    s.step H (.consume route frame) = ((.ok, .reply (statusReply frame .busy 0)), s) := by
  simp only [step, consume_plan hroute hid hkind hframe (s := s) (by simp [hphase])]
  unfold consumePlanAction
  rw [if_neg (by rcases hkind with ⟨-, rfl⟩ | ⟨-, rfl⟩ <;> simp), if_neg (by simp [hframe.valid])]
  simp only [openPlanAssembly, hphase]
  rfl

/-- A request that was acknowledged gets the same reply whenever the session takes it again and its
entry is retained; another request under its id is refused; and what the ring answers for a route
was emitted since the route was closed. -/
theorem lost_replies_are_harmless (H : Hashes) (cookieSeed actionTokenSeed : UInt32) :
    (∀ events route frame view between completion reply post,
      let s := after (step H) (Session.new cookieSeed actionTokenSeed) events
      let t := after (step H) (acknowledgedAt H s route frame between completion) post
      Acknowledged H s route frame view between completion reply →
      entryOf H s route frame reply ∈ t.replay →
      t.phase ≠ .actionPending →
        (IsSingleFrameKind view.kind → t.step H (.consume route frame) = ((.ok, .reply reply), t))
        ∧ (∀ plan encoded frames, view.kind = .begin ∨
          view.kind = .discardInvalidStaging → view.plan = some plan →
            encoded.length = 640 → decodeSoundBundlePlanWire H encoded = .ok plan →
            (∀ f ∈ frames, IsPlanFragment frame encoded f) →
            (∀ f ∈ frames.head?, t.TakesPlan route frame view.kind encoded f) →
            Completes t.planAssembler.cells 0 640 frames → AnsweredAtLast H t route frames reply)
        ∧ (∀ content frames, view.kind = .writeManifest ∨ view.kind = .writePayloadBlock →
          view.bytes = some content →
            Throughout (step H) (fun s _ => s.routeBound = true) (s.consume H route frame).2.2
              (between ++ .complete completion :: post) →
            t.routeBound = true →
            (∀ f ∈ frames, IsUnitFragment frame (viewRegion view) view.blockIndex content f) →
            (∀ f ∈ frames.head?, t.TakesUnit frame (viewRegion view) view.blockIndex content f) →
            Completes t.unitCells (unitStart (viewRegion view) view.blockIndex) content.length frames →
            AnsweredAtLast H t route frames reply))
    ∧ (∀ events route request entry,
        let t := after (step H) (Session.new cookieSeed actionTokenSeed) events
        sessionRouteIsValid route = true → request.requestId ≠ 0 → t.phase ≠ .actionPending →
        entry ∈ t.replay →
        entry.valid = true → entry.route = route → entry.requestCookie = request.sessionCookie →
        entry.requestId = request.requestId →
          (SingleFrameRequest request →
            entry.opcode ≠ request.opcode ∨ entry.fingerprint ≠ frameFingerprint H request →
            t.step H (.consume route request) =
              ((.ok, .reply (statusReply request .integrityError request.sessionCookie)), t))
          ∧ (∀ kind encoded plan frames, PlanRequest request.opcode kind → request.sessionCookie = 0 →
              encoded.length = 640 → decodeSoundBundlePlanWire H encoded = .ok plan →
              entry.opcode ≠ request.opcode ∨ entry.fingerprint ≠ planFingerprint H plan →
              (∀ f ∈ frames, IsPlanFragment request encoded f) →
              (∀ f ∈ frames.head?, t.TakesPlan route request kind encoded f) →
              Completes t.planAssembler.cells 0 640 frames →
              ∀ last ∈ frames.getLast?, AnsweredAtLast H t route frames
                (statusReply last .integrityError 0))
          ∧ (∀ region unitIndex content frames, SpeakerAssetsOpcode.ofByte request.opcode = some .data →
              t.TakesContent route request region unitIndex content →
              entry.opcode ≠ request.opcode ∨ entry.region ≠ region ∨ entry.unitIndex ≠ unitIndex
                ∨ entry.fingerprint ≠ unitFingerprint H region unitIndex (some content) →
              (∀ f ∈ frames, IsUnitFragment request region unitIndex content f) →
              (∀ f ∈ frames.head?, t.TakesUnit request region unitIndex content f) →
              Completes t.unitCells (unitStart region unitIndex) content.length frames →
              ∀ last ∈ frames.getLast?,
                AnsweredAtLast H t route frames (statusReply last .integrityError request.sessionCookie)))
    ∧ (∀ events route close later cookie requestId opcode region unitIndex fingerprint reply,
        let s := after (step H) (Session.new cookieSeed actionTokenSeed) events
        close = .routeClosed route ∨ close = .allRoutesClosed →
        (after (step H) s (close :: later)).lookupReplay route cookie requestId opcode region
          unitIndex fingerprint
          = .exact reply →
        ∃ earlier completion rest, later = earlier ++ .complete completion :: rest
          ∧ ((after (step H) s (close :: earlier)).complete completion).2.1 = .reply reply) := by
  refine ⟨?_, ?_, ?_⟩
  · intro events route frame view between completion reply post s t hack hmem hphase
    have hs : s.Reachable := (reachable_new cookieSeed actionTokenSeed).after H events
    have hreachable : (s.consume H route frame).2.2.Reachable := hs.step H (.consume route frame)
    -- `t` ends the run from the emitted action over its completion
    have hrun :
      t = after (step H) (s.consume H route frame).2.2 (between ++ .complete completion :: post) := by
      rw [after_append]
      rfl
    have ht : t.Reachable := by
      rw [hrun]
      exact hreachable.after H _
    obtain ⟨hroute, hid⟩ := guards_of_action hack.action
    obtain ⟨-, hissued⟩ := issued_of_consume hack.action
    obtain ⟨hkey, hcookie, hrequest, hopcode⟩ := @entryOf_key _ _ _ _ _ reply hissued
    refine ⟨fun hkind => ?_,
      fun plan encoded frames hkind hplan hlen hdecode hframes htakes hcompletes => ?_,
      fun content frames hkind hcontent hbound hlast hframes hopens hcompletes => ?_⟩
    · have hfrom := hissued.single hkind
      have hring :=
        single_from_ring (H := H) ht hmem rfl hroute hid hfrom.shape hphase ⟨hkey, hcookie, hrequest⟩
      rwa [if_pos ⟨hopcode, hfrom.region, hfrom.unitIndex, hfrom.fingerprint⟩] at hring
    · obtain ⟨hkindOf, hzero, hfingerprint, hregion, hindex⟩ := hissued.ofPlan hkind
      have hsame : plan = (s.consume H route frame).2.2.decodedPlan :=
        Option.some.inj (hplan.symm.trans (hissued.plan hkind))
      have hring :=
        plan_from_ring (H := H) ht hmem rfl hroute hid hkindOf hlen hdecode hframes htakes hcompletes
        ⟨hkey, hcookie.trans hzero, hrequest⟩
      obtain ⟨last, hlast⟩ :=
        Option.ne_none_iff_exists'.mp (mt List.getLast?_eq_none_iff.mp hcompletes.ne_nil)
      have hanswered := hring last hlast
      rwa [if_pos ⟨hopcode, hregion, hindex, by rw [hsame]; exact hfingerprint⟩] at hanswered
    · obtain ⟨hop, -, -, hregion, hindex, -, hfingerprint⟩ := hissued.ofUnit hkind
      have hbinding : SameBinding (s.consume H route frame).2.2 t := by
        rw [hrun] at hlast ⊢
        exact sameBinding_after hreachable.invariant _ hbound hlast
      have htakes := takesContent_of_bound hs hack.action hkind hcontent hbinding hlast
      have hring := unit_from_ring (H := H) ht hmem rfl hroute hid hop htakes hframes hopens hcompletes
        ⟨hkey, hcookie, hrequest⟩
      obtain ⟨last, hlast⟩ :=
        Option.ne_none_iff_exists'.mp (mt List.getLast?_eq_none_iff.mp hcompletes.ne_nil)
      have hanswered := hring last hlast
      rwa [if_pos ⟨hopcode, hregion, hindex, by rw [← hcontent]; exact hfingerprint⟩] at hanswered
  · intro events route request entry t hroute hid hphase hmem hvalid hkey hcookie hrequest
    have ht : t.Reachable := (reachable_new cookieSeed actionTokenSeed).after H events
    refine ⟨fun hshape hother => ?_,
      fun kind encoded plan frames hkind hzero hlen hdecode hother hframes htakes hcompletes => ?_,
      fun region unitIndex content frames hop htakes hother hframes hopens hcompletes => ?_⟩
    · have hring :=
        single_from_ring (H := H) ht hmem hvalid hroute hid hshape hphase ⟨hkey, hcookie, hrequest⟩
      rwa [if_neg (by tauto)] at hring
    · intro last hlast
      have hring :=
        plan_from_ring (H := H) ht hmem hvalid hroute hid hkind hlen hdecode hframes htakes hcompletes
        ⟨hkey, hcookie.trans hzero, hrequest⟩ last hlast
      rwa [if_neg (by tauto)] at hring
    · intro last hlast
      have hring := unit_from_ring (H := H) ht hmem hvalid hroute hid hop htakes hframes hopens hcompletes
        ⟨hkey, hcookie, hrequest⟩ last hlast
      rwa [if_neg (by tauto)] at hring
  · intro events route close later cookie requestId opcode region unitIndex fingerprint reply s
      hclose hexact
    obtain ⟨entry, hmem, hvalid, hkey, rfl⟩ := entry_of_exact hexact
    exact replay_origin hclose later hmem hvalid hkey

/-- Hashes for a run on fixed inputs. -/
def constantHashes : Hashes where
  sha256 _ := Vector.replicate 32 1
  crc32 _ := 0

def usbRoute : SpeakerAssetsRouteToken := { generation := 1 }

/-- A resume of a staged update. -/
def resumeFrame : SpeakerAssetsFrame :=
  { opcode := 3, flags := 0x1C, requestId := 1, body := List.replicate 16 1 }

def resumeCompletion : SpeakerAssetsActionCompletion :=
  { token := 1, kind := .resumeQuery, result := .ok, identityValid := true,
    identity := { generation := 1, transactionId := Vector.replicate 16 1 }, progressValid := true,
    progress :=
      { identity := { generation := 1, transactionId := Vector.replicate 16 1 }, manifestBytes := 32,
        bundleSha256 := Vector.replicate 32 1 },
    outcomeValid := true, outcome := .active }

def resumeView : SpeakerAssetsActionView :=
  { token := 1, kind := .resumeQuery, route := usbRoute, requestId := 1,
    expectedIdentity := { transactionId := Vector.replicate 16 1 }, queryMode := .resumeOrRebind }

def resumeReply : SpeakerAssetsFrame :=
  { opcode := 3, flags := 1, requestId := 1, sessionCookie := 1,
    body := [0, 0, 0, 0, 1, 0, 0, 0, 0, 0, 0, 0, 32, 0, 0, 0, 0, 0, 0, 0] ++ List.replicate 16 1 }

/-- The resume was answered. -/
def resumed : Session :=
  acknowledgedAt constantHashes (Session.new 1 1) usbRoute resumeFrame [] resumeCompletion

/-- Another request under the id of the resume. -/
def queryFrame : SpeakerAssetsFrame := { opcode := 5, flags := 0x1C, requestId := 1 }

theorem resume_acknowledged :
    ((Session.new 1 1).consume constantHashes usbRoute resumeFrame).2.1 = .action resumeView ∧
    ((Session.new 1 1).consume constantHashes usbRoute resumeFrame).2.2.pending.token = 1 ∧
    ((Session.new 1 1).consume constantHashes usbRoute resumeFrame).2.2.pending.kind = .resumeQuery ∧
    (((Session.new 1 1).consume constantHashes usbRoute resumeFrame).2.2.complete
      resumeCompletion).2.1 = .reply resumeReply ∧
    resumed.phase = .ready := by
  decide +kernel

/-- What the session remembers of the resume. -/
theorem resume_remembered :
    (∃ entry ∈ resumed.replay,
      entry = entryOf constantHashes (Session.new 1 1) usbRoute resumeFrame resumeReply ∧
      entry.valid = true ∧
      entry.route = usbRoute ∧ entry.requestCookie = 0 ∧ entry.requestId = 1 ∧ entry.opcode = 3) ∧
    (after (step constantHashes) (Session.new 1 1)
      (.routeClosed usbRoute :: [.consume usbRoute resumeFrame,
        .complete resumeCompletion])).lookupReplay usbRoute 0 1 3 .manifest 0
        (frameFingerprint constantHashes resumeFrame) = .exact resumeReply := by
  decide +kernel

/-- The resume is sent again, then another request under its id; and the reply to a resume after a
close is not older. -/
theorem lost_replies_are_harmless_resume :
    resumed.step constantHashes (.consume usbRoute resumeFrame) = ((.ok, .reply resumeReply), resumed) ∧
    resumed.step constantHashes (.consume usbRoute queryFrame) =
      ((.ok, .reply (statusReply queryFrame .integrityError 0)), resumed) ∧
    ∃ earlier completion rest, [.consume usbRoute resumeFrame, .complete resumeCompletion] =
      earlier ++ .complete completion :: rest ∧
      ((after (step constantHashes) (Session.new 1 1) (.routeClosed usbRoute :: earlier)).complete
        completion).2.1 = .reply resumeReply := by
  obtain ⟨haction, htoken, hkind, hreply, hphase⟩ := resume_acknowledged
  obtain ⟨⟨entry, hmem, hentry, hvalid, hroute, hcookie, hid, hopcode⟩, hexact⟩ := resume_remembered
  have hready : resumed.phase ≠ .actionPending := by
    rw [hphase]
    decide
  have hack :
    Acknowledged constantHashes (Session.new 1 1) usbRoute resumeFrame resumeView
    [] resumeCompletion resumeReply :=
    ⟨haction, fun _ h => absurd h List.not_mem_nil, ⟨htoken.symm, hkind.symm⟩, hreply, by decide⟩
  obtain ⟨hsame, hother, hclose⟩ := lost_replies_are_harmless constantHashes 1 1
  refine ⟨?_, ?_, ?_⟩
  · exact (hsame [] usbRoute resumeFrame resumeView [] resumeCompletion resumeReply
      [] hack (hentry ▸ hmem) hready).1 (.inr (.inl rfl))
  · have hreached :
      after (step constantHashes) (Session.new 1 1)
      [.consume usbRoute resumeFrame, .complete resumeCompletion] = resumed := rfl
    have hrefused :=
      (hother [.consume usbRoute resumeFrame,
      .complete resumeCompletion] usbRoute queryFrame entry (by decide) (by decide)
      (hreached ▸ hready) (hreached ▸ hmem) hvalid hroute hcookie hid).1 ⟨by decide, rfl, rfl⟩
        (.inl (hopcode ▸ by decide))
    exact hreached ▸ hrefused
  · exact hclose [] usbRoute _ _ 0 1 3 .manifest 0 _ _ (.inl rfl) hexact

/-! ## A plan that the session does not take -/

/-- A resume of a staged update, its completion, and the first byte of the manifest. -/
def unitAssemblyRun : List SessionEvent :=
  [ .consume usbRoute resumeFrame, .complete resumeCompletion,
    .consume usbRoute { opcode := 4, flags := 0x0C, requestId := 2, sessionCookie := 1, body := [0] } ]

/-- With a unit open, the fragments of a `Begin` under the id of an answered resume are all `Busy`,
never an integrity error; so is the plan of any `Begin` that is sent again. -/
theorem plan_refused_in_unit_assembly :
    let s := after (step constantHashes) (Session.new 1 1) unitAssemblyRun
    s.phase = .unitAssembly
    ∧ (∃ entry ∈ s.replay, entry.valid = true ∧ entry.route = usbRoute ∧
      entry.requestCookie = 0 ∧ entry.requestId = 1
        ∧ entry.opcode = 3)
    ∧ (let frame : SpeakerAssetsFrame := { opcode := 2,
                                           flags := 0x0C, requestId := 1, body := magic "EIBP" }
      s.step constantHashes (.consume usbRoute frame) = ((.ok, .reply (statusReply frame .busy 0)), s))
    ∧ ∀ (frame : SpeakerAssetsFrame)
      (encoded : List UInt8), IsPlanFragment { opcode := 2, requestId := 1 } encoded frame →
        s.step constantHashes (.consume usbRoute frame) =
          ((.ok, .reply (statusReply frame .busy 0)), s) := by
  have hphase : (after (step constantHashes) (Session.new 1 1) unitAssemblyRun).phase =
    .unitAssembly := by decide +kernel
  have hbusy (frame : SpeakerAssetsFrame) (encoded : List UInt8)
      (hframe : IsPlanFragment { opcode := 2, requestId := 1 } encoded frame) :=
    @plan_busy _ constantHashes _ _ _ .begin _ (by decide : sessionRouteIsValid usbRoute = true) (by decide)
      (.inl ⟨by decide, rfl⟩) hframe hphase
  refine ⟨hphase, by decide +kernel,
    hbusy _ (magic "EIBP") ⟨rfl, rfl, by decide, by decide, fun i a h => ?_⟩, hbusy⟩
  rwa [show UInt32.toNat 0 + i = i from Nat.zero_add i]

end Session

end CodexKeyboard.Assets
