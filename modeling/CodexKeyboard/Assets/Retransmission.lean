import CodexKeyboard.Assets.Assemblies
/-!
# Requests sent again

A request whose reply was lost is sent again, in the same or in other fragments. Fragments of one
plan or unit are never refused, each is answered with the next missing offset, and the one that
completes it is answered from the ring.

| here | there |
| --- | --- |
| `PlanTransmission` | `consume_plan_action` (speaker_assets_session.cpp:443) |
| `UnitTransmission` | `consume_data` (712) |
-/

namespace CodexKeyboard.Assets

open Lib Buffer Reassembly

namespace Session

/-- The position of an object that starts at `start` is in the frame's body. -/
def InBody (start : Nat) (frame : SpeakerAssetsFrame) (i : Nat) : Prop :=
  frame.objectOffset.toNat ≤ start + i ∧ start + i < frame.objectOffset.toNat + frame.body.length

/-- The frames complete an object of `n` bytes of which `cells` has arrived, and the last of them is
needed. -/
structure Completes (cells : Cells UInt8) (start n : Nat) (frames : List SpeakerAssetsFrame) : Prop where
  covers : ∀ i < n, Arrived cells i ∨ ∃ frame ∈ frames, InBody start frame i
  needed : ∃ i < n, ¬ Arrived cells i ∧ ∀ frame ∈ frames.dropLast, ¬ InBody start frame i

/-- The frames before the last are answered without an error, the last is answered with `final`, and
no action is begun. -/
def AnsweredAtLast (H : Hashes) (s : Session) (route : SpeakerAssetsRouteToken)
    (frames : List SpeakerAssetsFrame)
    (final : SpeakerAssetsFrame) : Prop :=
  ∃ replies : List SpeakerAssetsFrame,
    answers (step H) s (frames.map (.consume route)) =
      (replies ++ [final]).map (fun reply => (.ok, .reply reply))
      ∧ ∀ reply ∈ replies, hasFlag reply flagError = false

theorem Completes.ne_nil {cells : Cells UInt8} {start n : Nat} {frames : List SpeakerAssetsFrame}
    (h : Completes cells start n frames) : frames ≠ [] := by
  rintro rfl
  obtain ⟨i, hi, hmissing, -⟩ := h.needed
  rcases h.covers i hi with hold | ⟨frame, hmem, -⟩
  · exact hmissing hold
  · cases hmem

theorem answers_congr {s t : Session} {H : Hashes} {event : SessionEvent}
    (h : s.step H event = t.step H event)
    (events : List SessionEvent) :
    answers (step H) s (event :: events) = answers (step H) t (event :: events) := by
  rw [answers, answers, h]

theorem and_eq_zero_of_subset {flags a b : UInt8} (h : flags &&& a = 0) (hsub : a &&& b = b) :
    flags &&& b = 0 := by
  rw [← hsub, ← UInt8.and_assoc, h, UInt8.zero_and]

theorem lookupReplay_congr {s t : Session} (h : t.replay = s.replay) (route : SpeakerAssetsRouteToken)
    (cookie requestId : UInt32) (opcode : UInt8) (region : SpeakerAssetsRegion) (unitIndex : UInt16)
    (fingerprint : SoundSha256Digest) :
    t.lookupReplay route cookie requestId opcode region unitIndex fingerprint =
      s.lookupReplay route cookie requestId opcode region unitIndex fingerprint := by
  unfold lookupReplay
  rw [h]

theorem Quiet.trans {s t u : Session} (h : Quiet s t) (h' : Quiet t u) : Quiet s u :=
  ⟨⟨h'.routeBound.trans h.routeBound, h'.route.trans h.route, h'.sessionCookie.trans h.sessionCookie,
    h'.progress.trans h.progress, h'.progressValid.trans h.progressValid, h'.replay.trans h.replay,
    h'.nextReplaySlot.trans h.nextReplaySlot⟩, h'.pending.trans h.pending⟩

/-- The bitmap of a progress reply always fits, so the reply is no error. -/
theorem missingReply_ok (s : Session) (frame : SpeakerAssetsFrame) (cookie : UInt32)
    (cells : Cells UInt8) (base : UInt32)
    {missing totalBitmapBytes : Nat} (h : missing / 8 ≤ totalBitmapBytes) :
    ∃ reply, s.missingReply frame cookie cells base missing totalBitmapBytes = (.reply reply, s)
      ∧ hasFlag reply flagError = false := by
  unfold missingReply
  dsimp only
  rw [copyReceivedBitmap, if_neg]
  · refine ⟨_, rfl, ?_⟩
    simp only [hasFlag, fragmentReply, statusReply, if_true]
    rfl
  · split <;> omega

/-! ## Plans -/

/-- The two requests that carry a plan. -/
def PlanRequest (opcode : UInt8) (kind : SpeakerAssetsActionKind) : Prop :=
  SpeakerAssetsOpcode.ofByte opcode = some .begin ∧ kind = .begin
    ∨ SpeakerAssetsOpcode.ofByte opcode = some .recoverInvalidStaging ∧ kind = .discardInvalidStaging

/-- A fragment of a plan in its wire form, under the request's opcode and id. -/
structure IsPlanFragment (request : SpeakerAssetsFrame) (encoded : List UInt8)
    (frame : SpeakerAssetsFrame) : Prop where
  opcode : frame.opcode = request.opcode
  requestId : frame.requestId = request.requestId
  valid : planFrameIsValid frame = true
  size : frame.body.length ≤ wifiFrameBodyBytes
  bytes : ∀ (i : Nat) (a : UInt8), frame.body[i]? = some a → encoded[frame.objectOffset.toNat + i]? = some a

/-- The plan is under assembly for this request, with nothing but its bytes. -/
structure PlanOwned (s : Session) (route : SpeakerAssetsRouteToken) (request : SpeakerAssetsFrame)
    (kind : SpeakerAssetsActionKind) (encoded : List UInt8) : Prop where
  phase : s.phase = .beginAssembly
  kind : s.planActionKind = kind
  owner : s.planAssembler.owner = route
  beginId : s.planAssembler.beginId = request.requestId
  agrees : Agrees s.planAssembler.cells encoded

/-- A session that takes the plan's fragments: a fresh one, the bound route's for a `Begin`, or one
that has begun. -/
def TakesPlan (s : Session) (route : SpeakerAssetsRouteToken) (request : SpeakerAssetsFrame)
    (kind : SpeakerAssetsActionKind) (encoded : List UInt8) (first : SpeakerAssetsFrame) : Prop :=
  (s.phase = .idle ∧ first.objectOffset = 0)
    ∨ (s.phase = .ready ∧ kind = .begin ∧ s.route = route ∧ first.objectOffset = 0)
    ∨ s.PlanOwned route request kind encoded

variable {s : Session} {H : Hashes} {route : SpeakerAssetsRouteToken} {request frame : SpeakerAssetsFrame}
  {kind : SpeakerAssetsActionKind} {encoded : List UInt8}

theorem routeIsValid_of_session (h : sessionRouteIsValid route = true) : routeIsValid route = true := by
  unfold sessionRouteIsValid at h
  unfold routeIsValid
  split at h
  · cases h
  · rename_i hgeneration
    split at h
    · rename_i husb
      simp [husb, hgeneration]
      simpa using h
    · rename_i husb
      simp only [beq_iff_eq] at h
      simp [h, hgeneration]

theorem consume_plan (hroute : sessionRouteIsValid route = true) (hid : request.requestId ≠ 0)
    (hkind : PlanRequest request.opcode kind) (hframe : IsPlanFragment request encoded frame)
    (hphase : s.phase ≠ .actionPending) :
    s.consume H route frame = (.ok, s.consumePlanAction H route frame kind) := by
  have hflags : frame.flags &&& ~~~(flagAckRequested ||| flagFirstFragment ||| flagLastFragment) = 0 := by
    have hvalid := hframe.valid
    simp only [planFrameIsValid, Bool.not_eq_true', Bool.or_eq_false_iff, bne_eq_false_iff_eq] at hvalid
    exact hvalid.1.1.1.1.1.1
  have hknown : frame.flags &&& ~~~knownFlags = 0 := and_eq_zero_of_subset hflags (by decide)
  have hresponse : frame.flags &&& (flagResponse ||| flagError) = 0 :=
    and_eq_zero_of_subset hflags (by decide)
  have hsize := hframe.size
  rcases hkind with ⟨hop, rfl⟩ | ⟨hop, rfl⟩
  all_goals
    rw [← hframe.opcode] at hop
    unfold consume
    rw [if_neg (by simp [hroute, hframe.requestId, hid]; omega),
      if_neg (by simp [hknown, hresponse]), if_neg (by simp [hop]),
      if_neg hphase]
    unfold dispatch
    rw [hop]

theorem consumePlanAction_opened {t : Session} {opcode : UInt8} (hkind : PlanRequest opcode kind)
    (hvalid : planFrameIsValid frame = true) (hopen : s.openPlanAssembly route frame kind = (none, t)) :
    s.consumePlanAction H route frame kind = t.feedPlan H route frame kind := by
  unfold consumePlanAction
  rw [if_neg (by rcases hkind with ⟨-, rfl⟩ | ⟨-, rfl⟩ <;> simp), if_neg (by simp [hvalid]), hopen]

theorem PlanOwned.opened (howned : s.PlanOwned route request kind encoded) :
    s.openPlanAssembly route frame kind = (none, s) := by
  simp [openPlanAssembly, howned.phase, howned.kind]

/-- A fragment of the plan is accepted. -/
theorem acceptFragment_plan (hs : s.Reachable) (howned : s.PlanOwned route request kind encoded)
    (hframe : IsPlanFragment request encoded frame) :
    ∃ assembler,
      s.planAssembler.acceptFragment route frame.requestId frame.objectOffset.toUInt16 frame.body =
        .ok assembler
        ∧ Agrees assembler.cells encoded ∧ assembler.owner = route ∧ assembler.beginId = request.requestId
        ∧ ∀ i, Arrived assembler.cells i ↔ Arrived s.planAssembler.cells i ∨ InBody 0 frame i := by
  obtain ⟨hoffset, hfits, hbody, -, -, -⟩ := Assemblies.plan_flags hframe.valid
  obtain ⟨cells, haccept, hagrees⟩ := howned.agrees.accept hframe.bytes
  have hsize := hframe.size
  refine ⟨{ s.planAssembler with cells }, ?_, hagrees, howned.owner, howned.beginId, fun i => ?_⟩
  · unfold PlanAssembler.acceptFragment
    rw [if_neg (by simp [hs.invariant.plan_open howned.phase,
      howned.owner, howned.beginId, hframe.requestId]), if_neg hbody,
      if_neg (by omega)]
    rw [← hoffset] at haccept
    simp only [acceptCells, haccept]
    rfl
  · rw [arrived_accept haccept (by rw [hs.assemblies.plan_cells]; exact hfits), InBody, Nat.zero_add]

/-- A fragment that leaves something missing: a progress reply. -/
theorem plan_fragment (hs : s.Reachable) (hroute : sessionRouteIsValid route = true)
    (hid : request.requestId ≠ 0)
    (hkind : PlanRequest request.opcode kind) (howned : s.PlanOwned route request kind encoded)
    (hframe : IsPlanFragment request encoded frame)
    (hmissing : ∃ i < 640, ¬ Arrived s.planAssembler.cells i ∧ ¬ InBody 0 frame i) :
    ∃ reply t, s.consume H route frame = (.ok, .reply reply, t) ∧ hasFlag reply flagError = false
      ∧ t.PlanOwned route request kind encoded ∧ Quiet s t
      ∧ ∀ i, Arrived t.planAssembler.cells i ↔ Arrived s.planAssembler.cells i ∨ InBody 0 frame i := by
  obtain ⟨assembler, haccept, hagrees, howner, hbegin, harrived⟩ := acceptFragment_plan hs howned hframe
  have hnext := hs.assemblies.acceptedPlan howned.phase hframe.valid haccept
  have hincomplete : assembler.complete = false := by
    obtain ⟨i, hi, hold, hnew⟩ := hmissing
    have hreceived : assembler.receivedBytes ≠ 640 := by
      intro hall
      have hcells : assembler.cells.length = 640 := hnext.plan_cells
      rw [PlanAssembler.receivedBytes, ← hcells, received_eq_length] at hall
      rcases (harrived i).mp (hall i (by omega)) with h | h
      · exact hold h
      · exact hnew h
    simp [PlanAssembler.complete, hreceived]
  have hmissing : assembler.firstMissingOffset / 8 ≤ planWireBytes / 8 := by
    have hle : assembler.firstMissingOffset ≤ assembler.cells.length := List.findIdx_le_length
    have hcells : assembler.cells.length = 640 := hnext.plan_cells
    simp only [planWireBytes]
    omega
  obtain ⟨reply, hreply, hok⟩ :=
    missingReply_ok (s.acceptedPlan frame assembler) frame 0 assembler.cells 0 hmissing
  refine ⟨reply, s.acceptedPlan frame assembler, ?_, hok,
    ⟨howned.phase, howned.kind, howner, hbegin, hagrees⟩,
    ⟨⟨rfl, rfl, rfl, rfl, rfl, rfl, rfl⟩, rfl⟩, harrived⟩
  rw [consume_plan hroute hid hkind hframe (by simp [howned.phase]),
    consumePlanAction_opened hkind hframe.valid howned.opened]
  unfold feedPlan
  rw [haccept]
  dsimp only
  rw [if_pos (by simp [acceptedPlan, hincomplete])]
  rw [← hreply]
  rfl

/-- The fragment that completes the plan: the session decodes it and searches the ring. -/
theorem plan_completes (hs : s.Reachable) (hroute : sessionRouteIsValid route = true)
    (hid : request.requestId ≠ 0)
    (hkind : PlanRequest request.opcode kind) (howned : s.PlanOwned route request kind encoded)
    (hlen : encoded.length = 640)
    (hframe : IsPlanFragment request encoded frame)
    (hall : ∀ i < 640, Arrived s.planAssembler.cells i ∨ InBody 0 frame i) :
    ∃ t, s.consume H route frame = (.ok, t.finishPlan H route frame kind) ∧ Quiet s t
      ∧ t.planAssembler.decode H = decodeSoundBundlePlanWire H encoded := by
  obtain ⟨assembler, haccept, hagrees, howner, hbegin, harrived⟩ := acceptFragment_plan hs howned hframe
  have hnext := hs.assemblies.acceptedPlan howned.phase hframe.valid haccept
  have hcells : assembler.cells.length = 640 := hnext.plan_cells
  have hreceived : received assembler.cells = assembler.cells.length :=
    received_eq_length.mpr fun i hi => (harrived i).mpr (hall i (by omega))
  have hcomplete : assembler.complete = true := by
    simp [PlanAssembler.complete, PlanAssembler.receivedBytes, hreceived, hcells,
      (Invariant.of_acceptFragment_ok haccept).1]
  have hseen := hnext.plan_seen howned.phase
  have hfirst : (s.acceptedPlan frame assembler).beginSawFirst = true :=
    hseen.first ((harrived 0).mpr (hall 0 (by omega)))
  have hlast : (s.acceptedPlan frame assembler).beginSawLast = true :=
    hseen.last ((harrived 639).mpr (hall 639 (by omega)))
  refine ⟨s.acceptedPlan frame assembler, ?_, ⟨⟨rfl, rfl, rfl, rfl, rfl, rfl, rfl⟩, rfl⟩, ?_⟩
  · rw [consume_plan hroute hid hkind hframe (by simp [howned.phase]),
      consumePlanAction_opened hkind hframe.valid howned.opened]
    unfold feedPlan
    rw [haccept]
    dsimp only
    rw [if_neg]
    rw [hfirst, hlast]
    simp [acceptedPlan, hcomplete]
  · show assembler.decode H = _
    rw [PlanAssembler.decode, if_pos hcomplete, contents_eq hagrees (hlen.trans hcells.symm) hreceived]

/-- The fragments before the last one. -/
theorem plan_fragments (hs : s.Reachable) (hroute : sessionRouteIsValid route = true)
    (hid : request.requestId ≠ 0)
    (hkind : PlanRequest request.opcode kind) (howned : s.PlanOwned route request kind encoded)
    (frames : List SpeakerAssetsFrame) (hframes : ∀ frame ∈ frames, IsPlanFragment request encoded frame)
    (hmissing : ∃ i < 640, ¬ Arrived s.planAssembler.cells i ∧ ∀ frame ∈ frames, ¬ InBody 0 frame i) :
    ∃ replies : List SpeakerAssetsFrame,
      answers (step H) s (frames.map (.consume route)) = replies.map (fun reply => (.ok, .reply reply))
        ∧ (∀ reply ∈ replies, hasFlag reply flagError = false)
        ∧ (after (step H) s (frames.map (.consume route))).PlanOwned route request kind encoded
        ∧ Quiet s (after (step H) s (frames.map (.consume route)))
        ∧ ∀ i, Arrived (after (step H) s (frames.map (.consume route))).planAssembler.cells i ↔
            Arrived s.planAssembler.cells i ∨ ∃ frame ∈ frames, InBody 0 frame i := by
  induction frames generalizing s with
  | nil => exact ⟨[], rfl, nofun, howned, .refl s, by simp⟩
  | cons frame frames ih =>
    obtain ⟨i, hi, hold, hnew⟩ := hmissing
    obtain ⟨reply, t, hconsume, hok, howned', hquiet, harrived⟩ :=
      plan_fragment (H := H) hs hroute hid hkind howned (hframes frame (.head _)) ⟨i, hi,
        hold, hnew frame (.head _)⟩
    have hstep : s.step H (.consume route frame) = ((.ok, .reply reply), t) := by simp only [step, hconsume]
    have ht : t.Reachable := by
      have := hs.step H (.consume route frame)
      rwa [hstep] at this
    obtain ⟨replies, hanswers, hoks, howned'', hquiet', harrived'⟩ :=
      ih ht howned' (fun frame hmem => hframes frame (.tail _ hmem))
        ⟨i, hi, by rw [harrived]; exact not_or.mpr ⟨hold, hnew frame (.head _)⟩,
          fun frame hmem => hnew frame (.tail _ hmem)⟩
    have hafter :
      after (step H) s ((frame :: frames).map (.consume route)) =
      after (step H) t (frames.map (.consume route)) := by
      rw [List.map_cons, after_cons, hstep]
    rw [hafter]
    refine ⟨reply :: replies, ?_, ?_, howned'', hquiet.trans hquiet', fun i => ?_⟩
    · rw [List.map_cons, answers, hstep, hanswers, List.map_cons]
    · rintro r (- | ⟨_, hmem⟩)
      · exact hok
      · exact hoks r hmem
    · rw [harrived', harrived, or_assoc]
      simp

/-- The first fragment opens the assembly, and the session takes it as one that is open would. -/
theorem plan_opened (hs : s.Reachable) (hroute : sessionRouteIsValid route = true)
    (hid : request.requestId ≠ 0)
    (hkind : PlanRequest request.opcode kind) (htakes : s.TakesPlan route request kind encoded frame)
    (hframe : IsPlanFragment request encoded frame) :
    ∃ t : Session, t.Reachable ∧ t.PlanOwned route request kind encoded ∧ Quiet s t
      ∧ t.planAssembler.cells = s.planAssembler.cells
      ∧ s.step H (.consume route frame) = t.step H (.consume route frame) := by
  have hbegin : ({} : PlanAssembler).begin route frame.requestId
      = .ok { owner := route, beginId := frame.requestId, bound := true } := by
    simp [PlanAssembler.begin, routeIsValid_of_session hroute, hframe.requestId, hid]
  have hfirst (h : frame.objectOffset = 0) : hasFlag frame flagFirstFragment = true := by
    rw [(Assemblies.plan_flags hframe.valid).2.2.2.2.1, h]
    rfl
  -- the state that `openPlanAssembly` leaves is one of a run, and takes the fragment as `s` does
  have hopened (fromReady : Bool) (hphase : s.phase ≠ .actionPending) (hplan : s.planAssembler = {})
      (hopen : s.openPlanAssembly route frame kind =
        (none,
          { s with
            planAssembler := { owner := route, beginId := frame.requestId, bound := true },
            phase := .beginAssembly,
            beginReplayFromReady := fromReady, planActionKind := kind })) :
      ∃ t : Session, t.Reachable ∧ t.PlanOwned route request kind encoded ∧ Quiet s t
        ∧ t.planAssembler.cells = s.planAssembler.cells
        ∧ s.step H (.consume route frame) = t.step H (.consume route frame) := by
    have hinvariant := (hs.invariant.openPlanAssembly route frame kind).1
    have hassemblies := @Assemblies.openPlanAssembly s route frame hs.assemblies hs.invariant kind
    rw [hopen] at hinvariant hassemblies
    have howned : PlanOwned { s with
            planAssembler := { owner := route, beginId := frame.requestId, bound := true },
            phase := .beginAssembly,
            beginReplayFromReady := fromReady, planActionKind := kind } route request kind encoded :=
      ⟨rfl, rfl, rfl, hframe.requestId, agrees_empty 640 encoded⟩
    refine ⟨_, ⟨hinvariant, hs.ring.of_same rfl rfl fun _ _ => rfl, hassemblies⟩, howned,
      ⟨⟨rfl, rfl, rfl, rfl, rfl, rfl, rfl⟩, rfl⟩, by rw [hplan], ?_⟩
    simp only [step, consume_plan hroute hid hkind hframe hphase,
      consume_plan hroute hid hkind hframe (s := { s with
            planAssembler := { owner := route, beginId := frame.requestId, bound := true },
            phase := .beginAssembly,
            beginReplayFromReady := fromReady, planActionKind := kind }) (by simp)]
    rw [consumePlanAction_opened hkind hframe.valid hopen,
      consumePlanAction_opened hkind hframe.valid howned.opened]
  rcases htakes with ⟨hphase, hoffset⟩ | ⟨hphase, hbegins, hbound, hoffset⟩ | howned
  · have hplan := hs.invariant.plan_fresh (by simp [hphase])
    refine hopened false (by simp [hphase]) hplan ?_
    simp [openPlanAssembly, hphase, hfirst hoffset, hplan, hbegin]
  · have hplan := hs.invariant.plan_fresh (by simp [hphase])
    refine hopened true (by simp [hphase]) hplan ?_
    simp [openPlanAssembly, hphase, hbegins, hbound, hfirst hoffset,
      hs.invariant.bound (.inl hphase), hbegin]
  · exact ⟨s, hs, howned, .refl s, rfl, rfl⟩

/-- The plan of a request, sent in any fragments: each is answered, the last from the ring if the
ring knows the id. -/
theorem plan_transmission (hs : s.Reachable) (hroute : sessionRouteIsValid route = true)
    (hid : request.requestId ≠ 0)
    (hkind : PlanRequest request.opcode kind) {frames : List SpeakerAssetsFrame}
    (hframes : ∀ frame ∈ frames, IsPlanFragment request encoded frame)
    (htakes : ∀ frame ∈ frames.head?, s.TakesPlan route request kind encoded frame)
    (hlen : encoded.length = 640)
    (hcompletes : Completes s.planAssembler.cells 0 640 frames) {plan : SoundBundlePlan}
    (hdecode : decodeSoundBundlePlanWire H encoded = .ok plan) :
    (∀ reply,
        s.lookupReplay route 0 request.requestId request.opcode .manifest 0
          (planFingerprint H plan) = .exact reply →
          AnsweredAtLast H s route frames reply)
      ∧ (s.lookupReplay route 0 request.requestId request.opcode .manifest 0
        (planFingerprint H plan) = .conflict →
          ∀ last ∈ frames.getLast?, AnsweredAtLast H s route frames
            (statusReply last .integrityError 0)) := by
  obtain ⟨first, rest, rfl⟩ := List.exists_cons_of_ne_nil hcompletes.ne_nil
  obtain ⟨t, ht, howned, hquiet, hcells, hstep⟩ :=
    plan_opened (H := H) hs hroute hid hkind (htakes first rfl) (hframes first (.head _))
  generalize hall : first :: rest = frames at *
  obtain ⟨init, last, rfl⟩ : ∃ init last, frames = init ++ [last] := by
    rw [← hall]
    exact ⟨_, _, (List.dropLast_append_getLast (List.cons_ne_nil first rest)).symm⟩
  rw [← hcells] at hcompletes
  obtain ⟨i, hi, hold, hneeded⟩ := hcompletes.needed
  rw [List.dropLast_concat] at hneeded
  obtain ⟨replies, hanswers, hoks, howned', hquiet', harrived⟩ :=
    plan_fragments (H := H) ht hroute hid hkind howned init (fun frame hmem =>
      hframes frame (List.mem_append_left _ hmem))
      ⟨i, hi, hold, hneeded⟩
  have hlast := hframes last (by simp)
  obtain ⟨u, hconsume, hquiet'', hdecoded⟩ :=
    plan_completes (H := H) (ht.after H _) hroute hid hkind howned' hlen hlast fun j hj => by
      rcases hcompletes.covers j hj with h | ⟨frame, hmem, h⟩
      · exact .inl ((harrived j).mpr (.inl h))
      · rcases List.mem_append.mp hmem with hmem | hmem
        · exact .inl ((harrived j).mpr (.inr ⟨frame, hmem, h⟩))
        · rw [List.mem_singleton] at hmem
          exact .inr (hmem ▸ h)
  -- the answers of the run, up to the last one
  have hrun : answers (step H) s ((init ++ [last]).map (.consume route)) =
      replies.map (fun reply => (.ok, .reply reply)) ++ [(.ok, (u.finishPlan H route last kind).1)] := by
    rw [show answers (step H) s ((init ++ [last]).map (.consume route)) =
      answers (step H) t ((init ++ [last]).map (.consume route)) by
      rw [← hall]; exact answers_congr hstep _]
    rw [List.map_append, List.map_singleton, answers_concat, hanswers, Lib.answer]
    simp only [step, hconsume]
  have hreplay : u.replay = s.replay := ((hquiet.trans hquiet').trans hquiet'').replay
  have hlookup :
    ({ u with decodedPlan := plan } : Session).lookupReplay route 0 last.requestId last.opcode .manifest 0
      (planFingerprint H plan) =
        s.lookupReplay route 0 request.requestId request.opcode .manifest 0 (planFingerprint H plan) := by
    rw [hlast.requestId, hlast.opcode]
    exact lookupReplay_congr hreplay ..
  have hfinish (final : SpeakerAssetsFrame) (h : (u.finishPlan H route last kind).1 = .reply final) :
      AnsweredAtLast H s route (init ++ [last]) final :=
    ⟨replies, by rw [hrun, h, List.map_append, List.map_singleton], hoks⟩
  constructor
  · intro reply hexact
    refine hfinish reply ?_
    unfold finishPlan
    rw [hdecoded, hdecode]
    dsimp only
    rw [hlookup, hexact]
  · intro hconflict final hfinal
    rw [List.getLast?_concat, Option.mem_some_iff] at hfinal
    subst hfinal
    refine hfinish _ ?_
    unfold finishPlan
    rw [hdecoded, hdecode]
    dsimp only
    rw [hlookup, hconflict]
    rfl

/-! ## Units -/

/-- Where a unit starts in its region. -/
def unitStart (region : SpeakerAssetsRegion) (unitIndex : UInt16) : Nat :=
  if region = .manifest then 0 else unitIndex.toNat * 4096

/-- A fragment of a unit, under the request's opcode, id and cookie. -/
structure IsUnitFragment (request : SpeakerAssetsFrame) (region : SpeakerAssetsRegion) (unitIndex : UInt16)
    (content : List UInt8) (frame : SpeakerAssetsFrame) : Prop where
  opcode : frame.opcode = request.opcode
  requestId : frame.requestId = request.requestId
  cookie : frame.sessionCookie = request.sessionCookie
  flags :
    frame.flags &&&
    ~~~(flagAckRequested ||| flagFirstFragment ||| flagLastFragment ||| flagPayloadRegion) = 0
  ack : hasFlag frame flagAckRequested = true
  regionFlag : hasFlag frame flagPayloadRegion = decide (region = .payload)
  size : frame.body ≠ [] ∧ frame.body.length ≤ wifiFrameBodyBytes
  start : unitStart region unitIndex ≤ frame.objectOffset.toNat
  fits : frame.objectOffset.toNat + frame.body.length ≤ unitStart region unitIndex + content.length
  first : hasFlag frame flagFirstFragment = decide (frame.objectOffset.toNat = unitStart region unitIndex)
  last : hasFlag frame flagLastFragment =
    decide (frame.objectOffset.toNat + frame.body.length = unitStart region unitIndex + content.length)
  bytes : ∀ (i : Nat) (a : UInt8), frame.body[i]? = some a →
    content[frame.objectOffset.toNat - unitStart region unitIndex + i]? = some a

/-- The unit is under assembly for this request, with nothing but its bytes. -/
structure UnitOwned (s : Session) (request : SpeakerAssetsFrame) (region : SpeakerAssetsRegion)
    (unitIndex : UInt16)
    (content : List UInt8) : Prop where
  phase : s.phase = .unitAssembly
  requestId : s.unitRequestId = request.requestId
  region : s.blockAssembler.region = region
  unitIndex : s.blockAssembler.unitIndex = unitIndex
  agrees : Agrees s.blockAssembler.cells content

/-- A session that takes the unit's fragments: `Ready`, or with this very unit open. -/
def TakesUnit (s : Session) (request : SpeakerAssetsFrame) (region : SpeakerAssetsRegion)
    (unitIndex : UInt16)
    (content : List UInt8) (first : SpeakerAssetsFrame) : Prop :=
  (s.phase = .ready ∧ first.objectOffset.toNat = unitStart region unitIndex)
    ∨ s.UnitOwned request region unitIndex content

/-- The bytes of the unit that have arrived: none in `Ready`. -/
def unitCells (s : Session) : Cells UInt8 :=
  if s.phase = .unitAssembly then s.blockAssembler.cells else Reassembly.empty 4096

variable {region : SpeakerAssetsRegion} {unitIndex : UInt16} {content : List UInt8}

/-- A unit whose fields fit the fragment is what its flags say. -/
theorem dataFrameIsValid_of_fragment (hframe : IsUnitFragment request region unitIndex content frame)
    {unit : DataUnit}
    (hoffset : unit.unitOffset.toNat = frame.objectOffset.toNat - unitStart region unitIndex)
    (hexpected : unit.expectedBytes.toNat = content.length) : dataFrameIsValid frame unit = true := by
  have hbody : 0 < frame.body.length := List.length_pos_of_ne_nil hframe.size.1
  have hstart := hframe.start
  have hfits := hframe.fits
  have hzero : unit.expectedBytes ≠ 0 := fun h => by
    rw [h] at hexpected
    have : content.length = 0 := hexpected.symm
    omega
  have hfirst : hasFlag frame flagFirstFragment = (unit.unitOffset == 0) := by
    rw [hframe.first, Bool.eq_iff_iff, decide_eq_true_iff, beq_iff_eq,
      ← UInt16.toNat_inj, hoffset, UInt16.toNat_zero]
    omega
  have hlast : hasFlag frame flagLastFragment =
      decide (unit.unitOffset.toNat + frame.body.length = unit.expectedBytes.toNat) := by
    rw [hframe.last, Bool.eq_iff_iff, decide_eq_true_iff, decide_eq_true_iff, hoffset, hexpected]
    omega
  have hend : ¬ unit.unitOffset.toNat + frame.body.length > unit.expectedBytes.toNat := by omega
  simp only [dataFrameIsValid, hfirst, hlast, decide_eq_false hend,
    bne_self_eq_false, Bool.or_false, Bool.not_eq_true']
  simpa using hzero

/-- The session reads a fragment of the unit as such. -/
theorem dataUnit_of_fragment {progress : SoundUpdateProgress} (hwf : progressIsWellFormed progress = true)
    (hlen : content.length = (unitLength progress region unitIndex).toNat)
    (hindex : region = .manifest → unitIndex = 0)
    (hframe : IsUnitFragment request region unitIndex content frame) :
    ∃ unit, dataUnit progress frame = some unit ∧ unit.region = region ∧ unit.unitIndex = unitIndex
      ∧ unit.unitOffset.toNat = frame.objectOffset.toNat - unitStart region unitIndex
      ∧ unit.expectedBytes = unitLength progress region unitIndex
      ∧ (region = .payload → unitIndex.toNat < soundPayloadBlockCount) := by
  have hle := unitLength_le hwf region unitIndex
  have hbody : 0 < frame.body.length := List.length_pos_of_ne_nil hframe.size.1
  have hstart := hframe.start
  have hfits := hframe.fits
  have hflag := hframe.regionFlag
  simp only [progressIsWellFormed, Bool.and_eq_true] at hwf
  obtain ⟨⟨⟨⟨⟨-, hmanifest⟩, hpayload⟩, -⟩, -⟩, -⟩ := hwf
  have hmanifest : progress.manifestBytes.toNat ≤ 4096 := (of_decide_eq_true hmanifest).2
  have hpayload : progress.payloadBytes.toNat ≤ 0x80000 := of_decide_eq_true hpayload
  cases region with
  | manifest =>
    obtain rfl := hindex rfl
    simp only [unitStart, if_true, unitLength, UInt32.toNat_toUInt16, Nat.zero_add] at hlen hfits hle ⊢
    have hinside : ¬ frame.objectOffset ≥ progress.manifestBytes := by
      rw [ge_iff_le, UInt32.le_iff_toNat_le]
      omega
    refine ⟨⟨.manifest, 0, 0, progress.manifestBytes.toUInt16, frame.objectOffset.toUInt16⟩, ?_,
      rfl, rfl, ?_, rfl, by simp⟩
    · unfold dataUnit
      rw [if_neg (by simp [hflag]), if_neg hinside]
    · simp only [UInt32.toNat_toUInt16]
      omega
  | payload =>
    have hlength : content.length = min 4096 (progress.payloadBytes.toNat - unitIndex.toNat * 4096) := by
      rw [hlen, ← toNat_payloadBlockLength]
      rfl
    simp only [unitStart, if_neg (show ¬ SpeakerAssetsRegion.payload = .manifest by decide)]
      at hstart hfits ⊢
    have hat : (frame.objectOffset / 4096).toUInt16 = unitIndex := by
      rw [← UInt16.toNat_inj, UInt32.toNat_toUInt16, UInt32.toNat_div,
        show (4096 : UInt32).toNat = 4096 from rfl]
      have := unitIndex.toNat_lt
      omega
    have hbefore : ¬ frame.objectOffset ≥ progress.payloadBytes := by
      rw [ge_iff_le, UInt32.le_iff_toNat_le]
      omega
    refine ⟨⟨.payload, unitIndex, unitIndex.toUInt32 * 4096,
      payloadBlockLength progress.payloadBytes unitIndex,
      (frame.objectOffset - unitIndex.toUInt32 * 4096).toUInt16⟩, ?_, rfl, rfl, ?_, rfl, fun _ => ?_⟩
    · unfold dataUnit
      rw [if_pos (by simp [hflag]), if_neg hbefore, hat]
    · have hsub :
        (frame.objectOffset - unitIndex.toUInt32 * 4096).toNat =
        frame.objectOffset.toNat - unitIndex.toNat * 4096 := by
        rw [UInt32.toNat_sub_of_le _ _ (by
          rw [UInt32.le_iff_toNat_le, toNat_mul_4096]; exact hstart), toNat_mul_4096]
      simp only [UInt32.toNat_toUInt16, hsub]
      omega
    · simp only [soundPayloadBlockCount]
      omega

/-- The binding takes the content as this unit. -/
structure TakesContent (s : Session) (route : SpeakerAssetsRouteToken) (request : SpeakerAssetsFrame)
    (region : SpeakerAssetsRegion) (unitIndex : UInt16) (content : List UInt8) : Prop where
  bound : BoundTo s route request
  length : content.length = (unitLength s.progress region unitIndex).toNat
  index : region = .manifest → unitIndex = 0

theorem TakesContent.of_quiet {t : Session}
    (h : s.TakesContent route request region unitIndex content) (hquiet : Quiet s t) :
    t.TakesContent route request region unitIndex content :=
  ⟨⟨hquiet.routeBound.trans h.bound.bound, hquiet.route.trans h.bound.route,
    h.bound.cookie.trans hquiet.sessionCookie.symm⟩,
    by rw [hquiet.progress]; exact h.length, h.index⟩

theorem consume_unit (hroute : sessionRouteIsValid route = true) (hid : request.requestId ≠ 0)
    (hop : SpeakerAssetsOpcode.ofByte request.opcode = some .data)
    (hframe : IsUnitFragment request region unitIndex content frame) (hphase : s.phase ≠ .actionPending) :
    s.consume H route frame = (.ok, s.consumeData H route frame) := by
  have hknown : frame.flags &&& ~~~knownFlags = 0 := and_eq_zero_of_subset hframe.flags (by decide)
  have hresponse : frame.flags &&& (flagResponse ||| flagError) = 0 :=
    and_eq_zero_of_subset hframe.flags (by decide)
  have hsize := hframe.size.2
  rw [← hframe.opcode] at hop
  unfold consume
  rw [if_neg (by simp [hroute, hframe.requestId, hid]; omega),
    if_neg (by simp [hknown, hresponse]), if_neg (by simp [hop]),
    if_neg hphase]
  unfold dispatch
  rw [hop]

theorem consumeData_opened {t : Session} (hs : s.Reachable)
    (htakes : s.TakesContent route request region unitIndex content)
    (hframe : IsUnitFragment request region unitIndex content frame) (hphase : s.phase = .ready ∨
      s.phase = .unitAssembly)
    {unit : DataUnit} (hunit : dataUnit s.progress frame = some unit)
    (hvalid : dataFrameIsValid frame unit = true)
    (hopen : s.openUnit frame unit = (none, t)) :
    s.consumeData H route frame = t.feedUnit H route frame unit := by
  have hbinding := hs.invariant.binding htakes.bound.bound
  unfold consumeData
  dsimp only
  rw [if_neg]
  · rw [hunit]
    dsimp only
    rw [if_neg (by simp [hvalid]), hopen]
  · simp only [hframe.flags, hframe.ack, hframe.size.1,
      htakes.bound.bound, htakes.bound.route, hframe.cookie,
      htakes.bound.cookie, hbinding.1, ne_eq, not_true, Bool.not_true, Bool.false_eq_true, false_or,
        not_and_or, not_not]
    exact hphase

theorem UnitOwned.opened (howned : s.UnitOwned request region unitIndex content)
    (hframe : IsUnitFragment request region unitIndex content frame) {unit : DataUnit}
    (hregion : unit.region = region)
    (hindex : unit.unitIndex = unitIndex) : s.openUnit frame unit = (none, s) := by
  unfold openUnit
  rw [if_neg (by simp [howned.phase]),
    if_neg (by simp [howned.requestId, hframe.requestId, howned.region, hregion, howned.unitIndex, hindex])]

/-- A fragment of the unit is accepted. -/
theorem acceptFragment_unit (hs : s.Reachable)
    (htakes : s.TakesContent route request region unitIndex content)
    (howned : s.UnitOwned request region unitIndex content)
    (hframe : IsUnitFragment request region unitIndex content frame) :
    ∃ unit assembler, dataUnit s.progress frame = some unit ∧ unit.region = region ∧
    unit.unitIndex = unitIndex
      ∧ dataFrameIsValid frame unit = true
      ∧ s.blockAssembler.acceptFragment unit.region unit.unitIndex unit.unitOffset frame.body =
        .ok assembler
      ∧ Agrees assembler.cells content ∧ assembler.expectedBytes.toNat = content.length
      ∧ ∀ i, Arrived assembler.cells i ↔ Arrived s.blockAssembler.cells i ∨
      InBody (unitStart region unitIndex) frame i := by
  have hwf := (hs.invariant.binding htakes.bound.bound).2.2
  have hopen := hs.assemblies.unit_open howned.phase
  obtain ⟨unit, hunit, hregion, hindex, hoffset, hexpected, -⟩ :=
    dataUnit_of_fragment hwf htakes.length htakes.index hframe
  have hexpected' : s.blockAssembler.expectedBytes.toNat = content.length := by
    rw [hopen.length, howned.region, howned.unitIndex, htakes.length]
  have hstart := hframe.start
  have hfits := hframe.fits
  have hsize := hframe.size.2
  obtain ⟨cells, haccept, hagrees⟩ := howned.agrees.accept hframe.bytes
  rw [← hoffset] at haccept
  have hle : unit.unitOffset.toNat + frame.body.length ≤ s.blockAssembler.cells.length := by
    have := unitLength_le hwf region unitIndex
    have := htakes.length
    rw [hs.assemblies.unit_cells]
    omega
  refine ⟨unit, { s.blockAssembler with cells }, hunit, hregion, hindex,
    dataFrameIsValid_of_fragment hframe hoffset (by rw [hexpected, htakes.length]), ?_, hagrees,
      hexpected', fun i => ?_⟩
  · have hbefore : ¬ unit.unitOffset > s.blockAssembler.expectedBytes := by
      rw [gt_iff_lt, UInt16.lt_iff_toNat_lt]
      omega
    unfold BlockAssembler.acceptFragment
    rw [if_neg (by simp [hopen.active]),
      if_neg (by simp [hregion, hindex, howned.region, howned.unitIndex]),
      if_neg hframe.size.1, if_neg (by rw [not_or, not_or]; exact ⟨by omega, hbefore, by omega⟩)]
    simp only [acceptCells, haccept]
    rfl
  · rw [arrived_accept haccept hle, InBody, hoffset]
    refine or_congr_right ?_
    omega

/-- A fragment that leaves something missing: a progress reply. -/
theorem unit_fragment (hs : s.Reachable) (hroute : sessionRouteIsValid route = true)
    (hid : request.requestId ≠ 0)
    (hop : SpeakerAssetsOpcode.ofByte request.opcode = some .data)
    (htakes : s.TakesContent route request region unitIndex content)
    (howned : s.UnitOwned request region unitIndex content)
    (hframe : IsUnitFragment request region unitIndex content frame)
    (hmissing : ∃ i < content.length, ¬ Arrived s.blockAssembler.cells i ∧
      ¬ InBody (unitStart region unitIndex) frame i) :
    ∃ reply t, s.consume H route frame = (.ok, .reply reply, t) ∧ hasFlag reply flagError = false
      ∧ t.UnitOwned request region unitIndex content ∧ Quiet s t
      ∧ ∀ i, Arrived t.blockAssembler.cells i ↔
          Arrived s.blockAssembler.cells i ∨ InBody (unitStart region unitIndex) frame i := by
  obtain ⟨unit, assembler, hunit, hregion, hindex, hvalid, haccept, hagrees, hexpected, harrived⟩ :=
    acceptFragment_unit hs htakes howned hframe
  obtain ⟨hnext, hregion', hindex'⟩ :=
    hs.assemblies.acceptedUnit hs.invariant howned.phase hunit hvalid haccept
  have hcells : assembler.cells.length = 4096 := hnext.unit_cells
  have hopen : UnitOpen s.progress assembler := hnext.unit_open howned.phase
  have hle : content.length ≤ 4096 := by
    rw [htakes.length]
    exact unitLength_le (hs.invariant.binding htakes.bound.bound).2.2 ..
  have hbounded : ∀ i, Arrived assembler.cells i → i < content.length :=
    fun i hi => hexpected ▸ hopen.bounded i hi
  have hincomplete : assembler.complete = false := by
    obtain ⟨i, hi, hold, hnew⟩ := hmissing
    have hreceived : assembler.receivedBytes ≠ assembler.expectedBytes.toNat := by
      intro hall
      rw [BlockAssembler.receivedBytes, hexpected, received_eq (by omega) hbounded] at hall
      rcases (harrived i).mp (hall i hi) with h | h
      · exact hold h
      · exact hnew h
    simp [BlockAssembler.complete, hreceived]
  have hmissing : assembler.firstMissingOffset / 8 ≤ (assembler.expectedBytes.toNat + 7) / 8 := by
    have hfirst :
      assembler.firstMissingOffset ≤ (assembler.cells.take assembler.expectedBytes.toNat).length := by
      unfold BlockAssembler.firstMissingOffset
      rw [if_pos hopen.active]
      exact List.findIdx_le_length
    rw [List.length_take] at hfirst
    omega
  obtain ⟨reply, hreply, hok⟩ :=
    missingReply_ok (s.acceptedUnit frame assembler) frame s.sessionCookie assembler.cells
    s.unitBaseOffset hmissing
  refine ⟨reply, s.acceptedUnit frame assembler, ?_, hok,
    ⟨howned.phase, howned.requestId, hregion'.trans hregion, hindex'.trans hindex, hagrees⟩,
    ⟨⟨rfl, rfl, rfl, rfl, rfl, rfl, rfl⟩, rfl⟩, harrived⟩
  rw [consume_unit hroute hid hop hframe (by simp [howned.phase]),
    consumeData_opened hs htakes hframe (.inr howned.phase) hunit hvalid
      (howned.opened hframe hregion hindex)]
  unfold feedUnit
  rw [haccept]
  dsimp only
  rw [if_pos (by simp [acceptedUnit, hincomplete])]
  rw [← hreply]
  rfl

/-- The fragment that completes the unit: the session searches the ring for its bytes. -/
theorem unit_completes (hs : s.Reachable) (hroute : sessionRouteIsValid route = true)
    (hid : request.requestId ≠ 0)
    (hop : SpeakerAssetsOpcode.ofByte request.opcode = some .data)
    (htakes : s.TakesContent route request region unitIndex content)
    (howned : s.UnitOwned request region unitIndex content)
    (hframe : IsUnitFragment request region unitIndex content frame)
    (hall : ∀ i < content.length, Arrived s.blockAssembler.cells i ∨
      InBody (unitStart region unitIndex) frame i) :
    ∃ t unit, s.consume H route frame = (.ok, t.finishUnit H route frame unit) ∧ Quiet s t ∧
    unit.region = region
      ∧ unit.unitIndex = unitIndex ∧ t.blockAssembler.data = some content := by
  obtain ⟨unit, assembler, hunit, hregion, hindex, hvalid, haccept, hagrees, hexpected, harrived⟩ :=
    acceptFragment_unit hs htakes howned hframe
  obtain ⟨hnext, -, -⟩ := hs.assemblies.acceptedUnit hs.invariant howned.phase hunit hvalid haccept
  have hcells : assembler.cells.length = 4096 := hnext.unit_cells
  have hopen : UnitOpen s.progress assembler := hnext.unit_open howned.phase
  have hle : content.length ≤ 4096 := by
    rw [htakes.length]
    exact unitLength_le (hs.invariant.binding htakes.bound.bound).2.2 ..
  have hbounded : ∀ i, Arrived assembler.cells i → i < content.length :=
    fun i hi => hexpected ▸ hopen.bounded i hi
  have harrived' : ∀ i < content.length, Arrived assembler.cells i :=
    fun i hi => (harrived i).mpr (hall i hi)
  have hpositive : 0 < content.length := by
    have hbody := List.length_pos_of_ne_nil hframe.size.1
    have hstart := hframe.start
    have hfits := hframe.fits
    omega
  have hcomplete : assembler.complete = true := by
    rw [BlockAssembler.complete, hopen.active, Bool.true_and, beq_iff_eq, hexpected]
    exact (received_eq (by omega) hbounded).mpr harrived'
  have hseen := hnext.unit_seen howned.phase
  have hfirst : (s.acceptedUnit frame assembler).unitSawFirst = true := hseen.first (harrived' 0 hpositive)
  have hlast : (s.acceptedUnit frame assembler).unitSawLast = true := by
    refine hseen.last ?_
    show Arrived assembler.cells (assembler.expectedBytes.toNat - 1)
    rw [hexpected]
    exact harrived' _ (by omega)
  refine ⟨s.acceptedUnit frame assembler, unit, ?_,
    ⟨⟨rfl, rfl, rfl, rfl, rfl, rfl, rfl⟩, rfl⟩, hregion, hindex, ?_⟩
  · rw [consume_unit hroute hid hop hframe (by simp [howned.phase]),
      consumeData_opened hs htakes hframe (.inr howned.phase) hunit hvalid
        (howned.opened hframe hregion hindex)]
    unfold feedUnit
    rw [haccept]
    dsimp only
    rw [if_neg]
    rw [hfirst, hlast]
    simp [acceptedUnit, hcomplete]
  · show assembler.data = _
    rw [BlockAssembler.data, if_pos hopen.active, hexpected, contents_take_eq hagrees (by omega) harrived']

/-- The fragments before the last one. -/
theorem unit_fragments (hs : s.Reachable) (hroute : sessionRouteIsValid route = true)
    (hid : request.requestId ≠ 0)
    (hop : SpeakerAssetsOpcode.ofByte request.opcode = some .data)
    (htakes : s.TakesContent route request region unitIndex content)
    (howned : s.UnitOwned request region unitIndex content)
    (frames : List SpeakerAssetsFrame) (hframes : ∀ frame ∈ frames,
      IsUnitFragment request region unitIndex content frame)
    (hmissing : ∃ i < content.length,
      ¬ Arrived s.blockAssembler.cells i ∧
      ∀ frame ∈ frames, ¬ InBody (unitStart region unitIndex) frame i) :
    ∃ replies : List SpeakerAssetsFrame,
      answers (step H) s (frames.map (.consume route)) = replies.map (fun reply => (.ok, .reply reply))
        ∧ (∀ reply ∈ replies, hasFlag reply flagError = false)
        ∧ (after (step H) s (frames.map (.consume route))).UnitOwned request region unitIndex content
        ∧ Quiet s (after (step H) s (frames.map (.consume route)))
        ∧ ∀ i, Arrived (after (step H) s (frames.map (.consume route))).blockAssembler.cells i ↔
            Arrived s.blockAssembler.cells i ∨
            ∃ frame ∈ frames, InBody (unitStart region unitIndex) frame i := by
  induction frames generalizing s with
  | nil => exact ⟨[], rfl, nofun, howned, .refl s, by simp⟩
  | cons frame frames ih =>
    obtain ⟨i, hi, hold, hnew⟩ := hmissing
    obtain ⟨reply, t, hconsume, hok, howned', hquiet, harrived⟩ :=
      unit_fragment (H := H) hs hroute hid hop htakes howned (hframes frame (.head _)) ⟨i, hi,
        hold, hnew frame (.head _)⟩
    have hstep : s.step H (.consume route frame) = ((.ok, .reply reply), t) := by simp only [step, hconsume]
    have ht : t.Reachable := by
      have := hs.step H (.consume route frame)
      rwa [hstep] at this
    obtain ⟨replies, hanswers, hoks, howned'', hquiet', harrived'⟩ :=
      ih ht (htakes.of_quiet hquiet) howned' (fun frame hmem => hframes frame (.tail _ hmem))
        ⟨i, hi, by rw [harrived]; exact not_or.mpr ⟨hold, hnew frame (.head _)⟩,
          fun frame hmem => hnew frame (.tail _ hmem)⟩
    have hafter :
      after (step H) s ((frame :: frames).map (.consume route)) =
      after (step H) t (frames.map (.consume route)) := by
      rw [List.map_cons, after_cons, hstep]
    rw [hafter]
    refine ⟨reply :: replies, ?_, ?_, howned'', hquiet.trans hquiet', fun i => ?_⟩
    · rw [List.map_cons, answers, hstep, hanswers, List.map_cons]
    · rintro r (- | ⟨_, hmem⟩)
      · exact hok
      · exact hoks r hmem
    · rw [harrived', harrived, or_assoc]
      simp

/-- The first fragment opens the unit, and the session takes it as one that is open would. -/
theorem unit_opened (hs : s.Reachable) (hroute : sessionRouteIsValid route = true)
    (hid : request.requestId ≠ 0)
    (hop : SpeakerAssetsOpcode.ofByte request.opcode = some .data)
    (htakes : s.TakesContent route request region unitIndex content)
    (hopens : s.TakesUnit request region unitIndex content frame)
    (hframe : IsUnitFragment request region unitIndex content frame) :
    ∃ t : Session, t.Reachable ∧ t.UnitOwned request region unitIndex content ∧ Quiet s t
      ∧ t.blockAssembler.cells = s.unitCells ∧
      s.step H (.consume route frame) = t.step H (.consume route frame) := by
  rcases hopens with ⟨hphase, hoffset⟩ | howned
  · have hwf := (hs.invariant.binding htakes.bound.bound).2.2
    obtain ⟨unit, hunit, hregion, hindex, huoffset, hexpected, hblocks⟩ :=
      dataUnit_of_fragment hwf htakes.length htakes.index hframe
    have hvalid : dataFrameIsValid frame unit = true :=
      dataFrameIsValid_of_fragment hframe huoffset (by rw [hexpected, htakes.length])
    have hfirst : hasFlag frame flagFirstFragment = true := by
      rw [hframe.first, hoffset]
      exact decide_eq_true rfl
    have hpositive : unit.expectedBytes ≠ 0 := by
      intro hzero
      simp [dataFrameIsValid, hzero] at hvalid
    have hle : unit.expectedBytes.toNat ≤ 4096 := by
      rw [hexpected]
      exact unitLength_le hwf ..
    have hbegin : BlockAssembler.begin unit.region unit.unitIndex unit.expectedBytes
        = .ok { region := unit.region, unitIndex := unit.unitIndex,
                expectedBytes := unit.expectedBytes, active := true } := by
      unfold BlockAssembler.begin
      rw [if_neg]
      rw [hregion, hindex]
      rintro (h | h | ⟨h, h'⟩ | ⟨h, h'⟩)
      · exact hpositive h
      · omega
      · exact h' (htakes.index h)
      · have := hblocks h
        omega
    have hopen : s.openUnit frame unit =
        (none,
          { s with
            blockAssembler :=
              { region := unit.region, unitIndex := unit.unitIndex,
                expectedBytes := unit.expectedBytes, active := true },
            phase := .unitAssembly, unitRequestId := frame.requestId,
            unitBaseOffset := unit.unitBase, unitSawFirst := false,
            unitSawLast := false }) := by
      unfold openUnit
      rw [if_pos hphase, if_neg (by simp [hfirst]), hbegin]
    have hquiet := @quiet_openUnit s frame unit
    have hinvariant := (hs.invariant.openUnit (.inl hphase) frame unit).1
    have hassemblies := @Assemblies.openUnit s frame hs.assemblies _ hunit
    generalize ht : (s.openUnit frame unit).2 = t at hquiet hinvariant hassemblies
    have hopen' : s.openUnit frame unit = (none, t) := by rw [← ht, hopen]
    rw [hopen] at ht
    have howned : t.UnitOwned request region unitIndex content := by
      subst ht
      exact ⟨rfl, hframe.requestId, hregion, hindex, agrees_empty 4096 content⟩
    have hreachable : t.Reachable :=
      ⟨hinvariant, hs.ring.of_same hquiet.replay hquiet.nextReplaySlot fun _ _ =>
        hquiet.pending, hassemblies⟩
    refine ⟨t, hreachable, howned, hquiet, ?_, ?_⟩
    · rw [unitCells, if_neg (by simp [hphase]), ← ht]
    · simp only [step, consume_unit hroute hid hop hframe (s := s) (by simp [hphase]),
        consume_unit hroute hid hop hframe (s := t) (by simp [howned.phase])]
      rw [consumeData_opened hs htakes hframe (.inl hphase) hunit hvalid hopen',
        consumeData_opened hreachable (htakes.of_quiet hquiet) hframe (.inr howned.phase)
          (by rw [hquiet.progress]; exact hunit)
          hvalid (howned.opened hframe hregion hindex)]
  · exact ⟨s, hs, howned, .refl s, by rw [unitCells, if_pos howned.phase], rfl⟩

/-- A unit of the bound bundle, sent in any fragments: each is answered, the last from the ring if
the ring knows the id. -/
theorem unit_transmission (hs : s.Reachable) (hroute : sessionRouteIsValid route = true)
    (hid : request.requestId ≠ 0)
    (hop : SpeakerAssetsOpcode.ofByte request.opcode = some .data)
    (htakes : s.TakesContent route request region unitIndex content) {frames : List SpeakerAssetsFrame}
    (hframes : ∀ frame ∈ frames, IsUnitFragment request region unitIndex content frame)
    (hopens : ∀ frame ∈ frames.head?, s.TakesUnit request region unitIndex content frame)
    (hcompletes : Completes s.unitCells (unitStart region unitIndex) content.length frames) :
    (∀ reply,
        s.lookupReplay route request.sessionCookie request.requestId request.opcode region unitIndex
            (unitFingerprint H region unitIndex (some content)) = .exact reply →
          AnsweredAtLast H s route frames reply)
      ∧ (s.lookupReplay route request.sessionCookie request.requestId request.opcode region unitIndex
            (unitFingerprint H region unitIndex (some content)) = .conflict →
          ∀ last ∈ frames.getLast?, AnsweredAtLast H s route frames
            (statusReply last .integrityError request.sessionCookie)) := by
  obtain ⟨first, rest, rfl⟩ := List.exists_cons_of_ne_nil hcompletes.ne_nil
  obtain ⟨t, ht, howned, hquiet, hcells, hstep⟩ :=
    unit_opened (H := H) hs hroute hid hop htakes (hopens first rfl) (hframes first (.head _))
  generalize hall : first :: rest = frames at *
  obtain ⟨init, last, rfl⟩ : ∃ init last, frames = init ++ [last] := by
    rw [← hall]
    exact ⟨_, _, (List.dropLast_append_getLast (List.cons_ne_nil first rest)).symm⟩
  rw [← hcells] at hcompletes
  obtain ⟨i, hi, hold, hneeded⟩ := hcompletes.needed
  rw [List.dropLast_concat] at hneeded
  have htakes' := htakes.of_quiet hquiet
  obtain ⟨replies, hanswers, hoks, howned', hquiet', harrived⟩ :=
    unit_fragments (H := H) ht hroute hid hop htakes' howned init
      (fun frame hmem => hframes frame (List.mem_append_left _ hmem)) ⟨i, hi, hold, hneeded⟩
  have hlast := hframes last (by simp)
  obtain ⟨u, unit, hconsume, hquiet'', hregion, hindex, hdata⟩ :=
    unit_completes (H := H)
      (ht.after H _) hroute hid hop (htakes'.of_quiet hquiet') howned' hlast fun j hj => by
      rcases hcompletes.covers j hj with h | ⟨frame, hmem, h⟩
      · exact .inl ((harrived j).mpr (.inl h))
      · rcases List.mem_append.mp hmem with hmem | hmem
        · exact .inl ((harrived j).mpr (.inr ⟨frame, hmem, h⟩))
        · rw [List.mem_singleton] at hmem
          exact .inr (hmem ▸ h)
  -- the answers of the run, up to the last one
  have hrun : answers (step H) s ((init ++ [last]).map (.consume route)) =
      replies.map (fun reply => (.ok, .reply reply)) ++ [(.ok, (u.finishUnit H route last unit).1)] := by
    rw [show answers (step H) s ((init ++ [last]).map (.consume route)) =
      answers (step H) t ((init ++ [last]).map (.consume route)) by
      rw [← hall]; exact answers_congr hstep _]
    rw [List.map_append, List.map_singleton, answers_concat, hanswers, Lib.answer]
    simp only [step, hconsume]
  have hsame := (hquiet.trans hquiet').trans hquiet''
  have hcookie : u.sessionCookie = request.sessionCookie :=
    hsame.sessionCookie.trans htakes.bound.cookie.symm
  have hlookup : u.lookupReplay route u.sessionCookie last.requestId last.opcode unit.region unit.unitIndex
      (unitFingerprint H unit.region unit.unitIndex u.blockAssembler.data) =
        s.lookupReplay route request.sessionCookie request.requestId request.opcode region unitIndex
          (unitFingerprint H region unitIndex (some content)) := by
    rw [hcookie, hlast.requestId, hlast.opcode, hregion, hindex, hdata]
    exact lookupReplay_congr hsame.replay ..
  have hfinish (final : SpeakerAssetsFrame) (h : (u.finishUnit H route last unit).1 = .reply final) :
      AnsweredAtLast H s route (init ++ [last]) final :=
    ⟨replies, by rw [hrun, h, List.map_append, List.map_singleton], hoks⟩
  constructor
  · intro reply hexact
    refine hfinish reply ?_
    unfold finishUnit
    dsimp only
    rw [hlookup, hexact]
  · intro hconflict final hfinal
    rw [List.getLast?_concat, Option.mem_some_iff] at hfinal
    subst hfinal
    refine hfinish _ ?_
    unfold finishUnit
    dsimp only
    rw [hlookup, hconflict, hcookie]
    rfl

end Session

end CodexKeyboard.Assets
