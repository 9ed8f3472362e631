import CodexKeyboard.Assets.PendingActions
import Mathlib.Data.List.Induction
/-!
# The ring of replies

A completed request leaves its reply in one of eight slots. No two entries carry the same route,
cookie and request id, because an action is begun only after the ring was searched, so a lookup
finds the entry or contradicts it.

| here | there |
| --- | --- |
| `remembered` | `remember_replay` (speaker_assets_session.cpp:1774) |
| `Ring.lookup` | `lookup_replay` (1730) |
| `replay_origin` | `clear_replay_for_route` (1763) and `complete` |
-/

namespace CodexKeyboard.Assets

open Lib Buffer Reassembly

namespace Session

/-- The entry that `remember_replay` writes. -/
def remembered (pending : PendingAction) (reply : SpeakerAssetsFrame) : ReplayEntry where
  valid := true
  route := pending.route
  requestCookie := pending.requestCookie
  requestId := pending.requestId
  opcode := pending.opcode
  region := pending.region
  unitIndex := pending.unitIndex
  fingerprint := pending.fingerprint
  reply := reply

/-- One entry for a request, and none for the request whose action is pending. -/
structure Ring (s : Session) : Prop where
  length : s.replay.length = replayEntries
  slot : s.nextReplaySlot < replayEntries
  unique : ∀ (i j : Nat) (a b : ReplayEntry), s.replay[i]? = some a → s.replay[j]? = some b → i ≠ j →
    a.valid = true →
    sameRequest a.route a.requestCookie a.requestId b = false
  fresh : s.pending.active = true → s.pending.orphaned = false →
    ∀ entry ∈ s.replay, sameRequest s.pending.route s.pending.requestCookie s.pending.requestId
      entry = false

theorem ring_empty {s : Session} (hreplay : s.replay = List.replicate replayEntries {})
    (hslot : s.nextReplaySlot = 0) :
    s.Ring := by
  have hall (entry : ReplayEntry) (h : entry ∈ s.replay) : entry = {} := by
    rw [hreplay] at h
    exact List.eq_of_mem_replicate h
  refine ⟨by simp [hreplay], by simp [hslot, replayEntries], fun i j a b ha _ _ hvalid => ?_,
    fun _ _ entry hmem => ?_⟩
  · rw [hall a (List.mem_of_getElem? ha)] at hvalid
    cases hvalid
  · rw [hall entry hmem]
    rfl

theorem sameRequest_iff {route : SpeakerAssetsRouteToken} {cookie requestId : UInt32}
    {entry : ReplayEntry} :
    sameRequest route cookie requestId entry = true ↔
      entry.valid = true ∧ entry.route = route ∧ entry.requestCookie = cookie ∧
      entry.requestId = requestId := by
  simp [sameRequest, and_assoc]

namespace Ring

variable {s t : Session}

/-- Two entries of one request are one entry. -/
theorem eq_of_sameRequest (h : s.Ring) {entry other : ReplayEntry} (hmem : entry ∈ s.replay)
    (hvalid : entry.valid = true)
    (hother : other ∈ s.replay)
    (hsame : sameRequest entry.route entry.requestCookie entry.requestId other = true) :
    other = entry := by
  obtain ⟨i, hi⟩ := List.mem_iff_getElem?.mp hmem
  obtain ⟨j, hj⟩ := List.mem_iff_getElem?.mp hother
  by_cases hij : i = j
  · subst hij
    exact Option.some.inj (hj.symm.trans hi)
  · rw [h.unique i j entry other hi hj hij hvalid] at hsame
    cases hsame

/-- The request of an entry in the ring gets its reply; with anything else under its id it is a conflict. -/
theorem lookup (h : s.Ring) {entry : ReplayEntry} (hmem : entry ∈ s.replay) (hvalid : entry.valid = true)
    (opcode : UInt8) (region : SpeakerAssetsRegion) (unitIndex : UInt16) (fingerprint : SoundSha256Digest) :
    s.lookupReplay entry.route entry.requestCookie entry.requestId opcode region unitIndex fingerprint =
      if entry.opcode = opcode ∧ entry.region = region ∧ entry.unitIndex = unitIndex ∧
        entry.fingerprint = fingerprint then
        .exact entry.reply
      else .conflict := by
  have hself : sameRequest entry.route entry.requestCookie entry.requestId entry = true :=
    sameRequest_iff.mpr ⟨hvalid, rfl, rfl, rfl⟩
  unfold lookupReplay
  split
  · rename_i other hfind
    have hpred := List.find?_some hfind
    simp only [Bool.and_eq_true, beq_iff_eq] at hpred
    obtain rfl := h.eq_of_sameRequest hmem hvalid (List.mem_of_find?_eq_some hfind) hpred.1.1.1.1
    rw [if_pos ⟨hpred.1.1.1.2, hpred.1.1.2, hpred.1.2, hpred.2⟩]
  · rename_i hnone
    have hno := List.find?_eq_none.mp hnone entry hmem
    rw [if_pos (List.any_eq_true.mpr ⟨entry, hmem, hself⟩), if_neg]
    simpa [hself, and_assoc] using hno

/-- A session with the same ring, whose pending action is the same one or none that counts. -/
theorem of_same (h : s.Ring) (hreplay : t.replay = s.replay) (hslot : t.nextReplaySlot = s.nextReplaySlot)
    (hfresh : t.pending.active = true → t.pending.orphaned = false → t.pending = s.pending) : t.Ring where
  length := by rw [hreplay, h.length]
  slot := by rw [hslot]; exact h.slot
  unique := by rw [hreplay]; exact h.unique
  fresh hactive hlive := by
    have hpending := hfresh hactive hlive
    rw [hpending] at hactive hlive ⊢
    rw [hreplay]
    exact h.fresh hactive hlive

/-- The reply of the pending action takes a slot. -/
theorem remember (h : s.Ring) (hactive : s.pending.active = true) (hlive : s.pending.orphaned = false)
    (reply : SpeakerAssetsFrame)
    (hreplay : t.replay = s.replay.set s.nextReplaySlot (remembered s.pending reply))
    (hslot : t.nextReplaySlot = (s.nextReplaySlot + 1) % replayEntries)
    (hpending : t.pending.active = false) : t.Ring where
  length := by rw [hreplay, List.length_set, h.length]
  slot := by rw [hslot]; exact Nat.mod_lt _ (by decide)
  unique i j a b ha hb hij hvalid := by
    rw [hreplay, List.getElem?_set] at ha hb
    have hfresh := h.fresh hactive hlive
    split at ha
    · rw [if_pos (by rw [h.length]; exact h.slot)] at ha
      cases ha
      rw [if_neg (by omega)] at hb
      exact hfresh b (List.mem_of_getElem? hb)
    · split at hb
      · rw [if_pos (by rw [h.length]; exact h.slot)] at hb
        cases hb
        have hold := hfresh a (List.mem_of_getElem? ha)
        rw [Bool.eq_false_iff, ne_eq, sameRequest_iff] at hold ⊢
        rintro ⟨-, hroute, hcookie, hid⟩
        exact hold ⟨hvalid, hroute.symm, hcookie.symm, hid.symm⟩
      · exact h.unique i j a b ha hb hij hvalid
  fresh hactive' := by rw [hpending] at hactive'; cases hactive'

theorem consume (h : s.Ring) (H : Hashes) (route : SpeakerAssetsRouteToken) (frame : SpeakerAssetsFrame) :
    (s.consume H route frame).2.2.Ring := by
  rcases @issues_consume s H route frame with ⟨hquiet, -⟩ | ⟨view, -, hsame, hissued⟩
  · exact h.of_same hquiet.replay hquiet.nextReplaySlot fun _ _ => hquiet.pending
  · refine ⟨by rw [hsame.replay, h.length], by rw [hsame.nextReplaySlot]; exact h.slot,
      by rw [hsame.replay]; exact h.unique,
      fun _ _ => ?_⟩
    rw [hsame.replay, hissued.pending]
    exact hissued.fresh

theorem clearReplayForRoute (h : s.Ring) (route : SpeakerAssetsRouteToken) :
    (s.clearReplayForRoute route).Ring := by
  -- what is left of an entry of the ring: the entry itself, or an invalid one
  have hleft (i : Nat) (a : ReplayEntry) (ha : (s.clearReplayForRoute route).replay[i]? = some a) :
      a.valid = false ∨ s.replay[i]? = some a := by
    simp only [Session.clearReplayForRoute, List.getElem?_map, Option.map_eq_some_iff] at ha
    obtain ⟨b, hb, heq⟩ := ha
    split at heq
    · exact .inl (by rw [← heq])
    · exact .inr (by rw [hb, heq])
  have hinvalid {a : ReplayEntry} (ha : a.valid = false) (route : SpeakerAssetsRouteToken)
    (cookie requestId : UInt32) :
      sameRequest route cookie requestId a = false := by simp [sameRequest, ha]
  refine ⟨by simp [Session.clearReplayForRoute, h.length], h.slot, fun i j a b ha hb hij hvalid => ?_,
    fun hactive hlive entry hmem => ?_⟩
  · rcases hleft j b hb with hb | hb
    · exact hinvalid hb ..
    · rcases hleft i a ha with ha | ha
      · rw [ha] at hvalid
        cases hvalid
      · exact h.unique i j a b ha hb hij hvalid
  · obtain ⟨i, hi⟩ := List.mem_iff_getElem?.mp hmem
    rcases hleft i entry hi with hentry | hentry
    · exact hinvalid hentry ..
    · exact h.fresh hactive hlive entry (List.mem_of_getElem? hentry)

end Ring

/-! ## Completions -/

/-- What the completion of the pending action does to the ring: nothing, and then it replies with an
error or not at all, or it stores the reply that it emits. -/
inductive RingEffect (s : Session) (completion : SpeakerAssetsActionCompletion) (handled : Handled) : Prop
  | dropped (hreplay : handled.2.replay = s.replay) (hslot : handled.2.nextReplaySlot = s.nextReplaySlot)
      (herror : ∀ reply, handled.1 = .reply reply → hasFlag reply flagError = true)
  | stored (reply : SpeakerAssetsFrame) (hlive : s.pending.orphaned = false)
    (hresult : completion.result = .ok)
      (hcontract : s.completionContract s.pending completion = true) (hemission : handled.1 = .reply reply)
      (hreplay : handled.2.replay = s.replay.set s.nextReplaySlot (remembered s.pending reply))
      (hslot : handled.2.nextReplaySlot = (s.nextReplaySlot + 1) % replayEntries)

theorem hasFlag_statusReply {request : SpeakerAssetsFrame} {status : SpeakerAssetsStatus} {cookie : UInt32}
    (h : status ≠ .ok) : hasFlag (statusReply request status cookie) flagError = true := by
  simp only [hasFlag, statusReply, if_neg h]
  rfl

variable {s : Session} {completion : SpeakerAssetsActionCompletion}

theorem ringEffect_completedWithError (hresult : completion.result ≠ .ok) :
    RingEffect s completion
      ((s.completedWithError s.pending completion.result).1,
        (s.completedWithError s.pending completion.result).2.clearPendingAction) := by
  have herror : ∀ reply : SpeakerAssetsFrame,
      SpeakerAssetsEmission.reply
        (statusReply (PendingRequest s.pending) (statusFromStoreResult completion.result)
        s.pending.requestCookie) = .reply reply → hasFlag reply flagError = true := by
    rintro reply ⟨⟩
    exact hasFlag_statusReply fun h => hresult (statusFromStoreResult_eq_ok.mp h)
  unfold completedWithError
  dsimp only
  split
  · exact .dropped rfl rfl herror
  · exact .dropped rfl rfl herror
  · exact .dropped rfl rfl herror
  · split
    · exact .dropped rfl rfl herror
    · exact .dropped rfl rfl herror
  · exact .dropped rfl rfl herror
  · exact .dropped rfl rfl herror
  · exact .dropped rfl rfl herror
  · exact .dropped rfl rfl herror

theorem ringEffect_completed (hlive : s.pending.orphaned = false) (hresult : completion.result = .ok)
    (hcontract : s.completionContract s.pending completion = true) :
    RingEffect s completion
      ((s.completed s.pending completion).1, (s.completed s.pending completion).2.clearPendingAction) := by
  unfold completed
  dsimp only
  split
  · exact .stored _ hlive hresult hcontract rfl rfl rfl
  · exact .stored _ hlive hresult hcontract rfl rfl rfl
  · exact .stored _ hlive hresult hcontract rfl rfl rfl
  · split
    · exact .stored _ hlive hresult hcontract rfl rfl rfl
    · split
      · exact .stored _ hlive hresult hcontract rfl rfl rfl
      · exact .stored _ hlive hresult hcontract rfl rfl rfl
  · exact .stored _ hlive hresult hcontract rfl rfl rfl
  · exact .stored _ hlive hresult hcontract rfl rfl rfl
  · exact .stored _ hlive hresult hcontract rfl rfl rfl
  · exact .stored _ hlive hresult hcontract rfl rfl rfl

/-- The completion of the pending action ends it. -/
theorem ringEffect_complete (hactive : s.pending.active = true) (hanswers : Answers completion s.pending) :
    (s.complete completion).2.2.pending.active = false ∧
      RingEffect s completion (s.complete completion).2 := by
  unfold complete
  rw [if_neg (by simp [hactive]), if_neg (by simp [hanswers.1, hanswers.2])]
  dsimp only
  split
  · exact ⟨rfl, .dropped rfl rfl nofun⟩
  · rename_i horphan
    split
    · rename_i hresult
      exact ⟨rfl, ringEffect_completedWithError hresult⟩
    · rename_i hresult
      split
      · refine ⟨rfl, .dropped rfl rfl ?_⟩
        rintro reply ⟨⟩
        exact hasFlag_statusReply (by decide)
      · rename_i hcontract
        exact ⟨rfl,
          ringEffect_completed (by simpa using horphan) (not_not.mp hresult) (by simpa using hcontract)⟩

namespace Ring

theorem complete (h : s.Ring) (completion : SpeakerAssetsActionCompletion) :
    (s.complete completion).2.2.Ring := by
  by_cases hpending : s.pending.active = true ∧ Answers completion s.pending
  · obtain ⟨hactive, hanswers⟩ := hpending
    obtain ⟨hdone, heffect⟩ := ringEffect_complete hactive hanswers
    cases heffect with
    | dropped hreplay hslot =>
      exact h.of_same hreplay hslot fun hactive' => absurd hactive' (by simp [hdone])
    | stored reply hlive _ _ _ hreplay hslot => exact h.remember hactive hlive reply hreplay hslot hdone
  · rw [complete_stale fun hactive hanswers => hpending ⟨hactive, hanswers⟩]
    exact h

theorem routeClosed (h : s.Ring) (route : SpeakerAssetsRouteToken) : (s.routeClosed route).Ring := by
  have h' := h.clearReplayForRoute route
  unfold Session.routeClosed
  dsimp only
  split
  · exact h'
  · split
    · split
      · exact h'.of_same rfl rfl (by rintro - ⟨⟩)
      · exact h'.of_same rfl rfl (by rintro - ⟨⟩)
    · exact h'.of_same rfl rfl fun _ _ => rfl

theorem allRoutesClosed (s : Session) : s.allRoutesClosed.Ring := by
  unfold Session.allRoutesClosed
  dsimp only
  split
  · split
    · exact ring_empty rfl rfl
    · exact ring_empty rfl rfl
  · exact ring_empty rfl rfl

theorem expirePartial (h : s.Ring) (route : SpeakerAssetsRouteToken) : (s.expirePartial route).2.Ring := by
  unfold Session.expirePartial
  split
  · exact h.of_same rfl rfl fun _ _ => rfl
  · split
    · exact h.of_same rfl rfl fun _ _ => rfl
    · exact h

theorem step (h : s.Ring) (H : Hashes) (event : SessionEvent) : (s.step H event).2.Ring := by
  cases event with
  | consume route frame => exact h.consume H route frame
  | complete completion => exact h.complete completion
  | routeClosed route => exact h.routeClosed route
  | allRoutesClosed => exact allRoutesClosed s
  | expirePartial route => exact h.expirePartial route

theorem after (h : s.Ring) (H : Hashes) (events : List SessionEvent) :
    (after (Session.step H) s events).Ring :=
  after_induction (fun _ event h => h.step H event) events h

end Ring

theorem ring_new (cookieSeed actionTokenSeed : UInt32) :
    (Session.new cookieSeed actionTokenSeed).Ring := ring_empty rfl rfl

/-! ## Where the entries come from -/

variable {H : Hashes}

theorem replay_routeClosed (s : Session) (route : SpeakerAssetsRouteToken) :
    (s.routeClosed route).replay = (s.clearReplayForRoute route).replay := by
  unfold routeClosed
  dsimp only
  split
  · rfl
  · split
    · split <;> rfl
    · rfl

theorem replay_allRoutesClosed (s : Session) :
    s.allRoutesClosed.replay = List.replicate replayEntries {} := by
  unfold allRoutesClosed
  dsimp only
  split
  · split <;> rfl
  · rfl

/-- A close leaves the entries of the other routes. -/
theorem mem_of_mem_routeClosed {route : SpeakerAssetsRouteToken} {entry : ReplayEntry}
    (hmem : entry ∈ (s.routeClosed route).replay) (hvalid : entry.valid = true) :
    entry ∈ s.replay ∧ entry.route ≠ route := by
  rw [replay_routeClosed, clearReplayForRoute, List.mem_map] at hmem
  obtain ⟨old, hold, heq⟩ := hmem
  split at heq
  · rw [← heq] at hvalid
    cases hvalid
  · rename_i hother
    subst heq
    refine ⟨hold, fun hroute => hother ?_⟩
    simp [hvalid, hroute]

/-- An entry after a call was there before, or it holds the reply that the call emits. -/
theorem replay_step (event : SessionEvent) {entry : ReplayEntry} (hmem : entry ∈ (s.step H event).2.replay)
    (hvalid : entry.valid = true) :
    entry ∈ s.replay ∨ ∃ completion, event = .complete completion ∧
    (s.complete completion).2.1 = .reply entry.reply := by
  cases event with
  | consume route frame =>
    rcases @issues_consume s H route frame with ⟨hquiet, -⟩ | ⟨view, -, hsame, -⟩
    · exact .inl (hquiet.replay ▸ hmem)
    · exact .inl (hsame.replay ▸ hmem)
  | complete completion =>
    have hmem : entry ∈ (s.complete completion).2.2.replay := hmem
    by_cases hpending : s.pending.active = true ∧ Answers completion s.pending
    · cases (ringEffect_complete hpending.1 hpending.2).2 with
      | dropped hreplay => exact .inl (hreplay ▸ hmem)
      | stored reply _ _ _ hemission hreplay =>
        rw [hreplay] at hmem
        rcases List.mem_or_eq_of_mem_set hmem with hold | rfl
        · exact .inl hold
        · exact .inr ⟨completion, rfl, hemission⟩
    · rw [complete_stale fun hactive hanswers => hpending ⟨hactive, hanswers⟩] at hmem
      exact .inl hmem
  | routeClosed route => exact .inl (mem_of_mem_routeClosed hmem hvalid).1
  | allRoutesClosed =>
    rw [show (s.step H .allRoutesClosed).2.replay = List.replicate replayEntries {} from
      replay_allRoutesClosed s] at hmem
    rw [List.eq_of_mem_replicate hmem] at hvalid
    cases hvalid
  | expirePartial route =>
    have hsame : (s.expirePartial route).2.replay = s.replay := by
      unfold expirePartial
      split
      · rfl
      · split <;> rfl
    exact .inl (hsame ▸ hmem)

/-- Whatever entries a route had when it was closed, later ones hold replies that were emitted since. -/
theorem replay_origin {route : SpeakerAssetsRouteToken} {close : SessionEvent}
    (hclose : close = .routeClosed route ∨ close = .allRoutesClosed) (later : List SessionEvent)
    {entry : ReplayEntry}
    (hmem : entry ∈ (after (step H) s (close :: later)).replay) (hvalid : entry.valid = true)
    (hroute : entry.route = route) :
    ∃ earlier completion rest, later = earlier ++ .complete completion :: rest
      ∧ ((after (step H) s (close :: earlier)).complete completion).2.1 = .reply entry.reply := by
  induction later using List.reverseRecOn with
  | nil =>
    rcases hclose with rfl | rfl
    · exact absurd hroute (mem_of_mem_routeClosed hmem hvalid).2
    · rw [show (after (step H) s [.allRoutesClosed]).replay = _ from replay_allRoutesClosed s] at hmem
      rw [List.eq_of_mem_replicate hmem] at hvalid
      cases hvalid
  | append_singleton earlier event ih =>
    rw [← List.cons_append, after_concat] at hmem
    rcases replay_step event hmem hvalid with hold | ⟨completion, rfl, hemission⟩
    · obtain ⟨before, completion, rest, rfl, hemission⟩ := ih hold
      exact ⟨before, completion, rest ++ [event], by simp, hemission⟩
    · exact ⟨earlier, completion, [], rfl, hemission⟩

/-! ## The binding -/

/-- One binding: the route, its cookie and the sizes of the bundle it writes. -/
structure SameBinding (s t : Session) : Prop where
  route : t.route = s.route
  sessionCookie : t.sessionCookie = s.sessionCookie
  manifestBytes : t.progress.manifestBytes = s.progress.manifestBytes
  payloadBytes : t.progress.payloadBytes = s.progress.payloadBytes

theorem SameBinding.refl (s : Session) : SameBinding s s := ⟨rfl, rfl, rfl, rfl⟩

theorem SameBinding.trans {s t u : Session} (h : SameBinding s t) (h' : SameBinding t u) :
    SameBinding s u :=
  ⟨h'.route.trans h.route, h'.sessionCookie.trans h.sessionCookie, h'.manifestBytes.trans h.manifestBytes,
    h'.payloadBytes.trans h.payloadBytes⟩

theorem sizes_of_progressMatchesSession {candidate current : SoundUpdateProgress}
    (h : progressMatchesSession candidate current = true) :
    candidate.manifestBytes = current.manifestBytes ∧ candidate.payloadBytes = current.payloadBytes := by
  simp only [progressMatchesSession, Bool.and_eq_true, beq_iff_eq] at h
  tauto

theorem sameBinding_completedWithError (hneeds : PendingAction.needsBinding s.pending = true)
    (result : SoundStoreResult) :
    SameBinding s (s.completedWithError s.pending result).2 := by
  unfold completedWithError
  dsimp only
  split
  · simp_all [PendingAction.needsBinding]
  · simp_all [PendingAction.needsBinding]
  · simp_all [PendingAction.needsBinding]
  · split
    · exact ⟨rfl, rfl, rfl, rfl⟩
    · simp_all [PendingAction.needsBinding]
  · exact ⟨rfl, rfl, rfl, rfl⟩
  · exact ⟨rfl, rfl, rfl, rfl⟩
  · exact ⟨rfl, rfl, rfl, rfl⟩
  · exact ⟨rfl, rfl, rfl, rfl⟩

theorem sameBinding_completed (hneeds : PendingAction.needsBinding s.pending = true)
    (hcontract : s.completionContract s.pending completion = true)
    (hbound : (s.completed s.pending completion).2.routeBound = true) :
    SameBinding s (s.completed s.pending completion).2 := by
  have hsizes (h : progressMatchesSession completion.progress s.progress = true)
    (blockAssembler : BlockAssembler)
      (replay : List ReplayEntry) (nextReplaySlot : Nat) :
      SameBinding s
        { s with
          progress := completion.progress, progressValid := true, phase := .ready, blockAssembler, replay,
          nextReplaySlot } :=
    ⟨rfl, rfl, (sizes_of_progressMatchesSession h).1, (sizes_of_progressMatchesSession h).2⟩
  unfold completed at hbound ⊢
  unfold completionContract at hcontract
  dsimp only at hbound ⊢
  split
  · simp_all [PendingAction.needsBinding]
  · simp_all [PendingAction.needsBinding]
  · simp_all [PendingAction.needsBinding]
  · rename_i hkind
    simp only [hkind] at hbound hcontract
    split at hbound
    · cases hbound
    · rename_i hactive
      rw [if_neg hactive]
      have hcookie : s.pending.requestCookie ≠ 0 := by
        simpa [PendingAction.needsBinding, hkind] using hneeds
      simp only [not_not.mp hactive, if_neg hcookie, Bool.and_eq_true] at hcontract ⊢
      exact hsizes hcontract.2.2.1.2 s.blockAssembler _ _
  · rename_i hkind
    simp only [hkind, Bool.and_eq_true] at hcontract
    exact hsizes hcontract.1.1.2 {} _ _
  · rename_i hkind
    simp only [hkind, Bool.and_eq_true] at hcontract
    exact hsizes hcontract.1.1.2 {} _ _
  · rename_i hkind
    simp only [hkind] at hbound
    cases hbound
  · rename_i hkind
    simp only [hkind] at hbound
    cases hbound

/-- A completion binds a route only where none was bound, and otherwise updates the progress of the
same bundle. -/
theorem sameBinding_complete (hs : s.Invariant) (hbound : s.routeBound = true)
    (hbound' : (s.complete completion).2.2.routeBound = true) :
    SameBinding s (s.complete completion).2.2 := by
  by_cases hpending : s.pending.active = true ∧ Answers completion s.pending
  swap
  · rw [complete_stale fun hactive hanswers => hpending ⟨hactive, hanswers⟩]
    exact .refl s
  obtain ⟨hactive, hanswers⟩ := hpending
  have hphase := hs.pending_iff.mp hactive
  unfold complete at hbound' ⊢
  rw [if_neg (by simp [hactive]), if_neg (by simp [hanswers.1, hanswers.2])] at hbound' ⊢
  dsimp only at hbound' ⊢
  split at hbound'
  · cases hbound'
  · rename_i horphan
    rw [if_neg horphan]
    have hneeds := ((hs.live hphase (by simpa using horphan)).1).symm.trans hbound
    split at hbound'
    · rename_i hresult
      rw [if_pos hresult]
      have h := sameBinding_completedWithError hneeds completion.result
      exact ⟨h.route, h.sessionCookie, h.manifestBytes, h.payloadBytes⟩
    · rename_i hresult
      rw [if_neg hresult]
      split at hbound'
      · cases hbound'
      · rename_i hcontract
        rw [if_neg hcontract]
        have h := sameBinding_completed hneeds (by simpa using hcontract) hbound'
        exact ⟨h.route, h.sessionCookie, h.manifestBytes, h.payloadBytes⟩

theorem sameBinding_step (hs : s.Invariant) (event : SessionEvent) (hbound : s.routeBound = true)
    (hbound' : (s.step H event).2.routeBound = true) : SameBinding s (s.step H event).2 := by
  cases event with
  | consume route frame =>
    have hsame : Untouched s (s.consume H route frame).2.2 := by
      rcases @issues_consume s H route frame with ⟨hquiet, -⟩ | ⟨view, -, hsame, -⟩
      · exact hquiet.toUntouched
      · exact hsame
    exact ⟨hsame.route, hsame.sessionCookie, congrArg (·.manifestBytes) hsame.progress,
      congrArg (·.payloadBytes) hsame.progress⟩
  | complete completion => exact sameBinding_complete hs hbound hbound'
  | routeClosed route =>
    have hbound' : (s.routeClosed route).routeBound = true := hbound'
    show SameBinding s (s.routeClosed route)
    unfold routeClosed at hbound' ⊢
    dsimp only at hbound' ⊢
    split
    · exact ⟨rfl, rfl, rfl, rfl⟩
    · rename_i howns
      rw [if_neg howns] at hbound'
      split at hbound'
      · split at hbound' <;> cases hbound'
      · cases hbound'
  | allRoutesClosed =>
    have hbound' : s.allRoutesClosed.routeBound = true := hbound'
    unfold allRoutesClosed at hbound'
    dsimp only at hbound'
    split at hbound'
    · split at hbound' <;> cases hbound'
    · cases hbound'
  | expirePartial route =>
    show SameBinding s (s.expirePartial route).2
    unfold expirePartial
    split
    · exact ⟨rfl, rfl, rfl, rfl⟩
    · split
      · exact ⟨rfl, rfl, rfl, rfl⟩
      · exact .refl s

/-- While a route stays bound it is the same binding. -/
theorem sameBinding_after (hs : s.Invariant) (events : List SessionEvent)
    (hbound : Throughout (step H) (fun s _ => s.routeBound = true) s events)
    (hlast : (after (step H) s events).routeBound = true) : SameBinding s (after (step H) s events) := by
  induction events generalizing s with
  | nil => exact .refl s
  | cons event events ih =>
    have hbound' : (s.step H event).2.routeBound = true := by
      cases events with
      | nil => exact hlast
      | cons next events => exact hbound.2.1
    exact (sameBinding_step hs event hbound.1 hbound').trans (ih (hs.step H event) hbound.2 hlast)

/-! ## Requests of one frame -/

/-- Where its entry is looked up, in every phase but `ActionPending`. -/
theorem consume_single {route : SpeakerAssetsRouteToken} {frame : SpeakerAssetsFrame}
    (hroute : sessionRouteIsValid route = true)
    (hid : frame.requestId ≠ 0) (hshape : SingleFrameRequest frame) (hphase : s.phase ≠ .actionPending) :
    (∀ reply,
      s.lookupReplay route frame.sessionCookie frame.requestId frame.opcode .manifest 0
      (frameFingerprint H frame)
        = .exact reply → s.consume H route frame = (.ok, .reply reply, s))
      ∧ (s.lookupReplay route frame.sessionCookie frame.requestId frame.opcode .manifest 0
        (frameFingerprint H frame)
        = .conflict →
          s.consume H route frame =
            (.ok, .reply (statusReply frame .integrityError frame.sessionCookie), s)) := by
  obtain ⟨hflags, hoffset, hkind⟩ := hshape
  have hknown : frame.flags &&& ~~~knownFlags = 0 ∧ frame.flags &&& (flagResponse ||| flagError) = 0 := by
    rw [hflags]
    decide
  have hdispatch (hbody : frame.body.length ≤ 16)
    (hop : SpeakerAssetsOpcode.ofByte frame.opcode ≠ some .capabilities) :
      s.consume H route frame = (.ok, s.dispatch H route frame) := by
    unfold consume
    rw [if_neg (by simp [hroute, hid, wifiFrameBodyBytes]; omega), if_neg (by simp [hknown]),
      if_neg hop, if_neg hphase]
  split at hkind
  · rename_i hop
    obtain ⟨hcookie, hbody⟩ := hkind
    rw [hdispatch (by simp [hbody]) (by simp [hop])]
    simp only [dispatch, hop, consumeCurrentActive, hcookie]
    rw [if_neg (by simp [hflags, hoffset, hbody])]
    constructor
    · intro reply hlookup
      rw [hlookup]
    · intro hlookup
      rw [hlookup]
      rfl
  · rename_i hop
    obtain ⟨hcookie, hbody, hvalid⟩ := hkind
    rw [hdispatch (by omega) (by simp [hop])]
    simp only [dispatch, hop, consumeResume, hcookie]
    rw [if_neg (by simp [hflags, hoffset, hbody]), if_neg (by simp [hvalid])]
    constructor
    · intro reply hlookup
      rw [hlookup]
    · intro hlookup
      rw [hlookup]
      rfl
  all_goals try contradiction
  all_goals
    rename_i hop
    rw [hdispatch (by simp [hkind]) (by simp [hop])]
    simp only [dispatch, hop, consumeQuery, consumeTerminalAction]
    rw [if_neg (by simp [hflags, hoffset, hkind])]
    constructor
    · intro reply hlookup
      rw [hlookup]
    · intro hlookup
      rw [hlookup]
      rfl

end Session

end CodexKeyboard.Assets
