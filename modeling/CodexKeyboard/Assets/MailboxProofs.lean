import CodexKeyboard.Assets.Mailbox
/-!
# What the mailbox keeps

A frame in the mailbox is the one of the reservation, and a close that was called for stays ahead of
every frame of its route until it has been taken.

| here | there |
| --- | --- |
| `Mailbox.Invariant` | the V1 rule of one logical request (speaker_assets_runtime.h:163-170) |
| `Mailbox.Shut` | "so data pressure cannot prevent exact route revocation" (speaker_assets_runtime.h:130) |
| `Mailbox.Frees` | `clear_logical_request_reservation` and its callers |
-/

namespace CodexKeyboard.Assets

open Lib

namespace Mailbox

/-- The frames in the mailbox, as the leases they were admitted with. -/
def frames (m : Mailbox) : List LogicalRequestLease :=
  (m.data.filter (·.kind.isFrame)).map MailboxRecord.lease

/-- What the next admission id is above: none is left at 0. -/
def admissionBound (m : Mailbox) : Nat :=
  if m.nextAdmissionId = 0 then 0x10000000000000000 else m.nextAdmissionId.toNat

structure RecordIsFit (m : Mailbox) (record : MailboxRecord) : Prop where
  kind : record.kind ≠ .allRoutesClosed
  live : record.cancelled = false
  control : record.kind.isFrame = false → record.admissionId = 0
  shape : routeShapeIsValid record.route = true
  frame : record.kind.isFrame = true → m.logicalRequestLease = some record.lease

structure Invariant (m : Mailbox) : Prop where
  records : ∀ record ∈ m.data, m.RecordIsFit record
  single : m.frames.length ≤ 1
  queued : m.logicalRequestReserved = true → m.logicalFrameRequestQueued = true
  reserved : ∀ lease, m.logicalRequestLease = some lease → lease ∈ m.admitted
  nonzero : ∀ lease ∈ m.admitted, lease.admissionId ≠ 0
  increasing : m.admitted.Pairwise fun earlier later => earlier.admissionId < later.admissionId
  below : ∀ lease ∈ m.admitted, lease.admissionId.toNat < m.admissionBound

theorem invariant_new : ({} : Mailbox).Invariant := by
  constructor <;> simp [frames, logicalRequestLease]

variable {m : Mailbox} {route : SpeakerAssetsRouteToken}

theorem mem_frames {lease : LogicalRequestLease} :
    lease ∈ m.frames ↔ ∃ record ∈ m.data, record.kind.isFrame = true ∧ record.lease = lease := by
  simp [frames, and_assoc]

/-! ## Removing records -/

theorem frames_sublist {t : Mailbox} (h : List.Sublist t.data m.data) : List.Sublist t.frames m.frames :=
  (h.filter _).map _

namespace Invariant

/-- Fewer records under the same reservation. -/
theorem removed (h : m.Invariant) {data : List MailboxRecord} (hdata : List.Sublist data m.data) :
    { m with data }.Invariant where
  records record hmem :=
    have hfit := h.records record (hdata.subset hmem)
    ⟨hfit.kind, hfit.live, hfit.control, hfit.shape, hfit.frame⟩
  single := (frames_sublist hdata).length_le.trans h.single
  queued := h.queued
  reserved := h.reserved
  nonzero := h.nonzero
  increasing := h.increasing
  below := h.below

theorem purgePendingRoute (h : m.Invariant) (route : SpeakerAssetsRouteToken) :
    (m.purgePendingRoute route).Invariant :=
  h.removed List.filter_sublist

theorem purgePendingAdmission (h : m.Invariant) (admissionId : UInt64) :
    (m.purgePendingAdmission admissionId).Invariant := by
  unfold Mailbox.purgePendingAdmission
  split
  · exact h
  · exact h.removed List.filter_sublist

/-- Without frames there may be no reservation. -/
theorem cleared (h : m.Invariant) (hframes : m.frames = []) :
    m.clearLogicalRequestReservation.Invariant where
  records record hmem := by
    have hfit := h.records record hmem
    refine ⟨hfit.kind, hfit.live, hfit.control, hfit.shape, fun hframe => ?_⟩
    have hmem' : record.lease ∈ m.frames := mem_frames.mpr ⟨record, hmem, hframe, rfl⟩
    rw [hframes] at hmem'
    cases hmem'
  single := h.single
  queued := nofun
  reserved := nofun
  nonzero := h.nonzero
  increasing := h.increasing
  below := h.below

/-- A control record behind the others. -/
theorem appended (h : m.Invariant) {record : MailboxRecord}
    (hkind : record.kind = .routeOpened ∨ record.kind = .routeClosed)
    (hlive : record.cancelled = false) (hid : record.admissionId = 0)
    (hshape : routeShapeIsValid record.route = true) :
    { m with data := m.data ++ [record] }.Invariant where
  records other hmem := by
    rcases List.mem_append.mp hmem with hmem | hmem
    · have hfit := h.records other hmem
      exact ⟨hfit.kind, hfit.live, hfit.control, hfit.shape, hfit.frame⟩
    · obtain rfl := List.mem_singleton.mp hmem
      refine ⟨?_, hlive, fun _ => hid, hshape, fun hframe => ?_⟩
      · rcases hkind with hkind | hkind <;> simp [hkind]
      · rcases hkind with hkind | hkind <;> simp [hkind, MailboxKind.isFrame] at hframe
  single := by
    have hnone : ({ m with data := m.data ++ [record] } : Mailbox).frames = m.frames := by
      rcases hkind with hkind | hkind <;> simp [frames, hkind, MailboxKind.isFrame]
    rw [hnone]
    exact h.single
  queued := h.queued
  reserved := h.reserved
  nonzero := h.nonzero
  increasing := h.increasing
  below := h.below

/-- The admission ids are told apart. -/
theorem reserved_ne_zero (h : m.Invariant) (hreserved : m.logicalRequestReserved = true) :
    m.reservedAdmissionId ≠ 0 :=
  h.nonzero ⟨m.reservedRoute, m.reservedAdmissionId⟩
    (h.reserved _ (by simp [logicalRequestLease, hreserved]))

/-- A frame is the one of the reservation. -/
theorem frame_reserved (h : m.Invariant) {lease : LogicalRequestLease} (hmem : lease ∈ m.frames) :
    m.logicalRequestLease = some lease := by
  obtain ⟨record, hrecord, hframe, rfl⟩ := mem_frames.mp hmem
  exact (h.records record hrecord).frame hframe

theorem frames_unreserved (h : m.Invariant) (hfree : m.logicalRequestReserved = false) : m.frames = [] := by
  apply List.eq_nil_iff_forall_not_mem.mpr
  intro lease hmem
  have hlease := h.frame_reserved hmem
  simp [logicalRequestLease, hfree] at hlease

/-- Purging the reserved admission purges every frame. -/
theorem frames_purged (h : m.Invariant) (hreserved : m.logicalRequestReserved = true) :
    (m.purgePendingAdmission m.reservedAdmissionId).frames = [] := by
  apply List.eq_nil_iff_forall_not_mem.mpr
  intro lease hmem
  obtain ⟨record, hrecord, hframe, rfl⟩ := mem_frames.mp hmem
  rw [Mailbox.purgePendingAdmission, if_neg (h.reserved_ne_zero hreserved)] at hrecord
  obtain ⟨hrecord, hother⟩ := List.mem_filter.mp hrecord
  have hlease := (h.records record hrecord).frame hframe
  simp only [logicalRequestLease, hreserved, if_true, Option.some.injEq] at hlease
  simp only [bne_iff_ne, ne_eq] at hother
  exact hother (congrArg LogicalRequestLease.admissionId hlease).symm

end Invariant

/-! ## What a call can do -/

/-- What `enqueue_route_closed` does to the mailbox first. -/
def forgetRoute (m : Mailbox) (route : SpeakerAssetsRouteToken) : Mailbox :=
  (m.purgePendingRoute route).revokeLogicalRequestForRoute route

/-- The admission id after `next_admission_id_`. -/
def advance (nextAdmissionId : UInt64) : UInt64 :=
  if nextAdmissionId = 0xFFFFFFFFFFFFFFFF then 0 else nextAdmissionId + 1

/-- The close of a route, once nothing of the route is left. -/
inductive Closing (m : Mailbox) (route : SpeakerAssetsRouteToken) : Mailbox → Prop
  | kept (h : m.resourceSyncFailClosed = true ∨ m.closePending route = true) : Closing m route m
  | exhausted (hrevoke : m.revokeAllPending = true) :
    Closing m route { m with resourceSyncFailClosed := true }
  | tombstoned (hrevoke : m.revokeAllPending = true) :
    Closing m route { m with data := m.data ++ [{ kind := .routeClosed, route }] }
  | overflowed (hrevoke : m.revokeAllPending = false) (hfull : m.closes.length ≥ mailboxCloseCapacity) :
    Closing m route
      ({ m with
        revokeAllPending := true, revokeAllOverflowRoute := route } :
        Mailbox).failClosePendingData.clearLogicalRequestReservation
  | queued : Closing m route { m with closes := m.closes ++ [route] }

/-- Everything a call can do to a mailbox. -/
inductive Transition (m : Mailbox) : MailboxEvent → MailboxAnswer → Mailbox → Prop
  | refused {event : MailboxEvent} (result : EnqueueResult) (hresult : result ≠ .accepted)
    (hshape : ∀ route, event = .routeClosed route → routeShapeIsValid route = false) :
    Transition m event (.enqueued result) m
  | opened (route : SpeakerAssetsRouteToken) (hshape : routeShapeIsValid route = true)
    (hpending : m.closePending route = false) :
    Transition m (.routeOpened route) (.enqueued .accepted)
      { m with data := m.data ++ [{ kind := .routeOpened, route }] }
  | openedLate (route : SpeakerAssetsRouteToken) (hshape : routeShapeIsValid route = true)
    (hrevoke : m.revokeAllPending = true) :
    Transition m (.routeOpened route) (.enqueued .accepted)
      { m with data := m.data ++ [{ kind := .routeClosed, route }] }
  | openedFull (route : SpeakerAssetsRouteToken) (hrevoke : m.revokeAllPending = true) :
    Transition m (.routeOpened route) (.enqueued .accepted) { m with resourceSyncFailClosed := true }
  | exhausted {event : MailboxEvent} (hevent : ∀ route, event ≠ .routeClosed route)
    (hreserved : m.logicalRequestReserved = false) (hnext : m.nextAdmissionId = 0) :
    Transition m event (.enqueued .full) { m with resourceSyncFailClosed := true }
  | skipped {event : MailboxEvent} (result : EnqueueResult) (hresult : result ≠ .accepted)
    (hevent : ∀ route, event ≠ .routeClosed route) (hreserved : m.logicalRequestReserved = false)
    (hnext : m.nextAdmissionId ≠ 0) :
    Transition m event (.enqueued result)
      { m.clearLogicalRequestReservation with nextAdmissionId := advance m.nextAdmissionId }
  | admitted {event : MailboxEvent} (kind : MailboxKind) (route : SpeakerAssetsRouteToken)
    (bytes : List UInt8)
    (receivedMs : UInt32)
    (hevent : event = .usbFrame route bytes receivedMs ∧ kind = .usbFrame
      ∨ event = .wifiFrame route bytes receivedMs ∧ kind = .wifiFrame)
    (hshape : routeShapeIsValid route = true) (hrevoke : m.revokeAllPending = false)
    (hopen : m.resourceSyncFailClosed = false) (hpending : m.closePending route = false)
    (hreserved : m.logicalRequestReserved = false) (hnext : m.nextAdmissionId ≠ 0) :
    Transition m event (.enqueued .accepted)
      { m with
        data := m.data ++ [{ kind, route, admissionId := m.nextAdmissionId, receivedMs, bytes }]
        reservedRoute := route
        reservedAdmissionId := m.nextAdmissionId
        nextAdmissionId := advance m.nextAdmissionId
        logicalRequestReserved := true
        logicalFrameRequestQueued := true
        admitted := m.admitted ++ [{ route, admissionId := m.nextAdmissionId }] }
  | closed (route : SpeakerAssetsRouteToken) (result : EnqueueResult) {t : Mailbox}
    (hshape : routeShapeIsValid route = true)
    (hclosing : Closing (m.forgetRoute route) route t) :
    Transition m (.routeClosed route) (.enqueued result) t
  | tookAllClosed (hrevoke : m.revokeAllPending = true) :
    Transition m .takeNext (.taken (some { kind := .allRoutesClosed, route := m.revokeAllOverflowRoute }))
      { m with revokeAllPending := false, revokeAllOverflowRoute := {} }
  | tookClose (route : SpeakerAssetsRouteToken) (closes : List SpeakerAssetsRouteToken)
    (hrevoke : m.revokeAllPending = false) (hcloses : m.closes = route :: closes) :
    Transition m .takeNext (.taken (some { kind := .routeClosed, route })) { m with closes }
  | tookRecord (record : MailboxRecord) (data : List MailboxRecord) (hrevoke : m.revokeAllPending = false)
    (hcloses : m.closes = []) (hdata : m.data = record :: data) :
    Transition m .takeNext (.taken (some record)) { m with data }
  | tookNothing (hdata : m.data = []) : Transition m .takeNext (.taken none) m
  | released (lease : LogicalRequestLease) (hlease : m.logicalRequestLease = some lease) :
    Transition m (.releaseLogicalRequest lease) (.released true)
      (m.purgePendingAdmission lease.admissionId).clearLogicalRequestReservation
  | notReleased (lease : LogicalRequestLease)
    (hlease : m.logicalRequestLease ≠ some lease ∨ lease.admissionId = 0) :
    Transition m (.releaseLogicalRequest lease) (.released false) m

theorem transition_routeOpened (m : Mailbox) (route : SpeakerAssetsRouteToken) :
    Transition m (.routeOpened route) (.enqueued (m.enqueueRouteOpened route).1)
      (m.enqueueRouteOpened route).2 := by
  unfold enqueueRouteOpened
  split
  · exact .refused _ (by simp) nofun
  · rename_i hshape
    have hshape : routeShapeIsValid route = true := by simpa using hshape
    split
    · exact .refused _ (by simp) nofun
    · rename_i hguard
      have hpending : m.closePending route = false := by
        simp only [Bool.or_eq_true, not_or, Bool.not_eq_true] at hguard
        exact hguard.2
      split
      · rename_i hrevoke
        unfold retainFailClosedTombstone
        rw [if_neg (by simp [hpending])]
        split
        · exact .openedFull route hrevoke
        · exact .openedLate route hshape hrevoke
      · unfold enqueueData
        dsimp only
        rw [if_neg (by simp [hshape])]
        split
        · exact .refused _ (by simp) nofun
        · exact .opened route hshape hpending

theorem transition_routeClosed (m : Mailbox) (route : SpeakerAssetsRouteToken) :
    Transition m (.routeClosed route) (.enqueued (m.enqueueRouteClosed route).1)
      (m.enqueueRouteClosed route).2 := by
  unfold enqueueRouteClosed
  split
  · rename_i hshape
    refine .refused _ (by simp) fun other heq => ?_
    cases heq
    simpa using hshape
  · rename_i hshape
    have hshape : routeShapeIsValid route = true := by simpa using hshape
    dsimp only
    split
    · rename_i hclosed
      exact .closed route _ hshape (.kept (.inl hclosed))
    · split
      · rename_i hrevoke
        unfold retainFailClosedTombstone
        split
        · rename_i hpending
          exact .closed route _ hshape (.kept (.inr hpending))
        · split
          · exact .closed route _ hshape (.exhausted hrevoke)
          · exact .closed route _ hshape (.tombstoned hrevoke)
      · rename_i hrevoke
        split
        · rename_i hpending
          exact .closed route _ hshape (.kept (.inr hpending))
        · split
          · rename_i hfull
            exact .closed route _ hshape (.overflowed (Bool.not_eq_true _ ▸ hrevoke) hfull)
          · exact .closed route _ hshape .queued

theorem transition_frame (h : m.Invariant) {event : MailboxEvent} {kind : MailboxKind}
    {bytes : List UInt8} {receivedMs : UInt32}
    (hevent : event = .usbFrame route bytes receivedMs ∧ kind = .usbFrame
      ∨ event = .wifiFrame route bytes receivedMs ∧ kind = .wifiFrame) :
    Transition m event (.enqueued (m.enqueueFrame kind route bytes receivedMs).1)
      (m.enqueueFrame kind route bytes receivedMs).2 := by
  have hnotClosed : ∀ other, event ≠ .routeClosed other := by
    rcases hevent with ⟨rfl, -⟩ | ⟨rfl, -⟩ <;> exact nofun
  have hrefused (result : EnqueueResult) (hresult : result ≠ .accepted) :
    Transition m event (.enqueued result) m :=
    .refused result hresult fun other heq => absurd heq (hnotClosed other)
  have hkind : (kind == .routeOpened) = false := by rcases hevent with ⟨-, rfl⟩ | ⟨-, rfl⟩ <;> rfl
  unfold enqueueFrame
  split
  · exact hrefused _ (by simp)
  · rename_i hguard
    simp only [Bool.or_eq_true, not_or, Bool.not_eq_true] at hguard
    obtain ⟨⟨hrevoke, hopen⟩, hpending⟩ := hguard
    unfold reserveLogicalFrameRequest
    by_cases hreserved : m.logicalRequestReserved = true
    · -- the reserved request is queued already
      rw [if_neg (by simp [hreserved]), if_pos (.inr (h.queued hreserved))]
      exact hrefused _ (by simp)
    · rw [Bool.not_eq_true] at hreserved
      rw [if_pos (by simp [hreserved])]
      by_cases hnext : m.nextAdmissionId = 0
      · rw [if_pos hnext]
        exact .exhausted hnotClosed hreserved hnext
      · rw [if_neg hnext]
        unfold enqueueData
        simp only [hkind, Bool.not_false, Bool.true_and, Bool.false_and, Bool.or_false]
        by_cases hinvalid :
          (!routeShapeIsValid route || (bytes.isEmpty || decide (bytes.length > wifiFrameMaxBytes))) = true
        · simp only [hinvalid, if_true]
          exact .skipped _ (by simp) hnotClosed hreserved hnext
        · simp only [hinvalid, Bool.false_eq_true, if_false]
          by_cases hfull : m.data.length ≥ ingressCapacity
          · simp only [hfull, if_true]
            exact .skipped _ (by simp) hnotClosed hreserved hnext
          · simp only [hfull, if_false]
            have hshape : routeShapeIsValid route = true := by
              simp only [Bool.or_eq_true, not_or, Bool.not_eq_true, Bool.not_eq_false'] at hinvalid
              exact hinvalid.1
            exact .admitted kind route bytes receivedMs hevent hshape hrevoke hopen hpending hreserved hnext

theorem transition_takeNext (h : m.Invariant) :
    Transition m .takeNext (.taken m.takeNext.1) m.takeNext.2 := by
  have hlive : m.data.dropWhile (·.cancelled) = m.data := by
    cases hdata : m.data with
    | nil => rfl
    | cons record data =>
      have hfit := h.records record (hdata ▸ List.mem_cons_self)
      simp [hfit.live]
  unfold takeNext
  split
  · rename_i hrevoke
    exact .tookAllClosed hrevoke
  · rename_i hrevoke
    rw [Bool.not_eq_true] at hrevoke
    split
    · rename_i route closes hcloses
      exact .tookClose route closes hrevoke hcloses
    · rename_i hcloses
      rw [hlive]
      split
      · rename_i record data hdata
        exact .tookRecord record data hrevoke hcloses hdata
      · rename_i hdata
        rw [show ({ m with data := [] } : Mailbox) = m by rw [← hdata]]
        exact .tookNothing hdata

theorem transition_release (m : Mailbox) (lease : LogicalRequestLease) :
    Transition m (.releaseLogicalRequest lease) (.released (m.releaseLogicalRequest lease).1)
      (m.releaseLogicalRequest lease).2 := by
  unfold releaseLogicalRequest
  split
  · rename_i hother
    refine .notReleased lease ?_
    by_contra hcontra
    simp only [not_or, not_not, logicalRequestLease,
      Option.ite_none_right_eq_some, Option.some.injEq] at hcontra
    obtain ⟨⟨hreserved, rfl⟩, hid⟩ := hcontra
    simp [hreserved, hid] at hother
  · rename_i hsame
    simp only [not_or, Bool.not_eq_false, not_not] at hsame
    obtain ⟨hreserved, -, hid, hroute⟩ := hsame
    exact .released lease (by simp [logicalRequestLease, hreserved, hroute, ← hid])

theorem transition (h : m.Invariant) (event : MailboxEvent) :
    Transition m event (m.step event).1 (m.step event).2 := by
  cases event with
  | routeOpened route => exact transition_routeOpened m route
  | routeClosed route => exact transition_routeClosed m route
  | usbFrame route bytes receivedMs =>
    unfold step enqueueUsbFrame
    dsimp only
    split
    · exact .refused _ (by simp) nofun
    · exact transition_frame h (.inl ⟨rfl, rfl⟩)
  | wifiFrame route bytes receivedMs =>
    unfold step enqueueWifiFrame
    dsimp only
    split
    · exact .refused _ (by simp) nofun
    · exact transition_frame h (.inr ⟨rfl, rfl⟩)
  | takeNext => exact transition_takeNext h
  | releaseLogicalRequest lease => exact transition_release m lease

/-! ## The invariant -/

namespace Invariant

theorem flags (h : m.Invariant) (resourceSyncFailClosed revokeAllPending : Bool)
    (revokeAllOverflowRoute : SpeakerAssetsRouteToken)
    (closes : List SpeakerAssetsRouteToken) :
    { m with resourceSyncFailClosed, revokeAllPending, revokeAllOverflowRoute, closes }.Invariant where
  records record hmem :=
    have hfit := h.records record hmem
    ⟨hfit.kind, hfit.live, hfit.control, hfit.shape, hfit.frame⟩
  single := h.single
  queued := h.queued
  reserved := h.reserved
  nonzero := h.nonzero
  increasing := h.increasing
  below := h.below

theorem forgetRoute (h : m.Invariant) (route : SpeakerAssetsRouteToken) :
    (m.forgetRoute route).Invariant := by
  unfold Mailbox.forgetRoute revokeLogicalRequestForRoute
  have hpurged := h.purgePendingRoute route
  split
  · rename_i hreserved
    exact (hpurged.purgePendingAdmission _).cleared (hpurged.frames_purged hreserved.1)
  · exact hpurged

theorem frames_failClosePendingData (m : Mailbox) : m.failClosePendingData.frames = [] := by
  apply List.eq_nil_iff_forall_not_mem.mpr
  intro lease hmem
  obtain ⟨record, hrecord, hframe, -⟩ := mem_frames.mp hmem
  obtain ⟨old, -, hold⟩ := List.mem_filterMap.mp hrecord
  unfold failClosed at hold
  split at hold
  · cases hold
    cases hframe
  · rename_i hkind
    cases hold
    rw [hkind] at hframe
    cases hframe
  all_goals cases hold

theorem failClosePendingData (h : m.Invariant) : m.failClosePendingData.Invariant where
  records record hmem := by
    obtain ⟨old, hmem, hold⟩ := List.mem_filterMap.mp hmem
    have hfit := h.records old hmem
    unfold failClosed at hold
    split at hold
    · rename_i hkind
      cases hold
      exact ⟨by simp, rfl, fun _ => hfit.control (by rw [hkind]; rfl), hfit.shape, nofun⟩
    · cases hold
      exact ⟨hfit.kind, hfit.live, hfit.control, hfit.shape, hfit.frame⟩
    all_goals cases hold
  single := by simp [frames_failClosePendingData]
  queued := h.queued
  reserved := h.reserved
  nonzero := h.nonzero
  increasing := h.increasing
  below := h.below

theorem closing (h : m.Invariant) (hshape : routeShapeIsValid route = true) {t : Mailbox}
    (hclosing : Closing m route t) :
    t.Invariant := by
  cases hclosing with
  | kept => exact h
  | exhausted => exact h.flags true _ _ _
  | tombstoned => exact h.appended (.inr rfl) rfl rfl hshape
  | overflowed =>
    exact (h.flags _ true route _).failClosePendingData.cleared (frames_failClosePendingData _)
  | queued => exact h.flags _ _ _ _

theorem toNat_advance (next : UInt64) :
    next.toNat < if advance next = 0 then 0x10000000000000000 else (advance next).toNat := by
  unfold advance
  have hlt := next.toNat_lt
  split
  · rename_i hmax
    simp [hmax]
  · rename_i hmax
    have hmax : next.toNat ≠ 0xFFFFFFFFFFFFFFFF := fun heq => hmax (UInt64.toNat_inj.mp heq)
    have hadd : (next + 1).toNat = next.toNat + 1 := by
      rw [UInt64.toNat_add]
      exact Nat.mod_eq_of_lt (by simp; omega)
    rw [if_neg (fun heq => by rw [heq] at hadd; simp at hadd), hadd]
    exact Nat.lt_succ_self _

theorem admissionBound_eq (hnext : m.nextAdmissionId ≠ 0) :
    m.admissionBound = m.nextAdmissionId.toNat := if_neg hnext

theorem skipped (h : m.Invariant) (hreserved : m.logicalRequestReserved = false)
    (hnext : m.nextAdmissionId ≠ 0) :
    { m.clearLogicalRequestReservation with nextAdmissionId := advance m.nextAdmissionId }.Invariant :=
  have hcleared := h.cleared (h.frames_unreserved hreserved)
  { records := fun record hmem =>
      have hfit := hcleared.records record hmem
      ⟨hfit.kind, hfit.live, hfit.control, hfit.shape, hfit.frame⟩
    single := h.single
    queued := nofun
    reserved := nofun
    nonzero := h.nonzero
    increasing := h.increasing
    below := fun lease hmem => by
      have hold := h.below lease hmem
      rw [admissionBound_eq hnext] at hold
      exact hold.trans (toNat_advance _) }

theorem admitted (h : m.Invariant) {kind : MailboxKind} {bytes : List UInt8} {receivedMs : UInt32}
    (hkind : kind = .usbFrame ∨ kind = .wifiFrame) (hshape : routeShapeIsValid route = true)
    (hreserved : m.logicalRequestReserved = false) (hnext : m.nextAdmissionId ≠ 0) :
    Invariant
      { m with
        data := m.data ++ [{ kind, route, admissionId := m.nextAdmissionId, receivedMs, bytes }]
        reservedRoute := route
        reservedAdmissionId := m.nextAdmissionId
        nextAdmissionId := advance m.nextAdmissionId
        logicalRequestReserved := true
        logicalFrameRequestQueued := true
        admitted := m.admitted ++ [{ route, admissionId := m.nextAdmissionId }] } := by
  have hnone := h.frames_unreserved hreserved
  have hframe : kind.isFrame = true := by rcases hkind with rfl | rfl <;> rfl
  constructor
  · intro record hmem
    rcases List.mem_append.mp hmem with hmem | hmem
    · have hfit := h.records record hmem
      refine ⟨hfit.kind, hfit.live, hfit.control, hfit.shape, fun hframe => ?_⟩
      have hmem' : record.lease ∈ m.frames := mem_frames.mpr ⟨record, hmem, hframe, rfl⟩
      rw [hnone] at hmem'
      cases hmem'
    · obtain rfl := List.mem_singleton.mp hmem
      refine ⟨?_, rfl, fun hother => ?_, hshape, fun _ => rfl⟩
      · rcases hkind with rfl | rfl <;> simp
      · rw [hframe] at hother
        cases hother
  · have hdata : m.data.filter (·.kind.isFrame) = [] := List.map_eq_nil_iff.mp hnone
    simp [frames, List.filter_append, hdata, hframe]
  · exact fun _ => rfl
  · intro lease hlease
    simp only [logicalRequestLease, if_true, Option.some.injEq] at hlease
    simp [hlease]
  · intro lease hmem
    rcases List.mem_append.mp hmem with hmem | hmem
    · exact h.nonzero lease hmem
    · obtain rfl := List.mem_singleton.mp hmem
      exact hnext
  · refine List.pairwise_append.mpr ⟨h.increasing, by simp, fun earlier hearlier later hlater => ?_⟩
    obtain rfl := List.mem_singleton.mp hlater
    have hbelow := h.below earlier hearlier
    rw [admissionBound_eq hnext] at hbelow
    exact UInt64.lt_iff_toNat_lt.mpr hbelow
  · intro lease hmem
    rcases List.mem_append.mp hmem with hmem | hmem
    · have hold := h.below lease hmem
      rw [admissionBound_eq hnext] at hold
      exact hold.trans (toNat_advance _)
    · obtain rfl := List.mem_singleton.mp hmem
      exact toNat_advance _

theorem of_transition (h : m.Invariant) {event : MailboxEvent} {answer : MailboxAnswer} {t : Mailbox}
    (htransition : Transition m event answer t) : t.Invariant := by
  cases htransition with
  | refused => exact h
  | opened route hshape => exact h.appended (.inl rfl) rfl rfl hshape
  | openedLate route hshape => exact h.appended (.inr rfl) rfl rfl hshape
  | openedFull => exact h.flags true _ _ _
  | exhausted => exact h.flags true _ _ _
  | skipped _ _ _ hreserved hnext => exact h.skipped hreserved hnext
  | admitted kind route bytes receivedMs hevent hshape _ _ _ hreserved hnext =>
    exact h.admitted (hevent.imp And.right And.right) hshape hreserved hnext
  | closed route _ hshape hclosing => exact (h.forgetRoute route).closing hshape hclosing
  | tookAllClosed => exact h.flags _ false {} _
  | tookClose route closes => exact h.flags _ _ _ closes
  | tookRecord record data _ _ hdata => exact h.removed (hdata ▸ List.sublist_cons_self record data)
  | tookNothing => exact h
  | released lease hlease =>
    have hreserved : m.logicalRequestReserved = true ∧ m.reservedAdmissionId = lease.admissionId := by
      simp only [logicalRequestLease, Option.ite_none_right_eq_some, Option.some.injEq] at hlease
      exact ⟨hlease.1, congrArg LogicalRequestLease.admissionId hlease.2⟩
    exact (h.purgePendingAdmission _).cleared (hreserved.2 ▸ h.frames_purged hreserved.1)
  | notReleased => exact h

theorem step (h : m.Invariant) (event : MailboxEvent) : (m.step event).2.Invariant :=
  h.of_transition (transition h event)

end Invariant

/-! ## Closes come before frames -/

/-- A close of the route is on its way, or none is needed any more. -/
def Owed (m : Mailbox) (route : SpeakerAssetsRouteToken) : Prop :=
  m.resourceSyncFailClosed = true ∨ m.revokeAllPending = true ∨ route ∈ m.closes
    ∨ ∃ record ∈ m.data, record.kind = .routeClosed ∧ record.route = route

/-- No frame of the route is in the mailbox, and its close is owed. -/
structure Shut (m : Mailbox) (route : SpeakerAssetsRouteToken) : Prop where
  frames : ∀ lease ∈ m.frames, lease.route ≠ route
  owed : m.Owed route

theorem Owed.of_closePending (h : m.closePending route = true) : m.Owed route := by
  simp only [closePending, Bool.or_eq_true, Bool.and_eq_true, List.any_eq_true, beq_iff_eq] at h
  rcases h with (⟨hrevoke, -⟩ | ⟨other, hmem, rfl⟩) | h
  · exact .inr (.inl hrevoke)
  · exact .inr (.inr (.inl hmem))
  · exact .inr (.inr (.inr h))

theorem closePending_of_owed (h : m.Owed route) (hopen : m.resourceSyncFailClosed = false)
    (hrevoke : m.revokeAllPending = false) : m.closePending route = true := by
  simp only [closePending, Bool.or_eq_true, List.any_eq_true, beq_iff_eq, Bool.and_eq_true]
  rcases h with h | h | h | h
  · simp [hopen] at h
  · simp [hrevoke] at h
  · exact .inl (.inr ⟨route, h, rfl⟩)
  · exact .inr h

theorem Owed.mono {t : Mailbox} (h : m.Owed route)
    (hfail : m.resourceSyncFailClosed = true → t.resourceSyncFailClosed = true)
    (hrevoke : m.revokeAllPending = true → t.revokeAllPending = true)
    (hcloses : route ∈ m.closes → route ∈ t.closes)
    (hdata : ∀ record ∈ m.data, record.kind = .routeClosed →
      record.route = route → record ∈ t.data) : t.Owed route := by
  rcases h with h | h | h | ⟨record, hmem, hkind, hroute⟩
  · exact .inl (hfail h)
  · exact .inr (.inl (hrevoke h))
  · exact .inr (.inr (.inl (hcloses h)))
  · exact .inr (.inr (.inr ⟨record, hdata record hmem hkind hroute, hkind, hroute⟩))

/-- Purging an admission leaves the tombstones. -/
theorem mem_purgePendingAdmission (h : m.Invariant) {admissionId : UInt64} {record : MailboxRecord}
    (hmem : record ∈ m.data)
    (hkind : record.kind = .routeClosed) : record ∈ (m.purgePendingAdmission admissionId).data := by
  unfold purgePendingAdmission
  split
  · exact hmem
  · rename_i hid
    have hcontrol := (h.records record hmem).control (by rw [hkind]; rfl)
    exact List.mem_filter.mpr ⟨hmem, by simpa [hcontrol] using Ne.symm hid⟩

theorem Owed.purgePendingAdmission (h : m.Invariant) (howed : m.Owed route) (admissionId : UInt64) :
    (m.purgePendingAdmission admissionId).clearLogicalRequestReservation.Owed route := by
  have hkept := fun record hmem hkind => @mem_purgePendingAdmission _ h admissionId record hmem hkind
  unfold Mailbox.purgePendingAdmission at hkept ⊢
  split at hkept
  · rename_i hid
    rw [if_pos hid]
    exact howed.mono id id id fun record hmem _ _ => hmem
  · rename_i hid
    rw [if_neg hid]
    exact howed.mono id id id fun record hmem hkind _ => hkept record hmem hkind

theorem Owed.forgetRoute (h : m.Invariant) (howed : m.Owed route) {other : SpeakerAssetsRouteToken}
    (hother : route ≠ other) :
    (m.forgetRoute other).Owed route := by
  have hpurged : (m.purgePendingRoute other).Owed route :=
    howed.mono id id id fun record hmem _ hroute => List.mem_filter.mpr ⟨hmem, by simp [hroute, hother]⟩
  unfold Mailbox.forgetRoute revokeLogicalRequestForRoute
  split
  · exact hpurged.purgePendingAdmission (h.purgePendingRoute other) _
  · exact hpurged

theorem frames_forgetRoute_subset (m : Mailbox) (route : SpeakerAssetsRouteToken) :
    List.Sublist (m.forgetRoute route).frames (m.purgePendingRoute route).frames := by
  unfold forgetRoute revokeLogicalRequestForRoute
  split
  · refine frames_sublist (?_ : List.Sublist (purgePendingAdmission _ _).data _)
    unfold purgePendingAdmission
    split
    · exact List.Sublist.refl _
    · exact List.filter_sublist
  · exact List.Sublist.refl _

theorem frames_purgePendingRoute {lease : LogicalRequestLease} :
    lease ∈ (m.purgePendingRoute route).frames ↔ lease ∈ m.frames ∧ lease.route ≠ route := by
  simp only [mem_frames, purgePendingRoute, List.mem_filter, bne_iff_ne, ne_eq]
  constructor
  · rintro ⟨record, ⟨hmem, hroute⟩, hframe, rfl⟩
    exact ⟨⟨record, hmem, hframe, rfl⟩, hroute⟩
  · rintro ⟨⟨record, hmem, hframe, rfl⟩, hroute⟩
    exact ⟨record, ⟨hmem, hroute⟩, hframe, rfl⟩

/-- A control record is no frame. -/
theorem frames_append_control {record : MailboxRecord} (hkind : record.kind.isFrame = false) :
    ({ m with data := m.data ++ [record] } : Mailbox).frames = m.frames := by
  simp [frames, hkind]

theorem frames_closing {t : Mailbox} (hclosing : Closing m route t) : List.Sublist t.frames m.frames := by
  cases hclosing with
  | kept => exact List.Sublist.refl _
  | exhausted => exact List.Sublist.refl _
  | tombstoned => rw [frames_append_control rfl]
  | overflowed =>
    have hnone :
      (({ m with revokeAllPending := true, revokeAllOverflowRoute := route } : Mailbox).failClosePendingData
        |>.clearLogicalRequestReservation).frames = [] := Invariant.frames_failClosePendingData _
    rw [hnone]
    exact List.nil_sublist _
  | queued => exact List.Sublist.refl _

/-- The close of a route is owed once it was called for, and owing another one's stays. -/
theorem owed_closing {other : SpeakerAssetsRouteToken} {t : Mailbox} (hclosing : Closing m other t)
    (howed : route = other ∨ m.Owed route) : t.Owed route := by
  cases hclosing with
  | kept h =>
    rcases howed with rfl | howed
    · rcases h with h | h
      · exact .inl h
      · exact .of_closePending h
    · exact howed
  | exhausted => exact .inl rfl
  | tombstoned hrevoke => exact .inr (.inl hrevoke)
  | overflowed => exact .inr (.inl rfl)
  | queued =>
    rcases howed with rfl | howed
    · exact .inr (.inr (.inl (List.mem_append_right _ (List.mem_singleton.mpr rfl))))
    · exact howed.mono id id (List.mem_append_left _) fun record hmem _ _ => hmem

theorem shut_routeClosed (m : Mailbox) {t : Mailbox}
    (hclosing : Closing (m.forgetRoute route) route t) : t.Shut route where
  frames _ hmem :=
    (frames_purgePendingRoute.mp
      ((frames_forgetRoute_subset m route).subset ((frames_closing hclosing).subset hmem))).2
  owed := owed_closing hclosing (.inl rfl)

end Mailbox

def MailboxAnswer.record : MailboxAnswer → Option MailboxRecord
  | .taken record => record
  | .enqueued _ | .released _ => none

/-- The record is the close of the route, or of all. -/
def MailboxRecord.Closes (record : MailboxRecord) (route : SpeakerAssetsRouteToken) : Prop :=
  record.kind = .allRoutesClosed ∨ (record.kind = .routeClosed ∧ record.route = route)

/-- The record is a frame of the route. -/
def MailboxRecord.Carries (record : MailboxRecord) (route : SpeakerAssetsRouteToken) : Prop :=
  record.kind.isFrame = true ∧ record.route = route

namespace Mailbox

variable {m : Mailbox} {route : SpeakerAssetsRouteToken}

/-- Until the close of a shut route is taken, the route stays shut and no frame of it is taken. -/
theorem Shut.of_transition (hm : m.Invariant) (h : m.Shut route) {event : MailboxEvent}
    {answer : MailboxAnswer} {t : Mailbox}
    (htransition : Transition m event answer t) (hopen : ∀ record,
      answer.record = some record → ¬ record.Closes route) :
    t.Shut route ∧ ∀ record, answer.record = some record → ¬ record.Carries route := by
  cases htransition with
  | refused => exact ⟨h, nofun⟩
  | opened other hshape hpending =>
    refine ⟨⟨?_, h.owed.mono id id id fun record hmem _ _ => List.mem_append_left _ hmem⟩, nofun⟩
    rw [frames_append_control rfl]
    exact h.frames
  | openedLate other hshape hrevoke =>
    refine ⟨⟨?_, .inr (.inl hrevoke)⟩, nofun⟩
    rw [frames_append_control rfl]
    exact h.frames
  | openedFull => exact ⟨⟨h.frames, .inl rfl⟩, nofun⟩
  | exhausted => exact ⟨⟨h.frames, .inl rfl⟩, nofun⟩
  | skipped => exact ⟨⟨h.frames, h.owed.mono id id id fun record hmem _ _ => hmem⟩, nofun⟩
  | admitted kind other bytes receivedMs hevent hshape hrevoke hopenAll hpending hreserved hnext =>
    have hother : other ≠ route := fun heq => by
      rw [heq, closePending_of_owed h.owed hopenAll hrevoke] at hpending
      cases hpending
    refine ⟨⟨fun lease hmem => ?_, h.owed.mono id id id fun record hmem _ _ =>
      List.mem_append_left _ hmem⟩, nofun⟩
    obtain ⟨record, hrecord, hframe, heq⟩ := mem_frames.mp hmem
    rcases List.mem_append.mp hrecord with hrecord | hrecord
    · exact h.frames lease (mem_frames.mpr ⟨record, hrecord, hframe, heq⟩)
    · rw [← heq, List.mem_singleton.mp hrecord]
      exact hother
  | closed other _ hshape hclosing =>
    by_cases hother : route = other
    · subst hother
      exact ⟨shut_routeClosed m hclosing, nofun⟩
    · refine ⟨⟨fun lease hmem => ?_, owed_closing hclosing (.inr (h.owed.forgetRoute hm hother))⟩, nofun⟩
      exact h.frames lease (frames_purgePendingRoute.mp
        ((frames_forgetRoute_subset m other).subset ((frames_closing hclosing).subset hmem))).1
  | tookAllClosed => exact absurd (.inl rfl) (hopen _ rfl)
  | tookClose other closes hrevoke hcloses =>
    have hother : other ≠ route := fun heq => hopen _ rfl (.inr ⟨rfl, heq⟩)
    refine ⟨⟨h.frames, h.owed.mono id id (fun hmem => ?_) fun record hmem _ _ => hmem⟩,
      fun record heq hcarries => ?_⟩
    · rw [hcloses] at hmem
      exact (List.mem_cons.mp hmem).resolve_left hother.symm
    · cases heq
      cases hcarries.1
  | tookRecord record data hrevoke hcloses hdata =>
    have hsub : List.Sublist data m.data := hdata ▸ List.sublist_cons_self record data
    refine ⟨⟨fun lease hmem => h.frames lease ((frames_sublist (t := { m with data }) hsub).subset hmem),
      h.owed.mono id id id fun other hmem hkind hroute => ?_⟩, fun other heq hcarries => ?_⟩
    · rw [hdata] at hmem
      rcases List.mem_cons.mp hmem with rfl | hmem
      · exact absurd (.inr ⟨hkind, hroute⟩) (hopen _ rfl)
      · exact hmem
    · cases heq
      exact h.frames record.lease
        (mem_frames.mpr ⟨record, hdata ▸ List.mem_cons_self, hcarries.1, rfl⟩) hcarries.2
  | tookNothing => exact ⟨h, nofun⟩
  | released lease hlease =>
    refine ⟨⟨fun other hmem => h.frames other ?_, h.owed.purgePendingAdmission hm _⟩, nofun⟩
    refine (frames_sublist
      (?_ : List.Sublist (purgePendingAdmission m lease.admissionId).data m.data)).subset hmem
    unfold purgePendingAdmission
    split
    · exact List.Sublist.refl _
    · exact List.filter_sublist
  | notReleased => exact ⟨h, nofun⟩

theorem shut_step (h : m.Invariant) (hshape : routeShapeIsValid route = true) :
    (m.step (.routeClosed route)).2.Shut route := by
  have htransition := transition h (.routeClosed route)
  generalize (m.step (.routeClosed route)).1 = answer at htransition
  generalize (m.step (.routeClosed route)).2 = t at htransition ⊢
  cases htransition with
  | refused _ _ hinvalid =>
    rw [hinvalid route rfl] at hshape
    cases hshape
  | exhausted hevent => exact absurd rfl (hevent route)
  | skipped _ _ hevent => exact absurd rfl (hevent route)
  | admitted kind other bytes receivedMs hevent => rcases hevent with ⟨h, -⟩ | ⟨h, -⟩ <;> cases h
  | closed _ _ _ hclosing => exact shut_routeClosed m hclosing

theorem failClosed_of_transition {event : MailboxEvent} {answer : MailboxAnswer} {t : Mailbox}
    (htransition : Transition m event answer t) (hfail : m.resourceSyncFailClosed = true) :
    t.resourceSyncFailClosed = true := by
  cases htransition with
  | openedFull => rfl
  | exhausted => rfl
  | closed other _ _ hclosing =>
    have hforget : (m.forgetRoute other).resourceSyncFailClosed = true := by
      unfold forgetRoute revokeLogicalRequestForRoute purgePendingAdmission purgePendingRoute
      split
      · split <;> exact hfail
      · exact hfail
    cases hclosing with
    | exhausted => rfl
    | kept | tombstoned | overflowed | queued => exact hforget
  | released lease =>
    unfold purgePendingAdmission
    split <;> exact hfail
  | refused | opened | openedLate | skipped | admitted | tookAllClosed | tookClose | tookRecord
    | tookNothing | notReleased =>
    exact hfail

theorem shape_of_transition (h : m.Invariant) {event : MailboxEvent} {answer : MailboxAnswer} {t : Mailbox}
    (htransition : Transition m event answer t) (record : MailboxRecord)
    (hrecord : answer.record = some record)
    (hframe : record.kind.isFrame = true) : routeShapeIsValid record.route = true := by
  cases htransition with
  | tookRecord taken data _ _ hdata =>
    cases hrecord
    exact (h.records record (hdata ▸ List.mem_cons_self)).shape
  | tookAllClosed | tookClose =>
    cases hrecord
    cases hframe
  | _ => cases hrecord

end Mailbox

end CodexKeyboard.Assets
