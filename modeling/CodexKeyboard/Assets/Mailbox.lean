import CodexKeyboard.Assets.Protocol
import CodexKeyboard.Lib.Run
/-!
# The callback mailbox

`SpeakerAssetsRuntimeMailbox`
(`src/firmware/features/speaker_assets/speaker_assets_runtime.cpp:71-460`): transport callbacks put
records in, the supervisor takes them out, closes first. A ring with its head is a list, oldest
first.

| here | there |
| --- | --- |
| `MailboxRecord`, `LogicalRequestLease`, `Mailbox` | speaker_assets_runtime.h:83-118, 186-231 |
| `enqueueRouteOpened`, `enqueueRouteClosed` | 71, 93 |
| `enqueueUsbFrame`, `enqueueWifiFrame`: `enqueueFrame` | 127, 163 |
| `enqueueData`, `takeNext`, `releaseLogicalRequest` | 200, 236, 288 |
| `closePending`, `purgePendingRoute`, `purgePendingAdmission` | 331, 361, 380 |
| `retainFailClosedTombstone`, `failClosePendingData` | 400, 421 |
| `revokeLogicalRequestForRoute`, `reserveLogicalFrameRequest` | 462, 472 |

`admitted` is a ghost: the leases of the frames that were accepted, oldest first. `clear`, which
only initialisation calls, is left out.
-/

namespace CodexKeyboard.Assets

inductive EnqueueResult where
  | accepted
  | coalesced
  | full
  | invalidArgument
deriving DecidableEq, Repr

structure LogicalRequestLease where
  route : SpeakerAssetsRouteToken := {}
  admissionId : UInt64 := 0
deriving DecidableEq, Repr

inductive MailboxKind where
  | routeOpened
  | routeClosed
  | allRoutesClosed
  | usbFrame
  | wifiFrame
deriving DecidableEq, Repr

structure MailboxRecord where
  kind : MailboxKind := .usbFrame
  route : SpeakerAssetsRouteToken := {}
  admissionId : UInt64 := 0
  receivedMs : UInt32 := 0
  bytes : List UInt8 := []
  cancelled : Bool := false
deriving DecidableEq, Repr

/-- The kinds that carry a frame. -/
def MailboxKind.isFrame : MailboxKind → Bool
  | .usbFrame | .wifiFrame => true
  | .routeOpened | .routeClosed | .allRoutesClosed => false

def MailboxRecord.lease (record : MailboxRecord) : LogicalRequestLease where
  route := record.route
  admissionId := record.admissionId

/-- `kSpeakerAssetsRuntimeIngressCapacity`, of the mailbox's data and of the core's ingress. -/
def ingressCapacity : Nat := 20
/-- `kSpeakerAssetsRuntimeMailboxCloseCapacity`. -/
def mailboxCloseCapacity : Nat := 8

def routeShapeIsValid (route : SpeakerAssetsRouteToken) : Bool :=
  route.generation != 0 && (route.transport == .wifi || (route.transport == .usb && route.routeId == 0))

structure Mailbox where
  data : List MailboxRecord := []
  closes : List SpeakerAssetsRouteToken := []
  reservedRoute : SpeakerAssetsRouteToken := {}
  reservedAdmissionId : UInt64 := 0
  nextAdmissionId : UInt64 := 1
  logicalRequestReserved : Bool := false
  logicalFrameRequestQueued : Bool := false
  revokeAllPending : Bool := false
  resourceSyncFailClosed : Bool := false
  revokeAllOverflowRoute : SpeakerAssetsRouteToken := {}
  admitted : List LogicalRequestLease := []
deriving DecidableEq, Repr

namespace Mailbox

def closePending (m : Mailbox) (route : SpeakerAssetsRouteToken) : Bool :=
  (m.revokeAllPending && m.revokeAllOverflowRoute == route) || m.closes.any (· == route)
    || m.data.any fun record => record.kind == .routeClosed && record.route == route

def purgePendingRoute (m : Mailbox) (route : SpeakerAssetsRouteToken) : Mailbox :=
  { m with data := m.data.filter (·.route != route) }

def purgePendingAdmission (m : Mailbox) (admissionId : UInt64) : Mailbox :=
  if admissionId = 0 then m else { m with data := m.data.filter (·.admissionId != admissionId) }

def clearLogicalRequestReservation (m : Mailbox) : Mailbox :=
  { m with
    reservedRoute := {}, reservedAdmissionId := 0, logicalRequestReserved := false
    logicalFrameRequestQueued := false }

def revokeLogicalRequestForRoute (m : Mailbox) (route : SpeakerAssetsRouteToken) : Mailbox :=
  if m.logicalRequestReserved ∧ m.reservedRoute = route then
    (m.purgePendingAdmission m.reservedAdmissionId).clearLogicalRequestReservation
  else m

/-- An open that the overflow turns into its close; a close stays, a frame goes. -/
def failClosed (record : MailboxRecord) : Option MailboxRecord :=
  match record.kind with
  | .routeOpened =>
    some { record with kind := .routeClosed, receivedMs := 0, bytes := [], cancelled := false }
  | .routeClosed => some record
  | .allRoutesClosed | .usbFrame | .wifiFrame => none

def failClosePendingData (m : Mailbox) : Mailbox := { m with data := m.data.filterMap failClosed }

def retainFailClosedTombstone (m : Mailbox) (route : SpeakerAssetsRouteToken) : EnqueueResult × Mailbox :=
  if m.closePending route then (.coalesced, m)
  else if m.data.length ≥ ingressCapacity then (.accepted, { m with resourceSyncFailClosed := true })
  else (.accepted, { m with data := m.data ++ [{ kind := .routeClosed, route }] })

def enqueueData (m : Mailbox) (kind : MailboxKind) (route : SpeakerAssetsRouteToken) (bytes : List UInt8)
    (receivedMs : UInt32) : EnqueueResult × Mailbox :=
  let lifecycleOpen := kind == .routeOpened
  if !routeShapeIsValid route || (!lifecycleOpen &&
    (bytes.isEmpty || decide (bytes.length > wifiFrameMaxBytes)))
      || (lifecycleOpen && !bytes.isEmpty) then (.invalidArgument, m)
  else if m.data.length ≥ ingressCapacity then (.full, m)
  else
    (.accepted,
      { m with
        data := m.data
          ++ [{ kind, route, admissionId := if lifecycleOpen then 0 else m.reservedAdmissionId,
                receivedMs, bytes }] })

def enqueueRouteOpened (m : Mailbox) (route : SpeakerAssetsRouteToken) : EnqueueResult × Mailbox :=
  if !routeShapeIsValid route then (.invalidArgument, m)
  else if m.resourceSyncFailClosed || m.closePending route then (.coalesced, m)
  else if m.revokeAllPending then m.retainFailClosedTombstone route
  else m.enqueueData .routeOpened route [] 0

def enqueueRouteClosed (m : Mailbox) (route : SpeakerAssetsRouteToken) : EnqueueResult × Mailbox :=
  if !routeShapeIsValid route then (.invalidArgument, m)
  else
    let m := (m.purgePendingRoute route).revokeLogicalRequestForRoute route
    if m.resourceSyncFailClosed then (.coalesced, m)
    else if m.revokeAllPending then m.retainFailClosedTombstone route
    else if m.closePending route then (.coalesced, m)
    else if m.closes.length ≥ mailboxCloseCapacity then
      -- no room for the close: every route is closed instead
      (.accepted,
        ({ m with
          revokeAllPending := true, revokeAllOverflowRoute := route } : Mailbox).failClosePendingData
          |>.clearLogicalRequestReservation)
    else (.accepted, { m with closes := m.closes ++ [route] })

/-- The result, whether the reservation is new, and the mailbox. -/
def reserveLogicalFrameRequest (m : Mailbox) (route : SpeakerAssetsRouteToken) :
    EnqueueResult × Bool × Mailbox :=
  if !m.logicalRequestReserved then
    if m.nextAdmissionId = 0 then (.full, false, { m with resourceSyncFailClosed := true })
    else
      (.accepted, true,
        { m with
          reservedRoute := route
          reservedAdmissionId := m.nextAdmissionId
          nextAdmissionId := if m.nextAdmissionId = 0xFFFFFFFFFFFFFFFF then 0 else m.nextAdmissionId + 1
          logicalRequestReserved := true
          logicalFrameRequestQueued := false })
  else if m.reservedRoute ≠ route ∨ m.logicalFrameRequestQueued then (.full, false, m)
  else (.accepted, false, m)

/-- What both transports do with a frame of their shape. -/
def enqueueFrame (m : Mailbox) (kind : MailboxKind) (route : SpeakerAssetsRouteToken) (bytes : List UInt8)
    (receivedMs : UInt32) : EnqueueResult × Mailbox :=
  if m.revokeAllPending || m.resourceSyncFailClosed || m.closePending route then (.full, m)
  else match m.reserveLogicalFrameRequest route with
    | (.accepted, newlyReserved, m) =>
      match m.enqueueData kind route bytes receivedMs with
      | (.accepted, m) =>
        (.accepted,
          { m with
            logicalFrameRequestQueued := true
            admitted := m.admitted ++ [{ route, admissionId := m.reservedAdmissionId }] })
      | (queued, m) => (queued, if newlyReserved then m.clearLogicalRequestReservation else m)
    | (reservation, _, m) => (reservation, m)

def enqueueUsbFrame (m : Mailbox) (route : SpeakerAssetsRouteToken) (bytes : List UInt8)
    (receivedMs : UInt32) :
    EnqueueResult × Mailbox :=
  if route.transport ≠ .usb ∨ bytes.length ≠ usbFrameBytes then (.invalidArgument, m)
  else m.enqueueFrame .usbFrame route bytes receivedMs

def enqueueWifiFrame (m : Mailbox) (route : SpeakerAssetsRouteToken) (bytes : List UInt8)
    (receivedMs : UInt32) :
    EnqueueResult × Mailbox :=
  if route.transport ≠ .wifi ∨ bytes.length < frameHeaderBytes ∨ bytes.length > wifiFrameMaxBytes
    then (.invalidArgument, m)
  else m.enqueueFrame .wifiFrame route bytes receivedMs

def takeNext (m : Mailbox) : Option MailboxRecord × Mailbox :=
  if m.revokeAllPending then
    (some { kind := .allRoutesClosed, route := m.revokeAllOverflowRoute },
      { m with revokeAllPending := false, revokeAllOverflowRoute := {} })
  else match m.closes with
    | route :: closes => (some { kind := .routeClosed, route }, { m with closes })
    | [] =>
      match m.data.dropWhile (·.cancelled) with
      | record :: data => (some record, { m with data })
      | [] => (none, { m with data := [] })

def releaseLogicalRequest (m : Mailbox) (lease : LogicalRequestLease) : Bool × Mailbox :=
  if m.logicalRequestReserved = false ∨ lease.admissionId = 0 ∨ lease.admissionId ≠ m.reservedAdmissionId
      ∨ m.reservedRoute ≠ lease.route then (false, m)
  else (true, (m.purgePendingAdmission lease.admissionId).clearLogicalRequestReservation)

/-- `logical_request_lease`. -/
def logicalRequestLease (m : Mailbox) : Option LogicalRequestLease :=
  if m.logicalRequestReserved then
    some { route := m.reservedRoute, admissionId := m.reservedAdmissionId } else none

end Mailbox

/-! ## Runs -/

/-- A call of a member function. -/
inductive MailboxEvent where
  | routeOpened (route : SpeakerAssetsRouteToken)
  | routeClosed (route : SpeakerAssetsRouteToken)
  | usbFrame (route : SpeakerAssetsRouteToken) (bytes : List UInt8) (receivedMs : UInt32)
  | wifiFrame (route : SpeakerAssetsRouteToken) (bytes : List UInt8) (receivedMs : UInt32)
  | takeNext
  | releaseLogicalRequest (lease : LogicalRequestLease)
deriving DecidableEq, Repr

inductive MailboxAnswer where
  | enqueued (result : EnqueueResult)
  | taken (record : Option MailboxRecord)
  | released (done : Bool)
deriving DecidableEq, Repr

def Mailbox.step (m : Mailbox) : MailboxEvent → MailboxAnswer × Mailbox
  | .routeOpened route => let (result, m) := m.enqueueRouteOpened route; (.enqueued result, m)
  | .routeClosed route => let (result, m) := m.enqueueRouteClosed route; (.enqueued result, m)
  | .usbFrame route bytes receivedMs =>
    let (result, m) := m.enqueueUsbFrame route bytes receivedMs; (.enqueued result, m)
  | .wifiFrame route bytes receivedMs =>
    let (result, m) := m.enqueueWifiFrame route bytes receivedMs; (.enqueued result, m)
  | .takeNext => let (record, m) := m.takeNext; (.taken record, m)
  | .releaseLogicalRequest lease => let (done, m) := m.releaseLogicalRequest lease; (.released done, m)

end CodexKeyboard.Assets
