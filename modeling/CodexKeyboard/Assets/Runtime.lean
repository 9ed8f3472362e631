import CodexKeyboard.Assets.Session
import CodexKeyboard.Assets.Mailbox
import CodexKeyboard.Lib.BitSet
/-!
# The resource supervisor core

`SpeakerAssetsRuntimeCore`
(`src/firmware/features/speaker_assets/speaker_assets_runtime.cpp:505-1532`): imports what was taken
from the mailbox, and does one unit of work a step: a lifecycle record, an expiry, a frame or an
action.

| here | there |
| --- | --- |
| `RuntimeQueues`, `RuntimeCore` | the private fields (speaker_assets_runtime.h:462-517) |
| `importMailboxRecord`: `enqueueLifecycle`, `enqueueIngress` | 567, 618, 679 |
| `step`, `stepOnce` | 709, 720 |
| `activateRoute`, `filterRemember`, `closeRoute` | 893, 928, 1028 |
| `revokeAllRoutes`: `knownRoutes` | 941 |
| `processIngress`, `processFrame`, `consumeLogicalFrame` | 1117, 1136, 1182 |
| `processPendingAction`, `completeAction` | 1288 |
| `expirePartials`, `expireSessionLease`, `expireSessionPartialAfterLogicalFrame` | 1363, 1380, 1425 |
| `pushReply`, `retireAdmissionWithoutReply` | 1441, 1464 |
| `updateSessionPartialActivity`, `refreshSessionLease` | 1482, 1514 |

Rings are lists, oldest first. `handed` (the routes of the frames given to `Session::consume`),
`queued` and `released` (the leases of the replies queued and of the steps' `release_now`), oldest
first, are ghosts.
-/

namespace CodexKeyboard.Assets

open Lib

/-- `kSpeakerAssetsRuntimeLifecycleCapacity`, `…ReplyCapacity`, `…ActiveRoutes`. -/
def lifecycleCapacity : Nat := 8
def replyCapacity : Nat := 4
def activeRouteSlots : Nat := 4

def SpeakerAssetsTransport.code : SpeakerAssetsTransport → UInt32
  | .usb => 1
  | .reservedLegacy => 2
  | .wifi => 3

inductive ActionExecutionResult where
  | pending
  | completed (completion : SpeakerAssetsActionCompletion)
  | rejected
deriving DecidableEq, Repr

/-- One call of `SpeakerAssetsRuntimeActionExecutor::step`. -/
abbrev ActionExecutor := SpeakerAssetsActionView → ActionExecutionResult

inductive StepResult where
  | idle
  | lifecycleApplied
  | routeCapacityExceeded
  | usbFrameConsumed
  | wifiFrameConsumed
  | replyQueued
  | actionQueued
  | actionExecutionPending
  | actionCompleted
  | pausedForInput
  | replyBackpressure
  | partialExpired
  | sessionLeaseExpired
  | invalidFrameDropped
  | staleRouteDropped
  | executorUnavailable
  | executorRejected
  | sessionRejected
deriving DecidableEq, Repr

structure RuntimeReply where
  sequence : UInt32 := 0
  route : SpeakerAssetsRouteToken := {}
  lease : LogicalRequestLease := {}
  frame : SpeakerAssetsFrame := {}
deriving DecidableEq, Repr

inductive IngressKind where
  | usbFrame
  | wifiFrame
deriving DecidableEq, Repr

structure IngressRecord where
  kind : IngressKind := .usbFrame
  route : SpeakerAssetsRouteToken := {}
  admissionId : UInt64 := 0
  receivedMs : UInt32 := 0
  bytes : List UInt8 := []
deriving DecidableEq, Repr

inductive LifecycleKind where
  | opened
  | closed
deriving DecidableEq, Repr

structure LifecycleRecord where
  kind : LifecycleKind := .opened
  route : SpeakerAssetsRouteToken := {}
deriving DecidableEq, Repr

structure StepOutcome where
  result : StepResult := .idle
  releaseNow : LogicalRequestLease := {}
deriving DecidableEq, Repr

/-! ## The filter of closed routes -/

def mixRouteHash (value : UInt32) : UInt32 :=
  let value := value ^^^ (value >>> 16)
  let value := value * 0x7FEB352D
  let value := value ^^^ (value >>> 15)
  let value := value * 0x846CA68B
  value ^^^ (value >>> 16)

def routeHash (route : SpeakerAssetsRouteToken) (salt : UInt32) : UInt32 :=
  let value := mixRouteHash (salt ^^^ 0x9E3779B9)
  let value := mixRouteHash (value ^^^ (route.transport.code * 0x85EBCA6B))
  let value := mixRouteHash (value ^^^ route.routeId)
  mixRouteHash (value ^^^ route.generation)

/-- `kSpeakerAssetsRuntimeClosedRouteFilterWords`. -/
def closedRouteFilterWords : Nat := 64

def routeFilterBit (route : SpeakerAssetsRouteToken) (salt : UInt32) : Nat :=
  (routeHash route salt).toNat % 4096

def firstSalt : UInt32 := 0xA53C9E17
def secondSalt : UInt32 := 0x6D2B79F5

def filterContains (filter : List UInt64) (route : SpeakerAssetsRouteToken) : Bool :=
  BitSet.member filter (routeFilterBit route firstSalt) &&
    BitSet.member filter (routeFilterBit route secondSalt)

def filterRemember (filter : List UInt64) (route : SpeakerAssetsRouteToken) : List UInt64 :=
  BitSet.insert (BitSet.insert filter (routeFilterBit route firstSalt)) (routeFilterBit route secondSalt)

/-! ## The core -/

/-- The queues, the routes, the pending action and what the step releases. -/
structure RuntimeQueues where
  ingress : List IngressRecord := []
  lifecycle : List LifecycleRecord := []
  replies : List RuntimeReply := []
  nextReplySequence : UInt32 := 1
  activeRoutes : List (Option SpeakerAssetsRouteToken) := List.replicate activeRouteSlots none
  closedRouteFilter : List UInt64 := List.replicate closedRouteFilterWords 0
  pendingAction : SpeakerAssetsActionView := {}
  pendingActionLease : LogicalRequestLease := {}
  pendingActionActive : Bool := false
  releaseNow : LogicalRequestLease := {}
  queued : List LogicalRequestLease := []
  released : List LogicalRequestLease := []
deriving DecidableEq, Repr

structure RuntimeCore extends RuntimeQueues where
  session : Session
  sessionPartialRoute : SpeakerAssetsRouteToken := {}
  sessionPartialLastActivityMs : UInt32 := 0
  sessionPartialActive : Bool := false
  partialTimeoutMs : UInt32
  sessionLeaseRoute : SpeakerAssetsRouteToken := {}
  sessionLeaseLastActivityMs : UInt32 := 0
  sessionLeaseActive : Bool := false
  sessionLeaseMs : UInt32
  handed : List SpeakerAssetsRouteToken := []
deriving DecidableEq, Repr

/-- The constructor. -/
def RuntimeCore.new (cookieSeed actionTokenSeed partialTimeoutMs sessionLeaseMs : UInt32) :
    RuntimeCore where
  session := Session.new cookieSeed actionTokenSeed
  partialTimeoutMs := if partialTimeoutMs = 0 then 5000 else partialTimeoutMs
  sessionLeaseMs := if sessionLeaseMs = 0 then 10000 else sessionLeaseMs

namespace RuntimeQueues

def routeIsActive (q : RuntimeQueues) (route : SpeakerAssetsRouteToken) : Bool :=
  q.activeRoutes.any (· == some route)

def routeGenerationIsClosed (q : RuntimeQueues) (route : SpeakerAssetsRouteToken) : Bool :=
  filterContains q.closedRouteFilter route

def activateRoute (q : RuntimeQueues) (route : SpeakerAssetsRouteToken) : Bool × RuntimeQueues :=
  if q.routeGenerationIsClosed route then (false, q)
  else if q.routeIsActive route then (true, q)
  else match q.activeRoutes.findIdx? (·.isNone) with
    | none => (false, q)
    | some slot => (true, { q with activeRoutes := q.activeRoutes.set slot (some route) })

def routeHasIngress (q : RuntimeQueues) (route : SpeakerAssetsRouteToken) : Bool :=
  q.ingress.any (·.route == route)

def pushReply (q : RuntimeQueues) (route : SpeakerAssetsRouteToken) (frame : SpeakerAssetsFrame)
    (admissionId : UInt64) :
    Option RuntimeQueues :=
  if q.replies.length ≥ replyCapacity then none
  else
    some
      { q with
        replies := q.replies ++
          [{ sequence := q.nextReplySequence, route, lease := { route, admissionId }, frame }]
        nextReplySequence := if q.nextReplySequence + 1 = 0 then 1 else q.nextReplySequence + 1
        queued := q.queued ++ [{ route, admissionId }] }

/-- With `purge_admission_tail`. -/
def retireAdmissionWithoutReply (q : RuntimeQueues) (route : SpeakerAssetsRouteToken)
    (admissionId : UInt64) : RuntimeQueues :=
  if admissionId = 0 then q
  else
    { q with
      ingress := q.ingress.filter (·.admissionId != admissionId), releaseNow := { route, admissionId } }

/-- The first record of the route decides: a close stays, an open becomes the close or stays the open. -/
def foldLifecycle (kind : LifecycleKind) (route : SpeakerAssetsRouteToken) :
    List LifecycleRecord → Option (EnqueueResult × List LifecycleRecord)
  | [] => none
  | record :: rest =>
    if record.route ≠ route then (foldLifecycle kind route rest).map fun (result, rest) =>
      (result, record :: rest)
    else if record.kind = .closed then some (.coalesced, record :: rest)
    else if kind = .closed then some (.accepted, { record with kind := .closed } :: rest)
    else some (.coalesced, record :: rest)

/-- A full ring's second scan is for a record that the first one would have found. -/
def enqueueLifecycle (q : RuntimeQueues) (kind : LifecycleKind) (route : SpeakerAssetsRouteToken) :
    EnqueueResult × RuntimeQueues :=
  if !routeShapeIsValid route then (.invalidArgument, q)
  else match foldLifecycle kind route q.lifecycle with
    | some (result, lifecycle) => (result, { q with lifecycle })
    | none =>
      if q.lifecycle.length ≥ lifecycleCapacity then (.full, q)
      else if kind = .opened ∧ q.lifecycle.length ≥ lifecycleCapacity - activeRouteSlots then (.full, q)
      else (.accepted, { q with lifecycle := q.lifecycle ++ [{ kind, route }] })

def enqueueIngress (q : RuntimeQueues) (kind : IngressKind) (route : SpeakerAssetsRouteToken)
    (bytes : List UInt8)
    (receivedMs : UInt32) (admissionId : UInt64) : EnqueueResult × RuntimeQueues :=
  if !routeShapeIsValid route || bytes.isEmpty || decide (bytes.length > wifiFrameMaxBytes) then
    (.invalidArgument, q)
  else if q.ingress.length ≥ ingressCapacity then (.full, q)
  else (.accepted, { q with ingress := q.ingress ++ [{ kind, route, admissionId, receivedMs, bytes }] })

end RuntimeQueues

namespace RuntimeCore

/-! ## Timers -/

def elapsedAtLeast (now earlier interval : UInt32) : Bool := decide (now - earlier ≥ interval)

def clearSessionLease (core : RuntimeCore) : RuntimeCore :=
  { core with sessionLeaseRoute := {}, sessionLeaseLastActivityMs := 0, sessionLeaseActive := false }

def refreshSessionLease (core : RuntimeCore) (consumed : SpeakerAssetsRouteToken)
    (sessionCookie activityMs : UInt32) :
    RuntimeCore :=
  if sessionCookie = 0 ∨ core.session.routeBound = false ∨ sessionCookie ≠ core.session.sessionCookie
      ∨ core.session.route ≠ consumed then core
  else
    { core with
      sessionLeaseRoute := consumed, sessionLeaseLastActivityMs := activityMs, sessionLeaseActive := true }

def updateSessionPartialActivity (core : RuntimeCore) (consumed : SpeakerAssetsRouteToken)
    (receivedMs : UInt32)
    (accepted : Bool) : RuntimeCore :=
  if core.session.phase = .beginAssembly then
    if accepted ∧ (core.sessionPartialActive = false ∨ core.sessionPartialRoute = consumed) then
      { core with
        sessionPartialRoute := consumed, sessionPartialLastActivityMs := receivedMs
        sessionPartialActive := true }
    else core
  else if core.session.phase ≠ .unitAssembly then { core with sessionPartialActive := false }
  else if core.session.routeBound = false ∨ core.session.route ≠ consumed ∨ accepted = false then core
  else
    { core with
      sessionPartialRoute := consumed, sessionPartialLastActivityMs := receivedMs
      sessionPartialActive := true }

def expirePartials (core : RuntimeCore) (nowMs : UInt32) : Bool × RuntimeCore :=
  if core.sessionPartialActive && !core.routeHasIngress core.sessionPartialRoute
      && elapsedAtLeast nowMs core.sessionPartialLastActivityMs core.partialTimeoutMs then
    (true,
      { core with
        session := (core.session.expirePartial core.sessionPartialRoute).2, sessionPartialActive := false })
  else (false, core)

def expireSessionPartialAfterLogicalFrame (core : RuntimeCore) (nowMs : UInt32) : Bool × RuntimeCore :=
  if !core.sessionPartialActive || !elapsedAtLeast nowMs core.sessionPartialLastActivityMs
    core.partialTimeoutMs then
    (false, core)
  else
    let (expired, session) := core.session.expirePartial core.sessionPartialRoute
    (expired, { core with session, sessionPartialActive := false })

def expireSessionLease (core : RuntimeCore) (nowMs : UInt32) : Bool × RuntimeCore :=
  if core.sessionLeaseActive = false then (false, core)
  else if core.session.routeBound = false ∨ core.session.route ≠ core.sessionLeaseRoute then
    (false, core.clearSessionLease)
  else if core.pendingActionActive ∨ core.session.pending.active then (false, core)
  else if core.routeHasIngress core.sessionLeaseRoute
      ∨ !elapsedAtLeast nowMs core.sessionLeaseLastActivityMs core.sessionLeaseMs then (false, core)
  else
    let expired := core.sessionLeaseRoute
    let core := { core with session := core.session.routeClosed expired }
    let core := if core.sessionPartialActive ∧ core.sessionPartialRoute = expired then
      { core with sessionPartialActive := false }
      else core
    (true, core.clearSessionLease)

/-! ## Closes -/

/-- The routes that `revoke_all_routes` remembers: all that the core knows of. -/
def knownRoutes (core : RuntimeCore) (overflow : SpeakerAssetsRouteToken) : List SpeakerAssetsRouteToken :=
  (if routeShapeIsValid overflow then [overflow] else []) ++ core.lifecycle.map (·.route) ++
    core.ingress.map (·.route)
    ++ core.replies.map (·.route) ++ core.activeRoutes.reduceOption
    ++ (if core.session.routeBound then [core.session.route] else [])
    ++ (if core.pendingActionActive && routeShapeIsValid core.pendingAction.route then
      [core.pendingAction.route] else [])
    ++ (if core.sessionPartialActive && routeShapeIsValid core.sessionPartialRoute then
      [core.sessionPartialRoute] else [])

def revokeAllRoutes (core : RuntimeCore) (overflow : SpeakerAssetsRouteToken) : RuntimeCore :=
  { core with
    closedRouteFilter := (core.knownRoutes overflow).foldl filterRemember core.closedRouteFilter
    session := core.session.allRoutesClosed
    lifecycle := []
    ingress := []
    replies := []
    activeRoutes := List.replicate activeRouteSlots none
    sessionPartialRoute := {}
    sessionPartialLastActivityMs := 0
    sessionPartialActive := false }.clearSessionLease

def closeRoute (core : RuntimeCore) (route : SpeakerAssetsRouteToken) : RuntimeCore :=
  let core :=
    { core with
      closedRouteFilter := filterRemember core.closedRouteFilter route
      activeRoutes := core.activeRoutes.map fun slot => if slot = some route then none else slot
      session := core.session.routeClosed route
      sessionPartialActive := core.sessionPartialActive && core.sessionPartialRoute != route
      ingress := core.ingress.filter (·.route != route)
      replies := core.replies.filter (·.route != route) }
  if core.sessionLeaseActive ∧ core.sessionLeaseRoute = route then core.clearSessionLease else core

def processLifecycle (core : RuntimeCore) (record : LifecycleRecord) : StepResult × RuntimeCore :=
  match record.kind with
  | .opened =>
    let (activated, queues) := core.activateRoute record.route
    (if activated then .lifecycleApplied else .routeCapacityExceeded,
      { core with toRuntimeQueues := queues })
  | .closed => (.lifecycleApplied, core.closeRoute record.route)

/-! ## Frames -/

def retire (core : RuntimeCore) (route : SpeakerAssetsRouteToken) (admissionId : UInt64) : RuntimeCore :=
  { core with toRuntimeQueues := core.retireAdmissionWithoutReply route admissionId }

/-- Queues a reply, or reports that there is no room for it. -/
def reply (core : RuntimeCore) (route : SpeakerAssetsRouteToken) (frame : SpeakerAssetsFrame)
    (admissionId : UInt64)
    (result : StepResult) : StepResult × RuntimeCore :=
  match core.pushReply route frame admissionId with
  | none => (.replyBackpressure, core)
  | some queues => (result, { core with toRuntimeQueues := queues })

def isKnownMutatingOrQueryOpcode (opcode : UInt8) : Bool := decide (2 ≤ opcode ∧ opcode ≤ 9)

def pausedReply (frame : SpeakerAssetsFrame) : SpeakerAssetsFrame where
  opcode := frame.opcode
  flags := flagResponse ||| flagError
  requestId := frame.requestId
  sessionCookie := frame.sessionCookie
  objectOffset := frame.objectOffset
  body := [SpeakerAssetsStatus.pausedForInput.code]

section Steps
variable (H : Hashes)

/-- A frame that input holds up: the reply says so, and the open assembly stays alive. -/
def consumePaused (core : RuntimeCore) (route : SpeakerAssetsRouteToken) (frame : SpeakerAssetsFrame)
    (activityMs : UInt32)
    (admissionId : UInt64) : StepResult × RuntimeCore :=
  let core := if core.sessionPartialActive ∧ core.sessionPartialRoute = route then
      { core with sessionPartialLastActivityMs := activityMs }
    else core
  match core.reply route (pausedReply frame) admissionId .replyQueued with
  | (.replyQueued, core) =>
    let (expired, core) := core.expireSessionPartialAfterLogicalFrame activityMs
    (if expired then .partialExpired else .replyQueued, core)
  | refused => refused

/-- `session_.consume`. -/
def handOver (core : RuntimeCore) (route : SpeakerAssetsRouteToken) (frame : SpeakerAssetsFrame) :
    SpeakerAssetsSessionResult × SpeakerAssetsEmission × RuntimeCore :=
  let (result, emission, session) := core.session.consume H route frame
  (result, emission, { core with session, handed := core.handed ++ [route] })

/-- The last `switch`. -/
def emit (core : RuntimeCore) (route : SpeakerAssetsRouteToken) (admissionId : UInt64)
    (emission : SpeakerAssetsEmission)
    (partialExpired : Bool) (noEmission : StepResult) : StepResult × RuntimeCore :=
  match emission with
  | .none => (if partialExpired then .partialExpired else noEmission, core.retire route admissionId)
  | .reply frame =>
    core.reply route frame admissionId (if partialExpired then .partialExpired else .replyQueued)
  | .action view =>
    (.actionQueued,
      { core with
        pendingAction := view, pendingActionLease := { route, admissionId }, pendingActionActive := true })

/-- A frame that reached the session, up to the point where an expired partial has it handed over
once more. -/
def consumeOnce (core : RuntimeCore) (route : SpeakerAssetsRouteToken) (frame : SpeakerAssetsFrame)
    (activityMs : UInt32) :
    SpeakerAssetsSessionResult × SpeakerAssetsEmission × Bool × RuntimeCore :=
  let before := core.session.partialActivityCounter
  match core.handOver H route frame with
  | (.ok, emission, core) =>
    let core := if core.session.routeBound then core else core.clearSessionLease
    let accepted := core.session.partialActivityCounter != before
    let core := core.updateSessionPartialActivity route activityMs accepted
    if accepted then (.ok, emission, false, core)
    else
      let (expired, core) := core.expireSessionPartialAfterLogicalFrame activityMs
      (.ok, emission, expired, core)
  | (refused, emission, core) => (refused, emission, false, core)

def consumeAgain (core : RuntimeCore) (route : SpeakerAssetsRouteToken) (frame : SpeakerAssetsFrame)
    (activityMs : UInt32) :
    SpeakerAssetsSessionResult × SpeakerAssetsEmission × RuntimeCore :=
  let before := core.session.partialActivityCounter
  match core.handOver H route frame with
  | (.ok, emission, core) =>
    (.ok, emission,
      core.updateSessionPartialActivity route activityMs (core.session.partialActivityCounter != before))
  | refused => refused

def consumeLogicalFrame (core : RuntimeCore) (route : SpeakerAssetsRouteToken) (frame : SpeakerAssetsFrame)
    (activityMs : UInt32) (noEmission : StepResult) (allowed : Bool) (admissionId : UInt64) :
    StepResult × RuntimeCore :=
  let core := core.refreshSessionLease route frame.sessionCookie activityMs
  if !allowed && isKnownMutatingOrQueryOpcode frame.opcode then
    core.consumePaused route frame activityMs admissionId
  else match core.consumeOnce H route frame activityMs with
    | (.ok, emission, false, core) => core.emit route admissionId emission false noEmission
    | (.ok, _, true, core) =>
      -- the emission describes the assembler that has just expired
      match core.consumeAgain H route frame activityMs with
      | (.ok, emission, core) => core.emit route admissionId emission true noEmission
      | (_, _, core) => (.sessionRejected, core.retire route admissionId)
    | (_, _, _, core) => (.sessionRejected, core.retire route admissionId)

/-- `process_usb_frame`, `process_wifi_frame`. -/
def processFrame (core : RuntimeCore) (record : IngressRecord)
    (decoded : Except SpeakerAssetsProtocolResult SpeakerAssetsFrame)
    (noEmission : StepResult) (allowed : Bool) (nowMs : UInt32) : StepResult × RuntimeCore :=
  match decoded with
  | .error _ => (.invalidFrameDropped, core.retire record.route record.admissionId)
  | .ok frame => core.consumeLogicalFrame H record.route frame nowMs noEmission allowed record.admissionId

def processIngress (core : RuntimeCore) (record : IngressRecord) (allowed : Bool) (nowMs : UInt32) :
    StepResult × RuntimeCore :=
  if !core.routeIsActive record.route then (.staleRouteDropped, core.retire record.route record.admissionId)
  else match record.kind with
    | .usbFrame =>
      core.processFrame H record (decodeSpeakerAssetsUsbFrame H record.bytes) .usbFrameConsumed
        allowed nowMs
    | .wifiFrame =>
      core.processFrame H record (decodeSpeakerAssetsWifiFrame H record.bytes) .wifiFrameConsumed
        allowed nowMs

/-! ## Actions -/

def completeAction (core : RuntimeCore) (completion : SpeakerAssetsActionCompletion) (nowMs : UInt32)
    (done : StepResult) :
    StepResult × RuntimeCore :=
  let route := core.pendingAction.route
  let lease := core.pendingActionLease
  match core.session.complete completion with
  | (.ok, emission, session) =>
    let core :=
      { core with
        session, pendingAction := {}, pendingActionLease := {}, pendingActionActive := false,
          sessionPartialActive := false }
    let core :=
      if session.routeBound ∧ session.route = route then
        core.refreshSessionLease route session.sessionCookie nowMs
      else if session.routeBound then core else core.clearSessionLease
    match emission with
    | .reply frame => core.reply route frame lease.admissionId done
    | .action _ => (.sessionRejected, core.retire lease.route lease.admissionId)
    | .none => (done, core.retire lease.route lease.admissionId)
  | _ => (.sessionRejected, core)

def processPendingAction (core : RuntimeCore) (nowMs : UInt32) (allowed : Bool)
    (executor : Option ActionExecutor) :
    StepResult × RuntimeCore :=
  if !allowed then (.pausedForInput, core)
  else if core.replies.length ≥ replyCapacity then (.replyBackpressure, core)
  else match executor with
    | none => (.executorUnavailable, core)
    | some execute =>
      match execute core.pendingAction with
      | .pending => (.actionExecutionPending, core)
      | .completed completion => core.completeAction completion nowMs .actionCompleted
      | .rejected =>
        core.completeAction { token := core.pendingAction.token, kind := core.pendingAction.kind,
                              result := .unavailable } nowMs
          .executorRejected

/-! ## Steps -/

/-- The results after which a frame cannot have kept a partial assembly going. -/
def StepResult.cannotAdvance (result : StepResult) : Bool :=
  result == .invalidFrameDropped || result == .staleRouteDropped || result == .sessionRejected

def stepIngress (core : RuntimeCore) (record : IngressRecord) (allowed : Bool) (nowMs : UInt32) :
    StepResult × RuntimeCore :=
  let (result, core) := core.processIngress H record allowed nowMs
  if StepResult.cannotAdvance result then
    let (expired, core) := core.expireSessionPartialAfterLogicalFrame nowMs
    (if expired then .partialExpired else result, core)
  else (result, core)

def stepOnce (core : RuntimeCore) (nowMs : UInt32) (allowed : Bool) (executor : Option ActionExecutor) :
    StepResult × RuntimeCore :=
  match core.lifecycle with
  | record :: lifecycle => { core with lifecycle }.processLifecycle record
  | [] =>
    match core.expirePartials nowMs with
    | (true, core) => (.partialExpired, core)
    | (false, core) =>
      if core.pendingActionActive then core.processPendingAction nowMs allowed executor
      else match core.expireSessionLease nowMs with
        | (true, core) => (.sessionLeaseExpired, core)
        | (false, core) =>
          if core.replies.length ≥ replyCapacity then (.replyBackpressure, core)
          else match core.ingress with
            | record :: ingress => { core with ingress }.stepIngress H record allowed nowMs
            | [] => (.idle, core)

def step (core : RuntimeCore) (nowMs : UInt32) (allowed : Bool) (executor : Option ActionExecutor) :
    StepOutcome × RuntimeCore :=
  let (result, core) := { core with releaseNow := {} }.stepOnce H nowMs allowed executor
  ({ result, releaseNow := core.releaseNow },
    { core with
      released := if core.releaseNow.admissionId = 0 then core.released else
      core.released ++ [core.releaseNow] })

end Steps

/-! ## Imports and replies -/

def importMailboxRecord (core : RuntimeCore) (record : MailboxRecord) : EnqueueResult × RuntimeCore :=
  if record.cancelled then (.invalidArgument, core)
  else match record.kind with
    | .routeOpened =>
      let (result, queues) := core.enqueueLifecycle .opened record.route
      (result, { core with toRuntimeQueues := queues })
    | .routeClosed =>
      let (result, queues) := core.enqueueLifecycle .closed record.route
      (result, { core with toRuntimeQueues := queues })
    | .allRoutesClosed => (.accepted, core.revokeAllRoutes record.route)
    | .usbFrame =>
      if record.admissionId = 0 ∨ record.route.transport ≠ .usb ∨ record.bytes.length ≠ usbFrameBytes then
        (.invalidArgument, core)
      else
        let (result, queues) :=
          core.enqueueIngress .usbFrame record.route record.bytes record.receivedMs record.admissionId
        (result, { core with toRuntimeQueues := queues })
    | .wifiFrame =>
      if record.admissionId = 0 ∨ record.route.transport ≠ .wifi ∨ record.bytes.length < frameHeaderBytes
          ∨ record.bytes.length > wifiFrameMaxBytes then (.invalidArgument, core)
      else
        let (result, queues) :=
          core.enqueueIngress .wifiFrame record.route record.bytes record.receivedMs record.admissionId
        (result, { core with toRuntimeQueues := queues })

def popReplyIfSequence (core : RuntimeCore) (sequence : UInt32) : Bool × RuntimeCore :=
  match core.replies with
  | reply :: replies => if reply.sequence ≠ sequence then (false, core) else (true, { core with replies })
  | [] => (false, core)

/-- The first reply of the sequence number goes. -/
def removeReplyIfSequence (core : RuntimeCore) (sequence : UInt32) : Bool × RuntimeCore :=
  if sequence = 0 ∨ core.replies = [] then (false, core)
  else
    (core.replies.any (·.sequence == sequence),
      { core with replies := core.replies.eraseP (·.sequence == sequence) })

end RuntimeCore

end CodexKeyboard.Assets
