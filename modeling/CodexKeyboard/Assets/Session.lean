import CodexKeyboard.Assets.Protocol
/-!
# The speaker asset session

`SpeakerAssetsSession` (`src/firmware/features/speaker_assets/speaker_assets_session.cpp`): takes
frames, emits a reply or one action for the store, and takes the action's completion. An action
borrows the decoded plan or the bytes of the block assembler; its view holds what they were when it
was emitted.

| here | there |
| --- | --- |
| `Session` | the private fields (speaker_assets_session.h:286-316) |
| `consume` | `consume` (275), `consume_capabilities`, `consume_current_active` (389) |
| `consumePlanAction`: `openPlanAssembly`, `feedPlan`, `finishPlan` | `consume_plan_action` (443) |
| `consumeResume`, `consumeQuery`, `consumeTerminalAction` | 646, 947, 1008 |
| `consumeData`: `dataUnit`, `openUnit`, `feedUnit`, `finishUnit` | `consume_data` (712) |
| `complete`: `completionContract`, `completed` | `complete` (1064) |
| `routeClosed`, `allRoutesClosed`, `expirePartial` | 1328, 1361, 1383 |
| `statusReply`, …, `outcomeReply` | `emit_…_reply` (1447-1632) |
| `lookupReplay`, `rememberReplay`, `clearReplayForRoute` | 1730, 1763, 1774 |

A bank number out of range, which the code checks for, is not a `SoundBankId`.
-/

namespace CodexKeyboard.Assets

open Lib Buffer Reassembly

inductive SpeakerAssetsActionKind where
  | begin
  | discardInvalidStaging
  | queryCurrentActive
  | resumeQuery
  | writeManifest
  | writePayloadBlock
  | commit
  | abort
deriving DecidableEq, Repr

inductive SpeakerAssetsResumeQueryMode where
  | resumeOrRebind
  | currentProgress
deriving DecidableEq, Repr

inductive SpeakerAssetsSessionPhase where
  | idle
  | beginAssembly
  | ready
  | unitAssembly
  | actionPending
deriving DecidableEq, Repr

inductive SpeakerAssetsSessionResult where
  | ok
  | invalidArgument
  | noPendingAction
  | staleCompletion
deriving DecidableEq, Repr

inductive SpeakerAssetsTransactionOutcome where
  | active
  | committed
  | unknown
deriving DecidableEq, Repr

def SpeakerAssetsTransactionOutcome.code : SpeakerAssetsTransactionOutcome → UInt8
  | .active => 1
  | .committed => 2
  | .unknown => 3

inductive SpeakerAssetsOpcode where
  | capabilities
  | begin
  | resume
  | data
  | query
  | commit
  | abort
  | recoverInvalidStaging
  | currentActive
deriving DecidableEq, Repr

/-- The cast from the byte on the wire. -/
def SpeakerAssetsOpcode.ofByte (byte : UInt8) : Option SpeakerAssetsOpcode :=
  if byte = 1 then some .capabilities
  else if byte = 2 then some .begin
  else if byte = 3 then some .resume
  else if byte = 4 then some .data
  else if byte = 5 then some .query
  else if byte = 6 then some .commit
  else if byte = 7 then some .abort
  else if byte = 8 then some .recoverInvalidStaging
  else if byte = 9 then some .currentActive
  else none

structure SpeakerAssetsActionView where
  token : UInt32 := 0
  kind : SpeakerAssetsActionKind := .begin
  route : SpeakerAssetsRouteToken := {}
  requestId : UInt32 := 0
  sessionCookie : UInt32 := 0
  plan : Option SoundBundlePlan := none
  expectedIdentity : SoundUpdateIdentity := {}
  queryMode : SpeakerAssetsResumeQueryMode := .currentProgress
  bytes : Option (List UInt8) := none
  length : UInt16 := 0
  blockIndex : UInt16 := 0
deriving DecidableEq, Repr

structure SpeakerAssetsActionCompletion where
  token : UInt32 := 0
  kind : SpeakerAssetsActionKind := .begin
  result : SoundStoreResult := .invalidArgument
  identityValid : Bool := false
  identity : SoundUpdateIdentity := {}
  progressValid : Bool := false
  progress : SoundUpdateProgress := {}
  outcomeValid : Bool := false
  outcome : SpeakerAssetsTransactionOutcome := .active
  outcomeManifestBytes : UInt32 := 0
  outcomePayloadBytes : UInt32 := 0
  currentActiveValid : Bool := false
  currentActive : SoundBankSnapshot := {}
deriving DecidableEq, Repr

inductive SpeakerAssetsEmission where
  | none
  | reply (reply : SpeakerAssetsFrame)
  | action (action : SpeakerAssetsActionView)
deriving DecidableEq, Repr

structure PendingAction where
  active : Bool := false
  orphaned : Bool := false
  kind : SpeakerAssetsActionKind := .begin
  route : SpeakerAssetsRouteToken := {}
  token : UInt32 := 0
  requestId : UInt32 := 0
  requestCookie : UInt32 := 0
  requestOffset : UInt32 := 0
  opcode : UInt8 := 0
  region : SpeakerAssetsRegion := .manifest
  unitIndex : UInt16 := 0
  fingerprint : SoundSha256Digest := zeroDigest
  expectedIdentity : SoundUpdateIdentity := {}
deriving DecidableEq, Repr

structure ReplayEntry where
  valid : Bool := false
  route : SpeakerAssetsRouteToken := {}
  requestCookie : UInt32 := 0
  requestId : UInt32 := 0
  opcode : UInt8 := 0
  region : SpeakerAssetsRegion := .manifest
  unitIndex : UInt16 := 0
  fingerprint : SoundSha256Digest := zeroDigest
  reply : SpeakerAssetsFrame := {}
deriving DecidableEq, Repr

inductive ReplayLookup where
  | miss
  | exact (reply : SpeakerAssetsFrame)
  | conflict
deriving DecidableEq, Repr

/-- `kSpeakerAssetsReplayEntries`. -/
def replayEntries : Nat := 8

structure Session where
  phase : SpeakerAssetsSessionPhase := .idle
  route : SpeakerAssetsRouteToken := {}
  routeBound : Bool := false
  sessionCookie : UInt32 := 0
  nextCookie : UInt32 := 1
  nextActionToken : UInt32 := 1
  progress : SoundUpdateProgress := {}
  progressValid : Bool := false
  partialActivityCounter : UInt32 := 0
  decodedPlan : SoundBundlePlan := {}
  planAssembler : PlanAssembler := {}
  blockAssembler : BlockAssembler := {}
  beginSawFirst : Bool := false
  beginSawLast : Bool := false
  beginReplayFromReady : Bool := false
  planActionKind : SpeakerAssetsActionKind := .begin
  unitRequestId : UInt32 := 0
  unitBaseOffset : UInt32 := 0
  unitSawFirst : Bool := false
  unitSawLast : Bool := false
  pending : PendingAction := {}
  replay : List ReplayEntry := List.replicate replayEntries {}
  nextReplaySlot : Nat := 0
deriving DecidableEq, Repr

/-- The constructor. -/
def Session.new (cookieSeed actionTokenSeed : UInt32) : Session where
  nextCookie := if cookieSeed = 0 then 1 else cookieSeed
  nextActionToken := if actionTokenSeed = 0 then 1 else actionTokenSeed

def singleFrameRequestFlags : UInt8 := flagAckRequested ||| flagFirstFragment ||| flagLastFragment
/-- `kFragmentAckBitmapMaxBytes`. -/
def fragmentAckBitmapMaxBytes : Nat := usbFrameBodyBytes - 4

/-! ## Checks of what the store reports -/

def transactionIdIsValid (transactionId : TransactionId) : Bool := transactionId.toList.any (· != 0)
def digestIsValid (digest : SoundSha256Digest) : Bool := digest.toList.any (· != 0)

def payloadBlockCount (payloadBytes : UInt32) : UInt16 :=
  if payloadBytes = 0 then 0 else ((payloadBytes + 4096 - 1) / 4096).toUInt16

def payloadBlockLength (payloadBytes : UInt32) (blockIndex : UInt16) : UInt16 :=
  let offset := blockIndex.toUInt32 * 4096
  if offset ≥ payloadBytes then 0 else (min 4096 (payloadBytes - offset)).toUInt16

def bitmapBit (bitmap : Vector UInt8 16) (bit : Nat) : Bool :=
  (getU8 bitmap.toList (bit / 8) &&& (1 <<< UInt8.ofNat (bit % 8))) != 0

def bitmapTailIsZero (progress : SoundUpdateProgress) : Bool :=
  (List.range' progress.payloadBlockCount.toNat
    (soundPayloadBlockCount - progress.payloadBlockCount.toNat)).all
    fun bit => !bitmapBit progress.payloadCompleteBitmap bit

def progressIsWellFormed (progress : SoundUpdateProgress) : Bool :=
  progress.identity.generation != 0 && transactionIdIsValid progress.identity.transactionId
    && decide (32 ≤ progress.manifestBytes.toNat ∧ progress.manifestBytes.toNat ≤ soundSectorSize)
    && decide (progress.payloadBytes.toNat ≤ soundPayloadMaxSize)
    && progress.payloadBlockCount == payloadBlockCount progress.payloadBytes
    && digestIsValid progress.bundleSha256 && bitmapTailIsZero progress

def activeSnapshotCompletionIsWellFormed (snapshot : SoundBankSnapshot) : Bool :=
  if snapshot.valid then
    snapshot.generation != 0 && snapshot.baseGeneration == snapshot.generation - 1
      && transactionIdIsValid snapshot.transactionId
      && decide (32 ≤ snapshot.manifestBytes.toNat ∧ snapshot.manifestBytes.toNat ≤ soundSectorSize)
      && decide (snapshot.payloadBytes.toNat ≤ soundPayloadMaxSize)
      && digestIsValid snapshot.manifestSha256 && digestIsValid snapshot.bundleSha256
  else
    snapshot.generation == 0 && snapshot.baseGeneration == 0 && !transactionIdIsValid snapshot.transactionId
      && snapshot.manifestBytes == 0 && snapshot.payloadBytes == 0 && !digestIsValid snapshot.manifestSha256
      && !digestIsValid snapshot.bundleSha256

def progressMatchesPlan (progress : SoundUpdateProgress) (plan : SoundBundlePlan) : Bool :=
  progressIsWellFormed progress && progress.manifestBytes == plan.manifestBytes
    && progress.payloadBytes == plan.payloadBytes && progress.bundleSha256 == plan.bundleSha256

def progressMatchesSession (candidate current : SoundUpdateProgress) : Bool :=
  progressIsWellFormed candidate && candidate.identity == current.identity
    && candidate.manifestBytes == current.manifestBytes && candidate.payloadBytes == current.payloadBytes
    && candidate.payloadBlockCount == current.payloadBlockCount &&
      candidate.bundleSha256 == current.bundleSha256

def progressDoesNotRegress (candidate current : SoundUpdateProgress) : Bool :=
  if current.manifestComplete && !candidate.manifestComplete then false
  else
    (List.zip candidate.payloadCompleteBitmap.toList current.payloadCompleteBitmap.toList).all
      fun (candidate, current) => (candidate &&& current) == current

def payloadBlockIsComplete (progress : SoundUpdateProgress) (blockIndex : UInt16) : Bool :=
  if blockIndex ≥ progress.payloadBlockCount then false
  else bitmapBit progress.payloadCompleteBitmap blockIndex.toNat

/-! ## Fingerprints -/

section Fingerprints
variable (H : Hashes)

def frameFingerprint (frame : SpeakerAssetsFrame) : SoundSha256Digest :=
  match encodeSpeakerAssetsWifiFrame H frame with
  | .ok encoded => H.sha256 encoded
  | .error _ => zeroDigest

def planFingerprint (plan : SoundBundlePlan) : SoundSha256Digest :=
  match encodeSoundBundlePlanWire H plan with
  | .ok encoded => H.sha256 encoded
  | .error _ => zeroDigest

def unitFingerprint (region : SpeakerAssetsRegion) (unitIndex : UInt16)
    (bytes : Option (List UInt8)) : SoundSha256Digest :=
  match bytes with
  | none => zeroDigest
  | some bytes =>
    if bytes = [] then zeroDigest
    else
      let identity := putU8 (List.replicate 9 0) 0 region.code
      let identity := putU16 identity 1 unitIndex
      let identity := putU32 identity 3 (UInt32.ofNat bytes.length)
      H.sha256 (magic "EIA-UNIT" ++ identity ++ bytes)

end Fingerprints

/-! ## Replies -/

def statusReply (request : SpeakerAssetsFrame) (status : SpeakerAssetsStatus) (cookie : UInt32) :
    SpeakerAssetsFrame where
  opcode := request.opcode
  flags := if status = .ok then flagResponse else flagResponse ||| flagError
  requestId := request.requestId
  sessionCookie := cookie
  objectOffset := request.objectOffset
  body := [status.code]

def fragmentReply (request : SpeakerAssetsFrame) (cookie : UInt32) (firstMissing : UInt32)
    (bitmapByteOffset : UInt16)
    (bitmap : List UInt8) : SpeakerAssetsFrame :=
  { statusReply request .ok cookie with
    objectOffset := firstMissing
    body := if bitmap.length > fragmentAckBitmapMaxBytes then [SpeakerAssetsStatus.ok.code]
      else SpeakerAssetsStatus.ok.code :: toLe 2 bitmapByteOffset.toNat ++
        UInt8.ofNat bitmap.length :: bitmap }

def capabilitiesReply (request : SpeakerAssetsFrame) : SpeakerAssetsFrame :=
  { statusReply request .ok 0 with
    body :=
      [SpeakerAssetsStatus.ok.code, 1, 0x7D, UInt8.ofNat usbFrameBodyBytes, UInt8.ofNat wifiFrameBodyBytes]
      ++ toLe 2 planWireBytes ++ toLe 2 soundPayloadBlockSize ++ [16, UInt8.ofNat replayEntries] }

def currentActiveReply (request : SpeakerAssetsFrame) (active : SoundBankSnapshot) : SpeakerAssetsFrame :=
  let generation := if active.valid then active.generation else 0
  { statusReply request .ok 0 with
    objectOffset := generation.toUInt32
    body := [SpeakerAssetsStatus.ok.code, if active.valid then active.bank.code else 0xFF]
      ++ toLe 4 (generation >>> 32).toNat
      ++ (if active.valid then active.bundleSha256 else zeroDigest).toList }

def identityReply (request : SpeakerAssetsFrame) (progress : SoundUpdateProgress) (cookie : UInt32) :
    SpeakerAssetsFrame :=
  { statusReply request .ok cookie with
    objectOffset := 0
    body :=
      [SpeakerAssetsStatus.ok.code, progress.identity.targetBank.code] ++
      toLe 2 progress.payloadBlockCount.toNat
      ++ toLe 8 progress.identity.generation.toNat ++ toLe 4 progress.manifestBytes.toNat
      ++ toLe 4 progress.payloadBytes.toNat ++ progress.identity.transactionId.toList }

def progressReply (request : SpeakerAssetsFrame) (progress : SoundUpdateProgress) (cookie : UInt32) :
    SpeakerAssetsFrame :=
  { statusReply request .ok cookie with
    objectOffset := 0
    body :=
      [SpeakerAssetsStatus.ok.code, if progress.manifestComplete then 1 else 0,
      progress.identity.targetBank.code, 16]
      ++ toLe 8 progress.identity.generation.toNat ++ toLe 4 progress.manifestBytes.toNat
      ++ toLe 4 progress.payloadBytes.toNat ++ toLe 2 progress.payloadBlockCount.toNat
      ++ progress.payloadCompleteBitmap.toList }

def outcomeReply (request : SpeakerAssetsFrame) (outcome : SpeakerAssetsTransactionOutcome)
    (identity : SoundUpdateIdentity)
    (manifestBytes payloadBytes : UInt32) : SpeakerAssetsFrame :=
  { statusReply request .ok 0 with
    objectOffset := 0
    body :=
      [SpeakerAssetsStatus.ok.code, outcome.code,
      if outcome = .unknown then 0xFF else identity.targetBank.code, 0]
      ++ toLe 8 identity.generation.toNat ++ identity.transactionId.toList ++ toLe 4 manifestBytes.toNat
      ++ toLe 4 payloadBytes.toNat }

namespace Session

/-! ## State changes -/

/-- `next_cookie` and `next_action_token`: the counter's value, skipping 0, and the counter after it. -/
def issue (next : UInt32) : UInt32 × UInt32 :=
  if next = 0 then (1, 2) else (next, if next + 1 = 0 then 1 else next + 1)

def beginPendingAction (s : Session) (kind : SpeakerAssetsActionKind) (route : SpeakerAssetsRouteToken)
    (request : SpeakerAssetsFrame) (region : SpeakerAssetsRegion) (unitIndex : UInt16)
    (fingerprint : SoundSha256Digest) :
    SpeakerAssetsActionView × Session :=
  let (token, nextActionToken) := issue s.nextActionToken
  ({ token, kind, route, requestId := request.requestId, sessionCookie := request.sessionCookie },
    { s with
      phase := .actionPending
      nextActionToken
      pending :=
        { active := true, kind, route, token, requestId := request.requestId,
          requestCookie := request.sessionCookie,
          requestOffset := request.objectOffset, opcode := request.opcode, region, unitIndex,
          fingerprint } })

def clearPendingAction (s : Session) : Session := { s with pending := {} }

/-- `note_partial_activity`, on its counter. -/
def notePartialActivity (counter : UInt32) : UInt32 :=
  if counter + 1 = 0 then counter + 1 + 1 else counter + 1

def clearPartialAssembly (s : Session) : Session :=
  { s with
    planAssembler := {}
    blockAssembler := {}
    beginSawFirst := false
    beginSawLast := false
    beginReplayFromReady := false
    planActionKind := .begin
    unitRequestId := 0
    unitBaseOffset := 0
    unitSawFirst := false
    unitSawLast := false }

def clearBinding (s : Session) : Session :=
  { s with route := {}, routeBound := false, sessionCookie := 0, progress := {}, progressValid := false }

def restoreAfterBeginAssembly (s : Session) : Session :=
  { s with
    planAssembler := {}
    beginSawFirst := false
    beginSawLast := false
    beginReplayFromReady := false
    planActionKind := .begin
    phase := if s.beginReplayFromReady && s.routeBound then .ready else .idle }

/-- The entries of the ring that carry this route, cookie and request id. -/
def sameRequest (route : SpeakerAssetsRouteToken) (requestCookie requestId : UInt32)
    (entry : ReplayEntry) : Bool :=
  entry.valid && entry.route == route && entry.requestCookie == requestCookie &&
    entry.requestId == requestId

def lookupReplay (s : Session) (route : SpeakerAssetsRouteToken) (requestCookie requestId : UInt32)
    (opcode : UInt8)
    (region : SpeakerAssetsRegion) (unitIndex : UInt16) (fingerprint : SoundSha256Digest) : ReplayLookup :=
  match s.replay.find? fun entry =>
    sameRequest route requestCookie requestId entry && entry.opcode == opcode
      && entry.region == region && entry.unitIndex == unitIndex && entry.fingerprint == fingerprint with
  | some entry => .exact entry.reply
  | none => if s.replay.any (sameRequest route requestCookie requestId) then .conflict else .miss

def clearReplayForRoute (s : Session) (route : SpeakerAssetsRouteToken) : Session :=
  { s with replay := s.replay.map fun entry => if entry.valid && entry.route == route then {} else entry }

def rememberReplay (s : Session) (pending : PendingAction) (reply : SpeakerAssetsFrame) : Session :=
  { s with
    replay := s.replay.set s.nextReplaySlot
      { valid := true, route := pending.route, requestCookie := pending.requestCookie,
        requestId := pending.requestId,
        opcode := pending.opcode, region := pending.region, unitIndex := pending.unitIndex,
        fingerprint := pending.fingerprint, reply }
    nextReplaySlot := (s.nextReplaySlot + 1) % replayEntries }

/-! ## Frames -/

section Consume
variable (H : Hashes)

/-- What a handler returns: its emission and the session after it. -/
abbrev Handled := SpeakerAssetsEmission × Session

def answer (s : Session) (frame : SpeakerAssetsFrame) (status : SpeakerAssetsStatus)
    (cookie : UInt32) : Handled :=
  (.reply (statusReply frame status cookie), s)

def hasFlag (frame : SpeakerAssetsFrame) (flag : UInt8) : Bool := frame.flags &&& flag != 0

def consumeCapabilities (s : Session) (frame : SpeakerAssetsFrame) : Handled :=
  if frame.flags ≠ singleFrameRequestFlags ∨ frame.sessionCookie ≠ 0 ∨ frame.objectOffset ≠ 0 ∨
    frame.body ≠ [] then
    s.answer frame .badRequest 0
  else (.reply (capabilitiesReply frame), s)

def consumeCurrentActive (s : Session) (route : SpeakerAssetsRouteToken)
    (frame : SpeakerAssetsFrame) : Handled :=
  if frame.flags ≠ singleFrameRequestFlags ∨ frame.sessionCookie ≠ 0 ∨ frame.objectOffset ≠ 0 ∨
    frame.body ≠ [] then
    s.answer frame .badRequest 0
  else
    let fingerprint := frameFingerprint H frame
    match s.lookupReplay route 0 frame.requestId frame.opcode .manifest 0 fingerprint with
    | .exact reply => (.reply reply, s)
    | .conflict => s.answer frame .integrityError 0
    | .miss =>
      if s.phase ≠ .idle ∨ s.routeBound ∨ s.planAssembler.bound then s.answer frame .busy 0
      else
        let (action, s) := s.beginPendingAction .queryCurrentActive route frame .manifest 0 fingerprint
        (.action action, s)

/-- The checks on one fragment of a plan. -/
def planFrameIsValid (frame : SpeakerAssetsFrame) : Bool :=
  let allowedFlags := flagAckRequested ||| flagFirstFragment ||| flagLastFragment
  let finish := frame.objectOffset.toNat + frame.body.length
  let boundaryFlagsValid := hasFlag frame flagFirstFragment == (frame.objectOffset == 0)
    && hasFlag frame flagLastFragment == decide (finish = planWireBytes)
  !(frame.flags &&& ~~~allowedFlags != 0 || !hasFlag frame flagAckRequested || frame.sessionCookie != 0
    || frame.body.isEmpty || decide (frame.objectOffset.toNat ≥ planWireBytes) ||
      decide (finish > planWireBytes)
    || !boundaryFlagsValid)

/-- The phases a plan fragment may arrive in: `none` goes on, a status is the reply. -/
def openPlanAssembly (s : Session) (route : SpeakerAssetsRouteToken) (frame : SpeakerAssetsFrame)
    (kind : SpeakerAssetsActionKind) : Option SpeakerAssetsStatus × Session :=
  match s.phase with
  | .idle =>
    if !hasFlag frame flagFirstFragment then (some .badRequest, s)
    else match s.planAssembler.begin route frame.requestId with
      | .error _ => (some .busy, s)
      | .ok planAssembler =>
        (none,
          { s with
            planAssembler, phase := .beginAssembly, beginReplayFromReady := false, planActionKind := kind })
  | .ready =>
    if kind ≠ .begin then (some .busy, s)
    else if !s.routeBound || s.route != route || !hasFlag frame flagFirstFragment then (some .busy, s)
    else match ({} : PlanAssembler).begin route frame.requestId with
      | .error _ => (some .busy, { s with planAssembler := {} })
      | .ok planAssembler =>
        (none,
          { s with
            planAssembler, phase := .beginAssembly, beginReplayFromReady := true, planActionKind := kind })
  | .beginAssembly => if s.planActionKind ≠ kind then (some .busy, s) else (none, s)
  | .unitAssembly | .actionPending => (some .busy, s)

/-- A plan whose last byte has arrived. -/
def finishPlan (s : Session) (route : SpeakerAssetsRouteToken) (frame : SpeakerAssetsFrame)
    (kind : SpeakerAssetsActionKind) : Handled :=
  match s.planAssembler.decode H with
  | .error _ => s.restoreAfterBeginAssembly.answer frame .integrityError 0
  | .ok plan =>
    let s := { s with decodedPlan := plan }
    let fingerprint := planFingerprint H plan
    match s.lookupReplay route 0 frame.requestId frame.opcode .manifest 0 fingerprint with
    | .exact reply => (.reply reply, s.restoreAfterBeginAssembly)
    | .conflict => s.restoreAfterBeginAssembly.answer frame .integrityError 0
    | .miss =>
      if s.beginReplayFromReady then s.restoreAfterBeginAssembly.answer frame .integrityError 0
      else
        let (action, s) := s.beginPendingAction kind route frame .manifest 0 fingerprint
        (.action { action with plan := some s.decodedPlan },
          { s with
            planAssembler := {}, beginSawFirst := false, beginSawLast := false, planActionKind := .begin })

/-- The progress reply to a fragment: the bitmap from the byte of the first missing position on. -/
def missingReply (s : Session) (frame : SpeakerAssetsFrame) (cookie : UInt32) (cells : Cells UInt8)
    (base : UInt32)
    (missing totalBitmapBytes : Nat) : Handled :=
  let bitmapOffset := missing / 8
  let remaining := if bitmapOffset < totalBitmapBytes then totalBitmapBytes - bitmapOffset else 0
  match copyReceivedBitmap cells totalBitmapBytes bitmapOffset
    (min fragmentAckBitmapMaxBytes remaining) with
  | none => s.answer frame .internalError cookie
  | some bitmap =>
    (.reply
      (fragmentReply frame cookie (base + UInt32.ofNat missing) (UInt16.ofNat bitmapOffset) bitmap), s)

/-- A fragment of the plan was accepted. -/
def acceptedPlan (s : Session) (frame : SpeakerAssetsFrame) (planAssembler : PlanAssembler) : Session :=
  let hasFirst := hasFlag frame flagFirstFragment
  let hasLast := hasFlag frame flagLastFragment
  let madeProgress := decide (planAssembler.receivedBytes > s.planAssembler.receivedBytes)
    || (hasFirst && !s.beginSawFirst) || (hasLast && !s.beginSawLast)
  { s with
    planAssembler
    partialActivityCounter := if madeProgress then notePartialActivity s.partialActivityCounter else
      s.partialActivityCounter
    beginSawFirst := s.beginSawFirst || hasFirst
    beginSawLast := s.beginSawLast || hasLast }

def feedPlan (s : Session) (route : SpeakerAssetsRouteToken) (frame : SpeakerAssetsFrame)
    (kind : SpeakerAssetsActionKind) :
    Handled :=
  match s.planAssembler.acceptFragment route frame.requestId frame.objectOffset.toUInt16 frame.body with
  | .error e => s.answer frame (if e = .conflict then .integrityError else .badRequest) 0
  | .ok planAssembler =>
    let s := s.acceptedPlan frame planAssembler
    if !s.planAssembler.complete || !s.beginSawFirst || !s.beginSawLast then
      s.missingReply frame 0 s.planAssembler.cells 0 s.planAssembler.firstMissingOffset (planWireBytes / 8)
    else s.finishPlan H route frame kind

def consumePlanAction (s : Session) (route : SpeakerAssetsRouteToken) (frame : SpeakerAssetsFrame)
    (kind : SpeakerAssetsActionKind) : Handled :=
  if kind ≠ .begin ∧ kind ≠ .discardInvalidStaging then s.answer frame .badRequest 0
  else if !planFrameIsValid frame then s.answer frame .badRequest 0
  else match s.openPlanAssembly route frame kind with
    | (some status, s) => s.answer frame status 0
    | (none, s) => s.feedPlan H route frame kind

def consumeResume (s : Session) (route : SpeakerAssetsRouteToken) (frame : SpeakerAssetsFrame) : Handled :=
  if frame.flags ≠ singleFrameRequestFlags ∨ frame.sessionCookie ≠ 0 ∨ frame.objectOffset ≠ 0 ∨
    frame.body.length ≠ 16 then
    s.answer frame .badRequest 0
  else
    let expected : SoundUpdateIdentity := { transactionId := bytesAt frame.body 0 16 }
    if !transactionIdIsValid expected.transactionId then s.answer frame .badRequest 0
    else
      let fingerprint := frameFingerprint H frame
      match s.lookupReplay route 0 frame.requestId frame.opcode .manifest 0 fingerprint with
      | .exact reply => (.reply reply, s)
      | .conflict => s.answer frame .integrityError 0
      | .miss =>
        if s.phase ≠ .idle then s.answer frame .busy 0
        else
          let (action, s) := s.beginPendingAction .resumeQuery route frame .manifest 0 fingerprint
          (.action { action with expectedIdentity := expected, queryMode := .resumeOrRebind },
            { s with pending := { s.pending with expectedIdentity := expected } })

/-- The unit a data frame is part of: its index, base offset, length and the frame's offset in it. -/
structure DataUnit where
  region : SpeakerAssetsRegion
  unitIndex : UInt16
  unitBase : UInt32
  expectedBytes : UInt16
  unitOffset : UInt16
deriving DecidableEq, Repr

def dataUnit (progress : SoundUpdateProgress) (frame : SpeakerAssetsFrame) : Option DataUnit :=
  if hasFlag frame flagPayloadRegion then
    if frame.objectOffset ≥ progress.payloadBytes then none
    else
      let unitIndex := (frame.objectOffset / 4096).toUInt16
      let unitBase := unitIndex.toUInt32 * 4096
      some
        { region := .payload, unitIndex, unitBase,
          expectedBytes := payloadBlockLength progress.payloadBytes unitIndex,
          unitOffset := (frame.objectOffset - unitBase).toUInt16 }
  else if frame.objectOffset ≥ progress.manifestBytes then none
  else
    some
      { region := .manifest, unitIndex := 0, unitBase := 0,
        expectedBytes := progress.manifestBytes.toUInt16,
        unitOffset := frame.objectOffset.toUInt16 }

/-- The checks on one data frame within its unit. -/
def dataFrameIsValid (frame : SpeakerAssetsFrame) (unit : DataUnit) : Bool :=
  let unitEnd := unit.unitOffset.toNat + frame.body.length
  !(unit.expectedBytes == 0 || decide (unitEnd > unit.expectedBytes.toNat)
    || hasFlag frame flagFirstFragment != (unit.unitOffset == 0)
    || hasFlag frame flagLastFragment != decide (unitEnd = unit.expectedBytes.toNat))

/-- Opens the unit in `Ready`; in `UnitAssembly` the frame has to be of the open one. -/
def openUnit (s : Session) (frame : SpeakerAssetsFrame) (unit : DataUnit) :
    Option SpeakerAssetsStatus × Session :=
  if s.phase = .ready then
    if !hasFlag frame flagFirstFragment then (some .badRequest, s)
    else match BlockAssembler.begin unit.region unit.unitIndex unit.expectedBytes with
      | .error _ => (some .badRequest, s)
      | .ok blockAssembler =>
        (none,
          { s with
            blockAssembler
            phase := .unitAssembly
            unitRequestId := frame.requestId
            unitBaseOffset := unit.unitBase
            unitSawFirst := false
            unitSawLast := false })
  else if s.unitRequestId ≠ frame.requestId ∨ s.blockAssembler.region ≠ unit.region
      ∨ s.blockAssembler.unitIndex ≠ unit.unitIndex then (some .busy, s)
  else (none, s)

def finishUnit (s : Session) (route : SpeakerAssetsRouteToken) (frame : SpeakerAssetsFrame)
    (unit : DataUnit) : Handled :=
  let bytes := s.blockAssembler.data
  let fingerprint := unitFingerprint H unit.region unit.unitIndex bytes
  match s.lookupReplay route s.sessionCookie frame.requestId frame.opcode unit.region unit.unitIndex
    fingerprint with
  | .exact reply => (.reply reply, { s with blockAssembler := {}, phase := .ready })
  | .conflict =>
    ({ s with blockAssembler := {}, phase := .ready } : Session).answer frame .integrityError
      s.sessionCookie
  | .miss =>
    let kind := if unit.region = .manifest then .writeManifest else .writePayloadBlock
    let (action, s) := s.beginPendingAction kind route frame unit.region unit.unitIndex fingerprint
    (.action
        { action with
          expectedIdentity := s.progress.identity, bytes, length := s.blockAssembler.expectedBytes,
          blockIndex := unit.unitIndex },
      { s with pending := { s.pending with expectedIdentity := s.progress.identity } })

/-- A fragment of the unit was accepted. -/
def acceptedUnit (s : Session) (frame : SpeakerAssetsFrame) (blockAssembler : BlockAssembler) : Session :=
  let hasFirst := hasFlag frame flagFirstFragment
  let hasLast := hasFlag frame flagLastFragment
  let madeProgress := decide (blockAssembler.receivedBytes > s.blockAssembler.receivedBytes)
    || (hasFirst && !s.unitSawFirst) || (hasLast && !s.unitSawLast)
  { s with
    blockAssembler
    partialActivityCounter := if madeProgress then notePartialActivity s.partialActivityCounter else
      s.partialActivityCounter
    unitSawFirst := s.unitSawFirst || hasFirst
    unitSawLast := s.unitSawLast || hasLast }

def feedUnit (s : Session) (route : SpeakerAssetsRouteToken) (frame : SpeakerAssetsFrame)
    (unit : DataUnit) : Handled :=
  match s.blockAssembler.acceptFragment unit.region unit.unitIndex unit.unitOffset frame.body with
  | .error e => s.answer frame (if e = .conflict then .integrityError else .badRequest) s.sessionCookie
  | .ok blockAssembler =>
    let s := s.acceptedUnit frame blockAssembler
    if !s.blockAssembler.complete || !s.unitSawFirst || !s.unitSawLast then
      s.missingReply frame s.sessionCookie s.blockAssembler.cells s.unitBaseOffset
        s.blockAssembler.firstMissingOffset
        ((s.blockAssembler.expectedBytes.toNat + 7) / 8)
    else s.finishUnit H route frame unit

def consumeData (s : Session) (route : SpeakerAssetsRouteToken) (frame : SpeakerAssetsFrame) : Handled :=
  let allowedFlags := flagAckRequested ||| flagFirstFragment ||| flagLastFragment ||| flagPayloadRegion
  if frame.flags &&& ~~~allowedFlags ≠ 0 ∨ !hasFlag frame flagAckRequested ∨ frame.body = [] ∨ !s.routeBound
      ∨ s.route ≠ route ∨ frame.sessionCookie ≠ s.sessionCookie ∨ !s.progressValid
      ∨ (s.phase ≠ .ready ∧ s.phase ≠ .unitAssembly) then
    s.answer frame
      (if s.routeBound ∧ s.route = route ∧ frame.sessionCookie = s.sessionCookie then .badRequest
        else .transactionMismatch)
      frame.sessionCookie
  else match dataUnit s.progress frame with
    | none => s.answer frame .badRequest s.sessionCookie
    | some unit =>
      if !dataFrameIsValid frame unit then s.answer frame .badRequest s.sessionCookie
      else match s.openUnit frame unit with
        | (some status, s) => s.answer frame status s.sessionCookie
        | (none, s) => s.feedUnit H route frame unit

def consumeQuery (s : Session) (route : SpeakerAssetsRouteToken) (frame : SpeakerAssetsFrame) : Handled :=
  if frame.flags ≠ singleFrameRequestFlags ∨ frame.objectOffset ≠ 0 ∨ frame.body ≠ [] then
    s.answer frame .badRequest frame.sessionCookie
  else
    let fingerprint := frameFingerprint H frame
    match s.lookupReplay route frame.sessionCookie frame.requestId frame.opcode .manifest 0 fingerprint with
    | .exact reply => (.reply reply, s)
    | .conflict => s.answer frame .integrityError frame.sessionCookie
    | .miss =>
      if s.phase ≠ .ready ∨ !s.routeBound ∨ s.route ≠ route ∨ frame.sessionCookie ≠ s.sessionCookie then
        s.answer frame .transactionMismatch frame.sessionCookie
      else
        let (action, s) := s.beginPendingAction .resumeQuery route frame .manifest 0 fingerprint
        (.action { action with expectedIdentity := s.progress.identity, queryMode := .currentProgress },
          { s with pending := { s.pending with expectedIdentity := s.progress.identity } })

def consumeTerminalAction (s : Session) (route : SpeakerAssetsRouteToken) (frame : SpeakerAssetsFrame)
    (kind : SpeakerAssetsActionKind) : Handled :=
  if frame.flags ≠ singleFrameRequestFlags ∨ frame.objectOffset ≠ 0 ∨ frame.body ≠ [] then
    s.answer frame .badRequest frame.sessionCookie
  else
    let fingerprint := frameFingerprint H frame
    match s.lookupReplay route frame.sessionCookie frame.requestId frame.opcode .manifest 0 fingerprint with
    | .exact reply => (.reply reply, s)
    | .conflict => s.answer frame .integrityError frame.sessionCookie
    | .miss =>
      if s.phase ≠ .ready ∨ !s.routeBound ∨ s.route ≠ route ∨ frame.sessionCookie ≠ s.sessionCookie then
        s.answer frame .transactionMismatch frame.sessionCookie
      else
        let (action, s) := s.beginPendingAction kind route frame .manifest 0 fingerprint
        (.action { action with expectedIdentity := s.progress.identity },
          { s with pending := { s.pending with expectedIdentity := s.progress.identity } })

/-- `route_is_valid` of the session. -/
def sessionRouteIsValid (route : SpeakerAssetsRouteToken) : Bool :=
  if route.generation = 0 then false
  else if route.transport = .usb then route.routeId == 0
  else route.transport == .wifi

/-- The `switch` over the opcodes. -/
def dispatch (s : Session) (route : SpeakerAssetsRouteToken) (frame : SpeakerAssetsFrame) : Handled :=
  match SpeakerAssetsOpcode.ofByte frame.opcode with
  | some .begin => s.consumePlanAction H route frame .begin
  | some .resume => s.consumeResume H route frame
  | some .data => s.consumeData H route frame
  | some .query => s.consumeQuery H route frame
  | some .commit => s.consumeTerminalAction H route frame .commit
  | some .abort => s.consumeTerminalAction H route frame .abort
  | some .recoverInvalidStaging => s.consumePlanAction H route frame .discardInvalidStaging
  | some .currentActive => s.consumeCurrentActive H route frame
  | some .capabilities | none => s.answer frame .badRequest frame.sessionCookie

def consume (s : Session) (route : SpeakerAssetsRouteToken) (frame : SpeakerAssetsFrame) :
    SpeakerAssetsSessionResult × Handled :=
  if !sessionRouteIsValid route ∨ frame.requestId = 0 ∨ frame.body.length > wifiFrameBodyBytes then
    (.invalidArgument, .none, s)
  else if frame.flags &&& ~~~knownFlags ≠ 0 ∨ frame.flags &&& (flagResponse ||| flagError) ≠ 0 then
    (.ok, s.answer frame .badRequest frame.sessionCookie)
  else if SpeakerAssetsOpcode.ofByte frame.opcode = some .capabilities then
    (.ok, s.consumeCapabilities frame)
  else if s.phase = .actionPending then (.ok, s.answer frame .busy frame.sessionCookie)
  else (.ok, s.dispatch H route frame)

end Consume

/-! ## Completions -/

/-- `completion_contract_valid`, for a completion with result `Ok`. -/
def completionContract (s : Session) (finished : PendingAction)
    (completion : SpeakerAssetsActionCompletion) : Bool :=
  match finished.kind with
  | .begin =>
    completion.identityValid && completion.progressValid &&
      completion.identity == completion.progress.identity
      && progressMatchesPlan completion.progress s.decodedPlan
  | .queryCurrentActive =>
    completion.currentActiveValid && activeSnapshotCompletionIsWellFormed completion.currentActive
      && !completion.identityValid && !completion.progressValid && !completion.outcomeValid
  | .resumeQuery =>
    completion.outcomeValid && completion.identityValid
      && completion.identity.transactionId == finished.expectedIdentity.transactionId
      && match completion.outcome with
        | .active =>
          completion.progressValid && completion.identity == completion.progress.identity
            && if finished.requestCookie = 0 then progressIsWellFormed completion.progress
              else s.progressValid && progressMatchesSession completion.progress s.progress
                && progressDoesNotRegress completion.progress s.progress
        | .committed =>
          finished.requestCookie == 0 && !completion.progressValid && completion.identity.generation != 0
            && decide (32 ≤ completion.outcomeManifestBytes.toNat ∧
              completion.outcomeManifestBytes.toNat ≤ soundSectorSize)
            && decide (completion.outcomePayloadBytes.toNat ≤ soundPayloadMaxSize)
        | .unknown =>
          finished.requestCookie == 0 && !completion.progressValid && completion.identity.generation == 0
            && completion.outcomeManifestBytes == 0 && completion.outcomePayloadBytes == 0
  | .writeManifest =>
    completion.progressValid && s.progressValid && progressMatchesSession completion.progress s.progress
      && progressDoesNotRegress completion.progress s.progress && completion.progress.manifestComplete
  | .writePayloadBlock =>
    completion.progressValid && s.progressValid && progressMatchesSession completion.progress s.progress
      && progressDoesNotRegress completion.progress s.progress
      && payloadBlockIsComplete completion.progress finished.unitIndex
  | .discardInvalidStaging | .commit | .abort => true

/-- The request a reply to the pending action echoes. -/
def PendingRequest (finished : PendingAction) : SpeakerAssetsFrame where
  opcode := finished.opcode
  requestId := finished.requestId
  sessionCookie := finished.requestCookie
  objectOffset := finished.requestOffset

/-- Emits and remembers a reply. -/
def remembering (s : Session) (finished : PendingAction) (reply : SpeakerAssetsFrame) : Handled :=
  (.reply reply, s.rememberReplay finished reply)

/-- Back to `Idle` with nothing bound or half assembled. -/
def reset (s : Session) : Session := { s.clearPartialAssembly.clearBinding with phase := .idle }

/-- The final `switch` of `complete`, for a completion that keeps the contract. -/
def completed (s : Session) (finished : PendingAction)
    (completion : SpeakerAssetsActionCompletion) : Handled :=
  let request := PendingRequest finished
  match finished.kind with
  | .begin =>
    let (cookie, nextCookie) := issue s.nextCookie
    let s :=
      { s with
        progress := completion.progress, progressValid := true, route := finished.route, routeBound := true,
        sessionCookie := cookie, nextCookie, phase := .ready }
    s.remembering finished (identityReply request s.progress cookie)
  | .discardInvalidStaging =>
    let (emission, s) := s.remembering finished (statusReply request .ok 0)
    (emission, s.reset)
  | .queryCurrentActive =>
    let (emission, s) := s.remembering finished (currentActiveReply request completion.currentActive)
    (emission, s.reset)
  | .resumeQuery =>
    if completion.outcome ≠ .active then
      let (emission, s) :=
        s.remembering finished (outcomeReply request completion.outcome completion.identity
        completion.outcomeManifestBytes completion.outcomePayloadBytes)
      (emission, s.reset)
    else if finished.requestCookie = 0 then
      let (cookie, nextCookie) := issue s.nextCookie
      let s :=
        { s with
          progress := completion.progress, progressValid := true, route := finished.route,
          routeBound := true,
          sessionCookie := cookie, nextCookie, phase := .ready }
      s.remembering finished (identityReply request s.progress cookie)
    else
      let s := { s with progress := completion.progress, progressValid := true, phase := .ready }
      s.remembering finished (progressReply request s.progress s.sessionCookie)
  | .writeManifest | .writePayloadBlock =>
    let s := { s with progress := completion.progress, progressValid := true, phase := .ready }
    let (emission, s) := s.remembering finished (progressReply request s.progress s.sessionCookie)
    (emission, { s with blockAssembler := {} })
  | .commit | .abort =>
    let (emission, s) := s.remembering finished (statusReply request .ok s.sessionCookie)
    (emission, s.reset)

/-- The reply and the phase after a completion with an error. -/
def completedWithError (s : Session) (finished : PendingAction) (result : SoundStoreResult) : Handled :=
  let reply := statusReply (PendingRequest finished) (statusFromStoreResult result) finished.requestCookie
  match finished.kind with
  | .begin | .discardInvalidStaging | .queryCurrentActive =>
    (.reply reply, { s.clearBinding with phase := .idle })
  | .resumeQuery =>
    if finished.requestCookie ≠ 0 then (.reply reply, { s with phase := .ready })
    else (.reply reply, { s.clearBinding with phase := .idle })
  | .writeManifest | .writePayloadBlock => (.reply reply, { s with phase := .ready, blockAssembler := {} })
  | .commit | .abort => (.reply reply, { s with phase := .ready })

def complete (s : Session) (completion : SpeakerAssetsActionCompletion) :
    SpeakerAssetsSessionResult × Handled :=
  if s.pending.active = false then (.noPendingAction, .none, s)
  else if completion.token ≠ s.pending.token ∨ completion.kind ≠ s.pending.kind then
    (.staleCompletion, .none, s)
  else
    let finished := s.pending
    if finished.orphaned then (.ok, .none, s.clearPendingAction.reset)
    else if completion.result ≠ .ok then
      let (emission, s) := s.completedWithError finished completion.result
      (.ok, emission, s.clearPendingAction)
    else if !s.completionContract finished completion then
      (.ok, .reply (statusReply (PendingRequest finished) .internalError finished.requestCookie),
        s.clearPendingAction.reset)
    else
      let (emission, s) := s.completed finished completion
      (.ok, emission, s.clearPendingAction)

/-! ## Closes and expiry -/

/-- Whether the pending action borrows the bytes of the block assembler. -/
def PendingAction.borrowsBytes (pending : PendingAction) : Bool :=
  pending.kind == .writeManifest || pending.kind == .writePayloadBlock

def routeClosed (s : Session) (route : SpeakerAssetsRouteToken) : Session :=
  let s := s.clearReplayForRoute route
  let ownsBinding := s.routeBound && s.route == route
  let ownsBegin := s.planAssembler.bound && s.planAssembler.owner == route
  let ownsPending := s.pending.active && s.pending.route == route
  if !ownsBinding && !ownsBegin && !ownsPending then s
  else if ownsPending then
    let s := { s with pending := { s.pending with orphaned := true } }
    let s := if PendingAction.borrowsBytes s.pending then s
      else { s with planAssembler := {}, beginSawFirst := false, beginSawLast := false }
    s.clearBinding
  else s.reset

def allRoutesClosed (s : Session) : Session :=
  let s := { s with replay := List.replicate replayEntries {}, nextReplaySlot := 0 }
  if s.pending.active then
    let s := { s with pending := { s.pending with orphaned := true } }
    let s := if PendingAction.borrowsBytes s.pending then s else s.clearPartialAssembly
    s.clearBinding
  else s.reset

def expirePartial (s : Session) (route : SpeakerAssetsRouteToken) : Bool × Session :=
  if s.phase = .beginAssembly ∧ s.planAssembler.bound ∧ s.planAssembler.owner = route then
    (true, s.restoreAfterBeginAssembly)
  else if s.phase = .unitAssembly ∧ s.routeBound ∧ s.route = route then
    (true,
      { s with
        blockAssembler := {}, unitRequestId := 0, unitBaseOffset := 0, unitSawFirst := false,
        unitSawLast := false,
        phase := .ready })
  else (false, s)

end Session

end CodexKeyboard.Assets
