import CodexKeyboard.Assets.Types
import CodexKeyboard.Lib.Reassembly
import CodexKeyboard.Lib.Transaction
/-!
# The speaker asset protocol

Frames and plans as bytes, and the two assemblers that put fragments together
(`src/firmware/features/speaker_assets/speaker_assets_protocol.cpp`).

| here | there |
| --- | --- |
| `encodeSpeakerAssetsUsbFrame`, `encodeSpeakerAssetsWifiFrame` | `encode_frame_prefix` (156), 256, 294 |
| `decodeSpeakerAssetsUsbFrame`, `decodeSpeakerAssetsWifiFrame` | `decode_frame_prefix` (185), 277, 315 |
| `soundBundlePlanShapeIsValid` | `sound_bundle_plan_shape_is_valid` (100) |
| `encodeSoundBundlePlanWire`, `decodeSoundBundlePlanWire` | 331, 372 |
| `PlanAssembler` | `SpeakerAssetsPlanAssembler` (429-569) |
| `BlockAssembler` | `SpeakerAssetsBlockAssembler` (571-697) |

An assembler's `bytes_`, `received_` and `received_bytes_` are one list of cells: a byte that has
not been received is zero in the source, and the count is that of the marked bytes.
-/

namespace CodexKeyboard.Assets

open Lib Buffer Reassembly

inductive SpeakerAssetsProtocolResult where
  | ok
  | invalidArgument
  | invalidLength
  | invalidMagic
  | unsupportedVersion
  | invalidFlags
  | invalidRequestId
  | invalidBodyLength
  | nonZeroPadding
  | crcMismatch
  | invalidPlan
  | incomplete
  | conflict
  | outOfBounds
  | wrongUnit
  | wrongOwner
deriving DecidableEq, Repr

def flagResponse : UInt8 := 0x01
def flagError : UInt8 := 0x02
def flagAckRequested : UInt8 := 0x04
def flagFirstFragment : UInt8 := 0x08
def flagLastFragment : UInt8 := 0x10
def flagPayloadRegion : UInt8 := 0x20
def knownFlags : UInt8 :=
  flagResponse ||| flagError ||| flagAckRequested ||| flagFirstFragment ||| flagLastFragment |||
    flagPayloadRegion

def frameHeaderBytes : Nat := 24
def wifiFrameBodyBytes : Nat := 101
def usbFrameBodyBytes : Nat := 39
def usbFrameBytes : Nat := 63
def wifiFrameMaxBytes : Nat := 125
def planWireBytes : Nat := 640

/-- The ASCII bytes of a magic. -/
def magic (text : String) : List UInt8 := text.toList.map fun c => UInt8.ofNat c.toNat

def routeIsValid (route : SpeakerAssetsRouteToken) : Bool :=
  (route.transport == .usb || route.transport == .wifi) && route.generation != 0
    && (route.transport != .usb || route.routeId == 0)

/-! ## Frames -/

def validateFrameForEncoding (frame : SpeakerAssetsFrame) (maximumBodyBytes : Nat) :
    Except SpeakerAssetsProtocolResult Unit :=
  if frame.requestId = 0 then .error .invalidRequestId
  else if frame.body.length > maximumBodyBytes then .error .invalidBodyLength
  else if frame.flags &&& ~~~knownFlags ≠ 0 ∨ (frame.flags &&& flagError ≠ 0 ∧
    frame.flags &&& flagResponse = 0)
      ∨ (frame.flags &&& flagResponse ≠ 0 ∧ frame.flags &&& flagAckRequested ≠ 0) then .error .invalidFlags
  else .ok ()

def encodeFramePrefix (frame : SpeakerAssetsFrame) : List UInt8 :=
  let encoded := List.replicate (frameHeaderBytes + frame.body.length) 0
  let encoded := put encoded 0 (magic "EIA")
  let encoded := putU8 encoded 3 1
  let encoded := putU8 encoded 4 frame.opcode
  let encoded := putU8 encoded 5 frame.flags
  let encoded := putU16 encoded 6 (UInt16.ofNat frame.body.length)
  let encoded := putU32 encoded 8 frame.requestId
  let encoded := putU32 encoded 12 frame.sessionCookie
  let encoded := putU32 encoded 16 frame.objectOffset
  put encoded frameHeaderBytes frame.body

def encodeSpeakerAssetsUsbFrame (H : Hashes) (frame : SpeakerAssetsFrame) :
    Except SpeakerAssetsProtocolResult (List UInt8) := do
  validateFrameForEncoding frame usbFrameBodyBytes
  let encoded := encodeFramePrefix frame
  -- the frame is filled up with zeros, which the checksum leaves out
  return putU32 (encoded ++ List.replicate (usbFrameBytes - encoded.length) 0) 20 (H.crc32 encoded)

def encodeSpeakerAssetsWifiFrame (H : Hashes) (frame : SpeakerAssetsFrame) :
    Except SpeakerAssetsProtocolResult (List UInt8) := do
  validateFrameForEncoding frame wifiFrameBodyBytes
  let encoded := encodeFramePrefix frame
  return putU32 encoded 20 (H.crc32 encoded)

def decodeFramePrefix (H : Hashes) (encoded : List UInt8) (maximumBodyBytes : Nat)
    (fixedSizeWithPadding : Bool) :
    Except SpeakerAssetsProtocolResult SpeakerAssetsFrame :=
  let flags := getU8 encoded 5
  let bodyLength := (getU16 encoded 6).toNat
  let exactLength := frameHeaderBytes + bodyLength
  if encoded.length < frameHeaderBytes then .error .invalidLength
  else if slice encoded 0 3 ≠ magic "EIA" then .error .invalidMagic
  else if getU8 encoded 3 ≠ 1 then .error .unsupportedVersion
  else if flags &&& ~~~knownFlags ≠ 0 ∨ (flags &&& flagError ≠ 0 ∧ flags &&& flagResponse = 0)
      ∨ (flags &&& flagResponse ≠ 0 ∧ flags &&& flagAckRequested ≠ 0) then .error .invalidFlags
  else if bodyLength > maximumBodyBytes then .error .invalidBodyLength
  else if (fixedSizeWithPadding = false ∧ encoded.length ≠ exactLength)
      ∨ (fixedSizeWithPadding = true ∧ encoded.length < exactLength) then .error .invalidLength
  else if fixedSizeWithPadding = true ∧ (encoded.drop exactLength).any (· != 0) then .error .nonZeroPadding
  else if getU32 encoded 8 = 0 then .error .invalidRequestId
  -- the checksum is over the frame with its own field zeroed
  else if H.crc32 (putU32 (encoded.take exactLength) 20 0) ≠ getU32 encoded 20 then .error .crcMismatch
  else
    .ok
      { opcode := getU8 encoded 4, flags, requestId := getU32 encoded 8, sessionCookie := getU32 encoded 12,
        objectOffset := getU32 encoded 16, body := slice encoded frameHeaderBytes bodyLength }

def decodeSpeakerAssetsUsbFrame (H : Hashes) (encoded : List UInt8) :
    Except SpeakerAssetsProtocolResult SpeakerAssetsFrame :=
  if encoded.length ≠ usbFrameBytes then .error .invalidLength
  else decodeFramePrefix H encoded usbFrameBodyBytes true

def decodeSpeakerAssetsWifiFrame (H : Hashes) (encoded : List UInt8) :
    Except SpeakerAssetsProtocolResult SpeakerAssetsFrame :=
  if encoded.length > wifiFrameMaxBytes then .error .invalidLength
  else decodeFramePrefix H encoded wifiFrameBodyBytes false

/-! ## Plans -/

def digestIsZero (digest : SoundSha256Digest) : Bool := digest.toList.all (· == 0)

def planPayloadBlockCount (payloadBytes : UInt32) : Nat :=
  if payloadBytes = 0 then 0 else (payloadBytes.toNat + soundPayloadBlockSize - 1) / soundPayloadBlockSize

def soundBundlePlanShapeIsValid (plan : SoundBundlePlan) : Bool :=
  if plan.manifestBytes.toNat < 32 ∨ plan.manifestBytes.toNat > soundSectorSize
      ∨ plan.payloadBytes.toNat > soundPayloadMaxSize ∨ digestIsZero plan.manifestSha256
      ∨ digestIsZero plan.bundleSha256 then false
  else if (plan.baseGeneration == 0) != digestIsZero plan.baseBundleSha256 then false
  else
    let blockCount := planPayloadBlockCount plan.payloadBytes
    if blockCount > 128 then false
    else (plan.payloadBlockCrc32.toList.drop blockCount).all (· == 0)

def encodeSoundBundlePlanWire (H : Hashes) (plan : SoundBundlePlan) :
    Except SpeakerAssetsProtocolResult (List UInt8) :=
  if soundBundlePlanShapeIsValid plan then
    let encoded := List.replicate planWireBytes 0
    let encoded := put encoded 0 (magic "EIBP")
    let encoded := putU16 encoded 4 1
    let encoded := putU16 encoded 6 640
    let encoded := putU64 encoded 8 plan.baseGeneration
    let encoded := put encoded 16 plan.baseBundleSha256.toList
    let encoded := putU32 encoded 48 plan.manifestBytes
    let encoded := putU32 encoded 52 plan.payloadBytes
    let encoded := putU32 encoded 56 plan.manifestCrc32
    let encoded := put encoded 60 plan.manifestSha256.toList
    let encoded := put encoded 92 plan.bundleSha256.toList
    let encoded := put encoded 124 (plan.payloadBlockCrc32.toList.flatMap fun crc => toLe 4 crc.toNat)
    .ok (putU32 encoded 636 (H.crc32 (encoded.take 636)))
  else .error .invalidPlan

/-- The `n` bytes at an offset as an array. -/
def bytesAt (encoded : List UInt8) (offset n : Nat) : Vector UInt8 n :=
  Vector.ofFn fun i => getU8 encoded (offset + i.val)

def decodeSoundBundlePlanWire (H : Hashes) (encoded : List UInt8) :
    Except SpeakerAssetsProtocolResult SoundBundlePlan :=
  if encoded.length ≠ planWireBytes then .error .invalidLength
  else if slice encoded 0 4 ≠ magic "EIBP" then .error .invalidMagic
  else if getU16 encoded 4 ≠ 1 then .error .unsupportedVersion
  else if getU16 encoded 6 ≠ 640 then .error .invalidLength
  else if H.crc32 (encoded.take 636) ≠ getU32 encoded 636 then .error .crcMismatch
  else
    let decoded : SoundBundlePlan :=
      { baseGeneration := getU64 encoded 8, baseBundleSha256 := bytesAt encoded 16 32,
        manifestBytes := getU32 encoded 48,
        payloadBytes := getU32 encoded 52, manifestCrc32 := getU32 encoded 56,
        manifestSha256 := bytesAt encoded 60 32,
        bundleSha256 := bytesAt encoded 92 32, payloadBlockCrc32 := Vector.ofFn fun i =>
          getU32 encoded (124 + i.val * 4) }
    if soundBundlePlanShapeIsValid decoded then .ok decoded else .error .invalidPlan

/-! ## Assemblers -/

/-- A byte of `received_`. -/
def bitmapByte (cells : Cells UInt8) (index : Nat) : UInt8 :=
  (List.range 8).foldl
    (fun byte bit => if (cells.getD (8 * index + bit) none).isSome then
      byte ||| (1 <<< UInt8.ofNat bit) else byte) 0

/-- `copy_received_bitmap` over a bitmap of `size` bytes. -/
def copyReceivedBitmap (cells : Cells UInt8) (size offset length : Nat) : Option (List UInt8) :=
  if offset > size ∨ length > size - offset then none
  else some ((List.range' offset length).map (bitmapByte cells))

/-- The loops of both `accept_fragment`s. -/
def acceptCells (cells : Cells UInt8) (offset : Nat) (data : List UInt8) :
    Except SpeakerAssetsProtocolResult (Cells UInt8) :=
  match Reassembly.accept cells offset data with
  | none => .error .conflict
  | some cells => .ok cells

structure PlanAssembler where
  cells : Cells UInt8 := Reassembly.empty 640
  owner : SpeakerAssetsRouteToken := {}
  beginId : UInt32 := 0
  bound : Bool := false
deriving DecidableEq, Repr

namespace PlanAssembler

def begin (assembler : PlanAssembler) (owner : SpeakerAssetsRouteToken) (beginId : UInt32) :
    Except SpeakerAssetsProtocolResult PlanAssembler :=
  if routeIsValid owner = false ∨ beginId = 0 then .error .invalidArgument
  else if assembler.bound then
    if assembler.owner = owner ∧ assembler.beginId = beginId then .ok assembler else .error .wrongOwner
  else .ok { assembler with owner, beginId, bound := true }

def acceptFragment (assembler : PlanAssembler) (owner : SpeakerAssetsRouteToken) (beginId : UInt32)
    (offset : UInt16)
    (data : List UInt8) : Except SpeakerAssetsProtocolResult PlanAssembler := do
  if assembler.bound = false ∨ assembler.owner ≠ owner ∨ assembler.beginId ≠ beginId then .error .wrongOwner
  else if data = [] then .error .invalidArgument
  else if data.length > wifiFrameBodyBytes ∨ offset.toNat > 640 ∨ data.length > 640 - offset.toNat
    then .error .outOfBounds
  else
    let cells ← acceptCells assembler.cells offset.toNat data
    return { assembler with cells }

def receivedBytes (assembler : PlanAssembler) : Nat := received assembler.cells
def complete (assembler : PlanAssembler) : Bool := assembler.bound && assembler.receivedBytes == 640
def firstMissingOffset (assembler : PlanAssembler) : Nat := firstMissing assembler.cells

def decode (H : Hashes) (assembler : PlanAssembler) : Except SpeakerAssetsProtocolResult SoundBundlePlan :=
  if assembler.complete then decodeSoundBundlePlanWire H (contents assembler.cells 0) else
    .error .incomplete

end PlanAssembler

structure BlockAssembler where
  cells : Cells UInt8 := Reassembly.empty 4096
  region : SpeakerAssetsRegion := .manifest
  unitIndex : UInt16 := 0
  expectedBytes : UInt16 := 0
  active : Bool := false
deriving DecidableEq, Repr

namespace BlockAssembler

/-- `begin`, which starts over whatever was held. -/
def begin (region : SpeakerAssetsRegion) (unitIndex expectedBytes : UInt16) :
    Except SpeakerAssetsProtocolResult BlockAssembler :=
  if expectedBytes = 0 ∨ expectedBytes.toNat > 4096 ∨ (region = .manifest ∧ unitIndex ≠ 0)
      ∨ (region = .payload ∧ unitIndex.toNat ≥ soundPayloadBlockCount) then .error .invalidArgument
  else .ok { region, unitIndex, expectedBytes, active := true }

def acceptFragment (assembler : BlockAssembler) (region : SpeakerAssetsRegion) (unitIndex offset : UInt16)
    (data : List UInt8) : Except SpeakerAssetsProtocolResult BlockAssembler := do
  if assembler.active = false then .error .incomplete
  else if region ≠ assembler.region ∨ unitIndex ≠ assembler.unitIndex then .error .wrongUnit
  else if data = [] then .error .invalidArgument
  else if data.length > wifiFrameBodyBytes ∨ offset > assembler.expectedBytes
      ∨ data.length > assembler.expectedBytes.toNat - offset.toNat then .error .outOfBounds
  else
    let cells ← acceptCells assembler.cells offset.toNat data
    return { assembler with cells }

def receivedBytes (assembler : BlockAssembler) : Nat := received assembler.cells
def complete (assembler : BlockAssembler) : Bool :=
  assembler.active && assembler.receivedBytes == assembler.expectedBytes.toNat

def firstMissingOffset (assembler : BlockAssembler) : Nat :=
  if assembler.active then firstMissing (assembler.cells.take assembler.expectedBytes.toNat) else 0

/-- What `data()` points to, as far as the expected bytes go. -/
def data (assembler : BlockAssembler) : Option (List UInt8) :=
  if assembler.active then some ((contents assembler.cells 0).take assembler.expectedBytes.toNat) else none

end BlockAssembler

end CodexKeyboard.Assets
