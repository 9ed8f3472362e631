import CodexKeyboard.Keyboard.ConfigFields
import CodexKeyboard.Keyboard.ConfigReceiver
/-!
# The configuration status

`build_config_status_json` (config_status.cpp:602): a snapshot of the device as one JSON object that
fits the characteristic it is read from. The builder tries one view after the other, each with less
in it, until one fits.

| here | there |
| --- | --- |
| `escapeJsonString`, `clippedStatusString`, `escapeJsonStringBounded` | config_status.cpp:17, 57, 65 |
| `appendStringField` … `appendIntField`, `writeFields` | config_status.cpp:137-207 |
| `appendSyncCore` … `appendCompactSpeakerBoot` | config_status.cpp:209-370 |
| `compactFields`, `batteryView`, `probeFields`, `fullFields` | config_status.cpp:372, 419, 434, 494 |
| `buildConfigStatusJson`, `buildConfigConfirmationStatusJson` | config_status.cpp:602, 794 |

A function that appends to the stream is the fields it writes; `writeFields` puts the separators in.
Texts are bytes; a `size_t` has 32 bits on the device.
-/

namespace CodexKeyboard.Keyboard

def configStatusGattSafeLen : Nat := 512
def configStatusBatteryBleReserveLen : Nat := 120

def statusStringMaxLen : Nat := 48
def compactStatusStringMaxLen : Nat := 12
def firmwareStringMaxLen : Nat := 40
def audioCaptureStringMaxLen : Nat := 24

/-! ## The snapshot -/

inductive SpeakerProbeStage where
  | none
  | bootPending
  | begin
  | i2sNew
  | i2sConfig
  | opusInit
  | taskAlloc
  | ready
  | request
  | requestReject
  | dma
  | decodeReset
  | decodeFirst
  | clock
  | powerWait
  | powerReady
  | firstSubmit
  | decodeStream
  | write
  | cleanup
  | cancel
  | done
  deriving DecidableEq

inductive SpeakerProbeResult where
  | none
  | pending
  | running
  | ok
  | rejected
  | failed
  | cancelled
  deriving DecidableEq

inductive SpeakerProbeError where
  | none
  | notReady
  | invalidArgument
  | unsupported
  | i2sNew
  | i2sConfig
  | opusInit
  | taskAlloc
  | playbackBusy
  | microphoneBusy
  | dma
  | decodeReset
  | decodeFirst
  | decodeStream
  | clock
  | powerTimeout
  | write
  | cleanup
  | cancelled
  | unknown
  deriving DecidableEq

/-- The wire values count the constructors. -/
def SpeakerProbeStage.value (stage : SpeakerProbeStage) : UInt32 := UInt32.ofNat stage.ctorIdx
def SpeakerProbeResult.value (result : SpeakerProbeResult) : UInt32 := UInt32.ofNat result.ctorIdx
def SpeakerProbeError.value (error : SpeakerProbeError) : UInt32 := UInt32.ofNat error.ctorIdx

structure SpeakerProbeSnapshot where
  present : Bool := false
  version : UInt8 := 1
  stage : SpeakerProbeStage := .none
  result : SpeakerProbeResult := .none
  error : SpeakerProbeError := .none
  generation : UInt32 := 0
  rawError : Int32 := 0
  microphoneGeneration : UInt32 := 0
  firstSubmitUs : UInt32 := 0
  decodeTotalUs : UInt32 := 0
  decodeMaxUs : UInt32 := 0
  decodedFrames : UInt32 := 0
  decodedPcmBytes : UInt32 := 0
  stackHighWaterBytes : UInt32 := 0
  heapBeginFree : UInt32 := 0
  heapTerminalFree : UInt32 := 0
  heapLargestBlock : UInt32 := 0
  heapMinimumFree : UInt32 := 0
  decodedAbsPeak : UInt32 := 0
  decodedRmsPermille : UInt32 := 0

structure PowerDiagnosticsSnapshot where
  mode : List UInt8 := []
  pollMs : UInt32 := 0
  idleMs : UInt32 := 0
  deepEntries : UInt32 := 0
  deepMs : UInt32 := 0
  lastEnterMs : UInt32 := 0
  lastExitMs : UInt32 := 0
  lastWake : List UInt8 := []
  wakeEdges : UInt32 := 0
  usb : Bool := false
  cycleSeq : UInt32 := 0
  cycleIdleMs : UInt32 := 0
  cycleDeepMs : UInt32 := 0
  cycleFlags : UInt32 := 0
  cycleWake : List UInt8 := []

structure BoardDiagnosticsSnapshot where
  board : List UInt8 := []
  keys : List UInt8 := []
  encoder : List UInt8 := []
  lastInput : List UInt8 := []
  lastInputAgeMs : UInt32 := 0
  keyWake : Int32 := -1
  externalPower : Int32 := -1
  charge : Int32 := -1
  pwrGpio : Int32 := -1
  pwrLevel : Int32 := -1
  pwrActive : Int32 := -1
  ledGpio : Int32 := -1
  inputEdges : UInt32 := 0
  inputDrops : UInt32 := 0
  inputEvents : UInt32 := 0
  inputFiltered : UInt32 := 0
  encoderEdges : UInt32 := 0
  encoderSteps : UInt32 := 0
  encoderInvalid : UInt32 := 0
  encoderPartial : UInt32 := 0
  encoderDrops : UInt32 := 0

structure AudioStatusSnapshot where
  enabled : Bool := false
  source : List UInt8 := []
  microphoneSource : List UInt8 := []
  capture : List UInt8 := []
  host : List UInt8 := []
  port : Int32 := 0
  sentPackets : UInt32 := 0
  sentBytes : UInt32 := 0
  lastRmsMilli : UInt32 := 0
  peakRmsMilli : UInt32 := 0
  sendErrors : UInt32 := 0
  readErrors : UInt32 := 0
  recoveryCount : UInt32 := 0
  sessionGeneration : UInt32 := 0
  sessionId : UInt64 := 0
  streamPhase : List UInt8 := []
  stopReason : List UInt8 := []
  controlState : List UInt8 := []
  lastError : List UInt8 := []

structure BatteryStatusSnapshot where
  rawMv : UInt16 := 0
  state : List UInt8 := []
  sampleAgeMs : UInt32 := 0
  fullAnchorReady : Bool := false

structure ConfigStatusSnapshot where
  firmware : List UInt8 := []
  phase : List UInt8 := []
  status : List UInt8 := []
  bytes : UInt32 := 0
  crc16 : UInt16 := 0
  pttHotkey : List UInt8 := []
  editPttHotkey : List UInt8 := []
  hotkeyMode : List UInt8 := []
  saved : Bool := false
  batteryMv : UInt16 := 0
  batteryPercent : UInt8 := 0
  audio : AudioStatusSnapshot := {}
  power : PowerDiagnosticsSnapshot := {}
  diagnostics : BoardDiagnosticsSnapshot := {}
  battery : BatteryStatusSnapshot := {}
  targetPlatform : List UInt8 := ascii "macos"
  semanticActions : Bool := true
  offlinePlatformSwitch : Bool := true
  usbManagementV1 : Bool := true
  speaker : Option SpeakerProbeSnapshot := none

/-! ## Escapes -/

def upperHexDigit (digit : UInt8) : UInt8 := if digit < 10 then 0x30 + digit else 0x37 + digit

/-- The token of an ASCII byte. -/
def escapeByte (byte : UInt8) : List UInt8 :=
  if byte = 0x22 then ascii "\\\""
  else if byte = 0x5C then ascii "\\\\"
  else if byte = 0x08 then ascii "\\b"
  else if byte = 0x0C then ascii "\\f"
  else if byte = 0x0A then ascii "\\n"
  else if byte = 0x0D then ascii "\\r"
  else if byte = 0x09 then ascii "\\t"
  else if byte < 0x20 then ascii "\\u00" ++ [upperHexDigit (byte >>> 4), upperHexDigit (byte &&& 0x0F)]
  else [byte]

def escapeJsonString (value : List UInt8) : List UInt8 := value.flatMap escapeByte

def clippedStatusString (value : List UInt8) (maxLen : Nat) : List UInt8 :=
  if value.length ≤ maxLen then value else value.take maxLen

/-- The token in front of a text that is not empty, and how many bytes it stands for. -/
def boundedToken (value : List UInt8) : List UInt8 × Nat :=
  let lead := value.headD 0
  if lead ≤ 0x7F then (escapeByte lead, 1)
  else if startsSequence value then (value.take (sequenceLen lead), sequenceLen lead)
  else (ascii "\\uFFFD", 1)

/-- The loop; every turn takes a byte at least. -/
def escapeBounded (maxEncodedLen : Nat) : Nat → List UInt8 → List UInt8 → List UInt8
  | 0, escaped, _ => escaped
  | turns + 1, escaped, value =>
    if value = [] then escaped
    else if escaped.length + (boundedToken value).1.length > maxEncodedLen then escaped
    else escapeBounded maxEncodedLen turns (escaped ++ (boundedToken value).1)
      (value.drop (boundedToken value).2)

def escapeJsonStringBounded (value : List UInt8) (maxEncodedLen : Nat) : List UInt8 :=
  escapeBounded maxEncodedLen value.length [] value

/-! ## Fields -/

/-- A name and the text behind the colon. -/
abbrev Field := String × List UInt8

def Field.line (field : Field) : List UInt8 := ascii "\"" ++ ascii field.1 ++ ascii "\":" ++ field.2

/-- `append_object_separator` stands in front of every field. -/
def writeFields : Bool → List Field → List UInt8
  | _, [] => []
  | first, field :: fields => (if first then [] else ascii ",") ++ field.line ++ writeFields false fields

/-- The text of an object. -/
def objectText (fields : List Field) : List UInt8 := ascii "\x7b" ++ writeFields true fields ++ ascii "\x7d"

def quoted (body : List UInt8) : List UInt8 := ascii "\"" ++ body ++ ascii "\""

def boolText (value : Bool) : List UInt8 := if value then ascii "true" else ascii "false"

def uintText (value : Nat) : List UInt8 := (Nat.toDigits 10 value).map fun c => UInt8.ofNat c.toNat

def intText (value : Int) : List UInt8 :=
  if value < 0 then ascii "-" ++ uintText value.natAbs else uintText value.natAbs

def appendStringField (name : String) (value : List UInt8) : List Field :=
  if value = [] then [] else
    [(name, quoted (escapeJsonString (clippedStatusString value statusStringMaxLen)))]

/-- The value, or the fallback for an empty one. -/
def selectedString (value : List UInt8) : Option String → List UInt8
  | none => value
  | some fallback => if value = [] then ascii fallback else value

def appendBoundedStringField (name : String) (value : List UInt8) (maxEncodedLen : Nat)
    (fallback : Option String) :
    List Field :=
  if selectedString value fallback = [] ∧ fallback = none then []
  else [(name, quoted (escapeJsonStringBounded (selectedString value fallback) maxEncodedLen))]

def appendBoolField (name : String) (value : Bool) : List Field := [(name, boolText value)]

def appendUintField (name : String) (value : UInt32) : List Field := [(name, uintText value.toNat)]

def appendUint64Field (name : String) (value : UInt64) : List Field := [(name, uintText value.toNat)]

def appendIntField (name : String) (value : Int32) : List Field := [(name, intText value.toInt)]

def appendObject (name : String) (fields : List Field) : List Field := [(name, objectText fields)]

def schemaField : Field := ("schema", quoted (ascii "ai_keyboard.config_status.v1"))

/-! ## Parts of the views -/

variable (snapshot : ConfigStatusSnapshot)

def capabilities (includeUsbManagement includeLegacy : Bool) : List Field :=
  (if includeLegacy then
    appendBoolField "semantic_actions" snapshot.semanticActions ++
      appendBoolField "offline_platform_switch" snapshot.offlinePlatformSwitch
  else []) ++
  [("config_max_bytes", uintText configMaxJsonLen)] ++
  if includeUsbManagement then appendBoolField "usb_management_v1" snapshot.usbManagementV1 else []

def appendSyncCore (includeUsbManagement includeLegacy : Bool) : List Field :=
  appendBoundedStringField "firmware" snapshot.firmware firmwareStringMaxLen (some "unknown") ++
  appendBoundedStringField "phase" snapshot.phase compactStatusStringMaxLen (some "status") ++
  appendBoundedStringField "status" snapshot.status compactStatusStringMaxLen (some "unknown") ++
  appendBoundedStringField "target_platform" snapshot.targetPlatform compactStatusStringMaxLen
    (some "macos") ++
  appendObject "capabilities" (capabilities snapshot includeUsbManagement includeLegacy) ++
  appendBoolField "saved" snapshot.saved

def appendBatterySummary (includeDetail : Bool) : List Field :=
  appendUintField "battery_mv" snapshot.batteryMv.toUInt32 ++
  appendUintField "battery_percent" snapshot.batteryPercent.toUInt32 ++
  if !includeDetail || snapshot.battery.state = [] then []
  else
    appendUintField "battery_raw_mv" snapshot.battery.rawMv.toUInt32 ++
    appendBoundedStringField "battery_state" snapshot.battery.state compactStatusStringMaxLen none ++
    appendUintField "battery_sample_age_ms" snapshot.battery.sampleAgeMs ++
    appendBoolField "battery_full_anchor" snapshot.battery.fullAnchorReady

def appendCompactPower (power : PowerDiagnosticsSnapshot) : List Field :=
  if power.mode = [] then []
  else
    appendObject "power" <|
      appendBoolField "compact" true ++
      appendBoundedStringField "mode" power.mode compactStatusStringMaxLen (some "unknown") ++
      appendBoundedStringField "last_wake" power.lastWake compactStatusStringMaxLen (some "unknown")

def appendCompactDiagnostics (diagnostics : BoardDiagnosticsSnapshot) (includeDetails : Bool) :
    List Field :=
  if diagnostics.board = [] then []
  else
    appendObject "diag" <|
      appendBoolField "compact" true ++
      appendBoundedStringField "board" diagnostics.board compactStatusStringMaxLen none ++
      if !includeDetails then []
      else
        appendBoundedStringField "keys" diagnostics.keys compactStatusStringMaxLen none ++
        appendBoundedStringField "enc" diagnostics.encoder compactStatusStringMaxLen none ++
        appendBoundedStringField "last" diagnostics.lastInput 24 none ++
        appendUintField "in_drop" diagnostics.inputDrops ++
        appendUintField "enc_drop" diagnostics.encoderDrops

/-- `has_audio_status`. -/
def AudioStatusSnapshot.reported (audio : AudioStatusSnapshot) : Bool := audio.source ≠ [] || audio.enabled

def appendCompactAudio (audio : AudioStatusSnapshot) (includeLastError : Bool) : List Field :=
  if !audio.reported then []
  else
    appendObject "audio" <|
      appendBoolField "compact" true ++
      appendBoolField "enabled" audio.enabled ++
      appendBoundedStringField "source" audio.source compactStatusStringMaxLen (some "unknown") ++
      appendBoundedStringField "microphone_source" audio.microphoneSource compactStatusStringMaxLen none ++
      appendBoundedStringField "capture" audio.capture audioCaptureStringMaxLen none ++
      appendBoundedStringField "control_state" audio.controlState 40 none ++
      appendBoundedStringField "host" audio.host 24 none ++
      (if audio.port > 0 then appendIntField "port" audio.port else []) ++
      if includeLastError then appendBoundedStringField "last_error" audio.lastError 32 none else []

/-- What the boot evidence and the probe view have in common. -/
def speakerCore (speaker : SpeakerProbeSnapshot) : List Field :=
  appendUintField "v" speaker.version.toUInt32 ++
  appendUintField "g" speaker.generation ++
  appendUintField "st" speaker.stage.value ++
  appendUintField "r" speaker.result.value ++
  appendUintField "e" speaker.error.value ++
  appendIntField "x" speaker.rawError

def appendCompactSpeakerBoot : Option SpeakerProbeSnapshot → List Field
  | none => []
  | some speaker => if !speaker.present then [] else appendObject "spk" (speakerCore speaker)

/-! ## Views -/

/-- The arguments of `build_compact_status_json`. -/
structure CompactView where
  includeFingerprint : Bool
  includeBatteryDetail : Bool
  includeAudio : Bool
  includePower : Bool
  includeDiagnostics : Bool
  includeAudioLastError : Bool := true
  includeFingerprintDetails : Bool := true
  includeUsbManagement : Bool := true
  includeLegacy : Bool := true
  includeDiagnosticDetails : Bool := true
  includeSpeakerBoot : Bool := false

def fingerprint (includeDetails : Bool) : List Field :=
  appendUintField "bytes" snapshot.bytes ++
  appendUintField "crc16" snapshot.crc16.toUInt32 ++
  if includeDetails then
    appendBoundedStringField "ptt_hotkey" snapshot.pttHotkey 32 (some "") ++
    appendBoundedStringField "edit_ptt_hotkey" snapshot.editPttHotkey 32 (some "") ++
    appendBoundedStringField "hotkey_mode" snapshot.hotkeyMode compactStatusStringMaxLen (some "")
  else []

def compactFields (view : CompactView) : List Field :=
  schemaField ::
    (appendSyncCore snapshot view.includeUsbManagement view.includeLegacy ++
    (if view.includeFingerprint then fingerprint snapshot view.includeFingerprintDetails else []) ++
    appendBatterySummary snapshot view.includeBatteryDetail ++
    (if view.includeAudio then appendCompactAudio snapshot.audio view.includeAudioLastError else []) ++
    (if view.includePower then appendCompactPower snapshot.power else []) ++
    (if view.includeDiagnostics then
      appendCompactDiagnostics snapshot.diagnostics view.includeDiagnosticDetails else []) ++
    if view.includeSpeakerBoot then appendCompactSpeakerBoot snapshot.speaker else [])

def buildCompactStatusJson (view : CompactView) : List UInt8 := objectText (compactFields snapshot view)

/-- The `spk` object of the probe view. -/
def speakerFields (speaker : SpeakerProbeSnapshot) : List Field :=
  speakerCore speaker ++
  appendUintField "mg" speaker.microphoneGeneration ++
  appendUintField "fu" speaker.firstSubmitUs ++
  appendUintField "du" speaker.decodeTotalUs ++
  appendUintField "mu" speaker.decodeMaxUs ++
  appendUintField "n" speaker.decodedFrames ++
  appendUintField "p" speaker.decodedPcmBytes ++
  appendUintField "sw" speaker.stackHighWaterBytes ++
  appendUintField "h0" speaker.heapBeginFree ++
  appendUintField "h1" speaker.heapTerminalFree ++
  appendUintField "hl" speaker.heapLargestBlock ++
  appendUintField "hm" speaker.heapMinimumFree ++
  appendUintField "pk" speaker.decodedAbsPeak ++
  appendUintField "rm" speaker.decodedRmsPermille

def probeFields (speaker : SpeakerProbeSnapshot) : List Field :=
  schemaField ::
    (appendBoundedStringField "firmware" snapshot.firmware 36 (some "unknown") ++
    appendBoundedStringField "phase" (ascii "spk_probe") compactStatusStringMaxLen none ++
    appendBoundedStringField "status" (ascii "probe") compactStatusStringMaxLen none ++
    appendBoundedStringField "target_platform" snapshot.targetPlatform compactStatusStringMaxLen
      (some "macos") ++
    appendObject "capabilities" [("config_max_bytes", uintText configMaxJsonLen)] ++
    appendBoolField "saved" snapshot.saved ++
    appendUintField "bytes" snapshot.bytes ++
    appendUintField "crc16" snapshot.crc16.toUInt32 ++
    appendObject "spk" (speakerFields speaker))

def fullAudio (audio : AudioStatusSnapshot) : List Field :=
  appendBoolField "enabled" audio.enabled ++
  appendStringField "source" audio.source ++
  appendStringField "microphone_source" audio.microphoneSource ++
  appendStringField "capture" audio.capture ++
  appendStringField "host" audio.host ++
  (if audio.port > 0 then appendIntField "port" audio.port else []) ++
  appendUintField "sent_packets" audio.sentPackets ++
  appendUintField "sent_bytes" audio.sentBytes ++
  appendUintField "last_rms_milli" audio.lastRmsMilli ++
  appendUintField "peak_rms_milli" audio.peakRmsMilli ++
  appendUintField "send_errors" audio.sendErrors ++
  appendUintField "read_errors" audio.readErrors ++
  appendUintField "recovery_count" audio.recoveryCount ++
  appendUintField "session_generation" audio.sessionGeneration ++
  appendUint64Field "session_id" audio.sessionId ++
  appendStringField "stream_phase" audio.streamPhase ++
  appendStringField "stop_reason" audio.stopReason ++
  appendStringField "control_state" audio.controlState ++
  appendStringField "last_error" audio.lastError

def fullPower (power : PowerDiagnosticsSnapshot) : List Field :=
  appendStringField "mode" power.mode ++
  appendUintField "poll_ms" power.pollMs ++
  appendUintField "idle_ms" power.idleMs ++
  appendUintField "deep_entries" power.deepEntries ++
  appendUintField "deep_ms" power.deepMs ++
  appendUintField "last_enter_ms" power.lastEnterMs ++
  appendUintField "last_exit_ms" power.lastExitMs ++
  appendStringField "last_wake" power.lastWake ++
  appendUintField "wake_edges" power.wakeEdges ++
  appendBoolField "usb" power.usb ++
  if power.cycleSeq ≠ 0 then
    appendUintField "cycle_seq" power.cycleSeq ++
    appendUintField "cycle_idle_ms" power.cycleIdleMs ++
    appendUintField "cycle_deep_ms" power.cycleDeepMs ++
    appendUintField "cycle_flags" power.cycleFlags ++
    appendStringField "cycle_wake" power.cycleWake
  else []

def fullDiagnostics (diagnostics : BoardDiagnosticsSnapshot) : List Field :=
  appendStringField "board" diagnostics.board ++
  appendStringField "keys" diagnostics.keys ++
  appendStringField "enc" diagnostics.encoder ++
  appendStringField "last" diagnostics.lastInput ++
  appendUintField "last_age_ms" diagnostics.lastInputAgeMs ++
  appendIntField "wake" diagnostics.keyWake ++
  appendIntField "vin" diagnostics.externalPower ++
  appendIntField "chrg" diagnostics.charge ++
  appendIntField "pwr_gpio" diagnostics.pwrGpio ++
  appendIntField "pwr_level" diagnostics.pwrLevel ++
  appendIntField "pwr_active" diagnostics.pwrActive ++
  appendIntField "led_gpio" diagnostics.ledGpio ++
  appendUintField "in_edge" diagnostics.inputEdges ++
  appendUintField "in_drop" diagnostics.inputDrops ++
  appendUintField "in_evt" diagnostics.inputEvents ++
  appendUintField "in_filter" diagnostics.inputFiltered ++
  appendUintField "enc_edge" diagnostics.encoderEdges ++
  appendUintField "enc_step" diagnostics.encoderSteps ++
  appendUintField "enc_invalid" diagnostics.encoderInvalid ++
  appendUintField "enc_partial" diagnostics.encoderPartial ++
  appendUintField "enc_drop" diagnostics.encoderDrops

def fullFields : List Field :=
  schemaField ::
    ([("firmware", quoted (escapeJsonString snapshot.firmware)),
      ("phase", quoted (escapeJsonString snapshot.phase)),
      ("status", quoted (escapeJsonString snapshot.status)),
      ("bytes", uintText snapshot.bytes.toNat),
      ("crc16", uintText snapshot.crc16.toNat),
      ("ptt_hotkey", quoted (escapeJsonString snapshot.pttHotkey)),
      ("edit_ptt_hotkey", quoted (escapeJsonString snapshot.editPttHotkey)),
      ("hotkey_mode", quoted (escapeJsonString snapshot.hotkeyMode)),
      ("target_platform", quoted (escapeJsonString snapshot.targetPlatform)),
      ("capabilities", objectText (capabilities snapshot true true)),
      ("saved", boolText snapshot.saved),
      ("battery_mv", uintText snapshot.batteryMv.toNat),
      ("battery_percent", uintText snapshot.batteryPercent.toNat)] ++
    (if snapshot.battery.state = [] then []
    else
      [("battery_raw_mv", uintText snapshot.battery.rawMv.toNat),
        ("battery_state", quoted (escapeJsonString snapshot.battery.state)),
        ("battery_sample_age_ms", uintText snapshot.battery.sampleAgeMs.toNat),
        ("battery_full_anchor", boolText snapshot.battery.fullAnchorReady)]) ++
    (if snapshot.audio.reported then appendObject "audio" (fullAudio snapshot.audio) else []) ++
    (if snapshot.power.mode = [] then [] else appendObject "power" (fullPower snapshot.power)) ++
    if !snapshot.audio.reported && snapshot.diagnostics.board ≠ [] then
      appendObject "diag" (fullDiagnostics snapshot.diagnostics)
    else [])

def buildFullStatusJson : List UInt8 := objectText (fullFields snapshot)

/-! ## The builder -/

/-- The first text that fits, or the last one. -/
def firstFitting (limit : Nat) : List (List UInt8) → List UInt8 → List UInt8
  | [], last => last
  | text :: texts, last => if text.length ≤ limit then text else firstFitting limit texts last

/-- `build_battery_status_json`. -/
def batteryView : CompactView :=
  { includeFingerprint := true, includeBatteryDetail := true, includeAudio := false, includePower := true,
    includeDiagnostics :=
      false, includeFingerprintDetails := false, includeUsbManagement := false, includeSpeakerBoot := true }

/-- Lines 608-667. -/
def batteryStatusJson : List UInt8 :=
  let view := batteryView
  firstFitting (configStatusGattSafeLen - configStatusBatteryBleReserveLen)
    [buildCompactStatusJson snapshot view,
      buildCompactStatusJson snapshot { view with includeBatteryDetail := false },
      buildCompactStatusJson snapshot { view with includeBatteryDetail := false, includePower := false }]
    (buildCompactStatusJson snapshot
      { view with includeBatteryDetail := false, includePower := false, includeSpeakerBoot := false })

/-- The view with the core and the battery alone. -/
def coreView (includeFingerprint : Bool) : CompactView :=
  { includeFingerprint, includeBatteryDetail := false, includeAudio := false, includePower := false,
    includeDiagnostics := false }

/-- Lines 671-699. -/
def diagnosticsStatusJson : List UInt8 :=
  let view := { coreView false with includePower := true, includeDiagnostics := true }
  firstFitting configStatusGattSafeLen
    [buildCompactStatusJson snapshot view,
      buildCompactStatusJson snapshot { view with includeDiagnosticDetails := false }]
    (buildCompactStatusJson snapshot (coreView false))

def preserveFingerprint : Bool := snapshot.phase = ascii "boot" && snapshot.bytes > 0

/-- Lines 701-791. -/
def audioStatusJson : List UInt8 :=
  let compact := { coreView (preserveFingerprint snapshot) with includeAudio := true, includePower := true }
  let minimal :=
    { compact with
      includePower := false, includeFingerprintDetails := false, includeUsbManagement := false,
      includeLegacy := false }
  let controlled (view : CompactView) :=
    if snapshot.audio.controlState = [] then [] else [buildCompactStatusJson snapshot view]
  firstFitting configStatusGattSafeLen
    ([buildFullStatusJson snapshot, buildCompactStatusJson snapshot compact] ++ controlled minimal ++
      [buildCompactStatusJson snapshot { compact with includeAudioLastError := false }] ++
      controlled { minimal with includeAudioLastError := false })
    (buildCompactStatusJson snapshot (coreView (preserveFingerprint snapshot)))

/-- The snapshot of a probe, if there is one. -/
def ConfigStatusSnapshot.probe : Option SpeakerProbeSnapshot :=
  if snapshot.phase = ascii "spk_probe" then snapshot.speaker.filter (·.present) else none

def buildConfigStatusJson : List UInt8 :=
  match snapshot.probe with
  | some speaker => objectText (probeFields snapshot speaker)
  | none =>
    if snapshot.phase = ascii "battery" then batteryStatusJson snapshot
    else if !snapshot.audio.reported && snapshot.diagnostics.board ≠ [] then diagnosticsStatusJson snapshot
    else audioStatusJson snapshot

def buildConfigConfirmationStatusJson : List UInt8 := buildCompactStatusJson snapshot (coreView true)

end CodexKeyboard.Keyboard
