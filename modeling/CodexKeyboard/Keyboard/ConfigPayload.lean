import CodexKeyboard.Keyboard.ConfigFields
/-!
# The configuration and its state

`parse_config_payload` reads a configuration field by field
(`components/keyboard/src/config_payload.cpp:408-995`), and `ConfigState` holds the last one that
was accepted, resolved for the platform of the host (`components/keyboard/src/config_state.cpp`).

| here | there |
| --- | --- |
| `optionalField` | the `if (const auto raw = field_value(..))` blocks of config_payload.cpp |
| `parseAction`, `parseBinding`, `parseEncoderAction` | config_payload.cpp:536, 574, 588 |
| `parseEncoderScrollConfig` | config_payload.cpp:600 |
| `parseConfigPayload` (`parseSpeakerSync`, `parseProfile`, `migrateKeys`, `resolveSource`) | config_payload.cpp:688 |
| `ConfigState.applyJson`, `.setTargetPlatform` | config_state.cpp:5, 47 |

A refused configuration is its status alone. The actions of a keymap are in the order of `InputId`.
-/

namespace CodexKeyboard.Keyboard

def fixedTextMaxUtf8Bytes : Nat := 960

inductive ConfigParseStatus where
  | invalidJson
  | invalidSchema
  | unsupportedAudio
  | missingProfile
  | missingBinding
  | unknownAction
  | fixedTextTooLarge
deriving DecidableEq, Repr

inductive ActionKind where
  | disabled
  | voicePttHold
  | editPttHold
  | pasteLast
  | openHistory
  | toggleProfile
  | hotkey
  | fixedText
  | previousProfile
  | nextProfile
  | settings
  | scrollAxisToggle
  | selectAll
  | copy
  | paste
  | undo
deriving DecidableEq, Repr

inductive HostPlatform where
  | macOS
  | windows
deriving DecidableEq, Repr

inductive HotkeySource where
  | platformDefault
  | custom
deriving DecidableEq, Repr

inductive PttMode where
  | hold
  | toggle
deriving DecidableEq, Repr

inductive EncoderScrollAxis where
  | vertical
  | horizontal
  | toggle
deriving DecidableEq, Repr

inductive EncoderRotationMode where
  | scroll
  | cursor
deriving DecidableEq, Repr

structure Action where
  kind : ActionKind := .disabled
  hotkey : List UInt8 := []
  text : List UInt8 := []
deriving DecidableEq, Repr

structure EncoderScrollConfig where
  enabled : Bool := true
  mode : EncoderRotationMode := .scroll
  axis : EncoderScrollAxis := .vertical
  speed : Int := 3
  reverseVertical : Bool := false
  reverseHorizontal : Bool := false
  macosReverseVertical : Bool := false
  macosReverseHorizontal : Bool := false
  windowsReverseVertical : Bool := false
  windowsReverseHorizontal : Bool := false
deriving DecidableEq, Repr

def defaultKeymap : List Action :=
  [{ kind := .voicePttHold }, { kind := .hotkey, hotkey := ascii "Return" }, { kind := .editPttHold },
    { kind := .hotkey, hotkey := ascii "Backspace" }, { kind := .selectAll }, { kind := .copy },
      { kind := .paste },
    { kind := .undo }, {}, {}, { kind := .scrollAxisToggle }]

structure ParsedKeyboardConfig where
  pttHotkey : List UInt8 := ascii "RightMeta"
  editPttHotkey : List UInt8 := ascii "RightOption"
  pttHotkeySource : HotkeySource := .platformDefault
  editPttHotkeySource : HotkeySource := .platformDefault
  targetPlatform : HostPlatform := .macOS
  pttHotkeySourceExplicit : Bool := false
  editPttHotkeySourceExplicit : Bool := false
  targetPlatformExplicit : Bool := false
  pttMode : PttMode := .toggle
  wifiSsid : List UInt8 := []
  wifiPassword : List UInt8 := []
  audioHost : List UInt8 := []
  audioPort : Int := 17333
  speakerSyncKey : List UInt8 := []
  speakerSyncKeyEpoch : UInt16 := 0
  keymap : List Action := defaultKeymap
  encoderScroll : EncoderScrollConfig := {}
deriving DecidableEq, Repr

def defaultAudioPort : Int := 17333

def defaultPttHotkey : HostPlatform → List UInt8
  | .windows => ascii "Ctrl+Shift+Space"
  | .macOS => ascii "RightMeta"

def defaultEditPttHotkey : HostPlatform → List UInt8
  | .windows => ascii "Ctrl+Shift+E"
  | .macOS => ascii "RightOption"

/-! ## Values -/

/-- What a text names in a table. -/
def named {α : Type} (names : List (String × α)) (value : List UInt8) : Option α :=
  (names.find? fun entry => ascii entry.1 = value).map (·.2)

def parseScrollAxis : List UInt8 → Option EncoderScrollAxis :=
  named [("vertical", .vertical), ("horizontal", .horizontal), ("toggle", .toggle)]

def parseRotationMode : List UInt8 → Option EncoderRotationMode :=
  named [("scroll", .scroll), ("cursor", .cursor)]

def parsePttMode : List UInt8 → Option PttMode := named [("hold", .hold), ("toggle", .toggle)]

def parseHostPlatform : List UInt8 → Option HostPlatform := named [("macos", .macOS), ("windows", .windows)]

def parseHotkeySource : List UInt8 → Option HotkeySource :=
  named [("platform_default", .platformDefault), ("custom", .custom)]

def isLegacyFactoryPttHotkey (value : List UInt8) : Bool :=
  value ∈ [ascii "RightMeta", ascii "Ctrl+Shift+Space", ascii "CommandOrControl+Shift+Space"]

def isLegacyFactoryEditPttHotkey (value : List UInt8) : Bool :=
  value ∈ [ascii "RightOption", ascii "AltGr", ascii "Ctrl+Shift+E", ascii "CommandOrControl+Shift+E"]

def isValidAudioSource (source : List UInt8) : Bool :=
  source ∈ [ascii "unavailable", ascii "wifi_udp", ascii "computer"]

def isValidMicrophoneSource (source : List UInt8) : Bool :=
  source ∈ [ascii "auto", ascii "keyboard", ascii "computer"]

def isValidAudioPort (port : Int) : Bool := 1024 ≤ port && port ≤ 65535

def isValidSpeakerSyncKey (key : List UInt8) : Bool :=
  key.length = 64 && key.all (fun value => (hexDigitValue value).isSome) &&
    key.any (fun value => hexDigitValue value != some 0)

def clampScrollSpeed (speed : Int) : Int := if speed < 1 then 1 else if speed > 8 then 8 else speed

def namedActionKind : List UInt8 → Option ActionKind :=
  named [("disabled", .disabled), ("voice_ptt_hold", .voicePttHold), ("edit_ptt_hold", .editPttHold),
    ("paste_last", .pasteLast),
    ("history", .openHistory), ("toggle_profile", .toggleProfile), ("settings", .settings),
    ("previous_profile", .previousProfile), ("next_profile", .nextProfile),
      ("scroll_axis_toggle", .scrollAxisToggle),
    ("select_all", .selectAll), ("copy", .copy), ("paste", .paste), ("undo", .undo)]

/-! ## Fields -/

/-- A field that may be missing; a value that `read` refuses makes the configuration invalid. -/
def optionalField {α : Type} (json : List UInt8) (field : String) (read : List UInt8 → Option α) :
    Except ConfigParseStatus (Option α) :=
  match fieldValue json (ascii field) with
  | none => .ok none
  | some raw =>
    match read raw with
    | none => .error .invalidJson
    | some value => .ok (some value)

/-- A string that names something. -/
def readNamed {α : Type} (parse : List UInt8 → Option α) (raw : List UInt8) : Option α :=
  (stringValue raw).bind parse

/-- A string of which one demands something. -/
def readString (valid : List UInt8 → Bool) (raw : List UInt8) : Option (List UInt8) :=
  (stringValue raw).filter valid

/-- Lines 545-570: a hotkey or a text. -/
def parseComposedAction (value : List UInt8) : Except ConfigParseStatus Action :=
  match fieldValue value (ascii "hotkey"), fieldValue value (ascii "text") with
  | some raw, _ =>
    match stringValue raw with
    | none => .error .unknownAction
    | some hotkey => if hotkey = [] then .error .unknownAction else .ok { kind := .hotkey, hotkey }
  | none, some raw =>
    match stringValue raw with
    | none => .error .unknownAction
    | some text =>
      if text = [] then .error .unknownAction
      else if text.length > fixedTextMaxUtf8Bytes then .error .fixedTextTooLarge
      else .ok { kind := .fixedText, text }
  | none, none => .error .unknownAction

def parseAction (value : List UInt8) : Except ConfigParseStatus Action :=
  match stringValue value with
  | some name =>
    match namedActionKind name with
    | none => .error .unknownAction
    | some kind => .ok { kind }
  | none => parseComposedAction value

def parseBinding (bindings : List UInt8) (inputName : String) : Except ConfigParseStatus Action :=
  match fieldValue bindings (ascii inputName) with
  | none => .error .missingBinding
  | some binding =>
    match fieldValue binding (ascii "press") with
    | none => .error .missingBinding
    | some press => parseAction press

def parseEncoderAction (encoder : List UInt8) (field : String) : Except ConfigParseStatus Action :=
  match fieldValue encoder (ascii field) with
  | none => .error .missingBinding
  | some value => parseAction value

/-- Lines 607-610. -/
def isObjectShaped (value : List UInt8) : Bool :=
  2 ≤ (trim value).length && (trim value).head? == some 0x7B && (trim value).getLast? == some 0x7D

/-- Lines 612-676, for a `scroll` object. -/
def parseScrollFields (scroll : List UInt8) : Except ConfigParseStatus EncoderScrollConfig := do
  let enabled ← optionalField scroll "enabled" boolValue
  let mode ← optionalField scroll "mode" (readNamed parseRotationMode)
  let axis ← optionalField scroll "axis" (readNamed parseScrollAxis)
  let speed ← optionalField scroll "speed" intValue
  let reverseVertical ← optionalField scroll "reverse_vertical" boolValue
  let reverseHorizontal ← optionalField scroll "reverse_horizontal" boolValue
  let macosReverseVertical ← optionalField scroll "macos_reverse_vertical" boolValue
  let macosReverseHorizontal ← optionalField scroll "macos_reverse_horizontal" boolValue
  let windowsReverseVertical ← optionalField scroll "windows_reverse_vertical" boolValue
  let windowsReverseHorizontal ← optionalField scroll "windows_reverse_horizontal" boolValue
  return {
    enabled := enabled.getD true
    mode := mode.getD .scroll
    axis := axis.getD .vertical
    speed := (speed.map clampScrollSpeed).getD 3
    reverseVertical := reverseVertical.getD false
    reverseHorizontal := reverseHorizontal.getD false
    macosReverseVertical := macosReverseVertical.getD (reverseVertical.getD false)
    macosReverseHorizontal := macosReverseHorizontal.getD (reverseHorizontal.getD false)
    windowsReverseVertical := windowsReverseVertical.getD (reverseVertical.getD false)
    windowsReverseHorizontal := windowsReverseHorizontal.getD (reverseHorizontal.getD false) }

def parseEncoderScrollConfig (encoder : List UInt8) : Except ConfigParseStatus EncoderScrollConfig :=
  match fieldValue encoder (ascii "scroll") with
  | none => .ok {}
  | some scroll => if isObjectShaped scroll then parseScrollFields scroll else .error .invalidJson

/-! ## The payload -/

/-- Lines 708-713. -/
def checkSchema (json : List UInt8) : Except ConfigParseStatus Unit :=
  if (fieldValue json (ascii "schema")).bind stringValue = some (ascii "ai_keyboard.v1") then .ok ()
    else .error .invalidSchema

def isValidEpoch (epoch : Int) : Bool := !(epoch ≤ 0) && !(epoch > 65535)

/-- Lines 771-799: the key and its epoch come together. -/
def parseSpeakerSync (json : List UInt8) : Except ConfigParseStatus (Option (List UInt8 × UInt16)) :=
  match fieldValue json (ascii "speaker_sync_key"), fieldValue json (ascii "speaker_sync_key_epoch") with
  | none, none => .ok none
  | some key, some epoch =>
    match readString isValidSpeakerSyncKey key, (intValue epoch).filter isValidEpoch with
    | some key, some epoch => .ok (some (key, UInt16.ofNat epoch.toNat))
    | _, _ => .error .invalidJson
  | _, _ => .error .invalidJson

/-- Lines 864-881: the keys and the encoder of the first profile. -/
def parseProfile (json : List UInt8) : Except ConfigParseStatus (List UInt8 × List UInt8) :=
  match (fieldValue json (ascii "profiles")).bind firstArrayValue with
  | none => .error .missingProfile
  | some profile =>
    match fieldValue profile (ascii "keys"), fieldValue profile (ascii "encoder") with
    | some keys, some encoder => .ok (keys, encoder)
    | _, _ => .error .missingBinding

/-- The actions under several names, up to the first that is refused. -/
def parseActions (parse : String → Except ConfigParseStatus Action) :
    List String → Except ConfigParseStatus (List Action)
  | [] => .ok []
  | name :: names => do
    let action ← parse name
    let actions ← parseActions parse names
    return action :: actions

def actionMatches (actions : List Action) (input : Nat) (kind : ActionKind) (hotkey : String) : Bool :=
  match actions[input]? with
  | none => false
  | some action => action.kind == kind && action.hotkey == ascii hotkey

/-- The keys `KEY5` to `KEY8` hold these hotkeys. -/
def tailMatches (actions : List Action) (key5 key6 key7 key8 : String) : Bool :=
  actionMatches actions 4 .hotkey key5 && actionMatches actions 5 .hotkey key6 &&
    actionMatches actions 6 .hotkey key7
    && actionMatches actions 7 .hotkey key8

/-- Lines 901-934: an old factory keymap becomes the semantic one. -/
def migrateKeys (actions : List Action) : List Action :=
  let factoryPrefix := actionMatches actions 0 .voicePttHold "" && actionMatches actions 1 .hotkey "Return"
    && actionMatches actions 2 .editPttHold "" && actionMatches actions 3 .hotkey "Backspace"
  let legacyMacosTail :=
    actionMatches actions 4 .hotkey "Meta+A" && actionMatches actions 5 .hotkey "Meta+C"
    && actionMatches actions 6 .hotkey "Meta+V"
    && (actionMatches actions 7 .hotkey "Ctrl+Tab" || actionMatches actions 7 .disabled "")
  if factoryPrefix && (legacyMacosTail || tailMatches actions "Meta+A" "Meta+C" "Meta+V" "Meta+Z"
      || tailMatches actions "Ctrl+A" "Ctrl+C" "Ctrl+V" "Ctrl+Z") then
    actions.take 4 ++ [{ kind := .selectAll }, { kind := .copy }, { kind := .paste }, { kind := .undo }]
  else actions

/-- The source of a hotkey: the one that is written, else the platform for a factory preset, else
the user. -/
def resolveSource (hotkey : Option (List UInt8)) (source : Option HotkeySource)
    (legacy : Bool) : HotkeySource :=
  match source with
  | some source => source
  | none => if legacy then .platformDefault else if hotkey.isSome then .custom else .platformDefault

/-- Lines 961-980, and `ConfigState::set_target_platform`: everything that the platform decides. -/
def ParsedKeyboardConfig.resolve (config : ParsedKeyboardConfig) (platform : HostPlatform) :
    ParsedKeyboardConfig :=
  { config with
    targetPlatform := platform
    pttHotkey := if config.pttHotkeySource = .platformDefault then defaultPttHotkey platform else
      config.pttHotkey
    editPttHotkey :=
      if config.editPttHotkeySource = .platformDefault then defaultEditPttHotkey platform else
        config.editPttHotkey
    encoderScroll := { config.encoderScroll with
      reverseVertical := if platform = .windows then config.encoderScroll.windowsReverseVertical
        else config.encoderScroll.macosReverseVertical
      reverseHorizontal := if platform = .windows then config.encoderScroll.windowsReverseHorizontal
        else config.encoderScroll.macosReverseHorizontal } }

def parseConfigPayload (json : List UInt8) : Except ConfigParseStatus ParsedKeyboardConfig := do
  let platform ← optionalField json "target_platform" (readNamed parseHostPlatform)
  checkSchema json
  let _ ← optionalField json "audio_source" (readString isValidAudioSource)
  let _ ← optionalField json "microphone_source" (readString isValidMicrophoneSource)
  let wifiSsid ← optionalField json "wifi_ssid" stringValue
  let wifiPassword ← optionalField json "wifi_password" stringValue
  let audioHost ← optionalField json "audio_host" stringValue
  let audioPort ← optionalField json "audio_port" fun raw => (intValue raw).filter isValidAudioPort
  let speakerSync ← parseSpeakerSync json
  let _ ← optionalField json "audio_enabled" boolValue
  let pttHotkey ← optionalField json "ptt_hotkey" (readString (· ≠ []))
  let pttHotkeySource ← optionalField json "ptt_hotkey_source" (readNamed parseHotkeySource)
  let editPttHotkey ← optionalField json "edit_ptt_hotkey" (readString (· ≠ []))
  let editPttHotkeySource ← optionalField json "edit_ptt_hotkey_source" (readNamed parseHotkeySource)
  let pttMode ← optionalField json "hotkey_mode" (readNamed parsePttMode)
  let (keys, encoder) ← parseProfile json
  let keyActions ← parseActions (parseBinding keys) ["KEY1", "KEY2", "KEY3",
    "KEY4", "KEY5", "KEY6", "KEY7", "KEY8"]
  let encoderActions ← parseActions (parseEncoderAction encoder) ["left", "right", "press"]
  let encoderScroll ← parseEncoderScrollConfig encoder
  let config : ParsedKeyboardConfig := {
    pttHotkey := pttHotkey.getD (ascii "RightMeta")
    editPttHotkey := editPttHotkey.getD (ascii "RightOption")
    pttHotkeySource := resolveSource pttHotkey pttHotkeySource
      (isLegacyFactoryPttHotkey (pttHotkey.getD (ascii "RightMeta")))
    editPttHotkeySource := resolveSource editPttHotkey editPttHotkeySource
      (isLegacyFactoryEditPttHotkey (editPttHotkey.getD (ascii "RightOption")))
    pttHotkeySourceExplicit := pttHotkeySource.isSome
    editPttHotkeySourceExplicit := editPttHotkeySource.isSome
    targetPlatformExplicit := platform.isSome
    pttMode := pttMode.getD .hold
    wifiSsid := wifiSsid.getD []
    wifiPassword := wifiPassword.getD []
    audioHost := audioHost.getD []
    audioPort := audioPort.getD defaultAudioPort
    speakerSyncKey := (speakerSync.map (·.1)).getD []
    speakerSyncKeyEpoch := (speakerSync.map (·.2)).getD 0
    keymap := migrateKeys keyActions ++ encoderActions
    encoderScroll }
  return config.resolve (platform.getD .macOS)

/-! ## The state -/

structure ConfigState where
  current : ParsedKeyboardConfig := {}
  lastAppliedJson : List UInt8 := []
deriving DecidableEq, Repr

namespace ConfigState

def setTargetPlatform (s : ConfigState) (platform : HostPlatform) : ConfigState :=
  { s with current := s.current.resolve platform }

def applyJson (s : ConfigState) (json : List UInt8) : Except ConfigParseStatus Unit × ConfigState :=
  match parseConfigPayload json with
  | .error status => (.error status, s)
  | .ok config =>
    let platform := if config.targetPlatformExplicit then config.targetPlatform else
      s.current.targetPlatform
    (.ok (),
      { ({ s with
        current := config } : ConfigState).setTargetPlatform platform with lastAppliedJson := json })

def audioEnabled (s : ConfigState) : Bool :=
  s.current.wifiSsid != [] && s.current.audioHost != [] && 1024 ≤ s.current.audioPort &&
    s.current.audioPort ≤ 65535

end ConfigState

end CodexKeyboard.Keyboard
