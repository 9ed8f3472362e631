import CodexKeyboard.Keyboard.StatusSize
import CodexKeyboard.Keyboard.StatusText
/-!
# The views of the configuration status

Each view, field by field, and from it what the two builders return.
-/

namespace CodexKeyboard.Keyboard

open Lib

/-! ## The views read -/

section Views

variable {snapshot : ConfigStatusSnapshot} {probe : Bool}

theorem isUtf8_row (h : snapshot.IsText) {row : List String × List UInt8 × List UInt8}
    (hrow : row ∈ statusStrings snapshot probe) :
    IsUtf8 row.2.1 := by
  cases probe with
  | false => exact h row hrow
  | true =>
    have hset :
      statusStrings snapshot true =
      (statusStrings snapshot false).set 3 (["status"], [], ascii "probe") := rfl
    rw [hset] at hrow
    rcases List.mem_or_eq_of_mem_set hrow with hmem | rfl
    · exact h row hmem
    · exact isUtf8_nil

theorem utf8_plain {name : String} (h : plainName name = true) : utf8 name.toList = ascii name := by
  rw [plainName] at h
  rw [ascii]
  generalize name.toList = chars at h
  induction chars with
  | nil => rfl
  | cons c chars ih =>
    rw [List.all_cons, Bool.and_eq_true] at h
    simp only [Bool.and_eq_true, decide_eq_true_eq, bne_iff_ne] at h
    rw [utf8_cons, utf8EncodeChar_of_le h.1.1.1.2, ih h.2]
    rfl

/-- Fields with scalars whose strings say what stands at their path. -/
def Scalars (snapshot : ConfigStatusSnapshot) (probe : Bool) (path : String → List String) :
    List String → List Field → Prop :=
  Members fun name => IsScalar (Says snapshot probe (path name))

variable {path : String → List String}

theorem scalars_bool {name : String} (hplain : plainName name = true) (value : Bool) :
    Scalars snapshot probe path [name] (appendBoolField name value) :=
      members_singleton hplain (derives_bool value) trivial

theorem scalars_uint {name : String} (hplain : plainName name = true) (value : UInt32) :
    Scalars snapshot probe path [name] (appendUintField name value) :=
      members_singleton hplain (derives_uint _) trivial

theorem scalars_uint64 {name : String} (hplain : plainName name = true) (value : UInt64) :
    Scalars snapshot probe path [name] (appendUint64Field name value) :=
      members_singleton hplain (derives_uint _) trivial

theorem scalars_int {name : String} (hplain : plainName name = true) (value : Int32) :
    Scalars snapshot probe path [name] (appendIntField name value) :=
      members_singleton hplain (derives_int _) trivial

/-- A string that is not cut. -/
theorem scalars_whole {name : String} {value fallback : List UInt8} {i : Nat} (h : snapshot.IsText)
    (hplain : plainName name = true)
    (hrow : (statusStrings snapshot probe)[i]? = some (path name, value, fallback)) :
    Scalars snapshot probe path [name] [(name, quoted (escapeJsonString value))] := by
  obtain ⟨chars, rfl⟩ : IsUtf8 value := isUtf8_row h (List.mem_of_getElem? hrow)
  exact members_singleton hplain (derives_quoted (stringBody_escape chars))
    ⟨_, List.mem_of_getElem? hrow, rfl, .inl List.prefix_rfl⟩

theorem scalars_bounded {name : String} {value fallback : List UInt8} {maxEncodedLen i : Nat}
    (h : snapshot.IsText)
    (hplain : plainName name = true)
    (hrow : (statusStrings snapshot probe)[i]? = some (path name, value, fallback)) :
    Scalars snapshot probe path [name] (appendBoundedStringField name value maxEncodedLen none) := by
  refine members_ite (fun _ => members_nil) fun _ => ?_
  obtain ⟨chars, rfl⟩ : IsUtf8 value := isUtf8_row h (List.mem_of_getElem? hrow)
  obtain ⟨before, ⟨after, rfl⟩, hbody⟩ := escapeJsonStringBounded_utf8 chars maxEncodedLen
  refine members_singleton hplain (derives_quoted hbody) ⟨_, List.mem_of_getElem? hrow,
    rfl, .inl ⟨utf8 after, ?_⟩⟩
  exact (utf8_append before after).symm

/-- An empty value has its fallback, which fits. -/
theorem scalars_fallback {name fallback : String} {value : List UInt8} {maxEncodedLen i : Nat}
    (h : snapshot.IsText)
    (hplain : plainName name = true)
    (hrow : (statusStrings snapshot probe)[i]? = some (path name, value, ascii fallback))
    (hfallback : plainName fallback = true)
    (hfits : escapeJsonStringBounded (ascii fallback) maxEncodedLen = ascii fallback) :
    Scalars snapshot probe path [name]
      (appendBoundedStringField name value maxEncodedLen (some fallback)) := by
  refine members_ite (fun hnone => nomatch hnone.2) fun _ => ?_
  by_cases hempty : value = []
  · rw [selectedString, if_pos hempty, hfits]
    exact members_singleton hplain (derives_quoted (stringBody_plain hfallback))
      ⟨_, List.mem_of_getElem? hrow, rfl, .inr ⟨hempty, utf8_plain hfallback⟩⟩
  · rw [selectedString, if_neg hempty]
    obtain ⟨chars, rfl⟩ : IsUtf8 value := isUtf8_row h (List.mem_of_getElem? hrow)
    obtain ⟨before, ⟨after, rfl⟩, hbody⟩ := escapeJsonStringBounded_utf8 chars maxEncodedLen
    refine members_singleton hplain (derives_quoted hbody) ⟨_, List.mem_of_getElem? hrow,
      rfl, .inl ⟨utf8 after, ?_⟩⟩
    exact (utf8_append before after).symm

/-- A short string is not cut. -/
theorem scalars_string {name : String} {value fallback : List UInt8} {i : Nat} (h : snapshot.IsText)
    (hplain : plainName name = true)
    (hrow : (statusStrings snapshot probe)[i]? = some (path name, value, fallback))
    (hshort : value.length ≤ statusStringMaxLen) :
    Scalars snapshot probe path [name] (appendStringField name value) := by
  refine members_ite (fun _ => members_nil) fun _ => ?_
  rw [clippedStatusString, if_pos hshort]
  exact scalars_whole h hplain hrow

/-- The fields of the object itself. -/
theorem members_of_scalars {names : List String} {fields : List Field}
    (h : Scalars snapshot probe (fun name => [name]) names fields) : Members
      (IsEntry (Says snapshot probe)) names fields :=
  members_mono h fun _ _ => isEntry_of_scalar

theorem members_object {name : String} {names : List String} {fields : List Field}
    (hplain : plainName name = true)
    (hnames : names.Nodup) (h : Scalars snapshot probe (fun inner => [name, inner]) names fields) :
    Members (IsEntry (Says snapshot probe)) [name] (appendObject name fields) := by
  obtain ⟨ms, hms, hfields⟩ :=
    @derives_writeFields (fun inner => IsScalar (Says snapshot probe [name, inner])) fields h.each
  have hkeys :=
    @keys_of_forall₂ (fun inner => IsScalar (Says snapshot probe [name, inner])) fields ms hfields
  refine @members_singleton _ name _ (.object (ms.map Member.entry)) hplain ?_ ?_
  · have htext : objectText fields = 0x7B :: (writeFields true fields ++ [0x7D]) := rfl
    rw [htext]
    exact .object hms
  · constructor
    · rw [List.map_map, show (fun m : List Char × Json => m.1) ∘ Member.entry = Member.key from rfl, hkeys]
      exact nodup_keys (hnames.sublist h.named)
    · intro member hmember
      obtain ⟨m, hm, rfl⟩ := List.mem_map.mp hmember
      obtain ⟨field, -, hkey, hscalar⟩ := forall₂_mem_right hfields hm
      exact ⟨field.1, hkey, hscalar⟩

/-- An object whose fields read as they should is a status. -/
theorem statusText_of_members {names : List String} {fields : List Field} (hnames : names.Nodup)
    (h : Members (IsEntry (Says snapshot probe)) names fields) :
    StatusText snapshot probe (objectText fields) := by
  obtain ⟨ms, htext, hfields⟩ := objectText_members h
  refine ⟨htext.isUtf8, ms, htext, ?_, fun m hm => ?_⟩
  · rw [@keys_of_forall₂ (IsEntry (Says snapshot probe)) fields ms hfields]
    exact nodup_keys (hnames.sublist h.named)
  · obtain ⟨field, -, hkey, hentry⟩ := forall₂_mem_right hfields hm
    exact ⟨field.1, hkey, hentry⟩

/-! ### Parts of the compact views -/

theorem members_capabilities (includeUsbManagement includeLegacy : Bool) :
    Members (IsEntry (Says snapshot probe)) ["capabilities"]
      (appendObject "capabilities" (capabilities snapshot includeUsbManagement includeLegacy)) := by
  have hlegacy :
    Scalars snapshot probe (fun inner => ["capabilities", inner])
    ["semantic_actions", "offline_platform_switch"]
      (if includeLegacy then
        appendBoolField "semantic_actions" snapshot.semanticActions ++
          appendBoolField "offline_platform_switch" snapshot.offlinePlatformSwitch
      else []) :=
    members_ite (fun _ => (scalars_bool (by decide) _).append (scalars_bool (by decide) _)) fun _ =>
      members_nil
  have hmax : Scalars snapshot probe (fun inner => ["capabilities", inner]) ["config_max_bytes"]
      [("config_max_bytes", uintText configMaxJsonLen)] := members_singleton (by decide)
      (derives_uint _) trivial
  have husb : Scalars snapshot probe (fun inner => ["capabilities", inner]) ["usb_management_v1"]
      (if includeUsbManagement then appendBoolField "usb_management_v1" snapshot.usbManagementV1 else []) :=
    members_ite (fun _ => scalars_bool (by decide) _) fun _ => members_nil
  exact members_object (by decide) (by decide) ((hlegacy.append hmax).append husb)

theorem members_syncCore (h : snapshot.IsText) (includeUsbManagement includeLegacy : Bool) :
    Members (IsEntry (Says snapshot false)) ["firmware", "phase", "status",
      "target_platform", "capabilities", "saved"]
      (appendSyncCore snapshot includeUsbManagement includeLegacy) := by
  have hfirmware :=
    members_of_scalars (@scalars_fallback snapshot false _ "firmware" "unknown" _ firmwareStringMaxLen 1 h
    (by decide) rfl (by decide) (by decide))
  have hphase :=
    members_of_scalars (@scalars_fallback snapshot false _ "phase" "status" _ compactStatusStringMaxLen 2 h
    (by decide) rfl (by decide) (by decide))
  have hstatus :=
    members_of_scalars
    (@scalars_fallback snapshot false _ "status" "unknown" _ compactStatusStringMaxLen 3 h
    (by decide) rfl (by decide) (by decide))
  have hplatform :=
    members_of_scalars
    (@scalars_fallback snapshot false _ "target_platform" "macos" _ compactStatusStringMaxLen 4
    h (by decide) rfl (by decide) (by decide))
  have hsaved := members_of_scalars (@scalars_bool snapshot false _ "saved" (by decide) snapshot.saved)
  exact ((((hfirmware.append hphase).append hstatus).append hplatform).append
    (members_capabilities _ _)).append hsaved

theorem members_batterySummary (h : snapshot.IsText) (includeDetail : Bool) :
    Members (IsEntry (Says snapshot probe))
      ["battery_mv", "battery_percent", "battery_raw_mv", "battery_state",
        "battery_sample_age_ms", "battery_full_anchor"]
      (appendBatterySummary snapshot includeDetail) := by
  have hdetail : Scalars snapshot probe (fun name => [name])
      ["battery_raw_mv", "battery_state", "battery_sample_age_ms", "battery_full_anchor"]
      (if !includeDetail || snapshot.battery.state = [] then []
      else
        appendUintField "battery_raw_mv" snapshot.battery.rawMv.toUInt32 ++
        appendBoundedStringField "battery_state" snapshot.battery.state compactStatusStringMaxLen none ++
        appendUintField "battery_sample_age_ms" snapshot.battery.sampleAgeMs ++
        appendBoolField "battery_full_anchor" snapshot.battery.fullAnchorReady) :=
    members_ite (fun _ => members_nil) fun _ => (((scalars_uint (by decide) _).append
      (@scalars_bounded _ _ _ "battery_state" _ [] _ 8 h (by decide) rfl)).append
        (scalars_uint (by decide) _)).append
        (scalars_bool (by decide) _)
  exact members_of_scalars
    (((scalars_uint (by decide) _).append (scalars_uint (by decide) _)).append hdetail)

theorem members_compactPower (h : snapshot.IsText) :
    Members (IsEntry (Says snapshot probe)) ["power"] (appendCompactPower snapshot.power) := by
  refine members_ite (fun _ => members_nil) fun _ =>
    members_object (by decide) ?_ (((scalars_bool (by decide) _).append
    (@scalars_fallback _ _ _ "mode" "unknown" _ _ 17 h (by decide) rfl (by decide) (by decide))).append
      (@scalars_fallback _ _ _ "last_wake" "unknown" _ _ 18 h (by decide) rfl (by decide) (by decide)))
  decide

theorem members_compactDiagnostics (h : snapshot.IsText) (includeDetails : Bool) :
    Members (IsEntry (Says snapshot probe)) ["diag"]
      (appendCompactDiagnostics snapshot.diagnostics includeDetails) := by
  have hdetails :
    Scalars snapshot probe (fun inner => ["diag", inner]) ["keys", "enc", "last", "in_drop", "enc_drop"]
      (if !includeDetails then []
      else
        appendBoundedStringField "keys" snapshot.diagnostics.keys compactStatusStringMaxLen none ++
        appendBoundedStringField "enc" snapshot.diagnostics.encoder compactStatusStringMaxLen none ++
        appendBoundedStringField "last" snapshot.diagnostics.lastInput 24 none ++
        appendUintField "in_drop" snapshot.diagnostics.inputDrops ++
        appendUintField "enc_drop" snapshot.diagnostics.encoderDrops) :=
    members_ite (fun _ => members_nil) fun _ =>
      ((((@scalars_bounded _ _ _ "keys" _ [] _ 21 h (by decide) rfl).append
      (@scalars_bounded _ _ _ "enc" _ [] _ 22 h (by decide) rfl)).append
        (@scalars_bounded _ _ _ "last" _ [] _ 23 h (by decide) rfl)).append
          (scalars_uint (by decide) _)).append
          (scalars_uint (by decide) _)
  refine members_ite (fun _ => members_nil) fun _ =>
    members_object (by decide) ?_ (((scalars_bool (by decide) _).append
    (@scalars_bounded _ _ _ "board" _ [] _ 20 h (by decide) rfl)).append hdetails)
  decide

theorem members_compactAudio (h : snapshot.IsText) (includeLastError : Bool) :
    Members (IsEntry (Says snapshot probe)) ["audio"]
      (appendCompactAudio snapshot.audio includeLastError) := by
  have hport : Scalars snapshot probe (fun inner => ["audio", inner]) ["port"]
      (if snapshot.audio.port > 0 then appendIntField "port" snapshot.audio.port else []) :=
    members_ite (fun _ => scalars_int (by decide) _) fun _ => members_nil
  have hlastError : Scalars snapshot probe (fun inner => ["audio", inner]) ["last_error"]
      (if includeLastError then
        appendBoundedStringField "last_error" snapshot.audio.lastError 32 none else []) :=
    members_ite (fun _ => @scalars_bounded _ _ _ "last_error" _ [] _ 16 h (by decide) rfl) fun _ =>
      members_nil
  refine members_ite (fun _ => members_nil) fun _ => members_object (by decide) ?_ (
    scalars_bool (by decide) _
      |>.append (scalars_bool (by decide) _)
      |>.append (@scalars_fallback _ _ _ "source" "unknown" _ _ 9 h (by decide) rfl (by decide) (by decide))
      |>.append (@scalars_bounded _ _ _ "microphone_source" _ [] _ 10 h (by decide) rfl)
      |>.append (@scalars_bounded _ _ _ "capture" _ [] _ 11 h (by decide) rfl)
      |>.append (@scalars_bounded _ _ _ "control_state" _ [] _ 15 h (by decide) rfl)
      |>.append (@scalars_bounded _ _ _ "host" _ [] _ 12 h (by decide) rfl) |>.append hport
        |>.append hlastError)
  decide

theorem scalars_speakerCore (speaker : SpeakerProbeSnapshot) :
    Scalars snapshot probe (fun inner => ["spk", inner]) ["v", "g", "st", "r", "e", "x"]
      (speakerCore speaker) :=
  scalars_uint (by decide) _
    |>.append (scalars_uint (by decide) _) |>.append (scalars_uint (by decide) _)
      |>.append (scalars_uint (by decide) _)
    |>.append (scalars_uint (by decide) _) |>.append (scalars_int (by decide) _)

theorem members_speakerBoot : ∀ speaker : Option SpeakerProbeSnapshot,
    Members (IsEntry (Says snapshot probe)) ["spk"] (appendCompactSpeakerBoot speaker)
  | none => members_nil
  | some speaker =>
    members_ite (fun _ => members_nil) fun _ =>
      members_object (by decide) (by decide) (scalars_speakerCore speaker)

theorem members_fingerprint (h : snapshot.IsText) (includeDetails : Bool) :
    Members (IsEntry (Says snapshot probe)) ["bytes", "crc16",
      "ptt_hotkey", "edit_ptt_hotkey", "hotkey_mode"]
      (fingerprint snapshot includeDetails) := by
  have hdetails :
    Scalars snapshot probe (fun name => [name]) ["ptt_hotkey", "edit_ptt_hotkey", "hotkey_mode"]
      (if includeDetails then
        appendBoundedStringField "ptt_hotkey" snapshot.pttHotkey 32 (some "") ++
        appendBoundedStringField "edit_ptt_hotkey" snapshot.editPttHotkey 32 (some "") ++
        appendBoundedStringField "hotkey_mode" snapshot.hotkeyMode compactStatusStringMaxLen (some "")
      else []) :=
    members_ite (fun _ =>
      ((@scalars_fallback _ _ _ "ptt_hotkey" "" _ _ 5 h (by decide) rfl (by decide) (by decide)).append
      (@scalars_fallback _ _ _ "edit_ptt_hotkey" "" _ _ 6 h (by decide) rfl (by decide) (by decide))).append
        (@scalars_fallback _ _ _ "hotkey_mode" "" _ _ 7 h (by decide) rfl (by decide) (by decide)))
          fun _ => members_nil
  exact members_of_scalars
    (((scalars_uint (by decide) _).append (scalars_uint (by decide) _)).append hdetails)

theorem members_schema : Members (IsEntry (Says snapshot probe)) ["schema"] [schemaField] := by
  have hplain : plainName "ai_keyboard.config_status.v1" = true := by decide
  exact members_singleton (by decide) (derives_quoted (stringBody_plain hplain))
    ⟨_, @List.mem_of_getElem? _ (statusStrings snapshot probe) 0 _ rfl, rfl, .inr ⟨rfl, utf8_plain hplain⟩⟩

/-- Every compact view is a status. -/
theorem statusText_compact (h : snapshot.IsText) (view : CompactView) :
    StatusText snapshot false (buildCompactStatusJson snapshot view) := by
  have hfingerprint :
    Members (IsEntry (Says snapshot false)) ["bytes", "crc16",
    "ptt_hotkey", "edit_ptt_hotkey", "hotkey_mode"]
      (if view.includeFingerprint then fingerprint snapshot view.includeFingerprintDetails else []) :=
    members_ite (fun _ => members_fingerprint h _) fun _ => members_nil
  have haudio : Members (IsEntry (Says snapshot false)) ["audio"]
      (if view.includeAudio then appendCompactAudio snapshot.audio view.includeAudioLastError else []) :=
    members_ite (fun _ => members_compactAudio h _) fun _ => members_nil
  have hpower : Members (IsEntry (Says snapshot false)) ["power"]
      (if view.includePower then appendCompactPower snapshot.power else []) :=
    members_ite (fun _ => members_compactPower h) fun _ => members_nil
  have hdiagnostics : Members (IsEntry (Says snapshot false)) ["diag"]
      (if view.includeDiagnostics then
        appendCompactDiagnostics snapshot.diagnostics view.includeDiagnosticDetails else []) :=
    members_ite (fun _ => members_compactDiagnostics h _) fun _ => members_nil
  have hspeaker : Members (IsEntry (Says snapshot false)) ["spk"]
      (if view.includeSpeakerBoot then appendCompactSpeakerBoot snapshot.speaker else []) :=
    members_ite (fun _ => members_speakerBoot _) fun _ => members_nil
  refine statusText_of_members ?_
    (members_schema.append (((((((members_syncCore h _ _).append hfingerprint).append
    (members_batterySummary h _)).append haudio).append hpower).append hdiagnostics).append hspeaker))
  decide

theorem scalars_speaker (speaker : SpeakerProbeSnapshot) :
    Scalars snapshot probe (fun inner => ["spk", inner])
      ["v", "g", "st", "r", "e", "x", "mg", "fu", "du", "mu", "n", "p",
        "sw", "h0", "h1", "hl", "hm", "pk", "rm"]
      (speakerFields speaker) :=
  scalars_speakerCore speaker
    |>.append (scalars_uint (by decide) _) |>.append (scalars_uint (by decide) _)
      |>.append (scalars_uint (by decide) _)
    |>.append (scalars_uint (by decide) _) |>.append (scalars_uint (by decide) _)
      |>.append (scalars_uint (by decide) _)
    |>.append (scalars_uint (by decide) _) |>.append (scalars_uint (by decide) _)
      |>.append (scalars_uint (by decide) _)
    |>.append (scalars_uint (by decide) _) |>.append (scalars_uint (by decide) _)
      |>.append (scalars_uint (by decide) _)
    |>.append (scalars_uint (by decide) _)

/-- The probe view is a status; its phase is the snapshot's. -/
theorem statusText_probe (h : snapshot.IsText) (hphase : snapshot.phase = ascii "spk_probe")
    (speaker : SpeakerProbeSnapshot) :
    StatusText snapshot true (objectText (probeFields snapshot speaker)) := by
  have hfirmware := members_of_scalars (@scalars_fallback snapshot true _ "firmware" "unknown" _ 36 1 h
    (by decide) rfl (by decide) (by decide))
  have hplatform :=
    members_of_scalars
    (@scalars_fallback snapshot true _ "target_platform" "macos" _ compactStatusStringMaxLen 4
    h (by decide) rfl (by decide) (by decide))
  have hphaseField : Members (IsEntry (Says snapshot true)) ["phase"]
      (appendBoundedStringField "phase" (ascii "spk_probe") compactStatusStringMaxLen none) := by
    rw [← hphase]
    exact members_of_scalars
      (@scalars_bounded snapshot true _ "phase" _ _ compactStatusStringMaxLen 2 h (by decide) rfl)
  have hplain : plainName "probe" = true := by decide
  have hstatus : Members (IsEntry (Says snapshot true)) ["status"]
      (appendBoundedStringField "status" (ascii "probe") compactStatusStringMaxLen none) :=
    members_singleton (by decide) (derives_quoted (stringBody_plain hplain))
      ⟨_, @List.mem_of_getElem? _ (statusStrings snapshot true) 3 _ rfl, rfl, .inr ⟨rfl, utf8_plain hplain⟩⟩
  have hcapabilities : Members (IsEntry (Says snapshot true)) ["capabilities"]
      (appendObject "capabilities" [("config_max_bytes", uintText configMaxJsonLen)]) :=
    members_object (by decide) (by decide) (members_singleton (by decide) (derives_uint _) trivial)
  have hcounts : Scalars snapshot true (fun name => [name]) (["saved"] ++ ["bytes"] ++ ["crc16"])
      (appendBoolField "saved" snapshot.saved ++ appendUintField "bytes" snapshot.bytes ++
        appendUintField "crc16" snapshot.crc16.toUInt32) :=
    ((scalars_bool (by decide) _).append (scalars_uint (by decide) _)).append (scalars_uint (by decide) _)
  have hspeaker :
    Members (IsEntry (Says snapshot true)) ["spk"] (appendObject "spk" (speakerFields speaker)) :=
    members_object (by decide) (by decide) (scalars_speaker speaker)
  have hall :=
    members_schema.append ((((((hfirmware.append hphaseField).append hstatus).append hplatform).append
    hcapabilities).append (members_of_scalars hcounts)).append hspeaker)
  have hfields : probeFields snapshot speaker = [schemaField] ++ (((((
      appendBoundedStringField "firmware" snapshot.firmware 36 (some "unknown") ++
      appendBoundedStringField "phase" (ascii "spk_probe") compactStatusStringMaxLen none) ++
      appendBoundedStringField "status" (ascii "probe") compactStatusStringMaxLen none) ++
      appendBoundedStringField "target_platform" snapshot.targetPlatform compactStatusStringMaxLen
        (some "macos")) ++
      appendObject "capabilities" [("config_max_bytes", uintText configMaxJsonLen)]) ++
      (appendBoolField "saved" snapshot.saved ++ appendUintField "bytes" snapshot.bytes ++
        appendUintField "crc16" snapshot.crc16.toUInt32) ++
          appendObject "spk" (speakerFields speaker)) := by
    rw [probeFields]
    simp only [List.append_assoc, List.singleton_append]
  rw [hfields]
  refine statusText_of_members ?_ hall
  decide

/-! ### The full view -/

/-- The strings that the full view cuts. -/
def clippedAudio (audio : AudioStatusSnapshot) : List (List UInt8) :=
  [audio.source, audio.microphoneSource, audio.capture, audio.host,
    audio.streamPhase, audio.stopReason, audio.controlState,
    audio.lastError]

def clippedPower (power : PowerDiagnosticsSnapshot) : List (List UInt8) :=
  power.mode :: power.lastWake :: if power.cycleSeq ≠ 0 then [power.cycleWake] else []

def clippedDiagnostics (diagnostics : BoardDiagnosticsSnapshot) : List (List UInt8) :=
  [diagnostics.board, diagnostics.keys, diagnostics.encoder, diagnostics.lastInput]

def clippedStrings (snapshot : ConfigStatusSnapshot) : List (List UInt8) :=
  (if snapshot.audio.reported then clippedAudio snapshot.audio else []) ++
  (if snapshot.power.mode = [] then [] else clippedPower snapshot.power) ++
  if !snapshot.audio.reported && snapshot.diagnostics.board ≠ [] then
    clippedDiagnostics snapshot.diagnostics else []

theorem scalars_fullAudio (h : snapshot.IsText)
    (hshort : ∀ value ∈ clippedAudio snapshot.audio, value.length ≤ statusStringMaxLen) :
    ∃ names : List String, names.Nodup ∧
      Scalars snapshot false (fun inner => ["audio", inner]) names (fullAudio snapshot.audio) := by
  simp only [clippedAudio, List.forall_mem_cons,
    List.not_mem_nil, false_implies, implies_true, and_true] at hshort
  obtain ⟨hsource, hmicrophone, hcapture, hhost, hphase, hreason, hcontrol, herror⟩ := hshort
  have hport : Scalars snapshot false (fun inner => ["audio", inner]) ["port"]
      (if snapshot.audio.port > 0 then appendIntField "port" snapshot.audio.port else []) :=
    members_ite (fun _ => scalars_int (by decide) _) fun _ => members_nil
  refine ⟨_, ?_, scalars_bool (by decide) _
    |>.append (@scalars_string _ _ _ "source" _ (ascii "unknown") 9 h (by decide) rfl hsource)
    |>.append (@scalars_string _ _ _ "microphone_source" _ [] 10 h (by decide) rfl hmicrophone)
    |>.append (@scalars_string _ _ _ "capture" _ [] 11 h (by decide) rfl hcapture)
    |>.append (@scalars_string _ _ _ "host" _ [] 12 h (by decide) rfl hhost) |>.append hport
    |>.append (scalars_uint (by decide) _) |>.append (scalars_uint (by decide) _)
      |>.append (scalars_uint (by decide) _)
    |>.append (scalars_uint (by decide) _) |>.append (scalars_uint (by decide) _)
      |>.append (scalars_uint (by decide) _)
    |>.append (scalars_uint (by decide) _) |>.append (scalars_uint (by decide) _)
      |>.append (scalars_uint64 (by decide) _)
    |>.append (@scalars_string _ _ _ "stream_phase" _ [] 13 h (by decide) rfl hphase)
    |>.append (@scalars_string _ _ _ "stop_reason" _ [] 14 h (by decide) rfl hreason)
    |>.append (@scalars_string _ _ _ "control_state" _ [] 15 h (by decide) rfl hcontrol)
    |>.append (@scalars_string _ _ _ "last_error" _ [] 16 h (by decide) rfl herror)⟩
  decide

theorem scalars_fullPower (h : snapshot.IsText)
    (hshort : ∀ value ∈ clippedPower snapshot.power, value.length ≤ statusStringMaxLen) :
    ∃ names : List String, names.Nodup ∧
      Scalars snapshot false (fun inner => ["power", inner]) names (fullPower snapshot.power) := by
  have hmode := hshort snapshot.power.mode List.mem_cons_self
  have hwake := hshort snapshot.power.lastWake (List.mem_cons_of_mem _ List.mem_cons_self)
  have hcycle : Scalars snapshot false (fun inner => ["power", inner])
      ["cycle_seq", "cycle_idle_ms", "cycle_deep_ms", "cycle_flags", "cycle_wake"]
      (if snapshot.power.cycleSeq ≠ 0 then
        appendUintField "cycle_seq" snapshot.power.cycleSeq ++
        appendUintField "cycle_idle_ms" snapshot.power.cycleIdleMs ++
        appendUintField "cycle_deep_ms" snapshot.power.cycleDeepMs ++
        appendUintField "cycle_flags" snapshot.power.cycleFlags ++
        appendStringField "cycle_wake" snapshot.power.cycleWake
      else []) := by
    refine members_ite (fun hseq => ?_) fun _ => members_nil
    have hcycleWake : snapshot.power.cycleWake.length ≤ statusStringMaxLen := by
      refine hshort _ (List.mem_cons_of_mem _ (List.mem_cons_of_mem _ ?_))
      rw [if_pos hseq]
      exact List.mem_singleton.mpr rfl
    exact ((((scalars_uint (by decide) _).append (scalars_uint (by decide) _)).append
      (scalars_uint (by decide) _)).append
      (scalars_uint (by decide) _)).append
        (@scalars_string _ _ _ "cycle_wake" _ [] 19 h (by decide) rfl hcycleWake)
  refine ⟨_, ?_, @scalars_string _ _ _ "mode" _ (ascii "unknown") 17 h (by decide) rfl hmode
    |>.append (scalars_uint (by decide) _) |>.append (scalars_uint (by decide) _)
      |>.append (scalars_uint (by decide) _)
    |>.append (scalars_uint (by decide) _) |>.append (scalars_uint (by decide) _)
      |>.append (scalars_uint (by decide) _)
    |>.append (@scalars_string _ _ _ "last_wake" _ (ascii "unknown") 18 h (by decide) rfl hwake)
    |>.append (scalars_uint (by decide) _) |>.append (scalars_bool (by decide) _) |>.append hcycle⟩
  decide

theorem scalars_fullDiagnostics (h : snapshot.IsText)
    (hshort : ∀ value ∈ clippedDiagnostics snapshot.diagnostics, value.length ≤ statusStringMaxLen) :
    ∃ names : List String, names.Nodup ∧
      Scalars snapshot false (fun inner => ["diag", inner]) names
        (fullDiagnostics snapshot.diagnostics) := by
  simp only [clippedDiagnostics, List.forall_mem_cons,
    List.not_mem_nil, false_implies, implies_true, and_true] at hshort
  obtain ⟨hboard, hkeys, hencoder, hlast⟩ := hshort
  refine ⟨_, ?_, @scalars_string _ _ _ "board" _ [] 20 h (by decide) rfl hboard
    |>.append (@scalars_string _ _ _ "keys" _ [] 21 h (by decide) rfl hkeys)
    |>.append (@scalars_string _ _ _ "enc" _ [] 22 h (by decide) rfl hencoder)
    |>.append (@scalars_string _ _ _ "last" _ [] 23 h (by decide) rfl hlast)
      |>.append (scalars_uint (by decide) _)
    |>.append (scalars_int (by decide) _) |>.append (scalars_int (by decide) _)
      |>.append (scalars_int (by decide) _)
    |>.append (scalars_int (by decide) _) |>.append (scalars_int (by decide) _)
      |>.append (scalars_int (by decide) _)
    |>.append (scalars_int (by decide) _) |>.append (scalars_uint (by decide) _)
      |>.append (scalars_uint (by decide) _)
    |>.append (scalars_uint (by decide) _) |>.append (scalars_uint (by decide) _)
      |>.append (scalars_uint (by decide) _)
    |>.append (scalars_uint (by decide) _) |>.append (scalars_uint (by decide) _)
      |>.append (scalars_uint (by decide) _)
    |>.append (scalars_uint (by decide) _)⟩
  decide

/-- The full view is a status if no string is cut. -/
theorem statusText_full (h : snapshot.IsText)
    (hshort : ∀ value ∈ clippedStrings snapshot, value.length ≤ statusStringMaxLen) :
    StatusText snapshot false (buildFullStatusJson snapshot) := by
  have hbase : Scalars snapshot false (fun name => [name])
      ["firmware", "phase", "status", "bytes", "crc16", "ptt_hotkey",
        "edit_ptt_hotkey", "hotkey_mode", "target_platform"]
      [("firmware", quoted (escapeJsonString snapshot.firmware)),
        ("phase", quoted (escapeJsonString snapshot.phase)),
        ("status", quoted (escapeJsonString snapshot.status)), ("bytes", uintText snapshot.bytes.toNat),
        ("crc16", uintText snapshot.crc16.toNat), ("ptt_hotkey",
          quoted (escapeJsonString snapshot.pttHotkey)),
        ("edit_ptt_hotkey", quoted (escapeJsonString snapshot.editPttHotkey)),
        ("hotkey_mode", quoted (escapeJsonString snapshot.hotkeyMode)),
        ("target_platform", quoted (escapeJsonString snapshot.targetPlatform))] :=
    (@scalars_whole _ _ _ "firmware" _ (ascii "unknown") 1 h (by decide) rfl).append <|
      (@scalars_whole _ _ _ "phase" _ (ascii "status") 2 h (by decide) rfl).append <|
      (@scalars_whole _ _ _ "status" _ (ascii "unknown") 3 h (by decide) rfl).append <|
      (members_singleton (by decide) (derives_uint _) trivial).append <|
      (members_singleton (by decide) (derives_uint _) trivial).append <|
      (@scalars_whole _ _ _ "ptt_hotkey" _ [] 5 h (by decide) rfl).append <|
      (@scalars_whole _ _ _ "edit_ptt_hotkey" _ [] 6 h (by decide) rfl).append <|
      (@scalars_whole _ _ _ "hotkey_mode" _ [] 7 h (by decide) rfl).append <|
      @scalars_whole _ _ _ "target_platform" _ (ascii "macos") 4 h (by decide) rfl
  have hcounts : Scalars snapshot false (fun name => [name]) ["saved", "battery_mv", "battery_percent"]
      [("saved", boolText snapshot.saved), ("battery_mv", uintText snapshot.batteryMv.toNat),
        ("battery_percent", uintText snapshot.batteryPercent.toNat)] :=
    (scalars_bool (by decide) snapshot.saved).append <|
      (members_singleton (by decide) (derives_uint _) trivial).append <|
      members_singleton (by decide) (derives_uint _) trivial
  have hbattery : Scalars snapshot false (fun name => [name])
      ["battery_raw_mv", "battery_state", "battery_sample_age_ms", "battery_full_anchor"]
      (if snapshot.battery.state = [] then []
      else
        [("battery_raw_mv", uintText snapshot.battery.rawMv.toNat),
          ("battery_state", quoted (escapeJsonString snapshot.battery.state)),
          ("battery_sample_age_ms", uintText snapshot.battery.sampleAgeMs.toNat),
          ("battery_full_anchor", boolText snapshot.battery.fullAnchorReady)]) :=
    members_ite (fun _ => members_nil) fun _ =>
      (members_singleton (by decide) (derives_uint _) trivial).append <|
      (@scalars_whole _ _ _ "battery_state" _ [] 8 h (by decide) rfl).append <|
      (members_singleton (by decide) (derives_uint _) trivial).append <| scalars_bool (by decide) _
  have haudio : Members (IsEntry (Says snapshot false)) ["audio"]
      (if snapshot.audio.reported then appendObject "audio" (fullAudio snapshot.audio) else []) := by
    refine members_ite (fun hreported => ?_) fun _ => members_nil
    obtain ⟨names, hnames, hfields⟩ := scalars_fullAudio h fun value hvalue => hshort value (by
      rw [clippedStrings, if_pos hreported]
      exact List.mem_append_left _ (List.mem_append_left _ hvalue))
    exact members_object (by decide) hnames hfields
  have hpower : Members (IsEntry (Says snapshot false)) ["power"]
      (if snapshot.power.mode = [] then [] else appendObject "power" (fullPower snapshot.power)) := by
    refine members_ite (fun _ => members_nil) fun hmode => ?_
    obtain ⟨names, hnames, hfields⟩ := scalars_fullPower h fun value hvalue => hshort value (by
      rw [clippedStrings, if_neg hmode]
      exact List.mem_append_left _ (List.mem_append_right _ hvalue))
    exact members_object (by decide) hnames hfields
  have hdiagnostics : Members (IsEntry (Says snapshot false)) ["diag"]
      (if !snapshot.audio.reported && snapshot.diagnostics.board ≠ [] then
        appendObject "diag" (fullDiagnostics snapshot.diagnostics)
      else []) := by
    refine members_ite (fun hboard => ?_) fun _ => members_nil
    obtain ⟨names, hnames, hfields⟩ := scalars_fullDiagnostics h fun value hvalue => hshort value (by
      rw [clippedStrings, if_pos hboard]
      exact List.mem_append_right _ hvalue)
    exact members_object (by decide) hnames hfields
  have hhead :=
    (members_of_scalars hbase).append ((members_capabilities true true).append (members_of_scalars hcounts))
  refine statusText_of_members ?_
    (members_schema.append ((((hhead.append (members_of_scalars hbattery)).append haudio).append
    hpower).append hdiagnostics))
  decide

end Views

/-! ### The full view is too long for a cut -/

theorem le_size_singleton {name : String} {text : List UInt8} {width : Nat} (h : width ≤ text.length) :
    cost name width ≤ size [(name, text)] := by
  rw [size_singleton, cost, cost]
  omega

theorem le_uint (value : Nat) : 1 ≤ (uintText value).length := by
  rw [uintText, List.length_map]
  exact Nat.length_toDigits_pos

theorem le_bool (value : Bool) : 4 ≤ (boolText value).length := by
  cases value
  · exact Nat.le_succ 4
  · exact Nat.le_refl 4

theorem le_quoted (body : List UInt8) : 2 + body.length ≤ (quoted body).length := by
  rw [quoted, List.length_append, List.length_append]
  show 2 + body.length ≤ 1 + body.length + 1
  omega

/-- No token is empty. -/
theorem le_escape : ∀ value : List UInt8, value.length ≤ (escapeJsonString value).length
  | [] => Nat.le_refl 0
  | byte :: value => by
    have htoken : ∀ n < 256, 1 ≤ (escapeByte (UInt8.ofNat n)).length := by decide +kernel
    have hbyte := htoken byte.toNat byte.toNat_lt
    have hrest := le_escape value
    rw [UInt8.ofNat_toNat] at hbyte
    rw [escapeJsonString, List.flatMap_cons, ← escapeJsonString, List.length_append, List.length_cons]
    omega

/-- A string that is cut has 48 bytes at least. -/
theorem le_cut {value : List UInt8} (name : String) (h : statusStringMaxLen < value.length) :
    cost name 50 ≤ size (appendStringField name value) := by
  have hne : value ≠ [] := by
    rintro rfl
    cases h
  have hclip := le_escape (clippedStatusString value statusStringMaxLen)
  have hquoted := le_quoted (escapeJsonString (clippedStatusString value statusStringMaxLen))
  rw [clippedStatusString, if_neg (Nat.not_le_of_lt h), List.length_take, Nat.min_eq_left (Nat.le_of_lt h),
    statusStringMaxLen] at hclip
  rw [appendStringField, if_neg hne]
  refine le_size_singleton (Nat.le_trans ?_ hquoted)
  rw [clippedStatusString, if_neg (Nat.not_le_of_lt h), statusStringMaxLen]
  omega

def capabilitiesLeast : Nat :=
  cost "semantic_actions" 4 + cost "offline_platform_switch" 4 + cost "config_max_bytes" 4 + cost
    "usb_management_v1" 4

theorem le_capabilities (snapshot : ConfigStatusSnapshot) :
    capabilitiesLeast ≤ size (capabilities snapshot true true) := by
  have hsemantic :
    cost "semantic_actions" 4 ≤ size (appendBoolField "semantic_actions" snapshot.semanticActions) :=
    le_size_singleton (le_bool _)
  have hoffline : cost "offline_platform_switch" 4 ≤
      size (appendBoolField "offline_platform_switch" snapshot.offlinePlatformSwitch) :=
        le_size_singleton (le_bool _)
  have husb :
    cost "usb_management_v1" 4 ≤ size (appendBoolField "usb_management_v1" snapshot.usbManagementV1) :=
    le_size_singleton (le_bool _)
  have hmax := size_fixed.2.1
  rw [capabilities, if_pos rfl, if_pos rfl, size_append, size_append, size_append, hmax, capabilitiesLeast]
  omega

/-- The fields every full view has. -/
def fullLeast : Nat :=
  cost "schema" 30 + cost "firmware" 2 + cost "phase" 2 + cost "status" 2 + cost "bytes" 1 + cost
    "crc16" 1 +
    cost "ptt_hotkey" 2 + cost "edit_ptt_hotkey" 2 + cost "hotkey_mode" 2 + cost "target_platform" 2 +
    cost "capabilities" (capabilitiesLeast + 1) + cost "saved" 4 + cost "battery_mv" 1 + cost
      "battery_percent" 1

theorem size_cons (field : Field) (fields : List Field) :
    size (field :: fields) = size [field] + size fields :=
  size_append [field] fields

theorem le_string (name : String) (body : List UInt8) : cost name 2 ≤ size [(name, quoted body)] :=
  le_size_singleton (Nat.le_trans (Nat.le_add_right 2 _) (le_quoted body))

/-- The fixed fields, and the two objects that may follow. -/
theorem le_full (snapshot : ConfigStatusSnapshot) :
    fullLeast + size (if snapshot.audio.reported then
      appendObject "audio" (fullAudio snapshot.audio) else []) +
      size (if snapshot.power.mode = [] then [] else appendObject "power" (fullPower snapshot.power)) + 1 ≤
      (buildFullStatusJson snapshot).length := by
  have hschema := size_fixed.1
  have hfirmware := le_string "firmware" (escapeJsonString snapshot.firmware)
  have hphase := le_string "phase" (escapeJsonString snapshot.phase)
  have hstatus := le_string "status" (escapeJsonString snapshot.status)
  have hbytes : cost "bytes" 1 ≤ size [("bytes", uintText snapshot.bytes.toNat)] :=
    le_size_singleton (le_uint _)
  have hcrc : cost "crc16" 1 ≤ size [("crc16", uintText snapshot.crc16.toNat)] :=
    le_size_singleton (le_uint _)
  have hptt := le_string "ptt_hotkey" (escapeJsonString snapshot.pttHotkey)
  have hedit := le_string "edit_ptt_hotkey" (escapeJsonString snapshot.editPttHotkey)
  have hmode := le_string "hotkey_mode" (escapeJsonString snapshot.hotkeyMode)
  have hplatform := le_string "target_platform" (escapeJsonString snapshot.targetPlatform)
  have hcapabilities : cost "capabilities" (capabilitiesLeast + 1) ≤
      size [("capabilities", objectText (capabilities snapshot true true))] := by
    refine le_size_singleton ?_
    rw [length_objectText (by simp [capabilities])]
    exact Nat.succ_le_succ (le_capabilities snapshot)
  have hsaved : cost "saved" 4 ≤ size [("saved", boolText snapshot.saved)] := le_size_singleton (le_bool _)
  have hmv : cost "battery_mv" 1 ≤ size [("battery_mv", uintText snapshot.batteryMv.toNat)] :=
    le_size_singleton (le_uint _)
  have hpercent :
    cost "battery_percent" 1 ≤ size [("battery_percent", uintText snapshot.batteryPercent.toNat)] :=
    le_size_singleton (le_uint _)
  rw [buildFullStatusJson, fullFields, length_objectText (List.cons_ne_nil _ _),
    size_cons, size_append, size_append, size_append,
    size_append, hschema, fullLeast]
  rw [size_cons _ (_ :: _), size_cons _ (_ :: _), size_cons _ (_ :: _),
    size_cons _ (_ :: _), size_cons _ (_ :: _),
    size_cons _ (_ :: _), size_cons _ (_ :: _), size_cons _ (_ :: _), size_cons _ (_ :: _),
      size_cons _ (_ :: _),
    size_cons _ (_ :: _), size_cons _ (_ :: _)]
  omega

theorem le_counter (name : String) (value : UInt32) : cost name 1 ≤ size (appendUintField name value) :=
  le_size_singleton (le_uint _)

theorem size_appendObject {name : String} {fields : List Field} (h : fields ≠ []) :
    size (appendObject name fields) = cost name (size fields + 1) := by
  rw [appendObject, size_singleton, length_objectText h]

/-- With audio alone the view is too long. -/
theorem le_full_audio {snapshot : ConfigStatusSnapshot} (h : snapshot.audio.reported = true) :
    configStatusGattSafeLen < (buildFullStatusJson snapshot).length := by
  have hfull := le_full snapshot
  have henabled : cost "enabled" 4 ≤ size (appendBoolField "enabled" snapshot.audio.enabled) :=
    le_size_singleton (le_bool _)
  have hpackets := le_counter "sent_packets" snapshot.audio.sentPackets
  have hbytes := le_counter "sent_bytes" snapshot.audio.sentBytes
  have hlast := le_counter "last_rms_milli" snapshot.audio.lastRmsMilli
  have hpeak := le_counter "peak_rms_milli" snapshot.audio.peakRmsMilli
  have hsend := le_counter "send_errors" snapshot.audio.sendErrors
  have hread := le_counter "read_errors" snapshot.audio.readErrors
  have hrecovery := le_counter "recovery_count" snapshot.audio.recoveryCount
  have hgeneration := le_counter "session_generation" snapshot.audio.sessionGeneration
  have hid : cost "session_id" 1 ≤ size (appendUint64Field "session_id" snapshot.audio.sessionId) :=
    le_size_singleton (le_uint _)
  have hne : fullAudio snapshot.audio ≠ [] := by
    simp only [fullAudio, List.append_assoc]
    exact List.cons_ne_nil _ _
  have haudio : cost "enabled" 4 + cost "sent_packets" 1 + cost "sent_bytes" 1 + cost "last_rms_milli" 1 +
      cost "peak_rms_milli" 1 + cost "send_errors" 1 + cost "read_errors" 1 + cost "recovery_count" 1 +
      cost "session_generation" 1 + cost "session_id" 1 ≤ size (fullAudio snapshot.audio) := by
    simp only [fullAudio, size_append]
    omega
  rw [if_pos h, size_appendObject hne, cost] at hfull
  have hleast :
    configStatusGattSafeLen <
    fullLeast + ((ascii "audio").length + (cost "enabled" 4 + cost "sent_packets" 1 +
      cost "sent_bytes" 1 + cost "last_rms_milli" 1 + cost "peak_rms_milli" 1 + cost "send_errors"
        1 + cost "read_errors" 1 +
      cost "recovery_count" 1 + cost "session_generation" 1 + cost "session_id" 1 + 1) + 4) + 1 := by
        decide +kernel
  omega

/-- Power fits only with strings that are not cut. -/
theorem le_full_power {snapshot : ConfigStatusSnapshot} (hmode : snapshot.power.mode ≠ [])
    (hcut : ∃ value ∈ clippedPower snapshot.power, statusStringMaxLen < value.length) :
    configStatusGattSafeLen < (buildFullStatusJson snapshot).length := by
  have hfull := le_full snapshot
  have hpoll := le_counter "poll_ms" snapshot.power.pollMs
  have hidle := le_counter "idle_ms" snapshot.power.idleMs
  have hentries := le_counter "deep_entries" snapshot.power.deepEntries
  have hdeep := le_counter "deep_ms" snapshot.power.deepMs
  have henter := le_counter "last_enter_ms" snapshot.power.lastEnterMs
  have hexit := le_counter "last_exit_ms" snapshot.power.lastExitMs
  have hedges := le_counter "wake_edges" snapshot.power.wakeEdges
  have husb : cost "usb" 4 ≤ size (appendBoolField "usb" snapshot.power.usb) :=
    le_size_singleton (le_bool _)
  have hmodeField : cost "mode" 2 ≤ size (appendStringField "mode" snapshot.power.mode) := by
    rw [appendStringField, if_neg hmode]
    exact le_string _ _
  have hne : fullPower snapshot.power ≠ [] := by simp [fullPower, appendUintField]
  have hpower :
    cost "mode" 50 + cost "poll_ms" 1 + cost "idle_ms" 1 + cost "deep_entries" 1 + cost "deep_ms" 1 +
      cost "last_enter_ms" 1 + cost "last_exit_ms" 1 + cost "wake_edges" 1 + cost "usb" 4 ≤
        size (fullPower snapshot.power) := by
    obtain ⟨value, hvalue, hlong⟩ := hcut
    have hwidest : cost "mode" 50 ≤ cost "mode" 2 + cost "last_wake" 50 ∧
      cost "mode" 50 ≤ cost "mode" 2 + cost "cycle_wake" 50 := by
      decide +kernel
    simp only [fullPower, size_append]
    rcases List.mem_cons.mp hvalue with rfl | hvalue
    · have hlongField := le_cut "mode" hlong
      omega
    rcases List.mem_cons.mp hvalue with rfl | hvalue
    · have hlongField := le_cut "last_wake" hlong
      omega
    split at hvalue
    · rename_i hseq
      rw [List.mem_singleton.mp hvalue] at hlong
      have hlongField := le_cut "cycle_wake" hlong
      rw [if_pos hseq, size_append]
      omega
    · cases hvalue
  rw [if_neg hmode, size_appendObject hne, cost] at hfull
  have hleast :
    configStatusGattSafeLen < fullLeast + ((ascii "power").length + (cost "mode" 50 + cost "poll_ms" 1 +
      cost "idle_ms" 1 + cost "deep_entries" 1 + cost "deep_ms" 1 + cost "last_enter_ms" 1 + cost
        "last_exit_ms" 1 +
      cost "wake_edges" 1 + cost "usb" 4 + 1) + 4) + 1 := by decide +kernel
  omega

/-- **No returned view is cut at a byte.** -/
theorem clipped_short {snapshot : ConfigStatusSnapshot}
    (hboard : snapshot.audio.reported = true ∨ snapshot.diagnostics.board = [])
    (hfits : (buildFullStatusJson snapshot).length ≤ configStatusGattSafeLen) :
    ∀ value ∈ clippedStrings snapshot, value.length ≤ statusStringMaxLen := by
  intro value hvalue
  refine Nat.le_of_not_lt fun hlong => ?_
  rw [clippedStrings] at hvalue
  have hsilent : snapshot.audio.reported = false := by
    cases hreported : snapshot.audio.reported with
    | false => rfl
    | true => exact absurd hfits (Nat.not_le_of_lt (le_full_audio hreported))
  rw [hsilent] at hvalue hboard
  rcases List.mem_append.mp hvalue with hvalue | hdiagnostics
  · rcases List.mem_append.mp hvalue with haudio | hpower
    · cases haudio
    · split at hpower
      · cases hpower
      · rename_i hmode
        exact absurd hfits (Nat.not_le_of_lt (le_full_power hmode ⟨value, hpower, hlong⟩))
  · rcases hboard with hreported | hboard
    · cases hreported
    · rw [hboard] at hdiagnostics
      simp at hdiagnostics

/-! ## The builders -/

/-- A text is one of the compact views. -/
def IsCompact (snapshot : ConfigStatusSnapshot) (text : List UInt8) : Prop :=
  ∃ view, text = buildCompactStatusJson snapshot view

theorem isCompact_battery (snapshot : ConfigStatusSnapshot) :
    IsCompact snapshot (batteryStatusJson snapshot) := by
  unfold batteryStatusJson
  refine firstFitting_of (IsCompact snapshot) _ ?_ ⟨_, rfl⟩
  simp only [List.forall_mem_cons, List.not_mem_nil, false_implies, implies_true, and_true]
  exact ⟨⟨_, rfl⟩, ⟨_, rfl⟩, ⟨_, rfl⟩⟩

theorem isCompact_diagnostics (snapshot : ConfigStatusSnapshot) :
    IsCompact snapshot (diagnosticsStatusJson snapshot) := by
  unfold diagnosticsStatusJson
  refine firstFitting_of (IsCompact snapshot) _ ?_ ⟨_, rfl⟩
  simp only [List.forall_mem_cons, List.not_mem_nil, false_implies, implies_true, and_true]
  exact ⟨⟨_, rfl⟩, ⟨_, rfl⟩⟩

/-- The full view comes first. -/
theorem audioStatusJson_cases (snapshot : ConfigStatusSnapshot) :
    if (buildFullStatusJson snapshot).length ≤ configStatusGattSafeLen then
      audioStatusJson snapshot = buildFullStatusJson snapshot
    else IsCompact snapshot (audioStatusJson snapshot) := by
  unfold audioStatusJson
  simp only [List.cons_append, List.nil_append, firstFitting]
  split
  · rfl
  · rename_i hlong
    split
    · exact ⟨_, rfl⟩
    refine firstFitting_of (IsCompact snapshot) _ ?_ ⟨_, rfl⟩
    intro text htext
    have hcontrolled :
      ∀ view, text ∈ (if snapshot.audio.controlState = [] then [] else
      [buildCompactStatusJson snapshot view]) →
        IsCompact snapshot text := by
      intro view hmem
      split at hmem
      · cases hmem
      · exact ⟨view, List.mem_singleton.mp hmem⟩
    simp only [List.mem_append, List.mem_cons, List.not_mem_nil, or_false] at htext
    rcases htext with (hmem | hcompact) | hmem
    · exact hcontrolled _ hmem
    · exact ⟨_, hcompact⟩
    · exact hcontrolled _ hmem

/-- What the builder returns: a probe view, the full view if it fits, or a compact one. -/
theorem buildConfigStatusJson_cases (snapshot : ConfigStatusSnapshot) :
    (∃ speaker, snapshot.probe = some speaker ∧
      buildConfigStatusJson snapshot = objectText (probeFields snapshot speaker)) ∨
    snapshot.probe = none ∧ ((snapshot.audio.reported = true ∨ snapshot.diagnostics.board = []) ∧
      (buildFullStatusJson snapshot).length ≤ configStatusGattSafeLen ∧
      buildConfigStatusJson snapshot = buildFullStatusJson snapshot ∨
      IsCompact snapshot (buildConfigStatusJson snapshot)) := by
  rw [buildConfigStatusJson]
  cases hprobe : snapshot.probe with
  | some speaker => exact .inl ⟨speaker, rfl, rfl⟩
  | none =>
    refine .inr ⟨rfl, ?_⟩
    dsimp only
    split
    · exact .inr (isCompact_battery snapshot)
    split
    · exact .inr (isCompact_diagnostics snapshot)
    · rename_i hboard
      have hother : snapshot.audio.reported = true ∨ snapshot.diagnostics.board = [] := by
        cases hreported : snapshot.audio.reported with
        | true => exact .inl rfl
        | false =>
          rw [hreported] at hboard
          simpa using hboard
      have hcases := audioStatusJson_cases snapshot
      split at hcases
      · exact .inl ⟨hother, ‹_›, hcases⟩
      · exact .inr hcases

/-- **The status is JSON, whatever is truncated.** If the strings of a snapshot are texts, both
builders return an object of the grammar with no key twice, and each string of it decodes to a
beginning of the snapshot's or to its fallback. Where the full view is tried, it does not fit as
soon as it cuts one of its strings. -/
theorem config_status_is_json (snapshot : ConfigStatusSnapshot) (h : snapshot.IsText) :
    StatusText snapshot snapshot.probe.isSome (buildConfigStatusJson snapshot) ∧
    StatusText snapshot false (buildConfigConfirmationStatusJson snapshot) ∧
    (snapshot.audio.reported = true ∨ snapshot.diagnostics.board = [] →
      (∃ value ∈ clippedStrings snapshot, statusStringMaxLen < value.length) →
      configStatusGattSafeLen < (buildFullStatusJson snapshot).length) := by
  refine ⟨?_, statusText_compact h _, fun hboard hcut => ?_⟩
  · rcases buildConfigStatusJson_cases snapshot with ⟨speaker, hprobe, htext⟩
      | ⟨hprobe, ⟨hboard, hfits, htext⟩ | ⟨view, htext⟩⟩
    · rw [htext, hprobe]
      exact statusText_probe h (probe_phase snapshot hprobe) speaker
    · rw [htext, hprobe]
      exact statusText_full h (clipped_short hboard hfits)
    · rw [htext, hprobe]
      exact statusText_compact h view
  · obtain ⟨value, hvalue, hlong⟩ := hcut
    exact Nat.lt_of_not_le fun hfits => Nat.not_le_of_lt hlong (clipped_short hboard hfits value hvalue)

/-- A power mode that the full view would cut inside a character. -/
def longMode : ConfigStatusSnapshot := { power := { mode := utf8 ('m' :: List.replicate 30 'é') } }

theorem config_status_is_json_long_mode : StatusText longMode false (buildConfigStatusJson longMode) ∧
    configStatusGattSafeLen < (buildFullStatusJson longMode).length := by
  have htext : longMode.IsText := by
    intro row hrow
    have hvalues : ∀ row ∈ statusStrings longMode false, row.2.1 = utf8 [] ∨ row.2.1 = utf8 "macos".toList ∨
        row.2.1 = utf8 ('m' :: List.replicate 30 'é') := by decide +kernel
    rcases hvalues row hrow with h | h | h
    · exact ⟨_, h⟩
    · exact ⟨_, h⟩
    · exact ⟨_, h⟩
  have hcut : ∃ value ∈ clippedStrings longMode, statusStringMaxLen < value.length := by decide +kernel
  obtain ⟨hstatus, -, hfull⟩ := config_status_is_json longMode htext
  exact ⟨hstatus, hfull (.inr rfl) hcut⟩

end CodexKeyboard.Keyboard
