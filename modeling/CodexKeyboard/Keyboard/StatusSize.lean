import CodexKeyboard.Keyboard.ConfigStatus
/-!
# The configuration status fits

Every text the builder returns was compared with the limit, or is a view whose widest values are
within it. The probe view needs the last byte.

* `size` — the bytes the fields of an object take, each with a comma.
* `Carries` — a text is an object with certain fields, whatever stands in its strings.
-/

namespace CodexKeyboard.Keyboard

/-! ## Texts of values -/

/-- One token of a string's body: no quote ends the string. -/
inductive EscapeToken : List UInt8 → Prop where
  | plain {byte : UInt8} (hcontrol : ¬ byte < 0x20) (hquote : byte ≠ 0x22) (hslash : byte ≠ 0x5C) :
    EscapeToken [byte]
  | short {byte : UInt8} (h : byte ∈ ascii "\"\\bfnrt") : EscapeToken [0x5C, byte]
  | unit {digits : List UInt8} (h : digits.length = 4)
    (hdigits : ∀ digit ∈ digits, digit ∈ ascii "0123456789ABCDEF") :
    EscapeToken (0x5C :: 0x75 :: digits)

inductive EscapedText : List UInt8 → Prop where
  | nil : EscapedText []
  | append {body token : List UInt8} (h : EscapedText body) (htoken : EscapeToken token) :
    EscapedText (body ++ token)

/-- What may stand behind the colon of a field. -/
inductive ValueText : List UInt8 → Prop where
  | string {body : List UInt8} (h : EscapedText body) : ValueText (quoted body)
  | bool (value : Bool) : ValueText (boolText value)
  | number (value : Int) : ValueText (intText value)
  | object {fields : List Field} (h : ∀ field ∈ fields, ValueText field.2) : ValueText (objectText fields)

theorem EscapedText.flatten {body : List UInt8} (h : EscapedText body) : ∀ tokens : List (List UInt8),
    (∀ token ∈ tokens, EscapeToken token) → EscapedText (body ++ tokens.flatten)
  | [], _ => by
    rw [List.flatten_nil, List.append_nil]
    exact h
  | token :: tokens, htokens => by
    rw [List.flatten_cons, ← List.append_assoc]
    exact (h.append (htokens _ List.mem_cons_self)).flatten tokens fun t ht =>
      htokens t (List.mem_cons_of_mem _ ht)

theorem escapeToken_escapeByte (byte : UInt8) : EscapeToken (escapeByte byte) := by
  have hdigit : ∀ n < 256, upperHexDigit (UInt8.ofNat n >>> 4) ∈ ascii "0123456789ABCDEF" ∧
      upperHexDigit (UInt8.ofNat n &&& 0x0F) ∈ ascii "0123456789ABCDEF" := by decide +kernel
  have hdigit := hdigit byte.toNat byte.toNat_lt
  rw [UInt8.ofNat_toNat] at hdigit
  rw [escapeByte]
  repeat' split
  · exact .short (by decide)
  · exact .short (by decide)
  · exact .short (by decide)
  · exact .short (by decide)
  · exact .short (by decide)
  · exact .short (by decide)
  · exact .short (by decide)
  · refine @EscapeToken.unit (ascii "00" ++ [_, _]) rfl ?_
    intro digit hmem
    rcases List.mem_append.mp hmem with hzero | hmem
    · rcases List.mem_cons.mp hzero with rfl | hzero
      · decide
      · rw [List.mem_singleton.mp hzero]
        decide
    · rcases List.mem_cons.mp hmem with rfl | hmem
      · exact hdigit.1
      · rw [List.mem_singleton.mp hmem]
        exact hdigit.2
  · exact .plain ‹_› ‹_› ‹_›

theorem escapedText_escapeJsonString (value : List UInt8) : EscapedText (escapeJsonString value) := by
  rw [escapeJsonString, List.flatMap_def]
  refine EscapedText.nil.flatten _ ?_
  intro token htoken
  obtain ⟨byte, -, rfl⟩ := List.mem_map.mp htoken
  exact escapeToken_escapeByte byte

/-- A sequence has no byte below 0x80. -/
theorem startsSequence_high {value : List UInt8} (h : startsSequence value = true)
    (hlead : ¬ value.headD 0 ≤ 0x7F) :
    ∀ byte ∈ value.take (sequenceLen (value.headD 0)), ¬ byte ≤ 0x7F := by
  cases value with
  | nil => exact absurd (by decide) hlead
  | cons lead rest =>
    rw [startsSequence] at h
    simp only [Bool.and_eq_true, List.all_eq_true] at h
    intro byte hbyte
    cases hlen : sequenceLen ((lead :: rest).headD 0) with
    | zero =>
      rw [hlen] at hbyte
      exact absurd hbyte List.not_mem_nil
    | succ n =>
      have hall := h.1.2
      rw [hlen] at hbyte hall
      rw [List.take_succ_cons] at hbyte hall
      rcases List.mem_cons.mp hbyte with rfl | hbyte
      · exact hlead
      · have htail := hall byte hbyte
        have hhigh : ∀ n < 256, (UInt8.ofNat n &&& 0xC0 == 0x80) = true → ¬ UInt8.ofNat n ≤ 0x7F :=
          by decide +kernel
        have hbyteHigh := hhigh byte.toNat byte.toNat_lt
        rw [UInt8.ofNat_toNat] at hbyteHigh
        exact hbyteHigh htail

theorem EscapedText.boundedToken {body : List UInt8} (h : EscapedText body) (value : List UInt8) :
    EscapedText (body ++ (boundedToken value).1) := by
  rw [Keyboard.boundedToken]
  split
  · exact h.append (escapeToken_escapeByte _)
  · split
    · rename_i hlead hstarts
      have hhigh := startsSequence_high hstarts hlead
      generalize value.take (sequenceLen (value.headD 0)) = bytes at hhigh
      have hflat : bytes = (bytes.map fun byte => [byte]).flatten := by
        rw [← List.flatMap_def, List.flatMap_singleton']
      rw [hflat]
      refine h.flatten _ ?_
      intro token htoken
      obtain ⟨byte, hbyte, rfl⟩ := List.mem_map.mp htoken
      have hbyte := hhigh byte hbyte
      refine .plain (fun hlt => hbyte ?_) ?_ ?_
      · exact UInt8.le_of_lt (UInt8.lt_of_lt_of_le hlt (by decide))
      · rintro rfl
        exact hbyte (by decide)
      · rintro rfl
        exact hbyte (by decide)
    · exact h.append (@EscapeToken.unit (ascii "FFFD") rfl (by decide +kernel))

/-- The loop keeps a body that is escaped and within its bound. -/
theorem escapeBounded_spec (maxEncodedLen : Nat) :
    ∀ (turns : Nat) (escaped value : List UInt8), EscapedText escaped →
    escaped.length ≤ maxEncodedLen → EscapedText (escapeBounded maxEncodedLen turns escaped value) ∧
      (escapeBounded maxEncodedLen turns escaped value).length ≤ maxEncodedLen
  | 0, escaped, value, htext, hlength => ⟨htext, hlength⟩
  | turns + 1, escaped, value, htext, hlength => by
    rw [escapeBounded]
    split
    · exact ⟨htext, hlength⟩
    · split
      · exact ⟨htext, hlength⟩
      · rename_i hroom
        refine escapeBounded_spec maxEncodedLen turns _ _ (htext.boundedToken value) ?_
        rw [List.length_append]
        omega

theorem escapedText_bounded (value : List UInt8) (maxEncodedLen : Nat) :
    EscapedText (escapeJsonStringBounded value maxEncodedLen) :=
  (escapeBounded_spec maxEncodedLen value.length [] value .nil (Nat.zero_le _)).1

theorem length_escapeJsonStringBounded (value : List UInt8) (maxEncodedLen : Nat) :
    (escapeJsonStringBounded value maxEncodedLen).length ≤ maxEncodedLen :=
  (escapeBounded_spec maxEncodedLen value.length [] value .nil (Nat.zero_le _)).2

theorem valueText_uint (value : Nat) : ValueText (uintText value) := by
  have hnumber := ValueText.number (value : Int)
  rw [intText, if_neg (by omega), Int.natAbs_natCast] at hnumber
  exact hnumber

/-! ## Fields -/

/-- Every field has a value behind its colon. -/
def Valued (fields : List Field) : Prop := ∀ field ∈ fields, ValueText field.2

@[simp] theorem valued_nil : Valued [] := nofun

@[simp] theorem valued_cons {field : Field} {fields : List Field} :
    Valued (field :: fields) ↔ ValueText field.2 ∧ Valued fields :=
  List.forall_mem_cons

@[simp] theorem valued_append {left right : List Field} :
    Valued (left ++ right) ↔ Valued left ∧ Valued right :=
  List.forall_mem_append

theorem valued_ite {p : Prop} [Decidable p] {left right : List Field} (hleft : Valued left)
    (hright : Valued right) :
    Valued (if p then left else right) := by
  split
  · exact hleft
  · exact hright

@[simp] theorem valued_string (name : String) (value : List UInt8) :
    Valued (appendStringField name value) :=
  valued_ite valued_nil (by simp [ValueText.string (escapedText_escapeJsonString _)])

@[simp] theorem valued_bounded (name : String) (value : List UInt8) (maxEncodedLen : Nat)
    (fallback : Option String) :
    Valued (appendBoundedStringField name value maxEncodedLen fallback) :=
  valued_ite valued_nil (by simp [ValueText.string (escapedText_bounded _ _)])

@[simp] theorem valued_bool (name : String) (value : Bool) : Valued (appendBoolField name value) := by
  simp [appendBoolField, ValueText.bool]

@[simp] theorem valued_uint (name : String) (value : UInt32) : Valued (appendUintField name value) := by
  simp [appendUintField, valueText_uint]

@[simp] theorem valued_uint64 (name : String) (value : UInt64) : Valued (appendUint64Field name value) := by
  simp [appendUint64Field, valueText_uint]

@[simp] theorem valued_int (name : String) (value : Int32) : Valued (appendIntField name value) := by
  simp [appendIntField, ValueText.number]

@[simp] theorem valued_object {name : String} {fields : List Field} (h : Valued fields) :
    Valued (appendObject name fields) := by
  simp [appendObject, ValueText.object h]

theorem valued_schema : ValueText schemaField.2 := by
  have hbody : EscapedText (escapeJsonString (ascii "ai_keyboard.config_status.v1")) :=
    escapedText_escapeJsonString _
  exact ValueText.string hbody

variable (snapshot : ConfigStatusSnapshot)

theorem valued_capabilities (includeUsbManagement includeLegacy : Bool) :
    Valued (capabilities snapshot includeUsbManagement includeLegacy) := by
  rw [capabilities, valued_append, valued_append]
  refine ⟨⟨valued_ite (by simp) valued_nil, ?_⟩, valued_ite (by simp) valued_nil⟩
  simp [valueText_uint]

theorem valued_syncCore (includeUsbManagement includeLegacy : Bool) :
    Valued (appendSyncCore snapshot includeUsbManagement includeLegacy) := by
  simp [appendSyncCore, valued_capabilities]

theorem valued_batterySummary (includeDetail : Bool) :
    Valued (appendBatterySummary snapshot includeDetail) := by
  rw [appendBatterySummary, valued_append, valued_append]
  exact ⟨⟨by simp, by simp⟩, valued_ite valued_nil (by simp)⟩

theorem valued_compactPower (power : PowerDiagnosticsSnapshot) : Valued (appendCompactPower power) :=
  valued_ite valued_nil (valued_object (by simp))

theorem valued_compactDiagnostics (diagnostics : BoardDiagnosticsSnapshot) (includeDetails : Bool) :
    Valued (appendCompactDiagnostics diagnostics includeDetails) := by
  refine valued_ite valued_nil (valued_object ?_)
  rw [valued_append]
  exact ⟨by simp, valued_ite valued_nil (by simp)⟩

theorem valued_compactAudio (audio : AudioStatusSnapshot) (includeLastError : Bool) :
    Valued (appendCompactAudio audio includeLastError) := by
  refine valued_ite valued_nil (valued_object ?_)
  rw [valued_append, valued_append]
  exact ⟨⟨by simp, valued_ite (by simp) valued_nil⟩, valued_ite (by simp) valued_nil⟩

theorem valued_speakerCore (speaker : SpeakerProbeSnapshot) : Valued (speakerCore speaker) := by
  simp [speakerCore]

theorem valued_speakerBoot :
    ∀ speaker : Option SpeakerProbeSnapshot, Valued (appendCompactSpeakerBoot speaker)
  | none => valued_nil
  | some speaker => valued_ite valued_nil (valued_object (valued_speakerCore speaker))

theorem valued_fingerprint (includeDetails : Bool) : Valued (fingerprint snapshot includeDetails) := by
  rw [fingerprint, valued_append]
  exact ⟨by simp, valued_ite (by simp) valued_nil⟩

theorem valued_compact (view : CompactView) : Valued (compactFields snapshot view) := by
  simp only [compactFields, valued_cons, valued_append]
  exact ⟨valued_schema,
    ⟨⟨⟨⟨⟨valued_syncCore snapshot _ _, valued_ite (valued_fingerprint snapshot _) valued_nil⟩,
    valued_batterySummary snapshot _⟩, valued_ite (valued_compactAudio _ _) valued_nil⟩,
    valued_ite (valued_compactPower _) valued_nil⟩, valued_ite (valued_compactDiagnostics _ _) valued_nil⟩,
    valued_ite (valued_speakerBoot _) valued_nil⟩

theorem valued_speaker (speaker : SpeakerProbeSnapshot) : Valued (speakerFields speaker) := by
  simp [speakerFields, valued_speakerCore]

theorem valued_probe (speaker : SpeakerProbeSnapshot) : Valued (probeFields snapshot speaker) := by
  simp [probeFields, valued_schema, valued_speaker, valueText_uint]

theorem valued_fullAudio (audio : AudioStatusSnapshot) : Valued (fullAudio audio) := by
  have hport : Valued (if audio.port > 0 then appendIntField "port" audio.port else []) :=
    valued_ite (by simp) valued_nil
  repeat' refine valued_append.mpr ⟨?_, ?_⟩
  all_goals first | exact hport | simp

theorem valued_fullPower (power : PowerDiagnosticsSnapshot) : Valued (fullPower power) := by
  rw [fullPower, valued_append]
  exact ⟨by simp, valued_ite (by simp) valued_nil⟩

theorem valued_fullDiagnostics (diagnostics : BoardDiagnosticsSnapshot) :
    Valued (fullDiagnostics diagnostics) := by
  repeat' refine valued_append.mpr ⟨?_, ?_⟩
  all_goals simp

theorem valued_full : Valued (fullFields snapshot) := by
  have hstring : ∀ value, ValueText (quoted (escapeJsonString value)) :=
    fun value => .string (escapedText_escapeJsonString value)
  have hcapabilities : ValueText (objectText (capabilities snapshot true true)) :=
    .object (valued_capabilities snapshot true true)
  simp only [fullFields, valued_cons, valued_append, valued_nil, valued_schema,
    hstring, valueText_uint, hcapabilities,
    ValueText.bool, and_true, true_and]
  refine ⟨⟨⟨valued_ite valued_nil ?_, valued_ite (valued_object (valued_fullAudio _)) valued_nil⟩,
    valued_ite valued_nil (valued_object (valued_fullPower _))⟩,
      valued_ite (valued_object (valued_fullDiagnostics _)) valued_nil⟩
  simp [hstring, valueText_uint, ValueText.bool]

/-! ## Contents -/

/-- The text is an object with fields of these names, and its `capabilities` have fields of those names. -/
def Carries (text : List UInt8) (names capabilityNames : List String) : Prop :=
  ∃ fields capabilityFields, text = objectText fields ∧ Valued fields ∧ names ⊆ fields.map (·.1) ∧
    ("capabilities", objectText capabilityFields) ∈ fields ∧ capabilityNames ⊆ capabilityFields.map (·.1)

def managementNames : List String :=
  ["firmware", "phase", "status", "target_platform", "capabilities", "saved"]

theorem boundedStringField_fallback (name : String) (value : List UInt8) (maxEncodedLen : Nat)
    (fallback : String) :
    appendBoundedStringField name value maxEncodedLen (some fallback) =
      [(name, quoted (escapeJsonStringBounded (selectedString value (some fallback)) maxEncodedLen))] := by
  rw [appendBoundedStringField, if_neg (by simp)]

theorem syncCore_names (includeUsbManagement includeLegacy : Bool) :
    (appendSyncCore snapshot includeUsbManagement includeLegacy).map (·.1) = managementNames := by
  simp only [appendSyncCore, boundedStringField_fallback]
  rfl

theorem capabilities_mem_compact (view : CompactView) :
    ("capabilities", objectText (capabilities snapshot view.includeUsbManagement view.includeLegacy)) ∈
      compactFields snapshot view := by
  simp only [compactFields, appendSyncCore, appendObject, List.mem_cons, List.mem_append, true_or, or_true]

theorem carries_compact (view : CompactView) :
    Carries (buildCompactStatusJson snapshot view) managementNames ["config_max_bytes"] := by
  refine ⟨_, _, rfl, valued_compact snapshot view, ?_, capabilities_mem_compact snapshot view, ?_⟩
  · intro name hname
    simp only [compactFields, List.map_cons, List.map_append, syncCore_names,
      List.mem_cons, List.mem_append, hname, true_or,
      or_true]
  · simp [capabilities]

/-- What a status has in the battery phase besides. -/
def batteryNames : List String := ["bytes", "crc16", "battery_mv", "battery_percent"]

def batteryCapabilities : List String := ["semantic_actions", "offline_platform_switch"]

/-- A view with the fingerprint and the legacy capabilities. -/
theorem carries_battery {view : CompactView} (hfingerprint : view.includeFingerprint = true)
    (hlegacy : view.includeLegacy = true) :
    Carries (buildCompactStatusJson snapshot view) (managementNames ++ batteryNames)
      ("config_max_bytes" :: batteryCapabilities) := by
  refine ⟨_, _, rfl, valued_compact snapshot view, ?_, capabilities_mem_compact snapshot view, ?_⟩
  · intro name hname
    have hbattery :
      ∀ includeDetail, ["battery_mv", "battery_percent"] ⊆
      (appendBatterySummary snapshot includeDetail).map (·.1) := by
      simp [appendBatterySummary, appendUintField]
    have hbytes :
      ∀ includeDetails, ["bytes", "crc16"] ⊆ (fingerprint snapshot includeDetails).map (·.1) := by
      simp [fingerprint, appendUintField]
    have hnames :
      name ∈ managementNames ∨ name ∈ ["bytes", "crc16"] ∨ name ∈ ["battery_mv", "battery_percent"] := by
      rw [← List.mem_append, ← List.mem_append]
      exact hname
    rw [compactFields, hfingerprint]
    simp only [if_true, List.map_cons, List.map_append, syncCore_names, List.mem_cons, List.mem_append]
    rcases hnames with hname | hname | hname
    · simp only [hname, true_or, or_true]
    · simp only [hbytes _ hname, true_or, or_true]
    · simp only [hbattery _ hname, true_or, or_true]
  · simp [capabilities, hlegacy, appendBoolField, batteryCapabilities]

theorem carries_full : Carries (buildFullStatusJson snapshot) managementNames ["config_max_bytes"] := by
  refine ⟨_, capabilities snapshot true true, rfl, valued_full snapshot, ?_, ?_, ?_⟩
  · simp [fullFields, managementNames]
  · simp [fullFields]
  · simp [capabilities]

theorem carries_probe (speaker : SpeakerProbeSnapshot) :
    Carries (objectText (probeFields snapshot speaker)) managementNames ["config_max_bytes"] := by
  refine ⟨_, [("config_max_bytes", uintText configMaxJsonLen)], rfl,
    valued_probe snapshot speaker, ?_, ?_, ?_⟩
  · simp [probeFields, managementNames, appendBoundedStringField, appendObject,
      appendBoolField, selectedString, ascii]
  · simp [probeFields, appendObject]
  · simp

/-! ## Sizes -/

/-- The bytes of the fields, each with a comma. -/
def size : List Field → Nat
  | [] => 0
  | field :: fields => field.line.length + 1 + size fields

@[simp] theorem size_append : ∀ left right : List Field, size (left ++ right) = size left + size right
  | [], right => (Nat.zero_add _).symm
  | field :: left, right => by
    rw [List.cons_append, size, size, size_append left right]
    omega

theorem length_writeFields : ∀ fields : List Field, (writeFields false fields).length = size fields
  | [] => rfl
  | field :: fields => by
    rw [writeFields, List.length_append, List.length_append, length_writeFields fields, size]
    show 1 + field.line.length + size fields = _
    omega

/-- Two braces and a comma less. -/
theorem length_objectText :
    ∀ {fields : List Field}, fields ≠ [] → (objectText fields).length = size fields + 1
  | [], h => absurd rfl h
  | field :: fields, _ => by
    rw [objectText, writeFields, List.length_append, List.length_append,
      List.length_append, List.length_append,
      length_writeFields, size]
    show 1 + (0 + field.line.length + size fields) + 1 = _
    omega

/-- A field with a value of `width` bytes. -/
def cost (name : String) (width : Nat) : Nat := (ascii name).length + width + 4

theorem size_singleton (name : String) (text : List UInt8) :
    size [(name, text)] = cost name text.length := by
  rw [size, size, cost, Field.line, List.length_append, List.length_append, List.length_append]
  show 1 + (ascii name).length + 2 + text.length + 1 + 0 = _
  omega

theorem size_singleton_le {name : String} {text : List UInt8} {width : Nat} (h : text.length ≤ width) :
    size [(name, text)] ≤ cost name width := by
  rw [size_singleton, cost, cost]
  omega

theorem length_boolText (value : Bool) : (boolText value).length ≤ 5 := by
  cases value
  · exact Nat.le_refl 5
  · exact Nat.le_succ 4

theorem length_uintText {value width : Nat} (h : (Nat.toDigits 10 value).length ≤ width) :
    (uintText value).length ≤ width := by
  rw [uintText, List.length_map]
  exact h

theorem length_uint8 (value : UInt8) : (uintText value.toUInt32.toNat).length ≤ 3 := by
  have hlt := value.toNat_lt
  refine length_uintText ((Nat.length_toDigits_le_iff (by decide) (by decide)).mpr ?_)
  rw [UInt8.toNat_toUInt32]
  omega

theorem length_uint16 (value : UInt16) : (uintText value.toUInt32.toNat).length ≤ 5 := by
  have hlt := value.toNat_lt
  refine length_uintText ((Nat.length_toDigits_le_iff (by decide) (by decide)).mpr ?_)
  rw [UInt16.toNat_toUInt32]
  omega

theorem length_uint32 (value : UInt32) : (uintText value.toNat).length ≤ 10 := by
  have hlt := value.toNat_lt
  refine length_uintText ((Nat.length_toDigits_le_iff (by decide) (by decide)).mpr ?_)
  omega

theorem length_int32 (value : Int32) : (intText value.toInt).length ≤ 11 := by
  have hlow := value.le_toInt
  have hhigh := value.toInt_lt
  have hdigits : (uintText value.toInt.natAbs).length ≤ 10 :=
    length_uintText ((Nat.length_toDigits_le_iff (by decide) (by decide)).mpr (by omega))
  rw [intText]
  split
  · rw [List.length_append]
    show 1 + _ ≤ 11
    omega
  · omega

theorem length_quoted_bounded (value : List UInt8) (maxEncodedLen : Nat) :
    (quoted (escapeJsonStringBounded value maxEncodedLen)).length ≤ maxEncodedLen + 2 := by
  have hbody := length_escapeJsonStringBounded value maxEncodedLen
  rw [quoted, List.length_append, List.length_append]
  show 1 + _ + 1 ≤ _
  omega

theorem size_bounded (name : String) (value : List UInt8) (maxEncodedLen : Nat) (fallback : Option String) :
    size (appendBoundedStringField name value maxEncodedLen fallback) ≤ cost name (maxEncodedLen + 2) := by
  rw [appendBoundedStringField]
  split
  · exact Nat.zero_le _
  · exact size_singleton_le (length_quoted_bounded _ _)

theorem size_bool (name : String) (value : Bool) : size (appendBoolField name value) ≤ cost name 5 :=
  size_singleton_le (length_boolText value)

theorem size_uint (name : String) (value : UInt32) : size (appendUintField name value) ≤ cost name 10 :=
  size_singleton_le (length_uint32 value)

theorem size_object {name : String} {fields : List Field} {width : Nat} (hne : fields ≠ [])
    (h : size fields ≤ width) :
    size (appendObject name fields) ≤ cost name (width + 1) := by
  refine size_singleton_le ?_
  rw [length_objectText hne]
  omega

/-- The fields whose texts are fixed. -/
theorem size_fixed : size [schemaField] = cost "schema" 30 ∧
    size [("config_max_bytes", uintText configMaxJsonLen)] = cost "config_max_bytes" 4 ∧
    size (appendBoundedStringField "target_platform"
      (ascii "macos") compactStatusStringMaxLen (some "macos")) ≤
      cost "target_platform" 9 ∧
    size (appendBoundedStringField "target_platform"
      (ascii "windows") compactStatusStringMaxLen (some "macos")) ≤
      cost "target_platform" 9 ∧
    size (appendBoundedStringField "phase" (ascii "spk_probe") compactStatusStringMaxLen none) ≤
      cost "phase" 11 ∧
    size (appendBoundedStringField "status" (ascii "probe") compactStatusStringMaxLen none) ≤
      cost "status" 7 := by
  decide +kernel

/-- The platforms that are set are shorter than the view allows. -/
theorem size_platform (h : snapshot.targetPlatform = ascii "macos" ∨
    snapshot.targetPlatform = ascii "windows") :
    size (appendBoundedStringField "target_platform" snapshot.targetPlatform
      compactStatusStringMaxLen (some "macos")) ≤
      cost "target_platform" 9 := by
  obtain ⟨-, -, hmacos, hwindows, -⟩ := size_fixed
  rcases h with h | h
  · rw [h]
    exact hmacos
  · rw [h]
    exact hwindows

theorem size_bytes (h : snapshot.bytes ≤ 2048) :
    size (appendUintField "bytes" snapshot.bytes) ≤ cost "bytes" 4 := by
  refine size_singleton_le (length_uintText ((Nat.length_toDigits_le_iff (by decide) (by decide)).mpr ?_))
  have hbytes := UInt32.le_iff_toNat_le.mp h
  change snapshot.bytes.toNat ≤ 2048 at hbytes
  omega

/-! ### The views at the end of the builder -/

def capabilitiesCost (includeUsbManagement includeLegacy : Bool) : Nat :=
  (if includeLegacy then cost "semantic_actions" 5 + cost "offline_platform_switch" 5 else 0) + cost
    "config_max_bytes" 4 +
    if includeUsbManagement then cost "usb_management_v1" 5 else 0

theorem size_capabilities (includeUsbManagement includeLegacy : Bool) :
    size (capabilities snapshot includeUsbManagement includeLegacy) ≤
      capabilitiesCost includeUsbManagement includeLegacy := by
  have hsemantic := size_bool "semantic_actions" snapshot.semanticActions
  have hoffline := size_bool "offline_platform_switch" snapshot.offlinePlatformSwitch
  have husb := size_bool "usb_management_v1" snapshot.usbManagementV1
  have hmax := size_fixed.2.1
  rw [capabilities, size_append, size_append, hmax, capabilitiesCost]
  refine Nat.add_le_add (Nat.add_le_add_right ?_ _) ?_
  · cases includeLegacy
    · exact Nat.le_refl 0
    · rw [if_pos rfl, if_pos rfl, size_append]
      exact Nat.add_le_add hsemantic hoffline
  · cases includeUsbManagement
    · exact Nat.le_refl 0
    · rw [if_pos rfl, if_pos rfl]
      exact husb

def coreCost (includeUsbManagement includeLegacy : Bool) : Nat :=
  cost "firmware" 42 + cost "phase" 14 + cost "status" 14 + cost "target_platform" 9 +
    cost "capabilities" (capabilitiesCost includeUsbManagement includeLegacy + 1) + cost "saved" 5

theorem size_syncCore (h : snapshot.targetPlatform = ascii "macos" ∨
    snapshot.targetPlatform = ascii "windows")
    (includeUsbManagement includeLegacy : Bool) :
    size (appendSyncCore snapshot includeUsbManagement includeLegacy) ≤
      coreCost includeUsbManagement includeLegacy := by
  have hfirmware := size_bounded "firmware" snapshot.firmware firmwareStringMaxLen (some "unknown")
  have hphase := size_bounded "phase" snapshot.phase compactStatusStringMaxLen (some "status")
  have hstatus := size_bounded "status" snapshot.status compactStatusStringMaxLen (some "unknown")
  have hplatform := size_platform snapshot h
  have hcapabilities :
    size (appendObject "capabilities" (capabilities snapshot includeUsbManagement includeLegacy)) ≤
      cost "capabilities" (capabilitiesCost includeUsbManagement includeLegacy + 1) :=
    size_object (by simp [capabilities]) (size_capabilities snapshot _ _)
  have hsaved := size_bool "saved" snapshot.saved
  rw [appendSyncCore, size_append, size_append, size_append, size_append, size_append, coreCost]
  exact Nat.add_le_add
    (Nat.add_le_add (Nat.add_le_add (Nat.add_le_add (Nat.add_le_add hfirmware hphase) hstatus) hplatform)
    hcapabilities) hsaved

def fingerprintCost (includeDetails : Bool) : Nat :=
  cost "bytes" 4 + cost "crc16" 5 +
    if includeDetails then cost "ptt_hotkey" 34 + cost "edit_ptt_hotkey" 34 + cost "hotkey_mode" 14 else 0

theorem size_fingerprint (h : snapshot.bytes ≤ 2048) (includeDetails : Bool) :
    size (fingerprint snapshot includeDetails) ≤ fingerprintCost includeDetails := by
  have hcrc : size (appendUintField "crc16" snapshot.crc16.toUInt32) ≤ cost "crc16" 5 :=
    size_singleton_le (length_uint16 _)
  have hptt := size_bounded "ptt_hotkey" snapshot.pttHotkey 32 (some "")
  have hedit := size_bounded "edit_ptt_hotkey" snapshot.editPttHotkey 32 (some "")
  have hmode := size_bounded "hotkey_mode" snapshot.hotkeyMode compactStatusStringMaxLen (some "")
  rw [fingerprint, size_append, size_append, fingerprintCost]
  refine Nat.add_le_add (Nat.add_le_add (size_bytes snapshot h) hcrc) ?_
  cases includeDetails
  · exact Nat.le_refl 0
  · rw [if_pos rfl, if_pos rfl, size_append, size_append]
    exact Nat.add_le_add (Nat.add_le_add hptt hedit) hmode

/-- The widest text of a view without telemetry. -/
def bareCost (view : CompactView) : Nat :=
  cost "schema" 30 + (coreCost view.includeUsbManagement view.includeLegacy +
    (if view.includeFingerprint then fingerprintCost view.includeFingerprintDetails else 0) +
    (cost "battery_mv" 5 + cost "battery_percent" 3)) + 1

theorem length_bare (hplatform : snapshot.targetPlatform = ascii "macos" ∨
    snapshot.targetPlatform = ascii "windows")
    (hbytes : snapshot.bytes ≤ 2048) {view : CompactView} (hbattery : view.includeBatteryDetail = false)
    (haudio : view.includeAudio = false) (hpower : view.includePower = false)
    (hdiagnostics : view.includeDiagnostics = false)
    (hspeaker : view.includeSpeakerBoot = false) :
    (buildCompactStatusJson snapshot view).length ≤ bareCost view := by
  have hschema := size_fixed.1
  have hmv : size (appendUintField "battery_mv" snapshot.batteryMv.toUInt32) ≤ cost "battery_mv" 5 :=
    size_singleton_le (length_uint16 _)
  have hpercent :
    size (appendUintField "battery_percent" snapshot.batteryPercent.toUInt32) ≤ cost "battery_percent" 3 :=
    size_singleton_le (length_uint8 _)
  have hsummary :
    size (appendBatterySummary snapshot false) ≤ cost "battery_mv" 5 + cost "battery_percent" 3 := by
    simp only [appendBatterySummary, Bool.not_false, Bool.true_or, if_true, List.append_nil, size_append]
    exact Nat.add_le_add hmv hpercent
  have hfingerprint :
    size (if view.includeFingerprint then fingerprint snapshot view.includeFingerprintDetails else []) ≤
      if view.includeFingerprint then fingerprintCost view.includeFingerprintDetails else 0 := by
    split
    · exact size_fingerprint snapshot hbytes _
    · exact Nat.le_refl 0
  have hcore := size_syncCore snapshot hplatform view.includeUsbManagement view.includeLegacy
  rw [buildCompactStatusJson, compactFields, length_objectText (List.cons_ne_nil _ _),
    ← List.singleton_append, size_append,
    size_append, size_append, size_append, size_append, size_append, size_append, hbattery, haudio,
      hpower, hdiagnostics, hspeaker,
    hschema, bareCost]
  exact Nat.succ_le_succ
    (Nat.add_le_add_left (Nat.add_le_add (Nat.add_le_add hcore hfingerprint) hsummary) _)

/-! ### The probe view -/

theorem length_stage (stage : SpeakerProbeStage) : (uintText stage.value.toNat).length ≤ 2 := by
  cases stage <;> decide

theorem length_result (result : SpeakerProbeResult) : (uintText result.value.toNat).length ≤ 1 := by
  cases result <;> decide

theorem length_error (error : SpeakerProbeError) : (uintText error.value.toNat).length ≤ 2 := by
  cases error <;> decide

def speakerCost : Nat :=
  cost "v" 3 + cost "g" 10 + cost "st" 2 + cost "r" 1 + cost "e" 2 + cost "x" 11

theorem size_speakerCore (speaker : SpeakerProbeSnapshot) : size (speakerCore speaker) ≤ speakerCost := by
  have hv : size (appendUintField "v" speaker.version.toUInt32) ≤ cost "v" 3 :=
    size_singleton_le (length_uint8 _)
  have hg := size_uint "g" speaker.generation
  have hst : size (appendUintField "st" speaker.stage.value) ≤ cost "st" 2 :=
    size_singleton_le (length_stage _)
  have hr : size (appendUintField "r" speaker.result.value) ≤ cost "r" 1 :=
    size_singleton_le (length_result _)
  have he : size (appendUintField "e" speaker.error.value) ≤ cost "e" 2 :=
    size_singleton_le (length_error _)
  have hx : size (appendIntField "x" speaker.rawError) ≤ cost "x" 11 := size_singleton_le (length_int32 _)
  rw [speakerCore, size_append, size_append, size_append, size_append, size_append, speakerCost]
  omega

/-- The counters of a probe. -/
def countersCost : Nat :=
  cost "mg" 10 + cost "fu" 10 + cost "du" 10 + cost "mu" 10 + cost "n" 10 + cost "p" 10 + cost "sw"
    10 + cost "h0" 10 +
    cost "h1" 10 + cost "hl" 10 + cost "hm" 10 + cost "pk" 10 + cost "rm" 10

def probeCost : Nat :=
  cost "schema" 30 + cost "firmware" 38 + cost "phase" 11 + cost "status" 7 + cost "target_platform" 9 +
    cost "capabilities" (cost "config_max_bytes" 4 + 1) + cost "saved" 5 + cost "bytes" 4 + cost "crc16" 5 +
    cost "spk" (speakerCost + countersCost + 1) + 1

theorem size_speaker (speaker : SpeakerProbeSnapshot) :
    size (speakerFields speaker) ≤ speakerCost + countersCost := by
  have hcore := size_speakerCore speaker
  have hmg := size_uint "mg" speaker.microphoneGeneration
  have hfu := size_uint "fu" speaker.firstSubmitUs
  have hdu := size_uint "du" speaker.decodeTotalUs
  have hmu := size_uint "mu" speaker.decodeMaxUs
  have hn := size_uint "n" speaker.decodedFrames
  have hp := size_uint "p" speaker.decodedPcmBytes
  have hsw := size_uint "sw" speaker.stackHighWaterBytes
  have hh0 := size_uint "h0" speaker.heapBeginFree
  have hh1 := size_uint "h1" speaker.heapTerminalFree
  have hhl := size_uint "hl" speaker.heapLargestBlock
  have hhm := size_uint "hm" speaker.heapMinimumFree
  have hpk := size_uint "pk" speaker.decodedAbsPeak
  have hrm := size_uint "rm" speaker.decodedRmsPermille
  rw [speakerFields, countersCost]
  simp only [size_append]
  omega

theorem length_probe (hplatform : snapshot.targetPlatform = ascii "macos" ∨
    snapshot.targetPlatform = ascii "windows")
    (hbytes : snapshot.bytes ≤ 2048) (speaker : SpeakerProbeSnapshot) :
    (objectText (probeFields snapshot speaker)).length ≤ probeCost := by
  obtain ⟨hschema, hmax, -, -, hphase, hstatus⟩ := size_fixed
  have hfirmware :
    size (appendBoundedStringField "firmware" snapshot.firmware 36 (some "unknown")) ≤ cost "firmware" 38 :=
    size_bounded "firmware" snapshot.firmware 36 (some "unknown")
  have hplatform := size_platform snapshot hplatform
  have hcapabilities :
    size (appendObject "capabilities" [("config_max_bytes", uintText configMaxJsonLen)]) ≤
      cost "capabilities" (cost "config_max_bytes" 4 + 1) :=
    size_object (List.cons_ne_nil _ _) (Nat.le_of_eq hmax)
  have hsaved := size_bool "saved" snapshot.saved
  have hbytes := size_bytes snapshot hbytes
  have hcrc : size (appendUintField "crc16" snapshot.crc16.toUInt32) ≤ cost "crc16" 5 :=
    size_singleton_le (length_uint16 _)
  have hspeaker :
    size (appendObject "spk" (speakerFields speaker)) ≤ cost "spk" (speakerCost + countersCost + 1) :=
    size_object (by simp [speakerFields, speakerCore, appendUintField]) (size_speaker speaker)
  rw [probeFields, length_objectText (List.cons_ne_nil _ _), ← List.singleton_append, probeCost]
  simp only [size_append]
  omega

/-! ## The builder -/

theorem length_firstFitting {limit : Nat} :
    ∀ {texts : List (List UInt8)} {last : List UInt8}, last.length ≤ limit →
    (firstFitting limit texts last).length ≤ limit
  | [], _, h => h
  | text :: texts, last, h => by
    rw [firstFitting]
    split
    · assumption
    · exact length_firstFitting h

theorem firstFitting_of (P : List UInt8 → Prop) (limit : Nat) :
    ∀ {texts : List (List UInt8)} {last : List UInt8},
    (∀ text ∈ texts, P text) → P last → P (firstFitting limit texts last)
  | [], _, _, hlast => hlast
  | text :: texts, last, htexts, hlast => by
    rw [firstFitting]
    split
    · exact htexts text List.mem_cons_self
    · exact firstFitting_of P limit (fun t ht => htexts t (List.mem_cons_of_mem _ ht)) hlast

theorem carries_batteryStatus :
    Carries (batteryStatusJson snapshot) (managementNames ++ batteryNames)
      ("config_max_bytes" :: batteryCapabilities) := by
  unfold batteryStatusJson
  refine firstFitting_of (fun text =>
    Carries text (managementNames ++ batteryNames) ("config_max_bytes" :: batteryCapabilities)) _
    ?_ (carries_battery snapshot rfl rfl)
  intro text htext
  simp only [List.mem_cons, List.not_mem_nil, or_false] at htext
  rcases htext with rfl | rfl | rfl
  · exact carries_battery snapshot rfl rfl
  · exact carries_battery snapshot rfl rfl
  · exact carries_battery snapshot rfl rfl

theorem carries_diagnosticsStatus :
    Carries (diagnosticsStatusJson snapshot) managementNames ["config_max_bytes"] := by
  unfold diagnosticsStatusJson
  refine firstFitting_of (fun text => Carries text managementNames ["config_max_bytes"]) _ ?_
    (carries_compact snapshot _)
  intro text htext
  simp only [List.mem_cons, List.not_mem_nil, or_false] at htext
  rcases htext with rfl | rfl
  · exact carries_compact snapshot _
  · exact carries_compact snapshot _

theorem carries_audioStatus : Carries (audioStatusJson snapshot) managementNames ["config_max_bytes"] := by
  unfold audioStatusJson
  refine firstFitting_of (fun text => Carries text managementNames ["config_max_bytes"]) _ ?_
    (carries_compact snapshot _)
  intro text htext
  have hcontrolled :
    ∀ view, text ∈ (if snapshot.audio.controlState = [] then [] else
    [buildCompactStatusJson snapshot view]) →
      Carries text managementNames ["config_max_bytes"] := by
    intro view hmem
    split at hmem
    · cases hmem
    · rw [List.mem_singleton.mp hmem]
      exact carries_compact snapshot view
  simp only [List.mem_append, List.mem_cons, List.not_mem_nil, or_false] at htext
  rcases htext with (((rfl | rfl) | hmem) | rfl) | hmem
  · exact carries_full snapshot
  · exact carries_compact snapshot _
  · exact hcontrolled _ hmem
  · exact carries_compact snapshot _
  · exact hcontrolled _ hmem

theorem probe_phase {speaker : SpeakerProbeSnapshot} (h : snapshot.probe = some speaker) :
    snapshot.phase = ascii "spk_probe" := by
  rw [ConfigStatusSnapshot.probe] at h
  split at h
  · assumption
  · cases h

/-- The limit of `build_config_status_json`. -/
def statusLimit : Nat :=
  if snapshot.phase = ascii "battery" then configStatusGattSafeLen - configStatusBatteryBleReserveLen
    else configStatusGattSafeLen

/-- The names a status has in its phase. -/
def requiredNames : List String :=
  managementNames ++ if snapshot.phase = ascii "battery" then batteryNames else []

def requiredCapabilities : List String :=
  "config_max_bytes" :: if snapshot.phase = ascii "battery" then batteryCapabilities else []

/-- **The status fits its characteristic and carries the management fields**, whatever its strings
are: within 512 bytes, and within 392 in the battery phase except for a confirmation. -/
theorem config_status_fits (hplatform : snapshot.targetPlatform = ascii "macos" ∨
    snapshot.targetPlatform = ascii "windows")
    (hbytes : snapshot.bytes ≤ 2048) :
    (buildConfigStatusJson snapshot).length ≤ statusLimit snapshot ∧
    Carries (buildConfigStatusJson snapshot) (requiredNames snapshot) (requiredCapabilities snapshot) ∧
    (buildConfigConfirmationStatusJson snapshot).length ≤ configStatusGattSafeLen ∧
    Carries (buildConfigConfirmationStatusJson snapshot) (requiredNames snapshot)
      (requiredCapabilities snapshot) := by
  have hmanagement : snapshot.phase ≠ ascii "battery" → requiredNames snapshot = managementNames ∧
      requiredCapabilities snapshot = ["config_max_bytes"] := by
    intro hphase
    rw [requiredNames, requiredCapabilities, if_neg hphase, if_neg hphase, List.append_nil]
    exact ⟨rfl, rfl⟩
  have hbattery : snapshot.phase = ascii "battery" →
      requiredNames snapshot = managementNames ++ batteryNames ∧
      requiredCapabilities snapshot = "config_max_bytes" :: batteryCapabilities := by
    intro hphase
    rw [requiredNames, requiredCapabilities, if_pos hphase, if_pos hphase]
    exact ⟨rfl, rfl⟩
  have hconfirmation : Carries (buildConfigConfirmationStatusJson snapshot) (requiredNames snapshot)
      (requiredCapabilities snapshot) := by
    by_cases hphase : snapshot.phase = ascii "battery"
    · rw [(hbattery hphase).1, (hbattery hphase).2]
      exact carries_battery snapshot rfl rfl
    · rw [(hmanagement hphase).1, (hmanagement hphase).2]
      exact carries_compact snapshot _
  have hcore : ∀ includeFingerprint,
      (buildCompactStatusJson snapshot (coreView includeFingerprint)).length ≤ configStatusGattSafeLen := by
    intro includeFingerprint
    refine Nat.le_trans (length_bare snapshot hplatform hbytes rfl rfl rfl rfl rfl) ?_
    cases includeFingerprint
    · decide +kernel
    · decide +kernel
  refine ⟨?_, ?_, hcore true, hconfirmation⟩
  · -- every view was compared with the limit, or has no telemetry
    rw [buildConfigStatusJson]
    split
    · rename_i speaker hprobe
      have hphase := probe_phase snapshot hprobe
      rw [statusLimit, if_neg (by rw [hphase]; decide)]
      exact Nat.le_trans (length_probe snapshot hplatform hbytes speaker) (by decide +kernel)
    · split
      · rename_i hphase
        rw [statusLimit, if_pos hphase]
        refine length_firstFitting
          (Nat.le_trans (length_bare snapshot hplatform hbytes rfl rfl rfl rfl rfl) ?_)
        decide +kernel
      · rename_i hphase
        rw [statusLimit, if_neg hphase]
        split
        · exact length_firstFitting (hcore false)
        · exact length_firstFitting (hcore _)
  · rw [buildConfigStatusJson]
    split
    · rename_i speaker hprobe
      have hphase : snapshot.phase ≠ ascii "battery" := by
        rw [probe_phase snapshot hprobe]
        decide
      rw [(hmanagement hphase).1, (hmanagement hphase).2]
      exact carries_probe snapshot speaker
    · split
      · rename_i hphase
        rw [(hbattery hphase).1, (hbattery hphase).2]
        exact carries_batteryStatus snapshot
      · rename_i hphase
        rw [(hmanagement hphase).1, (hmanagement hphase).2]
        split
        · exact carries_diagnosticsStatus snapshot
        · exact carries_audioStatus snapshot

/-- A battery status whose firmware has the longest name. -/
theorem config_status_fits_battery :
    (buildConfigStatusJson { phase := ascii "battery", firmware := List.replicate 60 0x22 }).length ≤ 392 :=
  (config_status_fits { phase := ascii "battery",
                        firmware := List.replicate 60 0x22 } (.inl rfl) (by decide)).1

end CodexKeyboard.Keyboard
