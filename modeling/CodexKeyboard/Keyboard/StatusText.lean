import CodexKeyboard.Keyboard.ConfigStatus
import CodexKeyboard.Keyboard.FieldLookup
import CodexKeyboard.Lib.Utf8Text
import Mathlib.Data.List.Nodup
/-!
# The configuration status is JSON

For a snapshot whose strings are texts, both builders return an object of the grammar: no key twice,
and every string decodes to a beginning of the snapshot's string or to its fallback. The compact
views cut between two characters (`escapeJsonStringBounded_utf8`). The full view cuts at a byte, but
a view with a string to cut is too long to be returned.
-/

namespace CodexKeyboard.Keyboard

open Lib

/-! ## Bodies of strings -/

theorem escapeJsonString_append (left right : List UInt8) :
    escapeJsonString (left ++ right) = escapeJsonString left ++ escapeJsonString right :=
      List.flatMap_append

theorem escapeByte_high {byte : UInt8} (h : 0x80 ≤ byte.toNat) : escapeByte byte = [byte] := by
  have hall : ∀ n < 256, 0x80 ≤ n → escapeByte (UInt8.ofNat n) = [UInt8.ofNat n] := by decide +kernel
  have hbyte := hall byte.toNat byte.toNat_lt h
  rwa [UInt8.ofNat_toNat] at hbyte

/-- Bytes of wider characters stay as they are. -/
theorem escapeJsonString_high {bytes : List UInt8} (h : ∀ byte ∈ bytes, 0x80 ≤ byte.toNat) :
    escapeJsonString bytes = bytes := by
  induction bytes with
  | nil => rfl
  | cons byte bytes ih =>
    rw [escapeJsonString, List.flatMap_cons,
      escapeByte_high (h byte List.mem_cons_self), ← escapeJsonString,
      ih fun b hb => h b (List.mem_cons_of_mem _ hb)]
    rfl

theorem wide_high {bytes : List UInt8} (h : WideSequence bytes) : ∀ byte ∈ bytes, 0x80 ≤ byte.toNat := by
  intro byte hbyte
  cases h with
  | two hlow _ hsecond =>
    simp only [List.mem_cons, List.not_mem_nil, or_false] at hbyte
    rcases hbyte with rfl | rfl
    · omega
    · exact hsecond.1
  | three hlow _ hsecond hthird =>
    simp only [List.mem_cons, List.not_mem_nil, or_false] at hbyte
    rcases hbyte with rfl | rfl | rfl
    · omega
    · exact hsecond.1
    · exact hthird.1
  | four hlow _ hsecond hthird hfourth =>
    simp only [List.mem_cons, List.not_mem_nil, or_false] at hbyte
    rcases hbyte with rfl | rfl | rfl | rfl
    · omega
    · exact hsecond.1
    · exact hthird.1
    · exact hfourth.1

/-- The token of an ASCII character decodes to it. -/
theorem stringChar_escapeByte {c : Char} (h : c.toNat ≤ 0x7F) :
    StringChar (escapeByte (UInt8.ofNat c.toNat)) c := by
  have hcode : ∀ {byte : UInt8}, UInt8.ofNat c.toNat = byte → c = Char.ofNat byte.toNat := by
    rintro byte rfl
    rw [toNat_ofNat_of_lt (by omega), Char.ofNat_toNat]
  have hdigits : ∀ n < 32, hexValue (upperHexDigit (UInt8.ofNat n >>> 4)) = some (n / 16) ∧
      hexValue (upperHexDigit (UInt8.ofNat n &&& 0x0F)) = some (n % 16) := by decide +kernel
  rw [escapeByte]
  split
  · rename_i heq
    rw [hcode heq]
    exact .short (by decide)
  split
  · rename_i heq
    rw [hcode heq]
    exact .short (by decide)
  split
  · rename_i heq
    rw [hcode heq]
    exact .short (by decide)
  split
  · rename_i heq
    rw [hcode heq]
    exact .short (by decide)
  split
  · rename_i heq
    rw [hcode heq]
    exact .short (by decide)
  split
  · rename_i heq
    rw [hcode heq]
    exact .short (by decide)
  split
  · rename_i heq
    rw [hcode heq]
    exact .short (by decide)
  split
  · rename_i hcontrol
    have hlt : c.toNat < 32 := by
      have := UInt8.lt_iff_toNat_lt.mp hcontrol
      rw [toNat_ofNat_of_lt (by omega)] at this
      exact this
    obtain ⟨hhigh, hlow⟩ := hdigits c.toNat hlt
    refine .unit ?_
    have hunit : HexUnit [0x30, 0x30, _, _] (0 * 4096 + 0 * 256 + c.toNat / 16 * 16 + c.toNat % 16) :=
      .mk (by decide) (by decide) hhigh hlow
    rw [show 0 * 4096 + 0 * 256 + c.toNat / 16 * 16 + c.toNat % 16 = c.toNat by omega] at hunit
    exact hunit
  · rename_i hquote hslash _ _ _ _ _ hcontrol
    rw [← utf8EncodeChar_of_le h]
    refine .literal ?_ ?_ ?_
    · rw [UInt8.lt_iff_toNat_lt, toNat_ofNat_of_lt (by omega)] at hcontrol
      exact Nat.le_of_not_lt hcontrol
    · rintro rfl
      exact hquote (by decide)
    · rintro rfl
      exact hslash (by decide)

theorem stringChar_escape (c : Char) : StringChar (escapeJsonString (String.utf8EncodeChar c)) c := by
  by_cases hnarrow : c.toNat ≤ 0x7F
  · rw [utf8EncodeChar_of_le hnarrow, escapeJsonString, List.flatMap_singleton]
    exact stringChar_escapeByte hnarrow
  · rw [escapeJsonString_high (wide_high (utf8EncodeChar_wide (Nat.lt_of_not_le hnarrow)))]
    refine .literal (by omega) ?_ ?_
    · rintro rfl
      exact hnarrow (by decide)
    · rintro rfl
      exact hnarrow (by decide)

/-- The escaped text decodes to the text. -/
theorem stringBody_escape : ∀ chars : List Char, StringBody (escapeJsonString (utf8 chars)) chars
  | [] => .nil
  | c :: chars => by
    rw [utf8_cons, escapeJsonString_append]
    exact .cons (stringChar_escape c) (stringBody_escape chars)

theorem boundedToken_utf8 (c : Char) (chars : List Char) :
    boundedToken (utf8 (c :: chars)) = (escapeJsonString (String.utf8EncodeChar c),
      (String.utf8EncodeChar c).length) := by
  rw [utf8_cons]
  by_cases hnarrow : c.toNat ≤ 0x7F
  · rw [utf8EncodeChar_of_le hnarrow, escapeJsonString, List.flatMap_singleton, boundedToken]
    refine if_pos ?_
    show UInt8.ofNat c.toNat ≤ 0x7F
    rw [UInt8.le_iff_toNat_le, toNat_ofNat_of_lt (by omega)]
    exact hnarrow
  · have hwide := utf8EncodeChar_wide (Nat.lt_of_not_le hnarrow)
    obtain ⟨lead, tails, hbytes, hlead, hlen, hstarts⟩ := startsSequence_wide hwide (utf8 chars)
    have hnot : ¬ (String.utf8EncodeChar c ++ utf8 chars).headD 0 ≤ 0x7F := by
      rw [hbytes, List.cons_append, List.headD_cons, UInt8.le_iff_toNat_le]
      exact Nat.not_le_of_lt hlead
    have hhead : (String.utf8EncodeChar c ++ utf8 chars).headD 0 = lead := by
      rw [hbytes]
      rfl
    rw [boundedToken, if_neg hnot, if_pos hstarts, hhead, hlen, List.take_left,
      escapeJsonString_high (wide_high hwide)]

/-- The loop takes whole characters. -/
theorem escapeBounded_utf8 (maxEncodedLen : Nat) :
    ∀ (turns : Nat) (escaped : List UInt8) (chars : List Char),
    ∃ before, before <+: chars ∧
      escapeBounded maxEncodedLen turns escaped (utf8 chars) = escaped ++ escapeJsonString (utf8 before)
  | 0, escaped, chars => ⟨[], List.nil_prefix, (List.append_nil _).symm⟩
  | turns + 1, escaped, chars => by
    rw [escapeBounded]
    split
    · exact ⟨[], List.nil_prefix, (List.append_nil _).symm⟩
    · rename_i hne
      split
      · exact ⟨[], List.nil_prefix, (List.append_nil _).symm⟩
      · cases chars with
        | nil => exact absurd rfl hne
        | cons c chars =>
          rw [boundedToken_utf8, utf8_cons, List.drop_left]
          obtain ⟨before, ⟨after, hafter⟩, hbefore⟩ := escapeBounded_utf8 maxEncodedLen turns
            (escaped ++ escapeJsonString (String.utf8EncodeChar c)) chars
          refine ⟨c :: before, ⟨after, by rw [List.cons_append, hafter]⟩, ?_⟩
          rw [hbefore, utf8_cons, escapeJsonString_append, List.append_assoc]

theorem escapeJsonStringBounded_utf8 (chars : List Char) (maxEncodedLen : Nat) :
    ∃ before, before <+: chars ∧
    StringBody (escapeJsonStringBounded (utf8 chars) maxEncodedLen) before := by
  obtain ⟨before, hprefix, hbefore⟩ := escapeBounded_utf8 maxEncodedLen (utf8 chars).length [] chars
  refine ⟨before, hprefix, ?_⟩
  rw [escapeJsonStringBounded, hbefore]
  exact stringBody_escape before

/-! ## Fields of an object -/

/-- A name that needs no escape. -/
def plainName (name : String) : Bool :=
  name.toList.all fun c => 0x20 ≤ c.toNat && c.toNat ≤ 0x7F && c != '"' && c != '\\'

theorem stringBody_plain {chars : List Char}
    (h : chars.all (fun c => 0x20 ≤ c.toNat && c.toNat ≤ 0x7F && c != '"' && c != '\\') = true) :
    StringBody (chars.map fun c => UInt8.ofNat c.toNat) chars := by
  induction chars with
  | nil => exact .nil
  | cons c chars ih =>
    rw [List.all_cons, Bool.and_eq_true] at h
    obtain ⟨hc, hchars⟩ := h
    simp only [Bool.and_eq_true, decide_eq_true_eq, bne_iff_ne] at hc
    rw [List.map_cons, ← List.singleton_append, ← utf8EncodeChar_of_le hc.1.1.2]
    exact .cons (.literal hc.1.1.1 hc.1.2 hc.2) (ih hchars)

theorem stringText_name {name : String} (h : plainName name = true) :
    StringText (0x22 :: (ascii name ++ [0x22])) name.toList :=
  .mk (stringBody_plain h)

/-- The fields are members of an object, under plain names that are some of `names`, in their order. -/
structure Members (R : String → Json → Prop) (names : List String) (fields : List Field) : Prop where
  each : ∀ field ∈ fields, plainName field.1 = true ∧ ∃ value, Derives (.value value) field.2 ∧
    R field.1 value
  named : List.Sublist (fields.map (·.1)) names

section Members

variable {R : String → Json → Prop} {names others : List String} {left right fields : List Field}

theorem members_nil : Members R names [] := ⟨nofun, List.nil_sublist _⟩

theorem Members.append (hleft : Members R names left) (hright : Members R others right) :
    Members R (names ++ others) (left ++ right) := by
  constructor
  · intro field hfield
    rcases List.mem_append.mp hfield with hmem | hmem
    · exact hleft.each field hmem
    · exact hright.each field hmem
  · rw [List.map_append]
    exact hleft.named.append hright.named

theorem members_ite {p : Prop} [Decidable p] (hleft : p → Members R names left)
    (hright : ¬ p → Members R names right) :
    Members R names (if p then left else right) := by
  split
  · exact hleft ‹_›
  · exact hright ‹_›

theorem members_singleton {name : String} {text : List UInt8} {value : Json}
    (hplain : plainName name = true)
    (h : Derives (.value value) text) (hvalue : R name value) : Members R [name] [(name, text)] := by
  refine ⟨?_, List.Sublist.refl _⟩
  intro field hfield
  rw [List.mem_singleton.mp hfield]
  exact ⟨hplain, value, h, hvalue⟩

theorem members_mono {R' : String → Json → Prop} (h : Members R names fields)
    (hmono : ∀ name value, R name value → R' name value) :
    Members R' names fields := by
  refine ⟨fun field hfield => ?_, h.named⟩
  obtain ⟨hplain, value, hvalue, hR⟩ := h.each field hfield
  exact ⟨hplain, value, hvalue, hmono _ _ hR⟩

end Members

/-- What `writeFields` writes derives the members, in their order. -/
theorem derives_writeFields {R : String → Json → Prop} : ∀ {fields : List Field},
    (∀ field ∈ fields, plainName field.1 = true ∧
      ∃ value, Derives (.value value) field.2 ∧ R field.1 value) →
    ∃ ms : List Member, Derives (.members ms) (writeFields true fields) ∧
      List.Forall₂ (fun field m => m.key = field.1.toList ∧ R field.1 m.value) fields ms
  | [], _ => ⟨[], .noMembers nofun, .nil⟩
  | [field], h => by
    obtain ⟨hplain, value, hvalue, hR⟩ := h field List.mem_cons_self
    refine ⟨[⟨field.1.toList, field.2, value⟩], ?_, .cons ⟨rfl, hR⟩ .nil⟩
    have hline : writeFields true [field] =
        [] ++ (0x22 :: (ascii field.1 ++ [0x22])) ++ [] ++ 0x3A :: ([] ++ field.2 ++ []) := by
      show [] ++ (((0x22 :: ascii field.1) ++ [0x22, 0x3A]) ++ field.2) ++ [] = _
      simp
    rw [hline]
    exact .lastMember nofun (stringText_name hplain) nofun nofun hvalue nofun
  | field :: next :: fields, h => by
    obtain ⟨hplain, value, hvalue, hR⟩ := h field List.mem_cons_self
    obtain ⟨ms, hms, hkeys⟩ := derives_writeFields fun f hf => h f (List.mem_cons_of_mem _ hf)
    cases hkeys with
    | cons hfirst hkeys =>
      rename_i m ms
      refine ⟨⟨field.1.toList, field.2, value⟩ :: m :: ms, ?_, .cons ⟨rfl, hR⟩ (.cons hfirst hkeys)⟩
      have hline :
        writeFields true (field :: next :: fields) = [] ++ (0x22 :: (ascii field.1 ++ [0x22])) ++ [] ++
          0x3A :: ([] ++ field.2 ++ [] ++ 0x2C :: writeFields true (next :: fields)) := by
        show [] ++ (((0x22 :: ascii field.1) ++ [0x22, 0x3A]) ++ field.2) ++
          (0x2C :: (next.line ++ writeFields false fields)) = _
        rw [writeFields, if_pos rfl]
        simp
      rw [hline]
      exact .member nofun (stringText_name hplain) nofun nofun hvalue nofun hms

theorem objectText_members {R : String → Json → Prop} {names : List String} {fields : List Field}
    (h : Members R names fields) :
    ∃ ms : List Member, ObjectText (objectText fields) ms ∧
      List.Forall₂ (fun field m => m.key = field.1.toList ∧ R field.1 m.value) fields ms := by
  obtain ⟨ms, hms, hkeys⟩ := derives_writeFields h.each
  refine ⟨ms, ?_, hkeys⟩
  have htext : objectText fields = [] ++ 0x7B :: (writeFields true fields ++ 0x7D :: []) := by
    show 0x7B :: writeFields true fields ++ [0x7D] = _
    simp
  rw [htext]
  exact .mk nofun hms nofun

theorem forall₂_mem_right {α β : Type} {R : α → β → Prop} {left : List α} {right : List β}
    (h : List.Forall₂ R left right) {b : β}
    (hb : b ∈ right) : ∃ a ∈ left, R a b := by
  induction h with
  | nil => cases hb
  | cons hfirst _ ih =>
    rcases List.mem_cons.mp hb with rfl | hb
    · exact ⟨_, List.mem_cons_self, hfirst⟩
    · obtain ⟨a, ha, hab⟩ := ih hb
      exact ⟨a, List.mem_cons_of_mem _ ha, hab⟩

/-- The keys are those of the fields. -/
theorem keys_of_forall₂ {R : String → Json → Prop} {fields : List Field} {ms : List Member}
    (h : List.Forall₂ (fun field m => m.key = field.1.toList ∧ R field.1 m.value) fields ms) :
    ms.map Member.key = (fields.map (·.1)).map String.toList := by
  induction h with
  | nil => rfl
  | cons hfirst _ ih => rw [List.map_cons, List.map_cons, List.map_cons, hfirst.1, ih]

theorem nodup_keys {names : List String} (h : names.Nodup) : (names.map String.toList).Nodup :=
  List.Nodup.map (fun _ _ heq => String.toList_inj.mp heq) h

/-! ## Values -/

/-- A value that is no composite, whose string satisfies `Q`. -/
def IsScalar (Q : List Char → Prop) : Json → Prop
  | .null | .bool _ | .number _ => True
  | .string chars => Q chars
  | .array _ | .object _ => False

/-- A value of the status: a scalar, or an object of scalars with no key twice. -/
def IsEntry (P : List String → List Char → Prop) (name : String) : Json → Prop
  | .object members => (members.map (·.1)).Nodup ∧
      ∀ member ∈ members, ∃ inner, member.1 = inner.toList ∧ IsScalar (P [name, inner]) member.2
  | value => IsScalar (P [name]) value

theorem isEntry_of_scalar {P : List String → List Char → Prop} {name : String} {value : Json}
    (h : IsScalar (P [name]) value) :
    IsEntry P name value := by
  cases value with
  | object => exact h.elim
  | null | bool | number | string | array => exact h

theorem derives_bool (value : Bool) : Derives (.value (.bool value)) (boolText value) := by
  cases value
  · exact .false
  · exact .true

/-- Decimals have a digit, and no zero in front. -/
theorem toDigits_spec (value : Nat) :
    (∀ c ∈ Nat.toDigits 10 value, c.isDigit = true) ∧ Nat.toDigits 10 value ≠ [] ∧
    ((Nat.toDigits 10 value).head? = some '0' → Nat.toDigits 10 value = ['0']) := by
  refine ⟨fun c hc => Nat.isDigit_of_mem_toDigits (by decide) (by decide) hc, Nat.toDigits_ne_nil, ?_⟩
  induction value using Nat.strong_induction_on with
  | _ value ih =>
    by_cases hsmall : value < 10
    · rw [Nat.toDigits_of_lt_base hsmall]
      intro hzero
      rw [List.head?_cons] at hzero
      rw [Option.some.inj hzero]
    · rw [Nat.toDigits_of_base_le (by decide) (Nat.le_of_not_lt hsmall)]
      intro hzero
      exfalso
      have hne : Nat.toDigits 10 (value / 10) ≠ [] := Nat.toDigits_ne_nil
      rw [List.head?_append_of_ne_nil _ hne] at hzero
      have hone := ih (value / 10) (by omega) hzero
      have hlt : value / 10 < 10 := by
        have hlength :=
          (@Nat.length_toDigits_le_iff 10 (value / 10) 1 (by decide) (by decide)).mp (by
          rw [hone]; exact Nat.le_refl 1)
        omega
      rw [Nat.toDigits_of_lt_base hlt] at hone
      have hchar : ∀ n < 10, Nat.digitChar n = '0' → n = 0 := by decide
      have hzero := hchar (value / 10) hlt (List.cons.inj hone).1
      omega

theorem isDigit_byte {c : Char} (h : c.isDigit = true) :
    Lib.IsDigit (UInt8.ofNat c.toNat) ∧ (UInt8.ofNat c.toNat = 0x30 → c = '0') := by
  have hrange : 0x30 ≤ c.toNat ∧ c.toNat ≤ 0x39 := by
    rw [Char.isDigit, Bool.and_eq_true, decide_eq_true_eq, decide_eq_true_eq] at h
    exact ⟨UInt32.le_iff_toNat_le.mp h.1, UInt32.le_iff_toNat_le.mp h.2⟩
  constructor
  · rw [Lib.IsDigit, toNat_ofNat_of_lt (by omega)]
    exact hrange
  · intro hzero
    have hcode := congrArg UInt8.toNat hzero
    rw [toNat_ofNat_of_lt (by omega)] at hcode
    rw [← Char.ofNat_toNat c, hcode]
    rfl

theorem integerPart_uintText (value : Nat) : IntegerPart (uintText value) := by
  obtain ⟨hdigits, hne, hzero⟩ := toDigits_spec value
  refine ⟨⟨?_, ?_⟩, ?_⟩
  · rw [uintText, Ne, List.map_eq_nil_iff]
    exact hne
  · intro byte hbyte
    obtain ⟨c, hc, rfl⟩ := List.mem_map.mp hbyte
    exact (isDigit_byte (hdigits c hc)).1
  · intro hhead
    rw [uintText, List.head?_map, Option.map_eq_some_iff] at hhead
    obtain ⟨c, hc, hbyte⟩ := hhead
    rw [(isDigit_byte (hdigits c (List.mem_of_head? hc))).2 hbyte] at hc
    rw [uintText, hzero hc]
    rfl

theorem derives_uint (value : Nat) : Derives (.value (.number (uintText value))) (uintText value) := by
  have hnumber :=
    @NumberText.mk [] (uintText value) [] [] (.inl rfl) (integerPart_uintText value) (.inl rfl) (.inl rfl)
  rw [List.nil_append, List.append_nil, List.append_nil] at hnumber
  exact .number hnumber

theorem derives_int (value : Int) : Derives (.value (.number (intText value))) (intText value) := by
  rw [intText]
  split
  · have hnumber := @NumberText.mk [0x2D] (uintText value.natAbs) [] [] (.inr rfl)
      (integerPart_uintText _) (.inl rfl) (.inl rfl)
    rw [List.append_nil, List.append_nil] at hnumber
    exact .number hnumber
  · exact derives_uint _

theorem derives_quoted {body : List UInt8} {chars : List Char} (h : StringBody body chars) :
    Derives (.value (.string chars)) (quoted body) := .string (.mk h)

/-! ## What the strings say -/

/-- A beginning of the value, or the fallback of an empty one. -/
def Shows (value fallback : List UInt8) (chars : List Char) : Prop :=
  utf8 chars <+: value ∨ value = [] ∧ utf8 chars = fallback

/-- The strings of the views: where they stand, what they are taken from, and their fallback. A
probe view has its own status. -/
def statusStrings (snapshot : ConfigStatusSnapshot) (probe : Bool) :
    List (List String × List UInt8 × List UInt8) :=
  [(["schema"], [], ascii "ai_keyboard.config_status.v1"),
    (["firmware"], snapshot.firmware, ascii "unknown"),
    (["phase"], snapshot.phase, ascii "status"),
    if probe then (["status"], [], ascii "probe") else (["status"], snapshot.status, ascii "unknown"),
    (["target_platform"], snapshot.targetPlatform, ascii "macos"),
    (["ptt_hotkey"], snapshot.pttHotkey, []),
    (["edit_ptt_hotkey"], snapshot.editPttHotkey, []),
    (["hotkey_mode"], snapshot.hotkeyMode, []),
    (["battery_state"], snapshot.battery.state, []),
    (["audio", "source"], snapshot.audio.source, ascii "unknown"),
    (["audio", "microphone_source"], snapshot.audio.microphoneSource, []),
    (["audio", "capture"], snapshot.audio.capture, []),
    (["audio", "host"], snapshot.audio.host, []),
    (["audio", "stream_phase"], snapshot.audio.streamPhase, []),
    (["audio", "stop_reason"], snapshot.audio.stopReason, []),
    (["audio", "control_state"], snapshot.audio.controlState, []),
    (["audio", "last_error"], snapshot.audio.lastError, []),
    (["power", "mode"], snapshot.power.mode, ascii "unknown"),
    (["power", "last_wake"], snapshot.power.lastWake, ascii "unknown"),
    (["power", "cycle_wake"], snapshot.power.cycleWake, []),
    (["diag", "board"], snapshot.diagnostics.board, []),
    (["diag", "keys"], snapshot.diagnostics.keys, []),
    (["diag", "enc"], snapshot.diagnostics.encoder, []),
    (["diag", "last"], snapshot.diagnostics.lastInput, [])]

/-- What a string at a path may decode to. -/
def Says (snapshot : ConfigStatusSnapshot) (probe : Bool) (path : List String) (chars : List Char) : Prop :=
  ∃ row ∈ statusStrings snapshot probe, row.1 = path ∧ Shows row.2.1 row.2.2 chars

/-- The strings of a snapshot are texts. -/
def ConfigStatusSnapshot.IsText (snapshot : ConfigStatusSnapshot) : Prop :=
  ∀ row ∈ statusStrings snapshot false, IsUtf8 row.2.1

/-- A status: an object of the grammar, no key twice, whose strings say what the snapshot has. -/
structure StatusText (snapshot : ConfigStatusSnapshot) (probe : Bool) (text : List UInt8) : Prop where
  isUtf8 : IsUtf8 text
  members : ∃ ms : List Member, ObjectText text ms ∧ (ms.map Member.key).Nodup ∧
    ∀ m ∈ ms, ∃ name : String, m.key = name.toList ∧ IsEntry (Says snapshot probe) name m.value

end CodexKeyboard.Keyboard
