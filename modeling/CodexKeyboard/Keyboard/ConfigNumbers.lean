import CodexKeyboard.Keyboard.ConfigHistory
import CodexKeyboard.Keyboard.HidKeycode
import CodexKeyboard.Lib.Transaction
import Mathlib.Data.List.TakeWhile
/-!
# The numbers of a configuration

`int_value` and the function keys of a hotkey read digits into an `int` and look at the range
afterwards. A run of digits that denotes at most 2^31 - 1 is read as it is written
(`digitLoop_spec`); a longer one overflows, and what is left of it may lie in any range.
-/

namespace CodexKeyboard.Keyboard

open Lib

/-- The largest `int`. -/
def intMax : Nat := 0x7FFFFFFF

def isDigit (ch : UInt8) : Bool := 0x30 ≤ ch && ch ≤ 0x39

/-- What digits denote, behind a number that was read before. -/
def decimalFrom (before : Nat) (digits : List UInt8) : Nat :=
  digits.foldl (fun number ch => number * 10 + (ch - 0x30).toNat) before

def decimal (digits : List UInt8) : Nat := decimalFrom 0 digits

theorem decimalFrom_cons (before : Nat) (ch : UInt8) (digits : List UInt8) :
    decimalFrom before (ch :: digits) = decimalFrom (before * 10 + (ch - 0x30).toNat) digits := rfl

theorem le_decimalFrom : ∀ (before : Nat) (digits : List UInt8), before ≤ decimalFrom before digits
  | before, [] => Nat.le_refl before
  | before, ch :: digits => by
    have hrest := le_decimalFrom (before * 10 + (ch - 0x30).toNat) digits
    rw [decimalFrom_cons]
    omega

theorem wrapInt_of_fits {n : Int} (h : FitsInt n) : wrapInt n = n := by
  obtain ⟨hlow, hhigh⟩ := h
  rw [wrapInt]
  exact Int.bmod_eq_of_le (by omega) (by omega)

/-- The loop over digits: it overflows exactly if its run of digits denotes too much, and else
yields what they denote. -/
theorem digitLoop_spec : ∀ (digits : List UInt8) (before : Nat), before ≤ intMax →
    ((digitLoop before digits).overflowed = false ↔
      decimalFrom before (digits.takeWhile isDigit) ≤ intMax) ∧
    (decimalFrom before (digits.takeWhile isDigit) ≤ intMax →
      (digitLoop before digits).value = if digits.all isDigit then
        some (decimalFrom before digits : Int) else none)
  | [], before, h => by
    refine ⟨iff_of_true rfl h, fun _ => rfl⟩
  | ch :: rest, before, h => by
    by_cases hdigit : ch < 0x30 ∨ ch > 0x39
    · -- another character
      have hno : isDigit ch = false := by
        rw [isDigit, Bool.and_eq_false_iff, decide_eq_false_iff_not, decide_eq_false_iff_not,
          UInt8.not_le, UInt8.not_le]
        exact hdigit
      rw [digitLoop, if_pos hdigit, List.takeWhile_cons_of_neg (by simp [hno]), List.all_cons, hno]
      exact ⟨iff_of_true rfl h, fun _ => rfl⟩
    · have hyes : isDigit ch = true := by
        rw [not_or, UInt8.not_lt, gt_iff_lt, UInt8.not_lt] at hdigit
        rw [isDigit, decide_eq_true hdigit.1, decide_eq_true hdigit.2]
        rfl
      rw [digitLoop, if_neg hdigit, List.takeWhile_cons_of_pos hyes, List.all_cons, hyes,
        Bool.true_and, decimalFrom_cons]
      dsimp only
      by_cases hfits : before * 10 + (ch - 0x30).toNat ≤ intMax
      · have hproduct : FitsInt ((before : Int) * 10) := by
          rw [intMax] at hfits
          exact ⟨by omega, by omega⟩
        have hsum : FitsInt ((before : Int) * 10 + ((ch - 0x30).toNat : Int)) := by
          rw [intMax] at hfits
          exact ⟨by omega, by omega⟩
        obtain ⟨hover, hvalue⟩ := digitLoop_spec rest _ hfits
        have hcast :
          (before : Int) * 10 + ((ch - 0x30).toNat : Int) =
          ((before * 10 + (ch - 0x30).toNat : Nat) : Int) := by
          push_cast
          rfl
        rw [wrapInt_of_fits hproduct, wrapInt_of_fits hsum, decide_eq_true hproduct,
          decide_eq_true hsum, hcast]
        simp only [Bool.not_true, Bool.false_or]
        exact ⟨hover, fun hsmall => (hvalue hsmall).trans (by rw [decimalFrom_cons])⟩
      · have hmore := le_decimalFrom (before * 10 + (ch - 0x30).toNat) (rest.takeWhile isDigit)
        have hbig :
          ¬ decimalFrom (before * 10 + (ch - 0x30).toNat) (rest.takeWhile isDigit) ≤ intMax := by omega
        refine ⟨iff_of_false ?_ hbig, fun hsmall => absurd hsmall hbig⟩
        rw [Bool.or_eq_false_iff, Bool.or_eq_false_iff,
          Bool.not_eq_false', Bool.not_eq_false', decide_eq_true_eq,
          decide_eq_true_eq]
        rintro ⟨⟨hproduct, hsum⟩, -⟩
        rw [wrapInt_of_fits hproduct] at hsum
        rw [intMax] at hfits
        have hhigh := hsum.2
        omega

/-! ## Texts -/

/-- A text without the blanks around it and a minus sign. -/
def digitsOf (text : List UInt8) : List UInt8 :=
  if (trim text).head? = some 0x2D then (trim text).drop 1 else trim text

/-- What the digits denote that the text begins with, behind blanks and a minus sign. -/
def leadingNumber (text : List UInt8) : Nat := decimal ((digitsOf text).takeWhile isDigit)

/-- The text is an optional minus sign and digits, and denotes `n`. -/
def Denotes (text : List UInt8) (n : Int) : Prop :=
  digitsOf text ≠ [] ∧ (digitsOf text).all isDigit = true ∧
    n = if (trim text).head? = some 0x2D then -(decimal (digitsOf text) : Int) else decimal (digitsOf text)

instance (text : List UInt8) (n : Int) : Decidable (Denotes text n) :=
  inferInstanceAs (Decidable (_ ∧ _ ∧ _))

/-- `int_value` reads a text as it is written, and no result on its way is out of range. -/
def ReadAsWritten (text : List UInt8) : Prop :=
  (intLoop text).overflowed = false ∧ ∀ n, intValue text = some n ↔ Denotes text n ∧ FitsInt n

theorem takeWhile_of_all {digits : List UInt8} (h : digits.all isDigit = true) :
    digits.takeWhile isDigit = digits := by
  rw [List.takeWhile_eq_self_iff]
  exact List.all_eq_true.mp h

theorem Denotes.natAbs {text : List UInt8} {n : Int} (h : Denotes text n) :
    n.natAbs = leadingNumber text := by
  obtain ⟨-, hdigits, rfl⟩ := h
  rw [leadingNumber, takeWhile_of_all hdigits]
  split
  · rw [Int.natAbs_neg, Int.natAbs_natCast]
  · rw [Int.natAbs_natCast]

/-- The loop of a text with digits. -/
theorem intLoop_eq {text : List UInt8} (h : digitsOf text ≠ []) :
    intLoop text = applySign (if (trim text).head? = some 0x2D then -1 else 1)
      (digitLoop 0 (digitsOf text)) := by
  have hne : trim text ≠ [] := by
    intro hnil
    rw [digitsOf, hnil] at h
    exact h rfl
  rw [intLoop]
  dsimp only
  rw [if_neg hne, ← digitsOf, if_neg h]

theorem intLoop_none {text : List UInt8} (h : digitsOf text = []) : intLoop text = ⟨none, false⟩ := by
  rw [intLoop]
  dsimp only
  split
  · rfl
  · rw [← digitsOf, if_pos h]

/-- A text is read as it is written exactly if its digits denote at most 2^31 - 1. -/
theorem readAsWritten_iff (text : List UInt8) : ReadAsWritten text ↔ leadingNumber text ≤ intMax := by
  by_cases hdigits : digitsOf text = []
  · refine iff_of_true ⟨?_, fun n => ?_⟩ ?_
    · rw [intLoop_none hdigits]
    · rw [intValue, intLoop_none hdigits]
      exact iff_of_false nofun fun hboth => hboth.1.1 hdigits
    · rw [leadingNumber, hdigits]
      exact Nat.zero_le _
  obtain ⟨hover, hvalue⟩ := digitLoop_spec (digitsOf text) 0 (Nat.zero_le _)
  rw [← decimal, ← leadingNumber] at hover hvalue
  rw [ReadAsWritten, intValue, intLoop_eq hdigits]
  change (digitLoop 0 (digitsOf text)).overflowed = false ↔ _ at hover
  constructor
  · rintro ⟨hsign, -⟩
    refine hover.mp ?_
    rw [applySign] at hsign
    split at hsign
    · exact hsign
    · exact (Bool.or_eq_false_iff.mp hsign).1
  · intro hsmall
    have hread := hvalue hsmall
    have hquiet := hover.mpr hsmall
    change (digitLoop 0 (digitsOf text)).value = _ at hread
    generalize digitLoop 0 (digitsOf text) = loop at hread hquiet
    obtain ⟨value, overflowed⟩ := loop
    simp only at hread hquiet
    subst hread hquiet
    cases hall : (digitsOf text).all isDigit with
    | false =>
      refine ⟨rfl, fun n => ?_⟩
      simp only [Bool.false_eq_true, if_false, applySign]
      refine iff_of_false nofun ?_
      rintro ⟨⟨-, hdigits', -⟩, -⟩
      rw [hall] at hdigits'
      cases hdigits'
    | true =>
      have hbound : decimal (digitsOf text) ≤ intMax := by
        rw [leadingNumber, takeWhile_of_all hall] at hsmall
        exact hsmall
      have hfits :
        FitsInt ((decimal (digitsOf text) : Int) * if (trim text).head? = some 0x2D then -1 else 1) := by
        rw [intMax] at hbound
        split
        · exact ⟨by omega, by omega⟩
        · exact ⟨by omega, by omega⟩
      simp only [if_true, applySign]
      rw [← decimal, decide_eq_true hfits, wrapInt_of_fits hfits]
      refine ⟨rfl, fun n => ?_⟩
      have hsign : (decimal (digitsOf text) : Int) * (if (trim text).head? = some 0x2D then -1 else 1) =
          if (trim text).head? = some 0x2D then -(decimal (digitsOf text) : Int) else
            decimal (digitsOf text) := by
        split <;> simp
      rw [hsign] at hfits ⊢
      constructor
      · intro hsome
        rw [← Option.some.inj hsome]
        exact ⟨⟨hdigits, hall, rfl⟩, hfits⟩
      · rintro ⟨⟨-, -, rfl⟩, -⟩
        rfl

/-! ## The configuration -/

theorem optionalField_read {α : Type} {json : List UInt8} {field : String}
    {read : List UInt8 → Option α} {value : Option α}
    {raw : List UInt8} (hraw : fieldValue json (ascii field) = some raw)
    (h : optionalField json field read = .ok value) :
    read raw = value ∧ value.isSome = true := by
  rw [optionalField, hraw] at h
  dsimp only at h
  split at h
  · cases h
  · rename_i found hfound
    cases h
    exact ⟨hfound, rfl⟩

/-- What a configuration that is accepted has of its three numbers. -/
theorem parseConfigPayload_numbers {json : List UInt8} {config : ParsedKeyboardConfig}
    (h : parseConfigPayload json = .ok config) :
    ∃ audioPort speakerSync keys encoder scroll,
      optionalField json "audio_port" (fun raw => (intValue raw).filter isValidAudioPort) = .ok audioPort ∧
      parseSpeakerSync json = .ok speakerSync ∧ parseProfile json = .ok (keys, encoder) ∧
      parseEncoderScrollConfig encoder = .ok scroll ∧ config.audioPort = audioPort.getD defaultAudioPort ∧
      config.speakerSyncKeyEpoch = (speakerSync.map (·.2)).getD 0 ∧
      config.encoderScroll.speed = scroll.speed := by
  unfold parseConfigPayload at h
  simp only [bind_eq_ok] at h
  obtain ⟨platform, -, -, -, -, -, -, -, wifiSsid, -, wifiPassword, -, audioHost, -, audioPort,
    haudioPort, speakerSync,
    hspeakerSync, -, -, pttHotkey, -, pttHotkeySource, -, editPttHotkey, -, editPttHotkeySource, -,
      pttMode, -, ⟨keys, encoder⟩,
    hprofile, keyActions, -, encoderActions, -, scroll, hscroll, hconfig⟩ := h
  cases hconfig
  exact ⟨audioPort, speakerSync, keys, encoder, scroll, haudioPort,
    hspeakerSync, hprofile, hscroll, rfl, rfl, rfl⟩

/-- A number that a check accepts is the one that is written exactly if its digits denote at most
2^31 - 1. -/
theorem written_iff {raw : List UInt8} {value : Int} (hvalue : intValue raw = some value)
    (hrange : value.natAbs ≤ intMax) :
    Denotes raw value ↔ leadingNumber raw ≤ intMax := by
  constructor
  · intro hdenotes
    rw [← hdenotes.natAbs]
    exact hrange
  · intro hsmall
    exact (((readAsWritten_iff raw).mpr hsmall).2 value).mp hvalue |>.1

theorem audioPort_written {json raw : List UInt8} {config : ParsedKeyboardConfig}
    (h : parseConfigPayload json = .ok config)
    (hraw : fieldValue json (ascii "audio_port") = some raw) :
    1024 ≤ config.audioPort ∧ config.audioPort ≤ 65535 ∧
      (Denotes raw config.audioPort ↔ leadingNumber raw ≤ intMax) := by
  obtain ⟨audioPort, -, -, -, -, hport, -, -, -, hconfig, -, -⟩ := parseConfigPayload_numbers h
  obtain ⟨hread, hsome⟩ := optionalField_read hraw hport
  obtain ⟨port, rfl⟩ := Option.isSome_iff_exists.mp hsome
  obtain ⟨hvalue, hvalid⟩ := Option.filter_eq_some_iff.mp hread
  rw [isValidAudioPort, Bool.and_eq_true, decide_eq_true_eq, decide_eq_true_eq] at hvalid
  rw [hconfig, Option.getD_some]
  refine ⟨hvalid.1, hvalid.2, written_iff hvalue ?_⟩
  rw [intMax]
  omega

theorem epoch_written {json raw : List UInt8} {config : ParsedKeyboardConfig}
    (h : parseConfigPayload json = .ok config)
    (hraw : fieldValue json (ascii "speaker_sync_key_epoch") = some raw) :
    1 ≤ config.speakerSyncKeyEpoch.toNat ∧
      (Denotes raw config.speakerSyncKeyEpoch.toNat ↔ leadingNumber raw ≤ intMax) := by
  obtain ⟨-, speakerSync, -, -, -, -, hsync, -, -, -, hconfig, -⟩ := parseConfigPayload_numbers h
  rw [parseSpeakerSync, hraw] at hsync
  split at hsync
  · rename_i heq
    cases heq
  · rename_i key epoch _ heq
    obtain rfl := Option.some.inj heq
    split at hsync
    · rename_i key' number _ hnumber
      cases hsync
      obtain ⟨hvalue, hvalid⟩ := Option.filter_eq_some_iff.mp hnumber
      rw [isValidEpoch, Bool.and_eq_true, Bool.not_eq_true', Bool.not_eq_true', decide_eq_false_iff_not,
        decide_eq_false_iff_not] at hvalid
      have hepoch : config.speakerSyncKeyEpoch = UInt16.ofNat number.toNat := hconfig
      have htoNat : (config.speakerSyncKeyEpoch.toNat : Int) = number := by
        rw [hepoch, UInt16.toNat_ofNat_of_lt' (by rw [UInt16.size]; omega)]
        omega
      refine ⟨by omega, ?_⟩
      rw [htoNat]
      refine written_iff hvalue ?_
      rw [intMax]
      omega
    · cases hsync
  · cases hsync

theorem speed_written {json keys encoder scroll raw : List UInt8} {config : ParsedKeyboardConfig}
    (h : parseConfigPayload json = .ok config) (hprofile : parseProfile json = .ok (keys, encoder))
    (hscroll : fieldValue encoder (ascii "scroll") = some scroll)
    (hraw : fieldValue scroll (ascii "speed") = some raw) :
    ((∃ speed : Int, speed.natAbs ≤ intMax ∧ Denotes raw speed ∧
      config.encoderScroll.speed = clampScrollSpeed speed) ↔
      leadingNumber raw ≤ intMax) := by
  obtain ⟨-, -, keys', encoder', scroll', -, -, hprofile', hparsed, -, -, hconfig⟩ :=
    parseConfigPayload_numbers h
  rw [hprofile] at hprofile'
  obtain ⟨rfl, rfl⟩ := Prod.mk.inj (Except.ok.inj hprofile')
  rw [parseEncoderScrollConfig, hscroll] at hparsed
  dsimp only at hparsed
  split at hparsed
  · unfold parseScrollFields at hparsed
    simp only [bind_eq_ok] at hparsed
    obtain ⟨enabled, -, mode, -, axis, -, speed, hspeed, vertical, -, horizontal,
      -, macosVertical, -, macosHorizontal, -,
      windowsVertical, -, windowsHorizontal, -, hfields⟩ := hparsed
    cases hfields
    obtain ⟨hread, hsome⟩ := optionalField_read hraw hspeed
    obtain ⟨value, rfl⟩ := Option.isSome_iff_exists.mp hsome
    constructor
    · rintro ⟨number, hrange, hdenotes, -⟩
      rw [← hdenotes.natAbs]
      exact hrange
    · intro hsmall
      have hdenotes := ((((readAsWritten_iff raw).mpr hsmall).2 value).mp hread).1
      refine ⟨value, ?_, hdenotes, hconfig⟩
      rw [hdenotes.natAbs]
      exact hsmall
  · cases hparsed

/-! ## Function keys -/

theorem named_eq_none {α : Type} {names : List (String × α)} {token : List UInt8}
    (h : ∀ entry ∈ names, (ascii entry.1).head? ≠ token.head?) : named names token = none := by
  rw [named, List.find?_eq_none.mpr, Option.map_none]
  intro entry hentry
  rw [decide_eq_true_eq]
  rintro rfl
  exact h entry hentry rfl

/-- The heads of the names in a table. -/
theorem heads_ne {α : Type} {names : List (String × α)} {head : UInt8}
    (h : names.all (fun entry => (ascii entry.1).head? ≠ some head) = true) (digits : List UInt8) :
    ∀ entry ∈ names, (ascii entry.1).head? ≠ (head :: digits).head? := by
  intro entry hentry
  exact of_decide_eq_true (List.all_eq_true.mp h entry hentry)

theorem modifierForToken_f (digits : List UInt8) : modifierForToken (0x66 :: digits) = none :=
  named_eq_none (heads_ne (by decide) digits)

theorem keycodeForToken_f {digits : List UInt8} (h : digits ≠ []) :
    keycodeForToken (0x66 :: digits) = functionKeycode digits := by
  have hnamed : namedKeycode (0x66 :: digits) = none := named_eq_none (heads_ne (by decide) digits)
  have hlength : 2 ≤ (0x66 :: digits).length := by
    rw [List.length_cons]
    exact Nat.succ_le_succ (List.length_pos_iff.mpr h)
  unfold keycodeForToken
  split
  · rename_i ch heq
    rw [heq] at hlength
    cases hlength with
    | step hle => cases hle
  · rw [hnamed]
    dsimp only
    rw [if_pos ⟨hlength, rfl⟩]
    rfl

/-- A function key within the range of `int` is accepted exactly if its number is between 1 and 12. -/
theorem functionKeycode_isSome {digits : List UInt8} (hdigits : digits.all isDigit = true)
    (h : decimal digits ≤ intMax) :
    (functionKeycode digits).isSome = true ↔ 1 ≤ decimal digits ∧ decimal digits ≤ 12 := by
  obtain ⟨-, hvalue⟩ := digitLoop_spec digits 0 (Nat.zero_le _)
  rw [takeWhile_of_all hdigits, ← decimal, if_pos hdigits] at hvalue
  have hread : (digitLoop 0 digits).value = some (decimal digits : Int) := hvalue h
  rw [functionKeycode, hread]
  dsimp only
  split
  · rename_i hrange
    exact iff_of_true rfl (by omega)
  · rename_i hrange
    exact iff_of_false nofun (by omega)

/-- The tokens of a hotkey that is accepted. -/
theorem addToken_of_valid {hotkey token : List UInt8} (h : (hidReportForHotkey hotkey).valid = true)
    (htoken : token ∈ hotkeyTokens hotkey) : ∃ report, (addToken report token).isSome = true := by
  have hall :
    ∀ (tokens : List (List UInt8)) (report last : HidKeyboardReport), tokens.foldlM addToken report =
    some last →
      token ∈ tokens → ∃ report, (addToken report token).isSome = true := by
    intro tokens
    induction tokens with
    | nil => exact fun _ _ _ hmem => absurd hmem List.not_mem_nil
    | cons first tokens ih =>
      intro report last hfold hmem
      rw [List.foldlM_cons, Option.bind_eq_bind, Option.bind_eq_some_iff] at hfold
      obtain ⟨next, hnext, hrest⟩ := hfold
      rcases List.mem_cons.mp hmem with rfl | hlater
      · exact ⟨report, by rw [hnext]; rfl⟩
      · exact ih next last hrest hlater
  rw [hidReportForHotkey] at h
  split at h
  · cases h
  · rename_i last hfold
    exact hall _ _ _ hfold htoken

theorem functionKey_accepted {hotkey digits : List UInt8} (h : (hidReportForHotkey hotkey).valid = true)
    (htoken : 0x66 :: digits ∈ hotkeyTokens hotkey) (hne : digits ≠ []) :
    (functionKeycode digits).isSome = true := by
  obtain ⟨report, hadded⟩ := addToken_of_valid h htoken
  rw [addToken, modifierForToken_f, keycodeForToken_f hne] at hadded
  split at hadded
  · cases hadded
  · dsimp only at hadded
    cases hkey : functionKeycode digits with
    | some keycode => rfl
    | none =>
      rw [hkey] at hadded
      cases hadded

/-! ## Numbers are not wrapped -/

/-- A text is read as it is written, and an audio port, a key epoch, a scroll speed and a function
key that are accepted are those that are written, exactly where the digits denote at most 2^31 - 1.
-/
theorem numbers_read_as_written (text json hotkey : List UInt8) :
    (ReadAsWritten text ↔ leadingNumber text ≤ intMax) ∧
    (∀ config, parseConfigPayload json = .ok config →
      (∀ raw, fieldValue json (ascii "audio_port") = some raw →
        1024 ≤ config.audioPort ∧ config.audioPort ≤ 65535 ∧
          (Denotes raw config.audioPort ↔ leadingNumber raw ≤ intMax)) ∧
      (∀ raw, fieldValue json (ascii "speaker_sync_key_epoch") = some raw →
        1 ≤ config.speakerSyncKeyEpoch.toNat ∧
          (Denotes raw config.speakerSyncKeyEpoch.toNat ↔ leadingNumber raw ≤ intMax)) ∧
      ∀ keys encoder scroll raw, parseProfile json = .ok (keys, encoder) →
      fieldValue encoder (ascii "scroll") = some scroll →
        fieldValue scroll (ascii "speed") = some raw →
        ((∃ speed : Int, speed.natAbs ≤ intMax ∧ Denotes raw speed ∧
          config.encoderScroll.speed = clampScrollSpeed speed) ↔ leadingNumber raw ≤ intMax)) ∧
    ((hidReportForHotkey hotkey).valid = true →
      ∀ digits, 0x66 :: digits ∈ hotkeyTokens hotkey → digits ≠ [] →
      digits.all isDigit = true →
      (1 ≤ decimal digits ∧ decimal digits ≤ 12 ↔ decimal digits ≤ intMax)) := by
  refine ⟨readAsWritten_iff text, fun config h => ⟨fun raw hraw => audioPort_written h hraw,
    fun raw hraw => epoch_written h hraw, fun keys encoder scroll raw hprofile hscroll hraw =>
      speed_written h hprofile hscroll hraw⟩, fun hvalid digits htoken hne hdigits => ?_⟩
  constructor
  · rintro ⟨-, hsmall⟩
    rw [intMax]
    omega
  · intro hsmall
    exact (functionKeycode_isSome hdigits hsmall).mp (functionKey_accepted hvalid htoken hne)

/-- A configuration with a port. -/
def portConfig (port : String) : List UInt8 :=
  ascii "\x7b\"audio_port\":" ++ ascii port ++ ascii "," ++ smallestConfig.drop 1

theorem portConfig_ok : (parseConfigPayload (portConfig "2000")).isOk = true := by decide +kernel

/-- The port 2000, and the key F5. -/
theorem numbers_read_as_written_port :
    ReadAsWritten (ascii "-12") ∧
    (∃ config, parseConfigPayload (portConfig "2000") = .ok config ∧
      Denotes (ascii "2000") config.audioPort) ∧
    1 ≤ decimal (ascii "5") ∧ decimal (ascii "5") ≤ 12 := by
  obtain ⟨htext, hconfig, hkey⟩ :=
    numbers_read_as_written (ascii "-12") (portConfig "2000") (ascii "Ctrl+F5")
  have hf5 : 0x66 :: ascii "5" ∈ hotkeyTokens (ascii "Ctrl+F5") := by decide +kernel
  refine ⟨htext.mpr (by decide +kernel), ?_,
    (hkey (by decide +kernel) (ascii "5") hf5 (by decide) (by decide)).mpr (by decide)⟩
  cases hparse : parseConfigPayload (portConfig "2000") with
  | error status =>
    have hok := portConfig_ok
    rw [hparse] at hok
    cases hok
  | ok config =>
    obtain ⟨-, -, hport⟩ := (hconfig config hparse).1 (ascii "2000") (by decide +kernel)
    exact ⟨config, rfl, hport.mpr (by decide +kernel)⟩

/-- 2^32 + 17333 is read as 17333, and 2^32 + 1 as F1. -/
theorem number_wrapped :
    (¬ ∀ (text : List UInt8) (n : Int), intValue text = some n → Denotes text n) ∧
    ¬ ∀ digits : List UInt8, digits.all isDigit = true →
    (hidReportForHotkey (0x66 :: digits)).valid = true →
      1 ≤ decimal digits ∧ decimal digits ≤ 12 := by
  constructor
  · intro hclaim
    exact absurd (hclaim (ascii "4294984629") 17333 (by decide +kernel)) (by decide +kernel)
  · intro hclaim
    exact absurd (hclaim (ascii "4294967297") (by decide +kernel) (by decide +kernel)) (by decide +kernel)

end CodexKeyboard.Keyboard
