import CodexKeyboard.Keyboard.ConfigPayload
import CodexKeyboard.Keyboard.HeldKeyboard
/-!
# Hotkeys

`hid_report_for_hotkey` (hid_keycode.cpp:167): a hotkey is a list of tokens joined by `+`, each a
modifier or a key, and becomes one report. A function key is the letter and a number, read by a loop
over the digits as in `int_value`.

| here | there |
| --- | --- |
| `normalize`, `modifierForToken`, `keycodeForToken` | hid_keycode.cpp:20, 32, 74 |
| `addKeycode`, `hidReportForHotkey` | hid_keycode.cpp:147, 167 |
-/

namespace CodexKeyboard.Keyboard

/-- `std::tolower` in the C locale. -/
def toLower (ch : UInt8) : UInt8 := if 0x41 ≤ ch ∧ ch ≤ 0x5A then ch + 0x20 else ch

def normalize (value : List UInt8) : List UInt8 :=
  (value.filter fun ch => ch ≠ 0x20 ∧ ch ≠ 0x5F ∧ ch ≠ 0x2D).map toLower

/-- The bit of a modifier. -/
def modifierForToken : List UInt8 → Option UInt8 :=
  named [("ctrl", 0x01), ("control", 0x01), ("commandorcontrol", 0x01),
    ("leftctrl", 0x01), ("leftcontrol", 0x01),
    ("shift", 0x02), ("leftshift", 0x02), ("alt", 0x04), ("option", 0x04), ("leftalt", 0x04),
      ("leftoption", 0x04),
    ("meta", 0x08), ("gui", 0x08), ("cmd", 0x08), ("command", 0x08), ("leftmeta", 0x08), ("leftgui", 0x08),
    ("leftcmd", 0x08), ("leftcommand", 0x08), ("altgr", 0x40), ("rightalt", 0x40), ("rightoption", 0x40),
    ("rightmeta", 0x80), ("rightgui", 0x80), ("rightcmd", 0x80), ("rightcommand", 0x80),
      ("rightctrl", 0x10),
    ("rightcontrol", 0x10), ("rightshift", 0x20)]

/-- The keys that have a name. -/
def namedKeycode : List UInt8 → Option UInt8 :=
  named [("enter", 0x28), ("return", 0x28), ("escape", 0x29),
    ("esc", 0x29), ("backspace", 0x2A), ("tab", 0x2B),
    ("space", 0x2C), ("spacebar", 0x2C), ("arrowright", 0x4F), ("right", 0x4F), ("arrowleft", 0x50),
      ("left", 0x50),
    ("arrowdown", 0x51), ("down", 0x51), ("arrowup", 0x52), ("up", 0x52)]

/-- The key of a one-letter token. -/
def characterKeycode (ch : UInt8) : Option UInt8 :=
  if 0x61 ≤ ch ∧ ch ≤ 0x7A then some (0x04 + (ch - 0x61))
  else if 0x31 ≤ ch ∧ ch ≤ 0x39 then some (0x1E + (ch - 0x31))
  else if ch = 0x30 then some 0x27
  else none

/-- Lines 118-130, behind the letter. -/
def functionKeycode (digits : List UInt8) : Option UInt8 :=
  match (digitLoop 0 digits).value with
  | none => none
  | some number => if 1 ≤ number ∧ number ≤ 12 then some (0x3A + UInt8.ofNat (number - 1).toNat) else none

def keycodeForToken (token : List UInt8) : Option UInt8 :=
  match token with
  | [ch] => characterKeycode ch
  | _ =>
    match namedKeycode token with
    | some keycode => some keycode
    | none => if 2 ≤ token.length ∧ token.head? = some 0x66 then functionKeycode (token.drop 1) else none

def unsupportedHotkeyToken (token : List UInt8) : Bool := token = ascii "fn" || token = ascii "function"

/-- `add_keycode`: refused if the report has the key or no room for it. -/
def HidKeyboardReport.addKeycode (report : HidKeyboardReport) (keycode : UInt8) :
    Option HidKeyboardReport :=
  if keycode ∈ report.keycodes.toList then none
  else (report.keycodes.toList.findIdx? (· = 0)).map fun i =>
    { report with
      keycodes := report.keycodes.setIfInBounds i keycode
      keycode := if report.keycode = 0 then keycode else report.keycode }

/-- One token of a hotkey. -/
def addToken (report : HidKeyboardReport) (token : List UInt8) : Option HidKeyboardReport :=
  if unsupportedHotkeyToken token then none
  else
    match modifierForToken token with
    | some modifier => some { report with modifier := report.modifier ||| modifier }
    | none => (keycodeForToken token).bind report.addKeycode

/-- The tokens between the `+`, without the empty ones. -/
def hotkeyTokens (hotkey : List UInt8) : List (List UInt8) :=
  ((hotkey.splitOn 0x2B).map normalize).filter (· ≠ [])

def hidReportForHotkey (hotkey : List UInt8) : HidKeyboardReport :=
  match (hotkeyTokens hotkey).foldlM addToken {} with
  | none => {}
  | some report =>
    { report with
      valid := hotkeyTokens hotkey ≠ [] && (report.appleFn || report.modifier ≠ 0 || report.keycode ≠ 0) }

end CodexKeyboard.Keyboard
