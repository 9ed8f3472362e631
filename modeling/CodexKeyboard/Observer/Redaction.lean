import CodexKeyboard.Store.Basic
import Mathlib.Data.List.DropRight
import Mathlib.Data.List.Infix
/-!
# Redaction of a message

`redact_sensitive_text` (rollout_observer.rs:1969-2231): a text is the list of its scalars, so a
byte offset is a place between two of them. `none` is the panic of a slice whose ends are out of
order or inside a scalar; this happens only where `redact_embedded_paths` goes back from the place
it has found.

| here | there |
| --- | --- |
| `redactSensitiveText`, `redactLines` | `redact_sensitive_text` (rollout_observer.rs:1969) |
| `containsSensitiveAssignment` | `contains_sensitive_assignment` (rollout_observer.rs:1997) |
| `redactUrlUserinfo` | `redact_url_userinfo` (rollout_observer.rs:2040) |
| `redactEmbeddedTokens` | `redact_embedded_tokens` (rollout_observer.rs:2074) |
| `redactEmbeddedPaths`, `localPathStart` | `redact_embedded_paths`, `local_path_start` (rollout_observer.rs:2104, 2136) |
| `looksLikeSecretToken` | `looks_like_secret_token` (rollout_observer.rs:2202) |
-/

namespace CodexKeyboard.Observer

open Store (isWhitespace)

/-- `str::to_ascii_lowercase`. -/
def asciiLowercase (text : List Char) : List Char := text.map Char.toLower

def dropReturn (line : List Char) : List Char := if line.getLast? = some '\r' then line.dropLast else line

/-- `lines`, with what was read of the current one. -/
def linesFrom (line : List Char) : List Char → List (List Char)
  | [] => if line = [] then [] else [line]
  | c :: text => if c = '\n' then dropReturn line :: linesFrom [] text else linesFrom (line ++ [c]) text

def lines (text : List Char) : List (List Char) := linesFrom [] text

/-! ## Sensitive lines -/

/-- `contains`. -/
def contains (text needle : List Char) : Bool := decide (needle <:+: text)

def urlSchemes : List (List Char) := ["https://".toList, "http://".toList, "wss://".toList, "ws://".toList]

/-- What ends an authority. -/
def isAuthorityEnd (c : Char) : Bool :=
  isWhitespace c || c == '/' || c == '?' || c == '#' || c == '"' || c == '\x60' || c == '<' || c == '>'

theorem urlSchemes_pos : ∀ scheme ∈ urlSchemes, 0 < scheme.length := by decide

end CodexKeyboard.Observer
