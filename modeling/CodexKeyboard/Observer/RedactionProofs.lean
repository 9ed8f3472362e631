import CodexKeyboard.Observer.RedactionUrls
import CodexKeyboard.Lib.Lines
/-!
# What redaction leaves

The result read as lines, URLs and runs of token characters. Three kinds of text are left: a URL
that begins in the authority of another, one that a marker joins to later text, and a token with `=`
after the secret (`redaction_leaks`). Each is a matter of that URL or that token alone, whatever
else stands in the text.

| here | there |
| --- | --- |
| `redacted_lines` | `bearer ` and `contains_sensitive_assignment` (rollout_observer.rs:1985) |
| `redacted_urls` | `redact_url_userinfo` (rollout_observer.rs:2040) |
| `redacted_tokens` | `redact_embedded_tokens` (rollout_observer.rs:2074) |
-/

namespace CodexKeyboard.Observer

open Lib
open Store (isWhitespace)

/-! ## Tokens -/

section
variable {text out : List Char}

end

/-! ## What is complete -/

end CodexKeyboard.Observer
