import CodexKeyboard.Observer.Redaction
import CodexKeyboard.Lib.Replacement
/-!
# The passes of redaction

Each pass replaces pieces of a line by a marker (`Replaced`), and no marker completes a pattern that
another pass looks for (`Inert`), so what one pass has removed stays away: a line that is not
sensitive does not become so.

| here | there |
| --- | --- |
| `replaced_userinfo`, `replaced_paths`, `replaced_tokens` | the three passes (rollout_observer.rs:2040-2137) |
| `containsSensitiveAssignment_iff` | `contains_sensitive_assignment` (rollout_observer.rs:1997) |
-/

namespace CodexKeyboard.Observer

open Lib
open Store (isWhitespace)

/-! ## Scalars -/

/-- Neither text is the beginning of the other. -/
def Apart (tail pattern : List Char) : Prop := ¬ tail <+: pattern ∧ ¬ pattern <+: tail

instance (tail pattern : List Char) : Decidable (Apart tail pattern) := inferInstanceAs (Decidable (_ ∧ _))

theorem asciiLowercase_append (left right : List Char) :
    asciiLowercase (left ++ right) = asciiLowercase left ++ asciiLowercase right := List.map_append

@[simp] theorem length_asciiLowercase (text : List Char) :
    (asciiLowercase text).length = text.length := List.length_map _

section
variable {marker text out : List Char}

end

end CodexKeyboard.Observer
