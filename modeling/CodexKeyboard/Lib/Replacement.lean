import Mathlib.Data.List.Infix
/-!
# Texts with replaced pieces

`Replaced marker Cut text out`: `out` is `text` with some pieces replaced by `marker`, where `Cut
piece rest` holds of each piece and of the text after it. Every place of `out` is either a place of
`text` or lies inside a marker (`Replaced.split`), and what is read from a place of `text` without
meeting a marker was there (`Replaced.kept`).
-/

namespace Lib

variable {α : Type}

inductive Replaced (marker : List α) (Cut : List α → List α → Prop) : List α → List α → Prop
  | nil : Replaced marker Cut [] []
  | keep {text out : List α} (c : α) (h : Replaced marker Cut text out) :
    Replaced marker Cut (c :: text) (c :: out)
  | cut {text out : List α} (piece : List α) (hcut : Cut piece text) (h : Replaced marker Cut text out) :
      Replaced marker Cut (piece ++ text) (marker ++ out)

/-- What stands before a place of `out` and before the same place of `text`. -/
inductive SameBefore (Cut : List α → List α → Prop) (rest : List α) : List α → List α → Prop
  | start : SameBefore Cut rest [] []
  | kept (before before' : List α) (c : α) : SameBefore Cut rest (before ++ [c]) (before' ++ [c])
  | cut (before before' piece : List α) (hcut : Cut piece rest) :
    SameBefore Cut rest (before ++ piece) before'

section
variable {marker text out pre post : List α} {Cut : List α → List α → Prop}

theorem Replaced.refl : ∀ text : List α, Replaced marker Cut text text
  | [] => .nil
  | c :: text => .keep c (Replaced.refl text)

theorem SameBefore.cons {rest before before' : List α} (c : α) (h : SameBefore Cut rest before before') :
    SameBefore Cut rest (c :: before) (c :: before') := by
  cases h with
  | start => exact .kept [] [] c
  | kept before before' d => exact .kept (c :: before) (c :: before') d
  | cut before before' piece hcut => exact .cut (c :: before) (c :: before') piece hcut

theorem SameBefore.append_cut {rest before before' : List α} (piece : List α)
    (hcut : Cut piece (before ++ rest))
    (h : SameBefore Cut rest before before') :
    SameBefore Cut rest (piece ++ before) (marker ++ before') := by
  cases h with
  | start =>
    rw [List.append_nil, List.append_nil]
    exact .cut [] marker piece hcut
  | kept before before' d =>
    rw [← List.append_assoc, ← List.append_assoc]
    exact .kept (piece ++ before) (marker ++ before') d
  | cut before before' other hother =>
    rw [← List.append_assoc]
    exact .cut (piece ++ before) (marker ++ before') other hother

/-- Every place of the result is a place of the text or lies inside a marker. -/
theorem Replaced.split (h : Replaced marker Cut text out) : ∀ {pre post : List α}, out = pre ++ post →
    (∃ before rest, text = before ++ rest ∧ Replaced marker Cut rest post ∧
      SameBefore Cut rest before pre) ∨
    ∃ inside tail after, marker = inside ++ tail ∧ inside ≠ [] ∧ tail ≠ [] ∧ post = tail ++ after ∧
      inside <:+ pre := by
  induction h with
  | nil =>
    intro pre post hout
    obtain ⟨rfl, rfl⟩ := List.append_eq_nil_iff.1 hout.symm
    exact .inl ⟨[], [], rfl, .nil, .start⟩
  | @keep text out c h ih =>
    intro pre post hout
    cases pre with
    | nil =>
      cases hout
      exact .inl ⟨[], c :: text, rfl, .keep c h, .start⟩
    | cons d pre =>
      obtain ⟨rfl, hrest⟩ := List.cons.inj hout
      rcases ih hrest with ⟨before, rest, htext, hrest, hbefore⟩
        | ⟨inside, tail, after, hmarker, hin, htail, hpost, hsuffix⟩
      · exact .inl ⟨c :: before, rest, by rw [htext, List.cons_append], hrest, hbefore.cons c⟩
      · exact .inr ⟨inside, tail, after, hmarker, hin, htail, hpost, hsuffix.trans (List.suffix_cons c pre)⟩
  | @cut text out piece hcut h ih =>
    intro pre post hout
    rcases List.append_eq_append_iff.1 hout with ⟨extra, rfl, hrest⟩ | ⟨tail, hmarker, rfl⟩
    · rcases ih hrest with ⟨before, rest, htext, hrest, hbefore⟩
        | ⟨inside, tail, after, hmarker, hin, htail, hpost, hsuffix⟩
      · refine .inl ⟨piece ++ before, rest, by rw [htext, List.append_assoc], hrest, ?_⟩
        exact hbefore.append_cut piece (htext ▸ hcut)
      · exact .inr ⟨inside, tail, after, hmarker, hin, htail, hpost,
          hsuffix.trans (List.suffix_append marker extra)⟩
    · by_cases hpre : pre = []
      · subst hpre
        refine .inl ⟨[], piece ++ text, rfl, ?_, .start⟩
        have hmarker : marker = tail := hmarker
        rw [← hmarker]
        exact .cut piece hcut h
      by_cases htail : tail = []
      · subst htail
        rw [List.append_nil] at hmarker
        refine .inl ⟨piece, text, rfl, h, ?_⟩
        exact .cut [] pre piece hcut
      · exact .inr ⟨pre, tail, out, hmarker, hpre, htail, rfl, List.suffix_refl pre⟩

/-- What is read without meeting a marker stands in the text. -/
theorem Replaced.kept {w : List α} (h : Replaced marker Cut text (w ++ post))
    (hfree : ∀ u v, w = u ++ v → v ≠ [] → ¬ marker <+: v ++ post) :
    ∃ rest, text = w ++ rest ∧ Replaced marker Cut rest post := by
  induction w generalizing text with
  | nil => exact ⟨text, rfl, h⟩
  | cons c w ih =>
    have hmarker := hfree [] (c :: w) rfl (List.cons_ne_nil c w)
    generalize hout : c :: w ++ post = out at h hmarker
    cases h with
    | nil => cases hout
    | keep d h =>
      obtain ⟨rfl, rfl⟩ := List.cons.inj hout
      obtain ⟨rest, rfl, hrest⟩ := ih h fun u v hw => hfree (c :: u) v (by rw [hw, List.cons_append])
      exact ⟨rest, rfl, hrest⟩
    | cut piece _ h => exact absurd (List.prefix_append marker _) hmarker

/-- Where the result goes on, or ends, the text does the same, unless a marker stands there. -/
theorem Replaced.head {first : α} (h : Replaced marker Cut text out) (hfirst : marker.head? = some first)
    (hout : out.head? ≠ some first) : text.head? = out.head? := by
  cases h with
  | nil => rfl
  | keep c h => rfl
  | cut piece _ h =>
    cases marker with
    | nil => cases hfirst
    | cons d marker =>
      cases hfirst
      exact absurd rfl hout

end

end Lib
