import Mathlib.Data.List.Basic
import Mathlib.Data.List.Nodup
/-!
# Tables of rows

A table is the list of its rows in insertion order. `UPDATE … SET f WHERE p` is `updateWhere p f`,
`DELETE … WHERE p` is `deleteWhere p`, an `INSERT` appends and `COUNT(*) … WHERE p` is `List.countP p`.
A `UNIQUE` index is a symmetric relation that every two rows satisfy: `List.Pairwise`.
-/

namespace Lib

section Table
variable {α β : Type}

/-- `UPDATE … SET f WHERE p`. -/
def updateWhere (p : α → Bool) (f : α → α) (t : List α) : List α := t.map fun r => if p r then f r else r

/-- `DELETE … WHERE p`. -/
def deleteWhere (p : α → Bool) (t : List α) : List α := t.filter fun r => !p r

variable {p q : α → Bool} {f : α → α} {t : List α}

theorem mem_updateWhere {r : α} :
    r ∈ updateWhere p f t ↔ (r ∈ t ∧ p r = false) ∨ ∃ r₀ ∈ t, p r₀ = true ∧ f r₀ = r := by
  simp only [updateWhere, List.mem_map]
  constructor
  · rintro ⟨a, ha, rfl⟩
    by_cases h : p a = true
    · exact Or.inr ⟨a, ha, h, by simp [h]⟩
    · exact Or.inl (by simp [h, ha])
  · rintro (⟨hr, hp⟩ | ⟨a, ha, hp, rfl⟩)
    · exact ⟨r, hr, by simp [hp]⟩
    · exact ⟨a, ha, by simp [hp]⟩

theorem mem_updateWhere_of_pos {r : α} (h : r ∈ t) (hp : p r = true) : f r ∈ updateWhere p f t :=
  mem_updateWhere.2 (Or.inr ⟨r, h, hp, rfl⟩)

theorem mem_updateWhere_of_neg {r : α} (h : r ∈ t) (hp : p r = false) : r ∈ updateWhere p f t :=
  mem_updateWhere.2 (Or.inl ⟨h, hp⟩)

@[simp] theorem length_updateWhere : (updateWhere p f t).length = t.length := by simp [updateWhere]

theorem updateWhere_eq_self (h : ∀ r ∈ t, p r = true → f r = r) : updateWhere p f t = t := by
  unfold updateWhere
  conv => rhs; rw [← List.map_id t]
  refine List.map_congr_left fun r hr => ?_
  by_cases hp : p r = true
  · simp [hp, h r hr hp]
  · simp [hp]

theorem updateWhere_none (h : ∀ r ∈ t, p r = false) : updateWhere p f t = t :=
  updateWhere_eq_self fun r hr hp => by simp [h r hr] at hp

/-- An index that the changed rows still satisfy holds after the update. -/
theorem pairwise_updateWhere {R : α → α → Prop} (ht : t.Pairwise R)
    (h : ∀ a ∈ t, ∀ b ∈ t, R a b → R (if p a then f a else a) (if p b then f b else b)) :
    (updateWhere p f t).Pairwise R := by
  unfold updateWhere
  rw [List.pairwise_map]
  exact ht.imp_of_mem fun ha hb hab => h _ ha _ hb hab

theorem countP_updateWhere_le (h : ∀ r ∈ t, p r = true → q (f r) = true → q r = true) :
    (updateWhere p f t).countP q ≤ t.countP q := by
  simp only [updateWhere, List.countP_map]
  refine List.countP_mono_left fun r hr hq => ?_
  by_cases hp : p r = true
  · simp only [Function.comp, hp, if_true] at hq
    exact h r hr hp hq
  · simpa [Function.comp, hp] using hq

theorem countP_updateWhere_le_add : (updateWhere p f t).countP q ≤ t.countP q + t.countP p := by
  induction t with
  | nil => simp [updateWhere]
  | cons r t ih =>
    simp only [updateWhere, List.map_cons, List.countP_cons] at ih ⊢
    by_cases hp : p r = true
    · simp only [hp, if_true]
      split <;> split <;> omega
    · simp only [hp, Bool.false_eq_true, if_false]
      split <;> omega

/-- An update that makes rows qualify that did not before. -/
theorem countP_updateWhere_add (h : ∀ r ∈ t, p r = true → q (f r) = true ∧ q r = false) :
    (updateWhere p f t).countP q = t.countP q + t.countP p := by
  induction t with
  | nil => simp [updateWhere]
  | cons r t ih =>
    have ih := ih fun r' hr' => h r' (List.mem_cons_of_mem _ hr')
    simp only [updateWhere, List.map_cons, List.countP_cons] at ih ⊢
    by_cases hp : p r = true
    · obtain ⟨h1, h2⟩ := h r List.mem_cons_self hp
      simp only [hp, h1, h2, if_true, Bool.false_eq_true, if_false]
      omega
    · simp only [hp, Bool.false_eq_true, if_false]
      omega

/-- Rows that a symmetric index keeps apart cannot both satisfy a predicate the index forbids twice. -/
theorem countP_le_one {R : α → α → Prop} (h : t.Pairwise R)
    (hR : ∀ a b, R a b → ¬(p a = true ∧ p b = true)) :
    t.countP p ≤ 1 := by
  induction h with
  | nil => simp
  | @cons r t hr _ ih =>
    rw [List.countP_cons]
    by_cases hp : p r = true
    · have h0 : t.countP p = 0 := List.countP_eq_zero.2 fun b hb pb => hR r b (hr b hb) ⟨hp, pb⟩
      simp [hp, h0]
    · simpa [hp] using ih

/-- A symmetric index relates any two different rows of the table. -/
theorem rel_of_pairwise {R : α → α → Prop} (hs : ∀ a b, R a b → R b a) {t : List α} (h : t.Pairwise R)
    {a b : α} (ha : a ∈ t) (hb : b ∈ t) (hne : a ≠ b) : R a b := by
  induction h with
  | nil => simp at ha
  | cons hx _ ih =>
    rcases List.mem_cons.1 ha with ea | ma <;> rcases List.mem_cons.1 hb with eb | mb
    · exact absurd (ea.trans eb.symm) hne
    · exact ea ▸ hx _ mb
    · exact eb ▸ hs _ _ (hx _ ma)
    · exact ih ma mb

end Table

end Lib
