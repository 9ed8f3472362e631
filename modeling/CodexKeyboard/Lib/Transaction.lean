import Mathlib.Data.List.Basic
/-!
# Transactions

A transaction body over a store `σ` is an `Except ε (α × σ)`: the value it returns and the store it
commits. An error rolls everything back (`transact`). `ensure` is the check that fails with a given
error; the lemmas below take a body apart step by step.
-/

namespace Lib

section Transaction
variable {ε α β σ : Type}

/-- Fail with `e` unless `c` holds. -/
def ensure (c : Bool) (e : ε) : Except ε Unit := if c then .ok () else .error e

@[simp] theorem ensure_eq_ok {c : Bool} {e : ε} {u : Unit} : ensure c e = .ok u ↔ c = true := by
  cases c <;> simp [ensure]

@[simp] theorem ensure_eq_error {c : Bool} {e e' : ε} : ensure c e = .error e' ↔ c = false ∧ e = e' := by
  cases c <;> simp [ensure]

@[simp] theorem ensure_true (e : ε) : ensure true e = .ok () := rfl
@[simp] theorem ensure_false (e : ε) : ensure false e = .error e := rfl

theorem bind_eq_ok {x : Except ε α} {f : α → Except ε β} {b : β} :
    (x >>= f) = .ok b ↔ ∃ a, x = .ok a ∧ f a = .ok b := by
  cases x <;> simp [bind, Except.bind]

@[simp] theorem ok_bind (a : α) (f : α → Except ε β) : (Except.ok a >>= f) = f a := rfl
@[simp] theorem error_bind (e : ε) (f : α → Except ε β) :
    ((Except.error e : Except ε α) >>= f) = .error e := rfl
@[simp] theorem pure_eq_ok (a : α) : (pure a : Except ε α) = .ok a := rfl
@[simp] theorem throw_eq_error (e : ε) : (throw e : Except ε α) = .error e := rfl

/-- A check in front of a computation. -/
theorem refusing_eq_ok {refused : Prop} [Decidable refused] {e : ε} {x : Except ε α} {a : α} :
    (if refused then .error e else x) = .ok a ↔ ¬ refused ∧ x = .ok a := by
  by_cases h : refused <;> simp [h]

/-- Commit what the body computed, or keep the old store when it failed. -/
def transact (body : Except ε (α × σ)) (old : σ) : Except ε α × σ :=
  match body with
  | .ok (a, new) => (.ok a, new)
  | .error e => (.error e, old)

@[simp] theorem transact_ok (a : α) (new old : σ) :
    transact (.ok (a, new) : Except ε (α × σ)) old = (.ok a, new) := rfl

@[simp] theorem transact_error (e : ε) (old : σ) :
    transact (.error e : Except ε (α × σ)) old = (.error e, old) := rfl

/-- The caller sees a value exactly when the body committed. -/
theorem transact_fst_eq_ok {body : Except ε (α × σ)} {old : σ} {a : α} :
    (transact body old).1 = .ok a ↔ body = .ok (a, (transact body old).2) := by
  match body with
  | .ok (b, new) => simp
  | .error e => simp

/-- What holds of the old store and of every store the body commits holds after the transaction. -/
theorem transact_induction {body : Except ε (α × σ)} {old : σ} {I : σ → Prop} (h0 : I old)
    (h : ∀ a new, body = .ok (a, new) → I new) : I (transact body old).2 := by
  match body, h with
  | .ok (a, new), h => exact h a new rfl
  | .error _, _ => exact h0

/-! ## Folds -/

/-- A fold whose steps do what `g` says when they succeed. -/
theorem foldlM_eq_ok {f : σ → α → Except ε σ} {g : σ → α → σ}
    (h : ∀ s x s', f s x = .ok s' → s' = g s x) {l : List α}
    {s s' : σ} (hl : l.foldlM f s = .ok s') : s' = l.foldl g s := by
  induction l generalizing s with
  | nil =>
    cases hl
    rfl
  | cons x l ih =>
    rw [List.foldlM_cons, bind_eq_ok] at hl
    obtain ⟨s₁, hx, hl⟩ := hl
    rw [List.foldl_cons, ← h s x s₁ hx]
    exact ih hl

/-- A fold whose every step succeeds after the steps before it. -/
theorem foldlM_ok {f : σ → α → Except ε σ} {g : σ → α → σ} {l : List α} {s : σ}
    (h : ∀ done x rest, l = done ++ x :: rest → f (done.foldl g s) x = .ok (g (done.foldl g s) x)) :
    l.foldlM f s = .ok (l.foldl g s) := by
  induction l generalizing s with
  | nil => rfl
  | cons x l ih =>
    have hx : f s x = .ok (g s x) := h [] x l rfl
    rw [List.foldlM_cons, hx]
    refine ih fun done y rest heq => ?_
    exact h (x :: done) y rest (by rw [heq, List.cons_append])

end Transaction

end Lib
