import Mathlib.Data.List.Basic
/-!
# Procedures that a crash may stop

A procedure runs on a durable state `σ` and returns a value, unless its process dies on the way:
then only the state is left. It can die at its interruption points; the budget says how many of them
it still passes, and `none` is a process that does not die.

`Spec P x Q C`: started in a state that satisfies `P`, `x` returns a value and a state that satisfy
`Q`, or dies in a state that satisfies `C`. A procedure that may also fail has a postcondition `E`
for its errors: `SpecE P x Q E C`.
-/

namespace Lib

/-- What is left of the budget and the value, or nothing when the process died. -/
def Proc (σ α : Type) : Type := Option Nat → σ → Option (α × Option Nat) × σ

namespace Proc

variable {σ α β : Type}

def ret (a : α) : Proc σ α := fun n s => (some (a, n), s)

def seq (x : Proc σ α) (f : α → Proc σ β) : Proc σ β := fun n s =>
  match x n s with
  | (some (a, n'), s') => f a n' s'
  | (none, s') => (none, s')

instance : Monad (Proc σ) where
  pure := ret
  bind := seq

/-- A point where the process may die. -/
def interrupt : Proc σ Unit := fun n s =>
  match n with
  | some 0 => (none, s)
  | some (k + 1) => (some ((), some k), s)
  | none => (some ((), none), s)

/-- One step on the state that nothing interrupts. -/
def act (f : σ → α × σ) : Proc σ α := fun n s => (some ((f s).1, n), (f s).2)

/-- What the procedure leaves behind, and the value when it returned one. -/
def run (x : Proc σ α) (budget : Option Nat) (s : σ) : Option α × σ :=
  Prod.map (Option.map Prod.fst) id (x budget s)

/-- Pre- and postcondition, and the condition a crash leaves. -/
def Spec (P : σ → Prop) (x : Proc σ α) (Q : α → σ → Prop) (C : σ → Prop) : Prop :=
  ∀ n s, P s → (∀ a n' s', x n s = (some (a, n'), s') → Q a s') ∧ (∀ s', x n s = (none, s') → C s')

variable {P P' : σ → Prop} {Q Q' : α → σ → Prop} {R : β → σ → Prop} {C C' : σ → Prop} {x : Proc σ α}
    {f : α → Proc σ β}

/-! ## Rules -/

theorem spec_ret {a : α} (h : ∀ s, P s → Q a s) : Spec P (pure a : Proc σ α) Q C := by
  intro n s hP
  constructor
  · rintro a' n' s' heq
    cases heq
    exact h s hP
  · rintro s' heq
    cases heq

theorem spec_bind (hx : Spec P x Q C) (hf : ∀ a, Spec (Q a) (f a) R C) : Spec P (x >>= f) R C := by
  intro n s hP
  obtain ⟨hret, hdie⟩ := hx n s hP
  show (∀ b n' s', seq x f n s = _ → _) ∧ ∀ s', seq x f n s = _ → _
  unfold seq
  rcases hxs : x n s with ⟨o, s₁⟩
  cases o with
  | none =>
    constructor
    · rintro b n' s' heq
      cases heq
    · rintro s' heq
      cases heq
      exact hdie s₁ hxs
  | some r => exact hf r.1 r.2 s₁ (hret r.1 r.2 s₁ hxs)

theorem spec_interrupt {P₁ : σ → Prop} (h : ∀ s, P s → P₁ s) (hC : ∀ s, P s → C s) :
    Spec P (interrupt : Proc σ Unit) (fun _ => P₁) C := by
  intro n s hP
  cases n with
  | none =>
    constructor
    · rintro a n' s' heq
      cases heq
      exact h s hP
    · rintro s' heq
      cases heq
  | some k =>
    cases k with
    | zero =>
      constructor
      · rintro a n' s' heq
        cases heq
      · rintro s' heq
        cases heq
        exact hC s hP
    | succ k =>
      constructor
      · rintro a n' s' heq
        cases heq
        exact h s hP
      · rintro s' heq
        cases heq

theorem spec_act {f : σ → α × σ} (h : ∀ s, P s → Q (f s).1 (f s).2) : Spec P (act f) Q C := by
  intro n s hP
  constructor
  · rintro a n' s' heq
    cases heq
    exact h s hP
  · rintro s' heq
    cases heq

/-- The rule of consequence. -/
theorem spec_mono (h : Spec P x Q C) (hP : ∀ s, P' s → P s) (hQ : ∀ a s, Q a s → Q' a s)
    (hC : ∀ s, C s → C' s) :
    Spec P' x Q' C' := by
  intro n s hs
  obtain ⟨hret, hdie⟩ := h n s (hP s hs)
  exact ⟨fun a n' s' heq => hQ a s' (hret a n' s' heq), fun s' heq => hC s' (hdie s' heq)⟩

theorem spec_pre (h : Spec P x Q C) (hP : ∀ s, P' s → P s) : Spec P' x Q C :=
  spec_mono h hP (fun _ _ => id) fun _ => id

theorem spec_and {φ : Prop} (h : φ → Spec P x Q C) : Spec (fun s => φ ∧ P s) x Q C := by
  rintro n s ⟨hφ, hP⟩
  exact h hφ n s hP

/-- The initial state can be named. -/
theorem spec_forall (h : ∀ s₀, P s₀ → Spec (fun s => s = s₀) x Q C) : Spec P x Q C := by
  intro n s hP
  exact h s hP n s rfl

/-- What a run of a specified procedure ends in. -/
theorem Spec.run (h : Spec P x Q C) (budget : Option Nat) {s : σ} (hP : P s) :
    (∃ a, (x.run budget s).1 = some a ∧ Q a (x.run budget s).2) ∨
      ((x.run budget s).1 = none ∧ C (x.run budget s).2) := by
  obtain ⟨hret, hdie⟩ := h budget s hP
  unfold Proc.run
  rcases hxs : x budget s with ⟨o, s'⟩
  cases o with
  | none => exact Or.inr ⟨rfl, hdie s' hxs⟩
  | some r => exact Or.inl ⟨r.1, rfl, hret r.1 r.2 s' hxs⟩

/-! ## Procedures that may fail -/

/-- A procedure that returns a value or an error. -/
abbrev Fallible (ε σ α : Type) : Type := ExceptT ε (Proc σ) α

variable {ε ε' : Type}

/-- `Q` of a value, `E` of an error. -/
def Ends (Q : α → σ → Prop) (E : ε → σ → Prop) : Except ε α → σ → Prop
  | .ok a => Q a
  | .error e => E e

/-- Pre- and postcondition, the condition of an error and the one a crash leaves. -/
def SpecE (P : σ → Prop) (x : Fallible ε σ α) (Q : α → σ → Prop) (E : ε → σ → Prop) (C : σ → Prop) : Prop :=
  Spec P x.run (Ends Q E) C

variable {E E' : ε → σ → Prop} {y : Fallible ε σ α} {g : α → Fallible ε σ β}

theorem specE_ret {a : α} (h : ∀ s, P s → Q a s) : SpecE P (pure a : Fallible ε σ α) Q E C := spec_ret h

theorem specE_bind (hx : SpecE P y Q E C) (hf : ∀ a, SpecE (Q a) (g a) R E C) :
    SpecE P (y >>= g) R E C := by
  show Spec P (y.run >>= ExceptT.bindCont g) _ _
  refine spec_bind hx fun r => ?_
  cases r with
  | error e => exact spec_ret fun s hs => hs
  | ok a => exact hf a

theorem specE_mono (h : SpecE P y Q E C) (hP : ∀ s, P' s → P s) (hQ : ∀ a s, Q a s → Q' a s)
    (hE : ∀ e s, E e s → E' e s) (hC : ∀ s, C s → C' s) : SpecE P' y Q' E' C' := by
  refine spec_mono h hP (fun r s hs => ?_) hC
  cases r with
  | error e => exact hE e s hs
  | ok a => exact hQ a s hs

theorem specE_and {φ : Prop} (h : φ → SpecE P y Q E C) : SpecE (fun s => φ ∧ P s) y Q E C := spec_and h

theorem specE_forall (h : ∀ s₀, P s₀ → SpecE (fun s => s = s₀) y Q E C) : SpecE P y Q E C := spec_forall h

/-- Another name for the errors. -/
theorem specE_adapt {k : ε' → ε} {y : Fallible ε' σ α} (h : SpecE P y Q (fun e => E (k e)) C) :
    SpecE P (ExceptT.adapt k y) Q E C := by
  show Spec P (Except.mapError k <$> y.run) _ _
  refine spec_bind h fun r => spec_ret fun s hs => ?_
  cases r with
  | error e => exact hs
  | ok a => exact hs

/-- The invariant of a loop over a list. -/
theorem specE_forM {ι : Type} {I : List ι → σ → Prop} {body : ι → Fallible ε σ PUnit}
    (h : ∀ i rest, SpecE (I (i :: rest)) (body i) (fun _ => I rest) E C) (l : List ι) :
    SpecE (I l) (l.forM body) (fun _ => I []) E C := by
  induction l with
  | nil => exact specE_ret fun s hs => hs
  | cons i rest ih => exact specE_bind (h i rest) fun _ => ih

end Proc

end Lib
