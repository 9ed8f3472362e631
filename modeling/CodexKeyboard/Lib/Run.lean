import Mathlib.Data.List.Basic
/-!
# Runs of a deterministic labelled system

A system is a function `step : σ → ι → ο × σ`: from a state and an input it computes what the caller
sees and the next state. A run is the list of its inputs; `after step s is` is the state it ends in.

* `answers` — what the caller sees along a run.
* `after_induction` — what one step preserves, a whole run preserves.
* `after_rel` — what relates the two ends of every step relates the two ends of a run.
* `trace_induction` — the same for an invariant that speaks of the run so far.
* `throughout_induction` — what every step that meets a condition preserves, a run of such steps preserves.
* `exists_cause` — a property that is false at the start of a run and true at its end was made true
  by one of its steps.
-/

namespace Lib

section Run
variable {σ ι ο : Type}

/-- The state in which the run with inputs `is` ends. -/
def after (step : σ → ι → ο × σ) : σ → List ι → σ
  | s, [] => s
  | s, i :: is => after step (step s i).2 is

/-- What the caller sees along a run. -/
def answers (step : σ → ι → ο × σ) : σ → List ι → List ο
  | _, [] => []
  | s, i :: is => (step s i).1 :: answers step (step s i).2 is

/-- What the last input of the run `is ++ [i]` answers. -/
def answer (step : σ → ι → ο × σ) (s : σ) (is : List ι) (i : ι) : ο := (step (after step s is) i).1

variable {step : σ → ι → ο × σ}

@[simp] theorem after_nil (s : σ) : after step s [] = s := rfl

@[simp] theorem after_cons (s : σ) (i : ι) (is : List ι) :
    after step s (i :: is) = after step (step s i).2 is := rfl

theorem after_append : ∀ (s : σ) (is js : List ι),
    after step s (is ++ js) = after step (after step s is) js
  | _, [], _ => rfl
  | s, i :: is, js => after_append (step s i).2 is js

theorem after_concat (s : σ) (is : List ι) (i : ι) :
    after step s (is ++ [i]) = (step (after step s is) i).2 := by
  rw [after_append]; rfl

theorem answers_concat : ∀ (s : σ) (is : List ι) (i : ι),
    answers step s (is ++ [i]) = answers step s is ++ [answer step s is i]
  | _, [], _ => rfl
  | s, i :: is, j => congrArg ((step s i).1 :: ·) (answers_concat (step s i).2 is j)

/-- An invariant of every step is an invariant of every run. -/
theorem after_induction {I : σ → Prop} (hstep : ∀ s i, I s → I (step s i).2) :
    ∀ {s : σ} (is : List ι), I s → I (after step s is)
  | _, [], h => h
  | s, i :: is, h => after_induction hstep is (hstep s i h)

/-- A reflexive and transitive relation that every step of a system with invariant `I` respects
relates the two ends of every run. -/
theorem after_rel {I : σ → Prop} {R : σ → σ → Prop} (hI : ∀ s i, I s → I (step s i).2)
    (hrefl : ∀ s, R s s) (htrans : ∀ a b c, R a b → R b c → R a c)
    (hstep : ∀ s i, I s → R s (step s i).2) :
    ∀ {s : σ} (is : List ι), I s → R s (after step s is)
  | s, [], _ => hrefl s
  | s, i :: is, h =>
    htrans _ _ _ (hstep s i h) (after_rel hI hrefl htrans hstep is (hI s i h))

/-- What a run shows: its inputs and what they answered. -/
def trace (step : σ → ι → ο × σ) : σ → List ι → List (ι × ο)
  | _, [] => []
  | s, i :: is => (i, (step s i).1) :: trace step (step s i).2 is

/-- An invariant of the state and what the run has shown so far. -/
theorem trace_induction {I : List (ι × ο) → σ → Prop}
    (hstep : ∀ seen s i, I seen s → I (seen ++ [(i, (step s i).1)]) (step s i).2) :
    ∀ {seen : List (ι × ο)} {s : σ} (is : List ι), I seen s → I (seen ++ trace step s is) (after step s is)
  | seen, s, [], h => by
    rw [trace, List.append_nil]
    exact h
  | seen, s, i :: is, h => by
    have hrest := trace_induction hstep is (hstep seen s i h)
    rw [List.append_assoc] at hrest
    exact hrest

@[simp] theorem map_fst_trace : ∀ (s : σ) (is : List ι), (trace step s is).map Prod.fst = is
  | _, [] => rfl
  | s, i :: is => congrArg (i :: ·) (map_fst_trace (step s i).2 is)

theorem trace_concat : ∀ (s : σ) (is : List ι) (i : ι),
    trace step s (is ++ [i]) = trace step s is ++ [(i, answer step s is i)]
  | _, [], _ => rfl
  | s, i :: is, j => congrArg ((i, (step s i).1) :: ·) (trace_concat (step s i).2 is j)

theorem trace_append :
    ∀ (s : σ) (is js : List ι), trace step s (is ++ js) = trace step s is ++ trace step (after step s is) js
  | _, [], _ => rfl
  | s, i :: is, js => congrArg ((i, (step s i).1) :: ·) (trace_append (step s i).2 is js)

/-- A property that a run makes true is made true by one of its steps. -/
theorem exists_cause {Q : σ → Prop} :
    ∀ {s : σ} (is : List ι), ¬ Q s → Q (after step s is) →
      ∃ pre i post, is = pre ++ i :: post ∧ ¬ Q (after step s pre) ∧ Q (step (after step s pre) i).2
  | _, [], h, h' => absurd h' h
  | s, i :: is, h, h' => by
    by_cases hq : Q (step s i).2
    · exact ⟨[], i, is, rfl, h, hq⟩
    · obtain ⟨pre, j, post, rfl, h1, h2⟩ := exists_cause is hq h'
      exact ⟨i :: pre, j, post, rfl, h1, h2⟩

/-- Every input of a run meets a condition on the state it comes in. -/
def Throughout (step : σ → ι → ο × σ) (ok : σ → ι → Prop) : σ → List ι → Prop
  | _, [] => True
  | s, i :: is => ok s i ∧ Throughout step ok (step s i).2 is

instance decidableThroughout (ok : σ → ι → Prop) [∀ s i, Decidable (ok s i)] :
    ∀ (s : σ) (is : List ι), Decidable (Throughout step ok s is)
  | _, [] => isTrue trivial
  | s, i :: is => @instDecidableAnd _ _ _ (decidableThroughout ok (step s i).2 is)

theorem throughout_append {ok : σ → ι → Prop} : ∀ (s : σ) (is js : List ι),
    Throughout step ok s (is ++ js) ↔ Throughout step ok s is ∧ Throughout step ok (after step s is) js
  | _, [], _ => by simp [Throughout]
  | s, i :: is, js => by
    simp only [List.cons_append, Throughout, after_cons, throughout_append, and_assoc]

/-- Every input meets the condition where it comes. -/
theorem throughout_iff {ok : σ → ι → Prop} : ∀ {s : σ} {is : List ι},
    Throughout step ok s is ↔ ∀ pre i post, is = pre ++ i :: post → ok (after step s pre) i
  | _, [] => by simp [Throughout]
  | s, i :: is => by
    rw [Throughout, throughout_iff]
    constructor
    · rintro ⟨hfirst, hrest⟩ pre j post heq
      cases pre with
      | nil =>
        obtain ⟨rfl, -⟩ := List.cons.inj heq
        exact hfirst
      | cons k pre =>
        obtain ⟨rfl, hrest'⟩ := List.cons.inj heq
        exact hrest pre j post hrest'
    · intro h
      exact ⟨h [] i is rfl, fun pre j post heq => h (i :: pre) j post (by rw [heq, List.cons_append])⟩

/-- An invariant of every step that meets the condition. -/
theorem throughout_induction {I : σ → Prop} {ok : σ → ι → Prop}
    (hstep : ∀ s i, I s → ok s i → I (step s i).2) :
    ∀ {s : σ} (is : List ι), I s → Throughout step ok s is → I (after step s is)
  | _, [], h, _ => h
  | s, i :: is, h, hok => throughout_induction hstep is (hstep s i h hok.1) hok.2

/-- The same for an invariant that speaks of the run so far. -/
theorem throughout_trace_induction {I : List (ι × ο) → σ → Prop} {ok : σ → ι → Prop}
    (hstep : ∀ seen s i, I seen s → ok s i → I (seen ++ [(i, (step s i).1)]) (step s i).2) :
    ∀ {seen : List (ι × ο)} {s : σ} (is : List ι), I seen s → Throughout step ok s is →
      I (seen ++ trace step s is) (after step s is)
  | seen, s, [], h, _ => by
    rw [trace, List.append_nil]
    exact h
  | seen, s, i :: is, h, hok => by
    have hrest := throughout_trace_induction hstep is (hstep seen s i h hok.1) hok.2
    rw [List.append_assoc] at hrest
    exact hrest

end Run

end Lib
