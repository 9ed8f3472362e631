import Mathlib.Data.List.Basic
/-!
# Byte streams of terminated lines

`completeLines sep bs` is the list of the lines of `bs` that end with `sep`, without it; what
follows the last `sep` is no complete line. A stream may be cut after any `sep`
(`completeLines_append`). `firstOccurrences` keeps of every key the first entry.
-/

namespace Lib

section Lines
variable {α : Type} {sep : α}

/-- The stream ends where a line ends. -/
def Terminated (sep : α) (bs : List α) : Prop := bs = [] ∨ ∃ pre, bs = pre ++ [sep]

theorem terminated_nil : Terminated sep ([] : List α) := Or.inl rfl

variable [DecidableEq α]

/-- The lines that end in `sep`; `line` is what was read of the first one. -/
def completeLinesFrom (sep : α) (line : List α) : List α → List (List α)
  | [] => []
  | b :: bs =>
    if b = sep then line :: completeLinesFrom sep [] bs else completeLinesFrom sep (line ++ [b]) bs

/-- The terminated lines of a stream, in order. -/
def completeLines (sep : α) (bs : List α) : List (List α) := completeLinesFrom sep [] bs

/-- Bytes without a separator only make the current line longer. -/
theorem completeLinesFrom_of_not_mem {l : List α} (h : sep ∉ l) (line rest : List α) :
    completeLinesFrom sep line (l ++ rest) = completeLinesFrom sep (line ++ l) rest := by
  induction l generalizing line with
  | nil => simp
  | cons b l ih =>
    simp only [List.mem_cons, not_or] at h
    rw [List.cons_append, completeLinesFrom, if_neg (fun hb => h.1 hb.symm), ih h.2]
    simp

theorem completeLines_of_not_mem {l : List α} (h : sep ∉ l) : completeLines sep l = [] := by
  have := completeLinesFrom_of_not_mem h [] []
  rw [List.append_nil] at this
  rw [completeLines, this]
  rfl

theorem completeLinesFrom_snoc (line pre rest : List α) :
    completeLinesFrom sep line (pre ++ sep :: rest) =
      completeLinesFrom sep line (pre ++ [sep]) ++ completeLinesFrom sep [] rest := by
  induction pre generalizing line with
  | nil => simp [completeLinesFrom]
  | cons b pre ih =>
    simp only [List.cons_append, completeLinesFrom]
    split
    · rw [ih]; rfl
    · rw [ih]

/-- A stream may be cut where a line ends. -/
theorem completeLines_append {a : List α} (h : Terminated sep a) (b : List α) :
    completeLines sep (a ++ b) = completeLines sep a ++ completeLines sep b := by
  rcases h with rfl | ⟨pre, rfl⟩
  · rfl
  · simp only [completeLines, List.append_assoc, List.singleton_append]
    exact completeLinesFrom_snoc [] pre b

end Lines

section FirstOccurrences
variable {κ β : Type} [DecidableEq κ]

/-- Append an entry unless its key is there. -/
def insertFirst (l : List (κ × β)) (e : κ × β) : List (κ × β) :=
  if l.any fun o => decide (o.1 = e.1) then l else l ++ [e]

/-- Of every key the first entry, in order. -/
def firstOccurrences (l : List (κ × β)) : List (κ × β) := l.foldl insertFirst []

theorem firstOccurrences_snoc (l : List (κ × β)) (e : κ × β) :
    firstOccurrences (l ++ [e]) = insertFirst (firstOccurrences l) e := by
  simp [firstOccurrences, List.foldl_append]

end FirstOccurrences

end Lib
