import CodexKeyboard.Lib.Run
/-!
# Concurrent calls of atomic operations

Any number of calls work on one memory. A call is a sequence of atomic operations: it stands at a
frame, the next operation reads and writes the memory and either moves the call to another frame or
returns. A run starts calls and lets them do their operations in any order; the calls are numbered
in the order in which they started.

* `step_cases` — what one step does.
* `log` — the operations of a run; `Since p q` says of a log that an entry is a `p` and no later one
  is a `q`.
-/

namespace Lib.Interleaving

inductive Progress (φ ρ : Type)
  | running (frame : φ)
  | returned (result : ρ)
deriving DecidableEq, Repr

def Progress.isReturned {φ ρ : Type} : Progress φ ρ → Bool
  | .running _ => false
  | .returned _ => true

/-- The first frame of a call, or its result if it does no operation, and the operation of a frame.
`χ` is what an operation may choose. -/
structure Code (σ κ φ ρ χ : Type) where
  first : κ → Progress φ ρ
  operate : σ → κ → φ → χ → σ × Progress φ ρ

structure System (σ κ φ ρ : Type) where
  memory : σ
  calls : List (κ × Progress φ ρ) := []
deriving DecidableEq, Repr

inductive Event (κ χ : Type)
  | call (call : κ)
  | operate (id : Nat) (choice : χ)
deriving DecidableEq, Repr

/-- An operation: whose it was, at which frame, and what came of it. -/
structure Done (κ φ ρ : Type) where
  id : Nat
  call : κ
  frame : φ
  next : Progress φ ρ
deriving DecidableEq, Repr

variable {σ κ φ ρ χ : Type}

def step (code : Code σ κ φ ρ χ) (s : System σ κ φ ρ) : Event κ χ → Option (Done κ φ ρ) × System σ κ φ ρ
  | .call call => (none, { s with calls := s.calls ++ [(call, code.first call)] })
  | .operate id choice =>
    match s.calls[id]? with
    | some (call, .running frame) =>
      (some ⟨id, call, frame, (code.operate s.memory call frame choice).2⟩,
        ⟨(code.operate s.memory call frame choice).1,
          s.calls.set id (call, (code.operate s.memory call frame choice).2)⟩)
    | _ => (none, s)

/-- What a step can do. -/
inductive Step (code : Code σ κ φ ρ χ) (s : System σ κ φ ρ) :
    Event κ χ → Option (Done κ φ ρ) × System σ κ φ ρ → Prop
  | idle (id : Nat) (choice : χ) : Step code s (.operate id choice) (none, s)
  | called (call : κ) :
    Step code s (.call call) (none, { s with calls := s.calls ++ [(call, code.first call)] })
  | done {id : Nat} {call : κ} {frame : φ} (choice : χ)
    (hcall : s.calls[id]? = some (call, .running frame)) :
    Step code s (.operate id choice) (some ⟨id, call, frame, (code.operate s.memory call frame choice).2⟩,
      ⟨(code.operate s.memory call frame choice).1,
        s.calls.set id (call, (code.operate s.memory call frame choice).2)⟩)

theorem step_cases (code : Code σ κ φ ρ χ) (s : System σ κ φ ρ) (event : Event κ χ) :
    Step code s event (step code s event) := by
  cases event with
  | call call => exact .called call
  | operate id choice =>
    rw [step]
    split
    · rename_i call frame hcall
      exact .done choice hcall
    · exact .idle id choice

/-- The calls after one of them has done an operation. -/
theorem getElem?_done {calls : List (κ × Progress φ ρ)} {id : Nat} {old : κ × Progress φ ρ}
    (hcall : calls[id]? = some old)
    (new : κ × Progress φ ρ) (other : Nat) :
    (calls.set id new)[other]? = if other = id then some new else calls[other]? := by
  by_cases hother : other = id
  · subst hother
    rw [if_pos rfl, List.getElem?_set_self (List.getElem?_eq_some_iff.mp hcall).1]
  · rw [if_neg hother, List.getElem?_set_ne (Ne.symm hother)]

/-- The calls after one more has started. -/
theorem getElem?_called {calls : List (κ × Progress φ ρ)} {new found : κ × Progress φ ρ} {id : Nat}
    (h : (calls ++ [new])[id]? = some found) :
    calls[id]? = some found ∨ id = calls.length ∧ found = new := by
  rcases Nat.lt_trichotomy id calls.length with hlt | rfl | hgt
  · rw [List.getElem?_append_left hlt] at h
    exact .inl h
  · rw [List.getElem?_concat_length] at h
    exact .inr ⟨rfl, (Option.some.inj h).symm⟩
  · rw [List.getElem?_eq_none (by rw [List.length_append, List.length_singleton]; omega)] at h
    cases h

/-- The call that did the operation is elsewhere, and the others are where they were. -/
theorem getElem?_done_cases {calls : List (κ × Progress φ ρ)} {id other : Nat}
    {old new found : κ × Progress φ ρ}
    (hcall : calls[id]? = some old) (h : (calls.set id new)[other]? = some found) :
    other = id ∧ found = new ∨ other ≠ id ∧ calls[other]? = some found := by
  rw [getElem?_done hcall] at h
  by_cases hother : other = id
  · rw [if_pos hother] at h
    exact .inl ⟨hother, (Option.some.inj h).symm⟩
  · rw [if_neg hother] at h
    exact .inr ⟨hother, h⟩

/-- The operations of a run. -/
def log (shown : List (Event κ χ × Option (Done κ φ ρ))) : List (Done κ φ ρ) := shown.filterMap Prod.snd

theorem log_concat (shown : List (Event κ χ × Option (Done κ φ ρ))) (event : Event κ χ)
    (done : Option (Done κ φ ρ)) :
    log (shown ++ [(event, done)]) = log shown ++ done.toList := by
  rw [log, List.filterMap_append]
  cases done <;> rfl

/-- An entry is a `p`, and no later one is a `q`. -/
def Since {δ : Type} (p q : δ → Prop) : List δ → Prop
  | [] => False
  | entry :: rest => (p entry ∧ ∀ later ∈ rest, ¬ q later) ∨ Since p q rest

instance decidableSince {δ : Type} (p q : δ → Prop) [DecidablePred p] [DecidablePred q] :
    ∀ entries : List δ,
    Decidable (Since p q entries)
  | [] => isFalse id
  | _ :: rest => @instDecidableOr _ _ _ (decidableSince p q rest)

theorem since_concat {δ : Type} {p q : δ → Prop} {entries : List δ} {last : δ} :
    Since p q (entries ++ [last]) ↔ p last ∨ Since p q entries ∧ ¬ q last := by
  induction entries with
  | nil => simp [Since]
  | cons entry rest ih =>
    rw [List.cons_append, Since, Since, ih, List.forall_mem_append, List.forall_mem_singleton]
    tauto

theorem Since.exists {δ : Type} {p q : δ → Prop} {entries : List δ} (h : Since p q entries) :
    ∃ entry ∈ entries, p entry := by
  induction entries with
  | nil => exact h.elim
  | cons entry rest ih =>
    rcases h with ⟨hp, -⟩ | hrest
    · exact ⟨entry, List.mem_cons_self, hp⟩
    · obtain ⟨other, hother, hp⟩ := ih hrest
      exact ⟨other, List.mem_cons_of_mem _ hother, hp⟩

end Lib.Interleaving
