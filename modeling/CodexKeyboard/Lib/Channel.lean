import Mathlib.Data.List.Basic
/-!
# An unreliable socket

`sent` is everything that was handed over, in order: the network may deliver any of it, any number
of times, in any order, or never. `outcomes` says which of the next sends the local socket refuses;
when it runs out, it accepts. `refused` counts the sends that failed.
-/

namespace Lib

/-- A socket with its history. -/
structure Channel (π : Type) where
  sent : List π := []
  outcomes : List Bool := []
  refused : Nat := 0
deriving DecidableEq, Repr

namespace Channel
variable {π : Type}

/-- Hand a packet over; the answer is whether the socket took it. -/
def send (c : Channel π) (p : π) : Bool × Channel π :=
  match c.outcomes with
  | [] => (true, { c with sent := c.sent ++ [p] })
  | true :: outcomes => (true, { c with sent := c.sent ++ [p], outcomes })
  | false :: outcomes => (false, { c with outcomes, refused := c.refused + 1 })

/-- What the socket does from now on. -/
def withOutcomes (c : Channel π) (outcomes : List Bool) : Channel π := { c with outcomes }

@[simp] theorem withOutcomes_sent (c : Channel π) (outcomes : List Bool) :
    (c.withOutcomes outcomes).sent = c.sent := rfl

/-- A send adds its packet or fails. -/
theorem send_cases (c : Channel π) (p : π) :
    ((c.send p).1 = true ∧ (c.send p).2.sent = c.sent ++ [p] ∧ (c.send p).2.refused = c.refused) ∨
      ((c.send p).1 = false ∧ (c.send p).2.sent = c.sent ∧ (c.send p).2.refused = c.refused + 1) := by
  obtain ⟨sent, outcomes, refused⟩ := c
  cases outcomes with
  | nil => exact Or.inl ⟨rfl, rfl, rfl⟩
  | cons b outcomes =>
    cases b with
    | true => exact Or.inl ⟨rfl, rfl, rfl⟩
    | false => exact Or.inr ⟨rfl, rfl, rfl⟩

/-- Nothing but the packet is added. -/
theorem mem_send {c : Channel π} {p q : π} (h : q ∈ (c.send p).2.sent) : q ∈ c.sent ∨ q = p := by
  rcases c.send_cases p with ⟨_, hs, _⟩ | ⟨_, hs, _⟩
  · rw [hs] at h
    simpa using h
  · rw [hs] at h
    exact Or.inl h

/-- The history only grows. -/
theorem mem_send_of_mem {c : Channel π} {q : π} (h : q ∈ c.sent) (p : π) : q ∈ (c.send p).2.sent := by
  rcases c.send_cases p with ⟨_, hs, _⟩ | ⟨_, hs, _⟩
  · rw [hs]
    exact List.mem_append_left _ h
  · rw [hs]
    exact h

end Channel

/-- What occurs at most once has one source. -/
theorem eq_of_count_map_le_one {α β : Type} [DecidableEq β] {f : α → β} {l : List α} {x : β}
    (hcount : (l.map f).count x ≤ 1) {a b : α} (ha : a ∈ l) (hb : b ∈ l) (hfa : f a = x)
    (hfb : f b = x) : a = b := by
  induction l with
  | nil => cases ha
  | cons c l ih =>
    have hrest : ∀ {y : α}, y ∈ l → f y = x → 0 < (l.map f).count x := fun hy hfy =>
      List.count_pos_iff.2 (List.mem_map.2 ⟨_, hy, hfy⟩)
    rw [List.map_cons, List.count_cons] at hcount
    rcases List.mem_cons.1 ha with rfl | ha'
    · rcases List.mem_cons.1 hb with rfl | hb'
      · rfl
      · have hpos := hrest hb' hfb
        simp only [hfa, beq_self_eq_true, if_true] at hcount
        omega
    · rcases List.mem_cons.1 hb with rfl | hb'
      · have hpos := hrest ha' hfa
        simp only [hfb, beq_self_eq_true, if_true] at hcount
        omega
      · exact ih (by omega) ha' hb'

end Lib
