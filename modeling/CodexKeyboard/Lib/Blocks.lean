import Mathlib.Data.List.Basic
/-!
# Buffers of equal blocks with gaps

A received stream of numbered blocks is a `List (Option β)`: what came for number `i`, or nothing.
`GapsWithin k` says that more than `k` numbers in a row are never without a block; a buffer written
from such a list holds block `i` at `width * i` (`take_drop_flatMap`).
-/

namespace Lib

section Gaps
variable {β : Type} {k m : Nat} {l : List (Option β)}

/-- Among any `k + 1` entries in a row one is there. -/
def GapsWithin (k : Nat) (l : List (Option β)) : Prop :=
  ∀ i, i + k < l.length → ∃ j b, i ≤ j ∧ j ≤ i + k ∧ l[j]? = some (some b)

/-- The last entry, if there is one, is no gap. -/
def EndsFilled (l : List (Option β)) : Prop := ∀ i, i + 1 = l.length → ∃ b, l[i]? = some (some b)

theorem gapsWithin_nil : GapsWithin k ([] : List (Option β)) := fun i h => by simp at h

theorem endsFilled_nil : EndsFilled ([] : List (Option β)) := fun i h => by simp at h

theorem endsFilled_snoc (b : β) : EndsFilled (l ++ [some b]) := by
  intro i hi
  have : i = l.length := by simpa using hi
  exact ⟨b, by simp [this]⟩

/-- A gap of at most `k` after a block. -/
theorem gapsWithin_append_gap (h : GapsWithin k l) (he : EndsFilled l) (hm : m ≤ k) :
    GapsWithin k (l ++ List.replicate m none) := by
  intro i hi
  rw [List.length_append, List.length_replicate] at hi
  by_cases hin : i + k < l.length
  · obtain ⟨j, b, hij, hjk, hb⟩ := h i hin
    refine ⟨j, b, hij, hjk, ?_⟩
    rw [List.getElem?_append_left (by omega)]
    exact hb
  · -- the window reaches into the gap, so it covers the last entry before it
    obtain ⟨b, hb⟩ := he (l.length - 1) (by omega)
    refine ⟨l.length - 1, b, by omega, by omega, ?_⟩
    rw [List.getElem?_append_left (by omega)]
    exact hb

theorem gapsWithin_snoc (h : GapsWithin k l) (b : β) : GapsWithin k (l ++ [some b]) := by
  intro i hi
  rw [List.length_append, List.length_singleton] at hi
  by_cases hin : i + k < l.length
  · obtain ⟨j, c, hij, hjk, hc⟩ := h i hin
    refine ⟨j, c, hij, hjk, ?_⟩
    rw [List.getElem?_append_left (by omega)]
    exact hc
  · refine ⟨l.length, b, by omega, by omega, ?_⟩
    simp

end Gaps

section Blocks
variable {α β : Type} {f : β → List α} {width : Nat}

theorem length_flatMap_blocks {l : List β} (h : ∀ b ∈ l, (f b).length = width) :
    (l.flatMap f).length = width * l.length := by
  induction l with
  | nil => simp
  | cons b l ih =>
    have hb := h b List.mem_cons_self
    have ih := ih fun b hb => h b (List.mem_cons_of_mem _ hb)
    rw [List.flatMap_cons, List.length_append, hb, ih, List.length_cons, Nat.mul_succ, Nat.add_comm]

/-- Block `i` of the buffer. -/
theorem take_drop_flatMap {l : List β} (h : ∀ b ∈ l, (f b).length = width) {i : Nat} {b : β}
    (hi : l[i]? = some b) :
    ((l.flatMap f).drop (width * i)).take width = f b := by
  induction l generalizing i with
  | nil => simp at hi
  | cons c l ih =>
    have hc := h c List.mem_cons_self
    cases i with
    | zero =>
      have hcb : c = b := by simpa using hi
      subst hcb
      rw [List.flatMap_cons, Nat.mul_zero, List.drop_zero, ← hc, List.take_left]
    | succ i =>
      rw [List.getElem?_cons_succ] at hi
      rw [List.flatMap_cons, Nat.mul_succ, Nat.add_comm, ← List.drop_drop, ← hc, List.drop_left, hc]
      exact ih (fun b hb => h b (List.mem_cons_of_mem _ hb)) hi

end Blocks

end Lib
