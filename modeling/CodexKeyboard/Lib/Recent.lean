import Mathlib.Data.List.Induction
import Mathlib.Data.List.Nodup
import Mathlib.Data.List.Dedup
import Mathlib.Data.List.Perm.Subperm
import Mathlib.Data.List.TakeWhile
/-!
# The last entries of a history

A bounded memory that forgets its oldest entry holds the last `n` entries of the history of what it was told
(`recent`). If it is told only what it does not hold, equal entries of the history are far apart (`Spaced`).

* `recent_concat` — telling the memory one more entry.
* `Spaced.nodup_recent` — the memory holds no entry twice.
* `Spaced.others` — an entry that was told and is forgotten was followed by `n` distinct others.
* `since_concat` — what came after an entry.
-/

namespace Lib

variable {α : Type}

/-- The last `n` entries. -/
def recent (n : Nat) (history : List α) : List α := history.drop (history.length - n)

theorem length_recent_le (n : Nat) (history : List α) : (recent n history).length ≤ n := by
  rw [recent, List.length_drop]
  omega

theorem recent_of_length_le {n : Nat} {history : List α} (h : history.length ≤ n) :
    recent n history = history := by
  rw [recent, Nat.sub_eq_zero_of_le h, List.drop_zero]

theorem recent_append_of_ge {n : Nat} {earlier later : List α} (h : n ≤ later.length) :
    recent n (earlier ++ later) = recent n later := by
  rw [recent, recent, List.length_append, List.drop_append,
    List.drop_of_length_le (by omega), List.nil_append,
    show earlier.length + later.length - n - earlier.length = later.length - n by omega]

/-- The memory forgets what is too much. -/
theorem recent_concat (n : Nat) (history : List α) (x : α) :
    recent n (recent n history ++ [x]) = recent n (history ++ [x]) := by
  by_cases h : history.length ≤ n
  · rw [recent_of_length_le h]
  · have hlen : (recent n history).length = n := by
      rw [recent, List.length_drop]
      omega
    have hsplit : history ++ [x] = history.take (history.length - n) ++ (recent n history ++ [x]) := by
      rw [recent, ← List.append_assoc, List.take_append_drop]
    have hlong : n ≤ (recent n history ++ [x]).length := by
      rw [List.length_append, hlen]
      omega
    rw [hsplit, recent_append_of_ge hlong]

/-- The last entries of a history that ends with at most so many. -/
theorem recent_append_of_le {n : Nat} {earlier later : List α} (h : later.length ≤ n) :
    recent n (earlier ++ later) = recent (n - later.length) earlier ++ later := by
  rw [recent, recent, List.length_append, List.drop_append,
    show earlier.length + later.length - n - earlier.length = 0 by omega, List.drop_zero,
    show earlier.length + later.length - n = earlier.length - (n - later.length) by omega]

theorem mem_recent_append {n : Nat} {earlier later : List α} {x : α} (hlater : later.length ≤ n)
    (h : x ∈ later) :
    x ∈ recent n (earlier ++ later) := by
  rw [recent_append_of_le hlater]
  exact List.mem_append_right _ h

/-- No entry is among the `n` entries before it. -/
def Spaced (n : Nat) (history : List α) : Prop :=
  ∀ earlier x later, history = earlier ++ x :: later → x ∉ recent n earlier

variable {n : Nat} {history : List α} {x : α}

theorem spaced_nil : Spaced n ([] : List α) := by
  intro earlier x later h
  simp at h

theorem Spaced.of_append {later : List α} (h : Spaced n (history ++ later)) : Spaced n history := by
  intro earlier x rest heq
  apply h earlier x (rest ++ later)
  rw [heq, List.append_assoc, List.cons_append]

theorem spaced_concat : Spaced n (history ++ [x]) ↔ Spaced n history ∧ x ∉ recent n history := by
  constructor
  · intro h
    exact ⟨h.of_append, h history x [] rfl⟩
  · rintro ⟨h, hx⟩ earlier y later heq
    rcases List.eq_nil_or_concat later with rfl | ⟨later, z, rfl⟩
    · obtain ⟨rfl, hxy⟩ := List.append_inj' heq rfl
      cases hxy
      exact hx
    · rw [List.concat_eq_append, ← List.cons_append, ← List.append_assoc] at heq
      obtain ⟨rfl, -⟩ := List.append_inj' heq rfl
      exact h earlier y later rfl

theorem Spaced.nodup_recent (h : Spaced n history) : (recent n history).Nodup := by
  induction history using List.reverseRecOn with
  | nil => simp [recent]
  | append_singleton history x ih =>
    obtain ⟨hs, hx⟩ := spaced_concat.1 h
    rw [← recent_concat, recent]
    apply List.Nodup.sublist (List.drop_sublist _ _)
    rw [List.nodup_append]
    refine ⟨ih hs, List.nodup_singleton x, ?_⟩
    intro a ha b hb
    rw [List.mem_singleton.1 hb]
    rintro rfl
    exact hx ha

/-- What is forgotten was followed by `n` distinct others. -/
theorem Spaced.others {earlier later : List α} (h : Spaced n (earlier ++ x :: later))
    (hx : x ∉ recent n (earlier ++ x :: later)) :
    n ≤ later.length ∧ (later.take n).Nodup ∧ x ∉ later.take n := by
  have hlong : n ≤ later.length := by
    by_contra hshort
    exact hx (mem_recent_append (by rw [List.length_cons]; omega) List.mem_cons_self)
  have hsplit : earlier ++ x :: later = (earlier ++ [x]) ++ later.take n ++ later.drop n := by simp
  refine ⟨hlong, ?_, ?_⟩
  · rw [hsplit] at h
    have hnodup := h.of_append.nodup_recent
    have hlen : (later.take n).length = n := by rw [List.length_take, Nat.min_eq_left hlong]
    rw [recent_append_of_le (Nat.le_of_eq hlen)] at hnodup
    exact (List.nodup_append.1 hnodup).2.1
  · intro hmem
    obtain ⟨before, rest, heq⟩ := List.append_of_mem hmem
    have hbefore : before.length < n := by
      have hlen := congrArg List.length heq
      rw [List.length_take, Nat.min_eq_left hlong, List.length_append, List.length_cons] at hlen
      omega
    apply h (earlier ++ x :: before) x (rest ++ later.drop n)
    · rw [hsplit, heq]
      simp
    · exact mem_recent_append (by rw [List.length_cons]; omega) List.mem_cons_self

/-! ## What came after an entry -/

section Since
variable [DecidableEq α]

/-- What came after the last `x`, the newest first. -/
def since (x : α) (history : List α) : List α := history.reverse.takeWhile (· ≠ x)

@[simp] theorem since_nil (x : α) : since x [] = [] := rfl

theorem since_concat (x y : α) (history : List α) :
    since x (history ++ [y]) = if y = x then [] else y :: since x history := by
  rw [since, List.reverse_append, List.reverse_singleton, List.singleton_append, List.takeWhile_cons]
  by_cases h : y = x
  · rw [if_pos h, if_neg (by simp [h])]
  · rw [if_neg h, if_pos (by simp [h])]
    rfl

/-- Entries that all came after `x` are no more than what came after it. -/
theorem length_le_dedup_since {later : List α} (hnodup : later.Nodup)
    (hsince : ∀ y ∈ later, y ∈ since x history) :
    later.length ≤ (since x history).dedup.length := by
  refine List.Subperm.length_le (hnodup.subperm fun y hy => ?_)
  rw [List.mem_dedup]
  exact hsince y hy

end Since

end Lib
