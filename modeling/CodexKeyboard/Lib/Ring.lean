import Mathlib.Data.List.OfFn
import Mathlib.Logic.Function.Basic
/-!
# A ring buffer is a queue

`n` slots, the index of the oldest one and how many are taken. `toList` reads the taken slots,
oldest first: a push appends to it (`toList_push`), a pop drops its first entry (`toList_pop`),
whatever the slots beyond held.
-/

namespace Lib

/-- A ring of `n` slots. -/
structure Ring (α : Type) (n : Nat) where
  slots : Fin n → α
  head : Nat
  size : Nat
  head_lt : head < n
  size_le : size ≤ n

namespace Ring

variable {α : Type} {n : Nat}

def empty (blank : α) (h : 0 < n) : Ring α n := ⟨fun _ => blank, 0, 0, h, Nat.zero_le n⟩

/-- The slot of the entry `i`, counted from the oldest. -/
def slot (ring : Ring α n) (i : Nat) : Fin n :=
  ⟨(ring.head + i) % n, Nat.mod_lt _ (Nat.lt_of_le_of_lt (Nat.zero_le _) ring.head_lt)⟩

/-- The entries, oldest first. -/
def toList (ring : Ring α n) : List α := List.ofFn fun i : Fin ring.size => ring.slots (ring.slot i)

/-- The oldest entry. -/
def front? (ring : Ring α n) : Option α := if ring.size = 0 then none else some (ring.slots (ring.slot 0))

/-- The latest entry. -/
def back? (ring : Ring α n) : Option α :=
  if ring.size = 0 then none else some (ring.slots (ring.slot (ring.size - 1)))

/-- Takes the slot after the latest entry; a full ring stays as it is. -/
def push (ring : Ring α n) (entry : α) : Ring α n :=
  if h : ring.size < n then
    { ring with slots := Function.update ring.slots (ring.slot
      ring.size) entry, size := ring.size + 1, size_le := h }
  else ring

/-- Blanks the slot of the oldest entry and gives it up. -/
def pop (ring : Ring α n) (blank : α) : Ring α n :=
  { slots := Function.update ring.slots (ring.slot 0) blank
    head := (ring.head + 1) % n
    size := ring.size - 1
    head_lt := Nat.mod_lt _ (Nat.lt_of_le_of_lt (Nat.zero_le _) ring.head_lt)
    size_le := Nat.le_trans (Nat.sub_le _ _) ring.size_le }

/-- Writes over the entry `i`, counted from the oldest. -/
def replace (ring : Ring α n) (i : Nat) (entry : α) : Ring α n :=
  { ring with slots := Function.update ring.slots (ring.slot i) entry }

/-! ## Where an entry is -/

theorem slot_eq_iff {ring : Ring α n} {i j : Nat} (hi : i < n) (hj : j < n) :
    ring.slot i = ring.slot j ↔ i = j := by
  have hhead := ring.head_lt
  have hslot : ∀ k < n, (ring.head + k) % n = if ring.head + k < n then ring.head + k else
    ring.head + k - n := by
    intro k hk
    split
    · rename_i hlt
      exact Nat.mod_eq_of_lt hlt
    · rename_i hge
      rw [Nat.mod_eq_sub_mod (by omega), Nat.mod_eq_of_lt (by omega)]
  simp only [slot, Fin.mk.injEq, hslot i hi, hslot j hj]
  constructor
  · intro heq
    split at heq <;> split at heq <;> omega
  · rintro rfl
    rfl

theorem slot_pop (ring : Ring α n) (blank : α) (i : Nat) : (ring.pop blank).slot i = ring.slot (i + 1) := by
  simp only [slot, pop, Fin.mk.injEq, Nat.mod_add_mod]
  congr 1
  omega

/-! ## What the ring holds -/

@[simp] theorem length_toList (ring : Ring α n) : ring.toList.length = ring.size := by simp [toList]

theorem getElem?_toList (ring : Ring α n) (i : Nat) :
    ring.toList[i]? = if i < ring.size then some (ring.slots (ring.slot i)) else none := by
  simp [toList, List.getElem?_ofFn]

@[simp] theorem toList_empty (blank : α) (h : 0 < n) : (empty blank h).toList = [] := rfl

@[simp] theorem size_empty (blank : α) (h : 0 < n) : (empty blank h).size = 0 := rfl

@[simp] theorem size_pop (ring : Ring α n) (blank : α) : (ring.pop blank).size = ring.size - 1 := rfl

theorem size_push {ring : Ring α n} (h : ring.size < n) (entry : α) :
    (ring.push entry).size = ring.size + 1 := by
  simp [push, h]

theorem toList_push {ring : Ring α n} (h : ring.size < n) (entry : α) :
    (ring.push entry).toList = ring.toList ++ [entry] := by
  have hslot : ∀ i, (ring.push entry).slot i = ring.slot i := by
    intro i
    simp [push, h, slot]
  have hslots : (ring.push entry).slots = Function.update ring.slots (ring.slot ring.size) entry := by
    simp [push, h]
  ext1 i
  rw [getElem?_toList, size_push h, hslot, hslots]
  rcases Nat.lt_trichotomy i ring.size with hi | rfl | hi
  · have hne : ring.slot i ≠ ring.slot ring.size := by
      rw [ne_eq, slot_eq_iff (by omega) h]
      omega
    rw [if_pos (by omega), Function.update_of_ne hne,
      List.getElem?_append_left (by simpa using hi), getElem?_toList,
      if_pos hi]
  · rw [if_pos (by omega), Function.update_self, List.getElem?_append_right (by simp)]
    simp
  · rw [if_neg (by omega), List.getElem?_eq_none]
    simp
    omega

theorem toList_pop (ring : Ring α n) (blank : α) : (ring.pop blank).toList = ring.toList.drop 1 := by
  have hsize := ring.size_le
  ext1 i
  rw [List.getElem?_drop, getElem?_toList, getElem?_toList, slot_pop, size_pop, Nat.add_comm 1 i]
  by_cases hi : i < ring.size - 1
  · have hne : ring.slot (i + 1) ≠ ring.slot 0 := by
      rw [ne_eq, slot_eq_iff (by omega) (by omega)]
      omega
    rw [if_pos hi, if_pos (by omega)]
    exact congrArg some (Function.update_of_ne hne _ _)
  · rw [if_neg hi, if_neg (by omega)]

@[simp] theorem size_replace (ring : Ring α n) (i : Nat) (entry : α) :
    (ring.replace i entry).size = ring.size := rfl

theorem toList_replace {ring : Ring α n} {i : Nat} (h : i < ring.size) (entry : α) :
    (ring.replace i entry).toList = ring.toList.set i entry := by
  have hsize := ring.size_le
  ext1 j
  rw [List.getElem?_set, getElem?_toList, getElem?_toList, length_toList, size_replace]
  by_cases hj : j < ring.size
  · rw [if_pos hj]
    change some (Function.update ring.slots (ring.slot i) entry (ring.slot j)) = _
    by_cases hij : i = j
    · rw [if_pos hij, if_pos h, hij, Function.update_self]
    · have hne : ring.slot j ≠ ring.slot i := by
        rw [ne_eq, slot_eq_iff (by omega) (by omega)]
        omega
      rw [if_neg hij, Function.update_of_ne hne]
      simp [hj]
  · rw [if_neg hj]
    by_cases hij : i = j
    · omega
    · rw [if_neg hij]
      simp [hj]

theorem front?_eq (ring : Ring α n) : ring.front? = ring.toList.head? := by
  rw [front?, List.head?_eq_getElem?, getElem?_toList]
  by_cases h : ring.size = 0
  · rw [if_pos h, if_neg (by omega)]
  · rw [if_neg h, if_pos (by omega)]

theorem back?_eq (ring : Ring α n) : ring.back? = ring.toList.getLast? := by
  rw [back?, List.getLast?_eq_getElem?, getElem?_toList, length_toList]
  by_cases h : ring.size = 0
  · rw [if_pos h, if_neg (by omega)]
  · rw [if_neg h, if_pos (by omega)]

end Ring

end Lib
