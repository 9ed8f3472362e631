import Mathlib.Data.List.Basic
/-!
# Reassembly of an object from fragments

An object of known length arrives in fragments, in any order, overlapping and repeated. `Cells`
holds what has arrived. A fragment that contradicts an earlier one is refused as a whole. If every
fragment comes from one object, nothing is ever refused (`Agrees.accept`) and a complete reassembly
is that object (`contents_eq`). What is held depends on the set of accepted fragments alone, not on
their order (`Holds.unique`).
-/

namespace Lib.Reassembly

variable {α : Type} [DecidableEq α]

/-- One cell for each position, filled once its element has arrived. -/
abbrev Cells (α : Type) := List (Option α)

def empty (n : Nat) : Cells α := List.replicate n none

/-- Some position already holds another element. -/
def conflicts (cells : Cells α) (offset : Nat) (data : List α) : Bool :=
  (data.zipIdx offset).any fun (a, i) => match cells.getD i none with
    | some b => b != a
    | none => false

/-- Fills the positions that are still empty. -/
def fill : Cells α → Nat → List α → Cells α
  | cells, _, [] => cells
  | cells, offset, a :: data =>
    fill (if (cells.getD offset none).isNone then cells.set offset (some a) else cells) (offset + 1) data

def accept (cells : Cells α) (offset : Nat) (data : List α) : Option (Cells α) :=
  if conflicts cells offset data then none else some (fill cells offset data)

def received (cells : Cells α) : Nat := cells.countP Option.isSome

/-- The first position that has not arrived, or the length. -/
def firstMissing (cells : Cells α) : Nat := cells.findIdx Option.isNone

/-- What has arrived, with `a` where nothing has. -/
def contents (cells : Cells α) (a : α) : List α := cells.map (·.getD a)

/-- Every element that has arrived is the object's. -/
def Agrees (cells : Cells α) (object : List α) : Prop :=
  ∀ (i : Nat) (a : α), cells[i]? = some (some a) → object[i]? = some a

/-- A position that has arrived. -/
def Arrived (cells : Cells α) (i : Nat) : Prop := ∃ a, cells[i]? = some (some a)

/-- Nothing that has arrived is lost. -/
def Extends (cells cells' : Cells α) : Prop :=
  ∀ (i : Nat) (a : α), cells[i]? = some (some a) → cells'[i]? = some (some a)

omit [DecidableEq α] in
@[simp] theorem length_empty (n : Nat) : (empty n : Cells α).length = n := List.length_replicate

omit [DecidableEq α] in
@[simp] theorem length_fill (cells : Cells α) (offset : Nat) (data : List α) :
    (fill cells offset data).length = cells.length := by
  induction data generalizing cells offset with
  | nil => rfl
  | cons a data ih =>
    rw [fill, ih]
    split
    · rw [List.length_set]
    · rfl

theorem length_accept {cells cells' : Cells α} {offset : Nat} {data : List α}
    (h : accept cells offset data = some cells') :
    cells'.length = cells.length := by
  rw [accept] at h
  split at h
  · cases h
  · cases h
    exact length_fill ..

omit [DecidableEq α] in
@[simp] theorem length_contents (cells : Cells α) (a : α) :
    (contents cells a).length = cells.length := List.length_map ..

omit [DecidableEq α] in
/-- A position keeps its element, and an empty one takes the fragment's. -/
theorem getElem?_fill (cells : Cells α) (offset : Nat) (data : List α) (i : Nat) :
    (fill cells offset data)[i]? =
      if offset ≤ i ∧ i < offset + data.length then cells[i]?.map (·.or data[i - offset]?) else
        cells[i]? := by
  induction data generalizing cells offset with
  | nil =>
    rw [fill, if_neg (by simp)]
  | cons a data ih =>
    rw [fill, ih, List.length_cons]
    have hset : (if (cells.getD offset none).isNone then cells.set offset (some a) else cells)[i]? =
        if i = offset then cells[i]?.map (·.or (some a)) else cells[i]? := by
      by_cases hi : i = offset
      · subst hi
        rw [if_pos rfl, List.getD_eq_getElem?_getD]
        cases hcell : cells[i]? with
        | none => simpa using List.getElem?_eq_none_iff.mp hcell
        | some cell =>
          have hlt : i < cells.length := (List.getElem?_eq_some_iff.mp hcell).1
          cases cell with
          | none => simp [hlt]
          | some b => simp [hcell]
      · rw [if_neg hi]
        split
        · rw [List.getElem?_set_ne (Ne.symm hi)]
        · rfl
    rw [hset]
    by_cases hi : i = offset
    · subst hi
      rw [if_neg (by omega), if_pos rfl, if_pos (by omega), Nat.sub_self, List.getElem?_cons_zero]
    · by_cases hin : offset + 1 ≤ i ∧ i < offset + 1 + data.length
      · rw [if_pos hin, if_neg hi, if_pos (by omega), show i - offset = i - (offset + 1) + 1 by
          omega, List.getElem?_cons_succ]
      · rw [if_neg hin, if_neg hi, if_neg (by omega)]

theorem conflicts_iff {cells : Cells α} {offset : Nat} {data : List α} :
    conflicts cells offset data = true ↔
      ∃ (i : Nat) (a b : α), data[i]? = some a ∧ cells[offset + i]? = some (some b) ∧ b ≠ a := by
  rw [conflicts, List.any_eq_true]
  constructor
  · rintro ⟨⟨a, j⟩, hmem, hcell⟩
    obtain ⟨i, hi⟩ := List.mem_iff_getElem?.mp hmem
    rw [List.getElem?_zipIdx, Option.map_eq_some_iff] at hi
    obtain ⟨a', hdata, heq⟩ := hi
    obtain ⟨rfl, rfl⟩ := Prod.mk.inj heq
    simp only [List.getD_eq_getElem?_getD] at hcell
    cases hc : cells[offset + i]? with
    | none => simp [hc] at hcell
    | some cell =>
      cases cell with
      | none => simp [hc] at hcell
      | some b => exact ⟨i, a', b, hdata, hc, by simpa [hc] using hcell⟩
  · rintro ⟨i, a, b, hdata, hcell, hne⟩
    refine ⟨(a, offset + i), ?_, ?_⟩
    · rw [List.mem_iff_getElem?]
      exact ⟨i, by rw [List.getElem?_zipIdx, hdata]; rfl⟩
    · simpa [List.getD_eq_getElem?_getD, hcell] using hne

omit [DecidableEq α] in
theorem agrees_empty (n : Nat) (object : List α) : Agrees (empty n) object := by
  intro i a h
  rw [empty, List.getElem?_replicate] at h
  split at h <;> cases h

/-- A fragment of the object is never refused, and what has arrived still agrees with it. -/
theorem Agrees.accept {cells : Cells α} {object data : List α} {offset : Nat} (h : Agrees cells object)
    (hdata : ∀ (i : Nat) (a : α), data[i]? = some a → object[offset + i]? = some a) :
    ∃ cells', accept cells offset data = some cells' ∧ Agrees cells' object := by
  refine ⟨fill cells offset data, if_neg ?_, ?_⟩
  · rw [conflicts_iff]
    rintro ⟨i, a, b, hat, hcell, hne⟩
    exact hne (Option.some.inj ((h _ _ hcell).symm.trans (hdata i a hat)))
  · intro i a hcell
    rw [getElem?_fill] at hcell
    split at hcell
    · rename_i hin
      obtain ⟨cell, hold, hor⟩ := Option.map_eq_some_iff.mp hcell
      cases cell with
      | some b =>
        cases hor
        exact h i _ hold
      | none =>
        have := hdata (i - offset) a hor
        rwa [Nat.add_sub_cancel' hin.1] at this
    · exact h i a hcell

/-- Accepting loses nothing, and the fragment has arrived. -/
theorem accept_extends {cells cells' : Cells α} {offset : Nat} {data : List α}
    (h : accept cells offset data = some cells') :
    Extends cells cells' := by
  rw [accept] at h
  split at h
  · cases h
  · cases h
    intro i a hcell
    rw [getElem?_fill, hcell]
    split <;> rfl

theorem accept_arrived {cells cells' : Cells α} {offset : Nat} {data : List α}
    (h : accept cells offset data = some cells')
    {i : Nat} (hlo : offset ≤ i) (hhi : i < offset + data.length) (hlen : i < cells.length) :
    ∃ a, cells'[i]? = some (some a) := by
  rw [accept] at h
  split at h
  · cases h
  · cases h
    have hdata : data[i - offset]? = some (data.get ⟨i - offset, by omega⟩) := List.getElem?_eq_getElem _
    rw [getElem?_fill, if_pos ⟨hlo, hhi⟩, List.getElem?_eq_getElem hlen, hdata]
    cases cells[i] with
    | none => exact ⟨_, rfl⟩
    | some b => exact ⟨b, rfl⟩

omit [DecidableEq α] in
theorem not_arrived_empty (n i : Nat) : ¬ Arrived (empty n : Cells α) i := by
  rintro ⟨a, h⟩
  rw [empty, List.getElem?_replicate] at h
  split at h <;> cases h

omit [DecidableEq α] in
theorem Arrived.lt {cells : Cells α} {i : Nat} (h : Arrived cells i) : i < cells.length := by
  obtain ⟨a, ha⟩ := h
  exact (List.getElem?_eq_some_iff.mp ha).1

/-- After a fragment, what had arrived and the fragment have. -/
theorem arrived_accept {cells cells' : Cells α} {offset : Nat} {data : List α}
    (h : accept cells offset data = some cells')
    (hfits : offset + data.length ≤ cells.length) (i : Nat) :
    Arrived cells' i ↔ Arrived cells i ∨ offset ≤ i ∧ i < offset + data.length := by
  constructor
  · rintro ⟨a, ha⟩
    rw [accept] at h
    split at h
    · cases h
    · cases h
      rw [getElem?_fill] at ha
      split at ha
      · rename_i hin
        exact .inr hin
      · exact .inl ⟨a, ha⟩
  · rintro (⟨a, ha⟩ | ⟨hlo, hhi⟩)
    · exact ⟨a, accept_extends h i a ha⟩
    · exact accept_arrived h hlo hhi (by omega)

omit [DecidableEq α] in
omit [DecidableEq α] in
theorem received_eq_length {cells : Cells α} :
    received cells = cells.length ↔ ∀ i < cells.length, Arrived cells i := by
  rw [received, List.countP_eq_length]
  constructor
  · intro h i hi
    obtain ⟨a, ha⟩ := Option.isSome_iff_exists.mp (h _ (List.getElem_mem hi))
    exact ⟨a, by rw [List.getElem?_eq_getElem hi, ha]⟩
  · intro h cell hcell
    obtain ⟨i, hi, rfl⟩ := List.mem_iff_getElem.mp hcell
    obtain ⟨a, ha⟩ := h i hi
    rw [List.getElem?_eq_getElem hi] at ha
    rw [Option.some.inj ha]
    rfl

omit [DecidableEq α] in
/-- A complete reassembly of an object is the object. -/
theorem contents_eq {cells : Cells α} {object : List α} {a : α} (h : Agrees cells object)
    (hlen : object.length = cells.length) (hall : received cells = cells.length) :
    contents cells a = object := by
  apply List.ext_getElem?
  intro i
  by_cases hi : i < cells.length
  · obtain ⟨b, hb⟩ := received_eq_length.mp hall i hi
    rw [h i b hb, contents, List.getElem?_map, hb]
    rfl
  · rw [List.getElem?_eq_none (by rw [length_contents]; omega), List.getElem?_eq_none (by omega)]

/-! ## An object shorter than the cells -/

omit [DecidableEq α] in
theorem arrived_take {cells : Cells α} {n i : Nat} :
    Arrived (cells.take n) i ↔ i < n ∧ Arrived cells i := by
  simp only [Arrived, List.getElem?_take]
  split
  · rename_i hi
    simp [hi]
  · rename_i hi
    simp [hi]

omit [DecidableEq α] in
theorem received_take {cells : Cells α} {n : Nat} (hbound : ∀ i, Arrived cells i → i < n) :
    received cells = received (cells.take n) := by
  have hdrop : received (cells.drop n) = 0 := by
    rw [received, List.countP_eq_zero]
    intro cell hcell
    obtain ⟨i, hi⟩ := List.mem_iff_getElem?.mp hcell
    rw [List.getElem?_drop] at hi
    cases cell with
    | none => simp
    | some a =>
      have := hbound (n + i) ⟨a, hi⟩
      omega
  conv_lhs => rw [← List.take_append_drop n cells]
  rw [received, List.countP_append, ← received, ← received, hdrop, Nat.add_zero]

omit [DecidableEq α] in
/-- All of an object of `n` elements has arrived. -/
theorem received_eq {cells : Cells α} {n : Nat} (hn : n ≤ cells.length)
    (hbound : ∀ i, Arrived cells i → i < n) :
    received cells = n ↔ ∀ i < n, Arrived cells i := by
  have hlen : (cells.take n).length = n := List.length_take_of_le hn
  have hall := @received_eq_length _ (cells.take n)
  rw [hlen] at hall
  rw [received_take hbound, hall]
  constructor
  · intro h i hi
    exact (arrived_take.mp (h i hi)).2
  · intro h i hi
    exact arrived_take.mpr ⟨hi, h i hi⟩

omit [DecidableEq α] in
/-- A complete reassembly of an object is the object. -/
theorem contents_take_eq {cells : Cells α} {object : List α} {a : α} (h : Agrees cells object)
    (hn : object.length ≤ cells.length) (hall : ∀ i < object.length, Arrived cells i) :
    (contents cells a).take object.length = object := by
  have hlen : (cells.take object.length).length = object.length := List.length_take_of_le hn
  have hagrees : Agrees (cells.take object.length) object := by
    intro i b hb
    rw [List.getElem?_take] at hb
    split at hb
    · exact h i b hb
    · cases hb
  rw [contents, ← List.map_take]
  refine contents_eq hagrees hlen.symm (received_eq_length.mpr fun i hi => ?_)
  rw [hlen] at hi
  exact arrived_take.mpr ⟨hi, hall i hi⟩

/-! ## The accepted fragments -/

/-- A position that some fragment, an offset and its data, covers. -/
def Covered (fragments : List (Nat × List α)) (i : Nat) : Prop :=
  ∃ fragment ∈ fragments, fragment.1 ≤ i ∧ i < fragment.1 + fragment.2.length

instance (fragments : List (Nat × List α)) (i : Nat) : Decidable (Covered fragments i) :=
  inferInstanceAs (Decidable (∃ fragment ∈ fragments, _))

/-- What has arrived is what these fragments carry. -/
structure Holds (cells : Cells α) (fragments : List (Nat × List α)) : Prop where
  arrived : ∀ i, Arrived cells i ↔ Covered fragments i
  element : ∀ fragment ∈ fragments, ∀ (i : Nat) (a : α), fragment.2[i]? = some a →
    cells[fragment.1 + i]? = some (some a)

omit [DecidableEq α] in
theorem covered_concat {fragments : List (Nat × List α)} {offset : Nat} {data : List α} {i : Nat} :
    Covered (fragments ++ [(offset, data)]) i ↔ Covered fragments i ∨ offset ≤ i ∧
    i < offset + data.length := by
  simp only [Covered, List.mem_append, List.mem_singleton]
  constructor
  · rintro ⟨fragment, hmem | rfl, hin⟩
    · exact .inl ⟨fragment, hmem, hin⟩
    · exact .inr hin
  · rintro (⟨fragment, hmem, hin⟩ | hin)
    · exact ⟨fragment, .inl hmem, hin⟩
    · exact ⟨_, .inr rfl, hin⟩

omit [DecidableEq α] in
theorem holds_empty (n : Nat) : Holds (empty n : Cells α) [] := by
  refine ⟨fun i => iff_of_false (not_arrived_empty n i) ?_,
    fun fragment hmem => absurd hmem (List.not_mem_nil)⟩
  rintro ⟨fragment, hmem, -⟩
  exact List.not_mem_nil hmem

/-- The elements of an accepted fragment are held. -/
theorem accept_element {cells cells' : Cells α} {offset : Nat} {data : List α}
    (h : accept cells offset data = some cells')
    (hfits : offset + data.length ≤ cells.length) {i : Nat} {a : α} (hdata : data[i]? = some a) :
    cells'[offset + i]? = some (some a) := by
  have hlt : i < data.length := (List.getElem?_eq_some_iff.mp hdata).1
  have hcell : cells[offset + i]? = some (cells.get ⟨offset + i, by omega⟩) := List.getElem?_eq_getElem _
  rw [accept] at h
  split at h
  · cases h
  · rename_i hagrees
    cases h
    rw [getElem?_fill, if_pos (by omega), hcell, Nat.add_sub_cancel_left, hdata]
    cases hold : cells.get ⟨offset + i, by omega⟩ with
    | none => rfl
    | some b =>
      have hsame : b = a := by
        by_contra hne
        exact hagrees (conflicts_iff.mpr ⟨i, a, b, hdata, hold ▸ hcell, hne⟩)
      rw [hsame]
      rfl

theorem Holds.accept {cells cells' : Cells α} {fragments : List (Nat × List α)} {offset : Nat}
    {data : List α}
    (hholds : Holds cells fragments) (h : accept cells offset data = some cells')
    (hfits : offset + data.length ≤ cells.length) : Holds cells' (fragments ++ [(offset, data)]) := by
  refine ⟨fun i => ?_, fun fragment hmem i a hat => ?_⟩
  · rw [arrived_accept h hfits, hholds.arrived, covered_concat]
  · rcases List.mem_append.mp hmem with hmem | hmem
    · exact accept_extends h _ a (hholds.element fragment hmem i a hat)
    · obtain rfl := List.mem_singleton.mp hmem
      exact accept_element h hfits hat

omit [DecidableEq α] in
/-- Reassemblies of one length that accepted the same set of fragments are equal. -/
theorem Holds.unique {cells cells' : Cells α} {fragments fragments' : List (Nat × List α)}
    (h : Holds cells fragments)
    (h' : Holds cells' fragments') (hlen : cells.length = cells'.length)
    (hsame : ∀ fragment, fragment ∈ fragments ↔ fragment ∈ fragments') : cells = cells' := by
  apply List.ext_getElem hlen
  intro i hi hi'
  by_cases harrived : Arrived cells i
  · obtain ⟨fragment, hmem, hlo, hhi⟩ := (h.arrived i).mp harrived
    have hat : fragment.2[i - fragment.1]? = some (fragment.2.get ⟨i - fragment.1, by omega⟩) :=
      List.getElem?_eq_getElem _
    have hleft := h.element fragment hmem _ _ hat
    have hright := h'.element fragment ((hsame _).mp hmem) _ _ hat
    rw [Nat.add_sub_cancel' hlo, List.getElem?_eq_getElem hi] at hleft
    rw [Nat.add_sub_cancel' hlo, List.getElem?_eq_getElem hi'] at hright
    exact (Option.some.inj hleft).trans (Option.some.inj hright).symm
  · have hnot : ¬ Arrived cells' i := by
      rw [h'.arrived]
      rintro ⟨fragment, hmem, hin⟩
      exact harrived ((h.arrived i).mpr ⟨fragment, (hsame _).mpr hmem, hin⟩)
    have hnone : ∀ {cells : Cells α} (hlt : i < cells.length), ¬ Arrived cells i → cells[i] = none := by
      intro cells hlt hnot
      cases hcell : cells[i] with
      | none => rfl
      | some a => exact absurd ⟨a, by rw [List.getElem?_eq_getElem hlt, hcell]⟩ hnot
    rw [hnone hi harrived, hnone hi' hnot]

omit [DecidableEq α] in
/-- The number of positions that have arrived. -/
theorem Holds.received_eq {cells : Cells α} {fragments : List (Nat × List α)} (h : Holds cells fragments) :
    received cells = (List.range cells.length).countP fun i => decide (Covered fragments i) := by
  have hcells : cells = (List.range cells.length).map fun i => cells.getD i none := by
    apply List.ext_getElem (by simp)
    intro i hi hi'
    simp [hi]
  conv_lhs => rw [received, hcells, List.countP_map]
  apply List.countP_congr
  intro i hi
  have hlt : i < cells.length := List.mem_range.mp hi
  rw [decide_eq_true_eq, ← h.arrived, Function.comp_apply, List.getD_eq_getElem?_getD,
    List.getElem?_eq_getElem hlt,
    Option.getD_some, Option.isSome_iff_exists, Arrived, List.getElem?_eq_getElem hlt]
  simp

end Lib.Reassembly
