import Mathlib.Data.Finset.Card
import Mathlib.Data.Finset.Dedup
/-!
# A bounded list without repetitions

`insertAll n entries new` adds what is new, one after the other, to at most `n` entries. It goes
through exactly if the distinct entries fit (`isSome_insertAll`), so it goes through for fewer of
them (`isSome_insertAll_of_subset`), and what it yields holds the old entries and the new ones, each
once (`insertAll_eq_some`).
-/

namespace Lib

variable {α : Type} [DecidableEq α]

/-- Adds an entry that is not there yet; `none` if it finds no room. -/
def insertNew (n : Nat) (entries : List α) (entry : α) : Option (List α) :=
  if entry ∈ entries then some entries
  else if entries.length ≥ n then none else some (entries ++ [entry])

def insertAll (n : Nat) (entries new : List α) : Option (List α) := new.foldlM (insertNew n) entries

variable {n : Nat} {entries new out : List α}

@[simp] theorem insertAll_nil : insertAll n entries [] = some entries := rfl

theorem insertAll_cons (entry : α) :
    insertAll n entries (entry :: new) = (insertNew n entries entry).bind (insertAll n · new) := by
  rfl

theorem insertAll_append (left right : List α) :
    insertAll n entries (left ++ right) = (insertAll n entries left).bind (insertAll n · right) := by
  simp [insertAll, List.foldlM_append]

/-- What goes through holds the old and the new entries, each once. -/
theorem insertAll_eq_some (hnodup : entries.Nodup) (hfits : entries.length ≤ n)
    (h : insertAll n entries new = some out) :
    out.Nodup ∧ out.length ≤ n ∧ ∀ x, x ∈ out ↔ x ∈ entries ∨ x ∈ new := by
  induction new generalizing entries with
  | nil =>
    cases h
    simp [hnodup, hfits]
  | cons entry new ih =>
    rw [insertAll_cons, insertNew] at h
    split at h
    · rename_i hold
      obtain ⟨hout, hlength, hmem⟩ := ih hnodup hfits h
      refine ⟨hout, hlength, fun x => ?_⟩
      rw [hmem, List.mem_cons]
      constructor
      · rintro (hx | hx)
        · exact .inl hx
        · exact .inr (.inr hx)
      · rintro (hx | rfl | hx)
        · exact .inl hx
        · exact .inl hold
        · exact .inr hx
    · rename_i hfresh
      split at h
      · cases h
      · rename_i hroom
        have hnodup' : (entries ++ [entry]).Nodup :=
          List.nodup_append'.mpr ⟨hnodup, List.nodup_singleton entry, by simpa using hfresh⟩
        obtain ⟨hout, hlength, hmem⟩ := ih hnodup' (by simp; omega) h
        refine ⟨hout, hlength, fun x => ?_⟩
        rw [hmem, List.mem_append, List.mem_singleton, List.mem_cons, or_assoc]

/-- It goes through exactly if the distinct entries fit. -/
theorem isSome_insertAll (hnodup : entries.Nodup) (hfits : entries.length ≤ n) :
    (insertAll n entries new).isSome = true ↔ (entries.toFinset ∪ new.toFinset).card ≤ n := by
  induction new generalizing entries with
  | nil => simp [List.toFinset_card_of_nodup hnodup, hfits]
  | cons entry new ih =>
    rw [insertAll_cons, insertNew]
    split
    · rename_i hold
      have hsame : entries.toFinset ∪ (entry :: new).toFinset = entries.toFinset ∪ new.toFinset := by
        ext x
        simp only [Finset.mem_union, List.mem_toFinset, List.mem_cons]
        grind
      rw [hsame]
      exact ih hnodup hfits
    · rename_i hfresh
      split
      · rename_i hfull
        have hsub : insert entry entries.toFinset ⊆ entries.toFinset ∪ (entry :: new).toFinset := by
          intro x
          simp only [Finset.mem_insert, Finset.mem_union, List.mem_toFinset, List.mem_cons]
          grind
        have hcard := Finset.card_le_card hsub
        rw [Finset.card_insert_of_notMem (by simpa using hfresh), List.toFinset_card_of_nodup hnodup]
          at hcard
        simp only [Option.bind_none, Option.isSome_none, Bool.false_eq_true, false_iff]
        omega
      · rename_i hroom
        have hnodup' : (entries ++ [entry]).Nodup :=
          List.nodup_append'.mpr ⟨hnodup, List.nodup_singleton entry, by simpa using hfresh⟩
        have hsame :
          entries.toFinset ∪ (entry :: new).toFinset = (entries ++ [entry]).toFinset ∪ new.toFinset := by
          ext x
          simp only [Finset.mem_union, List.mem_toFinset, List.mem_cons,
            List.mem_append, List.not_mem_nil, or_false]
          grind
        rw [hsame]
        exact ih hnodup' (by simp; omega)

/-- Fewer entries go through as well. -/
theorem isSome_insertAll_of_subset {new' : List α} (hsub : new' ⊆ new)
    (h : (insertAll n [] new).isSome = true) :
    (insertAll n [] new').isSome = true := by
  rw [isSome_insertAll List.nodup_nil (Nat.zero_le n)] at h ⊢
  refine Nat.le_trans (Finset.card_le_card ?_) h
  intro x
  simp only [List.toFinset_nil, Finset.empty_union, List.mem_toFinset]
  exact fun hx => hsub hx

end Lib
