import Mathlib.Algebra.Ring.Nat
import Mathlib.Data.List.Basic
import Mathlib.Data.List.Nodup
/-!
# Directory trees

A directory is the list of its named entries, in the order `readdir` returns them, and a name stands
for the first entry that has it. `put` creates, replaces or removes the entry of one name;
`Node.find` follows a path and `Node.set` puts an entry into the directory at a path.

The laws are those of a finite map: what a name stands for after a `put` (`entry_put`), that names
stay distinct (`nodup_put`), and how a sum over the entries changes (`total_put`).
-/

namespace Lib

/-! ## Named entries -/

section Entries
variable {κ α : Type}

/-- The names of the entries. -/
def names (es : List (κ × α)) : List κ := es.map Prod.fst

/-- The sum of `f` over the entries. -/
def total (f : κ × α → Nat) (es : List (κ × α)) : Nat := (es.map f).sum

/-- What `f` counts for an entry that may be there. -/
def weight (f : κ × α → Nat) (k : κ) (o : Option α) : Nat := o.elim 0 fun v => f (k, v)

variable {es : List (κ × α)} {k k' : κ} {v : α} {o : Option α}

@[simp] theorem names_cons (e : κ × α) (es : List (κ × α)) : names (e :: es) = e.1 :: names es := rfl

@[simp] theorem total_cons (f : κ × α → Nat) (e : κ × α) (es : List (κ × α)) :
    total f (e :: es) = f e + total f es := by
  simp [total]

theorem total_append (f : κ × α → Nat) (xs ys : List (κ × α)) :
    total f (xs ++ ys) = total f xs + total f ys := by
  simp [total]

@[simp] theorem weight_none (f : κ × α → Nat) : weight f k none = 0 := rfl

@[simp] theorem weight_some (f : κ × α → Nat) : weight f k (some v) = f (k, v) := rfl

theorem mem_names_of_mem {e : κ × α} (h : e ∈ es) : e.1 ∈ names es := List.mem_map_of_mem h

variable [DecidableEq κ]

/-- The entry of a name. -/
def entry : List (κ × α) → κ → Option α
  | [], _ => none
  | e :: es, k => if e.1 = k then some e.2 else entry es k

/-- Make `k` stand for `o`: a new entry comes last, an old one is replaced or removed where it is. -/
def put : List (κ × α) → κ → Option α → List (κ × α)
  | [], k, some v => [(k, v)]
  | [], _, none => []
  | e :: es, k, o =>
    if e.1 = k then
      match o with
      | some v => (k, v) :: es
      | none => es
    else e :: put es k o

attribute [local simp] entry put

@[simp] theorem entry_nil : entry ([] : List (κ × α)) k = none := rfl

theorem mem_of_entry (h : entry es k = some v) : (k, v) ∈ es := by
  induction es with
  | nil => simp at h
  | cons e es ih =>
    unfold entry at h
    split at h
    · rename_i hk
      cases h
      exact hk ▸ List.mem_cons_self
    · exact List.mem_cons_of_mem _ (ih h)

theorem entry_eq_none : entry es k = none ↔ k ∉ names es := by
  induction es with
  | nil => simp [names]
  | cons e es ih =>
    by_cases hk : e.1 = k
    · simp [hk]
    · simp [hk, ih, Ne.symm hk]

theorem entry_of_mem (hn : (names es).Nodup) (h : (k, v) ∈ es) : entry es k = some v := by
  induction es with
  | nil => simp at h
  | cons e es ih =>
    rw [names_cons, List.nodup_cons] at hn
    rcases List.mem_cons.1 h with rfl | h
    · simp
    · have hne : e.1 ≠ k := fun hk => hn.1 (hk ▸ mem_names_of_mem h)
      simp [hne, ih hn.2 h]

theorem mem_names_put (h : k' ∈ names (put es k o)) : k' = k ∨ k' ∈ names es := by
  induction es with
  | nil =>
    cases o with
    | none => simp [names] at h
    | some v => exact Or.inl (by simpa [put, names] using h)
  | cons e es ih =>
    unfold put at h
    split at h
    · cases o with
      | none => exact Or.inr (List.mem_cons_of_mem _ h)
      | some v =>
        rcases List.mem_cons.1 h with rfl | h
        · exact Or.inl rfl
        · exact Or.inr (List.mem_cons_of_mem _ h)
    · rcases List.mem_cons.1 h with rfl | h
      · exact Or.inr List.mem_cons_self
      · exact (ih h).imp_right (List.mem_cons_of_mem _)

theorem nodup_put (hn : (names es).Nodup) : (names (put es k o)).Nodup := by
  induction es with
  | nil => cases o <;> simp [names]
  | cons e es ih =>
    rw [names_cons, List.nodup_cons] at hn
    unfold put
    split
    · rename_i hk
      cases o with
      | none => exact hn.2
      | some v => exact List.nodup_cons.2 (hk ▸ hn)
    · rename_i hk
      rw [names_cons, List.nodup_cons]
      refine ⟨fun h => ?_, ih hn.2⟩
      rcases mem_names_put h with h | h
      · exact hk h
      · exact hn.1 h

theorem entry_put_of_ne (h : k' ≠ k) : entry (put es k o) k' = entry es k' := by
  induction es with
  | nil => cases o <;> simp [h.symm]
  | cons e es ih =>
    by_cases hk : e.1 = k
    · cases o with
      | none => simp [hk, h.symm]
      | some v => simp [hk, h.symm]
    · by_cases hk' : e.1 = k'
      · have hne : k' ≠ k := h
        simp [hk', hne]
      · simp [hk, hk', ih]

theorem entry_put_self (hn : (names es).Nodup) : entry (put es k o) k = o := by
  induction es with
  | nil => cases o <;> simp
  | cons e es ih =>
    rw [names_cons, List.nodup_cons] at hn
    by_cases hk : e.1 = k
    · cases o with
      | none =>
        have hnone : entry es k = none := entry_eq_none.2 (hk ▸ hn.1)
        simp [hk, hnone]
      | some v => simp [hk]
    · simp [hk, ih hn.2]

theorem entry_put_some : entry (put es k (some v)) k = some v := by
  induction es with
  | nil => simp
  | cons e es ih =>
    by_cases hk : e.1 = k
    · simp [hk]
    · simp [hk, ih]

theorem put_none_of_entry (h : entry es k = none) : put es k none = es := by
  induction es with
  | nil => rfl
  | cons e es ih =>
    by_cases hk : e.1 = k
    · simp [hk] at h
    · simp only [entry, hk, if_false] at h
      simp [hk, ih h]

theorem mem_put {e : κ × α} (h : e ∈ put es k o) : e ∈ es ∨ ∃ v, o = some v ∧ e = (k, v) := by
  induction es with
  | nil =>
    cases o with
    | none => cases h
    | some v => exact Or.inr ⟨v, rfl, by simpa [put] using h⟩
  | cons e' es ih =>
    unfold put at h
    split at h
    · cases o with
      | none => exact Or.inl (List.mem_cons_of_mem _ h)
      | some v =>
        rcases List.mem_cons.1 h with rfl | h
        · exact Or.inr ⟨v, rfl, rfl⟩
        · exact Or.inl (List.mem_cons_of_mem _ h)
    · rcases List.mem_cons.1 h with rfl | h
      · exact Or.inl List.mem_cons_self
      · exact (ih h).imp_left (List.mem_cons_of_mem _)

/-- Putting what is there changes nothing. -/
theorem put_self (h : entry es k = some v) : put es k (some v) = es := by
  induction es with
  | nil => simp at h
  | cons e es ih =>
    by_cases hk : e.1 = k
    · simp only [entry, hk, if_true, Option.some.injEq] at h
      simp [← h, ← hk]
    · simp only [entry, hk, if_false] at h
      simp [hk, ih h]

/-- The second of two changes of one entry replaces the first. -/
theorem put_put (v : α) (o : Option α) : put (put es k (some v)) k o = put es k o := by
  induction es with
  | nil => cases o <;> simp
  | cons e es ih =>
    by_cases hk : e.1 = k
    · cases o <;> simp [hk]
    · simp [hk, ih]

theorem total_put (f : κ × α → Nat) :
    total f (put es k o) + weight f k (entry es k) = total f es + weight f k o := by
  induction es with
  | nil => cases o <;> simp [total]
  | cons e es ih =>
    obtain ⟨name, w⟩ := e
    by_cases hk : name = k
    · subst hk
      cases o <;> simp <;> omega
    · simp only [put, entry, hk, if_false, total_cons]
      omega

end Entries

/-! ## Nodes -/

/-- The permission bits of the owner, the group and the others. -/
abbrev Mode := BitVec 9

/-- A regular file, a directory or a symbolic link; `identity` is a directory's device and inode. -/
inductive Node where
  | file (mode : Mode) (bytes : List UInt8)
  | dir (identity : Nat) (mode : Mode) (entries : List (String × Node))
  | symlink

namespace Node

/-- The entries of a directory. -/
def entries : Node → List (String × Node)
  | .dir _ _ es => es
  | _ => []

/-- The node at a path. -/
def find : Node → List String → Option Node
  | node, [] => some node
  | .dir _ _ es, name :: path => (entry es name).bind fun child => child.find path
  | _, _ :: _ => none

/-- Put `o` at a path other than the root's; its directory must be there. -/
def set : List String → Option Node → Node → Node
  | [name], o, .dir i m es => .dir i m (put es name o)
  | name :: path, o, .dir i m es =>
    .dir i m (((entry es name).map fun child => put es name (some (child.set path o))).getD es)
  | _, _, node => node

variable {root node : Node} {path : List String} {name a b : String} {o : Option Node}

@[simp] theorem find_nil : find node [] = some node := by
  cases node <;> rfl

theorem find_singleton : node.find [name] = entry node.entries name := by
  cases node with
  | dir i m es => simp [find, entries]
  | file m bytes => rfl
  | symlink => rfl

theorem find_append (p q : List String) :
    root.find (p ++ q) = (root.find p).bind fun node => node.find q := by
  induction p generalizing root with
  | nil => simp
  | cons name p ih =>
    cases root with
    | dir i m es =>
      simp only [List.cons_append, find]
      cases entry es name with
      | none => rfl
      | some child => exact ih
    | file m bytes => rfl
    | symlink => rfl

theorem find_pair : root.find [a, b] = (root.find [a]).bind fun node => node.find [b] := find_append [a] [b]

@[simp] theorem set_file (m : Mode) (bytes : List UInt8) : (file m bytes).set path o = .file m bytes := by
  cases path with
  | nil => rfl
  | cons _ path => cases path <;> rfl

@[simp] theorem set_symlink : symlink.set path o = .symlink := by
  cases path with
  | nil => rfl
  | cons _ path => cases path <;> rfl

theorem set_cons_dir {i : Nat} {m : Mode} {es : List (String × Node)} (hp : path ≠ []) :
    (Node.dir i m es).set (name :: path) o =
      .dir i m (((entry es name).map fun child => put es name (some (child.set path o))).getD es) := by
  cases path with
  | nil => exact absurd rfl hp
  | cons _ _ => rfl

/-- The directory a new entry goes into. -/
theorem find_set_parent (root : Node) (path : List String) (name : String) (o : Option Node) :
    (root.set (path ++ [name]) o).find path = (root.find path).map fun node => node.set [name] o := by
  induction path generalizing root with
  | nil => simp
  | cons d path ih =>
    cases root with
    | dir i m es =>
      rw [List.cons_append, set_cons_dir (by simp)]
      cases hd : entry es d with
      | none => simp [find, hd]
      | some child => simp [find, hd, entry_put_some, ih]
    | file m bytes => simp [find]
    | symlink => simp [find]

/-- A path that branches off keeps its node. -/
theorem find_set_of_ne (p q r : List String) (h : a ≠ b) :
    (root.set (p ++ b :: r) o).find (p ++ a :: q) = root.find (p ++ a :: q) := by
  induction p generalizing root with
  | nil =>
    cases root with
    | dir i m es =>
      cases r with
      | nil => simp [set, find, entry_put_of_ne h]
      | cons c r =>
        rw [List.nil_append, set_cons_dir (by simp)]
        cases hb : entry es b with
        | none => rfl
        | some child => simp [find, entry_put_of_ne h]
    | file m bytes => simp
    | symlink => simp
  | cons d p ih =>
    cases root with
    | dir i m es =>
      rw [List.cons_append, set_cons_dir (by simp)]
      cases hd : entry es d with
      | none => rfl
      | some child => simp [find, hd, entry_put_some, ih]
    | file m bytes => simp
    | symlink => simp

/-- A change inside a node that was just put there. -/
theorem set_set_child (hp : path ≠ []) (root node : Node) (name : String) (o : Option Node) :
    (root.set path (some node)).set (path ++ [name]) o = root.set path (some (node.set [name] o)) := by
  induction path generalizing root with
  | nil => exact absurd rfl hp
  | cons d path ih =>
    cases root with
    | dir i m es =>
      cases path with
      | nil =>
        show (Node.dir i m (put es d (some node))).set (d :: [name]) o =
          .dir i m (put es d (some (node.set [name] o)))
        rw [set_cons_dir (by simp)]
        simp only [entry_put_some, Option.map_some, Option.getD_some, put_put]
      | cons c path =>
        rw [List.cons_append, set_cons_dir (by simp), set_cons_dir (by simp), set_cons_dir (by simp)]
        cases hd : entry es d with
        | none => simp [hd]
        | some child =>
          have hchild : (child.set (c :: path) (some node)).set (c :: path ++ [name]) o =
            child.set (c :: path) (some (node.set [name] o)) := ih (by simp) child
          simp only [Option.map_some, Option.getD_some, entry_put_some, put_put, hchild]
    | file m bytes => simp
    | symlink => simp

/-- The second of two changes at one path replaces the first. -/
theorem set_set (v : Node) (o : Option Node) : (root.set path (some v)).set path o = root.set path o := by
  induction path generalizing root with
  | nil => rfl
  | cons d path ih =>
    cases root with
    | dir i m es =>
      cases path with
      | nil => simp [set, put_put]
      | cons c path =>
        rw [set_cons_dir (by simp), set_cons_dir (by simp), set_cons_dir (by simp)]
        cases hd : entry es d with
        | none => simp [hd]
        | some child => simp only [Option.map_some, Option.getD_some, entry_put_some, put_put, ih]
    | file m bytes => simp
    | symlink => simp

theorem set_self (h : root.find path = some node) : root.set path (some node) = root := by
  induction path generalizing root with
  | nil => rfl
  | cons d path ih =>
    cases root with
    | dir i m es =>
      rw [find] at h
      obtain ⟨child, hd, hchild⟩ := Option.bind_eq_some_iff.1 h
      cases path with
      | nil =>
        rw [find_nil] at hchild
        cases hchild
        simp [set, put_self hd]
      | cons c path =>
        rw [set_cons_dir (by simp), hd]
        simp only [Option.map_some, Option.getD_some, ih hchild, put_self hd]
    | file m bytes => cases h
    | symlink => cases h

/-- Removing what is not there changes nothing. -/
theorem set_none (h : root.find path = none) : root.set path none = root := by
  induction path generalizing root with
  | nil => rfl
  | cons d path ih =>
    cases root with
    | dir i m es =>
      rw [find] at h
      cases path with
      | nil =>
        have hd : entry es d = none := by simpa using h
        simp [set, put_none_of_entry hd]
      | cons c path =>
        rw [set_cons_dir (by simp)]
        cases hd : entry es d with
        | none => rfl
        | some child =>
          rw [hd] at h
          simp only [Option.map_some, Option.getD_some, ih h, put_self hd]
    | file m bytes => simp
    | symlink => simp

end Node

end Lib
