import CodexKeyboard.Cache.Steps
/-!
# Removing a directory of files

`removeFlatDirectoryAt` unlinks the files in order and then removes the directory; a crash leaves
the directory with a tail of its files (`removeFlat_spec`).
-/

namespace CodexKeyboard.Cache

open Lib Proc Fs

section Rules
variable {α β : Type} {root : Node} {f : Node → Except CacheError α} {g : α → Op β}
    {Q : α → Node → Prop} {R : β → Node → Prop}
  {E : CacheError → Node → Prop} {P C : Node → Prop}

theorem specE_inspect (hok : ∀ s a, P s → f s = .ok a → Q a s)
    (herror : ∀ s e, P s → f s = .error e → E e s) :
    SpecE P (inspect f) Q E C := by
  refine spec_act fun s hs => ?_
  show Ends Q E (f s) s
  cases hf : f s with
  | ok a => exact hok s a hs hf
  | error e => exact herror s e hs hf

/-- A look at a known tree, and what comes after it. -/
theorem specE_inspect_bind {a : α} (hf : f root = .ok a) (hg : SpecE (fun s => s = root) (g a) R E C) :
    SpecE (fun s => s = root) (inspect f >>= g) R E C := by
  refine specE_bind (specE_inspect (Q := fun b s => b = a ∧ s = root) ?_ ?_) fun b => specE_and fun hb => ?_
  · rintro s b rfl hs
    rw [hf] at hs
    cases hs
    exact ⟨rfl, rfl⟩
  · rintro s e rfl hs
    rw [hf] at hs
    cases hs
  · rw [hb]
    exact hg

end Rules

section Flat
variable {root : Node} {t g : String} {i j : Nat} {gens files : List (String × Node)}
    {E : CacheError → Node → Prop} {C : Node → Prop}

/-- The tree with `rest` left of the files of a generation. -/
def withFiles (root : Node) (t g : String) (j : Nat) (rest : List (String × Node)) : Node :=
  root.set [t, g] (some (.dir j dirMode rest))

theorem find_withFiles (htask : root.find [t] = some (.dir i dirMode gens)) (hn : (names gens).Nodup)
    (rest : List (String × Node)) :
    (withFiles root t g j rest).find [t, g] = some (.dir j dirMode rest) := find_generation_set htask hn

theorem withFiles_unlink (e : String × Node) (rest : List (String × Node)) :
    (withFiles root t g j (e :: rest)).set [t, g, e.1] none = withFiles root t g j rest := by
  have h := Node.set_set_child (List.cons_ne_nil t [g]) root (.dir j dirMode (e :: rest)) e.1 none
  have hchild : (Node.dir j dirMode (e :: rest)).set [e.1] none = .dir j dirMode rest := by
    simp [Node.set, put]
  rw [hchild] at h
  exact h

theorem PartialObject.file {e : String × Node} (h : PartialObject e) :
    e.2.isFile = true ∧ e.2.isDir = false := by
  obtain ⟨_, _, _, bytes, hbytes, _⟩ := h
  rw [hbytes]
  exact ⟨rfl, rfl⟩

theorem removeFlat_spec (htask : root.find [t] = some (.dir i dirMode gens)) (hn : (names gens).Nodup)
    (hg : entry gens g = some (.dir j dirMode files)) (hfiles : ∀ e ∈ files, PartialObject e)
    (hcrash : ∀ rest, rest <:+ files → C (withFiles root t g j rest)) :
    SpecE (fun s => s = root) (removeFlatDirectoryAt [t] g) (fun _ s => s = root.set [t, g] none) E C := by
  have hself : withFiles root t g j files = root := by
    refine Node.set_self ?_
    rw [Node.find_pair, htask, Option.bind_some, Node.find_singleton]
    exact hg
  have hopen : orIo (openDirectoryAt [t] g root) = .ok (.dir j dirMode files) := by
    rw [openDirectoryAt_ok htask search_dirMode hg (openDirectory_private _ _)]
    rfl
  refine specE_inspect_bind hopen (specE_inspect_bind (by rw [readdir_private]; rfl) ?_)
  -- the loop: what is left of the files is a tail of them
  refine specE_bind (Q := fun _ s => s = withFiles root t g j []) ?_ fun _ => ?_
  · refine specE_mono (specE_forM (I := fun rest s => rest <:+ files ∧
      s = withFiles root t g j rest) ?_ files)
      (fun s hs => ⟨List.suffix_rfl, hs.trans hself.symm⟩) (fun _ _ hs => hs.2) (fun _ _ => id) fun _ => id
    intro e rest
    refine specE_and fun hsuffix => ?_
    have hfile := (hfiles e (hsuffix.subset List.mem_cons_self)).file
    have hfind : (withFiles root t g j (e :: rest)).find ([t] ++ [g]) = some (.dir j dirMode (e :: rest)) :=
      find_withFiles htask hn _
    have hentry : entry (e :: rest) e.1 = some e.2 := by simp [entry]
    have hstat : orIo (statAt ([t] ++ [g]) e.1 (withFiles root t g j (e :: rest))) = .ok e.2 := by
      rw [statAt_ok hfind search_dirMode hentry]
      rfl
    refine specE_inspect_bind hstat (specE_inspect_bind (by rw [hfile.1]; rfl) ?_)
    have hunlink := unlinkAt_ok hfind change_dirMode hentry hfile.2
    rw [show [t] ++ [g] ++ [e.1] = [t, g, e.1] from rfl, withFiles_unlink] at hunlink
    exact specE_mono (specE_adapt (specE_call_ok hunlink (hcrash _ hsuffix))) (fun _ => id)
      (fun _ s hs => ⟨(List.suffix_cons e rest).trans hsuffix, hs⟩) (fun _ _ => id) fun _ => id
  · refine specE_call_bind (f := fsync) rfl (hcrash [] List.nil_suffix) ?_
    have htask' :
      (withFiles root t g j []).find [t] = some (.dir i dirMode (put gens g (some (.dir j dirMode [])))) :=
      find_task_set htask
    have hrmdir := rmdirAt_ok htask' change_dirMode entry_put_some
    rw [show [t] ++ [g] = [t, g] from rfl, withFiles, Node.set_set] at hrmdir
    exact specE_adapt (specE_call_ok hrmdir (hcrash [] List.nil_suffix))

end Flat

end CodexKeyboard.Cache
