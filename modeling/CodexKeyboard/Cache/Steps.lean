import CodexKeyboard.Cache.Scanning
/-!
# Single steps on a sound tree

What a new task directory and a change of one entry of a task's directory do to a sound tree: which
paths keep their nodes, how the bytes change, and when the tree stays sound.
-/

namespace CodexKeyboard.Cache

open Lib Fs

variable {env : CacheEnv} {root node : Node} {t t' g g' : String} {o : Option Node} {i : Nat} {m : Mode}
  {gens : List (String × Node)}

/-! ## Paths -/

/-- The directory of a changed entry. -/
theorem find_task_set (htask : root.find [t] = some (.dir i m gens)) :
    (root.set [t, g] o).find [t] = some (.dir i m (put gens g o)) := by
  have hparent := Node.find_set_parent root [t] g o
  rw [htask] at hparent
  exact hparent

theorem find_task_set_of_ne (h : t' ≠ t) : (root.set [t, g] o).find [t'] = root.find [t'] :=
  Node.find_set_of_ne [] [] [g] h

theorem find_generation_set_of_ne (h : t' ≠ t ∨ g' ≠ g) :
    (root.set [t, g] o).find [t', g'] = root.find [t', g'] := by
  by_cases ht : t' = t
  · subst ht
    exact Node.find_set_of_ne [t'] [] [] (h.resolve_left fun hne => hne rfl)
  · exact Node.find_set_of_ne [] [g'] [g] ht

/-- A changed entry. -/
theorem find_generation_set (htask : root.find [t] = some (.dir i m gens)) (hn : (names gens).Nodup) :
    (root.set [t, g] o).find [t, g] = o := by
  rw [Node.find_pair, find_task_set htask, Option.bind_some, Node.find_singleton]
  exact entry_put_self hn

/-- The directories keep their identities. -/
theorem identity_set :
    ((root.set [t, g] o).find [t']).map Node.identity = (root.find [t']).map Node.identity := by
  by_cases ht : t' = t
  · subst ht
    cases htask : root.find [t'] with
    | none =>
      have hparent := Node.find_set_parent root [t'] g o
      rw [htask] at hparent
      rw [show root.set [t', g] o = root.set ([t'] ++ [g]) o from rfl, hparent]
      rfl
    | some task =>
      have hparent := Node.find_set_parent root [t'] g o
      rw [htask] at hparent
      rw [show root.set [t', g] o = root.set ([t'] ++ [g]) o from rfl, hparent]
      cases task with
      | dir j m' es => rfl
      | file m' bytes => simp
      | symlink => simp
  · rw [find_task_set_of_ne ht]

/-! ## The tree as a whole -/

theorem Sound.task_of_find (h : Sound env root) (hfind : root.find [t, g] = some node) :
    ∃ i gens, isTaskHash t.toList = true ∧ root.find [t] = some (.dir i dirMode gens) ∧
    (names gens).Nodup ∧ entry gens g = some node := by
  obtain ⟨hname, ⟨i, gens, htask, hmem⟩, _⟩ := h.find_generation hfind
  obtain ⟨i', gens', heq, hdistinct, _⟩ := h.find_task hname htask
  cases heq
  exact ⟨i, gens, hname, htask, hdistinct, entry_of_mem hdistinct hmem⟩

theorem set_generation_eq {j : Nat} {m' : Mode} {es : List (String × Node)}
    (htask : entry es t = some (.dir i m gens)) :
    (Node.dir j m' es).set [t, g] o = .dir j m' (put es t (some (.dir i m (put gens g o)))) := by
  rw [Node.set_cons_dir (by simp), htask]
  rfl

/-- How a change of one generation changes the bytes. -/
theorem rootBytes_set (hname : isTaskHash t.toList = true) (htask : root.find [t] = some (.dir i m gens)) :
    rootBytes (root.set [t, g] o) + weight (fun e => generationBytes e.2) g (entry gens g) =
      rootBytes root + weight (fun e => generationBytes e.2) g o := by
  cases root with
  | dir j m' es =>
    have htask : entry es t = some (.dir i m gens) := Node.find_singleton.symm.trans htask
    rw [set_generation_eq htask]
    have hbytes :
      ∀ gens', entryBytes (t, Node.dir i m gens') =
      total (fun e => generationBytes e.2) gens' := fun gens' => by
      unfold entryBytes
      rw [if_neg (ne_lock hname), if_neg (ne_marker hname)]
      rfl
    have hroot := @total_put _ _ es t (some (Node.dir i m (put gens g o))) _ entryBytes
    have hgens := @total_put _ _ gens g o _ fun e => generationBytes e.2
    rw [htask, weight_some, weight_some, hbytes, hbytes] at hroot
    simp only [rootBytes, Node.entries]
    omega
  | file m' bytes => cases htask
  | symlink => cases htask

theorem Sound.set_generation (h : Sound env root) (hname : isTaskHash t.toList = true)
    (htask : root.find [t] = some (.dir i dirMode gens)) (ho : ∀ node, o = some node →
      Generation env t (g, node))
    (hbytes : rootBytes (root.set [t, g] o) ≤ u64Max) : Sound env (root.set [t, g] o) := by
  obtain ⟨j, es, rfl⟩ := h.directory
  have htd := h.find_task hname htask
  have htask : entry es t = some (.dir i dirMode gens) := Node.find_singleton.symm.trans htask
  have heq : (Node.dir j dirMode es).set [t, g] o = _ := set_generation_eq htask
  obtain ⟨i', gens', hgens', hdistinct, hgens⟩ := htd
  cases hgens'
  refine ⟨?_, ?_, ?_, hbytes⟩
  · rw [heq]
    exact ⟨j, _, rfl⟩
  · rw [heq]
    exact nodup_put h.distinct
  · rw [heq]
    intro e he
    rcases mem_put he with he | ⟨v, hv, rfl⟩
    · exact h.entries e he
    · cases hv
      refine .task hname ⟨i, _, rfl, nodup_put hdistinct, fun e' he' => ?_⟩
      rcases mem_put he' with he' | ⟨node, hnode, rfl⟩
      · exact hgens e' he'
      · exact ho node hnode

/-- A removal keeps the tree sound. -/
theorem Sound.remove_generation (h : Sound env root) (hname : isTaskHash t.toList = true)
    (htask : root.find [t] = some (.dir i dirMode gens)) : Sound env (root.set [t, g] none) := by
  refine h.set_generation hname htask (fun _ hnone => by cases hnone) ?_
  have hbytes := rootBytes_set (g := g) (o := none) hname htask
  rw [weight_none] at hbytes
  have hbound := h.bounded
  omega

/-- A final generation is also what a temporary one may be. -/
theorem FinalDirectory.temporary {id : CacheId} {bundle : CacheBundle}
    (h : FinalDirectory env id bundle node) :
    TemporaryDirectory node := by
  obtain ⟨identity, manifest, qwen, device, rfl, hm, hq, hd⟩ := h
  have hpart : ∀ {kind plaintext node}, Object env id kind plaintext node → kind ∈ ObjectKind.all →
      PartialObject (kind.fileName, node) := fun hobj hkind => by
    have hsize := hobj.size.2
    obtain ⟨bytes, rfl, _⟩ := hobj
    exact ⟨_, hkind, rfl, bytes, rfl, hsize⟩
  refine ⟨identity, _, rfl, ?_, ?_⟩
  · show [ObjectKind.manifest.fileName, ObjectKind.qwenWav.fileName, ObjectKind.deviceEiad.fileName].Nodup
    decide
  · simp only [List.mem_cons, List.not_mem_nil, or_false, forall_eq_or_imp, forall_eq]
    exact ⟨hpart hm (by decide), hpart hq (by decide), hpart hd (by decide)⟩

end CodexKeyboard.Cache
