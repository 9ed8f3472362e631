import CodexKeyboard.Cache.Removal
/-!
# Reconciliation

`reconcile_spec`: on a sound tree, with references that are all final, `reconcileUnlocked` ends with
exactly these references and no temporary generation; wherever it stops before, the tree is sound
and a final generation is either untouched or an orphan that is gone (`Between`).
`reconcile_rejected`: with a reference that is invalid, missing or does not authenticate it changes
nothing, whatever the tree is.
-/

namespace CodexKeyboard.Cache

open Lib Proc Fs

variable {env : CacheEnv} {root s node : Node} {id : CacheId} {bundle : CacheBundle} {t g : String}
  {i j : Nat} {gens files : List (String × Node)} {expected : List CacheId} {C : Node → Prop}
  {E : CacheError → Node → Prop}

/-! ## Reading what is final -/

theorem readObject_ok {kind : ObjectKind} {plaintext : List UInt8} {object : Node}
    (hm : entry files kind.fileName = some object)
    (h : Object env id kind plaintext object) :
    readObject env (.dir i dirMode files) id kind = .ok plaintext := by
  have hsize := h.size.2
  obtain ⟨bytes, rfl, hmax, hlength, hdecrypt⟩ := h
  have hopen : openAt [] kind.fileName (.dir i dirMode files) = .ok (.file fileMode bytes) := by
    unfold openAt
    rw [statAt_ok Node.find_nil search_dirMode hm, ok_bind, openNode_private]
  unfold readObject
  rw [hopen]
  simp only [orMissing, Except.mapError, ok_bind, validateFile_private]
  simp [hsize, hdecrypt]

theorem readUnlocked_ok (hroot : root.find [] = some (.dir j dirMode files))
    (htask : entry files id.taskDirectoryName = some (.dir i dirMode gens))
    (hgen : entry gens id.generationName = some node) (h : FinalDirectory env id bundle node) :
    readUnlocked env root id = .ok bundle := by
  have hinspect := inspectFinalDirectory_final h
  obtain ⟨identity, manifest, qwen, device, rfl, hm, hq, hd⟩ := h
  unfold readUnlocked
  rw [openDirectoryAt_ok hroot search_dirMode htask (openDirectory_private _ _)]
  simp only [orMissing, Except.mapError, ok_bind]
  rw [openDirectoryAt_ok Node.find_nil search_dirMode hgen (openDirectory_private _ _)]
  simp only [ok_bind]
  rw [readObject_ok (by simp [entry]) hm, ok_bind,
    readObject_ok (by simp [entry, ObjectKind.fileName]) hq, ok_bind,
    readObject_ok (by simp [entry, ObjectKind.fileName]) hd, ok_bind, hinspect]
  rfl

theorem Sound.read (h : Sound env root) (hid : id.Valid)
    (hfind : root.find [id.taskDirectoryName, id.generationName] = some node) :
    ∃ bundle, FinalDirectory env id bundle node ∧ readUnlocked env root id = .ok bundle := by
  obtain ⟨bundle, hfinal⟩ := h.final hid hfind
  obtain ⟨i, gens, _, htask, _, hgen⟩ := h.task_of_find hfind
  obtain ⟨j, es, rfl⟩ := h.directory
  have htask : entry es id.taskDirectoryName = some (.dir i dirMode gens) :=
    Node.find_singleton.symm.trans htask
  exact ⟨bundle, hfinal, readUnlocked_ok Node.find_nil htask hgen hfinal⟩

theorem Sound.openTask (h : Sound env root) (htask : root.find [t] = some (.dir i dirMode gens)) :
    openDirectoryAt [] t root = .ok (.dir i dirMode gens) := by
  obtain ⟨j, es, rfl⟩ := h.directory
  have htask : entry es t = some (.dir i dirMode gens) := Node.find_singleton.symm.trans htask
  exact openDirectoryAt_ok Node.find_nil search_dirMode htask (openDirectory_private _ _)

/-! ## Between two steps -/

/-- The node of a final generation. -/
def generationAt (root : Node) (id : CacheId) : Option Node :=
  root.find [id.taskDirectoryName, id.generationName]

/-- What a reconciliation that started on `root` may leave at any time. -/
structure Between (env : CacheEnv) (expected : List CacheId) (root s : Node) : Prop where
  sound : Sound env s
  identities : ∀ t, (s.find [t]).map Node.identity = (root.find [t]).map Node.identity
  untouched : ∀ id, id.Valid → generationAt s id = none ∨ generationAt s id = generationAt root id
  expected : ∀ id ∈ expected, id.Valid → generationAt s id = generationAt root id

theorem Between.refl (h : Sound env root) : Between env expected root root :=
  ⟨h, fun _ => rfl, fun _ _ => Or.inr rfl, fun _ _ _ => rfl⟩

/-- A change of an entry that is not a final generation's. -/
theorem Between.temporary {o : Option Node} (h : Between env expected root s)
    (hg : ∃ text, stripPrefix tempPrefix g = some text)
    (hsound : Sound env (s.set [t, g] o)) : Between env expected root (s.set [t, g] o) := by
  have hsame : ∀ id : CacheId, id.Valid → generationAt (s.set [t, g] o) id = generationAt s id :=
    fun id hid => by
    refine find_generation_set_of_ne (Or.inr ?_)
    rintro rfl
    obtain ⟨text, htext⟩ := hg
    rw [stripPrefix_generationName hid] at htext
    cases htext
  refine ⟨hsound, fun t' => identity_set.trans (h.identities t'), fun id hid => ?_, fun id hmem hid => ?_⟩
  · rw [hsame id hid]
    exact h.untouched id hid
  · rw [hsame id hid]
    exact h.expected id hmem hid

/-- The removal of an orphan's entry. -/
theorem Between.orphan (h : Between env expected root s) (hid : id.Valid) (horphan : id ∉ expected)
    (hfind : generationAt s id = some node) :
    Between env expected root (s.set [id.taskDirectoryName, id.generationName] none) := by
  obtain ⟨i, gens, hname, htask, hn, hgen⟩ := h.sound.task_of_find hfind
  have hsame : ∀ id' : CacheId, id'.Valid → id' ≠ id →
      generationAt (s.set [id.taskDirectoryName, id.generationName] none) id' =
        generationAt s id' := fun id' hid' hne => by
    refine find_generation_set_of_ne ?_
    by_cases ht : id'.taskDirectoryName = id.taskDirectoryName
    · exact Or.inr fun hg => hne (CacheId.eq_of_names hid' hid ht hg)
    · exact Or.inl ht
  refine ⟨h.sound.remove_generation hname htask,
    fun t' => identity_set.trans (h.identities t'), fun id' hid' => ?_,
    fun id' hmem hid' => ?_⟩
  · by_cases heq : id' = id
    · subst heq
      exact Or.inl (find_generation_set htask hn)
    · rw [hsame id' hid' heq]
      exact h.untouched id' hid'
  · have hne : id' ≠ id := fun heq => horphan (heq ▸ hmem)
    rw [hsame id' hid' hne]
    exact h.expected id' hmem hid'

/-! ## Removing a temporary generation -/

theorem Generation.temporary_of_name {e : String × Node} (h : Generation env t e)
    (hg : ∃ text, stripPrefix tempPrefix e.1 = some text) : TemporaryDirectory e.2 := by
  cases h with
  | temporary uuid h => exact h
  | final bundle hid htask h => exact h.temporary

theorem generation_temporary {e : String × Node} (h : Generation env t e)
    (hg : ∃ text, stripPrefix tempPrefix e.1 = some text) :
    ∃ uuid : Uuid env, e.1 = tempPrefix ++ uuid.text := by
  cases h with
  | temporary uuid h => exact ⟨uuid, rfl⟩
  | final bundle hid htask h =>
    obtain ⟨text, htext⟩ := hg
    rw [stripPrefix_generationName hid] at htext
    cases htext

@[simp] theorem weight_generation (g : String) (node : Node) :
    weight (fun e : String × Node => generationBytes e.2) g (some node) = generationBytes node := rfl

theorem total_suffix {κ α : Type} {f : κ × α → Nat} {xs ys : List (κ × α)} (h : xs <:+ ys) :
    total f xs ≤ total f ys := by
  obtain ⟨zs, rfl⟩ := h
  rw [total_append]
  omega

/-- A temporary generation with a tail of its files. -/
theorem Sound.withFiles (h : Sound env s) (hname : isTaskHash t.toList = true)
    (htask : s.find [t] = some (.dir i dirMode gens))
    (uuid : Uuid env) (hfd : (names files).Nodup) (hfiles : ∀ e ∈ files, PartialObject e)
    (hbytes : rootBytes s + total (fun e => e.2.size) files ≤
      u64Max + weight (fun e => generationBytes e.2) (tempPrefix ++ uuid.text)
        (entry gens (tempPrefix ++ uuid.text))) :
    Sound env (withFiles s t (tempPrefix ++ uuid.text) j files) := by
  refine h.set_generation hname htask (fun node hnode => ?_) ?_
  · cases hnode
    exact .temporary uuid ⟨j, files, rfl, hfd, hfiles⟩
  · have hset := rootBytes_set (g := tempPrefix ++ uuid.text) (o := some (.dir j dirMode files)) hname htask
    rw [weight_generation] at hset
    have hsize : generationBytes (.dir j dirMode files) = total (fun e => e.2.size) files := rfl
    omega

theorem removeTemporary_spec {x : TemporaryGeneration} (hb : Between env expected root s)
    (hmem : x ∈ (inventory s).temporaries) (hcrash : ∀ s', Between env expected root s' → C s') :
    SpecE (fun s' => s' = s) (removeTemporary x)
      (fun _ s' => s' = s.set [x.taskName, x.temporaryName] none ∧ Between env expected root s') E C := by
  obtain ⟨hstrip, ⟨node, hfind⟩, hidentity⟩ := (mem_temporaries hb.sound).1 hmem
  obtain ⟨i, gens, hname, htask, hn, hgen⟩ := hb.sound.task_of_find hfind
  have hgeneration := (hb.sound.find_generation hfind).2.2
  obtain ⟨uuid, huuid⟩ := generation_temporary hgeneration hstrip
  obtain ⟨j, files, hnode, hfd, hfiles⟩ := hgeneration.temporary_of_name hstrip
  dsimp only at huuid hnode
  subst hnode
  rw [htask] at hidentity
  have hopen : orIo (openDirectoryAt [] x.taskName s) = .ok (.dir i dirMode gens) := by
    rw [hb.sound.openTask htask]
    rfl
  have hvalidate : validateIdentity (.dir i dirMode gens) x.taskIdentity = .ok () := by
    rw [← Option.some.inj hidentity]
    simp [validateIdentity]
  have hrest : ∀ rest, rest <:+ files → C (withFiles s x.taskName x.temporaryName j rest) :=
    fun rest hsuffix => by
    refine hcrash _ (hb.temporary hstrip ?_)
    rw [huuid]
    refine hb.sound.withFiles hname htask uuid (hfd.sublist (hsuffix.sublist.map _))
      (fun e he => hfiles e (hsuffix.subset he)) ?_
    rw [← huuid, hgen, weight_generation]
    have hle := total_suffix (f := fun e => e.2.size) hsuffix
    have hbound := hb.sound.bounded
    have hsize : generationBytes (.dir j dirMode files) = total (fun e => e.2.size) files := rfl
    omega
  have hdone : Between env expected root (s.set [x.taskName, x.temporaryName] none) :=
    hb.temporary hstrip (hb.sound.remove_generation hname htask)
  refine specE_inspect_bind hopen (specE_inspect_bind hvalidate ?_)
  refine specE_bind (removeFlat_spec htask hn hgen hfiles hrest) fun _ => ?_
  refine specE_mono (specE_adapt (specE_call_ok (f := fsync) rfl (hcrash _ hdone))) (fun _ => id)
    (fun _ s' hs' => ?_)
    (fun _ _ => id) fun _ => id
  exact ⟨hs', hs' ▸ hdone⟩

/-! ## Removing an orphan -/

theorem generationName_ne_temporary (hid : id.Valid) (text : String) :
    id.generationName ≠ tempPrefix ++ text := by
  intro h
  have hnone := stripPrefix_generationName hid
  rw [h, stripPrefix_append] at hnone
  cases hnone

theorem removeOrphan_spec {uuid : Uuid env} {identity : Nat} (hb : Between env expected root s)
    (hid : id.Valid)
    (horphan : id ∉ expected) (hfind : generationAt s id = some node)
    (hfree : s.find [id.taskDirectoryName, tempPrefix ++ uuid.text] = none)
    (hidentity : (s.find [id.taskDirectoryName]).map Node.identity = some identity)
    (hcrash : ∀ s', Between env expected root s' → C s') :
    SpecE (fun s' => s' = s) (removeOrphanAtomically env uuid id identity)
      (fun _ s' => s' = s.set [id.taskDirectoryName, id.generationName] none ∧
        Between env expected root s') E C := by
  obtain ⟨i, gens, hname, htask, hn, hgen⟩ := hb.sound.task_of_find hfind
  obtain ⟨bundle, hfinal⟩ := hb.sound.final hid hfind
  obtain ⟨j, files, rfl, hfd, hfiles⟩ := hfinal.temporary
  have hne := generationName_ne_temporary hid uuid.text
  have hbase := hb.orphan hid horphan hfind
  have hbytes := rootBytes_set (g := id.generationName) (o := none) hname htask
  rw [hgen, weight_none, weight_generation] at hbytes
  have hfreeBase : (s.set [id.taskDirectoryName, id.generationName] none).find
      [id.taskDirectoryName, tempPrefix ++ uuid.text] = none := by
    rw [find_generation_set_of_ne (Or.inr (Ne.symm hne))]
    exact hfree
  have htaskBase := find_task_set (g := id.generationName) (o := none) htask
  have hnew : entry gens (tempPrefix ++ uuid.text) = none := by
    rw [Node.find_pair, htask, Option.bind_some, Node.find_singleton] at hfree
    exact hfree
  have hopen : orIo (openDirectoryAt [] id.taskDirectoryName s) = .ok (.dir i dirMode gens) := by
    rw [hb.sound.openTask htask]
    rfl
  have hvalidate : validateIdentity (.dir i dirMode gens) identity = .ok () := by
    rw [htask] at hidentity
    rw [← Option.some.inj hidentity]
    simp [validateIdentity]
  have hrename := renameAt_ok htask change_dirMode hgen hnew
  rw [show [id.taskDirectoryName] ++ [id.generationName] =
    [id.taskDirectoryName, id.generationName] from rfl,
    show [id.taskDirectoryName] ++ [tempPrefix ++ uuid.text] =
      [id.taskDirectoryName, tempPrefix ++ uuid.text] from rfl] at hrename
  generalize s.set [id.taskDirectoryName, id.generationName] none = base
    at hbase hbytes hfreeBase htaskBase hrename ⊢
  have hstrip : ∃ text, stripPrefix tempPrefix (tempPrefix ++ uuid.text) = some text :=
    ⟨_, stripPrefix_append _ _⟩
  -- the renamed directory with any tail of its files
  have hrest : ∀ rest, rest <:+ files →
    C (withFiles base id.taskDirectoryName (tempPrefix ++ uuid.text) j rest) := fun rest hsuffix => by
    refine hcrash _ (hbase.temporary hstrip ?_)
    refine hbase.sound.withFiles hname htaskBase uuid (hfd.sublist (hsuffix.sublist.map _))
      (fun e he => hfiles e (hsuffix.subset he)) ?_
    have hle := total_suffix (f := fun e => e.2.size) hsuffix
    have hbound := hb.sound.bounded
    have hsize : generationBytes (.dir j dirMode files) = total (fun e => e.2.size) files := rfl
    omega
  have hrest' : ∀ rest, rest <:+ files →
      C (withFiles (withFiles base id.taskDirectoryName (tempPrefix ++ uuid.text) j files)
        id.taskDirectoryName (tempPrefix ++ uuid.text) j rest) :=
    fun rest hsuffix => by
      rw [withFiles, withFiles, Node.set_set]
      exact hrest rest hsuffix
  have hmoved :
    (withFiles base id.taskDirectoryName (tempPrefix ++ uuid.text) j files).find
    [id.taskDirectoryName] = _ := find_task_set htaskBase
  have hremove := removeFlat_spec (E := E) hmoved (nodup_put (nodup_put hn)) entry_put_some hfiles hrest'
  have hback : (withFiles base id.taskDirectoryName (tempPrefix ++ uuid.text) j files).set
      [id.taskDirectoryName, tempPrefix ++ uuid.text] none = base := by
    rw [withFiles, Node.set_set, Node.set_none hfreeBase]
  rw [hback] at hremove
  refine specE_inspect_bind hopen (specE_inspect_bind hvalidate ?_)
  refine specE_bind (specE_adapt (specE_call_ok hrename (hcrash s hb))) fun _ => ?_
  refine specE_call_bind (f := fsync) rfl (hrest files List.suffix_rfl) ?_
  refine specE_bind hremove fun _ => ?_
  refine specE_mono (specE_adapt (specE_call_ok (f := fsync) rfl (hcrash _ hbase))) (fun _ hs => hs)
    (fun _ s' hs' => ?_)
    (fun _ _ hs => hs) fun _ hs => hs
  exact ⟨hs', hs' ▸ hbase⟩

/-! ## The loops -/

/-- The loop over the temporary generations, with `rest` still to be removed. -/
structure Cleaning (env : CacheEnv) (expected : List CacheId) (root : Node)
    (rest : List TemporaryGeneration) (s : Node) : Prop where
  between : Between env expected root s
  finals : ∀ id, id.Valid → generationAt s id = generationAt root id
  distinct : rest.Nodup
  temporaries : ∀ x, x ∈ (inventory s).temporaries ↔ x ∈ rest

theorem Cleaning.step {x : TemporaryGeneration} {rest : List TemporaryGeneration}
    (h : Cleaning env expected root (x :: rest) s)
    (hb : Between env expected root (s.set [x.taskName, x.temporaryName] none)) :
    Cleaning env expected root rest (s.set [x.taskName, x.temporaryName] none) := by
  have hx := (h.temporaries x).2 List.mem_cons_self
  obtain ⟨hstrip, ⟨node, hfind⟩, hidentity⟩ := (mem_temporaries h.between.sound).1 hx
  obtain ⟨i, gens, _, htask, hn, _⟩ := h.between.sound.task_of_find hfind
  have hdistinct := List.nodup_cons.1 h.distinct
  refine ⟨hb, fun id hid => ?_, hdistinct.2, fun y => ?_⟩
  · rw [← h.finals id hid]
    refine find_generation_set_of_ne (Or.inr ?_)
    obtain ⟨text, htext⟩ := hstrip
    intro heq
    rw [← heq, stripPrefix_generationName hid] at htext
    cases htext
  · rw [mem_temporaries hb.sound, identity_set]
    constructor
    · rintro ⟨hstripy, ⟨node', hfindy⟩, hidentityy⟩
      by_cases hne : y.taskName ≠ x.taskName ∨ y.temporaryName ≠ x.temporaryName
      · rw [find_generation_set_of_ne hne] at hfindy
        have hy :=
          (h.temporaries y).1 ((mem_temporaries h.between.sound).2 ⟨hstripy, ⟨node', hfindy⟩, hidentityy⟩)
        rcases List.mem_cons.1 hy with rfl | hy
        · exact absurd rfl (hne.resolve_left fun hc => hc rfl)
        · exact hy
      · rw [not_or, not_not, not_not] at hne
        rw [hne.1, hne.2, find_generation_set htask hn] at hfindy
        cases hfindy
    · intro hy
      obtain ⟨hstripy, hfindy, hidentityy⟩ :=
        (mem_temporaries h.between.sound).1 ((h.temporaries y).2 (List.mem_cons_of_mem _ hy))
      refine ⟨hstripy, ?_, hidentityy⟩
      rw [find_generation_set_of_ne]
      · exact hfindy
      · by_contra hne
        rw [not_or, not_not, not_not] at hne
        rw [hne.1, hidentity] at hidentityy
        have heq : y = x := by
          obtain ⟨a, b, c⟩ := x
          obtain ⟨a', b', c'⟩ := y
          obtain ⟨rfl, rfl⟩ := hne
          cases hidentityy
          rfl
        exact hdistinct.1 (heq ▸ hy)

/-- The loop over the orphans, with `rest` still to be removed. -/
structure Pruning (env : CacheEnv) (expected : List CacheId) (root : Node) (rest : List CacheId)
    (s : Node) : Prop where
  between : Between env expected root s
  distinct : rest.Nodup
  orphans : ∀ id ∈ rest, id ∉ expected
  clean : ∀ x, x ∉ (inventory s).temporaries
  finals : ∀ id, id ∈ (inventory s).finalized ↔ id ∈ rest ∨ id ∈ expected

theorem Pruning.step {rest : List CacheId} (h : Pruning env expected root (id :: rest) s)
    (hb : Between env expected root (s.set [id.taskDirectoryName, id.generationName] none)) :
    Pruning env expected root rest (s.set [id.taskDirectoryName, id.generationName] none) := by
  have hdistinct := List.nodup_cons.1 h.distinct
  have horphan := h.orphans id List.mem_cons_self
  obtain ⟨hid, node, hfind⟩ :=
    (mem_finalized h.between.sound).1 ((h.finals id).2 (Or.inl List.mem_cons_self))
  obtain ⟨i, gens, _, htask, hn, _⟩ := h.between.sound.task_of_find hfind
  refine ⟨hb, hdistinct.2, fun id' hmem => h.orphans id' (List.mem_cons_of_mem _ hmem),
    fun x hx => ?_, fun id' => ?_⟩
  · obtain ⟨hstrip, ⟨node', hfind'⟩, hidentity⟩ := (mem_temporaries hb.sound).1 hx
    rw [identity_set] at hidentity
    have hne : x.temporaryName ≠ id.generationName := by
      rintro heq
      obtain ⟨text, htext⟩ := hstrip
      rw [heq, stripPrefix_generationName hid] at htext
      cases htext
    rw [find_generation_set_of_ne (Or.inr hne)] at hfind'
    exact h.clean x ((mem_temporaries h.between.sound).2 ⟨hstrip, ⟨node', hfind'⟩, hidentity⟩)
  · rw [mem_finalized hb.sound]
    constructor
    · rintro ⟨hid', node', hfind'⟩
      have hne : id' ≠ id := by
        rintro rfl
        rw [find_generation_set htask hn] at hfind'
        cases hfind'
      have hpath : id'.taskDirectoryName ≠ id.taskDirectoryName ∨
        id'.generationName ≠ id.generationName := by
        by_contra hc
        rw [not_or, not_not, not_not] at hc
        exact hne (CacheId.eq_of_names hid' hid hc.1 hc.2)
      rw [find_generation_set_of_ne hpath] at hfind'
      rcases (h.finals id').1 ((mem_finalized h.between.sound).2 ⟨hid', node', hfind'⟩) with hmem | hmem
      · rcases List.mem_cons.1 hmem with rfl | hmem
        · exact absurd rfl hne
        · exact Or.inl hmem
      · exact Or.inr hmem
    · intro hmem
      have hne : id' ≠ id := by
        rintro rfl
        rcases hmem with hmem | hmem
        · exact hdistinct.1 hmem
        · exact horphan hmem
      obtain ⟨hid', node', hfind'⟩ := (mem_finalized h.between.sound).1
        ((h.finals id').2 (hmem.imp_left (List.mem_cons_of_mem _)))
      refine ⟨hid', node', ?_⟩
      rw [find_generation_set_of_ne]
      · exact hfind'
      · by_contra hc
        rw [not_or, not_not, not_not] at hc
        exact hne (CacheId.eq_of_names hid' hid hc.1 hc.2)

/-! ## Reconciliation -/

theorem syncAll_spec (h : Sound env s) (hcrash : C s) :
    SpecE (fun s' => s' = s) syncAllTaskDirectories (fun _ s' => s' = s) E C := by
  have hread : orIo (readdir s) = .ok s.entries := by
    obtain ⟨j, es, rfl⟩ := h.directory
    rw [readdir_private]
    rfl
  refine specE_inspect_bind hread ?_
  refine specE_bind (Q := fun _ s' => s' = s) ?_ fun _ =>
    specE_adapt (specE_call_ok (f := fsync) rfl hcrash)
  refine specE_mono (specE_forM (I := fun rest s' => (∀ e ∈ rest, e ∈ s.entries) ∧ s' = s) ?_ s.entries)
    (fun s' hs' => ⟨fun _ he => he, hs'⟩) (fun _ _ hs => hs.2) (fun _ _ hs => hs) fun _ hs => hs
  intro e rest
  refine specE_and fun hmem => ?_
  have hrest : ∀ e' ∈ rest, e' ∈ s.entries := fun e' he' => hmem e' (List.mem_cons_of_mem _ he')
  split
  · rename_i hname
    have htask :=
      h.find_task hname (Node.find_singleton.trans (entry_of_mem h.distinct (hmem e List.mem_cons_self)))
    obtain ⟨i, gens, hnode, _⟩ := htask
    have hopen : orIo (openDirectoryAt [] e.1 s) = .ok (.dir i dirMode gens) := by
      rw [h.openTask
        (Node.find_singleton.trans (hnode ▸ entry_of_mem h.distinct (hmem e List.mem_cons_self)))]
      rfl
    refine specE_inspect_bind hopen ?_
    exact specE_mono (specE_adapt (specE_call_ok (f := fsync) rfl hcrash)) (fun _ hs => hs)
      (fun _ _ hs => ⟨hrest, hs⟩)
      (fun _ _ hs => hs) fun _ hs => hs
  · exact specE_ret fun s' hs' => ⟨hrest, hs'⟩

/-- The orphans of a clean tree are still to be pruned. -/
theorem Cleaning.pruning (h : Sound env root) (hfinal : ∀ id ∈ expected, id ∈ (inventory root).finalized)
    (hs : Cleaning env expected root [] s) :
    Pruning env expected root ((inventory root).finalized.filter fun id => !expected.contains id) s := by
  refine ⟨hs.between, (nodup_finalized h).filter _, fun id hid => ?_, fun x hx => ?_, fun id => ?_⟩
  · have := (List.mem_filter.1 hid).2
    simpa using this
  · have := (hs.temporaries x).1 hx
    cases this
  · have hsame : id ∈ (inventory s).finalized ↔ id ∈ (inventory root).finalized := by
      rw [mem_finalized hs.between.sound, mem_finalized h]
      refine and_congr_right fun hid => ?_
      rw [show s.find [id.taskDirectoryName, id.generationName] = root.find _ from hs.finals id hid]
    rw [hsame, List.mem_filter]
    by_cases hmem : id ∈ expected
    · exact ⟨fun _ => Or.inr hmem, fun _ => hfinal id hmem⟩
    · simp [hmem]

theorem reads_spec (h : Sound env root)
    (hfinal : ∀ id ∈ expected, id ∈ (inventory root).finalized) :
    SpecE (fun s' => s' = root)
      (expected.forM fun id => do let _ ← inspect fun root => readUnlocked env root id)
      (fun _ s' => s' = root) E C := by
  refine specE_mono (specE_forM (I := fun rest s' => (∀ id ∈ rest, id ∈ expected) ∧ s' = root) ?_ expected)
    (fun s' hs' => ⟨fun _ he => he, hs'⟩) (fun _ _ hs => hs.2) (fun _ _ hs => hs) fun _ hs => hs
  intro id rest
  refine specE_and fun hmem => ?_
  obtain ⟨hid, node, hfind⟩ := (mem_finalized h).1 (hfinal id (hmem id List.mem_cons_self))
  obtain ⟨bundle, _, hread⟩ := h.read hid hfind
  refine specE_inspect_bind hread ?_
  exact specE_ret fun s' hs' => ⟨fun id' hid' => hmem id' (List.mem_cons_of_mem _ hid'), hs'⟩

/-- A reconciliation whose references are final ends with exactly them. -/
theorem reconcile_spec {references : List String} (draws : CacheId → Uuid env) (h : Sound env root)
    (hparse : parseReferences references = .ok expected)
    (hfinal : ∀ id ∈ expected, id ∈ (inventory root).finalized) :
    SpecE (fun s' => s' = root) (reconcileUnlocked env draws references)
      (fun _ s' => Pruning env expected root [] s') (fun _ _ => False) (Between env expected root) := by
  have hsubset : expected.all (inventory root).finalized.contains = true := by
    rw [List.all_eq_true]
    exact fun id hmem => by simpa using hfinal id hmem
  refine specE_inspect_bind hparse (specE_inspect_bind (scan_sound h) ?_)
  refine specE_inspect_bind (a := ()) (by rw [hsubset]; rfl) ?_
  refine specE_bind (reads_spec h hfinal) fun _ => ?_
  -- the temporary generations
  have htemporaries : SpecE (fun s' => s' = root) ((inventory root).temporaries.forM removeTemporary)
      (fun _ s' => Cleaning env expected root [] s') (fun _ _ => False) (Between env expected root) := by
    refine specE_mono (specE_forM (I := Cleaning env expected root) ?_ (inventory root).temporaries)
      (fun s' hs' => ?_)
      (fun _ _ hs => hs) (fun _ _ hs => hs) fun _ hs => hs
    · intro x rest
      refine specE_forall fun s hs => ?_
      refine specE_mono
        (removeTemporary_spec hs.between ((hs.temporaries x).2 List.mem_cons_self) fun _ hs' => hs')
        (fun _ hs' => hs') (fun _ s' hs' => ?_) (fun _ _ hs => hs) fun _ hs => hs
      rw [hs'.1]
      exact hs.step (hs'.1 ▸ hs'.2)
    · rw [hs']
      exact ⟨.refl h, fun _ _ => rfl, nodup_temporaries h, fun _ => Iff.rfl⟩
  refine specE_bind htemporaries fun _ => ?_
  -- the orphans, which got their identities before the loop
  refine specE_bind (Q := fun _ s' => Pruning env expected root [] s') ?_ fun _ => ?_
  · refine specE_mono (specE_forM (I := Pruning env expected root) ?_ _)
      (fun s' hs' => hs'.pruning h hfinal)
      (fun _ _ hs => hs) (fun _ _ hs => hs) fun _ hs => hs
    intro id rest
    refine specE_forall fun s hs => ?_
    obtain ⟨hid, node, hfind⟩ :=
      (mem_finalized hs.between.sound).1 ((hs.finals id).2 (Or.inl List.mem_cons_self))
    obtain ⟨i, gens, hname, htask, _⟩ := hs.between.sound.task_of_find hfind
    have hidentity : (s.find [id.taskDirectoryName]).map Node.identity = some i := by
      rw [htask]
      rfl
    have hlookup : entry (inventory root).taskIdentities id.taskDirectoryName = some i := by
      rw [entry_taskIdentities h hname, ← hs.between.identities]
      exact hidentity
    have hfree : s.find [id.taskDirectoryName, tempPrefix ++ (draws id).text] = none := by
      cases hfree : s.find [id.taskDirectoryName, tempPrefix ++ (draws id).text] with
      | none => rfl
      | some node' =>
        refine absurd ?_ (hs.clean ⟨id.taskDirectoryName, tempPrefix ++ (draws id).text, i⟩)
        exact (mem_temporaries hs.between.sound).2 ⟨⟨_, stripPrefix_append _ _⟩, ⟨node', hfree⟩, hidentity⟩
    rw [hlookup]
    refine specE_mono (removeOrphan_spec hs.between hid (hs.orphans id List.mem_cons_self)
      hfind hfree hidentity fun _ hs' => hs')
      (fun _ hs' => hs') (fun _ s' hs' => ?_) (fun _ _ hs => hs) fun _ hs => hs
    rw [hs'.1]
    exact hs.step (hs'.1 ▸ hs'.2)
  · refine specE_forall fun s hs => ?_
    refine specE_bind (syncAll_spec hs.between.sound hs.between) fun _ => ?_
    refine specE_inspect_bind (scan_sound hs.between.sound) (specE_ret fun s' hs' => ?_)
    rw [hs']
    exact hs

/-! ## References that are not final -/

/-- The reference is invalid, names no final generation or names one that does not authenticate. -/
def Unusable (env : CacheEnv) (root : Node) (reference : String) : Prop :=
  ∀ id, CacheId.fromReference reference = some id →
    (∀ scan, scanUnlocked env root = .ok scan → id ∉ scan.finalized) ∨
      ∀ bundle, readUnlocked env root id ≠ .ok bundle

theorem mem_parseReferences {references : List String} (h : parseReferences references = .ok expected) :
    ∀ reference ∈ references, ∃ id ∈ expected, CacheId.fromReference reference = some id := by
  induction references generalizing expected with
  | nil => simp
  | cons reference references ih =>
    unfold parseReferences at h
    rw [List.mapM_cons] at h
    obtain ⟨id, hid, h⟩ := bind_eq_ok.1 h
    obtain ⟨rest, hrest, h⟩ := bind_eq_ok.1 h
    cases h
    have hparse : CacheId.fromReference reference = some id := by
      split at hid
      · rename_i heq
        cases hid
        exact heq
      · cases hid
    intro reference' hmem
    rcases List.mem_cons.1 hmem with rfl | hmem
    · exact ⟨id, List.mem_cons_self, hparse⟩
    · obtain ⟨id', hid', heq⟩ := ih hrest reference' hmem
      exact ⟨id', List.mem_cons_of_mem _ hid', heq⟩

/-- Every reference is looked at before anything changes. -/
theorem reconcile_rejected {references : List String} {reference : String}
    (draws : CacheId → Uuid env) (hmem : reference ∈ references)
    (hbad : Unusable env root reference) :
    SpecE (fun s => s = root) (reconcileUnlocked env draws references) (fun _ _ => False)
      (fun _ s => s = root) (fun s => s = root) := by
  have hthrow :
    ∀ {α : Type} {f : Node → Except CacheError α} {β : Type} {g : α → Op β} {R : β → Node → Prop},
      (∀ a, f root = .ok a → SpecE (fun s => s = root) (g a) R (fun _ s => s = root) (fun s => s = root)) →
      SpecE (fun s => s = root) (inspect f >>= g) R (fun _ s => s = root) (fun s => s = root) := by
    intro α f β g R hg
    refine specE_bind (specE_inspect (Q := fun a s => f root = .ok a ∧ s = root) ?_ fun s _ hs _ =>
      hs) fun a => specE_and fun ha => hg a ha
    rintro s a rfl ha
    exact ⟨ha, rfl⟩
  refine hthrow fun expected hparse => hthrow fun scan hscan => hthrow fun _ hsubset => ?_
  obtain ⟨id, hid, heq⟩ := mem_parseReferences hparse reference hmem
  rw [ensure_eq_ok, List.all_eq_true] at hsubset
  have hin : id ∈ scan.finalized := by simpa using hsubset id hid
  have hunreadable : ∀ bundle, readUnlocked env root id ≠ .ok bundle :=
    (hbad id heq).resolve_left fun hnot => hnot scan hscan hin
  -- the loop stops at the latest where it reads this id
  have hreads :
    SpecE (fun s => s = root)
    (expected.forM fun id => do let _ ← inspect fun root => readUnlocked env root id)
      (fun _ _ => False) (fun _ s => s = root) (fun s => s = root) := by
    refine specE_mono (specE_forM (I := fun rest s => id ∈ rest ∧ s = root) ?_ expected)
      (fun s hs => ⟨hid, hs⟩)
      (fun _ _ hs => List.not_mem_nil hs.1) (fun _ _ hs => hs) fun _ hs => hs
    intro id' rest
    refine specE_and fun hmem' => hthrow fun bundle hread => specE_ret fun s hs => ⟨?_, hs⟩
    rcases List.mem_cons.1 hmem' with rfl | hrest
    · exact absurd hread (hunreadable bundle)
    · exact hrest
  exact specE_bind hreads fun _ => spec_pre (P := fun _ => False) (fun _ _ hs => hs.elim) fun _ hs => hs

theorem parseReferences_ok {references : List String}
    (h : ∀ reference ∈ references, ∃ id, CacheId.fromReference reference = some id) :
    ∃ expected, parseReferences references = .ok expected ∧
      ∀ id ∈ expected, ∃ reference ∈ references, CacheId.fromReference reference = some id := by
  induction references with
  | nil => exact ⟨[], rfl, by simp⟩
  | cons reference references ih =>
    obtain ⟨id, hid⟩ := h reference List.mem_cons_self
    obtain ⟨rest, hrest, hmem⟩ := ih fun reference' hmem => h reference' (List.mem_cons_of_mem _ hmem)
    refine ⟨id :: rest, ?_, fun id' hid' => ?_⟩
    · unfold parseReferences at hrest ⊢
      rw [List.mapM_cons, hid, hrest]
      rfl
    · rcases List.mem_cons.1 hid' with rfl | hid'
      · exact ⟨reference, List.mem_cons_self, hid⟩
      · obtain ⟨reference', hmem', heq⟩ := hmem id' hid'
        exact ⟨reference', List.mem_cons_of_mem _ hmem', heq⟩

/-- Usable references are those of final generations. -/
theorem usable {references : List String}
    (husable : ∀ reference ∈ references, ¬ Unusable env root reference) :
    ∃ expected, parseReferences references = .ok expected ∧
    ∀ id ∈ expected, id ∈ (inventory root).finalized := by
  have hid : ∀ reference ∈ references, ∃ id, CacheId.fromReference reference = some id ∧
    id ∈ (inventory root).finalized := by
    intro reference hmem
    have hnot := husable reference hmem
    unfold Unusable at hnot
    rw [not_forall] at hnot
    obtain ⟨id, hid⟩ := hnot
    rw [Classical.not_imp, not_or, not_forall] at hid
    obtain ⟨heq, ⟨scan, hscan⟩, _⟩ := hid
    rw [Classical.not_imp, not_not] at hscan
    rw [scanUnlocked_eq_ok hscan.1] at hscan
    exact ⟨id, heq, hscan.2⟩
  obtain ⟨expected, hparse, hmem⟩ :=
    parseReferences_ok fun reference hmem => (hid reference hmem).imp fun _ => And.left
  refine ⟨expected, hparse, fun id hid' => ?_⟩
  obtain ⟨reference, hreference, heq⟩ := hmem id hid'
  obtain ⟨id', heq', hfinal⟩ := hid reference hreference
  rw [heq] at heq'
  cases heq'
  exact hfinal

end CodexKeyboard.Cache
