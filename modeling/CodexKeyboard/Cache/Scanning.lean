import CodexKeyboard.Cache.Layout
/-!
# The scanner

A scan that succeeds reports the inventory (`scanUnlocked_eq_ok`), and it succeeds on every sound
tree (`scan_sound`).
-/

namespace CodexKeyboard.Cache

open Lib Fs

variable {env : CacheEnv} {node node' root : Node} {bytes : Nat}

/-! ## What a success says -/

theorem openNode_eq_ok (h : openNode node = .ok node') : node' = node := by
  unfold openNode at h
  split at h
  · cases h
  · split at h
    · cases h
      rfl
    · cases h

theorem openDirectory_eq_ok (h : openDirectory node = .ok node') : node' = node ∧ node.isDir = true := by
  obtain ⟨n, hn, h⟩ := bind_eq_ok.1 h
  obtain ⟨_, hdir, h⟩ := bind_eq_ok.1 h
  cases h
  have hn := openNode_eq_ok hn
  exact ⟨hn, hn ▸ ensure_eq_ok.1 hdir⟩

theorem orIo_eq_ok {α : Type} {x : Except FileError α} {a : α} : orIo x = .ok a ↔ x = .ok a := by
  cases x <;> simp [orIo, Except.mapError]

theorem mapError_eq_ok {ε ε' α : Type} {f : ε → ε'} {x : Except ε α} {a : α} :
    x.mapError f = .ok a ↔ x = .ok a := by
  cases x <;> simp [Except.mapError]

theorem readdir_eq_ok {es : List (String × Node)} (h : readdir node = .ok es) : es = node.entries := by
  unfold readdir entriesAt at h
  rw [Node.find_nil] at h
  cases node with
  | dir i m es' =>
    dsimp only at h
    split at h
    · cases h
      rfl
    · cases h
  | file m b => cases h
  | symlink => cases h

theorem addBytes_eq_ok {a b : Nat} (h : addBytes a b = .ok bytes) : bytes = a + b := by
  unfold addBytes checkedAdd at h
  split at h
  · rename_i heq
    split at heq
    · cases heq
      cases h
      rfl
    · cases heq
  · cases h

theorem addBytes_ok {a b : Nat} (h : a + b ≤ u64Max) : addBytes a b = .ok (a + b) := by
  simp [addBytes, checkedAdd, h]

/-- `sizes.values().try_fold`. -/
theorem foldlM_addBytes {κ : Type} {sizes : List (κ × Nat)} {start : Nat}
    (h : sizes.foldlM (fun sum e => addBytes sum e.2) start = .ok bytes) : bytes =
      start + total Prod.snd sizes := by
  induction sizes generalizing start with
  | nil =>
    cases h
    rfl
  | cons e sizes ih =>
    rw [List.foldlM_cons, bind_eq_ok] at h
    obtain ⟨a, ha, h⟩ := h
    rw [ih h, addBytes_eq_ok ha, total_cons, Nat.add_assoc]

theorem inspectFinalEntry_eq_ok {sizes sizes' : List (ObjectKind × Nat)} {e : String × Node}
    (h : inspectFinalEntry sizes e = .ok sizes') :
    total Prod.snd sizes' = total Prod.snd sizes + e.2.size := by
  unfold inspectFinalEntry at h
  split at h
  · cases h
  · rename_i kind hkind
    obtain ⟨file, hfile, h⟩ := bind_eq_ok.1 h
    obtain ⟨_, _, h⟩ := bind_eq_ok.1 h
    obtain ⟨_, _, h⟩ := bind_eq_ok.1 h
    obtain ⟨_, hfresh, h⟩ := bind_eq_ok.1 h
    cases h
    have hnone : entry sizes kind = none := by simpa using ensure_eq_ok.1 hfresh
    have hput := @total_put _ _ sizes kind (some file.size) _ Prod.snd
    rw [hnone, weight_none, weight_some] at hput
    rw [← openNode_eq_ok (orIo_eq_ok.1 hfile)]
    exact hput

theorem inspectFinalDirectory_eq_ok (h : inspectFinalDirectory node = .ok bytes) :
    bytes = generationBytes node := by
  obtain ⟨es, hes, h⟩ := bind_eq_ok.1 h
  obtain ⟨sizes, hsizes, h⟩ := bind_eq_ok.1 h
  obtain ⟨_, _, h⟩ := bind_eq_ok.1 h
  have hes := readdir_eq_ok (orIo_eq_ok.1 hes)
  have hsum : ∀ (es : List (String × Node)) (start sizes : List (ObjectKind × Nat)),
      es.foldlM inspectFinalEntry start = .ok sizes →
      total Prod.snd sizes = total Prod.snd start + total (fun e => e.2.size) es := by
    intro es
    induction es with
    | nil =>
      intro start sizes h
      cases h
      rfl
    | cons e es ih =>
      intro start sizes h
      rw [List.foldlM_cons, bind_eq_ok] at h
      obtain ⟨mid, hmid, h⟩ := h
      rw [ih mid sizes h, inspectFinalEntry_eq_ok hmid, total_cons, Nat.add_assoc]
  rw [foldlM_addBytes h, hsum es [] sizes hsizes, hes]
  show 0 + (0 + generationBytes node) = generationBytes node
  omega

theorem inspectTemporaryEntry_eq_ok {seen seen' : Nat × List String} {e : String × Node}
    (h : inspectTemporaryEntry seen e = .ok seen') : seen' = (seen.1 + e.2.size, e.1 :: seen.2) := by
  unfold inspectTemporaryEntry at h
  split at h
  · cases h
  · obtain ⟨_, _, h⟩ := bind_eq_ok.1 h
    obtain ⟨file, hfile, h⟩ := bind_eq_ok.1 h
    obtain ⟨_, _, h⟩ := bind_eq_ok.1 h
    obtain ⟨_, _, h⟩ := bind_eq_ok.1 h
    obtain ⟨sum, hsum, h⟩ := bind_eq_ok.1 h
    cases h
    rw [addBytes_eq_ok hsum, openNode_eq_ok (orIo_eq_ok.1 hfile)]

/-- The sum and the names the loop over a temporary directory ends with. -/
theorem foldl_seen (es : List (String × Node)) (seen : Nat × List String) :
    (es.foldl (fun (seen : Nat × List String) e => (seen.1 + e.2.size, e.1 :: seen.2)) seen) =
      (seen.1 + total (fun e => e.2.size) es, (names es).reverse ++ seen.2) := by
  induction es generalizing seen with
  | nil => rfl
  | cons e es ih => simp [ih, Nat.add_assoc]

theorem inspectTemporaryDirectory_eq_ok (h : inspectTemporaryDirectory node = .ok bytes) :
    bytes = generationBytes node := by
  obtain ⟨es, hes, h⟩ := bind_eq_ok.1 h
  obtain ⟨seen, hseen, h⟩ := bind_eq_ok.1 h
  cases h
  rw [foldlM_eq_ok (fun _ _ _ => inspectTemporaryEntry_eq_ok) hseen,
    foldl_seen, readdir_eq_ok (orIo_eq_ok.1 hes)]
  show 0 + generationBytes node = generationBytes node
  omega

theorem scanGeneration_eq_ok {taskName : String} {identity : Nat} {scan scan' : CacheScan}
    {e : String × Node}
    (h : scanGeneration env taskName identity scan e = .ok scan') :
    scan' = note taskName identity scan e := by
  obtain ⟨generation, hopen, h⟩ := bind_eq_ok.1 h
  obtain ⟨_, _, h⟩ := bind_eq_ok.1 h
  have hnode := (openDirectory_eq_ok (mapError_eq_ok.1 hopen)).1
  split at h
  · rename_i uuid huuid
    obtain ⟨_, _, h⟩ := bind_eq_ok.1 h
    obtain ⟨n, hn, h⟩ := bind_eq_ok.1 h
    obtain ⟨sum, hsum, h⟩ := bind_eq_ok.1 h
    cases h
    rw [note, huuid, addBytes_eq_ok hsum, inspectTemporaryDirectory_eq_ok hn, hnode]
  · rename_i huuid
    split at h
    · cases h
    · rename_i id hid
      obtain ⟨n, hn, h⟩ := bind_eq_ok.1 h
      obtain ⟨_, _, h⟩ := bind_eq_ok.1 h
      obtain ⟨sum, hsum, h⟩ := bind_eq_ok.1 h
      cases h
      rw [note, huuid, addBytes_eq_ok hsum, inspectFinalDirectory_eq_ok hn, hnode, hid]
      rfl

theorem scanTask_eq_ok {scan scan' : CacheScan} {e : String × Node} (h : scanTask env scan e = .ok scan') :
    scan' = noteTask scan e := by
  unfold scanTask at h
  unfold noteTask
  split at h
  · rename_i hlock
    obtain ⟨_, _, h⟩ := bind_eq_ok.1 h
    obtain ⟨_, _, h⟩ := bind_eq_ok.1 h
    cases h
    rw [if_pos hlock]
  · rename_i hlock
    rw [if_neg hlock]
    split at h
    · rename_i hmarker
      obtain ⟨file, hfile, h⟩ := bind_eq_ok.1 h
      obtain ⟨_, _, h⟩ := bind_eq_ok.1 h
      obtain ⟨sum, hsum, h⟩ := bind_eq_ok.1 h
      cases h
      rw [if_pos hmarker, addBytes_eq_ok hsum, openNode_eq_ok (orIo_eq_ok.1 hfile)]
    · rename_i hmarker
      obtain ⟨_, _, h⟩ := bind_eq_ok.1 h
      obtain ⟨task, htask, h⟩ := bind_eq_ok.1 h
      obtain ⟨_, _, h⟩ := bind_eq_ok.1 h
      obtain ⟨_, _, h⟩ := bind_eq_ok.1 h
      obtain ⟨generations, hgenerations, h⟩ := bind_eq_ok.1 h
      have hnode := (openDirectory_eq_ok (mapError_eq_ok.1 htask)).1
      rw [if_neg hmarker, foldlM_eq_ok (fun _ _ _ => scanGeneration_eq_ok) h,
        readdir_eq_ok (orIo_eq_ok.1 hgenerations), hnode]

/-- A scan that succeeds reports what is there. -/
theorem scanUnlocked_eq_ok {scan : CacheScan} (h : scanUnlocked env root = .ok scan) :
    scan = inventory root := by
  obtain ⟨_, _, h⟩ := bind_eq_ok.1 h
  obtain ⟨es, hes, h⟩ := bind_eq_ok.1 h
  rw [foldlM_eq_ok (fun _ _ _ => scanTask_eq_ok) h, readdir_eq_ok (orIo_eq_ok.1 hes)]
  rfl

/-! ## The inventory -/

section Note
variable {taskName : String} {identity : Nat}

theorem note_finalized (scan : CacheScan) (e : String × Node) :
    (note taskName identity scan e).finalized = scan.finalized ++ (idOf taskName e.1).toList := by
  unfold note idOf
  cases stripPrefix tempPrefix e.1 <;> simp

theorem note_bytes (scan : CacheScan) (e : String × Node) :
    (note taskName identity scan e).audit.encryptedBytes =
      scan.audit.encryptedBytes + generationBytes e.2 := by
  unfold note
  cases stripPrefix tempPrefix e.1 <;> rfl

theorem note_identities (scan : CacheScan) (e : String × Node) :
    (note taskName identity scan e).taskIdentities = scan.taskIdentities := by
  unfold note
  cases stripPrefix tempPrefix e.1 <;> rfl

/-- The temporary generation a name in a task's directory stands for. -/
def temporaryOf (taskName : String) (identity : Nat) (name : String) : Option TemporaryGeneration :=
  (stripPrefix tempPrefix name).map fun _ => ⟨taskName, name, identity⟩

theorem note_temporaries (scan : CacheScan) (e : String × Node) :
    (note taskName identity scan e).temporaries =
      scan.temporaries ++ (temporaryOf taskName identity e.1).toList := by
  unfold note temporaryOf
  cases stripPrefix tempPrefix e.1 <;> simp

theorem foldl_note_finalized (es : List (String × Node)) (scan : CacheScan) :
    (es.foldl (note taskName identity) scan).finalized = scan.finalized ++ es.filterMap fun e =>
      idOf taskName e.1 := by
  induction es generalizing scan with
  | nil => simp
  | cons e es ih =>
    rw [List.foldl_cons, ih, note_finalized, List.append_assoc, List.filterMap_cons]
    cases idOf taskName e.1 <;> rfl

theorem foldl_note_temporaries (es : List (String × Node)) (scan : CacheScan) :
    (es.foldl (note taskName identity) scan).temporaries =
      scan.temporaries ++ es.filterMap fun e => temporaryOf taskName identity e.1 := by
  induction es generalizing scan with
  | nil => simp
  | cons e es ih =>
    rw [List.foldl_cons, ih, note_temporaries, List.append_assoc, List.filterMap_cons]
    cases temporaryOf taskName identity e.1 <;> rfl

theorem foldl_note_bytes (es : List (String × Node)) (scan : CacheScan) :
    (es.foldl (note taskName identity) scan).audit.encryptedBytes =
      scan.audit.encryptedBytes + total (fun e => generationBytes e.2) es := by
  induction es generalizing scan with
  | nil => rfl
  | cons e es ih => rw [List.foldl_cons, ih, note_bytes, total_cons, Nat.add_assoc]

theorem foldl_note_identities (es : List (String × Node)) (scan : CacheScan) :
    (es.foldl (note taskName identity) scan).taskIdentities = scan.taskIdentities := by
  induction es generalizing scan with
  | nil => rfl
  | cons e es ih => rw [List.foldl_cons, ih, note_identities]

end Note

/-- An entry of the root other than the lock and the marker. -/
def isTask (e : String × Node) : Bool := e.1 != cacheLockFile && e.1 != keyMarkerFile

/-- The final generations of an entry of the root. -/
def finalizedOf (e : String × Node) : List CacheId :=
  if isTask e then e.2.entries.filterMap fun g => idOf e.1 g.1 else []

def temporariesOf (e : String × Node) : List TemporaryGeneration :=
  if isTask e then e.2.entries.filterMap fun g => temporaryOf e.1 e.2.identity g.1 else []

theorem noteTask_of_isTask {scan : CacheScan} {e : String × Node} (h : isTask e = true) :
    noteTask scan e = e.2.entries.foldl (note e.1 e.2.identity)
      { scan with taskIdentities := put scan.taskIdentities e.1 (some e.2.identity) } := by
  simp only [isTask, Bool.and_eq_true, bne_iff_ne] at h
  unfold noteTask
  rw [if_neg h.1, if_neg h.2]

theorem noteTask_finalized (scan : CacheScan) (e : String × Node) :
    (noteTask scan e).finalized = scan.finalized ++ finalizedOf e := by
  by_cases h : isTask e = true
  · rw [noteTask_of_isTask h, foldl_note_finalized, finalizedOf, if_pos h]
  · rw [finalizedOf, if_neg h, List.append_nil]
    simp only [isTask, Bool.and_eq_true, bne_iff_ne, not_and, Decidable.not_not] at h
    unfold noteTask
    split
    · rfl
    · rename_i hlock
      rw [if_pos (h hlock)]

theorem noteTask_temporaries (scan : CacheScan) (e : String × Node) :
    (noteTask scan e).temporaries = scan.temporaries ++ temporariesOf e := by
  by_cases h : isTask e = true
  · rw [noteTask_of_isTask h, foldl_note_temporaries, temporariesOf, if_pos h]
  · rw [temporariesOf, if_neg h, List.append_nil]
    simp only [isTask, Bool.and_eq_true, bne_iff_ne, not_and, Decidable.not_not] at h
    unfold noteTask
    split
    · rfl
    · rename_i hlock
      rw [if_pos (h hlock)]

theorem noteTask_bytes (scan : CacheScan) (e : String × Node) :
    (noteTask scan e).audit.encryptedBytes = scan.audit.encryptedBytes + entryBytes e := by
  unfold noteTask entryBytes
  split
  · rfl
  · split
    · rfl
    · exact foldl_note_bytes e.2.entries _

theorem noteTask_identities (scan : CacheScan) (e : String × Node) (t : String) :
    entry (noteTask scan e).taskIdentities t =
      if isTask e ∧ t = e.1 then some e.2.identity else entry scan.taskIdentities t := by
  by_cases h : isTask e = true
  · rw [noteTask_of_isTask h, foldl_note_identities]
    by_cases ht : t = e.1
    · subst ht
      rw [if_pos ⟨h, rfl⟩]
      exact entry_put_some
    · rw [if_neg (fun hc => ht hc.2)]
      exact entry_put_of_ne ht
  · rw [if_neg (fun hc => h hc.1)]
    simp only [isTask, Bool.and_eq_true, bne_iff_ne, not_and, Decidable.not_not] at h
    unfold noteTask
    split
    · rfl
    · rename_i hlock
      rw [if_pos (h hlock)]

theorem foldl_noteTask_finalized (es : List (String × Node)) (scan : CacheScan) :
    (es.foldl noteTask scan).finalized = scan.finalized ++ es.flatMap finalizedOf := by
  induction es generalizing scan with
  | nil => simp
  | cons e es ih => rw [List.foldl_cons, ih, noteTask_finalized, List.append_assoc, List.flatMap_cons]

theorem foldl_noteTask_temporaries (es : List (String × Node)) (scan : CacheScan) :
    (es.foldl noteTask scan).temporaries = scan.temporaries ++ es.flatMap temporariesOf := by
  induction es generalizing scan with
  | nil => simp
  | cons e es ih => rw [List.foldl_cons, ih, noteTask_temporaries, List.append_assoc, List.flatMap_cons]

theorem foldl_noteTask_bytes (es : List (String × Node)) (scan : CacheScan) :
    (es.foldl noteTask scan).audit.encryptedBytes = scan.audit.encryptedBytes + total entryBytes es := by
  induction es generalizing scan with
  | nil => rfl
  | cons e es ih => rw [List.foldl_cons, ih, noteTask_bytes, total_cons, Nat.add_assoc]

theorem foldl_noteTask_identities {es : List (String × Node)} (hn : (names es).Nodup)
    (scan : CacheScan) (t : String) :
    entry (es.foldl noteTask scan).taskIdentities t =
      if ∃ e ∈ es, isTask e = true ∧ t = e.1 then (entry es t).map Node.identity else
        entry scan.taskIdentities t := by
  induction es generalizing scan with
  | nil => simp
  | cons e es ih =>
    rw [names_cons, List.nodup_cons] at hn
    rw [List.foldl_cons, ih hn.2, noteTask_identities]
    by_cases he : isTask e = true ∧ t = e.1
    · obtain ⟨htask, rfl⟩ := he
      have hnot : ¬ ∃ e' ∈ es, isTask e' = true ∧ e.1 = e'.1 := by
        rintro ⟨e', he', _, heq⟩
        exact hn.1 (heq ▸ mem_names_of_mem he')
      rw [if_neg hnot, if_pos ⟨htask, rfl⟩, if_pos ⟨e, List.mem_cons_self, htask, rfl⟩]
      simp [entry]
    · by_cases hrest : ∃ e' ∈ es, isTask e' = true ∧ t = e'.1
      · obtain ⟨e', he', htask, rfl⟩ := hrest
        have hne : e.1 ≠ e'.1 := fun heq => hn.1 (heq ▸ mem_names_of_mem he')
        rw [if_pos ⟨e', he', htask, rfl⟩, if_pos ⟨e', List.mem_cons_of_mem _ he', htask, rfl⟩]
        simp [entry, hne]
      · have hnone : ¬ ∃ e' ∈ e :: es, isTask e' = true ∧ t = e'.1 := by
          rintro ⟨e', he', hc⟩
          rcases List.mem_cons.1 he' with rfl | he'
          · exact he hc
          · exact hrest ⟨e', he', hc⟩
        rw [if_neg hrest, if_neg he, if_neg hnone]

theorem inventory_finalized (root : Node) : (inventory root).finalized = root.entries.flatMap finalizedOf :=
  (foldl_noteTask_finalized _ _).trans (List.nil_append _)

theorem inventory_temporaries (root : Node) :
    (inventory root).temporaries = root.entries.flatMap temporariesOf :=
  (foldl_noteTask_temporaries _ _).trans (List.nil_append _)

theorem inventory_bytes (root : Node) : (inventory root).audit.encryptedBytes = rootBytes root :=
  (foldl_noteTask_bytes _ _).trans (Nat.zero_add _)

/-! ## Success -/

theorem entriesAt_private (identity : Nat) (es : List (String × Node)) {need : Mode}
    (h : need &&& dirMode = need) :
    entriesAt need [] (.dir identity dirMode es) = .ok es := entriesAt_find Node.find_nil h

theorem search_dirMode : ownerSearch &&& dirMode = ownerSearch := by decide

theorem list_dirMode : (ownerRead ||| ownerSearch) &&& dirMode = ownerRead ||| ownerSearch := by decide

theorem change_dirMode : (ownerWrite ||| ownerSearch) &&& dirMode = ownerWrite ||| ownerSearch := by decide

@[simp] theorem readdir_private (identity : Nat) (es : List (String × Node)) :
    readdir (.dir identity dirMode es) = .ok es := entriesAt_private identity es list_dirMode

@[simp] theorem openDirectory_private (identity : Nat) (es : List (String × Node)) :
    openDirectory (.dir identity dirMode es) = .ok (.dir identity dirMode es) :=
      openDirectory_dir identity es (by decide)

@[simp] theorem openNode_private (bytes : List UInt8) :
    openNode (.file fileMode bytes) = .ok (.file fileMode bytes) :=
  openNode_file bytes (by decide)

@[simp] theorem validateDirectory_private (identity : Nat) (es : List (String × Node)) :
    validateDirectory (.dir identity dirMode es) = .ok () := by
  simp [validateDirectory, Node.isDir, Node.mode]

@[simp] theorem validateFile_private (bytes : List UInt8) :
    validateFile (.file fileMode bytes) = .ok () := by
  simp [validateFile, Node.isFile, Node.mode]

@[simp] theorem orIo_ok {α : Type} (a : α) : orIo (.ok a : Except FileError α) = .ok a := rfl

variable {id : CacheId} {bundle : CacheBundle}

/-- The size of an object is one the inspections accept. -/
theorem Object.size {kind : ObjectKind} {plaintext : List UInt8} (h : Object env id kind plaintext node) :
    headerBytes + tagBytes ≤ node.size ∧ node.size ≤ kind.maxPlaintextBytes + headerBytes + tagBytes := by
  obtain ⟨bytes, rfl, hmax, hlength, _⟩ := h
  show headerBytes + tagBytes ≤ bytes.length ∧ bytes.length ≤ _
  omega

theorem Object.private {kind : ObjectKind} {plaintext : List UInt8}
    (h : Object env id kind plaintext node) :
    openNode node = .ok node ∧ validateFile node = .ok () := by
  obtain ⟨bytes, rfl, _⟩ := h
  exact ⟨openNode_private bytes, validateFile_private bytes⟩

theorem inspectFinalEntry_object {kind : ObjectKind} {plaintext : List UInt8}
    (h : Object env id kind plaintext node)
    (hkind : kind ∈ ObjectKind.all) {sizes : List (ObjectKind × Nat)} (hfresh : entry sizes kind = none) :
    inspectFinalEntry sizes (kind.fileName, node) = .ok (put sizes kind (some node.size)) := by
  unfold inspectFinalEntry
  simp only [kindOf_fileName hkind, h.private.1, orIo_ok, h.private.2, ok_bind, hfresh]
  simp [h.size]

theorem inspectFinalDirectory_final (h : FinalDirectory env id bundle node) :
    inspectFinalDirectory node = .ok (generationBytes node) := by
  obtain ⟨identity, manifest, qwen, device, rfl, hm, hq, hd⟩ := h
  have hloop : [(ObjectKind.manifest.fileName, manifest), (ObjectKind.qwenWav.fileName, qwen),
      (ObjectKind.deviceEiad.fileName, device)].foldlM inspectFinalEntry [] =
      .ok [(ObjectKind.manifest, manifest.size), (ObjectKind.qwenWav, qwen.size),
        (ObjectKind.deviceEiad, device.size)] := by
    rw [List.foldlM_cons, inspectFinalEntry_object hm (by decide) rfl, ok_bind,
      List.foldlM_cons, inspectFinalEntry_object hq (by decide) rfl, ok_bind,
      List.foldlM_cons, inspectFinalEntry_object hd (by decide) rfl, ok_bind]
    rfl
  have hbound : manifest.size + qwen.size + device.size ≤ u64Max := by
    have h1 := hm.size.2
    have h2 := hq.size.2
    have h3 := hd.size.2
    have h4 := maxPlaintextBytes_le .manifest
    have h5 := maxPlaintextBytes_le .qwenWav
    have h6 := maxPlaintextBytes_le .deviceEiad
    simp only [headerBytes, tagBytes, maxAudioObjectBytes, u64Max] at *
    omega
  have hsum : [(ObjectKind.manifest, manifest.size), (ObjectKind.qwenWav, qwen.size),
      (ObjectKind.deviceEiad, device.size)].foldlM (fun sum e => addBytes sum e.2) 0 =
      .ok (manifest.size + qwen.size + device.size) := by
    rw [List.foldlM_cons, addBytes_ok (by omega), ok_bind,
      List.foldlM_cons, addBytes_ok (by omega), ok_bind,
      List.foldlM_cons, addBytes_ok (by omega), ok_bind, Nat.zero_add]
    rfl
  unfold inspectFinalDirectory
  rw [readdir_private, orIo_ok, ok_bind, hloop, ok_bind]
  show _ = Except.ok (generationBytes _)
  rw [show generationBytes _ = manifest.size + qwen.size + device.size from ?_]
  · exact hsum
  · simp [generationBytes, Node.entries, total]
    omega

theorem inspectTemporaryEntry_ok {seen : Nat × List String} {e : String × Node} (h : PartialObject e)
    (hfresh : e.1 ∉ seen.2)
    (hbound : seen.1 + e.2.size ≤ u64Max) :
    inspectTemporaryEntry seen e = .ok (seen.1 + e.2.size, e.1 :: seen.2) := by
  obtain ⟨name, node⟩ := e
  obtain ⟨kind, hkind, rfl, bytes, rfl, hsize⟩ := h
  have hle : (Node.file fileMode bytes).size ≤ kind.maxPlaintextBytes + headerBytes + tagBytes := hsize
  have hcontains : seen.2.contains kind.fileName = false := by simpa using hfresh
  unfold inspectTemporaryEntry
  simp only [kindOf_fileName hkind, openNode_private, orIo_ok, validateFile_private,
    ok_bind, hcontains, addBytes_ok hbound]
  simp [hle]

theorem inspectTemporaryDirectory_ok (h : TemporaryDirectory node)
    (hbound : generationBytes node ≤ u64Max) :
    inspectTemporaryDirectory node = .ok (generationBytes node) := by
  obtain ⟨identity, files, rfl, hdistinct, hfiles⟩ := h
  have hloop : files.foldlM inspectTemporaryEntry (0, []) =
      .ok (files.foldl (fun (seen : Nat × List String) e => (seen.1 + e.2.size, e.1 :: seen.2)) (0,
        [])) := by
    refine foldlM_ok fun done e rest heq => ?_
    have hfiles := hfiles e (by rw [heq]; simp)
    rw [foldl_seen]
    refine inspectTemporaryEntry_ok hfiles (fun hmem => ?_) ?_
    · rw [heq] at hdistinct
      simp only [names, List.map_append, List.map_cons] at hdistinct
      have hmem : e.1 ∈ names done := by simpa using hmem
      exact (List.disjoint_of_nodup_append hdistinct hmem) List.mem_cons_self
    · have htotal : generationBytes (.dir identity dirMode files) = total (fun e => e.2.size) files := rfl
      rw [htotal, heq, total_append, total_cons] at hbound
      show 0 + total _ done + e.2.size ≤ u64Max
      omega
  unfold inspectTemporaryDirectory
  rw [readdir_private, orIo_ok, ok_bind, hloop, foldl_seen]
  show Except.ok (0 + generationBytes (.dir identity dirMode files)) = _
  rw [Nat.zero_add]

variable {taskName : String}

theorem Generation.isDirectory {e : String × Node} (h : Generation env taskName e) :
    ∃ identity es, e.2 = .dir identity dirMode es := by
  cases h with
  | temporary uuid h =>
    obtain ⟨identity, files, rfl, _⟩ := h
    exact ⟨identity, files, rfl⟩
  | final bundle hid htask h =>
    obtain ⟨identity, manifest, qwen, device, rfl, _⟩ := h
    exact ⟨identity, _, rfl⟩

theorem idOf_temporary (uuid : Uuid env) : idOf taskName (tempPrefix ++ uuid.text) = none := by
  simp [idOf, stripPrefix_append]

theorem idOf_final (hid : id.Valid) : idOf id.taskDirectoryName id.generationName = some id := by
  unfold idOf
  rw [stripPrefix_generationName hid, CacheId.reference_eq]
  exact CacheId.fromReference_reference hid

/-- The name of a generation tells its id. -/
theorem Generation.idOf_eq_some {e : String × Node} (h : Generation env taskName e)
    (hidOf : idOf taskName e.1 = some id) :
    id.Valid ∧ taskName = id.taskDirectoryName ∧ e.1 = id.generationName := by
  cases h with
  | temporary uuid h =>
    rw [idOf_temporary] at hidOf
    cases hidOf
  | final bundle hid htask h =>
    rw [htask, idOf_final hid] at hidOf
    cases hidOf
    exact ⟨hid, htask, rfl⟩

theorem scanGeneration_ok {identity : Nat} {scan : CacheScan} {e : String × Node}
    (h : Generation env taskName e)
    (hfresh : ∀ id, idOf taskName e.1 = some id → id ∉ scan.finalized)
    (hbound : scan.audit.encryptedBytes + generationBytes e.2 ≤ u64Max) :
    scanGeneration env taskName identity scan e = .ok (note taskName identity scan e) := by
  obtain ⟨i, es, hnode⟩ := h.isDirectory
  have hopen : openDirectory e.2 = .ok e.2 := by rw [hnode, openDirectory_private]
  have hvalid : validateDirectory e.2 = .ok () := by rw [hnode, validateDirectory_private]
  unfold scanGeneration
  rw [hopen]
  simp only [Except.mapError, ok_bind, hvalid]
  cases h with
  | temporary uuid h =>
    have hbytes := inspectTemporaryDirectory_ok h (Nat.le_trans (Nat.le_add_left _ _) hbound)
    have hsum := addBytes_ok hbound
    simp only [note, stripPrefix_append, uuid.parses, ensure_true, ok_bind, hbytes, hsum]
    rfl
  | @final id' bundle node hid htask h =>
    have hidOf : idOf taskName id'.generationName = some id' := htask ▸ idOf_final hid
    have hcontains : scan.finalized.contains id' = false := by simpa using hfresh id' hidOf
    have hsum := addBytes_ok hbound
    unfold idOf at hidOf
    rw [stripPrefix_generationName hid] at hidOf
    have href : CacheId.fromReference (taskName ++ "/" ++ id'.generationName) = some id' := hidOf
    simp only [note, stripPrefix_generationName hid, href, inspectFinalDirectory_final h,
      hcontains, ok_bind, hsum]
    rfl

/-- The loop over a task's generations. -/
theorem scanGenerations_ok (identity : Nat) (scan : CacheScan) {gens : List (String × Node)}
    (hdistinct : (names gens).Nodup)
    (hgens : ∀ e ∈ gens, Generation env taskName e)
    (hfresh : ∀ e ∈ gens, ∀ id, idOf taskName e.1 = some id → id ∉ scan.finalized)
    (hbound : scan.audit.encryptedBytes + total (fun e => generationBytes e.2) gens ≤ u64Max) :
    gens.foldlM (scanGeneration env taskName identity) scan =
      .ok (gens.foldl (note taskName identity) scan) := by
  refine foldlM_ok fun done e rest heq => ?_
  have he : e ∈ gens := by rw [heq]; simp
  refine scanGeneration_ok (hgens e he) (fun id hidOf hmem => ?_) ?_
  · rw [foldl_note_finalized, List.mem_append] at hmem
    rcases hmem with hmem | hmem
    · exact hfresh e he id hidOf hmem
    · obtain ⟨e', he', hidOf'⟩ := List.mem_filterMap.1 hmem
      have hname := ((hgens e he).idOf_eq_some hidOf).2.2
      have hname' := ((hgens e' (by rw [heq]; simp [he'])).idOf_eq_some hidOf').2.2
      rw [heq] at hdistinct
      simp only [names, List.map_append, List.map_cons] at hdistinct
      have hin : e.1 ∈ names done := by
        rw [hname, ← hname']
        exact mem_names_of_mem he'
      exact (List.disjoint_of_nodup_append hdistinct hin) List.mem_cons_self
  · rw [foldl_note_bytes]
    rw [heq, total_append, total_cons] at hbound
    omega

theorem mem_finalizedOf {e : String × Node} (h : TaskDirectory env e.1 e.2) (hid : id ∈ finalizedOf e) :
    id.Valid ∧ e.1 = id.taskDirectoryName ∧ ∃ g ∈ e.2.entries, g.1 = id.generationName := by
  unfold finalizedOf at hid
  split at hid
  · obtain ⟨g, hg, hidOf⟩ := List.mem_filterMap.1 hid
    obtain ⟨identity, gens, hnode, _, hgens⟩ := h
    have hg' : g ∈ gens := by
      rw [hnode] at hg
      exact hg
    obtain ⟨hvalid, htask, hname⟩ := (hgens g hg').idOf_eq_some hidOf
    exact ⟨hvalid, htask, g, hg, hname⟩
  · cases hid

theorem finalizedOf_lock (node : Node) : finalizedOf (cacheLockFile, node) = [] := rfl

theorem finalizedOf_marker (node : Node) : finalizedOf (keyMarkerFile, node) = [] := by
  simp [finalizedOf, isTask]

theorem RootEntry.taskDirectoryName {e : String × Node} (h : RootEntry env e) (hid : id ∈ finalizedOf e) :
    id.Valid ∧ e.1 = id.taskDirectoryName ∧ ∃ g ∈ e.2.entries, g.1 = id.generationName := by
  cases h with
  | lock bytes =>
    rw [finalizedOf_lock] at hid
    cases hid
  | marker bytes =>
    rw [finalizedOf_marker] at hid
    cases hid
  | task hname h => exact mem_finalizedOf h hid

theorem scanTask_ok {scan : CacheScan} {e : String × Node} (h : RootEntry env e)
    (hnew : entry scan.taskIdentities e.1 = none) (hfresh : ∀ id ∈ finalizedOf e, id ∉ scan.finalized)
    (hbound : scan.audit.encryptedBytes + entryBytes e ≤ u64Max) :
    scanTask env scan e = .ok (noteTask scan e) := by
  unfold scanTask noteTask
  cases h with
  | lock bytes =>
    rw [if_pos rfl, if_pos rfl, openNode_private]
    simp
  | marker bytes =>
    have hne : keyMarkerFile ≠ cacheLockFile := by decide
    have hsum : addBytes scan.audit.encryptedBytes (Node.file fileMode bytes).size = _ := addBytes_ok (by
      simpa [entryBytes, hne] using hbound)
    rw [if_neg hne, if_neg hne, if_pos rfl, if_pos rfl, openNode_private]
    simp only [orIo_ok, ok_bind, validateFile_private, hsum]
    rfl
  | @task name node hname h =>
    have hlock := ne_lock hname
    have hmarker := ne_marker hname
    obtain ⟨identity, gens, rfl, hdistinct, hgens⟩ := h
    have hisTask : isTask (name, Node.dir identity dirMode gens) = true := by simp [isTask, hlock, hmarker]
    have hbytes :
      entryBytes (name, Node.dir identity dirMode gens) = total (fun e => generationBytes e.2) gens := by
      unfold entryBytes
      rw [if_neg hlock, if_neg hmarker]
      rfl
    have hloop := scanGenerations_ok identity
      { scan with taskIdentities := put scan.taskIdentities name (some identity) } hdistinct hgens
      (fun g hg id hidOf => hfresh id (by
        unfold finalizedOf
        rw [if_pos hisTask]
        exact List.mem_filterMap.2 ⟨g, hg, hidOf⟩)) (hbytes ▸ hbound)
    rw [if_neg hlock, if_neg hlock, if_neg hmarker, if_neg hmarker]
    simp only [hname, ensure_true, ok_bind, openDirectory_private,
      Except.mapError, validateDirectory_private, hnew,
      readdir_private, orIo_ok]
    exact hloop

/-- The scanner accepts a sound tree and reports what is in it. -/
theorem scan_sound (h : Sound env root) : scanUnlocked env root = .ok (inventory root) := by
  obtain ⟨identity, es, hroot⟩ := h.directory
  have hes : root.entries = es := by rw [hroot]; rfl
  have hvalid : validateDirectory root = .ok () := by rw [hroot, validateDirectory_private]
  have hread : readdir root = .ok root.entries := by rw [hes, hroot, readdir_private]
  unfold scanUnlocked
  rw [hvalid, ok_bind, hread, orIo_ok, ok_bind]
  refine foldlM_ok fun done e rest heq => ?_
  have hdistinct := h.distinct
  have he := h.entries e (by rw [heq]; simp)
  rw [heq] at hdistinct
  simp only [names, List.map_append, List.map_cons] at hdistinct
  have hnotin : e.1 ∉ names done :=
    fun hin => (List.disjoint_of_nodup_append hdistinct hin) List.mem_cons_self
  refine scanTask_ok he ?_ (fun id hid hmem => ?_) ?_
  · have hdone : (names done).Nodup := (List.nodup_append.1 hdistinct).1
    rw [foldl_noteTask_identities hdone, if_neg]
    · rfl
    · rintro ⟨e', he', _, hname⟩
      exact hnotin (hname ▸ mem_names_of_mem he')
  · rw [foldl_noteTask_finalized, List.nil_append] at hmem
    obtain ⟨e', he', hid'⟩ := List.mem_flatMap.1 hmem
    have hname := (he.taskDirectoryName hid).2.1
    have hname' := ((h.entries e' (by rw [heq]; simp [he'])).taskDirectoryName hid').2.1
    rw [hname, ← hname'] at hnotin
    exact hnotin (mem_names_of_mem he')
  · have hbound := h.bounded
    unfold rootBytes at hbound
    rw [heq, total_append, total_cons] at hbound
    rw [foldl_noteTask_bytes]
    show 0 + total entryBytes done + entryBytes e ≤ u64Max
    omega

/-! ## What a path of a sound tree leads to -/

variable {t g : String}

theorem Sound.find_task (h : Sound env root) (hname : isTaskHash t.toList = true)
    (hfind : root.find [t] = some node) :
    TaskDirectory env t node := by
  rw [Node.find_singleton] at hfind
  have hentry := h.entries _ (mem_of_entry hfind)
  cases hentry with
  | lock bytes =>
    rw [isTaskHash_lock] at hname
    cases hname
  | marker bytes =>
    rw [isTaskHash_marker] at hname
    cases hname
  | task _ h => exact h

theorem Sound.find_generation (h : Sound env root) (hfind : root.find [t, g] = some node) :
    isTaskHash t.toList = true ∧
    (∃ identity gens, root.find [t] = some (.dir identity dirMode gens) ∧ (g, node) ∈ gens) ∧
      Generation env t (g, node) := by
  rw [Node.find_pair] at hfind
  obtain ⟨task, htask, hgen⟩ := Option.bind_eq_some_iff.1 hfind
  rw [Node.find_singleton] at htask hgen
  have hentry := h.entries _ (mem_of_entry htask)
  have hmem := mem_of_entry hgen
  cases hentry with
  | lock bytes => cases hmem
  | marker bytes => cases hmem
  | task hname htd =>
    obtain ⟨identity, gens, rfl, _, hgens⟩ := htd
    refine ⟨hname, ⟨identity, gens, ?_, hmem⟩, hgens _ hmem⟩
    rw [Node.find_singleton]
    exact htask

theorem Sound.mem_of_find (h : Sound env root) (hfind : root.find [t, g] = some node) :
    ∃ e ∈ root.entries, isTask e = true ∧ e.1 = t ∧ root.find [t] = some e.2 ∧ (g, node) ∈ e.2.entries := by
  obtain ⟨hname, ⟨identity, gens, htask, hmem⟩, _⟩ := h.find_generation hfind
  rw [Node.find_singleton] at htask
  refine ⟨_, mem_of_entry htask, ?_, rfl, ?_, hmem⟩
  · simp [isTask, ne_lock hname, ne_marker hname]
  · rw [Node.find_singleton]
    exact htask

theorem Sound.find_of_mem (h : Sound env root) {e gen : String × Node} (he : e ∈ root.entries)
    (hgen : gen ∈ e.2.entries) :
    root.find [e.1] = some e.2 ∧ root.find [e.1, gen.1] = some gen.2 ∧ Generation env e.1 gen := by
  have htask : root.find [e.1] = some e.2 := by
    rw [Node.find_singleton]
    exact entry_of_mem h.distinct he
  have hentry := h.entries e he
  cases hentry with
  | lock bytes => cases hgen
  | marker bytes => cases hgen
  | task hname htd =>
    obtain ⟨identity, gens, rfl, hdistinct, hgens⟩ := htd
    refine ⟨htask, ?_, hgens _ hgen⟩
    rw [Node.find_pair, htask, Option.bind_some, Node.find_singleton]
    exact entry_of_mem hdistinct hgen

/-- A generation is final when its directory is there. -/
theorem mem_finalized (h : Sound env root) : id ∈ (inventory root).finalized ↔
    id.Valid ∧ ∃ node, root.find [id.taskDirectoryName, id.generationName] = some node := by
  rw [inventory_finalized, List.mem_flatMap]
  constructor
  · rintro ⟨e, he, hid⟩
    obtain ⟨hvalid, htask, gen, hgen, hname⟩ := (h.entries e he).taskDirectoryName hid
    refine ⟨hvalid, gen.2, ?_⟩
    rw [← htask, ← hname]
    exact (h.find_of_mem he hgen).2.1
  · rintro ⟨hvalid, node, hfind⟩
    obtain ⟨e, he, htask, hname, _, hmem⟩ := h.mem_of_find hfind
    refine ⟨e, he, ?_⟩
    unfold finalizedOf
    rw [if_pos htask]
    refine List.mem_filterMap.2 ⟨_, hmem, ?_⟩
    rw [hname]
    exact idOf_final hvalid

theorem Generation.final_of_name {e : String × Node} (h : Generation env t e) (hid : id.Valid)
    (htask : t = id.taskDirectoryName) (hname : e.1 = id.generationName) :
    ∃ bundle, FinalDirectory env id bundle e.2 := by
  cases h with
  | temporary uuid _ =>
    have hnone := stripPrefix_generationName hid
    rw [← hname, stripPrefix_append] at hnone
    cases hnone
  | final bundle hid' htask' hfinal =>
    rw [CacheId.eq_of_names hid hid' (htask.symm.trans htask') hname.symm]
    exact ⟨bundle, hfinal⟩

theorem Sound.final (h : Sound env root) (hid : id.Valid)
    (hfind : root.find [id.taskDirectoryName, id.generationName] = some node) :
    ∃ bundle, FinalDirectory env id bundle node :=
  (h.find_generation hfind).2.2.final_of_name hid rfl rfl

theorem mem_temporaryOf {identity : Nat} {x : TemporaryGeneration} (h : temporaryOf t identity g = some x) :
    x = ⟨t, g, identity⟩ ∧ ∃ text, stripPrefix tempPrefix g = some text := by
  obtain ⟨text, htext, rfl⟩ := Option.map_eq_some_iff.1 h
  exact ⟨rfl, text, htext⟩

/-- A temporary generation is one whose directory has a temporary name. -/
theorem mem_temporaries (h : Sound env root) {x : TemporaryGeneration} : x ∈ (inventory root).temporaries ↔
    (∃ text, stripPrefix tempPrefix x.temporaryName = some text) ∧
      (∃ node, root.find [x.taskName, x.temporaryName] = some node) ∧
      (root.find [x.taskName]).map Node.identity = some x.taskIdentity := by
  rw [inventory_temporaries, List.mem_flatMap]
  constructor
  · rintro ⟨e, he, hx⟩
    unfold temporariesOf at hx
    split at hx
    · obtain ⟨gen, hgen, hx⟩ := List.mem_filterMap.1 hx
      obtain ⟨rfl, htext⟩ := mem_temporaryOf hx
      obtain ⟨htask, hfind, _⟩ := h.find_of_mem he hgen
      refine ⟨htext, ⟨_, hfind⟩, ?_⟩
      rw [htask]
      rfl
    · cases hx
  · rintro ⟨⟨text, htext⟩, ⟨node, hfind⟩, hidentity⟩
    obtain ⟨e, he, hisTask, hname, hfindTask, hmem⟩ := h.mem_of_find hfind
    refine ⟨e, he, ?_⟩
    unfold temporariesOf
    rw [if_pos hisTask]
    refine List.mem_filterMap.2 ⟨_, hmem, ?_⟩
    rw [hfindTask] at hidentity
    obtain ⟨taskName, temporaryName, taskIdentity⟩ := x
    dsimp only at hname hidentity htext ⊢
    rw [temporaryOf, htext, hname, Option.some.inj hidentity]
    rfl

theorem temporariesOf_eq (e : String × Node) : temporariesOf e =
    if isTask e then (names e.2.entries).filterMap (temporaryOf e.1 e.2.identity) else [] := by
  unfold temporariesOf names
  rw [List.filterMap_map]
  rfl

theorem mem_temporariesOf {e : String × Node} {x : TemporaryGeneration} (h : x ∈ temporariesOf e) :
    x.taskName = e.1 := by
  rw [temporariesOf_eq] at h
  split at h
  · obtain ⟨name, _, hx⟩ := List.mem_filterMap.1 h
    rw [(mem_temporaryOf hx).1]
  · cases h

theorem Sound.nodup_generations (h : Sound env root) {e : String × Node} (he : e ∈ root.entries) :
    (names e.2.entries).Nodup := by
  cases h.entries e he with
  | lock bytes => exact List.nodup_nil
  | marker bytes => exact List.nodup_nil
  | task _ htd =>
    obtain ⟨identity, gens, rfl, hdistinct, _⟩ := htd
    exact hdistinct

theorem nodup_temporaries (h : Sound env root) : (inventory root).temporaries.Nodup := by
  rw [inventory_temporaries, List.nodup_flatMap]
  constructor
  · intro e he
    rw [temporariesOf_eq]
    split
    · refine (h.nodup_generations he).filterMap fun a a' x hx hx' => ?_
      have hname := congrArg TemporaryGeneration.temporaryName (mem_temporaryOf (Option.mem_def.1 hx)).1
      have hname' := congrArg TemporaryGeneration.temporaryName (mem_temporaryOf (Option.mem_def.1 hx')).1
      exact hname.symm.trans hname'
    · exact List.nodup_nil
  · have hdistinct : root.entries.Pairwise fun e e' => e.1 ≠ e'.1 := List.pairwise_map.1 h.distinct
    refine hdistinct.imp fun {e e'} hne x hx hx' => ?_
    exact hne ((mem_temporariesOf hx).symm.trans (mem_temporariesOf hx'))

theorem nodup_finalized (h : Sound env root) : (inventory root).finalized.Nodup := by
  rw [inventory_finalized, List.nodup_flatMap]
  constructor
  · intro e he
    unfold finalizedOf
    split
    · refine List.pairwise_filterMap.2 ?_
      have hdistinct : e.2.entries.Pairwise fun g g' => g.1 ≠ g'.1 :=
        List.pairwise_map.1 (h.nodup_generations he)
      refine hdistinct.imp_of_mem fun {g g'} hg hg' hne id hid id' hid' heq => ?_
      have hname := ((h.find_of_mem he hg).2.2.idOf_eq_some hid).2.2
      have hname' := ((h.find_of_mem he hg').2.2.idOf_eq_some hid').2.2
      exact hne (by rw [hname, hname', heq])
    · exact List.nodup_nil
  · have hdistinct : root.entries.Pairwise fun e e' => e.1 ≠ e'.1 := List.pairwise_map.1 h.distinct
    refine hdistinct.imp_of_mem fun {e e'} he he' hne id hid hid' => ?_
    have hname := ((h.entries e he).taskDirectoryName hid).2.1
    have hname' := ((h.entries e' he').taskDirectoryName hid').2.1
    exact hne (hname.trans hname'.symm)

theorem entry_taskIdentities (h : Sound env root) (hname : isTaskHash t.toList = true) :
    entry (inventory root).taskIdentities t = (root.find [t]).map Node.identity := by
  unfold inventory
  rw [foldl_noteTask_identities h.distinct, Node.find_singleton]
  split
  · rfl
  · rename_i hnone
    cases hentry : entry root.entries t with
    | none => rfl
    | some node =>
      refine absurd ⟨_, mem_of_entry hentry, ?_, rfl⟩ hnone
      simp [isTask, ne_lock hname, ne_marker hname]

end CodexKeyboard.Cache
