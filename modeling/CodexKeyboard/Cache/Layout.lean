import CodexKeyboard.Cache.CacheStore
/-!
# What a cache looks like between two steps

`Sound`: the root holds the lock, the key marker and task directories; a task's directory holds
final generations, each with the three objects of a bundle, and temporary ones with any part of such
objects; everything has its mode, no name occurs twice, and the encrypted bytes fit in a `u64`.
`scan_sound`: the scanner accepts such a tree and reports exactly what is in it (`inventory`).
-/

namespace CodexKeyboard.Cache

open Lib Fs

/-! ## Objects and generations -/

/-- The file of an object that was written in full. -/
def Object (env : CacheEnv) (id : CacheId) (kind : ObjectKind) (plaintext : List UInt8)
    (node : Node) : Prop :=
  ∃ bytes, node = .file fileMode bytes ∧ plaintext.length ≤ kind.maxPlaintextBytes ∧
    bytes.length = headerBytes + tagBytes + plaintext.length ∧
    decryptObject env.crypto env.key id kind bytes = .ok plaintext

/-- The directory of a final generation. -/
def FinalDirectory (env : CacheEnv) (id : CacheId) (bundle : CacheBundle) (node : Node) : Prop :=
  ∃ identity manifest qwen device, node = .dir identity dirMode [(ObjectKind.manifest.fileName, manifest),
      (ObjectKind.qwenWav.fileName, qwen), (ObjectKind.deviceEiad.fileName, device)] ∧
    Object env id .manifest bundle.manifestJson manifest ∧ Object env id .qwenWav bundle.qwenWav qwen ∧
    Object env id .deviceEiad bundle.deviceEiad device

/-- A file of a temporary generation. -/
def PartialObject (e : String × Node) : Prop :=
  ∃ kind ∈ ObjectKind.all, e.1 = kind.fileName ∧
    ∃ bytes, e.2 = .file fileMode bytes ∧ bytes.length ≤ kind.maxPlaintextBytes + headerBytes + tagBytes

/-- The directory of a temporary generation. -/
def TemporaryDirectory (node : Node) : Prop :=
  ∃ identity files, node = .dir identity dirMode files ∧ (names files).Nodup ∧ ∀ e ∈ files, PartialObject e

/-- An entry of a task's directory. -/
inductive Generation (env : CacheEnv) (taskName : String) : String × Node → Prop
  | temporary (uuid : Uuid env) {node : Node} (h : TemporaryDirectory node) :
    Generation env taskName (tempPrefix ++ uuid.text, node)
  | final {id : CacheId} (bundle : CacheBundle) {node : Node} (hid : id.Valid)
    (htask : taskName = id.taskDirectoryName)
      (h : FinalDirectory env id bundle node) : Generation env taskName (id.generationName, node)

/-- A task's directory. -/
def TaskDirectory (env : CacheEnv) (taskName : String) (node : Node) : Prop :=
  ∃ identity generations, node = .dir identity dirMode generations ∧ (names generations).Nodup ∧
    ∀ e ∈ generations, Generation env taskName e

/-- An entry of the root. -/
inductive RootEntry (env : CacheEnv) : String × Node → Prop
  | lock (bytes : List UInt8) : RootEntry env (cacheLockFile, .file fileMode bytes)
  | marker (bytes : List UInt8) : RootEntry env (keyMarkerFile, .file fileMode bytes)
  | task {name : String} {node : Node} (hname : isTaskHash name.toList = true)
    (h : TaskDirectory env name node) :
      RootEntry env (name, node)

/-! ## Sizes -/

/-- The bytes of a generation. -/
def generationBytes (node : Node) : Nat := total (fun e => e.2.size) node.entries

/-- The bytes of a task's generations. -/
def taskBytes (node : Node) : Nat := total (fun e => generationBytes e.2) node.entries

/-- The bytes of an entry of the root that count as encrypted. -/
def entryBytes (e : String × Node) : Nat :=
  if e.1 = cacheLockFile then 0 else if e.1 = keyMarkerFile then e.2.size else taskBytes e.2

def rootBytes (root : Node) : Nat := total entryBytes root.entries

/-- A tree that the scanner accepts. -/
structure Sound (env : CacheEnv) (root : Node) : Prop where
  directory : ∃ identity es, root = .dir identity dirMode es
  distinct : (names root.entries).Nodup
  entries : ∀ e ∈ root.entries, RootEntry env e
  bounded : rootBytes root ≤ u64Max

/-! ## Names -/

theorem stripPrefix_append (start text : String) : stripPrefix start (start ++ text) = some text := by
  simp [stripPrefix]

theorem stripPrefix_generationName {id : CacheId} (h : id.Valid) :
    stripPrefix tempPrefix id.generationName = none := by
  obtain ⟨c, hc, hdigit⟩ := head_toDigits id.generation h.positive
  have hlist : id.generationName.toList = Nat.toDigits 10 id.generation := by simp [CacheId.generationName]
  unfold stripPrefix
  rw [hlist]
  refine if_neg fun ⟨rest, hrest⟩ => ?_
  rw [← hrest] at hc
  cases hc
  exact absurd hdigit (by decide)

theorem isTaskHash_lock : isTaskHash cacheLockFile.toList = false := by decide

theorem isTaskHash_marker : isTaskHash keyMarkerFile.toList = false := by decide

theorem ne_lock {name : String} (h : isTaskHash name.toList = true) : name ≠ cacheLockFile := by
  rintro rfl
  rw [isTaskHash_lock] at h
  cases h

theorem ne_marker {name : String} (h : isTaskHash name.toList = true) : name ≠ keyMarkerFile := by
  rintro rfl
  rw [isTaskHash_marker] at h
  cases h

theorem kindOf_fileName {kind : ObjectKind} (h : kind ∈ ObjectKind.all) :
    kindOf kind.fileName = some kind := by
  simp only [ObjectKind.all, List.mem_cons, List.not_mem_nil, or_false] at h
  rcases h with rfl | rfl | rfl <;> decide

/-! ## What the scanner reports -/

/-- The id a name in a task's directory stands for. -/
def idOf (taskName name : String) : Option CacheId :=
  match stripPrefix tempPrefix name with
  | some _ => none
  | none => CacheId.fromReference (taskName ++ "/" ++ name)

/-- What one turn of the inner loop adds. -/
def note (taskName : String) (identity : Nat) (scan : CacheScan) (e : String × Node) : CacheScan :=
  match stripPrefix tempPrefix e.1 with
  | some _ =>
    { scan with
      audit := { scan.audit with
        temporaryGenerations := scan.audit.temporaryGenerations + 1
        encryptedBytes := scan.audit.encryptedBytes + generationBytes e.2 }
      temporaries := scan.temporaries ++ [⟨taskName, e.1, identity⟩] }
  | none =>
    { scan with
      audit := { scan.audit with
        finalizedGenerations := scan.audit.finalizedGenerations + 1
        encryptedBytes := scan.audit.encryptedBytes + generationBytes e.2 }
      finalized := scan.finalized ++ (CacheId.fromReference (taskName ++ "/" ++ e.1)).toList }

/-- What one turn of the outer loop adds. -/
def noteTask (scan : CacheScan) (e : String × Node) : CacheScan :=
  if e.1 = cacheLockFile then scan
  else if e.1 = keyMarkerFile then
    { scan with audit := { scan.audit with encryptedBytes := scan.audit.encryptedBytes + e.2.size } }
  else
    e.2.entries.foldl (note e.1 e.2.identity)
      { scan with taskIdentities := put scan.taskIdentities e.1 (some e.2.identity) }

/-- What is in a cache. -/
def inventory (root : Node) : CacheScan := root.entries.foldl noteTask ⟨⟨0, 0, 0⟩, [], [], []⟩

end CodexKeyboard.Cache
