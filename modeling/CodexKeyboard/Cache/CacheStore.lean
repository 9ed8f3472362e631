import CodexKeyboard.Cache.Objects
import CodexKeyboard.Lib.FileSystem
/-!
# The cache of summaries

`CacheStore` (`src/app/host/src/cache.rs:231-785`, directory helpers at 1287-1398). A cache is a
directory tree: the root holds the lock, the key marker and one directory for each task; a task's
directory holds its generations, under their number when they are final and under `.tmp-` and a UUID
before they are and once they are being removed.

The functions run under the gate and the process lock, so nothing else changes the tree between two
of their calls. What only reads is a function of the tree (`inspect`); each call that changes it is
a step before which the process may die.

| here | there |
| --- | --- |
| `CacheLimits`, `CacheAudit`, `CleanupReport`, `CacheScan` | structures of the same names (cache.rs:202-228, 783) |
| `validateDirectory`, `validateFile`, `validateIdentity` | cache.rs:1366-1397 |
| `inspectFinalDirectory`, `inspectTemporaryDirectory` | cache.rs:1306, 1336 |
| `scanUnlocked` | `CacheStore::scan_unlocked` (cache.rs:629) |
| `readObject`, `readUnlocked` | `read_object` (cache.rs:599), `read_unlocked` (cache.rs:410) |
| `createDirectoryAt`, `openOrCreateDirectoryAt` | cache.rs:1163, 1150 |
| `writeObject`, `publishObserved` | `write_object` (cache.rs:572), `publish_observed` (cache.rs:499) |
| `publishOrVerifyUnlocked` | `publish_or_verify_unlocked` (cache.rs:360) |
| `removeFlatDirectoryAt`, `removeTemporary`, `removeOrphanAtomically` | cache.rs:1277, 737, 714 |
| `reconcileUnlocked` | `reconcile_unlocked` (cache.rs:463) |
| `Uuid` | the text of `uuid::Uuid::new_v4()`, which `Uuid::parse_str` accepts |

All entries belong to the user, names are UTF-8, and the numbers of entries fit in a `usize`.
-/

namespace CodexKeyboard.Cache

open Lib Proc Fs

/-- `CacheLimits` (cache.rs:202). -/
structure CacheLimits where
  maxTotalBytes : Nat
  maxGenerations : Nat
  total_le : maxTotalBytes ≤ u64Max

structure CacheAudit where
  finalizedGenerations : Nat
  temporaryGenerations : Nat
  encryptedBytes : Nat
deriving DecidableEq, Repr

structure CleanupReport where
  temporaryGenerationsRemoved : Nat
  orphanGenerationsRemoved : Nat
  encryptedBytesRemaining : Nat
deriving DecidableEq, Repr

structure TemporaryGeneration where
  taskName : String
  temporaryName : String
  taskIdentity : Nat
deriving DecidableEq, Repr

/-- `CacheScan` (cache.rs:781); the set `finalized` without duplicates. -/
structure CacheScan where
  audit : CacheAudit
  finalized : List CacheId
  temporaries : List TemporaryGeneration
  taskIdentities : List (String × Nat)
deriving DecidableEq, Repr

/-- What a cache was opened with, and the crates it calls. -/
structure CacheEnv where
  crypto : Crypto
  key : List UInt8
  limits : CacheLimits
  parseUuid : String → Bool

/-- The text of a fresh UUID. -/
structure Uuid (env : CacheEnv) where
  text : String
  parses : env.parseUuid text = true

/-- `0o700`. -/
def dirMode : Mode := 0o700

/-- `0o600`. -/
def fileMode : Mode := 0o600

def tempPrefix : String := ".tmp-"
def cacheLockFile : String := ".cache.lock"
def keyMarkerFile : String := ".key-check.enc"

/-- `str::strip_prefix`. -/
def stripPrefix (start name : String) : Option String :=
  if start.toList <+: name.toList then some (String.ofList (name.toList.drop start.toList.length)) else none

/-- `?` on an I/O result. -/
def orIo {α : Type} (x : Except FileError α) : Except CacheError α := x.mapError fun _ => .io

def validateDirectory (node : Node) : Except CacheError Unit :=
  ensure (node.isDir && node.mode == dirMode) .corrupt

def validateFile (node : Node) : Except CacheError Unit :=
  ensure (node.isFile && node.mode == fileMode) .corrupt

def validateIdentity (node : Node) (expected : Nat) : Except CacheError Unit := do
  validateDirectory node
  ensure (node.identity == expected) .corrupt

/-- `checked_add` with the error of a full cache. -/
def addBytes (a b : Nat) : Except CacheError Nat :=
  match checkedAdd a b with
  | some total => .ok total
  | none => .error .capacityExceeded

/-! ## Scanning -/

/-- The kind of an object by the name of its file. -/
def kindOf (name : String) : Option ObjectKind := ObjectKind.all.find? fun kind => kind.fileName == name

/-- One turn of the loop of `inspect_final_directory`. -/
def inspectFinalEntry (sizes : List (ObjectKind × Nat)) (e : String × Node) :
    Except CacheError (List (ObjectKind × Nat)) := do
  match kindOf e.1 with
  | none => throw .corrupt
  | some kind =>
    let file ← orIo (openNode e.2)
    validateFile file
    ensure (headerBytes + tagBytes ≤ file.size ∧
      file.size ≤ kind.maxPlaintextBytes + headerBytes + tagBytes) .corrupt
    ensure (entry sizes kind).isNone .corrupt
    return put sizes kind (some file.size)

def inspectFinalDirectory (directory : Node) : Except CacheError Nat := do
  let es ← orIo (readdir directory)
  let sizes ← es.foldlM inspectFinalEntry []
  ensure (sizes.length = ObjectKind.all.length) .corrupt
  sizes.foldlM (fun total e => addBytes total e.2) 0

/-- One turn of the loop of `inspect_temporary_directory`: the sum and the names so far. -/
def inspectTemporaryEntry (seen : Nat × List String) (e : String × Node) :
    Except CacheError (Nat × List String) := do
  match kindOf e.1 with
  | none => throw .corrupt
  | some kind =>
    ensure (!seen.2.contains e.1) .corrupt
    let file ← orIo (openNode e.2)
    validateFile file
    ensure (file.size ≤ kind.maxPlaintextBytes + headerBytes + tagBytes) .capacityExceeded
    let total ← addBytes seen.1 file.size
    return (total, e.1 :: seen.2)

def inspectTemporaryDirectory (directory : Node) : Except CacheError Nat := do
  let es ← orIo (readdir directory)
  let seen ← es.foldlM inspectTemporaryEntry (0, [])
  return seen.1

/-- One turn of the inner loop of `scan_unlocked`. -/
def scanGeneration (env : CacheEnv) (taskName : String) (identity : Nat) (scan : CacheScan)
    (e : String × Node) :
    Except CacheError CacheScan := do
  let generation ← (openDirectory e.2).mapError fun _ => CacheError.corrupt
  validateDirectory generation
  match stripPrefix tempPrefix e.1 with
  | some uuid =>
    ensure (env.parseUuid uuid) .corrupt
    let bytes ← inspectTemporaryDirectory generation
    let total ← addBytes scan.audit.encryptedBytes bytes
    return { scan with
      audit :=
        { scan.audit with temporaryGenerations := scan.audit.temporaryGenerations + 1, encryptedBytes := total }
      temporaries := scan.temporaries ++ [⟨taskName, e.1, identity⟩] }
  | none =>
    match CacheId.fromReference (taskName ++ "/" ++ e.1) with
    | none => throw .corrupt
    | some id =>
      let bytes ← inspectFinalDirectory generation
      ensure (!scan.finalized.contains id) .corrupt
      let total ← addBytes scan.audit.encryptedBytes bytes
      return { scan with
        audit :=
          { scan.audit with finalizedGenerations := scan.audit.finalizedGenerations + 1, encryptedBytes := total }
        finalized := scan.finalized ++ [id] }

/-- One turn of the outer loop of `scan_unlocked`. -/
def scanTask (env : CacheEnv) (scan : CacheScan) (e : String × Node) : Except CacheError CacheScan := do
  if e.1 = cacheLockFile then
    let file ← orIo (openNode e.2)
    validateFile file
    return scan
  else if e.1 = keyMarkerFile then
    let file ← orIo (openNode e.2)
    validateFile file
    let total ← addBytes scan.audit.encryptedBytes file.size
    return { scan with audit := { scan.audit with encryptedBytes := total } }
  else
    ensure (isTaskHash e.1.toList) .corrupt
    let task ← (openDirectory e.2).mapError fun _ => CacheError.corrupt
    validateDirectory task
    ensure (entry scan.taskIdentities e.1).isNone .corrupt
    let generations ← orIo (readdir task)
    generations.foldlM (scanGeneration env e.1 task.identity)
      { scan with taskIdentities := put scan.taskIdentities e.1 (some task.identity) }

def scanUnlocked (env : CacheEnv) (root : Node) : Except CacheError CacheScan := do
  validateDirectory root
  let es ← orIo (readdir root)
  es.foldlM (scanTask env) ⟨⟨0, 0, 0⟩, [], [], []⟩

/-! ## Reading -/

/-- `?` where a missing entry is a missing object. -/
def orMissing {α : Type} (x : Except FileError α) : Except CacheError α :=
  x.mapError fun e => if e = .notFound then .missingObject else .io

def readObject (env : CacheEnv) (directory : Node) (id : CacheId) (kind : ObjectKind) :
    Except CacheError (List UInt8) := do
  let file ← orMissing (openAt [] kind.fileName directory)
  validateFile file
  ensure (file.size ≤ kind.maxPlaintextBytes + headerBytes + tagBytes) .objectTooLarge
  match file with
  | .file _ bytes => decryptObject env.crypto env.key id kind bytes
  | _ => throw .corrupt

def readUnlocked (env : CacheEnv) (root : Node) (id : CacheId) : Except CacheError CacheBundle := do
  let task ← orMissing (openDirectoryAt [] id.taskDirectoryName root)
  let directory ← orMissing (openDirectoryAt [] id.generationName task)
  let manifestJson ← readObject env directory id .manifest
  let qwenWav ← readObject env directory id .qwenWav
  let deviceEiad ← readObject env directory id .deviceEiad
  let _ ← inspectFinalDirectory directory
  return ⟨manifestJson, qwenWav, deviceEiad⟩

/-! ## Writing -/

/-- A procedure on the tree of the cache. -/
abbrev Op (α : Type) : Type := Fallible CacheError Node α

/-- Look at the tree as it is. -/
def inspect {α : Type} (f : Node → Except CacheError α) : Op α :=
  ExceptT.mk (act fun root => (f root, root))

/-- A changing call whose error is an I/O error. -/
def sys (x : Fallible FileError Node Unit) : Op Unit := ExceptT.adapt (fun _ => .io) x

/-- `let _ = …` and the look at a result before it is returned. -/
def attempt {α : Type} (x : Op α) : Op (Except CacheError α) := ExceptT.lift x.run

def createDirectoryAt (umask : Mode) (identity : Nat) (path : List String) (name : String) : Op Unit := do
  sys (call (mkdirAt umask identity path name dirMode))
  match ← attempt (sys (call (chmodAt path name dirMode))) with
  | .error e =>
    let _ ← attempt (sys (call (rmdirAt path name)))
    throw e
  | .ok () =>
    let _ ← inspect fun root => orIo (openDirectoryAt path name root)
    sys (call (fchmod (path ++ [name]) dirMode))
    inspect fun root => do validateDirectory (← orIo (openDirectoryAt path name root))

/-- Whether the directory was created. -/
def openOrCreateDirectoryAt (umask : Mode) (identity : Nat) (path : List String) (name : String) :
    Op Bool := do
  match ← inspect fun root => .ok (openDirectoryAt path name root) with
  | .ok directory =>
    inspect fun _ => validateDirectory directory
    return false
  | .error .notFound =>
    createDirectoryAt umask identity path name
    return true
  | .error _ => throw .io

/-- What the operating system draws for one publication. -/
structure PublishDraws (env : CacheEnv) where
  uuid : Uuid env
  taskIdentity : Nat
  temporaryIdentity : Nat
  entropy : ObjectKind → Entropy

inductive PublishCheckpoint where
  | manifestSynced
  | qwenWavSynced
  | deviceEiadSynced
  | temporaryDirectorySynced
  | renamed
  | parentDirectorySynced
deriving DecidableEq, Repr

def writeObject (env : CacheEnv) (umask : Mode) (entropy : Entropy) (path : List String)
    (id : CacheId) (kind : ObjectKind)
    (plaintext : List UInt8) : Op Unit := do
  let encrypted ← inspect fun _ => encryptObject env.crypto env.key entropy id kind plaintext
  sys (call (createAt umask path kind.fileName fileMode))
  sys (call (fchmod (path ++ [kind.fileName]) fileMode))
  sys (writeAll (path ++ [kind.fileName]) encrypted)
  sys (call fsync)

/-- Remove a directory of files. -/
def removeFlatDirectoryAt (path : List String) (name : String) : Op Unit := do
  let directory ← inspect fun root => orIo (openDirectoryAt path name root)
  let children ← inspect fun _ => orIo (readdir directory)
  children.forM fun child => do
    let metadata ← inspect fun root => orIo (statAt (path ++ [name]) child.1 root)
    inspect fun _ => ensure metadata.isFile .corrupt
    sys (call (unlinkAt (path ++ [name]) child.1))
  sys (call fsync)
  sys (call (rmdirAt path name))

/-- `rename_noreplace` within a task's directory. -/
def renameNoreplace (path : List String) (old new : String) : Op Unit :=
  ExceptT.adapt (fun e => if e = .alreadyExists then .alreadyPublished else .io)
    (call (renameAt path old new))

def fits (env : CacheEnv) (current : CacheAudit) (predictedBytes : Nat) : Bool :=
  current.finalizedGenerations < env.limits.maxGenerations &&
    (checkedAdd current.encryptedBytes predictedBytes).any fun total => total ≤ env.limits.maxTotalBytes

/-- The part of `publish_observed` up to the rename. -/
def writeGeneration (env : CacheEnv) (umask : Mode) (draws : PublishDraws env) (id : CacheId)
    (bundle : CacheBundle)
    (checkpoint : PublishCheckpoint → Except CacheError Unit) : Op Unit := do
  let temporary := [id.taskDirectoryName, tempPrefix ++ draws.uuid.text]
  writeObject env umask (draws.entropy .manifest) temporary id .manifest bundle.manifestJson
  inspect fun _ => checkpoint .manifestSynced
  writeObject env umask (draws.entropy .qwenWav) temporary id .qwenWav bundle.qwenWav
  inspect fun _ => checkpoint .qwenWavSynced
  writeObject env umask (draws.entropy .deviceEiad) temporary id .deviceEiad bundle.deviceEiad
  inspect fun _ => checkpoint .deviceEiadSynced
  sys (call fsync)
  inspect fun _ => checkpoint .temporaryDirectorySynced
  renameNoreplace [id.taskDirectoryName] (tempPrefix ++ draws.uuid.text) id.generationName

def publishObserved (env : CacheEnv) (umask : Mode) (draws : PublishDraws env) (id : CacheId)
    (bundle : CacheBundle)
    (cleanupOnError : Bool) (checkpoint : PublishCheckpoint → Except CacheError Unit) : Op Unit := do
  inspect fun _ => validateBundle bundle
  let predictedBytes ← inspect fun _ => encodedBundleBytes bundle
  let current ← inspect fun root => scanUnlocked env root
  inspect fun _ => ensure (fits env current.audit predictedBytes) .capacityExceeded
  let created ← openOrCreateDirectoryAt umask draws.taskIdentity [] id.taskDirectoryName
  if created then sys (call fsync)
  let there ← inspect fun root => .ok (statAt [id.taskDirectoryName] id.generationName root)
  match there with
  | .ok _ => throw .alreadyPublished
  | .error .notFound =>
    createDirectoryAt umask draws.temporaryIdentity [id.taskDirectoryName] (tempPrefix ++ draws.uuid.text)
    match ← attempt (writeGeneration env umask draws id bundle checkpoint) with
    | .error e =>
      if cleanupOnError then
        let _ ← attempt (removeFlatDirectoryAt [id.taskDirectoryName] (tempPrefix ++ draws.uuid.text))
      throw e
    | .ok () =>
      inspect fun _ => checkpoint .renamed
      sys (call fsync)
      inspect fun _ => checkpoint .parentDirectorySynced
  | .error _ => throw .io

/-- The checkpoint of `publish`. -/
def noFault : PublishCheckpoint → Except CacheError Unit := fun _ => .ok ()

def publishOrVerifyUnlocked (env : CacheEnv) (umask : Mode) (draws : PublishDraws env) (id : CacheId)
    (bundle : CacheBundle) : Op Unit := do
  match ← inspect fun root => .ok (readUnlocked env root id) with
  | .ok existing => inspect fun _ => ensure (existing == bundle) .alreadyPublished
  | .error .missingObject =>
    publishObserved env umask draws id bundle true noFault
    let existing ← inspect fun root => readUnlocked env root id
    inspect fun _ => ensure (existing == bundle) .corrupt
  | .error e => throw e

/-! ## Removing -/

def removeOrphanAtomically (env : CacheEnv) (uuid : Uuid env) (id : CacheId)
    (expectedTaskIdentity : Nat) : Op Unit := do
  let task ← inspect fun root => orIo (openDirectoryAt [] id.taskDirectoryName root)
  inspect fun _ => validateIdentity task expectedTaskIdentity
  renameNoreplace [id.taskDirectoryName] id.generationName (tempPrefix ++ uuid.text)
  sys (call fsync)
  removeFlatDirectoryAt [id.taskDirectoryName] (tempPrefix ++ uuid.text)
  sys (call fsync)

def removeTemporary (temporary : TemporaryGeneration) : Op Unit := do
  let task ← inspect fun root => orIo (openDirectoryAt [] temporary.taskName root)
  inspect fun _ => validateIdentity task temporary.taskIdentity
  removeFlatDirectoryAt [temporary.taskName] temporary.temporaryName
  sys (call fsync)

def syncAllTaskDirectories : Op Unit := do
  let es ← inspect fun root => orIo (readdir root)
  es.forM fun e => do
    if isTaskHash e.1.toList then
      let _ ← inspect fun root => orIo (openDirectoryAt [] e.1 root)
      sys (call fsync)
  sys (call fsync)

/-- The ids of the references. -/
def parseReferences (references : List String) : Except CacheError (List CacheId) :=
  references.mapM fun reference =>
    match CacheId.fromReference reference with
    | some id => .ok id
    | none => .error .invalidReference

/-- `reconcile_unlocked`; `draws` are the names the orphans get. -/
def reconcileUnlocked (env : CacheEnv) (draws : CacheId → Uuid env) (references : List String) :
    Op CleanupReport := do
  let expected ← inspect fun _ => parseReferences references
  let scan ← inspect fun root => scanUnlocked env root
  inspect fun _ => ensure (expected.all scan.finalized.contains) .missingReference
  expected.forM fun id => do
    let _ ← inspect fun root => readUnlocked env root id
  scan.temporaries.forM removeTemporary
  let orphans := scan.finalized.filter fun id => !expected.contains id
  orphans.forM fun id => do
    match entry scan.taskIdentities id.taskDirectoryName with
    | none => throw .corrupt
    | some identity => removeOrphanAtomically env (draws id) id identity
  syncAllTaskDirectories
  let rest ← inspect fun root => scanUnlocked env root
  return ⟨scan.temporaries.length, orphans.length, rest.audit.encryptedBytes⟩

end CodexKeyboard.Cache
