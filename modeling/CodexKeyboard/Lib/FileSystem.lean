import CodexKeyboard.Lib.FileTree
import CodexKeyboard.Lib.Procedure
import CodexKeyboard.Lib.Transaction
/-!
# File-system calls

The calls a process other than the superuser's makes on its own files. A call names a directory by
its path, which stands for an open descriptor, and an entry in it; it fails where the modes of the
directory or of the entry say so. The calls that read are functions of the tree. Those that change
it are functions to the new tree, and `call` is one of them as a step before which the process may
die: `write_all` is one step for each byte, so that a crash can leave any part of what was written.
-/

namespace Lib

open Proc

/-- Why a call failed. -/
inductive FileError where
  | notFound
  | alreadyExists
  | denied
  | otherKind
  | notEmpty
deriving DecidableEq, Repr

def ownerRead : Mode := 0o400
def ownerWrite : Mode := 0o200
def ownerSearch : Mode := 0o100

namespace Node

def mode : Node → Mode
  | .file m _ => m
  | .dir _ m _ => m
  | .symlink => 0o777

def withMode (mode : Mode) : Node → Node
  | .file _ bytes => .file mode bytes
  | .dir i _ es => .dir i mode es
  | .symlink => .symlink

def isDir : Node → Bool
  | .dir _ _ _ => true
  | _ => false

def isFile : Node → Bool
  | .file _ _ => true
  | _ => false

/-- The length of a file. -/
def size : Node → Nat
  | .file _ bytes => bytes.length
  | _ => 0

/-- The device and inode of a directory. -/
def identity : Node → Nat
  | .dir i _ _ => i
  | _ => 0

end Node

namespace Fs

/-! ## Reading -/

/-- The entries of a directory, for a call that needs the bits `need`. -/
def entriesAt (need : Mode) (path : List String) (root : Node) : Except FileError (List (String × Node)) :=
  match root.find path with
  | some (.dir _ m es) => if need &&& m = need then .ok es else .error .denied
  | some _ => .error .otherKind
  | none => .error .notFound

/-- `fstatat` with `AT_SYMLINK_NOFOLLOW`. -/
def statAt (path : List String) (name : String) (root : Node) : Except FileError Node := do
  let es ← entriesAt ownerSearch path root
  match entry es name with
  | some node => return node
  | none => throw .notFound

/-- Whether an entry opens with `O_RDONLY | O_NOFOLLOW`. -/
def openNode (node : Node) : Except FileError Node :=
  match node with
  | .symlink => .error .otherKind
  | node => if ownerRead &&& node.mode = ownerRead then .ok node else .error .denied

/-- `openat` with `O_RDONLY | O_NOFOLLOW`. -/
def openAt (path : List String) (name : String) (root : Node) : Except FileError Node := do
  openNode (← statAt path name root)

/-- Whether it opens with `O_DIRECTORY` as well. -/
def openDirectory (node : Node) : Except FileError Node := do
  let node ← openNode node
  ensure node.isDir .otherKind
  return node

/-- `openat` with `O_DIRECTORY`. -/
def openDirectoryAt (path : List String) (name : String) (root : Node) : Except FileError Node := do
  openDirectory (← statAt path name root)

/-- `readdir` until the end, with what each name stands for. -/
def readdir (directory : Node) : Except FileError (List (String × Node)) :=
  entriesAt (ownerRead ||| ownerSearch) [] directory

/-! ## Changing -/

/-- The answer of a changing call and the tree it leaves. -/
abbrev Change : Type := Node → Except FileError (Unit × Node)

/-- `mkdirat`; `identity` is the inode the new directory gets. -/
def mkdirAt (umask : Mode) (identity : Nat) (path : List String) (name : String)
    (mode : Mode) : Change := fun root => do
  let es ← entriesAt (ownerWrite ||| ownerSearch) path root
  ensure (entry es name).isNone .alreadyExists
  return ((), root.set (path ++ [name]) (some (.dir identity (mode &&& ~~~umask) [])))

/-- `openat` with `O_CREAT | O_EXCL | O_WRONLY`. -/
def createAt (umask : Mode) (path : List String) (name : String) (mode : Mode) : Change := fun root => do
  let es ← entriesAt (ownerWrite ||| ownerSearch) path root
  ensure (entry es name).isNone .alreadyExists
  return ((), root.set (path ++ [name]) (some (.file (mode &&& ~~~umask) [])))

/-- `fchmodat`. -/
def chmodAt (path : List String) (name : String) (mode : Mode) : Change := fun root => do
  let node ← statAt path name root
  return ((), root.set (path ++ [name]) (some (node.withMode mode)))

/-- `fchmod` on a descriptor. -/
def fchmod (path : List String) (mode : Mode) : Change := fun root =>
  match root.find path with
  | some node => .ok ((), root.set path (some (node.withMode mode)))
  | none => .error .notFound

/-- `write` of one byte at the end of a file that is open for writing. -/
def append (path : List String) (byte : UInt8) : Change := fun root =>
  match root.find path with
  | some (.file m bytes) => .ok ((), root.set path (some (.file m (bytes ++ [byte]))))
  | _ => .error .otherKind

/-- `fsync`. -/
def fsync : Change := fun root => .ok ((), root)

/-- `renameat2` with `RENAME_NOREPLACE`, within one directory. -/
def renameAt (path : List String) (old new : String) : Change := fun root => do
  let es ← entriesAt (ownerWrite ||| ownerSearch) path root
  match entry es old with
  | none => throw .notFound
  | some node =>
    ensure (entry es new).isNone .alreadyExists
    return ((), (root.set (path ++ [old]) none).set (path ++ [new]) (some node))

/-- `unlinkat`. -/
def unlinkAt (path : List String) (name : String) : Change := fun root => do
  let es ← entriesAt (ownerWrite ||| ownerSearch) path root
  match entry es name with
  | none => throw .notFound
  | some node =>
    ensure (!node.isDir) .otherKind
    return ((), root.set (path ++ [name]) none)

/-- `unlinkat` with `AT_REMOVEDIR`. -/
def rmdirAt (path : List String) (name : String) : Change := fun root => do
  let es ← entriesAt (ownerWrite ||| ownerSearch) path root
  match entry es name with
  | none => throw .notFound
  | some (.dir _ _ children) =>
    ensure children.isEmpty .notEmpty
    return ((), root.set (path ++ [name]) none)
  | some _ => throw .otherKind

/-- A changing call as a step of a process. -/
def call (f : Change) : Fallible FileError Node Unit := ExceptT.mk do
  interrupt
  act fun root => transact (f root) root

/-- `write_all`. -/
def writeAll (path : List String) (bytes : List UInt8) : Fallible FileError Node Unit :=
  bytes.forM fun byte => call (append path byte)

/-! ## Rules -/

section Rules

/-! A directory or a file whose mode has the bits that a call needs. -/

theorem entriesAt_find {need m : Mode} {path : List String} {root : Node} {i : Nat}
    {es : List (String × Node)}
    (hfind : root.find path = some (.dir i m es)) (h : need &&& m = need) :
    entriesAt need path root = .ok es := by
  simp [entriesAt, hfind, h]

theorem openNode_dir {m : Mode} (i : Nat) (es : List (String × Node)) (h : ownerRead &&& m = ownerRead) :
    openNode (.dir i m es) = .ok (.dir i m es) := by
  simp [openNode, Node.mode, h]

theorem openNode_file {m : Mode} (bytes : List UInt8) (h : ownerRead &&& m = ownerRead) :
    openNode (.file m bytes) = .ok (.file m bytes) := by
  simp [openNode, Node.mode, h]

theorem openDirectory_dir {m : Mode} (i : Nat) (es : List (String × Node))
    (h : ownerRead &&& m = ownerRead) :
    openDirectory (.dir i m es) = .ok (.dir i m es) := by
  simp [openDirectory, openNode_dir i es h, Node.isDir]

section Calls
variable {umask m : Mode} {path : List String} {name old new : String} {root node : Node} {i : Nat}
    {es : List (String × Node)}

theorem statAt_ok (hfind : root.find path = some (.dir i m es)) (hm : ownerSearch &&& m = ownerSearch)
    (hname : entry es name = some node) : statAt path name root = .ok node := by
  simp [statAt, entriesAt_find hfind hm, hname]

theorem openDirectoryAt_ok (hfind : root.find path = some (.dir i m es))
    (hm : ownerSearch &&& m = ownerSearch)
    (hname : entry es name = some node) (hopen : openDirectory node = .ok node) :
    openDirectoryAt path name root = .ok node := by
  simp [openDirectoryAt, statAt_ok hfind hm hname, hopen]

theorem renameAt_ok (hfind : root.find path = some (.dir i m es))
    (hm : (ownerWrite ||| ownerSearch) &&& m = ownerWrite ||| ownerSearch) (hold : entry es old = some node)
    (hnew : entry es new = none) :
    renameAt path old new root =
      .ok ((), (root.set (path ++ [old]) none).set (path ++ [new]) (some node)) := by
  simp [renameAt, entriesAt_find hfind hm, hold, hnew]

theorem unlinkAt_ok (hfind : root.find path = some (.dir i m es))
    (hm : (ownerWrite ||| ownerSearch) &&& m = ownerWrite ||| ownerSearch)
    (hname : entry es name = some node)
    (hfile : node.isDir = false) : unlinkAt path name root = .ok ((), root.set (path ++ [name]) none) := by
  simp [unlinkAt, entriesAt_find hfind hm, hname, hfile]

theorem rmdirAt_ok {j : Nat} {mode : Mode} (hfind : root.find path = some (.dir i m es))
    (hm : (ownerWrite ||| ownerSearch) &&& m = ownerWrite ||| ownerSearch)
    (hname : entry es name = some (.dir j mode [])) :
    rmdirAt path name root = .ok ((), root.set (path ++ [name]) none) := by
  simp [rmdirAt, entriesAt_find hfind hm, hname]

end Calls

variable {P C : Node → Prop} {Q : Unit → Node → Prop} {E : FileError → Node → Prop} {f : Change}
    {root root' : Node}

theorem specE_call (hok : ∀ s s', P s → f s = .ok ((), s') → Q () s')
    (herror : ∀ s e, P s → f s = .error e → E e s)
    (hcrash : ∀ s, P s → C s) : SpecE P (call f) Q E C := by
  refine spec_bind (spec_interrupt (fun _ (h : P _) => h) hcrash) fun _ => spec_act fun s hs => ?_
  cases hf : f s with
  | error e => exact herror s e hs hf
  | ok p => exact hok s p.2 hs hf

/-- A call whose answer is known. -/
theorem specE_call_ok (hf : f root = .ok ((), root')) (hcrash : C root) :
    SpecE (fun s => s = root) (call f) (fun _ s => s = root') E C := by
  refine specE_call ?_ ?_ fun s hs => hs ▸ hcrash
  · rintro s s' rfl hs'
    rw [hf] at hs'
    cases hs'
    rfl
  · rintro s e rfl hs
    rw [hf] at hs
    cases hs

/-- A call whose answer is known, and what comes after it. -/
theorem specE_call_bind {β ε : Type} {E : ε → Node → Prop} {k : FileError → ε}
    {g : Unit → Fallible ε Node β}
    {R : β → Node → Prop} (hf : f root = .ok ((), root')) (hcrash : C root)
    (hg : SpecE (fun s => s = root') (g ()) R E C) :
    SpecE (fun s => s = root) (ExceptT.adapt k (call f) >>= g) R E C :=
  specE_bind (specE_adapt (specE_call_ok hf hcrash)) fun _ => hg

end Rules

end Fs

end Lib
