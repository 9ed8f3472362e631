import CodexKeyboard.Lib.Run
import Mathlib.Data.List.Nodup
/-!
# The status snapshots of remote reads

`GattStatusSnapshotCache` (gatt_status_snapshot.h): a long read of the status characteristic comes
as one call for each offset, and the status may be published anew in between. A read at offset 0
keeps the published value for its connection; the reads at later offsets answer from it. There are
`MaxReaders` slots, and the one that is replaced is the one whose read started first: every start
takes the next number, and when the 32-bit numbers are used up the slots are numbered anew.

| here | there |
| --- | --- |
| `publish`, `copyPublished`, `copyForRemoteRead` | gatt_status_snapshot.h:27, 39, 45 |
| `forget`, `clearSnapshots` | gatt_status_snapshot.h:67, 73 |
| `Snapshot`, `copyValue`, `find` | gatt_status_snapshot.h:78, 86, 100 |
| `allocate`, `nextSequence` | gatt_status_snapshot.h:109, 127 |

An array with its length is the list of its bytes. The pointers are not null.
-/

namespace CodexKeyboard.Keyboard

open Lib

structure Snapshot where
  value : List UInt8 := []
  lastStartSequence : UInt32 := 0
  connHandle : UInt16 := 0
  valid : Bool := false
deriving DecidableEq, Repr

structure GattStatusSnapshotCache (maxReaders maxValueLen : Nat) where
  publishedValue : List UInt8
  hpublished : publishedValue.length ≤ maxValueLen
  snapshots : List Snapshot
  hsnapshots : snapshots.length = maxReaders
  startSequence : UInt32
deriving DecidableEq, Repr

namespace GattStatusSnapshotCache

variable {maxReaders maxValueLen : Nat}

def publish (c : GattStatusSnapshotCache maxReaders maxValueLen) (value : List UInt8) :
    Bool × GattStatusSnapshotCache maxReaders maxValueLen :=
  if h : maxValueLen < value.length then (false, c)
  else (true, { c with publishedValue := value, hpublished := Nat.le_of_not_lt h })

/-- `snapshots_ = {}`. -/
def clearSnapshots (c : GattStatusSnapshotCache maxReaders maxValueLen) :
    GattStatusSnapshotCache maxReaders maxValueLen :=
  { c with snapshots := List.replicate maxReaders {}, hsnapshots := List.length_replicate }

/-- The constructor publishes "ready". -/
def new (maxReaders maxValueLen : Nat) : GattStatusSnapshotCache maxReaders maxValueLen :=
  (publish ⟨[], Nat.zero_le _, List.replicate maxReaders {},
    List.length_replicate, 0⟩ [114, 101, 97, 100, 121]).2

def copyValue (value : List UInt8) (outCapacity : Nat) : Option (List UInt8) :=
  if value.length > outCapacity then none else some value

def copyPublished (c : GattStatusSnapshotCache maxReaders maxValueLen) (outCapacity : Nat) :
    Option (List UInt8) :=
  copyValue c.publishedValue outCapacity

def find (snapshots : List Snapshot) (connHandle : UInt16) : Option Nat :=
  snapshots.findIdx? fun snapshot => snapshot.valid && snapshot.connHandle == connHandle

/-- The loop of `allocate` over the slots from `i` on, with the slot selected so far and its number. -/
def allocateLoop (selected : Nat) (least : UInt32) : Nat → List Snapshot → Nat
  | _, [] => selected
  | i, snapshot :: rest =>
    if snapshot.valid = false then i
    else if snapshot.lastStartSequence < least then allocateLoop i snapshot.lastStartSequence (i + 1) rest
    else allocateLoop selected least (i + 1) rest

def allocate (snapshots : List Snapshot) : Nat :=
  allocateLoop 0 (snapshots.headD {}).lastStartSequence 0 snapshots

/-- The slot of a read that starts. -/
def slotFor (snapshots : List Snapshot) (connHandle : UInt16) : Nat :=
  (find snapshots connHandle).getD (allocate snapshots)

/-- The slots numbered anew from `sequence` on, and the next number. -/
def renumber : UInt32 → List Snapshot → List Snapshot × UInt32
  | sequence, [] => ([], sequence)
  | sequence, snapshot :: rest =>
    if snapshot.valid then
      ({ snapshot with lastStartSequence := sequence } :: (renumber (sequence + 1) rest).1,
        (renumber (sequence + 1) rest).2)
    else (snapshot :: (renumber sequence rest).1, (renumber sequence rest).2)

/-- `next_sequence`: the slots and `start_sequence_`, which it returns. -/
def nextSequence (snapshots : List Snapshot) (startSequence : UInt32) : List Snapshot × UInt32 :=
  if startSequence + 1 = 0 then renumber 1 snapshots else (snapshots, startSequence + 1)

/-- The slots and the number after a read of `connHandle` has started. -/
def started (value : List UInt8) (snapshots : List Snapshot) (startSequence : UInt32)
    (connHandle : UInt16) :
    List Snapshot × UInt32 :=
  let i := slotFor snapshots connHandle
  let kept := snapshots.modify i fun snapshot =>
    { value := value,
      lastStartSequence := if (find snapshots connHandle).isSome then snapshot.lastStartSequence else 0,
      connHandle := connHandle, valid := true }
  let next := nextSequence kept startSequence
  (next.1.modify i fun snapshot => { snapshot with lastStartSequence := next.2 }, next.2)

theorem length_renumber : ∀ (sequence : UInt32) (snapshots : List Snapshot),
    (renumber sequence snapshots).1.length = snapshots.length
  | _, [] => rfl
  | sequence, snapshot :: rest => by
    rw [renumber]
    split <;> simp [length_renumber]

theorem length_started (value : List UInt8) (snapshots : List Snapshot) (startSequence : UInt32)
    (connHandle : UInt16) :
    (started value snapshots startSequence connHandle).1.length = snapshots.length := by
  simp only [started, nextSequence, List.length_modify]
  split <;> simp [length_renumber]

def copyForRemoteRead (c : GattStatusSnapshotCache maxReaders maxValueLen)
    (connHandle offset : UInt16) (outCapacity : Nat) :
    Option (List UInt8) × GattStatusSnapshotCache maxReaders maxValueLen :=
  if offset = 0 then
    (copyValue c.publishedValue outCapacity, { c with
      snapshots := (started c.publishedValue c.snapshots c.startSequence connHandle).1
      hsnapshots := (length_started ..).trans c.hsnapshots
      startSequence := (started c.publishedValue c.snapshots c.startSequence connHandle).2 })
  else
    match find c.snapshots connHandle with
    | none => (none, c)
    | some i => (copyValue (c.snapshots.getD i {}).value outCapacity, c)

def forget (c : GattStatusSnapshotCache maxReaders maxValueLen) (connHandle : UInt16) :
    GattStatusSnapshotCache maxReaders maxValueLen :=
  match find c.snapshots connHandle with
  | none => c
  | some i =>
    { c with snapshots := c.snapshots.set i {}, hsnapshots := (List.length_set ..).trans c.hsnapshots }

inductive Call where
  | publish (value : List UInt8)
  | copyPublished (outCapacity : Nat)
  | copyForRemoteRead (connHandle offset : UInt16) (outCapacity : Nat)
  | forget (connHandle : UInt16)
  | clearSnapshots
deriving DecidableEq, Repr

inductive Answer where
  | published (published : Bool)
  | copied (value : Option (List UInt8))
  | done
deriving DecidableEq, Repr

def step (c : GattStatusSnapshotCache maxReaders maxValueLen) :
    Call → Answer × GattStatusSnapshotCache maxReaders maxValueLen
  | .publish value => (.published (c.publish value).1, (c.publish value).2)
  | .copyPublished outCapacity => (.copied (c.copyPublished outCapacity), c)
  | .copyForRemoteRead connHandle offset outCapacity =>
    (.copied (c.copyForRemoteRead connHandle offset outCapacity).1,
      (c.copyForRemoteRead connHandle offset outCapacity).2)
  | .forget connHandle => (.done, c.forget connHandle)
  | .clearSnapshots => (.done, c.clearSnapshots)

/-! ## The slot of a read -/

/-- Slot `i` of the list is `slot`. -/
structure SlotAt (snapshots before : List Snapshot) (slot : Snapshot) (rest : List Snapshot)
    (i : Nat) : Prop where
  split : snapshots = before ++ slot :: rest
  index : before.length = i

variable {snapshots before rest : List Snapshot} {slot : Snapshot} {i : Nat} {connHandle : UInt16}

theorem slotAt_of_getElem? (h : snapshots[i]? = some slot) :
    SlotAt snapshots (snapshots.take i) slot (snapshots.drop (i + 1)) i := by
  obtain ⟨hlt, rfl⟩ := List.getElem?_eq_some_iff.mp h
  refine ⟨?_, List.length_take_of_le (Nat.le_of_lt hlt)⟩
  rw [← List.drop_eq_getElem_cons hlt, List.take_append_drop]

theorem SlotAt.modify (h : SlotAt snapshots before slot rest i) (f : Snapshot → Snapshot) :
    snapshots.modify i f = before ++ f slot :: rest := by
  obtain ⟨rfl, rfl⟩ := h
  induction before with
  | nil => rfl
  | cons first before ih => exact congrArg (first :: ·) ih

theorem SlotAt.eraseIdx (h : SlotAt snapshots before slot rest i) :
    snapshots.eraseIdx i = before ++ rest := by
  obtain ⟨rfl, rfl⟩ := h
  induction before with
  | nil => rfl
  | cons first before ih => exact congrArg (first :: ·) ih

theorem SlotAt.set (h : SlotAt snapshots before slot rest i) (other : Snapshot) :
    snapshots.set i other = before ++ other :: rest := by
  obtain ⟨rfl, rfl⟩ := h
  induction before with
  | nil => rfl
  | cons first before ih => exact congrArg (first :: ·) ih

theorem SlotAt.getD (h : SlotAt snapshots before slot rest i) : snapshots.getD i {} = slot := by
  obtain ⟨rfl, rfl⟩ := h
  simp

theorem find_some (h : find snapshots connHandle = some i) :
    ∃ before slot rest, SlotAt snapshots before slot rest i ∧ slot.valid = true ∧
    slot.connHandle = connHandle := by
  obtain ⟨hlt, hfound, -⟩ := List.findIdx?_eq_some_iff_getElem.mp h
  rw [Bool.and_eq_true, beq_iff_eq] at hfound
  exact ⟨_, _, _, slotAt_of_getElem? (List.getElem?_eq_getElem hlt), hfound⟩

theorem find_eq_none : find snapshots connHandle = none ↔
    ∀ snapshot ∈ snapshots, snapshot.valid = true → snapshot.connHandle ≠ connHandle := by
  rw [find, List.findIdx?_eq_none_iff]
  refine forall₂_congr fun snapshot _ => ?_
  cases snapshot.valid <;> simp

/-- The slot is free, or every slot is used and none was started before it. -/
structure Replaced (snapshots : List Snapshot) (slot : Snapshot) : Prop where
  used : slot.valid = true →
    ∀ snapshot ∈ snapshots, snapshot.valid = true ∧ slot.lastStartSequence ≤ snapshot.lastStartSequence

theorem allocateLoop_spec : ∀ {rest seen : List Snapshot} {selected : Nat} {least : UInt32},
    (∃ slot, seen[selected]? = some slot ∧ slot.lastStartSequence = least ∧
      ∀ snapshot ∈ seen, snapshot.valid = true ∧ least ≤ snapshot.lastStartSequence) →
    ∃ slot, (seen ++ rest)[allocateLoop selected least seen.length rest]? = some slot ∧
    Replaced (seen ++ rest) slot
  | [], seen, selected, least, ⟨slot, hslot, hleast, hseen⟩ => by
    rw [allocateLoop, List.append_nil]
    refine ⟨slot, hslot, ⟨fun _ => ?_⟩⟩
    rw [hleast]
    exact hseen
  | snapshot :: rest, seen, selected, least, ⟨slot, hslot, hleast, hseen⟩ => by
    rw [allocateLoop]
    by_cases hfree : snapshot.valid = false
    · rw [if_pos hfree]
      refine ⟨snapshot, by simp, ⟨fun hused => ?_⟩⟩
      rw [hfree] at hused
      cases hused
    rw [if_neg hfree]
    rw [Bool.not_eq_false] at hfree
    have hlen : (seen ++ [snapshot]).length = seen.length + 1 := by simp
    rw [show seen ++ snapshot :: rest = seen ++ [snapshot] ++ rest by simp, ← hlen]
    by_cases hless : snapshot.lastStartSequence < least
    · rw [if_pos hless, show seen.length = (seen ++ [snapshot]).length - 1 by simp]
      refine allocateLoop_spec ⟨snapshot, by simp, rfl, fun other hother => ?_⟩
      rcases List.mem_append.mp hother with hold | hnew
      · exact ⟨(hseen other hold).1, UInt32.le_trans (UInt32.le_of_lt hless) (hseen other hold).2⟩
      · rw [List.mem_singleton.mp hnew]
        exact ⟨hfree, UInt32.le_refl _⟩
    · rw [if_neg hless]
      obtain ⟨hlt, -⟩ := List.getElem?_eq_some_iff.mp hslot
      refine allocateLoop_spec ⟨slot, by rw [List.getElem?_append_left hlt]; exact hslot,
        hleast, fun other hother => ?_⟩
      rcases List.mem_append.mp hother with hold | hnew
      · exact hseen other hold
      · rw [List.mem_singleton.mp hnew]
        exact ⟨hfree, UInt32.not_lt.mp hless⟩

theorem allocate_spec (hne : snapshots ≠ []) :
    ∃ before slot rest, SlotAt snapshots before slot rest (allocate snapshots) ∧
    Replaced snapshots slot := by
  cases snapshots with
  | nil => exact absurd rfl hne
  | cons first others =>
    by_cases hfree : first.valid = false
    · refine ⟨[], first, others, ⟨rfl, ?_⟩, ⟨fun hused => ?_⟩⟩
      · rw [allocate, allocateLoop, if_pos hfree]
        rfl
      · rw [hfree] at hused
        cases hused
    · have hallocate :
        allocate (first :: others) = allocateLoop 0 first.lastStartSequence [first].length others := by
        rw [allocate, allocateLoop, if_neg hfree, List.headD_cons, if_neg (UInt32.lt_irrefl _)]
        rfl
      rw [Bool.not_eq_false] at hfree
      obtain ⟨slot, hslot, hreplaced⟩ := @allocateLoop_spec others [first] 0 first.lastStartSequence
        ⟨first, rfl, rfl, fun snapshot hsnapshot => by
          rw [List.mem_singleton.mp hsnapshot]
          exact ⟨hfree, UInt32.le_refl _⟩⟩
      rw [← hallocate] at hslot
      exact ⟨_, slot, _, slotAt_of_getElem? hslot, hreplaced⟩

/-! ## A start -/

theorem renumber_append : ∀ (sequence : UInt32) (before rest : List Snapshot),
    renumber sequence (before ++ rest) =
      ((renumber sequence before).1 ++ (renumber (renumber sequence before).2 rest).1,
        (renumber (renumber sequence before).2 rest).2)
  | _, [], _ => rfl
  | sequence, snapshot :: before, rest => by
    rw [List.cons_append, renumber, renumber]
    split <;> simp [renumber_append]

theorem renumber_used (sequence : UInt32) (hvalid : slot.valid = true) (rest : List Snapshot) :
    renumber sequence (slot :: rest) =
      ({ slot with lastStartSequence := sequence } :: (renumber (sequence + 1) rest).1,
        (renumber (sequence + 1) rest).2) := by
  rw [renumber, if_pos hvalid]

/-- What a start does to the slots `before` and `rest` beside its own, and to the number. -/
inductive Start (value : List UInt8) (connHandle : UInt16) (before rest : List Snapshot)
    (startSequence : UInt32) :
    List Snapshot × UInt32 → Prop where
  | next (hmore : startSequence + 1 ≠ 0) :
    Start value connHandle before rest startSequence
      (before ++ ⟨value, startSequence + 1, connHandle, true⟩ :: rest, startSequence + 1)
  | anew (hwrap : startSequence + 1 = 0) :
    Start value connHandle before rest startSequence
      ((renumber 1 before).1 ++ ⟨value, (renumber ((renumber 1 before).2 + 1) rest).2, connHandle, true⟩ ::
        (renumber ((renumber 1 before).2 + 1) rest).1, (renumber ((renumber 1 before).2 + 1) rest).2)

/-- The slot of a start: that of the connection, or one that is replaced. -/
theorem slotFor_spec (hne : snapshots ≠ []) (connHandle : UInt16) :
    ∃ before slot rest, SlotAt snapshots before slot rest (slotFor snapshots connHandle) ∧
      (slot.valid = true ∧ slot.connHandle = connHandle ∨ find snapshots connHandle = none ∧
        Replaced snapshots slot) := by
  cases hfound : find snapshots connHandle with
  | some i =>
    obtain ⟨before, slot, rest, hslot, hvalid, hconn⟩ := find_some hfound
    refine ⟨before, slot, rest, ?_, .inl ⟨hvalid, hconn⟩⟩
    rw [slotFor, hfound]
    exact hslot
  | none =>
    obtain ⟨before, slot, rest, hslot, hreplaced⟩ := allocate_spec hne
    refine ⟨before, slot, rest, ?_, .inr ⟨rfl, hreplaced⟩⟩
    rw [slotFor, hfound]
    exact hslot

theorem start_started (hslot : SlotAt snapshots before slot rest (slotFor snapshots connHandle))
    (value : List UInt8)
    (startSequence : UInt32) :
    Start value connHandle before rest startSequence
      (started value snapshots startSequence connHandle) := by
  simp only [started]
  rw [hslot.modify]
  generalize (if (find snapshots connHandle).isSome then slot.lastStartSequence else 0) = least
  by_cases hwrap : startSequence + 1 = 0
  · rw [nextSequence, if_pos hwrap, renumber_append, renumber_used _ rfl]
    dsimp only
    have hkept : SlotAt ((renumber 1 before).1 ++ ⟨value, (renumber 1 before).2, connHandle, true⟩ ::
        (renumber ((renumber 1 before).2 + 1) rest).1) (renumber 1 before).1 ⟨value,
          (renumber 1 before).2, connHandle, true⟩
        (renumber ((renumber 1 before).2 + 1) rest).1 (slotFor snapshots connHandle) :=
      ⟨rfl, (length_renumber 1 before).trans hslot.index⟩
    rw [hkept.modify]
    exact .anew hwrap
  · rw [nextSequence, if_neg hwrap]
    have hkept :
      SlotAt (before ++ ⟨value, least, connHandle, true⟩ :: rest) before ⟨value,
      least, connHandle, true⟩ rest
        (slotFor snapshots connHandle) := ⟨rfl, hslot.index⟩
    rw [hkept.modify]
    exact .next hwrap

/-! ## What a read answers -/

/-- The connections that have a snapshot, each with its value. -/
def readers (snapshots : List Snapshot) : List (UInt16 × List UInt8) :=
  (snapshots.filter Snapshot.valid).map fun snapshot => (snapshot.connHandle, snapshot.value)

def holds (c : GattStatusSnapshotCache maxReaders maxValueLen) (connHandle : UInt16) : Bool :=
  (find c.snapshots connHandle).isSome

/-- The snapshot of a connection is replaced by that of another. -/
def Evicts (c : GattStatusSnapshotCache maxReaders maxValueLen) : Call → UInt16 → Prop
  | .copyForRemoteRead other offset outCapacity, connHandle =>
    offset = 0 ∧ c.holds connHandle = true ∧
    (c.copyForRemoteRead other offset outCapacity).2.holds connHandle = false
  | _, _ => False

instance (c : GattStatusSnapshotCache maxReaders maxValueLen) : ∀ (call : Call) (connHandle : UInt16),
    Decidable (c.Evicts call connHandle)
  | .copyForRemoteRead _ _ _, _ => inferInstanceAs (Decidable (_ ∧ _))
  | .publish _, _ => isFalse id
  | .copyPublished _, _ => isFalse id
  | .forget _, _ => isFalse id
  | .clearSnapshots, _ => isFalse id

/-- What a connection reads after a call: the value that is published when its read starts, until it
is forgotten or evicted. -/
def readingStep (c : GattStatusSnapshotCache maxReaders maxValueLen)
    (reading : UInt16 → Option (List UInt8)) (call : Call)
    (connHandle : UInt16) : Option (List UInt8) :=
  match call with
  | .copyForRemoteRead other offset _ =>
    if offset = 0 ∧ other = connHandle then some c.publishedValue
    else if c.Evicts call connHandle then none
    else reading connHandle
  | .forget other => if other = connHandle then none else reading connHandle
  | .clearSnapshots => none
  | .publish _ => reading connHandle
  | .copyPublished _ => reading connHandle

/-- What the connections read after a run. -/
def readingAfter :
    GattStatusSnapshotCache maxReaders maxValueLen → (UInt16 → Option (List UInt8)) → List Call →
    UInt16 → Option (List UInt8)
  | _, reading, [] => reading
  | c, reading, call :: calls => readingAfter (step c call).2 (readingStep c reading call) calls

/-- The snapshots are what the connections read, one for each. -/
structure Serves (snapshots : List Snapshot) (reading : UInt16 → Option (List UInt8)) : Prop where
  nodup : ((readers snapshots).map Prod.fst).Nodup
  value (connHandle : UInt16) (value : List UInt8) : (connHandle, value) ∈ readers snapshots ↔
  reading connHandle = some value

theorem mem_readers {value : List UInt8} : (connHandle, value) ∈ readers snapshots ↔
    ∃ snapshot ∈ snapshots, snapshot.valid = true ∧ snapshot.connHandle = connHandle ∧
    snapshot.value = value := by
  simp only [readers, List.mem_map, List.mem_filter, Prod.mk.injEq, and_assoc]

theorem readers_append (before rest : List Snapshot) :
    readers (before ++ rest) = readers before ++ readers rest := by
  rw [readers, List.filter_append, List.map_append]
  rfl

theorem readers_used (hvalid : slot.valid = true) (rest : List Snapshot) :
    readers (slot :: rest) = (slot.connHandle, slot.value) :: readers rest := by
  rw [readers, List.filter_cons_of_pos hvalid]
  rfl

theorem readers_free (hfree : slot.valid = false) (rest : List Snapshot) :
    readers (slot :: rest) = readers rest := by
  rw [readers, List.filter_cons_of_neg (by simp [hfree])]
  rfl

theorem readers_renumber : ∀ (sequence : UInt32) (snapshots : List Snapshot),
    readers (renumber sequence snapshots).1 = readers snapshots
  | _, [] => rfl
  | sequence, snapshot :: rest => by
    cases hvalid : snapshot.valid with
    | true =>
      have hused :=
        @readers_used { snapshot with lastStartSequence := sequence } hvalid
        (renumber (sequence + 1) rest).1
      rw [renumber_used _ hvalid, hused, readers_used hvalid, readers_renumber]
    | false =>
      rw [renumber, if_neg (by simp [hvalid]), readers_free hvalid, readers_free hvalid, readers_renumber]

theorem Start.readers {value : List UInt8} {startSequence : UInt32} {next : List Snapshot × UInt32}
    (h : Start value connHandle before rest startSequence next) :
    readers next.1 = readers before ++ (connHandle, value) :: readers rest := by
  cases h with
  | next _ => rw [readers_append, readers_used rfl]
  | anew _ => rw [readers_append, readers_used rfl, readers_renumber, readers_renumber]

theorem find_isSome :
    (find snapshots connHandle).isSome = true ↔ ∃ value, (connHandle, value) ∈ readers snapshots := by
  rw [← not_iff_not, Bool.not_eq_true, Option.isSome_eq_false_iff, Option.isNone_iff_eq_none, find_eq_none]
  constructor
  · rintro hnone ⟨value, hmem⟩
    obtain ⟨snapshot, hsnapshot, hvalid, hconn, -⟩ := mem_readers.mp hmem
    exact hnone snapshot hsnapshot hvalid hconn
  · intro hnone snapshot hsnapshot hvalid hconn
    exact hnone ⟨snapshot.value, mem_readers.mpr ⟨snapshot, hsnapshot, hvalid, hconn, rfl⟩⟩

/-- A read at a later offset. -/
theorem find_value {reading : UInt16 → Option (List UInt8)} (h : Serves snapshots reading)
    (connHandle : UInt16) :
    (find snapshots connHandle).map (fun i => (snapshots.getD i {}).value) = reading connHandle := by
  cases hfound : find snapshots connHandle with
  | some i =>
    obtain ⟨before, slot, rest, hslot, hvalid, hconn⟩ := find_some hfound
    rw [Option.map_some, hslot.getD]
    refine ((h.value connHandle slot.value).mp (mem_readers.mpr ⟨slot, ?_, hvalid, hconn, rfl⟩)).symm
    rw [hslot.split]
    exact List.mem_append_right _ List.mem_cons_self
  | none =>
    cases hreading : reading connHandle with
    | none => rfl
    | some value =>
      have hsome := find_isSome.mpr ⟨value, (h.value connHandle value).mpr hreading⟩
      rw [hfound] at hsome
      cases hsome

theorem readers_empty (n : Nat) : readers (List.replicate n {}) = [] := by
  rw [readers, List.filter_eq_nil_iff.mpr, List.map_nil]
  intro snapshot hsnapshot
  rw [List.eq_of_mem_replicate hsnapshot]
  exact Bool.false_ne_true

theorem serves_empty (n : Nat) : Serves (List.replicate n {}) fun _ => none := by
  refine ⟨?_, fun connHandle value => ?_⟩
  · rw [readers_empty]
    exact List.nodup_nil
  · rw [readers_empty]
    simp

theorem snapshots_new (maxReaders maxValueLen : Nat) :
    (new maxReaders maxValueLen).snapshots = List.replicate maxReaders {} ∧
      (new maxReaders maxValueLen).startSequence = 0 := by
  unfold new publish
  split <;> exact ⟨rfl, rfl⟩

/-- The slots beside that of a start have no snapshot of its connection. -/
theorem start_others (hdistinct : ((readers snapshots).map Prod.fst).Nodup)
    (hslot : SlotAt snapshots before slot rest i)
    (howner : slot.valid = true ∧ slot.connHandle = connHandle ∨ find snapshots connHandle = none ∧
      Replaced snapshots slot)
    (value : List UInt8) : (connHandle, value) ∉ readers before ++ readers rest := by
  intro hmem
  rw [← readers_append] at hmem
  obtain ⟨snapshot, hsnapshot, hvalid, hconn, -⟩ := mem_readers.mp hmem
  rcases howner with ⟨hused, rfl⟩ | ⟨hnone, -⟩
  · rw [hslot.split, readers_append, readers_used hused, List.map_append, List.map_cons, List.nodup_middle,
      ← List.map_append, ← readers_append, List.nodup_cons] at hdistinct
    exact hdistinct.1 (List.mem_map.mpr ⟨_, hmem, rfl⟩)
  · refine find_eq_none.mp hnone snapshot ?_ hvalid hconn
    rw [hslot.split]
    rcases List.mem_append.mp hsnapshot with hbefore | hrest
    · exact List.mem_append_left _ hbefore
    · exact List.mem_append_right _ (List.mem_cons_of_mem _ hrest)

theorem readers_others (hslot : SlotAt snapshots before slot rest i) :
    (readers before ++ readers rest).Sublist (readers snapshots) := by
  rw [hslot.split, readers_append]
  refine (List.Sublist.refl _).append ?_
  cases hvalid : slot.valid with
  | true =>
    rw [readers_used hvalid]
    exact List.sublist_cons_self _ _
  | false => rw [readers_free hvalid]

/-- A start serves its connection the published value, and evicts at most one. -/
theorem serves_start {c : GattStatusSnapshotCache maxReaders maxValueLen}
    {reading : UInt16 → Option (List UInt8)}
    (hreaders : 0 < maxReaders) (h : Serves c.snapshots reading) (other : UInt16) (outCapacity : Nat) :
    Serves (c.copyForRemoteRead other 0 outCapacity).2.snapshots
      (readingStep c reading (.copyForRemoteRead other 0 outCapacity)) := by
  have hne : c.snapshots ≠ [] := by
    rw [← List.length_pos_iff, c.hsnapshots]
    exact hreaders
  obtain ⟨before, slot, rest, hslot, howner⟩ := slotFor_spec hne other
  have hothers := start_others h.nodup hslot howner
  have hsub := readers_others hslot
  have hnext : readers (c.copyForRemoteRead other 0 outCapacity).2.snapshots =
      readers before ++ (other, c.publishedValue) :: readers rest := (start_started hslot _ _).readers
  refine ⟨?_, fun connHandle value => ?_⟩
  · rw [hnext, List.map_append, List.map_cons, List.nodup_middle, ← List.map_append, List.nodup_cons]
    refine ⟨?_, h.nodup.sublist (hsub.map _)⟩
    rw [List.mem_map]
    rintro ⟨⟨connHandle, value⟩, hmem, rfl⟩
    exact hothers value hmem
  · have hmem : (connHandle, value) ∈ readers (c.copyForRemoteRead other 0 outCapacity).2.snapshots ↔
        (connHandle, value) = (other, c.publishedValue) ∨
          (connHandle, value) ∈ readers before ++ readers rest := by
      rw [hnext, List.mem_append, List.mem_cons, List.mem_append]
      tauto
    simp only [readingStep, true_and]
    by_cases hother : other = connHandle
    · subst hother
      rw [if_pos rfl, hmem]
      constructor
      · rintro (heq | hold)
        · rw [(Prod.mk.inj heq).2]
        · exact absurd hold (hothers value)
      · intro heq
        exact .inl (by rw [Option.some.inj heq])
    rw [if_neg hother]
    have hold : (connHandle, value) ∈ readers (c.copyForRemoteRead other 0 outCapacity).2.snapshots ↔
        (connHandle, value) ∈ readers before ++ readers rest := by
      rw [hmem, or_iff_right]
      intro heq
      exact hother (Prod.mk.inj heq).1.symm
    by_cases hevicts : c.Evicts (.copyForRemoteRead other 0 outCapacity) connHandle
    · rw [if_pos hevicts]
      refine iff_of_false (fun hafter => ?_) nofun
      have hholds := find_isSome.mpr ⟨value, hafter⟩
      rw [← holds, hevicts.2.2] at hholds
      cases hholds
    rw [if_neg hevicts, hold]
    constructor
    · intro hafter
      exact (h.value connHandle value).mp (hsub.subset hafter)
    · intro hreading
      -- its snapshot is not the one that was replaced, or the start would evict it
      have hbefore := (h.value connHandle value).mpr hreading
      have hholds : c.holds connHandle = true := find_isSome.mpr ⟨value, hbefore⟩
      have hafter : (c.copyForRemoteRead other 0 outCapacity).2.holds connHandle = true := by
        by_contra hlost
        exact hevicts ⟨rfl, hholds, by simpa using hlost⟩
      obtain ⟨value', hvalue'⟩ := find_isSome.mp hafter
      rw [hnext, List.mem_append, List.mem_cons] at hvalue'
      have hkept : (connHandle, value') ∈ readers before ++ readers rest := by
        rw [List.mem_append]
        rcases hvalue' with hleft | heq | hright
        · exact .inl hleft
        · exact absurd (Prod.mk.inj heq).1.symm hother
        · exact .inr hright
      have hsame := (h.value connHandle value').mp (hsub.subset hkept)
      rw [hreading] at hsame
      rw [Option.some.inj hsame]
      exact hkept

theorem readingStep_forget (c : GattStatusSnapshotCache maxReaders maxValueLen)
    (reading : UInt16 → Option (List UInt8))
    (other connHandle : UInt16) :
    readingStep c reading (.forget other) connHandle = if other = connHandle then none else
      reading connHandle := rfl

theorem serves_forget {c : GattStatusSnapshotCache maxReaders maxValueLen}
    {reading : UInt16 → Option (List UInt8)}
    (h : Serves c.snapshots reading) (other : UInt16) :
    Serves (c.forget other).snapshots (readingStep c reading (.forget other)) := by
  unfold forget
  cases hfound : find c.snapshots other with
  | none =>
    refine ⟨h.nodup, fun connHandle value => ?_⟩
    rw [readingStep_forget]
    by_cases hother : other = connHandle
    · subst hother
      rw [if_pos rfl]
      refine iff_of_false (fun hmem => ?_) nofun
      have hsome := find_isSome.mpr ⟨value, hmem⟩
      rw [hfound] at hsome
      cases hsome
    · rw [if_neg hother]
      exact h.value connHandle value
  | some i =>
    obtain ⟨before, slot, rest, hslot, hvalid, hconn⟩ := find_some hfound
    have hothers := start_others h.nodup hslot (.inl ⟨hvalid, hconn⟩)
    have hsub := readers_others hslot
    have hnext : readers (c.snapshots.set i {}) = readers before ++ readers rest := by
      rw [hslot.set, readers_append, readers_free rfl]
    dsimp only
    refine ⟨?_, fun connHandle value => ?_⟩
    · rw [hnext]
      exact h.nodup.sublist (hsub.map _)
    rw [hnext, readingStep_forget]
    by_cases hother : other = connHandle
    · subst hother
      rw [if_pos rfl]
      exact iff_of_false (hothers value) nofun
    · rw [if_neg hother, ← h.value, hslot.split, readers_append, readers_used hvalid,
        List.mem_append, List.mem_append,
        List.mem_cons, hconn]
      constructor
      · rintro (hleft | hright)
        · exact .inl hleft
        · exact .inr (.inr hright)
      · rintro (hleft | heq | hright)
        · exact .inl hleft
        · exact absurd (Prod.mk.inj heq).1.symm hother
        · exact .inr hright

theorem Serves.step {c : GattStatusSnapshotCache maxReaders maxValueLen}
    {reading : UInt16 → Option (List UInt8)}
    (hreaders : 0 < maxReaders) (h : Serves c.snapshots reading) (call : Call) :
    Serves (step c call).2.snapshots (readingStep c reading call) := by
  cases call with
  | publish value =>
    simp only [GattStatusSnapshotCache.step, publish]
    split <;> exact h
  | copyPublished outCapacity => exact h
  | copyForRemoteRead other offset outCapacity =>
    by_cases hstart : offset = 0
    · subst hstart
      exact serves_start hreaders h other outCapacity
    · have hsame : readingStep c reading (.copyForRemoteRead other offset outCapacity) = reading := by
        funext connHandle
        have hkept : ¬ c.Evicts (.copyForRemoteRead other offset outCapacity) connHandle :=
          fun hevicts => hstart hevicts.1
        rw [readingStep, if_neg fun hboth => hstart hboth.1, if_neg hkept]
      have hcache : (c.copyForRemoteRead other offset outCapacity).2 = c := by
        rw [copyForRemoteRead, if_neg hstart]
        split <;> rfl
      rw [hsame]
      simp only [GattStatusSnapshotCache.step]
      rw [hcache]
      exact h
  | forget other => exact serves_forget h other
  | clearSnapshots =>
    exact serves_empty maxReaders

/-- What the connections read along a run is in the slots. -/
theorem serves_after (hreaders : 0 < maxReaders) :
    ∀ (calls : List Call) {c : GattStatusSnapshotCache maxReaders maxValueLen}
    {reading : UInt16 → Option (List UInt8)}, Serves c.snapshots reading →
    Serves (after step c calls).snapshots (readingAfter c reading calls)
  | [], _, _, h => h
  | call :: calls, _, _, h => serves_after hreaders calls (h.step hreaders call)

end GattStatusSnapshotCache

end CodexKeyboard.Keyboard
