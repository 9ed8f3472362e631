import CodexKeyboard.Assets.Types
import CodexKeyboard.Lib.Device
import Mathlib.Tactic.Common
/-!
# The two sound banks in flash

The storage below the sound asset store (`SoundBankStorage`, sound_asset_store.h:54): two banks of
NOR flash. A write only clears bits and an erase only sets them. A call that fails, or that the
power leaves unfinished, may have moved every bit of its range part of the way; a read that succeeds
returns what is stored.

| here | there |
| --- | --- |
| `StorageCall` | the methods of `SoundBankStorage` (sound_asset_store.h:54-92) |
| `SoundStorageFault` | `SoundStorageIoResult` without `Ok` (sound_asset_store.h:32) |
| `readPieces` | the loops of `region_sha256`, `region_crc32` (sound_asset_store.cpp:202, 331) |
| | and of `hash_bank_range` (sound_asset_format.cpp:256) |
| `checkPieces` | `checkpointed_memory_crc32`, `checkpointed_memory_sha256` (sound_asset_store.cpp:256, 292) |
| `verifyRegionErased` | `verify_region_erased` (sound_asset_store.cpp:172) |

A bank is a function of the offset, and every call stays inside its 0x90000 bytes (`range_is_valid`,
esp_sound_bank_storage.cpp:162), so that only a fault makes it fail. A hash is taken of the pieces
together.
-/

namespace CodexKeyboard.Assets

open Lib Buffer

def soundBankSize : Nat := 0x90000
def soundStagingHeaderOffset : Nat := 0x0000
def soundManifestOffset : Nat := 0x1000
def soundJournalOffset : Nat := 0x2000
def soundPayloadOffset : Nat := 0x3000
def soundReservedOffset : Nat := 0x83000
def soundReservedEndOffset : Nat := 0x8F000
def soundCommitOffset : Nat := 0x8F000
def ioBufferBytes : Nat := 256
def sha256FinishBudgetBytes : Nat := 128

/-- The other bank. -/
def SoundBankId.other : SoundBankId → SoundBankId
  | .a => .b
  | .b => .a

@[simp] theorem SoundBankId.other_other (bank : SoundBankId) : bank.other.other = bank :=
  by cases bank <;> rfl

theorem SoundBankId.other_ne (bank : SoundBankId) : bank.other ≠ bank := by cases bank <;> decide

theorem SoundBankId.eq_other {bank target : SoundBankId} (h : bank ≠ target) : bank = target.other := by
  cases bank <;> cases target <;> first | rfl | exact absurd rfl h

inductive SoundStorageFault where
  | invalidArgument
  | outOfBounds
  | notAligned
  | unavailable
  | ioError
deriving DecidableEq, Repr

inductive SoundStorageWorkKind where
  | read
  | write
  | erase
  | crc32
  | sha256
deriving DecidableEq, Repr

inductive StorageCall where
  | read (bank : SoundBankId) (offset length : Nat)
  | write (bank : SoundBankId) (offset : Nat) (bytes : List UInt8)
  | erase (bank : SoundBankId) (offset length : Nat)
  | checkpoint (kind : SoundStorageWorkKind) (bank : SoundBankId) (offset length : Nat)
  | checkpointComplete
deriving DecidableEq, Repr

abbrev StorageAnswer : StorageCall → Type
  | .read _ _ _ => Except SoundStorageFault (List UInt8)
  | .write _ _ _ => Except SoundStorageFault Unit
  | .erase _ _ _ => Except SoundStorageFault Unit
  | .checkpoint _ _ _ _ => Except SoundStorageFault Unit
  | .checkpointComplete => Unit

abbrev SoundBank := Nat → UInt8
abbrev Flash := SoundBankId → SoundBank

/-- The `n` bytes from `offset` on. -/
def region (bank : SoundBank) (offset n : Nat) : List UInt8 := (List.range n).map fun i => bank (offset + i)

/-! ## The flash -/

/-- The bits of `lo` are in `byte`, and its bits are in `hi`. -/
def Between (lo hi byte : UInt8) : Prop := lo &&& byte = lo ∧ byte &&& hi = byte

/-- What a write may leave: outside its range nothing new, inside each byte between the two it was
to go between. -/
structure Programs (s : Flash) (bank : SoundBankId) (offset : Nat) (bytes : List UInt8)
    (s' : Flash) : Prop where
  other : ∀ target ≠ bank, s' target = s target
  outside : ∀ i, i < offset ∨ offset + bytes.length ≤ i → s' bank i = s bank i
  inside : ∀ i byte, bytes[i]? = some byte →
    Between (s bank (offset + i) &&& byte) (s bank (offset + i)) (s' bank (offset + i))

/-- What an erase may leave. -/
structure Erases (s : Flash) (bank : SoundBankId) (offset n : Nat) (s' : Flash) : Prop where
  other : ∀ target ≠ bank, s' target = s target
  outside : ∀ i, i < offset ∨ offset + n ≤ i → s' bank i = s bank i
  inside : ∀ i, offset ≤ i → i < offset + n → Between (s bank i) 0xFF (s' bank i)

/-- The faults that a call inside the bank can meet. -/
def Faulty (e : SoundStorageFault) : Prop := e = .unavailable ∨ e = .ioError

/-- Two banks of NOR flash; `evident` relates the states before and after an erase that did not succeed. -/
def soundFlash (evident : Flash → Flash → Prop) : Device StorageCall StorageAnswer Flash where
  answers s c r s' :=
    match c with
    | .read bank offset n => s' = s ∧ (r = .ok (region (s bank) offset n) ∨ ∃ e, Faulty e ∧ r = .error e)
    | .write bank offset bytes =>
      Programs s bank offset bytes s' ∧
        ((r = .ok () ∧ ∀ i byte, bytes[i]? = some byte →
          s' bank (offset + i) = s bank (offset + i) &&& byte) ∨
          ∃ e, Faulty e ∧ r = .error e)
    | .erase bank offset n =>
      Erases s bank offset n s' ∧
        ((r = .ok () ∧ ∀ i, offset ≤ i → i < offset + n → s' bank i = 0xFF) ∨
          ∃ e, Faulty e ∧ r = .error e ∧ evident s s')
    | .checkpoint _ _ _ _ => s' = s ∧ (r = .ok () ∨ ∃ e, Faulty e ∧ r = .error e)
    | .checkpointComplete => s' = s
  stops s c s' :=
    match c with
    | .write bank offset bytes => Programs s bank offset bytes s'
    | .erase bank offset n => Erases s bank offset n s' ∧ evident s s'
    | _ => s' = s

/-- What a flash without faults answers, to a call that does not change it. -/
def faultless (s : Flash) : (c : StorageCall) → StorageAnswer c
  | .read bank offset n => .ok (region (s bank) offset n)
  | .write _ _ _ => .ok ()
  | .erase _ _ _ => .ok ()
  | .checkpoint _ _ _ _ => .ok ()
  | .checkpointComplete => ()

/-! ## Calls of the store -/

abbrev Storage (ε α : Type) : Type := Io StorageCall StorageAnswer ε α

namespace Storage

variable {ε : Type}

/-- A fault as the error `k` makes of it. -/
def orFail {α : Type} (k : SoundStorageFault → ε) : Except SoundStorageFault α → Storage ε α
  | .ok a => pure a
  | .error e => throw (k e)

def read (k : SoundStorageFault → ε) (bank : SoundBankId) (offset length : Nat) :
    Storage ε (List UInt8) := do
  orFail k (← Io.issue (.read bank offset length))

def write (k : SoundStorageFault → ε) (bank : SoundBankId) (offset : Nat) (bytes : List UInt8) :
    Storage ε Unit := do
  orFail k (← Io.issue (.write bank offset bytes))

def erase (k : SoundStorageFault → ε) (bank : SoundBankId) (offset length : Nat) : Storage ε Unit := do
  orFail k (← Io.issue (.erase bank offset length))

/-- `checkpoint`, the work it permits, and `checkpoint_complete`. -/
def work (k : SoundStorageFault → ε) (kind : SoundStorageWorkKind) (bank : SoundBankId)
    (offset length : Nat) : Storage ε Unit := do
  orFail k (← Io.issue (.checkpoint kind bank offset length))
  Io.issue StorageCall.checkpointComplete

end Storage

open Storage

/-- Offset and length of each piece of a region that is taken 256 bytes at a time. -/
def pieces (length : Nat) : List (Nat × Nat) :=
  (List.range ((length + 255) / ioBufferBytes)).map fun i =>
    (ioBufferBytes * i, min ioBufferBytes (length - ioBufferBytes * i))

section Reading
variable {ε : Type} (k : SoundStorageFault → ε)

/-- Reads piece by piece, with a checkpoint for each hash that takes the piece. -/
def readPieces (kinds : List SoundStorageWorkKind) (bank : SoundBankId) (offset : Nat) :
    List (Nat × Nat) → Storage ε (List UInt8)
  | [] => pure []
  | (consumed, amount) :: rest => do
    let bytes ← read k bank (offset + consumed) amount
    kinds.forM fun kind => work k kind bank (offset + consumed) amount
    let more ← readPieces kinds bank offset rest
    return bytes ++ more

/-- The bytes of a region, hashed as they are read. -/
def hashedRegion (kinds : List SoundStorageWorkKind) (bank : SoundBankId) (offset length : Nat) :
    Storage ε (List UInt8) :=
  readPieces k kinds bank offset (pieces length)

/-- The checkpoints of a hash over bytes in memory. -/
def checkPieces (kind : SoundStorageWorkKind) (bank : SoundBankId) (offset : Nat)
    (pieces : List (Nat × Nat)) : Storage ε Unit :=
  pieces.forM fun piece => work k kind bank (offset + piece.1) piece.2

end Reading

/-- `map_io` (sound_asset_store.cpp:120). -/
def mapIo : SoundStorageFault → SoundStoreResult
  | .unavailable => .unavailable
  | .invalidArgument | .outOfBounds | .notAligned => .invalidArgument
  | .ioError => .ioError

def verifyErasedPieces (bank : SoundBankId) (offset : Nat) :
    List (Nat × Nat) → Storage SoundStoreResult Unit
  | [] => pure ()
  | (consumed, amount) :: rest => do
    let bytes ← read mapIo bank (offset + consumed) amount
    refuse (bytes.any (· != 0xFF)) SoundStoreResult.invalidBank
    verifyErasedPieces bank offset rest

def verifyRegionErased (bank : SoundBankId) (offset length : Nat) : Storage SoundStoreResult Unit :=
  verifyErasedPieces bank offset (pieces length)

/-! ## Regions -/

@[simp] theorem length_region (bank : SoundBank) (offset n : Nat) :
    (region bank offset n).length = n := by simp [region]

theorem getElem?_region (bank : SoundBank) (offset n i : Nat) :
    (region bank offset n)[i]? = if i < n then some (bank (offset + i)) else none := by
  by_cases hi : i < n
  · rw [region, List.getElem?_map, List.getElem?_range hi, if_pos hi]
    rfl
  · rw [if_neg hi, List.getElem?_eq_none (by rw [length_region]; omega)]

theorem region_eq_iff {bank bank' : SoundBank} {offset n : Nat} :
    region bank offset n = region bank' offset n ↔ ∀ i, offset ≤ i → i < offset + n → bank i = bank' i := by
  constructor
  · intro h i hle hlt
    have hat := congrArg (·[i - offset]?) h
    simp only [getElem?_region, if_pos (show i - offset < n by omega), Option.some.injEq,
      show offset + (i - offset) = i by omega] at hat
    exact hat
  · intro h
    exact List.map_congr_left fun i hi => h _ (by omega) (by have := List.mem_range.1 hi; omega)

theorem region_add (bank : SoundBank) (offset m n : Nat) :
    region bank offset (m + n) = region bank offset m ++ region bank (offset + m) n := by
  rw [region, List.range_add, List.map_append, List.map_map]
  simp only [region, Function.comp_def, Nat.add_assoc]

/-- The pieces cover the region. -/
theorem flatMap_pieces (bank : SoundBank) (offset length : Nat) :
    (pieces length).flatMap (fun piece => region bank (offset + piece.1) piece.2) =
      region bank offset length := by
  have hcover :
    ∀ m, (List.range m).flatMap (fun i => region bank (offset + 256 * i) (min 256 (length - 256 * i))) =
      region bank offset (min length (256 * m)) := by
    intro m
    induction m with
    | zero => simp [region]
    | succ m ih =>
      rw [List.range_succ, List.flatMap_append, ih, List.flatMap_singleton]
      by_cases hfull : length ≤ 256 * m
      · rw [Nat.min_eq_left hfull, Nat.min_eq_left (show length ≤ 256 * (m + 1) by omega),
          show min 256 (length - 256 * m) = 0 by omega]
        exact List.append_nil _
      · rw [Nat.min_eq_right (show 256 * m ≤ length by omega), ← region_add]
        congr 1
        omega
  have hall := hcover ((length + 255) / 256)
  rw [Nat.min_eq_left (by omega)] at hall
  rw [pieces, List.flatMap_map]
  exact hall

/-! ## Reading -/

/-- Reads of a bank from `low` on, and checkpoints. -/
def ReadsFrom (bank : SoundBankId) (low : Nat) : StorageCall → Prop
  | .read target offset _ => target = bank ∧ low ≤ offset
  | .checkpoint _ _ _ _ => True
  | .checkpointComplete => True
  | .write _ _ _ => False
  | .erase _ _ _ => False

/-- Calls that leave a bank as it is. -/
def Leaves (bank : SoundBankId) : StorageCall → Prop
  | .write target _ _ => target ≠ bank
  | .erase target _ _ => target ≠ bank
  | _ => True

section Observing
variable {ε α : Type} {evident : Flash → Flash → Prop} {F : ε → Prop} {k : SoundStorageFault → ε}
    {bank : SoundBankId} {low : Nat}
  {s s' : Flash}

/-- A driver that reads the bank from `low` on, and nothing else. -/
abbrev Observing (evident : Flash → Flash → Prop) (bank : SoundBankId) (low : Nat) (F : ε → Prop)
    (x : Storage ε α) : Prop :=
  Observes (soundFlash evident) (ReadsFrom bank low) F faultless x

/-- What it finds depends on the bytes there alone. -/
theorem Observing.eval_congr {x : Storage ε α} (hx : Observing evident bank low F x)
    (h : ∀ i, low ≤ i → s bank i = s' bank i) :
    x.eval (faultless s) = x.eval (faultless s') := by
  refine Observes.eval_congr hx fun c hc => ?_
  cases c with
  | read target offset n =>
    obtain ⟨rfl, hlow⟩ := hc
    refine ⟨?_, rfl, .inl rfl⟩
    show Except.ok _ = Except.ok _
    rw [region_eq_iff.2 fun i hi _ => h i (hlow.trans hi)]
  | write _ _ _ => exact hc.elim
  | erase _ _ _ => exact hc.elim
  | checkpoint _ _ _ _ => exact ⟨rfl, rfl, .inl rfl⟩
  | checkpointComplete => exact ⟨rfl, rfl⟩

theorem ReadsFrom.leaves {target : SoundBankId} : ∀ c, ReadsFrom bank low c → Leaves target c
  | .read _ _ _, _ => trivial
  | .checkpoint _ _ _ _, _ => trivial
  | .checkpointComplete, _ => trivial

/-- A bank that a call leaves has the bytes it had, whatever comes of the call. -/
theorem leaves_answers {target : SoundBankId} {c : StorageCall} {r : StorageAnswer c} (hc : Leaves target c)
    (h : (soundFlash evident).answers s c r s') : s' target = s target := by
  cases c with
  | read _ _ _ => rw [h.1]
  | write _ _ _ => exact h.1.other target (Ne.symm hc)
  | erase _ _ _ => exact h.1.other target (Ne.symm hc)
  | checkpoint _ _ _ _ => rw [h.1]
  | checkpointComplete => exact congrFun h target

theorem leaves_stops {target : SoundBankId} {c : StorageCall} (hc : Leaves target c)
    (h : (soundFlash evident).stops s c s') :
    s' target = s target := by
  cases c with
  | read _ _ _ => exact congrFun h target
  | write _ _ _ => exact h.other target (Ne.symm hc)
  | erase _ _ _ => exact h.1.other target (Ne.symm hc)
  | checkpoint _ _ _ _ => exact congrFun h target
  | checkpointComplete => exact congrFun h target

/-- The same for an execution. -/
theorem leaves_exec {target : SoundBankId} {x : Driver StorageCall StorageAnswer α}
    {calls : List StorageCall} {o : Option α}
    (h : Exec (soundFlash evident) x s calls o s') (hcalls : ∀ c ∈ calls, Leaves target c) :
    s' target = s target :=
  Exec.preserves (G := Leaves target) (I := fun u => u target = s target)
    (fun _ _ _ _ hc hanswer heq => (leaves_answers hc hanswer).trans heq)
    (fun _ _ _ hc hstop heq => (leaves_stops hc hstop).trans heq) h hcalls rfl

theorem observing_read (hk : ∀ e, Faulty e → F (k e)) {offset : Nat} (hlow : low ≤ offset) (n : Nat) :
    Observing evident bank low F (read k bank offset n) := by
  refine observes_of_wp fun s => ?_
  refine ⟨⟨rfl, hlow⟩, fun s' h => h, ?_⟩
  rintro r s' ⟨rfl, hr⟩
  rcases hr with rfl | ⟨e, he, rfl⟩
  · exact ⟨rfl, .inl rfl⟩
  · exact ⟨rfl, .inr ⟨k e, hk e he, rfl⟩⟩

theorem observing_work (hk : ∀ e, Faulty e → F (k e)) (kind : SoundStorageWorkKind)
    (target : SoundBankId) (offset n : Nat) :
    Observing evident bank low F (work k kind target offset n) := by
  refine observes_of_wp fun s => ?_
  refine ⟨trivial, fun s' h => h, ?_⟩
  rintro r s' ⟨rfl, hr⟩
  rcases hr with rfl | ⟨e, he, rfl⟩
  · refine ⟨trivial, fun s'' h => h, ?_⟩
    rintro ⟨⟩ s'' rfl
    exact ⟨rfl, .inl rfl⟩
  · exact ⟨rfl, .inr ⟨k e, hk e he, rfl⟩⟩

theorem observing_readPieces (hk : ∀ e, Faulty e → F (k e)) (kinds : List SoundStorageWorkKind)
    {offset : Nat} (hlow : low ≤ offset)
    (l : List (Nat × Nat)) : Observing evident bank low F (readPieces k kinds bank offset l) := by
  induction l with
  | nil => exact observes_pure []
  | cons piece l ih =>
    refine observes_bind (observing_read hk (hlow.trans (Nat.le_add_right ..)) _) fun bytes => ?_
    refine observes_bind (observes_forM (fun kind => observing_work hk kind _ _ _) kinds) fun _ => ?_
    exact observes_bind ih fun more => observes_pure _

theorem observing_hashedRegion (hk : ∀ e, Faulty e → F (k e)) (kinds : List SoundStorageWorkKind)
    {offset : Nat}
    (hlow : low ≤ offset) (n : Nat) : Observing evident bank low F (hashedRegion k kinds bank offset n) :=
  observing_readPieces hk kinds hlow _

theorem observing_checkPieces (hk : ∀ e, Faulty e → F (k e)) (kind : SoundStorageWorkKind)
    (target : SoundBankId) (offset : Nat)
    (l : List (Nat × Nat)) : Observing evident bank low F (checkPieces k kind target offset l) :=
  observes_forM (fun _ => observing_work hk kind _ _ _) l

theorem observing_verifyRegionErased {F : SoundStoreResult → Prop} (hk : ∀ e, Faulty e → F (mapIo e))
    {offset : Nat}
    (hlow : low ≤ offset) (n : Nat) : Observing evident bank low F (verifyRegionErased bank offset n) := by
  have hall : ∀ l, Observing evident bank low F (verifyErasedPieces bank offset l) := by
    intro l
    induction l with
    | nil => exact observes_pure ()
    | cons piece l ih =>
      refine observes_bind (observing_read hk (hlow.trans (Nat.le_add_right ..)) _) fun bytes => ?_
      exact observes_bind (observes_refuse _ _) fun _ => ih
  exact hall _

@[simp] theorem eval_read (offset n : Nat) :
    (read k bank offset n).eval (faultless s) = .ok (region (s bank) offset n) := rfl

@[simp] theorem eval_work (kind : SoundStorageWorkKind) (offset n : Nat) :
    (work k kind bank offset n).eval (faultless s) = .ok () := rfl

theorem eval_forM_work (kinds : List SoundStorageWorkKind) (offset n : Nat) :
    (kinds.forM fun kind => work k kind bank offset n).eval (faultless s) = .ok () := by
  induction kinds with
  | nil => rfl
  | cons kind kinds ih =>
    show Io.eval _ (_ >>= _) = _
    rw [Io.eval_bind, eval_work]
    exact ih

@[simp] theorem eval_hashedRegion (kinds : List SoundStorageWorkKind) (offset n : Nat) :
    (hashedRegion k kinds bank offset n).eval (faultless s) = .ok (region (s bank) offset n) := by
  have hall : ∀ l, (readPieces k kinds bank offset l).eval (faultless s) =
      .ok (l.flatMap fun piece => region (s bank) (offset + piece.1) piece.2) := by
    intro l
    induction l with
    | nil => rfl
    | cons piece l ih =>
      rw [readPieces, Io.eval_bind, eval_read]
      show Io.eval _ (_ >>= _) = _
      rw [Io.eval_bind, eval_forM_work]
      show Io.eval _ (_ >>= _) = _
      rw [Io.eval_bind, ih]
      rfl
  rw [hashedRegion, hall, flatMap_pieces]

@[simp] theorem eval_checkPieces (kind : SoundStorageWorkKind) (offset : Nat) (l : List (Nat × Nat)) :
    (checkPieces k kind bank offset l).eval (faultless s) = .ok () := by
  induction l with
  | nil => rfl
  | cons piece l ih =>
    show Io.eval _ (_ >>= _) = _
    rw [Io.eval_bind, eval_work]
    exact ih

/-- An erased region passes. -/
theorem verifyRegionErased_eq_ok {offset n : Nat} :
    (verifyRegionErased bank offset n).eval (faultless s) = .ok () ↔ ∀ i, offset ≤ i →
      i < offset + n → s bank i = 0xFF := by
  have hall : ∀ l, (verifyErasedPieces bank offset l).eval (faultless s) = .ok () ↔
      ∀ byte ∈ l.flatMap (fun piece => region (s bank) (offset + piece.1) piece.2), byte = 0xFF := by
    intro l
    induction l with
    | nil => simp [verifyErasedPieces]
    | cons piece l ih =>
      rw [verifyErasedPieces, Io.eval_bind, eval_read, List.flatMap_cons, List.forall_mem_append, ← ih]
      show Io.eval _ (_ >>= _) = _ ↔ _
      rw [Io.eval_bind, Io.eval_refuse]
      by_cases herased : (region (s bank) (offset + piece.1) piece.2).any (· != 0xFF) = true
      · rw [if_pos herased]
        obtain ⟨byte, hmem, hbyte⟩ := List.any_eq_true.1 herased
        constructor
        · intro h
          cases h
        · intro h
          rw [h.1 byte hmem] at hbyte
          exact absurd hbyte (by decide)
      · rw [if_neg herased]
        constructor
        · intro h
          refine ⟨fun byte hmem => ?_, h⟩
          by_contra hbyte
          exact herased (List.any_eq_true.2 ⟨byte, hmem, bne_iff_ne.2 hbyte⟩)
        · intro h
          exact h.2
  rw [verifyRegionErased, hall, flatMap_pieces]
  simp only [region, List.forall_mem_map, List.mem_range]
  constructor
  · intro h i hle hlt
    have hat := h (i - offset) (by omega)
    rwa [show offset + (i - offset) = i by omega] at hat
  · intro h i hi
    exact h _ (by omega) (by omega)

end Observing

/-! ## Changing -/

section Changing
variable {S ε : Type} {evident : Flash → Flash → Prop} {G : StorageCall → Prop}
    {P : Except ε Unit → S → Flash → Prop}
  {K : Flash → Prop} {k : SoundStorageFault → ε} {bank : SoundBankId} {offset n : Nat}
  {bytes : List UInt8} {st : S} {s : Flash}

theorem meets_write (hG : G (.write bank offset bytes)) (hK : ∀ s', Programs s bank offset bytes s' → K s')
    (hok : ∀ s', Programs s bank offset bytes s' →
      (∀ i byte, bytes[i]? = some byte → s' bank (offset + i) = s bank (offset + i) &&& byte) →
        P (.ok ()) st s')
    (herror : ∀ e s', Faulty e → Programs s bank offset bytes s' → P (.error (k e)) st s') :
    Meets (soundFlash evident) G (Method.lift (write k bank offset bytes) : Method _ _ S ε Unit) P K
      st s := by
  refine meets_lift ⟨hG, hK, ?_⟩
  rintro r s' ⟨hprogram, hr⟩
  rcases hr with ⟨rfl, hexact⟩ | ⟨e, he, rfl⟩
  · exact hok s' hprogram hexact
  · exact herror e s' he hprogram

theorem meets_erase (hG : G (.erase bank offset n))
    (hK : ∀ s', Erases s bank offset n s' → evident s s' → K s')
    (hok : ∀ s', Erases s bank offset n s' →
      (∀ i, offset ≤ i → i < offset + n → s' bank i = 0xFF) → P (.ok ()) st s')
    (herror : ∀ e s', Faulty e → Erases s bank offset n s' → evident s s' → P (.error (k e)) st s') :
    Meets (soundFlash evident) G (Method.lift (erase k bank offset n) : Method _ _ S ε Unit) P K st s := by
  refine meets_lift ⟨hG, fun s' h => hK s' h.1 h.2, ?_⟩
  rintro r s' ⟨herase, hr⟩
  rcases hr with ⟨rfl, hexact⟩ | ⟨e, he, rfl, hevident⟩
  · exact hok s' herase hexact
  · exact herror e s' he herase hevident

end Changing

end CodexKeyboard.Assets
