import CodexKeyboard.Assets.Protocol
import CodexKeyboard.Lib.Bitmap
import CodexKeyboard.Lib.Run
/-!
# Reassembly of plans and units

The two assemblers with their buffer, their bitmap and their counter, and what any sequence of
fragments leaves in them (`src/firmware/features/speaker_assets/speaker_assets_protocol.cpp`).

| here | there |
| --- | --- |
| `Fragments` | `bytes_`, `received_`, `received_bytes_` of either class (speaker_assets_protocol.h:213, 256) |
| `Fragments.byteReceived`, `markByteReceived` | 560-569, 688-697 |
| `Fragments.disagrees`, `write` | the two loops of `accept_fragment` (473-487, 626-640) |
| `SpeakerAssetsPlanAssembler` | 429-569 |
| `SpeakerAssetsBlockAssembler` | 571-697 |

`PlanAssembler` and `BlockAssembler`, which the session works with, keep one cell for each byte
instead (`SpeakerAssetsPlanAssembler.acceptFragment_refines`,
`SpeakerAssetsBlockAssembler.acceptFragment_refines`).
-/

namespace CodexKeyboard.Assets

open Lib Buffer Reassembly

/-! ## The buffer and its bitmap -/

structure Fragments where
  bytes : List UInt8
  received : List UInt8
  receivedBytes : Nat
deriving DecidableEq, Repr

namespace Fragments

def reset (size : Nat) : Fragments :=
  { bytes := List.replicate size 0, received := List.replicate (size / 8) 0, receivedBytes := 0 }

def byteReceived (held : Fragments) (index : Nat) : Bool := Bitmap.member held.received index

def markByteReceived (held : Fragments) (index : Nat) : Fragments :=
  { held with received := Bitmap.mark held.received index }

/-- The first loop: some byte has arrived with another value. -/
def disagrees (held : Fragments) : Nat → List UInt8 → Bool
  | _, [] => false
  | destination, byte :: data =>
    (held.byteReceived destination && held.bytes.getD destination 0 != byte) ||
      held.disagrees (destination + 1) data

def writeByte (held : Fragments) (destination : Nat) (byte : UInt8) : Fragments :=
  { held.markByteReceived destination with
    bytes := held.bytes.set destination byte, receivedBytes := held.receivedBytes + 1 }

/-- The second loop. -/
def write : Fragments → Nat → List UInt8 → Fragments
  | held, _, [] => held
  | held, destination, byte :: data =>
    write (if held.byteReceived destination then held else held.writeByte destination byte)
      (destination + 1) data

def accept (held : Fragments) (offset : Nat) (data : List UInt8) :
    SpeakerAssetsProtocolResult × Fragments :=
  if held.disagrees offset data then (.conflict, held) else (.ok, held.write offset data)

/-- The first of `size` positions whose bit is clear, or `size`. -/
def firstMissing (held : Fragments) (size : Nat) : Nat :=
  ((List.range size).find? fun index => !held.byteReceived index).getD size

end Fragments

/-! ## The assemblers -/

structure SpeakerAssetsPlanAssembler where
  held : Fragments := .reset 640
  owner : SpeakerAssetsRouteToken := {}
  beginId : UInt32 := 0
  bound : Bool := false
deriving DecidableEq, Repr

namespace SpeakerAssetsPlanAssembler

def begin (assembler : SpeakerAssetsPlanAssembler) (owner : SpeakerAssetsRouteToken) (beginId : UInt32) :
    SpeakerAssetsProtocolResult × SpeakerAssetsPlanAssembler :=
  if routeIsValid owner = false ∨ beginId = 0 then (.invalidArgument, assembler)
  else if assembler.bound then
    (if assembler.owner = owner ∧ assembler.beginId = beginId then .ok else .wrongOwner, assembler)
  else (.ok, { assembler with owner, beginId, bound := true })

def acceptFragment (assembler : SpeakerAssetsPlanAssembler) (owner : SpeakerAssetsRouteToken)
    (beginId : UInt32)
    (offset : UInt16) (data : List UInt8) : SpeakerAssetsProtocolResult × SpeakerAssetsPlanAssembler :=
  if assembler.bound = false ∨ assembler.owner ≠ owner ∨ assembler.beginId ≠ beginId then
    (.wrongOwner, assembler)
  else if data = [] then (.invalidArgument, assembler)
  else if data.length > wifiFrameBodyBytes ∨ offset.toNat > 640 ∨ data.length > 640 - offset.toNat then
    (.outOfBounds, assembler)
  else
    let (result, held) := assembler.held.accept offset.toNat data
    (result, { assembler with held })

def receivedBytes (assembler : SpeakerAssetsPlanAssembler) : Nat := assembler.held.receivedBytes
def complete (assembler : SpeakerAssetsPlanAssembler) : Bool :=
  assembler.bound && assembler.held.receivedBytes == 640
def firstMissingOffset (assembler : SpeakerAssetsPlanAssembler) : Nat := assembler.held.firstMissing 640

def copyReceivedBitmap (assembler : SpeakerAssetsPlanAssembler) (bitmapOffset length : Nat) :
    Except SpeakerAssetsProtocolResult (List UInt8) :=
  if bitmapOffset > 80 ∨ length > 80 - bitmapOffset then .error .outOfBounds
  else .ok (slice assembler.held.received bitmapOffset length)

end SpeakerAssetsPlanAssembler

structure SpeakerAssetsBlockAssembler where
  held : Fragments := .reset 4096
  region : SpeakerAssetsRegion := .manifest
  unitIndex : UInt16 := 0
  expectedBytes : UInt16 := 0
  active : Bool := false
deriving DecidableEq, Repr

namespace SpeakerAssetsBlockAssembler

/-- `begin`, with the `reset` it makes. -/
def begin (assembler : SpeakerAssetsBlockAssembler) (region : SpeakerAssetsRegion)
    (unitIndex expectedBytes : UInt16) :
    SpeakerAssetsProtocolResult × SpeakerAssetsBlockAssembler :=
  if expectedBytes = 0 ∨ expectedBytes.toNat > 4096 ∨ (region = .manifest ∧ unitIndex ≠ 0)
      ∨ (region = .payload ∧ unitIndex.toNat ≥ soundPayloadBlockCount) then (.invalidArgument, assembler)
  else (.ok, { held := .reset 4096, region, unitIndex, expectedBytes, active := true })

def acceptFragment (assembler : SpeakerAssetsBlockAssembler) (region : SpeakerAssetsRegion)
    (unitIndex offset : UInt16)
    (data : List UInt8) : SpeakerAssetsProtocolResult × SpeakerAssetsBlockAssembler :=
  if assembler.active = false then (.incomplete, assembler)
  else if region ≠ assembler.region ∨ unitIndex ≠ assembler.unitIndex then (.wrongUnit, assembler)
  else if data = [] then (.invalidArgument, assembler)
  else if data.length > wifiFrameBodyBytes ∨ offset > assembler.expectedBytes
      ∨ data.length > assembler.expectedBytes.toNat - offset.toNat then (.outOfBounds, assembler)
  else
    let (result, held) := assembler.held.accept offset.toNat data
    (result, { assembler with held })

def receivedBytes (assembler : SpeakerAssetsBlockAssembler) : Nat := assembler.held.receivedBytes
def complete (assembler : SpeakerAssetsBlockAssembler) : Bool :=
  assembler.active && assembler.held.receivedBytes == assembler.expectedBytes.toNat
def firstMissingOffset (assembler : SpeakerAssetsBlockAssembler) : Nat :=
  if assembler.active then assembler.held.firstMissing assembler.expectedBytes.toNat else 0

def copyReceivedBitmap (assembler : SpeakerAssetsBlockAssembler) (bitmapOffset length : Nat) :
    Except SpeakerAssetsProtocolResult (List UInt8) :=
  let bitmapBytes := (assembler.expectedBytes.toNat + 7) / 8
  if assembler.active = false ∨ bitmapOffset > bitmapBytes ∨ length > bitmapBytes - bitmapOffset then
    .error .outOfBounds
  else .ok (slice assembler.held.received bitmapOffset length)

end SpeakerAssetsBlockAssembler

/-! ## What the buffer, the bitmap and the counter stand for -/

/-- Buffer, bitmap and counter are those of these cells, and a byte that has not arrived is zero. -/
structure Fragments.Represents (held : Fragments) (cells : Cells UInt8) : Prop where
  bytes : held.bytes = contents cells 0
  bitmap : held.received.length * 8 = cells.length
  byteReceived : ∀ index, held.byteReceived index = true ↔ Arrived cells index
  count : held.receivedBytes = Reassembly.received cells

namespace Fragments

theorem represents_reset {size : Nat} (h : size / 8 * 8 = size) :
    (reset size).Represents (Reassembly.empty size) := by
  refine ⟨?_, ?_, fun index => ?_, ?_⟩
  · simp [reset, contents, Reassembly.empty]
  · rw [length_empty, reset, List.length_replicate, h]
  · rw [byteReceived, reset, Bitmap.member_replicate]
    exact iff_of_false Bool.false_ne_true (not_arrived_empty size index)
  · simp [reset, Reassembly.received, Reassembly.empty, List.countP_replicate]

namespace Represents
variable {held held' : Fragments} {cells : Cells UInt8}

/-- The cells determine all three. -/
theorem unique (h : held.Represents cells) (h' : held'.Represents cells) : held = held' := by
  have hreceived : held.received = held'.received := by
    refine Bitmap.ext ?_ fun index _ => ?_
    · have := h.bitmap.trans h'.bitmap.symm
      omega
    · exact Bool.eq_iff_iff.mpr ((h.byteReceived index).trans (h'.byteReceived index).symm)
  cases held
  cases held'
  cases h.bytes.trans h'.bytes.symm
  cases h.count.trans h'.count.symm
  cases hreceived
  rfl

theorem getD_bytes (h : held.Represents cells) (index : Nat) :
    held.bytes.getD index 0 = (cells.getD index none).getD 0 := by
  simp only [h.bytes, contents, List.getD_eq_getElem?_getD, List.getElem?_map]
  cases cells[index]? <;> rfl

theorem byteReceived_eq (h : held.Represents cells) (index : Nat) :
    held.byteReceived index = (cells.getD index none).isSome := by
  rw [Bool.eq_iff_iff, h.byteReceived, Arrived, List.getD_eq_getElem?_getD, Option.isSome_iff_exists]
  cases cells[index]? with
  | none => simp
  | some cell => simp

/-- A byte stored in an empty cell is counted once. -/
theorem writeByte (h : held.Represents cells) {destination : Nat} (byte : UInt8)
    (hlt : destination < cells.length)
    (hempty : held.byteReceived destination = false) :
    (held.writeByte destination byte).Represents (cells.set destination (some byte)) := by
  have hcell : cells[destination] = none := by
    have hbit := (h.byteReceived_eq destination).symm.trans hempty
    rwa [List.getD_eq_getElem?_getD, List.getElem?_eq_getElem hlt,
      Option.getD_some, Option.isSome_eq_false_iff,
      Option.isNone_iff_eq_none] at hbit
  have hword : destination / 8 < held.received.length := by
    have := h.bitmap
    omega
  refine ⟨?_, ?_, fun index => ?_, ?_⟩
  · show held.bytes.set destination byte = _
    rw [h.bytes, contents, contents, List.map_set]
    rfl
  · rw [List.length_set, ← h.bitmap]
    exact congrArg (· * 8) (Bitmap.length_mark ..)
  · show Bitmap.member (Bitmap.mark held.received destination) index = true ↔ _
    rw [Bitmap.member_mark hword]
    have hold := h.byteReceived index
    rw [Fragments.byteReceived] at hold
    rw [hold, Arrived, Arrived]
    by_cases hindex : index = destination
    · subst hindex
      exact iff_of_true (.inr rfl) ⟨byte, by rw [List.getElem?_set_self hlt]⟩
    · rw [List.getElem?_set_ne (Ne.symm hindex)]
      exact or_iff_left hindex
  · show held.receivedBytes + 1 = _
    rw [h.count, Reassembly.received, Reassembly.received, List.countP_set hlt, hcell]
    simp

theorem disagrees_eq (h : held.Represents cells) (offset : Nat) (data : List UInt8) :
    held.disagrees offset data = conflicts cells offset data := by
  induction data generalizing offset with
  | nil => rfl
  | cons byte data ih =>
    rw [disagrees, ih, h.byteReceived_eq, h.getD_bytes, conflicts,
      conflicts, List.zipIdx_cons, List.any_cons]
    congr 1
    dsimp only
    cases cells.getD offset none <;> rfl

theorem write (h : held.Represents cells) (offset : Nat) (data : List UInt8)
    (hfits : offset + data.length ≤ cells.length) :
    (held.write offset data).Represents (fill cells offset data) := by
  induction data generalizing held cells offset with
  | nil => exact h
  | cons byte data ih =>
    rw [List.length_cons] at hfits
    rw [Fragments.write, fill]
    cases hbit : held.byteReceived offset with
    | true =>
      have hsome := (h.byteReceived_eq offset).symm.trans hbit
      have hnone : (cells.getD offset none).isNone = false := by rw [← Option.not_isSome, hsome]; rfl
      rw [if_pos rfl, if_neg (by rw [hnone]; exact Bool.false_ne_true)]
      exact ih h (offset + 1) (by omega)
    | false =>
      have hsome := (h.byteReceived_eq offset).symm.trans hbit
      have hnone : (cells.getD offset none).isNone = true := by rw [← Option.not_isSome, hsome]; rfl
      rw [if_neg Bool.false_ne_true, if_pos hnone]
      exact ih (h.writeByte byte (by omega) hbit) (offset + 1) (by rw [List.length_set]; omega)

/-- `accept_fragment` on the buffer is `accept` on the cells, and a refused fragment leaves the
buffer alone. -/
theorem accept (h : held.Represents cells) {offset : Nat} {data : List UInt8}
    (hfits : offset + data.length ≤ cells.length) :
    (Reassembly.accept cells offset data = none ∧ held.accept offset data = (.conflict, held)) ∨
      ∃ cells' held', Reassembly.accept cells offset data = some cells' ∧
      held.accept offset data = (.ok, held')
        ∧ held'.Represents cells' := by
  rw [Fragments.accept, Reassembly.accept, h.disagrees_eq]
  cases conflicts cells offset data with
  | true => exact .inl ⟨rfl, rfl⟩
  | false => exact .inr ⟨_, _, rfl, rfl, h.write offset data hfits⟩

end Represents

end Fragments

/-! ## Sequences of fragments -/

/-- A call of `accept_fragment`. The key is what the assembler is bound to: the owner and the
request, or the unit. -/
structure FragmentCall (κ : Type) where
  key : κ
  offset : UInt16
  data : List UInt8
deriving DecidableEq, Repr

section Calls
variable {σ κ : Type} {step : σ → FragmentCall κ → SpeakerAssetsProtocolResult × σ}
    {wrap : Fragments → σ} {key : κ}
  {size capacity : Nat} {held : Fragments} {fragments : List (Nat × List UInt8)}

def FragmentCall.fragment (call : FragmentCall κ) : Nat × List UInt8 := (call.offset.toNat, call.data)

/-- The fragment is for this object and lies in it. -/
def FragmentCall.Admissible (key : κ) (size : Nat) (call : FragmentCall κ) : Prop :=
  call.key = key ∧ call.data ≠ [] ∧ call.data.length ≤ wifiFrameBodyBytes ∧
  call.offset.toNat + call.data.length ≤ size

/-- Where both fragments cover a position, they carry the same byte. -/
def FragmentsAgree (first second : Nat × List UInt8) : Prop :=
  ∀ (i j : Nat) (a b : UInt8), first.2[i]? = some a → second.2[j]? = some b →
  first.1 + i = second.1 + j → a = b

/-- The calls of a run that answer `Ok`. -/
def acceptedCalls (step : σ → FragmentCall κ → SpeakerAssetsProtocolResult × σ) :
    σ → List (FragmentCall κ) → List (FragmentCall κ)
  | _, [] => []
  | state, call :: calls =>
    (if (step state call).1 = .ok then [call] else []) ++ acceptedCalls step (step state call).2 calls

/-- The fragments of the calls that answer `Ok`. -/
def acceptedFragments (step : σ → FragmentCall κ → SpeakerAssetsProtocolResult × σ) (start : σ)
    (calls : List (FragmentCall κ)) :
    List (Nat × List UInt8) :=
  (acceptedCalls step start calls).map FragmentCall.fragment

theorem acceptedFragments_cons (start : σ) (call : FragmentCall κ) (calls : List (FragmentCall κ)) :
    acceptedFragments step start (call :: calls) =
      (if (step start call).1 = .ok then [call.fragment] else []) ++
        acceptedFragments step (step start call).2 calls := by
  rw [acceptedFragments, acceptedCalls, List.map_append, acceptedFragments]
  split <;> rfl

/-- An assembler that keeps its fragments as `wrap` does, for the object `key` of `size` bytes. -/
structure Wraps (step : σ → FragmentCall κ → SpeakerAssetsProtocolResult × σ) (wrap : Fragments → σ)
    (key : κ) (size : Nat) :
    Prop where
  admitted : ∀ held call, call.Admissible key size →
    step (wrap held) call = ((held.accept call.offset.toNat call.data).1,
      wrap (held.accept call.offset.toNat call.data).2)
  refused : ∀ held call, ¬ call.Admissible key size →
    (step (wrap held) call).1 ≠ .ok ∧ (step (wrap held) call).2 = wrap held

/-- The buffer holds exactly these fragments. -/
structure Fragments.Collected (held : Fragments) (size capacity : Nat)
    (fragments : List (Nat × List UInt8)) (cells : Cells UInt8) :
    Prop where
  length : cells.length = capacity
  represents : held.Represents cells
  holds : Holds cells fragments
  within : ∀ fragment ∈ fragments, fragment.1 + fragment.2.length ≤ size

theorem collected_reset (size : Nat) {capacity : Nat} (h : capacity / 8 * 8 = capacity) :
    (Fragments.reset capacity).Collected size capacity [] (Reassembly.empty capacity) :=
  ⟨length_empty capacity, Fragments.represents_reset h, holds_empty capacity,
    fun _ hmem => absurd hmem List.not_mem_nil⟩

/-- A conflict with what has arrived is a conflict with an accepted fragment. -/
theorem conflicts_iff_disagrees {cells : Cells UInt8} (hholds : Holds cells fragments) (offset : Nat)
    (data : List UInt8) :
    conflicts cells offset data = true ↔
    ¬ ∀ fragment ∈ fragments, FragmentsAgree fragment (offset, data) := by
  rw [conflicts_iff]
  constructor
  · rintro ⟨i, a, b, hdata, hcell, hne⟩ hagree
    obtain ⟨fragment, hmem, hlo, hhi⟩ := (hholds.arrived _).mp ⟨b, hcell⟩
    have hat :
      fragment.2[offset + i - fragment.1]? = some (fragment.2.get ⟨offset + i - fragment.1, by omega⟩) :=
      List.getElem?_eq_getElem _
    have hheld := hholds.element fragment hmem _ _ hat
    rw [Nat.add_sub_cancel' hlo, hcell] at hheld
    cases hheld
    exact hne (hagree fragment hmem _ i _ a hat hdata (Nat.add_sub_cancel' hlo))
  · intro hnot
    by_contra hnone
    refine hnot fun fragment hmem i j a b hfirst hsecond hpos => ?_
    by_contra hne
    exact hnone ⟨j, b, a, hsecond, hpos ▸ hholds.element fragment hmem i a hfirst, hne⟩

/-- One call: it is accepted exactly if the fragment is for the object, lies in it and agrees with
the accepted ones. -/
theorem Wraps.step_spec {cells : Cells UInt8} (hwraps : Wraps step wrap key size) (hsize : size ≤ capacity)
    (h : held.Collected size capacity fragments cells) (call : FragmentCall κ) :
    ((step (wrap held) call).1 = .ok ↔
        call.Admissible key size ∧ ∀ fragment ∈ fragments, FragmentsAgree fragment call.fragment)
      ∧ ((step (wrap held) call).1 ≠ .ok → (step (wrap held) call).2 = wrap held)
      ∧ ∃ held' cells', (step (wrap held) call).2 = wrap held'
        ∧ held'.Collected size capacity (fragments ++ if (step (wrap held) call).1 = .ok then
          [call.fragment] else []) cells' := by
  by_cases hadmissible : call.Admissible key size
  · have hfits : call.offset.toNat + call.data.length ≤ cells.length :=
      h.length ▸ hadmissible.2.2.2.trans hsize
    have hconflict := conflicts_iff_disagrees h.holds call.offset.toNat call.data
    rw [hwraps.admitted held call hadmissible]
    rcases h.represents.accept hfits with ⟨hnone, hanswer⟩ | ⟨cells', held', hsome, hanswer, hrepresents⟩
    · rw [hanswer]
      have hrefused : conflicts cells call.offset.toNat call.data = true := by
        by_contra hfree
        rw [Reassembly.accept, if_neg hfree] at hnone
        cases hnone
      have hne : SpeakerAssetsProtocolResult.conflict ≠ .ok := by decide
      refine ⟨iff_of_false hne fun hall => hconflict.mp hrefused hall.2, fun _ => rfl, held, cells, rfl, ?_⟩
      rw [if_neg hne, List.append_nil]
      exact h
    · rw [hanswer]
      have hfree : ¬ conflicts cells call.offset.toNat call.data = true := by
        intro hrefused
        rw [Reassembly.accept, if_pos hrefused] at hsome
        cases hsome
      refine ⟨iff_of_true rfl ⟨hadmissible, not_not.mp fun hnot => hfree (hconflict.mpr hnot)⟩,
        fun hne => absurd rfl hne, held', cells', rfl, ?_⟩
      rw [if_pos rfl]
      refine ⟨(length_accept hsome).trans h.length, hrepresents, h.holds.accept hsome hfits,
        fun fragment hmem => ?_⟩
      rcases List.mem_append.mp hmem with hmem | hmem
      · exact h.within fragment hmem
      · obtain rfl := List.mem_singleton.mp hmem
        exact hadmissible.2.2.2
  · obtain ⟨hne, hsame⟩ := hwraps.refused held call hadmissible
    refine ⟨iff_of_false hne fun hall => hadmissible hall.1, fun _ => hsame, held, cells, hsame, ?_⟩
    rw [if_neg hne, List.append_nil]
    exact h

/-- A run of calls holds exactly the fragments it accepted. -/
theorem Wraps.run_spec (hwraps : Wraps step wrap key size) (hsize : size ≤ capacity)
    (calls : List (FragmentCall κ))
    {cells : Cells UInt8} (h : held.Collected size capacity fragments cells) :
    ∃ held' cells', after step (wrap held) calls = wrap held'
      ∧ held'.Collected size capacity (fragments ++ acceptedFragments step (wrap held) calls) cells' := by
  induction calls generalizing held cells fragments with
  | nil =>
    refine ⟨held, cells, rfl, ?_⟩
    rw [acceptedFragments, acceptedCalls, List.map_nil, List.append_nil]
    exact h
  | cons call calls ih =>
    obtain ⟨-, -, held', cells', hnext, hcollected⟩ := hwraps.step_spec hsize h call
    obtain ⟨held'', cells'', hafter, hcollected'⟩ := ih hcollected
    refine ⟨held'', cells'', ?_, ?_⟩
    · rw [after_cons, hnext]
      exact hafter
    · rw [acceptedFragments_cons, hnext, ← List.append_assoc]
      exact hcollected'

/-! ## What is read -/

theorem countP_range_of_bound {p : Nat → Bool} {m n : Nat} (h : ∀ i, p i = true → i < m) (hmn : m ≤ n) :
    (List.range n).countP p = (List.range m).countP p := by
  obtain ⟨k, rfl⟩ := Nat.exists_eq_add_of_le hmn
  rw [List.range_add, List.countP_append, List.countP_map]
  have hnone : (List.range k).countP (p ∘ (m + ·)) = 0 := by
    rw [List.countP_eq_zero]
    intro i _ hp
    have hlt : m + i < m := h _ hp
    omega
  rw [hnone, Nat.add_zero]

namespace Fragments.Collected
variable {cells : Cells UInt8}

theorem covered_lt (h : held.Collected size capacity fragments cells) {i : Nat}
    (hi : Covered fragments i) : i < size := by
  obtain ⟨fragment, hmem, -, hhi⟩ := hi
  exact Nat.lt_of_lt_of_le hhi (h.within fragment hmem)

theorem byteReceived (h : held.Collected size capacity fragments cells) (i : Nat) :
    held.byteReceived i = true ↔ Covered fragments i := by
  rw [h.represents.byteReceived, h.holds.arrived]

theorem bytes (h : held.Collected size capacity fragments cells) {fragment : Nat × List UInt8}
    (hmem : fragment ∈ fragments)
    {i : Nat} {byte : UInt8} (hat : fragment.2[i]? = some byte) :
    held.bytes[fragment.1 + i]? = some byte := by
  rw [h.represents.bytes, contents, List.getElem?_map, h.holds.element fragment hmem i byte hat]
  rfl

theorem receivedBytes (h : held.Collected size capacity fragments cells) (hsize : size ≤ capacity) :
    held.receivedBytes = (List.range size).countP fun i => decide (Covered fragments i) := by
  rw [h.represents.count, h.holds.received_eq, h.length]
  exact countP_range_of_bound (fun i hi => h.covered_lt (of_decide_eq_true hi)) hsize

theorem complete (h : held.Collected size capacity fragments cells) (hsize : size ≤ capacity) :
    held.receivedBytes = size ↔ ∀ i < size, Covered fragments i := by
  have hall := List.countP_eq_length (l := List.range size) (p := fun i => decide (Covered fragments i))
  rw [List.length_range] at hall
  rw [h.receivedBytes hsize, hall]
  simp

theorem firstMissing (h : held.Collected size capacity fragments cells) :
    held.firstMissing size ≤ size ∧ (∀ i < held.firstMissing size, Covered fragments i)
      ∧ (held.firstMissing size < size → ¬ Covered fragments (held.firstMissing size)) := by
  rw [Fragments.firstMissing]
  cases hfind : (List.range size).find? fun index => !held.byteReceived index with
  | none =>
    rw [Option.getD_none]
    refine ⟨Nat.le_refl _, fun i hi => ?_, fun hlt => absurd hlt (Nat.lt_irrefl _)⟩
    have hset := List.find?_eq_none.mp hfind i (List.mem_range.mpr hi)
    rw [← h.byteReceived]
    simpa using hset
  | some index =>
    rw [Option.getD_some]
    obtain ⟨hclear, hbefore⟩ := List.find?_range_eq_some.mp hfind
    refine ⟨(List.mem_range.mp hbefore.1).le, fun i hi => ?_, fun _ hcovered => ?_⟩
    · rw [← h.byteReceived]
      simpa using hbefore.2 i hi
    · rw [← h.byteReceived] at hcovered
      simp [hcovered] at hclear

theorem bitmap (h : held.Collected size capacity fragments cells) {offset n index : Nat}
    (hindex : index < 8 * n) :
    Bitmap.member (slice held.received offset n) index = true ↔ Covered fragments (8 * offset + index) := by
  rw [slice, Bitmap.member_drop_take hindex]
  exact h.byteReceived _

end Fragments.Collected

end Calls

/-! ## The two assemblers -/

/-- What is read from an assembler of `size` bytes that has accepted these fragments. -/
structure Reassembled (held : Fragments) (size receivedBytes firstMissing : Nat) (complete : Bool)
    (copyReceivedBitmap : Nat → Nat → Except SpeakerAssetsProtocolResult (List UInt8))
    (fragments : List (Nat × List UInt8)) :
    Prop where
  within : ∀ i, Covered fragments i → i < size
  received : ∀ i, held.byteReceived i = true ↔ Covered fragments i
  bytes : ∀ fragment ∈ fragments, ∀ (i : Nat) (byte : UInt8), fragment.2[i]? = some byte →
    held.bytes[fragment.1 + i]? = some byte
  count : receivedBytes = (List.range size).countP fun i => decide (Covered fragments i)
  covered_before : ∀ i < firstMissing, Covered fragments i
  firstMissing_le : firstMissing ≤ size
  not_covered : firstMissing < size → ¬ Covered fragments firstMissing
  complete : complete = true ↔ ∀ i < size, Covered fragments i
  bitmap : ∀ offset length copied, copyReceivedBitmap offset length = .ok copied ↔
    offset + length ≤ (size + 7) / 8 ∧ copied.length = length
      ∧ ∀ index < 8 * length, Bitmap.member copied index = true ↔ Covered fragments (8 * offset + index)

theorem Fragments.Collected.bitmap_copy {held : Fragments} {size capacity : Nat}
    {fragments : List (Nat × List UInt8)}
    {cells : Cells UInt8} (h : held.Collected size capacity fragments cells) (hsize : size ≤ capacity)
    (offset length : Nat) (copied : List UInt8) (hfits : offset + length ≤ (size + 7) / 8) :
    slice held.received offset length = copied ↔ copied.length = length
      ∧ ∀ index < 8 * length, Bitmap.member copied index = true ↔
      Covered fragments (8 * offset + index) := by
  have hlength : (slice held.received offset length).length = length := by
    have := h.represents.bitmap
    have := h.length
    rw [length_slice]
    omega
  constructor
  · rintro rfl
    exact ⟨hlength, fun index hindex => h.bitmap hindex⟩
  · rintro ⟨hlen, hmember⟩
    refine Bitmap.ext (hlength.trans hlen.symm) fun index hindex => ?_
    have hlt : index < 8 * length := by omega
    exact Bool.eq_iff_iff.mpr ((h.bitmap hlt).trans (hmember index hlt).symm)

/-- What any sequence of calls does to an assembler of `size` bytes that is bound to `key`. -/
structure Reassembles {σ κ : Type} (step : σ → FragmentCall κ → SpeakerAssetsProtocolResult × σ)
    (start : σ) (key : κ) (size : Nat)
    (held : σ → Fragments) (receivedBytes firstMissing : σ → Nat) (complete : σ → Bool)
    (copyReceivedBitmap : σ → Nat → Nat → Except SpeakerAssetsProtocolResult (List UInt8)) : Prop where
  accepts : ∀ calls call, (step (after step start calls) call).1 = .ok ↔
    call.Admissible key size ∧
    ∀ fragment ∈ acceptedFragments step start calls, FragmentsAgree fragment call.fragment
  refuses : ∀ calls call, (step (after step start calls) call).1 ≠ .ok →
    (step (after step start calls) call).2 = after step start calls
  reads : ∀ calls, Reassembled (held (after step start calls)) size (receivedBytes (after step start calls))
    (firstMissing (after step start calls)) (complete (after step start calls))
    (copyReceivedBitmap (after step start calls))
    (acceptedFragments step start calls)
  order : ∀ calls calls',
    (∀ fragment, fragment ∈ acceptedFragments step start calls ↔
      fragment ∈ acceptedFragments step start calls') →
      after step start calls = after step start calls'

theorem Wraps.reassembles {σ κ : Type} {step : σ → FragmentCall κ → SpeakerAssetsProtocolResult × σ}
    {wrap : Fragments → σ} {key : κ}
    {size capacity : Nat} {held : σ → Fragments} {receivedBytes firstMissing : σ → Nat}
    {complete : σ → Bool}
    {copyReceivedBitmap : σ → Nat → Nat → Except SpeakerAssetsProtocolResult (List UInt8)}
    (hwraps : Wraps step wrap key size) (hsize : size ≤ capacity) (hcapacity : capacity / 8 * 8 = capacity)
    (hreads : ∀ buffer fragments cells, buffer.Collected size capacity fragments cells →
      Reassembled (held (wrap buffer)) size (receivedBytes (wrap buffer))
        (firstMissing (wrap buffer)) (complete (wrap buffer))
        (copyReceivedBitmap (wrap buffer)) fragments) :
    Reassembles step (wrap (.reset capacity)) key size held receivedBytes firstMissing complete
      copyReceivedBitmap := by
  have hrun := fun calls => hwraps.run_spec hsize calls (collected_reset size hcapacity)
  refine ⟨fun calls call => ?_, fun calls call => ?_, fun calls => ?_, fun calls calls' hsame => ?_⟩
  · obtain ⟨buffer, cells, hafter, hcollected⟩ := hrun calls
    rw [hafter]
    exact (hwraps.step_spec hsize hcollected call).1
  · obtain ⟨buffer, cells, hafter, hcollected⟩ := hrun calls
    rw [hafter]
    exact (hwraps.step_spec hsize hcollected call).2.1
  · obtain ⟨buffer, cells, hafter, hcollected⟩ := hrun calls
    rw [hafter]
    exact hreads buffer _ cells hcollected
  · obtain ⟨buffer, cells, hafter, hcollected⟩ := hrun calls
    obtain ⟨buffer', cells', hafter', hcollected'⟩ := hrun calls'
    have hcells : cells = cells' :=
      hcollected.holds.unique hcollected'.holds (hcollected.length.trans hcollected'.length.symm) hsame
    rw [hafter, hafter', hcollected.represents.unique (hcells ▸ hcollected'.represents)]

namespace SpeakerAssetsPlanAssembler

def step (assembler : SpeakerAssetsPlanAssembler) (call : FragmentCall (SpeakerAssetsRouteToken × UInt32)) :
    SpeakerAssetsProtocolResult × SpeakerAssetsPlanAssembler :=
  assembler.acceptFragment call.key.1 call.key.2 call.offset call.data

theorem wraps (owner : SpeakerAssetsRouteToken) (beginId : UInt32) :
    Wraps step (fun held => { held, owner, beginId, bound := true }) (owner, beginId) 640 := by
  constructor
  · intro held call hcall
    obtain ⟨hkey, hdata, hlength, hfits⟩ := hcall
    rw [step, acceptFragment, hkey, if_neg (by simp), if_neg hdata, if_neg (by omega)]
  · intro held call hcall
    rw [step, acceptFragment]
    by_cases hkey : call.key = (owner, beginId)
    · rw [if_neg (by simp [hkey])]
      by_cases hdata : call.data = []
      · rw [if_pos hdata]
        exact ⟨nofun, rfl⟩
      · rw [if_neg hdata, if_pos]
        · exact ⟨nofun, rfl⟩
        · by_contra hin
          exact hcall ⟨hkey, hdata, by omega, by omega⟩
    · rw [if_pos]
      · exact ⟨nofun, rfl⟩
      · by_contra hother
        simp only [Bool.true_eq_false, false_or, not_or, ne_eq, not_not] at hother
        exact hkey (Prod.ext hother.1.symm hother.2.symm)

theorem reassembled {held : Fragments} {owner : SpeakerAssetsRouteToken} {beginId : UInt32}
    {fragments : List (Nat × List UInt8)}
    {cells : Cells UInt8} (h : held.Collected 640 640 fragments cells) :
    let assembler : SpeakerAssetsPlanAssembler := { held, owner, beginId, bound := true }
    Reassembled held 640 assembler.receivedBytes assembler.firstMissingOffset assembler.complete
      assembler.copyReceivedBitmap fragments := by
  intro assembler
  have hmissing := h.firstMissing
  refine ⟨fun i => h.covered_lt, h.byteReceived, fun fragment hmem i byte => h.bytes hmem,
    h.receivedBytes (Nat.le_refl _),
    hmissing.2.1, hmissing.1, hmissing.2.2, ?_, fun offset length copied => ?_⟩
  · rw [complete, Bool.true_and, beq_iff_eq]
    exact h.complete (Nat.le_refl _)
  · rw [copyReceivedBitmap]
    by_cases hin : offset + length ≤ (640 + 7) / 8
    · rw [if_neg (by omega), Except.ok.injEq, h.bitmap_copy (Nat.le_refl _) offset length copied hin]
      exact (and_iff_right hin).symm
    · rw [if_pos (by omega)]
      exact iff_of_false (by rintro ⟨⟩) fun hall => hin hall.1

/-- On the session's assembler of cells: the same answer, and the cells stay those of the buffer. -/
theorem acceptFragment_refines {assembler : SpeakerAssetsPlanAssembler} {model : PlanAssembler}
    (hcells : assembler.held.Represents model.cells) (hlength : model.cells.length = 640)
    (howner : assembler.owner = model.owner) (hbegin : assembler.beginId = model.beginId)
    (hbound : assembler.bound = model.bound)
    (owner : SpeakerAssetsRouteToken) (beginId : UInt32) (offset : UInt16) (data : List UInt8) :
    (∃ result, model.acceptFragment owner beginId offset data = .error result
        ∧ assembler.acceptFragment owner beginId offset data = (result, assembler)) ∨
      ∃ held cells, model.acceptFragment owner beginId offset data = .ok { model with cells }
        ∧ assembler.acceptFragment owner beginId offset data = (.ok, { assembler with held }) ∧
        held.Represents cells := by
  obtain ⟨buffer, _, _, _⟩ := assembler
  subst howner hbegin hbound
  unfold PlanAssembler.acceptFragment acceptFragment
  by_cases hother : model.bound = false ∨ model.owner ≠ owner ∨ model.beginId ≠ beginId
  · rw [if_pos hother, if_pos hother]
    exact .inl ⟨_, rfl, rfl⟩
  rw [if_neg hother, if_neg hother]
  by_cases hdata : data = []
  · rw [if_pos hdata, if_pos hdata]
    exact .inl ⟨_, rfl, rfl⟩
  rw [if_neg hdata, if_neg hdata]
  by_cases hbounds : data.length > wifiFrameBodyBytes ∨ offset.toNat > 640 ∨
    data.length > 640 - offset.toNat
  · rw [if_pos hbounds, if_pos hbounds]
    exact .inl ⟨_, rfl, rfl⟩
  rw [if_neg hbounds, if_neg hbounds, acceptCells]
  rcases @Fragments.Represents.accept _ _ hcells offset.toNat data (by omega) with
    ⟨hnone, hanswer⟩ | ⟨cells, held, hsome, hanswer, hrepresents⟩
  · rw [hnone, hanswer]
    exact .inl ⟨_, rfl, rfl⟩
  · rw [hsome, hanswer]
    exact .inr ⟨held, cells, rfl, rfl, hrepresents⟩

end SpeakerAssetsPlanAssembler

namespace SpeakerAssetsBlockAssembler

def step (assembler : SpeakerAssetsBlockAssembler) (call : FragmentCall (SpeakerAssetsRegion × UInt16)) :
    SpeakerAssetsProtocolResult × SpeakerAssetsBlockAssembler :=
  assembler.acceptFragment call.key.1 call.key.2 call.offset call.data

theorem wraps (region : SpeakerAssetsRegion) (unitIndex expectedBytes : UInt16) :
    Wraps step (fun held => { held, region, unitIndex, expectedBytes, active := true }) (region, unitIndex)
      expectedBytes.toNat := by
  constructor
  · intro held call hcall
    obtain ⟨hkey, hdata, hlength, hfits⟩ := hcall
    rw [step, acceptFragment, hkey, if_neg (by simp), if_neg (by simp), if_neg hdata, if_neg]
    dsimp only
    rw [gt_iff_lt, gt_iff_lt, UInt16.lt_iff_toNat_lt]
    omega
  · intro held call hcall
    rw [step, acceptFragment, if_neg (by simp)]
    by_cases hkey : call.key = (region, unitIndex)
    · rw [if_neg (by simp [hkey])]
      by_cases hdata : call.data = []
      · rw [if_pos hdata]
        exact ⟨nofun, rfl⟩
      · rw [if_neg hdata, if_pos]
        · exact ⟨nofun, rfl⟩
        · by_contra hin
          dsimp only at hin
          rw [gt_iff_lt, gt_iff_lt, UInt16.lt_iff_toNat_lt] at hin
          exact hcall ⟨hkey, hdata, by omega, by omega⟩
    · rw [if_pos]
      · exact ⟨nofun, rfl⟩
      · by_contra hother
        rw [not_or, not_not, not_not] at hother
        exact hkey (Prod.ext hother.1 hother.2)

theorem reassembled {held : Fragments} {region : SpeakerAssetsRegion} {unitIndex expectedBytes : UInt16}
    {fragments : List (Nat × List UInt8)} {cells : Cells UInt8} (hsize : expectedBytes.toNat ≤ 4096)
    (h : held.Collected expectedBytes.toNat 4096 fragments cells) :
    let assembler :
      SpeakerAssetsBlockAssembler := { held, region, unitIndex, expectedBytes, active := true }
    Reassembled held expectedBytes.toNat assembler.receivedBytes assembler.firstMissingOffset
      assembler.complete
      assembler.copyReceivedBitmap fragments := by
  intro assembler
  have hmissing := h.firstMissing
  refine ⟨fun i => h.covered_lt, h.byteReceived,
    fun fragment hmem i byte => h.bytes hmem, h.receivedBytes hsize,
    hmissing.2.1, hmissing.1, hmissing.2.2, ?_, fun offset length copied => ?_⟩
  · rw [complete, Bool.true_and, beq_iff_eq]
    exact h.complete hsize
  · rw [copyReceivedBitmap]
    dsimp only [assembler]
    by_cases hin : offset + length ≤ (expectedBytes.toNat + 7) / 8
    · rw [if_neg (by rw [Bool.true_eq_false, false_or]; omega), Except.ok.injEq,
        h.bitmap_copy hsize offset length copied hin]
      exact (and_iff_right hin).symm
    · rw [if_pos (by omega)]
      exact iff_of_false (by rintro ⟨⟩) fun hall => hin hall.1

/-- On the session's assembler of cells: the same answer, and the cells stay those of the buffer. -/
theorem acceptFragment_refines {assembler : SpeakerAssetsBlockAssembler} {model : BlockAssembler}
    (hcells : assembler.held.Represents model.cells)
    (hlength : model.expectedBytes.toNat ≤ model.cells.length)
    (hregion : assembler.region = model.region) (hunit : assembler.unitIndex = model.unitIndex)
    (hexpected : assembler.expectedBytes = model.expectedBytes) (hactive : assembler.active = model.active)
    (region : SpeakerAssetsRegion) (unitIndex offset : UInt16) (data : List UInt8) :
    (∃ result, model.acceptFragment region unitIndex offset data = .error result
        ∧ assembler.acceptFragment region unitIndex offset data = (result, assembler)) ∨
      ∃ held cells, model.acceptFragment region unitIndex offset data = .ok { model with cells }
        ∧ assembler.acceptFragment region unitIndex offset data = (.ok, { assembler with held }) ∧
        held.Represents cells := by
  obtain ⟨buffer, _, _, _, _⟩ := assembler
  subst hregion hunit hexpected hactive
  unfold BlockAssembler.acceptFragment acceptFragment
  by_cases hidle : model.active = false
  · rw [if_pos hidle, if_pos hidle]
    exact .inl ⟨_, rfl, rfl⟩
  rw [if_neg hidle, if_neg hidle]
  by_cases hother : region ≠ model.region ∨ unitIndex ≠ model.unitIndex
  · rw [if_pos hother, if_pos hother]
    exact .inl ⟨_, rfl, rfl⟩
  rw [if_neg hother, if_neg hother]
  by_cases hdata : data = []
  · rw [if_pos hdata, if_pos hdata]
    exact .inl ⟨_, rfl, rfl⟩
  rw [if_neg hdata, if_neg hdata]
  by_cases hbounds : data.length > wifiFrameBodyBytes ∨ offset > model.expectedBytes
      ∨ data.length > model.expectedBytes.toNat - offset.toNat
  · rw [if_pos hbounds, if_pos hbounds]
    exact .inl ⟨_, rfl, rfl⟩
  rw [if_neg hbounds, if_neg hbounds, acceptCells]
  rw [gt_iff_lt, gt_iff_lt, UInt16.lt_iff_toNat_lt] at hbounds
  rcases @Fragments.Represents.accept _ _ hcells offset.toNat data (by omega) with
    ⟨hnone, hanswer⟩ | ⟨cells, held, hsome, hanswer, hrepresents⟩
  · rw [hnone, hanswer]
    exact .inl ⟨_, rfl, rfl⟩
  · rw [hsome, hanswer]
    exact .inr ⟨held, cells, rfl, rfl, hrepresents⟩

end SpeakerAssetsBlockAssembler

/-- Both assemblers, over every sequence of fragments: a fragment is accepted exactly if it is for
the bound object, lies in it and agrees with what was accepted; a refused one changes nothing; the
buffer, the counter, the first missing offset, the bitmap and `complete` are those of the accepted
set; and their order does not matter. -/
theorem fragments_reassemble :
    (∀ (owner : SpeakerAssetsRouteToken) (beginId : UInt32) (start : SpeakerAssetsPlanAssembler),
      SpeakerAssetsPlanAssembler.begin {} owner beginId = (.ok, start) →
        Reassembles SpeakerAssetsPlanAssembler.step start (owner, beginId) 640 (·.held) (·.receivedBytes)
          (·.firstMissingOffset) (·.complete) (·.copyReceivedBitmap)) ∧
    (∀ (previous : SpeakerAssetsBlockAssembler) (region : SpeakerAssetsRegion)
      (unitIndex expectedBytes : UInt16)
      (start : SpeakerAssetsBlockAssembler), previous.begin region unitIndex expectedBytes = (.ok, start) →
        Reassembles SpeakerAssetsBlockAssembler.step start (region, unitIndex) expectedBytes.toNat
          (·.held) (·.receivedBytes)
          (·.firstMissingOffset) (·.complete) (·.copyReceivedBitmap)) := by
  constructor
  · intro owner beginId start hbegin
    have hstart : start = { held := .reset 640, owner, beginId, bound := true } := by
      rw [SpeakerAssetsPlanAssembler.begin] at hbegin
      split at hbegin
      · cases hbegin
      · rw [if_neg (by decide)] at hbegin
        cases hbegin
        rfl
    rw [hstart]
    exact (SpeakerAssetsPlanAssembler.wraps owner beginId).reassembles (Nat.le_refl 640) rfl
      fun buffer fragments cells h => SpeakerAssetsPlanAssembler.reassembled h
  · intro previous region unitIndex expectedBytes start hbegin
    rw [SpeakerAssetsBlockAssembler.begin] at hbegin
    split at hbegin
    · cases hbegin
    · rename_i hvalid
      cases hbegin
      have hsize : expectedBytes.toNat ≤ 4096 := by
        by_contra hlarge
        exact hvalid (.inr (.inl (Nat.lt_of_not_le hlarge)))
      exact (SpeakerAssetsBlockAssembler.wraps region unitIndex expectedBytes).reassembles hsize rfl
        fun buffer fragments cells h => SpeakerAssetsBlockAssembler.reassembled hsize h

theorem fragments_reassemble_usb :
    Reassembles SpeakerAssetsPlanAssembler.step { owner := { generation := 1 },
                                                  beginId := 7, bound := true }
      (({ generation := 1 } : SpeakerAssetsRouteToken), (7 : UInt32)) 640 (·.held) (·.receivedBytes)
      (·.firstMissingOffset)
      (·.complete) (·.copyReceivedBitmap) :=
  fragments_reassemble.1 { generation := 1 } 7 _ rfl

end CodexKeyboard.Assets
