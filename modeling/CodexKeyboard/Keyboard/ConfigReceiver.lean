import CodexKeyboard.Lib.Buffer
import CodexKeyboard.Lib.Run
import CodexKeyboard.Lib.Transaction
/-!
# Reassembly of a configuration

The configuration arrives in reports of at most 63 bytes
(`components/keyboard/src/config_receiver.cpp`). A chunk of index 0 starts a transfer at any time;
every other chunk must be the next one of the transfer that is open, and a change of the endpoint
closes it.

| here | there |
| --- | --- |
| `crc16Ccitt` | `crc16_ccitt` (config_receiver.cpp:16) |
| `readChunk`, `ConfigReceiver.store` | the two halves of `ConfigReceiver::receive` (config_receiver.cpp:31), cut before line 65 |
| `ConfigReceiver.reset` | `ConfigReceiver::reset` (config_receiver.cpp:103) |
| `EndpointBoundConfigReceiver.receive`, `.reset` | config_receiver.cpp:112, 126 |

A report is the list of its bytes; a null pointer is the empty report. `Receipt.copied` is the
`memcpy` of line 83: where it writes and what.
-/

namespace CodexKeyboard.Keyboard

open Lib Buffer

def configReportId : UInt8 := 0x10
def configHeaderLen : Nat := 11
def configMaxChunkData : Nat := 52
def configMaxJsonLen : Nat := 2048

inductive ConfigReceiveStatus where
  | pending
  | complete
  | invalidReport
  | malformedChunk
  | outOfOrder
  | crcMismatch
deriving DecidableEq, Repr

structure ConfigReceiveResult where
  status : ConfigReceiveStatus := .pending
  json : List UInt8 := []
deriving DecidableEq, Repr

/-- What a report answers, and the copy into the buffer that it caused. -/
structure Receipt where
  result : ConfigReceiveResult
  copied : Option (Nat × List UInt8) := none
deriving DecidableEq, Repr

/-- The fields of a chunk. -/
structure ConfigChunk where
  chunkIndex : UInt8
  totalChunks : UInt8
  totalLen : UInt16
  expectedCrc : UInt16
  bytes : List UInt8
deriving DecidableEq, Repr

structure ConfigReceiver where
  buffer : List UInt8 := List.replicate (configMaxJsonLen + 1) 0
  totalLen : UInt16 := 0
  expectedCrc : UInt16 := 0
  totalChunks : UInt8 := 0
  nextChunk : UInt8 := 0
  receivedLen : UInt16 := 0
deriving DecidableEq, Repr

structure EndpointBoundConfigReceiver where
  receiver : ConfigReceiver := {}
  endpointEpoch : UInt32 := 0
deriving DecidableEq, Repr

/-- One bit of the register. -/
def crc16Shift (crc : UInt16) : UInt16 := if crc &&& 0x8000 ≠ 0 then crc <<< 1 ^^^ 0x1021 else crc <<< 1

def crc16Ccitt (data : List UInt8) : UInt16 :=
  data.foldl (fun (crc : UInt16) byte =>
    (List.range 8).foldl (fun crc _ => crc16Shift crc) (crc ^^^ byte.toUInt16 <<< (8 : UInt16))) 0xFFFF

/-- The report without the id that some stacks leave in front of it. -/
def withoutReportId (data : List UInt8) : List UInt8 :=
  if getU8 data 0 = configReportId ∧ data.length > 1 then data.drop 1 else data

/-- Lines 41-63: `"S3C"` and the version, then the fields of the chunk. -/
def readFields (data : List UInt8) : Except ConfigReceiveStatus ConfigChunk :=
  if data.length < configHeaderLen ∨ getU8 data 0 ≠ 0x53 ∨ getU8 data 1 ≠ 0x33 ∨ getU8 data 2 ≠ 0x43
      ∨ getU8 data 3 ≠ 1 then
    .error .invalidReport
  else if getU8 data 5 = 0 ∨ getU8 data 4 ≥ getU8 data 5 ∨ getU16 data 6 = 0 ∨
  (getU16 data 6).toNat > configMaxJsonLen
      ∨ (getU8 data 8).toNat > configMaxChunkData ∨
      configHeaderLen + (getU8 data 8).toNat > data.length then
    .error .malformedChunk
  else
    .ok { chunkIndex := getU8 data 4, totalChunks := getU8 data 5, totalLen := getU16 data 6,
          expectedCrc := getU16 data 9
          bytes := slice data configHeaderLen (getU8 data 8).toNat }

/-- The chunk in a report. -/
def readChunk (data : List UInt8) : Except ConfigReceiveStatus ConfigChunk :=
  if data = [] then .error .invalidReport else readFields (withoutReportId data)

namespace ConfigReceiver

def reset (_ : ConfigReceiver) : ConfigReceiver := {}

/-- The transfer a chunk of index 0 opens. -/
def start (chunk : ConfigChunk) : ConfigReceiver :=
  { totalLen := chunk.totalLen, expectedCrc := chunk.expectedCrc, totalChunks := chunk.totalChunks }

/-- Lines 65-72: a chunk of index 0 opens a transfer. -/
def opened (s : ConfigReceiver) (chunk : ConfigChunk) : ConfigReceiver :=
  if chunk.chunkIndex = 0 then start chunk else s

/-- The chunk is not the next one of the open transfer, or does not fit. -/
def Rejects (s : ConfigReceiver) (chunk : ConfigChunk) : Prop :=
  chunk.chunkIndex ≠ s.nextChunk ∨ chunk.totalLen ≠ s.totalLen ∨ chunk.totalChunks ≠ s.totalChunks
    ∨ chunk.expectedCrc ≠ s.expectedCrc ∨ s.receivedLen.toNat + chunk.bytes.length > s.totalLen.toNat

instance (s : ConfigReceiver) (chunk : ConfigChunk) : Decidable (s.Rejects chunk) :=
  inferInstanceAs (Decidable (_ ∨ _))

/-- The bytes received so far. -/
def received (s : ConfigReceiver) : List UInt8 := slice s.buffer 0 s.receivedLen.toNat

/-- Lines 83-85. -/
def copy (s : ConfigReceiver) (chunk : ConfigChunk) : ConfigReceiver :=
  { s with
    buffer := put s.buffer s.receivedLen.toNat chunk.bytes
    receivedLen := UInt16.ofNat (s.receivedLen.toNat + chunk.bytes.length)
    nextChunk := s.nextChunk + 1 }

/-- Lines 87-101: what the chunk just copied answers. -/
def conclude (s : ConfigReceiver) : ConfigReceiveResult × ConfigReceiver :=
  if s.nextChunk < s.totalChunks then ({ status := .pending }, s)
  else if s.receivedLen ≠ s.totalLen ∨ crc16Ccitt s.received ≠ s.expectedCrc then
    ({ status := .crcMismatch }, s)
  else ({ status := .complete, json := s.received },
    { s with buffer := put s.buffer s.receivedLen.toNat [0] })

def store (s : ConfigReceiver) (chunk : ConfigChunk) : Receipt × ConfigReceiver :=
  let s := s.opened chunk
  if s.Rejects chunk then ({ result := { status := .outOfOrder } }, s)
  else
    ({ result := (s.copy chunk).conclude.1, copied := some (s.receivedLen.toNat, chunk.bytes) },
      (s.copy chunk).conclude.2)

def receive (s : ConfigReceiver) (data : List UInt8) : Receipt × ConfigReceiver :=
  match readChunk data with
  | .error status => ({ result := { status } }, s)
  | .ok chunk => s.store chunk

end ConfigReceiver

namespace EndpointBoundConfigReceiver

/-- The receiver a report of this endpoint finds: an empty one if it is the first of a new lifetime. -/
def bound (s : EndpointBoundConfigReceiver) (endpointEpoch : UInt32) : ConfigReceiver :=
  if s.endpointEpoch ≠ endpointEpoch then s.receiver.reset else s.receiver

def receive (s : EndpointBoundConfigReceiver) (endpointEpoch : UInt32) (data : List UInt8) :
    Receipt × EndpointBoundConfigReceiver :=
  if endpointEpoch = 0 then ({ result := { status := .invalidReport } }, s)
  else (((s.bound endpointEpoch).receive data).1, ⟨((s.bound endpointEpoch).receive data).2, endpointEpoch⟩)

def reset (s : EndpointBoundConfigReceiver) : EndpointBoundConfigReceiver := ⟨s.receiver.reset, 0⟩

end EndpointBoundConfigReceiver

/-- What reaches the receiver: a report, or the reset of its owner. -/
inductive ConfigInput where
  | report (endpointEpoch : UInt32) (data : List UInt8)
  | reset
deriving DecidableEq, Repr

/-- One call; a reset answers nothing. -/
def configStep (s : EndpointBoundConfigReceiver) :
    ConfigInput → Option Receipt × EndpointBoundConfigReceiver
  | .report endpointEpoch data => ((s.receive endpointEpoch data).1, (s.receive endpointEpoch data).2)
  | .reset => (none, s.reset)

/-! ## The chunks of a run -/

/-- A chunk and the endpoint that sent it. -/
structure SentChunk where
  endpointEpoch : UInt32
  chunk : ConfigChunk
deriving DecidableEq, Repr

/-- The chunk in a report. -/
def sentChunk : ConfigInput → Option SentChunk
  | .report endpointEpoch data => (readChunk data).toOption.map fun chunk => ⟨endpointEpoch, chunk⟩
  | .reset => none

/-- The chunks that were accepted: those whose bytes were copied. -/
def accepted (seen : List (ConfigInput × Option Receipt)) : List SentChunk :=
  seen.filterMap fun call => if (call.2.bind Receipt.copied).isSome then sentChunk call.1 else none

/-- The first chunks of one transfer, in order. -/
def FirstChunks (endpointEpoch : UInt32) (totalChunks : UInt8) (totalLen expectedCrc : UInt16)
    (chunks : List SentChunk) : Prop :=
  ∀ (i : Nat) (sent : SentChunk), chunks[i]? = some sent →
    sent.endpointEpoch = endpointEpoch ∧ sent.chunk.chunkIndex.toNat = i ∧
    sent.chunk.totalChunks = totalChunks ∧ sent.chunk.totalLen = totalLen ∧
    sent.chunk.expectedCrc = expectedCrc

/-- The data of the chunks, one after the other. -/
def joined (chunks : List SentChunk) : List UInt8 := (chunks.map fun sent => sent.chunk.bytes).flatten

theorem FirstChunks.concat {endpointEpoch : UInt32} {totalChunks : UInt8} {totalLen expectedCrc : UInt16}
    {chunks : List SentChunk} {sent : SentChunk}
    (h : FirstChunks endpointEpoch totalChunks totalLen expectedCrc chunks)
    (hepoch : sent.endpointEpoch = endpointEpoch)
    (hindex : sent.chunk.chunkIndex.toNat = chunks.length) (htotal : sent.chunk.totalChunks = totalChunks)
    (hlen : sent.chunk.totalLen = totalLen) (hcrc : sent.chunk.expectedCrc = expectedCrc) :
    FirstChunks endpointEpoch totalChunks totalLen expectedCrc (chunks ++ [sent]) := by
  intro i found hfound
  by_cases hi : i < chunks.length
  · rw [List.getElem?_append_left hi] at hfound
    exact h i found hfound
  · rw [List.getElem?_append_right (Nat.le_of_not_lt hi)] at hfound
    by_cases hlast : i - chunks.length = 0
    · rw [hlast] at hfound
      cases hfound
      exact ⟨hepoch, by omega, htotal, hlen, hcrc⟩
    · rw [List.getElem?_singleton, if_neg hlast] at hfound
      cases hfound

theorem joined_concat (chunks : List SentChunk) (sent : SentChunk) :
    joined (chunks ++ [sent]) = joined chunks ++ sent.chunk.bytes := by simp [joined]

theorem accepted_append (seen later : List (ConfigInput × Option Receipt)) :
    accepted (seen ++ later) = accepted seen ++ accepted later := List.filterMap_append

/-- The accepted chunks are chunks of the reports, in their order. -/
theorem accepted_sublist (seen : List (ConfigInput × Option Receipt)) :
    List.Sublist (accepted seen) ((seen.map Prod.fst).filterMap sentChunk) := by
  induction seen with
  | nil => exact List.Sublist.slnil
  | cons call seen ih =>
    by_cases hcopied : (call.2.bind Receipt.copied).isSome
    · cases hsent : sentChunk call.1 with
      | none => simpa [accepted, hcopied, hsent] using ih
      | some sent => simpa [accepted, hcopied, hsent] using ih
    · cases hsent : sentChunk call.1 with
      | none => simpa [accepted, hcopied, hsent] using ih
      | some sent =>
        have htail :
          List.Sublist (accepted seen) (sent :: (seen.map Prod.fst).filterMap sentChunk) := ih.cons sent
        simpa [accepted, hcopied, hsent] using htail

/-! ## One call -/

/-- A chunk that is read has an index in its transfer, and the length it announces fits the buffer. -/
theorem readChunk_eq_ok {data : List UInt8} {chunk : ConfigChunk} (h : readChunk data = .ok chunk) :
    chunk.chunkIndex < chunk.totalChunks ∧ chunk.totalLen ≠ 0 ∧
    chunk.totalLen.toNat ≤ configMaxJsonLen := by
  unfold readChunk readFields at h
  simp only [refusing_eq_ok] at h
  obtain ⟨-, -, hfields, hchunk⟩ := h
  cases hchunk
  simp only [not_or, ge_iff_le, UInt8.not_le, Nat.not_lt, gt_iff_lt] at hfields
  exact ⟨hfields.2.1, hfields.2.2.1, hfields.2.2.2.1⟩

theorem readChunk_eq_error {data : List UInt8} {status : ConfigReceiveStatus}
    (h : readChunk data = .error status) :
    status = .invalidReport ∨ status = .malformedChunk := by
  unfold readChunk readFields at h
  split at h
  · cases h
    exact .inl rfl
  · split at h
    · cases h
      exact .inl rfl
    · split at h
      · cases h
        exact .inr rfl
      · cases h

/-- The receiver holds the first `chunks` of one transfer of this endpoint. -/
structure Assembling (endpointEpoch : UInt32) (s : ConfigReceiver) (chunks : List SentChunk) : Prop where
  length_buffer : s.buffer.length = configMaxJsonLen + 1
  totalLen_le : s.totalLen.toNat ≤ configMaxJsonLen
  receivedLen_le : s.receivedLen.toNat ≤ s.totalLen.toNat
  length_chunks : chunks.length = s.nextChunk.toNat
  nextChunk_le : s.nextChunk.toNat ≤ s.totalChunks.toNat
  first : FirstChunks endpointEpoch s.totalChunks s.totalLen s.expectedCrc chunks
  joined_eq : joined chunks = s.received

theorem firstChunks_nil {endpointEpoch : UInt32} {totalChunks : UInt8} {totalLen expectedCrc : UInt16} :
    FirstChunks endpointEpoch totalChunks totalLen expectedCrc [] := by
  intro i sent h
  cases h

namespace Assembling

variable {endpointEpoch : UInt32} {s : ConfigReceiver} {chunks : List SentChunk} {chunk : ConfigChunk}

theorem fresh (endpointEpoch : UInt32) : Assembling endpointEpoch {} [] :=
  ⟨List.length_replicate, Nat.zero_le _, Nat.le_refl _, rfl, Nat.le_refl _, firstChunks_nil, rfl⟩

theorem start (h : chunk.totalLen.toNat ≤ configMaxJsonLen) : Assembling endpointEpoch (.start chunk) [] :=
  ⟨List.length_replicate, h, Nat.zero_le _, rfl, Nat.zero_le _, firstChunks_nil, rfl⟩

theorem opened (h : Assembling endpointEpoch s chunks) (hlen : chunk.totalLen.toNat ≤ configMaxJsonLen) :
    Assembling endpointEpoch (s.opened chunk) (if chunk.chunkIndex = 0 then [] else chunks) := by
  unfold ConfigReceiver.opened
  by_cases hindex : chunk.chunkIndex = 0
  · rw [if_pos hindex, if_pos hindex]
    exact .start hlen
  · rw [if_neg hindex, if_neg hindex]
    exact h

theorem received_length (h : Assembling endpointEpoch s chunks) :
    s.received.length = s.receivedLen.toNat := by
  have hbuffer := h.length_buffer
  have htotal := h.totalLen_le
  have hreceived := h.receivedLen_le
  rw [ConfigReceiver.received, length_slice]
  omega

/-- A chunk that is not rejected extends the transfer. -/
theorem copy (h : Assembling endpointEpoch s chunks) (hchunk : chunk.chunkIndex < chunk.totalChunks)
    (haccept : ¬ s.Rejects chunk) :
    Assembling endpointEpoch (s.copy chunk) (chunks ++ [⟨endpointEpoch, chunk⟩]) := by
  obtain ⟨hindex, hlen, htotal, hcrc, hfits⟩ : chunk.chunkIndex = s.nextChunk ∧
    chunk.totalLen = s.totalLen ∧
      chunk.totalChunks = s.totalChunks ∧ chunk.expectedCrc = s.expectedCrc ∧
      s.receivedLen.toNat + chunk.bytes.length ≤ s.totalLen.toNat := by
    simpa [ConfigReceiver.Rejects] using haccept
  have hbuffer := h.length_buffer
  have hmax := h.totalLen_le
  have hreceived : (s.copy chunk).receivedLen.toNat = s.receivedLen.toNat + chunk.bytes.length := by
    have hlt := s.totalLen.toNat_lt
    exact UInt16.toNat_ofNat_of_lt' (show s.receivedLen.toNat + chunk.bytes.length < 65536 by omega)
  have hnext : (s.copy chunk).nextChunk.toNat = s.nextChunk.toNat + 1 := by
    have hlt : s.nextChunk.toNat < s.totalChunks.toNat := UInt8.lt_iff_toNat_lt.1 (hindex ▸ htotal ▸ hchunk)
    have hbyte := s.totalChunks.toNat_lt
    show (s.nextChunk + 1).toNat = _
    rw [UInt8.toNat_add]
    exact Nat.mod_eq_of_lt (by simp only [UInt8.toNat_one]; omega)
  refine ⟨?_, hmax, ?_, ?_, ?_, h.first.concat rfl ?_ htotal hlen hcrc, ?_⟩
  · exact (length_put ..).trans hbuffer
  · rw [hreceived]
    exact hfits
  · rw [List.length_append, h.length_chunks, hnext]
    rfl
  · rw [hnext]
    exact UInt8.lt_iff_toNat_lt.1 (hindex ▸ htotal ▸ hchunk)
  · rw [h.length_chunks, hindex]
  · rw [joined_concat, h.joined_eq, ConfigReceiver.received, ConfigReceiver.received, hreceived, slice_add]
    have hkept : slice (s.copy chunk).buffer 0 s.receivedLen.toNat = slice s.buffer 0 s.receivedLen.toNat :=
      slice_put_of_disjoint (.inl (by omega))
    have hnew : slice (s.copy chunk).buffer (0 + s.receivedLen.toNat) chunk.bytes.length = chunk.bytes := by
      rw [Nat.zero_add]
      refine slice_put_self rfl ?_
      rw [hbuffer]
      omega
    rw [hkept, hnew]

/-- Ending the text with a zero keeps what was received. -/
theorem conclude (h : Assembling endpointEpoch s chunks) :
    Assembling endpointEpoch s.conclude.2 chunks := by
  unfold ConfigReceiver.conclude
  split
  · exact h
  · split
    · exact h
    · refine ⟨(length_put ..).trans h.length_buffer, h.totalLen_le,
        h.receivedLen_le, h.length_chunks, h.nextChunk_le,
        h.first, ?_⟩
      rw [h.joined_eq]
      exact (slice_put_of_disjoint (.inl (by omega))).symm

/-- A complete transfer has all its chunks, all its bytes, and the checksum it announced. -/
theorem of_complete (h : Assembling endpointEpoch s chunks) {json : List UInt8}
    (hresult : s.conclude.1 = { status := .complete, json }) :
    chunks.length = s.totalChunks.toNat ∧ joined chunks = json ∧ json.length = s.totalLen.toNat ∧
      crc16Ccitt json = s.expectedCrc := by
  unfold ConfigReceiver.conclude at hresult
  split at hresult
  · cases hresult
  · rename_i hlast
    split at hresult
    · cases hresult
    · rename_i hright
      simp only [not_or, ne_eq, Decidable.not_not] at hright
      cases hresult
      have hnext := h.nextChunk_le
      rw [UInt8.lt_iff_toNat_lt] at hlast
      refine ⟨?_, h.joined_eq, ?_, hright.2⟩
      · rw [h.length_chunks]
        omega
      · rw [h.received_length, hright.1]

end Assembling

/-- The chunks are all those of one transfer of the endpoint, and the JSON is what they carry. -/
def Transfers (endpointEpoch : UInt32) (chunks : List SentChunk) (json : List UInt8) : Prop :=
  ∃ totalChunks totalLen expectedCrc, chunks.length = totalChunks.toNat ∧
    FirstChunks endpointEpoch totalChunks totalLen expectedCrc chunks ∧ joined chunks = json ∧
    json.length = totalLen.toNat ∧ 1 ≤ totalLen.toNat ∧ totalLen.toNat ≤ configMaxJsonLen ∧
    crc16Ccitt json = expectedCrc

/-- What storing a chunk does: it is refused, or it is copied behind the chunks before it. -/
theorem store_spec {endpointEpoch : UInt32} {s : ConfigReceiver} {chunks : List SentChunk}
    {data : List UInt8}
    {chunk : ConfigChunk} (h : Assembling endpointEpoch s chunks) (hread : readChunk data = .ok chunk) :
    ∃ kept, (kept = chunks ∨ kept = []) ∧
      (((s.store chunk).1.copied = none ∧ (s.store chunk).1.result.status = .outOfOrder ∧
          Assembling endpointEpoch (s.store chunk).2 kept) ∨
        ∃ offset, (s.store chunk).1.copied = some (offset, chunk.bytes) ∧
        offset + chunk.bytes.length ≤ configMaxJsonLen ∧
          Assembling endpointEpoch (s.store chunk).2 (kept ++ [⟨endpointEpoch, chunk⟩]) ∧
          ∀ json, (s.store chunk).1.result = ⟨.complete, json⟩ →
            Transfers endpointEpoch (kept ++ [⟨endpointEpoch, chunk⟩]) json) := by
  obtain ⟨hindex, hpos, hmax⟩ := readChunk_eq_ok hread
  have hopened := h.opened hmax
  refine ⟨if chunk.chunkIndex = 0 then [] else chunks, ?_, ?_⟩
  · by_cases hzero : chunk.chunkIndex = 0
    · exact .inr (if_pos hzero)
    · exact .inl (if_neg hzero)
  · by_cases hrejects : (s.opened chunk).Rejects chunk
    · have hstore : s.store chunk = ({ result := { status := .outOfOrder } }, s.opened chunk) := by
        simp only [ConfigReceiver.store, hrejects, if_true]
      rw [hstore]
      exact .inl ⟨rfl, rfl, hopened⟩
    · have hstore : s.store chunk = ({ result := ((s.opened chunk).copy chunk).conclude.1
                                       copied := some ((s.opened chunk).receivedLen.toNat, chunk.bytes) },
          ((s.opened chunk).copy chunk).conclude.2) := by
        simp only [ConfigReceiver.store, hrejects, if_false]
      rw [hstore]
      have hcopy := hopened.copy hindex hrejects
      have hfits : (s.opened chunk).totalLen = chunk.totalLen ∧
          (s.opened chunk).receivedLen.toNat + chunk.bytes.length ≤ (s.opened chunk).totalLen.toNat := by
        simp only [ConfigReceiver.Rejects, not_or, ne_eq, Decidable.not_not, Nat.not_lt, gt_iff_lt]
          at hrejects
        exact ⟨hrejects.2.1.symm, hrejects.2.2.2.2⟩
      refine .inr ⟨_, rfl, hfits.2.trans hopened.totalLen_le, hcopy.conclude, fun json hjson => ?_⟩
      obtain ⟨hlength, hjoined, hlen, hcrc⟩ := hcopy.of_complete hjson
      refine ⟨_, _, _, hlength, hcopy.first, hjoined, hlen, ?_, hcopy.totalLen_le, hcrc⟩
      have hne : (s.opened chunk).totalLen.toNat ≠ 0 := by
        rw [hfits.1]
        exact fun hzero => hpos (UInt16.toNat_inj.1 hzero)
      exact Nat.one_le_iff_ne_zero.2 hne

/-! ## Runs -/

/-- The receiver holds the last of the chunks accepted so far. -/
def Holds (seen : List (ConfigInput × Option Receipt)) (s : EndpointBoundConfigReceiver) : Prop :=
  ∃ before chunks, accepted seen = before ++ chunks ∧ Assembling s.endpointEpoch s.receiver chunks

theorem Holds.bound {seen : List (ConfigInput × Option Receipt)} {s : EndpointBoundConfigReceiver}
    (h : Holds seen s)
    (endpointEpoch : UInt32) : ∃ before chunks, accepted seen = before ++ chunks ∧
      Assembling endpointEpoch (s.bound endpointEpoch) chunks := by
  obtain ⟨before, chunks, haccepted, hassembling⟩ := h
  unfold EndpointBoundConfigReceiver.bound
  by_cases hsame : s.endpointEpoch = endpointEpoch
  · rw [if_neg (not_not_intro hsame)]
    exact ⟨before, chunks, haccepted, hsame ▸ hassembling⟩
  · rw [if_pos hsame]
    exact ⟨accepted seen, [], (List.append_nil _).symm, .fresh endpointEpoch⟩

theorem accepted_none (input : ConfigInput) {receipt : Option Receipt}
    (h : receipt.bind Receipt.copied = none) :
    accepted [(input, receipt)] = [] := by simp [accepted, h]

/-- What one report does. -/
theorem report_spec {seen : List (ConfigInput × Option Receipt)} {s : EndpointBoundConfigReceiver}
    (h : Holds seen s)
    (endpointEpoch : UInt32) (data : List UInt8) :
    Holds (seen ++ [(.report endpointEpoch data, some (s.receive endpointEpoch data).1)])
      (s.receive endpointEpoch data).2 ∧
    (∀ offset bytes, (s.receive endpointEpoch data).1.copied = some (offset, bytes) →
      offset + bytes.length ≤ configMaxJsonLen) ∧
    ∀ json, (s.receive endpointEpoch data).1.result = ⟨.complete, json⟩ → ∃ before chunks,
      accepted (seen ++ [(.report endpointEpoch data, some (s.receive endpointEpoch data).1)]) =
        before ++ chunks ∧
        Transfers endpointEpoch chunks json := by
  by_cases hepoch : endpointEpoch = 0
  · have hreceive : s.receive endpointEpoch data = ({ result := { status := .invalidReport } }, s) := by
      simp only [EndpointBoundConfigReceiver.receive, hepoch, if_true]
    rw [hreceive]
    refine ⟨?_, fun offset bytes hcopied => (by cases hcopied), fun json hjson => (by cases hjson)⟩
    rw [Holds, accepted_append, accepted_none _ rfl, List.append_nil]
    exact h
  · have hreceive : s.receive endpointEpoch data =
        (((s.bound endpointEpoch).receive data).1,
          ⟨((s.bound endpointEpoch).receive data).2, endpointEpoch⟩) := by
      simp only [EndpointBoundConfigReceiver.receive, hepoch, if_false]
    obtain ⟨before, chunks, haccepted, hassembling⟩ := h.bound endpointEpoch
    rw [hreceive]
    simp only [Holds, accepted_append, haccepted]
    cases hread : readChunk data with
    | error status =>
      have hbound :
        (s.bound endpointEpoch).receive data = ({ result := { status } }, s.bound endpointEpoch) := by
        simp only [ConfigReceiver.receive, hread]
      rw [hbound, accepted_none _ rfl, List.append_nil]
      refine ⟨⟨before, chunks, rfl, hassembling⟩, fun offset bytes hcopied =>
        (by cases hcopied), fun json hjson => ?_⟩
      cases hjson
      exact absurd (readChunk_eq_error hread) (by decide)
    | ok chunk =>
      have hbound : (s.bound endpointEpoch).receive data = (s.bound endpointEpoch).store chunk := by
        simp only [ConfigReceiver.receive, hread]
      have hsent : sentChunk (.report endpointEpoch data) = some ⟨endpointEpoch, chunk⟩ := by
        simp only [sentChunk, hread, Except.toOption, Option.map_some]
      rw [hbound]
      obtain ⟨kept, hkept, hspec⟩ := store_spec hassembling hread
      obtain ⟨before', hbefore⟩ : ∃ before', before ++ chunks = before' ++ kept := by
        rcases hkept with rfl | rfl
        · exact ⟨before, rfl⟩
        · exact ⟨before ++ chunks, (List.append_nil _).symm⟩
      rw [hbefore]
      rcases hspec with ⟨hcopied, hstatus, hnext⟩ | ⟨offset, hcopied, hfits, hnext, hcomplete⟩
      · rw [@accepted_none _ (some _) hcopied, List.append_nil, hcopied]
        refine ⟨⟨before', kept, rfl, hnext⟩, fun offset bytes h => (by cases h), fun json hjson => ?_⟩
        rw [hjson] at hstatus
        cases hstatus
      · have hlast : accepted [(.report endpointEpoch data, some ((s.bound endpointEpoch).store chunk).1)] =
            [⟨endpointEpoch, chunk⟩] := by
          simp [accepted, hcopied, hsent]
        rw [hlast, List.append_assoc, hcopied]
        refine ⟨⟨before', kept ++ [⟨endpointEpoch, chunk⟩], rfl, hnext⟩, ?_, fun json hjson =>
          ⟨before', kept ++ [⟨endpointEpoch, chunk⟩], rfl, hcomplete json hjson⟩⟩
        rintro offset' bytes h
        cases h
        exact hfits

theorem holds_after (inputs : List ConfigInput) :
    Holds (trace configStep {} inputs) (after configStep {} inputs) := by
  refine @trace_induction _ _ _ configStep Holds (fun seen s input h => ?_) []
    {} inputs ⟨[], [], rfl, .fresh 0⟩
  cases input with
  | report endpointEpoch data => exact (report_spec h endpointEpoch data).1
  | reset =>
    rw [Holds, accepted_append, accepted_none _ rfl, List.append_nil]
    exact ⟨accepted seen, [], (List.append_nil _).symm, .fresh 0⟩

/-- Whatever reports come, a complete configuration is one whole transfer: the last accepted chunks,
all of the endpoint that completes it, in order and with nothing accepted between them. And no
report writes beyond what it announced. -/
theorem config_reassembled (inputs : List ConfigInput) (endpointEpoch : UInt32) (data : List UInt8) :
    (∀ json,
      (answer configStep {} inputs (.report endpointEpoch data)).map Receipt.result =
      some ⟨.complete, json⟩ →
      ∃ before chunks, accepted
        (trace configStep {} (inputs ++ [ConfigInput.report endpointEpoch data])) = before ++ chunks ∧
        Transfers endpointEpoch chunks json) ∧
    List.Sublist (accepted (trace configStep {} (inputs ++ [ConfigInput.report endpointEpoch data])))
      ((inputs ++ [ConfigInput.report endpointEpoch data]).filterMap sentChunk) ∧
    (∀ offset bytes,
      (answer configStep {} inputs (.report endpointEpoch data)).bind Receipt.copied =
      some (offset, bytes) →
      offset + bytes.length ≤ configMaxJsonLen) ∧
    (after configStep {} inputs).receiver.receivedLen.toNat ≤
      (after configStep {} inputs).receiver.totalLen.toNat ∧
    (after configStep {} inputs).receiver.totalLen.toNat ≤ configMaxJsonLen ∧
    (after configStep {} inputs).receiver.buffer.length = configMaxJsonLen + 1 := by
  have hholds := holds_after inputs
  obtain ⟨-, hcopied, hcomplete⟩ := report_spec hholds endpointEpoch data
  obtain ⟨before, chunks, -, hassembling⟩ := hholds
  refine ⟨fun json hjson => ?_, ?_, hcopied, hassembling.receivedLen_le, hassembling.totalLen_le,
    hassembling.length_buffer⟩
  · rw [trace_concat]
    exact hcomplete json (Option.some.inj hjson)
  · have hsub := accepted_sublist (trace configStep {} (inputs ++ [ConfigInput.report endpointEpoch data]))
    rw [map_fst_trace] at hsub
    exact hsub

/-- `{"a":1}` in two chunks on connection 1. The first is sent again after a report cut short, and
between the two comes the second chunk of an earlier transfer. -/
def twoChunks : List ConfigInput := [
  .report 1 [0x53, 0x33, 0x43, 1, 0, 2, 7, 0, 4, 0x99, 0x72, 0x7b, 0x22, 0x61, 0x22],
  .report 1 [0x53, 0x33],
  .report 1 [0x53, 0x33, 0x43, 1, 0, 2, 7, 0, 4, 0x99, 0x72, 0x7b, 0x22, 0x61, 0x22],
  .report 1 [0x53, 0x33, 0x43, 1, 1, 2, 9, 0, 2, 0x11, 0x22, 0x31, 0x7d]]

def lastChunk : List UInt8 := [0x53, 0x33, 0x43, 1, 1, 2, 7, 0, 3, 0x99, 0x72, 0x3a, 0x31, 0x7d]

theorem config_reassembled_two :
    (answers configStep {} twoChunks).map (fun answer => answer.map fun receipt => receipt.result.status) =
      [some .pending, some .invalidReport, some .pending, some .outOfOrder] ∧
    ∃ before chunks, accepted (trace configStep {} (twoChunks ++ [ConfigInput.report 1 lastChunk])) =
      before ++ chunks ∧
      Transfers 1 chunks [0x7b, 0x22, 0x61, 0x22, 0x3a, 0x31, 0x7d] :=
  ⟨by decide +kernel, (config_reassembled twoChunks 1 lastChunk).1 _ (by decide +kernel)⟩

end CodexKeyboard.Keyboard
