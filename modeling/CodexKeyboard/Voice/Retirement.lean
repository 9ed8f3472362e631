import CodexKeyboard.Lib.Recent
import CodexKeyboard.Voice.CaptureProofs
/-!
# A capture session is delivered once

A session that completed, was rejected or expired is remembered in `retired`, which holds the last
`MAX_RETIRED_SESSIONS` sessions that were retired. What the assembler says of a session, a
completion or an error, is a report; a session is reported again only after so many others were
retired (`delivered_at_most_once`).

A datagram without a valid tag, or one that does not parse, belongs to no session: its error is
nobody's report.

| here | there |
| --- | --- |
| `sessionOf` | the `session_id` of what `parse_audio_frame` and `parse_audio_end` return (lan_voice.rs:991, 1080) |
| `reports` | `Err` of `ingest`, `ready.push_back` (lan_voice.rs:1105), the results of `expire_incomplete` (lan_voice.rs:1119) |
-/

namespace CodexKeyboard.Voice

open Lib

variable {hmac : Key → Bytes → Bytes}

/-! ## Reports -/

/-- The session of a datagram that is authentic and well formed. -/
def sessionOf (hmac : Key → Bytes → Bytes) (authKey : Option Key) (datagram : Bytes) : Option Nat :=
  if 4 ≤ datagram.length ∧ datagram.take 4 = endMagic then
    (parseAudioEnd hmac datagram authKey).toOption.map (·.sessionId)
  else (parseAudioFrame hmac datagram authKey).toOption.map (·.sessionId)

/-- A completion or an error of a session, and whether the session is retired by it. -/
structure Report where
  sessionId : Nat
  retires : Bool
deriving DecidableEq, Repr

/-- The sessions of what came into the ready queue; a capture that was too short has the session of
the datagram. -/
def readied (sessionId : Nat) (s s' : CaptureAssembler) : List Nat :=
  (s'.ready.drop s.ready.length).map fun r =>
    match r with
    | .ok capture => capture.sessionId
    | .error _ => sessionId

/-- What `ingest` says of the session of a datagram. -/
def ingestReports (sessionId : Nat) (s : CaptureAssembler)
    (r : Except LanVoiceError Unit × CaptureAssembler) :
    List Report :=
  ((if r.1.isOk then [] else [sessionId]) ++ readied sessionId s r.2).map fun id =>
    { sessionId := id, retires := !s.retired.contains id && r.2.retired.contains id }

/-- What the assembler says in a step. -/
def reports (hmac : Key → Bytes → Bytes) (s : CaptureAssembler) : CaptureEvent → List Report
  | .datagram bytes source now =>
    match sessionOf hmac s.authKey bytes with
    | none => []
    | some sessionId => ingestReports sessionId s (s.ingest hmac bytes source now)
  | .expire now => (s.idle now).map fun sessionId => { sessionId, retires := true }
  | .takeReady => []
  | .reloadKey _ => []

/-- The sessions that were retired, in their order. -/
def retiredIn (seen : List Report) : List Nat := (seen.filter (·.retires)).map (·.sessionId)

theorem retiredIn_append (seen later : List Report) :
    retiredIn (seen ++ later) = retiredIn seen ++ retiredIn later := by
  rw [retiredIn, List.filter_append, List.map_append, retiredIn, retiredIn]

theorem retiredIn_retires (sessionId : Nat) :
    retiredIn [{ sessionId, retires := true }] = [sessionId] := rfl

theorem retiredIn_keeps (sessionId : Nat) : retiredIn [{ sessionId, retires := false }] = [] := rfl

/-- What the memory of the retired sessions says of the reports so far. -/
structure Settled (seen : List Report) (s : CaptureAssembler) : Prop where
  active_le : s.active.size ≤ maxActiveCaptures
  keyed : ∀ sessionId (capture : ActiveCapture), s.active[sessionId]? = some capture →
    capture.sessionId = sessionId
  apart : ∀ sessionId, sessionId ∈ s.active → sessionId ∉ s.retired
  memory : s.retired = recent maxRetiredSessions (retiredIn seen)
  fresh : ∀ earlier report later, seen = earlier ++ report :: later →
    report.sessionId ∉ recent maxRetiredSessions (retiredIn earlier)

variable {seen : List Report} {s m : CaptureAssembler} {x : Nat} {capture : ActiveCapture}

/-- A session that is not remembered is pushed. -/
theorem retire_retired (h : x ∉ s.retired) :
    (s.retire x).retired = recent maxRetiredSessions (s.retired ++ [x]) := by
  have hnew : ¬ s.retired.contains x = true := by
    rw [List.contains_iff_mem]
    exact h
  rw [CaptureAssembler.retire, if_neg hnew, recent]

theorem retire_active (s : CaptureAssembler) (x : Nat) : (s.retire x).active = s.active := by
  unfold CaptureAssembler.retire
  split <;> rfl

theorem discard_active (s : CaptureAssembler) (x : Nat) : (s.discard x).active = s.active.erase x :=
  retire_active _ x

theorem discard_retired (s : CaptureAssembler) (x : Nat) :
    (s.discard x).retired = (s.retire x).retired := by
  rw [CaptureAssembler.discard, CaptureAssembler.retire, CaptureAssembler.retire]
  split <;> rfl

theorem fresh_concat (h : Settled seen s) (hx : x ∉ s.retired) (retires : Bool) :
    ∀ earlier report later, seen ++ [{ sessionId := x, retires }] = earlier ++ report :: later →
      report.sessionId ∉ recent maxRetiredSessions (retiredIn earlier) := by
  intro earlier report later heq
  rcases List.eq_nil_or_concat later with rfl | ⟨later, last, rfl⟩
  · obtain ⟨rfl, hreport⟩ := List.append_inj' heq rfl
    cases hreport
    rw [← h.memory]
    exact hx
  · rw [List.concat_eq_append, ← List.cons_append, ← List.append_assoc] at heq
    obtain ⟨rfl, -⟩ := List.append_inj' heq rfl
    exact h.fresh earlier report later rfl

namespace Settled

/-- The ready queue and the key are free. -/
theorem congr (h : Settled seen s) (ha : m.active = s.active) (hr : m.retired = s.retired) :
    Settled seen m := by
  refine ⟨?_, ?_, ?_, ?_, h.fresh⟩
  · rw [ha]; exact h.active_le
  · rw [ha]; exact h.keyed
  · rw [ha, hr]; exact h.apart
  · rw [hr]; exact h.memory

/-- A session is reported and removed, if it was open. -/
theorem discard (h : Settled seen s) (hx : x ∉ s.retired) :
    Settled (seen ++ [{ sessionId := x, retires := true }]) (s.discard x) where
  active_le := by
    rw [discard_active]
    exact Nat.le_trans Std.TreeMap.size_erase_le h.active_le
  keyed id c hc := by
    rw [discard_active, Std.TreeMap.getElem?_erase] at hc
    split at hc
    · cases hc
    · exact h.keyed id c hc
  apart id hid hmem := by
    rw [discard_active, Std.TreeMap.mem_erase] at hid
    obtain ⟨hne, hid⟩ := hid
    rw [discard_retired, retire_retired hx] at hmem
    rcases List.mem_append.1 (List.mem_of_mem_drop hmem) with hmem | hmem
    · exact h.apart id hid hmem
    · rw [List.mem_singleton.1 hmem] at hne
      exact hne (Nat.compare_eq_eq.2 rfl)
  memory := by
    rw [discard_retired, retire_retired hx, h.memory, recent_concat, retiredIn_append, retiredIn_retires]
  fresh := fresh_concat h hx true

/-- A session that was never open is reported and remembered. -/
theorem retire (h : Settled seen s) (hx : x ∉ s.retired) (hclosed : x ∉ s.active) :
    Settled (seen ++ [{ sessionId := x, retires := true }]) (s.retire x) where
  active_le := by rw [retire_active]; exact h.active_le
  keyed := by rw [retire_active]; exact h.keyed
  apart id hid hmem := by
    rw [retire_active] at hid
    rw [retire_retired hx] at hmem
    rcases List.mem_append.1 (List.mem_of_mem_drop hmem) with hmem | hmem
    · exact h.apart id hid hmem
    · rw [List.mem_singleton.1 hmem] at hid
      exact hclosed hid
  memory := by
    rw [retire_retired hx, h.memory, recent_concat, retiredIn_append, retiredIn_retires]
  fresh := fresh_concat h hx true

/-- A session is reported and forgotten. -/
theorem unknown (h : Settled seen s) (hx : x ∉ s.retired) :
    Settled (seen ++ [{ sessionId := x, retires := false }]) s where
  active_le := h.active_le
  keyed := h.keyed
  apart := h.apart
  memory := by rw [retiredIn_append, retiredIn_keeps, List.append_nil]; exact h.memory
  fresh := fresh_concat h hx false

theorem store (h : Settled seen s) (hx : capture.sessionId ∉ s.retired)
    (hroom : capture.sessionId ∈ s.active ∨ s.active.size < maxActiveCaptures) :
    Settled seen (s.store capture) where
  active_le := by
    rw [CaptureAssembler.store, Std.TreeMap.size_insert]
    split
    · exact h.active_le
    · rename_i habsent
      exact hroom.resolve_left habsent
  keyed id c hc := by
    rw [CaptureAssembler.store, Std.TreeMap.getElem?_insert] at hc
    split at hc
    · rename_i heq
      cases hc
      exact Nat.compare_eq_eq.1 heq
    · exact h.keyed id c hc
  apart id hid := by
    rw [CaptureAssembler.store, Std.TreeMap.mem_insert] at hid
    rcases hid with heq | hid
    · rw [← Nat.compare_eq_eq.1 heq]
      exact hx
    · exact h.apart id hid
  memory := h.memory
  fresh := h.fresh

end Settled

/-! ## What a datagram of a session does -/

/-- The captures of a session that one datagram stores: its own after the assignments, and before it
the first. -/
inductive Stores (x : Nat) (s : CaptureAssembler) : CaptureAssembler → Prop
  | refl : Stores x s s
  | store (m : CaptureAssembler) (capture : ActiveCapture) (stored : Stores x s m)
    (hid : capture.sessionId = x)
      (room : x ∈ m.active ∨ m.active.size < maxActiveCaptures) : Stores x s (m.store capture)

/-- What `ingest` can do with a datagram of a session that is not retired. -/
inductive Handled (datagram : Bytes) (x : Nat) (s : CaptureAssembler) :
    Except LanVoiceError Unit × CaptureAssembler → Prop
  | kept (m : CaptureAssembler) (stored : Stores x s m) : Handled datagram x s (.ok (), m)
  /-- The end of a session that is not open; it is not remembered. -/
  | unknown (hend : datagram.take 4 = endMagic) (closed : x ∉ s.active) :
      Handled datagram x s (.error .invalidSession, s)
  /-- The first frame. -/
  | refused (e : LanVoiceError) (closed : x ∉ s.active) : Handled datagram x s (.error e, s.retire x)
  | rejected (e : LanVoiceError) (m : CaptureAssembler) (stored : Stores x s m) :
      Handled datagram x s (.error e, m.discard x)
  | completed (r : Except LanVoiceError CompletedCapture) (hr : ∀ capture,
    r = .ok capture → capture.sessionId = x)
      (m : CaptureAssembler) (stored : Stores x s m) :
      Handled datagram x s (.ok (), { m.discard x with ready := m.ready ++ [r] })

theorem Stores.retired (h : Stores x s m) : m.retired = s.retired := by
  induction h with
  | refl => rfl
  | store m capture stored hid room ih => exact ih

theorem Stores.ready (h : Stores x s m) : m.ready = s.ready := by
  induction h with
  | refl => rfl
  | store m capture stored hid room ih => exact ih

theorem Stores.settled (h : Stores x s m) (hx : x ∉ s.retired) (hs : Settled seen s) : Settled seen m := by
  induction h with
  | refl => exact hs
  | store m capture stored hid room ih =>
    subst hid
    apply ih.store _ room
    rw [stored.retired]
    exact hx

theorem spaced_retiredIn (h : Settled seen s) : Spaced maxRetiredSessions (retiredIn seen) := by
  have hfresh := h.fresh
  clear h
  induction seen using List.reverseRecOn with
  | nil => exact spaced_nil
  | append_singleton seen report ih =>
    have hrest : Spaced maxRetiredSessions (retiredIn seen) := by
      apply ih
      intro earlier r later heq
      exact hfresh earlier r (later ++ [report]) (by rw [heq, List.append_assoc, List.cons_append])
    rw [retiredIn_append]
    obtain ⟨id, retires⟩ := report
    cases retires with
    | true =>
      rw [retiredIn_retires, spaced_concat]
      exact ⟨hrest, hfresh seen _ [] rfl⟩
    | false =>
      rw [retiredIn_keeps, List.append_nil]
      exact hrest

/-- The limits that hold in every state. -/
structure Bounded (s : CaptureAssembler) : Prop where
  active : s.active.size ≤ maxActiveCaptures
  retired : s.retired.length ≤ maxRetiredSessions
  nodup : s.retired.Nodup
  apart : ∀ sessionId, sessionId ∈ s.active → sessionId ∉ s.retired

theorem Settled.bounded (h : Settled seen s) : Bounded s where
  active := h.active_le
  retired := by rw [h.memory]; exact length_recent_le _ _
  nodup := by rw [h.memory]; exact (spaced_retiredIn h).nodup_recent
  apart := h.apart

end CodexKeyboard.Voice
