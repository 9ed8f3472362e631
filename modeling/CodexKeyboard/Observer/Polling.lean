import CodexKeyboard.Observer.Reading
/-!
# From poll to poll

What a poll leaves in the store and in the pending scan (`PolledInv`) is enough for the next poll,
which sees a longer file, to go on (`PendingInv.grow`, `pollTask_spec`); a fresh scan starts from
the store alone (`freshScan_spec`).
-/

namespace CodexKeyboard.Observer

open Lib Store

section
variable {B P : Type} {env : ObserverEnv B P} {task : RolloutTask} {content content' : List UInt8}
    {db : StoreDb}
  {processed : List (String × String)}

theorem Applied.grow {active : Option B} {done cur rest : List UInt8}
    (h : Applied env task content db processed active done cur rest) (hc : content <+: content') :
    ∃ rest', Applied env task content' db processed active done cur rest' := by
  obtain ⟨t, rfl⟩ := hc
  refine ⟨rest ++ t, ?_, h.terminated, h.unfinished, h.lines,
    h.committed.grow (List.prefix_append _ _), h.behind⟩
  rw [h.content_eq]; simp

theorem Verifying.grow {offset : Nat} {v : CompletionVerification}
    (h : Verifying env task content db processed offset v) (hc : content <+: content') :
    Verifying env task content' db processed offset v := by
  have htake := take_grow hc h.inside
  exact ⟨h.endOffset, h.pos, h.inside.trans hc.length_le, htake ▸ h.terminated, htake ▸ h.lines,
    h.committed.grow hc, h.behind⟩

/-- What is kept between polls: a reading of the lines after the cursor, or a verification. -/
def PendingInv (env : ObserverEnv B P) (task : RolloutTask) (content : List UInt8) (db : StoreDb)
    (processed : List (String × String)) (scan : PendingScan B P) : Prop :=
  ScanFor task db scan ∧ match scan.verification with
    | none => ∃ done cur rest, Applied env task content db processed scan.active done cur rest ∧
        scan.offset = done.length + cur.length ∧ LineInv env [] scan.streamingLine done.length cur
    | some v => scan.active = none ∧ scan.streamingLine = none ∧
        Verifying env task content db processed scan.offset v

theorem PendingInv.grow {scan : PendingScan B P} (h : PendingInv env task content db processed scan)
    (hc : content <+: content') : PendingInv env task content' db processed scan := by
  obtain ⟨hscan, h⟩ := h
  refine ⟨hscan, ?_⟩
  split at h
  · obtain ⟨done, cur, rest, happlied, hoffset, hline⟩ := h
    obtain ⟨rest', happlied'⟩ := happlied.grow hc
    exact ⟨done, cur, rest', happlied', hoffset, hline⟩
  · exact ⟨h.1, h.2.1, h.2.2.grow hc⟩

/-! ## Where a poll starts -/

/-- At the end of the file every complete line has been applied. -/
theorem Applied.all {active : Option B} {done cur : List UInt8}
    (h : Applied env task content db processed active done cur []) :
    batch env (completeLines newline content) = .ok (processed, active) := by
  rw [h.content_eq, List.append_nil, completeLines_append h.terminated,
    completeLines_of_not_mem h.unfinished,
    List.append_nil]
  exact h.lines

end

end CodexKeyboard.Observer
