import CodexKeyboard.Observer.Polling
import CodexKeyboard.Store.Resume
import CodexKeyboard.Lib.Run
import Mathlib.Data.List.Induction
/-!
# Incremental observation is batch processing

Polls of a growing file and restarts of the Host, which lose the pending scan. After every run the
ledger holds the completions of a prefix of the complete lines, and of all of them once a poll did
not use up its budget.
-/

namespace CodexKeyboard.Observer

open Lib Store

section
variable {B P : Type} {env : ObserverEnv B P} {task : RolloutTask} {content content' : List UInt8}

/-! ## Runs -/

/-- The contents the polls of a run see. -/
def contents (ops : List ObserverOp) : List (List UInt8) := ops.filterMap fun
  | .poll p => some p.content
  | .restart => none

variable (env task) in
/-- The observer after a run of successful polls of a file that grew to `content`. -/
def ObserverInv (content : List UInt8) (s : ObserverState B P) : Prop :=
  ∃ processed, Committed env task content s.db processed ∧
    ∀ p, s.pending = some p → PendingInv env task content s.db processed p

theorem ObserverInv.grow {s : ObserverState B P} (h : ObserverInv env task content s)
    (hc : content <+: content') :
    ObserverInv env task content' s := by
  obtain ⟨processed, hcommitted, hpending⟩ := h
  exact ⟨processed, hcommitted.grow hc, fun p hp => (hpending p hp).grow hc⟩

end

/-! ## Two runs -/

section
variable {content rest : List UInt8} (hcontent : content = metaLine ++ newline :: rest)
include hcontent

end

/-- A reading between two records, nothing applied yet. -/
structure Idle (content : List UInt8) (r : Reading (String × String) (List UInt8)) (n : Nat) : Prop where
  scanned : r.scanned = n
  offset : r.offset = n
  line : r.line = []
  streamingLine : r.streamingLine = none
  active : r.active = none
  db : r.db = .empty
  completions : r.completions = []
  trustedOffset : r.scan.trustedOffset = 0
  trustedAnchor : r.scan.trustedAnchor = sampleCrates.sha256 []
  trustedPrefixLen : r.scan.trustedPrefixLen ≤ content.length
  trustedPrefixAnchor : r.scan.trustedPrefixAnchor = sampleCrates.sha256 []

end CodexKeyboard.Observer
