import CodexKeyboard.Lib.Transaction
/-!
# The Host's state store: errors, integer conversions and the shared payload checks

`src/app/host/src/store.rs`. SQLite integers are `i64`; every column the store writes is
nonnegative, so a row holds a `Nat` and a conversion from the Rust value fails above `i64::MAX`.

| here | there |
| --- | --- |
| `StoreError` | `StoreError` (store.rs:29); `sqlite` is any error SQLite itself reports, a violated constraint included |
| `toI64` | `to_i64` (store.rs:2296) |
| `validateSlot` | `validate_slot` (store.rs:2270) |
| `isAsciiControl` | `u8::is_ascii_control` on the bytes of a string |
-/

namespace CodexKeyboard.Store

/-- The errors of the store (store.rs:30). -/
inductive StoreError where
  | sqlite
  | invalidSlot
  | generationOutOfRange
  | claimGenerationOutOfRange
  | requestIdConflict
  | invalidJob
  | taskQueueFull
  | rolloutCursorChanged
  | bindingChanged
  | completionConflict
  | invalidCompletion
  | invalidSummaryRequest
  | summaryBusy
  | summaryRequestConflict
  | summaryRequestAbandoned
  | summaryGenerationOutOfRange
  | summaryClaimChanged
  | invalidSummaryState
  | invalidSummaryCacheReference
  | summaryTtsAttemptChanged
  | invalidPlaybackLease
  | playbackBusy
deriving DecidableEq, Repr

def maxPendingJobsPerTask : Nat := 12
def maxGlobalRunningJobs : Nat := 4
def maxSummaryCompletionsPerClaim : Nat := 32
def maxRequestIdBytes : Nat := 128
def maxTaskIdBytes : Nat := 64
def maxPromptBytes : Nat := 32 * 1024
def maxCwdBytes : Nat := 4 * 1024
def maxRolloutPathBytes : Nat := 4 * 1024
def maxTurnPackBytes : Nat := 64 * 1024
def maxSummaryTurnPackBytes : Nat := 1024 * 1024

/-- `i64::MAX`. -/
def i64Max : Nat := 0x7fffffffffffffff
/-- `u32::MAX`. -/
def u32Max : Nat := 0xffffffff

/-- `to_i64`: the value SQLite stores, when it fits. -/
def toI64 (value : Nat) : Except StoreError Nat :=
  if value ≤ i64Max then .ok value else .error .generationOutOfRange

@[simp] theorem toI64_eq_ok {v w : Nat} : toI64 v = .ok w ↔ v ≤ i64Max ∧ v = w := by
  unfold toI64
  by_cases h : v ≤ i64Max <;> simp [h]

@[simp] theorem toI64_eq_error {v : Nat} {e : StoreError} :
    toI64 v = .error e ↔ i64Max < v ∧ e = .generationOutOfRange := by
  unfold toI64
  by_cases h : v ≤ i64Max
  · simp [h, Nat.not_lt.2 h]
  · simp [h, Nat.lt_of_not_le h, eq_comm]

/-- `validate_slot`. -/
def validateSlot (slot : Nat) : Except StoreError Unit :=
  Lib.ensure (decide (1 ≤ slot ∧ slot ≤ 4)) .invalidSlot

/-- A byte below `0x20` or `0x7F` of a UTF-8 string is a character of its own. -/
def isAsciiControl (c : Char) : Bool := c.val < 0x20 || c.val == 0x7f

/-- `char::is_whitespace`, the Unicode `White_Space` property `str::trim` strips. -/
def isWhitespace (c : Char) : Bool :=
  (0x09 ≤ c.val && c.val ≤ 0x0d) || c.val == 0x20 || c.val == 0x85 || c.val == 0xa0 ||
  c.val == 0x1680 || (0x2000 ≤ c.val && c.val ≤ 0x200a) || c.val == 0x2028 || c.val == 0x2029 ||
  c.val == 0x202f || c.val == 0x205f || c.val == 0x3000

end CodexKeyboard.Store
