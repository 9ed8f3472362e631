import CodexKeyboard.Observer.Batch
/-!
# One poll

What a reading has seen of the file is cut in three: `done`, the lines that were applied; `cur`, the
bytes of the line that is being read, in the line buffer or in the streaming parser; and `rest`.
`ReadingInv` says that the completions of `done` are those the store holds and that the active turn
is the one after `done`. A round of the loop keeps it (`readRound_spec`), so does the loop
(`scanLoop_spec`), and what a poll keeps for the next one (`PendingInv`) is enough to start from it
again. Nothing here depends on how the reads were cut.
-/

namespace CodexKeyboard.Observer

open Lib Store

section
variable {B P : Type} {env : ObserverEnv B P}

variable (env) in
/-- `cur` is in the line buffer, or it outgrew the buffer and the parser has been fed with it. -/
def LineInv (line : List UInt8) (streaming : Option (StreamingLine P)) (start : Nat)
    (cur : List UInt8) : Prop :=
  match streaming with
  | none => line = cur ∧ cur.length ≤ maxRolloutLineBytes
  | some s => line = [] ∧ s.startOffset = start ∧ maxRolloutLineBytes < cur.length ∧
      env.parser.feed env.parser.new cur = .ok s.parser

/-- The scan is about the task's file and starts from the stored cursor. -/
structure ScanFor (task : RolloutTask) (db : StoreDb) (scan : PendingScan B P) : Prop where
  expected : scan.expected = cursorOf task.taskId db
  rolloutPath : scan.rolloutPath = task.rolloutPath
  device : scan.device = task.device
  inode : scan.inode = task.inode
  generation : scan.generation = 1

/-- `done ++ cur` of the file has been read since the store's last commit, and `done` has been applied. -/
structure Applied (env : ObserverEnv B P) (task : RolloutTask) (content : List UInt8) (db : StoreDb)
    (processed : List (String × String)) (active : Option B) (done cur rest : List UInt8) : Prop where
  content_eq : content = done ++ (cur ++ rest)
  terminated : Terminated newline done
  unfinished : newline ∉ cur
  lines : batch env (completeLines newline done) = .ok (processed, active)
  committed : Committed env task content db processed
  behind : cursorOffset task.taskId db ≤ done.length

/-- A verification that was parked: its completion ends the lines before `offset` and is not in the
store yet. -/
structure Verifying (env : ObserverEnv B P) (task : RolloutTask) (content : List UInt8) (db : StoreDb)
    (processed : List (String × String)) (offset : Nat) (v : CompletionVerification) : Prop where
  endOffset : v.endOffset = offset
  pos : 0 < offset
  inside : offset ≤ content.length
  terminated : Terminated newline (content.take offset)
  lines : batch env (completeLines newline (content.take offset)) =
    .ok (processed ++ [(v.completionId, v.turnPack)], none)
  committed : Committed env task content db processed
  behind : cursorOffset task.taskId db ≤ offset

end

end CodexKeyboard.Observer
