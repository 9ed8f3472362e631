import CodexKeyboard.Observer.Rollout
import CodexKeyboard.Lib.Lines
/-!
# The rollout in one pass

What the observer computes, said without polls: the complete lines of a rollout go through
`apply_rollout_value` one after another and give a list of completions (`batch`). The store holds of
them the first of every id (`ledger`) and the cursor of the last one.

| here | there |
| --- | --- |
| `parseLine` | the two ways from the bytes of a line to its value (rollout_observer.rs:528-577) |
| `batch` | `apply_rollout_value` (rollout_observer.rs:671) over the complete lines |
| `cursorOf`, `ledger` | `rollout_cursor` (store.rs:1467), the rows of `completion_ledger` of a task |
| `Committed` | what `commit_rollout_completion` leaves behind |
-/

namespace CodexKeyboard.Observer

open Lib Store

section
variable {B P : Type} (env : ObserverEnv B P)

/-- The value of a complete line: `serde_json` up to the size of the line buffer, the streaming
parser above it. -/
def parseLine (line : List UInt8) : Except ObserverError Json :=
  if line.length ≤ maxRolloutLineBytes then parseShortLine env line
  else do
    let p ← env.parser.feed env.parser.new line
    env.parser.finish p

/-- One line after the completions and the active turn of the lines before it. -/
def batchLine (s : List (String × String) × Option B) (line : List UInt8) :
    Except ObserverError (List (String × String) × Option B) := do
  let value ← parseLine env line
  let (completion, active) ← applyRolloutValue env value s.2
  return (s.1 ++ completion.toList, active)

/-- The completions (id and turn pack) of a list of lines and the turn that is active after them. -/
def batch (lines : List (List UInt8)) : Except ObserverError (List (String × String) × Option B) :=
  lines.foldlM (batchLine env) ([], none)

@[simp] theorem batch_nil : batch env [] = .ok ([], none) := rfl

variable {env}

/-- `rollout_cursor` of a task. -/
def cursorOf (taskId : String) (db : StoreDb) : Option RolloutCursor :=
  db.cursors.find? fun c => decide (c.taskId = taskId)

/-- The offset of the stored cursor; without a cursor nothing was committed. -/
def cursorOffset (taskId : String) (db : StoreDb) : Nat :=
  ((cursorOf taskId db).map RolloutCursor.offset).getD 0

/-- The completions of a task in `completion_ledger`, in the order they were inserted. -/
def ledger (taskId : String) (db : StoreDb) : List (String × String) :=
  (db.completions.filter fun c => decide (c.taskId = taskId)).map fun c => (c.completionId, c.turnPack)

theorem find?_upsertCursor (cursors : List RolloutCursor) (next : RolloutCursor) :
    (upsertCursor cursors next).find? (fun c => decide (c.taskId = next.taskId)) = some next := by
  unfold upsertCursor
  by_cases h : (cursors.any fun c => decide (c.taskId = next.taskId)) = true
  · rw [if_pos h]
    induction cursors with
    | nil => simp at h
    | cons c cursors ih =>
      by_cases hc : c.taskId = next.taskId
      · simp [updateWhere, hc]
      · have : (cursors.any fun c => decide (c.taskId = next.taskId)) = true := by simpa [hc] using h
        simpa [updateWhere, hc] using ih this
  · rw [if_neg h]
    have hnone : cursors.find? (fun c => decide (c.taskId = next.taskId)) = none := by
      simpa [List.find?_eq_none] using h
    simp [List.find?_append, hnone]

/-- A completion is added to the ledger of its task unless its id is there. -/
theorem ledger_recordCompletion {db db' : StoreDb} {now : Int} {taskId completionId turnPack : String}
    {outcome : CompletionOutcome}
    (h : recordCompletion db now taskId completionId turnPack = .ok (outcome, db')) :
    db'.cursors = db.cursors ∧
    ledger taskId db' = insertFirst (ledger taskId db) (completionId, turnPack) := by
  unfold recordCompletion at h
  split at h
  · rename_i c hc
    have hid : c.completionId = completionId := by simpa using List.find?_some hc
    split at h
    · rename_i htask
      obtain ⟨-, rfl⟩ := (by simpa using h : .replay = outcome ∧ db = db')
      have hany : (ledger taskId db).any (fun o => decide (o.1 = completionId)) = true := by
        simp only [ledger, List.any_map, List.any_filter, List.any_eq_true, Bool.and_eq_true]
        exact ⟨c, List.mem_of_find?_eq_some hc, by simpa using htask, by simpa using hid⟩
      simp [insertFirst, hany]
    · simp at h
  · rename_i hc
    obtain ⟨-, rfl⟩ := (by simpa [eq_comm] using h : outcome = .inserted ∧
      db' = { db with completions := db.completions ++ [⟨completionId, taskId, now, none, turnPack⟩] })
    have hany : (ledger taskId db).any (fun o => decide (o.1 = completionId)) = false := by
      simp only [List.find?_eq_none, decide_eq_true_eq] at hc
      simp only [ledger, List.any_map, List.any_filter, List.any_eq_false, Bool.and_eq_true]
      rintro c hm ⟨-, hid⟩
      exact hc c hm (by simpa using hid)
    refine ⟨rfl, ?_⟩
    simp only [insertFirst, hany, Bool.false_eq_true, if_false]
    simp [ledger, List.filter_append]

/-- A commit stores its cursor and adds its completion. -/
theorem commitRolloutCompletion_eq_ok {crates : Crates} {db db' : StoreDb} {now : Int}
    {binding : Option Binding}
    {expected : Option RolloutCursor} {next : RolloutCursor} {completionId turnPack : String}
    {outcome : CompletionOutcome}
    (h : commitRolloutCompletion crates db now binding expected next completionId turnPack =
      .ok (outcome, db')) :
    cursorOf next.taskId db' = some next ∧
      ledger next.taskId db' = insertFirst (ledger next.taskId db) (completionId, turnPack) := by
  simp only [commitRolloutCompletion, bind_eq_ok] at h
  obtain ⟨_, _, _, _, _, _, ⟨outcome', db1⟩, hrec, device, hd,
    inode, hi, offset, ho, generation, hg, h⟩ := h
  have hsame : ∀ {v w : Nat}, toSqlI64 v = .ok w → w = v := by
    intro v w hvw
    unfold toSqlI64 at hvw
    split at hvw <;> simp_all
  rw [hsame hd, hsame hi, hsame ho, hsame hg] at h
  obtain ⟨-, rfl⟩ := (by simpa [eq_comm] using h : outcome = outcome' ∧
    db' = { db1 with cursors := upsertCursor db1.cursors next })
  have hl := (ledger_recordCompletion hrec).2
  exact ⟨find?_upsertCursor _ _, hl⟩

variable (env)

/-- What the store holds of a rollout `content` after the completions `processed`: the lines before
the cursor give exactly them, and leave no turn open. -/
structure Committed (task : RolloutTask) (content : List UInt8) (db : StoreDb)
    (processed : List (String × String)) :
    Prop where
  lines :
    batch env (completeLines newline (content.take (cursorOffset task.taskId db))) = .ok (processed, none)
  ledger : ledger task.taskId db = firstOccurrences processed
  terminated : Terminated newline (content.take (cursorOffset task.taskId db))
  inside : cursorOffset task.taskId db ≤ content.length
  identity : ∀ c, cursorOf task.taskId db = some c → c.rolloutPath = task.rolloutPath ∧
    c.device = task.device ∧
    c.inode = task.inode ∧ c.generation = 1 ∧ 0 < c.offset
  anchor : ∀ c, cursorOf task.taskId db = some c → anchorAt env content c.offset = .ok c.anchor

variable {env} {task : RolloutTask} {content content' : List UInt8} {db db' : StoreDb}
  {processed : List (String × String)}

theorem cursorOffset_of_some {taskId : String} {c : RolloutCursor} (h : cursorOf taskId db = some c) :
    cursorOffset taskId db = c.offset := by
  simp [cursorOffset, h]

/-- A task of which the store knows nothing. -/
theorem Committed.initial (content : List UInt8) (hcursor : cursorOf task.taskId db = none)
    (hledger : Observer.ledger task.taskId db = []) : Committed env task content db [] := by
  have h0 : cursorOffset task.taskId db = 0 := by simp [cursorOffset, hcursor]
  constructor
  · rw [h0]; rfl
  · rw [hledger]; rfl
  · rw [h0]; exact terminated_nil
  · omega
  · intro c hc; rw [hcursor] at hc; cases hc
  · intro c hc; rw [hcursor] at hc; cases hc

theorem take_grow {n : Nat} (h : content <+: content') (hn : n ≤ content.length) :
    content'.take n = content.take n := by
  obtain ⟨t, rfl⟩ := h
  rw [List.take_append_of_le_length hn]

theorem anchorAt_grow {n : Nat} (h : content <+: content') (hn : n ≤ content.length) :
    anchorAt env content' n = anchorAt env content n := by
  have := h.length_le
  simp only [anchorAt, take_grow h hn, if_neg (Nat.not_lt.2 hn), if_neg (Nat.not_lt.2 (hn.trans this))]

/-- The file may have grown. -/
theorem Committed.grow (h : Committed env task content db processed) (hc : content <+: content') :
    Committed env task content' db processed := by
  have htake := take_grow hc h.inside
  refine ⟨htake ▸ h.lines, h.ledger, htake ▸ h.terminated, h.inside.trans hc.length_le, h.identity, ?_⟩
  intro c hcur
  have : c.offset ≤ content.length := cursorOffset_of_some hcur ▸ h.inside
  rw [anchorAt_grow hc this]
  exact h.anchor c hcur

/-- The commit of the next completion moves the cursor to the end of its line. -/
theorem Committed.commit {now : Int} {binding : Option Binding} {expected : Option RolloutCursor}
    {offset : Nat}
    {anchor : List UInt8} {completionId turnPack : String} {outcome : CompletionOutcome}
    (h : Committed env task content db processed)
    (hcommit : commitRolloutCompletion env.crates db now binding expected
      ⟨task.taskId, task.rolloutPath,
        task.device, task.inode, offset, 1, anchor⟩ completionId turnPack = .ok (outcome, db'))
    (hlines : batch env (completeLines newline (content.take offset)) =
      .ok (processed ++ [(completionId, turnPack)], none))
    (hterm : Terminated newline (content.take offset)) (hpos : 0 < offset) (hin : offset ≤ content.length)
    (hanchor : anchorAt env content offset = .ok anchor) :
    Committed env task content db' (processed ++ [(completionId, turnPack)]) ∧
      cursorOf task.taskId db' = some ⟨task.taskId, task.rolloutPath,
        task.device, task.inode, offset, 1, anchor⟩ := by
  obtain ⟨hcursor, hledger⟩ := commitRolloutCompletion_eq_ok hcommit
  have hoff := cursorOffset_of_some hcursor
  refine ⟨⟨?_, ?_, ?_, ?_, ?_, ?_⟩, hcursor⟩
  · rw [hoff]; exact hlines
  · rw [hledger, h.ledger, firstOccurrences_snoc]
  · rw [hoff]; exact hterm
  · rw [hoff]; exact hin
  · intro c hc
    rw [hcursor] at hc
    obtain rfl := Option.some.inj hc
    exact ⟨rfl, rfl, rfl, rfl, hpos⟩
  · intro c hc
    rw [hcursor] at hc
    obtain rfl := Option.some.inj hc
    exact hanchor

end

end CodexKeyboard.Observer
