import CodexKeyboard.Store.Ledger
/-!
# Every completion is carried by one summary

The completion ledger only grows, and a summarized completion stays summarized (`kept_storeAfter`).
Together with `LedgerInv` this is what the mailbox relies on: what was observed is in exactly one
published summary that nothing superseded, or still pending.
-/

namespace CodexKeyboard.Store

open Lib

variable {db db' : StoreDb} {op : StoreOp}

/-- Every completion is still there, and summarized if it was. -/
def Kept (db db' : StoreDb) : Prop :=
  ∀ c ∈ db.completions, ∃ c' ∈ db'.completions, c'.completionId = c.completionId ∧ c'.taskId = c.taskId ∧
    c'.turnPack = c.turnPack ∧
    (c.summarizedGeneration.isSome = true → c'.summarizedGeneration.isSome = true)

theorem kept_refl (db : StoreDb) : Kept db db := fun c hc => ⟨c, hc, rfl, rfl, rfl, id⟩

theorem kept_trans (a b c : StoreDb) (h : Kept a b) (h' : Kept b c) : Kept a c := by
  intro x hx
  obtain ⟨y, hy, hid, htask, hpack, hsum⟩ := h x hx
  obtain ⟨z, hz, hid', htask', hpack', hsum'⟩ := h' y hy
  exact ⟨z, hz, hid'.trans hid, htask'.trans htask, hpack'.trans hpack, fun h => hsum' (hsum h)⟩

theorem kept_of_eq (h : db'.completions = db.completions) : Kept db db' :=
  fun c hc => ⟨c, h ▸ hc, rfl, rfl, rfl, id⟩

theorem kept_effect (he : Effect op db db') : Kept db db' := by
  cases he with
  | keep _ hc => exact kept_of_eq hc
  | observe c _ _ hc => intro o ho; exact ⟨o, hc ▸ List.mem_append_left _ ho, rfl, rfl, rfl, id⟩
  | claim r hc => exact kept_of_eq hc
  | mark m p hc => exact kept_of_eq hc
  | publish taskId requestId cacheObject generation move _ _ _ _ hc hmove =>
    intro c hcm
    obtain ⟨hid, htask, hpack⟩ := (hmove c hcm).key
    refine ⟨move c, hc ▸ List.mem_map_of_mem hcm, hid, htask, hpack, fun hsome => ?_⟩
    rcases hmove c hcm with ⟨heq, _⟩ | ⟨heq, _⟩
    · rw [heq]; exact hsome
    · rw [heq]; rfl
  | lease l _ hc => exact kept_of_eq hc
  | cancel l _ hc => exact kept_of_eq hc
  | hear lease _ _ hc => exact kept_of_eq hc
  | recoverLeases hc => exact kept_of_eq hc

theorem storeAfter_append (env : Crates) (ops later : List StoreOp) :
    storeAfter env (ops ++ later) = after (storeStep env) (storeAfter env ops) later := after_append _ _ _

theorem kept_storeAfter (env : Crates) (ops later : List StoreOp) :
    Kept (storeAfter env ops) (storeAfter env (ops ++ later)) := by
  rw [storeAfter_append]
  refine after_rel (inv_storeStep env) kept_refl kept_trans (fun db op h => ?_) later
    (inv_storeAfter env ops)
  obtain ⟨mid, h1, h2⟩ := storeStep_effects env op h
  exact kept_trans _ _ _ (kept_effect h1) (kept_effect h2)

/-! ## The current unread summary -/

/-- The one current summary of a task is what `query_current_unread` reads. -/
theorem queryCurrentUnread_of_current (h : LedgerInv db) {taskId : String} {q : SummaryRow}
    (hq : q ∈ db.summaries)
    (hcur : currentOf taskId q = true) :
    ∃ u, queryCurrentUnread db taskId = .ok (some u) ∧ u.generation = q.generation := by
  have hfind : db.summaries.find? (currentOf taskId) = some q := by
    cases hf : db.summaries.find? (currentOf taskId) with
    | none => simpa [hcur] using List.find?_eq_none.1 hf q hq
    | some q' => rw [eq_of_current h.schema (List.mem_of_find?_eq_some hf) hq (List.find?_some hf) hcur]
  have hcurrent : q.isCurrent = true := by
    simp only [currentOf, Bool.and_eq_true] at hcur; exact hcur.2
  obtain ⟨hcache, hpos, hle⟩ := h.unread q hq hcurrent
  obtain ⟨cacheObject, hcache⟩ := Option.isSome_iff_exists.1 hcache
  have hgen : 0 < q.generation := (h.schema.2 q hq).1
  refine ⟨⟨taskId, q.generation, cacheObject,
    db.completions.countP (coveredBy q.taskId q.generation)⟩, ?_, rfl⟩
  simp only [queryCurrentUnread, hfind, hcache]
  rw [if_pos ⟨hgen, hpos⟩, if_pos hle]

theorem queryCurrentUnread_of_none {taskId : String} (h : ∀ r ∈ db.summaries, currentOf taskId r = false) :
    queryCurrentUnread db taskId = .ok none := by
  have hfind : db.summaries.find? (currentOf taskId) = none := List.find?_eq_none.2 fun r hr => by
    simp [h r hr]
  simp [queryCurrentUnread, hfind]

theorem queryCurrentUnread_total (h : LedgerInv db) (taskId : String) :
    ∃ u, queryCurrentUnread db taskId = .ok u := by
  by_cases hex : ∃ q ∈ db.summaries, currentOf taskId q = true
  · obtain ⟨q, hq, hcur⟩ := hex
    obtain ⟨u, hu, _⟩ := queryCurrentUnread_of_current h hq hcur
    exact ⟨some u, hu⟩
  · exact ⟨none, queryCurrentUnread_of_none fun r hr => by
      by_contra hc
      exact hex ⟨r, hr, by simpa using hc⟩⟩

/-- No completion is lost; a summarized one is carried by one standing summary; a task has at most
one current summary, which covers something, so reading it never fails. -/
theorem completions_carried_once (env : Crates) (ops : List StoreOp) :
    (∀ later, ∀ c ∈ (storeAfter env ops).completions, ∃ c' ∈ (storeAfter env (ops ++ later)).completions,
      c'.completionId = c.completionId ∧ c'.taskId = c.taskId ∧ c'.turnPack = c.turnPack ∧
      (c.summarizedGeneration.isSome = true → c'.summarizedGeneration.isSome = true)) ∧
    (∀ c ∈ (storeAfter env ops).completions, ∀ g, c.summarizedGeneration = some g →
      ∃ r ∈ (storeAfter env ops).summaries, r.taskId = c.taskId ∧ r.generation = g ∧
        (r.state = .unheard ∨ r.state = .leased ∨ r.state = .heard) ∧ r.supersededBy = none ∧
        ∀ r' ∈ (storeAfter env ops).summaries, r'.taskId = c.taskId → r'.generation = g → r' = r) ∧
    (∀ taskId, (storeAfter env ops).summaries.countP (currentOf taskId) ≤ 1) ∧
    (∀ r ∈ (storeAfter env ops).summaries, r.isCurrent = true →
      0 < (storeAfter env ops).completions.countP (coveredBy r.taskId r.generation)) ∧
    (∀ taskId, ∃ u, queryCurrentUnread (storeAfter env ops) taskId = .ok u) := by
  have hinv := (inv_storeAfter env ops).ledger
  refine ⟨kept_storeAfter env ops, fun c hc g hg => ?_, fun taskId => ?_,
    fun r hr hcur => (hinv.unread r hr hcur).2.1,
    queryCurrentUnread_total hinv⟩
  · obtain ⟨r, hr, htask, hgen, hstate, hsuper⟩ := hinv.covered c hc g hg
    exact ⟨r, hr, htask, hgen, hstate, hsuper, fun r' hr' htask' hgen' =>
      eq_of_key hinv.schema hr' hr (htask'.trans htask.symm) (hgen'.trans hgen.symm)⟩
  · refine countP_le_one hinv.schema.1 fun a b hab hboth => ?_
    simp only [currentOf, Bool.and_eq_true, decide_eq_true_eq] at hboth
    exact hab.2.2.2 ⟨hboth.1.1.trans hboth.2.1.symm, hboth.1.2, hboth.2.2⟩

end CodexKeyboard.Store
