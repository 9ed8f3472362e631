import CodexKeyboard.Keyboard.PlatformSelection
/-!
# What a selection ends in

Every call of an open selection makes it, ends it otherwise, or leaves it open (`step_elapsed`,
`step_open`). As long as no other key is pressed the selection can only be made for the key
(`Choosing`); once that was pressed (`Seen`), is up and its guard ends before a later call
(`Guarded`), that call makes it.
-/

namespace CodexKeyboard.Keyboard

open Lib

namespace PlatformSelectionController

variable {c : PlatformSelectionController}

/-! ## How an arm ends -/

/-- The outcomes a run returns. -/
def outcomes (c : PlatformSelectionController) (calls : List (Call UInt32)) :
    List PlatformSelectionOutcome :=
  ((answers PlatformSelectionController.step c calls).map (·.outcome)).filter (· ≠ .none)

theorem outcomes_cons (c : PlatformSelectionController) (call : Call UInt32) (calls : List (Call UInt32)) :
    outcomes c (call :: calls) = (if (PlatformSelectionController.step c call).1.outcome ≠ .none then
      [(PlatformSelectionController.step c call).1.outcome] else []) ++
        outcomes (PlatformSelectionController.step c call).2 calls := by
  rw [outcomes, answers, List.map_cons, List.filter_cons]
  by_cases houtcome : (PlatformSelectionController.step c call).1.outcome ≠ .none
  · rw [if_pos (by simpa using houtcome), if_pos houtcome]
    rfl
  · rw [if_neg (by simpa using houtcome), if_neg houtcome]
    rfl

theorem step_inactive {call : Call UInt32} (hinactive : c.active = false) (harm : call.isArm = false) :
    (PlatformSelectionController.step c call).1.outcome = .none ∧
      (PlatformSelectionController.step c call).2.active = false := by
  cases call with
  | arm nowMs timeoutMs => cases harm
  | update nowMs =>
    simp only [PlatformSelectionController.step, PlatformSelectionController.update, if_pos hinactive]
    exact ⟨trivial, hinactive⟩
  | handleEvent input phase nowMs =>
    simp only [PlatformSelectionController.step, PlatformSelectionController.handleEvent, if_pos hinactive]
    split
    · refine ⟨rfl, ?_⟩
      simp only [PlatformSelectionController.drain]
      split <;> exact hinactive
    · exact ⟨rfl, hinactive⟩

/-- What the time decides comes first. -/
theorem step_elapsed {call : Call UInt32} {outcome : PlatformSelectionOutcome} (hactive : c.active = true)
    (harm : call.isArm = false) (helapsed : c.elapsed call.nowMs = some outcome) :
    (PlatformSelectionController.step c call).1.outcome = outcome ∧
      (PlatformSelectionController.step c call).2.active = false := by
  have hopen : ¬ c.active = false := by simp [hactive]
  cases call with
  | arm nowMs timeoutMs => cases harm
  | update nowMs =>
    rw [Call.nowMs] at helapsed
    simp only [PlatformSelectionController.step, PlatformSelectionController.update, if_neg hopen, helapsed]
    exact ⟨rfl, rfl⟩
  | handleEvent input phase nowMs =>
    rw [Call.nowMs] at helapsed
    simp only [PlatformSelectionController.step,
      PlatformSelectionController.handleEvent, if_neg hopen, helapsed]
    split
    · refine ⟨rfl, ?_⟩
      simp only [PlatformSelectionController.drain]
      split <;> rfl
    · exact ⟨rfl, rfl⟩

/-- A call that finds nothing elapsed: it ends the selection, or leaves it open with the same timeout. -/
theorem step_open {call : Call UInt32} (hactive : c.active = true) (harm : call.isArm = false)
    (helapsed : c.elapsed call.nowMs = none) :
    (PlatformSelectionController.step c call).1.outcome ≠ .none ∧
      (PlatformSelectionController.step c call).2.active = false ∨
      (PlatformSelectionController.step c call).1.outcome = .none ∧
        (PlatformSelectionController.step c call).2.active = true ∧
        (PlatformSelectionController.step c call).2.timeoutDeadlineMs = c.timeoutDeadlineMs := by
  have hopen : ¬ c.active = false := by simp [hactive]
  cases call with
  | arm nowMs timeoutMs => cases harm
  | update nowMs =>
    rw [Call.nowMs] at helapsed
    simp only [PlatformSelectionController.step, PlatformSelectionController.update, if_neg hopen, helapsed]
    exact .inr ⟨trivial, hactive, trivial⟩
  | handleEvent input phase nowMs =>
    rw [Call.nowMs] at helapsed
    simp only [PlatformSelectionController.step,
      PlatformSelectionController.handleEvent, if_neg hopen, helapsed]
    by_cases hother : platformKeyMask input = 0
    · rw [if_pos hother]
      split
      · exact .inl ⟨by simp [PlatformSelectionController.finish], rfl⟩
      · exact .inr ⟨rfl, hactive, rfl⟩
    rw [if_neg hother]
    split
    · split
      · exact .inl ⟨by simp [PlatformSelectionController.finish], rfl⟩
      · exact .inr ⟨rfl, hactive, rfl⟩
    · refine .inr ⟨rfl, ?_⟩
      split
      · exact ⟨hactive, rfl⟩
      · exact ⟨hactive, rfl⟩

theorem elapsed_ne_none {nowMs : UInt32} : c.elapsed nowMs ≠ some .none := by
  unfold PlatformSelectionController.elapsed
  split
  · simp
  · split
    · split <;> simp
    · simp

theorem outcomes_inactive :
    ∀ {c : PlatformSelectionController} (calls : List (Call UInt32)), c.active = false →
    (∀ call ∈ calls, call.isArm = false) → outcomes c calls = []
  | _, [], _, _ => rfl
  | c, call :: calls, hinactive, harm => by
    rw [List.forall_mem_cons] at harm
    obtain ⟨houtcome, hnext⟩ := step_inactive hinactive harm.1
    rw [outcomes_cons, if_neg (not_not.mpr houtcome), outcomes_inactive calls hnext harm.2]
    rfl

/-- An armed selection returns at most one outcome, and one if a call comes at its timeout or later. -/
theorem length_outcomes :
    ∀ {c : PlatformSelectionController} (calls : List (Call UInt32)), c.active = true →
    (∀ call ∈ calls, call.isArm = false) → (outcomes c calls).length ≤ 1 ∧
      ((∃ call ∈ calls, deadlineReached call.nowMs c.timeoutDeadlineMs = true) →
        (outcomes c calls).length = 1)
  | _, [], _, _ => ⟨Nat.zero_le _, by simp⟩
  | c, call :: calls, hactive, harm => by
    rw [List.forall_mem_cons] at harm
    rw [outcomes_cons]
    have hended : ∀ (houtcome : (PlatformSelectionController.step c call).1.outcome ≠ .none)
        (hclosed : (PlatformSelectionController.step c call).2.active = false),
        ((if (PlatformSelectionController.step c call).1.outcome ≠ .none then
          [(PlatformSelectionController.step c call).1.outcome] else []) ++
            outcomes (PlatformSelectionController.step c call).2 calls).length = 1 := by
      intro houtcome hclosed
      rw [if_pos houtcome, outcomes_inactive calls hclosed harm.2]
      rfl
    cases helapsed : c.elapsed call.nowMs with
    | some outcome =>
      obtain ⟨houtcome, hclosed⟩ := step_elapsed hactive harm.1 helapsed
      have hne : (PlatformSelectionController.step c call).1.outcome ≠ .none := by
        rw [houtcome]
        intro heq
        exact elapsed_ne_none (heq ▸ helapsed)
      rw [hended hne hclosed]
      exact ⟨Nat.le_refl _, fun _ => rfl⟩
    | none =>
      rcases step_open hactive harm.1 helapsed with ⟨hne, hclosed⟩ | ⟨hnone, hopen, htimeout⟩
      · rw [hended hne hclosed]
        exact ⟨Nat.le_refl _, fun _ => rfl⟩
      · obtain ⟨hle, hlate⟩ := length_outcomes calls hopen harm.2
        rw [if_neg (not_not.mpr hnone), List.nil_append]
        refine ⟨hle, ?_⟩
        rintro ⟨late, hmem, hreached⟩
        rcases List.mem_cons.mp hmem with rfl | hmem
        · unfold PlatformSelectionController.elapsed at helapsed
          rw [if_pos hreached] at helapsed
          cases helapsed
        · exact hlate ⟨late, hmem, htimeout.symm ▸ hreached⟩

/-! ## One key -/

/-- What the two keys choose. -/
def selection : InputId → PlatformSelectionOutcome
  | .key1 => .macOS
  | .key2 => .windows
  | _ => .none

/-- A selection in which no key but `key` was pressed. -/
structure Choosing (key : InputId) (deadline : UInt32) (c : PlatformSelectionController) : Prop where
  active : c.active = true
  timeout : c.timeoutDeadlineMs = deadline
  seen : c.seenMask = 0 ∨ c.seenMask = platformKeyMask key
  down : c.downMask = 0 ∨ c.downMask = platformKeyMask key
  decided : c.decisionDeadlineMs ≠ 0 → c.seenMask = platformKeyMask key

/-- The key was pressed. -/
structure Seen (key : InputId) (deadline : UInt32) (c : PlatformSelectionController) :
    Prop extends Choosing key deadline c where
  chosen : c.seenMask = platformKeyMask key

/-- The key is up, and the end of its guard comes before `nowMs`. -/
structure Guarded (key : InputId) (deadline nowMs : UInt32) (c : PlatformSelectionController) : Prop
    extends Seen key deadline c where
  up : c.downMask = 0
  guard : c.decisionDeadlineMs ≠ 0
  ends : deadlineReached nowMs c.decisionDeadlineMs = true

variable {key : InputId} {deadline lastMs : UInt32}

theorem selection_ne_none (hkey : key = .key1 ∨ key = .key2) : selection key ≠ .none := by
  rcases hkey with rfl | rfl <;> decide

/-- The time alone decides for the key. -/
theorem Choosing.elapsed (h : Choosing key deadline c) (hkey : key = .key1 ∨ key = .key2) {nowMs : UInt32}
    (hearly : deadlineReached nowMs deadline = false) {outcome : PlatformSelectionOutcome}
    (helapsed : c.elapsed nowMs = some outcome) : outcome = selection key := by
  unfold PlatformSelectionController.elapsed at helapsed
  rw [h.timeout, if_neg (by simp [hearly])] at helapsed
  by_cases hdecided : c.decisionDeadlineMs ≠ 0 ∧ deadlineReached nowMs c.decisionDeadlineMs = true
  · rw [if_pos hdecided, h.decided hdecided.1] at helapsed
    rw [← Option.some.inj helapsed]
    rcases hkey with rfl | rfl <;> rfl
  · rw [if_neg hdecided] at helapsed
    cases helapsed

/-- What a property of the open selection becomes in one call: the selection is made, or it stays
open with another property. -/
def Becomes (key : InputId) (c : PlatformSelectionController) (call : Call UInt32)
    (P : PlatformSelectionController → Prop) :
    Prop :=
  (PlatformSelectionController.step c call).1.outcome = selection key ∧
      (PlatformSelectionController.step c call).2.active = false ∨
    (PlatformSelectionController.step c call).1.outcome = .none ∧
      P (PlatformSelectionController.step c call).2

/-- What the release of a key makes of an open selection. -/
def keyUp (c : PlatformSelectionController) (keyMask : UInt8) (nowMs : UInt32) :
    PlatformSelectionController :=
  if c.seenMask ≠ 0 ∧ c.downMask &&& ~~~keyMask = 0 then
    { c with downMask := c.downMask &&& ~~~keyMask, decisionDeadlineMs := nowMs + kPlatformSelectionChordGuardMs }
  else { c with downMask := c.downMask &&& ~~~keyMask }

/-- An open selection in which nothing has elapsed, at a call that presses no key. -/
theorem step_quiet {call : Call UInt32} (hactive : c.active = true) (harm : call.isArm = false)
    (helapsed : c.elapsed call.nowMs = none) (hquiet : call.presses = none) :
    (PlatformSelectionController.step c call).1.outcome = .none ∧
      ((PlatformSelectionController.step c call).2 = c ∧ call.releases = false ∨
        ∃ input nowMs, call = .handleEvent input .released nowMs ∧ platformKeyMask input ≠ 0 ∧
          (PlatformSelectionController.step c call).2 = c.keyUp (platformKeyMask input) nowMs) := by
  have hopen : ¬ c.active = false := by simp [hactive]
  cases call with
  | arm nowMs timeoutMs => cases harm
  | update nowMs =>
    rw [Call.nowMs] at helapsed
    simp only [PlatformSelectionController.step, PlatformSelectionController.update, if_neg hopen, helapsed]
    exact ⟨trivial, .inl ⟨trivial, rfl⟩⟩
  | handleEvent input phase nowMs =>
    cases phase with
    | pressed => cases hquiet
    | released =>
      rw [Call.nowMs] at helapsed
      by_cases hother : platformKeyMask input = 0
      · simp only [PlatformSelectionController.step,
          PlatformSelectionController.handleEvent, if_neg hopen, helapsed,
          if_pos hother]
        exact ⟨rfl, .inl ⟨rfl, by simp [Call.releases, hother]⟩⟩
      · simp only [PlatformSelectionController.step,
          PlatformSelectionController.handleEvent, if_neg hopen, helapsed,
          if_neg hother]
        refine ⟨rfl, .inr ⟨input, nowMs, rfl, hother, ?_⟩⟩
        rw [if_neg (by decide), keyUp]

/-- An open selection in which nothing has elapsed, at the press of the key. -/
theorem Choosing.press (h : Choosing key deadline c) (hkey : key = .key1 ∨ key = .key2) {nowMs : UInt32}
    (helapsed : c.elapsed nowMs = none) :
    (PlatformSelectionController.step c (.handleEvent key .pressed nowMs)).1.outcome = .none ∧
      Seen key deadline (PlatformSelectionController.step c (.handleEvent key .pressed nowMs)).2 := by
  have hopen : ¬ c.active = false := by simp [h.active]
  have hmask : platformKeyMask key ≠ 0 := by rcases hkey with rfl | rfl <;> decide
  have hor : ∀ mask : UInt8, mask = 0 ∨ mask = platformKeyMask key →
    mask ||| platformKeyMask key = platformKeyMask key := by
    rintro mask (rfl | rfl)
    · exact UInt8.zero_or
    · exact UInt8.or_self
  have hconflict : platformKeyMask key ≠ kConflictMask := by rcases hkey with rfl | rfl <;> decide
  simp only [PlatformSelectionController.step, PlatformSelectionController.handleEvent,
    if_neg hopen, helapsed, if_neg hmask,
    if_true, hor _ h.seen, hor _ h.down, if_neg hconflict]
  exact ⟨trivial, ⟨⟨h.active, h.timeout, .inr rfl, .inr rfl, fun _ => rfl⟩, rfl⟩⟩

/-- The release of a key keeps the selection. -/
theorem Choosing.keyUp (h : Choosing key deadline c) {input : InputId}
    (hinput : platformKeyMask input ≠ 0) (nowMs : UInt32) :
    Choosing key deadline (c.keyUp (platformKeyMask input) nowMs) := by
  have hdown : c.downMask &&& ~~~platformKeyMask input = 0 ∨
    c.downMask &&& ~~~platformKeyMask input = platformKeyMask key := by
    rcases h.down with hzero | hone
    · rw [hzero]
      exact .inl UInt8.zero_and
    · rw [hone]
      cases key <;> cases input <;> first | exact absurd rfl hinput | decide
  unfold PlatformSelectionController.keyUp
  by_cases hup : c.seenMask ≠ 0 ∧ c.downMask &&& ~~~platformKeyMask input = 0
  · rw [if_pos hup]
    exact ⟨h.active, h.timeout, h.seen, hdown, fun _ => h.seen.resolve_left hup.1⟩
  · rw [if_neg hup]
    exact ⟨h.active, h.timeout, h.seen, hdown, h.decided⟩

theorem Seen.keyUp (h : Seen key deadline c) {input : InputId} (hinput : platformKeyMask input ≠ 0)
    (nowMs : UInt32) :
    Seen key deadline (c.keyUp (platformKeyMask input) nowMs) := by
  refine ⟨h.toChoosing.keyUp hinput nowMs, ?_⟩
  unfold PlatformSelectionController.keyUp
  split <;> exact h.chosen

/-- A release after which both keys are up starts the guard. -/
theorem Seen.guard (h : Seen key deadline c) (hkey : key = .key1 ∨ key = .key2) {input : InputId}
    (hinput : platformKeyMask input ≠ 0) {nowMs : UInt32}
    (hup : c.downMask &&& ~~~platformKeyMask input = 0)
    (hguard : nowMs + kPlatformSelectionChordGuardMs ≠ 0)
    (hends : deadlineReached lastMs (nowMs + kPlatformSelectionChordGuardMs) = true) :
    Guarded key deadline lastMs (c.keyUp (platformKeyMask input) nowMs) := by
  have hseen : c.seenMask ≠ 0 := by
    rw [h.chosen]
    rcases hkey with rfl | rfl <;> decide
  have hnext := h.keyUp hinput nowMs
  unfold PlatformSelectionController.keyUp at hnext ⊢
  rw [if_pos ⟨hseen, hup⟩] at hnext ⊢
  exact ⟨hnext, hup, hguard, hends⟩

/-- A call that presses no other key makes the selection, or leaves it open. -/
theorem Choosing.step_of {P : PlatformSelectionController → Prop} (h : Choosing key deadline c)
    (hkey : key = .key1 ∨ key = .key2) {call : Call UInt32} (harm : call.isArm = false)
    (hearly : deadlineReached call.nowMs deadline = false) (honly : ∀ other ∈ call.presses, other = key)
    (hsame : call.presses = none → call.releases = false → P c)
    (hpress : call.presses = some key → ∀ next, Seen key deadline next → P next)
    (hup : ∀ input nowMs, call = .handleEvent input .released nowMs → platformKeyMask input ≠ 0 →
      c.elapsed nowMs = none →
      P (c.keyUp (platformKeyMask input) nowMs)) : Becomes key c call P := by
  cases helapsed : c.elapsed call.nowMs with
  | some outcome =>
    obtain ⟨houtcome, hclosed⟩ := step_elapsed h.active harm helapsed
    rw [h.elapsed hkey hearly helapsed] at houtcome
    exact .inl ⟨houtcome, hclosed⟩
  | none =>
    cases hpresses : call.presses with
    | none =>
      obtain ⟨hnone, ⟨hnext, hreleases⟩ | ⟨input, nowMs, rfl, hinput, hnext⟩⟩ :=
        step_quiet h.active harm helapsed hpresses
      · exact .inr ⟨hnone, hnext.symm ▸ hsame hpresses hreleases⟩
      · exact .inr ⟨hnone, hnext.symm ▸ hup input nowMs rfl hinput helapsed⟩
    | some other =>
      have hother := honly other hpresses
      subst hother
      have hcall : ∃ nowMs, call = .handleEvent other .pressed nowMs := by
        cases call with
        | arm nowMs timeoutMs => cases harm
        | update nowMs => cases hpresses
        | handleEvent input phase nowMs =>
          cases phase with
          | released => cases hpresses
          | pressed =>
            cases hpresses
            exact ⟨nowMs, rfl⟩
      obtain ⟨nowMs, rfl⟩ := hcall
      obtain ⟨hnone, hseen⟩ := h.press hkey helapsed
      exact .inr ⟨hnone, hpress hpresses _ hseen⟩

/-- What a property of the open selection becomes in a run. -/
def BecomesAfter (key : InputId) (c : PlatformSelectionController) (calls : List (Call UInt32))
    (P : PlatformSelectionController → Prop) : Prop :=
  outcomes c calls = [selection key] ∧ (after PlatformSelectionController.step c calls).active = false ∨
    outcomes c calls = [] ∧ P (after PlatformSelectionController.step c calls)

theorem outcomes_append : ∀ (c : PlatformSelectionController) (calls more : List (Call UInt32)),
    outcomes c (calls ++ more) =
      outcomes c calls ++ outcomes (after PlatformSelectionController.step c calls) more
  | _, [], _ => rfl
  | c, call :: calls, more => by
    rw [List.cons_append, outcomes_cons, outcomes_cons, outcomes_append, after_cons, List.append_assoc]

theorem BecomesAfter.append {P Q : PlatformSelectionController → Prop} {calls more : List (Call UInt32)}
    (h : BecomesAfter key c calls P) (harm : ∀ call ∈ more, call.isArm = false)
    (hmore : P (after PlatformSelectionController.step c calls) →
      BecomesAfter key (after PlatformSelectionController.step c calls) more Q) :
        BecomesAfter key c (calls ++ more) Q := by
  rcases h with ⟨houtcomes, hclosed⟩ | ⟨houtcomes, hopen⟩
  · refine .inl ⟨?_, ?_⟩
    · rw [outcomes_append, houtcomes, outcomes_inactive more hclosed harm, List.append_nil]
    · rw [after_append]
      have hrun : ∀ (calls : List (Call UInt32)) (d : PlatformSelectionController), d.active = false →
          (∀ call ∈ calls, call.isArm = false) →
            (after PlatformSelectionController.step d calls).active = false := by
        intro calls
        induction calls with
        | nil => exact fun d hd _ => hd
        | cons call calls ih =>
          intro d hd hcalls
          rw [List.forall_mem_cons] at hcalls
          exact ih _ (step_inactive hd hcalls.1).2 hcalls.2
      exact hrun more _ hclosed harm
  · rcases hmore hopen with ⟨hchosen, hclosed⟩ | ⟨hnone, hnext⟩
    · refine .inl ⟨?_, ?_⟩
      · rw [outcomes_append, houtcomes, List.nil_append, hchosen]
      · rw [after_append]
        exact hclosed
    · refine .inr ⟨?_, ?_⟩
      · rw [outcomes_append, houtcomes, List.nil_append, hnone]
      · rw [after_append]
        exact hnext

theorem Becomes.single {P : PlatformSelectionController → Prop} {call : Call UInt32}
    (hkey : key = .key1 ∨ key = .key2) (h : Becomes key c call P) : BecomesAfter key c [call] P := by
  unfold BecomesAfter
  rw [outcomes_cons, after_cons, after_nil]
  rcases h with ⟨houtcome, hclosed⟩ | ⟨hnone, hopen⟩
  · rw [houtcome, if_pos (selection_ne_none hkey)]
    exact .inl ⟨rfl, hclosed⟩
  · rw [if_neg (not_not.mpr hnone)]
    exact .inr ⟨rfl, hopen⟩

/-- What every call preserves until the selection is made. -/
theorem becomesAfter_run {P : PlatformSelectionController → Prop} {ok : Call UInt32 → Prop}
    (hkey : key = .key1 ∨ key = .key2) (harm : ∀ call, ok call → call.isArm = false)
    (hstep : ∀ c call, P c → c.GuardEnds call → ok call → Becomes key c call P) :
    ∀ {c : PlatformSelectionController} (calls : List (Call UInt32)), P c → (∀ call ∈ calls, ok call) →
      Throughout PlatformSelectionController.step GuardEnds c calls → BecomesAfter key c calls P
  | _, [], h, _, _ => .inr ⟨rfl, h⟩
  | c, call :: calls, h, hok, hends => by
    rw [List.forall_mem_cons] at hok
    have hfirst := (hstep c call h hends.1 hok.1).single hkey
    rw [← List.singleton_append]
    exact hfirst.append (fun call hcall => harm call (hok.2 call hcall)) fun hnext =>
      becomesAfter_run hkey harm hstep calls hnext hok.2 hends.2

/-- What a call before the timeout that presses no other key has to be. -/
def OnlyPresses (key : InputId) (deadline : UInt32) (call : Call UInt32) : Prop :=
  call.isArm = false ∧ deadlineReached call.nowMs deadline = false ∧ ∀ other ∈ call.presses, other = key

/-- What a call has to be that presses no key and leaves the guard time before `lastMs`. -/
def Leaves (deadline lastMs : UInt32) (call : Call UInt32) : Prop :=
  call.isArm = false ∧ deadlineReached call.nowMs deadline = false ∧ call.presses = none ∧
    (call.releases = true → deadlineReached lastMs (call.nowMs + kPlatformSelectionChordGuardMs) = true)

theorem Choosing.onlyPresses (h : Choosing key deadline c) (hkey : key = .key1 ∨ key = .key2)
    {call : Call UInt32}
    (hok : OnlyPresses key deadline call) : Becomes key c call (Choosing key deadline) :=
  h.step_of hkey hok.1 hok.2.1 hok.2.2 (fun _ _ => h) (fun _ _ hseen => hseen.toChoosing)
    fun _ nowMs _ hinput _ => h.keyUp hinput nowMs

theorem Seen.onlyPresses (h : Seen key deadline c) (hkey : key = .key1 ∨ key = .key2) {call : Call UInt32}
    (hok : OnlyPresses key deadline call) : Becomes key c call (Seen key deadline) :=
  h.toChoosing.step_of hkey hok.1 hok.2.1 hok.2.2 (fun _ _ => h) (fun _ _ hseen => hseen)
    fun _ nowMs _ hinput _ => h.keyUp hinput nowMs

/-- The release after which both keys are up. -/
theorem Seen.release (h : Seen key deadline c) (hkey : key = .key1 ∨ key = .key2) {call : Call UInt32}
    (hends : c.GuardEnds call) (hok : Leaves deadline lastMs call)
    (hsame : call.releases = false → Guarded key deadline lastMs c)
    (hup : ∀ input nowMs, call = .handleEvent input .released nowMs →
      c.downMask &&& ~~~platformKeyMask input = 0) :
    Becomes key c call (Guarded key deadline lastMs) := by
  obtain ⟨harm, hearly, hquiet, hguard⟩ := hok
  have hseen : c.seenMask ≠ 0 := by
    rw [h.chosen]
    rcases hkey with rfl | rfl <;> decide
  apply h.toChoosing.step_of hkey harm hearly
  · rw [hquiet]
    intro other hother
    cases hother
  · exact fun _ => hsame
  · intro hpresses
    rw [hquiet] at hpresses
    cases hpresses
  · intro input nowMs hcall hinput helapsed
    subst hcall
    have hdown := hup input nowMs rfl
    exact h.guard hkey hinput hdown (hends ⟨h.active, helapsed, hinput, rfl, hseen, hdown⟩)
      (hguard (by simpa [Call.releases] using hinput))

theorem Guarded.leaves (h : Guarded key deadline lastMs c) (hkey : key = .key1 ∨ key = .key2)
    {call : Call UInt32}
    (hends : c.GuardEnds call) (hok : Leaves deadline lastMs call) :
    Becomes key c call (Guarded key deadline lastMs) := by
  apply h.toSeen.release hkey hends hok
  · exact fun _ => h
  · intro input nowMs _
    rw [h.up]
    exact UInt8.zero_and

/-- After the guard time any call makes the selection. -/
theorem Guarded.last {call : Call UInt32} (h : Guarded key deadline call.nowMs c)
    (hkey : key = .key1 ∨ key = .key2)
    (harm : call.isArm = false) (hearly : deadlineReached call.nowMs deadline = false) :
    Becomes key c call fun _ => False := by
  have helapsed : ∃ outcome, c.elapsed call.nowMs = some outcome := by
    unfold PlatformSelectionController.elapsed
    rw [h.timeout, if_neg (by simp [hearly]), if_pos ⟨h.guard, h.ends⟩]
    exact ⟨_, rfl⟩
  obtain ⟨outcome, helapsed⟩ := helapsed
  obtain ⟨houtcome, hclosed⟩ := step_elapsed h.active harm helapsed
  rw [h.toChoosing.elapsed hkey hearly helapsed] at houtcome
  exact .inl ⟨houtcome, hclosed⟩

theorem choosing_arm (c : PlatformSelectionController) (key : InputId) (nowMs timeoutMs : UInt32) :
    Choosing key (nowMs + timeoutMs) (c.arm nowMs timeoutMs) :=
  ⟨rfl, rfl, .inl rfl, .inl rfl, fun hne => absurd rfl hne⟩

/-- The phases of a selection: the key is pressed, released for the last time, and left alone for
the guard time. -/
theorem Choosing.run (h : Choosing key deadline c) (hkey : key = .key1 ∨ key = .key2)
    {pressedMs releasedMs : UInt32}
    {before during afterwards : List (Call UInt32)} {last : Call UInt32}
    (hbefore : ∀ call ∈ before, OnlyPresses key deadline call)
    (hpress : OnlyPresses key deadline (.handleEvent key .pressed pressedMs))
    (hduring : ∀ call ∈ during, OnlyPresses key deadline call)
    (hrelease : Leaves deadline last.nowMs (.handleEvent key .released releasedMs))
    (hafter : ∀ call ∈ afterwards, Leaves deadline last.nowMs call)
    (hlast : last.isArm = false) (hearly : deadlineReached last.nowMs deadline = false)
    (hends : Throughout PlatformSelectionController.step GuardEnds c
      (before ++ ([.handleEvent key .pressed pressedMs] ++
      (during ++ ([.handleEvent key .released releasedMs] ++ (afterwards ++ [last])))))) :
    BecomesAfter key c (before ++ ([.handleEvent key .pressed pressedMs] ++
      (during ++ ([.handleEvent key .released releasedMs] ++ (afterwards ++ [last]))))) fun _ => False := by
  have hmask : platformKeyMask key ≠ 0 := by rcases hkey with rfl | rfl <;> decide
  have hnoArm : ∀ call ∈ afterwards ++ [last], call.isArm = false := by
    intro call hcall
    rcases List.mem_append.mp hcall with hmem | hmem
    · exact (hafter call hmem).1
    · rw [List.mem_singleton.mp hmem]
      exact hlast
  have hnoArm' :
    ∀ call ∈ [Call.handleEvent key .released releasedMs] ++ (afterwards ++ [last]), call.isArm = false := by
    rw [List.singleton_append, List.forall_mem_cons]
    exact ⟨rfl, hnoArm⟩
  have hnoArm'' :
    ∀ call ∈ during ++ ([Call.handleEvent key .released releasedMs] ++ (afterwards ++ [last])),
      call.isArm = false := by
    intro call hcall
    rcases List.mem_append.mp hcall with hmem | hmem
    · exact (hduring call hmem).1
    · exact hnoArm' call hmem
  obtain ⟨hends, hrest⟩ := (throughout_append _ _ _).mp hends
  refine (becomesAfter_run hkey (fun _ hok => hok.1) (fun _ _ hP _ hok =>
    hP.onlyPresses hkey hok) before h hbefore
    hends).append (by rw [List.singleton_append, List.forall_mem_cons]; exact ⟨rfl, hnoArm''⟩)
      fun hchoosing => ?_
  obtain ⟨-, hrest⟩ := (throughout_append _ _ _).mp hrest
  have hseen :
    Becomes key (after PlatformSelectionController.step c before) (.handleEvent key .pressed pressedMs)
      (Seen key deadline) := by
    apply hchoosing.step_of hkey hpress.1 hpress.2.1 hpress.2.2
    · intro hquiet
      cases hquiet
    · exact fun _ _ hseen => hseen
    · intro input nowMs hcall
      cases hcall
  refine (hseen.single hkey).append hnoArm'' fun hseen => ?_
  obtain ⟨hends, hrest⟩ := (throughout_append _ _ _).mp hrest
  refine (becomesAfter_run hkey (fun _ hok => hok.1) (fun _ _ hP _ hok =>
    hP.onlyPresses hkey hok) during hseen hduring
    hends).append hnoArm' fun hseen => ?_
  obtain ⟨hends, hrest⟩ := (throughout_append _ _ _).mp hrest
  have hguarded :=
    hseen.release hkey hends.1 hrelease (fun hreleases => by simp [Call.releases, hmask] at hreleases) (by
    intro input nowMs hcall
    cases hcall
    rcases hseen.down with hzero | hone
    · rw [hzero]
      exact UInt8.zero_and
    · rw [hone]
      rcases hkey with rfl | rfl <;> decide)
  refine (hguarded.single hkey).append hnoArm fun hguarded => ?_
  obtain ⟨hends, -⟩ := (throughout_append _ _ _).mp hrest
  refine (becomesAfter_run hkey (fun _ hok => hok.1) (fun _ _ hP hguard hok =>
    hP.leaves hkey hguard hok) afterwards
    hguarded hafter hends).append (by simpa using hlast) fun hguarded => ?_
  exact (hguarded.last hkey hlast hearly).single hkey

/-- The calls in front of a last one, for a key that was pressed, released, and not pressed again. -/
def keyRun (key : InputId) (before during afterwards : List (Call Nat)) (pressed released : Nat) :
    List (Call Nat) :=
  before ++ .handleEvent key .pressed pressed ::
    (during ++ .handleEvent key .released released :: afterwards)

/-- One key was pressed and released and stayed up for the guard time before the last call, which
comes before the timeout of the arm at `start`. -/
structure StaysUp (key : InputId) (start : Nat) (timeoutMs : UInt32)
    (before during afterwards : List (Call Nat))
    (pressed released : Nat) (last : Call Nat) : Prop where
  platform : key = .key1 ∨ key = .key2
  ordered : ∀ call ∈ keyRun key before during afterwards pressed released, start ≤ call.nowMs ∧
    call.nowMs ≤ last.nowMs
  noArm : (∀ call ∈ keyRun key before during afterwards pressed released, call.isArm = false) ∧
    last.isArm = false
  only : ∀ call ∈ before ++ during, ∀ other ∈ call.presses, other = key
  still : ∀ call ∈ afterwards, call.presses = none
  up : released + 100 ≤ last.nowMs ∧ ∀ call ∈ afterwards, call.releases = true →
    call.nowMs + 100 ≤ last.nowMs
  early : last.nowMs < start + timeoutMs.toNat
  short : timeoutMs.toNat < 2147483648

/-- A call with the time as the counter shows it. -/
def stamp (call : Call Nat) : Call UInt32 := call.mapTime UInt32.ofNat

@[simp] theorem nowMs_stamp (call : Call Nat) : (stamp call).nowMs = UInt32.ofNat call.nowMs := by
  cases call <;> rfl

@[simp] theorem isArm_stamp (call : Call Nat) : (stamp call).isArm = call.isArm := by
  cases call <;> rfl

@[simp] theorem presses_stamp (call : Call Nat) : (stamp call).presses = call.presses := by
  cases call with
  | arm => rfl
  | update => rfl
  | handleEvent input phase nowMs => cases phase <;> rfl

@[simp] theorem releases_stamp (call : Call Nat) : (stamp call).releases = call.releases := by
  cases call with
  | arm => rfl
  | update => rfl
  | handleEvent input phase nowMs => cases phase <;> rfl

theorem toInt32_nonneg (x : UInt32) : x.toInt32 ≥ 0 ↔ x.toNat < 2147483648 := by
  rw [ge_iff_le, Int32.le_iff_toInt_le]
  show 0 ≤ x.toBitVec.toInt ↔ _
  rw [BitVec.toInt_eq_toNat_cond]
  have hlt := x.toNat_lt
  simp
  omega

/-- Times less than half the range apart compare as they should. -/
theorem deadlineReached_ofNat {nowMs deadlineMs : Nat} (hlow : nowMs < deadlineMs + 2147483648)
    (hhigh : deadlineMs < nowMs + 2147483648) :
    deadlineReached (UInt32.ofNat nowMs) (UInt32.ofNat deadlineMs) = decide (deadlineMs ≤ nowMs) := by
  rw [deadlineReached, Bool.eq_iff_iff, decide_eq_true_eq,
    decide_eq_true_eq, toInt32_nonneg, UInt32.toNat_sub,
    UInt32.toNat_ofNat', UInt32.toNat_ofNat']
  omega

theorem ofNat_add_deadline (start : Nat) (timeoutMs : UInt32) :
    UInt32.ofNat start + timeoutMs = UInt32.ofNat (start + timeoutMs.toNat) := by
  rw [UInt32.ofNat_add, UInt32.ofNat_toNat]

/-- **The key is chosen.** -/
theorem StaysUp.chosen {start : Nat} {timeoutMs : UInt32} {before during afterwards : List (Call Nat)}
    {pressed released : Nat} {last : Call Nat}
    (h : StaysUp key start timeoutMs before during afterwards pressed released last)
    (c : PlatformSelectionController)
    (hends : Throughout PlatformSelectionController.step GuardEnds c
      (.arm (UInt32.ofNat start) timeoutMs ::
        (keyRun key before during afterwards pressed released ++ [last]).map stamp)) :
    outcomes c (.arm (UInt32.ofNat start) timeoutMs ::
      (keyRun key before during afterwards pressed released ++ [last]).map stamp) = [selection key] := by
  have hkey := h.platform
  -- no call of the run comes at the timeout
  have hearly : ∀ nowMs, start ≤ nowMs → nowMs ≤ last.nowMs →
      deadlineReached (UInt32.ofNat nowMs) (UInt32.ofNat start + timeoutMs) = false := by
    intro nowMs hlow hhigh
    have hlate := h.early
    have hshort := h.short
    rw [ofNat_add_deadline, deadlineReached_ofNat (by omega) (by omega), decide_eq_false_iff_not]
    omega
  -- the guard of a release 100 ms before the last call is over then
  have hover : ∀ nowMs, start ≤ nowMs → nowMs + 100 ≤ last.nowMs →
      deadlineReached (UInt32.ofNat last.nowMs)
        (UInt32.ofNat nowMs + kPlatformSelectionChordGuardMs) = true := by
    intro nowMs hlow hhigh
    have hlate := h.early
    have hshort := h.short
    rw [ofNat_add_deadline, show kPlatformSelectionChordGuardMs.toNat = 100 from rfl,
      deadlineReached_ofNat (by omega) (by omega), decide_eq_true_eq]
    exact hhigh
  have hordered := h.ordered
  have hnoArm := h.noArm.1
  simp only [keyRun, List.mem_append, List.mem_cons] at hordered hnoArm
  have honly :
    ∀ call ∈ before ++ during, OnlyPresses key (UInt32.ofNat start + timeoutMs) (stamp call) := by
    intro call hcall
    have hmem : call ∈ before ∨ call ∈ during := List.mem_append.mp hcall
    obtain ⟨hlow, hhigh⟩ := hordered call (by tauto)
    refine ⟨?_, ?_, ?_⟩
    · rw [isArm_stamp]
      exact hnoArm call (by tauto)
    · rw [nowMs_stamp]
      exact hearly _ hlow hhigh
    · rw [presses_stamp]
      exact h.only call hcall
  have hleaves :
    ∀ call ∈ afterwards, Leaves (UInt32.ofNat start + timeoutMs) (UInt32.ofNat last.nowMs)
    (stamp call) := by
    intro call hcall
    obtain ⟨hlow, hhigh⟩ := hordered call (by tauto)
    refine ⟨?_, ?_, ?_, ?_⟩
    · rw [isArm_stamp]
      exact hnoArm call (by tauto)
    · rw [nowMs_stamp]
      exact hearly _ hlow hhigh
    · rw [presses_stamp]
      exact h.still call hcall
    · rw [releases_stamp, nowMs_stamp]
      exact fun hreleases => hover _ hlow (h.up.2 call hcall hreleases)
  have hlist : (keyRun key before during afterwards pressed released ++ [last]).map stamp =
      before.map stamp ++ ([.handleEvent key .pressed (UInt32.ofNat pressed)] ++ (during.map stamp ++
        ([.handleEvent key .released (UInt32.ofNat released)] ++
          (afterwards.map stamp ++ [stamp last])))) := by
    simp [keyRun, stamp, Call.mapTime]
  obtain ⟨hpressedLow, hpressedHigh⟩ := hordered (.handleEvent key .pressed pressed) (by tauto)
  obtain ⟨hreleasedLow, hreleasedHigh⟩ := hordered (.handleEvent key .released released) (by tauto)
  have hrun := hends.2
  rw [hlist] at hrun ⊢
  have hchosen := (choosing_arm c key (UInt32.ofNat start) timeoutMs).run hkey
    (by
      intro call hcall
      obtain ⟨original, hmem, rfl⟩ := List.mem_map.mp hcall
      exact honly original (List.mem_append_left _ hmem))
    ⟨rfl, hearly _ hpressedLow hpressedHigh, by simp [Call.presses]⟩
    (by
      intro call hcall
      obtain ⟨original, hmem, rfl⟩ := List.mem_map.mp hcall
      exact honly original (List.mem_append_right _ hmem))
    ⟨rfl, hearly _ hreleasedLow hreleasedHigh, rfl, fun _ => by
      rw [nowMs_stamp]
      exact hover _ hreleasedLow h.up.1⟩
    (by
      intro call hcall
      obtain ⟨original, hmem, rfl⟩ := List.mem_map.mp hcall
      rw [nowMs_stamp]
      exact hleaves original hmem)
    (by rw [isArm_stamp]; exact h.noArm.2)
    (by rw [nowMs_stamp]; exact hearly _ (Nat.le_trans hpressedLow hpressedHigh) (Nat.le_refl _))
    hrun
  rw [outcomes_cons]
  rcases hchosen with ⟨hchosen, -⟩ | ⟨-, hfalse⟩
  · exact hchosen
  · exact absurd hfalse id

theorem shifted_new (offset : UInt32) : Shifted offset {} {} := by
  refine ⟨rfl, rfl, rfl, rfl, ?_, ?_, ?_⟩ <;> intro hactive <;> cases hactive

/-- An arm ends once: at most one of its calls returns an outcome, and one does if a call comes at
its timeout or later. -/
theorem length_outcomes_arm (c : PlatformSelectionController) (start : Nat) (timeoutMs : UInt32)
    {calls : List (Call Nat)}
    (harm : ∀ call ∈ calls, call.isArm = false) :
    (outcomes c (.arm (UInt32.ofNat start) timeoutMs :: calls.map stamp)).length ≤ 1 ∧
      ((∃ call ∈ calls, start + timeoutMs.toNat ≤ call.nowMs ∧ call.nowMs < start + 2147483648) →
        (outcomes c (.arm (UInt32.ofNat start) timeoutMs :: calls.map stamp)).length = 1) := by
  have harm' : ∀ call ∈ calls.map stamp, call.isArm = false := by
    intro call hcall
    obtain ⟨original, hmem, rfl⟩ := List.mem_map.mp hcall
    rw [isArm_stamp]
    exact harm original hmem
  have hfirst : outcomes c (.arm (UInt32.ofNat start) timeoutMs :: calls.map stamp) =
      outcomes (c.arm (UInt32.ofNat start) timeoutMs) (calls.map stamp) := by
    rw [outcomes_cons]
    rfl
  obtain ⟨hle, hlate⟩ := @length_outcomes (c.arm (UInt32.ofNat start) timeoutMs) (calls.map stamp) rfl harm'
  rw [hfirst]
  refine ⟨hle, ?_⟩
  rintro ⟨call, hmem, hreached, hspan⟩
  apply hlate
  refine ⟨stamp call, List.mem_map_of_mem hmem, ?_⟩
  rw [nowMs_stamp]
  show deadlineReached (UInt32.ofNat call.nowMs) (UInt32.ofNat start + timeoutMs) = true
  rw [ofNat_add_deadline, deadlineReached_ofNat (by omega) (by omega), decide_eq_true_eq]
  exact hreached

/-- **The absolute clock does not matter** as long as no guard ends at the time that stands for no
deadline: the run at another time returns the same, and every arm ends in one outcome, that of the
key that was pressed, released and left alone for the guard time. -/
theorem selection_independent_of_clock (c : PlatformSelectionController) (start : Nat)
    (timeoutMs : UInt32) :
    (∀ (calls : List (Call UInt32)) (offset : UInt32),
      Throughout PlatformSelectionController.step GuardEnds {} calls →
      Throughout PlatformSelectionController.step GuardEnds {} (calls.map (Call.mapTime (· + offset))) →
      answers PlatformSelectionController.step {} (calls.map (Call.mapTime (· + offset))) =
        answers PlatformSelectionController.step {} calls) ∧
    (∀ calls : List (Call Nat), (∀ call ∈ calls, call.isArm = false) →
      (outcomes c (.arm (UInt32.ofNat start) timeoutMs :: calls.map stamp)).length ≤ 1 ∧
        ((∃ call ∈ calls, start + timeoutMs.toNat ≤ call.nowMs ∧ call.nowMs < start + 2147483648) →
          (outcomes c (.arm (UInt32.ofNat start) timeoutMs :: calls.map stamp)).length = 1)) ∧
    (∀ (key : InputId) (before during afterwards : List (Call Nat))
      (pressed released : Nat) (last : Call Nat),
      StaysUp key start timeoutMs before during afterwards pressed released last →
      Throughout PlatformSelectionController.step GuardEnds c
        (.arm (UInt32.ofNat start) timeoutMs ::
          (keyRun key before during afterwards pressed released ++ [last]).map stamp) →
      outcomes c (.arm (UInt32.ofNat start) timeoutMs ::
        (keyRun key before during afterwards pressed released ++ [last]).map stamp) = [selection key]) := by
  refine ⟨fun calls offset hends hends' => ?_, fun calls harm => ?_, ?_⟩
  · exact Shifted.run calls (shifted_new offset) hends hends'
  · exact length_outcomes_arm c start timeoutMs harm
  · intro key before during afterwards pressed released last h hends
    exact h.chosen c hends

/-- The counter wraps between the release of the first key and the end of its guard. -/
theorem selection_across_wrap : outcomes {} (.arm (UInt32.ofNat 4294967000) 10000 ::
    (keyRun .key1 [] [] [] 4294967100 4294967250 ++ [Call.update 4294967360]).map stamp) = [.macOS] := by
  have hstays : StaysUp .key1 4294967000 10000 [] [] [] 4294967100 4294967250 (.update 4294967360) :=
    ⟨.inl rfl, by decide, by decide, by decide, by decide, by decide, by decide, by decide⟩
  exact (selection_independent_of_clock {} 4294967000 10000).2.2 .key1 [] []
    [] 4294967100 4294967250 _ hstays (by decide)

/-- The timestamps of a run do not decrease and span less than half the range of the counter. -/
def Spans (calls : List (Call Nat)) : Prop :=
  (calls.map Call.nowMs).Pairwise fun early late => early ≤ late ∧ late < early + 2147483648

instance (calls : List (Call Nat)) : Decidable (Spans calls) :=
  inferInstanceAs (Decidable (List.Pairwise _ _))

/-- A key released 100 ms before the counter wraps is not chosen by the first call after its guard;
one second later it is. -/
theorem selection_depends_on_clock : ¬ ∀ (calls : List (Call Nat)) (offset : UInt32), Spans calls →
    answers PlatformSelectionController.step {} ((calls.map stamp).map (Call.mapTime (· + offset))) =
      answers PlatformSelectionController.step {} (calls.map stamp) := by
  intro h
  have hrun :=
    h [.arm 4294966296 10000, .handleEvent .key1 .pressed 4294967096,
    .handleEvent .key1 .released 4294967196,
    .update 4294967296] 1000 (by decide)
  exact absurd hrun (by decide)

end PlatformSelectionController

end CodexKeyboard.Keyboard
