import CodexKeyboard.Keyboard.SlotState
import CodexKeyboard.Lib.Run
/-!
# Choosing the platform with a key

`PlatformSelectionController` (platform_selection.cpp): armed for a while, it takes a single press
of the first or second key for the platform, once the key has been up for the guard time. Times are
milliseconds in a `uint32_t` that wraps, and only differences of times are compared; but a decision
deadline of 0 stands for none (platform_selection.cpp:62, 112), and the time 100 ms after a release
can be 0.

| here | there |
| --- | --- |
| `platformKeyMask`, `deadlineReached` | platform_selection.cpp:10, 16 |
| `arm`, `handleEvent`, `update`, `finish` | platform_selection.cpp:22, 32, 103, 124 |
| `elapsed` | platform_selection.cpp:59-68 and 108-117 |
-/

namespace CodexKeyboard.Keyboard

open Lib

def kPlatformSelectionChordGuardMs : UInt32 := 100

def kKey1Mask : UInt8 := 1
def kKey2Mask : UInt8 := 2
def kConflictMask : UInt8 := kKey1Mask ||| kKey2Mask

inductive PlatformSelectionOutcome where
  | none
  | macOS
  | windows
  | conflict
  | timedOut
  | cancelled
deriving DecidableEq, Repr

structure PlatformSelectionResult where
  consumed : Bool := false
  outcome : PlatformSelectionOutcome := .none
deriving DecidableEq, Repr

/-- `platform_key_mask`. -/
def platformKeyMask : InputId → UInt8
  | .key1 => kKey1Mask
  | .key2 => kKey2Mask
  | _ => 0

/-- `deadline_reached`. -/
def deadlineReached (nowMs deadlineMs : UInt32) : Bool := decide ((nowMs - deadlineMs).toInt32 ≥ 0)

structure PlatformSelectionController where
  active : Bool := false
  timeoutDeadlineMs : UInt32 := 0
  decisionDeadlineMs : UInt32 := 0
  seenMask : UInt8 := 0
  downMask : UInt8 := 0
  drainMask : UInt8 := 0
deriving DecidableEq, Repr

namespace PlatformSelectionController

def arm (c : PlatformSelectionController) (nowMs timeoutMs : UInt32) : PlatformSelectionController :=
  { c with
    active := true
    timeoutDeadlineMs := nowMs + timeoutMs
    decisionDeadlineMs := 0
    seenMask := 0
    downMask := 0
    drainMask := 0 }

def finish (c : PlatformSelectionController) (outcome : PlatformSelectionOutcome) (consumed : Bool) :
    PlatformSelectionResult × PlatformSelectionController :=
  ({ consumed, outcome },
    { active := false
      timeoutDeadlineMs := 0
      decisionDeadlineMs := 0
      seenMask := 0
      downMask := 0
      drainMask := c.drainMask ||| c.downMask })

/-- What the time alone decides. -/
def elapsed (c : PlatformSelectionController) (nowMs : UInt32) : Option PlatformSelectionOutcome :=
  if deadlineReached nowMs c.timeoutDeadlineMs then some .timedOut
  else if c.decisionDeadlineMs ≠ 0 ∧ deadlineReached nowMs c.decisionDeadlineMs then
    some (if c.seenMask = kKey2Mask then .windows else .macOS)
  else none

/-- The release of a drained key is not passed on. -/
def drain (c : PlatformSelectionController) (keyMask : UInt8) (phase : InputPhase) :
    PlatformSelectionController :=
  if phase = .released then { c with drainMask := c.drainMask &&& ~~~keyMask } else c

def handleEvent (c : PlatformSelectionController) (input : InputId) (phase : InputPhase) (nowMs : UInt32) :
    PlatformSelectionResult × PlatformSelectionController :=
  let keyMask := platformKeyMask input
  if c.active = false then
    if keyMask ≠ 0 ∧ c.drainMask &&& keyMask ≠ 0 then ({ consumed := true }, c.drain keyMask phase)
      else ({}, c)
  else
    match c.elapsed nowMs with
    | some outcome =>
      let (elapsedResult, c) := c.finish outcome false
      if keyMask ≠ 0 ∧ c.drainMask &&& keyMask ≠ 0 then
        ({ elapsedResult with consumed := true }, c.drain keyMask phase)
      else (elapsedResult, c)
    | none =>
      if keyMask = 0 then
        if phase = .pressed then c.finish .cancelled false else ({}, c)
      else if phase = .pressed then
        let c :=
          { c with seenMask := c.seenMask ||| keyMask, downMask := c.downMask ||| keyMask, decisionDeadlineMs := 0 }
        if c.seenMask = kConflictMask then c.finish .conflict true else ({ consumed := true }, c)
      else
        let c := { c with downMask := c.downMask &&& ~~~keyMask }
        ({ consumed := true }, if c.seenMask ≠ 0 ∧ c.downMask = 0 then
          { c with decisionDeadlineMs := nowMs + kPlatformSelectionChordGuardMs } else c)

def update (c : PlatformSelectionController) (nowMs : UInt32) :
    PlatformSelectionResult × PlatformSelectionController :=
  if c.active = false then ({}, c)
  else
    match c.elapsed nowMs with
    | some outcome => c.finish outcome false
    | none => ({}, c)

/-! ## Runs -/

/-- A call, at a time. -/
inductive Call (τ : Type) where
  | arm (nowMs : τ) (timeoutMs : UInt32)
  | handleEvent (input : InputId) (phase : InputPhase) (nowMs : τ)
  | update (nowMs : τ)
deriving DecidableEq, Repr

namespace Call

def nowMs {τ : Type} : Call τ → τ
  | .arm nowMs _ | .handleEvent _ _ nowMs | .update nowMs => nowMs

def isArm {τ : Type} : Call τ → Bool
  | .arm _ _ => true
  | _ => false

/-- A key is pressed. -/
def presses {τ : Type} : Call τ → Option InputId
  | .handleEvent input .pressed _ => some input
  | _ => none

/-- One of the two keys is released. -/
def releases {τ : Type} : Call τ → Bool
  | .handleEvent input .released _ => platformKeyMask input ≠ 0
  | _ => false

/-- The same call at another time. -/
def mapTime {τ σ : Type} (f : τ → σ) : Call τ → Call σ
  | .arm nowMs timeoutMs => .arm (f nowMs) timeoutMs
  | .handleEvent input phase nowMs => .handleEvent input phase (f nowMs)
  | .update nowMs => .update (f nowMs)

end Call

/-- A call and what it returns; `arm` returns nothing. -/
def step (c : PlatformSelectionController) :
    Call UInt32 → PlatformSelectionResult × PlatformSelectionController
  | .arm nowMs timeoutMs => ({}, c.arm nowMs timeoutMs)
  | .handleEvent input phase nowMs => c.handleEvent input phase nowMs
  | .update nowMs => c.update nowMs

/-- The call is the release of the last key that was down, so that the guard starts. -/
def StartsGuard (c : PlatformSelectionController) : Call UInt32 → Prop
  | .handleEvent input phase nowMs =>
    c.active = true ∧ c.elapsed nowMs = none ∧ platformKeyMask input ≠ 0 ∧ phase = .released ∧
    c.seenMask ≠ 0 ∧
      c.downMask &&& ~~~platformKeyMask input = 0
  | _ => False

instance decidableStartsGuard (c : PlatformSelectionController) : ∀ call, Decidable (c.StartsGuard call)
  | .handleEvent _ _ _ => inferInstanceAs (Decidable (_ ∧ _))
  | .arm _ _ => isFalse id
  | .update _ => isFalse id

/-- Where the guard starts, its end is not at the time 0 that stands for no deadline. -/
def GuardEnds (c : PlatformSelectionController) (call : Call UInt32) : Prop :=
  c.StartsGuard call → call.nowMs + kPlatformSelectionChordGuardMs ≠ 0

instance (c : PlatformSelectionController) (call : Call UInt32) : Decidable (c.GuardEnds call) :=
  inferInstanceAs (Decidable (_ → _))

/-! ## The same run at another time -/

theorem deadlineReached_add (nowMs deadlineMs offset : UInt32) :
    deadlineReached (nowMs + offset) (deadlineMs + offset) = deadlineReached nowMs deadlineMs := by
  have hdifference : (nowMs + offset) - (deadlineMs + offset) = nowMs - deadlineMs := by grind
  rw [deadlineReached, hdifference, deadlineReached]

/-- Two controllers in the same state but for the time. -/
structure Shifted (offset : UInt32) (c c' : PlatformSelectionController) : Prop where
  active : c'.active = c.active
  seenMask : c'.seenMask = c.seenMask
  downMask : c'.downMask = c.downMask
  drainMask : c'.drainMask = c.drainMask
  timeout : c.active = true → c'.timeoutDeadlineMs = c.timeoutDeadlineMs + offset
  marker : c.active = true → (c'.decisionDeadlineMs = 0 ↔ c.decisionDeadlineMs = 0)
  decision : c.active = true → c.decisionDeadlineMs ≠ 0 →
    c'.decisionDeadlineMs = c.decisionDeadlineMs + offset

variable {offset : UInt32} {c c' : PlatformSelectionController}

theorem Shifted.elapsed (h : Shifted offset c c') (hactive : c.active = true) (nowMs : UInt32) :
    c'.elapsed (nowMs + offset) = c.elapsed nowMs := by
  unfold PlatformSelectionController.elapsed
  rw [h.timeout hactive, h.seenMask, deadlineReached_add]
  by_cases hnone : c.decisionDeadlineMs = 0
  · have hnone' := (h.marker hactive).mpr hnone
    simp only [hnone, hnone', ne_eq, not_true_eq_false, false_and]
  · have hnone' := (h.marker hactive).not.mpr hnone
    have hreached := deadlineReached_add nowMs c.decisionDeadlineMs offset
    rw [← h.decision hactive hnone] at hreached
    simp only [ne_eq, hnone, hnone', hreached]

theorem Shifted.finish (h : Shifted offset c c') (outcome : PlatformSelectionOutcome) (consumed : Bool) :
    (c'.finish outcome consumed).1 = (c.finish outcome consumed).1 ∧
      Shifted offset (c.finish outcome consumed).2 (c'.finish outcome consumed).2 := by
  refine ⟨rfl, ⟨rfl, rfl, rfl, ?_, ?_, ?_, ?_⟩⟩
  · simp only [PlatformSelectionController.finish, h.drainMask, h.downMask]
  all_goals intro hactive; cases hactive

theorem Shifted.drain (h : Shifted offset c c') (hinactive : c.active = false) (keyMask : UInt8)
    (phase : InputPhase) :
    Shifted offset (c.drain keyMask phase) (c'.drain keyMask phase) := by
  have hclosed : ∀ {p : Prop}, c.active = true → p := by
    intro p hactive
    rw [hinactive] at hactive
    cases hactive
  unfold PlatformSelectionController.drain
  by_cases hreleased : phase = .released
  · rw [if_pos hreleased, if_pos hreleased]
    exact ⟨h.active, h.seenMask, h.downMask, by simp only [h.drainMask], hclosed, hclosed, hclosed⟩
  · rw [if_neg hreleased, if_neg hreleased]
    exact h

theorem shifted_arm (c c' : PlatformSelectionController) (nowMs timeoutMs offset : UInt32) :
    Shifted offset (c.arm nowMs timeoutMs) (c'.arm (nowMs + offset) timeoutMs) := by
  refine ⟨rfl, rfl, rfl, rfl, fun _ => ?_, fun _ => Iff.rfl, fun _ hne => absurd rfl hne⟩
  simp only [PlatformSelectionController.arm]
  grind

theorem Shifted.update (h : Shifted offset c c') (nowMs : UInt32) :
    (c'.update (nowMs + offset)).1 = (c.update nowMs).1 ∧
      Shifted offset (c.update nowMs).2 (c'.update (nowMs + offset)).2 := by
  unfold PlatformSelectionController.update
  rw [h.active]
  by_cases hactive : c.active = false
  · rw [if_pos hactive, if_pos hactive]
    exact ⟨rfl, h⟩
  rw [if_neg hactive, if_neg hactive, h.elapsed (eq_true_of_ne_false hactive)]
  cases c.elapsed nowMs with
  | none => exact ⟨rfl, h⟩
  | some outcome => exact h.finish outcome false

theorem Shifted.handleEvent (h : Shifted offset c c') (input : InputId) (phase : InputPhase)
    (nowMs : UInt32)
    (hends : c.GuardEnds (.handleEvent input phase nowMs))
    (hends' : c'.GuardEnds (.handleEvent input phase (nowMs + offset))) :
    (c'.handleEvent input phase (nowMs + offset)).1 = (c.handleEvent input phase nowMs).1 ∧
      Shifted offset (c.handleEvent input phase nowMs).2
        (c'.handleEvent input phase (nowMs + offset)).2 := by
  unfold GuardEnds StartsGuard at hends hends'
  unfold PlatformSelectionController.handleEvent
  dsimp only at hends hends' ⊢
  generalize platformKeyMask input = keyMask at *
  by_cases hactive : c.active = false
  · rw [if_pos hactive, if_pos (h.active.trans hactive), h.drainMask]
    by_cases hdrained : keyMask ≠ 0 ∧ c.drainMask &&& keyMask ≠ 0
    · rw [if_pos hdrained, if_pos hdrained]
      exact ⟨rfl, h.drain hactive keyMask phase⟩
    · rw [if_neg hdrained, if_neg hdrained]
      exact ⟨rfl, h⟩
  have hopen := eq_true_of_ne_false hactive
  have hopen' := h.active.trans hopen
  rw [if_neg hactive, if_neg (h.active.symm ▸ hactive), h.elapsed hopen]
  rw [h.elapsed hopen] at hends'
  cases helapsed : c.elapsed nowMs with
  | some outcome =>
    obtain ⟨hresult, hfinish⟩ := h.finish outcome false
    dsimp only
    rw [hfinish.drainMask]
    by_cases hdrained : keyMask ≠ 0 ∧ (c.finish outcome false).2.drainMask &&& keyMask ≠ 0
    · rw [if_pos hdrained, if_pos hdrained]
      exact ⟨rfl, hfinish.drain rfl keyMask phase⟩
    · rw [if_neg hdrained, if_neg hdrained]
      exact ⟨rfl, hfinish⟩
  | none =>
    dsimp only
    by_cases hother : keyMask = 0
    · rw [if_pos hother, if_pos hother]
      by_cases hpressed : phase = .pressed
      · rw [if_pos hpressed, if_pos hpressed]
        exact h.finish .cancelled false
      · rw [if_neg hpressed, if_neg hpressed]
        exact ⟨rfl, h⟩
    rw [if_neg hother, if_neg hother]
    by_cases hpressed : phase = .pressed
    · rw [if_pos hpressed, if_pos hpressed, h.seenMask, h.downMask]
      have hseen : Shifted offset
          { c with seenMask := c.seenMask ||| keyMask, downMask := c.downMask ||| keyMask, decisionDeadlineMs := 0 }
          { c' with
            seenMask := c.seenMask ||| keyMask, downMask := c.downMask ||| keyMask,
            decisionDeadlineMs := 0 } :=
        ⟨h.active, rfl, rfl, h.drainMask, h.timeout, fun _ => Iff.rfl, fun _ hne => absurd rfl hne⟩
      by_cases hconflict : c.seenMask ||| keyMask = kConflictMask
      · rw [if_pos hconflict, if_pos hconflict]
        exact hseen.finish .conflict true
      · rw [if_neg hconflict, if_neg hconflict]
        exact ⟨rfl, hseen⟩
    · rw [if_neg hpressed, if_neg hpressed, h.seenMask, h.downMask]
      have hreleased : phase = .released := by
        cases phase with
        | pressed => exact absurd rfl hpressed
        | released => rfl
      refine ⟨rfl, ?_⟩
      by_cases hup : c.seenMask ≠ 0 ∧ c.downMask &&& ~~~keyMask = 0
      · rw [if_pos hup, if_pos hup]
        have hguard := hends ⟨hopen, helapsed, hother, hreleased, hup⟩
        have hguard' :=
          hends' ⟨hopen', helapsed, hother, hreleased, h.seenMask.symm ▸ hup.1, h.downMask.symm ▸ hup.2⟩
        refine ⟨h.active, rfl, rfl, h.drainMask, h.timeout,
          fun _ => iff_of_false hguard' hguard, fun _ _ => ?_⟩
        dsimp only
        grind
      · rw [if_neg hup, if_neg hup]
        exact ⟨h.active, rfl, rfl, h.drainMask, h.timeout, h.marker, h.decision⟩

/-- The same call at another time returns the same. -/
theorem Shifted.step (h : Shifted offset c c') (call : Call UInt32) (hends : c.GuardEnds call)
    (hends' : c'.GuardEnds (call.mapTime (· + offset))) :
    (PlatformSelectionController.step c' (call.mapTime (· + offset))).1 =
      (PlatformSelectionController.step c call).1 ∧
      Shifted offset (PlatformSelectionController.step c call).2
        (PlatformSelectionController.step c' (call.mapTime (· + offset))).2 := by
  cases call with
  | arm nowMs timeoutMs => exact ⟨rfl, shifted_arm c c' nowMs timeoutMs offset⟩
  | handleEvent input phase nowMs => exact h.handleEvent input phase nowMs hends hends'
  | update nowMs => exact h.update nowMs

theorem Shifted.run :
    ∀ {c c' : PlatformSelectionController} (calls : List (Call UInt32)), Shifted offset c c' →
    Throughout PlatformSelectionController.step GuardEnds c calls →
    Throughout PlatformSelectionController.step GuardEnds c' (calls.map (Call.mapTime (· + offset))) →
    answers PlatformSelectionController.step c' (calls.map (Call.mapTime (· + offset))) =
      answers PlatformSelectionController.step c calls
  | _, _, [], _, _, _ => rfl
  | c, c', call :: calls, h, hends, hends' => by
    obtain ⟨hanswer, hnext⟩ := h.step call hends.1 hends'.1
    rw [List.map_cons, answers, answers, hanswer, Shifted.run calls hnext hends.2 hends'.2]

end PlatformSelectionController

end CodexKeyboard.Keyboard
