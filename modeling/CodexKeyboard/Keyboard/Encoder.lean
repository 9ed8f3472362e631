import CodexKeyboard.Lib.Run
import Mathlib
/-!
# The quadrature decoder of the encoder

`EncoderDecoder` (encoder.cpp:106-157) counts quarter steps around the cycle 0, 1, 3, 2 and answers
a step when it is back in state 0 with a whole turn counted. While every transition is valid nothing
is lost: four times the steps plus the accumulator is the net movement. An invalid transition clears
the accumulator but leaves the decoder armed, so what is counted from there starts in the middle of
a detent and is thrown away at the next visit of state 0 (encoder.cpp:146).

| here | there |
| --- | --- |
| `transitionDelta` | encoder.cpp:8 |
| `EncoderDecoder.reset`, `update` | encoder.cpp:106, 112 |
-/

namespace CodexKeyboard.Keyboard

open Lib

/-- `transition_delta`. -/
def transitionDelta (previous current : UInt8) : Int :=
  let transition := ((previous &&& 0x03) <<< 2) ||| (current &&& 0x03)
  if transition ∈ [0b0001, 0b0111, 0b1110, 0b1000] then 1
  else if transition ∈ [0b0010, 0b1011, 0b1101, 0b0100] then -1
  else 0

structure EncoderDecoder where
  previousState : UInt8 := 0
  accumulator : Int := 0
  armed : Bool := true
  invalidTransitionCount : UInt32 := 0
  partialResetCount : UInt32 := 0
deriving DecidableEq, Repr

namespace EncoderDecoder

def reset (d : EncoderDecoder) (state : UInt8) : EncoderDecoder :=
  { d with previousState := state &&& 0x03, accumulator := 0, armed := (state &&& 0x03) == 0 }

/-- The step `update` returns, and the decoder it leaves. -/
def update (d : EncoderDecoder) (state : UInt8) : Int × EncoderDecoder :=
  let state := state &&& 0x03
  if state = d.previousState then (0, d)
  else
    let delta := transitionDelta d.previousState state
    let d := { d with previousState := state }
    if delta = 0 then
      (0, { d with
        invalidTransitionCount := d.invalidTransitionCount + 1
        partialResetCount := if d.accumulator ≠ 0 then d.partialResetCount + 1 else d.partialResetCount
        accumulator := 0
        armed := if state = 0 then true else d.armed })
    else if d.armed = false then
      if state = 0 then (0, { d with armed := true, accumulator := 0 }) else (0, d)
    else
      let d := { d with accumulator := d.accumulator + delta }
      if state ≠ 0 then (0, d)
      else
        let completedStep := d.accumulator
        let d := { d with accumulator := 0 }
        if completedStep ≥ 4 then (1, d)
        else if completedStep ≤ -4 then (-1, d)
        else if completedStep ≠ 0 then (0, { d with partialResetCount := d.partialResetCount + 1 })
        else (0, d)

/-! ## Movement around the cycle -/

/-- Where a state stands on the cycle 0, 1, 3, 2 of the two contacts. -/
def quarter (state : UInt8) : Int :=
  if state &&& 0x03 = 0 then 0 else if state &&& 0x03 = 1 then 1 else if state &&& 0x03 = 3 then 2 else 3

/-- The quarter steps from one state to the next: one up, one down, or none that can be told. -/
def quarterSteps (previous current : UInt8) : Int :=
  if quarter current = (quarter previous + 1) % 4 then 1
  else if quarter previous = (quarter current + 1) % 4 then -1
  else 0

/-- The states of both contacts change at once. -/
def Invalid (previous current : UInt8) : Prop := quarter current = (quarter previous + 2) % 4

instance (previous current : UInt8) : Decidable (Invalid previous current) :=
  inferInstanceAs (Decidable (_ = _))

/-- The net number of quarter steps of a run of states. -/
def netQuarterSteps : UInt8 → List UInt8 → Int
  | _, [] => 0
  | previous, state :: states => quarterSteps previous state + netQuarterSteps state states

/-- No transition of the run is invalid. -/
def AllValid : UInt8 → List UInt8 → Prop
  | _, [] => True
  | previous, state :: states => ¬ Invalid previous state ∧ AllValid state states

/-! ## One state -/

/-- The step for a detent that ends with this count. -/
def fullStep (completedStep : Int) : Int :=
  if completedStep ≥ 4 then 1 else if completedStep ≤ -4 then -1 else 0

/-- What one state does to the accumulator and to `armed_`, and the step it returns. -/
inductive Moved (previous : UInt8) (accumulator : Int) (armed : Bool) (state : UInt8) :
    Int → Int → Bool → Prop
  | still (hsame : state = previous) : Moved previous accumulator armed state 0 accumulator armed
  | broken (hinvalid : Invalid previous state) :
    Moved previous accumulator armed state 0 0 (decide (state = 0) || armed)
  | unarmed (hunarmed : armed = false) (hvalid : ¬ Invalid previous state) (hstate : state ≠ 0) :
      Moved previous accumulator armed state 0 accumulator false
  | arming (hunarmed : armed = false) (hvalid : ¬ Invalid previous state) (hstate : state = 0) :
      Moved previous accumulator armed state 0 0 true
  | counted (harmed : armed = true) (hvalid : ¬ Invalid previous state) (hstate : state ≠ 0) :
      Moved previous accumulator armed state 0 (accumulator + quarterSteps previous state) true
  | closed (harmed : armed = true) (hvalid : ¬ Invalid previous state) (hstate : state = 0) :
      Moved previous accumulator armed state (fullStep (accumulator + quarterSteps previous state)) 0 true

/-- A state of the two contacts. -/
def OnCycle (state : UInt8) : Prop := state = 0 ∨ state = 1 ∨ state = 2 ∨ state = 3

instance (state : UInt8) : Decidable (OnCycle state) := inferInstanceAs (Decidable (_ ∨ _))

theorem onCycle_mask (state : UInt8) : OnCycle (state &&& 0x03) := by
  have hall : ∀ n < 256, OnCycle (UInt8.ofNat n &&& 0x03) := by decide +kernel
  have hstate := hall state.toNat state.toNat_lt
  rwa [UInt8.ofNat_toNat] at hstate

/-- `transition_delta` counts quarter steps, and finds none exactly where the transition is invalid. -/
theorem transitionDelta_spec {previous state : UInt8} (hprevious : OnCycle previous)
    (hstate : OnCycle state)
    (hne : state ≠ previous) :
    transitionDelta previous state = quarterSteps previous state ∧
      (transitionDelta previous state = 0 ↔ Invalid previous state) := by
  rcases hprevious with rfl | rfl | rfl | rfl <;> rcases hstate with rfl | rfl | rfl | rfl <;>
    first | exact absurd rfl hne | decide

/-- One call of `update`. -/
theorem update_moved {d : EncoderDecoder} (hd : OnCycle d.previousState) (state : UInt8) :
    Moved d.previousState d.accumulator d.armed (state &&& 0x03)
      (update d state).1 (update d state).2.accumulator
      (update d state).2.armed ∧ (update d state).2.previousState = state &&& 0x03 := by
  obtain ⟨previous, accumulator, armed, invalid, resets⟩ := d
  have hstate := onCycle_mask state
  unfold update
  generalize state &&& 0x03 = state at hstate ⊢
  dsimp only at hd ⊢
  by_cases hsame : state = previous
  · rw [if_pos hsame]
    exact ⟨.still hsame, hsame.symm⟩
  rw [if_neg hsame]
  obtain ⟨hdelta, hinvalid⟩ := transitionDelta_spec hd hstate hsame
  by_cases hbroken : Invalid previous state
  · rw [if_pos (hinvalid.mpr hbroken)]
    refine ⟨?_, rfl⟩
    dsimp only
    have harmed : (if state = 0 then true else armed) = (decide (state = 0) || armed) := by
      by_cases hzero : state = 0 <;> simp [hzero]
    rw [harmed]
    exact .broken hbroken
  rw [if_neg (fun hzero => hbroken (hinvalid.mp hzero)), hdelta]
  cases armed with
  | false =>
    rw [if_pos rfl]
    by_cases hzero : state = 0
    · rw [if_pos hzero]
      exact ⟨.arming rfl hbroken hzero, rfl⟩
    · rw [if_neg hzero]
      exact ⟨.unarmed rfl hbroken hzero, rfl⟩
  | true =>
    rw [if_neg (by decide)]
    by_cases hzero : state = 0
    · rw [if_neg (not_not.mpr hzero)]
      have hclosed :
        Moved previous accumulator true state (fullStep (accumulator + quarterSteps previous state))
        0 true :=
        .closed rfl hbroken hzero
      rw [fullStep] at hclosed
      by_cases hup : accumulator + quarterSteps previous state ≥ 4
      · rw [if_pos hup] at hclosed ⊢
        exact ⟨hclosed, rfl⟩
      rw [if_neg hup] at hclosed ⊢
      by_cases hdown : accumulator + quarterSteps previous state ≤ -4
      · rw [if_pos hdown] at hclosed ⊢
        exact ⟨hclosed, rfl⟩
      rw [if_neg hdown] at hclosed ⊢
      by_cases hpart : accumulator + quarterSteps previous state ≠ 0
      · rw [if_pos hpart]
        exact ⟨hclosed, rfl⟩
      · rw [if_neg hpart]
        exact ⟨hclosed, rfl⟩
    · rw [if_pos hzero]
      exact ⟨.counted rfl hbroken hzero, rfl⟩

/-! ## What the accumulator stands for -/

/-- The decoder counts from a visit of state 0: the accumulator is the distance from there. -/
structure Counting (d : EncoderDecoder) : Prop where
  armed : d.armed = true
  distance : d.accumulator % 4 = quarter d.previousState
  lower : -3 ≤ d.accumulator
  upper : d.accumulator ≤ 3

/-- The decoder counts from the middle of a detent, or does not count, and state 0 has not come since. -/
structure Cut (d : EncoderDecoder) : Prop where
  away : d.previousState ≠ 0
  short : ∃ start, 1 ≤ start ∧ start ≤ 3 ∧ d.accumulator = quarter d.previousState - start
  idle : d.armed = false → d.accumulator = 0

/-- Where a decoder can be. -/
structure Placed (d : EncoderDecoder) : Prop where
  onCycle : OnCycle d.previousState
  counts : Counting d ∨ Cut d

/-- Quarter steps are the distance on the cycle. -/
theorem quarter_add {previous state : UInt8} (hprevious : OnCycle previous) (hstate : OnCycle state)
    (hvalid : ¬ Invalid previous state) :
    quarter state = (quarter previous + quarterSteps previous state) % 4 ∧
      -1 ≤ quarterSteps previous state ∧ quarterSteps previous state ≤ 1 := by
  rcases hprevious with rfl | rfl | rfl | rfl <;> rcases hstate with rfl | rfl | rfl | rfl <;>
    first | exact absurd (by decide) hvalid | decide

/-- Away from state 0 the distance does not go around the cycle. -/
theorem quarter_add_away {previous state : UInt8} (hprevious : OnCycle previous) (hstate : OnCycle state)
    (hvalid : ¬ Invalid previous state) (haway : previous ≠ 0) (haway' : state ≠ 0) :
    quarter state = quarter previous + quarterSteps previous state := by
  rcases hprevious with rfl | rfl | rfl | rfl <;> rcases hstate with rfl | rfl | rfl | rfl <;>
    first | exact absurd (by decide) hvalid | exact absurd rfl haway | exact absurd rfl haway' | decide

theorem quarter_eq_zero {state : UInt8} (h : OnCycle state) : quarter state = 0 ↔ state = 0 := by
  rcases h with rfl | rfl | rfl | rfl <;> decide

theorem quarter_range {state : UInt8} (h : OnCycle state) : 0 ≤ quarter state ∧ quarter state ≤ 3 := by
  rcases h with rfl | rfl | rfl | rfl <;> decide

theorem quarterSteps_self {state : UInt8} (h : OnCycle state) : quarterSteps state state = 0 := by
  rcases h with rfl | rfl | rfl | rfl <;> decide

theorem invalid_self {state : UInt8} (h : OnCycle state) : ¬ Invalid state state := by
  rcases h with rfl | rfl | rfl | rfl <;> decide

theorem fullStep_short {completedStep : Int} (hlower : -3 ≤ completedStep) (hupper : completedStep ≤ 3) :
    fullStep completedStep = 0 := by
  rw [fullStep, if_neg (by omega), if_neg (by omega)]

variable {d d' : EncoderDecoder} {state : UInt8} {step : Int}

/-- A count from a visit of state 0 goes on, and loses nothing. -/
theorem Counting.move (h : Counting d) (hd : OnCycle d.previousState) (hstate : OnCycle state)
    (hmoved : Moved d.previousState d.accumulator d.armed state step d'.accumulator d'.armed)
    (hprevious : d'.previousState = state) (hvalid : ¬ Invalid d.previousState state) :
    Counting d' ∧ 4 * step + d'.accumulator = d.accumulator + quarterSteps d.previousState state ∧
      (step ≠ 0 → state = 0) := by
  obtain ⟨harmed, hdistance, hlower, hupper⟩ := h
  obtain ⟨hquarter, hdown, hup⟩ := quarter_add hd hstate hvalid
  obtain ⟨previous, accumulator, armed, invalid, resets⟩ := d
  obtain ⟨previous', accumulator', armed', invalid', resets'⟩ := d'
  simp only at *
  subst hprevious
  cases hmoved with
  | still hsame =>
    subst hsame
    rw [quarterSteps_self hd]
    exact ⟨⟨harmed, hdistance, hlower, hupper⟩, by omega, by simp⟩
  | broken hinvalid => exact absurd hinvalid hvalid
  | unarmed hunarmed _ _ => rw [harmed] at hunarmed; cases hunarmed
  | arming hunarmed _ _ => rw [harmed] at hunarmed; cases hunarmed
  | counted _ _ haway =>
    have hne := (quarter_eq_zero hstate).not.mpr haway
    refine ⟨⟨rfl, ?_, ?_, ?_⟩, by omega, by simp⟩ <;> simp only <;> omega
  | closed _ _ hzero =>
    have hzero' := (quarter_eq_zero hstate).mpr hzero
    refine ⟨⟨rfl, by simp only; omega, by simp, by simp⟩, ?_, fun _ => hzero⟩
    rw [fullStep]
    split
    · omega
    · split <;> omega

/-- A count from the middle of a detent returns nothing, and ends at state 0. -/
theorem Cut.move (h : Cut d) (hd : OnCycle d.previousState) (hstate : OnCycle state)
    (hmoved : Moved d.previousState d.accumulator d.armed state step d'.accumulator d'.armed)
    (hprevious : d'.previousState = state) (hvalid : ¬ Invalid d.previousState state) :
    step = 0 ∧ (Counting d' ∧ state = 0 ∨ Cut d') := by
  obtain ⟨haway, ⟨start, hlow, hhigh, hshort⟩, hidle⟩ := h
  obtain ⟨hquarter, hdown, hup⟩ := quarter_add hd hstate hvalid
  have hrange := quarter_range hstate
  have hrange' := quarter_range hd
  have hne := (quarter_eq_zero hd).not.mpr haway
  obtain ⟨previous, accumulator, armed, invalid, resets⟩ := d
  obtain ⟨previous', accumulator', armed', invalid', resets'⟩ := d'
  simp only at *
  subst hprevious
  cases hmoved with
  | still hsame =>
    subst hsame
    exact ⟨rfl, .inr ⟨haway, ⟨start, hlow, hhigh, hshort⟩, hidle⟩⟩
  | broken hinvalid => exact absurd hinvalid hvalid
  | unarmed hunarmed _ hstate' =>
    have hne' := (quarter_eq_zero hstate).not.mpr hstate'
    have hnothing := hidle hunarmed
    exact ⟨rfl,
      .inr ⟨hstate', ⟨quarter previous', by omega, by omega, by simp only; omega⟩, fun _ => hnothing⟩⟩
  | arming _ _ hzero =>
    have hzero' := (quarter_eq_zero hstate).mpr hzero
    refine ⟨rfl, .inl ⟨⟨rfl, ?_, ?_, ?_⟩, hzero⟩⟩ <;> simp only <;> omega
  | counted _ _ haway' =>
    have hmove := quarter_add_away hd hstate hvalid haway haway'
    refine ⟨rfl, .inr ⟨haway', ⟨start, hlow, hhigh, ?_⟩, by simp⟩⟩
    simp only
    omega
  | closed _ _ hzero =>
    have hzero' := (quarter_eq_zero hstate).mpr hzero
    refine ⟨?_, .inl ⟨⟨rfl, ?_, ?_, ?_⟩, hzero⟩⟩
    · exact fullStep_short (by omega) (by omega)
    all_goals simp only; omega

/-- An invalid transition returns no step and clears the accumulator. -/
theorem Moved.of_invalid {previous : UInt8} {accumulator accumulator' : Int} {armed armed' : Bool}
    (hmoved : Moved previous accumulator armed state step accumulator' armed')
    (hprevious : OnCycle previous)
    (hinvalid : Invalid previous state) :
    step = 0 ∧ accumulator' = 0 ∧ armed' = (decide (state = 0) || armed) := by
  cases hmoved with
  | still hsame =>
    subst hsame
    exact absurd hinvalid (invalid_self hprevious)
  | broken _ => exact ⟨rfl, rfl, rfl⟩
  | unarmed _ hvalid _ => exact absurd hinvalid hvalid
  | arming _ hvalid _ => exact absurd hinvalid hvalid
  | counted _ hvalid _ => exact absurd hinvalid hvalid
  | closed _ hvalid _ => exact absurd hinvalid hvalid

theorem placed_invalid (hstate : OnCycle state) (hprevious : d'.previousState = state)
    (hclear : d'.accumulator = 0)
    (harmed : state = 0 → d'.armed = true) : Placed d' ∧ (state ≠ 0 → Cut d') := by
  have hrange := quarter_range hstate
  by_cases hzero : state = 0
  · have hzero' := (quarter_eq_zero hstate).mpr hzero
    refine ⟨⟨hprevious ▸ hstate, .inl ⟨harmed hzero, ?_, ?_, ?_⟩⟩, fun hne => absurd hzero hne⟩
    · rw [hclear, hprevious, hzero']
      rfl
    all_goals omega
  · have hne := (quarter_eq_zero hstate).not.mpr hzero
    have hcut : Cut d' := by
      refine ⟨hprevious ▸ hzero, ⟨quarter state, ?_, ?_, ?_⟩, fun _ => hclear⟩
      · omega
      · omega
      · rw [hclear, hprevious]
        omega
    exact ⟨⟨hprevious ▸ hstate, .inr hcut⟩, fun _ => hcut⟩

/-- One call keeps the decoder in its place. -/
theorem Placed.update (h : Placed d) (state : UInt8) : Placed (d.update state).2 := by
  obtain ⟨hmoved, hprevious⟩ := update_moved h.onCycle state
  have hstate := onCycle_mask state
  by_cases hinvalid : Invalid d.previousState (state &&& 0x03)
  · obtain ⟨-, hclear, harmed⟩ := hmoved.of_invalid h.onCycle hinvalid
    exact (placed_invalid hstate hprevious hclear fun hzero => by simp [harmed, hzero]).1
  · refine ⟨hprevious ▸ hstate, ?_⟩
    rcases h.counts with hcounting | hcut
    · exact .inl (hcounting.move h.onCycle hstate hmoved hprevious hinvalid).1
    · rcases (hcut.move h.onCycle hstate hmoved hprevious hinvalid).2 with ⟨hcounting, -⟩ | hcut'
      · exact .inl hcounting
      · exact .inr hcut'

theorem placed_reset (d : EncoderDecoder) (state : UInt8) : Placed (d.reset state) :=
  (placed_invalid (onCycle_mask state) rfl rfl fun hzero => by simp [reset, hzero]).1

/-- The decoder after a run of states from `reset`. -/
def afterReset (d : EncoderDecoder) (start : UInt8) (states : List UInt8) : EncoderDecoder :=
  after update (d.reset start) states

theorem placed_afterReset (d : EncoderDecoder) (start : UInt8) (states : List UInt8) :
    Placed (d.afterReset start states) :=
  after_induction (fun _ state h => h.update state) states (placed_reset d start)

/-! ## Runs -/

@[simp] theorem quarter_mask (state : UInt8) : quarter (state &&& 0x03) = quarter state := by
  rw [quarter, quarter, UInt8.and_assoc]
  rfl

theorem quarterSteps_mask (previous state : UInt8) :
    quarterSteps previous (state &&& 0x03) = quarterSteps previous state := by
  rw [quarterSteps, quarter_mask, quarterSteps]

theorem invalid_mask {previous state : UInt8} :
    Invalid previous (state &&& 0x03) ↔ Invalid previous state := by
  rw [Invalid, quarter_mask, Invalid]

theorem netQuarterSteps_mask (state : UInt8) (states : List UInt8) :
    netQuarterSteps (state &&& 0x03) states = netQuarterSteps state states := by
  cases states with
  | nil => rfl
  | cons next rest => rw [netQuarterSteps, netQuarterSteps, quarterSteps, quarter_mask, quarterSteps]

theorem allValid_mask {state : UInt8} {states : List UInt8} :
    AllValid (state &&& 0x03) states ↔ AllValid state states := by
  cases states with
  | nil => exact Iff.rfl
  | cons next rest => rw [AllValid, AllValid, Invalid, quarter_mask, Invalid]

/-- A run without invalid transitions keeps count. -/
theorem Counting.run : ∀ {d : EncoderDecoder} (states : List UInt8), Counting d → OnCycle d.previousState →
    AllValid d.previousState states →
    4 * (answers EncoderDecoder.update d states).sum + (after EncoderDecoder.update d states).accumulator =
      d.accumulator + netQuarterSteps d.previousState states
  | d, [], _, _, _ => by simp [answers, netQuarterSteps]
  | d, state :: states, h, hd, hvalid => by
    obtain ⟨hmoved, hprevious⟩ := update_moved hd state
    have hstate := onCycle_mask state
    obtain ⟨hcounting, hstep, -⟩ :=
      h.move hd hstate hmoved hprevious (fun hinvalid => hvalid.1 (invalid_mask.mp hinvalid))
    have hrest : AllValid (d.update state).2.previousState states := by
      rw [hprevious]
      exact allValid_mask.mpr hvalid.2
    have ih := Counting.run states hcounting (hprevious ▸ hstate) hrest
    rw [hprevious, netQuarterSteps_mask] at ih
    rw [quarterSteps_mask] at hstep
    rw [answers, List.sum_cons, after_cons, netQuarterSteps]
    omega

/-- Until state 0 comes, a cut count returns nothing. -/
theorem Cut.run : ∀ {d : EncoderDecoder} (states : List UInt8), Cut d → OnCycle d.previousState →
    (∀ state ∈ states.dropLast, state &&& 0x03 ≠ 0) →
      ∀ step ∈ answers EncoderDecoder.update d states, step = 0
  | _, [], _, _, _ => by simp [answers]
  | d, state :: states, h, hd, haway => by
    obtain ⟨hmoved, hprevious⟩ := update_moved hd state
    have hstate := onCycle_mask state
    have hfirst : (d.update state).1 = 0 ∧ (state &&& 0x03 ≠ 0 → Cut (d.update state).2) := by
      by_cases hinvalid : Invalid d.previousState (state &&& 0x03)
      · obtain ⟨hnone, hclear, harmed⟩ := hmoved.of_invalid hd hinvalid
        exact ⟨hnone, (placed_invalid hstate hprevious hclear fun hzero => by simp [harmed, hzero]).2⟩
      · obtain ⟨hnone, hcounts⟩ := h.move hd hstate hmoved hprevious hinvalid
        exact ⟨hnone, fun hne => hcounts.resolve_left fun hcounting => hne hcounting.2⟩
    intro step hstep
    rw [answers, List.mem_cons] at hstep
    rcases hstep with rfl | hstep
    · exact hfirst.1
    · cases states with
      | nil => cases hstep
      | cons next rest =>
        rw [List.dropLast_cons_cons, List.forall_mem_cons] at haway
        exact Cut.run (next :: rest) (hfirst.2 haway.1) (hprevious ▸ hstate) haway.2 step hstep

/-- In state 0 the decoder is armed, with nothing counted. -/
theorem Placed.rest (h : Placed d) (hzero : d.previousState = 0) : Counting d ∧ d.accumulator = 0 := by
  have hcounting : Counting d := h.counts.resolve_right fun hcut => hcut.away hzero
  have hdistance := hcounting.distance
  have hlower := hcounting.lower
  have hupper := hcounting.upper
  rw [hzero, show quarter 0 = 0 from rfl] at hdistance
  exact ⟨hcounting, by omega⟩

theorem Placed.short (h : Placed d) : -3 ≤ d.accumulator ∧ d.accumulator ≤ 3 := by
  rcases h.counts with hcounting | hcut
  · exact ⟨hcounting.lower, hcounting.upper⟩
  · obtain ⟨start, hlow, hhigh, hshort⟩ := hcut.short
    have hrange := quarter_range h.onCycle
    omega

theorem Moved.step_state {previous : UInt8} {accumulator accumulator' : Int} {armed armed' : Bool}
    (hmoved : Moved previous accumulator armed state step accumulator' armed') (hstep : step ≠ 0) :
    state = 0 := by
  cases hmoved with
  | closed _ _ hzero => exact hzero
  | _ => exact absurd rfl hstep

/-- **The decoder keeps its detents.** After any run from `reset`: in state 0 it is armed and from
there every run without invalid transitions is counted in full; a step comes in state 0 only; an
invalid transition returns none and drops what was counted, and when it leads away from state 0 the
decoder stays as armed as it was and nothing is returned up to the next visit of state 0, this one
included. -/
theorem update_keeps_detents (d : EncoderDecoder) (start : UInt8) (states : List UInt8) :
    ((d.afterReset start states).previousState = 0 →
      (d.afterReset start states).armed = true ∧ ∀ run, AllValid 0 run →
        4 * (answers EncoderDecoder.update (d.afterReset start states) run).sum +
          (after EncoderDecoder.update (d.afterReset start states) run).accumulator =
            netQuarterSteps 0 run) ∧
    (∀ state, ((d.afterReset start states).update state).1 ≠ 0 → state &&& 0x03 = 0) ∧
    (∀ state, Invalid (d.afterReset start states).previousState state →
      ((d.afterReset start states).update state).1 = 0 ∧
      ((d.afterReset start states).update state).2.accumulator = 0 ∧
      -3 ≤ (d.afterReset start states).accumulator ∧ (d.afterReset start states).accumulator ≤ 3 ∧
      (state &&& 0x03 ≠ 0 →
        ((d.afterReset start states).update state).2.armed = (d.afterReset start states).armed ∧
        ∀ run : List UInt8, (∀ next ∈ run.dropLast, next &&& 0x03 ≠ 0) →
          ∀ step ∈ answers EncoderDecoder.update ((d.afterReset start states).update state).2 run,
            step = 0)) := by
  have hplaced := placed_afterReset d start states
  generalize d.afterReset start states = e at hplaced ⊢
  refine ⟨?_, ?_, ?_⟩
  · intro hzero
    obtain ⟨hcounting, hnothing⟩ := hplaced.rest hzero
    refine ⟨hcounting.armed, fun run hvalid => ?_⟩
    have hrun := hcounting.run run hplaced.onCycle (hzero.symm ▸ hvalid)
    rwa [hzero, hnothing, Int.zero_add] at hrun
  · intro state hstep
    exact (update_moved hplaced.onCycle state).1.step_state hstep
  · intro state hinvalid
    obtain ⟨hmoved, hprevious⟩ := update_moved hplaced.onCycle state
    obtain ⟨hnone, hclear, harmed⟩ := hmoved.of_invalid hplaced.onCycle (invalid_mask.mpr hinvalid)
    refine ⟨hnone, hclear, hplaced.short.1, hplaced.short.2, fun haway => ⟨?_, fun run hrun => ?_⟩⟩
    · rw [harmed, decide_eq_false haway, Bool.false_or]
    · have hcut :=
        (placed_invalid (onCycle_mask state) hprevious hclear fun hzero => by simp [harmed, hzero]).2 haway
      exact hcut.run run (hprevious ▸ onCycle_mask state) hrun

/-- A detent forward, and a quarter step with an invalid transition after it. -/
theorem update_keeps_detents_forward :
    4 * (answers EncoderDecoder.update (afterReset {} 0 []) [1, 3, 2, 0]).sum +
        (after EncoderDecoder.update (afterReset {} 0 []) [1, 3, 2, 0]).accumulator =
          netQuarterSteps 0 [1, 3, 2, 0] ∧
      ((afterReset {} 0 [1, 3, 2, 0, 1]).update 2).1 = 0 ∧
      ((afterReset {} 0 [1, 3, 2, 0, 1]).update 2).2.armed = (afterReset {} 0 [1, 3, 2, 0, 1]).armed ∧
      ∀ step ∈ answers EncoderDecoder.update ((afterReset {} 0 [1, 3, 2, 0, 1]).update 2).2
        [3, 1, 0], step = 0 := by
  obtain ⟨hcount, -, -⟩ := update_keeps_detents {} 0 []
  obtain ⟨-, -, hbroken⟩ := update_keeps_detents {} 0 [1, 3, 2, 0, 1]
  have hvalid : AllValid 0 [1, 3, 2, 0] := ⟨by decide, by decide, by decide, by decide, trivial⟩
  have hinvalid : Invalid (afterReset {} 0 [1, 3, 2, 0, 1]).previousState 2 := by decide
  obtain ⟨hnone, -, -, -, haway⟩ := hbroken 2 hinvalid
  obtain ⟨harmed, hrun⟩ := haway (by decide)
  have hshort : ∀ next ∈ [(3 : UInt8), 1], next &&& 0x03 ≠ 0 :=
    List.forall_mem_cons.2 ⟨by decide, List.forall_mem_singleton.2 (by decide)⟩
  exact ⟨(hcount rfl).2 _ hvalid, hnone, harmed, hrun [3, 1, 0] hshort⟩

/-- After an invalid transition into state 3 the decoder is still armed, and the two valid quarter
steps back to state 0, with which the next run without invalid transitions begins, are neither in
the steps nor in the accumulator. -/
theorem armed_run_loses_count :
    ¬ ∀ (d : EncoderDecoder) (start : UInt8) (states : List UInt8) (state : UInt8) (run : List UInt8),
      Invalid (d.afterReset start states).previousState state →
      ((d.afterReset start states).update state).2.armed = true → AllValid state run →
      4 * (answers EncoderDecoder.update ((d.afterReset start states).update state).2 run).sum +
          (after EncoderDecoder.update ((d.afterReset start states).update state).2 run).accumulator =
        netQuarterSteps state run := by
  intro h
  have hvalid : AllValid 3 [2, 0] := ⟨by decide, by decide, trivial⟩
  exact absurd (h {} 0 [] 3 [2, 0] (by decide) (by decide) hvalid) (by decide)

end EncoderDecoder

end CodexKeyboard.Keyboard
