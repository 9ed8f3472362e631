import CodexKeyboard.Keyboard.TransportRouting
/-!
# Bridged hotkeys

`BridgedHotkeyDelivery` (transport_routing.cpp:217-292): the hotkey a key stands for, wanted by the
source and accepted by the transport. A caller reads the transition that is pending, sends it, and
marks it accepted; meanwhile the source may have changed its mind. `mark_accepted` takes a
transition only if it is the one pending now, with the generation of the desired state, a 32-bit
counter that leaves out 0.

| here | there |
| --- | --- |
| `setDesired`, `pendingTransition`, `markAccepted` | transport_routing.cpp:217, 233, 256 |
| `BridgedHotkeyTransition` | transport_routing.h:126 |
-/

namespace CodexKeyboard.Keyboard

open Lib

/-- `BridgedHotkeyDelivery::State`; a string is its bytes. -/
structure HotkeyState where
  pressed : Bool := false
  hotkey : List UInt8 := []
deriving DecidableEq, Repr

structure BridgedHotkeyTransition where
  valid : Bool := false
  pressed : Bool := false
  hotkey : List UInt8 := []
  desiredGeneration : UInt32 := 0
deriving DecidableEq, Repr

structure BridgedHotkeyDelivery where
  desired : HotkeyState := {}
  accepted : HotkeyState := {}
  desiredGeneration : UInt32 := 1
deriving DecidableEq, Repr

namespace BridgedHotkeyDelivery

def setDesired (d : BridgedHotkeyDelivery) (pressed : Bool) (hotkey : List UInt8) :
    Bool × BridgedHotkeyDelivery :=
  let nextHotkey := if pressed then hotkey else []
  if d.desired.pressed = pressed ∧ d.desired.hotkey = nextHotkey then (false, d)
  else (true,
    { d with desired := ⟨pressed, nextHotkey⟩, desiredGeneration := advanceEpoch d.desiredGeneration })

def pendingTransition (d : BridgedHotkeyDelivery) : BridgedHotkeyTransition :=
  if d.accepted.pressed = true ∧ (d.desired.pressed = false ∨ d.accepted.hotkey ≠ d.desired.hotkey) then
    ⟨true, false, d.accepted.hotkey, d.desiredGeneration⟩
  else if d.accepted.pressed = false ∧ d.desired.pressed = true then
    ⟨true, true, d.desired.hotkey, d.desiredGeneration⟩
  else {}

def markAccepted (d : BridgedHotkeyDelivery) (transition : BridgedHotkeyTransition) :
    Bool × BridgedHotkeyDelivery :=
  if transition.valid = false ∨ transition.desiredGeneration ≠ d.desiredGeneration then (false, d)
  else
    let current := d.pendingTransition
    if current.valid = false ∨ current.pressed ≠ transition.pressed ∨
      current.hotkey ≠ transition.hotkey then (false, d)
    else (true,
      { d with accepted := ⟨transition.pressed, if transition.pressed then transition.hotkey else []⟩ })

inductive Call where
  | setDesired (pressed : Bool) (hotkey : List UInt8)
  | pendingTransition
  | markAccepted (transition : BridgedHotkeyTransition)
deriving DecidableEq, Repr

inductive Answer where
  | changed (changed : Bool)
  | transition (transition : BridgedHotkeyTransition)
  | accepted (accepted : Bool)
deriving DecidableEq, Repr

def step (d : BridgedHotkeyDelivery) : Call → Answer × BridgedHotkeyDelivery
  | .setDesired pressed hotkey =>
    (.changed (d.setDesired pressed hotkey).1, (d.setDesired pressed hotkey).2)
  | .pendingTransition => (.transition d.pendingTransition, d)
  | .markAccepted transition => (.accepted (d.markAccepted transition).1, (d.markAccepted transition).2)

/-- The transitions that were accepted. -/
def acceptedTransitions (shown : List (Call × Answer)) : List BridgedHotkeyTransition :=
  shown.filterMap fun
    | (.markAccepted transition, .accepted true) => some transition
    | _ => none

/-- How often the desired state changed. -/
def changes (shown : List (Call × Answer)) : Nat :=
  shown.countP fun
    | (_, .changed true) => true
    | _ => false

/-- The hotkey that is down for the host. -/
def held (d : BridgedHotkeyDelivery) : Option (List UInt8) :=
  if d.accepted.pressed then some d.accepted.hotkey else none

/-- Presses and releases in turn, each release with the hotkey of the press before it: from the
hotkey that is down at first to the one that is down at last. -/
inductive Alternates : Option (List UInt8) → List BridgedHotkeyTransition → Option (List UInt8) → Prop where
  | nil (down : Option (List UInt8)) : Alternates down [] down
  | press {transition : BridgedHotkeyTransition} {rest : List BridgedHotkeyTransition}
    {last : Option (List UInt8)}
    (hpressed : transition.pressed = true) (hrest : Alternates (some transition.hotkey) rest last) :
    Alternates none (transition :: rest) last
  | release {transition : BridgedHotkeyTransition} {rest : List BridgedHotkeyTransition}
    {last : Option (List UInt8)}
    (hreleased : transition.pressed = false) (hrest : Alternates none rest last) :
    Alternates (some transition.hotkey) (transition :: rest) last

variable {d : BridgedHotkeyDelivery} {transition : BridgedHotkeyTransition}

/-! ## One call -/

/-- The transition that is pending moves `accepted` towards `desired`. -/
inductive Pending (d : BridgedHotkeyDelivery) : BridgedHotkeyTransition → Prop where
  | release (hdown : d.accepted.pressed = true) (hchanged : d.desired.pressed = false ∨
    d.accepted.hotkey ≠ d.desired.hotkey) :
    Pending d ⟨true, false, d.accepted.hotkey, d.desiredGeneration⟩
  | press (hup : d.accepted.pressed = false) (hwanted : d.desired.pressed = true) :
    Pending d ⟨true, true, d.desired.hotkey, d.desiredGeneration⟩
  | settled (hsame : d.accepted.pressed = d.desired.pressed) (hhotkey : d.accepted.pressed = true →
    d.accepted.hotkey = d.desired.hotkey) :
    Pending d {}

theorem pending_pendingTransition (d : BridgedHotkeyDelivery) : Pending d d.pendingTransition := by
  unfold pendingTransition
  by_cases hrelease :
    d.accepted.pressed = true ∧ (d.desired.pressed = false ∨ d.accepted.hotkey ≠ d.desired.hotkey)
  · rw [if_pos hrelease]
    exact .release hrelease.1 hrelease.2
  rw [if_neg hrelease]
  by_cases hpress : d.accepted.pressed = false ∧ d.desired.pressed = true
  · rw [if_pos hpress]
    exact .press hpress.1 hpress.2
  rw [if_neg hpress]
  cases hdown : d.accepted.pressed with
  | true =>
    simp only [hdown, true_and, not_or, ne_eq, not_not, Bool.not_eq_false] at hrelease
    exact .settled (hdown.trans hrelease.1.symm) fun _ => hrelease.2
  | false =>
    simp only [hdown, true_and, Bool.not_eq_true] at hpress
    refine .settled (hdown.trans hpress.symm) fun htrue => ?_
    rw [hdown] at htrue
    cases htrue

/-- Only the transition that is pending now is accepted. -/
theorem markAccepted_iff :
    (d.markAccepted transition).1 = true ↔ transition.valid = true ∧ transition = d.pendingTransition := by
  unfold markAccepted
  by_cases hstale : transition.valid = false ∨ transition.desiredGeneration ≠ d.desiredGeneration
  · rw [if_pos hstale]
    refine iff_of_false (by simp) ?_
    rintro ⟨hvalid, rfl⟩
    rcases hstale with hinvalid | hgeneration
    · rw [hvalid] at hinvalid
      cases hinvalid
    · have hpending := pending_pendingTransition d
      generalize d.pendingTransition = current at *
      cases hpending with
      | release _ _ => exact hgeneration rfl
      | press _ _ => exact hgeneration rfl
      | settled _ _ => cases hvalid
  rw [if_neg hstale]
  rw [not_or, ne_eq, not_not] at hstale
  dsimp only
  by_cases hother : d.pendingTransition.valid = false ∨ d.pendingTransition.pressed ≠ transition.pressed ∨
      d.pendingTransition.hotkey ≠ transition.hotkey
  · rw [if_pos hother]
    refine iff_of_false (by simp) ?_
    rintro ⟨hvalid, rfl⟩
    rcases hother with hinvalid | hpressed | hhotkey
    · rw [hvalid] at hinvalid
      cases hinvalid
    · exact hpressed rfl
    · exact hhotkey rfl
  · rw [if_neg hother]
    rw [not_or, not_or, ne_eq, not_not, ne_eq, not_not] at hother
    refine iff_of_true rfl ⟨by simpa using hstale.1, ?_⟩
    have hpending := pending_pendingTransition d
    generalize d.pendingTransition = current at *
    obtain ⟨valid, pressed, hotkey, generation⟩ := transition
    simp only at hstale hother
    cases hpending with
    | release _ _ => simp_all
    | press _ _ => simp_all
    | settled _ _ => simp at hother

/-- What `mark_accepted` does. -/
theorem markAccepted_cases (d : BridgedHotkeyDelivery) (transition : BridgedHotkeyTransition) :
    (d.markAccepted transition).1 = false ∧ (d.markAccepted transition).2 = d ∨
      (d.markAccepted transition).1 = true ∧ transition.valid = true ∧ transition = d.pendingTransition ∧
        (d.markAccepted transition).2 =
          { d with
            accepted := ⟨transition.pressed, if transition.pressed then transition.hotkey else []⟩ } := by
  cases hanswer : (d.markAccepted transition).1 with
  | true =>
    obtain ⟨hvalid, hcurrent⟩ := markAccepted_iff.mp hanswer
    refine .inr ⟨rfl, hvalid, hcurrent, ?_⟩
    unfold markAccepted at hanswer ⊢
    dsimp only at hanswer ⊢
    split
    · rename_i hstale
      rw [if_pos hstale] at hanswer
      cases hanswer
    · split
      · rename_i hstale hother
        rw [if_neg hstale, if_pos hother] at hanswer
        cases hanswer
      · rfl
  | false =>
    refine .inl ⟨rfl, ?_⟩
    unfold markAccepted at hanswer ⊢
    dsimp only at hanswer ⊢
    split
    · rfl
    · split
      · rfl
      · rename_i hstale hother
        rw [if_neg hstale, if_neg hother] at hanswer
        cases hanswer

/-- What `set_desired` does. -/
theorem setDesired_cases (d : BridgedHotkeyDelivery) (pressed : Bool) (hotkey : List UInt8) :
    (d.setDesired pressed hotkey).1 = false ∧ (d.setDesired pressed hotkey).2 = d ∨
      (d.setDesired pressed hotkey).1 = true ∧ (d.setDesired pressed hotkey).2 =
        { d with
          desired := ⟨pressed, if pressed then hotkey else []⟩, desiredGeneration :=
          advanceEpoch d.desiredGeneration } := by
  unfold setDesired
  by_cases hsame : d.desired.pressed = pressed ∧ d.desired.hotkey = if pressed then hotkey else []
  · rw [if_pos hsame]
    exact .inl ⟨rfl, rfl⟩
  · rw [if_neg hsame]
    exact .inr ⟨rfl, rfl⟩

/-! ## Presses and releases in turn -/

theorem Alternates.concat {first down last : Option (List UInt8)}
    {transitions : List BridgedHotkeyTransition}
    (h : Alternates first transitions down) (hlast : Alternates down [transition] last) :
    Alternates first (transitions ++ [transition]) last := by
  induction h with
  | nil down => exact hlast
  | press hpressed _ ih => exact .press hpressed (ih hlast)
  | release hreleased _ ih => exact .release hreleased (ih hlast)

/-- An accepted transition goes from what was down to what is. -/
theorem alternates_accepted (hvalid : transition.valid = true)
    (hcurrent : transition = d.pendingTransition) :
    Alternates d.held [transition]
      ({ d with
        accepted := ⟨transition.pressed, if transition.pressed then transition.hotkey else []⟩ } :
        BridgedHotkeyDelivery).held := by
  have hpending := pending_pendingTransition d
  rw [← hcurrent] at hpending
  cases hpending with
  | release hdown _ =>
    rw [held, if_pos hdown]
    exact @Alternates.release ⟨true, false, d.accepted.hotkey, d.desiredGeneration⟩ [] none rfl (.nil none)
  | press hup _ =>
    rw [held, if_neg (by simp [hup])]
    exact .press rfl (.nil _)
  | settled _ _ => cases hvalid

theorem acceptedTransitions_concat (shown : List (Call × Answer)) (call : Call) (answer : Answer) :
    acceptedTransitions (shown ++ [(call, answer)]) = acceptedTransitions shown ++
      acceptedTransitions [(call, answer)] :=
  List.filterMap_append

/-- The accepted transitions of a run alternate. -/
theorem alternates_step {shown : List (Call × Answer)}
    (h : Alternates none (acceptedTransitions shown) d.held) (call : Call) :
    Alternates none (acceptedTransitions (shown ++ [(call, (step d call).1)])) (step d call).2.held := by
  rw [acceptedTransitions_concat]
  cases call with
  | pendingTransition =>
    rw [show acceptedTransitions [(Call.pendingTransition, (step d .pendingTransition).1)] = [] from
      rfl, List.append_nil]
    exact h
  | setDesired pressed hotkey =>
    rw [show acceptedTransitions [(Call.setDesired pressed hotkey,
      (step d (.setDesired pressed hotkey)).1)] = [] from rfl,
      List.append_nil]
    have hheld : (step d (.setDesired pressed hotkey)).2.held = d.held := by
      simp only [step]
      rcases setDesired_cases d pressed hotkey with ⟨-, hnext⟩ | ⟨-, hnext⟩ <;> rw [hnext]
      rfl
    rw [hheld]
    exact h
  | markAccepted transition =>
    simp only [step]
    rcases markAccepted_cases d transition with ⟨hanswer, hnext⟩ | ⟨hanswer, hvalid, hcurrent, hnext⟩
    · rw [hanswer, hnext,
        show acceptedTransitions [(Call.markAccepted transition, Answer.accepted false)] = [] from rfl,
        List.append_nil]
      exact h
    · rw [hanswer, hnext,
        show acceptedTransitions [(Call.markAccepted transition, Answer.accepted true)] =
          [transition] from rfl]
      exact h.concat (alternates_accepted hvalid hcurrent)

/-! ## The generation -/

theorem changes_cons (call : Call) (answer : Answer) (shown : List (Call × Answer)) :
    changes ((call, answer) :: shown) = changes shown + changes [(call, answer)] := by
  rw [changes, changes, changes, List.countP_cons, List.countP_singleton]

/-- The generation counts the changes of the desired state. -/
theorem generation_after : ∀ (calls : List Call) (d : BridgedHotkeyDelivery),
    (after step d calls).desiredGeneration = advanceEpoch^[changes (trace step d calls)] d.desiredGeneration
  | [], _ => rfl
  | call :: calls, d => by
    rw [after_cons, generation_after calls, trace, changes_cons]
    cases call with
    | pendingTransition => rfl
    | markAccepted transition =>
      simp only [step]
      rcases markAccepted_cases d transition with ⟨-, hnext⟩ | ⟨-, -, -, hnext⟩ <;> rw [hnext]
      · rfl
      · rfl
    | setDesired pressed hotkey =>
      simp only [step]
      rcases setDesired_cases d pressed hotkey with ⟨hanswer, hnext⟩ | ⟨hanswer, hnext⟩ <;>
        rw [hanswer, hnext]
      · rfl
      · exact (Function.iterate_succ_apply advanceEpoch _ _).symm

/-- A hotkey that is not down has no name, and the generation is not 0. -/
structure Tidy (d : BridgedHotkeyDelivery) : Prop where
  desired : d.desired.pressed = false → d.desired.hotkey = []
  accepted : d.accepted.pressed = false → d.accepted.hotkey = []
  generation : d.desiredGeneration ≠ 0

theorem Tidy.step (h : Tidy d) (call : Call) : Tidy (step d call).2 := by
  cases call with
  | pendingTransition => exact h
  | setDesired pressed hotkey =>
    simp only [BridgedHotkeyDelivery.step]
    rcases setDesired_cases d pressed hotkey with ⟨-, hnext⟩ | ⟨-, hnext⟩ <;> rw [hnext]
    · exact h
    · refine ⟨?_, h.accepted, advanceEpoch_ne_zero _⟩
      rintro rfl
      rfl
  | markAccepted transition =>
    simp only [BridgedHotkeyDelivery.step]
    rcases markAccepted_cases d transition with ⟨-, hnext⟩ | ⟨-, -, -, hnext⟩ <;> rw [hnext]
    · exact h
    · refine ⟨h.desired, ?_, h.generation⟩
      intro hreleased
      simp only at hreleased ⊢
      rw [hreleased]
      rfl

theorem tidy_new : Tidy {} := ⟨fun _ => rfl, fun _ => rfl, by decide⟩

theorem tidy_after (calls : List Call) : Tidy (after BridgedHotkeyDelivery.step {} calls) :=
  after_induction (fun _ call h => h.step call) calls tidy_new

theorem generation_of_valid (hvalid : d.pendingTransition.valid = true) :
    d.pendingTransition.desiredGeneration = d.desiredGeneration := by
  have hpending := pending_pendingTransition d
  generalize d.pendingTransition = current at *
  cases hpending with
  | release _ _ => rfl
  | press _ _ => rfl
  | settled _ _ => cases hvalid

/-- A transition that is accepted after the desired state changed finds the generation around once. -/
theorem changes_of_accepted (hd : d.desiredGeneration ≠ 0) (calls : List Call)
    (haccepted : ((after BridgedHotkeyDelivery.step d calls).markAccepted d.pendingTransition).1 = true) :
    changes (trace BridgedHotkeyDelivery.step d calls) % 0xFFFFFFFF = 0 := by
  obtain ⟨hvalid, hcurrent⟩ := markAccepted_iff.mp haccepted
  have hgeneration := generation_of_valid hvalid
  have hlater := generation_of_valid (hcurrent ▸ hvalid)
  rw [← hcurrent, hgeneration, generation_after] at hlater
  have hvalue := (toNat_iterate_advanceEpoch hd (changes (trace BridgedHotkeyDelivery.step d calls))).2
  have hbound := d.desiredGeneration.toNat_lt
  have hne : d.desiredGeneration.toNat ≠ 0 := fun hzero => hd (UInt32.toNat_inj.mp hzero)
  rw [← hlater] at hvalue
  omega

/-! ## Delivery -/

/-- The caller sends the pending transition and marks it accepted. -/
def deliver (d : BridgedHotkeyDelivery) : BridgedHotkeyDelivery := (d.markAccepted d.pendingTransition).2

/-- A pending transition is accepted. -/
theorem markAccepted_pending (hvalid : d.pendingTransition.valid = true) :
    (d.markAccepted d.pendingTransition).1 = true ∧ d.deliver =
      { d with accepted := ⟨d.pendingTransition.pressed,
        if d.pendingTransition.pressed then d.pendingTransition.hotkey else []⟩ } := by
  have haccepted := markAccepted_iff.mpr ⟨hvalid, rfl⟩
  refine ⟨haccepted, ?_⟩
  rcases markAccepted_cases d d.pendingTransition with ⟨hrefused, -⟩ | ⟨-, -, -, hnext⟩
  · rw [haccepted] at hrefused
    cases hrefused
  · exact hnext

/-- A press, or nothing, is pending where nothing is down: then one acceptance is enough. -/
theorem deliver_of_up (h : Tidy d) (hup : d.accepted.pressed = false) :
    d.deliver.accepted = d.desired ∧ d.deliver.desired = d.desired := by
  cases hwanted : d.desired.pressed with
  | true =>
    have hpress : d.pendingTransition = ⟨true, true, d.desired.hotkey, d.desiredGeneration⟩ := by
      rw [pendingTransition, if_neg (by simp [hup]), if_pos ⟨hup, hwanted⟩]
    have hnext := (markAccepted_pending (by rw [hpress])).2
    rw [hnext, hpress]
    refine ⟨?_, rfl⟩
    simp only [if_true]
    rw [← hwanted]
  | false =>
    have hnone : d.pendingTransition = {} := by
      rw [pendingTransition, if_neg (by simp [hup]), if_neg (by simp [hwanted])]
    have hnext : d.deliver = d := by
      rw [deliver, hnone, markAccepted, if_pos (.inl rfl)]
    rw [hnext]
    refine ⟨?_, rfl⟩
    have haccepted := h.accepted hup
    have hdesired := h.desired hwanted
    generalize d.accepted = accepted at *
    generalize d.desired = desired at *
    cases accepted
    cases desired
    simp only at *
    subst hup hwanted haccepted hdesired
    rfl

theorem pendingTransition_settled (h : d.accepted = d.desired) : d.pendingTransition = {} := by
  rw [pendingTransition, h, if_neg (by simp), if_neg (by simp)]

theorem tidy_deliver (h : Tidy d) : Tidy d.deliver := h.step (.markAccepted d.pendingTransition)

/-- Two acceptances reach the desired state. -/
theorem deliver_deliver (h : Tidy d) :
    d.deliver.deliver.accepted = d.desired ∧ d.deliver.deliver.desired = d.desired ∧
      d.deliver.deliver.pendingTransition.valid = false := by
  have hreached : d.deliver.deliver.accepted = d.desired ∧ d.deliver.deliver.desired = d.desired := by
    cases hdown : d.accepted.pressed with
    | false =>
      -- a press reaches it, and then nothing is pending
      obtain ⟨hfirst, hdesired⟩ := deliver_of_up h hdown
      have hsettled : d.deliver.deliver = d.deliver := by
        rw [deliver, pendingTransition_settled (hfirst.trans hdesired.symm),
          markAccepted, if_pos (.inl rfl)]
      rw [hsettled]
      exact ⟨hfirst, hdesired⟩
    | true =>
      by_cases hchanged : d.desired.pressed = false ∨ d.accepted.hotkey ≠ d.desired.hotkey
      · -- a release, and then whatever the release waited for
        have hrelease : d.pendingTransition = ⟨true, false, d.accepted.hotkey, d.desiredGeneration⟩ := by
          rw [pendingTransition, if_pos ⟨hdown, hchanged⟩]
        have hnext := (markAccepted_pending (by rw [hrelease])).2
        rw [hrelease] at hnext
        have htidy := tidy_deliver h
        have hsecond := deliver_of_up htidy (by rw [hnext])
        have hdesired : d.deliver.desired = d.desired := by rw [hnext]
        rw [hdesired] at hsecond
        exact hsecond
      · have hsame : d.accepted = d.desired := by
          rw [not_or, Bool.not_eq_false, ne_eq, not_not] at hchanged
          cases haccepted : d.accepted with
          | mk pressed hotkey =>
            cases hdesired : d.desired with
            | mk wanted name =>
              rw [haccepted] at hdown hchanged
              rw [hdesired] at hchanged
              exact congrArg₂ HotkeyState.mk (hdown.trans hchanged.1.symm) hchanged.2
        have hsettled : d.deliver = d := by
          rw [deliver, pendingTransition_settled hsame, markAccepted, if_pos (.inl rfl)]
        rw [hsettled, hsettled]
        exact ⟨hsame, rfl⟩
  refine ⟨hreached.1, hreached.2, ?_⟩
  rw [pendingTransition_settled (hreached.1.trans hreached.2.symm)]

/-- The accepted transitions of a run are presses and releases in turn, each release with the hotkey
of its press. Only the transition that is pending at the time is accepted: one that was read earlier
is refused, unless the desired state has not changed since or has changed a multiple of 2^32 - 1
times. Two acceptances reach the desired state. -/
theorem accepted_alternate :
    (∀ calls : List Call, Alternates none (acceptedTransitions (trace BridgedHotkeyDelivery.step {} calls))
      (after BridgedHotkeyDelivery.step {} calls).held) ∧
    (∀ (calls : List Call) (transition : BridgedHotkeyTransition),
      ((after BridgedHotkeyDelivery.step {} calls).markAccepted transition).1 = true ↔
        transition.valid = true ∧
          transition = (after BridgedHotkeyDelivery.step {} calls).pendingTransition) ∧
    (∀ before during : List Call,
      ((after BridgedHotkeyDelivery.step {} (before ++ during)).markAccepted
        (after BridgedHotkeyDelivery.step {} before).pendingTransition).1 = true →
      changes
        (trace BridgedHotkeyDelivery.step
        (after BridgedHotkeyDelivery.step {} before) during) % 0xFFFFFFFF = 0) ∧
    ∀ calls : List Call,
      (after BridgedHotkeyDelivery.step {} calls).deliver.deliver.accepted =
        (after BridgedHotkeyDelivery.step {} calls).desired ∧
        (after BridgedHotkeyDelivery.step {} calls).deliver.deliver.desired =
          (after BridgedHotkeyDelivery.step {} calls).desired ∧
        (after BridgedHotkeyDelivery.step {} calls).deliver.deliver.pendingTransition.valid = false := by
  refine ⟨fun calls => ?_, fun _ _ => markAccepted_iff, fun before during haccepted => ?_, fun calls => ?_⟩
  · have hrun := @trace_induction BridgedHotkeyDelivery Call Answer BridgedHotkeyDelivery.step
      (fun shown d => Alternates none (acceptedTransitions shown) d.held)
      (fun _ _ call h => alternates_step h call)
      [] {} calls (.nil none)
    exact hrun
  · rw [after_append] at haccepted
    exact changes_of_accepted (tidy_after before).generation during haccepted
  · exact deliver_deliver (tidy_after calls)

/-- Hotkey [1] is down, and [2] is wanted. -/
def moved : List Call := [.setDesired true [1], .markAccepted ⟨true, true, [1], 2⟩, .setDesired true [2]]

/-- The release of [1] is accepted after the same wish once more and a stale press. -/
theorem accepted_alternate_moved :
    (after BridgedHotkeyDelivery.step {} moved).pendingTransition = ⟨true, false, [1], 3⟩ ∧
      ((after BridgedHotkeyDelivery.step {}
        (moved ++ [.setDesired true [2], .markAccepted ⟨true, true, [1], 2⟩])).markAccepted
        (after BridgedHotkeyDelivery.step {} moved).pendingTransition).1 = true ∧
      changes (trace BridgedHotkeyDelivery.step (after BridgedHotkeyDelivery.step {} moved)
        [.setDesired true [2], .markAccepted ⟨true, true, [1], 2⟩]) % 0xFFFFFFFF = 0 :=
  ⟨by decide, by decide,
    accepted_alternate.2.2.1 moved [.setDesired true [2], .markAccepted ⟨true, true, [1], 2⟩] (by decide)⟩

/-! ## All the generations -/

/-- Another hotkey, none, and the first one again. -/
def aroundOnce (other hotkey : List UInt8) : List Call :=
  [.setDesired true other, .setDesired false [], .setDesired true hotkey]

def around (other hotkey : List UInt8) (n : Nat) : List Call :=
  (List.replicate n (aroundOnce other hotkey)).flatten

theorem aroundOnce_changes {other hotkey : List UInt8} (hother : hotkey ≠ other)
    (hdesired : d.desired = ⟨true, hotkey⟩) :
    changes (trace BridgedHotkeyDelivery.step d (aroundOnce other hotkey)) = 3 ∧
      after BridgedHotkeyDelivery.step d (aroundOnce other hotkey) =
        { d with desiredGeneration := advanceEpoch^[3] d.desiredGeneration } := by
  obtain ⟨desired, accepted, generation⟩ := d
  simp only at hdesired
  subst hdesired
  simp [aroundOnce, after, trace, BridgedHotkeyDelivery.step, setDesired, changes, hother]

/-- Each time around changes the desired state three times and leaves it as it was. -/
theorem around_changes {other hotkey : List UInt8} (hother : hotkey ≠ other) (n : Nat) :
    ∀ {d : BridgedHotkeyDelivery}, d.desired = ⟨true, hotkey⟩ →
      changes (trace BridgedHotkeyDelivery.step d (around other hotkey n)) = 3 * n ∧
        after BridgedHotkeyDelivery.step d (around other hotkey n) =
          { d with desiredGeneration := advanceEpoch^[3 * n] d.desiredGeneration } := by
  induction n with
  | zero => exact fun _ => ⟨rfl, rfl⟩
  | succ n ih =>
    intro d hdesired
    obtain ⟨hchanges, hafter⟩ := aroundOnce_changes hother hdesired
    have hrest := @ih { d with desiredGeneration := advanceEpoch^[3] d.desiredGeneration } hdesired
    rw [around, List.replicate_succ, List.flatten_cons, after_append, trace_append, hafter]
    rw [around] at hrest
    refine ⟨?_, ?_⟩
    · rw [changes, List.countP_append]
      rw [changes] at hrest hchanges
      rw [hchanges, hrest.1]
      omega
    · rw [hrest.2, ← Function.iterate_add_apply]
      rw [show 3 * n + 3 = 3 * (n + 1) from rfl]

/-- A press that was read before the desired state changed 2^32 - 1 times is accepted. -/
theorem stale_transition_accepted : ¬ ∀ before during : List Call,
    ((after BridgedHotkeyDelivery.step {} (before ++ during)).markAccepted
      (after BridgedHotkeyDelivery.step {} before).pendingTransition).1 = true →
    changes (trace BridgedHotkeyDelivery.step (after BridgedHotkeyDelivery.step {} before) during) = 0 := by
  intro hclaim
  have hbefore : after BridgedHotkeyDelivery.step {} [.setDesired true [1]] = ⟨⟨true, [1]⟩, {}, 2⟩ := rfl
  obtain ⟨hchanges, hafter⟩ := @around_changes [2] [1] (by decide) 1431655765 ⟨⟨true, [1]⟩, {}, 2⟩ rfl
  have hgeneration : advanceEpoch^[3 * 1431655765] (2 : UInt32) = 2 := by
    refine UInt32.toNat_inj.mp ?_
    rw [(toNat_iterate_advanceEpoch (by decide) _).2]
    rfl
  rw [hgeneration] at hafter
  have hzero := hclaim [.setDesired true [1]] (around [2] [1] 1431655765)
  rw [after_append, hbefore, hafter, hchanges] at hzero
  exact absurd (hzero rfl) (by decide)

end BridgedHotkeyDelivery

end CodexKeyboard.Keyboard
