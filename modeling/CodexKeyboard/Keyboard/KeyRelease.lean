import Mathlib.Data.List.Induction
import CodexKeyboard.Keyboard.SlotRuns
/-!
# Releasing a push-to-talk key

A release ends the capture that its key started, whatever connection it comes with, as long as it
comes with one: without a connection (`connection_generation == 0`) the slot keys are not routed and
a release is ignored (codex_slot_state.cpp:83-88). The firmware never has a capture open there. Its
keys come with the route's generation, which `reconcile_codex_route_lifetime` changes only after it
has disconnected the old one.

| here | there |
| --- | --- |
| `SlotRoute.reconcile` | `reconcile_codex_route_lifetime` (app_main.cpp:1299) |
| `SlotRoute.step`, `.key` | the slot keys of `handle_input_event` (app_main.cpp:2532) |
-/

namespace CodexKeyboard.Keyboard

open Lib

/-- The slot whose key started the last capture. -/
def startedSlot (latest : Option Nat) : DeviceAction → Option Nat
  | .pttStarted slot _ _ => some slot
  | _ => latest

def lastStarted (actions : List DeviceAction) : Option Nat := actions.foldl startedSlot none

theorem foldl_startedSlot_neutral (latest : Option Nat) {actions : List DeviceAction}
    (h : ∀ action ∈ actions, action.Neutral) : actions.foldl startedSlot latest = latest := by
  induction actions with
  | nil => rfl
  | cons action actions ih =>
    have hrest := ih fun other hmem => h other (List.mem_cons_of_mem _ hmem)
    have haction := h action List.mem_cons_self
    cases action with
    | pttStarted => exact haction.elim
    | pttEnded => exact haction.elim
    | playRequested => exact haction.elim
    | playbackPreempted => exact hrest
    | rejectedBusy => exact hrest

theorem foldl_startedSlot_quiet (latest : Option Nat) {answer : SlotAnswer} (h : answer.Quiet) :
    answer.emitted.foldl startedSlot latest = latest := by
  cases answer with
  | actions pushed => exact foldl_startedSlot_neutral latest h
  | begun result => rfl
  | framed result => rfl
  | done result => rfl

theorem foldl_startedSlot_concat (latest : Option Nat) {preempted : List DeviceAction}
    (action : DeviceAction)
    (h : ∀ other ∈ preempted, other.Neutral) :
    (preempted ++ [action]).foldl startedSlot latest = startedSlot latest action := by
  rw [List.foldl_append, foldl_startedSlot_neutral latest h]
  rfl

/-- The seed and the calls of the playback, which do not come through the route. -/
def SlotEvent.ofPlayback : SlotEvent → Bool
  | .input .. => false
  | .disconnect .. => false
  | _ => true

namespace CodexSlotState

/-! ## Whose capture is open -/

/-- The capture that is open is the one that was started last. -/
def CapturesLatest (latest : Option Nat) (s : CodexSlotState) : Prop :=
  s.captureGeneration ≠ 0 → latest = some s.captureSlot

/-- The same capture is open, or none. -/
structure SameCapture (s t : CodexSlotState) : Prop where
  generation : t.captureGeneration = s.captureGeneration
  slot : t.captureSlot = s.captureSlot
  connection : t.captureConnectionGeneration = s.captureConnectionGeneration

variable {s t u : CodexSlotState} {event : SlotEvent} {answer : SlotAnswer} {latest : Option Nat}

theorem SameCapture.refl (s : CodexSlotState) : SameCapture s s := ⟨rfl, rfl, rfl⟩

theorem SameCapture.trans (h : SameCapture s t) (h' : SameCapture t u) : SameCapture s u :=
  ⟨h'.generation.trans h.generation, h'.slot.trans h.slot, h'.connection.trans h.connection⟩

theorem SameCapture.active (h : SameCapture s t) (hactive : t.captureGeneration ≠ 0) :
    s.captureGeneration ≠ 0 := by
  rw [← h.generation]
  exact hactive

theorem sameCapture_preempt (s : CodexSlotState) : SameCapture s s.preemptPlayback.2 := by
  rcases s.preempt_cases with ⟨-, hsame⟩ | hcleared
  · rw [hsame]
    exact .refl s
  · rw [hcleared]
    exact ⟨rfl, rfl, rfl⟩

theorem sameCapture_disconnectPending (s : CodexSlotState) (connectionGeneration : Nat) :
    SameCapture s (s.disconnectPending connectionGeneration) := by
  rw [disconnectPending]
  split
  · exact ⟨rfl, rfl, rfl⟩
  · exact .refl s

theorem disconnectCapture_cases (s : CodexSlotState) (connectionGeneration : Nat) (latest : Option Nat) :
    ((s.disconnectCapture connectionGeneration).1.foldl startedSlot latest = latest) ∧
      ((s.disconnectCapture connectionGeneration).2.captureGeneration = 0 ∨
        (s.disconnectCapture connectionGeneration).2 = s ∧
          s.captureConnectionGeneration ≠ connectionGeneration) := by
  rw [disconnectCapture]
  by_cases hended :
    s.captureActive ∧ (connectionGeneration = 0 ∨ s.captureConnectionGeneration = connectionGeneration)
  · rw [if_pos hended]
    exact ⟨rfl, .inl rfl⟩
  · rw [if_neg hended]
    refine ⟨rfl, ?_⟩
    by_cases hactive : s.captureActive = true
    · exact .inr ⟨rfl, fun hmatch => hended ⟨hactive, .inr hmatch⟩⟩
    · exact .inl (captureActive_eq_false.1 (eq_false_of_ne_true hactive))

/-- What a disconnect leaves of the capture: nothing, or that of another connection. -/
theorem disconnect_capture (s : CodexSlotState) (connectionGeneration : Nat) (latest : Option Nat) :
    (s.disconnect connectionGeneration).1.foldl startedSlot latest = latest ∧
      ((s.disconnect connectionGeneration).2.captureGeneration = 0 ∨
        SameCapture s (s.disconnect connectionGeneration).2 ∧
        s.captureConnectionGeneration ≠ connectionGeneration) := by
  obtain ⟨hlatest, hcapture⟩ := s.disconnectCapture_cases connectionGeneration latest
  have hpending :=
    sameCapture_disconnectPending (s.disconnectCapture connectionGeneration).2 connectionGeneration
  have hrest : ∀ t, SameCapture (s.disconnectCapture connectionGeneration).2 t → t.captureGeneration = 0 ∨
      SameCapture s t ∧ s.captureConnectionGeneration ≠ connectionGeneration := by
    intro t hsame
    rcases hcapture with hended | ⟨hkept, hother⟩
    · exact .inl (hsame.generation.trans hended)
    · rw [hkept] at hsame
      exact .inr ⟨hsame, hother⟩
  simp only [disconnect]
  split
  · rw [List.foldl_append, hlatest, foldl_startedSlot_neutral latest (neutral_preempt _)]
    exact ⟨rfl, hrest _ (hpending.trans (sameCapture_preempt _))⟩
  · exact ⟨hlatest, hrest _ hpending⟩

theorem CapturesLatest.transition (h : CapturesLatest latest s)
    (htransition : Transition s event answer t) :
    CapturesLatest (answer.emitted.foldl startedSlot latest) t := by
  cases htransition with
  | nothing hevent hquiet =>
    rw [foldl_startedSlot_quiet latest hquiet]
    exact h
  | seeded seed hidle => exact h
  | cleared hevent hquiet =>
    rw [foldl_startedSlot_quiet latest hquiet]
    exact h
  | captureStarted input slot generation connectionGeneration preempted hidle hgeneration hpreempted =>
    intro hactive
    exact foldl_startedSlot_concat latest _ hpreempted
  | captureEnded input connectionGeneration hactive => exact fun hended => absurd rfl hended
  | playRequested input slot generation connectionGeneration preempted hidle hslot hpreempted =>
    intro hactive
    exact absurd ((sameCapture_preempt s).generation.trans hidle) hactive
  | begun begin hidle hplayback hslot hrequest => exact h
  | playing identity hphase => exact h
  | frameAccepted hphase hmore => exact h
  | transferred identity lastFrameSequence hphase hall => exact h
  | drained hphase => exact h
  | disconnected connectionGeneration =>
    obtain ⟨hlatest, hrest⟩ := s.disconnect_capture connectionGeneration latest
    rw [SlotAnswer.emitted, hlatest]
    intro hactive
    rcases hrest with hended | ⟨hsame, -⟩
    · exact absurd hended hactive
    · rw [hsame.slot]
      exact h (hsame.active hactive)

theorem capturesLatest_after (hidle : s.captureActive = false) (events : List SlotEvent) :
    CapturesLatest (lastStarted (emitted (trace step s events))) (after step s events) := by
  have hstart : CapturesLatest (lastStarted (emitted [])) s :=
    fun hactive => absurd (captureActive_eq_false.1 hidle) hactive
  refine trace_induction (I := fun seen s => CapturesLatest (lastStarted (emitted seen)) s) ?_ events hstart
  intro seen s event h
  rw [emitted_concat, lastStarted, List.foldl_append]
  exact h.transition (s.transition_step event)

/-- A release that comes with a connection ends the capture of its key. -/
theorem release_captureActive {key : InputId} {slot connectionGeneration : Nat}
    (hkey : pttSlotForInput key = some slot)
    (hlatest : CapturesLatest (some slot) s) (hconnected : connectionGeneration ≠ 0) :
    (s.handleInput key .released connectionGeneration).2.captureActive = false := by
  simp only [handleInput, hkey, if_neg hconnected, handlePtt]
  by_cases hheld : s.captureActive ∧ s.captureSlot = slot
  · rw [if_pos hheld]
    rfl
  · rw [if_neg hheld]
    by_contra hactive
    have hgeneration : s.captureGeneration ≠ 0 := fun hzero => hactive (captureActive_eq_false.2 hzero)
    have hslot := Option.some.inj (hlatest hgeneration)
    exact hheld ⟨eq_true_of_ne_false hactive, hslot.symm⟩

/-- Without a connection a release is ignored. -/
theorem release_unrouted (s : CodexSlotState) (key : InputId) :
    s.handleInput key .released 0 = ([], s) := by
  cases key <;> rfl

/-- Without a connection no key touches the capture. -/
theorem sameCapture_unrouted (s : CodexSlotState) (key : InputId) (phase : InputPhase) :
    SameCapture s (s.handleInput key phase 0).2 := by
  have hunrouted : ∀ ptt slot, SameCapture s (s.handleUnrouted ptt slot phase).2 := by
    intro ptt slot
    cases phase with
    | released => exact .refl s
    | pressed =>
      rw [handleUnrouted]
      split
      · exact sameCapture_preempt s
      · exact .refl s
  rw [handleInput]
  split
  · exact hunrouted _ _
  · split
    · exact .refl s
    · exact hunrouted _ _

/-- A key leaves the capture, ends it, or starts one of its connection. -/
theorem Transition.input_capture {key : InputId} {phase : InputPhase} {connectionGeneration : Nat}
    (h : Transition s (.input key phase connectionGeneration) answer t) :
    t.captureGeneration = 0 ∨ SameCapture s t ∨ t.captureConnectionGeneration = connectionGeneration := by
  cases h with
  | nothing hevent hquiet => exact .inr (.inl (.refl s))
  | cleared hevent hquiet => exact .inr (.inl ⟨rfl, rfl, rfl⟩)
  | captureStarted => exact .inr (.inr rfl)
  | captureEnded => exact .inl rfl
  | playRequested =>
    have hsame := sameCapture_preempt s
    exact .inr (.inl ⟨hsame.generation, hsame.slot, hsame.connection⟩)

/-- The other calls leave the capture as it is. -/
theorem Transition.call_capture (h : Transition s event answer t) (hcall : event.ofPlayback = true) :
    SameCapture s t := by
  cases h with
  | nothing hevent hquiet => exact .refl s
  | seeded seed hidle => exact ⟨rfl, rfl, rfl⟩
  | cleared hevent hquiet => exact ⟨rfl, rfl, rfl⟩
  | captureStarted => cases hcall
  | captureEnded => cases hcall
  | playRequested => cases hcall
  | begun begin hidle hplayback hslot hrequest => exact ⟨rfl, rfl, rfl⟩
  | playing identity hphase => exact ⟨rfl, rfl, rfl⟩
  | frameAccepted hphase hmore => exact ⟨rfl, rfl, rfl⟩
  | transferred identity lastFrameSequence hphase hall => exact ⟨rfl, rfl, rfl⟩
  | drained hphase => exact ⟨rfl, rfl, rfl⟩
  | disconnected connectionGeneration => cases hcall

end CodexSlotState

/-! ## The route of the slot keys -/

/-- What the route reads of the Wi-Fi service. -/
structure WifiServiceSnapshot where
  configured : Bool
  connected : Bool
  disconnectPending : Bool
  hostIpv4Valid : Bool
  generation : Nat
deriving DecidableEq, Repr

/-- `codex_slots`, `codex_route_connected` and `codex_route_generation` of `AppContext`. -/
structure SlotRoute where
  slots : CodexSlotState := {}
  connected : Bool := false
  generation : Nat := 0
deriving DecidableEq, Repr

namespace SlotRoute

def routed (snapshot : WifiServiceSnapshot) : Bool :=
  snapshot.configured && snapshot.connected && !snapshot.disconnectPending && snapshot.hostIpv4Valid
    && snapshot.generation != 0

/-- `reconcile_codex_route_lifetime`. -/
def reconcile (r : SlotRoute) (snapshot : WifiServiceSnapshot) : List DeviceAction × SlotRoute :=
  let connected := routed snapshot
  let generation := if connected then snapshot.generation else 0
  if connected = r.connected ∧ generation = r.generation then ([], r)
  else
    let disconnected := if r.generation ≠ 0 then r.slots.disconnect r.generation else ([], r.slots)
    (disconnected.1, { slots := disconnected.2, connected, generation })

end SlotRoute

inductive RouteEvent where
  | key (input : InputId) (phase : InputPhase)
  | reconcile (snapshot : WifiServiceSnapshot)
  | call (event : { event : SlotEvent // event.ofPlayback = true })
deriving DecidableEq, Repr

namespace SlotRoute

def step (r : SlotRoute) : RouteEvent → List DeviceAction × SlotRoute
  | .key input phase =>
    ((r.slots.handleInput input phase r.generation).1,
      { r with slots := (r.slots.handleInput input phase r.generation).2 })
  | .reconcile snapshot => r.reconcile snapshot
  | .call event => ((r.slots.step event.1).1.emitted, { r with slots := (r.slots.step event.1).2 })

/-- A capture is open on the connection of the route only. -/
structure Routed (latest : Option Nat) (r : SlotRoute) : Prop where
  latest : r.slots.CapturesLatest latest
  connection : r.slots.captureGeneration ≠ 0 →
    r.slots.captureConnectionGeneration = r.generation ∧ r.generation ≠ 0

variable {r : SlotRoute} {latest : Option Nat}

theorem Routed.key (h : r.Routed latest) (input : InputId) (phase : InputPhase) :
    (r.step (.key input phase)).2.Routed ((r.step (.key input phase)).1.foldl startedSlot latest) where
  latest := h.latest.transition (r.slots.transition_step (.input input phase r.generation))
  connection hactive := by
    by_cases hunrouted : r.generation = 0
    · have hsame := r.slots.sameCapture_unrouted input phase
      rw [step, hunrouted, hsame.generation] at hactive
      exact absurd hunrouted (h.connection hactive).2
    · refine ⟨?_, hunrouted⟩
      rcases (r.slots.transition_step (.input input phase r.generation)).input_capture with hended
        | hsame | hstarted
      · exact absurd hended hactive
      · exact hsame.connection.trans (h.connection (hsame.active hactive)).1
      · exact hstarted

/-- The old connection is disconnected before the route has the new one. -/
theorem Routed.reconcile (h : r.Routed latest) (snapshot : WifiServiceSnapshot) :
    (r.reconcile snapshot).2.Routed ((r.reconcile snapshot).1.foldl startedSlot latest) := by
  have hclosed : ∀ t : SlotRoute, t.slots.captureGeneration = 0 → t.Routed latest := fun t hzero =>
    ⟨fun hactive => absurd hzero hactive, fun hactive => absurd hzero hactive⟩
  simp only [SlotRoute.reconcile]
  by_cases hsame : routed snapshot = r.connected ∧
    (if routed snapshot then snapshot.generation else 0) = r.generation
  · rw [if_pos hsame]
    exact h
  · rw [if_neg hsame]
    by_cases hunrouted : r.generation = 0
    · rw [if_neg (not_not.2 hunrouted)]
      apply hclosed
      by_contra hactive
      exact (h.connection hactive).2 hunrouted
    · rw [if_pos hunrouted]
      obtain ⟨hlatest, hcapture⟩ := r.slots.disconnect_capture r.generation latest
      rw [hlatest]
      apply hclosed
      rcases hcapture with hended | ⟨hsame, hother⟩
      · exact hended
      · by_contra hactive
        exact hother (h.connection (hsame.active hactive)).1

theorem Routed.call (h : r.Routed latest) (event : { event : SlotEvent // event.ofPlayback = true }) :
    (r.step (.call event)).2.Routed ((r.step (.call event)).1.foldl startedSlot latest) where
  latest := h.latest.transition (r.slots.transition_step event.1)
  connection hactive := by
    have hsame := (r.slots.transition_step event.1).call_capture event.2
    obtain ⟨hconnection, hrouted⟩ := h.connection (hsame.active hactive)
    exact ⟨hsame.connection.trans hconnection, hrouted⟩

theorem routed_after (hidle : r.slots.captureActive = false) (events : List RouteEvent) :
    (after step r events).Routed (lastStarted (answers step r events).flatten) := by
  induction events using List.reverseRecOn with
  | nil =>
    have hzero := CodexSlotState.captureActive_eq_false.1 hidle
    exact ⟨fun hactive => absurd hzero hactive, fun hactive => absurd hzero hactive⟩
  | append_singleton events event ih =>
    rw [after_concat, answers_concat, List.flatten_append, List.flatten_singleton,
      lastStarted, List.foldl_append]
    cases event with
    | key input phase => exact ih.key input phase
    | reconcile snapshot => exact ih.reconcile snapshot
    | call event => exact ih.call event

/-- The counter is seeded, the route comes up, and Key 1 is pressed. -/
def heldRun : List RouteEvent :=
  [.call ⟨.seed 5, rfl⟩, .reconcile ⟨true, true, false, true, 7⟩, .key .key1 .pressed]

/-- The connection is lost while the key is held. -/
def lostRun : List RouteEvent := heldRun ++ [.reconcile ⟨true, false, false, true, 7⟩]

end SlotRoute

/-- **The microphone closes.** After any calls with any generations, the release of the key that
started the last capture leaves none open if it comes with a connection; without one it is ignored.
Under the route, which disconnects a connection before it leaves it, the release leaves no capture
open in either case. -/
theorem release_closes_microphone :
    (∀ (s : CodexSlotState) (events : List SlotEvent) (key : InputId) (slot connectionGeneration : Nat),
      s.captureActive = false → pttSlotForInput key = some slot →
      lastStarted (emitted (trace CodexSlotState.step s events)) = some slot →
      (connectionGeneration ≠ 0 → ((after CodexSlotState.step s events).handleInput key .released
        connectionGeneration).2.captureActive = false) ∧
      (after CodexSlotState.step s events).handleInput key .released 0 =
        ([], after CodexSlotState.step s events)) ∧
    ∀ (r : SlotRoute) (events : List RouteEvent) (key : InputId) (slot : Nat),
      r.slots.captureActive = false → pttSlotForInput key = some slot →
      lastStarted (answers SlotRoute.step r events).flatten = some slot →
      (SlotRoute.step (after SlotRoute.step r events) (.key key .released)).2.slots.captureActive =
        false := by
  constructor
  · intro s events key slot connectionGeneration hidle hkey hstarted
    have hlatest := CodexSlotState.capturesLatest_after hidle events
    rw [hstarted] at hlatest
    exact ⟨CodexSlotState.release_captureActive hkey hlatest, CodexSlotState.release_unrouted _ key⟩
  · intro r events key slot hidle hkey hstarted
    have hrouted := SlotRoute.routed_after hidle events
    rw [hstarted] at hrouted
    by_cases hunrouted : (after SlotRoute.step r events).generation = 0
    · rw [SlotRoute.step, hunrouted, CodexSlotState.release_unrouted]
      rw [CodexSlotState.captureActive_eq_false]
      by_contra hactive
      exact (hrouted.connection hactive).2 hunrouted
    · exact CodexSlotState.release_captureActive hkey hrouted.latest hunrouted

/-- Key 1 is pressed on connection 7. Its release on connection 8 closes the microphone. Under the
route the connection is lost while the key is held, and the release comes without one. -/
theorem release_closes_microphone_key1 :
    ((after CodexSlotState.step {} [.seed 5, .input .key1 .pressed 7]).captureActive = true ∧
      ((after CodexSlotState.step {} [.seed 5, .input .key1 .pressed 7]).handleInput .key1 .released
        8).2.captureActive
        = false) ∧
    (after SlotRoute.step {} SlotRoute.heldRun).slots.captureActive = true ∧
      (after SlotRoute.step {} SlotRoute.lostRun).generation = 0 ∧
      (SlotRoute.step
        (after SlotRoute.step {} SlotRoute.lostRun) (.key .key1 .released)).2.slots.captureActive = false :=
  ⟨⟨rfl,
    ((release_closes_microphone.1 {} [.seed 5, .input .key1 .pressed 7] .key1 1 8) rfl rfl rfl).1
    (by decide)⟩,
    rfl, rfl, release_closes_microphone.2 {} SlotRoute.lostRun .key1 1 rfl rfl rfl⟩

/-- Key 1 is pressed on connection 7 and released without one, before the disconnect: the capture
stays open. -/
theorem release_without_connection_ignored :
    lastStarted (emitted (trace CodexSlotState.step {} [.input .key1 .pressed 7])) = some 1 ∧
      pttSlotForInput .key1 = some 1 ∧
      ((after CodexSlotState.step {} [.input .key1 .pressed 7]).handleInput .key1 .released
        0).2.captureActive = true := by
  decide

end CodexKeyboard.Keyboard
