import CodexKeyboard.Lib.Run
import Mathlib.Logic.Function.Iterate
/-!
# Which host a chord goes to

The lifetime of the USB endpoint and the latch that binds a chord to one endpoint
(`components/keyboard/src/transport_routing.cpp`), run against any callbacks, presence samples and
BLE reconnects.

| here | there |
| --- | --- |
| `UsbEndpointLifetime` | `UsbEndpointLifetime` (transport_routing.cpp:67-136) |
| `KeyboardTransportLatch` | `KeyboardTransportLatch` (138-215) |
| `KeyboardRouting.step` | `reconcile_keyboard_transport_lifetimes`, `send_keyboard_snapshot` (app_main.cpp:1241, 1324) |
| `bleConnect` | `advance_owner_generation_locked` (nimble_hidd.c:253) |
-/

namespace CodexKeyboard.Keyboard

open Lib

/-! ## The USB endpoint -/

structure UsbEndpointLifetime where
  tinyusbMounted : Bool := false
  physicalPresenceMonitorEnabled : Bool := false
  physicalPresent : Bool := true
  freshMountRequired : Bool := false
  epoch : UInt32 := 0
deriving DecidableEq, Repr

/-- The next epoch; zero stands for none. -/
def advanceEpoch (epoch : UInt32) : UInt32 := if epoch + 1 = 0 then 1 else epoch + 1

namespace UsbEndpointLifetime

def onMount (usb : UsbEndpointLifetime) : Bool × UsbEndpointLifetime :=
  if usb.physicalPresenceMonitorEnabled ∧ usb.physicalPresent = false then (false, usb)
  else (true,
    { usb with tinyusbMounted := true, freshMountRequired := false, epoch := advanceEpoch usb.epoch })

def onMountWithPhysicalPresence (usb : UsbEndpointLifetime) (present : Bool) : Bool × UsbEndpointLifetime :=
  if usb.physicalPresenceMonitorEnabled then
    if present = false then (false, usb) else onMount { usb with physicalPresent := true }
  else usb.onMount

def onUnmount (usb : UsbEndpointLifetime) : Bool × UsbEndpointLifetime :=
  if usb.tinyusbMounted = false then (false, usb)
  else (true, { usb with tinyusbMounted := false, epoch := advanceEpoch usb.epoch })

def enablePhysicalPresenceMonitor (usb : UsbEndpointLifetime) (initiallyPresent : Bool) :
    UsbEndpointLifetime :=
  { usb with
    physicalPresenceMonitorEnabled :=
      true, physicalPresent := initiallyPresent, freshMountRequired := !initiallyPresent }

def mounted (usb : UsbEndpointLifetime) : Bool :=
  usb.tinyusbMounted &&
    (!usb.physicalPresenceMonitorEnabled || (usb.physicalPresent && !usb.freshMountRequired))

def observePhysicalPresence (usb : UsbEndpointLifetime) (present : Bool) : Bool × UsbEndpointLifetime :=
  if usb.physicalPresenceMonitorEnabled = false then (false, usb)
  else
    let observed :=
      { usb with physicalPresent := present, freshMountRequired := usb.freshMountRequired || !present }
    (usb.mounted && !observed.mounted, observed)

end UsbEndpointLifetime

/-! ## The latch -/

inductive KeyboardTransportOwner where
  | none
  | usb
  | ble
  | suppressed
deriving DecidableEq, Repr

structure KeyboardTransportLatch where
  owner : KeyboardTransportOwner := .none
  ownerEpoch : UInt32 := 0
deriving DecidableEq, Repr

namespace KeyboardTransportLatch

def observeTransportState (latch : KeyboardTransportLatch) (usbMounted : Bool) (usbEpoch : UInt32)
    (bleConnected : Bool)
    (bleEpoch : UInt32) : Bool × KeyboardTransportLatch :=
  let usbAvailable := usbMounted && usbEpoch != 0
  let bleAvailable := bleConnected && bleEpoch != 0
  let usbLifetimeLost := latch.owner == .usb && (!usbAvailable || latch.ownerEpoch != usbEpoch)
  let bleLifetimeLost := latch.owner == .ble && (!bleAvailable || latch.ownerEpoch != bleEpoch)
  if !usbLifetimeLost && !bleLifetimeLost then (false, latch) else
    (true, { owner := .suppressed, ownerEpoch := 0 })

def selectForSnapshot (latch : KeyboardTransportLatch) (allReleased usbMounted : Bool)
    (usbEpoch : UInt32) (bleConnected : Bool)
    (bleEpoch : UInt32) : KeyboardTransportOwner × KeyboardTransportLatch :=
  let latch := (latch.observeTransportState usbMounted usbEpoch bleConnected bleEpoch).2
  let usbAvailable := usbMounted && usbEpoch != 0
  let bleAvailable := bleConnected && bleEpoch != 0
  if allReleased then
    (if (latch.owner == .usb && usbAvailable) || (latch.owner == .ble && bleAvailable) then
      latch.owner else .none, latch)
  else if latch.owner = .none then
    if usbAvailable then (.usb, { owner := .usb, ownerEpoch := usbEpoch })
    else if bleAvailable then (.ble, { owner := .ble, ownerEpoch := bleEpoch })
    else (.suppressed, { owner := .suppressed, ownerEpoch := 0 })
  else (latch.owner, latch)

def commitSnapshot (latch : KeyboardTransportLatch) (allReleased : Bool) : KeyboardTransportLatch :=
  if allReleased then {} else latch

end KeyboardTransportLatch

/-! ## The keyboard's transports -/

inductive Transport where
  | usb
  | ble
deriving DecidableEq, Repr

/-- One lifetime of one transport. -/
structure TransportEndpoint where
  transport : Transport
  epoch : UInt32
deriving DecidableEq, Repr

/-- The two transports and the latch. Ghosts: `usbEpochs` and `bleEpochs` count the epochs there
have been. -/
structure KeyboardRouting where
  usb : UsbEndpointLifetime
  bleConnected : Bool
  bleEpoch : UInt32
  latch : KeyboardTransportLatch
  usbEpochs : Nat
  bleEpochs : Nat
deriving DecidableEq, Repr

inductive RoutingEvent where
  | mount
  | mountWithPhysicalPresence (present : Bool)
  | unmount
  | observePhysicalPresence (present : Bool)
  | bleConnect
  | bleDisconnect
  | observeTransportState
  | select (allReleased : Bool)
  | commit (allReleased : Bool)
deriving DecidableEq, Repr

namespace KeyboardRouting

def epochsOf (initial : UInt32) : Nat := if initial = 0 then 0 else 1

/-- The start, with the presence monitor off or switched on with its first sample. -/
def start (usbInitial bleInitial : UInt32) (monitor : Option Bool) : KeyboardRouting :=
  let usb : UsbEndpointLifetime := { epoch := usbInitial }
  { usb := (monitor.map usb.enablePhysicalPresenceMonitor).getD usb, bleConnected := false,
    bleEpoch := bleInitial, latch := {}
    usbEpochs := epochsOf usbInitial, bleEpochs := epochsOf bleInitial }

/-- After a callback of the USB stack, which says whether it changed the endpoint. -/
def withUsb (routing : KeyboardRouting) (result : Bool × UsbEndpointLifetime) : KeyboardRouting :=
  { routing with usb := result.2, usbEpochs := if result.1 then routing.usbEpochs + 1 else routing.usbEpochs }

/-- Where the owner's reports are queued, under the owner's epoch. -/
def endpoint (owner : KeyboardTransportOwner) (ownerEpoch : UInt32) : Option TransportEndpoint :=
  match owner with
  | .usb => some ⟨.usb, ownerEpoch⟩
  | .ble => some ⟨.ble, ownerEpoch⟩
  | .none => none
  | .suppressed => none

def mountResult (routing : KeyboardRouting) : RoutingEvent → Bool
  | .mount => routing.usb.onMount.1
  | .mountWithPhysicalPresence present => (routing.usb.onMountWithPhysicalPresence present).1
  | _ => false

/-- One event, and where a selected snapshot goes. -/
def step (routing : KeyboardRouting) : RoutingEvent → Option TransportEndpoint × KeyboardRouting
  | .mount => (none, routing.withUsb routing.usb.onMount)
  | .mountWithPhysicalPresence present =>
    (none, routing.withUsb (routing.usb.onMountWithPhysicalPresence present))
  | .unmount => (none, routing.withUsb routing.usb.onUnmount)
  | .observePhysicalPresence present =>
    (none, { routing with usb := (routing.usb.observePhysicalPresence present).2 })
  | .bleConnect =>
    (none, { routing with
      bleConnected := true, bleEpoch := advanceEpoch routing.bleEpoch, bleEpochs := routing.bleEpochs + 1 })
  | .bleDisconnect => (none, { routing with bleConnected := false })
  | .observeTransportState =>
    (none, { routing with
      latch := (routing.latch.observeTransportState routing.usb.mounted
        routing.usb.epoch routing.bleConnected routing.bleEpoch).2 })
  | .select allReleased =>
    let selected :=
      routing.latch.selectForSnapshot allReleased routing.usb.mounted routing.usb.epoch
      routing.bleConnected routing.bleEpoch
    (endpoint selected.1 selected.2.ownerEpoch, { routing with latch := selected.2 })
  | .commit allReleased => (none, { routing with latch := routing.latch.commitSnapshot allReleased })

/-- The endpoint's lifetime is still there. -/
def Live (routing : KeyboardRouting) (endpoint : TransportEndpoint) : Prop :=
  match endpoint.transport with
  | .usb => routing.usb.mounted = true ∧ routing.usb.epoch = endpoint.epoch
  | .ble => routing.bleConnected = true ∧ routing.bleEpoch = endpoint.epoch

/-- Neither transport has come around to an epoch of its past. -/
def FewEpochs (routing : KeyboardRouting) : Prop :=
  routing.usbEpochs < 0x100000000 ∧ routing.bleEpochs < 0x100000000

end KeyboardRouting

/-! ## Epochs -/

theorem toNat_advanceEpoch {epoch : UInt32} (h : epoch ≠ 0) :
    (advanceEpoch epoch).toNat = epoch.toNat % 0xFFFFFFFF + 1 := by
  have hlt := epoch.toNat_lt
  have hpos : epoch.toNat ≠ 0 := fun hzero => h (UInt32.toNat_inj.mp hzero)
  have hadd : (epoch + 1).toNat = (epoch.toNat + 1) % 0x100000000 := UInt32.toNat_add ..
  rw [advanceEpoch]
  split
  · rename_i hwrap
    rw [hwrap, show (0 : UInt32).toNat = 0 from rfl] at hadd
    rw [show (1 : UInt32).toNat = 1 from rfl]
    omega
  · rename_i hwrap
    have hne : (epoch + 1).toNat ≠ 0 := fun hzero => hwrap (UInt32.toNat_inj.mp hzero)
    omega

theorem advanceEpoch_ne_zero (epoch : UInt32) : advanceEpoch epoch ≠ 0 := by
  rw [advanceEpoch]
  split
  · decide
  · assumption

theorem toNat_iterate_advanceEpoch {epoch : UInt32} (h : epoch ≠ 0) (k : Nat) :
    advanceEpoch^[k] epoch ≠ 0 ∧
    (advanceEpoch^[k] epoch).toNat = (epoch.toNat - 1 + k) % 0xFFFFFFFF + 1 := by
  have hlt := epoch.toNat_lt
  have hpos : epoch.toNat ≠ 0 := fun hzero => h (UInt32.toNat_inj.mp hzero)
  induction k with
  | zero =>
    refine ⟨h, ?_⟩
    rw [Function.iterate_zero_apply]
    omega
  | succ k ih =>
    rw [Function.iterate_succ_apply']
    refine ⟨advanceEpoch_ne_zero _, ?_⟩
    rw [toNat_advanceEpoch ih.1, ih.2]
    omega

/-- An epoch comes back only after all the others. -/
theorem iterate_advanceEpoch_ne {epoch : UInt32} (h : epoch ≠ 0) {k : Nat} (hpos : 0 < k)
    (hlt : k < 0xFFFFFFFF) :
    advanceEpoch^[k] epoch ≠ epoch := by
  intro heq
  have hvalue := (toNat_iterate_advanceEpoch h k).2
  have hbound := epoch.toNat_lt
  have hne : epoch.toNat ≠ 0 := fun hzero => h (UInt32.toNat_inj.mp hzero)
  rw [heq] at hvalue
  omega

/-! ## One event -/

namespace UsbEndpointLifetime

/-- What a callback of the USB stack can do. -/
inductive Change (usb : UsbEndpointLifetime) : Bool × UsbEndpointLifetime → Prop where
  | ignored : Change usb (false, usb)
  | mounted (present : Bool)
      (hpresent : present = true ∨ usb.physicalPresenceMonitorEnabled = false ∧
        present = usb.physicalPresent) :
      Change usb (true, { usb with
        tinyusbMounted := true, physicalPresent := present, freshMountRequired := false,
        epoch := advanceEpoch usb.epoch })
  | unmounted : Change usb (true, { usb with tinyusbMounted := false, epoch := advanceEpoch usb.epoch })

theorem change_onMount (usb : UsbEndpointLifetime) : usb.Change usb.onMount := by
  rw [onMount]
  split
  · exact .ignored
  · rename_i hpresent
    refine .mounted usb.physicalPresent ?_
    cases henabled : usb.physicalPresenceMonitorEnabled with
    | false => exact .inr ⟨rfl, rfl⟩
    | true => exact .inl (by simpa [henabled] using hpresent)

theorem change_onMountWithPhysicalPresence (usb : UsbEndpointLifetime) (present : Bool) :
    usb.Change (usb.onMountWithPhysicalPresence present) := by
  rw [onMountWithPhysicalPresence]
  split
  · split
    · exact .ignored
    · rw [onMount, if_neg (by simp)]
      exact .mounted true (.inl rfl)
  · exact change_onMount usb

theorem change_onUnmount (usb : UsbEndpointLifetime) : usb.Change usb.onUnmount := by
  rw [onUnmount]
  split
  · exact .ignored
  · exact .unmounted

/-- Waiting for a fresh mount. -/
def Waits (usb : UsbEndpointLifetime) : Prop :=
  usb.physicalPresenceMonitorEnabled = true ∧ usb.freshMountRequired = true

/-- What has been seen to be absent needs a fresh mount. -/
def Guarded (usb : UsbEndpointLifetime) : Prop :=
  usb.physicalPresent = false → usb.Waits

theorem Guarded.change {usb : UsbEndpointLifetime} {result : Bool × UsbEndpointLifetime} (h : usb.Guarded)
    (hchange : usb.Change result) : result.2.Guarded := by
  cases hchange with
  | ignored => exact h
  | mounted present hpresent =>
    intro habsent
    have hfalse : present = false := habsent
    rcases hpresent with htrue | ⟨hoff, hsame⟩
    · rw [htrue] at hfalse
      cases hfalse
    · have henabled := (h (hsame.symm.trans hfalse)).1
      rw [hoff] at henabled
      cases henabled
  | unmounted => exact h

theorem Guarded.observe {usb : UsbEndpointLifetime} (h : usb.Guarded) (present : Bool) :
    (usb.observePhysicalPresence present).2.Guarded := by
  rw [observePhysicalPresence]
  split
  · exact h
  · rename_i henabled
    intro habsent
    have hfalse : present = false := habsent
    subst hfalse
    exact ⟨by simpa using henabled, by simp⟩

/-- Mounted with the stack, the endpoint is unavailable only until a fresh mount. -/
theorem Guarded.waits {usb : UsbEndpointLifetime} (h : usb.Guarded) (hmounted : usb.tinyusbMounted = true)
    (hgone : usb.mounted = false) :
    usb.physicalPresenceMonitorEnabled = true ∧ usb.freshMountRequired = true := by
  rw [mounted, hmounted, Bool.true_and] at hgone
  cases hpresent : usb.physicalPresent with
  | false => exact h hpresent
  | true =>
    rw [hpresent] at hgone
    simpa using hgone

theorem mounted_eq_false_of_waits {usb : UsbEndpointLifetime}
    (henabled : usb.physicalPresenceMonitorEnabled = true)
    (hfresh : usb.freshMountRequired = true) : usb.mounted = false := by
  rw [mounted, henabled, hfresh]
  simp

end UsbEndpointLifetime

namespace KeyboardRouting

/-- What one event preserves: guarded presence, and an epoch of zero only before the first. -/
structure Invariant (routing : KeyboardRouting) : Prop where
  guarded : routing.usb.Guarded
  usb_counted : routing.usb.epoch ≠ 0 → 1 ≤ routing.usbEpochs
  ble_counted : routing.bleEpoch ≠ 0 → 1 ≤ routing.bleEpochs

/-- What a run can have done to the two transports. -/
structure Later (earlier later : KeyboardRouting) : Prop where
  usb_le : earlier.usbEpochs ≤ later.usbEpochs
  usb_epoch : later.usb.epoch = advanceEpoch^[later.usbEpochs - earlier.usbEpochs] earlier.usb.epoch
  usb_mounted : later.usbEpochs = earlier.usbEpochs → later.usb.tinyusbMounted = earlier.usb.tinyusbMounted
  usb_enabled : later.usb.physicalPresenceMonitorEnabled = earlier.usb.physicalPresenceMonitorEnabled
  usb_fresh : later.usbEpochs = earlier.usbEpochs → earlier.usb.freshMountRequired = true →
    later.usb.freshMountRequired = true
  ble_le : earlier.bleEpochs ≤ later.bleEpochs
  ble_epoch : later.bleEpoch = advanceEpoch^[later.bleEpochs - earlier.bleEpochs] earlier.bleEpoch
  ble_gone : later.bleEpochs = earlier.bleEpochs → earlier.bleConnected = false → later.bleConnected = false

theorem Later.of_same {earlier later : KeyboardRouting} (husb : later.usb = earlier.usb)
    (hconnected : later.bleConnected = earlier.bleConnected) (hepoch : later.bleEpoch = earlier.bleEpoch)
    (husbs : later.usbEpochs = earlier.usbEpochs) (hbles : later.bleEpochs = earlier.bleEpochs) :
    earlier.Later later := by
  constructor <;> simp [husb, hconnected, hepoch, husbs, hbles]

theorem Later.refl (routing : KeyboardRouting) : routing.Later routing := .of_same rfl rfl rfl rfl rfl

theorem Later.trans {first second third : KeyboardRouting} (h : first.Later second)
    (h' : second.Later third) :
    first.Later third := by
  refine ⟨Nat.le_trans h.usb_le h'.usb_le, ?_, fun heq => ?_,
    h'.usb_enabled.trans h.usb_enabled, fun heq hfresh => ?_,
    Nat.le_trans h.ble_le h'.ble_le, ?_, fun heq hgone => ?_⟩
  · have hle := h.usb_le
    have hle' := h'.usb_le
    rw [h'.usb_epoch, h.usb_epoch, ← Function.iterate_add_apply]
    congr 1
    omega
  · have hle := h.usb_le
    have hle' := h'.usb_le
    exact (h'.usb_mounted (by omega)).trans (h.usb_mounted (by omega))
  · have hle := h.usb_le
    have hle' := h'.usb_le
    exact h'.usb_fresh (by omega) (h.usb_fresh (by omega) hfresh)
  · have hle := h.ble_le
    have hle' := h'.ble_le
    rw [h'.ble_epoch, h.ble_epoch, ← Function.iterate_add_apply]
    congr 1
    omega
  · have hle := h.ble_le
    have hle' := h'.ble_le
    exact h'.ble_gone (by omega) (h.ble_gone (by omega) hgone)

theorem later_withUsb (routing : KeyboardRouting) {result : Bool × UsbEndpointLifetime}
    (h : routing.usb.Change result) :
    routing.Later (routing.withUsb result) := by
  cases h with
  | ignored => exact .of_same rfl rfl rfl rfl rfl
  | mounted present hpresent => constructor <;> simp [withUsb]
  | unmounted => constructor <;> simp [withUsb]

theorem later_step (routing : KeyboardRouting) (event : RoutingEvent) :
    routing.Later (routing.step event).2 := by
  cases event with
  | mount => exact later_withUsb routing routing.usb.change_onMount
  | mountWithPhysicalPresence present =>
    exact later_withUsb routing (routing.usb.change_onMountWithPhysicalPresence present)
  | unmount => exact later_withUsb routing routing.usb.change_onUnmount
  | observePhysicalPresence present =>
    simp only [step, UsbEndpointLifetime.observePhysicalPresence]
    split
    · exact .refl routing
    · constructor <;> simp +contextual
  | bleConnect => constructor <;> simp [step]
  | bleDisconnect => constructor <;> simp [step]
  | observeTransportState => exact .of_same rfl rfl rfl rfl rfl
  | select allReleased => exact .of_same rfl rfl rfl rfl rfl
  | commit allReleased => exact .of_same rfl rfl rfl rfl rfl

theorem invariant_withUsb {routing : KeyboardRouting} (h : routing.Invariant)
    {result : Bool × UsbEndpointLifetime}
    (hchange : routing.usb.Change result) : (routing.withUsb result).Invariant := by
  refine ⟨h.guarded.change hchange, fun hne => ?_, h.ble_counted⟩
  cases hchange with
  | ignored => exact h.usb_counted hne
  | mounted present hpresent => exact Nat.le_add_left ..
  | unmounted => exact Nat.le_add_left ..

theorem Invariant.step {routing : KeyboardRouting} (h : routing.Invariant) (event : RoutingEvent) :
    (routing.step event).2.Invariant := by
  cases event with
  | mount => exact invariant_withUsb h routing.usb.change_onMount
  | mountWithPhysicalPresence present =>
    exact invariant_withUsb h (routing.usb.change_onMountWithPhysicalPresence present)
  | unmount => exact invariant_withUsb h routing.usb.change_onUnmount
  | observePhysicalPresence present =>
    refine ⟨h.guarded.observe present, fun hne => h.usb_counted fun hzero => hne ?_, h.ble_counted⟩
    simp only [KeyboardRouting.step, UsbEndpointLifetime.observePhysicalPresence]
    split <;> exact hzero
  | bleConnect => exact ⟨h.guarded, h.usb_counted, fun _ => Nat.le_add_left ..⟩
  | bleDisconnect => exact ⟨h.guarded, h.usb_counted, h.ble_counted⟩
  | observeTransportState => exact ⟨h.guarded, h.usb_counted, h.ble_counted⟩
  | select allReleased => exact ⟨h.guarded, h.usb_counted, h.ble_counted⟩
  | commit allReleased => exact ⟨h.guarded, h.usb_counted, h.ble_counted⟩

theorem invariant_start (usbInitial bleInitial : UInt32) (monitor : Option Bool) :
    (start usbInitial bleInitial monitor).Invariant := by
  refine ⟨?_, fun hne => ?_, fun hne => ?_⟩
  · cases monitor with
    | none => exact fun h => nomatch h
    | some initiallyPresent =>
      intro h
      exact ⟨rfl, congrArg not h⟩
  · have hepoch : (start usbInitial bleInitial monitor).usb.epoch = usbInitial := by cases monitor <;> rfl
    rw [hepoch] at hne
    exact Nat.le_of_eq (if_neg hne).symm
  · exact Nat.le_of_eq (if_neg hne).symm

/-! ## Chords -/

def ownerOf : Transport → KeyboardTransportOwner
  | .usb => .usb
  | .ble => .ble

/-- A chord that has been routed to the endpoint: the latch is bound to it, or has given up. -/
def Settled (routing : KeyboardRouting) (endpoint : TransportEndpoint) : Prop :=
  routing.latch = { owner := ownerOf endpoint.transport, ownerEpoch := endpoint.epoch } ∨
  routing.latch.owner = .suppressed

/-- The latch keeps an owner only while its lifetime lasts. -/
theorem observe_cases (routing : KeyboardRouting) :
    ((routing.step .observeTransportState).2.latch = routing.latch
        ∧ ∀ transport, routing.latch.owner = ownerOf transport →
          routing.Live ⟨transport, routing.latch.ownerEpoch⟩ ∧ routing.latch.ownerEpoch ≠ 0) ∨
      (routing.step .observeTransportState).2.latch = { owner := .suppressed, ownerEpoch := 0 }
        ∧ ∃ transport, routing.latch.owner = ownerOf transport := by
  simp only [step, KeyboardTransportLatch.observeTransportState]
  cases howner : routing.latch.owner with
  | none => exact .inl ⟨rfl, fun transport h => by cases transport <;> cases h⟩
  | suppressed => exact .inl ⟨rfl, fun transport h => by cases transport <;> cases h⟩
  | usb =>
    split
    · rename_i hkept
      refine .inl ⟨rfl, fun transport h => ?_⟩
      cases transport with
      | ble => cases h
      | usb =>
        simp only [beq_self_eq_true, Bool.true_and, Bool.not_or,
          Bool.not_not, Bool.and_eq_true, bne_iff_ne, ne_eq,
          Bool.not_eq_true', bne_eq_false_iff_eq] at hkept
        exact ⟨⟨hkept.1.1.1, hkept.1.2.symm⟩, hkept.1.2 ▸ hkept.1.1.2⟩
    · exact .inr ⟨rfl, .usb, rfl⟩
  | ble =>
    split
    · rename_i hkept
      refine .inl ⟨rfl, fun transport h => ?_⟩
      cases transport with
      | usb => cases h
      | ble =>
        simp only [beq_self_eq_true, Bool.true_and, Bool.not_or,
          Bool.not_not, Bool.and_eq_true, bne_iff_ne, ne_eq,
          Bool.not_eq_true', bne_eq_false_iff_eq] at hkept
        exact ⟨⟨hkept.2.1.1, hkept.2.2.symm⟩, hkept.2.2 ▸ hkept.2.1.2⟩
    · exact .inr ⟨rfl, .ble, rfl⟩

/-- A selection observes first; then it uses the owner, or takes one if there is none and a key is down. -/
theorem select_cases (routing : KeyboardRouting) (allReleased : Bool) :
    let observed := (routing.step .observeTransportState).2.latch
    ((routing.step (.select allReleased)).2.latch = observed
        ∧ ((routing.step (.select allReleased)).1 = none
          ∨ ∃ transport, observed.owner = ownerOf transport
            ∧ (routing.step (.select allReleased)).1 = some ⟨transport, observed.ownerEpoch⟩)) ∨
      (observed.owner = .none
        ∧ (((routing.step (.select allReleased)).2.latch.owner = .suppressed ∧
          (routing.step (.select allReleased)).1 = none)
          ∨ ∃ fresh : TransportEndpoint, routing.Live fresh ∧ fresh.epoch ≠ 0
            ∧ (routing.step (.select allReleased)).2.latch =
              { owner := ownerOf fresh.transport, ownerEpoch := fresh.epoch }
            ∧ (routing.step (.select allReleased)).1 = some fresh)) := by
  intro observed
  have hendpoint : endpoint observed.owner observed.ownerEpoch = none ∨
    ∃ transport, observed.owner = ownerOf transport
      ∧ endpoint observed.owner observed.ownerEpoch = some ⟨transport, observed.ownerEpoch⟩ := by
    cases howner : observed.owner with
    | none => exact .inl rfl
    | suppressed => exact .inl rfl
    | usb => exact .inr ⟨.usb, rfl, rfl⟩
    | ble => exact .inr ⟨.ble, rfl, rfl⟩
  cases allReleased with
  | true =>
    refine .inl ⟨rfl, ?_⟩
    simp only [step, KeyboardTransportLatch.selectForSnapshot, if_true]
    split
    · exact hendpoint
    · exact .inl rfl
  | false =>
    simp only [step, KeyboardTransportLatch.selectForSnapshot, Bool.false_eq_true, if_false]
    by_cases hnone :
      (routing.latch.observeTransportState routing.usb.mounted routing.usb.epoch routing.bleConnected
      routing.bleEpoch).2.owner = .none
    · refine .inr ⟨hnone, ?_⟩
      rw [if_pos hnone]
      split
      · rename_i husb
        rw [Bool.and_eq_true, bne_iff_ne] at husb
        exact .inr ⟨⟨.usb, routing.usb.epoch⟩, ⟨husb.1, rfl⟩, husb.2, rfl, rfl⟩
      · split
        · rename_i hble
          rw [Bool.and_eq_true, bne_iff_ne] at hble
          exact .inr ⟨⟨.ble, routing.bleEpoch⟩, ⟨hble.1, rfl⟩, hble.2, rfl, rfl⟩
        · exact .inl ⟨rfl, rfl⟩
    · rw [if_neg hnone]
      exact .inl ⟨rfl, hendpoint⟩

theorem ownerOf_inj {left right : Transport} (h : ownerOf left = ownerOf right) : left = right := by
  cases left <;> cases right <;> first | rfl | cases h

theorem ownerOf_ne {transport : Transport} :
    ownerOf transport ≠ .none ∧ ownerOf transport ≠ .suppressed := by
  cases transport <;> decide

/-- A routed snapshot goes to a live endpoint, which the latch is then bound to. -/
theorem select_spec {routing : KeyboardRouting} {allReleased : Bool} {endpoint : TransportEndpoint}
    (h : (routing.step (.select allReleased)).1 = some endpoint) :
    routing.Live endpoint ∧ endpoint.epoch ≠ 0
      ∧ (routing.step (.select allReleased)).2.latch = { owner := ownerOf endpoint.transport,
                                                         ownerEpoch := endpoint.epoch } := by
  rcases select_cases routing allReleased with ⟨hlatch, hnone | ⟨transport, howner, hsome⟩⟩
    | ⟨-, ⟨-, hnone⟩ | ⟨fresh, hlive, hne, hlatch, hsome⟩⟩
  · rw [hnone] at h
    cases h
  · rw [hsome] at h
    cases h
    rcases observe_cases routing with ⟨hkept, hlive⟩ | ⟨hlost, -⟩
    · rw [hkept] at howner hlatch ⊢
      obtain ⟨hlive, hne⟩ := hlive transport howner
      exact ⟨hlive, hne, by rw [hlatch, ← howner]⟩
    · rw [hlost] at howner
      exact absurd howner.symm ownerOf_ne.2
  · rw [hnone] at h
    cases h
  · rw [hsome] at h
    cases h
    exact ⟨hlive, hne, hlatch⟩

theorem Settled.observe {routing : KeyboardRouting} {endpoint : TransportEndpoint}
    (h : routing.Settled endpoint) :
    (routing.step .observeTransportState).2.Settled endpoint := by
  rcases observe_cases routing with ⟨hkept, -⟩ | ⟨hlost, -⟩
  · rw [Settled, hkept]
    exact h
  · exact .inr (congrArg KeyboardTransportLatch.owner hlost)

/-- A chord that is settled stays so, and is routed nowhere else. -/
theorem Settled.select {routing : KeyboardRouting} {endpoint : TransportEndpoint}
    (h : routing.Settled endpoint) (allReleased : Bool) :
    (routing.step (.select allReleased)).2.Settled endpoint
      ∧ ∀ endpoint', (routing.step (.select allReleased)).1 = some endpoint' → endpoint' = endpoint := by
  have hobserved := h.observe
  rcases select_cases routing allReleased with ⟨hlatch, hanswer⟩ | ⟨hnone, -⟩
  · refine ⟨by rw [Settled, hlatch]; exact hobserved, fun endpoint' hsome => ?_⟩
    rcases hanswer with hnone | ⟨transport, howner, hsome'⟩
    · rw [hnone] at hsome
      cases hsome
    · rw [hsome'] at hsome
      cases hsome
      rcases hobserved with hbound | hsuppressed
      · rw [hbound] at howner ⊢
        rw [← ownerOf_inj howner]
      · rw [hsuppressed] at howner
        exact absurd howner.symm ownerOf_ne.2
  · rcases hobserved with hbound | hsuppressed
    · rw [hbound] at hnone
      exact absurd hnone ownerOf_ne.1
    · rw [hsuppressed] at hnone
      cases hnone

theorem Settled.step {routing : KeyboardRouting} {endpoint : TransportEndpoint}
    (h : routing.Settled endpoint)
    {event : RoutingEvent} (hevent : event ≠ .commit true) : (routing.step event).2.Settled endpoint := by
  cases event with
  | observeTransportState => exact h.observe
  | select allReleased => exact (h.select allReleased).1
  | commit allReleased =>
    cases allReleased with
    | true => exact absurd rfl hevent
    | false => exact h
  | mount => exact h
  | mountWithPhysicalPresence present => exact h
  | unmount => exact h
  | observePhysicalPresence present => exact h
  | bleConnect => exact h
  | bleDisconnect => exact h

theorem settled_after {routing : KeyboardRouting} {endpoint : TransportEndpoint}
    (h : routing.Settled endpoint)
    (events : List RoutingEvent) (hevents : ∀ event ∈ events, event ≠ .commit true) :
    (after step routing events).Settled endpoint := by
  induction events generalizing routing with
  | nil => exact h
  | cons event events ih =>
    exact ih (h.step (hevents event List.mem_cons_self)) fun later hlater =>
      hevents later (List.mem_cons_of_mem _ hlater)

theorem later_after (routing : KeyboardRouting) (events : List RoutingEvent) :
    routing.Later (after step routing events) :=
  after_rel (I := fun _ => True) (fun _ _ _ => trivial) Later.refl (fun _ _ _ => Later.trans)
    (fun s event _ => later_step s event)
    events trivial

theorem invariant_after {routing : KeyboardRouting} (h : routing.Invariant) (events : List RoutingEvent) :
    (after step routing events).Invariant :=
  after_induction (fun _ event hinvariant => hinvariant.step event) events h

/-! ## Lost lifetimes -/

/-- An epoch of the past does not come back while there are few of them. -/
theorem epoch_ne_of_later {earlier later : UInt32} {before now : Nat} (hne : earlier ≠ 0)
    (hcounted : 1 ≤ before) (hlt : before < now)
    (hfew : now < 0x100000000) (hlater : later = advanceEpoch^[now - before] earlier) :
    later ≠ earlier := by
  rw [hlater]
  exact iterate_advanceEpoch_ne hne (by omega) (by omega)

/-- A lifetime that was there and is not, is never there again. -/
theorem not_live_of_lost {first second third : KeyboardRouting} {endpoint : TransportEndpoint}
    (hlive : first.Live endpoint)
    (hne : endpoint.epoch ≠ 0) (hinvariant : first.Invariant) (hguarded : second.Invariant)
    (hlost : ¬ second.Live endpoint)
    (hsecond : first.Later second) (hthird : second.Later third) (hfew : third.FewEpochs) :
    ¬ third.Live endpoint := by
  obtain ⟨transport, epoch⟩ := endpoint
  have hlater := hsecond.trans hthird
  intro hagain
  cases transport with
  | usb =>
    obtain ⟨hmounted, hepoch⟩ := hlive
    obtain ⟨hmounted', hepoch'⟩ := hagain
    have hcounted := hinvariant.usb_counted (hepoch ▸ hne)
    have hsame : third.usbEpochs = first.usbEpochs := by
      by_contra hdiffer
      refine epoch_ne_of_later (hepoch ▸ hne) hcounted (by have := hlater.usb_le; omega) hfew.1
        hlater.usb_epoch ?_
      exact hepoch'.trans hepoch.symm
    have hmiddle : second.usbEpochs = first.usbEpochs := by
      have := hsecond.usb_le
      have := hthird.usb_le
      omega
    have hkept : second.usb.epoch = epoch := by
      rw [hsecond.usb_epoch, hmiddle, Nat.sub_self]
      exact hepoch
    have hstack : second.usb.tinyusbMounted = true := by
      rw [hsecond.usb_mounted hmiddle]
      rw [UsbEndpointLifetime.mounted, Bool.and_eq_true] at hmounted
      exact hmounted.1
    have hgone : second.usb.mounted = false := by
      by_contra hmounted
      exact hlost ⟨by simpa using hmounted, hkept⟩
    obtain ⟨henabled, hfresh⟩ := hguarded.guarded.waits hstack hgone
    have hwaits : third.usb.mounted = false :=
      UsbEndpointLifetime.mounted_eq_false_of_waits (hthird.usb_enabled.trans henabled)
        (hthird.usb_fresh (hsame.trans hmiddle.symm) hfresh)
    rw [hwaits] at hmounted'
    cases hmounted'
  | ble =>
    obtain ⟨hconnected, hepoch⟩ := hlive
    obtain ⟨hconnected', hepoch'⟩ := hagain
    have hcounted := hinvariant.ble_counted (hepoch ▸ hne)
    have hsame : third.bleEpochs = first.bleEpochs := by
      by_contra hdiffer
      refine epoch_ne_of_later (hepoch ▸ hne) hcounted (by have := hlater.ble_le; omega) hfew.2
        hlater.ble_epoch ?_
      exact hepoch'.trans hepoch.symm
    have hmiddle : second.bleEpochs = first.bleEpochs := by
      have := hsecond.ble_le
      have := hthird.ble_le
      omega
    have hkept : second.bleEpoch = epoch := by
      rw [hsecond.ble_epoch, hmiddle, Nat.sub_self]
      exact hepoch
    have hgone : second.bleConnected = false := by
      by_contra hconnected
      exact hlost ⟨by simpa using hconnected, hkept⟩
    have hstill := hthird.ble_gone (hsame.trans hmiddle.symm) hgone
    rw [hstill] at hconnected'
    cases hconnected'

theorem mounts_withUsb {routing : KeyboardRouting} {result : Bool × UsbEndpointLifetime}
    (hchange : routing.usb.Change result)
    (h : routing.usb.Waits) (hdone : ¬ (routing.withUsb result).usb.Waits) :
    result.1 = true ∧ routing.usbEpochs < (routing.withUsb result).usbEpochs := by
  cases hchange with
  | ignored => exact absurd h hdone
  | mounted present hpresent => exact ⟨rfl, Nat.lt_succ_self _⟩
  | unmounted => exact absurd h hdone

/-- Only an accepted mount ends the wait for one, and it starts an epoch. -/
theorem mounts_of_waits {routing : KeyboardRouting} {event : RoutingEvent} (h : routing.usb.Waits)
    (hdone : ¬ (routing.step event).2.usb.Waits) :
    routing.mountResult event = true ∧ routing.usbEpochs < (routing.step event).2.usbEpochs := by
  cases event with
  | mount => exact mounts_withUsb routing.usb.change_onMount h hdone
  | mountWithPhysicalPresence present =>
    exact mounts_withUsb (routing.usb.change_onMountWithPhysicalPresence present) h hdone
  | unmount =>
    refine absurd ?_ hdone
    simp only [step, withUsb, UsbEndpointLifetime.onUnmount]
    split <;> exact h
  | observePhysicalPresence present =>
    refine absurd ?_ hdone
    simp only [step, UsbEndpointLifetime.observePhysicalPresence]
    split
    · exact h
    · exact ⟨h.1, by simp [h.2]⟩
  | bleConnect => exact absurd h hdone
  | bleDisconnect => exact absurd h hdone
  | observeTransportState => exact absurd h hdone
  | select allReleased => exact absurd h hdone
  | commit allReleased => exact absurd h hdone

/-! ## Runs -/

/-- However the transports come and go: between two all-released commits every snapshot that is
routed goes to one endpoint; once that lifetime is lost no snapshot of the chord is routed any more;
a sample without power is recorded; and after a recorded loss of power nothing is routed to USB
before an accepted mount, which has another epoch. -/
theorem chord_stays_on_one_host (usbInitial bleInitial : UInt32) (monitor : Option Bool) :
    (∀ (before middle : List RoutingEvent) (allReleased allReleased' : Bool)
      (endpoint endpoint' : TransportEndpoint),
      (∀ event ∈ middle, event ≠ .commit true) →
      answer step (start usbInitial bleInitial monitor) before (.select allReleased) = some endpoint →
      answer step (start usbInitial bleInitial monitor) (before ++ .select allReleased :: middle)
          (.select allReleased') = some endpoint' →
        endpoint' = endpoint) ∧
    (∀ (before middle rest : List RoutingEvent) (allReleased allReleased' : Bool)
      (endpoint : TransportEndpoint),
      (∀ event ∈ middle ++ rest, event ≠ .commit true) →
      (after step (start usbInitial bleInitial monitor)
        (before ++ .select allReleased :: (middle ++ rest))).FewEpochs →
      answer step (start usbInitial bleInitial monitor) before (.select allReleased) = some endpoint →
      ¬ (after step (start usbInitial bleInitial monitor)
        (before ++ .select allReleased :: middle)).Live endpoint →
        answer step (start usbInitial bleInitial monitor)
          (before ++ .select allReleased :: (middle ++ rest))
          (.select allReleased') = none) ∧
    (∀ (before : List RoutingEvent), monitor.isSome = true →
      (after step (start usbInitial bleInitial monitor)
        (before ++ [.observePhysicalPresence false])).usb.physicalPresent = false) ∧
    (∀ (before rest : List RoutingEvent) (allReleased : Bool) (epoch : UInt32),
      (after step (start usbInitial bleInitial monitor) before).usb.physicalPresent = false →
      (after step (start usbInitial bleInitial monitor) (before ++ rest)).FewEpochs →
      answer step (start usbInitial bleInitial monitor) (before ++ rest) (.select allReleased) =
        some ⟨.usb, epoch⟩ →
        epoch ≠ (after step (start usbInitial bleInitial monitor) before).usb.epoch ∧
          ∃ mid event post, rest = mid ++ event :: post ∧
            (after step (start usbInitial bleInitial monitor) (before ++ mid)).mountResult event =
              true) := by
  have hinvariant : (start usbInitial bleInitial monitor).Invariant :=
    invariant_start usbInitial bleInitial monitor
  generalize hs : start usbInitial bleInitial monitor = s at hinvariant ⊢
  have hchord : ∀ (before middle : List RoutingEvent) (allReleased allReleased' : Bool)
    (endpoint endpoint' : TransportEndpoint),
      (∀ event ∈ middle, event ≠ .commit true) →
        answer step s before (.select allReleased) = some endpoint →
      answer step s (before ++ .select allReleased :: middle) (.select allReleased') =
        some endpoint' → endpoint' = endpoint := by
    intro before middle allReleased allReleased' endpoint endpoint' hmiddle hfirst hsecond
    have hbound := (select_spec hfirst).2.2
    have hsettled := settled_after (.inl hbound) middle hmiddle
    rw [answer, after_append, after_cons] at hsecond
    exact (hsettled.select allReleased').2 endpoint' hsecond
  refine ⟨hchord, ?_, ?_, ?_⟩
  · intro before middle rest allReleased allReleased' endpoint hevents hfew hfirst hlost
    obtain ⟨hlive, hne, -⟩ := select_spec hfirst
    cases hanswer :
      answer step s (before ++ .select allReleased :: (middle ++ rest)) (.select allReleased') with
    | none => rfl
    | some endpoint' =>
      obtain rfl :=
        hchord before (middle ++ rest) allReleased allReleased' endpoint endpoint' hevents hfirst hanswer
      have hagain := (select_spec hanswer).1
      rw [← List.cons_append, ← List.append_assoc, after_append] at hfew hagain
      have hsplit :
        (after step s before).Later (after step s (before ++ .select allReleased :: middle)) := by
        rw [after_append]
        exact later_after _ _
      exact absurd hagain (not_live_of_lost hlive hne (invariant_after hinvariant before)
        (invariant_after hinvariant (before ++ .select allReleased :: middle)) hlost hsplit
          (later_after _ rest) hfew)
  · intro before hmonitor
    have henabled : (after step s before).usb.physicalPresenceMonitorEnabled = true := by
      rw [(later_after s before).usb_enabled]
      cases monitor with
      | none => cases hmonitor
      | some initiallyPresent => rw [← hs]; rfl
    rw [after_concat]
    simp only [step, UsbEndpointLifetime.observePhysicalPresence]
    rw [if_neg (by rw [henabled]; decide)]
  · intro before rest allReleased epoch habsent hfew hanswer
    obtain ⟨⟨hmounted, hepoch⟩, hne, -⟩ := select_spec hanswer
    rw [after_append] at hfew hmounted hepoch
    have hwaits : (after step s before).usb.Waits := (invariant_after hinvariant before).guarded habsent
    have hdone : ¬ (after step (after step s before) rest).usb.Waits := by
      intro hwaits
      rw [UsbEndpointLifetime.mounted_eq_false_of_waits hwaits.1 hwaits.2] at hmounted
      cases hmounted
    obtain ⟨mid, event, post, rfl, hbefore, hafter⟩ :=
      exists_cause (Q := fun routing : KeyboardRouting => ¬ routing.usb.Waits) rest
        (not_not.mpr hwaits) hdone
    obtain ⟨hmount, hlt⟩ := mounts_of_waits (not_not.mp hbefore) hafter
    refine ⟨fun heq => ?_, mid, event, post, rfl, by rw [after_append]; exact hmount⟩
    have hlater := later_after (after step s before) (mid ++ event :: post)
    have hstart := (later_after (after step s before) mid).usb_le
    have hend : (step (after step (after step s before) mid) event).2.usbEpochs
        ≤ (after step (after step s before) (mid ++ event :: post)).usbEpochs := by
      rw [after_append, after_cons]
      exact (later_after _ post).usb_le
    exact epoch_ne_of_later (heq ▸ hne) ((invariant_after hinvariant before).usb_counted (heq ▸ hne))
      (by omega) hfew.1
      hlater.usb_epoch (hepoch.trans heq)

/-- A remount in the middle of a chord. -/
theorem chord_stays_on_one_host_remounted :
    answer step (start 0 0 none) ([.mount] ++ .select false :: ([.unmount, .mount] ++ []))
      (.select false) = none :=
  (chord_stays_on_one_host 0 0 none).2.1 [.mount] [.unmount, .mount] [] false false ⟨.usb, 1⟩ (by decide)
    ⟨by decide, by decide⟩ (by decide) (fun hlive => absurd hlive.2 (by decide))

end KeyboardRouting

end CodexKeyboard.Keyboard
