import CodexKeyboard.Keyboard.HidReportQueue
/-!
# A slot for every release

Every source in turn pushes a press and, if that was taken, a release, as a keyboard snapshot or as
an app command; plain app commands come in between and the transport takes reports away. The queue
keeps a slot for the release of every held source (`Reserved`), with two exceptions: a press that
merges into the tail takes no slot and is not held to the limit of its class, and the last slot is
not for the release of an app source.
-/

namespace CodexKeyboard.Keyboard

open Lib

/-- How a source is sent: in the keyboard snapshot, or as an app command of its own. -/
inductive SourceKind where
  | keyboard
  | app
deriving DecidableEq, Repr

inductive SourceEvent where
  | press (source : InputId) (kind : SourceKind) (report : HidReport)
  | release (source : InputId) (report : HidReport)
  | appCommand (report : HidReport)
  | pop (sequence : UInt32)
deriving DecidableEq, Repr

/-- The queue, and the sources whose press it took and whose release has not been pushed. -/
structure SourceQueue where
  queue : HidReportQueue := .start
  keyboard : Finset InputId := ∅
  app : Finset InputId := ∅

namespace SourceQueue

def held (s : SourceQueue) : Finset InputId := s.keyboard ∪ s.app

def pressClass : SourceKind → HidReportClass
  | .keyboard => .keyboardPress
  | .app => .appCommandStatefulPress

def releaseClass (s : SourceQueue) (source : InputId) : HidReportClass :=
  if source ∈ s.app then .appCommandStatefulRelease
  else if s.keyboard.erase source = ∅ then .keyboardAllReleased else .keyboardRelease

def hold (s : SourceQueue) (source : InputId) : SourceKind → SourceQueue
  | .keyboard => { s with keyboard := insert source s.keyboard }
  | .app => { s with app := insert source s.app }

def letGo (s : SourceQueue) (source : InputId) : SourceQueue :=
  { s with keyboard := s.keyboard.erase source, app := s.app.erase source }

/-- One event; what is out of turn does not happen. -/
def step (s : SourceQueue) : SourceEvent → Option HidQueuePushResult × SourceQueue
  | .press source kind report =>
    if source ∈ s.held then (none, s)
    else
      let (result, queue) := s.queue.pushClassified report (pressClass kind)
      (some result, if result.accepted then { s with queue }.hold source kind else { s with queue })
  | .release source report =>
    if source ∈ s.held then
      let (result, queue) := s.queue.pushClassified report (s.releaseClass source)
      (some result, { s with queue }.letGo source)
    else (none, s)
  | .appCommand report =>
    let (result, queue) := s.queue.pushClassified report .appCommand
    (some result, { s with queue })
  | .pop sequence => (none, { s with queue := (s.queue.popIfSequence sequence).2 })

/-! ## The reservation -/

/-- A free slot for every held source. -/
def Reserved (s : SourceQueue) : Prop := s.queue.size + s.held.card ≤ hidReportQueueCapacity

/-- A press that merges into the tail leaves a free slot for its release, too. -/
def MergesEarly (s : SourceQueue) : SourceEvent → Prop
  | .press source .keyboard report =>
    source ∉ s.held → (s.queue.tailMatches report).isSome = true →
      s.queue.size + s.held.card < hidReportQueueCapacity
  | _ => True

/-- The release of an app source that comes last, and finds a single slot. -/
def AppComesLast (s : SourceQueue) (source : InputId) (report : HidReport) : Prop :=
  source ∈ s.app ∧ s.held = {source} ∧ s.queue.size = hidReportQueueCapacity - 1
    ∧ report.data.length ≤ hidReportMaxPayload

def KeepsRoom (s : SourceQueue) : SourceEvent → Prop
  | .release source report => ¬ s.AppComesLast source report
  | _ => True

instance (s : SourceQueue) : DecidablePred s.MergesEarly
  | .press _ .keyboard _ => inferInstanceAs (Decidable (_ → _ → _))
  | .press _ .app _ | .release .. | .appCommand _ | .pop _ => isTrue trivial

instance (s : SourceQueue) : DecidablePred s.KeepsRoom
  | .release _ _ => inferInstanceAs (Decidable (¬ (_ ∧ _ ∧ _ ∧ _)))
  | .press .. | .appCommand _ | .pop _ => isTrue trivial

theorem card_held_le (s : SourceQueue) : s.held.card ≤ keyboardStateSourceCount :=
  card_inputId ▸ Finset.card_le_univ s.held

@[simp] theorem queue_hold (s : SourceQueue) (source : InputId) (kind : SourceKind) :
    (s.hold source kind).queue = s.queue := by
  cases kind <;> rfl

theorem held_hold (s : SourceQueue) (source : InputId) (kind : SourceKind) :
    (s.hold source kind).held = insert source s.held := by
  cases kind with
  | keyboard => exact Finset.insert_union _ _ _
  | app => exact Finset.union_insert _ _ _

theorem held_letGo (s : SourceQueue) (source : InputId) : (s.letGo source).held = s.held.erase source :=
  (Finset.erase_union_distrib _ _ _).symm

theorem Reserved.press {s : SourceQueue} {source : InputId} {kind : SourceKind} {report : HidReport}
    (h : s.Reserved)
    (hmerges : s.MergesEarly (.press source kind report)) :
    (step s (.press source kind report)).2.Reserved := by
  rw [step]
  split
  · exact h
  · rename_i hfree
    have hcard : (insert source s.held).card = s.held.card + 1 := Finset.card_insert_of_notMem hfree
    have hle := card_held_le ({ s with queue := s.queue }.hold source kind)
    rw [held_hold] at hle
    have heffect := s.queue.pushClassified_effect report (pressClass kind)
    generalize s.queue.pushClassified report (pressClass kind) = outcome at heffect
    cases heffect with
    | invalid => exact h
    | full => exact h
    | coalesced sequence hclass hmatches =>
      have hroom : s.queue.size + s.held.card < hidReportQueueCapacity := by
        cases kind with
        | keyboard => exact hmerges hfree (by rw [hmatches]; rfl)
        | app => cases hclass
      show Reserved (SourceQueue.hold _ _ _)
      rw [Reserved, queue_hold, held_hold]
      change s.queue.size + (insert source s.held).card ≤ _
      omega
    | queued hsize =>
      have hlimit : (pressClass kind).capacity + keyboardStateSourceCount ≤ hidReportQueueCapacity := by
        cases kind <;> decide
      show Reserved (SourceQueue.hold _ _ _)
      rw [Reserved, queue_hold, held_hold]
      change (s.queue.append report _).size + (insert source s.held).card ≤ _
      change (insert source s.held).card ≤ _ at hle
      rw [HidReportQueue.size_append (by omega)]
      omega

theorem Reserved.release {s : SourceQueue} (h : s.Reserved) (source : InputId) (report : HidReport) :
    (step s (.release source report)).2.Reserved := by
  rw [step]
  split
  · rename_i hheld
    have hcard : (s.held.erase source).card + 1 = s.held.card := Finset.card_erase_add_one hheld
    have hsize := s.queue.size_pushClassified_le report (s.releaseClass source)
    show Reserved (SourceQueue.letGo _ _)
    rw [Reserved, held_letGo]
    change (s.queue.pushClassified report _).2.size + (s.held.erase source).card ≤ _
    unfold Reserved at h
    omega
  · exact h

theorem Reserved.appCommand {s : SourceQueue} (h : s.Reserved) (report : HidReport) :
    (step s (.appCommand report)).2.Reserved := by
  have hle := card_held_le s
  have heffect := s.queue.pushClassified_effect report .appCommand
  rw [step]
  generalize s.queue.pushClassified report .appCommand = outcome at heffect
  cases heffect with
  | invalid => exact h
  | full => exact h
  | coalesced => exact h
  | queued hsize =>
    have hlimit :
      HidReportClass.appCommand.capacity + keyboardStateSourceCount ≤ hidReportQueueCapacity := by decide
    change (s.queue.append report _).size + s.held.card ≤ _
    rw [HidReportQueue.size_append (by omega)]
    omega

theorem Reserved.pop {s : SourceQueue} (h : s.Reserved) (sequence : UInt32) :
    (step s (.pop sequence)).2.Reserved :=
  Nat.le_trans (Nat.add_le_add_right (s.queue.size_popIfSequence_le sequence) _) h

theorem Reserved.step {s : SourceQueue} (event : SourceEvent) (h : s.Reserved)
    (hmerges : s.MergesEarly event) :
    (step s event).2.Reserved := by
  cases event with
  | press source kind report => exact h.press hmerges
  | release source report => exact h.release source report
  | appCommand report => exact h.appCommand report
  | pop sequence => exact h.pop sequence

/-- With a free slot for every held source, only an app source that comes last is refused. -/
theorem Reserved.full_iff {s : SourceQueue} {source : InputId} {report : HidReport} (h : s.Reserved)
    (hheld : source ∈ s.held) :
    (s.queue.pushClassified report (s.releaseClass source)).1.status = .full ↔
      s.AppComesLast source report := by
  have hpos : 0 < s.held.card := Finset.card_pos.mpr ⟨source, hheld⟩
  unfold Reserved at h
  by_cases happ : source ∈ s.app
  · rw [releaseClass, if_pos happ]
    constructor
    · intro hfull
      have hsize := HidReportQueue.size_of_full hfull
      have hlimit : HidReportClass.appCommandStatefulRelease.capacity = hidReportQueueCapacity - 1 := rfl
      have hcapacity : 0 < hidReportQueueCapacity := by decide
      have hcard : s.held.card = 1 := by omega
      obtain ⟨only, honly⟩ := Finset.card_eq_one.mp hcard
      rw [honly, Finset.mem_singleton] at hheld
      refine ⟨happ, hheld ▸ honly, by omega, ?_⟩
      by_contra hlong
      rw [HidReportQueue.pushClassified, if_pos (by omega)] at hfull
      cases hfull
    · rintro ⟨-, -, hsize, hlength⟩
      have hcommand : HidReportClass.appCommandStatefulRelease.isKeyboardSnapshot = false := rfl
      have hlimit : HidReportClass.appCommandStatefulRelease.capacity = hidReportQueueCapacity - 1 := rfl
      have hcapacity : HidReportClass.appCommandStatefulRelease.capacity ≠ 0 := by decide
      have hshort : ¬ report.data.length > hidReportMaxPayload := by omega
      rw [HidReportQueue.pushClassified, if_neg hshort, if_neg (by simp [hcommand]), if_neg (by simp),
        HidReportQueue.pushWithLimit, if_neg (not_or.mpr ⟨hshort, hcapacity⟩), if_neg (by simp [hcommand])]
      simp only
      rw [if_pos (by omega)]
  · have hkeyboard : source ∈ s.keyboard := (Finset.mem_union.mp hheld).resolve_right happ
    have hsub : s.keyboard.card ≤ s.held.card := Finset.card_le_card Finset.subset_union_left
    constructor
    · intro hfull
      have hsize := HidReportQueue.size_of_full hfull
      rw [releaseClass, if_neg happ] at hsize
      split at hsize
      · have hlimit : HidReportClass.keyboardAllReleased.capacity = hidReportQueueCapacity := rfl
        omega
      · rename_i hothers
        have herase : 0 < (s.keyboard.erase source).card :=
          Finset.card_pos.mpr (Finset.nonempty_iff_ne_empty.mpr hothers)
        have hcard : (s.keyboard.erase source).card + 1 = s.keyboard.card :=
          Finset.card_erase_add_one hkeyboard
        have hlimit : HidReportClass.keyboardRelease.capacity = hidReportQueueCapacity - 1 := rfl
        omega
    · rintro ⟨happ', -⟩
      exact absurd happ' happ

/-! ## Over every run -/

/-- No release that the run pushes is refused as full. -/
def NeverFull (events : List SourceEvent) : Prop :=
  ∀ pre source report post, events = pre ++ .release source report :: post →
    ∀ result, answer step {} pre (.release source report) = some result → result.status ≠ .full

theorem reserved_after {events : List SourceEvent} (h : Throughout step MergesEarly {} events) :
    (after step {} events).Reserved := by
  refine throughout_induction (fun s event => Reserved.step event) events ?_ h
  show 0 + (∅ ∪ ∅ : Finset InputId).card ≤ hidReportQueueCapacity
  decide

/-- A keyboard snapshot with some modifiers and the first `n` of six keys. -/
def snapshotOf (modifier : UInt8) (n : Nat) : HidReport :=
  { reportId := 1,
    data := [modifier, 0] ++ (List.range 6).map fun i => if i < n then UInt8.ofNat (4 + i) else 0 }

/-- An app source goes down first, eight commands and ten keyboard sources (six keys, four
modifiers) follow, the last of them twice, and the keyboard sources come up again. -/
def appComesLastRun : List SourceEvent :=
  .press .key1 .app ⟨0x11, [1], 0, {}, 0⟩ :: List.replicate 8 (.appCommand ⟨0x11, [7], 0, {}, 0⟩)
    ++ [.press .key2 .keyboard (snapshotOf 0 1), .press .key3 .keyboard (snapshotOf 0 2),
      .press .key4 .keyboard (snapshotOf 0 3), .press .key5 .keyboard (snapshotOf 0 4),
      .press .key6 .keyboard (snapshotOf 0 5), .press .key7 .keyboard (snapshotOf 0 6),
      .press .key8 .keyboard (snapshotOf 1 6), .press .encoderLeft .keyboard (snapshotOf 3 6),
      .press .encoderRight .keyboard (snapshotOf 7 6), .press .encoderPress .keyboard (snapshotOf 15 6),
      .release .encoderPress (snapshotOf 7 6), .press .encoderPress .keyboard (snapshotOf 15 6),
      .release .encoderPress (snapshotOf 7 6), .release .encoderRight (snapshotOf 3 6),
      .release .encoderLeft (snapshotOf 1 6), .release .key8 (snapshotOf 0 6),
        .release .key7 (snapshotOf 0 5),
      .release .key6 (snapshotOf 0 4), .release .key5 (snapshotOf 0 3), .release .key4 (snapshotOf 0 2),
      .release .key3 (snapshotOf 0 1), .release .key2 (snapshotOf 0 0)]

/-- The queue holds 31 reports, and the release of the app source is refused. -/
theorem app_release_refused :
    answer step {} appComesLastRun (.release .key1 ⟨0x11, [0], 0, {}, 0⟩) = some ⟨.full, 0⟩ := by
  decide +kernel

/-- Releases find a slot: in every run without a late merge and without an app source that comes
last, and, without a late merge, in no other. -/
theorem release_finds_slot (events : List SourceEvent) (hmerges : Throughout step MergesEarly {} events) :
    NeverFull events ↔ Throughout step KeepsRoom {} events := by
  have hreserved (pre : List SourceEvent) (event : SourceEvent) (post : List SourceEvent)
      (heq : events = pre ++ event :: post) : (after step {} pre).Reserved := by
    rw [heq, throughout_append] at hmerges
    exact reserved_after hmerges.1
  rw [throughout_iff]
  constructor
  · intro hnever pre event post heq
    cases event with
    | release source report =>
      intro hlast
      have hheld : source ∈ (after step {} pre).held := Finset.mem_union_right _ hlast.1
      refine hnever pre source report post heq
        ((after step {} pre).queue.pushClassified report ((after step {} pre).releaseClass source)).1 ?_ ?_
      · rw [answer, step, if_pos hheld]
      · exact ((hreserved pre _ post heq).full_iff hheld).mpr hlast
    | press => trivial
    | appCommand => trivial
    | pop => trivial
  · intro hroom pre source report post heq result hresult hfull
    rw [answer, step] at hresult
    split at hresult
    · rename_i hheld
      cases hresult
      exact hroom pre _ post heq (((hreserved pre _ post heq).full_iff hheld).mp hfull)
    · cases hresult

/-- A key and an app source, released in the order they were pressed. -/
theorem release_finds_slot_two :
    NeverFull [.press .key1 .app ⟨0x11, [1], 0, {}, 0⟩, .press .key2 .keyboard (snapshotOf 0 1),
        .release .key1 ⟨0x11, [0], 0, {}, 0⟩, .release .key2 (snapshotOf 0 0)] :=
  (release_finds_slot _ (by decide +kernel)).mpr (by decide +kernel)

end SourceQueue

end CodexKeyboard.Keyboard
