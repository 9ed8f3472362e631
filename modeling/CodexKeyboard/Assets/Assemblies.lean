import CodexKeyboard.Assets.ReplayRing
/-!
# What the assemblers hold

In an open assembly every byte lies in the object, and the first and the last byte come with their
flags, so the plan or unit whose bytes have all arrived is complete for the session.

| here | there |
| --- | --- |
| `unitLength` | `expected_bytes` in `consume_data` (speaker_assets_session.cpp:752-784) |
| `Assemblies` | `plan_assembler_`, `block_assembler_`, `begin_saw_…_`, `unit_saw_…_` (speaker_assets_session.h:297-311) |
-/

namespace CodexKeyboard.Assets

open Lib Buffer Reassembly

/-! ## Accepted fragments -/

/-- An accepted fragment of a plan adds its bytes. -/
theorem PlanAssembler.acceptFragment_ok {assembler assembler' : PlanAssembler}
    {owner : SpeakerAssetsRouteToken}
    {beginId : UInt32} {offset : UInt16} {data : List UInt8}
    (h : assembler.acceptFragment owner beginId offset data = .ok assembler') :
    ∃ cells, Reassembly.accept assembler.cells offset.toNat data = some cells ∧
    assembler' = { assembler with cells }
      ∧ offset.toNat + data.length ≤ 640 := by
  unfold acceptFragment at h
  split at h
  · cases h
  · split at h
    · cases h
    · split at h
      · cases h
      · rename_i hbounds
        obtain ⟨cells, haccept, h⟩ := bind_eq_ok.mp h
        cases h
        unfold acceptCells at haccept
        split at haccept
        · cases haccept
        · rename_i heq
          cases haccept
          exact ⟨_, heq, rfl, by omega⟩

/-- An accepted fragment of a unit adds its bytes. -/
theorem BlockAssembler.acceptFragment_ok {assembler assembler' : BlockAssembler}
    {region : SpeakerAssetsRegion}
    {unitIndex offset : UInt16} {data : List UInt8}
    (h : assembler.acceptFragment region unitIndex offset data = .ok assembler') :
    ∃ cells, Reassembly.accept assembler.cells offset.toNat data = some cells ∧
    assembler' = { assembler with cells }
      ∧ offset.toNat + data.length ≤ assembler.expectedBytes.toNat ∧ region = assembler.region
      ∧ unitIndex = assembler.unitIndex ∧ assembler.active = true := by
  unfold acceptFragment at h
  split at h
  · cases h
  · rename_i hactive
    split at h
    · cases h
    · rename_i hunit
      rw [not_or, not_not, not_not] at hunit
      split at h
      · cases h
      · split at h
        · cases h
        · rename_i hbounds
          obtain ⟨cells, haccept, h⟩ := bind_eq_ok.mp h
          cases h
          unfold acceptCells at haccept
          split at haccept
          · cases haccept
          · rename_i heq
            cases haccept
            simp only [not_or, UInt16.not_lt, UInt16.le_iff_toNat_le, gt_iff_lt] at hbounds
            exact ⟨_, heq, rfl, by omega, hunit.1, hunit.2, by simpa using hactive⟩

namespace Session

/-- `expected_bytes` of a unit. -/
def unitLength (progress : SoundUpdateProgress) (region : SpeakerAssetsRegion)
    (unitIndex : UInt16) : UInt16 :=
  if region = .manifest then progress.manifestBytes.toUInt16 else
    payloadBlockLength progress.payloadBytes unitIndex

theorem expectedBytes_of_dataUnit {progress : SoundUpdateProgress} {frame : SpeakerAssetsFrame}
    {unit : DataUnit}
    (h : dataUnit progress frame = some unit) :
    unit.expectedBytes = unitLength progress unit.region unit.unitIndex := by
  unfold dataUnit at h
  split at h
  · split at h
    · cases h
    · cases h
      rfl
  · split at h
    · cases h
    · cases h
      rfl

theorem toNat_mul_4096 (unitIndex : UInt16) :
    (unitIndex.toUInt32 * 4096).toNat = unitIndex.toNat * 4096 := by
  have := unitIndex.toNat_lt
  rw [UInt32.toNat_mul, UInt16.toNat_toUInt32]
  exact Nat.mod_eq_of_lt (by simp only [show (4096 : UInt32).toNat = 4096 from rfl]; omega)

theorem toNat_uint32_min (a b : UInt32) : (min a b).toNat = min a.toNat b.toNat := by
  rw [show min a b = if a ≤ b then a else b from rfl]
  split
  · rename_i h
    rw [UInt32.le_iff_toNat_le] at h
    exact (Nat.min_eq_left h).symm
  · rename_i h
    rw [UInt32.le_iff_toNat_le] at h
    exact (Nat.min_eq_right (by omega)).symm

theorem toNat_payloadBlockLength (payloadBytes : UInt32) (unitIndex : UInt16) :
    (payloadBlockLength payloadBytes unitIndex).toNat =
      min 4096 (payloadBytes.toNat - unitIndex.toNat * 4096) := by
  have hmul := toNat_mul_4096 unitIndex
  unfold payloadBlockLength
  dsimp only
  split
  · rename_i h
    rw [ge_iff_le, UInt32.le_iff_toNat_le, hmul] at h
    rw [Nat.sub_eq_zero_of_le h]
    rfl
  · rename_i h
    rw [ge_iff_le, UInt32.le_iff_toNat_le, hmul, Nat.not_le] at h
    have hsub :
      (payloadBytes - unitIndex.toUInt32 * 4096).toNat = payloadBytes.toNat - unitIndex.toNat * 4096 := by
      rw [UInt32.toNat_sub_of_le _ _ (by rw [UInt32.le_iff_toNat_le, hmul]; exact h.le), hmul]
    rw [UInt32.toNat_toUInt16, toNat_uint32_min, hsub, show (4096 : UInt32).toNat = 4096 from rfl]
    exact Nat.mod_eq_of_lt (Nat.lt_of_le_of_lt (Nat.min_le_left _ _) (by decide))

theorem payloadBlockLength_le (payloadBytes : UInt32) (unitIndex : UInt16) :
    (payloadBlockLength payloadBytes unitIndex).toNat ≤ 4096 := by
  rw [toNat_payloadBlockLength]
  exact Nat.min_le_left _ _

/-- The units of a well-formed bundle fit the block assembler. -/
theorem unitLength_le {progress : SoundUpdateProgress} (h : progressIsWellFormed progress = true)
    (region : SpeakerAssetsRegion) (unitIndex : UInt16) :
    (unitLength progress region unitIndex).toNat ≤ 4096 := by
  unfold unitLength
  split
  · simp only [progressIsWellFormed, Bool.and_eq_true] at h
    obtain ⟨⟨⟨⟨⟨-, hsize⟩, -⟩, -⟩, -⟩, -⟩ := h
    have hle : progress.manifestBytes.toNat ≤ 4096 := (of_decide_eq_true hsize).2
    rw [UInt32.toNat_toUInt16]
    omega
  · exact payloadBlockLength_le ..

/-- The first and the last byte of an object come with their flags. -/
structure Seen (cells : Cells UInt8) (length : Nat) (sawFirst sawLast : Bool) : Prop where
  bounded : ∀ i, Arrived cells i → i < length
  first : Arrived cells 0 → sawFirst = true
  last : Arrived cells (length - 1) → sawLast = true

theorem seen_empty (n length : Nat) (sawFirst sawLast : Bool) :
    Seen (Reassembly.empty n) length sawFirst sawLast :=
  ⟨fun i h => absurd h (not_arrived_empty n i), fun h => absurd h (not_arrived_empty n 0),
    fun h => absurd h (not_arrived_empty n _)⟩

/-- One more fragment, flagged as its place in the object demands. -/
theorem Seen.accept {cells cells' : Cells UInt8} {length offset : Nat} {data : List UInt8}
    {sawFirst sawLast hasFirst hasLast : Bool}
    (h : Seen cells length sawFirst sawLast) (haccept : Reassembly.accept cells offset data = some cells')
    (hfits : offset + data.length ≤ length) (hcells : length ≤ cells.length)
    (hfirst : hasFirst = decide (offset = 0))
    (hlast : hasLast = decide (offset + data.length = length)) :
    Seen cells' length (sawFirst || hasFirst) (sawLast || hasLast) := by
  have harrived := arrived_accept haccept (by omega)
  refine ⟨fun i hi => ?_, fun hi => ?_, fun hi => ?_⟩
  · rcases (harrived i).mp hi with hold | hnew
    · exact h.bounded i hold
    · omega
  · rcases (harrived 0).mp hi with hold | hnew
    · simp [h.first hold]
    · simp [hfirst]
      omega
  · rcases (harrived _).mp hi with hold | hnew
    · simp [h.last hold]
    · simp [hlast]
      omega

/-- A block assembler that takes a unit of the bound bundle. -/
structure UnitOpen (progress : SoundUpdateProgress) (assembler : BlockAssembler) : Prop where
  active : assembler.active = true
  length : assembler.expectedBytes = unitLength progress assembler.region assembler.unitIndex
  bounded : ∀ i, Arrived assembler.cells i → i < assembler.expectedBytes.toNat

/-- What the assemblers hold in each phase. -/
structure Assemblies (s : Session) : Prop where
  plan_cells : s.planAssembler.cells.length = 640
  unit_cells : s.blockAssembler.cells.length = 4096
  plan_seen : s.phase = .beginAssembly → Seen s.planAssembler.cells 640 s.beginSawFirst s.beginSawLast
  unit_open : s.phase = .unitAssembly → UnitOpen s.progress s.blockAssembler
  unit_seen : s.phase = .unitAssembly →
    Seen s.blockAssembler.cells s.blockAssembler.expectedBytes.toNat s.unitSawFirst s.unitSawLast
  borrowed : s.phase = .actionPending → s.pending.orphaned = false →
    PendingAction.borrowsBytes s.pending = true →
    UnitOpen s.progress s.blockAssembler ∧ s.blockAssembler.region = s.pending.region
      ∧ s.blockAssembler.unitIndex = s.pending.unitIndex

theorem assemblies_new (cookieSeed actionTokenSeed : UInt32) :
    (Session.new cookieSeed actionTokenSeed).Assemblies := by
  constructor <;> simp [Session.new]

namespace Assemblies

variable {s : Session} {H : Hashes} {route : SpeakerAssetsRouteToken} {frame : SpeakerAssetsFrame}

/-- Nothing open, nothing borrowed. -/
theorem of_closed (hplan : s.planAssembler.cells.length = 640)
    (hunit : s.blockAssembler.cells.length = 4096)
    (hphase : s.phase = .idle ∨ s.phase = .ready) : s.Assemblies := by
  refine ⟨hplan, hunit, fun h => ?_, fun h => ?_, fun h => ?_, fun h => ?_⟩ <;>
    rcases hphase with hphase | hphase <;> rw [hphase] at h <;> cases h

/-- An action that borrows nothing. -/
theorem of_pending (hplan : s.planAssembler.cells.length = 640)
    (hunit : s.blockAssembler.cells.length = 4096)
    (hphase : s.phase = .actionPending)
    (hborrows : s.pending.orphaned = false → PendingAction.borrowsBytes s.pending = true →
      UnitOpen s.progress s.blockAssembler ∧ s.blockAssembler.region = s.pending.region
        ∧ s.blockAssembler.unitIndex = s.pending.unitIndex) : s.Assemblies := by
  refine ⟨hplan, hunit, fun h => ?_, fun h => ?_, fun h => ?_, fun _ => hborrows⟩ <;>
    rw [hphase] at h <;> cases h

theorem phase_restoreAfterBeginAssembly (s : Session) :
    s.restoreAfterBeginAssembly.phase = .idle ∨ s.restoreAfterBeginAssembly.phase = .ready := by
  unfold Session.restoreAfterBeginAssembly
  dsimp only
  split
  · exact .inr rfl
  · exact .inl rfl

theorem restoreAfterBeginAssembly (h : s.Assemblies) : s.restoreAfterBeginAssembly.Assemblies :=
  of_closed (length_empty 640) h.unit_cells (phase_restoreAfterBeginAssembly s)

theorem consumeCurrentActive (h : s.Assemblies) : (s.consumeCurrentActive H route frame).2.Assemblies := by
  unfold Session.consumeCurrentActive
  split
  · exact h
  · dsimp only
    split
    · exact h
    · exact h
    · split
      · exact h
      · exact of_pending h.plan_cells h.unit_cells rfl (by rintro - ⟨⟩)

theorem consumeResume (h : s.Assemblies) : (s.consumeResume H route frame).2.Assemblies := by
  unfold Session.consumeResume
  split
  · exact h
  · dsimp only
    split
    · exact h
    · split
      · exact h
      · exact h
      · split
        · exact h
        · exact of_pending h.plan_cells h.unit_cells rfl (by rintro - ⟨⟩)

theorem consumeQuery (h : s.Assemblies) : (s.consumeQuery H route frame).2.Assemblies := by
  unfold Session.consumeQuery
  split
  · exact h
  · dsimp only
    split
    · exact h
    · exact h
    · split
      · exact h
      · exact of_pending h.plan_cells h.unit_cells rfl (by rintro - ⟨⟩)

theorem consumeTerminalAction (h : s.Assemblies) {kind : SpeakerAssetsActionKind}
    (hkind : kind = .commit ∨ kind = .abort) :
    (s.consumeTerminalAction H route frame kind).2.Assemblies := by
  unfold Session.consumeTerminalAction
  split
  · exact h
  · dsimp only
    split
    · exact h
    · exact h
    · split
      · exact h
      · refine of_pending h.plan_cells h.unit_cells rfl fun _ hborrows => ?_
        rcases hkind with rfl | rfl <;> cases hborrows

theorem missingReply (h : s.Assemblies) {cookie : UInt32} {cells : Cells UInt8} {base : UInt32}
    {missing totalBitmapBytes : Nat} :
    (s.missingReply frame cookie cells base missing totalBitmapBytes).2.Assemblies := by
  unfold Session.missingReply
  dsimp only
  split
  · exact h
  · exact h

/-! ## Plans -/

theorem of_begin_ok {assembler assembler' : PlanAssembler} {owner : SpeakerAssetsRouteToken}
    {beginId : UInt32}
    (h : assembler.begin owner beginId = .ok assembler') : assembler'.cells = assembler.cells := by
  unfold PlanAssembler.begin at h
  split at h
  · cases h
  · split at h
    · split at h
      · cases h
        rfl
      · cases h
    · cases h
      rfl

theorem openPlanAssembly (h : s.Assemblies) (hs : s.Invariant) (kind : SpeakerAssetsActionKind) :
    (s.openPlanAssembly route frame kind).2.Assemblies := by
  -- a plan that is opened holds nothing yet
  have hopened {t : Session} (hphase : t.phase = .beginAssembly)
    (hcells : t.planAssembler.cells = Reassembly.empty 640)
      (hblock : t.blockAssembler = s.blockAssembler) : t.Assemblies := by
    refine ⟨by rw [hcells]; exact length_empty 640, by rw [hblock]; exact h.unit_cells,
      fun _ => ?_, fun hp => ?_, fun hp => ?_,
      fun hp => ?_⟩
    · rw [hcells]
      exact seen_empty ..
    all_goals rw [hphase] at hp; cases hp
  unfold Session.openPlanAssembly
  split
  · rename_i hphase
    split
    · exact h
    · split
      · exact h
      · rename_i hbegin
        refine hopened rfl ((of_begin_ok hbegin).trans ?_) rfl
        rw [hs.plan_fresh (by simp [hphase])]
  · rename_i hphase
    split
    · exact h
    · split
      · exact h
      · split
        · exact of_closed (length_empty 640) h.unit_cells (.inr hphase)
        · rename_i hbegin
          exact hopened rfl (of_begin_ok hbegin) rfl
  · split
    · exact h
    · exact h
  · exact h
  · exact h

/-- The flags of a valid plan fragment say whether it holds the first and the last byte. -/
theorem plan_flags (h : planFrameIsValid frame = true) :
    frame.objectOffset.toUInt16.toNat = frame.objectOffset.toNat ∧
    frame.objectOffset.toNat + frame.body.length ≤ 640
      ∧ frame.body ≠ [] ∧ frame.sessionCookie = 0
      ∧ hasFlag frame flagFirstFragment = decide (frame.objectOffset.toNat = 0)
      ∧ hasFlag frame flagLastFragment = decide (frame.objectOffset.toNat + frame.body.length = 640) := by
  simp only [planFrameIsValid, planWireBytes, Bool.not_eq_true', Bool.or_eq_false_iff, bne_eq_false_iff_eq,
    Bool.not_eq_false', Bool.and_eq_true, beq_iff_eq] at h
  obtain ⟨⟨⟨⟨⟨⟨-, -⟩, hcookie⟩, hbody⟩, hoffset⟩, hfits⟩, hfirst, hlast⟩ := h
  have hoffset := of_decide_eq_false hoffset
  have hfits := of_decide_eq_false hfits
  refine ⟨?_, by omega, by simpa using hbody, hcookie, ?_, hlast⟩
  · rw [UInt32.toNat_toUInt16]
    omega
  · rw [hfirst]
    by_cases hzero : frame.objectOffset = 0
    · simp [hzero]
    · have : frame.objectOffset.toNat ≠ 0 := fun h => hzero (UInt32.toNat_inj.mp h)
      simp [hzero, this]

theorem acceptedPlan (h : s.Assemblies) (hphase : s.phase = .beginAssembly)
    (hframe : planFrameIsValid frame = true)
    {assembler : PlanAssembler}
    (haccept : s.planAssembler.acceptFragment route frame.requestId frame.objectOffset.toUInt16
      frame.body = .ok assembler) :
    (s.acceptedPlan frame assembler).Assemblies := by
  obtain ⟨cells, hcells, rfl, hfits⟩ := PlanAssembler.acceptFragment_ok haccept
  obtain ⟨hoffset, -, -, -, hfirst, hlast⟩ := plan_flags hframe
  refine ⟨(length_accept hcells).trans h.plan_cells, h.unit_cells, fun _ => ?_,
    fun hp => ?_, fun hp => ?_, fun hp => ?_⟩
  · rw [← hoffset] at hfirst hlast
    exact (h.plan_seen hphase).accept hcells hfits h.plan_cells.ge hfirst hlast
  all_goals exact absurd (hphase.symm.trans hp) (by decide)

theorem finishPlan (h : s.Assemblies) {kind : SpeakerAssetsActionKind}
    (hkind : kind = .begin ∨ kind = .discardInvalidStaging) :
    (s.finishPlan H route frame kind).2.Assemblies := by
  have hdecoded (plan : SoundBundlePlan) :
    { s with decodedPlan := plan }.restoreAfterBeginAssembly.Assemblies :=
    of_closed (length_empty 640) h.unit_cells (phase_restoreAfterBeginAssembly _)
  unfold Session.finishPlan
  split
  · exact h.restoreAfterBeginAssembly
  · dsimp only
    split
    · exact hdecoded _
    · exact hdecoded _
    · split
      · exact hdecoded _
      · refine of_pending (length_empty 640) h.unit_cells rfl fun _ hborrows => ?_
        rcases hkind with rfl | rfl <;> cases hborrows

theorem consumePlanAction (h : s.Assemblies) (hs : s.Invariant) (kind : SpeakerAssetsActionKind) :
    (s.consumePlanAction H route frame kind).2.Assemblies := by
  unfold Session.consumePlanAction
  split
  · exact h
  · rename_i hkind
    rw [not_and_or, not_not, not_not] at hkind
    split
    · exact h
    · rename_i hframe
      have hopen := @openPlanAssembly s route frame h hs kind
      have hphase := (hs.openPlanAssembly route frame kind).2
      split
      · rename_i heq
        rw [heq] at hopen
        exact hopen
      · rename_i heq
        rw [heq] at hopen hphase
        unfold feedPlan
        split
        · exact hopen
        · rename_i haccept
          have haccepted := hopen.acceptedPlan (hphase rfl) (by simpa using hframe) haccept
          dsimp only
          split
          · exact haccepted.missingReply
          · exact haccepted.finishPlan hkind

/-! ## Units -/

theorem openUnit (h : s.Assemblies) {unit : DataUnit}
    (hunit : dataUnit s.progress frame = some unit) : (s.openUnit frame unit).2.Assemblies := by
  unfold Session.openUnit
  split
  · split
    · exact h
    · split
      · exact h
      · rename_i hbegin
        unfold BlockAssembler.begin at hbegin
        split at hbegin
        · cases hbegin
        · cases hbegin
          refine ⟨h.plan_cells, length_empty 4096, nofun,
            fun _ => ⟨rfl, expectedBytes_of_dataUnit hunit, fun i hi => ?_⟩,
            fun _ => seen_empty .., nofun⟩
          exact absurd hi (not_arrived_empty 4096 i)
  · split
    · exact h
    · exact h

/-- The flags of a valid data frame say whether it holds the first and the last byte of its unit. -/
theorem data_flags {unit : DataUnit} (h : dataFrameIsValid frame unit = true) :
    unit.unitOffset.toNat + frame.body.length ≤ unit.expectedBytes.toNat
      ∧ hasFlag frame flagFirstFragment = decide (unit.unitOffset.toNat = 0)
      ∧ hasFlag frame flagLastFragment =
        decide (unit.unitOffset.toNat + frame.body.length = unit.expectedBytes.toNat) := by
  simp only [dataFrameIsValid, Bool.not_eq_true', Bool.or_eq_false_iff, bne_eq_false_iff_eq,
    decide_eq_false_iff_not] at h
  obtain ⟨⟨⟨-, hfits⟩, hfirst⟩, hlast⟩ := h
  refine ⟨by omega, ?_, hlast⟩
  rw [hfirst]
  by_cases hzero : unit.unitOffset = 0
  · simp [hzero]
  · have : unit.unitOffset.toNat ≠ 0 := fun h => hzero (UInt16.toNat_inj.mp h)
    simp [hzero, this]

theorem acceptedUnit (h : s.Assemblies) (hs : s.Invariant) (hphase : s.phase = .unitAssembly)
    {unit : DataUnit}
    (hunit : dataUnit s.progress frame = some unit) (hframe : dataFrameIsValid frame unit = true)
    {assembler : BlockAssembler}
    (haccept : s.blockAssembler.acceptFragment unit.region unit.unitIndex
      unit.unitOffset frame.body = .ok assembler) :
    (s.acceptedUnit frame assembler).Assemblies
      ∧ assembler.region = unit.region ∧ assembler.unitIndex = unit.unitIndex := by
  obtain ⟨cells, hcells, rfl, hfits, hregion, hindex, hactive⟩ := BlockAssembler.acceptFragment_ok haccept
  obtain ⟨-, hfirst, hlast⟩ := data_flags hframe
  have hopen := h.unit_open hphase
  have hexpected : unit.expectedBytes = s.blockAssembler.expectedBytes := by
    rw [expectedBytes_of_dataUnit hunit, hopen.length, hregion, hindex]
  have hwf := (hs.binding (hs.bound (.inr hphase))).2.2
  have hle : s.blockAssembler.expectedBytes.toNat ≤ s.blockAssembler.cells.length := by
    rw [hopen.length, h.unit_cells]
    exact unitLength_le hwf ..
  rw [hexpected] at hlast
  have hseen := (h.unit_seen hphase).accept hcells hfits hle hfirst hlast
  refine ⟨⟨h.plan_cells, (length_accept hcells).trans h.unit_cells, fun hp => ?_,
    fun _ => ⟨hactive, hopen.length, hseen.bounded⟩, fun _ => hseen, fun hp =>
      ?_⟩, hregion.symm, hindex.symm⟩
  · exact absurd (hphase.symm.trans hp) (by decide)
  · exact absurd (hphase.symm.trans hp) (by decide)

theorem finishUnit (h : s.Assemblies) (hphase : s.phase = .unitAssembly) {unit : DataUnit}
    (hregion : s.blockAssembler.region = unit.region)
    (hindex : s.blockAssembler.unitIndex = unit.unitIndex) :
    (s.finishUnit H route frame unit).2.Assemblies := by
  have hback : { s with blockAssembler := {}, phase := .ready }.Assemblies :=
    of_closed h.plan_cells (length_empty 4096) (.inr rfl)
  unfold Session.finishUnit
  dsimp only
  split
  · exact hback
  · exact hback
  · exact of_pending h.plan_cells h.unit_cells rfl fun _ _ => ⟨h.unit_open hphase, hregion, hindex⟩

theorem consumeData (h : s.Assemblies) (hs : s.Invariant) : (s.consumeData H route frame).2.Assemblies := by
  unfold Session.consumeData
  dsimp only
  split
  · exact h
  · rename_i hguard
    simp only [not_or, not_and_or, not_not] at hguard
    obtain ⟨-, -, -, -, -, -, -, hphase⟩ := hguard
    split
    · exact h
    · rename_i unit hunit
      split
      · exact h
      · rename_i hframe
        have hopen := @openUnit s frame h _ hunit
        have hphase' := (hs.openUnit hphase frame unit)
        have hprogress := (@quiet_openUnit s frame unit).progress
        split
        · rename_i heq
          rw [heq] at hopen
          exact hopen
        · rename_i heq
          rw [heq] at hopen hphase' hprogress
          unfold feedUnit
          split
          · exact hopen
          · rename_i haccept
            obtain ⟨haccepted, hregion, hindex⟩ := hopen.acceptedUnit hphase'.1 (hphase'.2.1 rfl)
              (by rw [hprogress]; exact hunit) (by simpa using hframe) haccept
            dsimp only
            split
            · exact haccepted.missingReply
            · exact haccepted.finishUnit (hphase'.2.1 rfl) hregion hindex

/-! ## Every call -/

theorem consume (h : s.Assemblies) (hs : s.Invariant) : (s.consume H route frame).2.2.Assemblies := by
  unfold Session.consume
  split
  · exact h
  · split
    · exact h
    · split
      · unfold consumeCapabilities
        split
        · exact h
        · exact h
      · split
        · exact h
        · unfold dispatch
          dsimp only
          split
          · exact h.consumePlanAction hs .begin
          · exact h.consumeResume
          · exact h.consumeData hs
          · exact h.consumeQuery
          · exact h.consumeTerminalAction (.inl rfl)
          · exact h.consumeTerminalAction (.inr rfl)
          · exact h.consumePlanAction hs .discardInvalidStaging
          · exact h.consumeCurrentActive
          · exact h
          · exact h

theorem reset (s : Session) : s.reset.Assemblies :=
  of_closed (length_empty 640) (length_empty 4096) (.inl rfl)

theorem completedWithError (h : s.Assemblies) (result : SoundStoreResult) :
    (s.completedWithError s.pending result).2.clearPendingAction.Assemblies := by
  unfold Session.completedWithError
  dsimp only
  split
  · exact of_closed h.plan_cells h.unit_cells (.inl rfl)
  · exact of_closed h.plan_cells h.unit_cells (.inl rfl)
  · exact of_closed h.plan_cells h.unit_cells (.inl rfl)
  · split
    · exact of_closed h.plan_cells h.unit_cells (.inr rfl)
    · exact of_closed h.plan_cells h.unit_cells (.inl rfl)
  · exact of_closed h.plan_cells (length_empty 4096) (.inr rfl)
  · exact of_closed h.plan_cells (length_empty 4096) (.inr rfl)
  · exact of_closed h.plan_cells h.unit_cells (.inr rfl)
  · exact of_closed h.plan_cells h.unit_cells (.inr rfl)

theorem completed (h : s.Assemblies) (completion : SpeakerAssetsActionCompletion) :
    (s.completed s.pending completion).2.clearPendingAction.Assemblies := by
  have hreset (t : Session) : t.reset.clearPendingAction.Assemblies :=
    of_closed (length_empty 640) (length_empty 4096) (.inl rfl)
  unfold Session.completed
  dsimp only
  split
  · exact of_closed h.plan_cells h.unit_cells (.inr rfl)
  · exact hreset _
  · exact hreset _
  · split
    · exact hreset _
    · split
      · exact of_closed h.plan_cells h.unit_cells (.inr rfl)
      · exact of_closed h.plan_cells h.unit_cells (.inr rfl)
  · exact of_closed h.plan_cells (length_empty 4096) (.inr rfl)
  · exact of_closed h.plan_cells (length_empty 4096) (.inr rfl)
  · exact hreset _
  · exact hreset _

theorem complete (h : s.Assemblies) (completion : SpeakerAssetsActionCompletion) :
    (s.complete completion).2.2.Assemblies := by
  unfold Session.complete
  split
  · exact h
  · split
    · exact h
    · dsimp only
      split
      · exact reset _
      · split
        · exact h.completedWithError completion.result
        · split
          · exact reset _
          · exact h.completed completion

/-- A close that orphans the pending action. -/
theorem orphaned (hphase : s.phase = .actionPending) (horphan : s.pending.orphaned = true)
    (hplan : s.planAssembler.cells.length = 640) (hunit : s.blockAssembler.cells.length = 4096) :
    s.Assemblies :=
  of_pending hplan hunit hphase fun hlive => absurd hlive (by simp [horphan])

theorem routeClosed (h : s.Assemblies) (hs : s.Invariant) : (s.routeClosed route).Assemblies := by
  have h' : (s.clearReplayForRoute route).Assemblies :=
    ⟨h.plan_cells, h.unit_cells, h.plan_seen, h.unit_open, h.unit_seen, h.borrowed⟩
  unfold Session.routeClosed
  dsimp only
  split
  · exact h'
  · split
    · rename_i hpending
      rw [Bool.and_eq_true] at hpending
      have hphase := hs.pending_iff.mp hpending.1
      split
      · exact orphaned hphase rfl h.plan_cells h.unit_cells
      · exact orphaned hphase rfl (length_empty 640) h.unit_cells
    · exact reset _

theorem allRoutesClosed (h : s.Assemblies) (hs : s.Invariant) : s.allRoutesClosed.Assemblies := by
  unfold Session.allRoutesClosed
  dsimp only
  split
  · rename_i hactive
    have hphase := hs.pending_iff.mp hactive
    split
    · exact orphaned hphase rfl h.plan_cells h.unit_cells
    · exact orphaned hphase rfl (length_empty 640) (length_empty 4096)
  · exact reset _

theorem expirePartial (h : s.Assemblies) : (s.expirePartial route).2.Assemblies := by
  unfold Session.expirePartial
  split
  · exact h.restoreAfterBeginAssembly
  · split
    · exact of_closed h.plan_cells (length_empty 4096) (.inr rfl)
    · exact h

theorem step (h : s.Assemblies) (hs : s.Invariant) (event : SessionEvent) :
    (s.step H event).2.Assemblies := by
  cases event with
  | consume route frame => exact h.consume hs
  | complete completion => exact h.complete completion
  | routeClosed route => exact h.routeClosed hs
  | allRoutesClosed => exact h.allRoutesClosed hs
  | expirePartial route => exact h.expirePartial

end Assemblies

/-- What holds of a session in every state that a run reaches. -/
structure Reachable (s : Session) : Prop where
  invariant : s.Invariant
  ring : s.Ring
  assemblies : s.Assemblies

theorem reachable_new (cookieSeed actionTokenSeed : UInt32) :
    (Session.new cookieSeed actionTokenSeed).Reachable :=
  ⟨invariant_new .., ring_new .., assemblies_new ..⟩

theorem Reachable.step {s : Session} (h : s.Reachable) (H : Hashes) (event : SessionEvent) :
    (s.step H event).2.Reachable :=
  ⟨h.invariant.step H event, h.ring.step H event, h.assemblies.step h.invariant event⟩

theorem Reachable.after {s : Session} (h : s.Reachable) (H : Hashes) (events : List SessionEvent) :
    (after (Session.step H) s events).Reachable :=
  after_induction (fun _ event h => h.step H event) events h

end Session

end CodexKeyboard.Assets
