import CodexKeyboard.Keyboard.GattStatusSnapshot
import CodexKeyboard.Lib.Recent
import Mathlib.Data.Fintype.Card
/-!
# The snapshot that is evicted

When every slot is used, a start takes the slot whose read started first, by the numbers. The
invariant `InOrder` says that the numbers are in the order of the starts; then the connection that
is evicted has seen as many others start as there are slots. The numbers are given anew in the order
of the slots, and `InOrder` survives that only if the slots are in the order of the starts
(`KeepsOrder`).
-/

namespace CodexKeyboard.Keyboard

open Lib

namespace GattStatusSnapshotCache

variable {maxReaders maxValueLen : Nat} {snapshots before rest : List Snapshot} {slot : Snapshot} {i : Nat}
  {connHandle : UInt16}

/-! ## Who is evicted -/

/-- The connections whose reads started, in order. -/
def starts (calls : List Call) : List UInt16 :=
  calls.filterMap fun
    | .copyForRemoteRead connHandle offset _ => if offset = 0 then some connHandle else none
    | _ => none

theorem starts_append (calls calls' : List Call) :
    starts (calls ++ calls') = starts calls ++ starts calls' :=
  List.filterMap_append

/-- Where the numbers are used up, the other snapshots stand in the order in which their reads started. -/
def KeepsOrder (c : GattStatusSnapshotCache maxReaders maxValueLen) : Call → Prop
  | .copyForRemoteRead connHandle offset _ => offset = 0 → c.startSequence + 1 = 0 →
    ((c.snapshots.eraseIdx (slotFor c.snapshots connHandle)).filter Snapshot.valid).Pairwise fun a b =>
      a.lastStartSequence < b.lastStartSequence
  | _ => True

instance (c : GattStatusSnapshotCache maxReaders maxValueLen) : ∀ call : Call, Decidable (c.KeepsOrder call)
  | .copyForRemoteRead _ _ _ => inferInstanceAs (Decidable (_ → _ → List.Pairwise _ _))
  | .publish _ => isTrue trivial
  | .copyPublished _ => isTrue trivial
  | .forget _ => isTrue trivial
  | .clearSnapshots => isTrue trivial

/-- Two snapshots have two connections and two numbers, and the smaller number is of the read that
started first. -/
structure Apart (started : List UInt16) (a b : Snapshot) : Prop where
  connHandle : a.connHandle ≠ b.connHandle
  number : a.lastStartSequence ≠ b.lastStartSequence
  older : a.lastStartSequence < b.lastStartSequence → b.connHandle ∈ since a.connHandle started
  newer : b.lastStartSequence < a.lastStartSequence → a.connHandle ∈ since b.connHandle started

theorem Apart.symm {started : List UInt16} {a b : Snapshot} (h : Apart started a b) : Apart started b a :=
  ⟨h.connHandle.symm, h.number.symm, h.newer, h.older⟩

/-- The numbers are in the order of the starts. -/
structure InOrder (snapshots : List Snapshot) (startSequence : UInt32) (started : List UInt16) : Prop where
  apart : (snapshots.filter Snapshot.valid).Pairwise (Apart started)
  bounded : ∀ snapshot ∈ snapshots, snapshot.valid = true → snapshot.lastStartSequence ≤ startSequence

theorem used_others (hslot : SlotAt snapshots before slot rest i) :
    ((before ++ rest).filter Snapshot.valid).Sublist (snapshots.filter Snapshot.valid) := by
  rw [hslot.split]
  exact ((List.sublist_cons_self slot rest).append_left before).filter _

/-- A start in between leaves the order of two others. -/
theorem Apart.start {started : List UInt16} {a b : Snapshot} (h : Apart started a b)
    (ha : a.connHandle ≠ connHandle)
    (hb : b.connHandle ≠ connHandle) : Apart (started ++ [connHandle]) a b := by
  refine ⟨h.connHandle, h.number, fun hless => ?_, fun hless => ?_⟩
  · rw [since_concat, if_neg ha.symm]
    exact List.mem_cons_of_mem _ (h.older hless)
  · rw [since_concat, if_neg hb.symm]
    exact List.mem_cons_of_mem _ (h.newer hless)

/-- The newest start is after all the others. -/
theorem apart_newest {started : List UInt16} {a b : Snapshot} (hconn : a.connHandle ≠ b.connHandle)
    (hless : b.lastStartSequence < a.lastStartSequence) : Apart (started ++ [a.connHandle]) a b := by
  refine ⟨hconn, (UInt32.ne_of_lt hless).symm, fun hmore => ?_, fun _ => ?_⟩
  · exact absurd (UInt32.lt_trans hless hmore) (UInt32.lt_irrefl _)
  · rw [since_concat, if_neg hconn]
    exact List.mem_cons_self

/-- The new numbers go up from the first one. -/
theorem renumber_increasing : ∀ (sequence : UInt32) (snapshots : List Snapshot),
    sequence.toNat + snapshots.countP Snapshot.valid < 0x100000000 →
    (renumber sequence snapshots).2.toNat = sequence.toNat + snapshots.countP Snapshot.valid ∧
    (∀ snapshot ∈ (renumber sequence snapshots).1, snapshot.valid = true →
      sequence ≤ snapshot.lastStartSequence ∧
      snapshot.lastStartSequence < (renumber sequence snapshots).2) ∧
    ((renumber sequence snapshots).1.filter Snapshot.valid).Pairwise fun a b =>
      a.lastStartSequence < b.lastStartSequence
  | sequence, [], _ => ⟨rfl, by simp [renumber], by simp [renumber]⟩
  | sequence, snapshot :: rest, hroom => by
    cases hvalid : snapshot.valid with
    | false =>
      rw [List.countP_cons_of_neg (by simp [hvalid])] at hroom ⊢
      obtain ⟨hlast, hbounds, hpairs⟩ := renumber_increasing sequence rest hroom
      rw [renumber, if_neg (by simp [hvalid])]
      refine ⟨hlast, ?_, ?_⟩
      · intro other hother hused
        rcases List.mem_cons.mp hother with rfl | hrest
        · rw [hvalid] at hused
          cases hused
        · exact hbounds other hrest hused
      · rw [List.filter_cons_of_neg (by simp [hvalid])]
        exact hpairs
    | true =>
      rw [List.countP_cons_of_pos hvalid] at hroom ⊢
      have hnext : (sequence + 1).toNat = sequence.toNat + 1 := by
        rw [UInt32.toNat_add, UInt32.toNat_one, Nat.mod_eq_of_lt (by omega)]
      obtain ⟨hlast, hbounds, hpairs⟩ := renumber_increasing (sequence + 1) rest (by omega)
      rw [renumber_used _ hvalid]
      dsimp only
      refine ⟨by omega, ?_, ?_⟩
      · intro other hother hused
        rcases List.mem_cons.mp hother with rfl | hrest
        · refine ⟨UInt32.le_refl _, UInt32.lt_iff_toNat_lt.mpr ?_⟩
          dsimp only
          omega
        · obtain ⟨hlow, hhigh⟩ := hbounds other hrest hused
          refine ⟨?_, hhigh⟩
          rw [UInt32.le_iff_toNat_le] at hlow ⊢
          omega
      · have hfilter :
            ({ snapshot with lastStartSequence := sequence } ::
              (renumber (sequence + 1) rest).1).filter Snapshot.valid =
            { snapshot with lastStartSequence := sequence } ::
              (renumber (sequence + 1) rest).1.filter Snapshot.valid :=
          List.filter_cons_of_pos hvalid
        rw [hfilter, List.pairwise_cons]
        refine ⟨fun other hother => ?_, hpairs⟩
        obtain ⟨hmem, hused⟩ := List.mem_filter.mp hother
        have hlow := (hbounds other hmem hused).1
        rw [UInt32.le_iff_toNat_le] at hlow
        refine UInt32.lt_iff_toNat_lt.mpr ?_
        dsimp only
        omega

theorem map_readers (snapshots : List Snapshot) :
    (readers snapshots).map Prod.fst = (snapshots.filter Snapshot.valid).map Snapshot.connHandle := by
  rw [readers, List.map_map]
  rfl

theorem InOrder.nodup {startSequence : UInt32} {started : List UInt16}
    (h : InOrder snapshots startSequence started) :
    ((readers snapshots).map Prod.fst).Nodup := by
  rw [map_readers, List.Nodup, List.pairwise_map]
  exact h.apart.imp fun hapart => hapart.connHandle

/-- There are no more snapshots than connections. -/
theorem countP_used_le (hnodup : ((readers snapshots).map Prod.fst).Nodup) :
    snapshots.countP Snapshot.valid ≤ 65536 := by
  have hcard := (hnodup.map fun _ _ heq => UInt16.toFin_inj.mp heq).length_le_card
  rw [List.length_map, map_readers, List.length_map,
    ← List.countP_eq_length_filter, Fintype.card_fin] at hcard
  exact hcard

/-- Snapshots in the order of their starts keep it when they are numbered anew. -/
theorem apart_anew {started : List UInt16} {others others' : List Snapshot}
    (hsame : (others'.filter Snapshot.valid).map Snapshot.connHandle =
      (others.filter Snapshot.valid).map Snapshot.connHandle)
    (hapart : (others.filter Snapshot.valid).Pairwise (Apart started))
    (hordered : (others.filter Snapshot.valid).Pairwise fun a b =>
      a.lastStartSequence < b.lastStartSequence)
    (hordered' : (others'.filter Snapshot.valid).Pairwise fun a b =>
      a.lastStartSequence < b.lastStartSequence) :
    (others'.filter Snapshot.valid).Pairwise (Apart started) := by
  have hlater : ((others.filter Snapshot.valid).map Snapshot.connHandle).Pairwise fun x y => x ≠ y ∧
    y ∈ since x started := by
    rw [List.pairwise_map]
    exact hapart.imp₂ (fun _ _ hab hless => ⟨hab.connHandle, hab.older hless⟩) hordered
  rw [← hsame, List.pairwise_map] at hlater
  refine hlater.imp₂ (fun a b hab hless =>
    ⟨hab.1, UInt32.ne_of_lt hless, fun _ => hab.2, fun hmore => ?_⟩) hordered'
  exact absurd (UInt32.lt_trans hless hmore) (UInt32.lt_irrefl _)

/-- The slot of the newest start among the others. -/
theorem inOrder_newest {started : List UInt16} {last : UInt32} (hvalid : slot.valid = true)
    (hlast : slot.lastStartSequence = last)
    (hothers : ((before ++ rest).filter Snapshot.valid).Pairwise (Apart (started ++ [slot.connHandle])))
    (hne : ∀ snapshot ∈ (before ++ rest).filter Snapshot.valid, snapshot.connHandle ≠ slot.connHandle)
    (hless : ∀ snapshot ∈ before ++ rest, snapshot.valid = true → snapshot.lastStartSequence < last) :
    InOrder (before ++ slot :: rest) last (started ++ [slot.connHandle]) := by
  refine ⟨?_, fun snapshot hmem hused => ?_⟩
  · rw [List.filter_append, List.filter_cons_of_pos hvalid,
      List.pairwise_middle fun hapart => hapart.symm, ← List.filter_append,
      List.pairwise_cons]
    refine ⟨fun other hother => apart_newest (hne other hother).symm ?_, hothers⟩
    rw [hlast]
    obtain ⟨hmem, hused⟩ := List.mem_filter.mp hother
    exact hless other hmem hused
  · rw [List.mem_append, List.mem_cons] at hmem
    rcases hmem with hbefore | rfl | hrest
    · exact UInt32.le_of_lt (hless snapshot (List.mem_append_left _ hbefore) hused)
    · exact UInt32.le_of_eq hlast
    · exact UInt32.le_of_lt (hless snapshot (List.mem_append_right _ hrest) hused)

theorem lt_next {n sequence : UInt32} (hle : n ≤ sequence) (hmore : sequence + 1 ≠ 0) :
    n < sequence + 1 := by
  have hne : (sequence + 1).toNat ≠ 0 := fun hzero => hmore (UInt32.toNat_inj.mp hzero)
  have hlt := sequence.toNat_lt
  rw [UInt32.le_iff_toNat_le] at hle
  refine UInt32.lt_iff_toNat_lt.mpr ?_
  rw [UInt32.toNat_add, UInt32.toNat_one] at hne ⊢
  omega

/-- The slots of a start when they are numbered anew: the connections are the same, and the numbers
go up to the last. -/
theorem renumber_others {value : List UInt8} (hothers : ((readers (before ++ rest)).map Prod.fst).Nodup)
    (hne : ∀ snapshot ∈ (before ++ rest).filter Snapshot.valid, snapshot.connHandle ≠ connHandle) :
    (∀ snapshot ∈ (renumber 1 before).1 ++ (renumber ((renumber 1 before).2 + 1) rest).1,
      snapshot.valid = true →
      snapshot.lastStartSequence < (renumber ((renumber 1 before).2 + 1) rest).2) ∧
    (((renumber 1 before).1 ++ (renumber ((renumber 1 before).2 + 1) rest).1).filter
      Snapshot.valid).Pairwise fun a b =>
      a.lastStartSequence < b.lastStartSequence := by
  have hall : renumber 1 (before ++ ⟨value, 0, connHandle, true⟩ :: rest) =
      ((renumber 1 before).1 ++ ⟨value, (renumber 1 before).2, connHandle, true⟩ ::
        (renumber ((renumber 1 before).2 + 1) rest).1,
        (renumber ((renumber 1 before).2 + 1) rest).2) := by
    rw [renumber_append, renumber_used _ rfl]
  have hused : ((readers (before ++ ⟨value, 0, connHandle, true⟩ :: rest)).map Prod.fst).Nodup := by
    rw [readers_append, readers_used rfl, List.map_append,
      List.map_cons, List.nodup_middle, ← List.map_append,
      ← readers_append, List.nodup_cons]
    refine ⟨?_, hothers⟩
    rw [map_readers, List.mem_map]
    rintro ⟨snapshot, hsnapshot, hconn⟩
    exact hne snapshot hsnapshot hconn
  have hcount := countP_used_le hused
  obtain ⟨-, hbounds, hpairs⟩ := renumber_increasing 1 (before ++ ⟨value, 0, connHandle, true⟩ :: rest) (by
    rw [UInt32.toNat_one]
    omega)
  rw [hall] at hbounds hpairs
  have hsub : ((renumber 1 before).1 ++ (renumber ((renumber 1 before).2 + 1) rest).1).Sublist
      ((renumber 1 before).1 ++ ⟨value, (renumber 1 before).2, connHandle, true⟩ ::
        (renumber ((renumber 1 before).2 + 1) rest).1) :=
    (List.sublist_cons_self _ _).append_left _
  refine ⟨fun snapshot hmem hvalid => (hbounds snapshot (hsub.subset hmem) hvalid).2,
    hpairs.sublist (hsub.filter _)⟩

/-- A start that keeps the order of the others keeps the order. -/
theorem InOrder.start {value : List UInt8} {startSequence : UInt32} {started : List UInt16}
    {next : List Snapshot × UInt32}
    (h : InOrder snapshots startSequence started) (hslot : SlotAt snapshots before slot rest i)
    (howner : slot.valid = true ∧ slot.connHandle = connHandle ∨ find snapshots connHandle = none ∧
      Replaced snapshots slot)
    (hkeeps : startSequence + 1 = 0 →
      ((before ++ rest).filter Snapshot.valid).Pairwise fun a b =>
        a.lastStartSequence < b.lastStartSequence)
    (hstart : Start value connHandle before rest startSequence next) :
    InOrder next.1 next.2 (started ++ [connHandle]) := by
  have hne : ∀ snapshot ∈ (before ++ rest).filter Snapshot.valid, snapshot.connHandle ≠ connHandle := by
    intro snapshot hmem hconn
    obtain ⟨hsnapshot, hvalid⟩ := List.mem_filter.mp hmem
    refine start_others h.nodup hslot howner snapshot.value ?_
    rw [← readers_append]
    exact mem_readers.mpr ⟨snapshot, hsnapshot, hvalid, hconn, rfl⟩
  have hothers : ((before ++ rest).filter Snapshot.valid).Pairwise (Apart (started ++ [connHandle])) := by
    refine (h.apart.sublist (used_others hslot)).imp_of_mem fun ha hb hapart => ?_
    exact hapart.start (hne _ ha) (hne _ hb)
  have hbelow : ∀ snapshot ∈ before ++ rest, snapshot.valid = true →
    snapshot.lastStartSequence ≤ startSequence := by
    intro snapshot hmem
    refine h.bounded snapshot ?_
    rw [hslot.split]
    exact ((List.sublist_cons_self slot rest).append_left before).subset hmem
  cases hstart with
  | next hmore =>
    exact inOrder_newest rfl rfl hothers hne fun snapshot hmem hused =>
      lt_next (hbelow snapshot hmem hused) hmore
  | anew hwrap =>
    obtain ⟨hless, hordered⟩ := @renumber_others before rest connHandle value
      (h.nodup.sublist (by
        rw [readers_append]
        exact (readers_others hslot).map _)) hne
    have hsame :
      (((renumber 1 before).1 ++ (renumber ((renumber 1 before).2 + 1) rest).1).filter Snapshot.valid).map
        Snapshot.connHandle = ((before ++ rest).filter Snapshot.valid).map Snapshot.connHandle := by
      rw [← map_readers, ← map_readers, readers_append, readers_append, readers_renumber, readers_renumber]
    refine inOrder_newest rfl rfl (apart_anew hsame hothers (hkeeps hwrap) hordered)
      (fun snapshot hmem hconn => ?_) hless
    have hmem' := List.mem_map.mpr ⟨snapshot, hmem, hconn⟩
    rw [hsame, List.mem_map] at hmem'
    obtain ⟨other, hother, hconn'⟩ := hmem'
    exact hne other hother hconn'

theorem InOrder.set {startSequence : UInt32} {started : List UInt16}
    (h : InOrder snapshots startSequence started)
    (hslot : SlotAt snapshots before slot rest i) : InOrder (snapshots.set i {}) startSequence started := by
  rw [hslot.set]
  refine ⟨?_, fun snapshot hmem hused => ?_⟩
  · have hfree :
      ((before ++ {} :: rest).filter Snapshot.valid) = (before ++ rest).filter Snapshot.valid := by
      rw [List.filter_append, List.filter_append]
      rfl
    rw [hfree]
    exact h.apart.sublist (used_others hslot)
  · refine h.bounded snapshot ?_ hused
    rw [hslot.split]
    rw [List.mem_append, List.mem_cons] at hmem ⊢
    rcases hmem with hbefore | rfl | hrest
    · exact .inl hbefore
    · cases hused
    · exact .inr (.inr hrest)

theorem inOrder_empty (n : Nat) (startSequence : UInt32) (started : List UInt16) :
    InOrder (List.replicate n {}) startSequence started := by
  refine ⟨?_, fun snapshot hmem hused => ?_⟩
  · rw [List.filter_replicate_of_neg Bool.false_ne_true]
    exact .nil
  · rw [List.eq_of_mem_replicate hmem] at hused
    cases hused

theorem InOrder.step {c : GattStatusSnapshotCache maxReaders maxValueLen} {started : List UInt16}
    (hreaders : 0 < maxReaders)
    (h : InOrder c.snapshots c.startSequence started) {call : Call} (hkeeps : c.KeepsOrder call) :
    InOrder (step c call).2.snapshots (step c call).2.startSequence (started ++ starts [call]) := by
  cases call with
  | publish value =>
    rw [show starts [.publish value] = [] from rfl, List.append_nil]
    simp only [GattStatusSnapshotCache.step, publish]
    split <;> exact h
  | copyPublished outCapacity =>
    rw [show starts [.copyPublished outCapacity] = [] from rfl, List.append_nil]
    exact h
  | copyForRemoteRead other offset outCapacity =>
    by_cases hstart : offset = 0
    · subst hstart
      rw [show starts [.copyForRemoteRead other 0 outCapacity] = [other] from rfl]
      have hne : c.snapshots ≠ [] := by
        rw [← List.length_pos_iff, c.hsnapshots]
        exact hreaders
      obtain ⟨before, slot, rest, hslot, howner⟩ := slotFor_spec hne other
      refine h.start hslot howner (fun hwrap => ?_) (start_started hslot c.publishedValue c.startSequence)
      rw [← hslot.eraseIdx]
      exact hkeeps rfl hwrap
    · have hnone : starts [.copyForRemoteRead other offset outCapacity] = [] := by
        simp [starts, hstart]
      have hcache : (c.copyForRemoteRead other offset outCapacity).2 = c := by
        rw [copyForRemoteRead, if_neg hstart]
        split <;> rfl
      rw [hnone, List.append_nil]
      simp only [GattStatusSnapshotCache.step]
      rw [hcache]
      exact h
  | forget other =>
    rw [show starts [.forget other] = [] from rfl, List.append_nil]
    simp only [GattStatusSnapshotCache.step, forget]
    split
    · exact h
    · rename_i i hfound
      obtain ⟨before, slot, rest, hslot, -⟩ := find_some hfound
      exact h.set hslot
  | clearSnapshots =>
    rw [show starts [.clearSnapshots] = [] from rfl, List.append_nil]
    exact inOrder_empty maxReaders c.startSequence started

/-- The numbers stay in the order of the starts. -/
theorem inOrder_after (hreaders : 0 < maxReaders) :
    ∀ (calls : List Call) {c : GattStatusSnapshotCache maxReaders maxValueLen}
    {started : List UInt16}, InOrder c.snapshots c.startSequence started →
      Throughout step KeepsOrder c calls →
    InOrder (after step c calls).snapshots (after step c calls).startSequence (started ++ starts calls)
  | [], _, started, h, _ => by
    rw [show starts [] = [] from rfl, List.append_nil]
    exact h
  | call :: calls, c, started, h, hkeeps => by
    have hrest := inOrder_after hreaders calls (h.step hreaders hkeeps.1) hkeeps.2
    rw [List.append_assoc, ← starts_append] at hrest
    exact hrest

/-- Where the numbers are in the order of the starts, a connection is evicted after as many others
as there are slots. -/
theorem evicted_after {c : GattStatusSnapshotCache maxReaders maxValueLen} {started : List UInt16}
    {other : UInt16}
    {outCapacity : Nat} (hreaders : 0 < maxReaders) (h : InOrder c.snapshots c.startSequence started)
    (hevicts : c.Evicts (.copyForRemoteRead other 0 outCapacity) connHandle) :
    maxReaders ≤ (since connHandle (started ++ [other])).dedup.length := by
  obtain ⟨-, hbefore, hafter⟩ := hevicts
  have hne : c.snapshots ≠ [] := by
    rw [← List.length_pos_iff, c.hsnapshots]
    exact hreaders
  obtain ⟨before, slot, rest, hslot, howner⟩ := slotFor_spec hne other
  have hnext : readers (c.copyForRemoteRead other 0 outCapacity).2.snapshots =
      readers before ++ (other, c.publishedValue) :: readers rest := (start_started hslot _ _).readers
  have hlost :
    ∀ value, (connHandle, value) ∉ readers before ++ (other, c.publishedValue) :: readers rest := by
    intro value hmem
    rw [← hnext] at hmem
    have hholds := find_isSome.mpr ⟨value, hmem⟩
    rw [← holds, hafter] at hholds
    cases hholds
  have hother : other ≠ connHandle := by
    rintro rfl
    exact hlost c.publishedValue (List.mem_append_right _ List.mem_cons_self)
  -- the slot of `other` was that of `connHandle`
  obtain ⟨value, hvalue⟩ := find_isSome.mp hbefore
  rw [hslot.split, readers_append] at hvalue
  have hslotted : slot.valid = true ∧ slot.connHandle = connHandle := by
    cases hvalid : slot.valid with
    | false =>
      rw [readers_free hvalid] at hvalue
      refine absurd ?_ (hlost value)
      rw [List.mem_append] at hvalue ⊢
      exact hvalue.imp_right (List.mem_cons_of_mem _)
    | true =>
      rw [readers_used hvalid, List.mem_append, List.mem_cons] at hvalue
      rcases hvalue with hleft | heq | hright
      · exact absurd (List.mem_append_left _ hleft) (hlost value)
      · exact ⟨rfl, (Prod.mk.inj heq).1.symm⟩
      · exact absurd (List.mem_append_right _ (List.mem_cons_of_mem _ hright)) (hlost value)
  obtain ⟨hvalid, rfl⟩ := hslotted
  rcases howner with ⟨-, hconn⟩ | ⟨hnone, hreplaced⟩
  · exact absurd hconn.symm hother
  have hall := hreplaced.used hvalid
  rw [find_eq_none] at hnone
  rw [hslot.split] at hall hnone
  have hsub : (before ++ rest).Sublist (before ++ slot :: rest) :=
    (List.sublist_cons_self slot rest).append_left before
  have hapart : (slot :: (before ++ rest)).Pairwise (Apart started) := by
    rw [← List.pairwise_middle fun hapart => hapart.symm]
    have hused := h.apart
    rw [hslot.split, List.filter_eq_self.mpr fun snapshot hmem => (hall snapshot hmem).1] at hused
    exact hused
  rw [List.pairwise_cons] at hapart
  have hlater : ∀ snapshot ∈ before ++ rest, snapshot.connHandle ∈ since slot.connHandle started := by
    intro snapshot hmem
    have hpair := hapart.1 snapshot hmem
    exact hpair.older (UInt32.lt_of_le_of_ne (hall snapshot (hsub.subset hmem)).2 hpair.number)
  have hlen : (other :: (before ++ rest).map Snapshot.connHandle).length = maxReaders := by
    have hsize := c.hsnapshots
    rw [hslot.split, List.length_append, List.length_cons] at hsize
    rw [List.length_cons, List.length_map, List.length_append]
    omega
  rw [← hlen]
  refine length_le_dedup_since ?_ ?_
  · rw [List.nodup_cons, List.mem_map, List.Nodup, List.pairwise_map]
    refine ⟨?_, hapart.2.imp fun hpair => hpair.connHandle⟩
    rintro ⟨snapshot, hmem, hconn⟩
    exact hnone snapshot (hsub.subset hmem) (hall snapshot (hsub.subset hmem)).1 hconn
  · intro conn hmem
    rw [since_concat, if_neg hother]
    rcases List.mem_cons.mp hmem with rfl | hmap
    · exact List.mem_cons_self
    · obtain ⟨snapshot, hsnapshot, rfl⟩ := List.mem_map.mp hmap
      exact List.mem_cons_of_mem _ (hlater snapshot hsnapshot)

/-- A read at a later offset answers the value that was published when the read of its connection
started, unless the connection was forgotten or evicted since. Where the numbers are used up while
the other snapshots stand in the order of their starts, a connection is evicted only when as many
others as there are slots have started a read after its latest. -/
theorem reads_not_spliced (maxReaders maxValueLen : Nat) (hreaders : 0 < maxReaders) :
    (∀ (calls : List Call) (connHandle offset : UInt16) (outCapacity : Nat), offset ≠ 0 →
      ((after step (new maxReaders maxValueLen) calls).copyForRemoteRead connHandle offset outCapacity).1 =
        (readingAfter (new maxReaders maxValueLen) (fun _ => none) calls connHandle).bind fun value =>
          copyValue value outCapacity) ∧
    ∀ (calls : List Call) (call : Call)
      (connHandle : UInt16), Throughout step KeepsOrder (new maxReaders maxValueLen) calls →
      (after step (new maxReaders maxValueLen) calls).Evicts call connHandle →
      maxReaders ≤ (since connHandle (starts (calls ++ [call]))).dedup.length := by
  refine ⟨fun calls connHandle offset outCapacity hoffset => ?_,
    fun calls call connHandle hkeeps hevicts => ?_⟩
  · have hserves :=
      @serves_after _ maxValueLen hreaders calls (new maxReaders maxValueLen) (fun _ => none) (by
      rw [(snapshots_new maxReaders maxValueLen).1]
      exact serves_empty maxReaders)
    rw [copyForRemoteRead, if_neg hoffset, ← find_value hserves connHandle]
    cases find (after step (new maxReaders maxValueLen) calls).snapshots connHandle with
    | none => rfl
    | some i => rfl
  · cases call with
    | copyForRemoteRead other offset outCapacity =>
      obtain ⟨rfl, -⟩ := id hevicts
      have horder := @inOrder_after _ maxValueLen hreaders calls (new maxReaders maxValueLen) [] (by
        rw [(snapshots_new maxReaders maxValueLen).1]
        exact inOrder_empty maxReaders _ []) hkeeps
      rw [List.nil_append] at horder
      have hmany := evicted_after hreaders horder hevicts
      rw [starts_append]
      exact hmany
    | publish value => cases hevicts
    | copyPublished outCapacity => cases hevicts
    | forget other => cases hevicts
    | clearSnapshots => cases hevicts

/-- Two slots and three connections. -/
theorem reads_not_spliced_two :
    ((after step (new 2 512) [.publish [49],
      .copyForRemoteRead 7 0 512, .publish [50]]).copyForRemoteRead 7 8 512).1 =
      some [49] ∧
    (after step (new 2 512) [.copyForRemoteRead 7 0 512, .copyForRemoteRead 8 0 512]).Evicts
      (.copyForRemoteRead 9 0 512) 7 ∧
    2 ≤ (since 7 (starts
      ([.copyForRemoteRead 7 0 512, .copyForRemoteRead 8 0 512] ++
        [.copyForRemoteRead 9 0 512]))).dedup.length :=
  ⟨(reads_not_spliced 2 512 (by decide)).1 _ 7 8 512 (by decide), by decide,
    (reads_not_spliced 2 512 (by decide)).2 _ _ 7 (by decide) (by decide)⟩

/-! ## All the numbers -/

/-- Three readers of which the first starts again and again. -/
def restarted (first sequence : UInt32) : GattStatusSnapshotCache 3 512 where
  publishedValue := [114, 101, 97, 100, 121]
  hpublished := by decide
  snapshots := [⟨[114, 101, 97, 100, 121], first, 1, true⟩, ⟨[114, 101, 97, 100, 121], 2, 2, true⟩,
    ⟨[114, 101, 97, 100, 121], 3, 3, true⟩]
  hsnapshots := rfl
  startSequence := sequence

theorem step_restarted (first : UInt32) {sequence : UInt32} (hmore : sequence + 1 ≠ 0) :
    (step (restarted first sequence) (.copyForRemoteRead 1 0 512)).2 = restarted (sequence + 1)
    (sequence + 1) := by
  simp [step, restarted, copyForRemoteRead, started, slotFor, find, List.findIdx?_cons, nextSequence, hmore]

theorem after_restarted : ∀ (k : Nat) (first sequence : UInt32), sequence.toNat + k < 0x100000000 →
    ∃ first' sequence', after step (restarted first sequence)
      (List.replicate k (.copyForRemoteRead 1 0 512)) =
      restarted first' sequence' ∧ sequence'.toNat = sequence.toNat + k
  | 0, first, sequence, _ => ⟨first, sequence, rfl, rfl⟩
  | k + 1, first, sequence, hroom => by
    have hnext : (sequence + 1).toNat = sequence.toNat + 1 := by
      rw [UInt32.toNat_add, UInt32.toNat_one, Nat.mod_eq_of_lt (by omega)]
    have hmore : sequence + 1 ≠ 0 := by
      intro hzero
      rw [hzero, UInt32.toNat_zero] at hnext
      omega
    obtain ⟨first', sequence', hafter, hlast⟩ := after_restarted k (sequence + 1) (sequence + 1) (by omega)
    refine ⟨first', sequence', ?_, by omega⟩
    rw [List.replicate_succ, after_cons, step_restarted first hmore]
    exact hafter

/-- The calls that use up the numbers, and a start of the third reader, for whom the slots are
numbered anew. -/
def exhausting (n : Nat) : List Call :=
  [.copyForRemoteRead 1 0 512, .copyForRemoteRead 2 0 512, .copyForRemoteRead 3 0 512] ++
    List.replicate n (.copyForRemoteRead 1 0 512) ++ [.copyForRemoteRead 3 0 512]

theorem starts_exhausting (n : Nat) : starts (exhausting n ++ [.copyForRemoteRead 4 0 512]) =
    [1, 2, 3] ++ List.replicate n 1 ++ [3] ++ [4] := by
  have hreplicate : starts (List.replicate n (.copyForRemoteRead 1 0 512)) = List.replicate n 1 := by
    induction n with
    | zero => rfl
    | succ n ih => exact congrArg (1 :: ·) ih
  rw [exhausting, starts_append, starts_append, starts_append, hreplicate]
  rfl

/-- Then the first reader is evicted, though only two others started a read after its latest. -/
theorem evicted_too_soon : ¬ ∀ (calls : List Call) (call : Call) (connHandle : UInt16),
    (after step (new 3 512) calls).Evicts call connHandle →
    3 ≤ (since connHandle (starts (calls ++ [call]))).dedup.length := by
  intro hclaim
  have hfirst :
    after step (new 3 512) [.copyForRemoteRead 1 0 512, .copyForRemoteRead 2 0 512,
    .copyForRemoteRead 3 0 512] =
      restarted 1 3 := by decide
  obtain ⟨first, sequence, hafter, hlast⟩ := after_restarted 4294967292 1 3 (by decide)
  have hsequence : sequence = 4294967295 := UInt32.toNat_inj.mp hlast
  have hcalls : after step (new 3 512) (exhausting 4294967292) =
      (step (restarted first 4294967295) (.copyForRemoteRead 3 0 512)).2 := by
    rw [exhausting, after_append, after_append, hfirst, hafter, hsequence]
    rfl
  have hwrapped : (step (restarted first 4294967295) (.copyForRemoteRead 3 0 512)).2 =
      { restarted 1 4 with snapshots := [⟨[114, 101, 97, 100, 121], 1, 1, true⟩,
        ⟨[114, 101, 97, 100, 121], 2, 2, true⟩,
        ⟨[114, 101, 97, 100, 121], 4, 3, true⟩], hsnapshots := rfl } := by
    simp [step, restarted, copyForRemoteRead, started, slotFor, find,
      List.findIdx?_cons, nextSequence, renumber]
  have hevicts :
    (after step (new 3 512) (exhausting 4294967292)).Evicts (.copyForRemoteRead 4 0 512) 1 := by
    rw [hcalls, hwrapped]
    decide
  have hthree := hclaim _ _ _ hevicts
  rw [starts_exhausting, since_concat, if_neg (by decide), since_concat, if_neg (by decide),
    show List.replicate 4294967292 (1 : UInt16) = List.replicate 4294967291 1 ++ [1] from
      List.replicate_succ',
    ← List.append_assoc, since_concat, if_pos rfl] at hthree
  exact absurd hthree (by decide)

end GattStatusSnapshotCache

end CodexKeyboard.Keyboard
