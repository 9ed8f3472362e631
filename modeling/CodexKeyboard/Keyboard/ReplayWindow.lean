import CodexKeyboard.Lib.Mask
import CodexKeyboard.Lib.Run
import Mathlib.Data.List.Induction
import Mathlib.Data.List.Nodup
/-!
# The sliding replay window

`ReplayWindow` (eci_protocol.cpp:68-91) keeps the largest sequence number it was given and one bit
for each of the 64 numbers up to it. The mask stands for a set that moves: bit `k` is about the
number `k` below the largest, so a larger number shifts every bit, and a jump of the whole width
forgets them all. The invariant `Represents` says that the bits are the accepted numbers of the
window and no others.

| here | there |
| --- | --- |
| `ReplayResult`, `ReplayWindow` | eci_protocol.h:40-54 |
| `ReplayWindow.checkAndRecord` | eci_protocol.cpp:68 |
-/

namespace CodexKeyboard.Keyboard

open Lib Lib.Mask

def kReplayWindowBits : UInt64 := 64

inductive ReplayResult
  | accepted | duplicate | stale
deriving DecidableEq, Repr

structure ReplayWindow where
  initialized : Bool := false
  highest : UInt64 := 0
  seen : UInt64 := 0
deriving DecidableEq, Repr

namespace ReplayWindow

/-- `CheckAndRecord`. -/
def checkAndRecord (w : ReplayWindow) (sequence : UInt64) : ReplayResult × ReplayWindow :=
  if w.initialized = false then
    (.accepted, { initialized := true, highest := sequence, seen := 1 })
  else if sequence > w.highest then
    let shift := sequence - w.highest
    (.accepted, { w with
      seen := if shift ≥ kReplayWindowBits then 1 else (w.seen <<< shift) ||| 1
      highest := sequence })
  else
    let offset := w.highest - sequence
    if offset ≥ kReplayWindowBits then (.stale, w)
    else
      let mask := (1 : UInt64) <<< offset
      if w.seen &&& mask ≠ 0 then (.duplicate, w)
      else (.accepted, { w with seen := w.seen ||| mask })

/-! ## The numbers of a run -/

/-- `n` is larger than every number given. -/
def Newest (given : List UInt64) (n : UInt64) : Prop := ∀ m ∈ given, m < n

/-- `top` is the largest of the numbers given. -/
def Largest (given : List UInt64) (top : UInt64) : Prop := top ∈ given ∧ ∀ m ∈ given, m ≤ top

/-- `n` is less than `kReplayWindowBits` below the largest number given. -/
def InWindow (given : List UInt64) (n : UInt64) : Prop :=
  ∃ top, Largest given top ∧ n ≤ top ∧ top.toNat - n.toNat < kReplayWindowBits.toNat

/-- `n` is `kReplayWindowBits` or more below the largest number given. -/
def BelowWindow (given : List UInt64) (n : UInt64) : Prop :=
  ∃ top, Largest given top ∧ n.toNat + kReplayWindowBits.toNat ≤ top.toNat

/-- What a run from a new window shows. -/
def history (given : List UInt64) : List (UInt64 × ReplayResult) := trace checkAndRecord {} given

/-- `n` was accepted in the run. -/
def Accepted (given : List UInt64) (n : UInt64) : Prop := (n, ReplayResult.accepted) ∈ history given

/-- The numbers accepted in the run. -/
def acceptedNumbers (given : List UInt64) : List UInt64 :=
  ((history given).filter fun shown => shown.2 = .accepted).map Prod.fst

theorem Largest.unique {given : List UInt64} {top other : UInt64} (h : Largest given top)
    (h' : Largest given other) :
    top = other := by
  apply UInt64.le_antisymm
  · exact h'.2 top h.1
  · exact h.2 other h'.1

theorem Largest.concat {given : List UInt64} {top n : UInt64} (h : Largest given top) (hle : n ≤ top) :
    Largest (given ++ [n]) top := by
  refine ⟨List.mem_append_left _ h.1, fun m hm => ?_⟩
  rcases List.mem_append.mp hm with hm | hm
  · exact h.2 m hm
  · rw [List.mem_singleton] at hm
    subst hm
    exact hle

theorem Newest.largest {given : List UInt64} {n : UInt64} (h : Newest given n) :
    Largest (given ++ [n]) n := by
  refine ⟨List.mem_append_right _ (List.mem_singleton_self n), fun m hm => ?_⟩
  rcases List.mem_append.mp hm with hm | hm
  · exact UInt64.le_of_lt (h m hm)
  · rw [List.mem_singleton] at hm
    subst hm
    exact UInt64.le_refl m

/-! ## One number -/

/-- What `CheckAndRecord` answers and leaves, with the offset from the largest number as a natural
number. -/
inductive Judged (w : ReplayWindow) (n : UInt64) : ReplayResult → ReplayWindow → Prop
  | first (hnew : w.initialized = false) : Judged w n .accepted ⟨true, n, 1⟩
  | jumped (hold : w.initialized = true) (hnewest : w.highest < n) (hfar : w.highest.toNat + 64 ≤ n.toNat) :
      Judged w n .accepted ⟨true, n, 1⟩
  | moved (hold : w.initialized = true) (hnewest : w.highest < n) (hnear : n.toNat < w.highest.toNat + 64) :
      Judged w n .accepted ⟨true, n, w.seen <<< (n - w.highest) ||| 1⟩
  | stale (hold : w.initialized = true) (hfar : n.toNat + 64 ≤ w.highest.toNat) : Judged w n .stale w
  | duplicate (hold : w.initialized = true) (hle : n ≤ w.highest) (hnear : w.highest.toNat - n.toNat < 64)
      (hseen : bit w.seen (w.highest.toNat - n.toNat) = true) : Judged w n .duplicate w
  | marked (hold : w.initialized = true) (hle : n ≤ w.highest) (hnear : w.highest.toNat - n.toNat < 64)
      (hseen : bit w.seen (w.highest.toNat - n.toNat) = false) :
      Judged w n .accepted ⟨true, w.highest, w.seen ||| (1 : UInt64) <<< (w.highest - n)⟩

theorem judged (w : ReplayWindow) (n : UInt64) :
    Judged w n (checkAndRecord w n).1 (checkAndRecord w n).2 := by
  obtain ⟨initialized, highest, seen⟩ := w
  cases initialized with
  | false => exact .first rfl
  | true =>
    by_cases hnewest : highest < n
    · have hshift := UInt64.toNat_sub_of_le n highest (UInt64.le_of_lt hnewest)
      have hlt := UInt64.lt_iff_toNat_lt.mp hnewest
      by_cases hfar : kReplayWindowBits ≤ n - highest
      · have hbits := UInt64.le_iff_toNat_le.mp hfar
        rw [hshift, show kReplayWindowBits.toNat = 64 from rfl] at hbits
        simp only [checkAndRecord, Bool.true_eq_false, if_false,
          gt_iff_lt, hnewest, if_true, ge_iff_le, hfar]
        exact .jumped rfl hnewest (by simp only; omega)
      · have hbits := UInt64.lt_iff_toNat_lt.mp (UInt64.not_le.mp hfar)
        rw [hshift, show kReplayWindowBits.toNat = 64 from rfl] at hbits
        simp only [checkAndRecord, Bool.true_eq_false, if_false,
          gt_iff_lt, hnewest, if_true, ge_iff_le, hfar]
        exact .moved rfl hnewest (by simp only; omega)
    · have hle := UInt64.not_lt.mp hnewest
      have hoffset := UInt64.toNat_sub_of_le highest n hle
      have hle' := UInt64.le_iff_toNat_le.mp hle
      by_cases hfar : kReplayWindowBits ≤ highest - n
      · have hbits := UInt64.le_iff_toNat_le.mp hfar
        rw [hoffset, show kReplayWindowBits.toNat = 64 from rfl] at hbits
        simp only [checkAndRecord, Bool.true_eq_false, if_false,
          gt_iff_lt, hnewest, ge_iff_le, hfar, if_true]
        exact .stale rfl (by simp only; omega)
      · have hbits := UInt64.lt_iff_toNat_lt.mp (UInt64.not_le.mp hfar)
        rw [show kReplayWindowBits.toNat = 64 from rfl] at hbits
        have hmask := and_mask_ne_zero seen hbits
        rw [hoffset] at hmask hbits
        by_cases hseen : seen &&& (1 : UInt64) <<< (highest - n) ≠ 0
        · simp only [checkAndRecord, Bool.true_eq_false, if_false, gt_iff_lt, hnewest, ge_iff_le, hfar]
          rw [if_pos hseen]
          exact .duplicate rfl hle hbits (hmask.mp hseen)
        · simp only [checkAndRecord, Bool.true_eq_false, if_false, gt_iff_lt, hnewest, ge_iff_le, hfar]
          rw [if_neg hseen]
          exact .marked rfl hle hbits (Bool.eq_false_iff.mpr fun hset => hseen (hmask.mpr hset))

/-! ## What the window stands for -/

/-- The window after a run that showed `shown`: its top is the largest number given, and its bits
are the accepted numbers less than 64 below it. -/
structure Represents (shown : List (UInt64 × ReplayResult)) (w : ReplayWindow) : Prop where
  started : w.initialized = false ↔ shown = []
  largest : shown ≠ [] → Largest (shown.map Prod.fst) w.highest
  marked : ∀ n, n ≤ w.highest → w.highest.toNat - n.toNat < 64 →
    (bit w.seen (w.highest.toNat - n.toNat) = true ↔ (n, ReplayResult.accepted) ∈ shown)

theorem represents_new : Represents [] {} where
  started := by simp
  largest h := absurd rfl h
  marked n _ _ := by simp [bit_zero]

variable {shown : List (UInt64 × ReplayResult)} {w w' : ReplayWindow} {n : UInt64} {result : ReplayResult}

theorem Represents.top (h : Represents shown w) (hold : w.initialized = true) :
    Largest (shown.map Prod.fst) w.highest := by
  apply h.largest
  intro hnil
  rw [h.started.mpr hnil] at hold
  cases hold

theorem Represents.le_top (h : Represents shown w) (hold : w.initialized = true)
    (hmem : (n, result) ∈ shown) :
    n ≤ w.highest :=
  (h.top hold).2 n (List.mem_map_of_mem hmem)

theorem Represents.newest (h : Represents shown w) (hold : w.initialized = true) (hnewest : w.highest < n) :
    Newest (shown.map Prod.fst) n := by
  intro m hm
  exact UInt64.lt_of_le_of_lt ((h.top hold).2 m hm) hnewest

theorem mem_concat_iff {m : UInt64} :
    (m, ReplayResult.accepted) ∈ shown ++ [(n, result)] ↔
      (m, ReplayResult.accepted) ∈ shown ∨ m = n ∧ result = .accepted := by
  rw [List.mem_append, List.mem_singleton, Prod.mk.injEq, eq_comm (a := ReplayResult.accepted)]

/-- One number keeps what the window stands for. -/
theorem Represents.step (h : Represents shown w) (hj : Judged w n result w') :
    Represents (shown ++ [(n, result)]) w' := by
  have hne : shown ++ [(n, result)] ≠ [] := by simp
  have hmap : (shown ++ [(n, result)]).map Prod.fst = shown.map Prod.fst ++ [n] := by simp
  cases hj with
  | first hnew =>
    have hnil := h.started.mp hnew
    subst hnil
    refine ⟨by simp, fun _ => ⟨by simp, by simp⟩, fun m hle hnear => ?_⟩
    simp only at hle hnear ⊢
    rw [bit_one, decide_eq_true_eq, mem_concat_iff]
    have hle' := UInt64.le_iff_toNat_le.mp hle
    rw [← UInt64.toNat_inj]
    simp
    omega
  | jumped hold hnewest hfar =>
    refine ⟨by simp, fun _ => hmap ▸ (h.newest hold hnewest).largest, fun m hle hnear => ?_⟩
    simp only at hle hnear ⊢
    have hle' := UInt64.le_iff_toNat_le.mp hle
    rw [bit_one, decide_eq_true_eq, mem_concat_iff, ← UInt64.toNat_inj]
    constructor
    · intro hzero
      exact .inr ⟨by omega, rfl⟩
    · rintro (hmem | ⟨heq, -⟩)
      · have hbefore := UInt64.le_iff_toNat_le.mp (h.le_top hold hmem)
        omega
      · omega
  | moved hold hnewest hnear' =>
    refine ⟨by simp, fun _ => hmap ▸ (h.newest hold hnewest).largest, fun m hle hnear => ?_⟩
    simp only at hle hnear ⊢
    have hle' := UInt64.le_iff_toNat_le.mp hle
    have hlt := UInt64.lt_iff_toNat_lt.mp hnewest
    have hshift := UInt64.toNat_sub_of_le n w.highest (UInt64.le_of_lt hnewest)
    rw [bit_shiftLeft_or_one w.seen (by omega) hnear, mem_concat_iff, hshift, ← UInt64.toNat_inj]
    constructor
    · rintro (hzero | ⟨hshifted, hbit⟩)
      · exact .inr ⟨by omega, rfl⟩
      · rw [show n.toNat - m.toNat - (n.toNat - w.highest.toNat) = w.highest.toNat - m.toNat by
          omega] at hbit
        exact .inl ((h.marked m (UInt64.le_iff_toNat_le.mpr (by omega)) (by omega)).mp hbit)
    · rintro (hmem | ⟨heq, -⟩)
      · have hbefore := h.le_top hold hmem
        have hbefore' := UInt64.le_iff_toNat_le.mp hbefore
        refine .inr ⟨by omega, ?_⟩
        rw [show n.toNat - m.toNat - (n.toNat - w.highest.toNat) = w.highest.toNat - m.toNat by omega]
        exact (h.marked m hbefore (by omega)).mpr hmem
      · exact .inl (by omega)
  | stale hold hfar =>
    refine ⟨by simp [hold], fun _ => hmap ▸ (h.top hold).concat (UInt64.le_iff_toNat_le.mpr (by omega)),
      fun m hle hnear => ?_⟩
    rw [h.marked m hle hnear, mem_concat_iff]
    simp
  | duplicate hold hle hnear' hseen =>
    refine ⟨by simp [hold], fun _ => hmap ▸ (h.top hold).concat hle, fun m hle hnear => ?_⟩
    rw [h.marked m hle hnear, mem_concat_iff]
    simp
  | marked hold hle hnear' hseen =>
    refine ⟨by simp, fun _ => hmap ▸ (h.top hold).concat hle, fun m hle' hnear => ?_⟩
    simp only at hle' hnear ⊢
    have hoffset := UInt64.toNat_sub_of_le w.highest n hle
    have hle1 := UInt64.le_iff_toNat_le.mp hle
    have hle2 := UInt64.le_iff_toNat_le.mp hle'
    rw [bit_or_mask w.seen (by omega), h.marked m hle' hnear, mem_concat_iff, hoffset, ← UInt64.toNat_inj]
    exact or_congr Iff.rfl ⟨fun heq => ⟨by omega, rfl⟩, fun heq => by omega⟩

/-- Every answer has its reason in what the run has shown. -/
theorem Represents.reason (h : Represents shown w) (hj : Judged w n result w') :
    (result = .accepted → (n, ReplayResult.accepted) ∉ shown ∧
      (Newest (shown.map Prod.fst) n ∨ InWindow (shown.map Prod.fst) n)) ∧
    (result = .duplicate → InWindow (shown.map Prod.fst) n ∧ (n, ReplayResult.accepted) ∈ shown) ∧
    (result = .stale → BelowWindow (shown.map Prod.fst) n) := by
  have hnotin : w.initialized = true → w.highest < n → (n, ReplayResult.accepted) ∉ shown := by
    intro hold hnewest hmem
    exact UInt64.lt_irrefl n (UInt64.lt_of_le_of_lt (h.le_top hold hmem) hnewest)
  cases hj with
  | first hnew =>
    rw [h.started.mp hnew]
    simp [Newest]
  | jumped hold hnewest hfar =>
    refine ⟨fun _ => ⟨hnotin hold hnewest, .inl (h.newest hold hnewest)⟩, ?_, ?_⟩ <;> simp
  | moved hold hnewest hnear =>
    refine ⟨fun _ => ⟨hnotin hold hnewest, .inl (h.newest hold hnewest)⟩, ?_, ?_⟩ <;> simp
  | stale hold hfar =>
    refine ⟨by simp, by simp, fun _ => ⟨w.highest, h.top hold, hfar⟩⟩
  | duplicate hold hle hnear hseen =>
    refine ⟨by simp, fun _ => ⟨⟨w.highest, h.top hold, hle, hnear⟩, (h.marked n hle hnear).mp hseen⟩,
      by simp⟩
  | marked hold hle hnear hseen =>
    refine ⟨fun _ => ⟨fun hmem => ?_, .inr ⟨w.highest, h.top hold, hle, hnear⟩⟩, by simp, by simp⟩
    rw [(h.marked n hle hnear).mpr hmem] at hseen
    cases hseen

theorem represents_history (given : List UInt64) :
    Represents (history given) (after checkAndRecord {} given) := by
  have hrun :=
    @trace_induction _ _ _ checkAndRecord Represents (fun _ w n h => h.step (judged w n)) [] {} given
    represents_new
  rwa [List.nil_append] at hrun

theorem BelowWindow.not_inWindow {given : List UInt64} (h : BelowWindow given n) : ¬ InWindow given n := by
  obtain ⟨top, htop, hfar⟩ := h
  rintro ⟨other, hother, hle, hnear⟩
  rw [htop.unique hother] at hfar
  omega

theorem BelowWindow.not_newest {given : List UInt64} (h : BelowWindow given n) : ¬ Newest given n := by
  obtain ⟨top, htop, hfar⟩ := h
  intro hnewest
  have hlt := UInt64.lt_iff_toNat_lt.mp (hnewest top htop.1)
  omega

/-- What every answer of a run means for the numbers before it. -/
theorem answer_reason (given : List UInt64) (n : UInt64) :
    (answer checkAndRecord {} given n = .accepted →
      ¬ Accepted given n ∧ (Newest given n ∨ InWindow given n)) ∧
    (answer checkAndRecord {} given n = .duplicate → InWindow given n ∧ Accepted given n) ∧
    (answer checkAndRecord {} given n = .stale → BelowWindow given n) := by
  have hstep := (represents_history given).reason (judged (after checkAndRecord {} given) n)
  rw [history, map_fst_trace] at hstep
  exact hstep

theorem acceptedNumbers_concat (given : List UInt64) (n : UInt64) :
    acceptedNumbers (given ++ [n]) =
      acceptedNumbers given ++ if answer checkAndRecord {} given n = .accepted then [n] else [] := by
  rw [acceptedNumbers, history, trace_concat, List.filter_append, List.map_append]
  by_cases hanswer : answer checkAndRecord {} given n = .accepted
  · rw [if_pos hanswer, List.filter_cons_of_pos (by simpa using hanswer)]
    rfl
  · rw [if_neg hanswer, List.filter_cons_of_neg (by simpa using hanswer)]
    rfl

theorem mem_acceptedNumbers {given : List UInt64} : n ∈ acceptedNumbers given ↔ Accepted given n := by
  simp [acceptedNumbers, Accepted]

theorem acceptedNumbers_nodup (given : List UInt64) : (acceptedNumbers given).Nodup := by
  induction given using List.reverseRecOn with
  | nil => exact List.nodup_nil
  | append_singleton given n ih =>
    rw [acceptedNumbers_concat]
    by_cases hanswer : answer checkAndRecord {} given n = .accepted
    · rw [if_pos hanswer, List.nodup_append]
      refine ⟨ih, List.nodup_singleton n, fun m hm other hother heq => ?_⟩
      rw [List.mem_singleton] at hother
      subst hother
      subst heq
      exact ((answer_reason given m).1 hanswer).1 (mem_acceptedNumbers.mp hm)
    · rw [if_neg hanswer, List.append_nil]
      exact ih

/-- **The replay window.** After any run of numbers, a number is accepted exactly when it was not
accepted before and is newer than all of them or in the window; it is a duplicate exactly when it is
in the window and was accepted, and stale exactly when it is below the window. No number is accepted
twice. -/
theorem checkAndRecord_window (given : List UInt64) (n : UInt64) :
    (answer checkAndRecord {} given n = .accepted ↔
      ¬ Accepted given n ∧ (Newest given n ∨ InWindow given n)) ∧
    (answer checkAndRecord {} given n = .duplicate ↔ InWindow given n ∧ Accepted given n) ∧
    (answer checkAndRecord {} given n = .stale ↔ BelowWindow given n) ∧
    (acceptedNumbers given).Nodup := by
  obtain ⟨haccepted, hduplicate, hstale⟩ := answer_reason given n
  refine ⟨⟨haccepted, ?_⟩, ⟨hduplicate, ?_⟩, ⟨hstale, ?_⟩, acceptedNumbers_nodup given⟩
  · rintro ⟨hnot, hplace⟩
    cases hanswer : answer checkAndRecord {} given n with
    | accepted => rfl
    | duplicate => exact absurd (hduplicate hanswer).2 hnot
    | stale =>
      have hbelow := hstale hanswer
      exact absurd hplace (not_or.mpr ⟨hbelow.not_newest, hbelow.not_inWindow⟩)
  · rintro ⟨hin, hacc⟩
    cases hanswer : answer checkAndRecord {} given n with
    | accepted => exact absurd hacc (haccepted hanswer).1
    | duplicate => rfl
    | stale => exact absurd hin (hstale hanswer).not_inWindow
  · intro hbelow
    cases hanswer : answer checkAndRecord {} given n with
    | accepted => exact absurd (haccepted hanswer).2 (not_or.mpr ⟨hbelow.not_newest, hbelow.not_inWindow⟩)
    | duplicate => exact absurd (hduplicate hanswer).1 hbelow.not_inWindow
    | stale => rfl

/-- The last number of the window, the first below it, and a number given twice. -/
example : answers checkAndRecord {} [100, 37, 36, 37, 101, 38] =
    [.accepted, .accepted, .stale, .duplicate, .accepted, .accepted] := by decide

end ReplayWindow

end CodexKeyboard.Keyboard
