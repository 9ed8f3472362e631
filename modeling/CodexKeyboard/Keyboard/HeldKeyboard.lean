import CodexKeyboard.Keyboard.HidReportQueue
import CodexKeyboard.Lib.Distinct
import Mathlib.Data.List.FinRange
/-!
# The keys that are held

The keyboard state by physical source (`components/keyboard/src/held_keyboard_state.cpp`): a press
that needs a seventh key is refused, everything else yields the union of what the held sources send.

| here | there |
| --- | --- |
| `HeldKeyboardState.press`, `.release`, `.clear` | `press`, `release`, `clear` (held_keyboard_state.cpp:56, 104, 146) |
| `compose`, `addKeycode` | `compose`, `add_keycode` (202, 18) |
| `HidKeyboardSnapshot`, `HeldKeyboardUpdate` | held_keyboard_state.h:14-43 |

`compose` goes through the held reports with a six-cell array and a counter; `compose_eq` reads it
as a bounded list without repetitions.
-/

namespace CodexKeyboard.Keyboard

open Lib

def keycodeCount : Nat := 6

structure HidKeyboardReport where
  valid : Bool := false
  appleFn : Bool := false
  modifier : UInt8 := 0
  keycode : UInt8 := 0
  keycodes : Vector UInt8 keycodeCount := .replicate keycodeCount 0
deriving DecidableEq, Repr

/-- A complete keyboard state; the empty one releases everything. -/
structure HidKeyboardSnapshot where
  modifier : UInt8 := 0
  appleFn : Bool := false
  keycodes : Vector UInt8 keycodeCount := .replicate keycodeCount 0
deriving DecidableEq, Repr

def HidKeyboardSnapshot.empty (snapshot : HidKeyboardSnapshot) : Bool :=
  snapshot.modifier = 0 && !snapshot.appleFn && snapshot.keycodes.toList.all (· = 0)

inductive HeldKeyboardUpdateStatus where
  | applied
  | noChange
  | invalidSource
  | invalidReport
  | rollover
deriving DecidableEq, Repr

structure HeldKeyboardUpdate where
  status : HeldKeyboardUpdateStatus := .noChange
  snapshot : HidKeyboardSnapshot
  stateChanged : Bool := false
  reportChanged : Bool := false
  becameEmpty : Bool := false
deriving DecidableEq, Repr

def HeldKeyboardUpdate.accepted (update : HeldKeyboardUpdate) : Bool :=
  update.status = .applied || update.status = .noChange

/-! ## Composing the held reports -/

/-- `usable_report` (held_keyboard_state.cpp:188). -/
def HidKeyboardReport.usable (report : HidKeyboardReport) : Bool :=
  report.valid &&
    (report.modifier ≠ 0 || report.appleFn || report.keycode ≠ 0 || report.keycodes.toList.any (· ≠ 0))

/-- The snapshot under construction, and how many of its cells are taken. -/
abbrev Candidate : Type := HidKeyboardSnapshot × Nat

/-- `add_keycode` (held_keyboard_state.cpp:17). -/
def addKeycode (candidate : Candidate) (keycode : UInt8) : Option Candidate :=
  if keycode = 0 ∨ keycode ∈ candidate.1.keycodes.toList then some candidate
  else if h : candidate.2 < keycodeCount then
    some ({ candidate.1 with keycodes := candidate.1.keycodes.set candidate.2 keycode }, candidate.2 + 1)
  else none

/-- The loop over `report.keycodes`; the flag is `report_contains_keycode`. -/
def addKeycodes : List UInt8 → Candidate × Bool → Option (Candidate × Bool)
  | [], found => some found
  | keycode :: rest, (candidate, contains) =>
    if keycode = 0 then addKeycodes rest (candidate, contains)
    else
      match addKeycode candidate keycode with
      | none => none
      | some candidate => addKeycodes rest (candidate, true)

def addReport (candidate : Candidate) (report : HidKeyboardReport) : Option Candidate :=
  let merged := { candidate.1 with
    modifier := candidate.1.modifier ||| report.modifier, appleFn := candidate.1.appleFn || report.appleFn }
  match addKeycodes report.keycodes.toList ((merged, candidate.2), false) with
  | none => none
  | some (candidate, contains) => if contains then some candidate else addKeycode candidate report.keycode

abbrev Reports : Type := Vector HidKeyboardReport keyboardStateSourceCount
abbrev Active : Type := Vector Bool keyboardStateSourceCount

/-- `compose` (held_keyboard_state.cpp:199). -/
def compose (reports : Reports) (active : Active) : Option HidKeyboardSnapshot :=
  ((List.finRange keyboardStateSourceCount).foldlM
    (fun candidate index => if active[index] = false then some candidate
      else addReport candidate reports[index])
    (({}, 0) : Candidate)).map Prod.fst

/-! ## The state by source -/

structure HeldKeyboardState where
  reports : Reports := .replicate keyboardStateSourceCount {}
  active : Active := .replicate keyboardStateSourceCount false
  current : HidKeyboardSnapshot := {}
  activeSourceCount : Nat := 0
deriving DecidableEq, Repr

namespace HeldKeyboardState

def empty (s : HeldKeyboardState) : Bool := s.activeSourceCount = 0

/-- What an applied change answers. -/
def applied (s t : HeldKeyboardState) (becameEmpty : Bool) : HeldKeyboardUpdate :=
  { status := .applied, snapshot := t.current, stateChanged := true,
    reportChanged := t.current ≠ s.current, becameEmpty }

/-- `HeldKeyboardState::press` (held_keyboard_state.cpp:56); a source is the number of its `InputId`. -/
def press (s : HeldKeyboardState) (source : Nat) (report : HidKeyboardReport) :
    HeldKeyboardUpdate × HeldKeyboardState :=
  if h : source < keyboardStateSourceCount then
    if report.usable = false then ({ status := .invalidReport, snapshot := s.current }, s)
    else if s.active[source] then ({ status := .noChange, snapshot := s.current }, s)
    else
      match compose (s.reports.set source report) (s.active.set source true) with
      | none => ({ status := .rollover, snapshot := s.current }, s)
      | some candidate =>
        let t : HeldKeyboardState :=
          { reports := s.reports.set source report, active := s.active.set source true, current := candidate
            activeSourceCount := s.activeSourceCount + 1 }
        (s.applied t false, t)
  else ({ status := .invalidSource, snapshot := s.current }, s)

/-- `HeldKeyboardState::release` (held_keyboard_state.cpp:104). -/
def release (s : HeldKeyboardState) (source : Nat) : HeldKeyboardUpdate × HeldKeyboardState :=
  if h : source < keyboardStateSourceCount then
    if s.active[source] = false then ({ status := .noChange, snapshot := s.current }, s)
    else
      match compose (s.reports.set source {}) (s.active.set source false) with
      | none => ({ status := .rollover, snapshot := s.current }, s)
      | some candidate =>
        let t : HeldKeyboardState :=
          { reports := s.reports.set source {}, active := s.active.set source false, current := candidate
            activeSourceCount := s.activeSourceCount - 1 }
        (s.applied t candidate.empty, t)
  else ({ status := .invalidSource, snapshot := s.current }, s)

/-- `HeldKeyboardState::clear` (held_keyboard_state.cpp:146). -/
def clear (s : HeldKeyboardState) : HeldKeyboardUpdate × HeldKeyboardState :=
  if s.activeSourceCount = 0 then ({ status := .noChange, snapshot := s.current }, s)
  else (s.applied {} true, {})

end HeldKeyboardState

/-! ## The loop as a bounded list -/

/-- The keys a report sends: its `keycodes`, or else its single `keycode`. -/
def HidKeyboardReport.usages (report : HidKeyboardReport) : List UInt8 :=
  if report.keycodes.toList.filter (· ≠ 0) = [] then [report.keycode].filter (· ≠ 0)
  else report.keycodes.toList.filter (· ≠ 0)

/-- Keys in the first cells, zeros behind them. -/
def padded (codes : List UInt8) : Vector UInt8 keycodeCount := .ofFn fun i => codes.getD i 0

theorem mem_padded {codes : List UInt8} (hfits : codes.length ≤ keycodeCount) {code : UInt8}
    (hcode : code ≠ 0) :
    code ∈ (padded codes).toList ↔ code ∈ codes := by
  rw [padded, Vector.toList_ofFn, List.mem_ofFn]
  constructor
  · rintro ⟨i, rfl⟩
    rw [List.getD_eq_getElem?_getD] at hcode ⊢
    cases hget : codes[i.val]? with
    | none => exact absurd (by rw [hget]; rfl) hcode
    | some x => exact List.mem_of_getElem? hget
  · intro hmem
    obtain ⟨i, hi, rfl⟩ := List.getElem_of_mem hmem
    exact ⟨⟨i, Nat.lt_of_lt_of_le hi hfits⟩, by simp [hi]⟩

theorem set_padded {codes : List UInt8} (h : codes.length < keycodeCount) (code : UInt8) :
    (padded codes).set codes.length code = padded (codes ++ [code]) := by
  ext i hi
  rw [Vector.getElem_set, padded, padded, Vector.getElem_ofFn, Vector.getElem_ofFn]
  by_cases heq : codes.length = i
  · subst heq
    simp
  · rw [if_neg heq]
    by_cases hlt : i < codes.length
    · simp [List.getElem?_append_left hlt]
    · have hnone : codes[i]? = none := List.getElem?_eq_none (by omega)
      have hnone' : (codes ++ [code])[i]? = none := List.getElem?_eq_none (by simp; omega)
      simp only [List.getD_eq_getElem?_getD, hnone, hnone']

theorem padded_nil : padded [] = .replicate keycodeCount 0 := by
  decide

/-- The candidate that holds the keys `codes`. -/
def candidateOf (modifier : UInt8) (appleFn : Bool) (codes : List UInt8) : Candidate :=
  ({ modifier, appleFn, keycodes := padded codes }, codes.length)

variable {modifier : UInt8} {appleFn : Bool} {codes : List UInt8}

theorem addKeycode_candidateOf (hfits : codes.length ≤ keycodeCount) {code : UInt8} (hcode : code ≠ 0) :
    addKeycode (candidateOf modifier appleFn codes) code
      = (insertNew keycodeCount codes code).map (candidateOf modifier appleFn) := by
  unfold addKeycode insertNew candidateOf
  simp only [hcode, false_or, mem_padded hfits hcode]
  by_cases hmem : code ∈ codes
  · rw [if_pos hmem, if_pos hmem]
    rfl
  · rw [if_neg hmem, if_neg hmem]
    by_cases hroom : codes.length < keycodeCount
    · rw [dif_pos hroom, if_neg (by omega), set_padded hroom]
      simp
    · rw [dif_neg hroom, if_pos (by omega)]
      rfl

theorem addKeycodes_candidateOf (keycodes : List UInt8) (contains : Bool) (hnodup : codes.Nodup)
    (hfits : codes.length ≤ keycodeCount) :
    addKeycodes keycodes (candidateOf modifier appleFn codes, contains)
      = (insertAll keycodeCount codes (keycodes.filter (· ≠ 0))).map
          fun out =>
            (candidateOf modifier appleFn out, contains || !(keycodes.filter (· ≠ 0)).isEmpty) := by
  induction keycodes generalizing codes contains with
  | nil => simp [addKeycodes]
  | cons keycode rest ih =>
    rw [addKeycodes]
    by_cases hzero : keycode = 0
    · subst hzero
      rw [if_pos rfl, ih _ hnodup hfits]
      rfl
    · rw [if_neg hzero, addKeycode_candidateOf hfits hzero,
        List.filter_cons_of_pos (by simpa using hzero), insertAll_cons]
      cases hinsert : insertNew keycodeCount codes keycode with
      | none => rfl
      | some codes' =>
        have hall : insertAll keycodeCount codes [keycode] = some codes' := by
          rw [insertAll_cons, hinsert]
          rfl
        obtain ⟨hnodup', hfits', -⟩ := insertAll_eq_some hnodup hfits hall
        simp only [Option.map_some, Option.bind_some]
        rw [ih true hnodup' hfits']
        simp

theorem addReport_candidateOf (report : HidKeyboardReport) (hnodup : codes.Nodup)
    (hfits : codes.length ≤ keycodeCount) :
    addReport (candidateOf modifier appleFn codes) report
      = (insertAll keycodeCount codes report.usages).map
          (candidateOf (modifier ||| report.modifier) (appleFn || report.appleFn)) := by
  have hkeycodes :=
    @addKeycodes_candidateOf (modifier ||| report.modifier) (appleFn || report.appleFn) codes
    report.keycodes.toList false hnodup hfits
  rw [Bool.false_or] at hkeycodes
  unfold addReport
  simp only
  change (match addKeycodes _
    (candidateOf (modifier ||| report.modifier) (appleFn || report.appleFn) codes, false) with
    | none => none
    | some (candidate, contains) =>
      if contains then some candidate else addKeycode candidate report.keycode) = _
  rw [hkeycodes, HidKeyboardReport.usages]
  by_cases hnone : report.keycodes.toList.filter (· ≠ 0) = []
  · rw [if_pos hnone, hnone]
    by_cases hzero : report.keycode = 0
    · simp [hzero, addKeycode]
    · rw [List.filter_cons_of_pos (by simpa using hzero)]
      simp only [insertAll_nil, Option.map_some, List.isEmpty_nil,
        Bool.not_true, Bool.false_eq_true, if_false]
      rw [addKeycode_candidateOf hfits hzero, List.filter_nil, insertAll_cons]
      cases insertNew keycodeCount codes report.keycode <;> rfl
  · rw [if_neg hnone]
    cases insertAll keycodeCount codes (report.keycodes.toList.filter (· ≠ 0)) with
    | none => rfl
    | some out =>
      have hsome : (report.keycodes.toList.filter (· ≠ 0)).isEmpty = false := by simpa using hnone
      simp only [Option.map_some, hsome, Bool.not_false, if_true]

/-! ## The union of what is held -/

/-- What the held sources send, in the order of the sources. -/
def heldReports (reports : Reports) (active : Active) : List HidKeyboardReport :=
  (List.finRange keyboardStateSourceCount).filterMap fun index =>
    if active[index] = false then none else some reports[index]

def modifiersOf (held : List HidKeyboardReport) : UInt8 :=
  held.foldl (fun modifier report => modifier ||| report.modifier) 0

def appleFnOf (held : List HidKeyboardReport) : Bool := held.any (·.appleFn)

theorem mem_heldReports {reports : Reports} {active : Active} {report : HidKeyboardReport} :
    report ∈ heldReports reports active ↔ ∃ i : Fin keyboardStateSourceCount, active[i] = true ∧
    reports[i] = report := by
  simp [heldReports]

/-- The loop over the sources, from a candidate of its own form. -/
theorem foldlM_addReport (held : List HidKeyboardReport) (hnodup : codes.Nodup)
    (hfits : codes.length ≤ keycodeCount) :
    held.foldlM addReport (candidateOf modifier appleFn codes)
      = (insertAll keycodeCount codes (held.flatMap (·.usages))).map
          (candidateOf (held.foldl (fun modifier report => modifier ||| report.modifier) modifier)
            (appleFn || held.any (·.appleFn))) := by
  induction held generalizing modifier appleFn codes with
  | nil => simp
  | cons report rest ih =>
    rw [List.foldlM_cons, addReport_candidateOf report hnodup hfits, List.flatMap_cons, insertAll_append]
    cases hinsert : insertAll keycodeCount codes report.usages with
    | none => rfl
    | some out =>
      obtain ⟨hnodup', hfits', -⟩ := insertAll_eq_some hnodup hfits hinsert
      simp only [Option.map_some, Option.bind_some, Option.bind_eq_bind]
      rw [ih hnodup' hfits', List.foldl_cons, List.any_cons, Bool.or_assoc]

/-- `compose` collects the keys of the held reports, each once, and fails if there are more than six. -/
theorem compose_eq (reports : Reports) (active : Active) :
    compose reports active
      = (insertAll keycodeCount [] ((heldReports reports active).flatMap (·.usages))).map fun codes =>
          { modifier := modifiersOf (heldReports reports active),
            appleFn := appleFnOf (heldReports reports active)
            keycodes := padded codes } := by
  have hskip (indices : List (Fin keyboardStateSourceCount)) (candidate : Candidate) :
      indices.foldlM (fun candidate index => if active[index] = false then some candidate
        else addReport candidate reports[index])
          candidate
        = (indices.filterMap fun index => if active[index] = false then none
          else some reports[index]).foldlM addReport
            candidate := by
    induction indices generalizing candidate with
    | nil => rfl
    | cons index rest ih =>
      by_cases hactive : active[index] = false
      · rw [List.foldlM_cons, if_pos hactive, List.filterMap_cons_none (by rw [if_pos hactive])]
        exact ih candidate
      · rw [List.foldlM_cons, if_neg hactive,
          List.filterMap_cons_some (by rw [if_neg hactive]), List.foldlM_cons]
        cases addReport candidate reports[index] with
        | none => rfl
        | some candidate' => exact ih candidate'
  have hstart : (({}, 0) : Candidate) = candidateOf 0 false [] := by
    rw [candidateOf, padded_nil]
    rfl
  have hloop := @foldlM_addReport 0 false [] (heldReports reports active) List.nodup_nil (Nat.zero_le _)
  rw [Bool.false_or] at hloop
  rw [compose, hskip, hstart, show (List.filterMap _ _) = heldReports reports active from
    rfl, hloop, Option.map_map]
  rfl

/-- The snapshot is the union of the reports: their modifiers, the fn key, and at most six keys,
each once. -/
structure HidKeyboardSnapshot.UnionOf (snapshot : HidKeyboardSnapshot)
    (held : List HidKeyboardReport) : Prop where
  modifier : snapshot.modifier = modifiersOf held
  appleFn : snapshot.appleFn = appleFnOf held
  keycodes : ∀ code ≠ 0, code ∈ snapshot.keycodes.toList ↔ ∃ report ∈ held, code ∈ report.usages
  nodup : (snapshot.keycodes.toList.filter (· ≠ 0)).Nodup

theorem zero_notMem_usages (report : HidKeyboardReport) : 0 ∉ report.usages := by
  unfold HidKeyboardReport.usages
  split <;> simp

/-- The cells of a padded list without its zeros are the list. -/
theorem filter_padded (hfits : codes.length ≤ keycodeCount) (hzero : 0 ∉ codes) :
    (padded codes).toList.filter (· ≠ 0) = codes := by
  have hsplit : (padded codes).toList = codes ++ List.replicate (keycodeCount - codes.length) 0 := by
    rw [padded, Vector.toList_ofFn]
    ext1 i
    rw [List.getElem?_ofFn, List.getElem?_append]
    by_cases hi : i < codes.length
    · simp [hi, Nat.lt_of_lt_of_le hi hfits]
    · have hnone : codes[i]? = none := List.getElem?_eq_none (by omega)
      rw [if_neg hi, List.getElem?_replicate]
      by_cases hcell : i < keycodeCount
      · rw [dif_pos hcell, if_pos (by omega), List.getD_eq_getElem?_getD, hnone]
        rfl
      · rw [dif_neg hcell, if_neg (by omega)]
  rw [hsplit, List.filter_append, List.filter_eq_self.mpr]
  · rw [List.filter_eq_nil_iff.mpr, List.append_nil]
    intro code hcode
    simp [List.eq_of_mem_replicate hcode]
  · intro code hcode
    have hne : code ≠ 0 := fun heq => hzero (heq ▸ hcode)
    simpa using hne

theorem unionOf_of_compose {reports : Reports} {active : Active} {snapshot : HidKeyboardSnapshot}
    (h : compose reports active = some snapshot) : snapshot.UnionOf (heldReports reports active) := by
  rw [compose_eq, Option.map_eq_some_iff] at h
  obtain ⟨codes, hcodes, rfl⟩ := h
  obtain ⟨hnodup, hfits, hmem⟩ := insertAll_eq_some List.nodup_nil (Nat.zero_le _) hcodes
  have hzero : 0 ∉ codes := by
    rw [hmem, List.mem_flatMap]
    rintro (hnil | ⟨report, -, husage⟩)
    · cases hnil
    · exact zero_notMem_usages report husage
  refine ⟨rfl, rfl, fun code hcode => ?_, ?_⟩
  · rw [mem_padded hfits hcode, hmem, List.mem_flatMap]
    simp
  · rw [filter_padded hfits hzero]
    exact hnodup

/-- With fewer held reports the keys still fit. -/
theorem isSome_compose_of_subset {reports reports' : Reports} {active active' : Active}
    (hsub : heldReports reports' active' ⊆ heldReports reports active)
    (h : (compose reports active).isSome = true) :
    (compose reports' active').isSome = true := by
  rw [compose_eq, Option.isSome_map] at h ⊢
  refine isSome_insertAll_of_subset ?_ h
  intro code hcode
  rw [List.mem_flatMap] at hcode ⊢
  obtain ⟨report, hreport, husage⟩ := hcode
  exact ⟨report, hsub hreport, husage⟩

/-! ## The invariant -/

namespace HeldKeyboardState

/-- The snapshot is composed of what is held, and the counter counts the held sources. -/
structure Sound (s : HeldKeyboardState) : Prop where
  composed : compose s.reports s.active = some s.current
  counted : s.activeSourceCount = s.active.count true

theorem sound_start : Sound {} := ⟨by decide, by decide⟩

variable {s : HeldKeyboardState}

/-- No source is held, by the counter and by the table. -/
theorem Sound.empty_iff (h : s.Sound) : s.empty = true ↔ heldReports s.reports s.active = [] := by
  have hcount : s.activeSourceCount = 0 ↔ ∀ i : Fin keyboardStateSourceCount, s.active[i] = false := by
    rw [h.counted, Vector.count_eq_zero]
    constructor
    · intro hnot i
      rw [← Bool.not_eq_true]
      intro htrue
      exact hnot (htrue ▸ Vector.getElem_mem i.isLt)
    · intro hall hmem
      obtain ⟨i, hi, htrue⟩ := Vector.getElem_of_mem hmem
      have hfalse := hall ⟨i, hi⟩
      rw [Fin.getElem_fin, htrue] at hfalse
      cases hfalse
  rw [HeldKeyboardState.empty, decide_eq_true_iff, hcount, List.eq_nil_iff_forall_not_mem]
  constructor
  · intro hall report hmem
    obtain ⟨i, htrue, -⟩ := mem_heldReports.mp hmem
    rw [hall i] at htrue
    cases htrue
  · intro hnone i
    rw [← Bool.not_eq_true]
    intro htrue
    exact hnone _ (mem_heldReports.mpr ⟨i, htrue, rfl⟩)

/-- With no source held the snapshot is the empty one. -/
theorem Sound.current_of_empty (h : s.Sound) (hempty : s.empty = true) : s.current = {} := by
  have hcomposed := h.composed
  rw [compose_eq, h.empty_iff.mp hempty, List.flatMap_nil,
    insertAll_nil, Option.map_some, padded_nil] at hcomposed
  exact (Option.some.inj hcomposed).symm

theorem Sound.press (h : s.Sound) (source : Nat) (report : HidKeyboardReport) :
    (s.press source report).2.Sound := by
  unfold HeldKeyboardState.press
  split
  · rename_i hsource
    split
    · exact h
    · split
      · exact h
      · rename_i hidle
        split
        · exact h
        · rename_i candidate hcompose
          refine ⟨hcompose, ?_⟩
          show s.activeSourceCount + 1 = _
          rw [h.counted, Vector.count_set]
          simp [hidle]
  · exact h

theorem Sound.release (h : s.Sound) (source : Nat) : (s.release source).2.Sound := by
  unfold HeldKeyboardState.release
  split
  · rename_i hsource
    split
    · exact h
    · rename_i hactive
      split
      · exact h
      · rename_i candidate hcompose
        refine ⟨hcompose, ?_⟩
        show s.activeSourceCount - 1 = _
        rw [h.counted, Vector.count_set]
        simp [hactive]
  · exact h

theorem Sound.clear (h : s.Sound) : s.clear.2.Sound := by
  unfold HeldKeyboardState.clear
  split
  · exact h
  · exact sound_start

/-- A release never finds too many keys: what stays held fitted before. -/
theorem Sound.release_ne_rollover (h : s.Sound) (source : Nat) :
    (s.release source).1.status ≠ .rollover := by
  unfold HeldKeyboardState.release
  split
  · rename_i hsource
    split
    · nofun
    · split
      · rename_i hnone
        have hsub :
          heldReports (s.reports.set source {})
          (s.active.set source false) ⊆ heldReports s.reports s.active := by
          intro report hreport
          obtain ⟨i, hactive, rfl⟩ := mem_heldReports.mp hreport
          simp only [Fin.getElem_fin, Vector.getElem_set] at hactive ⊢
          split at hactive
          · cases hactive
          · rename_i hne
            rw [if_neg hne]
            exact mem_heldReports.mpr ⟨i, hactive, rfl⟩
        have hsome := isSome_compose_of_subset hsub (by rw [h.composed]; rfl)
        rw [hnone] at hsome
        cases hsome
      · nofun
  · nofun

/-- What a call does: it is applied, or changes nothing. -/
inductive UpdateEffect (s : HeldKeyboardState) : HeldKeyboardUpdate × HeldKeyboardState → Prop where
  | refused (update : HeldKeyboardUpdate) (hunchanged : update.stateChanged = false) :
    UpdateEffect s (update, s)
  | applied (t : HeldKeyboardState) (becameEmpty : Bool) : UpdateEffect s (s.applied t becameEmpty, t)

theorem press_effect (s : HeldKeyboardState) (source : Nat) (report : HidKeyboardReport) :
    UpdateEffect s (s.press source report) := by
  unfold HeldKeyboardState.press
  split
  · split
    · exact .refused _ rfl
    · split
      · exact .refused _ rfl
      · split
        · exact .refused _ rfl
        · exact .applied _ _
  · exact .refused _ rfl

theorem release_effect (s : HeldKeyboardState) (source : Nat) : UpdateEffect s (s.release source) := by
  unfold HeldKeyboardState.release
  split
  · split
    · exact .refused _ rfl
    · split
      · exact .refused _ rfl
      · exact .applied _ _
  · exact .refused _ rfl

/-- The snapshot is the union of what is held. -/
theorem Sound.union (h : s.Sound) : s.current.UnionOf (heldReports s.reports s.active) :=
  unionOf_of_compose h.composed

end HeldKeyboardState

/-! ## Which source holds what -/

/-- The report that each source holds down. -/
abbrev Holding : Type := Fin keyboardStateSourceCount → Option HidKeyboardReport

namespace Holding

def put (holding : Holding) (source : Nat) (held : Option HidKeyboardReport) : Holding := fun i =>
  if i.val = source then held else holding i

def reports (holding : Holding) : List HidKeyboardReport :=
  (List.finRange keyboardStateSourceCount).filterMap holding

/-- There are no more than six different keys. -/
def Fits (holding : Holding) : Prop := (holding.reports.flatMap (·.usages)).toFinset.card ≤ keycodeCount

/-- A source of the keyboard that holds nothing down. -/
def Idle (holding : Holding) (source : Nat) : Prop :=
  ∃ h : source < keyboardStateSourceCount, holding ⟨source, h⟩ = none

/-- A press is taken when its report has something to send, its source is idle and the keys fit. -/
def Takes (holding : Holding) (source : Nat) (report : HidKeyboardReport) : Prop :=
  report.usable = true ∧ holding.Idle source ∧ (holding.put source (some report)).Fits

instance (holding : Holding) : Decidable holding.Fits := inferInstanceAs (Decidable (_ ≤ _))

instance (holding : Holding) (source : Nat) : Decidable (holding.Idle source) :=
  inferInstanceAs (Decidable (∃ _, _))

instance (holding : Holding) (source : Nat) (report : HidKeyboardReport) :
    Decidable (holding.Takes source report) :=
  inferInstanceAs (Decidable (_ ∧ _))

def press (holding : Holding) (source : Nat) (report : HidKeyboardReport) : Holding :=
  if holding.Takes source report then holding.put source (some report) else holding

def release (holding : Holding) (source : Nat) : Holding := holding.put source none

theorem put_of_idle {holding : Holding} {source : Nat} (h : ∀ i, i.val = source → holding i = none) :
    holding.put source none = holding := by
  funext i
  rw [put]
  split
  · rename_i hi
    exact (h i hi).symm
  · rfl

end Holding

namespace HeldKeyboardState

/-- What the tables say that the sources hold. -/
def holding (s : HeldKeyboardState) : Holding :=
  fun i => if s.active[i] = false then none else some s.reports[i]

theorem reports_holding (s : HeldKeyboardState) : s.holding.reports = heldReports s.reports s.active := rfl

theorem isSome_compose_iff (s : HeldKeyboardState) :
    (compose s.reports s.active).isSome = true ↔ s.holding.Fits := by
  rw [compose_eq, Option.isSome_map, isSome_insertAll List.nodup_nil (Nat.zero_le _), List.toFinset_nil,
    Finset.empty_union]
  rfl

variable {s : HeldKeyboardState} {source : Nat}

theorem idle_iff (h : source < keyboardStateSourceCount) :
    s.holding.Idle source ↔ s.active[source] = false := by
  rw [Holding.Idle, exists_prop_of_true h, holding, Fin.getElem_fin]
  split
  · simp_all
  · simp_all

theorem holding_set_press (h : source < keyboardStateSourceCount) (report : HidKeyboardReport)
    (current : HidKeyboardSnapshot)
    (count : Nat) : holding ⟨s.reports.set source report, s.active.set source true, current, count⟩ =
      s.holding.put source (some report) := by
  funext i
  simp only [holding, Holding.put, Fin.getElem_fin, Vector.getElem_set]
  by_cases hi : source = i.val
  · simp [hi]
  · rw [if_neg hi, if_neg hi, if_neg (Ne.symm hi)]

theorem holding_set_release (h : source < keyboardStateSourceCount) (current : HidKeyboardSnapshot)
    (count : Nat) :
    holding ⟨s.reports.set source {}, s.active.set source false, current, count⟩ =
      s.holding.put source none := by
  funext i
  simp only [holding, Holding.put, Fin.getElem_fin, Vector.getElem_set]
  by_cases hi : source = i.val
  · simp [hi]
  · rw [if_neg hi, if_neg hi, if_neg (Ne.symm hi)]

/-- `press` answers whether the press is taken, and the tables change with it. -/
theorem press_spec (s : HeldKeyboardState) (source : Nat) (report : HidKeyboardReport) :
    (s.press source report).2.holding = s.holding.press source report ∧
      ((s.press source report).1.status = .applied ↔ s.holding.Takes source report) ∧
      ((s.press source report).1.status = .rollover ↔
        report.usable = true ∧ s.holding.Idle source ∧ ¬ (s.holding.put source (some report)).Fits) := by
  simp only [Holding.press, Holding.Takes]
  unfold HeldKeyboardState.press
  by_cases hsource : source < keyboardStateSourceCount
  · have hidle := @idle_iff s source hsource
    rw [dif_pos hsource]
    by_cases husable : report.usable = false
    · rw [if_pos husable]
      simp [husable]
    · rw [if_neg husable]
      by_cases hactive : s.active[source] = true
      · rw [if_pos hactive]
        simp [hidle, hactive]
      · rw [if_neg hactive]
        have hfits := isSome_compose_iff ⟨s.reports.set source report, s.active.set source true, {}, 0⟩
        rw [holding_set_press hsource] at hfits
        dsimp only at hfits
        rw [Bool.not_eq_true] at hactive
        rw [Bool.not_eq_false] at husable
        cases hcompose : compose (s.reports.set source report) (s.active.set source true) with
        | none =>
          have hover : ¬ (s.holding.put source (some report)).Fits := by
            rw [← hfits, hcompose]
            exact Bool.noConfusion
          simp [husable, hidle, hactive, hover]
        | some candidate =>
          have hroom : (s.holding.put source (some report)).Fits := by
            rw [← hfits, hcompose]
            rfl
          simp [husable, hidle, hactive, hroom, holding_set_press hsource, applied]
  · rw [dif_neg hsource]
    have hidle : ¬ s.holding.Idle source := fun hidle => hsource hidle.1
    simp [hidle]

/-- `release` frees its source, and answers whether it was held. -/
theorem Sound.release_spec (h : s.Sound) (source : Nat) :
    (s.release source).2.holding = s.holding.release source ∧
      ((s.release source).1.status = .applied ↔
        source < keyboardStateSourceCount ∧ ¬ s.holding.Idle source) := by
  have hfits := h.release_ne_rollover source
  rw [Holding.release]
  unfold HeldKeyboardState.release at hfits ⊢
  by_cases hsource : source < keyboardStateSourceCount
  · rw [dif_pos hsource] at hfits ⊢
    rw [idle_iff hsource]
    by_cases hactive : s.active[source] = false
    · rw [if_pos hactive]
      have hidle : ∀ i : Fin keyboardStateSourceCount, i.val = source → s.holding i = none := by
        rintro i rfl
        exact if_pos hactive
      simp [hactive, Holding.put_of_idle hidle]
    · rw [if_neg hactive] at hfits ⊢
      cases hcompose : compose (s.reports.set source {}) (s.active.set source false) with
      | none =>
        rw [hcompose] at hfits
        exact absurd rfl hfits
      | some candidate => simp [hactive, hsource, holding_set_release hsource, applied]
  · rw [dif_neg hsource]
    have hnone : ∀ i : Fin keyboardStateSourceCount, i.val = source → s.holding i = none := by
      rintro i rfl
      exact absurd i.isLt hsource
    simp [hsource, Holding.put_of_idle hnone]

theorem Sound.holding_clear (h : s.Sound) : s.clear.2.holding = fun _ => none := by
  unfold HeldKeyboardState.clear
  split
  · rename_i hnone
    have hempty : s.holding.reports = [] := h.empty_iff.mp (decide_eq_true hnone)
    rw [Holding.reports, List.filterMap_eq_nil_iff] at hempty
    funext i
    exact hempty i (List.mem_finRange i)
  · funext i
    simp [holding]

end HeldKeyboardState

end CodexKeyboard.Keyboard
