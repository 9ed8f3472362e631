import Mathlib.Data.List.Basic
/-!
# Bounded capture of a text

`BoundedCapture::Text` (rollout_observer.rs:1370-1421) keeps the beginning and the end of a long
text. A scalar goes to the head if it still fits and to the tail otherwise, so a narrow scalar can
overtake a wide one at the limit of the head: `capture_keeps_order` says when none does. A text is
the list of its scalars; `push` gets one scalar at a time (`feed`, `feed_raw_utf8` and
`push_scalar`, rollout_observer.rs:1447-1567).

| here | there |
| --- | --- |
| `TextCapture.push`, `evict` | `BoundedCapture::push` (rollout_observer.rs:1385-1401) |
| `TextCapture.finish` | `BoundedCapture::finish` (rollout_observer.rs:1416-1432) |
-/

namespace CodexKeyboard.Observer

def maxTextBytes : Nat := 12 * 1024

/-- `MARKER`. -/
def truncationMarker : List Char := ['\n', '[', 't', 'r', 'u', 'n', 'c', 'a', 't', 'e', 'd', ']', '\n']

/-- The bytes of a text. -/
def utf8Len : List Char → Nat
  | [] => 0
  | c :: cs => c.utf8Size + utf8Len cs

@[simp] theorem utf8Len_nil : utf8Len [] = 0 := rfl

@[simp] theorem utf8Len_cons (c : Char) (cs : List Char) :
    utf8Len (c :: cs) = c.utf8Size + utf8Len cs := rfl

@[simp] theorem utf8Len_append (cs ds : List Char) : utf8Len (cs ++ ds) = utf8Len cs + utf8Len ds := by
  induction cs with
  | nil => simp
  | cons c cs ih => rw [List.cons_append, utf8Len_cons, utf8Len_cons, ih, Nat.add_assoc]

theorem utf8Len_eq_zero {cs : List Char} : utf8Len cs = 0 ↔ cs = [] := by
  cases cs with
  | nil => simp
  | cons c cs =>
    have hpos := c.utf8Size_pos
    simp only [utf8Len_cons, reduceCtorEq, iff_false]
    omega

def headLimit : Nat := (maxTextBytes - utf8Len truncationMarker) / 3
def tailLimit : Nat := maxTextBytes - utf8Len truncationMarker - headLimit

/-- `BoundedCapture::Text`. -/
structure TextCapture where
  head : List Char := []
  tail : List Char := []
  tailBytes : Nat := 0
  total : Nat := 0
deriving DecidableEq, Repr

/-- `while *tail_bytes > tail_limit { tail.pop_front() }`. -/
def evict : List Char → Nat → List Char × Nat
  | [], tailBytes => ([], tailBytes)
  | c :: tail, tailBytes =>
    if tailBytes > tailLimit then evict tail (tailBytes - c.utf8Size) else (c :: tail, tailBytes)

namespace TextCapture

/-- `push`. -/
def push (s : TextCapture) (c : Char) : TextCapture :=
  if utf8Len s.head + c.utf8Size ≤ headLimit then
    { s with head := s.head ++ [c], total := s.total + c.utf8Size }
  else
    let kept := evict (s.tail ++ [c]) (s.tailBytes + c.utf8Size)
    { s with tail := kept.1, tailBytes := kept.2, total := s.total + c.utf8Size }

/-- `finish`. -/
def finish (s : TextCapture) : List Char :=
  s.head ++ (if s.total > utf8Len s.head + utf8Len s.tail then truncationMarker else []) ++ s.tail

end TextCapture

/-- The capture of a text. -/
def capture (text : List Char) : TextCapture := text.foldl TextCapture.push {}

/-! ## Where the scalars go -/

/-- The longest beginning of a text that fits. -/
def fitting : Nat → List Char → List Char
  | _, [] => []
  | room, c :: cs => if c.utf8Size ≤ room then c :: fitting (room - c.utf8Size) cs else []

/-- The scalars that go to the head after `head`, and those that do not. -/
def placed : List Char → List Char → List Char × List Char
  | head, [] => (head, [])
  | head, c :: cs =>
    if utf8Len head + c.utf8Size ≤ headLimit then placed (head ++ [c]) cs
    else ((placed head cs).1, c :: (placed head cs).2)

theorem evict_spec (tail : List Char) : ∃ dropped, tail = dropped ++ (evict tail (utf8Len tail)).1 ∧
    (evict tail (utf8Len tail)).2 = utf8Len (evict tail (utf8Len tail)).1 ∧
    (dropped = [] ↔ utf8Len tail ≤ tailLimit) := by
  induction tail with
  | nil => exact ⟨[], by simp [evict]⟩
  | cons c tail ih =>
    rw [evict]
    by_cases hlong : utf8Len (c :: tail) > tailLimit
    · rw [if_pos hlong, utf8Len_cons, Nat.add_sub_cancel_left]
      obtain ⟨dropped, htail, hbytes, -⟩ := ih
      refine ⟨c :: dropped, ?_, hbytes, ?_⟩
      · rw [List.cons_append, ← htail]
      · rw [utf8Len_cons] at hlong
        simp only [reduceCtorEq, false_iff]
        omega
    · rw [if_neg hlong]
      exact ⟨[], rfl, rfl, by simp only [true_iff]; omega⟩

/-- What the capture is after `text`: the tail is the end of what did not go to the head. -/
structure Holds (text : List Char) (s : TextCapture) : Prop where
  head : s.head = (placed [] text).1
  tail : ∃ dropped, (placed [] text).2 = dropped ++ s.tail ∧
    (dropped = [] ↔ utf8Len (placed [] text).2 ≤ tailLimit)
  tailBytes : s.tailBytes = utf8Len s.tail
  total : s.total = utf8Len text

theorem placed_concat (c : Char) : ∀ (head text : List Char), placed head (text ++ [c]) =
    if utf8Len (placed head text).1 + c.utf8Size ≤ headLimit then
      ((placed head text).1 ++ [c], (placed head text).2)
    else ((placed head text).1, (placed head text).2 ++ [c])
  | head, [] => by
    rw [List.nil_append, placed, placed]
    by_cases hfits : utf8Len head + c.utf8Size ≤ headLimit
    · rw [if_pos hfits, if_pos hfits, placed]
    · rw [if_neg hfits, if_neg hfits, placed]
      rfl
  | head, d :: text => by
    rw [List.cons_append, placed, placed]
    by_cases hfits : utf8Len head + d.utf8Size ≤ headLimit
    · rw [if_pos hfits, if_pos hfits]
      exact placed_concat c _ text
    · rw [if_neg hfits, if_neg hfits, placed_concat c head text]
      split <;> rfl

theorem Holds.push {text : List Char} {s : TextCapture} (h : Holds text s) (c : Char) :
    Holds (text ++ [c]) (s.push c) := by
  obtain ⟨dropped, hsplit, hdropped⟩ := h.tail
  have hplaced := placed_concat c [] text
  rw [← h.head] at hplaced
  rw [TextCapture.push]
  by_cases hfits : utf8Len s.head + c.utf8Size ≤ headLimit
  · rw [if_pos hfits] at hplaced ⊢
    refine ⟨?_, ⟨dropped, ?_, ?_⟩, h.tailBytes, ?_⟩
    · rw [hplaced]
    · rw [hplaced]
      exact hsplit
    · rw [hplaced]
      exact hdropped
    · simp [h.total]
  · rw [if_neg hfits] at hplaced ⊢
    obtain ⟨evicted, htail, hbytes, hevicted⟩ := evict_spec (s.tail ++ [c])
    rw [utf8Len_append, utf8Len_cons, utf8Len_nil, Nat.add_zero, ← h.tailBytes] at htail hbytes hevicted
    refine ⟨?_, ⟨dropped ++ evicted, ?_, ?_⟩, hbytes, ?_⟩
    · rw [hplaced]
    · rw [hplaced]
      show (placed [] text).2 ++ [c] = dropped ++ evicted ++
        (evict (s.tail ++ [c]) (s.tailBytes + c.utf8Size)).1
      rw [List.append_assoc, ← htail, hsplit, List.append_assoc]
    · rw [hplaced, List.append_eq_nil_iff, hdropped, hevicted, h.tailBytes]
      have hlen := congrArg utf8Len hsplit
      simp only [utf8Len_append, utf8Len_cons, utf8Len_nil] at hlen ⊢
      constructor
      · rintro ⟨hold, hnew⟩
        have hnone := hdropped.2 hold
        rw [hnone, utf8Len_nil] at hlen
        omega
      · intro hall
        constructor <;> omega
    · simp [h.total]

theorem holds_capture (text : List Char) : Holds text (capture text) := by
  have hrun : ∀ (rest seen : List Char) (s : TextCapture), Holds seen s →
      Holds (seen ++ rest) (rest.foldl TextCapture.push s) := by
    intro rest
    induction rest with
    | nil =>
      intro seen s h
      rw [List.append_nil]
      exact h
    | cons c rest ih =>
      intro seen s h
      have hnext := ih _ _ (h.push c)
      rw [List.append_assoc, List.singleton_append] at hnext
      exact hnext
  exact hrun text [] {} ⟨rfl, ⟨[], rfl, by simp [placed]⟩, rfl, rfl⟩

theorem utf8Len_placed (rest : List Char) : ∀ head,
    utf8Len (placed head rest).1 + utf8Len (placed head rest).2 = utf8Len head + utf8Len rest := by
  induction rest with
  | nil =>
    intro head
    rfl
  | cons c rest ih =>
    intro head
    rw [placed]
    split
    · rw [ih, utf8Len_append, utf8Len_cons, utf8Len_nil, utf8Len_cons]
      omega
    · have hrest := ih head
      simp only [utf8Len_cons]
      omega

/-- The marker stands where something was evicted. -/
theorem Holds.finish {text : List Char} {s : TextCapture} (h : Holds text s) {dropped : List Char}
    (hsplit : (placed [] text).2 = dropped ++ s.tail) :
    s.finish = s.head ++ (if dropped = [] then [] else truncationMarker) ++ s.tail := by
  have hlen := utf8Len_placed text []
  rw [← h.head, hsplit, utf8Len_append, utf8Len_nil, Nat.zero_add] at hlen
  rw [TextCapture.finish, h.total]
  by_cases hnone : dropped = []
  · rw [if_pos hnone, if_neg]
    rw [hnone, utf8Len_nil] at hlen
    omega
  · rw [if_neg hnone, if_pos]
    have hpos : utf8Len dropped ≠ 0 := fun hzero => hnone (utf8Len_eq_zero.1 hzero)
    omega

/-! ## When the order is kept -/

theorem fitting_append_drop (text : List Char) :
    ∀ room, fitting room text ++ text.drop (fitting room text).length = text := by
  induction text with
  | nil => intro room; rfl
  | cons c text ih =>
    intro room
    rw [fitting]
    by_cases hfits : c.utf8Size ≤ room
    · rw [if_pos hfits, List.cons_append, List.length_cons, List.drop_succ_cons, ih]
    · rw [if_neg hfits]
      rfl

theorem utf8Len_fitting_le (text : List Char) : ∀ room, utf8Len (fitting room text) ≤ room := by
  induction text with
  | nil => intro room; exact Nat.zero_le _
  | cons c text ih =>
    intro room
    rw [fitting]
    by_cases hfits : c.utf8Size ≤ room
    · rw [if_pos hfits, utf8Len_cons]
      have hrest := ih (room - c.utf8Size)
      omega
    · rw [if_neg hfits]
      exact Nat.zero_le _

/-- The scalar after the longest beginning that fits does not fit. -/
theorem fitting_stops (text : List Char) : ∀ room c rest, text.drop (fitting room text).length = c :: rest →
    room < utf8Len (fitting room text) + c.utf8Size := by
  induction text with
  | nil =>
    intro room c rest h
    cases h
  | cons d text ih =>
    intro room c rest h
    rw [fitting] at h ⊢
    by_cases hfits : d.utf8Size ≤ room
    · rw [if_pos hfits, List.length_cons, List.drop_succ_cons] at h
      have hrest := ih (room - d.utf8Size) c rest h
      rw [if_pos hfits, utf8Len_cons]
      omega
    · rw [if_neg hfits] at h ⊢
      obtain ⟨rfl, -⟩ := List.cons.inj h
      rw [utf8Len_nil]
      omega

/-- A beginning that fits goes to the head. -/
theorem placed_fitting (text : List Char) : ∀ head, utf8Len head ≤ headLimit → placed head text =
    placed (head ++ fitting (headLimit - utf8Len head) text)
      (text.drop (fitting (headLimit - utf8Len head) text).length) := by
  induction text with
  | nil =>
    intro head _
    simp [fitting]
  | cons c text ih =>
    intro head hhead
    rw [fitting]
    by_cases hfits : c.utf8Size ≤ headLimit - utf8Len head
    · have hroom : utf8Len (head ++ [c]) = utf8Len head + c.utf8Size := by simp
      rw [if_pos hfits, placed, if_pos (by omega), ih _ (by omega),
        hroom, List.length_cons, List.drop_succ_cons,
        List.append_assoc, List.singleton_append, Nat.sub_add_eq]
    · rw [if_neg hfits, List.append_nil]
      rfl

/-- Where nothing fits any more everything goes to the tail. -/
theorem placed_of_full {head rest : List Char} (h : ∀ c ∈ rest, headLimit < utf8Len head + c.utf8Size) :
    placed head rest = (head, rest) := by
  induction rest with
  | nil => rfl
  | cons c rest ih =>
    have hc := h c List.mem_cons_self
    rw [placed, if_neg (by omega), ih fun d hd => h d (List.mem_cons_of_mem _ hd)]

theorem prefix_placed (rest : List Char) : ∀ head, head <+: (placed head rest).1 := by
  induction rest with
  | nil =>
    intro head
    exact List.prefix_rfl
  | cons c rest ih =>
    intro head
    rw [placed]
    split
    · exact (List.prefix_append head [c]).trans (ih _)
    · exact ih head

/-- If some scalar still fits, the first one that does follows the head at once. -/
theorem placed_of_later {head rest : List Char} (h : ∃ c ∈ rest, utf8Len head + c.utf8Size ≤ headLimit) :
    ∃ c, utf8Len head + c.utf8Size ≤ headLimit ∧ head ++ [c] <+: (placed head rest).1 := by
  induction rest with
  | nil =>
    obtain ⟨c, hc, -⟩ := h
    cases hc
  | cons d rest ih =>
    rw [placed]
    by_cases hfits : utf8Len head + d.utf8Size ≤ headLimit
    · rw [if_pos hfits]
      exact ⟨d, hfits, prefix_placed rest _⟩
    · rw [if_neg hfits]
      apply ih
      obtain ⟨c, hc, hcfits⟩ := h
      rcases List.mem_cons.1 hc with rfl | hc
      · exact absurd hcfits hfits
      · exact ⟨c, hc, hcfits⟩

/-- What fits into the head, up to the first scalar that does not. -/
def beginning (text : List Char) : List Char := fitting headLimit text

/-- Nothing after the beginning fits, and a text that is short enough to be kept whole leaves no
more than the tail can hold. -/
def InOrder (text : List Char) : Prop :=
  (∀ c ∈ text.drop (beginning text).length, headLimit < utf8Len (beginning text) + c.utf8Size) ∧
  (utf8Len text ≤ maxTextBytes - utf8Len truncationMarker →
    utf8Len text ≤ utf8Len (beginning text) + tailLimit)

/-- The head is a beginning of the text, the tail an end of it, and the marker stands for what is
between them. -/
def OneGap (text : List Char) (s : TextCapture) : Prop :=
  ∃ middle, middle ≠ [] ∧ text = s.head ++ middle ++ s.tail ∧
  s.finish = s.head ++ truncationMarker ++ s.tail

variable {text : List Char}

theorem placed_beginning (text : List Char) :
    placed [] text = placed (beginning text) (text.drop (beginning text).length) :=
  placed_fitting text [] (Nat.zero_le _)

/-- A scalar that overtakes is narrower than the one it overtakes, so the head is no beginning of
the text. -/
theorem head_not_prefix (h : ∃ c ∈ text.drop (beginning text).length,
    utf8Len (beginning text) + c.utf8Size ≤ headLimit) :
    ¬ ∃ rest, text = (placed [] text).1 ++ rest := by
  rintro ⟨rest, htext⟩
  obtain ⟨c, hfits, more, hhead⟩ := placed_of_later h
  rw [placed_beginning, ← hhead] at htext
  have hdrop : text.drop (beginning text).length = c :: (more ++ rest) := by
    have hboth := (fitting_append_drop text headLimit).trans htext
    rw [List.append_assoc, List.append_assoc, List.singleton_append] at hboth
    exact List.append_cancel_left hboth
  have hstop := fitting_stops text headLimit c _ hdrop
  unfold beginning at hfits
  omega

theorem placed_of_inOrder (h : ∀ c ∈ text.drop (beginning text).length,
    headLimit < utf8Len (beginning text) + c.utf8Size) :
    placed [] text = (beginning text, text.drop (beginning text).length) := by
  rw [placed_beginning]
  exact placed_of_full h

/-- Every scalar that is left when the head is not full is wide; those of the marker are not. -/
theorem ne_marker {rest : List Char} (hroom : utf8Len (beginning text) < headLimit)
    (h : ∀ c ∈ rest, headLimit < utf8Len (beginning text) + c.utf8Size) : rest ≠ truncationMarker := by
  rintro rfl
  have hnewline := h '\n' List.mem_cons_self
  have hone : ('\n' : Char).utf8Size = 1 := rfl
  omega

/-- A scalar that overtakes spoils the text. -/
theorem not_kept_of_overtakes
    (h : ∃ c ∈ text.drop (beginning text).length, utf8Len (beginning text) + c.utf8Size ≤ headLimit) :
    (capture text).finish ≠ text ∧ ¬ OneGap text (capture text) := by
  have hholds := holds_capture text
  obtain ⟨dropped, hsplit, -⟩ := hholds.tail
  have hfinish := hholds.finish hsplit
  have hhead := head_not_prefix h
  rw [← hholds.head] at hhead
  constructor
  · intro hsame
    refine hhead ⟨(if dropped = [] then [] else truncationMarker) ++ (capture text).tail, ?_⟩
    rw [← List.append_assoc, ← hfinish, hsame]
  · rintro ⟨middle, -, htext, -⟩
    refine hhead ⟨middle ++ (capture text).tail, ?_⟩
    rw [← List.append_assoc]
    exact htext

/-- Without overtaking, what is left out is one piece. -/
theorem kept_of_full (h : ∀ c ∈ text.drop (beginning text).length,
    headLimit < utf8Len (beginning text) + c.utf8Size) :
    ∃ dropped, text = (capture text).head ++ dropped ++ (capture text).tail ∧
      (∀ c ∈ dropped, headLimit < utf8Len (beginning text) + c.utf8Size) ∧
      (dropped = [] ↔ utf8Len text ≤ utf8Len (beginning text) + tailLimit) ∧
      (capture text).finish =
        (capture text).head ++ (if dropped = [] then [] else truncationMarker) ++ (capture text).tail := by
  have hholds := holds_capture text
  obtain ⟨dropped, hsplit, hdropped⟩ := hholds.tail
  have hfinish := hholds.finish hsplit
  have hplaced := placed_of_inOrder h
  rw [hplaced] at hsplit hdropped
  dsimp only at hsplit hdropped
  have hjoined : beginning text ++ text.drop (beginning text).length = text :=
    fitting_append_drop text headLimit
  have hlen := congrArg utf8Len hjoined
  rw [utf8Len_append] at hlen
  refine ⟨dropped, ?_, ?_, ?_, hfinish⟩
  · rw [hholds.head, hplaced, List.append_assoc, ← hsplit]
    exact hjoined.symm
  · intro c hc
    apply h c
    rw [hsplit]
    exact List.mem_append_left _ hc
  · rw [hdropped]
    omega

/-- What is evicted of a short text is not the marker. -/
theorem evicted_ne_marker {dropped : List Char}
    (hshort : utf8Len text ≤ maxTextBytes - utf8Len truncationMarker)
    (hmore : utf8Len (beginning text) + tailLimit < utf8Len text)
    (h : ∀ c ∈ dropped, headLimit < utf8Len (beginning text) + c.utf8Size) :
    dropped ≠ truncationMarker := by
  have hlimits : maxTextBytes - utf8Len truncationMarker = headLimit + tailLimit := by decide
  exact ne_marker (by omega) h

/-- **Capture keeps the order.** `finish` gives a text of at most `MAX_TEXT_BYTES - 13` bytes back,
and of a longer one a beginning, the marker and an end, exactly when no scalar overtakes another and
the tail can hold what a short text leaves. -/
theorem capture_keeps_order (text : List Char) :
    (utf8Len text ≤ maxTextBytes - utf8Len truncationMarker →
      ((capture text).finish = text ↔ InOrder text)) ∧
    (maxTextBytes - utf8Len truncationMarker < utf8Len text →
      (OneGap text (capture text) ↔ InOrder text)) := by
  by_cases hovertakes :
    ∃ c ∈ text.drop (beginning text).length, utf8Len (beginning text) + c.utf8Size ≤ headLimit
  · have hnot : ¬ InOrder text := by
      rintro ⟨hfull, -⟩
      obtain ⟨c, hc, hfits⟩ := hovertakes
      have hwide := hfull c hc
      omega
    obtain ⟨hspoiled, hnoGap⟩ := not_kept_of_overtakes hovertakes
    exact ⟨fun _ => ⟨fun hsame => absurd hsame hspoiled, fun h => absurd h hnot⟩,
      fun _ => ⟨fun hgap => absurd hgap hnoGap, fun h => absurd h hnot⟩⟩
  · have hfull :
      ∀ c ∈ text.drop (beginning text).length, headLimit < utf8Len (beginning text) + c.utf8Size := by
      intro c hc
      by_contra hfits
      exact hovertakes ⟨c, hc, by omega⟩
    obtain ⟨dropped, htext, hwide, hdropped, hfinish⟩ := kept_of_full hfull
    constructor
    · intro hshort
      constructor
      · intro hsame
        refine ⟨hfull, fun _ => ?_⟩
        by_contra hmore
        have hevicted : dropped ≠ [] := fun hnone => hmore (hdropped.1 hnone)
        rw [hfinish, if_neg hevicted] at hsame
        have hboth := hsame.trans htext
        rw [List.append_assoc, List.append_assoc] at hboth
        have hmarker := List.append_cancel_right (List.append_cancel_left hboth)
        exact evicted_ne_marker hshort (by omega) hwide hmarker.symm
      · intro h
        have hnone := hdropped.2 (h.2 hshort)
        rw [hnone, List.append_nil] at htext
        rw [hfinish, if_pos hnone, List.append_nil]
        exact htext.symm
    · intro hlong
      constructor
      · intro _
        exact ⟨hfull, fun hshort => absurd hshort (by omega)⟩
      · intro _
        have hbound : utf8Len (beginning text) ≤ headLimit := utf8Len_fitting_le text headLimit
        have hlimits : maxTextBytes - utf8Len truncationMarker = headLimit + tailLimit := by decide
        have hevicted : dropped ≠ [] := fun hnone => by
          have hkept := hdropped.1 hnone
          omega
        exact ⟨dropped, hevicted, htext, by rw [hfinish, if_neg hevicted]⟩

theorem fitting_replicate (c : Char) (rest : List Char) : ∀ n room, n * c.utf8Size ≤ room →
    fitting room (List.replicate n c ++ rest) = List.replicate n c ++
      fitting (room - n * c.utf8Size) rest := by
  intro n
  induction n with
  | zero =>
    intro room _
    simp
  | succ n ih =>
    intro room hroom
    rw [Nat.succ_mul] at hroom
    rw [List.replicate_succ, List.cons_append, fitting,
      if_pos (by omega), ih _ (by omega), List.cons_append,
      Nat.succ_mul, Nat.sub_sub, Nat.add_comm c.utf8Size]

/-- 4090 bytes, a scalar of two, and one of one that overtakes it. -/
def overtakingText : List Char := List.replicate 4090 'a' ++ ['é', 'b']

/-- The `b` comes before the `é`. -/
theorem overtakingText_not_kept : utf8Len overtakingText ≤ maxTextBytes - utf8Len truncationMarker ∧
    (capture overtakingText).finish ≠ overtakingText := by
  have hwidth : ('a' : Char).utf8Size = 1 := rfl
  have hbeginning : beginning overtakingText = List.replicate 4090 'a' := by
    have hfit := fitting_replicate 'a' ['é', 'b'] 4090 headLimit (by decide)
    rw [beginning, overtakingText, hfit]
    have hrest : fitting (headLimit - 4090 * ('a' : Char).utf8Size) ['é', 'b'] = [] := by decide
    rw [hrest, List.append_nil]
  have hlen : ∀ n, utf8Len (List.replicate n 'a') = n := by
    intro n
    induction n with
    | zero => rfl
    | succ n ih => rw [List.replicate_succ, utf8Len_cons, ih, hwidth, Nat.add_comm]
  constructor
  · rw [overtakingText, utf8Len_append, hlen]
    decide
  · apply (not_kept_of_overtakes ⟨'b', ?_, ?_⟩).1
    · rw [hbeginning, overtakingText, List.drop_left]
      decide
    · rw [hbeginning, hlen]
      decide

end CodexKeyboard.Observer
