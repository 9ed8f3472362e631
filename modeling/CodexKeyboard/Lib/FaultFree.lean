import CodexKeyboard.Lib.Device
/-!
# Runs without faults

On a device that serves every command at once, in one way, a driver comes to one end. `play`
computes it, and it is one of the executions on any device that may serve its commands so
(`Plays.exec`).

* `Plays` — what a method returns and leaves there, with one rule for each way to build a method.
* `plays_observe` — what an observer returns there is what it finds.
* `Halts` — what a method leaves where the power goes after a part of it that met no fault.
-/

namespace Lib

section FaultFree

open Driver

variable {C : Type} {R : C → Type} {S σ ε ε' α β : Type}

/-- The value and the state that is left when every command is served at once. -/
def Driver.play (serve : σ → (c : C) → R c × σ) : Driver C R α → σ → α × σ
  | .ret a, s => (a, s)
  | .call c next, s => play serve (next (serve s c).1) (serve s c).2

theorem Driver.play_seq (serve : σ → (c : C) → R c × σ) (x : Driver C R α) (f : α → Driver C R β) (s : σ) :
    play serve (x.seq f) s = play serve (f (play serve x s).1) (play serve x s).2 := by
  induction x generalizing s with
  | ret a => rfl
  | call c next ih => exact ih _ _

theorem exec_play {D : Device C R σ} {serve : σ → (c : C) → R c × σ}
    (hserve : ∀ s c, D.answers s c (serve s c).1 (serve s c).2)
    (x : Driver C R α) (s : σ) : ∃ cs, Exec D x s cs (some (play serve x s).1) (play serve x s).2 := by
  induction x generalizing s with
  | ret a => exact ⟨[], .ret a s⟩
  | call c next ih =>
    obtain ⟨cs, hrest⟩ := ih (serve s c).1 (serve s c).2
    exact ⟨c :: cs, .call (hserve s c) hrest⟩

/-- The method `y` returns `r`, and leaves its state and the device's as `st'` and `s'`. -/
def Plays (serve : σ → (c : C) → R c × σ) (y : Method C R S ε α) (st : S) (s : σ) (r : Except ε α)
    (st' : S) (s' : σ) : Prop :=
  play serve (y.run.run st) s = ((r, st'), s')

variable {serve : σ → (c : C) → R c × σ} {y : Method C R S ε α} {g : α → Method C R S ε β}
    {st st' st'' : S} {s s' s'' : σ}
  {r : Except ε α} {r' : Except ε β}

theorem Plays.exec {D : Device C R σ} (h : Plays serve y st s r st' s')
    (hserve : ∀ s c, D.answers s c (serve s c).1 (serve s c).2) :
    ∃ cs, Exec D (y.run.run st) s cs (some (r, st')) s' := by
  obtain ⟨cs, hexec⟩ := exec_play hserve (y.run.run st) s
  rw [h] at hexec
  exact ⟨cs, hexec⟩

theorem plays_pure (a : α) : Plays serve (pure a : Method C R S ε α) st s (.ok a) st s := rfl

theorem Plays.bind {a : α} (h : Plays serve y st s (.ok a) st' s')
    (hg : Plays serve (g a) st' s' r' st'' s'') :
    Plays serve (y >>= g) st s r' st'' s'' := by
  show play serve (Driver.seq (y.run.run st) _) s = _
  rw [play_seq, h]
  exact hg

theorem Plays.bind_error {e : ε} (h : Plays serve y st s (.error e) st' s') :
    Plays serve (y >>= g) st s (.error e) st' s' := by
  show play serve (Driver.seq (y.run.run st) _) s = _
  rw [play_seq, h]
  rfl

theorem Plays.map {f : α → β} {a : α} (h : Plays serve y st s (.ok a) st' s') :
    Plays serve (f <$> y) st s (.ok (f a)) st' s' :=
  h.bind (plays_pure (f a))

theorem plays_if_pos {c : Prop} [Decidable c] {z : Method C R S ε α} (hc : c)
    (h : Plays serve y st s r st' s') :
    Plays serve (if c then y else z) st s r st' s' := by rwa [if_pos hc]

theorem plays_if_neg {c : Prop} [Decidable c] {z : Method C R S ε α} (hc : ¬ c)
    (h : Plays serve z st s r st' s') :
    Plays serve (if c then y else z) st s r st' s' := by rwa [if_neg hc]

theorem plays_get_bind {f : S → Method C R S ε β} (h : Plays serve (f st) st s r' st' s') :
    Plays serve (get >>= f) st s r' st' s' := h

theorem plays_modify {f : S → S} :
    Plays serve (modify f : Method C R S ε PUnit) st s (.ok ⟨⟩) (f st) s := rfl

theorem plays_modify_bind {f : S → S} {z : PUnit → Method C R S ε β}
    (h : Plays serve (z ⟨⟩) (f st) s r' st' s') :
    Plays serve (modify f >>= z) st s r' st' s' := plays_modify.bind h

theorem plays_refuse {c : Prop} [Decidable c] (e : ε) (hc : ¬ c) :
    Plays serve (refuse c e : Method C R S ε Unit) st s (.ok ()) st s := by
  rw [refuse, if_neg hc]
  rfl

theorem plays_refused {c : Prop} [Decidable c] (e : ε) (hc : c) :
    Plays serve (refuse c e : Method C R S ε Unit) st s (.error e) st s := by
  rw [refuse, if_pos hc]
  rfl

theorem plays_refuse_bind {c : Prop} [Decidable c] {e : ε} {z : Unit → Method C R S ε β} (hc : ¬ c)
    (h : Plays serve (z ()) st s r' st' s') :
    Plays serve (refuse c e >>= z) st s r' st' s' := (plays_refuse e hc).bind h

theorem plays_attempt (h : Plays serve y st s r st' s') :
    Plays serve (Method.attempt y : Method C R S ε' (Except ε α)) st s (.ok r) st' s' := by
  show play serve (Driver.seq (y.run.run st) _) s = _
  rw [play_seq, h]
  rfl

theorem plays_attempt_bind {z : Except ε α → Method C R S ε' β} {q : Except ε' β}
    (h : Plays serve y st s r st' s')
    (hz : Plays serve (z r) st' s' q st'' s'') :
    Plays serve (Method.attempt y >>= z) st s q st'' s'' := (plays_attempt h).bind hz

theorem plays_lift {x : Io C R ε α} (h : play serve x.run s = (r, s')) :
    Plays serve (Method.lift x : Method C R S ε α) st s r st s' := by
  show play serve (Driver.seq x.run _) s = _
  rw [play_seq, h]
  rfl

/-- A device that serves what an observer may ask without a change. -/
theorem play_eq_eval {D : Device C R σ} {G : C → Prop} {Q : α → σ → Prop} {K : σ → Prop}
    {reply : (c : C) → R c} {x : Driver C R α}
    (hx : Wp D G Q K x s) (hserve : ∀ c, G c → serve s c = (reply c, s)) (hanswer : ∀ c, G c →
      D.answers s c (reply c) s) :
    play serve x s = (x.eval reply, s) := by
  induction x with
  | ret a => rfl
  | call c next ih =>
    show play serve (next (serve s c).1) (serve s c).2 = _
    rw [hserve c hx.1]
    exact ih _ (hx.2.2 _ _ (hanswer c hx.1))

theorem plays_observe {D : Device C R σ} {G : C → Prop} {F : ε → Prop} {reply : σ → (c : C) → R c}
    {x : Io C R ε α}
    (hx : Observes D G F reply x) (hserve : ∀ c, G c → serve s c = (reply s c, s))
    (hanswer : ∀ c, G c → D.answers s c (reply s c) s) :
    Plays serve (Method.lift x : Method C R S ε α) st s (x.eval (reply s)) st s :=
  plays_lift (play_eq_eval (hx.wp s) hserve hanswer)

/-! ## A loss of power -/

theorem Exec.seq {D : Device C R σ} {x : Driver C R α} {f : α → Driver C R β} {a : α} {o : Option β}
    {cs cs' : List C}
    (h : Exec D x s cs (some a) s') (hrest : Exec D (f a) s' cs' o s'') :
    Exec D (x.seq f) s (cs ++ cs') o s'' := by
  generalize hvalue : some a = value at h
  induction h with
  | ret b t =>
    cases hvalue
    exact hrest
  | stop _ => cases hvalue
  | call hanswer _ ih => exact .call hanswer (ih hrest hvalue)

theorem Exec.seq_none {D : Device C R σ} {x : Driver C R α} {f : α → Driver C R β} {cs : List C}
    (h : Exec D x s cs none s') :
    Exec D (x.seq f) s cs none s' := by
  generalize hvalue : none = value at h
  induction h with
  | ret b t => cases hvalue
  | stop hstop => exact .stop hstop
  | call hanswer _ ih => exact .call hanswer (ih hvalue)

theorem Exec.map {D : Device C R σ} {f : α → β} {a : α} {cs : List C}
    (h : Exec D (y.run.run st) s cs (some (.ok a, st')) s') :
    Exec D ((f <$> y).run.run st) s cs (some (.ok (f a), st')) s' := by
  rw [← List.append_nil cs]
  exact h.seq (.ret (Except.ok (f a), st') s')

/-- The power may go while the method `y` runs, and leave the device's state as `s'`. -/
def Halts (D : Device C R σ) (y : Method C R S ε α) (st : S) (s s' : σ) : Prop :=
  ∃ cs, Exec D (y.run.run st) s cs none s'

variable {D : Device C R σ}

theorem Halts.bind (h : Halts D y st s s') : Halts D (y >>= g) st s s' := by
  obtain ⟨cs, hexec⟩ := h
  exact ⟨cs, hexec.seq_none⟩

/-- What runs before the power goes meets no fault. -/
theorem Plays.halts {a : α} (h : Plays serve y st s (.ok a) st' s')
    (hserve : ∀ s c, D.answers s c (serve s c).1 (serve s c).2)
    (hg : Halts D (g a) st' s' s'') : Halts D (y >>= g) st s s'' := by
  obtain ⟨cs, hexec⟩ := h.exec hserve
  obtain ⟨cs', hrest⟩ := hg
  exact ⟨cs ++ cs', hexec.seq hrest⟩

theorem halts_get_bind {f : S → Method C R S ε β} (h : Halts D (f st) st s s') :
    Halts D (get >>= f) st s s' := h

theorem halts_if_pos {c : Prop} [Decidable c] {z : Method C R S ε α} (hc : c) (h : Halts D y st s s') :
    Halts D (if c then y else z) st s s' := by rwa [if_pos hc]

theorem halts_issue {c : C} {f : R c → Io C R ε α} (h : D.stops s c s') :
    Halts D (Method.lift (Io.issue c >>= f) : Method C R S ε α) st s s' := ⟨[c], .stop h⟩

attribute [irreducible] Plays

end FaultFree

end Lib
