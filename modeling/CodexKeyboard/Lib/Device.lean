import Mathlib.Data.List.Basic
/-!
# Programs that drive a device

A driver issues commands and goes on with what the device answers to each. The device is a relation:
a command may be answered in several ways, each with a state of its own, and the power may go while
a command is under way; then only the state of the device is left.

* `Exec` — an execution: the commands issued, the value (none when the power went) and the state
  that is left.
* `Wp` — every command meets `G`, every value and state meet `Q`, and every state that a loss of
  power leaves meets `K`.
* `Method` — a driver with a state of its own that may fail; the state it had then is kept. `Meets`
  is `Wp` for it,
and `Keeps` is `Meets` for an invariant.
* `Observes` — a driver that changes nothing, and finds what a device without faults would show or fails.
-/

namespace Lib

/-- A value, or a command and what follows each answer to it. -/
inductive Driver (C : Type) (R : C → Type) (α : Type) where
  | ret (a : α)
  | call (c : C) (next : R c → Driver C R α)

namespace Driver

variable {C : Type} {R : C → Type} {α β γ : Type}

def seq : Driver C R α → (α → Driver C R β) → Driver C R β
  | .ret a, f => f a
  | .call c next, f => .call c fun r => (next r).seq f

instance : Monad (Driver C R) where
  pure := .ret
  bind := seq

/-- One command. -/
def issue (c : C) : Driver C R (R c) := .call c .ret

/-- The value when every command is answered by `reply`. -/
def eval (reply : (c : C) → R c) : Driver C R α → α
  | .ret a => a
  | .call c next => eval reply (next (reply c))

@[simp] theorem eval_ret (reply : (c : C) → R c) (a : α) : eval reply (.ret a : Driver C R α) = a := rfl

theorem seq_assoc (x : Driver C R α) (f : α → Driver C R β) (g : β → Driver C R γ) :
    (x.seq f).seq g = x.seq fun a => (f a).seq g := by
  induction x with
  | ret a => rfl
  | call c next ih => exact congrArg (call c) (funext ih)

theorem eval_seq (reply : (c : C) → R c) (x : Driver C R α) (f : α → Driver C R β) :
    eval reply (x.seq f) = eval reply (f (eval reply x)) := by
  induction x with
  | ret a => rfl
  | call c next ih => exact ih (reply c)

end Driver

/-- A check that fails. -/
def refuse {m : Type → Type} {ε : Type} [Monad m] [MonadExceptOf ε m] (c : Prop) [Decidable c]
    (e : ε) : m Unit :=
  if c then throw e else pure ()

/-- What a device may do with a command. -/
structure Device (C : Type) (R : C → Type) (σ : Type) where
  /-- The command returned. -/
  answers : σ → (c : C) → R c → σ → Prop
  /-- The power went while the command was under way. -/
  stops : σ → C → σ → Prop

section Device

open Driver

variable {C : Type} {R : C → Type} {σ α β : Type}

inductive Exec (D : Device C R σ) : Driver C R α → σ → List C → Option α → σ → Prop where
  | ret (a : α) (s : σ) : Exec D (.ret a) s [] (some a) s
  | stop {c : C} {next : R c → Driver C R α} {s s' : σ} (h : D.stops s c s') :
    Exec D (.call c next) s [c] none s'
  | call {c : C} {next : R c → Driver C R α} {s s' t : σ} {r : R c} {cs : List C} {o : Option α}
      (h : D.answers s c r s') (rest : Exec D (next r) s' cs o t) : Exec D (.call c next) s (c :: cs) o t

def Wp (D : Device C R σ) (G : C → Prop) (Q : α → σ → Prop) (K : σ → Prop) : Driver C R α → σ → Prop
  | .ret a, s => Q a s
  | .call c next, s =>
    G c ∧ (∀ s', D.stops s c s' → K s') ∧ ∀ r s', D.answers s c r s' → Wp D G Q K (next r) s'

/-- `Q` of a value and the state, `K` of the state alone. -/
def Outcome (Q : α → σ → Prop) (K : σ → Prop) : Option α → σ → Prop
  | some a => Q a
  | none => K

variable {D : Device C R σ} {G G' : C → Prop} {Q Q' : α → σ → Prop} {K K' : σ → Prop} {x : Driver C R α}
  {f : α → Driver C R β} {s t : σ}

theorem Wp.sound (h : Wp D G Q K x s) {cs : List C} {o : Option α} (hexec : Exec D x s cs o t) :
    (∀ c ∈ cs, G c) ∧ Outcome Q K o t := by
  induction hexec with
  | ret a s => exact ⟨fun c hc => absurd hc (List.not_mem_nil), h⟩
  | stop hstop => exact ⟨fun c hc => (List.mem_singleton.1 hc) ▸ h.1, h.2.1 _ hstop⟩
  | call hanswer _ ih =>
    obtain ⟨hrest, hout⟩ := ih (h.2.2 _ _ hanswer)
    exact ⟨List.forall_mem_cons.2 ⟨h.1, hrest⟩, hout⟩

/-- What every command that meets `G` preserves, an execution of such commands preserves. -/
theorem Exec.preserves {I : σ → Prop} (hanswer : ∀ s c r s', G c → D.answers s c r s' → I s → I s')
    (hstop : ∀ s c s', G c → D.stops s c s' → I s → I s') {cs : List C} {o : Option α}
    (hexec : Exec D x s cs o t)
    (hG : ∀ c ∈ cs, G c) (h : I s) : I t := by
  induction hexec with
  | ret a s => exact h
  | stop hstopped => exact hstop _ _ _ (hG _ (List.mem_singleton.2 rfl)) hstopped h
  | call hanswered _ ih =>
    obtain ⟨hfirst, hrest⟩ := List.forall_mem_cons.1 hG
    exact ih hrest (hanswer _ _ _ _ hfirst hanswered h)

theorem Wp.mono (h : Wp D G Q K x s) (hG : ∀ c, G c → G' c) (hQ : ∀ a s, Q a s → Q' a s)
    (hK : ∀ s, K s → K' s) :
    Wp D G' Q' K' x s := by
  induction x generalizing s with
  | ret a => exact hQ a s h
  | call c next ih =>
    exact ⟨hG c h.1, fun s' hstop => hK s' (h.2.1 s' hstop), fun r s' hanswer => ih r (h.2.2 r s' hanswer)⟩

theorem wp_seq {Q : β → σ → Prop} :
    Wp D G Q K (x.seq f) s ↔ Wp D G (fun a s' => Wp D G Q K (f a) s') K x s := by
  induction x generalizing s with
  | ret a => exact Iff.rfl
  | call c next ih =>
    exact and_congr Iff.rfl (and_congr Iff.rfl (forall_congr' fun r => forall_congr' fun s' =>
      imp_congr Iff.rfl (ih r)))

theorem Wp.trivial (x : Driver C R α) (s : σ) :
    Wp D (fun _ => True) (fun _ _ => True) (fun _ => True) x s := by
  induction x generalizing s with
  | ret a => exact True.intro
  | call c next ih => exact ⟨True.intro, fun _ _ => True.intro, fun r s' _ => ih r s'⟩

/-- Two devices that answer the commands of a driver alike make it return the same. -/
theorem Wp.eval_congr {reply reply' : (c : C) → R c} (h : Wp D G Q K x s)
    (hG : ∀ c, G c → reply c = reply' c ∧ D.answers s c (reply c) s) : x.eval reply = x.eval reply' := by
  induction x with
  | ret a => rfl
  | call c next ih =>
    obtain ⟨heq, hanswer⟩ := hG c h.1
    show (next (reply c)).eval reply = (next (reply' c)).eval reply'
    rw [← heq]
    exact ih (reply c) (h.2.2 _ _ hanswer)

/-! ## Drivers that may fail -/

variable {ε ε' : Type}

/-- A driver that returns a value or an error. -/
abbrev Io (C : Type) (R : C → Type) (ε α : Type) : Type := ExceptT ε (Driver C R) α

namespace Io

/-- One command, its answer as it is. -/
def issue (c : C) : Io C R ε (R c) := ExceptT.lift (Driver.issue c)

/-- The body, and its result as a value. -/
def attempt (x : Io C R ε α) : Io C R ε' (Except ε α) := ExceptT.lift x.run

/-- The result when every command is answered by `reply`. -/
def eval (reply : (c : C) → R c) (x : Io C R ε α) : Except ε α := Driver.eval reply x.run

@[simp] theorem eval_pure (reply : (c : C) → R c) (a : α) : eval reply (pure a : Io C R ε α) = .ok a := rfl
@[simp] theorem eval_throw (reply : (c : C) → R c) (e : ε) :
    eval reply (throw e : Io C R ε α) = .error e := rfl
@[simp] theorem eval_issue (reply : (c : C) → R c) (c : C) :
    eval reply (issue c : Io C R ε (R c)) = .ok (reply c) := rfl

theorem eval_refuse (reply : (c : C) → R c) (c : Prop) [Decidable c] (e : ε) :
    eval reply (refuse c e : Io C R ε Unit) = if c then .error e else .ok () := by
  unfold refuse
  split <;> rfl

theorem eval_bind (reply : (c : C) → R c) (x : Io C R ε α) (f : α → Io C R ε β) :
    eval reply (x >>= f) = (eval reply x).bind fun a => eval reply (f a) := by
  show Driver.eval reply (Driver.seq x.run (ExceptT.bindCont f)) = _
  rw [Driver.eval_seq]
  show _ = (Driver.eval reply x.run).bind _
  cases Driver.eval reply x.run <;> rfl

@[simp] theorem eval_attempt (reply : (c : C) → R c) (x : Io C R ε α) :
    eval reply (attempt x : Io C R ε' (Except ε α)) = .ok (eval reply x) := by
  show Driver.eval reply (Driver.seq x.run fun r => .ret (Except.ok r)) = _
  rw [Driver.eval_seq]
  rfl

theorem eval_adapt (reply : (c : C) → R c) (k : ε → ε') (x : Io C R ε α) :
    eval reply (ExceptT.adapt k x) = (eval reply x).mapError k := by
  show Driver.eval reply (Driver.seq x.run fun r => .ret (Except.mapError k r)) = _
  rw [Driver.eval_seq]
  rfl

theorem eval_bind_eq_ok {reply : (c : C) → R c} {x : Io C R ε α} {f : α → Io C R ε β} {b : β} :
    eval reply (x >>= f) = .ok b ↔ ∃ a, eval reply x = .ok a ∧ eval reply (f a) = .ok b := by
  rw [eval_bind]
  cases eval reply x <;> simp [Except.bind]

theorem eval_refuse_bind_eq_ok {reply : (c : C) → R c} {c : Prop} [Decidable c] {e : ε}
    {f : Unit → Io C R ε β} {b : β} :
    eval reply (refuse c e >>= f) = .ok b ↔ ¬ c ∧ eval reply (f ()) = .ok b := by
  rw [eval_bind, eval_refuse]
  split <;> simp_all [Except.bind]

theorem eval_refuse_bind_eq_error {reply : (c : C) → R c} {c : Prop} [Decidable c] {e e' : ε}
    {f : Unit → Io C R ε β} :
    eval reply (refuse c e >>= f) = .error e' ↔ c ∧ e = e' ∨ ¬ c ∧ eval reply (f ()) = .error e' := by
  rw [eval_bind, eval_refuse]
  split <;> simp_all [Except.bind]

end Io

/-- `x` changes nothing, and its result is that of a device that answers `reply`, or one of the
errors `F`. -/
def Observes (D : Device C R σ) (G : C → Prop) (F : ε → Prop) (reply : σ → (c : C) → R c)
    (x : Io C R ε α) : Prop :=
  ∀ s, Wp D G (fun r s' => s' = s ∧ (r = x.eval (reply s) ∨ ∃ e, F e ∧ r = .error e))
    (fun s' => s' = s) x.run s

section Observes
variable {F F' : ε → Prop} {reply : σ → (c : C) → R c}

theorem observes_of_wp {x : Io C R ε α}
    (h : ∀ s, Wp D G (fun r s' => s' = s ∧ (r = x.eval (reply s) ∨ ∃ e, F e ∧ r = .error e))
    (fun s' => s' = s) x.run s) : Observes D G F reply x := h

theorem Observes.wp {x : Io C R ε α} (h : Observes D G F reply x) (s : σ) :
    Wp D G (fun r s' => s' = s ∧ (r = x.eval (reply s) ∨ ∃ e, F e ∧ r = .error e))
      (fun s' => s' = s) x.run s := h s

theorem observes_pure (a : α) : Observes D G F reply (pure a : Io C R ε α) := fun _ => ⟨rfl, .inl rfl⟩

theorem observes_throw (e : ε) : Observes D G F reply (throw e : Io C R ε α) := fun _ => ⟨rfl, .inl rfl⟩

theorem observes_bind {x : Io C R ε α} {f : α → Io C R ε β} (hx : Observes D G F reply x)
    (hf : ∀ a, Observes D G F reply (f a)) : Observes D G F reply (x >>= f) := by
  intro s
  show Wp D G _ _ (Driver.seq x.run (ExceptT.bindCont f)) s
  rw [wp_seq]
  refine (hx s).mono (fun _ => id) ?_ (fun _ => id)
  rintro r s' ⟨rfl, hr⟩
  rcases hr with rfl | ⟨e, he, rfl⟩
  · rw [Io.eval_bind]
    cases Io.eval (reply s') x with
    | error e => exact ⟨rfl, .inl rfl⟩
    | ok a => exact hf a s'
  · exact ⟨rfl, .inr ⟨e, he, rfl⟩⟩

theorem observes_ite {c : Prop} [Decidable c] {x y : Io C R ε α} (hx : Observes D G F reply x)
    (hy : Observes D G F reply y) : Observes D G F reply (if c then x else y) := by
  split
  · exact hx
  · exact hy

theorem observes_refuse (c : Prop) [Decidable c] (e : ε) :
    Observes D G F reply (refuse c e : Io C R ε Unit) :=
  observes_ite (observes_throw e) (observes_pure ())

theorem observes_forM {ι : Type} {body : ι → Io C R ε PUnit} (h : ∀ i, Observes D G F reply (body i))
    (l : List ι) :
    Observes D G F reply (l.forM body) := by
  induction l with
  | nil => exact observes_pure _
  | cons i l ih => exact observes_bind (h i) fun _ => ih

/-- Another name for the errors. -/
theorem observes_adapt {k : ε → ε'} {F' : ε' → Prop} {x : Io C R ε α} (hx : Observes D G F reply x)
    (hk : ∀ e, F e → F' (k e)) : Observes D G F' reply (ExceptT.adapt k x) := by
  intro s
  show Wp D G _ _ (Driver.seq x.run fun r => .ret (Except.mapError k r)) s
  rw [wp_seq]
  refine (hx s).mono (fun _ => id) ?_ (fun _ => id)
  rintro r s' ⟨rfl, hr⟩
  refine ⟨rfl, ?_⟩
  rcases hr with rfl | ⟨e, he, rfl⟩
  · refine .inl ?_
    show _ = Driver.eval (reply s') (Driver.seq x.run fun r => .ret (Except.mapError k r))
    rw [Driver.eval_seq]
    rfl
  · exact .inr ⟨k e, hk e he, rfl⟩

theorem Observes.weaken {x : Io C R ε α} (h : Observes D G F reply x) (hG : ∀ c, G c → G' c)
    (hF : ∀ e, F e → F' e) :
    Observes D G' F' reply x := by
  intro s
  refine (h s).mono hG ?_ (fun _ => id)
  rintro r s' ⟨hs, hr⟩
  exact ⟨hs, hr.imp_right fun ⟨e, he, heq⟩ => ⟨e, hF e he, heq⟩⟩

/-- What an observer finds depends on what its commands are answered alone. -/
theorem Observes.eval_congr {x : Io C R ε α} (hx : Observes D G F reply x) {s s' : σ}
    (hG : ∀ c, G c → reply s c = reply s' c ∧ D.answers s c (reply s c) s) :
    x.eval (reply s) = x.eval (reply s') :=
  Wp.eval_congr (hx s) hG

end Observes

/-! ## Drivers with a state -/

variable {S : Type}

abbrev Method (C : Type) (R : C → Type) (S ε α : Type) : Type := ExceptT ε (StateT S (Driver C R)) α

namespace Method

/-- A driver that does not look at the state. -/
def lift (x : Io C R ε α) : Method C R S ε α := ExceptT.mk (StateT.lift x.run)

/-- The body, and its result as a value. -/
def attempt (x : Method C R S ε α) : Method C R S ε' (Except ε α) := ExceptT.lift x.run

theorem lift_bind (x : Io C R ε α) (f : α → Io C R ε β) :
    (lift (x >>= f) : Method C R S ε β) = lift x >>= fun a => lift (f a) := by
  funext st
  show Driver.seq (Driver.seq x.run (ExceptT.bindCont f)) _ = Driver.seq (Driver.seq x.run _) _
  rw [seq_assoc, seq_assoc]
  congr 1
  funext r
  cases r <;> rfl

theorem lift_refuse (c : Prop) [Decidable c] (e : ε) :
    (lift (refuse c e) : Method C R S ε Unit) = refuse c e := by
  unfold refuse
  split <;> rfl

theorem lift_attempt (x : Io C R ε α) :
    (lift (Io.attempt x) : Method C R S ε' (Except ε α)) = attempt (lift x) := by
  funext st
  show Driver.seq (Driver.seq x.run _) _ = Driver.seq (Driver.seq x.run _) _
  rw [seq_assoc, seq_assoc]
  rfl

end Method

/-- The condition of a value and the one of an error. -/
def Ends (ok : α → S → σ → Prop) (err : ε → S → σ → Prop) : Except ε α → S → σ → Prop
  | .ok a => ok a
  | .error e => err e

/-- Every command of `x`, started with state `st` on a device in state `s`, meets `G`; its result
and both states meet `Q`, and what a loss of power leaves meets `K`. -/
def Meets (D : Device C R σ) (G : C → Prop) (x : Method C R S ε α) (Q : Except ε α → S → σ → Prop)
    (K : σ → Prop)
    (st : S) (s : σ) : Prop :=
  Wp D G (fun r s' => Q r.1 r.2 s') K (x.run.run st) s

section Meets
variable {st : S} {y : Method C R S ε α} {g : α → Method C R S ε β} {P P' : Except ε α → S → σ → Prop}
  {P₂ : Except ε β → S → σ → Prop}

theorem meets_pure {a : α} (h : P (.ok a) st s) : Meets D G (pure a : Method C R S ε α) P K st s := h

theorem meets_throw {e : ε} (h : P (.error e) st s) : Meets D G (throw e : Method C R S ε α) P K st s := h

theorem meets_bind
    (h : Meets D G y (Ends (fun a st' s' => Meets D G (g a) P₂ K st' s') fun e => P₂ (.error e)) K st s) :
    Meets D G (y >>= g) P₂ K st s := by
  show Wp D G _ _ (Driver.seq (y.run.run st) _) s
  rw [wp_seq]
  refine Wp.mono h (fun _ => id) ?_ (fun _ => id)
  rintro ⟨r, st'⟩ s' hr
  cases r with
  | error e => exact hr
  | ok a => exact hr

theorem Meets.sound (h : Meets D G y P K st s) {cs : List C} {o : Option (Except ε α × S)}
    (hexec : Exec D (y.run.run st) s cs o t) :
    (∀ c ∈ cs, G c) ∧ Outcome (fun r s' => P r.1 r.2 s') K o t :=
  Wp.sound h hexec

theorem Meets.mono (h : Meets D G y P K st s) (hP : ∀ r st' s', P r st' s' → P' r st' s')
    (hK : ∀ s', K s' → K' s') :
    Meets D G y P' K' st s :=
  Wp.mono h (fun _ => id) (fun r s' => hP r.1 r.2 s') hK

theorem Meets.weaken (h : Meets D G y P K st s) (hG : ∀ c, G c → G' c) : Meets D G' y P K st s :=
  Wp.mono h hG (fun _ _ => id) fun _ => id

theorem meets_map {f : α → β}
    (h : Meets D G y (fun r => P₂ (r.map f)) K st s) : Meets D G (f <$> y) P₂ K st s := by
  refine meets_bind (h.mono ?_ fun _ => id)
  rintro (e | a) st' s' hr
  · exact hr
  · exact meets_pure hr

theorem meets_get {P : Except ε S → S → σ → Prop} (h : P (.ok st) st s) :
    Meets D G (get : Method C R S ε S) P K st s := h

theorem meets_set {st' : S} {P : Except ε PUnit → S → σ → Prop} (h : P (.ok ⟨⟩) st' s) :
    Meets D G (set st' : Method C R S ε PUnit) P K st s := h

theorem meets_modify {f : S → S} {P : Except ε PUnit → S → σ → Prop} (h : P (.ok ⟨⟩) (f st) s) :
    Meets D G (modify f : Method C R S ε PUnit) P K st s := h

/-- A body whose result is looked at. -/
theorem meets_attempt {P : Except ε' (Except ε α) → S → σ → Prop}
    (h : Meets D G y (fun r => P (.ok r)) K st s) :
    Meets D G (Method.attempt y : Method C R S ε' (Except ε α)) P K st s := by
  show Wp D G _ _ (Driver.seq (y.run.run st) _) s
  rw [wp_seq]
  exact h

/-- A driver that does not look at the state leaves it as it is. -/
theorem meets_lift {x : Io C R ε α} (h : Wp D G (fun r s' => P r st s') K x.run s) :
    Meets D G (Method.lift x : Method C R S ε α) P K st s := by
  show Wp D G _ _ (Driver.seq x.run _) s
  rw [wp_seq]
  exact h

/-- Whatever such a driver does, the state of its caller is as it was. -/
theorem meets_lift_trivial (x : Io C R ε α) :
    Meets D (fun _ => True) (Method.lift x : Method C R S ε α) (fun _ st' _ => st' = st)
      (fun _ => True) st s :=
  meets_lift ((Wp.trivial _ s).mono (fun _ => id) (fun _ _ _ => rfl) fun _ => id)

/-- What an observer tells. -/
theorem meets_observe {F : ε → Prop} {reply : σ → (c : C) → R c} {x : Io C R ε α}
    (hx : Observes D G F reply x) (hK : K s)
    (hok : ∀ a, x.eval (reply s) = .ok a → P (.ok a) st s)
    (herror : ∀ e, x.eval (reply s) = .error e ∨ F e → P (.error e) st s) :
    Meets D G (Method.lift x : Method C R S ε α) P K st s := by
  refine meets_lift ((hx s).mono (fun _ => id) ?_ ?_)
  · rintro r s' ⟨rfl, hr⟩
    rcases hr with rfl | ⟨e, he, rfl⟩
    · cases hfound : x.eval (reply s') with
      | ok a => exact hok a hfound
      | error e => exact herror e (.inl hfound)
    · exact herror e (.inr he)
  · rintro s' rfl
    exact hK

theorem meets_ite {c : Prop} [Decidable c] {z : Method C R S ε α} (hy : c → Meets D G y P K st s)
    (hz : ¬ c → Meets D G z P K st s) : Meets D G (if c then y else z) P K st s := by
  split
  · exact hy ‹_›
  · exact hz ‹_›

/-- A first part with what it is known to do. -/
theorem Meets.andThen (h : Meets D G y P K st s)
    (hok : ∀ a st' s', P (.ok a) st' s' → Meets D G (g a) P₂ K st' s')
    (herror : ∀ e st' s', P (.error e) st' s' → P₂ (.error e) st' s') : Meets D G (y >>= g) P₂ K st s := by
  refine meets_bind (h.mono ?_ fun _ => id)
  intro r st' s' hr
  cases r with
  | error e => exact herror e st' s' hr
  | ok a => exact hok a st' s' hr

theorem meets_get_bind {f : S → Method C R S ε β} (h : Meets D G (f st) P₂ K st s) :
    Meets D G (get >>= f) P₂ K st s :=
  meets_bind (meets_get h)

theorem meets_modify_bind {f : S → S} {z : PUnit → Method C R S ε β} (h : Meets D G (z ⟨⟩) P₂ K (f st) s) :
    Meets D G (modify f >>= z) P₂ K st s :=
  meets_bind (meets_modify h)

theorem meets_attempt_bind {z : Except ε α → Method C R S ε' β} {P : Except ε' β → S → σ → Prop}
    (h : Meets D G y (fun r st' s' => Meets D G (z r) P K st' s') K st s) :
    Meets D G (Method.attempt y >>= z) P K st s :=
  meets_bind (meets_attempt h)

/-- What holds before `x` holds after it, whatever it returns. -/
def Keeps (D : Device C R σ) (G : C → Prop) (I : S → σ → Prop) (K : σ → Prop)
    (x : Method C R S ε α) : Prop :=
  ∀ st s, I st s → Meets D G x (fun _ => I) K st s

theorem meets_refuse {c : Prop} [Decidable c] {e : ε} {P : Except ε Unit → S → σ → Prop}
    (hc : c → P (.error e) st s)
    (hn : ¬ c → P (.ok ()) st s) : Meets D G (refuse c e : Method C R S ε Unit) P K st s :=
  meets_ite hc hn

theorem meets_refuse_bind {c : Prop} [Decidable c] {e : ε} {z : Unit → Method C R S ε β}
    (hc : c → P₂ (.error e) st s)
    (hn : ¬ c → Meets D G (z ()) P₂ K st s) : Meets D G (refuse c e >>= z) P₂ K st s :=
  meets_bind (meets_refuse hc hn)

section Keeps
variable {I : S → σ → Prop} {z : Method C R S ε α}

theorem Keeps.weaken (h : Keeps D G I K y) (hG : ∀ c, G c → G' c) : Keeps D G' I K y :=
  fun st s hst => (h st s hst).weaken hG

theorem keeps_pure (a : α) : Keeps D G I K (pure a : Method C R S ε α) := fun _ _ h => h

theorem keeps_throw (e : ε) : Keeps D G I K (throw e : Method C R S ε α) := fun _ _ h => h

theorem keeps_bind (hy : Keeps D G I K y) (hg : ∀ a, Keeps D G I K (g a)) : Keeps D G I K (y >>= g) := by
  intro st s h
  refine meets_bind ((hy st s h).mono ?_ fun _ => id)
  intro r st' s' h'
  cases r with
  | error e => exact h'
  | ok a => exact hg a st' s' h'

theorem keeps_get {f : S → Method C R S ε α} (hf : ∀ st s, I st s → Meets D G (f st) (fun _ => I) K st s) :
    Keeps D G I K (get >>= f) := fun st s h => meets_bind (meets_get (hf st s h))

theorem keeps_modify {f : S → S} (hf : ∀ st s, I st s → I (f st) s) :
    Keeps D G I K (modify f : Method C R S ε PUnit) := fun st s h => meets_modify (hf st s h)

theorem keeps_attempt (hy : Keeps D G I K y) :
    Keeps D G I K (Method.attempt y : Method C R S ε' (Except ε α)) :=
  fun st s h => meets_attempt (hy st s h)

theorem keeps_ite {c : Prop} [Decidable c] (hy : Keeps D G I K y) (hz : Keeps D G I K z) :
    Keeps D G I K (if c then y else z) := by
  split
  · exact hy
  · exact hz

theorem keeps_refuse (c : Prop) [Decidable c] (e : ε) : Keeps D G I K (refuse c e : Method C R S ε Unit) :=
  keeps_ite (keeps_throw e) (keeps_pure ())

theorem keeps_observe {F : ε → Prop} {reply : σ → (c : C) → R c} {x : Io C R ε α}
    (hx : Observes D G F reply x)
    (hK : ∀ st s, I st s → K s) : Keeps D G I K (Method.lift x : Method C R S ε α) :=
  fun st s h => meets_observe hx (hK st s h) (fun _ _ => h) fun _ _ => h

end Keeps

-- What a driver does is never found out by running it.
attribute [irreducible] Observes Meets

end Meets

end Device

end Lib
