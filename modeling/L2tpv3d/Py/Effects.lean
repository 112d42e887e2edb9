import Mathlib.Data.List.Basic

/-!
# Py — programs that mutate a state and may raise

A method of a Python object reads and writes the object's fields and may raise in the
middle of its body; what it wrote before the `raise` stays written. `Prog σ α` is that
notion of computation: a function from the state to an outcome (a value or an exception)
*together with* the state it leaves, in both cases.

* `Exn` — the built-in exceptions the embedded code can raise.
* `Prog`, `Prog.raise`, `Prog.ofExcept`, `Prog.zoom`, `Prog.each` — the statements: raise,
  call of a pure function that may raise, call of a method of a sub-object, `for` loop.
* `Prog.wp` — the weakest precondition, with one postcondition for the normal end and one
  for the exceptional end, and its rules for sequences and loops.
* `Prog.Keeps` — an invariant that a program keeps at both ends, and its rules.
* `Prog.Yields` — a property of what a program returns, and its rules.
* `Prog.Returns` — the program does not raise.
* `Prog.Paired` — two programs run side by side, and keep two states related.
-/

namespace Py

/-- The built-in exceptions that embedded code raises, with the message they carry.
`loopNotDone` is not an exception of Python: it marks a `while` loop cut off by the bound
its embedding puts on the number of rounds. -/
inductive Exn where
  | valueError (msg : String)
  | structError (msg : String)
  | runtimeError (msg : String)
  | loopNotDone
  deriving DecidableEq, Repr

/-- What an `except ValueError` clause catches. -/
def Exn.isValueError : Exn → Bool
  | .valueError _ => true
  | _ => false

/-! ## Pure calls that may raise

The parsers and builders of the source touch no state, so they are `Except Exn`. Which exceptions
can come out matters where an `except` clause catches one kind only. -/

section Pure

variable {α β : Type}

/-- `if c: raise e`. -/
def raiseIf (c : Prop) [Decidable c] (e : Exn) : Except Exn Unit :=
  if c then .error e else .ok ()

/-- A guard lets through exactly when its condition does not hold. -/
@[simp] theorem raiseIf_eq_ok {c : Prop} [Decidable c] {e : Exn} {u : Unit} :
    raiseIf c e = .ok u ↔ ¬ c := by
  unfold raiseIf; split <;> simp_all

/-- A guard whose condition does not hold lets through. -/
theorem raiseIf_neg {c : Prop} [Decidable c] {e : Exn} (h : ¬ c) : raiseIf c e = .ok () :=
  raiseIf_eq_ok.mpr h

/-- Inversion of a sequence of calls that ended normally. -/
theorem bind_eq_ok {ε : Type} {x : Except ε α} {f : α → Except ε β} {b : β} :
    (x >>= f) = .ok b ↔ ∃ a, x = .ok a ∧ f a = .ok b := by
  cases x with
  | error e => simp [bind, Except.bind]
  | ok a => simp [bind, Except.bind]

@[simp] theorem ok_bind (a : α) (f : α → Except Exn β) : ((.ok a : Except Exn α) >>= f) = f a := rfl

@[simp] theorem error_bind (e : Exn) (f : α → Except Exn β) :
    ((.error e : Except Exn α) >>= f) = .error e := rfl

@[simp] theorem pure_eq_ok (a : α) : (pure a : Except Exn α) = .ok a := rfl

/-- A call `x` raises nothing but `ValueError`. -/
def OnlyValueError (x : Except Exn α) : Prop := ∀ e, x = .error e → e.isValueError = true

@[simp] theorem onlyValueError_ok (a : α) : OnlyValueError (.ok a : Except Exn α) := by
  intro e h; cases h

/-- A `ValueError` is one, whatever its message says. -/
@[simp] theorem onlyValueError_valueError (msg : String) :
    OnlyValueError (.error (.valueError msg) : Except Exn α) := by
  intro e h; cases h; rfl

/-- A guard that raises `ValueError` raises nothing else. -/
theorem onlyValueError_raiseIf (c : Prop) [Decidable c] (msg : String) :
    OnlyValueError (raiseIf c (.valueError msg)) := by
  unfold raiseIf; split <;> simp

/-- A sequence raises nothing but `ValueError` if each of its calls does. -/
theorem OnlyValueError.bind {x : Except Exn α} {f : α → Except Exn β} (hx : OnlyValueError x)
    (hf : ∀ a, x = .ok a → OnlyValueError (f a)) : OnlyValueError (x >>= f) := by
  cases x with
  | error e => exact fun e' he' => hx e' (by cases he'; rfl)
  | ok a => exact hf a rfl

/-- `try: x except ValueError: None`. -/
def tryValueError (x : Except Exn α) : Except Exn (Option α) :=
  match x with
  | .ok a => .ok (some a)
  | .error e => if e.isValueError then .ok none else .error e

/-- A call that raises nothing but `ValueError` is always caught. -/
theorem tryValueError_of_only {x : Except Exn α} (h : OnlyValueError x) :
    tryValueError x = .ok x.toOption := by
  cases x with
  | ok a => rfl
  | error e => simp [tryValueError, h e rfl, Except.toOption]

/-! What a call returns can be tested. -/

instance (x : Except Exn α) : Decidable (∃ a, x = .ok a) :=
  match x with
  | .error _ => isFalse (by simp)
  | .ok a => isTrue ⟨a, rfl⟩

instance (x : Except Exn α) (p : α → Prop) [DecidablePred p] : Decidable (∃ a, x = .ok a ∧ p a) :=
  match x with
  | .error _ => isFalse (by simp)
  | .ok a => decidable_of_iff (p a) (by simp)

instance (x : Except Exn α) (p : α → Prop) [DecidablePred p] : Decidable (∀ a, x = .ok a → p a) :=
  match x with
  | .error _ => isTrue nofun
  | .ok a => decidable_of_iff (p a) (by simp)

end Pure

/-! ## Stateful programs

A handler that raises leaves behind what it wrote before, so the state is returned next to the
outcome and not inside of it. -/

/-- A computation over a mutable state of type `σ` that may raise. -/
def Prog (σ α : Type) : Type := σ → Except Exn α × σ

namespace Prog

variable {σ τ α β : Type}

instance : Monad (Prog σ) where
  pure a := fun s => (.ok a, s)
  bind m f := fun s =>
    match m s with
    | (.ok a, s') => f a s'
    | (.error e, s') => (.error e, s')

/-- What a sequence does: the rest runs from the state that the first call left, and a raise of the
first call ends the sequence in that state. -/
theorem bind_apply (m : Prog σ α) (f : α → Prog σ β) (s : σ) :
    (m >>= f) s = match m s with
      | (.ok a, s') => f a s'
      | (.error e, s') => (.error e, s') := rfl

/-- Read the state. -/
def get : Prog σ σ := fun s => (.ok s, s)

/-- Write the state. -/
def modify (f : σ → σ) : Prog σ Unit := fun s => (.ok (), f s)

/-- `raise e`. -/
def raise (e : Exn) : Prog σ α := fun s => (.error e, s)

/-- Call a function that touches no state but may raise. -/
def ofExcept (x : Except Exn α) : Prog σ α := fun s => (x, s)

/-- Call a method of the sub-object `proj s`, writing the sub-object back with `put`. -/
def zoom (proj : σ → τ) (put : τ → σ → σ) (m : Prog τ α) : Prog σ α := fun s =>
  match m (proj s) with
  | (r, t) => (r, put t s)

/-- `for x in xs: body x`. -/
def each {ι : Type} (body : ι → Prog σ Unit) : List ι → Prog σ Unit
  | [] => pure ()
  | x :: xs => do
    body x
    each body xs

/-! ## Running a program

One equation per statement: what a sequence that starts with it does from a given state. -/

section Run

variable (s : σ) (f : α → Prog σ β)

@[simp] theorem pure_apply (a : α) : (pure a : Prog σ α) s = (.ok a, s) := rfl

@[simp] theorem pure_bind_apply (a : α) : ((pure a : Prog σ α) >>= f) s = f a s := rfl

@[simp] theorem get_bind_apply (f : σ → Prog σ β) : (get >>= f) s = f s s := rfl

@[simp] theorem modify_apply (g : σ → σ) : modify g s = (.ok (), g s) := rfl

@[simp] theorem modify_bind_apply (g : σ → σ) (f : Unit → Prog σ β) :
    (modify g >>= f) s = f () (g s) := rfl

@[simp] theorem raise_apply (e : Exn) : (raise e : Prog σ α) s = (.error e, s) := rfl

/-- A pure call leaves the state as it is, whether it returns or raises. -/
@[simp] theorem ofExcept_apply (x : Except Exn α) : ofExcept x s = (x, s) := rfl

@[simp] theorem ofExcept_ok_bind_apply (a : α) : (ofExcept (.ok a) >>= f) s = f a s := rfl

@[simp] theorem ofExcept_error_bind_apply (e : Exn) :
    (ofExcept (.error e) >>= f) s = (.error e, s) := rfl

theorem bind_apply_of_ok {m : Prog σ α} {a : α} {s' : σ} (h : m s = (.ok a, s')) :
    (m >>= f) s = f a s' := by
  rw [bind_apply, h]

theorem bind_apply_of_error {m : Prog σ α} {e : Exn} {s' : σ} (h : m s = (.error e, s')) :
    (m >>= f) s = (.error e, s') := by
  rw [bind_apply, h]

@[simp] theorem bind_pure_snd (m : Prog σ α) (g : α → β) :
    ((m >>= fun a => (pure (g a) : Prog σ β)) s).2 = (m s).2 := by
  rw [bind_apply]
  rcases m s with ⟨_ | _, _⟩ <;> rfl

@[simp] theorem each_singleton {ι : Type} (body : ι → Prog σ Unit) (x : ι) :
    each body [x] s = body x s := by
  rw [each, bind_apply]
  rcases body x s with ⟨_ | _, _⟩ <;> rfl

end Run

/-! ## Weakest preconditions

Two postconditions, for the normal end and for the exceptional one. The loop rule carries the items
that are left. -/

/-- `wp m Q E s`: from `s`, `m` ends normally with `Q` or raises with `E`. -/
def wp (m : Prog σ α) (Q : α → σ → Prop) (E : Exn → σ → Prop) (s : σ) : Prop :=
  match m s with
  | (.ok a, s') => Q a s'
  | (.error e, s') => E e s'

variable {Q : α → σ → Prop} {E : Exn → σ → Prop} {s : σ}

/-- A read ends normally, with the state as its value. -/
@[simp] theorem wp_get {Q : σ → σ → Prop} : wp get Q E s ↔ Q s s := Iff.rfl

/-- Sequencing: run `m`, then the rest from the state `m` left; a raise skips the rest. -/
@[simp] theorem wp_bind (m : Prog σ α) (f : α → Prog σ β) {Q : β → σ → Prop} :
    wp (m >>= f) Q E s ↔ wp m (fun a s' => wp (f a) Q E s') E s := by
  unfold wp
  rw [bind_apply]
  rcases m s with ⟨_ | _, _⟩ <;> exact Iff.rfl

theorem wp_mono {m : Prog σ α} {Q' : α → σ → Prop} {E' : Exn → σ → Prop}
    (h : wp m Q E s) (hQ : ∀ a s', Q a s' → Q' a s') (hE : ∀ e s', E e s' → E' e s') :
    wp m Q' E' s := by
  unfold wp at h ⊢
  -- the call ended one way or the other, and each end has its own weakening
  rcases hm : m s with ⟨_ | a, s'⟩
  · rw [hm] at h; exact hE _ _ h
  · rw [hm] at h; exact hQ _ _ h

/-- The loop rule: a property of the remaining items and the state that every round keeps,
whether the round ends normally or raises. -/
theorem wp_each {ι : Type} {body : ι → Prog σ Unit} {I : List ι → σ → Prop}
    (hstep : ∀ x xs s, I (x :: xs) s → wp (body x) (fun _ => I xs) E s) :
    ∀ xs s, I xs s → wp (each body xs) (fun _ => I []) E s
  | [], _, h => h
  | x :: xs, s, h => by
    rw [each, wp_bind]
    exact wp_mono (hstep x xs s h) (fun _ s' hs' => wp_each hstep xs s' hs') (fun _ _ he => he)

/-! ## Invariants

`Keeps I m`: a call of `m` from a state with `I` leaves a state with `I`, whether it returns
or raises. -/

section Keeps

variable {I : σ → Prop}

/-- The call leaves a state with `I` when it starts from one, at either end. -/
def Keeps (I : σ → Prop) (m : Prog σ α) : Prop := ∀ s, I s → I (m s).2

theorem Keeps.pure (a : α) : Keeps I (Pure.pure a : Prog σ α) := fun _ h => h

theorem Keeps.ofExcept (x : Except Exn α) : Keeps I (ofExcept x) := fun _ h => h

theorem Keeps.modify {f : σ → σ} (h : ∀ s, I s → I (f s)) : Keeps I (modify f) := h

/-- A sequence keeps what its calls keep. Where the first call raises, the rest is not run. -/
theorem Keeps.bind {m : Prog σ α} {f : α → Prog σ β} (hm : Keeps I m) (hf : ∀ a, Keeps I (f a)) :
    Keeps I (m >>= f) := by
  intro s hs
  have hm' := hm s hs
  rw [bind_apply]
  -- after a raise the state is the one the first call left
  rcases hrun : m s with ⟨e | a, s'⟩
  · rw [hrun] at hm'; exact hm'
  · rw [hrun] at hm'; exact hf a s' hm'

/-- After a read of the state, the rest starts from the state that was read. -/
theorem Keeps.get_bind {f : σ → Prog σ β} (h : ∀ s, I s → I (f s s).2) : Keeps I (get >>= f) := h

/-- A loop keeps what each of its rounds keeps, however many of them are run. -/
theorem Keeps.each {ι : Type} {body : ι → Prog σ Unit} :
    ∀ {xs : List ι}, (∀ x ∈ xs, Keeps I (body x)) → Keeps I (each body xs)
  | [], _ => Keeps.pure ()
  | x :: _, h => (h x List.mem_cons_self).bind fun _ =>
    Keeps.each fun y hy => h y (List.mem_cons_of_mem x hy)

end Keeps

/-! ### What a call returns

A property of the value alone, whatever becomes of the state. Where the call raises there is nothing
to show. -/

section Yields

variable {P : α → Prop}

/-- Whatever the call returns has the property. -/
def Yields (P : α → Prop) (m : Prog σ α) : Prop := ∀ s a, (m s).1 = .ok a → P a

theorem Yields.mono {Q : α → Prop} {m : Prog σ α} (h : Yields P m) (hPQ : ∀ a, P a → Q a) :
    Yields Q m := fun s a ha => hPQ a (h s a ha)

theorem Yields.pure {a : α} (h : P a) : Yields P (Pure.pure a : Prog σ α) := by
  rintro s _ ⟨⟩
  exact h

/-- What a sequence returns is what its last call returns. -/
theorem Yields.bind {m : Prog σ β} {f : β → Prog σ α} (h : ∀ b, Yields P (f b)) :
    Yields P (m >>= f) := by
  intro s a ha
  rw [bind_apply] at ha
  -- a sequence that returned got past its first call
  rcases hm : m s with ⟨e | b, s'⟩
  · rw [hm] at ha
    cases ha
  · rw [hm] at ha
    exact h b s' a ha

/-- The rest is only run when the call before it returned. -/
theorem Yields.ofExcept_bind {x : Except Exn β} {f : β → Prog σ α}
    (h : ∀ b, x = .ok b → Yields P (f b)) : Yields P (Prog.ofExcept x >>= f) := by
  cases x with
  | error e =>
    rintro s a ⟨⟩
  | ok b => exact h b rfl

end Yields

/-! ### Calls that return

The counterpart: nothing but the normal end. A loop returns if an invariant that its rounds keep
lets each of them return. -/

section Returns

/-- The call returns: it does not raise. -/
def Returns (m : Prog σ α) (s : σ) : Prop := ∃ a, (m s).1 = .ok a

/-- A call that returns does so with a value and a state. -/
theorem returns_iff {m : Prog σ α} {s : σ} : Returns m s ↔ ∃ a s', m s = (.ok a, s') :=
  ⟨fun ⟨a, h⟩ => ⟨a, (m s).2, Prod.ext h rfl⟩, fun ⟨a, _, h⟩ => ⟨a, by rw [h]⟩⟩

/-- A sequence returns if its first call does, and the rest does from the state that call leaves. -/
theorem Returns.bind {m : Prog σ α} {f : α → Prog σ β} {s : σ} (hm : Returns m s)
    (hf : ∀ a, Returns (f a) (m s).2) : Returns (m >>= f) s := by
  obtain ⟨a, s', hrun⟩ := returns_iff.mp hm
  have hfa := hf a
  rw [hrun] at hfa
  rw [Returns, bind_apply_of_ok _ _ hrun]
  exact hfa

/-- A loop returns if its rounds do from states with an invariant that they keep. -/
theorem Returns.each {ι : Type} {body : ι → Prog σ Unit} {I : σ → Prop} :
    ∀ {xs : List ι} {s : σ}, (∀ x ∈ xs, Keeps I (body x)) →
      (∀ x ∈ xs, ∀ s, I s → Returns (body x) s) → I s → Returns (each body xs) s
  | [], _, _, _, _ => ⟨(), rfl⟩
  | x :: _, s, hkeeps, hret, hI =>
    (hret x List.mem_cons_self s hI).bind fun _ =>
      Returns.each (fun y hy => hkeeps y (List.mem_cons_of_mem x hy))
        (fun y hy => hret y (List.mem_cons_of_mem x hy)) (hkeeps x List.mem_cons_self s hI)

/-- The rounds of a loop that returned did. -/
theorem Returns.of_each {ι : Type} {body : ι → Prog σ Unit} :
    ∀ {xs : List ι} {s : σ}, Returns (Prog.each body xs) s → ∀ x ∈ xs, ∃ s', Returns (body x) s'
  | [], _, _, x, hx => absurd hx List.not_mem_nil
  | y :: ys, s, h, x, hx => by
    -- the first round returned too, else the loop would have ended there
    rcases hy : body y s with ⟨e | ⟨⟩, s'⟩
    · obtain ⟨a, ha⟩ := h
      rw [Prog.each, bind_apply_of_error _ _ hy] at ha
      cases ha
    · rw [Returns, Prog.each, bind_apply_of_ok _ _ hy] at h
      rcases List.mem_cons.mp hx with rfl | hx
      · exact ⟨s, (), by rw [hy]⟩
      · exact Returns.of_each h x hx

end Returns

/-! ### Two calls side by side

`Paired R m m'`: from states that `R` relates, both calls return the same value or both
raise, and they leave states that `R` relates. -/

section Paired

variable {τ : Type} {R : σ → τ → Prop}

/-- The same value, or an exception on both sides. -/
def Matches : Except Exn α → Except Exn α → Prop
  | .ok a, .ok b => a = b
  | .error _, .error _ => True
  | _, _ => False

/-- From states that `R` relates, the two calls leave states that it relates, and both return the
same value or both raise. -/
def Paired (R : σ → τ → Prop) (m : Prog σ α) (m' : Prog τ α) : Prop :=
  ∀ s t, R s t → R (m s).2 (m' t).2 ∧ Matches (m s).1 (m' t).1

/-- An outcome matches itself. -/
theorem Matches.refl : ∀ r : Except Exn α, Matches r r
  | .ok _ => rfl
  | .error _ => trivial

/-- The same value on both sides. -/
theorem Paired.pure (a : α) : Paired R (Pure.pure a) (Pure.pure a) := fun _ _ h => ⟨h, rfl⟩

theorem Paired.ofExcept (x : Except Exn α) : Paired R (ofExcept x) (ofExcept x) :=
  fun _ _ h => ⟨h, .refl x⟩

theorem Paired.modify {f : σ → σ} {f' : τ → τ} (h : ∀ s t, R s t → R (f s) (f' t)) :
    Paired R (modify f) (modify f') := fun s t hst => ⟨h s t hst, rfl⟩

/-- Two sequences side by side: since their first calls match, both go on with the same value or
both end. -/
theorem Paired.bind {m : Prog σ α} {m' : Prog τ α} {f : α → Prog σ β} {f' : α → Prog τ β}
    (hm : Paired R m m') (hf : ∀ a, Paired R (f a) (f' a)) : Paired R (m >>= f) (m' >>= f') := by
  intro s t hst
  obtain ⟨hR, hres⟩ := hm s t hst
  rw [bind_apply, bind_apply]
  -- of the four combinations two are excluded, as one side raised and the other did not
  rcases hrun : m s with ⟨e | a, s'⟩ <;> rcases hrun' : m' t with ⟨e' | a', t'⟩ <;>
    simp only [hrun, hrun'] at hR hres
  · exact ⟨hR, trivial⟩
  · exact hres.elim
  · exact hres.elim
  · obtain rfl : a = a' := hres
    exact hf a s' t' hR

theorem Paired.each {ι : Type} {body : ι → Prog σ Unit} {body' : ι → Prog τ Unit}
    (h : ∀ x, Paired R (body x) (body' x)) : ∀ xs, Paired R (each body xs) (each body' xs)
  | [] => Paired.pure ()
  | x :: xs => (h x).bind fun _ => Paired.each h xs

/-- Two loops whose rounds keep a relation that may speak of the rounds to come. Where a round
raises on both sides, some are left over. -/
theorem matches_each {ι : Type} {R : List ι → σ → τ → Prop} {body : ι → Prog σ Unit}
    {body' : ι → Prog τ Unit} (hstep : ∀ x xs s t, R (x :: xs) s t →
      R xs (body x s).2 (body' x t).2 ∧ Matches (body x s).1 (body' x t).1) {s : σ} {t : τ} :
    ∀ xs, R xs s t → ∃ rest, R rest (each body xs s).2 (each body' xs t).2
  | [], h => ⟨[], h⟩
  | x :: xs, h => by
    obtain ⟨hR, hres⟩ := hstep x xs s t h
    rw [each, each, bind_apply, bind_apply]
    rcases hrun : body x s with ⟨e | a, s'⟩ <;> rcases hrun' : body' x t with ⟨e' | a', t'⟩ <;>
      simp only [hrun, hrun'] at hR hres
    · exact ⟨xs, hR⟩
    · exact hres.elim
    · exact hres.elim
    · exact matches_each hstep xs hR

end Paired

end Prog

end Py
