import Mathlib.Logic.Basic

/-!
# Transition — runs of a guarded transition system

A system is a step function on states together with a guard that says which events may
happen in which states. Nothing is assumed of the states or of the events.

* `Reach` — the states that some run leads to; **`Reach.invariant`** — the induction that every
  safety result of a system goes through: what holds at the start and is kept by each step.
* `Guarded` — a run written as a list of events, which can be evaluated.
* **`guarded_iff_along`** — a guard that is exact: a property holds all along a run if and only if
  every step of the run meets the guard.
* `matched`, `stands_run` — the run of another system that a run stands for, step by step.
* `charge`, **`potential_le`** — a price summed over a run, and the potential method.
* `Rounds`, **`Rounds.progress`** — a run cut into rounds, each closed by an event that is `due`, and
  the induction of a result about what enough rounds achieve.
-/

namespace Transition

variable {σ ε : Type} (step : σ → ε → σ) (ok : σ → ε → Prop)

/-- The states that runs from `s₀` lead to, every event being allowed where it happens. -/
inductive Reach (s₀ : σ) : σ → Prop where
  | start : Reach s₀ s₀
  | next {s : σ} {e : ε} : Reach s₀ s → ok s e → Reach s₀ (step s e)

/-- The events of `es` are allowed, one after the other, from `s` on. -/
def Guarded : σ → List ε → Prop
  | _, [] => True
  | s, e :: es => ok s e ∧ Guarded (step s e) es

/-- A run written as a list can be checked by evaluation. -/
instance Guarded.decidable [∀ s e, Decidable (ok s e)] :
    ∀ s es, Decidable (Guarded step ok s es)
  | _, [] => instDecidableTrue
  | s, e :: es => @instDecidableAnd _ _ _ (Guarded.decidable (step s e) es)

variable {step ok} {s₀ s : σ}

/-- A property of the start that every allowed step keeps holds in every state reached. -/
theorem Reach.invariant {I : σ → Prop} (h₀ : I s₀)
    (hstep : ∀ s e, I s → ok s e → I (step s e)) (h : Reach step ok s₀ s) : I s := by
  induction h with
  | start => exact h₀
  | next _ hok ih => exact hstep _ _ ih hok

/-- A run under a stricter guard is one under a looser guard. -/
theorem Reach.mono {ok' : σ → ε → Prop} (hok : ∀ s e, ok s e → ok' s e)
    (h : Reach step ok s₀ s) : Reach step ok' s₀ s := by
  induction h with
  | start => exact .start
  | next _ he ih => exact ih.next (hok _ _ he)

theorem Reach.trans {t : σ} (h : Reach step ok s₀ s) (h' : Reach step ok s t) :
    Reach step ok s₀ t := by
  induction h' with
  | start => exact h
  | next _ hok ih => exact ih.next hok

/-- A run from a state that is reached reaches. -/
theorem Reach.run {es : List ε} (h : Reach step ok s₀ s) (hes : Guarded step ok s es) :
    Reach step ok s₀ (es.foldl step s) := by
  induction es generalizing s with
  | nil => exact h
  | cons e es ih => exact ih (.next h hes.1) hes.2

/-- A property holds all along a run exactly when every event of it is allowed, if allowed events
keep an invariant that implies the property, and any other event breaks the property. -/
theorem guarded_iff_along {I P : σ → Prop} (himp : ∀ s, I s → P s)
    (hkeep : ∀ s e, I s → ok s e → I (step s e))
    (hbreak : ∀ s e, I s → ¬ ok s e → ¬ P (step s e)) (es : List ε) (hI : I s) :
    (∀ pre, pre <+: es → P (pre.foldl step s)) ↔ Guarded step ok s es := by
  induction es generalizing s with
  | nil =>
    refine ⟨fun _ => trivial, fun _ pre hpre => ?_⟩
    rw [List.prefix_nil.mp hpre]
    exact himp s hI
  | cons e es ih =>
    constructor
    · intro h
      -- an event that is not allowed breaks the property right after it
      have hok : ok s e := Classical.byContradiction fun hno =>
        hbreak s e hI hno (h [e] ⟨es, rfl⟩)
      refine ⟨hok, (ih (hkeep s e hI hok)).mp fun pre hpre => ?_⟩
      exact h (e :: pre) (List.cons_prefix_cons.mpr ⟨rfl, hpre⟩)
    · rintro ⟨hok, hrest⟩ pre hpre
      rcases List.prefix_cons_iff.mp hpre with rfl | ⟨pre', rfl, hpre'⟩
      · exact himp s hI
      · exact (ih (hkeep s e hI hok)).mpr hrest pre' hpre'

/-! ## Simulations

Each event of one system is matched by a list of events of the other. What is shown of one event,
that its step is the run of the matching events, then holds of a run. Induction on the run. -/

section Matched

variable {τ η : Type} {step' : τ → η → τ} {I : σ → Prop} {events : σ → ε → List η}

/-- What the events of a run are matched by, each where it happens. -/
def matched (step : σ → ε → σ) (events : σ → ε → List η) : σ → List ε → List η
  | _, [] => []
  | s, e :: es => events s e ++ matched step events (step s e) es

/-- **A run stands for a run**, if every allowed step stands for the events it is matched by. -/
theorem stands_run (stands : σ → τ) (hkeep : ∀ s e, I s → ok s e → I (step s e))
    (hstep : ∀ s e, I s → ok s e → stands (step s e) = (events s e).foldl step' (stands s))
    {es : List ε} (hI : I s) (hes : Guarded step ok s es) :
    stands (es.foldl step s) = (matched step events s es).foldl step' (stands s) := by
  induction es generalizing s with
  | nil => rfl
  | cons e es ih =>
    -- the events that match the first step come first, then those of the rest
    rw [matched, List.foldl_append, ← hstep s e hI hes.1]
    exact ih (hkeep s e hI hes.1) hes.2

end Matched

/-! ## Potentials

A bound on what a whole run costs, where a single event may cost much: the potential is what earlier
events have paid in advance. Induction on the run. -/

variable (step) in
/-- What the events of a run are charged, each where it happens. -/
def charge (price : σ → ε → Nat) : σ → List ε → Nat
  | _, [] => 0
  | s, e :: es => price s e + charge price (step s e) es

/-- A potential that an event raises by at most `k` times its price is raised by at most `k` times
the charge. -/
theorem potential_le {I : σ → Prop} {Φ : σ → Nat} {price : σ → ε → Nat} {k : Nat}
    (hstep : ∀ s e, I s → I (step s e) ∧ Φ (step s e) ≤ Φ s + k * price s e) (es : List ε) (hI : I s) :
    Φ (es.foldl step s) ≤ Φ s + k * charge step price s es := by
  induction es generalizing s with
  | nil => exact Nat.le_refl _
  | cons e es ih =>
    obtain ⟨hI', hle⟩ := hstep s e hI
    -- the price of the first event, then the charge of the rest
    have hrest := ih hI'
    rw [List.foldl_cons, charge, Nat.mul_add]
    omega

/-! ## Rounds

A round may contain any events that are allowed, as long as it is closed by one that is `due`. The
induction is on the number of the rounds; the invariant is indexed by it. -/

variable (step ok)

/-- `n` rounds: in each, a run leads to a state that is `due` since the round began, and the event
`e` closes the round there. -/
inductive Rounds (due : σ → σ → Prop) (e : ε) : Nat → σ → σ → Prop where
  | done (s : σ) : Rounds due e 0 s s
  | round {n : Nat} {s t u : σ} : Reach step ok s t → due s t → Rounds due e n (step t e) u →
      Rounds due e (n + 1) s u

variable {step ok} {due : σ → σ → Prop} {e : ε}

/-- What each round brings one further, `n` rounds bring `n` further. -/
theorem Rounds.progress {I : Nat → σ → Prop} {n k : Nat} {u : σ}
    (hround : ∀ k s t, I k s → Reach step ok s t → due s t → I (k + 1) (step t e))
    (h : Rounds step ok due e n s u) (hI : I k s) : I (k + n) u := by
  induction h generalizing k with
  | done s => exact hI
  | round hreach hdue _ ih =>
    rw [Nat.add_comm _ 1, ← Nat.add_assoc]
    exact ih (hround _ _ _ hI hreach hdue)

end Transition
