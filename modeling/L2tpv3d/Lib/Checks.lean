import Mathlib.Logic.Basic

/-!
# Checks — what a sequence of checks raises

A reader checks its input step by step and stops at the first check that fails. Some checks
complain, with an error of the reader's own; others let an error of something they call escape.

* `Check` — a condition, and which of the two its failure is.
* `Passes cs` — every check passes; `Guarded cs` — the first check that fails, if any, complains.
* `Follows own x cs` — `x` ends normally if and only if `cs` passes, and raises nothing but errors
  of its `own` if and only if `cs` is guarded. Its rules follow the sequence of the calls.
-/

namespace Checks

variable {ε α β : Type} {own : ε → Prop}

/-- A check of the reader. `complaint ok` fails with an error of the reader's own, `escape ok` with
one that something the reader calls lets escape. -/
inductive Check where
  | complaint (ok : Prop)
  | escape (ok : Prop)

/-- Every check passes. -/
def Passes : List Check → Prop
  | [] => True
  | .complaint ok :: cs => ok ∧ Passes cs
  | .escape ok :: cs => ok ∧ Passes cs

/-- The first check that fails, if any does, is a complaint. What comes after a complaint that fails
is not looked at any more. -/
def Guarded : List Check → Prop
  | [] => True
  | .complaint ok :: cs => ok → Guarded cs
  | .escape ok :: cs => ok ∧ Guarded cs

theorem passes_append (cs ds : List Check) : Passes (cs ++ ds) ↔ Passes cs ∧ Passes ds := by
  induction cs with
  | nil => simp [Passes]
  | cons c cs ih =>
    cases c with
    | complaint ok => exact (and_congr_right fun _ => ih).trans and_assoc.symm
    | escape ok => exact (and_congr_right fun _ => ih).trans and_assoc.symm

/-- The second sequence is only reached when the first one passes, so only then does it matter how
its checks fail. -/
theorem guarded_append (cs ds : List Check) :
    Guarded (cs ++ ds) ↔ Guarded cs ∧ (Passes cs → Guarded ds) := by
  induction cs with
  | nil => simp [Guarded, Passes]
  | cons c cs ih =>
    cases c with
    | complaint ok =>
      -- a complaint that fails ends both sides; one that passes is left to the induction
      refine (imp_congr_right fun _ => ih).trans ?_
      exact ⟨fun h => ⟨fun hok => (h hok).1, fun hp => (h hp.1).2 hp.2⟩,
        fun h hok => ⟨h.1 hok, fun hp => h.2 ⟨hok, hp⟩⟩⟩
    | escape ok =>
      -- an escape must pass on both sides
      refine (and_congr_right fun _ => ih).trans ?_
      exact ⟨fun h => ⟨⟨h.1, h.2.1⟩, fun hp => h.2.2 hp.2⟩,
        fun h => ⟨h.1.1, h.1.2, fun hp => h.2 ⟨h.1.1, hp⟩⟩⟩

/-- Where no check fails, none lets an error escape. -/
theorem Passes.guarded : ∀ {cs : List Check}, Passes cs → Guarded cs
  | [], _ => trivial
  | .complaint _ :: _, h => fun _ => h.2.guarded
  | .escape _ :: _, h => ⟨h.1, h.2.guarded⟩

/-- Only errors of its own. -/
def Clean (own : ε → Prop) (x : Except ε α) : Prop := ∀ e, x = .error e → own e

/-- `x` does what the checks say: it ends normally if and only if they pass, and raises only errors
of the reader's own if and only if they are guarded. -/
structure Follows (own : ε → Prop) (x : Except ε α) (cs : List Check) : Prop where
  passes : (∃ a, x = .ok a) ↔ Passes cs
  clean : Clean own x ↔ Guarded cs

namespace Follows

variable {x : Except ε α} {f : α → Except ε β} {cs ds : List Check}

/-- **A sequence of two calls.** -/
theorem bind (hx : Follows own x cs) (hf : ∀ a, x = .ok a → Follows own (f a) ds) :
    Follows own (x >>= f) (cs ++ ds) := by
  cases hrun : x with
  | error e =>
    -- an error of the first call stands for a check of the first sequence that failed
    have hno : ¬ Passes cs := fun hp => by
      obtain ⟨a, ha⟩ := hx.passes.mpr hp
      rw [hrun] at ha
      cases ha
    refine ⟨iff_of_false (fun ⟨b, hb⟩ => by cases hb) fun hp => hno ((passes_append cs ds).mp hp).1, ?_⟩
    rw [guarded_append, ← hx.clean, hrun]
    exact ⟨fun h => ⟨fun e' he' => h e' (by cases he'; rfl), fun hp => absurd hp hno⟩,
      fun h e' he' => h.1 e' (by cases he'; rfl)⟩
  | ok a =>
    -- a value of the first call hands over to the second sequence
    have hp : Passes cs := hx.passes.mp ⟨a, hrun⟩
    have hfa := hf a hrun
    refine ⟨hfa.passes.trans ?_, hfa.clean.trans ?_⟩
    · rw [passes_append]
      exact ⟨fun h => ⟨hp, h⟩, And.right⟩
    · rw [guarded_append]
      exact ⟨fun h => ⟨hp.guarded, fun _ => h⟩, fun h => h.2 hp⟩

/-- The first call makes one check. -/
theorem cons {c : Check} (hx : Follows own x [c]) (hf : ∀ a, x = .ok a → Follows own (f a) ds) :
    Follows own (x >>= f) (c :: ds) :=
  hx.bind hf

end Follows

end Checks
