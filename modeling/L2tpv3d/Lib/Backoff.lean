import Mathlib.Algebra.Order.Field.Basic
import Mathlib.Tactic.Ring
import Mathlib.Tactic.Linarith

/-!
# Backoff — capped exponential back-off

A sender that repeats itself waits `delay r cap k` after its `k`-th attempt, counted from
zero: `r`, then twice as long each time, but never longer than `cap`. `Spaced` says of a list
of points in time that each one is late enough after the one before it.

* `delay_succ` — the delay is its own recurrence: double, then cap.
* `Spaced.concat` — one attempt more, once the delay after the last one has passed.
-/

namespace Backoff

variable {K : Type} [Field K] [LinearOrder K]

/-- The delay after attempt `k`: `r` doubled `k` times, at most `cap`. -/
def delay (r cap : K) (k : ℕ) : K := min (r * 2 ^ k) cap

variable {r cap : K}

/-- The first delay is not doubled yet. That it is `r` needs the cap to lie above it. -/
theorem delay_zero (h : r ≤ cap) : delay r cap 0 = r := by
  rw [delay, pow_zero, mul_one, min_eq_left h]

/-- Doubling and capping the delay gives the next one. -/
theorem delay_succ [IsStrictOrderedRing K] (hcap : 0 ≤ cap) (k : ℕ) :
    min (delay r cap k * 2) cap = delay r cap (k + 1) := by
  rw [delay, delay, pow_succ, ← mul_assoc, min_mul_of_nonneg _ _ (by norm_num : (0 : K) ≤ 2),
    min_assoc, min_eq_right (by linarith : cap ≤ cap * 2)]

/-- Each time is at least `gap k` after the one before it, which has position `k`. -/
def Spaced (gap : ℕ → K) (times : List K) : Prop :=
  ∀ k t u, times[k]? = some t → times[k + 1]? = some u → t + gap k ≤ u

variable {gap : ℕ → K} {times : List K}

/-- A sender that has not sent has kept every distance. -/
theorem Spaced.nil : Spaced gap [] := fun k t u ht _ => by simp at ht

/-- One time more at the end. -/
theorem Spaced.concat (h : Spaced gap times) {u : K}
    (hlast : ∀ t, times.getLast? = some t → t + gap (times.length - 1) ≤ u) :
    Spaced gap (times ++ [u]) := by
  intro k t v ht hv
  have hlt : k + 1 < (times ++ [u]).length := (List.getElem?_eq_some_iff.mp hv).1
  rw [List.length_append, List.length_singleton] at hlt
  rw [List.getElem?_append_left (by omega)] at ht
  -- the pair that ends at the new time is the only one that the list did not have before
  rcases Nat.lt_or_ge (k + 1) times.length with hin | hend
  · rw [List.getElem?_append_left hin] at hv
    exact h k t v ht hv
  · -- the last pair of the longer list
    obtain rfl : k = times.length - 1 := by omega
    rw [List.getElem?_append_right hend,
      show times.length - 1 + 1 - times.length = 0 from by omega] at hv
    cases hv
    exact hlast t (by rw [List.getLast?_eq_getElem?, ht])

end Backoff
