import Mathlib.Tactic.Ring
import Mathlib.Tactic.Linarith

/-!
# Serial — sequence numbers that wrap

A counter that grows without bound is sent as its remainder modulo `2 * h`. The receiver sees the
remainders alone, and asks which of two counters is ahead.

* `delta` — the signed distance of two remainders.
* **`delta_emod`** — it is the distance of the counters as long as these are less than `h` apart.
* `delta_emod_half` — at a distance of exactly `h` it reads as `-h`, so "positive" is never
  reported of a counter that is not ahead.
-/

namespace Serial

/-- The signed distance from `b` to `a` modulo `2 * h`, in `[-h, h)`. -/
def delta (h a b : ℤ) : ℤ :=
  let diff := (a - b) % (2 * h)
  if diff ≥ h then diff - 2 * h else diff

/-- Only the remainders of two counters enter into their distance. -/
theorem delta_congr (h x y : ℤ) : delta h (x % (2 * h)) (y % (2 * h)) = delta h x y := by
  simp only [delta, ← Int.sub_emod]

/-- Counters less than `h` apart are told apart by their remainders. -/
theorem delta_emod {h x y : ℤ} (hlo : -h ≤ x - y) (hhi : x - y < h) :
    delta h (x % (2 * h)) (y % (2 * h)) = x - y := by
  rw [delta_congr, delta]
  rcases lt_or_ge (x - y) 0 with hneg | hpos
  -- behind: the remainder is in the upper half, and is shifted down again
  · have hmod : (x - y) % (2 * h) = x - y + 2 * h := by
      rw [← Int.add_emod_right]
      exact Int.emod_eq_of_lt (by omega) (by omega)
    simp only [hmod]
    rw [if_pos (by omega)]
    omega
  -- ahead: the remainder is the distance
  · have hmod : (x - y) % (2 * h) = x - y := Int.emod_eq_of_lt hpos (by omega)
    simp only [hmod]
    rw [if_neg (by omega)]

/-- At the largest distance the counter ahead reads as the one behind. -/
theorem delta_emod_half {h x y : ℤ} (hh : 0 < h) (hxy : x - y = h) :
    delta h (x % (2 * h)) (y % (2 * h)) = -h := by
  rw [delta_congr, delta, hxy]
  have hmod : h % (2 * h) = h := Int.emod_eq_of_lt (by omega) (by omega)
  simp only [hmod]
  rw [if_pos (by omega)]
  omega

end Serial
