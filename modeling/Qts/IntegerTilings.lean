import Mathlib.Algebra.Order.Ring.Int

/-! # Tilings of the integers -/

namespace Qts

/-- The interval of each integer contains it, and two intervals are equal or disjoint. -/
structure EqualTiling (length : Int) (start : Int → Int) : Prop where
  start_le : ∀ point, start point ≤ point
  lt_finish : ∀ point, point < start point + length
  coherent : ∀ first second, start first = start second ∨
    start first + length ≤ start second ∨ start second + length ≤ start first

def gridStart (length anchor point : Int) : Int :=
  point - (point + anchor) % length

section Grid

variable {length anchor : Int}

theorem gridStart_le (pos : 0 < length) (anchor point : Int) :
    gridStart length anchor point ≤ point := by
  have remainder := Int.emod_nonneg (point + anchor) pos.ne'
  rw [gridStart]
  omega

theorem lt_gridStart_add (pos : 0 < length) (anchor point : Int) :
    point < gridStart length anchor point + length := by
  have remainder := Int.emod_lt_of_pos (point + anchor) pos
  rw [gridStart]
  omega

theorem gridStart_zero_add (length anchor point : Int) :
    gridStart length 0 (point + anchor) = gridStart length anchor point + anchor := by
  rw [gridStart, gridStart, add_zero]
  omega

theorem gridStart_add_length (length anchor point : Int) :
    gridStart length anchor (point + length) = gridStart length anchor point + length := by
  rw [gridStart, gridStart, add_right_comm, Int.add_emod_right]
  omega

theorem dvd_gridStart_add (length anchor point : Int) :
    length ∣ gridStart length anchor point + anchor := by
  have known : gridStart length anchor point + anchor =
      point + anchor - (point + anchor) % length := by
    rw [gridStart]
    omega
  rw [known]
  exact Int.dvd_self_sub_emod

theorem add_length_le_of_lt {first second : Int} (firstOnGrid : length ∣ first + anchor)
    (secondOnGrid : length ∣ second + anchor) (before : first < second) :
    first + length ≤ second := by
  have difference : length ∣ second - first := by
    have divides := Int.dvd_sub secondOnGrid firstOnGrid
    have known : second + anchor - (first + anchor) = second - first := by omega
    rwa [known] at divides
  have step := Int.le_of_dvd (by omega) difference
  omega

theorem le_gridStart (pos : 0 < length) {point start : Int} (onGrid : length ∣ start + anchor)
    (below : start ≤ point) : start ≤ gridStart length anchor point := by
  by_contra above
  have near := lt_gridStart_add pos anchor point
  have apart := add_length_le_of_lt (dvd_gridStart_add _ _ point) onGrid (not_le.mp above)
  omega

theorem gridStart_eq (pos : 0 < length) {point start : Int}
    (onGrid : length ∣ start + anchor) (below : start ≤ point) (near : point < start + length) :
    gridStart length anchor point = start := by
  rcases (le_gridStart pos onGrid below).lt_or_eq with later | equal
  · have apart := add_length_le_of_lt onGrid (dvd_gridStart_add _ _ point) later
    have last := gridStart_le pos anchor point
    omega
  · exact equal.symm

theorem gridStart_congr {other : Int} (same : length ∣ anchor - other) (point : Int) :
    gridStart length anchor point = gridStart length other point := by
  obtain ⟨steps, difference⟩ := same
  have split : point + anchor = (point + other) + length * steps := by omega
  rw [gridStart, gridStart, split, Int.add_mul_emod_self_left]

theorem dvd_sub_of_gridStart_eq {other point : Int}
    (same : gridStart length anchor point = gridStart length other point) :
    length ∣ anchor - other := by
  have divides := Int.dvd_sub (dvd_gridStart_add length anchor point)
    (dvd_gridStart_add length other point)
  rwa [same, add_sub_add_left_eq_sub] at divides

theorem gridStart_tiles (pos : 0 < length) : EqualTiling length (gridStart length anchor) where
  start_le := gridStart_le pos anchor
  lt_finish := lt_gridStart_add pos anchor
  coherent first second := by
    have firstOnGrid := dvd_gridStart_add length anchor first
    have secondOnGrid := dvd_gridStart_add length anchor second
    rcases lt_trichotomy (gridStart length anchor first) (gridStart length anchor second) with
      below | equal | above
    · exact .inr (.inl (add_length_le_of_lt firstOnGrid secondOnGrid below))
    · exact .inl equal
    · exact .inr (.inr (add_length_le_of_lt secondOnGrid firstOnGrid above))

end Grid

namespace EqualTiling

variable {length : Int} {start : Int → Int} (tiling : EqualTiling length start)
include tiling

theorem pos : 0 < length := by
  have below := tiling.start_le 0
  have above := tiling.lt_finish 0
  omega

theorem start_eq_of_mem {first second : Int} (below : start first ≤ second)
    (above : second < start first + length) : start second = start first := by
  have startLe := tiling.start_le second
  have ltFinish := tiling.lt_finish second
  rcases tiling.coherent first second with equal | before | after
  · exact equal.symm
  · omega
  · omega

theorem start_next {point : Int} (starts : start point = point) :
    start (point + length) = point + length := by
  have startLe := tiling.start_le (point + length)
  have ltFinish := tiling.lt_finish (point + length)
  rcases tiling.coherent point (point + length) with equal | before | after
  · omega
  · omega
  · omega

theorem start_previous {point : Int} (starts : start point = point) :
    start (point - length) = point - length := by
  have pos := tiling.pos
  have startLe := tiling.start_le (point - 1)
  have ltFinish := tiling.lt_finish (point - 1)
  have prev : start (point - 1) = point - length := by
    rcases tiling.coherent (point - 1) point with equal | before | after
    · omega
    · omega
    · omega
  have same : start (point - length) = start (point - 1) :=
    tiling.start_eq_of_mem prev.le (by omega)
  omega

theorem start_add_mul (steps : Int) :
    start (start 0 + length * steps) = start 0 + length * steps := by
  have pos := tiling.pos
  induction steps using Int.induction_on with
  | zero =>
    rw [mul_zero, add_zero]
    exact tiling.start_eq_of_mem le_rfl (by omega)
  | succ steps ih =>
    have next := tiling.start_next ih
    rwa [add_assoc, ← mul_add_one] at next
  | pred steps ih =>
    have prev := tiling.start_previous ih
    rwa [add_sub_assoc, ← mul_sub_one] at prev

theorem start_eq_gridStart (point : Int) : start point = gridStart length (-start 0) point := by
  obtain ⟨steps, known⟩ := dvd_gridStart_add length (-start 0) point
  have onGrid := tiling.start_add_mul steps
  have grid : start 0 + length * steps = gridStart length (-start 0) point := by omega
  rw [grid] at onGrid
  have below := gridStart_le tiling.pos (-start 0) point
  have above := lt_gridStart_add tiling.pos (-start 0) point
  have same : start point = start (gridStart length (-start 0) point) :=
    tiling.start_eq_of_mem (by omega) (by omega)
  omega

end EqualTiling

theorem equalTiling_iff {length : Int} (pos : 0 < length) (start : Int → Int) :
    EqualTiling length start ↔ ∃ anchor, ∀ point, start point = gridStart length anchor point := by
  constructor
  · intro tiling
    exact ⟨-start 0, tiling.start_eq_gridStart⟩
  · rintro ⟨anchor, onGrid⟩
    obtain rfl : start = gridStart length anchor := funext onGrid
    exact gridStart_tiles pos

end Qts
