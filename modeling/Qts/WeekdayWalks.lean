import Mathlib.Data.Int.Order.Basic
import Mathlib.Order.Basic

/-! # Walks over weekdays -/

namespace Qts

/-- The days that a type of dates holds. -/
structure DateRange where
  first : Int
  last : Int

namespace DateRange

def holds (dates : DateRange) (day : Int) : Bool :=
  decide (dates.first ≤ day) && decide (day ≤ dates.last)

theorem holds_iff {dates : DateRange} {day : Int} :
    dates.holds day = true ↔ dates.first ≤ day ∧ day ≤ dates.last := by
  simp [holds]

theorem holds_of_between {dates : DateRange} {first day last : Int}
    (firstHeld : dates.holds first = true) (lastHeld : dates.holds last = true)
    (lower : first ≤ day) (upper : day ≤ last) : dates.holds day = true :=
  holds_iff.mpr ⟨(holds_iff.mp firstHeld).1.trans lower, upper.trans (holds_iff.mp lastHeld).2⟩

/-- The number of a day in its week, zero for a Monday. -/
def weekday (day : Int) : Int :=
  (day + 3) % 7

def isWeekday (day : Int) : Bool :=
  decide (weekday day < 5)

/-- So many weekdays on from a day, one day at a time. -/
def walkForward (dates : DateRange) (remaining : Nat) (current : Int) : Option Int :=
  match remaining with
  | 0 => some current
  | left + 1 =>
    if _ : dates.holds (current + 1) = true then
      if isWeekday (current + 1) then walkForward dates left (current + 1)
      else walkForward dates (left + 1) (current + 1)
    else none
termination_by (dates.last - current).toNat
decreasing_by
  all_goals
    rename_i inside _
    rw [holds_iff] at inside
    omega

/-- So many weekdays back from a day, one day at a time. -/
def walkBack (dates : DateRange) (remaining : Nat) (current : Int) : Option Int :=
  match remaining with
  | 0 => some current
  | left + 1 =>
    if _ : dates.holds (current - 1) = true then
      if isWeekday (current - 1) then walkBack dates left (current - 1)
      else walkBack dates (left + 1) (current - 1)
    else none
termination_by (current - dates.first).toNat
decreasing_by
  all_goals
    rename_i inside _
    rw [holds_iff] at inside
    omega

variable {dates wider : DateRange}

/-- A walk of some weekdays takes at least as many days, and stays in the range. -/
theorem walkBack_le {remaining : Nat} {current day : Int}
    (found : dates.walkBack remaining current = some day) :
    day + remaining ≤ current ∧ (0 < remaining → dates.first ≤ day) := by
  fun_induction walkBack dates remaining current with
  | case1 current =>
    obtain rfl := Option.some.inj found
    simp
  | case2 current left inside isWeekday ih =>
    rw [holds_iff] at inside
    obtain ⟨days, bound⟩ := ih found
    constructor
    · push_cast
      omega
    · intro _
      by_cases more : 0 < left
      · exact bound more
      · obtain rfl : left = 0 := by omega
        rw [walkBack] at found
        obtain rfl := Option.some.inj found
        exact inside.1
  | case3 current left inside notWeekday ih =>
    obtain ⟨days, bound⟩ := ih found
    constructor
    · push_cast at days ⊢
      omega
    · exact fun _ => bound (Nat.succ_pos left)
  | case4 => cases found

theorem walkBack_wider (widens : ∀ day, dates.holds day = true → wider.holds day = true)
    {remaining : Nat} {current day : Int} (found : dates.walkBack remaining current = some day) :
    wider.walkBack remaining current = some day := by
  fun_induction walkBack dates remaining current with
  | case1 current =>
    rw [walkBack]
    exact found
  | case2 current left inside isWeekday ih =>
    rw [walkBack, dif_pos (widens _ inside), if_pos isWeekday]
    exact ih found
  | case3 current left inside notWeekday ih =>
    rw [walkBack, dif_pos (widens _ inside), if_neg notWeekday]
    exact ih found
  | case4 => cases found

end DateRange

def pythonDates : DateRange := ⟨-719162, 2932896⟩

/-- The days of `NaiveDate`. -/
def naiveDates : DateRange := ⟨-96465293, 95026236⟩

end Qts
