import Mathlib.Algebra.BigOperators.Group.List.Basic
import Mathlib.Algebra.Field.Basic
import Mathlib.Order.Lattice

/-! # Ratios at switches -/

namespace Qts

open List

namespace SwitchRatios

universe u v w

variable {Time : Type u} {Holder : Type v} {Value : Type w}

structure Entry (Time : Type u) (Holder : Type v) where
  time : Time
  holder : Holder

@[ext]
structure Switch (Time : Type u) (Holder : Type v) where
  time : Time
  old : Holder
  new : Holder
deriving DecidableEq

def switchesFrom [DecidableEq Holder] (current : Holder) :
    List (Entry Time Holder) → List (Switch Time Holder)
  | [] => []
  | entry :: entries =>
    if entry.holder = current then switchesFrom current entries
    else ⟨entry.time, current, entry.holder⟩ :: switchesFrom entry.holder entries

def holderOf (counts : Time → Bool) (current : Holder) : List (Entry Time Holder) → Holder
  | [] => current
  | entry :: entries =>
    holderOf counts (if counts entry.time then entry.holder else current) entries

variable {entries : List (Entry Time Holder)}

theorem holderOf_none {counts : Time → Bool} (none : ∀ entry ∈ entries, counts entry.time = false)
    (current : Holder) : holderOf counts current entries = current := by
  induction entries generalizing current with
  | nil => rfl
  | cons entry entries ih =>
    rw [holderOf, none entry mem_cons_self]
    exact ih (fun other mem => none other (mem_cons_of_mem _ mem)) current

theorem holderOf_eq_getLast (counts : Time → Bool) (current : Holder)
    (entries : List (Entry Time Holder)) :
    holderOf counts current entries =
      ((entries.filter fun entry => counts entry.time).getLast?.map Entry.holder).getD current := by
  induction entries generalizing current with
  | nil => rfl
  | cons entry entries ih =>
    rw [holderOf, ih]
    by_cases isCounted : counts entry.time = true
    · rw [filter_cons, if_pos isCounted, if_pos isCounted, getLast?_cons]
      cases (entries.filter fun entry => counts entry.time).getLast? <;> rfl
    · rw [filter_cons, if_neg isCounted, if_neg isCounted]

theorem holderOf_mem (counts : Time → Bool) (current : Holder)
    (entries : List (Entry Time Holder)) :
    holderOf counts current entries = current ∨ ∃ entry ∈ entries, counts entry.time = true ∧
      entry.holder = holderOf counts current entries := by
  rw [holderOf_eq_getLast]
  cases last : (entries.filter fun entry => counts entry.time).getLast? with
  | none => exact .inl rfl
  | some entry =>
    obtain ⟨inside, isCounted⟩ := mem_filter.mp (mem_of_getLast? last)
    exact .inr ⟨entry, inside, isCounted, rfl⟩

variable [DecidableEq Holder] {current : Holder} {entry : Entry Time Holder}

theorem switchesFrom_same (same : entry.holder = current) (entries : List (Entry Time Holder)) :
    switchesFrom current (entry :: entries) = switchesFrom current entries := by
  rw [switchesFrom, if_pos same]

theorem switchesFrom_differs (differs : ¬ entry.holder = current)
    (entries : List (Entry Time Holder)) :
    switchesFrom current (entry :: entries) =
      ⟨entry.time, current, entry.holder⟩ :: switchesFrom entry.holder entries := by
  rw [switchesFrom, if_neg differs]

variable {change : Switch Time Holder}

theorem mem_switchesFrom (mem : change ∈ switchesFrom current entries) :
    ∃ entry ∈ entries, entry.time = change.time ∧ entry.holder = change.new := by
  induction entries generalizing current with
  | nil => cases mem
  | cons entry entries ih =>
    rw [switchesFrom] at mem
    split at mem
    · obtain ⟨found, inside, facts⟩ := ih mem
      exact ⟨found, mem_cons_of_mem _ inside, facts⟩
    · rcases mem_cons.mp mem with rfl | later
      · exact ⟨entry, mem_cons_self, rfl, rfl⟩
      · obtain ⟨found, inside, facts⟩ := ih later
        exact ⟨found, mem_cons_of_mem _ inside, facts⟩

theorem mem_switchesFrom_cons (mem : change ∈ switchesFrom entry.holder entries) :
    change ∈ switchesFrom current (entry :: entries) := by
  rw [switchesFrom]
  split
  · next same => rwa [← same]
  · exact mem_cons_of_mem _ mem

variable [LinearOrder Time]

theorem mem_switchesFrom_old
    (ordered : entries.Pairwise fun first second => first.time ≤ second.time)
    (mem : change ∈ switchesFrom current entries) :
    change.old = current ∨ ∃ entry ∈ entries, entry.time ≤ change.time ∧
      entry.holder = change.old := by
  induction entries generalizing current with
  | nil => cases mem
  | cons entry entries ih =>
    obtain ⟨first, rest⟩ := pairwise_cons.mp ordered
    rw [switchesFrom] at mem
    split at mem
    · rcases ih rest mem with isCurrent | ⟨found, inside, facts⟩
      · exact .inl isCurrent
      · exact .inr ⟨found, mem_cons_of_mem _ inside, facts⟩
    · rcases mem_cons.mp mem with rfl | later
      · exact .inl rfl
      · rcases ih rest later with isHolder | ⟨found, inside, facts⟩
        · obtain ⟨reached, inside, sameTime, -⟩ := mem_switchesFrom later
          refine .inr ⟨entry, mem_cons_self, ?_, isHolder.symm⟩
          rw [← sameTime]
          exact first reached inside
        · exact .inr ⟨found, mem_cons_of_mem _ inside, facts⟩

theorem holderOf_quiet (ordered : entries.Pairwise fun first second => first.time ≤ second.time)
    {before time : Time} (earlier : before < time)
    (quiet : ∀ change ∈ switchesFrom current entries, ¬ (before < change.time ∧ change.time < time))
    :
    holderOf (fun other => other < time) current entries =
      holderOf (fun other => other ≤ before) current entries := by
  induction entries generalizing current with
  | nil => rfl
  | cons entry entries ih =>
    obtain ⟨first, rest⟩ := pairwise_cons.mp ordered
    rw [holderOf, holderOf]
    by_cases early : entry.time ≤ before
    · rw [decide_eq_true early, decide_eq_true (early.trans_lt earlier), if_pos rfl]
      exact ih rest fun change mem => quiet change (mem_switchesFrom_cons mem)
    · rw [decide_eq_false early, if_neg Bool.false_ne_true]
      rw [not_le] at early
      by_cases inside : entry.time < time
      · have same : entry.holder = current := by
          by_contra differs
          apply quiet ⟨entry.time, current, entry.holder⟩ _ ⟨early, inside⟩
          rw [switchesFrom_differs differs]
          exact mem_cons_self
        rw [decide_eq_true inside, if_pos rfl, ← same]
        exact ih rest fun change mem => quiet change (mem_switchesFrom_cons mem)
      · rw [decide_eq_false inside, if_neg Bool.false_ne_true, holderOf_none, holderOf_none]
        · intro other mem
          exact decide_eq_false (not_le.mpr (early.trans_le (first other mem)))
        · intro other mem
          exact decide_eq_false (not_lt.mpr ((not_lt.mp inside).trans (first other mem)))

section Products

variable {Item : Type u} [CommMonoid Value]

theorem prod_filter_split (value : Item → Value) {whole first second : Item → Bool}
    {items : List Item} (splits : ∀ item ∈ items, whole item = (first item || second item))
    (apart : ∀ item ∈ items, ¬ (first item = true ∧ second item = true)) :
    ((items.filter whole).map value).prod =
      ((items.filter first).map value).prod * ((items.filter second).map value).prod := by
  induction items with
  | nil => simp
  | cons item items ih =>
    have rest := ih (fun other mem => splits other (mem_cons_of_mem _ mem))
      fun other mem => apart other (mem_cons_of_mem _ mem)
    have isEither := splits item mem_cons_self
    have notBoth := apart item mem_cons_self
    by_cases inFirst : first item = true
    · have notSecond : second item = false := by
        cases other : second item with
        | false => rfl
        | true => exact absurd ⟨inFirst, other⟩ notBoth
      rw [inFirst, Bool.true_or] at isEither
      simp [isEither, inFirst, notSecond, rest, mul_assoc]
    · rw [Bool.not_eq_true] at inFirst
      rw [inFirst, Bool.false_or] at isEither
      by_cases inSecond : second item = true
      · rw [inSecond] at isEither
        simp [isEither, inFirst, inSecond, rest, mul_left_comm]
      · rw [Bool.not_eq_true] at inSecond
        rw [inSecond] at isEither
        simp [isEither, inFirst, inSecond, rest]

end Products

variable [Field Value]

def ratio (value : Holder → Value) (change : Switch Time Holder) : Value :=
  value change.old / value change.new

theorem ratios_telescope (ordered : entries.Pairwise fun first second => first.time ≤ second.time)
    (time : Time) (value : Holder → Value)
    (nonzero : ∀ change ∈ switchesFrom current entries, change.time = time → value change.new ≠ 0) :
    (((switchesFrom current entries).filter fun change => change.time = time).map
        (ratio value)).prod * value (holderOf (fun other => other ≤ time) current entries) =
      value (holderOf (fun other => other < time) current entries) := by
  induction entries generalizing current with
  | nil => simp [switchesFrom, holderOf]
  | cons entry entries ih =>
    obtain ⟨first, rest⟩ := pairwise_cons.mp ordered
    rcases lt_trichotomy entry.time time with early | now | late
    · -- The switch is before the time.
      have counted : (switchesFrom current (entry :: entries)).filter
            (fun change => change.time = time) =
          (switchesFrom entry.holder entries).filter fun change => change.time = time := by
        rw [switchesFrom]
        split
        · next same => rw [same]
        · rw [filter_cons_of_neg (by simpa using early.ne)]
      have later := @ih entry.holder rest fun change mem =>
        nonzero change (mem_switchesFrom_cons mem)
      rw [counted, holderOf, holderOf, decide_eq_true early, decide_eq_true early.le]
      exact later
    · -- Whatever switches at the time starts from the holder before it.
      have after : ∀ holder, holderOf (fun other => decide (other < time)) holder entries =
          holder := by
        apply holderOf_none
        intro other mem
        rw [decide_eq_false_iff_not, not_lt, ← now]
        exact first other mem
      have later := @ih entry.holder rest fun change mem =>
        nonzero change (mem_switchesFrom_cons mem)
      rw [after] at later
      rw [holderOf, holderOf, decide_eq_true now.le, decide_eq_false now.not_lt,
        if_neg Bool.false_ne_true, if_pos rfl, after]
      rw [switchesFrom]
      split
      · next same =>
        rw [← same]
        exact later
      · next differs =>
        have isNonzero : value entry.holder ≠ 0 := by
          apply nonzero ⟨entry.time, current, entry.holder⟩ _ now
          rw [switchesFrom_differs differs]
          exact mem_cons_self
        rw [filter_cons_of_pos (by simpa using now), map_cons, prod_cons, mul_assoc,
          later, ratio]
        exact div_mul_cancel₀ _ isNonzero
    · -- Nothing happens up to the time.
      have noneLe : ∀ other ∈ entry :: entries, decide (other.time ≤ time) = false := by
        intro other mem
        rw [decide_eq_false_iff_not, not_le]
        rcases mem_cons.mp mem with rfl | inside
        · exact late
        · exact late.trans_le (first other inside)
      have noneLt : ∀ other ∈ entry :: entries, decide (other.time < time) = false := by
        intro other mem
        have beyond := of_decide_eq_false (noneLe other mem)
        exact decide_eq_false fun less => beyond less.le
      have none : (switchesFrom current (entry :: entries)).filter
          (fun change => change.time = time) = [] := by
        apply filter_eq_nil_iff.mpr
        intro change mem atTime
        obtain ⟨found, inside, sameTime, -⟩ := mem_switchesFrom mem
        have beyond := of_decide_eq_false (noneLe found inside)
        exact beyond (sameTime.trans (of_decide_eq_true atTime)).le
      rw [none, holderOf_none noneLe, holderOf_none noneLt]
      simp

end SwitchRatios

end Qts
