import Mathlib.Algebra.Order.Field.Rat
import Qts.ExecutionTiming

/-! # Rolling windows -/

namespace Qts

/-- Bounded FIFO buffer with warmup state. -/
structure RollingWindow (Item : Type) where
  size : Nat
  pos : 0 < size
  values : List Item := []
  bounded : values.length ≤ size := by exact Nat.zero_le _

namespace RollingWindow

variable {Item : Type}

def ready (window : RollingWindow Item) : Bool :=
  decide (window.values.length = window.size)

/-- Add a value, evicting the oldest once at capacity. -/
def append (window : RollingWindow Item) (value : Item) : RollingWindow Item where
  size := window.size
  pos := window.pos
  values := (window.values ++ [value]).rtake window.size
  bounded := by
    simp only [List.rtake, List.length_drop]
    omega

/-- A window that was given some items holds the last of them. -/
def Holds (window : RollingWindow Item) (items : List Item) : Prop :=
  window.values = items.rtake window.size

theorem rtake_rtake_concat (items : List Item) (item : Item) (count : Nat) :
    (items.rtake count ++ [item]).rtake count = (items ++ [item]).rtake count := by
  cases count with
  | zero => simp
  | succ count =>
    rw [List.rtake_concat_succ, List.rtake_concat_succ]
    congr 1
    simp only [List.rtake, List.length_drop, List.drop_drop]
    congr 1
    omega

theorem Holds.append {window : RollingWindow Item} {items : List Item} (holds : window.Holds items)
    (item : Item) : (window.append item).Holds (items ++ [item]) := by
  change (window.values ++ [item]).rtake window.size = _
  rw [holds]
  exact rtake_rtake_concat items item window.size

theorem Holds.ready_iff {window : RollingWindow Item} {items : List Item}
    (holds : window.Holds items) : window.ready = true ↔ window.size ≤ items.length := by
  rw [ready, decide_eq_true_eq, holds, List.rtake, List.length_drop]
  omega

end RollingWindow

structure AverageTrueRange where
  trueRanges : RollingWindow Decimal
  previousClose : Option Decimal := none
  value : Option Decimal := none

namespace AverageTrueRange

def trueRange (atr : AverageTrueRange) (high low : Decimal) : Decimal :=
  match atr.previousClose with
  | none => high - low
  | some prev => max (high - low) (max |high - prev| |low - prev|)

def update (atr : AverageTrueRange) (high low close : Decimal) : AverageTrueRange :=
  match atr.value with
  | none =>
    let trueRanges := atr.trueRanges.append (atr.trueRange high low)
    { trueRanges
      previousClose := some close
      value := if trueRanges.ready then some (trueRanges.values.sum / trueRanges.size) else none }
  | some value =>
    { atr with
      previousClose := some close
      value := some ((value * (atr.trueRanges.size - 1) + atr.trueRange high low) /
        atr.trueRanges.size) }

end AverageTrueRange

end Qts
