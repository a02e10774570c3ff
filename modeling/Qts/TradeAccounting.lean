import Mathlib.Algebra.BigOperators.Group.List.Basic
import Mathlib.Tactic.Ring
import Mathlib.Tactic.LinearCombination

/-! # Accounting of a traded position -/

namespace Qts

universe u

structure Trade (K : Type u) where
  quantity : K
  price : K

namespace TradeAccounting

variable {K : Type u} [Field K]

def netQuantity (trades : List (Trade K)) : K :=
  (trades.map Trade.quantity).sum

def spent (trades : List (Trade K)) : K :=
  (trades.map fun trade => trade.quantity * trade.price).sum

@[simp]
theorem spent_nil : spent ([] : List (Trade K)) = 0 :=
  rfl

theorem netQuantity_concat (trades : List (Trade K)) (trade : Trade K) :
    netQuantity (trades ++ [trade]) = netQuantity trades + trade.quantity := by
  simp [netQuantity]

theorem spent_concat (trades : List (Trade K)) (trade : Trade K) :
    spent (trades ++ [trade]) = spent trades + trade.quantity * trade.price := by
  simp [spent]

/-- A book balances when its quantity is the net quantity, and its realized profit is the
cost of what is open less what was spent. -/
structure Balanced (multiplier : K) (trades : List (Trade K))
    (quantity realized openCost : K) : Prop where
  quantity_eq : quantity = netQuantity trades
  realized_eq : realized = (openCost - spent trades) * multiplier

theorem Balanced.nil (multiplier : K) : Balanced multiplier [] 0 0 0 where
  quantity_eq := rfl
  realized_eq := by simp

theorem Balanced.trade {multiplier : K} {trades : List (Trade K)}
    {quantity realized openCost : K}
    (balanced : Balanced multiplier trades quantity realized openCost)
    {trade : Trade K} {realizedNext openCostNext : K}
    (realizes : realizedNext - realized =
      (openCostNext - openCost - trade.quantity * trade.price) * multiplier) :
    Balanced multiplier (trades ++ [trade]) (quantity + trade.quantity) realizedNext
      openCostNext where
  quantity_eq := by rw [netQuantity_concat, balanced.quantity_eq]
  realized_eq := by
    rw [spent_concat]
    linear_combination realizes + balanced.realized_eq

theorem Balanced.total {multiplier : K} {trades : List (Trade K)} {quantity realized openCost : K}
    (balanced : Balanced multiplier trades quantity realized openCost) (mark : K) :
    realized + (quantity * mark - openCost) * multiplier =
      quantity * mark * multiplier - spent trades * multiplier := by
  rw [balanced.realized_eq]
  ring

end TradeAccounting

end Qts
