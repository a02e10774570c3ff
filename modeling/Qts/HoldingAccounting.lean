import Qts.HoldingBook
import Qts.TradeAccounting
import Mathlib.Algebra.BigOperators.Ring.List

/-!
# Accounting conservation of holdings

Both cost conventions keep the balance of trade accounting: what a fill realizes is the
change of the holding's open cost less the cost of the fill.
-/

namespace Qts

open TradeAccounting StepRuns PositionSide Holding

def Holding.openCost (holding : Holding) : Decimal :=
  holding.quantity * holding.averageCost

structure Holding.LotsAgree (holding : Holding) : Prop where
  oneSided : ∃ side, LotLedger.OneSided side holding.lots
  quantity_eq : holding.quantity = LotLedger.quantity holding.lots
  openCost_eq : holding.openCost = LotLedger.openCost holding.lots

def Holding.Sound (holding : Holding) : Prop :=
  holding.costBasisMethod = .fifo → holding.LotsAgree

theorem Holding.unrealizedPnl_eq (holding : Holding) (mark multiplier : Decimal) :
    holding.unrealizedPnl mark multiplier =
      (holding.quantity * mark - holding.openCost) * multiplier := by
  unfold unrealizedPnl openCost
  cases found : fromQuantity holding.quantity with
  | none =>
    rw [fromQuantity_eq_none.mp found]
    simp
  | some side =>
    have size := fromQuantity_sign found
    linear_combination -(mark - holding.averageCost) * multiplier * size

def HoldingFill.trade (fill : HoldingFill) : Trade Decimal where
  quantity := fill.signedQuantity
  price := fill.price

namespace HoldingBook

/-- What a fill does to the accounts of a holding. -/
structure Realizes (current next : Holding) (signedQuantity price multiplier : Decimal) :
    Prop where
  quantity_eq : next.quantity = current.quantity + signedQuantity
  realized_eq : next.realizedPnl - current.realizedPnl =
    (next.openCost - current.openCost - signedQuantity * price) * multiplier

variable {current : Holding}

theorem increase_realizes {signedQuantity : Decimal}
    (opens : current.quantity = 0 ∨ sameForQuantities current.quantity signedQuantity = true)
    (price multiplier : Decimal) (fillTime : Option DateTime) :
    Realizes current (increase current signedQuantity price fillTime) signedQuantity price
      multiplier where
  quantity_eq := rfl
  realized_eq := by
    have weighted : (current.quantity + signedQuantity) *
        (increase current signedQuantity price fillTime).averageCost =
          current.quantity * current.averageCost + signedQuantity * price := by
      simp only [increase]
      by_cases flat : |current.quantity| = 0
      · rw [if_pos flat, abs_eq_zero.mp flat]
        ring
      · rw [if_neg flat]
        have open_ : current.quantity ≠ 0 := fun zero => flat (by rw [zero, abs_zero])
        rcases sameForQuantities_iff.mp (opens.resolve_left open_) with
          ⟨held, added⟩ | ⟨held, added⟩
        · have total : current.quantity + signedQuantity ≠ 0 := ne_of_gt (add_pos held added)
          rw [abs_of_pos held, abs_of_pos added, abs_of_pos (add_pos held added)]
          field_simp
        · have total : current.quantity + signedQuantity ≠ 0 := ne_of_lt (add_neg held added)
          rw [abs_of_neg held, abs_of_neg added, abs_of_neg (add_neg held added)]
          field_simp
          ring
    simp only [openCost]
    have quantity : (increase current signedQuantity price fillTime).quantity =
        current.quantity + signedQuantity := rfl
    have realized : (increase current signedQuantity price fillTime).realizedPnl =
        current.realizedPnl := rfl
    rw [quantity, realized, weighted]
    ring

variable {quantity signedQuantity : Decimal}

section

variable (open_ : quantity ≠ 0) (nonzero : signedQuantity ≠ 0)
  (opposes : sameForQuantities quantity signedQuantity = false)

include open_ nonzero opposes

theorem closed_signed :
    min |quantity| |signedQuantity| * (if 0 < quantity then 1 else -1) =
      if |quantity| ≤ |signedQuantity| then quantity else -signedQuantity := by
  rw [← Bool.not_eq_true, sameForQuantities_iff, not_or, not_and, not_and] at opposes
  rcases lt_or_gt_of_ne open_ with short | long
  · have against : 0 < signedQuantity :=
      lt_of_le_of_ne (not_lt.mp (opposes.2 short)) (Ne.symm nonzero)
    rw [if_neg (not_lt.mpr short.le), abs_of_neg short, abs_of_pos against]
    split
    · next covers => rw [min_eq_left covers]; ring
    · next part => rw [min_eq_right (le_of_not_ge part)]; ring
  · have against : signedQuantity < 0 :=
      lt_of_le_of_ne (not_lt.mp (opposes.1 long)) nonzero
    rw [if_pos long, abs_of_pos long, abs_of_neg against]
    split
    · next covers => rw [min_eq_left covers]; ring
    · next part => rw [min_eq_right (le_of_not_ge part)]; ring

theorem remains_iff :
    sameForQuantities quantity (quantity + signedQuantity) = true ↔
      |signedQuantity| < |quantity| := by
  rw [← Bool.not_eq_true, sameForQuantities_iff, not_or, not_and, not_and] at opposes
  rw [sameForQuantities_iff]
  rcases lt_or_gt_of_ne open_ with short | long
  · have against : 0 < signedQuantity :=
      lt_of_le_of_ne (not_lt.mp (opposes.2 short)) (Ne.symm nonzero)
    rw [abs_of_neg short, abs_of_pos against]
    constructor
    · rintro (⟨long, _⟩ | ⟨_, remains⟩) <;> linarith
    · intro smaller
      exact Or.inr ⟨short, by linarith⟩
  · have against : signedQuantity < 0 :=
      lt_of_le_of_ne (not_lt.mp (opposes.1 long)) nonzero
    rw [abs_of_pos long, abs_of_neg against]
    constructor
    · rintro (⟨_, remains⟩ | ⟨short, _⟩) <;> linarith
    · intro smaller
      exact Or.inl ⟨long, by linarith⟩

end

/-- A fill that brings a position to zero has its size. -/
theorem covers_of_flat (flat : quantity + signedQuantity = 0) : |quantity| ≤ |signedQuantity| := by
  rw [eq_neg_of_add_eq_zero_left flat, abs_neg]

theorem reduceOrFlip_realizes {signedQuantity : Decimal} (open_ : current.quantity ≠ 0)
    (nonzero : signedQuantity ≠ 0)
    (opposes : sameForQuantities current.quantity signedQuantity = false)
    (price multiplier : Decimal) (fillTime : Option DateTime) :
    Realizes current (reduceOrFlip current signedQuantity price multiplier fillTime).2
      signedQuantity price multiplier := by
  have closed := closed_signed open_ nonzero opposes
  have remains := remains_iff open_ nonzero opposes
  simp only [reduceOrFlip]
  by_cases flat : current.quantity + signedQuantity = 0
  · rw [if_pos (covers_of_flat flat)] at closed
    rw [if_pos flat]
    refine ⟨by rw [flat], ?_⟩
    simp only [openCost]
    linear_combination (price - current.averageCost) * multiplier * closed +
      price * multiplier * flat
  · rw [if_neg flat]
    by_cases part : |signedQuantity| < |current.quantity|
    · rw [if_neg (not_le.mpr part)] at closed
      rw [if_pos (remains.mpr part)]
      refine ⟨rfl, ?_⟩
      simp only [openCost]
      linear_combination (price - current.averageCost) * multiplier * closed
    · rw [if_pos (not_lt.mp part)] at closed
      rw [if_neg fun same => part (remains.mp same)]
      refine ⟨rfl, ?_⟩
      simp only [openCost]
      linear_combination (price - current.averageCost) * multiplier * closed

theorem applyFillFifo_realizes (agree : current.LotsAgree) {signedQuantity : Decimal}
    (nonzero : signedQuantity ≠ 0) (price multiplier : Decimal) (fillTime : Option DateTime) :
    let next := (applyFillFifo current signedQuantity price multiplier fillTime).2
    Realizes current next signedQuantity price multiplier ∧ next.LotsAgree := by
  intro next
  obtain ⟨side, oneSided⟩ := agree.oneSided
  have applied := LotLedger.apply_applied oneSided nonzero price multiplier fillTime
  have next_eq : next.quantity =
        LotLedger.quantity (LotLedger.apply current.lots signedQuantity price multiplier
          fillTime).lots ∧
      next.averageCost =
        LotLedger.averageCost (LotLedger.apply current.lots signedQuantity price multiplier
          fillTime).lots ∧
      next.realizedPnl = current.realizedPnl +
        (LotLedger.apply current.lots signedQuantity price multiplier fillTime).realizedPnl ∧
      next.lots = (LotLedger.apply current.lots signedQuantity price multiplier fillTime).lots := by
    simp only [next, applyFillFifo]
    split <;> exact ⟨rfl, rfl, rfl, rfl⟩
  obtain ⟨quantity, averageCost, realized, lots⟩ := next_eq
  obtain ⟨nextSide, nextSided⟩ := applied.oneSided
  have openCost : next.openCost = LotLedger.openCost next.lots := by
    rw [openCost, quantity, averageCost, lots, nextSided.quantity_mul_averageCost]
  refine ⟨⟨?_, ?_⟩, ⟨nextSide, lots ▸ nextSided⟩, lots ▸ quantity, openCost⟩
  · rw [quantity, applied.quantity_eq, agree.quantity_eq]
  · rw [realized, openCost, lots, agree.openCost_eq, applied.realized_eq]
    ring

theorem fillHolding_realizes {current : Holding} (sound : current.Sound) {fill : HoldingFill}
    (nonzero : fill.signedQuantity ≠ 0) :
    Realizes current (fillHolding current fill).2 fill.signedQuantity fill.price fill.multiplier ∧
      (fillHolding current fill).2.Sound := by
  have method := fillHolding_method current fill
  cases convention : current.costBasisMethod with
  | fifo =>
    have applied := applyFillFifo_realizes (sound convention) nonzero fill.price fill.multiplier
      (fill.fillTime <|> current.lastFillAt)
    simp only [fillHolding, convention]
    exact ⟨applied.1, fun _ => applied.2⟩
  | average =>
    constructor
    · simp only [fillHolding, convention]
      by_cases opens : current.quantity = 0 ∨
          sameForQuantities current.quantity fill.signedQuantity = true
      · rw [if_pos opens]
        exact increase_realizes opens _ _ _
      · rw [if_neg opens]
        rw [not_or, Bool.not_eq_true] at opens
        exact reduceOrFlip_realizes opens.1 nonzero opens.2 _ _ _
    · intro fifo
      rw [method, convention] at fifo
      cases fifo

structure FillOf (instrumentId : InstrumentId) (multiplier : Decimal) (fill : HoldingFill) :
    Prop where
  valid : Valid fill
  instrument_eq : fill.instrumentId = instrumentId
  multiplier_eq : fill.multiplier = multiplier

structure Accounted (instrumentId : InstrumentId) (multiplier : Decimal)
    (trades : List (Trade Decimal)) (book : HoldingBook) : Prop where
  key : (book.holding instrumentId).instrumentId = instrumentId
  sound : (book.holding instrumentId).Sound
  balanced : Balanced multiplier trades (book.holding instrumentId).quantity
    (book.holding instrumentId).realizedPnl (book.holding instrumentId).openCost

theorem flatHolding_sound (instrumentId : InstrumentId) (costBasisMethod : CostBasisMethod) :
    (flatHolding instrumentId costBasisMethod).Sound := by
  intro _
  refine ⟨⟨.long, ?_⟩, rfl, ?_⟩
  · intro lot mem
    cases mem
  · simp [openCost, flatHolding]

variable {instrumentId : InstrumentId} {book : HoldingBook}

theorem holding_fresh (fresh : book.holdings.get? instrumentId = none) :
    book.holding instrumentId = flatHolding instrumentId book.costBasisMethod := by
  rw [holding, fresh, Option.getD_none]

theorem Accounted.fresh {book : HoldingBook} {instrumentId : InstrumentId}
    (fresh : book.holdings.get? instrumentId = none) (multiplier : Decimal) :
    Accounted instrumentId multiplier [] book := by
  have flat := holding_fresh fresh
  refine ⟨by rw [flat]; rfl, by rw [flat]; exact flatHolding_sound _ _, ?_⟩
  rw [flat]
  have empty := Balanced.nil multiplier
  simpa [flatHolding, openCost] using empty

theorem Accounted.step {multiplier : Decimal} {trades : List (Trade Decimal)}
    (accounted : Accounted instrumentId multiplier trades book) {fill : HoldingFill}
    (fillOf : FillOf instrumentId multiplier fill) :
    Accounted instrumentId multiplier (trades ++ [fill.trade]) (HoldingBook.step book fill).2 := by
  obtain ⟨valid, rfl, rfl⟩ := fillOf
  obtain ⟨realizes, sound⟩ := fillHolding_realizes accounted.sound valid.nonzero
  rw [step_valid accounted.key valid]
  have held : (book.store fill.instrumentId
      (fillHolding (book.holding fill.instrumentId) fill).2).holding fill.instrumentId =
        (fillHolding (book.holding fill.instrumentId) fill).2 := by
    rw [holding_store, if_pos rfl]
  refine ⟨?_, ?_, ?_⟩
  · rw [held, fillHolding_instrumentId]
    exact accounted.key
  · rw [held]
    exact sound
  · rw [held, realizes.quantity_eq]
    exact accounted.balanced.trade realizes.realized_eq

theorem Accounted.run {multiplier : Decimal} {fills : List HoldingFill}
    (fillsOf : ∀ fill ∈ fills, FillOf instrumentId multiplier fill) {trades : List (Trade Decimal)}
    (accounted : Accounted instrumentId multiplier trades book) :
    Accounted instrumentId multiplier (trades ++ fills.map HoldingFill.trade)
      (final HoldingBook.step book fills) := by
  induction fills generalizing book trades with
  | nil => simpa using accounted
  | cons fill fills ih =>
    have first := accounted.step (fillsOf fill List.mem_cons_self)
    have rest := ih (fun other mem => fillsOf other (List.mem_cons_of_mem _ mem)) first
    rw [List.append_assoc] at rest
    exact rest

theorem spent_trades (fills : List HoldingFill) (multiplier : Decimal) :
    spent (fills.map HoldingFill.trade) * multiplier =
      (fills.map fun fill => fill.signedQuantity * fill.price * multiplier).sum := by
  rw [spent, List.map_map, ← List.sum_map_mul_right]
  rfl

section FreshHolding

variable {multiplier : Decimal} {fills : List HoldingFill}

theorem profit_of_fills (fillsOf : ∀ fill ∈ fills, FillOf instrumentId multiplier fill)
    (fresh : book.holdings.get? instrumentId = none) (mark : Decimal) :
    let held := (final step book fills).holding instrumentId
    held.quantity = netQuantity (fills.map HoldingFill.trade) ∧
      held.realizedPnl + held.unrealizedPnl mark multiplier =
        held.quantity * mark * multiplier -
          (fills.map fun fill => fill.signedQuantity * fill.price * multiplier).sum := by
  intro held
  have accounted := (Accounted.fresh fresh multiplier).run fillsOf
  have balanced := accounted.balanced
  refine ⟨balanced.quantity_eq, ?_⟩
  rw [unrealizedPnl_eq, ← spent_trades]
  exact balanced.total mark

/-- Realized and unrealized profit add up to the profit of the cash flows by either convention,
so that the two conventions agree on the quantity and on the total at every mark. -/
theorem profit_conserved (fillsOf : ∀ fill ∈ fills, FillOf instrumentId multiplier fill) :
    (∀ book : HoldingBook, book.holdings.get? instrumentId = none → ∀ mark : Decimal,
      let held := (final step book fills).holding instrumentId
      held.realizedPnl + held.unrealizedPnl mark multiplier =
        held.quantity * mark * multiplier -
          (fills.map fun fill => fill.signedQuantity * fill.price * multiplier).sum) ∧
    ∀ averageBook fifoBook : HoldingBook,
      averageBook.costBasisMethod = .average → averageBook.holdings.get? instrumentId = none →
      fifoBook.costBasisMethod = .fifo → fifoBook.holdings.get? instrumentId = none →
      let average := (final step averageBook fills).holding instrumentId
      let fifo := (final step fifoBook fills).holding instrumentId
      average.quantity = fifo.quantity ∧ ∀ mark : Decimal,
        average.realizedPnl + average.unrealizedPnl mark multiplier =
          fifo.realizedPnl + fifo.unrealizedPnl mark multiplier := by
  constructor
  · intro book fresh mark
    exact (profit_of_fills fillsOf fresh mark).2
  · intro averageBook fifoBook _ averageFresh _ fifoFresh average fifo
    have quantities : average.quantity = fifo.quantity := by
      have averageNet := (profit_of_fills fillsOf averageFresh 0).1
      have fifoNet := (profit_of_fills fillsOf fifoFresh 0).1
      exact averageNet.trans fifoNet.symm
    refine ⟨quantities, ?_⟩
    intro mark
    have averageTotal := (profit_of_fills fillsOf averageFresh mark).2
    have fifoTotal := (profit_of_fills fillsOf fifoFresh mark).2
    rw [averageTotal, fifoTotal, quantities]

end FreshHolding

def unitInstrument : InstrumentId := ⟨⟨"AAA", Eq.refl false⟩⟩

def unitFill (signedQuantity price : Decimal) : HoldingFill where
  instrumentId := unitInstrument
  signedQuantity := signedQuantity
  price := price
  multiplier := 1

/-- Bought, sold in part, sold through zero and bought back to flat. -/
def roundTrip : List HoldingFill :=
  [unitFill 3 10, unitFill 2 11, unitFill (-4) 12, unitFill (-3) 9, unitFill 2 8]

theorem unitFill_fillOf {signedQuantity price : Decimal} (nonzero : signedQuantity ≠ 0)
    (nonneg : 0 ≤ price) : FillOf unitInstrument 1 (unitFill signedQuantity price) :=
  ⟨⟨nonzero, nonneg, one_pos⟩, rfl, rfl⟩

theorem profit_conserved_roundTrip :
    let average := (final step { holdings := .empty } roundTrip).holding unitInstrument
    let fifo := (final step { holdings := .empty, costBasisMethod := .fifo }
      roundTrip).holding unitInstrument
    average.quantity = fifo.quantity ∧ ∀ mark : Decimal,
      average.realizedPnl + average.unrealizedPnl mark 1 =
        fifo.realizedPnl + fifo.unrealizedPnl mark 1 := by
  have fillsOf : ∀ fill ∈ roundTrip, FillOf unitInstrument 1 fill := by
    intro fill mem
    simp only [roundTrip, List.mem_cons, List.not_mem_nil, or_false] at mem
    rcases mem with rfl | rfl | rfl | rfl | rfl <;>
      exact unitFill_fillOf (by norm_num) (by norm_num)
  exact (profit_conserved fillsOf).2 { holdings := .empty }
    { holdings := .empty, costBasisMethod := .fifo } rfl rfl rfl rfl

end HoldingBook

end Qts
