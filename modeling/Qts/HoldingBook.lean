import Qts.LotLedger
import Qts.OrderedDictionary
import Qts.StepRuns
import Qts.RuntimeFailures

/-!
# Holdings of an account

A fill is applied to the holding of its instrument, by average cost or over FIFO lots.  Amounts are
exact here; `RoundedHoldings` rounds them as the code does.
-/

namespace Qts

open PositionSide

inductive CostBasisMethod
  | average
  | fifo
deriving DecidableEq

/-- Immutable holding snapshot. -/
structure Holding where
  instrumentId : InstrumentId
  quantity : Decimal
  averageCost : Decimal
  realizedPnl : Decimal
  costBasisMethod : CostBasisMethod := .average
  openedAt : Option DateTime := none
  lastFillAt : Option DateTime := none
  lots : List Lot := []
deriving DecidableEq

def Holding.unrealizedPnl (holding : Holding) (markPrice multiplier : Decimal) : Decimal :=
  match fromQuantity holding.quantity with
  | none => 0
  | some side =>
    |holding.quantity| * (markPrice - holding.averageCost) * side.sign * multiplier

/-- Runtime accounting event emitted when a holding reaches flat. -/
structure PositionClosed where
  instrumentId : InstrumentId
  closedQuantity : Decimal
  exitPrice : Decimal
  realizedPnl : Decimal
  openedAt : Option DateTime
  closedAt : DateTime

structure HoldingFill where
  instrumentId : InstrumentId
  signedQuantity : Decimal
  price : Decimal
  multiplier : Decimal
  fillTime : Option DateTime := none

def HoldingFill.checks (fill : HoldingFill) : List Check :=
  [⟨decide (fill.signedQuantity = 0), "signed_quantity must not be zero"⟩,
   ⟨decide (fill.price < 0), "price must be non-negative"⟩,
   ⟨decide (fill.multiplier ≤ 0), "multiplier must be positive"⟩]

/-- The holdings of an account and the convention of holdings it opens afresh. -/
structure HoldingBook where
  holdings : Dict InstrumentId Holding
  costBasisMethod : CostBasisMethod := .average

namespace HoldingBook

def flatHolding (instrumentId : InstrumentId) (costBasisMethod : CostBasisMethod) : Holding where
  instrumentId := instrumentId
  quantity := 0
  averageCost := 0
  realizedPnl := 0
  costBasisMethod := costBasisMethod

def holding (book : HoldingBook) (instrumentId : InstrumentId) : Holding :=
  (book.holdings.get? instrumentId).getD (flatHolding instrumentId book.costBasisMethod)

def closeTime (fillTime : Option DateTime) : DateTime :=
  fillTime.getD 0

def increase (current : Holding) (signedQuantity price : Decimal) (fillTime : Option DateTime) :
    Holding where
  instrumentId := current.instrumentId
  quantity := current.quantity + signedQuantity
  averageCost :=
    if |current.quantity| = 0 then price
    else (|current.quantity| * current.averageCost + |signedQuantity| * price) /
      |current.quantity + signedQuantity|
  realizedPnl := current.realizedPnl
  costBasisMethod := current.costBasisMethod
  openedAt := current.openedAt <|> fillTime
  lastFillAt := fillTime

def reduceOrFlip (current : Holding) (signedQuantity price multiplier : Decimal)
    (fillTime : Option DateTime) : List PositionClosed × Holding :=
  let closeQuantity := min |current.quantity| |signedQuantity|
  let sign : Decimal := if 0 < current.quantity then 1 else -1
  let closeRealized := closeQuantity * (price - current.averageCost) * sign * multiplier
  let realizedPnl := current.realizedPnl + closeRealized
  let newQuantity := current.quantity + signedQuantity
  if newQuantity = 0 then
    ([{ instrumentId := current.instrumentId
        closedQuantity := closeQuantity
        exitPrice := price
        realizedPnl := closeRealized
        openedAt := current.openedAt
        closedAt := closeTime fillTime }],
     -- the opening time is reset, so that a re-opened holding records a fresh one
     { current with
       quantity := 0, realizedPnl, openedAt := none, lastFillAt := fillTime })
  else if sameForQuantities current.quantity newQuantity then
    ([], { current with
      quantity := newQuantity, realizedPnl, lastFillAt := fillTime })
  else
    ([{ instrumentId := current.instrumentId
        closedQuantity := |current.quantity|
        exitPrice := price
        realizedPnl := closeRealized
        openedAt := current.openedAt
        closedAt := closeTime fillTime }],
     { instrumentId := current.instrumentId
       quantity := newQuantity
       averageCost := price
       realizedPnl
       costBasisMethod := current.costBasisMethod
       openedAt := fillTime
       lastFillAt := fillTime })

def fifoOpenedAt (current : Holding) (newQuantity : Decimal) (flipped : Bool)
    (fillTime : Option DateTime) : Option DateTime :=
  if newQuantity = 0 then none
  else if current.quantity = 0 ∨ flipped then fillTime
  else current.openedAt <|> fillTime

def applyFillFifo (current : Holding) (signedQuantity price multiplier : Decimal)
    (fillTime : Option DateTime) : List PositionClosed × Holding :=
  let consumption := LotLedger.apply current.lots signedQuantity price multiplier fillTime
  let newQuantity := LotLedger.quantity consumption.lots
  let flipped := decide (current.quantity ≠ 0) && decide (newQuantity ≠ 0) &&
    !sameForQuantities current.quantity newQuantity
  let next : Holding := {
    instrumentId := current.instrumentId
    quantity := newQuantity
    averageCost := LotLedger.averageCost consumption.lots
    realizedPnl := current.realizedPnl + consumption.realizedPnl
    costBasisMethod := .fifo
    openedAt := fifoOpenedAt current newQuantity flipped fillTime
    lastFillAt := fillTime
    lots := consumption.lots }
  -- an event fires only when the holding reaches flat or flips side
  if newQuantity = 0 ∨ flipped then
    ([{ instrumentId := current.instrumentId
        closedQuantity := consumption.closedQuantity
        exitPrice := price
        realizedPnl := consumption.realizedPnl
        openedAt := current.openedAt
        closedAt := closeTime fillTime }], next)
  else
    ([], next)

def store (book : HoldingBook) (instrumentId : InstrumentId) (holding : Holding) : HoldingBook :=
  { book with holdings := book.holdings.set instrumentId holding }

def applyFill (book : HoldingBook) (fill : HoldingFill) :
    Except String (List PositionClosed × HoldingBook) :=
  match Check.firstFailure fill.checks with
  | some message => .error message
  | none =>
    let current := book.holding fill.instrumentId
    let fillTime := fill.fillTime <|> current.lastFillAt
    match current.costBasisMethod with
    | .fifo =>
      let (events, next) :=
        applyFillFifo current fill.signedQuantity fill.price fill.multiplier fillTime
      .ok (events, book.store current.instrumentId next)
    | .average =>
      if current.quantity = 0 ∨
          sameForQuantities current.quantity fill.signedQuantity then
        .ok ([], book.store fill.instrumentId
          (increase current fill.signedQuantity fill.price fillTime))
      else
        let (events, next) :=
          reduceOrFlip current fill.signedQuantity fill.price fill.multiplier fillTime
        .ok (events, book.store current.instrumentId next)

/-- All holdings, including flat rows with realized profit. -/
def snapshot (book : HoldingBook) : Dict InstrumentId Holding :=
  book.holdings

def restore (holdings : Dict InstrumentId Holding) : HoldingBook where
  holdings := holdings

def step : StepRuns.Step HoldingBook HoldingFill (Except String (List PositionClosed)) :=
  fun book fill =>
    match book.applyFill fill with
    | .ok (events, next) => (.ok events, next)
    | .error message => (.error message, book)

structure Valid (fill : HoldingFill) : Prop where
  nonzero : fill.signedQuantity ≠ 0
  price_nonneg : 0 ≤ fill.price
  multiplier_pos : 0 < fill.multiplier

theorem checks_pass_iff (fill : HoldingFill) :
    Check.firstFailure fill.checks = none ↔ Valid fill := by
  rw [Check.firstFailure_none]
  simp only [HoldingFill.checks, List.mem_cons, List.not_mem_nil, or_false, forall_eq_or_imp,
    forall_eq, decide_eq_false_iff_not, not_lt, not_le]
  constructor
  · rintro ⟨nonzero, nonneg, pos⟩
    exact ⟨nonzero, nonneg, pos⟩
  · rintro ⟨nonzero, nonneg, pos⟩
    exact ⟨nonzero, nonneg, pos⟩

def fillHolding (current : Holding) (fill : HoldingFill) : List PositionClosed × Holding :=
  let fillTime := fill.fillTime <|> current.lastFillAt
  match current.costBasisMethod with
  | .fifo => applyFillFifo current fill.signedQuantity fill.price fill.multiplier fillTime
  | .average =>
    if current.quantity = 0 ∨
        sameForQuantities current.quantity fill.signedQuantity then
      ([], increase current fill.signedQuantity fill.price fillTime)
    else
      reduceOrFlip current fill.signedQuantity fill.price fill.multiplier fillTime

/-- Every row sits under its own instrument. -/
def WellKeyed (book : HoldingBook) : Prop :=
  ∀ instrumentId holding, book.holdings.get? instrumentId = some holding →
    holding.instrumentId = instrumentId

variable {book : HoldingBook}

theorem WellKeyed.holding (wellKeyed : book.WellKeyed) (instrumentId : InstrumentId) :
    (book.holding instrumentId).instrumentId = instrumentId := by
  unfold HoldingBook.holding
  cases found : book.holdings.get? instrumentId with
  | none => rfl
  | some holding => exact wellKeyed instrumentId holding found

variable {fill : HoldingFill}

theorem applyFill_valid (key : (book.holding fill.instrumentId).instrumentId = fill.instrumentId)
    (valid : Valid fill) :
    book.applyFill fill = .ok ((fillHolding (book.holding fill.instrumentId) fill).1,
      book.store fill.instrumentId (fillHolding (book.holding fill.instrumentId) fill).2) := by
  simp only [applyFill, (checks_pass_iff fill).mpr valid, fillHolding, key]
  cases (book.holding fill.instrumentId).costBasisMethod with
  | fifo => rfl
  | average =>
    dsimp only
    split <;> rfl

theorem applyFill_invalid (invalid : ¬ Valid fill) (book : HoldingBook) :
    ∃ message, book.applyFill fill = .error message := by
  cases failed : Check.firstFailure fill.checks with
  | none => exact absurd ((checks_pass_iff fill).mp failed) invalid
  | some message => exact ⟨message, by simp only [applyFill, failed]⟩

theorem step_valid (key : (book.holding fill.instrumentId).instrumentId = fill.instrumentId)
    (valid : Valid fill) :
    step book fill = (.ok (fillHolding (book.holding fill.instrumentId) fill).1,
      book.store fill.instrumentId (fillHolding (book.holding fill.instrumentId) fill).2) := by
  rw [step, applyFill_valid key valid]

theorem holding_store (book : HoldingBook) (instrumentId other : InstrumentId) (holding : Holding) :
    (book.store instrumentId holding).holding other =
      if other = instrumentId then holding else book.holding other := by
  simp only [HoldingBook.holding, store, Dict.get?_set]
  split <;> rfl

variable (current : Holding) (signedQuantity price multiplier : Decimal)
  (fillTime : Option DateTime)

@[simp]
theorem reduceOrFlip_instrumentId :
    (reduceOrFlip current signedQuantity price multiplier fillTime).2.instrumentId =
      current.instrumentId := by
  simp only [reduceOrFlip]
  split
  · rfl
  · split <;> rfl

@[simp]
theorem applyFillFifo_instrumentId :
    (applyFillFifo current signedQuantity price multiplier fillTime).2.instrumentId =
      current.instrumentId := by
  simp only [applyFillFifo]
  split <;> rfl

theorem fillHolding_instrumentId (fill : HoldingFill) :
    (fillHolding current fill).2.instrumentId = current.instrumentId := by
  simp only [fillHolding]
  split
  · exact applyFillFifo_instrumentId _ _ _ _ _
  · split
    · rfl
    · exact reduceOrFlip_instrumentId _ _ _ _ _

theorem reduceOrFlip_method :
    (reduceOrFlip current signedQuantity price multiplier fillTime).2.costBasisMethod =
      current.costBasisMethod := by
  simp only [reduceOrFlip]
  split
  · rfl
  · split <;> rfl

theorem fillHolding_method (fill : HoldingFill) :
    (fillHolding current fill).2.costBasisMethod = current.costBasisMethod := by
  simp only [fillHolding]
  split
  · next fifo =>
    rw [fifo]
    simp only [applyFillFifo]
    split <;> rfl
  · next average =>
    split
    · rfl
    · exact reduceOrFlip_method _ _ _ _ _

theorem WellKeyed.store (wellKeyed : book.WellKeyed) {instrumentId : InstrumentId}
    {holding : Holding} (key : holding.instrumentId = instrumentId) :
    (book.store instrumentId holding).WellKeyed := by
  intro other found row
  simp only [HoldingBook.store, Dict.get?_set] at row
  split at row
  · next same =>
    cases row
    exact key.trans same.symm
  · exact wellKeyed other found row

end HoldingBook

end Qts
