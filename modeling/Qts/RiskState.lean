import Qts.AccountActor

/-! # Account valuation and risk state -/

namespace Qts

/-- Prices and multipliers by instrument. -/
abbrev DecimalMap := Dict InstrumentId Decimal

/-- Marked-to-market portfolio valuation. -/
structure AccountValuation where
  accountEquity : Decimal
  currentExposure : Decimal
  currentNotionalByInstrument : DecimalMap
  currentPositionByInstrument : DecimalMap

namespace PortfolioValuator

/-- All cash, taken as base-denominated: no exchange rates are supplied. -/
def convertCash (cash : Dict String Decimal) : Decimal :=
  (cash.values.map fun balance => balance * 1).sum

def marketValue (marks multipliers : DecimalMap) (instrumentId : InstrumentId)
    (holding : Holding) : Decimal :=
  match marks.get? instrumentId with
  | none => 0
  | some mark =>
    if holding.quantity = 0 then 0
    else holding.quantity * mark * (multipliers.get? instrumentId).getD 1

def valuate (cash : Dict String Decimal) (holdings : Dict InstrumentId Holding)
    (marks multipliers : DecimalMap) : AccountValuation :=
  let values := holdings.items.map fun item => marketValue marks multipliers item.1 item.2
  { accountEquity := convertCash cash + values.sum
    currentExposure := (values.map fun value => |value|).sum
    currentNotionalByInstrument := .ofItems (holdings.items.map fun item =>
      (item.1, |marketValue marks multipliers item.1 item.2|))
    currentPositionByInstrument := .ofItems (holdings.items.map fun item =>
      (item.1, item.2.quantity)) }

end PortfolioValuator

structure MarginRequirement where
  initialMargin : Decimal
  maintenanceMargin : Decimal
  availableMargin : Decimal

structure MarginCalculator where
  initialMarginRate : Decimal
  maintenanceMarginRate : Decimal
  initialPositive : 0 < initialMarginRate
  maintenancePositive : 0 < maintenanceMarginRate
  ordered : maintenanceMarginRate ≤ initialMarginRate

namespace MarginCalculator

/-- The default rates of five and four percent. -/
def default : MarginCalculator where
  initialMarginRate := 5 / 100
  maintenanceMarginRate := 4 / 100
  initialPositive := by norm_num
  maintenancePositive := by norm_num
  ordered := by norm_num

def positionNotional (marks multipliers : DecimalMap) (instrumentId : InstrumentId)
    (holding : Holding) : Decimal :=
  match marks.get? instrumentId with
  | none => 0
  | some mark =>
    if holding.quantity = 0 then 0
    else |holding.quantity| * mark * (multipliers.get? instrumentId).getD 1

def marginRequirement (calculator : MarginCalculator)
    (positions : Dict InstrumentId Holding) (marks multipliers : DecimalMap)
    (accountEquity : Decimal) : MarginRequirement :=
  let notionals := positions.items.map fun item =>
    positionNotional marks multipliers item.1 item.2
  let initialMargin := (notionals.map fun notional => notional * calculator.initialMarginRate).sum
  { initialMargin
    maintenanceMargin :=
      (notionals.map fun notional => notional * calculator.maintenanceMarginRate).sum
    availableMargin := accountEquity - initialMargin }

def orderInitialMargin (calculator : MarginCalculator) (notional : Decimal) : Decimal :=
  |notional| * calculator.initialMarginRate

end MarginCalculator

/-- Session-aware intraday profit: realized since the session open, and unrealized. -/
structure IntradayPnlCalculator where
  sessionId : Option String := none
  realizedBaseline : DecimalMap := .empty

namespace IntradayPnlCalculator

def startSession (sessionId : String) (holdings : Dict InstrumentId Holding) :
    IntradayPnlCalculator where
  sessionId := some sessionId
  realizedBaseline := .ofItems (holdings.items.map fun item => (item.1, item.2.realizedPnl))

def inSession (calculator : IntradayPnlCalculator) (sessionId : String)
    (holdings : Dict InstrumentId Holding) : IntradayPnlCalculator :=
  if some sessionId ≠ calculator.sessionId then startSession sessionId holdings else calculator

def realizedSinceOpen (calculator : IntradayPnlCalculator) (instrumentId : InstrumentId)
    (holding : Holding) : Decimal :=
  holding.realizedPnl - (calculator.realizedBaseline.get? instrumentId).getD 0

def unrealizedAtMark (marks multipliers : DecimalMap) (instrumentId : InstrumentId)
    (holding : Holding) : Decimal :=
  match marks.get? instrumentId with
  | none => 0
  | some mark =>
    if holding.quantity = 0 then 0
    else holding.unrealizedPnl mark ((multipliers.get? instrumentId).getD 1)

def compute (calculator : IntradayPnlCalculator) (sessionId : String)
    (holdings : Dict InstrumentId Holding) (marks multipliers : DecimalMap) :
    Decimal × IntradayPnlCalculator :=
  let current := calculator.inSession sessionId holdings
  ((holdings.items.map fun item => current.realizedSinceOpen item.1 item.2).sum +
    (holdings.items.map fun item => unrealizedAtMark marks multipliers item.1 item.2).sum,
   current)

end IntradayPnlCalculator

structure RiskStateSnapshot where
  accountEquity : Decimal
  currentExposure : Decimal
  currentNotionalByInstrument : DecimalMap
  currentPositionByInstrument : DecimalMap
  intradayPnl : Decimal
  currentMarginRequirement : Decimal
  availableMargin : Decimal

namespace RiskStateSnapshot

def fromAccount (snapshot : AccountSnapshot) (marks multipliers : DecimalMap)
    (intradayPnl : Decimal) (marginCalculator : Option MarginCalculator) : RiskStateSnapshot :=
  let valuation := PortfolioValuator.valuate snapshot.cash snapshot.holdings marks multipliers
  let margin := marginCalculator.map fun calculator =>
    calculator.marginRequirement snapshot.holdings marks multipliers valuation.accountEquity
  { accountEquity := valuation.accountEquity
    currentExposure := valuation.currentExposure
    currentNotionalByInstrument := valuation.currentNotionalByInstrument
    currentPositionByInstrument := valuation.currentPositionByInstrument
    intradayPnl
    currentMarginRequirement := (margin.map (·.initialMargin)).getD 0
    availableMargin := (margin.map (·.availableMargin)).getD 0 }

def currentPosition (riskState : RiskStateSnapshot) (instrumentId : InstrumentId) : Decimal :=
  (riskState.currentPositionByInstrument.get? instrumentId).getD 0

end RiskStateSnapshot

end Qts
