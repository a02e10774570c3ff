import Qts.RuntimeFailures

/-! # Order execution specifications -/

namespace Qts

inductive OrderType
  | market
  | limit
  | stop
  | stopLimit
  | trailingStop
  | marketOnOpen
  | marketOnClose
  | bracket
  | iceberg
deriving DecidableEq

/-- Time-in-force values modeled at the execution boundary. -/
inductive TimeInForce
  | day
  | gtc
  | ioc
  | fok
  | gtd
  | opg
  | atc
deriving DecidableEq

inductive OrderSide
  | buy
  | sell
deriving DecidableEq

def validateOptionalPrice (value : Option Decimal) (name : String) : Check where
  fails := value.any fun price => decide (price < 0)
  message := name ++ " must be non-negative"

structure BracketLegFields where
  orderType : OrderType
  side : OrderSide
  quantity : Decimal
  limitPrice : Option Decimal := none
  stopPrice : Option Decimal := none
deriving DecidableEq

def BracketLegFields.checks (leg : BracketLegFields) : List Check :=
  [⟨decide (leg.quantity ≤ 0), "bracket leg quantity must be positive"⟩,
   validateOptionalPrice leg.limitPrice "limit_price",
   validateOptionalPrice leg.stopPrice "stop_price"]

structure BracketLeg extends BracketLegFields where
  valid : Check.firstFailure toBracketLegFields.checks = none
deriving DecidableEq

/-- Parent order bracket; it has at least two child legs. -/
structure BracketSpec where
  legs : List BracketLeg
  twoLegs : 2 ≤ legs.length
deriving DecidableEq

structure OrderSpecFields where
  orderType : OrderType := .market
  timeInForce : TimeInForce := .day
  limitPrice : Option Decimal := none
  stopPrice : Option Decimal := none
  trailAmount : Option Decimal := none
  trailPercent : Option Decimal := none
  goodTilDate : Option DateTime := none
  bracket : Option BracketSpec := none
deriving DecidableEq

def OrderSpecFields.validateShape (spec : OrderSpecFields) : List Check :=
  [⟨decide (spec.orderType = .market) &&
      (spec.limitPrice.isSome || spec.stopPrice.isSome || spec.trailAmount.isSome ||
        spec.trailPercent.isSome || spec.bracket.isSome),
      "market orders cannot carry price, trailing, or bracket fields"⟩,
   ⟨decide (spec.orderType = .limit) && spec.limitPrice.isNone,
      "limit_price is required for limit orders"⟩,
   ⟨decide (spec.orderType = .stop) && spec.stopPrice.isNone,
      "stop_price is required for stop orders"⟩,
   ⟨decide (spec.orderType = .stopLimit) && (spec.stopPrice.isNone || spec.limitPrice.isNone),
      "stop_limit orders require stop_price and limit_price"⟩,
   ⟨decide (spec.orderType = .trailingStop) &&
      (spec.trailAmount.isNone && spec.trailPercent.isNone),
      "trailing_stop orders require trail_amount or trail_percent"⟩,
   ⟨decide (spec.orderType = .bracket) && spec.bracket.isNone,
      "bracket orders require bracket legs"⟩]

def OrderSpecFields.checks (spec : OrderSpecFields) : List Check :=
  [validateOptionalPrice spec.limitPrice "limit_price",
   validateOptionalPrice spec.stopPrice "stop_price",
   validateOptionalPrice spec.trailAmount "trail_amount",
   ⟨spec.trailPercent.any fun percent => decide (percent ≤ 0 ∨ 100 < percent),
      "trail_percent must be in (0, 100]"⟩] ++ spec.validateShape

theorem OrderSpecFields.limitAtFive_valid :
    Check.firstFailure (OrderSpecFields.mk .limit .day (some 5) none none none none none).checks =
      none := by
  decide +kernel

/-- Typed execution shape of an order. -/
structure OrderSpec extends OrderSpecFields where
  valid : Check.firstFailure toOrderSpecFields.checks = none
deriving DecidableEq

def OrderSpec.default : OrderSpec where
  valid := by decide

/-- Strategy-facing reference to an internal instrument. -/
structure AssetRef where
  instrumentId : InstrumentId
  symbol : String
  symbolShown : PythonText.isBlank symbol = false

instance : DecidableEq AssetRef := fun first second =>
  decidable_of_iff (first.instrumentId = second.instrumentId ∧ first.symbol = second.symbol)
    (by cases first; cases second; simp)

inductive TargetIntentType
  | percent
  | quantity
  | value
  | close
deriving DecidableEq

/-- Strategy-emitted intent, later handled by the risk and order flow. -/
structure TargetIntent where
  asset : AssetRef
  intentType : TargetIntentType
  value : Option Decimal
  intentId : String
  orderSpec : OrderSpec := .default
deriving DecidableEq

end Qts
