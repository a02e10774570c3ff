import Qts.IbkrCallbackNormalizer
import Qts.StepRuns

/-! # IBKR order client -/

namespace Qts

open PythonText IbkrCallbacks IbkrCallbackNormalizer

structure IbkrOrderContractSpecFields where
  brokerSymbol : String
  securityType : String
  exchange : String
  currency : String
  primaryExchange : Option String := none
  lastTradeDateOrContractMonth : Option String := none
deriving DecidableEq

def IbkrOrderContractSpecFields.checks (spec : IbkrOrderContractSpecFields) : List Check :=
  [⟨isBlank spec.brokerSymbol, "broker_symbol must not be empty"⟩,
   ⟨isBlank spec.securityType, "security_type must not be empty"⟩,
   ⟨isBlank spec.exchange, "exchange must not be empty"⟩,
   ⟨isBlank spec.currency, "currency must not be empty"⟩,
   ⟨spec.primaryExchange.any isBlank,
      "primary_exchange must not be empty when provided"⟩,
   ⟨spec.lastTradeDateOrContractMonth.any isBlank,
      "last_trade_date_or_contract_month must not be empty when provided"⟩]

structure IbkrOrderContractSpec extends IbkrOrderContractSpecFields where
  valid : Check.firstFailure toIbkrOrderContractSpecFields.checks = none
deriving DecidableEq

def IbkrOrderContractSpec.stock (brokerSymbol : String)
    (shown : isBlank brokerSymbol = false) : IbkrOrderContractSpec where
  brokerSymbol := brokerSymbol
  securityType := "STK"
  exchange := "SMART"
  currency := "USD"
  valid := by
    have visible : isBlank "STK" = false ∧ isBlank "SMART" = false ∧
        isBlank "USD" = false := by decide
    simp [IbkrOrderContractSpecFields.checks, Check.firstFailure, shown, visible]

structure IbkrOrderRequestFields where
  internalOrderId : OrderId
  clientOrderId : String
  internalAccountId : Option AccountId
  strategyId : Option StrategyId
  accountId : String
  brokerSymbol : String
  side : String
  quantity : Decimal
  orderType : OrderType := .market
  timeInForce : TimeInForce := .day
  limitPrice : Option Decimal := none
  bracketLegs : Option (List BracketLeg) := none
  contract : Option IbkrOrderContractSpec := none
  outsideRegularTradingHours : Bool := false
  whatIf : Bool := false
deriving DecidableEq

def IbkrOrderRequestFields.checks (req : IbkrOrderRequestFields) : List Check :=
  [⟨isBlank req.clientOrderId, "client_order_id must not be empty"⟩,
   ⟨isBlank req.accountId, "account_id must not be empty"⟩,
   ⟨isBlank req.brokerSymbol, "broker_symbol must not be empty"⟩,
   ⟨isBlank req.side, "side must not be empty"⟩,
   ⟨decide (req.quantity ≤ 0), "quantity must be positive"⟩,
   ⟨decide (req.orderType = .limit) && req.limitPrice.isNone,
      "limit_price is required for limit orders"⟩,
   ⟨decide (req.orderType = .bracket) && req.bracketLegs.isNone,
      "bracket_legs are required for bracket orders"⟩,
   ⟨decide (req.orderType = .bracket) &&
      req.bracketLegs.any fun legs => decide (legs.length < 2),
      "bracket orders require at least two child legs"⟩,
   ⟨req.limitPrice.any fun price => decide (price ≤ 0), "limit_price must be positive"⟩,
   ⟨req.contract.any fun contract => decide (contract.brokerSymbol ≠ req.brokerSymbol),
      "contract broker_symbol must match request broker_symbol"⟩]

structure IbkrOrderRequest extends IbkrOrderRequestFields where
  valid : Check.firstFailure toIbkrOrderRequestFields.checks = none
deriving DecidableEq

/-- An `ibapi` order, as far as it shows the specification of an order; the last two fields are
never set. -/
structure IbapiOrder where
  action : String
  totalQuantity : Decimal
  tif : String
  account : String
  orderRef : String
  parentId : Nat := 0
  transmit : Bool
  outsideRth : Bool
  whatIf : Bool
  orderType : String
  lmtPrice : Option Decimal := none
  auxPrice : Option Decimal := none
  trailingPercent : Option Decimal := none
  goodTillDate : Option String := none

/-- One call of `placeOrder`. -/
structure PlacedOrder where
  orderId : Nat
  contract : IbkrOrderContractSpec
  order : IbapiOrder

/-- The next order id of the API client, and the calls of `placeOrder` made so far. -/
structure IbkrOrderClient where
  nextId : Option Nat := none
  placed : List PlacedOrder := []

structure IbkrOrderSession where
  client : IbkrOrderClient := {}
  normalizer : IbkrCallbackNormalizer

abbrev SessionCall := EStateM Failure IbkrOrderSession

def CallbackError.raisedAs : CallbackError → Failure
  | .valueError msg => .valueError msg
  | .keyError key => .keyError key

namespace IbkrOrderRequest

theorem check_passes (req : IbkrOrderRequest) {check : Check}
    (among : check ∈ req.checks) : check.fails = false :=
  (Check.firstFailure_none _).mp req.valid check among

def contractSpec (req : IbkrOrderRequest) : IbkrOrderContractSpec :=
  req.contract.getD (.stock req.brokerSymbol (req.check_passes
    (.tail _ (.tail _ (.head _))) : isBlank req.brokerSymbol = false))

def orderTypeText : OrderType → String
  | .market => "MARKET"
  | .limit => "LIMIT"
  | .stop => "STOP"
  | .stopLimit => "STOP_LIMIT"
  | .trailingStop => "TRAILING_STOP"
  | .marketOnOpen => "MARKET_ON_OPEN"
  | .marketOnClose => "MARKET_ON_CLOSE"
  | .bracket => "BRACKET"
  | .iceberg => "ICEBERG"

def tifText : TimeInForce → String
  | .day => "DAY"
  | .gtc => "GTC"
  | .ioc => "IOC"
  | .fok => "FOK"
  | .gtd => "GTD"
  | .opg => "OPG"
  | .atc => "ATC"

def actionText : OrderSide → String
  | .buy => "BUY"
  | .sell => "SELL"

variable (caps : UpperCase)

def toIbapiOrder (req : IbkrOrderRequest) : IbapiOrder where
  action := caps.upper req.side
  totalQuantity := req.quantity
  tif := tifText req.timeInForce
  account := req.accountId
  orderRef := req.clientOrderId
  transmit := true
  outsideRth := req.outsideRegularTradingHours
  whatIf := req.whatIf
  orderType :=
    match req.orderType with
    | .market => "MKT"
    | .limit => "LMT"
    | other => orderTypeText other
  lmtPrice := if req.orderType = .limit then some (req.limitPrice.getD 0) else none

def bracketParent (req : IbkrOrderRequest) : IbapiOrder where
  action := caps.upper req.side
  totalQuantity := req.quantity
  tif := tifText req.timeInForce
  account := req.accountId
  orderRef := req.clientOrderId
  transmit := req.whatIf
  outsideRth := req.outsideRegularTradingHours
  whatIf := req.whatIf
  orderType := if req.limitPrice.isNone then "MKT" else "LMT"
  lmtPrice := req.limitPrice

/-- The reference of a bracket's child, numbered from zero. -/
def childRef (req : IbkrOrderRequest) (index : Nat) : String :=
  req.clientOrderId ++ "-bracket-" ++ toString (index + 1)

def applyBracketLegPrice (order : IbapiOrder) (leg : BracketLeg) : Except String IbapiOrder :=
  match leg.orderType, leg.limitPrice, leg.stopPrice with
  | .limit, some limitPrice, _ => .ok { order with orderType := "LMT", lmtPrice := some limitPrice }
  | .limit, none, _ => .error "limit bracket legs require limit_price"
  | .stop, _, some stopPrice => .ok { order with orderType := "STP", auxPrice := some stopPrice }
  | .stop, _, none => .error "stop bracket legs require stop_price"
  | .stopLimit, some limitPrice, some stopPrice =>
    .ok { order with
      orderType := "STP LMT", auxPrice := some stopPrice, lmtPrice := some limitPrice }
  | .stopLimit, _, _ => .error "stop_limit bracket legs require stop_price and limit_price"
  | other, _, _ =>
    .error ("unsupported bracket leg order type: " ++ (orderTypeText other).toLower)

def bracketChild (req : IbkrOrderRequest) (parentId index legs : Nat) (leg : BracketLeg) :
    Except String IbapiOrder :=
  applyBracketLegPrice {
    action := actionText leg.side
    totalQuantity := leg.quantity
    tif := tifText req.timeInForce
    account := req.accountId
    orderRef := req.childRef index
    parentId
    transmit := req.whatIf || decide (index + 1 = legs)
    outsideRth := req.outsideRegularTradingHours
    whatIf := req.whatIf
    orderType := "" } leg

def bracketChildren (req : IbkrOrderRequest) (parentId legs : Nat) :
    Nat → List BracketLeg → Except String (List PlacedOrder)
  | _, [] => .ok []
  | index, leg :: rest => do
    let child ← req.bracketChild parentId index legs leg
    let children ← bracketChildren req parentId legs (index + 1) rest
    return ⟨parentId + 1 + index, req.contractSpec, child⟩ :: children

def toIbapiBracketOrders (req : IbkrOrderRequest) (parentId : Nat) :
    Except String (List PlacedOrder) := do
  let legs := req.bracketLegs.getD []
  let children ← req.bracketChildren parentId legs.length 0 legs
  return ⟨parentId, req.contractSpec, req.bracketParent caps⟩ :: children

def reserved (req : IbkrOrderRequest) : Nat :=
  if req.orderType = .bracket then 1 + (req.bracketLegs.getD []).length else 1

def orders (req : IbkrOrderRequest) (firstId : Nat) : Except String (List PlacedOrder) :=
  if req.orderType = .bracket then req.toIbapiBracketOrders caps firstId
  else .ok [⟨firstId, req.contractSpec, req.toIbapiOrder caps⟩]

end IbkrOrderRequest

/-- A broker callback that the normalizers of the account handle. -/
inductive IbkrCallback
  | orderStatus (payload : IbkrOrderStatusPayload)
  | openOrder (payload : IbkrOpenOrderPayload)
  | execution (payload : IbkrExecutionPayload)
  | commission (payload : IbkrCommissionPayload)
  | position (payload : IbkrPositionPayload)
  | accountSummary (payload : IbkrAccountSummaryPayload)

namespace IbkrCallbackNormalizer

def completedReport : ExecutionReport ⊕ BrokerCommissionReport → List ExecutionReport
  | .inl report => [report]
  | .inr _ => []

def dispatch (callback : IbkrCallback) (now : DateTime) : NormalizerCall (List ExecutionReport) :=
  match callback with
  | .orderStatus payload => do
    return (← onCallbacks (onOrderStatus payload now)).toList
  | .openOrder payload => do
    onOpenOrder payload now
    return []
  | .execution payload => do
    return (← onCallbacks (onExecution payload)).toList
  | .commission payload => do
    return completedReport (← onCallbacks (onCommission payload))
  | .position payload => do
    onPosition payload
    return []
  | .accountSummary payload => do
    onAccountSummary payload
    return []

def recordSubmittedOrder (req : IbkrOrderRequest) (ibkrOrderId : String)
    (submittedAt : DateTime) : NormalizerCall Unit := do
  match (← get).calls.orderMap, req.internalAccountId with
  | none, _ => return
  | some _, none =>
    throw (.valueError "internal_account_id is required to record IBKR order mapping")
  | some map, some accountId => do
    let (_, pending) ← raise (map.recordPendingSubmission req.internalOrderId
      req.clientOrderId accountId req.strategyId submittedAt)
    modify fun normalizer => { normalizer with
      calls := { normalizer.calls with orderMap := some pending } }
    onCallbacks (updateOrderMap (pending.attachIbkrOrderId req.clientOrderId ibkrOrderId))

end IbkrCallbackNormalizer

namespace IbkrOrderSession

open RaisingCalls

def onNormalizer {Value : Type} (call : NormalizerCall Value) : SessionCall Value :=
  fun session =>
    match call.run session.normalizer with
    | .ok value normalizer => .ok value { session with normalizer }
    | .error failure normalizer =>
      .error failure.raisedAs { session with normalizer }

def markNextOrderId (orderId : Int) : SessionCall Unit := do
  if orderId ≤ 0 then
    throw (.valueError "order_id must be positive")
  else
    modify fun session => { session with
      client := { session.client with
        nextId := some (max (session.client.nextId.getD 0) orderId.toNat) } }

/-- Callbacks that arrive one after another; what one raises stays with its own thread. -/
def arrive (now : DateTime) (session : IbkrOrderSession) :
    List IbkrCallback → List ExecutionReport × IbkrOrderSession
  | [] => ([], session)
  | callback :: rest =>
    match (dispatch callback now).run session.normalizer with
    | .ok reports normalizer =>
      let (later, after) := arrive now { session with normalizer } rest
      (reports ++ later, after)
    | .error _ normalizer => arrive now { session with normalizer } rest

variable (caps : UpperCase)

def placeOrders (req : IbkrOrderRequest) : SessionCall Nat := do
  match (← get).client.nextId with
  | none => throw (.runtimeError "IBKR order-execution transport has no next order id")
  | some firstId =>
    modify fun session => { session with
      client := { session.client with nextId := some (firstId + req.reserved) } }
    match req.orders caps firstId with
    | .error msg => throw (.valueError msg)
    | .ok orders =>
      modify fun session => { session with
        client := { session.client with placed := session.client.placed ++ orders } }
      return firstId

def submitOrderWithBrokerId (req : IbkrOrderRequest) (arriving : List IbkrCallback)
    (now : DateTime) (session : IbkrOrderSession) :
    (Except Failure String × List ExecutionReport) × IbkrOrderSession :=
  match (placeOrders caps req).run session with
  | .error failure after => ((.error failure, []), after)
  | .ok firstId placed =>
    let (reports, arrived) := placed.arrive now arriving
    let recording :=
      onNormalizer (recordSubmittedOrder req (toString firstId) now)
    match recording.run arrived with
    | .ok _ recorded => ((.ok (toString firstId), reports), recorded)
    | .error failure recorded => ((.error failure, reports), recorded)

def reportsOf : EStateM.Result Failure IbkrOrderSession (List ExecutionReport) →
    List ExecutionReport × IbkrOrderSession
  | .ok reports session => (reports, session)
  | .error _ session => ([], session)

end IbkrOrderSession

/-- What happens to the session: a submission, a callback of the broker, or a lifecycle step. -/
inductive IbkrSessionEvent
  | nextValidId (orderId : Int)
  | submit (req : IbkrOrderRequest) (arriving : List IbkrCallback) (now : DateTime)
  | callback (callback : IbkrCallback) (now : DateTime)
  | flush (reason : String)
  | resolve (now : DateTime)

namespace IbkrOrderSession

open RaisingCalls

def step (caps : UpperCase) :
    StepRuns.Step IbkrOrderSession IbkrSessionEvent (List ExecutionReport) := fun session event =>
  match event with
  | .nextValidId orderId => ([], endState ((markNextOrderId orderId).run session))
  | .submit req arriving now =>
    let ((_, reports), after) := submitOrderWithBrokerId caps req arriving now session
    (reports, after)
  | .callback callback now => session.arrive now [callback]
  | .flush reason =>
    reportsOf ((onNormalizer (onCallbacks (flushPendingExecutions reason))).run session)
  | .resolve now =>
    reportsOf ((onNormalizer (resolveQuarantinedCallbacks now)).run session)

def start (accountId : String) (symbolMapping : BrokerSymbolMapping) : IbkrOrderSession where
  normalizer := {
    calls := { accountId, orderMap := some .init }
    symbolMapping }

end IbkrOrderSession

end Qts
