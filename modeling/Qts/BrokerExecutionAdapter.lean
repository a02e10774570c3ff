import Qts.OrderManagerActor

/-! # Broker-backed execution -/

namespace Qts

open RaisingCalls PythonText Check

structure BrokerOrderRequestFields where
  orderId : OrderId
  clientOrderId : String
  accountId : AccountId
  strategyId : Option StrategyId
  instrumentId : InstrumentId
  side : OrderSide
  quantity : Decimal
  orderType : OrderType := .market
  timeInForce : TimeInForce := .day
  limitPrice : Option Decimal := none
  stopPrice : Option Decimal := none
  trailAmount : Option Decimal := none
  trailPercent : Option Decimal := none
  goodTilDate : Option DateTime := none
  bracketLegs : Option (List BracketLeg) := none

namespace BrokerOrderRequestFields

def bracket (req : BrokerOrderRequestFields) : Option BracketSpec :=
  req.bracketLegs.bind fun legs =>
    if twoLegs : 2 ≤ legs.length then some ⟨legs, twoLegs⟩ else none

def specFields (req : BrokerOrderRequestFields) : OrderSpecFields where
  orderType := req.orderType
  timeInForce := req.timeInForce
  limitPrice := req.limitPrice
  stopPrice := req.stopPrice
  trailAmount := req.trailAmount
  trailPercent := req.trailPercent
  goodTilDate := req.goodTilDate
  bracket := req.bracket

/-- The request's own checks; building its specification makes the rest. -/
def checks (req : BrokerOrderRequestFields) : List Check :=
  [⟨isBlank req.clientOrderId, "client_order_id must not be empty"⟩,
   ⟨decide (req.quantity ≤ 0), "quantity must be positive"⟩,
   ⟨req.bracketLegs.any fun legs => decide (legs.length < 2),
      "bracket orders require at least two legs"⟩] ++ req.specFields.checks

end BrokerOrderRequestFields

structure BrokerOrderRequest extends BrokerOrderRequestFields where
  valid : firstFailure toBrokerOrderRequestFields.checks = none

namespace BrokerOrderRequest

def create (fields : BrokerOrderRequestFields) : Except Failure BrokerOrderRequest :=
  match checked : firstFailure fields.checks with
  | none => .ok ⟨fields, checked⟩
  | some msg => .error (.valueError msg)

def orderSpec (req : BrokerOrderRequest) : OrderSpec where
  toOrderSpecFields := req.specFields
  valid := by
    have passes := (firstFailure_none _).mp req.valid
    refine (firstFailure_none _).mpr fun check mem => ?_
    exact passes check (List.mem_append_right _ mem)

end BrokerOrderRequest

structure BrokerExecutionReportFields where
  reportId : String
  brokerId : BrokerId
  brokerOrderId : String
  orderId : OrderId
  accountId : AccountId
  strategyId : Option StrategyId
  instrumentId : InstrumentId
  status : ExecutionReportStatus
  filledQuantity : Decimal := 0
  fillPrice : Option Decimal := none
  fillId : Option String := none
  fillTime : Option DateTime := none

def BrokerExecutionReportFields.checks (report : BrokerExecutionReportFields) : List Check :=
  [⟨isBlank report.reportId, "report_id must not be empty"⟩,
   ⟨isBlank report.brokerOrderId, "broker_order_id must not be empty"⟩,
   ⟨decide (report.filledQuantity < 0), "filled_quantity must be non-negative"⟩,
   ⟨decide (0 < report.filledQuantity) && report.fillPrice.isNone,
      "fill_price is required for fills"⟩]

/-- Normalized broker callback before it reaches the order manager. -/
structure BrokerExecutionReport extends BrokerExecutionReportFields where
  valid : firstFailure toBrokerExecutionReportFields.checks = none

def createExecutionReport (fields : ExecutionReportFields) :
    Except Failure ExecutionReport :=
  (ExecutionReport.create fields).mapError .valueError

def normalizeBrokerExecutionReport (report : BrokerExecutionReport) :
    Except Failure ExecutionReport :=
  createExecutionReport {
    reportId := report.reportId
    brokerOrderId := report.brokerOrderId
    status := report.status
    filledQuantity := report.filledQuantity
    fillPrice := report.fillPrice
    fillId := report.fillId
    fillTime := report.fillTime }

/-- Stable broker execution boundary, over the broker's own state. -/
structure BrokerAdapter (Broker : Type) where
  submitOrder : BrokerOrderRequest → EStateM Failure Broker BrokerExecutionReport
  cancelOrder : OrderId → EStateM Failure Broker BrokerExecutionReport
  replaceOrder : OrderId → Decimal → EStateM Failure Broker BrokerExecutionReport

structure BrokerExecutionAdapter (Broker : Type) where
  broker : Broker
  accountId : AccountId
  strategyId : Option StrategyId := none
  /-- What the live-capital gate raises, when there is one that refuses. -/
  liveCapitalRefusal : Option Failure := none
  runtimeBrokerOrderIds : Dict String String := .empty

abbrev AdapterCall (Broker : Type) := EStateM Failure (BrokerExecutionAdapter Broker)

namespace BrokerExecutionAdapter

variable {Broker Value : Type}

def raising (result : Except Failure Value) : AdapterCall Broker Value :=
  match result with
  | .ok value => return value
  | .error failure => throw failure

def onBroker (call : EStateM Failure Broker Value) : AdapterCall Broker Value :=
  fun adapter =>
    match call.run adapter.broker with
    | .ok value broker => .ok value { adapter with broker }
    | .error failure broker => .error failure { adapter with broker }

def refuseIf (fails : Bool) (msg : String) : AdapterCall Broker Unit :=
  raising (if fails then .error (.valueError msg) else .ok ())

def assertLiveCapitalOrderAllowed : AdapterCall Broker Unit := do
  match (← get).liveCapitalRefusal with
  | some refusal => throw refusal
  | none => return

def validateRoute (accountId : AccountId) (strategyId : StrategyId) : AdapterCall Broker Unit := do
  let adapter ← get
  refuseIf (decide (accountId ≠ adapter.accountId))
    "account_id does not match BrokerExecutionAdapter account_id"
  refuseIf (adapter.strategyId.any fun own => decide (strategyId ≠ own))
    "strategy_id does not match BrokerExecutionAdapter strategy_id"

def withFillTime (report : ExecutionReport) (barTime : Option DateTime) :
    Except Failure ExecutionReport :=
  match report.fillTime, barTime with
  | none, some barTime =>
    createExecutionReport { report.toExecutionReportFields with fillTime := some barTime }
  | _, _ => .ok report

def normalizeWithRuntimeBrokerOrderId (report : BrokerExecutionReport)
    (barTime : Option DateTime := none) : AdapterCall Broker ExecutionReport := do
  match (← get).runtimeBrokerOrderIds.get? report.brokerOrderId with
  | none => throw (.valueError ("unknown broker_order_id: " ++ report.brokerOrderId))
  | some runtimeBrokerOrderId =>
    let normalized ← raising (normalizeBrokerExecutionReport report)
    let timed ← raising (withFillTime normalized barTime)
    raising (createExecutionReport
      { timed.toExecutionReportFields with brokerOrderId := runtimeBrokerOrderId })

variable (broker : BrokerAdapter Broker)

def executeMarketOrder (intent : OrderIntent) (brokerOrderId : String) (accountId : AccountId)
    (strategyId : StrategyId) (clientOrderId : String) (barTime : Option DateTime) :
    AdapterCall Broker ExecutionReport := do
  assertLiveCapitalOrderAllowed
  refuseIf (intent.accountId.any fun own => decide (own ≠ accountId))
    "intent account_id does not match execution route account_id"
  validateRoute accountId strategyId
  let req ← raising (BrokerOrderRequest.create {
    orderId := intent.orderId
    clientOrderId, accountId
    strategyId := some strategyId
    instrumentId := intent.instrumentId
    side := intent.side
    quantity := intent.quantity })
  let report ← onBroker (broker.submitOrder req)
  modify fun adapter => { adapter with
    runtimeBrokerOrderIds := adapter.runtimeBrokerOrderIds.set report.brokerOrderId brokerOrderId }
  normalizeWithRuntimeBrokerOrderId report barTime

def normalizeExecutionReport (report : BrokerExecutionReport) :
    AdapterCall Broker ExecutionReport :=
  normalizeWithRuntimeBrokerOrderId report

def cancelOrder (orderId : OrderId) (brokerOrderId : String) (accountId : AccountId)
    (strategyId : StrategyId) (clientOrderId : String) : AdapterCall Broker ExecutionReport := do
  refuseIf (isBlank brokerOrderId) "broker_order_id must not be empty"
  refuseIf (isBlank clientOrderId) "client_order_id must not be empty"
  validateRoute accountId strategyId
  let report ← onBroker (broker.cancelOrder orderId)
  normalizeWithRuntimeBrokerOrderId report

def replaceOrder (orderId : OrderId) (brokerOrderId : String) (newQuantity : Decimal)
    (accountId : AccountId) (strategyId : StrategyId) (clientOrderId : String) :
    AdapterCall Broker ExecutionReport := do
  refuseIf (isBlank brokerOrderId) "broker_order_id must not be empty"
  refuseIf (isBlank clientOrderId) "client_order_id must not be empty"
  validateRoute accountId strategyId
  let report ← onBroker (broker.replaceOrder orderId newQuantity)
  normalizeWithRuntimeBrokerOrderId report

def handle (liveCapitalRefusal : Option Failure) :
    ExecutionRequest → AdapterCall Broker ExecutionReport
  | .execute intent brokerOrderId _ accountId strategyId routeMetadata barTime => do
    raising (match liveCapitalRefusal with
      | some refusal => .error refusal
      | none => .ok ())
    executeMarketOrder broker intent brokerOrderId accountId strategyId
      routeMetadata.clientOrderId barTime
  | .cancel orderId brokerOrderId accountId strategyId routeMetadata =>
    cancelOrder broker orderId brokerOrderId accountId strategyId routeMetadata.clientOrderId
  | .replace orderId brokerOrderId newQuantity accountId strategyId routeMetadata =>
    replaceOrder broker orderId brokerOrderId newQuantity accountId strategyId
      routeMetadata.clientOrderId

theorem raising_unmoving (result : Except Failure Value) :
    Unmoving (raising result : AdapterCall Broker Value) := by
  cases result with
  | ok value => exact Unmoving.pure value
  | error failure => exact Unmoving.throw failure

theorem raising_ok {result : Except Failure Value} {value : Value}
    {adapter after : BrokerExecutionAdapter Broker}
    (ran : (raising result).run adapter = .ok value after) : result = .ok value := by
  cases result with
  | ok other =>
    cases ran
    rfl
  | error failure => cases ran

theorem assertLiveCapitalOrderAllowed_unmoving :
    Unmoving (assertLiveCapitalOrderAllowed : AdapterCall Broker Unit) := by
  refine Unmoving.get fun adapter => ?_
  cases adapter.liveCapitalRefusal with
  | some refusal => exact Unmoving.throw refusal
  | none => exact Unmoving.pure ()

theorem validateRoute_unmoving (accountId : AccountId) (strategyId : StrategyId) :
    Unmoving (validateRoute accountId strategyId : AdapterCall Broker Unit) :=
  Unmoving.get fun _ => (raising_unmoving _).bind fun _ => raising_unmoving _

theorem normalizeWithRuntimeBrokerOrderId_unmoving (report : BrokerExecutionReport)
    (barTime : Option DateTime) :
    Unmoving (normalizeWithRuntimeBrokerOrderId report barTime :
      AdapterCall Broker ExecutionReport) := by
  refine Unmoving.get fun adapter => ?_
  cases adapter.runtimeBrokerOrderIds.get? report.brokerOrderId with
  | none => exact Unmoving.throw _
  | some runtimeBrokerOrderId =>
    refine (raising_unmoving _).bind fun normalized => ?_
    exact (raising_unmoving _).bind fun timed => raising_unmoving _

end BrokerExecutionAdapter

end Qts
