import Qts.BrokerExecutionAdapter
import Qts.SimulatedExecution

/-! # What reaches the broker -/

namespace Qts.BrokerExecutionAdapter

open RaisingCalls

variable {Broker : Type}

def recording (broker : BrokerAdapter Broker) : BrokerAdapter (Broker × List BrokerOrderRequest)
    where
  submitOrder request := fun (state, log) =>
    match (broker.submitOrder request).run state with
    | .ok report after => .ok report (after, log ++ [request])
    | .error failure after => .error failure (after, log ++ [request])
  cancelOrder orderId := fun (state, log) =>
    match (broker.cancelOrder orderId).run state with
    | .ok report after => .ok report (after, log)
    | .error failure after => .error failure (after, log)
  replaceOrder orderId newQuantity := fun (state, log) =>
    match (broker.replaceOrder orderId newQuantity).run state with
    | .ok report after => .ok report (after, log)
    | .error failure after => .error failure (after, log)

/-- A request that carries what the intent asks for on its route. -/
structure Faithful (intent : OrderIntent) (accountId : AccountId) (request : BrokerOrderRequest) :
    Prop where
  orderSpec : request.orderSpec = intent.orderSpec
  side : request.side = intent.side
  quantity : request.quantity = intent.quantity
  account : request.accountId = accountId
  instrument : request.instrumentId = intent.instrumentId

/-- The request for an order: all of it but the execution specification, which is the default. -/
structure MarketRequest (intent : OrderIntent) (accountId : AccountId)
    (request : BrokerOrderRequest) : Prop where
  orderSpec : request.orderSpec = OrderSpec.default
  side : request.side = intent.side
  quantity : request.quantity = intent.quantity
  account : request.accountId = accountId
  instrument : request.instrumentId = intent.instrumentId

variable {request : BrokerOrderRequest}

theorem MarketRequest.faithful_iff {intent : OrderIntent} {accountId : AccountId}
    (market : MarketRequest intent accountId request) :
    Faithful intent accountId request ↔ intent.orderSpec = OrderSpec.default := by
  constructor
  · intro faithful
    exact faithful.orderSpec.symm.trans market.orderSpec
  · intro default
    exact ⟨market.orderSpec.trans default.symm, market.side, market.quantity, market.account,
      market.instrument⟩

theorem create_fields {fields : BrokerOrderRequestFields}
    (created : BrokerOrderRequest.create fields = .ok request) :
    request.toBrokerOrderRequestFields = fields := by
  unfold BrokerOrderRequest.create at created
  split at created
  · obtain rfl := Except.ok.inj created
    rfl
  · cases created

/-- A request built from an intent without its specification asks for the default one. -/
theorem create_marketRequest {intent : OrderIntent} {accountId : AccountId}
    {strategyId : StrategyId} {clientOrderId : String}
    (created : BrokerOrderRequest.create {
      orderId := intent.orderId
      clientOrderId, accountId
      strategyId := some strategyId
      instrumentId := intent.instrumentId
      side := intent.side
      quantity := intent.quantity } = .ok request) : MarketRequest intent accountId request := by
  obtain ⟨fields, valid⟩ := request
  obtain rfl : fields = _ := create_fields created
  exact ⟨rfl, rfl, rfl, rfl, rfl⟩

/-- What a call leaves of the broker's log. -/
def Hands (call : AdapterCall (Broker × List BrokerOrderRequest) ExecutionReport)
    (holds : BrokerOrderRequest → Prop) : Prop :=
  ∀ adapter, ∃ handed : List BrokerOrderRequest, handed.length ≤ 1 ∧
    (endState (call.run adapter)).broker.2 = adapter.broker.2 ++ handed ∧
    ∀ request ∈ handed, holds request

theorem Hands.afterCheck {Value : Type} {holds : BrokerOrderRequest → Prop}
    {check : AdapterCall (Broker × List BrokerOrderRequest) Value} (unmoving : Unmoving check)
    {next : Value → AdapterCall (Broker × List BrokerOrderRequest) ExecutionReport}
    (rest : ∀ adapter value, check.run adapter = .ok value adapter → Hands (next value) holds) :
    Hands (check >>= next) holds := by
  intro adapter
  rcases unmoving.bind_run next adapter with ⟨failure, ran⟩ | ⟨value, checked, ran⟩
  · rw [ran]
    exact ⟨[], Nat.zero_le 1, (List.append_nil _).symm, fun _ mem => by cases mem⟩
  · rw [ran]
    exact rest adapter value checked adapter

/-- What follows the submission does not reach the broker. -/
theorem submit_hands (broker : BrokerAdapter Broker) (request : BrokerOrderRequest)
    (brokerOrderId : String) (barTime : Option DateTime) {holds : BrokerOrderRequest → Prop}
    (requested : holds request) :
    Hands (do
      let report ← onBroker ((recording broker).submitOrder request)
      modify fun adapter => { adapter with
        runtimeBrokerOrderIds :=
          adapter.runtimeBrokerOrderIds.set report.brokerOrderId brokerOrderId }
      normalizeWithRuntimeBrokerOrderId report barTime) holds := by
  intro adapter
  refine ⟨[request], le_rfl, ?_, fun other mem => List.mem_singleton.mp mem ▸ requested⟩
  cases submitted : (broker.submitOrder request).run adapter.broker.1 with
  | error failure after =>
    have ran : (onBroker ((recording broker).submitOrder request)).run adapter =
        .error failure { adapter with broker := (after, adapter.broker.2 ++ [request]) } := by
      simp only [onBroker, recording, EStateM.run] at submitted ⊢
      rw [submitted]
    rw [bind_run_error ran]
    rfl
  | ok report after =>
    have ran : (onBroker ((recording broker).submitOrder request)).run adapter =
        .ok report { adapter with broker := (after, adapter.broker.2 ++ [request]) } := by
      simp only [onBroker, recording, EStateM.run] at submitted ⊢
      rw [submitted]
    rw [bind_run_ok ran, EStateM.run_bind, EStateM.run_modify]
    dsimp only
    rw [(normalizeWithRuntimeBrokerOrderId_unmoving report barTime).endState]

theorem executeMarketOrder_hands (broker : BrokerAdapter Broker) (intent : OrderIntent)
    (brokerOrderId : String) (accountId : AccountId) (strategyId : StrategyId)
    (clientOrderId : String) (barTime : Option DateTime) :
    Hands (executeMarketOrder (recording broker) intent brokerOrderId accountId strategyId
      clientOrderId barTime) (MarketRequest intent accountId) := by
  refine Hands.afterCheck assertLiveCapitalOrderAllowed_unmoving fun _ _ _ => ?_
  refine Hands.afterCheck (raising_unmoving _) fun _ _ _ => ?_
  refine Hands.afterCheck (validateRoute_unmoving accountId strategyId) fun _ _ _ => ?_
  refine Hands.afterCheck (raising_unmoving _) fun adapter request checked => ?_
  refine submit_hands broker request brokerOrderId barTime ?_
  exact create_marketRequest (raising_ok checked)

/-- For an order, the execution actor hands the broker at most one request, and the request
carries what the order's intent asks for exactly when that is a market day order. -/
theorem execute_faithful_iff (broker : BrokerAdapter Broker)
    (liveCapitalRefusal : Option Failure) (intent : OrderIntent) (brokerOrderId : String)
    (marketPrice : Decimal) (accountId : AccountId) (strategyId : StrategyId)
    (routeMetadata : OrderRouteMetadata) (barTime : Option DateTime)
    (adapter : BrokerExecutionAdapter (Broker × List BrokerOrderRequest)) :
    ∃ handed : List BrokerOrderRequest, handed.length ≤ 1 ∧
      (endState ((handle (recording broker) liveCapitalRefusal (.execute intent brokerOrderId
        marketPrice accountId strategyId routeMetadata barTime)).run adapter)).broker.2 =
          adapter.broker.2 ++ handed ∧
      ∀ request ∈ handed,
        Faithful intent accountId request ↔ intent.orderSpec = OrderSpec.default := by
  have hands : Hands (handle (recording broker) liveCapitalRefusal (.execute intent brokerOrderId
      marketPrice accountId strategyId routeMetadata barTime)) (MarketRequest intent accountId) :=
    Hands.afterCheck (raising_unmoving _) fun _ _ _ =>
      executeMarketOrder_hands broker intent brokerOrderId accountId strategyId
        routeMetadata.clientOrderId barTime
  obtain ⟨handed, one, logged, market⟩ := hands adapter
  exact ⟨handed, one, logged, fun request mem => (market request mem).faithful_iff⟩

def paperAccount : AccountId :=
  ⟨⟨"acct-1", Eq.refl false⟩⟩

def paperStrategy : StrategyId :=
  ⟨⟨"strategy-1", Eq.refl false⟩⟩

def limitOrder : OrderIntent where
  orderId := ⟨⟨"order-1", Eq.refl false⟩⟩
  instrumentId := ⟨⟨"ES", Eq.refl false⟩⟩
  side := .buy
  quantity := 1
  accountId := some paperAccount
  orderSpec := { orderType := .limit, limitPrice := some 100, valid := by decide +kernel }
  valid := by decide +kernel

def paperRoute : OrderRouteMetadata where
  brokerId := ⟨⟨"paper", Eq.refl false⟩⟩
  accountId := paperAccount
  strategyId := paperStrategy
  clientOrderId := "client-1"
  correlationId := ⟨⟨"corr-1", Eq.refl false⟩⟩
  valid := by decide

theorem acceptedReport_valid (request : BrokerOrderRequest) :
    Check.firstFailure (BrokerExecutionReportFields.checks {
      reportId := "report-1"
      brokerId := ⟨⟨"paper", rfl⟩⟩
      brokerOrderId := "paper-1"
      orderId := request.orderId
      accountId := request.accountId
      strategyId := request.strategyId
      instrumentId := request.instrumentId
      status := .accepted }) = none := by
  rw [Check.firstFailure_none]
  simp only [BrokerExecutionReportFields.checks, List.forall_mem_cons, List.not_mem_nil,
    false_implies, implies_true, and_true]
  exact ⟨by decide, by decide, by simp, by simp⟩

def acceptingBroker : BrokerAdapter Unit where
  submitOrder request := return {
    reportId := "report-1"
    brokerId := ⟨⟨"paper", Eq.refl false⟩⟩
    brokerOrderId := "paper-1"
    orderId := request.orderId
    accountId := request.accountId
    strategyId := request.strategyId
    instrumentId := request.instrumentId
    status := .accepted
    valid := acceptedReport_valid request }
  cancelOrder orderId := throw (.keyError orderId.value)
  replaceOrder orderId _ := throw (.keyError orderId.value)

def paperAdapter : BrokerExecutionAdapter (Unit × List BrokerOrderRequest) where
  broker := ((), [])
  accountId := paperAccount

theorem execute_faithful_iff_limit :
    ∃ handed : List BrokerOrderRequest, handed.length ≤ 1 ∧
      (endState ((handle (recording acceptingBroker) none (.execute limitOrder "broker-1" 100
        paperAccount paperStrategy paperRoute none)).run paperAdapter)).broker.2 =
          [] ++ handed ∧
      ∀ request ∈ handed,
        Faithful limitOrder paperAccount request ↔ limitOrder.orderSpec = OrderSpec.default :=
  execute_faithful_iff acceptingBroker none limitOrder "broker-1" 100 paperAccount paperStrategy
    paperRoute none paperAdapter

/-- A limit order that the broker's capabilities accept reaches it as a market order. -/
theorem limitOrder_not_faithful :
    BrokerCapabilities.supportsOrderType {} limitOrder.orderSpec.orderType = true ∧
      BrokerCapabilities.supportsTif {} limitOrder.orderSpec.timeInForce = true ∧
      ∃ request ∈ (endState ((handle (recording acceptingBroker) none (.execute limitOrder
        "broker-1" 100 paperAccount paperStrategy paperRoute none)).run paperAdapter)).broker.2,
        ¬ Faithful limitOrder paperAccount request := by
  have lost : ∃ request ∈ (endState ((handle (recording acceptingBroker) none (.execute limitOrder
      "broker-1" 100 paperAccount paperStrategy paperRoute none)).run paperAdapter)).broker.2,
      request.orderSpec ≠ limitOrder.orderSpec := by
    decide +kernel
  obtain ⟨request, handed, ne⟩ := lost
  exact ⟨rfl, rfl, request, handed, fun faithful => ne faithful.orderSpec⟩

end Qts.BrokerExecutionAdapter
