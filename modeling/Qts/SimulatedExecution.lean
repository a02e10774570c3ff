import Qts.IntentProcessing

/-!
# Simulated execution

The simulated broker answers each request at once with one report whose ids are made from
the broker order id.
-/

namespace Qts

structure BrokerCapabilities where
  supportsMarketOrders : Bool := true
  supportsLimitOrders : Bool := true
  supportsStopOrders : Bool := false
  supportsFractional : Bool := false
  supportsShort : Bool := false
  minOrderQuantity : Option Decimal := none
  lotSize : Option Decimal := none
  maxOrderQuantity : Option Decimal := none
  supportedAssetClasses : List String := []
  supportedOrderTypes : List OrderType := []
  supportedTimeInForce : List TimeInForce := []

namespace BrokerCapabilities

variable (capabilities : BrokerCapabilities)

def supportsOrderType (orderType : OrderType) : Bool :=
  if capabilities.supportedOrderTypes.isEmpty then
    match orderType with
    | .market | .marketOnOpen | .marketOnClose => capabilities.supportsMarketOrders
    | .limit => capabilities.supportsLimitOrders
    | .stop | .trailingStop => capabilities.supportsStopOrders
    | .stopLimit => capabilities.supportsLimitOrders && capabilities.supportsStopOrders
    | .bracket => capabilities.supportsMarketOrders || capabilities.supportsLimitOrders ||
        capabilities.supportsStopOrders
    | .iceberg => false
  else
    decide (orderType ∈ capabilities.supportedOrderTypes)

def supportsTif (timeInForce : TimeInForce) : Bool :=
  capabilities.supportedTimeInForce.isEmpty ||
    decide (timeInForce ∈ capabilities.supportedTimeInForce)

def assetClassChecks (assetClass : String) : List Check :=
  [⟨PythonText.isBlank assetClass, "asset_class must not be empty"⟩,
   ⟨!(capabilities.supportedAssetClasses.isEmpty ||
        decide (assetClass ∈ capabilities.supportedAssetClasses)),
      "asset class is not supported: " ++ assetClass⟩]

def quantityChecks (quantity : Decimal) : List Check :=
  [⟨decide (quantity ≤ 0), "quantity must be positive"⟩,
   ⟨capabilities.minOrderQuantity.any fun least => decide (quantity < least),
      "quantity is below minimum order quantity"⟩,
   ⟨capabilities.maxOrderQuantity.any fun most => decide (most < quantity),
      "quantity exceeds max order quantity"⟩,
   ⟨capabilities.lotSize.any fun lot => decide ((quantity / lot).den ≠ 1),
      "quantity does not conform to broker lot size"⟩]

end BrokerCapabilities

structure SimulatedExecutionCostModel where
  fixedCommissionPerContract : Decimal := 0
  slippageBps : Decimal := 0

/-- Outcome of bar-touch evaluation for one order. -/
structure FillDecision where
  triggered : Bool
  fillPrice : Decimal

def unsupportedSimOrderTypes : List OrderType :=
  [.trailingStop, .marketOnOpen, .marketOnClose, .iceberg]

def OrderType.text : OrderType → String
  | market => "market"
  | limit => "limit"
  | stop => "stop"
  | stopLimit => "stop_limit"
  | trailingStop => "trailing_stop"
  | marketOnOpen => "market_on_open"
  | marketOnClose => "market_on_close"
  | bracket => "bracket"
  | iceberg => "iceberg"

def defaultSimulatedCapabilities : BrokerCapabilities where
  supportsFractional := true
  supportsStopOrders := true
  supportedOrderTypes := [.market, .limit, .stop, .stopLimit, .bracket]
  supportedTimeInForce := [.day, .gtc, .ioc, .fok, .gtd, .opg, .atc]

/-- Deterministic commission and slippage assumptions for backtests. -/
structure SimulatedExecutionAdapter where
  costModel : SimulatedExecutionCostModel := {}
  capabilities : BrokerCapabilities := defaultSimulatedCapabilities

namespace SimulatedExecutionAdapter

def orderChecks (capabilities : BrokerCapabilities) (intent : OrderIntent) : List Check :=
  [⟨!capabilities.supportsOrderType intent.orderSpec.orderType,
      if intent.orderSpec.orderType = .market then
        "market orders are not supported by broker capabilities"
      else
        "order type is not supported by broker capabilities"⟩,
   ⟨!capabilities.supportsTif intent.orderSpec.timeInForce,
      "time in force is not supported by broker capabilities"⟩,
   ⟨!capabilities.supportsFractional && decide (intent.quantity.den ≠ 1),
      "fractional quantity is not supported"⟩] ++
    capabilities.quantityChecks intent.quantity

def validateOrder (capabilities : BrokerCapabilities) (intent : OrderIntent) :
    Except Failure Unit :=
  match Check.firstFailure (orderChecks capabilities intent) with
  | none => .ok ()
  | some msg => .error (.valueError msg)

def resolveBarRange (marketPrice : Decimal) (barHigh barLow : Option Decimal) :
    Except Failure (Decimal × Decimal) :=
  match barHigh, barLow with
  | none, none => .ok (marketPrice, marketPrice)
  | some high, some low =>
    if high < low then
      .error (.valueError "bar_high must be greater than or equal to bar_low")
    else if marketPrice < low ∨ high < marketPrice then
      .error (.valueError "market_price must lie within the bar range")
    else
      .ok (high, low)
  | _, _ => .error (.valueError "bar_high and bar_low must be provided together")

def evaluateLimit (intent : OrderIntent) (barHigh barLow : Decimal) :
    Except Failure FillDecision :=
  match intent.orderSpec.limitPrice with
  | none => .error (.valueError "LIMIT order requires limit_price")
  | some limitPrice =>
    match intent.side with
    | .buy => .ok (if barLow ≤ limitPrice then ⟨true, min limitPrice barHigh⟩
        else ⟨false, limitPrice⟩)
    | .sell => .ok (if limitPrice ≤ barHigh then ⟨true, max limitPrice barLow⟩
        else ⟨false, limitPrice⟩)

def evaluateStop (intent : OrderIntent) (barHigh barLow : Decimal) :
    Except Failure FillDecision :=
  match intent.orderSpec.stopPrice with
  | none => .error (.valueError "STOP order requires stop_price")
  | some stopPrice =>
    match intent.side with
    | .buy => .ok (if stopPrice ≤ barHigh then ⟨true, max stopPrice barLow⟩
        else ⟨false, stopPrice⟩)
    | .sell => .ok (if barLow ≤ stopPrice then ⟨true, min stopPrice barHigh⟩
        else ⟨false, stopPrice⟩)

def evaluateStopLimit (intent : OrderIntent) (barHigh barLow : Decimal) :
    Except Failure FillDecision :=
  match intent.orderSpec.stopPrice, intent.orderSpec.limitPrice with
  | some stopPrice, some limitPrice =>
    match intent.side with
    | .buy => .ok (if stopPrice ≤ barHigh ∧ barLow ≤ limitPrice then
        ⟨true, min limitPrice barHigh⟩ else ⟨false, limitPrice⟩)
    | .sell => .ok (if barLow ≤ stopPrice ∧ limitPrice ≤ barHigh then
        ⟨true, max limitPrice barLow⟩ else ⟨false, limitPrice⟩)
  | _, _ => .error (.valueError "STOP_LIMIT order requires stop_price and limit_price")

def evaluateFill (intent : OrderIntent) (marketPrice barHigh barLow : Decimal) :
    Except Failure FillDecision :=
  match intent.orderSpec.orderType with
  | .market | .bracket => .ok ⟨true, marketPrice⟩
  | .limit => evaluateLimit intent barHigh barLow
  | .stop => evaluateStop intent barHigh barLow
  | .stopLimit => evaluateStopLimit intent barHigh barLow
  | _ => .ok ⟨false, marketPrice⟩

def report (fields : ExecutionReportFields) : Except Failure ExecutionReport :=
  (ExecutionReport.create fields).mapError .valueError

def acceptedFields (brokerOrderId : String) (barTime : Option DateTime) :
    ExecutionReportFields where
  reportId := brokerOrderId ++ "-report-1"
  brokerOrderId := brokerOrderId
  status := .accepted
  fillTime := barTime

def filledFields (costModel : SimulatedExecutionCostModel) (intent : OrderIntent)
    (brokerOrderId : String) (basePrice : Decimal) (barTime : Option DateTime) :
    ExecutionReportFields :=
  let slippage := basePrice * costModel.slippageBps / 10000
  let fillPrice := if intent.side = .buy then basePrice + slippage else basePrice - slippage
  { reportId := brokerOrderId ++ "-report-1"
    brokerOrderId
    status := .filled
    filledQuantity := intent.quantity
    fillPrice := some fillPrice
    fillId := some (brokerOrderId ++ "-fill-1")
    commission := costModel.fixedCommissionPerContract * intent.quantity
    slippage := |fillPrice - basePrice|
    fillTime := barTime }

def rejectedFields (orderType : OrderType) (brokerOrderId : String)
    (barTime : Option DateTime) : ExecutionReportFields where
  reportId := brokerOrderId ++ "-reject-1"
  brokerOrderId := brokerOrderId
  status := .rejected
  fillTime := barTime
  reasonCode := some "UNSUPPORTED_ORDER_TYPE"
  failureReason := some ("simulated execution does not support " ++ orderType.text ++ " orders")

def executeMarketOrder (adapter : SimulatedExecutionAdapter) (intent : OrderIntent)
    (brokerOrderId : String) (marketPrice : Decimal) (barHigh barLow : Option Decimal)
    (barTime : Option DateTime) : Except Failure ExecutionReport := do
  if marketPrice < 0 then
    throw (.valueError "market_price must be non-negative")
  else if intent.orderSpec.orderType ∈ unsupportedSimOrderTypes then
    report (rejectedFields intent.orderSpec.orderType brokerOrderId barTime)
  else
    validateOrder adapter.capabilities intent
    let (high, low) ← resolveBarRange marketPrice barHigh barLow
    let decision ← evaluateFill intent marketPrice high low
    if !decision.triggered then
      report (acceptedFields brokerOrderId barTime)
    else
      report (filledFields adapter.costModel intent brokerOrderId decision.fillPrice barTime)

def cancelOrder (brokerOrderId : String) : Except Failure ExecutionReport :=
  report { reportId := brokerOrderId ++ "-cancel-1", brokerOrderId,
           status := .cancelled }

def replaceOrder (brokerOrderId : String) : Except Failure ExecutionReport :=
  report { reportId := brokerOrderId ++ "-replace-1", brokerOrderId,
           status := .accepted }

def answer (adapter : SimulatedExecutionAdapter) :
    ExecutionRequest → Except Failure ExecutionReport
  | .execute intent brokerOrderId marketPrice _ _ _ barTime =>
    adapter.executeMarketOrder intent brokerOrderId marketPrice none none barTime
  | .cancel _ brokerOrderId _ _ _ => cancelOrder brokerOrderId
  | .replace _ brokerOrderId _ _ _ _ => replaceOrder brokerOrderId

end SimulatedExecutionAdapter

def ExecutionRequest.brokerOrderId : ExecutionRequest → String
  | .execute _ brokerOrderId _ _ _ _ _ => brokerOrderId
  | .cancel _ brokerOrderId _ _ _ => brokerOrderId
  | .replace _ brokerOrderId _ _ _ _ => brokerOrderId

def ExecutionRequest.executes : ExecutionRequest → Bool
  | .execute .. => true
  | _ => false

namespace SimulatedExecutionAdapter

inductive AnswerIds (req : ExecutionRequest) (report : ExecutionReport) : Prop
  | executed (executes : req.executes = true)
      (reportId : report.reportId = req.brokerOrderId ++ "-report-1")
      (fillId : report.fillId = none ∨
        report.fillId = some (req.brokerOrderId ++ "-fill-1"))
  | other (suffix : String) (kind : suffix ∈ ["-reject-1", "-cancel-1", "-replace-1"])
      (reportId : report.reportId = req.brokerOrderId ++ suffix)
      (fillId : report.fillId = none)

variable {answered : ExecutionReport}

theorem report_fields {fields : ExecutionReportFields} (built : report fields = .ok answered) :
    answered.toExecutionReportFields = fields := by
  unfold report ExecutionReport.create at built
  split at built
  · obtain rfl := Except.ok.inj built
    rfl
  · cases built

theorem executeMarketOrder_ids {adapter : SimulatedExecutionAdapter} {intent : OrderIntent}
    {brokerOrderId : String} {marketPrice : Decimal} {barHigh barLow : Option Decimal}
    {barTime : Option DateTime}
    (executed : adapter.executeMarketOrder intent brokerOrderId marketPrice barHigh barLow barTime =
      .ok answered) :
    answered.reportId = brokerOrderId ++ "-report-1" ∧
        (answered.fillId = none ∨ answered.fillId = some (brokerOrderId ++ "-fill-1")) ∨
      answered.reportId = brokerOrderId ++ "-reject-1" ∧ answered.fillId = none := by
  unfold executeMarketOrder at executed
  split at executed
  · cases executed
  · split at executed
    · have fields := report_fields executed
      exact .inr ⟨congrArg (·.reportId) fields, congrArg (·.fillId) fields⟩
    · obtain ⟨_, _, executed⟩ := bind_inv executed
      obtain ⟨range, _, executed⟩ := bind_inv executed
      obtain ⟨decision, _, executed⟩ := bind_inv executed
      split at executed
      · have fields := report_fields executed
        exact .inl ⟨congrArg (·.reportId) fields, .inl (congrArg (·.fillId) fields)⟩
      · have fields := report_fields executed
        exact .inl ⟨congrArg (·.reportId) fields, .inr (congrArg (·.fillId) fields)⟩

theorem answer_ids {adapter : SimulatedExecutionAdapter} {req : ExecutionRequest}
    (replied : adapter.answer req = .ok answered) : AnswerIds req answered := by
  cases req with
  | execute intent brokerOrderId marketPrice accountId strategyId routeMetadata barTime =>
    rcases executeMarketOrder_ids replied with ⟨reportId, fillId⟩ | ⟨reportId, fillId⟩
    · exact .executed rfl reportId fillId
    · exact .other "-reject-1" (by decide) reportId fillId
  | cancel orderId brokerOrderId accountId strategyId routeMetadata =>
    have fields := report_fields replied
    exact .other "-cancel-1" (by decide) (congrArg (·.reportId) fields)
      (congrArg (·.fillId) fields)
  | replace orderId brokerOrderId newQuantity accountId strategyId routeMetadata =>
    have fields := report_fields replied
    exact .other "-replace-1" (by decide) (congrArg (·.reportId) fields)
      (congrArg (·.fillId) fields)

/-- Texts that end differently are different. -/
theorem append_ne_append {first second suffix other : String}
    (differ : suffix.toList.reverse[3]? ≠ other.toList.reverse[3]?)
    (long : 3 < suffix.toList.length) (longOther : 3 < other.toList.length) :
    first ++ suffix ≠ second ++ other := by
  intro same
  have lists := congrArg (fun text => text.toList.reverse[3]?) same
  simp only [String.toList_append, List.reverse_append] at lists
  rw [List.getElem?_append_left (by simpa using long),
    List.getElem?_append_left (by simpa using longOther)] at lists
  exact differ lists

theorem AnswerIds.apart {first second : ExecutionRequest} {earlier filled : ExecutionReport}
    (firstIds : AnswerIds first earlier) (secondIds : AnswerIds second filled)
    (fill : filled.fillId.isSome)
    (orders : first.executes = true → second.executes = true →
      first.brokerOrderId ≠ second.brokerOrderId) :
    earlier.reportId ≠ filled.reportId ∧ earlier.fillId ≠ filled.fillId := by
  cases secondIds with
  | other suffix kind reportId fillId =>
    rw [fillId] at fill
    cases fill
  | executed executes reportId fillId =>
    have filledId : filled.fillId = some (second.brokerOrderId ++ "-fill-1") := by
      rcases fillId with none | some
      · rw [none] at fill
        cases fill
      · exact some
    rw [reportId, filledId]
    cases firstIds with
    | executed firstExecutes firstReport firstFill =>
      have ne := orders firstExecutes executes
      rw [firstReport]
      refine ⟨fun same => ne ((String.append_left_inj _).mp same), ?_⟩
      rcases firstFill with none | some
      · rw [none]
        exact nofun
      · rw [some]
        exact fun same => ne ((String.append_left_inj _).mp (Option.some.inj same))
    | other suffix kind firstReport firstFill =>
      rw [firstReport, firstFill]
      refine ⟨?_, nofun⟩
      simp only [List.mem_cons, List.not_mem_nil, or_false] at kind
      rcases kind with rfl | rfl | rfl <;>
        exact append_ne_append (by decide) (by decide) (by decide)

end SimulatedExecutionAdapter

end Qts
