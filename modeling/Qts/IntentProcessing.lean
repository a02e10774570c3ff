import Qts.OrderManagerActor
import Qts.OrderNumbers
import Qts.OrderPlanning

/-! # Target intent processing -/

namespace Qts

open OrderNumbers OrderIntent

/-- The account, order manager and execution actors of one account, as the processor uses them.
A call that fails may still have changed the actors. -/
structure PartitionActors (World : Type) where
  accountSnapshot : EStateM Failure World AccountSnapshot
  fillCount : EStateM Failure World Nat
  /-- Tell the order manager and process the mailboxes. -/
  submitOrder : SubmitOrder → EStateM Failure World Unit
  fillsSince : Nat → EStateM Failure World (List OrderFill)
  order : OrderId → EStateM Failure World Order

structure ProcessedIntent where
  orders : List Order := []
  fills : List OrderFill := []
  riskDecisions : List RiskDecision := []

def ProcessedIntent.append (first second : ProcessedIntent) : ProcessedIntent where
  orders := first.orders ++ second.orders
  fills := first.fills ++ second.fills
  riskDecisions := first.riskDecisions ++ second.riskDecisions

structure TargetIntentProcessor where
  riskEngine : RiskEngine
  instrumentContext : RuntimeInstrumentContext
  multiplierFor : InstrumentId → Except Failure Decimal
  brokerId : BrokerId
  orderIdPrefix : String := "bt"
  brokerOrderIdPrefix : String := "sim"
  marginCalculator : Option MarginCalculator := none
  orderIdPrefixShown : PythonText.isBlank orderIdPrefix = false
  brokerOrderIdPrefixShown : PythonText.isBlank brokerOrderIdPrefix = false

/-- One call of the processor, less the actors and the order number. -/
structure IntentRequest where
  intent : TargetIntent
  bar : Bar
  accountId : Option AccountId
  strategyId : StrategyId
  correlationId : CorrelationId
  contributingStrategyIds : List StrategyId := []
  aggregationDecisionId : Option String := none
  conflictReason : Option String := none
  marketDataContext : Option MarketDataRiskContext := none

/-- What processing reads and writes: the actors, the intraday calculator where one is
configured, and the submissions told so far. -/
structure IntentProcessing (World : Type) where
  world : World
  intradayPnl : Option IntradayPnlCalculator := none
  submitted : List SubmitOrder := []

/-- A processing step: it reads and writes the actors and may raise. -/
abbrev ProcessingCall (World : Type) := EStateM Failure (IntentProcessing World)

def OrderIntent.create (fields : OrderIntentFields) : Except Failure OrderIntent :=
  match checked : Check.firstFailure fields.checks with
  | none => .ok ⟨fields, checked⟩
  | some msg => .error (.valueError msg)

theorem OrderIntent.create_fields {fields : OrderIntentFields} {intent : OrderIntent}
    (created : create fields = .ok intent) : intent.toOrderIntentFields = fields := by
  unfold create at created
  split at created
  · obtain rfl := Except.ok.inj created
    rfl
  · cases created

def orRaise {State Value : Type} (outcome : Except Failure Value) :
    EStateM Failure State Value := fun state =>
  match outcome with
  | .ok value => .ok value state
  | .error failure => .error failure state

def onActors {World Value : Type} (call : EStateM Failure World Value) :
    ProcessingCall World Value := fun state =>
  match call.run state.world with
  | .ok value world => .ok value { state with world }
  | .error failure world => .error failure { state with world }

section Calls

open RaisingCalls

variable {World State Value : Type}

@[simp]
theorem orRaise_ok (value : Value) (state : State) :
    (orRaise (.ok value) : EStateM Failure State Value).run state = .ok value state :=
  rfl

@[simp]
theorem orRaise_error (failure : Failure) (state : State) :
    (orRaise (.error failure) : EStateM Failure State Value).run state =
      .error failure state :=
  rfl

theorem orRaise_inv {outcome : Except Failure Value} {value : Value} {state after : State}
    (ran : (orRaise outcome).run state = .ok value after) : outcome = .ok value := by
  cases outcome with
  | ok returned =>
    rw [orRaise_ok] at ran
    cases ran
    rfl
  | error failure => cases ran

theorem keeps_orRaise (inv : State → Prop) (outcome : Except Failure Value) :
    Keeps inv (orRaise outcome) := by
  intro state holds
  cases outcome with
  | ok value => exact holds
  | error failure => exact holds

variable {call : EStateM Failure World Value}

theorem onActors_ok {state : IntentProcessing World} {value : Value} {world : World}
    (ran : call.run state.world = .ok value world) :
    (onActors call).run state = .ok value { state with world } := by
  simp only [onActors, EStateM.run] at ran ⊢
  rw [ran]

theorem onActors_error {state : IntentProcessing World} {failure : Failure} {world : World}
    (ran : call.run state.world = .error failure world) :
    (onActors call).run state = .error failure { state with world } := by
  simp only [onActors, EStateM.run] at ran ⊢
  rw [ran]

theorem onActors_cases (call : EStateM Failure World Value) (state : IntentProcessing World)
    : (∃ value world, (onActors call).run state = .ok value { state with world }) ∨
      ∃ failure world,
        (onActors call).run state = .error failure { state with world } := by
  cases ran : call.run state.world with
  | ok value world => exact .inl ⟨value, world, onActors_ok ran⟩
  | error failure world => exact .inr ⟨failure, world, onActors_error ran⟩

theorem onActors_inv {value : Value} {state after : IntentProcessing World}
    (ran : (onActors call).run state = .ok value after) :
    ∃ world, call.run state.world = .ok value world := by
  simp only [onActors, EStateM.run] at ran ⊢
  split at ran
  · next returned world called =>
    cases ran
    exact ⟨world, called⟩
  · cases ran

theorem keeps_onActors (log : List SubmitOrder) (call : EStateM Failure World Value) :
    Keeps (fun state => state.submitted = log) (onActors call) := by
  intro state holds
  rcases onActors_cases call state with ⟨value, world, ran⟩ | ⟨failure, world, ran⟩
  · rw [ran]
    exact holds
  · rw [ran]
    exact holds

end Calls

namespace TargetIntentProcessor

variable (proc : TargetIntentProcessor)

def markPositions (intent : TargetIntent) (bar : Bar) :
    List InstrumentId → DecimalMap → Except Failure DecimalMap
  | [], marks => .ok marks
  | instrumentId :: positions, marks =>
    if (marks.get? instrumentId).isSome then
      markPositions intent bar positions marks
    else
      match proc.instrumentContext.marketPriceForIntent intent instrumentId bar with
      | .ok price => markPositions intent bar positions (marks.set instrumentId price)
      | .error failure =>
        if failure.isKeyError || failure.isValueError then
          markPositions intent bar positions marks
        else
          .error failure

def buildMarkMap (intent : TargetIntent) (bar : Bar)
    (positions : Dict InstrumentId Holding) : Except Failure DecimalMap := do
  let target ← proc.instrumentContext.orderInstrumentForIntent intent bar
  let price ← proc.instrumentContext.marketPriceForIntent intent target bar
  proc.markPositions intent bar positions.keys (Dict.empty.set target price)

def multipliersOf : List InstrumentId → DecimalMap → Except Failure DecimalMap
  | [], multipliers => .ok multipliers
  | instrumentId :: instruments, multipliers => do
    let multiplier ← proc.multiplierFor instrumentId
    multipliersOf instruments (multipliers.set instrumentId multiplier)

def projectedInitialMargin (currentPosition signedQuantityDelta marketPrice multiplier : Decimal) :
    Option Decimal :=
  proc.marginCalculator.map fun calculator =>
    let newPosition := currentPosition + signedQuantityDelta
    let increasingQuantity := max (|newPosition| - |currentPosition|) 0
    if increasingQuantity = 0 then 0
    else calculator.orderInitialMargin (increasingQuantity * marketPrice * multiplier)

def riskRequest (req : IntentRequest) (riskState : RiskStateSnapshot) (plan : OrderPlan) :
    Except Failure OrderRiskRequest := do
  let multiplier ← proc.multiplierFor plan.instrumentId
  let described ← OrderRiskRequest.create {
    instrumentId := plan.instrumentId
    quantity := |plan.quantityDelta|
    price := plan.marketPrice
    multiplier
    orderSpec := plan.orderSpec
    orderTime := plan.orderTime
    contributingStrategyIds := req.contributingStrategyIds
    aggregationDecisionId := plan.aggregationDecisionId
    conflictReason := req.conflictReason
    marketData := req.marketDataContext }
  let currentPosition := riskState.currentPosition plan.instrumentId
  let marginMultiplier ← proc.multiplierFor plan.instrumentId
  OrderRiskRequest.create { described.toOrderRiskRequestFields with
    accountEquity := some riskState.accountEquity
    currentExposure := riskState.currentExposure
    intradayPnl := some riskState.intradayPnl
    currentNotionalByInstrument := some riskState.currentNotionalByInstrument
    currentPosition
    signedQuantityDelta := some plan.quantityDelta
    currentMarginRequirement := some riskState.currentMarginRequirement
    availableMargin := some riskState.availableMargin
    projectedInitialMargin := proc.projectedInitialMargin currentPosition
      plan.quantityDelta plan.marketPrice marginMultiplier }

def riskDecision (req : IntentRequest) (riskState : RiskStateSnapshot) (plan : OrderPlan) :
    Except Failure RiskDecision := do
  let riskRequest ← proc.riskRequest req riskState plan
  return { proc.riskEngine.check riskRequest with
    contributingStrategyIds := req.contributingStrategyIds
    aggregationDecisionId := plan.aggregationDecisionId
    conflictReason := req.conflictReason }

def orderId (orderNumber : Nat) : OrderId where
  value := numbered proc.orderIdPrefix orderNumber
  notEmpty := numbered_visible proc.orderIdPrefixShown orderNumber

def brokerOrderId (orderNumber : Nat) : String :=
  numbered proc.brokerOrderIdPrefix orderNumber

def routeFields (req : IntentRequest) (plan : OrderPlan) (orderNumber : Nat) :
    OrderRouteMetadataFields where
  brokerId := proc.brokerId
  accountId := plan.accountId
  strategyId := req.strategyId
  clientOrderId := numbered (proc.orderIdPrefix ++ "-client") orderNumber
  correlationId := req.correlationId
  contributingStrategyIds := req.contributingStrategyIds
  aggregationDecisionId := plan.aggregationDecisionId

def submission (req : IntentRequest) (plan : OrderPlan) (decision : RiskDecision)
    (orderNumber : Nat) : Except Failure SubmitOrder := do
  let orderIntent ← create {
    orderId := proc.orderId orderNumber
    instrumentId := plan.instrumentId
    side := if 0 < plan.quantityDelta then .buy else .sell
    quantity := |plan.quantityDelta|
    accountId := some plan.accountId
    orderSpec := plan.orderSpec
    intentId := plan.intentId }
  match checked : Check.firstFailure (proc.routeFields req plan orderNumber).checks with
  | some msg => throw (.valueError msg)
  | none =>
    return {
      intent := orderIntent
      riskDecision := decision
      brokerOrderId := proc.brokerOrderId orderNumber
      marketPrice := plan.marketPrice
      accountId := plan.accountId
      strategyId := req.strategyId
      routeMetadata := ⟨proc.routeFields req plan orderNumber, checked⟩
      barTime := plan.orderTime
      sameAccount := rfl
      sameStrategy := rfl }

variable {World : Type} (actors : PartitionActors World)

/-- Tell a submission and let the actors process it. -/
def submit (msg : SubmitOrder) : ProcessingCall World Unit := do
  modify fun state => { state with submitted := state.submitted ++ [msg] }
  onActors (actors.submitOrder msg)

def processOrderDelta (req : IntentRequest) (riskState : RiskStateSnapshot)
    (plan : OrderPlan) (orderNumber : Nat) : ProcessingCall World ProcessedIntent := do
  if plan.quantityDelta = 0 then
    return {}
  else
    let decision ← orRaise (proc.riskDecision req riskState plan)
    if !decision.approved then
      return { riskDecisions := [decision] }
    else
      let beforeFillCount ← onActors actors.fillCount
      let msg ← orRaise (proc.submission req plan decision orderNumber)
      submit actors msg
      let fills ← onActors (actors.fillsSince beforeFillCount)
      let order ← onActors (actors.order (proc.orderId orderNumber))
      return { orders := [order], fills, riskDecisions := [decision] }

def processPlans (req : IntentRequest) (riskState : RiskStateSnapshot) :
    List OrderPlan → Nat → ProcessingCall World ProcessedIntent
  | [], _ => return {}
  | plan :: plans, orderNumber => do
    let processed ← proc.processOrderDelta actors req riskState plan orderNumber
    let rest ← processPlans req riskState plans (orderNumber + 1)
    return processed.append rest

def intradayPnl (req : IntentRequest) (snapshot : AccountSnapshot)
    (marks multipliers : DecimalMap) : ProcessingCall World Decimal := do
  match (← get).intradayPnl with
  | none => return 0
  | some calculator =>
    let (pnl, current) :=
      calculator.compute req.bar.sessionId snapshot.holdings marks multipliers
    modify fun state => { state with intradayPnl := some current }
    return pnl

def riskState (req : IntentRequest) (snapshot : AccountSnapshot) :
    ProcessingCall World RiskStateSnapshot := do
  let marks ← orRaise (proc.buildMarkMap req.intent req.bar snapshot.holdings)
  let multipliers ← orRaise (proc.multipliersOf snapshot.holdings.keys .empty)
  let pnl ← intradayPnl req snapshot marks multipliers
  return .fromAccount snapshot marks multipliers pnl proc.marginCalculator

def orderPlans (req : IntentRequest) (accountId : AccountId) (snapshot : AccountSnapshot)
    (riskState : RiskStateSnapshot) : Except Failure (List OrderPlan) := do
  let target ← proc.instrumentContext.orderInstrumentForIntent req.intent req.bar
  let multiplier ← proc.multiplierFor target
  OrderPlanBuilder.build proc.instrumentContext req.intent accountId req.bar
    req.aggregationDecisionId snapshot.holdings (some riskState.accountEquity) multiplier

def preparePlans (req : IntentRequest) :
    ProcessingCall World (RiskStateSnapshot × List OrderPlan) := do
  match req.accountId with
  | none => throw (.valueError "account_id is required")
  | some accountId =>
    let snapshot ← onActors actors.accountSnapshot
    let riskState ← proc.riskState req snapshot
    let plans ← orRaise (proc.orderPlans req accountId snapshot riskState)
    return (riskState, plans)

/-- Process a single target intent; an account id is required for routing. -/
def processIntent (req : IntentRequest) (orderNumber : Nat) :
    ProcessingCall World ProcessedIntent := do
  let (riskState, plans) ← proc.preparePlans actors req
  proc.processPlans actors req riskState plans orderNumber

end TargetIntentProcessor

end Qts
