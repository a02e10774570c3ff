import Qts.OrderManagerInvariant

/-!
# Order manager actor

The actor that owns an order manager. It sends orders, cancels and replaces to the execution
actor and the fills of execution reports to the account actor; a reference to another actor
is the list of the messages told so far.
-/

namespace Qts

structure OrderRouteMetadataFields where
  brokerId : BrokerId
  accountId : AccountId
  strategyId : StrategyId
  clientOrderId : String
  correlationId : CorrelationId
  contributingStrategyIds : List StrategyId := []
  aggregationDecisionId : Option String := none
deriving DecidableEq

def OrderRouteMetadataFields.checks (metadata : OrderRouteMetadataFields) : List Check :=
  [⟨PythonText.isBlank metadata.clientOrderId, "client_order_id must not be empty"⟩,
   ⟨metadata.aggregationDecisionId.any PythonText.isBlank,
      "aggregation_decision_id must not be empty"⟩]

structure OrderRouteMetadata extends OrderRouteMetadataFields where
  valid : Check.firstFailure toOrderRouteMetadataFields.checks = none
deriving DecidableEq

/-- Message to submit an approved order to an execution actor. -/
structure SubmitOrder where
  intent : OrderIntent
  riskDecision : RiskDecision
  brokerOrderId : String
  marketPrice : Decimal
  accountId : AccountId
  strategyId : StrategyId
  routeMetadata : OrderRouteMetadata
  barTime : Option DateTime := none
  sameAccount : routeMetadata.accountId = accountId
  sameStrategy : routeMetadata.strategyId = strategyId

/-- Message to cancel an active order through the execution actor. -/
structure CancelOrder where
  intent : CancelIntent
  accountId : AccountId
  strategyId : StrategyId
  routeMetadata : OrderRouteMetadata
  sameAccount : routeMetadata.accountId = accountId
  sameStrategy : routeMetadata.strategyId = strategyId

/-- The message that cancels along a recorded route. -/
def OrderRouteMetadata.cancel (metadata : OrderRouteMetadata) (intent : CancelIntent) :
    CancelOrder where
  intent := intent
  accountId := metadata.accountId
  strategyId := metadata.strategyId
  routeMetadata := metadata
  sameAccount := rfl
  sameStrategy := rfl

/-- Message to replace an active order through the execution actor. -/
structure ReplaceOrder where
  intent : ReplaceIntent
  riskDecision : RiskDecision
  accountId : AccountId
  strategyId : StrategyId
  routeMetadata : OrderRouteMetadata
  sameAccount : routeMetadata.accountId = accountId
  sameStrategy : routeMetadata.strategyId = strategyId

/-- What the execution actor is told. -/
inductive ExecutionRequest
  | execute (intent : OrderIntent) (brokerOrderId : String) (marketPrice : Decimal)
      (accountId : AccountId) (strategyId : StrategyId) (routeMetadata : OrderRouteMetadata)
      (barTime : Option DateTime)
  | cancel (orderId : OrderId) (brokerOrderId : String) (accountId : AccountId)
      (strategyId : StrategyId) (routeMetadata : OrderRouteMetadata)
  | replace (orderId : OrderId) (brokerOrderId : String) (newQuantity : Decimal)
      (accountId : AccountId) (strategyId : StrategyId) (routeMetadata : OrderRouteMetadata)

inductive OrderManagerMessage
  | submit (msg : SubmitOrder)
  | cancel (msg : CancelOrder)
  | replace (msg : ReplaceOrder)
  | report (report : ExecutionReport)
  | compactForStreaming (orderIds : List OrderId)

def OrderManagerMessage.compacts : OrderManagerMessage → Bool
  | .compactForStreaming _ => true
  | _ => false

inductive OrderManagerActorError
  | order (error : OrderError)
  | valueError (msg : String)
  | runtimeError (msg : String)
  | unsupportedOrderReplace (msg : String)

structure OrderManagerActor where
  accountId : Option AccountId := none
  manager : OrderManager := .init
  multiplierByInstrument : Dict InstrumentId Decimal := .empty
  currency : String := "USD"
  supportsReplace : Bool := false
  quarantinedReports : List ExecutionReport := []
  fills : List OrderFill := []
  routeMetadata : Dict OrderId OrderRouteMetadata := .empty
  executionRef : List ExecutionRequest := []
  accountRef : List ApplyFill := []

/-- A handler: it reads and writes the actor and may raise. -/
abbrev ActorCall := EStateM OrderManagerActorError OrderManagerActor

namespace OrderManagerActor

open RaisingCalls

def foreignTo (owner : Option AccountId) (accountId : Option AccountId) : Bool :=
  owner.any fun own => decide (accountId ≠ some own)

def onManager {Value : Type} (call : ManagerCall Value) : ActorCall Value := fun actor =>
  match call.run actor.manager with
  | .ok value manager => .ok value { actor with manager }
  | .error failure manager => .error (.order failure) { actor with manager }

def tellExecution (req : ExecutionRequest) : ActorCall Unit :=
  modify fun actor => { actor with executionRef := actor.executionRef ++ [req] }

def routeOf (orderId : OrderId) : ActorCall OrderRouteMetadata := do
  match (← get).routeMetadata.get? orderId with
  | some metadata => return metadata
  | none => throw (.order (.keyError orderId))

def handleSubmit (msg : SubmitOrder) : ActorCall Unit := do
  if msg.intent.accountId ≠ some msg.accountId then
    throw (.valueError "order account_id does not match SubmitOrder account_id")
  else if foreignTo (← get).accountId msg.intent.accountId then
    throw (.valueError "order account_id does not match OrderManagerActor account_id")
  else
    let order ← onManager (OrderManager.createOrder msg.intent msg.riskDecision)
    modify fun actor => { actor with
      routeMetadata := actor.routeMetadata.set msg.intent.orderId msg.routeMetadata }
    let _ ← onManager (OrderManager.markSent order.orderId msg.brokerOrderId)
    tellExecution (.execute msg.intent msg.brokerOrderId msg.marketPrice
      msg.accountId msg.strategyId msg.routeMetadata msg.barTime)

def checkRoute (orderId : OrderId) (accountId : AccountId) (routeMetadata : OrderRouteMetadata)
    (verb : String) : ActorCall Order := do
  let current ← onManager (OrderManager.getOrder orderId)
  let metadata ← routeOf orderId
  if current.intent.accountId ≠ some accountId then
    throw (.valueError (verb ++ " account_id does not match order account_id"))
  else if metadata ≠ routeMetadata then
    throw (.valueError (verb ++ " route metadata does not match submitted order"))
  else if foreignTo (← get).accountId (some accountId) then
    throw (.valueError (verb ++ " account_id does not match OrderManagerActor account_id"))
  else
    return current

def handleCancel (msg : CancelOrder) : ActorCall Unit := do
  let current ← checkRoute msg.intent.orderId msg.accountId msg.routeMetadata "cancel"
  match current.brokerOrderId with
  | none => throw (.runtimeError "order must have broker_order_id before cancellation")
  | some brokerOrderId =>
    let order ← onManager (OrderManager.requestCancel msg.intent)
    tellExecution (.cancel order.orderId (order.brokerOrderId.getD brokerOrderId)
      msg.accountId msg.strategyId msg.routeMetadata)

def handleReplace (msg : ReplaceOrder) : ActorCall Unit := do
  let current ← checkRoute msg.intent.orderId msg.accountId msg.routeMetadata "replace"
  if !(← get).supportsReplace then
    throw (.unsupportedOrderReplace "broker does not support order replacement")
  else
    match current.brokerOrderId with
    | none => throw (.runtimeError "order must have broker_order_id before replacement")
    | some brokerOrderId =>
      let order ← onManager (OrderManager.requestReplace msg.intent msg.riskDecision)
      tellExecution (.replace order.orderId (order.brokerOrderId.getD brokerOrderId)
        msg.intent.newQuantity msg.accountId msg.strategyId msg.routeMetadata)

/-- Set a report aside; nothing is routed downstream. -/
def quarantine (report : ExecutionReport) (actor : OrderManagerActor) : OrderManagerActor :=
  { actor with quarantinedReports := actor.quarantinedReports ++ [report] }

def handleResult (report : ExecutionReport) (actor : OrderManagerActor) :
    EStateM.Result OrderError OrderManager OrderProcessingResult →
      EStateM.Result OrderManagerActorError OrderManagerActor (List OrderFill)
  | .ok result manager =>
    if result.fills.any fun fill => foreignTo actor.accountId fill.accountId then
      .ok [] (quarantine report { actor with manager })
    else
      .ok result.fills { actor with manager }
  | .error (.keyError _) manager => .ok [] (quarantine report { actor with manager })
  | .error (.unknownBrokerOrder _ _) manager =>
    .ok [] (quarantine report { actor with manager })
  | .error failure manager => .error (.order failure) { actor with manager }

def reportFills (report : ExecutionReport) : ActorCall (List OrderFill) := fun actor =>
  handleResult report actor ((OrderManager.processReport report).run actor.manager)

def applyFillMessage (actor : OrderManagerActor) (report : ExecutionReport) (fill : OrderFill) :
    ApplyFill where
  fill := fill
  currency := actor.currency
  multiplier := (actor.multiplierByInstrument.get? fill.instrumentId).getD 1
  fillTime := report.fillTime

def handleReport (report : ExecutionReport) : ActorCall Unit := do
  let fills ← reportFills report
  modify fun actor => { actor with
    accountRef := actor.accountRef ++ fills.map (applyFillMessage actor report)
    fills := actor.fills ++ fills }

def compactForStreaming (orderIds : List OrderId) : ActorCall Unit := do
  for orderId in orderIds do
    onManager (OrderManager.discardTerminalOrder orderId)
  modify fun actor => { actor with fills := [] }

def handle : OrderManagerMessage → ActorCall Unit
  | .submit msg => handleSubmit msg
  | .cancel msg => handleCancel msg
  | .replace msg => handleReplace msg
  | .report report => handleReport report
  | .compactForStreaming orderIds => compactForStreaming orderIds

def step : StepRuns.Step OrderManagerActor OrderManagerMessage
    (Except OrderManagerActorError Unit) :=
  fun actor msg => answer .ok .error ((handle msg).run actor)

end OrderManagerActor

end Qts

namespace Qts.OrderManagerActor

open RaisingCalls

structure Stable (inv : OrderManagerActor → Prop) : Prop where
  withExecution : ∀ actor requests, inv actor →
    inv { actor with executionRef := requests }
  withRoutes : ∀ actor routes, inv actor → inv { actor with routeMetadata := routes }
  getOrder : ∀ orderId, Keeps inv (onManager (OrderManager.getOrder orderId))
  markSent : ∀ orderId brokerOrderId,
    Keeps inv (onManager (OrderManager.markSent orderId brokerOrderId))
  requestCancel : ∀ intent, Keeps inv (onManager (OrderManager.requestCancel intent))
  requestReplace : ∀ intent riskDecision,
    Keeps inv (onManager (OrderManager.requestReplace intent riskDecision))

theorem keeps_onManager {kept : OrderManager → Prop} {inv : OrderManagerActor → Prop}
    (manager : ∀ actor, inv actor → kept actor.manager)
    (actor : ∀ actor after, inv actor → kept after →
      inv { actor with manager := after }) {Value : Type} {call : ManagerCall Value}
    (keeps : Keeps kept call) : Keeps inv (onManager call) := by
  intro state holds
  have after := keeps state.manager (manager state holds)
  simp only [onManager, EStateM.run] at after ⊢
  cases ran : call state.manager with
  | ok value next =>
    rw [ran] at after
    exact actor state next holds after
  | error failure next =>
    rw [ran] at after
    exact actor state next holds after

namespace Stable

variable {inv : OrderManagerActor → Prop}

theorem tellExecution (stable : Stable inv) (req : ExecutionRequest) :
    Keeps inv (OrderManagerActor.tellExecution req) :=
  Keeps.modify fun actor holds => stable.withExecution actor _ holds

theorem routeOf (orderId : OrderId) : Keeps inv (OrderManagerActor.routeOf orderId) := by
  refine Keeps.get ?_
  intro actor _
  cases actor.routeMetadata.get? orderId with
  | none => exact Keeps.throw _
  | some metadata => exact Keeps.pure metadata

theorem handleSubmit (stable : Stable inv) (msg : SubmitOrder)
    (creates : ∀ actor, inv actor →
      foreignTo actor.accountId msg.intent.accountId = false →
        Keeps inv
          (onManager (OrderManager.createOrder msg.intent msg.riskDecision))) :
    Keeps inv (OrderManagerActor.handleSubmit msg) := by
  refine Keeps.ite (fun _ => Keeps.throw _) fun _ => ?_
  refine Keeps.get ?_
  intro actor holds
  refine Keeps.ite (fun _ => Keeps.throw _) fun own => ?_
  refine Keeps.bind (creates actor holds (Bool.not_eq_true _ ▸ own)) fun order => ?_
  refine Keeps.bind (Keeps.modify fun current kept => stable.withRoutes current _ kept)
    fun _ => ?_
  refine Keeps.bind (stable.markSent order.orderId msg.brokerOrderId) fun _ => ?_
  exact stable.tellExecution _

theorem checkRoute (stable : Stable inv) (orderId : OrderId) (accountId : AccountId)
    (routeMetadata : OrderRouteMetadata) (verb : String) :
    Keeps inv (OrderManagerActor.checkRoute orderId accountId routeMetadata verb) := by
  refine Keeps.bind (stable.getOrder orderId) fun current => ?_
  refine Keeps.bind (routeOf orderId) fun metadata => ?_
  refine Keeps.ite (fun _ => Keeps.throw _) fun _ => ?_
  refine Keeps.ite (fun _ => Keeps.throw _) fun _ => ?_
  refine Keeps.get ?_
  intro actor _
  exact Keeps.ite (fun _ => Keeps.throw _) fun _ => Keeps.pure current

theorem handleCancel (stable : Stable inv) (msg : CancelOrder) :
    Keeps inv (OrderManagerActor.handleCancel msg) := by
  refine Keeps.bind (stable.checkRoute _ _ _ _) fun current => ?_
  cases current.brokerOrderId with
  | none => exact Keeps.throw _
  | some brokerOrderId =>
    exact Keeps.bind (stable.requestCancel msg.intent) fun order => stable.tellExecution _

theorem handleReplace (stable : Stable inv) (msg : ReplaceOrder) :
    Keeps inv (OrderManagerActor.handleReplace msg) := by
  refine Keeps.bind (stable.checkRoute _ _ _ _) fun current => ?_
  refine Keeps.get ?_
  intro actor _
  refine Keeps.ite (fun _ => Keeps.throw _) fun _ => ?_
  cases current.brokerOrderId with
  | none => exact Keeps.throw _
  | some brokerOrderId =>
    exact Keeps.bind (stable.requestReplace msg.intent msg.riskDecision)
      fun order => stable.tellExecution _

end Stable

end Qts.OrderManagerActor
