import Qts.RiskEngine

/-!
# Order manager

Orders, broker mappings, report ids and fill ids are kept in dictionaries and sets, as the source
does.  A method may raise halfway; what it has written by then stays.
-/

namespace Qts

/-- Order lifecycle transition inputs. -/
inductive OrderEvent
  | sent
  | accepted
  | partiallyFilled
  | filled
  | cancelRequested
  | replaceRequested
  | cancelled
  | rejected
deriving DecidableEq

def OrderEvent.value : OrderEvent → String
  | sent => "sent"
  | accepted => "accepted"
  | partiallyFilled => "partially_filled"
  | filled => "filled"
  | cancelRequested => "cancel_requested"
  | replaceRequested => "replace_requested"
  | cancelled => "cancelled"
  | rejected => "rejected"

def transitions : OrderState → OrderEvent → Option OrderState
  | .created, .sent => some .sent
  | .created, .rejected => some .rejected
  | .sent, .accepted => some .accepted
  | .sent, .partiallyFilled => some .partiallyFilled
  | .sent, .filled => some .filled
  | .sent, .rejected => some .rejected
  | .sent, .cancelRequested => some .cancelRequested
  | .sent, .replaceRequested => some .replaceRequested
  | .accepted, .partiallyFilled => some .partiallyFilled
  | .accepted, .filled => some .filled
  | .accepted, .cancelRequested => some .cancelRequested
  | .accepted, .cancelled => some .cancelled
  | .accepted, .rejected => some .rejected
  | .accepted, .replaceRequested => some .replaceRequested
  | .partiallyFilled, .partiallyFilled => some .partiallyFilled
  | .partiallyFilled, .filled => some .filled
  | .partiallyFilled, .cancelRequested => some .cancelRequested
  | .partiallyFilled, .cancelled => some .cancelled
  | .partiallyFilled, .replaceRequested => some .replaceRequested
  | .cancelRequested, .cancelled => some .cancelled
  | .cancelRequested, .filled => some .filled
  | .cancelRequested, .partiallyFilled => some .partiallyFilled
  | .replaceRequested, .accepted => some .accepted
  | .replaceRequested, .partiallyFilled => some .partiallyFilled
  | .replaceRequested, .filled => some .filled
  | .replaceRequested, .rejected => some .rejected
  | .cancelled, .partiallyFilled => some .partiallyFilled
  | .cancelled, .filled => some .filled
  | _, _ => none

def duplicateTerminalEvents : OrderState → Option OrderEvent
  | .filled => some .filled
  | .cancelled => some .cancelled
  | .rejected => some .rejected
  | _ => none

def nextState (state : OrderState) (event : OrderEvent) : Option OrderState :=
  if duplicateTerminalEvents state = some event then some state else transitions state event

def terminalOrderStates : List OrderState :=
  [.filled, .cancelled, .rejected]

/-- Failures that the order manager raises. -/
inductive OrderError
  | riskRejectedOrder (msg : String)
  | orderLifecycleError (msg : String)
  | orderTransitionError (msg : String)
  | unknownBrokerOrder (msg : String) (brokerOrderId : String)
  | missingFillPrice (msg : String)
  | valueError (msg : String)
  | keyError (orderId : OrderId)
deriving DecidableEq

def invalidTransition (state : OrderState) (event : OrderEvent) : OrderError :=
  .orderTransitionError ("invalid order transition: " ++ state.value ++ " -> " ++ event.value)

structure OrderStateMachine where
  state : OrderState := .created

def OrderStateMachine.apply (machine : OrderStateMachine) (event : OrderEvent) :
    Except OrderError OrderState :=
  match nextState machine.state event with
  | some state => .ok state
  | none => .error (invalidTransition machine.state event)

theorem nextState_rejected {event : OrderEvent} {state : OrderState}
    (next : nextState .rejected event = some state) : state = .rejected := by
  cases event <;> simp_all [nextState, duplicateTerminalEvents, transitions]

structure OrderManager where
  orders : Dict OrderId Order
  machines : Dict OrderId OrderStateMachine
  brokerToOrder : Dict String OrderId
  fillIds : FillIdempotencyStore
  fillIdsByOrder : Dict OrderId (Finset String)
  seenReportIds : Finset String
  reportIdsByOrder : Dict OrderId (Finset String)

/-- A method call: it reads and writes the manager and may raise. -/
abbrev ManagerCall := EStateM OrderError OrderManager

namespace OrderManager

def init : OrderManager where
  orders := .empty
  machines := .empty
  brokerToOrder := .empty
  fillIds := .empty
  fillIdsByOrder := .empty
  seenReportIds := ∅
  reportIdsByOrder := .empty

def addOwnedId (owned : Dict OrderId (Finset String)) (orderId : OrderId) (id : String) :
    Dict OrderId (Finset String) :=
  owned.set orderId (insert id ((owned.get? orderId).getD ∅))

def getOrder (orderId : OrderId) : ManagerCall Order := do
  match (← get).orders.get? orderId with
  | some order => return order
  | none => throw (.keyError orderId)

def applyEvent (orderId : OrderId) (event : OrderEvent) : ManagerCall OrderState := do
  match (← get).machines.get? orderId with
  | none => throw (.keyError orderId)
  | some machine =>
    match machine.apply event with
    | .error failure => throw failure
    | .ok state =>
      modify fun manager => { manager with machines := manager.machines.set orderId ⟨state⟩ }
      return state

def advancedOrder (current : Order) (state : OrderState) (brokerOrderId : Option String) :
    Order where
  orderId := current.orderId
  intent := current.intent
  state := state
  brokerOrderId := brokerOrderId <|> current.brokerOrderId

def replaceOrder (orderId : OrderId) (state : OrderState) (brokerOrderId : Option String := none) :
    ManagerCall Order := do
  let current ← getOrder orderId
  let order := advancedOrder current state brokerOrderId
  modify fun manager => { manager with orders := manager.orders.set orderId order }
  return order

def createOrder (intent : OrderIntent) (riskDecision : RiskDecision) : ManagerCall Order := do
  if !riskDecision.approved then
    throw (.riskRejectedOrder "risk decision is not approved")
  let machine : OrderStateMachine := {}
  let order : Order := { orderId := intent.orderId, intent, state := machine.state }
  modify fun manager => { manager with
    orders := manager.orders.set order.orderId order
    machines := manager.machines.set order.orderId machine }
  return order

def markSent (orderId : OrderId) (brokerOrderId : String) : ManagerCall Order := do
  if PythonText.isBlank brokerOrderId then
    throw (.orderLifecycleError "broker_order_id must not be empty")
  let state ← applyEvent orderId .sent
  let order ← replaceOrder orderId state (some brokerOrderId)
  modify fun manager => { manager with
    brokerToOrder := manager.brokerToOrder.set brokerOrderId orderId }
  return order

def requestCancel (intent : CancelIntent) : ManagerCall Order := do
  let state ← applyEvent intent.orderId .cancelRequested
  replaceOrder intent.orderId state

def replacedIntent (current : OrderIntent) (intent : ReplaceIntent) : OrderIntent where
  orderId := current.orderId
  instrumentId := current.instrumentId
  side := current.side
  quantity := intent.newQuantity
  accountId := current.accountId
  orderSpec := current.orderSpec
  valid := by
    rw [Check.firstFailure_none]
    simp [OrderIntentFields.checks, intentIdCheck, intent.pos]

def requestReplace (intent : ReplaceIntent) (riskDecision : RiskDecision) :
    ManagerCall Order := do
  if !riskDecision.approved then
    throw (.riskRejectedOrder "risk decision is not approved")
  let state ← applyEvent intent.orderId .replaceRequested
  let current ← getOrder intent.orderId
  let order : Order := {
    orderId := current.orderId
    intent := replacedIntent current.intent intent
    state
    brokerOrderId := current.brokerOrderId }
  modify fun manager => { manager with orders := manager.orders.set intent.orderId order }
  return order

def eventForReport : ExecutionReportStatus → OrderEvent
  | .accepted => .accepted
  | .partiallyFilled => .partiallyFilled
  | .filled => .filled
  | .cancelled => .cancelled
  | .rejected => .rejected

def orderFill (order : Order) (report : ExecutionReport) (fillId : String) (price : Decimal) :
    OrderFill where
  fillId := fillId
  orderId := order.orderId
  instrumentId := order.intent.instrumentId
  side := order.intent.side
  quantity := report.filledQuantity
  price := price
  commission := report.commission
  slippage := report.slippage
  accountId := order.intent.accountId
  intentId := order.intent.intentId
  valid := order.intent.intentId_check

def fillsForReport (order : Order) (report : ExecutionReport) : ManagerCall (List OrderFill) := do
  match report.fillId with
  | none => return []
  | some fillId =>
    if report.filledQuantity ≤ 0 then
      return []
    match report.fillPrice with
    | none => throw (.missingFillPrice "fill_price is required when filled_quantity is positive")
    | some price =>
      match (← get).fillIds.markSeen fillId with
      | .error msg => throw (.valueError msg)
      | .ok (false, _) => return []
      | .ok (true, store) =>
        modify fun manager => { manager with
          fillIds := store
          fillIdsByOrder := addOwnedId manager.fillIdsByOrder order.orderId fillId }
        return [orderFill order report fillId price]

def processReport (report : ExecutionReport) : ManagerCall OrderProcessingResult := do
  match (← get).brokerToOrder.get? report.brokerOrderId with
  | none =>
    throw (.unknownBrokerOrder "no tracked order for broker order id" report.brokerOrderId)
  | some orderId =>
    if report.reportId ∈ (← get).seenReportIds then
      return { order := ← getOrder orderId }
    let state ← applyEvent orderId (eventForReport report.status)
    let order ← replaceOrder orderId state
    modify fun manager => { manager with
      seenReportIds := insert report.reportId manager.seenReportIds
      reportIdsByOrder := addOwnedId manager.reportIdsByOrder orderId report.reportId }
    let fills ← fillsForReport order report
    return { order, fills }

def discardTerminalOrder (orderId : OrderId) : ManagerCall Unit := do
  let order ← getOrder orderId
  if order.state ∉ terminalOrderStates then
    throw (.orderLifecycleError ("only terminal orders can be discarded: " ++ order.state.value))
  modify fun manager => { manager with
    orders := manager.orders.erase orderId
    machines := manager.machines.erase orderId
    brokerToOrder := match order.brokerOrderId with
      | some brokerOrderId => manager.brokerToOrder.erase brokerOrderId
      | none => manager.brokerToOrder
    fillIds := manager.fillIds.discardAll ((manager.fillIdsByOrder.get? orderId).getD ∅)
    fillIdsByOrder := manager.fillIdsByOrder.erase orderId
    seenReportIds := manager.seenReportIds \ (manager.reportIdsByOrder.get? orderId).getD ∅
    reportIdsByOrder := manager.reportIdsByOrder.erase orderId }

/-- Serialize a per-order id map deterministically for the snapshot. -/
def idsByOrderPayload (idsByOrder : Dict OrderId (Finset String)) :
    List (OrderId × List String) :=
  let sorted := idsByOrder.items.mergeSort fun first second =>
    decide (first.1.value ≤ second.1.value)
  (sorted.filter fun item => item.2 ≠ ∅).map fun item => (item.1, item.2.sort (· ≤ ·))

def idsByOrderFromPayload (payload : List (OrderId × List String)) :
    Dict OrderId (Finset String) :=
  .ofItems (payload.map fun item => (item.1, item.2.toFinset))

/-- The recoverable state; listing the fill ids also fills the listing's cache. -/
def snapshot (manager : OrderManager) : OrderStateSnapshot × OrderManager :=
  let (seenFillIds, fillIds) := manager.fillIds.snapshot
  ({ orders := manager.orders.values
     brokerToOrder := manager.brokerToOrder.items
     seenFillIds
     seenReportIds := manager.seenReportIds.sort (· ≤ ·)
     fillIdsByOrder := idsByOrderPayload manager.fillIdsByOrder
     reportIdsByOrder := idsByOrderPayload manager.reportIdsByOrder },
   { manager with fillIds })

def restore (snapshot : OrderStateSnapshot) : OrderManager where
  orders := .ofItems (snapshot.orders.map fun order => (order.orderId, order))
  machines := .ofItems (snapshot.orders.map fun order => (order.orderId, ⟨order.state⟩))
  brokerToOrder := .ofItems snapshot.brokerToOrder
  fillIds := .restore snapshot.seenFillIds
  fillIdsByOrder := idsByOrderFromPayload snapshot.fillIdsByOrder
  seenReportIds := snapshot.seenReportIds.toFinset
  reportIdsByOrder := idsByOrderFromPayload snapshot.reportIdsByOrder

end OrderManager

end Qts
