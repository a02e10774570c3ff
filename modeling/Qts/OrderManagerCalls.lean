import Qts.OrderManager

/-! # Calls on the order manager -/

namespace Qts

open Dict
open EStateM (run_bind run_get run_modify run_pure)

inductive OrderManagerCommand
  | createOrder (intent : OrderIntent) (riskDecision : RiskDecision)
  | markSent (orderId : OrderId) (brokerOrderId : String)
  | requestCancel (intent : CancelIntent)
  | requestReplace (intent : ReplaceIntent) (riskDecision : RiskDecision)
  | processReport (report : ExecutionReport)
  | discardTerminalOrder (orderId : OrderId)

/-- What an operation returns or raises. -/
inductive OrderManagerAnswer
  | order (order : Order)
  | processed (result : OrderProcessingResult)
  | discarded
  | raised (error : OrderError)
deriving DecidableEq

namespace OrderManager

open RaisingCalls

def step : StepRuns.Step OrderManager OrderManagerCommand OrderManagerAnswer :=
  fun manager command =>
    match command with
    | .createOrder intent riskDecision =>
        answer .order .raised ((createOrder intent riskDecision).run manager)
    | .markSent orderId brokerOrderId =>
        answer .order .raised ((markSent orderId brokerOrderId).run manager)
    | .requestCancel intent => answer .order .raised ((requestCancel intent).run manager)
    | .requestReplace intent riskDecision =>
        answer .order .raised ((requestReplace intent riskDecision).run manager)
    | .processReport report => answer .processed .raised ((processReport report).run manager)
    | .discardTerminalOrder orderId =>
        answer (fun _ => .discarded) .raised ((discardTerminalOrder orderId).run manager)

abbrev Reachable (manager : OrderManager) : Prop :=
  StepRuns.Reachable step init manager

variable {manager : OrderManager} {orderId : OrderId} {order : Order}

theorem getOrder_tracked (tracked : manager.orders.get? orderId = some order) :
    (getOrder orderId).run manager = .ok order manager := by
  simp only [getOrder, run_bind, run_get, tracked, run_pure]

theorem getOrder_untracked (untracked : manager.orders.get? orderId = none) :
    (getOrder orderId).run manager = .error (.keyError orderId) manager := by
  simp only [getOrder, run_bind, run_get, untracked, throw_run]

theorem applyEvent_untracked (untracked : manager.machines.get? orderId = none) (event : OrderEvent)
    : (applyEvent orderId event).run manager = .error (.keyError orderId) manager := by
  simp only [applyEvent, run_bind, run_get, untracked, throw_run]

variable {event : OrderEvent}

theorem applyEvent_refused {machine : OrderStateMachine}
    (tracked : manager.machines.get? orderId = some machine)
    (refused : nextState machine.state event = none) :
    (applyEvent orderId event).run manager =
      .error (invalidTransition machine.state event) manager := by
  simp only [applyEvent, run_bind, run_get, tracked, OrderStateMachine.apply, refused, throw_run]

theorem applyEvent_accepted {machine : OrderStateMachine} {state : OrderState}
    (tracked : manager.machines.get? orderId = some machine)
    (accepted : nextState machine.state event = some state) :
    (applyEvent orderId event).run manager =
      .ok state { manager with machines := manager.machines.set orderId ⟨state⟩ } := by
  simp only [applyEvent, run_bind, run_get, tracked, OrderStateMachine.apply,
    accepted, run_modify, run_pure]

theorem replaceOrder_tracked {current : Order}
    (tracked : manager.orders.get? orderId = some current) (state : OrderState)
    (brokerOrderId : Option String) :
    (replaceOrder orderId state brokerOrderId).run manager =
      .ok (advancedOrder current state brokerOrderId)
        { manager with
          orders := manager.orders.set orderId (advancedOrder current state brokerOrderId) } := by
  rw [replaceOrder, bind_run_ok (getOrder_tracked tracked)]
  rfl

def moved (manager : OrderManager) (orderId : OrderId) (order : Order) : OrderManager :=
  { manager with
    machines := manager.machines.set orderId ⟨order.state⟩
    orders := manager.orders.set orderId order }

def withReport (manager : OrderManager) (orderId : OrderId) (reportId : String) : OrderManager :=
  { manager with
    seenReportIds := insert reportId manager.seenReportIds
    reportIdsByOrder := addOwnedId manager.reportIdsByOrder orderId reportId }

def withFill (manager : OrderManager) (orderId : OrderId) (fillId : String) : OrderManager :=
  { manager with
    fillIds := .ofSeen (insert fillId manager.fillIds.seen)
    fillIdsByOrder := addOwnedId manager.fillIdsByOrder orderId fillId }

def createdOrder (intent : OrderIntent) : Order where
  orderId := intent.orderId
  intent := intent
  state := .created

theorem createOrder_approved {riskDecision : RiskDecision}
    (approved : riskDecision.approved = true) (intent : OrderIntent) (manager : OrderManager) :
    (createOrder intent riskDecision).run manager =
      .ok (createdOrder intent) (manager.moved intent.orderId (createdOrder intent)) := by
  simp only [createOrder, approved]
  rfl

theorem createOrder_refused {riskDecision : RiskDecision}
    (refused : riskDecision.approved = false) (intent : OrderIntent) (manager : OrderManager) :
    (createOrder intent riskDecision).run manager =
      .error (.riskRejectedOrder "risk decision is not approved") manager := by
  simp only [createOrder, refused]
  rfl

/-- Every order has a machine in its own state, sits under its own id, and the
per-order id sets are never empty. -/
structure WellFormed (manager : OrderManager) : Prop where
  machine : ∀ orderId, manager.machines.get? orderId =
    (manager.orders.get? orderId).map fun order => ⟨order.state⟩
  key : ∀ orderId order, manager.orders.get? orderId = some order → order.orderId = orderId
  fillIdsOwned : ∀ orderId ids, manager.fillIdsByOrder.get? orderId = some ids → ids ≠ ∅
  reportIdsOwned : ∀ orderId ids, manager.reportIdsByOrder.get? orderId = some ids → ids ≠ ∅

theorem init_wellFormed : init.WellFormed where
  machine _ := rfl
  key _ _ tracked := by simp [init] at tracked
  fillIdsOwned _ _ owned := by simp [init] at owned
  reportIdsOwned _ _ owned := by simp [init] at owned

theorem WellFormed.machine_tracked (formed : manager.WellFormed)
    (tracked : manager.orders.get? orderId = some order) :
    manager.machines.get? orderId = some ⟨order.state⟩ := by
  rw [formed.machine, tracked]
  rfl

theorem WellFormed.machine_untracked (formed : manager.WellFormed)
    (untracked : manager.orders.get? orderId = none) : manager.machines.get? orderId = none := by
  rw [formed.machine, untracked]
  rfl

theorem addOwnedId_nonempty {owned : Dict OrderId (Finset String)}
    (nonempty : ∀ orderId ids, owned.get? orderId = some ids → ids ≠ ∅) (target : OrderId)
    (id : String) (orderId : OrderId) (ids : Finset String)
    (found : (addOwnedId owned target id).get? orderId = some ids) : ids ≠ ∅ := by
  rw [addOwnedId, get?_set] at found
  split at found
  · cases found
    exact Finset.insert_ne_empty _ _
  · exact nonempty orderId ids found

theorem WellFormed.moved (formed : manager.WellFormed) (key : order.orderId = orderId) :
    (manager.moved orderId order).WellFormed where
  machine other := by
    simp only [OrderManager.moved, get?_set]
    split
    · rfl
    · exact formed.machine other
  key other found tracked := by
    simp only [OrderManager.moved, get?_set] at tracked
    split at tracked
    · next same =>
      cases tracked
      exact key.trans same.symm
    · exact formed.key other found tracked
  fillIdsOwned := formed.fillIdsOwned
  reportIdsOwned := formed.reportIdsOwned

theorem WellFormed.withReport (formed : manager.WellFormed) (orderId : OrderId)
    (reportId : String) : (manager.withReport orderId reportId).WellFormed where
  machine := formed.machine
  key := formed.key
  fillIdsOwned := formed.fillIdsOwned
  reportIdsOwned := addOwnedId_nonempty formed.reportIdsOwned orderId reportId

theorem WellFormed.withFill (formed : manager.WellFormed) (orderId : OrderId) (fillId : String)
    : (manager.withFill orderId fillId).WellFormed where
  machine := formed.machine
  key := formed.key
  fillIdsOwned := addOwnedId_nonempty formed.fillIdsOwned orderId fillId
  reportIdsOwned := formed.reportIdsOwned

def advance (orderId : OrderId) (event : OrderEvent) (brokerOrderId : Option String := none) :
    ManagerCall Order := do
  let state ← applyEvent orderId event
  replaceOrder orderId state brokerOrderId

theorem advance_untracked (formed : manager.WellFormed)
    (untracked : manager.orders.get? orderId = none) (event : OrderEvent)
    (brokerOrderId : Option String) :
    (advance orderId event brokerOrderId).run manager = .error (.keyError orderId) manager := by
  rw [advance, bind_run_error (applyEvent_untracked (formed.machine_untracked untracked) event)]

theorem advance_refused (formed : manager.WellFormed)
    (tracked : manager.orders.get? orderId = some order)
    (refused : nextState order.state event = none) (brokerOrderId : Option String) :
    (advance orderId event brokerOrderId).run manager =
      .error (invalidTransition order.state event) manager := by
  rw [advance, bind_run_error (applyEvent_refused (formed.machine_tracked tracked) refused)]

theorem advance_accepted (formed : manager.WellFormed)
    (tracked : manager.orders.get? orderId = some order) {state : OrderState}
    (accepted : nextState order.state event = some state) (brokerOrderId : Option String) :
    (advance orderId event brokerOrderId).run manager =
      .ok (advancedOrder order state brokerOrderId)
        (manager.moved orderId (advancedOrder order state brokerOrderId)) := by
  rw [advance, bind_run_ok (applyEvent_accepted (formed.machine_tracked tracked) accepted)]
  have stored : ({ manager with
      machines := manager.machines.set orderId ⟨state⟩ } : OrderManager).orders.get? orderId =
        some order := tracked
  exact replaceOrder_tracked stored state brokerOrderId

inductive AdvanceOutcome (manager : OrderManager) (orderId : OrderId) (event : OrderEvent)
    (brokerOrderId : Option String) : EStateM.Result OrderError OrderManager Order → Prop
  | untracked (missing : manager.orders.get? orderId = none) :
      AdvanceOutcome manager orderId event brokerOrderId (.error (.keyError orderId) manager)
  | refused (order : Order) (tracked : manager.orders.get? orderId = some order)
      (refusal : nextState order.state event = none) :
      AdvanceOutcome manager orderId event brokerOrderId
        (.error (invalidTransition order.state event) manager)
  | accepted (order : Order) (state : OrderState)
      (tracked : manager.orders.get? orderId = some order)
      (next : nextState order.state event = some state) :
      AdvanceOutcome manager orderId event brokerOrderId
        (.ok (advancedOrder order state brokerOrderId)
          (manager.moved orderId (advancedOrder order state brokerOrderId)))

theorem advance_outcome (formed : manager.WellFormed) (orderId : OrderId) (event : OrderEvent)
    (brokerOrderId : Option String) :
    AdvanceOutcome manager orderId event brokerOrderId
      ((advance orderId event brokerOrderId).run manager) := by
  cases tracked : manager.orders.get? orderId with
  | none =>
    rw [advance_untracked formed tracked]
    exact .untracked tracked
  | some order =>
    cases next : nextState order.state event with
    | none =>
      rw [advance_refused formed tracked next]
      exact .refused order tracked next
    | some state =>
      rw [advance_accepted formed tracked next]
      exact .accepted order state tracked next

theorem WellFormed.advanced (formed : manager.WellFormed)
    (tracked : manager.orders.get? orderId = some order) (state : OrderState)
    (brokerOrderId : Option String) :
    (manager.moved orderId (advancedOrder order state brokerOrderId)).WellFormed :=
  formed.moved (formed.key orderId order tracked)

end OrderManager

end Qts
