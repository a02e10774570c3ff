import Qts.CancelRequests
import Qts.MailboxDrains
import Qts.ReportAccounting

/-! # Acknowledgements of simulated replaces -/

namespace Qts

open PythonText Dict StepRuns SimulatedExecutionAdapter List
open EStateM (run_bind run_get run_modify run_pure)

namespace AccountPartition

open OrderManager OrderManagerActor RaisingCalls

def tellReplaces (adapter : SimulatedExecutionAdapter) (messages : List ReplaceOrder) :
    PartitionCall Unit := do
  modify fun partition => { partition with
    orderManagerMailbox := partition.orderManagerMailbox ++ messages.map .replace }
  orderManagerProcessAll
  executionProcessAll adapter.answer
  orderManagerProcessAll

def replaceStep (adapter : SimulatedExecutionAdapter) :
    Step AccountPartition (List ReplaceOrder) (Except Failure Unit) :=
  fun partition messages => answer .ok .error ((tellReplaces adapter messages).run partition)

structure Replaces (target : CancelTarget) (message : ReplaceOrder) : Prop where
  orderId : message.intent.orderId = target.1.orderId
  route : message.routeMetadata = target.2
  approved : message.riskDecision.approved = true

/-- The order rests at the broker: it is accepted, its broker order id leads back to it, and the
two mailboxes are drained. -/
structure Resting (partition : AccountPartition) (target : CancelTarget) (brokerOrderId : String) :
    Prop where
  formed : partition.orderManager.manager.WellFormed
  of : target.Of partition.orderManager
  accepted : target.1.state = .accepted
  sent : target.1.brokerOrderId = some brokerOrderId
  mapped : partition.orderManager.manager.brokerToOrder.get? brokerOrderId = some target.1.orderId
  orderManagerMailbox : partition.orderManagerMailbox = []
  executed : partition.executed = partition.orderManager.executionRef.length

structure Acknowledged (manager : OrderManager) (orderId : OrderId) (quantity : Decimal) :
    Prop where
  accepted : ∃ order, manager.orders.get? orderId = some order ∧ order.state = .accepted ∧
    order.intent.quantity = quantity
  cancellable : ∃ machine, manager.machines.get? orderId = some machine ∧
    machine.apply .cancelRequested = .ok .cancelRequested

def lastQuantity (quantity : Decimal) (messages : List ReplaceOrder) : Decimal :=
  (messages.getLast?.map fun message => message.intent.newQuantity).getD quantity

/-- Every drain of a run returns, and after each one the order is acknowledged with the quantity
requested last. -/
def AllAcknowledged (adapter : SimulatedExecutionAdapter) (partition : AccountPartition)
    (orderId : OrderId) (quantity : Decimal) (batches : List (List ReplaceOrder)) : Prop :=
  ∀ drained, drained <+: batches →
    (∀ response ∈ responses (replaceStep adapter) partition drained, response = .ok ()) ∧
    Acknowledged (final (replaceStep adapter) partition drained).orderManager.manager
      orderId (lastQuantity quantity drained.flatten)

/-- The replaces of a run are none, or one that the order manager routes and whose
acknowledgement it has not seen. -/
def AtMostOneReplace (actor : OrderManagerActor) (brokerOrderId : String)
    (messages : List ReplaceOrder) : Prop :=
  messages = [] ∨ messages.length = 1 ∧ actor.supportsReplace = true ∧
    brokerOrderId ++ "-replace-1" ∉ actor.manager.seenReportIds

variable {partition : AccountPartition} {actor : OrderManagerActor} {target : CancelTarget}
  {message : ReplaceOrder} {brokerOrderId : String}

theorem nextState_replaceRequested {state : OrderState} :
    nextState state .replaceRequested =
      if state ∈ cancellableStates then some .replaceRequested else none := by
  cases state <;> rfl

def replaceRequest (target : CancelTarget) (brokerOrderId : String) (message : ReplaceOrder) :
    ExecutionRequest :=
  .replace target.1.orderId brokerOrderId message.intent.newQuantity message.accountId
    message.strategyId message.routeMetadata

def replaceRequested (actor : OrderManagerActor) (target : CancelTarget) (brokerOrderId : String)
    (message : ReplaceOrder) : OrderManagerActor :=
  { actor with
    manager := actor.manager.moved target.1.orderId
      (replacedOrder target.1 message.intent .replaceRequested)
    executionRef := actor.executionRef ++ [replaceRequest target brokerOrderId message] }

theorem requestReplace_accepted {manager : OrderManager} (formed : manager.WellFormed)
    (tracked : manager.orders.get? target.1.orderId = some target.1)
    (replaces : Replaces target message) (cancellable : target.1.state ∈ cancellableStates) :
    (requestReplace message.intent message.riskDecision).run manager =
      .ok (replacedOrder target.1 message.intent .replaceRequested)
        (manager.moved target.1.orderId
          (replacedOrder target.1 message.intent .replaceRequested)) := by
  have machine := formed.machine_tracked tracked
  have next := nextState_replaceRequested.trans (if_pos cancellable)
  rw [← replaces.orderId] at tracked machine ⊢
  have stored : ({ manager with
      machines := manager.machines.set message.intent.orderId ⟨.replaceRequested⟩ } :
        OrderManager).orders.get? message.intent.orderId = some target.1 := tracked
  simp only [requestReplace, replaces.approved, Bool.not_true, Bool.false_eq_true, if_false]
  rw [bind_run_ok (applyEvent_accepted machine next), bind_run_ok (getOrder_tracked stored)]
  rfl

theorem requestReplace_refused {manager : OrderManager} (formed : manager.WellFormed)
    (tracked : manager.orders.get? target.1.orderId = some target.1)
    (replaces : Replaces target message) (refused : target.1.state ∉ cancellableStates) :
    (requestReplace message.intent message.riskDecision).run manager =
      .error (invalidTransition target.1.state .replaceRequested) manager := by
  have machine := formed.machine_tracked tracked
  have next := nextState_replaceRequested.trans (if_neg refused)
  rw [← replaces.orderId] at machine
  simp only [requestReplace, replaces.approved, Bool.not_true, Bool.false_eq_true, if_false]
  rw [bind_run_error (applyEvent_refused machine next)]

theorem handleReplace_ends (formed : actor.manager.WellFormed) (of : target.Of actor)
    (sent : target.1.brokerOrderId = some brokerOrderId) (replaces : Replaces target message) :
    Ends (fun _ after => (actor.supportsReplace = true ∧ target.1.state ∈ cancellableStates) ∧
        after = replaceRequested actor target brokerOrderId message)
      (fun _ _ => ¬ (actor.supportsReplace = true ∧ target.1.state ∈ cancellableStates))
      (handle (.replace message)) actor := by
  change Ends _ _ (handleReplace message) actor
  have account : message.accountId = target.2.accountId := by
    rw [← message.sameAccount, replaces.route]
  rw [handleReplace, replaces.orderId, account, replaces.route]
  have checked : Ends (fun current after => current = target.1 ∧ after = actor)
      (fun _ _ => ¬ (actor.supportsReplace = true ∧ target.1.state ∈ cancellableStates))
      (checkRoute target.1.orderId target.2.accountId target.2 "replace") actor :=
    .of_ok (checkRoute_ok of "replace") ⟨rfl, rfl⟩
  refine checked.bind ?_
  rintro current between ⟨rfl, rfl⟩
  refine Ends.get ?_
  cases supports : between.supportsReplace with
  | false => exact Ends.throw fun both => Bool.false_ne_true both.1
  | true =>
    simp only [Bool.not_true, Bool.false_eq_true, if_false, sent]
    by_cases cancellable : target.1.state ∈ cancellableStates
    · refine .of_ok (bind_run_ok (onManager_ok
        (requestReplace_accepted formed of.tracked replaces cancellable)))
        ⟨⟨trivial, cancellable⟩, ?_⟩
      simp only [replaceRequested, replaceRequest, replacedOrder, sent, Option.getD_some, account,
        replaces.route]
    · exact .of_error (bind_run_error (onManager_error
        (requestReplace_refused formed of.tracked replaces cancellable)))
        fun both => cancellable both.2

theorem successor_of {after : OrderManagerActor} {next : Order} (of : target.Of actor)
    (sent : target.1.brokerOrderId = some brokerOrderId)
    (accountId : after.accountId = actor.accountId)
    (routes : after.routeMetadata = actor.routeMetadata)
    (tracked : after.manager.orders.get? target.1.orderId = some next)
    (sameId : next.orderId = target.1.orderId)
    (sameAccount : next.intent.accountId = target.1.intent.accountId)
    (sentAgain : next.brokerOrderId = some brokerOrderId)
    (live : next.state ∉ terminalOrderStates) : CancelTarget.Of after (next, target.2) where
  tracked := by
    rw [sameId]
    exact tracked
  route := by
    rw [sameId, routes]
    exact of.route
  onRoute := by
    have onRoute := of.onRoute
    rw [← accountId] at onRoute
    exact ⟨sameAccount.trans onRoute.1, onRoute.2⟩
  dispatched := by
    have dispatched := of.dispatched
    unfold Dispatched at dispatched ⊢
    rw [sent] at dispatched
    rw [sentAgain]
    exact dispatched
  live := live

theorem handleReplace_again (formed : actor.manager.WellFormed) (of : target.Of actor)
    (sent : target.1.brokerOrderId = some brokerOrderId) {second : ReplaceOrder}
    (replaces : Replaces target second) :
    Ends (fun _ _ => False) (fun _ _ => True) (handle (.replace second))
      (replaceRequested actor target brokerOrderId message) := by
  have requested : CancelTarget.Of (replaceRequested actor target brokerOrderId message)
      (replacedOrder target.1 message.intent .replaceRequested, target.2) :=
    successor_of of sent rfl rfl (get?_set_self _ _ _) rfl rfl sent
      (show OrderState.replaceRequested ∉ terminalOrderStates by decide)
  have wellFormedToo : (replaceRequested actor target brokerOrderId message).manager.WellFormed :=
    formed.moved rfl
  have refused := handleReplace_ends wellFormedToo requested sent
    ⟨replaces.orderId, replaces.route, replaces.approved⟩
  refine Ends.mono_failed (refused.mono ?_) fun _ _ _ => trivial
  rintro _ _ ⟨⟨-, cancellable⟩, -⟩
  exact absurd cancellable (show OrderState.replaceRequested ∉ cancellableStates by decide)

def acknowledgement (brokerOrderId : String) (visible : isBlank brokerOrderId = false) :
    ExecutionReport where
  reportId := brokerOrderId ++ "-replace-1"
  brokerOrderId := brokerOrderId
  status := .accepted
  valid := ExecutionReportFields.valid_of_not_rejected
    (isBlank_append_of_left visible "-replace-1") visible le_rfl le_rfl le_rfl nofun

theorem replaceOrder_acknowledges (visible : isBlank brokerOrderId = false) :
    replaceOrder brokerOrderId =
      .ok (acknowledgement brokerOrderId visible) := by
  have built := ExecutionReport.create_ok (acknowledgement brokerOrderId visible).valid
  exact congrArg (Except.mapError Failure.valueError) built

def accepting (actor : OrderManagerActor) (order : Order) (report : ExecutionReport) :
    OrderManagerActor :=
  { actor with
    manager := if report.reportId ∈ actor.manager.seenReportIds then actor.manager
      else actor.manager.afterReport order.orderId (advancedOrder order .accepted none) report }

theorem handleReport_accepts {order : Order} {report : ExecutionReport}
    (formed : actor.manager.WellFormed)
    (mapped : actor.manager.brokerToOrder.get? report.brokerOrderId = some order.orderId)
    (tracked : actor.manager.orders.get? order.orderId = some order)
    (waits : order.state = .replaceRequested) (accepted : report.status = .accepted)
    (unfilled : carriesFill report = false) :
    Ends (fun _ after => after = accepting actor order report) (fun _ _ => False)
      (handle (.report report)) actor := by
  change Ends _ _ (reportFills report >>= _) actor
  have fills : Ends (fun fills after => fills = [] ∧ after = accepting actor order report)
      (fun _ _ => False) (reportFills report) actor := by
    have ran : (reportFills report).run actor =
        handleResult report actor ((processReport report).run actor.manager) := rfl
    unfold Ends
    rw [ran]
    have outcome := processReport_outcome formed report
    generalize (processReport report).run actor.manager = result at outcome ⊢
    cases outcome with
    | unknownBrokerOrder unmapped => cases unmapped.symm.trans mapped
    | untracked orderId found missing =>
      obtain rfl := Option.mem_unique mapped found
      cases missing.symm.trans tracked
    | duplicate orderId other found trackedOther seen =>
      refine ⟨rfl, ?_⟩
      rw [accepting, if_pos seen]
    | refused orderId other found trackedOther unseen refusal =>
      obtain rfl := Option.mem_unique mapped found
      obtain rfl := Option.mem_unique tracked trackedOther
      rw [waits, accepted] at refusal
      cases refusal
    | raisedFill orderId other state found trackedOther unseen next failure fill =>
      cases fill.carries_of_error.symm.trans unfilled
    | processed orderId other state found trackedOther unseen next fills after fill =>
      obtain rfl := Option.mem_unique mapped found
      obtain rfl := Option.mem_unique tracked trackedOther
      obtain ⟨rfl, rfl⟩ := fill.nothing unfilled
      rw [waits, accepted] at next
      obtain rfl := Option.some.inj next
      refine ⟨rfl, ?_⟩
      rw [accepting, if_neg unseen]
  refine fills.bind ?_
  rintro fills between ⟨rfl, rfl⟩
  refine Ends.modify ?_
  simp only [map_nil, append_nil]

variable {adapter : SimulatedExecutionAdapter}

def replacedTarget (target : CancelTarget) (message : ReplaceOrder) : CancelTarget :=
  (advancedOrder (replacedOrder target.1 message.intent .replaceRequested) .accepted none, target.2)

section

variable (resting : Resting partition target brokerOrderId)

include resting

theorem Resting.visible : isBlank brokerOrderId = false := by
  have dispatched := resting.of.dispatched
  unfold Dispatched at dispatched
  rw [resting.sent] at dispatched
  exact dispatched

/-- Telling replaces to a drained mailbox. -/
theorem Resting.told (messages : List OrderManagerMessage) :
    ({ partition with orderManagerMailbox := partition.orderManagerMailbox ++ messages } :
      AccountPartition) = partition.withOrderManager partition.orderManager messages := by
  rw [resting.orderManagerMailbox]
  rfl

theorem tellReplaces_none : (tellReplaces adapter []).run partition = .ok () partition := by
  have orders : orderManagerProcessAll.run partition = .ok () partition := by
    simp only [orderManagerProcessAll, run_bind, run_get,
      resting.orderManagerMailbox, processOrders, run_pure]
  have executions : (executionProcessAll adapter.answer).run partition = .ok () partition := by
    simp only [executionProcessAll, run_bind, run_get, resting.executed,
      drop_length, processExecutions, run_pure]
  have told : ({ partition with
      orderManagerMailbox := partition.orderManagerMailbox ++ [] } : AccountPartition) =
        partition := by
    rw [append_nil]
  rw [tellReplaces, run_bind, run_modify]
  simp only [map_nil]
  rw [told, bind_run_ok orders, bind_run_ok executions, orders]

end

def replacedBy (partition : AccountPartition) (target : CancelTarget) (brokerOrderId : String)
    (message : ReplaceOrder) (report : ExecutionReport) : AccountPartition :=
  { partition with
    orderManager := accepting (replaceRequested partition.orderManager target brokerOrderId message)
      (replacedOrder target.1 message.intent .replaceRequested) report
    orderManagerMailbox := []
    executed := partition.executed + 1 }

variable (resting : Resting partition target brokerOrderId)

theorem tellReplaces_one (replaces : Replaces target message) :
    Ends (fun _ after => partition.orderManager.supportsReplace = true ∧
        after = replacedBy partition target brokerOrderId message
          (acknowledgement brokerOrderId resting.visible))
      (fun _ _ => ¬ partition.orderManager.supportsReplace = true)
      (tellReplaces adapter [message]) partition := by
  have cancellable : target.1.state ∈ cancellableStates := by
    rw [resting.accepted]
    decide
  unfold tellReplaces
  refine ends_modify_bind ?_
  rw [resting.told]
  have requested : Ends (fun _ after => partition.orderManager.supportsReplace = true ∧
        after = partition.withOrderManager
          (replaceRequested partition.orderManager target brokerOrderId message) [])
      (fun _ _ => ¬ partition.orderManager.supportsReplace = true) orderManagerProcessAll
      (partition.withOrderManager partition.orderManager ([message].map .replace)) := by
    refine Ends.get ?_
    change Ends _ _ (processOrders [.replace message]) _
    rw [processOrders]
    refine ends_modify_bind ?_
    have handled := handleOrder_ends partition []
      (handleReplace_ends resting.formed resting.of resting.sent replaces)
    refine Ends.bind (handled.mono_failed fun _ _ refused supports =>
      refused ⟨supports, cancellable⟩) ?_
    rintro _ _ ⟨_, ⟨⟨supports, -⟩, rfl⟩, rfl⟩
    exact Ends.pure ⟨supports, rfl⟩
  refine requested.bind ?_
  rintro _ _ ⟨supports, rfl⟩
  have answered : adapter.answer (replaceRequest target brokerOrderId message) =
      .ok (acknowledgement brokerOrderId resting.visible) :=
    replaceOrder_acknowledges resting.visible
  have waiting : (partition.orderManager.executionRef ++
      [replaceRequest target brokerOrderId message]).drop partition.executed =
        [replaceRequest target brokerOrderId message] := by
    rw [resting.executed, drop_left]
  have executed : (executionProcessAll adapter.answer).run (partition.withOrderManager
      (replaceRequested partition.orderManager target brokerOrderId message) []) =
        .ok () ((partition.withOrderManager
          (replaceRequested partition.orderManager target brokerOrderId message) []).executedWith 1
            [acknowledgement brokerOrderId resting.visible]) := by
    rw [executionProcessAll, run_bind, run_get]
    change (processExecutions adapter.answer ((partition.orderManager.executionRef ++
      [replaceRequest target brokerOrderId message]).drop partition.executed)).run _ = _
    rw [waiting, processExecutions, bind_run_ok (handleExecution_ok answered)]
    rfl
  unfold Ends
  rw [bind_run_ok executed]
  have requestedWellFormed : (replaceRequested partition.orderManager target brokerOrderId
      message).manager.WellFormed := resting.formed.moved rfl
  have tracked : (replaceRequested partition.orderManager target brokerOrderId
      message).manager.orders.get? target.1.orderId =
        some (replacedOrder target.1 message.intent .replaceRequested) :=
    get?_set_self _ _ _
  have accepted : Ends (fun _ after => after = accepting
        (replaceRequested partition.orderManager target brokerOrderId message)
        (replacedOrder target.1 message.intent .replaceRequested)
        (acknowledgement brokerOrderId resting.visible)) (fun _ _ => False)
      (handle (.report (acknowledgement brokerOrderId resting.visible)))
      (replaceRequested partition.orderManager target brokerOrderId message) :=
    handleReport_accepts requestedWellFormed resting.mapped tracked rfl rfl rfl
  change Ends _ _ (processOrders [.report (acknowledgement brokerOrderId resting.visible)]) _
  rw [processOrders]
  refine ends_modify_bind ?_
  have handled := handleOrder_ends { partition with executed := partition.executed + 1 } [] accepted
  refine Ends.bind (handled.mono_failed fun _ _ => False.elim) ?_
  rintro _ _ ⟨_, rfl, rfl⟩
  exact Ends.pure ⟨supports, rfl⟩

theorem tellReplaces_several (resting : Resting partition target brokerOrderId)
    {second : ReplaceOrder} {others : List ReplaceOrder} (replaces : Replaces target message)
    (replacesToo : Replaces target second) :
    Ends (fun _ _ => False) (fun _ _ => True)
      (tellReplaces adapter (message :: second :: others)) partition := by
  unfold tellReplaces
  refine ends_modify_bind ?_
  rw [resting.told]
  have raises : Ends (fun _ _ => False) (fun _ _ => True) orderManagerProcessAll
      (partition.withOrderManager partition.orderManager
        ((message :: second :: others).map .replace)) := by
    refine Ends.get ?_
    change Ends _ _ (processOrders (.replace message :: .replace second :: others.map .replace)) _
    rw [processOrders]
    refine ends_modify_bind ?_
    have first := handleOrder_ends partition (.replace second :: others.map .replace)
      (handleReplace_ends resting.formed resting.of resting.sent replaces)
    refine Ends.bind (first.mono_failed fun _ _ _ => trivial) ?_
    rintro _ _ ⟨_, ⟨-, rfl⟩, rfl⟩
    rw [processOrders]
    refine ends_modify_bind ?_
    have again : Ends (fun _ _ => False) (fun _ _ => True) (handle (.replace second))
        (replaceRequested partition.orderManager target brokerOrderId message) :=
      handleReplace_again resting.formed resting.of resting.sent replacesToo
    refine (handleOrder_ends partition (others.map .replace) again).bind ?_
    rintro _ _ ⟨_, never, _⟩
    exact never.elim
  exact raises.bind fun _ _ => False.elim

theorem Resting.acknowledged (resting : Resting partition target brokerOrderId) :
    Acknowledged partition.orderManager.manager target.1.orderId target.1.intent.quantity where
  accepted := ⟨target.1, resting.of.tracked, resting.accepted, rfl⟩
  cancellable := by
    refine ⟨_, resting.formed.machine_tracked resting.of.tracked, ?_⟩
    rw [resting.accepted]
    rfl

theorem lastQuantity_append (quantity : Decimal) (first second : List ReplaceOrder) :
    lastQuantity quantity (first ++ second) =
        lastQuantity (lastQuantity quantity first) second := by
  unfold lastQuantity
  rw [getLast?_append]
  cases second.getLast? <;> rfl

theorem allAcknowledged_cons {orderId : OrderId} {quantity : Decimal}
    {batch : List ReplaceOrder} {batches : List (List ReplaceOrder)} :
    AllAcknowledged adapter partition orderId quantity (batch :: batches) ↔
      Acknowledged partition.orderManager.manager orderId quantity ∧
        (replaceStep adapter partition batch).1 = .ok () ∧
        AllAcknowledged adapter (replaceStep adapter partition batch).2 orderId
          (lastQuantity quantity batch) batches := by
  constructor
  · intro all
    refine ⟨(all [] nil_prefix).2, ?_, fun drained start => ?_⟩
    · exact (all [batch] ⟨batches, rfl⟩).1 _ mem_cons_self
    · have whole := all (batch :: drained) (cons_prefix_cons.mpr ⟨rfl, start⟩)
      rw [flatten_cons, lastQuantity_append] at whole
      exact ⟨fun response mem => whole.1 response (mem_cons_of_mem _ mem), whole.2⟩
  · rintro ⟨now, returned, later⟩ drained start
    cases drained with
    | nil => exact ⟨fun _ mem => absurd mem not_mem_nil, now⟩
    | cons first drained =>
      obtain ⟨rfl, rest⟩ := cons_prefix_cons.mp start
      obtain ⟨responses, acknowledged⟩ := later drained rest
      rw [flatten_cons, lastQuantity_append]
      exact ⟨forall_mem_cons.mpr ⟨returned, responses⟩, acknowledged⟩

theorem allAcknowledged_nil {orderId : OrderId} {quantity : Decimal} :
    AllAcknowledged adapter partition orderId quantity [] ↔
      Acknowledged partition.orderManager.manager orderId quantity := by
  constructor
  · exact fun all => (all [] nil_prefix).2
  · intro now drained start
    obtain rfl := prefix_nil.mp start
    exact ⟨fun _ mem => absurd mem not_mem_nil, now⟩

theorem Resting.replaced
    (unseen : brokerOrderId ++ "-replace-1" ∉ partition.orderManager.manager.seenReportIds) :
    Resting (replacedBy partition target brokerOrderId message
      (acknowledgement brokerOrderId resting.visible)) (replacedTarget target message)
      brokerOrderId := by
  have moved : (accepting (replaceRequested partition.orderManager target brokerOrderId message)
      (replacedOrder target.1 message.intent .replaceRequested)
      (acknowledgement brokerOrderId resting.visible)).manager =
        ((replaceRequested partition.orderManager target brokerOrderId message).manager).afterReport
          target.1.orderId (replacedTarget target message).1
          (acknowledgement brokerOrderId resting.visible) :=
    if_neg unseen
  have formed : (replaceRequested partition.orderManager target brokerOrderId
      message).manager.WellFormed := resting.formed.moved rfl
  have tracked : (replaceRequested partition.orderManager target brokerOrderId
      message).manager.orders.get? target.1.orderId =
        some (replacedOrder target.1 message.intent .replaceRequested) :=
    get?_set_self _ _ _
  have stored : (accepting (replaceRequested partition.orderManager target brokerOrderId message)
      (replacedOrder target.1 message.intent .replaceRequested)
      (acknowledgement brokerOrderId resting.visible)).manager.orders.get? target.1.orderId =
        some (replacedTarget target message).1 := by
    rw [moved]
    exact get?_set_self _ _ _
  constructor
  · change (accepting _ _ _).manager.WellFormed
    rw [moved]
    exact formed.afterReport tracked .accepted _
  · exact successor_of resting.of resting.sent rfl rfl stored rfl rfl resting.sent
      (show OrderState.accepted ∉ terminalOrderStates by decide)
  · rfl
  · exact resting.sent
  · change (accepting _ _ _).manager.brokerToOrder.get? _ = _
    rw [moved]
    exact resting.mapped
  · rfl
  · change partition.executed + 1 = (partition.orderManager.executionRef ++ [_]).length
    rw [resting.executed, length_append]
    rfl

theorem replacedBy_seen (visible : isBlank brokerOrderId = false) :
    brokerOrderId ++ "-replace-1" ∈ (replacedBy partition target brokerOrderId message
      (acknowledgement brokerOrderId visible)).orderManager.manager.seenReportIds := by
  change _ ∈ (accepting _ _ _).manager.seenReportIds
  unfold accepting
  split
  · next seen => exact seen
  · exact Finset.mem_insert_self _ _

theorem Resting.stuck
    (seen : brokerOrderId ++ "-replace-1" ∈ partition.orderManager.manager.seenReportIds)
    (quantity : Decimal) :
    ¬ Acknowledged (replacedBy partition target brokerOrderId message
      (acknowledgement brokerOrderId resting.visible)).orderManager.manager target.1.orderId
      quantity := by
  rintro ⟨⟨order, tracked, accepted, -⟩, -⟩
  have kept : (accepting (replaceRequested partition.orderManager target brokerOrderId message)
      (replacedOrder target.1 message.intent .replaceRequested)
      (acknowledgement brokerOrderId resting.visible)).manager =
        (replaceRequested partition.orderManager target brokerOrderId message).manager :=
    if_pos seen
  change (accepting _ _ _).manager.orders.get? _ = _ at tracked
  rw [kept] at tracked
  obtain rfl := Option.mem_unique (get?_set_self _ _ _) tracked
  cases accepted

/-- After the acknowledgement has been seen, a run is acknowledged only if it replaces nothing. -/
theorem atMostOne_seen {messages : List ReplaceOrder}
    (seen : brokerOrderId ++ "-replace-1" ∈ actor.manager.seenReportIds) :
    AtMostOneReplace actor brokerOrderId messages ↔ messages = [] :=
  or_iff_left fun one => one.2.2 seen

theorem replaceStep_eq (messages : List ReplaceOrder) :
    replaceStep adapter partition messages =
      answer .ok .error ((tellReplaces adapter messages).run partition) :=
  rfl

/-- A resting order is back at rest with the quantity requested last after each drain of a run of
replaces exactly when the run has at most one replace, the broker supports it and the order
manager has not seen its acknowledgement before. -/
theorem allAcknowledged_iff (adapter : SimulatedExecutionAdapter) (partition : AccountPartition)
    (target : CancelTarget) (brokerOrderId : String)
    (resting : Resting partition target brokerOrderId) (batches : List (List ReplaceOrder))
    (replaces : ∀ batch ∈ batches, ∀ message ∈ batch, Replaces target message) :
    AllAcknowledged adapter partition target.1.orderId target.1.intent.quantity batches ↔
      AtMostOneReplace partition.orderManager brokerOrderId batches.flatten := by
  induction batches generalizing partition target with
  | nil =>
    rw [allAcknowledged_nil]
    exact iff_of_true resting.acknowledged (.inl rfl)
  | cons batch batches ih =>
    obtain ⟨now, later⟩ := forall_mem_cons.mp replaces
    rw [allAcknowledged_cons, replaceStep_eq, flatten_cons]
    match batch with
    | [] =>
      rw [tellReplaces_none resting]
      exact (and_iff_right resting.acknowledged).trans
        ((and_iff_right rfl).trans (ih partition target resting later))
    | [message] =>
      have ends : Ends _ _ (tellReplaces adapter [message]) partition :=
        tellReplaces_one resting (now message mem_cons_self)
      cases ran : (tellReplaces adapter [message]).run partition with
      | error failure after =>
        have unsupported := ends.of_raise ran
        refine iff_of_false (fun all => nomatch all.2.1) ?_
        rintro (none | ⟨-, supports, -⟩)
        · cases none
        · exact unsupported supports
      | ok value after =>
        obtain ⟨supports, rfl⟩ := ends.of_run ran
        by_cases seen :
            brokerOrderId ++ "-replace-1" ∈ partition.orderManager.manager.seenReportIds
        · refine iff_of_false (fun all => ?_) ?_
          · exact resting.stuck seen _ (all.2.2 [] nil_prefix).2
          · rintro (none | ⟨-, -, unseen⟩)
            · cases none
            · exact unseen seen
        · have next := ih _ (replacedTarget target message) (resting.replaced seen)
            fun batch mem other among =>
              have replaced := later batch mem other among
              ⟨replaced.orderId, replaced.route, replaced.approved⟩
          rw [atMostOne_seen (replacedBy_seen resting.visible)] at next
          refine (and_iff_right resting.acknowledged).trans ((and_iff_right rfl).trans
            (next.trans ?_))
          constructor
          · intro none
            rw [none]
            exact .inr ⟨rfl, supports, seen⟩
          · rintro (none | ⟨one, -⟩)
            · cases none
            · exact length_eq_zero_iff.mp (Nat.succ.inj one)
    | message :: second :: others =>
      have ends : Ends _ _ (tellReplaces adapter (message :: second :: others)) partition :=
        tellReplaces_several resting (now message mem_cons_self)
          (now second (mem_cons_of_mem _ mem_cons_self))
      cases ran : (tellReplaces adapter (message :: second :: others)).run partition with
      | ok value after => exact (ends.of_run ran).elim
      | error failure after =>
        refine iff_of_false (fun all => nomatch all.2.1) ?_
        rintro (none | ⟨one, -⟩)
        · cases none
        · cases Nat.succ.inj one

def limitBelow : SubmitOrder :=
  { submitTwo with
    intent := { submitTwo.intent with
      orderSpec := { orderType := .limit, limitPrice := some 5,
                     valid := OrderSpecFields.limitAtFive_valid }
      valid := by decide +kernel } }

/-- The account after the order was told; its broker supports replaces. -/
def restingLimit : AccountPartition :=
  endState ((tellOrder (answer {}) .ascii limitBelow).run
    { orderManager := idle (some unitAccount) .empty "USD" true
      account := .init .empty (some unitAccount) })

def restingOrder : CancelTarget :=
  ({ orderId := limitBelow.intent.orderId, intent := limitBelow.intent, state := .accepted,
     brokerOrderId := some "broker-1" }, limitBelow.routeMetadata)

def replaceWith (quantity : Decimal) (pos : 0 < quantity) : ReplaceOrder where
  intent := ⟨limitBelow.intent.orderId, quantity, pos⟩
  riskDecision := { status := .approved }
  accountId := unitAccount
  strategyId := unitStrategy
  routeMetadata := limitBelow.routeMetadata
  sameAccount := rfl
  sameStrategy := rfl

theorem restingLimit_resting : Resting restingLimit restingOrder "broker-1" where
  formed := by
    have reached : OrderManager.Reachable restingLimit.orderManager.manager :=
      ⟨[.createOrder limitBelow.intent limitBelow.riskDecision,
        .markSent limitBelow.intent.orderId "broker-1",
        .processReport ⟨acceptedFields "broker-1" none,
          by decide +kernel⟩], rfl⟩
    exact reached.formed
  of := {
    tracked := by decide +kernel
    route := by decide +kernel
    onRoute := ⟨rfl, rfl⟩
    dispatched := show isBlank "broker-1" = false by decide
    live := show OrderState.accepted ∉ terminalOrderStates by decide }
  accepted := rfl
  sent := rfl
  mapped := by decide +kernel
  orderManagerMailbox := rfl
  executed := rfl

theorem allAcknowledged_iff_once :
    AllAcknowledged {} restingLimit restingOrder.1.orderId 2
      [[], [replaceWith 3 (by decide +kernel)]] := by
  refine (allAcknowledged_iff {} restingLimit restingOrder "broker-1" restingLimit_resting _
    ?_).mpr (.inr ⟨rfl, rfl, by decide +kernel⟩)
  intro batch mem message among
  simp only [mem_cons, not_mem_nil, or_false] at mem
  rcases mem with rfl | rfl
  · cases among
  · obtain rfl := mem_singleton.mp among
    exact ⟨rfl, rfl, rfl⟩

/-- The second replace of an order is never acknowledged: the order waits for a replacement, and a
cancel of it would be refused. -/
theorem second_replace_unacknowledged :
    let replaces := [[replaceWith 3 (by decide +kernel)], [replaceWith 4 (by decide +kernel)]]
    let after := final (replaceStep {}) restingLimit replaces
    ¬ AllAcknowledged {} restingLimit restingOrder.1.orderId 2 replaces ∧
      responses (replaceStep {}) restingLimit replaces = [.ok (), .ok ()] ∧
      (after.orderManager.manager.orders.get? restingOrder.1.orderId).map (·.state) =
        some .replaceRequested ∧
      nextState .replaceRequested .cancelRequested = none := by
  intro replaces after
  have stuck : (after.orderManager.manager.orders.get? restingOrder.1.orderId).map (·.state) =
      some .replaceRequested := by decide +kernel
  refine ⟨fun all => ?_, rfl, stuck, rfl⟩
  obtain ⟨order, tracked, accepted, -⟩ := (all replaces (prefix_refl _)).2.accepted
  rw [tracked, Option.map_some, accepted] at stuck
  cases stuck

end AccountPartition

end Qts
