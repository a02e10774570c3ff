import Qts.OrderRoutes
import Qts.BrokerPartition

/-! # Cancel requests to an order manager actor -/

namespace Qts

open PythonText AccountPartition List

structure RuntimeKillSwitchCommandFields where
  operatorId : String
  reason : String
  cancelActiveOrders : Bool := true

def RuntimeKillSwitchCommandFields.checks (command : RuntimeKillSwitchCommandFields) :
    List Check :=
  [⟨isBlank command.operatorId, "operator_id must not be empty"⟩,
   ⟨isBlank command.reason, "reason must not be empty"⟩]

/-- Operator command to halt runtime order submission. -/
structure RuntimeKillSwitchCommand extends RuntimeKillSwitchCommandFields where
  valid : Check.firstFailure toRuntimeKillSwitchCommandFields.checks = none

structure RuntimeKillSwitchEvidence where
  runId : String
  operatorId : String
  reason : String
  runtimeState : String
  activeOrderIds : List OrderId
  cancelledOrderIds : List OrderId
  accountSnapshot : AccountSnapshot
  snapshotRefs : List String

/-- What a session has behind its safety port.  The partitions are listed in the order of the
session; the first one is the primary. -/
structure RuntimeSafetySession where
  runId : String
  runtimeState : String
  killSwitchActive : Bool := false
  primary : Option AccountId
  others : List (Option AccountId) := []
  distinct : (primary :: others).Nodup
  partition : Option AccountId → AccountPartition
  /-- The id under which the snapshots of an account are saved, where it has a store. -/
  snapshotActorId : Option AccountId → Option String := fun _ => none
  savedSnapshots : List (String × AccountSnapshot) := []
  events : List RuntimeKillSwitchEvidence := []

abbrev SafetyCall := EStateM Failure RuntimeSafetySession

namespace AccountPartition

def askOrderManagerSnapshot : PartitionCall OrderStateSnapshot := do
  orderManagerProcessAll
  let part ← get
  let (snapshot, manager) := part.orderManager.manager.snapshot
  set { part with orderManager := { part.orderManager with manager } }
  return snapshot

def askRouteMetadata (orderId : OrderId) : PartitionCall OrderRouteMetadata := do
  orderManagerProcessAll
  match (← get).orderManager.routeMetadata.get? orderId with
  | some metadata => return metadata
  | none => throw (.keyError orderId.value)

def tellCancel (message : CancelOrder) : PartitionCall Unit :=
  modify fun part => { part with
    orderManagerMailbox := part.orderManagerMailbox ++ [.cancel message] }

/-- Drain the mailboxes so that cancels reach the broker and its answers come back. -/
def processCancels (answer : ExecutionRequest → Except Failure ExecutionReport)
    (caps : UpperCase) : PartitionCall Unit := do
  orderManagerProcessAll
  executionProcessAll answer
  orderManagerProcessAll
  accountProcessAll caps

end AccountPartition

namespace RuntimeSafetySession

def accounts (session : RuntimeSafetySession) : List (Option AccountId) :=
  session.primary :: session.others

def withPartition (session : RuntimeSafetySession) (account : Option AccountId)
    (part : AccountPartition) : RuntimeSafetySession :=
  { session with partition := Function.update session.partition account part }

def onPartition {Value : Type} (account : Option AccountId) (call : PartitionCall Value) :
    SafetyCall Value := fun session =>
  match call.run (session.partition account) with
  | .ok value part => .ok value (session.withPartition account part)
  | .error failure part => .error failure (session.withPartition account part)

def activeOrders (orders : List Order) : List Order :=
  orders.filter fun order => order.state ∉ terminalOrderStates

def activeOrdersByPartition : List (Option AccountId) →
    SafetyCall (List (OrderId × Option AccountId))
  | [] => return []
  | account :: rest => do
    let snapshot ← onPartition account askOrderManagerSnapshot
    let later ← activeOrdersByPartition rest
    return (activeOrders snapshot.orders).map (fun order => (order.orderId, account)) ++ later

def cancelMessage (orderId : OrderId) (metadata : OrderRouteMetadata) : CancelOrder :=
  metadata.cancel { orderId }

def tellCancels : List (OrderId × Option AccountId) → SafetyCall Unit
  | [] => return
  | (orderId, account) :: rest => do
    let metadata ← onPartition account (askRouteMetadata orderId)
    onPartition account (tellCancel (cancelMessage orderId metadata))
    tellCancels rest

variable (answers : Option AccountId → ExecutionRequest → Except Failure ExecutionReport)
  (caps : UpperCase)

def processPartitions : List (Option AccountId) → SafetyCall Unit
  | [] => return
  | account :: rest => do
    onPartition account (processCancels (answers account) caps)
    processPartitions rest

def cancelledOrderIds : List (OrderId × Option AccountId) → SafetyCall (List OrderId)
  | [] => return []
  | (orderId, account) :: rest => do
    let order ← onPartition account (askOrder orderId)
    let later ← cancelledOrderIds rest
    return if order.state = .cancelled then orderId :: later else later

def cancelActiveOrders : SafetyCall (List OrderId × List OrderId) := do
  let active ← activeOrdersByPartition (← get).accounts
  tellCancels active
  processPartitions answers caps (← get).accounts
  let cancelled ← cancelledOrderIds active
  return (active.map Prod.fst, cancelled)

def recordAccountSnapshots : List (Option AccountId) → SafetyCall (List String)
  | [] => return []
  | account :: rest => do
    match (← get).snapshotActorId account with
    | none => recordAccountSnapshots rest
    | some actorId =>
      let snapshot ← onPartition account (askAccountSnapshot caps)
      modify fun session => { session with
        savedSnapshots := session.savedSnapshots ++ [(actorId, snapshot)] }
      let later ← recordAccountSnapshots rest
      return actorId :: later

def affectedOrders (command : RuntimeKillSwitchCommand) :
    SafetyCall (List OrderId × List OrderId) := do
  let active ← activeOrdersByPartition (← get).accounts
  match command.cancelActiveOrders with
  | true => cancelActiveOrders answers caps
  | false => return (active.map Prod.fst, [])

/-- Block new orders and optionally cancel active orders through actors. -/
def activateKillSwitch (command : RuntimeKillSwitchCommand) :
    SafetyCall RuntimeKillSwitchEvidence := do
  modify fun session => { session with killSwitchActive := true }
  let (activeOrderIds, cancelledOrderIds) ← affectedOrders answers caps command
  let primary := (← get).primary
  let snapshot ← onPartition primary (askAccountSnapshot caps)
  let snapshotRefs ← recordAccountSnapshots caps (← get).accounts
  let session ← get
  let evidence : RuntimeKillSwitchEvidence := {
    runId := session.runId
    operatorId := command.operatorId
    reason := command.reason
    runtimeState := session.runtimeState
    activeOrderIds, cancelledOrderIds
    accountSnapshot := snapshot
    snapshotRefs }
  modify fun session => { session with events := session.events ++ [evidence] }
  return evidence

end RuntimeSafetySession

namespace OrderManagerActor

open OrderManager RaisingCalls
open RuntimeSafetySession (cancelMessage)

def cancellableStates : List OrderState :=
  [.sent, .accepted, .partiallyFilled]

theorem nextState_cancelRequested {state : OrderState} :
    nextState state .cancelRequested =
      if state ∈ cancellableStates then some .cancelRequested else none := by
  cases state <;> rfl

abbrev CancelTarget := Order × OrderRouteMetadata

namespace CancelTarget

structure Of (actor : OrderManagerActor) (target : CancelTarget) : Prop where
  tracked : actor.manager.orders.get? target.1.orderId = some target.1
  route : actor.routeMetadata.get? target.1.orderId = some target.2
  onRoute : OnRoute actor.accountId target.2 target.1
  dispatched : Dispatched target.1
  live : target.1.state ∉ terminalOrderStates

def message (target : CancelTarget) : OrderManagerMessage :=
  .cancel (cancelMessage target.1.orderId target.2)

def request (target : CancelTarget) : ExecutionRequest :=
  .cancel target.1.orderId (target.1.brokerOrderId.getD "") target.2.accountId
    target.2.strategyId target.2

end CancelTarget

def requested (actor : OrderManagerActor) (target : CancelTarget) : OrderManagerActor :=
  { actor with
    manager := actor.manager.moved target.1.orderId (advancedOrder target.1 .cancelRequested none)
    executionRef := actor.executionRef ++ [target.request] }

variable {actor : OrderManagerActor} {target : CancelTarget} {orderId : OrderId}

theorem checkRoute_tracked {order : Order} {metadata : OrderRouteMetadata}
    (tracked : actor.manager.orders.get? orderId = some order)
    (captured : actor.routeMetadata.get? orderId = some metadata)
    (onRoute : OnRoute actor.accountId metadata order) (verb : String) :
    (checkRoute orderId metadata.accountId metadata verb).run actor = .ok order actor := by
  have route : (routeOf orderId).run actor = .ok metadata actor := by
    simp only [routeOf, EStateM.run_bind, EStateM.run_get, captured, EStateM.run_pure]
  rw [checkRoute, bind_run_ok (onManager_ok (getOrder_tracked tracked)), bind_run_ok route]
  rw [if_neg (not_not_intro onRoute.1), if_neg (not_not_intro rfl), EStateM.run_bind]
  simp only [EStateM.run_get, onRoute.2, Bool.false_eq_true, if_false, EStateM.run_pure]

theorem checkRoute_ok (of : target.Of actor) (verb : String) :
    (checkRoute target.1.orderId target.2.accountId target.2 verb).run actor =
      .ok target.1 actor :=
  checkRoute_tracked of.tracked of.route of.onRoute verb

theorem handleCancel_ends (formed : actor.manager.WellFormed) (of : target.Of actor) :
    Ends (fun _ after => target.1.state ∈ cancellableStates ∧ after = requested actor target)
      (fun _ _ => target.1.state ∉ cancellableStates) (handle target.message) actor := by
  change Ends _ _ (handleCancel _) actor
  rw [handleCancel]
  have checked : Ends (fun current after => current = target.1 ∧ after = actor)
      (fun _ _ => target.1.state ∉ cancellableStates)
      (checkRoute target.1.orderId target.2.accountId target.2 "cancel") actor :=
    .of_ok (checkRoute_ok of "cancel") ⟨rfl, rfl⟩
  refine checked.bind ?_
  rintro current between ⟨rfl, rfl⟩
  have dispatched := of.dispatched
  unfold Dispatched at dispatched
  cases has : target.1.brokerOrderId with
  | none =>
    rw [has] at dispatched
    refine Ends.throw ?_
    rcases dispatched with created | rejected
    · rw [created]
      decide
    · exact absurd (rejected ▸ by decide) of.live
  | some brokerOrderId =>
    by_cases cancellable : target.1.state ∈ cancellableStates
    · have next := nextState_cancelRequested.trans (if_pos cancellable)
      refine .of_ok (bind_run_ok (onManager_ok (advance_accepted formed of.tracked next none)))
        ⟨cancellable, ?_⟩
      simp [requested, CancelTarget.request, cancelMessage,
        OrderRouteMetadata.cancel, advancedOrder, has]
    · have next := nextState_cancelRequested.trans (if_neg cancellable)
      exact .of_error
        (bind_run_error (onManager_error (advance_refused formed of.tracked next none)))
        cancellable

def requestedAll (actor : OrderManagerActor) (targets : List CancelTarget) : OrderManagerActor :=
  targets.foldl requested actor

/-- The targets are different orders. -/
def Distinct (targets : List CancelTarget) : Prop :=
  (targets.map fun target => target.1.orderId).Nodup

variable {targets : List CancelTarget}

theorem Distinct.head (distinct : Distinct (target :: targets)) :
    ∀ other ∈ targets, other.1.orderId ≠ target.1.orderId := by
  intro other mem same
  exact (nodup_cons.mp distinct).1 (mem_map.mpr ⟨other, mem, same⟩)

theorem Distinct.tail (distinct : Distinct (target :: targets)) : Distinct targets :=
  (nodup_cons.mp distinct).2

theorem requested_wellFormed (formed : actor.manager.WellFormed) (of : target.Of actor) :
    (requested actor target).manager.WellFormed :=
  formed.advanced of.tracked .cancelRequested none

theorem requested_orders (orderId : OrderId) :
    (requested actor target).manager.orders.get? orderId =
      if orderId = target.1.orderId then some (advancedOrder target.1 .cancelRequested none)
      else actor.manager.orders.get? orderId :=
  Dict.get?_set _ _ _ _

theorem CancelTarget.Of.requested {other : CancelTarget} (of : other.Of actor)
    (ne : other.1.orderId ≠ target.1.orderId) : other.Of (requested actor target) where
  tracked := by
    rw [requested_orders, if_neg ne]
    exact of.tracked
  route := of.route
  onRoute := of.onRoute
  dispatched := of.dispatched
  live := of.live

theorem CancelTarget.Of.requestedAll (of : target.Of actor)
    (ne : ∀ other ∈ targets, target.1.orderId ≠ other.1.orderId) :
    target.Of (requestedAll actor targets) := by
  induction targets generalizing actor with
  | nil => exact of
  | cons first targets ih =>
    exact ih (of.requested (ne first mem_cons_self))
      fun other mem => ne other (mem_cons_of_mem _ mem)

theorem requestedAll_append (actor : OrderManagerActor) (first second : List CancelTarget) :
    requestedAll actor (first ++ second) = requestedAll (requestedAll actor first) second :=
  foldl_append

theorem requestedAll_executionRef (actor : OrderManagerActor) (targets : List CancelTarget) :
    (requestedAll actor targets).executionRef =
      actor.executionRef ++ targets.map CancelTarget.request := by
  induction targets generalizing actor with
  | nil => rw [requestedAll, foldl_nil, map_nil, append_nil]
  | cons target targets ih =>
    change (requestedAll (requested actor target) targets).executionRef = _
    rw [ih, requested, append_assoc]
    rfl

theorem requestedAll_frame (actor : OrderManagerActor) (targets : List CancelTarget) :
    (requestedAll actor targets).accountRef = actor.accountRef ∧
      (requestedAll actor targets).manager.brokerToOrder = actor.manager.brokerToOrder := by
  induction targets generalizing actor with
  | nil => exact ⟨rfl, rfl⟩
  | cons target targets ih => exact ih (requested actor target)

theorem requestedAll_other (other : ∀ target ∈ targets, orderId ≠ target.1.orderId) :
    (requestedAll actor targets).manager.orders.get? orderId =
      actor.manager.orders.get? orderId := by
  induction targets generalizing actor with
  | nil => rfl
  | cons target targets ih =>
    change (requestedAll (requested actor target) targets).manager.orders.get? orderId = _
    rw [ih fun found mem => other found (mem_cons_of_mem _ mem), requested_orders,
      if_neg (other target mem_cons_self)]

theorem requestedAll_target (distinct : Distinct targets) (mem : target ∈ targets) :
    (requestedAll actor targets).manager.orders.get? target.1.orderId =
      some (advancedOrder target.1 .cancelRequested none) := by
  induction targets generalizing actor with
  | nil => cases mem
  | cons first targets ih =>
    change (requestedAll (requested actor first) targets).manager.orders.get? _ = _
    cases mem with
    | head =>
      rw [requestedAll_other fun other later => (distinct.head other later).symm, requested_orders,
        if_pos rfl]
    | tail _ later => exact ih distinct.tail later

theorem requestedAll_wellFormed (distinct : Distinct targets)
    (formed : actor.manager.WellFormed) (of : ∀ target ∈ targets, target.Of actor) :
    (requestedAll actor targets).manager.WellFormed := by
  induction targets generalizing actor with
  | nil => exact formed
  | cons first targets ih =>
    have next : ∀ target ∈ targets, target.Of (requested actor first) := fun target mem =>
      (of target (mem_cons_of_mem _ mem)).requested (distinct.head target mem)
    exact ih distinct.tail (requested_wellFormed formed (of first mem_cons_self)) next

structure Confirms (brokerOrderId : String) (report : ExecutionReport) : Prop where
  brokerOrderId : report.brokerOrderId = brokerOrderId
  cancelled : report.status = .cancelled
  unfilled : carriesFill report = false

/-- The order that a broker order id leads to, if any, waits for the confirmation of a cancel or
has had one. -/
def AwaitsCancel (manager : OrderManager) (brokerOrderId : String) : Prop :=
  ∀ orderId order, manager.brokerToOrder.get? brokerOrderId = some orderId →
    manager.orders.get? orderId = some order →
      order.state = .cancelRequested ∨ order.state = .cancelled

structure Confirmed (before after : OrderManagerActor) : Prop where
  formed : after.manager.WellFormed
  executionRef : after.executionRef = before.executionRef
  accountRef : after.accountRef = before.accountRef
  brokerToOrder : after.manager.brokerToOrder = before.manager.brokerToOrder
  orders : ∀ orderId, after.manager.orders.get? orderId = before.manager.orders.get? orderId ∨
    ∃ order, after.manager.orders.get? orderId = some order ∧ order.state = .cancelled

theorem Confirmed.rfl (formed : actor.manager.WellFormed) : Confirmed actor actor :=
  ⟨formed, Eq.refl _, Eq.refl _, Eq.refl _, fun _ => .inl (Eq.refl _)⟩

theorem Confirmed.trans {first second third : OrderManagerActor}
    (earlier : Confirmed first second) (later : Confirmed second third) :
    Confirmed first third where
  formed := later.formed
  executionRef := later.executionRef.trans earlier.executionRef
  accountRef := later.accountRef.trans earlier.accountRef
  brokerToOrder := later.brokerToOrder.trans earlier.brokerToOrder
  orders orderId := by
    rcases later.orders orderId with same | cancelled
    · rw [same]
      exact earlier.orders orderId
    · exact .inr cancelled

theorem Confirmed.awaits {before after : OrderManagerActor} (confirmed : Confirmed before after)
    {brokerOrderId : String} (awaits : AwaitsCancel before.manager brokerOrderId) :
    AwaitsCancel after.manager brokerOrderId := by
  intro orderId order mapped tracked
  rw [confirmed.brokerToOrder] at mapped
  rcases confirmed.orders orderId with same | ⟨found, stored, cancelled⟩
  · exact awaits orderId order mapped (same ▸ tracked)
  · obtain rfl := Option.mem_unique stored tracked
    exact .inr cancelled

theorem Confirmed.tracked {before after : OrderManagerActor} (confirmed : Confirmed before after)
    (tracked : (before.manager.orders.get? orderId).isSome) :
    (after.manager.orders.get? orderId).isSome := by
  rcases confirmed.orders orderId with same | ⟨order, stored, _⟩
  · rw [same]
    exact tracked
  · rw [stored]
    rfl

theorem handleReport_confirms {brokerOrderId : String} {report : ExecutionReport}
    (confirms : Confirms brokerOrderId report) (formed : actor.manager.WellFormed)
    (awaits : AwaitsCancel actor.manager brokerOrderId) :
    Ends (fun _ after => Confirmed actor after) (fun _ _ => False) (handle (.report report))
      actor := by
  obtain ⟨rfl, cancelled, unfilled⟩ := confirms
  change Ends _ _ (reportFills report >>= _) actor
  have fills : Ends (fun fills after => fills = [] ∧ Confirmed actor after) (fun _ _ => False)
      (reportFills report) actor := by
    have ran : (reportFills report).run actor =
        handleResult report actor ((processReport report).run actor.manager) := rfl
    unfold Ends
    rw [ran]
    have outcome := processReport_outcome formed report
    generalize (processReport report).run actor.manager = result at outcome ⊢
    cases outcome with
    | unknownBrokerOrder unmapped =>
      exact ⟨rfl, formed, rfl, rfl, rfl, fun _ => .inl rfl⟩
    | untracked orderId mapped missing =>
      exact ⟨rfl, formed, rfl, rfl, rfl, fun _ => .inl rfl⟩
    | duplicate orderId order mapped tracked seen =>
      exact ⟨rfl, formed, rfl, rfl, rfl, fun _ => .inl rfl⟩
    | refused orderId order mapped tracked unseen refusal =>
      rw [cancelled] at refusal
      rcases awaits orderId order mapped tracked with waiting | done
      · rw [waiting] at refusal
        cases refusal
      · rw [done] at refusal
        cases refusal
    | raisedFill orderId order state mapped tracked unseen next failure fill =>
      cases fill.carries_of_error.symm.trans unfilled
    | processed orderId order state mapped tracked unseen next fills after fill =>
      obtain ⟨rfl, rfl⟩ := fill.nothing unfilled
      rw [cancelled] at next
      have moved : state = .cancelled := by
        rcases awaits orderId order mapped tracked with waiting | done
        · rw [waiting] at next
          exact (Option.some.inj next).symm
        · rw [done] at next
          exact (Option.some.inj next).symm
      subst moved
      refine ⟨rfl, formed.afterReport tracked _ report, rfl, rfl, rfl, fun other => ?_⟩
      change (actor.manager.orders.set orderId _).get? other = _ ∨
        ∃ order, (actor.manager.orders.set orderId _).get? other = some order ∧ _
      rw [Dict.get?_set]
      split
      · exact .inr ⟨_, rfl, rfl⟩
      · exact .inl rfl
  refine fills.bind ?_
  rintro fills between ⟨rfl, confirmed⟩
  refine Ends.modify ?_
  simp only [map_nil, append_nil]
  exact confirmed

end OrderManagerActor

end Qts
