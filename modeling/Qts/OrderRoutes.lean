import Qts.OrderManagerEffects
import Qts.OrderManagerActor

/-! # Routes of tracked orders -/

namespace Qts

open Dict

namespace OrderManagerActor

open OrderManager RaisingCalls

/-- An order has a broker order id that is not blank, unless it was never sent. -/
def Dispatched (order : Order) : Prop :=
  match order.brokerOrderId with
  | some brokerOrderId => PythonText.isBlank brokerOrderId = false
  | none => order.state = .created ∨ order.state = .rejected

/-- The captured route is on the order's account, which the actor serves. -/
def OnRoute (owner : Option AccountId) (metadata : OrderRouteMetadata) (order : Order) : Prop :=
  order.intent.accountId = some metadata.accountId ∧
    foreignTo owner (some metadata.accountId) = false

structure Routable (owner : Option AccountId) (routes : Dict OrderId OrderRouteMetadata)
    (orderId : OrderId) (order : Order) : Prop where
  route : ∃ metadata, routes.get? orderId = some metadata ∧ OnRoute owner metadata order
  dispatched : Dispatched order

structure RoutesOrders (owner : Option AccountId)
    (routes : Dict OrderId OrderRouteMetadata) (manager : OrderManager) : Prop where
  formed : manager.WellFormed
  each : EachOrder (Routable owner routes) manager

structure RoutedBy (owner : Option AccountId) (routes : Dict OrderId OrderRouteMetadata)
    (actor : OrderManagerActor) : Prop where
  accountId : actor.accountId = owner
  routeMetadata : actor.routeMetadata = routes
  manager : RoutesOrders owner routes actor.manager

variable {owner : Option AccountId} {routes : Dict OrderId OrderRouteMetadata}

theorem nextState_unsent {state next : OrderState} {event : OrderEvent} (notSent : event ≠ .sent)
    (unsent : state = .created ∨ state = .rejected) (accepted : nextState state event = some next) :
    next = .rejected := by
  rcases unsent with rfl | rfl <;> cases event <;>
    simp_all [nextState, duplicateTerminalEvents, transitions]

theorem routable_keptByMoves : KeptByMoves (Routable owner routes) where
  sent orderId order brokerOrderId nonblank routable := ⟨routable.route, nonblank⟩
  advanced orderId order event state notSent next routable := by
    refine ⟨routable.route, ?_⟩
    have dispatched := routable.dispatched
    unfold Dispatched at dispatched ⊢
    change match order.brokerOrderId with | some _ => _ | none => _
    cases has : order.brokerOrderId with
    | some brokerOrderId =>
      rw [has] at dispatched
      exact dispatched
    | none =>
      rw [has] at dispatched
      exact .inr (nextState_unsent notSent dispatched next)
  replaced orderId order intent state next routable := by
    refine ⟨routable.route, ?_⟩
    have dispatched := routable.dispatched
    unfold Dispatched at dispatched ⊢
    change match order.brokerOrderId with | some _ => _ | none => _
    cases has : order.brokerOrderId with
    | some brokerOrderId =>
      rw [has] at dispatched
      exact dispatched
    | none =>
      rw [has] at dispatched
      exact .inr (nextState_unsent (by decide) dispatched next)

variable {manager : OrderManager}

theorem RoutesOrders.step (routed : RoutesOrders owner routes manager)
    (command : OrderManagerCommand)
    (created : ∀ intent, createdIntent command = some intent →
      Routable owner routes intent.orderId (createdOrder intent)) :
    RoutesOrders owner routes (OrderManager.step manager command).2 where
  formed := step_wellFormed manager command routed.formed
  each := routed.each.step routable_keptByMoves routed.formed command created

variable {actor : OrderManagerActor}

theorem onManager_ok {Value : Type} {call : ManagerCall Value} {value : Value}
    (ran : call.run actor.manager = .ok value manager) :
    (onManager call).run actor = .ok value { actor with manager } := by
  simp only [onManager, EStateM.run] at ran ⊢
  rw [ran]

theorem onManager_error {Value : Type} {call : ManagerCall Value} {failure : OrderError}
    (ran : call.run actor.manager = .error failure manager) :
    (onManager call).run actor = .error (.order failure) { actor with manager } := by
  simp only [onManager, EStateM.run] at ran ⊢
  rw [ran]

theorem keeps_of_command {Value : Type} {call : ManagerCall Value} (command : OrderManagerCommand)
    (runs : ∀ manager, endState (call.run manager) = (OrderManager.step manager command).2)
    (creates : createdIntent command = none) : Keeps (RoutedBy owner routes) (onManager call) := by
  have kept : Keeps (RoutesOrders owner routes) call := by
    intro manager routed
    rw [runs]
    exact routed.step command fun intent same => nomatch creates.symm.trans same
  exact keeps_onManager (fun _ routed => routed.manager)
    (fun _ _ routed manager => ⟨routed.accountId, routed.routeMetadata, manager⟩) kept

variable (orderId : OrderId)

theorem getOrder_unmoving : Unmoving (onManager (getOrder orderId)) := by
  intro actor
  cases tracked : actor.manager.orders.get? orderId with
  | none => exact .inr ⟨_, onManager_error (getOrder_untracked tracked)⟩
  | some order => exact .inl ⟨order, onManager_ok (getOrder_tracked tracked)⟩

theorem routeOf_unmoving : Unmoving (routeOf orderId) := by
  refine Unmoving.get fun actor => ?_
  cases actor.routeMetadata.get? orderId with
  | none => exact Unmoving.throw _
  | some metadata => exact Unmoving.pure metadata

theorem checkRoute_unmoving (accountId : AccountId) (routeMetadata : OrderRouteMetadata)
    (verb : String) : Unmoving (checkRoute orderId accountId routeMetadata verb) := by
  refine (getOrder_unmoving orderId).bind fun current => ?_
  refine (routeOf_unmoving orderId).bind fun metadata => ?_
  refine Unmoving.ite (Unmoving.throw _) (Unmoving.ite (Unmoving.throw _) ?_)
  exact Unmoving.get fun actor => Unmoving.ite (Unmoving.throw _) (Unmoving.pure current)

theorem tellExecution_routed (req : ExecutionRequest) :
    Keeps (RoutedBy owner routes) (tellExecution req) :=
  Keeps.modify fun _ routed => ⟨routed.accountId, routed.routeMetadata, routed.manager⟩

theorem handleCancel_routed (message : CancelOrder) :
    Keeps (RoutedBy owner routes) (handleCancel message) := by
  refine (checkRoute_unmoving _ _ _ _).keeps.bind fun current => ?_
  cases current.brokerOrderId with
  | none => exact Keeps.throw _
  | some brokerOrderId =>
    refine Keeps.bind (keeps_of_command (.requestCancel message.intent) ?_ rfl)
      fun order => tellExecution_routed _
    exact fun manager => (answer_state _ _ _).symm

theorem handleReplace_routed (message : ReplaceOrder) :
    Keeps (RoutedBy owner routes) (handleReplace message) := by
  refine (checkRoute_unmoving _ _ _ _).keeps.bind fun current => ?_
  refine Keeps.get fun actor _ => ?_
  refine Keeps.ite (fun _ => Keeps.throw _) fun _ => ?_
  cases current.brokerOrderId with
  | none => exact Keeps.throw _
  | some brokerOrderId =>
    refine Keeps.bind
      (keeps_of_command (.requestReplace message.intent message.riskDecision) ?_ rfl)
      fun order => tellExecution_routed _
    exact fun manager => (answer_state _ _ _).symm

theorem compactForStreaming_routed (orderIds : List OrderId) :
    Keeps (RoutedBy owner routes) (compactForStreaming orderIds) := by
  refine Keeps.bind (Keeps.forIn fun orderId => ?_) fun _ => ?_
  · refine keeps_of_command (.discardTerminalOrder orderId) ?_ rfl
    exact fun manager => (answer_state _ _ _).symm
  · exact Keeps.modify fun _ routed => ⟨routed.accountId, routed.routeMetadata, routed.manager⟩

theorem handleReport_routed (report : ExecutionReport) :
    Keeps (RoutedBy owner routes) (handleReport report) := by
  have fills : Keeps (RoutedBy owner routes) (reportFills report) := by
    intro actor routed
    have kept : RoutesOrders owner routes
        (endState ((processReport report).run actor.manager)) := by
      have after := routed.manager.step (.processReport report) fun _ same => nomatch same
      simp only [OrderManager.step, answer_state] at after
      exact after
    change RoutedBy owner routes (endState (handleResult report actor _))
    generalize (processReport report).run actor.manager = result at kept ⊢
    cases result with
    | ok result manager =>
      have manager : RoutesOrders owner routes manager := kept
      simp only [handleResult]
      split <;> exact ⟨routed.accountId, routed.routeMetadata, manager⟩
    | error failure manager =>
      have manager : RoutesOrders owner routes manager := kept
      cases failure <;> exact ⟨routed.accountId, routed.routeMetadata, manager⟩
  refine fills.bind fun booked => ?_
  exact Keeps.modify fun _ routed => ⟨routed.accountId, routed.routeMetadata, routed.manager⟩

/-- The actor routes every order, on whatever routes it has captured. -/
def WellRouted (actor : OrderManagerActor) : Prop :=
  RoutesOrders actor.accountId actor.routeMetadata actor.manager

theorem WellRouted.of_routedBy (routed : RoutedBy owner routes actor) : WellRouted actor := by
  obtain ⟨rfl, rfl, manager⟩ := routed
  exact manager

theorem WellRouted.routedBy (routed : WellRouted actor) :
    RoutedBy actor.accountId actor.routeMetadata actor :=
  ⟨rfl, rfl, routed⟩

theorem createdOrder_dispatched (intent : OrderIntent) : Dispatched (createdOrder intent) :=
  .inl rfl

theorem RoutesOrders.created (routed : RoutesOrders owner routes manager) {intent : OrderIntent}
    {metadata : OrderRouteMetadata} (onRoute : OnRoute owner metadata (createdOrder intent)) :
    RoutesOrders owner (routes.set intent.orderId metadata)
      (manager.moved intent.orderId (createdOrder intent)) where
  formed := routed.formed.moved rfl
  each other found tracked := by
    simp only [OrderManager.moved, get?_set] at tracked
    split at tracked
    · next same =>
      cases tracked
      subst same
      exact ⟨⟨metadata, get?_set_self _ _ _, onRoute⟩, createdOrder_dispatched intent⟩
    · next ne =>
      obtain ⟨⟨captured, route, own⟩, dispatched⟩ := routed.each other found tracked
      exact ⟨⟨captured, by rw [get?_set_of_ne _ _ ne, route], own⟩, dispatched⟩

theorem markSent_routed (brokerOrderId : String) (req : ExecutionRequest) :
    Keeps (RoutedBy owner routes) (do
      let _ ← onManager (markSent orderId brokerOrderId)
      tellExecution req) := by
  refine Keeps.bind (keeps_of_command (.markSent orderId brokerOrderId) ?_ rfl)
    fun _ => tellExecution_routed req
  exact fun manager => (answer_state _ _ _).symm

theorem handleSubmit_routed (message : SubmitOrder) : Keeps WellRouted (handleSubmit message) := by
  intro actor routed
  unfold handleSubmit
  by_cases other : message.intent.accountId ≠ some message.accountId
  · rw [if_pos other]
    exact routed
  rw [if_neg other]
  have account : message.intent.accountId = some message.accountId := of_not_not other
  change WellRouted (endState (EStateM.run (ite _ _ _) actor))
  cases foreign : foreignTo actor.accountId message.intent.accountId with
  | true => exact routed
  | false =>
    cases approved : message.riskDecision.approved with
    | false =>
      rw [if_neg (by simp), bind_run_error (onManager_error (createOrder_refused approved _ _))]
      exact routed
    | true =>
      rw [if_neg (by simp), bind_run_ok (onManager_ok (createOrder_approved approved _ _))]
      have onRoute : OnRoute actor.accountId message.routeMetadata
          (createdOrder message.intent) := by
        rw [OnRoute, message.sameAccount]
        exact ⟨account, account ▸ foreign⟩
      have captured : RoutedBy actor.accountId
          (actor.routeMetadata.set message.intent.orderId message.routeMetadata)
          { actor with
            manager := actor.manager.moved message.intent.orderId (createdOrder message.intent)
            routeMetadata :=
              actor.routeMetadata.set message.intent.orderId message.routeMetadata } :=
        ⟨rfl, rfl, routed.created onRoute⟩
      exact .of_routedBy (markSent_routed _ _ _ _ captured)

theorem handle_routed (message : OrderManagerMessage) : Keeps WellRouted (handle message) := by
  intro actor routed
  cases message with
  | submit message => exact handleSubmit_routed message actor routed
  | cancel message => exact .of_routedBy (handleCancel_routed message actor routed.routedBy)
  | replace message => exact .of_routedBy (handleReplace_routed message actor routed.routedBy)
  | report report => exact .of_routedBy (handleReport_routed report actor routed.routedBy)
  | compactForStreaming orderIds =>
    exact .of_routedBy (compactForStreaming_routed orderIds actor routed.routedBy)

inductive OrderManagerDelivery
  | message (message : OrderManagerMessage)
  | askSnapshot

/-- One delivery; listing the fill ids for a snapshot fills a cache. -/
def deliver : StepRuns.Step OrderManagerActor OrderManagerDelivery
    (Except OrderManagerActorError Unit)
  | actor, .message message => step actor message
  | actor, .askSnapshot => (.ok (), { actor with manager := actor.manager.snapshot.2 })

/-- An actor that was started without orders and has taken deliveries since. -/
def InOperation (actor : OrderManagerActor) : Prop :=
  ∃ start deliveries, start.manager = .init ∧ actor = StepRuns.final deliver start deliveries

theorem started_wellRouted (start : actor.manager = .init) : WellRouted actor := by
  unfold WellRouted
  rw [start]
  exact ⟨init_wellFormed, fun _ _ tracked => nomatch tracked⟩

theorem deliver_wellRouted (actor : OrderManagerActor) (delivery : OrderManagerDelivery)
    (routed : WellRouted actor) : WellRouted (deliver actor delivery).2 := by
  cases delivery with
  | message message =>
    simp only [deliver, step, answer_state]
    exact handle_routed message actor routed
  | askSnapshot =>
    obtain ⟨formed, each⟩ := routed
    exact ⟨⟨formed.machine, formed.key, formed.fillIdsOwned,
      formed.reportIdsOwned⟩, each⟩

theorem InOperation.wellRouted (operation : InOperation actor) : WellRouted actor := by
  obtain ⟨start, deliveries, empty, rfl⟩ := operation
  exact StepRuns.final_invariant deliver_wellRouted (started_wellRouted empty) deliveries

end OrderManagerActor

end Qts
