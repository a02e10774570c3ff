import Qts.OrderManagerInvariant

/-! # Effects of the order manager's operations -/

namespace Qts.OrderManager

open RaisingCalls

inductive Effect (manager : OrderManager) :
    OrderManagerCommand → OrderManagerAnswer → OrderManager → Prop
  | refused (command : OrderManagerCommand) (error : OrderError) :
      Effect manager command (.raised error) manager
  | created (intent : OrderIntent) (riskDecision : RiskDecision)
      (approved : riskDecision.approved = true) :
      Effect manager (.createOrder intent riskDecision) (.order (createdOrder intent))
        (manager.moved intent.orderId (createdOrder intent))
  | sent (orderId : OrderId) (brokerOrderId : String)
      (nonblank : PythonText.isBlank brokerOrderId = false) (order : Order)
      (tracked : manager.orders.get? orderId = some order) (created : order.state = .created) :
      Effect manager (.markSent orderId brokerOrderId)
        (.order (advancedOrder order .sent (some brokerOrderId)))
        ((manager.moved orderId (advancedOrder order .sent (some brokerOrderId))).withBrokerOrder
          brokerOrderId orderId)
  | cancelRequested (intent : CancelIntent) (order : Order) (state : OrderState)
      (tracked : manager.orders.get? intent.orderId = some order)
      (next : nextState order.state .cancelRequested = some state) :
      Effect manager (.requestCancel intent) (.order (advancedOrder order state none))
        (manager.moved intent.orderId (advancedOrder order state none))
  | replaceRequested (intent : ReplaceIntent) (riskDecision : RiskDecision) (order : Order)
      (state : OrderState) (tracked : manager.orders.get? intent.orderId = some order)
      (next : nextState order.state .replaceRequested = some state) :
      Effect manager (.requestReplace intent riskDecision)
        (.order (replacedOrder order intent state))
        (manager.moved intent.orderId (replacedOrder order intent state))
  | duplicateReport (report : ExecutionReport) (order : Order) :
      Effect manager (.processReport report) (.processed { order }) manager
  | reported (report : ExecutionReport) (orderId : OrderId) (order : Order) (state : OrderState)
      (mapped : manager.brokerToOrder.get? report.brokerOrderId = some orderId)
      (tracked : manager.orders.get? orderId = some order)
      (unseen : report.reportId ∉ manager.seenReportIds)
      (next : nextState order.state (eventForReport report.status) = some state)
      (answer : OrderManagerAnswer)
      (unfilled : ∀ result, answer = .processed result → result.fills = []) :
      Effect manager (.processReport report) answer
        (manager.afterReport orderId (advancedOrder order state none) report)
  | filled (report : ExecutionReport) (orderId : OrderId) (order : Order) (state : OrderState)
      (mapped : manager.brokerToOrder.get? report.brokerOrderId = some orderId)
      (tracked : manager.orders.get? orderId = some order)
      (unseen : report.reportId ∉ manager.seenReportIds)
      (next : nextState order.state (eventForReport report.status) = some state)
      (fillId : String) (price : Decimal) (fresh : fillId ∉ manager.fillIds.seen) :
      Effect manager (.processReport report)
        (.processed {
          order := advancedOrder order state none
          fills := [orderFill (advancedOrder order state none) report fillId price] })
        ((manager.afterReport orderId (advancedOrder order state none) report).withFill
          order.orderId fillId)
  | discarded (orderId : OrderId) (order : Order)
      (tracked : manager.orders.get? orderId = some order)
      (terminal : order.state ∈ terminalOrderStates) :
      Effect manager (.discardTerminalOrder orderId) .discarded (manager.discarded orderId order)

theorem FillOutcome.effect {manager after : OrderManager} {report : ExecutionReport}
    {orderId : OrderId} {order : Order} {state : OrderState} {fills : List OrderFill}
    (mapped : manager.brokerToOrder.get? report.brokerOrderId = some orderId)
    (tracked : manager.orders.get? orderId = some order)
    (unseen : report.reportId ∉ manager.seenReportIds)
    (next : nextState order.state (eventForReport report.status) = some state)
    (outcome : FillOutcome (manager.afterReport orderId (advancedOrder order state none) report)
      (advancedOrder order state none) report (.ok fills after)) :
    Effect manager (.processReport report)
      (.processed { order := advancedOrder order state none, fills }) after := by
  have unfilled : ∀ result, OrderManagerAnswer.processed
      { order := advancedOrder order state none, fills := [] } = .processed result →
        result.fills = [] := by
    rintro result same
    cases same
    rfl
  cases outcome with
  | noFill nothing =>
    exact .reported report orderId order state mapped tracked unseen next _ unfilled
  | knownFill fillId price id priced pos nonblank known =>
    exact .reported report orderId order state mapped tracked unseen next _ unfilled
  | booked fillId price id priced pos nonblank fresh =>
    exact .filled report orderId order state mapped tracked unseen next fillId price fresh

theorem step_effect {manager : OrderManager} (formed : manager.WellFormed)
    (command : OrderManagerCommand) :
    Effect manager command (step manager command).1 (step manager command).2 := by
  cases command with
  | createOrder intent riskDecision =>
    cases approved : riskDecision.approved with
    | false =>
      simp only [step, createOrder_refused approved, answer]
      exact .refused _ _
    | true =>
      simp only [step, createOrder_approved approved, answer]
      exact .created intent riskDecision approved
  | markSent orderId brokerOrderId =>
    simp only [step]
    have outcome := markSent_outcome formed orderId brokerOrderId
    generalize (markSent orderId brokerOrderId).run manager = result at outcome ⊢
    cases outcome with
    | sent nonblank order tracked created =>
      exact .sent orderId brokerOrderId nonblank order tracked created
    | _ => exact .refused _ _
  | requestCancel intent =>
    simp only [step, requestCancel_eq_advance]
    have outcome := advance_outcome formed intent.orderId .cancelRequested none
    generalize (advance intent.orderId .cancelRequested).run manager = result at outcome ⊢
    cases outcome with
    | accepted order state tracked next =>
      exact .cancelRequested intent order state tracked next
    | _ => exact .refused _ _
  | requestReplace intent riskDecision =>
    simp only [step]
    have outcome := requestReplace_outcome formed intent riskDecision
    generalize (requestReplace intent riskDecision).run manager = result at outcome ⊢
    cases outcome with
    | requested order state tracked next =>
      exact .replaceRequested intent riskDecision order state tracked next
    | _ => exact .refused _ _
  | processReport report =>
    simp only [step]
    have outcome := processReport_outcome formed report
    generalize (processReport report).run manager = result at outcome ⊢
    cases outcome with
    | duplicate orderId order mapped tracked seen => exact .duplicateReport report order
    | raisedFill orderId order state mapped tracked unseen next failure fill =>
      exact .reported report orderId order state mapped tracked unseen next _ (by rintro _ ⟨⟩)
    | processed orderId order state mapped tracked unseen next fills after fill =>
      exact fill.effect mapped tracked unseen next
    | _ => exact .refused _ _
  | discardTerminalOrder orderId =>
    simp only [step]
    have outcome := discardTerminalOrder_outcome manager orderId
    generalize (discardTerminalOrder orderId).run manager = result at outcome ⊢
    cases outcome with
    | compacted order tracked terminal => exact .discarded orderId order tracked terminal
    | _ => exact .refused _ _

/-- A fact about tracked orders that no move of an order through its lifecycle changes. -/
structure KeptByMoves (kept : OrderId → Order → Prop) : Prop where
  sent : ∀ orderId order brokerOrderId, PythonText.isBlank brokerOrderId = false →
    kept orderId order → kept orderId (advancedOrder order .sent (some brokerOrderId))
  advanced : ∀ orderId order event state, event ≠ .sent →
    nextState order.state event = some state →
      kept orderId order → kept orderId (advancedOrder order state none)
  replaced : ∀ orderId order intent state, nextState order.state .replaceRequested = some state →
    kept orderId order → kept orderId (replacedOrder order intent state)

/-- The fact holds of every tracked order. -/
def EachOrder (kept : OrderId → Order → Prop) (manager : OrderManager) : Prop :=
  ∀ orderId order, manager.orders.get? orderId = some order → kept orderId order

variable {manager : OrderManager} {kept : OrderId → Order → Prop}

theorem eventForReport_ne_sent (status : ExecutionReportStatus) :
    eventForReport status ≠ .sent := by
  cases status <;> exact nofun

theorem EachOrder.moved (each : EachOrder kept manager) {orderId : OrderId} {order : Order}
    (holds : kept orderId order) : EachOrder kept (manager.moved orderId order) := by
  intro other found tracked
  simp only [OrderManager.moved, Dict.get?_set] at tracked
  split at tracked
  · next same =>
    cases tracked
    exact same ▸ holds
  · exact each other found tracked

def createdIntent : OrderManagerCommand → Option OrderIntent
  | .createOrder intent _ => some intent
  | _ => none

theorem EachOrder.step (moves : KeptByMoves kept) (formed : manager.WellFormed)
    (each : EachOrder kept manager) (command : OrderManagerCommand)
    (created : ∀ intent, createdIntent command = some intent →
      kept intent.orderId (createdOrder intent)) : EachOrder kept (step manager command).2 := by
  have effect := step_effect formed command
  generalize (OrderManager.step manager command).1 = answer at effect
  generalize (OrderManager.step manager command).2 = after at effect ⊢
  cases effect with
  | refused command error => exact each
  | created intent riskDecision approved => exact each.moved (created intent rfl)
  | sent orderId brokerOrderId nonblank order tracked _ =>
    exact each.moved (moves.sent orderId order brokerOrderId nonblank (each orderId order tracked))
  | cancelRequested intent order state tracked next =>
    exact each.moved (moves.advanced _ order .cancelRequested state (by decide) next
      (each _ order tracked))
  | replaceRequested intent riskDecision order state tracked next =>
    exact each.moved (moves.replaced _ order intent state next (each _ order tracked))
  | duplicateReport report order => exact each
  | reported report orderId order state mapped tracked unseen next answer unfilled =>
    exact each.moved (moves.advanced orderId order _ state (eventForReport_ne_sent _) next
      (each orderId order tracked))
  | filled report orderId order state mapped tracked unseen next fillId price fresh =>
    exact each.moved (moves.advanced orderId order _ state (eventForReport_ne_sent _) next
      (each orderId order tracked))
  | discarded orderId order tracked terminal =>
    intro other found stored
    simp only [OrderManager.discarded, Dict.get?_erase] at stored
    split at stored
    · cases stored
    · exact each other found stored

end Qts.OrderManager

namespace Qts.OrderManager

structure Origin where
  intent : OrderIntent
  replaced : Bool := false

abbrev Origins := Dict OrderId Origin

def recordOrigin (origins : Origins) : OrderManagerCommand → OrderManagerAnswer → Origins
  | .createOrder intent _, .order _ => origins.set intent.orderId { intent }
  | .requestReplace intent _, .order _ =>
      match origins.get? intent.orderId with
      | some origin => origins.set intent.orderId { origin with replaced := true }
      | none => origins
  | _, _ => origins

def rememberedStep : StepRuns.Step
    (OrderManager × Origins) OrderManagerCommand OrderManagerAnswer :=
  fun state command =>
    let (answer, manager) := step state.1 command
    (answer, (manager, recordOrigin state.2 command answer))

def originsAfter (commands : List OrderManagerCommand) : Origins :=
  (StepRuns.final rememberedStep (init, .empty) commands).2

theorem final_rememberedStep (state : OrderManager × Origins) (commands : List OrderManagerCommand)
    : (StepRuns.final rememberedStep state commands).1 = StepRuns.final step state.1 commands := by
  induction commands generalizing state with
  | nil => rfl
  | cons command commands ih => exact ih (rememberedStep state command).2

/-- An intent that comes from an origin: only the quantity may differ, and a replace has
dropped the correlation id. -/
structure Origin.Yields (origin : Origin) (intent : OrderIntent) : Prop where
  accountId : intent.accountId = origin.intent.accountId
  instrumentId : intent.instrumentId = origin.intent.instrumentId
  side : intent.side = origin.intent.side
  orderSpec : intent.orderSpec = origin.intent.orderSpec
  intentId : intent.intentId = if origin.replaced then none else origin.intent.intentId

structure Remembers (manager : OrderManager) (origins : Origins) : Prop where
  formed : manager.WellFormed
  yields : ∀ orderId order, manager.orders.get? orderId = some order →
    ∃ origin, origins.get? orderId = some origin ∧ origin.Yields order.intent

variable {manager : OrderManager} {origins : Origins}

theorem init_remembers : Remembers init .empty where
  formed := init_wellFormed
  yields _ _ tracked := by simp [init] at tracked

theorem recordOrigin_raised (command : OrderManagerCommand) (error : OrderError) :
    recordOrigin origins command (.raised error) = origins := by
  cases command <;> rfl

theorem Remembers.moved (remembers : Remembers manager origins) {orderId : OrderId} {order : Order}
    {origin : Origin} (key : order.orderId = orderId) (yields : origin.Yields order.intent) :
    Remembers (manager.moved orderId order) (origins.set orderId origin) where
  formed := remembers.formed.moved key
  yields other found tracked := by
    simp only [OrderManager.moved, Dict.get?_set] at tracked ⊢
    split at tracked
    · next same =>
      cases tracked
      exact ⟨origin, if_pos same, yields⟩
    · next ne =>
      rw [if_neg ne]
      exact remembers.yields other found tracked

theorem Remembers.advanced (remembers : Remembers manager origins) {orderId : OrderId}
    {order : Order} (tracked : manager.orders.get? orderId = some order) (state : OrderState)
    (brokerOrderId : Option String) :
    Remembers (manager.moved orderId (advancedOrder order state brokerOrderId)) origins where
  formed := remembers.formed.advanced tracked state brokerOrderId
  yields other found stored := by
    simp only [OrderManager.moved, Dict.get?_set] at stored
    split at stored
    · next same =>
      cases stored
      exact same ▸ remembers.yields orderId order tracked
    · exact remembers.yields other found stored

theorem Origin.Yields.replaced {origin : Origin} {current : OrderIntent}
    (yields : origin.Yields current) (intent : ReplaceIntent) :
    ({ origin with replaced := true } : Origin).Yields (replacedIntent current intent) where
  accountId := yields.accountId
  instrumentId := yields.instrumentId
  side := yields.side
  orderSpec := yields.orderSpec
  intentId := rfl

theorem Remembers.step (remembers : Remembers manager origins) (command : OrderManagerCommand) :
    Remembers (step manager command).2 (recordOrigin origins command (step manager command).1) := by
  have effect := step_effect remembers.formed command
  generalize (OrderManager.step manager command).1 = answer at effect ⊢
  generalize (OrderManager.step manager command).2 = after at effect ⊢
  cases effect with
  | refused command error =>
    rw [recordOrigin_raised]
    exact remembers
  | created intent riskDecision approved =>
    exact remembers.moved rfl ⟨rfl, rfl, rfl, rfl, rfl⟩
  | sent orderId brokerOrderId nonblank order tracked created =>
    have advanced := remembers.advanced tracked .sent (some brokerOrderId)
    exact ⟨advanced.formed.withBrokerOrder brokerOrderId orderId, advanced.yields⟩
  | cancelRequested intent order state tracked next => exact remembers.advanced tracked state none
  | replaceRequested intent riskDecision order state tracked next =>
    obtain ⟨origin, recorded, yields⟩ := remembers.yields intent.orderId order tracked
    simp only [recordOrigin, recorded]
    exact remembers.moved (remembers.formed.key intent.orderId order tracked)
      (yields.replaced intent)
  | duplicateReport report order => exact remembers
  | reported report orderId order state mapped tracked unseen next answer unfilled =>
    have advanced := remembers.advanced tracked state none
    cases answer <;> exact ⟨advanced.formed.withReport orderId report.reportId, advanced.yields⟩
  | filled report orderId order state mapped tracked unseen next fillId price fresh =>
    have advanced := remembers.advanced tracked state none
    exact ⟨(advanced.formed.withReport orderId report.reportId).withFill order.orderId fillId,
      advanced.yields⟩
  | discarded orderId order tracked terminal =>
    refine ⟨remembers.formed.discarded orderId order, ?_⟩
    intro other found kept
    simp only [OrderManager.discarded, Dict.get?_erase] at kept
    split at kept
    · cases kept
    · exact remembers.yields other found kept

theorem run_remembers (commands : List OrderManagerCommand) :
    Remembers (StepRuns.final step init commands) (originsAfter commands) := by
  have preserved : ∀ state command, Remembers state.1 state.2 →
      Remembers (rememberedStep state command).2.1 (rememberedStep state command).2.2 :=
    fun state command remembers => remembers.step command
  have start : Remembers ((init, .empty) : OrderManager × Origins).1 .empty := init_remembers
  have kept := StepRuns.final_invariant preserved start commands
  rw [final_rememberedStep] at kept
  exact kept

structure CarriesIdentity (intent : OrderIntent) (result : OrderProcessingResult)
    (fill : OrderFill) : Prop where
  accountId : fill.accountId = intent.accountId
  instrumentId : fill.instrumentId = intent.instrumentId
  side : fill.side = intent.side
  orderSpec : result.order.intent.orderSpec = intent.orderSpec
  intentId : fill.intentId = intent.intentId

theorem step_fill (formed : manager.WellFormed) {command : OrderManagerCommand}
    {result : OrderProcessingResult} (processed : (step manager command).1 = .processed result)
    {fill : OrderFill} (emitted : fill ∈ result.fills) :
    ∃ orderId order state report fillId price, manager.orders.get? orderId = some order ∧
      result.order = advancedOrder order state none ∧
      fill = orderFill (advancedOrder order state none) report fillId price := by
  have effect := step_effect formed command
  rw [processed] at effect
  generalize (OrderManager.step manager command).2 = after at effect
  cases effect with
  | duplicateReport report order => cases emitted
  | reported report orderId order state mapped tracked unseen next answer unfilled =>
    rw [unfilled result rfl] at emitted
    cases emitted
  | filled report orderId order state mapped tracked unseen next fillId price fresh =>
    exact ⟨orderId, order, state, report, fillId, price, tracked, rfl,
      List.mem_singleton.mp emitted⟩

/-- In every run each fill carries the account, the instrument, the side and the order
specification of the intent its order was created with; it carries the correlation id as well
exactly when the order has not been replaced since or was created without one. -/
theorem fill_carriesIdentity_iff (commands : List OrderManagerCommand)
    (command : OrderManagerCommand) (result : OrderProcessingResult)
    (processed : (step (StepRuns.final step init commands) command).1 = .processed result)
    (fill : OrderFill) (emitted : fill ∈ result.fills) :
    ∃ origin, (originsAfter commands).get? fill.orderId = some origin ∧
      (CarriesIdentity origin.intent result fill ↔
        (origin.replaced = true → origin.intent.intentId = none)) := by
  have remembers := run_remembers commands
  obtain ⟨orderId, order, state, report, fillId, price, tracked, stored, rfl⟩ :=
    step_fill remembers.formed processed emitted
  obtain ⟨origin, recorded, yields⟩ := remembers.yields orderId order tracked
  have key : order.orderId = orderId := remembers.formed.key orderId order tracked
  refine ⟨origin, (congrArg (originsAfter commands).get? key).trans recorded, ?_⟩
  constructor
  · intro carries replaced
    have dropped : order.intent.intentId = none := by simpa [replaced] using yields.intentId
    exact carries.intentId.symm.trans dropped
  · intro kept
    have correlation : order.intent.intentId = origin.intent.intentId := by
      rw [yields.intentId]
      split
      · next replaced => exact (kept replaced).symm
      · rfl
    exact ⟨yields.accountId, yields.instrumentId, yields.side, stored ▸ yields.orderSpec,
      correlation⟩

def correlatedOrder : OrderIntent where
  orderId := unitOrder.orderId
  instrumentId := unitOrder.instrumentId
  side := .buy
  quantity := 1
  intentId := some "intent-1"
  valid := by decide +kernel

def doubledQuantity : ReplaceIntent where
  orderId := correlatedOrder.orderId
  newQuantity := 2
  pos := Eq.refl true

def doubledFill : ExecutionReport where
  reportId := "report-1"
  brokerOrderId := "broker-1"
  status := .filled
  filledQuantity := 2
  fillPrice := some 100
  fillId := some "fill-1"
  valid := by decide +kernel

def replacedRun : List OrderManagerCommand :=
  [.createOrder correlatedOrder { status := .approved },
   .markSent correlatedOrder.orderId "broker-1",
   .requestReplace doubledQuantity { status := .approved }]

def doubledOrder : Order where
  orderId := correlatedOrder.orderId
  intent := replacedIntent correlatedOrder doubledQuantity
  state := .filled
  brokerOrderId := some "broker-1"

def doubledResult : OrderProcessingResult where
  order := doubledOrder
  fills := [orderFill doubledOrder doubledFill "fill-1" 100]

theorem replacedRun_processed :
    (step (StepRuns.final step init replacedRun) (.processReport doubledFill)).1 =
      .processed doubledResult := by
  decide +kernel

theorem replacedRun_origin :
    (originsAfter replacedRun).get? correlatedOrder.orderId =
      some { intent := correlatedOrder, replaced := true } := by
  rfl

theorem fill_carriesIdentity_iff_replaced :
    ∃ origin, (originsAfter replacedRun).get? correlatedOrder.orderId = some origin ∧
      (CarriesIdentity origin.intent doubledResult
          (orderFill doubledOrder doubledFill "fill-1" 100) ↔
        (origin.replaced = true → origin.intent.intentId = none)) :=
  fill_carriesIdentity_iff replacedRun (.processReport doubledFill) doubledResult
    replacedRun_processed _ List.mem_cons_self

/-- A fill after a replace no longer carries the correlation id of the order's intent. -/
theorem replacedFill_loses_intentId :
    ¬ ∀ commands command result,
      (step (StepRuns.final step init commands) command).1 = .processed result →
        ∀ fill ∈ result.fills, ∀ origin,
          (originsAfter commands).get? fill.orderId = some origin →
            CarriesIdentity origin.intent result fill := by
  intro carries
  have carried := carries replacedRun (.processReport doubledFill) doubledResult
    replacedRun_processed _ List.mem_cons_self _ replacedRun_origin
  have lost : (none : Option String) = some "intent-1" := carried.intentId
  cases lost

end Qts.OrderManager
