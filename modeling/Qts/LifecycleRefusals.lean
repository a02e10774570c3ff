import Qts.IbkrReportFlow

/-! # Broker reports that the lifecycle table refuses -/

namespace Qts.IbkrFeed

open RaisingCalls IbkrCallbacks OrderManager

def feedStates : List OrderState :=
  [.sent, .accepted, .filled, .cancelRequested, .replaceRequested, .cancelled]

/-- The produced statuses that the lifecycle table takes in each state. -/
def admits : OrderState → ExecutionReportStatus → Bool
  | _, .filled => true
  | state, .accepted => state = .sent || state = .replaceRequested
  | state, .cancelled => state = .accepted || state = .cancelRequested || state = .cancelled
  | _, _ => false

def answerTo (delivery : ReportDelivery) : OrderManagerAnswer :=
  (OrderManager.step delivery.manager (.processReport delivery.report)).1

/-- The order manager refuses a delivered report as an invalid transition. -/
def Refused (delivery : ReportDelivery) : Prop :=
  ∃ message, answerTo delivery = .raised (.orderTransitionError message)

/-- The report is a repeat, or the order is in a state that takes the report's status. -/
def Expected (delivery : ReportDelivery) : Prop :=
  delivery.report.reportId ∈ delivery.manager.seenReportIds ∨
    ∃ orderId order,
      delivery.manager.brokerToOrder.get? delivery.report.brokerOrderId = some orderId ∧
      delivery.manager.orders.get? orderId = some order ∧
      admits order.state delivery.report.status = true

theorem nextState_feed {state next : OrderState} {event : OrderEvent} (started : state ∈ feedStates)
    (accepted : nextState state event = some next) (notPartial : event ≠ .partiallyFilled)
    (notRejected : event ≠ .rejected) : next ∈ feedStates := by
  cases state <;> cases event <;>
    simp_all [feedStates, nextState, duplicateTerminalEvents, transitions]

theorem nextState_refuses_iff {state : OrderState} {status : ExecutionReportStatus}
    (started : state ∈ feedStates) (produced : status ∈ producedStatuses) :
    nextState state (eventForReport status) = none ↔ admits state status = false := by
  cases state <;> cases status <;>
    simp_all [feedStates, producedStatuses, nextState, duplicateTerminalEvents, transitions,
      eventForReport, admits]

/-- An order that was sent under a broker id and has only met feed events since. -/
structure Working (manager : OrderManager) (orderId : OrderId) (brokerOrderId : String) :
    Prop where
  formed : manager.WellFormed
  mapped : manager.brokerToOrder.get? brokerOrderId = some orderId
  tracked : ∃ order, manager.orders.get? orderId = some order ∧ order.state ∈ feedStates

variable {manager : OrderManager} {orderId : OrderId} {report : ExecutionReport}

theorem refused_iff (working : Working manager orderId report.brokerOrderId)
    (produced : Produced report) : Refused ⟨manager, report⟩ ↔ ¬ Expected ⟨manager, report⟩ := by
  obtain ⟨order, tracked, started⟩ := working.tracked
  have table := nextState_refuses_iff started produced
  have outcome := processReport_outcome working.formed report
  have expected_iff : Expected ⟨manager, report⟩ ↔
      report.reportId ∈ manager.seenReportIds ∨ admits order.state report.status = true := by
    simp [Expected, working.mapped, tracked]
  rw [expected_iff]
  simp only [Refused, answerTo, OrderManager.step]
  generalize (processReport report).run manager = result at outcome
  cases outcome with
  | unknownBrokerOrder unmapped => simp [working.mapped] at unmapped
  | untracked otherId mapped missing =>
    cases working.mapped.symm.trans mapped
    simp [tracked] at missing
  | duplicate _ _ _ _ seen => simp [answer, seen]
  | refused otherId other mapped found unseen refusal =>
    cases working.mapped.symm.trans mapped
    cases tracked.symm.trans found
    simp [answer, invalidTransition, unseen, table.mp refusal]
  | raisedFill otherId other state mapped found _ next failure fill =>
    cases working.mapped.symm.trans mapped
    cases tracked.symm.trans found
    have admitted : admits order.state report.status = true := by
      rw [← Bool.not_eq_false, ← table.not, next]
      exact Option.some_ne_none state
    cases fill <;> simp [answer, missingFillPrice, emptyFillId, admitted]
  | processed otherId other state mapped found _ next _ _ _ =>
    cases working.mapped.symm.trans mapped
    cases tracked.symm.trans found
    have admitted : admits order.state report.status = true := by
      rw [← Bool.not_eq_false, ← table.not, next]
      exact Option.some_ne_none state
    simp [answer, admitted]

variable {brokerOrderId : String}

theorem Working.moved (working : Working manager orderId brokerOrderId) {target : OrderId}
    {current next : Order} (tracked : manager.orders.get? target = some current)
    (key : next.orderId = current.orderId)
    (state : current.state ∈ feedStates → next.state ∈ feedStates) :
    Working (manager.moved target next) orderId brokerOrderId where
  formed := working.formed.moved (key.trans (working.formed.key target current tracked))
  mapped := working.mapped
  tracked := by
    obtain ⟨order, found, started⟩ := working.tracked
    by_cases same : orderId = target
    · subst same
      cases found.symm.trans tracked
      exact ⟨next, Dict.get?_set_self _ _ _, state started⟩
    · exact ⟨order, (Dict.get?_set_of_ne _ _ same).trans found, started⟩

theorem Working.advance (working : Working manager orderId brokerOrderId) {target : OrderId}
    {event : OrderEvent} (notPartial : event ≠ .partiallyFilled) (notRejected : event ≠ .rejected)
    {result : EStateM.Result OrderError OrderManager Order}
    (outcome : AdvanceOutcome manager target event none result) :
    Working (endState result) orderId brokerOrderId := by
  cases outcome with
  | accepted order state tracked next =>
    exact working.moved tracked rfl fun started =>
      nextState_feed started next notPartial notRejected
  | _ => exact working

theorem Working.withFill (working : Working manager orderId brokerOrderId) {order : Order}
    {result : EStateM.Result OrderError OrderManager (List OrderFill)}
    (outcome : FillOutcome manager order report result) :
    Working (endState result) orderId brokerOrderId := by
  have formed := outcome.formed working.formed
  cases outcome with
  | booked => exact ⟨formed, working.mapped, working.tracked⟩
  | _ => exact working

theorem eventForReport_produced {status : ExecutionReportStatus}
    (produced : status ∈ producedStatuses) :
    eventForReport status ≠ .partiallyFilled ∧ eventForReport status ≠ .rejected := by
  cases status <;> simp_all [producedStatuses, eventForReport]

theorem Working.processReport (working : Working manager orderId brokerOrderId)
    (produced : Produced report) :
    Working (endState ((processReport report).run manager)) orderId brokerOrderId := by
  obtain ⟨notPartial, notRejected⟩ := eventForReport_produced produced
  have recorded {target : OrderId} {order : Order} {state : OrderState}
      (tracked : manager.orders.get? target = some order)
      (next : nextState order.state (eventForReport report.status) = some state) :
      Working (manager.afterReport target (advancedOrder order state none) report) orderId
        brokerOrderId := by
    have moved : Working (manager.moved target (advancedOrder order state none)) orderId
        brokerOrderId :=
      working.moved tracked rfl fun started =>
        nextState_feed started next notPartial notRejected
    exact ⟨moved.formed.withReport target report.reportId, moved.mapped, moved.tracked⟩
  have outcome := processReport_outcome working.formed report
  generalize (OrderManager.processReport report).run manager = result at outcome ⊢
  cases outcome with
  | raisedFill target order state mapped tracked unseen next failure fill =>
    exact recorded tracked next
  | processed target order state mapped tracked unseen next fills after fill =>
    exact (recorded tracked next).withFill fill
  | _ => exact working

theorem Working.request (working : Working manager orderId brokerOrderId) (event : IbkrFeedEvent) :
    Working (request manager event) orderId brokerOrderId := by
  cases event with
  | cancelRequest intent =>
    have outcome : AdvanceOutcome manager intent.orderId .cancelRequested none
        ((requestCancel intent).run manager) :=
      advance_outcome working.formed intent.orderId .cancelRequested none
    exact working.advance (by decide) (by decide) outcome
  | replaceRequest intent riskDecision =>
    have outcome := requestReplace_outcome working.formed intent riskDecision
    simp only [IbkrFeed.request]
    generalize (requestReplace intent riskDecision).run manager = result at outcome ⊢
    cases outcome with
    | requested order state tracked next =>
      exact working.moved tracked rfl fun started =>
        nextState_feed started next (by decide) (by decide)
    | _ => exact working
  | _ => exact working

theorem Working.deliver (working : Working manager orderId brokerOrderId)
    {reports : List ExecutionReport} (produced : ∀ report ∈ reports, Produced report) :
    (∀ delivery ∈ (deliver manager reports).1,
        Working delivery.manager orderId brokerOrderId ∧ Produced delivery.report) ∧
      Working (IbkrFeed.deliver manager reports).2 orderId brokerOrderId := by
  induction reports generalizing manager with
  | nil => exact ⟨by simp [IbkrFeed.deliver], working⟩
  | cons report reports ih =>
    have first := produced report List.mem_cons_self
    have later := ih (working.processReport first)
      fun other mem => produced other (List.mem_cons_of_mem _ mem)
    refine ⟨?_, later.2⟩
    intro delivery mem
    rcases List.mem_cons.mp mem with rfl | mem
    · exact ⟨working, first⟩
    · exact later.1 delivery mem

theorem Working.deliveries {feed : IbkrFeed} (working : Working feed.manager orderId brokerOrderId)
    (events : List IbkrFeedEvent) :
    ∀ delivery ∈ deliveries feed events,
      Working delivery.manager orderId brokerOrderId ∧ Produced delivery.report := by
  induction events generalizing feed with
  | nil => simp [IbkrFeed.deliveries]
  | cons event events ih =>
    have delivered := (working.request event).deliver (produce_produced feed.calls event)
    intro delivery mem
    simp only [IbkrFeed.deliveries, StepRuns.responses_cons, List.flatten_cons,
      List.mem_append] at mem
    rcases mem with now | later
    · exact delivered.1 delivery now
    · exact ih delivered.2 delivery later

/-- For an order that has been sent under a broker id, in every run of callbacks and user
requests: no report for that id is refused exactly when each one is a repeat or finds the
order in a state that takes its status. -/
theorem no_report_refused_iff (before : List OrderManagerCommand) (calls : IbkrCallbacks)
    (orderId : OrderId) (brokerOrderId : String) (order : Order)
    (tracked : (StepRuns.final OrderManager.step init before).orders.get? orderId = some order)
    (sent : order.state = .sent)
    (mapped : (StepRuns.final OrderManager.step init before).brokerToOrder.get? brokerOrderId =
      some orderId) (events : List IbkrFeedEvent) :
    let run := deliveries ⟨calls, StepRuns.final OrderManager.step init before⟩ events
    (∀ delivery ∈ run, delivery.report.brokerOrderId = brokerOrderId → ¬ Refused delivery) ↔
      ∀ delivery ∈ run, delivery.report.brokerOrderId = brokerOrderId → Expected delivery := by
  intro run
  have working : Working (StepRuns.final OrderManager.step init before) orderId brokerOrderId :=
    ⟨Reachable.formed ⟨before, rfl⟩, mapped, order, tracked, by simp [sent, feedStates]⟩
  have pointwise : ∀ delivery ∈ run, delivery.report.brokerOrderId = brokerOrderId →
      (¬ Refused delivery ↔ Expected delivery) := by
    intro delivery mem same
    obtain ⟨atDelivery, produced⟩ := working.deliveries events delivery mem
    rw [← same] at atDelivery
    rw [show delivery = ⟨delivery.manager, delivery.report⟩ from rfl,
      refused_iff atDelivery produced, not_not]
  constructor
  · intro accepted delivery mem same
    exact (pointwise delivery mem same).mp (accepted delivery mem same)
  · intro expected delivery mem same
    exact (pointwise delivery mem same).mpr (expected delivery mem same)

def freshCallbacks : IbkrCallbacks where
  accountId := "account-1"
  orderMap := none

def unitStatus (reportId status : String)
    (valid : Check.firstFailure
      (IbkrOrderStatusFields.checks ⟨reportId, "broker-1", status, none⟩) = none) :
    IbkrFeedEvent :=
  .orderStatus ⟨⟨reportId, "broker-1", status, none⟩, valid⟩ 0

def preSubmittedThenSubmitted : List IbkrFeedEvent :=
  [unitStatus "status-1" "PreSubmitted" (by decide), unitStatus "status-2" "Submitted" (by decide)]

/-- An order that IBKR first holds and then works: the second status raises. -/
theorem submitted_after_preSubmitted_refused :
    (deliveries ⟨freshCallbacks, StepRuns.final OrderManager.step init sentUnitOrder⟩
        preSubmittedThenSubmitted).map answerTo =
      [.processed { order := advancedOrder (createdOrder unitOrder) .accepted (some "broker-1") },
       .raised (.orderTransitionError "invalid order transition: accepted -> accepted")] := by
  decide +kernel

theorem no_report_refused_iff_unitOrder :
    let run := deliveries
      ⟨freshCallbacks, StepRuns.final OrderManager.step init sentUnitOrder⟩
      preSubmittedThenSubmitted
    (∀ delivery ∈ run, delivery.report.brokerOrderId = "broker-1" → ¬ Refused delivery) ↔
      ∀ delivery ∈ run, delivery.report.brokerOrderId = "broker-1" → Expected delivery :=
  no_report_refused_iff sentUnitOrder freshCallbacks unitOrder.orderId "broker-1"
    (advancedOrder (createdOrder unitOrder) .sent (some "broker-1"))
    (by decide +kernel) rfl (by decide +kernel) preSubmittedThenSubmitted

end Qts.IbkrFeed
