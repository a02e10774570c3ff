import Qts.OrderManagerCalls

/-! # Outcomes of the order manager's operations -/

namespace Qts.OrderManager

open RaisingCalls

def missingFillPrice : OrderError :=
  .missingFillPrice "fill_price is required when filled_quantity is positive"

def emptyFillId : OrderError :=
  .valueError "fill_id must not be empty"

def carriesFill (report : ExecutionReport) : Bool :=
  report.fillId.isSome && decide (0 < report.filledQuantity)

inductive FillOutcome (manager : OrderManager) (order : Order) (report : ExecutionReport) :
    EStateM.Result OrderError OrderManager (List OrderFill) → Prop
  | noFill (nothing : carriesFill report = false) :
      FillOutcome manager order report (.ok [] manager)
  | missingPrice (carries : carriesFill report = true) (missing : report.fillPrice = none) :
      FillOutcome manager order report (.error missingFillPrice manager)
  | blankId (fillId : String) (price : Decimal) (id : report.fillId = some fillId)
      (priced : report.fillPrice = some price) (pos : 0 < report.filledQuantity)
      (blank : PythonText.isBlank fillId = true) :
      FillOutcome manager order report (.error emptyFillId manager)
  | knownFill (fillId : String) (price : Decimal) (id : report.fillId = some fillId)
      (priced : report.fillPrice = some price) (pos : 0 < report.filledQuantity)
      (nonblank : PythonText.isBlank fillId = false) (known : fillId ∈ manager.fillIds.seen) :
      FillOutcome manager order report (.ok [] manager)
  | booked (fillId : String) (price : Decimal) (id : report.fillId = some fillId)
      (priced : report.fillPrice = some price) (pos : 0 < report.filledQuantity)
      (nonblank : PythonText.isBlank fillId = false) (fresh : fillId ∉ manager.fillIds.seen) :
      FillOutcome manager order report
        (.ok [orderFill order report fillId price] (manager.withFill order.orderId fillId))

theorem fillsForReport_outcome (manager : OrderManager) (order : Order) (report : ExecutionReport) :
    FillOutcome manager order report ((fillsForReport order report).run manager) := by
  unfold fillsForReport
  cases id : report.fillId with
  | none =>
    rw [EStateM.run_pure]
    exact .noFill (by simp [carriesFill, id])
  | some fillId =>
    by_cases empty : report.filledQuantity ≤ 0
    · simp only [empty, if_true, EStateM.run_pure]
      exact .noFill (by simp [carriesFill, empty])
    · have pos : 0 < report.filledQuantity := lt_of_not_ge empty
      cases priced : report.fillPrice with
      | none =>
        simp only [empty, if_false, throw_run]
        exact .missingPrice (by simp [carriesFill, id, pos]) priced
      | some price =>
        simp only [empty, if_false, EStateM.run_bind, EStateM.run_get,
          FillIdempotencyStore.markSeen]
        cases blank : PythonText.isBlank fillId with
        | true =>
          simp only [if_true, throw_run]
          exact .blankId fillId price id priced pos blank
        | false =>
          by_cases known : fillId ∈ manager.fillIds.seen
          · simp only [Bool.false_eq_true, if_false, known, if_true, EStateM.run_pure]
            exact .knownFill fillId price id priced pos blank known
          · simp only [Bool.false_eq_true, if_false, known, EStateM.run_bind,
              EStateM.run_modify, EStateM.run_pure]
            exact .booked fillId price id priced pos blank known

def afterReport (manager : OrderManager) (orderId : OrderId) (order : Order)
    (report : ExecutionReport) : OrderManager :=
  (manager.moved orderId order).withReport orderId report.reportId

/-- What a report does: five ways to change nothing, then the fill outcomes on
the manager that has already recorded the report. -/
inductive ReportOutcome (manager : OrderManager) (report : ExecutionReport) :
    EStateM.Result OrderError OrderManager OrderProcessingResult → Prop
  | unknownBrokerOrder (unmapped : manager.brokerToOrder.get? report.brokerOrderId = none) :
      ReportOutcome manager report
        (.error (.unknownBrokerOrder "no tracked order for broker order id" report.brokerOrderId)
          manager)
  | untracked (orderId : OrderId)
      (mapped : manager.brokerToOrder.get? report.brokerOrderId = some orderId)
      (missing : manager.orders.get? orderId = none) :
      ReportOutcome manager report (.error (.keyError orderId) manager)
  | duplicate (orderId : OrderId) (order : Order)
      (mapped : manager.brokerToOrder.get? report.brokerOrderId = some orderId)
      (tracked : manager.orders.get? orderId = some order)
      (seen : report.reportId ∈ manager.seenReportIds) :
      ReportOutcome manager report (.ok { order } manager)
  | refused (orderId : OrderId) (order : Order)
      (mapped : manager.brokerToOrder.get? report.brokerOrderId = some orderId)
      (tracked : manager.orders.get? orderId = some order)
      (unseen : report.reportId ∉ manager.seenReportIds)
      (refusal : nextState order.state (eventForReport report.status) = none) :
      ReportOutcome manager report
        (.error (invalidTransition order.state (eventForReport report.status)) manager)
  | raisedFill (orderId : OrderId) (order : Order) (state : OrderState)
      (mapped : manager.brokerToOrder.get? report.brokerOrderId = some orderId)
      (tracked : manager.orders.get? orderId = some order)
      (unseen : report.reportId ∉ manager.seenReportIds)
      (next : nextState order.state (eventForReport report.status) = some state)
      (failure : OrderError)
      (fill : FillOutcome (manager.afterReport orderId (advancedOrder order state none) report)
        (advancedOrder order state none) report
        (.error failure (manager.afterReport orderId (advancedOrder order state none) report))) :
      ReportOutcome manager report
        (.error failure (manager.afterReport orderId (advancedOrder order state none) report))
  | processed (orderId : OrderId) (order : Order) (state : OrderState)
      (mapped : manager.brokerToOrder.get? report.brokerOrderId = some orderId)
      (tracked : manager.orders.get? orderId = some order)
      (unseen : report.reportId ∉ manager.seenReportIds)
      (next : nextState order.state (eventForReport report.status) = some state)
      (fills : List OrderFill) (after : OrderManager)
      (fill : FillOutcome (manager.afterReport orderId (advancedOrder order state none) report)
        (advancedOrder order state none) report (.ok fills after)) :
      ReportOutcome manager report
        (.ok { order := advancedOrder order state none, fills } after)

variable {report : ExecutionReport} {manager after : OrderManager}

/-- A raise while building fills leaves the recorded report behind. -/
theorem FillOutcome.error_state {order : Order} {failure : OrderError}
    (outcome : FillOutcome manager order report (.error failure after)) : after = manager := by
  cases outcome <;> rfl

theorem carriesFill_of {fillId : String} (id : report.fillId = some fillId)
    (pos : 0 < report.filledQuantity) : carriesFill report = true := by
  simp [carriesFill, id, pos]

theorem FillOutcome.carries_of_error {order : Order} {failure : OrderError}
    (outcome : FillOutcome manager order report (.error failure after)) :
    carriesFill report = true := by
  cases outcome with
  | missingPrice carries missing => exact carries
  | blankId fillId price id priced pos blank => exact carriesFill_of id pos

theorem FillOutcome.nothing {order : Order} {fills : List OrderFill}
    (outcome : FillOutcome manager order report (.ok fills after))
    (unfilled : carriesFill report = false) : fills = [] ∧ after = manager := by
  cases outcome with
  | noFill nothing => exact ⟨rfl, rfl⟩
  | knownFill fillId price id priced pos nonblank known => exact ⟨rfl, rfl⟩
  | booked fillId price id priced pos nonblank fresh =>
    cases (carriesFill_of id pos).symm.trans unfilled

theorem processReport_mapped {manager : OrderManager} {orderId : OrderId}
    (mapped : manager.brokerToOrder.get? report.brokerOrderId = some orderId)
    (unseen : report.reportId ∉ manager.seenReportIds) :
    (processReport report).run manager =
      (do
        let order ← advance orderId (eventForReport report.status)
        modify fun manager => manager.withReport orderId report.reportId
        let fills ← fillsForReport order report
        return { order, fills } : ManagerCall OrderProcessingResult).run
          manager := by
  simp only [processReport, EStateM.run_bind, EStateM.run_get, mapped, unseen, if_false, advance]
  cases (applyEvent orderId (eventForReport report.status)).run manager with
  | ok state middle => rfl
  | error failure middle => rfl

theorem processReport_outcome {manager : OrderManager} (formed : manager.WellFormed)
    (report : ExecutionReport) :
    ReportOutcome manager report ((processReport report).run manager) := by
  cases mapped : manager.brokerToOrder.get? report.brokerOrderId with
  | none =>
    simp only [processReport, EStateM.run_bind, EStateM.run_get, mapped, throw_run]
    exact .unknownBrokerOrder mapped
  | some orderId =>
    by_cases seen : report.reportId ∈ manager.seenReportIds
    · simp only [processReport, EStateM.run_bind, EStateM.run_get, mapped, seen, if_true]
      cases tracked : manager.orders.get? orderId with
      | none =>
        rw [getOrder_untracked tracked]
        exact .untracked orderId mapped tracked
      | some order =>
        rw [getOrder_tracked tracked]
        exact .duplicate orderId order mapped tracked seen
    · rw [processReport_mapped mapped seen, EStateM.run_bind]
      have outcome := advance_outcome formed orderId (eventForReport report.status) none
      generalize (advance orderId (eventForReport report.status)).run manager = advanced
        at outcome ⊢
      cases outcome with
      | untracked missing => exact .untracked orderId mapped missing
      | refused order tracked refusal => exact .refused orderId order mapped tracked seen refusal
      | accepted order state tracked next =>
        simp only [EStateM.run_bind, EStateM.run_modify, EStateM.run_pure]
        have fill := fillsForReport_outcome
          ((manager.moved orderId (advancedOrder order state none)).withReport orderId
            report.reportId)
          (advancedOrder order state none) report
        generalize (fillsForReport (advancedOrder order state none) report).run
          ((manager.moved orderId (advancedOrder order state none)).withReport orderId
            report.reportId) = booked at fill ⊢
        cases booked with
        | ok fills after =>
          exact .processed orderId order state mapped tracked seen next fills after fill
        | error failure after =>
          have unchanged := fill.error_state
          subst unchanged
          exact .raisedFill orderId order state mapped tracked seen next failure fill

end Qts.OrderManager
