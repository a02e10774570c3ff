import Qts.OrderReportProcessing

/-!
# The order manager's invariant

The outcomes of the remaining operations, and the invariant of every run: in
each reachable manager an order and its machine agree, an order sits under its
own id, and the per-order id sets that exist are not empty.
-/

namespace Qts.OrderManager

open RaisingCalls

def withBrokerOrder (manager : OrderManager) (brokerOrderId : String) (orderId : OrderId) :
    OrderManager :=
  { manager with brokerToOrder := manager.brokerToOrder.set brokerOrderId orderId }

def replacedOrder (current : Order) (intent : ReplaceIntent) (state : OrderState) : Order where
  orderId := current.orderId
  intent := replacedIntent current.intent intent
  state := state
  brokerOrderId := current.brokerOrderId

def discarded (manager : OrderManager) (orderId : OrderId) (order : Order) : OrderManager where
  orders := manager.orders.erase orderId
  machines := manager.machines.erase orderId
  brokerToOrder := match order.brokerOrderId with
    | some brokerOrderId => manager.brokerToOrder.erase brokerOrderId
    | none => manager.brokerToOrder
  fillIds := manager.fillIds.discardAll ((manager.fillIdsByOrder.get? orderId).getD ∅)
  fillIdsByOrder := manager.fillIdsByOrder.erase orderId
  seenReportIds := manager.seenReportIds \ (manager.reportIdsByOrder.get? orderId).getD ∅
  reportIdsByOrder := manager.reportIdsByOrder.erase orderId

inductive MarkSentOutcome (manager : OrderManager) (orderId : OrderId) (brokerOrderId : String) :
    EStateM.Result OrderError OrderManager Order → Prop
  | blank (empty : PythonText.isBlank brokerOrderId = true) :
      MarkSentOutcome manager orderId brokerOrderId
        (.error (.orderLifecycleError "broker_order_id must not be empty") manager)
  | notAdvanced (nonblank : PythonText.isBlank brokerOrderId = false) (failure : OrderError)
      (outcome : AdvanceOutcome manager orderId .sent (some brokerOrderId)
        (.error failure manager)) :
      MarkSentOutcome manager orderId brokerOrderId (.error failure manager)
  | sent (nonblank : PythonText.isBlank brokerOrderId = false) (order : Order)
      (tracked : manager.orders.get? orderId = some order) (created : order.state = .created) :
      MarkSentOutcome manager orderId brokerOrderId
        (.ok (advancedOrder order .sent (some brokerOrderId)) ((manager.moved orderId
            (advancedOrder order .sent (some brokerOrderId))).withBrokerOrder
              brokerOrderId orderId))

theorem nextState_sent {state next : OrderState} (accepted : nextState state .sent = some next) :
    state = .created ∧ next = .sent := by
  cases state <;> simp_all [nextState, duplicateTerminalEvents, transitions]

variable {manager : OrderManager}

theorem markSent_outcome (formed : manager.WellFormed) (orderId : OrderId)
    (brokerOrderId : String) :
    MarkSentOutcome manager orderId brokerOrderId
      ((markSent orderId brokerOrderId).run manager) := by
  cases blank : PythonText.isBlank brokerOrderId with
  | true =>
    simp only [markSent, blank, if_true, EStateM.run_bind, throw_run]
    exact .blank blank
  | false =>
    have unfolded : (markSent orderId brokerOrderId).run manager =
        (do
          let order ← advance orderId .sent (some brokerOrderId)
          modify fun manager => manager.withBrokerOrder brokerOrderId orderId
          return order : ManagerCall Order).run manager := by
      simp only [markSent, blank, Bool.false_eq_true, if_false, advance, EStateM.run_bind]
      cases (applyEvent orderId .sent).run manager with
      | ok state middle => rfl
      | error failure middle => rfl
    rw [unfolded, EStateM.run_bind]
    have outcome := advance_outcome formed orderId .sent (some brokerOrderId)
    generalize (advance orderId .sent (some brokerOrderId)).run manager = advanced at outcome ⊢
    cases outcome with
    | untracked missing => exact .notAdvanced blank _ (.untracked missing)
    | refused order tracked refusal => exact .notAdvanced blank _ (.refused order tracked refusal)
    | accepted order state tracked next =>
      obtain ⟨created, rfl⟩ := nextState_sent next
      exact .sent blank order tracked created

theorem requestCancel_eq_advance (intent : CancelIntent) :
    requestCancel intent = advance intent.orderId .cancelRequested :=
  rfl

inductive ReplaceOutcome (manager : OrderManager) (intent : ReplaceIntent) :
    EStateM.Result OrderError OrderManager Order → Prop
  | notApproved :
      ReplaceOutcome manager intent
        (.error (.riskRejectedOrder "risk decision is not approved") manager)
  | notAdvanced (failure : OrderError)
      (outcome : AdvanceOutcome manager intent.orderId .replaceRequested none
        (.error failure manager)) :
      ReplaceOutcome manager intent (.error failure manager)
  | requested (order : Order) (state : OrderState)
      (tracked : manager.orders.get? intent.orderId = some order)
      (next : nextState order.state .replaceRequested = some state) :
      ReplaceOutcome manager intent
        (.ok (replacedOrder order intent state)
          (manager.moved intent.orderId (replacedOrder order intent state)))

theorem requestReplace_outcome (formed : manager.WellFormed) (intent : ReplaceIntent)
    (riskDecision : RiskDecision) :
    ReplaceOutcome manager intent ((requestReplace intent riskDecision).run manager) := by
  cases approved : riskDecision.approved with
  | false =>
    simp only [requestReplace, approved, Bool.not_false, if_true, EStateM.run_bind, throw_run]
    exact .notApproved
  | true =>
    simp only [requestReplace, approved, Bool.not_true, Bool.false_eq_true, if_false,
      EStateM.run_bind]
    cases tracked : manager.orders.get? intent.orderId with
    | none =>
      rw [applyEvent_untracked (formed.machine_untracked tracked)]
      exact .notAdvanced _ (.untracked tracked)
    | some order =>
      have machine := formed.machine_tracked tracked
      cases next : nextState order.state .replaceRequested with
      | none =>
        rw [applyEvent_refused machine next]
        exact .notAdvanced _ (.refused order tracked next)
      | some state =>
        rw [applyEvent_accepted machine next]
        have stored : ({ manager with
            machines := manager.machines.set intent.orderId ⟨state⟩ } : OrderManager).orders.get?
              intent.orderId = some order := tracked
        simp only [getOrder_tracked stored]
        exact .requested order state tracked next

inductive DiscardOutcome (manager : OrderManager) (orderId : OrderId) :
    EStateM.Result OrderError OrderManager Unit → Prop
  | untracked (missing : manager.orders.get? orderId = none) :
      DiscardOutcome manager orderId (.error (.keyError orderId) manager)
  | live (order : Order) (tracked : manager.orders.get? orderId = some order)
      (nonterminal : order.state ∉ terminalOrderStates) :
      DiscardOutcome manager orderId
        (.error (.orderLifecycleError
          ("only terminal orders can be discarded: " ++ order.state.value)) manager)
  | compacted (order : Order) (tracked : manager.orders.get? orderId = some order)
      (terminal : order.state ∈ terminalOrderStates) :
      DiscardOutcome manager orderId (.ok () (manager.discarded orderId order))

theorem discardTerminalOrder_outcome (manager : OrderManager) (orderId : OrderId) :
    DiscardOutcome manager orderId ((discardTerminalOrder orderId).run manager) := by
  cases tracked : manager.orders.get? orderId with
  | none =>
    rw [discardTerminalOrder, bind_run_error (getOrder_untracked tracked)]
    exact .untracked tracked
  | some order =>
    rw [discardTerminalOrder, bind_run_ok (getOrder_tracked tracked)]
    by_cases terminal : order.state ∈ terminalOrderStates
    · simp only [terminal, not_true_eq_false, if_false]
      exact .compacted order tracked terminal
    · simp only [terminal, not_false_eq_true, if_true, EStateM.run_bind, throw_run]
      exact .live order tracked terminal

theorem WellFormed.withBrokerOrder (formed : manager.WellFormed) (brokerOrderId : String)
    (orderId : OrderId) :
    (manager.withBrokerOrder brokerOrderId orderId).WellFormed where
  machine := formed.machine
  key := formed.key
  fillIdsOwned := formed.fillIdsOwned
  reportIdsOwned := formed.reportIdsOwned

theorem WellFormed.discarded (formed : manager.WellFormed) (orderId : OrderId) (order : Order) :
    (manager.discarded orderId order).WellFormed where
  machine other := by
    simp only [OrderManager.discarded, Dict.get?_erase]
    split
    · rfl
    · exact formed.machine other
  key other found tracked := by
    simp only [OrderManager.discarded, Dict.get?_erase] at tracked
    split at tracked
    · cases tracked
    · exact formed.key other found tracked
  fillIdsOwned other ids owned := by
    simp only [OrderManager.discarded, Dict.get?_erase] at owned
    split at owned
    · cases owned
    · exact formed.fillIdsOwned other ids owned
  reportIdsOwned other ids owned := by
    simp only [OrderManager.discarded, Dict.get?_erase] at owned
    split at owned
    · cases owned
    · exact formed.reportIdsOwned other ids owned

theorem FillOutcome.formed (formed : manager.WellFormed) {order : Order}
    {report : ExecutionReport} {result : EStateM.Result OrderError OrderManager (List OrderFill)}
    (outcome : FillOutcome manager order report result) : (endState result).WellFormed := by
  cases outcome with
  | booked fillId price _ _ _ _ _ => exact formed.withFill order.orderId fillId
  | _ => exact formed

theorem WellFormed.afterReport (formed : manager.WellFormed) {orderId : OrderId} {order : Order}
    (tracked : manager.orders.get? orderId = some order) (state : OrderState)
    (report : ExecutionReport) :
    (manager.afterReport orderId (advancedOrder order state none) report).WellFormed :=
  (formed.advanced tracked state none).withReport orderId report.reportId

theorem ReportOutcome.formed (formed : manager.WellFormed) {report : ExecutionReport}
    {result : EStateM.Result OrderError OrderManager OrderProcessingResult}
    (outcome : ReportOutcome manager report result) : (endState result).WellFormed := by
  cases outcome with
  | raisedFill orderId order state _ tracked _ _ _ _ =>
    exact formed.afterReport tracked state report
  | processed orderId order state _ tracked _ _ fills after fill =>
    exact fill.formed (formed.afterReport tracked state report)
  | _ => exact formed

theorem AdvanceOutcome.formed (formed : manager.WellFormed) {orderId : OrderId}
    {event : OrderEvent} {brokerOrderId : Option String}
    {result : EStateM.Result OrderError OrderManager Order}
    (outcome : AdvanceOutcome manager orderId event brokerOrderId result) :
    (endState result).WellFormed := by
  cases outcome with
  | accepted order state tracked _ => exact formed.advanced tracked state brokerOrderId
  | _ => exact formed

/-- Each operation keeps the invariant, whether it returns or raises. -/
theorem step_wellFormed (manager : OrderManager) (command : OrderManagerCommand)
    (formed : manager.WellFormed) : (step manager command).2.WellFormed := by
  cases command with
  | createOrder intent riskDecision =>
    simp only [step, answer_state]
    cases approved : riskDecision.approved with
    | false =>
      rw [createOrder_refused approved]
      exact formed
    | true =>
      rw [createOrder_approved approved]
      exact formed.moved rfl
  | markSent orderId brokerOrderId =>
    simp only [step, answer_state]
    have outcome := markSent_outcome formed orderId brokerOrderId
    generalize (markSent orderId brokerOrderId).run manager = result at outcome ⊢
    cases outcome with
    | sent nonblank order tracked created =>
      exact (formed.advanced tracked .sent (some brokerOrderId)).withBrokerOrder
        brokerOrderId orderId
    | _ => exact formed
  | requestCancel intent =>
    simp only [step, answer_state, requestCancel_eq_advance]
    exact (advance_outcome formed intent.orderId .cancelRequested none).formed formed
  | requestReplace intent riskDecision =>
    simp only [step, answer_state]
    have outcome := requestReplace_outcome formed intent riskDecision
    generalize (requestReplace intent riskDecision).run manager = result at outcome ⊢
    cases outcome with
    | requested order state tracked next =>
      exact formed.moved (formed.key intent.orderId order tracked)
    | _ => exact formed
  | processReport report =>
    simp only [step, answer_state]
    exact (processReport_outcome formed report).formed formed
  | discardTerminalOrder orderId =>
    simp only [step, answer_state]
    have outcome := discardTerminalOrder_outcome manager orderId
    generalize (discardTerminalOrder orderId).run manager = result at outcome ⊢
    cases outcome with
    | compacted order tracked terminal => exact formed.discarded orderId order
    | _ => exact formed

theorem Reachable.formed (reachable : Reachable manager) : manager.WellFormed :=
  StepRuns.Reachable.inv reachable init_wellFormed step_wellFormed

def unitOrder : OrderIntent where
  orderId := ⟨⟨"order-1", Eq.refl false⟩⟩
  instrumentId := ⟨⟨"ES", Eq.refl false⟩⟩
  side := .buy
  quantity := 1
  valid := by decide +kernel

def sentUnitOrder : List OrderManagerCommand :=
  [.createOrder unitOrder { status := .approved }, .markSent unitOrder.orderId "broker-1"]

end Qts.OrderManager

namespace Qts.OrderManager

open RaisingCalls

def refusesFill (report : ExecutionReport) : Bool :=
  carriesFill report && (report.fillPrice.isNone || report.fillId.any PythonText.isBlank)

/-- The report is new, its order is tracked and accepts the status, and its fill is refused. -/
def FailsAfterRecording (manager : OrderManager) (report : ExecutionReport) : Prop :=
  ∃ orderId order state, manager.brokerToOrder.get? report.brokerOrderId = some orderId ∧
    manager.orders.get? orderId = some order ∧ report.reportId ∉ manager.seenReportIds ∧
    nextState order.state (eventForReport report.status) = some state ∧
    refusesFill report = true

variable {report : ExecutionReport} {manager : OrderManager}

theorem FillOutcome.refuses {order : Order}
    {result : EStateM.Result OrderError OrderManager (List OrderFill)}
    (outcome : FillOutcome manager order report result) : raised result = refusesFill report := by
  cases outcome with
  | noFill nothing => simp [refusesFill, nothing]
  | missingPrice carries missing => simp [refusesFill, carries, missing]
  | blankId fillId price id priced pos blank =>
    simp [refusesFill, carriesFill, id, pos, blank]
  | knownFill fillId price id priced pos nonblank known =>
    simp [refusesFill, carriesFill, id, priced, nonblank]
  | booked fillId price id priced pos nonblank fresh =>
    simp [refusesFill, carriesFill, id, priced, nonblank]

theorem afterReport_ne (unseen : report.reportId ∉ manager.seenReportIds) (orderId : OrderId)
    (order : Order) : manager.afterReport orderId order report ≠ manager := by
  intro same
  have recorded : report.reportId ∈ (manager.afterReport orderId order report).seenReportIds :=
    Finset.mem_insert_self _ _
  rw [same] at recorded
  exact unseen recorded

theorem ReportOutcome.unchanged_iff
    {result : EStateM.Result OrderError OrderManager OrderProcessingResult}
    (outcome : ReportOutcome manager report result) :
    (raised result = true → endState result = manager) ↔
      ¬ FailsAfterRecording manager report := by
  constructor
  · rintro unchanged ⟨orderId, order, state, mapped, tracked, unseen, next, refused⟩
    cases outcome with
    | unknownBrokerOrder unmapped => simp [unmapped] at mapped
    | untracked other otherMapped missing =>
      cases mapped.symm.trans otherMapped
      simp [missing] at tracked
    | duplicate other found otherMapped otherTracked seen => exact unseen seen
    | refused other found otherMapped otherTracked _ refusal =>
      cases mapped.symm.trans otherMapped
      cases tracked.symm.trans otherTracked
      simp [refusal] at next
    | raisedFill other found otherState _ _ unseen _ failure fill =>
      exact afterReport_ne unseen _ _ (unchanged rfl)
    | processed other found otherState _ _ unseen _ fills after fill =>
      simpa [refused] using fill.refuses
  · intro sound failed
    cases outcome with
    | raisedFill orderId order state mapped tracked unseen next failure fill =>
      exact absurd ⟨orderId, order, state, mapped, tracked, unseen, next,
        fill.refuses.symm.trans rfl⟩ sound
    | duplicate => simp at failed
    | processed => simp at failed
    | _ => rfl

/-- In every manager that a run of operations reaches, a raising report leaves the manager as
it was exactly when the failure is not that of a fill checked after the recording. -/
theorem failed_report_unchanged_iff (commands : List OrderManagerCommand) (report : ExecutionReport)
    : let manager := StepRuns.final step init commands
    let result := (processReport report).run manager
    (raised result = true → endState result = manager) ↔
      ¬ FailsAfterRecording manager report := by
  intro manager result
  have formed : manager.WellFormed := Reachable.formed ⟨commands, rfl⟩
  exact (processReport_outcome formed report).unchanged_iff

def unitFill (price : Option Decimal) : ExecutionReport where
  reportId := "report-1"
  brokerOrderId := "broker-1"
  status := .filled
  filledQuantity := 1
  fillPrice := price
  fillId := some "fill-1"
  valid := ExecutionReportFields.valid_of_not_rejected
    (show PythonText.isBlank "report-1" = false by decide)
    (show PythonText.isBlank "broker-1" = false by decide)
    (by norm_num) (by norm_num) (by norm_num) nofun

/-- The report without a price raises and still changes the manager; delivered again with its
price it is dropped, so the fill is never booked. -/
theorem unpriced_fill_lost :
    let manager := StepRuns.final step init sentUnitOrder
    let failed := step manager (.processReport (unitFill none))
    failed.1 = .raised missingFillPrice ∧ failed.2 ≠ manager ∧
      (step failed.2 (.processReport (unitFill (some 100)))).1 =
        .processed {
          order := advancedOrder (createdOrder unitOrder) .filled (some "broker-1") } := by
  refine ⟨by decide +kernel, ?_, by decide +kernel⟩
  intro same
  exact absurd (congrArg seenReportIds same) (by decide +kernel)

end Qts.OrderManager
