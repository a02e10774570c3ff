import Qts.OrderManagerEffects

/-! # Refused replacements -/

namespace Qts.OrderManager

open RaisingCalls

inductive OrderChange (orderId : OrderId) (order : Order) :
    OrderManagerCommand → Option Order → Prop
  | kept (command : OrderManagerCommand) : OrderChange orderId order command (some order)
  | recreated (intent : OrderIntent) (riskDecision : RiskDecision)
      (same : intent.orderId = orderId) :
      OrderChange orderId order (.createOrder intent riskDecision) (some (createdOrder intent))
  | sent (brokerOrderId : String) (created : order.state = .created) :
      OrderChange orderId order (.markSent orderId brokerOrderId)
        (some (advancedOrder order .sent (some brokerOrderId)))
  | advanced (command : OrderManagerCommand) (event : OrderEvent)
      (notReplace : event ≠ .replaceRequested) (state : OrderState)
      (next : nextState order.state event = some state) :
      OrderChange orderId order command (some (advancedOrder order state none))
  | replaced (intent : ReplaceIntent) (riskDecision : RiskDecision)
      (same : intent.orderId = orderId) (state : OrderState)
      (next : nextState order.state .replaceRequested = some state) :
      OrderChange orderId order (.requestReplace intent riskDecision)
        (some (replacedOrder order intent state))
  | discarded (terminal : order.state ∈ terminalOrderStates) :
      OrderChange orderId order (.discardTerminalOrder orderId) none

theorem eventForReport_ne_replaceRequested (status : ExecutionReportStatus) :
    eventForReport status ≠ .replaceRequested := by
  cases status <;> decide

variable {manager : OrderManager} {orderId : OrderId} {order : Order}

theorem orders_moved (tracked : manager.orders.get? orderId = some order) (target : OrderId)
    (next : Order) :
    (target ≠ orderId ∧ (manager.moved target next).orders.get? orderId = some order) ∨
      target = orderId ∧ (manager.moved target next).orders.get? orderId = some next := by
  by_cases same : target = orderId
  · subst same
    exact .inr ⟨rfl, Dict.get?_set_self _ _ _⟩
  · exact .inl ⟨same, (Dict.get?_set_of_ne _ _ (Ne.symm same)).trans tracked⟩

theorem step_change (formed : manager.WellFormed)
    (tracked : manager.orders.get? orderId = some order) (command : OrderManagerCommand) :
    OrderChange orderId order command ((step manager command).2.orders.get? orderId) := by
  have effect := step_effect formed command
  generalize (step manager command).1 = answer at effect
  generalize (step manager command).2 = after at effect ⊢
  cases effect with
  | refused command error => exact tracked ▸ .kept command
  | created intent riskDecision approved =>
    obtain ⟨-, stored⟩ | ⟨same, stored⟩ := orders_moved tracked intent.orderId (createdOrder intent)
    · exact stored ▸ .kept _
    · exact stored ▸ .recreated intent riskDecision same
  | sent target brokerOrderId nonblank found foundTracked created =>
    obtain ⟨-, stored⟩ | ⟨rfl, stored⟩ := orders_moved tracked target
      (advancedOrder found .sent (some brokerOrderId))
    · exact stored ▸ .kept _
    · cases tracked.symm.trans foundTracked
      exact stored ▸ .sent brokerOrderId created
  | cancelRequested intent found state foundTracked next =>
    obtain ⟨-, stored⟩ | ⟨rfl, stored⟩ := orders_moved tracked intent.orderId
      (advancedOrder found state none)
    · exact stored ▸ .kept _
    · cases tracked.symm.trans foundTracked
      exact stored ▸ .advanced _ .cancelRequested (by decide) state next
  | replaceRequested intent riskDecision found state foundTracked next =>
    obtain ⟨-, stored⟩ | ⟨rfl, stored⟩ := orders_moved tracked intent.orderId
      (replacedOrder found intent state)
    · exact stored ▸ .kept _
    · cases tracked.symm.trans foundTracked
      exact stored ▸ .replaced intent riskDecision rfl state next
  | duplicateReport report found => exact tracked ▸ .kept _
  | reported report target found state mapped foundTracked unseen next answer unfilled =>
    obtain ⟨-, stored⟩ | ⟨rfl, stored⟩ := orders_moved tracked target
      (advancedOrder found state none)
    · exact stored ▸ .kept _
    · cases tracked.symm.trans foundTracked
      exact stored ▸ .advanced _ _ (eventForReport_ne_replaceRequested _) state next
  | filled report target found state mapped foundTracked unseen next fillId price fresh =>
    obtain ⟨-, stored⟩ | ⟨rfl, stored⟩ := orders_moved tracked target
      (advancedOrder found state none)
    · exact stored ▸ .kept _
    · cases tracked.symm.trans foundTracked
      exact stored ▸ .advanced _ _ (eventForReport_ne_replaceRequested _) state next
  | discarded target found foundTracked terminal =>
    simp only [OrderManager.discarded, Dict.get?_erase]
    split
    · next same =>
      subst same
      cases tracked.symm.trans foundTracked
      exact .discarded terminal
    · exact tracked ▸ .kept _

theorem step_appears (formed : manager.WellFormed)
    (untracked : manager.orders.get? orderId = none) {command : OrderManagerCommand}
    (appeared : (step manager command).2.orders.get? orderId = some order) :
    order.state = .created := by
  have other : ∀ (target : OrderId) (found next : Order),
      manager.orders.get? target = some found →
      (manager.moved target next).orders.get? orderId ≠ some order := by
    intro target found next foundTracked stored
    by_cases same : orderId = target
    · subst same
      cases untracked.symm.trans foundTracked
    · cases untracked.symm.trans ((Dict.get?_set_of_ne _ _ same).symm.trans stored)
  have effect := step_effect formed command
  generalize (step manager command).1 = answer at effect
  generalize (step manager command).2 = after at effect appeared
  cases effect with
  | refused command error => cases untracked.symm.trans appeared
  | created intent riskDecision approved =>
    by_cases same : orderId = intent.orderId
    · subst same
      cases (Dict.get?_set_self _ _ _).symm.trans appeared
      rfl
    · cases untracked.symm.trans ((Dict.get?_set_of_ne _ _ same).symm.trans appeared)
  | sent target brokerOrderId nonblank found tracked created =>
    exact absurd appeared (other target found _ tracked)
  | cancelRequested intent found state tracked next =>
    exact absurd appeared (other intent.orderId found _ tracked)
  | replaceRequested intent riskDecision found state tracked next =>
    exact absurd appeared (other intent.orderId found _ tracked)
  | duplicateReport report found => cases untracked.symm.trans appeared
  | reported report target found state mapped tracked unseen next answer unfilled =>
    exact absurd appeared (other target found _ tracked)
  | filled report target found state mapped tracked unseen next fillId price fresh =>
    exact absurd appeared (other target found _ tracked)
  | discarded target found tracked terminal =>
    simp only [OrderManager.discarded, Dict.get?_erase] at appeared
    split at appeared
    · cases appeared
    · cases untracked.symm.trans appeared

theorem nextState_replaceRequested {state : OrderState} {event : OrderEvent}
    (next : nextState state event = some .replaceRequested) : event = .replaceRequested := by
  cases state <;> cases event <;>
    simp_all [nextState, duplicateTerminalEvents, transitions]

/-- An order that waits for a replacement is what the last accepted replace request has made of
the order it found: the requested quantity stands in it, and the earlier state is gone. -/
theorem replaceRequested_origin (commands : List OrderManagerCommand)
    (tracked : (StepRuns.final step init commands).orders.get? orderId = some order)
    (requested : order.state = .replaceRequested) :
    ∃ (before later : List OrderManagerCommand) (intent : ReplaceIntent)
      (riskDecision : RiskDecision) (original : Order),
      commands = before ++ .requestReplace intent riskDecision :: later ∧
        (StepRuns.final step init before).orders.get? orderId = some original ∧
        order = replacedOrder original intent .replaceRequested := by
  induction commands using List.reverseRecOn generalizing order with
  | nil => simp [init] at tracked
  | append_singleton commands command ih =>
    have formed : (StepRuns.final step init commands).WellFormed :=
      StepRuns.final_invariant step_wellFormed init_wellFormed commands
    rw [StepRuns.final_append] at tracked
    cases found : (StepRuns.final step init commands).orders.get? orderId with
    | none =>
      cases requested.symm.trans (step_appears formed found tracked)
    | some earlier =>
      have change := step_change formed found command
      rw [StepRuns.final_cons, StepRuns.final_nil] at tracked
      rw [tracked] at change
      cases change with
      | kept =>
        obtain ⟨before, later, intent, riskDecision, original, rfl, stored, same⟩ :=
          ih found requested
        exact ⟨before, later ++ [command], intent, riskDecision, original,
          by rw [List.append_assoc, List.cons_append], stored, same⟩
      | recreated intent riskDecision same => cases requested
      | sent brokerOrderId created => cases requested
      | advanced command event notReplace state next =>
        obtain rfl : state = .replaceRequested := requested
        exact absurd (nextState_replaceRequested next) notReplace
      | replaced intent riskDecision same state next =>
        obtain rfl : state = .replaceRequested := requested
        exact ⟨commands, [], intent, riskDecision, earlier, rfl, found, rfl⟩

/-- A command that drops the order under an id or puts a new one there. -/
def Retires (orderId : OrderId) (command : OrderManagerCommand) : Prop :=
  command = .discardTerminalOrder orderId ∨
    ∃ intent riskDecision, command = .createOrder intent riskDecision ∧ intent.orderId = orderId

section

variable (formed : manager.WellFormed) (tracked : manager.orders.get? orderId = some order)
  (rejected : order.state = .rejected)

include formed tracked rejected

theorem step_rejected {command : OrderManagerCommand} (kept : ¬ Retires orderId command) :
    (step manager command).2.orders.get? orderId = some order := by
  have change := step_change formed tracked command
  generalize (step manager command).2.orders.get? orderId = after at change ⊢
  cases change with
  | kept => rfl
  | recreated intent riskDecision same => exact absurd (.inr ⟨intent, riskDecision, rfl, same⟩) kept
  | sent brokerOrderId created => cases rejected.symm.trans created
  | advanced command event notReplace state next =>
    rw [rejected] at next
    obtain rfl := nextState_rejected next
    cases order
    cases rejected
    rfl
  | replaced intent riskDecision same state next =>
    rw [rejected] at next
    cases next
  | discarded terminal => exact absurd (.inl rfl) kept

theorem final_rejected {commands : List OrderManagerCommand}
    (kept : ∀ command ∈ commands, ¬ Retires orderId command) :
    (StepRuns.final step manager commands).orders.get? orderId = some order := by
  induction commands generalizing manager with
  | nil => exact tracked
  | cons command commands ih =>
    exact ih (step_wellFormed manager command formed)
      (step_rejected formed tracked rejected (kept command List.mem_cons_self))
      fun later mem => kept later (List.mem_cons_of_mem _ mem)

end

theorem processReport_refused (formed : manager.WellFormed) {report : ExecutionReport}
    (tracked : manager.orders.get? orderId = some order)
    (mapped : manager.brokerToOrder.get? report.brokerOrderId = some orderId)
    (unseen : report.reportId ∉ manager.seenReportIds)
    (refused : nextState order.state (eventForReport report.status) = none) :
    step manager (.processReport report) =
      (.raised (invalidTransition order.state (eventForReport report.status)), manager) := by
  simp only [step]
  rw [processReport_mapped mapped unseen, bind_run_error (advance_refused formed tracked refused _)]
  rfl

theorem processReport_moves (formed : manager.WellFormed) {report : ExecutionReport}
    {state : OrderState} (tracked : manager.orders.get? orderId = some order)
    (mapped : manager.brokerToOrder.get? report.brokerOrderId = some orderId)
    (unseen : report.reportId ∉ manager.seenReportIds)
    (next : nextState order.state (eventForReport report.status) = some state) :
    (step manager (.processReport report)).2.orders.get? orderId =
      some (advancedOrder order state none) := by
  simp only [step, answer_state]
  rw [processReport_mapped mapped unseen, bind_run_ok (advance_accepted formed tracked next _)]
  simp only [EStateM.run_bind, EStateM.run_modify, EStateM.run_pure]
  have fill := fillsForReport_outcome (manager.afterReport orderId (advancedOrder order state none)
    report) (advancedOrder order state none) report
  unfold afterReport at fill
  generalize (fillsForReport _ report).run _ = booked at fill ⊢
  cases fill <;> exact Dict.get?_set_self _ _ _

/-- No cancel request and no new report but a repeated refusal is accepted for an order: each
raises and changes nothing. -/
def Ended (manager : OrderManager) (orderId : OrderId) : Prop :=
  (∀ intent : CancelIntent, intent.orderId = orderId → step manager (.requestCancel intent) =
        (.raised (invalidTransition .rejected .cancelRequested), manager)) ∧
    ∀ report : ExecutionReport, manager.brokerToOrder.get? report.brokerOrderId = some orderId →
      report.reportId ∉ manager.seenReportIds → report.status ≠ .rejected →
        step manager (.processReport report) =
          (.raised (invalidTransition .rejected (eventForReport report.status)), manager)

theorem ended_of_rejected (formed : manager.WellFormed)
    (tracked : manager.orders.get? orderId = some order) (rejected : order.state = .rejected) :
    manager.Ended orderId := by
  refine ⟨?_, ?_⟩
  · rintro intent rfl
    have refused : nextState order.state .cancelRequested = none := by
      rw [rejected]
      rfl
    simp only [step, requestCancel_eq_advance, advance_refused formed tracked refused,
      answer, rejected]
  · intro report mapped unseen other
    have refused : nextState order.state (eventForReport report.status) = none := by
      rw [rejected]
      cases status : report.status <;> first | rfl | exact absurd status other
    rw [processReport_refused formed tracked mapped unseen refused, rejected]

/-- A refused replacement ends the order.  The order holds what the replace request has put into
it, and becomes rejected; until it is retired it stays so, and takes no cancel request and no
fill. -/
theorem rejected_replace_endsOrder {commands later : List OrderManagerCommand} {orderId : OrderId}
    {order : Order} {report : ExecutionReport}
    (tracked : (StepRuns.final step init commands).orders.get? orderId = some order)
    (requested : order.state = .replaceRequested)
    (mapped : (StepRuns.final step init commands).brokerToOrder.get? report.brokerOrderId =
      some orderId) (unseen : report.reportId ∉ (StepRuns.final step init commands).seenReportIds)
    (refusal : report.status = .rejected) (kept : ∀ command ∈ later, ¬ Retires orderId command) :
    (∃ (before between : List OrderManagerCommand) (intent : ReplaceIntent)
        (riskDecision : RiskDecision) (original : Order),
      commands = before ++ .requestReplace intent riskDecision :: between ∧
        (StepRuns.final step init before).orders.get? orderId = some original ∧
        order = replacedOrder original intent .replaceRequested) ∧
      (StepRuns.final step init (commands ++ .processReport report :: later)).orders.get? orderId =
        some (advancedOrder order .rejected none) ∧
      (StepRuns.final step init (commands ++ .processReport report :: later)).Ended orderId := by
  have formed : (StepRuns.final step init commands).WellFormed :=
    StepRuns.final_invariant step_wellFormed init_wellFormed commands
  have next : nextState order.state (eventForReport report.status) = some .rejected := by
    rw [requested, refusal]
    rfl
  have moved := processReport_moves formed tracked mapped unseen next
  have after := final_rejected (step_wellFormed _ (.processReport report) formed) moved rfl kept
  rw [StepRuns.final_append, StepRuns.final_cons]
  refine ⟨replaceRequested_origin commands tracked requested, after, ?_⟩
  exact ended_of_rejected (StepRuns.final_invariant step_wellFormed
    (step_wellFormed _ (.processReport report) formed) later) after rfl

def workingUnitOrder : Order :=
  advancedOrder (createdOrder unitOrder) .sent (some "broker-1")

def twoUnits : ReplaceIntent :=
  ⟨unitOrder.orderId, 2, Eq.refl true⟩

def replacedUnitOrder : List OrderManagerCommand :=
  sentUnitOrder ++ [.requestReplace twoUnits { status := .approved }]

def refusedReplacement : ExecutionReport where
  reportId := "report-1"
  brokerOrderId := "broker-1"
  status := .rejected
  reasonCode := some "REPLACE_REFUSED"
  failureReason := some "replacement refused"
  valid := by decide +kernel

def restingFill : ExecutionReport where
  reportId := "report-2"
  brokerOrderId := "broker-1"
  status := .filled
  filledQuantity := 1
  fillPrice := some 100
  fillId := some "fill-1"
  valid := by decide +kernel

theorem rejected_replace_endsOrder_unitOrder :
    (∃ (before between : List OrderManagerCommand) (intent : ReplaceIntent)
        (riskDecision : RiskDecision) (original : Order),
      replacedUnitOrder = before ++ .requestReplace intent riskDecision :: between ∧
        (StepRuns.final step init before).orders.get? unitOrder.orderId = some original ∧
        replacedOrder workingUnitOrder twoUnits .replaceRequested =
          replacedOrder original intent .replaceRequested) ∧
      (StepRuns.final step init
          (replacedUnitOrder ++ [.processReport refusedReplacement])).orders.get?
        unitOrder.orderId =
          some (advancedOrder (replacedOrder workingUnitOrder twoUnits .replaceRequested)
            .rejected none) ∧
      (StepRuns.final step init
        (replacedUnitOrder ++ [.processReport refusedReplacement])).Ended unitOrder.orderId :=
  rejected_replace_endsOrder (by decide +kernel) rfl (by decide +kernel) (by decide +kernel) rfl
    (fun _ mem => absurd mem List.not_mem_nil)

/-- The order for one unit works until two units are requested instead.  The broker refuses, and
the order is terminal with the quantity two; the fill and the cancellation of the unit that still
rests at the broker are refused. -/
theorem refusedReplacement_endsUnitOrder :
    let working := StepRuns.final step init sentUnitOrder
    let requested := StepRuns.final step init replacedUnitOrder
    let refused := StepRuns.final step init
      (replacedUnitOrder ++ [.processReport refusedReplacement])
    (working.orders.get? unitOrder.orderId).map
        (fun order => (order.state, order.intent.quantity)) =
        some (.sent, 1) ∧
      (requested.orders.get? unitOrder.orderId).map (·.state) = some .replaceRequested ∧
      (refused.orders.get? unitOrder.orderId).map
          (fun order => (order.state, order.intent.quantity)) = some (.rejected, 2) ∧
      OrderState.rejected ∈ terminalOrderStates ∧
      (step refused (.processReport restingFill)).1 =
        .raised (.orderTransitionError "invalid order transition: rejected -> filled") ∧
      (step refused (.requestCancel ⟨unitOrder.orderId, none⟩)).1 =
        .raised (.orderTransitionError
          "invalid order transition: rejected -> cancel_requested") := by
  decide +kernel

end Qts.OrderManager
