import Qts.OrderManagerActor

/-! # What an order manager recalls of its messages -/

namespace Qts

open Finset

namespace OrderManagerActor

open RaisingCalls

/-- What a manager remembers comes from the given messages. -/
structure Recalls (messages : List OrderManagerMessage) (manager : OrderManager) : Prop where
  formed : manager.WellFormed
  orders : ∀ orderId order, manager.orders.get? orderId = some order →
    ∃ msg, .submit msg ∈ messages ∧ msg.intent.orderId = orderId
  reports : ∀ reportId ∈ manager.seenReportIds,
    ∃ report, .report report ∈ messages ∧ report.reportId = reportId
  fillIds : ∀ fillId ∈ manager.fillIds.seen,
    ∃ report, .report report ∈ messages ∧ report.fillId = some fillId

variable {messages : List OrderManagerMessage}

theorem init_recalls (messages : List OrderManagerMessage) : Recalls messages .init where
  formed := OrderManager.init_wellFormed
  orders _ _ tracked := by cases tracked
  reports _ seen := absurd seen (notMem_empty _)
  fillIds _ seen := absurd seen (notMem_empty _)

namespace Recalls

variable {manager : OrderManager}

theorem mono (recalls : Recalls messages manager) {more : List OrderManagerMessage}
    (among : messages ⊆ more) : Recalls more manager where
  formed := recalls.formed
  orders orderId order tracked := by
    obtain ⟨msg, told, same⟩ := recalls.orders orderId order tracked
    exact ⟨msg, among told, same⟩
  reports reportId seen := by
    obtain ⟨report, told, same⟩ := recalls.reports reportId seen
    exact ⟨report, among told, same⟩
  fillIds fillId seen := by
    obtain ⟨report, told, same⟩ := recalls.fillIds fillId seen
    exact ⟨report, among told, same⟩

variable {orderId : OrderId}

theorem moved (recalls : Recalls messages manager) {order : Order} (key : order.orderId = orderId)
    (told : ∃ msg, .submit msg ∈ messages ∧ msg.intent.orderId = orderId) :
    Recalls messages (manager.moved orderId order) where
  formed := recalls.formed.moved key
  orders other found tracked := by
    by_cases same : other = orderId
    · rw [same]
      exact told
    · simp only [OrderManager.moved] at tracked
      rw [Dict.get?_set_of_ne _ _ same] at tracked
      exact recalls.orders other found tracked
  reports := recalls.reports
  fillIds := recalls.fillIds

theorem advanced (recalls : Recalls messages manager) {order : Order}
    (tracked : manager.orders.get? orderId = some order) (state : OrderState)
    (brokerOrderId : Option String) :
    Recalls messages
      (manager.moved orderId (OrderManager.advancedOrder order state brokerOrderId)) :=
  recalls.moved (recalls.formed.key orderId order tracked)
    (recalls.orders orderId order tracked)

variable {report : ExecutionReport}

section

variable (recalls : Recalls messages manager)

include recalls

theorem withReport (orderId : OrderId) (told : .report report ∈ messages) :
    Recalls messages (manager.withReport orderId report.reportId) where
  formed := recalls.formed.withReport orderId report.reportId
  orders := recalls.orders
  reports reportId seen := by
    rcases mem_insert.mp seen with rfl | before
    · exact ⟨report, told, rfl⟩
    · exact recalls.reports reportId before
  fillIds := recalls.fillIds

theorem withFill (orderId : OrderId) (told : .report report ∈ messages) {fillId : String}
    (id : report.fillId = some fillId) :
    Recalls messages (manager.withFill orderId fillId) where
  formed := recalls.formed.withFill orderId fillId
  orders := recalls.orders
  reports := recalls.reports
  fillIds other seen := by
    rcases mem_insert.mp seen with rfl | before
    · exact ⟨report, told, id⟩
    · exact recalls.fillIds other before

theorem afterReport {order : Order} (tracked : manager.orders.get? orderId = some order)
    (state : OrderState) (told : .report report ∈ messages) :
    Recalls messages
      (manager.afterReport orderId (OrderManager.advancedOrder order state none) report) :=
  (recalls.advanced tracked state none).withReport orderId told

theorem discarded (orderId : OrderId) (order : Order) :
    Recalls messages (manager.discarded orderId order) where
  formed := recalls.formed.discarded orderId order
  orders other found tracked := by
    simp only [OrderManager.discarded, Dict.get?_erase] at tracked
    split at tracked
    · cases tracked
    · exact recalls.orders other found tracked
  reports reportId seen := recalls.reports reportId (mem_sdiff.mp seen).1
  fillIds fillId seen := by
    simp only [OrderManager.discarded, FillIdempotencyStore.discardAll_seen] at seen
    exact recalls.fillIds fillId (mem_sdiff.mp seen).1

end

end Recalls

theorem createOrder_recalls {msg : SubmitOrder} (told : .submit msg ∈ messages) :
    Keeps (Recalls messages) (OrderManager.createOrder msg.intent msg.riskDecision) := by
  intro manager recalls
  cases approved : msg.riskDecision.approved with
  | false =>
    rw [OrderManager.createOrder_refused approved]
    exact recalls
  | true =>
    rw [OrderManager.createOrder_approved approved]
    exact recalls.moved rfl ⟨msg, told, rfl⟩

variable (orderId : OrderId)

theorem getOrder_recalls : Keeps (Recalls messages) (OrderManager.getOrder orderId) := by
  intro manager recalls
  cases tracked : manager.orders.get? orderId with
  | none =>
    rw [OrderManager.getOrder_untracked tracked]
    exact recalls
  | some order =>
    rw [OrderManager.getOrder_tracked tracked]
    exact recalls

theorem markSent_recalls (brokerOrderId : String) :
    Keeps (Recalls messages) (OrderManager.markSent orderId brokerOrderId) := by
  intro manager recalls
  have outcome := OrderManager.markSent_outcome recalls.formed orderId brokerOrderId
  generalize (OrderManager.markSent orderId brokerOrderId).run manager = result at outcome ⊢
  cases outcome with
  | sent nonblank order tracked created =>
    have sent := recalls.advanced tracked .sent (some brokerOrderId)
    exact ⟨sent.formed.withBrokerOrder brokerOrderId orderId, sent.orders, sent.reports,
      sent.fillIds⟩
  | _ => exact recalls

theorem requestCancel_recalls (intent : CancelIntent) :
    Keeps (Recalls messages) (OrderManager.requestCancel intent) := by
  intro manager recalls
  rw [OrderManager.requestCancel_eq_advance]
  have outcome :=
    OrderManager.advance_outcome recalls.formed intent.orderId .cancelRequested none
  generalize (OrderManager.advance intent.orderId .cancelRequested none).run manager = result
    at outcome ⊢
  cases outcome with
  | accepted order state tracked next => exact recalls.advanced tracked state none
  | _ => exact recalls

theorem requestReplace_recalls (intent : ReplaceIntent) (riskDecision : RiskDecision) :
    Keeps (Recalls messages) (OrderManager.requestReplace intent riskDecision) := by
  intro manager recalls
  have outcome := OrderManager.requestReplace_outcome recalls.formed intent riskDecision
  generalize (OrderManager.requestReplace intent riskDecision).run manager = result
    at outcome ⊢
  cases outcome with
  | requested order state tracked next =>
    exact recalls.moved (recalls.formed.key intent.orderId order tracked)
      (recalls.orders intent.orderId order tracked)
  | _ => exact recalls

theorem processReport_recalls {report : ExecutionReport} (told : .report report ∈ messages) :
    Keeps (Recalls messages) (OrderManager.processReport report) := by
  intro manager recalls
  have outcome := OrderManager.processReport_outcome recalls.formed report
  generalize (OrderManager.processReport report).run manager = result at outcome ⊢
  cases outcome with
  | raisedFill orderId order state mapped tracked unseen next failure fill =>
    exact recalls.afterReport tracked state told
  | processed orderId order state mapped tracked unseen next fills after fill =>
    have recorded := recalls.afterReport tracked state told
    cases fill with
    | booked fillId price id priced pos nonblank fresh =>
      exact recorded.withFill order.orderId told id
    | _ => exact recorded
  | _ => exact recalls

theorem discardTerminalOrder_recalls :
    Keeps (Recalls messages) (OrderManager.discardTerminalOrder orderId) := by
  intro manager recalls
  have outcome := OrderManager.discardTerminalOrder_outcome manager orderId
  generalize (OrderManager.discardTerminalOrder orderId).run manager = result at outcome ⊢
  cases outcome with
  | compacted order tracked terminal => exact recalls.discarded orderId order
  | _ => exact recalls

theorem onManager_recalls {Value : Type} {call : ManagerCall Value}
    (keeps : Keeps (Recalls messages) call) :
    Keeps (fun actor => Recalls messages actor.manager) (onManager call) :=
  keeps_onManager (fun _ recalls => recalls) (fun _ _ _ after => after) keeps

theorem recalls_stable : Stable fun actor => Recalls messages actor.manager where
  withExecution _ _ recalls := recalls
  withRoutes _ _ recalls := recalls
  getOrder orderId := onManager_recalls (getOrder_recalls orderId)
  markSent orderId brokerOrderId := onManager_recalls (markSent_recalls orderId brokerOrderId)
  requestCancel intent := onManager_recalls (requestCancel_recalls intent)
  requestReplace intent riskDecision :=
    onManager_recalls (requestReplace_recalls intent riskDecision)

theorem handleResult_manager (report : ExecutionReport) (actor : OrderManagerActor)
    (result : EStateM.Result OrderError OrderManager OrderProcessingResult) :
    (endState (handleResult report actor result)).manager = endState result := by
  cases result with
  | ok processed manager =>
    unfold handleResult
    dsimp only
    split <;> rfl
  | error failure manager => cases failure <;> rfl

theorem handleReport_recalls {report : ExecutionReport} (told : .report report ∈ messages) :
    Keeps (fun actor => Recalls messages actor.manager) (handleReport report) := by
  refine Keeps.bind ?_ fun fills => Keeps.modify fun actor recalls => recalls
  intro actor recalls
  have processed := processReport_recalls told actor.manager recalls
  rw [← handleResult_manager report actor] at processed
  exact processed

theorem compactForStreaming_recalls (orderIds : List OrderId) :
    Keeps (fun actor => Recalls messages actor.manager) (compactForStreaming orderIds) := by
  refine Keeps.bind ?_ fun _ => Keeps.modify fun actor recalls => recalls
  exact Keeps.forIn fun orderId => onManager_recalls (discardTerminalOrder_recalls orderId)

theorem handle_recalls {msg : OrderManagerMessage} (told : msg ∈ messages) :
    Keeps (fun actor => Recalls messages actor.manager) (handle msg) := by
  cases msg with
  | submit msg =>
    exact recalls_stable.handleSubmit msg fun _ _ _ =>
      onManager_recalls (createOrder_recalls told)
  | cancel msg => exact recalls_stable.handleCancel msg
  | replace msg => exact recalls_stable.handleReplace msg
  | report report => exact handleReport_recalls told
  | compactForStreaming orderIds => exact compactForStreaming_recalls orderIds

theorem run_recalls {actor : OrderManagerActor} {earlier : List OrderManagerMessage}
    (recalls : Recalls earlier actor.manager) (messages : List OrderManagerMessage) :
    Recalls (earlier ++ messages) (StepRuns.final step actor messages).manager := by
  induction messages generalizing actor earlier with
  | nil => exact recalls.mono (List.subset_append_left _ _)
  | cons msg messages ih =>
    have told : msg ∈ earlier ++ [msg] := List.mem_append_right _ List.mem_cons_self
    have handled : Recalls (earlier ++ [msg]) (step actor msg).2.manager := by
      rw [step, answer_state]
      exact handle_recalls told actor (recalls.mono (List.subset_append_left _ _))
    rw [List.append_cons]
    exact ih handled

end OrderManagerActor

end Qts
