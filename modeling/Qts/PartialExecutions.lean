import Qts.ExecutionStaging
import Qts.LifecycleRefusals

/-! # Orders that are executed in parts -/

namespace Qts.IbkrFeed

open RaisingCalls IbkrCallbacks OrderManager

def fillsOf (delivery : ReportDelivery) : List OrderFill :=
  match answerTo delivery with
  | .processed result => result.fills
  | _ => []

def filledQuantity (run : List ReportDelivery) : Decimal :=
  ((run.flatMap fillsOf).map fun fill => fill.quantity).sum

def managerAfter (delivery : ReportDelivery) : OrderManager :=
  (OrderManager.step delivery.manager (.processReport delivery.report)).2

/-- After each delivery the order is FILLED only at its full quantity, and PARTIALLY_FILLED
while the filled quantity is positive and smaller. -/
def StateFollowsFills (quantity : Decimal) (orderId : OrderId) (run : List ReportDelivery) :
    Prop :=
  ∀ first delivery rest, run = first ++ delivery :: rest →
    ∃ order, (managerAfter delivery).orders.get? orderId = some order ∧
      (order.state = .filled → filledQuantity (first ++ [delivery]) = quantity) ∧
      (0 < filledQuantity (first ++ [delivery]) →
        filledQuantity (first ++ [delivery]) < quantity → order.state = .partiallyFilled)

structure OrderExecutions (quantity : Decimal) where
  brokerOrderId : String
  nonblank : PythonText.isBlank brokerOrderId = false
  executions : List IbkrExecutionPayload
  sameOrder : ∀ execution ∈ executions, execution.brokerOrderId = brokerOrderId
  within : (executions.map fun execution => execution.filledQuantity).sum ≤ quantity

def BooksWholeOrder (quantity : Decimal) (feed : IbkrFeed) (event : IbkrFeedEvent) : Prop :=
  ∀ execution ∈ feed.calls.booked event, execution.filledQuantity = quantity

theorem everyStep_booksWholeOrder (quantity : Decimal) (feed : IbkrFeed)
    (events : List IbkrFeedEvent) :
    StepRuns.EveryStep step (BooksWholeOrder quantity) feed events ↔
      ∀ execution ∈ bookings feed events, execution.filledQuantity = quantity := by
  induction events generalizing feed with
  | nil => simp [bookings]
  | cons event events ih =>
    simp only [StepRuns.everyStep_cons, ih, BooksWholeOrder, bookings, List.mem_append]
    constructor
    · rintro ⟨now, later⟩ execution (mem | mem)
      · exact now execution mem
      · exact later execution mem
    · intro whole
      exact ⟨fun execution mem => whole execution (Or.inl mem),
        fun execution mem => whole execution (Or.inr mem)⟩

def sendOrder (intent : OrderIntent) (brokerOrderId : String) : List OrderManagerCommand :=
  [.createOrder intent { status := .approved }, .markSent intent.orderId brokerOrderId]

def sentManager (intent : OrderIntent) (brokerOrderId : String) : OrderManager :=
  StepRuns.final OrderManager.step init (sendOrder intent brokerOrderId)

theorem sentManager_eq (intent : OrderIntent) {brokerOrderId : String}
    (nonblank : PythonText.isBlank brokerOrderId = false) :
    sentManager intent brokerOrderId =
      ((init.moved intent.orderId (createdOrder intent)).moved intent.orderId
        (advancedOrder (createdOrder intent) .sent (some brokerOrderId))).withBrokerOrder
          brokerOrderId intent.orderId := by
  have approved : ({ status := .approved } : RiskDecision).approved = true := rfl
  have formed : (init.moved intent.orderId (createdOrder intent)).WellFormed :=
    init_wellFormed.moved rfl
  have tracked : (init.moved intent.orderId (createdOrder intent)).orders.get? intent.orderId =
      some (createdOrder intent) := Dict.get?_set_self _ _ _
  have outcome := markSent_outcome formed intent.orderId brokerOrderId
  simp only [sentManager, sendOrder, StepRuns.final_cons, StepRuns.final_nil, OrderManager.step,
    answer_state, createOrder_approved approved, endState_ok]
  generalize (markSent intent.orderId brokerOrderId).run
    (init.moved intent.orderId (createdOrder intent)) = result at outcome ⊢
  cases outcome with
  | blank empty => rw [nonblank] at empty; cases empty
  | notAdvanced _ failure advance =>
    cases advance with
    | untracked missing => rw [tracked] at missing; cases missing
    | refused order found refusal =>
      cases tracked.symm.trans found
      cases refusal
  | sent _ order found created =>
    cases tracked.symm.trans found
    rfl

theorem first_delivery (intent : OrderIntent) {brokerOrderId : String}
    (nonblank : PythonText.isBlank brokerOrderId = false) {execution : IbkrExecutionPayload}
    (sameOrder : execution.brokerOrderId = brokerOrderId) {report : ExecutionReport}
    (books : BooksExecution execution report) :
    (∃ order, (managerAfter ⟨sentManager intent brokerOrderId, report⟩).orders.get?
        intent.orderId = some order ∧ order.state = .filled) ∧
      filledQuantity [⟨sentManager intent brokerOrderId, report⟩] = execution.filledQuantity := by
  obtain ⟨reportId, reportBroker, status, quantity, price, fillId⟩ := books
  let order := advancedOrder (createdOrder intent) .sent (some brokerOrderId)
  have sent := sentManager_eq intent nonblank
  have mapped : (sentManager intent brokerOrderId).brokerToOrder.get? report.brokerOrderId =
      some intent.orderId := by
    rw [sent, reportBroker, sameOrder]
    exact Dict.get?_set_self _ _ _
  have tracked : (sentManager intent brokerOrderId).orders.get? intent.orderId = some order := by
    rw [sent]
    exact Dict.get?_set_self _ _ _
  have unseen : report.reportId ∉ (sentManager intent brokerOrderId).seenReportIds := by
    rw [sent]
    exact Finset.notMem_empty _
  have noFills : (sentManager intent brokerOrderId).fillIds.seen = ∅ := by
    rw [sent]
    rfl
  have formed : (sentManager intent brokerOrderId).WellFormed :=
    Reachable.formed ⟨sendOrder intent brokerOrderId, rfl⟩
  have executionId : PythonText.isBlank execution.executionId = false :=
    (Check.firstFailure_none _).mp execution.valid
      ⟨PythonText.isBlank execution.executionId, "execution_id must not be empty"⟩
      (by simp [IbkrExecutionFields.checks])
  have pos := payload_positive execution
  have outcome := processReport_outcome formed report
  simp only [managerAfter, filledQuantity, fillsOf, answerTo, OrderManager.step,
    List.flatMap_cons, List.flatMap_nil, List.append_nil]
  generalize (processReport report).run (sentManager intent brokerOrderId) = result at outcome ⊢
  cases outcome with
  | unknownBrokerOrder unmapped => rw [mapped] at unmapped; cases unmapped
  | untracked other found missing =>
    cases mapped.symm.trans found
    rw [tracked] at missing
    cases missing
  | duplicate _ _ _ _ seen => exact absurd seen unseen
  | refused other found foundMap foundOrder _ refusal =>
    cases mapped.symm.trans foundMap
    cases tracked.symm.trans foundOrder
    rw [status] at refusal
    cases refusal
  | raisedFill other found state foundMap foundOrder _ next failure fill =>
    cases fill with
    | missingPrice carries missing => rw [price] at missing; cases missing
    | blankId id _ foundId _ _ blank =>
      cases fillId.symm.trans foundId
      rw [executionId] at blank
      cases blank
  | processed other found state foundMap foundOrder _ next fills after fill =>
    cases mapped.symm.trans foundMap
    cases tracked.symm.trans foundOrder
    have filled : state = .filled := by
      rw [status] at next
      exact (Option.some.inj next).symm
    subst filled
    cases fill with
    | noFill nothing =>
      simp [carriesFill, fillId, quantity, pos] at nothing
    | knownFill id _ foundId _ _ _ known =>
      change id ∈ (sentManager intent brokerOrderId).fillIds.seen at known
      rw [noFills] at known
      exact absurd known (Finset.notMem_empty _)
    | booked id _ foundId _ _ _ _ =>
      refine ⟨⟨_, Dict.get?_set_self _ _ _, rfl⟩, ?_⟩
      simp [answer, orderFill, quantity]

theorem sum_le_of_distinct {taken executions : List IbkrExecutionPayload}
    (distinct : taken.Nodup) (subset : ∀ execution ∈ taken, execution ∈ executions) :
    (taken.map fun execution => execution.filledQuantity).sum ≤
      (executions.map fun execution => execution.filledQuantity).sum := by
  obtain ⟨selected, perm, sublist⟩ := List.subperm_of_subset distinct subset
  have same := (perm.map fun execution => execution.filledQuantity).sum_eq
  rw [← same]
  apply (sublist.map fun execution => execution.filledQuantity).sum_le_sum
  intro quantity mem
  obtain ⟨execution, _, rfl⟩ := List.mem_map.mp mem
  exact le_of_lt (payload_positive execution)

theorem only_execution {quantity : Decimal} {first : IbkrExecutionPayload}
    {rest : List IbkrExecutionPayload} (whole : first.filledQuantity = quantity)
    (within : ((first :: rest).map fun execution => execution.filledQuantity).sum ≤ quantity) :
    rest = [] := by
  cases rest with
  | nil => rfl
  | cons second others =>
    have pos := payload_positive second
    have nonneg : 0 ≤ (others.map fun execution => execution.filledQuantity).sum := by
      apply List.sum_nonneg
      intro amount mem
      obtain ⟨execution, _, rfl⟩ := List.mem_map.mp mem
      exact le_of_lt (payload_positive execution)
    simp only [List.map_cons, List.sum_cons] at within
    linarith

/-- Over every run of executions, commissions and flushes for one sent order, the order's state
follows its filled quantity exactly when each execution that a step books is for the whole
order. -/
theorem state_follows_fills_iff (intent : OrderIntent) (tape : OrderExecutions intent.quantity)
    (accountId : String) (orderMap : Option BrokerOrderMap) (events : List IbkrFeedEvent)
    (ofExecutions : ∀ event ∈ events, OfExecutions tape.executions event) :
    let feed : IbkrFeed :=
      ⟨{ accountId, orderMap }, sentManager intent tape.brokerOrderId⟩
    StateFollowsFills intent.quantity intent.orderId (deliveries feed events) ↔
      StepRuns.EveryStep step (BooksWholeOrder intent.quantity) feed events := by
  intro feed
  have staging : Staging feed.calls tape.executions := nofun
  obtain ⟨reports, books, delivered, distinct, staged⟩ := bookings_run staging ofExecutions
  have within : ((bookings feed events).map fun execution => execution.filledQuantity).sum ≤
      intent.quantity :=
    le_trans (sum_le_of_distinct distinct.of_map fun execution mem =>
      (staged execution mem).known) tape.within
  have sameOrder : ∀ execution ∈ bookings feed events,
      execution.brokerOrderId = tape.brokerOrderId := fun execution mem =>
    tape.sameOrder execution (staged execution mem).known
  rw [everyStep_booksWholeOrder, delivered]
  generalize bookings feed events = taken at books within sameOrder
  cases books with
  | nil =>
    constructor
    · intro _ execution mem
      cases mem
    · intro _ first delivery rest split
      exact absurd split (by simp [deliver])
  | @cons execution report rest later booked bookedRest =>
    obtain ⟨⟨order, found, filled⟩, quantity⟩ := first_delivery intent tape.nonblank
      (sameOrder execution List.mem_cons_self) booked
    constructor
    · intro follows
      obtain ⟨other, foundOther, atFilled, _⟩ := follows [] _ _ rfl
      cases found.symm.trans foundOther
      have whole : execution.filledQuantity = intent.quantity :=
        quantity.symm.trans (atFilled filled)
      have only := only_execution whole within
      subst only
      intro other mem
      rw [List.mem_singleton.mp mem]
      exact whole
    · intro whole
      have first := whole execution List.mem_cons_self
      have only := only_execution first within
      subst only
      cases bookedRest
      intro before delivery after split
      have before_nil : before = [] := by
        cases before with
        | nil => rfl
        | cons _ _ => simp [deliver] at split
      subst before_nil
      simp only [deliver, List.nil_append, List.cons.injEq] at split
      obtain ⟨rfl, _⟩ := split
      refine ⟨order, found, fun _ => quantity.trans first, fun _ smaller => ?_⟩
      rw [List.nil_append] at smaller
      exact absurd (quantity.trans first) (ne_of_lt smaller)

def pairOrder : OrderIntent where
  orderId := ⟨⟨"order-2", Eq.refl false⟩⟩
  instrumentId := ⟨⟨"ES", Eq.refl false⟩⟩
  side := .buy
  quantity := 2
  valid := by decide +kernel

def unitExecution : IbkrExecutionPayload where
  reportId := "ibkr-exec-1"
  brokerOrderId := "broker-2"
  executionId := "exec-1"
  filledQuantity := 1
  fillPrice := 100
  valid := by decide +kernel

def unitTape : OrderExecutions pairOrder.quantity where
  brokerOrderId := "broker-2"
  nonblank := by decide
  executions := [unitExecution]
  sameOrder := by simp [unitExecution]
  within := by decide +kernel

def unitCallbacks : List IbkrFeedEvent :=
  [.execution unitExecution,
   .commission ⟨⟨"exec-1", 1, "USD"⟩, IbkrCommissionFields.unit_valid⟩]

/-- With one of its two units executed the order is FILLED, and it cannot be cancelled. -/
theorem half_executed_order_filled :
    let run := deliveries ⟨freshCallbacks, sentManager pairOrder "broker-2"⟩ unitCallbacks
    run.map (fun delivery => (managerAfter delivery).orders.get? pairOrder.orderId) =
        [some (advancedOrder (createdOrder pairOrder) .filled (some "broker-2"))] ∧
      filledQuantity run = 1 ∧
      run.map (fun delivery => (OrderManager.step (managerAfter delivery)
          (.requestCancel ⟨pairOrder.orderId, none⟩)).1) =
        [.raised (.orderTransitionError
          "invalid order transition: filled -> cancel_requested")] := by
  decide +kernel

theorem state_follows_fills_iff_unitCallbacks :
    let feed : IbkrFeed := ⟨{ accountId := "account-1", orderMap := none },
      sentManager pairOrder unitTape.brokerOrderId⟩
    StateFollowsFills pairOrder.quantity pairOrder.orderId (deliveries feed unitCallbacks) ↔
      StepRuns.EveryStep step (BooksWholeOrder pairOrder.quantity) feed unitCallbacks :=
  state_follows_fills_iff pairOrder unitTape "account-1" none unitCallbacks (by
    intro event mem
    simp only [unitCallbacks, List.mem_cons, List.not_mem_nil, or_false] at mem
    rcases mem with rfl | rfl
    · exact List.mem_singleton.mpr rfl
    · trivial)

end Qts.IbkrFeed
