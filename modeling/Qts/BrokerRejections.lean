import Qts.BrokerExecutionAdapter
import Qts.IbkrReportFlow

/-! # Rejections by the broker -/

namespace Qts

open RaisingCalls OrderManager IbkrCallbacks IbkrFeed BrokerExecutionAdapter

theorem createExecutionReport_fields {fields : ExecutionReportFields} {report : ExecutionReport}
    (created : createExecutionReport fields = .ok report) :
    report.toExecutionReportFields = fields := by
  unfold createExecutionReport at created
  cases made : ExecutionReport.create fields with
  | ok other =>
    rw [made] at created
    obtain rfl := Except.ok.inj created
    exact create_fields made
  | error msg =>
    rw [made] at created
    cases created

theorem not_rejected_of_noReason {report : ExecutionReport} (noReason : report.reasonCode = none) :
    report.status ≠ .rejected :=
  fun rejected => rejected_reasonCode rejected noReason

theorem normalizeBrokerExecutionReport_ok_iff (report : BrokerExecutionReport) :
    (∃ normalized, normalizeBrokerExecutionReport report = .ok normalized) ↔
      report.status ≠ .rejected := by
  constructor
  · rintro ⟨normalized, made⟩ rejected
    have fields := createExecutionReport_fields made
    refine not_rejected_of_noReason (congrArg (·.reasonCode) fields) ?_
    exact (congrArg (·.status) fields).trans rejected
  · intro accepted
    have passes := (Check.firstFailure_none _).mp report.valid
    simp only [BrokerExecutionReportFields.checks, List.forall_mem_cons] at passes
    obtain ⟨reportId, brokerOrderId, filledQuantity, _⟩ := passes
    have valid : Check.firstFailure (ExecutionReportFields.checks {
        reportId := report.reportId
        brokerOrderId := report.brokerOrderId
        status := report.status
        filledQuantity := report.filledQuantity
        fillPrice := report.fillPrice
        fillId := report.fillId
        fillTime := report.fillTime }) = none :=
      ExecutionReportFields.valid_of_not_rejected reportId brokerOrderId
        (by simpa using filledQuantity) le_rfl le_rfl accepted
    refine ⟨⟨_, valid⟩, ?_⟩
    rw [normalizeBrokerExecutionReport, createExecutionReport, ExecutionReport.create_ok valid]
    rfl

def ReportsRejection {State : Type}
    (outcome : EStateM.Result Failure State ExecutionReport) : Prop :=
  ∃ report after, outcome = .ok report after ∧ report.status = .rejected

namespace BrokerExecutionAdapter

variable {Broker Value : Type}

/-- A report that gives no reason. -/
def NoReason (report : ExecutionReport) : Prop :=
  report.reasonCode = none

theorem noReason_of_created {fields : ExecutionReportFields} {report : ExecutionReport}
    (created : createExecutionReport fields = .ok report) (noReason : fields.reasonCode = none) :
    NoReason report :=
  (congrArg ExecutionReportFields.reasonCode (createExecutionReport_fields created)).trans noReason

theorem raising_returns (result : Except Failure Value) :
    Returns (fun value => result = .ok value) (raising result : AdapterCall Broker Value) :=
  fun _ _ _ ran => raising_ok ran

theorem withFillTime_noReason {report timed : ExecutionReport} {barTime : Option DateTime}
    (noReason : NoReason report) (made : withFillTime report barTime = .ok timed) :
    NoReason timed := by
  unfold withFillTime at made
  split at made
  · exact noReason_of_created made noReason
  · obtain rfl := Except.ok.inj made
    exact noReason

theorem normalizeWithRuntimeBrokerOrderId_noReason (report : BrokerExecutionReport)
    (barTime : Option DateTime) :
    Returns NoReason (normalizeWithRuntimeBrokerOrderId report barTime :
      AdapterCall Broker ExecutionReport) := by
  refine Returns.bind_last fun adapter => ?_
  cases adapter.runtimeBrokerOrderIds.get? report.brokerOrderId with
  | none => exact Returns.throw _
  | some runtimeBrokerOrderId =>
    refine Returns.bind (raising_returns _) fun normalized made => ?_
    refine Returns.bind (raising_returns _) fun timed madeTimed => ?_
    intro state value after ran
    have noReason : NoReason normalized := noReason_of_created made rfl
    have timedNoReason : NoReason timed := withFillTime_noReason noReason madeTimed
    exact noReason_of_created (raising_ok ran) timedNoReason

variable (broker : BrokerAdapter Broker)

theorem executeMarketOrder_noReason (intent : OrderIntent) (brokerOrderId : String)
    (accountId : AccountId) (strategyId : StrategyId) (clientOrderId : String)
    (barTime : Option DateTime) :
    Returns NoReason (executeMarketOrder broker intent brokerOrderId accountId strategyId
      clientOrderId barTime) := by
  refine Returns.bind_last fun _ => Returns.bind_last fun _ => Returns.bind_last fun _ => ?_
  refine Returns.bind_last fun req => Returns.bind_last fun report => ?_
  exact Returns.bind_last fun _ => normalizeWithRuntimeBrokerOrderId_noReason report barTime

theorem cancelOrder_noReason (orderId : OrderId) (brokerOrderId : String) (accountId : AccountId)
    (strategyId : StrategyId) (clientOrderId : String) :
    Returns NoReason
      (cancelOrder broker orderId brokerOrderId accountId strategyId clientOrderId) := by
  refine Returns.bind_last fun _ => Returns.bind_last fun _ => Returns.bind_last fun _ => ?_
  exact Returns.bind_last fun report => normalizeWithRuntimeBrokerOrderId_noReason report none

theorem replaceOrder_noReason (orderId : OrderId) (brokerOrderId : String) (newQuantity : Decimal)
    (accountId : AccountId) (strategyId : StrategyId) (clientOrderId : String) :
    Returns NoReason (replaceOrder broker orderId brokerOrderId newQuantity accountId strategyId
      clientOrderId) := by
  refine Returns.bind_last fun _ => Returns.bind_last fun _ => Returns.bind_last fun _ => ?_
  exact Returns.bind_last fun report => normalizeWithRuntimeBrokerOrderId_noReason report none

theorem handle_noReason (liveCapitalRefusal : Option Failure) (req : ExecutionRequest) :
    Returns NoReason (handle broker liveCapitalRefusal req) := by
  cases req with
  | execute intent brokerOrderId marketPrice accountId strategyId routeMetadata barTime =>
    exact Returns.bind_last fun _ => executeMarketOrder_noReason broker intent brokerOrderId
      accountId strategyId routeMetadata.clientOrderId barTime
  | cancel orderId brokerOrderId accountId strategyId routeMetadata =>
    exact cancelOrder_noReason broker orderId brokerOrderId accountId strategyId
      routeMetadata.clientOrderId
  | replace orderId brokerOrderId newQuantity accountId strategyId routeMetadata =>
    exact replaceOrder_noReason broker orderId brokerOrderId newQuantity accountId strategyId
      routeMetadata.clientOrderId

theorem not_reportsRejection {call : AdapterCall Broker ExecutionReport}
    (returns : Returns NoReason call) (adapter : BrokerExecutionAdapter Broker) :
    ¬ ReportsRejection (call.run adapter) := by
  rintro ⟨report, after, ran, rejected⟩
  exact not_rejected_of_noReason (returns adapter report after ran) rejected

end BrokerExecutionAdapter

namespace IbkrCallbacks

/-- An order status that the broker rejects an order with. -/
def Inactive (payload : IbkrOrderStatusPayload) : Prop :=
  normalizedStatus payload.status = "inactive"

instance (payload : IbkrOrderStatusPayload) : Decidable (Inactive payload) :=
  inferInstanceAs (Decidable (_ = _))

variable {payload : IbkrOrderStatusPayload}

theorem statusFromIbkr_inactive (inactive : Inactive payload) :
    statusFromIbkr payload.status = .ok .rejected := by
  rw [statusFromIbkr, inactive]
  rfl

theorem normalizeIbkrExecutionReport_rejected (reportId brokerOrderId : String) :
    Returns (fun _ => False) (normalizeIbkrExecutionReport {
      reportId, brokerOrderId, status := .rejected }) := by
  intro calls report after ran
  have fields := normalize_returns _ calls report after ran
  exact not_rejected_of_noReason (congrArg (·.reasonCode) fields) (congrArg (·.status) fields)

theorem onOrderStatus_inactive (inactive : Inactive payload) (now : DateTime) :
    Returns (fun report => report = none) (onOrderStatus payload now) := by
  unfold onOrderStatus
  refine Returns.bind_last fun _ => Returns.bind_last fun calls => ?_
  split
  · exact Returns.bind_last fun _ => Returns.pure rfl
  refine Returns.bind_last fun tracked => ?_
  cases tracked with
  | false => exact Returns.pure rfl
  | true =>
    refine Returns.bind_last fun _ => ?_
    rw [statusFromIbkr_inactive inactive]
    refine Returns.bind (raising_returns _) fun status found => ?_
    obtain rfl := Except.ok.inj found
    exact Returns.bind (normalizeIbkrExecutionReport_rejected _ _) fun _ never => never.elim

end IbkrCallbacks

theorem IbkrFeed.step_inactive (feed : IbkrFeed) {payload : IbkrOrderStatusPayload}
    (inactive : Inactive payload) (now : DateTime) :
    (step feed (.orderStatus payload now)).1 = [] ∧
      (step feed (.orderStatus payload now)).2.manager = feed.manager := by
  have silent : (produce feed.calls (.orderStatus payload now)).1 = [] := by
    simp only [produce]
    cases ran : (onOrderStatus payload now).run feed.calls with
    | ok report after =>
      obtain rfl := onOrderStatus_inactive inactive now _ _ _ ran
      rfl
    | error failure after => rfl
  dsimp only [step]
  rw [silent]
  exact ⟨rfl, rfl⟩

/-- A broker's report is normalized exactly when it is no rejection; the execution actor and the
normalization of broker callbacks never answer a rejection; and an inactive status leaves the
order manager as it is. -/
theorem rejection_never_reported {Broker : Type} (broker : BrokerAdapter Broker)
    (liveCapitalRefusal : Option Failure) (req : ExecutionRequest)
    (adapter : BrokerExecutionAdapter Broker) (report : BrokerExecutionReport) (feed : IbkrFeed)
    (payload : IbkrOrderStatusPayload) (now : DateTime) :
    ((∃ normalized, normalizeBrokerExecutionReport report = .ok normalized) ↔
        report.status ≠ .rejected) ∧
      ¬ ReportsRejection
        ((handle broker liveCapitalRefusal req).run adapter) ∧
      ¬ ReportsRejection
        ((normalizeExecutionReport report).run adapter) ∧
      (Inactive payload → (step feed (.orderStatus payload now)).1 = [] ∧
          (step feed (.orderStatus payload now)).2.manager = feed.manager) :=
  ⟨normalizeBrokerExecutionReport_ok_iff report, not_reportsRejection
      (handle_noReason broker liveCapitalRefusal req) adapter,
    not_reportsRejection
      (normalizeWithRuntimeBrokerOrderId_noReason report none) adapter,
    fun inactive => feed.step_inactive inactive now⟩

def rejectedReport : BrokerExecutionReport where
  reportId := "report-1"
  brokerId := ⟨⟨"paper", Eq.refl false⟩⟩
  brokerOrderId := "paper-1"
  orderId := ⟨⟨"order-1", Eq.refl false⟩⟩
  accountId := ⟨⟨"acct-1", Eq.refl false⟩⟩
  strategyId := none
  instrumentId := ⟨⟨"ES", Eq.refl false⟩⟩
  status := .rejected
  valid := by decide +kernel

def inactiveStatus : IbkrOrderStatusPayload where
  reportId := "status-1"
  brokerOrderId := "broker-1"
  status := "Inactive"
  valid := by decide

def mappedOrder : Except CallbackError BrokerOrderMap := do
  let (_, pending) ← BrokerOrderMap.init.recordPendingSubmission unitOrder.orderId
    "client-1" rejectedReport.accountId none 0
  let (_, mapped) ← pending.attachIbkrOrderId "client-1" "broker-1"
  return mapped

def sentFeed : IbkrFeed where
  calls := { accountId := "DU1", orderMap := mappedOrder.toOption }
  manager := StepRuns.final step init sentUnitOrder

theorem rejection_never_reported_inactive :
    (step sentFeed (.orderStatus inactiveStatus 0)).1 = [] ∧
      (step sentFeed (.orderStatus inactiveStatus 0)).2.manager = sentFeed.manager :=
  (rejection_never_reported ⟨fun _ => throw (.other ""), fun _ => throw (.other ""),
    fun _ _ => throw (.other "")⟩ none (.cancel unitOrder.orderId "broker-1"
      rejectedReport.accountId ⟨⟨"strategy-1", rfl⟩⟩
      { brokerId := rejectedReport.brokerId, accountId := rejectedReport.accountId
        strategyId := ⟨⟨"strategy-1", rfl⟩⟩, clientOrderId := "client-1"
        correlationId := ⟨⟨"corr-1", rfl⟩⟩, valid := by decide })
    { broker := (), accountId := rejectedReport.accountId } rejectedReport sentFeed inactiveStatus
    0).2.2.2 (by decide)

/-- A rejected broker report raises; so does the inactive status of a mapped order, which leaves
the order sent. -/
theorem rejection_raises :
    normalizeBrokerExecutionReport rejectedReport =
        .error (.valueError "reason_code is required for rejected execution reports") ∧
      sentFeed.calls.orderMap.isSome = true ∧
      raised ((onOrderStatus inactiveStatus 0).run sentFeed.calls) = true ∧
      ((step sentFeed (.orderStatus inactiveStatus 0)).2.manager.orders.get?
        unitOrder.orderId).map (·.state) = some .sent := by
  decide +kernel

end Qts
