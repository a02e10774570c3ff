import Qts.IbkrCallbackTypes
import Qts.OrderManagerInvariant

/-! # Broker reports on their way to the order manager -/

namespace Qts

open RaisingCalls Returns

namespace IbkrCallbacks

def producedStatuses : List ExecutionReportStatus :=
  [.accepted, .cancelled, .filled]

variable {report : ExecutionReport}

theorem create_fields {fields : ExecutionReportFields}
    (created : ExecutionReport.create fields = .ok report) :
    report.toExecutionReportFields = fields := by
  unfold ExecutionReport.create at created
  split at created
  · cases created
    rfl
  · cases created

theorem normalize_returns (fields : ExecutionReportFields) :
    Returns (fun report => report.toExecutionReportFields = fields)
      (normalizeIbkrExecutionReport fields) := by
  unfold normalizeIbkrExecutionReport
  split
  · next report created => exact pure (create_fields created)
  · exact throw _

theorem rejected_reasonCode (rejected : report.status = .rejected) : report.reasonCode ≠ none := by
  intro missing
  have passes := (Check.firstFailure_none _).mp report.valid
    ⟨decide (report.status = .rejected) && missingText report.reasonCode,
      "reason_code is required for rejected execution reports"⟩
    (by simp [ExecutionReportFields.checks])
  simp [rejected, missing, missingText] at passes

theorem produced_of_not_rejected {status : ExecutionReportStatus} (notRejected : status ≠ .rejected)
    (notPartial : status ≠ .partiallyFilled) : status ∈ producedStatuses := by
  cases status <;> simp_all [producedStatuses]

theorem statusFromIbkr_ne_partiallyFilled {status : String} {reportStatus : ExecutionReportStatus}
    (found : statusFromIbkr status = .ok reportStatus) : reportStatus ≠ .partiallyFilled := by
  unfold statusFromIbkr at found
  split at found
  · next mapped lookup =>
    cases found
    have mem : (normalizedStatus status, reportStatus) ∈ statusMap :=
      (Dict.lookup_eq_some_of_nodup (by decide)).mp lookup
    rintro rfl
    simp [statusMap] at mem
  · cases found

/-- A condition on the report of a callback that may produce none. -/
def OnReport (condition : ExecutionReport → Prop) (report : Option ExecutionReport) : Prop :=
  ∀ produced, report = some produced → condition produced

/-- A produced report carries one of the three statuses. -/
def Produced (report : ExecutionReport) : Prop :=
  report.status ∈ producedStatuses

theorem OnReport.none (condition : ExecutionReport → Prop) : OnReport condition Option.none := by
  intro produced equal
  cases equal

theorem OnReport.some {condition : ExecutionReport → Prop} (holds : condition report) :
    OnReport condition (Option.some report) := by
  rintro produced equal
  cases equal
  exact holds

theorem raising_returns {Value : Type} (result : Except CallbackError Value) :
    Returns (fun value => result = .ok value) (raising result) := by
  cases result with
  | ok value => exact pure rfl
  | error failure => exact throw failure

theorem onOrderStatus_produced (payload : IbkrOrderStatusPayload) (now : DateTime) :
    Returns (OnReport Produced) (onOrderStatus payload now) := by
  unfold onOrderStatus
  refine bind_last ?_
  intro _
  refine bind_last ?_
  intro calls
  split
  · exact bind_last fun _ => pure (.none Produced)
  refine bind_last ?_
  intro tracked
  cases tracked with
  | false => exact pure (.none Produced)
  | true =>
    refine bind_last ?_
    intro _
    refine bind (raising_returns _) ?_
    intro status found
    refine bind (normalize_returns _) ?_
    intro report fields
    refine pure (.some ?_)
    have status_eq : report.status = status := congrArg (·.status) fields
    have noReason : report.reasonCode = Option.none := congrArg (·.reasonCode) fields
    apply produced_of_not_rejected
    · intro rejected
      exact rejected_reasonCode rejected noReason
    · rw [status_eq]
      exact statusFromIbkr_ne_partiallyFilled found

/-- The report of a booked execution is stamped FILLED with the execution's own data. -/
def BooksExecution (execution : IbkrExecutionPayload) (report : ExecutionReport) : Prop :=
  report.reportId = execution.reportId ∧ report.brokerOrderId = execution.brokerOrderId ∧
    report.status = .filled ∧ report.filledQuantity = execution.filledQuantity ∧
    report.fillPrice = some execution.fillPrice ∧ report.fillId = some execution.executionId

theorem bookExecution_books (execution : IbkrExecutionPayload) (commission : Decimal) :
    Returns (BooksExecution execution) (bookExecution execution commission) := by
  intro calls report after ran
  have fields := normalize_returns _ calls report after ran
  exact ⟨congrArg (·.reportId) fields, congrArg (·.brokerOrderId) fields,
    congrArg (·.status) fields, congrArg (·.filledQuantity) fields,
    congrArg (·.fillPrice) fields, congrArg (·.fillId) fields⟩

theorem BooksExecution.produced {execution : IbkrExecutionPayload}
    (books : BooksExecution execution report) : Produced report := by
  rw [Produced, books.2.2.1]
  simp [producedStatuses]

theorem popCommissionedExecution_produced (key : ExecutionKey) :
    Returns (OnReport Produced) (popCommissionedExecution key) := by
  unfold popCommissionedExecution
  refine bind_last ?_
  intro calls
  split
  · next execution commission _ _ =>
    refine bind_last ?_
    intro _
    refine bind (bookExecution_books execution commission.commission) ?_
    intro report books
    exact pure (.some books.produced)
  · exact pure (.none Produced)

theorem onExecution_produced (payload : IbkrExecutionPayload) :
    Returns (OnReport Produced) (onExecution payload) := by
  unfold onExecution
  refine bind_last ?_
  intro _
  refine bind_last ?_
  intro calls
  split
  · exact bind_last fun _ => bind_last fun _ => pure (.none Produced)
  · dsimp only
    split
    · exact bind_last fun _ => pure (.none Produced)
    split
    · exact bind_last fun _ => bind_last fun _ => pure (.none Produced)
    refine bind_last ?_
    intro _
    split
    · exact pure (.none Produced)
    · exact popCommissionedExecution_produced _

def commissionedReport : ExecutionReport ⊕ BrokerCommissionReport → Option ExecutionReport
  | .inl report => some report
  | .inr _ => none

theorem onCommission_produced (payload : IbkrCommissionPayload) :
    Returns (fun result => OnReport Produced (commissionedReport result))
      (onCommission payload) := by
  unfold onCommission
  refine bind_last ?_
  intro _
  refine bind_last ?_
  intro _
  have popped : Returns (OnReport Produced)
      (popCommissionedExecutionByExecutionId payload.executionId) := by
    unfold popCommissionedExecutionByExecutionId
    refine bind_last ?_
    intro calls
    split
    · exact popCommissionedExecution_produced _
    · exact pure (.none Produced)
  refine bind popped ?_
  intro report produced
  cases report with
  | some report => exact pure produced
  | none =>
    refine bind_last ?_
    intro calls
    split
    · exact bind_last fun _ => pure (.none Produced)
    · exact pure (.none Produced)

theorem flushExecutions_produced (reason : String)
    (staged : List (ExecutionKey × IbkrExecutionPayload)) :
    Returns (fun reports => ∀ report ∈ reports, Produced report)
      (flushExecutions reason staged) := by
  induction staged with
  | nil => exact pure (by simp)
  | cons item rest ih =>
    obtain ⟨key, execution⟩ := item
    unfold flushExecutions
    refine bind_last ?_
    intro _
    split
    · exact throw _
    refine bind_last ?_
    intro _
    refine bind (bookExecution_books execution 0) ?_
    intro report books
    refine bind ih ?_
    intro reports produced
    refine pure ?_
    intro other mem
    rcases List.mem_cons.mp mem with rfl | mem
    · exact books.produced
    · exact produced other mem

end IbkrCallbacks

structure IbkrFeed where
  calls : IbkrCallbacks
  manager : OrderManager

/-- A broker callback, a flush of staged executions, or a request of the user. -/
inductive IbkrFeedEvent
  | orderStatus (payload : IbkrOrderStatusPayload) (now : DateTime)
  | execution (payload : IbkrExecutionPayload)
  | commission (payload : IbkrCommissionPayload)
  | flush (reason : String) (stated : PythonText.isBlank reason = false)
  | cancelRequest (intent : CancelIntent)
  | replaceRequest (intent : ReplaceIntent) (riskDecision : RiskDecision)

structure ReportDelivery where
  manager : OrderManager
  report : ExecutionReport

namespace IbkrFeed

open IbkrCallbacks OrderManager

def reportsOf {Value : Type} (reports : Value → List ExecutionReport) :
    EStateM.Result CallbackError IbkrCallbacks Value → List ExecutionReport × IbkrCallbacks
  | .ok value calls => (reports value, calls)
  | .error _ calls => ([], calls)

def produce (calls : IbkrCallbacks) :
    IbkrFeedEvent → List ExecutionReport × IbkrCallbacks
  | .orderStatus payload now => reportsOf Option.toList ((onOrderStatus payload now).run calls)
  | .execution payload => reportsOf Option.toList ((onExecution payload).run calls)
  | .commission payload =>
      reportsOf (fun result => (commissionedReport result).toList)
        ((onCommission payload).run calls)
  | .flush reason _ => reportsOf id ((flushPendingExecutions reason).run calls)
  | .cancelRequest _ => ([], calls)
  | .replaceRequest _ _ => ([], calls)

def request (manager : OrderManager) : IbkrFeedEvent → OrderManager
  | .cancelRequest intent => endState ((requestCancel intent).run manager)
  | .replaceRequest intent riskDecision =>
      endState ((requestReplace intent riskDecision).run manager)
  | _ => manager

def deliver (manager : OrderManager) : List ExecutionReport → List ReportDelivery × OrderManager
  | [] => ([], manager)
  | report :: reports =>
      let rest := deliver (endState ((processReport report).run manager)) reports
      (⟨manager, report⟩ :: rest.1, rest.2)

def step : StepRuns.Step IbkrFeed IbkrFeedEvent (List ReportDelivery) := fun feed event =>
  let (reports, calls) := produce feed.calls event
  let (deliveries, manager) := deliver (request feed.manager event) reports
  (deliveries, ⟨calls, manager⟩)

def deliveries (feed : IbkrFeed) (events : List IbkrFeedEvent) : List ReportDelivery :=
  (StepRuns.responses step feed events).flatten

theorem reportsOf_produced {Value : Type} {reports : Value → List ExecutionReport}
    {call : CallbackCall Value} {calls : IbkrCallbacks}
    (returns : Returns (fun value => ∀ report ∈ reports value, Produced report) call) :
    ∀ report ∈ (reportsOf reports (call.run calls)).1, Produced report := by
  cases ran : call.run calls with
  | ok value after => exact returns calls value after ran
  | error failure after => simp [reportsOf]

theorem toList_produced {report : Option ExecutionReport} (produced : OnReport Produced report) :
    ∀ found ∈ report.toList, Produced found := by
  intro found mem
  exact produced found (Option.mem_toList.mp mem)

theorem produce_produced (calls : IbkrCallbacks) (event : IbkrFeedEvent) :
    ∀ report ∈ (produce calls event).1, Produced report := by
  cases event with
  | orderStatus payload now =>
    exact reportsOf_produced fun state value after ran =>
      toList_produced (onOrderStatus_produced payload now state value after ran)
  | execution payload =>
    exact reportsOf_produced fun state value after ran =>
      toList_produced (onExecution_produced payload state value after ran)
  | commission payload =>
    exact reportsOf_produced fun state value after ran =>
      toList_produced (onCommission_produced payload state value after ran)
  | flush reason stated =>
    apply reportsOf_produced
    unfold flushPendingExecutions
    exact bind_last fun staged => flushExecutions_produced reason _
  | cancelRequest intent => simp [produce]
  | replaceRequest intent riskDecision => simp [produce]

end IbkrFeed

end Qts
