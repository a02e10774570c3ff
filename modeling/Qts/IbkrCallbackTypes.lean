import Qts.BrokerOrderMap
import Qts.OrderValueObjects

/-! # IBKR callback payloads and shared callback state -/

namespace Qts

structure IbkrOrderStatusFields where
  reportId : String
  brokerOrderId : String
  status : String
  permId : Option String := none

def IbkrOrderStatusFields.checks (payload : IbkrOrderStatusFields) : List Check :=
  [⟨PythonText.isBlank payload.reportId, "report_id must not be empty"⟩,
   ⟨PythonText.isBlank payload.brokerOrderId, "broker_order_id must not be empty"⟩,
   ⟨PythonText.isBlank payload.status, "status must not be empty"⟩,
   ⟨payload.permId.any PythonText.isBlank, "perm_id must not be empty when provided"⟩]

structure IbkrOrderStatusPayload extends IbkrOrderStatusFields where
  valid : Check.firstFailure toIbkrOrderStatusFields.checks = none

structure IbkrExecutionFields where
  reportId : String
  brokerOrderId : String
  executionId : String
  filledQuantity : Decimal
  fillPrice : Decimal
  accountId : Option String := none
  fillTime : Option DateTime := none
deriving DecidableEq

def IbkrExecutionFields.checks (payload : IbkrExecutionFields) : List Check :=
  [⟨PythonText.isBlank payload.reportId, "report_id must not be empty"⟩,
   ⟨PythonText.isBlank payload.brokerOrderId, "broker_order_id must not be empty"⟩,
   ⟨PythonText.isBlank payload.executionId, "execution_id must not be empty"⟩,
   ⟨decide (payload.filledQuantity ≤ 0), "filled_quantity must be positive"⟩,
   ⟨decide (payload.fillPrice < 0), "fill_price must be non-negative"⟩,
   ⟨payload.accountId.any PythonText.isBlank, "account_id must not be empty when provided"⟩]

structure IbkrExecutionPayload extends IbkrExecutionFields where
  valid : Check.firstFailure toIbkrExecutionFields.checks = none
deriving DecidableEq

structure IbkrCommissionFields where
  executionId : String
  commission : Decimal
  currency : String

def IbkrCommissionFields.checks (payload : IbkrCommissionFields) : List Check :=
  [⟨PythonText.isBlank payload.executionId, "execution_id must not be empty"⟩,
   ⟨decide (payload.commission < 0), "commission must be non-negative"⟩,
   ⟨PythonText.isBlank payload.currency, "currency must not be empty"⟩]

theorem IbkrCommissionFields.unit_valid :
    Check.firstFailure (IbkrCommissionFields.mk "exec-1" 1 "USD").checks = none := by
  decide +kernel

structure IbkrCommissionPayload extends IbkrCommissionFields where
  valid : Check.firstFailure toIbkrCommissionFields.checks = none

/-- Broker-generic commission callback; the same three fields under the same checks. -/
abbrev BrokerCommissionReport := IbkrCommissionPayload

structure IbkrOrderCallbackEvent where
  kind : String
  reportId : Option String := none
  brokerOrderId : Option String := none
  executionId : Option String := none
  reason : Option String := none
  expectedAccount : Option String := none
  observedAccount : Option String := none

def maskAccountId (accountId : String) : String :=
  let chars := accountId.toList
  if chars.length ≤ 4 then
    String.ofList (List.replicate chars.length '*')
  else
    String.ofList (chars.take 2 ++ List.replicate (max (chars.length - 4) 1) '*' ++
      chars.drop (chars.length - 2))

/-- The account, broker order and execution id that identify one execution. -/
abbrev ExecutionKey := String × String × String

abbrev OrderStatusKey := String × String × Option String

structure BrokerCallbackQuarantine where
  executions : List IbkrExecutionPayload := []
  orderStatuses : List IbkrOrderStatusPayload := []

/-- What the order-status and the fill normalizer of one account own and share. -/
structure IbkrCallbacks where
  accountId : String
  orderMap : Option BrokerOrderMap
  callbackEvents : List IbkrOrderCallbackEvent := []
  callbackQuarantine : BrokerCallbackQuarantine := {}
  seenOrderStatusKeys : Finset OrderStatusKey := ∅
  pendingExecutions : Dict ExecutionKey IbkrExecutionPayload := .empty
  commissions : Dict String IbkrCommissionPayload := .empty
  completedExecutionKeys : Finset ExecutionKey := ∅

/-- A callback handler: it updates the shared state and may raise. -/
abbrev CallbackCall := EStateM CallbackError IbkrCallbacks

namespace IbkrCallbacks

def recordCallbackEvent (event : IbkrOrderCallbackEvent) : CallbackCall Unit :=
  modify fun calls => { calls with
    callbackEvents := calls.callbackEvents ++ [event] }

def raising {Value : Type} (result : Except CallbackError Value) : CallbackCall Value :=
  match result with
  | .ok value => return value
  | .error failure => throw failure

def normalizeIbkrExecutionReport (report : ExecutionReportFields) :
    CallbackCall ExecutionReport :=
  match ExecutionReport.create report with
  | .ok report => return report
  | .error msg => throw (.valueError msg)

end IbkrCallbacks

end Qts

namespace Qts.IbkrCallbacks

def normalizedStatus (status : String) : String :=
  String.ofList ((PythonText.stripChars status.toList).map Char.toLower)

def statusMap : List (String × ExecutionReportStatus) :=
  [("apicancelled", .cancelled), ("cancelled", .cancelled), ("filled", .filled),
   ("inactive", .rejected), ("pendingcancel", .accepted), ("pendingsubmit", .accepted),
   ("presubmitted", .accepted), ("submitted", .accepted)]

def statusFromIbkr (status : String) : Except CallbackError ExecutionReportStatus :=
  match statusMap.lookup (normalizedStatus status) with
  | some reportStatus => .ok reportStatus
  | none => .error (.valueError ("unsupported IBKR order status: " ++ status))

def isLateCancelAfterFill (currentStatus nextStatus : String) : Bool :=
  normalizedStatus currentStatus = "filled" &&
    (normalizedStatus nextStatus = "apicancelled" || normalizedStatus nextStatus = "cancelled")

def updateOrderMap
    (update : Except CallbackError (BrokerOrderRecord × BrokerOrderMap)) : CallbackCall Unit := do
  let (_, map) ← raising update
  modify fun calls => { calls with orderMap := some map }

def orderStatusEvent (payload : IbkrOrderStatusPayload) (kind : String)
    (reason : Option String := none) : IbkrOrderCallbackEvent where
  kind := kind
  reportId := some payload.reportId
  brokerOrderId := some payload.brokerOrderId
  reason := reason

def trackStatus (map : BrokerOrderMap) (payload : IbkrOrderStatusPayload) (now : DateTime) :
    CallbackCall Bool := do
  let map ← match payload.permId with
    | some permId => do
      let (_, attached) ← raising (map.attachPermId payload.brokerOrderId permId)
      modify fun calls => { calls with orderMap := some attached }
      pure attached
    | none => pure map
  let record ← raising (map.byIbkrOrderId payload.brokerOrderId)
  if isLateCancelAfterFill record.status payload.status then
    recordCallbackEvent (orderStatusEvent payload "ibkr_order_callback_late_terminal_dropped"
      (some "late_cancel_after_filled"))
    return false
  updateOrderMap (map.markStatus payload.brokerOrderId payload.status now)
  return true

def quarantineOrderStatus (payload : IbkrOrderStatusPayload) :
    CallbackError → CallbackCall Bool
  | .valueError msg => throw (.valueError msg)
  | .keyError _ => do
    modify fun calls => { calls with
      callbackQuarantine := { calls.callbackQuarantine with
        orderStatuses := calls.callbackQuarantine.orderStatuses ++ [payload] } }
    recordCallbackEvent (orderStatusEvent payload "ibkr_order_callback_unresolved_quarantined"
      (some "unknown_ibkr_order_id"))
    return false

def noteStatus (payload : IbkrOrderStatusPayload) (now : DateTime) : CallbackCall Bool := do
  match (← get).orderMap with
  | some map => tryCatch (trackStatus map payload now) (quarantineOrderStatus payload)
  | none => return true

def onOrderStatus (payload : IbkrOrderStatusPayload) (now : DateTime) :
    CallbackCall (Option ExecutionReport) := do
  recordCallbackEvent (orderStatusEvent payload "ibkr_order_status_received")
  let statusKey := (payload.brokerOrderId, payload.status, payload.permId)
  if statusKey ∈ (← get).seenOrderStatusKeys then
    recordCallbackEvent (orderStatusEvent payload "ibkr_order_callback_duplicate_dropped"
      (some "order_status_already_seen"))
    return none
  let tracked ← noteStatus payload now
  if !tracked then
    return none
  modify fun calls => { calls with
    seenOrderStatusKeys := insert statusKey calls.seenOrderStatusKeys }
  let status ← raising (statusFromIbkr payload.status)
  let report ← normalizeIbkrExecutionReport {
    reportId := payload.reportId
    brokerOrderId := payload.brokerOrderId
    status }
  return some report

end Qts.IbkrCallbacks

namespace Qts.IbkrCallbacks

def executionKey (accountId : String) (payload : IbkrExecutionPayload) : ExecutionKey :=
  (payload.accountId.getD accountId, payload.brokerOrderId, payload.executionId)

def executionEvent (payload : IbkrExecutionPayload) (kind : String)
    (reason : Option String := none) : IbkrOrderCallbackEvent where
  kind := kind
  reportId := some payload.reportId
  brokerOrderId := some payload.brokerOrderId
  executionId := some payload.executionId
  reason := reason

def quarantineExecution (payload : IbkrExecutionPayload) : CallbackCall Unit :=
  modify fun calls => { calls with
    callbackQuarantine := { calls.callbackQuarantine with
      executions := calls.callbackQuarantine.executions ++ [payload] } }

def bookExecution (execution : IbkrExecutionPayload) (commission : Decimal) :
    CallbackCall ExecutionReport :=
  normalizeIbkrExecutionReport {
    reportId := execution.reportId
    brokerOrderId := execution.brokerOrderId
    status := .filled
    filledQuantity := execution.filledQuantity
    fillPrice := some execution.fillPrice
    fillId := some execution.executionId
    commission
    fillTime := execution.fillTime }

def popCommissionedExecution (key : ExecutionKey) : CallbackCall (Option ExecutionReport) := do
  let calls ← get
  match calls.pendingExecutions.get? key, calls.commissions.get? key.2.2 with
  | some execution, some commission =>
    set { calls with
      pendingExecutions := calls.pendingExecutions.erase key
      commissions := calls.commissions.erase key.2.2
      completedExecutionKeys := insert key calls.completedExecutionKeys }
    return some (← bookExecution execution commission.commission)
  | _, _ => return none

def accountMismatchEvent (accountId : String) (payload : IbkrExecutionPayload)
    (observedAccount : String) : IbkrOrderCallbackEvent :=
  { executionEvent payload "ibkr_account_callback_quarantined" (some "wrong_account") with
    expectedAccount := some (maskAccountId accountId)
    observedAccount := some (maskAccountId observedAccount) }

def resolves (calls : IbkrCallbacks) (brokerOrderId : String) : Bool :=
  calls.orderMap.all fun map => (map.byIbkrOrderId brokerOrderId).isOk

def onExecution (payload : IbkrExecutionPayload) : CallbackCall (Option ExecutionReport) := do
  recordCallbackEvent (executionEvent payload "ibkr_execution_details_received")
  let calls ← get
  match payload.accountId.filter fun accountId => accountId ≠ calls.accountId with
  | some observedAccount =>
    quarantineExecution payload
    recordCallbackEvent (accountMismatchEvent calls.accountId payload observedAccount)
    return none
  | none =>
    let key := executionKey calls.accountId payload
    if key ∈ calls.completedExecutionKeys then
      recordCallbackEvent (executionEvent payload "ibkr_order_callback_duplicate_dropped"
        (some "execution_already_completed"))
      return none
    if !calls.resolves payload.brokerOrderId then
      quarantineExecution payload
      recordCallbackEvent (executionEvent payload "ibkr_order_callback_unresolved_quarantined"
        (some "unknown_ibkr_order_id"))
      return none
    modify fun calls => { calls with
      pendingExecutions := calls.pendingExecutions.set key payload }
    if (calls.commissions.get? payload.executionId).isNone then
      return none
    popCommissionedExecution key

def popCommissionedExecutionByExecutionId (executionId : String) :
    CallbackCall (Option ExecutionReport) := do
  match (← get).pendingExecutions.keys.find? fun key => key.2.2 = executionId with
  | some key => popCommissionedExecution key
  | none => return none

def onCommission (payload : IbkrCommissionPayload) :
    CallbackCall (ExecutionReport ⊕ BrokerCommissionReport) := do
  recordCallbackEvent {
    kind := "ibkr_commission_report_received", executionId := some payload.executionId }
  modify fun calls => { calls with
    commissions := calls.commissions.set payload.executionId payload }
  match ← popCommissionedExecutionByExecutionId payload.executionId with
  | some report => return .inl report
  | none =>
    if ∃ key ∈ (← get).completedExecutionKeys, key.2.2 = payload.executionId then
      recordCallbackEvent {
        kind := "ibkr_order_callback_duplicate_dropped"
        executionId := some payload.executionId
        reason := some "commission_for_completed_execution" }
    return .inr payload

def flushExecutions (reason : String) :
    List (ExecutionKey × IbkrExecutionPayload) → CallbackCall (List ExecutionReport)
  | [] => return []
  | (key, execution) :: rest => do
    modify fun calls => { calls with
      pendingExecutions := calls.pendingExecutions.erase key
      completedExecutionKeys := insert key calls.completedExecutionKeys }
    -- The audit event refuses a blank reason; the execution is already off the staging area.
    if PythonText.isBlank reason then
      throw (.valueError "reason must not be empty when provided")
    else
      recordCallbackEvent (executionEvent execution "ibkr_fill_committed_without_commission"
        (some reason))
      let report ← bookExecution execution 0
      let reports ← flushExecutions reason rest
      return report :: reports

/-- Book staged executions whose commission has not arrived. -/
def flushPendingExecutions (reason : String) : CallbackCall (List ExecutionReport) := do
  flushExecutions reason (← get).pendingExecutions.items

def isForeign (calls : IbkrCallbacks) (payload : IbkrExecutionPayload) : Bool :=
  payload.accountId.any fun accountId => accountId ≠ calls.accountId

def resolveExecutions :
    List IbkrExecutionPayload → CallbackCall (List ExecutionReport × List IbkrExecutionPayload)
  | [] => return ([], [])
  | payload :: rest => do
    let calls ← get
    if calls.isForeign payload || !calls.resolves payload.brokerOrderId then
      let (resolved, unresolved) ← resolveExecutions rest
      return (resolved, payload :: unresolved)
    else
      let key := executionKey calls.accountId payload
      if key ∈ calls.completedExecutionKeys then
        resolveExecutions rest
      else
        modify fun calls => { calls with
          pendingExecutions := calls.pendingExecutions.set key payload }
        let report ← popCommissionedExecution key
        recordCallbackEvent (executionEvent payload "ibkr_order_callback_quarantine_resolved")
        let (resolved, unresolved) ← resolveExecutions rest
        return (report.toList ++ resolved, unresolved)

def resolveQuarantined : CallbackCall (List ExecutionReport) := do
  let (resolved, unresolved) ← resolveExecutions (← get).callbackQuarantine.executions
  modify fun calls => { calls with
    callbackQuarantine := { calls.callbackQuarantine with executions := unresolved } }
  return resolved

end Qts.IbkrCallbacks
