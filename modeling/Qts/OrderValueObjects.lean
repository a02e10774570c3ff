import Qts.OrderSpecification
import Qts.OrderedDictionary
import Mathlib.Data.Finset.Sort
import Mathlib.Data.String.Basic

/-! # Order domain value objects -/

namespace Qts

open PythonText Check

inductive OrderState
  | created
  | sent
  | accepted
  | partiallyFilled
  | filled
  | cancelRequested
  | replaceRequested
  | cancelled
  | rejected
deriving DecidableEq

def OrderState.value : OrderState → String
  | created => "created"
  | sent => "sent"
  | accepted => "accepted"
  | partiallyFilled => "partially_filled"
  | filled => "filled"
  | cancelRequested => "cancel_requested"
  | replaceRequested => "replace_requested"
  | cancelled => "cancelled"
  | rejected => "rejected"

structure OrderIntentFields where
  orderId : OrderId
  instrumentId : InstrumentId
  side : OrderSide
  quantity : Decimal
  accountId : Option AccountId := none
  orderSpec : OrderSpec := OrderSpec.default
  intentId : Option String := none
deriving DecidableEq

def intentIdCheck (intentId : Option String) : Check where
  fails := intentId.any isBlank
  message := "intent_id must not be empty if provided"

def OrderIntentFields.checks (intent : OrderIntentFields) : List Check :=
  [⟨decide (intent.quantity ≤ 0), "quantity must be positive"⟩, intentIdCheck intent.intentId]

/-- Approved order instruction before broker submission. -/
structure OrderIntent extends OrderIntentFields where
  valid : firstFailure toOrderIntentFields.checks = none
deriving DecidableEq

theorem OrderIntent.quantity_pos (intent : OrderIntent) : 0 < intent.quantity := by
  have passes := (firstFailure_none _).mp intent.valid
    ⟨decide (intent.quantity ≤ 0), "quantity must be positive"⟩ List.mem_cons_self
  simpa using passes

theorem OrderIntent.intentId_check (intent : OrderIntent) :
    (intentIdCheck intent.intentId).fails = false :=
  (firstFailure_none _).mp intent.valid _ (by simp [OrderIntentFields.checks])

structure CancelIntent where
  orderId : OrderId
  reason : Option String := none

structure ReplaceIntent where
  orderId : OrderId
  newQuantity : Decimal
  pos : 0 < newQuantity

/-- Order snapshot owned by OrderManager. -/
structure Order where
  orderId : OrderId
  intent : OrderIntent
  state : OrderState
  brokerOrderId : Option String := none
deriving DecidableEq

inductive ExecutionReportStatus
  | accepted
  | partiallyFilled
  | filled
  | cancelled
  | rejected
deriving DecidableEq

structure ExecutionReportFields where
  reportId : String
  brokerOrderId : String
  status : ExecutionReportStatus
  filledQuantity : Decimal := 0
  fillPrice : Option Decimal := none
  fillId : Option String := none
  commission : Decimal := 0
  slippage : Decimal := 0
  fillTime : Option DateTime := none
  reasonCode : Option String := none
  failureReason : Option String := none
deriving DecidableEq

/-- A text that a rejected report must carry. -/
def missingText (text : Option String) : Bool :=
  text.all isBlank

def ExecutionReportFields.checks (report : ExecutionReportFields) : List Check :=
  [⟨isBlank report.reportId, "report_id must not be empty"⟩,
   ⟨isBlank report.brokerOrderId, "broker_order_id must not be empty"⟩,
   ⟨decide (report.filledQuantity < 0), "filled_quantity must be non-negative"⟩,
   ⟨decide (report.commission < 0), "commission must be non-negative"⟩,
   ⟨decide (report.slippage < 0), "slippage must be non-negative"⟩,
   ⟨decide (report.status = .rejected) && missingText report.reasonCode,
      "reason_code is required for rejected execution reports"⟩,
   ⟨decide (report.status = .rejected) && missingText report.failureReason,
      "failure_reason is required for rejected execution reports"⟩]

structure ExecutionReport extends ExecutionReportFields where
  valid : firstFailure toExecutionReportFields.checks = none
deriving DecidableEq

theorem ExecutionReportFields.valid_of_not_rejected {report : ExecutionReportFields}
    (reportId : isBlank report.reportId = false)
    (brokerOrderId : isBlank report.brokerOrderId = false)
    (filledQuantity : 0 ≤ report.filledQuantity) (commission : 0 ≤ report.commission)
    (slippage : 0 ≤ report.slippage) (status : report.status ≠ .rejected) :
    firstFailure report.checks = none := by
  rw [firstFailure_none]
  simp [checks, reportId, brokerOrderId, filledQuantity, commission, slippage, status]

/-- Build a report, or answer the message its validation raises. -/
def ExecutionReport.create (fields : ExecutionReportFields) : Except String ExecutionReport :=
  match checked : firstFailure fields.checks with
  | none => .ok ⟨fields, checked⟩
  | some msg => .error msg

theorem ExecutionReport.create_ok {fields : ExecutionReportFields}
    (valid : firstFailure fields.checks = none) :
    ExecutionReport.create fields = .ok ⟨fields, valid⟩ := by
  unfold ExecutionReport.create
  split
  · rfl
  · next msg failed => rw [valid] at failed; cases failed

structure OrderFillFields where
  fillId : String
  orderId : OrderId
  instrumentId : InstrumentId
  side : OrderSide
  quantity : Decimal
  price : Decimal
  commission : Decimal := 0
  slippage : Decimal := 0
  accountId : Option AccountId := none
  intentId : Option String := none
deriving DecidableEq

/-- OrderManager-validated fill event. -/
structure OrderFill extends OrderFillFields where
  valid : (intentIdCheck toOrderFillFields.intentId).fails = false
deriving DecidableEq

/-- Events emitted by processing an execution report. -/
structure OrderProcessingResult where
  order : Order
  fills : List OrderFill := []
deriving DecidableEq

/-- Serializable OrderManager state for reconnect and recovery. -/
structure OrderStateSnapshot where
  orders : List Order
  brokerToOrder : List (String × OrderId)
  seenFillIds : List String := []
  seenReportIds : List String := []
  fillIdsByOrder : List (OrderId × List String) := []
  reportIdsByOrder : List (OrderId × List String) := []

end Qts
