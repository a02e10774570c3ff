import Qts.BrokerRejections
import Qts.CallbackRoutes
import Qts.IbkrCallbackNormalizer
import Qts.OrderNumbers
import Qts.OrderRecordUpdates
import Qts.StepRuns

/-! # Intake of order callbacks -/

namespace Qts

open PythonText OrderNumbers RaisingCalls StepRuns Check

/-! ## Raw order callbacks -/

/-- A raw orderStatus callback; the broker always names a status. -/
structure RawOrderStatus where
  orderId : Int
  status : String
  permId : Option Int := none
  statusShown : isBlank status = false

structure RawOpenOrder where
  orderId : Int
  orderRef : String
  permId : Option Int := none
  status : String
  symbol : Option String := none
  action : Option String := none
  totalQuantity : Option Decimal := none
  pos : ∀ quantity, totalQuantity = some quantity → 0 < quantity

def RawOrderStatus.fields (raw : RawOrderStatus) : IbkrOrderStatusFields where
  reportId := "ibkr-status-" ++ toString raw.orderId ++ "-" ++ raw.status.toLower
  brokerOrderId := toString raw.orderId
  status := raw.status
  permId := raw.permId.map toString

def RawOpenOrder.fields (raw : RawOpenOrder) : IbkrOpenOrderFields where
  reportId := "ibkr-open-order-" ++ toString raw.orderId
  brokerOrderId := toString raw.orderId
  clientOrderId := shown raw.orderRef
  permId := (raw.permId.filter fun permId => decide (permId ≠ 0)).map toString
  status := shown raw.status
  brokerSymbol := raw.symbol.bind shown
  side := raw.action.bind shown
  quantity := raw.totalQuantity

theorem RawOrderStatus.fields_valid (raw : RawOrderStatus) :
    Check.firstFailure raw.fields.checks = none := by
  have reportId : isBlank raw.fields.reportId = false := by
    unfold fields
    simp only [String.append_assoc]
    exact isBlank_append_of_left (by decide) _
  have brokerOrderId := toString_int_visible raw.orderId
  have permId : raw.fields.permId.any isBlank = false := by
    unfold fields
    cases raw.permId with
    | none => rfl
    | some permId => exact toString_int_visible permId
  rw [Check.firstFailure_none]
  simp only [IbkrOrderStatusFields.checks, List.forall_mem_cons]
  exact ⟨reportId, brokerOrderId, raw.statusShown, permId, by simp⟩

theorem RawOpenOrder.fields_valid (raw : RawOpenOrder) :
    Check.firstFailure raw.fields.checks = none := by
  have bound : ∀ text : Option String,
      (text.bind shown).any isBlank = false := by
    intro text
    cases text with
    | none => rfl
    | some text => exact any_isBlank_shown text
  have permId : raw.fields.permId.any isBlank = false := by
    unfold fields
    cases raw.permId.filter fun permId => decide (permId ≠ 0) with
    | none => rfl
    | some permId => exact toString_int_visible permId
  have quantity : (raw.fields.quantity.any fun quantity => decide (quantity ≤ 0)) = false := by
    unfold fields
    cases found : raw.totalQuantity with
    | none => rfl
    | some quantity => exact decide_eq_false (not_le.mpr (raw.pos quantity found))
  rw [Check.firstFailure_none]
  simp only [IbkrOpenOrderFields.checks, List.forall_mem_cons]
  exact ⟨isBlank_append_of_left (by decide) _,
    toString_int_visible raw.orderId, any_isBlank_shown raw.orderRef, permId,
    any_isBlank_shown raw.status, bound raw.symbol, bound raw.action, quantity, by simp⟩

def RawOrderStatus.payload (raw : RawOrderStatus) : IbkrOrderStatusPayload :=
  ⟨raw.fields, raw.fields_valid⟩

def RawOpenOrder.payload (raw : RawOpenOrder) : IbkrOpenOrderPayload :=
  ⟨raw.fields, raw.fields_valid⟩

inductive RawOrderCallback
  | orderStatus (raw : RawOrderStatus) (now : DateTime)
  | openOrder (raw : RawOpenOrder) (now : DateTime)

namespace IbkrCallbackNormalizer

open IbkrCallbacks RaisingCalls

def handleOrderStatus (raw : RawOrderStatus) (now : DateTime) :
    NormalizerCall (Option ExecutionReport) :=
  onCallbacks (onOrderStatus raw.payload now)

def handleOpenOrder (raw : RawOpenOrder) (now : DateTime) :
    NormalizerCall (Option ExecutionReport) := do
  onOpenOrder raw.payload now
  return none

def takeIn : StepRuns.Step IbkrCallbackNormalizer RawOrderCallback
    (Except CallbackError (Option ExecutionReport))
  | normalizer, .orderStatus raw now =>
    answer .ok .error ((handleOrderStatus raw now).run normalizer)
  | normalizer, .openOrder raw now =>
    answer .ok .error ((handleOpenOrder raw now).run normalizer)

end IbkrCallbackNormalizer

/-! ## Intake of order callbacks -/

namespace IbkrCallbacks

open BrokerOrderMap

section Raising

variable {Value Next : Type} {returned : Next → IbkrCallbacks → Prop}
  {failed : CallbackError → IbkrCallbacks → Prop} {result : Except CallbackError Value}
  {next : Value → CallbackCall Next} {calls : IbkrCallbacks}

theorem ends_raising_ok {value : Value} (found : result = .ok value)
    (rest : Ends returned failed (next value) calls) :
    Ends returned failed (raising result >>= next) calls := by
  subst found
  exact rest

theorem ends_raising_error {failure : CallbackError} (found : result = .error failure)
    (holds : failed failure calls) :
    Ends returned failed (raising result >>= next) calls := by
  subst found
  exact holds

end Raising

/-- What a status leaves of the map: the order's record, with the permanent id it brought. -/
structure Updated (map : BrokerOrderMap) (record : BrokerOrderRecord) (permId : Option String)
    (after : BrokerOrderMap) : Prop where
  others : ∀ other, other ≠ record.clientOrderId →
    after.byClientOrderId.get? other = map.byClientOrderId.get? other
  own : ∃ updated, after.byClientOrderId.get? record.clientOrderId = some updated ∧
    updated.permId = permId.or record.permId

theorem Updated.of_rewrites {map after : BrokerOrderMap} {record updated : BrokerOrderRecord}
    (rewrites : Rewrites map updated after) (client : updated.clientOrderId = record.clientOrderId)
    {permId : Option String} (perm : updated.permId = permId.or record.permId) :
    Updated map record permId after where
  others other ne := by rw [rewrites.records, if_neg (client.symm ▸ ne)]
  own := ⟨updated, by rw [rewrites.records, client, if_pos rfl], perm⟩

theorem Updated.trans {map between after : BrokerOrderMap} {record middle : BrokerOrderRecord}
    {early late : Option String} (first : Updated map record early between)
    (client : middle.clientOrderId = record.clientOrderId)
    (perm : middle.permId = early.or record.permId) (second : Updated between middle late after) :
    Updated map record (late.or early) after where
  others other ne :=
    (second.others other (client.symm ▸ ne)).trans (first.others other ne)
  own := by
    obtain ⟨updated, found, same⟩ := second.own
    exact ⟨updated, client ▸ found, by rw [same, perm, Option.or_assoc]⟩

/-- A status text that makes a report: a supported one that is no rejection. -/
def Reportable (status : String) : Prop :=
  ∃ reportStatus, statusFromIbkr status = .ok reportStatus ∧ reportStatus ≠ .rejected

theorem reportable_of_lateCancel {current status : String}
    (late : isLateCancelAfterFill current status = true) : Reportable status := by
  have texts : normalizedStatus status = "apicancelled" ∨
      normalizedStatus status = "cancelled" := by
    simpa [isLateCancelAfterFill] using (Bool.and_eq_true_iff.mp late).2
  refine ⟨.cancelled, ?_, by decide⟩
  rcases texts with text | text
  · rw [statusFromIbkr, text]
    rfl
  · rw [statusFromIbkr, text]
    rfl

/-- The rest of tracking a status once its permanent id is attached. -/
def followStatus (map : BrokerOrderMap) (payload : IbkrOrderStatusPayload) (now : DateTime) :
    CallbackCall Bool := do
  let record ← raising (map.byIbkrOrderId payload.brokerOrderId)
  if isLateCancelAfterFill record.status payload.status then
    recordCallbackEvent (orderStatusEvent payload "ibkr_order_callback_late_terminal_dropped"
      (some "late_cancel_after_filled"))
    return false
  updateOrderMap (map.markStatus payload.brokerOrderId payload.status now)
  return true

theorem trackStatus_eq (map : BrokerOrderMap) (payload : IbkrOrderStatusPayload) (now : DateTime) :
    trackStatus map payload now =
      match payload.permId with
      | none => followStatus map payload now
      | some permId =>
        (do
          let stored ← raising (map.attachPermId payload.brokerOrderId permId)
          modify fun calls => { calls with orderMap := some stored.2 }
          followStatus stored.2 payload now) := by
  unfold trackStatus followStatus
  cases payload.permId with
  | none => rfl
  | some permId => rfl

variable {map : BrokerOrderMap} {record : BrokerOrderRecord} {payload : IbkrOrderStatusPayload}
  {calls : IbkrCallbacks}

theorem status_visible (payload : IbkrOrderStatusPayload) :
    isBlank payload.status = false ∧ payload.permId.any isBlank = false := by
  have passes := (firstFailure_none _).mp payload.valid
  simp only [IbkrOrderStatusFields.checks, List.forall_mem_cons] at passes
  exact ⟨passes.2.2.1, passes.2.2.2.1⟩

/-- How tracking the status of a recorded order ends: it goes on unless the order is filled and the
status a cancellation. -/
def Tracked (map : BrokerOrderMap) (record : BrokerOrderRecord) (payload : IbkrOrderStatusPayload)
    (permId : Option String) (calls : IbkrCallbacks) (goesOn : Bool) (after : IbkrCallbacks) :
    Prop :=
  (goesOn = false → Reportable payload.status) ∧
    after.seenOrderStatusKeys = calls.seenOrderStatusKeys ∧
    ∃ updated, after.orderMap = some updated ∧ Updated map record permId updated

section

variable (indexed : map.Indexed) (holds : map.Holds record)
  (has : record.ibkrOrderId = some payload.brokerOrderId) (now : DateTime)
  (current : calls.orderMap = some map)

include indexed holds has now current

theorem followStatus_ends :
    Ends (Tracked map record payload none calls) (fun _ _ => False)
      (followStatus map payload now) calls := by
  refine ends_raising_ok (byIbkrOrderId_of_holds indexed holds has) ?_
  split
  next late =>
    refine ends_modify_bind ?_
    exact Ends.pure ⟨fun _ => reportable_of_lateCancel late, rfl, map, current, fun _ _ => rfl,
      record, holds, rfl⟩
  next timely =>
    obtain ⟨updated, after, marked, fields, rewrites⟩ :=
      markStatus_found indexed holds has (status_visible payload).1 now
    have left : Updated map record none after :=
      .of_rewrites rewrites (congrArg (·.clientOrderId) fields) (congrArg (·.permId) fields)
    unfold updateOrderMap
    rw [bind_assoc]
    refine ends_raising_ok marked ?_
    refine ends_modify_bind ?_
    refine Ends.pure ⟨?_, rfl, after, rfl, left⟩
    rintro ⟨⟩

section

variable
  (free : ∀ permId, payload.permId = some permId →
      ¬ map.HeldElsewhere (·.permId) permId record.clientOrderId)

include free

theorem trackStatus_ends :
    Ends (Tracked map record payload payload.permId calls) (fun _ _ => False)
      (trackStatus map payload now) calls := by
  have shown := (status_visible payload).2
  rw [trackStatus_eq]
  cases perm : payload.permId with
  | none => exact followStatus_ends indexed holds has now current
  | some permId =>
    rw [perm] at shown
    obtain ⟨middle, between, attached, fields, rewrites⟩ :=
      attachPermId_free indexed holds has shown (free permId perm)
    have client : middle.clientOrderId = record.clientOrderId := congrArg (·.clientOrderId) fields
    have middlePerm : middle.permId = some permId := congrArg (·.permId) fields
    have middleHas : middle.ibkrOrderId = some payload.brokerOrderId :=
      (congrArg (·.ibkrOrderId) fields).trans has
    refine ends_raising_ok attached ?_
    refine ends_modify_bind ?_
    refine (followStatus_ends rewrites.indexed rewrites.holds middleHas now rfl).mono ?_
    rintro goesOn after ⟨late, seen, updated, found, second⟩
    have first : Updated map record (some permId) between := .of_rewrites rewrites client middlePerm
    exact ⟨late, seen, updated, found, first.trans client middlePerm second⟩

/-- Other failures than a missing key leave the handler of unknown orders. -/
theorem noteStatus_ends :
    Ends (Tracked map record payload payload.permId calls) (fun _ _ => False)
      (noteStatus payload now) calls := by
  refine Ends.get ?_
  rw [current]
  exact (trackStatus_ends indexed holds has now current free).tryCatch fun _ _ never => never.elim

end

end

theorem normalize_status {status : ExecutionReportStatus} (payload : IbkrOrderStatusPayload)
    (accepted : status ≠ .rejected) (calls : IbkrCallbacks) :
    ∃ report, (normalizeIbkrExecutionReport {
      reportId := payload.reportId
      brokerOrderId := payload.brokerOrderId
      status }).run calls = .ok report calls := by
  have passes := (firstFailure_none _).mp payload.valid
  simp only [IbkrOrderStatusFields.checks, List.forall_mem_cons] at passes
  let fields : ExecutionReportFields := {
    reportId := payload.reportId
    brokerOrderId := payload.brokerOrderId
    status }
  have valid : firstFailure fields.checks = none :=
    ExecutionReportFields.valid_of_not_rejected passes.1 passes.2.1 (le_refl _) (le_refl _)
      (le_refl _) accepted
  refine ⟨⟨fields, valid⟩, ?_⟩
  have created := ExecutionReport.create_ok valid
  unfold normalizeIbkrExecutionReport
  simp only [fields] at created
  rw [created]
  rfl

theorem normalize_rejected (payload : IbkrOrderStatusPayload) (calls : IbkrCallbacks) :
    Ends (fun _ _ => False) (fun _ _ => True) (normalizeIbkrExecutionReport {
      reportId := payload.reportId
      brokerOrderId := payload.brokerOrderId
      status := .rejected }) calls := by
  unfold Ends
  cases ran : (normalizeIbkrExecutionReport {
      reportId := payload.reportId
      brokerOrderId := payload.brokerOrderId
      status := .rejected }).run calls with
  | ok report after => exact normalizeIbkrExecutionReport_rejected _ _ _ _ _ ran
  | error failure after => trivial

def statusKey (payload : IbkrOrderStatusPayload) : OrderStatusKey :=
  (payload.brokerOrderId, payload.status, payload.permId)

/-- What follows once a callback is known to be new. -/
def processStatus (payload : IbkrOrderStatusPayload) (now : DateTime) :
    CallbackCall (Option ExecutionReport) := do
  let tracked ← noteStatus payload now
  if !tracked then
    return none
  modify fun calls => { calls with
    seenOrderStatusKeys := insert (statusKey payload) calls.seenOrderStatusKeys }
  let status ← raising (statusFromIbkr payload.status)
  let report ← normalizeIbkrExecutionReport {
    reportId := payload.reportId
    brokerOrderId := payload.brokerOrderId
    status }
  return some report

def received (calls : IbkrCallbacks) (payload : IbkrOrderStatusPayload) : IbkrCallbacks :=
  { calls with callbackEvents :=
      calls.callbackEvents ++ [orderStatusEvent payload "ibkr_order_status_received"] }

theorem onOrderStatus_fresh (fresh : statusKey payload ∉ calls.seenOrderStatusKeys)
    (now : DateTime) :
    (onOrderStatus payload now).run calls =
      (processStatus payload now).run (received calls payload) := by
  change (if statusKey payload ∈ calls.seenOrderStatusKeys then _ else
    processStatus payload now : CallbackCall (Option ExecutionReport)).run _ = _
  rw [if_neg fresh]
  rfl

theorem onOrderStatus_seen (seen : statusKey payload ∈ calls.seenOrderStatusKeys)
    (now : DateTime) :
    Ends (fun report after => report = none ∧ after.orderMap = calls.orderMap ∧
        after.seenOrderStatusKeys = calls.seenOrderStatusKeys) (fun _ _ => False)
      (onOrderStatus payload now) calls := by
  unfold onOrderStatus
  refine ends_modify_bind (Ends.get ?_)
  split
  · refine ends_modify_bind ?_
    exact Ends.pure ⟨rfl, rfl, rfl⟩
  · next unseen => exact absurd seen unseen

section

variable (fresh : statusKey payload ∉ calls.seenOrderStatusKeys)
  (current : calls.orderMap = some map)

include fresh current

theorem onOrderStatus_unknown {key : String}
    (unknown : map.byIbkrOrderId payload.brokerOrderId = .error (.keyError key)) (now : DateTime) :
    Ends (fun report after => report = none ∧ after.orderMap = calls.orderMap ∧
        after.seenOrderStatusKeys = calls.seenOrderStatusKeys) (fun _ _ => False)
      (onOrderStatus payload now) calls := by
  have refused : ∀ state : IbkrCallbacks, Ends (fun _ _ => False)
      (fun failure after => failure = .keyError key ∧ after = state)
      (trackStatus map payload now) state := by
    intro state
    rw [trackStatus_eq]
    cases payload.permId with
    | none => exact ends_raising_error unknown ⟨rfl, rfl⟩
    | some permId =>
      have attach : map.attachPermId payload.brokerOrderId permId = .error (.keyError key) := by
        rw [attachPermId, unknown]
        rfl
      exact ends_raising_error attach ⟨rfl, rfl⟩
  rw [Ends, onOrderStatus_fresh fresh]
  change Ends _ _ (processStatus payload now) _
  unfold processStatus
  refine @Ends.bind _ _ _ _ _ _ (fun goesOn after => goesOn = false ∧
    after.orderMap = calls.orderMap ∧
      after.seenOrderStatusKeys = calls.seenOrderStatusKeys) _ _ _ ?_ ?_
  · refine Ends.get ?_
    split
    · next other found =>
      obtain rfl := Option.mem_unique current found
      refine ((refused _).mono fun _ _ never => never.elim).tryCatch ?_
      rintro failure after ⟨rfl, rfl⟩
      exact ⟨rfl, rfl, rfl⟩
    · next missing => cases current.symm.trans missing
  · rintro goesOn after ⟨rfl, kept⟩
    exact Ends.pure ⟨rfl, kept⟩

/-- A permanent id that another order has makes the handler raise. -/
theorem onOrderStatus_elsewhere (indexed : map.Indexed) (holds : map.Holds record)
    (has : record.ibkrOrderId = some payload.brokerOrderId) {permId : String}
    (brought : payload.permId = some permId)
    (elsewhere : map.HeldElsewhere (·.permId) permId record.clientOrderId) (now : DateTime) :
    Ends (fun _ _ => False) (fun _ _ => True) (onOrderStatus payload now) calls := by
  have shown := (status_visible payload).2
  rw [brought] at shown
  obtain ⟨msg, refused⟩ := attachPermId_taken indexed holds has shown elsewhere
  have raised : ∀ state : IbkrCallbacks, Ends (fun _ _ => False)
      (fun failure _ => failure = .valueError msg) (trackStatus map payload now) state := by
    intro state
    rw [trackStatus_eq, brought]
    exact ends_raising_error refused rfl
  rw [Ends, onOrderStatus_fresh fresh]
  change Ends _ _ (processStatus payload now) _
  unfold processStatus
  refine @Ends.bind _ _ _ _ _ _ (fun _ _ => False) _ _ _ ?_ fun _ _ never => never.elim
  refine Ends.get ?_
  split
  · next other found =>
    obtain rfl := Option.mem_unique current found
    refine (raised _).tryCatch ?_
    rintro failure after rfl
    exact Ends.throw trivial
  · next missing => cases current.symm.trans missing

theorem onOrderStatus_ends (indexed : map.Indexed) (holds : map.Holds record)
    (has : record.ibkrOrderId = some payload.brokerOrderId)
    (free : ∀ permId, payload.permId = some permId →
      ¬ map.HeldElsewhere (·.permId) permId record.clientOrderId) (now : DateTime) :
    Ends (fun report after => Reportable payload.status ∧
        (report = none → after.seenOrderStatusKeys = calls.seenOrderStatusKeys) ∧
        ∃ updated, after.orderMap = some updated ∧ Updated map record payload.permId updated)
      (fun _ _ => ¬ Reportable payload.status) (onOrderStatus payload now) calls := by
  rw [Ends, onOrderStatus_fresh fresh]
  change Ends _ _ (processStatus payload now) _
  unfold processStatus
  have noted : Ends (Tracked map record payload payload.permId (received calls payload))
      (fun _ _ => False) (noteStatus payload now) (received calls payload) :=
    noteStatus_ends indexed holds has now current free
  refine Ends.bind (noted.mono_failed fun _ _ never => never.elim) ?_
  rintro goesOn between ⟨late, seen, tracked⟩
  cases goesOn with
  | false => exact Ends.pure ⟨late rfl, fun _ => seen, tracked⟩
  | true =>
    refine ends_modify_bind ?_
    cases found : statusFromIbkr payload.status with
    | error failure =>
      refine ends_raising_error rfl ?_
      rintro ⟨status, supported, _⟩
      rw [found] at supported
      cases supported
    | ok status =>
      refine ends_raising_ok rfl ?_
      by_cases rejected : status = .rejected
      · subst rejected
        have unreportable : ¬ Reportable payload.status := by
          rintro ⟨status, supported, accepted⟩
          rw [found] at supported
          exact accepted (Except.ok.inj supported).symm
        refine Ends.bind ((normalize_rejected payload _).mono_failed fun _ _ _ => unreportable) ?_
        exact fun _ _ never => never.elim
      · let marked : IbkrCallbacks := { between with
          seenOrderStatusKeys := insert (statusKey payload) between.seenOrderStatusKeys }
        obtain ⟨report, made⟩ := normalize_status payload rejected marked
        refine Ends.of_ok (bind_run_ok made) ⟨⟨status, found, rejected⟩, ?_, tracked⟩
        rintro ⟨⟩

end

end IbkrCallbacks

namespace IbkrCallbackNormalizer

open BrokerOrderMap IbkrCallbacks

section Raising

variable {Value Next : Type} {returned : Next → IbkrCallbackNormalizer → Prop}
  {failed : CallbackError → IbkrCallbackNormalizer → Prop} {result : Except CallbackError Value}
  {next : Value → NormalizerCall Next} {normalizer : IbkrCallbackNormalizer}

theorem ends_raise_ok {value : Value} (found : result = .ok value)
    (rest : Ends returned failed (next value) normalizer) :
    Ends returned failed (raise result >>= next) normalizer := by
  subst found
  exact rest

theorem ends_raise_error {failure : CallbackError} (found : result = .error failure)
    (holds : failed failure normalizer) :
    Ends returned failed (raise result >>= next) normalizer := by
  subst found
  exact holds

end Raising

variable {map : BrokerOrderMap} {record : BrokerOrderRecord} {payload : IbkrOpenOrderPayload}
  {normalizer : IbkrCallbackNormalizer}

structure Unmarked (before after : IbkrCallbackNormalizer) : Prop where
  symbols : after.symbolMapping = before.symbolMapping
  seen : after.seenOpenOrderKeys = before.seenOpenOrderKeys
  quarantined : after.quarantinedOpenOrders = before.quarantinedOpenOrders

def SideKnown (mapping : BrokerSymbolMapping) (payload : IbkrOpenOrderPayload) : Prop :=
  ∀ brokerSymbol side quantity status instrumentId, payload.brokerSymbol = some brokerSymbol →
    payload.side = some side → payload.quantity = some quantity → payload.status = some status →
    mapping.toInstrumentId brokerSymbol = .ok instrumentId →
    ∃ orderSide, orderSideFromIbkr side = .ok orderSide

theorem openOrder_visible (payload : IbkrOpenOrderPayload) :
    isBlank payload.brokerOrderId = false ∧
      payload.clientOrderId.any isBlank = false ∧
      payload.permId.any isBlank = false ∧
      payload.status.any isBlank = false ∧
      payload.brokerSymbol.any isBlank = false ∧
      payload.quantity.any (fun quantity => decide (quantity ≤ 0)) = false := by
  have passes := (firstFailure_none _).mp payload.valid
  simp only [IbkrOpenOrderFields.checks, List.forall_mem_cons] at passes
  obtain ⟨-, broker, client, perm, status, symbol, -, quantity, -⟩ := passes
  exact ⟨broker, client, perm, status, symbol, quantity⟩

def markOpenStatus (map : BrokerOrderMap) (payload : IbkrOpenOrderPayload) (now : DateTime) :
    NormalizerCall Unit :=
  match payload.status with
  | some status => onCallbacks (updateOrderMap (map.markStatus payload.brokerOrderId status now))
  | none => pure ()

def keepMap (map : BrokerOrderMap) : NormalizerCall Unit :=
  modify fun normalizer => { normalizer with
    calls := { normalizer.calls with orderMap := some map } }

theorem linkOpenOrder_eq (map : BrokerOrderMap) (payload : IbkrOpenOrderPayload)
    (clientOrderId : String) (now : DateTime) :
    linkOpenOrder map payload clientOrderId now =
      (do
        let attached ← raise (map.attachIbkrOrderId clientOrderId payload.brokerOrderId)
        keepMap attached.2
        match payload.permId with
        | none => markOpenStatus attached.2 payload now
        | some permId => do
          let permed ← raise (attached.2.attachPermId payload.brokerOrderId permId)
          keepMap permed.2
          markOpenStatus permed.2 payload now) := by
  unfold linkOpenOrder markOpenStatus keepMap
  cases payload.permId with
  | none => rfl
  | some permId => rfl

theorem ends_keepMap_bind {Value : Type} {returned : Value → IbkrCallbackNormalizer → Prop}
    {failed : CallbackError → IbkrCallbackNormalizer → Prop} {next : Unit → NormalizerCall Value}
    (rest : Ends returned failed (next ()) { normalizer with
      calls := { normalizer.calls with orderMap := some map } }) :
    Ends returned failed (keepMap map >>= next) normalizer :=
  rest

theorem markOpenStatus_ends (indexed : map.Indexed) (holds : map.Holds record)
    (has : record.ibkrOrderId = some payload.brokerOrderId) (now : DateTime)
    (current : normalizer.calls.orderMap = some map) :
    Ends (fun _ after => Unmarked normalizer after ∧ ∃ updated,
        after.calls.orderMap = some updated ∧ Updated map record none updated)
      (fun _ _ => False) (markOpenStatus map payload now) normalizer := by
  obtain ⟨-, -, -, shown, -, -⟩ := openOrder_visible payload
  unfold markOpenStatus
  cases brought : payload.status with
  | none =>
    exact Ends.pure ⟨⟨rfl, rfl, rfl⟩, map, current, fun _ _ => rfl, record, holds, rfl⟩
  | some status =>
    rw [brought] at shown
    obtain ⟨updated, after, marked, fields, rewrites⟩ :=
      markStatus_found indexed holds has shown now
    dsimp only
    rw [marked]
    exact ⟨⟨rfl, rfl, rfl⟩, after, rfl, .of_rewrites rewrites
      (congrArg (·.clientOrderId) fields) (congrArg (·.permId) fields)⟩

theorem linkOpenOrder_ends (indexed : map.Indexed) (holds : map.Holds record) (now : DateTime)
    (freeIbkr : ¬ map.HeldElsewhere (·.ibkrOrderId) payload.brokerOrderId record.clientOrderId)
    (freePerm : ∀ permId, payload.permId = some permId →
      ¬ map.HeldElsewhere (·.permId) permId record.clientOrderId) :
    Ends (fun _ after => Unmarked normalizer after ∧ ∃ updated,
        after.calls.orderMap = some updated ∧ Updated map record payload.permId updated)
      (fun _ _ => False) (linkOpenOrder map payload record.clientOrderId now) normalizer := by
  obtain ⟨brokerShown, -, permShown, statusShown, -, -⟩ := openOrder_visible payload
  obtain ⟨first, attached, ran, fields, rewrites⟩ :=
    attachIbkrOrderId_free indexed holds brokerShown freeIbkr
  have client : first.clientOrderId = record.clientOrderId := congrArg (·.clientOrderId) fields
  have has : first.ibkrOrderId = some payload.brokerOrderId := congrArg (·.ibkrOrderId) fields
  have perm : first.permId = record.permId := congrArg (·.permId) fields
  have linked : Updated map record none attached := .of_rewrites rewrites client perm
  rw [linkOpenOrder_eq]
  refine ends_raise_ok ran ?_
  refine ends_keepMap_bind ?_
  cases brought : payload.permId with
  | none =>
    refine (markOpenStatus_ends rewrites.indexed rewrites.holds has now rfl).mono ?_
    rintro _ after ⟨unmarked, updated, found, last⟩
    exact ⟨⟨unmarked.symbols, unmarked.seen, unmarked.quarantined⟩, updated, found,
      linked.trans client perm last⟩
  | some permId =>
    rw [brought] at permShown
    have free : ¬ attached.HeldElsewhere (·.permId) permId first.clientOrderId := by
      rw [rewrites.heldElsewhere, client]
      exact freePerm permId brought
    obtain ⟨second, permed, permRan, permFields, permRewrites⟩ :=
      attachPermId_free rewrites.indexed rewrites.holds has permShown free
    have secondClient : second.clientOrderId = first.clientOrderId :=
      congrArg (·.clientOrderId) permFields
    have secondPerm : second.permId = some permId := congrArg (·.permId) permFields
    have secondHas : second.ibkrOrderId = some payload.brokerOrderId :=
      (congrArg (·.ibkrOrderId) permFields).trans has
    have attachedPerm : Updated attached first (some permId) permed :=
      .of_rewrites permRewrites secondClient secondPerm
    have permLinked : Updated map record (some permId) permed :=
      linked.trans client perm attachedPerm
    refine ends_raise_ok permRan ?_
    refine ends_keepMap_bind ?_
    refine (markOpenStatus_ends permRewrites.indexed permRewrites.holds secondHas now rfl).mono ?_
    rintro _ after ⟨unmarked, updated, found, last⟩
    exact ⟨⟨unmarked.symbols, unmarked.seen, unmarked.quarantined⟩, updated, found,
      permLinked.trans (secondClient.trans client) secondPerm last⟩

/-- The handler leaves the map as it is. -/
structure Passed (before after : IbkrCallbackNormalizer) : Prop extends Unmarked before after where
  orderMap : after.calls.orderMap = before.calls.orderMap

theorem keepOpenOrder_ends (payload : IbkrOpenOrderPayload) (internalOrderId : OrderId)
    (normalizer : IbkrCallbackNormalizer) :
    Ends (fun _ after => SideKnown normalizer.symbolMapping payload ∧ Passed normalizer after)
      (fun failure after =>
        (SideKnown normalizer.symbolMapping payload ∧ Passed normalizer after ∧
          ∃ key, failure = .keyError key) ∨
        ¬ SideKnown normalizer.symbolMapping payload ∧ ∃ msg, failure = .valueError msg)
      (keepOpenOrder payload internalOrderId) normalizer := by
  obtain ⟨-, -, -, statusShown, symbolShown, pos⟩ := openOrder_visible payload
  unfold keepOpenOrder
  split
  next brokerSymbol side quantity status symbol sided quantified marked =>
    refine Ends.get ?_
    cases mapped : normalizer.symbolMapping.toInstrumentId brokerSymbol with
    | error failure =>
      have known : SideKnown normalizer.symbolMapping payload := by
        intro brokerSymbol' _ _ _ instrumentId same _ _ _ found
        rw [symbol] at same
        obtain rfl := Option.some.inj same
        rw [mapped] at found
        cases found
      refine ends_raise_error rfl (.inl ⟨known, ⟨⟨rfl, rfl, rfl⟩, rfl⟩, ?_⟩)
      rw [symbol] at symbolShown
      have nonempty : strip brokerSymbol ≠ "" := fun empty =>
        Bool.eq_false_iff.mp symbolShown ((strip_eq_empty_iff brokerSymbol).mp empty)
      rw [BrokerSymbolMapping.toInstrumentId, if_neg nonempty] at mapped
      split at mapped
      · cases mapped
      · cases mapped
        exact ⟨_, rfl⟩
    | ok instrumentId =>
      refine ends_raise_ok rfl ?_
      cases named : orderSideFromIbkr side with
      | error failure =>
        refine ends_raise_error rfl (.inr ⟨fun known => ?_, ?_⟩)
        · obtain ⟨orderSide, found⟩ :=
            known brokerSymbol side quantity status instrumentId symbol sided quantified marked
                mapped
          rw [named] at found
          cases found
        · unfold orderSideFromIbkr at named
          dsimp only at named
          split at named
          · cases named
          · split at named
            · cases named
            · cases named
              exact ⟨_, rfl⟩
      | ok orderSide =>
        refine ends_raise_ok rfl ?_
        let fields : OrderSnapshotFields := {
          orderId := internalOrderId
          instrumentId
          side := orderSide
          quantity, status }
        have valid : firstFailure fields.checks = none := by
          rw [quantified] at pos
          rw [marked] at statusShown
          rw [firstFailure_none]
          simp only [OrderSnapshotFields.checks, List.forall_mem_cons]
          exact ⟨pos, statusShown, by simp⟩
        have created : (OrderSnapshot.create fields).mapError CallbackError.valueError =
            .ok ⟨fields, valid⟩ := by
          unfold OrderSnapshot.create
          split
          · rfl
          · next msg failed =>
            rw [valid] at failed
            cases failed
        refine ends_raise_ok created ?_
        refine Ends.modify ⟨?_, ⟨rfl, rfl, rfl⟩, rfl⟩
        intro brokerSymbol' side' _ _ _ _ same _ _ _
        rw [sided] at same
        obtain rfl := Option.some.inj same
        exact ⟨orderSide, named⟩
  next incomplete =>
    refine Ends.pure ⟨?_, ⟨⟨rfl, rfl, rfl⟩, rfl⟩⟩
    intro brokerSymbol side quantity status _ symbol sided quantified marked _
    exact (incomplete brokerSymbol side quantity status symbol sided quantified marked).elim

def receivedOpenOrder (normalizer : IbkrCallbackNormalizer) (payload : IbkrOpenOrderPayload) :
    IbkrCallbackNormalizer :=
  { normalizer with calls := { normalizer.calls with callbackEvents :=
      normalizer.calls.callbackEvents ++ [openOrderEvent payload "ibkr_open_order_received"] } }

theorem quarantineOpenOrder_ends (reason : String) (normalizer : IbkrCallbackNormalizer) :
    Ends (fun _ after => after.calls.orderMap = normalizer.calls.orderMap ∧
        after.seenOpenOrderKeys = normalizer.seenOpenOrderKeys) (fun _ _ => False)
      (quarantineOpenOrder payload reason) normalizer := by
  refine ends_modify_bind ?_
  exact Ends.modify ⟨rfl, rfl⟩

def unresolvedOpenOrder (payload : IbkrOpenOrderPayload) : CallbackError → NormalizerCall Unit
  | .keyError _ => quarantineOpenOrder payload "unknown_client_order_id"
  | .valueError msg => throw (.valueError msg)

theorem onOpenOrder_run (current : normalizer.calls.orderMap = some map) (now : DateTime) :
    (onOpenOrder payload now).run normalizer =
      (match payload.clientOrderId with
        | none => quarantineOpenOrder payload "missing_client_order_id"
        | some clientOrderId =>
          tryCatch (trackOpenOrder map payload clientOrderId now)
            (unresolvedOpenOrder payload) : NormalizerCall Unit).run
        (receivedOpenOrder normalizer payload) := by
  have recorded : (record (openOrderEvent payload "ibkr_open_order_received")).run normalizer =
      .ok () (receivedOpenOrder normalizer payload) := rfl
  have kept : (receivedOpenOrder normalizer payload).calls.orderMap = some map := current
  simp only [onOpenOrder, EStateM.run_bind, recorded, EStateM.run_get, kept]
  cases payload.clientOrderId with
  | none => rfl
  | some clientOrderId => rfl

theorem onOpenOrder_passed (current : normalizer.calls.orderMap = some map)
    (passed : openOrderKey payload ∈ normalizer.seenOpenOrderKeys ∨
      ∀ clientOrderId, payload.clientOrderId = some clientOrderId →
        map.byClientOrderId.get? clientOrderId = none) (now : DateTime) :
    Ends (fun _ after => after.calls.orderMap = some map ∧
        after.seenOpenOrderKeys = normalizer.seenOpenOrderKeys) (fun _ _ => False)
      (onOpenOrder payload now) normalizer := by
  obtain ⟨-, clientShown, -, -, -, -⟩ := openOrder_visible payload
  have quarantined : ∀ reason, Ends (fun _ after => after.calls.orderMap = some map ∧
      after.seenOpenOrderKeys = normalizer.seenOpenOrderKeys) (fun _ _ => False)
      (quarantineOpenOrder payload reason) (receivedOpenOrder normalizer payload) := by
    intro reason
    refine (quarantineOpenOrder_ends reason _).mono ?_
    rintro _ after ⟨same, seen⟩
    exact ⟨same.trans current, seen⟩
  rw [Ends, onOpenOrder_run current]
  cases named : payload.clientOrderId with
  | none => exact quarantined _
  | some clientOrderId =>
    have shown : isBlank clientOrderId = false := by
      rw [named] at clientShown
      exact clientShown
    by_cases seen : openOrderKey payload ∈ normalizer.seenOpenOrderKeys
    · have dropped : Ends (fun _ after => after.calls.orderMap = some map ∧
          after.seenOpenOrderKeys = normalizer.seenOpenOrderKeys) (fun _ _ => False)
          (trackOpenOrder map payload clientOrderId now)
          (receivedOpenOrder normalizer payload) := by
        refine Ends.get ?_
        split
        · exact Ends.modify ⟨current, rfl⟩
        · next unseen => exact absurd seen unseen
      exact dropped.tryCatch fun _ _ never => never.elim
    · have unknown : map.requireClientOrderId clientOrderId = .error (.keyError clientOrderId) := by
        have absent := (passed.resolve_left seen) clientOrderId named
        rw [BrokerOrderMap.requireClientOrderId, if_neg (Bool.eq_false_iff.mp shown), absent]
      have refused : Ends (fun _ _ => False) (fun failure after =>
          failure = .keyError clientOrderId ∧ after = receivedOpenOrder normalizer payload)
          (trackOpenOrder map payload clientOrderId now)
          (receivedOpenOrder normalizer payload) := by
        refine Ends.get ?_
        split
        · next again => exact absurd again seen
        · exact ends_raise_error unknown ⟨rfl, rfl⟩
      refine (refused.mono fun _ _ never => never.elim).tryCatch ?_
      rintro failure after ⟨rfl, rfl⟩
      exact quarantined _

section

variable (fresh : openOrderKey payload ∉ normalizer.seenOpenOrderKeys)
  (current : normalizer.calls.orderMap = some map) (indexed : map.Indexed)
  (holds : map.Holds record) (named : payload.clientOrderId = some record.clientOrderId)

include fresh current indexed holds named

/-- Bringing an id of another order makes the handler raise. -/
theorem onOpenOrder_elsewhere
    (elsewhere : map.HeldElsewhere (·.ibkrOrderId) payload.brokerOrderId record.clientOrderId ∨
      ∃ permId, payload.permId = some permId ∧
        map.HeldElsewhere (·.permId) permId record.clientOrderId) (now : DateTime) :
    Ends (fun _ _ => False) (fun _ _ => True) (onOpenOrder payload now) normalizer := by
  obtain ⟨brokerShown, -, permShown, -, -, -⟩ := openOrder_visible payload
  have linking : Ends (fun _ _ => False) (fun failure _ => ∃ msg, failure = .valueError msg)
      (linkOpenOrder map payload record.clientOrderId now)
      (receivedOpenOrder normalizer payload) := by
    rw [linkOpenOrder_eq]
    by_cases other : map.HeldElsewhere (·.ibkrOrderId) payload.brokerOrderId record.clientOrderId
    · obtain ⟨msg, refused⟩ := attachIbkrOrderId_taken indexed holds brokerShown other
      exact ends_raise_error refused ⟨msg, rfl⟩
    · obtain ⟨permId, brought, permElsewhere⟩ := elsewhere.resolve_left other
      obtain ⟨first, attached, ran, fields, rewrites⟩ :=
        attachIbkrOrderId_free indexed holds brokerShown other
      have client : first.clientOrderId = record.clientOrderId :=
        congrArg (·.clientOrderId) fields
      rw [brought] at permShown
      obtain ⟨msg, refused⟩ := attachPermId_taken rewrites.indexed rewrites.holds
        (congrArg (·.ibkrOrderId) fields) permShown
        ((rewrites.heldElsewhere _ permId).mpr (client.symm ▸ permElsewhere))
      refine ends_raise_ok ran (ends_keepMap_bind ?_)
      rw [brought]
      exact ends_raise_error refused ⟨msg, rfl⟩
  have tracking : Ends (fun _ _ => False) (fun failure _ => ∃ msg, failure = .valueError msg)
      (trackOpenOrder map payload record.clientOrderId now)
      (receivedOpenOrder normalizer payload) := by
    refine Ends.get ?_
    split
    · next again => exact absurd again fresh
    · refine ends_raise_ok (requireClientOrderId_of_holds holds) ?_
      exact linking.bind fun _ _ never => never.elim
  rw [Ends, onOpenOrder_run current, named]
  refine tracking.tryCatch ?_
  rintro failure after ⟨msg, rfl⟩
  exact Ends.throw trivial

theorem onOpenOrder_ends
    (freeIbkr : ¬ map.HeldElsewhere (·.ibkrOrderId) payload.brokerOrderId record.clientOrderId)
    (freePerm : ∀ permId, payload.permId = some permId →
      ¬ map.HeldElsewhere (·.permId) permId record.clientOrderId) (now : DateTime) :
    Ends (fun _ after => SideKnown normalizer.symbolMapping payload ∧
        (after.seenOpenOrderKeys = normalizer.seenOpenOrderKeys ∨
          after.quarantinedOpenOrders = normalizer.quarantinedOpenOrders) ∧
        ∃ updated, after.calls.orderMap = some updated ∧
          Updated map record payload.permId updated)
      (fun _ _ => ¬ SideKnown normalizer.symbolMapping payload)
      (onOpenOrder payload now) normalizer := by
  have linking := @linkOpenOrder_ends map record payload (receivedOpenOrder normalizer payload)
    indexed holds now freeIbkr freePerm
  have tracking : Ends (fun _ after => SideKnown normalizer.symbolMapping payload ∧
        after.quarantinedOpenOrders = normalizer.quarantinedOpenOrders ∧
        ∃ updated, after.calls.orderMap = some updated ∧
          Updated map record payload.permId updated)
      (fun failure after => (SideKnown normalizer.symbolMapping payload ∧
          after.seenOpenOrderKeys = normalizer.seenOpenOrderKeys ∧
          (∃ updated, after.calls.orderMap = some updated ∧
            Updated map record payload.permId updated) ∧ ∃ key, failure = .keyError key) ∨
        ¬ SideKnown normalizer.symbolMapping payload ∧ ∃ msg, failure = .valueError msg)
      (trackOpenOrder map payload record.clientOrderId now)
      (receivedOpenOrder normalizer payload) := by
    refine Ends.get ?_
    split
    · next again => exact absurd again fresh
    · refine ends_raise_ok (requireClientOrderId_of_holds holds) ?_
      refine (linking.mono_failed fun _ _ never => never.elim).bind ?_
      rintro _ between ⟨unmarked, updated, found, linked⟩
      have kept := keepOpenOrder_ends payload record.internalOrderId between
      rw [unmarked.symbols] at kept
      refine Ends.bind (kept.mono_failed ?_) ?_
      · rintro failure after (⟨known, passed, missing⟩ | unknown)
        · exact .inl ⟨known, passed.seen.trans unmarked.seen,
            ⟨updated, passed.orderMap.trans found, linked⟩, missing⟩
        · exact .inr unknown
      · rintro _ after ⟨known, passed⟩
        exact Ends.modify ⟨known, passed.quarantined.trans unmarked.quarantined, updated,
          passed.orderMap.trans found, linked⟩
  rw [Ends, onOpenOrder_run current, named]
  refine Ends.tryCatch (tracking.mono ?_) ?_
  · rintro _ after ⟨known, quarantined, updated⟩
    exact ⟨known, .inr quarantined, updated⟩
  · rintro failure after (⟨known, seen, ⟨updated, found, linked⟩, key, rfl⟩ | ⟨unknown, msg, rfl⟩)
    · refine (quarantineOpenOrder_ends _ after).mono_failed (fun _ _ never => never.elim) |>.mono ?_
      rintro _ later ⟨same, kept⟩
      exact ⟨known, .inl (kept.trans seen), updated, same.trans found, linked⟩
    · exact Ends.throw unknown

end

end IbkrCallbackNormalizer

namespace IbkrCallbackNormalizer

open BrokerOrderMap IbkrCallbacks

def recordOf (normalizer : IbkrCallbackNormalizer) (clientOrderId : String) :
    Option BrokerOrderRecord :=
  normalizer.calls.orderMap.bind fun map => map.byClientOrderId.get? clientOrderId

/-- The recorded order that a callback is about: an orderStatus names the broker order id, an
openOrder the client order. -/
def About (normalizer : IbkrCallbackNormalizer) (record : BrokerOrderRecord) :
    RawOrderCallback → Prop
  | .orderStatus raw _ => normalizer.recordOf record.clientOrderId = some record ∧
      record.ibkrOrderId = some raw.payload.brokerOrderId
  | .openOrder raw _ => normalizer.recordOf record.clientOrderId = some record ∧
      raw.payload.clientOrderId = some record.clientOrderId

/-- A callback counts as seen. -/
def Seen (normalizer : IbkrCallbackNormalizer) : RawOrderCallback → Prop
  | .orderStatus raw _ => statusKey raw.payload ∈ normalizer.calls.seenOrderStatusKeys
  | .openOrder raw _ => openOrderKey raw.payload ∈ normalizer.seenOpenOrderKeys

def Processed (before : IbkrCallbackNormalizer)
    (answered : Except CallbackError (Option ExecutionReport) × IbkrCallbackNormalizer) :
    RawOrderCallback → Prop
  | .orderStatus _ _ => ∃ report, answered.1 = .ok (some report)
  | .openOrder _ _ => answered.1 = .ok none ∧
      answered.2.quarantinedOpenOrders = before.quarantinedOpenOrders

/-- A callback is taken in: the handler does not raise, the callback counts as seen only once it was
processed, the permanent id zero attaches to no order, and no other order's record changes. -/
structure TakenIn (before : IbkrCallbackNormalizer) (callback : RawOrderCallback)
    (answered : Except CallbackError (Option ExecutionReport) × IbkrCallbackNormalizer) : Prop where
  returned : ∃ report, answered.1 = .ok report
  marked : answered.2.Seen callback → before.Seen callback ∨ before.Processed answered callback
  zero : ∀ clientOrderId record, answered.2.recordOf clientOrderId = some record →
    record.permId = some "0" →
    ∃ old, before.recordOf clientOrderId = some old ∧ old.permId = some "0"
  others : ∀ clientOrderId,
    (∀ record, before.About record callback → record.clientOrderId ≠ clientOrderId) →
    answered.2.recordOf clientOrderId = before.recordOf clientOrderId

/-- Another order than a record's has a value under a field. -/
def ElsewhereIn (normalizer : IbkrCallbackNormalizer) (record : BrokerOrderRecord)
    (field : BrokerOrderRecord → Option String) (key : String) : Prop :=
  ∃ clientOrderId other, clientOrderId ≠ record.clientOrderId ∧
    normalizer.recordOf clientOrderId = some other ∧ field other = some key

/-- What a callback may bring for the recorded order that it is about.  A status comes without the
permanent id zero, unless the order has it, and with a text that makes a report; no id belongs to
another order; and the side of an open order with all details is a known one. -/
def Admissible (normalizer : IbkrCallbackNormalizer) (record : BrokerOrderRecord) :
    RawOrderCallback → Prop
  | .orderStatus raw _ =>
      (raw.permId = some 0 → record.permId = some "0") ∧
      (∀ permId, raw.payload.permId = some permId →
        ¬ normalizer.ElsewhereIn record (·.permId) permId) ∧
      Reportable raw.status
  | .openOrder raw _ =>
      ¬ normalizer.ElsewhereIn record (·.ibkrOrderId) raw.payload.brokerOrderId ∧
      (∀ permId, raw.payload.permId = some permId →
        ¬ normalizer.ElsewhereIn record (·.permId) permId) ∧
      SideKnown normalizer.symbolMapping raw.payload

def Fitting (normalizer : IbkrCallbackNormalizer) (callback : RawOrderCallback) : Prop :=
  normalizer.Seen callback ∨
    ∀ record, normalizer.About record callback → normalizer.Admissible record callback

variable {normalizer : IbkrCallbackNormalizer} {map : BrokerOrderMap} {record : BrokerOrderRecord}

theorem recordOf_eq (current : normalizer.calls.orderMap = some map) (clientOrderId : String) :
    normalizer.recordOf clientOrderId = map.byClientOrderId.get? clientOrderId := by
  rw [recordOf, current]
  rfl

theorem elsewhereIn_iff (current : normalizer.calls.orderMap = some map)
    (record : BrokerOrderRecord) (field : BrokerOrderRecord → Option String) (key : String) :
    normalizer.ElsewhereIn record field key ↔ map.HeldElsewhere field key record.clientOrderId := by
  unfold ElsewhereIn HeldElsewhere
  simp only [recordOf_eq current]

variable {answered : Except CallbackError (Option ExecutionReport) × IbkrCallbackNormalizer}

theorem takenIn_of_unchanged {callback : RawOrderCallback}
    (returned : ∃ report, answered.1 = .ok report)
    (same : answered.2.calls.orderMap = normalizer.calls.orderMap)
    (seen : answered.2.Seen callback → normalizer.Seen callback) :
    normalizer.TakenIn callback answered where
  returned := returned
  marked again := .inl (seen again)
  zero clientOrderId record found has :=
    ⟨record, by rw [← found, recordOf, recordOf, same], has⟩
  others clientOrderId _ := by rw [recordOf, recordOf, same]

theorem takenIn_of_updated {callback : RawOrderCallback}
    (current : normalizer.calls.orderMap = some map) (holds : map.Holds record)
    (about : normalizer.About record callback) (returned : ∃ report, answered.1 = .ok report)
    (marked : answered.2.Seen callback →
      normalizer.Seen callback ∨ normalizer.Processed answered callback)
    {permId : Option String} {after : BrokerOrderMap}
    (updated : answered.2.calls.orderMap = some after) (kept : Updated map record permId after)
    (noZero : permId = some "0" → record.permId = some "0") :
    normalizer.TakenIn callback answered where
  returned := returned
  marked := marked
  zero clientOrderId found stored has := by
    rw [recordOf_eq updated] at stored
    rw [recordOf_eq current]
    by_cases own : clientOrderId = record.clientOrderId
    · subst own
      obtain ⟨own, ownFound, perm⟩ := kept.own
      obtain rfl := Option.mem_unique ownFound stored
      refine ⟨record, holds, ?_⟩
      rw [has] at perm
      cases brought : permId with
      | none => rw [brought] at perm; exact perm.symm
      | some permId =>
        rw [brought] at perm noZero
        exact noZero perm.symm
    · rw [kept.others clientOrderId own] at stored
      exact ⟨found, stored, has⟩
  others clientOrderId others := by
    rw [recordOf_eq updated, recordOf_eq current]
    exact kept.others clientOrderId (Ne.symm (others record about))

theorem takeIn_status (raw : RawOrderStatus) (now : DateTime) :
    takeIn normalizer (.orderStatus raw now) =
      match (onOrderStatus raw.payload now).run normalizer.calls with
      | .ok report calls => (.ok report, { normalizer with calls })
      | .error failure calls => (.error failure, { normalizer with calls }) := by
  change answer Except.ok Except.error
      ((onCallbacks (onOrderStatus raw.payload now)).run normalizer) = _
  unfold onCallbacks
  simp only [EStateM.run]
  cases onOrderStatus raw.payload now normalizer.calls with
  | ok report calls => rfl
  | error failure calls => rfl

theorem takeIn_openOrder (raw : RawOpenOrder) (now : DateTime) :
    takeIn normalizer (.openOrder raw now) =
      match (onOpenOrder raw.payload now).run normalizer with
      | .ok _ after => (.ok none, after)
      | .error failure after => (.error failure, after) := by
  change answer Except.ok Except.error ((handleOpenOrder raw now).run normalizer) = _
  unfold handleOpenOrder
  rw [EStateM.run_bind]
  cases (onOpenOrder raw.payload now).run normalizer with
  | ok _ after => rfl
  | error failure after => rfl

theorem status_zero_iff (raw : RawOrderStatus) :
    raw.payload.permId = some "0" ↔ raw.permId = some 0 := by
  change raw.permId.map toString = some "0" ↔ _
  cases raw.permId with
  | none => simp
  | some permId => simpa using OrderNumbers.toString_int_eq_zero_iff permId

theorem openOrder_zero (raw : RawOpenOrder) : raw.payload.permId ≠ some "0" := by
  change (raw.permId.filter fun permId => decide (permId ≠ 0)).map toString ≠ some "0"
  intro brought
  obtain ⟨permId, kept, text⟩ := Option.map_eq_some_iff.mp brought
  have nonzero := (Option.filter_eq_some_iff.mp kept).2
  exact of_decide_eq_true nonzero ((OrderNumbers.toString_int_eq_zero_iff permId).mp text)

section

variable (current : normalizer.calls.orderMap = some map) (indexed : map.Indexed)

include current indexed

theorem takenIn_status_iff (raw : RawOrderStatus) (now : DateTime) :
    normalizer.TakenIn (.orderStatus raw now) (takeIn normalizer (.orderStatus raw now)) ↔
      normalizer.Fitting (.orderStatus raw now) := by
  rw [takeIn_status]
  constructor
  · intro taken
    by_cases seen : normalizer.Seen (.orderStatus raw now)
    · exact .inl seen
    refine .inr ?_
    rintro record ⟨known, has⟩
    have holds : map.Holds record := (recordOf_eq current _).symm.trans known
    have free : ∀ permId, raw.payload.permId = some permId →
        ¬ map.HeldElsewhere (·.permId) permId record.clientOrderId := by
      intro permId brought elsewhere
      have raised := onOrderStatus_elsewhere seen current indexed holds has brought elsewhere now
      cases ran : (onOrderStatus raw.payload now).run normalizer.calls with
      | ok report after => exact raised.of_run ran
      | error failure after =>
        rw [ran] at taken
        obtain ⟨report, returned⟩ := taken.returned
        cases returned
    have ends := onOrderStatus_ends seen current indexed holds has free now
    cases ran : (onOrderStatus raw.payload now).run normalizer.calls with
    | error failure after =>
      rw [ran] at taken
      obtain ⟨report, returned⟩ := taken.returned
      cases returned
    | ok report after =>
      obtain ⟨reportable, -, updated, found, kept⟩ := ends.of_run ran
      rw [ran] at taken
      refine ⟨fun zero => ?_, fun permId brought => ?_, reportable⟩
      · obtain ⟨own, ownFound, perm⟩ := kept.own
        rw [(status_zero_iff raw).mpr zero] at perm
        obtain ⟨old, oldFound, zeroed⟩ := taken.zero record.clientOrderId own
          ((recordOf_eq found _).trans ownFound) perm
        obtain rfl := Option.mem_unique oldFound known
        exact zeroed
      · rw [elsewhereIn_iff current]
        exact free permId brought
  · intro fitting
    by_cases seen : normalizer.Seen (.orderStatus raw now)
    · have ends := onOrderStatus_seen seen now
      cases ran : (onOrderStatus raw.payload now).run normalizer.calls with
      | error failure after => exact (ends.of_raise ran).elim
      | ok report after =>
        obtain ⟨-, same, -⟩ := ends.of_run ran
        exact takenIn_of_unchanged ⟨report, rfl⟩ same fun _ => seen
    rcases byIbkrOrderId_cases indexed raw.payload.brokerOrderId with
      ⟨key, unknown⟩ | ⟨record, -, holds, has⟩
    · have ends := onOrderStatus_unknown seen current unknown now
      cases ran : (onOrderStatus raw.payload now).run normalizer.calls with
      | error failure after => exact (ends.of_raise ran).elim
      | ok report after =>
        obtain ⟨-, same, kept⟩ := ends.of_run ran
        refine takenIn_of_unchanged ⟨report, rfl⟩ same fun again => ?_
        change statusKey raw.payload ∈ after.seenOrderStatusKeys at again
        rw [kept] at again
        exact again
    · have about : normalizer.About record (.orderStatus raw now) :=
        ⟨(recordOf_eq current _).trans holds, has⟩
      obtain ⟨zero, free, reportable⟩ := (fitting.resolve_left seen) record about
      have ends := onOrderStatus_ends seen current indexed holds has
        (fun permId brought => (elsewhereIn_iff current record _ permId).not.mp
          (free permId brought)) now
      cases ran : (onOrderStatus raw.payload now).run normalizer.calls with
      | error failure after => exact (ends.of_raise ran reportable).elim
      | ok report after =>
        obtain ⟨-, unmarked, updated, found, kept⟩ := ends.of_run ran
        refine takenIn_of_updated current holds about ⟨report, rfl⟩ (fun again => ?_) found kept
          fun brought => zero ((status_zero_iff raw).mp brought)
        cases report with
        | some report => exact .inr ⟨report, rfl⟩
        | none =>
          change statusKey raw.payload ∈ after.seenOrderStatusKeys at again
          rw [unmarked rfl] at again
          exact .inl again

theorem takenIn_openOrder_iff (raw : RawOpenOrder) (now : DateTime) :
    normalizer.TakenIn (.openOrder raw now) (takeIn normalizer (.openOrder raw now)) ↔
      normalizer.Fitting (.openOrder raw now) := by
  rw [takeIn_openOrder]
  constructor
  · intro taken
    by_cases seen : normalizer.Seen (.openOrder raw now)
    · exact .inl seen
    refine .inr ?_
    rintro record ⟨known, named⟩
    have holds : map.Holds record := (recordOf_eq current _).symm.trans known
    have kept : ¬ (map.HeldElsewhere (·.ibkrOrderId) raw.payload.brokerOrderId
          record.clientOrderId ∨ ∃ permId, raw.payload.permId = some permId ∧
        map.HeldElsewhere (·.permId) permId record.clientOrderId) := by
      intro elsewhere
      have raised := onOpenOrder_elsewhere seen current indexed holds named elsewhere now
      cases ran : (onOpenOrder raw.payload now).run normalizer with
      | ok _ after => exact raised.of_run ran
      | error failure after =>
        rw [ran] at taken
        obtain ⟨report, returned⟩ := taken.returned
        cases returned
    obtain ⟨freeIbkr, freePerm⟩ := not_or.mp kept
    have free : ∀ permId, raw.payload.permId = some permId →
        ¬ map.HeldElsewhere (·.permId) permId record.clientOrderId :=
      fun permId brought elsewhere => freePerm ⟨permId, brought, elsewhere⟩
    have ends := onOpenOrder_ends seen current indexed holds named freeIbkr free now
    cases ran : (onOpenOrder raw.payload now).run normalizer with
    | error failure after =>
      rw [ran] at taken
      obtain ⟨report, returned⟩ := taken.returned
      cases returned
    | ok _ after =>
      refine ⟨?_, fun permId brought => ?_, (ends.of_run ran).1⟩
      · rw [elsewhereIn_iff current]
        exact freeIbkr
      · rw [elsewhereIn_iff current]
        exact free permId brought
  · intro fitting
    by_cases passed : openOrderKey raw.payload ∈ normalizer.seenOpenOrderKeys ∨
        ∀ clientOrderId, raw.payload.clientOrderId = some clientOrderId →
          map.byClientOrderId.get? clientOrderId = none
    · have ends := onOpenOrder_passed current passed now
      cases ran : (onOpenOrder raw.payload now).run normalizer with
      | error failure after => exact (ends.of_raise ran).elim
      | ok _ after =>
        obtain ⟨same, kept⟩ := ends.of_run ran
        refine takenIn_of_unchanged ⟨none, rfl⟩ (same.trans current.symm) fun again => ?_
        change openOrderKey raw.payload ∈ after.seenOpenOrderKeys at again
        rw [kept] at again
        exact again
    · obtain ⟨seen, known⟩ := not_or.mp passed
      push Not at known
      obtain ⟨clientOrderId, named, present⟩ := known
      obtain ⟨record, stored⟩ := Option.ne_none_iff_exists'.mp present
      have holds := indexed.holds stored
      have client := indexed.own clientOrderId record stored
      have about : normalizer.About record (.openOrder raw now) :=
        ⟨(recordOf_eq current _).trans holds, by rw [client]; exact named⟩
      obtain ⟨freeIbkr, freePerm, side⟩ := (fitting.resolve_left seen) record about
      have ends := onOpenOrder_ends seen current indexed holds about.2
        ((elsewhereIn_iff current record _ _).not.mp freeIbkr)
        (fun permId brought => (elsewhereIn_iff current record _ permId).not.mp
          (freePerm permId brought)) now
      cases ran : (onOpenOrder raw.payload now).run normalizer with
      | error failure after => exact (ends.of_raise ran side).elim
      | ok _ after =>
        obtain ⟨-, marked, updated, found, kept⟩ := ends.of_run ran
        refine takenIn_of_updated current holds about ⟨none, rfl⟩ (fun again => ?_) found kept
          fun brought => absurd brought (openOrder_zero raw)
        rcases marked with unseen | processed
        · change openOrderKey raw.payload ∈ after.seenOpenOrderKeys at again
          rw [unseen] at again
          exact .inl again
        · exact .inr ⟨rfl, processed⟩

theorem takenIn_iff (callback : RawOrderCallback) :
    normalizer.TakenIn callback (takeIn normalizer callback) ↔ normalizer.Fitting callback := by
  cases callback with
  | orderStatus raw now => exact takenIn_status_iff current indexed raw now
  | openOrder raw now => exact takenIn_openOrder_iff current indexed raw now

end

/-- The normalizers go on with an indexed map. -/
theorem takeIn_routed (routing : Routed (fun _ => True) normalizer) (callback : RawOrderCallback) :
    Routed (fun _ => True) (takeIn normalizer callback).2 := by
  cases callback with
  | orderStatus raw now =>
    have kept := onCallbacks_routed (onOrderStatus_routed raw.payload now) normalizer routing
    change Routed _ (answer Except.ok Except.error
      ((onCallbacks (onOrderStatus raw.payload now)).run normalizer)).2
    rw [answer_state]
    exact kept
  | openOrder raw now =>
    have attachable : Attachable (fun _ _ => True) fun _ => True := fun _ _ _ _ _ _ _ _ => trivial
    have keeps := onOpenOrder_routed attachable (fun _ _ => trivial : Echoes (fun _ _ => True)
      (.openOrder raw.payload)) now
    have kept := (keeps.bind fun _ => Keeps.pure (none : Option ExecutionReport)) normalizer routing
    change Routed _ (answer Except.ok Except.error ((handleOpenOrder raw now).run normalizer)).2
    rw [answer_state]
    exact kept

def withOrderMap (normalizer : IbkrCallbackNormalizer) (map : BrokerOrderMap) :
    IbkrCallbackNormalizer :=
  { normalizer with calls := { normalizer.calls with orderMap := some map } }

/-- Whatever orders were recorded and whatever raw callbacks come, all of them are taken in exactly
when each is fitting at its turn. -/
theorem callbacks_takenIn_iff (iso : IsoFormat) (recorded : List BrokerOrderMapCommand)
    (normalizer : IbkrCallbackNormalizer) (calls : List RawOrderCallback) :
    EveryStep takeIn
        (fun before callback => before.TakenIn callback (takeIn before callback))
        (normalizer.withOrderMap (final (step iso) init recorded)) calls ↔
      EveryStep takeIn Fitting
        (normalizer.withOrderMap (final (step iso) init recorded)) calls := by
  have start : Routed (fun _ => True)
      (normalizer.withOrderMap (final (step iso) init recorded)) :=
    ⟨_, rfl, final_indexed recorded, trivial⟩
  have preserved : ∀ (before : IbkrCallbackNormalizer) (callback : RawOrderCallback),
      Routed (fun _ => True) before → Routed (fun _ => True) (takeIn before callback).2 :=
    fun _ callback routing => takeIn_routed routing callback
  refine everyStep_congr preserved ?_ start calls
  rintro before callback ⟨map, current, indexed, -⟩
  exact takenIn_iff current indexed callback

section Fixtures

def twoOrders : List BrokerOrderMapCommand :=
  [.recordPendingSubmission ⟨⟨"ord-1", Eq.refl false⟩⟩ "client-1"
     ⟨⟨"acct-1", Eq.refl false⟩⟩ none 0,
   .attachIbkrOrderId "client-1" "1",
   .recordPendingSubmission ⟨⟨"ord-2", Eq.refl false⟩⟩ "client-2"
     ⟨⟨"acct-1", Eq.refl false⟩⟩ none 0,
   .attachIbkrOrderId "client-2" "2"]

def submittedStatus (orderId : Int) : RawOrderStatus where
  orderId := orderId
  status := "Submitted"
  permId := some 0
  statusShown := by decide

def twoOrdersKnown : IbkrCallbackNormalizer :=
  withOrderMap { calls := { accountId := "DU1", orderMap := none } }
    (final (step sampleIso) init twoOrders)

/-- The first of two orders takes the permanent id zero, and the status of the second raises. -/
theorem zero_permId_conflicts :
    ¬ EveryStep takeIn
        (fun before callback => before.TakenIn callback (takeIn before callback)) twoOrdersKnown
        [.orderStatus (submittedStatus 1) 0, .orderStatus (submittedStatus 2) 0] := by
  rintro ⟨-, second, -⟩
  obtain ⟨report, returned⟩ := second.returned
  have raises : (takeIn (takeIn twoOrdersKnown (.orderStatus (submittedStatus 1) 0)).2
      (.orderStatus (submittedStatus 2) 0)).1.isOk = false := by
    decide +kernel
  rw [returned] at raises
  cases raises

end Fixtures

end IbkrCallbackNormalizer

end Qts
