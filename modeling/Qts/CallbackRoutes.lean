import Qts.ClientOrderRoutes
import Qts.IbkrOrderClient

/-! # Routes under callbacks -/

namespace Qts

open RaisingCalls BrokerOrderMap

namespace IbkrCallbacks

def Routed (routed : Routes → Prop) (calls : IbkrCallbacks) : Prop :=
  ∃ map, calls.orderMap = some map ∧ map.Indexed ∧ routed map.routes

/-- A call goes on with what a lookup or validation answers. -/
theorem keeps_raising {Value Next : Type} {inv : IbkrCallbacks → Prop}
    {result : Except CallbackError Value} {next : Value → CallbackCall Next}
    (rest : ∀ value, result = .ok value → Keeps inv (next value)) :
    Keeps inv (raising result >>= next) := by
  cases result with
  | ok value => exact rest value rfl
  | error failure => exact Keeps.throw failure

section Routed

variable {routed : Routes → Prop}

theorem recordCallbackEvent_routed (event : IbkrOrderCallbackEvent) :
    Keeps (Routed routed) (recordCallbackEvent event) :=
  Keeps.modify fun _ routing => routing

theorem normalizeIbkrExecutionReport_keeps {inv : IbkrCallbacks → Prop}
    (report : ExecutionReportFields) : Keeps inv (normalizeIbkrExecutionReport report) := by
  unfold normalizeIbkrExecutionReport
  split
  · exact Keeps.pure _
  · exact Keeps.throw _

theorem updateOrderMap_routed {update : Except CallbackError (BrokerOrderRecord × BrokerOrderMap)}
    (kept : ∀ stored, update = .ok stored → stored.2.Indexed ∧ routed stored.2.routes) :
    Keeps (Routed routed) (updateOrderMap update) :=
  keeps_raising fun stored ran => Keeps.modify fun _ _ => ⟨stored.2, rfl, kept stored ran⟩

theorem trackStatus_routed {map : BrokerOrderMap} (indexed : map.Indexed)
    (holds : routed map.routes) (payload : IbkrOrderStatusPayload) (now : DateTime) :
    Keeps (Routed routed) (trackStatus map payload now) := by
  have noted : ∀ permed : BrokerOrderMap, permed.Indexed → routed permed.routes →
      Keeps (Routed routed) (do
        let record ← raising (permed.byIbkrOrderId payload.brokerOrderId)
        if isLateCancelAfterFill record.status payload.status then
          recordCallbackEvent (orderStatusEvent payload "ibkr_order_callback_late_terminal_dropped"
            (some "late_cancel_after_filled"))
          return false
        updateOrderMap (permed.markStatus payload.brokerOrderId payload.status now)
        return true) := by
    intro permed permedIndexed permedHolds
    refine keeps_raising fun record _ => Keeps.ite (fun _ => ?_) fun _ => ?_
    · exact Keeps.bind (recordCallbackEvent_routed _) fun _ => Keeps.pure _
    · refine Keeps.bind (updateOrderMap_routed ?_) fun _ => Keeps.pure _
      intro stored ran
      obtain ⟨kept, same⟩ := markStatus_routes permedIndexed ran
      exact ⟨kept, same.symm ▸ permedHolds⟩
  unfold trackStatus
  cases payload.permId with
  | none => exact noted map indexed holds
  | some permId =>
    refine keeps_raising fun stored ran => ?_
    obtain ⟨kept, same⟩ := attachPermId_routes indexed ran
    have attached : routed stored.2.routes := same.symm ▸ holds
    exact Keeps.bind (Keeps.modify fun _ _ => ⟨stored.2, rfl, kept, attached⟩) fun _ =>
      noted stored.2 kept attached

theorem onOrderStatus_routed (payload : IbkrOrderStatusPayload) (now : DateTime) :
    Keeps (Routed routed) (onOrderStatus payload now) := by
  have noted : Keeps (Routed routed) (noteStatus payload now) := by
    refine Keeps.get fun calls => ?_
    rintro ⟨map, found, indexed, holds⟩
    rw [found]
    refine Keeps.tryCatch (trackStatus_routed indexed holds payload now) fun failure => ?_
    cases failure with
    | valueError msg => exact Keeps.throw _
    | keyError key =>
      exact Keeps.bind (Keeps.modify fun _ routing => routing) fun _ =>
        Keeps.bind (recordCallbackEvent_routed _) fun _ => Keeps.pure _
  refine Keeps.bind (recordCallbackEvent_routed _) fun _ => Keeps.get fun calls _ => ?_
  refine Keeps.ite (fun _ => ?_) fun _ => ?_
  · exact Keeps.bind (recordCallbackEvent_routed _) fun _ => Keeps.pure _
  · refine Keeps.bind noted fun tracked => Keeps.ite (fun _ => Keeps.pure _) fun _ => ?_
    refine Keeps.bind (Keeps.modify fun _ routing => routing) fun _ => ?_
    refine keeps_raising fun status _ => ?_
    exact Keeps.bind (normalizeIbkrExecutionReport_keeps _) fun _ => Keeps.pure _

theorem popCommissionedExecution_keeps (fact : String → Option BrokerOrderMap → Prop)
    (key : ExecutionKey) :
    Keeps (fun calls : IbkrCallbacks => fact calls.accountId calls.orderMap)
      (popCommissionedExecution key) := by
  refine Keeps.get fun calls holds => ?_
  split
  · refine Keeps.bind (fun _ _ => holds) fun _ => ?_
    exact Keeps.bind (normalizeIbkrExecutionReport_keeps _) fun _ => Keeps.pure _
  · exact Keeps.pure _

theorem popCommissionedExecution_routed (key : ExecutionKey) :
    Keeps (Routed routed) (popCommissionedExecution key) :=
  popCommissionedExecution_keeps (fun _ orderMap =>
    ∃ map, orderMap = some map ∧ map.Indexed ∧ routed map.routes) key

theorem onExecution_routed (payload : IbkrExecutionPayload) :
    Keeps (Routed routed) (onExecution payload) := by
  have quarantined : Keeps (Routed routed) (quarantineExecution payload) :=
    Keeps.modify fun _ routing => routing
  have recorded := fun event => @recordCallbackEvent_routed routed event
  refine Keeps.bind (recorded _) fun _ => Keeps.get fun calls _ => ?_
  split
  · exact Keeps.bind quarantined fun _ => Keeps.bind (recorded _) fun _ => Keeps.pure _
  · refine Keeps.ite (fun _ => Keeps.bind (recorded _) fun _ => Keeps.pure _) fun _ => ?_
    refine Keeps.ite (fun _ => ?_) fun _ => ?_
    · exact Keeps.bind quarantined fun _ => Keeps.bind (recorded _) fun _ => Keeps.pure _
    · refine Keeps.bind (Keeps.modify fun _ routing => routing) fun _ => ?_
      exact Keeps.ite (fun _ => Keeps.pure _) fun _ => popCommissionedExecution_routed _

theorem onCommission_routed (payload : IbkrCommissionPayload) :
    Keeps (Routed routed) (onCommission payload) := by
  have popped : Keeps (Routed routed)
      (popCommissionedExecutionByExecutionId payload.executionId) := by
    refine Keeps.get fun calls _ => ?_
    split
    · exact popCommissionedExecution_routed _
    · exact Keeps.pure _
  refine Keeps.bind (recordCallbackEvent_routed _) fun _ => ?_
  refine Keeps.bind (Keeps.modify fun _ routing => routing) fun _ => ?_
  refine Keeps.bind popped fun report => ?_
  cases report with
  | some report => exact Keeps.pure _
  | none =>
    refine Keeps.get fun calls _ => Keeps.ite (fun _ => ?_) fun _ => Keeps.pure _
    exact Keeps.bind (recordCallbackEvent_routed _) fun _ => Keeps.pure _

theorem flushPendingExecutions_routed (reason : String) :
    Keeps (Routed routed) (flushPendingExecutions reason) := by
  refine Keeps.get fun calls _ => ?_
  generalize calls.pendingExecutions.items = staged
  induction staged with
  | nil => exact Keeps.pure _
  | cons item rest ih =>
    refine Keeps.bind (Keeps.modify fun _ routing => routing) fun _ => ?_
    refine Keeps.ite (fun _ => ?_) fun _ => ?_
    · exact Keeps.throw _
    · refine Keeps.bind (recordCallbackEvent_routed _) fun _ => ?_
      refine Keeps.bind (normalizeIbkrExecutionReport_keeps _) fun _ => ?_
      exact Keeps.bind ih fun _ => Keeps.pure _

theorem resolveExecutions_ends (fact : String → Option BrokerOrderMap → Prop)
    (payloads : List IbkrExecutionPayload) {calls : IbkrCallbacks}
    (holds : fact calls.accountId calls.orderMap) :
    Ends (fun result after => fact after.accountId after.orderMap ∧
        after.accountId = calls.accountId ∧ after.orderMap = calls.orderMap ∧
        ∀ payload ∈ result.2,
          calls.isForeign payload = true ∨ calls.resolves payload.brokerOrderId = false)
      (fun _ after => fact after.accountId after.orderMap) (resolveExecutions payloads)
      calls := by
  induction payloads generalizing calls with
  | nil =>
    refine Ends.pure ⟨holds, rfl, rfl, ?_⟩
    rintro payload ⟨⟩
  | cons payload rest ih =>
    rw [resolveExecutions]
    refine Ends.get ?_
    by_cases aside : (calls.isForeign payload || !calls.resolves payload.brokerOrderId) =
        true
    · rw [if_pos aside]
      refine (ih holds).bind ?_
      rintro ⟨resolved, unresolved⟩ after ⟨kept, account, map, unknown⟩
      refine Ends.pure ⟨kept, account, map, ?_⟩
      intro other mem
      rcases List.mem_cons.mp mem with rfl | mem
      · simpa using aside
      · exact unknown other mem
    · rw [if_neg aside]
      by_cases booked : executionKey calls.accountId payload ∈ calls.completedExecutionKeys
      · rw [if_pos booked]
        exact ih holds
      · rw [if_neg booked]
        refine ends_modify_bind ?_
        let route := fun (accountId : String) (orderMap : Option BrokerOrderMap) =>
          fact accountId orderMap ∧ accountId = calls.accountId ∧
            orderMap = calls.orderMap
        have popped := popCommissionedExecution_keeps route
          (executionKey calls.accountId payload)
        refine Ends.bind (Ends.mono_failed (popped.ends ?_) fun _ _ kept => kept.1) ?_
        · exact ⟨holds, rfl, rfl⟩
        rintro report between ⟨kept, account, map⟩
        refine ends_modify_bind ?_
        refine Ends.bind (ih kept) ?_
        rintro ⟨resolved, unresolved⟩ after ⟨last, lastAccount, lastMap, unknown⟩
        refine Ends.pure ⟨last, lastAccount.trans account, lastMap.trans map, ?_⟩
        intro other mem
        have aside := unknown other mem
        rw [isForeign, resolves] at aside ⊢
        rw [← account, ← map]
        exact aside

/-- No execution of the account itself is quarantined whose broker order the map knows. -/
def Settled (calls : IbkrCallbacks) : Prop :=
  ∀ payload ∈ calls.callbackQuarantine.executions,
    calls.isForeign payload = true ∨ calls.resolves payload.brokerOrderId = false

theorem resolveQuarantined_ends {calls : IbkrCallbacks} (routing : Routed routed calls) :
    Ends (fun _ after => Routed routed after ∧ Settled after) (fun _ after => Routed routed after)
      resolveQuarantined calls := by
  refine Ends.get ?_
  refine Ends.bind (resolveExecutions_ends (fun _ orderMap =>
    ∃ map, orderMap = some map ∧ map.Indexed ∧ routed map.routes) _ routing) ?_
  rintro ⟨resolved, unresolved⟩ after ⟨kept, account, map, unknown⟩
  refine ends_modify_bind (Ends.pure ⟨kept, ?_⟩)
  intro payload mem
  have aside := unknown payload mem
  rw [isForeign, resolves] at aside ⊢
  rw [account, map]
  exact aside

end Routed

end IbkrCallbacks

namespace IbkrCallbackNormalizer

open IbkrCallbacks

/-- A callback that names a client order known to the map carries an id that `echoes` allows. -/
def Echoes (echoes : String → String → Prop) : IbkrCallback → Prop
  | .openOrder payload => ∀ clientOrderId, payload.clientOrderId = some clientOrderId →
      echoes clientOrderId payload.brokerOrderId
  | _ => True

/-- What holds of the routes still holds when an allowed id is attached. -/
def Attachable (echoes : String → String → Prop) (routed : Routes → Prop) : Prop :=
  ∀ known clientOrderId ibkrOrderId internalOrderId old, routed known →
    known clientOrderId = some (internalOrderId, old) → echoes clientOrderId ibkrOrderId →
    routed (Function.update known clientOrderId (some (internalOrderId, some ibkrOrderId)))

def Routed (routed : Routes → Prop) (normalizer : IbkrCallbackNormalizer) : Prop :=
  normalizer.calls.Routed routed

section Routed

variable {echoes : String → String → Prop} {routed : Routes → Prop}

theorem onCallbacks_routed {Value : Type} {call : CallbackCall Value}
    (keeps : Keeps (IbkrCallbacks.Routed routed) call) :
    Keeps (Routed routed) (onCallbacks call) := by
  intro normalizer routing
  have kept := keeps normalizer.calls routing
  change Routed routed (endState (onCallbacks call normalizer))
  unfold onCallbacks
  cases ran : call.run normalizer.calls with
  | ok value calls =>
    rw [ran] at kept
    exact kept
  | error failure calls =>
    rw [ran] at kept
    exact kept

variable {normalizer : IbkrCallbackNormalizer}

theorem onCallbacks_ends {Value : Type} {call : CallbackCall Value}
    {returned : Value → IbkrCallbacks → Prop} {failed : CallbackError → IbkrCallbacks → Prop}
    (ends : Ends returned failed call normalizer.calls) :
    Ends (fun value after => returned value after.calls)
      (fun failure after => failed failure after.calls) (onCallbacks call) normalizer := by
  unfold Ends at ends ⊢
  rw [EStateM.run, onCallbacks]
  cases ran : call.run normalizer.calls with
  | ok value calls =>
    rw [ran] at ends
    exact ends
  | error failure calls =>
    rw [ran] at ends
    exact ends

theorem record_routed (event : IbkrOrderCallbackEvent) : Keeps (Routed routed) (record event) :=
  onCallbacks_routed (recordCallbackEvent_routed event)

/-- A call goes on with what a lookup or validation answers. -/
theorem keeps_raise {Value Next : Type} {inv : IbkrCallbackNormalizer → Prop}
    {result : Except CallbackError Value} {next : Value → NormalizerCall Next}
    (rest : ∀ value, result = .ok value → Keeps inv (next value)) :
    Keeps inv (raise result >>= next) := by
  cases result with
  | ok value => exact rest value rfl
  | error failure => exact Keeps.throw failure

theorem markLinked_routed (payload : IbkrOpenOrderPayload) (now : DateTime)
    {permed : BrokerOrderMap} (indexed : permed.Indexed) (holds : routed permed.routes) :
    Keeps (Routed routed) (match payload.status with
      | some status =>
        onCallbacks (updateOrderMap (permed.markStatus payload.brokerOrderId status now))
      | none => return) := by
  cases payload.status with
  | none => exact Keeps.pure _
  | some status =>
    refine onCallbacks_routed (updateOrderMap_routed ?_)
    intro stored ran
    obtain ⟨kept, same⟩ := markStatus_routes indexed ran
    exact ⟨kept, same.symm ▸ holds⟩

theorem linkOpenOrder_routed {map : BrokerOrderMap} (indexed : map.Indexed)
    (holds : routed map.routes) (attachable : Attachable echoes routed)
    {payload : IbkrOpenOrderPayload} {clientOrderId : String}
    (echoed : echoes clientOrderId payload.brokerOrderId)
    (now : DateTime) : Keeps (Routed routed) (linkOpenOrder map payload clientOrderId now) := by
  unfold linkOpenOrder
  refine keeps_raise fun stored ran => ?_
  obtain ⟨internal, old, known, kept, changed⟩ :=
    attachIbkrOrderId_routes indexed ran
  have attached : routed stored.2.routes :=
    changed.symm ▸ attachable _ _ _ _ _ holds known echoed
  refine Keeps.bind (Keeps.modify fun _ _ => ⟨stored.2, rfl, kept, attached⟩) fun _ => ?_
  cases payload.permId with
  | none => exact markLinked_routed payload now kept attached
  | some permId =>
    refine keeps_raise fun permed ranPermed => ?_
    obtain ⟨permedKept, same⟩ := attachPermId_routes kept ranPermed
    have permedHolds : routed permed.2.routes := same.symm ▸ attached
    exact Keeps.bind (Keeps.modify fun _ _ => ⟨permed.2, rfl, permedKept, permedHolds⟩) fun _ =>
      markLinked_routed payload now permedKept permedHolds

theorem keepOpenOrder_routed (payload : IbkrOpenOrderPayload) (internalOrderId : OrderId) :
    Keeps (Routed routed) (keepOpenOrder payload internalOrderId) := by
  unfold keepOpenOrder
  split
  · refine Keeps.get fun normalizer _ => keeps_raise fun instrumentId _ => ?_
    refine keeps_raise fun side _ => keeps_raise fun snapshot _ => ?_
    exact Keeps.modify fun _ routing => routing
  · exact Keeps.pure _

theorem onOpenOrder_routed (attachable : Attachable echoes routed) {payload : IbkrOpenOrderPayload}
    (echoed : Echoes echoes (.openOrder payload)) (now : DateTime) :
    Keeps (Routed routed) (onOpenOrder payload now) := by
  have quarantined : ∀ reason, Keeps (Routed routed) (quarantineOpenOrder payload reason) :=
    fun _ => Keeps.bind (Keeps.modify fun _ routing => routing) fun _ => record_routed _
  refine Keeps.bind (record_routed _) fun _ => Keeps.get fun normalizer routing => ?_
  obtain ⟨map, found, indexed, holds⟩ := routing
  rw [found]
  cases client : payload.clientOrderId with
  | none => exact quarantined _
  | some clientOrderId =>
    refine Keeps.tryCatch ?_ fun failure => ?_
    · refine Keeps.get fun current _ => Keeps.ite (fun _ => record_routed _) fun _ => ?_
      refine keeps_raise fun tracked _ => ?_
      refine Keeps.bind (linkOpenOrder_routed indexed holds attachable (echoed _ client) now)
        fun _ => ?_
      refine Keeps.bind (keepOpenOrder_routed payload _) fun _ => ?_
      exact Keeps.modify fun _ routing => routing
    · cases failure with
      | valueError msg => exact Keeps.throw _
      | keyError key => exact quarantined _

theorem onPosition_routed (payload : IbkrPositionPayload) :
    Keeps (Routed routed) (onPosition payload) := by
  refine Keeps.get fun normalizer _ => Keeps.ite (fun _ => ?_) fun _ => ?_
  · exact Keeps.bind (Keeps.modify fun _ routing => routing) fun _ => record_routed _
  · refine Keeps.get fun normalizer _ => keeps_raise fun instrumentId _ => ?_
    exact Keeps.modify fun _ routing => routing

theorem onAccountSummary_routed (payload : IbkrAccountSummaryPayload) :
    Keeps (Routed routed) (onAccountSummary payload) := by
  refine Keeps.get fun normalizer _ => Keeps.ite (fun _ => ?_) fun _ => ?_
  · exact Keeps.bind (Keeps.modify fun _ routing => routing) fun _ => record_routed _
  · refine Keeps.ite (fun _ => Keeps.pure _) fun _ => ?_
    exact Keeps.modify fun _ routing => routing

theorem dispatch_routed (attachable : Attachable echoes routed) {callback : IbkrCallback}
    (echoed : Echoes echoes callback) (now : DateTime) :
    Keeps (Routed routed) (dispatch callback now) := by
  cases callback with
  | orderStatus payload =>
    exact Keeps.bind (onCallbacks_routed (onOrderStatus_routed payload now)) fun _ => Keeps.pure _
  | openOrder payload =>
    exact Keeps.bind (onOpenOrder_routed attachable echoed now) fun _ => Keeps.pure _
  | execution payload =>
    exact Keeps.bind (onCallbacks_routed (onExecution_routed payload)) fun _ => Keeps.pure _
  | commission payload =>
    exact Keeps.bind (onCallbacks_routed (onCommission_routed payload)) fun _ => Keeps.pure _
  | position payload => exact Keeps.bind (onPosition_routed payload) fun _ => Keeps.pure _
  | accountSummary payload =>
    exact Keeps.bind (onAccountSummary_routed payload) fun _ => Keeps.pure _

theorem resolveOpenOrders_routed (attachable : Attachable echoes routed) (now : DateTime)
    {payloads : List IbkrOpenOrderPayload}
    (echoed : ∀ payload ∈ payloads, Echoes echoes (.openOrder payload)) :
    Keeps (Routed routed) (resolveOpenOrders now payloads) := by
  induction payloads with
  | nil => exact Keeps.pure _
  | cons payload rest ih =>
    have later := ih fun other mem => echoed other (List.mem_cons_of_mem _ mem)
    refine Keeps.get fun normalizer _ => ?_
    refine Keeps.bind (onOpenOrder_routed attachable (echoed payload List.mem_cons_self) now)
      fun _ => Keeps.get fun current _ => Keeps.ite (fun _ => ?_) fun _ => later
    refine Keeps.bind (Keeps.modify fun _ routing => routing) fun _ => ?_
    exact Keeps.bind later fun _ => Keeps.pure _

theorem resolveOrderStatuses_routed (now : DateTime) (payloads : List IbkrOrderStatusPayload) :
    Keeps (IbkrCallbacks.Routed routed) (resolveOrderStatuses now payloads) := by
  induction payloads with
  | nil => exact Keeps.pure _
  | cons payload rest ih =>
    refine Keeps.get fun calls _ => ?_
    refine Keeps.bind (onOrderStatus_routed payload now) fun report => Keeps.get fun current _ => ?_
    refine Keeps.ite (fun _ => ?_) fun _ => ?_
    · refine Keeps.bind (Keeps.modify fun _ routing => routing) fun _ => ?_
      exact Keeps.bind ih fun _ => Keeps.pure _
    · exact Keeps.bind ih fun _ => Keeps.pure _

theorem resolveQuarantinedCallbacks_ends (attachable : Attachable echoes routed) (now : DateTime)
    (routing : Routed routed normalizer)
    (echoed : ∀ payload ∈ normalizer.quarantinedOpenOrders, Echoes echoes (.openOrder payload)) :
    Ends (fun _ after => Routed routed after ∧ after.calls.Settled)
      (fun _ after => Routed routed after) (resolveQuarantinedCallbacks now) normalizer := by
  refine Ends.get ?_
  refine Ends.bind ((resolveOpenOrders_routed attachable now echoed).ends routing) ?_
  intro openOrders opened openedRouting
  refine ends_modify_bind (Ends.get ?_)
  refine Ends.bind ((onCallbacks_routed (resolveOrderStatuses_routed now _)).ends openedRouting) ?_
  rintro ⟨statuses, orderStatuses⟩ stated statedRouting
  refine ends_modify_bind ?_
  refine Ends.bind (onCallbacks_ends (resolveQuarantined_ends statedRouting)) ?_
  intro fills after settled
  exact Ends.pure settled

theorem recordSubmittedOrder_routed {req : IbkrOrderRequest} {ibkrOrderId : String}
    (attachable : Attachable echoes routed) (echoed : echoes req.clientOrderId ibkrOrderId)
    (recordable : ∀ known, routed known → known req.clientOrderId = none →
      routed (Function.update known req.clientOrderId (some (req.internalOrderId, none))))
    (submittedAt : DateTime) :
    Keeps (Routed routed) (recordSubmittedOrder req ibkrOrderId submittedAt) := by
  refine Keeps.get fun normalizer routing => ?_
  obtain ⟨map, found, indexed, holds⟩ := routing
  rw [found]
  cases req.internalAccountId with
  | none => exact Keeps.throw _
  | some accountId =>
    refine keeps_raise fun pending ran => ?_
    have recorded : pending.2.Indexed ∧ routed pending.2.routes := by
      rcases recordPendingSubmission_routes indexed ran with
        ⟨_, rfl⟩ | ⟨fresh, kept, changed⟩
      · exact ⟨indexed, holds⟩
      · exact ⟨kept, changed.symm ▸ recordable _ holds fresh⟩
    refine Keeps.bind (Keeps.modify fun _ _ => ⟨pending.2, rfl, recorded⟩) fun _ => ?_
    refine onCallbacks_routed (updateOrderMap_routed ?_)
    intro stored attached
    obtain ⟨internal, old, known, kept, changed⟩ :=
      attachIbkrOrderId_routes recorded.1 attached
    exact ⟨kept, changed.symm ▸ attachable _ _ _ _ _ recorded.2 known echoed⟩

theorem recordSubmittedOrder_new {req : IbkrOrderRequest} {ibkrOrderId : String}
    {map : BrokerOrderMap} (found : normalizer.calls.orderMap = some map)
    (indexed : map.Indexed) (account : req.internalAccountId ≠ none)
    (newClient : map.byClientOrderId.get? req.clientOrderId = none)
    (newInternal : map.clientByInternalOrderId.get? req.internalOrderId = none)
    (newId : map.clientByIbkrOrderId.get? ibkrOrderId = none)
    (shown : PythonText.isBlank ibkrOrderId = false) (submittedAt : DateTime) :
    (endState ((recordSubmittedOrder req ibkrOrderId submittedAt).run normalizer)).Routed
      fun known => known = Function.update map.routes req.clientOrderId
        (some (req.internalOrderId, some ibkrOrderId)) := by
  obtain ⟨accountId, given⟩ := Option.ne_none_iff_exists'.mp account
  have clientShown : PythonText.isBlank req.clientOrderId = false :=
    req.check_passes (.head _)
  obtain ⟨⟨record, pending⟩, recorded⟩ := recordPendingSubmission_new newClient
    newInternal clientShown accountId req.strategyId submittedAt
  have fresh : map.routes req.clientOrderId = none := by
    rw [routes, newClient]
    rfl
  obtain ⟨known, _⟩ | ⟨_, kept, changed⟩ :=
    recordPendingSubmission_routes indexed recorded
  · exact absurd fresh known
  have route : pending.routes req.clientOrderId = some (req.internalOrderId, none) := by
    rw [changed, Function.update_self]
  obtain ⟨stored, storedAt, _⟩ := Option.map_eq_some_iff.mp route
  have stillNew : pending.clientByIbkrOrderId.get? ibkrOrderId = none := by
    cases leads : pending.clientByIbkrOrderId.get? ibkrOrderId with
    | none => rfl
    | some clientOrderId =>
      obtain ⟨other, otherAt, id⟩ := (kept.ibkr ibkrOrderId clientOrderId).mp leads
      have otherRoute : pending.routes clientOrderId =
          some (other.internalOrderId, some ibkrOrderId) := by
        rw [routes, otherAt, ← id]
        rfl
      rw [changed, Function.update_apply] at otherRoute
      split at otherRoute
      · exact absurd (congrArg (Option.map Prod.snd) otherRoute) (by simp)
      · obtain ⟨before, beforeAt, same⟩ := Option.map_eq_some_iff.mp otherRoute
        have led := (indexed.ibkr ibkrOrderId clientOrderId).mpr
          ⟨before, beforeAt, (Prod.mk.inj same).2⟩
        rw [newId] at led
        cases led
  obtain ⟨attached, ran⟩ := attachIbkrOrderId_new kept storedAt stillNew shown
  obtain ⟨internal, old, known, attachedIndexed, attachedRoutes⟩ :=
    attachIbkrOrderId_routes kept ran
  rw [route] at known
  cases known
  have done : (recordSubmittedOrder req ibkrOrderId submittedAt).run normalizer =
      .ok () { normalizer with
        calls := { normalizer.calls with orderMap := some attached.2 } } := by
    rw [recordSubmittedOrder]
    simp only [EStateM.run_bind, EStateM.run_get, found, given, raise, recorded]
    have stored : (onCallbacks (raising (.ok (record, pending)))).run normalizer =
        .ok (record, pending) normalizer := rfl
    simp only [stored, EStateM.run_modify, ran]
    rfl
  rw [done]
  refine ⟨attached.2, rfl, attachedIndexed, ?_⟩
  rw [attachedRoutes, changed, Function.update_idem]

theorem recordSubmittedOrder_refused {req : IbkrOrderRequest} {ibkrOrderId : String}
    {normalizer : IbkrCallbackNormalizer} {map : BrokerOrderMap}
    (found : normalizer.calls.orderMap = some map)
    (newClient : map.byClientOrderId.get? req.clientOrderId = none)
    (refused : req.internalAccountId = none ∨ ∃ other, other ≠ req.clientOrderId ∧
      map.clientByInternalOrderId.get? req.internalOrderId = some other)
    (submittedAt : DateTime) :
    endState ((recordSubmittedOrder req ibkrOrderId submittedAt).run normalizer) =
      normalizer := by
  rw [recordSubmittedOrder]
  cases given : req.internalAccountId with
  | none =>
    simp only [EStateM.run_bind, EStateM.run_get, found]
    rfl
  | some accountId =>
    obtain missing | ⟨other, ne, internal⟩ := refused
    · rw [given] at missing
      cases missing
    obtain ⟨failure, raised⟩ := recordPendingSubmission_taken newClient internal
      ne accountId req.strategyId submittedAt
    simp only [EStateM.run_bind, EStateM.run_get, found, raised]
    rfl

end Routed

end IbkrCallbackNormalizer

end Qts
