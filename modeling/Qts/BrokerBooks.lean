import Qts.BrokerRuntimeReconciliation
import Qts.CallbackRoutes

/-! # The broker's side of a reconciliation -/

namespace Qts

open RaisingCalls Dict Ends IbkrCallback Keeps

def ibkrOrderStatuses : List String :=
  ["ApiPending", "ApiCancelled", "Cancelled", "Filled", "Inactive", "PendingCancel",
   "PendingSubmit", "PreSubmitted", "Submitted"]

theorem OrderState.value_not_mem_ibkrOrderStatuses (state : OrderState) :
    state.value ∉ ibkrOrderStatuses := by
  cases state <;> decide

/-- An open order comes with a status that the broker documents. -/
def IbkrCallback.Documented : IbkrCallback → Prop
  | .openOrder payload => ∀ status, payload.status = some status → status ∈ ibkrOrderStatuses
  | _ => True

/-- The open orders that an event brings have documented statuses. -/
def IbkrSessionEvent.Documented : IbkrSessionEvent → Prop
  | .submit _ arriving _ => ∀ callback ∈ arriving, callback.Documented
  | .callback arrived _ => arrived.Documented
  | _ => True

namespace IbkrCallbackNormalizer

/-- What the normalizers keep for reconciliation is keyed by what it is about. -/
structure BrokerBooks (normalizer : IbkrCallbackNormalizer) : Prop where
  orders : ∀ orderId snapshot, normalizer.brokerOpenOrders.get? orderId = some snapshot →
    snapshot.status ∈ ibkrOrderStatuses
  positions : ∀ key position, normalizer.brokerPositions.get? key = some position →
    position.instrumentId.value = key
  cash : ∀ key entry, normalizer.brokerCash.get? key = some entry → entry.currency = key
  quarantined : ∀ payload ∈ normalizer.quarantinedOpenOrders,
    (openOrder payload).Documented

theorem BrokerBooks.withCallbacks {normalizer : IbkrCallbackNormalizer}
    (books : BrokerBooks normalizer) (calls : IbkrCallbacks) :
    BrokerBooks { normalizer with calls } :=
  ⟨books.orders, books.positions, books.cash, books.quarantined⟩

theorem onCallbacks_books {Value : Type} (call : CallbackCall Value) :
    Keeps BrokerBooks (onCallbacks call) := by
  intro normalizer books
  change BrokerBooks (endState (onCallbacks call normalizer))
  unfold onCallbacks
  cases call.run normalizer.calls with
  | ok value calls => exact books.withCallbacks calls
  | error failure calls => exact books.withCallbacks calls

theorem markLinked_books (payload : IbkrOpenOrderPayload) (now : DateTime)
    (permed : BrokerOrderMap) :
    Keeps BrokerBooks (match payload.status with
      | some status => onCallbacks
          (IbkrCallbacks.updateOrderMap (permed.markStatus payload.brokerOrderId status now))
      | none => return) := by
  cases payload.status with
  | none => exact pure _
  | some status => exact onCallbacks_books _

theorem linkOpenOrder_books (map : BrokerOrderMap) (payload : IbkrOpenOrderPayload)
    (clientOrderId : String) (now : DateTime) :
    Keeps BrokerBooks (linkOpenOrder map payload clientOrderId now) := by
  have marked := markLinked_books payload now
  unfold linkOpenOrder
  refine keeps_raise fun attached _ => ?_
  refine bind (modify fun _ books => books.withCallbacks _) fun _ => ?_
  cases payload.permId with
  | none => exact marked _
  | some permId =>
    refine keeps_raise fun permed _ => ?_
    exact bind (modify fun _ books => books.withCallbacks _) fun _ => marked _

theorem create_status {fields : OrderSnapshotFields} {snapshot : OrderSnapshot}
    (created : (OrderSnapshot.create fields).mapError CallbackError.valueError = .ok snapshot) :
    snapshot.toOrderSnapshotFields = fields := by
  unfold OrderSnapshot.create at created
  split at created
  · cases created
    rfl
  · cases created

theorem keepOpenOrder_books {payload : IbkrOpenOrderPayload}
    (documented : (openOrder payload).Documented) (internalOrderId : OrderId) :
    Keeps BrokerBooks (keepOpenOrder payload internalOrderId) := by
  unfold keepOpenOrder
  split
  · next brokerSymbol side quantity status _ _ _ statusGiven =>
    refine get fun normalizer _ => keeps_raise fun instrumentId _ => ?_
    refine keeps_raise fun side _ => keeps_raise fun snapshot created => ?_
    refine modify fun normalizer books =>
      ⟨?_, books.positions, books.cash, books.quarantined⟩
    intro orderId kept found
    rw [get?_set] at found
    split at found
    · cases found
      rw [show snapshot.status = status from congrArg (·.status) (create_status created)]
      exact documented status statusGiven
    · exact books.orders orderId kept found
  · exact pure _

theorem onOpenOrder_books {payload : IbkrOpenOrderPayload}
    (documented : (openOrder payload).Documented) (now : DateTime) :
    Keeps BrokerBooks (onOpenOrder payload now) := by
  have quarantined : ∀ reason, Keeps BrokerBooks (quarantineOpenOrder payload reason) := by
    intro reason
    refine bind (modify fun _ books => ⟨books.orders, books.positions, books.cash, ?_⟩)
      fun _ => onCallbacks_books _
    intro other mem
    rcases List.mem_append.mp mem with old | new
    · exact books.quarantined other old
    · exact List.mem_singleton.mp new ▸ documented
  refine bind (onCallbacks_books _) fun _ => get fun normalizer _ => ?_
  split
  · exact pure _
  · exact quarantined _
  · next map clientOrderId _ _ =>
    refine tryCatch ?_ fun failure => ?_
    · refine get fun current _ => ite (fun _ => onCallbacks_books _) fun _ => ?_
      refine keeps_raise fun tracked _ => bind (linkOpenOrder_books _ _ _ _) fun _ => ?_
      refine bind (keepOpenOrder_books documented _) fun _ => modify fun _ books => ?_
      exact ⟨books.orders, books.positions, books.cash, books.quarantined⟩
    · cases failure with
      | valueError msg => exact throw _
      | keyError key => exact quarantined _

theorem onPosition_books (payload : IbkrPositionPayload) :
    Keeps BrokerBooks (onPosition payload) := by
  refine get fun normalizer _ => ite (fun _ => ?_) fun _ => ?_
  · refine bind (modify fun _ books => ?_) fun _ => onCallbacks_books _
    exact ⟨books.orders, books.positions, books.cash, books.quarantined⟩
  · refine get fun normalizer _ => keeps_raise fun instrumentId _ => ?_
    refine modify fun _ books => ⟨books.orders, ?_, books.cash, books.quarantined⟩
    intro key position found
    rw [get?_set] at found
    split at found
    · next same =>
      cases found
      exact same.symm
    · exact books.positions key position found

theorem onAccountSummary_books (payload : IbkrAccountSummaryPayload) :
    Keeps BrokerBooks (onAccountSummary payload) := by
  refine get fun normalizer _ => ite (fun _ => ?_) fun _ => ?_
  · refine bind (modify fun _ books => ?_) fun _ => onCallbacks_books _
    exact ⟨books.orders, books.positions, books.cash, books.quarantined⟩
  · refine ite (fun _ => pure _) fun _ => modify fun _ books => ?_
    refine ⟨books.orders, books.positions, ?_, books.quarantined⟩
    intro key entry found
    rw [get?_set] at found
    split at found
    · next same =>
      cases found
      exact same.symm
    · exact books.cash key entry found

theorem dispatch_books {callback : IbkrCallback} (documented : callback.Documented)
    (now : DateTime) : Keeps BrokerBooks (dispatch callback now) := by
  cases callback with
  | orderStatus payload => exact bind (onCallbacks_books _) fun _ => pure _
  | openOrder payload => exact bind (onOpenOrder_books documented now) fun _ => pure _
  | execution payload => exact bind (onCallbacks_books _) fun _ => pure _
  | commission payload => exact bind (onCallbacks_books _) fun _ => pure _
  | position payload => exact bind (onPosition_books payload) fun _ => pure _
  | accountSummary payload =>
    exact bind (onAccountSummary_books payload) fun _ => pure _

theorem resolveOpenOrders_books (now : DateTime) {payloads : List IbkrOpenOrderPayload}
    (documented : ∀ payload ∈ payloads, (openOrder payload).Documented)
    {normalizer : IbkrCallbackNormalizer} (books : BrokerBooks normalizer) :
    Ends (fun unresolved after => BrokerBooks after ∧
        ∀ payload ∈ unresolved, (openOrder payload).Documented)
      (fun _ after => BrokerBooks after) (resolveOpenOrders now payloads) normalizer := by
  induction payloads generalizing normalizer with
  | nil => exact pure ⟨books, by rintro payload ⟨⟩⟩
  | cons payload rest ih =>
    have first := documented payload List.mem_cons_self
    have later := fun {normalizer : IbkrCallbackNormalizer} => @ih
      (fun other mem => documented other (List.mem_cons_of_mem _ mem)) normalizer
    refine get (bind ((onOpenOrder_books first now).ends books) ?_)
    intro _ between kept
    refine get ?_
    by_cases again : normalizer.quarantinedOpenOrders.length < between.quarantinedOpenOrders.length
    · rw [if_pos again]
      refine ends_modify_bind (bind (later ?_) ?_)
      · refine ⟨kept.orders, kept.positions, kept.cash, fun other mem => ?_⟩
        exact kept.quarantined other (List.dropLast_subset _ mem)
      · rintro unresolved after ⟨last, among⟩
        refine pure ⟨last, fun other mem => ?_⟩
        rcases List.mem_cons.mp mem with rfl | mem
        · exact first
        · exact among other mem
    · rw [if_neg again]
      exact later kept

theorem resolveQuarantinedCallbacks_books (now : DateTime) :
    Keeps BrokerBooks (resolveQuarantinedCallbacks now) := by
  intro normalizer books
  have ends : Ends (fun _ after => BrokerBooks after) (fun _ after => BrokerBooks after)
      (resolveQuarantinedCallbacks now) normalizer := by
    refine get (bind (resolveOpenOrders_books now books.quarantined books) ?_)
    rintro openOrders opened ⟨kept, documented⟩
    refine ends_modify_bind (get ?_)
    have held : BrokerBooks { opened with quarantinedOpenOrders := openOrders } :=
      ⟨kept.orders, kept.positions, kept.cash, documented⟩
    refine bind ((onCallbacks_books _).ends held) ?_
    rintro ⟨statuses, orderStatuses⟩ stated statedBooks
    refine ends_modify_bind (bind ((onCallbacks_books _).ends ?_) ?_)
    · exact ⟨statedBooks.orders, statedBooks.positions, statedBooks.cash, statedBooks.quarantined⟩
    · exact fun fills after last => pure last
  unfold Ends at ends
  cases ran : (resolveQuarantinedCallbacks now).run normalizer with
  | ok reports after =>
    rw [ran] at ends
    exact ends
  | error failure after =>
    rw [ran] at ends
    exact ends

theorem recordSubmittedOrder_books (req : IbkrOrderRequest) (ibkrOrderId : String)
    (submittedAt : DateTime) :
    Keeps BrokerBooks (recordSubmittedOrder req ibkrOrderId submittedAt) := by
  refine get fun normalizer _ => ?_
  split
  · exact pure _
  · exact throw _
  · refine keeps_raise fun pending _ => ?_
    refine bind (modify fun _ books => books.withCallbacks _) fun _ => ?_
    exact onCallbacks_books _

end IbkrCallbackNormalizer

namespace IbkrOrderSession

open IbkrCallbackNormalizer

theorem arrive_books (now : DateTime) {calls : List IbkrCallback}
    (documented : ∀ callback ∈ calls, callback.Documented) {session : IbkrOrderSession}
    (books : BrokerBooks session.normalizer) :
    BrokerBooks (session.arrive now calls).2.normalizer := by
  induction calls generalizing session with
  | nil => exact books
  | cons callback rest ih =>
    have later := fun {session : IbkrOrderSession} => @ih
      (fun other mem => documented other (List.mem_cons_of_mem _ mem)) session
    have kept := dispatch_books (documented callback List.mem_cons_self) now
      session.normalizer books
    unfold arrive
    cases ran : (dispatch callback now).run session.normalizer with
    | ok reports normalizer =>
      rw [ran] at kept
      exact @later { session with normalizer } kept
    | error failure normalizer =>
      rw [ran] at kept
      exact @later { session with normalizer } kept

end IbkrOrderSession

end Qts
