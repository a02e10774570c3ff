import Qts.BrokerBooks
import Qts.PlacedOrderRuns
import Qts.PortfolioValuations

/-! # Reconciliation over runs -/

namespace Qts

open RaisingCalls PythonText Dict StepRuns OrderSnapshot List

namespace IbkrOrderSession

open IbkrCallbackNormalizer

variable (caps : UpperCase)

theorem placeOrders_normalizer (req : IbkrOrderRequest) (session : IbkrOrderSession) :
    Ends (fun _ after => after.normalizer = session.normalizer)
      (fun _ after => after.normalizer = session.normalizer) (placeOrders caps req)
      session := by
  refine Ends.get ?_
  split
  · exact Ends.throw rfl
  · refine ends_modify_bind ?_
    split
    · exact Ends.throw rfl
    · exact ends_modify_bind (Ends.pure rfl)

theorem onNormalizer_books {Value : Type} {call : NormalizerCall Value}
    (keeps : Keeps BrokerBooks call) :
    Keeps (fun session : IbkrOrderSession => BrokerBooks session.normalizer)
      (onNormalizer call) := by
  intro session books
  have kept := keeps session.normalizer books
  change BrokerBooks (endState (onNormalizer call session)).normalizer
  unfold onNormalizer
  cases ran : call.run session.normalizer with
  | ok value normalizer =>
    rw [ran] at kept
    exact kept
  | error failure normalizer =>
    rw [ran] at kept
    exact kept

variable {session : IbkrOrderSession}

theorem reportsOf_books {call : SessionCall (List ExecutionReport)}
    (keeps : Keeps (fun session : IbkrOrderSession => BrokerBooks session.normalizer) call)
    (books : BrokerBooks session.normalizer) :
    BrokerBooks (reportsOf (call.run session)).2.normalizer := by
  have kept := keeps session books
  cases ran : call.run session with
  | ok reports after =>
    rw [ran] at kept
    exact kept
  | error failure after =>
    rw [ran] at kept
    exact kept

theorem submit_books (req : IbkrOrderRequest) {arriving : List IbkrCallback}
    (documented : ∀ callback ∈ arriving, callback.Documented) (now : DateTime)
    (books : BrokerBooks session.normalizer) :
    BrokerBooks (submitOrderWithBrokerId caps req arriving now session).2.normalizer := by
  have placed := placeOrders_normalizer caps req session
  unfold Ends at placed
  unfold submitOrderWithBrokerId
  cases ran : (placeOrders caps req).run session with
  | error failure after =>
    rw [ran] at placed
    exact placed.symm ▸ books
  | ok firstId between =>
    rw [ran] at placed
    have held : BrokerBooks between.normalizer := placed.symm ▸ books
    have arrived := arrive_books now documented held
    have recorded := onNormalizer_books (recordSubmittedOrder_books req (toString firstId) now)
      _ arrived
    dsimp only
    cases recording : (onNormalizer (recordSubmittedOrder req (toString firstId) now)).run
        (between.arrive now arriving).2 with
    | ok _ after =>
      rw [recording] at recorded
      exact recorded
    | error failure after =>
      rw [recording] at recorded
      exact recorded

theorem step_books {event : IbkrSessionEvent} (documented : event.Documented)
    (books : BrokerBooks session.normalizer) :
    BrokerBooks (step caps session event).2.normalizer := by
  cases event with
  | nextValidId orderId =>
    change BrokerBooks (endState ((markNextOrderId orderId).run session)).normalizer
    rw [markNextOrderId]
    split
    · exact books
    · exact books
  | submit req arriving now => exact submit_books caps req documented now books
  | callback callback now =>
    exact arrive_books now (fun other mem => mem_singleton.mp mem ▸ documented) books
  | flush reason => exact reportsOf_books (onNormalizer_books (onCallbacks_books _)) books
  | resolve now =>
    exact reportsOf_books (onNormalizer_books (resolveQuarantinedCallbacks_books now)) books

end IbkrOrderSession

/-- The open orders that an event brings have documented statuses. -/
def BrokerRuntimeEvent.Documented : BrokerRuntimeEvent → Prop
  | .session event => event.Documented
  | .message _ => True

namespace BrokerRuntime

open IbkrCallbackNormalizer BrokerRuntimeReconciliation Reconciliation

variable {caps : UpperCase}

theorem run_books {runtime : BrokerRuntime} (books : BrokerBooks runtime.session.normalizer)
    {events : List BrokerRuntimeEvent} (documented : ∀ event ∈ events, event.Documented) :
    BrokerBooks (final (step caps) runtime events).session.normalizer := by
  induction events generalizing runtime with
  | nil => exact books
  | cons event rest ih =>
    refine ih ?_ fun other mem => documented other (mem_cons_of_mem _ mem)
    cases event with
    | message message => exact books
    | session event =>
      exact IbkrOrderSession.step_books caps (documented _ mem_cons_self) books

theorem start_books (accountId : AccountId) (brokerAccount : String)
    (initialCash : Dict String Decimal) (symbolMapping : BrokerSymbolMapping) :
    BrokerBooks (start accountId brokerAccount initialCash symbolMapping).session.normalizer where
  orders := by rintro orderId snapshot ⟨⟩
  positions := by rintro key position ⟨⟩
  cash := by rintro key entry ⟨⟩
  quarantined := by rintro payload ⟨⟩

def workingOrders (runtime : BrokerRuntime) : List OrderId :=
  (runtime.partition.orderManager.manager.orders.values.filter fun order =>
    decide (order.state ∉ terminalOrderStates)).map (·.orderId)

def reportedWorking (record : BrokerOrderRecord) : Bool :=
  match IbkrCallbacks.statusFromIbkr record.status with
  | .ok .accepted => true
  | _ => false

def brokerWorkingOrders (runtime : BrokerRuntime) : List OrderId :=
  match runtime.session.normalizer.calls.orderMap with
  | none => []
  | some map => (map.byClientOrderId.values.filter reportedWorking).map (·.internalOrderId)

def holdings (runtime : BrokerRuntime) : Dict InstrumentId Holding :=
  runtime.partition.account.holdings.holdings

def balances (runtime : BrokerRuntime) : Dict String Decimal :=
  runtime.partition.account.cash.balances

def brokerPosition (runtime : BrokerRuntime) (instrumentId : InstrumentId) :
    Option ReconciliationPositionSnapshot :=
  runtime.session.normalizer.brokerPositions.get? instrumentId.value

def brokerBalance (runtime : BrokerRuntime) (currency : String) :
    Option ReconciliationCashSnapshot :=
  runtime.session.normalizer.brokerCash.get? currency

structure SameBooks (runtime : BrokerRuntime) : Prop where
  orders : runtime.workingOrders.Perm runtime.brokerWorkingOrders
  positions : ∀ instrumentId, heldQuantity runtime.holdings instrumentId =
    ((runtime.brokerPosition instrumentId).map (·.quantity)).getD 0
  cash : ∀ currency, (runtime.balances.get? currency).getD 0 =
    ((runtime.brokerBalance currency).map (·.balance)).getD 0

structure ListedAlike (runtime : BrokerRuntime) : Prop where
  noOrder : ∀ orderId, runtime.partition.orderManager.manager.orders.get? orderId = none
  noOpenOrder : ∀ orderId, runtime.session.normalizer.brokerOpenOrders.get? orderId = none
  positions : ∀ instrumentId, (runtime.holdings.get? instrumentId).isSome =
    (runtime.brokerPosition instrumentId).isSome
  cash : ∀ currency, (runtime.balances.get? currency).isSome =
    (runtime.brokerBalance currency).isSome

section Lookups

variable {Key Item Value Amount : Type} [DecidableEq Key]

theorem mem_values {dict : Dict Key Item} {item : Item} :
    item ∈ dict.values ↔ ∃ key, dict.get? key = some item := by
  simp only [values, mem_map, Prod.exists, exists_eq_right, get?_eq_some_iff]

theorem mem_sortedValues {text : Key → String} {dict : Dict Key Item} {item : Item} :
    item ∈ sortedValues text dict ↔ ∃ key, dict.get? key = some item := by
  simp only [sortedValues, mem_map, mem_insertionSort, Prod.exists, exists_eq_right,
    get?_eq_some_iff]

/-- Entries made of a dictionary's items are found with the dictionary's values. -/
theorem get?_byKey_items {key : Item → Key} {amount : Item → Amount} {items : List Item}
    {dict : Dict Key Value} {value : Value → Amount}
    (listed : items.map (fun item => (key item, amount item)) =
      dict.items.map fun entry => (entry.1, value entry.2)) (wanted : Key) :
    ((byKey key items).get? wanted).map amount = (dict.get? wanted).map value := by
  have keys : items.map key = dict.items.map Prod.fst := by
    simpa [map_map, Function.comp_def] using congrArg (List.map Prod.fst) listed
  have distinct : (items.map key).Nodup := keys ▸ dict.distinct
  apply Option.ext
  intro found
  simp only [Option.map_eq_some_iff, get?_byKey_eq_some_iff distinct, get?_eq_some_iff]
  constructor
  · rintro ⟨item, ⟨mem, rfl⟩, rfl⟩
    have among : (key item, amount item) ∈ dict.items.map fun entry => (entry.1, value entry.2) :=
      listed ▸ mem_map_of_mem mem
    obtain ⟨⟨other, stored⟩, storedMember, same⟩ := mem_map.mp among
    simp only [Prod.mk.injEq] at same
    exact ⟨stored, same.1 ▸ storedMember, same.2⟩
  · rintro ⟨stored, storedMember, rfl⟩
    have among : (wanted, value stored) ∈ items.map fun item => (key item, amount item) :=
      listed ▸ mem_map.mpr ⟨(wanted, stored), storedMember, rfl⟩
    obtain ⟨item, mem, same⟩ := mem_map.mp among
    simp only [Prod.mk.injEq] at same
    exact ⟨item, ⟨mem, same.1⟩, same.2⟩

theorem get?_byKey_sortedValues {key : Item → Key} {text : Key → String}
    (injective : Function.Injective text) {dict : Dict String Item}
    (keyed : ∀ stored item, dict.get? stored = some item → text (key item) = stored) (wanted : Key)
    : (byKey key (sortedValues id dict)).get? wanted = dict.get? (text wanted) := by
  have texts : ((sortedValues id dict).map key).map text =
      (dict.items.insertionSort fun first second => first.1 ≤ second.1).map Prod.fst := by
    rw [sortedValues, map_map, map_map]
    refine map_congr_left fun entry mem => ?_
    exact keyed entry.1 entry.2
      (dict.get?_eq_some_iff.mpr ((mem_insertionSort _).mp mem))
  have distinct : ((sortedValues id dict).map key).Nodup := by
    refine List.Nodup.of_map text ?_
    rw [texts]
    exact ((perm_insertionSort _ _).map Prod.fst).nodup_iff.mpr dict.distinct
  apply Option.ext
  intro item
  rw [get?_byKey_eq_some_iff distinct, mem_sortedValues]
  constructor
  · rintro ⟨⟨stored, found⟩, rfl⟩
    rw [keyed stored item found]
    exact found
  · intro found
    exact ⟨⟨text wanted, found⟩, injective (keyed _ item found)⟩

/-- Two equal amounts agree exactly if both are listed or neither is. -/
theorem amountsAgree_iff {amount : Item → Decimal} {internal broker : Option Item}
    {tolerance : Decimal} (pos : 0 ≤ tolerance)
    (same : (internal.map amount).getD 0 = (broker.map amount).getD 0) :
    EntriesAgree (fun internal broker => amountKind tolerance (amount internal) (amount broker))
      internal broker ↔ internal.isSome = broker.isSome := by
  cases internal with
  | none =>
    cases broker with
    | none => exact ⟨fun _ => rfl, fun _ => trivial⟩
    | some item => exact ⟨False.elim, nofun⟩
  | some item =>
    cases broker with
    | none => exact ⟨False.elim, nofun⟩
    | some other =>
      refine ⟨fun _ => rfl, fun _ => (amountKind_tolerable pos).mpr ?_⟩
      change amount item = amount other at same
      rw [same, sub_self, abs_zero]
      exact pos

end Lookups

theorem cashEntries_items {items : List (String × Decimal)}
    {entries : List ReconciliationCashSnapshot} (built : cashEntries items = .ok entries) :
    entries.map (fun entry => (entry.currency, entry.balance)) = items := by
  induction items generalizing entries with
  | nil =>
    cases built
    rfl
  | cons item rest ih =>
    obtain ⟨currency, balance⟩ := item
    unfold cashEntries at built
    split at built
    · obtain ⟨others, builtRest, built⟩ := bind_inv built
      cases built
      rw [map_cons, ih builtRest]
    · cases built

theorem cashEntries_ok {items : List (String × Decimal)}
    (shown : ∀ item ∈ items, isBlank item.1 = false) :
    ∃ entries, cashEntries items = .ok entries := by
  induction items with
  | nil => exact ⟨[], rfl⟩
  | cons item rest ih =>
    obtain ⟨others, built⟩ := ih fun other mem => shown other (mem_cons_of_mem _ mem)
    refine ⟨⟨item.1, item.2, shown item mem_cons_self⟩ :: others, ?_⟩
    rw [cashEntries, dif_pos (shown item mem_cons_self), built]
    rfl

section Reconciling

variable {runtime : BrokerRuntime} {amountText : Decimal → String} {accountId : AccountId}
  {tolerance : Decimal}

def orderKind (internal broker : OrderSnapshot) : DriftKind :=
  if internal = broker then .matched else .divergent

theorem ordersAgree_iff (books : BrokerBooks runtime.session.normalizer) :
    (∀ orderId, EntriesAgree orderKind
      ((byKey (·.orderId) (runtime.partition.orderManager.manager.orders.values.map
        ofOrder)).get? orderId)
      ((byKey (·.orderId) (sortedValues (·.value)
        runtime.session.normalizer.brokerOpenOrders)).get? orderId)) ↔
    (∀ orderId, runtime.partition.orderManager.manager.orders.get? orderId = none) ∧
      ∀ orderId, runtime.session.normalizer.brokerOpenOrders.get? orderId = none := by
  constructor
  · intro agree
    have untracked : ∀ orderId,
        runtime.partition.orderManager.manager.orders.get? orderId = none := by
      refine fun orderId => Option.eq_none_iff_forall_ne_some.mpr fun order tracked => ?_
      have listed : ofOrder order ∈
          runtime.partition.orderManager.manager.orders.values.map ofOrder :=
        mem_map_of_mem (mem_values.mpr ⟨orderId, tracked⟩)
      obtain ⟨internal, found⟩ := @get?_byKey_of_mem _ _ _
        (fun snapshot : OrderSnapshot => snapshot.orderId) _ _ listed
      have both := agree (ofOrder order).orderId
      rw [found] at both
      obtain ⟨other, _, rfl⟩ := mem_map.mp (mem_of_get?_byKey found).1
      cases open' : (byKey (·.orderId) (sortedValues (·.value)
          runtime.session.normalizer.brokerOpenOrders)).get?
            (ofOrder order).orderId with
      | none =>
        rw [open'] at both
        exact both
      | some snapshot =>
        rw [open'] at both
        have same : ofOrder other = snapshot := orderKind_tolerable.mp both
        obtain ⟨key, kept⟩ := mem_sortedValues.mp (mem_of_get?_byKey open').1
        have status := books.orders key snapshot kept
        rw [← same] at status
        exact other.state.value_not_mem_ibkrOrderStatuses status
    refine ⟨untracked, fun orderId => Option.eq_none_iff_forall_ne_some.mpr fun snapshot kept => ?_⟩
    have listed : snapshot ∈ sortedValues (·.value) runtime.session.normalizer.brokerOpenOrders :=
      mem_sortedValues.mpr ⟨orderId, kept⟩
    obtain ⟨broker, found⟩ := @get?_byKey_of_mem _ _ _
      (fun snapshot : OrderSnapshot => snapshot.orderId) _ _ listed
    have both := agree snapshot.orderId
    rw [found] at both
    cases tracked : (byKey (·.orderId) (runtime.partition.orderManager.manager.orders.values.map
        ofOrder)).get? snapshot.orderId with
    | none =>
      rw [tracked] at both
      exact both
    | some internal =>
      obtain ⟨order, mem, _⟩ := mem_map.mp (mem_of_get?_byKey tracked).1
      obtain ⟨key, trackedOrder⟩ := mem_values.mp mem
      rw [untracked key] at trackedOrder
      cases trackedOrder
  · rintro ⟨untracked, unkept⟩ orderId
    cases tracked : (byKey (·.orderId) (runtime.partition.orderManager.manager.orders.values.map
        ofOrder)).get? orderId with
    | some internal =>
      obtain ⟨order, mem, _⟩ := mem_map.mp (mem_of_get?_byKey tracked).1
      obtain ⟨key, trackedOrder⟩ := mem_values.mp mem
      rw [untracked key] at trackedOrder
      cases trackedOrder
    | none =>
      cases open' : (byKey (·.orderId) (sortedValues (·.value)
          runtime.session.normalizer.brokerOpenOrders)).get? orderId with
      | none => trivial
      | some snapshot =>
        obtain ⟨key, kept⟩ := mem_sortedValues.mp (mem_of_get?_byKey open').1
        rw [unkept key] at kept
        cases kept

theorem instrumentId_value_injective :
    Function.Injective fun instrumentId : InstrumentId => instrumentId.value := by
  rintro ⟨⟨first, _⟩⟩ ⟨⟨second, _⟩⟩ same
  cases same
  rfl

theorem positionsAgree_iff (books : BrokerBooks runtime.session.normalizer)
    (same : SameBooks runtime) (pos : 0 ≤ tolerance) (instrumentId : InstrumentId) :
    EntriesAgree (fun internal broker => amountKind tolerance internal.quantity broker.quantity)
      ((byKey (·.instrumentId) (runtime.holdings.items.map fun item =>
        (⟨item.1, item.2.quantity⟩ : ReconciliationPositionSnapshot))).get? instrumentId)
      ((byKey (·.instrumentId) (sortedValues id
        runtime.session.normalizer.brokerPositions)).get? instrumentId) ↔
    (runtime.holdings.get? instrumentId).isSome = (runtime.brokerPosition instrumentId).isSome := by
  have broker : (byKey (·.instrumentId) (sortedValues id
      runtime.session.normalizer.brokerPositions)).get? instrumentId =
        runtime.brokerPosition instrumentId :=
    get?_byKey_sortedValues instrumentId_value_injective books.positions instrumentId
  have internal := @get?_byKey_items _ _ _ _ _ (·.instrumentId) (·.quantity)
    (runtime.holdings.items.map fun item =>
      (⟨item.1, item.2.quantity⟩ : ReconciliationPositionSnapshot)) runtime.holdings (·.quantity)
    (by rw [map_map]; rfl) instrumentId
  rw [broker, amountsAgree_iff pos (by rw [internal]; exact same.positions instrumentId),
    ← Option.isSome_map, internal, Option.isSome_map]

theorem cashAgree_iff (books : BrokerBooks runtime.session.normalizer) (same : SameBooks runtime)
    (pos : 0 ≤ tolerance) {entries : List ReconciliationCashSnapshot}
    (built : cashEntries runtime.balances.items = .ok entries) (currency : String) :
    EntriesAgree (fun internal broker => amountKind tolerance internal.balance broker.balance)
      ((byKey (·.currency) entries).get? currency)
      ((byKey (·.currency) (sortedValues id runtime.session.normalizer.brokerCash)).get? currency) ↔
    (runtime.balances.get? currency).isSome = (runtime.brokerBalance currency).isSome := by
  have broker : (byKey (·.currency) (sortedValues id
      runtime.session.normalizer.brokerCash)).get? currency = runtime.brokerBalance currency :=
    get?_byKey_sortedValues Function.injective_id books.cash currency
  have listed := cashEntries_items built
  have internal := @get?_byKey_items _ _ _ _ _ (·.currency) (·.balance) entries runtime.balances id
    (by rw [listed]; simp) currency
  rw [Option.map_id] at internal
  rw [broker, amountsAgree_iff pos (by rw [internal]; exact same.cash currency),
    ← Option.isSome_map, internal]
  rfl

/-- In every run that ends with equal books, a reconciliation finds no drift exactly if neither side
keeps an order and both list the same instruments and currencies. -/
theorem noDrift_iff (caps : UpperCase) (amountText : Decimal → String) (accountId : AccountId)
    (brokerAccount : String) (initialCash : Dict String Decimal)
    (symbolMapping : BrokerSymbolMapping) (events : List BrokerRuntimeEvent)
    (documented : ∀ event ∈ events, event.Documented) (tolerance : Decimal)
    (pos : 0 ≤ tolerance) :
    let runtime := final (step caps)
      (start accountId brokerAccount initialCash symbolMapping) events
    SameBooks runtime →
      ((∃ report, runtime.reconcile amountText accountId tolerance = .ok report ∧
        report.hasDrift = false) ↔ ListedAlike runtime) := by
  intro runtime same
  have books : BrokerBooks runtime.session.normalizer :=
    run_books (start_books accountId brokerAccount initialCash symbolMapping) documented
  have agreement : ∀ entries, cashEntries runtime.balances.items = .ok entries →
      ((∃ report, runtime.reconcile amountText accountId tolerance = .ok report ∧
        report.hasDrift = false) ↔ ListedAlike runtime) := by
    intro entries built
    let internal : ReconciliationSnapshot := {
      accountId
      orders := runtime.partition.orderManager.manager.orders.values.map ofOrder
      positions := runtime.holdings.items.map fun item => ⟨item.1, item.2.quantity⟩
      cash := entries }
    have snapshot : internalSnapshot accountId
        runtime.partition.orderManager.manager.orders.values
        runtime.partition.account.snapshot.1 = .ok internal := by
      rw [internalSnapshot]
      change (cashEntries runtime.balances.items >>= _) = _
      rw [built]
      rfl
    obtain ⟨report, reconciled, clean⟩ := @reconcileSnapshots_hasDrift_iff amountText internal
      (runtime.session.normalizer.brokerReconciliationSnapshot accountId) tolerance rfl pos
    have ran : runtime.reconcile amountText accountId tolerance = .ok report := by
      rw [reconcile, snapshot]
      exact reconciled
    have listed : report.hasDrift = false ↔ ListedAlike runtime := by
      refine clean.trans ?_
      have orders := @ordersAgree_iff runtime books
      have positions := forall_congr' (positionsAgree_iff books same pos)
      have cash := forall_congr' (cashAgree_iff books same pos built)
      refine (and_congr orders (and_congr positions cash)).trans ?_
      exact ⟨fun ⟨⟨noOrder, noOpenOrder⟩, positions, cash⟩ =>
          ⟨noOrder, noOpenOrder, positions, cash⟩,
        fun alike => ⟨⟨alike.noOrder, alike.noOpenOrder⟩, alike.positions, alike.cash⟩⟩
    rw [← listed]
    constructor
    · rintro ⟨other, otherRan, noDrift⟩
      rw [ran] at otherRan
      cases otherRan
      exact noDrift
    · exact fun noDrift => ⟨report, ran, noDrift⟩
  constructor
  · rintro ⟨report, ran, noDrift⟩
    obtain ⟨internal, built, _⟩ := bind_inv ran
    obtain ⟨entries, entriesBuilt, _⟩ := bind_inv built
    exact (agreement entries entriesBuilt).mp ⟨report, ran, noDrift⟩
  · intro alike
    have shown : ∀ item ∈ runtime.balances.items, isBlank item.1 = false := by
      intro item mem
      have listed := alike.cash item.1
      rw [runtime.balances.get?_eq_some_iff.mpr mem] at listed
      obtain ⟨entry, kept⟩ := Option.isSome_iff_exists.mp listed.symm
      rw [← books.cash item.1 entry kept]
      exact entry.currencyShown
    obtain ⟨entries, built⟩ := cashEntries_ok shown
    exact (agreement entries built).mpr alike

end Reconciling

/-- The submission of the plain order under the id it is placed with. -/
def submitMarketOrder : SubmitOrder where
  intent := {
    orderId := ⟨⟨"order-1", Eq.refl false⟩⟩
    instrumentId := ⟨⟨"ES", Eq.refl false⟩⟩
    side := .buy
    quantity := 1
    accountId := some ⟨⟨"account-1", Eq.refl false⟩⟩
    valid := by decide +kernel }
  riskDecision := { status := .approved }
  brokerOrderId := "1"
  marketPrice := 100
  accountId := ⟨⟨"account-1", Eq.refl false⟩⟩
  strategyId := ⟨⟨"strategy-1", Eq.refl false⟩⟩
  routeMetadata := {
    brokerId := ⟨⟨"ibkr", Eq.refl false⟩⟩
    accountId := ⟨⟨"account-1", Eq.refl false⟩⟩
    strategyId := ⟨⟨"strategy-1", Eq.refl false⟩⟩
    clientOrderId := "client-1"
    correlationId := ⟨⟨"correlation-1", Eq.refl false⟩⟩
    valid := by decide +kernel }
  sameAccount := rfl
  sameStrategy := rfl

def acknowledgements : List IbkrCallback :=
  [.openOrder {
      reportId := "ibkr-open-order-1"
      brokerOrderId := "1"
      clientOrderId := some "client-1"
      status := some "Submitted"
      brokerSymbol := some "ES"
      side := some "BUY"
      quantity := some 1
      valid := by decide +kernel },
   .orderStatus {
      reportId := "ibkr-status-1-submitted"
      brokerOrderId := "1"
      status := "Submitted"
      valid := by decide +kernel },
   .accountSummary {
      accountId := "DU1"
      tag := "TotalCashValue"
      value := 1000
      currency := "USD"
      accountShown := by decide
      tagShown := by decide
      currencyShown := by decide }]

def acknowledgedEvents : List BrokerRuntimeEvent :=
  [.session (.nextValidId 1), .session (.submit IbkrOrderSession.marketRequest [] 0),
   .message (.submit submitMarketOrder)] ++
    acknowledgements.map fun callback => .session (.callback callback 1)

def acknowledged : BrokerRuntime :=
  final (step .ascii) (start ⟨⟨"account-1", Eq.refl false⟩⟩ "DU1"
    (.ofItems [("USD", 1000)]) { toInstrument := .ofItems [("ES", ⟨⟨"ES", Eq.refl false⟩⟩)] })
    acknowledgedEvents

theorem acknowledged_sameBooks : SameBooks acknowledged where
  orders := by decide +kernel
  positions := by
    have unheld : acknowledged.holdings.items = [] := by decide +kernel
    have unreported : acknowledged.session.normalizer.brokerPositions.items = [] := by
      decide +kernel
    intro instrumentId
    rw [heldQuantity, brokerPosition, get?, get?, unheld, unreported]
    rfl
  cash := by
    have held : acknowledged.balances.items = [("USD", 1000)] := by decide +kernel
    have reported : acknowledged.session.normalizer.brokerCash.items =
        [("USD", ⟨"USD", 1000, by decide⟩)] := by decide +kernel
    intro currency
    rw [brokerBalance, get?, get?, held, reported]
    cases same : currency == "USD" <;> simp [lookup_cons, same]

/-- Both sides hold one working order and the same cash, and the order is reported as drift: its
state is `accepted` here and `Submitted` there. -/
theorem acknowledged_order_drifts :
    SameBooks acknowledged ∧
      (acknowledged.workingOrders = [⟨⟨"order-1", rfl⟩⟩] ∧
        acknowledged.brokerWorkingOrders = [⟨⟨"order-1", rfl⟩⟩]) ∧
      (acknowledged.reconcile (fun amount => toString amount.num) ⟨⟨"account-1", rfl⟩⟩
        0).map (fun report => (report.items.head?, report.hasDrift)) =
          .ok (some ⟨.divergent, "order:order-1", some "buy:1:accepted:ES",
            some "buy:1:Submitted:ES"⟩, true) := by
  refine ⟨acknowledged_sameBooks, ⟨by decide +kernel, by decide +kernel⟩, ?_⟩
  decide +kernel

theorem noDrift_iff_acknowledged :
    (∃ report, acknowledged.reconcile (fun amount => toString amount.num)
        ⟨⟨"account-1", rfl⟩⟩ 0 = .ok report ∧ report.hasDrift = false) ↔
      ListedAlike acknowledged :=
  noDrift_iff .ascii (fun amount => toString amount.num) ⟨⟨"account-1", rfl⟩⟩ "DU1"
    (.ofItems [("USD", 1000)]) { toInstrument := .ofItems [("ES", ⟨⟨"ES", rfl⟩⟩)] }
    acknowledgedEvents (by
      intro event mem
      simp only [acknowledgedEvents, acknowledgements, map_cons, map_nil,
        cons_append, nil_append, mem_cons, not_mem_nil, or_false] at mem
      rcases mem with rfl | rfl | rfl | rfl | rfl | rfl
      · trivial
      · rintro callback ⟨⟩
      · trivial
      · rintro status ⟨⟩
        decide
      · trivial
      · trivial) 0 le_rfl acknowledged_sameBooks

end BrokerRuntime

end Qts
