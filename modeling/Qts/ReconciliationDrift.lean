import Qts.OrderValueObjects

/-! # Reconciliation drift -/

namespace Qts

structure OrderSnapshotFields where
  orderId : OrderId
  instrumentId : InstrumentId
  side : OrderSide
  quantity : Decimal
  status : String
deriving DecidableEq

def OrderSnapshotFields.checks (snapshot : OrderSnapshotFields) : List Check :=
  [⟨decide (snapshot.quantity ≤ 0), "quantity must be positive"⟩,
   ⟨PythonText.isBlank snapshot.status, "status must not be empty"⟩]

/-- Normalized representation of an internal or broker order. -/
structure OrderSnapshot extends OrderSnapshotFields where
  valid : Check.firstFailure toOrderSnapshotFields.checks = none
deriving DecidableEq

def OrderSnapshot.create (fields : OrderSnapshotFields) : Except String OrderSnapshot :=
  match checked : Check.firstFailure fields.checks with
  | none => .ok ⟨fields, checked⟩
  | some msg => .error msg

structure ReconciliationPositionSnapshot where
  instrumentId : InstrumentId
  quantity : Decimal

structure ReconciliationCashSnapshot where
  currency : String
  balance : Decimal
  currencyShown : PythonText.isBlank currency = false

instance : DecidableEq ReconciliationCashSnapshot := fun first second =>
  decidable_of_iff (first.currency = second.currency ∧ first.balance = second.balance)
    (by cases first; cases second; simp)

structure ReconciliationSnapshot where
  accountId : AccountId
  orders : List OrderSnapshot := []
  positions : List ReconciliationPositionSnapshot := []
  cash : List ReconciliationCashSnapshot := []

/-- Reconciliation drift categories. -/
inductive DriftKind
  | matched
  | missingAtBroker
  | extraAtBroker
  | divergent
  | toleranceOnly
deriving DecidableEq

/-- Single discrepancy item between snapshots. -/
structure DriftItem where
  kind : DriftKind
  key : String
  internal : Option String
  broker : Option String
deriving DecidableEq

structure ReconciliationReport where
  accountId : AccountId
  items : List DriftItem

def ReconciliationReport.hasDrift (report : ReconciliationReport) : Bool :=
  report.items.any fun item => decide (item.kind ∉ [DriftKind.matched, DriftKind.toleranceOnly])

namespace Reconciliation

section Comparing

variable {Key Item : Type} [DecidableEq Key]

def sortedKeys (text : Key → String) (left right : Dict Key Item) : List Key :=
  (left.keys ++ right.keys.filter fun key => decide (key ∉ left.keys)).insertionSort
    fun first second => text first ≤ text second

def driftItem (label : String) (describe : Item → String) (classify : Item → Item → DriftKind)
    (internal broker : Option Item) : DriftItem :=
  match internal, broker with
  | none, broker => ⟨.extraAtBroker, label, none, broker.map describe⟩
  | some internal, none => ⟨.missingAtBroker, label, some (describe internal), none⟩
  | some internal, some broker =>
    ⟨classify internal broker, label, some (describe internal), some (describe broker)⟩

def compareEntries (group : String) (text : Key → String) (describe : Item → String)
    (classify : Item → Item → DriftKind) (left right : Dict Key Item) : List DriftItem :=
  (sortedKeys text left right).map fun key =>
    driftItem (group ++ ":" ++ text key) describe classify (left.get? key) (right.get? key)

def byKey (key : Item → Key) (items : List Item) : Dict Key Item :=
  .ofItems (items.map fun item => (key item, item))

end Comparing

variable (amountText : Decimal → String)

def sideValue : OrderSide → String
  | .buy => "buy"
  | .sell => "sell"

def orderRepr (order : OrderSnapshot) : String :=
  sideValue order.side ++ ":" ++ amountText order.quantity ++ ":" ++ order.status ++ ":" ++
    order.instrumentId.value

def compareOrders (internal broker : List OrderSnapshot) : List DriftItem :=
  compareEntries "order" (fun orderId : OrderId => orderId.value) (orderRepr amountText)
    (fun internal broker => if internal = broker then .matched else .divergent)
    (byKey (·.orderId) internal) (byKey (·.orderId) broker)

def amountKind (tolerance internal broker : Decimal) : DriftKind :=
  if internal = broker then .matched
  else if |internal - broker| ≤ tolerance then .toleranceOnly
  else .divergent

def comparePositions (tolerance : Decimal) (internal broker : List ReconciliationPositionSnapshot) :
    List DriftItem :=
  compareEntries "position" (fun instrumentId : InstrumentId => instrumentId.value)
    (fun position => amountText position.quantity)
    (fun internal broker => amountKind tolerance internal.quantity broker.quantity)
    (byKey (·.instrumentId) internal) (byKey (·.instrumentId) broker)

def compareCash (tolerance : Decimal) (internal broker : List ReconciliationCashSnapshot) :
    List DriftItem :=
  compareEntries "cash" (fun currency : String => currency)
    (fun cash => amountText cash.balance)
    (fun internal broker => amountKind tolerance internal.balance broker.balance)
    (byKey (·.currency) internal) (byKey (·.currency) broker)

def driftRank (key : String) : Nat :=
  ["order", "position", "cash"].idxOf (String.ofList (key.toList.takeWhile (· ≠ ':')))

def driftBefore (first second : DriftItem) : Prop :=
  driftRank first.key < driftRank second.key ∨
    driftRank first.key = driftRank second.key ∧ first.key ≤ second.key

instance (first second : DriftItem) : Decidable (driftBefore first second) :=
  inferInstanceAs (Decidable (_ ∨ _))

def reconcileSnapshots (internal broker : ReconciliationSnapshot) (tolerance : Decimal) :
    Except String ReconciliationReport :=
  if internal.accountId ≠ broker.accountId then
    .error "cannot reconcile different accounts"
  else if tolerance < 0 then
    .error "tolerance must be non-negative"
  else
    .ok {
      accountId := internal.accountId
      items := (compareOrders amountText internal.orders broker.orders ++
        comparePositions amountText tolerance internal.positions broker.positions ++
        compareCash amountText tolerance internal.cash broker.cash).insertionSort driftBefore }

section ByKey

variable {Key Item : Type} [DecidableEq Key] {key : Item → Key} {items : List Item}

theorem mem_of_get?_byKey {found : Key} {item : Item}
    (stored : (byKey key items).get? found = some item) : item ∈ items ∧ key item = found := by
  obtain ⟨other, mem, same⟩ := List.mem_map.mp (Dict.mem_of_get?_ofItems stored)
  cases same
  exact ⟨mem, rfl⟩

theorem get?_byKey_of_mem {item : Item} (mem : item ∈ items) :
    ∃ other, (byKey key items).get? (key item) = some other :=
  Dict.get?_ofItems_of_mem
    (@List.mem_map_of_mem _ _ _ _ (fun item => (key item, item)) mem)

theorem get?_byKey_eq_some_iff (distinct : (items.map key).Nodup) {wanted : Key} {item : Item} :
    (byKey key items).get? wanted = some item ↔ item ∈ items ∧ key item = wanted := by
  constructor
  · exact mem_of_get?_byKey
  · rintro ⟨mem, rfl⟩
    obtain ⟨other, stored⟩ := @get?_byKey_of_mem _ _ _ key _ _ mem
    obtain ⟨otherMember, same⟩ := mem_of_get?_byKey stored
    rw [stored, List.inj_on_of_nodup_map distinct otherMember mem same]

end ByKey

def Tolerable (kind : DriftKind) : Prop :=
  kind ∈ [DriftKind.matched, DriftKind.toleranceOnly]

section Agreement

variable {Key Item : Type} [DecidableEq Key] {text : Key → String}
  {classify : Item → Item → DriftKind} {left right : Dict Key Item}

/-- What either side has for a key is on the other side too, and tolerably so. -/
def EntriesAgree (classify : Item → Item → DriftKind) : Option Item → Option Item → Prop
  | none, none => True
  | some internal, some broker => Tolerable (classify internal broker)
  | _, _ => False

theorem mem_sortedKeys {key : Key} :
    key ∈ sortedKeys text left right ↔ key ∈ left.keys ∨ key ∈ right.keys := by
  rw [sortedKeys, List.mem_insertionSort, List.mem_append, List.mem_filter]
  by_cases held : key ∈ left.keys
  · simp [held]
  · simp [held]

theorem compareEntries_tolerable_iff (group : String) (describe : Item → String) :
    (∀ item ∈ compareEntries group text describe classify left right, Tolerable item.kind) ↔
      ∀ key, EntriesAgree classify (left.get? key) (right.get? key) := by
  have listed : ∀ key, (left.get? key).isSome ∨ (right.get? key).isSome →
      key ∈ sortedKeys text left right := by
    intro key found
    rw [mem_sortedKeys, left.mem_keys_iff, right.mem_keys_iff]
    exact found.imp Option.isSome_iff_exists.mp Option.isSome_iff_exists.mp
  constructor
  · intro clean key
    cases internal : left.get? key with
    | none =>
      cases broker : right.get? key with
      | none => trivial
      | some item =>
        have mem := clean _ (List.mem_map_of_mem (listed key (.inr (by rw [broker]; rfl))))
        simp [internal, driftItem, Tolerable] at mem
    | some item =>
      have mem := clean _ (List.mem_map_of_mem (listed key (.inl (by rw [internal]; rfl))))
      cases broker : right.get? key with
      | none => simp [internal, broker, driftItem, Tolerable] at mem
      | some other =>
        rw [internal, broker] at mem
        exact mem
  · intro agree item mem
    obtain ⟨key, among, rfl⟩ := List.mem_map.mp mem
    have both := agree key
    cases internal : left.get? key with
    | none =>
      cases broker : right.get? key with
      | none =>
        rcases mem_sortedKeys.mp among with held | held
        · obtain ⟨item, found⟩ := left.mem_keys_iff.mp held
          rw [internal] at found
          cases found
        · obtain ⟨item, found⟩ := right.mem_keys_iff.mp held
          rw [broker] at found
          cases found
      | some other =>
        rw [internal, broker] at both
        exact both.elim
    | some item =>
      cases broker : right.get? key with
      | none =>
        rw [internal, broker] at both
        exact both.elim
      | some other =>
        rw [internal, broker] at both
        exact both

end Agreement

theorem orderKind_tolerable {internal broker : OrderSnapshot} :
    Tolerable (if internal = broker then DriftKind.matched else DriftKind.divergent) ↔
      internal = broker := by
  by_cases same : internal = broker
  · simp [same, Tolerable]
  · simp [same, Tolerable]

theorem amountKind_tolerable {tolerance internal broker : Decimal} (pos : 0 ≤ tolerance) :
    Tolerable (amountKind tolerance internal broker) ↔ |internal - broker| ≤ tolerance := by
  rw [amountKind]
  by_cases same : internal = broker
  · simp [same, Tolerable, pos]
  · by_cases near : |internal - broker| ≤ tolerance
    · simp [same, near, Tolerable]
    · simp [same, near, Tolerable]

theorem reconcileSnapshots_hasDrift_iff {internal broker : ReconciliationSnapshot}
    {tolerance : Decimal} (account : internal.accountId = broker.accountId)
    (pos : 0 ≤ tolerance) :
    ∃ report, reconcileSnapshots amountText internal broker tolerance = .ok report ∧
      (report.hasDrift = false ↔ (∀ orderId, EntriesAgree
          (fun internal broker => if internal = broker then .matched else .divergent)
          ((byKey (·.orderId) internal.orders).get? orderId)
          ((byKey (·.orderId) broker.orders).get? orderId)) ∧
        (∀ instrumentId, EntriesAgree
          (fun internal broker => amountKind tolerance internal.quantity broker.quantity)
          ((byKey (·.instrumentId) internal.positions).get? instrumentId)
          ((byKey (·.instrumentId) broker.positions).get? instrumentId)) ∧
        ∀ currency, EntriesAgree
          (fun internal broker => amountKind tolerance internal.balance broker.balance)
          ((byKey (·.currency) internal.cash).get? currency)
          ((byKey (·.currency) broker.cash).get? currency)) := by
  refine ⟨_, by rw [reconcileSnapshots, if_neg (not_not.mpr account), if_neg (not_lt.mpr pos)],
    ?_⟩
  rw [ReconciliationReport.hasDrift, List.any_eq_false,
    ← compareEntries_tolerable_iff "order" (orderRepr amountText),
    ← compareEntries_tolerable_iff "position" fun position => amountText position.quantity,
    ← compareEntries_tolerable_iff "cash" fun cash => amountText cash.balance]
  simp only [List.mem_insertionSort, decide_eq_true_eq, not_not, List.forall_mem_append, and_assoc]
  rfl

end Reconciliation

end Qts
