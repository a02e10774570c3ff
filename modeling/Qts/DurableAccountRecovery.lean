import Qts.AccountActor

/-! # Durable account recovery -/

namespace Qts

open InstrumentId

def InstrumentId.create (value : String) : Except String InstrumentId :=
  if notEmpty : PythonText.isBlank value = false then .ok ⟨⟨value, notEmpty⟩⟩
  else .error "InstrumentId must not be empty"

theorem InstrumentId.create_value (instrumentId : InstrumentId) :
    create instrumentId.value = .ok instrumentId := by
  have visible := instrumentId.notEmpty
  simp only [create, visible, dite_true]

/-- The persisted part of a holding. -/
structure HoldingPayload where
  quantity : Decimal
  averageCost : Decimal
  realizedPnl : Decimal
  openedAt : Option DateTime
  lastFillAt : Option DateTime

/-- The persisted part of an account snapshot. -/
structure AccountPayload where
  accountId : Option String
  cash : Dict String Decimal
  holdings : Dict String HoldingPayload
  seenFillIds : List String

namespace DurableAccountRecovery

def serializeHolding (holding : Holding) : HoldingPayload where
  quantity := holding.quantity
  averageCost := holding.averageCost
  realizedPnl := holding.realizedPnl
  openedAt := holding.openedAt
  lastFillAt := holding.lastFillAt

def serializeAccountSnapshot (snapshot : AccountSnapshot) : AccountPayload where
  accountId := snapshot.accountId.map fun accountId => accountId.value
  cash := snapshot.cash
  holdings := .ofItems (snapshot.holdings.items.map fun item =>
    (item.1.value, serializeHolding item.2))
  seenFillIds := snapshot.seenFillIds

def restoreHolding (instrumentId : InstrumentId) (payload : HoldingPayload) : Holding where
  instrumentId := instrumentId
  quantity := payload.quantity
  averageCost := payload.averageCost
  realizedPnl := payload.realizedPnl
  openedAt := payload.openedAt
  lastFillAt := payload.lastFillAt

def restoreRow (item : String × HoldingPayload) : Except String (InstrumentId × Holding) := do
  let instrumentId ← create item.1
  return (instrumentId, restoreHolding instrumentId item.2)

def restoreFromPayload (payload : AccountPayload) (accountId : AccountId) :
    Except String AccountActor := do
  let rows ← payload.holdings.items.mapM restoreRow
  return { AccountActor.init payload.cash (some accountId) with
    holdings := { holdings := .ofItems rows }
    fillIds := .restore payload.seenFillIds }

def roundTrip (instrumentId : InstrumentId) (holding : Holding) : Holding :=
  restoreHolding instrumentId (serializeHolding holding)

theorem roundTrip_eq_iff {instrumentId : InstrumentId} {holding : Holding}
    (key : holding.instrumentId = instrumentId) :
    roundTrip instrumentId holding = holding ↔
      holding.costBasisMethod = .average ∧ holding.lots = [] := by
  subst key
  cases holding
  simp [roundTrip, restoreHolding, serializeHolding, eq_comm]

theorem mapM_map_eq_ok {Failure Source Raw Target : Type} {write : Source → Raw}
    {read : Raw → Except Failure Target} {result : Source → Target}
    (reads : ∀ source, read (write source) = .ok (result source)) (sources : List Source) :
    (sources.map write).mapM read = .ok (sources.map result) := by
  induction sources with
  | nil => rfl
  | cons source rest ih =>
    rw [List.map_cons, List.mapM_cons, reads, ih]
    rfl

theorem serialized_items (snapshot : AccountSnapshot) :
    (serializeAccountSnapshot snapshot).holdings.items =
      snapshot.holdings.items.map fun item => (item.1.value, serializeHolding item.2) := by
  apply Dict.ofItems_items
  have values : Function.Injective fun instrumentId : InstrumentId => instrumentId.value := by
    intro first second same
    exact ext_value same
  rw [List.map_map]
  have keys := snapshot.holdings.distinct.map values
  rw [List.map_map] at keys
  exact keys

theorem restoreFromPayload_serialized (snapshot : AccountSnapshot) (accountId : AccountId) :
    restoreFromPayload (serializeAccountSnapshot snapshot) accountId =
      .ok { AccountActor.init snapshot.cash (some accountId) with
        holdings := { holdings := .ofItems (snapshot.holdings.items.map fun item =>
          (item.1, roundTrip item.1 item.2)) }
        fillIds := .restore snapshot.seenFillIds } := by
  have rows : (serializeAccountSnapshot snapshot).holdings.items.mapM restoreRow =
      .ok (snapshot.holdings.items.map fun item => (item.1, roundTrip item.1 item.2)) := by
    rw [serialized_items]
    apply mapM_map_eq_ok
    intro item
    simp only [restoreRow, create_value]
    rfl
  simp only [restoreFromPayload, rows]
  rfl

end DurableAccountRecovery

end Qts
