import Qts.IbkrCallbackTypes
import Qts.ReconciliationDrift

/-! # IBKR callback normalization -/

namespace Qts

open PythonText

structure BrokerSymbolMapping where
  toInstrument : Dict String InstrumentId := .empty
  toBroker : Dict InstrumentId String := .empty

def BrokerSymbolMapping.toInstrumentId (mapping : BrokerSymbolMapping) (brokerSymbol : String) :
    Except CallbackError InstrumentId :=
  let symbol := strip brokerSymbol
  if symbol = "" then .error (.valueError "broker_symbol must not be empty")
  else
    match mapping.toInstrument.get? symbol with
    | some instrumentId => .ok instrumentId
    | none => .error (.keyError ("missing instrument mapping for broker symbol: " ++ brokerSymbol))

structure IbkrOpenOrderFields where
  reportId : String
  brokerOrderId : String
  clientOrderId : Option String
  permId : Option String := none
  status : Option String := none
  brokerSymbol : Option String := none
  side : Option String := none
  quantity : Option Decimal := none

def IbkrOpenOrderFields.checks (payload : IbkrOpenOrderFields) : List Check :=
  [⟨isBlank payload.reportId, "report_id must not be empty"⟩,
   ⟨isBlank payload.brokerOrderId, "broker_order_id must not be empty"⟩,
   ⟨payload.clientOrderId.any isBlank,
      "client_order_id must not be empty when provided"⟩,
   ⟨payload.permId.any isBlank, "perm_id must not be empty when provided"⟩,
   ⟨payload.status.any isBlank, "status must not be empty when provided"⟩,
   ⟨payload.brokerSymbol.any isBlank, "broker_symbol must not be empty when provided"⟩,
   ⟨payload.side.any isBlank, "side must not be empty when provided"⟩,
   ⟨payload.quantity.any fun quantity => decide (quantity ≤ 0),
      "quantity must be positive when provided"⟩]

structure IbkrOpenOrderPayload extends IbkrOpenOrderFields where
  valid : Check.firstFailure toIbkrOpenOrderFields.checks = none

structure IbkrPositionPayload where
  accountId : String
  brokerSymbol : String
  quantity : Decimal
  accountShown : isBlank accountId = false
  symbolShown : isBlank brokerSymbol = false

structure IbkrAccountSummaryPayload where
  accountId : String
  tag : String
  value : Decimal
  currency : String
  accountShown : isBlank accountId = false
  tagShown : isBlank tag = false
  currencyShown : isBlank currency = false

/-- What tells two openOrder callbacks apart: all but the report id. -/
structure OpenOrderKey where
  brokerOrderId : String
  clientOrderId : Option String
  permId : Option String
  status : Option String
  brokerSymbol : Option String
  side : Option String
  quantity : Option Decimal
deriving DecidableEq

structure IbkrCallbackNormalizer where
  calls : IbkrCallbacks
  symbolMapping : BrokerSymbolMapping := {}
  quarantinedOpenOrders : List IbkrOpenOrderPayload := []
  quarantinedPositions : List IbkrPositionPayload := []
  quarantinedAccountSummaries : List IbkrAccountSummaryPayload := []
  seenOpenOrderKeys : Finset OpenOrderKey := ∅
  brokerOpenOrders : Dict OrderId OrderSnapshot := .empty
  brokerPositions : Dict String ReconciliationPositionSnapshot := .empty
  brokerCash : Dict String ReconciliationCashSnapshot := .empty

/-- A handler of the facade: it updates the normalizers and may raise. -/
abbrev NormalizerCall := EStateM CallbackError IbkrCallbackNormalizer

namespace IbkrCallbackNormalizer

open IbkrCallbacks

/-- Run a handler of the shared callback state. -/
def onCallbacks {Value : Type} (call : CallbackCall Value) : NormalizerCall Value :=
  fun normalizer =>
    match call.run normalizer.calls with
    | .ok value calls => .ok value { normalizer with calls }
    | .error failure calls => .error failure { normalizer with calls }

def raise {Value : Type} (result : Except CallbackError Value) : NormalizerCall Value :=
  onCallbacks (raising result)

def orderSideFromIbkr (side : String) : Except CallbackError OrderSide :=
  let normalized := normalizedStatus side
  if normalized = "buy" ∨ normalized = "bot" then .ok .buy
  else if normalized = "sell" ∨ normalized = "sld" then .ok .sell
  else .error (.valueError ("unsupported IBKR order side: " ++ side))

def openOrderKey (payload : IbkrOpenOrderPayload) : OpenOrderKey where
  brokerOrderId := payload.brokerOrderId
  clientOrderId := payload.clientOrderId
  permId := payload.permId
  status := payload.status
  brokerSymbol := payload.brokerSymbol
  side := payload.side
  quantity := payload.quantity

def openOrderEvent (payload : IbkrOpenOrderPayload) (kind : String)
    (reason : Option String := none) : IbkrOrderCallbackEvent where
  kind := kind
  reportId := some payload.reportId
  brokerOrderId := some payload.brokerOrderId
  reason := reason

def record (event : IbkrOrderCallbackEvent) : NormalizerCall Unit :=
  onCallbacks (recordCallbackEvent event)

def quarantineOpenOrder (payload : IbkrOpenOrderPayload) (reason : String) :
    NormalizerCall Unit := do
  modify fun normalizer => { normalizer with
    quarantinedOpenOrders := normalizer.quarantinedOpenOrders ++ [payload] }
  record (openOrderEvent payload "ibkr_order_callback_unresolved_quarantined" (some reason))

def linkOpenOrder (map : BrokerOrderMap) (payload : IbkrOpenOrderPayload) (clientOrderId : String)
    (now : DateTime) : NormalizerCall Unit := do
  let (_, attached) ← raise (map.attachIbkrOrderId clientOrderId payload.brokerOrderId)
  modify fun normalizer => { normalizer with
    calls := { normalizer.calls with orderMap := some attached } }
  let permed ← match payload.permId with
    | some permId => do
      let (_, permed) ← raise (attached.attachPermId payload.brokerOrderId permId)
      modify fun normalizer => { normalizer with
        calls := { normalizer.calls with orderMap := some permed } }
      pure permed
    | none => pure attached
  match payload.status with
  | some status => onCallbacks (updateOrderMap (permed.markStatus payload.brokerOrderId status now))
  | none => return

def keepOpenOrder (payload : IbkrOpenOrderPayload) (internalOrderId : OrderId) :
    NormalizerCall Unit := do
  match payload.brokerSymbol, payload.side, payload.quantity, payload.status with
  | some brokerSymbol, some side, some quantity, some status =>
    let instrumentId ← raise ((← get).symbolMapping.toInstrumentId brokerSymbol)
    let side ← raise (orderSideFromIbkr side)
    let snapshot ← raise ((OrderSnapshot.create {
      orderId := internalOrderId
      instrumentId, side, quantity, status }).mapError .valueError)
    modify fun normalizer => { normalizer with
      brokerOpenOrders := normalizer.brokerOpenOrders.set internalOrderId snapshot }
  | _, _, _, _ => return

def trackOpenOrder (map : BrokerOrderMap) (payload : IbkrOpenOrderPayload) (clientOrderId : String)
    (now : DateTime) : NormalizerCall Unit := do
  if openOrderKey payload ∈ (← get).seenOpenOrderKeys then
    record (openOrderEvent payload "ibkr_order_callback_duplicate_dropped"
      (some "open_order_already_seen"))
  else
    let tracked ← raise (map.requireClientOrderId clientOrderId)
    linkOpenOrder map payload clientOrderId now
    keepOpenOrder payload tracked.internalOrderId
    modify fun normalizer => { normalizer with
      seenOpenOrderKeys := insert (openOrderKey payload) normalizer.seenOpenOrderKeys }

def onOpenOrder (payload : IbkrOpenOrderPayload) (now : DateTime) : NormalizerCall Unit := do
  record (openOrderEvent payload "ibkr_open_order_received")
  match (← get).calls.orderMap, payload.clientOrderId with
  | none, _ => return
  | some _, none => quarantineOpenOrder payload "missing_client_order_id"
  | some map, some clientOrderId =>
    tryCatch (trackOpenOrder map payload clientOrderId now) fun
      | .keyError _ => quarantineOpenOrder payload "unknown_client_order_id"
      | .valueError msg => throw (.valueError msg)

def wrongAccountEvent (accountId observedAccount : String) : IbkrOrderCallbackEvent where
  kind := "ibkr_account_callback_quarantined"
  reason := some "wrong_account"
  expectedAccount := some (maskAccountId accountId)
  observedAccount := some (maskAccountId observedAccount)

def onPosition (payload : IbkrPositionPayload) : NormalizerCall Unit := do
  let accountId := (← get).calls.accountId
  if payload.accountId ≠ accountId then
    modify fun normalizer => { normalizer with
      quarantinedPositions := normalizer.quarantinedPositions ++ [payload] }
    record (wrongAccountEvent accountId payload.accountId)
  else
    let instrumentId ← raise ((← get).symbolMapping.toInstrumentId payload.brokerSymbol)
    modify fun normalizer => { normalizer with
      brokerPositions := normalizer.brokerPositions.set instrumentId.value
        { instrumentId, quantity := payload.quantity } }

def onAccountSummary (payload : IbkrAccountSummaryPayload) : NormalizerCall Unit := do
  let accountId := (← get).calls.accountId
  if payload.accountId ≠ accountId then
    modify fun normalizer => { normalizer with
      quarantinedAccountSummaries := normalizer.quarantinedAccountSummaries ++ [payload] }
    record (wrongAccountEvent accountId payload.accountId)
  else if payload.tag ≠ "TotalCashValue" then
    return
  else
    modify fun normalizer => { normalizer with
      brokerCash := normalizer.brokerCash.set payload.currency {
        currency := payload.currency
        balance := payload.value
        currencyShown := payload.currencyShown } }

def resolveOpenOrders (now : DateTime) :
    List IbkrOpenOrderPayload → NormalizerCall (List IbkrOpenOrderPayload)
  | [] => return []
  | payload :: rest => do
    let before := (← get).quarantinedOpenOrders.length
    onOpenOrder payload now
    let quarantined := (← get).quarantinedOpenOrders
    if before < quarantined.length then
      modify fun normalizer => { normalizer with quarantinedOpenOrders := quarantined.dropLast }
      return payload :: (← resolveOpenOrders now rest)
    else
      resolveOpenOrders now rest

def resolveOrderStatuses (now : DateTime) :
    List IbkrOrderStatusPayload →
      CallbackCall (List ExecutionReport × List IbkrOrderStatusPayload)
  | [] => return ([], [])
  | payload :: rest => do
    let before := (← get).callbackQuarantine.orderStatuses.length
    let report ← onOrderStatus payload now
    let quarantined := (← get).callbackQuarantine.orderStatuses
    if before < quarantined.length then
      modify fun calls => { calls with
        callbackQuarantine := { calls.callbackQuarantine with
          orderStatuses := quarantined.dropLast } }
      let (resolved, unresolved) ← resolveOrderStatuses now rest
      return (report.toList ++ resolved, payload :: unresolved)
    else
      let (resolved, unresolved) ← resolveOrderStatuses now rest
      return (report.toList ++ resolved, unresolved)

def resolveQuarantinedCallbacks (now : DateTime) : NormalizerCall (List ExecutionReport) := do
  let openOrders ← resolveOpenOrders now (← get).quarantinedOpenOrders
  modify fun normalizer => { normalizer with quarantinedOpenOrders := openOrders }
  let (statuses, orderStatuses) ←
    onCallbacks (resolveOrderStatuses now (← get).calls.callbackQuarantine.orderStatuses)
  modify fun normalizer => { normalizer with
    calls := { normalizer.calls with
      callbackQuarantine := { normalizer.calls.callbackQuarantine with
        orderStatuses } } }
  let fills ← onCallbacks resolveQuarantined
  return statuses ++ fills

def hasUnresolvedCallbacks (normalizer : IbkrCallbackNormalizer) : Bool :=
  !normalizer.calls.callbackQuarantine.executions.isEmpty ||
    !normalizer.quarantinedOpenOrders.isEmpty ||
    !normalizer.calls.callbackQuarantine.orderStatuses.isEmpty ||
    !normalizer.quarantinedPositions.isEmpty || !normalizer.quarantinedAccountSummaries.isEmpty

def sortedValues {Key Value : Type} (text : Key → String) (dict : Dict Key Value) :
    List Value :=
  (dict.items.insertionSort fun first second => text first.1 ≤ text second.1).map Prod.snd

def brokerReconciliationSnapshot (normalizer : IbkrCallbackNormalizer) (accountId : AccountId) :
    ReconciliationSnapshot where
  accountId := accountId
  orders := sortedValues (·.value) normalizer.brokerOpenOrders
  positions := sortedValues id normalizer.brokerPositions
  cash := sortedValues id normalizer.brokerCash

end IbkrCallbackNormalizer

end Qts
