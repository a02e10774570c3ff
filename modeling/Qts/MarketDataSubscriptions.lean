import Qts.RuntimeFailures

/-! # Logical market-data subscriptions -/

namespace Qts

open PythonText Check

inductive SourceStreamType
  | bar
  | tick
  | quote
deriving DecidableEq

def SourceStreamType.value : SourceStreamType → String
  | bar => "bar"
  | tick => "tick"
  | quote => "quote"

inductive MarketDataSubscriptionEventType
  | subscribed
  | unsubscribed
  | resubscribed
  | failed
deriving DecidableEq

theorem subscribed_ne_failed : MarketDataSubscriptionEventType.subscribed ≠ .failed :=
  nofun

theorem unsubscribed_ne_failed : MarketDataSubscriptionEventType.unsubscribed ≠ .failed :=
  nofun

structure LogicalSubscriptionKey where
  instrumentId : InstrumentId
  requestedTimeframe : String
  streamType : SourceStreamType := .bar
deriving DecidableEq

structure LogicalSubscriptionFields where
  subscriberId : String
  instrumentId : InstrumentId
  requestedTimeframe : String
  streamType : SourceStreamType := .bar

def LogicalSubscriptionFields.checks (subscription : LogicalSubscriptionFields) : List Check :=
  [⟨isBlank subscription.subscriberId, "subscriber_id must not be empty"⟩,
   ⟨isBlank subscription.requestedTimeframe, "requested_timeframe must not be empty"⟩]

/-- Strategy-requested market data stream. -/
structure LogicalSubscription extends LogicalSubscriptionFields where
  valid : firstFailure toLogicalSubscriptionFields.checks = none

def logicalKey (subscription : LogicalSubscription) : LogicalSubscriptionKey where
  instrumentId := subscription.instrumentId
  requestedTimeframe := subscription.requestedTimeframe
  streamType := subscription.streamType

structure MarketDataSubscriptionEventFields where
  eventType : MarketDataSubscriptionEventType
  sourceId : String
  instrumentId : InstrumentId
  subscription : LogicalSubscriptionKey
  brokerSymbol : String
  observedAt : DateTime
  reason : Option String := none

def MarketDataSubscriptionEventFields.checks (event : MarketDataSubscriptionEventFields) :
    List Check :=
  [⟨isBlank event.sourceId, "source_id must not be empty"⟩,
   ⟨isBlank event.brokerSymbol, "broker_symbol must not be empty"⟩,
   ⟨decide (event.eventType = .failed) && event.reason.all isBlank,
      "reason is required for failed subscription events"⟩,
   ⟨event.reason.any isBlank, "reason must not be empty when provided"⟩]

/-- Source-owned subscription lifecycle signal. -/
structure MarketDataSubscriptionEvent extends MarketDataSubscriptionEventFields where
  valid : firstFailure toMarketDataSubscriptionEventFields.checks = none

def MarketDataSubscriptionEvent.create (fields : MarketDataSubscriptionEventFields) :
    Except Failure MarketDataSubscriptionEvent :=
  match checked : firstFailure fields.checks with
  | none => .ok ⟨fields, checked⟩
  | some msg => .error (.valueError msg)

theorem MarketDataSubscriptionEvent.checks_pass {fields : MarketDataSubscriptionEventFields}
    (sourceShown : isBlank fields.sourceId = false)
    (symbolShown : isBlank fields.brokerSymbol = false) (noFailure : fields.eventType ≠ .failed)
    (noReason : fields.reason = none) : firstFailure fields.checks = none := by
  simp [MarketDataSubscriptionEventFields.checks, firstFailure, sourceShown, symbolShown,
    noFailure, noReason]

end Qts
