import Qts.MarketDataSubscriptions
import Qts.IbkrOrderRequestMapper
import Mathlib.Data.Prod.Lex

/-! # Streaming market-data source -/

namespace Qts

open PythonText Dict Check List

structure TickFields where
  instrumentId : InstrumentId
  time : DateTime
  price : Decimal
  size : Decimal := 0

def TickFields.checks (tick : TickFields) : List Check :=
  [requireNonNegative tick.size "size"]

structure Tick extends TickFields where
  valid : firstFailure toTickFields.checks = none

structure QuoteFields where
  instrumentId : InstrumentId
  time : DateTime
  bidPrice : Decimal
  askPrice : Decimal
  bidSize : Decimal := 0
  askSize : Decimal := 0

def QuoteFields.checks (quote : QuoteFields) : List Check :=
  [⟨decide (quote.askPrice < quote.bidPrice), "bid_price must be less than or equal to ask_price"⟩,
   requireNonNegative quote.bidSize "bid_size",
   requireNonNegative quote.askSize "ask_size"]

/-- Top-of-book quote. -/
structure Quote extends QuoteFields where
  valid : firstFailure toQuoteFields.checks = none

def Tick.create (fields : TickFields) : Except Failure Tick :=
  match checked : firstFailure fields.checks with
  | none => .ok ⟨fields, checked⟩
  | some msg => .error (.valueError msg)

def Quote.create (fields : QuoteFields) : Except Failure Quote :=
  match checked : firstFailure fields.checks with
  | none => .ok ⟨fields, checked⟩
  | some msg => .error (.valueError msg)

def Bar.create (fields : BarFields) : Except Failure Bar :=
  match checked : firstFailure fields.checks with
  | none => .ok ⟨fields, checked⟩
  | some msg => .error (.valueError msg)

/-- Provider permission state visible to runtime and risk gates. -/
inductive MarketDataPermissionState
  | live
  | frozen
  | delayed
  | delayedFrozen
  | unavailable

inductive IbkrProviderMarketDataType
  | live
  | frozen
  | delayed
  | delayedFrozen

def IbkrProviderMarketDataType.value : IbkrProviderMarketDataType → Int
  | live => 1
  | frozen => 2
  | delayed => 3
  | delayedFrozen => 4

def IbkrProviderMarketDataType.permissionState :
    IbkrProviderMarketDataType → MarketDataPermissionState
  | live => .live
  | frozen => .frozen
  | delayed => .delayed
  | delayedFrozen => .delayedFrozen

structure MarketDataPermissionEvent where
  sourceId : String
  permissionState : MarketDataPermissionState
  providerMarketDataType : Int
  requestId : Int
  sourceShown : isBlank sourceId = false

structure IbkrTickPayload where
  brokerSymbol : String
  time : DateTime
  price : Decimal
  size : Decimal := 0
  symbolShown : isBlank brokerSymbol = false

/-- Raw top-of-book callback payload. -/
structure IbkrQuotePayload where
  brokerSymbol : String
  time : DateTime
  bidPrice : Decimal
  askPrice : Decimal
  bidSize : Decimal := 0
  askSize : Decimal := 0
  symbolShown : isBlank brokerSymbol = false

structure IbkrBarPayload where
  brokerSymbol : String
  startTime : DateTime
  endTime : DateTime
  timeframe : String
  sessionId : String
  openPrice : Decimal
  high : Decimal
  low : Decimal
  close : Decimal
  volume : Decimal := 0
  vwap : Option Decimal := none
  openInterest : Option Decimal := none
  tradeCount : Option Int := none
  isComplete : Bool := false
  isPartial : Bool := false
  symbolShown : isBlank brokerSymbol = false
  timeframeShown : isBlank timeframe = false
  sessionShown : isBlank sessionId = false

structure IbkrMarketDataTypePayload where
  requestId : Int
  marketDataType : IbkrProviderMarketDataType

/-- A subscription request at the adapter boundary. -/
structure IbkrMarketDataSubscription where
  instrumentId : InstrumentId
  brokerSymbol : String
  sourceId : String

/-- Normalizes the provider's market data; an instrument may have a session window that names
the session of a time. -/
structure IbkrMarketDataAdapter where
  sourceId : String
  symbolMapping : BrokerSymbolMapping := {}
  sessionIdForTimestamp : InstrumentId → DateTime → Option String := fun _ _ => none
  permissionState : MarketDataPermissionState := .unavailable
  sourceShown : isBlank sourceId = false

namespace IbkrMarketDataAdapter

variable (adapter : IbkrMarketDataAdapter)

def subscriptionFor (instrumentId : InstrumentId) :
    Except Failure IbkrMarketDataSubscription := do
  let brokerSymbol ← adapter.symbolMapping.toBrokerSymbol instrumentId
  return ⟨instrumentId, brokerSymbol, adapter.sourceId⟩

def instrumentOf (brokerSymbol : String) : Except Failure InstrumentId :=
  (adapter.symbolMapping.toInstrumentId brokerSymbol).mapError CallbackError.raisedAs

def onTick (payload : IbkrTickPayload) : Except Failure Tick := do
  let instrumentId ← adapter.instrumentOf payload.brokerSymbol
  Tick.create
    { instrumentId
      time := payload.time
      price := payload.price
      size := payload.size }

def onQuote (payload : IbkrQuotePayload) : Except Failure Quote := do
  let instrumentId ← adapter.instrumentOf payload.brokerSymbol
  Quote.create
    { instrumentId
      time := payload.time
      bidPrice := payload.bidPrice
      askPrice := payload.askPrice
      bidSize := payload.bidSize
      askSize := payload.askSize }

def onBar (payload : IbkrBarPayload) : Except Failure Bar := do
  let instrumentId ← adapter.instrumentOf payload.brokerSymbol
  let windowSession := adapter.sessionIdForTimestamp instrumentId payload.startTime
  Bar.create
    { instrumentId
      startTime := payload.startTime
      endTime := payload.endTime
      timeframe := payload.timeframe
      sessionId := (windowSession.filter fun sessionId => decide (sessionId ≠ "")).getD
        payload.sessionId
      openPrice := payload.openPrice
      high := payload.high
      low := payload.low
      close := payload.close
      volume := payload.volume
      vwap := payload.vwap
      openInterest := payload.openInterest
      tradeCount := payload.tradeCount
      isComplete := payload.isComplete
      isPartial := payload.isPartial }

/-- The provider's permission state becomes the adapter's. -/
def onMarketDataType (payload : IbkrMarketDataTypePayload) :
    MarketDataPermissionEvent × IbkrMarketDataAdapter :=
  (⟨adapter.sourceId, payload.marketDataType.permissionState, payload.marketDataType.value,
      payload.requestId, adapter.sourceShown⟩,
    { adapter with permissionState := payload.marketDataType.permissionState })

end IbkrMarketDataAdapter

structure StreamingMarketDataSubscriptionFields where
  logical : LogicalSubscription
  brokerSymbol : String
  sourceId : String
  maxAge : Int
  subscribedAt : DateTime

def StreamingMarketDataSubscriptionFields.checks
    (subscription : StreamingMarketDataSubscriptionFields) : List Check :=
  [⟨isBlank subscription.brokerSymbol, "broker_symbol must not be empty"⟩,
   ⟨isBlank subscription.sourceId, "source_id must not be empty"⟩,
   ⟨decide (subscription.maxAge ≤ 0), "max_age must be positive"⟩]

/-- Source-owned live or paper subscription state. -/
structure StreamingMarketDataSubscription extends StreamingMarketDataSubscriptionFields where
  valid : firstFailure toStreamingMarketDataSubscriptionFields.checks = none

def StreamingMarketDataSubscription.create (fields : StreamingMarketDataSubscriptionFields) :
    Except Failure StreamingMarketDataSubscription :=
  match checked : firstFailure fields.checks with
  | none => .ok ⟨fields, checked⟩
  | some msg => .error (.valueError msg)

structure StreamingMarketDataDegradation where
  instrumentId : InstrumentId
  subscription : LogicalSubscriptionKey
  observedAt : DateTime
  age : Int
  maxAge : Int
  reason : String := "stale_market_data"
  tooOld : maxAge < age

/-- What a drain hands out. -/
inductive MarketDataEvent
  | tick (tick : Tick)
  | quote (quote : Quote)
  | bar (bar : Bar)
  | degradation (degradation : StreamingMarketDataDegradation)
  | subscription (event : MarketDataSubscriptionEvent)
  | permission (event : MarketDataPermissionEvent)

/-- Owns live or paper source subscriptions and normalized callback delivery. -/
structure StreamingMarketDataSource where
  adapter : IbkrMarketDataAdapter
  defaultMaxAge : Int := 30000000
  maxAgeBySubscription : Dict LogicalSubscriptionKey Int := .empty
  subscriptions : Dict LogicalSubscriptionKey StreamingMarketDataSubscription := .empty
  lastEventAt : Dict LogicalSubscriptionKey DateTime := .empty
  staleEmitted : List LogicalSubscriptionKey := []
  pending : List MarketDataEvent := []
  defaultPositive : 0 < defaultMaxAge := by decide

namespace StreamingMarketDataSource

variable (source : StreamingMarketDataSource)

def subscriptionEvent (eventType : MarketDataSubscriptionEventType)
    (noFailure : eventType ≠ .failed) (state : StreamingMarketDataSubscription)
    (observedAt : DateTime) : MarketDataSubscriptionEvent where
  eventType := eventType
  sourceId := state.sourceId
  instrumentId := state.logical.instrumentId
  subscription := logicalKey state.logical
  brokerSymbol := state.brokerSymbol
  observedAt := observedAt
  valid := by
    have passes := (firstFailure_none _).mp state.valid
    refine MarketDataSubscriptionEvent.checks_pass ?_ ?_ noFailure rfl
    · exact passes ⟨isBlank state.sourceId, "source_id must not be empty"⟩
        (by simp [StreamingMarketDataSubscriptionFields.checks])
    · exact passes ⟨isBlank state.brokerSymbol, "broker_symbol must not be empty"⟩
        (by simp [StreamingMarketDataSubscriptionFields.checks])

def effectiveMaxAge (key : LogicalSubscriptionKey) (maxAge : Option Int) : Int :=
  (maxAge.filter fun given => decide (given ≠ 0)).getD
    ((source.maxAgeBySubscription.get? key).getD source.defaultMaxAge)

def discard (keys : List LogicalSubscriptionKey) (key : LogicalSubscriptionKey) :
    List LogicalSubscriptionKey :=
  keys.filter fun other => decide (other ≠ key)

def subscribe (subscription : LogicalSubscription) (maxAge : Option Int)
    (subscribedAt : DateTime) :
    Except Failure (IbkrMarketDataSubscription × StreamingMarketDataSource) := do
  let providerSubscription ← source.adapter.subscriptionFor subscription.instrumentId
  let key := logicalKey subscription
  let state ← StreamingMarketDataSubscription.create
    { logical := subscription
      brokerSymbol := providerSubscription.brokerSymbol
      sourceId := providerSubscription.sourceId
      maxAge := source.effectiveMaxAge key maxAge
      subscribedAt }
  return (providerSubscription, { source with
      subscriptions := source.subscriptions.set key state
      staleEmitted := discard source.staleEmitted key
      pending := source.pending ++
        [.subscription (subscriptionEvent .subscribed subscribed_ne_failed state
            state.subscribedAt)] })

def unsubscribe (subscription : LogicalSubscription) (observedAt : DateTime) :
    StreamingMarketDataSource :=
  let key := logicalKey subscription
  { source with
    subscriptions := source.subscriptions.erase key
    lastEventAt := source.lastEventAt.erase key
    staleEmitted := discard source.staleEmitted key
    pending := source.pending ++
      ((source.subscriptions.get? key).map fun state => MarketDataEvent.subscription
        (subscriptionEvent .unsubscribed unsubscribed_ne_failed state observedAt)).toList }

def requireSubscription (shown : LogicalSubscriptionKey → String) (key : LogicalSubscriptionKey) :
    Except Failure StreamingMarketDataSubscription :=
  match source.subscriptions.get? key with
  | some state => .ok state
  | none => .error (.keyError ("unknown streaming market-data subscription: " ++ shown key))

def markResubscribed (shown : LogicalSubscriptionKey → String)
    (subscription : LogicalSubscription) (observedAt : DateTime) :
    Except Failure StreamingMarketDataSource := do
  let state ← source.requireSubscription shown (logicalKey subscription)
  return { source with
    pending := source.pending ++
      [.subscription (subscriptionEvent .resubscribed (by decide) state observedAt)] }

def resubscribeKey (item : LogicalSubscriptionKey × StreamingMarketDataSubscription) :
    String ×ₗ String ×ₗ String :=
  toLex (item.1.instrumentId.value, toLex (item.1.requestedTimeframe, item.1.streamType.value))

def resubscribeActiveSubscriptions (observedAt : DateTime) :
    List MarketDataSubscriptionEvent × StreamingMarketDataSource :=
  let items := source.subscriptions.items.insertionSort fun first second =>
    resubscribeKey first ≤ resubscribeKey second
  let events := items.map fun item =>
    subscriptionEvent .resubscribed (by decide) item.2 observedAt
  (events, { source with pending := source.pending ++ events.map .subscription })

def markSubscriptionFailed (shown : LogicalSubscriptionKey → String)
    (subscription : LogicalSubscription) (reason : String) (observedAt : DateTime) :
    Except Failure StreamingMarketDataSource := do
  let state ← source.requireSubscription shown (logicalKey subscription)
  let event ← MarketDataSubscriptionEvent.create
    { eventType := .failed
      sourceId := state.sourceId
      instrumentId := state.logical.instrumentId
      subscription := logicalKey state.logical
      brokerSymbol := state.brokerSymbol
      observedAt
      reason := some reason }
  return { source with pending := source.pending ++ [.subscription event] }

/-- Whether events of an instrument and stream type belong to a subscription. -/
def Receives (instrumentId : InstrumentId) (streamType : SourceStreamType)
    (item : LogicalSubscriptionKey × StreamingMarketDataSubscription) : Bool :=
  decide (item.1.instrumentId = instrumentId ∧ item.2.logical.streamType = streamType)

def recordEvent (instrumentId : InstrumentId) (streamType : SourceStreamType)
    (eventTime : DateTime) : StreamingMarketDataSource :=
  source.subscriptions.items.foldl
    (fun recorded item =>
      if Receives instrumentId streamType item then
        { recorded with
          lastEventAt := recorded.lastEventAt.set item.1 eventTime
          staleEmitted := discard recorded.staleEmitted item.1 }
      else recorded) source

/-- Normalize and enqueue a raw tick callback. -/
def onTick (payload : IbkrTickPayload) :
    Except Failure (Tick × StreamingMarketDataSource) := do
  let tick ← source.adapter.onTick payload
  let recorded := source.recordEvent tick.instrumentId .tick tick.time
  return (tick, { recorded with pending := recorded.pending ++ [.tick tick] })

/-- Normalize and enqueue a raw quote callback. -/
def onQuote (payload : IbkrQuotePayload) :
    Except Failure (Quote × StreamingMarketDataSource) := do
  let quote ← source.adapter.onQuote payload
  let recorded := source.recordEvent quote.instrumentId .quote quote.time
  return (quote, { recorded with pending := recorded.pending ++ [.quote quote] })

/-- Normalize a raw bar callback and enqueue complete bars. -/
def onBar (payload : IbkrBarPayload) :
    Except Failure (Bar × StreamingMarketDataSource) := do
  let bar ← source.adapter.onBar payload
  let recorded := source.recordEvent bar.instrumentId .bar bar.endTime
  return (bar, { recorded with
    pending := if bar.isComplete then recorded.pending ++ [.bar bar] else recorded.pending })

/-- Normalize and enqueue a provider permission-state callback. -/
def onMarketDataType (payload : IbkrMarketDataTypePayload) :
    MarketDataPermissionEvent × StreamingMarketDataSource :=
  let (event, adapter) := source.adapter.onMarketDataType payload
  (event, { source with adapter, pending := source.pending ++ [.permission event] })

/-- Signal the staleness of one subscription once. -/
def appendStaleDegradation (observedAt : DateTime) (source : StreamingMarketDataSource)
    (item : LogicalSubscriptionKey × StreamingMarketDataSubscription) :
    StreamingMarketDataSource :=
  let referenceTime := (source.lastEventAt.get? item.1).getD item.2.subscribedAt
  let age := observedAt - referenceTime
  if tooOld : item.2.maxAge < age ∧ item.1 ∉ source.staleEmitted then
    { source with
      pending := source.pending ++ [.degradation
        { instrumentId := item.1.instrumentId
          subscription := item.1
          observedAt, age
          maxAge := item.2.maxAge
          tooOld := tooOld.1 }]
      staleEmitted := source.staleEmitted ++ [item.1] }
  else source

def appendStaleDegradations (observedAt : DateTime) : StreamingMarketDataSource :=
  source.subscriptions.items.foldl (appendStaleDegradation observedAt) source

/-- The queued events with the one-shot staleness signals. -/
def drain (observedAt : DateTime) : List MarketDataEvent × StreamingMarketDataSource :=
  let signalled := source.appendStaleDegradations observedAt
  (signalled.pending, { signalled with pending := [] })

@[simp]
theorem mem_discard {keys : List LogicalSubscriptionKey} {key other : LogicalSubscriptionKey} :
    other ∈ discard keys key ↔ other ∈ keys ∧ other ≠ key := by
  simp [discard]

def receivers (instrumentId : InstrumentId) (streamType : SourceStreamType) :
    List LogicalSubscriptionKey :=
  (source.subscriptions.items.filter (Receives instrumentId streamType)).map Prod.fst

variable {source}

theorem mem_receivers {instrumentId : InstrumentId} {streamType : SourceStreamType}
    {key : LogicalSubscriptionKey} :
    key ∈ source.receivers instrumentId streamType ↔
      ∃ state, source.subscriptions.get? key = some state ∧
        Receives instrumentId streamType (key, state) = true := by
  constructor
  · intro mem
    obtain ⟨⟨found, state⟩, kept, rfl⟩ := mem_map.mp mem
    obtain ⟨present, receives⟩ := mem_filter.mp kept
    exact ⟨state, (get?_eq_some_iff _).mpr present, receives⟩
  · rintro ⟨state, found, receives⟩
    have present := (get?_eq_some_iff _).mp found
    exact mem_map.mpr ⟨(key, state), mem_filter.mpr ⟨present, receives⟩, rfl⟩

variable (instrumentId : InstrumentId) (streamType : SourceStreamType) (eventTime : DateTime)

theorem recordEvent_eq :
    source.recordEvent instrumentId streamType eventTime =
      { source with
        lastEventAt := (source.receivers instrumentId streamType).foldl
          (fun last key => last.set key eventTime) source.lastEventAt
        staleEmitted := (source.receivers instrumentId streamType).foldl discard
          source.staleEmitted } := by
  unfold recordEvent receivers
  generalize source.subscriptions.items = items
  induction items generalizing source with
  | nil => rfl
  | cons item items ih =>
    rw [foldl_cons]
    by_cases receives : Receives instrumentId streamType item = true
    · rw [if_pos receives, ih, filter_cons_of_pos receives]
      rfl
    · rw [if_neg receives, ih, filter_cons_of_neg receives]

theorem get?_foldl_set (keys : List LogicalSubscriptionKey) (eventTime : DateTime)
    (last : Dict LogicalSubscriptionKey DateTime) (key : LogicalSubscriptionKey) :
    (keys.foldl (fun last key => last.set key eventTime) last).get? key =
      if key ∈ keys then some eventTime else last.get? key := by
  induction keys generalizing last with
  | nil => rfl
  | cons first keys ih =>
    rw [foldl_cons, ih, get?_set]
    by_cases later : key ∈ keys
    · simp [later]
    · simp [later]

theorem mem_foldl_discard (keys stale : List LogicalSubscriptionKey) (key : LogicalSubscriptionKey)
    : key ∈ keys.foldl discard stale ↔ key ∈ stale ∧ key ∉ keys := by
  induction keys generalizing stale with
  | nil => simp
  | cons first keys ih =>
    rw [foldl_cons, ih, mem_discard, mem_cons]
    tauto

theorem recordEvent_lastEventAt (key : LogicalSubscriptionKey) :
    (source.recordEvent instrumentId streamType eventTime).lastEventAt.get? key =
      if key ∈ source.receivers instrumentId streamType then some eventTime
      else source.lastEventAt.get? key := by
  rw [recordEvent_eq, get?_foldl_set]

theorem recordEvent_staleEmitted (key : LogicalSubscriptionKey) :
    key ∈ (source.recordEvent instrumentId streamType eventTime).staleEmitted ↔
      key ∈ source.staleEmitted ∧ key ∉ source.receivers instrumentId streamType := by
  rw [recordEvent_eq, mem_foldl_discard]

variable (source)

/-- The staleness signal that a drain gives for one subscription. -/
def degradationOf (observedAt : DateTime)
    (item : LogicalSubscriptionKey × StreamingMarketDataSubscription) :
    Option StreamingMarketDataDegradation :=
  let age := observedAt - (source.lastEventAt.get? item.1).getD item.2.subscribedAt
  if tooOld : item.2.maxAge < age ∧ item.1 ∉ source.staleEmitted then
    some
      { instrumentId := item.1.instrumentId
        subscription := item.1
        observedAt, age
        maxAge := item.2.maxAge
        tooOld := tooOld.1 }
  else none

/-- The staleness signals of a drain, in the order of the subscriptions. -/
def degradations (observedAt : DateTime) : List StreamingMarketDataDegradation :=
  source.subscriptions.items.filterMap (source.degradationOf observedAt)

variable {source}

theorem degradationOf_subscription {observedAt : DateTime}
    {item : LogicalSubscriptionKey × StreamingMarketDataSubscription}
    {degradation : StreamingMarketDataDegradation}
    (signalled : source.degradationOf observedAt item = some degradation) :
    degradation.subscription = item.1 := by
  unfold degradationOf at signalled
  dsimp only at signalled
  split at signalled
  · cases signalled
    rfl
  · cases signalled

theorem foldl_appendStaleDegradation (observedAt : DateTime)
    {items : List (LogicalSubscriptionKey × StreamingMarketDataSubscription)}
    (distinct : (items.map Prod.fst).Nodup) :
    items.foldl (appendStaleDegradation observedAt) source =
      { source with
        pending := source.pending ++
          (items.filterMap (source.degradationOf observedAt)).map .degradation
        staleEmitted := source.staleEmitted ++
          (items.filterMap (source.degradationOf observedAt)).map (·.subscription) } := by
  induction items generalizing source with
  | nil => simp
  | cons item items ih =>
    obtain ⟨fresh, restDistinct⟩ := nodup_cons.mp distinct
    rw [foldl_cons, ih restDistinct]
    by_cases tooOld : item.2.maxAge <
        observedAt - (source.lastEventAt.get? item.1).getD item.2.subscribedAt ∧
          item.1 ∉ source.staleEmitted
    · have unaffected : items.filterMap
          ((appendStaleDegradation observedAt source item).degradationOf observedAt) =
            items.filterMap (source.degradationOf observedAt) := by
        refine filterMap_congr ?_
        intro other mem
        have differs : other.1 ≠ item.1 := by
          rintro same
          exact fresh (same ▸ mem_map_of_mem mem)
        unfold degradationOf appendStaleDegradation
        simp [tooOld, differs]
      have signalled : source.degradationOf observedAt item = some
          { instrumentId := item.1.instrumentId
            subscription := item.1
            observedAt
            age := observedAt - (source.lastEventAt.get? item.1).getD item.2.subscribedAt
            maxAge := item.2.maxAge
            tooOld := tooOld.1 } := dif_pos tooOld
      rw [unaffected, filterMap_cons_some signalled]
      unfold appendStaleDegradation
      simp [tooOld]
    · have unchanged : appendStaleDegradation observedAt source item = source := dif_neg tooOld
      have silent : source.degradationOf observedAt item = none := dif_neg tooOld
      rw [unchanged, filterMap_cons_none silent]

/-- A drain hands out the queue and then the staleness signals. -/
theorem drain_eq (observedAt : DateTime) :
    source.drain observedAt =
      (source.pending ++ (source.degradations observedAt).map .degradation, { source with
          pending := []
          staleEmitted := source.staleEmitted ++
            (source.degradations observedAt).map (·.subscription) }) := by
  unfold drain appendStaleDegradations
  rw [foldl_appendStaleDegradation observedAt source.subscriptions.distinct]
  rfl

/-- A drain signals the subscriptions that are overdue and not signalled yet. -/
theorem mem_degradations_iff {observedAt : DateTime} {key : LogicalSubscriptionKey} :
    (∃ degradation ∈ source.degradations observedAt, degradation.subscription = key) ↔
      ∃ state, source.subscriptions.get? key = some state ∧
        state.maxAge < observedAt - (source.lastEventAt.get? key).getD state.subscribedAt ∧
        key ∉ source.staleEmitted := by
  constructor
  · rintro ⟨degradation, mem, rfl⟩
    obtain ⟨⟨key, state⟩, present, signalled⟩ := mem_filterMap.mp mem
    obtain rfl : degradation.subscription = key := degradationOf_subscription signalled
    refine ⟨state, (get?_eq_some_iff _).mpr present, ?_⟩
    unfold degradationOf at signalled
    dsimp only at signalled
    split at signalled
    · next tooOld => exact tooOld
    · cases signalled
  · rintro ⟨state, found, tooOld⟩
    have present := (get?_eq_some_iff _).mp found
    exact ⟨_, mem_filterMap.mpr ⟨(key, state), present, dif_pos tooOld⟩, rfl⟩

/-- A call on the source. -/
inductive Input
  | subscribe (subscription : LogicalSubscription) (maxAge : Option Int) (subscribedAt : DateTime)
  | unsubscribe (subscription : LogicalSubscription) (observedAt : DateTime)
  | markResubscribed (subscription : LogicalSubscription) (observedAt : DateTime)
  | resubscribeActiveSubscriptions (observedAt : DateTime)
  | markSubscriptionFailed (subscription : LogicalSubscription) (reason : String)
      (observedAt : DateTime)
  | onTick (payload : IbkrTickPayload)
  | onQuote (payload : IbkrQuotePayload)
  | onBar (payload : IbkrBarPayload)
  | onMarketDataType (payload : IbkrMarketDataTypePayload)
  | drain (observedAt : DateTime)

abbrev Answer := Except Failure (List MarketDataEvent)

def settle (called : Except Failure (List MarketDataEvent × StreamingMarketDataSource))
    (source : StreamingMarketDataSource) : Answer × StreamingMarketDataSource :=
  match called with
  | .error failure => (.error failure, source)
  | .ok (events, next) => (.ok events, next)

def step (shown : LogicalSubscriptionKey → String) :
    StepRuns.Step StreamingMarketDataSource Input Answer :=
  fun source input =>
    match input with
    | .subscribe subscription maxAge subscribedAt =>
      settle ((source.subscribe subscription maxAge subscribedAt).map fun next => ([], next.2))
        source
    | .unsubscribe subscription observedAt => (.ok [], source.unsubscribe subscription observedAt)
    | .markResubscribed subscription observedAt =>
      settle ((source.markResubscribed shown subscription observedAt).map fun next => ([], next))
        source
    | .resubscribeActiveSubscriptions observedAt =>
      let (events, next) := source.resubscribeActiveSubscriptions observedAt
      (.ok (events.map .subscription), next)
    | .markSubscriptionFailed subscription reason observedAt =>
      settle ((source.markSubscriptionFailed shown subscription reason observedAt).map
        fun next => ([], next)) source
    | .onTick payload =>
      settle ((source.onTick payload).map fun next => ([.tick next.1], next.2)) source
    | .onQuote payload =>
      settle ((source.onQuote payload).map fun next => ([.quote next.1], next.2)) source
    | .onBar payload =>
      settle ((source.onBar payload).map fun next => ([.bar next.1], next.2)) source
    | .onMarketDataType payload =>
      let (event, next) := source.onMarketDataType payload
      (.ok [.permission event], next)
    | .drain observedAt =>
      let (events, next) := source.drain observedAt
      (.ok events, next)

end StreamingMarketDataSource

end Qts
