import Qts.MarketDataSubscriptions
import Qts.ExecutionTiming
import Qts.OrderedDictionary
import Qts.StepRuns
import Mathlib.Data.Prod.Lex
import Mathlib.Data.String.Basic
import Mathlib.Data.List.Sort

/-! # Subscription replay source -/

namespace Qts

/-- Replay data quality events emitted by historical sources. -/
inductive ReplayDataAnomalyType
  | gapDetected
  | outOfOrderRejected
  | duplicateDropped
deriving DecidableEq

structure ReplayDataAnomalyEvent where
  anomalyType : ReplayDataAnomalyType
  sourceId : String
  instrumentId : InstrumentId
  timeframe : String
  barStart : DateTime
  barEnd : DateTime
  observedAt : DateTime
  previousEnd : Option DateTime := none

structure ReplaySequencedEvent where
  sourceSequence : Nat
  bar : Bar

namespace ReplaySequencedEvent

/-- The order in which events become visible. -/
def sortKey (event : ReplaySequencedEvent) :
    DateTime ×ₗ String ×ₗ String ×ₗ DateTime ×ₗ Nat :=
  toLex (event.bar.endTime, toLex (event.bar.instrumentId.value, toLex (event.bar.timeframe,
    toLex (event.bar.startTime, event.sourceSequence))))

def visibleAt (event : ReplaySequencedEvent) : DateTime :=
  event.bar.endTime

theorem visibleAt_mono {first second : ReplaySequencedEvent}
    (inOrder : first.sortKey ≤ second.sortKey) : first.visibleAt ≤ second.visibleAt := by
  rcases Prod.Lex.le_iff.mp inOrder with earlier | ⟨same, _⟩
  · exact le_of_lt earlier
  · exact le_of_eq same

end ReplaySequencedEvent

namespace ReplayEventSequencer

/-- What the sequencer keeps while it goes through the bars. -/
structure Progress where
  seenBars : List (InstrumentId × String × DateTime × DateTime) := []
  lastEndByStream : Dict (InstrumentId × String) DateTime := .empty
  events : List ReplaySequencedEvent := []
  diagnosticEvents : List ReplayDataAnomalyEvent := []

def diagnosticEvent (sourceId : String) (anomalyType : ReplayDataAnomalyType) (bar : Bar)
    (previousEnd : Option DateTime) : ReplayDataAnomalyEvent where
  anomalyType := anomalyType
  sourceId := sourceId
  instrumentId := bar.instrumentId
  timeframe := bar.timeframe
  barStart := bar.startTime
  barEnd := bar.endTime
  previousEnd := previousEnd
  observedAt := bar.endTime

def take (sourceId : String) (progress : Progress) (numbered : Bar × Nat) : Progress :=
  let bar := numbered.1
  let barKey := (bar.instrumentId, bar.timeframe, bar.startTime, bar.endTime)
  let streamKey := (bar.instrumentId, bar.timeframe)
  let previousEnd := progress.lastEndByStream.get? streamKey
  let diagnosed := fun anomalyType => progress.diagnosticEvents ++
    [diagnosticEvent sourceId anomalyType bar previousEnd]
  if barKey ∈ progress.seenBars then
    { progress with diagnosticEvents := diagnosed .duplicateDropped }
  else if previousEnd.any fun ended => decide (bar.startTime < ended) then
    { progress with diagnosticEvents := diagnosed .outOfOrderRejected }
  else
    { seenBars := barKey :: progress.seenBars
      lastEndByStream := progress.lastEndByStream.set streamKey bar.endTime
      events := progress.events ++ [⟨numbered.2, bar⟩]
      diagnosticEvents :=
        if previousEnd.any fun ended => decide (ended < bar.startTime) then diagnosed .gapDetected
        else progress.diagnosticEvents }

def sequence (sourceId : String) (bars : List Bar) :
    List ReplaySequencedEvent × List ReplayDataAnomalyEvent :=
  let progress := bars.zipIdx.foldl (take sourceId) {}
  (progress.events.insertionSort fun first second => first.sortKey ≤ second.sortKey,
    progress.diagnosticEvents)

end ReplayEventSequencer

structure SubscriptionReplayMarketDataSource where
  sourceId : String
  currentTime : Option DateTime := none
  events : List ReplaySequencedEvent
  diagnosticEvents : List ReplayDataAnomalyEvent := []
  subscriptions : Dict LogicalSubscriptionKey (Option DateTime) := .empty
  pendingControlEvents : List MarketDataSubscriptionEvent := []
  closed : Bool := false
  sourceShown : PythonText.isBlank sourceId = false

namespace SubscriptionReplayMarketDataSource

def start (sourceId : String) (sourceShown : PythonText.isBlank sourceId = false)
    (bars : List Bar) : SubscriptionReplayMarketDataSource where
  sourceId := sourceId
  events := (ReplayEventSequencer.sequence sourceId bars).1
  diagnosticEvents := (ReplayEventSequencer.sequence sourceId bars).2
  sourceShown := sourceShown

variable (source : SubscriptionReplayMarketDataSource)

/-- The time of a control event: the one given, the clock's, the start of the next bar, or else
the time of day. -/
def observedAt (explicit : Option DateTime) (now : DateTime) : DateTime :=
  (explicit <|> source.currentTime <|> source.events.head?.map fun event =>
    event.bar.startTime).getD now

def subscriptionEvent (eventType : MarketDataSubscriptionEventType)
    (noFailure : eventType ≠ .failed) (subscription : LogicalSubscription)
    (observedAt : DateTime) : MarketDataSubscriptionEvent where
  eventType := eventType
  sourceId := source.sourceId
  instrumentId := subscription.instrumentId
  subscription := logicalKey subscription
  brokerSymbol := subscription.instrumentId.value
  observedAt := observedAt
  valid := MarketDataSubscriptionEvent.checks_pass source.sourceShown
    subscription.instrumentId.notEmpty noFailure rfl

def subscribe (subscription : LogicalSubscription) (subscribedAt : Option DateTime)
    (now : DateTime) : SubscriptionReplayMarketDataSource :=
  { source with
    subscriptions := source.subscriptions.set (logicalKey subscription) subscribedAt
    pendingControlEvents := source.pendingControlEvents ++
      [source.subscriptionEvent .subscribed subscribed_ne_failed subscription
        (source.observedAt subscribedAt now)] }

def unsubscribe (subscription : LogicalSubscription) (observedAt : Option DateTime)
    (now : DateTime) : SubscriptionReplayMarketDataSource :=
  if (source.subscriptions.get? (logicalKey subscription)).isNone then source
  else
    { source with
      subscriptions := source.subscriptions.erase (logicalKey subscription)
      pendingControlEvents := source.pendingControlEvents ++
        [source.subscriptionEvent .unsubscribed unsubscribed_ne_failed subscription
          (source.observedAt observedAt now)] }

def barKey (bar : Bar) : LogicalSubscriptionKey where
  instrumentId := bar.instrumentId
  requestedTimeframe := bar.timeframe

def isActive (bar : Bar) : Bool :=
  match source.subscriptions.get? (barKey bar) with
  | none => false
  | some subscribedAt => subscribedAt.all fun since => decide (since ≤ bar.endTime)

def advanceToNextEvent (currentTime : Option DateTime) (visibleAt : DateTime) :
    Except Failure DateTime :=
  if currentTime.any fun now => decide (visibleAt < now) then
    .error (.valueError "replay clock cannot move backwards")
  else .ok visibleAt

def pollEvents (asOf : Option DateTime) :
    Option DateTime → List ReplaySequencedEvent →
      Except Failure (Option Bar) × Option DateTime × List ReplaySequencedEvent
  | currentTime, [] => (.ok none, currentTime, [])
  | currentTime, event :: rest =>
    if asOf.any fun limit => decide (limit < event.bar.endTime) then
      (.ok none, currentTime, event :: rest)
    else
      match advanceToNextEvent currentTime event.visibleAt with
      | .error failure => (.error failure, currentTime, rest)
      | .ok now =>
        if source.isActive event.bar then (.ok (some event.bar), some now, rest)
        else pollEvents asOf (some now) rest

def pollNext (asOf : Option DateTime) :
    Except Failure (Option Bar) × SubscriptionReplayMarketDataSource :=
  if source.closed then (.ok none, source)
  else
    let (polled, currentTime, events) := source.pollEvents asOf source.currentTime source.events
    (polled, { source with currentTime, events })

def close : SubscriptionReplayMarketDataSource :=
  { source with closed := true, pendingControlEvents := [] }

def drainControlEvents :
    List MarketDataSubscriptionEvent × SubscriptionReplayMarketDataSource :=
  (source.pendingControlEvents, { source with pendingControlEvents := [] })

/-- The events become visible in order, none before the clock. -/
structure InOrder : Prop where
  ordered : source.events.Pairwise fun first second => first.visibleAt ≤ second.visibleAt
  ahead : ∀ now ∈ source.currentTime, ∀ event ∈ source.events, now ≤ event.visibleAt

theorem start_inOrder (sourceId : String) (sourceShown : PythonText.isBlank sourceId = false)
    (bars : List Bar) : (start sourceId sourceShown bars).InOrder where
  ordered := by
    refine (List.pairwise_insertionSort _ _).imp ?_
    intro first second inOrder
    exact ReplaySequencedEvent.visibleAt_mono inOrder
  ahead := by simp [start]

def Leaves (events skipped : List ReplaySequencedEvent)
    (polled : Except Failure (Option Bar) × Option DateTime × List ReplaySequencedEvent) :
    Prop :=
  match polled.1 with
  | .ok (some bar) => source.isActive bar = true ∧
      ∃ event, event.bar = bar ∧ events = skipped ++ event :: polled.2.2
  | .ok none => events = skipped ++ polled.2.2
  | .error _ => ∃ event, events = skipped ++ event :: polled.2.2

theorem pollEvents_leaves (asOf currentTime : Option DateTime)
    (events : List ReplaySequencedEvent) :
    ∃ skipped, (∀ event ∈ skipped, source.isActive event.bar = false) ∧
      source.Leaves events skipped (source.pollEvents asOf currentTime events) := by
  induction events generalizing currentTime with
  | nil => exact ⟨[], by simp, rfl⟩
  | cons event rest ih =>
    have nothing : ∀ other ∈ ([] : List ReplaySequencedEvent),
        source.isActive other.bar = false := by simp
    rw [pollEvents]
    by_cases late : (asOf.any fun limit => decide (limit < event.bar.endTime)) = true
    · rw [if_pos late]
      exact ⟨[], nothing, rfl⟩
    rw [if_neg late]
    cases advanceToNextEvent currentTime event.visibleAt with
    | error failure => exact ⟨[], nothing, event, rfl⟩
    | ok now =>
      by_cases active : source.isActive event.bar = true
      · dsimp only
        rw [if_pos active]
        exact ⟨[], nothing, active, event, rfl, rfl⟩
      · dsimp only
        rw [if_neg active]
        obtain ⟨skipped, inactive, leaves⟩ := ih (some now)
        refine ⟨event :: skipped, ?_, ?_⟩
        · intro other mem
          rcases List.mem_cons.mp mem with rfl | later
          · exact Bool.eq_false_iff.mpr active
          · exact inactive other later
        · unfold Leaves at leaves ⊢
          cases polled : (source.pollEvents asOf (some now) rest).1 with
          | error failure => simpa [polled] using leaves
          | ok bar => cases bar <;> simpa [polled] using leaves

theorem pollEvents_inOrder (asOf : Option DateTime) {currentTime : Option DateTime}
    {events : List ReplaySequencedEvent}
    (ordered : events.Pairwise fun first second => first.visibleAt ≤ second.visibleAt)
    (ahead : ∀ now ∈ currentTime, ∀ event ∈ events, now ≤ event.visibleAt) :
    (source.pollEvents asOf currentTime events).1.isOk = true ∧
      (source.pollEvents asOf currentTime events).2.2.Pairwise
        (fun first second => first.visibleAt ≤ second.visibleAt) ∧
      ∀ now ∈ (source.pollEvents asOf currentTime events).2.1,
        ∀ event ∈ (source.pollEvents asOf currentTime events).2.2, now ≤ event.visibleAt := by
  induction events generalizing currentTime with
  | nil => exact ⟨rfl, List.Pairwise.nil, fun _ _ _ mem => nomatch mem⟩
  | cons event rest ih =>
    obtain ⟨first, restOrdered⟩ := List.pairwise_cons.mp ordered
    have advances : advanceToNextEvent currentTime event.visibleAt = .ok event.visibleAt := by
      unfold advanceToNextEvent
      rw [if_neg]
      cases currentTime with
      | none => simp
      | some now =>
        have notLater := ahead now rfl event List.mem_cons_self
        simpa using notLater
    rw [pollEvents]
    split
    · exact ⟨rfl, ordered, ahead⟩
    rw [advances]
    dsimp only
    split
    · refine ⟨rfl, restOrdered, ?_⟩
      rintro now ⟨⟩ later mem
      exact first later mem
    · refine ih restOrdered ?_
      rintro now ⟨⟩ later mem
      exact first later mem

theorem pollNext_inOrder {source : SubscriptionReplayMarketDataSource}
    (inOrder : source.InOrder) (asOf : Option DateTime) :
    (source.pollNext asOf).1.isOk = true ∧ (source.pollNext asOf).2.InOrder := by
  unfold pollNext
  split
  · exact ⟨rfl, inOrder⟩
  · obtain ⟨polled, ordered, ahead⟩ :=
      source.pollEvents_inOrder asOf inOrder.ordered inOrder.ahead
    exact ⟨polled, ordered, ahead⟩

/-- A call on the source; the last time of a call is the time of day. -/
inductive Input
  | subscribe (subscription : LogicalSubscription) (subscribedAt : Option DateTime)
      (now : DateTime)
  | unsubscribe (subscription : LogicalSubscription) (observedAt : Option DateTime)
      (now : DateTime)
  | pollNext (asOf : Option DateTime)
  | drainControlEvents
  | close

def step : StepRuns.Step SubscriptionReplayMarketDataSource Input
    (Except Failure (Option Bar)) :=
  fun source input =>
    match input with
    | .subscribe subscription subscribedAt now =>
      (.ok none, source.subscribe subscription subscribedAt now)
    | .unsubscribe subscription observedAt now =>
      (.ok none, source.unsubscribe subscription observedAt now)
    | .pollNext asOf => source.pollNext asOf
    | .drainControlEvents => (.ok none, source.drainControlEvents.2)
    | .close => (.ok none, source.close)

theorem run_never_fails {source : SubscriptionReplayMarketDataSource} (inOrder : source.InOrder)
    (inputs : List Input) :
    ∀ answer ∈ StepRuns.responses step source inputs, answer.isOk = true := by
  induction inputs generalizing source with
  | nil => simp
  | cons input inputs ih =>
    have kept : (step source input).1.isOk = true ∧ (step source input).2.InOrder := by
      cases input with
      | subscribe subscription subscribedAt now => exact ⟨rfl, inOrder.ordered, inOrder.ahead⟩
      | unsubscribe subscription observedAt now =>
        refine ⟨rfl, ?_⟩
        show (source.unsubscribe subscription observedAt now).InOrder
        unfold unsubscribe
        split
        · exact inOrder
        · exact ⟨inOrder.ordered, inOrder.ahead⟩
      | pollNext asOf => exact pollNext_inOrder inOrder asOf
      | drainControlEvents => exact ⟨rfl, inOrder.ordered, inOrder.ahead⟩
      | close => exact ⟨rfl, inOrder.ordered, inOrder.ahead⟩
    intro answer mem
    rw [StepRuns.responses_cons] at mem
    rcases List.mem_cons.mp mem with rfl | later
    · exact kept.1
    · exact ih kept.2 answer later

end SubscriptionReplayMarketDataSource

end Qts
