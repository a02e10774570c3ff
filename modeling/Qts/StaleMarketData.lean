import Qts.StreamingMarketDataSource

/-! # Staleness of streaming market data -/

namespace Qts

open Dict StepRuns Option

def MarketDataEvent.staleKey : MarketDataEvent → Option LogicalSubscriptionKey
  | .degradation signal => some signal.subscription
  | _ => none

namespace StreamingMarketDataSource

/-- What is to be known of a subscription to tell whether it is overdue. -/
structure Watch where
  maxAge : Int
  subscribedAt : DateTime
  newest : Option DateTime := none
  signalled : Bool := false
deriving DecidableEq

namespace Watch

/-- An event; an older one than the newest changes nothing. -/
def hear (watch : Watch) (time : DateTime) : Watch :=
  if watch.newest.all fun newest => decide (newest ≤ time) then
    { watch with newest := some time, signalled := false }
  else watch

def drained (watch : Watch) (signals : Bool) : Watch :=
  { watch with signalled := watch.signalled || signals }

/-- Whether the newest event is too old and nothing has been signalled since it arrived. -/
def Overdue (watch : Watch) (observedAt : DateTime) : Prop :=
  watch.maxAge < observedAt - watch.newest.getD watch.subscribedAt ∧ watch.signalled = false

instance (watch : Watch) (observedAt : DateTime) : Decidable (watch.Overdue observedAt) :=
  inferInstanceAs (Decidable (_ ∧ _))

end Watch

def received : Input → Answer → Option (InstrumentId × SourceStreamType × DateTime)
  | .onTick _, .ok [.tick tick] => some (tick.instrumentId, .tick, tick.time)
  | .onQuote _, .ok [.quote quote] => some (quote.instrumentId, .quote, quote.time)
  | .onBar _, .ok [.bar bar] => some (bar.instrumentId, .bar, bar.endTime)
  | _, _ => none

def staleKeys : Answer → List LogicalSubscriptionKey
  | .ok events => events.filterMap MarketDataEvent.staleKey
  | .error _ => []

def watchAfter (configured : StreamingMarketDataSource) (key : LogicalSubscriptionKey)
    (watch : Option Watch) : Input × Answer → Option Watch
  | (.subscribe subscription maxAge subscribedAt, .ok _) =>
    if logicalKey subscription = key then
      some { maxAge := configured.effectiveMaxAge key maxAge, subscribedAt }
    else watch
  | (.unsubscribe subscription _, _) => if logicalKey subscription = key then none else watch
  | (.drain _, answer) => watch.map fun watched => watched.drained (key ∈ staleKeys answer)
  | (input, answer) =>
    match received input answer with
    | some (instrumentId, streamType, time) =>
      if key.instrumentId = instrumentId ∧ key.streamType = streamType then
        watch.map fun watched => watched.hear time
      else watch
    | none => watch

variable (shown : LogicalSubscriptionKey → String)

def watchOf (source : StreamingMarketDataSource) (inputs : List Input)
    (key : LogicalSubscriptionKey) : Option Watch :=
  (inputs.zip (responses (step shown) source inputs)).foldl (watchAfter source key) none

def SignalsExactly (source : StreamingMarketDataSource) (inputs : List Input) : Prop :=
  ∀ before observedAt after, inputs = before ++ .drain observedAt :: after → ∀ key,
    key ∈ staleKeys (step shown (final (step shown) source before) (.drain observedAt)).1 ↔
      ∃ watch, watchOf shown source before key = some watch ∧ watch.Overdue observedAt

structure Fresh (source : StreamingMarketDataSource) : Prop where
  noSubscriptions : source.subscriptions = .empty
  noEvents : source.lastEventAt = .empty
  noneStale : source.staleEmitted = []
  noPending : source.pending = []

def NotOlder (source : StreamingMarketDataSource) (instrumentId : InstrumentId)
    (streamType : SourceStreamType) (time : DateTime) : Prop :=
  ∀ key ∈ source.receivers instrumentId streamType, ∀ last ∈ source.lastEventAt.get? key,
    last ≤ time

/-- The call brings no event that is older than the last one, and subscribes no stream again that
has received an event. -/
def InOrder (source : StreamingMarketDataSource) : Input → Prop
  | .subscribe subscription maxAge subscribedAt =>
    (source.subscribe subscription maxAge subscribedAt).isOk →
      source.lastEventAt.get? (logicalKey subscription) = none
  | .onTick payload => ∀ tick, source.adapter.onTick payload = .ok tick →
      source.NotOlder tick.instrumentId .tick tick.time
  | .onQuote payload => ∀ quote, source.adapter.onQuote payload = .ok quote →
      source.NotOlder quote.instrumentId .quote quote.time
  | .onBar payload => ∀ bar, source.adapter.onBar payload = .ok bar →
      source.NotOlder bar.instrumentId .bar bar.endTime
  | _ => True

instance decidableOfOk {Value : Type} (called : Except Failure Value)
    (property : Value → Prop) [holds : ∀ value, Decidable (property value)] :
    Decidable (∀ value, called = .ok value → property value) :=
  match called with
  | .error _ => isTrue fun _ impossible => nomatch impossible
  | .ok value => decidable_of_iff (property value)
      ⟨fun held _ same => Except.ok.inj same ▸ held, fun always => always value rfl⟩

instance (source : StreamingMarketDataSource) (instrumentId : InstrumentId)
    (streamType : SourceStreamType) (time : DateTime) :
    Decidable (source.NotOlder instrumentId streamType time) :=
  inferInstanceAs (Decidable (∀ key ∈ source.receivers instrumentId streamType,
    ∀ last ∈ source.lastEventAt.get? key, last ≤ time))

instance (source : StreamingMarketDataSource) : ∀ input, Decidable (source.InOrder input)
  | .subscribe subscription maxAge subscribedAt =>
    inferInstanceAs (Decidable ((source.subscribe subscription maxAge subscribedAt).isOk →
      source.lastEventAt.get? (logicalKey subscription) = none))
  | .onTick payload => inferInstanceAs (Decidable (∀ tick,
      source.adapter.onTick payload = .ok tick → source.NotOlder tick.instrumentId .tick tick.time))
  | .onQuote payload => inferInstanceAs (Decidable (∀ quote,
      source.adapter.onQuote payload = .ok quote →
        source.NotOlder quote.instrumentId .quote quote.time))
  | .onBar payload => inferInstanceAs (Decidable (∀ bar,
      source.adapter.onBar payload = .ok bar → source.NotOlder bar.instrumentId .bar bar.endTime))
  | .unsubscribe _ _ | .markResubscribed _ _ | .resubscribeActiveSubscriptions _
  | .markSubscriptionFailed _ _ _ | .onMarketDataType _ | .drain _ => isTrue trivial

structure Tracks (configured source : StreamingMarketDataSource)
    (watches : LogicalSubscriptionKey → Option Watch) : Prop where
  ages : ∀ key maxAge, source.effectiveMaxAge key maxAge = configured.effectiveMaxAge key maxAge
  keyed : ∀ key state, source.subscriptions.get? key = some state →
    logicalKey state.logical = key
  unwatched : ∀ key, source.subscriptions.get? key = none → watches key = none
  watched : ∀ key state, source.subscriptions.get? key = some state →
    watches key = some
      { maxAge := state.maxAge
        subscribedAt := state.subscribedAt
        newest := source.lastEventAt.get? key
        signalled := decide (key ∈ source.staleEmitted) }
  quiet : source.pending.filterMap MarketDataEvent.staleKey = []

variable {configured source : StreamingMarketDataSource}
  {watches : LogicalSubscriptionKey → Option Watch}

theorem Tracks.fresh (fresh : source.Fresh) : Tracks source source (fun _ => none) where
  ages _ _ := rfl
  keyed key state found := by
    rw [fresh.noSubscriptions, get?_empty] at found
    cases found
  unwatched _ _ := rfl
  watched key state found := by
    rw [fresh.noSubscriptions, get?_empty] at found
    cases found
  quiet := by rw [fresh.noPending, List.filterMap_nil]

theorem Tracks.requeued {next : StreamingMarketDataSource}
    (tracks : Tracks configured source watches)
    (ages : ∀ key maxAge, next.effectiveMaxAge key maxAge = source.effectiveMaxAge key maxAge)
    (subscriptions : next.subscriptions = source.subscriptions)
    (lastEventAt : next.lastEventAt = source.lastEventAt)
    (staleEmitted : next.staleEmitted = source.staleEmitted)
    (quiet : next.pending.filterMap MarketDataEvent.staleKey = []) :
    Tracks configured next watches where
  ages key maxAge := (ages key maxAge).trans (tracks.ages key maxAge)
  keyed := subscriptions ▸ tracks.keyed
  unwatched := subscriptions ▸ tracks.unwatched
  watched := by
    rw [subscriptions, lastEventAt, staleEmitted]
    exact tracks.watched
  quiet := quiet

/-- The queue stays quiet when an event that signals nothing is put behind it. -/
theorem Tracks.quiet_append (tracks : Tracks configured source watches)
    {events : List MarketDataEvent} (quiet : events.filterMap MarketDataEvent.staleKey = []) :
    (source.pending ++ events).filterMap MarketDataEvent.staleKey = [] := by
  rw [List.filterMap_append, tracks.quiet, quiet, List.append_nil]

variable {streamType : SourceStreamType} {instrumentId : InstrumentId}

theorem Tracks.mem_receivers_iff (tracks : Tracks configured source watches)
    {key : LogicalSubscriptionKey} {state : StreamingMarketDataSubscription}
    (found : source.subscriptions.get? key = some state) :
    key ∈ source.receivers instrumentId streamType ↔
      key.instrumentId = instrumentId ∧ key.streamType = streamType := by
  have keyed : state.logical.streamType = key.streamType :=
    congrArg LogicalSubscriptionKey.streamType (tracks.keyed key state found)
  rw [mem_receivers]
  constructor
  · rintro ⟨other, foundOther, receives⟩
    rw [found, some_inj] at foundOther
    subst foundOther
    rw [← keyed]
    exact of_decide_eq_true receives
  · intro same
    refine ⟨state, found, decide_eq_true ?_⟩
    dsimp only
    rw [keyed]
    exact same

theorem Tracks.hear (tracks : Tracks configured source watches) {time : DateTime}
    (notOlder : source.NotOlder instrumentId streamType time) {pending : List MarketDataEvent}
    (quiet : pending.filterMap MarketDataEvent.staleKey = []) :
    Tracks configured
      { source.recordEvent instrumentId streamType time with pending }
      (fun key => if key.instrumentId = instrumentId ∧ key.streamType = streamType then
        (watches key).map fun watched => watched.hear time else watches key) := by
  have sameSubscriptions : (source.recordEvent instrumentId streamType time).subscriptions =
      source.subscriptions := by rw [recordEvent_eq]
  constructor
  · intro key maxAge
    rw [← tracks.ages key maxAge, recordEvent_eq]
    rfl
  · dsimp only
    rw [sameSubscriptions]
    exact tracks.keyed
  · dsimp only
    rw [sameSubscriptions]
    intro key absent
    rw [tracks.unwatched key absent, map_none, ite_self]
  · dsimp only
    rw [sameSubscriptions]
    intro key state found
    rw [tracks.watched key state found, recordEvent_lastEventAt]
    have receives : key ∈ source.receivers instrumentId streamType ↔
        key.instrumentId = instrumentId ∧ key.streamType = streamType :=
      tracks.mem_receivers_iff found
    by_cases same : key.instrumentId = instrumentId ∧ key.streamType = streamType
    · have heard := receives.mpr same
      have newer : ((source.lastEventAt.get? key).all fun last => decide (last ≤ time)) = true := by
        rw [all_eq_true]
        intro last known
        exact decide_eq_true (notOlder key heard last known)
      rw [if_pos same, if_pos heard, map_some, Watch.hear, if_pos newer]
      have rearmed : key ∉ (source.recordEvent instrumentId streamType time).staleEmitted := by
        rw [recordEvent_staleEmitted]
        exact fun stale => stale.2 heard
      rw [decide_eq_false rearmed]
    · have unheard := mt receives.mp same
      rw [if_neg same, if_neg unheard]
      simp only [recordEvent_staleEmitted, unheard, not_false_eq_true, and_true]
  · exact quiet

theorem Tracks.hear_quiet (tracks : Tracks configured source watches) {time : DateTime}
    {events : List MarketDataEvent} (quiet : events.filterMap MarketDataEvent.staleKey = []) :
    ((source.recordEvent instrumentId streamType time).pending ++ events).filterMap
      MarketDataEvent.staleKey = [] := by
  rw [recordEvent_eq]
  exact tracks.quiet_append quiet

theorem Tracks.subscribe {next : StreamingMarketDataSource}
    (tracks : Tracks configured source watches) {subscription : LogicalSubscription}
    {maxAge : Option Int} {subscribedAt : DateTime} {req : IbkrMarketDataSubscription}
    (unheard : source.lastEventAt.get? (logicalKey subscription) = none)
    (subscribed : source.subscribe subscription maxAge subscribedAt = .ok (req, next)) :
    Tracks configured next
      (fun key => if logicalKey subscription = key then
        some { maxAge := configured.effectiveMaxAge key maxAge, subscribedAt }
      else watches key) := by
  unfold StreamingMarketDataSource.subscribe at subscribed
  obtain ⟨provider, _, rest⟩ := bind_inv subscribed
  obtain ⟨state, created, rest⟩ := bind_inv rest
  have fields : state.toStreamingMarketDataSubscriptionFields =
      { logical := subscription
        brokerSymbol := provider.brokerSymbol
        sourceId := provider.sourceId
        maxAge := source.effectiveMaxAge (logicalKey subscription) maxAge
        subscribedAt } := by
    unfold StreamingMarketDataSubscription.create at created
    split at created
    · cases created
      rfl
    · cases created
  cases rest
  constructor
  · exact tracks.ages
  · intro key found present
    rw [get?_set] at present
    by_cases same : key = logicalKey subscription
    · rw [if_pos same] at present
      cases present
      rw [fields, same]
    · rw [if_neg same] at present
      exact tracks.keyed key found present
  · intro key absent
    rw [get?_set] at absent
    by_cases same : key = logicalKey subscription
    · rw [if_pos same] at absent
      cases absent
    · rw [if_neg same] at absent
      rw [if_neg (Ne.symm same)]
      exact tracks.unwatched key absent
  · intro key found present
    rw [get?_set] at present
    by_cases same : key = logicalKey subscription
    · rw [if_pos same] at present
      cases present
      subst same
      rw [if_pos rfl, fields, ← tracks.ages]
      simp [unheard]
    · rw [if_neg same] at present
      rw [if_neg (Ne.symm same), tracks.watched key found present]
      simp [same]
  · exact tracks.quiet_append rfl

section

variable (tracks : Tracks configured source watches)

include tracks

theorem Tracks.unsubscribe (subscription : LogicalSubscription) (observedAt : DateTime) :
    Tracks configured (source.unsubscribe subscription observedAt)
      (fun key => if logicalKey subscription = key then none else watches key) := by
  constructor
  · exact tracks.ages
  · intro key state present
    unfold StreamingMarketDataSource.unsubscribe at present
    rw [get?_erase] at present
    split at present
    · cases present
    · exact tracks.keyed key state present
  · intro key absent
    unfold StreamingMarketDataSource.unsubscribe at absent
    rw [get?_erase] at absent
    by_cases same : key = logicalKey subscription
    · rw [if_pos same.symm]
    · rw [if_neg same] at absent
      rw [if_neg (Ne.symm same)]
      exact tracks.unwatched key absent
  · intro key state present
    unfold StreamingMarketDataSource.unsubscribe at present ⊢
    rw [get?_erase] at present
    by_cases same : key = logicalKey subscription
    · rw [if_pos same] at present
      cases present
    · rw [if_neg same] at present
      rw [if_neg (Ne.symm same), tracks.watched key state present, get?_erase_of_ne _ same]
      simp [same]
  · refine tracks.quiet_append ?_
    cases source.subscriptions.get? (logicalKey subscription) <;> rfl

/-- The streams that a drain of a quiet queue signals. -/
theorem Tracks.staleKeys_drain (observedAt : DateTime) :
    staleKeys (.ok (source.drain observedAt).1) =
      (source.degradations observedAt).map (·.subscription) := by
  rw [drain_eq, staleKeys, List.filterMap_append, tracks.quiet, List.nil_append, List.filterMap_map]
  exact congrFun List.filterMap_eq_map (source.degradations observedAt)

theorem Tracks.mem_staleKeys_iff {observedAt : DateTime} {key : LogicalSubscriptionKey} :
    key ∈ staleKeys (.ok (source.drain observedAt).1) ↔
      ∃ watch, watches key = some watch ∧ watch.Overdue observedAt := by
  rw [tracks.staleKeys_drain, List.mem_map, mem_degradations_iff]
  constructor
  · rintro ⟨state, found, tooOld, unsignalled⟩
    exact ⟨_, tracks.watched key state found, tooOld, decide_eq_false unsignalled⟩
  · rintro ⟨watch, known, tooOld, unsignalled⟩
    cases found : source.subscriptions.get? key with
    | none =>
      rw [tracks.unwatched key found] at known
      cases known
    | some state =>
      rw [tracks.watched key state found] at known
      cases known
      exact ⟨state, rfl, tooOld, of_decide_eq_false unsignalled⟩

theorem Tracks.drain (observedAt : DateTime) :
    Tracks configured (source.drain observedAt).2
      (fun key => (watches key).map fun watched =>
        watched.drained (key ∈ staleKeys (.ok (source.drain observedAt).1))) := by
  have signals := tracks.staleKeys_drain observedAt
  rw [drain_eq] at signals ⊢
  constructor
  · exact tracks.ages
  · exact tracks.keyed
  · intro key absent
    rw [tracks.unwatched key absent, map_none]
  · intro key state found
    rw [tracks.watched key state found, map_some, signals, Watch.drained]
    simp
  · rfl

end

def watchesAfter (shown : LogicalSubscriptionKey → String)
    (configured source : StreamingMarketDataSource)
    (watches : LogicalSubscriptionKey → Option Watch) (input : Input) :
    LogicalSubscriptionKey → Option Watch :=
  fun key => watchAfter configured key (watches key) (input, (step shown source input).1)

theorem step_tracks (input : Input) (tracks : Tracks configured source watches)
    (inOrder : source.InOrder input) :
    Tracks configured (step shown source input).2
      (watchesAfter shown configured source watches input) := by
  cases input with
  | subscribe subscription maxAge subscribedAt =>
    unfold watchesAfter
    rw [step]
    cases subscribed : source.subscribe subscription maxAge subscribedAt with
    | error failure => exact tracks
    | ok answer =>
      have unheard := inOrder (by rw [subscribed]; rfl)
      exact tracks.subscribe unheard subscribed
  | unsubscribe subscription observedAt => exact tracks.unsubscribe subscription observedAt
  | markResubscribed subscription observedAt =>
    unfold watchesAfter
    rw [step, StreamingMarketDataSource.markResubscribed]
    cases source.requireSubscription shown (logicalKey subscription) with
    | error failure => exact tracks
    | ok state =>
      exact tracks.requeued (fun _ _ => rfl) rfl rfl rfl (tracks.quiet_append rfl)
  | resubscribeActiveSubscriptions observedAt =>
    refine tracks.requeued (fun _ _ => rfl) rfl rfl rfl (tracks.quiet_append ?_)
    rw [List.filterMap_map]
    exact List.filterMap_eq_nil_iff.mpr fun _ _ => rfl
  | markSubscriptionFailed subscription reason observedAt =>
    unfold watchesAfter
    rw [step, StreamingMarketDataSource.markSubscriptionFailed]
    cases source.requireSubscription shown (logicalKey subscription) with
    | error failure => exact tracks
    | ok state =>
      dsimp only [bind, Except.bind]
      split
      · exact tracks
      · exact tracks.requeued (fun _ _ => rfl) rfl rfl rfl (tracks.quiet_append rfl)
  | onTick payload =>
    unfold watchesAfter
    rw [step, StreamingMarketDataSource.onTick]
    cases normalized : source.adapter.onTick payload with
    | error failure => exact tracks
    | ok tick => exact tracks.hear (inOrder tick normalized) (tracks.hear_quiet rfl)
  | onQuote payload =>
    unfold watchesAfter
    rw [step, StreamingMarketDataSource.onQuote]
    cases normalized : source.adapter.onQuote payload with
    | error failure => exact tracks
    | ok quote => exact tracks.hear (inOrder quote normalized) (tracks.hear_quiet rfl)
  | onBar payload =>
    unfold watchesAfter
    rw [step, StreamingMarketDataSource.onBar]
    cases normalized : source.adapter.onBar payload with
    | error failure => exact tracks
    | ok bar =>
      refine tracks.hear (inOrder bar normalized) ?_
      split
      · exact tracks.hear_quiet rfl
      · rw [recordEvent_eq]
        exact tracks.quiet
  | onMarketDataType payload =>
    exact tracks.requeued (fun _ _ => rfl) rfl rfl rfl (tracks.quiet_append rfl)
  | drain observedAt => exact tracks.drain observedAt

theorem final_tracks {inputs : List Input} (tracks : Tracks configured source watches)
    (steps : EveryStep (step shown) InOrder source inputs) :
    Tracks configured (final (step shown) source inputs)
      (fun key => (inputs.zip (responses (step shown) source inputs)).foldl
        (watchAfter configured key) (watches key)) := by
  induction inputs generalizing source watches with
  | nil => exact tracks
  | cons input inputs ih => exact ih (step_tracks shown input tracks steps.1) steps.2

/-- In a run of calls in order, each drain signals exactly the overdue streams. -/
theorem signalsExactly_of_inOrder (shown : LogicalSubscriptionKey → String)
    (source : StreamingMarketDataSource) (fresh : source.Fresh) (inputs : List Input)
    (steps : EveryStep (step shown) InOrder source inputs) :
    SignalsExactly shown source inputs := by
  rintro before observedAt after rfl key
  have early := ((everyStep_append (step shown) InOrder source before _).mp steps).1
  exact (final_tracks shown (Tracks.fresh fresh) early).mem_staleKeys_iff

namespace LateTick

def apple : InstrumentId :=
  ⟨⟨"EQUITY.US.NASDAQ.AAPL", Eq.refl false⟩⟩

/-- A source that gives ticks five seconds. -/
def appleSource : StreamingMarketDataSource where
  adapter :=
    { sourceId := "ibkr-paper-md"
      symbolMapping :=
        { toInstrument := empty.set "AAPL" apple
          toBroker := empty.set apple "AAPL" }
      sourceShown := by decide }
  defaultMaxAge := 5

theorem appleSource_fresh : appleSource.Fresh :=
  ⟨rfl, rfl, rfl, rfl⟩

def ticks : LogicalSubscription where
  subscriberId := "strategy-a"
  instrumentId := apple
  requestedTimeframe := "tick"
  streamType := .tick
  valid := by decide

def tickAt (time : DateTime) : Input :=
  .onTick { brokerSymbol := "AAPL", time, price := 10, symbolShown := Eq.refl false }

def shownKey (key : LogicalSubscriptionKey) : String :=
  key.instrumentId.value ++ " " ++ key.requestedTimeframe

/-- Ticks that arrive in order, and a drain after the age has passed. -/
def punctual : List Input :=
  [.subscribe ticks none 0, tickAt 90, tickAt 100, .drain 104, .drain 106, .drain 108]

/-- A tick that arrives after a newer one. -/
def late : List Input :=
  [.subscribe ticks none 0, tickAt 100, tickAt 90]

end LateTick

/-- Ticks in order are signalled exactly. -/
theorem punctual_signalsExactly :
    SignalsExactly LateTick.shownKey LateTick.appleSource LateTick.punctual := by
  refine signalsExactly_of_inOrder LateTick.shownKey LateTick.appleSource LateTick.appleSource_fresh
    LateTick.punctual ?_
  decide +kernel

/-- A tick that is four seconds old is signalled as stale after a late one. -/
theorem late_tick_signals :
    logicalKey LateTick.ticks ∈ staleKeys (step LateTick.shownKey
        (final (step LateTick.shownKey) LateTick.appleSource LateTick.late) (.drain 104)).1 ∧
      watchOf LateTick.shownKey LateTick.appleSource LateTick.late (logicalKey LateTick.ticks) =
        some { maxAge := 5, subscribedAt := 0, newest := some 100 } ∧
      ¬ SignalsExactly LateTick.shownKey LateTick.appleSource (LateTick.late ++ [.drain 104]) := by
  have signals : logicalKey LateTick.ticks ∈ staleKeys (step LateTick.shownKey
      (final (step LateTick.shownKey) LateTick.appleSource LateTick.late) (.drain 104)).1 := by
    decide +kernel
  have watch : watchOf LateTick.shownKey LateTick.appleSource LateTick.late
      (logicalKey LateTick.ticks) =
        some { maxAge := 5, subscribedAt := 0, newest := some 100 } := by
    decide +kernel
  refine ⟨signals, watch, ?_⟩
  intro law
  obtain ⟨watched, known, overdue⟩ :=
    (law LateTick.late 104 [] rfl (logicalKey LateTick.ticks)).mp signals
  rw [watch] at known
  cases known
  exact absurd overdue (by decide)

end StreamingMarketDataSource

end Qts
