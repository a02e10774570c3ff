import Qts.StaleMarketData
import Qts.SubscriptionReplaySource

/-! # Shared subscriptions -/

namespace Qts

open Dict StepRuns StreamingMarketDataSource LateTick List

universe u v

structure SharingCall (Subscriber : Type u) (Stream : Type v) where
  subscriber : Subscriber
  stream : Stream
  subscribes : Bool

namespace SharingCall

variable {Subscriber : Type u} {Stream : Type v} [DecidableEq Subscriber] [DecidableEq Stream]

def holds (calls : List (SharingCall Subscriber Stream)) (subscriber : Subscriber)
    (stream : Stream) : Bool :=
  calls.foldl (fun held call =>
    if call.subscriber = subscriber ∧ call.stream = stream then call.subscribes else held) false

/-- A stream with a subscriber that has not unsubscribed. -/
def Held (calls : List (SharingCall Subscriber Stream)) (stream : Stream) : Prop :=
  ∃ subscriber, holds calls subscriber stream = true

omit [DecidableEq Subscriber] in
def latestSubscribes (before : Bool) (calls : List (SharingCall Subscriber Stream))
    (stream : Stream) : Bool :=
  calls.foldl (fun active call => if call.stream = stream then call.subscribes else active) before

theorem holds_concat (calls : List (SharingCall Subscriber Stream))
    (call : SharingCall Subscriber Stream) (subscriber : Subscriber) (stream : Stream) :
    holds (calls ++ [call]) subscriber stream =
      if call.subscriber = subscriber ∧ call.stream = stream then call.subscribes
      else holds calls subscriber stream := by
  simp [holds]

theorem held_of_latestSubscribes {calls : List (SharingCall Subscriber Stream)} {stream : Stream}
    (latest : latestSubscribes false calls stream = true) : Held calls stream := by
  induction calls using reverseRecOn with
  | nil => cases latest
  | append_singleton calls call ih =>
    rw [latestSubscribes, foldl_append, foldl_cons, foldl_nil] at latest
    by_cases same : call.stream = stream
    · rw [if_pos same] at latest
      refine ⟨call.subscriber, ?_⟩
      rw [holds_concat, if_pos ⟨rfl, same⟩]
      exact latest
    · rw [if_neg same] at latest
      obtain ⟨subscriber, holding⟩ := ih latest
      refine ⟨subscriber, ?_⟩
      rw [holds_concat, if_neg (fun named => same named.2)]
      exact holding

/-- Each unsubscribe comes from the last holder of its stream. -/
def LeftLast (calls : List (SharingCall Subscriber Stream)) : Prop :=
  ∀ before call after, calls = before ++ call :: after → call.subscribes = false →
    ∀ subscriber, subscriber ≠ call.subscriber → holds before subscriber call.stream = false

theorem held_iff_latestSubscribes {calls : List (SharingCall Subscriber Stream)}
    (leftLast : LeftLast calls) (stream : Stream) :
    Held calls stream ↔ latestSubscribes false calls stream = true := by
  refine ⟨?_, held_of_latestSubscribes⟩
  induction calls using reverseRecOn with
  | nil => exact fun ⟨_, impossible⟩ => by cases impossible
  | append_singleton calls call ih =>
    have earlier : LeftLast calls := by
      intro before other after split
      refine leftLast before other (after ++ [call]) ?_
      rw [split, append_assoc, cons_append]
    rintro ⟨subscriber, holding⟩
    rw [latestSubscribes, foldl_append, foldl_cons, foldl_nil]
    rw [holds_concat] at holding
    by_cases same : call.stream = stream
    · rw [if_pos same]
      by_cases caller : call.subscriber = subscriber
      · rw [if_pos ⟨caller, same⟩] at holding
        exact holding
      · rw [if_neg (fun named => caller named.1)] at holding
        cases subscribes : call.subscribes with
        | true => rfl
        | false =>
          have gone := leftLast calls call [] rfl subscribes subscriber (Ne.symm caller)
          rw [same, holding] at gone
          cases gone
    · rw [if_neg same]
      rw [if_neg (fun named => same named.2)] at holding
      exact ih earlier ⟨subscriber, holding⟩

end SharingCall

def sharingCall (subscription : LogicalSubscription) (subscribes : Bool) :
    SharingCall String LogicalSubscriptionKey :=
  ⟨subscription.subscriberId, logicalKey subscription, subscribes⟩

theorem isSome_set {Key : Type u} {Value : Type v} [DecidableEq Key] (dict : Dict Key Value)
    (stored key : Key) (value : Value) :
    ((dict.set stored value).get? key).isSome =
      if stored = key then true else (dict.get? key).isSome := by
  rw [get?_set]
  by_cases same : stored = key
  · rw [if_pos same, if_pos same.symm, Option.isSome_some]
  · rw [if_neg same, if_neg (Ne.symm same)]

namespace StreamingMarketDataSource

def sharing : Input × Answer → Option (SharingCall String LogicalSubscriptionKey)
  | (.subscribe subscription _ _, .ok _) => some (sharingCall subscription true)
  | (.unsubscribe subscription _, _) => some (sharingCall subscription false)
  | _ => none

def sharingCalls (shown : LogicalSubscriptionKey → String) (source : StreamingMarketDataSource)
    (inputs : List Input) : List (SharingCall String LogicalSubscriptionKey) :=
  (inputs.zip (responses (step shown) source inputs)).filterMap sharing

def active (source : StreamingMarketDataSource) (key : LogicalSubscriptionKey) : Bool :=
  (source.subscriptions.get? key).isSome

variable {source : StreamingMarketDataSource} (shown : LogicalSubscriptionKey → String)

theorem step_active (input : Input) (key : LogicalSubscriptionKey) :
    (step shown source input).2.active key =
      match sharing (input, (step shown source input).1) with
      | some call => if call.stream = key then call.subscribes else source.active key
      | none => source.active key := by
  cases input with
  | subscribe subscription maxAge subscribedAt =>
    rw [step]
    cases subscribed : source.subscribe subscription maxAge subscribedAt with
    | error failure => rfl
    | ok answer =>
      unfold subscribe at subscribed
      obtain ⟨provider, _, rest⟩ := bind_inv subscribed
      obtain ⟨state, created, rest⟩ := bind_inv rest
      cases rest
      show ((source.subscriptions.set (logicalKey subscription) state).get? key).isSome = _
      exact isSome_set ..
  | unsubscribe subscription observedAt =>
    show (get? (erase _ _) key).isSome = _
    rw [get?_erase]
    by_cases same : key = logicalKey subscription
    · rw [if_pos same]
      exact (if_pos same.symm).symm
    · rw [if_neg same]
      exact (if_neg (Ne.symm same)).symm
  | markResubscribed subscription observedAt =>
    rw [step, markResubscribed]
    cases source.requireSubscription shown (logicalKey subscription) <;> rfl
  | resubscribeActiveSubscriptions observedAt => rfl
  | markSubscriptionFailed subscription reason observedAt =>
    rw [step, markSubscriptionFailed]
    cases source.requireSubscription shown (logicalKey subscription) with
    | error failure => rfl
    | ok state =>
      dsimp only [bind, Except.bind]
      split <;> rfl
  | onTick payload =>
    rw [step, onTick]
    cases source.adapter.onTick payload with
    | error failure => rfl
    | ok tick =>
      dsimp only [bind, Except.bind]
      rw [recordEvent_eq]
      rfl
  | onQuote payload =>
    rw [step, onQuote]
    cases source.adapter.onQuote payload with
    | error failure => rfl
    | ok quote =>
      dsimp only [bind, Except.bind]
      rw [recordEvent_eq]
      rfl
  | onBar payload =>
    rw [step, onBar]
    cases source.adapter.onBar payload with
    | error failure => rfl
    | ok bar =>
      dsimp only [bind, Except.bind]
      rw [recordEvent_eq]
      rfl
  | onMarketDataType payload => rfl
  | drain observedAt =>
    rw [step, drain_eq]
    rfl

theorem sharingCalls_cons (input : Input) (inputs : List Input) :
    sharingCalls shown source (input :: inputs) =
      (sharing (input, (step shown source input).1)).toList ++
        sharingCalls shown (step shown source input).2 inputs := by
  unfold sharingCalls
  rw [responses_cons, zip_cons_cons, filterMap_cons]
  cases sharing (input, (step shown source input).1) <;> rfl

theorem final_active (inputs : List Input) (key : LogicalSubscriptionKey) :
    (final (step shown) source inputs).active key =
      SharingCall.latestSubscribes (source.active key) (sharingCalls shown source inputs) key := by
  induction inputs generalizing source with
  | nil => rfl
  | cons input inputs ih =>
    have first : (step shown source input).2.active key = _ := step_active shown input key
    rw [final_cons, ih, sharingCalls_cons]
    cases shared : sharing (input, (step shown source input).1) with
    | none =>
      rw [shared] at first
      rw [first]
      rfl
    | some call =>
      rw [shared] at first
      rw [first]
      rfl

theorem active_of_mem_degradations {observedAt : DateTime}
    {degradation : StreamingMarketDataDegradation}
    (signalled : degradation ∈ source.degradations observedAt) :
    source.active degradation.subscription = true := by
  obtain ⟨state, found, _⟩ := mem_degradations_iff.mp ⟨degradation, signalled, rfl⟩
  rw [active, found]
  rfl

end StreamingMarketDataSource

namespace SubscriptionReplayMarketDataSource

def sharing : Input → Option (SharingCall String LogicalSubscriptionKey)
  | .subscribe subscription _ _ => some (sharingCall subscription true)
  | .unsubscribe subscription _ _ => some (sharingCall subscription false)
  | _ => none

def active (source : SubscriptionReplayMarketDataSource) (key : LogicalSubscriptionKey) : Bool :=
  (source.subscriptions.get? key).isSome

variable {source : SubscriptionReplayMarketDataSource}

theorem step_active (input : Input) (key : LogicalSubscriptionKey) :
    (step source input).2.active key =
      match sharing input with
      | some call => if call.stream = key then call.subscribes else source.active key
      | none => source.active key := by
  cases input with
  | subscribe subscription subscribedAt now =>
    show ((source.subscriptions.set (logicalKey subscription) subscribedAt).get? key).isSome = _
    exact isSome_set ..
  | unsubscribe subscription observedAt now =>
    show (source.unsubscribe subscription observedAt now).active key =
      if logicalKey subscription = key then false else source.active key
    unfold unsubscribe
    by_cases same : logicalKey subscription = key
    · rw [if_pos same]
      split
      · next absent => simpa [active, ← same] using absent
      · simp [active, same]
    · rw [if_neg same]
      split
      · rfl
      · simp [active, get?_erase_of_ne _ (Ne.symm same)]
  | pollNext asOf =>
    show (source.pollNext asOf).2.active key = source.active key
    unfold pollNext
    split <;> rfl
  | drainControlEvents => rfl
  | close => rfl

theorem final_active (inputs : List Input) (key : LogicalSubscriptionKey) :
    (final step source inputs).active key =
      SharingCall.latestSubscribes (source.active key) (inputs.filterMap sharing) key := by
  induction inputs generalizing source with
  | nil => rfl
  | cons input inputs ih =>
    have first : (step source input).2.active key = _ := step_active input key
    rw [final_cons, ih, filterMap_cons]
    cases shared : sharing input with
    | none =>
      rw [shared] at first
      rw [first]
    | some call =>
      rw [shared] at first
      rw [first]
      rfl

theorem active_of_polled {asOf : Option DateTime} {bar : Bar}
    (polled : (source.pollNext asOf).1 = .ok (some bar)) : source.active (barKey bar) = true := by
  unfold pollNext at polled
  split at polled
  · cases polled
  · obtain ⟨skipped, _, leaves⟩ :=
      source.pollEvents_leaves asOf source.currentTime source.events
    unfold Leaves at leaves
    dsimp only at polled
    rw [polled] at leaves
    have visible := leaves.1
    unfold isActive at visible
    unfold active
    cases found : source.subscriptions.get? (barKey bar) with
    | none =>
      rw [found] at visible
      cases visible
    | some since => rfl

end SubscriptionReplayMarketDataSource

/-- Neither source counts subscribers: after any run a stream is active exactly when the latest
call on it subscribes, so an unsubscribe ends the stream for all.  Staleness is signalled and bars
are replayed for active streams only.  Where only the last holder of a stream unsubscribes it, the
active streams are those that somebody holds. -/
theorem active_iff_latest_call :
    (∀ shown (source : StreamingMarketDataSource) inputs key,
      (final (step shown) source inputs).active key =
        SharingCall.latestSubscribes (source.active key)
          (sharingCalls shown source inputs) key) ∧
    (∀ (source : SubscriptionReplayMarketDataSource) inputs key,
      (final SubscriptionReplayMarketDataSource.step source inputs).active key =
        SharingCall.latestSubscribes (source.active key)
          (inputs.filterMap SubscriptionReplayMarketDataSource.sharing) key) ∧
    (∀ (source : StreamingMarketDataSource) observedAt, ∀ degradation ∈
      source.degradations observedAt, source.active degradation.subscription = true) ∧
    (∀ (source : SubscriptionReplayMarketDataSource) asOf bar,
      (source.pollNext asOf).1 = .ok (some bar) →
        source.active (SubscriptionReplayMarketDataSource.barKey bar) = true) ∧
    (∀ shown (source : StreamingMarketDataSource) inputs key, source.active key = false →
      SharingCall.LeftLast (sharingCalls shown source inputs) →
      ((final (step shown) source inputs).active key = true ↔
        SharingCall.Held (sharingCalls shown source inputs) key)) ∧
    ∀ (source : SubscriptionReplayMarketDataSource) inputs key, source.active key = false →
      SharingCall.LeftLast (inputs.filterMap SubscriptionReplayMarketDataSource.sharing) →
      ((final SubscriptionReplayMarketDataSource.step source inputs).active key = true ↔
        SharingCall.Held (inputs.filterMap SubscriptionReplayMarketDataSource.sharing) key) := by
  refine ⟨fun shown _ inputs key => final_active shown inputs key,
    fun _ inputs key => SubscriptionReplayMarketDataSource.final_active inputs key,
    fun _ _ _ signalled => active_of_mem_degradations signalled,
    fun _ _ _ polled => SubscriptionReplayMarketDataSource.active_of_polled polled, ?_, ?_⟩
  · intro shown source inputs key inactive leftLast
    rw [final_active, inactive, SharingCall.held_iff_latestSubscribes leftLast]
  · intro source inputs key inactive leftLast
    rw [SubscriptionReplayMarketDataSource.final_active, inactive,
      SharingCall.held_iff_latestSubscribes leftLast]

namespace SharedStream

def bars (subscriberId : String)
    (shown : PythonText.isBlank subscriberId = false := by decide) : LogicalSubscription where
  subscriberId := subscriberId
  instrumentId := apple
  requestedTimeframe := "1m"
  valid := by
    simp [LogicalSubscriptionFields.checks, Check.firstFailure, shown]
    decide

def bar : Bar where
  instrumentId := apple
  startTime := 0
  endTime := 60
  timeframe := "1m"
  sessionId := "session-1"
  openPrice := 10
  high := 10
  low := 10
  close := 10
  isComplete := true
  valid := by decide +kernel

def streamingInputs : List Input :=
  [.subscribe (bars "strategy-a") none 0, .subscribe (bars "strategy-b") none 0,
    .unsubscribe (bars "strategy-a") 1]

def replayInputs : List SubscriptionReplayMarketDataSource.Input :=
  [.subscribe (bars "strategy-a") none 0, .subscribe (bars "strategy-b") none 0,
    .unsubscribe (bars "strategy-a") none 1]

def replaySource : SubscriptionReplayMarketDataSource :=
  .start "replay" (Eq.refl false) [bar]

end SharedStream

/-- The second strategy still holds the stream that the first one left, but neither source has it:
its staleness goes unnoticed and its bar is not replayed. -/
theorem left_stream_is_lost :
    (SharingCall.holds (sharingCalls shownKey
          appleSource SharedStream.streamingInputs)
        "strategy-b" (logicalKey (SharedStream.bars "strategy-b")) = true ∧
      (final (step shownKey) appleSource
        SharedStream.streamingInputs).active (logicalKey (SharedStream.bars "strategy-b")) =
          false ∧
      (final (step shownKey) appleSource
        SharedStream.streamingInputs).degradations 1000 = []) ∧
    SharingCall.holds (SharedStream.replayInputs.filterMap
          SubscriptionReplayMarketDataSource.sharing)
        "strategy-b" (logicalKey (SharedStream.bars "strategy-b")) = true ∧
      (final SubscriptionReplayMarketDataSource.step SharedStream.replaySource
        SharedStream.replayInputs).active (logicalKey (SharedStream.bars "strategy-b")) =
          false ∧
      ((final SubscriptionReplayMarketDataSource.step SharedStream.replaySource
        SharedStream.replayInputs).pollNext none).1 = .ok none := by
  refine ⟨⟨?_, ?_, ?_⟩, ?_, ?_, ?_⟩ <;> decide +kernel

end Qts
