import Qts.BarConsolidation

/-! # Bar aggregation -/

namespace Qts

/-- A half-open exchange session. -/
structure MarketSession where
  interval : TimeInterval

namespace MarketSession

variable (session : MarketSession)

def openTime : DateTime :=
  session.interval.startTime

def closeTime : DateTime :=
  session.interval.endTime

end MarketSession

structure AggregationState where
  bucket : TimeInterval
  naturalBucketEnd : DateTime
  targetTimeframe : Timeframe
  bars : List Bar

def AggregationState.aggregateEnd (state : AggregationState) : DateTime :=
  state.bucket.endTime

def barInsideSession (bar : Bar) (session : MarketSession) : Bool :=
  decide (session.interval.startTime ≤ bar.startTime ∧ bar.startTime < session.interval.endTime) &&
    decide (bar.endTime ≤ session.closeTime)

def sameStreamBucket (left right : AggregationState) : Bool :=
  match left.bars.getLast?, right.bars.getLast? with
  | some leftBar, some rightBar =>
    decide (left.bucket = right.bucket) &&
      decide (leftBar.instrumentId = rightBar.instrumentId) &&
      decide (leftBar.sessionId = rightBar.sessionId)
  | _, _ => false

def aggregateState (state : AggregationState) : Except Failure Bar :=
  match state.bars with
  | [] => .error (.valueError "cannot aggregate an empty bucket")
  | first :: rest => do
    if let some message :=
        Check.firstFailure (NMinuteConsolidator.streamChecks first (first :: rest)) then
      throw (.valueError message)
    let last := (first :: rest).getLast (List.cons_ne_nil _ _)
    let isPartial :=
      decide (first.startTime ≠ state.bucket.startTime) ||
        decide (last.endTime < state.aggregateEnd) ||
        decide (state.aggregateEnd ≠ state.naturalBucketEnd) ||
        !(first :: rest).all (·.isComplete)
    Bar.create (combinedFields state.targetTimeframe state.bucket.startTime state.aggregateEnd
      isPartial first rest)

structure BarAggregator where
  targetTimeframe : Timeframe
  exchangeTimezone : TimeZone
  session : Option MarketSession := none
  state : Option AggregationState := none

namespace BarAggregator

def create (targetTimeframe : Timeframe) (exchangeTimezone : TimeZone)
    (session : Option MarketSession) : Except Failure BarAggregator :=
  if targetTimeframe.alignment ≠ .clock then
    .error (.valueError "BarAggregator currently supports clock-aligned timeframes")
  else .ok { targetTimeframe, exchangeTimezone, session }

variable (aggregator : BarAggregator)

def newStateFor (bar : Bar) : Except Failure AggregationState := do
  let bucket ←
    clockBucketFor bar.startTime aggregator.targetTimeframe aggregator.exchangeTimezone
  let aggregateEnd := match aggregator.session with
    | none => bucket.endTime
    | some session => if session.closeTime < bucket.endTime then session.closeTime
      else bucket.endTime
  let clamped ← TimeInterval.of bucket.startTime aggregateEnd
  return {
    bucket := clamped
    naturalBucketEnd := bucket.endTime
    targetTimeframe := aggregator.targetTimeframe
    bars := [bar] }

def takeIn (incoming : AggregationState) : Except Failure (List Bar × AggregationState) :=
  match aggregator.state with
  | none => .ok ([], incoming)
  | some state =>
    if sameStreamBucket state incoming then
      .ok ([], { state with bars := state.bars ++ incoming.bars })
    else do
      let closed ← aggregateState state
      return ([closed], incoming)

def reachesEnd (state : AggregationState) : Bool :=
  state.bars.getLast?.any fun last => decide (state.aggregateEnd ≤ last.endTime)

/-- Add a lower-timeframe bar; the completed bars are emitted. -/
def update (bar : Bar) : Except Failure (List Bar) × BarAggregator :=
  if aggregator.session.any fun session => !barInsideSession bar session then
    (.ok [], aggregator)
  else
    match aggregator.newStateFor bar with
    | .error failure => (.error failure, aggregator)
    | .ok incoming =>
      match aggregator.takeIn incoming with
      | .error failure => (.error failure, aggregator)
      | .ok (completed, state) =>
        if reachesEnd state then
          match aggregateState state with
          | .error failure => (.error failure, { aggregator with state := some state })
          | .ok closed => (.ok (completed ++ [closed]), { aggregator with state := none })
        else (.ok completed, { aggregator with state := some state })

/-- Flush the bucket in progress. -/
def finish : Except Failure (List Bar) × BarAggregator :=
  match aggregator.state with
  | none => (.ok [], aggregator)
  | some state =>
    match aggregateState state with
    | .error failure => (.error failure, aggregator)
    | .ok completed => (.ok [completed], { aggregator with state := none })

end BarAggregator

def streamKey (bar : Bar) : Lex (String × DateTime) :=
  toLex (bar.instrumentId.value, bar.startTime)

def sortedByStream (bars : List Bar) : List Bar :=
  bars.insertionSort fun first second => streamKey first ≤ streamKey second

abbrev Aggregation := List Bar × Dict InstrumentId BarAggregator

def aggregateEach (targetTimeframe : Timeframe) (exchangeTimezone : TimeZone)
    (session : Option MarketSession) :
    List Bar → Aggregation → Except Failure Aggregation
  | [], aggregation => .ok aggregation
  | bar :: bars, (aggregated, aggregators) => do
    let fresh ← BarAggregator.create targetTimeframe exchangeTimezone session
    let updated := ((aggregators.get? bar.instrumentId).getD fresh).update bar
    let completed ← updated.1
    aggregateEach targetTimeframe exchangeTimezone session bars
      (aggregated ++ completed, aggregators.set bar.instrumentId updated.2)

def finishEach : List BarAggregator → Except Failure (List Bar)
  | [] => .ok []
  | aggregator :: aggregators => do
    let completed ← aggregator.finish.1
    let later ← finishEach aggregators
    return completed ++ later

def aggregateBars (bars : List Bar) (targetTimeframe : Timeframe) (exchangeTimezone : TimeZone)
    (session : Option MarketSession) : Except Failure (List Bar) := do
  let (aggregated, aggregators) ← aggregateEach targetTimeframe exchangeTimezone session
    (sortedByStream bars) ([], .empty)
  let flushed ← finishEach aggregators.values
  return sortedByStream (aggregated ++ flushed)

end Qts
