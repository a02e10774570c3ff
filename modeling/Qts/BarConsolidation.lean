import Qts.ClockBuckets
import Qts.StreamingMarketDataSource
import Qts.WeekdayWalks

/-!
# Bar consolidation

A consolidator collects complete source bars of one timeframe and emits a bar of a larger
one: for a clock timeframe when its bucket is filled without gaps, for a daily bar when a
bar of another session arrives or a bar reaches the end of the session.
-/

namespace Qts

structure BarFields.WellFormed (bar : BarFields) : Prop where
  ordered : bar.startTime < bar.endTime
  timeframe : PythonText.isBlank bar.timeframe = false
  session : PythonText.isBlank bar.sessionId = false
  high : max bar.openPrice bar.close ≤ bar.high
  low : bar.low ≤ min bar.openPrice bar.close
  volume : 0 ≤ bar.volume
  vwap : ∀ vwap ∈ bar.vwap, 0 ≤ vwap
  openInterest : ∀ interest ∈ bar.openInterest, 0 ≤ interest
  tradeCount : ∀ count ∈ bar.tradeCount, 0 ≤ count

theorem BarFields.wellFormed_iff (bar : BarFields) :
    Check.firstFailure bar.checks = none ↔ bar.WellFormed := by
  rw [Check.firstFailure_none]
  constructor
  · intro passes
    simp only [BarFields.checks, List.forall_mem_cons, decide_eq_false_iff_not, not_le, not_lt,
      requireNonNegative, requireNonNegativeIfGiven, Option.any_eq_false,
      List.not_mem_nil, IsEmpty.forall_iff, implies_true, and_true] at passes
    obtain ⟨ordered, timeframe, session, high, low, -, volume, vwap, openInterest, tradeCount⟩ :=
      passes
    exact ⟨ordered, timeframe, session, high, low, volume, vwap, openInterest, tradeCount⟩
  · rintro ⟨ordered, timeframe, session, high, low, volume, vwap, openInterest, tradeCount⟩
    simp only [BarFields.checks, List.forall_mem_cons, decide_eq_false_iff_not, not_le, not_lt,
      requireNonNegative, requireNonNegativeIfGiven, Option.any_eq_false,
      List.not_mem_nil, IsEmpty.forall_iff, implies_true, and_true]
    have spread : bar.low ≤ bar.high := low.trans (min_le_max.trans high)
    exact ⟨ordered, timeframe, session, high, low, spread, volume, vwap, openInterest, tradeCount⟩

theorem Bar.formed (bar : Bar) : bar.toBarFields.WellFormed :=
  (BarFields.wellFormed_iff _).mp bar.valid

theorem Bar.create_eq {fields : BarFields} (formed : fields.WellFormed) :
    Bar.create fields = .ok ⟨fields, (BarFields.wellFormed_iff _).mpr formed⟩ := by
  have passes := (BarFields.wellFormed_iff _).mpr formed
  unfold Bar.create
  split
  · rfl
  · next message failed =>
    rw [passes] at failed
    cases failed

/-- Resolves a close-date session id to its interval; none if the date is no session. -/
abbrev SessionIntervalSource := String → Except Failure (Option TimeInterval)

structure RegularSessionWindow where
  exchangeTimezone : TimeZone
  openTime : Int
  closeTime : Int
  distinct : openTime ≠ closeTime
  openOfDay : 0 ≤ openTime ∧ openTime < oneDay
  closeOfDay : 0 ≤ closeTime ∧ closeTime < oneDay

def checkedDate (day : Int) : Except Failure Int :=
  if pythonDates.holds day then .ok day else .error (.other "date value out of range")

/-- A time, in UTC or in an exchange zone, that a conversion of datetimes gives. -/
def checkedDateTime (time : Int) : Except Failure Int :=
  if pythonDates.holds (time / oneDay) then .ok time
  else .error (.other "date value out of range")

def RegularSessionWindow.intervalForSessionId (window : RegularSessionWindow)
    (fromIsoFormat : String → Except Failure Int) : SessionIntervalSource :=
  fun sessionId => do
    let sessionDate ← fromIsoFormat sessionId
    let openDate ← if window.openTime < window.closeTime then .ok sessionDate
      else checkedDate (sessionDate - 1)
    let start ← checkedDateTime
      (window.exchangeTimezone.instantOf (openDate * oneDay + window.openTime) false)
    let close ← checkedDateTime
      (window.exchangeTimezone.instantOf (sessionDate * oneDay + window.closeTime) false)
    let interval ← TimeInterval.of start close
    return some interval

def aggregateVwap (bars : List Bar) (totalVolume : Decimal) : Option Decimal :=
  let weighted := bars.filterMap fun bar =>
    (bar.vwap.filter fun _ => decide (0 < bar.volume)).map (· * bar.volume)
  if weighted = [] ∨ totalVolume ≤ 0 then none else some (weighted.sum / totalVolume)

def lastOpenInterest (bars : List Bar) : Option Decimal :=
  bars.reverse.findSome? (·.openInterest)

def sumTradeCount (bars : List Bar) : Option Int :=
  let counts := bars.filterMap (·.tradeCount)
  if counts = [] then none else some counts.sum

def combinedFields (timeframe : Timeframe) (startTime endTime : DateTime) (isPartial : Bool)
    (first : Bar) (rest : List Bar) : BarFields :=
  let totalVolume := ((first :: rest).map (·.volume)).sum
  { instrumentId := first.instrumentId
    startTime, endTime
    timeframe := timeframe.value
    sessionId := first.sessionId
    openPrice := first.openPrice
    high := (rest.map (·.high)).foldl max first.high
    low := (rest.map (·.low)).foldl min first.low
    close := ((first :: rest).getLast (List.cons_ne_nil _ _)).close
    volume := totalVolume
    vwap := aggregateVwap (first :: rest) totalVolume
    openInterest := lastOpenInterest (first :: rest)
    tradeCount := sumTradeCount (first :: rest)
    isComplete := !isPartial
    isPartial }

def contiguous (bars : List Bar) : Bool :=
  (bars.zip bars.tail).all fun pair => decide (pair.1.endTime = pair.2.startTime)

structure NMinuteConsolidator where
  sourceTimeframe : Timeframe
  targetTimeframe : Timeframe
  exchangeTimezone : TimeZone
  sessionWindow : Option SessionIntervalSource
  sessionId : Option String := none
  bucket : Option TimeInterval := none
  bars : List Bar := []

namespace NMinuteConsolidator

def create (sourceTimeframe targetTimeframe : Timeframe) (exchangeTimezone : TimeZone)
    (sessionWindow : Option SessionIntervalSource) : Except Failure NMinuteConsolidator := do
  if sourceTimeframe.alignment ≠ .clock then
    throw (.valueError "source timeframe must be clock-aligned")
  let some sourceDuration := sourceTimeframe.duration
    | throw (.valueError "source timeframe must have a duration")
  if targetTimeframe.alignment = .clock then
    let some targetDuration := targetTimeframe.duration
      | throw (.valueError "target timeframe must have a duration")
    if targetDuration ≤ sourceDuration then
      throw (.valueError "target timeframe must be larger than source timeframe")
    if sourceDuration = 0 then
      throw .divisionByZero
    if targetDuration % sourceDuration ≠ 0 then
      throw (.valueError "target timeframe must be an even multiple of source timeframe")
  return { sourceTimeframe, targetTimeframe, exchangeTimezone, sessionWindow }

variable (consolidator : NMinuteConsolidator)

def sourceChecks (bar : Bar) : List Check :=
  [⟨!bar.isComplete, "source bar must be complete"⟩,
   ⟨bar.isPartial, "source bar must not be partial"⟩,
   ⟨decide (bar.timeframe ≠ consolidator.sourceTimeframe.value),
      "source bar timeframe does not match consolidator source timeframe"⟩,
   ⟨decide (some (bar.endTime - bar.startTime) ≠ consolidator.sourceTimeframe.duration),
      "source bar interval does not match source timeframe"⟩]

def bucketFor (bar : Bar) : Except Failure TimeInterval :=
  clockBucketFor bar.startTime consolidator.targetTimeframe consolidator.exchangeTimezone

/-- The bar continues the collected ones. -/
def sameBucketStream (bucket : TimeInterval) (bar : Bar) : Bool :=
  consolidator.bars.getLast?.any fun last =>
    decide (consolidator.bucket = some bucket ∧ last.instrumentId = bar.instrumentId ∧
      last.sessionId = bar.sessionId)

def stateIsComplete : Bool :=
  match consolidator.bucket, consolidator.bars.head?, consolidator.bars.getLast? with
  | some bucket, some first, some last =>
    decide (first.startTime = bucket.startTime) && decide (last.endTime = bucket.endTime) &&
      contiguous consolidator.bars
  | _, _, _ => false

def aggregate : Except Failure Bar :=
  match consolidator.bucket, consolidator.bars with
  | some bucket, first :: rest =>
    Bar.create (combinedFields consolidator.targetTimeframe bucket.startTime bucket.endTime false
      first rest)
  | _, _ => .error (.runtimeError "cannot aggregate an empty consolidation state")

def collect (bucket : TimeInterval) (bar : Bar) : NMinuteConsolidator :=
  if consolidator.sameBucketStream bucket bar then
    { consolidator with bars := consolidator.bars ++ [bar] }
  else { consolidator with bucket := some bucket, bars := [bar] }

def updateClock (bar : Bar) : Except Failure (List Bar) × NMinuteConsolidator :=
  match consolidator.bucketFor bar with
  | .error failure => (.error failure, consolidator)
  | .ok bucket =>
    let collected := consolidator.collect bucket bar
    if collected.stateIsComplete then
      match collected.aggregate with
      | .error failure => (.error failure, collected)
      | .ok completed => (.ok [completed], { collected with bucket := none, bars := [] })
    else (.ok [], collected)

def sessionInterval : Except Failure (Option TimeInterval) :=
  match consolidator.sessionWindow, consolidator.sessionId with
  | none, _ => .ok none
  | some _, none => .error (.runtimeError "session id is required for daily consolidation")
  | some window, some sessionId => window sessionId

def streamChecks (first : Bar) (bars : List Bar) : List Check :=
  bars.flatMap fun bar =>
    [⟨decide (bar.instrumentId ≠ first.instrumentId),
        "cannot aggregate bars for different instruments"⟩,
     ⟨decide (bar.sessionId ≠ first.sessionId), "cannot aggregate bars for different sessions"⟩]

def sessionIsPartial (startTime endTime : DateTime) (first : Bar) (rest : List Bar) : Bool :=
  decide (first.startTime ≠ startTime) ||
    decide (((first :: rest).getLast (List.cons_ne_nil _ _)).endTime ≠ endTime) ||
    !(first :: rest).all (·.isComplete) || !contiguous (first :: rest)

def aggregateSession : Except Failure Bar :=
  match consolidator.bars with
  | [] => .error (.runtimeError "cannot aggregate an empty daily consolidation state")
  | first :: rest => do
    if let some message := Check.firstFailure (streamChecks first (first :: rest)) then
      throw (.valueError message)
    let interval ← consolidator.sessionInterval
    let startTime := (interval.map (·.startTime)).getD first.startTime
    let endTime := (interval.map (·.endTime)).getD
      ((first :: rest).getLast (List.cons_ne_nil _ _)).endTime
    Bar.create (combinedFields consolidator.targetTimeframe startTime endTime
      (sessionIsPartial startTime endTime first rest) first rest)

def cleared : NMinuteConsolidator :=
  { consolidator with bars := [], sessionId := none }

def takeIn (bar : Bar) : NMinuteConsolidator :=
  { consolidator with
    sessionId := if consolidator.bars = [] then some bar.sessionId else consolidator.sessionId
    bars := consolidator.bars ++ [bar] }

def closeSession (bar : Bar) (completed : List Bar) :
    Except Failure (List Bar) × NMinuteConsolidator :=
  match consolidator.sessionInterval with
  | .error failure => (.error failure, consolidator)
  | .ok none => (.ok completed, consolidator)
  | .ok (some interval) =>
    if interval.endTime ≤ bar.endTime then
      match consolidator.aggregateSession with
      | .error failure => (.error failure, consolidator)
      | .ok daily => (.ok (completed ++ [daily]), consolidator.cleared)
    else (.ok completed, consolidator)

def updateSession (bar : Bar) : Except Failure (List Bar) × NMinuteConsolidator :=
  if consolidator.bars ≠ [] ∧ consolidator.sessionId ≠ some bar.sessionId then
    match consolidator.aggregateSession with
    | .error failure => (.error failure, consolidator)
    | .ok daily => (consolidator.cleared.takeIn bar).closeSession bar [daily]
  else (consolidator.takeIn bar).closeSession bar []

/-- Process one completed source bar and emit complete derived bars. -/
def update (bar : Bar) : Except Failure (List Bar) × NMinuteConsolidator :=
  match Check.firstFailure (consolidator.sourceChecks bar) with
  | some message => (.error (.valueError message), consolidator)
  | none =>
    match consolidator.targetTimeframe.alignment with
    | .session => consolidator.updateSession bar
    | .clock => consolidator.updateClock bar

end NMinuteConsolidator

/-- What one consolidator is kept for. -/
structure AggregationKey where
  instrumentId : InstrumentId
  sessionId : String
  sourceTimeframe : String
  targetTimeframe : String
deriving DecidableEq

/-- Owns the consolidation state of the runtime's market-data streams. -/
structure BarAggregationPipeline where
  exchangeTimezone : TimeZone
  sessionWindow : Option SessionIntervalSource := none
  consolidators : Dict AggregationKey NMinuteConsolidator := .empty

namespace BarAggregationPipeline

def aggregationKey (bar : Bar) (sourceTimeframe targetTimeframe : Timeframe) : AggregationKey :=
  ⟨bar.instrumentId, bar.sessionId, sourceTimeframe.value, targetTimeframe.value⟩

variable (pipeline : BarAggregationPipeline)

/-- The consolidator that owns one stream, which is created for its first bar. -/
def consolidatorFor (key : AggregationKey) (sourceTimeframe targetTimeframe : Timeframe) :
    Except Failure NMinuteConsolidator :=
  match pipeline.consolidators.get? key with
  | some consolidator => .ok consolidator
  | none => NMinuteConsolidator.create sourceTimeframe targetTimeframe pipeline.exchangeTimezone
      pipeline.sessionWindow

def aggregate (bar : Bar) (targetTimeframe : Timeframe) :
    Except Failure (List Bar) × BarAggregationPipeline :=
  match Timeframe.parse bar.timeframe with
  | .error failure => (.error failure, pipeline)
  | .ok sourceTimeframe =>
    let key := aggregationKey bar sourceTimeframe targetTimeframe
    match pipeline.consolidatorFor key sourceTimeframe targetTimeframe with
    | .error failure => (.error failure, pipeline)
    | .ok consolidator =>
      let updated := consolidator.update bar
      (updated.1, { pipeline with consolidators := pipeline.consolidators.set key updated.2 })

end BarAggregationPipeline

end Qts
