import Qts.BarAggregators
import Qts.DailySessions
import Mathlib.Algebra.BigOperators.Ring.List
import Mathlib.Algebra.Order.Field.Basic

/-! # The average price of an aggregate -/

namespace Qts

open NMinuteConsolidator List Option

/-- A bar that is weighed: it has an average price and a volume. -/
def Weighs (bar : Bar) : Prop :=
  bar.vwap.isSome ∧ 0 < bar.volume

instance (bar : Bar) : Decidable (Weighs bar) :=
  inferInstanceAs (Decidable (bar.vwap.isSome ∧ 0 < bar.volume))

/-- What a weighed bar adds to the sum above the line. -/
def tradedValue (bar : Bar) : Decimal :=
  if Weighs bar then bar.vwap.getD 0 * bar.volume else 0

variable (bars : List Bar)

theorem weighted_eq :
    (bars.filterMap fun bar =>
      (bar.vwap.filter fun _ => decide (0 < bar.volume)).map (· * bar.volume)) =
      (bars.filter fun bar => Weighs bar).map tradedValue := by
  induction bars with
  | nil => rfl
  | cons bar bars ih =>
    rw [filterMap_cons, ih]
    by_cases weighs : Weighs bar
    · obtain ⟨given, pos⟩ := weighs
      obtain ⟨price, priced⟩ := isSome_iff_exists.mp given
      simp [Weighs, tradedValue, Option.filter, priced, pos]
    · have skipped : (bar.vwap.filter fun _ => decide (0 < bar.volume)) = none := by
        cases priced : bar.vwap with
        | none => rfl
        | some price =>
          have idle : ¬ 0 < bar.volume := fun pos => weighs ⟨by simp [priced], pos⟩
          simp [Option.filter, idle]
      simp [weighs, skipped]

theorem sum_tradedValue :
    ((bars.filter fun bar => Weighs bar).map tradedValue).sum = (bars.map tradedValue).sum := by
  induction bars with
  | nil => rfl
  | cons bar bars ih =>
    by_cases weighs : Weighs bar
    · simp [weighs, ih]
    · simp [weighs, ih, tradedValue]

theorem totalVolume_pos {bars : List Bar} (weighed : ∃ bar ∈ bars, Weighs bar) :
    0 < (bars.map (·.volume)).sum := by
  obtain ⟨bar, mem, -, pos⟩ := weighed
  have least : bar.volume ≤ (bars.map (·.volume)).sum := by
    apply single_le_sum _ _ (mem_map_of_mem mem)
    intro volume inside
    obtain ⟨other, -, rfl⟩ := mem_map.mp inside
    exact other.formed.volume
  exact pos.trans_le least

theorem aggregateVwap_eq :
    aggregateVwap bars (bars.map (·.volume)).sum =
      if ∃ bar ∈ bars, Weighs bar then
        some ((bars.map tradedValue).sum / (bars.map (·.volume)).sum)
      else none := by
  have empty : ((bars.filter fun bar => Weighs bar).map tradedValue) = [] ↔
      ¬ ∃ bar ∈ bars, Weighs bar := by
    simp [filter_eq_nil_iff]
  unfold aggregateVwap
  dsimp only
  rw [weighted_eq, sum_tradedValue]
  by_cases weighed : ∃ bar ∈ bars, Weighs bar
  · have pos := totalVolume_pos weighed
    rw [if_pos weighed, if_neg]
    rintro (none | idle)
    · exact empty.mp none weighed
    · exact absurd pos (not_lt.mpr idle)
  · rw [if_neg weighed, if_pos (.inl (empty.mpr weighed))]

/-- The average price, if there is one, lies between the low and the high. -/
def VwapInside (bar : BarFields) : Prop :=
  ∀ vwap ∈ bar.vwap, bar.low ≤ vwap ∧ vwap ≤ bar.high

def lowestLow (bars : List Bar) : Decimal :=
  (bars.map (·.low)).min?.getD 0

def surplus (price : Decimal) (bar : Bar) : Decimal :=
  if Weighs bar then (bar.vwap.getD 0 - price) * bar.volume else 0

def unweighedVolume (bar : Bar) : Decimal :=
  if Weighs bar then 0 else bar.volume

/-- No bar is weighed, or what the weighed bars trade above the lowest low makes up for the
volume of the bars that have no average price. -/
def LowCovered (bars : List Bar) : Prop :=
  (∃ bar ∈ bars, Weighs bar) →
    lowestLow bars * (bars.map unweighedVolume).sum ≤ (bars.map (surplus (lowestLow bars))).sum

theorem sum_tradedValue_sub (price : Decimal) (bars : List Bar) :
    (bars.map tradedValue).sum - price * (bars.map (·.volume)).sum =
      (bars.map (surplus price)).sum - price * (bars.map unweighedVolume).sum := by
  induction bars with
  | nil => simp
  | cons bar bars ih =>
    have here : tradedValue bar - price * bar.volume =
        surplus price bar - price * unweighedVolume bar := by
      unfold tradedValue surplus unweighedVolume
      split
      · ring
      · ring
    simp only [map_cons, sum_cons]
    linarith

theorem sum_tradedValue_le {bars : List Bar} {high : Decimal}
    (inside : ∀ bar ∈ bars, VwapInside bar.toBarFields) (highest : ∀ bar ∈ bars, bar.high ≤ high)
    (nonneg : 0 ≤ high) : (bars.map tradedValue).sum ≤ high * (bars.map (·.volume)).sum := by
  rw [← sum_map_mul_left]
  apply sum_le_sum
  intro bar mem
  unfold tradedValue
  split
  · next weighs =>
    obtain ⟨price, given⟩ := isSome_iff_exists.mp weighs.1
    have bounds := inside bar mem price given
    rw [given, getD_some]
    exact mul_le_mul_of_nonneg_right (bounds.2.trans (highest bar mem)) weighs.2.le
  · exact mul_nonneg nonneg bar.formed.volume

theorem combinedFields_vwapInside_iff {timeframe : Timeframe} {startTime endTime : DateTime}
    {isPartial : Bool} {first : Bar} {rest : List Bar}
    (inside : ∀ bar ∈ first :: rest, VwapInside bar.toBarFields) :
    VwapInside (combinedFields timeframe startTime endTime isPartial first rest) ↔
      LowCovered (first :: rest) := by
  have average : (combinedFields timeframe startTime endTime isPartial first rest).vwap =
      _ := aggregateVwap_eq (first :: rest)
  have low : (combinedFields timeframe startTime endTime isPartial first rest).low =
      lowestLow (first :: rest) := rfl
  unfold VwapInside LowCovered
  rw [average, low]
  by_cases weighed : ∃ bar ∈ first :: rest, Weighs bar
  · have pos := totalVolume_pos weighed
    have highest := (high_spec first rest).2
    have nonneg : 0 ≤ (rest.map (·.high)).foldl max first.high := by
      obtain ⟨bar, mem, given, -⟩ := weighed
      obtain ⟨price, priced⟩ := isSome_iff_exists.mp given
      calc (0 : Decimal) ≤ price := bar.formed.vwap price priced
        _ ≤ bar.high := (inside bar mem price priced).2
        _ ≤ _ := highest bar mem
    have below := sum_tradedValue_le inside highest nonneg
    have split := sum_tradedValue_sub (lowestLow (first :: rest)) (first :: rest)
    rw [if_pos weighed]
    constructor
    · intro bounds _
      have atLeast := (le_div_iff₀ pos).mp (bounds _ rfl).1
      linarith
    · rintro covered _ ⟨⟩
      have atLeast := covered weighed
      exact ⟨(le_div_iff₀ pos).mpr (by linarith), (div_le_iff₀ pos).mpr below⟩
  · rw [if_neg weighed]
    constructor
    · exact fun _ some => absurd some weighed
    · rintro _ _ ⟨⟩

variable {bar : Bar}

theorem create_fields {fields : BarFields} (created : Bar.create fields = .ok bar) :
    bar.toBarFields = fields := by
  unfold Bar.create at created
  split at created
  · cases created
    rfl
  · cases created

/-- A bar combines some source bars over an interval. -/
def Combines (bars : List Bar) (bar : Bar) : Prop :=
  ∃ first rest timeframe startTime endTime isPartial, bars = first :: rest ∧
    bar.toBarFields = combinedFields timeframe startTime endTime isPartial first rest

theorem aggregateState_combines {state : AggregationState}
    (aggregated : aggregateState state = .ok bar) : Combines state.bars bar := by
  unfold aggregateState at aggregated
  split at aggregated
  · cases aggregated
  · next first rest taken =>
    cases checked : Check.firstFailure (streamChecks first (first :: rest)) with
    | some msg =>
      rw [checked] at aggregated
      cases aggregated
    | none =>
      rw [checked] at aggregated
      exact ⟨first, rest, _, _, _, _, taken, create_fields aggregated⟩

theorem aggregate_combines {consolidator : NMinuteConsolidator}
    (aggregated : consolidator.aggregate = .ok bar) : Combines consolidator.bars bar := by
  unfold aggregate at aggregated
  split at aggregated
  · next bucket first rest _ taken =>
    exact ⟨first, rest, _, _, _, _, taken, create_fields aggregated⟩
  · cases aggregated

theorem aggregateSession_combines {consolidator : NMinuteConsolidator}
    (aggregated : consolidator.aggregateSession = .ok bar) : Combines consolidator.bars bar := by
  unfold aggregateSession at aggregated
  split at aggregated
  · cases aggregated
  · next first rest taken =>
    cases checked : Check.firstFailure (streamChecks first (first :: rest)) with
    | some msg =>
      rw [checked] at aggregated
      cases aggregated
    | none =>
      rw [checked] at aggregated
      obtain ⟨interval, -, aggregated⟩ := bind_inv aggregated
      exact ⟨first, rest, _, _, _, _, taken, create_fields aggregated⟩

/-- Where the average prices of the source bars lie inside their bars, the aggregator and the
consolidator emit an average price inside the aggregate exactly when the low is covered. -/
theorem aggregate_vwapInside_iff {bars : List Bar}
    (inside : ∀ bar ∈ bars, VwapInside bar.toBarFields) :
    (∀ state : AggregationState, state.bars = bars → ∀ bar, aggregateState state = .ok bar →
      (VwapInside bar.toBarFields ↔ LowCovered bars)) ∧
    ∀ consolidator : NMinuteConsolidator, consolidator.bars = bars → ∀ bar,
      consolidator.aggregate = .ok bar ∨ consolidator.aggregateSession = .ok bar →
        (VwapInside bar.toBarFields ↔ LowCovered bars) := by
  have combined : ∀ bar, Combines bars bar → (VwapInside bar.toBarFields ↔ LowCovered bars) := by
    rintro bar ⟨first, rest, timeframe, startTime, endTime, isPartial, rfl, fields⟩
    rw [fields]
    exact combinedFields_vwapInside_iff inside
  constructor
  · rintro state rfl bar aggregated
    exact combined bar (aggregateState_combines aggregated)
  · rintro consolidator rfl bar (aggregated | aggregated)
    · exact combined bar (aggregate_combines aggregated)
    · exact combined bar (aggregateSession_combines aggregated)

namespace TwoSessions

def pricedMinute : Bar where
  toBarFields := { firstMinute.toBarFields with vwap := some 101 }
  valid := by decide +kernel

def twoMinutes (first second : Bar) : AggregationState where
  bucket := ⟨20592 * oneDay, 20592 * oneDay + 120 * oneSecond, twoMinutes_ordered⟩
  naturalBucketEnd := 20592 * oneDay + 120 * oneSecond
  targetTimeframe := ⟨"2m", some (120 * oneSecond), .clock⟩
  bars := [first, second]

def collectedMinutes (first second : Bar) : NMinuteConsolidator where
  sourceTimeframe := oneMinute
  targetTimeframe := ⟨"2m", some (120 * oneSecond), .clock⟩
  exchangeTimezone := utc
  sessionWindow := none
  bucket := some ⟨20592 * oneDay, 20592 * oneDay + 120 * oneSecond, twoMinutes_ordered⟩
  bars := [first, second]

theorem twoMinutes_inside : ∀ bar ∈ [pricedMinute, secondMinute], VwapInside bar.toBarFields := by
  intro bar mem
  simp only [mem_cons, not_mem_nil, or_false] at mem
  rcases mem with rfl | rfl
  · rintro _ ⟨⟩
    exact ⟨by decide +kernel, by decide +kernel⟩
  · rintro _ ⟨⟩

/-- A minute without trades has no average price. -/
def quietMinute : Bar where
  toBarFields := { secondMinute.toBarFields with volume := 0 }
  valid := by decide +kernel

/-- A minute with an average price and a quiet one without aggregate to an average in range, in
the aggregator and in the consolidator. -/
theorem aggregate_vwapInside_iff_quietMinute :
    (∃ bar, aggregateState (twoMinutes pricedMinute quietMinute) = .ok bar ∧
      VwapInside bar.toBarFields) ∧
    ∃ bar, (collectedMinutes pricedMinute quietMinute).aggregate = .ok bar ∧
      VwapInside bar.toBarFields := by
  have inside : ∀ bar ∈ [pricedMinute, quietMinute], VwapInside bar.toBarFields := by
    intro bar mem
    simp only [mem_cons, not_mem_nil, or_false] at mem
    rcases mem with rfl | rfl
    · exact twoMinutes_inside _ mem_cons_self
    · rintro _ ⟨⟩
  have covered : LowCovered [pricedMinute, quietMinute] := fun _ => by decide +kernel
  obtain ⟨aggregator, consolidator⟩ := aggregate_vwapInside_iff inside
  constructor
  · cases aggregated : aggregateState (twoMinutes pricedMinute quietMinute) with
    | error failure =>
      have succeeds : (aggregateState (twoMinutes pricedMinute quietMinute)).isOk = true := by
        decide +kernel
      rw [aggregated] at succeeds
      cases succeeds
    | ok bar => exact ⟨bar, rfl, (aggregator _ rfl bar aggregated).mpr covered⟩
  · cases aggregated : (collectedMinutes pricedMinute quietMinute).aggregate with
    | error failure =>
      have succeeds : (collectedMinutes pricedMinute quietMinute).aggregate.isOk = true := by
        decide +kernel
      rw [aggregated] at succeeds
      cases succeeds
    | ok bar => exact ⟨bar, rfl, (consolidator _ rfl bar (.inl aggregated)).mpr covered⟩

theorem outside_of_shown {emitted : Except Failure Bar} (aggregated : emitted = .ok bar)
    (shown : emitted.toOption.map (fun bar => (bar.low, bar.vwap)) = some (99, some (101 / 2))) :
    ¬ VwapInside bar.toBarFields := by
  subst aggregated
  obtain ⟨low, average⟩ := Prod.mk.inj (Option.some.inj shown)
  intro inside
  have bounds := inside (101 / 2) average
  rw [low] at bounds
  exact absurd bounds.1 (by norm_num)

/-- Ten shares, five of them at 101, average 50.5, below every low. -/
theorem bars_without_vwap_lower_it :
    (¬ ∀ (state : AggregationState) (bar : Bar),
      (∀ source ∈ state.bars, VwapInside source.toBarFields) → aggregateState state = .ok bar →
      VwapInside bar.toBarFields) ∧
    ¬ ∀ (consolidator : NMinuteConsolidator) (bar : Bar),
      (∀ source ∈ consolidator.bars, VwapInside source.toBarFields) →
      consolidator.aggregate = .ok bar → VwapInside bar.toBarFields := by
  constructor
  · intro always
    have shown : (aggregateState (twoMinutes pricedMinute secondMinute)).toOption.map
        (fun bar => (bar.low, bar.vwap)) = some (99, some (101 / 2)) := by decide +kernel
    cases emitted : aggregateState (twoMinutes pricedMinute secondMinute) with
    | error failure =>
      rw [emitted] at shown
      cases shown
    | ok bar => exact outside_of_shown emitted shown (always _ bar twoMinutes_inside emitted)
  · intro always
    have shown : (collectedMinutes pricedMinute secondMinute).aggregate.toOption.map
        (fun bar => (bar.low, bar.vwap)) = some (99, some (101 / 2)) := by decide +kernel
    cases emitted : (collectedMinutes pricedMinute secondMinute).aggregate with
    | error failure =>
      rw [emitted] at shown
      cases shown
    | ok bar => exact outside_of_shown emitted shown (always _ bar twoMinutes_inside emitted)

end TwoSessions

end Qts
