import Qts.AggregateVwap
import Qts.KeyedRuns

/-! # Merged fields -/

namespace Qts

open KeyedRuns List

theorem max?_append (first second : List Decimal) :
    (first ++ second).max? = Option.merge max first.max? second.max? := by
  induction first with
  | nil => cases known : second.max? <;> simp [Option.merge, known]
  | cons value first ih =>
    rw [cons_append, max?_cons, max?_cons, ih]
    cases first.max? <;> cases second.max? <;> simp [Option.merge, max_assoc]

theorem min?_append (first second : List Decimal) :
    (first ++ second).min? = Option.merge min first.min? second.min? := by
  induction first with
  | nil => cases known : second.min? <;> simp [Option.merge, known]
  | cons value first ih =>
    rw [cons_append, min?_cons, min?_cons, ih]
    cases first.min? <;> cases second.min? <;> simp [Option.merge, min_assoc]

theorem lastOpenInterest_append (first second : List Bar) :
    lastOpenInterest (first ++ second) =
      (lastOpenInterest second).or (lastOpenInterest first) := by
  unfold lastOpenInterest
  rw [reverse_append, findSome?_append]

theorem lastOpenInterest_singleton (bar : Bar) : lastOpenInterest [bar] = bar.openInterest := by
  unfold lastOpenInterest
  cases shown : bar.openInterest <;> simp [shown]

theorem sumTradeCount_append (first second : List Bar) :
    sumTradeCount (first ++ second) =
      Option.merge (· + ·) (sumTradeCount first) (sumTradeCount second) := by
  unfold sumTradeCount
  dsimp only
  rw [filterMap_append]
  cases first.filterMap (·.tradeCount) with
  | nil => cases second.filterMap (·.tradeCount) <;> simp [Option.merge]
  | cons count counts =>
    cases second.filterMap (·.tradeCount) <;> simp [Option.merge, sum_append, add_assoc]

theorem sumTradeCount_singleton (bar : Bar) : sumTradeCount [bar] = bar.tradeCount := by
  unfold sumTradeCount
  cases shown : bar.tradeCount <;> simp [shown]

section Combined

variable {group : List Bar} {bar : Bar}

section

variable (combines : Combines group bar)

include combines

theorem Combines.headFields :
    group.head?.map (fun source => (source.instrumentId, source.sessionId, source.openPrice)) =
      some (bar.instrumentId, bar.sessionId, bar.openPrice) := by
  obtain ⟨first, rest, timeframe, startTime, endTime, isPartial, rfl, fields⟩ := combines
  rw [fields]
  rfl

theorem Combines.closes : group.getLast?.map (·.close) = some bar.close := by
  obtain ⟨first, rest, timeframe, startTime, endTime, isPartial, rfl, fields⟩ := combines
  rw [fields, getLast?_eq_some_getLast (cons_ne_nil first rest)]
  rfl

theorem Combines.highest : (group.map (·.high)).max? = some bar.high := by
  obtain ⟨first, rest, timeframe, startTime, endTime, isPartial, rfl, fields⟩ := combines
  rw [fields]
  rfl

theorem Combines.lowest : (group.map (·.low)).min? = some bar.low := by
  obtain ⟨first, rest, timeframe, startTime, endTime, isPartial, rfl, fields⟩ := combines
  rw [fields]
  rfl

theorem Combines.volume : (group.map (·.volume)).sum = bar.volume := by
  obtain ⟨first, rest, timeframe, startTime, endTime, isPartial, rfl, fields⟩ := combines
  rw [fields]
  rfl

theorem Combines.openInterest : lastOpenInterest group = bar.openInterest := by
  obtain ⟨first, rest, timeframe, startTime, endTime, isPartial, rfl, fields⟩ := combines
  rw [fields]
  rfl

theorem Combines.tradeCount : sumTradeCount group = bar.tradeCount := by
  obtain ⟨first, rest, timeframe, startTime, endTime, isPartial, rfl, fields⟩ := combines
  rw [fields]
  rfl

theorem Combines.vwap : aggregateVwap group (group.map (·.volume)).sum = bar.vwap := by
  obtain ⟨first, rest, timeframe, startTime, endTime, isPartial, rfl, fields⟩ := combines
  rw [fields]
  rfl

theorem Combines.weighs_iff : Weighs bar ↔ ∃ source ∈ group, Weighs source := by
  have average := combines.vwap
  rw [aggregateVwap_eq] at average
  by_cases weighed : ∃ source ∈ group, Weighs source
  · refine iff_of_true ⟨?_, ?_⟩ weighed
    · rw [← average, if_pos weighed]
      rfl
    · rw [← combines.volume]
      exact totalVolume_pos weighed
  · refine iff_of_false ?_ weighed
    rintro ⟨given, -⟩
    rw [← average, if_neg weighed] at given
    cases given

theorem Combines.tradedValue : (group.map tradedValue).sum = tradedValue bar := by
  have average := combines.vwap
  rw [aggregateVwap_eq] at average
  unfold Qts.tradedValue
  by_cases weighed : ∃ source ∈ group, Weighs source
  · have pos := totalVolume_pos weighed
    rw [if_pos weighed] at average
    rw [if_pos (combines.weighs_iff.mpr weighed), ← average, ← combines.volume, Option.getD_some]
    exact (div_mul_cancel₀ _ pos.ne').symm
  · rw [if_neg (combines.weighs_iff.not.mpr weighed)]
    refine sum_eq_zero ?_
    intro value mem
    obtain ⟨source, inGroup, rfl⟩ := mem_map.mp mem
    exact if_neg fun weighs => weighed ⟨source, inGroup, weighs⟩

end

end Combined

section Pieces

variable {groups : List (List Bar)} {bars : List Bar}
  (combined : Forall₂ Combines groups bars)

include combined

theorem headFields_flatten :
    groups.flatten.head?.map (fun source =>
        (source.instrumentId, source.sessionId, source.openPrice)) =
      bars.head?.map fun source => (source.instrumentId, source.sessionId, source.openPrice) := by
  refine measure_flatten (fun bars => bars.head?.map fun source =>
    (source.instrumentId, source.sessionId, source.openPrice)) Option.or ?_ ?_ combined
  · intro first second
    rw [head?_append, Option.map_or]
  · intro group bar combines
    exact combines.headFields

theorem closes_flatten : groups.flatten.getLast?.map (·.close) = bars.getLast?.map (·.close) := by
  refine measure_flatten (fun bars => bars.getLast?.map (·.close))
    (fun first second => Option.or second first) ?_ ?_ combined
  · intro first second
    rw [getLast?_append, Option.map_or]
  · intro group bar combines
    exact combines.closes

theorem highest_flatten : (groups.flatten.map (·.high)).max? = (bars.map (·.high)).max? := by
  refine measure_flatten (fun bars => (bars.map (·.high)).max?) (Option.merge max) ?_ ?_ combined
  · intro first second
    rw [map_append, max?_append]
  · intro group bar combines
    exact combines.highest

theorem lowest_flatten : (groups.flatten.map (·.low)).min? = (bars.map (·.low)).min? := by
  refine measure_flatten (fun bars => (bars.map (·.low)).min?) (Option.merge min) ?_ ?_ combined
  · intro first second
    rw [map_append, min?_append]
  · intro group bar combines
    exact combines.lowest

theorem volume_flatten : (groups.flatten.map (·.volume)).sum = (bars.map (·.volume)).sum := by
  refine measure_flatten (fun bars => (bars.map (·.volume)).sum) (· + ·) ?_ ?_ combined
  · intro first second
    rw [map_append, sum_append]
  · intro group bar combines
    simpa using combines.volume

theorem tradedValue_flatten :
    (groups.flatten.map tradedValue).sum = (bars.map tradedValue).sum := by
  refine measure_flatten (fun bars => (bars.map tradedValue).sum) (· + ·) ?_ ?_ combined
  · intro first second
    rw [map_append, sum_append]
  · intro group bar combines
    simpa using combines.tradedValue

theorem weighs_flatten : (∃ bar ∈ groups.flatten, Weighs bar) = ∃ bar ∈ bars, Weighs bar := by
  refine measure_flatten (fun bars => ∃ bar ∈ bars, Weighs bar) Or ?_ ?_ combined
  · intro first second
    simp only [mem_append, or_and_right, exists_or]
  · intro group bar combines
    simpa using combines.weighs_iff.symm

theorem openInterest_flatten : lastOpenInterest groups.flatten = lastOpenInterest bars := by
  refine measure_flatten lastOpenInterest (fun first second => Option.or second first)
    lastOpenInterest_append ?_ combined
  intro group bar combines
  rw [lastOpenInterest_singleton, combines.openInterest]

theorem tradeCount_flatten : sumTradeCount groups.flatten = sumTradeCount bars := by
  refine measure_flatten sumTradeCount (Option.merge (· + ·)) sumTradeCount_append ?_ combined
  intro group bar combines
  rw [sumTradeCount_singleton, combines.tradeCount]

theorem vwap_flatten :
    aggregateVwap groups.flatten (groups.flatten.map (·.volume)).sum =
      aggregateVwap bars (bars.map (·.volume)).sum := by
  rw [aggregateVwap_eq, aggregateVwap_eq, tradedValue_flatten combined, volume_flatten combined]
  exact if_congr (iff_of_eq (weighs_flatten combined)) rfl rfl

end Pieces

theorem combinedFields_flatten {groups : List (List Bar)} {first head : Bar} {rest tail : List Bar}
    (combined : Forall₂ Combines groups (head :: tail)) (joined : groups.flatten = first :: rest)
    (timeframe : Timeframe) (startTime endTime : DateTime) (isPartial : Bool) :
    combinedFields timeframe startTime endTime isPartial head tail =
      combinedFields timeframe startTime endTime isPartial first rest := by
  have heads := headFields_flatten combined
  have closes := closes_flatten combined
  have highest := highest_flatten combined
  have lowest := lowest_flatten combined
  have volume := volume_flatten combined
  have vwap := vwap_flatten combined
  have openInterest := openInterest_flatten combined
  have tradeCount := tradeCount_flatten combined
  rw [joined] at heads closes highest lowest volume vwap openInterest tradeCount
  rw [volume] at vwap
  rw [getLast?_eq_some_getLast (cons_ne_nil _ _),
    getLast?_eq_some_getLast (cons_ne_nil _ _)] at closes
  simp only [head?_cons, Option.map_some, Option.some.injEq, Prod.mk.injEq] at heads closes
  have high : (rest.map (·.high)).foldl max first.high = (tail.map (·.high)).foldl max head.high :=
    Option.some.inj highest
  have low : (rest.map (·.low)).foldl min first.low = (tail.map (·.low)).foldl min head.low :=
    Option.some.inj lowest
  simp only [combinedFields, heads, closes, high, low, volume, vwap, openInterest, tradeCount]

end Qts
