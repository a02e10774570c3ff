import Qts.RollingWindows

/-! # Supertrend -/

namespace Qts

/-- Supertrend output for a completed bar update. -/
structure SupertrendValue where
  value : Decimal
  direction : Int
  upperBand : Decimal
  lowerBand : Decimal
deriving DecidableEq

/-- ATR-band trend indicator with bullish/bearish direction state. -/
structure Supertrend where
  multiplier : Decimal
  nonneg : 0 ≤ multiplier
  atr : AverageTrueRange
  previousClose : Option Decimal := none
  finalUpperBand : Option Decimal := none
  finalLowerBand : Option Decimal := none
  direction : Option Int := none
  value : Option SupertrendValue := none

namespace Supertrend

variable (supertrend : Supertrend)

def finalUpper (basicUpper : Decimal) : Decimal :=
  match supertrend.finalUpperBand with
  | none => basicUpper
  | some current =>
    if basicUpper < current then basicUpper
    else if supertrend.previousClose.any fun prev => decide (current < prev) then
      basicUpper
    else current

def finalLower (basicLower : Decimal) : Decimal :=
  match supertrend.finalLowerBand with
  | none => basicLower
  | some current =>
    if current < basicLower then basicLower
    else if supertrend.previousClose.any fun prev => decide (prev < current) then
      basicLower
    else current

def nextDirection (close finalUpper finalLower : Decimal) : Int :=
  match supertrend.direction with
  | none => -1
  | some direction =>
    if direction = -1 then if finalUpper < close then 1 else -1
    else if close < finalLower then -1 else 1

def update (bar : Bar) : Supertrend :=
  let atr := supertrend.atr.update bar.high bar.low bar.close
  match atr.value with
  | none => { supertrend with atr, previousClose := some bar.close, value := none }
  | some range =>
    let midpoint := (bar.high + bar.low) / 2
    let upper := supertrend.finalUpper (midpoint + supertrend.multiplier * range)
    let lower := supertrend.finalLower (midpoint - supertrend.multiplier * range)
    let direction := supertrend.nextDirection bar.close upper lower
    { supertrend with
      atr
      previousClose := some bar.close
      finalUpperBand := some upper
      finalLowerBand := some lower
      direction := some direction
      value := some {
        value := if direction = 1 then lower else upper
        direction
        upperBand := upper
        lowerBand := lower } }

def initial (window : Nat) (pos : 0 < window) (multiplier : Decimal)
    (nonneg : 0 ≤ multiplier) : Supertrend where
  multiplier := multiplier
  nonneg := nonneg
  atr := { trueRanges := { size := window, pos } }

def run (start : Supertrend) (bars : List Bar) : Supertrend :=
  bars.foldl update start

end Supertrend

/-- The close lies on the wrong side of the active band. -/
def SupertrendValue.Beyond (value : SupertrendValue) (close : Decimal) : Prop :=
  if value.direction = 1 then close < value.value else value.value < close

/-- The active band moves against the trend of the value before. -/
def SupertrendValue.MovesAgainst (value : SupertrendValue) (earlier : SupertrendValue) : Prop :=
  if earlier.direction = 1 then value.value < earlier.value else earlier.value < value.value

namespace Supertrend

structure Shows (supertrend : Supertrend) (value : SupertrendValue) : Prop where
  upper : supertrend.finalUpperBand = some value.upperBand
  lower : supertrend.finalLowerBand = some value.lowerBand
  direction : supertrend.direction = some value.direction
  active : value.value = if value.direction = 1 then value.lowerBand else value.upperBand
  oneSided : value.direction = 1 ∨ value.direction = -1

/-- Either there is no value and no band yet, or the value shows the state. -/
def Tracked (supertrend : Supertrend) : Prop :=
  match supertrend.value with
  | none => supertrend.finalUpperBand = none ∧ supertrend.finalLowerBand = none ∧
      supertrend.direction = none ∧ supertrend.atr.value = none
  | some value => supertrend.Shows value ∧ supertrend.atr.value ≠ none

variable {supertrend : Supertrend}

theorem nextDirection_oneSided (close upper lower : Decimal) :
    supertrend.nextDirection close upper lower = 1 ∨
      supertrend.nextDirection close upper lower = -1 := by
  unfold nextDirection
  split
  · exact .inr rfl
  · split <;> split <;> simp

theorem update_tracked (tracked : supertrend.Tracked) (bar : Bar) :
    (supertrend.update bar).Tracked ∧ (supertrend.update bar).previousClose = some bar.close := by
  unfold update
  cases ranged : (supertrend.atr.update bar.high bar.low bar.close).value with
  | none =>
    simp only [ranged]
    refine ⟨?_, trivial⟩
    unfold Tracked at tracked
    split at tracked
    · exact ⟨tracked.1, tracked.2.1, tracked.2.2.1, ranged⟩
    · obtain ⟨value, known⟩ := Option.ne_none_iff_exists'.mp tracked.2
      rw [AverageTrueRange.update, known] at ranged
      cases ranged
  | some range =>
    simp only [ranged]
    refine ⟨⟨⟨rfl, rfl, rfl, rfl, nextDirection_oneSided _ _ _⟩, ?_⟩, trivial⟩
    rw [ranged]
    exact Option.some_ne_none range

theorem run_tracked {start : Supertrend} (tracked : start.Tracked) (bars : List Bar) :
    (start.run bars).Tracked := by
  induction bars generalizing start with
  | nil => exact tracked
  | cons bar bars ih => exact ih (update_tracked tracked bar).1

theorem beyond_iff {old new : SupertrendValue} (tracked : supertrend.Tracked) {bar : Bar}
    (before : supertrend.value = some old) (after : (supertrend.update bar).value = some new) :
    new.Beyond bar.close ↔ new.direction ≠ old.direction ∧ new.upperBand < bar.close ∧
      bar.close < new.lowerBand := by
  rw [Tracked, before] at tracked
  obtain ⟨shows, -⟩ := tracked
  unfold update at after
  dsimp only at after
  split at after
  · cases after
  · cases after
    simp only [SupertrendValue.Beyond, nextDirection, shows.direction]
    generalize supertrend.finalLower _ = lower
    generalize supertrend.finalUpper _ = upper
    rcases shows.oneSided with up | down
    · rw [up]
      by_cases falls : bar.close < lower
      · simp [falls]
      · simp [falls]
    · rw [down]
      by_cases rises : upper < bar.close
      · simp [rises]
      · simp [rises]

/-- The band of the given direction before it is carried on. -/
def basicBand (supertrend : Supertrend) (bar : Bar) (range : Decimal) (direction : Int) : Decimal :=
  let midpoint := (bar.high + bar.low) / 2
  if direction = 1 then midpoint - supertrend.multiplier * range
  else midpoint + supertrend.multiplier * range

/-- The active band is the basic one of the bar. -/
def Reset (supertrend : Supertrend) (bar : Bar) (value : SupertrendValue) : Prop :=
  ∃ range, (supertrend.atr.update bar.high bar.low bar.close).value = some range ∧
    value.value = supertrend.basicBand bar range value.direction

/-- The first value shows a falling trend. -/
theorem first_falling {new : SupertrendValue} (tracked : supertrend.Tracked) {bar : Bar}
    (before : supertrend.value = none) (after : (supertrend.update bar).value = some new) :
    new.direction = -1 := by
  rw [Tracked, before] at tracked
  obtain ⟨-, -, unset, -⟩ := tracked
  unfold update at after
  dsimp only at after
  split at after
  · cases after
  · cases after
    simp only [nextDirection, unset]

/-- While the direction stays, the band follows the trend once the close was inside; from a close
beyond it the band is reset. -/
theorem movesAgainst_beyond {old new : SupertrendValue} {close : Decimal}
    (tracked : supertrend.Tracked) {bar : Bar} (before : supertrend.value = some old)
    (prev : supertrend.previousClose = some close)
    (after : (supertrend.update bar).value = some new) (same : new.direction = old.direction)
    (against : new.MovesAgainst old) : old.Beyond close ∧ supertrend.Reset bar new := by
  rw [Tracked, before] at tracked
  obtain ⟨shows, -⟩ := tracked
  unfold update at after
  dsimp only at after
  split at after
  · cases after
  · next range ranged =>
    cases after
    rw [SupertrendValue.MovesAgainst] at against
    rw [SupertrendValue.Beyond, Reset]
    dsimp only at same against ⊢
    refine And.imp_right (fun reset => ⟨range, ranged, reset⟩) ?_
    rw [same, shows.active] at against
    rw [shows.active, same, basicBand]
    by_cases up : old.direction = 1
    · simp only [if_pos up, finalLower, shows.lower, prev, Option.any_some,
        decide_eq_true_eq] at against ⊢
      split at against
      · exact absurd against (by grind)
      · split at against
        · next raised beyond => exact ⟨beyond, by rw [if_neg raised, if_pos beyond]⟩
        · exact absurd against (lt_irrefl _)
    · simp only [if_neg up, finalUpper, shows.upper, prev, Option.any_some,
        decide_eq_true_eq] at against ⊢
      split at against
      · exact absurd against (by grind)
      · split at against
        · next lowered beyond => exact ⟨beyond, by rw [if_neg lowered, if_pos beyond]⟩
        · exact absurd against (lt_irrefl _)

theorem run_concat (start : Supertrend) (bars : List Bar) (bar : Bar) :
    start.run (bars ++ [bar]) = (start.run bars).update bar := by
  rw [run, List.foldl_append]
  rfl

theorem initial_tracked (window : Nat) (pos : 0 < window) (multiplier : Decimal)
    (nonneg : 0 ≤ multiplier) : (initial window pos multiplier nonneg).Tracked :=
  ⟨rfl, rfl, rfl, rfl⟩

/-- The first value shows a falling trend. On a ready bar after the first the close is beyond the
active band just where a flip finds it between crossed bands; a band that moves against its trend
follows such a close, and is then the basic band. -/
theorem run_trails (window : Nat) (pos : 0 < window) (multiplier : Decimal)
    (nonneg : 0 ≤ multiplier) (bars : List Bar) (bar : Bar) {new : SupertrendValue}
    (after : ((initial window pos multiplier nonneg).run (bars ++ [bar])).value = some new) :
    let supertrend := (initial window pos multiplier nonneg).run bars
    (supertrend.value = none → new.direction = -1) ∧
    ∀ old, supertrend.value = some old →
      (new.Beyond bar.close ↔ new.direction ≠ old.direction ∧ new.upperBand < bar.close ∧
        bar.close < new.lowerBand) ∧
      (new.direction = old.direction → new.MovesAgainst old →
        (∃ last, bars.getLast? = some last ∧ old.Beyond last.close) ∧
          supertrend.Reset bar new) := by
  intro supertrend
  have start := initial_tracked window pos multiplier nonneg
  have tracked := run_tracked start bars
  rw [run_concat] at after
  refine ⟨fun before => first_falling tracked before after, fun old before =>
    ⟨beyond_iff tracked before after, fun same against => ?_⟩⟩
  rcases List.eq_nil_or_concat' bars with rfl | ⟨earlier, last, rfl⟩
  · cases before
  · have prev := (update_tracked (run_tracked start earlier) last).2
    rw [← run_concat] at prev
    obtain ⟨beyond, reset⟩ := movesAgainst_beyond tracked before prev after same against
    exact ⟨⟨last, List.getLast?_concat, beyond⟩, reset⟩

def quoted (low high close : Decimal) : BarFields where
  instrumentId := ⟨⟨"EQUITY.US.NASDAQ.AAPL", Eq.refl false⟩⟩
  startTime := 0
  endTime := 60
  timeframe := "1m"
  sessionId := "session-1"
  openPrice := low
  high := high
  low := low
  close := close

def closedHigh : Bar := ⟨quoted 0 10 10, by decide +kernel⟩

def jumped : Bar := ⟨quoted 10 20 12, by decide +kernel⟩

def gapped : Bar := ⟨quoted 30 40 31, by decide +kernel⟩

theorem run_trails_jumped :
    let start := initial 1 (by decide) 0 (le_refl 0)
    let value : SupertrendValue := ⟨15, -1, 15, 15⟩
    (value.Beyond 12 ↔ (-1 : Int) ≠ -1 ∧ (15 : Decimal) < 12 ∧ (12 : Decimal) < 15) ∧
      (∃ last, [closedHigh].getLast? = some last ∧
        (⟨5, -1, 5, 5⟩ : SupertrendValue).Beyond last.close) ∧
      (start.run [closedHigh]).Reset jumped value := by
  have trails := (run_trails 1 (by decide) 0 (le_refl 0) [closedHigh] jumped
    (by decide +kernel : _ = some ⟨15, -1, 15, 15⟩)).2 ⟨5, -1, 5, 5⟩ (by decide +kernel)
  exact ⟨trails.1, trails.2 rfl (by rw [SupertrendValue.MovesAgainst]; decide +kernel)⟩

/-- The upper band of a falling trend rises, and a flip leaves the close below the lower band. -/
theorem supertrend_loosens :
    let start := initial 1 (by decide) 0 (le_refl 0)
    (∃ old new, (start.run [closedHigh]).value = some old ∧
      (start.run [closedHigh, jumped]).value = some new ∧ new.direction = old.direction ∧
      new.MovesAgainst old) ∧
    ∃ new, (start.run [closedHigh, jumped, gapped]).value = some new ∧ new.direction = 1 ∧
      gapped.close < new.value := by
  refine ⟨⟨⟨5, -1, 5, 5⟩, ⟨15, -1, 15, 15⟩, ?_, ?_, rfl, ?_⟩, ⟨35, 1, 15, 35⟩, ?_, rfl, ?_⟩
  · decide +kernel
  · decide +kernel
  · rw [SupertrendValue.MovesAgainst]
    decide +kernel
  · decide +kernel
  · decide +kernel

end Supertrend

end Qts
