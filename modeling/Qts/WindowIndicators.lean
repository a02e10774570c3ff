import Mathlib.Data.List.Zip
import Mathlib.Tactic.FieldSimp
import Mathlib.Tactic.Linarith
import Mathlib.Tactic.Ring
import Qts.BarConsolidation
import Qts.RollingWindows

/-! # Window indicators

The eleven indicators whose value depends on the last inputs alone.  An update forms its quotients
with a division that refuses a zero divisor, as Python's does, so that an update which returns has
divided by no zero.  The batch definitions are those of the indicators, over a list of inputs; that
every run returns and leaves the batch of the last inputs is proved for each indicator.
-/

namespace Qts

open List

namespace TechnicalIndicators

variable (sqrt : Decimal → Decimal)

/-- A quotient, which is refused where the divisor is zero. -/
def quotient (dividend divisor : Decimal) : Option Decimal :=
  if divisor = 0 then none else some (dividend / divisor)

def highest (values : List Decimal) : Decimal := values.max?.getD 0

def lowest (values : List Decimal) : Decimal := values.min?.getD 0

def typicalPrice (bar : Bar) : Decimal := (bar.high + bar.low + bar.close) / 3

def populationStandardDeviation (values : List Decimal) : Option Decimal := do
  let mean ← quotient values.sum values.length
  let variance ← quotient (values.map fun item => (item - mean) * (item - mean)).sum values.length
  return sqrt variance

def moneyFlowVolume (bar : Bar) : Option Decimal := do
  let priceRange := bar.high - bar.low
  if priceRange = 0 then return 0
  let multiplier ← quotient ((bar.close - bar.low) - (bar.high - bar.close)) priceRange
  return multiplier * bar.volume

def volumeRatio (window : Nat) (volumes : List Decimal) (volume : Decimal) : Option Decimal := do
  let average ← quotient volumes.sum window
  if average = 0 then return 1
  quotient volume average

structure BollingerBandsValue where
  lower : Decimal
  middle : Decimal
  upper : Decimal
  standardDeviation : Decimal

def bollingerBands (window : Nat) (standardDeviations : Decimal) (prices : List Decimal) :
    Option BollingerBandsValue := do
  let middle ← quotient prices.sum window
  let variance ← quotient (prices.map fun item => (item - middle) * (item - middle)).sum window
  let standardDeviation := sqrt variance
  let offset := standardDeviations * standardDeviation
  return { lower := middle - offset, middle, upper := middle + offset, standardDeviation }

structure DonchianChannelValue where
  lower : Decimal
  middle : Decimal
  upper : Decimal

def donchianChannel (highs lows : List Decimal) : DonchianChannelValue where
  lower := lowest lows
  middle := (highest highs + lowest lows) / 2
  upper := highest highs

def percentK (highs lows : List Decimal) (close : Decimal) : Option Decimal :=
  let priceRange := highest highs - lowest lows
  if priceRange = 0 then some 0 else (quotient (close - lowest lows) priceRange).map (· * 100)

def williamsR (highs lows : List Decimal) (close : Decimal) : Option Decimal :=
  let priceRange := highest highs - lowest lows
  if priceRange = 0 then some 0 else (quotient (highest highs - close) priceRange).map (· * -100)

def commodityChannelIndex (window : Nat) (prices : List Decimal) (price : Decimal) :
    Option Decimal := do
  let average ← quotient prices.sum window
  let meanDeviation ← quotient (prices.map fun item => |item - average|).sum window
  if meanDeviation = 0 then return 0
  quotient (price - average) (15 / 1000 * meanDeviation)

/-- Absent where the first price is zero. -/
def rateOfChange (prices : List Decimal) (price : Decimal) : Option (Option Decimal) :=
  let prev := prices.headD 0
  if prev = 0 then some none
  else (quotient (price - prev) prev).map fun change => some (change * 100)

def moneyFlowIndex (positiveFlows negativeFlows : List Decimal) : Option Decimal := do
  if negativeFlows.sum = 0 then return 100
  let moneyRatio ← quotient positiveFlows.sum negativeFlows.sum
  let share ← quotient 100 (1 + moneyRatio)
  return 100 - share

def chaikinMoneyFlow (moneyFlowVolumes volumes : List Decimal) : Option Decimal :=
  if volumes.sum = 0 then some 0 else quotient moneyFlowVolumes.sum volumes.sum

variable {State Input Output : Type}

/-- The value of a full window; before that there is none and nothing is computed. -/
def whenReady (window : RollingWindow Decimal) (output : Option Output) : Option (Option Output) :=
  if window.ready then output.map some else some none

/-- The indicators whose value comes from one window and the current input. -/
structure OneWindow (Output : Type) where
  window : RollingWindow Decimal
  value : Option Output := none

/-- The indicators whose value comes from two windows and the current input. -/
structure TwoWindows (Output : Type) where
  first : RollingWindow Decimal
  second : RollingWindow Decimal
  value : Option Output := none

def VolumeRatio.update (state : OneWindow Decimal) (volume : Decimal) :
    Option (OneWindow Decimal) :=
  let volumes := state.window.append volume
  (whenReady volumes (volumeRatio volumes.size volumes.values volume)).map (⟨volumes, ·⟩)

def BollingerBands.update (standardDeviations : Decimal) (state : OneWindow BollingerBandsValue)
    (price : Decimal) : Option (OneWindow BollingerBandsValue) :=
  let prices := state.window.append price
  (whenReady prices (bollingerBands sqrt prices.size standardDeviations prices.values)).map
    (⟨prices, ·⟩)

def StandardDeviation.update (state : OneWindow Decimal) (price : Decimal) :
    Option (OneWindow Decimal) :=
  let prices := state.window.append price
  (whenReady prices (populationStandardDeviation sqrt prices.values)).map (⟨prices, ·⟩)

def CommodityChannelIndex.updateBar (state : OneWindow Decimal) (bar : Bar) :
    Option (OneWindow Decimal) :=
  let prices := state.window.append (typicalPrice bar)
  (whenReady prices (commodityChannelIndex prices.size prices.values (typicalPrice bar))).map
    (⟨prices, ·⟩)

def RateOfChange.update (state : OneWindow Decimal) (price : Decimal) :
    Option (OneWindow Decimal) :=
  let prices := state.window.append price
  (if prices.ready then rateOfChange prices.values price else some none).map (⟨prices, ·⟩)

def DonchianChannel.updateBar (state : TwoWindows DonchianChannelValue) (bar : Bar) :
    Option (TwoWindows DonchianChannelValue) :=
  let highs := state.first.append bar.high
  let lows := state.second.append bar.low
  (whenReady highs (some (donchianChannel highs.values lows.values))).map (⟨highs, lows, ·⟩)

def WilliamsR.updateBar (state : TwoWindows Decimal) (bar : Bar) : Option (TwoWindows Decimal) :=
  let highs := state.first.append bar.high
  let lows := state.second.append bar.low
  (whenReady highs (williamsR highs.values lows.values bar.close)).map (⟨highs, lows, ·⟩)

def ChaikinMoneyFlow.updateBar (state : TwoWindows Decimal) (bar : Bar) :
    Option (TwoWindows Decimal) := do
  let moneyFlowVolumes := state.first.append (← moneyFlowVolume bar)
  let volumes := state.second.append bar.volume
  (whenReady moneyFlowVolumes (chaikinMoneyFlow moneyFlowVolumes.values volumes.values)).map
    (⟨moneyFlowVolumes, volumes, ·⟩)

structure StochasticOscillatorValue where
  percentK : Decimal
  percentD : Decimal

structure StochasticOscillator where
  highs : RollingWindow Decimal
  lows : RollingWindow Decimal
  percentK : RollingWindow Decimal
  value : Option StochasticOscillatorValue := none

def StochasticOscillator.updateBar (state : StochasticOscillator) (bar : Bar) :
    Option StochasticOscillator :=
  let highs := state.highs.append bar.high
  let lows := state.lows.append bar.low
  if highs.ready then do
    let current ← TechnicalIndicators.percentK highs.values lows.values bar.close
    let recent := state.percentK.append current
    let percentD := quotient recent.values.sum recent.size
    (whenReady recent (percentD.map (⟨current, ·⟩))).map (⟨highs, lows, recent, ·⟩)
  else some { state with highs, lows, value := none }

structure MoneyFlowIndex where
  positiveFlows : RollingWindow Decimal
  negativeFlows : RollingWindow Decimal
  previousTypicalPrice : Option Decimal := none
  value : Option Decimal := none

def positiveFlow (prev : Decimal) (bar : Bar) : Decimal :=
  if prev < typicalPrice bar then typicalPrice bar * bar.volume else 0

def negativeFlow (prev : Decimal) (bar : Bar) : Decimal :=
  if typicalPrice bar < prev then typicalPrice bar * bar.volume else 0

def MoneyFlowIndex.updateBar (state : MoneyFlowIndex) (bar : Bar) : Option MoneyFlowIndex :=
  match state.previousTypicalPrice with
  | none => some { state with previousTypicalPrice := some (typicalPrice bar) }
  | some prev =>
    let positiveFlows := state.positiveFlows.append (positiveFlow prev bar)
    let negativeFlows := state.negativeFlows.append (negativeFlow prev bar)
    (whenReady positiveFlows (moneyFlowIndex positiveFlows.values negativeFlows.values)).map
      (⟨positiveFlows, negativeFlows, some (typicalPrice bar), ·⟩)

structure HistoricalVolatility where
  returns : RollingWindow Decimal
  previousPrice : Option Decimal := none
  value : Option Decimal := none

def HistoricalVolatility.update (periodsPerYear : Decimal) (state : HistoricalVolatility)
    (price : Decimal) : Option HistoricalVolatility :=
  match state.previousPrice with
  | none => some { state with previousPrice := some price }
  | some prev =>
    if prev = 0 then some { state with previousPrice := some price, value := none }
    else do
      let returns := state.returns.append (← quotient (price - prev) prev)
      let deviation := populationStandardDeviation sqrt returns.values
      (whenReady returns (deviation.map (· * sqrt periodsPerYear))).map (⟨returns, some price, ·⟩)

/-! ## Batch definitions -/

def average (values : List Decimal) : Decimal := values.sum / values.length

def variance (values : List Decimal) : Decimal :=
  average (values.map fun value => (value - average values) ^ 2)

def lastOf (seen : Input → Decimal) (inputs : List Input) : Decimal :=
  (inputs.getLast?.map seen).getD 0

def greatestHigh (bars : List Bar) : Decimal := (bars.map (·.high)).max?.getD 0

def leastLow (bars : List Bar) : Decimal := (bars.map (·.low)).min?.getD 0

def centralPrice (bar : Bar) : Decimal := average [bar.high, bar.low, bar.close]

/-- What each input after the first makes of the one before it. -/
def changes (change : Input → Input → Output) (inputs : List Input) : List Output :=
  zipWith change inputs inputs.tail

theorem changes_concat (change : Input → Input → Output) (inputs : List Input)
    (before last : Input) : changes change (inputs ++ [before] ++ [last]) =
      changes change (inputs ++ [before]) ++ [change before last] := by
  induction inputs with
  | nil => rfl
  | cons input inputs ih =>
    cases inputs with
    | nil => rfl
    | cons next inputs => exact congrArg (change input next :: ·) ih

theorem changes_rtake (change : Input → Input → Output) (inputs : List Input) (count : Nat) :
    (changes change inputs).rtake count = changes change (inputs.rtake (count + 1)) := by
  have dropped : (changes change inputs).length - count = inputs.length - (count + 1) := by
    simp only [changes, length_zipWith, length_tail]
    omega
  rw [rtake, dropped, rtake, changes, changes, drop_zipWith, tail_drop, drop_tail]

theorem changes_length (change : Input → Input → Output) (inputs : List Input) :
    (changes change inputs).length = inputs.length - 1 := by
  simp only [changes, length_zipWith, length_tail]
  omega

/-- The runs of the given number of consecutive inputs. -/
def consecutive (count : Nat) : List Input → List (List Input)
  | [] => []
  | input :: inputs =>
    if count ≤ inputs.length + 1 then (input :: inputs).take count :: consecutive count inputs
    else []

namespace Batch

def volumeRatio (volumes : List Decimal) : Decimal :=
  if average volumes = 0 then 1 else lastOf id volumes / average volumes

def bollingerBands (standardDeviations : Decimal) (prices : List Decimal) :
    BollingerBandsValue where
  lower := average prices - standardDeviations * sqrt (variance prices)
  middle := average prices
  upper := average prices + standardDeviations * sqrt (variance prices)
  standardDeviation := sqrt (variance prices)

def donchianChannel (bars : List Bar) : DonchianChannelValue where
  lower := leastLow bars
  middle := average [greatestHigh bars, leastLow bars]
  upper := greatestHigh bars

/-- How far the last close lies above the least low, in percent of the range. -/
def percentK (bars : List Bar) : Decimal :=
  if greatestHigh bars = leastLow bars then 0
  else 100 * (lastOf (·.close) bars - leastLow bars) / (greatestHigh bars - leastLow bars)

def stochasticOscillator (size : Nat) (bars : List Bar) : StochasticOscillatorValue where
  percentK := percentK (bars.rtake size)
  percentD := average ((consecutive size bars).map percentK)

def commodityChannelIndex (bars : List Bar) : Decimal :=
  let prices := bars.map centralPrice
  let meanDeviation := average (prices.map fun price => |price - average prices|)
  if meanDeviation = 0 then 0
  else (lastOf centralPrice bars - average prices) / (3 / 200 * meanDeviation)

def williamsR (bars : List Bar) : Decimal :=
  if greatestHigh bars = leastLow bars then 0
  else -100 * (greatestHigh bars - lastOf (·.close) bars) / (greatestHigh bars - leastLow bars)

/-- The money flow of a bar whose price moved the given way. -/
def flow (moved : Decimal → Decimal → Prop) [DecidableRel moved] (before bar : Bar) : Decimal :=
  if moved (centralPrice before) (centralPrice bar) then centralPrice bar * bar.volume else 0

/-- The share of the rising money flow in all money flow, in percent. -/
def moneyFlowIndex (bars : List Bar) : Decimal :=
  let rising := (changes (flow (· < ·)) bars).sum
  let falling := (changes (flow (· > ·)) bars).sum
  if falling = 0 then 100 else 100 * rising / (rising + falling)

/-- Where the close lies between the low and the high, from minus one to one. -/
def closeLocation (bar : Bar) : Decimal :=
  if bar.high = bar.low then 0 else (2 * bar.close - bar.high - bar.low) / (bar.high - bar.low)

def chaikinMoneyFlow (bars : List Bar) : Decimal :=
  let volume := (bars.map (·.volume)).sum
  if volume = 0 then 0 else (bars.map fun bar => closeLocation bar * bar.volume).sum / volume

def rateOfChange (prices : List Decimal) : Decimal :=
  100 * (lastOf id prices / prices.headD 0 - 1)

def historicalVolatility (periodsPerYear : Decimal) (prices : List Decimal) : Decimal :=
  sqrt (variance (changes (fun before price => price / before - 1) prices)) * sqrt periodsPerYear

end Batch

/-! ## Locality -/

/-- The batch of the last inputs, absent where there are fewer. -/
def ofRecent (count : Nat) (batch : List Input → Output) (inputs : List Input) : Option Output :=
  if count ≤ inputs.length then some (batch (inputs.rtake count)) else none

/-- Every run returns, and its value is the batch of the last inputs. -/
def LocalTo (update : State → Input → Option State) (value : State → Option Output)
    (start : State) (count : Nat) (admissible : Input → Prop) (batch : List Input → Output) :
    Prop :=
  ∀ inputs, (∀ input ∈ inputs, admissible input) →
    (inputs.foldlM update start).map value = some (ofRecent count batch inputs)

variable {admissible : Input → Prop} {batch : List Input → Output}

/-- A warm-up of the window's length gives the value of any longer history. -/
theorem LocalTo.warmup {update : State → Input → Option State} {value : State → Option Output}
    {start : State} {count : Nat} (localTo : LocalTo update value start count admissible batch)
    {earlier recent : List Input} (long : recent.length = count)
    (admitted : ∀ input ∈ earlier ++ recent, admissible input) :
    ((earlier ++ recent).foldlM update start).map value =
      (recent.foldlM update start).map value := by
  have whole := localTo (earlier ++ recent) admitted
  have short := localTo recent fun input mem => admitted input (mem_append_right _ mem)
  have same : (earlier ++ recent).rtake count = recent.rtake count := by
    rw [rtake, rtake, length_append, long, Nat.add_sub_cancel, drop_left, Nat.sub_self,
      drop_zero]
  rw [whole, short, ofRecent, ofRecent, same, if_pos long.ge,
    if_pos (by rw [length_append]; omega)]

section Runs

variable {update : State → Input → Option State} {start : State}
  (inv : List Input → State → Prop)

/-- What holds at first, and after each update that it lets return, holds after every run. -/
theorem foldlM_invariant (opening : inv [] start)
    (step : ∀ history last state, (∀ input ∈ history ++ [last], admissible input) →
      inv history state →
        ∃ next, update state last = some next ∧ inv (history ++ [last]) next)
    (inputs : List Input) (admitted : ∀ input ∈ inputs, admissible input) :
    ∃ state, inputs.foldlM update start = some state ∧ inv inputs state := by
  induction inputs using reverseRecOn with
  | nil => exact ⟨start, rfl, opening⟩
  | append_singleton history last ih =>
    obtain ⟨state, ran, held⟩ := ih fun input mem => admitted input (mem_append_left _ mem)
    obtain ⟨next, updated, holds⟩ := step history last state admitted held
    exact ⟨next, by rw [foldlM_append, ran]; simp [updated], holds⟩

theorem LocalTo.of_invariant {value : State → Option Output} {count : Nat}
    (opening : inv [] start)
    (step : ∀ history last state, (∀ input ∈ history ++ [last], admissible input) →
      inv history state →
        ∃ next, update state last = some next ∧ inv (history ++ [last]) next)
    (valued : ∀ inputs state, inv inputs state → value state = ofRecent count batch inputs) :
    LocalTo update value start count admissible batch := by
  intro inputs admitted
  obtain ⟨state, ran, holds⟩ := foldlM_invariant inv opening step inputs admitted
  rw [ran, Option.map_some, valued inputs state holds]

end Runs

def emptyWindow (size : Nat) (pos : 0 < size) : RollingWindow Decimal where
  size := size
  pos := pos

theorem ofRecent_nil {size : Nat} (pos : 0 < size) : ofRecent size batch [] = none :=
  if_neg (Nat.not_le.mpr pos)

theorem lastOf_rtake (seen : Input → Decimal) {size : Nat} (pos : 0 < size)
    (history : List Input) (last : Input) :
    lastOf seen ((history ++ [last]).rtake size) = seen last := by
  obtain ⟨count, rfl⟩ := Nat.exists_eq_succ_of_ne_zero pos.ne'
  rw [lastOf, rtake_concat_succ, getLast?_concat]
  rfl

theorem rtake_length {size : Nat} {inputs : List Input} (long : size ≤ inputs.length) :
    (inputs.rtake size).length = size := by
  rw [rtake, length_drop]
  omega

variable {window : RollingWindow Decimal} {inputs : List Input} {project : Input → Decimal}

theorem holds_append (holds : window.Holds (inputs.map project)) (last : Input) :
    (window.append (project last)).Holds ((inputs ++ [last]).map project) := by
  rw [map_append]
  exact holds.append (project last)

theorem values_eq (holds : window.Holds (inputs.map project)) :
    window.values = (inputs.rtake window.size).map project := by
  rw [holds, rtake, rtake, length_map, map_drop]

theorem values_eq_id {values : List Decimal} (holds : window.Holds (values.map id)) :
    window.values = values.rtake window.size := by
  rw [values_eq holds, map_id]

theorem whenReady_eq (holds : window.Holds (inputs.map project)) {output : Option Output}
    (settles : window.size ≤ inputs.length → output = some (batch (inputs.rtake window.size))) :
    whenReady window output = some (ofRecent window.size batch inputs) := by
  have ready := holds.ready_iff
  rw [length_map] at ready
  unfold whenReady ofRecent
  by_cases long : window.size ≤ inputs.length
  · rw [if_pos (ready.mpr long), if_pos long, settles long]
    rfl
  · rw [if_neg (mt ready.mp long), if_neg long]

variable {size : Nat} (pos : 0 < size)

include pos in
/-- It is enough to settle what one window computes from the inputs that it holds. -/
theorem oneWindow_local {update : OneWindow Output → Input → Option (OneWindow Output)}
    (output : RollingWindow Decimal → Input → Option (Option Output))
    (updates : ∀ state input, update state input =
      (output (state.window.append (project input)) input).map
        (⟨state.window.append (project input), ·⟩))
    (settles : ∀ (window : RollingWindow Decimal) history last,
      (∀ input ∈ history ++ [last], admissible input) → window.size = size →
        window.Holds ((history ++ [last]).map project) →
          output window last = some (ofRecent size batch (history ++ [last]))) :
    LocalTo update OneWindow.value ⟨emptyWindow size pos, none⟩ size admissible batch := by
  refine LocalTo.of_invariant (fun inputs state => state.window.Holds (inputs.map project) ∧
    state.window.size = size ∧ state.value = ofRecent size batch inputs)
    ⟨(rtake_nil _).symm, rfl, (ofRecent_nil pos).symm⟩ ?_ fun _ _ known => known.2.2
  rintro history last state admitted ⟨holds, sized, -⟩
  have grown := holds_append holds last
  refine ⟨⟨_, ofRecent size batch (history ++ [last])⟩, ?_, grown, sized, rfl⟩
  rw [updates, settles (state.window.append (project last)) history last admitted sized grown]
  rfl

include pos in
theorem twoWindows_local {update : TwoWindows Output → Input → Option (TwoWindows Output)}
    {other : Input → Decimal}
    (output : RollingWindow Decimal → RollingWindow Decimal → Input → Option (Option Output))
    (updates : ∀ state input, update state input =
      (output (state.first.append (project input)) (state.second.append (other input)) input).map
        (⟨state.first.append (project input), state.second.append (other input), ·⟩))
    (settles : ∀ (first second : RollingWindow Decimal) history last, first.size = size →
      second.size = size → first.Holds ((history ++ [last]).map project) →
        second.Holds ((history ++ [last]).map other) →
          output first second last = some (ofRecent size batch (history ++ [last]))) :
    LocalTo update TwoWindows.value ⟨emptyWindow size pos, emptyWindow size pos, none⟩
      size (fun _ => True) batch := by
  refine LocalTo.of_invariant (fun inputs state => state.first.Holds (inputs.map project) ∧
    state.second.Holds (inputs.map other) ∧ state.first.size = size ∧
      state.second.size = size ∧ state.value = ofRecent size batch inputs)
    ⟨(rtake_nil _).symm, (rtake_nil _).symm, rfl, rfl, (ofRecent_nil pos).symm⟩ ?_
    fun _ _ known => known.2.2.2.2
  rintro history last state - ⟨holds, held, sized, alike, -⟩
  have grown := holds_append holds last
  have longer := holds_append held last
  refine ⟨⟨_, _, ofRecent size batch (history ++ [last])⟩, ?_, grown, longer, sized, alike, rfl⟩
  rw [updates, settles (state.first.append (project last)) (state.second.append (other last))
    history last sized alike grown longer]
  rfl

/-! ## The formulas -/

theorem quotient_eq {dividend divisor : Decimal} (nonzero : divisor ≠ 0) :
    quotient dividend divisor = some (dividend / divisor) :=
  if_neg nonzero

section Sized

include pos

theorem quotient_sum {values : List Decimal} (sized : values.length = size) :
    quotient values.sum size = some (average values) := by
  rw [quotient_eq (by exact_mod_cast pos.ne'), average, sized]

theorem quotient_sum_map {Item : Type} (formula : Item → Decimal) {items : List Item}
    (sized : items.length = size) :
    quotient (items.map formula).sum size = some (average (items.map formula)) :=
  quotient_sum pos (by rw [length_map, sized])

theorem populationStandardDeviation_eq {values : List Decimal} (sized : values.length = size) :
    populationStandardDeviation sqrt values = some (sqrt (variance values)) := by
  simp [populationStandardDeviation, sized, quotient_sum pos sized,
    quotient_sum_map pos _ sized, variance, pow_two]

theorem volumeRatio_eq {volumes : List Decimal} (sized : volumes.length = size)
    (volume : Decimal) : volumeRatio size volumes volume =
      some (if average volumes = 0 then 1 else volume / average volumes) := by
  simp only [volumeRatio, quotient_sum pos sized, Option.bind_eq_bind, Option.bind_some]
  split_ifs with flat
  · rfl
  · exact quotient_eq flat

theorem bollingerBands_eq (standardDeviations : Decimal) {prices : List Decimal}
    (sized : prices.length = size) : bollingerBands sqrt size standardDeviations prices =
      some (Batch.bollingerBands sqrt standardDeviations prices) := by
  simp [bollingerBands, quotient_sum pos sized, quotient_sum_map pos _ sized,
    Batch.bollingerBands, variance, pow_two]

theorem commodityChannelIndex_eq {prices : List Decimal} (sized : prices.length = size)
    (price : Decimal) : commodityChannelIndex size prices price =
      let meanDeviation := average (prices.map fun item => |item - average prices|)
      some (if meanDeviation = 0 then 0
        else (price - average prices) / (3 / 200 * meanDeviation)) := by
  simp only [commodityChannelIndex, quotient_sum pos sized, quotient_sum_map pos _ sized,
    Option.bind_eq_bind, Option.bind_some]
  split_ifs with flat
  · rfl
  · rw [quotient_eq (mul_ne_zero (by norm_num) flat)]
    congr 3
    norm_num

end Sized

theorem centralPrice_eq (bar : Bar) : centralPrice bar = typicalPrice bar := by
  simp [centralPrice, typicalPrice, average, add_assoc]

theorem close_mem (bar : Bar) : bar.close ∈ Set.Icc bar.low bar.high :=
  ⟨bar.formed.low.trans (min_le_right _ _), (le_max_right _ _).trans bar.formed.high⟩

theorem typicalPrice_mem (bar : Bar) : typicalPrice bar ∈ Set.Icc bar.low bar.high := by
  obtain ⟨low, high⟩ := close_mem bar
  unfold typicalPrice
  constructor <;> linarith

theorem percentK_eq (bars : List Bar) :
    percentK (bars.map (·.high)) (bars.map (·.low)) (lastOf (·.close) bars) =
      some (Batch.percentK bars) := by
  unfold percentK Batch.percentK
  change (if greatestHigh bars - leastLow bars = 0 then _ else
    (quotient (_ - leastLow bars) (greatestHigh bars - leastLow bars)).map _) = _
  simp only [sub_eq_zero]
  split_ifs with flat
  · rfl
  · rw [quotient_eq (sub_ne_zero.mpr flat), Option.map_some, mul_comm, mul_div_assoc]

theorem williamsR_eq (bars : List Bar) :
    williamsR (bars.map (·.high)) (bars.map (·.low)) (lastOf (·.close) bars) =
      some (Batch.williamsR bars) := by
  unfold williamsR Batch.williamsR
  change (if greatestHigh bars - leastLow bars = 0 then _ else
    (quotient (greatestHigh bars - _) (greatestHigh bars - leastLow bars)).map _) = _
  simp only [sub_eq_zero]
  split_ifs with flat
  · rfl
  · rw [quotient_eq (sub_ne_zero.mpr flat), Option.map_some, mul_comm, mul_div_assoc]

theorem moneyFlowVolume_eq (bar : Bar) :
    moneyFlowVolume bar = some (Batch.closeLocation bar * bar.volume) := by
  unfold moneyFlowVolume Batch.closeLocation
  simp only [sub_eq_zero]
  split_ifs with flat
  · simp
  · simp only [quotient_eq (sub_ne_zero.mpr flat), Option.bind_eq_bind, Option.bind_some,
      Option.pure_def, Option.some_inj]
    ring

/-- Flows that are not negative share the whole, so that no divisor is zero. -/
theorem moneyFlowIndex_eq {rising falling : List Decimal} (rises : 0 ≤ rising.sum)
    (falls : 0 ≤ falling.sum) : moneyFlowIndex rising falling =
      some (if falling.sum = 0 then 100
        else 100 * rising.sum / (rising.sum + falling.sum)) := by
  unfold moneyFlowIndex
  split_ifs with flat
  · rfl
  · have ratio : 0 ≤ rising.sum / falling.sum := div_nonneg rises falls
    have nonzero : 1 + rising.sum / falling.sum ≠ 0 := ne_of_gt (by linarith)
    have total : rising.sum + falling.sum ≠ 0 := by
      intro none
      exact flat (by linarith)
    rw [quotient_eq flat, Option.bind_eq_bind, Option.bind_some, quotient_eq nonzero]
    refine congrArg some ?_
    field_simp
    ring

/-! ## Locality of each indicator -/

/-! ### Runs and changes of the inputs -/

theorem consecutive_length (count : Nat) (inputs : List Input) (some : 0 < count) :
    (consecutive count inputs).length = inputs.length + 1 - count := by
  induction inputs with
  | nil =>
    simp only [consecutive, length_nil]
    omega
  | cons input inputs ih =>
    simp only [consecutive]
    split_ifs with fits <;> simp only [length_cons, length_nil, ih] <;> omega

theorem consecutive_short (count : Nat) {inputs : List Input} (short : inputs.length < count) :
    consecutive count inputs = [] := by
  cases inputs with
  | nil => rfl
  | cons input inputs => exact if_neg (Nat.not_le.mpr short)

theorem consecutive_drop (count skipped : Nat) (inputs : List Input) :
    (consecutive count inputs).drop skipped = consecutive count (inputs.drop skipped) := by
  induction skipped generalizing inputs with
  | zero => rfl
  | succ skipped ih =>
    cases inputs with
    | nil => rfl
    | cons input inputs =>
      rw [drop_succ_cons, ← ih]
      simp only [consecutive]
      split_ifs with fits
      · rfl
      · rw [consecutive_short count (by omega), drop_nil, drop_nil]

theorem consecutive_concat (count : Nat) (inputs : List Input) (last : Input)
    (fits : count ≤ inputs.length + 1) (some : 0 < count) :
    consecutive count (inputs ++ [last]) =
      consecutive count inputs ++ [(inputs ++ [last]).rtake count] := by
  induction inputs with
  | nil =>
    obtain rfl : count = 1 := by simp only [length_nil] at fits; omega
    rfl
  | cons input inputs ih =>
    have extended : (inputs ++ [last]).length = inputs.length + 1 := by simp
    rw [length_cons] at fits
    change (if count ≤ (inputs ++ [last]).length + 1 then
      (input :: (inputs ++ [last])).take count :: consecutive count (inputs ++ [last]) else []) =
        consecutive count (input :: inputs) ++ [(input :: (inputs ++ [last])).rtake count]
    rw [if_pos (by omega)]
    by_cases whole : count = inputs.length + 2
    · rw [consecutive_short count (by omega), consecutive_short count (by simpa using by omega),
        take_of_length_le (by simp only [length_cons]; omega), rtake,
        show (input :: (inputs ++ [last])).length - count = 0 by
          simp only [length_cons]; omega]
      rfl
    · have fewer : count ≤ inputs.length + 1 := by omega
      have kept : (input :: (inputs ++ [last])).rtake count = (inputs ++ [last]).rtake count := by
        rw [rtake, rtake, length_cons, extended,
          show inputs.length + 1 + 1 - count = inputs.length + 1 - count + 1 by omega,
          drop_succ_cons]
      have within : count ≤ (input :: inputs).length := fewer
      have front : (input :: (inputs ++ [last])).take count = (input :: inputs).take count :=
        take_append_of_le_length within
      rw [ih fewer, kept, front, consecutive, if_pos fewer, cons_append]

theorem consecutive_rtake (count kept : Nat) (inputs : List Input) (some : 0 < count) :
    (consecutive count inputs).rtake kept =
        consecutive count (inputs.rtake (count + kept - 1)) := by
  rw [rtake, consecutive_length count inputs some, consecutive_drop, rtake]
  congr 2
  omega

theorem rtake_rtake {kept count : Nat} (fewer : kept ≤ count) (inputs : List Input) :
    (inputs.rtake count).rtake kept = inputs.rtake kept := by
  rw [rtake, rtake, rtake, length_drop, drop_drop]
  congr 1
  omega

theorem mem_changes {change : Input → Input → Output} {item : Output} {inputs : List Input}
    (mem : item ∈ changes change inputs) :
    ∃ before, ∃ input ∈ inputs, change before input = item := by
  obtain ⟨index, within, rfl⟩ := getElem_of_mem mem
  rw [changes, length_zipWith, length_tail] at within
  refine ⟨inputs[index], inputs[index + 1], getElem_mem _, ?_⟩
  simp [changes]

theorem changes_concat_of_last {change : Input → Input → Output} {before : Input}
    {history : List Input} (prev : history.getLast? = some before) (last : Input) :
    changes change (history ++ [last]) = changes change history ++ [change before last] := by
  obtain ⟨earlier, rfl⟩ := getLast?_eq_some_iff.mp prev
  exact changes_concat change earlier before last

/-- A window of changes is full when there is one input more than it holds. -/
theorem whenReady_changes {change : Input → Input → Decimal}
    (holds : window.Holds (changes change inputs)) {output : Option Output}
    (settles : window.size + 1 ≤ inputs.length →
      window.values = changes change (inputs.rtake (window.size + 1)) →
        window.values.length = window.size →
          output = some (batch (inputs.rtake (window.size + 1)))) :
    whenReady window output = some (ofRecent (window.size + 1) batch inputs) := by
  have ready := holds.ready_iff
  have shorter : window.size ≤ inputs.length - 1 ↔ window.size + 1 ≤ inputs.length := by
    have := window.pos
    omega
  rw [changes_length, shorter] at ready
  unfold whenReady ofRecent
  by_cases long : window.size + 1 ≤ inputs.length
  · have full : window.values.length = window.size := of_decide_eq_true (ready.mpr long)
    rw [if_pos (ready.mpr long), if_pos long,
      settles long (by rw [holds, changes_rtake]) full]
    rfl
  · rw [if_neg (mt ready.mp long), if_neg long]

section Local

include pos

theorem volumeRatio_local :
    LocalTo VolumeRatio.update OneWindow.value ⟨emptyWindow size pos, none⟩ size
      (fun _ => True) Batch.volumeRatio := by
  refine oneWindow_local pos (fun window volume =>
    whenReady window (volumeRatio window.size window.values volume)) (fun _ _ => rfl) ?_
  rintro window history last - rfl holds
  refine whenReady_eq holds fun long => ?_
  rw [values_eq_id holds, volumeRatio_eq pos (rtake_length long), Batch.volumeRatio,
    lastOf_rtake id pos]
  rfl

theorem bollingerBands_local (standardDeviations : Decimal) :
    LocalTo (BollingerBands.update sqrt standardDeviations) OneWindow.value
      ⟨emptyWindow size pos, none⟩ size (fun _ => True)
      (Batch.bollingerBands sqrt standardDeviations) := by
  refine oneWindow_local pos (fun window _ =>
    whenReady window (bollingerBands sqrt window.size standardDeviations window.values))
    (fun _ _ => rfl) ?_
  rintro window history last - rfl holds
  refine whenReady_eq holds fun long => ?_
  rw [values_eq_id holds, bollingerBands_eq sqrt pos _ (rtake_length long)]

theorem standardDeviation_local :
    LocalTo (StandardDeviation.update sqrt) OneWindow.value ⟨emptyWindow size pos, none⟩ size
      (fun _ => True) fun prices => sqrt (variance prices) := by
  refine oneWindow_local pos (fun window _ =>
    whenReady window (populationStandardDeviation sqrt window.values)) (fun _ _ => rfl) ?_
  rintro window history last - rfl holds
  refine whenReady_eq holds fun long => ?_
  rw [values_eq_id holds, populationStandardDeviation_eq sqrt pos (rtake_length long)]

theorem commodityChannelIndex_local :
    LocalTo CommodityChannelIndex.updateBar OneWindow.value ⟨emptyWindow size pos, none⟩ size
      (fun _ => True) Batch.commodityChannelIndex := by
  refine oneWindow_local pos (fun window bar => whenReady window
    (commodityChannelIndex window.size window.values (typicalPrice bar))) (fun _ _ => rfl) ?_
  rintro window history last - rfl holds
  refine whenReady_eq holds fun long => ?_
  have sized : (((history ++ [last]).rtake window.size).map typicalPrice).length = window.size := by
    rw [length_map, rtake_length long]
  rw [values_eq holds, commodityChannelIndex_eq pos sized, Batch.commodityChannelIndex,
    lastOf_rtake _ pos, centralPrice_eq, funext centralPrice_eq]

omit pos in
theorem rateOfChange_local :
    LocalTo RateOfChange.update OneWindow.value ⟨emptyWindow (size + 1) size.succ_pos, none⟩
      (size + 1) (0 < ·) Batch.rateOfChange := by
  refine oneWindow_local size.succ_pos (fun window price =>
    if window.ready then rateOfChange window.values price else some none) (fun _ _ => rfl) ?_
  intro window history last admitted sized holds
  have ready := holds.ready_iff
  rw [length_map, sized] at ready
  have values := values_eq_id holds
  rw [sized] at values
  unfold ofRecent
  by_cases long : size + 1 ≤ (history ++ [last]).length
  · obtain ⟨price, prices, split⟩ : ∃ price prices,
        (history ++ [last]).rtake (size + 1) = price :: prices :=
      exists_cons_of_length_pos (by rw [rtake_length long]; exact size.succ_pos)
    have nonzero : price ≠ 0 := (admitted price (mem_of_mem_drop (split ▸ mem_cons_self))).ne'
    have current := lastOf_rtake id size.succ_pos history last
    rw [if_pos (ready.mpr long), if_pos long, values, rateOfChange, Batch.rateOfChange, current,
      split, headD_cons, if_neg nonzero, quotient_eq nonzero, sub_div, div_self nonzero,
      Option.map_some, mul_comm]
    rfl
  · exact (if_neg (mt ready.mp long)).trans (congrArg some (if_neg long).symm)

theorem donchianChannel_local :
    LocalTo DonchianChannel.updateBar TwoWindows.value
      ⟨emptyWindow size pos, emptyWindow size pos, none⟩ size (fun _ => True)
      Batch.donchianChannel := by
  refine twoWindows_local pos (fun highs lows _ =>
    whenReady highs (some (donchianChannel highs.values lows.values))) (fun _ _ => rfl) ?_
  rintro highs lows history last rfl alike holds held
  refine whenReady_eq holds fun _ => ?_
  rw [values_eq holds, values_eq held, alike, donchianChannel, Batch.donchianChannel]
  simp [average, highest, lowest, greatestHigh, leastLow]

theorem williamsR_local :
    LocalTo WilliamsR.updateBar TwoWindows.value
      ⟨emptyWindow size pos, emptyWindow size pos, none⟩ size (fun _ => True)
      Batch.williamsR := by
  refine twoWindows_local pos (fun highs lows bar =>
    whenReady highs (williamsR highs.values lows.values bar.close)) (fun _ _ => rfl) ?_
  rintro highs lows history last rfl alike holds held
  refine whenReady_eq holds fun _ => ?_
  rw [values_eq holds, values_eq held, alike, ← williamsR_eq, lastOf_rtake _ pos]

theorem chaikinMoneyFlow_local :
    LocalTo ChaikinMoneyFlow.updateBar TwoWindows.value
      ⟨emptyWindow size pos, emptyWindow size pos, none⟩ size (fun _ => True)
      Batch.chaikinMoneyFlow := by
  refine twoWindows_local pos (fun flows volumes _ =>
    whenReady flows (chaikinMoneyFlow flows.values volumes.values))
    (fun state bar => by rw [ChaikinMoneyFlow.updateBar, moneyFlowVolume_eq]; rfl) ?_
  rintro flows volumes history last rfl alike holds held
  refine whenReady_eq holds fun _ => ?_
  rw [values_eq holds, values_eq held, alike, chaikinMoneyFlow, Batch.chaikinMoneyFlow]
  split_ifs with flat
  · rfl
  · exact quotient_eq flat

def MoneyFlowIndex.start : MoneyFlowIndex where
  positiveFlows := emptyWindow size pos
  negativeFlows := emptyWindow size pos

omit pos in
theorem flows_nonneg {moved : Decimal → Decimal → Prop} [DecidableRel moved] {bars : List Bar}
    (admitted : ∀ bar ∈ bars, 0 ≤ bar.low) : 0 ≤ (changes (Batch.flow moved) bars).sum := by
  refine sum_nonneg fun flow mem => ?_
  obtain ⟨before, bar, among, rfl⟩ := mem_changes mem
  unfold Batch.flow
  split_ifs
  · rw [centralPrice_eq]
    exact mul_nonneg ((admitted bar among).trans (typicalPrice_mem bar).1) bar.formed.volume
  · exact le_rfl

omit pos in
theorem positiveFlow_eq (before bar : Bar) :
    positiveFlow (typicalPrice before) bar = Batch.flow (· < ·) before bar := by
  rw [Batch.flow, centralPrice_eq, centralPrice_eq, positiveFlow]

omit pos in
theorem negativeFlow_eq (before bar : Bar) :
    negativeFlow (typicalPrice before) bar = Batch.flow (· > ·) before bar := by
  rw [Batch.flow, centralPrice_eq, centralPrice_eq, negativeFlow]

omit pos in
theorem whenReady_flows {rising falling : RollingWindow Decimal} {bars : List Bar}
    (rises : rising.Holds (changes (Batch.flow (· < ·)) bars))
    (falls : falling.Holds (changes (Batch.flow (· > ·)) bars))
    (same : falling.size = rising.size) (admitted : ∀ bar ∈ bars, 0 ≤ bar.low) :
    whenReady rising (moneyFlowIndex rising.values falling.values) =
      some (ofRecent (rising.size + 1) Batch.moneyFlowIndex bars) := by
  refine whenReady_changes rises fun _ values _ => ?_
  have recent : ∀ bar ∈ bars.rtake (rising.size + 1), 0 ≤ bar.low := fun bar mem =>
    admitted bar (mem_of_mem_drop mem)
  rw [values, falls, same, changes_rtake,
    moneyFlowIndex_eq (flows_nonneg recent) (flows_nonneg recent)]
  rfl

theorem moneyFlowIndex_local :
    LocalTo MoneyFlowIndex.updateBar MoneyFlowIndex.value (.start pos) (size + 1)
      (fun bar => 0 ≤ bar.low) Batch.moneyFlowIndex := by
  refine LocalTo.of_invariant (fun bars state =>
    state.previousTypicalPrice = bars.getLast?.map typicalPrice ∧
      state.positiveFlows.Holds (changes (Batch.flow (· < ·)) bars) ∧
      state.negativeFlows.Holds (changes (Batch.flow (· > ·)) bars) ∧
      state.positiveFlows.size = size ∧ state.negativeFlows.size = size ∧
      state.value = ofRecent (size + 1) Batch.moneyFlowIndex bars)
    ⟨rfl, (rtake_nil _).symm, (rtake_nil _).symm, rfl, rfl, (ofRecent_nil size.succ_pos).symm⟩
    ?_ fun _ _ known => known.2.2.2.2.2
  rintro history bar state admitted ⟨prev, rises, falls, sized, alike, valued⟩
  unfold MoneyFlowIndex.updateBar
  cases last : history.getLast? with
  | none =>
    obtain rfl := getLast?_eq_none_iff.mp last
    rw [last] at prev
    rw [prev]
    refine ⟨_, rfl, rfl, rises, falls, sized, alike, ?_⟩
    rw [valued, ofRecent_nil size.succ_pos]
    exact (if_neg (by simp [pos.ne'])).symm
  | some before =>
    rw [last] at prev
    have rising := rises.append (Batch.flow (· < ·) before bar)
    have falling := falls.append (Batch.flow (· > ·) before bar)
    rw [← changes_concat_of_last last] at rising falling
    rw [prev]
    refine ⟨⟨_, _, _, ofRecent (size + 1) Batch.moneyFlowIndex (history ++ [bar])⟩, ?_,
      by rw [getLast?_concat, Option.map_some], rising, falling, sized, alike, rfl⟩
    dsimp only [Option.map_some]
    rw [positiveFlow_eq, negativeFlow_eq]
    rw [whenReady_flows rising falling (alike.trans sized.symm) admitted,
      show (state.positiveFlows.append _).size = size from sized]
    rfl

theorem historicalVolatility_local (periodsPerYear : Decimal) :
    LocalTo (HistoricalVolatility.update sqrt periodsPerYear) HistoricalVolatility.value
      ⟨emptyWindow size pos, none, none⟩ (size + 1) (0 < ·)
      (Batch.historicalVolatility sqrt periodsPerYear) := by
  refine LocalTo.of_invariant (fun prices state =>
    state.previousPrice = prices.getLast? ∧
      state.returns.Holds (changes (fun before price => price / before - 1) prices) ∧
      state.returns.size = size ∧
      state.value = ofRecent (size + 1) (Batch.historicalVolatility sqrt periodsPerYear) prices)
    ⟨rfl, (rtake_nil _).symm, rfl, (ofRecent_nil size.succ_pos).symm⟩
    ?_ fun _ _ known => known.2.2.2
  rintro history price state admitted ⟨prev, returned, sized, valued⟩
  unfold HistoricalVolatility.update
  cases last : history.getLast? with
  | none =>
    obtain rfl := getLast?_eq_none_iff.mp last
    rw [prev, last]
    refine ⟨_, rfl, rfl, returned, sized, ?_⟩
    rw [valued, ofRecent_nil size.succ_pos]
    exact (if_neg (by simp [pos.ne'])).symm
  | some before =>
    have nonzero : before ≠ 0 :=
      (admitted before (mem_append_left _ (mem_of_getLast? last))).ne'
    have change : (price - before) / before = price / before - 1 := by
      rw [sub_div, div_self nonzero]
    have returns := returned.append (price / before - 1)
    rw [← changes_concat_of_last last] at returns
    rw [prev, last]
    dsimp only
    rw [if_neg nonzero, quotient_eq nonzero, Option.bind_eq_bind, Option.bind_some, change]
    refine ⟨⟨_, _, ofRecent (size + 1) (Batch.historicalVolatility sqrt periodsPerYear)
      (history ++ [price])⟩, ?_, getLast?_concat.symm, returns, sized, rfl⟩
    refine (congrArg _ (whenReady_changes returns fun _ values full => ?_)).trans
      (by rw [← sized]; rfl)
    rw [populationStandardDeviation_eq sqrt (state.returns.append _).pos full, values]
    rfl

end Local

section Stochastic

variable {signal : Nat} (signalling : 0 < signal)

def StochasticOscillator.start : StochasticOscillator :=
  ⟨emptyWindow size pos, emptyWindow size pos, emptyWindow signal signalling, none⟩

omit pos signalling in
/-- A full window of %K values holds those of the last runs of bars. -/
theorem whenReady_percentK (pos : 0 < size) {recent : RollingWindow Decimal} {bars : List Bar}
    (holds : recent.Holds ((consecutive size bars).map Batch.percentK)) :
    whenReady recent ((quotient recent.values.sum recent.size).map
        (⟨Batch.percentK (bars.rtake size), ·⟩)) =
      some (ofRecent (size + recent.size - 1) (Batch.stochasticOscillator size) bars) := by
  have ready := holds.ready_iff
  have some := recent.pos
  have enough : recent.size ≤ bars.length + 1 - size ↔ size + recent.size - 1 ≤ bars.length := by
    omega
  rw [length_map, consecutive_length _ _ pos, enough] at ready
  unfold whenReady ofRecent
  by_cases long : size + recent.size - 1 ≤ bars.length
  · have full : recent.values.length = recent.size := of_decide_eq_true (ready.mpr long)
    have values : recent.values =
        (consecutive size (bars.rtake (size + recent.size - 1))).map Batch.percentK := by
      rw [holds, ← consecutive_rtake _ _ _ pos, rtake, rtake, length_map, map_drop]
    rw [if_pos (ready.mpr long), if_pos long, quotient_sum some full, values,
      Batch.stochasticOscillator, rtake_rtake (by omega)]
    rfl
  · rw [if_neg (mt ready.mp long), if_neg long]

theorem stochasticOscillator_local :
    LocalTo StochasticOscillator.updateBar StochasticOscillator.value
      (.start pos signalling) (size + signal - 1) (fun _ => True)
      (Batch.stochasticOscillator size) := by
  refine LocalTo.of_invariant (fun bars state =>
    state.highs.Holds (bars.map (·.high)) ∧ state.lows.Holds (bars.map (·.low)) ∧
      state.highs.size = size ∧ state.lows.size = size ∧
      state.percentK.Holds ((consecutive size bars).map Batch.percentK) ∧
      state.percentK.size = signal ∧
      state.value = ofRecent (size + signal - 1) (Batch.stochasticOscillator size) bars)
    ⟨(rtake_nil _).symm, (rtake_nil _).symm, rfl, rfl, (rtake_nil _).symm, rfl,
      (ofRecent_nil (by omega)).symm⟩
    ?_ fun _ _ known => known.2.2.2.2.2.2
  rintro history bar state - ⟨high, low, sized, alike, recent, kept, -⟩
  have highs := holds_append high bar
  have lows := holds_append low bar
  have ready := highs.ready_iff
  rw [length_map, show (state.highs.append bar.high).size = size from sized] at ready
  unfold StochasticOscillator.updateBar
  dsimp only
  split_ifs with full
  · have long := ready.mp full
    have current := percentK_eq ((history ++ [bar]).rtake size)
    rw [lastOf_rtake _ pos] at current
    have values := values_eq highs
    have others := values_eq lows
    rw [show (state.highs.append bar.high).size = size from sized] at values
    rw [show (state.lows.append bar.low).size = size from alike] at others
    rw [values, others, current, Option.bind_eq_bind, Option.bind_some]
    have grown := recent.append (Batch.percentK ((history ++ [bar]).rtake size))
    rw [← map_singleton, ← map_append, ← consecutive_concat size history bar
      (by rwa [length_append] at long) pos] at grown
    refine ⟨⟨_, _, _, ofRecent (size + signal - 1) (Batch.stochasticOscillator size)
      (history ++ [bar])⟩, ?_, highs, lows, sized, alike, grown, kept, rfl⟩
    refine (congrArg _ (whenReady_percentK pos grown)).trans ?_
    rw [show (state.percentK.append _).size = signal from kept]
    rfl
  · have short : (history ++ [bar]).length < size := by
      rw [← not_le]
      exact mt ready.mpr full
    refine ⟨_, rfl, highs, lows, sized, alike, ?_, kept, ?_⟩
    · rw [consecutive_short size short]
      rw [consecutive_short size (by rw [length_append] at short; omega)] at recent
      exact recent
    · exact (if_neg (by omega)).symm

end Stochastic

/-! ## Warm-up -/

/-- The value is the batch of the last inputs, which are a sufficient warm-up. -/
def Windowed (update : State → Input → Option State) (value : State → Option Output)
    (start : State) (count : Nat) (admissible : Input → Prop) (batch : List Input → Output) :
    Prop :=
  LocalTo update value start count admissible batch ∧
    ∀ earlier recent : List Input, recent.length = count →
      (∀ input ∈ earlier ++ recent, admissible input) →
        ((earlier ++ recent).foldlM update start).map value =
          (recent.foldlM update start).map value

theorem LocalTo.windowed {update : State → Input → Option State} {value : State → Option Output}
    {start : State} {count : Nat} (localTo : LocalTo update value start count admissible batch) :
    Windowed update value start count admissible batch :=
  ⟨localTo, fun _ _ long admitted => localTo.warmup long admitted⟩

/-- The value of an indicator is its formula over the last window of the inputs. -/
theorem indicators_windowed (size signal : Nat) (pos : 0 < size) (signalling : 0 < signal)
    (standardDeviations periodsPerYear : Decimal) :
    Windowed VolumeRatio.update OneWindow.value ⟨emptyWindow size pos, none⟩ size
      (fun _ => True) Batch.volumeRatio ∧
    Windowed (BollingerBands.update sqrt standardDeviations) OneWindow.value
      ⟨emptyWindow size pos, none⟩ size (fun _ => True)
      (Batch.bollingerBands sqrt standardDeviations) ∧
    Windowed DonchianChannel.updateBar TwoWindows.value
      ⟨emptyWindow size pos, emptyWindow size pos, none⟩ size (fun _ => True)
      Batch.donchianChannel ∧
    Windowed StochasticOscillator.updateBar StochasticOscillator.value
      (.start pos signalling) (size + signal - 1) (fun _ => True)
      (Batch.stochasticOscillator size) ∧
    Windowed CommodityChannelIndex.updateBar OneWindow.value ⟨emptyWindow size pos, none⟩ size
      (fun _ => True) Batch.commodityChannelIndex ∧
    Windowed WilliamsR.updateBar TwoWindows.value
      ⟨emptyWindow size pos, emptyWindow size pos, none⟩ size (fun _ => True)
      Batch.williamsR ∧
    Windowed (StandardDeviation.update sqrt) OneWindow.value ⟨emptyWindow size pos, none⟩ size
      (fun _ => True) (fun prices => sqrt (variance prices)) ∧
    Windowed MoneyFlowIndex.updateBar MoneyFlowIndex.value (.start pos) (size + 1)
      (fun bar => 0 ≤ bar.low) Batch.moneyFlowIndex ∧
    Windowed ChaikinMoneyFlow.updateBar TwoWindows.value
      ⟨emptyWindow size pos, emptyWindow size pos, none⟩ size (fun _ => True)
      Batch.chaikinMoneyFlow ∧
    Windowed RateOfChange.update OneWindow.value ⟨emptyWindow (size + 1) size.succ_pos, none⟩
      (size + 1) (0 < ·) Batch.rateOfChange ∧
    Windowed (HistoricalVolatility.update sqrt periodsPerYear) HistoricalVolatility.value
      ⟨emptyWindow size pos, none, none⟩ (size + 1) (0 < ·)
      (Batch.historicalVolatility sqrt periodsPerYear) :=
  ⟨(volumeRatio_local pos).windowed,
    (bollingerBands_local sqrt pos standardDeviations).windowed,
    (donchianChannel_local pos).windowed,
    (stochasticOscillator_local pos signalling).windowed,
    (commodityChannelIndex_local pos).windowed, (williamsR_local pos).windowed,
    (standardDeviation_local sqrt pos).windowed, (moneyFlowIndex_local pos).windowed,
    (chaikinMoneyFlow_local pos).windowed, rateOfChange_local.windowed,
    (historicalVolatility_local sqrt pos periodsPerYear).windowed⟩

theorem indicators_windowed_three_bars :
    Windowed MoneyFlowIndex.updateBar MoneyFlowIndex.value
      (.start (by decide : 0 < 3)) 4 (fun bar => 0 ≤ bar.low) Batch.moneyFlowIndex ∧
    (([11, 10, 12, 9, 15] : List Decimal).foldlM RateOfChange.update
      ⟨emptyWindow 4 (by decide), none⟩).map OneWindow.value = some (some 50) := by
  have windowed := (indicators_windowed id 3 2 (by decide) (by decide) 2 252).2.2.2.2.2.2.2
  exact ⟨windowed.1, (windowed.2.2.1.1 [11, 10, 12, 9, 15] (by decide)).trans (by decide +kernel)⟩

end TechnicalIndicators

end Qts
