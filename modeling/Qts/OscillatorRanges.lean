import Mathlib.Algebra.BigOperators.Ring.List
import Mathlib.Algebra.Order.Field.Basic
import Qts.WindowIndicators

/-! # Oscillator ranges

The smoothed oscillators keep running averages, whose invariants bound the values; the windowed
ones have the bounds of their batch definitions.  Every quotient of an update is refused where its
divisor is zero, so that a run which returns has divided by no zero.
-/

namespace Qts

open List Set

namespace TechnicalIndicators

/-- The averages are set together, when the first value is. -/
structure RSI where
  gains : RollingWindow Decimal
  losses : RollingWindow Decimal
  previousPrice : Option Decimal := none
  averages : Option (Decimal × Decimal) := none
  value : Option Decimal := none

def rsiFromAverages (averageGain averageLoss : Decimal) : Option Decimal := do
  if averageLoss = 0 then return 100
  let relativeStrength ← quotient averageGain averageLoss
  let share ← quotient 100 (1 + relativeStrength)
  return 100 - share

def windowMean (window : RollingWindow Decimal) : Option Decimal :=
  quotient window.values.sum window.size

def smoothed (window : Nat) (average item : Decimal) : Option Decimal :=
  quotient (average * (window - 1) + item) window

def RSI.update (rsi : RSI) (price : Decimal) : Option RSI :=
  match rsi.previousPrice with
  | none => some { rsi with previousPrice := some price }
  | some prev =>
    let gain := max (price - prev) 0
    let loss := |min (price - prev) 0|
    match rsi.averages with
    | none =>
      let gains := rsi.gains.append gain
      let losses := rsi.losses.append loss
      if gains.ready then do
        let averageGain ← windowMean gains
        let averageLoss ← windowMean losses
        let value ← rsiFromAverages averageGain averageLoss
        return ⟨gains, losses, some price, some (averageGain, averageLoss), some value⟩
      else some { rsi with gains, losses, previousPrice := some price }
    | some (averageGain, averageLoss) => do
      let averageGain ← smoothed rsi.gains.size averageGain gain
      let averageLoss ← smoothed rsi.losses.size averageLoss loss
      let value ← rsiFromAverages averageGain averageLoss
      return ⟨rsi.gains, rsi.losses, some price, some (averageGain, averageLoss), some value⟩

structure DirectionalMovementValue where
  plusDi : Decimal
  minusDi : Decimal
  dx : Decimal
  adx : Decimal

structure DirectionalAverages where
  trueRange : Decimal
  plusDm : Decimal
  minusDm : Decimal

structure ADX where
  trueRanges : RollingWindow Decimal
  plusDmValues : RollingWindow Decimal
  minusDmValues : RollingWindow Decimal
  prev : Option Bar := none
  averages : Option DirectionalAverages := none
  value : Option DirectionalMovementValue := none

def directionalInputs (prev : Option Bar) (bar : Bar) : DirectionalAverages :=
  match prev with
  | none => ⟨bar.high - bar.low, 0, 0⟩
  | some prev =>
    let upMove := bar.high - prev.high
    let downMove := prev.low - bar.low
    { trueRange := max (bar.high - bar.low)
        (max |bar.high - prev.close| |bar.low - prev.close|)
      plusDm := if downMove < upMove ∧ 0 < upMove then upMove else 0
      minusDm := if upMove < downMove ∧ 0 < downMove then downMove else 0 }

namespace DirectionalAverages

def plusDi (averages : DirectionalAverages) : Option Decimal :=
  if averages.trueRange = 0 then some 0
  else (quotient averages.plusDm averages.trueRange).map (· * 100)

def minusDi (averages : DirectionalAverages) : Option Decimal :=
  if averages.trueRange = 0 then some 0
  else (quotient averages.minusDm averages.trueRange).map (· * 100)

def dx (averages : DirectionalAverages) : Option Decimal := do
  let plusDi ← averages.plusDi
  let minusDi ← averages.minusDi
  let total := plusDi + minusDi
  if total = 0 then return 0
  let share ← quotient |plusDi - minusDi| total
  return share * 100

end DirectionalAverages

/-- The value of averages, of which the last index follows from their movement. -/
def DirectionalAverages.value (averages : DirectionalAverages) (dx adx : Decimal) :
    Option DirectionalMovementValue := do
  return ⟨← averages.plusDi, ← averages.minusDi, dx, adx⟩

def ADX.updateBar (adx : ADX) (bar : Bar) : Option ADX :=
  let inputs := directionalInputs adx.prev bar
  match adx.averages with
  | none =>
    let trueRanges := adx.trueRanges.append inputs.trueRange
    let plusDmValues := adx.plusDmValues.append inputs.plusDm
    let minusDmValues := adx.minusDmValues.append inputs.minusDm
    if trueRanges.ready then do
      let averages : DirectionalAverages :=
        ⟨← windowMean trueRanges, ← windowMean plusDmValues, ← windowMean minusDmValues⟩
      let dx ← averages.dx
      let value ← averages.value dx dx
      return ⟨trueRanges, plusDmValues, minusDmValues, some bar, some averages, some value⟩
    else some { trueRanges, plusDmValues, minusDmValues, prev := some bar }
  | some before => do
    let averages : DirectionalAverages :=
      { trueRange := ← smoothed adx.trueRanges.size before.trueRange inputs.trueRange
        plusDm := ← smoothed adx.trueRanges.size before.plusDm inputs.plusDm
        minusDm := ← smoothed adx.trueRanges.size before.minusDm inputs.minusDm }
    let dx ← averages.dx
    let previousAdx := (adx.value.map DirectionalMovementValue.adx).getD dx
    let value ← averages.value dx (← smoothed adx.trueRanges.size previousAdx dx)
    return { adx with prev := some bar, averages := some averages, value := some value }

structure SessionVWAP where
  sessionId : Option String := none
  cumulativePriceVolume : Decimal := 0
  cumulativeVolume : Decimal := 0
  value : Option Decimal := none

def SessionVWAP.updateBar (vwap : SessionVWAP) (bar : Bar) : Option SessionVWAP :=
  let current := if vwap.sessionId = some bar.sessionId then vwap
    else { sessionId := some bar.sessionId }
  let cumulativePriceVolume := current.cumulativePriceVolume + typicalPrice bar * bar.volume
  let cumulativeVolume := current.cumulativeVolume + bar.volume
  if cumulativeVolume = 0 then some { current with cumulativePriceVolume, cumulativeVolume }
  else (quotient cumulativePriceVolume cumulativeVolume).map fun value =>
    ⟨current.sessionId, cumulativePriceVolume, cumulativeVolume, some value⟩

theorem low_le_high (bar : Bar) : bar.low ≤ bar.high :=
  (close_mem bar).1.trans (close_mem bar).2

theorem share_mem {part whole : Decimal} (nonneg : 0 ≤ part) (most : part ≤ whole) :
    0 ≤ part / whole ∧ part / whole ≤ 1 :=
  ⟨div_nonneg nonneg (nonneg.trans most), div_le_one_of_le₀ most (nonneg.trans most)⟩

theorem rsiFromAverages_mem {gain loss : Decimal} (gains : 0 ≤ gain) (losses : 0 ≤ loss) :
    ∃ value, rsiFromAverages gain loss = some value ∧ value ∈ Icc 0 100 := by
  unfold rsiFromAverages
  split_ifs with flat
  · exact ⟨100, rfl, by norm_num, le_rfl⟩
  · have strength : 0 ≤ gain / loss := div_nonneg gains losses
    have most : 100 / (1 + gain / loss) ≤ 100 := div_le_self (by norm_num) (by linarith)
    have least : 0 ≤ 100 / (1 + gain / loss) := div_nonneg (by norm_num) (by linarith)
    refine ⟨100 - 100 / (1 + gain / loss), ?_, by linarith, by linarith⟩
    rw [quotient_eq flat, Option.bind_eq_bind, Option.bind_some,
      quotient_eq (ne_of_gt (by linarith))]
    rfl

theorem append_forall {window : RollingWindow Decimal} {holds : Decimal → Prop}
    (all : ∀ value ∈ window.values, holds value) {next : Decimal} (last : holds next) :
    ∀ value ∈ (window.append next).values, holds value := by
  intro value mem
  rcases mem_append.mp (mem_of_mem_drop mem) with earlier | new
  · exact all value earlier
  · rw [mem_singleton.mp new]
    exact last

theorem windowMean_eq (window : RollingWindow Decimal) :
    windowMean window = some (window.values.sum / window.size) :=
  quotient_eq (by exact_mod_cast window.pos.ne')

theorem windowMean_nonneg {window : RollingWindow Decimal}
    (nonneg : ∀ value ∈ window.values, 0 ≤ value) :
    ∃ mean, windowMean window = some mean ∧ 0 ≤ mean :=
  ⟨_, windowMean_eq window, div_nonneg (sum_nonneg nonneg) (Nat.cast_nonneg _)⟩

/-- What smoothing gives, as a number. -/
def blend (window : Nat) (average item : Decimal) : Decimal :=
  (average * (window - 1) + item) / window

section Smoothing

variable {window : Nat} (pos : 0 < window)

include pos

theorem smoothed_eq (average item : Decimal) :
    smoothed window average item = some (blend window average item) :=
  quotient_eq (by exact_mod_cast pos.ne')

theorem blend_mono {average item other next : Decimal} (averages : average ≤ other)
    (items : item ≤ next) : blend window average item ≤ blend window other next := by
  have one : (1 : Decimal) ≤ window := by exact_mod_cast pos
  have scaled := mul_le_mul_of_nonneg_right averages (sub_nonneg.mpr one)
  exact div_le_div_of_nonneg_right (add_le_add scaled items) (by linarith)

theorem blend_self (value : Decimal) : blend window value value = value := by
  have nonzero : (window : Decimal) ≠ 0 := by exact_mod_cast pos.ne'
  unfold blend
  field_simp
  ring

omit pos in
theorem blend_add (average item other next : Decimal) :
    blend window average item + blend window other next =
      blend window (average + other) (item + next) := by
  unfold blend
  ring

theorem blend_nonneg {average item : Decimal} (averages : 0 ≤ average) (items : 0 ≤ item) :
    0 ≤ blend window average item :=
  (blend_self pos 0).ge.trans (blend_mono pos averages items)

theorem blend_le {average item bound : Decimal} (averages : average ≤ bound)
    (items : item ≤ bound) : blend window average item ≤ bound :=
  (blend_mono pos averages items).trans (blend_self pos bound).le

end Smoothing

/-- The run returns, so that none of its updates divided by zero, and its value is in range. -/
def Bounded {State Output : Type} (run : Option State) (value : State → Option Output)
    (range : Output → Prop) : Prop :=
  ∃ state, run = some state ∧ ∀ output ∈ value state, range output

structure RSI.Sound (rsi : RSI) : Prop where
  gains : ∀ gain ∈ rsi.gains.values, 0 ≤ gain
  losses : ∀ loss ∈ rsi.losses.values, 0 ≤ loss
  averages : ∀ averages ∈ rsi.averages, 0 ≤ averages.1 ∧ 0 ≤ averages.2
  value : ∀ value ∈ rsi.value, value ∈ Icc 0 100

/-- Neither the averages nor the strength of a sound state have a divisor of zero. -/
theorem RSI.Sound.update {rsi : RSI} (sound : rsi.Sound) (price : Decimal) :
    ∃ next, rsi.update price = some next ∧ next.Sound := by
  unfold RSI.update
  cases rsi.previousPrice with
  | none => exact ⟨_, rfl, sound.gains, sound.losses, sound.averages, sound.value⟩
  | some prev =>
    have gain : 0 ≤ max (price - prev) 0 := le_max_right _ _
    have loss : 0 ≤ |min (price - prev) 0| := abs_nonneg _
    dsimp only
    cases known : rsi.averages with
    | none =>
      have gains := append_forall sound.gains gain
      have losses := append_forall sound.losses loss
      dsimp only
      split_ifs with filled
      · obtain ⟨averageGain, gained, gain⟩ := windowMean_nonneg gains
        obtain ⟨averageLoss, lost, loss⟩ := windowMean_nonneg losses
        obtain ⟨value, valued, mem⟩ := rsiFromAverages_mem gain loss
        simp only [gained, lost, valued, Option.bind_eq_bind, Option.bind_some]
        refine ⟨_, rfl, gains, losses, ?_, ?_⟩
        · rintro _ ⟨⟩
          exact ⟨gain, loss⟩
        · rintro _ ⟨⟩
          exact mem
      · exact ⟨_, rfl, gains, losses, nofun, sound.value⟩
    | some averages =>
      obtain ⟨averageGain, averageLoss⟩ := sound.averages averages known
      have gain := blend_nonneg rsi.gains.pos averageGain gain
      have loss := blend_nonneg rsi.losses.pos averageLoss loss
      obtain ⟨value, valued, mem⟩ := rsiFromAverages_mem gain loss
      dsimp only
      simp only [smoothed_eq rsi.gains.pos, smoothed_eq rsi.losses.pos, valued,
        Option.bind_eq_bind, Option.bind_some]
      refine ⟨_, rfl, sound.gains, sound.losses, ?_, ?_⟩
      · rintro _ ⟨⟩
        exact ⟨gain, loss⟩
      · rintro _ ⟨⟩
        exact mem

structure DirectionalAverages.Balanced (averages : DirectionalAverages) : Prop where
  plusDm : 0 ≤ averages.plusDm
  minusDm : 0 ≤ averages.minusDm
  together : averages.plusDm + averages.minusDm ≤ averages.trueRange

/-- A bar moves beyond the bar before by at most its true range. -/
theorem directionalInputs_balanced (prev : Option Bar) (bar : Bar) :
    (directionalInputs prev bar).Balanced := by
  cases prev with
  | none =>
    have spread := low_le_high bar
    exact ⟨le_rfl, le_rfl, by dsimp only [directionalInputs]; linarith⟩
  | some prev =>
    have up : bar.high - prev.high ≤ |bar.high - prev.close| :=
      (sub_le_sub_left (close_mem prev).2 _).trans (le_abs_self _)
    have down : prev.low - bar.low ≤ |bar.low - prev.close| :=
      (sub_le_sub_right (close_mem prev).1 _).trans ((le_abs_self _).trans (abs_sub_comm _ _).le)
    have spread := low_le_high bar
    have total := le_max_left (bar.high - bar.low)
      (max |bar.high - prev.close| |bar.low - prev.close|)
    have high := (le_max_left |bar.high - prev.close| |bar.low - prev.close|).trans
      (le_max_right (bar.high - bar.low) _)
    have low := (le_max_right |bar.high - prev.close| |bar.low - prev.close|).trans
      (le_max_right (bar.high - bar.low) _)
    dsimp only [directionalInputs]
    refine ⟨?_, ?_, ?_⟩ <;> dsimp only <;> split_ifs <;> linarith

structure DirectionalMovementValue.InRange (value : DirectionalMovementValue) : Prop where
  plusDi : 0 ≤ value.plusDi
  minusDi : 0 ≤ value.minusDi
  together : value.plusDi + value.minusDi ≤ 100
  dx : value.dx ∈ Icc 0 100
  adx : value.adx ∈ Icc 0 100

theorem DirectionalAverages.Balanced.inRange {averages : DirectionalAverages}
    (balanced : averages.Balanced) : ∃ dx ∈ Icc 0 100, averages.dx = some dx ∧
      ∀ adx ∈ Icc 0 100, ∃ value, averages.value dx adx = some value ∧ value.InRange := by
  obtain ⟨plusDm, minusDm, together⟩ := balanced
  obtain ⟨plus, minus, plusDi, minusDi, rising, falling, both⟩ : ∃ plus minus,
      averages.plusDi = some plus ∧ averages.minusDi = some minus ∧ 0 ≤ plus ∧ 0 ≤ minus ∧
        plus + minus ≤ 100 := by
    unfold DirectionalAverages.plusDi DirectionalAverages.minusDi
    split_ifs with flat
    · exact ⟨0, 0, rfl, rfl, le_rfl, le_rfl, by norm_num⟩
    · have moved : 0 ≤ averages.trueRange := (add_nonneg plusDm minusDm).trans together
      have share := (share_mem (add_nonneg plusDm minusDm) together).2
      rw [add_div] at share
      have first := div_nonneg plusDm moved
      have second := div_nonneg minusDm moved
      rw [quotient_eq flat, quotient_eq flat]
      exact ⟨_, _, rfl, rfl, by linarith, by linarith, by linarith⟩
  obtain ⟨dx, found, inside⟩ : ∃ dx, averages.dx = some dx ∧ dx ∈ Icc 0 100 := by
    rw [DirectionalAverages.dx, plusDi, minusDi, Option.bind_eq_bind, Option.bind_some,
      Option.bind_some]
    dsimp only
    split_ifs with flat
    · exact ⟨0, rfl, le_rfl, by norm_num⟩
    · have apart : |plus - minus| ≤ plus + minus := abs_le.mpr ⟨by linarith, by linarith⟩
      obtain ⟨least, most⟩ := share_mem (abs_nonneg _) apart
      rw [quotient_eq flat]
      exact ⟨_, rfl, by linarith, by linarith⟩
  refine ⟨dx, inside, found, fun adx bounded => ?_⟩
  exact ⟨_, by rw [DirectionalAverages.value, plusDi, minusDi]; rfl,
    rising, falling, both, inside, bounded⟩

structure DirectionalWindows (trueRanges plusDms minusDms : RollingWindow Decimal)
    (inputs : List DirectionalAverages) : Prop where
  balanced : ∀ input ∈ inputs, input.Balanced
  trueRange : trueRanges.values = inputs.map (·.trueRange)
  plusDm : plusDms.values = inputs.map (·.plusDm)
  minusDm : minusDms.values = inputs.map (·.minusDm)
  sizes : plusDms.size = trueRanges.size ∧ minusDms.size = trueRanges.size

variable {trueRanges plusDms minusDms : RollingWindow Decimal} {inputs : List DirectionalAverages}

theorem DirectionalWindows.append (windows : DirectionalWindows trueRanges plusDms minusDms inputs)
    {next : DirectionalAverages} (balanced : next.Balanced) :
    DirectionalWindows (trueRanges.append next.trueRange) (plusDms.append next.plusDm)
      (minusDms.append next.minusDm) ((inputs ++ [next]).rtake trueRanges.size) := by
  refine ⟨fun input mem => ?_, ?_, ?_, ?_, windows.sizes⟩
  · rcases mem_append.mp (mem_of_mem_drop mem) with earlier | new
    · exact windows.balanced input earlier
    · rw [mem_singleton.mp new]
      exact balanced
  all_goals
    simp only [RollingWindow.append, windows.sizes, windows.trueRange, windows.plusDm,
      windows.minusDm, rtake, map_drop, map_append, map_singleton,
      length_append, length_map, length_singleton]

theorem DirectionalWindows.mean (windows : DirectionalWindows trueRanges plusDms minusDms inputs) :
    DirectionalAverages.Balanced ⟨trueRanges.values.sum / trueRanges.size,
      plusDms.values.sum / plusDms.size, minusDms.values.sum / minusDms.size⟩ := by
  obtain ⟨balanced, trueRange, plusDm, minusDm, sizes⟩ := windows
  refine ⟨div_nonneg (sum_nonneg ?plus) (Nat.cast_nonneg _),
    div_nonneg (sum_nonneg ?minus) (Nat.cast_nonneg _), ?together⟩
  case plus =>
    rw [plusDm, forall_mem_map]
    exact fun input mem => (balanced input mem).plusDm
  case minus =>
    rw [minusDm, forall_mem_map]
    exact fun input mem => (balanced input mem).minusDm
  case together =>
    dsimp only
    rw [sizes.1, sizes.2, ← add_div, trueRange, plusDm, minusDm, ← sum_map_add]
    exact div_le_div_of_nonneg_right
      (sum_le_sum fun input mem => (balanced input mem).together) (Nat.cast_nonneg _)

structure ADX.Sound (adx : ADX) : Prop where
  windows : ∃ inputs,
    DirectionalWindows adx.trueRanges adx.plusDmValues adx.minusDmValues inputs
  averages : ∀ averages ∈ adx.averages, averages.Balanced
  value : ∀ value ∈ adx.value, value.InRange

theorem ADX.Sound.updateBar {adx : ADX} (sound : adx.Sound) (bar : Bar) :
    ∃ next, adx.updateBar bar = some next ∧ next.Sound := by
  have next := directionalInputs_balanced adx.prev bar
  obtain ⟨⟨inputs, windows⟩, averaged, valued⟩ := sound
  have pos := adx.trueRanges.pos
  unfold ADX.updateBar
  dsimp only
  cases known : adx.averages with
  | none =>
    have grown := windows.append next
    dsimp only
    split_ifs with filled
    · obtain ⟨dx, inside, found, values⟩ := grown.mean.inRange
      obtain ⟨value, current, inRange⟩ := values dx inside
      rw [windowMean_eq, windowMean_eq, windowMean_eq]
      simp only [Option.bind_eq_bind, Option.bind_some, found, current]
      refine ⟨_, rfl, ⟨_, grown⟩, ?_, ?_⟩
      · rintro _ ⟨⟩
        exact grown.mean
      · rintro _ ⟨⟩
        exact inRange
    · exact ⟨_, rfl, ⟨_, grown⟩, nofun, nofun⟩
  | some before =>
    have balanced := averaged before known
    have averages : DirectionalAverages.Balanced
        { trueRange := blend adx.trueRanges.size before.trueRange
            (directionalInputs adx.prev bar).trueRange
          plusDm := blend adx.trueRanges.size before.plusDm
            (directionalInputs adx.prev bar).plusDm
          minusDm := blend adx.trueRanges.size before.minusDm
            (directionalInputs adx.prev bar).minusDm } :=
      ⟨blend_nonneg pos balanced.plusDm next.plusDm,
        blend_nonneg pos balanced.minusDm next.minusDm,
        (blend_add _ _ _ _).trans_le (blend_mono pos balanced.together next.together)⟩
    obtain ⟨dx, inside, found, values⟩ := averages.inRange
    have prev : (adx.value.map DirectionalMovementValue.adx).getD dx ∈ Icc 0 100 := by
      cases valued? : adx.value with
      | none => exact inside
      | some value => exact (valued value valued?).adx
    obtain ⟨value, current, inRange⟩ := values _ ⟨blend_nonneg pos prev.1 inside.1,
      blend_le pos prev.2 inside.2⟩
    simp only [smoothed_eq pos, Option.bind_eq_bind, Option.bind_some, found, current]
    refine ⟨_, rfl, ⟨inputs, windows⟩, ?_, ?_⟩
    · rintro _ ⟨⟩
      exact averages
    · rintro _ ⟨⟩
      exact inRange

def sessionOf (history : List Bar) (last : Bar) : List Bar :=
  (history ++ [last]).rtakeWhile fun bar => decide (bar.sessionId = last.sessionId)

def tradedPrice (bar : Bar) : Decimal := typicalPrice bar * bar.volume

def SessionVWAP.ofSession (sessionId : String) (bars : List Bar) : SessionVWAP where
  sessionId := some sessionId
  cumulativePriceVolume := (bars.map tradedPrice).sum
  cumulativeVolume := (bars.map (·.volume)).sum
  value := if (bars.map (·.volume)).sum = 0 then none
    else some ((bars.map tradedPrice).sum / (bars.map (·.volume)).sum)

theorem sessionOf_concat (history : List Bar) (before last : Bar) :
    sessionOf (history ++ [before]) last =
      if before.sessionId = last.sessionId then sessionOf history before ++ [last]
      else [last] := by
  unfold sessionOf
  rw [rtakeWhile_concat_pos _ _ _ (by simp)]
  split_ifs with same
  · rw [same]
  · rw [rtakeWhile_concat_neg _ _ _ (by simpa using same), nil_append]

theorem volumes_nonneg (bars : List Bar) : 0 ≤ (bars.map (·.volume)).sum :=
  sum_nonneg (forall_mem_map.mpr fun bar _ => bar.formed.volume)

/-- A run leaves the sums of the last bar's session. -/
theorem sessionVWAP_eq (history : List Bar) (last : Bar) :
    (history ++ [last]).foldlM SessionVWAP.updateBar {} =
      some (.ofSession last.sessionId (sessionOf history last)) := by
  have opening (vwap : SessionVWAP) (bar : Bar) (new : vwap.sessionId ≠ some bar.sessionId) :
      vwap.updateBar bar = some (.ofSession bar.sessionId [bar]) := by
    simp only [SessionVWAP.updateBar, SessionVWAP.ofSession, tradedPrice, if_neg new, zero_add,
      map_singleton, sum_singleton]
    split_ifs with none
    · rfl
    · rw [quotient_eq none]
      rfl
  have going (bars : List Bar) (bar : Bar) :
      (SessionVWAP.ofSession bar.sessionId bars).updateBar bar =
        some (.ofSession bar.sessionId (bars ++ [bar])) := by
    have before := volumes_nonneg bars
    have added := bar.formed.volume
    have empty : (bars.map (·.volume)).sum + bar.volume = 0 → (bars.map (·.volume)).sum = 0 := by
      intro none
      linarith
    simp only [SessionVWAP.updateBar, SessionVWAP.ofSession, tradedPrice, map_append,
      map_singleton, sum_append, sum_singleton, if_true]
    split_ifs with none first
    · rfl
    · exact absurd (empty none) first
    · rw [quotient_eq none]
      rfl
  induction history using reverseRecOn generalizing last with
  | nil =>
    rw [nil_append, sessionOf, rtakeWhile_concat_pos _ [] _ (by simp)]
    rw [foldlM_cons, opening {} last nofun]
    rfl
  | append_singleton history before ih =>
    rw [foldlM_append, ih before, sessionOf_concat, Option.bind_eq_bind, Option.bind_some,
      foldlM_cons]
    split_ifs with same
    · rw [same, going _ last]
      rfl
    · rw [opening _ last fun found => same (Option.some_inj.mp found)]
      rfl

variable {bars : List Bar}

theorem range_spans {bar : Bar} (mem : bar ∈ bars) :
    leastLow bars ≤ bar.low ∧ bar.high ≤ greatestHigh bars := by
  unfold leastLow greatestHigh
  constructor
  · cases least : (bars.map (·.low)).min? with
    | none => exact absurd (map_eq_nil_iff.mp (min?_eq_none_iff.mp least)) (ne_nil_of_mem mem)
    | some low => exact (min?_eq_some_iff.mp least).2 _ (mem_map_of_mem mem)
  · cases most : (bars.map (·.high)).max? with
    | none => exact absurd (map_eq_nil_iff.mp (max?_eq_none_iff.mp most)) (ne_nil_of_mem mem)
    | some high => exact (max?_eq_some_iff.mp most).2 _ (mem_map_of_mem mem)

theorem sessionVWAP_mem {sessionId : String} {value : Decimal}
    (valued : (SessionVWAP.ofSession sessionId bars).value = some value) :
    value ∈ Icc (leastLow bars) (greatestHigh bars) := by
  have nonneg := volumes_nonneg bars
  unfold SessionVWAP.ofSession at valued
  dsimp only at valued
  split_ifs at valued with none
  obtain rfl := Option.some_inj.mp valued
  have pos : 0 < (bars.map (·.volume)).sum := lt_of_le_of_ne nonneg (Ne.symm none)
  rw [mem_Icc, le_div_iff₀ pos, div_le_iff₀ pos, ← sum_map_mul_left,
    ← sum_map_mul_left]
  constructor
  · refine sum_le_sum fun bar mem => ?_
    exact mul_le_mul_of_nonneg_right ((range_spans mem).1.trans (typicalPrice_mem bar).1)
      bar.formed.volume
  · refine sum_le_sum fun bar mem => ?_
    exact mul_le_mul_of_nonneg_right ((typicalPrice_mem bar).2.trans (range_spans mem).2)
      bar.formed.volume

/-- The range of a local indicator is that of its batch over so many admissible inputs. -/
theorem LocalTo.bounded {State Input Output : Type} {update : State → Input → Option State}
    {value : State → Option Output} {start : State} {count : Nat} {admissible : Input → Prop}
    {batch : List Input → Output} (localTo : LocalTo update value start count admissible batch)
    {inputs : List Input} (admitted : ∀ input ∈ inputs, admissible input) {range : Output → Prop}
    (inside : ∀ recent : List Input, recent.length = count →
      (∀ input ∈ recent, admissible input) → range (batch recent)) :
    Bounded (inputs.foldlM update start) value range := by
  obtain ⟨state, ran, valued⟩ := Option.map_eq_some_iff.mp (localTo inputs admitted)
  refine ⟨state, ran, fun output found => ?_⟩
  rw [Option.mem_def, valued, ofRecent] at found
  split_ifs at found with long
  rw [← Option.some_inj.mp found]
  exact inside _ (rtake_length long) fun input mem => admitted input (mem_of_mem_drop mem)

theorem lastClose_mem (some : bars ≠ []) :
    lastOf (·.close) bars ∈ Icc (leastLow bars) (greatestHigh bars) := by
  obtain ⟨earlier, last, rfl⟩ := (eq_nil_or_concat' bars).resolve_left some
  obtain ⟨low, high⟩ := range_spans (mem_append_right earlier (mem_singleton_self last))
  rw [lastOf, getLast?_concat]
  exact ⟨low.trans (close_mem last).1, (close_mem last).2.trans high⟩

theorem percentK_mem (bars : List Bar) : Batch.percentK bars ∈ Icc 0 100 := by
  unfold Batch.percentK
  split_ifs with flat
  · constructor <;> norm_num
  · have some : bars ≠ [] := by
      rintro rfl
      exact flat rfl
    obtain ⟨above, below⟩ := lastClose_mem some
    obtain ⟨least, most⟩ := share_mem (sub_nonneg.mpr above)
      (sub_le_sub_right below (leastLow bars))
    rw [mul_div_assoc]
    constructor <;> linarith

theorem williamsR_mem (bars : List Bar) : Batch.williamsR bars ∈ Icc (-100) 0 := by
  unfold Batch.williamsR
  split_ifs with flat
  · constructor <;> norm_num
  · have some : bars ≠ [] := by
      rintro rfl
      exact flat rfl
    obtain ⟨above, below⟩ := lastClose_mem some
    obtain ⟨least, most⟩ := share_mem (sub_nonneg.mpr below)
      (sub_le_sub_left above (greatestHigh bars))
    rw [mul_div_assoc]
    constructor <;> linarith

theorem stochasticOscillator_mem {size signal : Nat} (pos : 0 < size)
    (signalling : 0 < signal) (length : bars.length = size + signal - 1) :
    (Batch.stochasticOscillator size bars).percentK ∈ Icc 0 100 ∧
      (Batch.stochasticOscillator size bars).percentD ∈ Icc 0 100 := by
  refine ⟨percentK_mem _, ?_⟩
  have count : ((consecutive size bars).map Batch.percentK).length = signal := by
    rw [length_map, consecutive_length _ _ pos, length]
    omega
  have each : ∀ value ∈ (consecutive size bars).map Batch.percentK, value ∈ Icc 0 100 :=
    forall_mem_map.mpr fun run _ => percentK_mem run
  have some : (0 : Decimal) < signal := by exact_mod_cast signalling
  have most := sum_le_card_nsmul _ 100 fun value mem => (each value mem).2
  rw [count, nsmul_eq_mul] at most
  unfold Batch.stochasticOscillator average
  rw [mem_Icc, count, le_div_iff₀ some, div_le_iff₀ some, zero_mul]
  exact ⟨sum_nonneg fun value mem => (each value mem).1, by linarith⟩

theorem moneyFlowIndex_mem (nonneg : ∀ bar ∈ bars, 0 ≤ bar.low) :
    Batch.moneyFlowIndex bars ∈ Icc 0 100 := by
  have rises : 0 ≤ (changes (Batch.flow (· < ·)) bars).sum := flows_nonneg nonneg
  have falls : 0 ≤ (changes (Batch.flow (· > ·)) bars).sum := flows_nonneg nonneg
  unfold Batch.moneyFlowIndex
  dsimp only
  split_ifs with flat
  · constructor <;> norm_num
  · obtain ⟨least, most⟩ := share_mem rises (le_add_of_nonneg_right falls)
    rw [mul_div_assoc]
    constructor <;> linarith

theorem closeLocation_mem (bar : Bar) : Batch.closeLocation bar ∈ Icc (-1) 1 := by
  obtain ⟨above, below⟩ := close_mem bar
  unfold Batch.closeLocation
  split_ifs with flat
  · constructor <;> norm_num
  · have range : 0 < bar.high - bar.low :=
      sub_pos.mpr (lt_of_le_of_ne (low_le_high bar) (Ne.symm flat))
    rw [mem_Icc, le_div_iff₀ range, div_le_iff₀ range]
    constructor <;> linarith

theorem chaikinMoneyFlow_mem (bars : List Bar) :
    Batch.chaikinMoneyFlow bars ∈ Icc (-1) 1 := by
  have volumes := volumes_nonneg bars
  unfold Batch.chaikinMoneyFlow
  dsimp only
  split_ifs with flat
  · constructor <;> norm_num
  · have traded : 0 < (bars.map (·.volume)).sum := lt_of_le_of_ne volumes (Ne.symm flat)
    rw [mem_Icc, le_div_iff₀ traded, div_le_iff₀ traded, ← sum_map_mul_left,
      ← sum_map_mul_left]
    refine ⟨sum_le_sum fun bar _ => ?_, sum_le_sum fun bar _ => ?_⟩
    · exact mul_le_mul_of_nonneg_right (closeLocation_mem bar).1 bar.formed.volume
    · exact mul_le_mul_of_nonneg_right (closeLocation_mem bar).2 bar.formed.volume

def RSI.start {size : Nat} (pos : 0 < size) : RSI where
  gains := emptyWindow size pos
  losses := emptyWindow size pos

def ADX.start {size : Nat} (pos : 0 < size) : ADX where
  trueRanges := emptyWindow size pos
  plusDmValues := emptyWindow size pos
  minusDmValues := emptyWindow size pos

section Starts

variable {size : Nat} (pos : 0 < size)

theorem RSI.Sound.start : RSI.Sound (.start pos) :=
  ⟨nofun, nofun, nofun, nofun⟩

theorem ADX.Sound.start : ADX.Sound (.start pos) :=
  ⟨⟨[], nofun, rfl, rfl, rfl, rfl, rfl⟩, nofun, nofun⟩

end Starts

/-- What every run of updates over valid bars returns. -/
structure OscillatorsBounded {size signal : Nat} (pos : 0 < size) (signalling : 0 < signal)
    (bars : List Bar) : Prop where
  rsi : Bounded ((bars.map (·.close)).foldlM RSI.update (.start pos)) RSI.value
    (· ∈ Icc 0 100)
  stochastic : Bounded
    (bars.foldlM StochasticOscillator.updateBar (.start pos signalling))
    StochasticOscillator.value
    fun value => value.percentK ∈ Icc 0 100 ∧ value.percentD ∈ Icc 0 100
  mfi : Bounded (bars.foldlM MoneyFlowIndex.updateBar (.start pos)) MoneyFlowIndex.value
    (· ∈ Icc 0 100)
  williams : Bounded (bars.foldlM WilliamsR.updateBar
      ⟨emptyWindow size pos, emptyWindow size pos, none⟩) TwoWindows.value
    (· ∈ Icc (-100) 0)
  cmf : Bounded (bars.foldlM ChaikinMoneyFlow.updateBar
      ⟨emptyWindow size pos, emptyWindow size pos, none⟩) TwoWindows.value
    (· ∈ Icc (-1) 1)
  adx : Bounded (bars.foldlM ADX.updateBar (.start pos)) ADX.value
    DirectionalMovementValue.InRange
  vwap : ∀ history last, bars = history ++ [last] →
    let session := sessionOf history last
    Bounded (bars.foldlM SessionVWAP.updateBar {}) SessionVWAP.value
      (· ∈ Icc (leastLow session) (greatestHigh session))

/-- Over valid bars no update divides by zero, and every value lies in its range. -/
theorem oscillators_bounded {size signal : Nat} (pos : 0 < size) (signalling : 0 < signal)
    (bars : List Bar) (nonneg : ∀ bar ∈ bars, 0 ≤ bar.low) :
    OscillatorsBounded pos signalling bars where
  rsi := by
    obtain ⟨state, ran, sound⟩ := @foldlM_invariant _ _ (fun _ => True) RSI.update _
      (fun _ state => state.Sound) (.start pos)
      (fun _ price _ _ known => known.update price) (bars.map (·.close)) fun _ _ => trivial
    exact ⟨state, ran, sound.value⟩
  stochastic := (stochasticOscillator_local pos signalling).bounded (fun _ _ => trivial)
    fun _ length _ => stochasticOscillator_mem pos signalling length
  mfi := (moneyFlowIndex_local pos).bounded nonneg fun _ _ => moneyFlowIndex_mem
  williams := (williamsR_local pos).bounded (fun _ _ => trivial)
    fun recent _ _ => williamsR_mem recent
  cmf := (chaikinMoneyFlow_local pos).bounded (fun _ _ => trivial)
    fun recent _ _ => chaikinMoneyFlow_mem recent
  adx := by
    obtain ⟨state, ran, sound⟩ := @foldlM_invariant _ _ (fun _ => True) ADX.updateBar _
      (fun _ state => state.Sound) (.start pos)
      (fun _ bar _ _ known => known.updateBar bar) bars fun _ _ => trivial
    exact ⟨state, ran, sound.value⟩
  vwap := by
    rintro history last rfl
    exact ⟨_, sessionVWAP_eq history last, fun _ valued => sessionVWAP_mem valued⟩

def steadyBar : Bar where
  instrumentId := ⟨"AAPL", Eq.refl false⟩
  startTime := 0
  endTime := 60
  timeframe := "1m"
  sessionId := "2026-05-19"
  openPrice := 10
  high := 11
  low := 9
  close := 10
  volume := 5
  valid := by decide +kernel

def jumpingBar : Bar where
  toBarFields := { steadyBar.toBarFields with high := 16, close := 15, volume := 0 }
  valid := by decide +kernel

def fallingBar : Bar where
  toBarFields := { steadyBar.toBarFields with openPrice := 7, low := 5, close := 6 }
  valid := by decide +kernel

theorem oscillators_bounded_swing :
    OscillatorsBounded (Nat.succ_pos 1) (Nat.succ_pos 1)
      [steadyBar, jumpingBar, fallingBar, fallingBar, steadyBar] :=
  oscillators_bounded _ _ _ (by decide +kernel)

end TechnicalIndicators

end Qts
