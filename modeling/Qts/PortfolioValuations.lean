import Mathlib.Algebra.BigOperators.Ring.List
import Qts.DictionaryTotals
import Qts.IntentProcessing

/-! # Valuations of moved portfolios -/

namespace Qts

open Dict PortfolioValuator MarginCalculator Option

def heldQuantity (holdings : Dict InstrumentId Holding) (instrumentId : InstrumentId) :
    Decimal :=
  ((holdings.get? instrumentId).map (·.quantity)).getD 0

/-- Between two portfolios one instrument has moved by a quantity. -/
def Moved (before : Dict InstrumentId Holding) (instrumentId : InstrumentId)
    (quantityDelta : Decimal) (after : Dict InstrumentId Holding) : Prop :=
  ∀ other, heldQuantity after other =
    heldQuantity before other + if other = instrumentId then quantityDelta else 0

theorem Moved.self {before after : Dict InstrumentId Holding} {instrumentId : InstrumentId}
    {quantityDelta : Decimal} (moved : Moved before instrumentId quantityDelta after) :
    heldQuantity after instrumentId = heldQuantity before instrumentId + quantityDelta := by
  rw [moved, if_pos rfl]

theorem Moved.other {before after : Dict InstrumentId Holding}
    {instrumentId other : InstrumentId} {quantityDelta : Decimal}
    (moved : Moved before instrumentId quantityDelta after) (ne : other ≠ instrumentId) :
    heldQuantity after other = heldQuantity before other := by
  rw [moved, if_neg ne, add_zero]

namespace PortfolioValuator

variable (marks multipliers : DecimalMap)

theorem marketValue_eq (instrumentId : InstrumentId) (holding : Holding) :
    marketValue marks multipliers instrumentId holding =
      holding.quantity * (marks.get? instrumentId).getD 0 *
        (multipliers.get? instrumentId).getD 1 := by
  rw [marketValue]
  cases marks.get? instrumentId with
  | none => simp
  | some mark =>
    by_cases flat : holding.quantity = 0
    · simp [flat]
    · simp [flat]

variable (cash : Dict String Decimal) (holdings : Dict InstrumentId Holding)

theorem valuate_accountEquity :
    (valuate cash holdings marks multipliers).accountEquity =
      convertCash cash + holdings.keyedTotal (marketValue marks multipliers) :=
  rfl

theorem valuate_currentExposure :
    (valuate cash holdings marks multipliers).currentExposure =
      holdings.keyedTotal fun instrumentId holding =>
        |marketValue marks multipliers instrumentId holding| := by
  simp only [valuate, List.map_map, keyedTotal]
  rfl

theorem valuate_currentNotional (instrumentId : InstrumentId) :
    (((valuate cash holdings marks multipliers).currentNotionalByInstrument.get?
      instrumentId).getD 0) =
      holdings.weightAt (fun instrumentId holding =>
        |marketValue marks multipliers instrumentId holding|) instrumentId := by
  rw [weightAt]
  refine congrArg (Option.getD · 0) ?_
  simp only [valuate]
  have distinct : ((holdings.items.map fun item =>
      (item.1, |marketValue marks multipliers item.1 item.2|)).map Prod.fst).Nodup := by
    rw [List.map_map]
    exact holdings.distinct
  apply Option.ext
  intro notional
  rw [get?_eq_some_iff, ofItems_items distinct]
  constructor
  · intro mem
    obtain ⟨⟨key, holding⟩, held, same⟩ := List.mem_map.mp mem
    cases same
    rw [(holdings.get?_eq_some_iff).mpr held]
    rfl
  · intro stored
    obtain ⟨holding, held, rfl⟩ := map_eq_some_iff.mp stored
    exact List.mem_map.mpr ⟨(instrumentId, holding), (holdings.get?_eq_some_iff).mp held, rfl⟩

theorem valuate_currentPosition (instrumentId : InstrumentId) :
    (((valuate cash holdings marks multipliers).currentPositionByInstrument.get?
      instrumentId).getD 0) = heldQuantity holdings instrumentId := by
  rw [heldQuantity, ← get?_ofItems_map]
  rfl

end PortfolioValuator

namespace MarginCalculator

theorem positionNotional_eq (marks multipliers : DecimalMap) (instrumentId : InstrumentId)
    (holding : Holding) :
    positionNotional marks multipliers instrumentId holding =
      |holding.quantity| * (marks.get? instrumentId).getD 0 *
        (multipliers.get? instrumentId).getD 1 := by
  rw [positionNotional]
  cases marks.get? instrumentId with
  | none => simp
  | some mark =>
    by_cases flat : holding.quantity = 0
    · simp [flat]
    · simp [flat]

theorem marginRequirement_initialMargin (calculator : MarginCalculator)
    (positions : Dict InstrumentId Holding) (marks multipliers : DecimalMap)
    (accountEquity : Decimal) :
    (calculator.marginRequirement positions marks multipliers accountEquity).initialMargin =
      positions.keyedTotal (positionNotional marks multipliers) *
        calculator.initialMarginRate := by
  rw [keyedTotal, ← List.sum_map_mul_right]
  simp only [marginRequirement, List.map_map]
  rfl

end MarginCalculator

namespace TargetIntentProcessor

open RaisingCalls

variable {proc : TargetIntentProcessor} {marks multipliers : DecimalMap}

def multiplierOf (proc : TargetIntentProcessor) (instrumentId : InstrumentId) : Decimal :=
  match proc.multiplierFor instrumentId with
  | .ok multiplier => multiplier
  | .error _ => 1

def worth (proc : TargetIntentProcessor) (marks : DecimalMap) (instrumentId : InstrumentId)
    (quantity : Decimal) : Decimal :=
  quantity * (marks.get? instrumentId).getD 0 * proc.multiplierOf instrumentId

theorem multipliersOf_get? {instruments : List InstrumentId} {start result : DecimalMap}
    (built : proc.multipliersOf instruments start = .ok result) (instrumentId : InstrumentId) :
    result.get? instrumentId =
      if instrumentId ∈ instruments then some (proc.multiplierOf instrumentId)
      else start.get? instrumentId := by
  induction instruments generalizing start with
  | nil =>
    cases built
    rfl
  | cons first rest ih =>
    obtain ⟨multiplier, found, later⟩ := bind_inv built
    have known : proc.multiplierOf first = multiplier := by
      rw [multiplierOf, found]
    rw [ih later]
    by_cases among : instrumentId ∈ rest
    · rw [if_pos among, if_pos (List.mem_cons_of_mem _ among)]
    · rw [if_neg among, get?_set]
      by_cases same : instrumentId = first
      · rw [if_pos same, if_pos (same ▸ List.mem_cons_self), same, known]
      · have absent : instrumentId ∉ first :: rest := fun mem =>
          (List.mem_cons.mp mem).elim same among
        rw [if_neg same, if_neg absent]

section Held

variable {holdings : Dict InstrumentId Holding}
  (known : proc.multipliersOf holdings.keys .empty = .ok multipliers)

include known

theorem multiplier_held {instrumentId : InstrumentId} {holding : Holding}
    (held : holdings.get? instrumentId = some holding) :
    (multipliers.get? instrumentId).getD 1 = proc.multiplierOf instrumentId := by
  rw [multipliersOf_get? known, if_pos ((holdings.mem_keys_iff).mpr ⟨holding, held⟩)]
  rfl

variable (instrumentId : InstrumentId)

theorem weightAt_marketValue :
    holdings.weightAt (marketValue marks multipliers) instrumentId =
      proc.worth marks instrumentId (heldQuantity holdings instrumentId) := by
  rw [weightAt, heldQuantity, worth]
  cases held : holdings.get? instrumentId with
  | none => simp
  | some holding =>
    simp only [map_some, getD_some]
    rw [marketValue_eq, multiplier_held known held]

theorem weightAt_abs_marketValue :
    holdings.weightAt (fun instrumentId holding =>
        |marketValue marks multipliers instrumentId holding|) instrumentId =
      |proc.worth marks instrumentId (heldQuantity holdings instrumentId)| := by
  rw [← weightAt_marketValue known, weightAt, weightAt]
  cases holdings.get? instrumentId with
  | none => simp
  | some holding => rfl

theorem weightAt_positionNotional :
    holdings.weightAt (positionNotional marks multipliers) instrumentId =
      proc.worth marks instrumentId |heldQuantity holdings instrumentId| := by
  rw [weightAt, heldQuantity, worth]
  cases held : holdings.get? instrumentId with
  | none => simp
  | some holding =>
    simp only [map_some, getD_some]
    rw [positionNotional_eq, multiplier_held known held]

end Held

section Moves

variable {before after : Dict InstrumentId Holding} {later : DecimalMap}
  {instrumentId : InstrumentId} {quantityDelta : Decimal}
  (known : proc.multipliersOf before.keys .empty = .ok multipliers)
  (knownAfter : proc.multipliersOf after.keys .empty = .ok later)
  (moved : Moved before instrumentId quantityDelta after)

include known knownAfter moved

theorem marketValue_moved :
    after.keyedTotal (marketValue marks later) =
      before.keyedTotal (marketValue marks multipliers) +
        proc.worth marks instrumentId quantityDelta := by
  have others : ∀ unmoved, unmoved ≠ instrumentId →
      after.weightAt (marketValue marks later) unmoved =
        before.weightAt (marketValue marks multipliers) unmoved := by
    intro unmoved ne
    rw [weightAt_marketValue known, weightAt_marketValue knownAfter, moved.other ne]
  rw [keyedTotal_eq_add_sub others, weightAt_marketValue known,
    weightAt_marketValue knownAfter, moved.self]
  simp only [worth]
  ring

theorem exposure_moved :
    (after.keyedTotal fun instrumentId holding =>
        |marketValue marks later instrumentId holding|) =
      (before.keyedTotal fun instrumentId holding =>
          |marketValue marks multipliers instrumentId holding|) +
        (|proc.worth marks instrumentId (heldQuantity before instrumentId + quantityDelta)| -
          |proc.worth marks instrumentId (heldQuantity before instrumentId)|) := by
  rw [← moved.self, ← weightAt_abs_marketValue known, ← weightAt_abs_marketValue knownAfter]
  refine keyedTotal_eq_add_sub fun unmoved ne => ?_
  rw [weightAt_abs_marketValue known, weightAt_abs_marketValue knownAfter, moved.other ne]

theorem positionNotional_moved :
    after.keyedTotal (positionNotional marks later) =
      before.keyedTotal (positionNotional marks multipliers) +
        proc.worth marks instrumentId
          (|heldQuantity before instrumentId + quantityDelta| -
            |heldQuantity before instrumentId|) := by
  have others : ∀ unmoved, unmoved ≠ instrumentId →
      after.weightAt (positionNotional marks later) unmoved =
        before.weightAt (positionNotional marks multipliers) unmoved := by
    intro unmoved ne
    rw [weightAt_positionNotional known, weightAt_positionNotional knownAfter,
      moved.other ne]
  rw [keyedTotal_eq_add_sub others, weightAt_positionNotional known,
    weightAt_positionNotional knownAfter, moved.self]
  simp only [worth]
  ring

end Moves

end TargetIntentProcessor

end Qts
