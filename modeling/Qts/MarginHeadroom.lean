import Qts.MarkIsolation
import Qts.RiskRequests

/-! # The margin rule against recomputed margin -/

namespace Qts.TargetIntentProcessor

/-- The decision on an order that recomputing the margin after the trade calls for: an order that
does not increase its position passes, any other order passes if the margin then fits. -/
structure MarginExact (proc : TargetIntentProcessor) (calculator : MarginCalculator)
    (snapshot : AccountSnapshot) (marks multipliers : DecimalMap) (plan : OrderPlan)
    (approved : Prop) : Prop where
  reducing : |heldQuantity snapshot.holdings plan.instrumentId + plan.quantityDelta| ≤
    |heldQuantity snapshot.holdings plan.instrumentId| → approved
  increasing : |heldQuantity snapshot.holdings plan.instrumentId| <
      |heldQuantity snapshot.holdings plan.instrumentId + plan.quantityDelta| →
    ∀ after later, Moved snapshot.holdings plan.instrumentId plan.quantityDelta after →
      proc.multipliersOf after.keys .empty = .ok later →
      let equity := (PortfolioValuator.valuate snapshot.cash snapshot.holdings marks
        multipliers).accountEquity
      (approved ↔ (calculator.marginRequirement after marks later equity).initialMargin ≤ equity)

section

variable {proc : TargetIntentProcessor} {calculator : MarginCalculator}
  {snapshot : AccountSnapshot} {marks multipliers : DecimalMap} {intradayPnl : Decimal}
  {req : IntentRequest} {plan : OrderPlan} {riskRequest : OrderRiskRequest}

theorem marginRule_accountRequest (configured : proc.marginCalculator = some calculator)
    (built : proc.accountRequest req snapshot marks multipliers intradayPnl plan =
      .ok riskRequest) (describe : Decimal → String) :
    let held := heldQuantity snapshot.holdings plan.instrumentId
    let equity := (PortfolioValuator.valuate snapshot.cash snapshot.holdings marks
      multipliers).accountEquity
    (marginRule describe riskRequest).approved = true ↔
      (calculator.marginRequirement snapshot.holdings marks multipliers equity).initialMargin +
          max (|held + plan.quantityDelta| - |held|) 0 * plan.marketPrice *
            proc.multiplierOf plan.instrumentId * calculator.initialMarginRate ≤ equity := by
  intro held equity
  obtain ⟨available, projected⟩ := accountRequest_margin built configured
  rw [marginRule_approved projected available, calculator.marginRequirement_initialMargin,
    le_sub_iff_add_le, add_comm]

theorem initialMargin_moved {after : Dict InstrumentId Holding} {later : DecimalMap}
    (known : proc.multipliersOf snapshot.holdings.keys .empty = .ok multipliers)
    (knownAfter : proc.multipliersOf after.keys .empty = .ok later)
    (priced : marks.get? plan.instrumentId = some plan.marketPrice)
    (moved : Moved snapshot.holdings plan.instrumentId plan.quantityDelta after) (equity : Decimal)
    : let held := heldQuantity snapshot.holdings plan.instrumentId
    (calculator.marginRequirement after marks later equity).initialMargin =
      (calculator.marginRequirement snapshot.holdings marks multipliers equity).initialMargin +
        (|held + plan.quantityDelta| - |held|) * plan.marketPrice *
          proc.multiplierOf plan.instrumentId * calculator.initialMarginRate := by
  intro held
  rw [calculator.marginRequirement_initialMargin, calculator.marginRequirement_initialMargin,
    positionNotional_moved known knownAfter moved, add_mul, worth, priced, Option.getD_some]

/-- The margin rule is exact on every order that increases its position, and on the others where
the margin of the account is within its equity. -/
theorem marginRule_exact_iff (configured : proc.marginCalculator = some calculator)
    (known : proc.multipliersOf snapshot.holdings.keys .empty = .ok multipliers)
    (priced : marks.get? plan.instrumentId = some plan.marketPrice)
    (built : proc.accountRequest req snapshot marks multipliers intradayPnl plan =
      .ok riskRequest) (describe : Decimal → String) :
    let held := heldQuantity snapshot.holdings plan.instrumentId
    let equity := (PortfolioValuator.valuate snapshot.cash snapshot.holdings marks
      multipliers).accountEquity
    proc.MarginExact calculator snapshot marks multipliers plan
        ((marginRule describe riskRequest).approved = true) ↔
      |held| < |held + plan.quantityDelta| ∨
        (calculator.marginRequirement snapshot.holdings marks multipliers equity).initialMargin ≤
          equity := by
  intro held equity
  have decided := marginRule_accountRequest configured built describe
  constructor
  · intro exact
    rcases lt_or_ge |held| |held + plan.quantityDelta| with increases | reduces
    · exact .inl increases
    · have fits := decided.mp (exact.reducing reduces)
      have nothing : max (|held + plan.quantityDelta| - |held|) 0 = 0 :=
        max_eq_right (sub_nonpos.mpr reduces)
      rw [nothing, zero_mul, zero_mul, zero_mul, add_zero] at fits
      exact .inr fits
  · intro condition
    constructor
    · intro reduces
      have within := condition.resolve_left (not_lt.mpr reduces)
      have nothing : max (|held + plan.quantityDelta| - |held|) 0 = 0 :=
        max_eq_right (sub_nonpos.mpr reduces)
      refine decided.mpr ?_
      rw [nothing, zero_mul, zero_mul, zero_mul, add_zero]
      exact within
    · intro increases after later moved knownAfter
      have added : max (|held + plan.quantityDelta| - |held|) 0 =
          |held + plan.quantityDelta| - |held| := max_eq_left (sub_nonneg.mpr increases.le)
      refine decided.trans ?_
      rw [added, initialMargin_moved known knownAfter priced moved]

end

def marginProcessor : TargetIntentProcessor :=
  { plainProcessor with marginCalculator := some .default }

/-- Ten units marked at 100, of which 990 is owed: an equity of 10 against a margin of 50. -/
def overMargin : AccountSnapshot where
  cash := Dict.empty.set "USD" (-990)
  holdings := Dict.empty.set heldInstrument
    { instrumentId := heldInstrument, quantity := 10, averageCost := 100, realizedPnl := 0 }

def markAtHundred : DecimalMap :=
  Dict.empty.set heldInstrument 100

def unitMultiplier : DecimalMap :=
  Dict.empty.set heldInstrument 1

def sellUnit : OrderPlan where
  accountId := ⟨⟨"account-1", Eq.refl false⟩⟩
  instrumentId := heldInstrument
  quantityDelta := -1
  marketPrice := 100
  orderTime := none
  orderSpec := .default

/-- What is asked about the sale. -/
def sellUnitRequest : Except Failure OrderRiskRequest :=
  marginProcessor.accountRequest oneUnit overMargin markAtHundred unitMultiplier 0 sellUnit

theorem marginRule_exact_iff_sellUnit : ∃ riskRequest, sellUnitRequest = .ok riskRequest ∧
    (marginProcessor.MarginExact .default overMargin markAtHundred unitMultiplier sellUnit
        ((marginRule (fun _ => "") riskRequest).approved = true) ↔
      |heldQuantity overMargin.holdings heldInstrument| <
          |heldQuantity overMargin.holdings heldInstrument + sellUnit.quantityDelta| ∨
        (MarginCalculator.default.marginRequirement overMargin.holdings markAtHundred
          unitMultiplier (PortfolioValuator.valuate overMargin.cash overMargin.holdings
            markAtHundred unitMultiplier).accountEquity).initialMargin ≤
          (PortfolioValuator.valuate overMargin.cash overMargin.holdings markAtHundred
            unitMultiplier).accountEquity) := by
  cases built : sellUnitRequest with
  | error failure =>
    have returned : sellUnitRequest.isOk = true := by decide +kernel
    rw [built] at returned
    cases returned
  | ok riskRequest =>
    exact ⟨riskRequest, rfl, marginRule_exact_iff rfl rfl rfl built fun _ => ""⟩

/-- Selling one of the ten units is refused, because the margin already exceeds the equity. -/
theorem reducing_order_refused_by_margin :
    sellUnitRequest.toOption.map (fun asked => (marginRule (fun _ => "") asked).approved) =
        some false ∧
      ∀ riskRequest, sellUnitRequest = .ok riskRequest →
        ¬ marginProcessor.MarginExact .default overMargin markAtHundred unitMultiplier sellUnit
          ((marginRule (fun _ => "") riskRequest).approved = true) := by
  have refused : sellUnitRequest.toOption.map
      (fun asked => (marginRule (fun _ => "") asked).approved) = some false := by
    decide +kernel
  refine ⟨refused, fun riskRequest built exact => ?_⟩
  have approved := exact.reducing (by decide +kernel)
  rw [built] at refused
  simp [Except.toOption, approved] at refused

end Qts.TargetIntentProcessor

namespace Qts.TargetIntentProcessor

/-- The order closes a part of the position or all of it, without crossing zero. -/
def Reduces (held quantityDelta : Decimal) : Prop :=
  |held + quantityDelta| < |held| ∧ 0 ≤ held * (held + quantityDelta)

structure SizeLimits where
  position : PositionLimitRule
  leverage : LeverageLimitRule
  concentration : ConcentrationLimitRule

/-- The four rules as the engine asks them. -/
def SizeLimits.rules (limits : SizeLimits) (describe : Decimal → String) : List RiskRule :=
  [limits.position.check describe, limits.leverage.check describe,
    limits.concentration.check describe, marginRule describe]

def PassesLimits (proc : TargetIntentProcessor) (limits : SizeLimits)
    (describe : Decimal → String) (req : IntentRequest) (snapshot : AccountSnapshot)
    (marks multipliers : DecimalMap) (intradayPnl : Decimal) (plan : OrderPlan) : Prop :=
  ∃ riskRequest,
    proc.accountRequest req snapshot marks multipliers intradayPnl plan =
      .ok riskRequest ∧
    ∀ rule ∈ limits.rules describe, (rule riskRequest).approved = true

/-- The account is solvent, what the order leaves is within the position limit, what is held and
the order together are within the leverage and the concentration limit, and the margin is within
the equity. -/
structure RoomToReduce (proc : TargetIntentProcessor) (limits : SizeLimits)
    (calculator : MarginCalculator) (snapshot : AccountSnapshot) (marks multipliers : DecimalMap)
    (plan : OrderPlan) : Prop where
  solvent : 0 < (PortfolioValuator.valuate snapshot.cash snapshot.holdings marks
    multipliers).accountEquity
  position : |heldQuantity snapshot.holdings plan.instrumentId + plan.quantityDelta| ≤
    limits.position.maxPosition
  leverage :
    let valuation := PortfolioValuator.valuate snapshot.cash snapshot.holdings marks multipliers
    equityMultiple valuation.currentExposure (proc.orderNotional plan)
      valuation.accountEquity ≤ limits.leverage.maxLeverage
  concentration :
    let valuation := PortfolioValuator.valuate snapshot.cash snapshot.holdings marks multipliers
    equityMultiple ((valuation.currentNotionalByInstrument.get? plan.instrumentId).getD 0)
      (proc.orderNotional plan) valuation.accountEquity ≤ limits.concentration.maxFraction
  margin :
    let equity := (PortfolioValuator.valuate snapshot.cash snapshot.holdings marks
      multipliers).accountEquity
    (calculator.marginRequirement snapshot.holdings marks multipliers equity).initialMargin ≤ equity

section

variable {proc : TargetIntentProcessor} {limits : SizeLimits} {calculator : MarginCalculator}
  {snapshot : AccountSnapshot} {marks multipliers : DecimalMap} {intradayPnl : Decimal}
  {req : IntentRequest} {plan : OrderPlan} {riskRequest : OrderRiskRequest}
  {describe : Decimal → String}

theorem rules_approve_iff :
    (∀ rule ∈ limits.rules describe, (rule riskRequest).approved = true) ↔
      (limits.position.check describe riskRequest).approved = true ∧
        (limits.leverage.check describe riskRequest).approved = true ∧
        (limits.concentration.check describe riskRequest).approved = true ∧
        (marginRule describe riskRequest).approved = true := by
  simp [SizeLimits.rules]

theorem marginRule_reducing (configured : proc.marginCalculator = some calculator)
    (built : proc.accountRequest req snapshot marks multipliers intradayPnl plan =
      .ok riskRequest)
    (reduces : Reduces (heldQuantity snapshot.holdings plan.instrumentId) plan.quantityDelta) :
    let equity := (PortfolioValuator.valuate snapshot.cash snapshot.holdings marks
      multipliers).accountEquity
    (marginRule describe riskRequest).approved = true ↔
      (calculator.marginRequirement snapshot.holdings marks multipliers equity).initialMargin ≤
        equity := by
  intro equity
  refine (marginRule_accountRequest configured built describe).trans ?_
  rw [max_eq_right (sub_nonpos.mpr reduces.1.le), zero_mul, zero_mul, zero_mul, add_zero]

/-- A risk-reducing order passes the size limits exactly where the account has room for it as if
it were any other order. -/
theorem reducing_order_passes_iff (configured : proc.marginCalculator = some calculator)
    (order : WellFormedOrder proc req plan)
    (reduces : Reduces (heldQuantity snapshot.holdings plan.instrumentId) plan.quantityDelta) :
    PassesLimits proc limits describe req snapshot marks multipliers intradayPnl plan ↔
      RoomToReduce proc limits calculator snapshot marks multipliers plan := by
  have buildable := accountRequest_isOk_iff order snapshot marks multipliers intradayPnl
  constructor
  · rintro ⟨riskRequest, built, approved⟩
    obtain ⟨position, leverage, concentration, margin⟩ := rules_approve_iff.mp approved
    have equity := accountRequest_accountEquity built
    rw [positionLimitRule_approved, accountRequest_projectedPosition built] at position
    rw [leverageLimitRule_approved equity, accountRequest_currentExposure built,
      accountRequest_notional built] at leverage
    rw [concentrationLimitRule_approved equity, accountRequest_notional built,
      accountRequest_heldNotional built] at concentration
    exact ⟨buildable.mp ⟨riskRequest, built⟩, position, leverage, concentration,
      (marginRule_reducing configured built reduces).mp margin⟩
  · intro room
    obtain ⟨riskRequest, built⟩ := buildable.mpr room.solvent
    have equity := accountRequest_accountEquity built
    refine ⟨riskRequest, built, rules_approve_iff.mpr ⟨?_, ?_, ?_, ?_⟩⟩
    · rw [positionLimitRule_approved, accountRequest_projectedPosition built]
      exact room.position
    · rw [leverageLimitRule_approved equity, accountRequest_currentExposure built,
        accountRequest_notional built]
      exact room.leverage
    · rw [concentrationLimitRule_approved equity, accountRequest_notional built,
        accountRequest_heldNotional built]
      exact room.concentration
    · exact (marginRule_reducing configured built reduces).mpr room.margin

end

/-- At most ten units, at most twice the equity, all of it in one instrument. -/
def tenUnits : SizeLimits where
  position := ⟨10, Eq.refl true⟩
  leverage := ⟨2, Eq.refl true⟩
  concentration := ⟨1, Eq.refl true, rfl⟩

/-- Twenty units marked at 100, without debt. -/
def overLimit : AccountSnapshot where
  cash := Dict.empty.set "USD" 10000
  holdings := Dict.empty.set heldInstrument
    { instrumentId := heldInstrument, quantity := 20, averageCost := 100, realizedPnl := 0 }

theorem sellUnit_wellFormed : WellFormedOrder marginProcessor oneUnit sellUnit where
  moves := by decide +kernel
  price := by decide +kernel
  multiplier := ⟨1, rfl, by decide +kernel⟩
  aggregation := rfl
  conflict := rfl

theorem reducing_order_passes_iff_sellUnit :
    PassesLimits marginProcessor tenUnits (fun _ => "") oneUnit overLimit markAtHundred
        unitMultiplier 0 sellUnit ↔
      RoomToReduce marginProcessor tenUnits .default overLimit markAtHundred unitMultiplier
        sellUnit :=
  reducing_order_passes_iff rfl sellUnit_wellFormed ⟨by decide +kernel, by decide +kernel⟩

/-- Selling one of the twenty units is refused by the position limit. -/
theorem reducing_order_refused_by_position :
    Reduces (heldQuantity overLimit.holdings heldInstrument) sellUnit.quantityDelta ∧
      ((marginProcessor.accountRequest oneUnit overLimit markAtHundred unitMultiplier 0
          sellUnit).toOption.map
        fun asked => (tenUnits.rules fun _ => "").map fun rule => (rule asked).approved) =
        some [false, true, true, true] ∧
      ¬ PassesLimits marginProcessor tenUnits (fun _ => "") oneUnit overLimit markAtHundred
        unitMultiplier 0 sellUnit := by
  have decisions : ((marginProcessor.accountRequest oneUnit overLimit markAtHundred unitMultiplier
      0 sellUnit).toOption.map
        fun asked => (tenUnits.rules fun _ => "").map fun rule => (rule asked).approved) =
        some [false, true, true, true] := by
    decide +kernel
  refine ⟨⟨by decide +kernel, by decide +kernel⟩, decisions, ?_⟩
  rintro ⟨riskRequest, built, approved⟩
  rw [built] at decisions
  have refused := approved _ List.mem_cons_self
  simp [Except.toOption, SizeLimits.rules, refused] at decisions

end Qts.TargetIntentProcessor
