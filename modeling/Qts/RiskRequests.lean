import Qts.PortfolioValuations

/-! # Risk requests of planned orders -/

namespace Qts.TargetIntentProcessor

open RaisingCalls DecimalRounding

variable {proc : TargetIntentProcessor} {req : IntentRequest}
  {riskState : RiskStateSnapshot} {plan : OrderPlan} {riskRequest : OrderRiskRequest}

abbrev orderFields (req : IntentRequest) (plan : OrderPlan) (multiplier : Decimal) :
    OrderRiskRequestFields where
  instrumentId := plan.instrumentId
  quantity := |plan.quantityDelta|
  price := plan.marketPrice
  multiplier := multiplier
  orderSpec := plan.orderSpec
  orderTime := plan.orderTime
  contributingStrategyIds := req.contributingStrategyIds
  aggregationDecisionId := plan.aggregationDecisionId
  conflictReason := req.conflictReason
  marketData := req.marketDataContext

abbrev requestFields (proc : TargetIntentProcessor) (req : IntentRequest)
    (riskState : RiskStateSnapshot) (plan : OrderPlan) (multiplier : Decimal) :
    OrderRiskRequestFields :=
  { orderFields req plan multiplier with
    accountEquity := some riskState.accountEquity
    currentExposure := riskState.currentExposure
    intradayPnl := some riskState.intradayPnl
    currentNotionalByInstrument := some riskState.currentNotionalByInstrument
    currentPosition := riskState.currentPosition plan.instrumentId
    signedQuantityDelta := some plan.quantityDelta
    currentMarginRequirement := some riskState.currentMarginRequirement
    availableMargin := some riskState.availableMargin
    projectedInitialMargin := proc.projectedInitialMargin
      (riskState.currentPosition plan.instrumentId) plan.quantityDelta plan.marketPrice multiplier }

theorem riskRequest_built (built : proc.riskRequest req riskState plan = .ok riskRequest) :
    proc.multiplierFor plan.instrumentId = .ok riskRequest.multiplier ∧
      riskRequest.toOrderRiskRequestFields =
        proc.requestFields req riskState plan riskRequest.multiplier := by
  obtain ⟨multiplier, found, built⟩ := bind_inv built
  obtain ⟨described, first, built⟩ := bind_inv built
  obtain ⟨marginMultiplier, again, built⟩ := bind_inv built
  obtain rfl : multiplier = marginMultiplier := ok_unique found again
  have fields := OrderRiskRequest.create_fields built
  rw [OrderRiskRequest.create_fields first] at fields
  have same : riskRequest.multiplier = multiplier := congrArg (·.multiplier) fields
  rw [same]
  exact ⟨found, fields⟩

theorem riskRequest_multiplier
    (built : proc.riskRequest req riskState plan = .ok riskRequest) :
    proc.multiplierOf plan.instrumentId = riskRequest.multiplier := by
  rw [multiplierOf, (riskRequest_built built).1]

/-- The notional of a planned order, as its request rounds it. -/
def orderNotional (proc : TargetIntentProcessor) (plan : OrderPlan) : Decimal :=
  roundDecimal (roundDecimal (|plan.quantityDelta| * plan.marketPrice) *
    proc.multiplierOf plan.instrumentId)

def accountRequest (proc : TargetIntentProcessor) (req : IntentRequest)
    (snapshot : AccountSnapshot) (marks multipliers : DecimalMap) (intradayPnl : Decimal)
    (plan : OrderPlan) : Except Failure OrderRiskRequest :=
  proc.riskRequest req
    (.fromAccount snapshot marks multipliers intradayPnl proc.marginCalculator) plan

section Account

variable {snapshot : AccountSnapshot} {marks multipliers : DecimalMap} {intradayPnl : Decimal}
  (built : proc.accountRequest req snapshot marks multipliers intradayPnl plan =
    .ok riskRequest)

include built

theorem accountRequest_instrumentId : riskRequest.instrumentId = plan.instrumentId := by
  have fields := (riskRequest_built built).2
  exact congrArg (·.instrumentId) fields

theorem accountRequest_price : riskRequest.price = plan.marketPrice := by
  have fields := (riskRequest_built built).2
  exact congrArg (·.price) fields

theorem accountRequest_accountEquity :
    riskRequest.accountEquity = some (PortfolioValuator.valuate snapshot.cash snapshot.holdings
      marks multipliers).accountEquity := by
  have fields := (riskRequest_built built).2
  exact congrArg (·.accountEquity) fields

theorem accountRequest_currentExposure :
    riskRequest.currentExposure = (PortfolioValuator.valuate snapshot.cash snapshot.holdings
      marks multipliers).currentExposure := by
  have fields := (riskRequest_built built).2
  exact congrArg (·.currentExposure) fields

theorem accountRequest_heldNotional :
    riskRequest.currentNotional = ((PortfolioValuator.valuate snapshot.cash snapshot.holdings
      marks multipliers).currentNotionalByInstrument.get? plan.instrumentId).getD 0 := by
  have fields := (riskRequest_built built).2
  have notionals : riskRequest.currentNotionalByInstrument =
      some (PortfolioValuator.valuate snapshot.cash snapshot.holdings marks
        multipliers).currentNotionalByInstrument :=
    congrArg (·.currentNotionalByInstrument) fields
  rw [OrderRiskRequest.currentNotional, notionals, accountRequest_instrumentId built,
    Option.getD_some]

theorem accountRequest_currentNotional
    (known : proc.multipliersOf snapshot.holdings.keys .empty = .ok multipliers) :
    riskRequest.currentNotional =
      |proc.worth marks plan.instrumentId
        (heldQuantity snapshot.holdings plan.instrumentId)| := by
  rw [accountRequest_heldNotional built, PortfolioValuator.valuate_currentNotional,
    weightAt_abs_marketValue known]

theorem accountRequest_projectedPosition :
    riskRequest.projectedPosition =
      |heldQuantity snapshot.holdings plan.instrumentId + plan.quantityDelta| := by
  have fields := (riskRequest_built built).2
  have delta : riskRequest.signedQuantityDelta = some plan.quantityDelta :=
    congrArg (·.signedQuantityDelta) fields
  have position : riskRequest.currentPosition = heldQuantity snapshot.holdings plan.instrumentId :=
    (congrArg (·.currentPosition) fields).trans
      (PortfolioValuator.valuate_currentPosition marks multipliers snapshot.cash snapshot.holdings
        plan.instrumentId)
  rw [OrderRiskRequest.projectedPosition, delta, position]

theorem accountRequest_cost :
    riskRequest.quantity * riskRequest.price * riskRequest.multiplier =
      |plan.quantityDelta| * plan.marketPrice * proc.multiplierOf plan.instrumentId := by
  have fields := (riskRequest_built built).2
  have quantity : riskRequest.quantity = |plan.quantityDelta| := congrArg (·.quantity) fields
  rw [quantity, accountRequest_price built, riskRequest_multiplier built]

theorem accountRequest_notional : riskRequest.notional = proc.orderNotional plan := by
  have fields := (riskRequest_built built).2
  have quantity : riskRequest.quantity = |plan.quantityDelta| := congrArg (·.quantity) fields
  rw [OrderRiskRequest.notional, orderNotional, quantity, accountRequest_price built,
    riskRequest_multiplier built]

theorem orderNotional_nonneg : 0 ≤ proc.orderNotional plan := by
  have price : 0 ≤ plan.marketPrice := accountRequest_price built ▸ riskRequest.price_nonneg
  have multiplier : 0 ≤ proc.multiplierOf plan.instrumentId :=
    riskRequest_multiplier built ▸ riskRequest.multiplier_pos.le
  have cost := decimal_valid.roundTo_nonneg (mul_nonneg (abs_nonneg plan.quantityDelta) price)
  exact decimal_valid.roundTo_nonneg (mul_nonneg cost multiplier)

theorem accountRequest_margin {calculator : MarginCalculator}
    (configured : proc.marginCalculator = some calculator) :
    let held := heldQuantity snapshot.holdings plan.instrumentId
    riskRequest.availableMargin = some
        ((PortfolioValuator.valuate snapshot.cash snapshot.holdings marks
            multipliers).accountEquity -
          snapshot.holdings.keyedTotal (MarginCalculator.positionNotional marks multipliers) *
            calculator.initialMarginRate) ∧
      riskRequest.projectedInitialMargin = some
        (max (|held + plan.quantityDelta| - |held|) 0 * plan.marketPrice *
          proc.multiplierOf plan.instrumentId * calculator.initialMarginRate) := by
  intro held
  have fields := (riskRequest_built built).2
  constructor
  · have available : riskRequest.availableMargin =
        some (RiskStateSnapshot.fromAccount snapshot marks multipliers intradayPnl
          proc.marginCalculator).availableMargin := congrArg (·.availableMargin) fields
    have charged := calculator.marginRequirement_initialMargin snapshot.holdings marks multipliers
      (PortfolioValuator.valuate snapshot.cash snapshot.holdings marks multipliers).accountEquity
    rw [available, configured, ← charged]
    rfl
  · have projected : riskRequest.projectedInitialMargin =
        proc.projectedInitialMargin held plan.quantityDelta plan.marketPrice
          riskRequest.multiplier := by
      have given := congrArg (·.projectedInitialMargin) fields
      exact given.trans (congrArg
        (proc.projectedInitialMargin · plan.quantityDelta plan.marketPrice
          riskRequest.multiplier)
        (PortfolioValuator.valuate_currentPosition marks multipliers snapshot.cash
          snapshot.holdings plan.instrumentId))
    have price : 0 ≤ plan.marketPrice := accountRequest_price built ▸ riskRequest.price_nonneg
    rw [projected, projectedInitialMargin, configured, Option.map_some,
      riskRequest_multiplier built]
    dsimp only
    congr 1
    split
    · next none => rw [none, zero_mul, zero_mul, zero_mul]
    · have notional : 0 ≤ max (|held + plan.quantityDelta| - |held|) 0 * plan.marketPrice *
          riskRequest.multiplier :=
        mul_nonneg (mul_nonneg (le_max_right _ _) price) riskRequest.multiplier_pos.le
      rw [MarginCalculator.orderInitialMargin, abs_of_nonneg notional]

end Account

/-- The order of a plan passes the checks that do not concern the account. -/
structure WellFormedOrder (proc : TargetIntentProcessor) (req : IntentRequest)
    (plan : OrderPlan) : Prop where
  moves : plan.quantityDelta ≠ 0
  price : 0 ≤ plan.marketPrice
  multiplier : ∃ multiplier, proc.multiplierFor plan.instrumentId = .ok multiplier ∧
    0 < multiplier
  aggregation : plan.aggregationDecisionId.any PythonText.isBlank = false
  conflict : req.conflictReason.any PythonText.isBlank = false

theorem orderFields_valid (order : WellFormedOrder proc req plan) {multiplier : Decimal}
    (pos : 0 < multiplier) :
    Check.firstFailure (orderFields req plan multiplier).checks = none := by
  have price : decide (plan.marketPrice < 0) = false := decide_eq_false (not_lt.mpr order.price)
  have known : decide (multiplier ≤ 0) = false := decide_eq_false (not_le.mpr pos)
  rw [Check.firstFailure_none]
  simp [OrderRiskRequestFields.checks, order.moves, price, known, order.aggregation, order.conflict]

theorem requestFields_valid (order : WellFormedOrder proc req plan)
    {multiplier : Decimal} (pos : 0 < multiplier) (solvent : 0 < riskState.accountEquity)
    (exposure : 0 ≤ riskState.currentExposure)
    (notionals : ∀ notional ∈ riskState.currentNotionalByInstrument.values, 0 ≤ notional) :
    Check.firstFailure (proc.requestFields req riskState plan multiplier).checks = none := by
  have price : decide (plan.marketPrice < 0) = false := decide_eq_false (not_lt.mpr order.price)
  have known : decide (multiplier ≤ 0) = false := decide_eq_false (not_le.mpr pos)
  have equity : decide (riskState.accountEquity ≤ 0) = false :=
    decide_eq_false (not_le.mpr solvent)
  have gross : decide (riskState.currentExposure < 0) = false :=
    decide_eq_false (not_lt.mpr exposure)
  rw [Check.firstFailure_none]
  simpa [OrderRiskRequestFields.checks, requestFields, orderFields, order.moves, price, known,
    order.aggregation, order.conflict, equity, gross] using notionals

theorem valuate_nonneg (cash : Dict String Decimal)
    (holdings : Dict InstrumentId Holding) (marks multipliers : DecimalMap) :
    let valuation := PortfolioValuator.valuate cash holdings marks multipliers
    0 ≤ valuation.currentExposure ∧
      ∀ notional ∈ valuation.currentNotionalByInstrument.values, 0 ≤ notional := by
  intro valuation
  constructor
  · refine List.sum_nonneg fun size mem => ?_
    obtain ⟨value, _, rfl⟩ := List.mem_map.mp mem
    exact abs_nonneg value
  · have distinct : ((holdings.items.map fun item =>
        (item.1, |PortfolioValuator.marketValue marks multipliers item.1 item.2|)).map
          Prod.fst).Nodup := by
      rw [List.map_map]
      exact holdings.distinct
    intro notional mem
    change notional ∈ (Dict.ofItems _).items.map Prod.snd at mem
    rw [Dict.ofItems_items distinct, List.map_map] at mem
    obtain ⟨item, _, rfl⟩ := List.mem_map.mp mem
    exact abs_nonneg _

theorem accountRequest_isOk_iff (order : WellFormedOrder proc req plan)
    (snapshot : AccountSnapshot) (marks multipliers : DecimalMap) (intradayPnl : Decimal) :
    (∃ riskRequest, proc.accountRequest req snapshot marks multipliers intradayPnl plan =
        .ok riskRequest) ↔
      0 < (PortfolioValuator.valuate snapshot.cash snapshot.holdings marks
        multipliers).accountEquity := by
  constructor
  · rintro ⟨riskRequest, built⟩
    exact riskRequest.accountEquity_pos (accountRequest_accountEquity built)
  · intro solvent
    obtain ⟨multiplier, found, pos⟩ := order.multiplier
    obtain ⟨exposure, notionals⟩ :=
      valuate_nonneg snapshot.cash snapshot.holdings marks multipliers
    have valid : Check.firstFailure (proc.requestFields req
        (.fromAccount snapshot marks multipliers intradayPnl proc.marginCalculator) plan
        multiplier).checks = none :=
      requestFields_valid order pos solvent exposure notionals
    refine ⟨⟨_, valid⟩, ?_⟩
    have first := OrderRiskRequest.create_ok (orderFields_valid order pos)
    simp only [orderFields] at first
    simp only [accountRequest, riskRequest, found, bind, Except.bind, first]
    exact OrderRiskRequest.create_ok valid

end Qts.TargetIntentProcessor
