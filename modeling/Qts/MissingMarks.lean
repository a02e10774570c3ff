import Qts.PlanRiskChecks

/-! # Positions without a mark -/

namespace Qts

open RaisingCalls Dict PortfolioValuator OrderRiskRequest

def AccountSnapshot.markedPart (snapshot : AccountSnapshot) (marks : DecimalMap) :
    AccountSnapshot :=
  { snapshot with
    holdings := snapshot.holdings.retain fun instrumentId => (marks.get? instrumentId).isSome }

section Valuation

variable {marks : DecimalMap} {instrumentId : InstrumentId}

theorem marketValue_unmarked (multipliers : DecimalMap) (unmarked : marks.get? instrumentId = none)
    (holding : Holding) : marketValue marks multipliers instrumentId holding = 0 := by
  rw [marketValue, unmarked]

theorem positionNotional_unmarked (multipliers : DecimalMap)
    (unmarked : marks.get? instrumentId = none) (holding : Holding) :
    MarginCalculator.positionNotional marks multipliers instrumentId holding = 0 := by
  rw [MarginCalculator.positionNotional, unmarked]

theorem heldQuantity_markedPart (snapshot : AccountSnapshot)
    (marked : (marks.get? instrumentId).isSome = true) :
    heldQuantity (snapshot.markedPart marks).holdings instrumentId =
      heldQuantity snapshot.holdings instrumentId := by
  rw [heldQuantity, AccountSnapshot.markedPart, get?_retain, marked, if_pos rfl]
  rfl

theorem fromAccount_valuedAs (snapshot : AccountSnapshot) (multipliers : DecimalMap)
    (intradayPnl otherPnl : Decimal) (calculator : Option MarginCalculator) :
    (RiskStateSnapshot.fromAccount snapshot marks multipliers intradayPnl calculator).ValuedAs
      (.fromAccount (snapshot.markedPart marks) marks multipliers otherPnl calculator) := by
  have light : ∀ instrumentId holding, (marks.get? instrumentId).isSome = false →
      marketValue marks multipliers instrumentId holding = 0 := by
    intro instrumentId holding unmarked
    exact marketValue_unmarked multipliers (by simpa using unmarked) holding
  have equity :
      (valuate snapshot.cash snapshot.holdings marks multipliers).accountEquity =
        (valuate (snapshot.markedPart marks).cash
          (snapshot.markedPart marks).holdings marks multipliers).accountEquity := by
    rw [valuate_accountEquity, valuate_accountEquity]
    exact congrArg (convertCash snapshot.cash + ·)
      (keyedTotal_retain light snapshot.holdings).symm
  have margin : ∀ calculator : MarginCalculator, ∀ someEquity otherEquity,
      (calculator.marginRequirement snapshot.holdings marks multipliers someEquity).initialMargin =
        (calculator.marginRequirement (snapshot.markedPart marks).holdings marks multipliers
          otherEquity).initialMargin := by
    intro calculator someEquity otherEquity
    rw [calculator.marginRequirement_initialMargin, calculator.marginRequirement_initialMargin]
    refine congrArg (· * calculator.initialMarginRate)
      (keyedTotal_retain ?_ snapshot.holdings).symm
    intro instrumentId holding unmarked
    exact positionNotional_unmarked multipliers (by simpa using unmarked) holding
  refine ⟨equity, ?_, ?_, ?_, ?_⟩
  · change
      (valuate snapshot.cash snapshot.holdings marks multipliers).currentExposure =
        (valuate (snapshot.markedPart marks).cash
          (snapshot.markedPart marks).holdings marks multipliers).currentExposure
    rw [valuate_currentExposure, valuate_currentExposure]
    refine (keyedTotal_retain ?_ snapshot.holdings).symm
    intro instrumentId holding unmarked
    rw [light instrumentId holding unmarked, abs_zero]
  · intro instrumentId
    have before := valuate_currentNotional marks multipliers snapshot.cash
      snapshot.holdings instrumentId
    have after := valuate_currentNotional marks multipliers
      (snapshot.markedPart marks).cash (snapshot.markedPart marks).holdings instrumentId
    refine before.trans (Eq.trans ?_ after.symm)
    rw [AccountSnapshot.markedPart, weightAt, weightAt, get?_retain]
    cases marked : (marks.get? instrumentId).isSome with
    | true => rfl
    | false =>
      cases snapshot.holdings.get? instrumentId with
      | none => rfl
      | some holding => simp [light instrumentId holding marked]
  · cases calculator with
    | none => rfl
    | some calculator => exact margin calculator 0 0
  · cases calculator with
    | none => rfl
    | some calculator => exact congrArg₂ (· - ·) equity (margin calculator 0 0)

end Valuation

namespace TargetIntentProcessor

variable {proc : TargetIntentProcessor} {req : IntentRequest}

theorem decisions_of_valuedAs {riskState other : RiskStateSnapshot} {plan : OrderPlan}
    {asked otherAsked : OrderRiskRequest} (valued : riskState.ValuedAs other)
    (position : riskState.currentPosition plan.instrumentId =
      other.currentPosition plan.instrumentId)
    (built : proc.riskRequest req riskState plan = .ok asked)
    (otherBuilt : proc.riskRequest req other plan = .ok otherAsked)
    (limits : RollLimits) (describe : Decimal → String) :
    limits.leverage.check describe asked = limits.leverage.check describe otherAsked ∧
      limits.concentration.check describe asked = limits.concentration.check describe otherAsked ∧
      marginRule describe asked = marginRule describe otherAsked := by
  obtain ⟨found, fields⟩ := riskRequest_built built
  obtain ⟨otherFound, otherFields⟩ := riskRequest_built otherBuilt
  have multiplier : asked.multiplier = otherAsked.multiplier :=
    ok_unique found otherFound
  have strategies : asked.contributingStrategyIds = otherAsked.contributingStrategyIds := by
    rw [fields, otherFields]
  have equity : asked.accountEquity = otherAsked.accountEquity := by
    rw [fields, otherFields]
    exact congrArg some valued.accountEquity
  have exposure : asked.currentExposure = otherAsked.currentExposure := by
    rw [fields, otherFields]
    exact valued.currentExposure
  have notional : asked.notional = otherAsked.notional := by
    rw [notional, notional, multiplier, fields, otherFields]
  have heldNotional : asked.currentNotional = otherAsked.currentNotional := by
    rw [currentNotional, currentNotional, fields, otherFields]
    exact valued.currentNotional plan.instrumentId
  have projected : asked.projectedInitialMargin = otherAsked.projectedInitialMargin := by
    rw [fields, otherFields]
    simp only [position, multiplier]
  have available : asked.availableMargin = otherAsked.availableMargin := by
    rw [fields, otherFields]
    exact congrArg some valued.availableMargin
  refine ⟨?_, ?_, ?_⟩
  · simp only [LeverageLimitRule.check, equityLimitRule, strategies, equity, exposure, notional]
  · simp only [ConcentrationLimitRule.check, equityLimitRule, strategies, equity, heldNotional,
      notional]
  · simp only [marginRule, strategies, projected, available]

/-- Where an intent gets as far as its checks, exactly the positions without a price are unmarked.
They count as nothing in equity, exposure, concentration and margin, and the leverage, the
concentration and the margin rule decide every plan as if the account did not hold them. -/
theorem unmarked_positions_uncounted {World : Type} (proc : TargetIntentProcessor)
    (actors : PartitionActors World) (req : IntentRequest)
    {start prepared : IntentProcessing World} {snapshot : AccountSnapshot} {world : World}
    {riskState : RiskStateSnapshot} {plans : List OrderPlan}
    (asked : actors.accountSnapshot.run start.world = .ok snapshot world)
    (ready : (proc.preparePlans actors req).run start = .ok (riskState, plans) prepared) :
    ∃ marks multipliers intradayPnl,
      proc.buildMarkMap req.intent req.bar snapshot.holdings = .ok marks ∧
      riskState =
        .fromAccount snapshot marks multipliers intradayPnl proc.marginCalculator ∧
      (∀ instrumentId, heldQuantity snapshot.holdings instrumentId ≠ 0 →
        (marks.get? instrumentId = none ↔ ∃ failure,
          proc.instrumentContext.marketPriceForIntent req.intent instrumentId
            req.bar = .error failure)) ∧
      (∀ instrumentId, marks.get? instrumentId = none →
        (riskState.currentNotionalByInstrument.get? instrumentId).getD 0 = 0) ∧
      let without : RiskStateSnapshot := .fromAccount (snapshot.markedPart marks) marks
        multipliers intradayPnl proc.marginCalculator
      riskState.ValuedAs without ∧
      ∀ plan ∈ plans, ∀ withRequest withoutRequest,
        proc.riskRequest req riskState plan = .ok withRequest →
        proc.riskRequest req without plan = .ok withoutRequest →
        ∀ (limits : RollLimits) (describe : Decimal → String),
          limits.leverage.check describe withRequest =
            limits.leverage.check describe withoutRequest ∧
          limits.concentration.check describe withRequest =
            limits.concentration.check describe withoutRequest ∧
          marginRule describe withRequest = marginRule describe withoutRequest := by
  obtain ⟨accountId, taken, marks, multipliers, intradayPnl, _, ⟨_, answered⟩, built, _,
    rfl, planned⟩ := preparePlans_inv ready
  rw [asked] at answered
  cases answered
  obtain ⟨target, resolved, marked⟩ := buildMarkMap_get? built
  have valued := @fromAccount_valuedAs marks snapshot multipliers intradayPnl intradayPnl
    proc.marginCalculator
  refine ⟨marks, multipliers, intradayPnl, built, rfl, ?_, ?_, valued, ?_⟩
  · intro instrumentId held
    rw [marked, if_pos (.inr (mem_keys_of_held held))]
    cases proc.instrumentContext.marketPriceForIntent req.intent instrumentId
        req.bar with
    | ok price => simp [Except.toOption]
    | error failure => simp [Except.toOption]
  · intro instrumentId unmarked
    refine (valuate_currentNotional marks multipliers snapshot.cash
      snapshot.holdings instrumentId).trans ?_
    rw [weightAt]
    cases snapshot.holdings.get? instrumentId with
    | none => rfl
    | some holding => simp [marketValue_unmarked multipliers unmarked]
  · intro plan mem withRequest withoutRequest builtWith builtWithout limits describe
    -- A plan is made from a price, so its own contract has a mark.
    have price : (marks.get? plan.instrumentId).isSome = true := by
      obtain ⟨resolvedAgain, same, planned⟩ := bind_inv planned
      obtain ⟨multiplier, _, planned⟩ := bind_inv planned
      obtain ⟨place, priced⟩ := OrderPlanBuilder.build_plan planned mem
      have listed : plan.instrumentId = target ∨ plan.instrumentId ∈ snapshot.holdings.keys := by
        rcases place with own | ⟨_, held⟩
        · exact .inl (ok_unique own resolved)
        · exact .inr held
      rw [marked, if_pos listed, priced]
      rfl
    have position := (valuate_currentPosition marks multipliers snapshot.cash
      snapshot.holdings plan.instrumentId).trans (heldQuantity_markedPart snapshot price).symm
    refine decisions_of_valuedAs valued (position.trans ?_) builtWith builtWithout limits describe
    exact (valuate_currentPosition marks multipliers
      (snapshot.markedPart marks).cash (snapshot.markedPart marks).holdings
      plan.instrumentId).symm

namespace UnmarkedEquity

open OrderIdentity

def limitedRollProcessor : TargetIntentProcessor :=
  { HalfRoll.rollProcessor with
    riskEngine := {
      rules := [
        marginRule fun _ => "",
        LeverageLimitRule.check ⟨1, Eq.refl true⟩ fun _ => "",
        ConcentrationLimitRule.check ⟨1, Eq.refl true, Eq.refl false⟩ fun _ => ""] } }

/-- One contract of the future is wanted by an account that holds five units of an equity. -/
def oneContract : IntentRequest :=
  OrderIdentity.request marchBar (holding frontFuture 1 .default)

def holdingEquity : IntentProcessing AccountPartition where
  world := heldPartition

/-- The equity has no price under the future, so it is worth nothing and takes no margin, and the
order passes all three rules. -/
theorem unmarked_equity_approved :
    let outcome :=
      (limitedRollProcessor.processIntent HalfRoll.actors oneContract 1).run holdingEquity
    heldQuantity heldPartition.account.holdings.holdings heldInstrument = 5 ∧
    (limitedRollProcessor.instrumentContext.marketPriceForIntent oneContract.intent heldInstrument
      oneContract.bar).isOk = false ∧
    (limitedRollProcessor.prepared HalfRoll.actors oneContract holdingEquity).map (fun start =>
        (start.1.accountEquity, start.1.currentExposure, start.1.currentMarginRequirement)) =
      some (1000, 0, 0) ∧
    (match outcome with
      | .ok processed _ => processed.riskDecisions.map (·.approved)
      | .error _ _ => []) = [true] := by
  decide +kernel

theorem unmarked_positions_uncounted_equity :
    ∃ riskState plans prepared snapshot world marks multipliers intradayPnl,
      HalfRoll.actors.accountSnapshot.run holdingEquity.world = .ok snapshot world ∧
      (limitedRollProcessor.preparePlans HalfRoll.actors oneContract).run holdingEquity =
        .ok (riskState, plans) prepared ∧
      riskState = .fromAccount snapshot marks multipliers intradayPnl (some .default) ∧
      ∀ instrumentId, heldQuantity snapshot.holdings instrumentId ≠ 0 →
        (marks.get? instrumentId = none ↔ ∃ failure,
          limitedRollProcessor.instrumentContext.marketPriceForIntent oneContract.intent
            instrumentId oneContract.bar = .error failure) := by
  cases asked : HalfRoll.actors.accountSnapshot.run holdingEquity.world with
  | error failure world =>
    have answered : raised (HalfRoll.actors.accountSnapshot.run holdingEquity.world) = false := by
      decide +kernel
    rw [asked] at answered
    cases answered
  | ok snapshot world =>
    cases ready : (limitedRollProcessor.preparePlans HalfRoll.actors oneContract).run
        holdingEquity with
    | error failure prepared =>
      have answered : (limitedRollProcessor.prepared HalfRoll.actors oneContract
          holdingEquity).isSome = true := by
        decide +kernel
      rw [TargetIntentProcessor.prepared, ready] at answered
      cases answered
    | ok start prepared =>
      obtain ⟨marks, multipliers, intradayPnl, _, valued, exact, _⟩ :=
        unmarked_positions_uncounted limitedRollProcessor HalfRoll.actors oneContract asked ready
      exact ⟨start.1, start.2, prepared, snapshot, world, marks, multipliers, intradayPnl, rfl,
        rfl, valued, exact⟩

end UnmarkedEquity

end TargetIntentProcessor

end Qts
