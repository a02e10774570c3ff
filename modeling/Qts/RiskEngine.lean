import Qts.RiskState
import Qts.RoundedArithmetic

/-!
# Risk engine

A request is checked by the rules in order, and the first rejection decides.  The leverage and the
concentration rule divide by equity, which rounds to 28 digits; a request whose cost and quotients
need no rounding is decided as in exact arithmetic.
-/

namespace Qts

open Check DecimalRounding

/-- Risk check outcome. -/
inductive RiskDecisionStatus
  | approved
  | rejected
  | modified
deriving DecidableEq

/-- Explicit result of a risk check. -/
structure RiskDecision where
  status : RiskDecisionStatus
  reasonCode : Option String := none
  reason : Option String := none
  ruleId : Option String := none
  contributingStrategyIds : List StrategyId := []
  aggregationDecisionId : Option String := none
  conflictReason : Option String := none

/-- Whether the decision lets an order through. -/
def RiskDecision.approved (decision : RiskDecision) : Bool :=
  decide (decision.status = .approved)

namespace RiskDecision

def approve (ruleId : Option String := none) (contributingStrategyIds : List StrategyId := []) :
    RiskDecision where
  status := .approved
  ruleId := ruleId
  contributingStrategyIds := contributingStrategyIds

def rejected (reasonCode reason : String) (ruleId : Option String)
    (contributingStrategyIds : List StrategyId := []) : RiskDecision where
  status := .rejected
  reasonCode := some reasonCode
  reason := some reason
  ruleId := ruleId
  contributingStrategyIds := contributingStrategyIds

@[simp]
theorem approve_approved (ruleId : Option String) (contributingStrategyIds : List StrategyId) :
    (approve ruleId contributingStrategyIds).approved = true :=
  rfl

@[simp]
theorem rejected_approved (reasonCode reason : String) (ruleId : Option String)
    (contributingStrategyIds : List StrategyId) :
    (rejected reasonCode reason ruleId contributingStrategyIds).approved = false :=
  rfl

end RiskDecision

/-- Provider permission and freshness state visible to the risk rules. -/
structure MarketDataRiskContext where
  permissionState : Option String := none
  stale : Bool := false

structure OrderRiskRequestFields where
  instrumentId : InstrumentId
  quantity : Decimal
  price : Decimal
  multiplier : Decimal
  orderSpec : OrderSpec := .default
  orderTime : Option DateTime := none
  currentPosition : Decimal := 0
  contributingStrategyIds : List StrategyId := []
  aggregationDecisionId : Option String := none
  conflictReason : Option String := none
  marketData : Option MarketDataRiskContext := none
  accountEquity : Option Decimal := none
  currentExposure : Decimal := 0
  intradayPnl : Option Decimal := none
  currentNotionalByInstrument : Option DecimalMap := none
  volatility : Option Decimal := none
  signedQuantityDelta : Option Decimal := none
  currentMarginRequirement : Option Decimal := none
  projectedInitialMargin : Option Decimal := none
  availableMargin : Option Decimal := none

def OrderRiskRequestFields.checks (req : OrderRiskRequestFields) : List Check :=
  [⟨decide (req.quantity ≤ 0), "quantity must be positive"⟩,
   ⟨decide (req.price < 0), "price must be non-negative"⟩,
   ⟨decide (req.multiplier ≤ 0), "multiplier must be positive"⟩,
   ⟨req.aggregationDecisionId.any PythonText.isBlank,
      "aggregation_decision_id must not be empty"⟩,
   ⟨req.conflictReason.any PythonText.isBlank, "conflict_reason must not be empty"⟩,
   ⟨req.accountEquity.any fun equity => decide (equity ≤ 0),
      "account_equity must be positive"⟩,
   ⟨decide (req.currentExposure < 0), "current_exposure must be non-negative"⟩,
   ⟨req.currentNotionalByInstrument.any fun notionals =>
      notionals.values.any fun notional => decide (notional < 0),
      "current instrument notional must be non-negative"⟩,
   ⟨req.volatility.any fun volatility => decide (volatility < 0),
      "volatility must be non-negative"⟩,
   ⟨decide (req.signedQuantityDelta = some 0), "signed_quantity_delta must not be zero"⟩,
   ⟨req.signedQuantityDelta.any fun delta => decide (|delta| ≠ req.quantity),
      "abs(signed_quantity_delta) must equal quantity"⟩]

/-- Pre-trade risk input for a proposed order. -/
structure OrderRiskRequest extends OrderRiskRequestFields where
  valid : firstFailure toOrderRiskRequestFields.checks = none

namespace OrderRiskRequest

def create (fields : OrderRiskRequestFields) : Except Failure OrderRiskRequest :=
  match checked : firstFailure fields.checks with
  | none => .ok ⟨fields, checked⟩
  | some msg => .error (.valueError msg)

theorem create_fields {fields : OrderRiskRequestFields} {req : OrderRiskRequest}
    (created : create fields = .ok req) : req.toOrderRiskRequestFields = fields := by
  unfold create at created
  split at created
  · obtain rfl := Except.ok.inj created
    rfl
  · cases created

theorem create_ok {fields : OrderRiskRequestFields}
    (valid : firstFailure fields.checks = none) : create fields = .ok ⟨fields, valid⟩ := by
  unfold create
  split
  · rfl
  · next msg failed => rw [valid] at failed; cases failed

/-- The notional of the order; each product is rounded. -/
def notional (req : OrderRiskRequest) : Decimal :=
  roundDecimal (roundDecimal (req.quantity * req.price) * req.multiplier)

end OrderRiskRequest

/-- What is held and ordered as a multiple of the equity; the sum and the quotient are rounded. -/
def equityMultiple (held notional equity : Decimal) : Decimal :=
  roundDecimal (roundDecimal (held + notional) / equity)

abbrev RiskRule := OrderRiskRequest → RiskDecision

def marketDataPermissionRiskRule : RiskRule := fun req =>
  let reject := fun reasonCode reason => RiskDecision.rejected reasonCode reason
    (some "market_data_permission") req.contributingStrategyIds
  match req.marketData.bind (·.permissionState) with
    | some "live" =>
      .approve (some "market_data_permission") req.contributingStrategyIds
    | some "delayed" | some "delayed_frozen" =>
      reject "MARKET_DATA_DELAYED_FOR_LIVE_ORDER"
        "delayed market data cannot support live order submission"
    | some "frozen" =>
      reject "MARKET_DATA_FROZEN_FOR_LIVE_ORDER"
        "frozen market data cannot support live order submission"
    | some "unavailable" => reject "MARKET_DATA_UNAVAILABLE" "market data is unavailable"
    | _ => reject "MARKET_DATA_PERMISSION_UNKNOWN" "market-data permission state is unknown"

def marketDataFreshnessRiskRule (requireMarketDataContext : Bool := false) : RiskRule :=
  fun req =>
    let ruleId := some "market_data_freshness"
    match req.marketData with
      | none =>
        if requireMarketDataContext then
          .rejected "MARKET_DATA_CONTEXT_REQUIRED"
            "market-data context is required for live order submission" ruleId
            req.contributingStrategyIds
        else
          .approve ruleId req.contributingStrategyIds
      | some context =>
        if context.stale then
          .rejected "MARKET_DATA_STALE" "market data is stale" ruleId
            req.contributingStrategyIds
        else
          .approve ruleId req.contributingStrategyIds

/-- Apply risk rules in order and return the first rejection. -/
structure RiskEngine where
  rules : List RiskRule
  requireLiveMarketData : Bool := false

namespace RiskEngine

def requiringLiveMarketData (engine : RiskEngine) : RiskEngine :=
  if engine.requireLiveMarketData then engine
  else { rules := engine.rules, requireLiveMarketData := true }

def checkRules (req : OrderRiskRequest) : List RiskRule → RiskDecision
  | [] => .approve
  | rule :: rules =>
    let decision := rule req
    if decision.approved then checkRules req rules else decision

def check (engine : RiskEngine) (req : OrderRiskRequest) : RiskDecision :=
  let liveRules : List RiskRule :=
    if engine.requireLiveMarketData then
      [marketDataPermissionRiskRule, marketDataFreshnessRiskRule]
    else []
  checkRules req (liveRules ++ engine.rules)

end RiskEngine

def equityLimitRule (ruleId risk reasonCode : String) (limit : Decimal)
    (held : OrderRiskRequest → Decimal) (describe : Decimal → String) : RiskRule :=
  fun req =>
    match req.accountEquity with
    | none =>
      .rejected "ACCOUNT_EQUITY_REQUIRED" ("account_equity is required for " ++ risk ++ " risk")
        (some ruleId) req.contributingStrategyIds
    | some equity =>
      let multiple := equityMultiple (held req) req.notional equity
      if limit < multiple then
        .rejected reasonCode
          ("projected " ++ risk ++ " " ++ describe multiple ++ " exceeds max " ++ describe limit)
          (some ruleId) req.contributingStrategyIds
      else
        .approve (some ruleId) req.contributingStrategyIds

structure LeverageLimitRule where
  maxLeverage : Decimal
  pos : 0 < maxLeverage

/-- Reject orders that would exceed the configured leverage limit. -/
def LeverageLimitRule.check (rule : LeverageLimitRule) (describe : Decimal → String) : RiskRule :=
  equityLimitRule "leverage_limit" "leverage" "LEVERAGE_LIMIT_EXCEEDED" rule.maxLeverage
    (·.currentExposure) describe

structure ConcentrationLimitRule where
  maxFraction : Decimal
  pos : 0 < maxFraction
  atMostOne : maxFraction ≤ 1

def OrderRiskRequest.currentNotional (req : OrderRiskRequest) : Decimal :=
  ((req.currentNotionalByInstrument.getD .empty).get? req.instrumentId).getD 0

/-- Reject orders that would over-concentrate one instrument. -/
def ConcentrationLimitRule.check (rule : ConcentrationLimitRule) (describe : Decimal → String) :
    RiskRule :=
  equityLimitRule "concentration_limit" "concentration" "CONCENTRATION_LIMIT_EXCEEDED"
    rule.maxFraction (·.currentNotional) describe

structure PositionLimitRule where
  maxPosition : Decimal
  pos : 0 < maxPosition

/-- The absolute position after the trade; without a signed delta the worst case is taken. -/
def OrderRiskRequest.projectedPosition (req : OrderRiskRequest) : Decimal :=
  match req.signedQuantityDelta with
  | some signedQuantityDelta => |req.currentPosition + signedQuantityDelta|
  | none => |req.currentPosition| + req.quantity

def PositionLimitRule.check (rule : PositionLimitRule) (describe : Decimal → String) : RiskRule :=
  fun req =>
    if rule.maxPosition < req.projectedPosition then
      .rejected "POSITION_LIMIT_EXCEEDED"
        ("projected position " ++ describe req.projectedPosition ++ " exceeds max " ++
          describe rule.maxPosition)
        (some "position_limit") req.contributingStrategyIds
    else
      .approve (some "position_limit") req.contributingStrategyIds

def marginRule (describe : Decimal → String) : RiskRule := fun req =>
  match req.projectedInitialMargin, req.availableMargin with
  | some projectedInitialMargin, some availableMargin =>
    if availableMargin < projectedInitialMargin then
      .rejected "MARGIN_LIMIT_EXCEEDED"
        ("projected initial margin " ++ describe projectedInitialMargin ++
          " exceeds available margin " ++ describe availableMargin)
        (some "margin_limit") req.contributingStrategyIds
    else
      .approve (some "margin_limit") req.contributingStrategyIds
  | _, _ =>
    .rejected "MARGIN_CONTEXT_REQUIRED"
      "projected and available margin are required for margin risk" (some "margin_limit")
      req.contributingStrategyIds

namespace OrderRiskRequest

variable (req : OrderRiskRequest)

theorem accountEquity_pos {equity : Decimal} (given : req.accountEquity = some equity) :
    0 < equity := by
  have passed := (firstFailure_none _).mp req.valid
    ⟨req.accountEquity.any fun equity => decide (equity ≤ 0),
      "account_equity must be positive"⟩ (by simp [OrderRiskRequestFields.checks])
  simpa [given] using passed

theorem price_nonneg : 0 ≤ req.price := by
  have passed := (firstFailure_none _).mp req.valid
    ⟨decide (req.price < 0), "price must be non-negative"⟩
    (by simp [OrderRiskRequestFields.checks])
  simpa using passed

theorem multiplier_pos : 0 < req.multiplier := by
  have passed := (firstFailure_none _).mp req.valid
    ⟨decide (req.multiplier ≤ 0), "multiplier must be positive"⟩
    (by simp [OrderRiskRequestFields.checks])
  simpa using passed

end OrderRiskRequest

section Approvals

variable {req : OrderRiskRequest} {describe : Decimal → String} {equity : Decimal}

theorem equityLimitRule_approved (given : req.accountEquity = some equity)
    (ruleId risk reasonCode : String) (limit : Decimal) (held : OrderRiskRequest → Decimal) :
    (equityLimitRule ruleId risk reasonCode limit held describe req).approved = true ↔
      equityMultiple (held req) req.notional equity ≤ limit := by
  rw [equityLimitRule, given]
  dsimp only
  split
  · next exceeds => simpa using exceeds
  · next within => simpa using within

theorem leverageLimitRule_approved (given : req.accountEquity = some equity)
    (rule : LeverageLimitRule) :
    (rule.check describe req).approved = true ↔
      equityMultiple req.currentExposure req.notional equity ≤ rule.maxLeverage :=
  equityLimitRule_approved given _ _ _ _ _

theorem concentrationLimitRule_approved (given : req.accountEquity = some equity)
    (rule : ConcentrationLimitRule) :
    (rule.check describe req).approved = true ↔
      equityMultiple req.currentNotional req.notional equity ≤ rule.maxFraction :=
  equityLimitRule_approved given _ _ _ _ _

/-- A larger holding is not a smaller multiple of the equity. -/
theorem equityMultiple_mono {held more notional : Decimal} (nonneg : 0 ≤ held + notional)
    (order : held ≤ more) (pos : 0 < equity) :
    equityMultiple held notional equity ≤ equityMultiple more notional equity := by
  have sums := decimal_valid.roundTo_mono nonneg (add_le_add_left order notional)
  exact decimal_valid.roundTo_mono (div_nonneg (decimal_valid.roundTo_nonneg nonneg) pos.le)
    (div_le_div_of_nonneg_right sums pos.le)

/-- No product and no sum of the rule is rounded, and no quotient over the limit is rounded to
it. -/
structure OrderRiskRequest.Unrounded (req : OrderRiskRequest) (held limit : Decimal) :
    Prop where
  cost : roundDecimal (req.quantity * req.price) = req.quantity * req.price
  notional : roundDecimal (req.quantity * req.price * req.multiplier) =
    req.quantity * req.price * req.multiplier
  sum : roundDecimal (held + req.quantity * req.price * req.multiplier) =
    held + req.quantity * req.price * req.multiplier
  quotient : ∀ equity ∈ req.accountEquity,
    let multiple := (held + req.quantity * req.price * req.multiplier) / equity
    limit < multiple → limit < roundDecimal multiple

instance (held limit : Decimal) : Decidable (req.Unrounded held limit) :=
  decidable_of_iff (_ ∧ _ ∧ _ ∧ _)
    ⟨fun ⟨cost, notional, sum, quotient⟩ => ⟨cost, notional, sum, quotient⟩,
      fun unrounded => ⟨unrounded.cost, unrounded.notional, unrounded.sum, unrounded.quotient⟩⟩

theorem OrderRiskRequest.Unrounded.within {held limit : Decimal}
    (unrounded : req.Unrounded held limit) (given : req.accountEquity = some equity)
    (approved : equityMultiple held req.notional equity ≤ limit) :
    held + req.quantity * req.price * req.multiplier ≤ limit * equity := by
  rw [equityMultiple, OrderRiskRequest.notional, unrounded.cost, unrounded.notional,
    unrounded.sum] at approved
  rw [← div_le_iff₀ (req.accountEquity_pos given)]
  by_contra exceeds
  exact absurd approved (not_le.mpr (unrounded.quotient equity given (not_le.mp exceeds)))

theorem positionLimitRule_approved (rule : PositionLimitRule) :
    (rule.check describe req).approved = true ↔
      req.projectedPosition ≤ rule.maxPosition := by
  rw [PositionLimitRule.check]
  split
  · next exceeds => simpa using exceeds
  · next within => simpa using within

theorem marginRule_approved {projected available : Decimal}
    (projectedGiven : req.projectedInitialMargin = some projected)
    (availableGiven : req.availableMargin = some available) :
    (marginRule describe req).approved = true ↔ projected ≤ available := by
  rw [marginRule, projectedGiven, availableGiven]
  dsimp only
  split
  · next exceeds => simpa using exceeds
  · next within => simpa using within

theorem checkRules_approved {rules : List RiskRule} :
    (RiskEngine.checkRules req rules).approved = true ↔
      ∀ rule ∈ rules, (rule req).approved = true := by
  induction rules with
  | nil => simp [RiskEngine.checkRules]
  | cons rule rules ih =>
    cases decided : (rule req).approved with
    | true => simp [RiskEngine.checkRules, decided, ih]
    | false => simp [RiskEngine.checkRules, decided]

theorem RiskEngine.check_approved {engine : RiskEngine}
    (approved : (engine.check req).approved = true) {rule : RiskRule}
    (mem : rule ∈ engine.rules) : (rule req).approved = true :=
  checkRules_approved.mp approved rule (List.mem_append_right _ mem)

end Approvals

end Qts
