import Qts.RiskState
import Qts.ExecutionTiming
import Qts.FutureRollRegistry

/-! # Order plans -/

namespace Qts

structure RuntimeInstrumentContext where
  futureRollRegistry : Option FutureRollRegistry := none
  executionTiming : ExecutionTimingModel := .promotionGrade

namespace RuntimeInstrumentContext

variable (context : RuntimeInstrumentContext)

def isContinuous (instrumentId : InstrumentId) : Bool :=
  context.futureRollRegistry.any fun registry => registry.isContinuous instrumentId

def orderInstrumentForIntent (intent : TargetIntent) (bar : Bar) :
    Except Failure InstrumentId :=
  if context.isContinuous intent.asset.instrumentId then
    match context.futureRollRegistry with
    | none =>
      .error (.runtimeError "future roll registry is required for continuous contracts")
    | some registry => registry.resolveContract intent.asset.instrumentId bar.endTime
  else
    .ok intent.asset.instrumentId

def marketPriceForIntent (intent : TargetIntent) (instrumentId : InstrumentId) (bar : Bar) :
    Except Failure Decimal :=
  if context.isContinuous intent.asset.instrumentId then
    match context.futureRollRegistry with
    | none =>
      .error (.runtimeError "future roll registry is required for continuous contracts")
    | some registry =>
      registry.executionPrice intent.asset.instrumentId instrumentId bar.endTime
  else
    .ok (context.executionTiming.priceForExecutionBar bar)

def relatedContractsFor (continuousInstrumentId : InstrumentId) :
    Except Failure (List InstrumentId) :=
  if !context.isContinuous continuousInstrumentId then
    .error (.runtimeError "future roll registry is not configured for this instrument")
  else
    match context.futureRollRegistry with
    | none => .error (.runtimeError "future roll registry is required")
    | some registry => registry.relatedContracts continuousInstrumentId

variable {context} {intent : TargetIntent}

theorem orderInstrumentForIntent_plain
    (plain : context.isContinuous intent.asset.instrumentId = false) (bar : Bar) :
    context.orderInstrumentForIntent intent bar = .ok intent.asset.instrumentId := by
  rw [orderInstrumentForIntent, plain]
  rfl

theorem marketPriceForIntent_plain (plain : context.isContinuous intent.asset.instrumentId = false)
    (instrumentId : InstrumentId) (bar : Bar) :
    context.marketPriceForIntent intent instrumentId bar =
      .ok (context.executionTiming.priceForExecutionBar bar) := by
  rw [marketPriceForIntent, plain]
  rfl

theorem marketPriceForIntent_continuous {instrumentId : InstrumentId} {bar : Bar} {price : Decimal}
    (continuous : context.isContinuous intent.asset.instrumentId = true)
    (priced : context.marketPriceForIntent intent instrumentId bar = .ok price) :
    ∃ registry, context.futureRollRegistry = some registry ∧
      registry.executionPrice intent.asset.instrumentId instrumentId bar.endTime = .ok price := by
  rw [marketPriceForIntent, continuous, if_pos rfl] at priced
  cases found : context.futureRollRegistry with
  | none => simp only [found] at priced; cases priced
  | some registry => exact ⟨registry, rfl, by simpa only [found] using priced⟩

end RuntimeInstrumentContext

/-- One concrete order delta planned from a strategy target intent. -/
structure OrderPlan where
  accountId : AccountId
  instrumentId : InstrumentId
  quantityDelta : Decimal
  marketPrice : Decimal
  orderTime : Option DateTime
  orderSpec : OrderSpec
  aggregationDecisionId : Option String := none
  intentId : Option String := none
deriving DecidableEq

namespace OrderPlanBuilder

def desiredQuantity (intent : TargetIntent) (marketPrice : Decimal)
    (accountEquity : Option Decimal) (multiplier : Decimal) : Except Failure Decimal :=
  match intent.intentType, intent.value with
  | .close, _ => .ok 0
  | _, none => .error (.valueError "target intent value is required")
  | .quantity, some value => .ok value
  | .value, some value => divide value marketPrice
  | .percent, some value =>
    match accountEquity with
    | none => .error (.valueError "account_equity is required for PERCENT intent")
    | some equity =>
      if equity ≤ 0 then
        .error (.valueError "account_equity must be positive for PERCENT intent")
      else
        divide (equity * value) (marketPrice * multiplier)

variable (context : RuntimeInstrumentContext) (intent : TargetIntent) (accountId : AccountId)
  (bar : Bar) (aggregationDecisionId : Option String)

def planFor (instrumentId : InstrumentId) (quantityDelta marketPrice : Decimal) : OrderPlan where
  accountId := accountId
  instrumentId := instrumentId
  quantityDelta := quantityDelta
  marketPrice := marketPrice
  orderTime := some bar.endTime
  orderSpec := intent.orderSpec
  aggregationDecisionId := aggregationDecisionId
  intentId := some intent.intentId

def closingPlans (target : InstrumentId) (related : List InstrumentId) :
    List (InstrumentId × Holding) → Except Failure (List OrderPlan)
  | [] => .ok []
  | (instrumentId, position) :: positions =>
    if instrumentId = target ∨ instrumentId ∉ related ∨ position.quantity = 0 then
      closingPlans target related positions
    else do
      let marketPrice ← context.marketPriceForIntent intent instrumentId bar
      let plans ← closingPlans target related positions
      return planFor intent accountId bar aggregationDecisionId instrumentId
        (-position.quantity) marketPrice :: plans

def rollPlans (target : InstrumentId) (positions : Dict InstrumentId Holding) :
    Except Failure (List OrderPlan) :=
  if context.isContinuous intent.asset.instrumentId then do
    let related ← context.relatedContractsFor intent.asset.instrumentId
    closingPlans context intent accountId bar aggregationDecisionId target related positions.items
  else
    .ok []

def build (positions : Dict InstrumentId Holding) (accountEquity : Option Decimal)
    (multiplier : Decimal) : Except Failure (List OrderPlan) := do
  let target ← context.orderInstrumentForIntent intent bar
  let closing ← rollPlans context intent accountId bar aggregationDecisionId target positions
  let currentQuantity := ((positions.get? target).map (·.quantity)).getD 0
  let marketPrice ← context.marketPriceForIntent intent target bar
  let desired ← desiredQuantity intent marketPrice accountEquity multiplier
  let quantityDelta := desired - currentQuantity
  if quantityDelta = 0 then
    return closing
  else
    return closing ++
      [planFor intent accountId bar aggregationDecisionId target quantityDelta marketPrice]

variable {context intent accountId bar aggregationDecisionId}
  {positions : Dict InstrumentId Holding} {plans : List OrderPlan}

theorem build_inv {accountEquity : Option Decimal} {multiplier : Decimal}
    (built : build context intent accountId bar aggregationDecisionId positions accountEquity
      multiplier = .ok plans) :
    ∃ target closing marketPrice desired,
      context.orderInstrumentForIntent intent bar = .ok target ∧
      rollPlans context intent accountId bar aggregationDecisionId target positions =
        .ok closing ∧
      context.marketPriceForIntent intent target bar = .ok marketPrice ∧
      desiredQuantity intent marketPrice accountEquity multiplier = .ok desired ∧
      let quantityDelta := desired - ((positions.get? target).map (·.quantity)).getD 0
      plans = closing ++ if quantityDelta = 0 then [] else
        [planFor intent accountId bar aggregationDecisionId target quantityDelta marketPrice] := by
  obtain ⟨target, resolved, built⟩ := bind_inv built
  obtain ⟨closing, rolled, built⟩ := bind_inv built
  obtain ⟨marketPrice, priced, built⟩ := bind_inv built
  obtain ⟨desired, sized, built⟩ := bind_inv built
  refine ⟨target, closing, marketPrice, desired, resolved, rolled, priced, sized, ?_⟩
  dsimp only at built ⊢
  split at built
  · next reached =>
    cases built
    rw [if_pos reached, List.append_nil]
  · next short =>
    cases built
    rw [if_neg short]

variable {plan : OrderPlan}

/-- A closing plan sells out what is held of one of the root's other contracts. -/
theorem closingPlans_inv {target : InstrumentId} {related : List InstrumentId}
    {items : List (InstrumentId × Holding)}
    (built : closingPlans context intent accountId bar aggregationDecisionId target related items =
      .ok plans) (mem : plan ∈ plans) :
    ∃ position, (plan.instrumentId, position) ∈ items ∧ plan.instrumentId ≠ target ∧
      plan.quantityDelta = -position.quantity ∧
      context.marketPriceForIntent intent plan.instrumentId bar = .ok plan.marketPrice := by
  induction items generalizing plans with
  | nil =>
    cases built
    cases mem
  | cons item items ih =>
    unfold closingPlans at built
    split at built
    · obtain ⟨position, held, facts⟩ := ih built mem
      exact ⟨position, List.mem_cons_of_mem _ held, facts⟩
    · next other =>
      obtain ⟨marketPrice, priced, built⟩ := bind_inv built
      obtain ⟨later, rest, built⟩ := bind_inv built
      cases built
      rcases List.mem_cons.mp mem with rfl | tail
      · exact ⟨item.2, List.mem_cons_self, fun same => other (.inl same), rfl, priced⟩
      · obtain ⟨position, held, facts⟩ := ih rest tail
        exact ⟨position, List.mem_cons_of_mem _ held, facts⟩

theorem rollPlans_inv {target : InstrumentId} {closing : List OrderPlan}
    (rolled : rollPlans context intent accountId bar aggregationDecisionId target positions =
      .ok closing) (mem : plan ∈ closing) :
    context.isContinuous intent.asset.instrumentId = true ∧
      ∃ position, (plan.instrumentId, position) ∈ positions.items ∧ plan.instrumentId ≠ target ∧
        plan.quantityDelta = -position.quantity ∧
        context.marketPriceForIntent intent plan.instrumentId bar = .ok plan.marketPrice := by
  unfold rollPlans at rolled
  split at rolled
  · next continuous =>
    obtain ⟨related, _, rolled⟩ := bind_inv rolled
    exact ⟨continuous, closingPlans_inv rolled mem⟩
  · cases rolled
    cases mem

theorem build_plan {accountEquity : Option Decimal} {multiplier : Decimal}
    (built : build context intent accountId bar aggregationDecisionId positions accountEquity
      multiplier = .ok plans) (mem : plan ∈ plans) :
    (context.orderInstrumentForIntent intent bar = .ok plan.instrumentId ∨
        context.isContinuous intent.asset.instrumentId = true ∧
          plan.instrumentId ∈ positions.keys) ∧
      context.marketPriceForIntent intent plan.instrumentId bar = .ok plan.marketPrice := by
  obtain ⟨target, closing, marketPrice, desired, resolved, rolled, priced, _, rfl⟩ :=
    build_inv built
  rcases List.mem_append.mp mem with closes | opens
  · obtain ⟨continuous, position, held, _, _, closedAt⟩ := rollPlans_inv rolled closes
    exact ⟨.inr ⟨continuous, List.mem_map_of_mem held⟩, closedAt⟩
  · split at opens
    · cases opens
    · obtain rfl := List.mem_singleton.mp opens
      exact ⟨.inl resolved, priced⟩

end OrderPlanBuilder

end Qts
