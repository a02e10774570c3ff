import Mathlib.Algebra.Order.Ring.Abs
import Qts.MarginHeadroom
import Qts.OrderIdentity

/-! # Risk checks of the plans of one intent -/

namespace Qts

open RaisingCalls Dict PortfolioValuator

structure RiskStateSnapshot.ValuedAs (riskState other : RiskStateSnapshot) : Prop where
  accountEquity : riskState.accountEquity = other.accountEquity
  currentExposure : riskState.currentExposure = other.currentExposure
  currentNotional : ∀ instrumentId,
    (riskState.currentNotionalByInstrument.get? instrumentId).getD 0 =
      (other.currentNotionalByInstrument.get? instrumentId).getD 0
  currentMarginRequirement : riskState.currentMarginRequirement = other.currentMarginRequirement
  availableMargin : riskState.availableMargin = other.availableMargin

structure RiskStateSnapshot.Reflects (riskState fresh : RiskStateSnapshot) : Prop
    extends riskState.ValuedAs fresh where
  currentPosition : ∀ instrumentId,
    riskState.currentPosition instrumentId = fresh.currentPosition instrumentId

structure SamePortfolio (first second : AccountSnapshot) : Prop where
  held : ∀ instrumentId,
    heldQuantity first.holdings instrumentId = heldQuantity second.holdings instrumentId
  cash : convertCash first.cash = convertCash second.cash

theorem mem_keys_of_held {holdings : Dict InstrumentId Holding} {instrumentId : InstrumentId}
    (held : heldQuantity holdings instrumentId ≠ 0) : instrumentId ∈ holdings.keys := by
  rw [mem_keys_iff]
  cases found : holdings.get? instrumentId with
  | none => simp [heldQuantity, found] at held
  | some holding => exact ⟨holding, rfl⟩

namespace TargetIntentProcessor

variable {proc : TargetIntentProcessor}

section Reflection

variable {intent : TargetIntent} {bar : Bar} {first second : AccountSnapshot}
  {marks laterMarks multipliers later : DecimalMap}

theorem worth_of_held (built : proc.buildMarkMap intent bar first.holdings = .ok marks)
    (rebuilt : proc.buildMarkMap intent bar second.holdings = .ok laterMarks)
    (instrumentId : InstrumentId)
    (held : heldQuantity first.holdings instrumentId = heldQuantity second.holdings instrumentId) :
    proc.worth marks instrumentId (heldQuantity first.holdings instrumentId) =
      proc.worth laterMarks instrumentId (heldQuantity second.holdings instrumentId) := by
  rw [← held]
  by_cases flat : heldQuantity first.holdings instrumentId = 0
  · rw [flat, worth, worth, zero_mul, zero_mul, zero_mul, zero_mul]
  · obtain ⟨target, _, marked⟩ := buildMarkMap_get? built
    obtain ⟨laterTarget, _, remarked⟩ := buildMarkMap_get? rebuilt
    rw [worth, worth, marked, remarked, if_pos (.inr (mem_keys_of_held flat)),
      if_pos (.inr (mem_keys_of_held (held ▸ flat)))]

variable (built : proc.buildMarkMap intent bar first.holdings = .ok marks)
  (rebuilt : proc.buildMarkMap intent bar second.holdings = .ok laterMarks)
  (known : proc.multipliersOf first.holdings.keys .empty = .ok multipliers)
  (knownLater : proc.multipliersOf second.holdings.keys .empty = .ok later)

include built rebuilt known knownLater

section

variable
  (held : ∀ instrumentId, heldQuantity first.holdings instrumentId =
      heldQuantity second.holdings instrumentId)

include held

theorem marketValue_of_held :
    first.holdings.keyedTotal (marketValue marks multipliers) =
      second.holdings.keyedTotal (marketValue laterMarks later) := by
  refine keyedTotal_congr fun instrumentId => ?_
  rw [weightAt_marketValue known, weightAt_marketValue knownLater,
    worth_of_held built rebuilt instrumentId (held instrumentId)]

theorem exposure_of_held :
    (first.holdings.keyedTotal fun instrumentId holding =>
        |marketValue marks multipliers instrumentId holding|) =
      second.holdings.keyedTotal fun instrumentId holding =>
        |marketValue laterMarks later instrumentId holding| := by
  refine keyedTotal_congr fun instrumentId => ?_
  rw [weightAt_abs_marketValue known, weightAt_abs_marketValue knownLater,
    worth_of_held built rebuilt instrumentId (held instrumentId)]

theorem positionNotional_of_held :
    first.holdings.keyedTotal (MarginCalculator.positionNotional marks multipliers) =
      second.holdings.keyedTotal (MarginCalculator.positionNotional laterMarks later) := by
  refine keyedTotal_congr fun instrumentId => ?_
  rw [weightAt_positionNotional known, weightAt_positionNotional knownLater, held]
  have same := worth_of_held built rebuilt instrumentId (held instrumentId)
  rw [held, worth, worth] at same
  rw [worth, worth]
  rcases abs_choice (heldQuantity second.holdings instrumentId) with long | short
  · rw [long, same]
  · rw [short, neg_mul, neg_mul, neg_mul, neg_mul, same]

end

theorem reflects_iff (intradayPnl otherPnl : Decimal) (calculator : Option MarginCalculator) :
    (RiskStateSnapshot.fromAccount first marks multipliers intradayPnl calculator).Reflects
        (.fromAccount second laterMarks later otherPnl calculator) ↔
      SamePortfolio first second := by
  have equity : ∀ held : (∀ instrumentId, heldQuantity first.holdings instrumentId =
        heldQuantity second.holdings instrumentId),
      ((valuate first.cash first.holdings marks multipliers).accountEquity =
          (valuate second.cash second.holdings laterMarks later).accountEquity ↔
        convertCash first.cash = convertCash second.cash) := by
    intro held
    rw [valuate_accountEquity, valuate_accountEquity,
      marketValue_of_held built rebuilt known knownLater held]
    exact add_left_inj _
  constructor
  · intro reflects
    have held : ∀ instrumentId, heldQuantity first.holdings instrumentId =
        heldQuantity second.holdings instrumentId := by
      intro instrumentId
      rw [← valuate_currentPosition marks multipliers first.cash,
        ← valuate_currentPosition laterMarks later second.cash]
      exact reflects.currentPosition instrumentId
    exact ⟨held, (equity held).mp reflects.accountEquity⟩
  · intro same
    have sameEquity := (equity same.held).mpr same.cash
    have sameMargin : ∀ calculator : MarginCalculator, ∀ someEquity otherEquity,
        (calculator.marginRequirement first.holdings marks multipliers someEquity).initialMargin =
          (calculator.marginRequirement second.holdings laterMarks later
            otherEquity).initialMargin := by
      intro calculator someEquity otherEquity
      rw [calculator.marginRequirement_initialMargin, calculator.marginRequirement_initialMargin,
        positionNotional_of_held built rebuilt known knownLater same.held]
    refine ⟨⟨sameEquity, ?_, ?_, ?_, ?_⟩, ?_⟩
    · change
        (valuate first.cash first.holdings marks multipliers).currentExposure =
          (valuate second.cash second.holdings laterMarks later).currentExposure
      rw [valuate_currentExposure, valuate_currentExposure]
      exact exposure_of_held built rebuilt known knownLater same.held
    · intro instrumentId
      have before :=
        valuate_currentNotional marks multipliers first.cash first.holdings
          instrumentId
      have after :=
        valuate_currentNotional laterMarks later second.cash second.holdings
          instrumentId
      rw [weightAt_abs_marketValue known,
        worth_of_held built rebuilt instrumentId (same.held instrumentId)] at before
      rw [weightAt_abs_marketValue knownLater] at after
      exact before.trans after.symm
    · cases calculator with
      | none => rfl
      | some calculator => exact sameMargin calculator 0 0
    · cases calculator with
      | none => rfl
      | some calculator => exact congrArg₂ (· - ·) sameEquity (sameMargin calculator 0 0)
    · intro instrumentId
      have before :=
        valuate_currentPosition marks multipliers first.cash first.holdings
          instrumentId
      have after :=
        valuate_currentPosition laterMarks later second.cash second.holdings
          instrumentId
      rw [same.held] at before
      exact before.trans after.symm

end Reflection

section Checks

variable {World : Type} {actors : PartitionActors World} {request : IntentRequest}
  {riskState : RiskStateSnapshot}

def checkPoints (proc : TargetIntentProcessor) (actors : PartitionActors World)
    (request : IntentRequest) (riskState : RiskStateSnapshot) :
    List OrderPlan → Nat → IntentProcessing World → List (OrderPlan × IntentProcessing World)
  | [], _, _ => []
  | plan :: plans, orderNumber, state =>
    (plan, state) ::
      match (proc.processOrderDelta actors request riskState plan orderNumber).run state with
      | .ok _ next => proc.checkPoints actors request riskState plans (orderNumber + 1) next
      | .error _ _ => []

theorem riskState_inv {snapshot : AccountSnapshot} {state after : IntentProcessing World}
    (ran : (proc.riskState request snapshot).run state = .ok riskState after) :
    ∃ marks multipliers intradayPnl,
      proc.buildMarkMap request.intent request.bar snapshot.holdings = .ok marks ∧
        proc.multipliersOf snapshot.holdings.keys .empty = .ok multipliers ∧
        riskState = .fromAccount snapshot marks multipliers intradayPnl
          proc.marginCalculator := by
  obtain ⟨marks, first, built, ran⟩ := bind_run_inv ran
  obtain ⟨multipliers, second, known, ran⟩ := bind_run_inv ran
  obtain ⟨intradayPnl, third, _, ran⟩ := bind_run_inv ran
  cases ran
  exact ⟨marks, multipliers, intradayPnl, orRaise_inv built, orRaise_inv known, rfl⟩

theorem preparePlans_inv {plans : List OrderPlan} {start prepared : IntentProcessing World}
    (ready : (proc.preparePlans actors request).run start = .ok (riskState, plans) prepared) :
    ∃ accountId snapshot marks multipliers intradayPnl, request.accountId = some accountId ∧
      (∃ world, actors.accountSnapshot.run start.world = .ok snapshot world) ∧
      proc.buildMarkMap request.intent request.bar snapshot.holdings = .ok marks ∧
      proc.multipliersOf snapshot.holdings.keys .empty = .ok multipliers ∧
      riskState = .fromAccount snapshot marks multipliers intradayPnl
        proc.marginCalculator ∧
      proc.orderPlans request accountId snapshot riskState = .ok plans := by
  unfold preparePlans at ready
  split at ready
  · cases ready
  · next accountId account =>
    obtain ⟨snapshot, first, asked, ready⟩ := bind_run_inv ready
    obtain ⟨state, second, valued, ready⟩ := bind_run_inv ready
    obtain ⟨planned, third, built, ready⟩ := bind_run_inv ready
    cases ready
    obtain ⟨marks, multipliers, intradayPnl, marked, known, rfl⟩ := riskState_inv valued
    exact ⟨accountId, snapshot, marks, multipliers, intradayPnl, account, onActors_inv asked,
      marked, known, rfl, orRaise_inv built⟩

end Checks

/-- The limits, next to the margin, that a roll is checked against. -/
structure RollLimits where
  leverage : LeverageLimitRule
  concentration : ConcentrationLimitRule

def RollLimits.Allows (limits : RollLimits) (describe : Decimal → String)
    (asked : OrderRiskRequest) : Prop :=
  ∀ rule ∈ [marginRule describe, limits.leverage.check describe,
    limits.concentration.check describe], (rule asked).approved = true

structure RollLimits.Satisfied (limits : RollLimits) (riskState : RiskStateSnapshot) : Prop where
  margin : riskState.currentMarginRequirement ≤ riskState.accountEquity
  leverage : riskState.currentExposure ≤ limits.leverage.maxLeverage * riskState.accountEquity
  concentration : ∀ instrumentId,
    (riskState.currentNotionalByInstrument.get? instrumentId).getD 0 ≤
      limits.concentration.maxFraction * riskState.accountEquity

/-- Two plans move what is held of one contract to another that is not held and trades at the
same price. -/
structure MovesHolding (proc : TargetIntentProcessor) (snapshot : AccountSnapshot)
    (closing opening : OrderPlan) : Prop where
  closes : closing.quantityDelta = -heldQuantity snapshot.holdings closing.instrumentId
  opens : opening.quantityDelta = heldQuantity snapshot.holdings closing.instrumentId
  unheld : heldQuantity snapshot.holdings opening.instrumentId = 0
  price : opening.marketPrice = closing.marketPrice
  multiplier : proc.multiplierOf opening.instrumentId =
    proc.multiplierOf closing.instrumentId

/-- The risk state refuses the closing leg already, or it has margin for both contracts. -/
def RollFits (proc : TargetIntentProcessor) (limits : RollLimits)
    (calculator : MarginCalculator) (riskState : RiskStateSnapshot) (closing : OrderPlan) : Prop :=
  let notional := (riskState.currentNotionalByInstrument.get? closing.instrumentId).getD 0
  let ordered := proc.orderNotional closing
  limits.leverage.maxLeverage <
      equityMultiple riskState.currentExposure ordered riskState.accountEquity ∨
    limits.concentration.maxFraction < equityMultiple notional ordered riskState.accountEquity ∨
    riskState.currentMarginRequirement + notional * calculator.initialMarginRate ≤
      riskState.accountEquity

section Rolls

variable {limits : RollLimits} {describe : Decimal → String} {calculator : MarginCalculator}
  {request : IntentRequest} {snapshot : AccountSnapshot} {marks multipliers : DecimalMap}
  {intradayPnl : Decimal} {closing opening : OrderPlan}
  {asked closeAsked openAsked : OrderRiskRequest}

theorem allows_iff :
    limits.Allows describe asked ↔
      (marginRule describe asked).approved = true ∧
        (limits.leverage.check describe asked).approved = true ∧
        (limits.concentration.check describe asked).approved = true := by
  simp [RollLimits.Allows]

theorem fromAccount_marginRequirement (configured : proc.marginCalculator = some calculator) :
    (RiskStateSnapshot.fromAccount snapshot marks multipliers intradayPnl
        proc.marginCalculator).currentMarginRequirement =
      (calculator.marginRequirement snapshot.holdings marks multipliers
        (valuate snapshot.cash snapshot.holdings marks
          multipliers).accountEquity).initialMargin := by
  rw [configured]
  rfl

section Built

variable (configured : proc.marginCalculator = some calculator)
  (known : proc.multipliersOf snapshot.holdings.keys .empty = .ok multipliers)
  (marked : heldQuantity snapshot.holdings closing.instrumentId ≠ 0 →
    marks.get? closing.instrumentId = some closing.marketPrice)
  (moves : MovesHolding proc snapshot closing opening)
  (closeBuilt : proc.accountRequest request snapshot marks multipliers intradayPnl closing =
    .ok closeAsked)
  (openBuilt : proc.accountRequest request snapshot marks multipliers intradayPnl opening =
    .ok openAsked)

include known marked closeBuilt

theorem closing_notional :
    (RiskStateSnapshot.currentNotionalByInstrument (.fromAccount snapshot marks multipliers
        intradayPnl proc.marginCalculator) |>.get? closing.instrumentId).getD 0 =
      |heldQuantity snapshot.holdings closing.instrumentId| * closing.marketPrice *
        proc.multiplierOf closing.instrumentId := by
  have price : 0 ≤ closing.marketPrice :=
    accountRequest_price closeBuilt ▸ closeAsked.price_nonneg
  have multiplier : 0 ≤ proc.multiplierOf closing.instrumentId :=
    riskRequest_multiplier closeBuilt ▸ closeAsked.multiplier_pos.le
  refine (valuate_currentNotional marks multipliers snapshot.cash
    snapshot.holdings closing.instrumentId).trans ?_
  rw [weightAt_abs_marketValue known, worth, abs_mul, abs_mul, abs_of_nonneg multiplier]
  by_cases flat : heldQuantity snapshot.holdings closing.instrumentId = 0
  · rw [flat, abs_zero, zero_mul, zero_mul, zero_mul, zero_mul]
  · rw [marked flat, Option.getD_some, abs_of_nonneg price]

include configured moves

omit known marked in
theorem closing_allowed_iff :
    let riskState : RiskStateSnapshot :=
      .fromAccount snapshot marks multipliers intradayPnl proc.marginCalculator
    let notional := (riskState.currentNotionalByInstrument.get? closing.instrumentId).getD 0
    let ordered := proc.orderNotional closing
    limits.Allows describe closeAsked ↔
      riskState.currentMarginRequirement ≤ riskState.accountEquity ∧
        equityMultiple riskState.currentExposure ordered riskState.accountEquity ≤
          limits.leverage.maxLeverage ∧
        equityMultiple notional ordered riskState.accountEquity ≤
          limits.concentration.maxFraction := by
  intro riskState notional ordered
  have equity : closeAsked.accountEquity = some riskState.accountEquity :=
    accountRequest_accountEquity closeBuilt
  have margin := marginRule_accountRequest configured closeBuilt describe
  have nothing : max (|heldQuantity snapshot.holdings closing.instrumentId +
      closing.quantityDelta| - |heldQuantity snapshot.holdings closing.instrumentId|) 0 = 0 := by
    rw [moves.closes, add_neg_cancel, abs_zero, zero_sub]
    exact max_eq_right (neg_nonpos.mpr (abs_nonneg _))
  dsimp only at margin
  rw [nothing, zero_mul, zero_mul, zero_mul, add_zero] at margin
  rw [allows_iff, margin, leverageLimitRule_approved equity, concentrationLimitRule_approved equity,
    accountRequest_notional closeBuilt, accountRequest_currentExposure closeBuilt,
    accountRequest_heldNotional closeBuilt, fromAccount_marginRequirement configured]
  rfl

include openBuilt

theorem opening_allowed_iff :
    let riskState : RiskStateSnapshot :=
      .fromAccount snapshot marks multipliers intradayPnl proc.marginCalculator
    let notional := (riskState.currentNotionalByInstrument.get? closing.instrumentId).getD 0
    let ordered := proc.orderNotional closing
    limits.Allows describe openAsked ↔
      riskState.currentMarginRequirement + notional * calculator.initialMarginRate ≤
          riskState.accountEquity ∧
        equityMultiple riskState.currentExposure ordered riskState.accountEquity ≤
          limits.leverage.maxLeverage ∧
        equityMultiple 0 ordered riskState.accountEquity ≤ limits.concentration.maxFraction := by
  intro riskState notional ordered
  have held : notional = |heldQuantity snapshot.holdings closing.instrumentId| *
      closing.marketPrice * proc.multiplierOf closing.instrumentId :=
    closing_notional known marked closeBuilt
  have alike : proc.orderNotional opening = proc.orderNotional closing := by
    rw [orderNotional, orderNotional, moves.opens, moves.closes, abs_neg, moves.price,
      moves.multiplier]
  have equity : openAsked.accountEquity = some riskState.accountEquity :=
    accountRequest_accountEquity openBuilt
  have unheld : openAsked.currentNotional = 0 := by
    rw [accountRequest_currentNotional openBuilt known, moves.unheld, worth, zero_mul, zero_mul,
      abs_zero]
  have margin := marginRule_accountRequest configured openBuilt describe
  dsimp only at margin
  rw [moves.unheld, moves.opens, zero_add, abs_zero, sub_zero, max_eq_left (abs_nonneg _),
    moves.price, moves.multiplier, ← held] at margin
  rw [allows_iff, margin, leverageLimitRule_approved equity, concentrationLimitRule_approved equity,
    accountRequest_notional openBuilt, alike, unheld, accountRequest_currentExposure openBuilt,
    fromAccount_marginRequirement configured]
  rfl

theorem roll_halfDone_iff :
    let riskState : RiskStateSnapshot :=
      .fromAccount snapshot marks multipliers intradayPnl proc.marginCalculator
    limits.Satisfied riskState →
      (¬ (limits.Allows describe closeAsked ∧ ¬ limits.Allows describe openAsked) ↔
        proc.RollFits limits calculator riskState closing) := by
  intro riskState satisfied
  have closes := @closing_allowed_iff _ limits describe _ _ _ _ _ _ _ _ _ configured moves
    closeBuilt
  have opens := @opening_allowed_iff _ limits describe _ _ _ _ _ _ _ _ _ _ configured known marked
    moves closeBuilt openBuilt
  have solvent := closeAsked.accountEquity_pos (accountRequest_accountEquity closeBuilt)
  have held : 0 ≤ (riskState.currentNotionalByInstrument.get? closing.instrumentId).getD 0 :=
    (abs_nonneg _).trans_eq ((accountRequest_currentNotional closeBuilt known).symm.trans
      (accountRequest_heldNotional closeBuilt))
  have lighter := equityMultiple_mono
    ((orderNotional_nonneg closeBuilt).trans_eq (zero_add _).symm) held solvent
  dsimp only at closes opens
  rw [closes, opens, RollFits, ← not_le, ← not_le]
  constructor
  · intro whole
    by_contra none
    push Not at none
    obtain ⟨leverage, concentration, margin⟩ := none
    exact whole ⟨⟨satisfied.margin, leverage, concentration⟩,
      fun opened => absurd opened.1 (not_le.mpr margin)⟩
  · rintro (leverage | concentration | margin) ⟨closed, stopped⟩
    · exact leverage closed.2.1
    · exact concentration closed.2.2
    · exact stopped ⟨margin, closed.2.1, lighter.trans closed.2.2⟩

end Built

end Rolls

section Plans

variable {World : Type} (proc : TargetIntentProcessor) (actors : PartitionActors World)
  (request : IntentRequest) (snapshot : AccountSnapshot) (riskState : RiskStateSnapshot)
  (plans : List OrderPlan)

/-- At every check the risk state is the fresh one exactly if the account then holds what it held
when the intent came. -/
def ChecksFresh (prepared : IntentProcessing World) (orderNumber : Nat) : Prop :=
  ∀ point ∈ proc.checkPoints actors request riskState plans orderNumber prepared,
    ∀ current currentWorld fresh after,
      actors.accountSnapshot.run point.2.world = .ok current currentWorld →
      (proc.riskState request current).run { point.2 with world := currentWorld } =
        .ok fresh after →
      (riskState.Reflects fresh ↔ SamePortfolio snapshot current)

/-- A roll by an account within the rules is not left half done exactly if the old contract may
not be closed or there is margin for both contracts. -/
def RollsWhole : Prop :=
  ∀ (limits : RollLimits) (describe : Decimal → String) (calculator : MarginCalculator)
    (closing opening : OrderPlan) (closeAsked openAsked : OrderRiskRequest),
      proc.marginCalculator = some calculator → closing ∈ plans →
      MovesHolding proc snapshot closing opening →
      proc.riskRequest request riskState closing = .ok closeAsked →
      proc.riskRequest request riskState opening = .ok openAsked →
      limits.Satisfied riskState →
      (¬ (limits.Allows describe closeAsked ∧ ¬ limits.Allows describe openAsked) ↔
        proc.RollFits limits calculator riskState closing)

variable {proc actors request snapshot riskState plans}
  {start prepared : IntentProcessing World} {world : World}
  (asked : actors.accountSnapshot.run start.world = .ok snapshot world)
  (ready : (proc.preparePlans actors request).run start = .ok (riskState, plans) prepared)

include asked ready

theorem preparePlans_checksFresh (orderNumber : Nat) :
    proc.ChecksFresh actors request snapshot riskState plans prepared orderNumber := by
  obtain ⟨accountId, taken, marks, multipliers, intradayPnl, _, ⟨_, answered⟩, marked, known,
    rfl, planned⟩ := preparePlans_inv ready
  rw [asked] at answered
  cases answered
  intro point _ current currentWorld fresh after _ again
  obtain ⟨laterMarks, later, otherPnl, remarked, knownLater, rfl⟩ := riskState_inv again
  exact reflects_iff marked remarked known knownLater intradayPnl otherPnl _

theorem preparePlans_rollsWhole : proc.RollsWhole request snapshot riskState plans := by
  obtain ⟨accountId, taken, marks, multipliers, intradayPnl, _, ⟨_, answered⟩, marked, known,
    rfl, planned⟩ := preparePlans_inv ready
  rw [asked] at answered
  cases answered
  intro limits describe calculator closing opening closeAsked openAsked configured mem moves
    closeBuilt openBuilt satisfied
  have atMark : heldQuantity snapshot.holdings closing.instrumentId ≠ 0 →
      marks.get? closing.instrumentId = some closing.marketPrice := by
    intro held
    obtain ⟨target, _, found⟩ := buildMarkMap_get? marked
    rw [found, if_pos (.inr (mem_keys_of_held held)), (orderPlans_answered planned mem).2]
    rfl
  exact roll_halfDone_iff configured known atMark moves closeBuilt openBuilt satisfied

/-- When the plans of an intent are checked on a fresh risk state, and when its rolls are left
half done. -/
theorem plans_checked_iff (orderNumber : Nat) :
    proc.ChecksFresh actors request snapshot riskState plans prepared orderNumber ∧
      proc.RollsWhole request snapshot riskState plans :=
  ⟨preparePlans_checksFresh asked ready orderNumber, preparePlans_rollsWhole asked ready⟩

end Plans

namespace HalfRoll

open OrderIdentity

def rollProcessor : TargetIntentProcessor where
  riskEngine := {
    rules := [
      marginRule fun _ => "",
      LeverageLimitRule.check ⟨100, by decide +kernel⟩ fun _ => ""] }
  instrumentContext := { futureRollRegistry := rolledRegistry.toOption }
  multiplierFor := fun _ => .ok 1
  brokerId := ⟨⟨"simulated", Eq.refl false⟩⟩
  marginCalculator := some .default
  orderIdPrefixShown := by exact Eq.refl false
  brokerOrderIdPrefixShown := by exact Eq.refl false

def actors : PartitionActors AccountPartition :=
  simulatedActors defaultSimulatedCapabilities

def beforeRoll : IntentProcessing AccountPartition :=
  endState ((rollProcessor.processIntent actors
    (request marchBar (holding frontFuture 1500 .default)) 1).run { world := startingPartition })

def rollIntent : IntentRequest :=
  request juneBar (holding frontFuture 1500 .default)

theorem plans_checked_iff_rollIntent : ∃ riskState plans prepared snapshot world,
    actors.accountSnapshot.run beforeRoll.world = .ok snapshot world ∧
      (rollProcessor.preparePlans actors rollIntent).run beforeRoll =
        .ok (riskState, plans) prepared ∧
      rollProcessor.ChecksFresh actors rollIntent snapshot riskState plans prepared 2 ∧
      rollProcessor.RollsWhole rollIntent snapshot riskState plans := by
  cases asked : actors.accountSnapshot.run beforeRoll.world with
  | error failure world =>
    have answered : raised (actors.accountSnapshot.run beforeRoll.world) = false := by
      decide +kernel
    rw [asked] at answered
    cases answered
  | ok snapshot world =>
    cases ready : (rollProcessor.preparePlans actors rollIntent).run beforeRoll with
    | error failure prepared =>
      have answered : (rollProcessor.prepared actors rollIntent beforeRoll).isSome = true := by
        decide +kernel
      rw [TargetIntentProcessor.prepared, ready] at answered
      cases answered
    | ok start prepared =>
      exact ⟨start.1, start.2, prepared, snapshot, world, rfl, rfl,
        plans_checked_iff asked ready 2⟩

/-- The account satisfies the rules before the roll and both legs trade at the same price; the old
contract is closed, the check of the new one still counts it, and the new one is refused. -/
theorem roll_left_halfDone :
    let outcome := (rollProcessor.processIntent actors rollIntent 2).run beforeRoll
    let prepared := endState ((rollProcessor.preparePlans actors rollIntent).run beforeRoll)
    (rollProcessor.prepared actors rollIntent beforeRoll).map (fun start =>
        (start.2.map fun plan => (plan.instrumentId, plan.quantityDelta, plan.marketPrice),
          decide (start.1.currentMarginRequirement ≤ start.1.accountEquity),
          decide (start.1.currentExposure ≤ 100 * start.1.accountEquity))) =
      some ([(marchContract, -1500, 10), (juneContract, 1500, 10)], true, true) ∧
    (rollProcessor.prepared actors rollIntent beforeRoll).map (fun start =>
        (rollProcessor.checkPoints actors rollIntent start.1 start.2 2 prepared).map fun point =>
          (start.1.currentPosition marchContract,
            heldQuantity point.2.world.account.holdings.holdings marchContract)) =
      some [(1500, 1500), (1500, 0)] ∧
    (match outcome with
      | .ok processed _ => processed.riskDecisions.map fun decision =>
          (decision.approved, decision.ruleId)
      | .error _ _ => []) = [(true, none), (false, some "margin_limit")] ∧
    heldQuantity (endState outcome).world.account.holdings.holdings marchContract = 0 ∧
    heldQuantity (endState outcome).world.account.holdings.holdings juneContract = 0 := by
  decide +kernel

end HalfRoll

end TargetIntentProcessor

end Qts
