import Qts.DeferredContracts
import Qts.NotionalTargets

/-! # Targets on several legs of a root -/

namespace Qts

open RaisingCalls StepRuns OrderPlanBuilder ApplyFill RuntimeInstrumentContext List

theorem heldQuantity_ne_zero_iff {positions : Dict InstrumentId Holding}
    {contract : InstrumentId} :
    heldQuantity positions contract ≠ 0 ↔
      ∃ position, (contract, position) ∈ positions.items ∧ position.quantity ≠ 0 := by
  constructor
  · intro held
    cases found : positions.get? contract with
    | none => simp [heldQuantity, found] at held
    | some position =>
      refine ⟨position, positions.get?_eq_some_iff.mp found, ?_⟩
      simpa [heldQuantity, found] using held
  · rintro ⟨position, mem, moved⟩
    have found := positions.get?_eq_some_iff.mpr mem
    simpa [heldQuantity, found] using moved

namespace OrderPlanBuilder

variable {context : RuntimeInstrumentContext} {intent : TargetIntent} {accountId : AccountId}
  {bar : Bar} {aggregationDecisionId : Option String} {target contract : InstrumentId}
  {plans : List OrderPlan}

theorem closingPlans_closes_iff {related : List InstrumentId}
    {items : List (InstrumentId × Holding)}
    (built : closingPlans context intent accountId bar aggregationDecisionId target related items =
      .ok plans) :
    (∃ plan ∈ plans, plan.instrumentId = contract) ↔
      contract ≠ target ∧ contract ∈ related ∧
        ∃ position, (contract, position) ∈ items ∧ position.quantity ≠ 0 := by
  induction items generalizing plans with
  | nil =>
    cases built
    simp
  | cons item items ih =>
    unfold closingPlans at built
    split at built
    · next passed =>
      rw [ih built]
      refine and_congr_right fun other => and_congr_right fun mem => ?_
      constructor
      · rintro ⟨position, held, moved⟩
        exact ⟨position, mem_cons_of_mem _ held, moved⟩
      · rintro ⟨position, held, moved⟩
        rcases mem_cons.mp held with rfl | later
        · rcases passed with same | unrelated | flat
          · exact absurd same other
          · exact absurd mem unrelated
          · exact absurd flat moved
        · exact ⟨position, later, moved⟩
    · next closes =>
      obtain ⟨marketPrice, _, built⟩ := bind_inv built
      obtain ⟨later, rest, built⟩ := bind_inv built
      cases built
      push Not at closes
      constructor
      · rintro ⟨plan, among, rfl⟩
        rcases mem_cons.mp among with rfl | tail
        · exact ⟨closes.1, closes.2.1, item.2, mem_cons_self, closes.2.2⟩
        · obtain ⟨other, mem, position, held, moved⟩ := (ih rest).mp ⟨plan, tail, rfl⟩
          exact ⟨other, mem, position, mem_cons_of_mem _ held, moved⟩
      · rintro ⟨other, mem, position, held, moved⟩
        rcases mem_cons.mp held with same | tail
        · exact ⟨_, mem_cons_self, congrArg Prod.fst same.symm⟩
        · obtain ⟨plan, among, closed⟩ := (ih rest).mpr ⟨other, mem, position, tail, moved⟩
          exact ⟨plan, mem_cons_of_mem _ among, closed⟩

theorem build_closes_iff {positions : Dict InstrumentId Holding}
    {accountEquity : Option Decimal} {multiplier : Decimal} {related : List InstrumentId}
    (built : build context intent accountId bar aggregationDecisionId positions accountEquity
      multiplier = .ok plans) (continuous : context.isContinuous intent.asset.instrumentId = true)
    (resolved : context.orderInstrumentForIntent intent bar = .ok target)
    (listed : context.relatedContractsFor intent.asset.instrumentId = .ok related)
    (other : contract ≠ target) :
    (∃ plan ∈ plans, plan.instrumentId = contract) ↔
      contract ∈ related ∧ heldQuantity positions contract ≠ 0 := by
  obtain ⟨own, closing, marketPrice, desired, ownResolved, rolled, _, _, rfl⟩ := build_inv built
  obtain rfl : target = own := ok_unique resolved ownResolved
  rw [rollPlans, continuous, if_pos rfl, listed] at rolled
  have closes : (∃ plan ∈ closing, plan.instrumentId = contract) ↔ _ :=
    closingPlans_closes_iff rolled
  rw [heldQuantity_ne_zero_iff]
  constructor
  · rintro ⟨plan, mem, rfl⟩
    rcases mem_append.mp mem with closed | opened
    · exact (closes.mp ⟨plan, closed, rfl⟩).2
    · split at opened
      · cases opened
      · obtain rfl := mem_singleton.mp opened
        exact absurd rfl other
  · rintro ⟨mem, held⟩
    obtain ⟨plan, closed, same⟩ := closes.mpr ⟨other, mem, held⟩
    exact ⟨plan, mem_append_left _ closed, same⟩

end OrderPlanBuilder

/-- A quantity target on a leg, with the registry as it is then filled and the fills that its
orders get. -/
structure LegTarget where
  retainHistory : Bool := true
  commands : List RollCommand
  executionTiming : ExecutionTimingModel := .promotionGrade
  asset : AssetRef
  value : Decimal
  intentId : String
  orderSpec : OrderSpec := .default
  accountId : AccountId
  bar : Bar
  aggregationDecisionId : Option String := none
  accountEquity : Option Decimal := none
  multiplier : Decimal := 1
  fills : List ApplyFill

structure LegAccount where
  actor : AccountActor
  latest : InstrumentId → Option Decimal

namespace LegTarget

variable (caps : PythonText.UpperCase)

def registry (target : LegTarget) : FutureRollRegistry :=
  .filled caps target.retainHistory target.commands

def intent (target : LegTarget) : TargetIntent where
  asset := target.asset
  intentType := .quantity
  value := some target.value
  intentId := target.intentId
  orderSpec := target.orderSpec

def context (target : LegTarget) : RuntimeInstrumentContext where
  futureRollRegistry := some (target.registry caps)
  executionTiming := target.executionTiming

def plans (actor : AccountActor) (target : LegTarget) : Except Failure (List OrderPlan) :=
  build (target.context caps) target.intent target.accountId target.bar
    target.aggregationDecisionId actor.snapshot.1.holdings target.accountEquity target.multiplier

def step : Step LegAccount LegTarget (Except Failure (List OrderPlan)) :=
  fun state target => (target.plans caps state.actor, {
    actor := TargetIntentProcessor.accountAfter caps state.actor target.fills
    latest := Function.update state.latest target.asset.instrumentId (some target.value) })

/-- The target is on a leg, all legs stand for the contracts that they stand for all along, and
the orders are filled completely. -/
structure Filled (front : InstrumentId) (contractOf : InstrumentId → Option InstrumentId)
    (state : LegAccount) (target : LegTarget) : Prop where
  steady : ∀ continuousId,
    (target.registry caps).legContract front target.bar.endTime continuousId =
      contractOf continuousId
  leg : (contractOf target.asset.instrumentId).isSome = true
  accepted : EveryStep (AccountActor.step caps)
    (fun current message => (AccountActor.step caps current message).1.isOk = true) state.actor
    (target.fills.map .applyFill)
  complete : ∃ plans, target.plans caps state.actor = .ok plans ∧ ∀ instrumentId,
    positionOf instrumentId
        (firstDeliveries fillId state.actor.fillIds.seen target.fills) =
      plannedQuantity plans instrumentId

/-- Each leg that was targeted holds its latest target. -/
def LegsReached (contractOf : InstrumentId → Option InstrumentId) (state : LegAccount) : Prop :=
  ∀ continuousId contract value, contractOf continuousId = some contract →
    state.latest continuousId = some value →
      heldQuantity state.actor.holdings.holdings contract = value

def KeepsOtherLegs (contractOf : InstrumentId → Option InstrumentId) (state : LegAccount)
    (target : LegTarget) : Prop :=
  ∀ plans, target.plans caps state.actor = .ok plans → ∀ plan ∈ plans, ∀ continuousId,
    contractOf continuousId = some plan.instrumentId → continuousId = target.asset.instrumentId

/-- Nothing is held of the other legs that are registered with the target's. -/
def OthersFlat (contractOf : InstrumentId → Option InstrumentId) (state : LegAccount)
    (target : LegTarget) : Prop :=
  ∀ related,
    (target.registry caps).relatedContracts target.asset.instrumentId = .ok related →
      ∀ continuousId contract, contractOf continuousId = some contract →
        continuousId ≠ target.asset.instrumentId → contract ∈ related →
          heldQuantity state.actor.holdings.holdings contract = 0

variable {caps} {front : InstrumentId} {contractOf : InstrumentId → Option InstrumentId}
  {state : LegAccount} {target : LegTarget}

section

variable (filled : Filled caps front contractOf state target)

include filled

theorem Filled.injective {first second contract : InstrumentId}
    (leg : contractOf first = some contract) (other : contractOf second = some contract) :
    first = second := by
  rw [← filled.steady] at leg other
  have apart : (target.registry caps).LegsApart :=
    FutureRollRegistry.filled_legsApart caps target.retainHistory target.commands
  exact apart.legContract_injective leg other

theorem Filled.resolved {contract : InstrumentId}
    (leg : contractOf target.asset.instrumentId = some contract) :
    (target.context caps).isContinuous target.intent.asset.instrumentId = true ∧
      (target.context caps).orderInstrumentForIntent target.intent target.bar = .ok contract ∧
      (target.context caps).relatedContractsFor target.intent.asset.instrumentId =
        (target.registry caps).relatedContracts target.asset.instrumentId := by
  rw [← filled.steady] at leg
  obtain ⟨known, _, resolved⟩ := FutureRollRegistry.legContract_inv leg
  have continuous :
      (target.context caps).isContinuous target.intent.asset.instrumentId = true := known
  refine ⟨continuous, ?_, ?_⟩
  · rw [orderInstrumentForIntent, continuous, if_pos rfl]
    exact resolved
  · rw [relatedContractsFor, continuous]
    rfl

theorem Filled.keepsOtherLegs_iff :
    KeepsOtherLegs caps contractOf state target ↔
      OthersFlat caps contractOf state target := by
  obtain ⟨own, leg⟩ := Option.isSome_iff_exists.mp filled.leg
  obtain ⟨plans, built, _⟩ := filled.complete
  obtain ⟨continuous, resolved, listing⟩ := filled.resolved leg
  have ne : ∀ continuousId contract, contractOf continuousId = some contract →
      continuousId ≠ target.asset.instrumentId → contract ≠ own := by
    rintro continuousId _ other apart rfl
    exact apart (filled.injective other leg)
  constructor
  · intro keeps related listed continuousId contract other apart mem
    by_contra held
    obtain ⟨plan, among, rfl⟩ := (build_closes_iff built continuous resolved
      (listing.trans listed) (ne continuousId contract other apart)).mpr ⟨mem, held⟩
    exact apart (keeps plans built plan among continuousId other)
  · intro flat otherPlans rebuilt plan mem continuousId other
    obtain rfl := ok_unique built rebuilt
    by_contra apart
    obtain ⟨_, closing, _, _, _, rolled, _, _, _⟩ := build_inv built
    rw [rollPlans, continuous, if_pos rfl] at rolled
    obtain ⟨related, listed, _⟩ := bind_inv rolled
    obtain ⟨known, held⟩ := (build_closes_iff built continuous resolved listed
      (ne continuousId _ other apart)).mp ⟨plan, mem, rfl⟩
    exact held (flat related (listing.symm.trans listed) continuousId _ other apart known)

end

theorem accepted_sound {actor : AccountActor} {fills : List ApplyFill}
    (sound : actor.holdings.SoundBook)
    (accepted : EveryStep (AccountActor.step caps)
      (fun current message => (AccountActor.step caps current message).1.isOk = true) actor
      (fills.map .applyFill)) :
    (TargetIntentProcessor.accountAfter caps actor fills).holdings.SoundBook := by
  refine @AccountActor.run_counted caps (fun _ => True)
    (fun _ before after => before.holdings.SoundBook → after.holdings.SoundBook)
    (fun _ _ => trivial) (fun _ sound => sound) ?_ fills actor trivial accepted sound
  intro actor next last message counted _ unseen outcome later before
  cases outcome with
  | repeated seen => exact absurd seen unseen
  | booked _ events holdings cash held settled => exact later (before.applyFill held).1

theorem Filled.reached (filled : Filled caps front contractOf state target)
    (sound : state.actor.holdings.SoundBook) (reached : LegsReached contractOf state)
    (keeps : KeepsOtherLegs caps contractOf state target) :
    LegsReached contractOf (step caps state target).2 := by
  obtain ⟨own, leg⟩ := Option.isSome_iff_exists.mp filled.leg
  obtain ⟨plans, built, complete⟩ := filled.complete
  have position : ∀ contract,
      heldQuantity (step caps state target).2.actor.holdings.holdings contract =
        heldQuantity state.actor.holdings.holdings contract + plannedQuantity plans contract := by
    intro contract
    rw [← complete contract]
    exact (AccountActor.run_settles sound filled.accepted).position contract
  intro continuousId contract value named given
  rw [position]
  by_cases same : continuousId = target.asset.instrumentId
  · subst same
    obtain rfl : own = contract := Option.mem_unique leg named
    obtain ⟨_, _, sized⟩ :=
      build_plannedQuantity built (filled.resolved leg).2.1
    have latest : Function.update state.latest target.asset.instrumentId (some target.value)
        target.asset.instrumentId = some value := given
    rw [Function.update_self] at latest
    rw [← Option.some.inj latest]
    exact (Except.ok.inj sized).symm
  · have untouched : plannedQuantity plans contract = 0 := by
      refine plannedQuantity_of_others fun plan mem ordered => same ?_
      exact keeps plans built plan mem continuousId (ordered ▸ named)
    rw [untouched, add_zero]
    have before : Function.update state.latest target.asset.instrumentId (some target.value)
        continuousId = some value := given
    rw [Function.update_of_ne same] at before
    exact reached continuousId contract value named before

end LegTarget

namespace CalendarSpread

open OrderIdentity

theorem positionOf_eq_plannedQuantity {fills : List ApplyFill} {plans : List OrderPlan}
    (filled : Forall₂ (fun message plan => message.fill.instrumentId = plan.instrumentId ∧
      message.fill.signedQuantity = plan.quantityDelta) fills plans) (instrumentId : InstrumentId) :
    positionOf instrumentId fills = plannedQuantity plans instrumentId := by
  induction filled with
  | nil => rfl
  | @cons message plan fills plans same _ ih =>
    rw [positionOf_cons, ih, same.1, same.2]
    simp only [plannedQuantity, filter_cons, decide_eq_true_eq]
    split
    · rw [map_cons, sum_cons]
    · rw [zero_add]

def deferredFuture : InstrumentId :=
  FutureRollRegistry.deferredId "CME" "ES" 1

/-- The front future stands for the March contract. -/
def commands : List RollCommand :=
  [.registerRoot "ES" "CME" [marchContract, juneContract],
   .recordSelection (selection 0 marchContract)]

def contractOf (continuousId : InstrumentId) : Option InstrumentId :=
  (FutureRollRegistry.filled .ascii true commands).legContract frontFuture 60 continuousId

def oneAtTen (fillId : String) (instrumentId : InstrumentId) (side : OrderSide) : ApplyFill where
  fill := {
    fillId
    orderId := ⟨⟨"order-1", Eq.refl false⟩⟩
    instrumentId, side
    quantity := 1
    price := 10
    accountId := some accountOne
    valid := by exact Eq.refl false }
  currency := "USD"
  multiplier := 1

def target (instrumentId : InstrumentId) (value : Decimal) (fills : List ApplyFill) :
    LegTarget where
  commands := commands
  asset := ⟨instrumentId, "ES", Eq.refl false⟩
  value := value
  intentId := "intent-1"
  accountId := accountOne
  bar := marchBar
  fills := fills

def buyFront : LegTarget :=
  target frontFuture 1 [oneAtTen "fill-1" marchContract .buy]

def sellDeferred : LegTarget :=
  target deferredFuture (-1)
    [oneAtTen "fill-2" marchContract .sell, oneAtTen "fill-3" juneContract .sell]

def account : AccountActor := startingPartition.account

def spreadPlan (of : LegTarget) (instrumentId : InstrumentId) (quantityDelta : Decimal) :
    OrderPlan :=
  planFor of.intent accountOne marchBar none instrumentId quantityDelta 10

theorem spread_filled :
    EveryStep (LegTarget.step .ascii)
      (LegTarget.Filled .ascii frontFuture contractOf) ⟨account, fun _ => none⟩
      [buyFront, sellDeferred] := by
  refine ⟨⟨fun _ => rfl, by decide +kernel, by decide +kernel, ?_⟩,
    ⟨fun _ => rfl, by decide +kernel, by decide +kernel, ?_⟩, trivial⟩
  · refine ⟨[spreadPlan buyFront marchContract 1], by decide +kernel, fun instrumentId => ?_⟩
    have counted : firstDeliveries fillId account.fillIds.seen buyFront.fills =
        buyFront.fills := firstDeliveries_new (Finset.notMem_empty _) []
    refine (congrArg (positionOf instrumentId) counted).trans ?_
    exact positionOf_eq_plannedQuantity (.cons ⟨rfl, rfl⟩ .nil) instrumentId
  · refine ⟨[spreadPlan sellDeferred marchContract (-1), spreadPlan sellDeferred juneContract (-1)],
      by decide +kernel, fun instrumentId => ?_⟩
    have counted : firstDeliveries fillId
        (LegTarget.step .ascii ⟨account, fun _ => none⟩ buyFront).2.actor.fillIds.seen
        sellDeferred.fills = sellDeferred.fills := by
      refine (firstDeliveries_new (by decide +kernel) _).trans ?_
      exact congrArg (List.cons _) (firstDeliveries_new (by decide +kernel) [])
    refine (congrArg (positionOf instrumentId) counted).trans ?_
    exact positionOf_eq_plannedQuantity (.cons ⟨rfl, rfl⟩ (.cons ⟨rfl, rfl⟩ .nil)) instrumentId

theorem account_sound : account.holdings.SoundBook :=
  ⟨fun _ _ row => (nomatch row), fun _ fifo => (nomatch fifo)⟩

/-- What the account holds of a contract after the two intents, with orders that the simulated
broker executes. -/
def heldAfterSpread (contract : InstrumentId) : Decimal :=
  let session := final (RuntimeSession.step sessionDependencies) startingSession
    [.intent accountOne (request marchBar buyFront.intent),
     .intent accountOne (request marchBar sellDeferred.intent)]
  heldQuantity session.world.account.holdings.holdings contract

end CalendarSpread

end Qts
