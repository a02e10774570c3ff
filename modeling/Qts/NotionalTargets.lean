import Qts.ExposureLimits
import Qts.OrderIdentity

/-! # Notional targets -/

namespace Qts

open RaisingCalls AccountActor OrderPlanBuilder

def plannedQuantity (plans : List OrderPlan) (instrumentId : InstrumentId) : Decimal :=
  ((plans.filter fun plan => decide (plan.instrumentId = instrumentId)).map
    (·.quantityDelta)).sum

theorem plannedQuantity_append (first second : List OrderPlan) (instrumentId : InstrumentId) :
    plannedQuantity (first ++ second) instrumentId =
      plannedQuantity first instrumentId + plannedQuantity second instrumentId := by
  rw [plannedQuantity, List.filter_append, List.map_append, List.sum_append]
  rfl

theorem plannedQuantity_of_others {plans : List OrderPlan} {instrumentId : InstrumentId}
    (others : ∀ plan ∈ plans, plan.instrumentId ≠ instrumentId) :
    plannedQuantity plans instrumentId = 0 := by
  have none : (plans.filter fun plan => decide (plan.instrumentId = instrumentId)) = [] := by
    rw [List.filter_eq_nil_iff]
    intro plan mem same
    exact others plan mem (of_decide_eq_true same)
  rw [plannedQuantity, none]
  rfl

namespace OrderPlanBuilder

variable {context : RuntimeInstrumentContext} {intent : TargetIntent} {accountId : AccountId}
  {bar : Bar} {aggregationDecisionId : Option String}
  {positions : Dict InstrumentId Holding} {accountEquity : Option Decimal}
  {multiplier : Decimal} {plans : List OrderPlan} {target : InstrumentId}

theorem build_plannedQuantity
    (built : build context intent accountId bar aggregationDecisionId positions accountEquity
      multiplier = .ok plans)
    (resolved : context.orderInstrumentForIntent intent bar = .ok target) :
    ∃ marketPrice, context.marketPriceForIntent intent target bar = .ok marketPrice ∧
      desiredQuantity intent marketPrice accountEquity multiplier =
        .ok (heldQuantity positions target + plannedQuantity plans target) := by
  obtain ⟨own, closing, marketPrice, desired, ownResolved, rolled, priced, sized, rfl⟩ :=
    build_inv built
  obtain rfl : target = own := ok_unique resolved ownResolved
  refine ⟨marketPrice, priced, sized.trans ?_⟩
  have closes : plannedQuantity closing target = 0 :=
    plannedQuantity_of_others fun plan mem => (rollPlans_inv rolled mem).2.choose_spec.2.1
  have opens : desired = heldQuantity positions target +
      plannedQuantity (if desired - heldQuantity positions target = 0 then [] else
        [planFor intent accountId bar aggregationDecisionId target
          (desired - heldQuantity positions target) marketPrice]) target := by
    split
    · next reached =>
      rw [sub_eq_zero.mp reached]
      exact (add_zero _).symm
    · simp [plannedQuantity, planFor]
  rw [plannedQuantity_append, closes, zero_add]
  exact congrArg Except.ok opens

end OrderPlanBuilder

structure FillsTarget (caps : PythonText.UpperCase) (actor : AccountActor)
    (plans : List OrderPlan) (target : InstrumentId) (fills : List ApplyFill) : Prop where
  accepted : StepRuns.EveryStep (step caps)
    (fun current message => (step caps current message).1.isOk = true) actor
    (fills.map .applyFill)
  complete : positionOf target (firstDeliveries ApplyFill.fillId actor.fillIds.seen fills) =
    plannedQuantity plans target

def NotionalReached (intent : TargetIntent) (accountEquity : Option Decimal)
    (marketPrice multiplier position : Decimal) : Prop :=
  match intent.intentType, intent.value with
  | .value, some value => position * marketPrice * multiplier = value
  | .percent, some share =>
    ∀ equity, accountEquity = some equity → position * marketPrice * multiplier = equity * share
  | _, _ => True

theorem desiredQuantity_notional_iff {intent : TargetIntent} {accountEquity : Option Decimal}
    {marketPrice multiplier desired : Decimal} (price : 0 < marketPrice) (unit : 0 < multiplier)
    (sized : desiredQuantity intent marketPrice accountEquity multiplier = .ok desired) :
    NotionalReached intent accountEquity marketPrice multiplier desired ↔
      (intent.intentType = .value → multiplier = 1 ∨ intent.value = some 0) := by
  rw [NotionalReached]
  unfold desiredQuantity at sized
  cases kind : intent.intentType with
  | close => simp
  | quantity => simp
  | value =>
    cases given : intent.value with
    | none => simp [kind, given] at sized
    | some value =>
      simp only [kind, given, divide, if_neg price.ne'] at sized
      obtain rfl := Except.ok.inj sized
      rw [div_mul_cancel₀ _ price.ne']
      simp only [forall_const, Option.some.injEq]
      exact mul_right_eq_self₀
  | percent =>
    cases given : intent.value with
    | none => simp
    | some share =>
      cases accountEquity with
      | none => simp
      | some equity =>
        simp only [kind, given, divide] at sized
        split at sized
        · cases sized
        · rw [if_neg (mul_pos price unit).ne'] at sized
          obtain rfl := Except.ok.inj sized
          have reached : equity * share / (marketPrice * multiplier) * marketPrice * multiplier =
              equity * share := by
            rw [mul_assoc, div_mul_cancel₀ _ (mul_pos price unit).ne']
          simp [reached]

section Targets

variable {context : RuntimeInstrumentContext} {intent : TargetIntent} {accountId : AccountId}
  {bar : Bar} {aggregationDecisionId : Option String} {caps : PythonText.UpperCase}
  {actor : AccountActor} {accountEquity : Option Decimal} {multiplier marketPrice : Decimal}
  {plans : List OrderPlan} {target : InstrumentId} {fills : List ApplyFill}

/-- Once the planned order has filled, the position has the notional that was asked for exactly if
the target is no value target, the multiplier is one or the value is zero. -/
theorem filled_target_notional_iff
    (built : build context intent accountId bar aggregationDecisionId
      actor.snapshot.1.holdings accountEquity multiplier = .ok plans)
    (resolved : context.orderInstrumentForIntent intent bar = .ok target)
    (priced : context.marketPriceForIntent intent target bar = .ok marketPrice)
    (price : 0 < marketPrice) (unit : 0 < multiplier) (sound : actor.holdings.SoundBook)
    (filled : FillsTarget caps actor plans target fills) :
    NotionalReached intent accountEquity marketPrice multiplier
        (heldQuantity (TargetIntentProcessor.accountAfter caps actor fills).holdings.holdings
          target) ↔
      (intent.intentType = .value → multiplier = 1 ∨ intent.value = some 0) := by
  obtain ⟨ownPrice, ownPriced, sized⟩ := build_plannedQuantity built resolved
  obtain rfl : marketPrice = ownPrice := ok_unique priced ownPriced
  have settled := (run_settles sound filled.accepted).position target
  rw [filled.complete] at settled
  rw [TargetIntentProcessor.accountAfter, settled]
  exact desiredQuantity_notional_iff price unit sized

end Targets

namespace ValueTarget

open OrderIdentity

def thousandWorth : TargetIntent :=
  { holding marchContract 1000 .default with intentType := .value }

def wholeEquity : TargetIntent :=
  { holding marchContract 1 .default with intentType := .percent }

def fiftyUnits : TargetIntentProcessor where
  riskEngine := { rules := [] }
  instrumentContext := {}
  multiplierFor := fun _ => .ok 50
  brokerId := ⟨⟨"simulated", Eq.refl false⟩⟩
  orderIdPrefixShown := by exact Eq.refl false
  brokerOrderIdPrefixShown := by exact Eq.refl false

/-- What the account holds of the contract after an intent, traded at 10 by the simulated broker. -/
def heldAfter (intent : TargetIntent) : Decimal :=
  let state := endState ((fiftyUnits.processIntent (simulatedActors defaultSimulatedCapabilities)
    (request marchBar intent) 1).run { world := startingPartition })
  heldQuantity state.world.account.holdings.holdings marchContract

/-- With a thousand in equity both intents ask for the same notional, but the value target comes to
a hundred contracts of 500 each and the percent target to two. -/
theorem value_target_ignores_multiplier :
    heldAfter thousandWorth = 100 ∧ heldAfter wholeEquity = 2 ∧
      ¬ NotionalReached thousandWorth (some 1000) 10 50 (heldAfter thousandWorth) ∧
      heldAfter wholeEquity * 10 * 50 = 1000 * 1 := by
  have worth : heldAfter thousandWorth = 100 := by decide +kernel
  have share : heldAfter wholeEquity = 2 := by decide +kernel
  refine ⟨worth, share, ?_, ?_⟩
  · rw [worth]
    change ¬ ((100 : Decimal) * 10 * 50 = 1000)
    decide +kernel
  · rw [share]
    decide +kernel

def boughtTwo : ApplyFill where
  fill := {
    fillId := "fill-1"
    orderId := ⟨⟨"order-1", Eq.refl false⟩⟩
    instrumentId := marchContract
    side := .buy
    quantity := 2
    price := 10
    accountId := some accountOne
    valid := by exact Eq.refl false }
  currency := "USD"
  multiplier := 50

def twoContracts : OrderPlan :=
  planFor wholeEquity accountOne marchBar none marchContract 2 10

theorem filled_target_notional_iff_wholeEquity :
    NotionalReached wholeEquity (some 1000) 10 50
        (heldQuantity (TargetIntentProcessor.accountAfter .ascii startingPartition.account
          [boughtTwo]).holdings.holdings marchContract) ↔
      (wholeEquity.intentType = .value → (50 : Decimal) = 1 ∨ wholeEquity.value = some 0) := by
  have built : build {} wholeEquity accountOne marchBar none
      startingPartition.account.snapshot.1.holdings (some 1000) 50 = .ok [twoContracts] := by
    decide +kernel
  have counted : firstDeliveries ApplyFill.fillId startingPartition.account.fillIds.seen
      [boughtTwo] = [boughtTwo] := firstDeliveries_new (Finset.notMem_empty _) []
  have filled : FillsTarget .ascii startingPartition.account [twoContracts] marchContract
      [boughtTwo] := by
    refine ⟨by decide +kernel, ?_⟩
    rw [counted]
    decide +kernel
  exact filled_target_notional_iff built rfl rfl (by decide +kernel) (by decide +kernel)
    ⟨fun _ _ row => (nomatch row), fun _ fifo => (nomatch fifo)⟩ filled

end ValueTarget

end Qts
