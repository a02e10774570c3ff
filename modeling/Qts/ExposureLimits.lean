import Mathlib.Algebra.Order.Ring.Abs
import Qts.AccountTotals
import Qts.MarkIsolation
import Qts.RiskRequests

/-! # Exposure limits after the fill -/

namespace Qts

open RaisingCalls PythonText Dict StepRuns PortfolioValuator AccountActor ApplyFill List

theorem convertCash_eq_keyedTotal (cash : Dict String Decimal) :
    convertCash cash = cash.keyedTotal fun _ balance => balance * 1 := by
  rw [convertCash, values, map_map]
  rfl

theorem convertCash_applyDelta {caps : UpperCase} {book next : CashBook} {currency : String}
    {amountDelta : Decimal} (applied : book.applyDelta caps currency amountDelta = .ok next) :
    convertCash next.balances =
      convertCash book.balances + amountDelta := by
  obtain ⟨code, normalized, _⟩ := bind_inv applied
  rw [CashBook.applyDelta_normalized normalized] at applied
  cases applied
  have others : ∀ unmoved, unmoved ≠ code →
      (book.balances.set code ((book.balances.get? code).getD 0 + amountDelta)).weightAt
          (fun _ balance => balance * 1) unmoved =
        book.balances.weightAt (fun _ balance => balance * 1) unmoved := by
    intro unmoved ne
    rw [weightAt, weightAt, get?_set_of_ne _ _ ne]
  rw [convertCash_eq_keyedTotal, convertCash_eq_keyedTotal, keyedTotal_eq_add_sub others]
  simp only [weightAt, get?_set_self, Option.map_some, Option.getD_some]
  cases book.balances.get? code with
  | none => simp
  | some balance => simp

theorem heldQuantity_eq (book : HoldingBook) (instrumentId : InstrumentId) :
    heldQuantity book.holdings instrumentId = (book.holding instrumentId).quantity := by
  rw [heldQuantity, HoldingBook.holding]
  cases book.holdings.get? instrumentId with
  | none => rfl
  | some holding => rfl

namespace AccountActor

variable {caps : UpperCase}

structure Settles (counted : List ApplyFill) (before after : AccountActor) : Prop where
  position : ∀ instrumentId, heldQuantity after.holdings.holdings instrumentId =
    heldQuantity before.holdings.holdings instrumentId + positionOf instrumentId counted
  cash : convertCash after.cash.balances =
    convertCash before.cash.balances - cashSpent counted

theorem run_settles {fills : List ApplyFill} {actor : AccountActor}
    (sound : actor.holdings.SoundBook)
    (accepted : EveryStep (step caps)
      (fun current msg => (step caps current msg).1.isOk = true) actor
      (fills.map .applyFill)) :
    Settles (firstDeliveries fillId actor.fillIds.seen fills) actor
      (final (step caps) actor (fills.map .applyFill)) := by
  refine @run_counted caps (fun actor => actor.holdings.SoundBook) Settles ?_ ?_ ?_
    fills actor sound accepted
  · intro actor next msg sound outcome
    cases outcome with
    | repeated seen => exact sound
    | booked unseen events holdings cash held settled => exact (sound.applyFill held).1
  · intro actor
    exact ⟨fun _ => by simp [positionOf], by simp [cashSpent]⟩
  · intro actor next last msg counted sound unseen outcome later
    cases outcome with
    | repeated seen => exact absurd seen unseen
    | booked _ events holdings cash held settled =>
      constructor
      · intro instrumentId
        have moved := (sound.applyFill held).2 instrumentId
        rw [later.position, heldQuantity_eq, heldQuantity_eq, moved, positionOf_cons, add_assoc]
        rfl
      · rw [later.cash, convertCash_applyDelta settled, cashSpent_cons, cashDelta, notional]
        ring

end AccountActor

structure FilledAt (instrumentId : InstrumentId) (price multiplier : Decimal)
    (fills : List ApplyFill) : Prop where
  instrument : ∀ msg ∈ fills, msg.fill.instrumentId = instrumentId
  price : ∀ msg ∈ fills, msg.fill.price = price
  multiplier : ∀ msg ∈ fills, msg.multiplier = multiplier
  commission : ∀ msg ∈ fills, msg.fill.commission = 0

namespace FilledAt

variable {instrumentId : InstrumentId} {price multiplier : Decimal} {fills : List ApplyFill}

theorem positionOf_other (filled : FilledAt instrumentId price multiplier fills)
    {other : InstrumentId} (ne : other ≠ instrumentId) : positionOf other fills = 0 := by
  have none : (fills.filter fun msg => decide (msg.fill.instrumentId = other)) = [] := by
    rw [filter_eq_nil_iff]
    intro msg mem same
    exact ne ((of_decide_eq_true same).symm.trans (filled.instrument msg mem))
  rw [positionOf, none]
  rfl

theorem cashSpent_eq (filled : FilledAt instrumentId price multiplier fills) :
    cashSpent fills = positionOf instrumentId fills * price * multiplier := by
  induction fills with
  | nil => simp [cashSpent, positionOf]
  | cons msg rest ih =>
    have tail : FilledAt instrumentId price multiplier rest :=
      ⟨fun other mem => filled.instrument other (mem_cons_of_mem _ mem),
        fun other mem => filled.price other (mem_cons_of_mem _ mem),
        fun other mem => filled.multiplier other (mem_cons_of_mem _ mem),
        fun other mem => filled.commission other (mem_cons_of_mem _ mem)⟩
    rw [cashSpent_cons, positionOf_cons, ih tail, notional,
      filled.instrument msg mem_cons_self, if_pos rfl,
      filled.price msg mem_cons_self, filled.multiplier msg mem_cons_self,
      filled.commission msg mem_cons_self]
    ring

end FilledAt

namespace TargetIntentProcessor

variable {proc : TargetIntentProcessor} {caps : UpperCase}
  {actor : AccountActor} {marks multipliers later : DecimalMap} {intradayPnl : Decimal}
  {req : IntentRequest} {plan : OrderPlan} {riskRequest : OrderRiskRequest}
  {fills : List ApplyFill}

def accountAfter (caps : UpperCase) (actor : AccountActor) (fills : List ApplyFill) :
    AccountActor :=
  final (step caps) actor (fills.map .applyFill)

structure FillsPlan (proc : TargetIntentProcessor) (caps : UpperCase)
    (actor : AccountActor) (plan : OrderPlan) (fills : List ApplyFill) : Prop where
  accepted : EveryStep (step caps)
    (fun current msg => (step caps current msg).1.isOk = true) actor
    (fills.map .applyFill)
  atPrice : FilledAt plan.instrumentId plan.marketPrice (proc.multiplierOf plan.instrumentId)
    (firstDeliveries fillId actor.fillIds.seen fills)
  complete : positionOf plan.instrumentId
    (firstDeliveries fillId actor.fillIds.seen fills) = plan.quantityDelta

theorem FillsPlan.moved (filled : FillsPlan proc caps actor plan fills)
    (sound : actor.holdings.SoundBook) :
    Moved actor.holdings.holdings plan.instrumentId plan.quantityDelta
      (accountAfter caps actor fills).holdings.holdings := by
  intro instrumentId
  rw [accountAfter, (run_settles sound filled.accepted).position]
  split
  · next same => rw [same, filled.complete]
  · next ne => rw [filled.atPrice.positionOf_other ne]

theorem FillsPlan.equity (filled : FillsPlan proc caps actor plan fills)
    (sound : actor.holdings.SoundBook)
    (known : proc.multipliersOf actor.holdings.holdings.keys .empty = .ok multipliers)
    (knownAfter : proc.multipliersOf
      (accountAfter caps actor fills).holdings.holdings.keys .empty = .ok later)
    (priced : marks.get? plan.instrumentId = some plan.marketPrice) :
    let after := accountAfter caps actor fills
    (valuate after.cash.balances after.holdings.holdings marks later).accountEquity =
      (valuate actor.cash.balances actor.holdings.holdings marks
        multipliers).accountEquity := by
  intro after
  have settled := (run_settles sound filled.accepted).cash
  rw [valuate_accountEquity, valuate_accountEquity,
    marketValue_moved known knownAfter (filled.moved sound), worth, priced, Option.getD_some]
  rw [filled.atPrice.cashSpent_eq, filled.complete] at settled
  change convertCash (accountAfter caps actor fills).cash.balances = _
    at settled
  rw [settled]
  ring

theorem abs_worth_add_le (proc : TargetIntentProcessor) (marks : DecimalMap)
    (instrumentId : InstrumentId) (held quantityDelta : Decimal) :
    |proc.worth marks instrumentId (held + quantityDelta)| ≤
      |proc.worth marks instrumentId held| +
        |proc.worth marks instrumentId quantityDelta| := by
  rw [worth, add_mul, add_mul]
  exact abs_add_le _ _

theorem accountRequest_cost_worth {snapshot : AccountSnapshot}
    (built : proc.accountRequest req snapshot marks multipliers intradayPnl plan =
      .ok riskRequest) (priced : marks.get? plan.instrumentId = some plan.marketPrice) :
    riskRequest.quantity * riskRequest.price * riskRequest.multiplier =
      |proc.worth marks plan.instrumentId plan.quantityDelta| := by
  have price : 0 ≤ plan.marketPrice := accountRequest_price built ▸ riskRequest.price_nonneg
  have multiplier : 0 ≤ proc.multiplierOf plan.instrumentId :=
    riskRequest_multiplier built ▸ riskRequest.multiplier_pos.le
  rw [accountRequest_cost built, worth, priced, Option.getD_some, abs_mul, abs_mul,
    abs_of_nonneg price, abs_of_nonneg multiplier]

/-- What the three rules approve holds after the fill, where their rounding hides no excess: gross
exposure, the notional of the instrument and its position are within their limits. -/
theorem approved_order_withinLimits (sound : actor.holdings.SoundBook)
    (known : proc.multipliersOf actor.holdings.holdings.keys .empty = .ok multipliers)
    (priced : marks.get? plan.instrumentId = some plan.marketPrice)
    (built : proc.accountRequest req actor.snapshot.1 marks multipliers intradayPnl plan =
      .ok riskRequest) (approved : (proc.riskEngine.check riskRequest).approved = true)
    {describe : Decimal → String} {leverage : LeverageLimitRule}
    {concentration : ConcentrationLimitRule} {position : PositionLimitRule}
    (limitsLeverage : leverage.check describe ∈ proc.riskEngine.rules)
    (limitsConcentration : concentration.check describe ∈ proc.riskEngine.rules)
    (limitsPosition : position.check describe ∈ proc.riskEngine.rules)
    (exposed : riskRequest.Unrounded riskRequest.currentExposure leverage.maxLeverage)
    (concentrated : riskRequest.Unrounded riskRequest.currentNotional concentration.maxFraction)
    (filled : FillsPlan proc caps actor plan fills)
    (knownAfter : proc.multipliersOf
      (accountAfter caps actor fills).holdings.holdings.keys .empty = .ok later) :
    let after := accountAfter caps actor fills
    let valuation :=
      valuate after.cash.balances after.holdings.holdings marks later
    valuation.currentExposure ≤ leverage.maxLeverage * valuation.accountEquity ∧
      (valuation.currentNotionalByInstrument.get? plan.instrumentId).getD 0 ≤
        concentration.maxFraction * valuation.accountEquity ∧
      |(valuation.currentPositionByInstrument.get? plan.instrumentId).getD 0| ≤
        position.maxPosition := by
  intro after valuation
  have equity := accountRequest_accountEquity built
  have withinLeverage := exposed.within equity ((leverageLimitRule_approved equity leverage).mp
    (RiskEngine.check_approved approved limitsLeverage))
  have withinConcentration := concentrated.within equity
    ((concentrationLimitRule_approved equity concentration).mp
      (RiskEngine.check_approved approved limitsConcentration))
  have withinPosition := (positionLimitRule_approved position).mp
    (RiskEngine.check_approved approved limitsPosition)
  have moved := filled.moved sound
  have sameEquity : valuation.accountEquity = _ := filled.equity sound known knownAfter priced
  have cost := accountRequest_cost_worth built priced
  have triangle := proc.abs_worth_add_le marks plan.instrumentId
    (heldQuantity actor.holdings.holdings plan.instrumentId) plan.quantityDelta
  refine ⟨?_, ?_, ?_⟩
  · have exposure : valuation.currentExposure = _ :=
      (valuate_currentExposure _ _ _ _).trans
        (exposure_moved known knownAfter moved)
    rw [accountRequest_currentExposure built, cost, valuate_currentExposure] at withinLeverage
    rw [exposure, sameEquity]
    refine le_trans ?_ withinLeverage
    refine add_le_add le_rfl ?_
    linarith
  · have held : (valuation.currentNotionalByInstrument.get? plan.instrumentId).getD 0 = _ :=
      (valuate_currentNotional _ _ _ _ _).trans
        (weightAt_abs_marketValue knownAfter _)
    rw [accountRequest_currentNotional built known, cost] at withinConcentration
    rw [held, moved.self, sameEquity]
    exact triangle.trans withinConcentration
  · have held : (valuation.currentPositionByInstrument.get? plan.instrumentId).getD 0 = _ :=
      valuate_currentPosition _ _ _ _ _
    rw [accountRequest_projectedPosition built] at withinPosition
    rw [held, moved.self]
    exact withinPosition

/-- The equity in all and in one instrument, and forty thousand units of it. -/
def limitedProcessor : TargetIntentProcessor :=
  { plainProcessor with
    riskEngine := {
      rules := [
        LeverageLimitRule.check ⟨1, Eq.refl true⟩ fun _ => "",
        ConcentrationLimitRule.check ⟨1, Eq.refl true, Eq.refl false⟩ fun _ => "",
        PositionLimitRule.check ⟨40000, Eq.refl true⟩ fun _ => ""] } }

def fundedAccount : AccountActor :=
  .init (empty.set "USD" 90000) (some ⟨⟨"account-1", Eq.refl false⟩⟩)

def buyAtThree (quantity : Decimal) : OrderPlan where
  accountId := ⟨⟨"account-1", Eq.refl false⟩⟩
  instrumentId := heldInstrument
  quantityDelta := quantity
  marketPrice := 3
  orderTime := none
  orderSpec := .default

/-- What is asked about the order. -/
def asked (quantity : Decimal) : Except Failure OrderRiskRequest :=
  limitedProcessor.accountRequest oneUnit fundedAccount.snapshot.1 (empty.set heldInstrument 3)
    .empty 0 (buyAtThree quantity)

def boughtUnit : ApplyFill where
  fill := {
    fillId := "fill-1"
    orderId := ⟨⟨"order-1", Eq.refl false⟩⟩
    instrumentId := heldInstrument
    side := .buy
    quantity := 1
    price := 3
    accountId := some ⟨⟨"account-1", Eq.refl false⟩⟩
    valid := by exact Eq.refl false }
  currency := "USD"
  multiplier := 1

/-- A quantity of 28 digits, three times which is just over 90000. -/
def hairline : Decimal :=
  30000 + 1 / 10 ^ 23

def boughtHairline : ApplyFill where
  fill := { boughtUnit.fill with quantity := hairline, valid := by decide +kernel }
  currency := "USD"
  multiplier := 1

theorem fillsPlan_of_single {quantity : Decimal} {msg : ApplyFill}
    (accepted : EveryStep (step .ascii)
      (fun current msg => (step .ascii current msg).1.isOk = true) fundedAccount
      [.applyFill msg])
    (atPrice : FilledAt heldInstrument 3 1 [msg])
    (complete : positionOf heldInstrument [msg] = quantity) :
    FillsPlan limitedProcessor .ascii fundedAccount (buyAtThree quantity) [msg] := by
  have counted : firstDeliveries fillId fundedAccount.fillIds.seen [msg] = [msg] :=
    firstDeliveries_new (Finset.notMem_empty _) []
  exact ⟨accepted, by rw [counted]; exact atPrice, by rw [counted]; exact complete⟩

theorem asked_answered (quantity : Decimal) (returned : (asked quantity).isOk = true) :
    ∃ riskRequest, asked quantity = .ok riskRequest := by
  cases built : asked quantity with
  | error failure =>
    rw [built] at returned
    cases returned
  | ok riskRequest => exact ⟨riskRequest, rfl⟩

theorem boughtUnit_fillsPlan :
    FillsPlan limitedProcessor .ascii fundedAccount (buyAtThree 1) [boughtUnit] := by
  refine fillsPlan_of_single (by decide +kernel) ?_ (by decide +kernel)
  constructor <;>
  · intro msg mem
    obtain rfl := mem_singleton.mp mem
    rfl

theorem boughtHairline_fillsPlan :
    FillsPlan limitedProcessor .ascii fundedAccount (buyAtThree hairline) [boughtHairline] := by
  refine fillsPlan_of_single (by decide +kernel) ?_ (by decide +kernel)
  constructor <;>
  · intro msg mem
    obtain rfl := mem_singleton.mp mem
    rfl

theorem approved_order_withinLimits_buyUnit : ∃ riskRequest, asked 1 = .ok riskRequest ∧
    let after := accountAfter .ascii fundedAccount [boughtUnit]
    let valuation := valuate after.cash.balances after.holdings.holdings
      (empty.set heldInstrument 3) (empty.set heldInstrument 1)
    valuation.currentExposure ≤ 1 * valuation.accountEquity ∧
      (valuation.currentNotionalByInstrument.get? heldInstrument).getD 0 ≤
        1 * valuation.accountEquity ∧
      |(valuation.currentPositionByInstrument.get? heldInstrument).getD 0| ≤ 40000 := by
  obtain ⟨riskRequest, built⟩ := asked_answered 1 (by decide +kernel)
  have decided : (asked 1).toOption.map (fun asked =>
      ((limitedProcessor.riskEngine.check asked).approved,
        decide (asked.Unrounded asked.currentExposure 1),
        decide (asked.Unrounded asked.currentNotional 1))) = some (true, true, true) := by
    decide +kernel
  rw [built] at decided
  obtain ⟨approved, exposed, concentrated⟩ :
      (limitedProcessor.riskEngine.check riskRequest).approved = true ∧
        riskRequest.Unrounded riskRequest.currentExposure 1 ∧
        riskRequest.Unrounded riskRequest.currentNotional 1 := by
    simpa [Except.toOption] using decided
  have sound : fundedAccount.holdings.SoundBook :=
    ⟨fun _ _ row => by { cases row }, fun _ fifo => by { cases fifo }⟩
  exact ⟨riskRequest, built, approved_order_withinLimits sound rfl rfl built approved
    mem_cons_self (mem_cons_of_mem _ mem_cons_self)
    (mem_cons_of_mem _ (mem_cons_of_mem _ mem_cons_self)) exposed concentrated
    boughtUnit_fillsPlan (by rfl)⟩

/-- Approved because the leverage is rounded to one, and over the limit once it is filled. -/
theorem rounded_leverage_approved :
    (asked hairline).toOption.map (fun asked =>
        (limitedProcessor.riskEngine.check asked).approved) = some true ∧
      FillsPlan limitedProcessor .ascii fundedAccount (buyAtThree hairline) [boughtHairline] ∧
      let after := accountAfter .ascii fundedAccount [boughtHairline]
      let valuation := valuate after.cash.balances after.holdings.holdings
        (empty.set heldInstrument 3) (empty.set heldInstrument 1)
      1 * valuation.accountEquity < valuation.currentExposure :=
  ⟨by decide +kernel, boughtHairline_fillsPlan, by decide +kernel⟩

end TargetIntentProcessor

end Qts
