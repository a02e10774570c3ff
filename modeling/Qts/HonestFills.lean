import Qts.HoldingAccounting
import Qts.SimulatedExecution

/-! # Price-honest fills of the simulated broker -/

namespace Qts

namespace SimulatedExecutionAdapter

inductive Touch (intent : OrderIntent) (marketPrice high low : Decimal) : Decimal → Prop
  | atMarket
      (orderType : intent.orderSpec.orderType = .market ∨ intent.orderSpec.orderType = .bracket) :
      Touch intent marketPrice high low marketPrice
  | buyLimit (limitPrice : Decimal) (limited : intent.orderSpec.limitPrice = some limitPrice)
      (orderType : intent.orderSpec.orderType = .limit ∨ intent.orderSpec.orderType = .stopLimit ∧
          ∃ stopPrice, intent.orderSpec.stopPrice = some stopPrice ∧ stopPrice ≤ high)
      (side : intent.side = .buy) (reached : low ≤ limitPrice) :
      Touch intent marketPrice high low (min limitPrice high)
  | sellLimit (limitPrice : Decimal) (limited : intent.orderSpec.limitPrice = some limitPrice)
      (orderType : intent.orderSpec.orderType = .limit ∨ intent.orderSpec.orderType = .stopLimit ∧
          ∃ stopPrice, intent.orderSpec.stopPrice = some stopPrice ∧ low ≤ stopPrice)
      (side : intent.side = .sell) (reached : limitPrice ≤ high) :
      Touch intent marketPrice high low (max limitPrice low)
  | buyStop (stopPrice : Decimal) (stopped : intent.orderSpec.stopPrice = some stopPrice)
      (orderType : intent.orderSpec.orderType = .stop) (side : intent.side = .buy)
      (reached : stopPrice ≤ high) : Touch intent marketPrice high low (max stopPrice low)
  | sellStop (stopPrice : Decimal) (stopped : intent.orderSpec.stopPrice = some stopPrice)
      (orderType : intent.orderSpec.orderType = .stop) (side : intent.side = .sell)
      (reached : low ≤ stopPrice) : Touch intent marketPrice high low (min stopPrice high)

section Evaluation

variable {intent : OrderIntent} {marketPrice high low basePrice : Decimal}

theorem evaluateLimit_touch (orderType : intent.orderSpec.orderType = .limit)
    (decided : evaluateLimit intent high low = .ok ⟨true, basePrice⟩) :
    Touch intent marketPrice high low basePrice := by
  unfold evaluateLimit at decided
  cases limited : intent.orderSpec.limitPrice with
  | none =>
    rw [limited] at decided
    cases decided
  | some limitPrice =>
    rw [limited] at decided
    cases side : intent.side with
    | buy =>
      rw [side] at decided
      dsimp only at decided
      split at decided
      · next reached =>
        cases decided
        exact .buyLimit limitPrice limited (.inl orderType) side reached
      · cases decided
    | sell =>
      rw [side] at decided
      dsimp only at decided
      split at decided
      · next reached =>
        cases decided
        exact .sellLimit limitPrice limited (.inl orderType) side reached
      · cases decided

theorem evaluateStop_touch (orderType : intent.orderSpec.orderType = .stop)
    (decided : evaluateStop intent high low = .ok ⟨true, basePrice⟩) :
    Touch intent marketPrice high low basePrice := by
  unfold evaluateStop at decided
  cases stopped : intent.orderSpec.stopPrice with
  | none =>
    rw [stopped] at decided
    cases decided
  | some stopPrice =>
    rw [stopped] at decided
    cases side : intent.side with
    | buy =>
      rw [side] at decided
      dsimp only at decided
      split at decided
      · next reached =>
        cases decided
        exact .buyStop stopPrice stopped orderType side reached
      · cases decided
    | sell =>
      rw [side] at decided
      dsimp only at decided
      split at decided
      · next reached =>
        cases decided
        exact .sellStop stopPrice stopped orderType side reached
      · cases decided

theorem evaluateStopLimit_touch (orderType : intent.orderSpec.orderType = .stopLimit)
    (decided : evaluateStopLimit intent high low = .ok ⟨true, basePrice⟩) :
    Touch intent marketPrice high low basePrice := by
  unfold evaluateStopLimit at decided
  cases stopped : intent.orderSpec.stopPrice with
  | none =>
    rw [stopped] at decided
    cases decided
  | some stopPrice =>
    cases limited : intent.orderSpec.limitPrice with
    | none =>
      rw [stopped, limited] at decided
      cases decided
    | some limitPrice =>
      rw [stopped, limited] at decided
      cases side : intent.side with
      | buy =>
        rw [side] at decided
        dsimp only at decided
        split at decided
        · next reached =>
          cases decided
          exact .buyLimit limitPrice limited (.inr ⟨orderType, stopPrice, stopped, reached.1⟩) side
            reached.2
        · cases decided
      | sell =>
        rw [side] at decided
        dsimp only at decided
        split at decided
        · next reached =>
          cases decided
          exact .sellLimit limitPrice limited (.inr ⟨orderType, stopPrice, stopped, reached.1⟩)
            side reached.2
        · cases decided

theorem evaluateFill_touch
    (decided : evaluateFill intent marketPrice high low = .ok ⟨true, basePrice⟩) :
    Touch intent marketPrice high low basePrice := by
  unfold evaluateFill at decided
  split at decided
  · next orderType =>
    cases decided
    exact .atMarket (.inl orderType)
  · next orderType =>
    cases decided
    exact .atMarket (.inr orderType)
  · next orderType => exact evaluateLimit_touch orderType decided
  · next orderType => exact evaluateStop_touch orderType decided
  · next orderType => exact evaluateStopLimit_touch orderType decided
  · cases decided

theorem resolveBarRange_contains {barHigh barLow : Option Decimal} {range : Decimal × Decimal}
    (resolved : resolveBarRange marketPrice barHigh barLow = .ok range) :
    range = (barHigh.getD marketPrice, barLow.getD marketPrice) ∧
      barLow.getD marketPrice ≤ marketPrice ∧ marketPrice ≤ barHigh.getD marketPrice := by
  unfold resolveBarRange at resolved
  cases barHigh with
  | none =>
    cases barLow with
    | none =>
      cases resolved
      exact ⟨rfl, le_rfl, le_rfl⟩
    | some low => cases resolved
  | some high =>
    cases barLow with
    | none => cases resolved
    | some low =>
      dsimp only at resolved
      split at resolved
      · cases resolved
      · split at resolved
        · cases resolved
        · next within =>
          cases resolved
          rw [not_or, not_lt, not_lt] at within
          exact ⟨rfl, within.1, within.2⟩

theorem executeMarketOrder_filled {adapter : SimulatedExecutionAdapter} {brokerOrderId : String}
    {barHigh barLow : Option Decimal} {barTime : Option DateTime} {answered : ExecutionReport}
    (executed : adapter.executeMarketOrder intent brokerOrderId marketPrice barHigh barLow barTime =
      .ok answered) (filled : answered.status = .filled) :
    (0 ≤ marketPrice ∧ barLow.getD marketPrice ≤ marketPrice ∧
        marketPrice ≤ barHigh.getD marketPrice) ∧
      ∃ basePrice, Touch intent marketPrice (barHigh.getD marketPrice) (barLow.getD marketPrice)
          basePrice ∧
        answered.toExecutionReportFields =
          filledFields adapter.costModel intent brokerOrderId basePrice barTime := by
  unfold executeMarketOrder at executed
  split at executed
  · cases executed
  · next nonneg =>
    split at executed
    · have fields := report_fields executed
      rw [fields] at filled
      cases filled
    · obtain ⟨_, _, executed⟩ := bind_inv executed
      obtain ⟨range, resolved, executed⟩ := bind_inv executed
      obtain ⟨rfl, above, below⟩ := resolveBarRange_contains resolved
      obtain ⟨⟨triggered, basePrice⟩, decided, executed⟩ := bind_inv executed
      refine ⟨⟨not_lt.mp nonneg, above, below⟩, basePrice, ?_⟩
      cases triggered with
      | false =>
        have fields := report_fields executed
        rw [fields] at filled
        cases filled
      | true => exact ⟨evaluateFill_touch decided, report_fields executed⟩

end Evaluation

/-- An order that must not be filled beyond its limit. -/
def Limited (intent : OrderIntent) : Prop :=
  intent.orderSpec.orderType = .limit ∨ intent.orderSpec.orderType = .stopLimit

def preSlippage (intent : OrderIntent) (price slippage : Decimal) : Decimal :=
  match intent.side with
  | .buy => price - slippage
  | .sell => price + slippage

/-- An honest fill: a price that is not negative and keeps the limit, from a price of the bar that
is no better than the stop, on a bar that reached the stop. -/
structure PriceHonest (intent : OrderIntent) (high low price slippage : Decimal) : Prop where
  nonneg : 0 ≤ price
  keepsLimit : Limited intent → ∀ limitPrice, intent.orderSpec.limitPrice = some limitPrice →
    match intent.side with
    | .buy => price ≤ limitPrice
    | .sell => limitPrice ≤ price
  aboveLow : low ≤ preSlippage intent price slippage
  belowHigh : preSlippage intent price slippage ≤ high
  noBetter : intent.orderSpec.orderType = .stop →
    ∀ stopPrice, intent.orderSpec.stopPrice = some stopPrice →
      match intent.side with
      | .buy => stopPrice ≤ preSlippage intent price slippage
      | .sell => preSlippage intent price slippage ≤ stopPrice
  reached : intent.orderSpec.orderType = .stop ∨ intent.orderSpec.orderType = .stopLimit →
    ∀ stopPrice, intent.orderSpec.stopPrice = some stopPrice →
      match intent.side with
      | .buy => stopPrice ≤ high
      | .sell => low ≤ stopPrice

/-- The slippage leaves the fill within the limit, or at least not negative. -/
def LeavesRoom (slippageBps : Decimal) (intent : OrderIntent) (marketPrice high low : Decimal) :
    Prop :=
  match intent.orderSpec.orderType, intent.side with
  | .limit, .buy | .stopLimit, .buy =>
    ∀ limitPrice, intent.orderSpec.limitPrice = some limitPrice →
      slippageBps = 0 ∨ limitPrice = 0 ∨ high + high * slippageBps / 10000 ≤ limitPrice
  | .limit, .sell | .stopLimit, .sell =>
    ∀ limitPrice, intent.orderSpec.limitPrice = some limitPrice →
      slippageBps = 0 ∨ limitPrice ≤ low - low * slippageBps / 10000
  | .stop, .sell =>
    slippageBps ≤ 10000 ∨ high = 0 ∨ intent.orderSpec.stopPrice = some 0
  | _, .sell => slippageBps ≤ 10000 ∨ marketPrice = 0
  | _, .buy => True

def slipped (slippageBps : Decimal) (intent : OrderIntent) (basePrice : Decimal) : Decimal :=
  match intent.side with
  | .buy => basePrice + basePrice * slippageBps / 10000
  | .sell => basePrice - basePrice * slippageBps / 10000

section Slippage

variable {slippageBps : Decimal} {intent : OrderIntent} {marketPrice high low basePrice : Decimal}

theorem preSlippage_slipped :
    preSlippage intent (slipped slippageBps intent basePrice)
      (basePrice * slippageBps / 10000) = basePrice := by
  unfold preSlippage slipped
  cases intent.side with
  | buy => exact add_sub_cancel_right _ _
  | sell => exact sub_add_cancel _ _

theorem Touch.honest_iff (touch : Touch intent marketPrice high low basePrice)
    (above : low ≤ marketPrice) (below : marketPrice ≤ high) :
    PriceHonest intent high low (slipped slippageBps intent basePrice)
        (basePrice * slippageBps / 10000) ↔
      0 ≤ slipped slippageBps intent basePrice ∧
        (Limited intent → ∀ limitPrice, intent.orderSpec.limitPrice = some limitPrice →
          match intent.side with
          | .buy => slipped slippageBps intent basePrice ≤ limitPrice
          | .sell => limitPrice ≤ slipped slippageBps intent basePrice) := by
  have range : low ≤ high := above.trans below
  constructor
  · intro honest
    exact ⟨honest.nonneg, honest.keepsLimit⟩
  · rintro ⟨nonneg, keepsLimit⟩
    have inBar : low ≤ basePrice ∧ basePrice ≤ high := by
      cases touch with
      | atMarket => exact ⟨above, below⟩
      | buyLimit limitPrice limited orderType side reached =>
        exact ⟨le_min reached range, min_le_right _ _⟩
      | sellLimit limitPrice limited orderType side reached =>
        exact ⟨le_max_right _ _, max_le reached range⟩
      | buyStop stopPrice stopped orderType side reached =>
        exact ⟨le_max_right _ _, max_le reached range⟩
      | sellStop stopPrice stopped orderType side reached =>
        exact ⟨le_min reached range, min_le_right _ _⟩
    refine ⟨nonneg, keepsLimit, ?_, ?_, ?_, ?_⟩
    · rw [preSlippage_slipped]
      exact inBar.1
    · rw [preSlippage_slipped]
      exact inBar.2
    · intro isStop stopPrice stopped
      rw [preSlippage_slipped]
      cases touch with
      | atMarket orderType => simp [isStop] at orderType
      | buyLimit _ _ orderType => simp [isStop] at orderType
      | sellLimit _ _ orderType => simp [isStop] at orderType
      | buyStop found known orderType side reached =>
        obtain rfl := Option.mem_unique known stopped
        rw [side]
        exact le_max_left _ _
      | sellStop found known orderType side reached =>
        obtain rfl := Option.mem_unique known stopped
        rw [side]
        exact min_le_left _ _
    · intro triggers stopPrice stopped
      cases touch with
      | atMarket orderType =>
        rcases triggers with isStop | isStop <;> simp [isStop] at orderType
      | buyLimit _ _ orderType side =>
        rw [side]
        rcases orderType with isLimit | ⟨_, found, known, reached⟩
        · simp [isLimit] at triggers
        · obtain rfl := Option.mem_unique known stopped
          exact reached
      | sellLimit _ _ orderType side =>
        rw [side]
        rcases orderType with isLimit | ⟨_, found, known, reached⟩
        · simp [isLimit] at triggers
        · obtain rfl := Option.mem_unique known stopped
          exact reached
      | buyStop found known _ side reached =>
        obtain rfl := Option.mem_unique known stopped
        rw [side]
        exact reached
      | sellStop found known _ side reached =>
        obtain rfl := Option.mem_unique known stopped
        rw [side]
        exact reached

theorem buyLimit_room {limitPrice : Decimal} (bps : 0 ≤ slippageBps) (lowNonneg : 0 ≤ low)
    (range : low ≤ high) (reached : low ≤ limitPrice) :
    min limitPrice high + min limitPrice high * slippageBps / 10000 ≤ limitPrice ↔
      slippageBps = 0 ∨ limitPrice = 0 ∨ high + high * slippageBps / 10000 ≤ limitPrice := by
  have highNonneg : 0 ≤ high := lowNonneg.trans range
  constructor
  · intro kept
    rcases le_total limitPrice high with within | beyond
    · rw [min_eq_left within] at kept
      have nothing : limitPrice * slippageBps = 0 :=
        le_antisymm (by linarith) (mul_nonneg (lowNonneg.trans reached) bps)
      rcases mul_eq_zero.mp nothing with zero | free
      · exact .inr (.inl zero)
      · exact .inl free
    · rw [min_eq_right beyond] at kept
      exact .inr (.inr kept)
  · rintro (free | zero | kept)
    · rw [free]
      simp
    · rw [zero, min_eq_left highNonneg]
      simp
    · have least : min limitPrice high ≤ high := min_le_right _ _
      have scaled : min limitPrice high * slippageBps ≤ high * slippageBps :=
        mul_le_mul_of_nonneg_right least bps
      linarith

theorem sellLimit_room {limitPrice : Decimal} (bps : 0 ≤ slippageBps) (lowNonneg : 0 ≤ low)
    (limitNonneg : 0 ≤ limitPrice) :
    limitPrice ≤ max limitPrice low - max limitPrice low * slippageBps / 10000 ↔
      slippageBps = 0 ∨ limitPrice ≤ low - low * slippageBps / 10000 := by
  constructor
  · intro kept
    rcases le_total low limitPrice with below | above
    · rw [max_eq_left below] at kept
      have nothing : limitPrice * slippageBps = 0 :=
        le_antisymm (by linarith) (mul_nonneg limitNonneg bps)
      rcases mul_eq_zero.mp nothing with zero | free
      · have flat : low = 0 := le_antisymm (below.trans zero.le) lowNonneg
        right
        rw [zero, flat]
        simp
      · exact .inl free
    · rw [max_eq_right above] at kept
      exact .inr kept
  · rintro (free | kept)
    · rw [free]
      simp
    · have amount : 0 ≤ low * slippageBps := mul_nonneg lowNonneg bps
      have above : limitPrice ≤ low := by linarith
      rw [max_eq_right above]
      exact kept

theorem sell_room (nonneg : 0 ≤ basePrice) :
    0 ≤ basePrice - basePrice * slippageBps / 10000 ↔ slippageBps ≤ 10000 ∨ basePrice = 0 := by
  constructor
  · intro kept
    rcases nonneg.eq_or_lt with zero | pos
    · exact .inr zero.symm
    · left
      by_contra beyond
      have more : basePrice * 10000 < basePrice * slippageBps :=
        mul_lt_mul_of_pos_left (not_le.mp beyond) pos
      linarith
  · rintro (room | zero)
    · have less : basePrice * slippageBps ≤ basePrice * 10000 :=
        mul_le_mul_of_nonneg_left room nonneg
      linarith
    · rw [zero]
      simp

end Slippage

theorem limitPrice_nonneg (spec : OrderSpec) {limitPrice : Decimal}
    (limited : spec.limitPrice = some limitPrice) : 0 ≤ limitPrice := by
  have passes := (Check.firstFailure_none _).mp spec.valid
    (validateOptionalPrice spec.limitPrice "limit_price") (by simp [OrderSpecFields.checks])
  simpa [validateOptionalPrice, limited] using passes

theorem stopPrice_nonneg (spec : OrderSpec) {stopPrice : Decimal}
    (stopped : spec.stopPrice = some stopPrice) : 0 ≤ stopPrice := by
  have passes := (Check.firstFailure_none _).mp spec.valid
    (validateOptionalPrice spec.stopPrice "stop_price") (by simp [OrderSpecFields.checks])
  simpa [validateOptionalPrice, stopped] using passes

section Fills

variable {intent : OrderIntent} {marketPrice high low basePrice : Decimal}
  {costModel : SimulatedExecutionCostModel}

theorem Touch.room_iff (touch : Touch intent marketPrice high low basePrice)
    (bps : 0 ≤ costModel.slippageBps) (lowNonneg : 0 ≤ low) (above : low ≤ marketPrice)
    (below : marketPrice ≤ high) :
    (0 ≤ slipped costModel.slippageBps intent basePrice ∧
      (Limited intent → ∀ limitPrice, intent.orderSpec.limitPrice = some limitPrice →
        match intent.side with
        | .buy => slipped costModel.slippageBps intent basePrice ≤ limitPrice
        | .sell => limitPrice ≤ slipped costModel.slippageBps intent basePrice)) ↔
      LeavesRoom costModel.slippageBps intent marketPrice high low := by
  have range : low ≤ high := above.trans below
  have marketNonneg : 0 ≤ marketPrice := lowNonneg.trans above
  have highNonneg : 0 ≤ high := lowNonneg.trans range
  cases touch with
  | atMarket orderType =>
    have unlimited : ¬ Limited intent := by
      rcases orderType with isMarket | isBracket <;> simp [Limited, *]
    cases side : intent.side with
    | buy =>
      have room : LeavesRoom costModel.slippageBps intent marketPrice high low := by
        rcases orderType with isMarket | isBracket <;> simp [LeavesRoom, *]
      have amount : 0 ≤ marketPrice * costModel.slippageBps := mul_nonneg marketNonneg bps
      refine iff_of_true ⟨?_, fun limited => absurd limited unlimited⟩ room
      rw [slipped, side]
      dsimp only
      linarith
    | sell =>
      have room : LeavesRoom costModel.slippageBps intent marketPrice high low ↔
          costModel.slippageBps ≤ 10000 ∨ marketPrice = 0 := by
        rcases orderType with isMarket | isBracket <;> simp [LeavesRoom, *]
      rw [room, ← sell_room marketNonneg, slipped, side]
      exact ⟨fun both => both.1, fun nonneg => ⟨nonneg, fun limited => absurd limited unlimited⟩⟩
  | buyLimit limitPrice limited orderType side reached =>
    have isLimited : Limited intent := orderType.imp_right And.left
    have room : LeavesRoom costModel.slippageBps intent marketPrice high low ↔
        costModel.slippageBps = 0 ∨ limitPrice = 0 ∨
          high + high * costModel.slippageBps / 10000 ≤ limitPrice := by
      rcases isLimited with isLimit | isStopLimit <;> simp [LeavesRoom, *]
    have base : 0 ≤ min limitPrice high := le_min (lowNonneg.trans reached) highNonneg
    have amount : 0 ≤ min limitPrice high * costModel.slippageBps := mul_nonneg base bps
    rw [room, ← buyLimit_room bps lowNonneg range reached, slipped, side]
    dsimp only
    constructor
    · intro both
      exact both.2 isLimited limitPrice limited
    · intro kept
      refine ⟨by linarith, fun _ other known => ?_⟩
      obtain rfl := Option.mem_unique limited known
      exact kept
  | sellLimit limitPrice limited orderType side reached =>
    have isLimited : Limited intent := orderType.imp_right And.left
    have limitNonneg := limitPrice_nonneg intent.orderSpec limited
    have room : LeavesRoom costModel.slippageBps intent marketPrice high low ↔
        costModel.slippageBps = 0 ∨
          limitPrice ≤ low - low * costModel.slippageBps / 10000 := by
      rcases isLimited with isLimit | isStopLimit <;> simp [LeavesRoom, *]
    rw [room, ← sellLimit_room bps lowNonneg limitNonneg, slipped, side]
    dsimp only
    constructor
    · intro both
      exact both.2 isLimited limitPrice limited
    · intro kept
      refine ⟨limitNonneg.trans kept, fun _ other known => ?_⟩
      obtain rfl := Option.mem_unique limited known
      exact kept
  | buyStop stopPrice stopped orderType side reached =>
    have unlimited : ¬ Limited intent := by simp [Limited, orderType]
    have room : LeavesRoom costModel.slippageBps intent marketPrice high low := by
      simp [LeavesRoom, orderType, side]
    have base : 0 ≤ max stopPrice low := lowNonneg.trans (le_max_right _ _)
    have amount : 0 ≤ max stopPrice low * costModel.slippageBps := mul_nonneg base bps
    refine iff_of_true ⟨?_, fun limited => absurd limited unlimited⟩ room
    rw [slipped, side]
    dsimp only
    linarith
  | sellStop stopPrice stopped orderType side reached =>
    have unlimited : ¬ Limited intent := by simp [Limited, orderType]
    have stopNonneg := stopPrice_nonneg intent.orderSpec stopped
    have base : 0 ≤ min stopPrice high := le_min stopNonneg highNonneg
    have flat : min stopPrice high = 0 ↔ high = 0 ∨ stopPrice = 0 := by
      constructor
      · intro zero
        rcases min_choice stopPrice high with least | least
        · exact .inr (least.symm.trans zero)
        · exact .inl (least.symm.trans zero)
      · rintro (zero | zero)
        · rw [zero, min_eq_right stopNonneg]
        · rw [zero, min_eq_left highNonneg]
    have room : LeavesRoom costModel.slippageBps intent marketPrice high low ↔
        costModel.slippageBps ≤ 10000 ∨ high = 0 ∨ stopPrice = 0 := by
      simp [LeavesRoom, orderType, side, stopped]
    rw [room, ← flat, ← sell_room base, slipped, side]
    exact ⟨fun both => both.1, fun nonneg => ⟨nonneg, fun limited => absurd limited unlimited⟩⟩

theorem filled_amounts {brokerOrderId : String} {barTime : Option DateTime}
    (bps : 0 ≤ costModel.slippageBps) (nonneg : 0 ≤ basePrice) :
    (filledFields costModel intent brokerOrderId basePrice barTime).fillPrice =
        some (slipped costModel.slippageBps intent basePrice) ∧
      (filledFields costModel intent brokerOrderId basePrice barTime).slippage =
        basePrice * costModel.slippageBps / 10000 := by
  have amount : 0 ≤ basePrice * costModel.slippageBps / 10000 :=
    div_nonneg (mul_nonneg nonneg bps) (by norm_num)
  simp only [filledFields, slipped]
  cases intent.side with
  | buy => simp [abs_of_nonneg amount]
  | sell => simp [abs_of_nonneg amount]

theorem Touch.nonneg (touch : Touch intent marketPrice high low basePrice) (lowNonneg : 0 ≤ low)
    (above : low ≤ marketPrice) (below : marketPrice ≤ high) : 0 ≤ basePrice := by
  have highNonneg : 0 ≤ high := (lowNonneg.trans above).trans below
  cases touch with
  | atMarket => exact lowNonneg.trans above
  | buyLimit limitPrice limited orderType side reached =>
    exact le_min (lowNonneg.trans reached) highNonneg
  | sellLimit => exact lowNonneg.trans (le_max_right _ _)
  | buyStop => exact lowNonneg.trans (le_max_right _ _)
  | sellStop stopPrice stopped orderType side reached =>
    exact le_min (lowNonneg.trans reached) highNonneg

/-- A reported fill is honest exactly when the slippage leaves room: at a limit, for the limit
itself; at a sale, down to zero. -/
theorem fill_honest_iff {adapter : SimulatedExecutionAdapter} {brokerOrderId : String}
    {barHigh barLow : Option Decimal} {barTime : Option DateTime} {answered : ExecutionReport}
    (bps : 0 ≤ adapter.costModel.slippageBps) (lowNonneg : 0 ≤ barLow.getD marketPrice)
    (executed : adapter.executeMarketOrder intent brokerOrderId marketPrice barHigh barLow barTime =
      .ok answered) (filled : answered.status = .filled) :
    (∃ price, answered.fillPrice = some price ∧
      PriceHonest intent (barHigh.getD marketPrice) (barLow.getD marketPrice) price
        answered.slippage) ↔
      LeavesRoom adapter.costModel.slippageBps intent marketPrice (barHigh.getD marketPrice)
        (barLow.getD marketPrice) := by
  obtain ⟨⟨_, above, below⟩, basePrice, touch, fields⟩ := executeMarketOrder_filled executed filled
  have nonneg := touch.nonneg lowNonneg above below
  obtain ⟨price_eq, slippage_eq⟩ := @filled_amounts intent basePrice adapter.costModel
    brokerOrderId barTime bps nonneg
  have priced : answered.fillPrice =
      some (slipped adapter.costModel.slippageBps intent basePrice) := by
    rw [fields, price_eq]
  have slippage : answered.slippage = basePrice * adapter.costModel.slippageBps / 10000 := by
    rw [fields, slippage_eq]
  rw [← touch.room_iff bps lowNonneg above below, ← touch.honest_iff above below, slippage]
  constructor
  · rintro ⟨price, known, honest⟩
    obtain rfl := Option.mem_unique priced known
    exact honest
  · intro honest
    exact ⟨_, priced, honest⟩

end Fills

def limitBuy : OrderIntent where
  orderId := ⟨⟨"limit-buy", rfl⟩⟩
  instrumentId := HoldingBook.unitInstrument
  side := .buy
  quantity := 1
  orderSpec := {
    orderType := .limit
    limitPrice := some 5
    valid := OrderSpecFields.limitAtFive_valid }
  valid := by decide +kernel

/-- The bar that trades from four to five fills the order at its limit. -/
def limitBuyFill (slippageBps : Decimal) : ExecutionReportFields :=
  filledFields { slippageBps } limitBuy "broker-1" 5 none

theorem limitBuy_executed {slippageBps : Decimal} (known : slippageBps = 0 ∨ slippageBps = 100) :
    ∃ answered, executeMarketOrder { costModel := { slippageBps } } limitBuy
        "broker-1" 5 (some 5) (some 4) none = .ok answered ∧
      answered.toExecutionReportFields = limitBuyFill slippageBps := by
  have answers : ((executeMarketOrder { costModel := { slippageBps } } limitBuy
      "broker-1" 5 (some 5) (some 4) none).toOption.map (·.toExecutionReportFields)) =
        some (limitBuyFill slippageBps) := by
    rcases known with rfl | rfl <;> decide +kernel
  cases executed : executeMarketOrder { costModel := { slippageBps } } limitBuy
      "broker-1" 5 (some 5) (some 4) none with
  | error failure =>
    rw [executed] at answers
    cases answers
  | ok answered =>
    rw [executed] at answers
    exact ⟨answered, rfl, Option.some.inj answers⟩

/-- Without slippage the order is filled honestly. -/
theorem fill_honest_iff_free :
    ∃ answered, executeMarketOrder { costModel := { slippageBps := 0 } } limitBuy "broker-1" 5
        (some 5) (some 4) none = .ok answered ∧
      ∃ price, answered.fillPrice = some price ∧
        PriceHonest limitBuy 5 4 price answered.slippage := by
  obtain ⟨answered, executed, fields⟩ := limitBuy_executed (.inl rfl)
  have honest := @fill_honest_iff limitBuy 5 { costModel := { slippageBps := 0 } } "broker-1"
    (some 5) (some 4) none answered (le_refl 0) (by norm_num) executed (by rw [fields]; rfl)
  exact ⟨answered, executed, honest.mpr fun _ _ => .inl rfl⟩

/-- A buy with a limit of five is reported as filled at five and a twentieth. -/
theorem limit_overrun :
    ¬ ∀ (adapter : SimulatedExecutionAdapter) (intent : OrderIntent) (brokerOrderId : String)
      (marketPrice : Decimal) (barHigh barLow : Option Decimal) (barTime : Option DateTime)
      (answered : ExecutionReport), 0 ≤ adapter.costModel.slippageBps →
      0 ≤ barLow.getD marketPrice →
      adapter.executeMarketOrder intent brokerOrderId marketPrice barHigh barLow barTime =
        .ok answered →
      answered.status = .filled →
      ∃ price, answered.fillPrice = some price ∧
        PriceHonest intent (barHigh.getD marketPrice) (barLow.getD marketPrice) price
          answered.slippage := by
  intro honest
  obtain ⟨answered, executed, fields⟩ := limitBuy_executed (.inr rfl)
  obtain ⟨price, priced, kept⟩ := honest { costModel := { slippageBps := 100 } } limitBuy
    "broker-1" 5 (some 5) (some 4) none answered (by norm_num) (by norm_num) executed
    (by rw [fields]; rfl)
  have overrun : (limitBuyFill 100).fillPrice = some (101 / 20) := by decide +kernel
  rw [fields, overrun] at priced
  obtain rfl := Option.some.inj priced
  have within : (101 / 20 : Decimal) ≤ 5 := kept.keepsLimit (.inl rfl) 5 rfl
  norm_num at within

end SimulatedExecutionAdapter

end Qts
