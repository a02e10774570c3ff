import Qts.PlacedOrderRoutes
import Qts.SimulatedExecution

/-! # Order requests for IBKR -/

namespace Qts

open RaisingCalls PythonText Option

def TimeInForce.text : TimeInForce → String
  | day => "day"
  | gtc => "gtc"
  | ioc => "ioc"
  | fok => "fok"
  | gtd => "gtd"
  | opg => "opg"
  | atc => "atc"

def OrderSide.text : OrderSide → String
  | buy => "buy"
  | sell => "sell"

def BrokerSymbolMapping.toBrokerSymbol (mapping : BrokerSymbolMapping)
    (instrumentId : InstrumentId) : Except Failure String :=
  match mapping.toBroker.get? instrumentId with
  | some brokerSymbol => .ok brokerSymbol
  | none => .error (.keyError ("missing broker symbol for instrument: " ++ instrumentId.value))

def IbkrOrderRequest.create (fields : IbkrOrderRequestFields) :
    Except Failure IbkrOrderRequest :=
  match checked : Check.firstFailure fields.checks with
  | none => .ok ⟨fields, checked⟩
  | some msg => .error (.valueError msg)

theorem IbkrOrderRequest.create_fields {fields : IbkrOrderRequestFields}
    {req : IbkrOrderRequest} (created : IbkrOrderRequest.create fields = .ok req) :
    req.toIbkrOrderRequestFields = fields := by
  unfold IbkrOrderRequest.create at created
  split at created
  · cases created
    rfl
  · cases created

/-- What a caller gives with an intent: overrides of its specification, and details of the
broker's request. -/
structure OrderRequestOptions where
  clientOrderId : String
  strategyId : Option StrategyId := none
  orderType : Option OrderType := none
  timeInForce : Option TimeInForce := none
  limitPrice : Option Decimal := none
  assetClass : String := "equity"
  opensShort : Bool := false
  contract : Option IbkrOrderContractSpec := none
  outsideRegularTradingHours : Bool := false
  whatIf : Bool := false

/-- The specification of an order with the overrides of its caller. -/
def OrderRequestOptions.resolve (options : OrderRequestOptions) (spec : OrderSpec) :
    OrderSpecFields :=
  { spec.toOrderSpecFields with
    orderType := options.orderType.getD spec.orderType
    timeInForce := options.timeInForce.getD spec.timeInForce
    limitPrice := options.limitPrice.or spec.limitPrice }

structure IbkrOrderRequestMapper where
  accountId : String
  symbolMapping : BrokerSymbolMapping
  capabilities : BrokerCapabilities
  shown : isBlank accountId = false

namespace IbkrOrderRequestMapper

variable (mapper : IbkrOrderRequestMapper)

def validateOrderRequest (intent : OrderIntent) (orderType : OrderType)
    (timeInForce : TimeInForce) (limitPrice : Option Decimal) (assetClass : String)
    (opensShort : Bool) : List Check :=
  [⟨!mapper.capabilities.supportsOrderType orderType,
      "order type is not supported: " ++ orderType.text⟩,
   ⟨!mapper.capabilities.supportsTif timeInForce,
      "time in force is not supported: " ++ timeInForce.text⟩] ++
    mapper.capabilities.assetClassChecks assetClass ++
    [⟨decide (orderType = .limit) && limitPrice.isNone,
        "limit_price is required for limit orders"⟩,
     ⟨decide (orderType ≠ .limit ∧ orderType ≠ .bracket) && limitPrice.isSome,
        "limit_price is only valid for limit orders"⟩,
     ⟨!mapper.capabilities.supportsFractional && decide (intent.quantity.den ≠ 1),
        "fractional quantity is not supported"⟩] ++
    mapper.capabilities.quantityChecks intent.quantity ++
    [⟨opensShort && !mapper.capabilities.supportsShort, "short orders are not supported"⟩]

def requestFields (intent : OrderIntent) (options : OrderRequestOptions) (brokerSymbol : String) :
    IbkrOrderRequestFields where
  internalOrderId := intent.orderId
  clientOrderId := options.clientOrderId
  internalAccountId := intent.accountId
  strategyId := options.strategyId
  accountId := mapper.accountId
  brokerSymbol := brokerSymbol
  side := intent.side.text
  quantity := intent.quantity
  orderType := (options.resolve intent.orderSpec).orderType
  timeInForce := (options.resolve intent.orderSpec).timeInForce
  limitPrice := (options.resolve intent.orderSpec).limitPrice
  bracketLegs := intent.orderSpec.bracket.map (·.legs)
  contract := options.contract
  outsideRegularTradingHours := options.outsideRegularTradingHours
  whatIf := options.whatIf

def toOrderRequest (intent : OrderIntent) (options : OrderRequestOptions) :
    Except Failure IbkrOrderRequest :=
  let resolved := options.resolve intent.orderSpec
  let checks := ⟨isBlank options.clientOrderId, "client_order_id must not be empty"⟩ ::
    mapper.validateOrderRequest intent resolved.orderType resolved.timeInForce resolved.limitPrice
      options.assetClass options.opensShort
  match Check.firstFailure checks with
  | some msg => .error (.valueError msg)
  | none => do
    let brokerSymbol ← mapper.symbolMapping.toBrokerSymbol intent.instrumentId
    IbkrOrderRequest.create (mapper.requestFields intent options brokerSymbol)

theorem toOrderRequest_accepted {mapper : IbkrOrderRequestMapper} {intent : OrderIntent}
    {options : OrderRequestOptions} {req : IbkrOrderRequest}
    (accepted : mapper.toOrderRequest intent options = .ok req) :
    (∀ check ∈ mapper.validateOrderRequest intent (options.resolve intent.orderSpec).orderType
        (options.resolve intent.orderSpec).timeInForce
        (options.resolve intent.orderSpec).limitPrice options.assetClass options.opensShort,
      check.fails = false) ∧
      ∃ brokerSymbol, req.toIbkrOrderRequestFields =
        mapper.requestFields intent options brokerSymbol := by
  unfold toOrderRequest at accepted
  dsimp only at accepted
  split at accepted
  · cases accepted
  · next passed =>
    obtain ⟨brokerSymbol, -, created⟩ := bind_inv accepted
    have passes := (Check.firstFailure_none _).mp passed
    refine ⟨?_, brokerSymbol, IbkrOrderRequest.create_fields created⟩
    intro check among
    exact passes check (List.mem_cons_of_mem _ among)

theorem limitPrice_accepted {mapper : IbkrOrderRequestMapper} {intent : OrderIntent}
    {options : OrderRequestOptions} {req : IbkrOrderRequest}
    (accepted : mapper.toOrderRequest intent options = .ok req)
    (plain : req.orderType ≠ .limit) (single : req.orderType ≠ .bracket) :
    req.limitPrice = none := by
  obtain ⟨passes, brokerSymbol, fields⟩ := toOrderRequest_accepted accepted
  rw [fields] at plain single ⊢
  have passed := passes
    ⟨decide ((options.resolve intent.orderSpec).orderType ≠ .limit ∧
        (options.resolve intent.orderSpec).orderType ≠ .bracket) &&
      (options.resolve intent.orderSpec).limitPrice.isSome,
      "limit_price is only valid for limit orders"⟩ (by simp [validateOrderRequest])
  have decided : decide ((options.resolve intent.orderSpec).orderType ≠ .limit ∧
      (options.resolve intent.orderSpec).orderType ≠ .bracket) = true :=
    decide_eq_true ⟨plain, single⟩
  simp only [decided, Bool.true_and] at passed
  exact isSome_eq_false_iff.mp passed |> isNone_iff_eq_none.mp

end IbkrOrderRequestMapper

/-- The broker's codes of order types and its text of a date; the codes of the types that the
legs of a bracket can have are known. -/
structure BrokerCodes where
  orderType : OrderType → String
  dateText : DateTime → String
  market : orderType .market = "MKT"
  limit : orderType .limit = "LMT"
  stop : orderType .stop = "STP"
  stopLimit : orderType .stopLimit = "STP LMT"

def OrderSpecFields.openingType (spec : OrderSpecFields) : OrderType :=
  match spec.orderType with
  | .bracket => if spec.limitPrice.isNone then .market else .limit
  | other => other

def OrderSpecFields.legs (spec : OrderSpecFields) : List BracketLeg :=
  (spec.bracket.map (·.legs)).getD []

namespace IbapiOrder

/-- An order that carries a specification, but for the legs of its bracket. -/
structure Carries (codes : BrokerCodes) (spec : OrderSpecFields) (order : IbapiOrder) : Prop where
  orderType : order.orderType = codes.orderType spec.openingType
  timeInForce : order.tif = IbkrOrderRequest.tifText spec.timeInForce
  limitPrice : order.lmtPrice = spec.limitPrice
  stopPrice : ∀ price ∈ spec.stopPrice, order.auxPrice = some price
  trailAmount : ∀ amount ∈ spec.trailAmount, order.auxPrice = some amount
  trailPercent : order.trailingPercent = spec.trailPercent
  goodTilDate : order.goodTillDate = spec.goodTilDate.map codes.dateText

structure CarriesLeg (codes : BrokerCodes) (spec : OrderSpecFields) (order : IbapiOrder)
    (leg : BracketLeg) : Prop where
  orderType : order.orderType = codes.orderType leg.orderType
  action : order.action = IbkrOrderRequest.actionText leg.side
  quantity : order.totalQuantity = leg.quantity
  timeInForce : order.tif = IbkrOrderRequest.tifText spec.timeInForce
  limitPrice : order.lmtPrice = leg.limitPrice
  stopPrice : order.auxPrice = leg.stopPrice
  goodTilDate : order.goodTillDate = spec.goodTilDate.map codes.dateText

end IbapiOrder

/-- Placed orders that carry a whole specification: the first all but the legs, and the others a
leg each. -/
def CarriedBy (codes : BrokerCodes) (spec : OrderSpecFields) (orders : List PlacedOrder) : Prop :=
  ∃ first children, orders = first :: children ∧ first.order.Carries codes spec ∧
    List.Forall₂ (fun child leg => child.order.CarriesLeg codes spec leg) children spec.legs

structure ParentFirst (whatIf : Bool) (orders : List PlacedOrder) : Prop where
  distinct : (orders.map (·.orderId)).Nodup
  parent : ∀ first ∈ orders.head?, ∀ child ∈ orders.tail, child.order.parentId = first.orderId
  transmits : orders.map (·.order.transmit) =
    List.replicate (orders.length - 1) whatIf ++ [true]

/-- A leg whose type asks for just the prices that it has. -/
def BracketLeg.Priced (leg : BracketLeg) : Prop :=
  match leg.orderType with
  | .limit => leg.limitPrice.isSome ∧ leg.stopPrice = none
  | .stop => leg.stopPrice.isSome ∧ leg.limitPrice = none
  | .stopLimit => leg.limitPrice.isSome ∧ leg.stopPrice.isSome
  | _ => False

/-- A specification without stop price, trail and good-till date, and of a type that the order
client knows the code of. -/
structure OrderSpecFields.Plain (codes : BrokerCodes) (spec : OrderSpecFields) : Prop where
  stopPrice : spec.stopPrice = none
  trailAmount : spec.trailAmount = none
  trailPercent : spec.trailPercent = none
  goodTilDate : spec.goodTilDate = none
  coded : spec.orderType = .market ∨ spec.orderType = .limit ∨ spec.orderType = .bracket ∨
    codes.orderType spec.orderType = IbkrOrderRequest.orderTypeText spec.orderType
  legs : if spec.orderType = .bracket then ∀ leg ∈ spec.legs, leg.Priced else spec.legs = []

namespace IbkrOrderRequest

variable {caps : UpperCase} {codes : BrokerCodes} {spec : OrderSpecFields}
  {req : IbkrOrderRequest}

theorem applyBracketLegPrice_carries_iff {order : IbapiOrder} {leg : BracketLeg}
    (unpriced : order.lmtPrice = none ∧ order.auxPrice = none) :
    (∃ priced, applyBracketLegPrice order leg = .ok priced ∧
      priced.orderType = codes.orderType leg.orderType ∧
        priced.lmtPrice = leg.limitPrice ∧ priced.auxPrice = leg.stopPrice) ↔ leg.Priced := by
  unfold applyBracketLegPrice BracketLeg.Priced
  rcases leg with ⟨⟨orderType, side, quantity, limitPrice, stopPrice⟩, valid⟩
  cases orderType <;> cases limitPrice <;> cases stopPrice <;>
    simp [codes.limit, codes.stop, codes.stopLimit, unpriced.1, unpriced.2]

theorem applyBracketLegPrice_rest {order priced : IbapiOrder} {leg : BracketLeg}
    (applied : applyBracketLegPrice order leg = .ok priced) :
    priced = { order with
      orderType := priced.orderType
      lmtPrice := priced.lmtPrice
      auxPrice := priced.auxPrice } := by
  unfold applyBracketLegPrice at applied
  split at applied <;> cases applied <;> rfl

theorem bracketChild_carries_iff {parentId index legs : Nat} {leg : BracketLeg}
    (sameTif : req.timeInForce = spec.timeInForce) (undated : spec.goodTilDate = none) :
    (∃ child, req.bracketChild parentId index legs leg = .ok child ∧
      child.CarriesLeg codes spec leg) ↔ leg.Priced := by
  have priced : (∃ child, req.bracketChild parentId index legs leg = .ok child ∧
      child.orderType = codes.orderType leg.orderType ∧
        child.lmtPrice = leg.limitPrice ∧ child.auxPrice = leg.stopPrice) ↔ leg.Priced := by
    refine applyBracketLegPrice_carries_iff ?_
    exact ⟨rfl, rfl⟩
  rw [← priced]
  constructor
  · rintro ⟨child, made, carries⟩
    exact ⟨child, made, carries.orderType, carries.limitPrice, carries.stopPrice⟩
  · rintro ⟨child, made, orderType, limitPrice, stopPrice⟩
    have rest := applyBracketLegPrice_rest made
    refine ⟨child, made, orderType, ?_, ?_, ?_, limitPrice, stopPrice, ?_⟩
    · rw [rest]
    · rw [rest]
    · rw [rest, ← sameTif]
    · rw [rest, undated]
      rfl

theorem bracketChildren_carry_iff {parentId legs index : Nat} {rest : List BracketLeg}
    (sameTif : req.timeInForce = spec.timeInForce) (undated : spec.goodTilDate = none) :
    (∃ children, req.bracketChildren parentId legs index rest = .ok children ∧
      List.Forall₂ (fun child leg => child.order.CarriesLeg codes spec leg) children rest) ↔
      ∀ leg ∈ rest, leg.Priced := by
  induction rest generalizing index with
  | nil => simp [bracketChildren]
  | cons leg rest ih =>
    have one := @bracketChild_carries_iff codes spec req parentId index legs leg sameTif undated
    have others := @ih (index + 1)
    rw [List.forall_mem_cons, ← one, ← others]
    constructor
    · rintro ⟨children, built, carry⟩
      obtain ⟨child, made, built⟩ := bind_inv built
      obtain ⟨others, builtRest, built⟩ := bind_inv built
      cases built
      rcases carry with _ | ⟨first, carry⟩
      exact ⟨⟨child, made, first⟩, others, builtRest, carry⟩
    · rintro ⟨⟨child, made, first⟩, others, builtRest, carry⟩
      refine ⟨⟨parentId + 1 + index, req.contractSpec, child⟩ :: others, ?_, .cons first carry⟩
      rw [bracketChildren, made]
      change (do
        let children ← req.bracketChildren parentId legs (index + 1) rest
        return _ :: children) = _
      rw [builtRest]
      rfl

theorem bracketChildren_linked {parentId legs index : Nat} {rest : List BracketLeg}
    {children : List PlacedOrder}
    (built : req.bracketChildren parentId legs index rest = .ok children)
    (counted : index + rest.length = legs) :
    (∀ child ∈ children, child.order.parentId = parentId) ∧
      (rest ≠ [] → children.map (·.order.transmit) =
        List.replicate (rest.length - 1) req.whatIf ++ [true]) := by
  induction rest generalizing index children with
  | nil =>
    cases built
    simp
  | cons leg rest ih =>
    obtain ⟨child, made, built⟩ := bind_inv built
    obtain ⟨others, builtRest, built⟩ := bind_inv built
    cases built
    have shape := applyBracketLegPrice_rest made
    have numbered : index + 1 + rest.length = legs := by
      rw [List.length_cons] at counted
      omega
    obtain ⟨named, transmits⟩ := ih builtRest numbered
    have transmit : child.transmit = (req.whatIf || decide (index + 1 = legs)) := by rw [shape]
    refine ⟨?_, ?_⟩
    · rintro other (_ | ⟨_, among⟩)
      · dsimp only
        rw [shape]
      · exact named other among
    · intro _
      cases rest with
      | nil =>
        cases builtRest
        have last : index + 1 = legs := by simpa using numbered
        simp [transmit, last]
      | cons next rest =>
        have early : ¬ index + 1 = legs := by
          rw [List.length_cons] at numbered
          omega
        rw [List.map_cons, transmits (List.cons_ne_nil _ _)]
        simp [transmit, early, List.replicate_succ]

theorem orders_parentFirst {firstId : Nat} {orders : List PlacedOrder}
    (built : req.orders caps firstId = .ok orders) : ParentFirst req.whatIf orders := by
  refine ⟨?_, ?_, ?_⟩
  · rw [(orders_ids built).1]
    exact List.nodup_range'
  · unfold IbkrOrderRequest.orders at built
    split at built
    · obtain ⟨children, builtChildren, built⟩ := bind_inv built
      cases built
      rintro first ⟨⟩
      exact (bracketChildren_linked builtChildren (Nat.zero_add _)).1
    · cases built
      simp
  · unfold IbkrOrderRequest.orders at built
    split at built
    · next bracket =>
      obtain ⟨children, builtChildren, built⟩ := bind_inv built
      cases built
      have enough := two_legs bracket
      have some : (req.bracketLegs.getD []) ≠ [] := by
        intro none
        rw [none] at enough
        simp at enough
      have linked := (bracketChildren_linked builtChildren (Nat.zero_add _)).2 some
      have counted : children.length = (req.bracketLegs.getD []).length := by
        simpa using congrArg List.length (bracketChildren_ids builtChildren).1
      rw [List.map_cons, linked, List.length_cons, Nat.add_sub_cancel, counted]
      obtain ⟨count, equal⟩ : ∃ count, (req.bracketLegs.getD []).length = count + 1 :=
        ⟨_, (Nat.sub_add_cancel (by omega)).symm⟩
      rw [equal, Nat.add_sub_cancel, List.replicate_succ]
      rfl
    · cases built
      rfl

theorem carries_iff_unset {order : IbapiOrder} (unset : order.auxPrice = none)
    (untrailed : order.trailingPercent = none) (undated : order.goodTillDate = none) :
    order.Carries codes spec ↔
      (order.orderType = codes.orderType spec.openingType ∧
        order.tif = tifText spec.timeInForce ∧ order.lmtPrice = spec.limitPrice) ∧
      spec.stopPrice = none ∧ spec.trailAmount = none ∧ spec.trailPercent = none ∧
        spec.goodTilDate = none := by
  constructor
  · intro carries
    refine ⟨⟨carries.orderType, carries.timeInForce, carries.limitPrice⟩, ?_, ?_, ?_, ?_⟩
    · refine eq_none_iff_forall_not_mem.mpr fun price among => ?_
      have shown := carries.stopPrice price among
      rw [unset] at shown
      cases shown
    · refine eq_none_iff_forall_not_mem.mpr fun amount among => ?_
      have shown := carries.trailAmount amount among
      rw [unset] at shown
      cases shown
    · exact carries.trailPercent.symm.trans untrailed
    · exact map_eq_none_iff.mp (carries.goodTilDate.symm.trans undated)
  · rintro ⟨⟨orderType, timeInForce, limitPrice⟩, noStop, noAmount, noPercent, noDate⟩
    exact {
      orderType, timeInForce, limitPrice
      stopPrice := by simp [noStop]
      trailAmount := by simp [noAmount]
      trailPercent := by rw [untrailed, noPercent]
      goodTilDate := by rw [undated, noDate]; rfl }

structure Shows (req : IbkrOrderRequest) (spec : OrderSpecFields) : Prop where
  orderType : req.orderType = spec.orderType
  timeInForce : req.timeInForce = spec.timeInForce
  limitPrice : req.limitPrice = spec.limitPrice
  bracketLegs : req.bracketLegs = spec.bracket.map (·.legs)
  limited : spec.orderType ≠ .limit → spec.orderType ≠ .bracket → spec.limitPrice = none

theorem limitPrice_some (limit : req.orderType = .limit) : req.limitPrice.isSome := by
  have priced := @check_passes req
    ⟨decide (req.orderType = .limit) && req.limitPrice.isNone,
      "limit_price is required for limit orders"⟩ (by simp [IbkrOrderRequestFields.checks])
  simpa [limit, isSome_iff_ne_none] using priced

section

variable (shows : req.Shows spec) (single : spec.orderType ≠ .bracket)

include shows single

theorem toIbapiOrder_limitPrice : (req.toIbapiOrder caps).lmtPrice = spec.limitPrice := by
  change (if req.orderType = .limit then some (req.limitPrice.getD 0) else none) = _
  split
  · next limit =>
    obtain ⟨price, priced⟩ := isSome_iff_exists.mp (limitPrice_some limit)
    rw [← shows.limitPrice, priced, getD_some]
  · next other =>
    rw [shows.orderType] at other
    exact (shows.limited other single).symm

theorem toIbapiOrder_orderType_iff :
    (req.toIbapiOrder caps).orderType = codes.orderType spec.openingType ↔
      spec.orderType = .market ∨ spec.orderType = .limit ∨ spec.orderType = .bracket ∨
        codes.orderType spec.orderType = orderTypeText spec.orderType := by
  have opening : spec.openingType = spec.orderType := by
    unfold OrderSpecFields.openingType
    split
    · contradiction
    · rfl
  rw [opening]
  unfold toIbapiOrder
  rw [shows.orderType]
  cases orderType : spec.orderType with
  | market => simp [codes.market]
  | limit => simp [codes.limit]
  | bracket => contradiction
  | stop | stopLimit | trailingStop | marketOnOpen | marketOnClose | iceberg => simp [eq_comm]

theorem toIbapiOrder_carries_iff :
    CarriedBy codes spec [⟨firstId, req.contractSpec, req.toIbapiOrder caps⟩] ↔
      spec.Plain codes := by
  have carries := @carries_iff_unset codes spec (req.toIbapiOrder caps) rfl rfl rfl
  rw [toIbapiOrder_orderType_iff shows single] at carries
  constructor
  · rintro ⟨first, children, ordered, whole, legs⟩
    cases ordered
    obtain ⟨⟨coded, -, -⟩, noStop, noAmount, noPercent, noDate⟩ := carries.mp whole
    refine ⟨noStop, noAmount, noPercent, noDate, coded, ?_⟩
    rw [if_neg single]
    exact List.forall₂_nil_left_iff.mp legs
  · intro plain
    have legs := plain.legs
    rw [if_neg single] at legs
    refine ⟨_, [], rfl, carries.mpr ⟨⟨plain.coded, ?_, toIbapiOrder_limitPrice shows single⟩,
      plain.stopPrice, plain.trailAmount, plain.trailPercent, plain.goodTilDate⟩, ?_⟩
    · exact congrArg tifText shows.timeInForce
    · rw [legs]
      exact .nil

end

theorem bracketParent_carries_iff (shows : req.Shows spec)
    (bracket : spec.orderType = .bracket) :
    (req.bracketParent caps).Carries codes spec ↔
      spec.stopPrice = none ∧ spec.trailAmount = none ∧ spec.trailPercent = none ∧
        spec.goodTilDate = none := by
  have coded : (if req.limitPrice.isNone then "MKT" else "LMT") =
      codes.orderType spec.openingType := by
    unfold OrderSpecFields.openingType
    rw [bracket, shows.limitPrice]
    cases spec.limitPrice with
    | none => exact codes.market.symm
    | some price => exact codes.limit.symm
  rw [carries_iff_unset rfl rfl rfl, and_iff_right]
  exact ⟨coded, congrArg tifText shows.timeInForce, shows.limitPrice⟩

theorem orders_carried_iff {firstId : Nat} (shows : req.Shows spec) :
    (∃ orders, req.orders caps firstId = .ok orders ∧ CarriedBy codes spec orders) ↔
      spec.Plain codes := by
  unfold IbkrOrderRequest.orders
  rw [shows.orderType]
  split
  · next bracket =>
    have parent := @bracketParent_carries_iff caps codes spec req shows bracket
    have legs : req.bracketLegs.getD [] = spec.legs := by rw [shows.bracketLegs]; rfl
    constructor
    · rintro ⟨orders, built, first, others, ordered, whole, carry⟩
      obtain ⟨children, builtChildren, built⟩ := bind_inv built
      cases built
      cases ordered
      obtain ⟨noStop, noAmount, noPercent, noDate⟩ := parent.mp whole
      refine ⟨noStop, noAmount, noPercent, noDate, .inr (.inr (.inl bracket)), ?_⟩
      rw [if_pos bracket]
      rw [legs] at builtChildren
      exact (bracketChildren_carry_iff shows.timeInForce noDate).mp ⟨_, builtChildren, carry⟩
    · intro plain
      have priced := plain.legs
      rw [if_pos bracket] at priced
      obtain ⟨children, builtChildren, carry⟩ :=
        (bracketChildren_carry_iff shows.timeInForce plain.goodTilDate).mpr priced
      have whole := parent.mpr
        ⟨plain.stopPrice, plain.trailAmount, plain.trailPercent, plain.goodTilDate⟩
      refine ⟨⟨firstId, req.contractSpec, req.bracketParent caps⟩ :: children, ?_,
        _, children, rfl, whole, carry⟩
      unfold toIbapiBracketOrders
      dsimp only
      rw [legs, builtChildren]
      rfl
  · next single =>
    constructor
    · rintro ⟨orders, built, carried⟩
      cases built
      exact (toIbapiOrder_carries_iff shows single).mp carried
    · intro plain
      exact ⟨_, rfl, (toIbapiOrder_carries_iff shows single).mpr plain⟩

end IbkrOrderRequest

namespace IbkrOrderRequestMapper

theorem toOrderRequest_shows {mapper : IbkrOrderRequestMapper} {intent : OrderIntent}
    {options : OrderRequestOptions} {req : IbkrOrderRequest}
    (accepted : mapper.toOrderRequest intent options = .ok req) :
    req.Shows (options.resolve intent.orderSpec) := by
  obtain ⟨-, brokerSymbol, fields⟩ := toOrderRequest_accepted accepted
  have limited := @limitPrice_accepted mapper intent options req accepted
  rw [fields] at limited
  refine ⟨?_, ?_, ?_, ?_, limited⟩ <;>
    · rw [fields]
      rfl

/-- The orders placed for an accepted intent carry its specification just when that is plain; in
any case the first of them is the parent of the others and the last transmits. -/
theorem orders_carry_spec_iff (mapper : IbkrOrderRequestMapper) (intent : OrderIntent)
    (options : OrderRequestOptions) (req : IbkrOrderRequest)
    (accepted : mapper.toOrderRequest intent options = .ok req)
    (caps : UpperCase) (codes : BrokerCodes) (firstId : Nat) :
    ((∃ orders, req.orders caps firstId = .ok orders ∧
        CarriedBy codes (options.resolve intent.orderSpec) orders ∧
        ParentFirst options.whatIf orders) ↔
      (options.resolve intent.orderSpec).Plain codes) ∧
      ∀ orders, req.orders caps firstId = .ok orders → ParentFirst options.whatIf orders := by
  have shows := toOrderRequest_shows accepted
  have whatIf : req.whatIf = options.whatIf := by
    obtain ⟨-, brokerSymbol, fields⟩ := toOrderRequest_accepted accepted
    rw [fields]
    rfl
  have linked : ∀ orders, req.orders caps firstId = .ok orders →
      ParentFirst options.whatIf orders := by
    intro orders built
    rw [← whatIf]
    exact IbkrOrderRequest.orders_parentFirst built
  refine ⟨?_, linked⟩
  rw [← IbkrOrderRequest.orders_carried_iff shows]
  constructor
  · rintro ⟨orders, built, carried, -⟩
    exact ⟨orders, built, carried⟩
  · rintro ⟨orders, built, carried⟩
    exact ⟨orders, built, carried, linked orders built⟩

def stopIntent : OrderIntent where
  orderId := ⟨⟨"order-1", Eq.refl false⟩⟩
  instrumentId := ⟨⟨"EQUITY.US.AAPL", Eq.refl false⟩⟩
  side := .sell
  quantity := 10
  orderSpec := { orderType := .stop, stopPrice := some 95, valid := by decide +kernel }
  valid := by decide +kernel

def stopOptions : OrderRequestOptions where
  clientOrderId := "client-1"

def stopMapper : IbkrOrderRequestMapper where
  accountId := "DU1234567"
  symbolMapping := { toBroker := .ofItems [(⟨⟨"EQUITY.US.AAPL", Eq.refl false⟩⟩, "AAPL")] }
  capabilities := { supportsStopOrders := true }
  shown := by decide

def stopRequest : IbkrOrderRequest where
  internalOrderId := ⟨⟨"order-1", Eq.refl false⟩⟩
  clientOrderId := "client-1"
  internalAccountId := none
  strategyId := none
  accountId := "DU1234567"
  brokerSymbol := "AAPL"
  side := "sell"
  quantity := 10
  orderType := .stop
  valid := by decide +kernel

def namedCodes : BrokerCodes where
  orderType
    | .market => "MKT"
    | .limit => "LMT"
    | .stop => "STP"
    | .stopLimit => "STP LMT"
    | .trailingStop => "TRAIL"
    | .marketOnOpen => "MOO"
    | .marketOnClose => "MOC"
    | .bracket => "BRACKET"
    | .iceberg => "ICEBERG"
  dateText := toString
  market := rfl
  limit := rfl
  stop := rfl
  stopLimit := rfl

theorem orders_carry_spec_iff_stop :
    ((∃ orders, stopRequest.orders .ascii 1 = .ok orders ∧
        CarriedBy namedCodes (stopOptions.resolve stopIntent.orderSpec) orders ∧
        ParentFirst false orders) ↔
      (stopOptions.resolve stopIntent.orderSpec).Plain namedCodes) ∧
      ∀ orders, stopRequest.orders .ascii 1 = .ok orders → ParentFirst false orders :=
  orders_carry_spec_iff stopMapper stopIntent stopOptions stopRequest
    (by decide +kernel) .ascii namedCodes 1

/-- A stop order is accepted, and no broker order for it carries its stop price. -/
theorem stop_price_dropped :
    stopMapper.toOrderRequest stopIntent stopOptions = .ok stopRequest ∧
      (stopRequest.toIbapiOrder .ascii).auxPrice = none ∧
      ¬ ∃ orders, stopRequest.orders .ascii 1 = .ok orders ∧
        CarriedBy namedCodes stopIntent.orderSpec.toOrderSpecFields orders := by
  have accepted : stopMapper.toOrderRequest stopIntent stopOptions =
      .ok stopRequest := by decide +kernel
  refine ⟨accepted, rfl, ?_⟩
  rintro ⟨orders, built, first, children, ordered, carries, -⟩
  cases built
  cases ordered
  have price := carries.stopPrice 95 rfl
  cases price

end IbkrOrderRequestMapper

end Qts
