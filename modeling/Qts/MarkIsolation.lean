import Qts.BrokerPartition
import Qts.IntentSubmissions

/-! # Mark isolation -/

namespace Qts

open Dict RuntimeInstrumentContext

structure Quotes (market : InstrumentId → Set Decimal) (context : RuntimeInstrumentContext)
    (bar : Bar) : Prop where
  openPrice : bar.openPrice ∈ market bar.instrumentId
  close : bar.close ∈ market bar.instrumentId
  recorded : ∀ registry instrumentId price, context.futureRollRegistry = some registry →
    registry.RecordsPrice instrumentId price → price ∈ market instrumentId

def RuntimeInstrumentContext.Reports (context : RuntimeInstrumentContext) (bar : Bar)
    (instrumentId : InstrumentId) (price : Decimal) : Prop :=
  (instrumentId = bar.instrumentId ∧ (price = bar.openPrice ∨ price = bar.close)) ∨
    ∃ registry, context.futureRollRegistry = some registry ∧
      registry.RecordsPrice instrumentId price

theorem reports_iff_forall_market (context : RuntimeInstrumentContext) (bar : Bar)
    (instrumentId : InstrumentId) (price : Decimal) :
    context.Reports bar instrumentId price ↔
      ∀ market, Quotes market context bar → price ∈ market instrumentId := by
  constructor
  · rintro (⟨rfl, rfl | rfl⟩ | ⟨registry, found, records⟩) market quotes
    · exact quotes.openPrice
    · exact quotes.close
    · exact quotes.recorded registry instrumentId price found records
  · intro everywhere
    -- The smallest market that the reports allow has no other prices.
    exact everywhere (fun instrument => {price | context.Reports bar instrument price})
      ⟨.inl ⟨rfl, .inl rfl⟩, .inl ⟨rfl, .inr rfl⟩,
        fun registry _ _ found records => .inr ⟨registry, found, records⟩⟩

namespace TargetIntentProcessor

open RaisingCalls

variable {World : Type}

inductive PriceUsed (proc : TargetIntentProcessor) (actors : PartitionActors World)
    (req : IntentRequest) (orderNumber : Nat) (state : IntentProcessing World) :
    InstrumentId → Decimal → Prop
  /-- The mark behind equity, exposure, margin and intraday profit. -/
  | mark {accountId : AccountId} {snapshot : AccountSnapshot} {world : World}
      {marks : DecimalMap} {instrumentId : InstrumentId} {price : Decimal}
      (account : req.accountId = some accountId)
      (asked : actors.accountSnapshot.run state.world = .ok snapshot world)
      (built : proc.buildMarkMap req.intent req.bar snapshot.holdings = .ok marks)
      (marked : marks.get? instrumentId = some price) :
      PriceUsed proc actors req orderNumber state instrumentId price
  /-- The price that turns a value or a share of the equity into a quantity. -/
  | sizing {accountId : AccountId} {snapshot : AccountSnapshot} {world : World}
      {instrumentId : InstrumentId} {price : Decimal}
      (account : req.accountId = some accountId)
      (asked : actors.accountSnapshot.run state.world = .ok snapshot world)
      (target : proc.instrumentContext.orderInstrumentForIntent req.intent req.bar =
        .ok instrumentId)
      (priced : proc.instrumentContext.marketPriceForIntent req.intent instrumentId
        req.bar = .ok price) :
      PriceUsed proc actors req orderNumber state instrumentId price
  /-- The price of an order plan. -/
  | planned {riskState : RiskStateSnapshot} {plans : List OrderPlan} {plan : OrderPlan}
      (prepared : proc.prepared actors req state = some (riskState, plans))
      (mem : plan ∈ plans) :
      PriceUsed proc actors req orderNumber state plan.instrumentId plan.marketPrice
  /-- The price that the risk rules see. -/
  | checked {riskState : RiskStateSnapshot} {plans : List OrderPlan} {plan : OrderPlan}
      {asked : OrderRiskRequest}
      (prepared : proc.prepared actors req state = some (riskState, plans))
      (mem : plan ∈ plans)
      (built : proc.riskRequest req riskState plan = .ok asked) :
      PriceUsed proc actors req orderNumber state asked.instrumentId asked.price
  /-- The market price of a submitted order. -/
  | ordered {messages : List SubmitOrder} {msg : SubmitOrder}
      (told : (endState ((proc.processIntent actors req orderNumber).run state)).submitted
        = state.submitted ++ messages)
      (mem : msg ∈ messages) :
      PriceUsed proc actors req orderNumber state msg.intent.instrumentId
        msg.marketPrice

def UsesOwnPrices (proc : TargetIntentProcessor) (actors : PartitionActors World)
    (req : IntentRequest) (orderNumber : Nat) (state : IntentProcessing World) : Prop :=
  ∀ market, Quotes market proc.instrumentContext req.bar →
    ∀ instrumentId price,
      proc.PriceUsed actors req orderNumber state instrumentId price →
        price ∈ market instrumentId

/-- Whether the asset and every position are of the bar's own instrument, or the roll registry
has recorded the bar's price for them. -/
def PricedByOwnBar (proc : TargetIntentProcessor) (actors : PartitionActors World)
    (req : IntentRequest) (state : IntentProcessing World) : Prop :=
  ∀ snapshot world, req.accountId.isSome →
    actors.accountSnapshot.run state.world = .ok snapshot world →
      ∀ instrumentId ∈ req.intent.asset.instrumentId :: snapshot.holdings.keys,
        instrumentId = req.bar.instrumentId ∨
          ∃ registry, proc.instrumentContext.futureRollRegistry = some registry ∧
            registry.RecordsPrice instrumentId
              (proc.instrumentContext.executionTiming.priceForExecutionBar req.bar)

variable {proc : TargetIntentProcessor} {intent : TargetIntent} {bar : Bar}

theorem markPositions_get? {positions : List InstrumentId} {marks result : DecimalMap}
    (marked : proc.markPositions intent bar positions marks = .ok result)
    (instrumentId : InstrumentId) :
    result.get? instrumentId = (marks.get? instrumentId).or
      (if instrumentId ∈ positions then
        (proc.instrumentContext.marketPriceForIntent intent instrumentId bar).toOption
      else none) := by
  induction positions generalizing marks with
  | nil =>
    obtain rfl := Except.ok.inj marked
    simp
  | cons position positions ih =>
    unfold markPositions at marked
    split at marked
    · next present =>
      rw [ih marked]
      by_cases same : instrumentId = position
      · subst same
        obtain ⟨mark, found⟩ := Option.isSome_iff_exists.mp present
        simp [found]
      · simp [same]
    · next absent =>
      have unmarked : marks.get? position = none := Option.not_isSome_iff_eq_none.mp absent
      split at marked
      · next price priced =>
        rw [ih marked]
        by_cases same : instrumentId = position
        · subst same
          simp [unmarked, priced, Except.toOption]
        · simp [same, get?_set_of_ne _ _ same]
      · next failure refused =>
        split at marked
        · rw [ih marked]
          by_cases same : instrumentId = position
          · subst same
            simp [unmarked, refused, Except.toOption]
          · simp [same]
        · cases marked

variable {positions : Dict InstrumentId Holding} {marks : DecimalMap}

theorem buildMarkMap_get? (built : proc.buildMarkMap intent bar positions = .ok marks) :
    ∃ target, proc.instrumentContext.orderInstrumentForIntent intent bar = .ok target ∧
      ∀ instrumentId, marks.get? instrumentId =
        if instrumentId = target ∨ instrumentId ∈ positions.keys then
          (proc.instrumentContext.marketPriceForIntent intent instrumentId bar).toOption
        else none := by
  unfold buildMarkMap at built
  obtain ⟨target, resolved, rest⟩ := bind_inv built
  obtain ⟨price, priced, marked⟩ := bind_inv rest
  refine ⟨target, resolved, fun instrumentId => ?_⟩
  rw [markPositions_get? marked]
  by_cases same : instrumentId = target
  · subst same
    simp [priced, Except.toOption]
  · simp [same, get?_set_of_ne _ _ same]

theorem buildMarkMap_answered (built : proc.buildMarkMap intent bar positions = .ok marks)
    {instrumentId : InstrumentId} {price : Decimal} (found : marks.get? instrumentId = some price) :
    (proc.instrumentContext.orderInstrumentForIntent intent bar = .ok instrumentId ∨
        instrumentId ∈ positions.keys) ∧
      proc.instrumentContext.marketPriceForIntent intent instrumentId bar = .ok price := by
  obtain ⟨target, resolved, marked⟩ := buildMarkMap_get? built
  rw [marked] at found
  split at found
  · next place =>
    refine ⟨place.imp_left fun (same : instrumentId = target) => same ▸ resolved, ?_⟩
    cases answer : proc.instrumentContext.marketPriceForIntent intent instrumentId bar with
    | ok answered =>
      rw [answer] at found
      exact congrArg Except.ok (Option.some.inj found)
    | error failure =>
      rw [answer] at found
      cases found
  · cases found

theorem markPositions_plain
    (plain : proc.instrumentContext.isContinuous intent.asset.instrumentId = false) (bar : Bar)
    (positions : List InstrumentId)
    (uniform : ∀ instrumentId price, marks.get? instrumentId = some price →
      price = proc.instrumentContext.executionTiming.priceForExecutionBar bar) :
    ∃ result, proc.markPositions intent bar positions marks = .ok result ∧
      ∀ instrumentId, (marks.get? instrumentId).isSome ∨ instrumentId ∈ positions →
        result.get? instrumentId =
          some (proc.instrumentContext.executionTiming.priceForExecutionBar bar) := by
  induction positions generalizing marks with
  | nil =>
    refine ⟨marks, rfl, ?_⟩
    intro instrumentId marked
    obtain ⟨price, found⟩ := Option.isSome_iff_exists.mp (marked.resolve_right List.not_mem_nil)
    rw [found, uniform instrumentId price found]
  | cons position positions ih =>
    unfold markPositions
    split
    · next present =>
      obtain ⟨result, ran, marked⟩ := ih uniform
      refine ⟨result, ran, fun instrumentId asked => marked instrumentId ?_⟩
      rcases asked with before | mem
      · exact .inl before
      · rcases List.mem_cons.mp mem with rfl | later
        · exact .inl present
        · exact .inr later
    · rw [marketPriceForIntent_plain plain]
      have extended : ∀ instrumentId price,
          (marks.set position
            (proc.instrumentContext.executionTiming.priceForExecutionBar bar)).get?
              instrumentId = some price →
          price = proc.instrumentContext.executionTiming.priceForExecutionBar bar := by
        intro instrumentId price found
        by_cases same : instrumentId = position
        · subst same
          rw [get?_set_self] at found
          exact (Option.some.inj found).symm
        · rw [get?_set_of_ne _ _ same] at found
          exact uniform instrumentId price found
      obtain ⟨result, ran, marked⟩ := ih extended
      refine ⟨result, ran, fun instrumentId asked => marked instrumentId ?_⟩
      by_cases same : instrumentId = position
      · subst same
        rw [get?_set_self]
        exact .inl rfl
      · rw [get?_set_of_ne _ _ same]
        exact asked.imp_right fun mem => (List.mem_cons.mp mem).resolve_left same

theorem buildMarkMap_plain
    (plain : proc.instrumentContext.isContinuous intent.asset.instrumentId = false) (bar : Bar)
    (positions : Dict InstrumentId Holding) :
    ∃ marks, proc.buildMarkMap intent bar positions = .ok marks ∧
      ∀ instrumentId ∈ intent.asset.instrumentId :: positions.keys,
        marks.get? instrumentId =
          some (proc.instrumentContext.executionTiming.priceForExecutionBar bar) := by
  have uniform : ∀ instrumentId price,
      ((empty : DecimalMap).set intent.asset.instrumentId
        (proc.instrumentContext.executionTiming.priceForExecutionBar bar)).get?
          instrumentId = some price →
      price = proc.instrumentContext.executionTiming.priceForExecutionBar bar := by
    intro instrumentId price found
    by_cases same : instrumentId = intent.asset.instrumentId
    · subst same
      rw [get?_set_self] at found
      exact (Option.some.inj found).symm
    · rw [get?_set_of_ne _ _ same] at found
      cases found
  obtain ⟨marks, ran, marked⟩ := markPositions_plain plain bar positions.keys uniform
  refine ⟨marks, ?_, fun instrumentId mem => marked instrumentId ?_⟩
  · simp only [buildMarkMap, orderInstrumentForIntent_plain plain,
      marketPriceForIntent_plain plain, bind, Except.bind]
    exact ran
  · rcases List.mem_cons.mp mem with rfl | held
    · rw [get?_set_self]
      exact .inl rfl
    · exact .inr held

variable {plans : List OrderPlan} {plan : OrderPlan}

theorem build_answered {context : RuntimeInstrumentContext} {accountId : AccountId}
    {aggregationDecisionId : Option String} {equity : Option Decimal} {multiplier : Decimal}
    (built : OrderPlanBuilder.build context intent accountId bar aggregationDecisionId positions
      equity multiplier = .ok plans) (mem : plan ∈ plans) :
    (context.isContinuous intent.asset.instrumentId = false →
        plan.instrumentId = intent.asset.instrumentId) ∧
      context.marketPriceForIntent intent plan.instrumentId bar = .ok plan.marketPrice := by
  obtain ⟨place, priced⟩ := OrderPlanBuilder.build_plan built mem
  refine ⟨fun plain => ?_, priced⟩
  rcases place with resolved | ⟨continuous, _⟩
  · rw [orderInstrumentForIntent_plain plain] at resolved
    exact (Except.ok.inj resolved).symm
  · rw [continuous] at plain
    cases plain

variable {actors : PartitionActors World} {req : IntentRequest} {orderNumber : Nat}
  {state : IntentProcessing World} {riskState : RiskStateSnapshot}

theorem riskRequest_fields {asked : OrderRiskRequest}
    (built : proc.riskRequest req riskState plan = .ok asked) :
    asked.instrumentId = plan.instrumentId ∧ asked.price = plan.marketPrice := by
  obtain ⟨multiplier, _, built⟩ := bind_inv built
  obtain ⟨described, first, built⟩ := bind_inv built
  obtain ⟨marginMultiplier, _, built⟩ := bind_inv built
  have fields := OrderRiskRequest.create_fields first
  have final := OrderRiskRequest.create_fields built
  refine ⟨(congrArg (·.instrumentId) final).trans (congrArg (·.instrumentId) fields), ?_⟩
  exact (congrArg (·.price) final).trans (congrArg (·.price) fields)

theorem prepared_inv (prepared : proc.prepared actors req state = some (riskState, plans))
    :
    ∃ accountId snapshot world, req.accountId = some accountId ∧
      actors.accountSnapshot.run state.world = .ok snapshot world ∧
      proc.orderPlans req accountId snapshot riskState = .ok plans := by
  unfold TargetIntentProcessor.prepared at prepared
  split at prepared
  · next start after ran =>
    cases prepared
    unfold preparePlans at ran
    split at ran
    · cases ran
    · next accountId account =>
      obtain ⟨snapshot, first, asked, ran⟩ := bind_run_inv ran
      obtain ⟨state', second, _, ran⟩ := bind_run_inv ran
      obtain ⟨planned, third, built, ran⟩ := bind_run_inv ran
      cases ran
      obtain ⟨world, answered⟩ := onActors_inv asked
      exact ⟨accountId, snapshot, world, account, answered, orRaise_inv built⟩
  · cases prepared

theorem orderPlans_answered {accountId : AccountId} {snapshot : AccountSnapshot}
    (built : proc.orderPlans req accountId snapshot riskState = .ok plans)
    (mem : plan ∈ plans) :
    (proc.instrumentContext.isContinuous req.intent.asset.instrumentId = false →
        plan.instrumentId = req.intent.asset.instrumentId) ∧
      proc.instrumentContext.marketPriceForIntent req.intent plan.instrumentId
        req.bar = .ok plan.marketPrice := by
  obtain ⟨target, _, built⟩ := bind_inv built
  obtain ⟨multiplier, _, built⟩ := bind_inv built
  exact build_answered built mem

/-- Every price used for an instrument is the context's answer for it, and an intent on no
continuous future uses prices for its asset and the account's positions only. -/
theorem priceUsed_answered {instrumentId : InstrumentId} {price : Decimal}
    (used : proc.PriceUsed actors req orderNumber state instrumentId price) :
    proc.instrumentContext.marketPriceForIntent req.intent instrumentId req.bar =
        .ok price ∧
      (proc.instrumentContext.isContinuous req.intent.asset.instrumentId = false →
        ∃ snapshot world, req.accountId.isSome ∧
          actors.accountSnapshot.run state.world = .ok snapshot world ∧
          instrumentId ∈ req.intent.asset.instrumentId :: snapshot.holdings.keys) := by
  have ofPlan : ∀ {riskState plans plan},
      proc.prepared actors req state = some (riskState, plans) → plan ∈ plans →
      proc.instrumentContext.marketPriceForIntent req.intent plan.instrumentId
          req.bar = .ok plan.marketPrice ∧
        (proc.instrumentContext.isContinuous req.intent.asset.instrumentId = false →
          ∃ snapshot world, req.accountId.isSome ∧
            actors.accountSnapshot.run state.world = .ok snapshot world ∧
            plan.instrumentId ∈ req.intent.asset.instrumentId :: snapshot.holdings.keys) := by
    intro riskState plans plan prepared mem
    obtain ⟨accountId, snapshot, world, account, asked, built⟩ := prepared_inv prepared
    obtain ⟨own, priced⟩ := orderPlans_answered built mem
    refine ⟨priced, fun plain => ⟨snapshot, world, by rw [account]; rfl, asked, ?_⟩⟩
    rw [own plain]
    exact List.mem_cons_self
  cases used with
  | mark account asked built marked =>
    obtain ⟨place, priced⟩ := buildMarkMap_answered built marked
    refine ⟨priced, fun plain => ⟨_, _, by rw [account]; rfl, asked, ?_⟩⟩
    rcases place with target | held
    · rw [orderInstrumentForIntent_plain plain] at target
      exact List.mem_cons.mpr (.inl (Except.ok.inj target).symm)
    · exact List.mem_cons_of_mem _ held
  | sizing account asked target priced =>
    refine ⟨priced, fun plain => ⟨_, _, by rw [account]; rfl, asked, ?_⟩⟩
    rw [orderInstrumentForIntent_plain plain] at target
    exact List.mem_cons.mpr (.inl (Except.ok.inj target).symm)
  | planned prepared mem => exact ofPlan prepared mem
  | checked prepared mem built =>
    obtain ⟨instrument, price⟩ := riskRequest_fields built
    rw [instrument, price]
    exact ofPlan prepared mem
  | @ordered messages msg told mem =>
    obtain ⟨submitted, tells, source⟩ :=
      processIntent_tells proc actors req orderNumber state
    have same : messages = submitted := List.append_cancel_left (told.symm.trans tells.1)
    subst same
    rcases source with none | ⟨riskState, plans, prepared, sent⟩
    · rw [none] at mem
      cases mem
    · obtain ⟨index, plan, decision, found, _, built⟩ := sent.of_plan mem
      obtain ⟨_, _, instrument, price⟩ := submission_fields built
      rw [instrument, price]
      exact ofPlan prepared (List.mem_of_getElem? found)

/-- Every price used is one of the instrument it is used for exactly if the intent is on a
continuous future, or its asset and all positions are of the bar's instrument. -/
theorem used_prices_own_iff (proc : TargetIntentProcessor) (actors : PartitionActors World)
    (req : IntentRequest) (orderNumber : Nat) (state : IntentProcessing World) :
    proc.UsesOwnPrices actors req orderNumber state ↔
      proc.instrumentContext.isContinuous req.intent.asset.instrumentId = true ∨
        proc.PricedByOwnBar actors req state := by
  constructor
  · intro own
    cases plain : proc.instrumentContext.isContinuous req.intent.asset.instrumentId with
    | true => exact .inl rfl
    | false =>
      refine .inr fun snapshot world given asked instrumentId mem => ?_
      obtain ⟨accountId, account⟩ := Option.isSome_iff_exists.mp given
      obtain ⟨marks, built, marked⟩ := buildMarkMap_plain plain req.bar snapshot.holdings
      have reported := (reports_iff_forall_market _ _ _ _).mpr fun market quotes =>
        own market quotes instrumentId _ (.mark account asked built (marked instrumentId mem))
      exact reported.imp_left And.left
  · intro condition market quotes instrumentId price used
    obtain ⟨priced, place⟩ := priceUsed_answered used
    cases plain : proc.instrumentContext.isContinuous req.intent.asset.instrumentId with
    | true =>
      obtain ⟨registry, found, recorded⟩ :=
        marketPriceForIntent_continuous plain priced
      exact quotes.recorded registry instrumentId price found
        (FutureRollRegistry.executionPrice_recorded recorded)
    | false =>
      obtain ⟨snapshot, world, given, asked, mem⟩ := place plain
      rw [plain] at condition
      have owned := condition.resolve_left Bool.false_ne_true snapshot world given asked
        instrumentId mem
      rw [marketPriceForIntent_plain plain] at priced
      obtain rfl := Except.ok.inj priced
      rcases owned with rfl | ⟨registry, found, recorded⟩
      · rcases proc.instrumentContext.executionTiming.priceForExecutionBar_mem req.bar with
          opened | closed
        · rw [opened]
          exact quotes.openPrice
        · rw [closed]
          exact quotes.close
      · exact quotes.recorded registry instrumentId _ found recorded

def barInstrument : InstrumentId :=
  ⟨⟨"EQUITY.NYSE.A", rfl⟩⟩

def heldInstrument : InstrumentId :=
  ⟨⟨"EQUITY.NYSE.B", rfl⟩⟩

def barAtTen : Bar where
  instrumentId := barInstrument
  startTime := 0
  endTime := 60
  timeframe := "1m"
  sessionId := "session-1"
  openPrice := 10
  high := 10
  low := 10
  close := 10
  valid := by decide +kernel

/-- A processor without a roll registry and without risk rules. -/
def plainProcessor : TargetIntentProcessor where
  riskEngine := { rules := [] }
  instrumentContext := {}
  multiplierFor := fun _ => .ok 1
  brokerId := ⟨⟨"simulated", rfl⟩⟩
  orderIdPrefixShown := by exact Eq.refl false
  brokerOrderIdPrefixShown := by exact Eq.refl false

def oneUnit : IntentRequest where
  intent := {
    asset := ⟨barInstrument, "A", by decide⟩
    intentType := .quantity
    value := some 1
    intentId := "intent-1" }
  bar := barAtTen
  accountId := some ⟨⟨"account-1", Eq.refl false⟩⟩
  strategyId := ⟨⟨"strategy-1", Eq.refl false⟩⟩
  correlationId := ⟨⟨"correlation-1", Eq.refl false⟩⟩

/-- An account with 1000 in cash and five units of the second instrument, bought at 100. -/
def heldPartition : AccountPartition where
  orderManager := { accountId := some ⟨⟨"account-1", Eq.refl false⟩⟩ }
  account := .restore {
    cash := empty.set "USD" 1000
    holdings := empty.set heldInstrument
      { instrumentId := heldInstrument, quantity := 5, averageCost := 100, realizedPnl := 0 }
    accountId := some ⟨⟨"account-1", Eq.refl false⟩⟩ }

/-- The held instrument, at 100 in the market, is marked at the bar's 10. -/
theorem held_position_marked_at_bar :
    let adapter : SimulatedExecutionAdapter := {}
    let actors := AccountPartition.actors adapter.answer .ascii
    let state : IntentProcessing AccountPartition := { world := heldPartition }
    ¬ plainProcessor.UsesOwnPrices actors oneUnit 1 state ∧
      (plainProcessor.prepared actors oneUnit state).map (fun start => start.1.accountEquity) =
        some 1050 := by
  refine ⟨fun own => ?_, by decide +kernel⟩
  let market : InstrumentId → Set Decimal := fun instrument =>
    {price | price = if instrument = barInstrument then 10 else 100}
  have quotes : Quotes market plainProcessor.instrumentContext barAtTen :=
    ⟨rfl, rfl, fun _ _ _ found => nomatch found⟩
  have plain : plainProcessor.instrumentContext.isContinuous
      oneUnit.intent.asset.instrumentId = false := rfl
  obtain ⟨marks, built, marked⟩ := buildMarkMap_plain plain barAtTen
    heldPartition.account.snapshot.1.holdings
  have held : heldInstrument ∈ barInstrument :: heldPartition.account.snapshot.1.holdings.keys := by
    decide +kernel
  have asked : (AccountPartition.askAccountSnapshot .ascii).run heldPartition =
      .ok heldPartition.account.snapshot.1
        { heldPartition with account := heldPartition.account.snapshot.2 } := rfl
  have bought : (10 : Decimal) ∈ market heldInstrument :=
    own market quotes heldInstrument 10 (.mark rfl asked built (marked heldInstrument held))
  exact absurd bought (by decide +kernel)

end TargetIntentProcessor

end Qts
