import Qts.PlanRiskChecks

/-! # Every plan of an intent is decided -/

namespace Qts

open RaisingCalls PythonText Check OrderPlanBuilder OrderIntent List

def PartitionActors.Raises {World : Type} (actors : PartitionActors World)
    (failure : Failure) : Prop :=
  ∃ call, OwnCall actors (fun _ => True) call ∧
    ∃ world after, call.run world = .error failure after

theorem PartitionActors.raises_of {World Value : Type} {actors : PartitionActors World}
    {call : EStateM Failure World Value} {world after : World} {failure : Failure}
    (mine : OwnCall actors (fun _ => True) (discard call))
    (ran : call.run world = .error failure after) : actors.Raises failure :=
  ⟨_, mine, world, after, discard_error ran⟩

theorem OrderIntent.create_ok {fields : OrderIntentFields}
    (valid : firstFailure fields.checks = none) : create fields = .ok ⟨fields, valid⟩ := by
  unfold create
  split
  · rfl
  · next message failed =>
    rw [valid] at failed
    cases failed

namespace OrderPlanBuilder

variable {context : RuntimeInstrumentContext} {intent : TargetIntent} {accountId : AccountId}
  {bar : Bar} {aggregationDecisionId : Option String}

structure Moves (intent : TargetIntent) (aggregationDecisionId : Option String)
    (plan : OrderPlan) : Prop where
  moves : plan.quantityDelta ≠ 0
  aggregation : plan.aggregationDecisionId = aggregationDecisionId
  intentId : plan.intentId = some intent.intentId

theorem closingPlans_moves {target : InstrumentId} {related : List InstrumentId}
    {items : List (InstrumentId × Holding)} {plans : List OrderPlan}
    (built : closingPlans context intent accountId bar aggregationDecisionId target related items =
      .ok plans) {plan : OrderPlan} (mem : plan ∈ plans) :
    Moves intent aggregationDecisionId plan := by
  induction items generalizing plans with
  | nil =>
    cases built
    cases mem
  | cons item items ih =>
    unfold closingPlans at built
    split at built
    · exact ih built mem
    · next other =>
      obtain ⟨marketPrice, _, built⟩ := bind_inv built
      obtain ⟨later, rest, built⟩ := bind_inv built
      cases built
      rcases mem_cons.mp mem with rfl | tail
      · exact ⟨fun flat => other (.inr (.inr (neg_eq_zero.mp flat))), rfl, rfl⟩
      · exact ih rest tail

theorem build_moves {positions : Dict InstrumentId Holding} {plans : List OrderPlan}
    {accountEquity : Option Decimal} {multiplier : Decimal}
    (built : build context intent accountId bar aggregationDecisionId positions accountEquity
      multiplier = .ok plans) {plan : OrderPlan} (mem : plan ∈ plans) :
    Moves intent aggregationDecisionId plan := by
  obtain ⟨target, closing, marketPrice, desired, _, rolled, _, _, rfl⟩ := build_inv built
  rcases mem_append.mp mem with closes | opens
  · unfold rollPlans at rolled
    split at rolled
    · obtain ⟨related, _, rolled⟩ := bind_inv rolled
      exact closingPlans_moves rolled closes
    · cases rolled
      cases closes
  · split at opens
    · cases opens
    · next short =>
      obtain rfl := mem_singleton.mp opens
      exact ⟨short, rfl, rfl⟩

end OrderPlanBuilder

namespace TargetIntentProcessor

section Intents

variable {proc : TargetIntentProcessor} {request : IntentRequest}
  {riskState : RiskStateSnapshot} {plan : OrderPlan} {plans : List OrderPlan}

structure TextsShown (request : IntentRequest) : Prop where
  aggregation : request.aggregationDecisionId.any isBlank = false
  conflict : request.conflictReason.any isBlank = false
  intentId : isBlank request.intent.intentId = false

structure Priced (proc : TargetIntentProcessor) (plan : OrderPlan) : Prop where
  price : 0 ≤ plan.marketPrice
  multiplier : ∃ multiplier, proc.multiplierFor plan.instrumentId = .ok multiplier ∧
    0 < multiplier

structure Orderable (proc : TargetIntentProcessor) (request : IntentRequest)
    (plan : OrderPlan) : Prop where
  shown : TextsShown request
  priced : Priced proc plan
  built : Moves request.intent request.aggregationDecisionId plan

theorem Orderable.formed (order : Orderable proc request plan) :
    WellFormedOrder proc request plan where
  moves := order.built.moves
  price := order.priced.price
  multiplier := order.priced.multiplier
  aggregation := by
    rw [order.built.aggregation]
    exact order.shown.aggregation
  conflict := order.shown.conflict

abbrev orderIntentFields (proc : TargetIntentProcessor) (plan : OrderPlan)
    (orderNumber : Nat) : OrderIntentFields where
  orderId := proc.orderId orderNumber
  instrumentId := plan.instrumentId
  side := if 0 < plan.quantityDelta then .buy else .sell
  quantity := |plan.quantityDelta|
  accountId := some plan.accountId
  orderSpec := plan.orderSpec
  intentId := plan.intentId

theorem Orderable.submission (order : Orderable proc request plan) (decision : RiskDecision)
    (orderNumber : Nat) :
    ∃ message, proc.submission request plan decision orderNumber = .ok message := by
  have intentId : plan.intentId.any isBlank = false := by
    rw [order.built.intentId]
    exact order.shown.intentId
  have valid : firstFailure (orderIntentFields proc plan orderNumber).checks = none := by
    rw [firstFailure_none]
    simp [OrderIntentFields.checks, intentIdCheck, order.built.moves, intentId]
  have clientShown : isBlank (proc.orderIdPrefix ++ "-client") = false :=
    isBlank_append_of_left proc.orderIdPrefixShown _
  have routed : firstFailure (proc.routeFields request plan orderNumber).checks =
      none := by
    rw [firstFailure_none]
    simp [OrderRouteMetadataFields.checks, routeFields,
      OrderNumbers.numbered_visible clientShown orderNumber, order.formed.aggregation]
  unfold TargetIntentProcessor.submission
  rw [create_ok valid]
  dsimp only [bind, Except.bind]
  split
  · next message failed =>
    rw [routed] at failed
    cases failed
  · exact ⟨_, rfl⟩

theorem Orderable.riskDecision (order : Orderable proc request plan)
    {snapshot : AccountSnapshot} {marks multipliers : DecimalMap} {intradayPnl : Decimal}
    (valued : riskState = .fromAccount snapshot marks multipliers intradayPnl
      proc.marginCalculator) (solvent : 0 < riskState.accountEquity) :
    ∃ decision, proc.riskDecision request riskState plan = .ok decision := by
  subst valued
  obtain ⟨asked, built⟩ := (accountRequest_isOk_iff order.formed snapshot marks multipliers
    intradayPnl).mpr solvent
  refine ⟨{ proc.riskEngine.check asked with
    contributingStrategyIds := request.contributingStrategyIds
    aggregationDecisionId := plan.aggregationDecisionId
    conflictReason := request.conflictReason }, ?_⟩
  rw [accountRequest] at built
  rw [TargetIntentProcessor.riskDecision, built]
  rfl

theorem riskDecision_insolvent (insolvent : riskState.accountEquity ≤ 0) (plan : OrderPlan) :
    ∃ failure, proc.riskDecision request riskState plan = .error failure := by
  cases decided : proc.riskDecision request riskState plan with
  | error failure => exact ⟨failure, rfl⟩
  | ok decision =>
    obtain ⟨asked, built, _⟩ := bind_inv decided
    have equity : asked.accountEquity = some riskState.accountEquity :=
      congrArg (·.accountEquity) (riskRequest_built built).2
    exact absurd (asked.accountEquity_pos equity) (not_lt.mpr insolvent)

structure PlanOutcome where
  plan : OrderPlan
  decision : RiskDecision
  message : Option SubmitOrder

structure Carries (plan : OrderPlan) (decision : RiskDecision) (message : SubmitOrder) : Prop where
  decision : message.riskDecision = decision
  instrumentId : message.intent.instrumentId = plan.instrumentId
  side : message.intent.side = if 0 < plan.quantityDelta then .buy else .sell
  quantity : message.intent.quantity = |plan.quantityDelta|
  marketPrice : message.marketPrice = plan.marketPrice

/-- The plan has the engine's decision, and an order exactly if that approves. -/
structure PlanOutcome.Settles (proc : TargetIntentProcessor) (request : IntentRequest)
    (riskState : RiskStateSnapshot) (outcome : PlanOutcome) : Prop where
  decided : proc.riskDecision request riskState outcome.plan = .ok outcome.decision
  submits : outcome.message.isSome = outcome.decision.approved
  carries : ∀ message ∈ outcome.message, Carries outcome.plan outcome.decision message

def EachDecided (proc : TargetIntentProcessor) (request : IntentRequest)
    (riskState : RiskStateSnapshot) (plans : List OrderPlan) (log : List SubmitOrder)
    (processed : ProcessedIntent) (submitted : List SubmitOrder) : Prop :=
  ∃ outcomes : List PlanOutcome, outcomes.map (·.plan) = plans ∧
    (∀ outcome ∈ outcomes, outcome.Settles proc request riskState) ∧
    processed.riskDecisions = outcomes.map (·.decision) ∧
    submitted = log ++ outcomes.filterMap (·.message)

variable {decision : RiskDecision}

theorem submission_carries {orderNumber : Nat} {message : SubmitOrder}
    (built : proc.submission request plan decision orderNumber = .ok message) :
    Carries plan decision message := by
  unfold submission at built
  obtain ⟨orderIntent, created, rest⟩ := bind_inv built
  have fields := create_fields created
  split at rest
  · cases rest
  · obtain rfl := Except.ok.inj rest
    exact {
      decision := rfl
      instrumentId := congrArg (·.instrumentId) fields
      side := congrArg (·.side) fields
      quantity := congrArg (·.quantity) fields
      marketPrice := rfl }

theorem settles_rejected (decided : proc.riskDecision request riskState plan = .ok decision)
    (rejected : decision.approved = false) :
    PlanOutcome.Settles proc request riskState ⟨plan, decision, none⟩ where
  decided := decided
  submits := rejected.symm
  carries _ mem := absurd mem (Option.not_mem_none _)

theorem settles_submitted {orderNumber : Nat} {message : SubmitOrder}
    (decided : proc.riskDecision request riskState plan = .ok decision)
    (approved : decision.approved = true)
    (built : proc.submission request plan decision orderNumber = .ok message) :
    PlanOutcome.Settles proc request riskState ⟨plan, decision, some message⟩ where
  decided := decided
  submits := approved.symm
  carries _ mem := Option.mem_some.mp mem ▸ submission_carries built

variable {World : Type} {actors : PartitionActors World}

theorem ends_onActors {Value : Type} {call : EStateM Failure World Value}
    (mine : OwnCall actors (fun _ => True) (discard call)) (state : IntentProcessing World) :
    Ends (fun _ after => after.submitted = state.submitted) (fun failure _ => actors.Raises failure)
      (onActors call) state := by
  cases ran : call.run state.world with
  | ok value world => exact .of_ok (onActors_ok ran) rfl
  | error failure world => exact .of_error (onActors_error ran) (actors.raises_of mine ran)

theorem ends_orRaise_bind {Value Next : Type} {value : Value} {returned : Next →
    IntentProcessing World → Prop} {failed : Failure → IntentProcessing World → Prop}
    {next : Value → ProcessingCall World Next} {state : IntentProcessing World}
    (rest : Ends returned failed (next value) state) :
    Ends returned failed (orRaise (.ok value) >>= next) state :=
  rest

theorem ends_submit (message : SubmitOrder) (state : IntentProcessing World) :
    Ends (fun _ after => after.submitted = state.submitted ++ [message])
      (fun failure _ => actors.Raises failure) (submit actors message) state := by
  refine ends_modify_bind (Ends.mono (ends_onActors (.submitOrder trivial) _) ?_)
  intro _ after kept
  exact kept

theorem processOrderDelta_decides (order : Orderable proc request plan)
    (decided : proc.riskDecision request riskState plan = .ok decision) (orderNumber : Nat)
    (state : IntentProcessing World) :
    Ends (fun processed after => ∃ outcome : PlanOutcome, outcome.plan = plan ∧
        outcome.Settles proc request riskState ∧
        processed.riskDecisions = [outcome.decision] ∧
        after.submitted = state.submitted ++ outcome.message.toList)
      (fun failure _ => actors.Raises failure)
      (proc.processOrderDelta actors request riskState plan orderNumber) state := by
  obtain ⟨message, built⟩ := order.submission decision orderNumber
  unfold processOrderDelta
  rw [if_neg order.built.moves, decided]
  refine ends_orRaise_bind ?_
  cases approval : decision.approved with
  | false =>
    refine Ends.pure ?_
    exact ⟨⟨plan, decision, none⟩, rfl, settles_rejected decided approval, rfl, (append_nil _).symm⟩
  | true =>
    simp only [Bool.not_true, Bool.false_eq_true, if_false]
    refine Ends.bind (ends_onActors .fillCount state) fun count counted same => ?_
    rw [built]
    refine ends_orRaise_bind ?_
    refine Ends.bind (ends_submit message counted) fun _ told said => ?_
    refine Ends.bind (ends_onActors (.fillsSince count) told) fun fills read kept => ?_
    refine Ends.bind (ends_onActors (.order (proc.orderId orderNumber)) read)
      fun order found left => ?_
    refine Ends.pure ?_
    refine ⟨⟨plan, decision, some message⟩, rfl, settles_submitted decided approval built, rfl, ?_⟩
    rw [left, kept, said, same]
    rfl

theorem processPlans_decides (orders : ∀ plan ∈ plans, Orderable proc request plan)
    (decides : ∀ plan ∈ plans, ∃ decision,
      proc.riskDecision request riskState plan = .ok decision) (orderNumber : Nat)
    (state : IntentProcessing World) :
    Ends (fun processed after => EachDecided proc request riskState plans state.submitted
        processed after.submitted)
      (fun failure _ => actors.Raises failure)
      (proc.processPlans actors request riskState plans orderNumber) state := by
  induction plans generalizing orderNumber state with
  | nil =>
    refine Ends.pure ?_
    exact ⟨[], rfl, fun _ mem => absurd mem not_mem_nil, rfl,
      (append_nil _).symm⟩
  | cons plan plans ih =>
    obtain ⟨decision, decided⟩ := decides plan mem_cons_self
    unfold processPlans
    refine Ends.bind (processOrderDelta_decides (orders plan mem_cons_self) decided
      orderNumber state) ?_
    rintro processed middle ⟨outcome, rfl, settles, decision, told⟩
    have later := ih (fun plan mem => orders plan (mem_cons_of_mem _ mem))
      (fun plan mem => decides plan (mem_cons_of_mem _ mem)) (orderNumber + 1) middle
    refine later.bind ?_
    rintro rest after ⟨outcomes, planned, settled, decisions, said⟩
    refine Ends.pure ?_
    refine ⟨outcome :: outcomes, congrArg (List.cons _) planned, ?_, ?_, ?_⟩
    · exact forall_mem_cons.mpr ⟨settles, settled⟩
    · rw [ProcessedIntent.append, decision, decisions]
      rfl
    · rw [said, told, append_assoc, filterMap_cons]
      cases outcome.message with
      | none => rfl
      | some message => rfl

theorem processPlans_insolvent (moves : ∀ plan ∈ plans, plan.quantityDelta ≠ 0)
    (insolvent : riskState.accountEquity ≤ 0) (orderNumber : Nat) (state : IntentProcessing World) :
    Ends (fun _ after => plans = [] ∧ after.submitted = state.submitted)
      (fun _ after => plans ≠ [] ∧ after.submitted = state.submitted)
      (proc.processPlans actors request riskState plans orderNumber) state := by
  cases plans with
  | nil => exact Ends.pure ⟨rfl, rfl⟩
  | cons plan plans =>
    obtain ⟨failure, raised⟩ : ∃ failure,
        proc.riskDecision request riskState plan = .error failure :=
      riskDecision_insolvent insolvent plan
    have stopped : (proc.processOrderDelta actors request riskState plan orderNumber).run
        state = .error failure state := by
      unfold processOrderDelta
      rw [if_neg (moves plan mem_cons_self), raised]
      exact bind_run_error (orRaise_error failure state)
    unfold processPlans
    exact .of_error (bind_run_error stopped) ⟨cons_ne_nil _ _, rfl⟩

theorem intradayPnl_returns (snapshot : AccountSnapshot) (marks multipliers : DecimalMap)
    (state : IntentProcessing World) :
    ∃ pnl after, (intradayPnl request snapshot marks multipliers).run state = .ok pnl after := by
  have ends : Ends (fun _ _ => True) (fun _ _ => False)
      (intradayPnl request snapshot marks multipliers) state := by
    refine .get ?_
    split
    · exact Ends.pure trivial
    · exact ends_modify_bind (Ends.pure trivial)
  cases ran : (intradayPnl request snapshot marks multipliers).run state with
  | ok pnl after => exact ⟨pnl, after, rfl⟩
  | error failure after => exact (ends.of_raise ran).elim

theorem riskState_returns {snapshot : AccountSnapshot} {marks multipliers : DecimalMap}
    (marked : proc.buildMarkMap request.intent request.bar snapshot.holdings = .ok marks)
    (known : proc.multipliersOf snapshot.holdings.keys .empty = .ok multipliers)
    (state : IntentProcessing World) :
    ∃ riskState after,
      (proc.riskState request snapshot).run state = .ok riskState after := by
  obtain ⟨pnl, after, ran⟩ : ∃ pnl after,
      (intradayPnl request snapshot marks multipliers).run state = .ok pnl after :=
    intradayPnl_returns snapshot marks multipliers state
  unfold riskState
  rw [marked, known, bind_run_ok (orRaise_ok marks state),
    bind_run_ok (orRaise_ok multipliers state), bind_run_ok ran]
  exact ⟨_, _, rfl⟩

/-- For every account, intent and set of rules: what is raised before the plans are made is raised
with nothing submitted, the risk state is built whatever the equity, and for an account of positive
equity each plan that can be priced is submitted or rejected, the failures of the actors apart. An
account without equity is stopped with nothing submitted, unless there is nothing to trade. -/
theorem processIntent_decides (proc : TargetIntentProcessor) (actors : PartitionActors World)
    (request : IntentRequest) (orderNumber : Nat) (state : IntentProcessing World) :
    (∀ failure after, (proc.preparePlans actors request).run state = .error failure after →
      (proc.processIntent actors request orderNumber).run state = .error failure after ∧
        after.submitted = state.submitted) ∧
    (∀ snapshot marks multipliers,
      proc.buildMarkMap request.intent request.bar snapshot.holdings = .ok marks →
      proc.multipliersOf snapshot.holdings.keys .empty = .ok multipliers →
      ∃ riskState after,
        (proc.riskState request snapshot).run state = .ok riskState after) ∧
    ∀ riskState plans between,
      (proc.preparePlans actors request).run state = .ok (riskState, plans) between →
      (0 < riskState.accountEquity → TextsShown request → (∀ plan ∈ plans, Priced proc plan) →
        Ends (fun processed after => EachDecided proc request riskState plans state.submitted
            processed after.submitted)
          (fun failure _ => actors.Raises failure)
          (proc.processIntent actors request orderNumber) state) ∧
      (riskState.accountEquity ≤ 0 →
        Ends (fun _ after => plans = [] ∧ after.submitted = state.submitted)
          (fun _ after => plans ≠ [] ∧ after.submitted = state.submitted)
          (proc.processIntent actors request orderNumber) state) := by
  have untold : (endState ((proc.preparePlans actors request).run state)).submitted =
      state.submitted := keeps_preparePlans state.submitted state rfl
  refine ⟨?_, fun snapshot marks multipliers marked known => riskState_returns marked known state,
    ?_⟩
  · intro failure after ran
    rw [ran] at untold
    exact ⟨bind_run_error ran, untold⟩
  · intro riskState plans between ready
    rw [ready, endState_ok] at untold
    have resumes : ∀ returned failed,
        Ends returned failed (proc.processPlans actors request riskState plans orderNumber)
          between →
        Ends returned failed (proc.processIntent actors request orderNumber) state := by
      intro returned failed ends
      unfold Ends processIntent at *
      rw [bind_run_ok ready]
      exact ends
    obtain ⟨accountId, snapshot, marks, multipliers, pnl, _, _, _, _, valued, planned⟩ :=
      preparePlans_inv ready
    have moves : ∀ plan ∈ plans,
        Moves request.intent request.aggregationDecisionId plan := by
      obtain ⟨_, _, planned⟩ := bind_inv planned
      obtain ⟨_, _, planned⟩ := bind_inv planned
      exact fun plan mem => build_moves planned mem
    constructor
    · intro solvent shown priced
      refine resumes _ _ ?_
      have orders : ∀ plan ∈ plans, Orderable proc request plan :=
        fun plan mem => ⟨shown, priced plan mem, moves plan mem⟩
      rw [← untold]
      exact processPlans_decides orders
        (fun plan mem => (orders plan mem).riskDecision valued solvent) orderNumber between
    · intro insolvent
      refine resumes _ _ ?_
      rw [← untold]
      exact processPlans_insolvent (fun plan mem => (moves plan mem).moves) insolvent
        orderNumber between

end Intents

namespace RaisingIntents

open OrderIdentity

def processorOver (registry : Option FutureRollRegistry) : TargetIntentProcessor where
  riskEngine := { rules := [] }
  instrumentContext := { futureRollRegistry := registry }
  multiplierFor := fun _ => .ok 1
  brokerId := ⟨⟨"simulated", Eq.refl false⟩⟩
  orderIdPrefixShown := by exact Eq.refl false
  brokerOrderIdPrefixShown := by exact Eq.refl false

def start : IntentProcessing AccountPartition := { world := startingPartition }

/-- An account with a thousand in cash has sold ten contracts at 10. -/
def short : IntentProcessing AccountPartition :=
  endState (((processorOver none).processIntent (simulatedActors defaultSimulatedCapabilities)
    (request marchBar (holding marchContract (-10) .default)) 1).run start)

def squeezeBar : Bar where
  instrumentId := marchContract
  startTime := 60
  endTime := 120
  timeframe := "1m"
  sessionId := "session-1"
  openPrice := 200
  high := 200
  low := 200
  close := 200
  valid := by decide +kernel

def closing : TargetIntent :=
  { holding marchContract 0 .default with intentType := .close, value := none }

/-- After the roll the June contract trades below zero. -/
def negativeRegistry : Except Failure FutureRollRegistry := do
  let (_, registered) ←
    FutureRollRegistry.registerRoot .ascii {} "ES" "CME" [marchContract, juneContract]
  let march ← registered.recordSelection (selection 0 marchContract)
  march.recordSelection ((selection 100 juneContract).withPrices
    ((Dict.empty.set marchContract 10).set juneContract (-5)))

def beforeRoll : IntentProcessing AccountPartition :=
  endState (((processorOver negativeRegistry.toOption).processIntent
    (simulatedActors defaultSimulatedCapabilities)
    (request marchBar (holding frontFuture 1 .default)) 1).run start)

def raise (registry : Option FutureRollRegistry) (capabilities : BrokerCapabilities)
    (asked : IntentRequest) (state : IntentProcessing AccountPartition) :
    Option Failure × Nat :=
  match ((processorOver registry).processIntent (simulatedActors capabilities) asked 2).run
    state with
  | .ok _ after => (none, after.submitted.length - state.submitted.length)
  | .error failure after => (some failure, after.submitted.length - state.submitted.length)

/-- The short account cannot be closed out once its equity is gone. A roll whose second contract
trades below zero raises after the first order, and so do an intent without an id and an order that
the broker refuses. -/
theorem processIntent_raises :
    raise none defaultSimulatedCapabilities (request squeezeBar closing) short =
        (some (.valueError "account_equity must be positive"), 0) ∧
      heldQuantity short.world.account.holdings.holdings marchContract = -10 ∧
      raise negativeRegistry.toOption defaultSimulatedCapabilities
          (request juneBar (holding frontFuture 1 .default)) beforeRoll =
        (some (.valueError "price must be non-negative"), 1) ∧
      raise none defaultSimulatedCapabilities
          (request marchBar { holding marchContract 1 .default with intentId := " " }) start =
        (some (.valueError "intent_id must not be empty if provided"), 0) ∧
      (raise none marketOnly (request marchBar (holding marchContract 1 limitAtFive))
        start).1.isSome = true := by
  decide +kernel

end RaisingIntents

end TargetIntentProcessor

end Qts
