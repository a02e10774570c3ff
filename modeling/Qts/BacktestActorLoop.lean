import Qts.OrderSequences

/-! # Order flow of the backtest actor loop -/

namespace Qts

open StepRuns

/-- Aggregated intents ready for the order flow, less the intents themselves. -/
structure AggregatedSignalBatch where
  accountId : Option AccountId := none
  aggregationDecisionId : Option String := none
  contributingStrategyIds : List StrategyId := []
  conflictReason : String := ""

structure BacktestActorLoopDependencies (World : Type) where
  riskEngine : RiskEngine
  contractMultipliers : DecimalMap := .empty
  brokerId : BrokerId
  marginCalculator : Option MarginCalculator := none
  accountPartitions : Dict AccountId (PartitionActors World)
  accountId : AccountId
  strategyId : Option StrategyId := none
  isoformat : DateTime → String

structure BacktestActorLoop (World : Type) where
  orderCount : Nat := 0
  instrumentContext : RuntimeInstrumentContext := {}
  world : World
  submitted : List SubmitOrder := []
  /-- The exception that ended the run. -/
  unhandled : Option Failure := none

/-- What happens in a backtest: an accepted intent, new market data, or anything else among
the actors. -/
inductive BacktestEvent (World : Type)
  | intent (bar : Bar) (batch : AggregatedSignalBatch) (intent : TargetIntent)
      (correlationId : CorrelationId)
  | marketData (instrumentContext : RuntimeInstrumentContext)
  | actors (change : World → World)

namespace BacktestActorLoop

variable {World : Type} (deps : BacktestActorLoopDependencies World)

def handles (failure : Failure) : Bool :=
  failure.isValueError && failure.isBrokerCapabilityReject deps.isoformat

def partitionForAccount (accountId : AccountId) :
    Except Failure (PartitionActors World) :=
  match deps.accountPartitions.items with
  | [only] => .ok only.2
  | _ =>
    match deps.accountPartitions.get? accountId with
    | some actors => .ok actors
    | none => .error (.valueError ("unknown backtest account partition: " ++ accountId.value))

def intentProcessor (instrumentContext : RuntimeInstrumentContext) : TargetIntentProcessor where
  riskEngine := deps.riskEngine
  instrumentContext := instrumentContext
  multiplierFor := fun instrumentId =>
    .ok ((deps.contractMultipliers.get? instrumentId).getD 1)
  brokerId := deps.brokerId
  marginCalculator := deps.marginCalculator
  orderIdPrefixShown := by decide
  brokerOrderIdPrefixShown := by decide

/-- The call that an accepted intent makes of the processor, and the actors it goes to. -/
def route (bar : Bar) (batch : AggregatedSignalBatch) (intent : TargetIntent)
    (correlationId : CorrelationId) :
    Except Failure (IntentRequest × PartitionActors World) :=
  match batch.contributingStrategyIds.head? <|> deps.strategyId with
  | none => .error (.valueError "strategy_id is required")
  | some strategyId => do
    let accountId := batch.accountId.getD deps.accountId
    let actors ← partitionForAccount deps accountId
    return ({
      intent, bar
      accountId := some accountId
      strategyId, correlationId
      contributingStrategyIds := batch.contributingStrategyIds
      aggregationDecisionId := batch.aggregationDecisionId
      conflictReason := if batch.conflictReason = "" then none else some batch.conflictReason },
      actors)

def processing (loop : BacktestActorLoop World) : IntentProcessing World where
  world := loop.world
  submitted := loop.submitted

def runIntent (loop : BacktestActorLoop World) (req : IntentRequest)
    (actors : PartitionActors World) :
    EStateM.Result Failure (IntentProcessing World) ProcessedIntent :=
  ((intentProcessor deps loop.instrumentContext).processIntent actors req
    (loop.orderCount + 1)).run loop.processing

def writeProcessed (loop : BacktestActorLoop World) :
    EStateM.Result Failure (IntentProcessing World) ProcessedIntent →
      BacktestActorLoop World
  | .ok processed after =>
    { loop with
      world := after.world
      submitted := after.submitted
      orderCount := loop.orderCount + processed.orders.length }
  | .error failure after =>
    { loop with
      world := after.world
      submitted := after.submitted
      unhandled := if handles deps failure then none else some failure }

def processStrategyIntent (loop : BacktestActorLoop World) (bar : Bar)
    (batch : AggregatedSignalBatch) (intent : TargetIntent) (correlationId : CorrelationId) :
    BacktestActorLoop World :=
  match route deps bar batch intent correlationId with
  | .error failure => { loop with unhandled := some failure }
  | .ok (req, actors) =>
    loop.writeProcessed deps (loop.runIntent deps req actors)

/-- One event of a backtest; after an unhandled exception nothing happens. -/
def step : Step (BacktestActorLoop World) (BacktestEvent World) Unit :=
  fun loop event =>
    if loop.unhandled.isSome then ((), loop)
    else
      ((), match event with
        | .intent bar batch intent correlationId =>
          loop.processStrategyIntent deps bar batch intent correlationId
        | .marketData instrumentContext => { loop with instrumentContext }
        | .actors change => { loop with world := change loop.world })

end BacktestActorLoop

/-- The calls of the actors made for an intent whose submissions are among the given ones. -/
inductive OwnCall {World : Type} (actors : PartitionActors World) (own : SubmitOrder → Prop) :
    EStateM Failure World Unit → Prop
  | accountSnapshot : OwnCall actors own (discard actors.accountSnapshot)
  | fillCount : OwnCall actors own (discard actors.fillCount)
  | submitOrder {msg : SubmitOrder} (mine : own msg) :
      OwnCall actors own (discard (actors.submitOrder msg))
  | fillsSince (index : Nat) : OwnCall actors own (discard (actors.fillsSince index))
  | order (orderId : OrderId) : OwnCall actors own (discard (actors.order orderId))

inductive OwnReach {World : Type} (actors : PartitionActors World) (own : SubmitOrder → Prop)
    (start : World) : World → Prop
  | start : OwnReach actors own start start
  | after {world : World} (reached : OwnReach actors own start world)
      {call : EStateM Failure World Unit} (mine : OwnCall actors own call) :
      OwnReach actors own start (RaisingCalls.endState (call.run world))

/-- None of the calls made for an intent raises a failure that the loop handles. -/
def NeverRefused {World : Type} (actors : PartitionActors World) (own : SubmitOrder → Prop)
    (handles : Failure → Bool) (start : World) : Prop :=
  ∀ world, OwnReach actors own start world → ∀ call, OwnCall actors own call →
    ∀ failure after, call.run world = .error failure after → handles failure = false

section Guarded

open RaisingCalls

variable {World : Type} {actors : PartitionActors World} {own : SubmitOrder → Prop}
  {handles : Failure → Bool} {start : World}

/-- The actors are in a state that the intent's own calls lead to. -/
def InReach (actors : PartitionActors World) (own : SubmitOrder → Prop) (start : World)
    (state : IntentProcessing World) : Prop :=
  OwnReach actors own start state.world

theorem endState_discard {Value : Type} (call : EStateM Failure World Value)
    (world : World) : endState ((discard call).run world) = endState (call.run world) := by
  show endState (EStateM.map _ call world) = endState (call world)
  unfold EStateM.map
  cases call world <;> rfl

theorem discard_error {Value : Type} {call : EStateM Failure World Value}
    {world after : World} {failure : Failure} (ran : call.run world = .error failure after) :
    (discard call).run world = .error failure after := by
  show EStateM.map _ call world = .error failure after
  unfold EStateM.map
  rw [show call world = .error failure after from ran]

theorem guarded_onActors (never : NeverRefused actors own handles start) {Value : Type}
    {call : EStateM Failure World Value} (mine : OwnCall actors own (discard call)) :
    Guarded (InReach actors own start) (fun failure => handles failure = false)
      (onActors call) := by
  intro state reached
  have next : OwnReach actors own start (endState (call.run state.world)) := by
    rw [← endState_discard]
    exact reached.after mine
  cases ran : call.run state.world with
  | ok value world =>
    rw [ran] at next
    rw [onActors_ok ran]
    exact next
  | error failure world =>
    rw [onActors_error ran]
    exact never state.world reached _ mine failure world (discard_error ran)

theorem guarded_orRaise {inv : IntentProcessing World → Prop} {Value Next : Type}
    {outcome : Except Failure Value} {next : Value → ProcessingCall World Next}
    (harmless : ∀ failure, outcome = .error failure → handles failure = false)
    (rest : ∀ value, outcome = .ok value →
      Guarded inv (fun failure => handles failure = false) (next value)) :
    Guarded inv (fun failure => handles failure = false) (orRaise outcome >>= next) := by
  intro state holds
  cases outcome with
  | ok value => exact rest value rfl state holds
  | error failure => exact harmless failure rfl

end Guarded

namespace BacktestActorLoop

open RaisingCalls TargetIntentProcessor

variable {World : Type} {deps : BacktestActorLoopDependencies World}

theorem handles_valueError (msg : String) :
    handles deps (.valueError msg) =
      PythonText.contains msg "not supported by broker capabilities" :=
  Bool.true_and _

theorem handles_check {checks : List Check} {messages : List String} {msg : String}
    (failed : Check.firstFailure checks = some msg)
    (absent : ∀ text ∈ messages, 'k' ∉ text.toList)
    (texts : checks.map (fun check => check.message) = messages) :
    handles deps (.valueError msg) = false := by
  obtain ⟨check, mem, _, rfl⟩ := Check.firstFailure_eq_some failed
  have listed : check.message ∈ messages := texts ▸ List.mem_map_of_mem mem
  rw [handles_valueError]
  exact PythonText.contains_eq_false (by decide) (absent check.message listed)

theorem handles_riskRequest_create {fields : OrderRiskRequestFields} {failure : Failure}
    (failed : OrderRiskRequest.create fields = .error failure) :
    handles deps failure = false := by
  have absent : ∀ text ∈ ["quantity must be positive", "price must be non-negative",
      "multiplier must be positive", "aggregation_decision_id must not be empty",
      "conflict_reason must not be empty", "account_equity must be positive",
      "current_exposure must be non-negative",
      "current instrument notional must be non-negative", "volatility must be non-negative",
      "signed_quantity_delta must not be zero", "abs(signed_quantity_delta) must equal quantity"],
      'k' ∉ text.toList := by
    decide +kernel
  unfold OrderRiskRequest.create at failed
  split at failed
  · cases failed
  · next msg first =>
    obtain rfl := Except.error.inj failed
    exact handles_check first absent rfl

theorem handles_riskDecision {context : RuntimeInstrumentContext} {req : IntentRequest}
    {riskState : RiskStateSnapshot} {plan : OrderPlan} {failure : Failure}
    (failed : (intentProcessor deps context).riskDecision req riskState plan =
      .error failure) : handles deps failure = false := by
  rcases bind_error failed with requested | ⟨asked, _, decided⟩
  · rcases bind_error requested with multiplied | ⟨multiplier, _, described⟩
    · cases multiplied
    · rcases bind_error described with first | ⟨described, _, second⟩
      · exact handles_riskRequest_create first
      · rcases bind_error second with multiplied | ⟨_, _, created⟩
        · cases multiplied
        · exact handles_riskRequest_create created
  · cases decided

theorem handles_submission {context : RuntimeInstrumentContext} {req : IntentRequest}
    {plan : OrderPlan} {decision : RiskDecision} {orderNumber : Nat} {failure : Failure}
    (failed : (intentProcessor deps context).submission req plan decision orderNumber =
      .error failure) : handles deps failure = false := by
  rcases bind_error failed with created | ⟨orderIntent, _, routed⟩
  · have absent : ∀ text ∈ ["quantity must be positive", "intent_id must not be empty if provided"],
        'k' ∉ text.toList := by
      decide
    unfold OrderIntent.create at created
    split at created
    · cases created
    · next msg first =>
      obtain rfl := Except.error.inj created
      exact handles_check first absent rfl
  · have absent : ∀ text ∈ ["client_order_id must not be empty",
        "aggregation_decision_id must not be empty"], 'k' ∉ text.toList := by
      decide
    split at routed
    · next msg first =>
      obtain rfl := Except.error.inj routed
      exact handles_check first absent rfl
    · cases routed

variable {actors : PartitionActors World} {own : SubmitOrder → Prop} {start : World}
  {context : RuntimeInstrumentContext} {req : IntentRequest} {riskState : RiskStateSnapshot}

/-- A submission that the plan's approval leads to. -/
def OwnSubmission (proc : TargetIntentProcessor) (req : IntentRequest)
    (riskState : RiskStateSnapshot) (plans : List OrderPlan) (msg : SubmitOrder) : Prop :=
  ∃ plan ∈ plans, proc.approves req riskState plan = true ∧
    ∃ decision orderNumber,
      proc.submission req plan decision orderNumber = .ok msg

section

variable (never : NeverRefused actors own (handles deps) start)

include never

theorem guarded_submit {msg : SubmitOrder} (mine : own msg) :
    Guarded (InReach actors own start) (fun failure => handles deps failure = false)
      (submit actors msg) :=
  .bind (.modify fun _ reached => reached) fun _ => guarded_onActors never (.submitOrder mine)

theorem guarded_processOrderDelta {plan : OrderPlan}
    (mine : ∀ decision orderNumber msg,
      (intentProcessor deps context).approves req riskState plan = true →
      (intentProcessor deps context).submission req plan decision orderNumber =
        .ok msg → own msg) (orderNumber : Nat) :
    Guarded (InReach actors own start) (fun failure => handles deps failure = false)
      ((intentProcessor deps context).processOrderDelta actors req riskState plan
        orderNumber) := by
  unfold processOrderDelta
  refine .ite (fun _ => .pure _) fun moved => ?_
  refine guarded_orRaise (fun _ => handles_riskDecision) fun decision decided => ?_
  refine .ite (fun _ => .pure _) fun approval => ?_
  refine .bind (guarded_onActors never .fillCount) fun count => ?_
  refine guarded_orRaise (fun _ => handles_submission) fun msg built => ?_
  have approved : (intentProcessor deps context).approves req riskState plan = true := by
    simpa [approves, moved, decided] using approval
  refine .bind (guarded_submit never (mine decision orderNumber msg approved built)) fun _ => ?_
  refine .bind (guarded_onActors never (.fillsSince count)) fun fills => ?_
  exact .bind (guarded_onActors never (.order _)) fun order => .pure _

theorem guarded_processPlans {plans : List OrderPlan}
    (mine : ∀ msg,
      OwnSubmission (intentProcessor deps context) req riskState plans msg →
        own msg) (orderNumber : Nat) :
    Guarded (InReach actors own start) (fun failure => handles deps failure = false)
      ((intentProcessor deps context).processPlans actors req riskState plans
        orderNumber) := by
  induction plans generalizing orderNumber with
  | nil => exact .pure _
  | cons plan plans ih =>
    unfold processPlans
    refine .bind (guarded_processOrderDelta never ?_ orderNumber) fun processed => ?_
    · intro decision number msg approved built
      exact mine msg ⟨plan, List.mem_cons_self, approved, decision, number, built⟩
    · refine .bind (ih ?_ _) fun rest => .pure _
      rintro msg ⟨later, mem, sent⟩
      exact mine msg ⟨later, List.mem_cons_of_mem _ mem, sent⟩

end

theorem keeps_preparePlans_inReach (proc : TargetIntentProcessor) :
    Keeps (InReach actors own start) (proc.preparePlans actors req) := by
  unfold preparePlans TargetIntentProcessor.riskState
  split
  · exact .throw _
  · refine .bind ?_ fun snapshot => .bind ?_ fun riskState => ?_
    · intro state reached
      have next : OwnReach actors own start
          (endState (actors.accountSnapshot.run state.world)) := by
        rw [← endState_discard]
        exact reached.after .accountSnapshot
      cases ran : actors.accountSnapshot.run state.world with
      | ok value world =>
        rw [onActors_ok ran]
        rwa [ran] at next
      | error failure world =>
        rw [onActors_error ran]
        rwa [ran] at next
    · refine .bind (keeps_orRaise _ _) fun marks => .bind (keeps_orRaise _ _) fun multipliers =>
        .bind (.get fun state holds => ?_) fun pnl => .pure _
      split
      · exact .pure _
      · exact .bind (.modify fun _ kept => kept) fun _ => .pure _
    · exact .bind (keeps_orRaise _ _) fun plans => .pure _

theorem processIntent_unhandled {state after : IntentProcessing World} {plans : List OrderPlan}
    {orderNumber : Nat} {failure : Failure}
    (prepared : (intentProcessor deps context).prepared actors req state =
      some (riskState, plans))
    (never : NeverRefused actors
      (OwnSubmission (intentProcessor deps context) req riskState plans)
      (handles deps) state.world)
    (failed : ((intentProcessor deps context).processIntent actors req
      orderNumber).run state = .error failure after) : handles deps failure = false := by
  unfold TargetIntentProcessor.prepared at prepared
  split at prepared
  · next begun middle ran =>
    cases prepared
    have reached : InReach actors
        (OwnSubmission (intentProcessor deps context) req riskState plans) state.world
        (endState (((intentProcessor deps context).preparePlans actors req).run
          state)) := keeps_preparePlans_inReach _ state .start
    unfold processIntent at failed
    rw [bind_run_ok ran] at failed
    rw [ran] at reached
    have guarded := guarded_processPlans never (fun _ mine => mine) orderNumber middle reached
    rw [failed] at guarded
    exact guarded
  · cases prepared

/-- The risk engine approves an intent's plans from the first on, and the broker refuses none of
their orders for a capability. -/
def LeadingAndSupported (deps : BacktestActorLoopDependencies World)
    (loop : BacktestActorLoop World) : BacktestEvent World → Prop
  | .intent bar batch intent correlationId =>
    ∀ req actors riskState plans,
      route deps bar batch intent correlationId = .ok (req, actors) →
      let proc := intentProcessor deps loop.instrumentContext
      proc.prepared actors req loop.processing = some (riskState, plans) →
        proc.ApprovedFirst req riskState plans ∧
          NeverRefused actors (OwnSubmission proc req riskState plans)
            (handles deps) loop.world
  | _ => True

/-- Submissions of a backtest are numbered, up to the recorded orders while the run goes on. -/
def Numbered (loop : BacktestActorLoop World) : Prop :=
  ∃ bound, NumberedUpTo "bt" "sim" loop.submitted bound ∧
    (loop.unhandled = none → bound ≤ loop.orderCount)

variable {loop : BacktestActorLoop World}

theorem writeProcessed_numbered {messages : List SubmitOrder}
    (recorded : NumberedUpTo "bt" "sim" loop.submitted loop.orderCount)
    (carries : CarriesNumbers "bt" "sim" messages
      (List.range' (loop.orderCount + 1) messages.length))
    {result : EStateM.Result Failure (IntentProcessing World) ProcessedIntent}
    (tells : Tells loop.submitted result messages)
    (unhandled : ∀ failure after, result = .error failure after → messages ≠ [] →
      handles deps failure = false) :
    (loop.writeProcessed deps result).Numbered := by
  have told : NumberedUpTo "bt" "sim" (endState result).submitted
      (loop.orderCount + messages.length) := by
    rw [tells.1]
    exact recorded.extend carries
  refine ⟨loop.orderCount + messages.length, ?_, ?_⟩
  · cases result <;> exact told
  · cases result with
    | ok processed after =>
      intro _
      exact (Nat.add_le_add_left (tells.2 processed after rfl).ge _)
    | error failure after =>
      intro goesOn
      -- The run goes on only after a handled failure, before which nothing was told.
      have none : messages = [] := by
        by_contra some
        simp [writeProcessed, unhandled failure after rfl some] at goesOn
      rw [none]
      exact le_rfl

theorem processStrategyIntent_numbered (running : loop.unhandled = none) (numbered : loop.Numbered)
    {bar : Bar} {batch : AggregatedSignalBatch} {intent : TargetIntent}
    {correlationId : CorrelationId}
    (condition : loop.LeadingAndSupported deps (.intent bar batch intent correlationId)) :
    (loop.processStrategyIntent deps bar batch intent correlationId).Numbered := by
  obtain ⟨bound, ids, counted⟩ := numbered
  have recorded := ids.mono (counted running)
  unfold processStrategyIntent
  cases routed : route deps bar batch intent correlationId with
  | error failure => exact ⟨_, recorded, nofun⟩
  | ok routes =>
    obtain ⟨req, actors⟩ := routes
    obtain ⟨messages, tells, source⟩ := processIntent_tells
      (intentProcessor deps loop.instrumentContext) actors req (loop.orderCount + 1)
      loop.processing
    rcases source with none | ⟨riskState, plans, prepared, submitted⟩
    · subst none
      exact writeProcessed_numbered recorded .nil tells fun _ _ _ some => absurd rfl some
    · obtain ⟨leading, never⟩ := condition req actors riskState plans routed prepared
      exact writeProcessed_numbered recorded (submitted.carries leading) tells
        fun _ _ failed _ => processIntent_unhandled prepared never failed

theorem step_numbered (loop : BacktestActorLoop World) (event : BacktestEvent World)
    (numbered : loop.Numbered) (condition : loop.LeadingAndSupported deps event) :
    (step deps loop event).2.Numbered := by
  unfold step
  split
  · exact numbered
  · next running =>
    have none : loop.unhandled = none := Option.not_isSome_iff_eq_none.mp running
    cases event with
    | intent bar batch intent correlationId =>
      exact processStrategyIntent_numbered none numbered condition
    | marketData instrumentContext => exact numbered
    | actors change => exact numbered

/-- Along a run whose intents meet the condition, all submissions have ids of their own. -/
theorem run_numbered (numbered : loop.Numbered) {events : List (BacktestEvent World)}
    (condition : EveryStep (step deps) (LeadingAndSupported deps) loop events) :
    (final (step deps) loop events).Numbered :=
  final_invariant_of_everyStep step_numbered numbered condition

end BacktestActorLoop

end Qts
