import Qts.IntentDecisions
import Qts.PartitionFills

/-! # Fills of an intent -/

namespace Qts

open RaisingCalls PythonText AccountPartition

abbrev AccountWorld := AccountId → AccountPartition

namespace AccountWorld

def onAccount {Value : Type} (accountId : AccountId) (call : PartitionCall Value) :
    EStateM Failure AccountWorld Value := fun world =>
  match call.run (world accountId) with
  | .ok value partition => .ok value (Function.update world accountId partition)
  | .error failure partition => .error failure (Function.update world accountId partition)

def actorsOf (answer : ExecutionRequest → Except Failure ExecutionReport)
    (caps : UpperCase) (accountId : AccountId) : PartitionActors AccountWorld where
  accountSnapshot := onAccount accountId (askAccountSnapshot caps)
  fillCount := onAccount accountId askFillCount
  submitOrder message := onAccount accountId (tellOrder answer caps message)
  fillsSince index := onAccount accountId (askFillsSince index)
  order orderId := onAccount accountId (askOrder orderId)

def Holds (base : AccountWorld) (accountId : AccountId) (condition : AccountPartition → Prop)
    (world : AccountWorld) : Prop :=
  ∃ partition, condition partition ∧ world = Function.update base accountId partition

variable {base : AccountWorld} {accountId : AccountId} {partition : AccountPartition}
  {world : AccountWorld}

theorem Holds.mono {condition weaker : AccountPartition → Prop}
    (holds : Holds base accountId condition world)
    (implies : ∀ partition, condition partition → weaker partition) :
    Holds base accountId weaker world := by
  obtain ⟨partition, condition, same⟩ := holds
  exact ⟨partition, implies partition condition, same⟩

theorem Holds.at {condition : AccountPartition → Prop}
    (holds : Holds base accountId condition world) : condition (world accountId) := by
  obtain ⟨partition, condition, rfl⟩ := holds
  rwa [Function.update_self]

theorem Holds.other {condition : AccountPartition → Prop}
    (holds : Holds base accountId condition world) {other : AccountId} (differs : other ≠ accountId)
    : world other = base other := by
  obtain ⟨partition, _, rfl⟩ := holds
  exact Function.update_of_ne differs partition base

theorem onAccount_ends {Value : Type} {call : PartitionCall Value}
    {returned : Value → AccountPartition → Prop} {failed : Failure → AccountPartition → Prop}
    (ends : Ends returned failed call partition) :
    Ends (fun value => Holds base accountId (returned value))
      (fun failure => Holds base accountId (failed failure)) (onAccount accountId call)
      (Function.update base accountId partition) := by
  unfold Ends at ends ⊢
  simp only [onAccount, EStateM.run, Function.update_self, Function.update_idem] at ends ⊢
  split at ends
  · next value after ran =>
    rw [ran]
    exact ⟨after, ends, rfl⟩
  · next failure after ran =>
    rw [ran]
    exact ⟨after, ends, rfl⟩

end AccountWorld

namespace TargetIntentProcessor

open AccountPartition AccountWorld BacktestActorLoop

variable {request : IntentRequest}
  {answer : ExecutionRequest → Except Failure ExecutionReport}
  {caps : UpperCase} {base : AccountWorld} {accountId : AccountId}
  {partition : AccountPartition} {state : IntentProcessing AccountWorld}

theorem onActors_account {Value : Type} {call : PartitionCall Value}
    {returned : Value → AccountPartition → Prop} {failed : Failure → AccountPartition → Prop}
    (ends : Ends returned failed call partition)
    (world : state.world = Function.update base accountId partition) :
    Ends (fun value after => Holds base accountId (returned value) after.world)
      (fun failure after => Holds base accountId (failed failure) after.world)
      (onActors (onAccount accountId call)) state := by
  have called := @onAccount_ends base accountId partition Value call returned failed ends
  rw [← world] at called
  cases ran : (onAccount accountId call).run state.world with
  | ok value after => exact .of_ok (onActors_ok ran) (called.of_run ran)
  | error failure after => exact .of_error (onActors_error ran) (called.of_raise ran)

def planRequest (proc : TargetIntentProcessor) (request : IntentRequest)
    (riskState : RiskStateSnapshot) (plan : OrderPlan) (orderNumber : Nat) :
    Option ExecutionRequest :=
  if plan.quantityDelta = 0 then none
  else
    match proc.riskDecision request riskState plan with
    | .error _ => none
    | .ok decision =>
      if decision.approved then
        (proc.submission request plan decision orderNumber).toOption.map
          (·.executionRequest)
      else none

section Plan

variable {proc : TargetIntentProcessor} {riskState : RiskStateSnapshot} {plan : OrderPlan}
  {decision : RiskDecision} {orderNumber : Nat} {message : SubmitOrder}

theorem planRequest_still (still : plan.quantityDelta = 0) :
    proc.planRequest request riskState plan orderNumber = none := by
  simp [planRequest, still]

theorem planRequest_rejected
    (decided : proc.riskDecision request riskState plan = .ok decision)
    (rejected : decision.approved = false) :
    proc.planRequest request riskState plan orderNumber = none := by
  simp [planRequest, decided, rejected]

theorem planRequest_submitted (moves : plan.quantityDelta ≠ 0)
    (decided : proc.riskDecision request riskState plan = .ok decision)
    (approved : decision.approved = true)
    (built : proc.submission request plan decision orderNumber = .ok message) :
    proc.planRequest request riskState plan orderNumber =
      some message.executionRequest := by
  simp [planRequest, moves, decided, approved, built, Except.toOption]

end Plan

def planRequests (proc : TargetIntentProcessor) (request : IntentRequest)
    (riskState : RiskStateSnapshot) : List OrderPlan → Nat → List ExecutionRequest
  | [], _ => []
  | plan :: plans, orderNumber =>
    (proc.planRequest request riskState plan orderNumber).toList ++
      planRequests proc request riskState plans (orderNumber + 1)

/-- The account has taken the fills that an intent answers. -/
def Answers (answer : ExecutionRequest → Except Failure ExecutionReport)
    (caps : UpperCase) (before : AccountPartition)
    (requests : List ExecutionRequest) (fills : List OrderFill) (after : AccountPartition) : Prop :=
  ∃ messages, Executed answer caps before requests messages after ∧
    fills = messages.map (·.fill)

theorem Answers.nothing (rest : Idle partition) : Answers answer caps partition [] [] partition :=
  ⟨[], .refl rest, rfl⟩

section Loop

variable {deps : BacktestActorLoopDependencies AccountWorld}
  {context : RuntimeInstrumentContext}

theorem plain_riskDecision {riskState : RiskStateSnapshot} {plan : OrderPlan}
    {failure : Failure}
    (failed : (intentProcessor deps context).riskDecision request
      riskState plan = .error failure) : failure.Plain := fun isoformat =>
  @handles_riskDecision AccountWorld { deps with isoformat }
    context request riskState plan failure failed

theorem plain_submission {plan : OrderPlan} {decision : RiskDecision} {orderNumber : Nat}
    {failure : Failure}
    (failed : (intentProcessor deps context).submission request plan
      decision orderNumber = .error failure) : failure.Plain := fun isoformat =>
  @handles_submission AccountWorld { deps with isoformat }
    context request plan decision orderNumber failure failed

theorem processOrderDelta_answers (rest : Idle partition) (riskState : RiskStateSnapshot)
    (plan : OrderPlan) (orderNumber : Nat)
    (world : state.world = Function.update base accountId partition) :
    Ends (fun processed after => Holds base accountId (Answers answer caps partition
          ((intentProcessor deps context).planRequest request riskState plan
            orderNumber).toList processed.fills) after.world)
      (fun failure after => failure.Plain ∨ Holds base accountId (RefusedAt answer caps partition
          ((intentProcessor deps context).planRequest request riskState plan
            orderNumber).toList failure) after.world)
      ((intentProcessor deps context).processOrderDelta (actorsOf answer caps accountId)
        request riskState plan orderNumber) state := by
  have still : Holds base accountId (Answers answer caps partition [] []) state.world :=
    ⟨partition, .nothing rest, world⟩
  unfold processOrderDelta
  split
  · next zero =>
    rw [planRequest_still zero]
    exact Ends.pure still
  next moves =>
  cases decided : (intentProcessor deps context).riskDecision request riskState plan with
  | error failure => exact .inl (plain_riskDecision decided)
  | ok decision =>
  refine ends_orRaise_bind ?_
  cases approved : decision.approved with
  | false =>
    rw [planRequest_rejected decided approved]
    exact Ends.pure still
  | true =>
  have counts := onActors_account (@Idle.askFillCount answer caps partition rest) world
  refine (counts.mono_failed fun _ _ holds => .inl holds.at).bind ?_
  rintro count counted ⟨ready, ⟨drained, empty, counts⟩, world⟩
  cases built : (intentProcessor deps context).submission request plan decision
    orderNumber with
  | error failure => exact .inl (plain_submission built)
  | ok message =>
  rw [planRequest_submitted moves decided approved built]
  refine ends_orRaise_bind ?_
  have submitted : Ends (fun _ after => Holds base accountId (fun next =>
        next.orderManagerMailbox = [] ∧ ∃ messages,
          Executed answer caps ready [message.executionRequest] messages next ∧
          next.orderManager.fills = ready.orderManager.fills ++ messages.map (·.fill)) after.world)
      (fun failure after => failure.Plain ∨ Holds base accountId
        (RefusedAt answer caps partition [message.executionRequest] failure) after.world)
      (submit (actorsOf answer caps accountId) message) counted := by
    refine ends_modify_bind (Ends.mono_failed (onActors_account (@tellOrder_executes answer caps
      ready drained.booked.rest empty message) world) ?_)
    rintro failure after ⟨next, plain | refused, world⟩
    · exact .inl plain
    · exact .inr ⟨next, refused.later drained, world⟩
  refine submitted.bind ?_
  rintro _ sent ⟨done, ⟨drainedAgain, messages, executed, listed⟩, world⟩
  have fills : done.orderManager.fills.drop count = messages.map (·.fill) := by
    rw [listed, counts, List.drop_left]
  have read := onActors_account (askFillsSince_ends drainedAgain count) world
  refine (read.mono_failed fun _ _ holds => (holds.at).elim).bind ?_
  rintro found seen ⟨_, ⟨same, answered⟩, unchanged⟩
  rw [same] at unchanged
  have asked := onActors_account (askOrder_ends drainedAgain
    ((intentProcessor deps context).orderId orderNumber)) unchanged
  refine (asked.mono_failed fun _ _ holds => .inl holds.at).bind ?_
  rintro order last ⟨_, kept, world⟩
  rw [kept] at world
  exact Ends.pure ⟨done, ⟨messages, drained.trans executed, answered.trans fills⟩, world⟩

theorem processPlans_answers (riskState : RiskStateSnapshot) (plans : List OrderPlan)
    (rest : Idle partition) (orderNumber : Nat)
    (world : state.world = Function.update base accountId partition) :
    Ends (fun processed after => Holds base accountId (Answers answer caps partition
          ((intentProcessor deps context).planRequests request riskState plans orderNumber)
          processed.fills) after.world)
      (fun failure after => failure.Plain ∨ Holds base accountId (RefusedAt answer caps partition
          ((intentProcessor deps context).planRequests request riskState plans orderNumber)
          failure) after.world)
      ((intentProcessor deps context).processPlans (actorsOf answer caps accountId)
        request riskState plans orderNumber) state := by
  induction plans generalizing partition orderNumber state with
  | nil => exact Ends.pure ⟨partition, .nothing rest, world⟩
  | cons plan plans ih =>
    unfold processPlans planRequests
    refine ((processOrderDelta_answers rest riskState plan orderNumber
        world).mono_failed ?_).bind ?_
    · rintro failure after (plain | refused)
      · exact .inl plain
      · exact .inr (refused.mono fun _ refused => refused.append _)
    rintro processed between ⟨next, ⟨messages, executed, fills⟩, world⟩
    refine ((ih executed.booked.rest (orderNumber + 1) world).mono_failed ?_).bind ?_
    · rintro failure after (plain | refused)
      · exact .inl plain
      · exact .inr (refused.mono fun _ refused => refused.later executed)
    rintro others after ⟨last, ⟨more, taken, listed⟩, world⟩
    refine Ends.pure ⟨last, ⟨messages ++ more, executed.trans taken, ?_⟩, world⟩
    rw [List.map_append, ← fills, ← listed]
    rfl

theorem preparePlans_answers (proc : TargetIntentProcessor) (rest : Idle partition)
    (world : state.world = Function.update base accountId partition) :
    Ends (fun _ after => Holds base accountId (Executed answer caps partition [] []) after.world)
      (fun _ after => Holds base accountId (Executed answer caps partition [] []) after.world)
      (proc.preparePlans (actorsOf answer caps accountId) request) state := by
  unfold preparePlans
  split
  · exact Ends.throw ⟨partition, .refl rest, world⟩
  have asked := onActors_account (@Idle.askAccountSnapshot caps partition rest) world
  refine (asked.mono_failed fun _ _ holds => (holds.at).elim).bind ?_
  rintro snapshot shown ⟨_, ⟨_, rfl⟩, world⟩
  have executed : Holds base accountId (Executed answer caps partition [] []) shown.world :=
    ⟨_, rest.listed, world⟩
  -- The rest is computed from the snapshot and leaves the actors alone.
  have keeps : Keeps (fun state : IntentProcessing AccountWorld =>
      Holds base accountId (Executed answer caps partition [] []) state.world)
      (do
        let riskState ← proc.riskState request snapshot
        let plans ← orRaise (proc.orderPlans request ‹AccountId› snapshot riskState)
        return (riskState, plans)) := by
    unfold TargetIntentProcessor.riskState
    refine .bind ?_ fun riskState => .bind (keeps_orRaise _ _) fun plans => .pure _
    refine .bind (keeps_orRaise _ _) fun marks => .bind (keeps_orRaise _ _) fun multipliers =>
      .bind (.get fun state holds => ?_) fun pnl => .pure _
    split
    · exact .pure _
    · exact .bind (.modify fun _ kept => kept) fun _ => .pure _
  exact keeps.ends executed

/-- An intent that is processed answers the fills that its account has taken; one that raises a
refusal for a capability has prepared no plans, or has been refused the order of a plan. -/
theorem processIntent_answers (rest : Idle partition) (orderNumber : Nat)
    (world : state.world = Function.update base accountId partition) :
    Ends (fun processed after => ∃ riskState plans,
        (intentProcessor deps context).prepared (actorsOf answer caps accountId) request
          state = some (riskState, plans) ∧
        Holds base accountId (Answers answer caps partition
          ((intentProcessor deps context).planRequests request riskState plans orderNumber)
          processed.fills) after.world)
      (fun failure after => failure.Plain ∨
        Holds base accountId (Executed answer caps partition [] []) after.world ∨
        ∃ riskState plans,
          (intentProcessor deps context).prepared (actorsOf answer caps accountId)
            request state = some (riskState, plans) ∧
          Holds base accountId (RefusedAt answer caps partition
            ((intentProcessor deps context).planRequests request riskState plans
              orderNumber) failure) after.world)
      ((intentProcessor deps context).processIntent (actorsOf answer caps accountId)
        request orderNumber) state := by
  have prepares := @preparePlans_answers request answer caps base accountId partition state
    (intentProcessor deps context) rest world
  unfold processIntent prepared
  cases ran : ((intentProcessor deps context).preparePlans
      (actorsOf answer caps accountId) request).run state with
  | error failure after =>
    have raised := prepares.of_raise ran
    exact .of_error (bind_run_error ran) (.inr (.inl raised))
  | ok begun middle =>
    obtain ⟨riskState, plans⟩ := begun
    obtain ⟨next, executed, world⟩ := prepares.of_run ran
    have processes := @processPlans_answers request answer caps base accountId next middle
      deps context riskState plans executed.booked.rest orderNumber world
    unfold Ends at processes ⊢
    rw [bind_run_ok ran]
    cases finished : ((intentProcessor deps context).processPlans
        (actorsOf answer caps accountId) request riskState plans orderNumber).run middle with
    | ok processed last =>
      rw [finished] at processes
      refine ⟨riskState, plans, rfl, processes.mono ?_⟩
      rintro _ ⟨messages, taken, fills⟩
      exact ⟨messages, executed.trans taken, fills⟩
    | error failure last =>
      rw [finished] at processes
      rcases processes with plain | refused
      · exact .inl plain
      · exact .inr (.inr ⟨riskState, plans, rfl, refused.mono fun _ late => late.later executed⟩)

end Loop

end TargetIntentProcessor

end Qts
