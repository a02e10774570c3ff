import Qts.IntentProcessing

/-! # What processing an intent submits -/

namespace Qts

namespace TargetIntentProcessor

open RaisingCalls

variable (proc : TargetIntentProcessor)

def approves (request : IntentRequest) (riskState : RiskStateSnapshot) (plan : OrderPlan) : Bool :=
  decide (plan.quantityDelta ≠ 0) &&
    match proc.riskDecision request riskState plan with
    | .ok decision => decision.approved
    | .error _ => false

inductive Submitted (request : IntentRequest) (riskState : RiskStateSnapshot) :
    List OrderPlan → Nat → List SubmitOrder → Prop
  | stopped (plans : List OrderPlan) (orderNumber : Nat) :
      Submitted request riskState plans orderNumber []
  | passed {plan : OrderPlan} {plans : List OrderPlan} {orderNumber : Nat}
      {messages : List SubmitOrder}
      (refused : proc.approves request riskState plan = false)
      (rest : Submitted request riskState plans (orderNumber + 1) messages) :
      Submitted request riskState (plan :: plans) orderNumber messages
  | taken {plan : OrderPlan} {plans : List OrderPlan} {orderNumber : Nat}
      {decision : RiskDecision} {message : SubmitOrder} {messages : List SubmitOrder}
      (approved : proc.approves request riskState plan = true)
      (built : proc.submission request plan decision orderNumber = .ok message)
      (rest : Submitted request riskState plans (orderNumber + 1) messages) :
      Submitted request riskState (plan :: plans) orderNumber (message :: messages)

variable {proc} {request : IntentRequest} {riskState : RiskStateSnapshot}

theorem submission_fields {plan : OrderPlan} {decision : RiskDecision} {orderNumber : Nat}
    {message : SubmitOrder}
    (built : proc.submission request plan decision orderNumber = .ok message) :
    message.intent.orderId = proc.orderId orderNumber ∧
      message.brokerOrderId = proc.brokerOrderId orderNumber ∧
      message.intent.instrumentId = plan.instrumentId ∧
      message.marketPrice = plan.marketPrice := by
  unfold submission at built
  obtain ⟨orderIntent, created, rest⟩ := bind_inv built
  have fields := OrderIntent.create_fields created
  split at rest
  · cases rest
  · obtain rfl := Except.ok.inj rest
    exact ⟨congrArg (·.orderId) fields, rfl, congrArg (·.instrumentId) fields, rfl⟩

theorem Submitted.of_plan {plans : List OrderPlan} {orderNumber : Nat} {messages : List SubmitOrder}
    (submitted : proc.Submitted request riskState plans orderNumber messages)
    {message : SubmitOrder} (mem : message ∈ messages) :
    ∃ (index : Nat) (plan : OrderPlan) (decision : RiskDecision), plans[index]? = some plan ∧
      proc.approves request riskState plan = true ∧
      proc.submission request plan decision (orderNumber + index) = .ok message := by
  induction submitted with
  | stopped => cases mem
  | passed refused rest ih =>
    obtain ⟨index, plan, decision, found, approved, built⟩ := ih mem
    rw [Nat.add_right_comm, Nat.add_assoc] at built
    exact ⟨index + 1, plan, decision, found, approved, built⟩
  | taken approved built rest ih =>
    rcases List.mem_cons.mp mem with rfl | later
    · exact ⟨0, _, _, rfl, approved, built⟩
    · obtain ⟨index, plan, decision, found, approvedLater, builtLater⟩ := ih later
      rw [Nat.add_right_comm, Nat.add_assoc] at builtLater
      exact ⟨index + 1, plan, decision, found, approvedLater, builtLater⟩

variable {World : Type} {actors : PartitionActors World}

inductive DeltaOutcome (proc : TargetIntentProcessor) (request : IntentRequest)
    (riskState : RiskStateSnapshot) (plan : OrderPlan) (orderNumber : Nat)
    (log : List SubmitOrder) :
    EStateM.Result Failure (IntentProcessing World) ProcessedIntent → Prop
  | refused (refusal : proc.approves request riskState plan = false)
      {processed : ProcessedIntent} (none : processed.orders = [])
      {after : IntentProcessing World} (kept : after.submitted = log) :
      DeltaOutcome proc request riskState plan orderNumber log (.ok processed after)
  | failed (failure : Failure) {after : IntentProcessing World}
      (kept : after.submitted = log) :
      DeltaOutcome proc request riskState plan orderNumber log (.error failure after)
  | placed (approved : proc.approves request riskState plan = true)
      {decision : RiskDecision} {message : SubmitOrder}
      (built : proc.submission request plan decision orderNumber = .ok message)
      {processed : ProcessedIntent} (one : processed.orders.length = 1)
      {after : IntentProcessing World} (told : after.submitted = log ++ [message]) :
      DeltaOutcome proc request riskState plan orderNumber log (.ok processed after)
  | interrupted (approved : proc.approves request riskState plan = true)
      {decision : RiskDecision} {message : SubmitOrder}
      (built : proc.submission request plan decision orderNumber = .ok message)
      (failure : Failure) {after : IntentProcessing World}
      (told : after.submitted = log ++ [message]) :
      DeltaOutcome proc request riskState plan orderNumber log (.error failure after)

theorem submit_told (message : SubmitOrder) (state : IntentProcessing World) :
    (endState ((submit actors message).run state)).submitted = state.submitted ++ [message] := by
  have told := keeps_onActors (state.submitted ++ [message]) (actors.submitOrder message)
  exact told { state with submitted := state.submitted ++ [message] } rfl

theorem processOrderDelta_outcome (plan : OrderPlan) (orderNumber : Nat)
    (state : IntentProcessing World) :
    DeltaOutcome proc request riskState plan orderNumber state.submitted
      ((proc.processOrderDelta actors request riskState plan orderNumber).run state) := by
  unfold processOrderDelta
  split
  · next flat => exact .refused (by simp [approves, flat]) rfl rfl
  next moved =>
  cases decided : proc.riskDecision request riskState plan with
  | error failure => exact .failed failure rfl
  | ok decision =>
    rw [bind_run_ok (orRaise_ok decision state)]
    cases approval : decision.approved with
    | false => exact .refused (by simp [approves, decided, approval]) rfl rfl
    | true =>
      have approved : proc.approves request riskState plan = true := by
        simp [approves, moved, decided, approval]
      simp only [Bool.not_true, Bool.false_eq_true, if_false]
      rcases onActors_cases actors.fillCount state with ⟨count, world, ran⟩ | ⟨failure, world, ran⟩
      · rw [bind_run_ok ran]
        cases built : proc.submission request plan decision orderNumber with
        | error failure => exact .failed failure rfl
        | ok message =>
          rw [bind_run_ok (orRaise_ok message _)]
          have told : (endState ((submit actors message).run { state with world })).submitted =
              state.submitted ++ [message] := submit_told message _
          cases sent : (submit actors message).run { state with world } with
          | error failure after =>
            rw [bind_run_error sent]
            rw [sent] at told
            exact .interrupted approved built failure told
          | ok done middle =>
            rw [bind_run_ok sent]
            rw [sent] at told
            rcases onActors_cases (actors.fillsSince count) middle with
              ⟨fills, later, read⟩ | ⟨failure, later, read⟩
            · rw [bind_run_ok read]
              rcases onActors_cases (actors.order (proc.orderId orderNumber))
                  { middle with world := later } with
                ⟨order, last, found⟩ | ⟨failure, last, found⟩
              · rw [bind_run_ok found]
                exact .placed approved built rfl told
              · rw [bind_run_error found]
                exact .interrupted approved built failure told
            · rw [bind_run_error read]
              exact .interrupted approved built failure told
      · rw [bind_run_error ran]
        exact .failed failure rfl

/-- Whether a call returned or raised, it told these submissions, one for each order returned. -/
def Tells (log : List SubmitOrder)
    (result : EStateM.Result Failure (IntentProcessing World) ProcessedIntent)
    (messages : List SubmitOrder) : Prop :=
  (endState result).submitted = log ++ messages ∧
    ∀ processed after, result = .ok processed after → processed.orders.length = messages.length

theorem Tells.after {log told messages : List SubmitOrder} {processed : ProcessedIntent}
    (one : processed.orders.length = told.length) {state : IntentProcessing World}
    (before : state.submitted = log ++ told) {call : ProcessingCall World ProcessedIntent}
    (rest : Tells state.submitted (call.run state) messages) :
    Tells log ((call >>= fun next => pure (processed.append next)).run state)
      (told ++ messages) := by
  rw [before, Tells, List.append_assoc] at rest
  cases ran : call.run state with
  | error failure after =>
    rw [ran] at rest
    rw [bind_run_error ran]
    exact ⟨rest.1, nofun⟩
  | ok next after =>
    rw [ran] at rest
    rw [bind_run_ok ran]
    refine ⟨rest.1, ?_⟩
    rintro _ _ ⟨⟩
    rw [ProcessedIntent.append, List.length_append, List.length_append, one, rest.2 next after rfl]

theorem processPlans_tells (plans : List OrderPlan) (orderNumber : Nat)
    (state : IntentProcessing World) :
    ∃ messages, proc.Submitted request riskState plans orderNumber messages ∧
      Tells state.submitted
        ((proc.processPlans actors request riskState plans orderNumber).run state)
        messages := by
  induction plans generalizing orderNumber state with
  | nil =>
    refine ⟨[], .stopped _ _, (List.append_nil _).symm, ?_⟩
    intro processed after ran
    cases ran
    rfl
  | cons plan plans ih =>
    have outcome : DeltaOutcome proc request riskState plan orderNumber state.submitted
        ((proc.processOrderDelta actors request riskState plan orderNumber).run state) :=
      processOrderDelta_outcome plan orderNumber state
    unfold processPlans
    generalize ran :
      (proc.processOrderDelta actors request riskState plan orderNumber).run state = result
      at outcome
    cases outcome with
    | @refused refusal processed none after kept =>
      obtain ⟨messages, submitted, tells⟩ := ih (orderNumber + 1) _
      rw [bind_run_ok ran]
      have one : processed.orders.length = ([] : List SubmitOrder).length := by rw [none]; rfl
      exact ⟨messages, .passed refusal submitted, tells.after one (by rw [kept, List.append_nil])⟩
    | failed failure kept =>
      rw [bind_run_error ran]
      exact ⟨[], .stopped _ _, by rw [endState_error, kept, List.append_nil], nofun⟩
    | placed approved built one told =>
      obtain ⟨messages, submitted, tells⟩ := ih (orderNumber + 1) _
      rw [bind_run_ok ran]
      exact ⟨_ :: messages, .taken approved built submitted, tells.after one told⟩
    | interrupted approved built failure told =>
      rw [bind_run_error ran]
      exact ⟨[_], .taken approved built (.stopped _ _), told, nofun⟩

theorem keeps_intradayPnl (log : List SubmitOrder) (snapshot : AccountSnapshot)
    (marks multipliers : DecimalMap) :
    Keeps (fun state : IntentProcessing World => state.submitted = log)
      (intradayPnl request snapshot marks multipliers) := by
  refine .get fun state holds => ?_
  split
  · exact .pure _
  · exact .bind (.modify fun _ kept => kept) fun _ => .pure _

theorem keeps_preparePlans (log : List SubmitOrder) :
    Keeps (fun state : IntentProcessing World => state.submitted = log)
      (proc.preparePlans actors request) := by
  unfold preparePlans riskState
  split
  · exact .throw _
  · refine .bind (keeps_onActors _ _) fun snapshot => .bind ?_ fun riskState => ?_
    · exact .bind (keeps_orRaise _ _) fun marks => .bind (keeps_orRaise _ _) fun multipliers =>
        .bind (keeps_intradayPnl _ _ _ _) fun pnl => .pure _
    · exact .bind (keeps_orRaise _ _) fun plans => .pure _

def prepared (proc : TargetIntentProcessor) (actors : PartitionActors World)
    (request : IntentRequest) (state : IntentProcessing World) :
    Option (RiskStateSnapshot × List OrderPlan) :=
  match (proc.preparePlans actors request).run state with
  | .ok start _ => some start
  | .error _ _ => none

theorem processIntent_tells (proc : TargetIntentProcessor) (actors : PartitionActors World)
    (request : IntentRequest) (orderNumber : Nat) (state : IntentProcessing World) :
    ∃ messages, Tells state.submitted
        ((proc.processIntent actors request orderNumber).run state) messages ∧
      (messages = [] ∨ ∃ riskState plans,
        proc.prepared actors request state = some (riskState, plans) ∧
          proc.Submitted request riskState plans orderNumber messages) := by
  have kept : (endState ((proc.preparePlans actors request).run state)).submitted =
      state.submitted := keeps_preparePlans state.submitted state rfl
  unfold processIntent prepared
  cases ran : (proc.preparePlans actors request).run state with
  | error failure after =>
    rw [ran] at kept
    rw [bind_run_error ran]
    exact ⟨[], ⟨kept.trans (List.append_nil _).symm, nofun⟩, .inl rfl⟩
  | ok start middle =>
    obtain ⟨riskState, plans⟩ := start
    rw [ran, endState_ok] at kept
    rw [bind_run_ok ran, ← kept]
    obtain ⟨messages, submitted, tells⟩ := processPlans_tells plans orderNumber middle
    exact ⟨messages, tells, .inr ⟨riskState, plans, rfl, submitted⟩⟩

end TargetIntentProcessor

end Qts
