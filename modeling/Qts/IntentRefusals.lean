import Qts.IntentFills

/-! # Refusals of an intent's orders -/

namespace Qts

open RaisingCalls PythonText List

namespace OrderPlanBuilder

variable {context : RuntimeInstrumentContext} {intent : TargetIntent} {accountId : AccountId}
  {bar : Bar} {aggregationDecisionId : Option String}

theorem closingPlans_orderSpec {target : InstrumentId} {related : List InstrumentId}
    {items : List (InstrumentId × Holding)} {plans : List OrderPlan}
    (built : closingPlans context intent accountId bar aggregationDecisionId target related items =
      .ok plans) {plan : OrderPlan} (mem : plan ∈ plans) : plan.orderSpec = intent.orderSpec := by
  induction items generalizing plans with
  | nil =>
    cases built
    cases mem
  | cons item items ih =>
    unfold closingPlans at built
    split at built
    · exact ih built mem
    · obtain ⟨marketPrice, _, built⟩ := bind_inv built
      obtain ⟨later, rest, built⟩ := bind_inv built
      cases built
      rcases mem_cons.mp mem with rfl | tail
      · rfl
      · exact ih rest tail

theorem build_orderSpec {positions : Dict InstrumentId Holding} {plans : List OrderPlan}
    {accountEquity : Option Decimal} {multiplier : Decimal}
    (built : build context intent accountId bar aggregationDecisionId positions accountEquity
      multiplier = .ok plans) {plan : OrderPlan} (mem : plan ∈ plans) :
    plan.orderSpec = intent.orderSpec := by
  obtain ⟨target, closing, marketPrice, desired, _, rolled, _, _, rfl⟩ := build_inv built
  rcases mem_append.mp mem with closes | opens
  · unfold rollPlans at rolled
    split at rolled
    · obtain ⟨related, _, rolled⟩ := bind_inv rolled
      exact closingPlans_orderSpec rolled closes
    · cases rolled
      cases closes
  · split at opens
    · cases opens
    · obtain rfl := mem_singleton.mp opens
      rfl

end OrderPlanBuilder

def ExecutionRequest.Executes (orderSpec : OrderSpec) : ExecutionRequest → Prop
  | .execute intent _ _ _ _ _ _ => intent.orderSpec = orderSpec
  | _ => False

namespace TargetIntentProcessor

variable {proc : TargetIntentProcessor} {req : IntentRequest}
  {riskState : RiskStateSnapshot} {orderNumber : Nat}

theorem submission_orderSpec {plan : OrderPlan} {decision : RiskDecision} {msg : SubmitOrder}
    (built : proc.submission req plan decision orderNumber = .ok msg) :
    msg.intent.orderSpec = plan.orderSpec := by
  unfold submission at built
  obtain ⟨orderIntent, created, rest⟩ := bind_inv built
  have fields := OrderIntent.create_fields created
  split at rest
  · cases rest
  · obtain rfl := Except.ok.inj rest
    exact congrArg (·.orderSpec) fields

variable {asked : ExecutionRequest}

theorem planRequest_executes {plan : OrderPlan}
    (leads : proc.planRequest req riskState plan orderNumber = some asked) :
    asked.Executes plan.orderSpec := by
  unfold planRequest at leads
  split at leads
  · cases leads
  split at leads
  · cases leads
  · next decision _ =>
    split at leads
    · cases built : proc.submission req plan decision orderNumber with
      | error failure =>
        rw [built] at leads
        cases leads
      | ok msg =>
        rw [built] at leads
        cases leads
        exact submission_orderSpec built
    · cases leads

theorem planRequests_executes {orderSpec : OrderSpec} {plans : List OrderPlan}
    (same : ∀ plan ∈ plans, plan.orderSpec = orderSpec)
    (mem : asked ∈ proc.planRequests req riskState plans orderNumber) :
    asked.Executes orderSpec := by
  induction plans generalizing orderNumber with
  | nil => cases mem
  | cons plan plans ih =>
    rcases mem_append.mp mem with first | later
    · rw [← same plan mem_cons_self]
      exact planRequest_executes (Option.mem_toList.mp first)
    · exact ih (fun other listed => same other (mem_cons_of_mem _ listed)) later

theorem prepared_executes {World : Type} {actors : PartitionActors World}
    {state : IntentProcessing World} {plans : List OrderPlan}
    (prepared : proc.prepared actors req state = some (riskState, plans))
    (mem : asked ∈ proc.planRequests req riskState plans orderNumber) :
    asked.Executes req.intent.orderSpec := by
  refine planRequests_executes (fun plan listed => ?_) mem
  obtain ⟨accountId, snapshot, world, _, _, ordered⟩ := prepared_inv prepared
  obtain ⟨target, _, ordered⟩ := bind_inv ordered
  obtain ⟨multiplier, _, built⟩ := bind_inv ordered
  exact OrderPlanBuilder.build_orderSpec built listed

end TargetIntentProcessor

namespace SimulatedExecutionAdapter

structure Supports (capabilities : BrokerCapabilities) (orderSpec : OrderSpec) : Prop where
  orderType : capabilities.supportsOrderType orderSpec.orderType = true
  timeInForce : capabilities.supportsTif orderSpec.timeInForce = true

theorem plain_of_contains {msg : String}
    (absent : contains msg "not supported by broker capabilities" = false) :
    (Failure.valueError msg).Plain :=
  fun _ => absent

variable {failure : Failure} {intent : OrderIntent}

theorem plain_validateOrder {capabilities : BrokerCapabilities}
    (supports : Supports capabilities intent.orderSpec)
    (refused : validateOrder capabilities intent = .error failure) : failure.Plain := by
  unfold validateOrder at refused
  split at refused
  · cases refused
  · next msg failed =>
    obtain rfl := Except.error.inj refused
    obtain ⟨check, mem, failing, rfl⟩ := Check.firstFailure_eq_some failed
    have absent : ∀ text ∈ ["fractional quantity is not supported", "quantity must be positive",
        "quantity is below minimum order quantity", "quantity exceeds max order quantity",
        "quantity does not conform to broker lot size"],
        contains text "not supported by broker capabilities" = false := by
      decide +kernel
    have others : check.message ∈ ["fractional quantity is not supported",
        "quantity must be positive", "quantity is below minimum order quantity",
        "quantity exceeds max order quantity",
        "quantity does not conform to broker lot size"] := by
      simp only [orderChecks, BrokerCapabilities.quantityChecks, cons_append, nil_append,
        mem_cons, not_mem_nil, or_false] at mem
      rcases mem with rfl | rfl | rfl | rfl | rfl | rfl | rfl
      · simp [supports.orderType] at failing
      · simp [supports.timeInForce] at failing
      all_goals simp
    exact plain_of_contains (absent check.message others)

theorem validateOrder_supports {capabilities : BrokerCapabilities}
    (passed : validateOrder capabilities intent = .ok ()) :
    Supports capabilities intent.orderSpec := by
  unfold validateOrder at passed
  split at passed
  · next none =>
    have all := (Check.firstFailure_none _).mp none
    constructor
    · simpa using all _ (mem_append_left _ mem_cons_self)
    · simpa using all _ (mem_append_left _ (mem_cons_of_mem _ mem_cons_self))
  · cases passed

theorem plain_report {fields : ExecutionReportFields} (refused : report fields = .error failure) :
    failure.Plain := by
  unfold report ExecutionReport.create at refused
  split at refused
  · cases refused
  · next msg failed =>
    obtain rfl := Except.error.inj refused
    obtain ⟨check, mem, _, rfl⟩ := Check.firstFailure_eq_some failed
    have absent : ∀ text ∈ ["report_id must not be empty", "broker_order_id must not be empty",
        "filled_quantity must be non-negative", "commission must be non-negative",
        "slippage must be non-negative",
        "reason_code is required for rejected execution reports",
        "failure_reason is required for rejected execution reports"],
        contains text "not supported by broker capabilities" = false := by
      decide +kernel
    exact plain_of_contains (absent _ (mem_map_of_mem mem))

theorem plain_evaluateFill {marketPrice barHigh barLow : Decimal}
    (refused : evaluateFill intent marketPrice barHigh barLow = .error failure) :
    failure.Plain := by
  unfold evaluateFill at refused
  split at refused
  · cases refused
  · cases refused
  · unfold evaluateLimit at refused
    split at refused
    · obtain rfl := Except.error.inj refused
      exact plain_valueError (by decide)
    · split at refused <;> cases refused
  · unfold evaluateStop at refused
    split at refused
    · obtain rfl := Except.error.inj refused
      exact plain_valueError (by decide)
    · split at refused <;> cases refused
  · unfold evaluateStopLimit at refused
    split at refused
    · split at refused <;> cases refused
    · obtain rfl := Except.error.inj refused
      exact plain_valueError (by decide)
  · cases refused

variable {adapter : SimulatedExecutionAdapter} {orderSpec : OrderSpec}

theorem answer_supports {asked : ExecutionRequest} (executes : asked.Executes orderSpec)
    (answered : (adapter.answer asked).isOk = true) :
    orderSpec.orderType ∈ unsupportedSimOrderTypes ∨ Supports adapter.capabilities orderSpec := by
  cases asked with
  | execute intent brokerOrderId marketPrice accountId strategyId routeMetadata barTime =>
    obtain rfl : intent.orderSpec = orderSpec := executes
    rw [answer] at answered
    unfold executeMarketOrder at answered
    split at answered
    · cases answered
    split at answered
    · next unsupported => exact .inl unsupported
    · cases validated : validateOrder adapter.capabilities intent with
      | ok value => exact .inr (validateOrder_supports validated)
      | error failure =>
        rw [validated] at answered
        cases answered
  | cancel => cases executes
  | replace => cases executes

theorem answer_plain {asked : ExecutionRequest} (executes : asked.Executes orderSpec)
    (supports : orderSpec.orderType ∈ unsupportedSimOrderTypes ∨
      Supports adapter.capabilities orderSpec) (refused : adapter.answer asked = .error failure) :
    failure.Plain := by
  cases asked with
  | execute intent brokerOrderId marketPrice accountId strategyId routeMetadata barTime =>
    obtain rfl : intent.orderSpec = orderSpec := executes
    rw [answer] at refused
    unfold executeMarketOrder at refused
    split at refused
    · cases refused
      exact plain_of_contains (by decide +kernel)
    split at refused
    · exact plain_report refused
    · next supported =>
      have covered := supports.resolve_left supported
      rcases bind_error refused with invalid | ⟨_, _, refused⟩
      · exact plain_validateOrder covered invalid
      rcases bind_error refused with unbounded | ⟨range, _, refused⟩
      · cases unbounded
      rcases bind_error refused with undecided | ⟨decision, _, refused⟩
      · exact plain_evaluateFill undecided
      · split at refused
        · exact plain_report refused
        · exact plain_report refused
  | cancel => cases executes
  | replace => cases executes

theorem plain_of_answered {first second : ExecutionRequest}
    (firstExecutes : first.Executes orderSpec) (secondExecutes : second.Executes orderSpec)
    (answered : (adapter.answer first).isOk = true)
    (refused : adapter.answer second = .error failure) : failure.Plain :=
  answer_plain secondExecutes (answer_supports firstExecutes answered) refused

end SimulatedExecutionAdapter

end Qts
