import Qts.BacktestActorLoop
import Qts.BrokerPartition
import Qts.OrderManagerRecall

/-! # Orders of a run have ids of their own -/

namespace Qts

open Dict StepRuns SimulatedExecutionAdapter BacktestActorLoop RaisingCalls List

/-- What a session holds for one account. -/
structure AccountRuntimePartition (World : Type) where
  riskEngine : RiskEngine
  brokerId : BrokerId
  actors : PartitionActors World

structure RuntimeSessionDependencies (World : Type) where
  partition : Option AccountId → Option (AccountRuntimePartition World)
  multiplierFor : InstrumentId → Except Failure Decimal
  orderIdPrefix : String := "live"
  marginCalculator : Option MarginCalculator := none
  requiresLiveMarketDataRisk : Bool := false
  prefixShown : PythonText.isBlank orderIdPrefix = false

structure RuntimeSession (World : Type) where
  orderSequence : Nat := 0
  instrumentContext : RuntimeInstrumentContext := {}
  intradayPnl : Option AccountId → IntradayPnlCalculator := fun _ => {}
  world : World
  submitted : List SubmitOrder := []

/-- What happens to a session: an intent, new market data, or anything else among the actors. -/
inductive SessionEvent (World : Type)
  | intent (accountId : Option AccountId) (request : IntentRequest)
  | marketData (instrumentContext : RuntimeInstrumentContext)
  | actors (change : World → World)

namespace RuntimeSession

variable {World : Type} (deps : RuntimeSessionDependencies World)

def intentProcessor (instrumentContext : RuntimeInstrumentContext)
    (partition : AccountRuntimePartition World) : TargetIntentProcessor where
  riskEngine :=
    if deps.requiresLiveMarketDataRisk then partition.riskEngine.requiringLiveMarketData
    else partition.riskEngine
  instrumentContext := instrumentContext
  multiplierFor := deps.multiplierFor
  brokerId := partition.brokerId
  orderIdPrefix := deps.orderIdPrefix
  brokerOrderIdPrefix := deps.orderIdPrefix
  marginCalculator := deps.marginCalculator
  orderIdPrefixShown := deps.prefixShown
  brokerOrderIdPrefixShown := deps.prefixShown

def processing (session : RuntimeSession World) (accountId : Option AccountId) :
    IntentProcessing World where
  world := session.world
  intradayPnl := some (session.intradayPnl accountId)
  submitted := session.submitted

def processed (session : RuntimeSession World) (accountId : Option AccountId)
    (after : IntentProcessing World) : RuntimeSession World :=
  { session with
    world := after.world
    intradayPnl := Function.update session.intradayPnl accountId (after.intradayPnl.getD {})
    submitted := after.submitted }

def runIntent (session : RuntimeSession World) (partition : AccountRuntimePartition World)
    (accountId : Option AccountId) (request : IntentRequest) :
    EStateM.Result Failure (IntentProcessing World) ProcessedIntent :=
  let proc := intentProcessor deps session.instrumentContext partition
  (proc.processIntent partition.actors request session.orderSequence).run
    (session.processing accountId)

def processIntent (session : RuntimeSession World) (accountId : Option AccountId)
    (request : IntentRequest) : Except Failure ProcessedIntent × RuntimeSession World :=
  let advanced := { session with orderSequence := session.orderSequence + 1 }
  match deps.partition accountId with
  | none =>
    (.error (.valueError ("missing intent processor for account: " ++
      (request.accountId.map fun account => account.value).getD "None")), advanced)
  | some partition =>
    let result := advanced.runIntent deps partition accountId request
    ((answer .ok .error result).1, advanced.processed accountId (endState result))

def step : Step (RuntimeSession World) (SessionEvent World)
    (Except Failure ProcessedIntent)
  | session, .intent accountId request => session.processIntent deps accountId request
  | session, .marketData instrumentContext =>
    (.ok {}, { session with instrumentContext })
  | session, .actors change => (.ok {}, { session with world := change session.world })

/-- The risk engine approves no plan of an intent beyond the first. -/
def FirstPlanOnly (session : RuntimeSession World) : SessionEvent World → Prop
  | .intent accountId request =>
    ∀ partition riskState plans, deps.partition accountId = some partition →
      let proc := intentProcessor deps session.instrumentContext partition
      proc.prepared partition.actors request (session.processing accountId) =
          some (riskState, plans) →
        proc.FirstPlanOnly request riskState plans
  | _ => True

variable {deps}

def Numbered (deps : RuntimeSessionDependencies World) (session : RuntimeSession World) :
    Prop :=
  NumberedUpTo deps.orderIdPrefix deps.orderIdPrefix session.submitted
    session.orderSequence

theorem processIntent_numbered {session : RuntimeSession World}
    (numbered : session.Numbered deps) {accountId : Option AccountId}
    {request : IntentRequest}
    (first : session.FirstPlanOnly deps (.intent accountId request)) :
    (session.processIntent deps accountId request).2.Numbered deps := by
  unfold processIntent
  cases found : deps.partition accountId with
  | none => exact numbered.mono (Nat.le_succ _)
  | some partition =>
    obtain ⟨messages, tells, source⟩ := TargetIntentProcessor.processIntent_tells
      (intentProcessor deps session.instrumentContext partition) partition.actors
      request (session.orderSequence + 1) (session.processing accountId)
    have log : (endState
        (runIntent deps { session with orderSequence := session.orderSequence + 1 }
          partition accountId request)).submitted = session.submitted ++ messages := tells.1
    unfold Numbered
    dsimp only [processed]
    rw [log]
    rcases source with none | ⟨riskState, plans, prepared, submitted⟩
    · rw [none, append_nil]
      exact numbered.mono (Nat.le_succ _)
    · have only := first partition riskState plans found prepared
      refine (numbered.extend (submitted.carries only.approvedFirst)).mono ?_
      exact Nat.add_le_add_left (submitted.length_le_one only) _

theorem step_numbered (session : RuntimeSession World) (event : SessionEvent World)
    (numbered : session.Numbered deps) (first : session.FirstPlanOnly deps event) :
    (step deps session event).2.Numbered deps := by
  cases event with
  | marketData instrumentContext => exact numbered
  | actors change => exact numbered
  | intent accountId request => exact processIntent_numbered numbered first

theorem run_numbered {session : RuntimeSession World} (numbered : session.Numbered deps)
    {events : List (SessionEvent World)}
    (first : EveryStep (step deps) (FirstPlanOnly deps) session events) :
    (final (step deps) session events).Numbered deps :=
  final_invariant_of_everyStep step_numbered numbered first

end RuntimeSession

namespace OrderManagerActor

def submissions (messages : List OrderManagerMessage) : List SubmitOrder :=
  messages.filterMap fun
    | .submit message => some message
    | _ => none

def executionReports (messages : List OrderManagerMessage) : List ExecutionReport :=
  messages.filterMap fun
    | .report report => some report
    | _ => none

/-- What an order manager is told where a simulated broker executes: some of the submissions, and
the broker's answers to requests that execute each submitted broker order at most once. -/
structure ToldOf (adapter : SimulatedExecutionAdapter) (submitted : List SubmitOrder)
    (messages : List OrderManagerMessage) : Prop where
  orders : (submissions messages).Sublist submitted
  answers : ∃ requests : List ExecutionRequest,
    ((requests.filter (·.executes)).map (·.brokerOrderId)).Sublist
        (submitted.map fun message => message.brokerOrderId) ∧
      (executionReports messages).Sublist
        (requests.filterMap fun request => (adapter.answer request).toOption)

end OrderManagerActor

open OrderManagerActor

/-- The submissions of a run have ids of their own, so that an order manager told of them creates
each order beside the tracked ones and takes each simulated fill as new. -/
structure KeptApart (submitted : List SubmitOrder) : Prop where
  fresh : FreshSubmissions submitted
  untracked : ∀ (actor : OrderManagerActor) (messages : List OrderManagerMessage)
    (message : SubmitOrder), actor.manager = .init →
      (submissions (messages ++ [.submit message])).Sublist submitted →
        (final step actor messages).manager.orders.get? message.intent.orderId = none
  unswallowed : ∀ (adapter : SimulatedExecutionAdapter) (actor : OrderManagerActor)
    (messages : List OrderManagerMessage) (report : ExecutionReport) (fillId : String),
      actor.manager = .init → ToldOf adapter submitted (messages ++ [.report report]) →
        report.fillId = some fillId →
          report.reportId ∉ (final step actor messages).manager.seenReportIds ∧
            fillId ∉ (final step actor messages).manager.fillIds.seen

section Apart

variable {submitted : List SubmitOrder} {actor : OrderManagerActor}

theorem run_recalls_init (start : actor.manager = .init) (messages : List OrderManagerMessage) :
    Recalls messages (final step actor messages).manager := by
  have recalls : Recalls [] actor.manager := start ▸ init_recalls []
  exact run_recalls recalls messages

/-- An order under an id of its own is not tracked before it is created. -/
theorem FreshSubmissions.untracked (fresh : FreshSubmissions submitted)
    (start : actor.manager = .init) {messages : List OrderManagerMessage} {message : SubmitOrder}
    (told : (submissions (messages ++ [.submit message])).Sublist submitted) :
    (final step actor messages).manager.orders.get? message.intent.orderId = none := by
  have ids := (told.map fun message => message.intent.orderId).nodup fresh.orderIds
  rw [submissions, filterMap_append, map_append, nodup_append] at ids
  cases tracked : (final step actor messages).manager.orders.get?
      message.intent.orderId with
  | none => rfl
  | some order =>
    obtain ⟨earlier, mem, same⟩ := (run_recalls_init start messages).orders _ order tracked
    have before : earlier ∈ submissions messages := mem_filterMap.mpr ⟨_, mem, rfl⟩
    exact absurd same (ids.2.2 _ (mem_map_of_mem before) _ mem_cons_self)

variable {adapter : SimulatedExecutionAdapter}

theorem replied_ids {request : ExecutionRequest} {report : ExecutionReport}
    (replied : (adapter.answer request).toOption = some report) : AnswerIds request report := by
  cases outcome : adapter.answer request with
  | ok answered =>
    rw [outcome] at replied
    obtain rfl := Option.some.inj replied
    exact answer_ids outcome
  | error failure =>
    rw [outcome] at replied
    cases replied

theorem answers_apart {requests : List ExecutionRequest}
    (distinct : ((requests.filter (·.executes)).map (·.brokerOrderId)).Nodup) :
    (requests.filterMap fun request => (adapter.answer request).toOption).Pairwise
      fun earlier filled => filled.fillId.isSome →
        earlier.reportId ≠ filled.reportId ∧ earlier.fillId ≠ filled.fillId := by
  have orders : requests.Pairwise fun first second => first.executes = true →
      second.executes = true → first.brokerOrderId ≠ second.brokerOrderId := by
    have pairs := pairwise_map.mp distinct
    rw [pairwise_filter] at pairs
    exact pairs
  refine List.Pairwise.filterMap _ ?_ orders
  intro first second ne earlier answered filled replied fill
  exact (replied_ids answered).apart (replied_ids replied) fill ne

theorem FreshSubmissions.unswallowed (fresh : FreshSubmissions submitted)
    (start : actor.manager = .init) {messages : List OrderManagerMessage} {report : ExecutionReport}
    {fillId : String} (told : ToldOf adapter submitted (messages ++ [.report report]))
    (filled : report.fillId = some fillId) :
    report.reportId ∉ (final step actor messages).manager.seenReportIds ∧
      fillId ∉ (final step actor messages).manager.fillIds.seen := by
  obtain ⟨requests, executed, answered⟩ := told.answers
  have apart := (answers_apart (executed.nodup fresh.brokerOrderIds)).sublist answered
  rw [executionReports, filterMap_append, pairwise_append] at apart
  have recalls := run_recalls_init start messages
  have differs : ∀ earlier, .report earlier ∈ messages →
      earlier.reportId ≠ report.reportId ∧ earlier.fillId ≠ report.fillId := by
    intro earlier mem
    have before : earlier ∈ executionReports messages := mem_filterMap.mpr ⟨_, mem, rfl⟩
    exact apart.2.2 earlier before report mem_cons_self (filled ▸ rfl)
  constructor
  · intro seen
    obtain ⟨earlier, mem, same⟩ := recalls.reports _ seen
    exact (differs earlier mem).1 same
  · intro seen
    obtain ⟨earlier, mem, same⟩ := recalls.fillIds _ seen
    exact (differs earlier mem).2 (same.trans filled.symm)

theorem FreshSubmissions.keptApart (fresh : FreshSubmissions submitted) : KeptApart submitted where
  fresh := fresh
  untracked _ _ _ start told := fresh.untracked start told
  unswallowed _ _ _ _ _ start told filled := fresh.unswallowed start told filled

end Apart

/-- Runs of the session in which only an intent's first plan is approved, and runs of the backtest
loop in which the approved plans come first and the broker refuses none of their orders for a
capability, submit orders with ids of their own. -/
theorem submissions_keptApart (World : Type) :
    (∀ (deps : RuntimeSessionDependencies World) (session : RuntimeSession World)
      (events : List (SessionEvent World)),
      session.submitted = [] →
      EveryStep (RuntimeSession.step deps)
        (RuntimeSession.FirstPlanOnly deps) session events →
      KeptApart (final (RuntimeSession.step deps) session events).submitted) ∧
    ∀ (deps : BacktestActorLoopDependencies World) (loop : BacktestActorLoop World)
      (events : List (BacktestEvent World)),
      loop.submitted = [] → loop.unhandled = none →
      EveryStep (step deps)
        (LeadingAndSupported deps) loop events →
      KeptApart (final (step deps) loop events).submitted := by
  constructor
  · intro deps session events start first
    have numbered : session.Numbered deps := by
      rw [RuntimeSession.Numbered, start]
      exact .nil _
    exact (RuntimeSession.run_numbered numbered first).fresh.keptApart
  · intro deps loop events start running condition
    have numbered : loop.Numbered := by
      refine ⟨0, ?_, fun _ => Nat.zero_le _⟩
      rw [start]
      exact .nil _
    obtain ⟨bound, told, _⟩ := run_numbered numbered condition
    exact told.fresh.keptApart

namespace OrderIdentity

def accountOne : AccountId :=
  ⟨⟨"account-1", Eq.refl false⟩⟩

def frontFuture : InstrumentId :=
  ⟨⟨"CONTINUOUS_FUTURE.CME.ES", rfl⟩⟩

def marchContract : InstrumentId :=
  ⟨⟨"FUTURE.CME.ESH", rfl⟩⟩

def juneContract : InstrumentId :=
  ⟨⟨"FUTURE.CME.ESM", rfl⟩⟩

def selection (asOf : DateTime) (contract : InstrumentId) : FutureRollSelection where
  continuousInstrumentId := frontFuture
  rootSymbol := "ES"
  asOf := asOf
  concreteInstrumentId := contract
  sourceSymbol := "ES"
  pricesByInstrument := (empty.set marchContract 10).set juneContract 10
  valid := by
    show Check.firstFailure [⟨PythonText.isBlank "ES", "root_symbol must not be empty"⟩,
      ⟨PythonText.isBlank "ES", "source_symbol must not be empty"⟩] = none
    decide

def rolledRegistry : Except Failure FutureRollRegistry := do
  let (_, registered) ←
    FutureRollRegistry.registerRoot .ascii {} "ES" "CME" [marchContract, juneContract]
  let march ← registered.recordSelection (selection 0 marchContract)
  march.recordSelection (selection 100 juneContract)

def marchBar : Bar where
  instrumentId := frontFuture
  startTime := 0
  endTime := 60
  timeframe := "1m"
  sessionId := "session-1"
  openPrice := 10
  high := 10
  low := 10
  close := 10
  valid := by decide +kernel

def juneBar : Bar where
  instrumentId := frontFuture
  startTime := 100
  endTime := 160
  timeframe := "1m"
  sessionId := "session-1"
  openPrice := 10
  high := 10
  low := 10
  close := 10
  valid := by decide +kernel

def holding (instrumentId : InstrumentId) (quantity : Decimal) (orderSpec : OrderSpec) :
    TargetIntent where
  asset := ⟨instrumentId, "ES", by decide⟩
  intentType := .quantity
  value := some quantity
  intentId := "intent-1"
  orderSpec := orderSpec

/-- A buy order that rests below the market. -/
def limitAtFive : OrderSpec where
  orderType := .limit
  limitPrice := some 5
  valid := OrderSpecFields.limitAtFive_valid

def request (bar : Bar) (intent : TargetIntent) : IntentRequest where
  intent := intent
  bar := bar
  accountId := some accountOne
  strategyId := ⟨⟨"strategy-1", Eq.refl false⟩⟩
  correlationId := ⟨⟨"correlation-1", Eq.refl false⟩⟩

def simulatedActors (capabilities : BrokerCapabilities) : PartitionActors AccountPartition :=
  AccountPartition.actors (answer { capabilities })
    .ascii

def startingPartition : AccountPartition :=
  .init accountOne (empty.set "USD" 1000)

def sessionDependencies : RuntimeSessionDependencies AccountPartition where
  partition := fun _ => some {
    riskEngine := { rules := [] }
    brokerId := ⟨⟨"simulated", Eq.refl false⟩⟩
    actors := simulatedActors defaultSimulatedCapabilities }
  multiplierFor := fun _ => .ok 1
  prefixShown := by decide

def startingSession : RuntimeSession AccountPartition where
  instrumentContext := { futureRollRegistry := rolledRegistry.toOption }
  world := startingPartition

/-- A contract is bought before the roll, held across it, and one more is bought. -/
def acrossTheRoll : List (SessionEvent AccountPartition) :=
  [.intent accountOne (request marchBar (holding frontFuture 1 .default)),
   .intent accountOne (request juneBar (holding frontFuture 1 .default)),
   .intent accountOne (request juneBar (holding frontFuture 2 .default))]

def backtestDependencies {World : Type} (actors : PartitionActors World) :
    BacktestActorLoopDependencies World where
  riskEngine := { rules := [] }
  brokerId := ⟨⟨"simulated", Eq.refl false⟩⟩
  accountPartitions := empty.set accountOne actors
  accountId := accountOne
  strategyId := some ⟨⟨"strategy-1", Eq.refl false⟩⟩
  isoformat := fun _ => ""

def limitIntent {World : Type} : BacktestEvent World :=
  .intent marchBar {} (holding marchContract 1 limitAtFive) ⟨⟨"correlation-1", Eq.refl false⟩⟩

def marketOnly : BrokerCapabilities where
  supportedOrderTypes := [.market]

/-- After a roll with two orders the session uses the second number again, and after a limit order
that the broker refuses the backtest does; the session's second fill under the number is lost. -/
theorem submissions_share_ids :
    let session := final (RuntimeSession.step sessionDependencies) startingSession
      acrossTheRoll
    let loop := final
      (step (backtestDependencies (simulatedActors marketOnly)))
      { world := startingPartition } [limitIntent, limitIntent]
    ¬ KeptApart session.submitted ∧
      session.submitted.length = 4 ∧ session.world.orderManager.fills.length = 3 ∧
      ¬ KeptApart loop.submitted := by
  refine ⟨fun apart => ?_, by decide +kernel, by decide +kernel, fun apart => ?_⟩
  · exact absurd apart.fresh.orderIds (by decide +kernel)
  · exact absurd apart.fresh.orderIds (by decide +kernel)

def restingActors : PartitionActors (Option SubmitOrder) where
  accountSnapshot := return startingPartition.account.snapshot.1
  fillCount := return 0
  submitOrder message := set (some message)
  fillsSince _ := return []
  order orderId := do
    match ← get with
    | some message =>
      return {
        orderId
        intent := message.intent
        state := .accepted
        brokerOrderId := some message.brokerOrderId }
    | none => throw (.keyError orderId.value)

theorem restingActors_failure {own : SubmitOrder → Prop}
    {call : EStateM Failure (Option SubmitOrder) Unit} (mine : OwnCall restingActors own call)
    {world after : Option SubmitOrder} {failure : Failure}
    (failed : call.run world = .error failure after) : failure.isValueError = false := by
  cases mine with
  | order orderId =>
    cases world with
    | none =>
      cases failed
      rfl
    | some message => cases failed
  | _ => cases failed

/-- An intent of the session that plans one order at most. -/
theorem firstPlanOnly_of_single {session : RuntimeSession AccountPartition} {asked : IntentRequest}
    (single : ∀ partition, sessionDependencies.partition accountOne = some partition →
      ((RuntimeSession.intentProcessor sessionDependencies session.instrumentContext
        partition).prepared partition.actors asked (session.processing accountOne)).all
          (fun start => start.2.tail.isEmpty) = true) :
    session.FirstPlanOnly sessionDependencies (.intent accountOne asked) := by
  intro partition riskState plans found proc prepared plan later
  have alone := single partition found
  rw [prepared] at alone
  rw [isEmpty_iff.mp alone] at later
  cases later

theorem leadingAndSupported_of_single {loop : BacktestActorLoop (Option SubmitOrder)}
    (single : ∀ asked actors, route (backtestDependencies restingActors) marchBar {}
        (holding marchContract 1 limitAtFive) ⟨⟨"correlation-1", rfl⟩⟩ =
          .ok (asked, actors) →
      actors = restingActors ∧
        ((intentProcessor (backtestDependencies restingActors) loop.instrumentContext).prepared
          actors asked loop.processing).all (fun start => start.2.tail.isEmpty) = true) :
    loop.LeadingAndSupported (backtestDependencies restingActors) limitIntent := by
  intro asked actors riskState plans routed proc prepared
  obtain ⟨rfl, alone⟩ := single asked actors routed
  rw [prepared] at alone
  constructor
  · cases plans with
    | nil => exact .nil
    | cons plan rest =>
      obtain rfl : rest = [] := isEmpty_iff.mp alone
      exact pairwise_singleton _ _
  · intro world _ call mine failure after failed
    rw [handles, restingActors_failure mine failed]
    rfl

/-- One contract is held, then two. -/
def oneThenTwo : List (SessionEvent AccountPartition) :=
  [.intent accountOne (request marchBar (holding frontFuture 1 .default)),
   .intent accountOne (request marchBar (holding frontFuture 2 .default))]

/-- Two orders of the session and two resting orders of the backtest. -/
theorem submissions_keptApart_twoOrders :
    let session := final (RuntimeSession.step sessionDependencies) startingSession oneThenTwo
    let loop := final (step (backtestDependencies restingActors))
      { world := none } [limitIntent, limitIntent]
    (session.submitted.length = 2 ∧ KeptApart session.submitted) ∧
      loop.submitted.length = 2 ∧ KeptApart loop.submitted := by
  refine ⟨⟨by decide +kernel, ?_⟩, by decide +kernel, ?_⟩
  · refine (submissions_keptApart AccountPartition).1 _ _ _ rfl
      ⟨firstPlanOnly_of_single ?_, firstPlanOnly_of_single ?_, trivial⟩ <;>
    · intro partition found
      cases found
      decide +kernel
  · refine (submissions_keptApart (Option SubmitOrder)).2 _ _ _ rfl rfl
      ⟨leadingAndSupported_of_single ?_, leadingAndSupported_of_single ?_, trivial⟩ <;>
    · intro asked actors routed
      cases routed
      exact ⟨rfl, by decide +kernel⟩

end OrderIdentity

end Qts
