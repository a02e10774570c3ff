import Qts.IntentRefusals
import Qts.ReportingLoop

/-! # The report's ledger and the accounts' ledgers -/

namespace Qts

open RaisingCalls AccountWorld PythonText StepRuns ApplyFill List Function

namespace AccountPartition

def takenFills (partition : AccountPartition) : List ApplyFill :=
  firstDeliveries fillId ∅ (partition.orderManager.accountRef.take partition.applied)

/-- Between the steps of a run: at rest, with the ids of all fills known and no close waiting. -/
structure Between (accountId : AccountId) (partition : AccountPartition) : Prop where
  idle : Idle partition
  owned : AccountActor.Owned (some accountId) .average partition.account
  seen : partition.account.fillIds.seen =
    afterDeliveries fillId ∅ partition.orderManager.accountRef
  drained : partition.account.positionClosedEvents = []

variable {accountId : AccountId} {before after partition : AccountPartition}
  {answer : ExecutionRequest → Except Failure ExecutionReport}
  {caps : UpperCase} {messages : List ApplyFill} {requests : List ExecutionRequest}

theorem Idle.takenFills_eq (idle : Idle partition) :
    partition.takenFills = partition.orderManager.countedFills := by
  rw [takenFills, idle.applied, take_length]
  rfl

theorem init_between (accountId : AccountId) (cash : Dict String Decimal) :
    Between accountId (.init accountId cash) where
  idle := ⟨fun _ mem => absurd mem not_mem_nil, rfl, rfl⟩
  owned := ⟨rfl, rfl, HoldingBook.Uniform.empty .average⟩
  seen := rfl
  drained := rfl

theorem Booked.seen (booked : Booked caps before messages after)
    (known : before.account.fillIds.seen = afterDeliveries fillId ∅ before.orderManager.accountRef)
    :
    after.account.fillIds.seen =
      afterDeliveries fillId ∅ after.orderManager.accountRef := by
  rw [booked.took.seen, booked.told, known, afterDeliveries_append]

theorem Booked.takenFills_eq (booked : Booked caps before messages after)
    (between : Between accountId before)
    (new : firstDeliveries fillId before.account.fillIds.seen messages = messages) :
    after.takenFills = before.takenFills ++ messages := by
  rw [booked.rest.takenFills_eq, between.idle.takenFills_eq, OrderManagerActor.countedFills,
    booked.told, firstDeliveries_append, ← between.seen, new]
  rfl

theorem Booked.between_of_nothing (booked : Booked caps before [] after)
    (between : Between accountId before) : Between accountId after where
  idle := booked.rest
  owned := booked.took.owned between.owned
  seen := booked.seen between.seen
  drained := booked.took.nothing.positionClosedEvents.symm.trans between.drained

/-- Where all of some requests are answered, no answered fill has an id that the account knows and
the order manager does not. -/
def TakesNewFills (answer : ExecutionRequest → Except Failure ExecutionReport)
    (partition : AccountPartition) (requests : List ExecutionRequest) : Prop :=
  (∀ request ∈ requests, (answer request).isOk = true) →
    ∀ fillId ∈ answeredFillIds answer requests, fillId ∈ partition.account.fillIds.seen →
      fillId ∈ partition.settledFillIds

theorem Executed.unknown (executed : Executed answer caps before requests messages after)
    (condition : TakesNewFills answer before requests) {message : ApplyFill}
    (mem : message ∈ messages) : message.fillId ∉ before.account.fillIds.seen := by
  intro old
  have told : message.fill.fillId ∈ messages.map (·.fill.fillId) := mem_map_of_mem mem
  have answered := executed.fillIds.subset told
  exact executed.learned.fresh _ told (condition executed.answered _ answered old)

theorem RefusedAt.booked {adapter : SimulatedExecutionAdapter} {orderSpec : OrderSpec}
    {failure : Failure} (refused : RefusedAt adapter.answer caps before requests failure after)
    (executes : ∀ request ∈ requests, request.Executes orderSpec) (capability : ¬ failure.Plain) :
    Booked caps before [] after := by
  obtain ⟨earlier, request, later, messages, rfl, failed, executed⟩ := refused
  cases earlier with
  | nil =>
    have none := map_eq_nil_iff.mp (sublist_nil.mp executed.fillIds)
    exact none ▸ executed.booked
  | cons first earlier =>
    refine absurd ?_ capability
    exact SimulatedExecutionAdapter.plain_of_answered (executes first mem_cons_self)
      (executes request (mem_append_right _ mem_cons_self))
      (executed.answered first mem_cons_self) failed

/-- Draining the closed positions answers them all and leaves the partition between two steps. -/
theorem Booked.askClosedPositions_ends (booked : Booked caps before messages after)
    (between : Between accountId before) :
    Ends (fun answered last => Between accountId last ∧
        last.orderManager = after.orderManager ∧ last.applied = after.applied ∧
        last.account.holdings = after.account.holdings ∧
        answered.1 = after.account.positionClosedEvents ∧
        (answered.1 ≠ [] → answered.2 = some accountId))
      (fun _ _ => False) (askClosedPositions caps) after := by
  refine booked.rest.accountProcessAll.bind ?_
  rintro _ partition rfl
  refine Ends.get ?_
  have kept : Between accountId { partition with
      account := partition.account.drainPositionClosedEvents.2 } := by
    have owned := booked.took.owned between.owned
    exact ⟨⟨booked.rest.waiting, booked.rest.executed, booked.rest.applied⟩,
      ⟨owned.owner, owned.method, owned.uniform⟩, booked.seen between.seen, rfl⟩
  change Ends _ _ (if partition.account.positionClosedEvents = [] then _ else _)
    { partition with account := partition.account.drainPositionClosedEvents.2 }
  split
  · next none => exact Ends.pure ⟨kept, rfl, rfl, rfl, none.symm, fun some => absurd rfl some⟩
  · next some =>
    refine kept.idle.askAccountSnapshot.bind ?_
    rintro _ _ ⟨rfl, rfl⟩
    have listed : Booked caps _ [] _ := kept.idle.books_listed
    exact Ends.pure ⟨listed.between_of_nothing kept, rfl, rfl, rfl, rfl,
      fun _ => kept.owned.owner⟩

theorem Between.tellCompaction (between : Between accountId partition) (orderIds : List OrderId) :
    Between accountId (partition.tellCompaction orderIds) where
  idle := by
    refine ⟨fun message mem => ?_, between.idle.executed, between.idle.applied⟩
    rcases mem_append.mp mem with earlier | last
    · exact between.idle.waiting message earlier
    · rw [mem_singleton.mp last]
      rfl
  owned := between.owned
  seen := between.seen
  drained := between.drained

end AccountPartition

namespace ReportingLoop

open AccountPartition TargetIntentProcessor BacktestActorLoop OrderIdentity

variable {deps : ReportingLoopDependencies} {state next : ReportingLoop}

def writtenFor (state : ReportingLoop) (accountId : AccountId) : List OrderFill :=
  (state.writtenFills.filter (·.1 = accountId)).map (·.2)

/-- The report is up to date, and the accounts wait for the next step. -/
structure Reported (state : ReportingLoop) : Prop where
  between : ∀ accountId, Between accountId (state.loop.world accountId)
  fills : ∀ accountId, state.writtenFor accountId =
    (state.loop.world accountId).takenFills.map (·.fill)
  closes : state.writtenCloses = state.causedCloses

/-- The report has exactly the fills that the accounts have taken, each once, and each closed
position once under the strategy whose intent closed it. -/
structure LedgersAgree (state : ReportingLoop) : Prop where
  fills : ∀ accountId, state.writtenFor accountId =
    (state.loop.world accountId).takenFills.map (·.fill)
  once : ∀ accountId, ((state.writtenFor accountId).map (·.fillId)).Nodup
  closes : state.writtenCloses = state.causedCloses

theorem Reported.ledgersAgree (reported : Reported state) : LedgersAgree state where
  fills := reported.fills
  once accountId := by
    rw [reported.fills, map_map]
    exact (firstDeliveries_distinct ∅ _).1
  closes := reported.closes

/-- An intent meets the condition on the orders that its plans lead to. -/
def TakesNewFills (deps : ReportingLoopDependencies) (state : ReportingLoop) :
    ReportingEvent → Prop
  | .intent bar batch intent correlationId => ∀ request accountId riskState plans,
      route deps bar batch intent correlationId = .ok (request, accountId) →
      (intentProcessor (orderFlow deps) state.loop.instrumentContext).prepared
          (actors deps accountId) request state.loop.processing =
        some (riskState, plans) →
      AccountPartition.TakesNewFills deps.executionAdapter.answer
        (state.loop.world accountId)
        ((intentProcessor (orderFlow deps) state.loop.instrumentContext).planRequests
          request riskState plans (state.loop.orderCount + 1))
  | _ => True

theorem not_raised {failure : Failure} {fact : Prop}
    (running : (state.raise failure).loop.unhandled = none) : fact :=
  nomatch (running : some failure = none)

/-- No account takes anything, and nothing is reported. -/
structure Rests (caps : UpperCase) (state next : ReportingLoop) : Prop where
  booked : ∀ accountId,
    Booked caps (state.loop.world accountId) [] (next.loop.world accountId)
  fills : next.writtenFills = state.writtenFills
  closes : next.writtenCloses = state.writtenCloses
  caused : next.causedCloses = state.causedCloses
  openInstruments : next.statistics.openInstruments = state.statistics.openInstruments

variable {caps : UpperCase}

theorem Reported.of_rests (reported : Reported state) (rests : Rests caps state next) :
    Reported next where
  between accountId := (rests.booked accountId).between_of_nothing (reported.between accountId)
  fills accountId := by
    have taken := (rests.booked accountId).takenFills_eq (reported.between accountId) rfl
    rw [taken, append_nil, ← reported.fills, writtenFor, writtenFor, rests.fills]
  closes := by rw [rests.closes, rests.caused, reported.closes]

theorem world_eq (state : ReportingLoop) (accountId : AccountId) :
    state.loop.world = Function.update state.loop.world accountId (state.loop.world accountId) :=
  (update_eq_self accountId state.loop.world).symm

theorem booked_of_holds {base world : AccountWorld} {accountId : AccountId}
    (idle : ∀ other, Idle (base other))
    (holds : Holds base accountId (Booked caps (base accountId) []) world) (other : AccountId) :
    Booked caps (base other) [] (world other) := by
  by_cases same : other = accountId
  · subst same
    exact holds.at
  · rw [holds.other same]
    exact .refl (idle other)

theorem askSnapshots_books (accountIds : List AccountId) (world : AccountWorld)
    (idle : ∀ accountId, Idle (world accountId)) :
    Ends (fun _ after => ∀ accountId,
        Booked deps.caps (world accountId) [] (after accountId))
      (fun _ _ => False) (askSnapshots deps accountIds) world := by
  induction accountIds generalizing world with
  | nil => exact Ends.pure fun accountId => .refl (idle accountId)
  | cons accountId rest ih =>
    have asked := @onAccount_ends world accountId (world accountId) _ _ _ _
      (@Idle.askAccountSnapshot deps.caps _ (idle accountId))
    rw [update_eq_self] at asked
    refine (asked.mono_failed fun _ _ holds => holds.at).bind ?_
    rintro snapshot between ⟨_, ⟨_, rfl⟩, rfl⟩
    have listed : Holds world accountId (Booked deps.caps (world accountId) [])
        (Function.update world accountId (world accountId).listed) :=
      ⟨_, (idle accountId).books_listed, rfl⟩
    have first := booked_of_holds idle listed
    refine (ih _ fun other => (first other).rest).bind ?_
    exact fun _ _ later => Ends.pure fun other => (first other).trans (later other)

theorem routeCancels_run (answer : ExecutionAnswer) (intents : List CancelIntent)
    (partition : AccountPartition) :
    (routeCancels answer intents).run partition =
      match (CancelIntentRouter.route (some answer) intents).run partition.cancelRouting with
      | .ok _ routing => .ok () (partition.afterRouting routing)
      | .error failure routing => .error failure (partition.afterRouting routing) :=
  rfl

theorem routeCancels_books {partition : AccountPartition} {caps : UpperCase}
    (rest : Idle partition) (adapter : SimulatedExecutionAdapter) (intents : List CancelIntent) :
    Ends (fun _ after => Booked caps partition [] after) (fun _ _ => True)
      (routeCancels adapter.answer intents) partition := by
  have routes := CancelIntentRouter.route_rests adapter.fillsNoCancel intents
    (show partition.cancelRouting.executed =
        partition.cancelRouting.orderManager.executionRef.length
      from rest.executed) (by
      intro message mem
      obtain ⟨waiting, listed, same⟩ := mem_map.mp mem
      cases same
      exact rest.waiting message listed)
  unfold Ends at routes ⊢
  rw [routeCancels_run]
  cases ran : (CancelIntentRouter.route (some adapter.answer) intents).run
      partition.cancelRouting with
  | ok orderIds routing =>
    rw [ran] at routes
    obtain ⟨told, executed, waiting⟩ := routes
    refine ⟨⟨fun message mem => ?_, executed, ?_⟩, told.trans (append_nil _).symm, .none⟩
    · obtain ⟨envelope, listed, kept⟩ := mem_filterMap.mp mem
      cases envelope with
      | tell other =>
        cases kept
        exact waiting message listed
      | askRoute => cases kept
    · exact rest.applied.trans (congrArg List.length told.symm)
  | error failure routing => trivial

theorem Reported.idle (reported : Reported state) (accountId : AccountId) :
    Idle (state.loop.world accountId) :=
  (reported.between accountId).idle

theorem Rests.refl (reported : Reported state) : Rests caps state state :=
  ⟨fun accountId => .refl (reported.idle accountId), rfl, rfl, rfl, rfl⟩

theorem routeStrategyCancels_rests (reported : Reported state) (accountId : AccountId)
    (intents : List CancelIntent) :
    (state.routeStrategyCancels deps accountId intents).loop.unhandled = none →
      Rests deps.caps state
        (state.routeStrategyCancels deps accountId intents) := by
  unfold routeStrategyCancels
  by_cases nothing : intents = []
  · rw [if_pos nothing]
    exact fun _ => .refl reported
  rw [if_neg nothing]
  cases partitionForAccount deps accountId with
  | error failure => exact not_raised
  | ok served =>
    dsimp only
    have routes := @routeCancels_books _ deps.caps (reported.idle served)
      deps.executionAdapter intents
    cases ran : (routeCancels deps.executionAdapter.answer intents).run
        (state.loop.world served) with
    | error failure partition => exact not_raised
    | ok value partition =>
      have holds : Holds state.loop.world served
          (Booked deps.caps (state.loop.world served) [])
          (Function.update state.loop.world served partition) :=
        ⟨partition, routes.of_run ran, rfl⟩
      exact fun _ => ⟨booked_of_holds reported.idle holds, rfl, rfl, rfl, rfl⟩

theorem writeEquityPoint_rests (reported : Reported state)
    (equity : List (AccountId × AccountSnapshot) → Except Failure Decimal) :
    (state.writeEquityPoint deps equity).loop.unhandled = none →
      Rests deps.caps state (state.writeEquityPoint deps equity) ∧
      (state.writeEquityPoint deps equity).statistics.occupiedBars =
        state.statistics.occupiedBars + (if state.statistics.occupied then 1 else 0) := by
  unfold writeEquityPoint
  have asks := @askSnapshots_books deps deps.accounts.keys state.loop.world
    reported.idle
  cases ran : (askSnapshots deps deps.accounts.keys).run state.loop.world with
  | error failure world => exact not_raised
  | ok snapshots world =>
    have booked := asks.of_run ran
    by_cases none : snapshots = []
    · simp only [none, if_true]
      exact not_raised
    simp only [none, if_false]
    cases equity snapshots with
    | error failure => exact not_raised
    | ok value =>
      dsimp only
      cases counted : (state.withWorld world).statistics.onEquityPoint value with
      | error message => exact not_raised
      | ok statistics =>
        obtain ⟨bars, openInstruments⟩ := StatisticsBuilder.onEquityPoint_counts counted
        exact fun _ => ⟨⟨booked, rfl, rfl, rfl, openInstruments⟩, bars⟩

theorem writtenFor_writeFills (state : ReportingLoop) (accountId : AccountId) (bar : Bar)
    (fills : List OrderFill) :
    (state.writeFills accountId bar fills).writtenFor accountId =
      state.writtenFor accountId ++ fills := by
  simp only [writtenFor, writeFills, filter_append, map_append, filter_map,
    comp_def, decide_true, filter_true, map_map, map_id']

theorem writtenFor_writeFills_other (state : ReportingLoop) {accountId other : AccountId}
    (differs : other ≠ accountId) (bar : Bar) (fills : List OrderFill) :
    (state.writeFills accountId bar fills).writtenFor other = state.writtenFor other := by
  have apart : decide (accountId = other) = false := decide_eq_false differs.symm
  simp only [writtenFor, writeFills, filter_append, filter_map,
    comp_def, apart, filter_false, map_nil, append_nil]

theorem Reported.of_taken (reported : Reported state) {accountId : AccountId}
    {messages : List ApplyFill} (rest : Between accountId (next.loop.world accountId))
    (taken : (next.loop.world accountId).takenFills =
      (state.loop.world accountId).takenFills ++ messages)
    (written : next.writtenFor accountId = state.writtenFor accountId ++ messages.map (·.fill))
    (others : ∀ other, other ≠ accountId → next.loop.world other = state.loop.world other ∧
      next.writtenFor other = state.writtenFor other)
    (closes : next.writtenCloses = next.causedCloses) : Reported next where
  between other := by
    by_cases same : other = accountId
    · exact same ▸ rest
    · rw [(others other same).1]
      exact reported.between other
  fills other := by
    by_cases same : other = accountId
    · rw [same, written, taken, reported.fills, map_append]
    · rw [(others other same).1, (others other same).2]
      exact reported.fills other
  closes := closes

structure Processes (deps : ReportingLoopDependencies) (state : ReportingLoop)
    (request : IntentRequest) (accountId : AccountId) (processed : ProcessedIntent)
    (after : IntentProcessing AccountWorld) (messages : List ApplyFill) : Prop where
  ran : state.runIntent deps request accountId = .ok processed after
  holds : Holds state.loop.world accountId
    (Booked deps.caps (state.loop.world accountId) messages) after.world
  fills : processed.fills = messages.map (·.fill)
  distinct : (messages.map fillId).Nodup
  unknown : ∀ message ∈ messages,
    message.fillId ∉ (state.loop.world accountId).account.fillIds.seen

structure Finishes (deps : ReportingLoopDependencies) (state : ReportingLoop)
    (request : IntentRequest) (accountId : AccountId) (processed : ProcessedIntent)
    (after : IntentProcessing AccountWorld) (owner : Option AccountId) (last : AccountPartition)
    (next : ReportingLoop) : Prop where
  reports : next = (((state.afterRun deps request accountId).writeFills accountId
    request.bar processed.fills).writeCloses request.strategyId owner
      (after.world accountId).account.positionClosedEvents).withPartition accountId last
  rest : Between accountId last
  taken : last.takenFills = (after.world accountId).takenFills
  holdings : last.account.holdings = (after.world accountId).account.holdings
  owned : (after.world accountId).account.positionClosedEvents ≠ [] → owner = some accountId

section Processed

variable {request : IntentRequest} {accountId : AccountId} {processed : ProcessedIntent}
  {after : IntentProcessing AccountWorld} {messages : List ApplyFill} {owner : Option AccountId}
  {last : AccountPartition}

theorem afterRun_world (state : ReportingLoop) (request : IntentRequest) (accountId : AccountId) :
    (state.afterRun deps request accountId).loop.world =
      (endState (state.runIntent deps request accountId)).world := by
  unfold afterRun writeProcessed
  cases state.runIntent deps request accountId <;> rfl

theorem Processes.world
    (processes : Processes deps state request accountId processed after messages) :
    (state.afterRun deps request accountId).loop.world = after.world := by
  rw [afterRun_world, processes.ran]
  rfl

theorem Processes.finishes (reported : Reported state)
    (processes : Processes deps state request accountId processed after messages) :
    ∃ owner last, Finishes deps state request accountId processed after owner last
      ((state.afterRun deps request accountId).report deps request accountId
        processed) := by
  have drains := processes.holds.at.askClosedPositions_ends (reported.between accountId)
  have moved : ((state.afterRun deps request accountId).writeFills accountId request.bar
      processed.fills).loop.world = after.world := processes.world
  unfold report
  dsimp only
  rw [moved]
  cases answered : (askClosedPositions deps.caps).run (after.world accountId) with
  | error failure partition => exact (drains.of_raise answered).elim
  | ok closes partition =>
    obtain ⟨closed, owner⟩ := closes
    obtain ⟨rest, manager, applied, holdings, listed, owned⟩ := drains.of_run answered
    obtain rfl : closed = (after.world accountId).account.positionClosedEvents := listed
    have same : partition.takenFills = (after.world accountId).takenFills := by
      rw [takenFills, takenFills, manager, applied]
    dsimp only
    split
    · exact ⟨owner, _, rfl, rest.tellCompaction _, same, holdings, owned⟩
    · exact ⟨owner, partition, rfl, rest, same, holdings, owned⟩

theorem Finishes.world
    (processes : Processes deps state request accountId processed after messages)
    (finishes : Finishes deps state request accountId processed after owner last next) :
    next.loop.world = Function.update after.world accountId last := by
  rw [finishes.reports]
  exact congrArg (Function.update · accountId last) processes.world

theorem Finishes.reported (reported : Reported state)
    (processes : Processes deps state request accountId processed after messages)
    (finishes : Finishes deps state request accountId processed after owner last next) :
    Reported next := by
  have between := reported.between accountId
  have world := finishes.world processes
  have self : next.loop.world accountId = last := by rw [world, update_self]
  have new := firstDeliveries_of_distinct processes.distinct processes.unknown
  have taken := processes.holds.at.takenFills_eq between new
  refine @Reported.of_taken state next reported accountId messages ?_ ?_ ?_ ?_ ?_
  · rw [self]
    exact finishes.rest
  · rw [self, finishes.taken, taken]
  · rw [finishes.reports, ← processes.fills]
    exact writtenFor_writeFills (state.afterRun deps request accountId) accountId
      request.bar processed.fills
  · intro other differs
    constructor
    · rw [world, update_of_ne differs]
      exact processes.holds.other differs
    · rw [finishes.reports]
      exact writtenFor_writeFills_other (state.afterRun deps request accountId) differs
        request.bar processed.fills
  · have caused : closedSince (state.loop.world accountId)
        ((endState (state.runIntent deps request accountId)).world accountId) =
          (after.world accountId).account.positionClosedEvents := by
      rw [processes.ran, closedSince, between.drained, length_nil, drop_zero]
      rfl
    have owners : ((after.world accountId).account.positionClosedEvents.map fun event =>
          ReportedClose.mk request.strategyId owner event) =
        (after.world accountId).account.positionClosedEvents.map fun event =>
          ⟨request.strategyId, some accountId, event⟩ := by
      by_cases none : (after.world accountId).account.positionClosedEvents = []
      · rw [none, map_nil, map_nil]
      · rw [finishes.owned none]
    rw [finishes.reports]
    change state.writtenCloses ++ List.map _ _ = state.causedCloses ++ List.map _ (closedSince _ _)
    rw [caused, owners, reported.closes]

end Processed

theorem processStrategyIntent_cases (reported : Reported state) {bar : Bar}
    {batch : AggregatedSignalBatch} {intent : TargetIntent} {correlationId : CorrelationId}
    (condition : TakesNewFills deps state (.intent bar batch intent correlationId)) :
    (state.processStrategyIntent deps bar batch intent
        correlationId).loop.unhandled = none →
      Rests deps.caps state
        (state.processStrategyIntent deps bar batch intent correlationId) ∨
      ∃ request accountId processed after messages owner last,
        route deps bar batch intent correlationId = .ok (request, accountId) ∧
        Processes deps state request accountId processed after messages ∧
        Finishes deps state request accountId processed after owner last
          (state.processStrategyIntent deps bar batch intent correlationId) := by
  unfold processStrategyIntent
  cases routed : route deps bar batch intent correlationId with
  | error failure => exact not_raised
  | ok target =>
    obtain ⟨request, accountId⟩ := target
    dsimp only
    have ends := @processIntent_answers request deps.executionAdapter.answer
      deps.caps state.loop.world accountId (state.loop.world accountId)
      state.loop.processing (orderFlow deps) state.loop.instrumentContext
      (reported.idle accountId) (state.loop.orderCount + 1) (world_eq state accountId)
    cases ran : state.runIntent deps request accountId with
    | ok processed after =>
      obtain ⟨riskState, plans, prepared, answers⟩ := ends.of_run ran
      have new := condition request accountId riskState plans routed prepared
      obtain ⟨next, ⟨messages, executed, fills⟩, world⟩ := answers
      have processes : Processes deps state request accountId processed after messages :=
        ⟨ran, ⟨next, executed.booked, world⟩, fills, executed.learned.distinct,
          fun _ => executed.unknown new⟩
      obtain ⟨owner, last, finishes⟩ := processes.finishes reported
      exact fun _ => .inr ⟨request, accountId, processed, after, messages, owner, last, rfl,
        processes, finishes⟩
    | error failure after =>
      have world : (state.afterRun deps request accountId).loop.world = after.world := by
        rw [afterRun_world, ran]
        rfl
      cases handled : handles (orderFlow deps) failure with
      | false =>
        have raised : (state.afterRun deps request accountId).loop.unhandled =
            some failure := by
          rw [afterRun, ran]
          exact if_neg (by rw [handled]; exact Bool.false_ne_true)
        intro running
        cases raised.symm.trans running
      | true =>
        have capability : ¬ failure.Plain := fun plain =>
          Bool.false_ne_true ((plain deps.isoformat).symm.trans handled)
        have books : Holds state.loop.world accountId
            (Booked deps.caps (state.loop.world accountId) []) after.world := by
          rcases ends.of_raise ran with plain | asked | ⟨riskState, plans, prepared, refused⟩
          · exact absurd plain capability
          · exact asked.mono fun _ executed => executed.booked
          · exact refused.mono fun _ refused => refused.booked
              (fun asked => prepared_executes prepared) capability
        have caused : closedSince (state.loop.world accountId) (after.world accountId) = [] := by
          rw [closedSince, ← books.at.took.nothing.positionClosedEvents, drop_length]
        refine fun _ => .inl ⟨world ▸ booked_of_holds reported.idle books, rfl, rfl, ?_, rfl⟩
        change state.causedCloses ++ List.map _ (closedSince _ _) = state.causedCloses
        rw [ran]
        change _ ++ List.map _
          (closedSince (state.loop.world accountId) (after.world accountId)) = _
        rw [caused, map_nil, append_nil]

/-- The report is up to date unless the run has ended in an unhandled exception. -/
theorem step_reported (state : ReportingLoop) (event : ReportingEvent)
    (reported : state.loop.unhandled = none → Reported state)
    (condition : TakesNewFills deps state event) :
    (step deps state event).2.loop.unhandled = none →
      Reported (step deps state event).2 := by
  unfold step
  split
  · exact reported
  · next running =>
    have none : state.loop.unhandled = none := Option.not_isSome_iff_eq_none.mp running
    cases event with
    | intent bar batch intent correlationId =>
      intro running
      rcases processStrategyIntent_cases (reported none) condition running with
        rests | ⟨request, accountId, processed, after, messages, owner, last, _, processes,
            finishes⟩
      · exact (reported none).of_rests rests
      · exact finishes.reported (reported none) processes
    | marketData instrumentContext =>
      have rests : Rests deps.caps state { state with
          loop := { state.loop with instrumentContext } } :=
        ⟨(Rests.refl (reported none)).booked, rfl, rfl, rfl, rfl⟩
      exact fun _ => (reported none).of_rests rests
    | cancels accountId intents =>
      exact fun running => (reported none).of_rests
        (routeStrategyCancels_rests (reported none) accountId intents running)
    | equityPoint equity =>
      exact fun running => (reported none).of_rests
        (writeEquityPoint_rests (reported none) equity running).1

theorem start_reported (instrumentContext : RuntimeInstrumentContext) :
    Reported (start deps instrumentContext) where
  between accountId := init_between accountId _
  fills _ := rfl
  closes := rfl

/-- In every run in which no fill repeats an id that its account knows and its order manager has
forgotten, the report has what the accounts have. -/
theorem run_ledgersAgree (deps : ReportingLoopDependencies)
    (instrumentContext : RuntimeInstrumentContext) (events : List ReportingEvent)
    (condition : EveryStep (step deps) (TakesNewFills deps)
      (start deps instrumentContext) events)
    (handled : (final (step deps) (start deps instrumentContext)
      events).loop.unhandled = none) :
    LedgersAgree (final (step deps) (start deps instrumentContext)
      events) := by
  have reported := final_invariant_of_everyStep (@step_reported deps)
    (fun _ => start_reported instrumentContext) condition
  exact (reported handled).ledgersAgree

def concentrationDependencies : ReportingLoopDependencies where
  riskEngine := {
    rules := [ConcentrationLimitRule.check ⟨1 / 10, by decide +kernel, by decide +kernel⟩
      fun _ => ""] }
  brokerId := ⟨⟨"simulated", Eq.refl false⟩⟩
  accounts := Dict.empty.set accountOne (Dict.empty.set "USD" 1000)
  accountId := accountOne
  strategyId := some ⟨⟨"strategy-1", Eq.refl false⟩⟩
  isoformat := fun _ => ""
  caps := .ascii
  compactOrders := true

def hold (bar : Bar) (instrumentId : InstrumentId) (quantity : Decimal) : ReportingEvent :=
  .intent bar {} (holding instrumentId quantity .default) ⟨⟨"correlation-1", Eq.refl false⟩⟩

/-- After the roll the order that closes the old contract is rejected, and the order for the new one
is filled under a number that the next intent uses again. -/
def reusedNumber : List ReportingEvent :=
  [hold marchBar frontFuture 6, hold juneBar frontFuture 6, hold juneBar juneContract 7]

def rollingContext : RuntimeInstrumentContext :=
  { futureRollRegistry := rolledRegistry.toOption }

/-- The second fill under the number is written, and the account has not taken it. -/
theorem reusedNumber_disagrees :
    let final := final (step concentrationDependencies)
      (start concentrationDependencies rollingContext) reusedNumber
    final.loop.unhandled = none ∧ final.writtenFills.length = 3 ∧
      (final.loop.world accountOne).takenFills.length = 2 ∧ ¬ LedgersAgree final := by
  refine ⟨by decide +kernel, by decide +kernel, by decide +kernel, fun agree => ?_⟩
  exact absurd (agree.fills accountOne) (by decide +kernel)

instance (answer : ExecutionRequest → Except Failure ExecutionReport) (part : AccountPartition)
    (requests : List ExecutionRequest) :
    Decidable (AccountPartition.TakesNewFills answer part requests) :=
  inferInstanceAs (Decidable (_ → ∀ fillId ∈ _, _ → _))

instance TakesNewFills.decidable (deps : ReportingLoopDependencies) (state : ReportingLoop) :
    ∀ event, Decidable (TakesNewFills deps state event)
  | .intent bar batch intent correlationId =>
    match routed : route deps bar batch intent correlationId with
    | .error _ => isTrue fun _ _ _ _ found => nomatch routed.symm.trans found
    | .ok (req, accountId) =>
      match ready : (intentProcessor (orderFlow deps) state.loop.instrumentContext).prepared
          (actors deps accountId) req state.loop.processing with
      | none => isTrue fun _ _ _ _ found again => by
          cases routed.symm.trans found
          cases ready.symm.trans again
      | some (riskState, plans) =>
        decidable_of_iff (AccountPartition.TakesNewFills deps.executionAdapter.answer
            (state.loop.world accountId)
            ((intentProcessor (orderFlow deps) state.loop.instrumentContext).planRequests
              req riskState plans (state.loop.orderCount + 1)))
          ⟨fun takes _ _ _ _ found again => by
            cases routed.symm.trans found
            cases ready.symm.trans again
            exact takes, fun takes => takes _ _ _ _ routed ready⟩
  | .marketData _ => isTrue trivial
  | .cancels _ _ => isTrue trivial
  | .equityPoint _ => isTrue trivial

/-- The ledgers agree when a position is opened, reduced and closed. -/
theorem run_ledgersAgree_closing :
    let events := [hold marchBar frontFuture 6, hold marchBar frontFuture 2,
      hold marchBar frontFuture 0]
    let final := final (step concentrationDependencies)
      (start concentrationDependencies rollingContext) events
    LedgersAgree final ∧ final.writtenFills.length = 3 ∧
      ((final.loop.world accountOne).account.holdings.holding marchContract).quantity = 0 :=
  ⟨run_ledgersAgree concentrationDependencies rollingContext _ (by decide +kernel)
    (by decide +kernel), by decide +kernel, by decide +kernel⟩

end ReportingLoop

end Qts
