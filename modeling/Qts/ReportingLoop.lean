import Qts.BacktestStatistics
import Qts.CancelFills
import Qts.IntentFills

/-! # The reporting backtest loop -/

namespace Qts

open AccountPartition

structure ReportingLoopDependencies where
  riskEngine : RiskEngine
  contractMultipliers : DecimalMap := .empty
  brokerId : BrokerId
  marginCalculator : Option MarginCalculator := none
  /-- The starting cash of each account. -/
  accounts : Dict AccountId (Dict String Decimal)
  accountId : AccountId
  strategyId : Option StrategyId := none
  isoformat : DateTime → String
  executionAdapter : SimulatedExecutionAdapter := {}
  caps : PythonText.UpperCase
  compactOrders : Bool := false

structure ReportedClose where
  strategyId : StrategyId
  accountId : Option AccountId
  closed : PositionClosed

structure ReportingLoop where
  loop : BacktestActorLoop AccountWorld
  statistics : StatisticsBuilder := {}
  /-- The fills written so far, with the accounts they were written for. -/
  writtenFills : List (AccountId × OrderFill) := []
  writtenCloses : List ReportedClose := []
  /-- The positions closed so far, with the strategies whose intents closed them. -/
  causedCloses : List ReportedClose := []

/-- What happens to the loop: an intent, new market data, the cancels of a strategy, or the equity
point at the end of a bar, valued from the snapshots of the accounts. -/
inductive ReportingEvent
  | intent (bar : Bar) (batch : AggregatedSignalBatch) (intent : TargetIntent)
      (correlationId : CorrelationId)
  | marketData (instrumentContext : RuntimeInstrumentContext)
  | cancels (accountId : AccountId) (intents : List CancelIntent)
  | equityPoint
      (equity : List (AccountId × AccountSnapshot) → Except Failure Decimal)

namespace AccountPartition

def cancelRouting (part : AccountPartition) : CancelRouting where
  orderManager := part.orderManager
  mailbox := part.orderManagerMailbox.map .tell
  executed := part.executed

def waitingMessage : OrderManagerEnvelope → Option OrderManagerMessage
  | .tell msg => some msg
  | .askRoute _ => none

def afterRouting (part : AccountPartition) (routing : CancelRouting) : AccountPartition :=
  { part with
    orderManager := routing.orderManager
    orderManagerMailbox := routing.mailbox.filterMap waitingMessage
    executed := routing.executed }

def routeCancels (answer : ExecutionAnswer) (intents : List CancelIntent) : PartitionCall Unit :=
  fun part =>
    match (CancelIntentRouter.route (some answer) intents).run part.cancelRouting with
    | .ok _ routing => .ok () (part.afterRouting routing)
    | .error failure routing => .error failure (part.afterRouting routing)

def askClosedPositions (caps : PythonText.UpperCase) :
    PartitionCall (List PositionClosed × Option AccountId) := do
  accountProcessAll caps
  let part ← get
  let (closed, account) := part.account.drainPositionClosedEvents
  set { part with account }
  if closed = [] then
    return ([], none)
  else
    let snapshot ← askAccountSnapshot caps
    return (closed, snapshot.accountId)

def tellCompaction (orderIds : List OrderId) (part : AccountPartition) : AccountPartition :=
  { part with
    orderManagerMailbox := part.orderManagerMailbox ++ [.compactForStreaming orderIds] }

end AccountPartition

namespace ReportingLoop

open AccountWorld

variable (deps : ReportingLoopDependencies)

def actors (accountId : AccountId) : PartitionActors AccountWorld :=
  actorsOf deps.executionAdapter.answer deps.caps accountId

def orderFlow : BacktestActorLoopDependencies AccountWorld where
  riskEngine := deps.riskEngine
  contractMultipliers := deps.contractMultipliers
  brokerId := deps.brokerId
  marginCalculator := deps.marginCalculator
  accountPartitions := {
    items := deps.accounts.items.map fun item => (item.1, actors deps item.1)
    distinct := by
      rw [List.map_map]
      exact deps.accounts.distinct }
  accountId := deps.accountId
  strategyId := deps.strategyId
  isoformat := deps.isoformat

def partitionForAccount (accountId : AccountId) : Except Failure AccountId :=
  match deps.accounts.items with
  | [only] => .ok only.1
  | _ =>
    match deps.accounts.get? accountId with
    | some _ => .ok accountId
    | none => .error (.valueError ("unknown backtest account partition: " ++ accountId.value))

def route (bar : Bar) (batch : AggregatedSignalBatch) (intent : TargetIntent)
    (correlationId : CorrelationId) : Except Failure (IntentRequest × AccountId) := do
  let (req, _) ←
    BacktestActorLoop.route (orderFlow deps) bar batch intent correlationId
  let accountId ← partitionForAccount deps
    (batch.accountId.getD deps.accountId)
  return (req, accountId)

def runIntent (state : ReportingLoop) (req : IntentRequest) (accountId : AccountId) :
    EStateM.Result Failure (IntentProcessing AccountWorld) ProcessedIntent :=
  state.loop.runIntent (orderFlow deps) req (actors deps accountId)

def ledgerRow (bar : Bar) (fill : OrderFill) : TradeLedgerEntry where
  orderId := fill.orderId
  instrumentId := fill.instrumentId
  side := fill.side
  quantity := fill.quantity
  fillPrice := fill.price
  commission := fill.commission
  slippage := fill.slippage
  fillTime := bar.endTime
  sourceBarTime := bar.startTime

def writeFills (state : ReportingLoop) (accountId : AccountId) (bar : Bar)
    (fills : List OrderFill) : ReportingLoop :=
  { state with
    statistics := (fills.map (ledgerRow bar)).foldl StatisticsBuilder.onFill state.statistics
    writtenFills := state.writtenFills ++ fills.map fun fill => (accountId, fill) }

def writeCloses (state : ReportingLoop) (strategyId : StrategyId)
    (accountId : Option AccountId) (closed : List PositionClosed) : ReportingLoop :=
  { state with
    statistics := closed.foldl BacktestArtifactWriter.writePositionClosed state.statistics
    writtenCloses := state.writtenCloses ++ closed.map fun event =>
      ⟨strategyId, accountId, event⟩ }

def withPartition (state : ReportingLoop) (accountId : AccountId) (part : AccountPartition) :
    ReportingLoop :=
  { state with
    loop := { state.loop with
      world := Function.update state.loop.world accountId part } }

/-- End the run with an exception. -/
def raise (state : ReportingLoop) (failure : Failure) : ReportingLoop :=
  { state with loop := { state.loop with unhandled := some failure } }

def report (state : ReportingLoop) (req : IntentRequest) (accountId : AccountId)
    (processed : ProcessedIntent) : ReportingLoop :=
  let written := state.writeFills accountId req.bar processed.fills
  match (askClosedPositions deps.caps).run
      (written.loop.world accountId) with
  | .error failure part => (written.withPartition accountId part).raise failure
  | .ok (closed, owner) part =>
    (written.writeCloses req.strategyId owner closed).withPartition accountId
      (if deps.compactOrders then
        part.tellCompaction (processed.orders.map (·.orderId)) else part)

def closedSince (before after : AccountPartition) : List PositionClosed :=
  after.account.positionClosedEvents.drop before.account.positionClosedEvents.length

def afterRun (state : ReportingLoop) (req : IntentRequest) (accountId : AccountId) :
    ReportingLoop :=
  let result := state.runIntent deps req accountId
  { state with
    loop := state.loop.writeProcessed (orderFlow deps) result
    causedCloses := state.causedCloses ++
      (closedSince (state.loop.world accountId)
        ((RaisingCalls.endState result).world accountId)).map fun event =>
          ⟨req.strategyId, some accountId, event⟩ }

def processStrategyIntent (state : ReportingLoop) (bar : Bar) (batch : AggregatedSignalBatch)
    (intent : TargetIntent) (correlationId : CorrelationId) : ReportingLoop :=
  match route deps bar batch intent correlationId with
  | .error failure => state.raise failure
  | .ok (req, accountId) =>
    match state.runIntent deps req accountId with
    | .ok processed _ =>
      (state.afterRun deps req accountId).report deps req accountId
        processed
    | .error _ _ => state.afterRun deps req accountId

def routeStrategyCancels (state : ReportingLoop) (accountId : AccountId)
    (intents : List CancelIntent) : ReportingLoop :=
  if intents = [] then state
  else
    match partitionForAccount deps accountId with
    | .error failure => state.raise failure
    | .ok accountId =>
      match (routeCancels deps.executionAdapter.answer intents).run
          (state.loop.world accountId) with
      | .ok _ part => state.withPartition accountId part
      | .error failure part => (state.withPartition accountId part).raise failure

def askSnapshots : List AccountId →
    EStateM Failure AccountWorld (List (AccountId × AccountSnapshot))
  | [] => return []
  | accountId :: rest => do
    let snapshot ← onAccount accountId
      (askAccountSnapshot deps.caps)
    let later ← askSnapshots rest
    return (accountId, snapshot) :: later

def withWorld (state : ReportingLoop) (world : AccountWorld) : ReportingLoop :=
  { state with loop := { state.loop with world } }

def writeEquityPoint (state : ReportingLoop)
    (equity : List (AccountId × AccountSnapshot) → Except Failure Decimal) : ReportingLoop :=
  match (askSnapshots deps deps.accounts.keys).run state.loop.world with
  | .error failure world => (state.withWorld world).raise failure
  | .ok snapshots world =>
    let asked := state.withWorld world
    if snapshots = [] then
      asked.raise (.valueError "at least one account snapshot is required")
    else
      match equity snapshots with
      | .error failure => asked.raise failure
      | .ok value =>
        match asked.statistics.onEquityPoint value with
        | .error msg => asked.raise (.other msg)
        | .ok statistics => { asked with statistics }

/-- One event of a backtest; after an unhandled exception nothing happens. -/
def step : StepRuns.Step ReportingLoop ReportingEvent Unit :=
  fun state event =>
    if state.loop.unhandled.isSome then ((), state)
    else
      ((), match event with
        | .intent bar batch intent correlationId =>
          state.processStrategyIntent deps bar batch intent correlationId
        | .marketData instrumentContext =>
          { state with loop := { state.loop with instrumentContext } }
        | .cancels accountId intents => state.routeStrategyCancels deps accountId intents
        | .equityPoint equity => state.writeEquityPoint deps equity)

def start (instrumentContext : RuntimeInstrumentContext) : ReportingLoop where
  loop := {
    instrumentContext
    world := fun accountId =>
      .init accountId ((deps.accounts.get? accountId).getD .empty) }

end ReportingLoop

end Qts
