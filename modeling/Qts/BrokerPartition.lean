import Qts.SimulatedExecution

/-!
# The actors of one account partition

The order manager, execution and account actors of one account with the messages that wait
for them.
-/

namespace Qts

structure AccountPartition where
  orderManager : OrderManagerActor
  orderManagerMailbox : List OrderManagerMessage := []
  /-- How many of the requests told to the execution actor it has taken. -/
  executed : Nat := 0
  account : AccountActor
  /-- How many of the messages told to the account actor it has taken. -/
  applied : Nat := 0

abbrev PartitionCall := EStateM Failure AccountPartition

def OrderError.raisedAs : OrderError → Failure
  | .orderTransitionError msg => .valueError msg
  | .valueError msg => .valueError msg
  | .keyError orderId => .keyError orderId.value
  | .riskRejectedOrder msg => .other msg
  | .orderLifecycleError msg => .other msg
  | .unknownBrokerOrder msg _ => .other msg
  | .missingFillPrice msg => .other msg

def OrderManagerActorError.raisedAs : OrderManagerActorError → Failure
  | .order failure => failure.raisedAs
  | .valueError msg => .valueError msg
  | .runtimeError msg => .runtimeError msg
  | .unsupportedOrderReplace msg => .other msg

namespace AccountPartition

def handleOrder (msg : OrderManagerMessage) : PartitionCall Unit := fun part =>
  match (OrderManagerActor.handle msg).run part.orderManager with
  | .ok _ orderManager => .ok () { part with orderManager }
  | .error failure orderManager =>
    .error failure.raisedAs { part with orderManager }

def processOrders : List OrderManagerMessage → PartitionCall Unit
  | [] => return
  | msg :: messages => do
    modify fun part => { part with orderManagerMailbox := messages }
    handleOrder msg
    processOrders messages

def orderManagerProcessAll : PartitionCall Unit := do
  processOrders (← get).orderManagerMailbox

variable (answer : ExecutionRequest → Except Failure ExecutionReport)

def handleExecution (req : ExecutionRequest) : PartitionCall Unit := do
  modify fun part => { part with executed := part.executed + 1 }
  let report ← orRaise (answer req)
  modify fun part => { part with
    orderManagerMailbox := part.orderManagerMailbox ++ [.report report] }

/-- Drain the execution actor's mailbox. -/
def processExecutions : List ExecutionRequest → PartitionCall Unit
  | [] => return
  | req :: requests => do
    handleExecution answer req
    processExecutions requests

def executionProcessAll : PartitionCall Unit := do
  let part ← get
  processExecutions answer (part.orderManager.executionRef.drop part.executed)

variable (caps : PythonText.UpperCase)

def handleFill (msg : ApplyFill) : PartitionCall Unit := fun part =>
  match part.account.applyFill caps msg with
  | (.ok (), account) =>
    .ok () { part with account, applied := part.applied + 1 }
  | (.error failure, account) =>
    .error (.valueError failure)
      { part with account, applied := part.applied + 1 }

/-- Drain the account actor's mailbox. -/
def processFills : List ApplyFill → PartitionCall Unit
  | [] => return
  | msg :: messages => do
    handleFill caps msg
    processFills messages

def accountProcessAll : PartitionCall Unit := do
  let part ← get
  processFills caps (part.orderManager.accountRef.drop part.applied)

def askAccountSnapshot : PartitionCall AccountSnapshot := do
  accountProcessAll caps
  let part ← get
  let (snapshot, account) := part.account.snapshot
  set { part with account }
  return snapshot

def tellOrder (msg : SubmitOrder) : PartitionCall Unit := do
  modify fun part => { part with
    orderManagerMailbox := part.orderManagerMailbox ++ [.submit msg] }
  orderManagerProcessAll
  executionProcessAll answer
  orderManagerProcessAll
  accountProcessAll caps

def askFillCount : PartitionCall Nat := do
  orderManagerProcessAll
  return (← get).orderManager.fills.length

def askFillsSince (index : Nat) : PartitionCall (List OrderFill) := do
  orderManagerProcessAll
  return (← get).orderManager.fills.drop index

def askOrder (orderId : OrderId) : PartitionCall Order := do
  orderManagerProcessAll
  match (← get).orderManager.manager.orders.get? orderId with
  | some order => return order
  | none => throw (.keyError orderId.value)

/-- The actors as the intent processor uses them. -/
def actors : PartitionActors AccountPartition where
  accountSnapshot := askAccountSnapshot caps
  fillCount := askFillCount
  submitOrder := tellOrder answer caps
  fillsSince := askFillsSince
  order := askOrder

def init (accountId : AccountId) (initialCash : Dict String Decimal) :
    AccountPartition where
  orderManager := { accountId := some accountId }
  account := .init initialCash (some accountId)

end AccountPartition

end Qts
