import Qts.BrokerPartition
import Qts.IbkrOrderClient

/-! # Broker runtime reconciliation -/

namespace Qts

open PythonText

theorem OrderState.value_shown (state : OrderState) : isBlank state.value = false := by
  cases state <;> decide

def OrderSnapshot.ofOrder (order : Order) : OrderSnapshot where
  orderId := order.orderId
  instrumentId := order.intent.instrumentId
  side := order.intent.side
  quantity := order.intent.quantity
  status := order.state.value
  valid := by
    simp [OrderSnapshotFields.checks, Check.firstFailure, order.intent.quantity_pos,
      order.state.value_shown]

namespace BrokerRuntimeReconciliation

def cashEntries : List (String × Decimal) → Except String (List ReconciliationCashSnapshot)
  | [] => .ok []
  | (currency, balance) :: rest =>
    if shown : isBlank currency = false then do
      let entries ← cashEntries rest
      return ⟨currency, balance, shown⟩ :: entries
    else
      .error "currency must not be empty"

def internalSnapshot (accountId : AccountId) (orders : List Order) (account : AccountSnapshot) :
    Except String ReconciliationSnapshot := do
  let cash ← cashEntries account.cash.items
  return {
    accountId
    orders := orders.map OrderSnapshot.ofOrder
    positions := account.holdings.items.map fun item => ⟨item.1, item.2.quantity⟩
    cash }

end BrokerRuntimeReconciliation

structure BrokerRuntime where
  partition : AccountPartition
  session : IbkrOrderSession

inductive BrokerRuntimeEvent
  | message (message : OrderManagerMessage)
  | session (event : IbkrSessionEvent)

namespace BrokerRuntime

open RaisingCalls BrokerRuntimeReconciliation

def handleMessage (caps : UpperCase) (part : AccountPartition)
    (message : OrderManagerMessage) : AccountPartition :=
  let handled := endState ((AccountPartition.handleOrder message).run part)
  endState ((AccountPartition.accountProcessAll caps).run handled)

def step (caps : UpperCase) :
    StepRuns.Step BrokerRuntime BrokerRuntimeEvent (List ExecutionReport) := fun runtime event =>
  match event with
  | .message message =>
    ([], { runtime with partition := handleMessage caps runtime.partition message })
  | .session event =>
    let (reports, session) := IbkrOrderSession.step caps runtime.session event
    (reports, {
      partition := reports.foldl (fun part report =>
        handleMessage caps part (.report report)) runtime.partition
      session })

def start (accountId : AccountId) (brokerAccount : String)
    (initialCash : Dict String Decimal) (symbolMapping : BrokerSymbolMapping) :
    BrokerRuntime where
  partition := .init accountId initialCash
  session := .start brokerAccount symbolMapping

def reconcile (amountText : Decimal → String) (accountId : AccountId) (tolerance : Decimal)
    (runtime : BrokerRuntime) : Except String ReconciliationReport := do
  let internal ← internalSnapshot accountId runtime.partition.orderManager.manager.orders.values
    runtime.partition.account.snapshot.1
  Reconciliation.reconcileSnapshots amountText internal
    (runtime.session.normalizer.brokerReconciliationSnapshot accountId) tolerance

end BrokerRuntime

end Qts
