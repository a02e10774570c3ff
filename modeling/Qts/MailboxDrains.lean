import Qts.BrokerPartition
import Qts.OrderRoutes
import Qts.AccountTotals
import Qts.DictionaryTotals

/-! # Draining the mailboxes of a partition -/

namespace Qts

namespace OrderManagerActor

def countedFills (actor : OrderManagerActor) : List ApplyFill :=
  firstDeliveries ApplyFill.fillId ∅ actor.accountRef

structure Compacted (before after : OrderManagerActor) : Prop where
  kept : ∀ orderId order, after.manager.orders.get? orderId = some order →
    before.manager.orders.get? orderId = some order
  live : ∀ orderId order, before.manager.orders.get? orderId = some order →
    order.state ∉ terminalOrderStates →
      after.manager.orders.get? orderId = some order
  fills : after.accountRef = before.accountRef
  requests : after.executionRef = before.executionRef

namespace Compacted

variable {before after : OrderManagerActor}

theorem refl (actor : OrderManagerActor) : Compacted actor actor :=
  ⟨fun _ _ tracked => tracked, fun _ _ tracked _ => tracked, rfl, rfl⟩

end Compacted

end OrderManagerActor

open RaisingCalls

namespace AccountPartition

def withOrderManager (part : AccountPartition) (actor : OrderManagerActor)
    (mailbox : List OrderManagerMessage) : AccountPartition :=
  { part with
    orderManager := actor
    orderManagerMailbox := mailbox }

def executedWith (part : AccountPartition) (count : Nat) (reports : List ExecutionReport) :
    AccountPartition :=
  { part with
    executed := part.executed + count
    orderManagerMailbox := part.orderManagerMailbox ++ reports.map .report }

def appliedWith (part : AccountPartition) (count : Nat) (account : AccountActor) :
    AccountPartition :=
  { part with
    account
    applied := part.applied + count }

variable {part : AccountPartition} {actor : OrderManagerActor}
  {answer : ExecutionRequest → Except Failure ExecutionReport}
  {caps : PythonText.UpperCase}

theorem handleOrder_ends (part : AccountPartition) (mailbox : List OrderManagerMessage)
    {msg : OrderManagerMessage} {returned : OrderManagerActor → Prop} {refuted : Prop}
    (ends : Ends (fun _ after => returned after) (fun _ _ => refuted)
      (OrderManagerActor.handle msg) actor) :
    Ends (fun _ after => ∃ next, returned next ∧ after = part.withOrderManager next mailbox)
      (fun _ _ => refuted) (handleOrder msg) (part.withOrderManager actor mailbox) := by
  unfold Ends at ends ⊢
  simp only [handleOrder, EStateM.run, withOrderManager] at ends ⊢
  split at ends
  · next value next ran =>
    rw [ran]
    exact ⟨next, ends, rfl⟩
  · next failure next ran =>
    rw [ran]
    exact ends

theorem handleExecution_ok {req : ExecutionRequest} {report : ExecutionReport}
    (answered : answer req = .ok report) :
    (handleExecution answer req).run part = .ok () (part.executedWith 1 [report]) := by
  simp only [handleExecution, answered, EStateM.run_bind, EStateM.run_modify]
  rfl

end AccountPartition

end Qts
