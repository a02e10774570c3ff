import Qts.CallbackRoutes
import Qts.OrderNumbers

/-! # Routes of the placed orders -/

namespace Qts

open RaisingCalls

def PlacedOrder.ref (order : PlacedOrder) : String :=
  order.order.orderRef

namespace IbkrOrderRequest

variable {caps : PythonText.UpperCase} {req : IbkrOrderRequest}

theorem applyBracketLegPrice_ref {order priced : IbapiOrder} {leg : BracketLeg}
    (applied : applyBracketLegPrice order leg = .ok priced) : priced.orderRef = order.orderRef := by
  unfold applyBracketLegPrice at applied
  split at applied <;> cases applied <;> rfl

theorem bracketChildren_ids {parentId legs index : Nat} {rest : List BracketLeg}
    {children : List PlacedOrder}
    (built : req.bracketChildren parentId legs index rest = .ok children) :
    children.map (·.orderId) = List.range' (parentId + 1 + index) rest.length ∧
      ∀ first, children.head? = some first → first.ref = req.childRef index := by
  induction rest generalizing index children with
  | nil =>
    cases built
    refine ⟨rfl, ?_⟩
    rintro first ⟨⟩
  | cons leg rest ih =>
    obtain ⟨child, made, built⟩ := bind_inv built
    obtain ⟨others, builtRest, built⟩ := bind_inv built
    cases built
    refine ⟨?_, ?_⟩
    · rw [List.map_cons, (ih builtRest).1, List.length_cons, List.range'_succ]
      rfl
    · rintro first ⟨⟩
      exact applyBracketLegPrice_ref made

variable {orders : List PlacedOrder}

theorem orders_ids {firstId : Nat} (built : req.orders caps firstId = .ok orders) :
    orders.map (·.orderId) = List.range' firstId req.reserved ∧
      ∃ parent ∈ orders, parent.orderId = firstId ∧ parent.ref = req.clientOrderId := by
  unfold IbkrOrderRequest.orders at built
  unfold reserved
  split at built
  · next bracket =>
    obtain ⟨children, builtChildren, built⟩ := bind_inv built
    cases built
    rw [if_pos bracket]
    refine ⟨?_, ⟨_, List.mem_cons_self, rfl, rfl⟩⟩
    rw [List.map_cons, (bracketChildren_ids builtChildren).1, Nat.add_comm 1, List.range'_succ]
  · next plain =>
    cases built
    rw [if_neg plain]
    exact ⟨rfl, ⟨_, List.mem_cons_self, rfl, rfl⟩⟩

theorem orders_plain {firstId : Nat} (plain : req.orderType ≠ .bracket)
    (built : req.orders caps firstId = .ok orders) :
    orders = [⟨firstId, req.contractSpec, req.toIbapiOrder caps⟩] := by
  rw [IbkrOrderRequest.orders, if_neg plain] at built
  cases built
  rfl

theorem two_legs (bracket : req.orderType = .bracket) :
    2 ≤ (req.bracketLegs.getD []).length := by
  have present := @check_passes req
    ⟨decide (req.orderType = .bracket) && req.bracketLegs.isNone,
      "bracket_legs are required for bracket orders"⟩ (by simp [IbkrOrderRequestFields.checks])
  have enough := @check_passes req
    ⟨decide (req.orderType = .bracket) &&
        req.bracketLegs.any fun legs => decide (legs.length < 2),
      "bracket orders require at least two child legs"⟩ (by simp [IbkrOrderRequestFields.checks])
  cases legs : req.bracketLegs with
  | none => simp [bracket, legs] at present
  | some legs' =>
    have long : ¬ legs'.length < 2 := by simpa [bracket, legs] using enough
    rw [Option.getD_some]
    omega

theorem childRef_ne (req : IbkrOrderRequest) (index : Nat) :
    req.childRef index ≠ req.clientOrderId := by
  intro same
  have lengths := congrArg (fun text => text.toList.length) same
  simp only [childRef, String.toList_append, List.length_append] at lengths
  have shown : "-bracket-".toList.length = 9 := by decide
  omega

theorem orders_bracket {firstId : Nat} (bracket : req.orderType = .bracket)
    (built : req.orders caps firstId = .ok orders) :
    ∃ child ∈ orders, child.ref ≠ req.clientOrderId := by
  rw [IbkrOrderRequest.orders, if_pos bracket] at built
  obtain ⟨children, builtChildren, built⟩ := bind_inv built
  cases built
  obtain ⟨ids, first⟩ := bracketChildren_ids builtChildren
  cases children with
  | nil =>
    have none : 0 = (req.bracketLegs.getD []).length := by
      simpa using congrArg List.length ids
    have enough := two_legs bracket
    omega
  | cons child rest =>
    refine ⟨child, List.mem_cons_of_mem _ List.mem_cons_self, ?_⟩
    rw [first child rfl]
    exact req.childRef_ne 0

end IbkrOrderRequest

end Qts
