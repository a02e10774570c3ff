import Qts.IntentSubmissions

/-! # Order numbers of submissions -/

namespace Qts

open OrderNumbers List

structure FreshSubmissions (messages : List SubmitOrder) : Prop where
  orderIds : (messages.map fun msg => msg.intent.orderId).Nodup
  brokerOrderIds : (messages.map fun msg => msg.brokerOrderId).Nodup

/-- Submissions whose ids are made from the given numbers. -/
structure CarriesNumbers (orderStem brokerStem : String) (messages : List SubmitOrder)
    (numbers : List Nat) : Prop where
  orderIds : messages.map (fun msg => msg.intent.orderId.value) =
    numbers.map (numbered orderStem)
  brokerOrderIds : messages.map (fun msg => msg.brokerOrderId) =
    numbers.map (numbered brokerStem)

/-- Submissions under increasing numbers up to a bound. -/
def NumberedUpTo (orderStem brokerStem : String) (messages : List SubmitOrder) (bound : Nat) :
    Prop :=
  ∃ numbers, CarriesNumbers orderStem brokerStem messages numbers ∧
    numbers.Pairwise (· < ·) ∧ ∀ number ∈ numbers, number ≤ bound

namespace CarriesNumbers

variable {orderStem brokerStem : String}

theorem nil : CarriesNumbers orderStem brokerStem [] [] :=
  ⟨rfl, rfl⟩

theorem append {first second : List SubmitOrder} {firstNumbers secondNumbers : List Nat}
    (firsts : CarriesNumbers orderStem brokerStem first firstNumbers)
    (seconds : CarriesNumbers orderStem brokerStem second secondNumbers) :
    CarriesNumbers orderStem brokerStem (first ++ second) (firstNumbers ++ secondNumbers) where
  orderIds := by
    rw [map_append, map_append, firsts.orderIds, seconds.orderIds]
  brokerOrderIds := by
    rw [map_append, map_append, firsts.brokerOrderIds, seconds.brokerOrderIds]

theorem fresh {messages : List SubmitOrder} {numbers : List Nat}
    (carries : CarriesNumbers orderStem brokerStem messages numbers)
    (distinct : numbers.Nodup) : FreshSubmissions messages where
  orderIds := by
    have texts : (messages.map fun msg => msg.intent.orderId.value).Nodup := by
      rw [carries.orderIds]
      exact distinct.map (numbered_injective orderStem)
    have ids : messages.map (fun msg => msg.intent.orderId.value) =
        (messages.map fun msg => msg.intent.orderId).map (·.value) := by
      rw [map_map]
      rfl
    rw [ids] at texts
    exact texts.of_map _
  brokerOrderIds := by
    rw [carries.brokerOrderIds]
    exact distinct.map (numbered_injective brokerStem)

end CarriesNumbers

namespace NumberedUpTo

variable {orderStem brokerStem : String} {messages : List SubmitOrder} {bound : Nat}

theorem nil (bound : Nat) : NumberedUpTo orderStem brokerStem [] bound :=
  ⟨[], .nil, .nil, nofun⟩

section

variable (numbered : NumberedUpTo orderStem brokerStem messages bound)

include numbered

theorem fresh : FreshSubmissions messages := by
  obtain ⟨numbers, carries, increasing, _⟩ := numbered
  exact carries.fresh (increasing.imp Nat.ne_of_lt)

theorem mono {higher : Nat} (above : bound ≤ higher) :
    NumberedUpTo orderStem brokerStem messages higher := by
  obtain ⟨numbers, carries, increasing, below⟩ := numbered
  exact ⟨numbers, carries, increasing, fun number mem => (below number mem).trans above⟩

theorem extend {more : List SubmitOrder} {count : Nat}
    (carries : CarriesNumbers orderStem brokerStem more (List.range' (bound + 1) count)) :
    NumberedUpTo orderStem brokerStem (messages ++ more) (bound + count) := by
  obtain ⟨numbers, before, increasing, below⟩ := numbered
  refine ⟨numbers ++ List.range' (bound + 1) count, before.append carries, ?_, ?_⟩
  · refine pairwise_append.mpr ⟨increasing, pairwise_lt_range', ?_⟩
    intro number mem later after
    have old := below number mem
    have new := (mem_range'_1.mp after).1
    omega
  · intro number mem
    rcases mem_append.mp mem with old | new
    · exact (below number old).trans (Nat.le_add_right _ _)
    · have range := (mem_range'_1.mp new).2
      omega

end

end NumberedUpTo

namespace TargetIntentProcessor

variable {proc : TargetIntentProcessor} {req : IntentRequest}
  {riskState : RiskStateSnapshot}

/-- The approved plans of an intent come before the refused ones. -/
def ApprovedFirst (proc : TargetIntentProcessor) (req : IntentRequest)
    (riskState : RiskStateSnapshot) (plans : List OrderPlan) : Prop :=
  plans.Pairwise fun earlier later =>
    proc.approves req riskState later = true →
      proc.approves req riskState earlier = true

variable {plans : List OrderPlan} {messages : List SubmitOrder} {orderNumber : Nat}

theorem Submitted.none_of_refused
    (submitted : proc.Submitted req riskState plans orderNumber messages)
    (refused : ∀ plan ∈ plans, proc.approves req riskState plan = false) :
    messages = [] := by
  induction submitted with
  | stopped => rfl
  | passed _ _ ih => exact ih fun plan mem => refused plan (mem_cons_of_mem _ mem)
  | taken approved _ _ _ =>
    rw [refused _ mem_cons_self] at approved
    cases approved

theorem Submitted.carries
    (submitted : proc.Submitted req riskState plans orderNumber messages)
    (leading : proc.ApprovedFirst req riskState plans) :
    CarriesNumbers proc.orderIdPrefix proc.brokerOrderIdPrefix messages
      (List.range' orderNumber messages.length) := by
  induction submitted with
  | stopped => exact .nil
  | @passed plan plans orderNumber messages refused rest ih =>
    have none : messages = [] := by
      refine rest.none_of_refused fun later mem => ?_
      have earlier := (pairwise_cons.mp leading).1 later mem
      rw [refused] at earlier
      exact Bool.eq_false_iff.mpr fun approved => Bool.noConfusion (earlier approved)
    rw [none]
    exact .nil
  | @taken plan plans orderNumber decision msg messages approved built rest ih =>
    have later := ih (pairwise_cons.mp leading).2
    obtain ⟨orderId, brokerOrderId, _, _⟩ := submission_fields built
    have first : CarriesNumbers proc.orderIdPrefix proc.brokerOrderIdPrefix [msg]
        [orderNumber] :=
      ⟨by simp only [map_cons, map_nil, orderId]; rfl,
        by simp only [map_cons, map_nil, brokerOrderId]; rfl⟩
    exact first.append later

def FirstPlanOnly (proc : TargetIntentProcessor) (req : IntentRequest)
    (riskState : RiskStateSnapshot) (plans : List OrderPlan) : Prop :=
  ∀ plan ∈ plans.tail, proc.approves req riskState plan = false

theorem FirstPlanOnly.approvedFirst (first : proc.FirstPlanOnly req riskState plans) :
    proc.ApprovedFirst req riskState plans := by
  cases plans with
  | nil => exact .nil
  | cons plan plans =>
    refine pairwise_cons.mpr ⟨fun later mem approved => ?_, ?_⟩
    · rw [first later mem] at approved
      cases approved
    · refine pairwise_of_forall_mem_list fun earlier _ later mem approved => ?_
      rw [first later mem] at approved
      cases approved

theorem Submitted.length_le_one
    (submitted : proc.Submitted req riskState plans orderNumber messages)
    (first : proc.FirstPlanOnly req riskState plans) : messages.length ≤ 1 := by
  cases submitted with
  | stopped => exact Nat.zero_le 1
  | passed _ rest =>
    rw [rest.none_of_refused first]
    exact Nat.zero_le 1
  | taken _ _ rest =>
    rw [rest.none_of_refused first]
    exact le_rfl

end TargetIntentProcessor

end Qts
