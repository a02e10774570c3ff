import Qts.OrderSpecification
import Qts.RoundedArithmetic
import Mathlib.Data.List.MinMax
import Mathlib.Data.List.Pairwise
import Mathlib.Algebra.BigOperators.Group.List.Basic

/-!
# Signal aggregation policies

The contributions of one group are decided under one policy.  Where that nets their targets, the
sum is rounded after each of them, as decimal arithmetic does.
-/

namespace Qts

open DecimalRounding

inductive SignalAggregationPolicy
  | sumTargets
  | priorityWins
  | weightedNet
  | rejectConflict
deriving DecidableEq

def SignalAggregationPolicy.value : SignalAggregationPolicy → String
  | sumTargets => "sum_targets"
  | priorityWins => "priority_wins"
  | weightedNet => "weighted_net"
  | rejectConflict => "reject_conflict"

structure SignalContributionFields where
  strategyId : StrategyId
  intent : TargetIntent
  aggregationPolicy : SignalAggregationPolicy := .sumTargets
  priority : Int := 0
  weight : Decimal := 1
  conflictGroup : String := "default"
deriving DecidableEq

def SignalContributionFields.checks (contribution : SignalContributionFields) : List Check :=
  [⟨decide (contribution.weight < 0), "signal weight must be non-negative"⟩,
   ⟨PythonText.isBlank contribution.conflictGroup, "conflict_group must not be empty"⟩]

/-- One strategy's contribution to a target signal batch. -/
structure SignalContribution extends SignalContributionFields where
  valid : Check.firstFailure toSignalContributionFields.checks = none
deriving DecidableEq

def SignalContribution.create (fields : SignalContributionFields) :
    Except Failure SignalContribution :=
  match checked : Check.firstFailure fields.checks with
  | none => .ok ⟨fields, checked⟩
  | some msg => .error (.valueError msg)

/-- Detected conflict between strategy target directions. -/
structure SignalConflict where
  instrumentKey : String
  strategyIds : List StrategyId
  reason : String

structure SignalAggregationDecision where
  policy : SignalAggregationPolicy
  intents : List TargetIntent
  contributingStrategyIds : List StrategyId := []
  rejectedStrategyIds : List StrategyId := []
  conflicts : List SignalConflict := []
  conflictReason : String := ""
  targetBeforeRisk : Option Decimal := none
  targetAfterAggregation : Option Decimal := none

/-- Apply deterministic signal aggregation to strategy target intents. -/
structure SignalPolicyEngine where
  policy : SignalAggregationPolicy := .sumTargets

namespace SignalPolicyEngine

def strategyIds (contributions : List SignalContribution) : List StrategyId :=
  contributions.map fun item => item.strategyId

def instrumentKey (intent : TargetIntent) : String :=
  intent.asset.instrumentId.value

def sign : Option Decimal → Int
  | none => 0
  | some value => if value = 0 then 0 else if 0 < value then 1 else -1

def hasDirectionConflict (contributions : List SignalContribution) : Bool :=
  contributions.any (fun contribution => decide (sign contribution.intent.value = -1)) &&
    contributions.any (fun contribution => decide (sign contribution.intent.value = 1))

def conflict (first : SignalContribution) (contributions : List SignalContribution) :
    SignalConflict where
  instrumentKey := instrumentKey first.intent
  strategyIds := strategyIds contributions
  reason := "opposite directions for target quantity"

variable (engine : SignalPolicyEngine)

/-- Priorities are compared by the order of the integers that computes. -/
local instance : Preorder Int :=
  Int.instLinearOrder.toPreorder

def priorityWins (first : SignalContribution) (contributions : List SignalContribution) :
    SignalAggregationDecision :=
  let winner := (contributions.argmax fun item => item.priority).getD first
  { policy := engine.policy
    intents := [winner.intent]
    contributingStrategyIds := [winner.strategyId]
    rejectedStrategyIds := strategyIds (contributions.erase winner)
    targetBeforeRisk := winner.intent.value
    targetAfterAggregation := winner.intent.value }

/-- What a contribution adds to the net target. -/
def share (weighted : Bool) (contribution : SignalContribution) : Decimal :=
  let value := contribution.intent.value.getD 0
  if weighted then roundDecimal (value * contribution.weight) else value

def netTargets (first : SignalContribution) (contributions : List SignalContribution)
    (weighted : Bool) : SignalAggregationDecision :=
  let total := sum (contributions.map (share weighted))
  { policy := engine.policy
    intents := [{ first.intent with value := some total }]
    contributingStrategyIds := strategyIds contributions
    conflicts := if hasDirectionConflict contributions then [conflict first contributions] else []
    conflictReason :=
      if hasDirectionConflict contributions then "opposite directions netted" else ""
    targetBeforeRisk := some total
    targetAfterAggregation := some total }

def reject (first : SignalContribution) (contributions : List SignalContribution) :
    SignalAggregationDecision where
  policy := engine.policy
  intents := []
  rejectedStrategyIds := strategyIds contributions
  conflicts := [conflict first contributions]
  conflictReason := "opposite directions for target quantity"

def aggregate (contributions : List SignalContribution) : SignalAggregationDecision :=
  match contributions with
  | [] => { policy := engine.policy, intents := [] }
  | first :: _ =>
    if engine.policy = .priorityWins then engine.priorityWins first contributions
    else if engine.policy = .rejectConflict ∧ hasDirectionConflict contributions = true then
      engine.reject first contributions
    else engine.netTargets first contributions (decide (engine.policy = .weightedNet))

def target (intent : TargetIntent) : TargetIntentType × Option Decimal × OrderSpec :=
  (intent.intentType, intent.value, intent.orderSpec)

structure SameConflict (first second : SignalConflict) : Prop where
  instrumentKey : first.instrumentKey = second.instrumentKey
  strategyIds : first.strategyIds.Perm second.strategyIds
  reason : first.reason = second.reason

/-- The same decision, up to the order of the strategies and the identity of the intents. -/
structure SameDecision (first second : SignalAggregationDecision) : Prop where
  policy : first.policy = second.policy
  intents : first.intents.map target = second.intents.map target
  contributing : first.contributingStrategyIds.Perm second.contributingStrategyIds
  rejected : first.rejectedStrategyIds.Perm second.rejectedStrategyIds
  conflicts : List.Forall₂ SameConflict first.conflicts second.conflicts
  conflictReason : first.conflictReason = second.conflictReason
  targetBeforeRisk : first.targetBeforeRisk = second.targetBeforeRisk
  targetAfterAggregation : first.targetAfterAggregation = second.targetAfterAggregation

variable {engine} {contributions permuted : List SignalContribution}

theorem hasDirectionConflict_perm (reordered : permuted.Perm contributions) :
    hasDirectionConflict permuted = hasDirectionConflict contributions := by
  unfold hasDirectionConflict
  rw [reordered.any_eq, reordered.any_eq]

/-- Whether a policy nets the contributions of a group. -/
def Netted (policy : SignalAggregationPolicy) (contributions : List SignalContribution) : Prop :=
  policy ≠ .priorityWins ∧
    ¬ (policy = .rejectConflict ∧ hasDirectionConflict contributions = true)

/-- Contributions that are netted ask for targets of one type, by one order specification. -/
def Uniform (policy : SignalAggregationPolicy) (contributions : List SignalContribution) : Prop :=
  Netted policy contributions → ∀ first ∈ contributions, ∀ second ∈ contributions,
    first.intent.intentType = second.intent.intentType ∧
      first.intent.orderSpec = second.intent.orderSpec

/-- Netted contributions whose partial sums need no rounding, in any order of them. -/
def SumExactly (policy : SignalAggregationPolicy) (contributions : List SignalContribution) :
    Prop :=
  Netted policy contributions →
    ∀ permuted : List SignalContribution, permuted.Perm contributions →
      SumsExactly (permuted.map (share (decide (policy = .weightedNet))))

theorem SumExactly.total_perm (exact : SumExactly engine.policy contributions)
    (netted : Netted engine.policy contributions) (reordered : permuted.Perm contributions) :
    sum (permuted.map (share (decide (engine.policy = .weightedNet)))) =
      sum (contributions.map (share (decide (engine.policy = .weightedNet)))) := by
  rw [sum_eq (exact netted _ reordered), sum_eq (exact netted _ (.refl _))]
  exact (reordered.map _).sum_eq

theorem netted_perm {policy : SignalAggregationPolicy} (reordered : permuted.Perm contributions) :
    Netted policy permuted ↔ Netted policy contributions := by
  unfold Netted
  rw [hasDirectionConflict_perm reordered]

theorem aggregate_netted {first : SignalContribution} {rest : List SignalContribution}
    (netted : Netted engine.policy (first :: rest)) :
    engine.aggregate (first :: rest) =
      engine.netTargets first (first :: rest) (decide (engine.policy = .weightedNet)) := by
  rw [aggregate, if_neg netted.1, if_neg netted.2]

theorem strategyIds_perm (reordered : permuted.Perm contributions) :
    (strategyIds contributions).Perm (strategyIds permuted) :=
  reordered.symm.map _

theorem argmax_perm (reordered : permuted.Perm contributions)
    (distinct : contributions.Pairwise fun first second => first.priority ≠ second.priority) :
    (permuted.argmax fun item => item.priority) =
      contributions.argmax fun item => item.priority := by
  cases winner : contributions.argmax fun item => item.priority with
  | none =>
    obtain rfl : contributions = [] := List.argmax_eq_none.mp winner
    rw [reordered.eq_nil]
    rfl
  | some best =>
    cases other : permuted.argmax fun item => item.priority with
    | none =>
      obtain rfl : permuted = [] := List.argmax_eq_none.mp other
      rw [reordered.symm.eq_nil] at winner
      cases winner
    | some top =>
      obtain ⟨bestAmong, greatest, _⟩ := List.mem_argmax_iff.mp winner
      obtain ⟨topPermuted, topGreatest, _⟩ := List.mem_argmax_iff.mp other
      have topAmong : top ∈ contributions := reordered.subset topPermuted
      have upper : top.priority ≤ best.priority := greatest top topAmong
      have lower : best.priority ≤ top.priority :=
        topGreatest best (reordered.symm.subset bestAmong)
      by_contra differs
      have unlike : top ≠ best := fun same => differs (congrArg some same)
      have symmetric : Std.Symm fun first second : SignalContribution =>
          first.priority ≠ second.priority := ⟨fun _ _ => Ne.symm⟩
      exact distinct.forall topAmong bestAmong unlike (Int.le_antisymm upper lower)

theorem sameConflict {first other : SignalContribution} (reordered : permuted.Perm contributions)
    (sameInstrument : instrumentKey first.intent = instrumentKey other.intent) :
    SameConflict (conflict first contributions) (conflict other permuted) :=
  ⟨sameInstrument, strategyIds_perm reordered, rfl⟩

theorem aggregate_perm (reordered : permuted.Perm contributions)
    (uniform : Uniform engine.policy contributions) (exact : SumExactly engine.policy contributions)
    (sameInstrument : ∀ first ∈ contributions, ∀ second ∈ contributions,
      instrumentKey first.intent = instrumentKey second.intent)
    (distinct : engine.policy = .priorityWins →
      contributions.Pairwise fun first second => first.priority ≠ second.priority) :
    SameDecision (engine.aggregate contributions) (engine.aggregate permuted) := by
  cases contributions with
  | nil =>
    rw [reordered.eq_nil]
    exact ⟨rfl, rfl, .refl _, .refl _, .nil, rfl, rfl, rfl⟩
  | cons first rest =>
    cases permuted with
    | nil => exact absurd reordered.symm.eq_nil (List.cons_ne_nil _ _)
    | cons other others =>
      have otherAmong : other ∈ first :: rest := reordered.subset List.mem_cons_self
      have oneKey := sameInstrument first List.mem_cons_self other otherAmong
      by_cases wins : engine.policy = .priorityWins
      · rw [aggregate, aggregate, if_pos wins, if_pos wins]
        have sameWinner := argmax_perm reordered (distinct wins)
        have present : ∃ winner, ((first :: rest).argmax fun item => item.priority) =
            some winner := by
          cases found : (first :: rest).argmax fun item => item.priority with
          | none => exact absurd (List.argmax_eq_none.mp found) (List.cons_ne_nil _ _)
          | some winner => exact ⟨winner, rfl⟩
        obtain ⟨winner, found⟩ := present
        unfold priorityWins
        rw [sameWinner, found]
        exact ⟨rfl, rfl, .refl _, strategyIds_perm (reordered.erase winner), .nil, rfl, rfl, rfl⟩
      · rw [aggregate, aggregate, if_neg wins, if_neg wins, hasDirectionConflict_perm reordered]
        by_cases rejects : engine.policy = .rejectConflict ∧
            hasDirectionConflict (first :: rest) = true
        · rw [if_pos rejects, if_pos rejects]
          exact ⟨rfl, rfl, .refl _, strategyIds_perm reordered,
            .cons (sameConflict reordered oneKey) .nil, rfl, rfl, rfl⟩
        · rw [if_neg rejects, if_neg rejects]
          obtain ⟨oneType, oneSpec⟩ :=
            uniform ⟨wins, rejects⟩ first List.mem_cons_self other otherAmong
          unfold netTargets
          rw [hasDirectionConflict_perm reordered, exact.total_perm ⟨wins, rejects⟩ reordered]
          refine ⟨rfl, ?_, strategyIds_perm reordered, .refl _, ?_, rfl, rfl, rfl⟩
          · simp only [List.map_cons, List.map_nil, target, oneType, oneSpec]
          · dsimp only
            split
            · exact .cons (sameConflict reordered oneKey) .nil
            · exact .nil

end SignalPolicyEngine

end Qts
