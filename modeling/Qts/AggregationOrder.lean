import Mathlib.Data.List.Permutation
import Mathlib.Data.List.Sublists
import Qts.SignalPolicy
import Qts.BacktestActorLoop

/-! # The order of strategy contributions -/

namespace Qts

open Dict List

structure StrategySignalEvent where
  bar : Bar
  intents : List TargetIntent := []
  accountId : Option AccountId := none
  correlationId : Option CorrelationId := none
  strategyId : Option StrategyId := none
  contributions : List SignalContribution := []
  conflictGroup : String := "default"
  signalWeight : Decimal := 1
  signalPriority : Int := 0
  signalAggregationPolicy : SignalAggregationPolicy := .sumTargets

structure SignalBatch extends AggregatedSignalBatch where
  bar : Bar
  intents : List TargetIntent
  instrumentId : InstrumentId
  correlationId : Option CorrelationId := none
  rejectedStrategyIds : List StrategyId := []
  conflicts : List SignalConflict := []
  aggregationPolicy : SignalAggregationPolicy := .sumTargets
  conflictGroup : String := "default"
  targetBeforeRisk : Option Decimal := none
  targetAfterAggregation : Option Decimal := none

structure SignalGroupKey where
  instrumentId : InstrumentId
  conflictGroup : String
  policy : SignalAggregationPolicy
deriving DecidableEq

def SignalContribution.groupKey (contribution : SignalContribution) : SignalGroupKey where
  instrumentId := contribution.intent.asset.instrumentId
  conflictGroup := contribution.conflictGroup
  policy := contribution.aggregationPolicy

structure DecisionIdTexts where
  isoformat : DateTime → String
  intentType : TargetIntentType → String
  value : Option Decimal → String
  digest : String → String

namespace SignalAggregatorActor

def contributions (msg : StrategySignalEvent) :
    Except Failure (List SignalContribution) :=
  if msg.contributions.isEmpty then
    match msg.strategyId with
    | none => .ok []
    | some strategyId => msg.intents.mapM fun intent => SignalContribution.create
        { strategyId, intent
          aggregationPolicy := msg.signalAggregationPolicy
          priority := msg.signalPriority
          weight := msg.signalWeight
          conflictGroup := msg.conflictGroup }
  else .ok msg.contributions

def groupContributions (contributions : List SignalContribution) :
    Dict SignalGroupKey (List SignalContribution) :=
  contributions.foldl
    (fun grouped contribution => grouped.set contribution.groupKey
      ((grouped.get? contribution.groupKey).getD [] ++ [contribution])) .empty

variable (texts : DecisionIdTexts)

def aggregationDecisionId (msg : StrategySignalEvent) (key : SignalGroupKey)
    (policy : SignalAggregationPolicy) (contributions : List SignalContribution) : String :=
  let payload := String.intercalate "|"
    [(msg.accountId.map fun id => id.value).getD "",
      (msg.correlationId.map fun id => id.value).getD "",
      key.instrumentId.value,
      texts.isoformat msg.bar.startTime,
      texts.isoformat msg.bar.endTime,
      key.conflictGroup,
      policy.value,
      String.intercalate ";" (contributions.map fun item =>
        item.strategyId.value ++ ":" ++ texts.intentType item.intent.intentType ++ ":" ++
          texts.value item.intent.value)]
  "sigagg-" ++ String.ofList ((texts.digest payload).toList.take 16)

def batch (msg : StrategySignalEvent)
    (group : SignalGroupKey × List SignalContribution) : SignalBatch :=
  let decision := SignalPolicyEngine.aggregate ⟨group.1.policy⟩ group.2
  { bar := msg.bar
    intents := decision.intents
    aggregationDecisionId :=
      some (aggregationDecisionId texts msg group.1 decision.policy group.2)
    accountId := msg.accountId
    instrumentId := group.1.instrumentId
    correlationId := msg.correlationId
    contributingStrategyIds := decision.contributingStrategyIds
    rejectedStrategyIds := decision.rejectedStrategyIds
    conflicts := decision.conflicts
    conflictReason := decision.conflictReason
    aggregationPolicy := decision.policy
    conflictGroup := group.1.conflictGroup
    targetBeforeRisk := decision.targetBeforeRisk
    targetAfterAggregation := decision.targetAfterAggregation }

def handle (msg : StrategySignalEvent) : Except Failure (List SignalBatch) := do
  if msg.strategyId.isNone ∧ msg.contributions.isEmpty then
    return [{ bar := msg.bar
              intents := msg.intents
              accountId := msg.accountId
              instrumentId := msg.bar.instrumentId
              correlationId := msg.correlationId
              conflictGroup := msg.conflictGroup
              aggregationPolicy := msg.signalAggregationPolicy }]
  let contributions ← contributions msg
  if contributions.isEmpty then
    return [{ bar := msg.bar
              intents := []
              accountId := msg.accountId
              instrumentId := msg.bar.instrumentId
              correlationId := msg.correlationId }]
  return (groupContributions contributions).items.map (batch texts msg)

def ofGroup (key : SignalGroupKey) (contributions : List SignalContribution) :
    List SignalContribution :=
  contributions.filter fun contribution => decide (contribution.groupKey = key)

theorem get?_groupContributions (contributions : List SignalContribution) (key : SignalGroupKey) :
    (groupContributions contributions).get? key =
      if (ofGroup key contributions).isEmpty then none else some (ofGroup key contributions) := by
  induction contributions using reverseRecOn with
  | nil => rfl
  | append_singleton contributions contribution ih =>
    rw [groupContributions, foldl_append, foldl_cons, foldl_nil, ← groupContributions, get?_set]
    by_cases same : key = contribution.groupKey
    · subst same
      rw [if_pos rfl, ih, ofGroup, ofGroup, filter_append]
      cases filtered : contributions.filter fun other =>
          decide (other.groupKey = contribution.groupKey) with
      | nil => simp
      | cons first rest => simp
    · rw [if_neg same, ih]
      have apart : decide (contribution.groupKey = key) = false :=
        decide_eq_false (Ne.symm same)
      simp [ofGroup, filter_append, apart]

theorem mem_groupKeys_iff {contributions : List SignalContribution} {key : SignalGroupKey} :
    key ∈ (groupContributions contributions).keys ↔
      ∃ contribution ∈ contributions, contribution.groupKey = key := by
  rw [mem_keys_iff, get?_groupContributions]
  constructor
  · rintro ⟨members, present⟩
    split at present
    · cases present
    · next nonempty =>
      cases found : ofGroup key contributions with
      | nil => exact absurd (by rw [found]; rfl) nonempty
      | cons first rest =>
        have mem : first ∈ ofGroup key contributions := found ▸ mem_cons_self
        obtain ⟨among, grouped⟩ := mem_filter.mp mem
        exact ⟨first, among, of_decide_eq_true grouped⟩
  · rintro ⟨contribution, among, grouped⟩
    have mem : contribution ∈ ofGroup key contributions :=
      mem_filter.mpr ⟨among, decide_eq_true grouped⟩
    cases found : ofGroup key contributions with
    | nil =>
      rw [found] at mem
      cases mem
    | cons first rest => exact ⟨first :: rest, rfl⟩

theorem groupContributions_items (contributions : List SignalContribution) :
    (groupContributions contributions).items =
      (groupContributions contributions).keys.map fun key => (key, ofGroup key contributions) := by
  unfold Dict.keys
  rw [map_map]
  have each : ∀ item ∈ (groupContributions contributions).items,
      item = (item.1, ofGroup item.1 contributions) := by
    rintro ⟨key, members⟩ present
    have found := (get?_eq_some_iff _).mpr present
    rw [get?_groupContributions] at found
    split at found
    · cases found
    · rw [Option.some.inj found]
  conv_lhs => rw [← map_id (groupContributions contributions).items]
  exact map_congr_left each

end SignalAggregatorActor

namespace SignalAggregatorActor

open SignalPolicyEngine

/-- The same batch, up to the order of strategy ids and the identities of intents and decision. -/
structure SameBatch (first second : SignalBatch) : Prop where
  bar : first.bar = second.bar
  accountId : first.accountId = second.accountId
  instrumentId : first.instrumentId = second.instrumentId
  correlationId : first.correlationId = second.correlationId
  conflictGroup : first.conflictGroup = second.conflictGroup
  aggregationPolicy : first.aggregationPolicy = second.aggregationPolicy
  intents : first.intents.map target = second.intents.map target
  contributing : first.contributingStrategyIds.Perm second.contributingStrategyIds
  rejected : first.rejectedStrategyIds.Perm second.rejectedStrategyIds
  conflicts : Forall₂ SameConflict first.conflicts second.conflicts
  conflictReason : first.conflictReason = second.conflictReason
  targetBeforeRisk : first.targetBeforeRisk = second.targetBeforeRisk
  targetAfterAggregation : first.targetAfterAggregation = second.targetAfterAggregation

/-- The same batches in some order. -/
def SameBatches (first second : List SignalBatch) : Prop :=
  ∃ arranged : List SignalBatch, arranged.Perm second ∧ Forall₂ SameBatch first arranged

/-- Both events fail alike or yield the same batches. -/
def SameHandling : Except Failure (List SignalBatch) →
    Except Failure (List SignalBatch) → Prop
  | .ok first, .ok second => SameBatches first second
  | .error first, .error second => first = second
  | _, _ => False

/-- The contributions of one group that compete by priority have different ones. -/
def DistinctPriorities (contributions : List SignalContribution) : Prop :=
  ∀ key : SignalGroupKey, key.policy = .priorityWins →
    (ofGroup key contributions).Pairwise fun first second => first.priority ≠ second.priority

/-- What is netted in one group is of one intent type and one order specification. -/
def UniformGroups (contributions : List SignalContribution) : Prop :=
  ∀ key : SignalGroupKey, Uniform key.policy (ofGroup key contributions)

/-- The totals of the netted groups are formed without rounding. -/
def ExactTotals (contributions : List SignalContribution) : Prop :=
  ∀ key : SignalGroupKey, SumExactly key.policy (ofGroup key contributions)

variable {texts : DecisionIdTexts} {msg : StrategySignalEvent}
  {contributions permuted : List SignalContribution}

theorem SameBatch.refl (batch : SignalBatch) : SameBatch batch batch :=
  ⟨rfl, rfl, rfl, rfl, rfl, rfl, rfl, .refl _, .refl _,
    forall₂_same.mpr fun _ _ => ⟨rfl, .refl _, rfl⟩, rfl, rfl, rfl⟩

theorem SameHandling.refl (handled : Except Failure (List SignalBatch)) :
    SameHandling handled handled := by
  cases handled with
  | error failure => exact rfl
  | ok batches => exact ⟨batches, .refl _, forall₂_same.mpr fun batch _ => .refl batch⟩

theorem ofGroup_perm (key : SignalGroupKey) (reordered : permuted.Perm contributions) :
    (ofGroup key permuted).Perm (ofGroup key contributions) :=
  reordered.filter _

theorem groupKeys_perm (reordered : permuted.Perm contributions) :
    (groupContributions permuted).keys.Perm (groupContributions contributions).keys := by
  refine (perm_ext_iff_of_nodup (groupContributions permuted).distinct
    (groupContributions contributions).distinct).mpr ?_
  intro key
  show key ∈ (groupContributions permuted).keys ↔ key ∈ (groupContributions contributions).keys
  rw [mem_groupKeys_iff, mem_groupKeys_iff]
  constructor
  · rintro ⟨contribution, among, grouped⟩
    exact ⟨contribution, reordered.subset among, grouped⟩
  · rintro ⟨contribution, among, grouped⟩
    exact ⟨contribution, reordered.symm.subset among, grouped⟩

theorem handle_contributions (msg : StrategySignalEvent) (nonempty : contributions ≠ []) :
    handle texts { msg with contributions } =
      .ok ((groupContributions contributions).keys.map fun key =>
        batch texts { msg with contributions }
          (key, ofGroup key contributions)) := by
  have shown : contributions.isEmpty = false := by
    cases contributions with
    | nil => exact absurd rfl nonempty
    | cons first rest => rfl
  simp only [handle, SignalAggregatorActor.contributions, shown, groupContributions_items, map_map]
  simp [bind, Except.bind, pure, Except.pure, shown, Function.comp_def]

variable {key : SignalGroupKey}

theorem sameBatch_of_decision {members others : List SignalContribution}
    {other : StrategySignalEvent} (sameBar : msg.bar = other.bar)
    (sameAccount : msg.accountId = other.accountId)
    (sameCorrelation : msg.correlationId = other.correlationId)
    (decisions : SameDecision (aggregate ⟨key.policy⟩ members) (aggregate ⟨key.policy⟩ others)) :
    SameBatch (batch texts msg (key, members)) (batch texts other (key, others)) :=
  ⟨sameBar, sameAccount, rfl, sameCorrelation, rfl, decisions.policy, decisions.intents,
    decisions.contributing, decisions.rejected, decisions.conflicts, decisions.conflictReason,
    decisions.targetBeforeRisk, decisions.targetAfterAggregation⟩

theorem handle_perm (reordered : permuted.Perm contributions)
    (distinct : DistinctPriorities contributions) (exact : ExactTotals contributions)
    (uniform : UniformGroups contributions) :
    SameHandling (handle texts { msg with contributions })
      (handle texts { msg with contributions := permuted }) := by
  cases contributions with
  | nil =>
    rw [reordered.eq_nil]
    exact .refl _
  | cons first rest =>
    have nonempty : permuted ≠ [] := by
      rintro rfl
      exact absurd reordered.symm.eq_nil (cons_ne_nil _ _)
    rw [handle_contributions msg (cons_ne_nil first rest),
      handle_contributions msg nonempty]
    refine ⟨(groupContributions (first :: rest)).keys.map fun key =>
      batch texts { msg with contributions := permuted } (key, ofGroup key permuted),
      (groupKeys_perm reordered).symm.map _, ?_⟩
    refine forall₂_map_left_iff.mpr (forall₂_map_right_iff.mpr ?_)
    refine forall₂_same.mpr ?_
    intro key _
    refine sameBatch_of_decision rfl rfl rfl ?_
    refine aggregate_perm (ofGroup_perm key reordered) (uniform key) (exact key) ?_
      (distinct key)
    intro one oneAmong other otherAmong
    have oneKey := of_decide_eq_true (mem_filter.mp oneAmong).2
    have otherKey := of_decide_eq_true (mem_filter.mp otherAmong).2
    have sameInstrument := congrArg SignalGroupKey.instrumentId (oneKey.trans otherKey.symm)
    exact congrArg (fun id : InstrumentId => id.value) sameInstrument

theorem aggregate_policy (engine : SignalPolicyEngine) (contributions : List SignalContribution) :
    (engine.aggregate contributions).policy = engine.policy := by
  cases contributions with
  | nil => rfl
  | cons first rest =>
    rw [aggregate]
    split
    · rfl
    split
    · rfl
    · rfl

theorem exists_of_forall₂ {One Other : Type} {related : One → Other → Prop} {ones : List One}
    {others : List Other} (alike : Forall₂ related ones others) {one : One}
    (among : one ∈ ones) : ∃ other ∈ others, related one other := by
  induction alike with
  | nil => cases among
  | cons holds rest ih =>
    rcases mem_cons.mp among with rfl | later
    · exact ⟨_, mem_cons_self, holds⟩
    · obtain ⟨other, mem, found⟩ := ih later
      exact ⟨other, mem_cons_of_mem _ mem, found⟩

theorem sameBatch_of_sameHandling (present : key ∈ (groupContributions contributions).keys)
    (nonempty : contributions ≠ []) (permutedNonempty : permuted ≠ [])
    (same : SameHandling (handle texts { msg with contributions })
      (handle texts { msg with contributions := permuted })) :
    SameBatch
      (batch texts { msg with contributions }
        (key, ofGroup key contributions))
      (batch texts { msg with contributions := permuted } (key, ofGroup key permuted)) := by
  rw [handle_contributions msg nonempty, handle_contributions msg permutedNonempty] at same
  obtain ⟨arranged, rearranged, alike⟩ := same
  obtain ⟨other, among, sameBatch⟩ := exists_of_forall₂ alike
    (mem_map_of_mem present)
  obtain ⟨otherKey, _, rfl⟩ := mem_map.mp (rearranged.subset among)
  have policies := sameBatch.aggregationPolicy
  unfold batch at policies
  dsimp only at policies
  rw [aggregate_policy, aggregate_policy] at policies
  obtain rfl : key = otherKey := by
    cases key
    cases otherKey
    cases sameBatch.instrumentId
    cases sameBatch.conflictGroup
    cases policies
    rfl
  exact sameBatch

theorem target_of_first {policy : SignalAggregationPolicy} {first : SignalContribution}
    {rest : List SignalContribution} (netted : Netted policy (first :: rest)) :
    ∃ total, (aggregate ⟨policy⟩ (first :: rest)).intents.map target =
      [(first.intent.intentType, total, first.intent.orderSpec)] := by
  rw [aggregate_netted netted]
  exact ⟨_, rfl⟩

/-- Where every order is handled alike, the batch of a netted group asks for the type and the order
specification of each of its contributions: any of them may come first. -/
theorem target_of_mem {contribution : SignalContribution}
    (alike : ∀ permuted : List SignalContribution, permuted.Perm contributions →
      SameHandling (handle texts { msg with contributions })
        (handle texts { msg with contributions := permuted }))
    (netted : Netted key.policy (ofGroup key contributions))
    (among : contribution ∈ ofGroup key contributions) :
    ∃ total, (aggregate ⟨key.policy⟩ (ofGroup key contributions)).intents.map target =
      [(contribution.intent.intentType, total, contribution.intent.orderSpec)] := by
  obtain ⟨mem, grouped⟩ := mem_filter.mp among
  have fronted : (contribution :: contributions.erase contribution).Perm contributions :=
    (perm_cons_erase mem).symm
  have present : key ∈ (groupContributions contributions).keys :=
    mem_groupKeys_iff.mpr ⟨contribution, mem, of_decide_eq_true grouped⟩
  have same := sameBatch_of_sameHandling present (ne_nil_of_mem mem)
    (cons_ne_nil _ _) (alike _ fronted)
  have group : ofGroup key (contribution :: contributions.erase contribution) =
      contribution :: ofGroup key (contributions.erase contribution) :=
    filter_cons_of_pos grouped
  have stillNetted : Netted key.policy
      (contribution :: ofGroup key (contributions.erase contribution)) := by
    rw [← group]
    exact (netted_perm (ofGroup_perm key fronted)).mpr netted
  obtain ⟨total, asked⟩ := target_of_first stillNetted
  refine ⟨total, ?_⟩
  rw [← asked, ← group]
  exact same.intents

/-- Where totals are not rounded, every order of the contributions is handled alike exactly when no
group nets targets of different types or order specifications. -/
theorem handles_alike_iff (texts : DecisionIdTexts) (msg : StrategySignalEvent)
    (contributions : List SignalContribution) (distinct : DistinctPriorities contributions)
    (exact : ExactTotals contributions) :
    (∀ permuted : List SignalContribution, permuted.Perm contributions →
      SameHandling (handle texts { msg with contributions })
        (handle texts { msg with contributions := permuted })) ↔
      UniformGroups contributions := by
  constructor
  · intro alike key netted first firstAmong second secondAmong
    obtain ⟨_, firstAsked⟩ := target_of_mem alike netted firstAmong
    obtain ⟨_, secondAsked⟩ := target_of_mem alike netted secondAmong
    rw [firstAsked] at secondAsked
    simp only [cons.injEq, Prod.mk.injEq, and_true] at secondAsked
    exact ⟨secondAsked.1, secondAsked.2.2⟩
  · intro uniform permuted reordered
    exact handle_perm reordered distinct exact uniform

namespace MixedTypes

def apple : InstrumentId :=
  ⟨⟨"EQUITY.US.NASDAQ.AAPL", rfl⟩⟩

def bar : Bar where
  instrumentId := apple
  startTime := 0
  endTime := 60
  timeframe := "1m"
  sessionId := "session-1"
  openPrice := 10
  high := 10
  low := 10
  close := 10
  valid := by decide +kernel

def noTexts : DecisionIdTexts where
  isoformat _ := ""
  intentType _ := ""
  value _ := ""
  digest text := text

def contribution (strategy : StrategyId) (intentType : TargetIntentType) (value : Decimal) :
    SignalContribution where
  strategyId := strategy
  intent :=
    { asset := ⟨apple, "AAPL", rfl⟩
      intentType
      value := some value
      intentId := "intent" }
  valid := by
    show Check.firstFailure [⟨decide ((1 : Decimal) < 0), "signal weight must be non-negative"⟩,
      ⟨PythonText.isBlank "default", "conflict_group must not be empty"⟩] = none
    decide +kernel

/-- One strategy asks for ten shares, another for twenty, or for half of the equity. -/
def shares : SignalContribution :=
  contribution ⟨⟨"strategy-a", rfl⟩⟩ .quantity 10

def moreShares : SignalContribution :=
  contribution ⟨⟨"strategy-b", rfl⟩⟩ .quantity 20

def half : SignalContribution :=
  contribution ⟨⟨"strategy-b", rfl⟩⟩ .percent (1 / 2)

def barEvent : StrategySignalEvent where
  bar := bar

theorem distinctPriorities (contributions : List SignalContribution)
    (summed : ∀ contribution ∈ contributions, contribution.aggregationPolicy = .sumTargets) :
    DistinctPriorities contributions := by
  intro key wins
  have empty : ofGroup key contributions = [] := by
    refine filter_eq_nil_iff.mpr ?_
    intro contribution among grouped
    have policy := congrArg SignalGroupKey.policy (of_decide_eq_true grouped)
    rw [wins] at policy
    cases (summed contribution among).symm.trans policy
  rw [empty]
  exact List.Pairwise.nil

theorem exactTotals : ExactTotals [shares, moreShares] := by
  intro key _ permuted reordered
  have known : ∀ weighted, ∀ part ∈ sublists' [shares, moreShares], ∀ order ∈ permutations' part,
      DecimalRounding.SumsExactly (order.map (share weighted)) := by
    decide +kernel
  exact known _ _ (mem_sublists'.mpr filter_sublist) _ (mem_permutations'.mpr reordered)

end MixedTypes

/-- Two strategies that both ask for shares are handled alike in either order. -/
theorem shares_handled_alike :
    SameHandling
      (handle MixedTypes.noTexts
        { MixedTypes.barEvent with contributions := [MixedTypes.shares, MixedTypes.moreShares] })
      (handle MixedTypes.noTexts { MixedTypes.barEvent with
          contributions := [MixedTypes.moreShares, MixedTypes.shares] }) := by
  refine (handles_alike_iff MixedTypes.noTexts MixedTypes.barEvent
    [MixedTypes.shares, MixedTypes.moreShares]
    (MixedTypes.distinctPriorities _ (by decide +kernel)) MixedTypes.exactTotals).mpr ?_ _
    (List.Perm.swap _ _ _)
  have oneKind : ∀ contribution ∈ [MixedTypes.shares, MixedTypes.moreShares],
      contribution.intent.intentType = .quantity ∧
        contribution.intent.orderSpec = .default := by
    decide +kernel
  intro key _ first firstAmong second secondAmong
  have firstKind := oneKind first (mem_of_mem_filter firstAmong)
  have secondKind := oneKind second (mem_of_mem_filter secondAmong)
  exact ⟨firstKind.1.trans secondKind.1.symm, firstKind.2.trans secondKind.2.symm⟩

theorem targets_of_forall₂ {batches arranged : List SignalBatch}
    (alike : Forall₂ SameBatch batches arranged) :
    batches.map (fun batch => batch.intents.map target) =
      arranged.map fun batch => batch.intents.map target := by
  induction alike with
  | nil => rfl
  | cons holds rest ih => rw [map_cons, map_cons, holds.intents, ih]

theorem targets_perm_of_sameHandling {first second : Except Failure (List SignalBatch)}
    (same : SameHandling first second)
    {firstTargets secondTargets : List (List (TargetIntentType × Option Decimal × OrderSpec))}
    (firstAsks : (first.map fun batches => batches.map fun batch => batch.intents.map target) =
      .ok firstTargets)
    (secondAsks : (second.map fun batches => batches.map fun batch => batch.intents.map target) =
      .ok secondTargets) : firstTargets.Perm secondTargets := by
  cases first with
  | error failure => cases firstAsks
  | ok batches =>
    cases second with
    | error failure => cases secondAsks
    | ok others =>
      cases firstAsks
      cases secondAsks
      obtain ⟨arranged, rearranged, alike⟩ := same
      dsimp only
      rw [targets_of_forall₂ alike]
      exact rearranged.map _

/-- A quantity and a percentage are netted into a quantity or into a percentage, by which of them
comes first. -/
theorem mixed_types_depend_on_order :
    ((handle MixedTypes.noTexts
        { MixedTypes.barEvent with contributions := [MixedTypes.shares, MixedTypes.half] }).map
      fun batches => batches.map fun batch => batch.intents.map target) =
        .ok [[(.quantity, some (21 / 2), .default)]] ∧
    ((handle MixedTypes.noTexts
        { MixedTypes.barEvent with contributions := [MixedTypes.half, MixedTypes.shares] }).map
      fun batches => batches.map fun batch => batch.intents.map target) =
        .ok [[(.percent, some (21 / 2), .default)]] ∧
    ¬ SameHandling
      (handle MixedTypes.noTexts
        { MixedTypes.barEvent with contributions := [MixedTypes.shares, MixedTypes.half] })
      (handle MixedTypes.noTexts
        { MixedTypes.barEvent with contributions := [MixedTypes.half, MixedTypes.shares] }) := by
  refine ⟨by decide +kernel, by decide +kernel, ?_⟩
  intro same
  have reordered :
      Perm [[(TargetIntentType.quantity, some (21 / 2 : Decimal), OrderSpec.default)]]
        [[(TargetIntentType.percent, some (21 / 2 : Decimal), OrderSpec.default)]] :=
    targets_perm_of_sameHandling same (by decide +kernel) (by decide +kernel)
  cases perm_singleton.mp reordered

end SignalAggregatorActor

end Qts
