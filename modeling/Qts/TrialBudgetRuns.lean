import Qts.LedgerIntegrity
import Qts.TrialBudgets
import Mathlib.Data.Rat.Encodable

/-! # Trial budgets over runs -/

namespace Qts

open Dict StepRuns TrialBudgetLedger DecimalRounding

namespace TrialBudgetManager

variable {Time : Type} (texts : TimestampTexts Time) (digest : Json → String)
  (decimals : DecimalTexts) (limits : TrialBudgetLimits)

structure BudgetScope where
  limit : Option Nat
  key : Trial → List String

def scopes : List BudgetScope :=
  [⟨limits.campaignTrialLimit, fun trial => [trial.campaignId]⟩,
   ⟨limits.strategyFamilyTrialLimit, fun trial => [trial.campaignId, trial.strategyFamily]⟩,
   ⟨limits.factorFamilyTrialLimit, fun trial => [trial.campaignId, trial.factorFamily]⟩,
   ⟨limits.ideaTrialLimit, fun trial => [trial.campaignId, trial.ideaId]⟩]

def BudgetScope.used (scope : BudgetScope) (accepted : List Trial) (key : List String) : Nat :=
  accepted.countP fun trial => decide (scope.key trial = key)

def campaignCosts (accepted : List Trial) (campaignId : String) : List Decimal :=
  (accepted.filter fun trial => decide (trial.campaignId = campaignId)).map fun trial =>
    trial.computeCost.getD 0

def CountRoom (accepted : List Trial) (trial : Trial) : Prop :=
  ∀ scope ∈ scopes limits, ∀ limit ∈ scope.limit, scope.used accepted (scope.key trial) < limit

def ComputeRoom (accepted : List Trial) (trial : Trial) : Prop :=
  ∀ limit ∈ limits.computeBudgetLimit,
    (campaignCosts accepted trial.campaignId).sum + trial.computeCost.getD 0 ≤ limit

def CountsWithin (accepted : List Trial) : Prop :=
  ∀ scope ∈ scopes limits, ∀ limit ∈ scope.limit, ∀ key, scope.used accepted key ≤ limit

def ComputeWithin (accepted : List Trial) : Prop :=
  ∀ limit ∈ limits.computeBudgetLimit, ∀ campaignId,
    (campaignCosts accepted campaignId).sum ≤ limit

variable {limits} {accepted : List Trial} {trial : Trial}

theorem CountsWithin.accept (within : CountsWithin limits accepted)
    (room : CountRoom limits accepted trial) : CountsWithin limits (accepted ++ [trial]) := by
  intro scope mem limit configured key
  rw [BudgetScope.used, List.countP_append, List.countP_singleton]
  split
  · next same =>
    rw [← of_decide_eq_true same]
    exact room scope mem limit configured
  · exact within scope mem limit configured key

theorem campaignCosts_append (accepted : List Trial) (trial : Trial) (campaignId : String) :
    campaignCosts (accepted ++ [trial]) campaignId = campaignCosts accepted campaignId ++
      if trial.campaignId = campaignId then [trial.computeCost.getD 0] else [] := by
  rw [campaignCosts, List.filter_append, List.map_append, List.filter_singleton]
  by_cases same : trial.campaignId = campaignId
  · rw [if_pos same, decide_eq_true same]
    rfl
  · rw [if_neg same, decide_eq_false same]
    rfl

theorem ComputeWithin.accept (within : ComputeWithin limits accepted)
    (room : ComputeRoom limits accepted trial) : ComputeWithin limits (accepted ++ [trial]) := by
  intro limit configured campaignId
  rw [campaignCosts_append]
  split
  · next same =>
    rw [← same, List.sum_append, List.sum_singleton]
    exact room limit configured
  · rw [List.append_nil]
    exact within limit configured campaignId

theorem countsWithin_nil : CountsWithin limits [] :=
  fun _ _ _ _ _ => Nat.zero_le _

theorem computeWithin_nil : ComputeWithin limits [] :=
  fun limit configured _ => limits.computeNonNegative limit configured

/-- A payload has the fields of a trial that decisions read. -/
structure Describes (decimals : DecimalTexts) (payload : JsonObject) (trial : Trial) : Prop where
  campaignId : payload.get? "campaign_id" = some (.string trial.campaignId)
  strategyFamily : payload.get? "strategy_family" = some (.string trial.strategyFamily)
  factorFamily : payload.get? "factor_family" = some (.string trial.factorFamily)
  ideaId : payload.get? "idea_id" = some (.string trial.ideaId)
  computeCost : payload.get? "compute_cost" =
    trial.computeCost.map fun cost => .string (decimals.decimalText cost)

structure Decides (decimals : DecimalTexts) (payload : JsonObject) (entry : Trial × Bool) :
    Prop extends Describes decimals payload entry.1 where
  accepted : payload.get? "accepted" = some (.bool entry.2)

def acceptedOf (entries : List (Trial × Bool)) : List Trial :=
  (entries.filter (·.2)).map (·.1)

/-- A ledger that is intact and describes decided trials, the accepted ones among them given. -/
def Books (texts : TimestampTexts Time) (digest : Json → String) (decimals : DecimalTexts)
    (lines : List LedgerLine) (accepted : List Trial) : Prop :=
  ∃ records entries, IntactLedger texts digest (format texts) lines records ∧
    List.Forall₂ (fun record entry => Decides decimals record.payload entry) records entries ∧
    acceptedOf entries = accepted

variable {texts digest decimals}

theorem books_empty : Books texts digest decimals [] [] :=
  ⟨[], [], ⟨rfl, trivial, fun _ mem => absurd mem List.not_mem_nil⟩, .nil, rfl⟩

theorem describes_trialPayload (trial : Trial) :
    Describes decimals (trialPayload decimals trial) trial := by
  obtain ⟨campaignId, factorFamily, generationId, ideaId, strategyFamily, trialId, timeWindow,
    computeCost⟩ := trial
  cases timeWindow <;> cases computeCost <;> exact ⟨rfl, rfl, rfl, rfl, rfl⟩

variable {payload : JsonObject}

theorem decides_decidedPayload (describes : Describes decimals payload trial)
    (decided : TrialBudgetDecision) :
    Decides decimals (decidedPayload payload decided).reread (trial, decided.accepted) := by
  have kept (key : String) (other : key ≠ "accepted") (another : key ≠ "decision_reason") :
      (decidedPayload payload decided).reread.get? key = (payload.get? key).map Json.sorted := by
    rw [JsonObject.get?_reread, decidedPayload, get?_set_of_ne _ _ another,
      get?_set_of_ne _ _ other]
  constructor
  · constructor
    · rw [kept _ (by decide) (by decide), describes.campaignId]
      rfl
    · rw [kept _ (by decide) (by decide), describes.strategyFamily]
      rfl
    · rw [kept _ (by decide) (by decide), describes.factorFamily]
      rfl
    · rw [kept _ (by decide) (by decide), describes.ideaId]
      rfl
    · rw [kept _ (by decide) (by decide), describes.computeCost, Option.map_map]
      rfl
  · rw [JsonObject.get?_reread, decidedPayload, get?_set_of_ne _ _ (by decide),
      get?_set_self]
    rfl

variable {lines : List LedgerLine}

theorem acceptedPayloads_books (books : Books texts digest decimals lines accepted)
    (campaignId : String) :
    ∃ payloads, acceptedPayloads texts lines campaignId = .ok payloads ∧
      List.Forall₂ (Describes decimals) payloads
        (accepted.filter fun trial => decide (trial.campaignId = campaignId)) := by
  obtain ⟨records, entries, intact, decides, rfl⟩ := books
  refine ⟨_, by rw [acceptedPayloads, intact.listed]; rfl, ?_⟩
  clear intact
  induction decides with
  | nil => exact .nil
  | @cons record entry records entries decided _ ih =>
    obtain ⟨trial, accepted⟩ := entry
    rw [List.map_cons, List.filter_cons, decided.accepted, decided.campaignId]
    cases accepted with
    | false => exact ih
    | true =>
      change List.Forall₂ _ (if isText (some (.string trial.campaignId)) campaignId = true
        then _ else _) (List.filter _ (trial :: acceptedOf entries))
      rw [List.filter_cons]
      change List.Forall₂ _ (if decide (trial.campaignId = campaignId) = true then _ else _) _
      split
      · exact .cons decided.toDescribes ih
      · exact ih

variable {payloads : List JsonObject}

theorem countMatching_eq {trials : List Trial}
    (describes : List.Forall₂ (Describes decimals) payloads trials) {fieldName : String}
    {value : Trial → String}
    (reads : ∀ payload trial, Describes decimals payload trial →
      payload.get? fieldName = some (.string (value trial))) (expected : String) :
    countMatching payloads fieldName expected =
      trials.countP fun trial => decide (value trial = expected) := by
  rw [countMatching, ← List.countP_eq_length_filter]
  induction describes with
  | nil => rfl
  | cons described _ ih =>
    rw [List.countP_cons, List.countP_cons, ih, reads _ _ described]
    rfl

theorem computeCostOf_eq (describes : Describes decimals payload trial) :
    computeCostOf decimals payload = .ok (trial.computeCost.getD 0) := by
  rw [computeCostOf, describes.computeCost]
  cases trial.computeCost with
  | none => rfl
  | some cost =>
    change decimals.decimalOf (decimals.str (.string (decimals.decimalText cost))) = .ok cost
    rw [decimals.str_string, decimals.decimalOf_decimalText]

theorem computeCosts_eq {trials : List Trial}
    (describes : List.Forall₂ (Describes decimals) payloads trials) :
    payloads.mapM (computeCostOf decimals) =
      .ok (trials.map fun trial => trial.computeCost.getD 0) := by
  induction describes with
  | nil => rfl
  | cons described _ ih =>
    rw [List.mapM_cons, computeCostOf_eq described, ih]
    rfl

theorem textOf_eq {fieldName text : String} (reads : payload.get? fieldName = some (.string text)) :
    textOf decimals payload fieldName = .ok text := by
  rw [textOf, reads]
  exact congrArg Except.ok (decimals.str_string text)

theorem trialLimitDecision_cases (scopeName : String) (acceptedCount : Nat) (limit : Option Nat) :
    (trialLimitDecision scopeName acceptedCount limit = none ∧
        ∀ most ∈ limit, acceptedCount < most) ∨
      ∃ refusal, trialLimitDecision scopeName acceptedCount limit = some refusal ∧
        refusal.accepted = false ∧ ¬∀ most ∈ limit, acceptedCount < most := by
  cases limit with
  | none => exact .inl ⟨rfl, nofun⟩
  | some limit =>
    rw [trialLimitDecision]
    split
    · next full =>
      refine .inr ⟨_, rfl, rfl, fun room => ?_⟩
      exact absurd (room limit rfl) (Nat.not_lt.mpr full)
    · next room =>
      refine .inl ⟨rfl, fun most configured => ?_⟩
      cases configured
      exact Nat.not_le.mp room

/-- The compute budget has room, as the manager sums it. -/
def SumsWithin (limits : TrialBudgetLimits) (accepted : List Trial) (trial : Trial) : Prop :=
  ∀ limit ∈ limits.computeBudgetLimit,
    roundDecimal (sum (campaignCosts accepted trial.campaignId) + trial.computeCost.getD 0) ≤ limit

theorem computeBudgetDecision_cases (limits : TrialBudgetLimits)
    (describes : List.Forall₂ (Describes decimals) payloads
      (accepted.filter fun other => decide (other.campaignId = trial.campaignId)))
    (described : Describes decimals payload trial) :
    (computeBudgetDecision decimals limits payloads payload = .ok none ∧
        SumsWithin limits accepted trial) ∨
      ∃ refusal, computeBudgetDecision decimals limits payloads payload = .ok (some refusal) ∧
        refusal.accepted = false ∧ ¬SumsWithin limits accepted trial := by
  unfold computeBudgetDecision SumsWithin
  cases limits.computeBudgetLimit with
  | none => exact .inl ⟨rfl, nofun⟩
  | some limit =>
    dsimp only
    rw [computeCostOf_eq described, computeCosts_eq describes]
    dsimp only [bind, Except.bind]
    split
    · next exceeded =>
      refine .inr ⟨_, rfl, rfl, fun room => ?_⟩
      exact absurd exceeded (not_lt.mpr (room limit rfl))
    · next room =>
      refine .inl ⟨rfl, fun most configured => ?_⟩
      cases configured
      exact not_lt.mp room

theorem countRoom_iff (limits : TrialBudgetLimits) (accepted : List Trial) (trial : Trial) :
    CountRoom limits accepted trial ↔
      (∀ most ∈ limits.campaignTrialLimit,
        (accepted.filter fun other => decide (other.campaignId = trial.campaignId)).length < most) ∧
      (∀ most ∈ limits.strategyFamilyTrialLimit,
        ((accepted.filter fun other => decide (other.campaignId = trial.campaignId)).countP
          fun other => decide (other.strategyFamily = trial.strategyFamily)) < most) ∧
      (∀ most ∈ limits.factorFamilyTrialLimit,
        ((accepted.filter fun other => decide (other.campaignId = trial.campaignId)).countP
          fun other => decide (other.factorFamily = trial.factorFamily)) < most) ∧
      ∀ most ∈ limits.ideaTrialLimit,
        ((accepted.filter fun other => decide (other.campaignId = trial.campaignId)).countP
          fun other => decide (other.ideaId = trial.ideaId)) < most := by
  have pair (value : Trial → String) :
      (accepted.filter fun other => decide (other.campaignId = trial.campaignId)).countP
          (fun other => decide (value other = value trial)) =
        accepted.countP fun other =>
          decide ([other.campaignId, value other] = [trial.campaignId, value trial]) := by
    rw [List.countP_filter]
    apply List.countP_congr
    intro other _
    simp only [Bool.and_eq_true, decide_eq_true_iff, List.cons.injEq, and_true]
    exact and_comm
  have single : (accepted.filter fun other =>
        decide (other.campaignId = trial.campaignId)).length =
      accepted.countP fun other => decide ([other.campaignId] = [trial.campaignId]) := by
    rw [← List.countP_eq_length_filter]
    apply List.countP_congr
    intro other _
    simp only [decide_eq_true_iff, List.cons.injEq, and_true]
  rw [single, pair Trial.strategyFamily, pair Trial.factorFamily, pair Trial.ideaId]
  constructor
  · intro room
    exact ⟨room _ (.head _), room _ (.tail _ (.head _)), room _ (.tail _ (.tail _ (.head _))),
      room _ (.tail _ (.tail _ (.tail _ (.head _))))⟩
  · rintro ⟨campaign, strategy, factor, idea⟩ scope mem
    rcases List.mem_cons.mp mem with rfl | mem
    · exact campaign
    rcases List.mem_cons.mp mem with rfl | mem
    · exact strategy
    rcases List.mem_cons.mp mem with rfl | mem
    · exact factor
    obtain rfl := List.mem_singleton.mp mem
    exact idea

theorem decision_spec (limits : TrialBudgetLimits)
    (books : Books texts digest decimals lines accepted)
    (described : Describes decimals payload trial) :
    ∃ decided, decision texts decimals limits lines payload = .ok decided ∧
      (decided.accepted = true ↔
        CountRoom limits accepted trial ∧ SumsWithin limits accepted trial) := by
  obtain ⟨payloads, listed, describes⟩ := acceptedPayloads_books books trial.campaignId
  rw [countRoom_iff, ← describes.length_eq,
    ← countMatching_eq describes (fun _ _ known => known.strategyFamily),
    ← countMatching_eq describes (fun _ _ known => known.factorFamily),
    ← countMatching_eq describes (fun _ _ known => known.ideaId)]
  unfold decision
  rw [textOf_eq described.campaignId]
  dsimp only [bind, Except.bind]
  rw [listed]
  dsimp only
  rcases trialLimitDecision_cases "campaign" payloads.length limits.campaignTrialLimit with
    ⟨allowed, room⟩ | ⟨refusal, refused, rejected, full⟩
  swap
  · rw [refused]
    exact ⟨refusal, rfl, fun granted => absurd (rejected.symm.trans granted) nofun,
      fun within => absurd within.1.1 full⟩
  rw [allowed, textOf_eq described.strategyFamily]
  dsimp only
  rcases trialLimitDecision_cases "strategy family"
      (countMatching payloads "strategy_family" trial.strategyFamily)
      limits.strategyFamilyTrialLimit with
    ⟨strategyAllowed, strategyRoom⟩ | ⟨refusal, refused, rejected, full⟩
  swap
  · rw [refused]
    exact ⟨refusal, rfl, fun granted => absurd (rejected.symm.trans granted) nofun,
      fun within => absurd within.1.2.1 full⟩
  rw [strategyAllowed, textOf_eq described.factorFamily]
  dsimp only
  rcases trialLimitDecision_cases "factor family"
      (countMatching payloads "factor_family" trial.factorFamily)
      limits.factorFamilyTrialLimit with
    ⟨factorAllowed, factorRoom⟩ | ⟨refusal, refused, rejected, full⟩
  swap
  · rw [refused]
    exact ⟨refusal, rfl, fun granted => absurd (rejected.symm.trans granted) nofun,
      fun within => absurd within.1.2.2.1 full⟩
  rw [factorAllowed, textOf_eq described.ideaId]
  dsimp only
  rcases trialLimitDecision_cases "idea" (countMatching payloads "idea_id" trial.ideaId)
      limits.ideaTrialLimit with
    ⟨ideaAllowed, ideaRoom⟩ | ⟨refusal, refused, rejected, full⟩
  swap
  · rw [refused]
    exact ⟨refusal, rfl, fun granted => absurd (rejected.symm.trans granted) nofun,
      fun within => absurd within.1.2.2.2 full⟩
  rw [ideaAllowed]
  dsimp only
  rcases computeBudgetDecision_cases limits describes described with
    ⟨computeAllowed, computeRoom⟩ | ⟨refusal, refused, rejected, full⟩
  · rw [computeAllowed]
    exact ⟨acceptedWithin, rfl,
      fun _ => ⟨⟨room, strategyRoom, factorRoom, ideaRoom⟩, computeRoom⟩, fun _ => rfl⟩
  · rw [refused]
    exact ⟨refusal, rfl, fun granted => absurd (rejected.symm.trans granted) nofun,
      fun within => absurd within.2 full⟩

variable (texts digest decimals limits)

def consumedBy (lines : List LedgerLine) (request : TrialRequest Time) : List Trial :=
  match normalized texts request, (requestTrial texts digest decimals limits lines request).1 with
  | .ok trial, .ok decided => if decided.accepted then [trial] else []
  | _, _ => []

structure Decided (lines : List LedgerLine) (request : TrialRequest Time) (admitted : Prop) :
    Prop where
  answered : ∃ decided, (requestTrial texts digest decimals limits lines request).1 = .ok decided ∧
    (decided.accepted = true ↔ admitted)
  rejected : consumedBy texts digest decimals limits lines request = [] → ∀ campaignId,
    acceptedPayloads texts (requestTrial texts digest decimals limits lines request).2 campaignId =
      acceptedPayloads texts lines campaignId

variable {texts digest decimals limits} {request : TrialRequest Time}

theorem requestTrial_invalid {failure : String}
    (invalid : normalized texts request = .error failure) :
    requestTrial texts digest decimals limits lines request = (.error failure, lines) := by
  unfold requestTrial
  rw [invalid]
  rfl

theorem normalized_aware (valid : normalized texts request = .ok trial) :
    texts.aware request.createdAt = true := by
  unfold normalized at valid
  cases aware : texts.aware request.createdAt with
  | true => rfl
  | false =>
    rw [aware] at valid
    cases valid

theorem acceptedOf_append (entries : List (Trial × Bool)) (trial : Trial) (accepted : Bool) :
    acceptedOf (entries ++ [(trial, accepted)]) =
      acceptedOf entries ++ if accepted then [trial] else [] := by
  rw [acceptedOf, List.filter_append, List.map_append]
  cases accepted <;> rfl

theorem requestTrial_books (limits : TrialBudgetLimits)
    (books : Books texts digest decimals lines accepted)
    (valid : normalized texts request = .ok trial) :
    Decided texts digest decimals limits lines request
        (CountRoom limits accepted trial ∧ SumsWithin limits accepted trial) ∧
      Books texts digest decimals (requestTrial texts digest decimals limits lines request).2
        (accepted ++ consumedBy texts digest decimals limits lines request) := by
  have described : Describes decimals (trialPayload decimals trial) trial :=
    describes_trialPayload trial
  obtain ⟨decided, decision_eq, spec⟩ := decision_spec limits books described
  obtain ⟨records, entries, intact, decides, rfl⟩ := books
  have step : requestTrial texts digest decimals limits lines request =
      let appended := appendDecision texts digest lines
        { payload := decidedPayload (trialPayload decimals trial) decided
          createdAt := request.createdAt }
      (appended.1.map fun _ => decided, appended.2) := by
    unfold requestTrial
    rw [valid]
    dsimp only [bind, Except.bind]
    rw [decision_eq]
    rfl
  have appendable : Ledger.Appendable texts digest (format texts)
      fun prev => TrialBudgetRecord.create texts digest
        (decidedPayload (trialPayload decimals trial) decided) prev request.createdAt :=
    fun _ _ shown made => TrialBudgetRecord.fromPayload_create shown made
  obtain ⟨failure, -, failed⟩ | ⟨record, appended, created, intactAfter⟩ :=
    Ledger.append_cases intact appendable
  · unfold TrialBudgetRecord.create at failed
    rw [normalized_aware valid] at failed
    cases failed
  have recorded : record.payload =
      (decidedPayload (trialPayload decimals trial) decided).reread := by
    unfold TrialBudgetRecord.create at created
    rw [normalized_aware valid] at created
    cases created
    rfl
  have entry := decides_decidedPayload described decided
  rw [← recorded] at entry
  unfold appendDecision at step
  rw [appended] at step
  have consumed : consumedBy texts digest decimals limits lines request =
      if decided.accepted then [trial] else [] := by
    rw [consumedBy, valid, step]
    rfl
  refine ⟨⟨⟨decided, by rw [step]; rfl, spec⟩, fun none campaignId => ?_⟩, ?_⟩
  · rw [consumed] at none
    have refused : decided.accepted = false := by
      cases granted : decided.accepted with
      | false => rfl
      | true =>
        rw [granted] at none
        cases none
    rw [step, acceptedPayloads, acceptedPayloads, intact.listed, intactAfter.listed]
    dsimp only [bind, Except.bind]
    rw [List.map_append, List.filter_append, List.map_singleton, List.filter_singleton,
      entry.accepted]
    dsimp only
    rw [refused]
    exact congrArg Except.ok (List.append_nil _)
  · rw [step, consumed]
    exact ⟨_, _, intactAfter, List.rel_append decides (.cons entry .nil),
      acceptedOf_append entries trial decided.accepted⟩

variable (texts digest decimals limits)

def acceptedTrials : List LedgerLine → List (TrialRequest Time) → List Trial
  | _, [] => []
  | lines, request :: rest =>
    consumedBy texts digest decimals limits lines request ++
      acceptedTrials (requestTrial texts digest decimals limits lines request).2 rest

/-- With a compute limit, no sum that a decision takes has more digits than are kept. -/
def SumsStayExact (lines : List LedgerLine) (request : TrialRequest Time) : Prop :=
  limits.computeBudgetLimit ≠ none → ∀ trial payloads costs,
    normalized texts request = .ok trial →
    acceptedPayloads texts lines trial.campaignId = .ok payloads →
    payloads.mapM (computeCostOf decimals) = .ok costs →
    SumsExactly (costs ++ [trial.computeCost.getD 0])

/-- A request is accepted exactly when every limit has room for it; one that is rejected, or is not
valid, leaves what counts as it is. -/
def RightlyDecided (lines : List LedgerLine) (accepted : List Trial)
    (request : TrialRequest Time) : Prop :=
  match normalized texts request with
  | .error failure =>
    requestTrial texts digest decimals limits lines request = (.error failure, lines)
  | .ok trial => Decided texts digest decimals limits lines request
      (CountRoom limits accepted trial ∧ ComputeRoom limits accepted trial)

structure NeverOverspent (requests : List (TrialRequest Time)) : Prop where
  counts : CountsWithin limits (acceptedTrials texts digest decimals limits [] requests)
  compute : ComputeWithin limits (acceptedTrials texts digest decimals limits [] requests)
  decided : ∀ earlier request later, requests = earlier ++ request :: later →
    RightlyDecided texts digest decimals limits
      (final (requestTrial texts digest decimals limits) [] earlier)
      (acceptedTrials texts digest decimals limits [] earlier) request

variable {texts digest decimals limits}

theorem consumedBy_invalid {failure : String} (invalid : normalized texts request = .error failure)
    : consumedBy texts digest decimals limits lines request = [] := by
  rw [consumedBy, invalid]

theorem requestTrial_keeps_books (books : Books texts digest decimals lines accepted)
    (request : TrialRequest Time) :
    Books texts digest decimals (requestTrial texts digest decimals limits lines request).2
      (accepted ++ consumedBy texts digest decimals limits lines request) := by
  cases valid : normalized texts request with
  | error failure =>
    rw [requestTrial_invalid valid, consumedBy_invalid valid, List.append_nil]
    exact books
  | ok trial => exact (requestTrial_books limits books valid).2

theorem final_books (books : Books texts digest decimals lines accepted)
    (requests : List (TrialRequest Time)) :
    Books texts digest decimals
      (final (requestTrial texts digest decimals limits) lines requests)
      (accepted ++ acceptedTrials texts digest decimals limits lines requests) := by
  induction requests generalizing lines accepted with
  | nil =>
    rw [acceptedTrials, List.append_nil]
    exact books
  | cons request rest ih =>
    rw [acceptedTrials, ← List.append_assoc]
    exact ih (requestTrial_keeps_books books request)

theorem consumedBy_cases (limits : TrialBudgetLimits)
    (books : Books texts digest decimals lines accepted) (request : TrialRequest Time) :
    consumedBy texts digest decimals limits lines request = [] ∨
      ∃ trial, normalized texts request = .ok trial ∧
        consumedBy texts digest decimals limits lines request = [trial] ∧
        CountRoom limits accepted trial ∧ SumsWithin limits accepted trial := by
  cases valid : normalized texts request with
  | error failure => exact .inl (consumedBy_invalid valid)
  | ok trial =>
    obtain ⟨decided, answered, spec⟩ := (requestTrial_books limits books valid).1.answered
    rw [consumedBy, valid, answered]
    dsimp only
    cases granted : decided.accepted with
    | false => exact .inl rfl
    | true => exact .inr ⟨trial, rfl, rfl, spec.mp granted⟩

section

variable (books : Books texts digest decimals lines accepted)

include books

theorem sumsWithin_iff (valid : normalized texts request = .ok trial)
    (exact : SumsStayExact texts decimals limits lines request) :
    SumsWithin limits accepted trial ↔ ComputeRoom limits accepted trial := by
  obtain ⟨payloads, listed, describes⟩ := acceptedPayloads_books books trial.campaignId
  apply forall₂_congr
  intro limit configured
  have limited : limits.computeBudgetLimit ≠ none :=
    fun none => absurd (none.symm.trans configured) nofun
  have sums : SumsExactly
      (campaignCosts accepted trial.campaignId ++ [trial.computeCost.getD 0]) :=
    exact limited trial payloads _ valid listed (computeCosts_eq describes)
  rw [roundDecimal_sum_add sums]

theorem requestTrial_rightlyDecided (exact : SumsStayExact texts decimals limits lines request) :
    RightlyDecided texts digest decimals limits lines accepted request := by
  unfold RightlyDecided
  cases valid : normalized texts request with
  | error failure => exact requestTrial_invalid valid
  | ok trial =>
    obtain ⟨answered, rejected⟩ := (requestTrial_books limits books valid).1
    rw [sumsWithin_iff books valid exact] at answered
    exact ⟨answered, rejected⟩

theorem acceptedTrials_countsWithin (within : CountsWithin limits accepted)
    (requests : List (TrialRequest Time)) :
    CountsWithin limits
      (accepted ++ acceptedTrials texts digest decimals limits lines requests) := by
  induction requests generalizing lines accepted with
  | nil =>
    rw [acceptedTrials, List.append_nil]
    exact within
  | cons request rest ih =>
    rw [acceptedTrials, ← List.append_assoc]
    apply ih (requestTrial_keeps_books books request)
    obtain none | ⟨trial, -, consumed, room, -⟩ := consumedBy_cases limits books request
    · rw [none, List.append_nil]
      exact within
    · rw [consumed]
      exact within.accept room

theorem acceptedTrials_computeWithin (within : ComputeWithin limits accepted)
    {requests : List (TrialRequest Time)}
    (exact : EveryStep (requestTrial texts digest decimals limits)
      (SumsStayExact texts decimals limits) lines requests) :
    ComputeWithin limits
      (accepted ++ acceptedTrials texts digest decimals limits lines requests) := by
  induction requests generalizing lines accepted with
  | nil =>
    rw [acceptedTrials, List.append_nil]
    exact within
  | cons request rest ih =>
    obtain ⟨now, later⟩ := exact
    rw [acceptedTrials, ← List.append_assoc]
    apply ih (requestTrial_keeps_books books request) _ later
    obtain none | ⟨trial, valid, consumed, -, room⟩ :=
      consumedBy_cases limits books request
    · rw [none, List.append_nil]
      exact within
    · rw [consumed]
      exact within.accept ((sumsWithin_iff books valid now).mp room)

end

/-- The trials, families and ideas accepted in a run stay within their limits; where no sum of
compute costs is rounded, so does the compute budget, and every request is decided rightly. -/
theorem requestTrial_neverOverspent (texts : TimestampTexts Time) (digest : Json → String)
    (decimals : DecimalTexts) (limits : TrialBudgetLimits) (requests : List (TrialRequest Time)) :
    CountsWithin limits (acceptedTrials texts digest decimals limits [] requests) ∧
      (EveryStep (requestTrial texts digest decimals limits)
          (SumsStayExact texts decimals limits) [] requests →
        NeverOverspent texts digest decimals limits requests) := by
  have empty : Books texts digest decimals [] [] := books_empty
  have counts : CountsWithin limits (acceptedTrials texts digest decimals limits [] requests) :=
    acceptedTrials_countsWithin empty countsWithin_nil requests
  refine ⟨counts, fun exact => ⟨counts,
    acceptedTrials_computeWithin empty computeWithin_nil exact, ?_⟩⟩
  rintro earlier request later rfl
  obtain ⟨-, now, -⟩ := (everyStep_append _ _ _ _ _).mp exact
  exact requestTrial_rightlyDecided (final_books empty earlier) now

def oneAndLittle : DecimalTexts where
  str
    | .string text => text
    | _ => "0"
  str_string _ := rfl
  decimalText value :=
    if value = 1 then "1"
    else if value = 1 / 10 ^ 30 then "1E-30"
    else String.ofList (List.replicate (Encodable.encode value) '/')
  decimalOf text :=
    if text = "1" then .ok 1
    else if text = "1E-30" then .ok (1 / 10 ^ 30)
    else (Encodable.decode text.toList.length).elim (.error text) .ok
  decimalOf_decimalText value := by
    have stroke (text : String) (shown : '1' ∈ text.toList) :
        String.ofList (List.replicate (Encodable.encode value) '/') ≠ text := by
      rintro rfl
      rw [String.toList_ofList] at shown
      exact absurd (List.eq_of_mem_replicate shown) (by decide)
    by_cases one : value = 1
    · rw [if_pos one, if_pos rfl, one]
    by_cases little : value = 1 / 10 ^ 30
    · rw [if_neg one, if_pos little, if_neg (by decide), if_pos rfl, little]
    · rw [if_neg one, if_neg little, if_neg (stroke "1" (by decide)),
        if_neg (stroke "1E-30" (by decide)), String.toList_ofList, List.length_replicate,
        Encodable.encodek]
      rfl

def oneTime : TimestampTexts Unit where
  aware _ := true
  isoformat _ := "2026-05-14T12:00:00+00:00"
  fromisoformat _ := .ok ()
  isoformat_shown _ := by decide
  fromisoformat_isoformat _ := rfl

def computeLimitOne : TrialBudgetLimits where
  computeBudgetLimit := some 1
  computeNonNegative _ configured := by
    cases configured
    decide

def trialCosting (cost : Decimal) : TrialRequest Unit where
  trialId := "trial-1"
  campaignId := "campaign-1"
  generationId := "generation-1"
  strategyFamily := "momentum"
  factorFamily := "trend"
  ideaId := "idea-1"
  computeCost := some cost
  createdAt := ()

/-- A budget of one that is spent accepts a cost of 1E-30, as the rounded total is still one. -/
theorem trialBudget_overspent_by_rounding :
    ¬NeverOverspent oneTime (fun _ => "digest") oneAndLittle computeLimitOne
      [trialCosting 1, trialCosting (1 / 10 ^ 30)] := by
  intro kept
  have spent := kept.compute 1 rfl "campaign-1"
  have total : (campaignCosts (acceptedTrials oneTime (fun _ => "digest") oneAndLittle
      computeLimitOne [] [trialCosting 1, trialCosting (1 / 10 ^ 30)]) "campaign-1").sum =
        1 + 1 / 10 ^ 30 := by
    decide +kernel
  rw [total] at spent
  exact absurd spent (by decide +kernel)

end TrialBudgetManager

end Qts
