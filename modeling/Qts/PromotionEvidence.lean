import Qts.ValidationGauntlets

/-! # Promotion evidence -/

namespace Qts

open EvidenceValue PythonText GateDecision FloatValue FailureWindowVetoGate List

variable (texts : NumberTexts)

/-- A gate's evaluation gives no reason. -/
abbrev Accepts (outcome : Except String GateDecision) : Prop :=
  Yields outcome fun decision => decision.reasons = []

def acceptedTestWindows (evidence : Evidence) : List Evidence :=
  (windows (evidence.lookup "test_windows")).filter fun window => isTrue (window.lookup "accepted")

structure WalkForwardGate.Clears (gate : WalkForwardGate) (evidence : Evidence) : Prop where
  shown : evidence.isEmpty = false
  readable : Readable texts (evidence.lookup "max_train_test_gap")
  consistent : isTrue (evidence.lookup "consistent") = true
  enough : gate.minTestWindows ≤ (acceptedTestWindows evidence).length
  noneRejected : ∀ window ∈ windows (evidence.lookup "test_windows"),
    isFalse (window.lookup "accepted") = false
  gap : ∀ limit ∈ gate.maxTrainTestGap,
    Unobjected texts (evidence.lookup "max_train_test_gap") limit.lt

structure FailureWindowVetoGate.Clears (gate : FailureWindowVetoGate)
    (candidate : Evidence) : Prop where
  shown : failureWindows candidate ≠ []
  notBreached : ∀ window ∈ vetoWindows candidate, isTrue (window.lookup "breached") = false
  drawdown : ∀ window ∈ vetoWindows candidate, Unobjected texts (window.lookup "max_drawdown")
    fun drawdown => gate.maxDrawdown.lt drawdown.abs

structure CostStressGate.Clears (gate : CostStressGate) (evidence : Evidence) : Prop where
  shown : evidence.isEmpty = false
  degradation : Required texts (evidence.lookup "degradation") gate.maxDegradation.lt
  slippage : Required texts (evidence.lookup "slippage_sensitivity") gate.maxSlippageSensitivity.lt
  readable : Readable texts (evidence.lookup "stressed_score")
  stressedScore : ∀ limit ∈ gate.minStressedScore,
    Unobjected texts (evidence.lookup "stressed_score") fun score => score.lt limit

def activeSnapshot (evidence : Evidence) : Option Evidence :=
  mapping (evidence.lookup "active_portfolio_snapshot")

structure CorrelationGate.Clears (gate : CorrelationGate) (evidence : Evidence) : Prop where
  shown : evidence.isEmpty = false
  correlation : Required texts (evidence.lookup "max_active_correlation")
    fun correlation => gate.maxActiveCorrelation.lt correlation.abs
  countReadable : Readable texts (fieldOf (activeSnapshot evidence) "active_candidate_count")
  status : statusIn (fieldOf (activeSnapshot evidence) "active_portfolio_status")
    ["computed", "no_active_candidates"] = .ok true
  returns : Required texts (fieldOf (activeSnapshot evidence) "candidate_return_count")
    fun count => count.le (.finite 0)
  active : textIs (fieldOf (activeSnapshot evidence) "active_portfolio_status") "computed" = true →
    Required texts (fieldOf (activeSnapshot evidence) "active_candidate_count")
      fun count => count.le (.finite 0)

structure CapacityGate.Clears (gate : CapacityGate) (evidence : Evidence) : Prop where
  shown : evidence.isEmpty = false
  capacity : ∃ capacity, number texts (evidence.lookup "estimated_capacity") = .ok (some capacity) ∧
    Required texts (evidence.lookup "required_capital") capacity.lt
  readable : Readable texts (evidence.lookup "turnover")
  turnover : ∀ limit ∈ gate.maxTurnover,
    Required texts (evidence.lookup "turnover") limit.lt

structure NoLookaheadGate.Clears (evidence : Evidence) : Prop where
  shown : evidence.isEmpty = false
  passed : isTrue (evidence.lookup "passed") = true
  timed : isTrue (evidence.lookup "string_scan_only") = false
  timing : ∃ timing, mapping (evidence.lookup "timing_validation") = some timing ∧
    isTrue (timing.lookup "passed") = true ∧
    (∀ violation ∈ windows (timing.lookup "violations"),
      truthy (violation.lookup "code") = false ∧
        truthy (violation.lookup "message") = false) ∧
    (∀ overlap ∈ (sequence (timing.lookup "window_overlaps")).getD [], ∀ text,
      overlap = .string text → isBlank text = true) ∧
    Yields (lengthOf ((timing.lookup "violations").getD (.array []))) fun _ => True

structure DeflatedSharpeGate.Clears (gate : DeflatedSharpeGate) (evidence : Evidence) :
    Prop where
  shown : evidence.isEmpty = false
  dsr : Required texts (evidence.lookup "deflated_sharpe_ratio")
    fun dsr => dsr.lt gate.minDeflatedSharpeRatio
  trials : Yields (number texts (evidence.lookup "trial_count")) fun trials =>
    Yields (trialCountValue trials) fun _ => True
  expectedReadable : Readable texts (evidence.lookup "expected_maximum_sharpe")
  observedReadable : Readable texts (evidence.lookup "observed_sharpe")

structure PBOGate.Clears (gate : PBOGate) (evidence : Evidence) : Prop where
  shown : evidence.isEmpty = false
  pbo : Required texts (evidence.lookup "probability_of_backtest_overfitting") gate.maxPbo.lt

variable {texts}

theorem accepts_missing (gateName : String) : ¬ Accepts (.ok (.missing gateName)) := by
  rw [Accepts, yields_ok]
  exact cons_ne_nil _ _

theorem accepts_multiplicityMissing (gateName : String) :
    ¬ Accepts (.ok (multiplicityMissing gateName)) := by
  rw [Accepts, yields_ok]
  exact cons_ne_nil _ _

theorem accepts_shown_iff {evidence : Evidence} {missing decision : Except String GateDecision}
    {clears : Prop} (refused : ¬ Accepts missing) (shown : clears → evidence.isEmpty = false)
    (decided : evidence.isEmpty = false → (Accepts decision ↔ clears)) :
    Accepts (if evidence.isEmpty then missing else decision) ↔ clears := by
  by_cases empty : evidence.isEmpty = true
  · rw [if_pos empty]
    exact iff_of_false refused fun clear => Bool.false_ne_true ((shown clear).symm.trans empty)
  · rw [if_neg empty]
    exact decided (Bool.eq_false_iff.mpr empty)

variable {value : Option EvidenceValue} {metric : Option FloatValue}

theorem optional_reasons_iff (read : number texts value = .ok metric) (limit : Option FloatValue)
    (objection : FloatValue → FloatValue → Bool) (reason : FloatValue → FloatValue → String) :
    reasonsFor limit (fun limit => reasonAgainst metric (objection limit) (reason limit)) = [] ↔
      ∀ bound ∈ limit, Unobjected texts value (objection bound) := by
  rw [reasonsFor_eq_nil_iff]
  apply forall₂_congr
  intro bound _
  rw [reasonAgainst_eq_nil_iff, unobjected_iff read]

theorem WalkForwardGate.evaluate_accepts_iff (gate : WalkForwardGate) (candidate : Evidence) :
    Accepts (gate.evaluate texts candidate) ↔
      gate.Clears texts (validationSection candidate "walk_forward") := by
  rw [WalkForwardGate.evaluate]
  generalize validationSection candidate "walk_forward" = evidence
  refine accepts_shown_iff (accepts_missing _) (·.shown) fun empty => ?_
  simp only [yields_bind, yields_pure, decided,
    append_eq_nil_iff, reasonIf_eq_nil_iff, map_eq_nil_iff, filter_eq_nil_iff]
  constructor
  · rintro ⟨metric, read, ⟨⟨consistent, enough⟩, noneRejected⟩, gap⟩
    rw [optional_reasons_iff read gate.maxTrainTestGap lt] at gap
    exact ⟨empty, ⟨metric, read, trivial⟩, by simpa using consistent,
      by simpa [acceptedTestWindows] using enough, by simpa using noneRejected, gap⟩
  · intro clears
    obtain ⟨metric, read, _⟩ := clears.readable
    refine ⟨metric, read, ⟨⟨?_, ?_⟩, ?_⟩, ?_⟩
    · rw [clears.consistent]
      rfl
    · exact decide_eq_false (not_lt.mpr clears.enough)
    · intro window mem
      rw [clears.noneRejected window mem]
      exact Bool.false_ne_true
    · rw [optional_reasons_iff read gate.maxTrainTestGap lt]
      exact clears.gap

theorem yields_mapM_flatten {Item : Type} (items : List Item)
    (reasons : Item → Except String (List String)) :
    Yields (items.mapM reasons) (fun found => found.flatten = []) ↔
      ∀ item ∈ items, Yields (reasons item) fun found => found = [] := by
  induction items with
  | nil => simp
  | cons item items ih =>
    simp only [mapM_cons, yields_bind, yields_pure, flatten_cons, append_eq_nil_iff,
      forall_mem_cons]
    rw [← ih]
    constructor
    · rintro ⟨found, read, others, rest, none, empty⟩
      exact ⟨⟨found, read, none⟩, others, rest, empty⟩
    · rintro ⟨⟨found, read, none⟩, others, rest, empty⟩
      exact ⟨found, read, others, rest, none, empty⟩

theorem FailureWindowVetoGate.windowReasons_iff (gate : FailureWindowVetoGate)
    (window : Evidence) :
    Yields (gate.windowReasons texts window) (fun reasons => reasons = []) ↔
      isTrue (window.lookup "breached") = false ∧ Unobjected texts (window.lookup "max_drawdown")
        fun drawdown => gate.maxDrawdown.lt drawdown.abs := by
  simp only [windowReasons, yields_bind, yields_pure,
    append_eq_nil_iff, reasonIf_eq_nil_iff, reasonAgainst_eq_nil_iff]
  constructor
  · rintro ⟨metric, read, notBreached, clear⟩
    exact ⟨notBreached, metric, read, clear⟩
  · rintro ⟨notBreached, metric, read, clear⟩
    exact ⟨metric, read, notBreached, clear⟩

theorem FailureWindowVetoGate.evaluate_accepts_iff (gate : FailureWindowVetoGate)
    (candidate : Evidence) :
    Accepts (gate.evaluate texts candidate) ↔ gate.Clears texts candidate := by
  rw [evaluate]
  cases found : failureWindows candidate with
  | nil => exact iff_of_false (accepts_missing _) fun clears => clears.shown found
  | cons first rest =>
    simp only [yields_bind, yields_pure, decided]
    rw [yields_mapM_flatten]
    simp only [windowReasons_iff]
    constructor
    · intro clear
      refine ⟨?_, fun window mem => (clear window mem).1,
        fun window mem => (clear window mem).2⟩
      rw [found]
      exact cons_ne_nil _ _
    · exact fun clears window mem =>
        ⟨clears.notBreached window mem, clears.drawdown window mem⟩

theorem required_reasons_iff (read : number texts value = .ok metric) (missingReason : String)
    (objection : FloatValue → Bool) (reason : FloatValue → String) :
    requiredReasons metric missingReason objection reason = [] ↔
      Required texts value objection := by
  rw [requiredReasons_eq_nil_iff, required_iff read]

theorem CostStressGate.evaluate_accepts_iff (gate : CostStressGate) (candidate : Evidence) :
    Accepts (gate.evaluate texts candidate) ↔
      gate.Clears texts (validationSection candidate "cost_stress") := by
  rw [CostStressGate.evaluate]
  generalize validationSection candidate "cost_stress" = evidence
  refine accepts_shown_iff (accepts_missing _) (·.shown) fun empty => ?_
  simp only [yields_bind, yields_pure, decided, append_eq_nil_iff]
  constructor
  · rintro ⟨degradation, degradationRead, slippage, slippageRead, score, scoreRead,
      ⟨degraded, slipped⟩, stressed⟩
    rw [required_reasons_iff degradationRead] at degraded
    rw [required_reasons_iff slippageRead] at slipped
    rw [optional_reasons_iff scoreRead gate.minStressedScore fun limit score => score.lt limit]
      at stressed
    exact ⟨empty, degraded, slipped, ⟨score, scoreRead, trivial⟩, stressed⟩
  · intro clears
    obtain ⟨degradation, degradationRead, _⟩ := clears.degradation.readable
    obtain ⟨slippage, slippageRead, _⟩ := clears.slippage.readable
    obtain ⟨score, scoreRead, _⟩ := clears.readable
    refine ⟨degradation, degradationRead, slippage, slippageRead, score, scoreRead, ⟨?_, ?_⟩, ?_⟩
    · rw [required_reasons_iff degradationRead]
      exact clears.degradation
    · rw [required_reasons_iff slippageRead]
      exact clears.slippage
    · rw [optional_reasons_iff scoreRead gate.minStressedScore fun limit score => score.lt limit]
      exact clears.stressedScore

theorem notPositive_iff (read : number texts value = .ok metric) :
    notPositive metric = false ↔ Required texts value fun count => count.le (.finite 0) := by
  rw [required_iff read]
  cases metric with
  | none => simp [notPositive]
  | some count => simp [notPositive]

theorem CorrelationGate.evaluate_accepts_iff (gate : CorrelationGate) (candidate : Evidence) :
    Accepts (gate.evaluate texts candidate) ↔
      gate.Clears texts (validationSection candidate "correlation") := by
  rw [CorrelationGate.evaluate]
  generalize validationSection candidate "correlation" = evidence
  refine accepts_shown_iff (accepts_missing _) (·.shown) fun empty => ?_
  simp only [yields_bind, yields_pure, decided, append_eq_nil_iff, reasonIf_eq_nil_iff]
  constructor
  · rintro ⟨correlation, correlationRead, active, activeRead, returns, returnsRead, known,
      knownRead, ⟨⟨status, hasReturns⟩, hasActive⟩, correlated⟩
    rw [required_reasons_iff correlationRead] at correlated
    rw [notPositive_iff returnsRead] at hasReturns
    obtain rfl : known = true := by simpa using status
    refine ⟨empty, correlated, ⟨active, activeRead, trivial⟩, knownRead, hasReturns, ?_⟩
    intro computed
    rw [activeSnapshot] at computed ⊢
    rw [computed, Bool.true_and] at hasActive
    exact (notPositive_iff activeRead).mp hasActive
  · intro clears
    obtain ⟨correlation, correlationRead, _⟩ := clears.correlation.readable
    obtain ⟨active, activeRead, _⟩ := clears.countReadable
    obtain ⟨returns, returnsRead, _⟩ := clears.returns.readable
    refine ⟨correlation, correlationRead, active, activeRead, returns, returnsRead, true,
      clears.status, ⟨⟨rfl, ?_⟩, ?_⟩, ?_⟩
    · rw [notPositive_iff returnsRead]
      exact clears.returns
    · rw [Bool.and_eq_false_imp]
      intro computed
      rw [notPositive_iff activeRead]
      exact clears.active computed
    · rw [required_reasons_iff correlationRead]
      exact clears.correlation

theorem CapacityGate.evaluate_accepts_iff (gate : CapacityGate) (candidate : Evidence) :
    Accepts (gate.evaluate texts candidate) ↔
      gate.Clears texts (validationSection candidate "capacity") := by
  rw [CapacityGate.evaluate]
  generalize validationSection candidate "capacity" = evidence
  refine accepts_shown_iff (accepts_missing _) (·.shown) fun empty => ?_
  simp only [yields_bind, yields_pure, decided, append_eq_nil_iff, reasonIf_eq_nil_iff]
  constructor
  · rintro ⟨estimated, estimatedRead, required, requiredRead, turnover, turnoverRead,
      ⟨⟨hasEstimated, hasRequired⟩, within⟩, turned⟩
    obtain ⟨capacity, rfl⟩ := Option.isSome_iff_exists.mp (by simpa using hasEstimated)
    obtain ⟨capital, rfl⟩ := Option.isSome_iff_exists.mp (by simpa using hasRequired)
    rw [reasonsFor_eq_nil_iff] at turned
    refine ⟨empty, ⟨capacity, estimatedRead, capital, requiredRead, ?_⟩,
      ⟨turnover, turnoverRead, trivial⟩, fun limit configured =>
        (required_reasons_iff turnoverRead _ _ _).mp (turned limit configured)⟩
    simpa [reasonsFor, reasonAgainst_eq_nil_iff] using within
  · intro clears
    obtain ⟨capacity, capacityRead, capital, capitalRead, within⟩ := clears.capacity
    obtain ⟨turnover, turnoverRead, _⟩ := clears.readable
    refine ⟨some capacity, capacityRead, some capital, capitalRead, turnover, turnoverRead,
      ⟨⟨rfl, rfl⟩, ?_⟩, ?_⟩
    · simpa [reasonsFor, reasonAgainst_eq_nil_iff] using within
    · rw [reasonsFor_eq_nil_iff]
      exact fun limit configured =>
        (required_reasons_iff turnoverRead _ _ _).mpr (clears.turnover limit configured)

theorem DeflatedSharpeGate.evaluate_accepts_iff (gate : DeflatedSharpeGate)
    (candidate : Evidence) :
    Accepts (gate.evaluate texts candidate) ↔
      gate.Clears texts (multiplicityEvidence candidate) := by
  rw [DeflatedSharpeGate.evaluate]
  generalize multiplicityEvidence candidate = evidence
  refine accepts_shown_iff (accepts_multiplicityMissing _) (·.shown) fun empty => ?_
  simp only [yields_bind, yields_pure, decided]
  constructor
  · rintro ⟨dsr, dsrRead, trials, trialsRead, expected, expectedRead, observed, observedRead,
      count, counted, deflated⟩
    rw [required_reasons_iff dsrRead] at deflated
    exact ⟨empty, deflated, ⟨trials, trialsRead, count, counted, trivial⟩,
      ⟨expected, expectedRead, trivial⟩, ⟨observed, observedRead, trivial⟩⟩
  · intro clears
    obtain ⟨dsr, dsrRead, _⟩ := clears.dsr.readable
    obtain ⟨trials, trialsRead, count, counted, _⟩ := clears.trials
    obtain ⟨expected, expectedRead, _⟩ := clears.expectedReadable
    obtain ⟨observed, observedRead, _⟩ := clears.observedReadable
    refine ⟨dsr, dsrRead, trials, trialsRead, expected, expectedRead, observed, observedRead,
      count, counted, ?_⟩
    rw [required_reasons_iff dsrRead]
    exact clears.dsr

theorem PBOGate.evaluate_accepts_iff (gate : PBOGate) (candidate : Evidence) :
    Accepts (gate.evaluate texts candidate) ↔
      gate.Clears texts (multiplicityEvidence candidate) := by
  rw [PBOGate.evaluate]
  generalize multiplicityEvidence candidate = evidence
  refine accepts_shown_iff (accepts_multiplicityMissing _) (·.shown) fun empty => ?_
  simp only [yields_bind, yields_pure, decided]
  constructor
  · rintro ⟨pbo, read, within⟩
    rw [required_reasons_iff read] at within
    exact ⟨empty, within⟩
  · intro clears
    obtain ⟨pbo, read, _⟩ := clears.pbo.readable
    exact ⟨pbo, read, (required_reasons_iff read _ _ _).mpr clears.pbo⟩

theorem NoLookaheadGate.timingReasons_eq_nil_iff (timing : Evidence) :
    timingReasons texts timing = [] ↔ isTrue (timing.lookup "passed") = true ∧
      (∀ violation ∈ windows (timing.lookup "violations"),
        truthy (violation.lookup "code") = false ∧ truthy (violation.lookup "message") = false) ∧
      ∀ overlap ∈ (sequence (timing.lookup "window_overlaps")).getD [], ∀ text,
        overlap = .string text → isBlank text = true := by
  simp only [timingReasons, append_eq_nil_iff, reasonIf_eq_nil_iff, map_eq_nil_iff,
    filter_eq_nil_iff, filterMap_eq_nil_iff, Bool.not_eq_false', Bool.or_eq_true, not_or,
    Bool.not_eq_true, and_assoc]
  refine and_congr_right fun _ => and_congr_right fun _ => ?_
  apply forall₂_congr
  intro overlap _
  cases overlap with
  | string text => by_cases blank : isBlank text <;> simp [blank]
  | null | bool | int | float | array | object => simp

theorem NoLookaheadGate.evaluate_accepts_iff (gate : NoLookaheadGate) (candidate : Evidence) :
    Accepts (gate.evaluate texts candidate) ↔
      Clears (validationSection candidate "no_lookahead") := by
  rw [NoLookaheadGate.evaluate]
  generalize validationSection candidate "no_lookahead" = evidence
  refine accepts_shown_iff (accepts_missing _) (·.shown) fun empty => ?_
  cases found : mapping (evidence.lookup "timing_validation") with
  | none =>
    simp only [yields_bind, yields_pure, yields_ok, timingEvidence,
      decided, append_eq_nil_iff, cons_ne_nil, and_false, false_iff]
    intro clears
    obtain ⟨timing, known, _⟩ := clears.timing
    exact absurd (found.symm.trans known) (by simp)
  | some timing =>
    simp only [yields_bind, yields_pure, timingEvidence,
      decided, append_eq_nil_iff, reasonIf_eq_nil_iff, timingReasons_eq_nil_iff]
    constructor
    · rintro ⟨length, counted, ⟨passed, timed⟩, timingPassed, violations, overlaps⟩
      exact ⟨empty, by simpa using passed, timed, timing, found, timingPassed, violations,
        overlaps, length, counted, trivial⟩
    · intro clears
      obtain ⟨other, known, timingPassed, violations, overlaps, length, counted, _⟩ :=
        clears.timing
      obtain rfl := Option.mem_unique found known
      refine ⟨length, counted, ⟨?_, clears.timed⟩, timingPassed, violations, overlaps⟩
      rw [clears.passed]
      rfl

namespace ValidationGauntlet

structure Clears (texts : NumberTexts) (gauntlet : ValidationGauntlet)
    (candidate : Evidence) : Prop where
  identified : Yields (candidateId candidate) fun _ => True
  walkForward : gauntlet.walkForwardGate.Clears texts (validationSection candidate "walk_forward")
  failureWindow : gauntlet.failureWindowGate.Clears texts candidate
  costStress : gauntlet.costStressGate.Clears texts (validationSection candidate "cost_stress")
  correlation : gauntlet.correlationGate.Clears texts (validationSection candidate "correlation")
  capacity : gauntlet.capacityGate.Clears texts (validationSection candidate "capacity")
  deflatedSharpe : ∀ gate ∈ gauntlet.deflatedSharpeGate,
    gate.Clears texts (multiplicityEvidence candidate)
  pbo : ∀ gate ∈ gauntlet.pboGate, gate.Clears texts (multiplicityEvidence candidate)
  noLookahead : NoLookaheadGate.Clears (validationSection candidate "no_lookahead")
  replayed : isTrue ((validationSection candidate "deterministic_replay").lookup "passed") = true

theorem status_reasons_iff (candidate : Evidence)
    (fieldName failedReason missingReason : String) :
    (status candidate fieldName failedReason missingReason).2 = [] ↔
      isTrue ((validationSection candidate fieldName).lookup "passed") = true := by
  rw [status, validationSection]
  cases mapping (candidate.lookup "validation") with
  | none => simp [EvidenceValue.isTrue]
  | some validation =>
    dsimp only
    cases mapping (validation.lookup fieldName) with
    | none => simp [EvidenceValue.isTrue]
    | some evidence =>
      dsimp only [Option.getD_some]
      split <;> simp_all

theorem optionally_reasons_iff {Gate : Type} (gate : Option Gate)
    (evaluate : Gate → Except String GateDecision) :
    Yields (optionally gate evaluate) (fun decisions => decisions.flatMap (·.reasons) = []) ↔
      ∀ configured ∈ gate, Accepts (evaluate configured) := by
  cases gate with
  | none => simp [optionally]
  | some gate => simp [optionally]

theorem noLookahead_accepted {gate : NoLookaheadGate} {candidate : Evidence}
    {decision : GateDecision} (evaluated : gate.evaluate texts candidate = .ok decision)
    (none : decision.reasons = []) : decision.accepted = true := by
  rw [NoLookaheadGate.evaluate] at evaluated
  split at evaluated
  · obtain rfl := Except.ok.inj evaluated
    exact absurd none (cons_ne_nil _ _)
  · obtain ⟨timing, _, decided⟩ := bind_inv evaluated
    obtain rfl := Except.ok.inj decided
    exact List.isEmpty_iff.mpr none

theorem audited_accepted (auditLog : Option (ValidationGauntletResult → String))
    (result : ValidationGauntletResult) : (audited auditLog result).accepted = result.accepted := by
  cases auditLog <;> rfl

theorem noLookahead_reasons_iff (noLookahead : GateDecision) (statusReasons : List String)
    (accepted : noLookahead.reasons = [] → noLookahead.accepted = true) :
    noLookahead.reasons = [] ∧ (if noLookahead.accepted = true then ("passed", statusReasons)
      else if noLookahead.reasons ≠ [] then
        ("failed", noLookahead.reasons.foldl (fun reasons reason =>
          if reason ∈ reasons then reasons else reasons ++ [reason]) statusReasons)
      else ("missing", statusReasons ++ ["no_lookahead: evidence missing"])).2 = [] ↔
      noLookahead.reasons = [] ∧ statusReasons = [] := by
  apply and_congr_right
  intro none
  rw [if_pos (accepted none)]

theorem validate_accepts_iff (store : ArtifactStore) (gauntlet : ValidationGauntlet)
    (auditLog : Option (ValidationGauntletResult → String)) (candidate : Evidence) :
    Yields (gauntlet.validate texts store auditLog candidate)
      (fun result => result.accepted = true) ↔
      (gauntlet.normalized texts store candidate).2 = [] ∧
        gauntlet.Clears texts (gauntlet.normalized texts store candidate).1 := by
  rw [validate]
  obtain ⟨evidence, artifactReasons⟩ := gauntlet.normalized texts store candidate
  dsimp only
  simp only [yields_bind]
  constructor
  · rintro ⟨candidateId, identified, walkForward, walked, failureWindow, vetoed, costStress,
      stressed, correlation, correlated, capacity, sized, deflated, deflates, pbo, probable,
      noLookahead, looked, accepted⟩
    rw [yields_pure, audited_accepted] at accepted
    simp only [List.isEmpty_iff, append_eq_nil_iff, flatMap_append, flatMap_cons,
      flatMap_nil, append_nil] at accepted
    obtain ⟨⟨artifacts, ⟨⟨⟨walkedClear, vetoedClear, stressedClear, correlatedClear, sizedClear⟩,
      deflatedClear⟩, pboClear⟩, lookedClear⟩, statusClear⟩ := accepted
    have replayed := ((noLookahead_reasons_iff noLookahead _
      (noLookahead_accepted looked)).mp ⟨lookedClear, statusClear⟩).2
    refine ⟨artifacts, ⟨candidateId, identified, trivial⟩, ?_, ?_, ?_, ?_, ?_, ?_, ?_, ?_,
      (status_reasons_iff _ _ _ _).mp replayed⟩
    · exact (gauntlet.walkForwardGate.evaluate_accepts_iff evidence).mp ⟨_, walked, walkedClear⟩
    · exact (gauntlet.failureWindowGate.evaluate_accepts_iff evidence).mp ⟨_, vetoed, vetoedClear⟩
    · exact (gauntlet.costStressGate.evaluate_accepts_iff evidence).mp ⟨_, stressed, stressedClear⟩
    · exact (gauntlet.correlationGate.evaluate_accepts_iff evidence).mp
        ⟨_, correlated, correlatedClear⟩
    · exact (gauntlet.capacityGate.evaluate_accepts_iff evidence).mp ⟨_, sized, sizedClear⟩
    · intro gate configured
      exact (gate.evaluate_accepts_iff evidence).mp
        ((optionally_reasons_iff _ _).mp ⟨_, deflates, deflatedClear⟩ gate configured)
    · intro gate configured
      exact (gate.evaluate_accepts_iff evidence).mp
        ((optionally_reasons_iff _ _).mp ⟨_, probable, pboClear⟩ gate configured)
    · exact (gauntlet.noLookaheadGate.evaluate_accepts_iff evidence).mp ⟨_, looked, lookedClear⟩
  · rintro ⟨artifacts, clears⟩
    obtain ⟨candidateId, identified, _⟩ := clears.identified
    obtain ⟨walkForward, walked, walkedClear⟩ :=
      (gauntlet.walkForwardGate.evaluate_accepts_iff evidence).mpr clears.walkForward
    obtain ⟨failureWindow, vetoed, vetoedClear⟩ :=
      (gauntlet.failureWindowGate.evaluate_accepts_iff evidence).mpr clears.failureWindow
    obtain ⟨costStress, stressed, stressedClear⟩ :=
      (gauntlet.costStressGate.evaluate_accepts_iff evidence).mpr clears.costStress
    obtain ⟨correlation, correlated, correlatedClear⟩ :=
      (gauntlet.correlationGate.evaluate_accepts_iff evidence).mpr clears.correlation
    obtain ⟨capacity, sized, sizedClear⟩ :=
      (gauntlet.capacityGate.evaluate_accepts_iff evidence).mpr clears.capacity
    obtain ⟨deflated, deflates, deflatedClear⟩ :=
      (optionally_reasons_iff gauntlet.deflatedSharpeGate (·.evaluate texts evidence)).mpr
        fun gate configured =>
          (gate.evaluate_accepts_iff evidence).mpr (clears.deflatedSharpe gate configured)
    obtain ⟨pbo, probable, pboClear⟩ :=
      (optionally_reasons_iff gauntlet.pboGate (·.evaluate texts evidence)).mpr
        fun gate configured => (gate.evaluate_accepts_iff evidence).mpr (clears.pbo gate configured)
    obtain ⟨noLookahead, looked, lookedClear⟩ :=
      (gauntlet.noLookaheadGate.evaluate_accepts_iff evidence).mpr clears.noLookahead
    refine ⟨candidateId, identified, walkForward, walked, failureWindow, vetoed, costStress,
      stressed, correlation, correlated, capacity, sized, deflated, deflates, pbo, probable,
      noLookahead, looked, ?_⟩
    dsimp only
    rw [yields_pure, audited_accepted]
    have replayed := (status_reasons_iff evidence "deterministic_replay"
      "deterministic_replay: replay evidence failed"
      "deterministic_replay: evidence missing").mpr clears.replayed
    have statusClear := ((noLookahead_reasons_iff noLookahead _
      (noLookahead_accepted looked)).mpr ⟨lookedClear, replayed⟩).2
    simp only [List.isEmpty_iff, append_eq_nil_iff, flatMap_append, flatMap_cons,
      flatMap_nil, append_nil]
    exact ⟨⟨artifacts, ⟨⟨⟨walkedClear, vetoedClear, stressedClear, correlatedClear, sizedClear⟩,
      deflatedClear⟩, pboClear⟩, lookedClear⟩, statusClear⟩

/-- The metrics that the configured thresholds govern are present, finite and within them, and the
other numbers that the gates compare are present. -/
structure Sound (texts : NumberTexts) (gauntlet : ValidationGauntlet)
    (candidate : Evidence) : Prop where
  testWindows : gauntlet.walkForwardGate.minTestWindows ≤
    (acceptedTestWindows (validationSection candidate "walk_forward")).length
  trainTestGap : ∀ limit ∈ gauntlet.walkForwardGate.maxTrainTestGap,
    Meets texts ((validationSection candidate "walk_forward").lookup "max_train_test_gap")
      fun gap => gap.le limit
  drawdown : ∀ window ∈ vetoWindows candidate,
    Meets texts (window.lookup "max_drawdown")
      fun drawdown => drawdown.abs.le gauntlet.failureWindowGate.maxDrawdown
  degradation : Meets texts ((validationSection candidate "cost_stress").lookup "degradation")
    fun degradation => degradation.le gauntlet.costStressGate.maxDegradation
  slippage : Meets texts
    ((validationSection candidate "cost_stress").lookup "slippage_sensitivity")
    fun slippage => slippage.le gauntlet.costStressGate.maxSlippageSensitivity
  stressedScore : ∀ limit ∈ gauntlet.costStressGate.minStressedScore,
    Meets texts ((validationSection candidate "cost_stress").lookup "stressed_score") limit.le
  correlation : Meets texts
    ((validationSection candidate "correlation").lookup "max_active_correlation")
    fun correlation => correlation.abs.le gauntlet.correlationGate.maxActiveCorrelation
  turnover : ∀ limit ∈ gauntlet.capacityGate.maxTurnover,
    Meets texts ((validationSection candidate "capacity").lookup "turnover")
      fun turnover => turnover.le limit
  deflatedSharpe : ∀ gate ∈ gauntlet.deflatedSharpeGate,
    Meets texts ((multiplicityEvidence candidate).lookup "deflated_sharpe_ratio")
      gate.minDeflatedSharpeRatio.le
  pbo : ∀ gate ∈ gauntlet.pboGate,
    Meets texts ((multiplicityEvidence candidate).lookup "probability_of_backtest_overfitting")
      fun pbo => pbo.le gate.maxPbo
  capacity : Shown texts ((validationSection candidate "capacity").lookup "estimated_capacity") ∧
    Shown texts ((validationSection candidate "capacity").lookup "required_capital")
  activity : Shown texts (fieldOf (activeSnapshot (validationSection candidate "correlation"))
      "candidate_return_count") ∧
    (textIs (fieldOf (activeSnapshot (validationSection candidate "correlation"))
      "active_portfolio_status") "computed" = true →
      Shown texts (fieldOf (activeSnapshot (validationSection candidate "correlation"))
        "active_candidate_count"))

/-- The metrics that the configured thresholds govern are finite numbers, the thresholds are
numbers, and the other numbers that the gates compare are present. -/
structure Complete (texts : NumberTexts) (gauntlet : ValidationGauntlet)
    (candidate : Evidence) : Prop where
  trainTestGap : ∀ limit ∈ gauntlet.walkForwardGate.maxTrainTestGap,
    Finite texts ((validationSection candidate "walk_forward").lookup "max_train_test_gap") ∧
      limit ≠ .nan
  drawdown : ∀ window ∈ vetoWindows candidate,
    Finite texts (window.lookup "max_drawdown") ∧ gauntlet.failureWindowGate.maxDrawdown ≠ .nan
  degradation : Finite texts ((validationSection candidate "cost_stress").lookup "degradation") ∧
    gauntlet.costStressGate.maxDegradation ≠ .nan
  slippage : Finite texts
    ((validationSection candidate "cost_stress").lookup "slippage_sensitivity") ∧
    gauntlet.costStressGate.maxSlippageSensitivity ≠ .nan
  stressedScore : ∀ limit ∈ gauntlet.costStressGate.minStressedScore,
    Finite texts ((validationSection candidate "cost_stress").lookup "stressed_score") ∧
      limit ≠ .nan
  correlation : Finite texts
    ((validationSection candidate "correlation").lookup "max_active_correlation") ∧
    gauntlet.correlationGate.maxActiveCorrelation ≠ .nan
  turnover : ∀ limit ∈ gauntlet.capacityGate.maxTurnover,
    Finite texts ((validationSection candidate "capacity").lookup "turnover") ∧ limit ≠ .nan
  deflatedSharpe : gauntlet.deflatedSharpeGate.isSome = true →
    Finite texts ((multiplicityEvidence candidate).lookup "deflated_sharpe_ratio")
  pbo : gauntlet.pboGate.isSome = true →
    Finite texts ((multiplicityEvidence candidate).lookup "probability_of_backtest_overfitting")
  capacity : Shown texts ((validationSection candidate "capacity").lookup "estimated_capacity") ∧
    Shown texts ((validationSection candidate "capacity").lookup "required_capital")
  activity : Shown texts (fieldOf (activeSnapshot (validationSection candidate "correlation"))
      "candidate_return_count") ∧
    (textIs (fieldOf (activeSnapshot (validationSection candidate "correlation"))
      "active_portfolio_status") "computed" = true →
      Shown texts (fieldOf (activeSnapshot (validationSection candidate "correlation"))
        "active_candidate_count"))

theorem optional_iff {Gate : Type} {gate : Option Gate} {bounded : Gate → Prop} {finite : Prop}
    (decides : ∀ configured ∈ gate, (bounded configured ↔ finite)) :
    (∀ configured ∈ gate, bounded configured) ↔ (gate.isSome = true → finite) := by
  cases gate with
  | none => simp
  | some gate => simpa using decides gate rfl

theorem Clears.sound_iff {gauntlet : ValidationGauntlet} {candidate : Evidence}
    (clears : gauntlet.Clears texts candidate) :
    gauntlet.Sound texts candidate ↔ gauntlet.Complete texts candidate := by
  have gap := forall₂_congr fun limit configured =>
    meets_le_iff (clears.walkForward.gap limit configured)
  have drawdown := forall₂_congr fun window mem =>
    meets_abs_le_iff (clears.failureWindow.drawdown window mem)
  have degradation := meets_le_iff clears.costStress.degradation.unobjected
  have slippage := meets_le_iff clears.costStress.slippage.unobjected
  have stressedScore := forall₂_congr fun limit configured =>
    meets_ge_iff (clears.costStress.stressedScore limit configured)
  have correlation := meets_abs_le_iff clears.correlation.correlation.unobjected
  have turnover := forall₂_congr fun limit configured =>
    meets_le_iff (clears.capacity.turnover limit configured).unobjected
  have deflatedSharpe := optional_iff fun gate configured =>
    (meets_ge_iff (clears.deflatedSharpe gate configured).dsr.unobjected).trans
      (and_iff_left (ne_nan_of_le gate.ratio.1).2)
  have pbo := optional_iff fun gate configured =>
    (meets_le_iff (clears.pbo gate configured).pbo.unobjected).trans
      (and_iff_left (ne_nan_of_le gate.probability.1).2)
  constructor
  · intro sound
    exact ⟨gap.mp sound.trainTestGap, drawdown.mp sound.drawdown, degradation.mp sound.degradation,
      slippage.mp sound.slippage, stressedScore.mp sound.stressedScore,
      correlation.mp sound.correlation, turnover.mp sound.turnover,
      deflatedSharpe.mp sound.deflatedSharpe, pbo.mp sound.pbo, sound.capacity, sound.activity⟩
  · intro complete
    exact ⟨clears.walkForward.enough, gap.mpr complete.trainTestGap,
      drawdown.mpr complete.drawdown, degradation.mpr complete.degradation,
      slippage.mpr complete.slippage, stressedScore.mpr complete.stressedScore,
      correlation.mpr complete.correlation, turnover.mpr complete.turnover,
      deflatedSharpe.mpr complete.deflatedSharpe, pbo.mpr complete.pbo, complete.capacity,
      complete.activity⟩

theorem validate_sound_iff (store : ArtifactStore) (gauntlet : ValidationGauntlet)
    (auditLog : Option (ValidationGauntletResult → String)) (candidate : Evidence) :
    (Yields (gauntlet.validate texts store auditLog candidate)
        (fun result => result.accepted = true) →
      gauntlet.Sound texts (gauntlet.normalized texts store candidate).1) ↔
    ((gauntlet.normalized texts store candidate).2 = [] →
      gauntlet.Clears texts (gauntlet.normalized texts store candidate).1 →
        gauntlet.Complete texts (gauntlet.normalized texts store candidate).1) := by
  rw [validate_accepts_iff, and_imp]
  exact forall₂_congr fun _ clears => clears.sound_iff

end ValidationGauntlet

end Qts
