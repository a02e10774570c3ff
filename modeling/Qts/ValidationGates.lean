import Qts.ResearchEvidence

/-! # Validation gates -/

namespace Qts

open EvidenceValue

structure GateDecision where
  gateName : String
  accepted : Bool
  reasons : List String
  evidence : Evidence

namespace GateDecision

def missing (gateName : String) : GateDecision where
  gateName := gateName
  accepted := false
  reasons := [gateName ++ ": evidence missing"]
  evidence := []

def decided (gateName : String) (reasons : List String) (evidence : Evidence) :
    GateDecision where
  gateName := gateName
  accepted := reasons.isEmpty
  reasons := reasons
  evidence := evidence

end GateDecision

def reasonIf (condition : Bool) (reason : String) : List String :=
  if condition then [reason] else []

theorem reasonIf_eq_nil_iff (condition : Bool) (reason : String) :
    reasonIf condition reason = [] ↔ condition = false := by
  cases condition <;> simp [reasonIf]

def reasonAgainst (metric : Option FloatValue) (objection : FloatValue → Bool)
    (reason : FloatValue → String) : List String :=
  match metric with
  | none => []
  | some value => reasonIf (objection value) (reason value)

theorem reasonAgainst_eq_nil_iff (metric : Option FloatValue) (objection : FloatValue → Bool)
    (reason : FloatValue → String) :
    reasonAgainst metric objection reason = [] ↔
      ∀ found ∈ metric, objection found = false := by
  cases metric with
  | none => simp [reasonAgainst]
  | some value => simp [reasonAgainst, reasonIf_eq_nil_iff]

def requiredReasons (metric : Option FloatValue) (missingReason : String)
    (objection : FloatValue → Bool) (reason : FloatValue → String) : List String :=
  reasonIf metric.isNone missingReason ++ reasonAgainst metric objection reason

theorem requiredReasons_eq_nil_iff (metric : Option FloatValue) (missingReason : String)
    (objection : FloatValue → Bool) (reason : FloatValue → String) :
    requiredReasons metric missingReason objection reason = [] ↔
      ∃ value, metric = some value ∧ objection value = false := by
  rw [requiredReasons, List.append_eq_nil_iff, reasonIf_eq_nil_iff, reasonAgainst_eq_nil_iff]
  cases metric with
  | none => simp
  | some value => simp

/-- The reasons about a threshold that may not be configured. -/
def reasonsFor (limit : Option FloatValue) (reasons : FloatValue → List String) : List String :=
  match limit with
  | none => []
  | some limit => reasons limit

theorem reasonsFor_eq_nil_iff (limit : Option FloatValue) (reasons : FloatValue → List String) :
    reasonsFor limit reasons = [] ↔ ∀ configured ∈ limit, reasons configured = [] := by
  cases limit with
  | none => simp [reasonsFor]
  | some limit => simp [reasonsFor]

variable (texts : NumberTexts)

def windowName (window : Evidence) : String :=
  texts.str ((window.lookup "name").getD (.string "window"))

/-- Validate walk-forward consistency evidence for one survivor. -/
structure WalkForwardGate where
  minTestWindows : Int := 1
  maxTrainTestGap : Option FloatValue := none
  pos : 1 ≤ minTestWindows := by decide
  nonneg : ∀ limit ∈ maxTrainTestGap, limit.lt (.finite 0) = false := by simp

def WalkForwardGate.evaluate (gate : WalkForwardGate) (candidate : Evidence) :
    Except String GateDecision := do
  let evidence := validationSection candidate "walk_forward"
  if evidence.isEmpty then
    return .missing "walk_forward"
  let consistent := isTrue (evidence.lookup "consistent")
  let testWindows := windows (evidence.lookup "test_windows")
  let acceptedWindows := testWindows.filter fun window => isTrue (window.lookup "accepted")
  let gap ← number texts (evidence.lookup "max_train_test_gap")
  let gapReasons := reasonsFor gate.maxTrainTestGap fun limit =>
    reasonAgainst gap limit.lt fun gap =>
      "walk_forward: max_train_test_gap " ++ texts.general gap ++ " exceeds " ++
        texts.general limit
  let reasons :=
    reasonIf (!consistent) "walk_forward: consistency check failed" ++
    reasonIf (decide ((acceptedWindows.length : Int) < gate.minTestWindows))
      ("walk_forward: accepted test windows " ++ toString acceptedWindows.length ++ " below " ++
        toString gate.minTestWindows) ++
    (testWindows.filter fun window => isFalse (window.lookup "accepted")).map (fun window =>
      "walk_forward: " ++ windowName texts window ++ " test window rejected") ++
    gapReasons
  return .decided "walk_forward" reasons (artifactMetadata evidence ++ [
    ("accepted_test_windows", .int acceptedWindows.length),
    ("consistent", .bool consistent),
    ("max_train_test_gap", ofNumber gap),
    ("test_window_count", .int testWindows.length)])

/-- Reject candidates that breach adverse-window loss constraints. -/
structure FailureWindowVetoGate where
  maxDrawdown : FloatValue
  nonneg : maxDrawdown.lt (.finite 0) = false := by decide +kernel

namespace FailureWindowVetoGate

def failureWindows (candidate : Evidence) : List Evidence :=
  match mapping (candidate.lookup "validation") with
  | some validation => windows (validation.lookup "failure_windows")
  | none => []

def windowReasons (gate : FailureWindowVetoGate) (window : Evidence) :
    Except String (List String) := do
  let drawdown ← number texts (window.lookup "max_drawdown")
  return reasonIf (isTrue (window.lookup "breached"))
      ("failure_window_veto: " ++ windowName texts window ++ " breached") ++
    reasonAgainst drawdown (fun drawdown => gate.maxDrawdown.lt drawdown.abs) fun drawdown =>
      "failure_window_veto: " ++ windowName texts window ++ " max_drawdown " ++
        texts.general drawdown.abs ++ " exceeds " ++ texts.general gate.maxDrawdown

def vetoWindows (candidate : Evidence) : List Evidence :=
  (failureWindows candidate).filter fun window => !isTrue (window.lookup "report_only")

def evaluate (gate : FailureWindowVetoGate) (candidate : Evidence) :
    Except String GateDecision := do
  let windows := failureWindows candidate
  match windows with
  | [] => return .missing "failure_window_veto"
  | first :: _ =>
    let reasons ← (vetoWindows candidate).mapM (gate.windowReasons texts)
    return .decided "failure_window_veto" reasons.flatten (artifactMetadata first ++ [
      ("max_drawdown", .float gate.maxDrawdown),
      ("veto_window_count", .int (vetoWindows candidate).length),
      ("window_count", .int windows.length)])

end FailureWindowVetoGate

structure CostStressGate where
  maxDegradation : FloatValue
  maxSlippageSensitivity : FloatValue
  minStressedScore : Option FloatValue := none
  nonneg : maxDegradation.lt (.finite 0) = false ∧
    maxSlippageSensitivity.lt (.finite 0) = false := by decide +kernel

def CostStressGate.evaluate (gate : CostStressGate) (candidate : Evidence) :
    Except String GateDecision := do
  let evidence := validationSection candidate "cost_stress"
  if evidence.isEmpty then
    return .missing "cost_stress"
  let degradation ← number texts (evidence.lookup "degradation")
  let slippage ← number texts (evidence.lookup "slippage_sensitivity")
  let stressedScore ← number texts (evidence.lookup "stressed_score")
  let scoreReasons := reasonsFor gate.minStressedScore fun limit =>
    reasonAgainst stressedScore (fun score => score.lt limit) fun score =>
      "cost_stress: stressed_score " ++ texts.general score ++ " below " ++ texts.general limit
  let reasons :=
    requiredReasons degradation "cost_stress: degradation missing" gate.maxDegradation.lt
      (fun degradation => "cost_stress: degradation " ++ texts.general degradation ++
        " exceeds " ++ texts.general gate.maxDegradation) ++
    requiredReasons slippage "cost_stress: slippage_sensitivity missing"
      gate.maxSlippageSensitivity.lt
      (fun slippage => "cost_stress: slippage_sensitivity " ++ texts.general slippage ++
        " exceeds " ++ texts.general gate.maxSlippageSensitivity) ++
    scoreReasons
  return .decided "cost_stress" reasons (artifactMetadata evidence ++ [
    ("degradation", ofNumber degradation),
    ("slippage_sensitivity", ofNumber slippage),
    ("stressed_score", ofNumber stressedScore)])

/-- Reject candidates too correlated with active strategies. -/
structure CorrelationGate where
  maxActiveCorrelation : FloatValue
  nonneg : maxActiveCorrelation.lt (.finite 0) = false := by decide +kernel

def fieldOf (evidence : Option Evidence) (fieldName : String) : Option EvidenceValue :=
  evidence.bind fun fields => fields.lookup fieldName

def textIs (value : Option EvidenceValue) (text : String) : Bool :=
  match value with
  | some (.string found) => decide (found = text)
  | _ => false

/-- The test that a number is missing or not positive. -/
def notPositive (metric : Option FloatValue) : Bool :=
  match metric with
  | none => true
  | some value => value.le (.finite 0)

def statusIn (status : Option EvidenceValue) (known : List String) : Except String Bool :=
  match status with
  | some (.array _) => .error "unhashable type: 'list'"
  | some (.object _) => .error "unhashable type: 'dict'"
  | _ => .ok (known.any (textIs status))

def CorrelationGate.evaluate (gate : CorrelationGate) (candidate : Evidence) :
    Except String GateDecision := do
  let evidence := validationSection candidate "correlation"
  if evidence.isEmpty then
    return .missing "correlation"
  let maxCorrelation ← number texts (evidence.lookup "max_active_correlation")
  let snapshot := mapping (evidence.lookup "active_portfolio_snapshot")
  let activeStatus := fieldOf snapshot "active_portfolio_status"
  let activeCount ← number texts (fieldOf snapshot "active_candidate_count")
  let candidateReturnCount ← number texts (fieldOf snapshot "candidate_return_count")
  let known ← statusIn activeStatus ["computed", "no_active_candidates"]
  let reasons :=
    reasonIf (!known) "correlation: active_portfolio_status missing" ++
    reasonIf (notPositive candidateReturnCount)
      "correlation: candidate return series missing" ++
    reasonIf (textIs activeStatus "computed" && notPositive activeCount)
      "correlation: active candidates missing" ++
    requiredReasons maxCorrelation "correlation: max_active_correlation missing"
      (fun correlation => gate.maxActiveCorrelation.lt correlation.abs)
      (fun correlation => "correlation: max_active_correlation " ++
        texts.general correlation.abs ++ " exceeds " ++ texts.general gate.maxActiveCorrelation)
  return .decided "correlation" reasons (artifactMetadata evidence ++ [
    ("active_candidate_count", ofNumber activeCount),
    ("active_portfolio_status", activeStatus.getD .null),
    ("candidate_return_count", ofNumber candidateReturnCount),
    ("max_active_correlation", ofNumber maxCorrelation)])

structure CapacityGate where
  maxTurnover : Option FloatValue := none
  nonneg : ∀ limit ∈ maxTurnover, limit.lt (.finite 0) = false := by simp

def CapacityGate.evaluate (gate : CapacityGate) (candidate : Evidence) :
    Except String GateDecision := do
  let evidence := validationSection candidate "capacity"
  if evidence.isEmpty then
    return .missing "capacity"
  let estimatedCapacity ← number texts (evidence.lookup "estimated_capacity")
  let requiredCapital ← number texts (evidence.lookup "required_capital")
  let turnover ← number texts (evidence.lookup "turnover")
  let capacityReasons := reasonsFor estimatedCapacity fun capacity =>
    reasonAgainst requiredCapital capacity.lt fun capital =>
      "capacity: required_capital " ++ texts.precise capital ++
        " exceeds estimated_capacity " ++ texts.precise capacity
  let turnoverReasons := reasonsFor gate.maxTurnover fun limit =>
    requiredReasons turnover "capacity: turnover missing" limit.lt fun turnover =>
      "capacity: turnover " ++ texts.general turnover ++ " exceeds " ++ texts.general limit
  let reasons :=
    reasonIf estimatedCapacity.isNone "capacity: estimated_capacity missing" ++
    reasonIf requiredCapital.isNone "capacity: required_capital missing" ++
    capacityReasons ++ turnoverReasons
  return .decided "capacity" reasons (artifactMetadata evidence ++ [
    ("estimated_capacity", ofNumber estimatedCapacity),
    ("required_capital", ofNumber requiredCapital),
    ("turnover", ofNumber turnover)])

def lengthOf : EvidenceValue → Except String Int
  | .string value => .ok value.length
  | .array items => .ok items.length
  | .object fields => .ok fields.length
  | _ => .error "object has no len()"

/-- Validate no-lookahead evidence contains timing-protocol proof. -/
structure NoLookaheadGate where

namespace NoLookaheadGate

def timingReasons (timingValidation : Evidence) : List String :=
  reasonIf (!isTrue (timingValidation.lookup "passed"))
    "no_lookahead: timing protocol validation failed" ++
  ((windows (timingValidation.lookup "violations")).filter fun violation =>
      truthy (violation.lookup "code") || truthy (violation.lookup "message")).map (fun violation =>
    "no_lookahead: " ++ texts.str ((violation.lookup "code").getD (.string "")) ++ ": " ++
      texts.str ((violation.lookup "message").getD (.string ""))) ++
  ((sequence (timingValidation.lookup "window_overlaps")).getD []).filterMap fun overlap =>
    match overlap with
    | .string text =>
      if PythonText.isBlank text then none else some ("no_lookahead: window overlap: " ++ text)
    | _ => none

def timingEvidence : Option Evidence → Except String Evidence
  | none => .ok []
  | some timing => do
    let violations ← lengthOf ((timing.lookup "violations").getD (.array []))
    return [("timing_checked_features", (timing.lookup "checked_features").getD (.array [])),
      ("timing_violation_count", .int violations)]

def evaluate (_gate : NoLookaheadGate) (candidate : Evidence) :
    Except String GateDecision := do
  let evidence := validationSection candidate "no_lookahead"
  if evidence.isEmpty then
    return .missing "no_lookahead"
  let stringScanOnly := isTrue (evidence.lookup "string_scan_only")
  let passed := isTrue (evidence.lookup "passed")
  let timingValidation := mapping (evidence.lookup "timing_validation")
  let timing := match timingValidation with
    | none => ["no_lookahead: timing_validation evidence missing; " ++
        "only string scan detected which is insufficient for promotion"]
    | some timing => timingReasons texts timing
  let reasons :=
    reasonIf (!passed) "no_lookahead: validation evidence failed" ++
    reasonIf stringScanOnly
      "no_lookahead: string-only scan is insufficient for promotion-grade validation" ++ timing
  let timingEvidence ← timingEvidence timingValidation
  return .decided "no_lookahead" reasons (artifactMetadata evidence ++ [
    ("has_timing_validation", .bool timingValidation.isSome),
    ("passed", .bool passed),
    ("string_scan_only", .bool stringScanOnly)] ++ timingEvidence)

end NoLookaheadGate

def multiplicityEvidence (candidate : Evidence) : Evidence :=
  (mapping (candidate.lookup "multiplicity_adjustment")).getD []

def trialCountValue : Option FloatValue → Except String EvidenceValue
  | none => .ok .null
  | some trialCount => do
    let trials ← intOfFloat trialCount
    return .int trials

def multiplicityMissing (gateName : String) : GateDecision where
  gateName := gateName
  accepted := false
  reasons := [gateName ++ ": multiplicity adjustment evidence missing"]
  evidence := []

/-- Reject candidates whose Deflated Sharpe Ratio falls below the threshold. -/
structure DeflatedSharpeGate where
  minDeflatedSharpeRatio : FloatValue := .finite (19 / 20)
  ratio : FloatValue.le (.finite 0) minDeflatedSharpeRatio = true ∧
    minDeflatedSharpeRatio.le (.finite 1) = true := by decide +kernel

def DeflatedSharpeGate.evaluate (gate : DeflatedSharpeGate) (candidate : Evidence) :
    Except String GateDecision := do
  let evidence := multiplicityEvidence candidate
  if evidence.isEmpty then
    return multiplicityMissing "deflated_sharpe"
  let dsr ← number texts (evidence.lookup "deflated_sharpe_ratio")
  let trialCount ← number texts (evidence.lookup "trial_count")
  let reasons :=
    requiredReasons dsr "deflated_sharpe: deflated_sharpe_ratio missing"
      (fun dsr => dsr.lt gate.minDeflatedSharpeRatio)
      (fun dsr => "deflated_sharpe: deflated_sharpe_ratio " ++ texts.general dsr ++ " below " ++
        texts.general gate.minDeflatedSharpeRatio)
  let expectedMaximum ← number texts (evidence.lookup "expected_maximum_sharpe")
  let observed ← number texts (evidence.lookup "observed_sharpe")
  let trials ← trialCountValue trialCount
  return .decided "deflated_sharpe" reasons [
    ("deflated_sharpe_ratio", ofNumber dsr),
    ("expected_maximum_sharpe", ofNumber expectedMaximum),
    ("min_deflated_sharpe_ratio", .float gate.minDeflatedSharpeRatio),
    ("observed_sharpe", ofNumber observed),
    ("trial_count", trials)]

/-- Reject candidates whose Probability of Backtest Overfitting is too high. -/
structure PBOGate where
  maxPbo : FloatValue := .finite (1 / 2)
  probability : FloatValue.le (.finite 0) maxPbo = true ∧
    maxPbo.le (.finite 1) = true := by decide +kernel

def PBOGate.evaluate (gate : PBOGate) (candidate : Evidence) :
    Except String GateDecision := do
  let evidence := multiplicityEvidence candidate
  if evidence.isEmpty then
    return multiplicityMissing "pbo"
  let pbo ← number texts (evidence.lookup "probability_of_backtest_overfitting")
  let reasons :=
    requiredReasons pbo "pbo: probability_of_backtest_overfitting missing" gate.maxPbo.lt
      (fun pbo => "pbo: probability_of_backtest_overfitting " ++ texts.general pbo ++
        " exceeds " ++ texts.general gate.maxPbo)
  return .decided "pbo" reasons [
    ("max_pbo", .float gate.maxPbo),
    ("probability_of_backtest_overfitting", ofNumber pbo)]

end Qts
