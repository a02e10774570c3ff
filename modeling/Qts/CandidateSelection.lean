import Qts.JsonValues
import Qts.ValidationGates

/-! # Candidate selection -/

namespace Qts

open EvidenceValue

structure MetricBound where
  value : ℚ
  text : String

inductive MetricType
  | bool
  | int
  | float
  | str

structure ResearchMetricDefinition where
  path : String
  type : MetricType
  requiredFor : List String := []
  minimum : Option MetricBound := none
  maximum : Option MetricBound := none

structure ResearchMetricsSchema where
  definitions : List ResearchMetricDefinition

namespace ResearchMetricsSchema

def typeText : MetricType → String
  | .bool => "bool"
  | .int => "int"
  | .float => "float"
  | .str => "str"

def valueFor (metrics : Evidence) (path : String) : Option EvidenceValue :=
  let group := String.ofList (path.toList.takeWhile (· ≠ '.'))
  let fieldName := String.ofList ((path.toList.dropWhile (· ≠ '.')).drop 1)
  match (mapping (metrics.lookup group)).bind fun values => values.lookup fieldName with
  | some .null => none
  | value => value

def matchesType : EvidenceValue → MetricType → Bool
  | .bool _, .bool => true
  | .int _, .int => true
  | .int _, .float => true
  | .float _, .float => true
  | .string _, .str => true
  | _, _ => false

def boundedNumber : EvidenceValue → Except String (Option FloatValue)
  | .int value =>
    match floatOfInt value with
    | .ok _ => .ok (some (.finite value))
    | .error msg => .error msg
  | .float value => .ok (some value)
  | _ => .ok none

def boundReasons (definition : ResearchMetricDefinition) (value : ℚ) : List String :=
  definition.minimum.toList.flatMap (fun bound => reasonIf (decide (value < bound.value))
    (definition.path ++ " below minimum " ++ bound.text)) ++
  definition.maximum.toList.flatMap fun bound => reasonIf (decide (bound.value < value))
    (definition.path ++ " above maximum " ++ bound.text)

def definitionReasons (metrics : Evidence) (purpose : String)
    (definition : ResearchMetricDefinition) : Except String (List String) :=
  match valueFor metrics definition.path with
  | none => .ok (reasonIf (decide (purpose ∈ definition.requiredFor))
      (definition.path ++ " missing for " ++ purpose))
  | some value =>
    if matchesType value definition.type then do
      let number ← boundedNumber value
      match number with
      | none => return []
      | some (.finite value) => return boundReasons definition value
      | some _ => return [definition.path ++ " must be finite"]
    else .ok [definition.path ++ " expected " ++ typeText definition.type]

def validate (schema : ResearchMetricsSchema) (metrics : Evidence) (purpose : String) :
    Except String (List String) := do
  let reasons ← schema.definitions.mapM (definitionReasons metrics purpose)
  return reasons.flatten

end ResearchMetricsSchema

/-- Thresholds and weights for promotion-grade research candidate selection. -/
structure SelectionPolicy where
  maxDrawdown : FloatValue := .finite (1 / 4)
  minOosTradeCount : Int := 30
  minProfitFactor : Option FloatValue := none
  maxSelected : Option Nat := none
  purpose : String := "candidate_selection"
  totalReturnMetric : String := "performance.total_return"
  oosSharpeMetric : String := "performance.oos_sharpe"
  maxDrawdownMetric : String := "performance.max_drawdown"
  oosTradeCountMetric : String := "trading.oos_trade_count"
  profitFactorMetric : String := "quality.profit_factor"
  costSensitivityMetric : String := "costs.cost_sensitivity"
  observedSharpeMetric : String := "performance.observed_sharpe"
  sampleSizeMetric : String := "performance.return_observation_count"
  skewnessMetric : String := "performance.return_skewness"
  kurtosisMetric : String := "performance.return_kurtosis"
  oosReturnsMetric : String := "performance.oos_returns"
  falseDiscoveryRate : FloatValue := .finite (1 / 10)
  compositeWeights : List (String × FloatValue) :=
    [("total_return", .finite 1), ("oos_sharpe", .finite 1), ("max_drawdown", .finite 1),
      ("cost_sensitivity", .finite (1 / 2))]
  drawdownNonNegative : maxDrawdown.lt (.finite 0) = false := by
    first | exact FloatValue.quarter_nonNegative | decide +kernel
  tradeCountNonNegative : 0 ≤ minOosTradeCount := by decide
  profitFactorPositive : ∀ limit ∈ minProfitFactor, limit.le (.finite 0) = false := by simp
  selectedPositive : ∀ limit ∈ maxSelected, 1 ≤ limit := by simp
  discoveryRate : FloatValue.lt (.finite 0) falseDiscoveryRate = true ∧
    falseDiscoveryRate.le (.finite 1) = true := by decide +kernel

namespace SelectionPolicy

def splitDots : List Char → List (List Char)
  | [] => [[]]
  | char :: rest =>
    if char = '.' then [] :: splitDots rest
    else
      match splitDots rest with
      | [] => [[char]]
      | part :: parts => (char :: part) :: parts

def metricValue (metrics : Evidence) (path : String) : Option EvidenceValue :=
  ((splitDots path.toList).map String.ofList).foldl (fun current part =>
    (mapping current).bind fun fields => fields.lookup part) (some (.object metrics))

variable (texts : NumberTexts)

def metricNumber (metrics : Evidence) (path : String) :
    Except String (Option FloatValue) :=
  number texts (metricValue metrics path)

end SelectionPolicy

namespace CandidateSelector

open SelectionPolicy

variable (texts : NumberTexts) (policy : SelectionPolicy)

def tradeCountReasons (tradeCount : Option FloatValue) : Except String (List String) :=
  match tradeCount with
  | none => .ok [policy.oosTradeCountMetric ++ ": metric is required"]
  | some tradeCount => do
    let count ← intOfFloat tradeCount
    return reasonIf (decide (count < policy.minOosTradeCount))
      ("oos_trade_count: " ++ toString count ++ " below " ++ toString policy.minOosTradeCount)

def profitFactorReasons (metrics : Evidence) : Except String (List String) :=
  match policy.minProfitFactor with
  | none => .ok []
  | some limit => do
    let profitFactor ← metricNumber texts metrics policy.profitFactorMetric
    return requiredReasons profitFactor (policy.profitFactorMetric ++ ": metric is required")
      (fun profitFactor => profitFactor.lt limit) fun profitFactor =>
        "profit_factor: " ++ texts.general profitFactor ++ " below " ++ texts.general limit

def dataQualityReasons (dataQuality : Option EvidenceValue) : Except String (List String) :=
  match dataQuality with
  | none => .ok ["data_quality: artifact missing"]
  | some .null => .ok ["data_quality: artifact missing"]
  | some (.object fields) =>
    if truthy (fields.lookup "accepted") then
      .ok ((windows (fields.lookup "blockers")).map fun blocker =>
        "data_quality: " ++ texts.str ((blocker.lookup "code").getD (.string "blocker")))
    else .ok ["data_quality: artifact rejected"]
  | some _ => .error "data_quality must be a mapping or DataQualityArtifact"

def iterate : EvidenceValue → Except String (List EvidenceValue)
  | .array items => .ok items
  | .string text => .ok (text.toList.map fun char => .string (String.singleton char))
  | .object fields => .ok (fields.map fun field => .string field.1)
  | _ => .error "object is not iterable"

def reproducibilityReasons (reproducibility : Option EvidenceValue) :
    Except String (List String) :=
  match reproducibility with
  | none => .ok ["reproducibility: snapshot missing"]
  | some .null => .ok ["reproducibility: snapshot missing"]
  | some (.object fields) => do
    let blockers ← iterate ((fields.lookup "blockers").getD (.array []))
    let dirty := reasonIf (truthy (fields.lookup "git_dirty")) "git working tree is dirty"
    return (blockers.map texts.str ++ dirty).map fun reason => "reproducibility: " ++ reason
  | some _ => .ok []

def metricsSchemaReasons (metricsSchema : Option ResearchMetricsSchema)
    (metrics : Evidence) : Except String (List String) :=
  match metricsSchema with
  | none => .ok []
  | some schema => do
    let reasons ← schema.validate metrics policy.purpose
    return reasons.map fun reason => "metrics_schema: " ++ reason

def rejectionReasons (metricsSchema : Option ResearchMetricsSchema)
    (candidate metrics : Evidence) : Except String (List String) := do
  let schemaReasons ← metricsSchemaReasons policy metricsSchema metrics
  if schemaReasons ≠ [] then
    return schemaReasons
  let drawdown ← metricNumber texts metrics policy.maxDrawdownMetric
  let tradeCount ← metricNumber texts metrics policy.oosTradeCountMetric
  let tradeCountReasons ← tradeCountReasons policy tradeCount
  let profitFactorReasons ← profitFactorReasons texts policy metrics
  let dataQualityReasons ← dataQualityReasons texts (candidate.lookup "data_quality")
  let reproducibilityReasons ← reproducibilityReasons texts (candidate.lookup "reproducibility")
  return requiredReasons drawdown (policy.maxDrawdownMetric ++ ": metric is required")
      (fun drawdown => policy.maxDrawdown.lt drawdown.abs)
      (fun drawdown => "max_drawdown: " ++ texts.general drawdown.abs ++ " exceeds " ++
        texts.general policy.maxDrawdown) ++
    tradeCountReasons ++ profitFactorReasons ++ dataQualityReasons ++ reproducibilityReasons

end CandidateSelector

/-- The correction of one survivor's score. -/
structure ScoreAdjustment (Score : Type) where
  rawScore : Score
  adjustedScore : Score
  payload : Evidence

structure SelectedCandidate (Score : Type) where
  candidateId : String
  selectedRank : Nat
  compositeScore : Score
  metrics : Evidence
  evidence : Evidence
  candidatePayload : Evidence
  rawScore : Score
  adjustedScore : Score
  multiplicityAdjustment : Option Evidence := none

/-- One selector rejection with durable, operator-readable reasons. -/
structure RejectedCandidate where
  candidateId : String
  reasons : List String
  metrics : Evidence
  evidence : Evidence
  candidatePayload : Evidence

structure SelectorScoring (Score : Type) where
  compositeScore : SelectionPolicy → Evidence → Except String Score
  adjustments : SelectionPolicy → Int → List (SelectedCandidate Score) →
    Except String (List (String × ScoreAdjustment Score))
  ranked : List (SelectedCandidate Score) → List (SelectedCandidate Score)
  ranked_perm : ∀ survivors, (ranked survivors).Perm survivors

/-- Complete selector decision artifact. -/
structure SelectionResult (Score : Type) where
  selectedCandidates : List (SelectedCandidate Score)
  rejectedCandidates : List RejectedCandidate
  policy : SelectionPolicy
  trialCount : Int
  multiplicityScope : String
  falseDiscoveryRate : FloatValue

namespace CandidateSelector

variable {Score : Type} (texts : NumberTexts) (scoring : SelectorScoring Score)
  (policy : SelectionPolicy) (metricsSchema : Option ResearchMetricsSchema)

def multiplicityScopes : List String :=
  ["campaign", "family", "generation"]

def candidateId (candidate : Evidence) : Except String String :=
  match candidate.lookup "candidate_id" with
  | some (.string text) =>
    if PythonText.isBlank text then .error "candidate_id is required"
    else .ok (PythonText.strip text)
  | _ => .error "candidate_id is required"

def metricsOf (candidate : Evidence) : Except String Evidence :=
  match mapping (candidate.lookup "metrics") with
  | some metrics => .ok metrics
  | none => .error "candidate metrics must be a JSON object"

def evidenceOf (candidate : Evidence) : Except String Evidence :=
  match mapping (some ((candidate.lookup "evidence").getD (.object []))) with
  | some evidence => .ok evidence
  | none => .error "candidate evidence must be a JSON object"

def screen (candidate : Evidence) :
    Except String (RejectedCandidate ⊕ SelectedCandidate Score) := do
  let candidateId ← candidateId candidate
  let metrics ← metricsOf candidate
  let evidence ← evidenceOf candidate
  let reasons ← rejectionReasons texts policy metricsSchema candidate metrics
  if reasons ≠ [] then
    return .inl { candidateId, reasons, metrics, evidence, candidatePayload := candidate }
  let score ← scoring.compositeScore policy metrics
  return .inr {
    candidateId
    selectedRank := 1
    compositeScore := score
    metrics, evidence
    candidatePayload := candidate
    rawScore := score
    adjustedScore := score }

def withAdjustment (adjustments : List (String × ScoreAdjustment Score))
    (survivor : SelectedCandidate Score) : SelectedCandidate Score :=
  match (Dict.ofItems adjustments).get? survivor.candidateId with
  | none => survivor
  | some adjustment => { survivor with
      candidatePayload := Dict.setItem "multiplicity_adjustment"
        (.object adjustment.payload) survivor.candidatePayload
      rawScore := adjustment.rawScore
      adjustedScore := adjustment.adjustedScore
      multiplicityAdjustment := some adjustment.payload }

def overBudget (maxSelected : Nat) (rank : Nat) (survivor : SelectedCandidate Score) :
    RejectedCandidate where
  candidateId := survivor.candidateId
  reasons := ["selection_budget: rank " ++ toString rank ++ " exceeds " ++ toString maxSelected]
  metrics := survivor.metrics
  evidence := survivor.evidence
  candidatePayload := survivor.candidatePayload

def split (maxSelected : Nat) (ranked : List (SelectedCandidate Score)) :
    List (SelectedCandidate Score) × List RejectedCandidate :=
  (((ranked.take maxSelected).zipIdx 1).map fun entry =>
      { entry.1 with selectedRank := entry.2 },
    ((ranked.drop maxSelected).zipIdx (maxSelected + 1)).map fun entry =>
      overBudget maxSelected entry.2 entry.1)

def adjustments (trialCount : Int) (survivors : List (SelectedCandidate Score)) :
    Except String (List (String × ScoreAdjustment Score)) :=
  if survivors.isEmpty then .ok [] else scoring.adjustments policy trialCount survivors

def select (trialCount : Int) (multiplicityScope : String) (candidates : List Evidence) :
    Except String (SelectionResult Score) := do
  if trialCount < 1 then
    .error "trial_count must be positive"
  if multiplicityScope ∉ multiplicityScopes then
    .error ("multiplicity_scope must be one of ['campaign', 'family', 'generation']; got " ++
      texts.repr multiplicityScope)
  let screened ← candidates.mapM (screen texts scoring policy metricsSchema)
  let survivors := screened.filterMap Sum.getRight?
  let rejections := screened.filterMap Sum.getLeft?
  let adjustments ← adjustments scoring policy trialCount survivors
  let ranked := scoring.ranked (survivors.map (withAdjustment adjustments))
  let (selected, surplus) := split (policy.maxSelected.getD ranked.length) ranked
  return {
    selectedCandidates := selected
    rejectedCandidates := (rejections ++ surplus).insertionSort fun first second =>
      first.candidateId ≤ second.candidateId
    policy, trialCount, multiplicityScope
    falseDiscoveryRate := policy.falseDiscoveryRate }

end CandidateSelector

end Qts
