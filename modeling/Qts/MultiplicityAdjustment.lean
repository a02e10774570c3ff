import Mathlib.Algebra.BigOperators.Group.List.Basic
import Mathlib.Algebra.Order.Field.Rat
import Mathlib.Data.List.MinMax
import Mathlib.Data.List.Sort
import Qts.RoundedArithmetic

/-! # Multiple-testing correction -/

namespace Qts

/-- The functions that the statistics take from the standard library. -/
structure ProbabilityFunctions where
  sqrt : ℚ → ℚ
  log : ℚ → ℚ
  invCdf : ℚ → ℚ
  cdf : ℚ → ℚ
  euler : ℚ

/-- Euler-Mascheroni constant used in the expected-maximum-Sharpe approximation. -/
def eulerMascheroni : ℚ :=
  5772156649015329 / 10000000000000000

variable (functions : ProbabilityFunctions)

def expectedMaximumSharpe (trialCount : Int) (trialSharpeStd : ℚ) : ℚ :=
  if trialCount ≤ 1 ∨ trialSharpeStd ≤ 0 then 0
  else
    let first := functions.invCdf (1 - 1 / trialCount)
    let second := functions.invCdf (1 - 1 / (trialCount * functions.euler))
    trialSharpeStd * ((1 - eulerMascheroni) * first + eulerMascheroni * second)

/-- Per-candidate statistical inputs the adjustment layer consumes. -/
structure CandidateStatistics where
  candidateId : String
  rawScore : ℚ
  observedSharpe : ℚ
  sampleSize : Int
  skewness : ℚ
  kurtosis : ℚ
  oosReturns : List ℚ

def probabilisticSharpeRatio (candidate : CandidateStatistics) (benchmarkSharpe : ℚ) : ℚ :=
  if candidate.sampleSize < 2 then 0
  else
    let varianceTerm := 1 - candidate.skewness * candidate.observedSharpe +
      (candidate.kurtosis - 1) / 4 * candidate.observedSharpe * candidate.observedSharpe
    if varianceTerm ≤ 0 then 0
    else
      let sigmaSharpe := functions.sqrt (varianceTerm / (candidate.sampleSize - 1))
      if sigmaSharpe = 0 then 0
      else functions.cdf ((candidate.observedSharpe - benchmarkSharpe) / sigmaSharpe)

def deflatedSharpeRatio (candidate : CandidateStatistics) (trialCount : Int)
    (trialSharpeStd : ℚ) : ℚ :=
  probabilisticSharpeRatio functions candidate
    (expectedMaximumSharpe functions trialCount trialSharpeStd)

def combinations {Item : Type} : Nat → List Item → List (List Item)
  | 0, _ => [[]]
  | _ + 1, [] => []
  | size + 1, item :: rest =>
      (combinations size rest).map (item :: ·) ++ combinations (size + 1) rest

def blockSizes (total blockCount : Nat) : List Nat :=
  (List.range blockCount).map fun index =>
    total / blockCount + if index < total % blockCount then 1 else 0

def cutBlocks {Row : Type} : List Nat → List Row → List (List Row)
  | [], _ => []
  | size :: sizes, rows => rows.take size :: cutBlocks sizes (rows.drop size)

def evenBlocks {Row : Type} (rows : List Row) (blockCount : Nat) :
    Except String (List (List Row)) :=
  if rows.length < blockCount then .error "performance_matrix needs at least block_count rows"
  else .ok (cutBlocks (blockSizes rows.length blockCount) rows)

def selectedRows {Row : Type} (blocks : List (List Row)) (selected : List Nat) : List Row :=
  selected.flatMap fun blockIndex => blocks.getD blockIndex []

def blockMeans (blocks : List (List (List ℚ))) (selected : List Nat) (configCount : Nat) :
    List ℚ :=
  let rows := selectedRows blocks selected
  (List.range configCount).map fun config =>
    let total := (rows.map fun row => row.getD config 0).sum
    if rows.length = 0 then total else total / (rows.length : ℚ)

def bestConfig (values : List ℚ) : Nat :=
  ((List.range values.length).argmax fun config => values.getD config 0).getD 0

def relativeRank (outSample : List ℚ) (config : Nat) : ℚ :=
  let order := (List.range outSample.length).insertionSort fun first second =>
    outSample.getD first 0 ≤ outSample.getD second 0
  ((order.idxOf config : ℚ) + 1) / ((outSample.length : ℚ) + 1)

def logit (value : ℚ) : ℚ :=
  functions.log (value / (1 - value))

def splitLogit (blocks : List (List (List ℚ))) (configCount : Nat) (train : List Nat) : ℚ :=
  let test := (List.range blocks.length).filter fun index => index ∉ train
  let inSample := blockMeans blocks train configCount
  let outSample := blockMeans blocks test configCount
  logit functions (relativeRank outSample (bestConfig inSample))

def probabilityOfBacktestOverfitting (performanceMatrix : List (List ℚ)) (blockCount : Nat) :
    Except String ℚ :=
  match performanceMatrix with
  | [] => .ok 0
  | first :: _ => do
    let configCount := first.length
    if configCount < 2 then
      return 0
    if performanceMatrix.any fun row => row.length ≠ configCount then
      .error "performance_matrix rows must all have the same width"
    if blockCount < 2 ∨ blockCount % 2 ≠ 0 then
      .error "block_count must be an even integer >= 2"
    let blocks ← evenBlocks performanceMatrix blockCount
    let logits := (combinations (blocks.length / 2) (List.range blocks.length)).map
      (splitLogit functions blocks configCount)
    if logits.length = 0 then
      return 0
    return (logits.countP fun value => decide (value ≤ 0) : ℚ) / (logits.length : ℚ)

/-- The line of the procedure at a rank; its quotient and its product are both rounded. -/
def stepUpLine (total : Nat) (falseDiscoveryRate : ℚ) (rank : Nat) : ℚ :=
  Rounding.roundBinary64 (Rounding.roundBinary64 (rank / total) * falseDiscoveryRate)

/-- The indices that the step-up procedure accepts. -/
def benjaminiHochbergDiscoveries (pValues : List ℚ) (falseDiscoveryRate : ℚ) : List Nat :=
  let total := pValues.length
  let ordered := (List.range total).insertionSort fun first second =>
    pValues.getD first 0 ≤ pValues.getD second 0
  let thresholdRank := (ordered.zipIdx 1).foldl (fun threshold entry =>
    if pValues.getD entry.1 0 ≤ stepUpLine total falseDiscoveryRate entry.2 then entry.2
    else threshold) 0
  (ordered.take thresholdRank).insertionSort (· ≤ ·)

structure MultiplicityAdjustmentResult where
  candidateId : String
  rawScore : ℚ
  adjustedScore : ℚ
  observedSharpe : ℚ
  deflatedSharpeRatio : ℚ
  probabilisticSharpeRatio : ℚ
  expectedMaximumSharpe : ℚ
  probabilityOfBacktestOverfitting : ℚ
  trialCount : Int
  trialSharpeStd : ℚ
  sampleSize : Int
  skewness : ℚ
  kurtosis : ℚ
  fdrSignificant : Bool

/-- Owns the family-level multiple-testing correction for a candidate set. -/
structure ResearchMultiplicityAdjustment where
  trialCount : Int
  falseDiscoveryRate : ℚ := 1 / 10
  pboBlockCount : Nat := 8
  sharpePenaltyWeight : ℚ := 1
  objectiveSharpeKey : String := "oos_sharpe"
  compositeWeights : List (String × ℚ) := []

namespace ResearchMultiplicityAdjustment

variable (adjustment : ResearchMultiplicityAdjustment)

def objectiveSharpeWeight : ℚ :=
  (adjustment.compositeWeights.lookup adjustment.objectiveSharpeKey).getD 1

def trialSharpeStd (candidates : List CandidateStatistics) : ℚ :=
  let sharpes := candidates.map (·.observedSharpe)
  if sharpes.length < 2 then 0
  else
    let mean : ℚ := sharpes.sum / (sharpes.length : ℚ)
    let variance : ℚ :=
      (sharpes.map fun value => (value - mean) ^ 2).sum / ((sharpes.length : ℚ) - 1)
    if 0 < variance then functions.sqrt variance else 0

/-- The family's estimate, which every candidate gets. -/
def pboOf (candidates : List CandidateStatistics) : Except String ℚ :=
  let withReturns := candidates.filter fun candidate => !candidate.oosReturns.isEmpty
  if withReturns.length < 2 then .ok 0
  else
    let rowCount := (withReturns.map (·.oosReturns.length)).foldl min
      ((withReturns.map (·.oosReturns.length)).headD 0)
    if rowCount < adjustment.pboBlockCount then .ok 0
    else
      let matrix := (List.range rowCount).map fun row =>
        withReturns.map fun candidate => candidate.oosReturns.getD row 0
      probabilityOfBacktestOverfitting functions matrix adjustment.pboBlockCount

/-- The one-sided p-value that the true Sharpe is not positive. -/
def selectionPValue (candidate : CandidateStatistics) : ℚ :=
  if candidate.sampleSize < 1 then 1
  else 1 - functions.cdf (candidate.observedSharpe * functions.sqrt candidate.sampleSize)

def resultOf (std pbo : ℚ) (candidate : CandidateStatistics) (significant : Bool) :
    MultiplicityAdjustmentResult :=
  let expectedMax := expectedMaximumSharpe functions adjustment.trialCount std
  let haircut := adjustment.sharpePenaltyWeight * adjustment.objectiveSharpeWeight * expectedMax
  { candidateId := candidate.candidateId
    rawScore := candidate.rawScore
    adjustedScore := candidate.rawScore - haircut
    observedSharpe := candidate.observedSharpe
    deflatedSharpeRatio :=
      Qts.deflatedSharpeRatio functions candidate adjustment.trialCount std
    probabilisticSharpeRatio := Qts.probabilisticSharpeRatio functions candidate 0
    expectedMaximumSharpe := expectedMax
    probabilityOfBacktestOverfitting := pbo
    trialCount := adjustment.trialCount
    trialSharpeStd := std
    sampleSize := candidate.sampleSize
    skewness := candidate.skewness
    kurtosis := candidate.kurtosis
    fdrSignificant := significant }

def adjust (candidates : List CandidateStatistics) :
    Except String (List MultiplicityAdjustmentResult) := do
  if candidates.isEmpty then
    return []
  let std := trialSharpeStd functions candidates
  let pbo ← adjustment.pboOf functions candidates
  let pValues := candidates.map (selectionPValue functions)
  let significant := benjaminiHochbergDiscoveries pValues adjustment.falseDiscoveryRate
  return (candidates.zipIdx).map fun entry =>
    adjustment.resultOf functions std pbo entry.1 (decide (entry.2 ∈ significant))

end ResearchMultiplicityAdjustment

end Qts
