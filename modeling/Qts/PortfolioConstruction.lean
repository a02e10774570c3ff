import Qts.OrderedDictionary
import Qts.OrderSpecification
import Mathlib.Algebra.Order.BigOperators.Group.List
import Mathlib.Algebra.Order.Field.Basic
import Mathlib.Algebra.BigOperators.Ring.List
import Mathlib.Tactic.FieldSimp
import Mathlib.Tactic.Linarith

/-! # Portfolio construction -/

namespace Qts

open Dict

inductive SignalDirection
  | up
  | down
  | flat
deriving DecidableEq

structure SignalFields where
  asset : AssetRef
  direction : SignalDirection
  generatedAt : DateTime
  /-- In microseconds, as every duration here. -/
  horizon : Int
  sourceModel : String
  confidence : Decimal := 1
  magnitude : Option Decimal := none
  weight : Option Decimal := none
  volatility : Option Decimal := none
  groupId : Option String := none
deriving DecidableEq

def SignalFields.checks (signal : SignalFields) : List Check :=
  [⟨signal.volatility.any (· ≤ 0), "volatility must be positive"⟩,
   ⟨decide (signal.horizon ≤ 0), "horizon must be positive"⟩,
   ⟨PythonText.isBlank signal.sourceModel, "source_model is required"⟩,
   ⟨decide (signal.confidence < 0) || decide (1 < signal.confidence),
    "confidence must be in [0, 1]"⟩]

/-- Forecast emitted by a strategy before portfolio construction. -/
structure Signal extends SignalFields where
  valid : Check.firstFailure toSignalFields.checks = none
deriving DecidableEq

def Signal.create (fields : SignalFields) : Except Failure Signal :=
  match checked : Check.firstFailure fields.checks with
  | none => .ok ⟨fields, checked⟩
  | some msg => .error (.valueError msg)

namespace PortfolioConstruction

def directionSign (signal : Signal) : Decimal :=
  if signal.direction = .up then 1 else -1

def directional (signals : List Signal) : List Signal :=
  signals.filter fun signal => signal.direction ≠ .flat

def capWeight (maxSingleWeight weight : Decimal) : Decimal :=
  if maxSingleWeight < |weight| then
    if 0 < weight then maxSingleWeight else -maxSingleWeight
  else weight

def applyWeightCap (weights : Dict Signal Decimal) (maxSingleWeight : Decimal) :
    Dict Signal Decimal :=
  .ofItems (weights.items.map fun item => (item.1, capWeight maxSingleWeight item.2))

def flatCloseTargets (intentIds : Nat → String) (signals : List Signal) : List TargetIntent :=
  (signals.filter fun signal => signal.direction = .flat).zipIdx.map fun entry =>
    { asset := entry.1.asset, intentType := .close, value := none, intentId := intentIds entry.2 }

def buildTargets (intentIds : Nat → String) (flatTargets : List TargetIntent)
    (finalWeights : Dict Signal Decimal) : List TargetIntent :=
  flatTargets ++ (finalWeights.items.zipIdx flatTargets.length).map fun entry =>
    { asset := entry.1.1.asset, intentType := .percent, value := some entry.1.2,
      intentId := intentIds entry.2 }

structure Configuration where
  targetGrossExposure : Decimal := 1
  maxSingleWeight : Decimal := 1 / 4
  grossPositive : 0 < targetGrossExposure
  maxPositive : 0 < maxSingleWeight

def Configuration.create (targetGrossExposure maxSingleWeight : Decimal) :
    Except Failure Configuration :=
  if gross : 0 < targetGrossExposure then
    if max : 0 < maxSingleWeight then
      .ok { targetGrossExposure, maxSingleWeight, grossPositive := gross, maxPositive := max }
    else .error (.valueError "max_single_weight must be finite and positive")
  else .error (.valueError "target_gross_exposure must be finite and positive")

variable (config : Configuration) (intentIds : Nat → String)

def constructNormalized (rawWeight : Signal → Decimal) (signals : List Signal) :
    List TargetIntent :=
  let chosen := directional signals
  let flatTargets := flatCloseTargets intentIds signals
  if chosen = [] then flatTargets
  else
    let rawWeights := ofItems (chosen.map fun signal => (signal, rawWeight signal))
    let totalRaw := (rawWeights.values.map abs).sum
    if totalRaw = 0 then flatTargets
    else
      let normFactor := config.targetGrossExposure / totalRaw
      let normalized := ofItems
        (rawWeights.items.map fun item => (item.1, item.2 * normFactor))
      buildTargets intentIds flatTargets (applyWeightCap normalized config.maxSingleWeight)

def constructShares (strength : Signal → Decimal) (signals : List Signal) : List TargetIntent :=
  let chosen := directional signals
  let flatTargets := flatCloseTargets intentIds signals
  if chosen = [] then flatTargets
  else
    let strengths := chosen.map strength
    let total := strengths.sum
    if total = 0 then flatTargets
    else
      let rawWeights := ofItems ((chosen.zip strengths).map fun entry =>
        (entry.1, directionSign entry.1 * (entry.2 / total) * config.targetGrossExposure))
      buildTargets intentIds flatTargets (applyWeightCap rawWeights config.maxSingleWeight)

end PortfolioConstruction

open PortfolioConstruction

/-- Map directional signals to confidence-scaled percent targets. -/
structure ConfidenceWeightedSignalPortfolioConstruction extends Configuration

def ConfidenceWeightedSignalPortfolioConstruction.construct
    (model : ConfidenceWeightedSignalPortfolioConstruction) (intentIds : Nat → String) :
    List Signal → List TargetIntent :=
  constructNormalized model.toConfiguration intentIds fun signal =>
    directionSign signal * signal.confidence

/-- Map directional signals to magnitude-scaled percent targets. -/
structure MagnitudeWeightedSignalPortfolioConstruction extends Configuration

def Signal.magnitudeOrOne (signal : Signal) : Decimal :=
  signal.magnitude.getD 1

def MagnitudeWeightedSignalPortfolioConstruction.construct
    (model : MagnitudeWeightedSignalPortfolioConstruction) (intentIds : Nat → String) :
    List Signal → List TargetIntent :=
  constructShares model.toConfiguration intentIds Signal.magnitudeOrOne

/-- Map directional signals to risk-parity-scaled percent targets. -/
structure RiskParitySignalPortfolioConstruction extends Configuration

/-- The inverse of the confidence, which `epsilon` keeps off zero. -/
def RiskParitySignalPortfolioConstruction.invConfidence (signal : Signal) : Decimal :=
  let epsilon : Decimal := 1 / 100
  1 / max signal.confidence epsilon

def RiskParitySignalPortfolioConstruction.construct
    (model : RiskParitySignalPortfolioConstruction) (intentIds : Nat → String) :
    List Signal → List TargetIntent :=
  constructShares model.toConfiguration intentIds
    RiskParitySignalPortfolioConstruction.invConfidence

/-- Scale magnitude-weighted targets by each signal's forecast horizon. -/
structure HorizonAwareSignalPortfolioConstruction extends Configuration where
  referenceHorizon : Int := 86400000000
  horizonPositive : 0 < referenceHorizon

def HorizonAwareSignalPortfolioConstruction.create
    (referenceHorizon : Int) (targetGrossExposure maxSingleWeight : Decimal) :
    Except Failure HorizonAwareSignalPortfolioConstruction :=
  if pos : 0 < referenceHorizon then do
    let config ← Configuration.create targetGrossExposure maxSingleWeight
    .ok { config with referenceHorizon, horizonPositive := pos }
  else .error (.valueError "reference_horizon must be positive")

def totalSeconds (duration : Int) : Decimal :=
  duration / 1000000

/-- The linear horizon down-weight. -/
def HorizonAwareSignalPortfolioConstruction.horizonFactor
    (model : HorizonAwareSignalPortfolioConstruction) (signal : Signal) : Decimal :=
  let ratio := totalSeconds signal.horizon / totalSeconds model.referenceHorizon
  min 1 ratio

def HorizonAwareSignalPortfolioConstruction.construct
    (model : HorizonAwareSignalPortfolioConstruction) (intentIds : Nat → String) :
    List Signal → List TargetIntent :=
  constructNormalized model.toConfiguration intentIds fun signal =>
    directionSign signal * |signal.magnitudeOrOne| * model.horizonFactor signal

end Qts
