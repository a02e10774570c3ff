import Qts.HashChainedLedgers
import Qts.Identifiers
import Qts.RoundedArithmetic

/-! # Trial budgets -/

namespace Qts

open PythonText

/-! ## Trial budgets -/

structure DecimalTexts where
  str : Json → String
  str_string : ∀ text, str (.string text) = text
  decimalText : Decimal → String
  decimalOf : String → Except String Decimal
  decimalOf_decimalText : ∀ value, decimalOf (decimalText value) = .ok value

structure TrialBudgetDecision where
  accepted : Bool
  reason : String
  reasonShown : isBlank reason = false

/-- The configured limits of a manager; a missing one limits nothing. -/
structure TrialBudgetLimits where
  campaignTrialLimit : Option Nat := none
  strategyFamilyTrialLimit : Option Nat := none
  factorFamilyTrialLimit : Option Nat := none
  ideaTrialLimit : Option Nat := none
  computeBudgetLimit : Option Decimal := none
  computeNonNegative : ∀ limit ∈ computeBudgetLimit, 0 ≤ limit

structure TrialRequest (Time : Type) where
  trialId : String
  campaignId : String
  generationId : String
  strategyFamily : String
  factorFamily : String
  ideaId : String
  timeWindow : Option String := none
  computeCost : Option Decimal := none
  createdAt : Time

namespace TrialBudgetManager

def isTrue : Option Json → Bool
  | some (.bool value) => value
  | _ => false

def isText (value : Option Json) (text : String) : Bool :=
  match value with
  | some (.string found) => decide (found = text)
  | _ => false

variable {Time : Type} (texts : TimestampTexts Time) (digest : Json → String)
  (decimals : DecimalTexts) (limits : TrialBudgetLimits)

def acceptedPayloads (lines : List LedgerLine) (campaignId : String) :
    Except String (List JsonObject) := do
  let records ← Ledger.listRecords (TrialBudgetLedger.format texts) lines
  return (records.map (·.payload)).filter fun payload =>
    isTrue (payload.get? "accepted") && isText (payload.get? "campaign_id") campaignId

def countMatching (payloads : List JsonObject) (fieldName expected : String) : Nat :=
  (payloads.filter fun payload => isText (payload.get? fieldName) expected).length

def computeCostOf (payload : JsonObject) : Except String Decimal :=
  match payload.get? "compute_cost" with
  | none => .ok 0
  | some value => decimals.decimalOf (decimals.str value)

def trialLimitDecision (scopeName : String) (acceptedCount : Nat) (limit : Option Nat) :
    Option TrialBudgetDecision :=
  match limit with
  | none => none
  | some limit =>
    if limit ≤ acceptedCount then
      some {
        accepted := false
        reason := scopeName ++ (" trial budget exceeded: " ++ (toString acceptedCount ++ "/" ++
          toString limit ++ " accepted"))
        reasonShown := by
          rw [isBlank_append, isBlank_append_of_left (by decide),
            Bool.and_false] }
    else none

def computeBudgetDecision (payloads : List JsonObject) (payload : JsonObject) :
    Except String (Option TrialBudgetDecision) :=
  match limits.computeBudgetLimit with
  | none => .ok none
  | some limit => do
    let computeCost ← computeCostOf decimals payload
    let costs ← payloads.mapM (computeCostOf decimals)
    let consumed := DecimalRounding.sum costs
    let nextTotal := DecimalRounding.roundDecimal (consumed + computeCost)
    if limit < nextTotal then
      return some {
        accepted := false
        reason := "compute budget exceeded: " ++ (decimals.decimalText consumed ++ "/" ++
          decimals.decimalText limit ++ " accepted, requested " ++
          decimals.decimalText computeCost)
        reasonShown := isBlank_append_of_left (by decide) _ }
    return none

def textOf (payload : JsonObject) (fieldName : String) : Except String String :=
  match payload.get? fieldName with
  | some value => .ok (decimals.str value)
  | none => .error fieldName

def acceptedWithin : TrialBudgetDecision where
  accepted := true
  reason := "accepted within trial budget"
  reasonShown := by decide

def decision (lines : List LedgerLine) (payload : JsonObject) :
    Except String TrialBudgetDecision := do
  let payloads ← acceptedPayloads texts lines (← textOf decimals payload "campaign_id")
  if let some refusal := trialLimitDecision "campaign" payloads.length
      limits.campaignTrialLimit then
    return refusal
  let strategyCount :=
    countMatching payloads "strategy_family" (← textOf decimals payload "strategy_family")
  if let some refusal := trialLimitDecision "strategy family" strategyCount
      limits.strategyFamilyTrialLimit then
    return refusal
  let factorCount :=
    countMatching payloads "factor_family" (← textOf decimals payload "factor_family")
  if let some refusal := trialLimitDecision "factor family" factorCount
      limits.factorFamilyTrialLimit then
    return refusal
  let ideaCount := countMatching payloads "idea_id" (← textOf decimals payload "idea_id")
  if let some refusal := trialLimitDecision "idea" ideaCount limits.ideaTrialLimit then
    return refusal
  if let some refusal ← computeBudgetDecision decimals limits payloads payload then
    return refusal
  return acceptedWithin

def requiredText (value fieldName : String) : Except String String :=
  let resolved := strip value
  if resolved = "" then .error (fieldName ++ " is required") else .ok resolved

def optionalNonNegativeDecimal (value : Option Decimal) (fieldName : String) :
    Except String (Option Decimal) :=
  match value with
  | none => .ok none
  | some value =>
    if value < 0 then .error (fieldName ++ " must be a non-negative finite value")
    else .ok (some value)

/-- What an accepted trial consumes budget of. -/
structure Trial where
  campaignId : String
  factorFamily : String
  generationId : String
  ideaId : String
  strategyFamily : String
  trialId : String
  timeWindow : Option String
  computeCost : Option Decimal

/-- The arguments of a request as the manager takes them. -/
def normalized (req : TrialRequest Time) : Except String Trial := do
  if !texts.aware req.createdAt then
    throw "created_at must be timezone-aware"
  let campaignId ← requiredText req.campaignId "campaign_id"
  let factorFamily ← requiredText req.factorFamily "factor_family"
  let generationId ← requiredText req.generationId "generation_id"
  let ideaId ← requiredText req.ideaId "idea_id"
  let strategyFamily ← requiredText req.strategyFamily "strategy_family"
  let trialId ← requiredText req.trialId "trial_id"
  let timeWindow ← req.timeWindow.mapM fun window => requiredText window "time_window"
  let computeCost ← optionalNonNegativeDecimal req.computeCost "compute_cost"
  return { campaignId, factorFamily, generationId, ideaId, strategyFamily, trialId, timeWindow
           computeCost }

def trialPayload (trial : Trial) : JsonObject :=
  let texts : JsonObject := {
    items := [("campaign_id", .string trial.campaignId),
      ("factor_family", .string trial.factorFamily),
      ("generation_id", .string trial.generationId),
      ("idea_id", .string trial.ideaId),
      ("strategy_family", .string trial.strategyFamily),
      ("trial_id", .string trial.trialId)]
    distinct := by simp }
  let withWindow := match trial.timeWindow with
    | none => texts
    | some window => texts.set "time_window" (.string window)
  match trial.computeCost with
  | none => withWindow
  | some cost => withWindow.set "compute_cost" (.string (decimals.decimalText cost))

def decidedPayload (payload : JsonObject) (decided : TrialBudgetDecision) : JsonObject :=
  (payload.set "accepted" (.bool decided.accepted)).set "decision_reason" (.string decided.reason)

def requestTrial :
    StepRuns.Step (List LedgerLine) (TrialRequest Time) (Except String TrialBudgetDecision) :=
  fun lines req =>
    let outcome := do
      let payload := trialPayload decimals (← normalized texts req)
      let decided ← decision texts decimals limits lines payload
      return (payload, decided)
    match outcome with
    | .error failure => (.error failure, lines)
    | .ok (payload, decided) =>
      let appended := TrialBudgetLedger.appendDecision texts digest lines
        { payload := decidedPayload payload decided, createdAt := req.createdAt }
      (appended.1.map fun _ => decided, appended.2)

end TrialBudgetManager

end Qts
