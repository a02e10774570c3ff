import Qts.OrderedDictionary
import Qts.ValidationGates

/-! # The validation gauntlet -/

namespace Qts

open EvidenceValue

inductive ArtifactFile
  | absent
  | unreadable (msg : String)
  | json (value : EvidenceValue)

structure ValidationGauntletResult where
  candidateId : String
  accepted : Bool
  gateDecisions : List GateDecision
  deterministicReplayStatus : String
  noLookaheadStatus : String
  reasons : List String
  auditRecordId : Option String := none

/-- Runs all validation gates required before promotion packet generation. -/
structure ValidationGauntlet where
  walkForwardGate : WalkForwardGate := {}
  failureWindowGate : FailureWindowVetoGate :=
    { maxDrawdown := .finite (1 / 4), nonneg := FloatValue.quarter_nonNegative }
  costStressGate : CostStressGate :=
    { maxDegradation := .finite (3 / 10), maxSlippageSensitivity := .finite (1 / 5) }
  correlationGate : CorrelationGate := { maxActiveCorrelation := .finite (4 / 5) }
  capacityGate : CapacityGate := {}
  noLookaheadGate : NoLookaheadGate := {}
  deflatedSharpeGate : Option DeflatedSharpeGate := none
  pboGate : Option PBOGate := none
  requireArtifacts : Bool := false

namespace ValidationGauntlet

variable (texts : NumberTexts)

def requiredValidationArtifacts : List (String × String) :=
  [("capacity_report", "capacity"), ("correlation_report", "correlation"),
    ("cost_stress", "cost_stress"), ("deterministic_replay", "deterministic_replay"),
    ("failure_window_veto", "failure_windows"), ("no_lookahead", "no_lookahead"),
    ("walk_forward_validation", "walk_forward")]

def visibleText (value : Option EvidenceValue) : Option String :=
  match value with
  | some (.string text) => if PythonText.isBlank text then none else some text
  | _ => none

def merge (fields more : Evidence) : Evidence :=
  more.foldl (fun merged item => Dict.setItem item.1 item.2 merged) fields

structure ArtifactStore where
  read : String → ArtifactFile
  payloadHash : Evidence → String

variable (store : ArtifactStore)

def loadValidationArtifact (artifactName : String) (ref : Option EvidenceValue) :
    Option Evidence × List String :=
  match mapping ref with
  | none => (none, [artifactName ++ ": artifact ref missing"])
  | some ref =>
    match visibleText (ref.lookup "path") with
    | none => (none, [artifactName ++ ": artifact path missing"])
    | some path =>
      match visibleText (ref.lookup "payload_hash") with
      | none => (none, [artifactName ++ ": payload_hash missing for " ++ path])
      | some expectedHash =>
        match store.read path with
        | .absent => (none, [artifactName ++ ": artifact path does not exist: " ++ path])
        | .unreadable msg =>
          (none, [artifactName ++ ": artifact unreadable: " ++ path ++ ": " ++ msg])
        | .json wrapper =>
          match mapping (some wrapper) with
          | none => (none, [artifactName ++ ": artifact must be a JSON object: " ++ path])
          | some wrapper =>
            let source := reasonIf
              (!textIs (wrapper.lookup "evidence_source") "backtest_pipeline_artifact")
              (artifactName ++
                ": artifact evidence_source is not backtest_pipeline_artifact")
            match mapping (wrapper.lookup "payload") with
            | none =>
              (none, source ++ [artifactName ++ ": payload must be a JSON object: " ++ path])
            | some payload =>
              let actualHash := store.payloadHash payload
              let recorded := reasonIf (!textIs (wrapper.lookup "payload_hash") actualHash)
                (artifactName ++ ": artifact payload_hash mismatch at " ++ path ++ ": " ++
                  actualHash ++ " != " ++
                  texts.str ((wrapper.lookup "payload_hash").getD .null))
              let expected := reasonIf (decide (expectedHash ≠ actualHash))
                (artifactName ++ ": artifact ref payload_hash mismatch at " ++ path ++ ": " ++
                  actualHash ++ " != " ++ expectedHash)
              (some (merge payload [("artifact_path", .string path),
                ("payload_hash", .string actualHash)]), source ++ recorded ++ expected)

def artifactSection (artifactRefs : Evidence) (artifact : String × String) :
    Evidence × List String :=
  let (payload, reasons) :=
    loadValidationArtifact texts store artifact.1 (artifactRefs.lookup artifact.1)
  match payload with
  | none => ([], reasons)
  | some payload =>
    if artifact.2 = "failure_windows" then
      match sequence (payload.lookup "failure_windows") with
      | some _ => ([(artifact.2, .array ((windows (payload.lookup "failure_windows")).map
          fun window => .object (merge window (artifactMetadata payload))))], reasons)
      | none => ([], reasons ++
          [artifact.1 ++ ": payload.failure_windows must be a sequence"])
    else ([(artifact.2, .object payload)], reasons)

def candidateWithArtifactPayloads (candidate : Evidence) :
    Evidence × List String :=
  match mapping (candidate.lookup "validation") with
  | none => (candidate, ["validation artifacts: validation section missing"])
  | some validation =>
    match mapping (validation.lookup "artifacts") with
    | none => (candidate, ["validation artifacts: artifact refs missing"])
    | some artifactRefs =>
      let loaded := requiredValidationArtifacts.map (artifactSection texts store artifactRefs)
      (merge candidate
        [("validation", .object (merge validation (loaded.flatMap Prod.fst)))],
        loaded.flatMap Prod.snd)

def status (candidate : Evidence) (fieldName failedReason missingReason : String) :
    String × List String :=
  match mapping (candidate.lookup "validation") with
  | none => ("missing", [missingReason])
  | some validation =>
    match mapping (validation.lookup fieldName) with
    | none => ("missing", [missingReason])
    | some evidence =>
      if isTrue (evidence.lookup "passed") then ("passed", []) else ("failed", [failedReason])

def candidateId (candidate : Evidence) : Except String String :=
  match visibleText (candidate.lookup "candidate_id") with
  | some candidateId => .ok (PythonText.strip candidateId)
  | none => .error "candidate_id is required"

variable (gauntlet : ValidationGauntlet)

def normalized (candidate : Evidence) : Evidence × List String :=
  if gauntlet.requireArtifacts then candidateWithArtifactPayloads texts store candidate
  else (candidate, [])

def optionally {Gate : Type} (gate : Option Gate)
    (evaluate : Gate → Except String GateDecision) : Except String (List GateDecision) :=
  match gate with
  | none => .ok []
  | some gate => do
    let decision ← evaluate gate
    return [decision]

def audited (auditLog : Option (ValidationGauntletResult → String))
    (result : ValidationGauntletResult) : ValidationGauntletResult :=
  match auditLog with
  | none => result
  | some append => { result with auditRecordId := some (append result) }

def validate (auditLog : Option (ValidationGauntletResult → String))
    (candidate : Evidence) : Except String ValidationGauntletResult := do
  let (candidate, artifactReasons) := gauntlet.normalized texts store candidate
  let candidateId ← candidateId candidate
  let walkForward ← gauntlet.walkForwardGate.evaluate texts candidate
  let failureWindow ← gauntlet.failureWindowGate.evaluate texts candidate
  let costStress ← gauntlet.costStressGate.evaluate texts candidate
  let correlation ← gauntlet.correlationGate.evaluate texts candidate
  let capacity ← gauntlet.capacityGate.evaluate texts candidate
  let deflated ← optionally gauntlet.deflatedSharpeGate (·.evaluate texts candidate)
  let pbo ← optionally gauntlet.pboGate (·.evaluate texts candidate)
  let noLookahead ← gauntlet.noLookaheadGate.evaluate texts candidate
  let gateDecisions :=
    [walkForward, failureWindow, costStress, correlation, capacity] ++ deflated ++ pbo ++
      [noLookahead]
  let (deterministicStatus, statusReasons) := status candidate "deterministic_replay"
    "deterministic_replay: replay evidence failed" "deterministic_replay: evidence missing"
  let (noLookaheadStatus, statusReasons) :=
    if noLookahead.accepted then ("passed", statusReasons)
    else if noLookahead.reasons ≠ [] then
      ("failed", noLookahead.reasons.foldl (fun reasons reason =>
        if reason ∈ reasons then reasons else reasons ++ [reason]) statusReasons)
    else ("missing", statusReasons ++ ["no_lookahead: evidence missing"])
  let reasons := artifactReasons ++ gateDecisions.flatMap (·.reasons) ++ statusReasons
  let result : ValidationGauntletResult := {
    candidateId
    accepted := reasons.isEmpty
    gateDecisions
    deterministicReplayStatus := deterministicStatus
    noLookaheadStatus, reasons }
  return audited auditLog result

end ValidationGauntlet

end Qts
