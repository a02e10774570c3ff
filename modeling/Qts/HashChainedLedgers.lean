import Qts.HashChains
import Qts.JsonValues
import Qts.PythonText
import Qts.StepRuns

/-!
# Hash-chained ledgers

Every row carries the hash of its payload and of the row before it.  The two ledgers differ in the
rows they accept and in what they say of others.
-/

namespace Qts

structure TimestampTexts (Time : Type) where
  aware : Time → Bool
  isoformat : Time → String
  fromisoformat : String → Except String Time
  isoformat_shown : ∀ time, isoformat time ≠ ""
  fromisoformat_isoformat : ∀ time, fromisoformat (isoformat time) = .ok time

def stableJsonHash (digest : Json → String) (payload : Json) : String :=
  "sha256:" ++ digest payload.sorted

/-- One durable row of a ledger. -/
structure ChainedRecord (Time : Type) where
  recordId : String
  recordType : String
  payloadHash : String
  previousRecordHash : Option String
  createdAt : Time
  payload : JsonObject

namespace ChainedRecord

variable {Time : Type} (texts : TimestampTexts Time) (digest : Json → String)

def optionalHash : Option String → Json
  | none => .null
  | some hash => .string hash

def expectedPayloadHash (payload : JsonObject) : String :=
  stableJsonHash digest (.object payload.reread.items)

def hashedContent (record : ChainedRecord Time) : JsonObject where
  items := [("created_at", .string (texts.isoformat record.createdAt)),
    ("payload", .object record.payload.reread.items),
    ("payload_hash", .string record.payloadHash),
    ("previous_record_hash", optionalHash record.previousRecordHash),
    ("record_type", .string record.recordType)]
  distinct := by simp

def recordHash (record : ChainedRecord Time) : String :=
  stableJsonHash digest (.object (hashedContent texts record).items)

def toPayload (record : ChainedRecord Time) : JsonObject where
  items := [("created_at", .string (texts.isoformat record.createdAt)),
    ("payload", .object record.payload.items),
    ("payload_hash", .string record.payloadHash),
    ("previous_record_hash", optionalHash record.previousRecordHash),
    ("record_id", .string record.recordId),
    ("record_type", .string record.recordType)]
  distinct := by simp

def sealed (recordType : String) (payload : JsonObject) (previousRecordHash : Option String)
    (createdAt : Time) : ChainedRecord Time :=
  let unnamed : ChainedRecord Time := {
    recordId := ""
    recordType
    payloadHash := expectedPayloadHash digest payload
    previousRecordHash, createdAt
    payload := payload.reread }
  { unnamed with recordId := recordHash texts digest unnamed }

def requiredText (payload : JsonObject) (fieldName : String) : Except String String :=
  match payload.get? fieldName with
  | some (.string value) =>
    if value = "" then .error (fieldName ++ " is required") else .ok value
  | _ => .error (fieldName ++ " is required")

def optionalText (payload : JsonObject) (fieldName : String) : Except String (Option String) :=
  match payload.get? fieldName with
  | none => .ok none
  | some .null => .ok none
  | some (.string value) =>
    if value = "" then .error (fieldName ++ " must be a non-empty string or null")
    else .ok (some value)
  | some _ => .error (fieldName ++ " must be a non-empty string or null")

def requiredMapping (payload : JsonObject) (fieldName : String) : Except String JsonObject :=
  match payload.get? fieldName with
  | some (.object items) => .ok (.ofItems items)
  | _ => .error (fieldName ++ " must be a JSON object")

end ChainedRecord

namespace ResearchAuditRecord

open ChainedRecord

variable {Time : Type} (texts : TimestampTexts Time) (digest : Json → String)

def supportedRecordTypes : List String :=
  ["manifest_loaded", "research_run_completed", "evidence_bundle_created", "evidence_validated",
    "metrics_validated", "data_quality_validated", "reproducibility_validated",
    "promotion_packet_validated", "artifact_graph_verified", "human_review_decided",
    "artifact_graph_written", "report_projected", "campaign_loaded", "campaign_run_completed",
    "campaign_resumed", "campaign_stopped", "trial_budget_decision",
    "experiment_trial_completed", "experiment_trial_failed", "experiment_retry_scheduled",
    "selection_completed", "validation_gauntlet_completed", "fitness_landscape_updated",
    "next_generation_proposed", "generation_approval_decided"]

def validateRecordType (recordType : String) : Except String Unit :=
  if recordType ∈ supportedRecordTypes then .ok ()
  else .error ("unknown audit record_type: " ++ recordType)

def requireAware (createdAt : Time) : Except String Unit :=
  if texts.aware createdAt then .ok () else .error "created_at must be timezone-aware"

def create (recordType : String) (payload : JsonObject) (previousRecordHash : Option String)
    (createdAt : Time) (recordId : Option String) : Except String (ChainedRecord Time) := do
  validateRecordType recordType
  requireAware texts createdAt
  let record := sealed texts digest recordType payload previousRecordHash createdAt
  if recordId.any fun given => decide (given ≠ record.recordId) then
    throw "record_id must match record_hash"
  return record

def fromPayload (payload : JsonObject) : Except String (ChainedRecord Time) := do
  let createdAt ← texts.fromisoformat (← requiredText payload "created_at")
  let recordId ← requiredText payload "record_id"
  let recordType ← requiredText payload "record_type"
  let payloadHash ← requiredText payload "payload_hash"
  let previousRecordHash ← optionalText payload "previous_record_hash"
  let recordPayload ← requiredMapping payload "payload"
  validateRecordType recordType
  requireAware texts createdAt
  return { recordId, recordType, payloadHash, previousRecordHash, createdAt
           payload := recordPayload.reread }

end ResearchAuditRecord

namespace TrialBudgetRecord

open ChainedRecord

variable {Time : Type} (texts : TimestampTexts Time) (digest : Json → String)

def create (payload : JsonObject) (previousRecordHash : Option String) (createdAt : Time) :
    Except String (ChainedRecord Time) := do
  if !texts.aware createdAt then
    throw "created_at must be timezone-aware"
  return sealed texts digest "trial_budget_decision" payload previousRecordHash createdAt

def fromPayload (payload : JsonObject) : Except String (ChainedRecord Time) := do
  let recordType ← requiredText payload "record_type"
  if recordType ≠ "trial_budget_decision" then
    throw ("unknown trial budget record_type: " ++ recordType)
  let createdAt ← texts.fromisoformat (← requiredText payload "created_at")
  if !texts.aware createdAt then
    throw "created_at must be timezone-aware"
  let recordId ← requiredText payload "record_id"
  let payloadHash ← requiredText payload "payload_hash"
  let previousRecordHash ← optionalText payload "previous_record_hash"
  let recordPayload ← requiredMapping payload "payload"
  return { recordId, recordType := "trial_budget_decision", payloadHash, previousRecordHash
           createdAt, payload := recordPayload }

end TrialBudgetRecord

/-- A line of a ledger file; a value that is no object names its Python type. -/
inductive LedgerLine
  | blank
  | invalid (failure : String)
  | notObject (typeName : String)
  | object (payload : JsonObject)

/-- How a ledger reads its rows. -/
structure LedgerFormat (Time : Type) where
  fromPayload : JsonObject → Except String (ChainedRecord Time)
  notObject : String → String
  invalidRecord : String

def ResearchAuditLog.format {Time : Type} (texts : TimestampTexts Time) : LedgerFormat Time where
  fromPayload := ResearchAuditRecord.fromPayload texts
  notObject typeName := "'" ++ typeName ++ "' object has no attribute 'get'"
  invalidRecord := "invalid audit record at line "

def TrialBudgetLedger.format {Time : Type} (texts : TimestampTexts Time) : LedgerFormat Time where
  fromPayload := TrialBudgetRecord.fromPayload texts
  notObject _ := "trial budget ledger row must be a JSON object"
  invalidRecord := "invalid trial budget record at line "

namespace Ledger

variable {Time : Type} (texts : TimestampTexts Time) (digest : Json → String)
  (format : LedgerFormat Time)

def readLine : LedgerLine → Except String (Option (ChainedRecord Time))
  | .blank => .ok none
  | .invalid failure => .error failure
  | .notObject typeName => .error (format.notObject typeName)
  | .object payload => return some (← format.fromPayload payload)

def listRecords : List LedgerLine → Except String (List (ChainedRecord Time))
  | [] => .ok []
  | line :: rest => do
    let record ← readLine format line
    let later ← listRecords rest
    return record.toList ++ later

def parseRecord (lineNumber : Nat) : LedgerLine → Except String (ChainedRecord Time)
  | .object payload =>
    (format.fromPayload payload).mapError fun failure =>
      format.invalidRecord ++ toString lineNumber ++ ": " ++ failure
  | .notObject _ =>
    .error ("invalid JSON record at line " ++ toString lineNumber ++ ": expected object")
  | .invalid failure => .error (format.invalidRecord ++ toString lineNumber ++ ": " ++ failure)
  | .blank => .error ""

def mismatch (name : String) (lineNumber : Nat) (expected found : String) : String :=
  name ++ " mismatch at line " ++ toString lineNumber ++ ": expected " ++ expected ++
    ", found " ++ found

def hashText (hash : Option String) : String :=
  hash.getD "None"

def recordReasons (lineNumber : Nat) (prev : Option String) (record : ChainedRecord Time) :
    List String :=
  let expected := ChainedRecord.expectedPayloadHash digest record.payload
  let hash := record.recordHash texts digest
  (if record.payloadHash ≠ expected then
    [mismatch "payload_hash" lineNumber expected record.payloadHash] else []) ++
  (if record.previousRecordHash ≠ prev then
    [mismatch "previous_record_hash" lineNumber (hashText prev)
      (hashText record.previousRecordHash)] else []) ++
  if record.recordId ≠ hash then [mismatch "record_hash" lineNumber hash record.recordId] else []

def verifyFrom : Nat → Option String → List LedgerLine → List String
  | _, _, [] => []
  | lineNumber, prev, .blank :: rest => verifyFrom (lineNumber + 1) prev rest
  | lineNumber, prev, line :: rest =>
    match parseRecord format lineNumber line with
    | .error reason => reason :: verifyFrom (lineNumber + 1) none rest
    | .ok record =>
      recordReasons texts digest lineNumber prev record ++
        verifyFrom (lineNumber + 1) (some (record.recordHash texts digest)) rest

def verifyHashChain (lines : List LedgerLine) : List String :=
  verifyFrom texts digest format 1 none lines

/-- A file is its list of lines, each ended by a newline, so that a row written behind them is a
line of its own. -/
def append (create : Option String → Except String (ChainedRecord Time))
    (lines : List LedgerLine) : Except String (ChainedRecord Time) × List LedgerLine :=
  let appended := do
    let records ← listRecords format lines
    create (HashChain.lastHash (ChainedRecord.recordHash texts digest) none records)
  match appended with
  | .error failure => (.error failure, lines)
  | .ok record => (.ok record, lines ++ [.object (record.toPayload texts).reread])

end Ledger

structure AuditAppend (Time : Type) where
  recordType : String
  payload : JsonObject
  createdAt : Time
  recordId : Option String := none

def ResearchAuditLog.append {Time : Type} (texts : TimestampTexts Time) (digest : Json → String) :
    StepRuns.Step (List LedgerLine) (AuditAppend Time) (Except String (ChainedRecord Time)) :=
  fun lines command =>
    Ledger.append texts digest (format texts)
      (fun prev => ResearchAuditRecord.create texts digest command.recordType command.payload
        prev command.createdAt command.recordId) lines

/-- What is appended to the trial-budget ledger. -/
structure DecisionAppend (Time : Type) where
  payload : JsonObject
  createdAt : Time

def TrialBudgetLedger.appendDecision {Time : Type} (texts : TimestampTexts Time)
    (digest : Json → String) :
    StepRuns.Step (List LedgerLine) (DecisionAppend Time) (Except String (ChainedRecord Time)) :=
  fun lines command =>
    Ledger.append texts digest (format texts)
      (fun prev => TrialBudgetRecord.create texts digest command.payload prev
        command.createdAt) lines

end Qts
