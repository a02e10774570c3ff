import Qts.BrokerOrderMap

/-! # Snapshots of the broker-order map -/

namespace Qts

open PythonText BrokerOrderRecord

/-- The ISO text of timestamps, from which `fromisoformat` reads the same timestamp back. -/
structure IsoFormat where
  isoformat : DateTime → String
  fromisoformat : String → Option DateTime
  fromisoformat_isoformat : ∀ time, fromisoformat (isoformat time) = some time

inductive PayloadValue
  | none
  | text (value : String)
  | orderId (value : OrderId)
  | accountId (value : AccountId)
  | strategyId (value : StrategyId)
  | datetime (value : DateTime)
  | other

abbrev RecordPayload := Dict String PayloadValue

inductive SnapshotItem
  | record (record : BrokerOrderRecord)
  | mapping (payload : RecordPayload)
  | other

inductive RestoreError
  | raised (failure : CallbackError)
  | typeError (msg : String)

namespace RestoreError

def valueError (msg : String) : RestoreError :=
  .raised (.valueError msg)

end RestoreError

namespace BrokerOrderMap

def requiredStr (item : RecordPayload) (field : String) : Except RestoreError String :=
  match item.get? field with
  | none => .error (.valueError (field ++ " is required"))
  | some (.text value) =>
    if isBlank value then .error (.valueError (field ++ " must not be empty"))
    else .ok value
  | some _ => .error (.typeError (field ++ " must be a string"))

/-- A typed identifier refuses a blank text. -/
def stringId (className value : String) : Except RestoreError StringId :=
  match blank : isBlank value with
  | false => .ok ⟨value, blank⟩
  | true => .error (.valueError (className ++ " must not be empty"))

def requiredOrderId (item : RecordPayload) (field : String) : Except RestoreError OrderId :=
  match item.get? field with
  | some (.orderId value) => .ok value
  | _ => return ⟨← stringId "OrderId" (← requiredStr item field)⟩

def requiredAccountId (item : RecordPayload) (field : String) : Except RestoreError AccountId :=
  match item.get? field with
  | some (.accountId value) => .ok value
  | _ => return ⟨← stringId "AccountId" (← requiredStr item field)⟩

def optionalStrategyId : Option PayloadValue → Except RestoreError (Option StrategyId)
  | none => .ok none
  | some .none => .ok none
  | some (.strategyId value) => .ok (some value)
  | some (.text value) => return some ⟨← stringId "StrategyId" value⟩
  | some _ => .error (.typeError "strategy_id must be a string when provided")

def optionalStr (value : Option PayloadValue) (field : String) :
    Except RestoreError (Option String) :=
  match value with
  | none => .ok none
  | some .none => .ok none
  | some (.text value) =>
    if isBlank value then
      .error (.valueError (field ++ " must not be empty when provided"))
    else
      .ok (some value)
  | some _ => .error (.typeError (field ++ " must be a string when provided"))

section Datetimes

variable (iso : IsoFormat)

def coerceDatetime (value : PayloadValue) (field : String) : Except RestoreError DateTime :=
  match value with
  | .datetime value => .ok value
  | .text value =>
    match iso.fromisoformat value with
    | some time => .ok time
    | none => .error (.valueError ("Invalid isoformat string: '" ++ value ++ "'"))
  | _ => .error (.typeError (field ++ " must be a datetime or ISO datetime string"))

def requiredDatetime (item : RecordPayload) (field : String) : Except RestoreError DateTime :=
  match item.get? field with
  | none => .error (.valueError (field ++ " is required"))
  | some value => coerceDatetime iso value field

def optionalDatetime : Option PayloadValue → Except RestoreError (Option DateTime)
  | none => .ok none
  | some .none => .ok none
  | some value => return some (← coerceDatetime iso value "last_broker_status_at")

def coerceRecord : SnapshotItem → Except RestoreError BrokerOrderRecord
  | .record record => .ok record
  | .other =>
    .error (.typeError "broker order snapshot items must be BrokerOrderRecord or mapping")
  | .mapping item => do
    let internalOrderId ← requiredOrderId item "internal_order_id"
    let clientOrderId ← requiredStr item "client_order_id"
    let accountId ← requiredAccountId item "account_id"
    let strategyId ← optionalStrategyId (item.get? "strategy_id")
    let submittedAt ← requiredDatetime iso item "submitted_at"
    let ibkrOrderId ← optionalStr (item.get? "ibkr_order_id") "ibkr_order_id"
    let permId ← optionalStr (item.get? "perm_id") "perm_id"
    let status ← optionalStr (item.get? "status") "status"
    let lastBrokerStatusAt ← optionalDatetime iso (item.get? "last_broker_status_at")
    let fields : BrokerOrderRecordFields := {
      internalOrderId, clientOrderId, accountId, strategyId, submittedAt, ibkrOrderId, permId
      status := status.getD "pending_submission"
      lastBrokerStatusAt }
    (create fields).mapError .raised

def storeItem (map : BrokerOrderMap) (item : SnapshotItem) :
    Except RestoreError BrokerOrderMap := do
  let record ← coerceRecord iso item
  let stored ← (map.store record).mapError .raised
  return stored.2

def restore (snapshot : List SnapshotItem) : Except RestoreError BrokerOrderMap :=
  snapshot.foldlM (storeItem iso) init

def snapshot (map : BrokerOrderMap) : List BrokerOrderRecord :=
  (map.byClientOrderId.keys.mergeSort fun first second => decide (first ≤ second)).filterMap
    map.byClientOrderId.get?

def optionalText : Option String → PayloadValue
  | some value => .text value
  | none => .none

def recordPayload (record : BrokerOrderRecord) : RecordPayload where
  items := [("internal_order_id", .text record.internalOrderId.value),
    ("client_order_id", .text record.clientOrderId),
    ("account_id", .text record.accountId.value),
    ("strategy_id", optionalText (record.strategyId.map (·.value))),
    ("submitted_at", .text (iso.isoformat record.submittedAt)),
    ("ibkr_order_id", optionalText record.ibkrOrderId),
    ("perm_id", optionalText record.permId),
    ("status", .text record.status),
    ("last_broker_status_at", optionalText (record.lastBrokerStatusAt.map iso.isoformat))]
  distinct := by simp

def payload (map : BrokerOrderMap) : List SnapshotItem :=
  map.snapshot.map fun record => .mapping (recordPayload iso record)

theorem stringId_ok (className : String) (id : StringId) :
    stringId className id.value = .ok id := by
  unfold stringId
  split
  · rfl
  · next blank => rw [id.notEmpty] at blank; cases blank

variable {item : RecordPayload}

theorem requiredStr_text {field value : String} (found : item.get? field = some (.text value))
    (stated : isBlank value = false) : requiredStr item field = .ok value := by
  simp [requiredStr, found, stated]

theorem requiredOrderId_text {field : String} {id : OrderId}
    (found : item.get? field = some (.text id.value)) : requiredOrderId item field = .ok id := by
  simp only [requiredOrderId, found, requiredStr_text found id.notEmpty, bind, Except.bind,
    stringId_ok]
  rfl

theorem requiredAccountId_text {field : String} {id : AccountId}
    (found : item.get? field = some (.text id.value)) : requiredAccountId item field = .ok id := by
  simp only [requiredAccountId, found, requiredStr_text found id.notEmpty, bind, Except.bind,
    stringId_ok]
  rfl

theorem optionalStrategyId_text (id : Option StrategyId) :
    optionalStrategyId (some (optionalText (id.map (·.value)))) = .ok id := by
  cases id with
  | none => rfl
  | some id =>
    simp only [Option.map_some, optionalText, optionalStrategyId, stringId_ok, bind, Except.bind]
    rfl

theorem optionalStr_text {value : Option String} (stated : value.any isBlank = false)
    (field : String) : optionalStr (some (optionalText value)) field = .ok value := by
  cases value with
  | none => rfl
  | some value =>
    have visible : isBlank value = false := stated
    simp [optionalText, optionalStr, visible]

theorem coerceDatetime_text (time : DateTime) (field : String) :
    coerceDatetime iso (.text (iso.isoformat time)) field = .ok time := by
  simp [coerceDatetime, iso.fromisoformat_isoformat]

theorem optionalDatetime_text (time : Option DateTime) :
    optionalDatetime iso (some (optionalText (time.map iso.isoformat))) = .ok time := by
  cases time with
  | none => rfl
  | some time =>
    simp only [Option.map_some, optionalText, optionalDatetime, coerceDatetime_text, bind,
      Except.bind]
    rfl

theorem create_record (record : BrokerOrderRecord) :
    create record.toBrokerOrderRecordFields = .ok record := by
  unfold create
  split
  · rfl
  · next msg failed => rw [record.valid] at failed; cases failed

theorem coerceRecord_payload (record : BrokerOrderRecord) :
    coerceRecord iso (.mapping (recordPayload iso record)) = .ok record := by
  have passes := (Check.firstFailure_none _).mp record.valid
  simp only [BrokerOrderRecordFields.checks, List.forall_mem_cons] at passes
  obtain ⟨clientOrderId, ibkrOrderId, permId, status, _⟩ := passes
  have internal : requiredOrderId (recordPayload iso record) "internal_order_id" =
      .ok record.internalOrderId := requiredOrderId_text rfl
  have client : requiredStr (recordPayload iso record) "client_order_id" =
      .ok record.clientOrderId := requiredStr_text rfl clientOrderId
  have account : requiredAccountId (recordPayload iso record) "account_id" =
      .ok record.accountId := requiredAccountId_text rfl
  have strategy : optionalStrategyId ((recordPayload iso record).get? "strategy_id") =
      .ok record.strategyId := optionalStrategyId_text record.strategyId
  have submitted : requiredDatetime iso (recordPayload iso record) "submitted_at" =
      .ok record.submittedAt := coerceDatetime_text iso record.submittedAt "submitted_at"
  have ibkr : optionalStr ((recordPayload iso record).get? "ibkr_order_id") "ibkr_order_id" =
      .ok record.ibkrOrderId := optionalStr_text ibkrOrderId "ibkr_order_id"
  have perm : optionalStr ((recordPayload iso record).get? "perm_id") "perm_id" =
      .ok record.permId := optionalStr_text permId "perm_id"
  have stated : (some record.status).any isBlank = false := status
  have status : optionalStr ((recordPayload iso record).get? "status") "status" =
      .ok (some record.status) := optionalStr_text stated "status"
  have lastStatus : optionalDatetime iso ((recordPayload iso record).get?
      "last_broker_status_at") = .ok record.lastBrokerStatusAt :=
    optionalDatetime_text iso record.lastBrokerStatusAt
  simp only [coerceRecord, internal, client, account, strategy, submitted, ibkr, perm, status,
    lastStatus, bind, Except.bind, Option.getD_some]
  exact congrArg (Except.mapError RestoreError.raised) (create_record record)

end Datetimes

end BrokerOrderMap

end Qts
