import Qts.OrderedDictionary
import Qts.RuntimeFailures

/-!
# IBKR broker-order identity map

An audit record links an internal order to its client, broker and permanent
ids.  The map keeps the records by client order id with a reverse index for
each other id, and validates a record against all indexes before it writes one.
-/

namespace Qts

open PythonText

/-- Failures that callback handling raises. -/
inductive CallbackError
  | valueError (msg : String)
  | keyError (key : String)

structure BrokerOrderRecordFields where
  internalOrderId : OrderId
  clientOrderId : String
  accountId : AccountId
  strategyId : Option StrategyId
  submittedAt : DateTime
  ibkrOrderId : Option String := none
  permId : Option String := none
  status : String := "pending_submission"
  lastBrokerStatusAt : Option DateTime := none

def BrokerOrderRecordFields.checks (record : BrokerOrderRecordFields) : List Check :=
  [⟨isBlank record.clientOrderId, "client_order_id must not be empty"⟩,
   ⟨record.ibkrOrderId.any isBlank,
      "ibkr_order_id must not be empty when provided"⟩,
   ⟨record.permId.any isBlank, "perm_id must not be empty when provided"⟩,
   ⟨isBlank record.status, "status must not be empty"⟩]

/-- Audit record linking internal and IBKR order identifiers. -/
structure BrokerOrderRecord extends BrokerOrderRecordFields where
  valid : Check.firstFailure toBrokerOrderRecordFields.checks = none

def BrokerOrderRecord.create (fields : BrokerOrderRecordFields) :
    Except CallbackError BrokerOrderRecord :=
  match checked : Check.firstFailure fields.checks with
  | none => .ok ⟨fields, checked⟩
  | some msg => .error (.valueError msg)

/-- Lookup indexes across internal, client, broker and permanent ids. -/
structure BrokerOrderMap where
  byClientOrderId : Dict String BrokerOrderRecord
  clientByIbkrOrderId : Dict String String
  clientByPermId : Dict String String
  clientByInternalOrderId : Dict OrderId String

namespace BrokerOrderMap

def init : BrokerOrderMap where
  byClientOrderId := .empty
  clientByIbkrOrderId := .empty
  clientByPermId := .empty
  clientByInternalOrderId := .empty

section Index

variable {Key : Type} [DecidableEq Key]

def taken (index : Dict Key String) (key : Key) (clientOrderId : String) : Bool :=
  (index.get? key).any fun mapped => mapped ≠ clientOrderId

def dropStale (index : Dict Key String) (old new : Option Key) : Dict Key String :=
  match old with
  | some key => if some key = new then index else index.erase key
  | none => index

def addKey (index : Dict Key String) (key : Option Key) (clientOrderId : String) :
    Dict Key String :=
  match key with
  | some key => index.set key clientOrderId
  | none => index

end Index

def conflict (map : BrokerOrderMap) (record : BrokerOrderRecord) : Option String :=
  Check.firstFailure
    [⟨taken map.clientByInternalOrderId record.internalOrderId record.clientOrderId,
        "internal_order_id already maps to a different client_order_id"⟩,
     ⟨record.ibkrOrderId.any fun key => taken map.clientByIbkrOrderId key record.clientOrderId,
        "ibkr_order_id already maps to a different client_order_id"⟩,
     ⟨record.permId.any fun key => taken map.clientByPermId key record.clientOrderId,
        "perm_id already maps to a different client_order_id"⟩]

/-- Validate a record against all indexes, then write it to all of them. -/
def store (map : BrokerOrderMap) (record : BrokerOrderRecord) :
    Except CallbackError (BrokerOrderRecord × BrokerOrderMap) :=
  match map.conflict record with
  | some msg => .error (.valueError msg)
  | none =>
    let existing := map.byClientOrderId.get? record.clientOrderId
    .ok (record, {
      byClientOrderId := map.byClientOrderId.set record.clientOrderId record
      clientByInternalOrderId :=
        (dropStale map.clientByInternalOrderId (existing.map (·.internalOrderId))
          (some record.internalOrderId)).set record.internalOrderId record.clientOrderId
      clientByIbkrOrderId :=
        addKey (dropStale map.clientByIbkrOrderId (existing.bind (·.ibkrOrderId))
          record.ibkrOrderId) record.ibkrOrderId record.clientOrderId
      clientByPermId :=
        addKey (dropStale map.clientByPermId (existing.bind (·.permId)) record.permId)
          record.permId record.clientOrderId })

def requireClientOrderId (map : BrokerOrderMap) (clientOrderId : String) :
    Except CallbackError BrokerOrderRecord :=
  if isBlank clientOrderId then
    .error (.valueError "client_order_id must not be empty")
  else
    match map.byClientOrderId.get? clientOrderId with
    | some record => .ok record
    | none => .error (.keyError clientOrderId)

def byIbkrOrderId (map : BrokerOrderMap) (ibkrOrderId : String) :
    Except CallbackError BrokerOrderRecord :=
  match map.clientByIbkrOrderId.get? ibkrOrderId with
  | none => .error (.keyError ibkrOrderId)
  | some clientOrderId =>
    match map.byClientOrderId.get? clientOrderId with
    | some record => .ok record
    | none => .error (.keyError clientOrderId)

def recordPendingSubmission (map : BrokerOrderMap) (internalOrderId : OrderId)
    (clientOrderId : String) (accountId : AccountId) (strategyId : Option StrategyId)
    (submittedAt : DateTime) : Except CallbackError (BrokerOrderRecord × BrokerOrderMap) :=
  match map.byClientOrderId.get? clientOrderId with
  | some record =>
    if record.internalOrderId ≠ internalOrderId ∨ record.accountId ≠ accountId ∨
        record.strategyId ≠ strategyId then
      .error (.valueError "client_order_id already maps to a different order route")
    else
      .ok (record, map)
  | none => do
    let record ← BrokerOrderRecord.create {
      internalOrderId, clientOrderId, accountId, strategyId, submittedAt }
    map.store record

def attachIbkrOrderId (map : BrokerOrderMap) (clientOrderId ibkrOrderId : String) :
    Except CallbackError (BrokerOrderRecord × BrokerOrderMap) := do
  let record ← map.requireClientOrderId clientOrderId
  let updated ← BrokerOrderRecord.create
    { record.toBrokerOrderRecordFields with ibkrOrderId := some ibkrOrderId }
  map.store updated

def attachPermId (map : BrokerOrderMap) (ibkrOrderId permId : String) :
    Except CallbackError (BrokerOrderRecord × BrokerOrderMap) := do
  let record ← map.byIbkrOrderId ibkrOrderId
  let updated ← BrokerOrderRecord.create
    { record.toBrokerOrderRecordFields with permId := some permId }
  map.store updated

def markStatus (map : BrokerOrderMap) (ibkrOrderId status : String)
    (lastBrokerStatusAt : DateTime) :
    Except CallbackError (BrokerOrderRecord × BrokerOrderMap) := do
  let record ← map.byIbkrOrderId ibkrOrderId
  let updated ← BrokerOrderRecord.create
    { record.toBrokerOrderRecordFields with
      status, lastBrokerStatusAt := some lastBrokerStatusAt }
  map.store updated

end BrokerOrderMap

end Qts
