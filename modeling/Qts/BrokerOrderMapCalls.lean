import Qts.BrokerOrderMap

/-! # Calls on the broker-order map -/

namespace Qts

open BrokerOrderRecord

namespace RaisingCalls

universe u

variable {Failure State Value : Type u}

def reads (look : State → Except Failure Value) : EStateM Failure State Value := fun state =>
  match look state with
  | .ok value => .ok value state
  | .error failure => .error failure state

def outcome (state : State) : Except Failure (Value × State) → EStateM.Result Failure State Value
  | .ok (value, after) => .ok value after
  | .error failure => .error failure state

theorem reads_run (look : State → Except Failure Value) (state : State) :
    (reads look).run state =
      match look state with
      | .ok value => .ok value state
      | .error failure => .error failure state :=
  rfl

end RaisingCalls

namespace BrokerOrderMap

open RaisingCalls

abbrev MapCall := EStateM CallbackError BrokerOrderMap

/-- Refuse a record whose key an index already gives to another client order. -/
def refuse (conflicts : BrokerOrderMap → Bool) (msg : String) : MapCall Unit :=
  reads fun map => if conflicts map then .error (.valueError msg) else .ok ()

def storeCall (record : BrokerOrderRecord) : MapCall BrokerOrderRecord := do
  let existing := (← get).byClientOrderId.get? record.clientOrderId
  refuse (fun map => taken map.clientByInternalOrderId record.internalOrderId
    record.clientOrderId) "internal_order_id already maps to a different client_order_id"
  refuse (fun map => record.ibkrOrderId.any fun key =>
    taken map.clientByIbkrOrderId key record.clientOrderId)
    "ibkr_order_id already maps to a different client_order_id"
  refuse (fun map => record.permId.any fun key =>
    taken map.clientByPermId key record.clientOrderId)
    "perm_id already maps to a different client_order_id"
  modify fun map => { map with
    clientByInternalOrderId := dropStale map.clientByInternalOrderId
      (existing.map (·.internalOrderId)) (some record.internalOrderId) }
  modify fun map => { map with
    clientByIbkrOrderId := dropStale map.clientByIbkrOrderId (existing.bind (·.ibkrOrderId))
      record.ibkrOrderId }
  modify fun map => { map with
    clientByPermId := dropStale map.clientByPermId (existing.bind (·.permId)) record.permId }
  modify fun map => { map with
    byClientOrderId := map.byClientOrderId.set record.clientOrderId record }
  modify fun map => { map with
    clientByInternalOrderId :=
      map.clientByInternalOrderId.set record.internalOrderId record.clientOrderId }
  modify fun map => { map with
    clientByIbkrOrderId := addKey map.clientByIbkrOrderId record.ibkrOrderId
      record.clientOrderId }
  modify fun map => { map with
    clientByPermId := addKey map.clientByPermId record.permId record.clientOrderId }
  return record

def recordPendingSubmissionCall (internalOrderId : OrderId) (clientOrderId : String)
    (accountId : AccountId) (strategyId : Option StrategyId) (submittedAt : DateTime) :
    MapCall BrokerOrderRecord := do
  match (← get).byClientOrderId.get? clientOrderId with
  | some record =>
    if record.internalOrderId ≠ internalOrderId ∨ record.accountId ≠ accountId ∨
        record.strategyId ≠ strategyId then
      throw (.valueError "client_order_id already maps to a different order route")
    else
      return record
  | none =>
    let record ← reads fun _ => create {
      internalOrderId, clientOrderId, accountId, strategyId, submittedAt }
    storeCall record

def attachIbkrOrderIdCall (clientOrderId ibkrOrderId : String) : MapCall BrokerOrderRecord := do
  let record ← reads fun map => map.requireClientOrderId clientOrderId
  let updated ← reads fun _ => create
    { record.toBrokerOrderRecordFields with ibkrOrderId := some ibkrOrderId }
  storeCall updated

def attachPermIdCall (ibkrOrderId permId : String) : MapCall BrokerOrderRecord := do
  let record ← reads fun map => map.byIbkrOrderId ibkrOrderId
  let updated ← reads fun _ => create
    { record.toBrokerOrderRecordFields with permId := some permId }
  storeCall updated

def markStatusCall (ibkrOrderId status : String) (lastBrokerStatusAt : DateTime) :
    MapCall BrokerOrderRecord := do
  let record ← reads fun map => map.byIbkrOrderId ibkrOrderId
  let updated ← reads fun _ => create
    { record.toBrokerOrderRecordFields with
      status, lastBrokerStatusAt := some lastBrokerStatusAt }
  storeCall updated

theorem storeCall_run (record : BrokerOrderRecord) (map : BrokerOrderMap) :
    (storeCall record).run map = outcome map (map.store record) := by
  cases internal : taken map.clientByInternalOrderId record.internalOrderId
      record.clientOrderId with
  | true =>
    simp [storeCall, refuse, reads_run, store, conflict, Check.firstFailure, outcome, internal]
  | false =>
    cases ibkr : record.ibkrOrderId.any fun key =>
        taken map.clientByIbkrOrderId key record.clientOrderId with
    | true =>
      simp [storeCall, refuse, reads_run, store, conflict, Check.firstFailure, outcome, internal,
        ibkr]
    | false =>
      cases perm : record.permId.any fun key =>
          taken map.clientByPermId key record.clientOrderId with
      | true =>
        simp [storeCall, refuse, reads_run, store, conflict, Check.firstFailure, outcome,
          internal, ibkr, perm]
      | false =>
        simp [-bind_pure_comp, storeCall, refuse, reads_run, store, conflict, Check.firstFailure,
          outcome, internal, ibkr, perm]

theorem updateCall_run (look : BrokerOrderMap → Except CallbackError BrokerOrderRecord)
    (update : BrokerOrderRecord → Except CallbackError BrokerOrderRecord) (map : BrokerOrderMap) :
    (do
      let record ← reads look
      let updated ← reads fun _ => update record
      storeCall updated : MapCall BrokerOrderRecord).run map =
      outcome map (do
        let record ← look map
        let updated ← update record
        map.store updated) := by
  cases found : look map with
  | error failure =>
    simp only [EStateM.run_bind, reads_run, found]
    rfl
  | ok record =>
    cases updated : update record with
    | error failure =>
      simp only [EStateM.run_bind, reads_run, found, updated]
      simp only [bind, Except.bind, updated, outcome]
    | ok updated' =>
      simp only [EStateM.run_bind, reads_run, found, updated, storeCall_run]
      simp only [bind, Except.bind, updated]

theorem attachIbkrOrderIdCall_run (clientOrderId ibkrOrderId : String) (map : BrokerOrderMap) :
    (attachIbkrOrderIdCall clientOrderId ibkrOrderId).run map =
      outcome map (map.attachIbkrOrderId clientOrderId ibkrOrderId) :=
  updateCall_run _ _ map

theorem attachPermIdCall_run (ibkrOrderId permId : String) (map : BrokerOrderMap) :
    (attachPermIdCall ibkrOrderId permId).run map =
      outcome map (map.attachPermId ibkrOrderId permId) :=
  updateCall_run _ _ map

theorem markStatusCall_run (ibkrOrderId status : String) (lastBrokerStatusAt : DateTime)
    (map : BrokerOrderMap) :
    (markStatusCall ibkrOrderId status lastBrokerStatusAt).run map =
      outcome map (map.markStatus ibkrOrderId status lastBrokerStatusAt) :=
  updateCall_run _ _ map

theorem recordPendingSubmissionCall_run (internalOrderId : OrderId) (clientOrderId : String)
    (accountId : AccountId) (strategyId : Option StrategyId) (submittedAt : DateTime)
    (map : BrokerOrderMap) :
    (recordPendingSubmissionCall internalOrderId clientOrderId accountId strategyId
      submittedAt).run map =
      outcome map (map.recordPendingSubmission internalOrderId clientOrderId accountId strategyId
        submittedAt) := by
  unfold recordPendingSubmissionCall recordPendingSubmission
  simp only [EStateM.run_bind, EStateM.run_get]
  cases map.byClientOrderId.get? clientOrderId with
  | some record =>
    dsimp only
    split <;> rfl
  | none =>
    cases create {
        internalOrderId, clientOrderId, accountId, strategyId, submittedAt } with
    | error failure =>
      simp only [EStateM.run_bind, reads_run]
      rfl
    | ok record =>
      simp only [EStateM.run_bind, reads_run, storeCall_run]
      rfl

end BrokerOrderMap

end Qts
