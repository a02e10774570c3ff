import Qts.BrokerOrderMapRuns

/-! # Routes of client orders -/

namespace Qts

open RaisingCalls PythonText Check BrokerOrderRecord BrokerOrderRecordFields

namespace BrokerOrderMap

abbrev Routes := String → Option (OrderId × Option String)

def routes (map : BrokerOrderMap) : Routes := fun clientOrderId =>
  (map.byClientOrderId.get? clientOrderId).map fun record =>
    (record.internalOrderId, record.ibkrOrderId)

variable {map after : BrokerOrderMap}

theorem Indexed.byIbkrOrderId_isOk_iff (indexed : map.Indexed) (ibkrOrderId : String) :
    (map.byIbkrOrderId ibkrOrderId).isOk = true ↔
      ∃ clientOrderId internalOrderId,
        map.routes clientOrderId = some (internalOrderId, some ibkrOrderId) := by
  have inverse := indexed.ibkr ibkrOrderId
  have found : ∀ clientOrderId, (∃ internalOrderId, map.routes clientOrderId =
      some (internalOrderId, some ibkrOrderId)) ↔
        map.clientByIbkrOrderId.get? ibkrOrderId = some clientOrderId := by
    intro clientOrderId
    rw [inverse clientOrderId]
    simp only [routes, Option.map_eq_some_iff, Prod.mk.injEq]
    constructor
    · rintro ⟨internalOrderId, record, stored, _, id⟩
      exact ⟨record, stored, id⟩
    · rintro ⟨record, stored, id⟩
      exact ⟨record.internalOrderId, record, stored, rfl, id⟩
  simp only [found]
  rw [byIbkrOrderId]
  cases leads : map.clientByIbkrOrderId.get? ibkrOrderId with
  | none => simp [Except.isOk, Except.toBool]
  | some clientOrderId =>
    obtain ⟨record, stored, _⟩ := (inverse clientOrderId).mp leads
    simp [stored, Except.isOk, Except.toBool]

variable {stored : BrokerOrderRecord × BrokerOrderMap} {record : BrokerOrderRecord}

theorem store_routes (indexed : map.Indexed) (ran : map.store record = .ok stored) :
    stored.2.Indexed ∧ stored.2.routes = Function.update map.routes record.clientOrderId
      (some (record.internalOrderId, record.ibkrOrderId)) := by
  refine ⟨store_indexed indexed ran, ?_⟩
  cases free : map.conflict record with
  | some msg =>
    rw [store, free] at ran
    cases ran
  | none =>
    obtain ⟨after, wrote, stores⟩ := store_stores free
    obtain rfl := ok_unique wrote ran
    funext clientOrderId
    rw [routes, stores.records, Function.update_apply]
    dsimp only
    split
    · rfl
    · rfl

variable {clientOrderId : String}

theorem store_sameRoute (indexed : map.Indexed) {record updated : BrokerOrderRecord}
    (found : map.byClientOrderId.get? clientOrderId = some record)
    (same : updated.clientOrderId = record.clientOrderId ∧
      updated.internalOrderId = record.internalOrderId ∧ updated.ibkrOrderId = record.ibkrOrderId)
    (ran : map.store updated = .ok stored) : stored.2.Indexed ∧ stored.2.routes = map.routes := by
  obtain ⟨kept, changed⟩ := store_routes indexed ran
  refine ⟨kept, ?_⟩
  have known : map.routes updated.clientOrderId =
      some (updated.internalOrderId, updated.ibkrOrderId) := by
    rw [same.1, same.2.1, same.2.2, indexed.own clientOrderId record found, routes, found]
    rfl
  rw [changed, ← known, Function.update_eq_self]

theorem byIbkrOrderId_found {ibkrOrderId : String}
    (looked : map.byIbkrOrderId ibkrOrderId = .ok record) :
    ∃ clientOrderId, map.byClientOrderId.get? clientOrderId = some record := by
  unfold byIbkrOrderId at looked
  split at looked
  · cases looked
  · next clientOrderId _ =>
    split at looked
    · next found stored =>
      cases looked
      exact ⟨clientOrderId, stored⟩
    · cases looked

variable {fields : BrokerOrderRecordFields}

theorem created_fields (created : create fields = .ok record) :
    record.toBrokerOrderRecordFields = fields := by
  unfold create at created
  split at created
  · cases created
    rfl
  · cases created

theorem attachPermId_routes (indexed : map.Indexed) {ibkrOrderId permId : String}
    (ran : map.attachPermId ibkrOrderId permId = .ok stored) :
    stored.2.Indexed ∧ stored.2.routes = map.routes := by
  obtain ⟨record, looked, ran⟩ := bind_inv ran
  obtain ⟨updated, created, ran⟩ := bind_inv ran
  obtain ⟨clientOrderId, found⟩ := byIbkrOrderId_found looked
  have fields := created_fields created
  exact store_sameRoute indexed found ⟨congrArg (·.clientOrderId) fields,
    congrArg (·.internalOrderId) fields, congrArg (·.ibkrOrderId) fields⟩ ran

theorem markStatus_routes (indexed : map.Indexed) {ibkrOrderId status : String} {at' : DateTime}
    (ran : map.markStatus ibkrOrderId status at' = .ok stored) :
    stored.2.Indexed ∧ stored.2.routes = map.routes := by
  obtain ⟨record, looked, ran⟩ := bind_inv ran
  obtain ⟨updated, created, ran⟩ := bind_inv ran
  obtain ⟨clientOrderId, found⟩ := byIbkrOrderId_found looked
  have fields := created_fields created
  exact store_sameRoute indexed found ⟨congrArg (·.clientOrderId) fields,
    congrArg (·.internalOrderId) fields, congrArg (·.ibkrOrderId) fields⟩ ran

theorem requireClientOrderId_found (looked : map.requireClientOrderId clientOrderId = .ok record) :
    map.byClientOrderId.get? clientOrderId = some record := by
  unfold requireClientOrderId at looked
  split at looked
  · cases looked
  · split at looked
    · next found stored =>
      cases looked
      exact stored
    · cases looked

variable {clientOrderId ibkrOrderId : String}

theorem attachIbkrOrderId_routes (indexed : map.Indexed)
    (ran : map.attachIbkrOrderId clientOrderId ibkrOrderId = .ok stored) :
    ∃ internalOrderId old, map.routes clientOrderId = some (internalOrderId, old) ∧
      stored.2.Indexed ∧ stored.2.routes =
        Function.update map.routes clientOrderId (some (internalOrderId, some ibkrOrderId)) := by
  obtain ⟨record, looked, ran⟩ := bind_inv ran
  obtain ⟨updated, created, ran⟩ := bind_inv ran
  have found := requireClientOrderId_found looked
  have fields := created_fields created
  have client : updated.clientOrderId = clientOrderId :=
    (congrArg (·.clientOrderId) fields).trans (indexed.own clientOrderId record found)
  have internal : updated.internalOrderId = record.internalOrderId :=
    congrArg (·.internalOrderId) fields
  have id : updated.ibkrOrderId = some ibkrOrderId := congrArg (·.ibkrOrderId) fields
  obtain ⟨kept, changed⟩ := store_routes indexed ran
  refine ⟨record.internalOrderId, record.ibkrOrderId, by rw [routes, found]; rfl, kept, ?_⟩
  rw [changed, client, internal, id]

variable {internalOrderId : OrderId}

theorem recordPendingSubmission_routes (indexed : map.Indexed) {accountId : AccountId}
    {strategyId : Option StrategyId} {submittedAt : DateTime}
    (ran : map.recordPendingSubmission internalOrderId clientOrderId accountId strategyId
      submittedAt = .ok stored) :
    (map.routes clientOrderId ≠ none ∧ stored.2 = map) ∨
      map.routes clientOrderId = none ∧ stored.2.Indexed ∧ stored.2.routes =
        Function.update map.routes clientOrderId (some (internalOrderId, none)) := by
  unfold recordPendingSubmission at ran
  cases found : map.byClientOrderId.get? clientOrderId with
  | some record =>
    rw [found] at ran
    dsimp only at ran
    split at ran
    · cases ran
    · cases ran
      exact .inl ⟨by simp [routes, found], rfl⟩
  | none =>
    rw [found] at ran
    obtain ⟨record, created, ran⟩ := bind_inv ran
    have fields := created_fields created
    obtain ⟨kept, changed⟩ := store_routes indexed ran
    refine .inr ⟨by rw [routes, found]; rfl, kept, ?_⟩
    have client : record.clientOrderId = clientOrderId := congrArg (·.clientOrderId) fields
    have internal : record.internalOrderId = internalOrderId := congrArg (·.internalOrderId) fields
    have id : record.ibkrOrderId = none := congrArg (·.ibkrOrderId) fields
    rw [changed, client, internal, id]

theorem record_shown (record : BrokerOrderRecord) :
    isBlank record.clientOrderId = false ∧
      record.permId.any isBlank = false ∧ isBlank record.status = false := by
  have passes := (firstFailure_none _).mp record.valid
  simp only [checks, List.forall_mem_cons] at passes
  exact ⟨passes.1, passes.2.2.1, passes.2.2.2.1⟩

theorem create_ok (valid : firstFailure fields.checks = none) :
    ∃ record, create fields = .ok record ∧
      record.toBrokerOrderRecordFields = fields := by
  unfold create
  split
  · exact ⟨_, rfl, rfl⟩
  · next msg failed =>
    rw [valid] at failed
    cases failed

theorem recordPendingSubmission_new (newClient : map.byClientOrderId.get? clientOrderId = none)
    (newInternal : map.clientByInternalOrderId.get? internalOrderId = none)
    (shown : isBlank clientOrderId = false) (accountId : AccountId)
    (strategyId : Option StrategyId) (submittedAt : DateTime) :
    ∃ stored, map.recordPendingSubmission internalOrderId clientOrderId accountId strategyId
      submittedAt = .ok stored := by
  have pending : isBlank "pending_submission" = false := by decide
  let fields : BrokerOrderRecordFields := {
    internalOrderId, clientOrderId, accountId, strategyId, submittedAt }
  have valid : firstFailure fields.checks = none := by
    simp [fields, checks, firstFailure, shown, pending]
  obtain ⟨record, created, same⟩ := create_ok valid
  have free : map.conflict record = none := by
    have internal : record.internalOrderId = internalOrderId := congrArg (·.internalOrderId) same
    have noIbkr : record.ibkrOrderId = none := congrArg (·.ibkrOrderId) same
    have noPerm : record.permId = none := congrArg (·.permId) same
    simp [conflict, firstFailure, taken, internal, newInternal, noIbkr, noPerm]
  obtain ⟨after, wrote, _⟩ := store_stores free
  refine ⟨(record, after), ?_⟩
  rw [recordPendingSubmission, newClient]
  change (create fields >>= fun record => map.store record) = _
  rw [created]
  exact wrote

theorem recordPendingSubmission_taken {clientOrderId other : String}
    (newClient : map.byClientOrderId.get? clientOrderId = none)
    (internal : map.clientByInternalOrderId.get? internalOrderId = some other)
    (ne : other ≠ clientOrderId) (accountId : AccountId) (strategyId : Option StrategyId)
    (submittedAt : DateTime) :
    ∃ failure, map.recordPendingSubmission internalOrderId clientOrderId accountId strategyId
      submittedAt = .error failure := by
  rw [recordPendingSubmission, newClient]
  dsimp only
  cases created : create {
      internalOrderId, clientOrderId, accountId, strategyId, submittedAt } with
  | error failure => exact ⟨failure, rfl⟩
  | ok record =>
    have same := created_fields created
    have recordInternal : record.internalOrderId = internalOrderId :=
      congrArg (·.internalOrderId) same
    have recordClient : record.clientOrderId = clientOrderId := congrArg (·.clientOrderId) same
    have refused : map.conflict record =
        some "internal_order_id already maps to a different client_order_id" := by
      simp [conflict, firstFailure, taken, recordInternal, recordClient, internal, ne]
    exact ⟨_, by simp only [bind, Except.bind, store, refused]; rfl⟩

theorem attachIbkrOrderId_new (indexed : map.Indexed)
    (found : map.byClientOrderId.get? clientOrderId = some record)
    (newId : map.clientByIbkrOrderId.get? ibkrOrderId = none) (shown : isBlank ibkrOrderId = false)
    : ∃ stored, map.attachIbkrOrderId clientOrderId ibkrOrderId = .ok stored := by
  have own := indexed.own clientOrderId record found
  obtain ⟨clientShown, permShown, statusShown⟩ := record_shown record
  let fields : BrokerOrderRecordFields :=
    { record.toBrokerOrderRecordFields with ibkrOrderId := some ibkrOrderId }
  have valid : firstFailure fields.checks = none := by
    simp [fields, checks, firstFailure, shown, clientShown, permShown, statusShown]
  obtain ⟨updated, created, same⟩ := create_ok valid
  have free : map.conflict updated = none := by
    -- The record itself has no conflict, and the new id is in no index.
    have passes := (firstFailure_none _).mp
      (conflict_eq_none indexed indexed (fun _ _ stored => stored)
        (show map.byClientOrderId.get? record.clientOrderId = some record by rw [own, found]))
    simp only [List.forall_mem_cons] at passes
    have internal : updated.internalOrderId = record.internalOrderId :=
      congrArg (·.internalOrderId) same
    have client : updated.clientOrderId = record.clientOrderId := congrArg (·.clientOrderId) same
    have perm : updated.permId = record.permId := congrArg (·.permId) same
    have id : updated.ibkrOrderId = some ibkrOrderId := congrArg (·.ibkrOrderId) same
    refine (firstFailure_none _).mpr ?_
    simp only [List.forall_mem_cons, internal, client, perm, id]
    exact ⟨passes.1, by simp [taken, newId], passes.2.2.1, List.forall_mem_nil _⟩
  obtain ⟨after, wrote, _⟩ := store_stores free
  have looked : map.requireClientOrderId clientOrderId = .ok record := by
    rw [requireClientOrderId, if_neg (by rw [← own, clientShown]; exact Bool.false_ne_true), found]
  refine ⟨(updated, after), ?_⟩
  rw [attachIbkrOrderId, looked]
  change (create fields >>= fun updated => map.store updated) = _
  rw [created]
  exact wrote

end BrokerOrderMap

end Qts
