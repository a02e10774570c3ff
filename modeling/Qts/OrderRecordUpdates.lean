import Qts.ClientOrderRoutes

/-! # Updates of recorded orders -/

namespace Qts

open PythonText Check BrokerOrderRecordFields

namespace BrokerOrderMap

variable {map : BrokerOrderMap} {record : BrokerOrderRecord}

def Holds (map : BrokerOrderMap) (record : BrokerOrderRecord) : Prop :=
  map.byClientOrderId.get? record.clientOrderId = some record

structure Rewrites (map : BrokerOrderMap) (updated : BrokerOrderRecord) (after : BrokerOrderMap) :
    Prop where
  indexed : after.Indexed
  records : ∀ clientOrderId, after.byClientOrderId.get? clientOrderId =
    if clientOrderId = updated.clientOrderId then some updated
    else map.byClientOrderId.get? clientOrderId

theorem Rewrites.holds {updated : BrokerOrderRecord} {after : BrokerOrderMap}
    (rewrites : Rewrites map updated after) : after.Holds updated := by
  rw [Holds, rewrites.records, if_pos rfl]

theorem Indexed.holds (indexed : map.Indexed) {clientOrderId : String}
    (found : map.byClientOrderId.get? clientOrderId = some record) : map.Holds record := by
  rw [Holds, indexed.own clientOrderId record found]
  exact found

theorem byIbkrOrderId_cases (indexed : map.Indexed) (ibkrOrderId : String) :
    (∃ key, map.byIbkrOrderId ibkrOrderId = .error (.keyError key)) ∨
      ∃ record, map.byIbkrOrderId ibkrOrderId = .ok record ∧ map.Holds record ∧
        record.ibkrOrderId = some ibkrOrderId := by
  rw [byIbkrOrderId]
  cases leads : map.clientByIbkrOrderId.get? ibkrOrderId with
  | none => exact .inl ⟨ibkrOrderId, rfl⟩
  | some clientOrderId =>
    obtain ⟨record, stored, has⟩ := (indexed.ibkr ibkrOrderId clientOrderId).mp leads
    dsimp only
    rw [stored]
    exact .inr ⟨record, rfl, indexed.holds stored, has⟩

theorem byIbkrOrderId_of_holds (indexed : map.Indexed) (holds : map.Holds record)
    {ibkrOrderId : String} (has : record.ibkrOrderId = some ibkrOrderId) :
    map.byIbkrOrderId ibkrOrderId = .ok record := by
  have leads := (indexed.ibkr ibkrOrderId record.clientOrderId).mpr ⟨record, holds, has⟩
  rw [byIbkrOrderId, leads]
  dsimp only
  rw [holds]

/-- Another order than this one has a value under a field. -/
def HeldElsewhere (map : BrokerOrderMap) (field : BrokerOrderRecord → Option String)
    (key clientOrderId : String) : Prop :=
  ∃ other record, other ≠ clientOrderId ∧ map.byClientOrderId.get? other = some record ∧
    field record = some key

theorem taken_iff {field : BrokerOrderRecord → Option String} {index : Dict String String}
    (inverse : InverseIndex.Inverse map.byClientOrderId.get? field index.get?)
    (key clientOrderId : String) :
    taken index key clientOrderId = true ↔ map.HeldElsewhere field key clientOrderId := by
  have leads := inverse key
  rw [taken, Option.any_eq_true]
  simp only [leads, decide_eq_true_eq]
  constructor
  · rintro ⟨other, ⟨record, found, has⟩, ne⟩
    exact ⟨other, record, ne, found, has⟩
  · rintro ⟨other, record, ne, found, has⟩
    exact ⟨other, ⟨record, found, has⟩, ne⟩

theorem not_taken_iff {field : BrokerOrderRecord → Option String}
    {index : Dict String String}
    (inverse : InverseIndex.Inverse map.byClientOrderId.get? field index.get?)
    (key clientOrderId : String) :
    taken index key clientOrderId = false ↔ ¬ map.HeldElsewhere field key clientOrderId := by
  rw [← taken_iff inverse, Bool.not_eq_true]

theorem Rewrites.heldElsewhere {updated : BrokerOrderRecord} {after : BrokerOrderMap}
    (rewrites : Rewrites map updated after) (field : BrokerOrderRecord → Option String)
    (key : String) :
    after.HeldElsewhere field key updated.clientOrderId ↔
      map.HeldElsewhere field key updated.clientOrderId := by
  unfold HeldElsewhere
  refine exists_congr fun other => exists_congr fun record => and_congr_right fun ne => ?_
  rw [rewrites.records, if_neg ne]

theorem Holds.free (holds : map.Holds record) (indexed : map.Indexed) :
    taken map.clientByInternalOrderId record.internalOrderId record.clientOrderId = false ∧
      (record.ibkrOrderId.any fun key =>
        taken map.clientByIbkrOrderId key record.clientOrderId) = false ∧
      (record.permId.any fun key => taken map.clientByPermId key record.clientOrderId) = false := by
  have free := conflict_eq_none indexed indexed (fun _ _ stored => stored) holds
  have passes := (firstFailure_none _).mp free
  simp only [List.forall_mem_cons] at passes
  exact ⟨passes.1, passes.2.1, passes.2.2.1⟩

section Update

variable {fields : BrokerOrderRecordFields}

def rewrite (map : BrokerOrderMap) (fields : BrokerOrderRecordFields) :
    Except CallbackError (BrokerOrderRecord × BrokerOrderMap) := do
  let updated ← BrokerOrderRecord.create fields
  map.store updated

theorem rewrite_free (indexed : map.Indexed) (holds : map.Holds record)
    (client : fields.clientOrderId = record.clientOrderId)
    (internal : fields.internalOrderId = record.internalOrderId)
    (valid : firstFailure fields.checks = none)
    (freeIbkr : (fields.ibkrOrderId.any fun key =>
      taken map.clientByIbkrOrderId key record.clientOrderId) = false)
    (freePerm : (fields.permId.any fun key =>
      taken map.clientByPermId key record.clientOrderId) = false) :
    ∃ updated after, map.rewrite fields = .ok (updated, after) ∧
      updated.toBrokerOrderRecordFields = fields ∧ Rewrites map updated after := by
  obtain ⟨updated, created, same⟩ := create_ok valid
  have updatedClient : updated.clientOrderId = record.clientOrderId :=
    (congrArg (·.clientOrderId) same).trans client
  have free : map.conflict updated = none := by
    have updatedInternal : updated.internalOrderId = record.internalOrderId :=
      (congrArg (·.internalOrderId) same).trans internal
    have updatedIbkr : updated.ibkrOrderId = fields.ibkrOrderId := congrArg (·.ibkrOrderId) same
    have updatedPerm : updated.permId = fields.permId := congrArg (·.permId) same
    refine (firstFailure_none _).mpr ?_
    simp only [List.forall_mem_cons, updatedClient, updatedInternal, updatedIbkr, updatedPerm]
    exact ⟨(holds.free indexed).1, freeIbkr, freePerm, by simp⟩
  obtain ⟨after, wrote, stores⟩ := store_stores free
  refine ⟨updated, after, ?_, same, stores.indexed indexed free, fun clientOrderId => ?_⟩
  · rw [rewrite, created]
    exact wrote
  · rw [stores.records]

theorem rewrite_taken (client : fields.clientOrderId = record.clientOrderId)
    (valid : firstFailure fields.checks = none)
    (conflicts : (fields.ibkrOrderId.any fun key =>
        taken map.clientByIbkrOrderId key record.clientOrderId) = true ∨
      (fields.permId.any fun key => taken map.clientByPermId key record.clientOrderId) = true) :
    ∃ msg, map.rewrite fields = .error (.valueError msg) := by
  obtain ⟨updated, created, same⟩ := create_ok valid
  have updatedClient : updated.clientOrderId = record.clientOrderId :=
    (congrArg (·.clientOrderId) same).trans client
  cases free : map.conflict updated with
  | some msg =>
    refine ⟨msg, ?_⟩
    rw [rewrite, created]
    simp only [bind, Except.bind, store, free]
  | none =>
    have passes := (firstFailure_none _).mp free
    have updatedIbkr : updated.ibkrOrderId = fields.ibkrOrderId := congrArg (·.ibkrOrderId) same
    have updatedPerm : updated.permId = fields.permId := congrArg (·.permId) same
    simp only [List.forall_mem_cons, updatedClient, updatedIbkr, updatedPerm] at passes
    rcases conflicts with ibkr | perm
    · exact absurd ibkr (Bool.eq_false_iff.mp passes.2.1)
    · exact absurd perm (Bool.eq_false_iff.mp passes.2.2.1)

end Update

theorem valid_checks (record : BrokerOrderRecord) :
    isBlank record.clientOrderId = false ∧
      record.ibkrOrderId.any isBlank = false ∧
      record.permId.any isBlank = false ∧
      isBlank record.status = false := by
  have passes := (firstFailure_none _).mp record.valid
  simp only [checks, List.forall_mem_cons] at passes
  exact ⟨passes.1, passes.2.1, passes.2.2.1, passes.2.2.2.1⟩

variable {ibkrOrderId : String}

theorem attachPermId_of_found (looked : map.byIbkrOrderId ibkrOrderId = .ok record)
    (permId : String) :
    map.attachPermId ibkrOrderId permId =
      map.rewrite { record.toBrokerOrderRecordFields with permId := some permId } := by
  rw [attachPermId, looked]
  rfl

theorem markStatus_of_found (looked : map.byIbkrOrderId ibkrOrderId = .ok record) (status : String)
    (now : DateTime) :
    map.markStatus ibkrOrderId status now =
      map.rewrite { record.toBrokerOrderRecordFields with
        status, lastBrokerStatusAt := some now } := by
  rw [markStatus, looked]
  rfl

theorem attachIbkrOrderId_of_found {clientOrderId : String}
    (looked : map.requireClientOrderId clientOrderId = .ok record) (ibkrOrderId : String) :
    map.attachIbkrOrderId clientOrderId ibkrOrderId =
      map.rewrite { record.toBrokerOrderRecordFields with ibkrOrderId := some ibkrOrderId } := by
  rw [attachIbkrOrderId, looked]
  rfl

variable (indexed : map.Indexed) (holds : map.Holds record) {permId : String}

theorem perm_valid (record : BrokerOrderRecord) (shown : isBlank permId = false) :
    firstFailure ({ record.toBrokerOrderRecordFields with
      permId := some permId } : BrokerOrderRecordFields).checks = none := by
  obtain ⟨client, ibkr, -, status⟩ := valid_checks record
  rw [firstFailure_none]
  simp only [checks, List.forall_mem_cons, Option.any_some]
  exact ⟨client, ibkr, shown, status, by simp⟩

theorem ibkr_valid (record : BrokerOrderRecord) (shown : isBlank ibkrOrderId = false) :
    firstFailure ({ record.toBrokerOrderRecordFields with
      ibkrOrderId := some ibkrOrderId } : BrokerOrderRecordFields).checks = none := by
  obtain ⟨client, -, perm, status⟩ := valid_checks record
  rw [firstFailure_none]
  simp only [checks, List.forall_mem_cons, Option.any_some]
  exact ⟨client, shown, perm, status, by simp⟩

include indexed holds

theorem attachPermId_free (has : record.ibkrOrderId = some ibkrOrderId)
    (shown : isBlank permId = false)
    (free : ¬ map.HeldElsewhere (·.permId) permId record.clientOrderId) :
    ∃ updated after, map.attachPermId ibkrOrderId permId = .ok (updated, after) ∧
      updated.toBrokerOrderRecordFields =
        { record.toBrokerOrderRecordFields with permId := some permId } ∧
      Rewrites map updated after := by
  rw [attachPermId_of_found (byIbkrOrderId_of_holds indexed holds has)]
  exact rewrite_free indexed holds rfl rfl (perm_valid record shown) (holds.free indexed).2.1
    ((not_taken_iff indexed.perm permId _).mpr free)

theorem attachPermId_taken (has : record.ibkrOrderId = some ibkrOrderId)
    (shown : isBlank permId = false)
    (elsewhere : map.HeldElsewhere (·.permId) permId record.clientOrderId) :
    ∃ msg, map.attachPermId ibkrOrderId permId = .error (.valueError msg) := by
  rw [attachPermId_of_found (byIbkrOrderId_of_holds indexed holds has)]
  exact @rewrite_taken map record _ rfl (perm_valid record shown)
    (.inr ((taken_iff indexed.perm permId _).mpr elsewhere))

theorem markStatus_found (has : record.ibkrOrderId = some ibkrOrderId) {status : String}
    (shown : isBlank status = false) (now : DateTime) :
    ∃ updated after, map.markStatus ibkrOrderId status now = .ok (updated, after) ∧
      updated.toBrokerOrderRecordFields = { record.toBrokerOrderRecordFields with
        status, lastBrokerStatusAt := some now } ∧
      Rewrites map updated after := by
  have valid : firstFailure ({ record.toBrokerOrderRecordFields with
      status, lastBrokerStatusAt := some now } : BrokerOrderRecordFields).checks =
      none := by
    obtain ⟨client, ibkr, perm, -⟩ := valid_checks record
    rw [firstFailure_none]
    simp only [checks, List.forall_mem_cons]
    exact ⟨client, ibkr, perm, shown, by simp⟩
  rw [markStatus_of_found (byIbkrOrderId_of_holds indexed holds has)]
  exact rewrite_free indexed holds rfl rfl valid (holds.free indexed).2.1 (holds.free indexed).2.2

omit indexed in
theorem requireClientOrderId_of_holds :
    map.requireClientOrderId record.clientOrderId = .ok record := by
  have shown := (valid_checks record).1
  rw [requireClientOrderId, if_neg (Bool.eq_false_iff.mp shown), holds]

theorem attachIbkrOrderId_free (shown : isBlank ibkrOrderId = false)
    (free : ¬ map.HeldElsewhere (·.ibkrOrderId) ibkrOrderId record.clientOrderId) :
    ∃ updated after, map.attachIbkrOrderId record.clientOrderId ibkrOrderId = .ok (updated, after) ∧
      updated.toBrokerOrderRecordFields =
        { record.toBrokerOrderRecordFields with ibkrOrderId := some ibkrOrderId } ∧
      Rewrites map updated after := by
  rw [attachIbkrOrderId_of_found (requireClientOrderId_of_holds holds)]
  exact rewrite_free indexed holds rfl rfl (ibkr_valid record shown)
    ((not_taken_iff indexed.ibkr ibkrOrderId _).mpr free) (holds.free indexed).2.2

theorem attachIbkrOrderId_taken (shown : isBlank ibkrOrderId = false)
    (elsewhere : map.HeldElsewhere (·.ibkrOrderId) ibkrOrderId record.clientOrderId) :
    ∃ msg, map.attachIbkrOrderId record.clientOrderId ibkrOrderId =
      .error (.valueError msg) := by
  rw [attachIbkrOrderId_of_found (requireClientOrderId_of_holds holds)]
  exact @rewrite_taken map record _ rfl (ibkr_valid record shown)
    (.inl ((taken_iff indexed.ibkr ibkrOrderId _).mpr elsewhere))

end BrokerOrderMap

end Qts
