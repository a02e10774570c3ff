import Qts.RuntimeEvents

/-! # Schema migrations -/

namespace Qts

/-- One registered hop: the version it leads to and the change of the payload. -/
structure MigrationHop where
  toVersion : String
  migrate : JsonObject → Except EventFailure JsonObject

structure SchemaMigrationRegistry where
  migrations : Dict (String × String) MigrationHop
  advances : ∀ key hop, migrations.get? key = some hop → hop.toVersion ≠ key.2

namespace SchemaMigrationRegistry

def empty : SchemaMigrationRegistry where
  migrations := .empty
  advances := by
    rintro key hop ⟨⟩

def register (registry : SchemaMigrationRegistry) (kind fromVersion toVersion : String)
    (migrate : JsonObject → Except EventFailure JsonObject) :
    Except EventFailure SchemaMigrationRegistry :=
  if differ : fromVersion = toVersion then
    .error (.valueError "from_version and to_version must differ")
  else if registry.migrations.get? (kind, fromVersion) ≠ none then
    .error (.valueError ("migration already registered for kind='" ++ kind ++
      "' from_version='" ++ fromVersion ++ "'"))
  else .ok {
    migrations := registry.migrations.set (kind, fromVersion) ⟨toVersion, migrate⟩
    advances := by
      intro key hop found
      rw [Dict.get?_set] at found
      split at found
      · next same =>
        cases found
        rw [same]
        exact Ne.symm differ
      · exact registry.advances key hop found }

/-- The hops from versions that were not met yet. -/
def unmet (registry : SchemaMigrationRegistry) (seen : List String) : Nat :=
  (registry.migrations.keys.filter fun key => key.2 ∉ seen).length

variable {registry : SchemaMigrationRegistry}

theorem unmet_cons {key : String × String} {hop : MigrationHop}
    (found : registry.migrations.get? key = some hop) {seen : List String} (fresh : key.2 ∉ seen) :
    registry.unmet (key.2 :: seen) < registry.unmet seen := by
  have registered : key ∈ registry.migrations.keys :=
    (registry.migrations.mem_keys_iff).mpr ⟨hop, found⟩
  have narrower : (registry.migrations.keys.filter fun other => other.2 ∉ key.2 :: seen) =
      (registry.migrations.keys.filter fun other => other.2 ∉ seen).filter
        fun other => other.2 ≠ key.2 := by
    rw [List.filter_filter]
    apply List.filter_congr
    intro other _
    simp [not_or]
  have among : key ∈ registry.migrations.keys.filter fun other => other.2 ∉ seen :=
    List.mem_filter.mpr ⟨registered, by simpa using fresh⟩
  rw [unmet, unmet, narrower]
  apply List.length_filter_lt_length_iff_exists.mpr
  exact ⟨key, among, by simp⟩

variable {texts : EventTexts}

def hopFields (event : RuntimeEvent texts) (hop : MigrationHop) (payload : JsonObject) :
    RuntimeEventFields :=
  { event.toRuntimeEventFields with
    payload, payloadSchemaVersion := hop.toVersion }

/-- Advance an event from the versions that were met before. -/
def applyFrom (registry : SchemaMigrationRegistry) (seen : List String) (appliedAny : Bool)
    (event : RuntimeEvent texts) : Except EventFailure (RuntimeEvent texts) :=
  if _fresh : event.payloadSchemaVersion ∈ seen then
    .error (.migrationCycle event.kind event.payloadSchemaVersion)
  else
    match _found : registry.migrations.get? (event.kind, event.payloadSchemaVersion) with
    | none =>
      if appliedAny = false ∧ event.payloadSchemaVersion ≠ "1" then
        .error (.migrationMissing event.kind event.payloadSchemaVersion)
      else .ok event
    | some hop =>
      match hop.migrate event.payload with
      | .error failure => .error failure
      | .ok payload =>
        match (hopFields event hop payload).create texts with
        | .error failure => .error failure
        | .ok next => registry.applyFrom (event.payloadSchemaVersion :: seen) true next
termination_by registry.unmet seen
decreasing_by exact unmet_cons _found _fresh

def apply (registry : SchemaMigrationRegistry) (event : RuntimeEvent texts) :
    Except EventFailure (RuntimeEvent texts) :=
  registry.applyFrom [] false event

/-- The version that is reached was not met on the way. -/
theorem applyFrom_unmet {seen : List String} {appliedAny : Bool} {event result : RuntimeEvent texts}
    (applied : registry.applyFrom seen appliedAny event = .ok result) :
    result.payloadSchemaVersion ∉ seen := by
  fun_induction applyFrom registry seen appliedAny event with
  | case1 => cases applied
  | case2 => cases applied
  | case3 seen appliedAny event fresh found current =>
    cases applied
    exact fresh
  | case4 => cases applied
  | case5 => cases applied
  | case6 seen appliedAny event fresh hop found payload migrated next created ih =>
    exact fun mem => ih applied (List.mem_cons_of_mem _ mem)

/-- An event of the current version that no hop leaves. -/
def Current (registry : SchemaMigrationRegistry) (event : RuntimeEvent texts) : Prop :=
  registry.migrations.get? (event.kind, event.payloadSchemaVersion) = none ∧
    event.payloadSchemaVersion = "1"

theorem apply_current {event : RuntimeEvent texts} (current : registry.Current event) :
    registry.apply event = .ok event := by
  obtain ⟨none, version⟩ := current
  rw [apply, applyFrom]
  simp only [List.not_mem_nil, dite_false]
  split
  · simp [version]
  · next found =>
    rw [none] at found
    cases found

theorem current_of_apply {event result : RuntimeEvent texts}
    (applied : registry.apply event = .ok result)
    (same : result.payloadSchemaVersion = event.payloadSchemaVersion) : registry.Current event := by
  rw [apply, applyFrom] at applied
  simp only [List.not_mem_nil, dite_false] at applied
  split at applied
  · next none =>
    split at applied
    · cases applied
    · next current => exact ⟨none, by simpa using current⟩
  · split at applied
    · cases applied
    · split at applied
      · cases applied
      · have moved := applyFrom_unmet applied
        exact absurd (List.mem_singleton.mpr same) moved

theorem apply_hop {event next : RuntimeEvent texts} {hop : MigrationHop} {payload : JsonObject}
    (found : registry.migrations.get? (event.kind, event.payloadSchemaVersion) = some hop)
    (migrated : hop.migrate event.payload = .ok payload)
    (created : (hopFields event hop payload).create texts = .ok next)
    (last : registry.migrations.get? (event.kind, hop.toVersion) = none) :
    registry.apply event = .ok next := by
  have fields := RuntimeEventFields.create_eq_ok created
  have kind : next.kind = event.kind := by
    rw [fields]
    rfl
  have version : next.payloadSchemaVersion = hop.toVersion := by
    rw [fields]
    rfl
  have differs : hop.toVersion ≠ event.payloadSchemaVersion := registry.advances _ _ found
  have lastStep : registry.applyFrom [event.payloadSchemaVersion] true next = .ok next := by
    rw [applyFrom]
    simp only [version, List.mem_singleton, differs, dite_false, kind]
    split
    · simp
    · next again =>
      rw [kind, version, last] at again
      cases again
  rw [apply, applyFrom]
  simp only [List.not_mem_nil, dite_false]
  split
  · next none =>
    rw [found] at none
    cases none
  · next first =>
    cases found.symm.trans first
    simp only [migrated, created]
    exact lastStep

/-- Tag a payload of version 0 with its audit field. -/
def accountPositionClosedV0ToV1 (payload : JsonObject) : Except EventFailure JsonObject :=
  .ok (payload.set "schema_audit" (.string "migrated_v0_to_v1"))

def canonicalRuntimeEventMigrations : Except EventFailure SchemaMigrationRegistry :=
  empty.register "account.position_closed" "0" "1" accountPositionClosedV0ToV1

end SchemaMigrationRegistry

end Qts
