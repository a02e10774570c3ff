import Qts.SchemaMigrations

/-! # The chain of a migration -/

namespace Qts

open RuntimeEventFields List

namespace SchemaMigrationRegistry

variable {texts : EventTexts} {registry : SchemaMigrationRegistry} {kind version last : String}
  {hops more : List MigrationHop} {seen : List String} {appliedAny : Bool}
  {event result : RuntimeEvent texts}

inductive Route (registry : SchemaMigrationRegistry) (kind : String) :
    String → List MigrationHop → String → Prop
  | stay (version : String) : Route registry kind version [] version
  | hop {version last : String} {hop : MigrationHop} {hops : List MigrationHop}
      (found : registry.migrations.get? (kind, version) = some hop)
      (rest : Route registry kind hop.toVersion hops last) :
      Route registry kind version (hop :: hops) last

/-- No hop leaves a version. -/
def Last (registry : SchemaMigrationRegistry) (kind version : String) : Prop :=
  registry.migrations.get? (kind, version) = none

/-- The chain from a version comes to some version twice. -/
def Revisits (registry : SchemaMigrationRegistry) (kind version : String) : Prop :=
  ∃ hops again more, more ≠ [] ∧ registry.Route kind version hops again ∧
    registry.Route kind again more again

def payloadAfter (hops : List MigrationHop) (payload : JsonObject) :
    Except EventFailure JsonObject :=
  hops.foldlM (fun payload hop => hop.migrate payload) payload

/-- A kind that needs a client order id does not get one from a payload. -/
def Unshown (event : RuntimeEvent texts) (payload : JsonObject) : Prop :=
  event.requiresClientOrderId texts = true ∧
    clientOrderIdShown { event.toRuntimeEventFields with payload } = false

/-- Some hops of the chain leave a payload that the checks of the kind refuse. -/
def Refuses (registry : SchemaMigrationRegistry) (event : RuntimeEvent texts) : Prop :=
  ∃ hops version payload, hops ≠ [] ∧
    registry.Route event.kind event.payloadSchemaVersion hops version ∧
    payloadAfter hops event.payload = .ok payload ∧ Unshown event payload

/-- An event at the end of its chain. -/
structure Migrated (registry : SchemaMigrationRegistry) (event result : RuntimeEvent texts)
    (hops : List MigrationHop) : Prop where
  route : registry.Route event.kind event.payloadSchemaVersion hops result.payloadSchemaVersion
  last : registry.Last event.kind result.payloadSchemaVersion
  payload : payloadAfter hops event.payload = .ok result.payload
  fields : result.toRuntimeEventFields = { event.toRuntimeEventFields with
    payload := result.payload, payloadSchemaVersion := result.payloadSchemaVersion }

theorem Route.unique (route : registry.Route kind version hops last)
    (ends : registry.Last kind last) {other : String}
    (another : registry.Route kind version more other) :
    ∃ rest, hops = more ++ rest ∧ registry.Route kind other rest last := by
  induction another generalizing hops with
  | stay => exact ⟨hops, rfl, route⟩
  | hop found _ ih =>
    cases route with
    | stay =>
      rw [Last, found] at ends
      cases ends
    | hop other rest =>
      cases found.symm.trans other
      obtain ⟨remaining, rfl, onward⟩ := ih rest
      exact ⟨remaining, rfl, onward⟩

theorem Route.not_revisits (route : registry.Route kind version hops last)
    (ends : registry.Last kind last) : ¬ registry.Revisits kind version := by
  rintro ⟨before, again, more, moves, reaches, returns⟩
  obtain ⟨rest, -, onward⟩ := route.unique ends reaches
  obtain ⟨shorter, same, back⟩ := onward.unique ends returns
  obtain ⟨tail, rfl, -⟩ := back.unique ends onward
  have lengths := congrArg List.length same
  simp only [length_append] at lengths
  exact moves (eq_nil_of_length_eq_zero (by omega))

theorem create_hopFields (event : RuntimeEvent texts) (hop : MigrationHop) (payload : JsonObject) :
    (∃ next : RuntimeEvent texts, (hopFields event hop payload).create texts = .ok next ∧
      ¬ Unshown event payload) ∨
    (∃ failure, (hopFields event hop payload).create texts = .error failure ∧
      Unshown event payload) := by
  have before := (Check.firstFailure_none _).mp event.valid
  simp only [checks, mem_cons, not_mem_nil, or_false, forall_eq_or_imp, forall_eq] at before
  obtain ⟨correlation, -, causation, sequence⟩ := before
  have passes : Check.firstFailure ((hopFields event hop payload).checks texts) = none ↔
      ¬ Unshown event payload := by
    rw [Check.firstFailure_none]
    simp only [checks, mem_cons, not_mem_nil, or_false, forall_eq_or_imp, forall_eq]
    change _ ∧ (event.requiresClientOrderId texts && !clientOrderIdShown
      { event.toRuntimeEventFields with payload }) = false ∧ _ ∧ _ ↔ _
    constructor
    · rintro ⟨-, shown, -, -⟩ ⟨required, unshown⟩
      rw [required, unshown] at shown
      cases shown
    · intro shown
      refine ⟨correlation, ?_, causation, sequence⟩
      by_contra refused
      rw [Bool.not_eq_false, Bool.and_eq_true_iff, Bool.not_eq_true'] at refused
      exact shown refused
  unfold create
  split
  · next msg failed =>
    refine .inr ⟨_, rfl, ?_⟩
    by_contra shown
    rw [passes.mpr shown] at failed
    cases failed
  · next passed => exact .inl ⟨_, rfl, passes.mp passed⟩

theorem applyFrom_ok (applied : registry.applyFrom seen appliedAny event = .ok result) :
    ∃ hops, Migrated registry event result hops ∧
      (hops = [] → appliedAny = true ∨ event.payloadSchemaVersion = "1") ∧
      ∀ first rest payload, hops = first ++ rest → first ≠ [] →
        payloadAfter first event.payload = .ok payload → ¬ Unshown event payload := by
  fun_induction applyFrom registry seen appliedAny event with
  | case1 => cases applied
  | case2 => cases applied
  | case3 seen appliedAny event fresh found current =>
    cases applied
    refine ⟨[], ⟨.stay _, found, rfl, rfl⟩, ?_, ?_⟩
    · intro _
      cases appliedAny <;> simp_all
    · intro first rest payload split moves
      exact absurd (append_eq_nil_iff.mp split.symm).1 moves
  | case4 => cases applied
  | case5 => cases applied
  | case6 seen appliedAny event fresh hop found changed migrated next created ih =>
    obtain ⟨hops, ⟨route, last, payload, fields⟩, -, shown⟩ := ih applied
    have same := create_eq_ok created
    have alike (payload : JsonObject) : Unshown next payload ↔ Unshown event payload := by
      rw [Unshown, Unshown, same]
      exact Iff.rfl
    rw [same] at route last payload fields
    refine ⟨hop :: hops, ⟨.hop found route, last, ?_, fields⟩, by simp, ?_⟩
    · rw [payloadAfter, foldlM_cons, migrated]
      exact payload
    · intro first rest after split moves reached
      cases first with
      | nil => exact absurd rfl moves
      | cons head first =>
        obtain ⟨rfl, rfl⟩ := List.cons.inj split
        rw [payloadAfter, foldlM_cons, migrated] at reached
        cases first with
        | nil =>
          cases reached
          rcases create_hopFields event hop changed with ⟨_, -, passes⟩ | ⟨_, failed, -⟩
          · exact passes
          · rw [created] at failed
            cases failed
        | cons second first =>
          rw [← alike]
          apply shown _ rest after rfl (cons_ne_nil _ _)
          rw [same]
          exact reached

theorem applyFrom_error
    (total : ∀ key hop, registry.migrations.get? key = some hop →
      ∀ payload, ∃ changed, hop.migrate payload = .ok changed) {failure : EventFailure}
    (applied : registry.applyFrom seen appliedAny event = .error failure) :
    (∃ hops again, registry.Route event.kind event.payloadSchemaVersion hops again ∧
      (again ∈ seen ∨ ∃ more ≠ [], registry.Route event.kind again more again)) ∨
    (appliedAny = false ∧ registry.Last event.kind event.payloadSchemaVersion ∧
      event.payloadSchemaVersion ≠ "1") ∨
    Refuses registry event := by
  fun_induction applyFrom registry seen appliedAny event with
  | case1 seen appliedAny event again => exact .inl ⟨[], _, .stay _, .inl again⟩
  | case2 seen appliedAny event fresh found missing =>
      exact .inr (.inl ⟨missing.1, found, missing.2⟩)
  | case3 => cases applied
  | case4 seen appliedAny event fresh hop found failure failed =>
    obtain ⟨changed, migrated⟩ := total _ hop found event.payload
    rw [migrated] at failed
    cases failed
  | case5 seen appliedAny event fresh hop found changed migrated failure failed =>
    rcases create_hopFields event hop changed with ⟨_, passes, -⟩ | ⟨_, -, unshown⟩
    · rw [passes] at failed
      cases failed
    · refine .inr (.inr ⟨[hop], _, changed, cons_ne_nil _ _, .hop found (.stay _), ?_, unshown⟩)
      rw [payloadAfter, foldlM_cons, migrated]
      rfl
  | case6 seen appliedAny event fresh hop found changed migrated next created ih =>
    have same := create_eq_ok created
    have onward := ih applied
    rw [Refuses, same] at onward
    rcases onward with ⟨hops, again, route, repeats⟩ | ⟨⟨⟩, -⟩ | refused
    · rcases repeats with mem | cycle
      · rcases mem_cons.mp mem with rfl | mem
        · exact .inl ⟨[], _, .stay _, .inr ⟨hop :: hops, cons_ne_nil _ _, .hop found route⟩⟩
        · exact .inl ⟨hop :: hops, again, .hop found route, .inl mem⟩
      · exact .inl ⟨hop :: hops, again, .hop found route, .inr cycle⟩
    · obtain ⟨hops, version, payload, -, route, reached, unshown⟩ := refused
      refine .inr (.inr ⟨hop :: hops, version, payload, cons_ne_nil _ _, .hop found route, ?_, ?_⟩)
      · rw [payloadAfter, foldlM_cons, migrated]
        exact reached
      · rw [Unshown, same] at unshown
        exact unshown

/-- What a registry of total migrations does with any event: it raises exactly where
the chain revisits a version, has no hop for a version that is not the current one
or leads through a refused payload, and else follows the one chain to its end. -/
theorem apply_follows_chain (registry : SchemaMigrationRegistry)
    (total : ∀ key hop, registry.migrations.get? key = some hop →
      ∀ payload, ∃ changed, hop.migrate payload = .ok changed) (event : RuntimeEvent texts) :
    ((∃ failure, registry.apply event = .error failure) ↔
      registry.Revisits event.kind event.payloadSchemaVersion ∨
      (registry.Last event.kind event.payloadSchemaVersion ∧
        event.payloadSchemaVersion ≠ "1") ∨
      Refuses registry event) ∧
    ∀ result, registry.apply event = .ok result → ∃ hops, Migrated registry event result hops ∧
      ∀ others last, registry.Route event.kind event.payloadSchemaVersion others last →
        registry.Last event.kind last → others = hops := by
  constructor
  · constructor
    · rintro ⟨failure, applied⟩
      rcases applyFrom_error total applied with ⟨hops, again, route, mem | cycle⟩ | missing |
        refused
      · exact absurd mem not_mem_nil
      · obtain ⟨more, moves, returns⟩ := cycle
        exact .inl ⟨hops, again, more, moves, route, returns⟩
      · exact .inr (.inl missing.2)
      · exact .inr (.inr refused)
    · intro raises
      cases applied : registry.apply event with
      | error failure => exact ⟨failure, rfl⟩
      | ok result =>
        exfalso
        obtain ⟨hops, migrated, unmoved, shown⟩ := applyFrom_ok applied
        rcases raises with revisits | ⟨last, version⟩ | refused
        · exact migrated.route.not_revisits migrated.last revisits
        · obtain ⟨rest, split, -⟩ :=
            (Route.stay event.payloadSchemaVersion).unique last migrated.route
          rcases unmoved (append_eq_nil_iff.mp split.symm).1 with ⟨⟨⟩⟩ | current
          exact version current
        · obtain ⟨first, version, payload, moves, route, reached, unshown⟩ := refused
          obtain ⟨rest, split, -⟩ := migrated.route.unique migrated.last route
          exact shown first rest payload split moves reached unshown
  · intro result applied
    obtain ⟨hops, migrated, -, -⟩ := applyFrom_ok applied
    refine ⟨hops, migrated, ?_⟩
    intro others last route ends
    obtain ⟨rest, split, -⟩ := migrated.route.unique migrated.last route
    obtain ⟨after, again, -⟩ := route.unique ends migrated.route
    have lengths := congrArg List.length split
    rw [again, length_append, length_append] at lengths
    rw [again, eq_nil_of_length_eq_zero (by omega : after.length = 0), append_nil]

def unchangedTexts : EventTexts where
  lower := fun text => text
  json := fun
    | .string text => text
    | _ => ""
  json_string := Eq.refl

def droppingHop : MigrationHop where
  toVersion := "1"
  migrate := fun _ => .ok .empty

def droppingHops : Dict (String × String) MigrationHop :=
  .ofItems [(("order.placed", "0"), droppingHop)]

theorem droppingHops_only {key : String × String} {hop : MigrationHop}
    (found : droppingHops.get? key = some hop) :
    key = ("order.placed", "0") ∧ hop = droppingHop := by
  have mem := Dict.mem_of_get?_ofItems found
  simpa only [mem_singleton, Prod.mk.injEq] using mem

def droppingRegistry : SchemaMigrationRegistry where
  migrations := droppingHops
  advances := by
    intro key hop found
    obtain ⟨rfl, rfl⟩ := droppingHops_only found
    decide

def placedOrder : RuntimeEvent unchangedTexts where
  kind := "order.placed"
  payload := .ofItems [("client_order_id", .string "order-1")]
  tsEvent := 0
  tsIngest := 0
  correlationId := some ⟨⟨"run", rfl⟩⟩
  payloadSchemaVersion := "0"
  valid := by decide +kernel

theorem dropped_id_refuses : Refuses droppingRegistry placedOrder :=
  ⟨[droppingHop], "1", .empty, cons_ne_nil _ _, .hop rfl (.stay _), rfl, by decide +kernel,
    rfl⟩

theorem apply_follows_chain_dropped :
    ∃ failure, droppingRegistry.apply placedOrder = .error failure := by
  apply (apply_follows_chain droppingRegistry _ placedOrder).1.mpr (.inr (.inr dropped_id_refuses))
  intro key hop found payload
  obtain ⟨-, rfl⟩ := droppingHops_only found
  exact ⟨.empty, rfl⟩

/-- An event is refused though its chain is one hop to the current version. -/
theorem refused_on_plain_chain :
    (∃ failure, droppingRegistry.apply placedOrder = .error failure) ∧
      ¬ (droppingRegistry.Revisits placedOrder.kind placedOrder.payloadSchemaVersion ∨
        (droppingRegistry.Last placedOrder.kind placedOrder.payloadSchemaVersion ∧
          placedOrder.payloadSchemaVersion ≠ "1")) := by
  constructor
  · cases applied : droppingRegistry.apply placedOrder with
    | error failure => exact ⟨failure, rfl⟩
    | ok result =>
      obtain ⟨hops, migrated, -, shown⟩ := applyFrom_ok applied
      obtain ⟨first, version, payload, moves, route, reached, unshown⟩ := dropped_id_refuses
      obtain ⟨rest, split, -⟩ := migrated.route.unique migrated.last route
      exact absurd unshown (shown first rest payload split moves reached)
  · rintro (revisits | ⟨last, -⟩)
    · have chain : droppingRegistry.Route "order.placed" "0" [droppingHop] "1" :=
        .hop rfl (.stay _)
      exact chain.not_revisits rfl revisits
    · exact Option.some_ne_none droppingHop last

end SchemaMigrationRegistry

end Qts
