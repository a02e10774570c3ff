import Qts.EventLogRoundTrip

/-! # Agreement of the event stores -/

namespace Qts

open RuntimeEventFields SchemaMigrationRegistry List StoredEvent

theorem selects_alike {First Second : Type} {first : List First} {second : List Second}
    {select : First → Bool} {other : Second → Bool} (lengths : first.length = second.length)
    (same : ∀ count, ((first.drop count).filter select).length =
      ((second.drop count).filter other).length) :
    Forall₂ (fun item counterpart => select item = other counterpart) first second := by
  induction first generalizing second with
  | nil =>
    cases second with
    | nil => exact .nil
    | cons => cases lengths
  | cons item rest ih =>
    cases second with
    | nil => cases lengths
    | cons counterpart others =>
      have later : Forall₂ (fun item counterpart => select item = other counterpart)
          rest others := ih (Nat.succ.inj lengths) fun count => same (count + 1)
      refine .cons ?_ later
      have all := same 0
      have tail := same 1
      simp only [drop_zero, drop_one, tail_cons, filter_cons] at all tail
      cases picked : select item <;> cases chosen : other counterpart <;>
        simp only [picked, chosen, if_true, Bool.false_eq_true, if_false, length_cons]
          at all ⊢ <;> omega

namespace EventLog

open FileEventStore InMemoryEventStore

variable {texts : EventTexts}

/-- Both replays return, and the same events up to ingest time and key order. -/
def Returns (memory file : Except EventFailure (List (StoredEvent texts))) : Prop :=
  ∃ events back, memory = .ok events ∧ file = .ok back ∧
    Forall₂ Same events back

/-- The two stores answer every replay alike. -/
structure Agree (memory : InMemoryEventStore texts) (file : FileEventStore) : Prop where
  replay : ∀ key, Returns (memory.replay key) (file.replay texts key)
  replayAfter : ∀ sequence, 0 ≤ sequence → ∀ key,
    Returns (memory.replayAfter sequence key) (file.replayAfter texts sequence key)
  byCorrelationId : ∀ correlationId,
    Returns (memory.byCorrelationId correlationId) (file.byCorrelationId texts correlationId)

/-- An event that neither store changes: it is numbered, no hop leaves its version, and the text of
its partition key does not depend on the order of keys. -/
def Plain (registry : SchemaMigrationRegistry) : StoredEvent texts → Prop
  | .base _ => True
  | .runtime event =>
    event.sequenceNo.isSome = true ∧ registry.Current event ∧
      (StoredEvent.runtime event).reread.partitionKey = (StoredEvent.runtime event).partitionKey

def memory (log : EventLog texts) (registry : SchemaMigrationRegistry) :
    InMemoryEventStore texts where
  events := log.appended
  migrationRegistry := registry

/-- An event and what its line reads back as. -/
def ReadsAs (event read : StoredEvent texts) : Prop :=
  ∃ now, read = (event.ingestedAt now).reread

variable {event read : StoredEvent texts}

theorem ReadsAs.partitionKey (reads : ReadsAs event read) :
    read.partitionKey = event.reread.partitionKey := by
  obtain ⟨now, rfl⟩ := reads
  cases event <;> rfl

theorem ReadsAs.correlationId (reads : ReadsAs event read) :
    read.correlationId = event.correlationId := by
  obtain ⟨now, rfl⟩ := reads
  cases event <;> rfl

theorem StoredEvent.Same.symm {first second : StoredEvent texts}
    (same : Same first second) : Same second first := by
  cases same with
  | base event => exact .base event
  | @runtime first second fields =>
    apply StoredEvent.Same.runtime
    rw [← fields]
    rfl

theorem ReadsAs.same (reads : ReadsAs event read) : Same event read := by
  obtain ⟨now, rfl⟩ := reads
  exact StoredEvent.Same.symm (event.reread_same now)

variable {registry : SchemaMigrationRegistry}

theorem Plain.partitionKey {event : StoredEvent texts} (plain : Plain registry event) :
    event.reread.partitionKey = event.partitionKey := by
  cases event with
  | base event => rfl
  | runtime event => exact plain.2.2

theorem Plain.numbered {event : StoredEvent texts} (plain : Plain registry event) :
    event.Numbered := by
  cases event with
  | base event => trivial
  | runtime event => exact plain.1

variable {store : InMemoryEventStore texts}

theorem Plain.withMigration {event : StoredEvent texts}
    (plain : Plain store.migrationRegistry event) : store.withMigration event = .ok event := by
  cases event with
  | base event => rfl
  | runtime event =>
    simp only [InMemoryEventStore.withMigration, apply_current plain.2.1]
    rfl

theorem mapM_withMigration {events : List (StoredEvent texts)}
    (plain : ∀ event ∈ events, Plain store.migrationRegistry event) :
    events.mapM store.withMigration = .ok events := by
  rw [mapM_eq_ok_iff]
  apply forall₂_same.mpr
  intro event mem
  exact (plain event mem).withMigration

theorem filter_after {lines : List EventRecord} {offset : Nat}
    (numbers : lines.map EventRecord.sequence =
      (range lines.length).map fun index : Nat => (offset : Int) + index + 1) (count : Nat) :
    lines.filter (fun line => decide (((offset + count : Nat) : Int) < line.sequence)) =
      lines.drop count := by
  induction lines generalizing offset count with
  | nil => simp
  | cons line rest ih =>
    rw [map_cons, length_cons, range_succ_eq_map, map_cons, map_map]
      at numbers
    obtain ⟨head, tail⟩ := cons.inj numbers
    have later : rest.map EventRecord.sequence = (range rest.length).map
        fun index : Nat => ((offset + 1 : Nat) : Int) + index + 1 := by
      rw [tail]
      apply map_congr_left
      intro index _
      simp only [Function.comp_apply]
      omega
    cases count with
    | zero =>
      have all := ih later 0
      rw [drop_zero] at all ⊢
      rw [filter_cons_of_pos (by simp only [decide_eq_true_eq]; omega)]
      congr 1
      rw [filter_eq_self] at all ⊢
      intro other mem
      have bound := all other mem
      simp only [decide_eq_true_eq] at bound ⊢
      omega
    | succ count =>
      rw [filter_cons_of_neg (by simp only [decide_eq_true_eq]; omega), drop_succ_cons]
      have shifted := ih later count
      rwa [show offset + 1 + count = offset + (count + 1) by omega] at shifted

variable {log : EventLog texts}

theorem Recorded.linesAfter (recorded : Recorded log) {sequence : Int} (nonnegative : 0 ≤ sequence)
    :
    log.store.lines.filter (fun line => decide (sequence < line.sequence)) =
      log.store.lines.drop sequence.toNat := by
  have lengths : log.store.lines.length = log.appended.length := recorded.lines.length_eq
  have numbers : log.store.lines.map EventRecord.sequence =
      (List.range log.store.lines.length).map
        fun index : Nat => ((0 : Nat) : Int) + index + 1 := by
    rw [lengths]
    simpa [sequences, numbersUpTo] using recorded.numbers
  have after := filter_after numbers sequence.toNat
  rwa [Nat.zero_add, Int.toNat_of_nonneg nonnegative] at after

theorem file_replays (recorded : Recorded log) {back : List (StoredEvent texts)}
    (reads : log.store.lines.mapM (EventRecord.read texts) = .ok back) :
    (∀ key, log.store.replay texts key = .ok (back.filter (replayedUnder key))) ∧
      (∀ sequence, 0 ≤ sequence → ∀ key, log.store.replayAfter texts sequence key =
        .ok ((back.drop sequence.toNat).filter (replayedUnder key))) ∧
      ∀ correlationId, log.store.byCorrelationId texts correlationId =
        .ok (back.filter fun event => decide (event.correlationId = some correlationId)) := by
  refine ⟨?_, ?_, ?_⟩
  · intro key
    simp only [FileEventStore.replay, reads, bind, Except.bind]
    rfl
  · intro sequence nonnegative key
    have dropped : (log.store.lines.drop sequence.toNat).mapM (EventRecord.read texts) =
        .ok (back.drop sequence.toNat) :=
      mapM_eq_ok_iff.mpr (forall₂_drop _ (mapM_eq_ok_iff.mp reads))
    have pos : ¬ sequence < 0 := by omega
    simp only [FileEventStore.replayAfter, pos, if_false, recorded.linesAfter nonnegative,
      dropped, bind, Except.bind]
    rfl
  · intro correlationId
    simp only [FileEventStore.byCorrelationId, replay_none, reads, bind, Except.bind]
    rfl

theorem returns_selected {events back : List (StoredEvent texts)}
    (related : Forall₂
      (fun event read => Plain store.migrationRegistry event ∧ ReadsAs event read) events back)
    {select : StoredEvent texts → Bool}
    (alike : ∀ event read, Plain store.migrationRegistry event ∧ ReadsAs event read →
      select event = select read) :
    Returns ((events.filter select).mapM store.withMigration) (.ok (back.filter select)) := by
  have selected : Forall₂
      (fun event read => Plain store.migrationRegistry event ∧ ReadsAs event read)
      (events.filter select) (back.filter select) := by
    refine rel_filter ?_ related
    intro event read pair
    exact iff_of_eq (congrArg (· = true) (alike event read pair))
  have plain : ∀ event ∈ events.filter select, Plain store.migrationRegistry event :=
    ((forall₂_and_left _ _).mp selected).1
  exact ⟨_, _, mapM_withMigration plain, rfl, selected.imp fun _ _ pair => pair.2.same⟩

theorem agree_of_plain (recorded : Recorded log)
    (plain : ∀ event ∈ log.appended, Plain registry event) :
    Agree (log.memory registry) log.store := by
  obtain ⟨back, reads, rereads⟩ := lines_read recorded.lines
    fun event mem => (plain event mem).numbered
  obtain ⟨replays, replaysAfter, byCorrelation⟩ := file_replays recorded reads
  have related : Forall₂ (fun event read => Plain registry event ∧ ReadsAs event read)
      log.appended back := by
    rw [forall₂_and_left]
    exact ⟨plain, rereads.flip⟩
  have underKey : ∀ key (event read : StoredEvent texts),
      Plain registry event ∧ ReadsAs event read →
        replayedUnder key event = replayedUnder key read := by
    rintro key event read ⟨plain, reads⟩
    cases key with
    | none => rfl
    | some key => simp only [replayedUnder, Option.all_some, reads.partitionKey, plain.partitionKey]
  refine ⟨?_, ?_, ?_⟩
  · intro key
    rw [replays]
    exact returns_selected related (underKey key)
  · intro sequence nonnegative key
    have pos : ¬ sequence < 0 := by omega
    rw [replaysAfter sequence nonnegative]
    simp only [InMemoryEventStore.replayAfter, pos, if_false]
    exact returns_selected (forall₂_drop _ related) (underKey key)
  · intro correlationId
    rw [byCorrelation]
    apply returns_selected related
    rintro event read ⟨_, reads⟩
    rw [reads.correlationId]

theorem current_of_same {event : RuntimeEvent texts} {migrated read : StoredEvent texts}
    (applied : store.withMigration (.runtime event) = .ok migrated)
    (reads : ReadsAs (.runtime event) read) (same : Same migrated read) :
    store.migrationRegistry.Current event := by
  simp only [withMigration] at applied
  cases result : store.migrationRegistry.apply event with
  | error failure =>
    rw [result] at applied
    cases applied
  | ok next =>
    rw [result] at applied
    cases applied
    obtain ⟨now, rfl⟩ := reads
    cases same with
    | runtime fields =>
      have versions := congrArg payloadSchemaVersion fields
      exact current_of_apply result versions

theorem keys_of_agree (recorded : Recorded log) (agree : Agree (log.memory registry) log.store)
    {back : List (StoredEvent texts)}
    (reads : log.store.lines.mapM (EventRecord.read texts) = .ok back)
    (lengths : log.appended.length = back.length) (key : String) :
    Forall₂ (fun event read => replayedUnder (some key) event = replayedUnder (some key) read)
      log.appended back := by
  apply selects_alike lengths
  intro count
  obtain ⟨events, found, replayed, returned, same⟩ :=
    agree.replayAfter count (Int.natCast_nonneg count) (some key)
  have nonnegative : ¬ (count : Int) < 0 := by omega
  simp only [InMemoryEventStore.replayAfter, nonnegative, if_false, Int.toNat_natCast] at replayed
  rw [(file_replays recorded reads).2.1 count (Int.natCast_nonneg count) (some key),
    Int.toNat_natCast] at returned
  cases returned
  have selected := (mapM_eq_ok_iff.mp replayed).length_eq
  exact selected.trans same.length_eq

theorem plain_of_agree (recorded : Recorded log) (agree : Agree (log.memory registry) log.store) :
    ∀ event ∈ log.appended, Plain registry event := by
  obtain ⟨migrated, back, applied, replayed, same⟩ := agree.replay none
  have everything : log.appended.filter (replayedUnder none) = log.appended :=
    filter_eq_self.mpr fun _ _ => rfl
  rw [InMemoryEventStore.replay, show (log.memory registry).events = log.appended from rfl,
    everything] at applied
  rw [replay_none] at replayed
  have numbered := numbered_of_lines_read recorded.lines replayed
  obtain ⟨found, reads, rereads⟩ := lines_read recorded.lines numbered
  obtain rfl : back = found := ok_unique replayed reads
  have lengths : log.appended.length = back.length := rereads.length_eq.symm
  intro event mem
  obtain ⟨index, bound, rfl⟩ := mem_iff_getElem.mp mem
  have readBound : index < back.length := lengths ▸ bound
  have readsAs : ReadsAs log.appended[index] back[index] := rereads.get readBound bound
  have key : back[index].partitionKey = log.appended[index].partitionKey := by
    have alike : replayedUnder (some log.appended[index].partitionKey) log.appended[index] =
        replayedUnder (some log.appended[index].partitionKey) back[index] :=
      (keys_of_agree recorded agree replayed lengths _).get bound readBound
    simpa [replayedUnder] using alike
  cases shape : log.appended[index] with
  | base event => trivial
  | runtime event =>
    have own := numbered _ mem
    rw [shape] at own readsAs key
    have migratedBound : index < migrated.length :=
      (mapM_eq_ok_iff.mp applied).length_eq ▸ bound
    have appliedHere : (log.memory registry).withMigration log.appended[index] =
        .ok migrated[index] := (mapM_eq_ok_iff.mp applied).get bound migratedBound
    rw [shape] at appliedHere
    have sameHere : StoredEvent.Same migrated[index] back[index] :=
      same.get migratedBound readBound
    exact ⟨own, current_of_same appliedHere readsAs sameHere, readsAs.partitionKey.symm.trans key⟩

/-- In every run of one writer the file and the store in memory that was given the same accepted
events replay the same, for every partition key, sequence and correlation id, exactly when each
runtime event is plain. -/
theorem stores_agree_iff (texts : EventTexts) (registry : SchemaMigrationRegistry)
    (singleWriter : Bool) (commands : List (EventLogCommand texts)) :
    let log := StepRuns.final step (init singleWriter) commands
    Agree (log.memory registry) log.store ↔ ∀ event ∈ log.appended, Plain registry event := by
  intro log
  have recorded : Recorded log := final_recorded singleWriter commands
  exact ⟨plain_of_agree recorded, agree_of_plain recorded⟩

def historicalEvent (version : String) (payload : JsonObject) : RuntimeEvent sampleTexts where
  kind := "account.position_closed"
  payload := payload
  eventId := some ⟨⟨"evt-001", Eq.refl false⟩⟩
  runId := some ⟨⟨"run-001", Eq.refl false⟩⟩
  mode := some "paper"
  sequenceNo := some 1
  tsEvent := 0
  tsIngest := 0
  payloadSchemaVersion := version
  valid := by
    -- the kind starts with none of the traced prefixes, whatever the payload
    have untraced : PythonText.startsWith (sampleTexts.lower "account.position_closed")
        ["runtime.order", "order.", "order_", "runtime.risk", "risk.", "risk_", "runtime.fill",
          "fill.", "fill_", "runtime.broker_report", "broker_report", "runtime.broker_rejected",
          "broker_rejected"] = false := by decide +kernel
    have unordered : PythonText.startsWith (sampleTexts.lower "account.position_closed")
        ["runtime.order", "order.", "order_", "runtime.broker_report", "broker_report",
          "runtime.fill", "fill.", "fill_"] = false := by decide +kernel
    have unfilled : PythonText.startsWith (sampleTexts.lower "account.position_closed")
        ["runtime.fill", "fill.", "fill_"] = false := by decide +kernel
    simp only [checks, requiresCorrelationId, requiresClientOrderId, requiresCausationId, untraced,
      unordered, unfilled, Bool.false_and]
    rfl

/-- An event of version 0 is replayed as version 1 from memory and as version 0 from the file. -/
theorem migration_only_in_memory :
    let log := StepRuns.final step (init true) [.append (.runtime (historicalEvent "0" .empty)) 0]
    ∃ registry, canonicalRuntimeEventMigrations = .ok registry ∧
      (log.memory registry).replay none = .ok [.runtime (historicalEvent "1"
        (.ofItems [("schema_audit", .string "migrated_v0_to_v1")]))] ∧
      log.store.replay sampleTexts none = .ok [.runtime (historicalEvent "0" .empty)] ∧
      ¬ Agree (log.memory registry) log.store := by
  intro log
  have recorded : Recorded log := final_recorded true _
  obtain ⟨registry, built⟩ :
      ∃ registry, canonicalRuntimeEventMigrations = .ok registry :=
    ⟨_, rfl⟩
  refine ⟨registry, built, ?_, rfl, ?_⟩
  · have advanced : registry.apply (historicalEvent "0" .empty) = .ok (historicalEvent "1"
        (.ofItems [("schema_audit", .string "migrated_v0_to_v1")])) := by
      cases built
      exact apply_hop rfl rfl
        (create_valid (historicalEvent "1" _)) rfl
    have replayed : (log.memory registry).replay none =
        [StoredEvent.runtime (historicalEvent "0" .empty)].mapM
          (log.memory registry).withMigration := rfl
    rw [replayed, mapM_eq_ok_iff]
    refine .cons ?_ .nil
    simp only [InMemoryEventStore.withMigration, EventLog.memory, advanced]
    rfl
  · intro agree
    have plain := plain_of_agree recorded agree _ mem_cons_self
    exact absurd plain.2.1.2 (by decide)

end EventLog

end Qts
