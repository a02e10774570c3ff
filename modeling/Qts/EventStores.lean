import Mathlib.Data.List.Range
import Qts.SchemaMigrations
import Qts.StepRuns

/-! # Event stores -/

namespace Qts

structure InMemoryEventStore (texts : EventTexts) where
  events : List (StoredEvent texts) := []
  migrationRegistry : SchemaMigrationRegistry

namespace InMemoryEventStore

variable {texts : EventTexts} (store : InMemoryEventStore texts)

def withMigration : StoredEvent texts → Except EventFailure (StoredEvent texts)
  | .base event => .ok (.base event)
  | .runtime event => do
    let event ← store.migrationRegistry.apply event
    return .runtime event

def replayedUnder (key : Option String) (event : StoredEvent texts) : Bool :=
  key.all fun key => decide (event.partitionKey = key)

def replay (key : Option String) : Except EventFailure (List (StoredEvent texts)) :=
  (store.events.filter (replayedUnder key)).mapM store.withMigration

def replayAfter (sequence : Int) (key : Option String) :
    Except EventFailure (List (StoredEvent texts)) :=
  if sequence < 0 then .error (.valueError "sequence must be non-negative")
  else ((store.events.drop sequence.toNat).filter (replayedUnder key)).mapM store.withMigration

/-- Replay migrated events matching the given correlation identifier. -/
def byCorrelationId (correlationId : CorrelationId) :
    Except EventFailure (List (StoredEvent texts)) :=
  (store.events.filter fun event => decide (event.correlationId = some correlationId)).mapM
    store.withMigration

end InMemoryEventStore

/-- One line of the file. -/
inductive EventRecord
  | event (sequence : Int) (row : BaseEnvelope)
  | runtimeEvent (sequence : Int) (row : RuntimeEnvelope)

namespace EventRecord

def sequence : EventRecord → Int
  | event sequence _ => sequence
  | runtimeEvent sequence _ => sequence

def read (texts : EventTexts) : EventRecord → Except EventFailure (StoredEvent texts)
  | event _ row => do
    let event ← BaseEvent.fromEnvelope row
    return .base event
  | runtimeEvent _ row => do
    let event ← RuntimeEvent.fromEnvelope texts row
    return .runtime event

end EventRecord

structure EventSequenceValidationReport where
  valid : Bool
  missingSequences : List Int := []
  duplicateSequences : List Int := []

structure FileEventStore where
  lines : List EventRecord
  nextSequence : Int
  /-- Counts the openings; the latest one is the store that is used. -/
  opening : Nat := 0
  lockHolder : Option Nat := none
  singleWriter : Bool := true

namespace FileEventStore

variable (texts : EventTexts)

def sequences (store : FileEventStore) : List Int :=
  store.lines.map EventRecord.sequence

def highestSequence (lines : List EventRecord) : Int :=
  ((lines.map EventRecord.sequence).max?).getD 0

def openFile (store : FileEventStore) : FileEventStore :=
  { store with
    nextSequence := highestSequence store.lines + 1
    opening := store.opening + 1 }

def acquireWriterLock (store : FileEventStore) : Except EventFailure FileEventStore :=
  if store.singleWriter = false then .ok store
  else
    match store.lockHolder with
    | none => .ok { store with lockHolder := some store.opening }
    | some holder =>
      if holder = store.opening then .ok store else .error .singleWriterViolation

def lineOf {texts : EventTexts} (sequence : Int) (now : DateTime) :
    StoredEvent texts → Except EventFailure EventRecord
  | .base event => .ok (.event sequence event.toEnvelope)
  | .runtime event => do
    let fields : RuntimeEventFields := { event.toRuntimeEventFields with tsIngest := now }
    let event ← fields.create texts
    (event.toEnvelope (some sequence)).requireCanonicalEnvelope
    -- the envelope that is written is not the one that was checked
    return .runtimeEvent sequence (event.toEnvelope none).written

def append {texts : EventTexts} (store : FileEventStore) (event : StoredEvent texts)
    (now : DateTime) : Except EventFailure Int × FileEventStore :=
  match store.acquireWriterLock with
  | .error failure => (.error failure, store)
  | .ok store =>
    match lineOf store.nextSequence now event with
    | .error failure => (.error failure, store)
    | .ok line =>
      (.ok store.nextSequence, { store with
        lines := store.lines ++ [line], nextSequence := store.nextSequence + 1 })

def close (store : FileEventStore) : FileEventStore :=
  if store.lockHolder = some store.opening then { store with lockHolder := none } else store

def collect (store : FileEventStore) : FileEventStore :=
  if store.lockHolder = some store.opening then store else { store with lockHolder := none }

def replay (store : FileEventStore) (key : Option String) :
    Except EventFailure (List (StoredEvent texts)) := do
  let events ← store.lines.mapM (EventRecord.read texts)
  return events.filter (InMemoryEventStore.replayedUnder key)

def replayAfter (store : FileEventStore) (sequence : Int) (key : Option String) :
    Except EventFailure (List (StoredEvent texts)) :=
  if sequence < 0 then .error (.valueError "sequence must be non-negative")
  else do
    let events ← (store.lines.filter fun line => decide (sequence < line.sequence)).mapM
      (EventRecord.read texts)
    return events.filter (InMemoryEventStore.replayedUnder key)

/-- Read all persisted events matching the given correlation identifier. -/
def byCorrelationId (store : FileEventStore) (correlationId : CorrelationId) :
    Except EventFailure (List (StoredEvent texts)) := do
  let events ← store.replay texts none
  return events.filter fun event => decide (event.correlationId = some correlationId)

/-- The sequences met so far and those met twice, after one more. -/
def noteSequence (noted : List Int × List Int) (sequence : Int) : List Int × List Int :=
  (noted.1 ++ [sequence],
    if sequence ∈ noted.1 ∧ sequence ∉ noted.2 then noted.2 ++ [sequence] else noted.2)

def validateSequence (store : FileEventStore) : EventSequenceValidationReport :=
  let (seen, duplicates) := store.sequences.foldl noteSequence ([], [])
  let highest := store.sequences.max?.getD 0
  let missing := ((List.range highest.toNat).map fun index : Nat => (index : Int) + 1).filter
    fun sequence => decide (sequence ∉ seen)
  let duplicateSequences := duplicates.insertionSort (· ≤ ·)
  { valid := missing.isEmpty && duplicateSequences.isEmpty
    missingSequences := missing
    duplicateSequences }

end FileEventStore

structure EventLog (texts : EventTexts) where
  store : FileEventStore
  appended : List (StoredEvent texts) := []

/-- What one writer does with its file. -/
inductive EventLogCommand (texts : EventTexts)
  | append (event : StoredEvent texts) (now : DateTime)
  | close
  | reopen
  | collect

namespace EventLog

variable {texts : EventTexts}

/-- A store opened on a file that does not exist yet. -/
def init (singleWriter : Bool) : EventLog texts where
  store := { lines := [], nextSequence := 1, singleWriter }

def append (log : EventLog texts) (event : StoredEvent texts) (now : DateTime) :
    Except EventFailure Int × EventLog texts :=
  match log.store.append event now with
  | (.error failure, store) => (.error failure, { log with store })
  | (.ok sequence, store) =>
    (.ok sequence, { store, appended := log.appended ++ [event] })

def step : StepRuns.Step (EventLog texts) (EventLogCommand texts) (Except EventFailure Int) :=
  fun log command =>
    match command with
    | .append event now => log.append event now
    | .close => (.ok 0, { log with store := log.store.close })
    | .reopen => (.ok 0, { log with store := log.store.openFile })
    | .collect => (.ok 0, { log with store := log.store.collect })

end EventLog

end Qts
