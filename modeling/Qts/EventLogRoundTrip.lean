import Qts.EventStores

/-! # Round trip of an event log -/

namespace Qts

open StepRuns StoredEvent List

namespace StoredEvent

variable {texts : EventTexts}

/-- A runtime event with a sequence number of its own. -/
def Numbered : StoredEvent texts → Prop
  | base _ => True
  | runtime event => event.sequenceNo.isSome = true

theorem reread_same (event : StoredEvent texts) (now : DateTime) :
    Same (event.ingestedAt now).reread event := by
  cases event with
  | base event => exact .base event
  | runtime event =>
    apply Same.runtime
    simp only [RuntimeEvent.reread, RuntimeEventFields.reread, JsonObject.reread_reread]

end StoredEvent

namespace FileEventStore

variable {texts : EventTexts}

theorem lineOf_read {sequence : Int} {now : DateTime} {event : StoredEvent texts}
    {line : EventRecord} (lined : lineOf sequence now event = .ok line) :
    line.sequence = sequence ∧
      (event.Numbered → line.read texts = .ok (event.ingestedAt now).reread) ∧
      (¬ event.Numbered → ∃ failure, line.read texts = .error failure) := by
  cases event with
  | base event =>
    cases lined
    refine ⟨rfl, fun _ => ?_, fun unnumbered => absurd trivial unnumbered⟩
    simp only [EventRecord.read, BaseEvent.fromEnvelope_toEnvelope]
    rfl
  | runtime event =>
    let ingested : RuntimeEvent texts := { event with tsIngest := now, valid := event.valid }
    have created : RuntimeEventFields.create texts
        { event.toRuntimeEventFields with tsIngest := now } = .ok ingested :=
      RuntimeEventFields.create_valid ingested
    simp only [lineOf, created, bind, Except.bind] at lined
    split at lined
    · cases lined
    · next required =>
      cases lined
      have canonical := RuntimeEvent.canonical_of_required required
      have reads := RuntimeEvent.fromEnvelope_written canonical
      refine ⟨rfl, fun numbered => ?_, fun unnumbered => ?_⟩
      · obtain ⟨sequenceNo, own⟩ := Option.isSome_iff_exists.mp numbered
        have same : ingested.sequenceNo = some sequenceNo := own
        simp only [EventRecord.read, reads, same]
        rfl
      · have none : ingested.sequenceNo = none := by
          simpa [Numbered] using unnumbered
        simp only [EventRecord.read, reads, none]
        exact ⟨_, rfl⟩

/-- The numbers of the first lines of a file. -/
def numbersUpTo (count : Nat) : List Int :=
  (List.range count).map fun index : Nat => (index : Int) + 1

theorem numbersUpTo_succ (count : Nat) :
    numbersUpTo (count + 1) = numbersUpTo count ++ [(count : Int) + 1] := by
  simp only [numbersUpTo, range_succ, map_append, map_cons, map_nil]

theorem mem_numbersUpTo {count : Nat} {sequence : Int} :
    sequence ∈ numbersUpTo count ↔ 1 ≤ sequence ∧ sequence ≤ count := by
  simp only [numbersUpTo, mem_map, mem_range]
  constructor
  · rintro ⟨index, below, rfl⟩
    omega
  · intro bounds
    exact ⟨(sequence - 1).toNat, by omega, by omega⟩

theorem numbersUpTo_max (count : Nat) : (numbersUpTo count).max?.getD 0 = count := by
  cases count with
  | zero => rfl
  | succ count =>
    have highest : (numbersUpTo (count + 1)).max? = some ((count : Int) + 1) := by
      rw [max?_eq_some_iff]
      constructor
      · exact mem_numbersUpTo.mpr (by omega)
      · intro sequence mem
        have bounds := mem_numbersUpTo.mp mem
        omega
    rw [highest]
    simp

theorem numbersUpTo_nodup (count : Nat) : (numbersUpTo count).Nodup := by
  apply nodup_range.map
  intro first second same
  simpa using same

/-- Sequences that differ from each other and from those met before leave no duplicates. -/
theorem noteSequence_foldl {seen sequences : List Int} (distinct : (seen ++ sequences).Nodup) :
    sequences.foldl noteSequence (seen, []) = (seen ++ sequences, []) := by
  induction sequences generalizing seen with
  | nil => simp
  | cons sequence rest ih =>
    have fresh : sequence ∉ seen := by
      intro mem
      exact (nodup_append.mp distinct).2.2 sequence mem sequence mem_cons_self rfl
    have noted : noteSequence (seen, []) sequence = (seen ++ [sequence], []) := by
      simp [noteSequence, fresh]
    rw [foldl_cons, noted, ih (by simpa using distinct), append_assoc]
    rfl

/-- Lines that are numbered from one on pass the validation. -/
theorem validateSequence_numbers {store : FileEventStore} {count : Nat}
    (numbers : store.sequences = numbersUpTo count) :
    store.validateSequence = { valid := true } := by
  have noted : (numbersUpTo count).foldl noteSequence ([], []) = (numbersUpTo count, []) :=
    noteSequence_foldl (numbersUpTo_nodup count)
  have missing :
      ((List.range ((count : Int).toNat)).map fun index : Nat => (index : Int) + 1).filter
      (fun sequence => decide (sequence ∉ numbersUpTo count)) = [] := by
    rw [Int.toNat_natCast, filter_eq_nil_iff]
    intro sequence mem
    simpa [numbersUpTo] using mem
  simp only [validateSequence, numbers, noted, numbersUpTo_max, missing, insertionSort_nil,
    isEmpty_nil, Bool.and_self]

end FileEventStore

namespace EventLog

open FileEventStore

variable {texts : EventTexts}

/-- The file holds a line for each accepted event, numbered from one on. -/
structure Recorded (log : EventLog texts) : Prop where
  numbers : log.store.sequences = numbersUpTo log.appended.length
  next : log.store.nextSequence = log.appended.length + 1
  lines : Forall₂ (fun line event => ∃ sequence now, lineOf sequence now event = .ok line)
    log.store.lines log.appended

theorem init_recorded (singleWriter : Bool) : Recorded (init singleWriter : EventLog texts) :=
  ⟨rfl, rfl, .nil⟩

theorem acquireWriterLock_file {store locked : FileEventStore}
    (acquired : store.acquireWriterLock = .ok locked) :
    locked.lines = store.lines ∧ locked.nextSequence = store.nextSequence := by
  unfold acquireWriterLock at acquired
  split at acquired
  · cases acquired
    exact ⟨rfl, rfl⟩
  · split at acquired
    · cases acquired
      exact ⟨rfl, rfl⟩
    · split at acquired
      · cases acquired
        exact ⟨rfl, rfl⟩
      · cases acquired

theorem append_cases (log : EventLog texts) (event : StoredEvent texts) (now : DateTime) :
    ((log.append event now).2.store.lines = log.store.lines ∧
      (log.append event now).2.store.nextSequence = log.store.nextSequence ∧
        (log.append event now).2.appended = log.appended) ∨
    ∃ line, lineOf log.store.nextSequence now event = .ok line ∧
      (log.append event now).2.store.lines = log.store.lines ++ [line] ∧
      (log.append event now).2.store.nextSequence = log.store.nextSequence + 1 ∧
        (log.append event now).2.appended = log.appended ++ [event] := by
  unfold EventLog.append FileEventStore.append
  cases acquired : log.store.acquireWriterLock with
  | error failure => exact .inl ⟨rfl, rfl, rfl⟩
  | ok store =>
    obtain ⟨lines, next⟩ := acquireWriterLock_file acquired
    simp only [next]
    cases lined : lineOf log.store.nextSequence now event with
    | error failure => exact .inl ⟨lines, next, rfl⟩
    | ok line => exact .inr ⟨line, rfl, by rw [lines], rfl, rfl⟩

theorem append_recorded {log : EventLog texts} (recorded : Recorded log)
    (event : StoredEvent texts) (now : DateTime) : Recorded (log.append event now).2 := by
  obtain ⟨lines, next, appended⟩ | ⟨line, lined, lines, next, appended⟩ :=
    append_cases log event now
  · refine ⟨?_, ?_, ?_⟩
    · rw [sequences, lines, appended]
      exact recorded.numbers
    · rw [next, appended, recorded.next]
    · rw [lines, appended]
      exact recorded.lines
  · refine ⟨?_, ?_, ?_⟩
    · have numbers := recorded.numbers
      unfold sequences at numbers ⊢
      rw [lines, appended, map_append, numbers, length_append, length_singleton,
        numbersUpTo_succ, map_singleton, (lineOf_read lined).1, recorded.next]
    · rw [next, appended, recorded.next, length_append, length_singleton]
      omega
    · rw [lines, appended]
      exact rel_append recorded.lines (.cons ⟨_, now, lined⟩ .nil)

theorem step_recorded (log : EventLog texts) (command : EventLogCommand texts)
    (recorded : Recorded log) : Recorded (step log command).2 := by
  cases command with
  | append event now => exact append_recorded recorded event now
  | close =>
    simp only [step, close]
    split <;> exact ⟨recorded.numbers, recorded.next, recorded.lines⟩
  | collect =>
    simp only [step, collect]
    split <;> exact ⟨recorded.numbers, recorded.next, recorded.lines⟩
  | reopen =>
    refine ⟨recorded.numbers, ?_, recorded.lines⟩
    have numbers : log.store.lines.map EventRecord.sequence = numbersUpTo log.appended.length :=
      recorded.numbers
    simp only [step, openFile, highestSequence, numbers, numbersUpTo_max]

theorem final_recorded (singleWriter : Bool) (commands : List (EventLogCommand texts)) :
    Recorded (final step (init singleWriter) commands) :=
  final_invariant step_recorded (init_recorded singleWriter) commands

theorem lines_read {lines : List EventRecord} {events : List (StoredEvent texts)}
    (held : Forall₂ (fun line event => ∃ sequence now, lineOf sequence now event = .ok line)
      lines events) (numbered : ∀ event ∈ events, event.Numbered) :
    ∃ back, lines.mapM (EventRecord.read texts) = .ok back ∧
      Forall₂ (fun read event => ∃ now, read = reread (event.ingestedAt now))
        back events := by
  induction held with
  | nil => exact ⟨[], rfl, .nil⟩
  | @cons line event lines events lined _ ih =>
    obtain ⟨sequence, now, lined⟩ := lined
    obtain ⟨back, reads, same⟩ := ih fun later mem =>
      numbered later (mem_cons_of_mem _ mem)
    have first := (lineOf_read lined).2.1 (numbered event mem_cons_self)
    refine ⟨_ :: back, ?_, .cons ⟨now, rfl⟩ same⟩
    exact mapM_eq_ok_iff.mpr (.cons first (mapM_eq_ok_iff.mp reads))

theorem numbered_of_lines_read {lines : List EventRecord} {events back : List (StoredEvent texts)}
    (held : Forall₂ (fun line event => ∃ sequence now, lineOf sequence now event = .ok line)
      lines events) (reads : lines.mapM (EventRecord.read texts) = .ok back) :
    ∀ event ∈ events, event.Numbered := by
  have each := mapM_eq_ok_iff.mp reads
  clear reads
  induction held generalizing back with
  | nil =>
    intro event mem
    cases mem
  | @cons line event lines events lined _ ih =>
    obtain ⟨sequence, now, lined⟩ := lined
    cases each with
    | cons read others =>
      intro found mem
      rcases mem_cons.mp mem with rfl | later
      · by_contra unnumbered
        obtain ⟨failure, refused⟩ := (lineOf_read lined).2.2 unnumbered
        exact absurd (refused.symm.trans read) (by rintro ⟨⟩)
      · exact ih others found later

theorem replay_none (store : FileEventStore) :
    store.replay texts none = store.lines.mapM (EventRecord.read texts) := by
  unfold FileEventStore.replay
  cases store.lines.mapM (EventRecord.read texts) with
  | error failure => rfl
  | ok events =>
    have all : events.filter (InMemoryEventStore.replayedUnder none) = events :=
      filter_eq_self.mpr fun _ _ => rfl
    exact congrArg Except.ok all

/-- In every run of one writer the persisted sequences are exactly those from one to the number of
accepted events and pass the validation; and a replay returns the accepted events, in order and up
to ingest time and key order, exactly when each accepted runtime event has a sequence number of its
own. -/
theorem replay_returns_appended_iff (texts : EventTexts) (singleWriter : Bool)
    (commands : List (EventLogCommand texts)) :
    let log := final step (init singleWriter) commands
    log.store.sequences = numbersUpTo log.appended.length ∧
      log.store.validateSequence = { valid := true } ∧
      ((∃ events, log.store.replay texts none = .ok events ∧
          Forall₂ Same events log.appended) ↔
        ∀ event ∈ log.appended, event.Numbered) := by
  intro log
  have recorded : Recorded log := final_recorded singleWriter commands
  refine ⟨recorded.numbers, validateSequence_numbers recorded.numbers, ?_⟩
  rw [replay_none]
  constructor
  · rintro ⟨events, reads, _⟩
    exact numbered_of_lines_read recorded.lines reads
  · intro numbered
    obtain ⟨back, reads, rereads⟩ := lines_read recorded.lines numbered
    refine ⟨back, reads, rereads.imp ?_⟩
    rintro read event ⟨now, rfl⟩
    exact event.reread_same now

def sampleTexts : EventTexts where
  lower := fun text => String.ofList (text.toList.map Char.toLower)
  json
    | .string text => text
    | _ => ""
  json_string := Eq.refl

/-- A state event that leaves its sequence number to the store. -/
def unnumberedEvent : RuntimeEvent sampleTexts where
  kind := "runtime.state"
  payload := .empty
  eventId := some ⟨⟨"evt-001", rfl⟩⟩
  runId := some ⟨⟨"run-001", rfl⟩⟩
  mode := some "paper"
  tsEvent := 0
  tsIngest := 0
  valid := by decide +kernel

/-- An event without a sequence number is accepted as the first one, and the log cannot be read. -/
theorem unnumbered_log_unreadable :
    let log := final step (init true) [.append (.runtime unnumberedEvent) 0]
    responses step (init true) [.append (.runtime unnumberedEvent) 0] = [.ok 1] ∧
      log.appended = [.runtime unnumberedEvent] ∧
      log.store.replay sampleTexts none = .error (.typeError
        ("int() argument must be a string, a bytes-like object " ++
          "or a real number, not 'NoneType'")) ∧
      ¬ ∃ events, log.store.replay sampleTexts none = .ok events ∧
        Forall₂ Same events log.appended := by
  intro log
  have unreadable : log.store.replay sampleTexts none = .error (.typeError
      ("int() argument must be a string, a bytes-like object " ++
        "or a real number, not 'NoneType'")) := by
    rfl
  refine ⟨rfl, rfl, unreadable, ?_⟩
  rintro ⟨events, reads, _⟩
  exact absurd (unreadable.symm.trans reads) (by rintro ⟨⟩)

end EventLog

end Qts
