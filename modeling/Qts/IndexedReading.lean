import Qts.HistoricalCsvReading

/-!
# Indexed reading is a full scan

The index names the byte at which the rows of each day begin.  A reader that seeks to the day of
its start leaves out rows of earlier days only, and never the beginning of a group of rows with
one timestamp, so it emits what the range leaves of a scan of the whole file.
-/

namespace Qts

open HistoricalCsvSchema CsvIndex List Option

namespace CsvLine

@[simp]
theorem size_cons (line : CsvLine) (lines : List CsvLine) :
    size (line :: lines) = line.width + size lines := by
  simp [size]

theorem size_append (first second : List CsvLine) :
    size (first ++ second) = size first + size second := by
  simp [size]

variable {columns : List String}

theorem rows_append (first second : List CsvLine) :
    rows columns (first ++ second) = rows columns first ++ rows columns second :=
  filterMap_append

/-- Behind the bytes of some lines the others follow. -/
theorem seek_size (early later : List CsvLine) : seek (size early) (early ++ later) = later := by
  induction early with
  | nil => cases later <;> rfl
  | cons line early ih =>
    obtain ⟨bytes, counted⟩ := Nat.exists_eq_succ_of_ne_zero (show line.width + size early ≠ 0 by
      have pos := line.pos
      omega)
    have left : bytes + 1 - line.width = size early := by omega
    rw [size_cons, counted, cons_append, seek, left]
    exact ih

theorem items_columns (columns fields : List String) :
    (items columns fields).map Prod.fst = columns := by
  induction columns generalizing fields with
  | nil => rfl
  | cons column columns ih => rw [items, map_cons, ih]

/-- A column reads the field at its own position. -/
theorem items_lookup {column : String} (present : column ∈ columns) (fields : List String) :
    (items columns fields).lookup column = some fields[columns.idxOf column]? := by
  induction columns generalizing fields with
  | nil => cases present
  | cons first columns ih =>
    rw [items, Dict.lookup_cons_if]
    by_cases same : column = first
    · rw [if_pos same, same, idxOf_cons_self, head?_eq_getElem?]
    · have later := (mem_cons.mp present).resolve_left same
      rw [if_neg same, ih later, idxOf_cons_ne _ (Ne.symm same), getElem?_tail]

end CsvLine

/-- Columns with distinct names and no whitespace around them, and on every line that is not empty
a field for each column. -/
structure CsvFile.Complete (file : CsvFile) : Prop where
  distinct : file.columns.Nodup
  unpadded : file.columns.map PythonText.strip = file.columns
  full : ∀ line ∈ file.lines, line.fields = [""] ∨
    line.isBlank = false ∧ file.columns.length ≤ line.fields.length

namespace CsvIndex

open CsvLine

section Scanning

variable (parse : String → Except Failure DateTime) (columns : List String)
  (column : String) (headerWidth : Nat)

/-- A row that carries a time. -/
def Timed (row : CsvRow) (time : DateTime) : Prop :=
  ∃ text, row.get? column = some (some text) ∧ parse text = .ok time

structure Marks (bucket : IndexBucket) (early later : List CsvLine) : Prop where
  offset_eq : bucket.offset = headerWidth + size early
  before : ∀ row ∈ rows columns early, ∃ time, Timed parse column row time ∧
    utcDate time < bucket.date
  at_ : ∃ first rest, rows columns later = first :: rest ∧
    ∃ time, Timed parse column first time ∧ utcDate time = bucket.date

/-- A bucket that points at the first row of its day. -/
def Placed (done : List CsvLine) (bucket : IndexBucket) : Prop :=
  ∃ early later, done = early ++ later ∧
    Marks parse columns column headerWidth bucket early later

/-- What the index writer knows after some lines. -/
structure Scanned (done : List CsvLine) (scan : Scan) : Prop where
  offset_eq : scan.offset = headerWidth + size done
  current : scan.currentBucketDate = scan.previousTimestamp.map utcDate
  timed : ∀ row ∈ rows columns done, ∃ time, Timed parse column row time ∧
    (∃ prev ∈ scan.previousTimestamp, time ≤ prev) ∧
    ∀ first ∈ scan.buckets.head?, first.date ≤ utcDate time
  opened : ∀ prev ∈ scan.previousTimestamp,
    ∃ first ∈ scan.buckets.head?, first.date ≤ utcDate prev
  placed : ∀ bucket ∈ scan.buckets, Placed parse columns column headerWidth done bucket
  increasing : (scan.buckets.map IndexBucket.date).Pairwise (· < ·)
  reached : ∀ bucket ∈ scan.buckets,
    ∃ prev ∈ scan.previousTimestamp, bucket.date ≤ utcDate prev

variable {parse columns column headerWidth} {isoformat : DateTime → String}
  {done lines : List CsvLine} {scan next : Scan} {line : CsvLine} {row : CsvRow} {time : DateTime}

theorem Timed.unique {other : DateTime} (timed : Timed parse column row time)
    (also : Timed parse column row other) : time = other := by
  obtain ⟨text, named, parsed⟩ := timed
  obtain ⟨otherText, otherNamed, otherParsed⟩ := also
  obtain rfl := some.inj (Option.mem_unique named otherNamed)
  exact ok_unique parsed otherParsed

theorem Placed.append {bucket : IndexBucket}
    (placed : Placed parse columns column headerWidth done bucket) (more : List CsvLine) :
    Placed parse columns column headerWidth (done ++ more) bucket := by
  obtain ⟨early, later, splits, marks⟩ := placed
  obtain ⟨first, rest, starts, dated⟩ := marks.at_
  refine ⟨early, later ++ more, by rw [splits, append_assoc], marks.offset_eq, marks.before,
    first, rest ++ rows columns more, ?_, dated⟩
  rw [rows_append, starts, cons_append]

theorem Scanned.initial :
    Scanned parse columns column headerWidth [] { offset := headerWidth } where
  offset_eq := rfl
  current := rfl
  timed := nofun
  opened := nofun
  placed := nofun
  increasing := .nil
  reached := nofun

theorem utcDate_mono {earlier later : DateTime} (ordered : earlier ≤ later) :
    utcDate earlier ≤ utcDate later :=
  Int.ediv_le_ediv (by decide) ordered

section Line

variable (scanned : Scanned parse columns column headerWidth done scan)

include scanned

theorem Scanned.offset_line :
    scan.offset + line.width = headerWidth + size (done ++ [line]) := by
  rw [scanned.offset_eq, size_append]
  simp [size, Nat.add_assoc]

theorem Scanned.blank (blank : line.row columns = none) :
    Scanned parse columns column headerWidth (done ++ [line])
      { scan with offset := scan.offset + line.width } := by
  have same : rows columns (done ++ [line]) = rows columns done := by
    rw [rows_append]
    simp [rows, blank]
  exact {
    offset_eq := scanned.offset_line
    current := scanned.current
    timed := by rw [same]; exact scanned.timed
    opened := scanned.opened
    placed := fun bucket mem => (scanned.placed bucket mem).append _
    increasing := scanned.increasing
    reached := scanned.reached }

variable (filled : line.row columns = some row) (timed : Timed parse column row time)
  (ordered : ∀ prev ∈ scan.previousTimestamp, prev ≤ time)

include ordered

theorem Scanned.reached_time {bucket : IndexBucket} (mem : bucket ∈ scan.buckets) :
    bucket.date ≤ utcDate time := by
  obtain ⟨prev, known, upTo⟩ := scanned.reached bucket mem
  exact upTo.trans (utcDate_mono (ordered prev known))

include filled timed

/-- The new row comes after the others, and no row is before the first bucket. -/
theorem Scanned.timed_row {buckets : List IndexBucket}
    (kept : ∀ prev ∈ scan.previousTimestamp, buckets.head? = scan.buckets.head?)
    (upTo : ∀ first ∈ buckets.head?, first.date ≤ utcDate time) :
    ∀ found ∈ rows columns (done ++ [line]), ∃ before, Timed parse column found before ∧
      (∃ prev ∈ some time, before ≤ prev) ∧
      ∀ first ∈ buckets.head?, first.date ≤ utcDate before := by
  have grown : rows columns (done ++ [line]) = rows columns done ++ [row] := by
    rw [rows_append]
    simp [rows, filled]
  rw [grown]
  intro found mem
  rcases mem_append.mp mem with old | new
  · obtain ⟨before, carries, ⟨prev, known, atMost⟩, behind⟩ := scanned.timed found old
    refine ⟨before, carries, ⟨time, rfl, atMost.trans (ordered prev known)⟩, ?_⟩
    rw [kept prev known]
    exact behind
  · obtain rfl := mem_singleton.mp new
    exact ⟨time, timed, ⟨time, rfl, le_rfl⟩, upTo⟩

theorem Scanned.sameDay (same : scan.currentBucketDate = some (utcDate time)) :
    Scanned parse columns column headerWidth (done ++ [line]) {
      offset := scan.offset + line.width
      previousTimestamp := some time
      currentBucketDate := some (utcDate time)
      rowCount := scan.rowCount + 1
      buckets := scan.buckets } where
  offset_eq := scanned.offset_line
  current := rfl
  timed := scanned.timed_row filled timed ordered (fun _ _ => rfl)
    fun first head => scanned.reached_time ordered (mem_of_mem_head? head)
  opened := by
    rintro last ⟨⟩
    rw [scanned.current] at same
    obtain ⟨prev, known, dated⟩ := map_eq_some_iff.mp same
    obtain ⟨first, head, upTo⟩ := scanned.opened prev known
    exact ⟨first, head, upTo.trans dated.le⟩
  placed := fun bucket mem => (scanned.placed bucket mem).append _
  increasing := scanned.increasing
  reached := fun bucket mem => ⟨time, rfl, scanned.reached_time ordered mem⟩

theorem Scanned.newDay (other : scan.currentBucketDate ≠ some (utcDate time)) :
    Scanned parse columns column headerWidth (done ++ [line]) {
      offset := scan.offset + line.width
      previousTimestamp := some time
      currentBucketDate := some (utcDate time)
      rowCount := scan.rowCount + 1
      buckets := scan.buckets ++ [⟨utcDate time, scan.offset, scan.rowCount⟩] } := by
  have later : ∀ prev ∈ scan.previousTimestamp, utcDate prev < utcDate time := by
    intro prev known
    refine lt_of_le_of_ne (utcDate_mono (ordered prev known)) ?_
    intro equal
    rw [scanned.current, mem_def.mp known, map_some, equal] at other
    exact other rfl
  have atMost : ∀ bucket ∈ scan.buckets ++ [⟨utcDate time, scan.offset, scan.rowCount⟩],
      bucket.date ≤ utcDate time := by
    intro bucket mem
    rcases mem_append.mp mem with old | new
    · exact scanned.reached_time ordered old
    · obtain rfl := mem_singleton.mp new
      exact le_rfl
  have opens : Marks parse columns column headerWidth ⟨utcDate time, scan.offset, scan.rowCount⟩
      done [line] := by
    refine ⟨scanned.offset_eq, ?_, row, [], by simp [rows, filled], time, timed, rfl⟩
    intro found mem
    obtain ⟨before, carries, ⟨prev, known, upTo⟩, -⟩ := scanned.timed found mem
    exact ⟨before, carries, (utcDate_mono upTo).trans_lt (later prev known)⟩
  exact {
    offset_eq := scanned.offset_line
    current := rfl
    timed := by
      refine scanned.timed_row filled timed ordered ?_
        fun first head => atMost first (mem_of_mem_head? head)
      intro prev known
      obtain ⟨first, head, -⟩ := scanned.opened prev known
      rw [head?_append, mem_def.mp head, some_or]
    opened := by
      rintro last ⟨⟩
      cases buckets : scan.buckets with
      | nil => exact ⟨_, rfl, le_rfl⟩
      | cons first rest =>
        exact ⟨first, rfl, scanned.reached_time ordered (by rw [buckets]; exact mem_cons_self)⟩
    placed := by
      intro bucket mem
      rcases mem_append.mp mem with old | new
      · exact (scanned.placed bucket old).append _
      · obtain rfl := mem_singleton.mp new
        exact ⟨done, [line], rfl, opens⟩
    increasing := by
      rw [map_append, pairwise_append]
      refine ⟨scanned.increasing, pairwise_singleton _ _, ?_⟩
      intro date mem last lastMember
      obtain ⟨bucket, among, rfl⟩ := mem_map.mp mem
      obtain rfl := mem_singleton.mp lastMember
      obtain ⟨prev, known, upTo⟩ := scanned.reached bucket among
      exact upTo.trans_lt (later prev known)
    reached := fun bucket mem => ⟨time, rfl, atMost bucket mem⟩ }

end Line

/-- What the writer reads of a line is what the reader reads. -/
structure Legible (columns : List String) (column : String) (line : CsvLine) : Prop where
  blank : line.isBlank = true → line.row columns = none
  read : ∀ text, line.isBlank = false → line.fields[columns.idxOf column]? = some text →
    ∃ row, line.row columns = some row ∧ row.get? column = some (some text)

theorem scanLine_scanned (scanned : Scanned parse columns column headerWidth done scan)
    (legible : Legible columns column line)
    (read : scanLine parse isoformat (columns.idxOf column) scan line = .ok next) :
    Scanned parse columns column headerWidth (done ++ [line]) next := by
  unfold scanLine at read
  cases blank : line.isBlank with
  | true =>
    rw [blank, if_pos rfl] at read
    obtain rfl := Except.ok.inj read
    exact scanned.blank (legible.blank blank)
  | false =>
    rw [blank, if_neg Bool.false_ne_true] at read
    cases named : line.fields[columns.idxOf column]? with
    | none =>
      rw [named] at read
      cases read
    | some text =>
      rw [named] at read
      obtain ⟨time, parsed, read⟩ := bind_inv read
      obtain ⟨row, filled, carries⟩ := legible.read text blank named
      have timed : Timed parse column row time := ⟨text, carries, parsed⟩
      split at read
      · cases read
      · next inOrder =>
        obtain rfl := Except.ok.inj read
        have ordered : ∀ prev ∈ scan.previousTimestamp, prev ≤ time := by
          intro prev known
          rw [mem_def.mp known, filter_some] at inOrder
          by_contra before
          rw [if_pos (by simpa using not_le.mp before)] at inOrder
          cases inOrder
        by_cases same : scan.currentBucketDate = some (utcDate time)
        · rw [if_pos same]
          exact scanned.sameDay filled timed ordered same
        · rw [if_neg same]
          exact scanned.newDay filled timed ordered same

theorem scanLines_scanned (scanned : Scanned parse columns column headerWidth done scan)
    (legible : ∀ line ∈ lines, Legible columns column line)
    (read : scanLines parse isoformat (columns.idxOf column) scan lines = .ok next) :
    Scanned parse columns column headerWidth (done ++ lines) next := by
  induction lines generalizing done scan with
  | nil =>
    obtain rfl := Except.ok.inj read
    rwa [append_nil]
  | cons line lines ih =>
    obtain ⟨middle, first, rest⟩ := bind_inv read
    have whole := ih (scanLine_scanned scanned (legible line mem_cons_self) first)
      (fun other mem => legible other (mem_cons_of_mem _ mem)) rest
    rwa [append_assoc] at whole

theorem legible_of_complete {file : CsvFile} (complete : file.Complete)
    (present : column ∈ file.columns) (mem : line ∈ file.lines) :
    Legible file.columns column line := by
  rcases complete.full line mem with empty | ⟨visible, full⟩
  · have blank : line.isBlank = true := by simp [CsvLine.isBlank, empty]
    exact ⟨fun _ => if_pos empty, fun text visible => by simp [blank] at visible⟩
  · refine ⟨fun blank => by simp [visible] at blank, ?_⟩
    intro text _ named
    have filled : line.fields ≠ [""] := by
      intro empty
      simp [CsvLine.isBlank, empty] at visible
    have distinct : ((items file.columns line.fields).map Prod.fst).Nodup := by
      rw [items_columns]
      exact complete.distinct
    refine ⟨_, if_neg filled, ?_⟩
    rw [Dict.get?_ofItems distinct, items_lookup present, named]

structure Indexes (parse : String → Except Failure DateTime) (file : CsvFile)
    (index : CsvIndex) : Prop where
  placed : ∀ bucket ∈ index.buckets,
    Placed parse file.columns index.timestampColumn file.headerWidth file.lines bucket
  behind : ∀ row ∈ rows file.columns file.lines, ∃ time,
    Timed parse index.timestampColumn row time ∧
      ∀ first ∈ index.buckets.head?, first.date ≤ utcDate time
  increasing : (index.buckets.map IndexBucket.date).Pairwise (· < ·)

theorem write_indexes {file : CsvFile} (complete : file.Complete) {timestampColumn : String}
    {index : CsvIndex} (written : write parse isoformat file timestampColumn = .ok index) :
    Indexes parse file index := by
  unfold write at written
  dsimp only at written
  rw [complete.unpadded] at written
  split at written
  · cases written
  · split at written
    · cases written
    · next present =>
      obtain ⟨scan, read, written⟩ := bind_inv written
      obtain rfl := Except.ok.inj written
      have scanned := scanLines_scanned Scanned.initial
        (fun line mem => legible_of_complete complete (not_not.mp present) mem) read
      rw [nil_append] at scanned
      refine ⟨scanned.placed, ?_, scanned.increasing⟩
      intro row mem
      obtain ⟨time, timed, -, behind⟩ := scanned.timed row mem
      exact ⟨time, timed, behind⟩

/-- The offset for a start leaves out rows of earlier times only, and no row behind it shares the
time of one before. -/
structure Skips (parse : String → Except Failure DateTime) (column : String)
    (start : DateTime) (file : CsvFile) (offset : Nat) (early : List CsvRow) : Prop where
  rows_eq : rows file.columns file.lines = early ++ file.rowsFrom offset
  before : ∀ row ∈ early, ∃ time, Timed parse column row time ∧ time < start
  apart : ∀ last ∈ early.getLast?, ∀ first ∈ (file.rowsFrom offset).head?,
    (last.get? column).join ≠ (first.get? column).join

theorem Marks.rowsFrom {file : CsvFile} {bucket : IndexBucket} {early later : List CsvLine}
    (marks : Marks parse file.columns column file.headerWidth bucket early later)
    (splits : file.lines = early ++ later) :
    file.rowsFrom bucket.offset = rows file.columns later := by
  rw [CsvFile.rowsFrom, marks.offset_eq, Nat.add_sub_cancel_left, splits, seek_size]

theorem Marks.skips {file : CsvFile} {bucket : IndexBucket} {early later : List CsvLine}
    (marks : Marks parse file.columns column file.headerWidth bucket early later)
    (splits : file.lines = early ++ later) {start : DateTime}
    (harmless : rows file.columns early = [] ∨ bucket.date ≤ utcDate start) :
    Skips parse column start file bucket.offset (rows file.columns early) where
  rows_eq := by rw [marks.rowsFrom splits, splits, rows_append]
  before := by
    intro row mem
    rcases harmless with none | upTo
    · rw [none] at mem
      cases mem
    · obtain ⟨time, timed, earlier⟩ := marks.before row mem
      refine ⟨time, timed, ?_⟩
      by_contra later
      have atLeast := utcDate_mono (not_lt.mp later)
      omega
  apart := by
    intro last lastMember first firstMember same
    rw [marks.rowsFrom splits] at firstMember
    obtain ⟨time, ⟨text, named, parsed⟩, earlier⟩ :=
      marks.before last (mem_of_mem_getLast? lastMember)
    obtain ⟨found, rest, starts, other, ⟨otherText, otherNamed, otherParsed⟩, dated⟩ := marks.at_
    rw [starts, head?_cons, mem_some_iff] at firstMember
    subst firstMember
    rw [named, otherNamed, join_some, join_some, some_inj] at same
    subst same
    obtain rfl := ok_unique parsed otherParsed
    omega

/-- Before the rows of the first day there are none. -/
theorem Indexes.first {file : CsvFile} {index : CsvIndex} (indexes : Indexes parse file index)
    {first : IndexBucket} (head : index.buckets.head? = some first) (start : DateTime) :
    ∃ early, Skips parse index.timestampColumn start file first.offset early := by
  obtain ⟨early, later, splits, marks⟩ := indexes.placed first (mem_of_mem_head? head)
  refine ⟨_, marks.skips splits (.inl (eq_nil_iff_forall_not_mem.mpr ?_))⟩
  intro row mem
  obtain ⟨time, timed, earlier⟩ := marks.before row mem
  obtain ⟨same, sameTimed, behind⟩ := indexes.behind row (by
    rw [splits, rows_append]
    exact mem_append_left _ mem)
  obtain rfl := timed.unique sameTimed
  exact absurd (behind first head) (not_le.mpr earlier)

theorem Indexes.skips {file : CsvFile} {index : CsvIndex} (indexes : Indexes parse file index)
    {start : DateTime} {headerOffset offset : Nat}
    (found : startOffset (some index) (some start) column headerOffset = some offset) :
    ∃ early, Skips parse column start file offset early := by
  have bound : ¬ (index.version ≠ 1 ∨ index.granularity ≠ "day" ∨
      index.timestampColumn ≠ column ∨ index.headerOffset ≠ headerOffset) := by
    intro other
    simp [startOffset, other] at found
  have sameColumn : index.timestampColumn = column := by
    by_contra ne
    exact bound (.inr (.inr (.inl ne)))
  subst sameColumn
  unfold startOffset at found
  simp only [bound, bind_eq_bind, bind_some, if_false] at found
  obtain ⟨first, head, found⟩ := bind_eq_some_iff.mp found
  have ordered : Bisection.Partitioned (fun date => decide (date ≤ utcDate start))
      (index.buckets.map IndexBucket.date) := by
    refine indexes.increasing.imp ?_
    intro earlier later less atMost
    have upTo := of_decide_eq_true atMost
    exact decide_eq_true (by omega)
  split at found
  · obtain rfl := Option.some.inj found
    exact indexes.first head start
  · next position counted =>
    obtain ⟨bucket, entry, rfl⟩ := map_eq_some_iff.mp found
    have dated : (index.buckets.map IndexBucket.date)[position]? = some bucket.date := by
      rw [getElem?_map, entry]
      rfl
    have upTo := (Bisection.atOrBelow_iff_lt ordered dated).mpr (by
      rw [← Bisection.right_eq ordered, counted]
      exact Nat.lt_succ_self position)
    obtain ⟨early, later, splits, marks⟩ := indexes.placed bucket (mem_of_getElem? entry)
    exact ⟨_, marks.skips splits (.inr (of_decide_eq_true upTo))⟩

end Scanning

end CsvIndex

namespace HistoricalBarStream

open CsvLine

variable {Selector : Type} {stream : HistoricalBarStream Selector}

structure Chronological (stream : HistoricalBarStream Selector) (file : CsvFile) : Prop where
  timed : ∀ row ∈ rows file.columns file.lines, ∃ time, stream.timestamp row = .ok time
  ordered : (rows file.columns file.lines).Pairwise fun earlier later =>
    ∀ earlierTime laterTime, stream.timestamp earlier = .ok earlierTime →
      stream.timestamp later = .ok laterTime → earlierTime ≤ laterTime

def inRange (stream : HistoricalBarStream Selector) (time : DateTime) : Bool :=
  !(stream.start.any fun start => decide (time < start)) &&
    !(stream.stop.any fun stop => decide (stop ≤ time))

def timedRows (stream : HistoricalBarStream Selector) (rows : List CsvRow) :
    List (CsvRow × DateTime) :=
  rows.filterMap fun row =>
    match stream.symbol row, stream.timestamp row with
    | .ok symbol, .ok time => if stream.isSupportedSymbol symbol then some (row, time) else none
    | _, _ => none

def timedGroups (stream : HistoricalBarStream Selector) (groups : List (String × List CsvRow)) :
    List (List CsvRow × DateTime) :=
  groups.filterMap fun group => (stream.parse group.1).toOption.map fun time => (group.2, time)

/-- The bar that a row stands for at its time, if its session is kept, its values make a bar and
the range shows it. -/
def rowBar (stream : HistoricalBarStream Selector) (row : CsvRow) (time : DateTime) :
    Except Failure (Option Bar) := do
  let session ← stream.sessionIdFor time
  if stream.sessionWindow.isSome && session.isNone then
    return none
  match stream.toBar row with
  | .error failure => if failure.isValueError then return none else throw failure
  | .ok bar =>
    let bar ← stream.withSessionMetadata bar session
    return (some bar).filter stream.barVisibleInRange

def emitRow (stream : HistoricalBarStream Selector) (row : CsvRow) (time : DateTime) :
    CsvRead Selector Unit := do
  match ← liftExcept (stream.rowBar row time) with
  | none => return ()
  | some bar => modify fun reading => { reading with bars := reading.bars ++ [bar] }

/-- The candidates of a group whose session is kept. -/
def groupCandidates (stream : HistoricalBarStream Selector) (rows : List CsvRow)
    (time : DateTime) : Except Failure (Option (Option String ×
      List FutureContractCandidate × Dict InstrumentId Bar)) := do
  let session ← stream.sessionIdFor time
  if stream.sessionWindow.isSome && session.isNone then
    return none
  let date ← stream.sessionDateFor session time
  let found ← stream.candidates date rows ([], .empty)
  return if found.1.isEmpty then none else some (session, found)

/-- The bar of the selected contract, under the continuous instrument if there is one, and the
record of its selection, if the range shows the bar. -/
def rollBar (stream : HistoricalBarStream Selector) (session : Option String)
    (found : List FutureContractCandidate × Dict InstrumentId Bar)
    (selected : FutureContractCandidate) :
    Except Failure (Option (Bar × FutureRollSelection)) :=
  match found.2.get? selected.instrumentId with
  | none => .error (.keyError selected.instrumentId.value)
  | some concrete => do
    let instrumentId := stream.continuousInstrumentId.getD selected.instrumentId
    let bar ← (if instrumentId = selected.instrumentId then .ok concrete
      else Bar.create { concrete.toBarFields with instrumentId })
    let bar ← stream.withSessionMetadata bar session
    if stream.barVisibleInRange bar then
      let selection ← FutureRollSelection.create {
        continuousInstrumentId := instrumentId
        rootSymbol := selected.rootSymbol
        asOf := bar.endTime
        concreteInstrumentId := selected.instrumentId
        sourceSymbol := selected.symbol
        pricesByInstrument := .ofItems (found.1.map fun candidate =>
          (candidate.instrumentId, candidate.close)) }
      return some (bar, selection)
    else return none

def emitSelected (stream : HistoricalBarStream Selector) (session : Option String)
    (found : List FutureContractCandidate × Dict InstrumentId Bar)
    (selected : FutureContractCandidate) : CsvRead Selector Unit := do
  match ← liftExcept (stream.rollBar session found selected) with
  | none => return ()
  | some (bar, selection) =>
    modify fun reading => { reading with
      bars := reading.bars ++ [bar]
      rollSelections := reading.rollSelections ++ [selection] }

/-- Ask the selector once for a group that has candidates. -/
def emitGroup (stream : HistoricalBarStream Selector)
    (select : List FutureContractCandidate → Selector → ContractSelection × Selector)
    (rows : List CsvRow) (time : DateTime) : CsvRead Selector Unit := do
  match ← liftExcept (stream.groupCandidates rows time) with
  | none => return ()
  | some (session, found) =>
    let (answer, selector) := select found.1 (← get).selector
    modify fun reading => { reading with selector }
    match answer with
    | .lookupError => return ()
    | .raised failure => throw failure
    | .selected selected => stream.emitSelected session found selected

def scanAndFilter (stream : HistoricalBarStream Selector) (file : CsvFile) :
    CsvRead Selector Unit := do
  liftExcept (validateColumns stream.configuredSchema file.columns)
  let rows := rows file.columns file.lines
  match stream.select with
  | none =>
    ((stream.timedRows rows).filter fun item => stream.inRange item.2).forM
      fun item => stream.emitRow item.1 item.2
  | some select =>
    ((stream.timedGroups (stream.timestampGroups none [] rows)).filter
      fun item => stream.inRange item.2).forM fun item => stream.emitGroup select item.1 item.2

section Walk

variable {Item : Type} {handle : Item → DateTime → CsvRead Selector Unit}

/-- Skip the items before the start, and stop at the first one at or after the end. -/
def walk (stream : HistoricalBarStream Selector)
    (handle : Item → DateTime → CsvRead Selector Unit) :
    List (Item × DateTime) → CsvRead Selector Unit
  | [] => return ()
  | item :: items =>
    if stream.start.any fun start => decide (item.2 < start) then walk stream handle items
    else if stream.stop.any fun stop => decide (stop ≤ item.2) then return ()
    else do
      handle item.1 item.2
      walk stream handle items

theorem walk_skips {start : DateTime} (starts : stream.start = some start)
    {early : List (Item × DateTime)} (later : List (Item × DateTime))
    (before : ∀ item ∈ early, item.2 < start) :
    stream.walk handle (early ++ later) = stream.walk handle later := by
  induction early with
  | nil => rfl
  | cons item early ih =>
    have skipped : (stream.start.any fun start => decide (item.2 < start)) = true := by
      rw [starts]
      exact decide_eq_true (before item mem_cons_self)
    rw [cons_append, walk, if_pos skipped]
    exact ih fun other mem => before other (mem_cons_of_mem _ mem)

theorem stop_any_mono {stop : Option DateTime} {time later : DateTime} (after : time ≤ later)
    (ended : (stop.any fun stop => decide (stop ≤ time)) = true) :
    (stop.any fun stop => decide (stop ≤ later)) = true := by
  cases stop with
  | none => cases ended
  | some stop =>
    have reached : stop ≤ time := of_decide_eq_true ended
    exact decide_eq_true (reached.trans after)

/-- Stopping at the end of the range is filtering by it. -/
theorem walk_filters {items : List (Item × DateTime)}
    (ordered : items.Pairwise fun earlier later => earlier.2 ≤ later.2) :
    stream.walk handle items =
      (items.filter fun item => stream.inRange item.2).forM fun item => handle item.1 item.2 := by
  induction items with
  | nil => rfl
  | cons item items ih =>
    obtain ⟨first, orderedRest⟩ := pairwise_cons.mp ordered
    rw [walk]
    by_cases early : (stream.start.any fun start => decide (item.2 < start)) = true
    · have out : ¬ stream.inRange item.2 = true := by simp [inRange, early]
      have left : (item :: items).filter (fun item => stream.inRange item.2) =
          items.filter fun item => stream.inRange item.2 := filter_cons_of_neg out
      rw [if_pos early, left, ih orderedRest]
    · rw [if_neg early]
      by_cases late : (stream.stop.any fun stop => decide (stop ≤ item.2)) = true
      · have none : (item :: items).filter (fun item => stream.inRange item.2) = [] := by
          rw [filter_eq_nil_iff]
          intro other mem
          have after : item.2 ≤ other.2 := by
            rcases mem_cons.mp mem with same | later
            · exact le_of_eq (congrArg Prod.snd same.symm)
            · exact first other later
          simp [inRange, stop_any_mono after late]
        rw [if_pos late, none]
        rfl
      · have within : stream.inRange item.2 = true := by simp [inRange, early, late]
        have taken : (item :: items).filter (fun item => stream.inRange item.2) =
            item :: items.filter fun item => stream.inRange item.2 :=
          filter_cons_of_pos within
        rw [if_neg late, taken, ih orderedRest]
        rfl

end Walk

theorem lift_ok {State Value Next : Type} (value : Value)
    (next : Value → EStateM Failure State Next) :
    (liftExcept (Except.ok value : Except Failure Value) >>= next) = next value :=
  rfl

theorem iterAllSupportedRows_walk {rows : List CsvRow}
    (full : ∀ row ∈ rows, ∃ symbol, stream.symbol row = .ok symbol)
    (timed : ∀ row ∈ rows, ∃ time, stream.timestamp row = .ok time) :
    stream.iterAllSupportedRows rows = stream.walk stream.readRow (stream.timedRows rows) := by
  induction rows with
  | nil => rfl
  | cons row rows ih =>
    obtain ⟨symbol, named⟩ := full row mem_cons_self
    obtain ⟨time, known⟩ := timed row mem_cons_self
    have rest := ih (fun other mem => full other (mem_cons_of_mem _ mem))
      fun other mem => timed other (mem_cons_of_mem _ mem)
    rw [iterAllSupportedRows, named, lift_ok, rest]
    by_cases supported : stream.isSupportedSymbol symbol = true
    · have taken : stream.timedRows (row :: rows) = (row, time) :: stream.timedRows rows := by
        simp [timedRows, named, known, supported]
      rw [supported, Bool.not_true, if_neg Bool.false_ne_true, known, lift_ok, taken, walk]
    · have left : stream.timedRows (row :: rows) = stream.timedRows rows := by
        simp [timedRows, named, known, supported]
      rw [Bool.not_eq_true] at supported
      rw [supported, Bool.not_false, if_pos rfl, left]

theorem mem_timedRows {rows : List CsvRow} {item : CsvRow × DateTime}
    (mem : item ∈ stream.timedRows rows) :
    item.1 ∈ rows ∧ stream.timestamp item.1 = .ok item.2 := by
  obtain ⟨row, among, found⟩ := mem_filterMap.mp mem
  split at found
  · next symbol time _ known =>
    split at found
    · obtain rfl := Option.some.inj found
      exact ⟨among, known⟩
    · cases found
  · cases found

theorem timedRows_append (early later : List CsvRow) :
    stream.timedRows (early ++ later) = stream.timedRows early ++ stream.timedRows later :=
  filterMap_append

theorem timedRows_ordered {rows : List CsvRow}
    (ordered : rows.Pairwise fun earlier later => ∀ earlierTime laterTime,
      stream.timestamp earlier = .ok earlierTime → stream.timestamp later = .ok laterTime →
        earlierTime ≤ laterTime) :
    (stream.timedRows rows).Pairwise fun earlier later => earlier.2 ≤ later.2 := by
  refine pairwise_filterMap.mpr (ordered.imp ?_)
  intro earlier later compared item found other otherFound
  split at found
  · next symbol time _ known =>
    split at found
    · split at otherFound
      · next otherSymbol otherTime _ otherKnown =>
        split at otherFound
        · obtain rfl := Option.some.inj found
          obtain rfl := Option.some.inj otherFound
          exact compared time otherTime known otherKnown
        · cases otherFound
      · cases otherFound
    · cases found
  · cases found

variable {groups : List (String × List CsvRow)}

theorem iterSelectedContractRows_walk
    {select : List FutureContractCandidate → Selector → ContractSelection × Selector}
    (timed : ∀ group ∈ groups, ∃ time, stream.parse group.1 = .ok time) :
    stream.iterSelectedContractRows select groups =
      stream.walk (fun rows time => stream.readGroup select time rows)
        (stream.timedGroups groups) := by
  induction groups with
  | nil => rfl
  | cons group groups ih =>
    obtain ⟨time, known⟩ := timed group mem_cons_self
    have taken : stream.timedGroups (group :: groups) =
        (group.2, time) :: stream.timedGroups groups := by
      rw [timedGroups, filterMap_cons, known]
      rfl
    rw [iterSelectedContractRows, known, lift_ok,
      ih fun other mem => timed other (mem_cons_of_mem _ mem), taken, walk]

theorem timestampGroups_append_some {text : String} {group early later : List CsvRow}
    (texts : ∀ row ∈ early, ∃ text, stream.timestampText row = some text)
    (apart : ∀ first ∈ later.head?,
      ((early.getLast?).map stream.timestampText).getD (some text) ≠ stream.timestampText first) :
    stream.timestampGroups (some text) group (early ++ later) =
      stream.timestampGroups (some text) group early ++ stream.timestampGroups none [] later := by
  induction early generalizing text group with
  | nil =>
    cases later with
    | nil => rfl
    | cons first later => exact if_pos (apart first rfl).symm
  | cons row early ih =>
    obtain ⟨own, named⟩ := texts row mem_cons_self
    have behind : ∀ first ∈ later.head?, ((early.getLast?).map stream.timestampText).getD
        (some own) ≠ stream.timestampText first := by
      intro first head
      have known := apart first head
      rw [getLast?_cons] at known
      cases last : early.getLast? with
      | none => simpa [last, named] using known
      | some found => simpa [last] using known
    have rest := fun other mem => texts other (mem_cons_of_mem _ mem)
    rw [cons_append, timestampGroups, timestampGroups, named]
    by_cases other : some own ≠ some text
    · rw [if_pos other, if_pos other, cons_append, ih rest behind]
    · rw [if_neg other, if_neg other]
      rw [not_ne_iff.mp other] at behind
      exact ih rest behind

theorem timestampGroups_append {early later : List CsvRow}
    (texts : ∀ row ∈ early, ∃ text, stream.timestampText row = some text)
    (apart : ∀ last ∈ early.getLast?, ∀ first ∈ later.head?,
      stream.timestampText last ≠ stream.timestampText first) :
    stream.timestampGroups none [] (early ++ later) =
      stream.timestampGroups none [] early ++ stream.timestampGroups none [] later := by
  cases early with
  | nil => rfl
  | cons row early =>
    obtain ⟨text, named⟩ := texts row mem_cons_self
    rw [cons_append, timestampGroups, timestampGroups, named]
    refine timestampGroups_append_some (fun other mem => texts other (mem_cons_of_mem _ mem)) ?_
    intro first head
    have known := apart _ (getLast?_cons) first head
    cases last : early.getLast? with
    | none => simpa [last, named] using known
    | some found => simpa [last] using known

theorem timestampGroups_texts (current : Option String) (group rows : List CsvRow) :
    ((stream.timestampGroups current group rows).map fun item => some item.1).Sublist
      (current :: rows.map stream.timestampText) := by
  induction rows generalizing current group with
  | nil =>
    cases current with
    | none => exact nil_sublist _
    | some text => exact List.Sublist.refl _
  | cons row rows ih =>
    cases current with
    | none => exact (ih (stream.timestampText row) (group ++ [row])).cons none
    | some text =>
      rw [timestampGroups]
      by_cases other : stream.timestampText row ≠ some text
      · rw [if_pos other]
        exact (ih (stream.timestampText row) [row]).cons_cons (some text)
      · rw [if_neg other]
        exact (ih (some text) (group ++ [row])).trans ((sublist_cons_self _ _).cons_cons _)

theorem timestampGroups_none (rows : List CsvRow) :
    ((stream.timestampGroups none [] rows).map fun item => some item.1).Sublist
      (rows.map stream.timestampText) := by
  cases rows with
  | nil => exact nil_sublist _
  | cons row rows => exact timestampGroups_texts _ _ rows

theorem parse_timestampText {row : CsvRow} {time : DateTime}
    (known : stream.timestamp row = .ok time) :
    ∃ text, stream.timestampText row = some text ∧ stream.parse text = .ok time := by
  obtain ⟨found, named, known⟩ := bind_inv known
  obtain ⟨text, present, parsed⟩ := bind_inv known
  cases found with
  | none => cases present
  | some other =>
    obtain rfl := Except.ok.inj present
    refine ⟨other, ?_, parsed⟩
    unfold field at named
    unfold timestampText
    split at named
    · cases named
    · next stored =>
      obtain rfl := Except.ok.inj named
      rw [stored, join_some]

theorem timestamp_of_text {row : CsvRow} (timed : ∃ time, stream.timestamp row = .ok time)
    {text : String} (named : stream.timestampText row = some text) {time : DateTime}
    (parsed : stream.parse text = .ok time) : stream.timestamp row = .ok time := by
  obtain ⟨own, known⟩ := timed
  obtain ⟨other, otherNamed, otherParsed⟩ := parse_timestampText known
  obtain rfl := Option.mem_unique named otherNamed
  rw [known, ← otherParsed, parsed]

theorem mem_timestampGroups {rows : List CsvRow} {group : String × List CsvRow}
    (mem : group ∈ stream.timestampGroups none [] rows) :
    ∃ row ∈ rows, stream.timestampText row = some group.1 :=
  mem_map.mp ((timestampGroups_none rows).subset (mem_map_of_mem mem))

theorem toOption_eq_some {Value : Type} {result : Except Failure Value} {value : Value}
    (known : result.toOption = some value) : result = .ok value := by
  cases result with
  | error failure => cases known
  | ok found => exact congrArg Except.ok (Option.some.inj known)

theorem mem_timedGroups
    {item : List CsvRow × DateTime} (mem : item ∈ stream.timedGroups groups) :
    ∃ group ∈ groups, stream.parse group.1 = .ok item.2 := by
  obtain ⟨group, among, found⟩ := mem_filterMap.mp mem
  obtain ⟨time, parsed, rfl⟩ := map_eq_some_iff.mp found
  exact ⟨group, among, toOption_eq_some parsed⟩

theorem timedGroups_append (early later : List (String × List CsvRow)) :
    stream.timedGroups (early ++ later) = stream.timedGroups early ++ stream.timedGroups later :=
  filterMap_append

theorem timedGroups_ordered {rows : List CsvRow}
    (timed : ∀ row ∈ rows, ∃ time, stream.timestamp row = .ok time)
    (ordered : rows.Pairwise fun earlier later => ∀ earlierTime laterTime,
      stream.timestamp earlier = .ok earlierTime → stream.timestamp later = .ok laterTime →
        earlierTime ≤ laterTime) :
    (stream.timedGroups (stream.timestampGroups none [] rows)).Pairwise
      fun earlier later => earlier.2 ≤ later.2 := by
  have texts : (rows.map stream.timestampText).Pairwise fun earlier later =>
      ∀ text laterText earlierTime laterTime, earlier = some text → later = some laterText →
        stream.parse text = .ok earlierTime → stream.parse laterText = .ok laterTime →
          earlierTime ≤ laterTime := by
    refine pairwise_map.mpr (ordered.imp_of_mem ?_)
    intro earlier later mem laterMem compared _ _ _ _ named laterNamed parsed laterParsed
    exact compared _ _ (timestamp_of_text (timed earlier mem) named parsed)
      (timestamp_of_text (timed later laterMem) laterNamed laterParsed)
  have groups := pairwise_map.mp (texts.sublist (timestampGroups_none rows))
  refine pairwise_filterMap.mpr (groups.imp ?_)
  intro earlier later compared item found other otherFound
  obtain ⟨time, parsed, rfl⟩ := map_eq_some_iff.mp found
  obtain ⟨otherTime, otherParsed, rfl⟩ := map_eq_some_iff.mp otherFound
  exact compared _ _ time otherTime rfl rfl (toOption_eq_some parsed) (toOption_eq_some otherParsed)

theorem columns_of_valid {file : CsvFile}
    (valid : validateColumns stream.configuredSchema file.columns = .ok ()) :
    stream.schema.timestamp ∈ file.columns ∧ stream.schema.symbol ∈ file.columns := by
  unfold schema
  cases configured : stream.configuredSchema with
  | none =>
    rw [configured, validateColumns] at valid
    split at valid
    · cases valid
    · next expected =>
      rw [not_ne_iff.mp expected]
      decide
  | some schema =>
    rw [configured, validateColumns] at valid
    split at valid
    · cases valid
    · next complete =>
      have present := filter_eq_nil_iff.mp (not_ne_iff.mp complete)
      simp only [decide_eq_true_eq, not_not] at present
      exact ⟨present _ (by simp [requiredColumns]),
        present _ (by simp [requiredColumns])⟩

/-- A line with a field for each column has a symbol. -/
theorem symbol_of_complete {file : CsvFile} (complete : file.Complete)
    (present : stream.schema.symbol ∈ file.columns) {row : CsvRow}
    (mem : row ∈ rows file.columns file.lines) : ∃ symbol, stream.symbol row = .ok symbol := by
  obtain ⟨line, among, filled⟩ := mem_filterMap.mp mem
  rcases complete.full line among with empty | ⟨visible, full⟩
  · rw [CsvLine.row, if_pos empty] at filled
    cases filled
  · have within := (idxOf_lt_length_iff.mpr present).trans_le full
    obtain ⟨same, read, carries⟩ := (legible_of_complete complete present among).read _ visible
      (getElem?_eq_getElem within)
    obtain rfl := Option.mem_unique filled read
    exact ⟨_, by rw [symbol, field, carries]; rfl⟩

theorem lift_bind {State Value Middle Next : Type} (value : Value)
    (rest : Value → Except Failure Middle)
    (next : Middle → EStateM Failure State Next) :
    (liftExcept (Except.ok value >>= rest) >>= next) = (liftExcept (rest value) >>= next) :=
  rfl

/-- Reading a row emits the bar that it stands for. -/
theorem readRow_emits (row : CsvRow) (time : DateTime) :
    stream.readRow row time = stream.emitRow row time := by
  unfold readRow emitRow rowBar
  cases stream.sessionIdFor time with
  | error failure => rfl
  | ok session =>
    rw [lift_ok, lift_bind]
    by_cases outside : (stream.sessionWindow.isSome && session.isNone) = true
    · rw [if_pos outside, if_pos outside]
      rfl
    · rw [if_neg outside, if_neg outside]
      cases stream.toBar row with
      | error failure =>
        dsimp only
        by_cases refused : failure.isValueError = true
        · rw [if_pos refused, if_pos refused]
          rfl
        · rw [if_neg refused, if_neg refused]
          rfl
      | ok bar =>
        dsimp only
        cases stream.withSessionMetadata bar session with
        | error failure => rfl
        | ok bar =>
          rw [lift_ok, lift_bind, Option.filter_some]
          by_cases seen : stream.barVisibleInRange bar = true
          · rw [if_pos seen, if_pos seen]
            rfl
          · rw [if_neg seen, if_neg seen]
            rfl

theorem readSelected_emits (session : Option String)
    (found : List FutureContractCandidate × Dict InstrumentId Bar)
    (selected : FutureContractCandidate) :
    stream.readSelected session found selected = stream.emitSelected session found selected := by
  unfold readSelected emitSelected rollBar
  cases found.2.get? selected.instrumentId with
  | none => rfl
  | some concrete =>
    dsimp only
    generalize (if stream.continuousInstrumentId.getD selected.instrumentId =
      selected.instrumentId then Except.ok concrete else _) = output
    cases output with
    | error failure => rfl
    | ok bar =>
      rw [lift_ok, lift_bind]
      cases stream.withSessionMetadata bar session with
      | error failure => rfl
      | ok bar =>
        rw [lift_ok, lift_bind]
        by_cases seen : stream.barVisibleInRange bar = true
        · rw [if_pos seen, if_pos seen]
          cases FutureRollSelection.create _ <;> rfl
        · rw [if_neg seen, if_neg seen]
          rfl

/-- Reading a group emits the bar of the contract selected in it, with its selection. -/
theorem readGroup_emits
    (select : List FutureContractCandidate → Selector → ContractSelection × Selector)
    (rows : List CsvRow) (time : DateTime) :
    stream.readGroup select time rows = stream.emitGroup select rows time := by
  unfold readGroup emitGroup groupCandidates
  cases stream.sessionIdFor time with
  | error failure => rfl
  | ok session =>
    rw [lift_ok, lift_bind]
    by_cases outside : (stream.sessionWindow.isSome && session.isNone) = true
    · rw [if_pos outside, if_pos outside]
      rfl
    · rw [if_neg outside, if_neg outside]
      cases stream.sessionDateFor session time with
      | error failure => rfl
      | ok date =>
        rw [lift_ok, lift_bind]
        cases stream.candidates date rows ([], .empty) with
        | error failure => rfl
        | ok found =>
          rw [lift_ok, lift_bind]
          by_cases empty : found.1.isEmpty = true
          · rw [if_pos empty, if_pos empty]
            rfl
          · rw [if_neg empty, if_neg empty]
            simp only [readSelected_emits]
            rfl

theorem rowsFrom_header (file : CsvFile) :
    file.rowsFrom file.headerWidth = rows file.columns file.lines := by
  rw [CsvFile.rowsFrom, Nat.sub_self]
  cases file.lines <;> rfl

theorem rows_of_skips {file : CsvFile} {start : DateTime} (starts : stream.start = some start)
    {offset : Nat} {early : List CsvRow}
    (skips : Skips stream.parse stream.schema.timestamp start file offset early)
    (chronological : stream.Chronological file)
    (full : ∀ row ∈ rows file.columns file.lines, ∃ symbol, stream.symbol row = .ok symbol) :
    stream.iterAllSupportedRows (file.rowsFrom offset) =
      stream.iterAllSupportedRows (rows file.columns file.lines) := by
  have timed := chronological.timed
  rw [skips.rows_eq] at full timed ⊢
  have before : ∀ item ∈ stream.timedRows early, item.2 < start := by
    intro item mem
    obtain ⟨among, known⟩ := mem_timedRows mem
    obtain ⟨time, ⟨text, named, parsed⟩, earlier⟩ := skips.before item.1 among
    have same : stream.timestamp item.1 = .ok time := by
      rw [timestamp, field, named]
      exact parsed
    obtain rfl := ok_unique known same
    exact earlier
  calc stream.iterAllSupportedRows (file.rowsFrom offset)
      = stream.walk stream.readRow (stream.timedRows (file.rowsFrom offset)) :=
        iterAllSupportedRows_walk
          (fun row mem => full row (mem_append_right early mem))
          fun row mem => timed row (mem_append_right early mem)
    _ = stream.walk stream.readRow (stream.timedRows (early ++ file.rowsFrom offset)) := by
        rw [timedRows_append, walk_skips starts _ before]
    _ = stream.iterAllSupportedRows (early ++ file.rowsFrom offset) :=
        (iterAllSupportedRows_walk full timed).symm

theorem timed_timestampGroups {rows : List CsvRow}
    (timed : ∀ row ∈ rows, ∃ time, stream.timestamp row = .ok time) :
    ∀ group ∈ stream.timestampGroups none [] rows, ∃ time, stream.parse group.1 = .ok time := by
  intro group mem
  obtain ⟨row, among, text⟩ := mem_timestampGroups mem
  obtain ⟨time, known⟩ := timed row among
  obtain ⟨own, named, parsed⟩ := parse_timestampText known
  obtain rfl := Option.mem_unique text named
  exact ⟨time, parsed⟩

theorem groups_of_skips
    {select : List FutureContractCandidate → Selector → ContractSelection × Selector}
    {file : CsvFile} {start : DateTime} (starts : stream.start = some start) {offset : Nat}
    {early : List CsvRow}
    (skips : Skips stream.parse stream.schema.timestamp start file offset early)
    (chronological : stream.Chronological file) :
    stream.iterSelectedContractRows select
        (stream.timestampGroups none [] (file.rowsFrom offset)) =
      stream.iterSelectedContractRows select
        (stream.timestampGroups none [] (rows file.columns file.lines)) := by
  have timed := chronological.timed
  rw [skips.rows_eq] at timed ⊢
  have texts : ∀ row ∈ early, ∃ text, stream.timestampText row = some text := by
    intro row mem
    obtain ⟨time, known⟩ := timed row (mem_append_left _ mem)
    obtain ⟨text, named, -⟩ := parse_timestampText known
    exact ⟨text, named⟩
  have split : stream.timestampGroups none [] (early ++ file.rowsFrom offset) =
      stream.timestampGroups none [] early ++
        stream.timestampGroups none [] (file.rowsFrom offset) :=
    timestampGroups_append texts skips.apart
  have before : ∀ item ∈ stream.timedGroups (stream.timestampGroups none [] early),
      item.2 < start := by
    intro item mem
    obtain ⟨group, among, known⟩ := mem_timedGroups mem
    obtain ⟨row, rowAmong, same⟩ := mem_timestampGroups among
    obtain ⟨time, ⟨text, named, parsed⟩, earlier⟩ := skips.before row rowAmong
    rw [timestampText, named, join_some] at same
    obtain rfl := Option.some.inj same
    obtain rfl := ok_unique known parsed
    exact earlier
  rw [iterSelectedContractRows_walk (timed_timestampGroups timed), split, timedGroups_append,
    walk_skips starts _ before]
  refine iterSelectedContractRows_walk (timed_timestampGroups ?_)
  exact fun row mem => timed row (mem_append_right early mem)

theorem rows_of_seekOffset {isoformat : DateTime → String} {file : CsvFile}
    (complete : file.Complete) {timestampColumn : String} {index : CsvIndex}
    (written : write stream.parse isoformat file timestampColumn = .ok index) :
    stream.seekOffset file (some index) = file.headerWidth ∨
      ∃ start, stream.start = some start ∧ ∃ early, Skips stream.parse
        stream.schema.timestamp start file (stream.seekOffset file (some index)) early := by
  unfold seekOffset
  split
  · exact .inl rfl
  · cases found : startOffset (some index) stream.start stream.schema.timestamp
        file.headerWidth with
    | none => exact .inl rfl
    | some offset =>
      cases starts : stream.start with
      | none =>
        rw [starts] at found
        cases found
      | some start =>
        rw [starts] at found
        exact .inr ⟨start, rfl, (write_indexes complete written).skips found⟩

theorem seekOffset_none (file : CsvFile) : stream.seekOffset file none = file.headerWidth := by
  unfold seekOffset
  split
  · rfl
  · cases stream.start <;> rfl

/-- Two ISO texts of consecutive days. -/
def isoTimes : String → Except Failure IsoDateTime
  | "2026-01-05T15:00:00+00:00" => .ok (.aware (20458 * oneDay + 54000 * oneSecond))
  | "2026-01-06T15:00:00+00:00" => .ok (.aware (20459 * oneDay + 54000 * oneSecond))
  | _ => .error (.valueError "Invalid isoformat string")

def minuteFields (time symbol : String) : List String :=
  [time, symbol, "10", "10", "10", "10", "1"]

def twoDays : CsvFile where
  columns := requiredColumns {}
  headerWidth := 43
  lines :=
    [⟨40, by decide, minuteFields "2026-01-05T15:00:00Z" "ESH6"⟩,
     ⟨1, by decide, [""]⟩,
     ⟨40, by decide, minuteFields "2026-01-06T15:00:00Z" "ESH6"⟩,
     ⟨40, by decide, minuteFields "2026-01-06T15:00:00Z" "ESM6"⟩]

def twoDaysIndex : CsvIndex where
  buckets := [⟨20458, 43, 0⟩, ⟨20459, 84, 1⟩]
  headerOffset := 43
  rowCount := 3
  timestampColumn := "ts_event"

def marchContract : InstrumentId :=
  ⟨⟨"FUTURE.CME.ESH6", rfl⟩⟩

def juneContract : InstrumentId :=
  ⟨⟨"FUTURE.CME.ESM6", rfl⟩⟩

def laterDay : HistoricalBarStream Unit where
  isSupportedSymbol symbol := decide (symbol = "ESH6" ∨ symbol = "ESM6")
  root := some "ES"
  timeframe := "1m"
  start := some (20459 * oneDay)
  configuredSchema := some {}
  parse := parseHistoricalTsEvent isoTimes
  toBar row := do
    let time := (row.get? "ts_event").join.getD ""
    let symbol := (row.get? "symbol").join
    let startTime ← parseHistoricalTsEvent isoTimes time
    Bar.create {
      instrumentId := if symbol = some "ESH6" then marchContract else juneContract
      startTime
      endTime := startTime + 60 * oneSecond
      timeframe := "1m"
      sessionId := String.ofList (time.toList.take 10)
      openPrice := 10
      high := 10
      low := 10
      close := 10
      volume := 1
      isComplete := true }
  dateIsoFormat _ := "2026-01-06"
  dateFromIsoFormat _ := .ok 20459

theorem laterDay_written :
    write laterDay.parse (fun _ => "") twoDays "ts_event" = .ok twoDaysIndex := by
  decide +kernel

theorem chronological_of_times {file : CsvFile}
    (timed : ∀ row ∈ rows file.columns file.lines, (stream.timestamp row).toOption.isSome)
    (ordered : (rows file.columns file.lines).Pairwise fun earlier later =>
      (stream.timestamp earlier).toOption.getD 0 ≤ (stream.timestamp later).toOption.getD 0) :
    stream.Chronological file where
  timed := by
    intro row mem
    obtain ⟨time, known⟩ := isSome_iff_exists.mp (timed row mem)
    exact ⟨time, toOption_eq_some known⟩
  ordered := by
    refine ordered.imp ?_
    intro earlier later atMost earlierTime laterTime earlierKnown laterKnown
    rw [earlierKnown, laterKnown] at atMost
    exact atMost

theorem laterDay_chronological : laterDay.Chronological twoDays :=
  chronological_of_times (by decide +kernel) (by decide +kernel)

theorem twoDays_complete : twoDays.Complete := by
  constructor <;> decide +kernel

/-- The first day is a line without a symbol. -/
def truncatedDay : CsvFile :=
  { twoDays with lines := ⟨21, by decide, ["2026-01-05T15:00:00Z"]⟩ :: twoDays.lines.drop 1 }

end HistoricalBarStream

end Qts
