import Qts.BarConsolidation
import Qts.Bisection

/-! # Reading historical CSV files -/

namespace Qts

open PythonText

/-- A row by the names of the columns; a column behind the end of its line has no text. -/
abbrev CsvRow := Dict String (Option String)

/-- A line of a file: its bytes, and the texts between its commas. -/
structure CsvLine where
  width : Nat
  pos : 0 < width
  fields : List String

/-- A file without quotes, in which only the ends of lines break a line. -/
structure CsvFile where
  columns : List String
  headerWidth : Nat
  lines : List CsvLine

namespace CsvLine

def size (lines : List CsvLine) : Nat :=
  (lines.map CsvLine.width).sum

/-- `not line.strip()` on bytes, which strips ASCII whitespace only. -/
def isBlank (line : CsvLine) : Bool :=
  match line.fields with
  | [text] => text.toList.all fun char => char ∈ [' ', '\t', '\n', '\r', '\x0b', '\x0c']
  | _ => false

def items : List String → List String → List (String × Option String)
  | [], _ => []
  | column :: columns, fields => (column, fields.head?) :: items columns fields.tail

/-- What `csv.DictReader` reads: an empty line is no row, and a short one is filled with `None`. -/
def row (columns : List String) (line : CsvLine) : Option CsvRow :=
  if line.fields = [""] then none else some (.ofItems (items columns line.fields))

def rows (columns : List String) (lines : List CsvLine) : List CsvRow :=
  lines.filterMap (row columns)

/-- The lines behind a number of bytes. -/
def seek : Nat → List CsvLine → List CsvLine
  | 0, lines => lines
  | _ + 1, [] => []
  | offset + 1, line :: lines => seek (offset + 1 - line.width) lines

end CsvLine

def CsvFile.rowsFrom (file : CsvFile) (offset : Nat) : List CsvRow :=
  CsvLine.rows file.columns (CsvLine.seek (offset - file.headerWidth) file.lines)

inductive IsoDateTime
  | naive (time : Int)
  | aware (instant : DateTime)

/-- Parse a UTC timestamp; of a fraction the first six digits count. -/
def parseHistoricalTsEvent (fromIsoFormat : String → Except Failure IsoDateTime)
    (value : String) : Except Failure DateTime := do
  let zulu := decide (value.toList.getLast? = some 'Z')
  let chars := if zulu then value.toList.dropLast else value.toList
  let text :=
    if '.' ∈ chars then
      let fraction := ((chars.dropWhile fun char => char ≠ '.').drop 1).take 6
      (chars.takeWhile fun char => char ≠ '.') ++ ['.'] ++
        fraction ++ List.replicate (6 - fraction.length) '0'
    else chars
  match ← fromIsoFormat (String.ofList text ++ if zulu then "+00:00" else "") with
  | .naive _ => throw (.valueError "ts_event must be timezone-aware")
  | .aware instant => return instant

def utcDate (timestamp : DateTime) : Int :=
  timestamp / oneDay

/-- The first row of a day. -/
structure IndexBucket where
  date : Int
  offset : Nat
  rowIndex : Nat
deriving DecidableEq

structure CsvIndex where
  buckets : List IndexBucket
  granularity : String := "day"
  headerOffset : Nat
  rowCount : Nat
  timestampColumn : String
  version : Nat := 1
deriving DecidableEq

namespace CsvIndex

/-- The running values of the index writer. -/
structure Scan where
  offset : Nat
  previousTimestamp : Option DateTime := none
  currentBucketDate : Option Int := none
  rowCount : Nat := 0
  buckets : List IndexBucket := []

variable (parse : String → Except Failure DateTime) (isoformat : DateTime → String)

def scanLine (position : Nat) (scan : Scan) (line : CsvLine) : Except Failure Scan :=
  if line.isBlank then .ok { scan with offset := scan.offset + line.width }
  else
    match line.fields[position]? with
    | none => .error (.valueError "historical CSV row has fewer columns than header")
    | some text => do
      let timestamp ← parse text
      match scan.previousTimestamp.filter fun prev => decide (timestamp < prev) with
      | some prev =>
        throw (.valueError ("historical CSV timestamps are out of order: " ++
          isoformat timestamp ++ " before " ++ isoformat prev))
      | none =>
        let bucketDate := utcDate timestamp
        return {
          offset := scan.offset + line.width
          previousTimestamp := some timestamp
          currentBucketDate := some bucketDate
          rowCount := scan.rowCount + 1
          buckets :=
            if scan.currentBucketDate = some bucketDate then scan.buckets
            else scan.buckets ++ [⟨bucketDate, scan.offset, scan.rowCount⟩] }

def scanLines (position : Nat) : Scan → List CsvLine → Except Failure Scan
  | scan, [] => .ok scan
  | scan, line :: lines => do
    let next ← scanLine parse isoformat position scan line
    scanLines position next lines

def write (file : CsvFile) (timestampColumn : String) : Except Failure CsvIndex := do
  let column := strip timestampColumn
  let columns := file.columns.map strip
  if column = "" then
    throw (.valueError "timestamp_column is required")
  if column ∉ columns then
    throw (.valueError ("timestamp column not found: " ++ column))
  let scan ← scanLines parse isoformat (columns.idxOf column) { offset := file.headerWidth }
    file.lines
  return { buckets := scan.buckets, headerOffset := file.headerWidth, rowCount := scan.rowCount,
           timestampColumn := column }

def startOffset (index : Option CsvIndex) (start : Option DateTime) (timestampColumn : String)
    (headerOffset : Nat) : Option Nat := do
  let start ← start
  let index ← index
  if index.version ≠ 1 ∨ index.granularity ≠ "day" ∨ index.timestampColumn ≠ timestampColumn ∨
      index.headerOffset ≠ headerOffset then none
  let first ← index.buckets.head?
  let dates := index.buckets.map IndexBucket.date
  match Bisection.right (fun date => decide (date ≤ utcDate start)) dates with
  | 0 => some first.offset
  | position + 1 => (index.buckets[position]?).map IndexBucket.offset

end CsvIndex

/-- The columns that carry the meaning of a row. -/
structure HistoricalCsvSchema where
  timestamp : String := "ts_event"
  symbol : String := "symbol"
  openPrice : String := "open"
  high : String := "high"
  low : String := "low"
  close : String := "close"
  volume : String := "volume"
  instrumentId : Option String := some "instrument_id"

namespace HistoricalCsvSchema

def requiredColumns (schema : HistoricalCsvSchema) : List String :=
  [schema.timestamp, schema.symbol, schema.openPrice, schema.high, schema.low, schema.close,
   schema.volume]

def expectedColumns : List String :=
  ["ts_event", "rtype", "publisher_id", "instrument_id", "open", "high", "low", "close",
   "volume", "symbol"]

def validateColumns (schema : Option HistoricalCsvSchema) (columns : List String) :
    Except Failure Unit :=
  match schema with
  | some schema =>
    let missing := schema.requiredColumns.filter fun column => column ∉ columns
    if missing ≠ [] then
      .error (.valueError ("historical CSV columns missing required fields: " ++
        ",".intercalate missing))
    else .ok ()
  | none =>
    if columns ≠ expectedColumns then
      .error (.valueError ("historical CSV columns must be " ++
        ",".intercalate expectedColumns ++ "; got " ++ ",".intercalate columns))
    else .ok ()

end HistoricalCsvSchema

structure FutureContractCandidateFields where
  rootSymbol : String
  symbol : String
  instrumentId : InstrumentId
  asOf : DateTime
  close : Decimal
  volume : Decimal
  sessionDate : Option Int := none

def FutureContractCandidateFields.checks (candidate : FutureContractCandidateFields) :
    List Check :=
  [⟨isBlank candidate.rootSymbol, "root_symbol must not be empty"⟩,
   ⟨isBlank candidate.symbol, "symbol must not be empty"⟩,
   ⟨decide (candidate.volume < 0), "volume must be non-negative"⟩]

structure FutureContractCandidate extends FutureContractCandidateFields where
  valid : Check.firstFailure toFutureContractCandidateFields.checks = none

def FutureContractCandidate.create (fields : FutureContractCandidateFields) :
    Except Failure FutureContractCandidate :=
  match checked : Check.firstFailure fields.checks with
  | none => .ok ⟨fields, checked⟩
  | some msg => .error (.valueError msg)

inductive ContractSelection
  | selected (candidate : FutureContractCandidate)
  | lookupError
  | raised (failure : Failure)

def RegularSessionWindow.sessionDateForTimestamp (window : RegularSessionWindow)
    (timestamp : DateTime) : Except Failure (Option Int) := do
  let instant ← checkedDateTime timestamp
  let localTime ← checkedDateTime (window.exchangeTimezone.localTime instant)
  let time := localTime % oneDay
  let date := localTime / oneDay
  if window.openTime < window.closeTime then
    if window.openTime ≤ time ∧ time < window.closeTime then return some date
    return none
  if window.openTime ≤ time then
    let nextDate ← checkedDate (date + 1)
    return some nextDate
  if time < window.closeTime then return some date
  return none

def RegularSessionWindow.sessionIdForTimestamp (window : RegularSessionWindow)
    (isoformat : Int → String) (timestamp : DateTime) : Except Failure (Option String) := do
  let sessionDate ← window.sessionDateForTimestamp timestamp
  return sessionDate.map isoformat

/-- A stream over the bars of a file; the selector keeps a state of its own. -/
structure HistoricalBarStream (Selector : Type) where
  isSupportedSymbol : String → Bool
  root : Option String
  timeframe : String
  start : Option DateTime := none
  stop : Option DateTime := none
  select : Option (List FutureContractCandidate → Selector → ContractSelection × Selector) := none
  continuousInstrumentId : Option InstrumentId := none
  sessionWindow : Option RegularSessionWindow := none
  configuredSchema : Option HistoricalCsvSchema := none
  parse : String → Except Failure DateTime
  toBar : CsvRow → Except Failure Bar
  dateIsoFormat : Int → String
  dateFromIsoFormat : String → Except Failure Int

structure CsvReading (Selector : Type) where
  selector : Selector
  bars : List Bar := []
  rollSelections : List FutureRollSelection := []

/-- Bars that were emitted before a failure stay emitted. -/
abbrev CsvRead (Selector : Type) := EStateM Failure (CsvReading Selector)

namespace HistoricalBarStream

variable {Selector : Type} (stream : HistoricalBarStream Selector)

def schema : HistoricalCsvSchema :=
  stream.configuredSchema.getD {}

def field (row : CsvRow) (column : String) : Except Failure (Option String) :=
  match row.get? column with
  | none => .error (.keyError column)
  | some text => .ok text

/-- The first use of a text, which raises for `None`. -/
def used (msg : String) : Option String → Except Failure String
  | none => .error (.other msg)
  | some text => .ok text

/-- The symbol of a row; no resolver knows `None`, and counting it as a spread raises. -/
def symbol (row : CsvRow) : Except Failure String := do
  used "argument of type 'NoneType' is not iterable" (← field row stream.schema.symbol)

def timestamp (row : CsvRow) : Except Failure DateTime := do
  let text ← used "'NoneType' object has no attribute 'removesuffix'"
    (← field row stream.schema.timestamp)
  stream.parse text

def sessionIdFor (timestamp : DateTime) : Except Failure (Option String) :=
  match stream.sessionWindow with
  | none => .ok none
  | some window => window.sessionIdForTimestamp stream.dateIsoFormat timestamp

def withSessionMetadata (bar : Bar) (sessionId : Option String) : Except Failure Bar :=
  match sessionId with
  | none => .ok bar
  | some sessionId =>
    match stream.sessionWindow with
    | none => Bar.create { bar.toBarFields with sessionId }
    | some window =>
      if ((strip stream.timeframe).toLower ≠ "1d") then
        Bar.create { bar.toBarFields with sessionId }
      else do
        match ← window.intervalForSessionId stream.dateFromIsoFormat sessionId with
        | none => throw (.other "no interval")  -- a regular window has one for every date
        | some interval =>
          Bar.create { bar.toBarFields with
            startTime := interval.startTime
            endTime := interval.endTime
            sessionId }

def barVisibleInRange (bar : Bar) : Bool :=
  !(stream.start.any fun start => decide (bar.endTime ≤ start)) &&
    !(stream.stop.any fun stop => decide (stop < bar.endTime))

def readRow (row : CsvRow) (timestamp : DateTime) : CsvRead Selector Unit := do
  let sessionOverride ← liftExcept (stream.sessionIdFor timestamp)
  if stream.sessionWindow.isSome && sessionOverride.isNone then
    return ()
  match stream.toBar row with
  | .error failure => if failure.isValueError then return () else throw failure
  | .ok bar => do
    let bar ← liftExcept (stream.withSessionMetadata bar sessionOverride)
    if stream.barVisibleInRange bar then
      modify fun reading => { reading with bars := reading.bars ++ [bar] }

/-- Emit the bars of the rows of supported symbols, up to the end of the range. -/
def iterAllSupportedRows : List CsvRow → CsvRead Selector Unit
  | [] => return ()
  | row :: rows => do
    let symbol ← liftExcept (stream.symbol row)
    if !stream.isSupportedSymbol symbol then
      iterAllSupportedRows rows
    else
      let timestamp ← liftExcept (stream.timestamp row)
      if stream.start.any fun start => decide (timestamp < start) then
        iterAllSupportedRows rows
      else if stream.stop.any fun stop => decide (stop ≤ timestamp) then
        return ()
      else
        stream.readRow row timestamp
        iterAllSupportedRows rows

def timestampText (row : CsvRow) : Option String :=
  (row.get? stream.schema.timestamp).join

/-- The groups of rows with one timestamp text; rows without a text join the group behind them. -/
def timestampGroups : Option String → List CsvRow → List CsvRow → List (String × List CsvRow)
  | none, _, [] => []
  | some text, group, [] => [(text, group)]
  | none, group, row :: rows => timestampGroups (stream.timestampText row) (group ++ [row]) rows
  | some text, group, row :: rows =>
    if stream.timestampText row ≠ some text then
      (text, group) :: timestampGroups (stream.timestampText row) [row] rows
    else
      timestampGroups (some text) (group ++ [row]) rows

def resolverRoot : Except Failure String :=
  match stream.root with
  | none => .error (.valueError "rolling historical streams require a root-aware symbol resolver")
  | some root =>
    if root = "" then
      .error (.valueError "rolling historical streams require a root-aware symbol resolver")
    else .ok root

def candidates (sessionDate : Int) : List CsvRow →
    List FutureContractCandidate × Dict InstrumentId Bar →
      Except Failure (List FutureContractCandidate × Dict InstrumentId Bar)
  | [], found => .ok found
  | row :: rows, found => do
    let symbol ← stream.symbol row
    if !stream.isSupportedSymbol symbol then
      candidates sessionDate rows found
    else
      match stream.toBar row with
      | .error failure =>
        if failure.isValueError then candidates sessionDate rows found else throw failure
      | .ok bar =>
        let root ← stream.resolverRoot
        let candidate ← FutureContractCandidate.create {
          rootSymbol := root
          symbol
          instrumentId := bar.instrumentId
          asOf := bar.endTime
          close := bar.close
          volume := bar.volume
          sessionDate := some sessionDate }
        candidates sessionDate rows (found.1 ++ [candidate], found.2.set bar.instrumentId bar)

def sessionDateFor (sessionOverride : Option String) (timestamp : DateTime) :
    Except Failure Int :=
  match sessionOverride with
  | some sessionId => stream.dateFromIsoFormat sessionId
  | none => .ok (utcDate timestamp)

/-- Emit the bar of the selected contract and record its selection. -/
def readSelected (sessionOverride : Option String)
    (found : List FutureContractCandidate × Dict InstrumentId Bar)
    (selected : FutureContractCandidate) : CsvRead Selector Unit :=
  match found.2.get? selected.instrumentId with
  | none => throw (.keyError selected.instrumentId.value)
  | some selectedBar => do
    let outputInstrumentId := stream.continuousInstrumentId.getD selected.instrumentId
    let outputBar ← liftExcept (
      if outputInstrumentId = selected.instrumentId then .ok selectedBar
      else Bar.create { selectedBar.toBarFields with instrumentId := outputInstrumentId })
    let outputBar ← liftExcept (stream.withSessionMetadata outputBar sessionOverride)
    if stream.barVisibleInRange outputBar then
      let selection ← liftExcept (FutureRollSelection.create {
        continuousInstrumentId := outputInstrumentId
        rootSymbol := selected.rootSymbol
        asOf := outputBar.endTime
        concreteInstrumentId := selected.instrumentId
        sourceSymbol := selected.symbol
        pricesByInstrument := .ofItems (found.1.map fun candidate =>
          (candidate.instrumentId, candidate.close)) })
      modify fun reading => { reading with
        bars := reading.bars ++ [outputBar]
        rollSelections := reading.rollSelections ++ [selection] }

def readGroup
    (select : List FutureContractCandidate → Selector → ContractSelection × Selector)
    (timestamp : DateTime) (rows : List CsvRow) : CsvRead Selector Unit := do
  let sessionOverride ← liftExcept (stream.sessionIdFor timestamp)
  if stream.sessionWindow.isSome && sessionOverride.isNone then
    return ()
  let sessionDate ← liftExcept (stream.sessionDateFor sessionOverride timestamp)
  let found ← liftExcept (stream.candidates sessionDate rows ([], .empty))
  if found.1.isEmpty then
    return ()
  let (answer, selector) := select found.1 (← get).selector
  modify fun reading => { reading with selector }
  match answer with
  | .lookupError => return ()
  | .raised failure => throw failure
  | .selected selected => stream.readSelected sessionOverride found selected

def iterSelectedContractRows
    (select : List FutureContractCandidate → Selector → ContractSelection × Selector) :
    List (String × List CsvRow) → CsvRead Selector Unit
  | [] => return ()
  | group :: groups => do
    let timestamp ← liftExcept (stream.parse group.1)
    if stream.start.any fun start => decide (timestamp < start) then
      iterSelectedContractRows select groups
    else if stream.stop.any fun stop => decide (stop ≤ timestamp) then
      return ()
    else
      stream.readGroup select timestamp group.2
      iterSelectedContractRows select groups

def seekOffset (file : CsvFile) (index : Option CsvIndex) : Nat :=
  if stream.schema.timestamp ∉ file.columns then file.headerWidth
  else (CsvIndex.startOffset index stream.start stream.schema.timestamp file.headerWidth).getD
    file.headerWidth

def read (file : CsvFile) (index : Option CsvIndex) : CsvRead Selector Unit := do
  liftExcept (HistoricalCsvSchema.validateColumns stream.configuredSchema file.columns)
  let rows := file.rowsFrom (stream.seekOffset file index)
  match stream.select with
  | none => stream.iterAllSupportedRows rows
  | some select => stream.iterSelectedContractRows select (stream.timestampGroups none [] rows)

end HistoricalBarStream

end Qts
