import Qts.JsonValues
import Qts.RuntimeFailures

/-! # Events of a runtime -/

namespace Qts

open PythonText Check StringId Option

structure EventId extends StringId

structure RuntimeRunId extends StringId

structure CausationId extends StringId

/-- Why an event is refused, or why it cannot be read or advanced. -/
inductive EventFailure
  | valueError (msg : String)
  | typeError (msg : String)
  | migrationMissing (kind version : String)
  | migrationCycle (kind version : String)
  | singleWriterViolation

/-- The built-in conversions to text that the runtime applies to kinds and payload values. -/
structure EventTexts where
  lower : String → String
  json : Json → String
  json_string : ∀ text, json (.string text) = text

def Check.require (checks : List Check) : Except EventFailure Unit :=
  match firstFailure checks with
  | some msg => .error (.valueError msg)
  | none => .ok ()

def PythonText.startsWith (text : String) (prefixes : List String) : Bool :=
  prefixes.any fun start => start.toList.isPrefixOf text.toList

structure RuntimeEventFields where
  kind : String
  payload : JsonObject
  eventId : Option EventId := none
  parentEventId : Option EventId := none
  runId : Option RuntimeRunId := none
  mode : Option String := none
  sequenceNo : Option Int := none
  tsEvent : DateTime
  tsIngest : DateTime
  accountId : Option AccountId := none
  strategyId : Option StrategyId := none
  instrumentId : Option InstrumentId := none
  correlationId : Option CorrelationId := none
  causationId : Option CausationId := none
  executionEnvironment : Option String := none
  payloadSchemaVersion : String := "1"

namespace RuntimeEventFields

variable (texts : EventTexts) (fields : RuntimeEventFields)

def requiresCorrelationId : Bool :=
  startsWith (texts.lower fields.kind)
    ["runtime.order", "order.", "order_", "runtime.risk", "risk.", "risk_", "runtime.fill",
      "fill.", "fill_", "runtime.broker_report", "broker_report", "runtime.broker_rejected",
      "broker_rejected"]

def requiresClientOrderId : Bool :=
  startsWith (texts.lower fields.kind)
    ["runtime.order", "order.", "order_", "runtime.broker_report", "broker_report",
      "runtime.fill", "fill.", "fill_"]

def requiresCausationId : Bool :=
  startsWith (texts.lower fields.kind) ["runtime.fill", "fill.", "fill_"]

def clientOrderIdShown : Bool :=
  match fields.payload.get? "client_order_id" with
  | some (.string text) => !isBlank text
  | _ => false

def checks : List Check :=
  [⟨fields.requiresCorrelationId texts && fields.correlationId.isNone,
      "correlation_id is required for order, risk, and fill events"⟩,
   ⟨fields.requiresClientOrderId texts && !fields.clientOrderIdShown,
      "client_order_id is required for order and fill events"⟩,
   ⟨fields.requiresCausationId texts && fields.causationId.isNone,
      "causation_id is required for fill events"⟩,
   ⟨fields.sequenceNo.any fun sequenceNo => decide (sequenceNo ≤ 0),
      "sequence_no must be positive"⟩]

/-- The fields as they read back, with the keys of the payload in order. -/
def reread : RuntimeEventFields :=
  { fields with payload := fields.payload.reread }

theorem clientOrderIdShown_reread :
    fields.reread.clientOrderIdShown = fields.clientOrderIdShown := by
  simp only [clientOrderIdShown, reread, JsonObject.get?_reread]
  cases fields.payload.get? "client_order_id" with
  | none => rfl
  | some value => cases value <;> rfl

theorem checks_reread : fields.reread.checks texts = fields.checks texts := by
  have shown := fields.clientOrderIdShown_reread
  simp only [checks, shown]
  rfl

end RuntimeEventFields

structure RuntimeEvent (texts : EventTexts) extends RuntimeEventFields where
  valid : firstFailure (toRuntimeEventFields.checks texts) = none

def RuntimeEventFields.create (texts : EventTexts) (fields : RuntimeEventFields) :
    Except EventFailure (RuntimeEvent texts) :=
  match checked : firstFailure (fields.checks texts) with
  | some msg => .error (.valueError msg)
  | none => .ok ⟨fields, checked⟩

theorem RuntimeEventFields.create_valid {texts : EventTexts} (event : RuntimeEvent texts) :
    event.toRuntimeEventFields.create texts = .ok event := by
  unfold create
  split
  · next failed =>
    rw [event.valid] at failed
    cases failed
  · rfl

theorem RuntimeEventFields.create_eq_ok {texts : EventTexts} {fields : RuntimeEventFields}
    {event : RuntimeEvent texts} (created : fields.create texts = .ok event) :
    event.toRuntimeEventFields = fields := by
  unfold create at created
  split at created
  · cases created
  · cases created
    rfl

structure RuntimeEnvelope where
  eventId : Option String
  parentEventId : Option String
  runId : Option String
  mode : Option String
  runtimeMode : Option String
  platformBaselineVersion : String
  sequenceNo : Option Int
  tsEvent : DateTime
  tsIngest : DateTime
  accountId : Option String
  strategyId : Option String
  instrumentId : Option String
  correlationId : Option String
  causationId : Option String
  kind : String
  eventType : String
  executionEnvironment : Option String
  payloadSchemaVersion : String
  payload : JsonObject

def RuntimeEventFields.toEnvelope (fields : RuntimeEventFields) (sequenceNo : Option Int) :
    RuntimeEnvelope where
  eventId := fields.eventId.map (·.value)
  parentEventId := fields.parentEventId.map (·.value)
  runId := fields.runId.map (·.value)
  mode := fields.mode
  runtimeMode := fields.mode
  platformBaselineVersion := "qts-platform-v1"
  sequenceNo := fields.sequenceNo <|> sequenceNo
  tsEvent := fields.tsEvent
  tsIngest := fields.tsIngest
  accountId := fields.accountId.map (·.value)
  strategyId := fields.strategyId.map (·.value)
  instrumentId := fields.instrumentId.map (·.value)
  correlationId := fields.correlationId.map (·.value)
  causationId := fields.causationId.map (·.value)
  kind := fields.kind
  eventType := fields.kind
  executionEnvironment := fields.executionEnvironment
  payloadSchemaVersion := fields.payloadSchemaVersion
  payload := fields.payload

namespace RuntimeEnvelope

/-- A field that is missing or blank. -/
def lacks (value : Option String) : Bool :=
  value.all isBlank

def canonicalChecks (row : RuntimeEnvelope) : List Check :=
  [⟨lacks row.runId, "run_id is required for runtime event envelope"⟩,
   ⟨lacks row.runtimeMode, "runtime_mode is required for runtime event envelope"⟩,
   ⟨row.sequenceNo.isNone, "sequence_no is required for runtime event envelope"⟩,
   ⟨lacks row.eventId, "event_id is required for runtime event envelope"⟩,
   ⟨lacks (some row.payloadSchemaVersion),
      "payload_schema_version is required for runtime event envelope"⟩,
   ⟨lacks (some row.platformBaselineVersion),
      "platform_baseline_version is required for runtime event envelope"⟩]

/-- Require identity, mode, and sequence fields before persistence. -/
def requireCanonicalEnvelope (row : RuntimeEnvelope) : Except EventFailure Unit :=
  require row.canonicalChecks

/-- An envelope as it reads back from its line, with sorted keys. -/
def written (row : RuntimeEnvelope) : RuntimeEnvelope :=
  { row with payload := row.payload.reread }

end RuntimeEnvelope

def readText (item : Option String) : String :=
  item.getD "None"

def StringId.read (className text : String) : Except EventFailure StringId :=
  if visible : isBlank text = false then .ok ⟨text, visible⟩
  else .error (.valueError (className ++ " must not be empty"))

theorem StringId.read_value (className : String) (id : StringId) :
    read className id.value = .ok id := by
  simp only [read, id.notEmpty, dite_true]

def StringId.readOptional {Id : Type} (make : StringId → Id) (className : String) :
    Option String → Except EventFailure (Option Id)
  | none => .ok none
  | some text => do
    let id ← read className text
    return some (make id)

theorem StringId.readOptional_map {Id : Type} {make : StringId → Id} {base : Id → StringId}
    (same : ∀ id, make (base id) = id) (className : String) (id : Option Id) :
    readOptional make className (id.map fun id => (base id).value) = .ok id := by
  cases id with
  | none => rfl
  | some id =>
    simp only [map_some, readOptional, read_value, bind, Except.bind, pure, Except.pure, same]

def readSequenceNo : Option Int → Except EventFailure Int
  | some sequenceNo => .ok sequenceNo
  | none => .error (.typeError ("int() argument must be a string, a bytes-like object " ++
      "or a real number, not 'NoneType'"))

def RuntimeEvent.fromEnvelope (texts : EventTexts) (row : RuntimeEnvelope) :
    Except EventFailure (RuntimeEvent texts) := do
  let eventId ← read "EventId" (readText row.eventId)
  let parentEventId ← readOptional EventId.mk "EventId" row.parentEventId
  let runId ← read "RuntimeRunId" (readText row.runId)
  let sequenceNo ← readSequenceNo row.sequenceNo
  let accountId ← readOptional AccountId.mk "AccountId" row.accountId
  let strategyId ← readOptional StrategyId.mk "StrategyId" row.strategyId
  let instrumentId ← readOptional InstrumentId.mk "InstrumentId" row.instrumentId
  let correlationId ← readOptional CorrelationId.mk "CorrelationId" row.correlationId
  let causationId ← readOptional CausationId.mk "CausationId" row.causationId
  RuntimeEventFields.create texts {
    kind := row.kind
    payload := row.payload
    eventId := some ⟨eventId⟩
    parentEventId
    runId := some ⟨runId⟩
    mode := some (readText row.runtimeMode)
    sequenceNo := some sequenceNo
    tsEvent := row.tsEvent
    tsIngest := row.tsIngest
    accountId, strategyId, instrumentId, correlationId, causationId
    executionEnvironment := row.executionEnvironment
    payloadSchemaVersion := row.payloadSchemaVersion }

namespace RuntimeEvent

variable {texts : EventTexts}

/-- An event as it reads back from its line. -/
def reread (event : RuntimeEvent texts) : RuntimeEvent texts where
  toRuntimeEventFields := event.toRuntimeEventFields.reread
  valid := by
    rw [RuntimeEventFields.checks_reread]
    exact event.valid

/-- The fields that the canonical envelope requires of an event. -/
structure Canonical (event : RuntimeEvent texts) : Prop where
  runId : event.runId.isSome = true
  mode : event.mode.isSome = true
  eventId : event.eventId.isSome = true

theorem not_lacks {value : Option String} (present : RuntimeEnvelope.lacks value = false) :
    value.isSome = true := by
  cases value with
  | none => cases present
  | some _ => rfl

theorem canonical_of_required {event : RuntimeEvent texts} {sequenceNo : Option Int}
    (required : (event.toEnvelope sequenceNo).requireCanonicalEnvelope = .ok ()) :
    event.Canonical := by
  have passed : firstFailure (event.toEnvelope sequenceNo).canonicalChecks = none := by
    unfold RuntimeEnvelope.requireCanonicalEnvelope require at required
    split at required
    · cases required
    · assumption
  rw [firstFailure_none] at passed
  simp only [RuntimeEnvelope.canonicalChecks, List.mem_cons, List.not_mem_nil, or_false,
    forall_eq_or_imp, forall_eq] at passed
  obtain ⟨run, mode, _, identity, _, _⟩ := passed
  refine ⟨?_, not_lacks mode, ?_⟩
  · simpa [RuntimeEventFields.toEnvelope] using not_lacks run
  · simpa [RuntimeEventFields.toEnvelope] using not_lacks identity

theorem fromEnvelope_written {event : RuntimeEvent texts} (canonical : event.Canonical) :
    fromEnvelope texts (event.toEnvelope none).written =
      match event.sequenceNo with
      | some _ => .ok event.reread
      | none => .error (.typeError ("int() argument must be a string, a bytes-like object " ++
          "or a real number, not 'NoneType'")) := by
  obtain ⟨runId, run⟩ := isSome_iff_exists.mp canonical.runId
  obtain ⟨mode, modeShown⟩ := isSome_iff_exists.mp canonical.mode
  obtain ⟨eventId, identity⟩ := isSome_iff_exists.mp canonical.eventId
  have read : ∀ {Id : Type} (make : StringId → Id) (base : Id → StringId),
      (∀ id, make (base id) = id) → ∀ (className : String) (id : Option Id),
        readOptional make className (id.map fun id => (base id).value) = .ok id :=
    fun _ _ same className id => readOptional_map same className id
  simp only [fromEnvelope, RuntimeEnvelope.written, RuntimeEventFields.toEnvelope, run, identity,
    modeShown, map_some, readText, getD_some, read_value,
    read EventId.mk EventId.toStringId (fun _ => rfl),
    read AccountId.mk AccountId.toStringId (fun _ => rfl),
    read StrategyId.mk StrategyId.toStringId (fun _ => rfl),
    read InstrumentId.mk InstrumentId.toStringId (fun _ => rfl),
    read CorrelationId.mk CorrelationId.toStringId (fun _ => rfl),
    read CausationId.mk CausationId.toStringId (fun _ => rfl), bind, Except.bind]
  cases numbered : event.sequenceNo with
  | none => rfl
  | some sequenceNo =>
    rw [← RuntimeEventFields.create_valid event.reread]
    simp only [readSequenceNo, reread, RuntimeEventFields.reread, run, identity, modeShown,
      numbered]
    rfl

end RuntimeEvent

structure BaseEventFields where
  eventId : EventId
  eventType : String
  eventTime : DateTime
  source : String
  partitionKey : String
  correlationId : Option CorrelationId := none
  causationId : Option CausationId := none

def BaseEventFields.checks (fields : BaseEventFields) : List Check :=
  [⟨isBlank fields.eventType, "event_type must not be empty"⟩,
   ⟨isBlank fields.source, "source must not be empty"⟩,
   ⟨isBlank fields.partitionKey, "partition_key must not be empty"⟩]

/-- Minimal event envelope used for traceable internal messages. -/
structure BaseEvent extends BaseEventFields where
  valid : firstFailure toBaseEventFields.checks = none

def BaseEventFields.create (fields : BaseEventFields) : Except EventFailure BaseEvent :=
  match checked : firstFailure fields.checks with
  | some msg => .error (.valueError msg)
  | none => .ok ⟨fields, checked⟩

theorem BaseEventFields.create_valid (event : BaseEvent) :
    event.toBaseEventFields.create = .ok event := by
  unfold create
  split
  · next failed =>
    rw [event.valid] at failed
    cases failed
  · rfl

structure BaseEnvelope where
  eventId : String
  eventType : String
  eventTime : DateTime
  source : String
  partitionKey : String
  correlationId : Option String
  causationId : Option String

namespace BaseEvent

def toEnvelope (event : BaseEvent) : BaseEnvelope where
  eventId := event.eventId.value
  eventType := event.eventType
  eventTime := event.eventTime
  source := event.source
  partitionKey := event.partitionKey
  correlationId := event.correlationId.map (·.value)
  causationId := event.causationId.map (·.value)

def fromEnvelope (row : BaseEnvelope) : Except EventFailure BaseEvent := do
  let eventId ← read "EventId" row.eventId
  let correlationId ← readOptional CorrelationId.mk "CorrelationId" row.correlationId
  let causationId ← readOptional CausationId.mk "CausationId" row.causationId
  BaseEventFields.create {
    eventId := ⟨eventId⟩
    eventType := row.eventType
    eventTime := row.eventTime
    source := row.source
    partitionKey := row.partitionKey
    correlationId, causationId }

theorem fromEnvelope_toEnvelope (event : BaseEvent) :
    fromEnvelope event.toEnvelope = .ok event := by
  have correlation : readOptional CorrelationId.mk "CorrelationId"
      (event.correlationId.map (·.value)) = .ok event.correlationId :=
    readOptional_map (fun _ => rfl) _ _
  have causation : readOptional CausationId.mk "CausationId"
      (event.causationId.map (·.value)) = .ok event.causationId :=
    readOptional_map (fun _ => rfl) _ _
  simp only [fromEnvelope, toEnvelope, read_value, correlation, causation, bind, Except.bind]
  exact BaseEventFields.create_valid event

end BaseEvent

inductive StoredEvent (texts : EventTexts)
  | base (event : BaseEvent)
  | runtime (event : RuntimeEvent texts)

namespace StoredEvent

variable {texts : EventTexts}

def correlationId : StoredEvent texts → Option CorrelationId
  | base event => event.correlationId
  | runtime event => event.correlationId

def payloadItem (payload : JsonObject) (key : String) : Option Json :=
  match payload.get? key with
  | some .null => none
  | item => item

def partitionKey : StoredEvent texts → String
  | base event => event.partitionKey
  | runtime event =>
    match payloadItem event.payload "partition_key", payloadItem event.payload "order_id" with
    | some key, _ => texts.json key
    | none, some orderId => texts.json orderId
    | none, none => event.kind

/-- An event as it reads back from its line. -/
def reread : StoredEvent texts → StoredEvent texts
  | base event => base event
  | runtime event => runtime event.reread

def ingestedAt (now : DateTime) : StoredEvent texts → StoredEvent texts
  | base event => base event
  | runtime event => runtime { event with tsIngest := now, valid := event.valid }

/-- The same event up to the ingest time and the order of the payload's keys. -/
inductive Same : StoredEvent texts → StoredEvent texts → Prop
  | base (event : BaseEvent) : Same (base event) (base event)
  | runtime {first second : RuntimeEvent texts}
      (fields : { first.toRuntimeEventFields.reread with tsIngest := second.tsIngest } =
        second.toRuntimeEventFields.reread) : Same (runtime first) (runtime second)

end StoredEvent

end Qts
