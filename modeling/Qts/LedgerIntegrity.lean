import Qts.HashChainedLedgers
import Qts.RaisingCalls

/-! # Integrity of hash-chained ledgers -/

namespace Qts

open ChainedRecord Dict StepRuns JsonObject HashChain Ledger List ResearchAuditLog TrialBudgetLedger

variable {Time : Type} {texts : TimestampTexts Time} {digest : Json → String}
  {format : LedgerFormat Time}

structure SealedRecord (texts : TimestampTexts Time) (digest : Json → String)
    (record : ChainedRecord Time) : Prop where
  payloadHash : record.payloadHash = expectedPayloadHash digest record.payload
  recordId : record.recordId = record.recordHash texts digest

structure IntactFrom (texts : TimestampTexts Time) (digest : Json → String)
    (prev : Option String) (records : List (ChainedRecord Time)) : Prop where
  linked : LinkedFrom (recordHash texts digest) previousRecordHash prev records
  sealed : ∀ record ∈ records, SealedRecord texts digest record

structure IntactLedger (texts : TimestampTexts Time) (digest : Json → String)
    (format : LedgerFormat Time) (lines : List LedgerLine)
    (records : List (ChainedRecord Time)) : Prop where
  listed : listRecords format lines = .ok records
  intact : IntactFrom texts digest none records

theorem intactFrom_cons {prev : Option String} {record : ChainedRecord Time}
    {rest : List (ChainedRecord Time)} :
    IntactFrom texts digest prev (record :: rest) ↔
      (record.previousRecordHash = prev ∧ SealedRecord texts digest record) ∧
        IntactFrom texts digest (some (record.recordHash texts digest)) rest := by
  constructor
  · rintro ⟨⟨link, linked⟩, sealed⟩
    obtain ⟨own, others⟩ := forall_mem_cons.mp sealed
    exact ⟨⟨link, own⟩, linked, others⟩
  · rintro ⟨⟨link, own⟩, linked, others⟩
    exact ⟨⟨link, linked⟩, forall_mem_cons.mpr ⟨own, others⟩⟩

namespace Ledger

variable {line : LedgerLine}

theorem listRecords_cons {rest : List LedgerLine} {records : List (ChainedRecord Time)} :
    listRecords format (line :: rest) = .ok records ↔
      ∃ record later, readLine format line = .ok record ∧
        listRecords format rest = .ok later ∧ records = record.toList ++ later := by
  rw [listRecords]
  cases readLine format line with
  | error failure => exact ⟨nofun, nofun⟩
  | ok record =>
    cases listRecords format rest with
    | error failure => exact ⟨nofun, nofun⟩
    | ok later =>
      constructor
      · intro listed
        exact ⟨record, later, rfl, rfl, (Except.ok.inj listed).symm⟩
      · rintro ⟨_, _, ⟨⟩, ⟨⟩, rfl⟩
        rfl

theorem listRecords_append {first second : List LedgerLine} {records later :
    List (ChainedRecord Time)} (listed : listRecords format first = .ok records)
    (rest : listRecords format second = .ok later) :
    listRecords format (first ++ second) = .ok (records ++ later) := by
  induction first generalizing records with
  | nil =>
    cases listed
    exact rest
  | cons line lines ih =>
    obtain ⟨record, others, read, listedRest, rfl⟩ := listRecords_cons.mp listed
    exact listRecords_cons.mpr ⟨record, others ++ later, read, ih listedRest,
      append_assoc _ _ _⟩

variable {lineNumber : Nat} {prev : Option String}

theorem recordReasons_eq_nil {record : ChainedRecord Time} :
    recordReasons texts digest lineNumber prev record = [] ↔
      record.previousRecordHash = prev ∧ SealedRecord texts digest record := by
  unfold recordReasons
  dsimp only
  rw [append_eq_nil_iff, append_eq_nil_iff]
  constructor
  · rintro ⟨⟨payloadHash, link⟩, recordId⟩
    refine ⟨?_, ?_, ?_⟩
    · by_contra other
      rw [if_pos other] at link
      cases link
    · by_contra other
      rw [if_pos other] at payloadHash
      cases payloadHash
    · by_contra other
      rw [if_pos other] at recordId
      cases recordId
  · rintro ⟨link, payloadHash, recordId⟩
    rw [if_neg (not_not.mpr payloadHash), if_neg (not_not.mpr link), if_neg (not_not.mpr recordId)]
    exact ⟨⟨rfl, rfl⟩, rfl⟩

theorem parseRecord_ok {record : ChainedRecord Time} (shown : line ≠ .blank) :
    parseRecord format lineNumber line = .ok record ↔ readLine format line = .ok (some record) := by
  cases line with
  | blank => exact absurd rfl shown
  | invalid failure => exact ⟨nofun, nofun⟩
  | notObject => exact ⟨nofun, nofun⟩
  | object payload =>
    rw [parseRecord, readLine]
    cases format.fromPayload payload with
    | error failure => exact ⟨nofun, nofun⟩
    | ok read =>
      constructor
      · intro parsed
        cases parsed
        rfl
      · intro parsed
        cases parsed
        rfl

theorem readLine_shown (shown : line ≠ .blank) : readLine format line ≠ .ok none := by
  intro read
  cases line with
  | blank => exact shown rfl
  | invalid failure => cases read
  | notObject => cases read
  | object payload =>
    rw [readLine] at read
    cases known : format.fromPayload payload with
    | error failure =>
      rw [known] at read
      cases read
    | ok record =>
      rw [known] at read
      cases read

theorem verifyFrom_shown {rest : List LedgerLine} (shown : line ≠ .blank) :
    verifyFrom texts digest format lineNumber prev (line :: rest) =
      match parseRecord format lineNumber line with
      | .error reason => reason :: verifyFrom texts digest format (lineNumber + 1) none rest
      | .ok record =>
        recordReasons texts digest lineNumber prev record ++
          verifyFrom texts digest format (lineNumber + 1)
            (some (record.recordHash texts digest)) rest := by
  cases line with
  | blank => exact absurd rfl shown
  | invalid failure => rfl
  | notObject => rfl
  | object payload => rfl

theorem verifyFrom_eq_nil {lines : List LedgerLine} :
    verifyFrom texts digest format lineNumber prev lines = [] ↔
      ∃ records, listRecords format lines = .ok records ∧
        IntactFrom texts digest prev records := by
  induction lines generalizing lineNumber prev with
  | nil =>
    refine ⟨fun _ => ⟨[], rfl, trivial, fun _ mem => absurd mem not_mem_nil⟩,
      fun _ => rfl⟩
  | cons line rest ih =>
    by_cases blank : line = .blank
    · subst blank
      rw [verifyFrom, ih]
      constructor
      · rintro ⟨records, listed, intact⟩
        exact ⟨records, listRecords_cons.mpr ⟨none, records, rfl, listed, rfl⟩, intact⟩
      · rintro ⟨records, listed, intact⟩
        obtain ⟨record, later, read, listedRest, rfl⟩ := listRecords_cons.mp listed
        cases read
        exact ⟨later, listedRest, intact⟩
    · rw [verifyFrom_shown blank]
      constructor
      · intro clean
        split at clean
        · cases clean
        · next record parsed =>
          obtain ⟨own, others⟩ := append_eq_nil_iff.mp clean
          obtain ⟨later, listed, intact⟩ := ih.mp others
          exact ⟨record :: later, listRecords_cons.mpr ⟨some record, later,
            (parseRecord_ok blank).mp parsed, listed, rfl⟩,
            intactFrom_cons.mpr ⟨recordReasons_eq_nil.mp own, intact⟩⟩
      · rintro ⟨records, listed, intact⟩
        obtain ⟨record, later, read, listedRest, rfl⟩ := listRecords_cons.mp listed
        cases record with
        | none => exact absurd read (readLine_shown blank)
        | some record =>
          rw [(parseRecord_ok blank).mpr read]
          obtain ⟨own, others⟩ := intactFrom_cons.mp intact
          exact append_eq_nil_iff.mpr
            ⟨recordReasons_eq_nil.mpr own, ih.mpr ⟨later, listedRest, others⟩⟩

theorem verifyHashChain_eq_nil {lines : List LedgerLine} :
    verifyHashChain texts digest format lines = [] ↔
      ∃ records, IntactLedger texts digest format lines records := by
  rw [verifyHashChain, verifyFrom_eq_nil]
  constructor
  · rintro ⟨records, listed, intact⟩
    exact ⟨records, listed, intact⟩
  · rintro ⟨records, listed, intact⟩
    exact ⟨records, listed, intact⟩

end Ledger

namespace ChainedRecord

variable (recordType : String) (payload : JsonObject) (prev : Option String) (createdAt : Time)

theorem sealed_sealed :
    SealedRecord texts digest (sealed texts digest recordType payload prev createdAt) where
  payloadHash := by
    change expectedPayloadHash digest payload = expectedPayloadHash digest payload.reread
    rw [expectedPayloadHash, expectedPayloadHash, reread_reread]
  recordId := rfl

theorem sealed_createdAt :
    (sealed texts digest recordType payload prev createdAt).createdAt = createdAt :=
  rfl

theorem sealed_payload :
    (sealed texts digest recordType payload prev createdAt).payload = payload.reread :=
  rfl

theorem requiredText_reread {payload : JsonObject} {fieldName value : String}
    (written : payload.get? fieldName = some (.string value)) (shown : value ≠ "") :
    requiredText payload.reread fieldName = .ok value := by
  rw [requiredText, get?_reread, written, Option.map_some]
  exact if_neg shown

theorem optionalText_reread {payload : JsonObject} {fieldName : String} {value : Option String}
    (written : payload.get? fieldName = some (optionalHash value)) (shown : value ≠ some "") :
    optionalText payload.reread fieldName = .ok value := by
  rw [optionalText, get?_reread, written, Option.map_some]
  cases value with
  | none => rfl
  | some value => exact if_neg fun empty => shown (congrArg some empty)

theorem requiredMapping_reread {payload content : JsonObject} {fieldName : String}
    (written : payload.get? fieldName = some (.object content.items)) :
    requiredMapping payload.reread fieldName = .ok content.reread := by
  rw [requiredMapping, get?_reread, written, Option.map_some, Json.sorted, Json.sortedFields_eq_map]
  exact congrArg Except.ok (ofItems_items_self content.reread)

theorem stableJsonHash_ne_empty (payload : Json) : stableJsonHash digest payload ≠ "" := by
  intro empty
  have characters := congrArg String.toList empty
  rw [stableJsonHash, String.toList_append] at characters
  cases characters

structure ReadsBack (texts : TimestampTexts Time) (record : ChainedRecord Time) : Prop where
  createdAt : requiredText (record.toPayload texts).reread "created_at" =
    .ok (texts.isoformat record.createdAt)
  recordId : requiredText (record.toPayload texts).reread "record_id" = .ok record.recordId
  payloadHash : requiredText (record.toPayload texts).reread "payload_hash" =
    .ok record.payloadHash
  prev : optionalText (record.toPayload texts).reread "previous_record_hash" =
    .ok record.previousRecordHash
  payload : requiredMapping (record.toPayload texts).reread "payload" = .ok record.payload.reread

theorem readsBack_sealed {prev : Option String} (shown : prev ≠ some "") :
    ReadsBack texts (sealed texts digest recordType payload prev createdAt) where
  createdAt := requiredText_reread rfl (texts.isoformat_shown _)
  recordId := requiredText_reread rfl (stableJsonHash_ne_empty _)
  payloadHash := requiredText_reread rfl (stableJsonHash_ne_empty _)
  prev := optionalText_reread rfl shown
  payload := requiredMapping_reread rfl

end ChainedRecord

theorem ResearchAuditRecord.fromPayload_create {recordType : String} {payload : JsonObject}
    {prev : Option String} {createdAt : Time} {recordId : Option String}
    {record : ChainedRecord Time} (shown : prev ≠ some "")
    (created : create texts digest recordType payload prev createdAt recordId = .ok record) :
    fromPayload texts (record.toPayload texts).reread = .ok record ∧
      SealedRecord texts digest record ∧ record.previousRecordHash = prev := by
  obtain ⟨⟨⟩, supported, rest⟩ := bind_inv created
  obtain ⟨⟨⟩, aware, rest⟩ := bind_inv rest
  dsimp only at rest
  split at rest
  · cases rest
  cases rest
  refine ⟨?_, sealed_sealed _ _ _ _, rfl⟩
  have typeShown : recordType ≠ "" := by
    rintro rfl
    cases supported
  have reads : ReadsBack texts (sealed texts digest recordType payload prev createdAt) :=
    readsBack_sealed recordType payload createdAt shown
  have readType : requiredText ((sealed texts digest recordType payload prev
      createdAt).toPayload texts).reread "record_type" = .ok recordType :=
    requiredText_reread rfl typeShown
  simp only [fromPayload, reads.createdAt, reads.recordId, reads.payloadHash, reads.prev,
    reads.payload, readType, bind, Except.bind, texts.fromisoformat_isoformat, sealed_createdAt,
    sealed_payload, supported, aware, reread_reread]
  rfl

theorem TrialBudgetRecord.fromPayload_create {payload : JsonObject} {prev : Option String}
    {createdAt : Time} {record : ChainedRecord Time} (shown : prev ≠ some "")
    (created : create texts digest payload prev createdAt = .ok record) :
    fromPayload texts (record.toPayload texts).reread = .ok record ∧
      SealedRecord texts digest record ∧ record.previousRecordHash = prev := by
  unfold create at created
  split at created
  · cases created
  next aware =>
  cases created
  refine ⟨?_, sealed_sealed _ _ _ _, rfl⟩
  have reads : ReadsBack texts
      (sealed texts digest "trial_budget_decision" payload prev createdAt) :=
    readsBack_sealed _ payload createdAt shown
  have readType : requiredText ((sealed texts digest "trial_budget_decision" payload prev
      createdAt).toPayload texts).reread "record_type" = .ok "trial_budget_decision" :=
    requiredText_reread rfl (by decide)
  simp only [fromPayload, reads.createdAt, reads.recordId, reads.payloadHash, reads.prev,
    reads.payload, readType, bind, Except.bind, texts.fromisoformat_isoformat, sealed_createdAt,
    sealed_payload, reread_reread, if_neg aware, ne_eq, not_true_eq_false, if_false]
  rfl

namespace Ledger

theorem lastHash_shown (records : List (ChainedRecord Time)) :
    lastHash (recordHash texts digest) none records ≠ some "" := by
  rw [lastHash_eq_getLast?]
  cases records.getLast? with
  | none => exact nofun
  | some record => exact fun empty => stableJsonHash_ne_empty _ (Option.some.inj empty)

def Appendable (texts : TimestampTexts Time) (digest : Json → String)
    (format : LedgerFormat Time)
    (create : Option String → Except String (ChainedRecord Time)) : Prop :=
  ∀ prev record, prev ≠ some "" → create prev = .ok record →
    format.fromPayload (record.toPayload texts).reread = .ok record ∧
      SealedRecord texts digest record ∧ record.previousRecordHash = prev

variable {create : Option String → Except String (ChainedRecord Time)}

theorem append_cases
    {lines : List LedgerLine} {records : List (ChainedRecord Time)}
    (intact : IntactLedger texts digest format lines records)
    (appendable : Appendable texts digest format create) :
    (∃ failure, append texts digest format create lines = (.error failure, lines) ∧
        create (lastHash (recordHash texts digest) none records) = .error failure) ∨
      ∃ record, append texts digest format create lines =
          (.ok record, lines ++ [.object (record.toPayload texts).reread]) ∧
        create (lastHash (recordHash texts digest) none records) = .ok record ∧
        IntactLedger texts digest format (lines ++ [.object (record.toPayload texts).reread])
          (records ++ [record]) := by
  unfold append
  rw [intact.listed]
  dsimp only [bind, Except.bind]
  cases created : create (lastHash (recordHash texts digest) none records) with
  | error failure => exact .inl ⟨failure, rfl, rfl⟩
  | ok record =>
    obtain ⟨reads, sealed, link⟩ := appendable _ record (lastHash_shown records) created
    refine .inr ⟨record, rfl, rfl, ?_, ?_, ?_⟩
    · refine listRecords_append intact.listed (listRecords_cons.mpr ⟨some record, [], ?_, rfl, rfl⟩)
      rw [readLine, reads]
      rfl
    · exact (linkedFrom_append _ _ _).mpr ⟨intact.intact.linked, link, trivial⟩
    · intro other mem
      rcases List.mem_append.mp mem with old | new
      · exact intact.intact.sealed other old
      · rw [List.mem_singleton.mp new]
        exact sealed

def Clean (texts : TimestampTexts Time) (digest : Json → String) (format : LedgerFormat Time)
    (lines : List LedgerLine) : Prop :=
  ∃ records, IntactLedger texts digest format lines records

theorem clean_empty : Clean texts digest format [] :=
  ⟨[], rfl, trivial, fun _ mem => absurd mem not_mem_nil⟩

theorem append_clean
    {lines : List LedgerLine} (clean : Clean texts digest format lines)
    (appendable : Appendable texts digest format create) :
    Clean texts digest format (append texts digest format create lines).2 := by
  obtain ⟨records, intact⟩ := clean
  obtain ⟨failure, failed, -⟩ | ⟨record, appended, -, next⟩ := append_cases intact appendable
  · rw [failed]
    exact ⟨records, intact⟩
  · rw [appended]
    exact ⟨_, next⟩

end Ledger

theorem ResearchAuditLog.append_clean (lines : List LedgerLine) (command : AuditAppend Time)
    (clean : Ledger.Clean texts digest (ResearchAuditLog.format texts) lines) :
    Ledger.Clean texts digest (ResearchAuditLog.format texts)
      (append texts digest lines command).2 :=
  Ledger.append_clean clean fun _ _ shown created =>
    ResearchAuditRecord.fromPayload_create shown created

theorem TrialBudgetLedger.appendDecision_clean (lines : List LedgerLine)
    (command : DecisionAppend Time)
    (clean : Ledger.Clean texts digest (TrialBudgetLedger.format texts) lines) :
    Ledger.Clean texts digest (TrialBudgetLedger.format texts)
      (appendDecision texts digest lines command).2 :=
  append_clean clean fun _ _ shown created =>
    TrialBudgetRecord.fromPayload_create shown created

def ChainedRecord.canonical (texts : TimestampTexts Time) (record : ChainedRecord Time) : Json :=
  (Json.object (record.hashedContent texts).items).sorted

/-- The digest tells the contents of the records of two ledgers apart. -/
def TellsApart (texts : TimestampTexts Time) (digest : Json → String)
    (records others : List (ChainedRecord Time)) : Prop :=
  ∀ record ∈ records, ∀ other ∈ others,
    digest (record.canonical texts) = digest (other.canonical texts) →
      record.canonical texts = other.canonical texts

/-- Two records have the same fields; payloads are compared as dictionaries. -/
structure SameRecord (record other : ChainedRecord Time) : Prop where
  recordId : record.recordId = other.recordId
  recordType : record.recordType = other.recordType
  payloadHash : record.payloadHash = other.payloadHash
  previousRecordHash : record.previousRecordHash = other.previousRecordHash
  createdAt : record.createdAt = other.createdAt
  payload : record.payload.reread = other.payload.reread

variable {record other : ChainedRecord Time}

theorem ChainedRecord.hashedContent_reread
    (same : record.canonical texts = other.canonical texts) :
    (record.hashedContent texts).reread = (other.hashedContent texts).reread := by
  apply ext
  have items := Json.object.inj same
  rwa [Json.sortedFields_eq_map, Json.sortedFields_eq_map] at items

theorem stableJsonHash_inj {first second : Json}
    (same : stableJsonHash digest first = stableJsonHash digest second) :
    digest first.sorted = digest second.sorted := by
  have characters := congrArg String.toList same
  rw [stableJsonHash, stableJsonHash, String.toList_append, String.toList_append] at characters
  exact String.toList_injective (append_cancel_left characters)

theorem optionalHash_sorted_inj {first second : Option String}
    (same : (optionalHash first).sorted = (optionalHash second).sorted) : first = second := by
  cases first <;> cases second
  · rfl
  · cases same
  · cases same
  · exact congrArg some (Json.string.inj same)

theorem sameRecord_of_hash
    (sealed : SealedRecord texts digest record) (otherSealed : SealedRecord texts digest other)
    (bound : digest (record.canonical texts) = digest (other.canonical texts) →
      record.canonical texts = other.canonical texts)
    (same : record.recordHash texts digest = other.recordHash texts digest) :
    SameRecord record other := by
  have contents := hashedContent_reread (bound (stableJsonHash_inj same))
  have field (key : String) : ((record.hashedContent texts).get? key).map Json.sorted =
      ((other.hashedContent texts).get? key).map Json.sorted := by
    rw [← get?_reread, contents, get?_reread]
  have createdAt : texts.isoformat record.createdAt = texts.isoformat other.createdAt :=
    Json.string.inj (Option.some.inj (field "created_at"))
  have payload : (Json.object record.payload.reread.items).sorted =
      (Json.object other.payload.reread.items).sorted := Option.some.inj (field "payload")
  refine ⟨?_, Json.string.inj (Option.some.inj (field "record_type")),
    Json.string.inj (Option.some.inj (field "payload_hash")),
    optionalHash_sorted_inj (Option.some.inj (field "previous_record_hash")), ?_, ?_⟩
  · rw [sealed.recordId, otherSealed.recordId, same]
  · have reads := congrArg texts.fromisoformat createdAt
    rw [texts.fromisoformat_isoformat, texts.fromisoformat_isoformat] at reads
    exact Except.ok.inj reads
  · have items := Json.object.inj payload
    rw [Json.sortedFields_eq_map, Json.sortedFields_eq_map] at items
    have again : record.payload.reread.reread = other.payload.reread.reread :=
      ext items
    rwa [reread_reread, reread_reread] at again

/-- Two ledgers without a reported error that end in one record hash have the same records. -/
def EndBinds (texts : TimestampTexts Time) (digest : Json → String)
    (format : LedgerFormat Time) : Prop :=
  ∀ first second records others, verifyHashChain texts digest format first = [] →
    verifyHashChain texts digest format second = [] →
    listRecords format first = .ok records →
    listRecords format second = .ok others → TellsApart texts digest records others →
    records.getLast?.map (recordHash texts digest) =
      others.getLast?.map (recordHash texts digest) →
    Forall₂ SameRecord records others

theorem endBinds : EndBinds texts digest format := by
  intro first second records others clean otherClean listed otherListed apart ends
  obtain ⟨_, intact⟩ := verifyHashChain_eq_nil.mp clean
  obtain ⟨_, otherIntact⟩ := verifyHashChain_eq_nil.mp otherClean
  obtain rfl := ok_unique listed intact.listed
  obtain rfl := ok_unique otherListed otherIntact.listed
  apply forall₂_of_lastHash_eq _ (fun _ _ same => same.previousRecordHash)
    intact.intact.linked otherIntact.intact.linked
  · rw [lastHash_eq_getLast?, lastHash_eq_getLast?]
    exact ends
  · intro record mem other otherMember same
    exact sameRecord_of_hash (intact.intact.sealed record mem)
      (otherIntact.intact.sealed other otherMember) (apart record mem other otherMember) same

/-- For the audit log and for the trial-budget ledger: no sequence of appends leads to a reported
error, and where the digest tells contents apart, ledgers without an error are the same record by
record when they end in the same record hash. -/
theorem ledgers_tamperEvident (texts : TimestampTexts Time) (digest : Json → String) :
    ((∀ commands, Ledger.verifyHashChain texts digest (ResearchAuditLog.format texts)
          (final (append texts digest) [] commands) = []) ∧
        EndBinds texts digest (ResearchAuditLog.format texts)) ∧
      (∀ commands, Ledger.verifyHashChain texts digest (TrialBudgetLedger.format texts)
          (final (appendDecision texts digest) [] commands) = []) ∧
        EndBinds texts digest (TrialBudgetLedger.format texts) := by
  refine ⟨⟨fun commands => ?_, endBinds⟩, fun commands => ?_, endBinds⟩
  · exact verifyHashChain_eq_nil.mpr (final_invariant
      append_clean clean_empty commands)
  · exact verifyHashChain_eq_nil.mpr (final_invariant
      appendDecision_clean clean_empty commands)

namespace Ledger

/-- A record that is created for the end of a ledger adds nothing to what is reported. -/
theorem verifyFrom_snoc {record : ChainedRecord Time} {lines : List LedgerLine}
    {records : List (ChainedRecord Time)} {lineNumber : Nat} {prev : Option String}
    (reads : format.fromPayload (record.toPayload texts).reread = .ok record)
    (sealed : SealedRecord texts digest record) (listed : listRecords format lines = .ok records)
    (link : record.previousRecordHash = lastHash (recordHash texts digest) prev records) :
    verifyFrom texts digest format lineNumber prev
        (lines ++ [.object (record.toPayload texts).reread]) =
      verifyFrom texts digest format lineNumber prev lines := by
  induction lines generalizing lineNumber prev records with
  | nil =>
    cases listed
    refine verifyFrom_eq_nil.mpr ⟨[record], listRecords_cons.mpr ⟨some record, [], ?_, rfl, rfl⟩,
      ⟨link, trivial⟩, forall_mem_singleton.mpr sealed⟩
    rw [readLine, reads]
    rfl
  | cons line rest ih =>
    obtain ⟨first, later, read, listedRest, rfl⟩ := listRecords_cons.mp listed
    by_cases blank : line = .blank
    · subst blank
      cases read
      exact ih listedRest link
    · cases first with
      | none => exact absurd read (readLine_shown blank)
      | some first =>
        rw [cons_append, verifyFrom_shown blank, verifyFrom_shown blank,
          (parseRecord_ok blank).mpr read]
        exact congrArg _ (ih listedRest link)

theorem append_reports {create : Option String → Except String (ChainedRecord Time)}
    (appendable : Appendable texts digest format create) (lines : List LedgerLine) :
    verifyHashChain texts digest format (append texts digest format create lines).2 =
      verifyHashChain texts digest format lines := by
  unfold append
  cases listed : listRecords format lines with
  | error failure => rfl
  | ok records =>
    dsimp only [bind, Except.bind]
    cases created : create (lastHash (recordHash texts digest) none records) with
    | error failure => rfl
    | ok record =>
      obtain ⟨reads, sealed, link⟩ := appendable _ record (lastHash_shown records) created
      exact verifyFrom_snoc reads sealed listed link

end Ledger

/-- Appending to a ledger of any content, damaged or not, neither hides an error that its
verification reports nor adds one. -/
theorem appends_keepReports (texts : TimestampTexts Time) (digest : Json → String)
    (lines : List LedgerLine) :
    (∀ commands, Ledger.verifyHashChain texts digest (ResearchAuditLog.format texts)
        (final (append texts digest) lines commands) =
      Ledger.verifyHashChain texts digest (ResearchAuditLog.format texts) lines) ∧
    ∀ commands, Ledger.verifyHashChain texts digest (TrialBudgetLedger.format texts)
        (final (appendDecision texts digest) lines commands) =
      Ledger.verifyHashChain texts digest (TrialBudgetLedger.format texts) lines := by
  constructor
  · refine final_invariant (fun before _ same => (append_reports ?_ before).trans same)
      rfl
    exact fun _ _ shown created => ResearchAuditRecord.fromPayload_create shown created
  · refine final_invariant (fun before _ same => (append_reports ?_ before).trans same)
      rfl
    exact fun _ _ shown created => TrialBudgetRecord.fromPayload_create shown created

end Qts
