import Qts.BrokerOrderMapCalls
import Qts.BrokerOrderMapSnapshot
import Qts.InverseIndex
import Qts.StepRuns

/-! # Runs of the broker-order map -/

namespace Qts

open Dict StepRuns List

inductive BrokerOrderMapCommand
  | recordPendingSubmission (internalOrderId : OrderId) (clientOrderId : String)
      (accountId : AccountId) (strategyId : Option StrategyId) (submittedAt : DateTime)
  | attachIbkrOrderId (clientOrderId ibkrOrderId : String)
  | attachPermId (ibkrOrderId permId : String)
  | markStatus (ibkrOrderId status : String) (lastBrokerStatusAt : DateTime)
  | restore (snapshot : List SnapshotItem)

namespace BrokerOrderMap

open RaisingCalls InverseIndex

/-- Records are stored under their client order ids, and each reverse index is inverse to its
field of the records. -/
structure Indexed (map : BrokerOrderMap) : Prop where
  own : ∀ clientOrderId record, map.byClientOrderId.get? clientOrderId = some record →
    record.clientOrderId = clientOrderId
  internal : Inverse map.byClientOrderId.get? (fun record => some record.internalOrderId)
    map.clientByInternalOrderId.get?
  ibkr : Inverse map.byClientOrderId.get? (fun record => record.ibkrOrderId)
    map.clientByIbkrOrderId.get?
  perm : Inverse map.byClientOrderId.get? (fun record => record.permId) map.clientByPermId.get?

theorem init_indexed : Indexed init where
  own _ _ found := by cases found
  internal := Inverse.empty
  ibkr := Inverse.empty
  perm := Inverse.empty

section Index

variable {Key : Type} [DecidableEq Key]

theorem get?_addKey_dropStale (index : Dict Key String) (old new : Option Key)
    (clientOrderId : String) (key : Key) :
    (addKey (dropStale index old new) new clientOrderId).get? key =
      if new = some key then some clientOrderId
      else if old = some key then none
      else index.get? key := by
  have dropped : new ≠ some key → (dropStale index old new).get? key =
      if old = some key then none else index.get? key := by
    intro ne
    cases old with
    | none => rfl
    | some stale =>
      by_cases same : stale = key
      · subst same
        simp [dropStale, Ne.symm ne]
      · simp only [dropStale, Option.some.injEq, same, if_false]
        split
        · rfl
        · exact get?_erase_of_ne _ (Ne.symm same)
  cases new with
  | none => simpa [addKey] using dropped
  | some fresh =>
    by_cases same : fresh = key
    · subst same
      simp [addKey]
    · simp only [addKey, Option.some.injEq, same, if_false, get?_set_of_ne _ _ (Ne.symm same)]
      exact dropped (by simpa using same)

theorem free_of_not_taken {index : Dict Key String} {new : Option Key}
    {clientOrderId : String} (free : (new.any fun key => taken index key clientOrderId) = false)
    (key : Key) (other : String) (fresh : new = some key) (leads : index.get? key = some other) :
    other = clientOrderId := by
  subst fresh
  simpa [taken, leads] using free

end Index

/-- What a store without a conflict does to each dictionary. -/
structure Stores (map : BrokerOrderMap) (record : BrokerOrderRecord) (after : BrokerOrderMap) :
    Prop where
  records : after.byClientOrderId.get? = fun clientOrderId =>
    if clientOrderId = record.clientOrderId then some record
    else map.byClientOrderId.get? clientOrderId
  internal : after.clientByInternalOrderId.get? = fun key =>
    if some record.internalOrderId = some key then some record.clientOrderId
    else if (map.byClientOrderId.get? record.clientOrderId).bind
      (fun record => some record.internalOrderId) = some key then none
    else map.clientByInternalOrderId.get? key
  ibkr : after.clientByIbkrOrderId.get? = fun key =>
    if record.ibkrOrderId = some key then some record.clientOrderId
    else if (map.byClientOrderId.get? record.clientOrderId).bind (·.ibkrOrderId) = some key
      then none
    else map.clientByIbkrOrderId.get? key
  perm : after.clientByPermId.get? = fun key =>
    if record.permId = some key then some record.clientOrderId
    else if (map.byClientOrderId.get? record.clientOrderId).bind (·.permId) = some key then none
    else map.clientByPermId.get? key

variable {record : BrokerOrderRecord}

theorem store_stores {map : BrokerOrderMap} (free : map.conflict record = none) :
    ∃ after, map.store record = .ok (record, after) ∧ Stores map record after := by
  unfold store
  rw [free]
  refine ⟨_, rfl, ⟨?_, ?_, ?_, ?_⟩⟩
  · funext clientOrderId
    exact get?_set ..
  · funext key
    have mapped : (map.byClientOrderId.get? record.clientOrderId).bind
        (fun record => some record.internalOrderId) =
          (map.byClientOrderId.get? record.clientOrderId).map (·.internalOrderId) := by
      cases map.byClientOrderId.get? record.clientOrderId <;> rfl
    rw [mapped]
    exact get?_addKey_dropStale map.clientByInternalOrderId _ (some record.internalOrderId) _ key
  · funext key
    exact get?_addKey_dropStale ..
  · funext key
    exact get?_addKey_dropStale ..

theorem Stores.indexed {map after : BrokerOrderMap} (indexed : Indexed map)
    (free : map.conflict record = none) (stores : Stores map record after) : Indexed after := by
  have passes := (Check.firstFailure_none _).mp free
  simp only [forall_mem_cons] at passes
  obtain ⟨internal, ibkr, perm, _⟩ := passes
  refine ⟨?_, ?_, ?_, ?_⟩
  · intro clientOrderId found stored
    rw [stores.records] at stored
    dsimp only at stored
    split at stored
    · next same =>
      obtain rfl := Option.some.inj stored
      exact same.symm
    · exact indexed.own clientOrderId found stored
  · rw [stores.records, stores.internal]
    refine indexed.internal.write ?_
    have known : (some record.internalOrderId).any (fun key =>
        taken map.clientByInternalOrderId key record.clientOrderId) = false := internal
    exact free_of_not_taken known
  · rw [stores.records, stores.ibkr]
    exact indexed.ibkr.write (free_of_not_taken ibkr)
  · rw [stores.records, stores.perm]
    exact indexed.perm.write (free_of_not_taken perm)

theorem store_indexed {map : BrokerOrderMap} (indexed : Indexed map)
    {stored : BrokerOrderRecord × BrokerOrderMap} (ran : map.store record = .ok stored) :
    Indexed stored.2 := by
  cases free : map.conflict record with
  | some msg =>
    rw [store, free] at ran
    cases ran
  | none =>
    obtain ⟨after, wrote, stores⟩ := store_stores free
    obtain rfl := ok_unique wrote ran
    exact stores.indexed indexed free

/-- What an operation that succeeds leaves behind is indexed. -/
def KeepsIndexes (result : Except CallbackError (BrokerOrderRecord × BrokerOrderMap)) : Prop :=
  ∀ stored, result = .ok stored → Indexed stored.2

variable {map : BrokerOrderMap}

theorem update_indexed (indexed : Indexed map) (look : Except CallbackError BrokerOrderRecord)
    (update : BrokerOrderRecord → Except CallbackError BrokerOrderRecord) :
    KeepsIndexes (do
      let record ← look
      let updated ← update record
      map.store updated) := by
  intro stored ran
  cases look with
  | error failure => cases ran
  | ok record =>
    simp only [bind, Except.bind] at ran
    cases updated : update record with
    | error failure =>
      rw [updated] at ran
      cases ran
    | ok updated' =>
      rw [updated] at ran
      exact store_indexed indexed ran

theorem recordPendingSubmission_indexed (indexed : Indexed map) (internalOrderId : OrderId)
    (clientOrderId : String) (accountId : AccountId) (strategyId : Option StrategyId)
    (submittedAt : DateTime) :
    KeepsIndexes (map.recordPendingSubmission internalOrderId clientOrderId accountId strategyId
      submittedAt) := by
  intro stored ran
  unfold recordPendingSubmission at ran
  split at ran
  · split at ran
    · cases ran
    · obtain rfl := Except.ok.inj ran
      exact indexed
  · simp only [bind, Except.bind] at ran
    split at ran
    · cases ran
    · exact store_indexed indexed ran

variable {iso : IsoFormat}

theorem storeItem_indexed (indexed : Indexed map) {item : SnapshotItem} {after : BrokerOrderMap}
    (ran : storeItem iso map item = .ok after) : Indexed after := by
  simp only [storeItem, bind, Except.bind] at ran
  split at ran
  · cases ran
  · next record _ =>
    cases stored : map.store record with
    | error failure =>
      rw [stored] at ran
      cases ran
    | ok stored' =>
      rw [stored] at ran
      obtain rfl := Except.ok.inj ran
      exact store_indexed indexed stored

theorem storeItems_indexed (indexed : Indexed map) (items : List SnapshotItem)
    {after : BrokerOrderMap} (ran : items.foldlM (storeItem iso) map = .ok after) :
    Indexed after := by
  induction items generalizing map with
  | nil =>
    obtain rfl := Except.ok.inj ran
    exact indexed
  | cons item items ih =>
    simp only [foldlM_cons, bind, Except.bind] at ran
    split at ran
    · cases ran
    · next middle stored => exact ih (storeItem_indexed indexed stored) ran

theorem mem_snapshot (indexed : Indexed map) (record : BrokerOrderRecord) :
    record ∈ map.snapshot ↔ map.byClientOrderId.get? record.clientOrderId = some record := by
  simp only [snapshot, mem_filterMap, mem_mergeSort]
  constructor
  · rintro ⟨clientOrderId, _, found⟩
    rw [indexed.own clientOrderId record found]
    exact found
  · intro found
    exact ⟨record.clientOrderId, (map.byClientOrderId.mem_keys_iff).mpr ⟨record, found⟩, found⟩

theorem conflict_eq_none {part : BrokerOrderMap} (indexed : Indexed map)
    (partIndexed : Indexed part)
    (among : ∀ clientOrderId record, part.byClientOrderId.get? clientOrderId = some record →
      map.byClientOrderId.get? clientOrderId = some record)
    (stored : map.byClientOrderId.get? record.clientOrderId = some record) :
    part.conflict record = none := by
  -- A key that the smaller map gives away leads, in the larger map, to the record itself.
  have free : ∀ {Key : Type} [DecidableEq Key] {field : BrokerOrderRecord → Option Key}
      {index partIndex : Dict Key String},
      Inverse map.byClientOrderId.get? field index.get? →
      Inverse part.byClientOrderId.get? field partIndex.get? →
      ((field record).any fun key => taken partIndex key record.clientOrderId) = false := by
    intro Key _ field index partIndex inverse partInverse
    cases has : field record with
    | none => rfl
    | some key =>
      cases leads : partIndex.get? key with
      | none => simp [taken, leads]
      | some other =>
        obtain ⟨found, storedFound, hasKey⟩ := (partInverse key other).mp leads
        have leadsOther := (inverse key other).mpr ⟨found, among other found storedFound, hasKey⟩
        have leadsOwn := (inverse key record.clientOrderId).mpr ⟨record, stored, has⟩
        obtain rfl := Option.mem_unique leadsOther leadsOwn
        simp [taken, leads]
  refine (Check.firstFailure_none _).mpr ?_
  simp only [forall_mem_cons, not_mem_nil, false_implies, implies_true, and_true]
  exact ⟨free indexed.internal partIndexed.internal, free indexed.ibkr partIndexed.ibkr,
    free indexed.perm partIndexed.perm⟩

theorem storeItems_ok (indexed : Indexed map) {items : List SnapshotItem}
    {records : List BrokerOrderRecord}
    (coerced : Forall₂ (fun item record => coerceRecord iso item = .ok record) items records)
    (known : ∀ record ∈ records, map.byClientOrderId.get? record.clientOrderId = some record)
    {part : BrokerOrderMap} (partIndexed : Indexed part)
    (among : ∀ clientOrderId record, part.byClientOrderId.get? clientOrderId = some record →
      map.byClientOrderId.get? clientOrderId = some record) :
    ∃ restored, items.foldlM (storeItem iso) part = .ok restored ∧
      (∀ clientOrderId record, restored.byClientOrderId.get? clientOrderId = some record →
        map.byClientOrderId.get? clientOrderId = some record) ∧
      ∀ record, record ∈ records ∨
          part.byClientOrderId.get? record.clientOrderId = some record →
        restored.byClientOrderId.get? record.clientOrderId = some record := by
  induction coerced generalizing part with
  | nil => exact ⟨part, rfl, among, fun record found => found.resolve_left not_mem_nil⟩
  | @cons item record items records first rest ih =>
    have stored := known record mem_cons_self
    have noConflict := conflict_eq_none indexed partIndexed among stored
    obtain ⟨after, wrote, stores⟩ := store_stores noConflict
    have ran : storeItem iso part item = .ok after := by
      simp only [storeItem, first, wrote, bind, Except.bind]
      rfl
    have afterAmong : ∀ clientOrderId found,
        after.byClientOrderId.get? clientOrderId = some found →
          map.byClientOrderId.get? clientOrderId = some found := by
      intro clientOrderId found present
      rw [stores.records] at present
      dsimp only at present
      split at present
      · next same =>
        obtain rfl := Option.some.inj present
        rw [same]
        exact stored
      · exact among clientOrderId found present
    obtain ⟨restored, restoredRan, restoredAmong, complete⟩ :=
      ih (fun other mem => known other (mem_cons_of_mem _ mem))
        (stores.indexed partIndexed noConflict) afterAmong
    refine ⟨restored, ?_, restoredAmong, ?_⟩
    · simp only [foldlM_cons, ran, bind, Except.bind]
      exact restoredRan
    · intro found told
      by_cases later : found ∈ records
      · exact complete found (.inl later)
      · refine complete found (.inr ?_)
        rw [stores.records]
        dsimp only
        split
        · next same =>
          rcases told with mem | before
          · rcases mem_cons.mp mem with rfl | mem
            · rfl
            · exact absurd mem later
          · have stored' := among _ _ before
            rw [same] at stored'
            exact stored.symm.trans stored'
        · next ne =>
          rcases told with mem | before
          · rcases mem_cons.mp mem with rfl | mem
            · exact absurd rfl ne
            · exact absurd mem later
          · exact before

structure SameEntries (first second : BrokerOrderMap) : Prop where
  records : first.byClientOrderId.get? = second.byClientOrderId.get?
  ibkr : first.clientByIbkrOrderId.get? = second.clientByIbkrOrderId.get?
  perm : first.clientByPermId.get? = second.clientByPermId.get?
  internal : first.clientByInternalOrderId.get? = second.clientByInternalOrderId.get?

theorem Indexed.sameEntries {first second : BrokerOrderMap} (indexed : Indexed first)
    (secondIndexed : Indexed second)
    (records : first.byClientOrderId.get? = second.byClientOrderId.get?) :
    SameEntries first second where
  records := records
  ibkr := by
    have inverse := indexed.ibkr
    rw [records] at inverse
    exact inverse.unique secondIndexed.ibkr
  perm := by
    have inverse := indexed.perm
    rw [records] at inverse
    exact inverse.unique secondIndexed.perm
  internal := by
    have inverse := indexed.internal
    rw [records] at inverse
    exact inverse.unique secondIndexed.internal

theorem restore_snapshot (indexed : Indexed map) {items : List SnapshotItem}
    (coerced : Forall₂ (fun item record => coerceRecord iso item = .ok record) items
      map.snapshot) : ∃ restored, restore iso items = .ok restored ∧ SameEntries restored map := by
  obtain ⟨restored, ran, among, complete⟩ := storeItems_ok indexed coerced
    (fun record mem => (mem_snapshot indexed record).mp mem) init_indexed
    (fun _ _ found => by cases found)
  refine ⟨restored, ran, (storeItems_indexed init_indexed items ran).sameEntries indexed ?_⟩
  funext clientOrderId
  apply Option.ext
  intro record
  constructor
  · exact among clientOrderId record
  · intro found
    have own := indexed.own clientOrderId record found
    rw [← own] at found ⊢
    exact complete record (.inl ((mem_snapshot indexed record).mpr found))

theorem payload_coerced (iso : IsoFormat) (map : BrokerOrderMap) :
    Forall₂ (fun item record => coerceRecord iso item = .ok record) (payload iso map)
      map.snapshot := by
  rw [payload, forall₂_map_left_iff, forall₂_same]
  exact fun record _ => coerceRecord_payload iso record

theorem records_coerced (iso : IsoFormat) (map : BrokerOrderMap) :
    Forall₂ (fun item record => coerceRecord iso item = .ok record)
      (map.snapshot.map .record) map.snapshot := by
  rw [forall₂_map_left_iff, forall₂_same]
  exact fun _ _ => rfl

def answerCall (result : EStateM.Result CallbackError BrokerOrderMap BrokerOrderRecord) :
    Except RestoreError (Option BrokerOrderRecord) × BrokerOrderMap :=
  answer (fun record => .ok (some record)) (fun failure => .error (.raised failure)) result

def step (iso : IsoFormat) : Step BrokerOrderMap BrokerOrderMapCommand
    (Except RestoreError (Option BrokerOrderRecord))
  | map, .recordPendingSubmission internalOrderId clientOrderId accountId strategyId
      submittedAt =>
    answerCall ((recordPendingSubmissionCall internalOrderId clientOrderId accountId strategyId
      submittedAt).run map)
  | map, .attachIbkrOrderId clientOrderId ibkrOrderId =>
    answerCall ((attachIbkrOrderIdCall clientOrderId ibkrOrderId).run map)
  | map, .attachPermId ibkrOrderId permId =>
    answerCall ((attachPermIdCall ibkrOrderId permId).run map)
  | map, .markStatus ibkrOrderId status lastBrokerStatusAt =>
    answerCall ((markStatusCall ibkrOrderId status lastBrokerStatusAt).run map)
  | map, .restore snapshot =>
    match restore iso snapshot with
    | .ok restored => (.ok none, restored)
    | .error failure => (.error failure, map)

/-- An operation that raises leaves the map unchanged. -/
def Atomic (map : BrokerOrderMap)
    (answered : Except RestoreError (Option BrokerOrderRecord) × BrokerOrderMap) : Prop :=
  ∀ failure, answered.1 = .error failure → answered.2 = map

theorem answerCall_outcome (indexed : Indexed map)
    {result : Except CallbackError (BrokerOrderRecord × BrokerOrderMap)}
    (keeps : KeepsIndexes result) :
    Indexed (answerCall (outcome map result)).2 ∧ Atomic map (answerCall (outcome map result)) := by
  cases result with
  | ok stored => exact ⟨keeps stored rfl, nofun⟩
  | error failure => exact ⟨indexed, fun _ _ => rfl⟩

theorem step_indexed (indexed : Indexed map) (command : BrokerOrderMapCommand) :
    Indexed (step iso map command).2 ∧ Atomic map (step iso map command) := by
  cases command with
  | recordPendingSubmission internalOrderId clientOrderId accountId strategyId submittedAt =>
    rw [step, recordPendingSubmissionCall_run]
    exact answerCall_outcome indexed (recordPendingSubmission_indexed indexed internalOrderId
      clientOrderId accountId strategyId submittedAt)
  | attachIbkrOrderId clientOrderId ibkrOrderId =>
    rw [step, attachIbkrOrderIdCall_run]
    exact answerCall_outcome indexed (update_indexed indexed _ _)
  | attachPermId ibkrOrderId permId =>
    rw [step, attachPermIdCall_run]
    exact answerCall_outcome indexed (update_indexed indexed _ _)
  | markStatus ibkrOrderId status lastBrokerStatusAt =>
    rw [step, markStatusCall_run]
    exact answerCall_outcome indexed (update_indexed indexed _ _)
  | restore snapshot =>
    rw [step]
    cases ran : restore iso snapshot with
    | ok restored => exact ⟨storeItems_indexed init_indexed snapshot ran, nofun⟩
    | error failure => exact ⟨indexed, fun _ _ => rfl⟩

theorem final_indexed (commands : List BrokerOrderMapCommand) :
    Indexed (final (step iso) init commands) := by
  have preserved : ∀ map command, Indexed map → Indexed (step iso map command).2 :=
    fun _ command indexed => (step_indexed indexed command).1
  exact final_invariant preserved init_indexed commands

/-- After any operations, every reverse index is exactly inverse to its field of the stored
records and is a partial injection; an operation that raises leaves the map unchanged; and the
records of a snapshot, or their payloads, restore the same records and indexes. -/
theorem brokerOrderMap_run (iso : IsoFormat) (commands : List BrokerOrderMapCommand) :
    let map := final (step iso) init commands
    (Indexed map ∧ PartialInjection map.clientByInternalOrderId.get? ∧
        PartialInjection map.clientByIbkrOrderId.get? ∧
        PartialInjection map.clientByPermId.get?) ∧
      (∀ command, Atomic map (step iso map command)) ∧
      (∃ restored, restore iso (payload iso map) = .ok restored ∧ SameEntries restored map) ∧
      ∃ restored, restore iso (map.snapshot.map .record) = .ok restored ∧
        SameEntries restored map := by
  intro map
  have indexed : Indexed map := final_indexed commands
  refine ⟨⟨indexed, indexed.internal.partialInjection, indexed.ibkr.partialInjection,
    indexed.perm.partialInjection⟩, fun command => (step_indexed indexed command).2, ?_, ?_⟩
  · exact restore_snapshot indexed (payload_coerced iso map)
  · exact restore_snapshot indexed (records_coerced iso map)

def strokes (time : Int) : String :=
  String.ofList (if 0 ≤ time then replicate time.toNat '+'
    else replicate (-time).toNat '-')

def ofStrokes (text : String) : Int :=
  if text.toList.head? = some '-' then -(text.toList.length : Int) else text.toList.length

theorem ofStrokes_strokes (time : Int) : ofStrokes (strokes time) = time := by
  by_cases nonneg : 0 ≤ time
  · have plus : (replicate time.toNat '+').head? ≠ some '-' := by
      cases time.toNat <;> simp [replicate_succ]
    simp [ofStrokes, strokes, nonneg, plus, Int.toNat_of_nonneg nonneg]
  · obtain ⟨count, stroke⟩ : ∃ count, (-time).toNat = count + 1 :=
      Nat.exists_eq_succ_of_ne_zero (by omega)
    simp only [ofStrokes, strokes, nonneg, if_false, String.toList_ofList, stroke,
      replicate_succ, head?_cons, if_true, length_cons, length_replicate]
    omega

def sampleIso : IsoFormat where
  isoformat time := if time = 1778760000 then "2026-05-14T12:00:00+00:00" else strokes time
  fromisoformat text :=
    if text = "2026-05-14T12:00:00+00:00" then some 1778760000 else some (ofStrokes text)
  fromisoformat_isoformat time := by
    by_cases noon : time = 1778760000
    · simp [noon]
    · have ne : strokes time ≠ "2026-05-14T12:00:00+00:00" := by
        intro same
        have digit : '2' ∈ (strokes time).toList := by
          rw [same]
          decide
        simp only [strokes, String.toList_ofList] at digit
        split at digit
        · exact absurd (eq_of_mem_replicate digit) (by decide)
        · exact absurd (eq_of_mem_replicate digit) (by decide)
      simp [noon, ne, ofStrokes_strokes]

theorem brokerOrderMap_run_sample :
    let map := final (step sampleIso) init
      [.recordPendingSubmission ⟨⟨"ord-001", rfl⟩⟩ "client-001"
        ⟨⟨"acct-001", rfl⟩⟩ none 1778760000,
       .attachIbkrOrderId "client-001" "100", .attachPermId "100" "99001"]
    ∃ restored, restore sampleIso (payload sampleIso map) = .ok restored ∧
      SameEntries restored map :=
  (brokerOrderMap_run sampleIso _).2.2.1

end BrokerOrderMap

end Qts
