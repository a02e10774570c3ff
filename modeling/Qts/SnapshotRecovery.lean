import Qts.AccountRedelivery
import Qts.JsonValues

/-! # Recovery of an account after a crash -/

namespace Qts

open PythonText Dict StepRuns DurableAccountRecovery List

/-- The payloads under which the runtime saves an account. -/
inductive SnapshotPayload
  | account (payload : AccountPayload)
  | evidence (cash positions : Dict String Decimal)

namespace SnapshotPayload

def accountId : SnapshotPayload → Option String
  | account payload => payload.accountId
  | evidence _ _ => none

def cash : SnapshotPayload → Dict String Decimal
  | account payload => payload.cash
  | evidence cash _ => cash

def holdings? : SnapshotPayload → Option (Dict String HoldingPayload)
  | account payload => some payload.holdings
  | evidence _ _ => none

def seenFillIds? : SnapshotPayload → Option (List String)
  | account payload => some payload.seenFillIds
  | evidence _ _ => none

/-- A payload as it reads back from its line, in which each object's keys are sorted. -/
def written : SnapshotPayload → SnapshotPayload
  | account payload =>
    account { payload with cash := payload.cash.sorted, holdings := payload.holdings.sorted }
  | evidence cash positions => evidence cash.sorted positions.sorted

end SnapshotPayload

structure StateSnapshot where
  actorId : String
  stateVersion : Int
  payload : SnapshotPayload
  snapshotId : Option String := none
  lastSequence : Int := 0

def StateSnapshot.checks (snapshot : StateSnapshot) : List Check :=
  [⟨snapshot.snapshotId.any isBlank, "snapshot_id must not be empty"⟩,
   ⟨isBlank snapshot.actorId, "actor_id must not be empty"⟩,
   ⟨decide (snapshot.stateVersion < 0), "state_version must be non-negative"⟩,
   ⟨decide (snapshot.lastSequence < 0), "last_sequence must be non-negative"⟩]

def StateSnapshot.create (snapshot : StateSnapshot) : Except String StateSnapshot :=
  match Check.firstFailure snapshot.checks with
  | some message => .error message
  | none => .ok snapshot

structure FileSnapshotStore where
  lines : List StateSnapshot

namespace FileSnapshotStore

def save (store : FileSnapshotStore) (snapshot : StateSnapshot) : FileSnapshotStore where
  lines := store.lines ++ [{ snapshot with payload := snapshot.payload.written }]

def latest (store : FileSnapshotStore) (actorId : String) : Option StateSnapshot :=
  store.lines.foldl
    (fun latest snapshot => if snapshot.actorId = actorId then some snapshot else latest) none

def load (store : FileSnapshotStore) (actorId : String) :
    Except String (Option StateSnapshot) :=
  if isBlank actorId then .error "actor_id must not be empty"
  else .ok (store.latest actorId)

theorem latest_save (store : FileSnapshotStore) (snapshot : StateSnapshot) (actorId : String) :
    (store.save snapshot).latest actorId =
      if snapshot.actorId = actorId then
        some { snapshot with payload := snapshot.payload.written }
      else store.latest actorId := by
  simp only [latest, save, foldl_append, foldl_cons, foldl_nil]

end FileSnapshotStore

structure SnapshotFrequencyPolicy where
  everyEventCount : Option Int := none
  everyElapsed : Option Int := none
  countPositive : everyEventCount.all (fun count => decide (0 < count)) = true
  elapsedPositive : everyElapsed.all (fun elapsed => decide (0 < elapsed)) = true
  triggered : everyEventCount.isSome ∨ everyElapsed.isSome

/-- Return whether the configured snapshot cadence has been reached. -/
def SnapshotFrequencyPolicy.shouldSnapshot (policy : SnapshotFrequencyPolicy)
    (eventCount elapsed : Int) : Except String Bool :=
  if eventCount < 0 then .error "event_count must be non-negative"
  else if elapsed < 0 then .error "elapsed must be non-negative"
  else
    .ok (policy.everyEventCount.any (fun count => decide (count ≤ eventCount)) ||
      policy.everyElapsed.any fun every => decide (every ≤ elapsed))

def accountSnapshotActorId (accountId : Option AccountId) : String :=
  match accountId with
  | none => "account:default"
  | some accountId => "account:" ++ accountId.value

theorem accountSnapshotActorId_visible (accountId : Option AccountId) :
    isBlank (accountSnapshotActorId accountId) = false := by
  cases accountId with
  | none => decide
  | some accountId => exact isBlank_append_of_left (by decide) _

open IdempotentDelivery AccountActor

structure DurableAccountRecovery where
  store : FileSnapshotStore
  policy : SnapshotFrequencyPolicy
  lastSnapshotEventCount : Int := 0

namespace DurableAccountRecovery

/-- Persist a snapshot when the policy's cadence is reached, answering whether one was written. -/
def persistIfDue (recovery : DurableAccountRecovery) (actor : AccountActor)
    (eventCount elapsed : Int) : Except String Bool × DurableAccountRecovery × AccountActor :=
  let eventsSinceLast := eventCount - recovery.lastSnapshotEventCount
  match recovery.policy.shouldSnapshot eventsSinceLast elapsed with
  | .error failure => (.error failure, recovery, actor)
  | .ok false => (.ok false, recovery, actor)
  | .ok true =>
    let (snapshot, actor) := actor.snapshot
    let envelope : StateSnapshot := {
      actorId := accountSnapshotActorId snapshot.accountId
      stateVersion := eventCount
      payload := .account (serializeAccountSnapshot snapshot)
      lastSequence := eventCount }
    match envelope.create with
    | .error failure => (.error failure, recovery, actor)
    | .ok envelope =>
      (.ok true, { recovery with
        store := recovery.store.save envelope, lastSnapshotEventCount := eventCount }, actor)

def restoreStored (payload : SnapshotPayload) (accountId : AccountId) :
    Except String AccountActor :=
  restoreFromPayload {
    accountId := payload.accountId
    cash := payload.cash
    holdings := payload.holdings?.getD .empty
    seenFillIds := payload.seenFillIds?.getD [] } accountId

/-- Return an actor rehydrated from the latest snapshot, or a fresh one. -/
def restoreAccount (recovery : DurableAccountRecovery) (actorId : String)
    (initialCash : Dict String Decimal) (accountId : AccountId) :
    Except String AccountActor := do
  match ← recovery.store.load actorId with
  | none => return init initialCash (some accountId)
  | some stored => restoreStored stored.payload accountId

end DurableAccountRecovery

/-- What the session saves of an account for an activation or a rollback. -/
def recordAccountSnapshot (store : FileSnapshotStore) (actor : AccountActor)
    (lastSequence : Nat) : Except String Unit × FileSnapshotStore × AccountActor :=
  let (snapshot, actor) := actor.snapshot
  let actorId := accountSnapshotActorId snapshot.accountId
  let envelope : StateSnapshot := {
    actorId
    stateVersion := 1
    payload := .evidence snapshot.cash
      (.ofItems (snapshot.holdings.items.map fun item => (item.1.value, item.2.quantity)))
    snapshotId := some actorId
    lastSequence }
  match envelope.create with
  | .error failure => (.error failure, store, actor)
  | .ok envelope => (.ok (), store.save envelope, actor)

namespace DurableAccountRecovery

theorem persistIfDue_cases (recovery : DurableAccountRecovery) (actor : AccountActor)
    (eventCount elapsed : Int) :
    (∃ answer next, (next = actor ∨ next = actor.snapshot.2) ∧ answer ≠ .ok true ∧
      recovery.persistIfDue actor eventCount elapsed = (answer, recovery, next)) ∨
    ∃ line : StateSnapshot, line.actorId = accountSnapshotActorId actor.accountId ∧
      line.payload = .account (serializeAccountSnapshot actor.snapshot.1) ∧
      recovery.persistIfDue actor eventCount elapsed =
        (.ok true, { recovery with
          store := recovery.store.save line, lastSnapshotEventCount := eventCount },
          actor.snapshot.2) := by
  simp only [persistIfDue, StateSnapshot.create]
  split
  · exact .inl ⟨_, actor, .inl rfl, by rintro ⟨⟩, rfl⟩
  · exact .inl ⟨_, actor, .inl rfl, by rintro ⟨⟩, rfl⟩
  · split
    · exact .inl ⟨_, actor.snapshot.2, .inr rfl, by rintro ⟨⟩, rfl⟩
    · next created =>
      split at created
      · cases created
      · cases created
        exact .inr ⟨_, rfl, rfl, rfl⟩

end DurableAccountRecovery

theorem recordAccountSnapshot_written (store : FileSnapshotStore) (actor : AccountActor)
    (lastSequence : Nat) :
    ∃ (line : StateSnapshot) (positions : Dict String Decimal),
      line.actorId = accountSnapshotActorId actor.accountId ∧
      line.payload = .evidence actor.cash.balances positions ∧
      recordAccountSnapshot store actor lastSequence =
        (.ok (), store.save line, actor.snapshot.2) := by
  have visible := accountSnapshotActorId_visible actor.snapshot.1.accountId
  have nonnegative : ¬ (lastSequence : Int) < 0 := by omega
  have passed : ∀ snapshot : StateSnapshot,
      snapshot.actorId = accountSnapshotActorId actor.snapshot.1.accountId →
      snapshot.snapshotId = some (accountSnapshotActorId actor.snapshot.1.accountId) →
      snapshot.stateVersion = 1 → snapshot.lastSequence = lastSequence →
        snapshot.create = .ok snapshot := by
    intro snapshot id name version sequence
    simp [StateSnapshot.create, StateSnapshot.checks, Check.firstFailure, id, name, version,
      sequence, visible, nonnegative]
  simp only [recordAccountSnapshot]
  rw [passed _ rfl rfl rfl rfl]
  exact ⟨_, _, rfl, rfl, rfl⟩

namespace AccountActor

/-- A payload that holds what a restore needs of an account. -/
def Holds (payload : SnapshotPayload) (checkpoint : AccountActor) : Prop :=
  match payload with
  | .account payload =>
    SnapshotPayload.account payload =
      (SnapshotPayload.account (serializeAccountSnapshot checkpoint.snapshot.1)).written
  | .evidence cash _ => cash = checkpoint.cash.balances.sorted

end AccountActor

namespace DurableAccountRecovery

theorem exists_perm_of_map {Source Raw : Type} (write : Source → Raw) {sources : List Source}
    {written : List Raw} (perm : written.Perm (sources.map write)) :
    ∃ reordered : List Source, reordered.Perm sources ∧ written = reordered.map write := by
  induction sources generalizing written with
  | nil => exact ⟨[], .nil, perm_nil.mp perm⟩
  | cons source rest ih =>
    have mem : write source ∈ written := perm.mem_iff.mpr mem_cons_self
    obtain ⟨before, after, rfl⟩ := append_of_mem mem
    have others : (before ++ after).Perm (rest.map write) :=
      (perm_cons (write source)).mp (perm_middle.symm.trans perm)
    obtain ⟨reordered, same, listed⟩ := ih others
    obtain ⟨first, second, rfl, rfl, rfl⟩ := append_eq_map_iff.mp listed
    refine ⟨first ++ source :: second, ?_, ?_⟩
    · exact perm_middle.trans (same.cons source)
    · rw [map_append, map_cons]

theorem restoreStored_evidence (cash positions : Dict String Decimal)
    (accountId : AccountId) :
    restoreStored (.evidence cash positions) accountId =
      .ok (init cash (some accountId)) :=
  rfl

theorem restoreStored_account {checkpoint : AccountActor} {accountId : AccountId}
    (owned : Owned (some accountId) .average checkpoint) {payload : AccountPayload}
    (holds : checkpoint.Holds (.account payload)) :
    ∃ account, restoreStored (.account payload) accountId = .ok account ∧
      SameEntries account checkpoint := by
  obtain rfl := SnapshotPayload.account.inj holds
  have permuted : (serializeAccountSnapshot checkpoint.snapshot.1).holdings.sorted.items.Perm
      (checkpoint.holdings.holdings.items.map fun item =>
        (item.1.value, serializeHolding item.2)) := by
    have listed := serialized_items checkpoint.snapshot.1
    exact (sortItems_perm _).trans (.of_eq listed)
  obtain ⟨reordered, same, listed⟩ := exists_perm_of_map _ permuted
  have fixed : ∀ item ∈ reordered, (item.1, roundTrip item.1 item.2) = item := by
    intro item mem
    have row := (get?_eq_some_iff _).mpr (same.mem_iff.mp mem)
    have method := (owned.uniform.method _ _ row).trans owned.method
    have noLots := owned.uniform.noLots _ _ row method
    rw [(roundTrip_eq_iff (owned.uniform.wellKeyed _ _ row)).mpr ⟨method, noLots⟩]
  have rows : (serializeAccountSnapshot checkpoint.snapshot.1).holdings.sorted.items.mapM
      restoreRow = .ok reordered := by
    have reads : ∀ item : InstrumentId × Holding,
        restoreRow (item.1.value, serializeHolding item.2) =
          .ok (item.1, roundTrip item.1 item.2) := by
      intro item
      simp only [restoreRow, InstrumentId.create_value]
      rfl
    rw [listed, mapM_map_eq_ok reads, map_congr_left fixed, map_id']
  have distinct : (reordered.map Prod.fst).Nodup :=
    (same.map Prod.fst).nodup_iff.mpr checkpoint.holdings.holdings.distinct
  refine ⟨{ init checkpoint.cash.balances.sorted (some accountId) with
    holdings := { holdings := .ofItems reordered }
    fillIds := .restore checkpoint.fillIds.snapshot.1 }, ?_, ?_⟩
  · simp only [restoreStored, restoreFromPayload, SnapshotPayload.holdings?, Option.getD_some, rows]
    rfl
  · exact {
      accountId := owned.owner.symm
      cash := fun currency => get?_sorted _ currency
      method := owned.method.symm
      holdings := fun instrumentId => by
        rw [get?_ofItems distinct]
        exact lookup_perm distinct same instrumentId
      fillIds := checkpoint.fillIds.restore_snapshot_seen }

end DurableAccountRecovery

/-- An account with the coordinator that saves it, and what it was told so far. -/
structure AccountHistory where
  recovery : DurableAccountRecovery
  actor : AccountActor
  /-- The delivered fills, oldest first. -/
  fills : List ApplyFill := []
  /-- How many of them had been delivered when the account's latest line was written. -/
  saved : Nat := 0

inductive HistoryEvent (accountId : AccountId)
  | message (message : AccountMessage)
  | persist (eventCount elapsed : Int)
  | record (lastSequence : Nat)
  | elsewhere (snapshot : StateSnapshot)
      (other : snapshot.actorId ≠ accountSnapshotActorId (some accountId))

namespace AccountHistory

def deliveredBy : AccountMessage → List ApplyFill
  | .applyFill message => [message]
  | _ => []

variable (caps : UpperCase)

def tell (history : AccountHistory) (message : AccountMessage) :
    Except String Unit × AccountHistory :=
  let (answer, actor) := step caps history.actor message
  (answer.map fun _ => (), { history with
    actor, fills := history.fills ++ deliveredBy message })

def persist (history : AccountHistory) (eventCount elapsed : Int) :
    Except String Unit × AccountHistory :=
  match history.recovery.persistIfDue history.actor eventCount elapsed with
  | (.error failure, recovery, actor) =>
    (.error failure, { history with recovery, actor })
  | (.ok written, recovery, actor) =>
    (.ok (), { history with
      recovery, actor
      saved := if written then history.fills.length else history.saved })

def record (history : AccountHistory) (lastSequence : Nat) :
    Except String Unit × AccountHistory :=
  match recordAccountSnapshot history.recovery.store history.actor lastSequence with
  | (.error failure, store, actor) =>
    (.error failure, { history with
      recovery := { history.recovery with store }, actor })
  | (.ok _, store, actor) =>
    (.ok (), { history with
      recovery := { history.recovery with store }
      actor
      saved := history.fills.length })

def elsewhere (history : AccountHistory) (snapshot : StateSnapshot) :
    Except String Unit × AccountHistory :=
  (.ok (), { history with
    recovery := { history.recovery with store := history.recovery.store.save snapshot } })

def step {accountId : AccountId} :
    Step AccountHistory (HistoryEvent accountId) (Except String Unit) :=
  fun history event =>
    match event with
    | .message message => history.tell caps message
    | .persist eventCount elapsed => history.persist eventCount elapsed
    | .record lastSequence => history.record lastSequence
    | .elsewhere snapshot _ => history.elsewhere snapshot

/-- A new account and an empty file. -/
def init (policy : SnapshotFrequencyPolicy) (initialCash : Dict String Decimal)
    (accountId : AccountId) : AccountHistory where
  recovery := { store := ⟨[]⟩, policy }
  actor := AccountActor.init initialCash (some accountId)

def latest (history : AccountHistory) (accountId : AccountId) : Option StateSnapshot :=
  history.recovery.store.latest (accountSnapshotActorId (some accountId))

/-- The account after a number of its fills, without a crash. -/
def upTo (initialCash : Dict String Decimal) (accountId : AccountId)
    (history : AccountHistory) (count : Nat) : AccountActor :=
  (history.fills.take count).foldl (deliver caps)
    (AccountActor.init initialCash (some accountId))

structure SameBooks (first second : AccountActor) : Prop where
  cash : ∀ currency, first.cash.balances.get? currency = second.cash.balances.get? currency
  holdings : ∀ instrumentId,
    first.holdings.holdings.get? instrumentId = second.holdings.holdings.get? instrumentId

/-- After a crash now, a restore and the fills since any point before the latest line, delivered
again and repeated in any way, bring back the books. -/
def Recovers (initialCash : Dict String Decimal) (accountId : AccountId)
    (history : AccountHistory) : Prop :=
  ∀ start, start ≤ history.saved → ∀ stream,
    Redelivers (history.fills.take start) (history.fills.drop start) stream →
      ∃ account, history.recovery.restoreAccount (accountSnapshotActorId (some accountId))
          initialCash accountId = .ok account ∧
        SameBooks (stream.foldl (deliver caps) account) history.actor

/-- A fill that the account refuses whatever it has seen. -/
def Ignored (accountId : AccountId) (message : ApplyFill) : Prop :=
  message.fill.accountId ≠ some accountId ∨ isBlank message.fill.fillId = true

/-- The latest line lists the fill ids, or was written before the account took in a fill. -/
def Covered (accountId : AccountId) (history : AccountHistory) : Prop :=
  ∀ stored ∈ history.latest accountId, stored.payload.seenFillIds?.isSome ∨
    ∀ fill ∈ history.fills.take history.saved, Ignored accountId fill

variable {caps} {initialCash : Dict String Decimal} {accountId : AccountId}

/-- The account is where its fills lead, and its latest line where the first `saved` of them do. -/
structure Retraces (caps : UpperCase) (initialCash : Dict String Decimal)
    (accountId : AccountId) (history : AccountHistory) : Prop where
  owned : Owned (some accountId) .average history.actor
  bounded : history.saved ≤ history.fills.length
  actor : SameEntries history.actor
    (upTo caps initialCash accountId history history.fills.length)
  unsaved : history.latest accountId = none → history.saved = 0
  stored : ∀ stored ∈ history.latest accountId, ∃ checkpoint : AccountActor,
    Owned (some accountId) .average checkpoint ∧
      SameEntries checkpoint (upTo caps initialCash accountId history history.saved) ∧
        checkpoint.Holds stored.payload

theorem init_retraces (policy : SnapshotFrequencyPolicy) :
    Retraces caps initialCash accountId (init policy initialCash accountId) where
  owned := ⟨rfl, rfl, .empty .average⟩
  bounded := le_refl 0
  actor := SameEntries.refl _
  unsaved := fun _ => rfl
  stored := by
    rintro stored ⟨⟩

theorem snapshot_kept {actor : AccountActor} (owned : Owned (some accountId) .average actor) :
    Owned (some accountId) .average actor.snapshot.2 ∧ SameEntries actor.snapshot.2 actor :=
  ⟨⟨owned.owner, owned.method, owned.uniform⟩,
    { SameEntries.refl actor with fillIds := actor.fillIds.snapshot_seen }⟩

theorem Retraces.unwritten {history next : AccountHistory}
    (retraces : Retraces caps initialCash accountId history)
    (actor : next.actor = history.actor ∨ next.actor = history.actor.snapshot.2)
    (fills : next.fills = history.fills) (saved : next.saved = history.saved)
    (latest : next.latest accountId = history.latest accountId) :
    Retraces caps initialCash accountId next := by
  have same : Owned (some accountId) .average next.actor ∧
      SameEntries next.actor history.actor := by
    rcases actor with equal | listed
    · rw [equal]
      exact ⟨retraces.owned, .refl _⟩
    · rw [listed]
      exact snapshot_kept retraces.owned
  have paths : upTo caps initialCash accountId next =
      upTo caps initialCash accountId history := by
    funext count
    simp only [upTo, fills]
  refine ⟨same.1, ?_, ?_, ?_, ?_⟩
  · rw [saved, fills]
    exact retraces.bounded
  · rw [paths, fills]
    exact same.2.trans retraces.actor
  · rw [latest, saved]
    exact retraces.unsaved
  · rw [latest, paths, saved]
    exact retraces.stored

theorem Retraces.written {history next : AccountHistory}
    (retraces : Retraces caps initialCash accountId history) (line : StateSnapshot)
    (actor : next.actor = history.actor.snapshot.2) (fills : next.fills = history.fills)
    (saved : next.saved = history.fills.length) (latest : next.latest accountId = some line)
    (holds : history.actor.Holds line.payload) : Retraces caps initialCash accountId next := by
  have same := snapshot_kept retraces.owned
  rw [← actor] at same
  have paths : upTo caps initialCash accountId next =
      upTo caps initialCash accountId history := by
    funext count
    simp only [upTo, fills]
  refine ⟨same.1, ?_, ?_, ?_, ?_⟩
  · rw [saved, fills]
  · rw [paths, fills]
    exact same.2.trans retraces.actor
  · rw [latest]
    rintro ⟨⟩
  · rw [latest, paths, saved]
    rintro stored ⟨⟩
    exact ⟨history.actor, retraces.owned, retraces.actor, holds⟩

variable {history : AccountHistory}

theorem Retraces.tell (retraces : Retraces caps initialCash accountId history)
    (message : AccountMessage) :
    Retraces caps initialCash accountId (history.tell caps message).2 := by
  have owned : Owned (some accountId) .average
      (AccountActor.step caps history.actor message).2 :=
    step_owned history.actor message retraces.owned
  have extended : SameEntries (AccountActor.step caps history.actor message).2
      ((deliveredBy message).foldl (deliver caps) history.actor) := by
    cases message with
    | applyFill fill => exact .refl _
    | getAccountSnapshot => exact step_sameEntries _ _ (by rintro fill ⟨⟩)
    | drainPositionClosedEvents => exact step_sameEntries _ _ (by rintro fill ⟨⟩)
  have early : ∀ count, count ≤ history.fills.length →
      upTo caps initialCash accountId (history.tell caps message).2 count =
        upTo caps initialCash accountId history count := by
    intro count within
    simp only [upTo, AccountHistory.tell, take_append_of_le_length within]
  refine ⟨owned, ?_, ?_, retraces.unsaved, ?_⟩
  · exact retraces.bounded.trans (prefix_append _ _).length_le
  · have whole : upTo caps initialCash accountId (history.tell caps message).2
        (history.tell caps message).2.fills.length =
          (deliveredBy message).foldl (deliver caps)
            (upTo caps initialCash accountId history history.fills.length) := by
      simp only [upTo, AccountHistory.tell, take_length, foldl_append]
    rw [whole]
    exact extended.trans (foldl_deliver_sameEntries retraces.actor retraces.owned _)
  · intro stored line
    rw [show (history.tell caps message).2.saved = history.saved from rfl,
      early _ retraces.bounded]
    exact retraces.stored stored line

theorem latest_save_other {snapshot : StateSnapshot}
    (other : snapshot.actorId ≠ accountSnapshotActorId (some accountId)) :
    (history.elsewhere snapshot).2.latest accountId = history.latest accountId := by
  simp only [latest, elsewhere, FileSnapshotStore.latest_save, other, if_false]

theorem Retraces.persist (retraces : Retraces caps initialCash accountId history)
    (eventCount elapsed : Int) :
    Retraces caps initialCash accountId (history.persist eventCount elapsed).2 := by
  unfold AccountHistory.persist
  obtain ⟨answer, actor, listed, unwritten, persisted⟩ | ⟨line, id, payload, persisted⟩ :=
    history.recovery.persistIfDue_cases history.actor eventCount elapsed
  · rw [persisted]
    cases answer with
    | error failure => exact retraces.unwritten listed rfl rfl rfl
    | ok written =>
      obtain rfl : written = false := by simpa using unwritten
      exact retraces.unwritten listed rfl rfl rfl
  · rw [persisted]
    have stored : line.actorId = accountSnapshotActorId (some accountId) :=
      id.trans (congrArg accountSnapshotActorId retraces.owned.owner)
    refine retraces.written { line with payload := line.payload.written } rfl rfl rfl ?_ ?_
    · simp only [latest, FileSnapshotStore.latest_save, stored, if_true]
    · simp only [payload]
      rfl

theorem record_latest (owner : history.actor.accountId = some accountId) (lastSequence : Nat) :
    ∃ (line : StateSnapshot) (positions : Dict String Decimal),
      line.payload = (SnapshotPayload.evidence history.actor.cash.balances positions).written ∧
      (history.record lastSequence).2.latest accountId = some line ∧
      (history.record lastSequence).2.actor = history.actor.snapshot.2 ∧
      (history.record lastSequence).2.fills = history.fills ∧
      (history.record lastSequence).2.saved = history.fills.length := by
  obtain ⟨line, positions, id, payload, recorded⟩ :=
    recordAccountSnapshot_written history.recovery.store history.actor lastSequence
  have stored : line.actorId = accountSnapshotActorId (some accountId) :=
    id.trans (congrArg accountSnapshotActorId owner)
  unfold record
  rw [recorded]
  refine ⟨{ line with payload := line.payload.written }, positions, ?_, ?_, rfl, rfl, rfl⟩
  · simp only [payload]
  · simp only [latest, FileSnapshotStore.latest_save, stored, if_true]

theorem Retraces.record (retraces : Retraces caps initialCash accountId history)
    (lastSequence : Nat) :
    Retraces caps initialCash accountId (history.record lastSequence).2 := by
  obtain ⟨line, positions, payload, latest, actor, fills, saved⟩ :=
    record_latest retraces.owned.owner lastSequence
  apply retraces.written line actor fills saved latest
  rw [payload]
  exact rfl

theorem step_retraces (event : HistoryEvent accountId)
    (retraces : Retraces caps initialCash accountId history) :
    Retraces caps initialCash accountId (step caps history event).2 := by
  cases event with
  | message message => exact retraces.tell message
  | persist eventCount elapsed => exact retraces.persist eventCount elapsed
  | record lastSequence => exact retraces.record lastSequence
  | elsewhere snapshot other =>
    exact retraces.unwritten (.inl rfl) rfl rfl (latest_save_other other)

theorem final_retraces (policy : SnapshotFrequencyPolicy) (events : List (HistoryEvent accountId)) :
    Retraces caps initialCash accountId
      (final (step caps) (init policy initialCash accountId) events) := by
  have kept : ∀ history (event : HistoryEvent accountId),
      Retraces caps initialCash accountId history →
        Retraces caps initialCash accountId (step caps history event).2 :=
    fun _ event retraces => step_retraces event retraces
  exact final_invariant kept (init_retraces policy) events

theorem restoreAccount_latest {line : StateSnapshot} (latest : history.latest accountId = some line)
    :
    history.recovery.restoreAccount (accountSnapshotActorId (some accountId)) initialCash
        accountId = restoreStored line.payload accountId := by
  have found : history.recovery.store.latest (accountSnapshotActorId (some accountId)) =
      some line := latest
  simp only [restoreAccount, FileSnapshotStore.load,
    accountSnapshotActorId_visible, Bool.false_eq_true, if_false, found, bind, Except.bind]

theorem restoreAccount_none (latest : history.latest accountId = none) :
    history.recovery.restoreAccount (accountSnapshotActorId (some accountId)) initialCash
        accountId = .ok (AccountActor.init initialCash (some accountId)) := by
  have found : history.recovery.store.latest (accountSnapshotActorId (some accountId)) =
      none := latest
  simp only [restoreAccount, FileSnapshotStore.load,
    accountSnapshotActorId_visible, Bool.false_eq_true, if_false, found, bind, Except.bind]
  rfl

/-- Fills that are refused anyway lead nowhere. -/
theorem upTo_ignored {count : Nat}
    (ignored : ∀ fill ∈ history.fills.take count, Ignored accountId fill) :
    upTo caps initialCash accountId history count =
      AccountActor.init initialCash (some accountId) := by
  apply deliver_idempotent.foldl_settled
  intro fill mem
  rcases ignored fill mem with other | blank
  · exact .inl (by simpa [foreign, AccountActor.init] using other)
  · exact .inr (.inl blank)

theorem Retraces.restored (retraces : Retraces caps initialCash accountId history)
    (covered : Covered accountId history) :
    ∃ account, history.recovery.restoreAccount (accountSnapshotActorId (some accountId))
        initialCash accountId = .ok account ∧
      SameEntries account (upTo caps initialCash accountId history history.saved) := by
  cases latest : history.latest accountId with
  | none =>
    refine ⟨_, restoreAccount_none latest, ?_⟩
    rw [retraces.unsaved latest]
    exact .refl _
  | some line =>
    obtain ⟨checkpoint, owned, same, holds⟩ := retraces.stored line latest
    rw [restoreAccount_latest latest]
    cases shape : line.payload with
    | account payload =>
      rw [shape] at holds
      obtain ⟨account, restored, entries⟩ :=
        restoreStored_account owned holds
      exact ⟨account, restored, entries.trans same⟩
    | evidence cash positions =>
      have ignored : ∀ fill ∈ history.fills.take history.saved, Ignored accountId fill := by
        have listed := covered line latest
        simpa [shape, SnapshotPayload.seenFillIds?] using listed
      rw [upTo_ignored ignored] at same ⊢
      have balances : cash = checkpoint.cash.balances.sorted := by
        rw [shape] at holds
        exact holds
      refine ⟨_, restoreStored_evidence cash positions accountId, ?_⟩
      exact { SameEntries.refl (AccountActor.init initialCash (some accountId)) with
        cash := fun currency => by
          rw [← same.cash, ← checkpoint.cash.balances.get?_sorted, ← balances]
          rfl }

theorem Retraces.recovers (retraces : Retraces caps initialCash accountId history)
    (covered : Covered accountId history) : Recovers caps initialCash accountId history := by
  intro start early stream redelivers
  obtain ⟨account, restored, same⟩ := retraces.restored covered
  have settled : ∀ fill ∈ history.fills.take history.saved,
      Settled (upTo caps initialCash accountId history history.saved) fill :=
    fun fill mem => deliver_idempotent.settled_of_mem mem _
  have ends : stream.foldl (deliver caps)
      (upTo caps initialCash accountId history history.saved) =
        upTo caps initialCash accountId history history.fills.length := by
    rw [deliver_idempotent.foldl_redelivers_since settled early redelivers, upTo,
      ← foldl_append, take_append_drop, upTo, take_length]
  have owner : Owned (some accountId) .average
      (AccountActor.init initialCash (some accountId)) := ⟨rfl, rfl, .empty .average⟩
  have owned : Owned (some accountId) .average
      (upTo caps initialCash accountId history history.saved) :=
    foldl_deliver_owned owner _
  have finish : SameEntries
      (stream.foldl (deliver caps) (upTo caps initialCash accountId history history.saved))
      (stream.foldl (deliver caps) account) :=
    foldl_deliver_sameEntries same.symm owned stream
  rw [ends] at finish
  have books := finish.symm.trans retraces.actor.symm
  exact ⟨account, restored, books.cash, books.holdings⟩

/-- Right after the evidence of an account with holdings is written, a restore loses them. -/
theorem record_forgets (owner : history.actor.accountId = some accountId) (lastSequence : Nat)
    {instrumentId : InstrumentId} (held : history.actor.holdings.holdings.get? instrumentId ≠ none)
    : ¬ Recovers caps initialCash accountId (history.record lastSequence).2 := by
  intro recovers
  obtain ⟨line, positions, payload, latest, actor, fills, saved⟩ :=
    record_latest owner lastSequence
  have nothingLeft : (history.record lastSequence).2.fills.drop
      (history.record lastSequence).2.saved = [] := by
    rw [fills, saved, drop_length]
  -- no fill follows the line, so nothing has to be delivered again
  obtain ⟨account, restored, books⟩ := recovers _ le_rfl []
    (by rw [nothingLeft]; exact .done _)
  have lost : account.holdings.holdings.get? instrumentId = none := by
    rw [restoreAccount_latest latest, payload] at restored
    cases restored
    rfl
  have kept := books.holdings instrumentId
  rw [foldl_nil, lost, actor] at kept
  exact held kept.symm

/-- At every crash of every run, the books come back when the latest line lists the fill ids or
was written before the account took in a fill; and they do not come back from a line of evidence
that was just written for an account with holdings. -/
theorem recovers_of_covered (caps : UpperCase) (policy : SnapshotFrequencyPolicy)
    (initialCash : Dict String Decimal) (accountId : AccountId)
    (events : List (HistoryEvent accountId)) :
    let history := final (step caps) (init policy initialCash accountId) events
    (Covered accountId history → Recovers caps initialCash accountId history) ∧
      ∀ lastSequence instrumentId,
        history.actor.holdings.holdings.get? instrumentId ≠ none →
          ¬ Recovers caps initialCash accountId
            (step caps history (.record lastSequence : HistoryEvent accountId)).2 := by
  intro history
  have retraces : Retraces caps initialCash accountId history := final_retraces policy events
  constructor
  · exact retraces.recovers
  · intro lastSequence instrumentId held
    exact record_forgets retraces.owned.owner lastSequence held

def sampleAccount : AccountId :=
  ⟨⟨"main", Eq.refl false⟩⟩

/-- A bought unit is recorded as evidence, the account is restored and the fill delivered again:
its cash is spent twice, and without the redelivery its holding is gone. -/
theorem evidence_spends_twice :
    let bought := probe (some sampleAccount) ⟨⟨"AAA", rfl⟩⟩ "fill-1"
    let initialCash := ofItems [("USD", 1000)]
    let policy : SnapshotFrequencyPolicy := {
      everyEventCount := some 1, countPositive := rfl, elapsedPositive := rfl
      triggered := .inl rfl }
    let events : List (HistoryEvent sampleAccount) := [.message (.applyFill bought), .record 1]
    let history := final (step .ascii) (init policy initialCash sampleAccount) events
    let restored := history.recovery.restoreAccount "account:main" initialCash sampleAccount
    history.actor.cash.balances.get? "USD" = some 999 ∧
      restored.toOption.map
        (fun account => (deliver .ascii account bought).cash.balances.get? "USD") =
          some (some 998) ∧
      restored.toOption.map
        (fun account => account.holdings.holdings.get? bought.fill.instrumentId) = some none ∧
      ¬ Recovers .ascii initialCash sampleAccount history := by
  intro bought initialCash policy events history restored
  have booked : ((deliver .ascii (AccountActor.init initialCash (some sampleAccount))
      bought).holdings.holdings.get? bought.fill.instrumentId).isSome = true := by
    decide +kernel
  refine ⟨by decide +kernel, by decide +kernel, by decide +kernel, ?_⟩
  have forgotten : ¬ Recovers .ascii initialCash sampleAccount
      ((init policy initialCash sampleAccount).tell .ascii (.applyFill bought)
        |>.2.record 1).2 := by
    have owner : (deliver .ascii (AccountActor.init initialCash (some sampleAccount))
        bought).accountId = some sampleAccount := deliver_accountId _ _
    exact record_forgets owner 1 (Option.isSome_iff_ne_none.mp booked)
  exact forgotten

end AccountHistory

end Qts
