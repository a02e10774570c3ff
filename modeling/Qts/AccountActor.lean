import Mathlib.Data.Finset.Sort
import Mathlib.Data.String.Basic
import Qts.HoldingBook
import Qts.OrderValueObjects

/-!
# Account actor

The owner of an account's cash and holdings.  It applies each fill id once,
collects the close events until they are drained, and answers snapshots from
which an account can be restored.
-/

namespace Qts

instance transString : IsTrans String (· ≤ ·) :=
  inferInstance

instance antisymmString : @Std.Antisymm String (· ≤ ·) :=
  inferInstance

/-- Tracks fill ids that have already been applied. -/
@[ext]
structure FillIdempotencyStore where
  seen : Finset String
  snapshotCache : Option (List String) := none
  cacheFresh : ∀ listing, snapshotCache = some listing → listing = seen.sort (· ≤ ·)

namespace FillIdempotencyStore

def empty : FillIdempotencyStore where
  seen := ∅
  cacheFresh := by simp

/-- A store of given ids whose listing is not yet computed. -/
def ofSeen (seen : Finset String) : FillIdempotencyStore where
  seen := seen
  cacheFresh := by simp

def markSeen (store : FillIdempotencyStore) (fillId : String) :
    Except String (Bool × FillIdempotencyStore) :=
  if PythonText.isBlank fillId then
    .error "fill_id must not be empty"
  else if fillId ∈ store.seen then
    .ok (false, store)
  else
    .ok (true, ofSeen (insert fillId store.seen))

def discardAll (store : FillIdempotencyStore) (fillIds : Finset String) :
    FillIdempotencyStore :=
  if Disjoint store.seen fillIds then store else ofSeen (store.seen \ fillIds)

def snapshot (store : FillIdempotencyStore) : List String × FillIdempotencyStore :=
  match cached : store.snapshotCache with
  | some listing => (listing, store)
  | none => (store.seen.sort (· ≤ ·), {
      seen := store.seen
      snapshotCache := some (store.seen.sort (· ≤ ·))
      cacheFresh := by simp })

def restore (listing : List String) : FillIdempotencyStore :=
  ofSeen listing.toFinset

@[simp]
theorem ofSeen_seen (seen : Finset String) : (ofSeen seen).seen = seen :=
  rfl

variable (store : FillIdempotencyStore)

theorem snapshot_listing : store.snapshot.1 = store.seen.sort (· ≤ ·) := by
  unfold snapshot
  split
  · next listing cached => exact store.cacheFresh listing cached
  · rfl

theorem snapshot_seen : store.snapshot.2.seen = store.seen := by
  unfold snapshot
  split <;> rfl

@[simp]
theorem discardAll_seen (fillIds : Finset String) :
    (store.discardAll fillIds).seen = store.seen \ fillIds := by
  unfold discardAll
  split
  · next disjoint => exact (Finset.sdiff_eq_self_of_disjoint disjoint).symm
  · rfl

/-- Restoring a listing brings back the same set of ids. -/
theorem restore_snapshot_seen : (restore store.snapshot.1).seen = store.seen := by
  rw [snapshot_listing, restore, ofSeen_seen, Finset.sort_toFinset]

end FillIdempotencyStore

open PythonText FillIdempotencyStore

structure CashBook where
  balances : Dict String Decimal

namespace CashBook

variable (caps : UpperCase)

/-- The trimmed, upper-cased currency code; an empty one is refused. -/
def normalizeCurrency (currency : String) : Except String String :=
  let normalized := caps.upper (strip currency)
  if normalized = "" then .error "currency must not be empty" else .ok normalized

def balance (book : CashBook) (currency : String) : Except String Decimal := do
  let normalized ← normalizeCurrency caps currency
  return (book.balances.get? normalized).getD 0

def applyDelta (book : CashBook) (currency : String) (amountDelta : Decimal) :
    Except String CashBook := do
  let normalized ← normalizeCurrency caps currency
  let current ← book.balance caps normalized
  return { balances := book.balances.set normalized (current + amountDelta) }

variable {caps}

theorem normalizeCurrency_visible {currency : String} (visible : isBlank currency = false) :
    normalizeCurrency caps currency = .ok (caps.upper (strip currency)) := by
  have shown : caps.upper (strip currency) ≠ "" := by
    rw [Ne, caps.upper_strip_eq_empty_iff, visible]
    exact Bool.false_ne_true
  simp only [normalizeCurrency, shown, if_false]

variable {currency normalized : String}

section

variable (accepted : normalizeCurrency caps currency = .ok normalized)

include accepted

theorem normalizeCurrency_idempotent : normalizeCurrency caps normalized = .ok normalized := by
  simp only [normalizeCurrency] at accepted
  split at accepted
  · cases accepted
  · next shown =>
    obtain rfl := Except.ok.inj accepted
    simp only [normalizeCurrency, caps.strip_upper_strip, caps.upper_upper, shown, if_false]

theorem balance_normalized (book : CashBook) :
    book.balance caps currency = .ok ((book.balances.get? normalized).getD 0) := by
  simp only [balance, accepted, bind, Except.bind, pure, Except.pure]

theorem applyDelta_normalized (book : CashBook) (amountDelta : Decimal) :
    book.applyDelta caps currency amountDelta =
      .ok ⟨book.balances.set normalized
        ((book.balances.get? normalized).getD 0 + amountDelta)⟩ := by
  have again := normalizeCurrency_idempotent accepted
  simp only [applyDelta, accepted, balance_normalized again, bind, Except.bind, pure, Except.pure]

end

end CashBook

/-- Message instructing the account actor to apply a validated fill. -/
structure ApplyFill where
  fill : OrderFill
  currency : String
  multiplier : Decimal
  fillTime : Option DateTime := none

def OrderFill.signedQuantity (fill : OrderFill) : Decimal :=
  if fill.side = .buy then fill.quantity else -fill.quantity

structure AccountSnapshot where
  cash : Dict String Decimal
  holdings : Dict InstrumentId Holding
  accountId : Option AccountId := none
  seenFillIds : List String := []

structure AccountActor where
  accountId : Option AccountId
  cash : CashBook
  holdings : HoldingBook
  fillIds : FillIdempotencyStore
  positionClosedEvents : List PositionClosed

/-- What the account actor handles. -/
inductive AccountMessage
  | getAccountSnapshot
  | drainPositionClosedEvents
  | applyFill (message : ApplyFill)

inductive AccountAnswer
  | snapshot (snapshot : AccountSnapshot)
  | events (events : List PositionClosed)
  | applied

namespace AccountActor

def init (initialCash : Dict String Decimal) (accountId : Option AccountId) :
    AccountActor where
  accountId := accountId
  cash := ⟨initialCash⟩
  holdings := { holdings := .empty }
  fillIds := .empty
  positionClosedEvents := []

/-- The current snapshot; listing the fill ids also fills the listing's cache. -/
def snapshot (actor : AccountActor) : AccountSnapshot × AccountActor :=
  let (seenFillIds, fillIds) := actor.fillIds.snapshot
  ({ cash := actor.cash.balances
     holdings := actor.holdings.snapshot
     accountId := actor.accountId
     seenFillIds },
   { actor with fillIds })

def restore (snapshot : AccountSnapshot) : AccountActor :=
  { init snapshot.cash snapshot.accountId with
    holdings := .restore snapshot.holdings
    fillIds := .restore snapshot.seenFillIds }

def drainPositionClosedEvents (actor : AccountActor) : List PositionClosed × AccountActor :=
  (actor.positionClosedEvents, { actor with positionClosedEvents := [] })

def cashDelta (message : ApplyFill) : Decimal :=
  -message.fill.signedQuantity * message.fill.price * message.multiplier - message.fill.commission

def holdingFill (message : ApplyFill) : HoldingFill where
  instrumentId := message.fill.instrumentId
  signedQuantity := message.fill.signedQuantity
  price := message.fill.price
  multiplier := message.multiplier
  fillTime := message.fillTime

variable (caps : UpperCase)

/-- Move the cash for a fill that the holdings have taken. -/
def settle (actor : AccountActor) (message : ApplyFill) : Except String Unit × AccountActor :=
  match actor.cash.applyDelta caps message.currency (cashDelta message) with
  | .error failure => (.error failure, actor)
  | .ok cash => (.ok (), { actor with cash })

def book (actor : AccountActor) (message : ApplyFill) : Except String Unit × AccountActor :=
  match actor.holdings.applyFill (holdingFill message) with
  | .error failure => (.error failure, actor)
  | .ok (events, holdings) =>
    settle caps { actor with
      holdings
      positionClosedEvents := actor.positionClosedEvents ++ events } message

def foreign (actor : AccountActor) (message : ApplyFill) : Bool :=
  actor.accountId.any fun accountId => decide (message.fill.accountId ≠ some accountId)

/-- Apply an idempotent fill.  What is written before a failure stays written. -/
def applyFill (actor : AccountActor) (message : ApplyFill) :
    Except String Unit × AccountActor :=
  if actor.foreign message then
    (.error "fill account_id does not match AccountActor account_id", actor)
  else
    match actor.fillIds.markSeen message.fill.fillId with
    | .error failure => (.error failure, actor)
    | .ok (false, _) => (.ok (), actor)
    | .ok (true, fillIds) => book caps { actor with fillIds } message

def step : StepRuns.Step AccountActor AccountMessage (Except String AccountAnswer) :=
  fun actor message =>
    match message with
    | .getAccountSnapshot => (.ok (.snapshot actor.snapshot.1), actor.snapshot.2)
    | .drainPositionClosedEvents =>
      (.ok (.events actor.drainPositionClosedEvents.1), actor.drainPositionClosedEvents.2)
    | .applyFill message =>
      ((actor.applyFill caps message).1.map fun _ => .applied,
        (actor.applyFill caps message).2)

variable {caps} {actor : AccountActor} {message : ApplyFill}

theorem applyFill_foreign (foreign : actor.foreign message = true) :
    actor.applyFill caps message =
      (.error "fill account_id does not match AccountActor account_id", actor) := by
  simp only [applyFill, foreign, if_true]

theorem applyFill_blank (own : actor.foreign message = false)
    (blank : isBlank message.fill.fillId = true) :
    actor.applyFill caps message = (.error "fill_id must not be empty", actor) := by
  simp [applyFill, own, markSeen, blank]

theorem applyFill_repeated (own : actor.foreign message = false)
    (visible : isBlank message.fill.fillId = false)
    (seen : message.fill.fillId ∈ actor.fillIds.seen) :
    actor.applyFill caps message = (.ok (), actor) := by
  simp [applyFill, own, markSeen, visible, seen]

theorem applyFill_new {actor : AccountActor} {message : ApplyFill}
    (own : actor.foreign message = false) (visible : isBlank message.fill.fillId = false)
    (unseen : message.fill.fillId ∉ actor.fillIds.seen) :
    actor.applyFill caps message = book caps { actor with
      fillIds := .ofSeen (insert message.fill.fillId actor.fillIds.seen) } message := by
  simp [applyFill, own, markSeen, visible, unseen]

end AccountActor

end Qts
