import Qts.DurableAccountRecovery
import Mathlib.Data.Set.Finite.Basic

/-!
# Recovery of an account

A restored account opens holdings by the default convention, has no buffered close events
and, on the durable path, belongs to the account it was asked for.
-/

namespace Qts

open PythonText Dict StepRuns DurableAccountRecovery

namespace AccountActor

/-- Accounts that agree on everything a message can read. -/
structure Alike (first second : AccountActor) : Prop where
  accountId : first.accountId = second.accountId
  cash : first.cash = second.cash
  holdings : first.holdings = second.holdings
  fillIds : first.fillIds.seen = second.fillIds.seen
  positionClosedEvents : first.positionClosedEvents = second.positionClosedEvents

variable {caps : UpperCase}

theorem Alike.refl (actor : AccountActor) : Alike actor actor :=
  ⟨rfl, rfl, rfl, rfl, rfl⟩

variable {first second : AccountActor}

theorem settle_alike (alike : Alike first second)
    (message : ApplyFill) :
    (settle caps first message).1 = (settle caps second message).1 ∧
      Alike (settle caps first message).2 (settle caps second message).2 := by
  simp only [settle, alike.cash]
  split
  · exact ⟨rfl, alike⟩
  · exact ⟨rfl, { alike with cash := rfl }⟩

theorem book_alike (alike : Alike first second)
    (message : ApplyFill) :
    (book caps first message).1 = (book caps second message).1 ∧
      Alike (book caps first message).2 (book caps second message).2 := by
  simp only [book, alike.holdings]
  split
  · exact ⟨rfl, alike⟩
  · apply settle_alike
    exact { alike with
      holdings := rfl
      positionClosedEvents := congrArg (· ++ _) alike.positionClosedEvents }

theorem applyFill_alike (alike : Alike first second)
    (message : ApplyFill) :
    (first.applyFill caps message).1 = (second.applyFill caps message).1 ∧
      Alike (first.applyFill caps message).2 (second.applyFill caps message).2 := by
  have sameForeign : first.foreign message = second.foreign message := by
    simp only [foreign, alike.accountId]
  cases own : first.foreign message with
  | true =>
    rw [applyFill_foreign own, applyFill_foreign (sameForeign ▸ own)]
    exact ⟨rfl, alike⟩
  | false =>
    have secondOwn := sameForeign ▸ own
    cases visible : isBlank message.fill.fillId with
    | true =>
      rw [applyFill_blank own visible, applyFill_blank secondOwn visible]
      exact ⟨rfl, alike⟩
    | false =>
      by_cases seen : message.fill.fillId ∈ first.fillIds.seen
      · rw [applyFill_repeated own visible seen,
          applyFill_repeated secondOwn visible (alike.fillIds ▸ seen)]
        exact ⟨rfl, alike⟩
      · rw [applyFill_new own visible seen, applyFill_new secondOwn visible (alike.fillIds ▸ seen)]
        apply book_alike
        exact { alike with fillIds := by simp [alike.fillIds] }

theorem alike_bisimulation : Bisimulation (step caps) Alike := by
  intro first second message alike
  cases message with
  | getAccountSnapshot =>
    have listing : first.fillIds.snapshot.1 = second.fillIds.snapshot.1 := by
      rw [FillIdempotencyStore.snapshot_listing, FillIdempotencyStore.snapshot_listing,
        alike.fillIds]
    constructor
    · simp only [step, snapshot, alike.cash, alike.holdings, alike.accountId, listing]
    · exact { alike with
        fillIds := (first.fillIds.snapshot_seen.trans alike.fillIds).trans
          second.fillIds.snapshot_seen.symm }
  | drainPositionClosedEvents =>
    constructor
    · simp only [step, drainPositionClosedEvents, alike.positionClosedEvents]
    · exact { alike with positionClosedEvents := rfl }
  | applyFill message =>
    have results : (first.applyFill caps message).1 = (second.applyFill caps message).1 ∧
        Alike (first.applyFill caps message).2 (second.applyFill caps message).2 :=
      applyFill_alike alike message
    exact ⟨by simp only [step, results.1], results.2⟩

end AccountActor

namespace HoldingBook

/-- Every row sits under its own instrument and has the book's convention, and average-cost rows
keep no lots. -/
structure Uniform (book : HoldingBook) : Prop where
  wellKeyed : book.WellKeyed
  method : ∀ instrumentId holding, book.holdings.get? instrumentId = some holding →
    holding.costBasisMethod = book.costBasisMethod
  noLots : ∀ instrumentId holding, book.holdings.get? instrumentId = some holding →
    holding.costBasisMethod = .average → holding.lots = []

theorem Uniform.empty (costBasisMethod : CostBasisMethod) :
    Uniform { holdings := .empty, costBasisMethod } where
  wellKeyed := by
    intro instrumentId holding row
    simp at row
  method := by
    intro instrumentId holding row
    simp at row
  noLots := by
    intro instrumentId holding row
    simp at row

theorem reduceOrFlip_lots {current : Holding} (noLots : current.lots = [])
    (signedQuantity price multiplier : Decimal) (fillTime : Option DateTime) :
    (reduceOrFlip current signedQuantity price multiplier fillTime).2.lots = [] := by
  simp only [reduceOrFlip]
  split
  · exact noLots
  · split
    · exact noLots
    · rfl

theorem fillHolding_lots {current : Holding} (average : current.costBasisMethod = .average)
    (noLots : current.lots = []) (fill : HoldingFill) : (fillHolding current fill).2.lots = [] := by
  simp only [fillHolding, average]
  split
  · rfl
  · exact reduceOrFlip_lots noLots _ _ _ _

theorem Uniform.holding {book : HoldingBook} (uniform : book.Uniform)
    (instrumentId : InstrumentId) :
    (book.holding instrumentId).costBasisMethod = book.costBasisMethod ∧
      ((book.holding instrumentId).costBasisMethod = .average →
        (book.holding instrumentId).lots = []) := by
  unfold HoldingBook.holding
  cases row : book.holdings.get? instrumentId with
  | none => exact ⟨rfl, fun _ => rfl⟩
  | some held => exact ⟨uniform.method _ _ row, uniform.noLots _ _ row⟩

theorem Uniform.applyFill {book next : HoldingBook} (uniform : book.Uniform) {fill : HoldingFill}
    {events : List PositionClosed} (applied : book.applyFill fill = .ok (events, next)) :
    next.Uniform ∧ next.costBasisMethod = book.costBasisMethod := by
  have key := uniform.wellKeyed.holding fill.instrumentId
  have valid : Valid fill := by
    by_contra invalid
    obtain ⟨message, refused⟩ := applyFill_invalid invalid book
    rw [refused] at applied
    cases applied
  rw [applyFill_valid key valid] at applied
  cases applied
  obtain ⟨method, noLots⟩ := uniform.holding fill.instrumentId
  have kept := fillHolding_method (book.holding fill.instrumentId) fill
  refine ⟨⟨?_, ?_, ?_⟩, rfl⟩
  · exact uniform.wellKeyed.store ((fillHolding_instrumentId _ _).trans key)
  · intro other holding row
    simp only [store, get?_set] at row
    split at row
    · cases row
      exact kept.trans method
    · exact uniform.method other holding row
  · intro other holding row average
    simp only [store, get?_set] at row
    split at row
    · cases row
      rw [kept] at average
      exact fillHolding_lots average (noLots average) fill
    · exact uniform.noLots other holding row average

end HoldingBook

namespace AccountActor

variable {caps : UpperCase}

def opened (initialCash : Dict String Decimal) (accountId : Option AccountId)
    (costBasisMethod : CostBasisMethod) : AccountActor :=
  { init initialCash accountId with
    holdings := { holdings := .empty, costBasisMethod } }

/-- What every message keeps: the owner of the account and the convention of its book. -/
structure Owned (accountId : Option AccountId) (costBasisMethod : CostBasisMethod)
    (actor : AccountActor) : Prop where
  owner : actor.accountId = accountId
  method : actor.holdings.costBasisMethod = costBasisMethod
  uniform : actor.holdings.Uniform

theorem settle_frame (actor : AccountActor) (message : ApplyFill) :
    (settle caps actor message).2 =
      { actor with cash := (settle caps actor message).2.cash } := by
  simp only [settle]
  split <;> rfl

variable {actor : AccountActor}

variable {costBasisMethod : CostBasisMethod}

theorem book_owned {accountId : Option AccountId}
    (owned : Owned accountId costBasisMethod actor) (message : ApplyFill) :
    Owned accountId costBasisMethod (book caps actor message).2 := by
  simp only [book]
  split
  · exact owned
  · next events holdings applied =>
    obtain ⟨uniform, method⟩ := owned.uniform.applyFill applied
    rw [settle_frame]
    exact ⟨owned.owner, method.trans owned.method, uniform⟩

theorem step_owned {accountId : Option AccountId}
    (actor : AccountActor) (message : AccountMessage)
    (owned : Owned accountId costBasisMethod actor) :
    Owned accountId costBasisMethod (step caps actor message).2 := by
  cases message with
  | getAccountSnapshot => exact ⟨owned.owner, owned.method, owned.uniform⟩
  | drainPositionClosedEvents => exact ⟨owned.owner, owned.method, owned.uniform⟩
  | applyFill message =>
    simp only [step, applyFill]
    split
    · exact owned
    · split
      · exact owned
      · exact owned
      · next fillIds _ =>
        have marked : Owned accountId costBasisMethod { actor with fillIds } :=
          ⟨owned.owner, owned.method, owned.uniform⟩
        exact book_owned marked message

theorem final_owned (initialCash : Dict String Decimal) (accountId : Option AccountId)
    (costBasisMethod : CostBasisMethod) (messages : List AccountMessage) :
    Owned accountId costBasisMethod
      (final (step caps) (opened initialCash accountId costBasisMethod) messages) := by
  have start : Owned accountId costBasisMethod (opened initialCash accountId costBasisMethod) :=
    ⟨rfl, rfl, .empty costBasisMethod⟩
  exact final_invariant step_owned start messages

theorem restore_alike (average : actor.holdings.costBasisMethod = .average)
    (drained : actor.positionClosedEvents = []) : Alike (restore actor.snapshot.1) actor where
  accountId := rfl
  cash := rfl
  holdings := by
    simp only [restore, snapshot, HoldingBook.restore, HoldingBook.snapshot, ← average]
  fillIds := actor.fillIds.restore_snapshot_seen
  positionClosedEvents := drained.symm

/-- The account that the durable payload brings back. -/
def recovered (actor : AccountActor) (accountId : AccountId) : AccountActor :=
  { init actor.cash.balances (some accountId) with
    holdings := { holdings := .ofItems (actor.holdings.holdings.items.map fun item =>
      (item.1, roundTrip item.1 item.2)) }
    fillIds := .restore actor.fillIds.snapshot.1 }

theorem recovered_alike {accountId : AccountId} (owner : actor.accountId = some accountId)
    (uniform : actor.holdings.Uniform) (average : actor.holdings.costBasisMethod = .average)
    (drained : actor.positionClosedEvents = []) : Alike (recovered actor accountId) actor where
  accountId := owner.symm
  cash := rfl
  holdings := by
    have rows : actor.holdings.holdings.items.map (fun item =>
        (item.1, roundTrip item.1 item.2)) =
          actor.holdings.holdings.items := by
      have fixed : ∀ item ∈ actor.holdings.holdings.items,
          (item.1, roundTrip item.1 item.2) = item := by
        intro item mem
        have row := (get?_eq_some_iff actor.holdings.holdings).mpr mem
        have method := (uniform.method item.1 item.2 row).trans average
        have noLots := uniform.noLots item.1 item.2 row method
        have key := uniform.wellKeyed item.1 item.2 row
        rw [(roundTrip_eq_iff key).mpr ⟨method, noLots⟩]
      rw [List.map_congr_left fixed, List.map_id']
    simp only [recovered, rows, ofItems_items_self, ← average]
  fillIds := actor.fillIds.restore_snapshot_seen
  positionClosedEvents := drained.symm

structure SameAfter (caps : UpperCase) (first second : AccountActor)
    (fills : List ApplyFill) : Prop where
  cash : ∀ currency,
    (final (step caps) first (fills.map .applyFill)).cash.balances.get? currency =
      (final (step caps) second (fills.map .applyFill)).cash.balances.get? currency
  holdings : ∀ instrumentId,
    (final (step caps) first (fills.map .applyFill)).holdings.holdings.get?
        instrumentId =
      (final (step caps) second (fills.map .applyFill)).holdings.holdings.get?
        instrumentId
  positionClosedEvents :
    (final (step caps) first (fills.map .applyFill)).positionClosedEvents =
      (final (step caps) second (fills.map .applyFill)).positionClosedEvents

theorem Alike.sameAfter {first second : AccountActor} (alike : Alike first second)
    (fills : List ApplyFill) : SameAfter caps first second fills := by
  have bisimulation : Bisimulation (step caps) Alike := alike_bisimulation
  have finals := (bisimulation.run alike (fills.map .applyFill)).2
  exact {
    cash := fun currency => by rw [finals.cash]
    holdings := fun instrumentId => by rw [finals.holdings]
    positionClosedEvents := finals.positionClosedEvents }

theorem exists_unused (used : Finset String) : ∃ text, isBlank text = false ∧ text ∉ used := by
  have lengths : Function.Injective fun length =>
      String.ofList (List.replicate (length + 1) 'x') := by
    intro first second same
    have chars := congrArg (fun text => text.toList.length) same
    simpa using chars
  obtain ⟨text, ⟨length, rfl⟩, unused⟩ :=
    (Set.infinite_range_of_injective lengths).exists_notMem_finset used
  refine ⟨_, ?_, unused⟩
  simp [isBlank, isSpace]

def probe (accountId : Option AccountId) (instrumentId : InstrumentId) (fillId : String) :
    ApplyFill where
  fill := {
    fillId
    orderId := ⟨⟨"probe", rfl⟩⟩
    instrumentId
    side := .buy
    quantity := 1
    price := 1
    accountId
    valid := rfl }
  currency := "USD"
  multiplier := 1

theorem probe_row {instrumentId : InstrumentId} {fillId : String}
    (visible : isBlank fillId = false) (unseen : fillId ∉ actor.fillIds.seen)
    (fresh : actor.holdings.holdings.get? instrumentId = none) :
    ((step caps actor (.applyFill (probe actor.accountId instrumentId fillId))).2.holdings
      |>.holdings.get? instrumentId).map Holding.costBasisMethod =
        some actor.holdings.costBasisMethod := by
  have own : actor.foreign (probe actor.accountId instrumentId fillId) = false := by
    cases owner : actor.accountId <;> simp [foreign, probe, owner]
  have valid : HoldingBook.Valid
      (holdingFill (probe actor.accountId instrumentId fillId)) := by
    refine ⟨?_, ?_, ?_⟩ <;> norm_num [holdingFill, probe, OrderFill.signedQuantity]
  have flat : actor.holdings.holding instrumentId =
      HoldingBook.flatHolding instrumentId actor.holdings.costBasisMethod := by
    rw [HoldingBook.holding, fresh, Option.getD_none]
  have key : (actor.holdings.holding instrumentId).instrumentId = instrumentId := by
    rw [flat]
    rfl
  have applied := HoldingBook.applyFill_valid key valid
  have method := HoldingBook.fillHolding_method (actor.holdings.holding instrumentId)
    (holdingFill (probe actor.accountId instrumentId fillId))
  rw [flat] at method
  simp only [step, applyFill_new own visible unseen, book, applied]
  rw [settle_frame]
  simp only [HoldingBook.store, flat, holdingFill, probe, get?_set, if_true, Option.map_some]
  exact congrArg some method

theorem probe_foreign {accountId : AccountId} (owner : actor.accountId = some accountId)
    {other : Option AccountId} (differs : other ≠ some accountId) (instrumentId : InstrumentId)
    (fillId : String) :
    (step caps actor (.applyFill (probe other instrumentId fillId))).2 = actor := by
  have foreign : actor.foreign (probe other instrumentId fillId) = true := by
    simp [AccountActor.foreign, probe, owner, differs]
  simp only [step, applyFill_foreign foreign]

theorem SameAfter.agree {first second : AccountActor}
    (same : ∀ fills, SameAfter caps first second fills)
    (seen : first.fillIds.seen = second.fillIds.seen)
    (owned : first.accountId = second.accountId ∨ first.accountId ≠ none) :
    first.accountId = second.accountId ∧
      first.holdings.costBasisMethod = second.holdings.costBasisMethod ∧
      first.positionClosedEvents = second.positionClosedEvents := by
  obtain ⟨fillId, visible, unseen⟩ := exists_unused second.fillIds.seen
  obtain ⟨name, named, unused⟩ := exists_unused
    (second.holdings.holdings.keys.map fun instrumentId => instrumentId.value).toFinset
  have fresh : second.holdings.holdings.get? ⟨⟨name, named⟩⟩ = none := by
    rw [get?_eq_none_iff]
    intro mem
    exact unused (by simpa using ⟨_, mem, rfl⟩)
  have firstFresh : first.holdings.holdings.get? ⟨⟨name, named⟩⟩ = none := by
    have rows := (same []).holdings ⟨⟨name, named⟩⟩
    exact rows.trans fresh
  have rows := (same [probe second.accountId ⟨⟨name, named⟩⟩ fillId]).holdings ⟨⟨name, named⟩⟩
  have secondRow : ((step caps second
      (.applyFill (probe second.accountId ⟨⟨name, named⟩⟩ fillId))).2.holdings
        |>.holdings.get? ⟨⟨name, named⟩⟩).map Holding.costBasisMethod =
          some second.holdings.costBasisMethod :=
    probe_row visible unseen fresh
  simp only [List.map_cons, List.map_nil, final_cons, final_nil] at rows
  have owner : first.accountId = second.accountId := by
    by_contra differs
    obtain ⟨accountId, owner⟩ := Option.ne_none_iff_exists'.mp (owned.resolve_left differs)
    rw [probe_foreign owner (fun same => differs (owner.trans same.symm)), firstFresh] at rows
    rw [← rows] at secondRow
    cases secondRow
  have firstRow : ((step caps first
      (.applyFill (probe first.accountId ⟨⟨name, named⟩⟩ fillId))).2.holdings
        |>.holdings.get? ⟨⟨name, named⟩⟩).map Holding.costBasisMethod =
          some first.holdings.costBasisMethod :=
    probe_row visible (seen ▸ unseen) firstFresh
  rw [owner, rows, secondRow] at firstRow
  exact ⟨owner, (Option.some.inj firstRow).symm, (same []).positionClosedEvents⟩

/-- A restored account goes on like the account it was taken from exactly when that account's
book opens holdings by the default convention and its close events were drained; on the durable
path it must also be restored under its own account id. -/
theorem restored_account_agrees_iff (caps : UpperCase) (initialCash : Dict String Decimal)
    (accountId : Option AccountId) (costBasisMethod : CostBasisMethod)
    (earlier : List AccountMessage) :
    let actor := final (step caps)
      (opened initialCash accountId costBasisMethod) earlier
    ((∀ later, SameAfter caps (restore actor.snapshot.1) actor later) ↔
      costBasisMethod = .average ∧ actor.positionClosedEvents = []) ∧
    ∀ owner : AccountId, ∃ account,
      restoreFromPayload
        (serializeAccountSnapshot actor.snapshot.1) owner = .ok account ∧
      ((∀ later, SameAfter caps account actor later) ↔
        accountId = some owner ∧ costBasisMethod = .average ∧
          actor.positionClosedEvents = []) := by
  intro actor
  have owned : Owned accountId costBasisMethod actor := final_owned _ _ _ earlier
  constructor
  · constructor
    · intro same
      obtain ⟨_, method, buffers⟩ := SameAfter.agree same
        actor.fillIds.restore_snapshot_seen (Or.inl rfl)
      exact ⟨owned.method.symm.trans method.symm, buffers.symm⟩
    · rintro ⟨average, drained⟩
      exact (restore_alike (owned.method.trans average) drained).sameAfter
  · intro owner
    refine ⟨recovered actor owner, restoreFromPayload_serialized actor.snapshot.1 owner, ?_⟩
    constructor
    · intro same
      obtain ⟨owners, method, buffers⟩ := SameAfter.agree same
        actor.fillIds.restore_snapshot_seen (Or.inr (Option.some_ne_none owner))
      exact ⟨owned.owner.symm.trans owners.symm, owned.method.symm.trans method.symm, buffers.symm⟩
    · rintro ⟨same, average, drained⟩
      exact (recovered_alike (owned.owner.trans same) owned.uniform
        (owned.method.trans average) drained).sameAfter

def unitApplyFill (fillId : String) (side : OrderSide) (price : Decimal) : ApplyFill where
  fill := {
    fillId
    orderId := ⟨⟨"order-1", rfl⟩⟩
    instrumentId := ⟨⟨"AAA", rfl⟩⟩
    side
    quantity := 1
    price
    valid := rfl }
  currency := "USD"
  multiplier := 1

/-- An account restored before its close event is drained never reports the close. -/
theorem undrained_close_lost :
    let actor := final (step .ascii) (init .empty none)
      [.applyFill (unitApplyFill "fill-1" .buy 10), .applyFill (unitApplyFill "fill-2" .sell 12)]
    actor.positionClosedEvents.map PositionClosed.realizedPnl = [2] ∧
      ¬ SameAfter .ascii (restore actor.snapshot.1) actor [] := by
  intro actor
  have buffered : actor.positionClosedEvents.map PositionClosed.realizedPnl = [2] := by
    decide +kernel
  refine ⟨buffered, ?_⟩
  intro same
  have lost : [] = actor.positionClosedEvents := same.positionClosedEvents
  rw [← lost] at buffered
  cases buffered

end AccountActor

end Qts
