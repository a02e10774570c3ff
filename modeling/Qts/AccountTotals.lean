import Qts.AccountRecovery
import Qts.FirstDeliveries
import Qts.HoldingAccounting

/-! # Totals of an account -/

namespace Qts

open PythonText StepRuns ApplyFill

def ApplyFill.fillId (msg : ApplyFill) : String :=
  msg.fill.fillId

def ApplyFill.notional (msg : ApplyFill) : Decimal :=
  msg.fill.signedQuantity * msg.fill.price * msg.multiplier

def positionOf (instrumentId : InstrumentId) (fills : List ApplyFill) : Decimal :=
  ((fills.filter fun msg => decide (msg.fill.instrumentId = instrumentId)).map
    fun msg => msg.fill.signedQuantity).sum

def cashSpent (fills : List ApplyFill) : Decimal :=
  (fills.map notional).sum + (fills.map fun msg => msg.fill.commission).sum

theorem positionOf_cons (instrumentId : InstrumentId) (msg : ApplyFill)
    (fills : List ApplyFill) :
    positionOf instrumentId (msg :: fills) =
      (if msg.fill.instrumentId = instrumentId then msg.fill.signedQuantity else 0) +
        positionOf instrumentId fills := by
  simp only [positionOf, List.filter_cons, decide_eq_true_eq]
  split <;> simp

theorem cashSpent_cons (msg : ApplyFill) (fills : List ApplyFill) :
    cashSpent (msg :: fills) =
      msg.notional + msg.fill.commission + cashSpent fills := by
  simp only [cashSpent, List.map_cons, List.sum_cons]
  ring

namespace HoldingBook

/-- Every row sits under its own instrument and accounts for its lots. -/
structure SoundBook (book : HoldingBook) : Prop where
  wellKeyed : book.WellKeyed
  sound : ∀ instrumentId, (book.holding instrumentId).Sound

theorem SoundBook.applyFill {book next : HoldingBook} (soundBook : book.SoundBook)
    {fill : HoldingFill} {events : List PositionClosed}
    (applied : book.applyFill fill = .ok (events, next)) :
    next.SoundBook ∧ ∀ instrumentId, (next.holding instrumentId).quantity =
      (book.holding instrumentId).quantity +
        if fill.instrumentId = instrumentId then fill.signedQuantity else 0 := by
  have key := soundBook.wellKeyed.holding fill.instrumentId
  have valid : Valid fill := by
    by_contra invalid
    obtain ⟨failure, refused⟩ := applyFill_invalid invalid book
    rw [refused] at applied
    cases applied
  rw [applyFill_valid key valid] at applied
  cases applied
  obtain ⟨realizes, kept⟩ :=
    fillHolding_realizes (soundBook.sound fill.instrumentId) valid.nonzero
  refine ⟨⟨soundBook.wellKeyed.store ((fillHolding_instrumentId _ _).trans key), ?_⟩, ?_⟩
  · intro instrumentId
    rw [holding_store]
    split
    · exact kept
    · exact soundBook.sound instrumentId
  · intro instrumentId
    rw [holding_store]
    by_cases same : fill.instrumentId = instrumentId
    · subst same
      rw [if_pos rfl, if_pos rfl]
      exact realizes.quantity_eq
    · rw [if_neg (Ne.symm same), if_neg same, add_zero]

end HoldingBook

namespace AccountActor

variable {caps : UpperCase}

inductive Accepted (caps : UpperCase) (actor : AccountActor) (msg : ApplyFill) :
    AccountActor → Prop
  | repeated (seen : msg.fillId ∈ actor.fillIds.seen) : Accepted caps actor msg actor
  | booked (unseen : msg.fillId ∉ actor.fillIds.seen) (events : List PositionClosed)
      (holdings : HoldingBook) (cash : CashBook)
      (held : actor.holdings.applyFill (holdingFill msg) = .ok (events, holdings))
      (settled : actor.cash.applyDelta caps msg.currency (cashDelta msg) = .ok cash) :
      Accepted caps actor msg { actor with
        fillIds := .ofSeen (insert msg.fillId actor.fillIds.seen)
        holdings
        positionClosedEvents := actor.positionClosedEvents ++ events
        cash }

variable {actor : AccountActor} {msg : ApplyFill}

theorem applyFill_accepted (accepted : (actor.applyFill caps msg).1 = .ok ()) :
    Accepted caps actor msg (actor.applyFill caps msg).2 := by
  cases own : actor.foreign msg with
  | true =>
    rw [applyFill_foreign own] at accepted
    cases accepted
  | false =>
    cases visible : isBlank msg.fill.fillId with
    | true =>
      rw [applyFill_blank own visible] at accepted
      cases accepted
    | false =>
      by_cases seen : msg.fill.fillId ∈ actor.fillIds.seen
      · rw [applyFill_repeated own visible seen]
        exact .repeated seen
      · rw [applyFill_new own visible seen] at accepted ⊢
        cases held : actor.holdings.applyFill (holdingFill msg) with
        | error failure =>
          simp only [book, held] at accepted
          cases accepted
        | ok result =>
          obtain ⟨events, holdings⟩ := result
          cases settled :
              actor.cash.applyDelta caps msg.currency (cashDelta msg) with
          | error failure =>
            simp only [book, held, settle, settled] at accepted
            cases accepted
          | ok cash =>
            simp only [book, held, settle, settled]
            exact .booked seen events holdings cash held settled

variable {accountId : Option AccountId}

theorem Owned.soundBook (owned : Owned accountId .average actor) : actor.holdings.SoundBook where
  wellKeyed := owned.uniform.wellKeyed
  sound instrumentId := by
    intro fifo
    rw [(owned.uniform.holding instrumentId).1.trans owned.method] at fifo
    cases fifo

theorem held_position (owned : Owned accountId .average actor) {events : List PositionClosed}
    {holdings : HoldingBook}
    (held : actor.holdings.applyFill (holdingFill msg) = .ok (events, holdings))
    (instrumentId : InstrumentId) :
    (holdings.holding instrumentId).quantity =
      (actor.holdings.holding instrumentId).quantity +
        if msg.fill.instrumentId = instrumentId then msg.fill.signedQuantity else 0 :=
  (owned.soundBook.applyFill held).2 instrumentId

theorem Accepted.owned {costBasisMethod : CostBasisMethod} {actor next : AccountActor}
    (accepted : Accepted caps actor msg next) (owned : Owned accountId costBasisMethod actor)
    : Owned accountId costBasisMethod next := by
  cases accepted with
  | repeated seen => exact owned
  | booked unseen events holdings cash held settled =>
    obtain ⟨uniform, method⟩ := owned.uniform.applyFill held
    exact ⟨owned.owner, method.trans owned.method, uniform⟩

theorem run_counted {inv : AccountActor → Prop}
    {relates : List ApplyFill → AccountActor → AccountActor → Prop}
    (kept : ∀ {actor next msg}, inv actor → Accepted caps actor msg next →
      inv next) (done : ∀ actor, relates [] actor actor)
    (booked : ∀ {actor next last msg counted}, inv actor →
      msg.fillId ∉ actor.fillIds.seen → Accepted caps actor msg next →
        relates counted next last → relates (msg :: counted) actor last)
    {fills : List ApplyFill} {actor : AccountActor} (holds : inv actor)
    (accepted : EveryStep (step caps)
      (fun current msg => (step caps current msg).1.isOk = true) actor
      (fills.map .applyFill)) :
    relates (firstDeliveries fillId actor.fillIds.seen fills) actor
      (final (step caps) actor (fills.map .applyFill)) := by
  induction fills generalizing actor with
  | nil => exact done actor
  | cons msg rest ih =>
    obtain ⟨answered, later⟩ := accepted
    have first : (actor.applyFill caps msg).1 = .ok () := by
      cases result : (actor.applyFill caps msg).1 with
      | ok _ => rfl
      | error failure =>
        simp only [step, result] at answered
        cases answered
    have outcome := applyFill_accepted first
    have whole := ih (kept holds outcome) later
    simp only [List.map_cons, final_cons] at whole ⊢
    simp only [step] at whole ⊢
    generalize (actor.applyFill caps msg).2 = next at outcome whole
    by_cases seen : msg.fillId ∈ actor.fillIds.seen
    · rw [firstDeliveries_seen seen]
      cases outcome with
      | repeated _ => exact whole
      | booked unseen => exact absurd seen unseen
    · rw [firstDeliveries_new seen]
      refine booked holds seen outcome ?_
      cases outcome with
      | repeated known => exact absurd known seen
      | booked unseen => simpa only [FillIdempotencyStore.ofSeen_seen] using whole

/-- What the accepted fills of a run add to an account. -/
structure Totals (caps : UpperCase) (currency : String) (counted : List ApplyFill)
    (before after : AccountActor) : Prop where
  position : ∀ instrumentId, (after.holdings.holding instrumentId).quantity =
    (before.holdings.holding instrumentId).quantity + positionOf instrumentId counted
  cash : ∀ code, CashBook.normalizeCurrency caps currency = .ok code →
    (after.cash.balances.get? code).getD 0 =
      (before.cash.balances.get? code).getD 0 - cashSpent counted

theorem run_totals {currency : String} {fills : List ApplyFill}
    (oneCurrency : ∀ msg ∈ fills, msg.currency = currency)
    (owned : Owned accountId .average actor)
    (accepted : EveryStep (step caps)
      (fun current msg => (step caps current msg).1.isOk = true) actor
      (fills.map .applyFill)) :
    Totals caps currency (firstDeliveries fillId actor.fillIds.seen fills) actor
      (final (step caps) actor (fills.map .applyFill)) := by
  have whole := @run_counted caps (Owned accountId .average)
    (fun counted before after => (∀ msg ∈ counted, msg.currency = currency) →
      Totals caps currency counted before after)
    (fun owned outcome => outcome.owned owned)
    (fun actor _ => ⟨fun _ => by simp [positionOf], fun _ _ => by simp [cashSpent]⟩)
    (by
      intro actor next last msg counted owned unseen outcome later sameCurrency
      have totals := later fun other mem => sameCurrency other (List.mem_cons_of_mem _ mem)
      cases outcome with
      | repeated seen => exact absurd seen unseen
      | booked _ events holdings cash held settled =>
        constructor
        · intro instrumentId
          rw [totals.position, held_position owned held, positionOf_cons, add_assoc]
        · intro code normalized
          rw [totals.cash code normalized, cashSpent_cons]
          rw [sameCurrency msg List.mem_cons_self,
            CashBook.applyDelta_normalized normalized] at settled
          cases settled
          simp only [Dict.get?_set, if_true, Option.getD_some, cashDelta, notional]
          ring)
    fills actor owned accepted
  exact whole fun msg mem => oneCurrency msg (firstDeliveries_subset mem)

end AccountActor

end Qts
