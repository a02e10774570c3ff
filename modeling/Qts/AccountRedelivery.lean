import Qts.AccountRecovery
import Qts.IdempotentDelivery

/-! # Redelivered fills -/

namespace Qts

open IdempotentDelivery PythonText CashBook

namespace AccountActor

structure SameEntries (first second : AccountActor) : Prop where
  accountId : first.accountId = second.accountId
  cash : ∀ currency, first.cash.balances.get? currency = second.cash.balances.get? currency
  method : first.holdings.costBasisMethod = second.holdings.costBasisMethod
  holdings : ∀ instrumentId,
    first.holdings.holdings.get? instrumentId = second.holdings.holdings.get? instrumentId
  fillIds : first.fillIds.seen = second.fillIds.seen

variable (actor : AccountActor)

theorem SameEntries.refl : SameEntries actor actor :=
  ⟨rfl, fun _ => rfl, rfl, fun _ => rfl, rfl⟩

variable {first second : AccountActor}

theorem SameEntries.symm (same : SameEntries first second) : SameEntries second first :=
  ⟨same.accountId.symm, fun currency => (same.cash currency).symm, same.method.symm,
    fun instrumentId => (same.holdings instrumentId).symm, same.fillIds.symm⟩

theorem SameEntries.trans {first second third : AccountActor} (same : SameEntries first second)
    (later : SameEntries second third) : SameEntries first third :=
  ⟨same.accountId.trans later.accountId,
    fun currency => (same.cash currency).trans (later.cash currency),
    same.method.trans later.method,
    fun instrumentId => (same.holdings instrumentId).trans (later.holdings instrumentId),
    same.fillIds.trans later.fillIds⟩

variable (caps : UpperCase)

def deliver (actor : AccountActor) (message : ApplyFill) : AccountActor :=
  (actor.applyFill caps message).2

/-- A fill that the account has seen, or that it refuses whatever it has seen. -/
def Settled (actor : AccountActor) (message : ApplyFill) : Prop :=
  actor.foreign message = true ∨ isBlank message.fill.fillId = true ∨
    message.fill.fillId ∈ actor.fillIds.seen

variable {caps}

variable (message : ApplyFill)

theorem book_kept :
    (book caps actor message).2.accountId = actor.accountId ∧
      (book caps actor message).2.fillIds = actor.fillIds := by
  simp only [book]
  split
  · exact ⟨rfl, rfl⟩
  · rw [settle_frame]
    exact ⟨rfl, rfl⟩

theorem deliver_accountId : (deliver caps actor message).accountId = actor.accountId := by
  simp only [deliver, applyFill]
  split
  · rfl
  · split
    · rfl
    · rfl
    · exact (book_kept _ _).1

theorem deliver_seen :
    (deliver caps actor message).fillIds.seen =
      if actor.foreign message = true ∨ isBlank message.fill.fillId = true then
        actor.fillIds.seen
      else insert message.fill.fillId actor.fillIds.seen := by
  unfold deliver
  cases own : actor.foreign message with
  | true => simp [applyFill_foreign own]
  | false =>
    cases visible : isBlank message.fill.fillId with
    | true => simp [applyFill_blank own visible]
    | false =>
      by_cases seen : message.fill.fillId ∈ actor.fillIds.seen
      · simp [applyFill_repeated own visible seen, seen]
      · rw [applyFill_new own visible seen, (book_kept _ _).2]
        simp

theorem foreign_deliver (other message : ApplyFill) :
    (deliver caps actor other).foreign message = actor.foreign message := by
  simp only [foreign, deliver_accountId]

theorem deliver_idempotent : Idempotent (deliver caps) Settled where
  unchanged := by
    intro actor message settled
    unfold deliver
    rcases settled with other | blank | seen
    · rw [applyFill_foreign other]
    · cases own : actor.foreign message with
      | true => rw [applyFill_foreign own]
      | false => rw [applyFill_blank own blank]
    · cases own : actor.foreign message with
      | true => rw [applyFill_foreign own]
      | false =>
        cases visible : isBlank message.fill.fillId with
        | true => rw [applyFill_blank own visible]
        | false => rw [applyFill_repeated own visible seen]
  settles := by
    intro actor message
    rw [Settled, foreign_deliver, deliver_seen]
    split
    · next refused => exact refused.imp_right .inl
    · exact .inr (.inr (Finset.mem_insert_self _ _))
  kept := by
    intro actor message settled other
    rw [Settled, foreign_deliver]
    refine settled.imp_right (Or.imp_right fun seen => ?_)
    rw [deliver_seen]
    split
    · exact seen
    · exact Finset.mem_insert_of_mem seen

section

variable (same : SameEntries first second)

include same

theorem settle_sameEntries (message : ApplyFill) :
    SameEntries (settle caps first message).2 (settle caps second message).2 := by
  cases code : normalizeCurrency caps message.currency with
  | error failure =>
    simpa [settle, applyDelta, code, bind, Except.bind] using same
  | ok currency =>
    simp only [settle, applyDelta_normalized code]
    exact { same with
      cash := fun other => by
        simp only [Dict.get?_set, same.cash] }

theorem SameEntries.holding (instrumentId : InstrumentId) :
    first.holdings.holding instrumentId = second.holdings.holding instrumentId := by
  simp only [HoldingBook.holding, same.holdings, same.method]

theorem book_sameEntries (wellKeyed : first.holdings.WellKeyed) (message : ApplyFill) :
    SameEntries (book caps first message).2 (book caps second message).2 := by
  by_cases valid : HoldingBook.Valid (holdingFill message)
  · have key := wellKeyed.holding (holdingFill message).instrumentId
    have secondKey := key
    rw [same.holding] at secondKey
    simp only [book, HoldingBook.applyFill_valid key valid,
      HoldingBook.applyFill_valid secondKey valid]
    apply settle_sameEntries
    exact { same with
      holdings := fun other => by
        simp only [HoldingBook.store, Dict.get?_set, same.holdings, same.holding] }
  · obtain ⟨failure, refused⟩ := HoldingBook.applyFill_invalid valid first.holdings
    obtain ⟨secondFailure, secondRefused⟩ := HoldingBook.applyFill_invalid valid second.holdings
    simpa only [book, refused, secondRefused] using same

theorem deliver_sameEntries (wellKeyed : first.holdings.WellKeyed) (message : ApplyFill) :
    SameEntries (deliver caps first message) (deliver caps second message) := by
  have sameForeign : first.foreign message = second.foreign message := by
    simp only [foreign, same.accountId]
  by_cases settled : Settled first message
  · have secondSettled : Settled second message := by
      rwa [Settled, sameForeign, same.fillIds] at settled
    rwa [deliver_idempotent.unchanged settled, deliver_idempotent.unchanged secondSettled]
  · obtain ⟨own, visible, unseen⟩ : first.foreign message = false ∧
        isBlank message.fill.fillId = false ∧
          message.fill.fillId ∉ first.fillIds.seen := by
      simpa only [Settled, not_or, Bool.not_eq_true] using settled
    rw [deliver, deliver, applyFill_new own visible unseen,
      applyFill_new (sameForeign ▸ own) visible (same.fillIds ▸ unseen)]
    apply book_sameEntries
    · exact { same with fillIds := by simp [same.fillIds] }
    · exact wellKeyed

end

variable {costBasisMethod : CostBasisMethod} {accountId : Option AccountId}

theorem deliver_owned {actor : AccountActor} (owned : Owned accountId costBasisMethod actor)
    (message : ApplyFill) : Owned accountId costBasisMethod (deliver caps actor message) := by
  have stepped : Owned accountId costBasisMethod
      (step caps actor (.applyFill message)).2 := step_owned actor (.applyFill message) owned
  exact stepped

theorem foldl_deliver_owned {actor : AccountActor} (owned : Owned accountId costBasisMethod actor)
    (fills : List ApplyFill) :
    Owned accountId costBasisMethod (fills.foldl (deliver caps) actor) := by
  induction fills generalizing actor with
  | nil => exact owned
  | cons fill fills ih => exact ih (deliver_owned owned fill)

theorem foldl_deliver_sameEntries (same : SameEntries first second)
    (owned : Owned accountId costBasisMethod first) (fills : List ApplyFill) :
    SameEntries (fills.foldl (deliver caps) first) (fills.foldl (deliver caps) second) := by
  induction fills generalizing first second with
  | nil => exact same
  | cons fill fills ih =>
    exact ih (deliver_sameEntries same owned.uniform.wellKeyed fill) (deliver_owned owned fill)

theorem step_sameEntries (message : AccountMessage) (noFill : ∀ fill, message ≠ .applyFill fill) :
    SameEntries (step caps actor message).2 actor := by
  cases message with
  | getAccountSnapshot =>
    exact { SameEntries.refl actor with fillIds := actor.fillIds.snapshot_seen }
  | drainPositionClosedEvents => exact { SameEntries.refl actor with }
  | applyFill fill => exact absurd rfl (noFill fill)

end AccountActor

theorem HoldingBook.applyFill_ok {fill : HoldingFill} (valid : Valid fill) (book : HoldingBook) :
    ∃ taken, book.applyFill fill = .ok taken := by
  simp only [applyFill, (checks_pass_iff fill).mpr valid]
  split
  · exact ⟨_, rfl⟩
  · split <;> exact ⟨_, rfl⟩

/-- A change of a balance without a currency is refused. -/
theorem CashBook.applyDelta_blank {caps : UpperCase} {currency : String}
    (blank : isBlank currency = true) (book : CashBook) (amountDelta : Decimal) :
    book.applyDelta caps currency amountDelta = .error "currency must not be empty" := by
  have empty : caps.upper (strip currency) = "" :=
    (caps.upper_strip_eq_empty_iff currency).mpr blank
  simp only [applyDelta, normalizeCurrency, empty, if_true]
  rfl

namespace AccountActor

variable {caps : UpperCase} {actor : AccountActor} {message : ApplyFill}

/-- A fill that raises leaves the account as it was, and a corrected fill under the same id is
then taken as if the first had not come. -/
def FailsWhole (caps : UpperCase) (actor : AccountActor) (message : ApplyFill) :
    Prop :=
  ∀ failure, (actor.applyFill caps message).1 = .error failure →
    Alike actor (deliver caps actor message) ∧
      ∀ corrected : ApplyFill, corrected.fill.fillId = message.fill.fillId →
        ((deliver caps actor message).applyFill caps corrected).1 =
            (actor.applyFill caps corrected).1 ∧
          Alike (deliver caps (deliver caps actor message) corrected)
            (deliver caps actor corrected)

structure Bookable (message : ApplyFill) : Prop where
  valid : HoldingBook.Valid (holdingFill message)
  currency : isBlank message.currency = false

theorem Alike.failsWhole (alike : Alike actor (deliver caps actor message)) :
    FailsWhole caps actor message := by
  intro failure raised
  refine ⟨alike, fun corrected same => ?_⟩
  obtain ⟨answer, next⟩ := @applyFill_alike caps _ _ alike corrected
  exact ⟨answer.symm, ⟨next.accountId.symm, next.cash.symm, next.holdings.symm,
    next.fillIds.symm, next.positionClosedEvents.symm⟩⟩

theorem Bookable.book_ok (bookable : Bookable message) (actor : AccountActor) :
    (book caps actor message).1 = .ok () := by
  obtain ⟨⟨events, holdings⟩, held⟩ := HoldingBook.applyFill_ok bookable.valid actor.holdings
  have normalized : normalizeCurrency caps message.currency = _ :=
    normalizeCurrency_visible bookable.currency
  simp only [book, held, settle, applyDelta_normalized normalized]

/-- A fill that either of them does not accept raises. -/
theorem book_raises (unbookable : ¬ Bookable message) (actor : AccountActor) :
    ∃ failure, (book caps actor message).1 = .error failure := by
  by_cases valid : HoldingBook.Valid (holdingFill message)
  · obtain ⟨⟨events, holdings⟩, held⟩ := HoldingBook.applyFill_ok valid actor.holdings
    have blank : isBlank message.currency = true := by
      by_contra visible
      exact unbookable ⟨valid, Bool.not_eq_true _ ▸ visible⟩
    refine ⟨"currency must not be empty", ?_⟩
    simp only [book, held, settle, applyDelta_blank blank]
  · obtain ⟨failure, refused⟩ := HoldingBook.applyFill_invalid valid actor.holdings
    exact ⟨failure, by simp only [book, refused]⟩

/-- A fill fails whole exactly where it is refused before its id is marked, or not at all. -/
theorem failsWhole_iff (caps : UpperCase) (actor : AccountActor) (message : ApplyFill) :
    FailsWhole caps actor message ↔ Settled actor message ∨ Bookable message := by
  by_cases settled : Settled actor message
  · refine iff_of_true (Alike.failsWhole ?_) (.inl settled)
    rw [deliver_idempotent.unchanged settled]
    exact .refl actor
  have new := settled
  simp only [Settled, not_or, Bool.not_eq_true] at new
  obtain ⟨own, visible, unseen⟩ := new
  rw [or_iff_right settled]
  have marked := @applyFill_new caps actor message own visible unseen
  constructor
  · intro whole
    by_contra unbookable
    obtain ⟨failure, raised⟩ := @book_raises caps message unbookable { actor with
      fillIds := .ofSeen (insert message.fill.fillId actor.fillIds.seen) }
    rw [← marked] at raised
    have kept := (whole failure raised).1.fillIds
    rw [deliver_seen, if_neg (by simp [own, visible])] at kept
    exact unseen (kept ▸ Finset.mem_insert_self _ _)
  · intro bookable failure raised
    rw [marked, bookable.book_ok] at raised
    cases raised

def oneBought (currency : String) : ApplyFill where
  fill := {
    fillId := "fill-1"
    orderId := ⟨⟨"order-1", Eq.refl false⟩⟩
    instrumentId := ⟨⟨"ES", Eq.refl false⟩⟩
    side := .buy
    quantity := 1
    price := 10
    valid := by exact Eq.refl false }
  currency := currency
  multiplier := 1

/-- The fill without its currency is held and not paid for, and the corrected one is dropped. -/
theorem blankCurrency_unpaid :
    let start := AccountActor.init (.ofItems [("USD", 1000)]) none
    let refused := deliver .ascii start (oneBought "")
    let corrected := deliver .ascii refused (oneBought "USD")
    (start.applyFill .ascii (oneBought "")).1 = .error "currency must not be empty" ∧
      (corrected.holdings.holding ⟨⟨"ES", rfl⟩⟩).quantity = 1 ∧
      corrected.cash.balance .ascii "USD" = .ok 1000 ∧
      ¬ FailsWhole .ascii start (oneBought "") := by
  intro start refused corrected
  refine ⟨by decide +kernel, by decide +kernel, by decide +kernel, fun whole => ?_⟩
  have kept := (whole "currency must not be empty" (by decide +kernel)).1.fillIds
  exact absurd kept (by decide +kernel)

end AccountActor

end Qts
