import Qts.HoldingAccounting

/-! # Position-closed events of a holding -/

namespace Qts

open StepRuns PositionSide LotLedger

/-- A signed fill against the position that is smaller than the position. -/
def Holding.ClosesPart (holding : Holding) (signedQuantity : Decimal) : Prop :=
  holding.quantity ≠ 0 ∧
    sameForQuantities holding.quantity signedQuantity = false ∧
    |signedQuantity| < |holding.quantity|

instance (holding : Holding) (signedQuantity : Decimal) :
    Decidable (holding.ClosesPart signedQuantity) :=
  inferInstanceAs (Decidable (_ ∧ _ ∧ _))

namespace HoldingBook

def reportedProfit (events : List PositionClosed) : Decimal :=
  (events.map PositionClosed.realizedPnl).sum

def emitted (answers : List (Except String (List PositionClosed))) : List PositionClosed :=
  answers.flatMap fun answer =>
    match answer with
    | .ok events => events
    | .error _ => []

@[simp]
theorem reportedProfit_nil : reportedProfit [] = 0 :=
  rfl

@[simp]
theorem reportedProfit_append (first second : List PositionClosed) :
    reportedProfit (first ++ second) = reportedProfit first + reportedProfit second := by
  simp [reportedProfit]

variable {current : Holding}

theorem reduceOrFlip_reported {signedQuantity : Decimal} (open_ : current.quantity ≠ 0)
    (nonzero : signedQuantity ≠ 0)
    (opposes : sameForQuantities current.quantity signedQuantity = false)
    (whole : ¬ current.ClosesPart signedQuantity) (price multiplier : Decimal)
    (fillTime : Option DateTime) :
    let filled := reduceOrFlip current signedQuantity price multiplier fillTime
    reportedProfit filled.1 = filled.2.realizedPnl - current.realizedPnl := by
  have covers : ¬ |signedQuantity| < |current.quantity| := fun smaller =>
    whole ⟨open_, opposes, smaller⟩
  have leaves : ¬ sameForQuantities current.quantity
      (current.quantity + signedQuantity) = true := fun same =>
    covers ((remains_iff open_ nonzero opposes).mp same)
  simp only [reduceOrFlip]
  by_cases flat : current.quantity + signedQuantity = 0
  · rw [if_pos flat]
    simp [reportedProfit]
  · rw [if_neg flat, if_neg leaves]
    simp [reportedProfit]

theorem applyFillFifo_reported (agree : current.LotsAgree) {signedQuantity : Decimal}
    (nonzero : signedQuantity ≠ 0) (whole : ¬ current.ClosesPart signedQuantity)
    (price multiplier : Decimal) (fillTime : Option DateTime) :
    let filled := applyFillFifo current signedQuantity price multiplier fillTime
    reportedProfit filled.1 = filled.2.realizedPnl - current.realizedPnl := by
  obtain ⟨side, oneSided⟩ := agree.oneSided
  have applied := apply_applied oneSided nonzero price multiplier fillTime
  have quantity_eq := applied.quantity_eq
  rw [← agree.quantity_eq] at quantity_eq
  by_cases opens : current.quantity = 0 ∨
      sameForQuantities current.quantity signedQuantity = true
  · have opened : apply current.lots signedQuantity price multiplier fillTime =
        ⟨current.lots ++ [⟨signedQuantity, price, fillTime⟩], 0, 0⟩ := by
      simp only [apply, ← agree.quantity_eq, opens, if_true]
    simp only [applyFillFifo, opened]
    split <;> simp [reportedProfit]
  · rw [not_or, Bool.not_eq_true] at opens
    obtain ⟨open_, opposes⟩ := opens
    have covers : ¬ |signedQuantity| < |current.quantity| := fun smaller =>
      whole ⟨open_, opposes, smaller⟩
    have leaves : sameForQuantities current.quantity
        (current.quantity + signedQuantity) = false := by
      rw [← Bool.not_eq_true, remains_iff open_ nonzero opposes]
      exact covers
    simp only [applyFillFifo, quantity_eq, open_, leaves, ne_eq, not_false_eq_true,
      decide_true, Bool.true_and, Bool.not_false, Bool.and_true, decide_eq_true_eq, em, if_true]
    simp [reportedProfit]

variable {fill : HoldingFill}

theorem fillHolding_reported (sound : current.Sound) (nonzero : fill.signedQuantity ≠ 0)
    (whole : ¬ current.ClosesPart fill.signedQuantity) :
    reportedProfit (fillHolding current fill).1 =
      (fillHolding current fill).2.realizedPnl - current.realizedPnl := by
  cases convention : current.costBasisMethod with
  | fifo =>
    simp only [fillHolding, convention]
    exact applyFillFifo_reported (sound convention) nonzero whole _ _ _
  | average =>
    simp only [fillHolding, convention]
    by_cases opens : current.quantity = 0 ∨
        sameForQuantities current.quantity fill.signedQuantity = true
    · rw [if_pos opens]
      simp [increase]
    · rw [if_neg opens]
      rw [not_or, Bool.not_eq_true] at opens
      exact reduceOrFlip_reported opens.1 nonzero opens.2 whole _ _ _

theorem fillHolding_silent (sound : current.Sound) (nonzero : fill.signedQuantity ≠ 0)
    (part : current.ClosesPart fill.signedQuantity) : (fillHolding current fill).1 = [] := by
  obtain ⟨open_, opposes, smaller⟩ := part
  have remains := (remains_iff open_ nonzero opposes).mpr smaller
  have nonflat : current.quantity + fill.signedQuantity ≠ 0 := fun flat =>
    not_lt.mpr (covers_of_flat flat) smaller
  cases convention : current.costBasisMethod with
  | fifo =>
    have agree := sound convention
    obtain ⟨side, oneSided⟩ := agree.oneSided
    have applied := apply_applied oneSided nonzero fill.price fill.multiplier
      (fill.fillTime <|> current.lastFillAt)
    have quantity_eq := applied.quantity_eq
    rw [← agree.quantity_eq] at quantity_eq
    simp only [fillHolding, convention, applyFillFifo, quantity_eq, remains, nonflat,
      Bool.not_true, Bool.and_false, Bool.false_eq_true, or_false, if_false]
  | average =>
    have opens : ¬ (current.quantity = 0 ∨
        sameForQuantities current.quantity fill.signedQuantity = true) := by
      rw [not_or, Bool.not_eq_true]
      exact ⟨open_, opposes⟩
    simp only [fillHolding, convention, opens, if_false, reduceOrFlip, nonflat, remains, if_true]

structure Holds (instrumentId : InstrumentId) (book : HoldingBook) : Prop where
  key : (book.holding instrumentId).instrumentId = instrumentId
  sound : (book.holding instrumentId).Sound

variable {instrumentId : InstrumentId}

theorem Holds.fresh {book : HoldingBook}
    (fresh : book.holdings.get? instrumentId = none) : Holds instrumentId book := by
  have flat := holding_fresh fresh
  refine ⟨by rw [flat]; rfl, ?_⟩
  rw [flat]
  exact flatHolding_sound instrumentId book.costBasisMethod

def partialProfit (instrumentId : InstrumentId) (book : HoldingBook) :
    List HoldingFill → Decimal
  | [] => 0
  | fill :: fills =>
    let next := (step book fill).2
    (if (book.holding instrumentId).ClosesPart fill.signedQuantity then
      (next.holding instrumentId).realizedPnl - (book.holding instrumentId).realizedPnl
    else 0) + partialProfit instrumentId next fills

theorem step_refused (invalid : ¬ Valid fill) (book : HoldingBook) :
    ∃ msg, step book fill = (.error msg, book) := by
  obtain ⟨msg, refused⟩ := applyFill_invalid invalid book
  exact ⟨msg, by rw [step, refused]⟩

variable {book : HoldingBook}

theorem Holds.step (holds : Holds fill.instrumentId book) :
    Holds fill.instrumentId (HoldingBook.step book fill).2 := by
  by_cases valid : Valid fill
  · obtain ⟨_, sound⟩ := fillHolding_realizes holds.sound valid.nonzero
    rw [step_valid holds.key valid]
    refine ⟨?_, ?_⟩
    · rw [holding_store, if_pos rfl, fillHolding_instrumentId]
      exact holds.key
    · rw [holding_store, if_pos rfl]
      exact sound
  · obtain ⟨msg, refused⟩ := step_refused valid book
    rw [refused]
    exact holds

theorem step_reported {book : HoldingBook} {fill : HoldingFill}
    (holds : Holds fill.instrumentId book) :
    reportedProfit (emitted [(step book fill).1]) +
        partialProfit fill.instrumentId book [fill] =
      ((step book fill).2.holding fill.instrumentId).realizedPnl -
        (book.holding fill.instrumentId).realizedPnl := by
  by_cases valid : Valid fill
  · have accepted := step_valid holds.key valid
    by_cases part : (book.holding fill.instrumentId).ClosesPart fill.signedQuantity
    · have silent := fillHolding_silent holds.sound valid.nonzero part
      simp [partialProfit, emitted, part, accepted, silent]
    · have reported := fillHolding_reported holds.sound valid.nonzero part
      simp [partialProfit, emitted, part, accepted, reported, holding_store]
  · obtain ⟨msg, refused⟩ := step_refused valid book
    simp [partialProfit, emitted, refused]

theorem run_reported {fills : List HoldingFill}
    (instrument : ∀ fill ∈ fills, fill.instrumentId = instrumentId)
    (holds : Holds instrumentId book) :
    reportedProfit (emitted (responses step book fills)) +
        partialProfit instrumentId book fills =
      ((final step book fills).holding instrumentId).realizedPnl -
        (book.holding instrumentId).realizedPnl := by
  induction fills generalizing book with
  | nil => simp [emitted, partialProfit]
  | cons fill fills ih =>
    cases instrument fill List.mem_cons_self
    have first := step_reported holds
    have rest := ih (fun other mem => instrument other (List.mem_cons_of_mem _ mem))
      holds.step
    simp only [partialProfit, emitted, List.flatMap_cons, List.flatMap_nil, List.append_nil,
      responses_cons, reportedProfit_append, final_cons, add_zero]
      at first rest ⊢
    linear_combination first + rest

theorem partialProfit_eq_zero {fills : List HoldingFill}
    (whole : EveryStep step
      (fun current fill => Valid fill →
        ¬ (current.holding instrumentId).ClosesPart fill.signedQuantity) book fills) :
    partialProfit instrumentId book fills = 0 := by
  induction fills generalizing book with
  | nil => rfl
  | cons fill fills ih =>
    obtain ⟨first, later⟩ := whole
    have rest := ih later
    simp only [partialProfit, rest, add_zero]
    by_cases valid : Valid fill
    · rw [if_neg (first valid)]
    · obtain ⟨msg, refused⟩ := step_refused valid book
      rw [refused]
      simp

end HoldingBook

end Qts
