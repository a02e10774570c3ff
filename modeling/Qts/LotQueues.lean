import Qts.FillSlicing
import Qts.PositionClosedEvents
import Mathlib.Algebra.Order.Ring.Abs

/-! # Queues of lots over runs of fills -/

namespace Qts

open StepRuns PositionSide LotLedger List

namespace LotLedger

inductive EndOf (lots : List Lot) : List Lot → Prop
  | whole (used rest : List Lot) (splits : lots = used ++ rest) : EndOf lots rest
  | reduced (used rest : List Lot) (head : Lot) (left : Decimal)
      (splits : lots = used ++ head :: rest) (smaller : |left| < |head.quantity|)
      (side : fromQuantity left = fromQuantity head.quantity) :
      EndOf lots ({ head with quantity := left } :: rest)

theorem EndOf.cons {lots left : List Lot} (ends : EndOf lots left) (lot : Lot) :
    EndOf (lot :: lots) left := by
  cases ends with
  | whole used _ splits => exact .whole (lot :: used) _ (by rw [splits, cons_append])
  | reduced used rest head left splits smaller side =>
    exact .reduced (lot :: used) rest head left (by rw [splits, cons_append]) smaller side

theorem consume_done (price sign multiplier : Decimal) (lots : List Lot) {state : Reduction}
    (done : state.remainingToClose ≤ 0) :
    consume price sign multiplier lots state =
      { state with surviving := state.surviving ++ lots } := by
  cases lots with
  | nil => rw [consume, append_nil]
  | cons lot rest => rw [consume, if_pos done]

variable {side : PositionSide} {lots : List Lot}

/-- The lots are used up oldest first, the last of them perhaps in part. -/
theorem consume_endOf (price multiplier : Decimal) (oneSided : OneSided side lots)
    {state : Reduction} (fresh : state.surviving = []) :
    EndOf lots (consume price side.sign multiplier lots state).surviving := by
  induction lots generalizing state with
  | nil =>
    rw [consume, fresh]
    exact .whole [] [] rfl
  | cons lot rest ih =>
    have lotSided := oneSided lot mem_cons_self
    have restSided : OneSided side rest := fun other mem =>
      oneSided other (mem_cons_of_mem _ mem)
    by_cases done : state.remainingToClose ≤ 0
    · rw [consume_done _ _ _ _ done, fresh]
      exact .whole [] (lot :: rest) rfl
    · rw [consume, if_neg done]
      by_cases whole : |lot.quantity| ≤ state.remainingToClose
      · simp only [min_eq_left whole, lt_irrefl, if_false]
        apply EndOf.cons
        apply ih restSided
        exact fresh
      · have partly : state.remainingToClose < |lot.quantity| := lt_of_not_ge whole
        have left : 0 < |lot.quantity| - state.remainingToClose := sub_pos.mpr partly
        have size : |(|lot.quantity| - state.remainingToClose) * side.sign| < |lot.quantity| := by
          have unit : |side.sign| = 1 := by cases side <;> norm_num [sign]
          rw [abs_mul, unit, mul_one, abs_of_pos left]
          linarith
        simp only [min_eq_right partly.le, partly, if_true, sub_self]
        rw [consume_done _ _ _ _ (le_refl 0), fresh]
        refine .reduced [] rest lot _ rfl size ?_
        rw [fromQuantity_mul_sign left, lotSided]

theorem OneSided.abs_quantity (oneSided : OneSided side lots) :
    |quantity lots| * side.sign = quantity lots := by
  cases net : fromQuantity (quantity lots) with
  | none => rw [fromQuantity_eq_none.mp net, abs_zero, zero_mul]
  | some found =>
    cases oneSided.fromQuantity_eq net
    exact (fromQuantity_sign net).symm

theorem OneSided.abs_quantity_mul (oneSided : OneSided side lots) :
    |quantity lots| = quantity lots * side.sign := by
  calc |quantity lots| = |quantity lots| * side.sign * side.sign := by
        rw [mul_assoc, side.sign_mul_self, mul_one]
    _ = quantity lots * side.sign := by rw [oneSided.abs_quantity]

section Opposing

variable {lots : List Lot} {side : PositionSide} {signedQuantity : Decimal}

theorem consume_remaining (oneSided : OneSided side lots) (price multiplier : Decimal) :
    (consume price side.sign multiplier lots
      { remainingToClose := |signedQuantity| }).remainingToClose =
        max 0 (|signedQuantity| - |quantity lots|) := by
  have empty : OneSided side [] := nofun
  have consumed := consume_consumed price multiplier side lots
    { remainingToClose := |signedQuantity| } oneSided empty (abs_nonneg _)
  generalize consume price side.sign multiplier lots
    { remainingToClose := |signedQuantity| } = after at consumed ⊢
  have quantity_eq := congrArg (· * side.sign) consumed.quantity_eq
  simp only [quantity_nil, zero_add, sub_mul, mul_assoc, side.sign_mul_self, mul_one,
    ← oneSided.abs_quantity_mul, ← consumed.oneSided.abs_quantity_mul] at quantity_eq
  rcases consumed.remaining_nonneg.eq_or_lt with zero | pos
  · have nonneg := abs_nonneg (quantity after.surviving)
    rw [← zero, max_eq_left (by linarith)]
  · have used : after.surviving = [] := consumed.exhausted pos
    rw [used, quantity_nil, abs_zero] at quantity_eq
    rw [max_eq_right (by linarith)]
    linarith

variable (oneSided : OneSided side lots) (nonflat : quantity lots ≠ 0)
  (opposes : sameForQuantities (quantity lots) signedQuantity = false)
include oneSided nonflat opposes

theorem apply_reduce (price multiplier : Decimal) (fillTime : Option DateTime) :
    apply lots signedQuantity price multiplier fillTime =
      let state := consume price side.sign multiplier lots
        { remainingToClose := |signedQuantity| }
      { lots :=
          if 0 < state.remainingToClose then
            state.surviving ++ [⟨state.remainingToClose * -side.sign, price, fillTime⟩]
          else state.surviving
        closedQuantity := state.closedQuantity
        realizedPnl := state.realizedPnl } := by
  rw [apply]
  simp only [nonflat, opposes, Bool.false_eq_true, or_self, if_false, reduce]
  cases net : fromQuantity (quantity lots) with
  | none => exact absurd (fromQuantity_eq_none.mp net) nonflat
  | some found =>
    cases oneSided.fromQuantity_eq net
    rfl

theorem apply_closedQuantity (price multiplier : Decimal) (fillTime : Option DateTime) :
    (apply lots signedQuantity price multiplier fillTime).closedQuantity =
      min |quantity lots| |signedQuantity| := by
  have empty : OneSided side [] := nofun
  have consumed := consume_consumed price multiplier side lots
    { remainingToClose := |signedQuantity| } oneSided empty (abs_nonneg _)
  rw [apply_reduce oneSided nonflat opposes]
  dsimp only
  rw [consumed.closed_eq, consume_remaining oneSided]
  rcases le_total |quantity lots| |signedQuantity| with covers | within
  · rw [min_eq_left covers, max_eq_right (by linarith)]
    ring
  · rw [min_eq_right within, max_eq_left (by linarith)]
    ring

theorem apply_endOf (within : |signedQuantity| ≤ |quantity lots|) (price multiplier : Decimal)
    (fillTime : Option DateTime) :
    EndOf lots (apply lots signedQuantity price multiplier fillTime).lots := by
  rw [apply_reduce oneSided nonflat opposes]
  dsimp only
  rw [consume_remaining oneSided, max_eq_left (by linarith), if_neg (lt_irrefl 0)]
  exact consume_endOf price multiplier oneSided rfl

theorem apply_flips (nonzero : signedQuantity ≠ 0) (larger : |quantity lots| < |signedQuantity|)
    (price multiplier : Decimal) (fillTime : Option DateTime) :
    (apply lots signedQuantity price multiplier fillTime).lots =
      [⟨quantity lots + signedQuantity, price, fillTime⟩] := by
  have empty : OneSided side [] := nofun
  have consumed := consume_consumed price multiplier side lots
    { remainingToClose := |signedQuantity| } oneSided empty (abs_nonneg _)
  have remaining := @consume_remaining lots side signedQuantity oneSided price multiplier
  have excess : 0 < |signedQuantity| - |quantity lots| := by linarith
  rw [max_eq_right excess.le] at remaining
  have used := consumed.exhausted (by rw [remaining]; exact excess)
  have against : signedQuantity = |signedQuantity| * -side.sign := by
    cases net : fromQuantity (quantity lots) with
    | none => exact absurd (fromQuantity_eq_none.mp net) nonflat
    | some found =>
      cases oneSided.fromQuantity_eq net
      exact opposing_fill net nonzero opposes
  rw [apply_reduce oneSided nonflat opposes]
  dsimp only
  rw [used, remaining, if_pos excess, nil_append]
  have left : (|signedQuantity| - |quantity lots|) * -side.sign =
      quantity lots + signedQuantity := by
    linear_combination oneSided.abs_quantity - against
  rw [left]

end Opposing

end LotLedger

namespace HoldingBook

/-- A fill that brings a position through zero. -/
def flips (quantity signedQuantity : Decimal) : Bool :=
  decide (quantity ≠ 0) && decide (quantity + signedQuantity ≠ 0) &&
    !sameForQuantities quantity (quantity + signedQuantity)

/-- What a close event says beside its profit. -/
structure Closing where
  instrumentId : InstrumentId
  closedQuantity : Decimal
  exitPrice : Decimal
  openedAt : Option DateTime
  closedAt : DateTime

def closing (event : PositionClosed) : Closing where
  instrumentId := event.instrumentId
  closedQuantity := event.closedQuantity
  exitPrice := event.exitPrice
  openedAt := event.openedAt
  closedAt := event.closedAt

def closings (current : Holding) (fill : HoldingFill) : List Closing :=
  if current.quantity + fill.signedQuantity = 0 ∨
      flips current.quantity fill.signedQuantity = true then
    [{ instrumentId := current.instrumentId
       closedQuantity := |current.quantity|
       exitPrice := fill.price
       openedAt := current.openedAt
       closedAt := closeTime (fill.fillTime <|> current.lastFillAt) }]
  else []

section Closes

variable {quantity signedQuantity : Decimal}

theorem not_closes_of_opens (nonzero : signedQuantity ≠ 0) (opens : quantity = 0 ∨
    sameForQuantities quantity signedQuantity = true) :
    ¬ (quantity + signedQuantity = 0 ∨ flips quantity signedQuantity = true) := by
  rw [sameForQuantities_iff] at opens
  have remains : quantity = 0 ∨
      sameForQuantities quantity (quantity + signedQuantity) = true := by
    rw [sameForQuantities_iff]
    rcases opens with flat | ⟨held, added⟩ | ⟨held, added⟩
    · exact .inl flat
    · exact .inr (.inl ⟨held, add_pos held added⟩)
    · exact .inr (.inr ⟨held, add_neg held added⟩)
  rintro (flat | through)
  · rcases opens with zero | ⟨held, added⟩ | ⟨held, added⟩
    · rw [zero, zero_add] at flat
      exact nonzero flat
    · exact (add_pos held added).ne' flat
    · exact (add_neg held added).ne flat
  · rcases remains with zero | same
    · simp [flips, zero] at through
    · simp [flips, same] at through

theorem closes_iff (open_ : quantity ≠ 0) (nonzero : signedQuantity ≠ 0)
    (opposes : sameForQuantities quantity signedQuantity = false) :
    (quantity + signedQuantity = 0 ∨ flips quantity signedQuantity = true) ↔
      |quantity| ≤ |signedQuantity| := by
  have remains := remains_iff open_ nonzero opposes
  constructor
  · rintro (flat | through)
    · exact covers_of_flat flat
    · simp only [flips, Bool.and_eq_true, Bool.not_eq_true', decide_eq_true_eq] at through
      rw [← Bool.not_eq_true, remains] at through
      exact not_lt.mp through.2
  · intro covers
    by_cases flat : quantity + signedQuantity = 0
    · exact .inl flat
    · right
      simp only [flips, Bool.and_eq_true, Bool.not_eq_true', decide_eq_true_eq]
      rw [← Bool.not_eq_true, remains]
      exact ⟨⟨open_, flat⟩, not_lt.mpr covers⟩

end Closes

theorem cancels {current : Holding} {fill : HoldingFill} (against : Against current fill)
    (same : |current.quantity| = |fill.signedQuantity|) :
    current.quantity + fill.signedQuantity = 0 := by
  rcases against with ⟨long, sell⟩ | ⟨short, buy⟩
  · rw [abs_of_pos long, abs_of_neg sell] at same
    linarith
  · rw [abs_of_neg short, abs_of_pos buy] at same
    linarith

section Average

variable {current : Holding} {fill : HoldingFill} (average : current.costBasisMethod = .average)
include average

theorem average_closings (nonzero : fill.signedQuantity ≠ 0) :
    (fillHolding current fill).1.map closing = closings current fill := by
  by_cases opens : current.quantity = 0 ∨
      sameForQuantities current.quantity fill.signedQuantity = true
  · rw [fillHolding_opens average opens, closings, if_neg (not_closes_of_opens nonzero opens)]
    rfl
  · have against := (against_or_opens current nonzero).resolve_right opens
    rw [not_or, Bool.not_eq_true] at opens
    have closes := closes_iff opens.1 nonzero opens.2
    by_cases covers : |current.quantity| ≤ |fill.signedQuantity|
    · have reported : (fillHolding current fill).1 = [closeEvent current fill] := by
        by_cases flat : current.quantity + fill.signedQuantity = 0
        · rw [fillHolding_closes average against flat]
        · have larger : |current.quantity| < |fill.signedQuantity| := by
            apply lt_of_le_of_ne covers
            intro same
            rcases against with ⟨long, sell⟩ | ⟨short, buy⟩
            · rw [abs_of_pos long, abs_of_neg sell] at same
              exact flat (by linarith)
            · rw [abs_of_neg short, abs_of_pos buy] at same
              exact flat (by linarith)
          rw [fillHolding_flips average against larger]
      rw [reported, closings, if_pos (closes.mpr covers)]
      rfl
    · rw [fillHolding_reduces average against (not_le.mp covers), closings,
        if_neg fun closed => covers (closes.mp closed)]
      rfl

theorem average_openedAt (nonzero : fill.signedQuantity ≠ 0)
    (flat : current.quantity = 0 → current.openedAt = none)
    (opened : current.quantity ≠ 0 → current.openedAt.isSome = true) :
    (fillHolding current fill).2.openedAt =
      fifoOpenedAt current (current.quantity + fill.signedQuantity)
        (flips current.quantity fill.signedQuantity) (fill.fillTime <|> current.lastFillAt) := by
  by_cases opens : current.quantity = 0 ∨
      sameForQuantities current.quantity fill.signedQuantity = true
  · have remains := not_closes_of_opens nonzero opens
    rw [not_or, Bool.not_eq_true] at remains
    rw [fillHolding_opens average opens, fifoOpenedAt, if_neg remains.1, remains.2]
    by_cases empty : current.quantity = 0
    · rw [if_pos (.inl empty), increase, flat empty]
      rfl
    · rw [if_neg (by simp [empty])]
      rfl
  · have against := (against_or_opens current nonzero).resolve_right opens
    rw [not_or, Bool.not_eq_true] at opens
    have closes := closes_iff opens.1 nonzero opens.2
    by_cases covers : |current.quantity| ≤ |fill.signedQuantity|
    · by_cases exact_ : current.quantity + fill.signedQuantity = 0
      · rw [fillHolding_closes average against exact_, fifoOpenedAt, if_pos exact_]
        rfl
      · have through := (closes.mpr covers).resolve_left exact_
        have larger := lt_of_le_of_ne covers fun same => exact_ (cancels against same)
        rw [fillHolding_flips average against larger, fifoOpenedAt, if_neg exact_,
          if_pos (.inr through)]
        rfl
    · have remains := mt closes.mp covers
      rw [not_or, Bool.not_eq_true] at remains
      obtain ⟨since, known⟩ := Option.isSome_iff_exists.mp (opened opens.1)
      rw [fillHolding_reduces average against (not_le.mp covers), fifoOpenedAt,
        if_neg remains.1, if_neg (by simp [opens.1, remains.2]), partlyClosed, known]
      rfl

end Average

section Fifo

variable {current : Holding} {fill : HoldingFill} (fifo : current.costBasisMethod = .fifo)
  (agree : current.LotsAgree) (nonzero : fill.signedQuantity ≠ 0)
include fifo agree nonzero

theorem fifo_filled :
    let consumption := apply current.lots fill.signedQuantity fill.price
      fill.multiplier (fill.fillTime <|> current.lastFillAt)
    (fillHolding current fill).2.lots = consumption.lots ∧
      (fillHolding current fill).2.quantity = current.quantity + fill.signedQuantity ∧
      (fillHolding current fill).2.openedAt =
        fifoOpenedAt current (current.quantity + fill.signedQuantity)
          (flips current.quantity fill.signedQuantity) (fill.fillTime <|> current.lastFillAt) ∧
      (fillHolding current fill).1.map closing =
        if current.quantity + fill.signedQuantity = 0 ∨
            flips current.quantity fill.signedQuantity = true then
          [{ instrumentId := current.instrumentId
             closedQuantity := consumption.closedQuantity
             exitPrice := fill.price
             openedAt := current.openedAt
             closedAt := closeTime (fill.fillTime <|> current.lastFillAt) }]
        else [] := by
  obtain ⟨side, oneSided⟩ := agree.oneSided
  have applied := apply_applied oneSided nonzero fill.price fill.multiplier
    (fill.fillTime <|> current.lastFillAt)
  have quantity_eq := applied.quantity_eq
  rw [← agree.quantity_eq] at quantity_eq
  simp only [fillHolding, fifo, applyFillFifo, quantity_eq]
  split
  · next closed => exact ⟨rfl, rfl, rfl, (if_pos closed).symm⟩
  · next remains => exact ⟨rfl, rfl, rfl, (if_neg remains).symm⟩

theorem fifo_closings : (fillHolding current fill).1.map closing = closings current fill := by
  obtain ⟨_, _, _, reported⟩ := fifo_filled fifo agree nonzero
  rw [reported, closings]
  by_cases closed : current.quantity + fill.signedQuantity = 0 ∨
      flips current.quantity fill.signedQuantity = true
  · have against : ¬ (current.quantity = 0 ∨
        sameForQuantities current.quantity fill.signedQuantity = true) :=
      fun opens => not_closes_of_opens nonzero opens closed
    rw [not_or, Bool.not_eq_true] at against
    have covers := (closes_iff against.1 nonzero against.2).mp closed
    obtain ⟨side, oneSided⟩ := agree.oneSided
    rw [if_pos closed, if_pos closed, apply_closedQuantity oneSided
      (agree.quantity_eq ▸ against.1) (agree.quantity_eq ▸ against.2), ← agree.quantity_eq,
      min_eq_left covers]
  · rw [if_neg closed, if_neg closed]

end Fifo

/-- An accepted fill of an instrument that says when it happened. -/
structure TimedFillOf (instrumentId : InstrumentId) (fill : HoldingFill) : Prop where
  valid : Valid fill
  instrument_eq : fill.instrumentId = instrumentId
  timed : fill.fillTime.isSome = true

structure FlatIn (instrumentId : InstrumentId) (method : CostBasisMethod) (book : HoldingBook) :
    Prop where
  key : (book.holding instrumentId).instrumentId = instrumentId
  method_eq : (book.holding instrumentId).costBasisMethod = method
  quantity_eq : (book.holding instrumentId).quantity = 0
  openedAt_eq : (book.holding instrumentId).openedAt = none
  lots_eq : (book.holding instrumentId).lots = []

theorem FlatIn.fresh {book : HoldingBook} {instrumentId : InstrumentId}
    (fresh : book.holdings.get? instrumentId = none) :
    FlatIn instrumentId book.costBasisMethod book := by
  have flat := holding_fresh fresh
  constructor <;> rw [flat] <;> rfl

theorem FlatIn.holds {book : HoldingBook} {instrumentId : InstrumentId} {method : CostBasisMethod}
    (flat : FlatIn instrumentId method book) : Holds instrumentId book := by
  refine ⟨flat.key, fun _ => ⟨⟨.long, ?_⟩, ?_, ?_⟩⟩
  · rw [flat.lots_eq]
    nofun
  · rw [flat.quantity_eq, flat.lots_eq, quantity_nil]
  · rw [Holding.openCost, flat.quantity_eq, flat.lots_eq, zero_mul, openCost_nil]

structure Queued (holding : Holding) : Prop where
  oneSided : ∃ side, OneSided side holding.lots
  quantity_eq : (holding.lots.map Lot.quantity).sum = holding.quantity
  averageCost_eq : holding.quantity ≠ 0 →
    holding.averageCost = (holding.lots.map fun lot => lot.quantity * lot.price).sum /
      (holding.lots.map Lot.quantity).sum

structure QueueStep (before : Holding) (fill : HoldingFill) (after : Holding) : Prop where
  queued : Queued after
  opens : ¬ Against before fill →
    after.lots = before.lots ++ [⟨fill.signedQuantity, fill.price, fill.fillTime⟩]
  reduces : Against before fill → |fill.signedQuantity| ≤ |before.quantity| →
    EndOf before.lots after.lots
  flips : Against before fill → |before.quantity| < |fill.signedQuantity| →
    after.lots = [⟨before.quantity + fill.signedQuantity, fill.price, fill.fillTime⟩]

theorem queued_of_lotsAgree {holding : Holding} (agree : holding.LotsAgree) :
    Queued holding where
  oneSided := agree.oneSided
  quantity_eq := agree.quantity_eq.symm
  averageCost_eq := by
    intro open_
    change holding.averageCost = openCost holding.lots / quantity holding.lots
    rw [← agree.openCost_eq, ← agree.quantity_eq, Holding.openCost, mul_div_cancel_left₀ _ open_]

variable {fill : HoldingFill} {current : Holding}

theorem Against.not_opens (against : Against current fill) :
    current.quantity ≠ 0 ∧
      sameForQuantities current.quantity fill.signedQuantity = false := by
  rw [← Bool.not_eq_true, sameForQuantities_iff]
  rcases against with ⟨long, sell⟩ | ⟨short, buy⟩
  · refine ⟨long.ne', ?_⟩
    rintro (⟨_, added⟩ | ⟨other, _⟩) <;> linarith
  · refine ⟨short.ne, ?_⟩
    rintro (⟨other, _⟩ | ⟨_, added⟩) <;> linarith

theorem fifo_queueStep (fifo : current.costBasisMethod = .fifo) (sound : current.Sound)
    (nonzero : fill.signedQuantity ≠ 0) (timed : fill.fillTime.isSome = true) :
    QueueStep current fill (fillHolding current fill).2 := by
  have agree := sound fifo
  obtain ⟨side, oneSided⟩ := agree.oneSided
  obtain ⟨_, kept⟩ := @fillHolding_realizes current sound fill nonzero
  obtain ⟨lots_eq, _, _, _⟩ := fifo_filled fifo agree nonzero
  have now : (fill.fillTime <|> current.lastFillAt) = fill.fillTime := by
    obtain ⟨time, known⟩ := Option.isSome_iff_exists.mp timed
    rw [known]
    rfl
  rw [now] at lots_eq
  have method := (fillHolding_method current fill).trans fifo
  refine ⟨queued_of_lotsAgree (kept method), ?_, ?_, ?_⟩
  · intro sameSide
    have opens := (against_or_opens current nonzero).resolve_left sameSide
    rw [agree.quantity_eq] at opens
    rw [lots_eq, apply]
    simp only [opens, if_true]
  · intro against within
    obtain ⟨nonflat, opposes⟩ := against.not_opens
    rw [agree.quantity_eq] at nonflat opposes within
    rw [lots_eq]
    exact apply_endOf oneSided nonflat opposes within _ _ _
  · intro against larger
    obtain ⟨nonflat, opposes⟩ := against.not_opens
    rw [agree.quantity_eq] at nonflat opposes larger ⊢
    rw [lots_eq]
    exact apply_flips oneSided nonflat opposes nonzero larger _ _ _

structure Alike (average fifo : Holding) : Prop where
  instrumentId_eq : average.instrumentId = fifo.instrumentId
  quantity_eq : average.quantity = fifo.quantity
  openedAt_eq : average.openedAt = fifo.openedAt
  opened : fifo.quantity ≠ 0 → fifo.openedAt.isSome = true
  flat : fifo.quantity = 0 → fifo.openedAt = none

theorem fifoOpenedAt_isSome {newQuantity : Decimal} {through : Bool} {fillTime : Option DateTime}
    (timed : fillTime.isSome = true) (open_ : newQuantity ≠ 0) :
    (fifoOpenedAt current newQuantity through fillTime).isSome = true := by
  rw [fifoOpenedAt, if_neg open_]
  split
  · exact timed
  · cases current.openedAt with
    | none => exact timed
    | some since => rfl

theorem Alike.filled {average fifo : Holding} (alike : Alike average fifo)
    (averageMethod : average.costBasisMethod = .average) (fifoMethod : fifo.costBasisMethod = .fifo)
    (agree : fifo.LotsAgree) (nonzero : fill.signedQuantity ≠ 0)
    (timed : fill.fillTime.isSome = true) :
    (fillHolding average fill).1.map closing = (fillHolding fifo fill).1.map closing ∧
      Alike (fillHolding average fill).2 (fillHolding fifo fill).2 := by
  have averageSound : average.Sound := by
    intro other
    rw [averageMethod] at other
    cases other
  obtain ⟨averageRealizes, _⟩ := @fillHolding_realizes average averageSound fill nonzero
  obtain ⟨_, fifoQuantity, fifoOpened, _⟩ := fifo_filled fifoMethod agree nonzero
  have averageOpened := average_openedAt averageMethod nonzero
    (by rw [alike.quantity_eq, alike.openedAt_eq]; exact alike.flat)
    (by rw [alike.quantity_eq, alike.openedAt_eq]; exact alike.opened)
  have now : ∀ last : Option DateTime, (fill.fillTime <|> last) = fill.fillTime := by
    intro last
    obtain ⟨time, known⟩ := Option.isSome_iff_exists.mp timed
    rw [known]
    rfl
  rw [now] at averageOpened fifoOpened
  refine ⟨?_, ?_, ?_, ?_, ?_, ?_⟩
  · rw [average_closings averageMethod nonzero, fifo_closings fifoMethod agree nonzero, closings,
      closings, alike.instrumentId_eq, alike.quantity_eq, alike.openedAt_eq, now, now]
  · rw [fillHolding_instrumentId, fillHolding_instrumentId, alike.instrumentId_eq]
  · rw [averageRealizes.quantity_eq, fifoQuantity, alike.quantity_eq]
  · rw [averageOpened, fifoOpened, alike.quantity_eq, fifoOpenedAt, fifoOpenedAt,
      alike.quantity_eq, alike.openedAt_eq]
  · intro open_
    rw [fifoQuantity] at open_
    rw [fifoOpened]
    exact fifoOpenedAt_isSome timed open_
  · intro flat
    rw [fifoQuantity] at flat
    rw [fifoOpened, fifoOpenedAt, if_pos flat]

structure Paired (instrumentId : InstrumentId) (averageBook fifoBook : HoldingBook) : Prop where
  averageHolds : Holds instrumentId averageBook
  fifoHolds : Holds instrumentId fifoBook
  averageMethod : (averageBook.holding instrumentId).costBasisMethod = .average
  fifoMethod : (fifoBook.holding instrumentId).costBasisMethod = .fifo
  alike : Alike (averageBook.holding instrumentId) (fifoBook.holding instrumentId)

/-- Answers that report the same closes, each at a profit of its own. -/
def SameClosings (answer other : Except String (List PositionClosed)) : Prop :=
  ∃ events otherEvents, answer = .ok events ∧ other = .ok otherEvents ∧
    events.map closing = otherEvents.map closing

section Fills

variable {instrumentId : InstrumentId} {averageBook fifoBook : HoldingBook}

theorem Paired.flat (averageFlat : FlatIn instrumentId .average averageBook)
    (fifoFlat : FlatIn instrumentId .fifo fifoBook) : Paired instrumentId averageBook fifoBook where
  averageHolds := averageFlat.holds
  fifoHolds := fifoFlat.holds
  averageMethod := averageFlat.method_eq
  fifoMethod := fifoFlat.method_eq
  alike := {
    instrumentId_eq := averageFlat.key.trans fifoFlat.key.symm
    quantity_eq := averageFlat.quantity_eq.trans fifoFlat.quantity_eq.symm
    openedAt_eq := averageFlat.openedAt_eq.trans fifoFlat.openedAt_eq.symm
    opened := fun open_ => absurd fifoFlat.quantity_eq open_
    flat := fun _ => fifoFlat.openedAt_eq }

theorem step_holding {book : HoldingBook} (valid : Valid fill)
    (holds : Holds fill.instrumentId book) :
    step book fill = (.ok (fillHolding (book.holding fill.instrumentId) fill).1,
        book.store fill.instrumentId (fillHolding (book.holding fill.instrumentId) fill).2) ∧
      (step book fill).2.holding fill.instrumentId =
        (fillHolding (book.holding fill.instrumentId) fill).2 := by
  have accepted := step_valid holds.key valid
  refine ⟨accepted, ?_⟩
  rw [accepted, holding_store, if_pos rfl]

theorem Paired.step (paired : Paired instrumentId averageBook fifoBook)
    (fillOf : TimedFillOf instrumentId fill) :
    SameClosings (HoldingBook.step averageBook fill).1 (HoldingBook.step fifoBook fill).1 ∧
      Paired instrumentId (HoldingBook.step averageBook fill).2
        (HoldingBook.step fifoBook fill).2 := by
  obtain ⟨valid, rfl, timed⟩ := fillOf
  obtain ⟨averageStep, averageHeld⟩ := step_holding valid paired.averageHolds
  obtain ⟨fifoStep, fifoHeld⟩ := step_holding valid paired.fifoHolds
  obtain ⟨same, alike⟩ := paired.alike.filled paired.averageMethod paired.fifoMethod
    (paired.fifoHolds.sound paired.fifoMethod) valid.nonzero timed
  constructor
  · rw [averageStep, fifoStep]
    exact ⟨_, _, rfl, rfl, same⟩
  · refine ⟨paired.averageHolds.step, paired.fifoHolds.step, ?_, ?_, ?_⟩
    · rw [averageHeld, fillHolding_method, paired.averageMethod]
    · rw [fifoHeld, fillHolding_method, paired.fifoMethod]
    · rw [averageHeld, fifoHeld]
      exact alike

end Fills

end HoldingBook

end Qts
