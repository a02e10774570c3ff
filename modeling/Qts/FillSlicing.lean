import Qts.BacktestStatistics
import Qts.HoldingAccounting

/-! # Fills in slices -/

namespace Qts

open PositionSide List

namespace HoldingBook

def closeProfit (current : Holding) (amount price multiplier : Decimal) : Decimal :=
  amount * (price - current.averageCost) * (if 0 < current.quantity then 1 else -1) * multiplier

def closeEvent (current : Holding) (fill : HoldingFill) : PositionClosed where
  instrumentId := current.instrumentId
  closedQuantity := |current.quantity|
  exitPrice := fill.price
  realizedPnl := closeProfit current |current.quantity| fill.price fill.multiplier
  openedAt := current.openedAt
  closedAt := closeTime (fill.fillTime <|> current.lastFillAt)

def partlyClosed (current : Holding) (fill : HoldingFill) : Holding :=
  { current with
    quantity := current.quantity + fill.signedQuantity
    realizedPnl := current.realizedPnl +
      closeProfit current |fill.signedQuantity| fill.price fill.multiplier
    lastFillAt := fill.fillTime <|> current.lastFillAt }

def closedOut (current : Holding) (fill : HoldingFill) : Holding :=
  { current with
    quantity := 0
    realizedPnl := current.realizedPnl +
      closeProfit current |current.quantity| fill.price fill.multiplier
    openedAt := none
    lastFillAt := fill.fillTime <|> current.lastFillAt }

def flipped (current : Holding) (fill : HoldingFill) : Holding where
  instrumentId := current.instrumentId
  quantity := current.quantity + fill.signedQuantity
  averageCost := fill.price
  realizedPnl := current.realizedPnl +
    closeProfit current |current.quantity| fill.price fill.multiplier
  costBasisMethod := current.costBasisMethod
  openedAt := fill.fillTime <|> current.lastFillAt
  lastFillAt := fill.fillTime <|> current.lastFillAt

def Against (current : Holding) (fill : HoldingFill) : Prop :=
  0 < current.quantity ∧ fill.signedQuantity < 0 ∨ current.quantity < 0 ∧ 0 < fill.signedQuantity

theorem against_or_opens (current : Holding) {fill : HoldingFill}
    (nonzero : fill.signedQuantity ≠ 0) :
    Against current fill ∨ (current.quantity = 0 ∨
      sameForQuantities current.quantity fill.signedQuantity = true) := by
  rw [sameForQuantities_iff, Against]
  rcases lt_trichotomy current.quantity 0 with short | flat | long
  · rcases lt_or_gt_of_ne nonzero with sell | buy
    · exact .inr (.inr (.inr ⟨short, sell⟩))
    · exact .inl (.inr ⟨short, buy⟩)
  · exact .inr (.inl flat)
  · rcases lt_or_gt_of_ne nonzero with sell | buy
    · exact .inl (.inl ⟨long, sell⟩)
    · exact .inr (.inr (.inl ⟨long, buy⟩))

section Average

variable {current : Holding} {fill : HoldingFill} (average : current.costBasisMethod = .average)
include average

theorem fillHolding_opens (opens : current.quantity = 0 ∨
    sameForQuantities current.quantity fill.signedQuantity = true) :
    fillHolding current fill = ([],
      increase current fill.signedQuantity fill.price (fill.fillTime <|> current.lastFillAt)) := by
  rw [fillHolding, average]
  exact if_pos opens

theorem fillHolding_against (against : Against current fill) :
    fillHolding current fill =
      reduceOrFlip current fill.signedQuantity fill.price fill.multiplier
        (fill.fillTime <|> current.lastFillAt) := by
  rw [fillHolding, average]
  refine if_neg ?_
  rw [sameForQuantities_iff]
  rcases against with ⟨long, sell⟩ | ⟨short, buy⟩
  · rintro (flat | ⟨_, buy⟩ | ⟨short, _⟩)
    · exact long.ne' flat
    · exact lt_asymm sell buy
    · exact lt_asymm long short
  · rintro (flat | ⟨long, _⟩ | ⟨_, sell⟩)
    · exact short.ne flat
    · exact lt_asymm short long
    · exact lt_asymm buy sell

theorem fillHolding_reduces (against : Against current fill)
    (smaller : |fill.signedQuantity| < |current.quantity|) :
    fillHolding current fill = ([], partlyClosed current fill) := by
  rw [fillHolding_against average against, reduceOrFlip]
  have remains : sameForQuantities current.quantity
      (current.quantity + fill.signedQuantity) = true := by
    rw [sameForQuantities_iff]
    rcases against with ⟨long, sell⟩ | ⟨short, buy⟩
    · rw [abs_of_pos long, abs_of_neg sell] at smaller
      exact .inl ⟨long, by linarith⟩
    · rw [abs_of_neg short, abs_of_pos buy] at smaller
      exact .inr ⟨short, by linarith⟩
  have nonflat : current.quantity + fill.signedQuantity ≠ 0 := fun flat =>
    not_lt.mpr (covers_of_flat flat) smaller
  rw [if_neg nonflat, if_pos remains, min_eq_right smaller.le]
  rfl

theorem fillHolding_closes (against : Against current fill)
    (exact_ : current.quantity + fill.signedQuantity = 0) :
    fillHolding current fill = ([closeEvent current fill], closedOut current fill) := by
  rw [fillHolding_against average against, reduceOrFlip]
  rw [if_pos exact_, min_eq_left (covers_of_flat exact_)]
  rfl

theorem fillHolding_flips (against : Against current fill)
    (larger : |current.quantity| < |fill.signedQuantity|) :
    fillHolding current fill = ([closeEvent current fill], flipped current fill) := by
  rw [fillHolding_against average against, reduceOrFlip]
  have nonflat : current.quantity + fill.signedQuantity ≠ 0 := by
    intro flat
    rw [eq_neg_of_add_eq_zero_left flat, abs_neg] at larger
    exact lt_irrefl _ larger
  have leaves : ¬sameForQuantities current.quantity
      (current.quantity + fill.signedQuantity) = true := by
    rw [sameForQuantities_iff]
    rcases against with ⟨long, sell⟩ | ⟨short, buy⟩
    · rw [abs_of_pos long, abs_of_neg sell] at larger
      rintro (⟨_, same⟩ | ⟨other, _⟩) <;> linarith
    · rw [abs_of_neg short, abs_of_pos buy] at larger
      rintro (⟨other, _⟩ | ⟨_, same⟩) <;> linarith
  rw [if_neg nonflat, if_neg leaves, min_eq_left larger.le]
  rfl

end Average

/-- A part of a fill: it differs from the fill in its quantity only, which is on the same side. -/
structure PartOf (fill part : HoldingFill) : Prop where
  instrumentId : part.instrumentId = fill.instrumentId
  price : part.price = fill.price
  multiplier : part.multiplier = fill.multiplier
  fillTime : part.fillTime = fill.fillTime
  side : sameForQuantities fill.signedQuantity part.signedQuantity = true

/-- Close events that differ in the amount closed and in the size of the profit only. -/
structure SameClose (event other : PositionClosed) : Prop where
  instrumentId : event.instrumentId = other.instrumentId
  exitPrice : event.exitPrice = other.exitPrice
  openedAt : event.openedAt = other.openedAt
  closedAt : event.closedAt = other.closedAt
  wins : 0 < event.realizedPnl ↔ 0 < other.realizedPnl
  loses : event.realizedPnl < 0 ↔ other.realizedPnl < 0

theorem SameClose.refl (event : PositionClosed) : SameClose event event :=
  ⟨rfl, rfl, rfl, rfl, Iff.rfl, Iff.rfl⟩

theorem SameClose.trans {first second third : PositionClosed} (one : SameClose first second)
    (two : SameClose second third) : SameClose first third :=
  ⟨one.instrumentId.trans two.instrumentId, one.exitPrice.trans two.exitPrice,
    one.openedAt.trans two.openedAt, one.closedAt.trans two.closedAt, one.wins.trans two.wins,
    one.loses.trans two.loses⟩

theorem sameCloses_trans {first second third : List PositionClosed}
    (one : Forall₂ SameClose first second) (two : Forall₂ SameClose second third) :
    Forall₂ SameClose first third := by
  induction one generalizing third with
  | nil =>
    cases two
    exact .nil
  | cons same _ ih =>
    cases two with
    | cons next rest => exact .cons (same.trans next) (ih rest)

/-- What a fill and its slices leave behind: one holding, and close events of the same kind. -/
structure SameEffect (whole sliced : List PositionClosed × Holding) : Prop where
  events : Forall₂ SameClose whole.1 sliced.1
  holding : whole.2 = sliced.2

theorem closeProfit_add (current : Holding) (first second price multiplier : Decimal) :
    closeProfit current (first + second) price multiplier =
      closeProfit current first price multiplier + closeProfit current second price multiplier := by
  unfold closeProfit
  ring

theorem closeProfit_pos_iff (current : Holding) {amount other : Decimal} (pos : 0 < amount)
    (otherPositive : 0 < other) (price multiplier : Decimal) :
    (0 < closeProfit current amount price multiplier ↔
        0 < closeProfit current other price multiplier) ∧
      (closeProfit current amount price multiplier < 0 ↔
        closeProfit current other price multiplier < 0) := by
  have scaled {factor value : Decimal} (above : 0 < factor) : factor * value < 0 ↔ value < 0 :=
    ⟨fun negative => by_contra fun nonneg =>
      absurd negative (not_lt.mpr (mul_nonneg above.le (not_lt.mp nonneg))),
      mul_neg_of_pos_of_neg above⟩
  unfold closeProfit
  simp only [mul_assoc]
  exact ⟨by rw [mul_pos_iff_of_pos_left pos, mul_pos_iff_of_pos_left otherPositive],
    by rw [scaled pos, scaled otherPositive]⟩

theorem or_self {Value : Type} (value : Option Value) : (value <|> value) = value := by
  cases value <;> rfl

theorem or_else_self {Value : Type} (first second : Option Value) :
    ((first <|> second) <|> second) = (first <|> second) := by
  cases first <;> cases second <;> rfl

theorem or_else_again {Value : Type} (first second : Option Value) :
    (first <|> (first <|> second)) = (first <|> second) := by
  cases first <;> rfl

theorem averageCost_slices {held first second cost price : Decimal} (partly : |held + first| ≠ 0)
    (wholly : |held + first + second| ≠ 0) (amounts : |first + second| = |first| + |second|) :
    (if |held| = 0 then price
      else (|held| * cost + |first + second| * price) / |held + first + second|) =
    if |held + first| = 0 then price
    else (|held + first| * (if |held| = 0 then price
        else (|held| * cost + |first| * price) / |held + first|) + |second| * price) /
      |held + first + second| := by
  rw [if_neg partly, eq_div_iff wholly]
  split
  · next flat =>
    rw [abs_eq_zero.mp flat, zero_add, amounts]
    ring
  · rw [div_mul_cancel₀ _ wholly, mul_div_cancel₀ _ partly, amounts]
    ring

section TwoSlices

variable {current : Holding} {fill first second : HoldingFill}

theorem twoSlices_opens (average : current.costBasisMethod = .average) (one : PartOf fill first)
    (two : PartOf fill second)
    (sums : fill.signedQuantity = first.signedQuantity + second.signedQuantity)
    (opens : current.quantity = 0 ∨ sameForQuantities current.quantity fill.signedQuantity = true) :
    SameEffect (fillHolding current fill) ((fillHolding current first).1 ++
      (fillHolding (fillHolding current first).2 second).1,
      (fillHolding (fillHolding current first).2 second).2) := by
  have side := sameForQuantities_iff.mp one.side
  have otherSide := sameForQuantities_iff.mp two.side
  have opensFirst : current.quantity = 0 ∨
      sameForQuantities current.quantity first.signedQuantity = true := by
    rw [sameForQuantities_iff] at opens ⊢
    grind
  have opensSecond : (increase current first.signedQuantity first.price
        (first.fillTime <|> current.lastFillAt)).quantity = 0 ∨
      sameForQuantities (increase current first.signedQuantity first.price
        (first.fillTime <|> current.lastFillAt)).quantity second.signedQuantity = true := by
    rw [sameForQuantities_iff] at opens ⊢
    simp only [increase]
    grind
  rw [fillHolding_opens average opens, fillHolding_opens average opensFirst]
  dsimp only
  have averageAfter : (increase current first.signedQuantity first.price
      (first.fillTime <|> current.lastFillAt)).costBasisMethod = .average := average
  rw [fillHolding_opens averageAfter opensSecond]
  refine ⟨.nil, ?_⟩
  have amounts : |first.signedQuantity + second.signedQuantity| =
      |first.signedQuantity| + |second.signedQuantity| := by
    rw [abs_add_eq_add_abs_iff]
    grind
  have partly : |current.quantity + first.signedQuantity| ≠ 0 := by
    rw [sameForQuantities_iff] at opens
    rw [ne_eq, abs_eq_zero]
    grind
  have wholly : |current.quantity + first.signedQuantity + second.signedQuantity| ≠ 0 := by
    rw [sameForQuantities_iff] at opens
    rw [ne_eq, abs_eq_zero]
    grind
  simp only [increase, one.price, one.fillTime, two.price, two.fillTime, or_else_again,
    or_else_self, sums, ← add_assoc, averageCost_slices partly wholly amounts]

theorem Against.part (against : Against current fill) (part : PartOf fill first) :
    Against current first := by
  have side := sameForQuantities_iff.mp part.side
  unfold Against at against ⊢
  grind

structure PartlyOpen (current : Holding) (fill : HoldingFill) : Prop where
  sign : 0 < current.quantity ↔ 0 < (partlyClosed current fill).quantity
  size : |fill.signedQuantity| + |(partlyClosed current fill).quantity| = |current.quantity|
  nonflat : 0 < |(partlyClosed current fill).quantity|

theorem Against.partlyOpen (against : Against current fill)
    (smaller : |fill.signedQuantity| < |current.quantity|) : PartlyOpen current fill := by
  rcases against with ⟨long, sell⟩ | ⟨short, buy⟩
  · rw [abs_of_pos long, abs_of_neg sell] at smaller
    have remains : 0 < current.quantity + fill.signedQuantity := by linarith
    refine ⟨iff_of_true long remains, ?_, abs_pos.mpr remains.ne'⟩
    rw [partlyClosed, abs_of_pos remains, abs_of_pos long, abs_of_neg sell]
    ring
  · rw [abs_of_neg short, abs_of_pos buy] at smaller
    have remains : current.quantity + fill.signedQuantity < 0 := by linarith
    refine ⟨iff_of_false short.not_gt remains.not_gt, ?_, abs_pos.mpr remains.ne⟩
    rw [partlyClosed, abs_of_neg remains, abs_of_neg short, abs_of_pos buy]
    ring

theorem PartlyOpen.closeProfit_eq (left : PartlyOpen current fill)
    (amount price multiplier : Decimal) :
    closeProfit (partlyClosed current fill) amount price multiplier =
      closeProfit current amount price multiplier := by
  unfold closeProfit
  simp only [← left.sign]
  rfl

/-- The last slice reports a close at a profit of the same sign as the whole fill does. -/
theorem PartlyOpen.sameClose (left : PartlyOpen current first) (open_ : 0 < |current.quantity|)
    (one : PartOf fill first) (two : PartOf fill second) :
    SameClose (closeEvent current fill) (closeEvent (partlyClosed current first) second) := by
  obtain ⟨wins, loses⟩ := closeProfit_pos_iff current open_ left.nonflat fill.price
    fill.multiplier
  refine ⟨rfl, two.price.symm, rfl, ?_, ?_, ?_⟩
  · simp only [closeEvent, partlyClosed, one.fillTime, two.fillTime, or_else_again]
  · simp only [closeEvent, left.closeProfit_eq, two.price, two.multiplier]
    exact wins
  · simp only [closeEvent, left.closeProfit_eq, two.price, two.multiplier]
    exact loses

section

variable (average : current.costBasisMethod = .average) (one : PartOf fill first)
  (two : PartOf fill second)
  (sums : fill.signedQuantity = first.signedQuantity + second.signedQuantity)
  (against : Against current fill)

include average one two sums against

theorem twoSlices_covering (covers : |current.quantity| ≤ |first.signedQuantity|) :
    SameEffect (fillHolding current fill) ((fillHolding current first).1 ++
      (fillHolding (fillHolding current first).2 second).1,
      (fillHolding (fillHolding current first).2 second).2) := by
  have side := sameForQuantities_iff.mp one.side
  have otherSide := sameForQuantities_iff.mp two.side
  have larger : |current.quantity| < |fill.signedQuantity| := by
    unfold Against at against
    grind
  have sameEvent : closeEvent current first = closeEvent current fill := by
    simp only [closeEvent, one.price, one.multiplier, one.fillTime]
  rw [fillHolding_flips average against larger]
  rcases covers.lt_or_eq with flips | closes
  · have opens : sameForQuantities (current.quantity + first.signedQuantity)
        second.signedQuantity = true := by
      rw [sameForQuantities_iff]
      unfold Against at against
      grind
    have rest : fillHolding (flipped current first) second =
        ([], increase (flipped current first) second.signedQuantity second.price
          (second.fillTime <|> (flipped current first).lastFillAt)) :=
      fillHolding_opens average (.inr opens)
    rw [fillHolding_flips average (against.part one) flips]
    dsimp only
    rw [rest, sameEvent]
    refine ⟨.cons (.refl _) .nil, ?_⟩
    have partly : |current.quantity + first.signedQuantity| ≠ 0 := by
      unfold Against at against
      grind
    have amounts : |current.quantity + first.signedQuantity + second.signedQuantity| =
        |current.quantity + first.signedQuantity| + |second.signedQuantity| := by
      unfold Against at against
      grind
    have cost : (|current.quantity + first.signedQuantity| * fill.price +
          |second.signedQuantity| * fill.price) /
        |current.quantity + first.signedQuantity + second.signedQuantity| = fill.price := by
      rw [← add_mul, ← amounts]
      exact mul_div_cancel_left₀ _ (by grind)
    simp only [flipped, increase, sums, ← add_assoc, one.price, one.multiplier, one.fillTime,
      two.price, two.fillTime, or_else_again, or_self, if_neg partly, cost]
  · have exact_ : current.quantity + first.signedQuantity = 0 := by
      unfold Against at against
      grind
    have rest : fillHolding (closedOut current first) second =
        ([], increase (closedOut current first) second.signedQuantity second.price
          (second.fillTime <|> (closedOut current first).lastFillAt)) :=
      fillHolding_opens average (.inl rfl)
    rw [fillHolding_closes average (against.part one) exact_]
    dsimp only
    rw [rest, sameEvent]
    refine ⟨.cons (.refl _) .nil, ?_⟩
    simp only [flipped, closedOut, increase, abs_zero, if_true, zero_add, sums, ← add_assoc,
      exact_, two.price, one.price, one.multiplier, one.fillTime, two.fillTime, or_else_again]
    rfl

theorem twoSlices_partly (smaller : |first.signedQuantity| < |current.quantity|) :
    SameEffect (fillHolding current fill) ((fillHolding current first).1 ++
      (fillHolding (fillHolding current first).2 second).1,
      (fillHolding (fillHolding current first).2 second).2) := by
  have side := sameForQuantities_iff.mp one.side
  have otherSide := sameForQuantities_iff.mp two.side
  have left := (against.part one).partlyOpen smaller
  have open_ : 0 < |current.quantity| := (abs_nonneg _).trans_lt smaller
  have againstRest : Against (partlyClosed current first) second := by
    have sign := left.sign
    have nonflat := abs_pos.mp left.nonflat
    unfold Against at against ⊢
    grind
  have amounts : |fill.signedQuantity| = |first.signedQuantity| + |second.signedQuantity| := by
    rw [sums, abs_add_eq_add_abs_iff]
    grind
  have total : (partlyClosed current first).quantity + second.signedQuantity =
      current.quantity + fill.signedQuantity := by
    rw [sums, ← add_assoc]
    rfl
  have size := left.size
  have sameEvent : SameClose (closeEvent current fill)
      (closeEvent (partlyClosed current first) second) := left.sameClose open_ one two
  have averageRest : (partlyClosed current first).costBasisMethod = .average := average
  have filledAt : (second.fillTime <|> (partlyClosed current first).lastFillAt) =
      (fill.fillTime <|> current.lastFillAt) := by
    change (second.fillTime <|> (first.fillTime <|> current.lastFillAt)) = _
    rw [one.fillTime, two.fillTime, or_else_again]
  have realized (amount : Decimal) : (partlyClosed current first).realizedPnl +
        closeProfit (partlyClosed current first) amount second.price second.multiplier =
      current.realizedPnl +
        closeProfit current (|first.signedQuantity| + amount) fill.price fill.multiplier := by
    rw [left.closeProfit_eq, closeProfit_add, two.price, two.multiplier, ← add_assoc,
      ← one.price, ← one.multiplier]
    rfl
  rw [fillHolding_reduces average (against.part one) smaller]
  dsimp only
  rcases lt_trichotomy |second.signedQuantity| |(partlyClosed current first).quantity| with
    part | same | beyond
  · rw [fillHolding_reduces averageRest againstRest part,
      fillHolding_reduces average against (by linarith)]
    refine ⟨.nil, ?_⟩
    rw [partlyClosed.eq_1 (partlyClosed current first) second, realized, filledAt, total, ← amounts]
    rfl
  · have flat : (partlyClosed current first).quantity + second.signedQuantity = 0 := by
      unfold Against at againstRest
      grind
    rw [fillHolding_closes averageRest againstRest flat,
      fillHolding_closes average against (total.symm.trans flat)]
    refine ⟨.cons sameEvent .nil, ?_⟩
    rw [closedOut.eq_1 (partlyClosed current first) second, realized, filledAt, size]
    rfl
  · rw [fillHolding_flips averageRest againstRest beyond,
      fillHolding_flips average against (by linarith)]
    refine ⟨.cons sameEvent .nil, ?_⟩
    rw [flipped.eq_1 (partlyClosed current first) second, realized, filledAt, total, size,
      two.price]
    rfl

end

end TwoSlices

def fillAll (current : Holding) : List HoldingFill → List PositionClosed × Holding
  | [] => ([], current)
  | fill :: fills =>
    let filled := fillHolding current fill
    let later := fillAll filled.2 fills
    (filled.1 ++ later.1, later.2)

structure Slices (fill : HoldingFill) (parts : List HoldingFill) : Prop where
  each : ∀ part ∈ parts, PartOf fill part
  sums : (parts.map fun part => part.signedQuantity).sum = fill.signedQuantity

theorem PartOf.eq_of_quantity {fill part : HoldingFill} (of : PartOf fill part)
    (same : part.signedQuantity = fill.signedQuantity) : part = fill := by
  cases fill
  cases part
  obtain ⟨rfl, rfl, rfl, rfl, -⟩ := of
  cases same
  rfl

def remaining (fill : HoldingFill) (parts : List HoldingFill) : HoldingFill :=
  { fill with signedQuantity := (parts.map fun part => part.signedQuantity).sum }

variable {parts : List HoldingFill}

theorem remaining_side {fill : HoldingFill} (some : parts ≠ [])
    (of : ∀ part ∈ parts, PartOf fill part) : PartOf fill (remaining fill parts) := by
  refine ⟨rfl, rfl, rfl, rfl, ?_⟩
  rw [sameForQuantities_iff]
  change _ ∧ 0 < (parts.map fun part => part.signedQuantity).sum ∨
    _ ∧ (parts.map fun part => part.signedQuantity).sum < 0
  induction parts with
  | nil => exact absurd rfl some
  | cons part parts ih =>
    have side := sameForQuantities_iff.mp (of part mem_cons_self).side
    rw [map_cons, sum_cons]
    rcases parts with _ | ⟨next, rest⟩
    · rw [map_nil, sum_nil, add_zero]
      exact side
    · have later := ih (cons_ne_nil _ _) fun other mem =>
        of other (mem_cons_of_mem _ mem)
      grind

theorem Slices.rest {fill first : HoldingFill} (slices : Slices fill (first :: parts))
    (some : parts ≠ []) :
    Slices (remaining fill parts) parts where
  each part mem := by
    have of := slices.each part (mem_cons_of_mem _ mem)
    have left := remaining_side some fun other later =>
      slices.each other (mem_cons_of_mem _ later)
    refine ⟨of.instrumentId, of.price, of.multiplier, of.fillTime, ?_⟩
    have side := sameForQuantities_iff.mp of.side
    have otherSide := sameForQuantities_iff.mp left.side
    rw [sameForQuantities_iff]
    grind
  sums := rfl

theorem Slices.sameEffect {fill : HoldingFill} (slices : Slices fill parts)
    (nonzero : fill.signedQuantity ≠ 0) {current : Holding}
    (average : current.costBasisMethod = .average) :
    SameEffect (fillHolding current fill) (fillAll current parts) := by
  induction parts generalizing fill current with
  | nil => exact absurd slices.sums.symm nonzero
  | cons first parts ih =>
    have one := slices.each first mem_cons_self
    by_cases only : parts = []
    · subst only
      have whole : first.signedQuantity = fill.signedQuantity := by
        rw [← slices.sums, map_cons, map_nil, sum_cons, sum_nil, add_zero]
      rw [one.eq_of_quantity whole]
      refine ⟨?_, rfl⟩
      rw [fillAll, fillAll, append_nil]
      exact forall₂_same.mpr fun event _ => .refl event
    · have two := remaining_side only fun other mem =>
        slices.each other (mem_cons_of_mem _ mem)
      have sums : fill.signedQuantity =
          first.signedQuantity + (remaining fill parts).signedQuantity := slices.sums.symm
      have nonzeroRest : (remaining fill parts).signedQuantity ≠ 0 := by
        have side := sameForQuantities_iff.mp two.side
        grind
      have averageRest : (fillHolding current first).2.costBasisMethod = .average :=
        (fillHolding_method current first).trans average
      have later := ih (slices.rest only) nonzeroRest averageRest
      have both : SameEffect (fillHolding current fill) ((fillHolding current first).1 ++
          (fillHolding (fillHolding current first).2 (remaining fill parts)).1,
          (fillHolding (fillHolding current first).2 (remaining fill parts)).2) := by
        rcases against_or_opens current nonzero with against | opens
        · rcases lt_or_ge |first.signedQuantity| |current.quantity| with smaller | covers
          · exact twoSlices_partly average one two sums against smaller
          · exact twoSlices_covering average one two sums against covers
        · exact twoSlices_opens average one two sums opens
      refine ⟨?_, both.holding.trans later.holding⟩
      have appended : Forall₂ SameClose ((fillHolding current first).1 ++
          (fillHolding (fillHolding current first).2 (remaining fill parts)).1)
          ((fillHolding current first).1 ++ (fillAll (fillHolding current first).2 parts).1) :=
        rel_append (forall₂_same.mpr fun event _ => .refl event) later.events
      exact sameCloses_trans both.events appended

end HoldingBook

end Qts
