import Qts.Identifiers
import Mathlib.Algebra.Order.BigOperators.Group.List
import Mathlib.Tactic.LinearCombination
import Mathlib.Tactic.Linarith
import Mathlib.Tactic.Ring
import Mathlib.Tactic.FieldSimp

/-! # FIFO lot accounting -/

namespace Qts

open List

/-- Directional side of a non-flat signed position quantity. -/
inductive PositionSide
  | long
  | short
deriving DecidableEq

namespace PositionSide

def sign : PositionSide → Decimal
  | long => 1
  | short => -1

def fromQuantity (quantity : Decimal) : Option PositionSide :=
  if 0 < quantity then some long else if quantity < 0 then some short else none

/-- Whether two signed quantities share a non-flat position side. -/
def sameForQuantities (left right : Decimal) : Bool :=
  (fromQuantity left).isSome && fromQuantity left = fromQuantity right

variable {quantity : Decimal}

theorem fromQuantity_eq_none :
    fromQuantity quantity = none ↔ quantity = 0 := by
  unfold fromQuantity
  split
  · next pos => simp [ne_of_gt pos]
  · split
    · next negative => simp [ne_of_lt negative]
    · next nonpositive nonnegative =>
      simp [le_antisymm (not_lt.mp nonpositive) (not_lt.mp nonnegative)]

theorem fromQuantity_eq_long :
    fromQuantity quantity = some long ↔ 0 < quantity := by
  unfold fromQuantity
  split
  · simp [*]
  · split <;> simp [*]

theorem fromQuantity_eq_short :
    fromQuantity quantity = some short ↔ quantity < 0 := by
  unfold fromQuantity
  split
  · next pos => simp [le_of_lt pos]
  · split <;> simp [*]

theorem fromQuantity_sign {side : PositionSide}
    (found : fromQuantity quantity = some side) : quantity = |quantity| * side.sign := by
  cases side with
  | long =>
    have pos := fromQuantity_eq_long.mp found
    rw [abs_of_pos pos, sign, mul_one]
  | short =>
    have negative := fromQuantity_eq_short.mp found
    rw [abs_of_neg negative, sign]
    ring

theorem fromQuantity_mul_sign {size : Decimal} (pos : 0 < size) (side : PositionSide) :
    fromQuantity (size * side.sign) = some side := by
  cases side with
  | long => simpa [sign, fromQuantity_eq_long] using pos
  | short => simpa [sign, fromQuantity_eq_short] using pos

theorem sign_mul_self (side : PositionSide) : side.sign * side.sign = 1 := by
  cases side <;> norm_num [sign]

theorem sameForQuantities_iff {left right : Decimal} :
    sameForQuantities left right = true ↔ 0 < left ∧ 0 < right ∨ left < 0 ∧ right < 0 := by
  rcases lt_trichotomy left 0 with negative | rfl | pos
  · have side := fromQuantity_eq_short.mpr negative
    simp only [sameForQuantities, side, Option.isSome_some, Bool.true_and, decide_eq_true_eq]
    rw [eq_comm, fromQuantity_eq_short]
    simp [negative, not_lt.mpr negative.le]
  · simp [sameForQuantities, fromQuantity]
  · have side := fromQuantity_eq_long.mpr pos
    simp only [sameForQuantities, side, Option.isSome_some, Bool.true_and, decide_eq_true_eq]
    rw [eq_comm, fromQuantity_eq_long]
    simp [pos, not_lt.mpr pos.le]

end PositionSide

structure Lot where
  quantity : Decimal
  price : Decimal
  acquiredAt : Option DateTime := none
deriving DecidableEq

/-- Result of applying one signed fill to an ordered FIFO lot queue. -/
structure LotConsumption where
  lots : List Lot
  closedQuantity : Decimal
  realizedPnl : Decimal

namespace LotLedger

def quantity (lots : List Lot) : Decimal :=
  (lots.map Lot.quantity).sum

def averageCost (lots : List Lot) : Decimal :=
  let totalQuantity := (lots.map fun lot => |lot.quantity|).sum
  if totalQuantity = 0 then 0
  else (lots.map fun lot => |lot.quantity| * lot.price).sum / totalQuantity

/-- The running values of a reduction. -/
structure Reduction where
  remainingToClose : Decimal
  realizedPnl : Decimal := 0
  closedQuantity : Decimal := 0
  surviving : List Lot := []

def consume (price sign multiplier : Decimal) : List Lot → Reduction → Reduction
  | [], state => state
  | lot :: rest, state =>
    if state.remainingToClose ≤ 0 then
      { state with surviving := state.surviving ++ lot :: rest }
    else
      let lotAbs := |lot.quantity|
      let consumed := min lotAbs state.remainingToClose
      consume price sign multiplier rest {
        realizedPnl :=
          state.realizedPnl + consumed * (price - lot.price) * sign * multiplier
        closedQuantity := state.closedQuantity + consumed
        remainingToClose := state.remainingToClose - consumed
        surviving :=
          if consumed < lotAbs then
            state.surviving ++ [{ lot with quantity := (lotAbs - consumed) * sign }]
          else state.surviving }

def reduce (lots : List Lot) (signedQuantity price multiplier : Decimal)
    (fillTime : Option DateTime) : LotConsumption :=
  match PositionSide.fromQuantity (quantity lots) with
  | none => ⟨lots, 0, 0⟩  -- excluded by the caller
  | some side =>
    let state := consume price side.sign multiplier lots
      { remainingToClose := |signedQuantity| }
    { lots :=
        if 0 < state.remainingToClose then
          state.surviving ++ [⟨state.remainingToClose * -side.sign, price, fillTime⟩]
        else state.surviving
      closedQuantity := state.closedQuantity
      realizedPnl := state.realizedPnl }

def apply (lots : List Lot) (signedQuantity price multiplier : Decimal)
    (fillTime : Option DateTime) : LotConsumption :=
  let net := quantity lots
  if net = 0 ∨ PositionSide.sameForQuantities net signedQuantity then
    ⟨lots ++ [⟨signedQuantity, price, fillTime⟩], 0, 0⟩
  else
    reduce lots signedQuantity price multiplier fillTime

def openCost (lots : List Lot) : Decimal :=
  (lots.map fun lot => lot.quantity * lot.price).sum

/-- All lots are open on one side. -/
def OneSided (side : PositionSide) (lots : List Lot) : Prop :=
  ∀ lot ∈ lots, PositionSide.fromQuantity lot.quantity = some side

@[simp]
theorem quantity_nil : quantity [] = 0 :=
  rfl

@[simp]
theorem openCost_nil : openCost [] = 0 :=
  rfl

@[simp]
theorem quantity_cons (lot : Lot) (lots : List Lot) :
    quantity (lot :: lots) = lot.quantity + quantity lots := by
  simp [quantity]

@[simp]
theorem openCost_cons (lot : Lot) (lots : List Lot) :
    openCost (lot :: lots) = lot.quantity * lot.price + openCost lots := by
  simp [openCost]

theorem quantity_append (first second : List Lot) :
    quantity (first ++ second) = quantity first + quantity second := by
  simp [quantity]

theorem openCost_append (first second : List Lot) :
    openCost (first ++ second) = openCost first + openCost second := by
  simp [openCost]

variable {side : PositionSide} {lots : List Lot}

section

variable (oneSided : OneSided side lots)

include oneSided

theorem OneSided.quantity_eq :
    quantity lots = (lots.map fun lot => |lot.quantity|).sum * side.sign := by
  induction lots with
  | nil => simp
  | cons lot lots ih =>
    have first := PositionSide.fromQuantity_sign (oneSided lot mem_cons_self)
    have rest := ih fun other mem => oneSided other (mem_cons_of_mem _ mem)
    rw [quantity_cons, rest, map_cons, sum_cons, add_mul, ← first]

theorem OneSided.openCost_eq :
    openCost lots = (lots.map fun lot => |lot.quantity| * lot.price).sum * side.sign := by
  induction lots with
  | nil => simp
  | cons lot lots ih =>
    have first := PositionSide.fromQuantity_sign (oneSided lot mem_cons_self)
    have rest := ih fun other mem => oneSided other (mem_cons_of_mem _ mem)
    rw [openCost_cons, rest, map_cons, sum_cons, add_mul]
    nth_rewrite 1 [first]
    ring

theorem OneSided.size_pos {lot : Lot} (mem : lot ∈ lots) : 0 < |lot.quantity| := by
  rw [abs_pos]
  intro flat
  have side := oneSided lot mem
  rw [PositionSide.fromQuantity_eq_none.mpr flat] at side
  cases side

theorem OneSided.eq_nil (flat : (lots.map fun lot => |lot.quantity|).sum = 0) : lots = [] := by
  cases lots with
  | nil => rfl
  | cons lot lots =>
    have first : 0 < |lot.quantity| := oneSided.size_pos mem_cons_self
    have rest : 0 ≤ (lots.map fun lot => |lot.quantity|).sum := by
      apply sum_nonneg
      intro size mem
      obtain ⟨other, _, rfl⟩ := mem_map.mp mem
      exact abs_nonneg other.quantity
    rw [map_cons, sum_cons] at flat
    linarith

theorem OneSided.quantity_mul_averageCost : quantity lots * averageCost lots = openCost lots := by
  rw [oneSided.quantity_eq, oneSided.openCost_eq]
  simp only [averageCost]
  split
  · next flat =>
    rw [oneSided.eq_nil flat]
    simp
  · next open_ =>
    field_simp

end

/-- What the loop keeps: each unit taken off the lots is realized at its own lot's price, and
lots are dropped only when they are used up. -/
structure Consumed (price multiplier : Decimal) (side : PositionSide) (lots : List Lot)
    (before after : Reduction) : Prop where
  remaining_nonneg : 0 ≤ after.remainingToClose
  remaining_le : after.remainingToClose ≤ before.remainingToClose
  oneSided : OneSided side after.surviving
  quantity_eq : quantity after.surviving = quantity before.surviving + quantity lots -
    (before.remainingToClose - after.remainingToClose) * side.sign
  realized_eq : after.realizedPnl = before.realizedPnl +
    ((before.remainingToClose - after.remainingToClose) * side.sign * price -
      (openCost before.surviving + openCost lots - openCost after.surviving)) * multiplier
  closed_eq : after.closedQuantity =
    before.closedQuantity + (before.remainingToClose - after.remainingToClose)
  exhausted : 0 < after.remainingToClose → after.surviving = before.surviving

theorem consume_consumed (price multiplier : Decimal) (side : PositionSide) (lots : List Lot)
    (state : Reduction) (lotsSided : OneSided side lots)
    (survivingSided : OneSided side state.surviving) (nonneg : 0 ≤ state.remainingToClose) :
    Consumed price multiplier side lots state (consume price side.sign multiplier lots state) := by
  induction lots generalizing state with
  | nil =>
    exact {
      remaining_nonneg := nonneg
      remaining_le := le_rfl
      oneSided := survivingSided
      quantity_eq := by simp [consume]
      realized_eq := by simp [consume]
      closed_eq := by simp [consume]
      exhausted := fun _ => rfl }
  | cons lot rest ih =>
    have lotSided := lotsSided lot mem_cons_self
    have restSided : OneSided side rest := fun other mem =>
      lotsSided other (mem_cons_of_mem _ mem)
    have size := PositionSide.fromQuantity_sign lotSided
    by_cases done : state.remainingToClose ≤ 0
    · have zero : state.remainingToClose = 0 := le_antisymm done nonneg
      simp only [consume, done, if_true]
      exact {
        remaining_nonneg := nonneg
        remaining_le := le_rfl
        oneSided := by
          intro other mem
          rcases mem_append.mp mem with old | new
          · exact survivingSided other old
          · exact lotsSided other new
        quantity_eq := by simp [quantity_append]
        realized_eq := by simp [openCost_append]
        closed_eq := by simp
        exhausted := fun pos => absurd pos (not_lt.mpr done) }
    · have pos : 0 < state.remainingToClose := lt_of_not_ge done
      simp only [consume, done, if_false]
      by_cases whole : |lot.quantity| ≤ state.remainingToClose
      · -- the lot is used up
        simp only [min_eq_left whole, lt_irrefl, if_false]
        have step := ih {
          realizedPnl := state.realizedPnl +
            |lot.quantity| * (price - lot.price) * side.sign * multiplier
          closedQuantity := state.closedQuantity + |lot.quantity|
          remainingToClose := state.remainingToClose - |lot.quantity|
          surviving := state.surviving } restSided survivingSided (sub_nonneg.mpr whole)
        have le := step.remaining_le
        have quantity_eq := step.quantity_eq
        have realized_eq := step.realized_eq
        have closed_eq := step.closed_eq
        dsimp only at le quantity_eq realized_eq closed_eq
        exact {
          remaining_nonneg := step.remaining_nonneg
          remaining_le := le.trans (sub_le_self _ (abs_nonneg _))
          oneSided := step.oneSided
          quantity_eq := by
            rw [quantity_cons]
            linear_combination quantity_eq - size
          realized_eq := by
            rw [openCost_cons]
            linear_combination realized_eq + lot.price * multiplier * size
          closed_eq := by linear_combination closed_eq
          exhausted := step.exhausted }
      · -- the lot survives in part and nothing remains to close
        have partly : state.remainingToClose < |lot.quantity| := lt_of_not_ge whole
        simp only [min_eq_right partly.le, partly, if_true, sub_self]
        have left : 0 < |lot.quantity| - state.remainingToClose := sub_pos.mpr partly
        have leftSided : OneSided side (state.surviving ++
            [{ lot with quantity := (|lot.quantity| - state.remainingToClose) * side.sign }]) := by
          intro other mem
          rcases mem_append.mp mem with old | new
          · exact survivingSided other old
          · rw [mem_singleton.mp new]
            exact PositionSide.fromQuantity_mul_sign left side
        have step := ih {
          realizedPnl := state.realizedPnl +
            state.remainingToClose * (price - lot.price) * side.sign * multiplier
          closedQuantity := state.closedQuantity + state.remainingToClose
          remainingToClose := 0
          surviving := state.surviving ++
            [{ lot with quantity := (|lot.quantity| - state.remainingToClose) * side.sign }] }
          restSided leftSided le_rfl
        have zero := le_antisymm step.remaining_le step.remaining_nonneg
        have quantity_eq := step.quantity_eq
        have realized_eq := step.realized_eq
        have closed_eq := step.closed_eq
        simp only [zero, quantity_append, openCost_append, quantity_cons, openCost_cons,
          quantity_nil, openCost_nil, sub_self, zero_mul] at quantity_eq realized_eq closed_eq
        exact {
          remaining_nonneg := step.remaining_nonneg
          remaining_le := by rw [zero]; exact nonneg
          oneSided := step.oneSided
          quantity_eq := by
            rw [quantity_cons, zero]
            linear_combination quantity_eq - size
          realized_eq := by
            rw [openCost_cons, zero]
            linear_combination realized_eq + lot.price * multiplier * size
          closed_eq := by
            rw [zero]
            linear_combination closed_eq
          exhausted := fun remains => absurd remains (by rw [zero]; exact lt_irrefl _) }

/-- What a fill does to a one-sided queue: the quantities add up, the queue stays one-sided, and
the realized profit is the change of the open cost less the cost of the fill. -/
structure Applied (lots : List Lot) (signedQuantity price multiplier : Decimal)
    (consumption : LotConsumption) : Prop where
  oneSided : ∃ side, OneSided side consumption.lots
  quantity_eq : quantity consumption.lots = quantity lots + signedQuantity
  realized_eq : consumption.realizedPnl =
    (openCost consumption.lots - openCost lots - signedQuantity * price) * multiplier

theorem OneSided.fromQuantity_eq {side found : PositionSide} (oneSided : OneSided side lots)
    (net : PositionSide.fromQuantity (quantity lots) = some found) : found = side := by
  have nonneg : 0 ≤ (lots.map fun lot => |lot.quantity|).sum := by
    apply sum_nonneg
    intro size mem
    obtain ⟨lot, _, rfl⟩ := mem_map.mp mem
    exact abs_nonneg lot.quantity
  rw [oneSided.quantity_eq] at net
  rcases nonneg.eq_or_lt with flat | pos
  · rw [← flat, zero_mul, PositionSide.fromQuantity_eq_none.mpr rfl] at net
    cases net
  · rw [PositionSide.fromQuantity_mul_sign pos] at net
    exact (Option.some.inj net).symm

theorem opposing_fill {net signedQuantity : Decimal}
    (netSide : PositionSide.fromQuantity net = some side) (nonzero : signedQuantity ≠ 0)
    (opposes : PositionSide.sameForQuantities net signedQuantity = false) :
    signedQuantity = |signedQuantity| * -side.sign := by
  rw [← Bool.not_eq_true, PositionSide.sameForQuantities_iff, not_or, not_and, not_and] at opposes
  cases side with
  | long =>
    have pos := PositionSide.fromQuantity_eq_long.mp netSide
    have negative : signedQuantity < 0 :=
      lt_of_le_of_ne (not_lt.mp (opposes.1 pos)) nonzero
    rw [abs_of_neg negative, PositionSide.sign]
    ring
  | short =>
    have negative := PositionSide.fromQuantity_eq_short.mp netSide
    have pos : 0 < signedQuantity :=
      lt_of_le_of_ne (not_lt.mp (opposes.2 negative)) (Ne.symm nonzero)
    rw [abs_of_pos pos, PositionSide.sign]
    ring

theorem apply_applied (oneSided : OneSided side lots) {signedQuantity : Decimal}
    (nonzero : signedQuantity ≠ 0) (price multiplier : Decimal) (fillTime : Option DateTime) :
    Applied lots signedQuantity price multiplier
      (apply lots signedQuantity price multiplier fillTime) := by
  simp only [apply]
  split
  · next opens =>
    refine ⟨?_, by simp [quantity_append], by simp [openCost_append]⟩
    rcases opens with flat | same
    · have none : lots = [] := by
        apply oneSided.eq_nil
        have scaled := oneSided.quantity_eq
        rw [flat] at scaled
        have unsigned := congrArg (· * side.sign) scaled
        simpa [mul_assoc, side.sign_mul_self] using unsigned.symm
      cases found : PositionSide.fromQuantity signedQuantity with
      | none => exact absurd (PositionSide.fromQuantity_eq_none.mp found) nonzero
      | some newSide =>
        refine ⟨newSide, ?_⟩
        intro lot mem
        rw [none, nil_append, mem_singleton] at mem
        rw [mem]
        exact found
    · simp only [PositionSide.sameForQuantities, Bool.and_eq_true, decide_eq_true_eq] at same
      obtain ⟨nonflat, equal⟩ := same
      obtain ⟨netSide, net⟩ := Option.isSome_iff_exists.mp nonflat
      cases oneSided.fromQuantity_eq net
      refine ⟨side, ?_⟩
      intro lot mem
      rcases mem_append.mp mem with old | new
      · exact oneSided lot old
      · rw [mem_singleton.mp new]
        exact equal.symm.trans net
  · next reduces =>
    rw [not_or, Bool.not_eq_true] at reduces
    obtain ⟨nonflat, opposes⟩ := reduces
    cases net : PositionSide.fromQuantity (quantity lots) with
    | none => exact absurd (PositionSide.fromQuantity_eq_none.mp net) nonflat
    | some netSide =>
      cases oneSided.fromQuantity_eq net
      have against := opposing_fill net nonzero opposes
      have empty : OneSided side [] := nofun
      have consumed := consume_consumed price multiplier side lots
        { remainingToClose := |signedQuantity| } oneSided empty (abs_nonneg _)
      simp only [reduce, net]
      generalize consume price side.sign multiplier lots
        { remainingToClose := |signedQuantity| } = after at consumed ⊢
      have quantity_eq := consumed.quantity_eq
      have realized_eq := consumed.realized_eq
      simp only [quantity_nil, openCost_nil] at quantity_eq realized_eq
      by_cases flips : 0 < after.remainingToClose
      · simp only [flips, if_true]
        refine ⟨?_, ?_, ?_⟩
        · have used : after.surviving = [] := consumed.exhausted flips
          cases side with
          | long =>
            refine ⟨.short, ?_⟩
            intro lot mem
            rw [used, nil_append, mem_singleton] at mem
            rw [mem]
            exact PositionSide.fromQuantity_mul_sign flips .short
          | short =>
            refine ⟨.long, ?_⟩
            intro lot mem
            rw [used, nil_append, mem_singleton] at mem
            rw [mem]
            simpa [PositionSide.sign] using PositionSide.fromQuantity_mul_sign flips .long
        · rw [quantity_append, quantity_cons, quantity_nil]
          linear_combination quantity_eq - against
        · rw [openCost_append, openCost_cons, openCost_nil]
          linear_combination realized_eq + price * multiplier * against
      · simp only [flips, if_false]
        have closed : after.remainingToClose = 0 :=
          le_antisymm (not_lt.mp flips) consumed.remaining_nonneg
        rw [closed] at quantity_eq realized_eq
        refine ⟨⟨side, consumed.oneSided⟩, ?_, ?_⟩
        · linear_combination quantity_eq - against
        · linear_combination realized_eq + price * multiplier * against

end LotLedger

end Qts
