import Qts.LotQueues
import Qts.RoundedArithmetic

/-!
# Holdings in rounded arithmetic

The books of an account compute with decimals that keep 28 digits.  The transitions of a holding
are written here with every result rounded.  A fill whose quantities and lot costs need no more
digits leaves the lots, the quantity and the close events of exact arithmetic, whatever becomes of
the profits; where a sum of quantities is rounded, the average-cost and the FIFO book may part.
-/

namespace Qts

open StepRuns PositionSide DecimalRounding

namespace LotLedger

def roundedQuantity (lots : List Lot) : Decimal :=
  DecimalRounding.sum (lots.map Lot.quantity)

def roundedAverageCost (lots : List Lot) : Decimal :=
  let totalQuantity := DecimalRounding.sum (lots.map fun lot => roundDecimal |lot.quantity|)
  if totalQuantity = 0 then 0
  else
    let weighted := DecimalRounding.sum
      (lots.map fun lot => roundDecimal (roundDecimal |lot.quantity| * lot.price))
    roundDecimal (weighted / totalQuantity)

/-- The profit of a quantity, each result rounded. -/
def roundedProfit (quantity price cost sign multiplier : Decimal) : Decimal :=
  roundDecimal (roundDecimal (roundDecimal (quantity * roundDecimal (price - cost)) * sign) *
    multiplier)

def roundedConsume (price sign multiplier : Decimal) : List Lot → Reduction → Reduction
  | [], state => state
  | lot :: rest, state =>
    if state.remainingToClose ≤ 0 then
      { state with surviving := state.surviving ++ lot :: rest }
    else
      let lotAbs := roundDecimal |lot.quantity|
      let consumed := min lotAbs state.remainingToClose
      roundedConsume price sign multiplier rest {
        realizedPnl := roundDecimal
          (state.realizedPnl + roundedProfit consumed price lot.price sign multiplier)
        closedQuantity := roundDecimal (state.closedQuantity + consumed)
        remainingToClose := roundDecimal (state.remainingToClose - consumed)
        surviving :=
          if consumed < lotAbs then
            state.surviving ++
              [{ lot with quantity := roundDecimal (roundDecimal (lotAbs - consumed) * sign) }]
          else state.surviving }

def roundedReduce (lots : List Lot) (signedQuantity price multiplier : Decimal)
    (fillTime : Option DateTime) : LotConsumption :=
  match fromQuantity (roundedQuantity lots) with
  | none => ⟨lots, 0, 0⟩  -- excluded by the caller
  | some side =>
    let state := roundedConsume price side.sign multiplier lots
      { remainingToClose := roundDecimal |signedQuantity| }
    { lots :=
        if 0 < state.remainingToClose then
          state.surviving ++
            [⟨roundDecimal (state.remainingToClose * -side.sign), price, fillTime⟩]
        else state.surviving
      closedQuantity := state.closedQuantity
      realizedPnl := state.realizedPnl }

def roundedApply (lots : List Lot) (signedQuantity price multiplier : Decimal)
    (fillTime : Option DateTime) : LotConsumption :=
  let net := roundedQuantity lots
  if net = 0 ∨ sameForQuantities net signedQuantity then
    ⟨lots ++ [⟨signedQuantity, price, fillTime⟩], 0, 0⟩
  else
    roundedReduce lots signedQuantity price multiplier fillTime

/-- What is left to close, what is closed and what survives of a lot needs no rounding. -/
def ConsumesExactly (sign : Decimal) : List Lot → Decimal → Decimal → Prop
  | [], _, _ => True
  | lot :: rest, remaining, closed =>
    let consumed := min |lot.quantity| remaining
    Exact |lot.quantity| ∧ Exact (closed + consumed) ∧ Exact (remaining - consumed) ∧
      Exact (|lot.quantity| - consumed) ∧ Exact ((|lot.quantity| - consumed) * sign) ∧
      ConsumesExactly sign rest (remaining - consumed) (closed + consumed)

/-- The sizes of the lots, their costs, the sums and the average cost need no rounding. -/
structure CostsExactly (lots : List Lot) : Prop where
  sizes : ∀ lot ∈ lots, Exact |lot.quantity|
  costs : ∀ lot ∈ lots, Exact (|lot.quantity| * lot.price)
  total : SumsExactly (lots.map fun lot => |lot.quantity|)
  weighted : SumsExactly (lots.map fun lot => |lot.quantity| * lot.price)
  average : Exact (averageCost lots)

structure AppliesExactly (lots : List Lot) (signedQuantity price multiplier : Decimal)
    (fillTime : Option DateTime) : Prop where
  net : SumsExactly (lots.map Lot.quantity)
  signed : Exact |signedQuantity|
  consumes : ∀ side ∈ fromQuantity (quantity lots),
    ConsumesExactly side.sign lots |signedQuantity| 0 ∧
      Exact ((consume price side.sign multiplier lots
        { remainingToClose := |signedQuantity| }).remainingToClose * -side.sign)
  left : SumsExactly
    ((apply lots signedQuantity price multiplier fillTime).lots.map Lot.quantity)
  costs : CostsExactly (apply lots signedQuantity price multiplier fillTime).lots

instance ConsumesExactly.decidable (sign : Decimal) :
    ∀ (lots : List Lot) (remaining closed : Decimal),
      Decidable (ConsumesExactly sign lots remaining closed)
  | [], _, _ => isTrue trivial
  | lot :: rest, remaining, closed =>
    let consumed := min |lot.quantity| remaining
    have := ConsumesExactly.decidable sign rest (remaining - consumed) (closed + consumed)
    inferInstanceAs (Decidable (_ ∧ _ ∧ _ ∧ _ ∧ _ ∧ _))

instance (lots : List Lot) : Decidable (CostsExactly lots) :=
  decidable_of_iff (_ ∧ _ ∧ _ ∧ _ ∧ _)
    ⟨fun ⟨sizes, costs, total, weighted, average⟩ => ⟨sizes, costs, total, weighted, average⟩,
      fun ⟨sizes, costs, total, weighted, average⟩ => ⟨sizes, costs, total, weighted, average⟩⟩

instance (lots : List Lot) (signedQuantity price multiplier : Decimal)
    (fillTime : Option DateTime) :
    Decidable (AppliesExactly lots signedQuantity price multiplier fillTime) :=
  decidable_of_iff (_ ∧ _ ∧ _ ∧ _ ∧ _)
    ⟨fun ⟨net, signed, consumes, left, costs⟩ => ⟨net, signed, consumes, left, costs⟩,
      fun ⟨net, signed, consumes, left, costs⟩ => ⟨net, signed, consumes, left, costs⟩⟩

section Exactness

variable {lots : List Lot} {signedQuantity price multiplier : Decimal}
  {fillTime : Option DateTime}

theorem roundedAverageCost_eq (exact_ : CostsExactly lots) :
    roundedAverageCost lots = averageCost lots := by
  have sizes : (lots.map fun lot => roundDecimal |lot.quantity|) =
      lots.map fun lot => |lot.quantity| := List.map_congr_left exact_.sizes
  have costs : (lots.map fun lot => roundDecimal (roundDecimal |lot.quantity| * lot.price)) =
      lots.map fun lot => |lot.quantity| * lot.price := by
    refine List.map_congr_left fun lot mem => ?_
    rw [exact_.sizes lot mem, exact_.costs lot mem]
  have average := exact_.average
  rw [averageCost] at average
  rw [roundedAverageCost, averageCost, sizes, costs, sum_eq exact_.total, sum_eq exact_.weighted]
  dsimp only at average ⊢
  split at average
  · next none => rw [if_pos none, if_pos none]
  · next some => rw [if_neg some, if_neg some, average]

/-- Lots are used up as in exact arithmetic, at a profit of its own. -/
theorem roundedConsume_eq (price sign multiplier : Decimal) (state : Reduction)
    (exact_ : ConsumesExactly sign lots state.remainingToClose state.closedQuantity)
    (profit : Decimal) :
    ∃ realizedPnl, roundedConsume price sign multiplier lots { state with realizedPnl := profit } =
      { consume price sign multiplier lots state with realizedPnl } := by
  induction lots generalizing state profit with
  | nil => exact ⟨profit, rfl⟩
  | cons lot rest ih =>
    obtain ⟨size, closed, remaining, left, signed, later⟩ := exact_
    rw [roundedConsume, consume]
    by_cases done : state.remainingToClose ≤ 0
    · rw [if_pos done, if_pos done]
      exact ⟨profit, rfl⟩
    · rw [if_neg done, if_neg done]
      dsimp only
      rw [size, closed, remaining, left, signed]
      exact ih ⟨_, _, _, _⟩ later _

theorem roundedApply_eq
    (exact_ : AppliesExactly lots signedQuantity price multiplier fillTime) :
    ∃ realizedPnl, roundedApply lots signedQuantity price multiplier fillTime =
      { apply lots signedQuantity price multiplier fillTime with realizedPnl } := by
  have net : roundedQuantity lots = quantity lots := sum_eq exact_.net
  rw [roundedApply, apply, net]
  dsimp only
  split
  · exact ⟨0, rfl⟩
  · rw [roundedReduce, reduce, net]
    cases found : fromQuantity (quantity lots) with
    | none => exact ⟨0, rfl⟩
    | some side =>
      obtain ⟨consumes, residual⟩ := exact_.consumes side found
      obtain ⟨realizedPnl, same⟩ := roundedConsume_eq price side.sign multiplier
        { remainingToClose := |signedQuantity| } consumes 0
      dsimp only
      rw [exact_.signed, same, residual]
      exact ⟨realizedPnl, rfl⟩

end Exactness

end LotLedger

namespace HoldingBook

open LotLedger

def roundedIncrease (current : Holding) (signedQuantity price : Decimal)
    (fillTime : Option DateTime) : Holding :=
  let oldAbs := roundDecimal |current.quantity|
  let newQuantity := roundDecimal (current.quantity + signedQuantity)
  { increase current signedQuantity price fillTime with
    quantity := newQuantity
    averageCost :=
      if oldAbs = 0 then price
      else roundDecimal (roundDecimal (roundDecimal (oldAbs * current.averageCost) +
        roundDecimal (roundDecimal |signedQuantity| * price)) / roundDecimal |newQuantity|) }

def roundedReduceOrFlip (current : Holding) (signedQuantity price multiplier : Decimal)
    (fillTime : Option DateTime) : List PositionClosed × Holding :=
  let closeQuantity := min (roundDecimal |current.quantity|) (roundDecimal |signedQuantity|)
  let sign : Decimal := if 0 < current.quantity then 1 else -1
  let closeRealized := roundedProfit closeQuantity price current.averageCost sign multiplier
  let realizedPnl := roundDecimal (current.realizedPnl + closeRealized)
  let newQuantity := roundDecimal (current.quantity + signedQuantity)
  if newQuantity = 0 then
    ([{ instrumentId := current.instrumentId
        closedQuantity := closeQuantity
        exitPrice := price
        realizedPnl := closeRealized
        openedAt := current.openedAt
        closedAt := closeTime fillTime }],
     { current with
       quantity := 0, realizedPnl, openedAt := none, lastFillAt := fillTime })
  else if sameForQuantities current.quantity newQuantity then
    ([], { current with
      quantity := newQuantity, realizedPnl, lastFillAt := fillTime })
  else
    ([{ instrumentId := current.instrumentId
        closedQuantity := roundDecimal |current.quantity|
        exitPrice := price
        realizedPnl := closeRealized
        openedAt := current.openedAt
        closedAt := closeTime fillTime }],
     { instrumentId := current.instrumentId
       quantity := newQuantity
       averageCost := price
       realizedPnl
       costBasisMethod := current.costBasisMethod
       openedAt := fillTime
       lastFillAt := fillTime })

def roundedFillFifo (current : Holding) (signedQuantity price multiplier : Decimal)
    (fillTime : Option DateTime) : List PositionClosed × Holding :=
  let consumption := roundedApply current.lots signedQuantity price multiplier fillTime
  let newQuantity := roundedQuantity consumption.lots
  let flipped := decide (current.quantity ≠ 0) && decide (newQuantity ≠ 0) &&
    !sameForQuantities current.quantity newQuantity
  let next : Holding := {
    instrumentId := current.instrumentId
    quantity := newQuantity
    averageCost := roundedAverageCost consumption.lots
    realizedPnl := roundDecimal (current.realizedPnl + consumption.realizedPnl)
    costBasisMethod := .fifo
    openedAt := fifoOpenedAt current newQuantity flipped fillTime
    lastFillAt := fillTime
    lots := consumption.lots }
  if newQuantity = 0 ∨ flipped then
    ([{ instrumentId := current.instrumentId
        closedQuantity := consumption.closedQuantity
        exitPrice := price
        realizedPnl := consumption.realizedPnl
        openedAt := current.openedAt
        closedAt := closeTime fillTime }], next)
  else
    ([], next)

/-- What a fill makes of the row of its instrument, and the events it reports. -/
def roundedFill (current : Holding) (fill : HoldingFill) : List PositionClosed × Holding :=
  let fillTime := fill.fillTime <|> current.lastFillAt
  match current.costBasisMethod with
  | .fifo => roundedFillFifo current fill.signedQuantity fill.price fill.multiplier fillTime
  | .average =>
    if current.quantity = 0 ∨ sameForQuantities current.quantity fill.signedQuantity then
      ([], roundedIncrease current fill.signedQuantity fill.price fillTime)
    else
      roundedReduceOrFlip current fill.signedQuantity fill.price fill.multiplier fillTime

def roundedStep : Step HoldingBook HoldingFill (Except String (List PositionClosed)) :=
  fun book fill =>
    match Check.firstFailure fill.checks with
    | some msg => (.error msg, book)
    | none =>
      let filled := roundedFill (book.holding fill.instrumentId) fill
      (.ok filled.1, book.store fill.instrumentId filled.2)

/-- The quantities of a fill and of the row it meets need no rounding, and in a FIFO row neither
do the lots and their average cost. -/
structure FillsExactly (current : Holding) (fill : HoldingFill) : Prop where
  held : Exact |current.quantity|
  signed : Exact |fill.signedQuantity|
  quantity : Exact (current.quantity + fill.signedQuantity)
  lots : current.costBasisMethod = .fifo → AppliesExactly current.lots fill.signedQuantity
    fill.price fill.multiplier (fill.fillTime <|> current.lastFillAt)

/-- A row in rounded arithmetic that is the row of exact arithmetic but for its profit, and in an
average-cost row for its cost. -/
structure Rounds (rounded current : Holding) : Prop where
  same : rounded = { current with
    realizedPnl := rounded.realizedPnl, averageCost := rounded.averageCost }
  cost : current.costBasisMethod = .fifo → rounded.averageCost = current.averageCost

variable {current rounded : Holding} {fill : HoldingFill}

theorem Rounds.filledFifo (profit cost : Decimal)
    {signedQuantity price multiplier : Decimal} {fillTime : Option DateTime}
    (exact_ : AppliesExactly current.lots signedQuantity price multiplier fillTime) :
    let rounded := roundedFillFifo
      { current with realizedPnl := profit, averageCost := cost } signedQuantity price multiplier
      fillTime
    let filled := applyFillFifo current signedQuantity price multiplier fillTime
    rounded.1.map closing = filled.1.map closing ∧ Rounds rounded.2 filled.2 := by
  obtain ⟨realizedPnl, applied⟩ := roundedApply_eq exact_
  have left : roundedQuantity (apply current.lots signedQuantity price multiplier fillTime).lots =
      quantity (apply current.lots signedQuantity price multiplier fillTime).lots :=
    sum_eq exact_.left
  intro rounded filled
  simp only [rounded, filled, roundedFillFifo, applyFillFifo, applied, left,
    roundedAverageCost_eq exact_.costs]
  split
  · exact ⟨rfl, rfl, fun _ => rfl⟩
  · exact ⟨rfl, rfl, fun _ => rfl⟩

/-- A fill that needs no rounding moves both rows alike and reports the same closes. -/
theorem Rounds.filled (rounds : Rounds rounded current) (exact_ : FillsExactly rounded fill) :
    (roundedFill rounded fill).1.map closing = (fillHolding current fill).1.map closing ∧
      Rounds (roundedFill rounded fill).2 (fillHolding current fill).2 := by
  obtain ⟨same, -⟩ := rounds
  generalize rounded.realizedPnl = profit at same
  generalize rounded.averageCost = cost at same
  subst same
  obtain ⟨held, signed, quantity, lots⟩ := exact_
  dsimp only at held quantity lots
  unfold roundedFill fillHolding
  cases method : current.costBasisMethod with
  | fifo =>
    simp only
    exact Rounds.filledFifo profit cost (lots method)
  | average =>
    have kept : ∀ {next : Holding}, next.costBasisMethod = .average →
        next.costBasisMethod = .fifo → False := by
      intro next average fifo
      rw [average] at fifo
      cases fifo
    simp only
    split
    · refine ⟨rfl, ?_, fun fifo => (kept method fifo).elim⟩
      simp only [roundedIncrease, increase]
      rw [quantity, method]
    · simp only [roundedReduceOrFlip, reduceOrFlip]
      rw [quantity, held, signed]
      split
      · exact ⟨rfl, by rw [method], fun fifo => (kept method fifo).elim⟩
      · split
        · exact ⟨rfl, by rw [method], fun fifo => (kept method fifo).elim⟩
        · exact ⟨rfl, by rw [method], fun fifo => (kept method fifo).elim⟩

theorem Rounds.queueStep {roundedAfter after : Holding} (before : Rounds rounded current)
    (later : Rounds roundedAfter after) (fifo : after.costBasisMethod = .fifo)
    (queues : QueueStep current fill after) : QueueStep rounded fill roundedAfter := by
  obtain ⟨same, -⟩ := before
  obtain ⟨sameAfter, cost⟩ := later
  have average := cost fifo
  generalize rounded.realizedPnl = profit, rounded.averageCost = paid at same
  generalize roundedAfter.realizedPnl = earned at sameAfter
  rw [average] at sameAfter
  subst same sameAfter
  exact ⟨⟨queues.queued.oneSided, queues.queued.quantity_eq, queues.queued.averageCost_eq⟩,
    queues.opens, queues.reduces, queues.flips⟩

variable {book roundedBook : HoldingBook}

theorem Rounds.step (valid : Valid fill) (holds : Holds fill.instrumentId book)
    (rounds : Rounds (roundedBook.holding fill.instrumentId) (book.holding fill.instrumentId))
    (exact_ : FillsExactly (roundedBook.holding fill.instrumentId) fill) :
    SameClosings (roundedStep roundedBook fill).1 (step book fill).1 ∧
      Rounds ((roundedStep roundedBook fill).2.holding fill.instrumentId)
        ((step book fill).2.holding fill.instrumentId) := by
  obtain ⟨same, next⟩ := rounds.filled exact_
  obtain ⟨stepped, held⟩ := step_holding valid holds
  rw [held, stepped, roundedStep, (checks_pass_iff fill).mpr valid]
  dsimp only
  rw [holding_store, if_pos rfl]
  exact ⟨⟨_, _, rfl, rfl, same⟩, next⟩

theorem SameClosings.join {rounded exact_ other otherRounded : Except String (List PositionClosed)}
    (first : SameClosings rounded exact_) (same : SameClosings exact_ other)
    (last : SameClosings otherRounded other) : SameClosings rounded otherRounded := by
  obtain ⟨events, middle, rfl, answered, closed⟩ := first
  obtain ⟨_, _, again, reported, alike⟩ := same
  obtain ⟨otherEvents, _, rfl, told, otherClosed⟩ := last
  obtain rfl := ok_unique answered again
  obtain rfl := ok_unique reported told
  exact ⟨events, otherEvents, rfl, rfl, closed.trans (alike.trans otherClosed.symm)⟩

variable {instrumentId : InstrumentId} {fills : List HoldingFill}
  {averageBook fifoBook roundedAverage roundedFifo : HoldingBook}

/-- Books in rounded arithmetic beside the books of exact arithmetic. -/
theorem Paired.roundedRun (paired : Paired instrumentId averageBook fifoBook)
    (fillsOf : ∀ fill ∈ fills, TimedFillOf instrumentId fill)
    (average : Rounds (roundedAverage.holding instrumentId) (averageBook.holding instrumentId))
    (fifo : Rounds (roundedFifo.holding instrumentId) (fifoBook.holding instrumentId))
    (averageExact : EveryStep roundedStep
      (fun book fill => FillsExactly (book.holding instrumentId) fill) roundedAverage fills)
    (fifoExact : EveryStep roundedStep
      (fun book fill => FillsExactly (book.holding instrumentId) fill) roundedFifo fills) :
    EveryStep roundedStep (fun book fill => QueueStep (book.holding instrumentId) fill
        ((roundedStep book fill).2.holding instrumentId)) roundedFifo fills ∧
      List.Forall₂ SameClosings (responses roundedStep roundedAverage fills)
        (responses roundedStep roundedFifo fills) := by
  induction fills generalizing averageBook fifoBook roundedAverage roundedFifo with
  | nil => exact ⟨trivial, .nil⟩
  | cons fill fills ih =>
    have fillOf := fillsOf fill List.mem_cons_self
    obtain ⟨same, next⟩ := paired.step fillOf
    obtain ⟨valid, rfl, timed⟩ := fillOf
    obtain ⟨averageSame, averageNext⟩ := average.step valid paired.averageHolds averageExact.1
    obtain ⟨fifoSame, fifoNext⟩ := fifo.step valid paired.fifoHolds fifoExact.1
    have queues := fifo_queueStep paired.fifoMethod paired.fifoHolds.sound valid.nonzero timed
    rw [← (step_holding valid paired.fifoHolds).2] at queues
    obtain ⟨queued, closed⟩ := ih next (fun other mem => fillsOf other (List.mem_cons_of_mem _ mem))
      averageNext fifoNext averageExact.2 fifoExact.2
    exact ⟨⟨fifo.queueStep fifoNext next.fifoMethod queues, queued⟩,
      .cons (averageSame.join same fifoSame) closed⟩

/-- In every run of fills that need no rounding the lots stay on one side with the quantity and
the average cost of the holding, a reducing fill leaves the end of the queue, and the average-cost
and the FIFO book report the same closes at the same fills. -/
theorem rounded_lots_and_closings (fillsOf : ∀ fill ∈ fills, TimedFillOf instrumentId fill)
    (averageFlat : FlatIn instrumentId .average averageBook)
    (fifoFlat : FlatIn instrumentId .fifo fifoBook)
    (averageExact : EveryStep roundedStep
      (fun book fill => FillsExactly (book.holding instrumentId) fill) averageBook fills)
    (fifoExact : EveryStep roundedStep
      (fun book fill => FillsExactly (book.holding instrumentId) fill) fifoBook fills) :
    EveryStep roundedStep (fun book fill => QueueStep (book.holding instrumentId) fill
        ((roundedStep book fill).2.holding instrumentId)) fifoBook fills ∧
      List.Forall₂ SameClosings (responses roundedStep averageBook fills)
        (responses roundedStep fifoBook fills) :=
  (Paired.flat averageFlat fifoFlat).roundedRun fillsOf ⟨rfl, fun _ => rfl⟩ ⟨rfl, fun _ => rfl⟩
    averageExact fifoExact

instance : Decidable (FillsExactly current fill) :=
  decidable_of_iff (_ ∧ _ ∧ _ ∧ _)
    ⟨fun ⟨held, signed, quantity, lots⟩ => ⟨held, signed, quantity, lots⟩,
      fun exact_ => ⟨exact_.held, exact_.signed, exact_.quantity, exact_.lots⟩⟩

def timedTrip : List HoldingFill :=
  roundTrip.zipIdx.map fun fill => { fill.1 with fillTime := some (1000000 * fill.2) }

theorem timedTrip_fillsOf : ∀ fill ∈ timedTrip, TimedFillOf unitInstrument fill := by
  intro fill mem
  simp only [timedTrip, roundTrip, List.zipIdx_cons, List.zipIdx_nil, List.map_cons,
    List.map_nil, List.mem_cons, List.not_mem_nil, or_false] at mem
  rcases mem with rfl | rfl | rfl | rfl | rfl <;>
    exact ⟨⟨by norm_num [unitFill], by norm_num [unitFill], one_pos⟩, rfl, rfl⟩

/-- The round trip closes when it is sold through zero and when it is bought back. -/
theorem rounded_lots_and_closings_timedTrip :
    let fifoBook : HoldingBook := { holdings := .empty, costBasisMethod := .fifo }
    EveryStep roundedStep (fun book fill => QueueStep (book.holding unitInstrument) fill
        ((roundedStep book fill).2.holding unitInstrument)) fifoBook timedTrip ∧
      List.Forall₂ SameClosings (responses roundedStep { holdings := .empty } timedTrip)
        (responses roundedStep fifoBook timedTrip) :=
  rounded_lots_and_closings timedTrip_fillsOf
    (@FlatIn.fresh { holdings := .empty } unitInstrument rfl)
    (@FlatIn.fresh { holdings := .empty, costBasisMethod := .fifo } unitInstrument rfl)
    (by decide +kernel) (by decide +kernel)

/-- A third of a thousand and a third of a hundred, cut to 28 digits, and their rounded sum
sold. -/
def thirds : List HoldingFill :=
  [{ unitFill (3333333333333333333333333333 / 10 ^ 25) 3 with fillTime := some 0 },
   { unitFill (3333333333333333333333333333 / 10 ^ 26) 30 with fillTime := some 1 },
   { unitFill (-3666666666666666666666666666 / 10 ^ 25) 4 with fillTime := some 2 }]

theorem thirds_fillsOf : ∀ fill ∈ thirds, TimedFillOf unitInstrument fill := by
  intro fill mem
  simp only [thirds, List.mem_cons, List.not_mem_nil, or_false] at mem
  rcases mem with rfl | rfl | rfl <;>
    exact ⟨⟨by norm_num [unitFill], by norm_num [unitFill], one_pos⟩, rfl, rfl⟩

def closeCount : Except String (List PositionClosed) → Nat
  | .ok events => events.length
  | .error _ => 0

theorem closeCounts {answers others : List (Except String (List PositionClosed))}
    (same : List.Forall₂ SameClosings answers others) :
    answers.map closeCount = others.map closeCount := by
  induction same with
  | nil => rfl
  | cons alike _ ih =>
    obtain ⟨events, others, rfl, rfl, closings⟩ := alike
    have lengths := congrArg List.length closings
    rw [List.length_map, List.length_map] at lengths
    rw [List.map_cons, List.map_cons, ih, closeCount, closeCount, lengths]

/-- The average-cost book is flat and reports a close; the FIFO book keeps a lot. -/
theorem rounded_lot_survives :
    (∀ fill ∈ thirds, TimedFillOf unitInstrument fill) ∧
      let fifoBook : HoldingBook := { holdings := .empty, costBasisMethod := .fifo }
      ((final roundedStep { holdings := .empty } thirds).holding unitInstrument).quantity = 0 ∧
      ((final roundedStep fifoBook thirds).holding unitInstrument).quantity = 3 / 10 ^ 26 ∧
      ¬ List.Forall₂ SameClosings (responses roundedStep { holdings := .empty } thirds)
        (responses roundedStep fifoBook thirds) := by
  refine ⟨thirds_fillsOf, by decide +kernel, by decide +kernel, fun same => ?_⟩
  have counts : (responses roundedStep { holdings := .empty } thirds).map closeCount ≠
      (responses roundedStep { holdings := .empty, costBasisMethod := .fifo } thirds).map
        closeCount := by
    decide +kernel
  exact counts (closeCounts same)

end HoldingBook

end Qts
