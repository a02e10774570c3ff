import Qts.AccountRecovery
import Qts.FillSlicing
import Qts.OrderPlanning

/-! # Report statistics of sliced fills -/

namespace Qts

open List StatisticsBuilder

structure ReportedFill where
  orderId : OrderId
  fill : HoldingFill
  commission : Decimal
  slippage : Decimal
  valid : HoldingBook.Valid fill

/-- What a report run takes: the fills of an intent that was processed on a bar, or an equity
point. -/
inductive ReportEvent (Account : Type)
  | processed (account : Account) (bar : Bar) (fills : List ReportedFill)
  | equityPoint (equity : Decimal)

structure BacktestReport (Account : Type) where
  books : Account → HoldingBook
  statistics : StatisticsBuilder

namespace BacktestReport

def ledgerRow (bar : Bar) (reported : ReportedFill) : TradeLedgerEntry where
  orderId := reported.orderId
  instrumentId := reported.fill.instrumentId
  side := if 0 < reported.fill.signedQuantity then .buy else .sell
  quantity := |reported.fill.signedQuantity|
  fillPrice := reported.fill.price
  commission := reported.commission
  slippage := reported.slippage
  fillTime := bar.endTime
  sourceBarTime := bar.startTime

def bookAll (book : HoldingBook) :
    List ReportedFill → Except String (List PositionClosed × HoldingBook)
  | [] => .ok ([], book)
  | reported :: fills => do
    let (closed, next) ← book.applyFill reported.fill
    let (later, last) ← bookAll next fills
    return (closed ++ later, last)

variable {Account : Type} [DecidableEq Account]

def writeProcessed (report : BacktestReport Account) (account : Account) (bar : Bar)
    (fills : List ReportedFill) : Except String (BacktestReport Account) := do
  let (closed, book) ← bookAll (report.books account) fills
  let filled := (fills.map (ledgerRow bar)).foldl onFill report.statistics
  return {
    books := Function.update report.books account book
    statistics := closed.foldl BacktestArtifactWriter.writePositionClosed filled }

def step (report : BacktestReport Account) : ReportEvent Account →
    Except String (BacktestReport Account)
  | .processed account bar fills => report.writeProcessed account bar fills
  | .equityPoint equity => do
    return { report with statistics := ← report.statistics.onEquityPoint equity }

def init : BacktestReport Account where
  books _ := { holdings := .empty }
  statistics := {}

def statisticsOf (events : List (ReportEvent Account)) (tradingBars : Int) :
    Except String StatisticsPayload := do
  let report ← events.foldlM step init
  report.statistics.finalize tradingBars

/-- Both fail alike, or both return related values. -/
def Matched {Value : Type} (related : Value → Value → Prop) :
    Except String Value → Except String Value → Prop
  | .ok value, .ok other => related value other
  | .error failure, .error other => failure = other
  | _, _ => False

theorem Matched.bind {Value Next : Type} {related : Value → Value → Prop}
    {relatedNext : Next → Next → Prop} {outcome other : Except String Value}
    (matched : Matched related outcome other) {next nextOther : Value → Except String Next}
    (then_ : ∀ value otherValue, related value otherValue →
      Matched relatedNext (next value) (nextOther otherValue)) :
    Matched relatedNext (outcome >>= next) (other >>= nextOther) := by
  cases outcome with
  | error failure =>
    cases other with
    | error _ => exact matched
    | ok _ => exact matched.elim
  | ok value =>
    cases other with
    | error _ => exact matched.elim
    | ok otherValue => exact then_ value otherValue matched

theorem Matched.map {Value Next : Type} {related : Value → Value → Prop}
    {relatedNext : Next → Next → Prop} {outcome other : Except String Value}
    (matched : Matched related outcome other) {change changeOther : Value → Next}
    (then_ : ∀ value otherValue, related value otherValue →
      relatedNext (change value) (changeOther otherValue)) :
    Matched relatedNext (outcome.map change) (other.map changeOther) := by
  cases outcome with
  | error failure =>
    cases other with
    | error _ => exact matched
    | ok _ => exact matched.elim
  | ok value =>
    cases other with
    | error _ => exact matched.elim
    | ok otherValue => exact then_ value otherValue matched

theorem Matched.mono {Value : Type} {related other : Value → Value → Prop}
    {outcome otherOutcome : Except String Value} (matched : Matched related outcome otherOutcome)
    (weaker : ∀ value otherValue, related value otherValue → other value otherValue) :
    Matched other outcome otherOutcome := by
  cases outcome with
  | error failure =>
    cases otherOutcome with
    | error _ => exact matched
    | ok _ => exact matched.elim
  | ok value =>
    cases otherOutcome with
    | error _ => exact matched.elim
    | ok otherValue => exact weaker value otherValue matched

/-- Two profits of one sign. -/
structure SameSign (pnl other : Decimal) : Prop where
  wins : 0 < pnl ↔ 0 < other
  loses : pnl < 0 ↔ other < 0

/-- The second builder differs in the profits' sizes and has counted a number of orders more. -/
structure AlikeUpTo (extra : Nat) (builder other : StatisticsBuilder) : Prop where
  rest : other = { builder with
    closedPnls := other.closedPnls
    totalOrders := builder.totalOrders + extra }
  pnls : Forall₂ SameSign builder.closedPnls other.closedPnls

section Alike

variable {extra : Nat} {builder other : StatisticsBuilder}

section

variable (alike : AlikeUpTo extra builder other)

include alike

theorem AlikeUpTo.onFill (row : TradeLedgerEntry) :
    AlikeUpTo extra (builder.onFill row) (other.onFill row) := by
  obtain ⟨rest, pnls⟩ := alike
  refine ⟨?_, pnls⟩
  rw [rest]
  simp only [StatisticsBuilder.onFill, Nat.add_right_comm]

theorem AlikeUpTo.writePositionClosed {closed event : PositionClosed}
    (same : HoldingBook.SameClose closed event) :
    AlikeUpTo extra (BacktestArtifactWriter.writePositionClosed builder closed)
      (BacktestArtifactWriter.writePositionClosed other event) := by
  obtain ⟨rest, pnls⟩ := alike
  refine ⟨?_, rel_append pnls (.cons ⟨same.wins, same.loses⟩ .nil)⟩
  rw [rest]
  simp only [BacktestArtifactWriter.writePositionClosed, StatisticsBuilder.onPositionClose,
    same.instrumentId, same.openedAt, same.closedAt]

theorem AlikeUpTo.onFills (rows : List TradeLedgerEntry) :
    AlikeUpTo extra (rows.foldl StatisticsBuilder.onFill builder)
      (rows.foldl StatisticsBuilder.onFill other) := by
  induction rows generalizing builder other with
  | nil => exact alike
  | cons row rows ih => exact ih (alike.onFill row)

theorem AlikeUpTo.writePositionsClosed {closed events : List PositionClosed}
    (same : Forall₂ HoldingBook.SameClose closed events) :
    AlikeUpTo extra (closed.foldl BacktestArtifactWriter.writePositionClosed builder)
      (events.foldl BacktestArtifactWriter.writePositionClosed other) := by
  induction same generalizing builder other with
  | nil => exact alike
  | cons one _ ih => exact ih (alike.writePositionClosed one)

variable (equity : Decimal)

theorem AlikeUpTo.startCurve :
    Matched (AlikeUpTo extra) (builder.startCurve equity) (other.startCurve equity) := by
  obtain ⟨rest, pnls⟩ := alike
  rw [rest]
  obtain ⟨points, first, _⟩ := builder
  unfold startCurve
  cases first with
  | some first => exact ⟨rfl, pnls⟩
  | none =>
    dsimp only
    split
    · rfl
    · exact ⟨rfl, pnls⟩

theorem AlikeUpTo.trackReturn :
    AlikeUpTo extra (builder.trackReturn equity) (other.trackReturn equity) := by
  obtain ⟨rest, pnls⟩ := alike
  rw [rest]
  obtain ⟨points, first, last, prev, _⟩ := builder
  unfold trackReturn
  cases prev with
  | none => exact ⟨rfl, pnls⟩
  | some prev =>
    dsimp only
    split
    · exact ⟨rfl, pnls⟩
    · exact ⟨rfl, pnls⟩

theorem AlikeUpTo.countOccupied : AlikeUpTo extra builder.countOccupied other.countOccupied := by
  obtain ⟨rest, pnls⟩ := alike
  rw [rest]
  exact ⟨rfl, pnls⟩

theorem AlikeUpTo.trackDrawdown :
    Matched (AlikeUpTo extra) (builder.trackDrawdown equity) (other.trackDrawdown equity) := by
  obtain ⟨rest, pnls⟩ := alike
  rw [rest]
  unfold StatisticsBuilder.trackDrawdown
  dsimp only
  split
  · exact ⟨rfl, pnls⟩
  · split
    · rfl
    · exact ⟨rfl, pnls⟩

theorem AlikeUpTo.onEquityPoint :
    Matched (AlikeUpTo extra) (builder.onEquityPoint equity) (other.onEquityPoint equity) := by
  refine (alike.startCurve equity).bind fun started otherStarted begun => ?_
  refine ((begun.trackReturn equity).countOccupied.trackDrawdown equity).bind ?_
  rintro drawn otherDrawn ⟨rest, pnls⟩
  refine ⟨?_, pnls⟩
  rw [rest]

end

end Alike

/-- Two reports with the same holdings and with statistics that agree up to the slicing. -/
structure ReportsAlike (extra : Nat) (report other : BacktestReport Account) : Prop where
  books : other.books = report.books
  statistics : AlikeUpTo extra report.statistics other.statistics

variable {report other : BacktestReport Account}

theorem ReportsAlike.after {extra : Nat}
    (alike : ReportsAlike extra report other) (event : ReportEvent Account) :
    Matched (ReportsAlike extra) (step report event) (step other event) := by
  cases event with
  | equityPoint equity =>
    exact (alike.statistics.onEquityPoint equity).bind fun _ _ after => ⟨alike.books, after⟩
  | processed account bar fills =>
    change Matched _ (report.writeProcessed account bar fills)
      (other.writeProcessed account bar fills)
    unfold writeProcessed
    rw [alike.books]
    cases bookAll (report.books account) fills with
    | error failure => rfl
    | ok booked =>
      refine ⟨rfl, ?_⟩
      exact (alike.statistics.onFills _).writePositionsClosed
        (forall₂_same.mpr fun event _ => .refl event)

theorem ReportsAlike.run {extra : Nat}
    (alike : ReportsAlike extra report other) (events : List (ReportEvent Account)) :
    Matched (ReportsAlike extra) (events.foldlM step report) (events.foldlM step other) := by
  induction events generalizing report other with
  | nil => exact alike
  | cons event events ih =>
    rw [foldlM_cons, foldlM_cons]
    exact (alike.after event).bind fun _ _ next => ih next

structure SlicesOf (reported : ReportedFill) (parts : List ReportedFill) : Prop where
  orderId : ∀ part ∈ parts, part.orderId = reported.orderId
  fills : HoldingBook.Slices reported.fill (parts.map fun part => part.fill)
  commission : (parts.map fun part => part.commission).sum = reported.commission
  slippage : (parts.map fun part => part.slippage).sum = reported.slippage

section Booking

variable {book : HoldingBook}

theorem bookAll_cons (book : HoldingBook) (uniform : book.Uniform) (reported : ReportedFill)
    (fills : List ReportedFill) :
    bookAll book (reported :: fills) =
      let filled := HoldingBook.fillHolding (book.holding reported.fill.instrumentId) reported.fill
      (bookAll (book.store reported.fill.instrumentId filled.2) fills).map fun later =>
        (filled.1 ++ later.1, later.2) := by
  rw [bookAll, HoldingBook.applyFill_valid (uniform.wellKeyed.holding _) reported.valid]
  dsimp only [bind, Except.bind]
  cases bookAll (book.store reported.fill.instrumentId (HoldingBook.fillHolding
    (book.holding reported.fill.instrumentId) reported.fill).2) fills <;> rfl

theorem uniform_store (uniform : book.Uniform) (reported : ReportedFill) :
    (book.store reported.fill.instrumentId (HoldingBook.fillHolding
      (book.holding reported.fill.instrumentId) reported.fill).2).Uniform :=
  (uniform.applyFill (HoldingBook.applyFill_valid (uniform.wellKeyed.holding _) reported.valid)).1

theorem bookAll_instrument (uniform : book.Uniform) {instrumentId : InstrumentId}
    {fills : List ReportedFill} (of : ∀ reported ∈ fills, reported.fill.instrumentId = instrumentId)
    (some : fills ≠ []) (rest : List ReportedFill) :
    bookAll book (fills ++ rest) =
      let filled := HoldingBook.fillAll (book.holding instrumentId)
        (fills.map fun reported => reported.fill)
      (bookAll (book.store instrumentId filled.2) rest).map fun later =>
        (filled.1 ++ later.1, later.2) := by
  induction fills generalizing book with
  | nil => exact absurd rfl some
  | cons reported fills ih =>
    have same := of reported mem_cons_self
    rw [cons_append, bookAll_cons book uniform, same]
    dsimp only
    by_cases only : fills = []
    · subst only
      rw [nil_append, map_cons, map_nil]
      simp only [HoldingBook.fillAll, append_nil]
    · have stored := uniform_store uniform reported
      rw [same] at stored
      rw [ih stored (fun other mem => of other (mem_cons_of_mem _ mem)) only]
      rw [HoldingBook.holding_store, if_pos rfl, map_cons, HoldingBook.fillAll]
      dsimp only
      rw [HoldingBook.store, HoldingBook.store, HoldingBook.store]
      dsimp only
      rw [Dict.set_set]
      generalize bookAll _ rest = outcome
      cases outcome with
      | error failure => rfl
      | ok later =>
        simp only [Except.map, append_assoc]

theorem bookAll_slices (uniform : book.Uniform) (average : book.costBasisMethod = .average)
    {reported : ReportedFill} {parts : List ReportedFill} (slices : SlicesOf reported parts)
    (rest : List ReportedFill) :
    Matched (fun booked other : List PositionClosed × HoldingBook =>
        Forall₂ HoldingBook.SameClose booked.1 other.1 ∧ booked.2 = other.2)
      (bookAll book (reported :: rest)) (bookAll book (parts ++ rest)) := by
  have convention : (book.holding reported.fill.instrumentId).costBasisMethod = .average :=
    (uniform.holding _).1.trans average
  have effect := slices.fills.sameEffect reported.valid.nonzero convention
  have some : parts ≠ [] := by
    rintro rfl
    exact reported.valid.nonzero slices.fills.sums.symm
  have of : ∀ part ∈ parts, part.fill.instrumentId = reported.fill.instrumentId :=
    fun part mem => (slices.fills.each part.fill (mem_map_of_mem mem)).instrumentId
  rw [bookAll_cons book uniform, bookAll_instrument uniform of some]
  dsimp only
  rw [← effect.holding]
  generalize bookAll _ rest = outcome
  cases outcome with
  | error failure => rfl
  | ok later =>
    exact ⟨rel_append effect.events (forall₂_same.mpr fun event _ => .refl event), rfl⟩

theorem bookAll_front (uniform : book.Uniform) (average : book.costBasisMethod = .average)
    {reported : ReportedFill} {parts : List ReportedFill} (slices : SlicesOf reported parts)
    (front rest : List ReportedFill) :
    Matched (fun booked other : List PositionClosed × HoldingBook =>
        Forall₂ HoldingBook.SameClose booked.1 other.1 ∧ booked.2 = other.2)
      (bookAll book (front ++ reported :: rest)) (bookAll book (front ++ (parts ++ rest))) := by
  induction front generalizing book with
  | nil => exact bookAll_slices uniform average slices rest
  | cons first front ih =>
    rw [cons_append, cons_append, bookAll_cons book uniform, bookAll_cons book uniform]
    dsimp only
    exact (ih (uniform_store uniform first) average).map fun later otherLater same =>
      ⟨rel_append (forall₂_same.mpr fun event _ => .refl event) same.1, same.2⟩

end Booking

theorem onFills_instrument (builder : StatisticsBuilder) {instrumentId : InstrumentId}
    {rows : List TradeLedgerEntry} (of : ∀ row ∈ rows, row.instrumentId = instrumentId)
    (some : rows ≠ []) :
    rows.foldl onFill builder = { builder with
      totalOrders := builder.totalOrders + rows.length
      totalCommission := builder.totalCommission + (rows.map fun row => row.commission).sum
      totalSlippage := builder.totalSlippage + (rows.map fun row => row.slippage).sum
      openInstruments := insert instrumentId builder.openInstruments } := by
  induction rows generalizing builder with
  | nil => exact absurd rfl some
  | cons row rows ih =>
    have same := of row mem_cons_self
    rw [foldl_cons]
    by_cases only : rows = []
    · subst only
      simp [onFill, same]
    · rw [ih _ (fun other mem => of other (mem_cons_of_mem _ mem)) only]
      simp only [onFill, same, Finset.insert_idem, length_cons,
        map_cons, sum_cons, add_assoc, Nat.add_comm 1]

variable {parts : List ReportedFill} {reported : ReportedFill}

theorem onFills_slices (builder : StatisticsBuilder) (bar : Bar) (slices : SlicesOf reported parts)
    :
    AlikeUpTo (parts.length - 1) (builder.onFill (ledgerRow bar reported))
      ((parts.map (ledgerRow bar)).foldl onFill builder) := by
  have some : parts ≠ [] := by
    rintro rfl
    exact reported.valid.nonzero slices.fills.sums.symm
  have of : ∀ row ∈ parts.map (ledgerRow bar), row.instrumentId = reported.fill.instrumentId := by
    intro row mem
    obtain ⟨part, partMember, rfl⟩ := mem_map.mp mem
    exact (slices.fills.each part.fill (mem_map_of_mem partMember)).instrumentId
  have commission : ((parts.map (ledgerRow bar)).map fun row => row.commission).sum =
      reported.commission := by
    rw [map_map, ← slices.commission]
    rfl
  have slippage : ((parts.map (ledgerRow bar)).map fun row => row.slippage).sum =
      reported.slippage := by
    rw [map_map, ← slices.slippage]
    rfl
  have orders : builder.totalOrders + parts.length =
      builder.totalOrders + 1 + (parts.length - 1) := by
    have pos := length_pos_of_ne_nil some
    omega
  rw [onFills_instrument builder of (by simpa using some), commission, slippage, length_map,
    orders]
  exact ⟨rfl, forall₂_same.mpr fun _ _ => ⟨Iff.rfl, Iff.rfl⟩⟩

/-- Every book of a report has the average-cost convention throughout. -/
def Averaging (report : BacktestReport Account) : Prop :=
  ∀ account, (report.books account).Uniform ∧
    (report.books account).costBasisMethod = .average

theorem bookAll_averaging {book next : HoldingBook} {fills : List ReportedFill}
    {closed : List PositionClosed} (uniform : book.Uniform)
    (average : book.costBasisMethod = .average) (booked : bookAll book fills = .ok (closed, next)) :
    next.Uniform ∧ next.costBasisMethod = .average := by
  induction fills generalizing book closed with
  | nil =>
    cases booked
    exact ⟨uniform, average⟩
  | cons reported fills ih =>
    rw [bookAll_cons book uniform] at booked
    dsimp only at booked
    cases later : bookAll (book.store reported.fill.instrumentId (HoldingBook.fillHolding
        (book.holding reported.fill.instrumentId) reported.fill).2) fills with
    | error failure =>
      rw [later] at booked
      cases booked
    | ok booking =>
      rw [later] at booked
      cases booked
      exact ih (uniform_store uniform reported) average later

variable {report after : BacktestReport Account}

theorem step_averaging (averaging : report.Averaging)
    {event : ReportEvent Account} (stepped : report.step event = .ok after) : after.Averaging := by
  cases event with
  | equityPoint equity =>
    obtain ⟨statistics, _, rfl⟩ : ∃ statistics, report.statistics.onEquityPoint equity =
        .ok statistics ∧ { report with statistics } = after := by
      change (do return { report with statistics := ← report.statistics.onEquityPoint equity } :
        Except String (BacktestReport Account)) = .ok after at stepped
      cases taken : report.statistics.onEquityPoint equity with
      | error failure =>
        rw [taken] at stepped
        cases stepped
      | ok statistics =>
        rw [taken] at stepped
        exact ⟨statistics, rfl, Except.ok.inj stepped⟩
    exact averaging
  | processed account bar fills =>
    change report.writeProcessed account bar fills = .ok after at stepped
    unfold writeProcessed at stepped
    cases booked : bookAll (report.books account) fills with
    | error failure =>
      rw [booked] at stepped
      cases stepped
    | ok booking =>
      rw [booked] at stepped
      cases stepped
      intro other
      dsimp only
      by_cases same : other = account
      · subst same
        rw [Function.update_self]
        exact bookAll_averaging (averaging other).1 (averaging other).2 booked
      · rw [Function.update_of_ne same]
        exact averaging other

theorem run_averaging (averaging : report.Averaging)
    {events : List (ReportEvent Account)} (ran : events.foldlM step report = .ok after) :
    after.Averaging := by
  induction events generalizing report with
  | nil =>
    cases ran
    exact averaging
  | cons event events ih =>
    rw [foldlM_cons] at ran
    cases stepped : report.step event with
    | error failure =>
      rw [stepped] at ran
      cases ran
    | ok next =>
      rw [stepped] at ran
      exact ih (step_averaging averaging stepped) ran

theorem writeProcessed_slices {report : BacktestReport Account} (averaging : report.Averaging)
    (account : Account) (bar : Bar) (slices : SlicesOf reported parts)
    (front back : List ReportedFill) :
    Matched (ReportsAlike (parts.length - 1))
      (report.writeProcessed account bar (front ++ reported :: back))
      (report.writeProcessed account bar (front ++ (parts ++ back))) := by
  unfold writeProcessed
  refine (bookAll_front (averaging account).1 (averaging account).2 slices front back).bind ?_
  rintro ⟨closed, book⟩ ⟨otherClosed, otherBook⟩ ⟨same, rfl⟩
  refine ⟨rfl, ?_⟩
  rw [map_append, map_cons, foldl_append, foldl_cons, map_append,
    map_append, foldl_append, foldl_append]
  exact ((onFills_slices _ bar slices).onFills _).writePositionsClosed same

/-- The trade statistics that slicing is meant to leave alone. -/
structure SameTradeStatistics (payload other : StatisticsPayload) : Prop where
  totalOrders : other.totalOrders = payload.totalOrders
  totalTrades : other.totalTrades = payload.totalTrades
  winRate : other.winRate = payload.winRate
  lossRate : other.lossRate = payload.lossRate
  expectancy : other.expectancy = payload.expectancy
  avgWin : other.avgWin = payload.avgWin
  avgLoss : other.avgLoss = payload.avgLoss
  profitFactor : other.profitFactor = payload.profitFactor
  timeInMarket : other.timeInMarket = payload.timeInMarket

/-- The trade statistics that slicing does leave alone, and how it moves the number of orders. -/
structure KeptBySlicing (extra : Nat) (payload other : StatisticsPayload) : Prop where
  totalOrders : other.totalOrders = payload.totalOrders + extra
  totalTrades : other.totalTrades = payload.totalTrades
  winRate : other.winRate = payload.winRate
  lossRate : other.lossRate = payload.lossRate
  timeInMarket : other.timeInMarket = payload.timeInMarket

theorem filter_length_eq {pnls others : List Decimal} {test : Decimal → Bool}
    (same : Forall₂ (fun pnl other => test pnl = test other) pnls others) :
    (others.filter test).length = (pnls.filter test).length := by
  induction same with
  | nil => rfl
  | cons one _ ih =>
    rw [filter_cons, filter_cons, one]
    split
    · rw [length_cons, length_cons, ih]
    · exact ih

theorem AlikeUpTo.finalize {extra : Nat} {builder other : StatisticsBuilder}
    (alike : AlikeUpTo extra builder other) (tradingBars : Int) :
    Matched (KeptBySlicing extra) (builder.finalize tradingBars) (other.finalize tradingBars) := by
  obtain ⟨rest, pnls⟩ := alike
  have wins : other.wins.length = builder.wins.length :=
    filter_length_eq (pnls.imp fun _ _ same => decide_eq_decide.mpr same.wins)
  have losses : other.losses.length = builder.losses.length :=
    filter_length_eq (pnls.imp fun _ _ same => decide_eq_decide.mpr same.loses)
  have trades : other.closedPnls.length = builder.closedPnls.length := pnls.length_eq.symm
  have first : other.first = builder.first := by rw [rest]
  have last : other.last = builder.last := by rw [rest]
  have orders : other.totalOrders = builder.totalOrders + extra := by rw [rest]
  have occupied : other.occupiedBars = builder.occupiedBars := by rw [rest]
  unfold StatisticsBuilder.finalize
  rw [first, last]
  cases builder.first with
  | none => rfl
  | some first =>
    cases builder.last with
    | none => rfl
    | some last =>
      refine ⟨orders, trades, ?_, ?_, ?_⟩
      · dsimp only
        rw [wins, trades]
      · dsimp only
        rw [losses, trades]
      · dsimp only
        rw [occupied]

def runOf (before after : List (ReportEvent Account)) (account : Account) (bar : Bar)
    (front fills back : List ReportedFill) : List (ReportEvent Account) :=
  before ++ .processed account bar (front ++ (fills ++ back)) :: after

theorem statisticsOf_slices (before after : List (ReportEvent Account)) (account : Account)
    (bar : Bar) (front back : List ReportedFill) (slices : SlicesOf reported parts)
    (tradingBars : Int) :
    Matched (KeptBySlicing (parts.length - 1))
      (statisticsOf (runOf before after account bar front [reported] back) tradingBars)
      (statisticsOf (runOf before after account bar front parts back) tradingBars) := by
  have begun : Averaging (init : BacktestReport Account) := fun _ => ⟨.empty .average, rfl⟩
  unfold statisticsOf runOf
  rw [foldlM_append, foldlM_append]
  cases ran : before.foldlM step (init : BacktestReport Account) with
  | error failure => rfl
  | ok report =>
    dsimp only [bind, Except.bind]
    rw [foldlM_cons, foldlM_cons]
    refine Matched.bind ((writeProcessed_slices (run_averaging begun ran) account bar slices front
      back).bind fun _ _ alike => alike.run after) fun _ _ alike =>
        alike.statistics.finalize tradingBars

theorem SlicesOf.eq_of_length_one (slices : SlicesOf reported parts) (one : parts.length = 1) :
    parts = [reported] := by
  obtain ⟨part, rfl⟩ := length_eq_one_iff.mp one
  obtain ⟨orderId, fills, commission, slippage⟩ := slices
  have quantity : part.fill.signedQuantity = reported.fill.signedQuantity := by
    simpa using fills.sums
  have fill := (fills.each part.fill (by simp)).eq_of_quantity quantity
  have order := orderId part mem_cons_self
  rw [map_singleton, sum_singleton] at commission slippage
  cases part
  cases reported
  cases order
  cases fill
  cases commission
  cases slippage
  rfl

/-- A sliced fill leaves the number of trades, the win and loss rates and the time in the market
alone; all of the trade statistics stay the same exactly when it is left in one slice. -/
theorem sliced_statistics_iff (before after : List (ReportEvent Account)) (account : Account)
    (bar : Bar) (front back : List ReportedFill) {reported : ReportedFill}
    {parts : List ReportedFill} (slices : SlicesOf reported parts) (tradingBars : Int) :
    Matched (fun payload sliced => KeptBySlicing (parts.length - 1) payload sliced ∧
        (SameTradeStatistics payload sliced ↔ parts.length = 1))
      (statisticsOf (runOf before after account bar front [reported] back) tradingBars)
      (statisticsOf (runOf before after account bar front parts back) tradingBars) := by
  have kept := statisticsOf_slices before after account bar front back slices tradingBars
  by_cases one : parts.length = 1
  · obtain rfl := slices.eq_of_length_one one
    revert kept
    generalize statisticsOf (runOf before after account bar front [reported] back) tradingBars =
      outcome
    intro kept
    cases outcome with
    | error failure => rfl
    | ok payload => exact ⟨kept, iff_of_true ⟨rfl, rfl, rfl, rfl, rfl, rfl, rfl, rfl, rfl⟩ one⟩
  · have several : 1 < parts.length := by
      have some : parts ≠ [] := by
        rintro rfl
        exact reported.valid.nonzero slices.fills.sums.symm
      have pos := length_pos_of_ne_nil some
      omega
    refine kept.mono fun payload sliced keeps => ⟨keeps, iff_of_false (fun same => ?_) one⟩
    have orders := same.totalOrders
    rw [keeps.totalOrders] at orders
    omega

namespace ClosedInSlices

def instrument : InstrumentId := ⟨⟨"ES", Eq.refl false⟩⟩

def bar : Bar where
  instrumentId := instrument
  startTime := 0
  endTime := 60
  timeframe := "1m"
  sessionId := "session-1"
  openPrice := 10
  high := 12
  low := 10
  close := 12
  valid := by decide +kernel

def fillOf (orderId : OrderId) (signedQuantity price : Decimal)
    (nonzero : signedQuantity ≠ 0) (nonneg : 0 ≤ price) : ReportedFill where
  orderId := orderId
  fill := {
    instrumentId := instrument
    signedQuantity, price
    multiplier := 1
    fillTime := some 60 }
  commission := |signedQuantity|
  slippage := 0
  valid := ⟨nonzero, nonneg, zero_lt_one⟩

def buyTwo : ReportedFill :=
  fillOf ⟨⟨"bt-000001", rfl⟩⟩ 2 10 (by decide) (by decide)

def sellTwo : ReportedFill :=
  fillOf ⟨⟨"bt-000002", rfl⟩⟩ (-2) 12 (by decide) (by decide)

def sellOne : ReportedFill :=
  fillOf ⟨⟨"bt-000002", rfl⟩⟩ (-1) 12 (by decide) (by decide)

def boughtAndSold (sold : List ReportedFill) : List (ReportEvent Unit) :=
  runOf [.processed () bar [buyTwo], .equityPoint 100] [.equityPoint 102] () bar [] sold []

theorem slices : SlicesOf sellTwo [sellOne, sellOne] where
  orderId part mem := by
    simp only [mem_cons, not_mem_nil, or_false, or_self] at mem
    rw [mem]
    rfl
  fills := {
    each := by
      intro part mem
      simp only [map_cons, map_nil, mem_cons, not_mem_nil, or_false, or_self] at mem
      rw [mem]
      exact ⟨rfl, rfl, rfl, rfl, by decide +kernel⟩
    sums := by decide +kernel }
  commission := by decide +kernel
  slippage := by decide +kernel

end ClosedInSlices

open ClosedInSlices in
theorem sliced_statistics_iff_closedInSlices :
    Matched (fun payload sliced => KeptBySlicing 1 payload sliced ∧
        (SameTradeStatistics payload sliced ↔ 2 = 1))
      (statisticsOf (boughtAndSold [sellTwo]) 2)
      (statisticsOf (boughtAndSold [sellOne, sellOne]) 2) :=
  sliced_statistics_iff [.processed () bar [buyTwo], .equityPoint 100] [.equityPoint 102] () bar
    [] [] slices 2

theorem map_eq_ok {Value Next : Type} {outcome : Except String Value} {change : Value → Next}
    {next : Next} (mapped : outcome.map change = .ok next) :
    ∃ value, outcome = .ok value ∧ change value = next := by
  cases outcome with
  | error failure => cases mapped
  | ok value => exact ⟨value, rfl, Except.ok.inj mapped⟩

open ClosedInSlices in
/-- Sold in two slices, the position counts one order more and half of its profit. -/
theorem closed_in_slices_differs :
    SlicesOf sellTwo [sellOne, sellOne] ∧
      ∃ payload sliced, statisticsOf (boughtAndSold [sellTwo]) 2 = .ok payload ∧
        statisticsOf (boughtAndSold [sellOne, sellOne]) 2 = .ok sliced ∧
        (payload.totalOrders = 2 ∧ sliced.totalOrders = 3) ∧
        (payload.expectancy = 4 ∧ sliced.expectancy = 2) ∧
        ¬SameTradeStatistics payload sliced := by
  have whole : (statisticsOf (boughtAndSold [sellTwo]) 2).map
      (fun payload => (payload.totalOrders, payload.expectancy)) = .ok (2, 4) := by
    decide +kernel
  have halves : (statisticsOf (boughtAndSold [sellOne, sellOne]) 2).map
      (fun payload => (payload.totalOrders, payload.expectancy)) = .ok (3, 2) := by
    decide +kernel
  obtain ⟨payload, ran, values⟩ := map_eq_ok whole
  obtain ⟨sliced, slicedRan, slicedValues⟩ := map_eq_ok halves
  obtain ⟨orders, expectancy⟩ := Prod.mk.inj values
  obtain ⟨slicedOrders, slicedExpectancy⟩ := Prod.mk.inj slicedValues
  refine ⟨slices, payload, sliced, ran, slicedRan, ⟨orders, slicedOrders⟩,
    ⟨expectancy, slicedExpectancy⟩, fun same => ?_⟩
  have unmoved := same.totalOrders
  rw [orders, slicedOrders] at unmoved
  cases unmoved

end BacktestReport

end Qts
