import Qts.AccountActor

/-! # Backtest statistics -/

namespace Qts

/-- Auditable row for a simulated fill. -/
structure TradeLedgerEntry where
  orderId : OrderId
  instrumentId : InstrumentId
  side : OrderSide
  quantity : Decimal
  fillPrice : Decimal
  commission : Decimal
  slippage : Decimal
  fillTime : DateTime
  sourceBarTime : DateTime

/-- Return, trade, exposure and cost statistics, as they accumulate. -/
structure StatisticsBuilder where
  points : Nat := 0
  first : Option Decimal := none
  last : Option Decimal := none
  prev : Option Decimal := none
  peak : Decimal := 0
  maxDrawdown : Decimal := 0
  drawdownDuration : Nat := 0
  maxDrawdownDuration : Nat := 0
  returns : List Decimal := []
  openInstruments : Finset InstrumentId := ∅
  closedPnls : List Decimal := []
  holdingBars : List Nat := []
  totalOrders : Nat := 0
  totalCommission : Decimal := 0
  totalSlippage : Decimal := 0
  occupiedBars : Nat := 0

/-- Statistics of a finished backtest. -/
structure StatisticsPayload where
  points : Nat
  totalReturn : Decimal
  maxDrawdown : Decimal
  maxDrawdownDurationBars : Nat
  returnObservationCount : Nat
  totalTrades : Nat
  totalOrders : Nat
  winRate : Decimal
  lossRate : Decimal
  avgWin : Decimal
  avgLoss : Decimal
  largestWin : Decimal
  largestLoss : Decimal
  profitFactor : Decimal
  expectancy : Decimal
  avgHoldingPeriodBars : Decimal
  timeInMarket : Decimal
  totalCommission : Decimal
  totalSlippage : Decimal
  commissionPerTrade : Decimal
  slippagePerTrade : Decimal

namespace StatisticsBuilder

def trackDrawdown (builder : StatisticsBuilder) (equity : Decimal) :
    Except String StatisticsBuilder :=
  if builder.peak ≤ equity then
    .ok { builder with peak := equity, drawdownDuration := 0 }
  else if builder.peak = 0 then .error "division by zero"
  else
    let duration := builder.drawdownDuration + 1
    .ok { builder with
      drawdownDuration := duration
      maxDrawdownDuration := max builder.maxDrawdownDuration duration
      maxDrawdown := max builder.maxDrawdown ((builder.peak - equity) / builder.peak) }

def trackReturn (builder : StatisticsBuilder) (equity : Decimal) : StatisticsBuilder :=
  match builder.prev with
  | none => builder
  | some prev =>
    if prev = 0 then builder
    else { builder with returns := builder.returns ++ [(equity - prev) / prev] }

/-- Whether the next equity point counts as one in the market. -/
def occupied (builder : StatisticsBuilder) : Bool :=
  decide builder.openInstruments.Nonempty

/-- Count an equity point that is in the market. -/
def countOccupied (builder : StatisticsBuilder) : StatisticsBuilder :=
  { builder with occupiedBars := builder.occupiedBars + if builder.occupied then 1 else 0 }

def startCurve (builder : StatisticsBuilder) (equity : Decimal) :
    Except String StatisticsBuilder :=
  match builder.first with
  | some _ => .ok builder
  | none =>
    if equity = 0 then .error "first equity value must not be zero"
    else .ok { builder with first := some equity, peak := equity }

def onEquityPoint (builder : StatisticsBuilder) (equity : Decimal) :
    Except String StatisticsBuilder := do
  let started ← builder.startCurve equity
  let drawn ← ((started.trackReturn equity).countOccupied).trackDrawdown equity
  return { drawn with
    prev := some equity
    last := some equity
    points := drawn.points + 1 }

def onFill (builder : StatisticsBuilder) (row : TradeLedgerEntry) : StatisticsBuilder :=
  { builder with
    totalOrders := builder.totalOrders + 1
    totalCommission := builder.totalCommission + row.commission
    totalSlippage := builder.totalSlippage + row.slippage
    openInstruments := insert row.instrumentId builder.openInstruments }

def onPositionClose (builder : StatisticsBuilder) (realizedPnl : Decimal) (holdingBars : Nat)
    (instrumentId : Option InstrumentId) : StatisticsBuilder :=
  { builder with
    closedPnls := builder.closedPnls ++ [realizedPnl]
    holdingBars := builder.holdingBars ++ [holdingBars]
    openInstruments := match instrumentId with
      | none => builder.openInstruments
      | some instrumentId => builder.openInstruments.erase instrumentId }

def mean (values : List Decimal) : Decimal :=
  if values = [] then 0 else values.sum / values.length

def ratio (numerator denominator : Decimal) : Decimal :=
  if denominator = 0 then 0 else numerator / denominator

def wins (builder : StatisticsBuilder) : List Decimal :=
  builder.closedPnls.filter fun pnl => decide (0 < pnl)

def losses (builder : StatisticsBuilder) : List Decimal :=
  builder.closedPnls.filter fun pnl => decide (pnl < 0)

def finalize (builder : StatisticsBuilder) (tradingBars : Int) :
    Except String StatisticsPayload :=
  match builder.first, builder.last with
  | some first, some last =>
    let totalTrades := builder.closedPnls.length
    .ok {
      points := builder.points
      totalReturn := (last - first) / first
      maxDrawdown := builder.maxDrawdown
      maxDrawdownDurationBars := builder.maxDrawdownDuration
      returnObservationCount := builder.returns.length
      totalTrades
      totalOrders := builder.totalOrders
      winRate := ratio builder.wins.length totalTrades
      lossRate := ratio builder.losses.length totalTrades
      avgWin := mean builder.wins
      avgLoss := mean builder.losses
      largestWin := builder.wins.foldl max 0
      largestLoss := builder.losses.foldl min 0
      profitFactor := ratio builder.wins.sum |builder.losses.sum|
      expectancy := mean builder.closedPnls
      avgHoldingPeriodBars := mean (builder.holdingBars.map fun bars => (bars : Decimal))
      timeInMarket := ratio builder.occupiedBars (max tradingBars 0 : Int)
      totalCommission := builder.totalCommission
      totalSlippage := builder.totalSlippage
      commissionPerTrade := ratio builder.totalCommission totalTrades
      slippagePerTrade := ratio builder.totalSlippage totalTrades }
  | _, _ => .error "equity curve must not be empty"

end StatisticsBuilder

namespace BacktestArtifactWriter

def holdingBars (openedAt : Option DateTime) (closedAt : DateTime) : Nat :=
  match openedAt with
  | none => 0
  | some openedAt => ((closedAt - openedAt) / 60).toNat

def writePositionClosed (statistics : StatisticsBuilder) (closed : PositionClosed) :
    StatisticsBuilder :=
  statistics.onPositionClose closed.realizedPnl (holdingBars closed.openedAt closed.closedAt)
    (some closed.instrumentId)

end BacktestArtifactWriter

namespace StatisticsBuilder

theorem foldl_onFill_openInstruments (builder : StatisticsBuilder) (rows : List TradeLedgerEntry) :
    (rows.foldl onFill builder).openInstruments =
      builder.openInstruments ∪ (rows.map (·.instrumentId)).toFinset := by
  induction rows generalizing builder with
  | nil => simp
  | cons row rows ih =>
    rw [List.foldl_cons, ih, onFill, List.map_cons, List.toFinset_cons]
    ext instrumentId
    simp only [Finset.mem_union, Finset.mem_insert]
    tauto

theorem foldl_writePositionClosed_openInstruments (builder : StatisticsBuilder)
    (events : List PositionClosed) :
    (events.foldl BacktestArtifactWriter.writePositionClosed builder).openInstruments =
      builder.openInstruments \ (events.map (·.instrumentId)).toFinset := by
  induction events generalizing builder with
  | nil => simp
  | cons event events ih =>
    rw [List.foldl_cons, ih, BacktestArtifactWriter.writePositionClosed, onPositionClose,
      List.map_cons, List.toFinset_cons]
    ext instrumentId
    simp only [Finset.mem_sdiff, Finset.mem_erase, Finset.mem_insert]
    tauto

theorem onEquityPoint_counts {builder after : StatisticsBuilder} {equity : Decimal}
    (counted : builder.onEquityPoint equity = .ok after) :
    after.occupiedBars = builder.occupiedBars + (if builder.occupied then 1 else 0) ∧
      after.openInstruments = builder.openInstruments := by
  obtain ⟨started, begun, counted⟩ := bind_inv counted
  obtain ⟨drawn, tracked, counted⟩ := bind_inv counted
  obtain rfl := Except.ok.inj counted
  have starts : started.occupiedBars = builder.occupiedBars ∧
      started.openInstruments = builder.openInstruments := by
    unfold startCurve at begun
    split at begun
    · obtain rfl := Except.ok.inj begun
      exact ⟨rfl, rfl⟩
    · split at begun
      · cases begun
      · obtain rfl := Except.ok.inj begun
        exact ⟨rfl, rfl⟩
  have returns : (started.trackReturn equity).occupiedBars = started.occupiedBars ∧
      (started.trackReturn equity).openInstruments = started.openInstruments := by
    unfold trackReturn
    split
    · exact ⟨rfl, rfl⟩
    · split <;> exact ⟨rfl, rfl⟩
  have draws : drawn.occupiedBars = ((started.trackReturn equity).countOccupied).occupiedBars ∧
      drawn.openInstruments = ((started.trackReturn equity).countOccupied).openInstruments := by
    unfold trackDrawdown at tracked
    split at tracked
    · obtain rfl := Except.ok.inj tracked
      exact ⟨rfl, rfl⟩
    · split at tracked
      · cases tracked
      · obtain rfl := Except.ok.inj tracked
        exact ⟨rfl, rfl⟩
  have same : (started.trackReturn equity).openInstruments = builder.openInstruments :=
    returns.2.trans starts.2
  refine ⟨?_, draws.2.trans same⟩
  have market : (started.trackReturn equity).occupied = builder.occupied := by
    rw [occupied, occupied, same]
  change drawn.occupiedBars = _
  rw [draws.1, countOccupied, market, returns.1, starts.1]

end StatisticsBuilder

end Qts
