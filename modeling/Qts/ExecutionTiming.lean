import Qts.RuntimeFailures

/-! # Bars and the price that realizes a decision -/

namespace Qts

structure BarFields where
  instrumentId : InstrumentId
  startTime : DateTime
  endTime : DateTime
  timeframe : String
  sessionId : String
  openPrice : Decimal
  high : Decimal
  low : Decimal
  close : Decimal
  volume : Decimal := 0
  vwap : Option Decimal := none
  openInterest : Option Decimal := none
  tradeCount : Option Int := none
  isComplete : Bool := false
  isPartial : Bool := false
  isSynthetic : Bool := false
deriving DecidableEq

def requireNonNegative (value : Decimal) (name : String) : Check where
  fails := decide (value < 0)
  message := name ++ " must be non-negative"

def requireNonNegativeIfGiven (value : Option Decimal) (name : String) : Check where
  fails := value.any fun given => (requireNonNegative given name).fails
  message := name ++ " must be non-negative"

def BarFields.checks (bar : BarFields) : List Check :=
  [⟨decide (bar.endTime ≤ bar.startTime), "start must be before end"⟩,
   ⟨PythonText.isBlank bar.timeframe, "timeframe must not be empty"⟩,
   ⟨PythonText.isBlank bar.sessionId, "session_id must not be empty"⟩,
   ⟨decide (bar.high < max bar.openPrice bar.close),
      "high must be greater than or equal to open and close"⟩,
   ⟨decide (min bar.openPrice bar.close < bar.low),
      "low must be less than or equal to open and close"⟩,
   ⟨decide (bar.high < bar.low), "low must be less than or equal to high"⟩,
   requireNonNegative bar.volume "volume",
   requireNonNegativeIfGiven bar.vwap "vwap",
   requireNonNegativeIfGiven bar.openInterest "open_interest",
   ⟨bar.tradeCount.any fun count => decide (count < 0), "trade_count must be non-negative"⟩]

/-- A bar over a half-open interval. -/
structure Bar extends BarFields where
  valid : Check.firstFailure toBarFields.checks = none
deriving DecidableEq

/-- Fill-timing policy for a decision made at a completed bar. -/
inductive FillPolicy
  | sameBarClose
  | nextBarOpen
deriving DecidableEq

structure ExecutionTimingModel where
  fillPolicy : FillPolicy := .nextBarOpen
  optimisticWaiver : Bool := false
  waived : fillPolicy = .sameBarClose → optimisticWaiver = true

namespace ExecutionTimingModel

/-- The default model fills at the next bar's open. -/
def promotionGrade : ExecutionTimingModel where
  waived := by decide

def priceForExecutionBar (timing : ExecutionTimingModel) (bar : Bar) : Decimal :=
  match timing.fillPolicy with
  | .nextBarOpen => bar.openPrice
  | .sameBarClose => bar.close

theorem priceForExecutionBar_mem (timing : ExecutionTimingModel) (bar : Bar) :
    timing.priceForExecutionBar bar = bar.openPrice ∨
      timing.priceForExecutionBar bar = bar.close := by
  cases policy : timing.fillPolicy with
  | nextBarOpen => exact .inl (by simp only [priceForExecutionBar, policy])
  | sameBarClose => exact .inr (by simp only [priceForExecutionBar, policy])

end ExecutionTimingModel

end Qts
