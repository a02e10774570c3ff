import Qts.HoldingAccounting
import Qts.PlanRiskChecks

/-! # Intraday profit by session -/

namespace Qts

open Dict StepRuns

/-- One call of the calculator. -/
structure PnlCompute where
  sessionId : String
  holdings : Dict InstrumentId Holding
  marks : DecimalMap
  multipliers : DecimalMap

namespace PnlCompute

def realized (call : PnlCompute) (instrumentId : InstrumentId) : Decimal :=
  ((call.holdings.get? instrumentId).map (·.realizedPnl)).getD 0

def unrealized (call : PnlCompute) : Decimal :=
  call.holdings.keyedTotal (IntradayPnlCalculator.unrealizedAtMark call.marks call.multipliers)

def opening (history : List PnlCompute) (call : PnlCompute) : PnlCompute :=
  (history.find? fun earlier => earlier.sessionId = call.sessionId).getD call

def reentry (history : List PnlCompute) (call : PnlCompute) : PnlCompute :=
  (history.reverse.takeWhile fun earlier => earlier.sessionId = call.sessionId).getLast?.getD call

def sessionPnl (history : List PnlCompute) (call : PnlCompute) : Decimal :=
  (call.holdings.keyedTotal fun instrumentId holding =>
    holding.realizedPnl - (opening history call).realized instrumentId) + call.unrealized

def realizedBetween (earlier later call : PnlCompute) : Decimal :=
  call.holdings.keyedTotal fun instrumentId _ =>
    later.realized instrumentId - earlier.realized instrumentId

theorem reentry_snoc (history : List PnlCompute) (last call : PnlCompute) :
    reentry (history ++ [last]) call =
      if last.sessionId = call.sessionId then reentry history last else call := by
  rw [reentry, List.reverse_append, List.reverse_singleton, List.singleton_append,
    List.takeWhile_cons]
  by_cases same : last.sessionId = call.sessionId
  · simp only [same, decide_true, if_true, List.getLast?_cons, Option.getD_some, reentry]
  · simp [same]

end PnlCompute

namespace IntradayPnlCalculator

open PnlCompute

def step : Step IntradayPnlCalculator PnlCompute Decimal := fun calculator call =>
  calculator.compute call.sessionId call.holdings call.marks call.multipliers

theorem inSession_reentry (history : List PnlCompute) (call : PnlCompute) :
    (final step {} history).inSession call.sessionId call.holdings =
      startSession call.sessionId (reentry history call).holdings := by
  induction history using List.reverseRecOn generalizing call with
  | nil => rfl
  | append_singleton history last ih =>
    have window : final step {} (history ++ [last]) =
        startSession last.sessionId (reentry history last).holdings := by
      rw [final_append, final_cons, final_nil]
      exact ih last
    rw [window, reentry_snoc, inSession]
    by_cases same : last.sessionId = call.sessionId
    · rw [if_pos same, ← same, startSession, if_neg (by simp)]
    · have changed : some call.sessionId ≠
          (startSession last.sessionId (reentry history last).holdings).sessionId := by
        intro equal
        exact same (Option.some.inj equal).symm
      rw [if_neg same, if_pos changed]

theorem realizedSinceOpen_startSession (sessionId : String) (call : PnlCompute)
    (instrumentId : InstrumentId) (holding : Holding) :
    (startSession sessionId call.holdings).realizedSinceOpen instrumentId holding =
      holding.realizedPnl - call.realized instrumentId := by
  rw [realizedSinceOpen, startSession, get?_ofItems_map call.holdings (·.realizedPnl), realized]

theorem step_answer (history : List PnlCompute) (call : PnlCompute) :
    (step (final step {} history) call).1 =
      (call.holdings.keyedTotal fun instrumentId holding =>
        holding.realizedPnl - (reentry history call).realized instrumentId) +
        call.unrealized := by
  rw [step, compute, inSession_reentry]
  simp only [realizedSinceOpen_startSession]
  rfl

/-- After any calls the answer is the profit of the session exactly when nothing was realized, on
balance, between the first call of the session and its re-entry. -/
theorem session_pnl_iff (history : List PnlCompute) (call : PnlCompute) :
    (step (final step {} history) call).1 = sessionPnl history call ↔
      realizedBetween (opening history call) (reentry history call) call = 0 := by
  have difference : (call.holdings.keyedTotal fun instrumentId holding =>
        holding.realizedPnl - (opening history call).realized instrumentId) =
      (call.holdings.keyedTotal fun instrumentId holding =>
        holding.realizedPnl - (reentry history call).realized instrumentId) +
        realizedBetween (opening history call) (reentry history call) call := by
    refine keyedTotal_add fun instrumentId => ?_
    simp only [weightAt]
    cases call.holdings.get? instrumentId with
    | none => simp
    | some holding =>
      simp only [Option.map_some, Option.getD_some]
      ring
  rw [step_answer, sessionPnl, difference, add_left_inj, left_eq_add]

def realizedCall (sessionId : String) (realizedPnl : Decimal) : PnlCompute where
  sessionId := sessionId
  holdings := .ofItems [(HoldingBook.unitInstrument, {
    instrumentId := HoldingBook.unitInstrument
    quantity := 0
    averageCost := 0
    realizedPnl })]
  marks := .empty
  multipliers := .empty

/-- One session loses a hundred, another session is computed, and the loss is gone. -/
theorem interleaved_loss_forgotten :
    ¬ ∀ (history : List PnlCompute) (call : PnlCompute),
      (step (final step {} history) call).1 = sessionPnl history call := by
  intro measured
  have lost := measured [realizedCall "COMEX:2026-01-02" 0, realizedCall "CME:2026-01-02" (-100)]
    (realizedCall "COMEX:2026-01-02" (-100))
  revert lost
  decide +kernel

end IntradayPnlCalculator

end Qts
