import Qts.RiskState
import Qts.ValidationGates

/-! # The robustness of walk-forward evidence -/

namespace Qts

open EvidenceValue List

/-- The finite decimal that the text of a value denotes, if it does, and the text of a decimal. -/
structure MetricTexts where
  decimalOf : EvidenceValue → Option Decimal
  str : Decimal → String

variable (texts : MetricTexts)

def MetricTexts.optionalDecimal : Option EvidenceValue → Option Decimal
  | none | some .null => none
  | some value => texts.decimalOf value

structure WalkForwardRobustnessMetrics where
  losingWindowCount : Nat
  totalPnlUsd : Decimal
  windowCount : Nat
  minWindowPnlUsd : Option Decimal
  minWindowBestObjective : Option Decimal

structure WalkForwardRobustnessDecision where
  accepted : Bool
  metrics : WalkForwardRobustnessMetrics
  reasons : List String

structure WalkForwardRobustnessPolicy where
  phases : List String := ["test"]
  minWindows : Option Nat := none
  maxLosingWindows : Option Nat := none
  minWindowPnlUsd : Option Decimal := none
  minWindowBestObjective : Option Decimal := none
  minTotalPnlUsd : Option Decimal := none

def acceptedRuns (window : Evidence) : List Evidence :=
  windows (window.lookup "accepted_runs")

def windowPnl (window : Evidence) : Option Decimal :=
  let values := (acceptedRuns window).filterMap fun run =>
    (mapping (run.lookup "capital_metrics")).bind fun metrics =>
      texts.optionalDecimal (metrics.lookup "pnl_usd")
  if values = [] then none else some values.sum

def windowBestObjective (window : Evidence) : Option Decimal :=
  ((acceptedRuns window).filterMap fun run =>
    texts.optionalDecimal (run.lookup "objective_value")).max?

/-- The objection to a least value that is missing or below its floor. -/
def floorReasons (name : String) (least floor : Option Decimal) : List String :=
  match floor with
  | none => []
  | some floor =>
    reasonIf (least.all fun least => decide (least < floor))
      (name ++ "=" ++ (if least.getD 0 = 0 then "0" else texts.str (least.getD 0)) ++
        " failed >= " ++ texts.str floor)

namespace WalkForwardRobustnessPolicy

variable (policy : WalkForwardRobustnessPolicy)

def selects (window : Evidence) : Bool :=
  match window.lookup "phase" with
  | some (.string phase) => decide (phase ∈ policy.phases)
  | _ => false

def metricsOf (windowPnls windowObjectives : List (Option Decimal)) :
    WalkForwardRobustnessMetrics where
  losingWindowCount := windowPnls.countP fun pnl => pnl.any fun pnl => decide (pnl < 0)
  totalPnlUsd := (windowPnls.filterMap fun pnl => pnl).sum
  windowCount := windowPnls.length
  minWindowPnlUsd := (windowPnls.map (·.getD 0)).min?
  minWindowBestObjective := (windowObjectives.map (·.getD 0)).min?

def reasonsAgainst (metrics : WalkForwardRobustnessMetrics) : List String :=
  policy.minWindows.toList.flatMap (fun least =>
    reasonIf (decide (metrics.windowCount < least))
      ("window_count=" ++ toString metrics.windowCount ++ " failed >= " ++ toString least)) ++
  policy.maxLosingWindows.toList.flatMap (fun most =>
    reasonIf (decide (most < metrics.losingWindowCount))
      ("losing_window_count=" ++ toString metrics.losingWindowCount ++ " failed <= " ++
        toString most)) ++
  floorReasons texts "min_window_pnl_usd" metrics.minWindowPnlUsd policy.minWindowPnlUsd ++
  floorReasons texts "min_window_best_objective" metrics.minWindowBestObjective
    policy.minWindowBestObjective ++
  policy.minTotalPnlUsd.toList.flatMap fun floor =>
    reasonIf (decide (metrics.totalPnlUsd < floor))
      ("total_pnl_usd=" ++ texts.str metrics.totalPnlUsd ++ " failed >= " ++ texts.str floor)

def evaluate (windows : List Evidence) : WalkForwardRobustnessDecision :=
  let selected := windows.filter policy.selects
  let metrics := metricsOf (selected.map (windowPnl texts))
    (selected.map (windowBestObjective texts))
  let reasons := policy.reasonsAgainst texts metrics
  { accepted := reasons.isEmpty, metrics, reasons }

end WalkForwardRobustnessPolicy

/-- What is removed of the accepted runs of a window: the runs, or one field of each. -/
inductive Erasure
  | acceptedRuns
  | capitalMetrics
  | objectiveValues
deriving DecidableEq

def without (name : String) (fields : Evidence) : Evidence :=
  fields.filter fun field => field.1 ≠ name

theorem lookup_without (name key : String) (fields : Evidence) :
    (without name fields).lookup key = if key = name then none else fields.lookup key :=
  Dict.lookup_filter_ne name key fields

namespace Erasure

def runs : Erasure → List Evidence → List Evidence
  | acceptedRuns, _ => []
  | capitalMetrics, runs => runs.map (without "capital_metrics")
  | objectiveValues, runs => runs.map (without "objective_value")

def apply (erasure : Erasure) (window : Evidence) : Evidence :=
  ("accepted_runs", .array ((erasure.runs (Qts.acceptedRuns window)).map .object)) ::
    without "accepted_runs" window

variable (erasure : Erasure) (window : Evidence)

theorem acceptedRuns_apply :
    Qts.acceptedRuns (erasure.apply window) = erasure.runs (Qts.acceptedRuns window) := by
  simp [Qts.acceptedRuns, apply, windows, EvidenceValue.sequence, mapping, filterMap_map]

theorem lookup_phase_apply : (erasure.apply window).lookup "phase" = window.lookup "phase" := by
  simp [apply, lookup_cons, lookup_without]

theorem windowPnl_apply :
    windowPnl texts (erasure.apply window) =
      if erasure = objectiveValues then windowPnl texts window else none := by
  unfold windowPnl
  rw [acceptedRuns_apply]
  cases erasure with
  | acceptedRuns => simp [runs]
  | capitalMetrics => simp [runs, lookup_without, mapping]
  | objectiveValues => simp [runs, lookup_without, filterMap_map]

theorem windowBestObjective_apply :
    windowBestObjective texts (erasure.apply window) =
      if erasure = capitalMetrics then windowBestObjective texts window else none := by
  unfold windowBestObjective
  rw [acceptedRuns_apply]
  cases erasure with
  | acceptedRuns => simp [runs]
  | capitalMetrics => simp [runs, lookup_without, filterMap_map]
  | objectiveValues =>
    simp [runs, lookup_without, filterMap_map, MetricTexts.optionalDecimal]

end Erasure

namespace WalkForwardRobustnessPolicy

variable {policy : WalkForwardRobustnessPolicy}

/-- No value lies below a floor, if there is one, and then there are values. -/
def MeetsFloor (floor : Option Decimal) (values : List Decimal) : Prop :=
  ∀ least ∈ floor, values ≠ [] ∧ ∀ value ∈ values, least ≤ value

variable {before after others rest : List Decimal} {value better objective higher : Decimal}

theorem MeetsFloor.mono {floor : Option Decimal}
    (meets : MeetsFloor floor (before ++ value :: after)) (gains : value ≤ better) :
    MeetsFloor floor (before ++ better :: after) := by
  intro least asked
  refine ⟨by simp, fun other mem => ?_⟩
  have each := (meets least asked).2
  rcases mem_append.mp mem with early | late
  · exact each other (by simp [early])
  · rcases mem_cons.mp late with rfl | late
    · exact (each value (by simp)).trans gains
    · exact each other (by simp [late])

structure Clears (policy : WalkForwardRobustnessPolicy) (pnls objectives : List Decimal) :
    Prop where
  windows : ∀ least ∈ policy.minWindows, least ≤ pnls.length
  losing : ∀ most ∈ policy.maxLosingWindows, pnls.countP (fun pnl => decide (pnl < 0)) ≤ most
  pnl : MeetsFloor policy.minWindowPnlUsd pnls
  objective : MeetsFloor policy.minWindowBestObjective objectives
  total : ∀ floor ∈ policy.minTotalPnlUsd, floor ≤ pnls.sum

theorem Clears.mono
    (clears : policy.Clears (before ++ value :: after) (others ++ objective :: rest))
    (gains : value ≤ better) (rises : objective ≤ higher) :
    policy.Clears (before ++ better :: after) (others ++ higher :: rest) where
  windows := by simpa using clears.windows
  losing := by
    intro most asked
    have losing := clears.losing most asked
    simp only [countP_append, countP_cons, decide_eq_true_eq] at losing ⊢
    by_cases lost : better < 0
    · rw [if_pos (gains.trans_lt lost)] at losing
      simpa [lost] using losing
    · rw [if_neg lost]
      omega
  pnl := clears.pnl.mono gains
  objective := clears.objective.mono rises
  total := by
    intro floor asked
    have total := clears.total floor asked
    simp only [sum_append, sum_cons] at total ⊢
    exact total.trans (by gcongr)

variable (windowPnls windowObjectives : List (Option Decimal))

/-- The metrics count an absent value as zero. -/
theorem metricsOf_shown :
    metricsOf windowPnls windowObjectives =
      metricsOf ((windowPnls.map (·.getD 0)).map some)
        ((windowObjectives.map (·.getD 0)).map some) := by
  have losing : ∀ pnl : Option Decimal,
      (pnl.any fun pnl => decide (pnl < 0)) = decide (pnl.getD 0 < 0) := by
    rintro (- | pnl) <;> simp
  have total : (windowPnls.filterMap fun pnl => pnl).sum = (windowPnls.map (·.getD 0)).sum := by
    induction windowPnls with
    | nil => rfl
    | cons pnl pnls ih => cases pnl <;> simp [ih]
  simp [metricsOf, countP_map, filterMap_map, Function.comp_def, losing, total]

theorem floorReasons_eq_nil_iff (name : String) (values : List Decimal) (floor : Option Decimal) :
    floorReasons texts name values.min? floor = [] ↔ MeetsFloor floor values := by
  cases floor with
  | none => simp [floorReasons, MeetsFloor]
  | some floor =>
    simp only [floorReasons, reasonIf_eq_nil_iff, MeetsFloor, Option.mem_some_iff, forall_eq']
    cases found : values.min? with
    | none => simp [min?_eq_none_iff.mp found]
    | some least =>
      obtain ⟨mem, lowest⟩ := min?_eq_some_iff.mp found
      simp only [Option.all_some, decide_eq_false_iff_not, not_lt]
      constructor
      · intro above
        exact ⟨ne_nil_of_mem mem, fun value inside => above.trans (lowest value inside)⟩
      · rintro ⟨-, each⟩
        exact each least mem

theorem reasonsAgainst_eq_nil_iff :
    policy.reasonsAgainst texts (metricsOf windowPnls windowObjectives) = [] ↔
      policy.Clears (windowPnls.map (·.getD 0)) (windowObjectives.map (·.getD 0)) := by
  rw [metricsOf_shown]
  generalize windowPnls.map (·.getD 0) = pnls
  generalize windowObjectives.map (·.getD 0) = objectives
  simp [reasonsAgainst, metricsOf, floorReasons_eq_nil_iff, reasonIf_eq_nil_iff,
    countP_map, filterMap_map, Function.comp_def]
  constructor
  · rintro ⟨windows, losing, pnl, objective, total⟩
    exact ⟨windows, losing, pnl, objective, total⟩
  · rintro ⟨windows, losing, pnl, objective, total⟩
    exact ⟨windows, losing, pnl, objective, total⟩

theorem evaluate_accepted_iff (windows : List Evidence) :
    (policy.evaluate texts windows).accepted = true ↔
      policy.Clears ((windows.filter policy.selects).map fun window =>
          (windowPnl texts window).getD 0)
        ((windows.filter policy.selects).map fun window =>
          (windowBestObjective texts window).getD 0) := by
  have nil := @reasonsAgainst_eq_nil_iff texts policy
    ((windows.filter policy.selects).map (windowPnl texts))
    ((windows.filter policy.selects).map (windowBestObjective texts))
  rw [map_map, map_map] at nil
  rw [evaluate, List.isEmpty_iff]
  exact nil

theorem selects_congr {window other : Evidence}
    (phase : other.lookup "phase" = window.lookup "phase") :
    policy.selects other = policy.selects window := by
  rw [selects, selects, phase]

/-- Erasing evidence that does not speak against a window never makes a policy accept, and a
window without PnL evidence counts as one with a PnL of zero. -/
theorem evaluate_erased (earlier later : List Evidence) (window : Evidence)
    (erasure : Erasure) :
    ((policy.evaluate texts (earlier ++ window :: later)).accepted = false →
      (erasure ≠ .objectiveValues → ∀ pnl ∈ windowPnl texts window, 0 ≤ pnl) →
      (erasure ≠ .capitalMetrics → ∀ objective ∈ windowBestObjective texts window, 0 ≤ objective) →
      (policy.evaluate texts (earlier ++ erasure.apply window :: later)).accepted = false) ∧
    ∀ other : Evidence, other.lookup "phase" = window.lookup "phase" →
      windowPnl texts window = none → windowPnl texts other = some 0 →
      windowBestObjective texts other = windowBestObjective texts window →
      policy.evaluate texts (earlier ++ other :: later) =
        policy.evaluate texts (earlier ++ window :: later) := by
  constructor
  · intro rejected gain rise
    by_contra accepted
    rw [Bool.not_eq_false, evaluate_accepted_iff] at accepted
    rw [← Bool.not_eq_true, evaluate_accepted_iff] at rejected
    apply rejected
    have same := @selects_congr policy _ _ (erasure.lookup_phase_apply window)
    have gains : ((windowPnl texts (erasure.apply window)).getD 0) ≤
        (windowPnl texts window).getD 0 := by
      rw [erasure.windowPnl_apply]
      split
      · exact le_rfl
      · next removed =>
        cases found : windowPnl texts window with
        | none => exact le_rfl
        | some pnl => exact gain removed pnl found
    have rises : ((windowBestObjective texts (erasure.apply window)).getD 0) ≤
        (windowBestObjective texts window).getD 0 := by
      rw [erasure.windowBestObjective_apply]
      split
      · exact le_rfl
      · next removed =>
        cases found : windowBestObjective texts window with
        | none => exact le_rfl
        | some objective => exact rise removed objective found
    by_cases selected : policy.selects window = true
    · simp only [filter_append, filter_cons, same, selected, if_true, map_append,
        map_cons] at accepted ⊢
      exact accepted.mono gains rises
    · simpa [filter_cons, same, selected] using accepted
  · intro other phase absent zero objective
    have same := @selects_congr policy _ _ phase
    unfold evaluate
    dsimp only
    rw [metricsOf_shown, metricsOf_shown (((earlier ++ window :: later).filter _).map _)]
    by_cases selected : policy.selects window = true
    · simp [same, selected, absent, zero, objective]
    · simp [same, selected]

/-- Texts of whole numbers, and a window with one run of such a PnL. -/
def wholeTexts : MetricTexts where
  decimalOf
    | .int value => some value
    | _ => none
  str value := toString value

def wholeWindow (pnl : Int) : Evidence :=
  [("phase", .string "test"),
    ("accepted_runs", .array [.object [("capital_metrics", .object [("pnl_usd", .int pnl)])]])]

theorem evaluate_erased_gain : (evaluate wholeTexts { minTotalPnlUsd := some 100 }
      ([wholeWindow 30] ++ Erasure.acceptedRuns.apply (wholeWindow 50) :: [])).accepted = false :=
  (evaluate_erased wholeTexts [wholeWindow 30] [] (wholeWindow 50) .acceptedRuns).1
      (by decide +kernel)
    (by decide +kernel) (by decide +kernel)

/-- Without its PnL a losing window loses no longer. -/
theorem erased_loss_accepted :
    (evaluate wholeTexts { maxLosingWindows := some 0 } [wholeWindow (-50)]).accepted = false ∧
      (evaluate wholeTexts { maxLosingWindows := some 0 }
        [Erasure.capitalMetrics.apply (wholeWindow (-50))]).accepted = true := by
  decide +kernel

end WalkForwardRobustnessPolicy

end Qts
