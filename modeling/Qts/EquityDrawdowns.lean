import Mathlib.Algebra.Order.Field.Basic
import Qts.BacktestStatistics

/-! # Drawdowns of an equity curve -/

namespace Qts

open StatisticsBuilder List

section Drawdowns

variable {Amount : Type} {curve : List Amount} {value peak deepest : Amount}

theorem isGreatest_concat [LinearOrder Amount] (highest : IsGreatest { point | point ∈ curve } peak)
    (value : Amount) : IsGreatest { point | point ∈ curve ++ [value] } (max peak value) := by
  constructor
  · rcases max_choice peak value with greater | greater
    · rw [greater]
      exact mem_append_left [value] highest.1
    · simp [greater]
  · intro point mem
    rcases mem_append.mp mem with mem | mem
    · exact (highest.2 mem).trans (le_max_left peak value)
    · obtain rfl := mem_singleton.mp mem
      exact le_max_right peak point

variable [Field Amount]

/-- The relative losses from each point of a curve to itself and to each later one. -/
def drawdowns (curve : List Amount) : Set Amount :=
  { loss | ∃ (i j : Nat) (before after : Amount), i ≤ j ∧ curve[i]? = some before ∧
    curve[j]? = some after ∧ (before - after) / before = loss }

theorem mem_drawdowns_concat {loss : Amount} :
    loss ∈ drawdowns (curve ++ [value]) ↔
      loss ∈ drawdowns curve ∨ ∃ point ∈ curve ++ [value], (point - value) / point = loss := by
  constructor
  · rintro ⟨i, j, before, after, ordered, found, reached, rfl⟩
    by_cases inside : j < curve.length
    · left
      rw [getElem?_append_left (by omega)] at found
      rw [getElem?_append_left inside] at reached
      exact ⟨i, j, before, after, ordered, found, reached, rfl⟩
    · right
      have last : after = value := by
        rw [getElem?_append_right (by omega)] at reached
        simpa using mem_of_getElem? reached
      exact ⟨before, mem_of_getElem? found, last ▸ rfl⟩
  · rintro (⟨i, j, before, after, ordered, found, reached, rfl⟩ | ⟨point, mem, rfl⟩)
    · refine ⟨i, j, before, after, ordered, ?_, ?_, rfl⟩
      · rw [getElem?_append_left (List.getElem?_eq_some_iff.mp found).1, found]
      · rw [getElem?_append_left (List.getElem?_eq_some_iff.mp reached).1, reached]
    · obtain ⟨i, inside, rfl⟩ := mem_iff_getElem.mp mem
      have bounded : i ≤ curve.length := by
        simp at inside
        omega
      exact ⟨i, curve.length, _, value, bounded, getElem?_eq_getElem inside, by simp, rfl⟩

theorem isGreatest_drawdowns_concat [LinearOrder Amount] [IsStrictOrderedRing Amount]
    (pos : ∀ point ∈ curve ++ [value], 0 < point)
    (highest : IsGreatest { point | point ∈ curve ++ [value] } peak)
    (deep : IsGreatest (drawdowns curve) deepest) :
    IsGreatest (drawdowns (curve ++ [value])) (max deepest ((peak - value) / peak)) := by
  constructor
  · rw [mem_drawdowns_concat]
    rcases max_choice deepest ((peak - value) / peak) with greater | greater
    · exact .inl (greater.symm ▸ deep.1)
    · exact .inr ⟨peak, highest.1, greater.symm⟩
  · intro loss found
    rcases mem_drawdowns_concat.mp found with earlier | ⟨point, mem, rfl⟩
    · exact (deep.2 earlier).trans (le_max_left _ _)
    · apply le_max_of_le_right
      have above : 0 < point := pos point mem
      have below : point ≤ peak := highest.2 mem
      have rises : value / peak ≤ value / point :=
        div_le_div_of_nonneg_left (pos value (by simp)).le above below
      rw [sub_div, sub_div, div_self above.ne', div_self (above.trans_le below).ne']
      exact sub_le_sub_left rises 1

end Drawdowns

structure StreamingEquityMetrics where
  points : Nat := 0
  first : Option Decimal := none
  last : Option Decimal := none
  peak : Decimal := 0
  maxDrawdown : Decimal := 0

structure EquityMetricsPayload where
  points : Nat
  totalReturn : Decimal
  maxDrawdown : Decimal

namespace StreamingEquityMetrics

def startCurve (metrics : StreamingEquityMetrics) (equity : Decimal) :
    Except String StreamingEquityMetrics :=
  match metrics.first with
  | some _ => .ok metrics
  | none =>
    if equity = 0 then .error "first equity value must not be zero"
    else .ok { metrics with first := some equity, peak := equity }

def trackDrawdown (metrics : StreamingEquityMetrics) (equity : Decimal) :
    StreamingEquityMetrics :=
  let peak := if metrics.peak < equity then equity else metrics.peak
  { metrics with
    peak
    maxDrawdown :=
      if peak = 0 then metrics.maxDrawdown
      else max metrics.maxDrawdown ((peak - equity) / peak) }

def update (metrics : StreamingEquityMetrics) (equity : Decimal) :
    Except String StreamingEquityMetrics := do
  let started ← metrics.startCurve equity
  let drawn := started.trackDrawdown equity
  return { drawn with last := some equity, points := drawn.points + 1 }

def toPayload (metrics : StreamingEquityMetrics) : Except String EquityMetricsPayload :=
  match metrics.first, metrics.last with
  | some first, some last =>
    .ok ⟨metrics.points, (last - first) / first, metrics.maxDrawdown⟩
  | _, _ => .error "equity curve must not be empty"

end StreamingEquityMetrics

variable {builder started : StatisticsBuilder} {metrics opened : StreamingEquityMetrics}
  {curve : List Decimal} {equity first : Decimal}

theorem StatisticsBuilder.startCurve_started (isFirst : builder.first = some first) :
    builder.startCurve equity = .ok builder := by
  simp [startCurve, isFirst]

/-- What the fold makes of a value: the new peak and the deepest loss from it. -/
theorem StatisticsBuilder.onEquityPoint_started (begun : builder.startCurve equity = .ok started)
    (isFirst : started.first = some first) (nonneg : 0 ≤ started.maxDrawdown)
    (defined : equity < 0 → started.peak ≠ 0) :
    ∃ after, builder.onEquityPoint equity = .ok after ∧ after.first = some first ∧
      after.last = some equity ∧ after.peak = max started.peak equity ∧
      after.maxDrawdown = max started.maxDrawdown
        ((max started.peak equity - equity) / max started.peak equity) := by
  have kept : ((started.trackReturn equity).countOccupied).peak = started.peak ∧
      ((started.trackReturn equity).countOccupied).maxDrawdown = started.maxDrawdown ∧
      ((started.trackReturn equity).countOccupied).first = some first := by
    unfold countOccupied trackReturn
    split
    · simp [isFirst]
    · split <;> simp [isFirst]
  obtain ⟨peak, deepest, same⟩ := kept
  unfold onEquityPoint
  rw [begun]
  change ∃ after, (trackDrawdown _ equity >>= _) = _ ∧ _
  unfold trackDrawdown
  rw [peak, deepest]
  by_cases risen : started.peak ≤ equity
  · rw [if_pos risen]
    refine ⟨_, rfl, same, rfl, (max_eq_right risen).symm, ?_⟩
    simp [max_eq_right risen, nonneg]
  · have nonzero : started.peak ≠ 0 := by
      intro zero
      exact defined (by simpa [zero] using risen) zero
    have fallen : max started.peak equity = started.peak := max_eq_left (le_of_not_ge risen)
    rw [if_neg risen, if_neg nonzero]
    refine ⟨_, rfl, same, rfl, fallen.symm, ?_⟩
    simp [fallen]

theorem StatisticsBuilder.onEquityPoint_zero_peak (isFirst : builder.first = some first)
    (negative : equity < 0) (zero : builder.peak = 0) (after : StatisticsBuilder) :
    builder.onEquityPoint equity ≠ .ok after := by
  have peak : ((builder.trackReturn equity).countOccupied).peak = 0 := by
    unfold countOccupied trackReturn
    split
    · exact zero
    · split <;> exact zero
  have divides : ((builder.trackReturn equity).countOccupied).trackDrawdown equity =
      .error "division by zero" := by
    simp [trackDrawdown, peak, negative]
  unfold onEquityPoint
  rw [startCurve_started isFirst]
  change (trackDrawdown _ equity >>= _) ≠ _
  rw [divides]
  rintro ⟨⟩

theorem StreamingEquityMetrics.startCurve_started (isFirst : metrics.first = some first) :
    metrics.startCurve equity = .ok metrics := by
  simp [startCurve, isFirst]

theorem StreamingEquityMetrics.update_started (begun : metrics.startCurve equity = .ok opened)
    (isFirst : opened.first = some first) (nonneg : 0 ≤ opened.maxDrawdown) :
    ∃ after, metrics.update equity = .ok after ∧ after.first = some first ∧
      after.last = some equity ∧ after.peak = max opened.peak equity ∧
      after.maxDrawdown = max opened.maxDrawdown
        ((max opened.peak equity - equity) / max opened.peak equity) := by
  have higher : (if opened.peak < equity then equity else opened.peak) =
      max opened.peak equity := by
    split
    · next risen => exact (max_eq_right risen.le).symm
    · next level => exact (max_eq_left (le_of_not_gt level)).symm
  unfold update
  rw [begun]
  refine ⟨_, rfl, isFirst, rfl, higher, ?_⟩
  change (trackDrawdown opened equity).maxDrawdown = _
  simp only [trackDrawdown, higher]
  split
  · next zero => simp [zero, nonneg]
  · rfl

/-- Both folds have read a curve and agree on its peak and its deepest loss. -/
structure DrawnAlike (curve : List Decimal) (builder : StatisticsBuilder)
    (metrics : StreamingEquityMetrics) : Prop where
  builderStarted : ∃ first last, builder.first = some first ∧ builder.last = some last
  metricsStarted : ∃ first last, metrics.first = some first ∧ metrics.last = some last
  peak : metrics.peak = builder.peak
  drawdown : metrics.maxDrawdown = builder.maxDrawdown
  nonneg : 0 ≤ builder.maxDrawdown
  highest : IsGreatest { point | point ∈ curve } builder.peak
  deepest : (∀ point ∈ curve, 0 < point) → IsGreatest (drawdowns curve) builder.maxDrawdown

theorem DrawnAlike.start (nonzero : first ≠ 0) :
    ∃ builder metrics, onEquityPoint {} first = .ok builder ∧
      StreamingEquityMetrics.update {} first = .ok metrics ∧
      DrawnAlike [first] builder metrics := by
  have begun : startCurve {} first =
      .ok { first := some first, peak := first } := by
    simp [startCurve, nonzero]
  have opened : StreamingEquityMetrics.startCurve {} first =
      .ok { first := some first, peak := first } := by
    simp [StreamingEquityMetrics.startCurve, nonzero]
  have level : drawdowns [first] = {0} := by
    ext loss
    have := @mem_drawdowns_concat Decimal [] first _ loss
    simpa [drawdowns, eq_comm] using this
  obtain ⟨builder, drawn, started, seen, peak, deepest⟩ :=
    onEquityPoint_started begun rfl le_rfl fun _ => nonzero
  obtain ⟨metrics, updated, opened, read, top, drawdown⟩ :=
    StreamingEquityMetrics.update_started opened rfl le_rfl
  simp only [max_self, sub_self, zero_div] at peak deepest top drawdown
  refine ⟨builder, metrics, drawn, updated, ⟨first, first, started, seen⟩,
    ⟨first, first, opened, read⟩, top.trans peak.symm, drawdown.trans deepest.symm,
    deepest.ge, ?_, ?_⟩
  · simp [peak, IsGreatest, upperBounds]
  · intro _
    simp [level, deepest]

theorem DrawnAlike.next (alike : DrawnAlike curve builder metrics)
    (defined : equity < 0 → builder.peak ≠ 0) :
    ∃ builderAfter metricsAfter, builder.onEquityPoint equity = .ok builderAfter ∧
      metrics.update equity = .ok metricsAfter ∧
      DrawnAlike (curve ++ [equity]) builderAfter metricsAfter := by
  obtain ⟨first, _, builderFirst, _⟩ := alike.builderStarted
  obtain ⟨opening, _, metricsFirst, _⟩ := alike.metricsStarted
  obtain ⟨builderAfter, drawn, started, seen, peak, deepest⟩ :=
    onEquityPoint_started (startCurve_started builderFirst)
      builderFirst alike.nonneg defined
  obtain ⟨metricsAfter, updated, opened, read, top, drawdown⟩ :=
    @StreamingEquityMetrics.update_started metrics metrics equity opening
      (StreamingEquityMetrics.startCurve_started metricsFirst) metricsFirst
      (alike.drawdown.symm ▸ alike.nonneg)
  rw [alike.peak] at top
  rw [alike.drawdown, alike.peak] at drawdown
  have highest : IsGreatest { point | point ∈ curve ++ [equity] } builderAfter.peak :=
    peak ▸ isGreatest_concat alike.highest equity
  refine ⟨builderAfter, metricsAfter, drawn, updated, ⟨first, equity, started, seen⟩,
    ⟨opening, equity, opened, read⟩, top.trans peak.symm, drawdown.trans deepest.symm, ?_,
    highest, ?_⟩
  · exact deepest ▸ alike.nonneg.trans (le_max_left _ _)
  · intro pos
    rw [deepest, ← peak]
    apply isGreatest_drawdowns_concat pos highest
    exact alike.deepest fun point mem => pos point (mem_append_left _ mem)

/-- Neither fold of a curve raises, both report one deepest loss, and on a positive curve it is the
greatest of all losses. -/
def DrawdownsAgree (curve : List Decimal) (tradingBars : Int) : Prop :=
  ∃ builder metrics statistics payload,
    curve.foldlM onEquityPoint {} = .ok builder ∧
    curve.foldlM StreamingEquityMetrics.update {} = .ok metrics ∧
    builder.finalize tradingBars = .ok statistics ∧ metrics.toPayload = .ok payload ∧
    statistics.maxDrawdown = payload.maxDrawdown ∧
    ((∀ equity ∈ curve, 0 < equity) → IsGreatest (drawdowns curve) payload.maxDrawdown)

theorem DrawnAlike.agree (alike : DrawnAlike curve builder metrics)
    (drawn : curve.foldlM onEquityPoint {} = .ok builder)
    (updated : curve.foldlM StreamingEquityMetrics.update {} = .ok metrics) (tradingBars : Int) :
    DrawdownsAgree curve tradingBars := by
  obtain ⟨first, last, isFirst, isLast⟩ := alike.builderStarted
  obtain ⟨opening, closing, opens, closes⟩ := alike.metricsStarted
  have finalized : ∃ statistics, builder.finalize tradingBars = .ok statistics ∧
      statistics.maxDrawdown = builder.maxDrawdown := by
    simp [finalize, isFirst, isLast]
  have reported : ∃ payload, metrics.toPayload = .ok payload ∧
      payload.maxDrawdown = metrics.maxDrawdown := by
    simp [StreamingEquityMetrics.toPayload, opens, closes]
  obtain ⟨statistics, finalizes, deepest⟩ := finalized
  obtain ⟨payload, reports, drawdown⟩ := reported
  rw [← alike.drawdown, ← drawdown] at deepest
  refine ⟨builder, metrics, statistics, payload, drawn, updated, finalizes, reports, deepest, ?_⟩
  intro pos
  rw [drawdown, alike.drawdown]
  exact alike.deepest pos

/-- No value of a curve lies below zero while the highest before it is zero. -/
def NeverBelowZeroPeak (curve : List Decimal) : Prop :=
  ∀ earlier equity later, curve = earlier ++ equity :: later → equity < 0 →
    ¬ IsGreatest { point | point ∈ earlier } 0

theorem neverBelowZeroPeak_concat :
    NeverBelowZeroPeak (curve ++ [equity]) ↔
      NeverBelowZeroPeak curve ∧ (equity < 0 → ¬ IsGreatest { point | point ∈ curve } 0) := by
  constructor
  · intro never
    refine ⟨?_, never curve equity [] rfl⟩
    rintro earlier lower later rfl
    exact never earlier lower (later ++ [equity]) (by simp)
  · rintro ⟨never, last⟩ earlier lower later split
    rcases eq_nil_or_concat' later with rfl | ⟨later, final, rfl⟩
    · obtain ⟨rfl, same⟩ := append_inj' split rfl
      obtain rfl : equity = lower := by simpa using same
      exact last
    · rw [← cons_append, ← append_assoc] at split
      exact never earlier lower later (append_inj' split rfl).1

section Curves

variable (nonzero : first ≠ 0) (rest : List Decimal)

include nonzero

theorem DrawnAlike.run (never : NeverBelowZeroPeak (first :: rest)) :
    ∃ builder metrics,
      (first :: rest).foldlM onEquityPoint {} = .ok builder ∧
      (first :: rest).foldlM StreamingEquityMetrics.update {} = .ok metrics ∧
      DrawnAlike (first :: rest) builder metrics := by
  induction rest using reverseRecOn with
  | nil =>
    obtain ⟨builder, metrics, drawn, updated, alike⟩ := DrawnAlike.start nonzero
    exact ⟨builder, metrics, by simp [drawn], by simp [updated], alike⟩
  | append_singleton rest equity ih =>
    rw [← cons_append] at never ⊢
    obtain ⟨before, last⟩ := neverBelowZeroPeak_concat.mp never
    obtain ⟨builder, metrics, drawn, updated, alike⟩ := ih before
    obtain ⟨builderAfter, metricsAfter, draws, updates, after⟩ :=
      alike.next fun negative zero => last negative (zero ▸ alike.highest)
    refine ⟨builderAfter, metricsAfter, ?_, ?_, after⟩
    · simp only [foldlM_append, drawn, foldlM_cons, foldlM_nil, bind_pure]
      exact draws
    · simp only [foldlM_append, updated, foldlM_cons, foldlM_nil, bind_pure]
      exact updates

theorem NeverBelowZeroPeak.of_run (drawn : (first :: rest).foldlM onEquityPoint {} = .ok builder) :
    NeverBelowZeroPeak (first :: rest) := by
  induction rest using reverseRecOn generalizing builder with
  | nil =>
    intro earlier equity later split _ highest
    cases earlier with
    | nil => exact absurd highest.1 (by simp)
    | cons point earlier =>
      have := congrArg List.length split
      simp at this
  | append_singleton rest equity ih =>
    rw [← cons_append, foldlM_append] at drawn
    obtain ⟨before, ran, drawn⟩ := bind_inv drawn
    have never := ih ran
    rw [← cons_append, neverBelowZeroPeak_concat]
    refine ⟨never, fun negative highest => ?_⟩
    obtain ⟨same, _, again, _, alike⟩ := DrawnAlike.run nonzero rest never
    obtain rfl : before = same := ok_unique ran again
    obtain ⟨started, _, isFirst, _⟩ := alike.builderStarted
    have zero : before.peak = 0 := alike.highest.unique highest
    exact onEquityPoint_zero_peak isFirst negative zero builder
      (by simpa using drawn)

/-- Both folds of a curve agree exactly where it never falls below a peak of zero. -/
theorem drawdownsAgree_iff (tradingBars : Int) :
    DrawdownsAgree (first :: rest) tradingBars ↔ NeverBelowZeroPeak (first :: rest) := by
  constructor
  · rintro ⟨builder, _, _, _, drawn, _⟩
    exact NeverBelowZeroPeak.of_run nonzero rest drawn
  · intro never
    obtain ⟨builder, metrics, drawn, updated, alike⟩ := DrawnAlike.run nonzero rest never
    exact alike.agree drawn updated tradingBars

end Curves

theorem drawdownsAgree_iff_falling :
    DrawdownsAgree [10, 12, -3, 6] 4 ↔ NeverBelowZeroPeak [10, 12, -3, 6] :=
  drawdownsAgree_iff (by decide +kernel) [12, -3, 6] 4

/-- The peak of a negative curve that reaches zero is zero, and a further fall divides by it. -/
theorem zero_peak_divides :
    [(-5 : Decimal), 0, -1].foldlM onEquityPoint {} =
        .error "division by zero" ∧
      ¬ DrawdownsAgree [-5, 0, -1] 3 := by
  have divides : [(-5 : Decimal), 0, -1].foldlM onEquityPoint {} =
      .error "division by zero" := by
    rfl
  refine ⟨divides, ?_⟩
  rintro ⟨builder, _, _, _, drawn, _⟩
  rw [divides] at drawn
  cases drawn

end Qts
