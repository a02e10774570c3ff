import Qts.ConsolidatedStreams

/-! # Consolidation in two steps -/

namespace Qts

open KeyedRuns Check BarAggregator List NMinuteConsolidator

section Twice

variable {duration small large offset : Int} {bars : List Bar} {target largeTarget : Timeframe}

theorem GapFree.touches_summaries (gapFree : GapFree duration bars) (step : duration ∣ small)
    (smallPositive : 0 < small) {summaries : List Bar}
    (stands : Forall₂ (Stands target small offset) (runs (cellKey small offset) bars)
      summaries) : summaries.IsChain Touches := by
  refine isChain_of_forall₂ stands gapFree.neighbours ?_
  rintro earlier later bar next ⟨last, isLast, first, isFirst, inBars, joins, differs⟩ stands
    standsNext
  have lastCell := stands.cell last (mem_of_mem_getLast? isLast)
  have firstCell := standsNext.cell first (mem_of_mem_head? isFirst)
  have near := lt_gridStart_add smallPositive offset first.startTime
  by_cases same : gridStart small offset last.startTime = gridStart small offset first.startTime
  · right
    refine ⟨?_, ?_, ?_⟩
    · rw [stands.ends, standsNext.ends, ← lastCell, ← firstCell, same]
    · rw [← Bool.not_eq_true, stands.complete_iff]
      intro filled
      have reached := filled.ends last isLast
      rw [joins, same] at reached
      exact absurd near (not_lt.mpr reached)
    · rw [← Bool.not_eq_true, standsNext.complete_iff]
      intro filled
      have below := gridStart_le smallPositive offset last.startTime
      rw [same, filled.starts first isFirst, ← joins] at below
      exact absurd last.formed.ordered (not_lt.mpr below)
  · left
    rw [stands.ends, ← lastCell, ← firstCell,
      gapFree.next_cell step smallPositive inBars joins same]

theorem Stands.sourceBar {run : List Bar} {bar : Bar} (stands : Stands target small offset run bar)
    (timed : target.duration = some small) (complete : bar.isComplete = true) :
    SourceBar target bar ∧ bar.endTime = bar.startTime + small := by
  obtain ⟨first, rest, -, fields⟩ := stands.fields
  refine ⟨⟨complete, ?_, ?_, ?_⟩, stands.ends⟩
  · have partly : bar.isPartial = !bar.isComplete := by
      conv_lhs => rw [fields]
      rfl
    rw [partly, complete]
    rfl
  · rw [fields]
    rfl
  · rw [timed, stands.ends, add_sub_cancel_left]

section Stream

variable {zone : TimeZone} {source : Timeframe} {base next straight : NMinuteConsolidator}
  {instrumentId : InstrumentId}

theorem GapFree.consolidated_twice (gapFree : GapFree duration bars) (pos : 0 < duration)
    (grid : FollowsGrid target zone small) (largeGrid : FollowsGrid largeTarget zone large)
    (step : duration ∣ small) (divides : small ∣ large) (timed : target.duration = some small)
    (first : ClockConsolidator base source target zone)
    (second : ClockConsolidator next target largeTarget zone)
    (direct : ClockConsolidator straight source largeTarget zone)
    (ofInstrument : ∀ bar ∈ bars, bar.instrumentId = instrumentId)
    (isSource : ∀ bar ∈ bars, SourceBar source bar) :
    ∃ once twice, (holdingBars base none []).emitted bars = .ok once ∧
      (holdingBars next none []).emitted once = .ok twice ∧
      (holdingBars straight none []).emitted bars = .ok twice := by
  obtain ⟨once, twice, emitsOnce, emitsTwice, emitsDirect, stands, proceeds⟩ :=
    gapFree.emitted_emitted pos grid largeGrid step divides ofInstrument
  have touching : bars.IsChain Touches := gapFree.touching.imp fun _ _ joins => .inl joins
  have complete : completeBars bars = bars :=
    filter_eq_self.mpr fun bar mem => (isSource bar mem).complete
  have lasting : ∀ bar ∈ bars, bar.isComplete = true →
      SourceBar source bar ∧ bar.endTime = bar.startTime + duration :=
    fun bar mem _ => ⟨isSource bar mem, gapFree.lasts bar mem⟩
  have sameInstrument := instrument_of_stands stands ofInstrument
  have sources : ∀ summary ∈ once, summary.isComplete = true →
      SourceBar target summary ∧ summary.endTime = summary.startTime + small := by
    intro summary mem whole
    obtain ⟨group, -, related⟩ := exists_of_mem_right stands summary mem
    exact related.sourceBar timed whole
  have one := emitted_completeBars first grid step ofInstrument (gapFree.proceeds small) touching
    lasting emitsOnce
  have two := emitted_completeBars second largeGrid divides sameInstrument proceeds
    (gapFree.touches_summaries step grid.pos stands) sources emitsTwice
  have both := emitted_completeBars direct largeGrid (step.trans divides) ofInstrument
    (gapFree.proceeds large) touching lasting emitsDirect
  rw [complete] at one both
  exact ⟨_, _, one, two, both⟩

end Stream

end Twice

section Refused

variable {target : Timeframe} {zone : TimeZone} {base : NMinuteConsolidator} {source : Timeframe}
  {held : Option TimeInterval} {bars : List Bar}

theorem update_holds (aligned : base.targetTimeframe.alignment = .clock) (bar : Bar) :
    ∃ heldNext barsNext,
      ((holdingBars base held bars).update bar).2 = holdingBars base heldNext barsNext := by
  have clock : (holdingBars base held bars).targetTimeframe.alignment = .clock := aligned
  unfold NMinuteConsolidator.update
  cases firstFailure ((holdingBars base held bars).sourceChecks bar) with
  | some message => exact ⟨held, bars, rfl⟩
  | none =>
    rw [clock]
    dsimp only
    unfold updateClock
    cases (holdingBars base held bars).bucketFor bar with
    | error failure => exact ⟨held, bars, rfl⟩
    | ok bucket =>
      obtain ⟨collected, collects⟩ : ∃ collected, (holdingBars base held bars).collect bucket bar =
          holdingBars base (some bucket) collected := by
        rcases collect_cases with ⟨_, _, _, appended⟩ | replaced
        · exact ⟨_, appended⟩
        · exact ⟨_, replaced⟩
      dsimp only
      rw [collects]
      by_cases complete : (holdingBars base (some bucket) collected).stateIsComplete = true
      · rw [if_pos complete]
        cases (holdingBars base (some bucket) collected).aggregate with
        | error failure => exact ⟨some bucket, collected, rfl⟩
        | ok completed => exact ⟨none, [], rfl⟩
      · rw [if_neg complete]
        exact ⟨some bucket, collected, rfl⟩

theorem emitted_of_refused (aligned : base.targetTimeframe.alignment = .clock)
    {valid rest emitted : List Bar} {bad : Bar} {message : String}
    (refused : firstFailure (base.sourceChecks bad) = some message)
    (emits : (holdingBars base held bars).emitted valid = .ok emitted) :
    (holdingBars base held bars).emitted (valid ++ bad :: rest) = .error (.valueError message) := by
  induction valid generalizing held bars emitted with
  | nil =>
    have fails : ((holdingBars base held bars).update bad).1 = .error (.valueError message) := by
      have checks : firstFailure ((holdingBars base held bars).sourceChecks bad) =
          some message := refused
      rw [NMinuteConsolidator.update, checks]
    rw [List.nil_append, NMinuteConsolidator.emitted, fails]
    rfl
  | cons bar valid ih =>
    rw [NMinuteConsolidator.emitted] at emits
    obtain ⟨completed, updated, emits⟩ := bind_inv emits
    obtain ⟨later, produces, -⟩ := bind_inv emits
    obtain ⟨heldNext, barsNext, next⟩ := @update_holds base held bars aligned bar
    rw [next] at produces
    rw [List.cons_append, NMinuteConsolidator.emitted, updated, next]
    change ((holdingBars base heldNext barsNext).emitted (valid ++ bad :: rest) >>= _) = _
    rw [ih produces]
    rfl

theorem sourceBar_or_refused (ofSource : base.sourceTimeframe = source) (bar : Bar) :
    SourceBar source bar ∨
      ∃ message, firstFailure (base.sourceChecks bar) = some message := by
  cases checks : firstFailure (base.sourceChecks bar) with
  | some message => exact .inr ⟨message, rfl⟩
  | none =>
    left
    rw [firstFailure_none] at checks
    subst ofSource
    simp only [sourceChecks, mem_cons, not_mem_nil, or_false,
      forall_eq_or_imp, forall_eq, Bool.not_eq_false', decide_eq_false_iff_not, not_not] at checks
    obtain ⟨complete, whole, timeframe, interval⟩ := checks
    exact ⟨complete, whole, timeframe, interval.symm⟩

end Refused

theorem forall_or_first {Item : Type} (passes : Item → Prop) (items : List Item) :
    (∀ item ∈ items, passes item) ∨ ∃ valid bad rest, items = valid ++ bad :: rest ∧
      (∀ item ∈ valid, passes item) ∧ ¬ passes bad := by
  induction items with
  | nil => simp
  | cons item items ih =>
    by_cases first : passes item
    · rcases ih with all | ⟨valid, bad, rest, split, all, fails⟩
      · left
        simpa using ⟨first, all⟩
      · right
        refine ⟨item :: valid, bad, rest, congrArg (item :: ·) split, ?_, fails⟩
        simpa using ⟨first, all⟩
    · exact .inr ⟨[], item, items, rfl, by simp, first⟩

section Both

variable {zone : TimeZone} {source target largeTarget : Timeframe} {small large : Int}
  {window : Option SessionIntervalSource}

theorem create_of_clock {length larger : Int} (clock : target.IsClock length)
    (largeClock : largeTarget.IsClock larger) (less : length < larger) (divides : length ∣ larger) :
    create target largeTarget zone window =
      .ok ⟨target, largeTarget, zone, window, none, none, []⟩ := by
  unfold NMinuteConsolidator.create
  dsimp only
  rw [if_neg (not_not.mpr clock.aligned), clock.timed, largeClock.timed]
  dsimp only
  rw [if_pos largeClock.aligned, if_neg (not_le.mpr less), if_neg clock.pos.ne',
    if_neg (not_not.mpr (Int.emod_eq_zero_of_dvd divides))]
  rfl

/-- In a zone with one offset, aggregating a gap-free stream of minutes of one instrument to a
whole number of minutes and then to a multiple of it emits the same bars as aggregating it to the
multiple, and so it is with consolidating. -/
theorem two_steps_compose {instrumentId : InstrumentId} {tape : List Bar}
    (fixed : zone.transitions = []) (clock : target.IsClock small)
    (largeClock : largeTarget.IsClock large) (visible : PythonText.isBlank target.value = false)
    (largeVisible : PythonText.isBlank largeTarget.value = false) (minutes : 60 * oneSecond ∣ small)
    (divides : small ∣ large) (gapFree : GapFree (60 * oneSecond) tape)
    (ofInstrument : ∀ bar ∈ tape, bar.instrumentId = instrumentId) :
    (∃ aggregator largeAggregator once twice,
      create target zone none = .ok aggregator ∧
      create largeTarget zone none = .ok largeAggregator ∧
      aggregator.emitted tape = .ok once ∧ largeAggregator.emitted once = .ok twice ∧
      largeAggregator.emitted tape = .ok twice) ∧
    (source.IsClock (60 * oneSecond) → 60 * oneSecond < small → small < large →
      ∃ consolidator next direct,
        create source target zone window = .ok consolidator ∧
        create target largeTarget zone window = .ok next ∧
        create source largeTarget zone window = .ok direct ∧
        (consolidator.emitted tape >>= next.emitted) = direct.emitted tape ∧
        ((∀ bar ∈ tape, SourceBar source bar) →
          ∃ emitted, direct.emitted tape = .ok emitted)) := by
  have second : oneSecond ∣ 60 * oneSecond := dvd_mul_left oneSecond 60
  have pos : (0 : Int) < 60 * oneSecond := by decide
  have grid := followsGrid_of_fixed fixed clock (second.trans minutes) visible
  have largeGrid := followsGrid_of_fixed fixed largeClock ((second.trans minutes).trans divides)
    largeVisible
  constructor
  · obtain ⟨once, twice, emitsOnce, emitsTwice, emitsDirect, -⟩ :=
      gapFree.emitted_emitted pos grid largeGrid minutes divides ofInstrument
    exact ⟨_, _, once, twice, if_neg (not_not.mpr clock.aligned),
      if_neg (not_not.mpr largeClock.aligned), emitsOnce, emitsTwice, emitsDirect⟩
  · intro sourceClock less lessLarge
    have twice : ∀ stream, stream <:+: tape → (∀ bar ∈ stream, SourceBar source bar) → _ :=
      fun stream within isSource => (gapFree.part within).consolidated_twice pos grid
        largeGrid minutes divides clock.timed
        (⟨rfl, rfl, rfl, clock.aligned, visible⟩ : ClockConsolidator
          ⟨source, target, zone, window, none, none, []⟩ source target zone)
        (⟨rfl, rfl, rfl, largeClock.aligned, largeVisible⟩ : ClockConsolidator
          ⟨target, largeTarget, zone, window, none, none, []⟩ target largeTarget zone)
        (⟨rfl, rfl, rfl, largeClock.aligned, largeVisible⟩ : ClockConsolidator
          ⟨source, largeTarget, zone, window, none, none, []⟩ source largeTarget zone)
        (fun bar mem => ofInstrument bar (within.subset mem)) isSource
    refine ⟨_, _, _, create_of_clock sourceClock clock less minutes,
      create_of_clock clock largeClock lessLarge divides,
      create_of_clock sourceClock largeClock (less.trans lessLarge) (minutes.trans divides), ?_, ?_⟩
    · rcases forall_or_first (SourceBar source) tape with
        all | ⟨valid, bad, rest, rfl, all, fails⟩
      · obtain ⟨first, both, one, two, direct⟩ := twice tape (infix_refl tape) all
        exact (congrArg (· >>= _) one).trans (two.trans direct.symm)
      · obtain ⟨first, both, one, -, direct⟩ := twice valid (prefix_append _ _).isInfix all
        obtain ⟨message, refused⟩ := (@sourceBar_or_refused
          ⟨source, target, zone, window, none, none, []⟩ source rfl bad).resolve_left fails
        have stops := @emitted_of_refused
          ⟨source, target, zone, window, none, none, []⟩ none [] clock.aligned valid rest first bad
          message refused one
        have alsoStops := @emitted_of_refused
          ⟨source, largeTarget, zone, window, none, none, []⟩ none [] largeClock.aligned valid rest
          both bad message refused direct
        exact (congrArg (· >>= _) stops).trans alsoStops.symm
    · intro all
      obtain ⟨-, both, -, -, direct⟩ := twice tape (infix_refl tape) all
      exact ⟨both, direct⟩

end Both

namespace TwoSessions

def fiveSeconds : Timeframe := ⟨"5s", some (5 * oneSecond), .clock⟩

def tenMinutes : Timeframe := ⟨"10m", some (600 * oneSecond), .clock⟩

def threeInRow : List Bar := [firstMinute, secondMinute, thirdMinute]

theorem threeInRow_alike : ∀ bar ∈ threeInRow, bar.endTime = bar.startTime + 60 * oneSecond ∧
    bar.instrumentId = apple ∧ SourceBar oneMinute bar := by
  intro bar mem
  simp only [threeInRow, mem_cons, not_mem_nil, or_false] at mem
  rcases mem with rfl | rfl | rfl
  · exact ⟨by decide, rfl, rfl, rfl, rfl, by decide⟩
  · exact ⟨by decide, rfl, rfl, rfl, rfl, by decide⟩
  · exact ⟨by decide, rfl, rfl, rfl, rfl, by decide⟩

theorem gapFree_threeInRow : GapFree (60 * oneSecond) threeInRow where
  lasts := fun bar mem => (threeInRow_alike bar mem).1
  touching := .cons_cons (by decide) (.cons_cons (by decide) (.singleton _))

theorem two_steps_compose_tenMinutes :
    (∃ aggregator largeAggregator once twice,
      create fiveMinutes utc none = .ok aggregator ∧
      create tenMinutes utc none = .ok largeAggregator ∧
      aggregator.emitted threeInRow = .ok once ∧ largeAggregator.emitted once = .ok twice ∧
      largeAggregator.emitted threeInRow = .ok twice) ∧
    ∃ consolidator next direct emitted,
      create oneMinute fiveMinutes utc none = .ok consolidator ∧
      create fiveMinutes tenMinutes utc none = .ok next ∧
      create oneMinute tenMinutes utc none = .ok direct ∧
      (consolidator.emitted threeInRow >>= next.emitted) = direct.emitted threeInRow ∧
      direct.emitted threeInRow = .ok emitted := by
  obtain ⟨aggregated, consolidated⟩ := @two_steps_compose utc oneMinute fiveMinutes tenMinutes
    (300 * oneSecond) (600 * oneSecond) none apple threeInRow rfl
    ⟨rfl, rfl, by decide, by decide⟩ ⟨rfl, rfl, by decide, by decide⟩ (by decide +kernel)
    (by decide +kernel) (by decide) (by decide) gapFree_threeInRow
    (fun bar mem => (threeInRow_alike bar mem).2.1)
  refine ⟨aggregated, ?_⟩
  obtain ⟨consolidator, next, direct, one, two, straight, same, emits⟩ :=
    consolidated ⟨rfl, rfl, by decide, by decide⟩ (by decide) (by decide)
  obtain ⟨emitted, known⟩ := emits fun bar mem => (threeInRow_alike bar mem).2.2
  exact ⟨consolidator, next, direct, emitted, one, two, straight, same, known⟩

/-- A minute that goes through bars of five seconds comes out as a part of a minute. -/
theorem fiveSeconds_split_minute :
    Timeframe.parse "5s" = .ok fiveSeconds ∧ Timeframe.parse "1m" = .ok oneMinute ∧
      fiveSeconds.IsClock (5 * oneSecond) ∧ oneMinute.IsClock (60 * oneSecond) ∧
      5 * oneSecond ∣ 60 * oneSecond ∧ utc.transitions = [] ∧
      GapFree (60 * oneSecond) [firstMinute] ∧
      ∃ aggregator largeAggregator once twice direct,
        create fiveSeconds utc none = .ok aggregator ∧
        create oneMinute utc none = .ok largeAggregator ∧
        aggregator.emitted [firstMinute] = .ok once ∧ largeAggregator.emitted once = .ok twice ∧
        largeAggregator.emitted [firstMinute] = .ok direct ∧ twice ≠ direct := by
  have alone : GapFree (60 * oneSecond) [firstMinute] :=
    gapFree_threeInRow.part (prefix_append [firstMinute] _).isInfix
  refine ⟨by decide +kernel, by decide +kernel, ⟨rfl, rfl, by decide, by decide⟩,
    ⟨rfl, rfl, by decide, by decide⟩, by decide, rfl, alone,
    ⟨fiveSeconds, utc, none, none⟩, ⟨oneMinute, utc, none, none⟩, ?_⟩
  have inSteps : (((⟨fiveSeconds, utc, none, none⟩ : BarAggregator).emitted [firstMinute] >>=
      (⟨oneMinute, utc, none, none⟩ : BarAggregator).emitted).toOption.map fun bars =>
        bars.map (·.isComplete)) = some [false] := by decide +kernel
  have atOnce : (((⟨oneMinute, utc, none, none⟩ : BarAggregator).emitted
      [firstMinute]).toOption.map fun bars => bars.map (·.isComplete)) = some [true] := by
    decide +kernel
  cases first : (⟨fiveSeconds, utc, none, none⟩ : BarAggregator).emitted [firstMinute] with
  | error failure =>
    rw [first] at inSteps
    cases inSteps
  | ok once =>
    rw [first] at inSteps
    change ((BarAggregator.emitted _ once).toOption.map _) = _ at inSteps
    cases second : (⟨oneMinute, utc, none, none⟩ : BarAggregator).emitted once with
    | error failure =>
      rw [second] at inSteps
      cases inSteps
    | ok twice =>
      cases straight : (⟨oneMinute, utc, none, none⟩ : BarAggregator).emitted [firstMinute] with
      | error failure =>
        rw [straight] at atOnce
        cases atOnce
      | ok direct =>
        refine ⟨once, twice, direct, rfl, rfl, rfl, second, rfl, ?_⟩
        rintro rfl
        rw [second] at inSteps
        rw [straight] at atOnce
        cases inSteps.symm.trans atOnce

end TwoSessions

end Qts
