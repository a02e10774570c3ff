import Qts.AggregatedRuns

/-! # Completeness flags -/

namespace Qts

open Timeframe List

def BarAggregator.emitted (aggregator : BarAggregator) : List Bar → Except Failure (List Bar)
  | [] => aggregator.finish.1
  | bar :: bars => do
    let completed ← (aggregator.update bar).1
    let later ← BarAggregator.emitted (aggregator.update bar).2 bars
    return completed ++ later

def NMinuteConsolidator.emitted (consolidator : NMinuteConsolidator) :
    List Bar → Except Failure (List Bar)
  | [] => .ok []
  | bar :: bars => do
    let completed ← (consolidator.update bar).1
    let later ← NMinuteConsolidator.emitted (consolidator.update bar).2 bars
    return completed ++ later

def completeBars (bars : List Bar) : List Bar :=
  bars.filter (·.isComplete)

structure Tiles (run : List Bar) (startTime endTime : DateTime) : Prop where
  starts : run.head?.map (·.startTime) = some startTime
  ends : run.getLast?.map (·.endTime) = some endTime
  touching : run.IsChain fun first second => first.endTime = second.startTime

/-- A bar is made of source bars of a tape that tile its bucket. -/
def TiledFrom (tape : List Bar) (summary : Bar) : Prop :=
  ∃ run, run <:+: tape ∧ Summarizes summary run ∧ Tiles run summary.startTime summary.endTime

theorem TiledFrom.mono {tape more : List Bar} {summary : Bar} (tiled : TiledFrom tape summary) :
    TiledFrom (tape ++ more) summary := by
  obtain ⟨run, within, summarizes, tiles⟩ := tiled
  exact ⟨run, within.trans (prefix_append _ _).isInfix, summarizes, tiles⟩

/-- Every bar flagged complete is made of source bars that tile its bucket. -/
def HonestFlags (tape emitted : List Bar) : Prop :=
  ∀ bar ∈ completeBars emitted, TiledFrom tape bar

def LastRunFilled (target : Timeframe) (zone : TimeZone) (bars : List Bar) : Prop :=
  ∀ run ∈ (maximalRuns target zone bars).getLast?, ∀ early last, run = early ++ [last] →
    ∀ bucket, clockBucketFor last.startTime target zone = .ok bucket →
      run.head?.map (·.startTime) = some bucket.startTime →
      (∀ bar ∈ early, bar.endTime < bucket.endTime) → bucket.endTime ≤ last.endTime →
      Tiles run bucket.startTime bucket.endTime

/-- No run reaches the end of its bucket over a gap. -/
def FilledRuns (target : Timeframe) (zone : TimeZone) (tape : List Bar) : Prop :=
  ∀ taken, taken <+: tape → LastRunFilled target zone taken

theorem contiguous_iff (bars : List Bar) :
    contiguous bars = true ↔ bars.IsChain fun first second => first.endTime = second.startTime := by
  induction bars with
  | nil => simp [contiguous]
  | cons first bars ih =>
    cases bars with
    | nil => simp [contiguous]
    | cons second bars =>
      have step : contiguous (first :: second :: bars) =
          (decide (first.endTime = second.startTime) && contiguous (second :: bars)) := rfl
      rw [step, Bool.and_eq_true, decide_eq_true_eq, ih, isChain_cons_cons]

def holdingBars (base : NMinuteConsolidator) (bucket : Option TimeInterval) (bars : List Bar) :
    NMinuteConsolidator :=
  { base with bucket, bars }

section Holding

variable {base : NMinuteConsolidator} {bucket : TimeInterval} {held : Option TimeInterval}
  {bars : List Bar} {bar : Bar}

theorem stateIsComplete_iff :
    (holdingBars base (some bucket) bars).stateIsComplete = true ↔
      Tiles bars bucket.startTime bucket.endTime := by
  unfold NMinuteConsolidator.stateIsComplete holdingBars
  dsimp only
  cases bars with
  | nil =>
    constructor
    · rintro ⟨⟩
    · rintro ⟨⟨⟩, -, -⟩
  | cons first rest =>
    rw [head?_cons, getLast?_eq_some_getLast (cons_ne_nil first rest)]
    dsimp only
    rw [Bool.and_eq_true, Bool.and_eq_true, decide_eq_true_eq, decide_eq_true_eq, contiguous_iff]
    constructor
    · rintro ⟨⟨starts, ends⟩, touching⟩
      refine ⟨congrArg some starts, ?_, touching⟩
      rw [getLast?_eq_some_getLast (cons_ne_nil first rest)]
      exact congrArg some ends
    · rintro ⟨starts, ends, touching⟩
      rw [getLast?_eq_some_getLast (cons_ne_nil first rest)] at ends
      exact ⟨⟨Option.some.inj starts, Option.some.inj ends⟩, touching⟩

theorem collect_same {last : Bar} (isLast : bars.getLast? = some last)
    (sameInstrument : last.instrumentId = bar.instrumentId)
    (sameSession : last.sessionId = bar.sessionId) :
    (holdingBars base (some bucket) bars).collect bucket bar =
      holdingBars base (some bucket) (bars ++ [bar]) := by
  unfold NMinuteConsolidator.collect NMinuteConsolidator.sameBucketStream holdingBars
  dsimp only
  rw [isLast]
  simp [sameInstrument, sameSession]

theorem collect_other
    (other : ∀ last ∈ bars.getLast?, held = some bucket → last.sessionId ≠ bar.sessionId) :
    (holdingBars base held bars).collect bucket bar = holdingBars base (some bucket) [bar] := by
  unfold NMinuteConsolidator.collect NMinuteConsolidator.sameBucketStream holdingBars
  dsimp only
  have differs : bars.getLast?.any (fun last => decide (held = some bucket ∧
      last.instrumentId = bar.instrumentId ∧ last.sessionId = bar.sessionId)) = false := by
    cases isLast : bars.getLast? with
    | none => rfl
    | some last =>
      refine decide_eq_false ?_
      rintro ⟨same, -, sameSession⟩
      exact other last isLast same sameSession
  rw [differs, if_neg Bool.false_ne_true]

theorem update_holding {source : Timeframe} (isSource : SourceBar source bar)
    (ofSource : base.sourceTimeframe = source) (aligned : base.targetTimeframe.alignment = .clock)
    (known : clockBucketFor bar.startTime base.targetTimeframe base.exchangeTimezone = .ok bucket)
    {collected : List Bar}
    (collects : (holdingBars base held bars).collect bucket bar =
      holdingBars base (some bucket) collected) :
    (¬ Tiles collected bucket.startTime bucket.endTime →
      (holdingBars base held bars).update bar =
          (.ok [], holdingBars base (some bucket) collected)) ∧
    (Tiles collected bucket.startTime bucket.endTime → ∀ completed,
      (holdingBars base (some bucket) collected).aggregate = .ok completed →
        (holdingBars base held bars).update bar = (.ok [completed], holdingBars base none [])) := by
  have valid : Check.firstFailure ((holdingBars base held bars).sourceChecks bar) = none := by
    rw [Check.firstFailure_none]
    simp [NMinuteConsolidator.sourceChecks, holdingBars, ofSource, isSource.complete,
      isSource.whole, isSource.timeframe, isSource.interval]
  have clock : (holdingBars base held bars).targetTimeframe.alignment = .clock := aligned
  have found : (holdingBars base held bars).bucketFor bar = .ok bucket := known
  unfold NMinuteConsolidator.update
  rw [valid, clock]
  dsimp only
  unfold NMinuteConsolidator.updateClock
  rw [found]
  dsimp only
  rw [collects]
  constructor
  · intro untiled
    exact if_neg (stateIsComplete_iff.not.mpr untiled)
  · intro tiled completed aggregated
    rw [if_pos (stateIsComplete_iff.mpr tiled), aggregated]
    rfl

end Holding

structure ClockConsolidator (base : NMinuteConsolidator) (source target : Timeframe)
    (zone : TimeZone) : Prop where
  ofSource : base.sourceTimeframe = source
  ofTarget : base.targetTimeframe = target
  ofZone : base.exchangeTimezone = zone
  aligned : target.alignment = .clock
  visible : PythonText.isBlank target.value = false

section Pairing

variable {target : Timeframe} {zone : TimeZone} {instrumentId : InstrumentId} {sessionId : String}
  {bucket : TimeInterval} {taken run : List Bar} {closed : List (List Bar)} {bar : Bar}

theorem sameRun_iff {last : Bar} {other : TimeInterval}
    (lastKnown : clockBucketFor last.startTime target zone = .ok other)
    (known : clockBucketFor bar.startTime target zone = .ok bucket) :
    sameRun target zone last bar = true ↔ other = bucket ∧ last.sessionId = bar.sessionId := by
  unfold sameRun bucketOf
  rw [lastKnown, known, decide_eq_true_eq]
  simp [Except.toOption]

theorem completeBars_append (first second : List Bar) :
    completeBars (first ++ second) = completeBars first ++ completeBars second :=
  filter_append ..

variable {summary : Bar}

theorem completeBars_of_incomplete (incomplete : summary.isComplete = false) :
    completeBars [summary] = [] := by
  simp [completeBars, incomplete]

theorem completeBars_singleton (complete : summary.isComplete = true) :
    completeBars [summary] = [summary] := by
  simp [completeBars, complete]

theorem isComplete_iff {last : Bar} (collapses : Collapses target zone none run summary)
    (isLast : run.getLast? = some last)
    (known : clockBucketFor last.startTime target zone = .ok bucket) :
    summary.isComplete = true ↔
      (run.head?.map (·.startTime) = some bucket.startTime ∧ bucket.endTime ≤ last.endTime) ∧
        ∀ source ∈ run, source.isComplete = true := by
  obtain ⟨first, rest, other, rfl, sources, fields⟩ := collapses
  obtain ⟨lastKnown, -⟩ := sources last (mem_of_mem_getLast? isLast)
  obtain rfl := ok_unique known lastKnown
  have lastIs : (first :: rest).getLast (cons_ne_nil _ _) = last := by
    rw [getLast?_eq_some_getLast (cons_ne_nil first rest)] at isLast
    exact Option.some.inj isLast
  have flag : summary.isComplete = !runIsPartial none bucket first rest := by rw [fields]; rfl
  have past : decide (last.endTime < bucket.endTime) = false ↔ bucket.endTime ≤ last.endTime :=
    decide_eq_false_iff_not.trans not_lt
  rw [flag, runIsPartial, lastIs]
  simp only [clampedEnd, ne_eq, not_true_eq_false, decide_false, Bool.or_false, Bool.not_or,
    Bool.and_eq_true, Bool.not_eq_true', decide_eq_false_iff_not, not_not, Bool.not_not,
    all_eq_true, head?_cons, Option.map_some, Option.some.injEq]
  exact and_congr_left fun _ => and_congr_right fun _ => past

theorem isComplete_of_collapses {last : Bar} (collapses : Collapses target zone none run summary)
    (isLast : run.getLast? = some last)
    (known : clockBucketFor last.startTime target zone = .ok bucket)
    (complete : ∀ source ∈ run, source.isComplete = true) :
    summary.isComplete = true ↔
      run.head?.map (·.startTime) = some bucket.startTime ∧ bucket.endTime ≤ last.endTime :=
  (isComplete_iff collapses isLast known).trans (and_iff_left complete)

/-- The last run of some bars stands at their end. -/
theorem suffix_of_splits (splits : maximalRuns target zone taken = closed ++ [run]) :
    run <:+: taken := by
  have joins : closed.flatten ++ run = taken := by
    rw [← flatten_splitBy (sameRun target zone) taken]
    change _ = (maximalRuns target zone taken).flatten
    rw [splits]
    simp
  rw [← joins]
  exact (suffix_append _ _).isInfix

theorem lastRunFilled_iff {early : List Bar}
    (splits : maximalRuns target zone taken = closed ++ [early ++ [bar]])
    (known : clockBucketFor bar.startTime target zone = .ok bucket) :
    LastRunFilled target zone taken ↔
      ((early ++ [bar]).head?.map (·.startTime) = some bucket.startTime →
        (∀ earlier ∈ early, earlier.endTime < bucket.endTime) → bucket.endTime ≤ bar.endTime →
          Tiles (early ++ [bar]) bucket.startTime bucket.endTime) := by
  unfold LastRunFilled
  rw [splits, getLast?_concat]
  constructor
  · intro filled starts before reaches
    exact filled _ rfl early bar rfl bucket known starts before reaches
  · rintro filled run isRun other last parts otherBucket otherKnown starts before reaches
    obtain rfl := Option.mem_some_iff.mp isRun
    obtain ⟨rfl, same⟩ := append_inj' parts rfl
    obtain rfl := cons.inj same |>.1
    obtain rfl := ok_unique known otherKnown
    exact filled starts before reaches

/-- What both components hold after some bars: the same open run, or, once the bucket was
reached, nothing that could become complete. -/
inductive Paired (target : Timeframe) (zone : TimeZone) (instrumentId : InstrumentId)
    (taken : List Bar) : Option AggregationState → Option TimeInterval → List Bar → Prop
  | fresh (none : taken = []) : Paired target zone instrumentId taken .none .none []
  | collecting {closed : List (List Bar)} {run : List Bar} {state : AggregationState}
      {sessionId : String} {bucket : TimeInterval}
      (splits : maximalRuns target zone taken = closed ++ [run])
      (collects : CollectsRun target zone none instrumentId sessionId bucket run state)
      (before : ∀ source ∈ run, source.endTime < bucket.endTime) :
      Paired target zone instrumentId taken (some state) (some bucket) run
  | reached {closed : List (List Bar)} {run bars : List Bar} {held : Option TimeInterval}
      {bucket : TimeInterval} {last : Bar}
      (splits : maximalRuns target zone taken = closed ++ [run])
      (isLast : run.getLast? = some last)
      (known : clockBucketFor last.startTime target zone = .ok bucket)
      (sameInstrument : last.instrumentId = instrumentId)
      (past : bucket.endTime ≤ last.endTime)
      (dead : bars = [] ∨ held = some bucket ∧ bars.getLast? = some last) :
      Paired target zone instrumentId taken none held bars

/-- What one bar makes both components emit, and whether the run of the bar is filled. -/
inductive Verdict (tape emitted produced : List Bar) (filled : Prop) : Prop
  | quiet (none : completeBars emitted = []) (also : produced = []) (holds : filled)
  | agreed (summary : Bar) (one : completeBars emitted = [summary]) (also : produced = [summary])
      (tiled : TiledFrom tape summary) (holds : filled)
  | differs (summary : Bar) (one : completeBars emitted = [summary]) (none : produced = [])
      (fails : ¬ filled)

/-- What both components do with the next bar. -/
def Steps (base : NMinuteConsolidator) (target : Timeframe) (zone : TimeZone)
    (instrumentId : InstrumentId) (taken : List Bar) (bar : Bar)
    (state : Option AggregationState) (held : Option TimeInterval) (bars : List Bar) : Prop :=
  ∃ completed next produced heldNext barsNext,
    (⟨target, zone, none, state⟩ : BarAggregator).update bar =
      (.ok completed, ⟨target, zone, none, next⟩) ∧
    (holdingBars base held bars).update bar = (.ok produced, holdingBars base heldNext barsNext) ∧
    Paired target zone instrumentId (taken ++ [bar]) next heldNext barsNext ∧
    Verdict (taken ++ [bar]) completed produced (LastRunFilled target zone (taken ++ [bar]))

section Step

variable {base : NMinuteConsolidator} {source : Timeframe} {state : Option AggregationState}
  {held : Option TimeInterval} {bars : List Bar} {incoming next : AggregationState}
  {completed : List Bar}

theorem aggregate_of_collapses {last : Bar} (ofTarget : base.targetTimeframe = target)
    (collapses : Collapses target zone none run summary) (isLast : run.getLast? = some last)
    (known : clockBucketFor last.startTime target zone = .ok bucket)
    (complete : summary.isComplete = true) :
    (holdingBars base (some bucket) run).aggregate = .ok summary := by
  obtain ⟨first, rest, other, rfl, sources, fields⟩ := collapses
  obtain ⟨lastKnown, -⟩ := sources last (mem_of_mem_getLast? isLast)
  obtain rfl := ok_unique known lastKnown
  have flag : (!runIsPartial none bucket first rest) = true := by
    rw [← complete, fields]
    rfl
  rw [Bool.not_eq_true'] at flag
  rw [flag] at fields
  unfold NMinuteConsolidator.aggregate holdingBars
  dsimp only
  rw [ofTarget]
  change Bar.create (combinedFields target bucket.startTime (clampedEnd none bucket) false first
    rest) = _
  rw [← fields]
  exact Bar.create_eq summary.formed

section

variable (clock : ClockConsolidator base source target zone) (isSource : SourceBar source bar)

include clock isSource

theorem steps_of_open {early : List Bar}
    (opened : (⟨target, zone, none, state⟩ : BarAggregator).newStateFor bar = .ok incoming)
    (takenIn : (⟨target, zone, none, state⟩ : BarAggregator).takeIn incoming =
      .ok (completed, next)) (partials : completeBars completed = [])
    (collects : CollectsRun target zone none instrumentId sessionId bucket (early ++ [bar]) next)
    (complete : ∀ source ∈ early ++ [bar], source.isComplete = true)
    (before : ∀ source ∈ early, source.endTime < bucket.endTime)
    (splits : maximalRuns target zone (taken ++ [bar]) = closed ++ [early ++ [bar]])
    (collected : (holdingBars base held bars).collect bucket bar =
      holdingBars base (some bucket) (early ++ [bar])) :
    Steps base target zone instrumentId taken bar state held bars := by
  have isLast : (early ++ [bar]).getLast? = some bar := getLast?_concat
  obtain ⟨known, sameInstrument, -⟩ :=
    collects.sources bar (mem_append_right _ mem_cons_self)
  have alsoKnown : clockBucketFor bar.startTime base.targetTimeframe base.exchangeTimezone =
      .ok bucket := by rw [clock.ofTarget, clock.ofZone, known]
  obtain ⟨unfilled, fills⟩ :=
    update_holding isSource clock.ofSource
        (by rw [clock.ofTarget, clock.aligned]) alsoKnown collected
  obtain ⟨stays, closes⟩ := update_of_takeIn
      (by simp [InsideSession]) opened takenIn collects isLast
  have filledIff := lastRunFilled_iff splits known
  by_cases reaches : bucket.endTime ≤ bar.endTime
  · obtain ⟨summary, aggregated, -, collapses⟩ := collects.aggregateState clock.visible
    have flag := isComplete_of_collapses collapses isLast known complete
    have emits : completeBars (completed ++ [summary]) = completeBars [summary] := by
      rw [completeBars_append, partials, nil_append]
    have after : ∀ {held : Option TimeInterval} {bars : List Bar},
        (bars = [] ∨ held = some bucket ∧ bars.getLast? = some bar) →
          Paired target zone instrumentId (taken ++ [bar]) none held bars :=
      fun dead => .reached splits isLast known sameInstrument reaches dead
    by_cases starts : (early ++ [bar]).head?.map (·.startTime) = some bucket.startTime
    · have whole := flag.mpr ⟨starts, reaches⟩
      by_cases tiled : Tiles (early ++ [bar]) bucket.startTime bucket.endTime
      · refine ⟨_, _, _, _, _, closes reaches summary aggregated,
          fills tiled summary (aggregate_of_collapses clock.ofTarget collapses isLast known whole),
          after (.inl rfl), .agreed summary (emits.trans (completeBars_singleton whole)) rfl ?_ ?_⟩
        · obtain ⟨other, otherKnown, sameStart, sameEnd⟩ := collapses.accountsFor.bucket bar
            (mem_append_right _ mem_cons_self)
          obtain rfl := ok_unique known otherKnown
          refine ⟨early ++ [bar], suffix_of_splits splits, collapses.accountsFor.summary, ?_⟩
          rw [sameStart, sameEnd]
          exact tiled
        · exact filledIff.mpr fun _ _ _ => tiled
      · refine ⟨_, _, _, _, _, closes reaches summary aggregated, unfilled tiled,
          after (.inr ⟨rfl, isLast⟩),
          .differs summary (emits.trans (completeBars_singleton whole)) rfl ?_⟩
        intro filled
        exact tiled (filledIff.mp filled starts before reaches)
    · have untiled : ¬ Tiles (early ++ [bar]) bucket.startTime bucket.endTime :=
        fun tiled => starts tiled.starts
      have incomplete : summary.isComplete = false := by
        rw [← Bool.not_eq_true]
        exact fun whole => starts (flag.mp whole).1
      exact ⟨_, _, _, _, _, closes reaches summary aggregated, unfilled untiled,
        after (.inr ⟨rfl, isLast⟩),
        .quiet (emits.trans (completeBars_of_incomplete incomplete)) rfl
          (filledIff.mpr fun starting => absurd starting starts)⟩
  · have untiled : ¬ Tiles (early ++ [bar]) bucket.startTime bucket.endTime := by
      intro tiled
      have ends := tiled.ends
      rw [isLast] at ends
      exact reaches (Option.some.inj ends).ge
    refine ⟨_, _, _, _, _, stays reaches, unfilled untiled, .collecting splits collects ?_,
      .quiet partials rfl (filledIff.mpr fun _ _ reached => absurd reached reaches)⟩
    intro source mem
    rcases mem_append.mp mem with among | last
    · exact before source among
    · obtain rfl := mem_singleton.mp last
      exact not_le.mp reaches

section

variable (paired : Paired target zone bar.instrumentId taken state held bars)
  (known : clockBucketFor bar.startTime target zone = .ok bucket)
  (complete : ∀ source ∈ taken, source.isComplete = true)

include paired known complete

theorem Paired.step_other (differs : ∀ last ∈ taken.getLast?, sameRun target zone last bar = false)
    : Steps base target zone bar.instrumentId taken bar state held bars := by
  obtain ⟨incoming, opened, starts⟩ := @newStateFor_collects target zone none bucket bar state
    known bucket.ordered
  have splits : maximalRuns target zone (taken ++ [bar]) =
      maximalRuns target zone taken ++ [[] ++ [bar]] := splitBy_concat_other differs
  have alone : ∀ source ∈ [] ++ [bar], source.isComplete = true := by
    intro source mem
    obtain rfl := mem_singleton.mp mem
    exact isSource.complete
  have otherSession : ∀ last, taken.getLast? = some last →
      clockBucketFor last.startTime target zone = .ok bucket → last.sessionId ≠ bar.sessionId := by
    intro last isLast lastKnown sameSession
    have same := (sameRun_iff lastKnown known).mpr ⟨rfl, sameSession⟩
    rw [differs last isLast] at same
    cases same
  cases paired with
  | fresh none =>
    have collected : (holdingBars base .none []).collect bucket bar =
        holdingBars base (some bucket) ([] ++ [bar]) := collect_other (by simp)
    exact steps_of_open clock isSource opened rfl rfl starts alone (by simp) splits collected
  | @collecting closed _ state sessionId other runSplits collects before =>
    obtain ⟨last, isLast⟩ := Option.isSome_iff_exists.mp (getLast?_isSome.mpr collects.filled)
    have lastTaken : taken.getLast? = some last :=
      (maximalRuns_getLast runSplits collects.filled).trans isLast
    obtain ⟨lastKnown, lastInstrument, -⟩ :=
      collects.sources last (mem_of_mem_getLast? isLast)
    obtain ⟨summary, aggregated, -, collapses⟩ := collects.aggregateState clock.visible
    have incomplete : summary.isComplete = false := by
      rw [← Bool.not_eq_true, isComplete_of_collapses collapses isLast lastKnown ?_]
      · rintro ⟨-, reaches⟩
        exact absurd (before last (mem_of_mem_getLast? isLast)) (not_lt.mpr reaches)
      · intro source mem
        exact complete source ((suffix_of_splits runSplits).subset mem)
    have takenIn : (⟨target, zone, none, some state⟩ : BarAggregator).takeIn incoming =
        .ok ([summary], incoming) := by
      unfold BarAggregator.takeIn
      dsimp only
      rw [sameStreamBucket_eq collects isLast starts, differs last lastTaken,
        if_neg Bool.false_ne_true, aggregated]
      rfl
    have collected : (holdingBars base (some other) bars).collect bucket bar =
        holdingBars base (some bucket) ([] ++ [bar]) := by
      refine collect_other ?_
      intro found isFound sameBucket
      obtain rfl := Option.mem_unique isLast isFound
      obtain rfl := Option.some.inj sameBucket
      exact otherSession last lastTaken lastKnown
    exact steps_of_open clock isSource opened takenIn
      (completeBars_of_incomplete incomplete) starts alone (by simp) splits collected
  | @reached closed run bars held other last runSplits isLast lastKnown sameInstrument past dead =>
    have filled : run ≠ [] := by
      rintro rfl
      cases isLast
    have lastTaken : taken.getLast? = some last :=
      (maximalRuns_getLast runSplits filled).trans isLast
    have collected : (holdingBars base held bars).collect bucket bar =
        holdingBars base (some bucket) ([] ++ [bar]) := by
      refine collect_other ?_
      intro found isFound sameBucket
      rcases dead with empty | ⟨heldBucket, heldLast⟩
      · subst empty
        cases isFound
      · obtain rfl := Option.mem_unique heldLast isFound
        obtain rfl := Option.mem_unique heldBucket sameBucket
        exact otherSession last lastTaken lastKnown
    exact steps_of_open clock isSource opened rfl rfl starts alone (by simp) splits collected

theorem Paired.step_same {last : Bar} (lastTaken : taken.getLast? = some last)
    (after : last.endTime ≤ bar.startTime) (same : sameRun target zone last bar = true) :
    Steps base target zone bar.instrumentId taken bar state held bars := by
  obtain ⟨incoming, opened, starts⟩ := @newStateFor_collects target zone none bucket bar state
    known bucket.ordered
  cases paired with
  | fresh none =>
    rw [none] at lastTaken
    cases lastTaken
  | @collecting closed _ state sessionId other runSplits collects before =>
    have isLast : bars.getLast? = some last :=
      (maximalRuns_getLast runSplits collects.filled).symm.trans lastTaken
    obtain ⟨lastKnown, lastInstrument, lastSession⟩ :=
      collects.sources last (mem_of_mem_getLast? isLast)
    obtain ⟨sameBucket, sameSession⟩ := (sameRun_iff lastKnown known).mp same
    subst sameBucket
    have ofSession : bar.sessionId = sessionId := sameSession.symm.trans lastSession
    have takenIn : (⟨target, zone, none, some state⟩ : BarAggregator).takeIn incoming =
        .ok ([], { state with bars := state.bars ++ [bar] }) := by
      unfold BarAggregator.takeIn
      dsimp only
      rw [sameStreamBucket_eq collects isLast starts, same, if_pos rfl, starts.bars]
    have splits : maximalRuns target zone (taken ++ [bar]) = closed ++ [bars ++ [bar]] := by
      refine splitBy_concat_same runSplits ?_
      intro found isFound
      obtain rfl := Option.mem_unique isLast isFound
      exact same
    refine steps_of_open clock isSource opened takenIn rfl
      (collects.append known rfl ofSession) ?_ before splits
      (collect_same isLast lastInstrument sameSession)
    intro source mem
    rcases mem_append.mp mem with among | new
    · exact complete source ((suffix_of_splits runSplits).subset among)
    · obtain rfl := mem_singleton.mp new
      exact isSource.complete
  | @reached closed run bars held other found runSplits isLast foundKnown sameInstrument past
      dead =>
    have filled : run ≠ [] := by
      rintro rfl
      cases isLast
    obtain rfl := Option.some.inj
      (((maximalRuns_getLast runSplits filled).trans isLast).symm.trans lastTaken)
    obtain ⟨sameBucket, sameSession⟩ := (sameRun_iff foundKnown known).mp same
    subst sameBucket
    have ordered := bar.formed.ordered
    have beyond : other.endTime < bar.endTime := lt_of_le_of_lt (past.trans after) ordered
    have late : bar.startTime ≠ other.startTime :=
      (lt_of_lt_of_le other.ordered (past.trans after)).ne'
    have splits : maximalRuns target zone (taken ++ [bar]) = closed ++ [run ++ [bar]] := by
      refine splitBy_concat_same runSplits ?_
      intro last lastOfRun
      obtain rfl := Option.mem_unique isLast lastOfRun
      exact same
    obtain ⟨-, closes⟩ := update_of_takeIn (by simp [InsideSession]) opened rfl starts rfl
    obtain ⟨summary, aggregated, -, collapses⟩ := starts.aggregateState clock.visible
    have incomplete : summary.isComplete = false := by
      rw [← Bool.not_eq_true, isComplete_of_collapses collapses rfl known ?_]
      · rintro ⟨startsThere, -⟩
        exact late (Option.some.inj startsThere)
      · intro source mem
        obtain rfl := mem_singleton.mp mem
        exact isSource.complete
    obtain ⟨collectedBars, collected, endsWith⟩ : ∃ collectedBars,
        (holdingBars base held bars).collect other bar =
            holdingBars base (some other) collectedBars ∧
          collectedBars.getLast? = some bar := by
      rcases dead with empty | ⟨heldBucket, heldLast⟩
      · subst empty
        exact ⟨[bar], collect_other (by simp), rfl⟩
      · subst heldBucket
        exact ⟨bars ++ [bar], collect_same heldLast sameInstrument sameSession, getLast?_concat⟩
    have untiled : ¬ Tiles collectedBars other.startTime other.endTime := by
      intro tiled
      have ends := tiled.ends
      rw [endsWith] at ends
      exact beyond.ne' (Option.some.inj ends)
    have alsoKnown : clockBucketFor bar.startTime base.targetTimeframe base.exchangeTimezone =
        .ok other := by rw [clock.ofTarget, clock.ofZone, known]
    obtain ⟨unfilled, -⟩ :=
      update_holding isSource clock.ofSource (by rw [clock.ofTarget, clock.aligned]) alsoKnown
        collected
    refine ⟨_, _, _, _, _, closes beyond.le summary aggregated, unfilled untiled,
      .reached splits getLast?_concat known rfl beyond.le (.inr ⟨rfl, endsWith⟩),
      .quiet (completeBars_of_incomplete incomplete) rfl ?_⟩
    refine (lastRunFilled_iff splits known).mpr fun _ before _ => ?_
    exact absurd (before _ (mem_of_mem_getLast? isLast)) (not_lt.mpr past)

/-- Both components take in the next bar of a tape. -/
theorem Paired.step (after : ∀ last ∈ taken, last.endTime ≤ bar.startTime) :
    Steps base target zone bar.instrumentId taken bar state held bars := by
  by_cases same : ∃ last, taken.getLast? = some last ∧ sameRun target zone last bar = true
  · obtain ⟨last, lastTaken, alike⟩ := same
    exact paired.step_same clock isSource known complete lastTaken
      (after last (mem_of_mem_getLast? lastTaken)) alike
  · refine paired.step_other clock isSource known complete ?_
    intro last lastTaken
    rw [← Bool.not_eq_true]
    exact fun alike => same ⟨last, lastTaken, alike⟩

end

end

theorem Paired.finish (visible : PythonText.isBlank target.value = false)
    (paired : Paired target zone instrumentId taken state held bars)
    (complete : ∀ source ∈ taken, source.isComplete = true) :
    ∃ flushed, (⟨target, zone, none, state⟩ : BarAggregator).finish.1 = .ok flushed ∧
      completeBars flushed = [] := by
  cases paired with
  | fresh none => exact ⟨[], rfl, rfl⟩
  | collecting runSplits collects before =>
    obtain ⟨last, isLast⟩ := Option.isSome_iff_exists.mp (getLast?_isSome.mpr collects.filled)
    obtain ⟨lastKnown, -⟩ := collects.sources last (mem_of_mem_getLast? isLast)
    obtain ⟨summary, aggregated, -, collapses⟩ := collects.aggregateState visible
    refine ⟨[summary], ?_, completeBars_of_incomplete ?_⟩
    · unfold BarAggregator.finish
      dsimp only
      rw [aggregated]
    · rw [← Bool.not_eq_true, isComplete_of_collapses collapses isLast lastKnown ?_]
      · rintro ⟨-, reaches⟩
        exact absurd (before last (mem_of_mem_getLast? isLast)) (not_lt.mpr reaches)
      · intro source mem
        exact complete source ((suffix_of_splits runSplits).subset mem)
  | reached => exact ⟨[], rfl, rfl⟩

end Step

theorem forall_prefix_cons_iff {holds : List Bar → Prop} {rest : List Bar} :
    (∀ upTo, upTo <+: bar :: rest → upTo ≠ [] → holds (taken ++ upTo)) ↔
      holds (taken ++ [bar]) ∧
        ∀ upTo, upTo <+: rest → upTo ≠ [] → holds (taken ++ [bar] ++ upTo) := by
  constructor
  · intro all
    refine ⟨all [bar] (prefix_append [bar] rest) (cons_ne_nil _ _), ?_⟩
    intro upTo isPrefix _
    have longer := all (bar :: upTo) (cons_prefix_cons.mpr ⟨rfl, isPrefix⟩)
      (cons_ne_nil _ _)
    simpa using longer
  · rintro ⟨first, later⟩ upTo isPrefix nonempty
    obtain ⟨head, upTo, rfl⟩ := exists_cons_of_ne_nil nonempty
    obtain ⟨rfl, within⟩ := cons_prefix_cons.mp isPrefix
    cases upTo with
    | nil => exact first
    | cons next upTo =>
      have longer := later (next :: upTo) within (cons_ne_nil _ _)
      simpa using longer

theorem Paired.emitted {base : NMinuteConsolidator} {source : Timeframe}
    (clock : ClockConsolidator base source target zone)
    (bucketed : ∀ timestamp, ∃ bucket, clockBucketFor timestamp target zone = .ok bucket)
    {rest : List Bar} {state : Option AggregationState} {held : Option TimeInterval}
    {bars : List Bar} (paired : Paired target zone instrumentId taken state held bars)
    (isSource : ∀ bar ∈ rest, SourceBar source bar)
    (sameInstrument : ∀ bar ∈ rest, bar.instrumentId = instrumentId)
    (complete : ∀ source ∈ taken, source.isComplete = true)
    (ordered : (taken ++ rest).Pairwise fun first second => first.endTime ≤ second.startTime) :
    ∃ aggregated consolidated,
      (⟨target, zone, none, state⟩ : BarAggregator).emitted rest = .ok aggregated ∧
      (holdingBars base held bars).emitted rest = .ok consolidated ∧
      consolidated.length ≤ (completeBars aggregated).length ∧
      (∀ summary ∈ consolidated, summary.isComplete = true ∧ TiledFrom (taken ++ rest) summary) ∧
      (completeBars aggregated = consolidated ↔
        ∀ upTo, upTo <+: rest → upTo ≠ [] → LastRunFilled target zone (taken ++ upTo)) := by
  induction rest generalizing taken state held bars with
  | nil =>
    obtain ⟨flushed, finished, partials⟩ := paired.finish clock.visible complete
    refine ⟨flushed, [], finished, rfl, Nat.zero_le _, by simp, ?_⟩
    rw [partials]
    exact ⟨fun _ upTo isPrefix nonempty => absurd (prefix_nil.mp isPrefix) nonempty,
      fun _ => rfl⟩
  | cons bar rest ih =>
    have barSource := isSource bar mem_cons_self
    obtain rfl := sameInstrument bar mem_cons_self
    obtain ⟨bucket, known⟩ := bucketed bar.startTime
    have after : ∀ last ∈ taken, last.endTime ≤ bar.startTime := fun last mem =>
      (pairwise_append.mp ordered).2.2 last mem bar mem_cons_self
    obtain ⟨completed, next, produced, heldNext, barsNext, updated, consolidates, pairedNext,
      verdict⟩ := paired.step clock barSource known complete after
    have completeNext : ∀ source ∈ taken ++ [bar], source.isComplete = true := by
      intro source mem
      rcases mem_append.mp mem with among | new
      · exact complete source among
      · obtain rfl := mem_singleton.mp new
        exact barSource.complete
    have joins : taken ++ [bar] ++ rest = taken ++ bar :: rest := by simp
    obtain ⟨aggregated, consolidated, emits, emitsAlso, atMost, tiled, agrees⟩ := ih pairedNext
      (fun other mem => isSource other (mem_cons_of_mem _ mem))
      (fun other mem => sameInstrument other (mem_cons_of_mem _ mem)) completeNext
      (by rw [joins]; exact ordered)
    rw [joins] at tiled
    refine ⟨completed ++ aggregated, produced ++ consolidated, ?_, ?_, ?_⟩
    · rw [BarAggregator.emitted, updated]
      change (BarAggregator.emitted ⟨target, zone, none, next⟩ rest >>= _) = _
      rw [emits]
      rfl
    · rw [NMinuteConsolidator.emitted, consolidates]
      change ((holdingBars base heldNext barsNext).emitted rest >>= _) = _
      rw [emitsAlso]
      rfl
    · rw [forall_prefix_cons_iff, completeBars_append]
      cases verdict with
      | quiet none also holds =>
        subst also
        rw [none, nil_append, nil_append]
        exact ⟨atMost, tiled, agrees.trans (and_iff_right holds).symm⟩
      | agreed summary one also within holds =>
        subst also
        have whole : summary.isComplete = true := by
          have mem : summary ∈ completeBars completed := by rw [one]; exact mem_cons_self
          exact (mem_filter.mp mem).2
        rw [one]
        refine ⟨Nat.succ_le_succ atMost, ?_, ?_⟩
        · intro other mem
          rcases mem_cons.mp mem with new | later
          · subst new
            refine ⟨whole, ?_⟩
            have here : TiledFrom (taken ++ [bar] ++ rest) other := within.mono
            rwa [joins] at here
          · exact tiled other later
        · rw [singleton_append, singleton_append, cons_inj_right, agrees]
          exact (and_iff_right holds).symm
      | differs summary one none fails =>
        subst none
        rw [one]
        refine ⟨Nat.le_succ_of_le atMost, tiled, ?_⟩
        constructor
        · intro same
          have lengths := congrArg length same
          rw [singleton_append, length_cons, nil_append] at lengths
          omega
        · rintro ⟨holds, -⟩
          exact absurd holds fails

end Pairing

theorem parse_clock_timed {text : String} {target : Timeframe} (parsed : parse text = .ok target)
    (aligned : target.alignment = .clock) : ∃ duration, target.duration = some duration := by
  rw [parse] at parsed
  split at parsed
  · next duration found =>
    cases parsed
    exact ⟨duration, rfl⟩
  · split at parsed
    · cases parsed
      cases aligned
    · cases parsed

theorem create_consolidator {source target : Timeframe} {zone : TimeZone}
    {window : Option SessionIntervalSource} {consolidator : NMinuteConsolidator} {duration : Int}
    (timed : target.duration = some duration)
    (created : NMinuteConsolidator.create source target zone window = .ok consolidator) :
    consolidator = ⟨source, target, zone, window, none, none, []⟩ := by
  unfold NMinuteConsolidator.create at created
  dsimp only at created
  by_cases unclocked : source.alignment ≠ .clock
  · rw [if_pos unclocked] at created
    cases created
  · rw [if_neg unclocked] at created
    cases sourceTimed : source.duration with
    | none =>
      rw [sourceTimed] at created
      cases created
    | some sourceDuration =>
      rw [sourceTimed, timed] at created
      dsimp only at created
      split_ifs at created
      all_goals cases created
      · rfl
      · rfl

/-- The flags of both components are honest and the same exactly if no run of bars that starts
with its bucket reaches the end of it over a gap, or goes beyond it. -/
theorem flags_honest_iff {text : String} {source target : Timeframe} {zone : TimeZone}
    {window : Option SessionIntervalSource} {aggregator : BarAggregator}
    {consolidator : NMinuteConsolidator} {instrumentId : InstrumentId} {tape : List Bar}
    (parsed : parse text = .ok target) (aligned : target.alignment = .clock)
    (aggregates : BarAggregator.create target zone none = .ok aggregator)
    (consolidates : NMinuteConsolidator.create source target zone window = .ok consolidator)
    (isSource : ∀ bar ∈ tape, SourceBar source bar)
    (sameInstrument : ∀ bar ∈ tape, bar.instrumentId = instrumentId)
    (ordered : tape.Pairwise fun first second => first.endTime ≤ second.startTime) :
    ∃ aggregated consolidated, aggregator.emitted tape = .ok aggregated ∧
      consolidator.emitted tape = .ok consolidated ∧
      ((HonestFlags tape aggregated ∧ HonestFlags tape consolidated ∧
          completeBars aggregated = completeBars consolidated) ↔
        FilledRuns target zone tape) := by
  obtain ⟨duration, timed⟩ := parse_clock_timed parsed aligned
  obtain ⟨clock, whole⟩ := parse_isClock parsed timed
  obtain ⟨seconds, counted, -⟩ := durationSeconds_of_whole clock.pos clock.divides whole
  have bucketed : ∀ timestamp, ∃ bucket, clockBucketFor timestamp target zone = .ok bucket :=
    fun timestamp => ⟨_, clockBucketFor_eq clock counted timestamp⟩
  obtain rfl := create_consolidator timed consolidates
  obtain rfl : aggregator = ⟨target, zone, none, none⟩ := by
    unfold BarAggregator.create at aggregates
    rw [if_neg (not_not.mpr aligned)] at aggregates
    exact (Except.ok.inj aggregates).symm
  have isClock : ClockConsolidator ⟨source, target, zone, window, none, none, []⟩ source target
      zone := ⟨rfl, rfl, rfl, aligned, isBlank_of_parse parsed⟩
  obtain ⟨aggregated, consolidated, emits, emitsAlso, -, tiled, agrees⟩ :=
    Paired.emitted isClock bucketed (@Paired.fresh target zone instrumentId [] rfl) isSource
      sameInstrument (by simp) (by simpa using ordered)
  refine ⟨aggregated, consolidated, emits, emitsAlso, ?_⟩
  have flagged : completeBars consolidated = consolidated :=
    filter_eq_self.mpr fun summary mem => (tiled summary mem).1
  have honest : HonestFlags tape consolidated := by
    intro summary mem
    rw [flagged] at mem
    exact (tiled summary mem).2
  have filled : (∀ upTo, upTo <+: tape → upTo ≠ [] → LastRunFilled target zone ([] ++ upTo)) ↔
      FilledRuns target zone tape := by
    constructor
    · intro all upTo isPrefix
      cases upTo with
      | nil => exact nofun
      | cons bar upTo => exact all _ isPrefix (cons_ne_nil _ _)
    · intro all upTo isPrefix _
      exact all upTo isPrefix
  rw [flagged, ← filled, ← agrees]
  constructor
  · rintro ⟨-, -, same⟩
    exact same
  · intro same
    refine ⟨?_, honest, same⟩
    intro summary mem
    rw [same, ← flagged] at mem
    exact honest summary mem

namespace TwoSessions

def threeMinutes : Timeframe := ⟨"3m", some (180 * oneSecond), .clock⟩

def thirdMinute : Bar where
  instrumentId := apple
  startTime := 20592 * oneDay + 120 * oneSecond
  endTime := 20592 * oneDay + 180 * oneSecond
  timeframe := "1m"
  sessionId := "2026-05-19"
  openPrice := 102
  high := 104
  low := 101
  close := 103
  volume := 5
  isComplete := true
  valid := by decide +kernel

def aggregator : BarAggregator where
  targetTimeframe := threeMinutes
  exchangeTimezone := utc

def consolidator : NMinuteConsolidator where
  sourceTimeframe := oneMinute
  targetTimeframe := threeMinutes
  exchangeTimezone := utc
  sessionWindow := none

theorem flags_honest_iff_threeMinutes :
    ∃ aggregated consolidated,
      aggregator.emitted [firstMinute, secondMinute, thirdMinute] = .ok aggregated ∧
      consolidator.emitted [firstMinute, secondMinute, thirdMinute] = .ok consolidated ∧
      ((HonestFlags [firstMinute, secondMinute, thirdMinute] aggregated ∧
          HonestFlags [firstMinute, secondMinute, thirdMinute] consolidated ∧
          completeBars aggregated = completeBars consolidated) ↔
        FilledRuns threeMinutes utc [firstMinute, secondMinute, thirdMinute]) := by
  have parsed : parse "3m" = .ok threeMinutes := by decide +kernel
  have consolidates : NMinuteConsolidator.create oneMinute threeMinutes utc none =
      .ok consolidator := rfl
  refine @flags_honest_iff "3m" oneMinute threeMinutes utc none aggregator consolidator apple _
    parsed rfl rfl consolidates ?_ ?_ ?_
  · intro bar mem
    simp only [mem_cons, not_mem_nil, or_false] at mem
    rcases mem with rfl | rfl | rfl
    · exact ⟨rfl, rfl, rfl, by decide⟩
    · exact ⟨rfl, rfl, rfl, by decide⟩
    · exact ⟨rfl, rfl, rfl, by decide⟩
  · intro bar mem
    simp only [mem_cons, not_mem_nil, or_false] at mem
    rcases mem with rfl | rfl | rfl
    · rfl
    · rfl
    · rfl
  · refine .cons ?_ (.cons ?_ (pairwise_singleton _ _))
    · intro bar mem
      simp only [mem_cons, not_mem_nil, or_false] at mem
      rcases mem with rfl | rfl
      · decide
      · decide
    · intro bar mem
      obtain rfl := mem_singleton.mp mem
      decide

/-- Without its second minute the bar of three minutes is flagged complete all the same. -/
theorem gap_flagged_complete :
    ∃ aggregated, aggregator.emitted [firstMinute, thirdMinute] = .ok aggregated ∧
      ¬ HonestFlags [firstMinute, thirdMinute] aggregated := by
  have runs : (aggregator.emitted [firstMinute, thirdMinute]).toOption.map (fun bars =>
      bars.map fun bar => (bar.isComplete, bar.startTime, bar.endTime)) =
        some [(true, 20592 * oneDay, 20592 * oneDay + 180 * oneSecond)] := by
    decide +kernel
  cases emits : aggregator.emitted [firstMinute, thirdMinute] with
  | error failure =>
    rw [emits] at runs
    cases runs
  | ok aggregated =>
    refine ⟨aggregated, rfl, ?_⟩
    intro honest
    rw [emits] at runs
    have shown : aggregated.map (fun bar => (bar.isComplete, bar.startTime, bar.endTime)) =
        [(true, 20592 * oneDay, 20592 * oneDay + 180 * oneSecond)] := Option.some.inj runs
    have listed : (true, 20592 * oneDay, 20592 * oneDay + 180 * oneSecond) ∈
        aggregated.map fun bar => (bar.isComplete, bar.startTime, bar.endTime) := by
      rw [shown]
      exact mem_cons_self
    obtain ⟨bar, mem, is⟩ := mem_map.mp listed
    obtain ⟨complete, starts, ends⟩ : bar.isComplete = true ∧ bar.startTime = 20592 * oneDay ∧
        bar.endTime = 20592 * oneDay + 180 * oneSecond := by
      simpa using is
    obtain ⟨run, within, -, tiles⟩ := honest bar (mem_filter.mpr ⟨mem, complete⟩)
    rw [starts, ends] at tiles
    have ofTape : ∀ source ∈ run, source = firstMinute ∨ source = thirdMinute := by
      intro source inRun
      simpa using within.subset inRun
    cases run with
    | nil => cases tiles.starts
    | cons first rest =>
      have opens : first.startTime = 20592 * oneDay := Option.some.inj tiles.starts
      obtain rfl : first = firstMinute := by
        rcases ofTape first mem_cons_self with same | same
        · exact same
        · subst same
          exact absurd opens (by decide)
      cases rest with
      | nil => exact absurd (Option.some.inj tiles.ends) (by decide)
      | cons second rest =>
        have touches := (isChain_cons_cons.mp tiles.touching).1
        rcases ofTape second (mem_cons_of_mem _ mem_cons_self) with same | same
        · subst same
          exact absurd touches (by decide)
        · subst same
          exact absurd touches (by decide)

end TwoSessions

end Qts
