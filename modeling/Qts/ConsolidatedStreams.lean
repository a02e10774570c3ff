import Qts.AggregationComposition

/-! # Consolidated streams -/

namespace Qts

open KeyedRuns List Option Bool

section Tilings

variable {run : List Bar} {bar : Bar} {startTime endTime : DateTime}

theorem Tiles.append (tiles : Tiles run startTime bar.startTime) :
    Tiles (run ++ [bar]) startTime bar.endTime := by
  obtain ⟨starts, ends, touching⟩ := tiles
  refine ⟨?_, ?_, ?_⟩
  · rw [head?_append]
    cases run with
    | nil => cases starts
    | cons first rest => exact starts
  · rw [getLast?_concat]
    rfl
  · refine isChain_append.mpr ⟨touching, isChain_singleton _, ?_⟩
    intro last isLast next isNext
    obtain rfl := mem_some_iff.mp isNext
    rw [mem_def.mp isLast] at ends
    exact Option.some.inj ends

theorem Tiles.init (tiles : Tiles (run ++ [bar]) startTime endTime) (nonempty : run ≠ []) :
    Tiles run startTime bar.startTime := by
  obtain ⟨starts, -, touching⟩ := tiles
  obtain ⟨chain, -, joins⟩ := isChain_append.mp touching
  have isLast := getLast?_eq_some_getLast nonempty
  refine ⟨?_, ?_, chain⟩
  · obtain ⟨first, rest, rfl⟩ := exists_cons_of_ne_nil nonempty
    exact starts
  · rw [isLast]
    exact congrArg some (joins _ isLast bar rfl)

theorem tiles_singleton_iff :
    Tiles [bar] startTime endTime ↔ bar.startTime = startTime ∧ bar.endTime = endTime := by
  constructor
  · rintro ⟨starts, ends, -⟩
    exact ⟨Option.some.inj starts, Option.some.inj ends⟩
  · rintro ⟨rfl, rfl⟩
    exact ⟨rfl, rfl, isChain_singleton _⟩

theorem Tiles.end_unique {other : DateTime} (tiles : Tiles run startTime endTime)
    (others : Tiles run startTime other) : endTime = other :=
  Option.mem_unique tiles.ends others.ends

theorem Tiles.exists_last (tiles : Tiles run startTime endTime) :
    ∃ last, run.getLast? = some last ∧ last.endTime = endTime :=
  map_eq_some_iff.mp tiles.ends

theorem Tiles.le_end (tiles : Tiles run startTime endTime) :
    ∀ bar ∈ run, bar.endTime ≤ endTime := by
  induction run generalizing startTime with
  | nil => simp
  | cons first rest ih =>
    obtain ⟨starts, ends, touching⟩ := tiles
    cases rest with
    | nil =>
      intro bar mem
      obtain rfl := mem_singleton.mp mem
      exact (Option.some.inj ends).le
    | cons second rest =>
      obtain ⟨touches, chain⟩ := isChain_cons_cons.mp touching
      have later := ih ⟨rfl, ends, chain⟩
      intro bar mem
      rcases mem_cons.mp mem with rfl | among
      · rw [touches]
        exact second.formed.ordered.le.trans (later second mem_cons_self)
      · exact later bar among

end Tilings

/-- The next bar starts where a bar ends, or both are parts of one incomplete stretch. -/
def Touches (first second : Bar) : Prop :=
  first.endTime = second.startTime ∨
    first.endTime = second.endTime ∧ first.isComplete = false ∧ second.isComplete = false

def Promises (bucket : TimeInterval) (run : List Bar) : Prop :=
  run.head?.map (·.startTime) = some bucket.startTime ∧ ∀ bar ∈ run, bar.isComplete = true

/-- What a consolidator holds behind the last run of a stream: the run, when the bars that follow
can complete it, or else bars that no later bar completes. -/
inductive Awaits (target : Timeframe) (zone : TimeZone) (duration : Int) (run : List Bar) :
    Option TimeInterval → List Bar → Prop
  | live {bucket : TimeInterval} {endTime : DateTime}
      (sources : ∀ bar ∈ run, clockBucketFor bar.startTime target zone = .ok bucket)
      (complete : ∀ bar ∈ run, bar.isComplete = true)
      (tiles : Tiles run bucket.startTime endTime) (before : endTime < bucket.endTime)
      (counted : duration ∣ endTime - bucket.startTime) :
      Awaits target zone duration run (some bucket) run
  | idle {held : Option TimeInterval} {bars : List Bar}
      (sources : ∀ bucket, held = some bucket → ∀ bar ∈ bars,
        clockBucketFor bar.startTime target zone = .ok bucket)
      (behind : ∀ bar ∈ bars, ∃ last ∈ run.getLast?, bar.endTime ≤ last.endTime)
      (broken : ∀ bucket, held = some bucket → ∀ last ∈ run.getLast?,
        ¬ Tiles bars bucket.startTime last.endTime)
      (closed : ∀ last ∈ run.getLast?, ∀ bucket,
        clockBucketFor last.startTime target zone = .ok bucket →
          bucket.endTime ≤ last.endTime ∨ ¬ Promises bucket run) :
      Awaits target zone duration run held bars

section Steps

variable {target : Timeframe} {zone : TimeZone} {base : NMinuteConsolidator} {source : Timeframe}
  {length duration : Int} {held : Option TimeInterval} {run bars early : List Bar} {bar : Bar}
  {bucket : TimeInterval}

theorem Awaits.skip (awaits : Awaits target zone duration run held bars)
    (touches : ∀ last ∈ run.getLast?, Touches last bar) (incomplete : bar.isComplete = false) :
    Awaits target zone duration (early ++ [bar]) held bars := by
  have closed : ∀ last ∈ (early ++ [bar]).getLast?, ∀ bucket,
      clockBucketFor last.startTime target zone = .ok bucket →
        bucket.endTime ≤ last.endTime ∨ ¬ Promises bucket (early ++ [bar]) := by
    intro last isLast bucket known
    right
    rintro ⟨-, complete⟩
    rw [complete bar (by simp)] at incomplete
    cases incomplete
  have advances : ∀ last ∈ run.getLast?, last.endTime ≤ bar.endTime := by
    intro last isLast
    rcases touches last isLast with joins | ⟨same, -⟩
    · exact joins.le.trans bar.formed.ordered.le
    · exact same.le
  cases awaits with
  | @live bucket endTime sources complete tiles before =>
    obtain ⟨last, isLast, ends⟩ := tiles.exists_last
    have joins : last.endTime = bar.startTime := by
      rcases touches last isLast with joins | ⟨-, partly, -⟩
      · exact joins
      · rw [complete last (mem_of_mem_getLast? isLast)] at partly
        cases partly
    have further : endTime < bar.endTime := by
      rw [← ends, joins]
      exact bar.formed.ordered
    refine .idle ?_ ?_ ?_ closed
    · rintro _ ⟨⟩ other mem
      exact sources other mem
    · intro other mem
      exact ⟨bar, getLast?_concat, (tiles.le_end other mem).trans further.le⟩
    · rintro _ ⟨⟩ final isFinal others
      obtain rfl := mem_unique getLast?_concat isFinal
      exact further.ne (tiles.end_unique others)
  | idle sources behind broken _ =>
    refine .idle sources ?_ ?_ closed
    · intro other mem
      obtain ⟨last, isLast, ends⟩ := behind other mem
      exact ⟨bar, getLast?_concat, ends.trans (advances last isLast)⟩
    · intro bucket holds final isFinal tiles
      obtain rfl := mem_unique getLast?_concat isFinal
      obtain ⟨other, isOther, reaches⟩ := tiles.exists_last
      obtain ⟨last, isLast, before⟩ := behind other (mem_of_mem_getLast? isOther)
      rcases touches last isLast with joins | ⟨same, -⟩
      · have ordered := bar.formed.ordered
        rw [← joins, ← reaches] at ordered
        exact absurd before (not_le.mpr ordered)
      · rw [← same] at tiles
        exact broken bucket holds last isLast tiles

def Takes (base : NMinuteConsolidator) (target : Timeframe) (zone : TimeZone) (duration : Int)
    (run : List Bar) (bar summary : Bar) (held : Option TimeInterval) (bars : List Bar) : Prop :=
  ∃ heldNext barsNext,
    (holdingBars base held bars).update bar =
      (.ok (completeBars [summary]), holdingBars base heldNext barsNext) ∧
    Awaits target zone duration run heldNext barsNext

theorem Collapses.alike {summary : Bar} (collapses : Collapses target zone none run summary)
    (mem : bar ∈ run) (known : clockBucketFor bar.startTime target zone = .ok bucket) :
    ∀ other ∈ run, clockBucketFor other.startTime target zone = .ok bucket ∧
      other.instrumentId = bar.instrumentId ∧ other.sessionId = bar.sessionId := by
  obtain ⟨first, rest, found, rfl, sources, -⟩ := collapses
  obtain ⟨barKnown, barInstrument, barSession⟩ := sources bar mem
  obtain rfl := ok_unique known barKnown
  intro other among
  obtain ⟨otherKnown, otherInstrument, otherSession⟩ := sources other among
  exact ⟨otherKnown, otherInstrument.trans barInstrument.symm, otherSession.trans barSession.symm⟩

section Take

variable {summary : Bar} (clock : ClockConsolidator base source target zone)
  (isSource : SourceBar source bar)
  (known : clockBucketFor bar.startTime target zone = .ok bucket)
  (collapses : Collapses target zone none (early ++ [bar]) summary)

include clock isSource known collapses

theorem takes_of_tiles (complete : ∀ other ∈ early ++ [bar], other.isComplete = true)
    (tiles : Tiles (early ++ [bar]) bucket.startTime bar.endTime)
    (within : bar.endTime ≤ bucket.endTime) (counted : duration ∣ bar.endTime - bucket.startTime)
    (collected : (holdingBars base held bars).collect bucket bar =
      holdingBars base (some bucket) (early ++ [bar])) :
    Takes base target zone duration (early ++ [bar]) bar summary held bars := by
  have isLast : (early ++ [bar]).getLast? = some bar := getLast?_concat
  have alsoKnown : clockBucketFor bar.startTime base.targetTimeframe base.exchangeTimezone =
      .ok bucket := by rw [clock.ofTarget, clock.ofZone, known]
  obtain ⟨unfilled, fills⟩ :=
    update_holding isSource clock.ofSource (by rw [clock.ofTarget, clock.aligned]) alsoKnown
      collected
  have flag := isComplete_of_collapses collapses isLast known complete
  by_cases reaches : bar.endTime = bucket.endTime
  · have whole : summary.isComplete = true := flag.mpr ⟨tiles.starts, reaches.ge⟩
    have aggregated := aggregate_of_collapses clock.ofTarget collapses isLast known whole
    have filled := tiles
    rw [reaches] at filled
    refine ⟨none, [], ?_, .idle nofun (by simp) nofun ?_⟩
    · rw [completeBars_singleton whole]
      exact fills filled summary aggregated
    · intro last isEnd other otherKnown
      obtain rfl := mem_unique isLast isEnd
      obtain rfl := ok_unique known otherKnown
      exact .inl reaches.ge
  · have before := lt_of_le_of_ne within reaches
    have partly : summary.isComplete = false := by
      rw [← not_eq_true, flag]
      rintro ⟨-, past⟩
      exact absurd before (not_lt.mpr past)
    refine ⟨some bucket, early ++ [bar], ?_, .live ?_ complete tiles before counted⟩
    · rw [completeBars_of_incomplete partly]
      exact unfilled fun filled => reaches (tiles.end_unique filled)
    · intro other mem
      exact (collapses.alike (by simp) known other mem).1

/-- A bar of a run that no longer can fill its bucket completes nothing. -/
theorem takes_of_broken {front : List Bar}
    (sources : ∀ other ∈ front, clockBucketFor other.startTime target zone = .ok bucket)
    (behind : ∀ other ∈ front, other.endTime ≤ bar.endTime)
    (broken : ¬ Tiles (front ++ [bar]) bucket.startTime bar.endTime)
    (unpromised : ¬ Promises bucket (early ++ [bar]))
    (collected : (holdingBars base held bars).collect bucket bar =
      holdingBars base (some bucket) (front ++ [bar])) :
    Takes base target zone duration (early ++ [bar]) bar summary held bars := by
  have isLast : (early ++ [bar]).getLast? = some bar := getLast?_concat
  have alsoKnown : clockBucketFor bar.startTime base.targetTimeframe base.exchangeTimezone =
      .ok bucket := by rw [clock.ofTarget, clock.ofZone, known]
  obtain ⟨unfilled, -⟩ :=
    update_holding isSource clock.ofSource (by rw [clock.ofTarget, clock.aligned]) alsoKnown
      collected
  have partly : summary.isComplete = false := by
    rw [← not_eq_true, isComplete_iff collapses isLast known]
    rintro ⟨⟨starts, -⟩, complete⟩
    exact unpromised ⟨starts, complete⟩
  refine ⟨some bucket, front ++ [bar], ?_, .idle ?_ ?_ ?_ ?_⟩
  · rw [completeBars_of_incomplete partly]
    refine unfilled fun filled => broken ?_
    obtain ⟨last, isEnd, ends⟩ := filled.exists_last
    obtain rfl := mem_unique getLast?_concat isEnd
    rwa [← ends] at filled
  · rintro _ ⟨⟩ other mem
    rcases mem_append.mp mem with among | new
    · exact sources other among
    · obtain rfl := mem_singleton.mp new
      exact known
  · intro other mem
    refine ⟨bar, isLast, ?_⟩
    rcases mem_append.mp mem with among | new
    · exact behind other among
    · obtain rfl := mem_singleton.mp new
      exact le_rfl
  · rintro _ ⟨⟩ last isEnd
    obtain rfl := mem_unique isLast isEnd
    exact broken
  · intro last isEnd other otherKnown
    obtain rfl := mem_unique isLast isEnd
    obtain rfl := ok_unique known otherKnown
    exact .inr unpromised

end Take

theorem collect_cases :
    (∃ last ∈ bars.getLast?, held = some bucket ∧ (holdingBars base held bars).collect bucket bar =
        holdingBars base (some bucket) (bars ++ [bar])) ∨
      (holdingBars base held bars).collect bucket bar =
        holdingBars base (some bucket) ([] ++ [bar]) := by
  by_cases continues : (holdingBars base held bars).sameBucketStream bucket bar = true
  · left
    obtain ⟨last, isLast, same⟩ := (any_eq_true _ _).mp continues
    obtain ⟨holds, -⟩ := of_decide_eq_true same
    refine ⟨last, isLast, holds, ?_⟩
    change held = some bucket at holds
    subst holds
    exact if_pos continues
  · right
    exact if_neg continues

section Take

variable {summary : Bar} (clock : ClockConsolidator base source target zone)
  (grid : FollowsGrid target zone length) (divides : duration ∣ length)
  (isSource : SourceBar source bar) (lasts : bar.endTime = bar.startTime + duration)
  (known : clockBucketFor bar.startTime target zone = .ok bucket)

include clock grid divides isSource lasts known

theorem takes_of_opening (collapses : Collapses target zone none ([] ++ [bar]) summary)
    (collected : (holdingBars base held bars).collect bucket bar =
      holdingBars base (some bucket) ([] ++ [bar])) :
    Takes base target zone duration ([] ++ [bar]) bar summary held bars := by
  obtain ⟨bucketStarts, bucketEnds⟩ := grid.known known
  by_cases starts : bar.startTime = bucket.startTime
  · have long : bar.endTime = bucket.startTime + duration := by rw [lasts, starts]
    refine takes_of_tiles clock isSource known collapses ?_ ?_ ?_ ?_ collected
    · intro other mem
      obtain rfl := mem_singleton.mp mem
      exact isSource.complete
    · exact tiles_singleton_iff.mpr ⟨starts, rfl⟩
    · have short := Int.le_of_dvd grid.pos divides
      rw [long, bucketEnds, ← bucketStarts]
      exact Int.add_le_add_left short _
    · rw [long, add_sub_cancel_left]
  · refine takes_of_broken clock isSource known collapses (by simp) (by simp) ?_ ?_ collected
    · exact fun tiles => starts (tiles_singleton_iff.mp tiles).1
    · rintro ⟨opens, -⟩
      exact starts (Option.some.inj opens)

theorem takes_of_live {endTime : DateTime}
    (collapses : Collapses target zone none (run ++ [bar]) summary)
    (complete : ∀ other ∈ run, other.isComplete = true) (tiles : Tiles run bucket.startTime endTime)
    (counted : duration ∣ endTime - bucket.startTime) (joins : endTime = bar.startTime) :
    Takes base target zone duration (run ++ [bar]) bar summary (some bucket) run := by
  obtain ⟨bucketStarts, bucketEnds⟩ := grid.known known
  obtain ⟨last, isLast, -⟩ := tiles.exists_last
  obtain ⟨-, sameInstrument, sameSession⟩ := collapses.alike (by simp) known last
    (mem_append_left _ (mem_of_mem_getLast? isLast))
  subst joins
  have reached : duration ∣ bar.endTime - bucket.startTime := by
    have further := Int.dvd_add counted (dvd_refl duration)
    rwa [← add_sub_right_comm, ← lasts] at further
  refine takes_of_tiles clock isSource known collapses ?_ tiles.append ?_ reached
    (collect_same isLast sameInstrument sameSession)
  · intro other mem
    rcases mem_append.mp mem with among | new
    · exact complete other among
    · obtain rfl := mem_singleton.mp new
      exact isSource.complete
  · rw [lasts]
    refine @add_length_le_of_lt duration (-bucket.startTime) _ _ ?_ ?_ ?_
    · rwa [← sub_eq_add_neg]
    · rw [← sub_eq_add_neg, bucketEnds, ← bucketStarts, add_sub_cancel_left]
      exact divides
    · rw [bucketEnds]
      exact lt_gridStart_add grid.pos zone.initial bar.startTime

theorem Awaits.take (awaits : Awaits target zone duration run held bars)
    (collapses : Collapses target zone none (early ++ [bar]) summary)
    (touches : ∀ last ∈ run.getLast?, last.endTime = bar.startTime)
    (next : run ≠ [] ∧ early = run ∨
      early = [] ∧ ∀ last ∈ run.getLast?, sameRun target zone last bar = false) :
    Takes base target zone duration (early ++ [bar]) bar summary held bars := by
  obtain ⟨bucketStarts, bucketEnds⟩ := grid.known known
  cases awaits with
  | @live other endTime sources complete tiles before counted =>
    obtain ⟨last, isLast, ends⟩ := tiles.exists_last
    have lastKnown := sources last (mem_of_mem_getLast? isLast)
    rcases next with ⟨-, rfl⟩ | ⟨rfl, differs⟩
    · obtain ⟨alsoKnown, -⟩ := collapses.alike (by simp) known last
        (mem_append_left _ (mem_of_mem_getLast? isLast))
      obtain rfl := ok_unique lastKnown alsoKnown
      exact takes_of_live clock grid divides isSource lasts known collapses complete tiles
        counted (ends.symm.trans (touches last isLast))
    · refine takes_of_opening clock grid divides isSource lasts known collapses
        (collect_other ?_)
      intro found isFound holds sameSession
      obtain rfl := mem_unique isLast isFound
      obtain rfl := Option.some.inj holds
      have same := (sameRun_iff lastKnown known).mpr ⟨rfl, sameSession⟩
      rw [differs last isLast] at same
      cases same
  | idle sources behind broken closed =>
    -- What is held cannot be completed, so the bar completes nothing unless it opens a bucket.
    have startsBehind : ∀ other ∈ bars, other.endTime ≤ bar.startTime := by
      intro other mem
      obtain ⟨last, isLast, ends⟩ := behind other mem
      exact ends.trans (touches last isLast).le
    have appended : held = some bucket → bars ≠ [] →
        ¬ Tiles (bars ++ [bar]) bucket.startTime bar.endTime := by
      intro holds nonempty tiles
      have init := tiles.init nonempty
      obtain ⟨other, isOther, -⟩ := init.exists_last
      obtain ⟨last, isLast, -⟩ := behind other (mem_of_mem_getLast? isOther)
      rw [← touches last isLast] at init
      exact broken bucket holds last isLast init
    have prolongs : ∀ other ∈ bars, other.endTime ≤ bar.endTime :=
      fun other mem => (startsBehind other mem).trans bar.formed.ordered.le
    rcases next with ⟨nonempty, rfl⟩ | ⟨rfl, -⟩
    · have isLast := getLast?_eq_some_getLast nonempty
      have joins := touches _ isLast
      obtain ⟨lastKnown, -⟩ := collapses.alike (by simp) known _
        (mem_append_left _ (getLast_mem nonempty))
      have unpromised : ¬ Promises bucket (early ++ [bar]) := by
        rintro ⟨opens, complete⟩
        rcases closed _ isLast bucket lastKnown with past | unpromised
        · rw [joins, bucketEnds] at past
          exact absurd (lt_gridStart_add grid.pos zone.initial bar.startTime)
            (not_lt.mpr past)
        · refine unpromised ⟨?_, fun other mem =>
            complete other (mem_append_left _ mem)⟩
          obtain ⟨first, rest, rfl⟩ := exists_cons_of_ne_nil nonempty
          exact opens
      rcases collect_cases with ⟨last, isHeld, holds, collected⟩ | collected
      · have filled := ne_nil_of_mem (mem_of_mem_getLast? isHeld)
        exact takes_of_broken clock isSource known collapses (sources bucket holds) prolongs
          (appended holds filled) unpromised collected
      · refine takes_of_broken clock isSource known collapses (by simp) (by simp) ?_ unpromised
          collected
        intro tiles
        have opens := (tiles_singleton_iff.mp tiles).1
        have ordered := (early.getLast nonempty).formed.ordered
        have inside := gridStart_le grid.pos zone.initial (early.getLast nonempty).startTime
        rw [← (grid.known lastKnown).1, ← opens, ← joins] at inside
        exact absurd ordered (not_lt.mpr inside)
    · rcases collect_cases with ⟨last, isHeld, holds, collected⟩ | collected
      · have inHeld := mem_of_mem_getLast? isHeld
        refine takes_of_broken clock isSource known collapses (sources bucket holds) prolongs
          (appended holds (ne_nil_of_mem inHeld)) ?_ collected
        rintro ⟨opens, -⟩
        have starts : bar.startTime = bucket.startTime := Option.some.inj opens
        have ordered := last.formed.ordered.trans_le (startsBehind last inHeld)
        have inside := gridStart_le grid.pos zone.initial last.startTime
        rw [← (grid.known (sources bucket holds last inHeld)).1, ← starts] at inside
        exact absurd ordered (not_lt.mpr inside)
      · exact takes_of_opening clock grid divides isSource lasts known collapses collected

end Take

end Steps

section Streams

variable {target : Timeframe} {zone : TimeZone} {base : NMinuteConsolidator} {source : Timeframe}
  {length duration : Int} {held : Option TimeInterval} {run bars : List Bar}

theorem Collapses.unique {session : Option MarketSession} {bar other : Bar}
    (collapses : Collapses target zone session run bar)
    (others : Collapses target zone session run other) : bar = other := by
  obtain ⟨first, rest, bucket, rfl, sources, fields⟩ := collapses
  obtain ⟨second, tail, found, same, otherSources, otherFields⟩ := others
  obtain ⟨rfl, rfl⟩ := List.cons.inj same
  have known := (sources first mem_cons_self).1
  obtain rfl := Except.ok.inj (known.symm.trans (otherSources first mem_cons_self).1)
  exact Bar.eq_of_fields (fields.trans otherFields.symm)

theorem collapses_unique {runs : List (List Bar)} {summaries others : List Bar}
    (collapses : Forall₂ (Collapses target zone none) runs summaries)
    (same : Forall₂ (Collapses target zone none) runs others) : summaries = others :=
  right_unique_forall₂' (fun _ _ _ one other => one.unique other) collapses same

def lastRun (target : Timeframe) (zone : TimeZone) (bars : List Bar) : List Bar :=
  ((maximalRuns target zone bars).getLast?).getD []

theorem lastRun_eq {closed : List (List Bar)}
    (splits : maximalRuns target zone bars = closed ++ [run]) : lastRun target zone bars = run := by
  rw [lastRun, splits, getLast?_concat, getD_some]

theorem maximalRuns_concat (taken : List Bar) (bar : Bar) : ∃ closed early,
    maximalRuns target zone (taken ++ [bar]) = closed ++ [early ++ [bar]] ∧
      taken.getLast? = (lastRun target zone taken).getLast? ∧
      (early ≠ [] ∧ maximalRuns target zone taken = closed ++ [early] ∨
        early = [] ∧ maximalRuns target zone taken = closed ∧
          ∀ last ∈ taken.getLast?, sameRun target zone last bar = false) := by
  rcases (maximalRuns target zone taken).eq_nil_or_concat with none | ⟨closed, run, splits⟩
  · have joins : taken = [] := by
      rw [← flatten_splitBy (sameRun target zone) taken]
      change (maximalRuns target zone taken).flatten = []
      rw [none, flatten_nil]
    subst joins
    exact ⟨[], [], rfl, rfl, .inr ⟨rfl, rfl, by simp⟩⟩
  · rw [concat_eq_append] at splits
    have filled : run ≠ [] := by
      rintro rfl
      refine nil_notMem_splitBy (sameRun target zone) taken ?_
      change [] ∈ maximalRuns target zone taken
      rw [splits]
      exact mem_append_right _ mem_cons_self
    have isLast := maximalRuns_getLast splits filled
    have ends : taken.getLast? = (lastRun target zone taken).getLast? := by
      rw [lastRun_eq splits, isLast]
    by_cases same : ∀ last ∈ run.getLast?, sameRun target zone last bar = true
    · exact ⟨closed, run, splitBy_concat_same splits same, ends, .inl ⟨filled, splits⟩⟩
    · have differs : ∀ last ∈ taken.getLast?, sameRun target zone last bar = false := by
        intro last found
        rw [isLast] at found
        rw [← not_eq_true]
        intro alike
        refine same fun other isOther => ?_
        obtain rfl := mem_unique found isOther
        exact alike
      exact ⟨_, [], splitBy_concat_other differs, ends, .inr ⟨rfl, rfl, differs⟩⟩

theorem isComplete_of_prolonged (grid : FollowsGrid target zone length) {bar summary longer : Bar}
    (collapses : Collapses target zone none run summary)
    (further : Collapses target zone none (run ++ [bar]) longer)
    (touches : ∀ last ∈ run.getLast?, Touches last bar) : summary.isComplete = false := by
  have filled : run ≠ [] := by
    obtain ⟨first, rest, -, rfl, -⟩ := collapses
    exact cons_ne_nil _ _
  have isLast := getLast?_eq_some_getLast filled
  have inRun := getLast_mem filled
  obtain ⟨bucket, known, starts, ends⟩ := grid.bucket bar.startTime
  have lastKnown := (further.alike (by simp) known _ (mem_append_left _ inRun)).1
  rw [← not_eq_true, isComplete_iff collapses isLast lastKnown]
  rintro ⟨⟨-, past⟩, complete⟩
  rcases touches _ isLast with joins | ⟨-, partly, -⟩
  · rw [joins, ends] at past
    exact absurd (lt_gridStart_add grid.pos zone.initial bar.startTime) (not_lt.mpr past)
  · rw [complete _ inRun] at partly
    cases partly

section

variable (clock : ClockConsolidator base source target zone) (grid : FollowsGrid target zone length)
  (divides : duration ∣ length)

include clock grid divides

theorem Awaits.emitted {taken rest soFar summaries : List Bar}
    (awaits : Awaits target zone duration (lastRun target zone taken) held bars)
    (isSource : ∀ bar ∈ rest, bar.isComplete = true →
      SourceBar source bar ∧ bar.endTime = bar.startTime + duration)
    (touching : (taken ++ rest).IsChain Touches)
    (collapse : ∀ upTo, upTo <+: taken ++ rest → ∃ summaries,
      Forall₂ (Collapses target zone none) (maximalRuns target zone upTo) summaries)
    (emits : Forall₂ (Collapses target zone none) (maximalRuns target zone taken) soFar)
    (collapses : Forall₂ (Collapses target zone none)
      (maximalRuns target zone (taken ++ rest)) summaries) :
    ∃ later, (holdingBars base held bars).emitted (completeBars rest) = .ok later ∧
      completeBars summaries = completeBars soFar ++ later := by
  induction rest generalizing taken soFar held bars with
  | nil =>
    rw [append_nil] at collapses
    obtain rfl := collapses_unique collapses emits
    exact ⟨[], rfl, (append_nil _).symm⟩
  | cons bar rest ih =>
    obtain ⟨closed, early, splits, ends, next⟩ := @maximalRuns_concat target zone taken bar
    have joins : taken ++ [bar] ++ rest = taken ++ bar :: rest := by simp
    obtain ⟨soFarNext, emitsNext⟩ := collapse (taken ++ [bar])
      (by rw [← joins]; exact prefix_append _ _)
    have touches : ∀ last ∈ (lastRun target zone taken).getLast?, Touches last bar := by
      intro last isLast
      rw [← ends] at isLast
      exact (isChain_append.mp touching).2.2 last isLast bar rfl
    have split := emitsNext
    rw [splits] at split
    obtain ⟨front, summary, rfl, emitsFront, collapsesLast⟩ := forall₂_concat_inv split
    have counted : completeBars soFar = completeBars front := by
      rcases next with ⟨-, before⟩ | ⟨-, before, -⟩
      · rw [before] at emits
        obtain ⟨others, other, rfl, emitsOthers, collapsesEarly⟩ := forall₂_concat_inv emits
        obtain rfl := collapses_unique emitsOthers emitsFront
        rw [lastRun_eq before] at touches
        rw [completeBars_append, completeBars_of_incomplete
          (isComplete_of_prolonged grid collapsesEarly collapsesLast touches), append_nil]
      · rw [before] at emits
        rw [collapses_unique emits emitsFront]
    have isNext : lastRun target zone (taken ++ [bar]) = early ++ [bar] := lastRun_eq splits
    have goesOn : ∀ {held : Option TimeInterval} {bars : List Bar},
        Awaits target zone duration (early ++ [bar]) held bars →
          ∃ later, (holdingBars base held bars).emitted (completeBars rest) = .ok later ∧
            completeBars summaries = completeBars soFar ++ (completeBars [summary] ++ later) := by
      intro held bars awaitsNext
      rw [← isNext] at awaitsNext
      obtain ⟨later, produces, agrees⟩ := ih awaitsNext
        (fun other mem => isSource other (mem_cons_of_mem _ mem))
        (by rw [joins]; exact touching) (by rw [joins]; exact collapse) emitsNext
        (by rw [joins]; exact collapses)
      refine ⟨later, produces, ?_⟩
      rw [agrees, completeBars_append, counted, append_assoc]
    cases complete : bar.isComplete with
    | true =>
      obtain ⟨barSource, lasts⟩ := isSource bar mem_cons_self complete
      obtain ⟨bucket, known, -⟩ := grid.bucket bar.startTime
      have follows : lastRun target zone taken ≠ [] ∧ early = lastRun target zone taken ∨
          early = [] ∧ ∀ last ∈ (lastRun target zone taken).getLast?,
            sameRun target zone last bar = false := by
        rcases next with ⟨nonempty, before⟩ | ⟨none, -, differs⟩
        · rw [lastRun_eq before]
          exact .inl ⟨nonempty, rfl⟩
        · rw [← ends]
          exact .inr ⟨none, differs⟩
      have joined : ∀ last ∈ (lastRun target zone taken).getLast?,
          last.endTime = bar.startTime := by
        intro last isLast
        rcases touches last isLast with joined | ⟨-, -, partly⟩
        · exact joined
        · rw [complete] at partly
          cases partly
      obtain ⟨heldNext, barsNext, updates, awaitsNext⟩ := awaits.take clock grid divides barSource
        lasts known collapsesLast joined follows
      obtain ⟨later, produces, agrees⟩ := goesOn awaitsNext
      refine ⟨completeBars [summary] ++ later, ?_, agrees⟩
      have listed : completeBars (bar :: rest) = bar :: completeBars rest :=
        filter_cons_of_pos complete
      rw [listed, NMinuteConsolidator.emitted, updates]
      change ((holdingBars base heldNext barsNext).emitted (completeBars rest) >>= _) = _
      rw [produces]
      rfl
    | false =>
      obtain ⟨later, produces, agrees⟩ := goesOn (awaits.skip touches complete)
      have partly : summary.isComplete = false := by
        obtain ⟨bucket, known, -⟩ := grid.bucket bar.startTime
        rw [← not_eq_true, isComplete_iff collapsesLast getLast?_concat known]
        rintro ⟨-, all⟩
        rw [all bar (by simp)] at complete
        cases complete
      have listed : completeBars (bar :: rest) = completeBars rest :=
        filter_cons_of_neg (by simp [complete])
      rw [completeBars_of_incomplete partly, nil_append] at agrees
      rw [listed]
      exact ⟨later, produces, agrees⟩

theorem emitted_completeBars {instrumentId : InstrumentId} {stream : List Bar}
    (ofInstrument : ∀ bar ∈ stream, bar.instrumentId = instrumentId)
    (proceeds : stream.IsChain (Proceeds length zone.initial)) (touching : stream.IsChain Touches)
    (isSource : ∀ bar ∈ stream, bar.isComplete = true →
      SourceBar source bar ∧ bar.endTime = bar.startTime + duration) {summaries : List Bar}
    (emits : (⟨target, zone, none, none⟩ : BarAggregator).emitted stream = .ok summaries) :
    (holdingBars base none []).emitted (completeBars stream) = .ok (completeBars summaries) := by
  have collapse : ∀ upTo, upTo <+: [] ++ stream → ∃ summaries,
      (⟨target, zone, none, none⟩ : BarAggregator).emitted upTo = .ok summaries ∧
        Forall₂ (Collapses target zone none) (maximalRuns target zone upTo) summaries := by
    intro upTo isPrefix
    have touching :=
      List.IsChain.infix proceeds isPrefix.isInfix
    obtain ⟨emitted, found, collapses⟩ := grid.emitted
      (fun bar mem => ofInstrument bar (isPrefix.subset mem)) touching
    rw [← grid.maximalRuns_eq] at collapses
    exact ⟨emitted, found, collapses⟩
  obtain ⟨all, found, collapses⟩ := collapse stream (prefix_refl stream)
  obtain rfl := ok_unique emits found
  have fresh : Awaits target zone duration (lastRun target zone []) none [] :=
    .idle nofun (by simp) nofun (by simp [lastRun, maximalRuns])
  obtain ⟨later, produces, agrees⟩ := fresh.emitted clock grid divides isSource touching
    (fun upTo isPrefix => (collapse upTo isPrefix).imp fun _ => And.right) .nil collapses
  rw [produces, agrees]
  rfl

end

end Streams

end Qts
