import Qts.BarAggregators
import Qts.DailySessions
import Qts.StableSorting
import Mathlib.Data.List.SplitBy

/-! # One bar for each run -/

namespace Qts

open PythonText BarAggregator Timeframe List Option

section Runs

universe u

variable {Item : Type u} {alike : Item → Item → Bool} {items : List Item} {item : Item}

theorem splitBy_concat_other (differs : ∀ last ∈ items.getLast?, alike last item = false) :
    (items ++ [item]).splitBy alike = items.splitBy alike ++ [[item]] :=
  splitBy_append_cons [] differs

theorem splitBy_concat_same {closed : List (List Item)} {run : List Item}
    (splits : items.splitBy alike = closed ++ [run])
    (same : ∀ last ∈ run.getLast?, alike last item = true) :
    (items ++ [item]).splitBy alike = closed ++ [run ++ [item]] := by
  obtain ⟨joins, filled, chains, apart⟩ := splitBy_eq_iff.mp splits
  have nonempty : run ≠ [] := by
    rintro rfl
    exact filled (mem_append_right _ mem_cons_self)
  refine splitBy_eq_iff.mpr ⟨?_, ?_, ?_, ?_⟩
  · rw [joins]
    simp
  · intro mem
    rcases mem_append.mp mem with among | last
    · exact filled (mem_append_left _ among)
    · simp at last
  · intro other mem
    rcases mem_append.mp mem with among | last
    · exact chains other (mem_append_left _ among)
    · obtain rfl := mem_singleton.mp last
      refine isChain_append.mpr ⟨chains run (mem_append_right _ mem_cons_self),
        isChain_singleton _, ?_⟩
      intro before isLast after isHead
      obtain rfl := mem_some_iff.mp isHead
      exact same before isLast
  · obtain ⟨closedApart, -, between⟩ := isChain_append.mp apart
    refine isChain_append.mpr ⟨closedApart, isChain_singleton _, ?_⟩
    intro before isLast after isHead
    obtain rfl := mem_some_iff.mp isHead
    obtain ⟨beforeFilled, runFilled, differs⟩ := between before isLast run rfl
    refine ⟨beforeFilled, append_ne_nil_of_left_ne_nil nonempty _, ?_⟩
    rwa [head_append_of_ne_nil nonempty]

end Runs

def bucketOf (target : Timeframe) (zone : TimeZone) (bar : Bar) : Option TimeInterval :=
  (clockBucketFor bar.startTime target zone).toOption

def sameRun (target : Timeframe) (zone : TimeZone) (first second : Bar) : Bool :=
  decide (bucketOf target zone first = bucketOf target zone second ∧
    first.sessionId = second.sessionId)

def maximalRuns (target : Timeframe) (zone : TimeZone) (bars : List Bar) : List (List Bar) :=
  bars.splitBy (sameRun target zone)

def clampedEnd (session : Option MarketSession) (bucket : TimeInterval) : DateTime :=
  match session with
  | none => bucket.endTime
  | some session => min session.closeTime bucket.endTime

structure AccountsFor (target : Timeframe) (zone : TimeZone) (session : Option MarketSession)
    (run : List Bar) (bar : Bar) : Prop where
  summary : Summarizes bar run
  tradeCount : bar.tradeCount =
    if run.any (·.tradeCount.isSome) then some (run.map fun source => source.tradeCount.getD 0).sum
    else none
  instrument : ∀ source ∈ run, source.instrumentId = bar.instrumentId
  sameSession : ∀ source ∈ run, source.sessionId = bar.sessionId
  bucket : ∀ source ∈ run, ∃ bucket, clockBucketFor source.startTime target zone = .ok bucket ∧
    bar.startTime = bucket.startTime ∧ bar.endTime = clampedEnd session bucket

theorem sumTradeCount_eq (bars : List Bar) :
    sumTradeCount bars =
      if bars.any (·.tradeCount.isSome) then
        some (bars.map fun source => source.tradeCount.getD 0).sum
      else none := by
  have total : (bars.filterMap (·.tradeCount)).sum =
      (bars.map fun source => source.tradeCount.getD 0).sum := by
    induction bars with
    | nil => rfl
    | cons bar bars ih =>
      cases counted : bar.tradeCount <;> simp [counted, ih]
  have counted : bars.filterMap (·.tradeCount) = [] ↔ ¬ bars.any (·.tradeCount.isSome) := by
    simp
  unfold sumTradeCount
  dsimp only
  by_cases none : bars.filterMap (·.tradeCount) = []
  · rw [if_pos none, if_neg (counted.mp none)]
  · rw [if_neg none, if_pos (not_not.mp (counted.not.mp none)), total]

section Collecting

variable {target : Timeframe} {zone : TimeZone} {session : Option MarketSession}
  {instrumentId : InstrumentId} {sessionId : String} {bucket : TimeInterval} {run : List Bar}

structure CollectsRun (target : Timeframe) (zone : TimeZone) (session : Option MarketSession)
    (instrumentId : InstrumentId) (sessionId : String) (bucket : TimeInterval) (run : List Bar)
    (state : AggregationState) : Prop where
  filled : run ≠ []
  bars : state.bars = run
  timeframe : state.targetTimeframe = target
  starts : state.bucket.startTime = bucket.startTime
  ends : state.bucket.endTime = clampedEnd session bucket
  natural : state.naturalBucketEnd = bucket.endTime
  sources : ∀ source ∈ run, clockBucketFor source.startTime target zone = .ok bucket ∧
    source.instrumentId = instrumentId ∧ source.sessionId = sessionId

def runIsPartial (session : Option MarketSession) (bucket : TimeInterval) (first : Bar)
    (rest : List Bar) : Bool :=
  decide (first.startTime ≠ bucket.startTime) ||
    decide (((first :: rest).getLast (cons_ne_nil _ _)).endTime < clampedEnd session bucket) ||
    decide (clampedEnd session bucket ≠ bucket.endTime) || !(first :: rest).all (·.isComplete)

/-- A bar is what the aggregator makes of a run. -/
def Collapses (target : Timeframe) (zone : TimeZone) (session : Option MarketSession)
    (run : List Bar) (bar : Bar) : Prop :=
  ∃ first rest bucket, run = first :: rest ∧
    (∀ source ∈ run, clockBucketFor source.startTime target zone = .ok bucket ∧
      source.instrumentId = first.instrumentId ∧ source.sessionId = first.sessionId) ∧
    bar.toBarFields = combinedFields target bucket.startTime (clampedEnd session bucket)
      (runIsPartial session bucket first rest) first rest

theorem CollectsRun.aggregateState {state : AggregationState}
    (collects : CollectsRun target zone session instrumentId sessionId bucket run state)
    (visible : isBlank target.value = false) :
    ∃ bar, Qts.aggregateState state = .ok bar ∧ bar.instrumentId = instrumentId ∧
      Collapses target zone session run bar := by
  obtain ⟨first, rest, rfl⟩ := exists_cons_of_ne_nil collects.filled
  have starts := collects.sources first mem_cons_self
  have alike : ∀ source ∈ first :: rest, source.instrumentId = first.instrumentId ∧
      source.sessionId = first.sessionId := by
    intro source mem
    obtain ⟨-, sameInstrument, sameSession⟩ := collects.sources source mem
    exact ⟨sameInstrument.trans starts.2.1.symm, sameSession.trans starts.2.2.symm⟩
  have ordered : bucket.startTime < clampedEnd session bucket := by
    rw [← collects.starts, ← collects.ends]
    exact state.bucket.ordered
  have formed := combinedFields_wellFormed (runIsPartial session bucket first rest) first rest
    ordered visible
  refine ⟨⟨_, (BarFields.wellFormed_iff _).mpr formed⟩, ?_, ?_, first, rest, bucket, rfl, ?_,
    rfl⟩
  · unfold Qts.aggregateState
    rw [collects.bars]
    dsimp only
    rw [streamChecks_pass alike, collects.timeframe, collects.starts, collects.natural]
    unfold AggregationState.aggregateEnd
    rw [collects.ends]
    exact Bar.create_eq formed
  · exact starts.2.1
  · intro source mem
    exact ⟨(collects.sources source mem).1, alike source mem⟩

variable {bar : Bar}

theorem Collapses.accountsFor (collapses : Collapses target zone session run bar) :
    AccountsFor target zone session run bar := by
  obtain ⟨first, rest, bucket, rfl, sources, fields⟩ := collapses
  exact {
    summary := {
      opens := by rw [fields]; rfl
      highest := by rw [fields]; exact high_spec first rest
      lowest := by rw [fields]; exact low_spec first rest
      closes := by
        rw [fields, getLast?_eq_some_getLast (cons_ne_nil first rest)]
        rfl
      volume := by rw [fields]; rfl }
    tradeCount := by
      rw [fields]
      exact sumTradeCount_eq (first :: rest)
    instrument := by
      intro source mem
      rw [fields]
      exact (sources source mem).2.1
    sameSession := by
      intro source mem
      rw [fields]
      exact (sources source mem).2.2
    bucket := by
      intro source mem
      refine ⟨bucket, (sources source mem).1, ?_, ?_⟩
      · rw [fields]
        rfl
      · rw [fields]
        rfl }

def InsideSession (session : Option MarketSession) (bar : Bar) : Prop :=
  ∀ market ∈ session, market.openTime ≤ bar.startTime ∧ bar.endTime ≤ market.closeTime

instance (session : Option MarketSession) (bar : Bar) : Decidable (InsideSession session bar) :=
  inferInstanceAs (Decidable (∀ market ∈ session,
    market.openTime ≤ bar.startTime ∧ bar.endTime ≤ market.closeTime))

theorem outside_eq (session : Option MarketSession) (bar : Bar) :
    (session.any fun session => !barInsideSession bar session) =
      !decide (InsideSession session bar) := by
  cases session with
  | none => simp [InsideSession]
  | some session =>
    have ordered := bar.formed.ordered
    have inside : barInsideSession bar session = decide (InsideSession (some session) bar) := by
      rw [Bool.eq_iff_iff]
      simp only [barInsideSession, InsideSession, MarketSession.openTime, MarketSession.closeTime,
        Bool.and_eq_true, decide_eq_true_eq, mem_some_iff, forall_eq']
      constructor
      · rintro ⟨⟨opens, -⟩, closes⟩
        exact ⟨opens, of_decide_eq_true closes⟩
      · rintro ⟨opens, closes⟩
        exact ⟨⟨opens, lt_of_lt_of_le ordered closes⟩, decide_eq_true closes⟩
    rw [any_some, inside]

theorem clockBucketFor_length {timestamp : DateTime}
    (known : clockBucketFor timestamp target zone = .ok bucket) :
    ∃ duration, target.duration = some duration ∧
      bucket.endTime = bucket.startTime + duration := by
  unfold clockBucketFor at known
  split at known
  · next duration _ timed =>
    obtain ⟨seconds, -, known⟩ := bind_inv known
    dsimp only [TimeInterval.of] at known
    split at known
    · obtain rfl := Except.ok.inj known
      exact ⟨duration, timed, rfl⟩
    · cases known
  · cases known

theorem starts_before_clampedEnd (inside : InsideSession session bar)
    (contains : bucket.Contains bar.startTime) : bar.startTime < clampedEnd session bucket := by
  have ordered := bar.formed.ordered
  unfold clampedEnd
  cases session with
  | none => exact contains.2
  | some session =>
    obtain ⟨-, closes⟩ := inside session rfl
    exact lt_min (lt_of_lt_of_le ordered closes) contains.2

theorem newStateFor_collects {bar : Bar} (state : Option AggregationState)
    (known : clockBucketFor bar.startTime target zone = .ok bucket)
    (ordered : bucket.startTime < clampedEnd session bucket) :
    ∃ incoming, (⟨target, zone, session, state⟩ : BarAggregator).newStateFor bar = .ok incoming ∧
      CollectsRun target zone session bar.instrumentId bar.sessionId bucket [bar] incoming := by
  have interval : TimeInterval.of bucket.startTime (clampedEnd session bucket) =
      .ok ⟨bucket.startTime, clampedEnd session bucket, ordered⟩ := dif_pos ordered
  refine ⟨{
    bucket := ⟨bucket.startTime, clampedEnd session bucket, ordered⟩
    naturalBucketEnd := bucket.endTime
    targetTimeframe := target
    bars := [bar] }, ?_, ?_⟩
  · unfold newStateFor
    dsimp only
    rw [known]
    cases session with
    | none =>
      change (TimeInterval.of bucket.startTime (clampedEnd none bucket) >>= _) = _
      rw [interval]
      rfl
    | some market =>
      change (TimeInterval.of bucket.startTime (if market.closeTime < bucket.endTime then
        market.closeTime else bucket.endTime) >>= _) = _
      rw [← min_def_lt]
      change (TimeInterval.of bucket.startTime (clampedEnd (some market) bucket) >>= _) = _
      rw [interval]
      rfl
  · exact {
      filled := cons_ne_nil _ _
      bars := rfl
      timeframe := rfl
      starts := rfl
      ends := rfl
      natural := rfl
      sources := by
        intro source mem
        obtain rfl := mem_singleton.mp mem
        exact ⟨known, rfl, rfl⟩ }

inductive Tracks (target : Timeframe) (zone : TimeZone) (session : Option MarketSession)
    (instrumentId : InstrumentId) (taken emitted : List Bar) : Option AggregationState → Prop
  | idle
      (emits : Forall₂ (Collapses target zone session) (maximalRuns target zone taken) emitted)
      (reached : ∀ last ∈ taken.getLast?, ∀ bucket,
        clockBucketFor last.startTime target zone = .ok bucket →
          clampedEnd session bucket ≤ last.endTime) :
      Tracks target zone session instrumentId taken emitted none
  | collecting {closed : List (List Bar)} {run : List Bar} {state : AggregationState}
      {sessionId : String} {bucket : TimeInterval}
      (splits : maximalRuns target zone taken = closed ++ [run])
      (emits : Forall₂ (Collapses target zone session) closed emitted)
      (collects : CollectsRun target zone session instrumentId sessionId bucket run state) :
      Tracks target zone session instrumentId taken emitted (some state)

theorem sameStreamBucket_eq {state incoming : AggregationState} {other : TimeInterval}
    {last bar : Bar}
    (collects : CollectsRun target zone session instrumentId sessionId bucket run state)
    (isLast : run.getLast? = some last)
    (starts : CollectsRun target zone session instrumentId bar.sessionId other [bar] incoming) :
    sameStreamBucket state incoming = sameRun target zone last bar := by
  obtain ⟨lastKnown, lastInstrument, lastSession⟩ :=
    collects.sources last (mem_of_mem_getLast? isLast)
  obtain ⟨barKnown, barInstrument, -⟩ := starts.sources bar mem_cons_self
  have sameBucket : state.bucket = incoming.bucket ↔ bucket = other := by
    obtain ⟨duration, timed, length⟩ := clockBucketFor_length lastKnown
    obtain ⟨otherDuration, otherTimed, otherLength⟩ := clockBucketFor_length barKnown
    obtain rfl := Option.mem_unique timed otherTimed
    constructor
    · intro same
      have sameStart : bucket.startTime = other.startTime := by
        rw [← collects.starts, ← starts.starts, same]
      cases bucket
      cases other
      simp only [TimeInterval.mk.injEq]
      dsimp only at length otherLength sameStart
      omega
    · rintro rfl
      cases stateBucket : state.bucket
      cases incomingBucket : incoming.bucket
      simp only [TimeInterval.mk.injEq]
      have stateStarts := collects.starts
      have stateEnds := collects.ends
      have incomingStarts := starts.starts
      have incomingEnds := starts.ends
      rw [stateBucket] at stateStarts stateEnds
      rw [incomingBucket] at incomingStarts incomingEnds
      exact ⟨stateStarts.trans incomingStarts.symm, stateEnds.trans incomingEnds.symm⟩
  unfold sameStreamBucket sameRun bucketOf
  rw [collects.bars, starts.bars, isLast, lastKnown, barKnown]
  simp [sameBucket, lastInstrument, barInstrument, Except.toOption]

theorem maximalRuns_getLast {bars run : List Bar} {closed : List (List Bar)}
    (splits : maximalRuns target zone bars = closed ++ [run]) (filled : run ≠ []) :
    bars.getLast? = run.getLast? := by
  have joins : bars = closed.flatten ++ run := by
    rw [← flatten_splitBy (sameRun target zone) bars]
    change (maximalRuns target zone bars).flatten = _
    rw [splits]
    simp
  rw [joins, getLast?_append_of_ne_nil _ filled]

theorem CollectsRun.append {state : AggregationState}
    (collects : CollectsRun target zone session instrumentId sessionId bucket run state)
    (known : clockBucketFor bar.startTime target zone = .ok bucket)
    (sameInstrument : bar.instrumentId = instrumentId) (sameSession : bar.sessionId = sessionId) :
    CollectsRun target zone session instrumentId sessionId bucket (run ++ [bar])
      { state with bars := state.bars ++ [bar] } where
  filled := append_ne_nil_of_right_ne_nil _ (cons_ne_nil _ _)
  bars := congrArg (· ++ [bar]) collects.bars
  timeframe := collects.timeframe
  starts := collects.starts
  ends := collects.ends
  natural := collects.natural
  sources := by
    intro source mem
    rcases mem_append.mp mem with among | last
    · exact collects.sources source among
    · obtain rfl := mem_singleton.mp last
      exact ⟨known, sameInstrument, sameSession⟩

/-- If the last bar reached the end of its bucket, the next one is of another run. -/
def OpensRun (target : Timeframe) (zone : TimeZone) (session : Option MarketSession)
    (taken : List Bar) (bar : Bar) : Prop :=
  ∀ last ∈ taken.getLast?, (∀ bucket, clockBucketFor last.startTime target zone = .ok bucket →
    clampedEnd session bucket ≤ last.endTime) → sameRun target zone last bar = false

theorem opensRun_of_after {taken : List Bar}
    (known : clockBucketFor bar.startTime target zone = .ok bucket)
    (inside : InsideSession session bar) (contains : bucket.Contains bar.startTime)
    (after : ∀ last ∈ taken.getLast?, last.endTime ≤ bar.startTime) :
    OpensRun target zone session taken bar := by
  intro last isLast reached
  rw [← Bool.not_eq_true]
  intro same
  obtain ⟨sameBucket, -⟩ := of_decide_eq_true same
  rw [bucketOf, bucketOf, known] at sameBucket
  have lastKnown : clockBucketFor last.startTime target zone = .ok bucket := by
    cases found : clockBucketFor last.startTime target zone with
    | error failure =>
      rw [found] at sameBucket
      cases sameBucket
    | ok other =>
      rw [found] at sameBucket
      exact congrArg Except.ok (Option.some.inj sameBucket)
  have behind := (reached bucket lastKnown).trans (after last isLast)
  exact absurd (starts_before_clampedEnd inside contains) (not_lt.mpr behind)

variable {state : Option AggregationState} {taken emitted : List Bar}

theorem takeIn_collects {incoming : AggregationState} (visible : isBlank target.value = false)
    (tracks : Tracks target zone session instrumentId taken emitted state)
    (starts : CollectsRun target zone session instrumentId bar.sessionId bucket [bar] incoming)
    (opens : OpensRun target zone session taken bar) :
    ∃ completed closed run next,
      (⟨target, zone, session, state⟩ : BarAggregator).takeIn incoming = .ok (completed, next) ∧
      maximalRuns target zone (taken ++ [bar]) = closed ++ [run] ∧
      Forall₂ (Collapses target zone session) closed (emitted ++ completed) ∧
      CollectsRun target zone session instrumentId bar.sessionId bucket run next ∧
      run.getLast? = some bar ∧ ∀ emitted ∈ completed, emitted.instrumentId = instrumentId := by
  obtain ⟨known, sameInstrument, -⟩ := starts.sources bar mem_cons_self
  cases tracks with
  | idle emits reached =>
    have differs : ∀ last ∈ taken.getLast?, sameRun target zone last bar = false :=
      fun last isLast => opens last isLast (reached last isLast)
    refine ⟨[], maximalRuns target zone taken, [bar], incoming, rfl, splitBy_concat_other differs,
      ?_, starts, rfl, by simp⟩
    rwa [append_nil]
  | @collecting closed run state sessionId other splits emits collects =>
    obtain ⟨last, isLast⟩ := getLast?_isSome.mpr collects.filled |> isSome_iff_exists.mp
    have same := sameStreamBucket_eq collects isLast starts
    unfold takeIn
    dsimp only
    by_cases alike : sameRun target zone last bar = true
    · obtain ⟨sameBucket, sameSession⟩ := of_decide_eq_true alike
      obtain ⟨lastKnown, -, lastSession⟩ :=
        collects.sources last (mem_of_mem_getLast? isLast)
      rw [bucketOf, bucketOf, known, lastKnown] at sameBucket
      obtain rfl := Option.some.inj sameBucket
      obtain rfl := lastSession.symm.trans sameSession
      rw [same, alike, if_pos rfl, starts.bars]
      refine ⟨[], closed, run ++ [bar], _, rfl, splitBy_concat_same splits ?_, ?_,
        collects.append known sameInstrument rfl, by simp, by simp⟩
      · intro found isFound
        obtain rfl := mem_unique isLast isFound
        exact alike
      · rwa [append_nil]
    · obtain ⟨emitted, aggregated, ofStream, collapses⟩ := collects.aggregateState visible
      rw [Bool.not_eq_true] at alike
      have differs : ∀ found ∈ taken.getLast?, sameRun target zone found bar = false := by
        intro found isFound
        rw [maximalRuns_getLast splits collects.filled] at isFound
        obtain rfl := mem_unique isLast isFound
        exact alike
      have grown : maximalRuns target zone (taken ++ [bar]) = (closed ++ [run]) ++ [[bar]] := by
        rw [← splits]
        exact splitBy_concat_other differs
      rw [same, alike, if_neg Bool.false_ne_true, aggregated]
      refine ⟨[emitted], closed ++ [run], [bar], incoming, rfl, grown, ?_, starts, rfl, ?_⟩
      · exact rel_append emits (.cons collapses .nil)
      · intro found mem
        obtain rfl := mem_singleton.mp mem
        exact ofStream

theorem update_of_takeIn {incoming next : AggregationState} {completed : List Bar}
    (inside : InsideSession session bar)
    (opened : (⟨target, zone, session, state⟩ : BarAggregator).newStateFor bar = .ok incoming)
    (takenIn : (⟨target, zone, session, state⟩ : BarAggregator).takeIn incoming =
      .ok (completed, next))
    (collects : CollectsRun target zone session instrumentId sessionId bucket run next)
    (isLast : run.getLast? = some bar) :
    (¬ clampedEnd session bucket ≤ bar.endTime →
      (⟨target, zone, session, state⟩ : BarAggregator).update bar =
        (.ok completed, ⟨target, zone, session, some next⟩)) ∧
    (clampedEnd session bucket ≤ bar.endTime → ∀ closed, aggregateState next = .ok closed →
      (⟨target, zone, session, state⟩ : BarAggregator).update bar =
        (.ok (completed ++ [closed]), ⟨target, zone, session, none⟩)) := by
  have accepted : (session.any fun session => !barInsideSession bar session) = false := by
    rw [outside_eq, decide_eq_true inside, Bool.not_true]
  have ending : reachesEnd next =
      decide (clampedEnd session bucket ≤ bar.endTime) := by
    unfold reachesEnd AggregationState.aggregateEnd
    rw [collects.bars, isLast, collects.ends, any_some]
  unfold update
  dsimp only
  rw [accepted, if_neg Bool.false_ne_true, opened]
  dsimp only
  rw [takenIn]
  dsimp only
  rw [ending]
  constructor
  · intro stillOpen
    rw [decide_eq_false stillOpen, if_neg Bool.false_ne_true]
  · intro reaches closed aggregated
    rw [decide_eq_true reaches, if_pos rfl, aggregated]

theorem update_tracks (visible : isBlank target.value = false)
    (tracks : Tracks target zone session bar.instrumentId taken emitted state)
    (inside : InsideSession session bar)
    (known : clockBucketFor bar.startTime target zone = .ok bucket)
    (ordered : bucket.startTime < clampedEnd session bucket)
    (opens : OpensRun target zone session taken bar) :
    ∃ completed next,
      (⟨target, zone, session, state⟩ : BarAggregator).update bar =
        (.ok completed, ⟨target, zone, session, next⟩) ∧
      Tracks target zone session bar.instrumentId (taken ++ [bar]) (emitted ++ completed) next ∧
      ∀ emitted ∈ completed, emitted.instrumentId = bar.instrumentId := by
  obtain ⟨incoming, opened, starts⟩ := newStateFor_collects state known ordered
  obtain ⟨completed, closed, run, next, takenIn, splits, emits, collects, isLast, ofStream⟩ :=
    takeIn_collects visible tracks starts opens
  obtain ⟨stays, closes⟩ := update_of_takeIn inside opened takenIn collects isLast
  by_cases reaches : clampedEnd session bucket ≤ bar.endTime
  · obtain ⟨summary, aggregated, sameInstrument, collapses⟩ := collects.aggregateState visible
    refine ⟨completed ++ [summary], none, closes reaches summary aggregated, .idle ?_ ?_, ?_⟩
    · rw [splits, ← append_assoc]
      exact rel_append emits (.cons collapses .nil)
    · intro last found other otherKnown
      rw [getLast?_concat, mem_some_iff] at found
      subst found
      obtain rfl := ok_unique known otherKnown
      exact reaches
    · intro found mem
      rcases mem_append.mp mem with among | last
      · exact ofStream found among
      · obtain rfl := mem_singleton.mp last
        exact sameInstrument
  · exact ⟨completed, some next, stays reaches, .collecting splits emits collects, ofStream⟩

theorem finish_tracks (visible : isBlank target.value = false)
    (tracks : Tracks target zone session instrumentId taken emitted state) :
    ∃ completed, (⟨target, zone, session, state⟩ : BarAggregator).finish.1 = .ok completed ∧
      Forall₂ (Collapses target zone session) (maximalRuns target zone taken)
        (emitted ++ completed) ∧
      ∀ emitted ∈ completed, emitted.instrumentId = instrumentId := by
  cases tracks with
  | idle emits reached =>
    refine ⟨[], rfl, ?_, by simp⟩
    rwa [append_nil]
  | collecting splits emits collects =>
    obtain ⟨summary, aggregated, sameInstrument, collapses⟩ := collects.aggregateState visible
    refine ⟨[summary], ?_, ?_, ?_⟩
    · unfold finish
      dsimp only
      rw [aggregated]
    · rw [splits]
      exact rel_append emits (.cons collapses .nil)
    · intro found mem
      obtain rfl := mem_singleton.mp mem
      exact sameInstrument

end Collecting

def accepted (session : Option MarketSession) (instrumentId : InstrumentId) (bars : List Bar) :
    List Bar :=
  bars.filter fun bar => decide (bar.instrumentId = instrumentId ∧ InsideSession session bar)

def ofInstrument (instrumentId : InstrumentId) (bars : List Bar) : List Bar :=
  bars.filter fun bar => decide (bar.instrumentId = instrumentId)

def InsideBucket (target : Timeframe) (zone : TimeZone) (bar : Bar) : Prop :=
  ∃ bucket, clockBucketFor bar.startTime target zone = .ok bucket ∧
    bucket.startTime ≤ bar.startTime ∧ bar.endTime ≤ bucket.endTime

/-- Two bars of one instrument do not overlap. -/
def Apart (first second : Bar) : Prop :=
  first.instrumentId = second.instrumentId →
    first.endTime ≤ second.startTime ∨ second.endTime ≤ first.startTime

def Follows (first second : Bar) : Prop :=
  first.instrumentId = second.instrumentId → first.endTime ≤ second.startTime

section Streams

variable {target : Timeframe} {zone : TimeZone} {session : Option MarketSession}

theorem ofInstrument_append (instrumentId : InstrumentId) (first second : List Bar) :
    ofInstrument instrumentId (first ++ second) =
      ofInstrument instrumentId first ++ ofInstrument instrumentId second :=
  filter_append ..

variable {bars : List Bar}

theorem ofInstrument_self {instrumentId : InstrumentId}
    (all : ∀ bar ∈ bars, bar.instrumentId = instrumentId) : ofInstrument instrumentId bars = bars :=
  filter_eq_self.mpr fun bar mem => decide_eq_true (all bar mem)

theorem ofInstrument_other {instrumentId other : InstrumentId}
    (all : ∀ bar ∈ bars, bar.instrumentId = other) (ne : other ≠ instrumentId) :
    ofInstrument instrumentId bars = [] := by
  refine filter_eq_nil_iff.mpr ?_
  intro bar mem
  rw [decide_eq_true_eq, all bar mem]
  exact ne

variable {bar : Bar}

theorem accepted_concat_self (inside : InsideSession session bar) (bars : List Bar) :
    accepted session bar.instrumentId (bars ++ [bar]) =
      accepted session bar.instrumentId bars ++ [bar] := by
  simp [accepted, inside]

theorem accepted_concat_outside (outside : ¬ InsideSession session bar)
    (instrumentId : InstrumentId) (bars : List Bar) :
    accepted session instrumentId (bars ++ [bar]) = accepted session instrumentId bars := by
  simp [accepted, outside]

theorem accepted_concat_other {instrumentId : InstrumentId}
    (ne : bar.instrumentId ≠ instrumentId) (bars : List Bar) :
    accepted session instrumentId (bars ++ [bar]) = accepted session instrumentId bars := by
  simp [accepted, ne]

def aggregatorOf (target : Timeframe) (zone : TimeZone) (session : Option MarketSession)
    (aggregators : Dict InstrumentId BarAggregator) (instrumentId : InstrumentId) :
    BarAggregator :=
  (aggregators.get? instrumentId).getD ⟨target, zone, session, none⟩

def Serves (target : Timeframe) (zone : TimeZone) (session : Option MarketSession)
    (taken : List Bar) (aggregation : Aggregation) : Prop :=
  ∀ instrumentId, ∃ state,
    aggregatorOf target zone session aggregation.2 instrumentId = ⟨target, zone, session, state⟩ ∧
    Tracks target zone session instrumentId (accepted session instrumentId taken)
      (ofInstrument instrumentId aggregation.1) state

theorem Serves.initial : Serves target zone session [] ([], .empty) := by
  intro instrumentId
  exact ⟨none, rfl, .idle .nil (by simp [accepted])⟩

theorem create_of_bucket (bucketed : InsideBucket target zone bar) :
    create target zone session = .ok ⟨target, zone, session, none⟩ := by
  obtain ⟨bucket, known, -⟩ := bucketed
  unfold clockBucketFor at known
  split at known
  · next aligned _ =>
    exact if_neg (not_not.mpr aligned)
  · cases known

theorem Serves.step {taken : List Bar} {aggregation : Aggregation}
    (visible : isBlank target.value = false) (serves : Serves target zone session taken aggregation)
    (bucketed : InsideBucket target zone bar) (after : ∀ earlier ∈ taken, Follows earlier bar) :
    ∃ completed next,
      (aggregatorOf target zone session aggregation.2 bar.instrumentId).update bar =
        (.ok completed, next) ∧
      Serves target zone session (taken ++ [bar])
        (aggregation.1 ++ completed, aggregation.2.set bar.instrumentId next) := by
  obtain ⟨state, found, tracks⟩ := serves bar.instrumentId
  obtain ⟨bucket, known, starts, ends⟩ := bucketed
  have contains : bucket.Contains bar.startTime :=
    ⟨starts, lt_of_lt_of_le bar.formed.ordered ends⟩
  have others : ∀ (completed : List Bar) (next : BarAggregator) (instrumentId : InstrumentId),
      bar.instrumentId ≠ instrumentId →
      (∀ emitted ∈ completed, emitted.instrumentId = bar.instrumentId) →
      ∃ state, aggregatorOf target zone session (aggregation.2.set bar.instrumentId next)
          instrumentId = ⟨target, zone, session, state⟩ ∧
        Tracks target zone session instrumentId
          (accepted session instrumentId (taken ++ [bar]))
          (ofInstrument instrumentId (aggregation.1 ++ completed)) state := by
    intro completed next instrumentId ne ofStream
    obtain ⟨other, otherFound, otherTracks⟩ := serves instrumentId
    refine ⟨other, ?_, ?_⟩
    · rw [← otherFound]
      unfold aggregatorOf
      rw [aggregation.2.get?_set_of_ne next ne.symm]
    · rwa [accepted_concat_other ne, ofInstrument_append,
        ofInstrument_other ofStream ne, append_nil]
  by_cases inside : InsideSession session bar
  · have behind : ∀ last ∈ (accepted session bar.instrumentId taken).getLast?,
        last.endTime ≤ bar.startTime := by
      intro last isLast
      obtain ⟨among, isAccepted⟩ := mem_filter.mp (mem_of_mem_getLast? isLast)
      exact after last among (of_decide_eq_true isAccepted).1
    obtain ⟨completed, next, updated, tracksNext, ofStream⟩ :=
      update_tracks visible tracks inside known
        (lt_of_le_of_lt contains.1 (starts_before_clampedEnd inside contains))
        (opensRun_of_after known inside contains behind)
    refine ⟨completed, _, by rw [found, updated], ?_⟩
    intro instrumentId
    by_cases same : bar.instrumentId = instrumentId
    · subst same
      refine ⟨next, ?_, ?_⟩
      · unfold aggregatorOf
        rw [aggregation.2.get?_set_self]
        rfl
      · rwa [accepted_concat_self inside, ofInstrument_append, ofInstrument_self ofStream]
    · exact others completed _ instrumentId same ofStream
  · have ignored : (⟨target, zone, session, state⟩ : BarAggregator).update bar =
        (.ok [], ⟨target, zone, session, state⟩) := by
      unfold update
      dsimp only
      rw [outside_eq, decide_eq_false inside, Bool.not_false, if_pos rfl]
    refine ⟨[], _, by rw [found, ignored], ?_⟩
    intro instrumentId
    by_cases same : bar.instrumentId = instrumentId
    · subst same
      refine ⟨state, ?_, ?_⟩
      · unfold aggregatorOf
        rw [aggregation.2.get?_set_self]
        rfl
      · rwa [accepted_concat_outside inside, append_nil]
    · exact others [] _ instrumentId same (by simp)

theorem aggregateEach_serves {taken bars : List Bar} {aggregation : Aggregation}
    (visible : isBlank target.value = false) (serves : Serves target zone session taken aggregation)
    (bucketed : ∀ bar ∈ bars, InsideBucket target zone bar)
    (ordered : (taken ++ bars).Pairwise Follows) :
    ∃ done, aggregateEach target zone session bars aggregation = .ok done ∧
      Serves target zone session (taken ++ bars) done := by
  induction bars generalizing taken aggregation with
  | nil => exact ⟨aggregation, rfl, by rwa [append_nil]⟩
  | cons bar bars ih =>
    have first := bucketed bar mem_cons_self
    have after : ∀ earlier ∈ taken, Follows earlier bar := fun earlier mem =>
      (pairwise_append.mp ordered).2.2 earlier mem bar mem_cons_self
    obtain ⟨completed, next, updated, servesNext⟩ := serves.step visible first after
    obtain ⟨done, rest, servesDone⟩ := ih servesNext
      (fun other mem => bucketed other (mem_cons_of_mem _ mem)) (by simpa using ordered)
    refine ⟨done, ?_, by simpa using servesDone⟩
    have fed : aggregateEach target zone session (bar :: bars) aggregation =
        ((aggregatorOf target zone session aggregation.2 bar.instrumentId).update bar).1 >>=
          fun completed => aggregateEach target zone session bars (aggregation.1 ++ completed,
            aggregation.2.set bar.instrumentId
              ((aggregatorOf target zone session aggregation.2 bar.instrumentId).update
                  bar).2) := by
      rw [aggregateEach, create_of_bucket first]
      rfl
    rw [fed, updated]
    exact rest

theorem finishEach_tracks {items : List (InstrumentId × BarAggregator)}
    {taken emitted : InstrumentId → List Bar} (visible : isBlank target.value = false)
    (distinct : (items.map Prod.fst).Nodup)
    (tracks : ∀ item ∈ items, ∃ state, item.2 = ⟨target, zone, session, state⟩ ∧
      Tracks target zone session item.1 (taken item.1) (emitted item.1) state) :
    ∃ flushed, finishEach (items.map Prod.snd) = .ok flushed ∧
      (∀ bar ∈ flushed, bar.instrumentId ∈ items.map Prod.fst) ∧
      ∀ instrumentId ∈ items.map Prod.fst, Forall₂ (Collapses target zone session)
        (maximalRuns target zone (taken instrumentId))
        (emitted instrumentId ++ ofInstrument instrumentId flushed) := by
  induction items with
  | nil => exact ⟨[], rfl, by simp, by simp⟩
  | cons item items ih =>
    obtain ⟨fresh, distinctRest⟩ := nodup_cons.mp distinct
    obtain ⟨state, found, tracked⟩ := tracks item mem_cons_self
    obtain ⟨completed, finished, emits, ofStream⟩ := finish_tracks visible tracked
    obtain ⟨flushed, later, among, rest⟩ := ih distinctRest
      fun other mem => tracks other (mem_cons_of_mem _ mem)
    refine ⟨completed ++ flushed, ?_, ?_, ?_⟩
    · rw [map_cons, finishEach, found, finished]
      change (finishEach (items.map Prod.snd) >>= _) = _
      rw [later]
      rfl
    · intro bar mem
      rcases mem_append.mp mem with own | other
      · rw [ofStream bar own]
        exact mem_cons_self
      · exact mem_cons_of_mem _ (among bar other)
    · intro instrumentId mem
      rw [ofInstrument_append]
      by_cases same : item.1 = instrumentId
      · subst same
        have none : ofInstrument item.1 flushed = [] := by
          refine filter_eq_nil_iff.mpr ?_
          intro bar inFlushed isSame
          rw [← of_decide_eq_true isSame] at fresh
          exact fresh (among bar inFlushed)
        rwa [ofInstrument_self ofStream, none, append_nil]
      · rw [ofInstrument_other ofStream same, nil_append]
        rcases mem_cons.mp mem with head | tail
        · exact absurd head.symm same
        · exact rest instrumentId tail

def startOrdered (bars : List Bar) : List Bar :=
  bars.insertionSort fun first second => first.startTime ≤ second.startTime

theorem sortedByStream_perm (bars : List Bar) : (sortedByStream bars).Perm bars :=
  perm_insertionSort _ bars

theorem sortedByStream_pairwise (bars : List Bar) :
    (sortedByStream bars).Pairwise fun first second => streamKey first ≤ streamKey second :=
  StableSorting.pairwise_key streamKey (fun _ _ => Iff.rfl) bars

theorem starts_le_of_streamKey {first second : Bar}
    (same : first.instrumentId = second.instrumentId)
    (before : streamKey first ≤ streamKey second) : first.startTime ≤ second.startTime := by
  unfold streamKey at before
  rw [same] at before
  rcases Prod.Lex.toLex_le_toLex.mp before with less | ⟨-, starts⟩
  · exact absurd less (lt_irrefl _)
  · exact starts

theorem apart_symm {first second : Bar} (apart : Apart first second) : Apart second first :=
  fun same => (apart same.symm).symm

theorem sortedByStream_follows (apart : bars.Pairwise Apart) :
    (sortedByStream bars).Pairwise Follows := by
  have stillApart : (sortedByStream bars).Pairwise Apart :=
    ((sortedByStream_perm bars).pairwise_iff apart_symm).mpr apart
  refine (stillApart.and (sortedByStream_pairwise bars)).imp ?_
  rintro first second ⟨separate, before⟩ same
  have starts := starts_le_of_streamKey same before
  have ordered := second.formed.ordered
  rcases separate same with follows | precedes
  · exact follows
  · have later : second.endTime ≤ second.startTime := precedes.trans starts
    exact absurd ordered (not_lt.mpr later)

theorem accepted_sortedByStream (apart : bars.Pairwise Apart) (instrumentId : InstrumentId) :
    accepted session instrumentId (sortedByStream bars) =
      startOrdered (accepted session instrumentId bars) := by
  have follows := sortedByStream_follows apart
  have perm : (accepted session instrumentId (sortedByStream bars)).Perm
      (accepted session instrumentId bars) := (sortedByStream_perm bars).filter _
  have inOrder : (accepted session instrumentId (sortedByStream bars)).Pairwise
      fun first second => first.endTime ≤ second.startTime := by
    refine (follows.filter _).imp_of_mem ?_
    intro first second firstMember secondMember behind
    have firstOf := (of_decide_eq_true (mem_filter.mp firstMember).2).1
    have secondOf := (of_decide_eq_true (mem_filter.mp secondMember).2).1
    exact behind (firstOf.trans secondOf.symm)
  have sorted : (accepted session instrumentId (sortedByStream bars)).Pairwise
      fun first second => first.startTime ≤ second.startTime :=
    inOrder.imp fun behind => (Bar.formed _).ordered.le.trans behind
  refine List.Perm.eq_of_pairwise ?_ sorted
    (StableSorting.pairwise_key (fun bar : Bar => bar.startTime) (fun _ _ => Iff.rfl) _)
    (perm.trans (perm_insertionSort _ _).symm)
  intro first second firstMember secondMember atMost atLeast
  have otherMember := perm.mem_iff.mpr ((perm_insertionSort _ _).mem_iff.mp secondMember)
  by_contra ne
  have strict : (accepted session instrumentId (sortedByStream bars)).Pairwise
      fun first second => first.startTime ≠ second.startTime :=
    inOrder.imp fun behind => ((Bar.formed _).ordered.trans_le behind).ne
  have symm : Std.Symm fun first second : Bar => first.startTime ≠ second.startTime :=
    ⟨fun _ _ => Ne.symm⟩
  exact strict.forall firstMember otherMember ne (le_antisymm atMost atLeast)

theorem isBlank_of_parse {text : String} (parsed : parse text = .ok target) :
    isBlank target.value = false := by
  have supported : ∀ entry ∈ supportedClockDurations,
      isBlank entry.1 = false := by decide
  rw [parse] at parsed
  split at parsed
  · next duration found =>
    cases parsed
    obtain ⟨front, back, split, -⟩ := lookup_eq_some_iff.mp found
    refine supported ((strip text).toLower, duration) ?_
    rw [split]
    exact mem_append_right _ mem_cons_self
  · split at parsed
    · next daily =>
      cases parsed
      rw [daily]
      decide
    · cases parsed

/-- For bars that do not overlap and lie inside their buckets the aggregate has, for every
instrument, one bar for each maximal run of the bars inside the session. -/
theorem aggregateBars_accounts {text : String} {target : Timeframe}
    (parsed : parse text = .ok target) (zone : TimeZone)
    (session : Option MarketSession) {bars : List Bar} (apart : bars.Pairwise Apart)
    (bucketed : ∀ bar ∈ bars, InsideBucket target zone bar) :
    ∃ aggregated, aggregateBars bars target zone session = .ok aggregated ∧
      ∀ instrumentId, ∃ arranged, arranged.Perm (ofInstrument instrumentId aggregated) ∧
        Forall₂ (AccountsFor target zone session)
          (maximalRuns target zone (startOrdered (accepted session instrumentId bars)))
          arranged := by
  have visible := isBlank_of_parse parsed
  obtain ⟨⟨emitted, aggregators⟩, fed, serves⟩ :=
    aggregateEach_serves visible (@Serves.initial target zone session)
      (fun bar mem => bucketed bar ((sortedByStream_perm bars).mem_iff.mp mem))
      (sortedByStream_follows apart)
  rw [nil_append] at serves
  have tracks : ∀ item ∈ aggregators.items, ∃ state, item.2 = ⟨target, zone, session, state⟩ ∧
      Tracks target zone session item.1 (accepted session item.1 (sortedByStream bars))
        (ofInstrument item.1 emitted) state := by
    intro item mem
    have held := aggregators.get?_eq_some_iff.mpr mem
    obtain ⟨state, found, tracked⟩ := serves item.1
    refine ⟨state, ?_, tracked⟩
    rw [← found, aggregatorOf, held]
    rfl
  obtain ⟨flushed, finished, among, runs⟩ := @finishEach_tracks target zone session
    aggregators.items (fun instrumentId => accepted session instrumentId (sortedByStream bars))
    (fun instrumentId => ofInstrument instrumentId emitted) visible aggregators.distinct tracks
  refine ⟨sortedByStream (emitted ++ flushed), ?_, ?_⟩
  · unfold aggregateBars
    rw [fed]
    change (finishEach (aggregators.items.map Prod.snd) >>= _) = _
    rw [finished]
    rfl
  · intro instrumentId
    refine ⟨ofInstrument instrumentId emitted ++ ofInstrument instrumentId flushed, ?_, ?_⟩
    · rw [← ofInstrument_append]
      exact (sortedByStream_perm _).symm.filter _
    · rw [← accepted_sortedByStream apart]
      refine List.Forall₂.imp (fun _ _ collapses => Collapses.accountsFor collapses) ?_
      by_cases served : instrumentId ∈ aggregators.items.map Prod.fst
      · exact runs instrumentId served
      · have none : ofInstrument instrumentId flushed = [] := by
          refine filter_eq_nil_iff.mpr ?_
          intro bar mem isSame
          rw [← of_decide_eq_true isSame] at served
          exact served (among bar mem)
        obtain ⟨state, found, tracked⟩ := serves instrumentId
        have missing : aggregators.get? instrumentId = Option.none :=
          aggregators.get?_eq_none_iff.mpr served
        rw [aggregatorOf, missing] at found
        cases found
        obtain ⟨completed, finishedFresh, emits, -⟩ := finish_tracks visible tracked
        obtain rfl := Except.ok.inj finishedFresh
        rw [none]
        exact emits

end Streams

namespace TwoSessions

def fiveMinutes : Timeframe := ⟨"5m", some (300 * oneSecond), .clock⟩

/-- The first two minutes of the first day. -/
def opening : MarketSession where
  interval := ⟨20592 * oneDay, 20592 * oneDay + 120 * oneSecond, twoMinutes_ordered⟩

theorem aggregateBars_accounts_opening :
    ∃ aggregated,
      aggregateBars [nextDay, secondMinute, firstMinute] fiveMinutes utc (some opening) =
        .ok aggregated ∧
      ∀ instrumentId, ∃ arranged, arranged.Perm (ofInstrument instrumentId aggregated) ∧
        Forall₂ (AccountsFor fiveMinutes utc (some opening))
          (maximalRuns fiveMinutes utc (startOrdered (accepted (some opening) instrumentId
            [nextDay, secondMinute, firstMinute])))
          arranged := by
  refine @aggregateBars_accounts "5m" _ (by decide +kernel) utc (some opening) _ ?_ ?_
  · refine .cons ?_ (.cons ?_ (pairwise_singleton _ _))
    · intro bar mem
      simp only [mem_cons, not_mem_nil, or_false] at mem
      rcases mem with rfl | rfl
      · exact fun _ => .inr (by decide)
      · exact fun _ => .inr (by decide)
    · intro bar mem
      obtain rfl := mem_singleton.mp mem
      exact fun _ => .inr (by decide)
  · intro bar mem
    simp only [mem_cons, not_mem_nil, or_false] at mem
    rcases mem with rfl | rfl | rfl
    · exact ⟨⟨20593 * oneDay, 20593 * oneDay + 300 * oneSecond, by decide⟩, rfl, by decide,
        by decide⟩
    · exact ⟨⟨20592 * oneDay, 20592 * oneDay + 300 * oneSecond, by decide⟩, rfl, by decide,
        by decide⟩
    · exact ⟨⟨20592 * oneDay, 20592 * oneDay + 300 * oneSecond, by decide⟩, rfl, by decide,
        by decide⟩

end TwoSessions

end Qts
