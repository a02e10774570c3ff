import Qts.BarConsolidation

/-! # Daily bars of a stream -/

namespace Qts

open NMinuteConsolidator Check Timeframe List

theorem high_spec (first : Bar) (rest : List Bar) :
    ((rest.map (·.high)).foldl max first.high) ∈ (first :: rest).map (·.high) ∧
      ∀ bar ∈ first :: rest, bar.high ≤ (rest.map (·.high)).foldl max first.high := by
  have highest : ((first :: rest).map (·.high)).max? =
      some ((rest.map (·.high)).foldl max first.high) := rfl
  obtain ⟨mem, bound⟩ := max?_eq_some_iff.mp highest
  exact ⟨mem, fun bar inBars => bound _ (mem_map_of_mem inBars)⟩

theorem low_spec (first : Bar) (rest : List Bar) :
    ((rest.map (·.low)).foldl min first.low) ∈ (first :: rest).map (·.low) ∧
      ∀ bar ∈ first :: rest, (rest.map (·.low)).foldl min first.low ≤ bar.low := by
  have lowest : ((first :: rest).map (·.low)).min? =
      some ((rest.map (·.low)).foldl min first.low) := rfl
  obtain ⟨mem, bound⟩ := min?_eq_some_iff.mp lowest
  exact ⟨mem, fun bar inBars => bound _ (mem_map_of_mem inBars)⟩

variable (bars : List Bar)

theorem totalVolume_nonneg : 0 ≤ (bars.map (·.volume)).sum := by
  refine sum_nonneg ?_
  intro volume mem
  obtain ⟨bar, -, rfl⟩ := mem_map.mp mem
  exact bar.formed.volume

theorem aggregateVwap_nonneg (totalVolume : Decimal) :
    ∀ vwap ∈ aggregateVwap bars totalVolume, 0 ≤ vwap := by
  intro vwap known
  rw [aggregateVwap] at known
  split at known
  · cases known
  · next traded =>
    rw [not_or, not_le] at traded
    cases known
    refine div_nonneg (sum_nonneg ?_) traded.2.le
    intro weighted mem
    obtain ⟨bar, -, weigh⟩ := mem_filterMap.mp mem
    obtain ⟨price, counted, rfl⟩ := Option.map_eq_some_iff.mp weigh
    obtain ⟨given, -⟩ := Option.filter_eq_some_iff.mp counted
    exact mul_nonneg (bar.formed.vwap price given) bar.formed.volume

theorem lastOpenInterest_nonneg : ∀ interest ∈ lastOpenInterest bars, 0 ≤ interest := by
  intro interest known
  obtain ⟨bar, -, given⟩ := exists_of_findSome?_eq_some known
  exact bar.formed.openInterest interest given

theorem sumTradeCount_nonneg : ∀ count ∈ sumTradeCount bars, 0 ≤ count := by
  intro count known
  rw [sumTradeCount] at known
  split at known
  · cases known
  · cases known
    refine sum_nonneg ?_
    intro count mem
    obtain ⟨bar, -, given⟩ := mem_filterMap.mp mem
    exact bar.formed.tradeCount count given

theorem combinedFields_wellFormed {timeframe : Timeframe} {startTime endTime : DateTime}
    (isPartial : Bool) (first : Bar) (rest : List Bar) (ordered : startTime < endTime)
    (visible : PythonText.isBlank timeframe.value = false) :
    (combinedFields timeframe startTime endTime isPartial first rest).WellFormed where
  ordered := ordered
  timeframe := visible
  session := first.formed.session
  high := by
    have last := getLast_mem (cons_ne_nil first rest)
    have highest := (high_spec first rest).2
    refine max_le ?_ ?_
    · exact (le_max_left _ _).trans (first.formed.high.trans (highest first mem_cons_self))
    · exact (le_max_right _ _).trans ((Bar.formed _).high.trans (highest _ last))
  low := by
    have last := getLast_mem (cons_ne_nil first rest)
    have lowest := (low_spec first rest).2
    refine le_min ?_ ?_
    · exact (lowest first mem_cons_self).trans (first.formed.low.trans (min_le_left _ _))
    · exact (lowest _ last).trans ((Bar.formed _).low.trans (min_le_right _ _))
  volume := totalVolume_nonneg _
  vwap := aggregateVwap_nonneg _ _
  openInterest := lastOpenInterest_nonneg _
  tradeCount := sumTradeCount_nonneg _

/-- A bar carries the first open, the extremes, the last close and the total volume of others. -/
structure Summarizes (summary : Bar) (bars : List Bar) : Prop where
  opens : bars.head?.map (·.openPrice) = some summary.openPrice
  highest : summary.high ∈ bars.map (·.high) ∧ ∀ bar ∈ bars, bar.high ≤ summary.high
  lowest : summary.low ∈ bars.map (·.low) ∧ ∀ bar ∈ bars, summary.low ≤ bar.low
  closes : bars.getLast?.map (·.close) = some summary.close
  volume : summary.volume = (bars.map (·.volume)).sum

theorem streamChecks_pass {first : Bar} {bars : List Bar}
    (alike : ∀ bar ∈ bars, bar.instrumentId = first.instrumentId ∧ bar.sessionId = first.sessionId)
    : firstFailure (streamChecks first bars) = none := by
  rw [firstFailure_none]
  intro check mem
  obtain ⟨bar, among, listed⟩ := mem_flatMap.mp mem
  obtain ⟨sameInstrument, sameSession⟩ := alike bar among
  simp only [mem_cons, not_mem_nil, or_false] at listed
  rcases listed with rfl | rfl
  · simp [sameInstrument]
  · simp [sameSession]

def dailyTimeframe : Timeframe := ⟨"1d", none, .session⟩

structure SourceBar (source : Timeframe) (bar : Bar) : Prop where
  complete : bar.isComplete = true
  whole : bar.isPartial = false
  timeframe : bar.timeframe = source.value
  interval : source.duration = some (bar.endTime - bar.startTime)

def intervalOf (window : Option SessionIntervalSource) (sessionId : String) :
    Except Failure (Option TimeInterval) :=
  match window with
  | none => .ok none
  | some window => window sessionId

def closes (window : Option SessionIntervalSource) (bar : Bar) : Bool :=
  match intervalOf window bar.sessionId with
  | .ok (some interval) => decide (interval.endTime ≤ bar.endTime)
  | _ => false

/-- The bars that an update emits; none when it raises. -/
def emittedBars : Except Failure (List Bar) → List Bar
  | .ok bars => bars
  | .error _ => []

def collecting (source : Timeframe) (zone : TimeZone) (window : Option SessionIntervalSource)
    (sessionId : String) (pending : List Bar) : NMinuteConsolidator where
  sourceTimeframe := source
  targetTimeframe := dailyTimeframe
  exchangeTimezone := zone
  sessionWindow := window
  sessionId := if pending = [] then none else some sessionId
  bars := pending

section Consolidator

variable {source : Timeframe} {zone : TimeZone} {window : Option SessionIntervalSource}
  {sessionId : String} {instrumentId : InstrumentId} {pending : List Bar} {bar : Bar}

theorem collecting_takeIn (sameSession : bar.sessionId = sessionId) :
    (collecting source zone window sessionId pending).takeIn bar =
      collecting source zone window sessionId (pending ++ [bar]) := by
  have nonempty : pending ++ [bar] ≠ [] :=
    append_ne_nil_of_right_ne_nil _ (cons_ne_nil _ _)
  rw [takeIn, collecting, collecting, if_neg nonempty, sameSession]
  cases pending with
  | nil => rfl
  | cons first rest => rfl

theorem collecting_update (isSource : SourceBar source bar)
    (sameSession : bar.sessionId = sessionId) :
    (collecting source zone window sessionId pending).update bar =
      (collecting source zone window sessionId (pending ++ [bar])).closeSession bar [] := by
  have valid : firstFailure
      ((collecting source zone window sessionId pending).sourceChecks bar) = none := by
    rw [firstFailure_none]
    simp [sourceChecks, collecting, isSource.complete, isSource.whole,
      isSource.timeframe, isSource.interval]
  have sameId : ¬ ((collecting source zone window sessionId pending).bars ≠ [] ∧
      (collecting source zone window sessionId pending).sessionId ≠ some bar.sessionId) := by
    rintro ⟨nonempty, other⟩
    refine other ?_
    rw [sameSession]
    exact if_neg nonempty
  rw [update, valid]
  change (collecting source zone window sessionId pending).updateSession bar = _
  rw [updateSession, if_neg sameId, collecting_takeIn sameSession]

theorem collecting_interval (nonempty : pending ≠ []) :
    (collecting source zone window sessionId pending).sessionInterval =
      intervalOf window sessionId := by
  rw [sessionInterval, collecting, if_neg nonempty]
  cases window with
  | none => rfl
  | some window => rfl

theorem collecting_aggregate {interval : TimeInterval} (nonempty : pending ≠ [])
    (known : intervalOf window sessionId = .ok (some interval))
    (ofStream : ∀ bar ∈ pending, bar.sessionId = sessionId ∧ bar.instrumentId = instrumentId) :
    ∃ daily, (collecting source zone window sessionId pending).aggregateSession = .ok daily ∧
      daily.sessionId = sessionId ∧ daily.timeframe = "1d" ∧ Summarizes daily pending := by
  obtain ⟨first, rest, rfl⟩ := exists_cons_of_ne_nil nonempty
  have firstOf := ofStream first mem_cons_self
  have sameStream : firstFailure
      (streamChecks first (first :: rest)) = none := by
    refine streamChecks_pass ?_
    intro bar mem
    have barOf := ofStream bar mem
    exact ⟨barOf.2.trans firstOf.2.symm, barOf.1.trans firstOf.1.symm⟩
  have formed : (combinedFields dailyTimeframe interval.startTime interval.endTime
      (sessionIsPartial interval.startTime interval.endTime first rest)
      first rest).WellFormed :=
    combinedFields_wellFormed _ first rest interval.ordered (by decide)
  refine ⟨⟨_, (BarFields.wellFormed_iff _).mpr formed⟩, ?_, firstOf.1, rfl, ?_⟩
  · have found : (collecting source zone window sessionId (first :: rest)).sessionInterval =
        .ok (some interval) := (collecting_interval nonempty).trans known
    have held : (collecting source zone window sessionId (first :: rest)).bars = first :: rest :=
      rfl
    unfold aggregateSession
    rw [held]
    dsimp only
    rw [sameStream, found]
    exact Bar.create_eq formed
  · exact ⟨rfl, high_spec first rest, low_spec first rest,
      by rw [getLast?_eq_some_getLast (cons_ne_nil _ _)]; rfl, rfl⟩

theorem collecting_closes (isSource : SourceBar source bar)
    (sameSession : bar.sessionId = sessionId) (sameInstrument : bar.instrumentId = instrumentId)
    (ofStream : ∀ bar ∈ pending, bar.sessionId = sessionId ∧ bar.instrumentId = instrumentId)
    (reaches : closes window bar = true) :
    ∃ daily, (collecting source zone window sessionId pending).update bar =
        (.ok [daily], collecting source zone window sessionId []) ∧
      daily.sessionId = sessionId ∧ daily.timeframe = "1d" ∧
      Summarizes daily (pending ++ [bar]) := by
  have nonempty : pending ++ [bar] ≠ [] :=
    append_ne_nil_of_right_ne_nil _ (cons_ne_nil _ _)
  have collected : ∀ other ∈ pending ++ [bar],
      other.sessionId = sessionId ∧ other.instrumentId = instrumentId := by
    intro other mem
    rcases mem_append.mp mem with earlier | last
    · exact ofStream other earlier
    · rw [mem_singleton.mp last]
      exact ⟨sameSession, sameInstrument⟩
  unfold closes at reaches
  split at reaches
  · next interval known =>
    rw [sameSession] at known
    obtain ⟨daily, made, ofSession, ofTimeframe, summary⟩ :=
      collecting_aggregate nonempty known collected
    refine ⟨daily, ?_, ofSession, ofTimeframe, summary⟩
    rw [collecting_update isSource sameSession, closeSession, collecting_interval nonempty, known]
    dsimp only
    rw [if_pos (of_decide_eq_true reaches), made]
    rfl
  · cases reaches

theorem collecting_stays_open (isSource : SourceBar source bar)
    (sameSession : bar.sessionId = sessionId) (short : closes window bar = false) :
    ∃ answer, (collecting source zone window sessionId pending).update bar =
        (answer, collecting source zone window sessionId (pending ++ [bar])) ∧
      emittedBars answer = [] := by
  have nonempty : pending ++ [bar] ≠ [] :=
    append_ne_nil_of_right_ne_nil _ (cons_ne_nil _ _)
  rw [collecting_update isSource sameSession, closeSession, collecting_interval nonempty]
  unfold closes at short
  rw [sameSession] at short
  split
  · exact ⟨_, rfl, rfl⟩
  · exact ⟨_, rfl, rfl⟩
  · next interval known =>
    rw [known] at short
    rw [if_neg (of_decide_eq_false short)]
    exact ⟨_, rfl, rfl⟩

end Consolidator

def sessionBars (sessionId : String) (bars : List Bar) : List Bar :=
  bars.filter fun bar => decide (bar.sessionId = sessionId)

theorem sessionBars_append (sessionId : String) (first second : List Bar) :
    sessionBars sessionId (first ++ second) =
      sessionBars sessionId first ++ sessionBars sessionId second :=
  filter_append _ _

theorem sessionBars_cons_of_eq {sessionId : String} {bar : Bar} (same : bar.sessionId = sessionId)
    (bars : List Bar) :
    sessionBars sessionId (bar :: bars) = bar :: sessionBars sessionId bars := by
  rw [sessionBars, filter_cons]
  exact if_pos (decide_eq_true same)

theorem sessionBars_cons_of_ne {sessionId : String} {bar : Bar} (other : bar.sessionId ≠ sessionId)
    (bars : List Bar) : sessionBars sessionId (bar :: bars) = sessionBars sessionId bars := by
  rw [sessionBars, filter_cons]
  exact if_neg (by simpa using other)

structure SourceStream (source : Timeframe) (instrumentId : InstrumentId) (bars : List Bar) :
    Prop where
  parsed : parse source.value = .ok source
  timed : ∃ duration, source.duration = some duration
  isSource : ∀ bar ∈ bars, SourceBar source bar
  instrument : ∀ bar ∈ bars, bar.instrumentId = instrumentId
  chronological : bars.Pairwise fun earlier later => earlier.endTime ≤ later.startTime

structure Collects (source : Timeframe) (instrumentId : InstrumentId)
    (window : Option SessionIntervalSource) (pending : String → List Bar)
    (pipeline : BarAggregationPipeline) : Prop where
  held : ∀ sessionId, pipeline.consolidatorFor
      ⟨instrumentId, sessionId, source.value, dailyTimeframe.value⟩ source dailyTimeframe =
    .ok (collecting source pipeline.exchangeTimezone window sessionId (pending sessionId))
  ofStream : ∀ sessionId, ∀ bar ∈ pending sessionId,
    bar.sessionId = sessionId ∧ bar.instrumentId = instrumentId
  windowed : pipeline.sessionWindow = window

def aggregateStep (pipeline : BarAggregationPipeline) (bar : Bar) :
    Except Failure (List Bar) × BarAggregationPipeline :=
  pipeline.aggregate bar dailyTimeframe

def emitted (pipeline : BarAggregationPipeline) (bars : List Bar) : List Bar :=
  (StepRuns.responses aggregateStep pipeline bars).flatMap emittedBars

section Stream

variable {source : Timeframe} {instrumentId : InstrumentId} {window : Option SessionIntervalSource}
  {pending : String → List Bar} {pipeline : BarAggregationPipeline} {bar : Bar} {bars}

theorem fresh_collects (zone : TimeZone) (parsed : parse source.value = .ok source)
    (timed : ∃ duration, source.duration = some duration) :
    Collects source instrumentId window (fun _ => []) ⟨zone, window, .empty⟩ where
  held sessionId := by
    obtain ⟨duration, known⟩ := timed
    have clock := (parse_isClock parsed known).1
    change create source dailyTimeframe zone window = _
    rw [create, clock.aligned, known]
    rfl
  ofStream _ _ mem := absurd mem not_mem_nil
  windowed := rfl

theorem Collects.aggregate (collects : Collects source instrumentId window pending pipeline)
    (parsed : parse source.value = .ok source) (isSource : SourceBar source bar)
    (instrument : bar.instrumentId = instrumentId) {answer : Except Failure (List Bar)}
    {left : List Bar}
    (updated : (collecting source pipeline.exchangeTimezone window bar.sessionId
      (pending bar.sessionId)).update bar =
        (answer, collecting source pipeline.exchangeTimezone window bar.sessionId left))
    (leftOf : ∀ other ∈ left, other.sessionId = bar.sessionId ∧ other.instrumentId = instrumentId) :
    (aggregateStep pipeline bar).1 = answer ∧
      Collects source instrumentId window (Function.update pending bar.sessionId left)
        (aggregateStep pipeline bar).2 := by
  have held := collects.held bar.sessionId
  have ran : aggregateStep pipeline bar = (answer, { pipeline with
      consolidators := pipeline.consolidators.set
        ⟨instrumentId, bar.sessionId, source.value, dailyTimeframe.value⟩
        (collecting source pipeline.exchangeTimezone window bar.sessionId left) }) := by
    rw [aggregateStep, BarAggregationPipeline.aggregate, isSource.timeframe, parsed]
    dsimp only [BarAggregationPipeline.aggregationKey]
    rw [instrument, held]
    dsimp only
    rw [updated]
  rw [ran]
  refine ⟨rfl, ?_, ?_, collects.windowed⟩
  · intro sessionId
    rw [BarAggregationPipeline.consolidatorFor]
    dsimp only
    by_cases same : sessionId = bar.sessionId
    · subst same
      rw [Dict.get?_set_self, Function.update_self]
    · have otherKey : (⟨instrumentId, sessionId, source.value, dailyTimeframe.value⟩ :
          AggregationKey) ≠ ⟨instrumentId, bar.sessionId, source.value, dailyTimeframe.value⟩ := by
        intro equal
        exact same (AggregationKey.mk.injEq .. ▸ equal).2.1
      rw [Dict.get?_set_of_ne _ _ otherKey, Function.update_of_ne same]
      exact collects.held sessionId
  · intro sessionId
    by_cases same : sessionId = bar.sessionId
    · subst same
      rw [Function.update_self]
      exact leftOf
    · rw [Function.update_of_ne same]
      exact collects.ofStream sessionId

def closedGroups (window : Option SessionIntervalSource) (pending : List Bar) :
    List Bar → List (List Bar)
  | [] => []
  | bar :: rest =>
    if closes window bar then (pending ++ [bar]) :: closedGroups window [] rest
    else closedGroups window (pending ++ [bar]) rest

theorem closedGroups_length (pending bars : List Bar) :
    (closedGroups window pending bars).length = bars.countP (closes window) := by
  induction bars generalizing pending with
  | nil => rfl
  | cons bar rest ih =>
    rw [closedGroups]
    by_cases reaches : closes window bar = true
    · rw [if_pos reaches, length_cons, ih, countP_cons_of_pos reaches]
    · rw [if_neg reaches, ih, countP_cons_of_neg reaches]

theorem closedGroups_last {front : List Bar} (early : ∀ other ∈ front, closes window other = false)
    (reaches : closes window bar = true) (pending : List Bar) :
    closedGroups window pending (front ++ [bar]) = [pending ++ (front ++ [bar])] := by
  induction front generalizing pending with
  | nil => exact if_pos reaches
  | cons other front ih =>
    have short := early other mem_cons_self
    rw [cons_append, closedGroups, short, if_neg Bool.false_ne_true,
      ih fun later mem => early later (mem_cons_of_mem _ mem)]
    rw [append_assoc]
    rfl

def DailyOf (sessionId : String) (daily : Bar) (group : List Bar) : Prop :=
  daily.sessionId = sessionId ∧ daily.timeframe = "1d" ∧ Summarizes daily group

theorem Collects.emitted_groups (collects : Collects source instrumentId window pending pipeline)
    (parsed : parse source.value = .ok source) (isSource : ∀ bar ∈ bars, SourceBar source bar)
    (instrument : ∀ bar ∈ bars, bar.instrumentId = instrumentId) (sessionId : String) :
    Forall₂ (DailyOf sessionId)
      (sessionBars sessionId (emitted pipeline bars))
      (closedGroups window (pending sessionId) (sessionBars sessionId bars)) := by
  induction bars generalizing pending pipeline with
  | nil => exact .nil
  | cons bar rest ih =>
    have barSource := isSource bar mem_cons_self
    have barInstrument := instrument bar mem_cons_self
    have restSource := fun other mem => isSource other (mem_cons_of_mem _ mem)
    have restInstrument := fun other mem => instrument other (mem_cons_of_mem _ mem)
    have unfolded : emitted pipeline (bar :: rest) = emittedBars (aggregateStep pipeline bar).1 ++
        emitted (aggregateStep pipeline bar).2 rest := by
      rw [emitted, StepRuns.responses_cons, flatMap_cons]
      rfl
    rw [unfolded, sessionBars_append]
    cases reaches : closes window bar with
    | true =>
      obtain ⟨daily, updated, ofSession, ofTimeframe, summary⟩ :=
        collecting_closes barSource rfl barInstrument (collects.ofStream bar.sessionId) reaches
      obtain ⟨answered, next⟩ := collects.aggregate parsed barSource barInstrument updated
        fun _ mem => absurd mem not_mem_nil
      have later := ih next restSource restInstrument
      rw [answered, emittedBars]
      by_cases same : bar.sessionId = sessionId
      · subst same
        rw [Function.update_self] at later
        rw [sessionBars_cons_of_eq rfl, sessionBars_cons_of_eq ofSession, closedGroups,
          if_pos reaches]
        exact .cons ⟨ofSession, ofTimeframe, summary⟩ later
      · rw [Function.update_of_ne (Ne.symm same)] at later
        rw [sessionBars_cons_of_ne same, sessionBars_cons_of_ne (ofSession.trans_ne same)]
        exact later
    | false =>
      obtain ⟨answer, updated, silent⟩ := collecting_stays_open barSource rfl reaches
      obtain ⟨answered, next⟩ := collects.aggregate parsed barSource barInstrument updated (by
        intro other mem
        rcases mem_append.mp mem with earlier | last
        · exact collects.ofStream _ other earlier
        · rw [mem_singleton.mp last]
          exact ⟨rfl, barInstrument⟩)
      have later := ih next restSource restInstrument
      rw [answered, silent]
      by_cases same : bar.sessionId = sessionId
      · subst same
        rw [Function.update_self] at later
        rw [sessionBars_cons_of_eq rfl, closedGroups, reaches, if_neg Bool.false_ne_true]
        exact later
      · rw [Function.update_of_ne (Ne.symm same)] at later
        rw [sessionBars_cons_of_ne same]
        exact later

end Stream

/-- When the first bar of a session has been consumed, each earlier session has had exactly one
daily bar emitted, which carries its bars. -/
def NoSessionLost (zone : TimeZone) (window : Option SessionIntervalSource) (bars : List Bar) :
    Prop :=
  ∀ earlier bar later, bars = earlier ++ bar :: later →
    bar.sessionId ∉ earlier.map (·.sessionId) →
    ∀ sessionId ∈ earlier.map (·.sessionId), ∃ daily,
      sessionBars sessionId (emitted ⟨zone, window, .empty⟩ (earlier ++ [bar])) = [daily] ∧
      DailyOf sessionId daily (sessionBars sessionId earlier)

/-- When the first bar of a session arrives, exactly one bar of each earlier session has reached
that session's end. -/
def EachSessionClosed (window : Option SessionIntervalSource) (bars : List Bar) : Prop :=
  ∀ earlier bar later, bars = earlier ++ bar :: later →
    bar.sessionId ∉ earlier.map (·.sessionId) →
    ∀ sessionId ∈ earlier.map (·.sessionId),
      (sessionBars sessionId earlier).countP (closes window) = 1

section

variable {window : Option SessionIntervalSource} {source : Timeframe} {instrumentId : InstrumentId}
  {bars}

theorem closes_of_later {first later : Bar} (same : first.sessionId = later.sessionId)
    (inOrder : first.endTime ≤ later.startTime) (reaches : closes window first = true) :
    closes window later = true := by
  have ordered := later.formed.ordered
  unfold closes at reaches ⊢
  rw [same] at reaches
  split at reaches
  · have ended := of_decide_eq_true reaches
    exact decide_eq_true (ended.trans (inOrder.trans ordered.le))
  · cases reaches

theorem last_of_closed_once {sessionId : String}
    (ofSession : ∀ bar ∈ bars, bar.sessionId = sessionId)
    (chronological : bars.Pairwise fun earlier later => earlier.endTime ≤ later.startTime)
    (once : bars.countP (closes window) = 1) :
    ∃ front last, bars = front ++ [last] ∧ closes window last = true ∧
      ∀ other ∈ front, closes window other = false := by
  rcases eq_nil_or_concat bars with rfl | ⟨front, last, rfl⟩
  · cases once
  · rw [concat_eq_append] at *
    rw [countP_append] at once
    by_cases reaches : closes window last = true
    · rw [countP_cons_of_pos reaches] at once
      have none : front.countP (closes window) = 0 := by simpa using once
      refine ⟨front, last, rfl, reaches, ?_⟩
      intro other mem
      exact Bool.eq_false_iff.mpr (countP_eq_zero.mp none other mem)
    · have none : front.countP (closes window) = 0 := by
        rw [countP_eq_zero]
        intro other mem early
        have inOrder := (pairwise_append.mp chronological).2.2 other mem last
          mem_cons_self
        have same := (ofSession other (mem_append_left _ mem)).trans
          (ofSession last (mem_append_right _ mem_cons_self)).symm
        exact reaches (closes_of_later same inOrder early)
      rw [none, countP_cons_of_neg reaches] at once
      cases once

/-- No session is lost exactly when one bar of each session reaches its end in time. -/
theorem no_session_lost_iff (zone : TimeZone) (stream : SourceStream source instrumentId bars) :
    NoSessionLost zone window bars ↔ EachSessionClosed window bars := by
  have groups {earlier later : List Bar} {bar : Bar} (split : bars = earlier ++ bar :: later)
      {sessionId : String} (other : bar.sessionId ≠ sessionId) :
      Forall₂ (DailyOf sessionId)
        (sessionBars sessionId (emitted ⟨zone, window, .empty⟩ (earlier ++ [bar])))
        (closedGroups window [] (sessionBars sessionId earlier)) := by
    have fresh : Collects source instrumentId window (fun _ => []) ⟨zone, window, .empty⟩ :=
      fresh_collects zone stream.parsed stream.timed
    have consumed : ∀ consumed ∈ earlier ++ [bar], consumed ∈ bars := by
      intro consumed mem
      rw [split, append_cons]
      exact mem_append_left _ mem
    have made := fresh.emitted_groups stream.parsed
      (fun other mem => stream.isSource _ (consumed other mem))
      (fun other mem => stream.instrument _ (consumed other mem)) sessionId
    have alone : sessionBars sessionId [bar] = [] := sessionBars_cons_of_ne other []
    rwa [sessionBars_append, alone, append_nil] at made
  have apart {earlier : List Bar} {bar : Bar} (fresh : bar.sessionId ∉ earlier.map (·.sessionId))
      {sessionId : String} (seen : sessionId ∈ earlier.map (·.sessionId)) :
      bar.sessionId ≠ sessionId := by
    rintro rfl
    exact fresh seen
  constructor
  · intro kept earlier bar later split fresh sessionId seen
    obtain ⟨daily, alone, -⟩ := kept earlier bar later split fresh sessionId seen
    have made := (groups split (apart fresh seen)).length_eq
    rw [alone, closedGroups_length] at made
    exact made.symm
  · intro closed earlier bar later split fresh sessionId seen
    have once := closed earlier bar later split fresh sessionId seen
    have inOrder : (sessionBars sessionId earlier).Pairwise fun earlier later =>
        earlier.endTime ≤ later.startTime := by
      have ordered := stream.chronological
      rw [split] at ordered
      exact (pairwise_append.mp ordered).1.filter _
    have ofSession : ∀ other ∈ sessionBars sessionId earlier, other.sessionId = sessionId := by
      intro other mem
      exact of_decide_eq_true (mem_filter.mp mem).2
    obtain ⟨front, last, known, reaches, short⟩ := last_of_closed_once ofSession inOrder once
    have made := groups split (apart fresh seen)
    rw [known, closedGroups_last short reaches, nil_append] at made
    obtain ⟨daily, others, summary, none, alone⟩ := forall₂_cons_right_iff.mp made
    rw [forall₂_nil_right_iff] at none
    subst none
    rw [known]
    exact ⟨daily, alone, summary⟩

end

namespace TwoSessions

def utc : TimeZone where
  initial := 0
  transitions := []
  linked := trivial
  chronological := .nil
  changes _ mem := absurd mem not_mem_nil

/-- The first two minutes of each day. -/
def window : RegularSessionWindow where
  exchangeTimezone := utc
  openTime := 0
  closeTime := 120 * oneSecond
  distinct := by decide
  openOfDay := by decide
  closeOfDay := by decide

def fromIsoFormat (text : String) : Except Failure Int :=
  if text = "2026-05-19" then .ok 20592
  else if text = "2026-05-20" then .ok 20593
  else .error (.valueError ("Invalid isoformat string: '" ++ text ++ "'"))

def sessions : SessionIntervalSource :=
  window.intervalForSessionId fromIsoFormat

def oneMinute : Timeframe := ⟨"1m", some (60 * oneSecond), .clock⟩

def apple : InstrumentId := ⟨⟨"EQUITY.US.NASDAQ.AAPL", Eq.refl false⟩⟩

def firstMinute : Bar where
  instrumentId := apple
  startTime := 20592 * oneDay
  endTime := 20592 * oneDay + 60 * oneSecond
  timeframe := "1m"
  sessionId := "2026-05-19"
  openPrice := 100
  high := 102
  low := 99
  close := 101
  volume := 5
  isComplete := true
  valid := by decide +kernel

theorem twoMinutes_ordered : 20592 * oneDay < 20592 * oneDay + 120 * oneSecond := by
  decide

def secondMinute : Bar where
  instrumentId := apple
  startTime := 20592 * oneDay + 60 * oneSecond
  endTime := 20592 * oneDay + 120 * oneSecond
  timeframe := "1m"
  sessionId := "2026-05-19"
  openPrice := 101
  high := 103
  low := 100
  close := 102
  volume := 5
  isComplete := true
  valid := by decide +kernel

def nextDay : Bar where
  instrumentId := apple
  startTime := 20593 * oneDay
  endTime := 20593 * oneDay + 60 * oneSecond
  timeframe := "1m"
  sessionId := "2026-05-20"
  openPrice := 102
  high := 103
  low := 101
  close := 102
  volume := 5
  isComplete := true
  valid := by decide +kernel

theorem sourceStream : SourceStream oneMinute apple [firstMinute, secondMinute, nextDay] where
  parsed := by decide +kernel
  timed := ⟨_, rfl⟩
  isSource := by
    intro bar mem
    simp only [mem_cons, not_mem_nil, or_false] at mem
    rcases mem with rfl | rfl | rfl
    · exact ⟨rfl, rfl, rfl, by decide⟩
    · exact ⟨rfl, rfl, rfl, by decide⟩
    · exact ⟨rfl, rfl, rfl, by decide⟩
  instrument := by
    intro bar mem
    simp only [mem_cons, not_mem_nil, or_false] at mem
    rcases mem with rfl | rfl | rfl
    · rfl
    · rfl
    · rfl
  chronological := by decide

theorem whole_session_kept :
    NoSessionLost utc (some sessions) [firstMinute, secondMinute, nextDay] := by
  refine (no_session_lost_iff utc sourceStream).mpr ?_
  intro earlier bar later split fresh sessionId seen
  match earlier, split with
  | [], _ => cases seen
  | [_], split =>
    injection split with first rest
    injection rest with second rest
    subst first second
    exact absurd mem_cons_self fresh
  | [_, _], split =>
    injection split with first rest
    injection rest with second rest
    subst first second
    simp only [map_cons, map_nil, mem_cons, not_mem_nil, or_false] at seen
    rcases seen with rfl | rfl
    · decide +kernel
    · decide +kernel
  | _ :: _ :: _ :: _, split =>
    have lengths := congrArg List.length split
    simp at lengths

/-- Without the last minute of the first session no bar reaches its end, and its daily bar is
not emitted when the second session starts. -/
theorem short_session_lost : ¬ NoSessionLost utc (some sessions) [firstMinute, nextDay] := by
  intro kept
  obtain ⟨daily, alone, -⟩ := kept [firstMinute] nextDay [] rfl (by decide) "2026-05-19" (by decide)
  have silent : emitted ⟨utc, some sessions, .empty⟩ ([firstMinute] ++ [nextDay]) = [] := by
    decide +kernel
  rw [silent] at alone
  cases alone

end TwoSessions

end Qts
