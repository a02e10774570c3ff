import Qts.OrderedMerge
import Qts.TimeGridSynthesis

/-! # The replay tape -/

namespace Qts

open OrderedMerge BarTimeGridSynthesizer Timeframe List

structure RootStream where
  sourceTimeframe : String
  bars : List Bar

def withTimeGridSynthesis (stream : List Bar) (timeframe : String) :
    Except Failure (List Bar) := do
  let parsed ← parse timeframe
  if parsed.alignment ≠ .clock then
    return stream
  let synth ← create timeframe
  return synth.synthesize stream

def mergeOrderedBarStreams (streams : List (Nat × List Bar)) : List (Head Bar) :=
  merged (·.endTime) streams

def rootStreams (rootIndex : Nat) : List RootStream →
    Except Failure (List (Nat × List Bar))
  | [] => .ok []
  | root :: roots => do
    let stream ← withTimeGridSynthesis root.bars root.sourceTimeframe
    let streams ← rootStreams (rootIndex + 1) roots
    return (rootIndex, stream) :: streams

/-- The tape of a run. -/
def streamConfiguredBars (roots : List RootStream) : Except Failure (List (Head Bar)) := do
  let streams ← rootStreams 0 roots
  return mergeOrderedBarStreams streams

abbrev Chronological (bars : List Bar) : Prop :=
  Ascending (·.endTime) bars

/-- The tape has the bars of every root in their order, behind synthetic ones, and no others. -/
def Lossless (roots : List RootStream) (tape : List (Head Bar)) : Prop :=
  (∀ delivery ∈ tape, delivery.source < roots.length) ∧
    ∀ index root, roots[index]? = some root →
      Interleaves root.bars (ofSource tape index)

namespace BarTimeGridSynthesizer

variable {synth : BarTimeGridSynthesizer}

/-- The bar that comes after some others ends a gap in time: no other instrument has moved on past
the first missing slot. -/
def InTime (synth : BarTimeGridSynthesizer) (before : List Bar) (bar : Bar) : Prop :=
  ∀ latest ∈ before.getLast?, ∀ prev ∈ (ofInstrument bar.instrumentId before).getLast?,
    synth.shouldFillBetween prev bar = true →
    prev.endTime + synth.slotDuration ≤ bar.startTime →
    latest.endTime ≤ prev.endTime + synth.slotDuration

/-- No gap of a stream is behind the bars of other instruments. -/
def KeepsPace (synth : BarTimeGridSynthesizer) (bars : List Bar) : Prop :=
  ∀ before bar after, bars = before ++ bar :: after → synth.InTime before bar

theorem keepsPace_nil : synth.KeepsPace [] := by
  intro before bar after split
  simp at split

variable {bars : List Bar}

theorem keepsPace_concat {bar : Bar} :
    synth.KeepsPace (bars ++ [bar]) ↔
      synth.KeepsPace bars ∧ synth.InTime bars bar := by
  constructor
  · intro pace
    refine ⟨?_, pace bars bar [] rfl⟩
    intro before other after split
    exact pace before other (after ++ [bar]) (by simp [split])
  · rintro ⟨pace, inTime⟩ before other after split
    rcases eq_nil_or_concat after with rfl | ⟨after, last, rfl⟩
    · obtain ⟨rfl, same⟩ := append_inj' split rfl
      obtain rfl := singleton_inj.mp same
      exact inTime
    · have shorter : bars ++ [bar] = (before ++ other :: after) ++ [last] := by simp [split]
      exact pace before other after (append_inj' shorter rfl).1

def Follows (cursors : Dict InstrumentId Bar) (bars : List Bar) : Prop :=
  ∀ instrumentId, cursors.get? instrumentId = (ofInstrument instrumentId bars).getLast?

theorem Follows.set {cursors : Dict InstrumentId Bar} (follows : Follows cursors bars)
    (bar : Bar) : Follows (cursors.set bar.instrumentId bar) (bars ++ [bar]) := by
  intro instrumentId
  rw [Dict.get?_set, ofInstrument_append]
  by_cases own : instrumentId = bar.instrumentId
  · simp [ofInstrument, own]
  · simp [ofInstrument, own, Ne.symm own, follows instrumentId]

theorem synthesizeFrom_concat {cursors : Dict InstrumentId Bar} {prior : List Bar}
    (follows : Follows cursors prior) (bars : List Bar) (bar : Bar) :
    synth.synthesizeFrom cursors (bars ++ [bar]) =
      synth.synthesizeFrom cursors bars ++
        (synth.gapBefore (ofInstrument bar.instrumentId (prior ++ bars)).getLast? bar ++
          [bar]) := by
  induction bars generalizing cursors prior with
  | nil => simp [synthesizeFrom, follows bar.instrumentId]
  | cons first bars ih =>
    have rest := ih (follows.set first)
    rw [append_assoc, singleton_append] at rest
    simp [synthesizeFrom, rest]

theorem synthesize_concat (bars : List Bar) (bar : Bar) :
    synth.synthesize (bars ++ [bar]) = synth.synthesize bars ++
      (synth.gapBefore (ofInstrument bar.instrumentId bars).getLast? bar ++ [bar]) :=
  @synthesizeFrom_concat synth .empty [] (fun _ => rfl) bars bar

theorem getLast?_synthesize (bars : List Bar) :
    (synth.synthesize bars).getLast? = bars.getLast? := by
  rcases eq_nil_or_concat bars with rfl | ⟨bars, bar, rfl⟩
  · rfl
  · rw [concat_eq_append, synthesize_concat]
    simp

theorem fillFrom_chronological (template nextBar : Bar) (cursorStart : Int) :
    Chronological (synth.fillFrom template nextBar cursorStart ++ [nextBar]) ∧
      ∀ filler ∈ synth.fillFrom template nextBar cursorStart,
        cursorStart + synth.slotDuration ≤ filler.endTime ∧
          filler.endTime ≤ nextBar.endTime := by
  have pos := synth.pos
  have ordered := nextBar.formed.ordered
  fun_induction fillFrom synth template nextBar cursorStart with
  | case1 cursorStart fits ih =>
    obtain ⟨rest, bounds⟩ := ih
    have next : cursorStart + synth.slotDuration ≤ nextBar.endTime :=
      fits.trans ordered.le
    refine ⟨.cons ?_ rest, ?_⟩
    · intro other mem
      rcases mem_append.mp mem with later | last
      · have := (bounds other later).1
        exact (Int.lt_add_of_pos_right _ pos).le.trans this
      · rw [mem_singleton.mp last]
        exact next
    · intro filler mem
      rcases mem_cons.mp mem with rfl | later
      · exact ⟨le_rfl, next⟩
      · obtain ⟨lower, upper⟩ := bounds filler later
        exact ⟨(Int.lt_add_of_pos_right _ pos).le.trans lower, upper⟩
  | case2 => exact ⟨pairwise_singleton _ _, by simp⟩

theorem chronological_append_iff {bars more : List Bar} :
    Chronological (bars ++ more) ↔ Chronological bars ∧ Chronological more ∧
      ∀ latest ∈ bars.getLast?, ∀ bar ∈ more, latest.endTime ≤ bar.endTime := by
  rw [Chronological, Ascending, pairwise_append]
  constructor
  · rintro ⟨first, second, across⟩
    exact ⟨first, second, fun latest isLast => across latest (mem_of_getLast? isLast)⟩
  · rintro ⟨first, second, across⟩
    refine ⟨first, second, ?_⟩
    intro bar mem other later
    rcases eq_nil_or_concat bars with rfl | ⟨front, latest, rfl⟩
    · cases mem
    · rw [concat_eq_append] at mem first across
      have least := across latest (by simp) other later
      rcases mem_append.mp mem with inside | isLast
      · exact ((pairwise_append.mp first).2.2 bar inside latest mem_cons_self).trans least
      · rw [mem_singleton.mp isLast]
        exact least

theorem gap_chronological_iff {before : List Bar} {bar : Bar}
    (sorted : ∀ latest ∈ before.getLast?, latest.endTime ≤ bar.endTime) :
    let gap := synth.gapBefore (ofInstrument bar.instrumentId before).getLast? bar
    (Chronological (gap ++ [bar]) ∧ ∀ latest ∈ before.getLast?, ∀ other ∈ gap ++ [bar],
      latest.endTime ≤ other.endTime) ↔ synth.InTime before bar := by
  intro gap
  have single : Chronological [bar] := pairwise_singleton _ _
  cases last : (ofInstrument bar.instrumentId before).getLast? with
  | none =>
    have none : gap = [] := by simp [gap, last, gapBefore]
    rw [none, nil_append]
    constructor
    · intro _ latest _ prev isPrevious
      rw [last] at isPrevious
      cases isPrevious
    · intro _
      refine ⟨single, ?_⟩
      intro latest isLatest other mem
      rw [mem_singleton.mp mem]
      exact sorted latest isLatest
  | some prev =>
    by_cases fills : synth.shouldFillBetween prev bar = true
    · have filled : gap = synth.fillFrom prev bar prev.endTime := by
        simp [gap, last, gapBefore, fills, fillGap]
      obtain ⟨ordered, bounds⟩ := @fillFrom_chronological synth prev bar prev.endTime
      rw [filled]
      constructor
      · rintro ⟨-, across⟩ latest isLatest other isOther - fits
        rw [last] at isOther
        obtain rfl := Option.mem_some_iff.mp isOther
        rw [fillFrom_of_le fits] at across
        exact across latest isLatest _ mem_cons_self
      · intro inTime
        refine ⟨ordered, ?_⟩
        intro latest isLatest other mem
        rcases mem_append.mp mem with inGap | isBar
        · have lower := (bounds other inGap).1
          have fits : prev.endTime + synth.slotDuration ≤ bar.startTime := by
            by_contra tight
            rw [fillFrom_of_lt (not_le.mp tight)] at inGap
            cases inGap
          exact (inTime latest isLatest prev last fills fits).trans lower
        · rw [mem_singleton.mp isBar]
          exact sorted latest isLatest
    · have none : gap = [] := by simp [gap, last, gapBefore, fills]
      rw [none, nil_append]
      constructor
      · intro _ latest _ other isOther filled
        rw [last] at isOther
        obtain rfl := Option.mem_some_iff.mp isOther
        exact absurd filled fills
      · intro _
        refine ⟨single, ?_⟩
        intro latest isLatest other mem
        rw [mem_singleton.mp mem]
        exact sorted latest isLatest

/-- A sorted stream stays sorted on the grid exactly when no gap is behind. -/
theorem synthesize_chronological_iff (sorted : Chronological bars) :
    Chronological (synth.synthesize bars) ↔ synth.KeepsPace bars := by
  induction bars using reverseRecOn with
  | nil => exact iff_of_true .nil keepsPace_nil
  | append_singleton bars bar ih =>
    obtain ⟨front, -, across⟩ := chronological_append_iff.mp sorted
    rw [synthesize_concat, chronological_append_iff, keepsPace_concat, ih front,
      getLast?_synthesize]
    apply and_congr_right'
    exact gap_chronological_iff fun latest isLast => across latest isLast bar mem_cons_self

end BarTimeGridSynthesizer

theorem BarTimeGridSynthesizer.create_clock {timeframe : String}
    {synth : BarTimeGridSynthesizer} {parsed : Timeframe}
    (created : create timeframe = .ok synth)
    (known : parse timeframe = .ok parsed) : parsed.alignment = .clock := by
  unfold create at created
  split at created
  · cases created
  · next value duration alignment found =>
    cases known.symm.trans found
    split at created
    · cases created
    · split at created
      · next clock => exact clock
      · cases created

theorem BarTimeGridSynthesizer.create_of_parse {timeframe value : String} {duration : Int}
    (known : parse timeframe = .ok ⟨value, some duration, .clock⟩) :
    ∃ synth, create timeframe = .ok synth ∧
      synth.timeframeValue = value ∧ synth.slotDuration = duration := by
  unfold create
  split
  · next found =>
    cases known.symm.trans found
  · next other otherDuration alignment found =>
    cases known.symm.trans found
    exact ⟨_, rfl, rfl, rfl⟩

/-- The gaps of a root are not behind its other bars. -/
def RootStream.KeepsPace (root : RootStream) : Prop :=
  ∀ synth, create root.sourceTimeframe = .ok synth →
    synth.KeepsPace root.bars

theorem interleaves_self (bars : List Bar) : Interleaves bars bars := by
  refine ⟨replicate bars.length [], by simp, ?_, ?_⟩
  · intro filler mem
    simp [eq_of_mem_replicate mem]
  · induction bars with
    | nil => rfl
    | cons bar bars ih => simpa [replicate_succ] using ih

theorem withTimeGridSynthesis_spec {root : RootStream} {stream : List Bar}
    (sorted : Chronological root.bars)
    (wrapped : withTimeGridSynthesis root.bars root.sourceTimeframe = .ok stream) :
    Interleaves root.bars stream ∧
      (Chronological stream ↔ root.KeepsPace) := by
  obtain ⟨parsed, known, wrapped⟩ := bind_inv wrapped
  by_cases clock : parsed.alignment = .clock
  · rw [if_neg (not_not.mpr clock)] at wrapped
    obtain ⟨synth, created, done⟩ := bind_inv wrapped
    cases done
    refine ⟨synthesizeFrom_interleaves .empty root.bars, ?_⟩
    rw [synthesize_chronological_iff sorted]
    constructor
    · intro pace other made
      rw [created] at made
      cases made
      exact pace
    · exact fun pace => pace synth created
  · rw [if_pos clock] at wrapped
    cases wrapped
    refine ⟨interleaves_self root.bars, iff_of_true sorted ?_⟩
    intro synth created
    exact absurd (create_clock created known) clock

structure Numbers (rootIndex : Nat) (roots : List RootStream) (streams : List (Nat × List Bar)) :
    Prop where
  indices : streams.map Prod.fst = List.range' rootIndex roots.length
  ofRoot : ∀ index root, roots[index]? = some root → ∃ stream,
    (rootIndex + index, stream) ∈ streams ∧
      withTimeGridSynthesis root.bars root.sourceTimeframe = .ok stream
  root : ∀ stream ∈ streams, ∃ root ∈ roots,
    withTimeGridSynthesis root.bars root.sourceTimeframe = .ok stream.2

theorem rootStreams_numbers {rootIndex : Nat} {roots : List RootStream}
    {streams : List (Nat × List Bar)} (built : rootStreams rootIndex roots = .ok streams) :
    Numbers rootIndex roots streams := by
  induction roots generalizing rootIndex streams with
  | nil =>
    cases built
    exact ⟨rfl, by simp, by simp⟩
  | cons root roots ih =>
    obtain ⟨stream, wrapped, built⟩ := bind_inv built
    obtain ⟨later, rest, done⟩ := bind_inv built
    cases done
    have numbers := ih rest
    refine ⟨by simp [numbers.indices, range'_succ], ?_, ?_⟩
    · intro index other isRoot
      cases index with
      | zero =>
        cases isRoot
        exact ⟨stream, mem_cons_self, wrapped⟩
      | succ index =>
        obtain ⟨found, mem, onGrid⟩ := numbers.ofRoot index other isRoot
        refine ⟨found, mem_cons_of_mem _ ?_, onGrid⟩
        rwa [Nat.add_assoc, Nat.add_comm 1 index] at mem
    · intro other mem
      rcases mem_cons.mp mem with rfl | inLater
      · exact ⟨root, mem_cons_self, wrapped⟩
      · obtain ⟨found, inRoots, onGrid⟩ := numbers.root other inLater
        exact ⟨found, mem_cons_of_mem _ inRoots, onGrid⟩

theorem streamConfiguredBars_spec {roots : List RootStream} {tape : List (Head Bar)}
    (sorted : ∀ root ∈ roots, Chronological root.bars)
    (built : streamConfiguredBars roots = .ok tape) :
    Lossless roots tape ∧
      (Chronological (tape.map Head.item) ↔ ∀ root ∈ roots, root.KeepsPace) := by
  obtain ⟨streams, wrapped, done⟩ := bind_inv built
  cases done
  have numbers := rootStreams_numbers wrapped
  have distinct : (streams.map Prod.fst).Nodup := by
    rw [numbers.indices]
    exact nodup_range'
  have merge := @merged_ascending_iff Bar Int _ streams (·.endTime) distinct
  refine ⟨⟨?_, ?_⟩, merge.trans ⟨?_, ?_⟩⟩
  · intro delivery mem
    have known := mem_merged_source distinct mem
    rw [numbers.indices, mem_range'_1] at known
    omega
  · intro index root isRoot
    obtain ⟨stream, mem, onGrid⟩ := numbers.ofRoot index root isRoot
    rw [Nat.zero_add] at mem
    have whole : ofSource (mergeOrderedBarStreams streams) index = stream :=
      ofSource_merged _ distinct mem
    rw [whole]
    exact (withTimeGridSynthesis_spec (sorted root (mem_of_getElem? isRoot)) onGrid).1
  · intro ascending root mem
    obtain ⟨index, isRoot⟩ := mem_iff_getElem?.mp mem
    obtain ⟨stream, inStreams, onGrid⟩ := numbers.ofRoot index root isRoot
    exact (withTimeGridSynthesis_spec (sorted root mem) onGrid).2.mp
      (ascending _ inStreams)
  · intro pace stream mem
    obtain ⟨root, inRoots, onGrid⟩ := numbers.root stream mem
    exact (withTimeGridSynthesis_spec (sorted root inRoots) onGrid).2.mpr (pace root inRoots)

/-- A tape is always lossless, and it is in order exactly when the gaps of every root are filled in
time. -/
theorem tape_chronological_iff {roots : List RootStream} {tape : List (Head Bar)}
    (sorted : ∀ root ∈ roots, Chronological root.bars)
    (built : streamConfiguredBars roots = .ok tape) :
    (Chronological (tape.map Head.item) ∧ Lossless roots tape) ↔
      ∀ root ∈ roots, root.KeepsPace := by
  obtain ⟨lossless, chronological⟩ := streamConfiguredBars_spec sorted built
  rw [chronological]
  exact and_iff_left lossless

namespace TwoSessions

def microsoft : InstrumentId := ⟨⟨"EQUITY.US.NASDAQ.MSFT", rfl⟩⟩

def microsoftMinute : Bar where
  toBarFields := { firstMinute.toBarFields with
    instrumentId := microsoft
    startTime := 20592 * oneDay + 120 * oneSecond
    endTime := 20592 * oneDay + 180 * oneSecond }
  valid := by decide +kernel

def fourthMinute : Bar where
  toBarFields := { firstMinute.toBarFields with
    startTime := 20592 * oneDay + 180 * oneSecond
    endTime := 20592 * oneDay + 240 * oneSecond }
  valid := by decide +kernel

def equities : RootStream where
  sourceTimeframe := "1m"
  bars := [firstMinute, microsoftMinute, fourthMinute]

theorem equities_chronological : ∀ root ∈ [equities], Chronological root.bars := by
  intro root mem
  rw [mem_singleton.mp mem]
  refine .cons ?_ (.cons ?_ (pairwise_singleton _ _))
  · intro bar mem
    simp only [mem_cons, not_mem_nil, or_false] at mem
    rcases mem with rfl | rfl
    · decide
    · decide
  · intro bar mem
    rw [mem_singleton.mp mem]
    decide

theorem parse_oneMinute : parse "1m" = .ok oneMinute := by
  decide +kernel

theorem streamConfiguredBars_equities : ∃ tape, streamConfiguredBars [equities] = .ok tape := by
  obtain ⟨synth, created, -⟩ := create_of_parse parse_oneMinute
  have wrapped : withTimeGridSynthesis equities.bars "1m" =
      .ok (synth.synthesize equities.bars) := by
    unfold withTimeGridSynthesis
    rw [parse_oneMinute, created]
    rfl
  refine ⟨mergeOrderedBarStreams [(0, synth.synthesize equities.bars)], ?_⟩
  have streams : rootStreams 0 [equities] = .ok [(0, synth.synthesize equities.bars)] := by
    change (withTimeGridSynthesis equities.bars "1m" >>= _) = _
    rw [wrapped]
    rfl
  rw [streamConfiguredBars, streams]
  rfl

theorem tape_chronological_iff_equities :
    ∃ tape, streamConfiguredBars [equities] = .ok tape ∧
      ((Chronological (tape.map Head.item) ∧ Lossless [equities] tape) ↔
        ∀ root ∈ [equities], root.KeepsPace) := by
  obtain ⟨tape, built⟩ := streamConfiguredBars_equities
  exact ⟨tape, built, tape_chronological_iff equities_chronological built⟩

/-- The fill of the second minute comes behind the third minute, which only the other
instrument has. -/
theorem late_fill_breaks_order :
    ∃ tape, streamConfiguredBars [equities] = .ok tape ∧
      ¬ Chronological (tape.map Head.item) := by
  obtain ⟨tape, built⟩ := streamConfiguredBars_equities
  refine ⟨tape, built, ?_⟩
  intro ordered
  have pace := (streamConfiguredBars_spec equities_chronological built).2.mp ordered equities
    mem_cons_self
  obtain ⟨synth, created, value, duration⟩ :=
    create_of_parse parse_oneMinute
  have late := pace synth created [firstMinute, microsoftMinute] fourthMinute [] rfl
    microsoftMinute rfl firstMinute rfl ?_ ?_
  · rw [duration] at late
    exact absurd late (by decide)
  · rw [shouldFillBetween, value]
    decide +kernel
  · rw [duration]
    decide

end TwoSessions

end Qts
