import Qts.AggregatedRuns

/-! # Time grid synthesis -/

namespace Qts

open Dict

structure BarTimeGridSynthesizer where
  timeframeValue : String
  slotDuration : Int
  pos : 0 < slotDuration

namespace BarTimeGridSynthesizer

def create (timeframe : String) : Except Failure BarTimeGridSynthesizer :=
  match parsed : Timeframe.parse timeframe with
  | .error failure => .error failure
  | .ok ⟨value, duration, alignment⟩ =>
    match duration with
    | none => .error (.valueError
        ("BarTimeGridSynthesizer only supports clock-aligned timeframes; got "
        ++ timeframe))
    | some slotDuration =>
      if alignment = .clock then
        .ok { timeframeValue := value
              slotDuration
              pos := (Timeframe.parse_isClock parsed rfl).1.pos }
      else .error (.valueError
          ("BarTimeGridSynthesizer only supports clock-aligned timeframes; got "
        ++ timeframe))

def syntheticBar (template : Bar) (startTime endTime : DateTime) (ordered : startTime < endTime) :
    Bar where
  toBarFields := { template.toBarFields with
    startTime, endTime
    openPrice := template.close
    high := template.close
    low := template.close
    close := template.close
    volume := 0
    vwap := none
    openInterest := none
    tradeCount := none
    isSynthetic := true
    isComplete := true
    isPartial := false }
  valid := (BarFields.wellFormed_iff _).mpr
    { ordered
      timeframe := template.formed.timeframe
      session := template.formed.session
      high := (max_self _).le
      low := (min_self _).ge
      volume := le_rfl
      vwap := fun _ given => absurd given (Option.not_mem_none _)
      openInterest := fun _ given => absurd given (Option.not_mem_none _)
      tradeCount := fun _ given => absurd given (Option.not_mem_none _) }

variable (synth : BarTimeGridSynthesizer)

def shouldFillBetween (prev nextBar : Bar) : Bool :=
  decide (prev.sessionId = nextBar.sessionId) &&
    decide (nextBar.timeframe = synth.timeframeValue) &&
    decide (prev.endTime < nextBar.startTime)

def fillFrom (template nextBar : Bar) (cursorStart : Int) : List Bar :=
  -- The last slot must not overlap the next observed bar.
  if _ : cursorStart + synth.slotDuration ≤ nextBar.startTime then
    syntheticBar template cursorStart (cursorStart + synth.slotDuration)
        (Int.lt_add_of_pos_right _ synth.pos) ::
      fillFrom template nextBar (cursorStart + synth.slotDuration)
  else []
termination_by (nextBar.startTime - cursorStart).toNat
decreasing_by
  have := synth.pos
  omega

def fillGap (prev nextBar : Bar) : List Bar :=
  synth.fillFrom prev nextBar prev.endTime

def gapBefore (prev : Option Bar) (bar : Bar) : List Bar :=
  match prev with
  | none => []
  | some prev =>
    if synth.shouldFillBetween prev bar then synth.fillGap prev bar else []

def synthesizeFrom (cursors : Dict InstrumentId Bar) : List Bar → List Bar
  | [] => []
  | bar :: bars =>
    synth.gapBefore (cursors.get? bar.instrumentId) bar ++
      bar :: synthesizeFrom (cursors.set bar.instrumentId bar) bars

/-- The bars with the gaps within each session filled. -/
def synthesize (bars : List Bar) : List Bar :=
  synth.synthesizeFrom .empty bars

variable {synth} {cursorStart : Int} {template nextBar : Bar}

theorem fillFrom_of_le (fits : cursorStart + synth.slotDuration ≤ nextBar.startTime) :
    synth.fillFrom template nextBar cursorStart =
      syntheticBar template cursorStart (cursorStart + synth.slotDuration)
          (Int.lt_add_of_pos_right _ synth.pos) ::
        synth.fillFrom template nextBar (cursorStart + synth.slotDuration) := by
  rw [fillFrom, dif_pos fits]

theorem fillFrom_of_lt (tight : nextBar.startTime < cursorStart + synth.slotDuration) :
    synth.fillFrom template nextBar cursorStart = [] := by
  rw [fillFrom, dif_neg (not_le.mpr tight)]

structure MadeFrom (template bar : Bar) : Prop where
  instrument : bar.instrumentId = template.instrumentId
  session : bar.sessionId = template.sessionId
  timeframe : bar.timeframe = template.timeframe
  synthetic : bar.isSynthetic = true

theorem fillFrom_madeFrom (template nextBar : Bar) (cursorStart : Int) :
    ∀ bar ∈ synth.fillFrom template nextBar cursorStart, MadeFrom template bar := by
  fun_induction fillFrom synth template nextBar cursorStart with
  | case1 cursorStart fits ih =>
    intro bar mem
    rcases List.mem_cons.mp mem with rfl | mem
    · exact ⟨rfl, rfl, rfl, rfl⟩
    · exact ih bar mem
  | case2 => simp

theorem gapBefore_madeFrom {prev : Option Bar} {bar : Bar} :
    ∀ filler ∈ synth.gapBefore prev bar, ∃ template ∈ prev,
      MadeFrom template filler := by
  intro filler mem
  unfold gapBefore at mem
  cases prev with
  | none => cases mem
  | some prev =>
    dsimp only at mem
    split at mem
    · exact ⟨prev, rfl, fillFrom_madeFrom prev bar _ filler mem⟩
    · cases mem

/-- No gap to fill after a bar: the next one is close behind, or not to be filled up to. -/
def Filled (synth : BarTimeGridSynthesizer) (prev bar : Bar) : Prop :=
  prev.sessionId = bar.sessionId → bar.timeframe = synth.timeframeValue →
    bar.startTime < prev.endTime + synth.slotDuration

theorem gapBefore_eq_nil {prev bar : Bar} (filled : synth.Filled prev bar) :
    synth.gapBefore (some prev) bar = [] := by
  unfold gapBefore
  dsimp only
  split
  · next fills =>
    unfold shouldFillBetween at fills
    simp only [Bool.and_eq_true, decide_eq_true_eq] at fills
    exact fillFrom_of_lt (filled fills.1.1 fills.1.2)
  · rfl

theorem fillFrom_chain {prev : Bar} (ends : prev.endTime = cursorStart)
    (before : cursorStart ≤ nextBar.startTime) {more : List Bar}
    (rest : (nextBar :: more).IsChain fun first second =>
      first.endTime ≤ second.startTime ∧ synth.Filled first second) :
    (prev :: (synth.fillFrom template nextBar cursorStart ++ nextBar :: more)).IsChain
      fun first second => first.endTime ≤ second.startTime ∧ synth.Filled first second := by
  fun_induction fillFrom synth template nextBar cursorStart generalizing prev with
  | case1 cursorStart fits ih =>
    rw [List.cons_append, List.isChain_cons_cons]
    refine ⟨⟨ends.le, fun _ _ => ?_⟩, ih rfl fits⟩
    rw [ends]
    exact Int.lt_add_of_pos_right cursorStart synth.pos
  | case2 cursorStart tight =>
    rw [List.nil_append, List.isChain_cons_cons]
    refine ⟨⟨ends.le.trans before, fun _ _ => ?_⟩, rest⟩
    rw [ends]
    exact not_le.mp tight

def fillStream (synth : BarTimeGridSynthesizer) (prev : Option Bar) : List Bar → List Bar
  | [] => []
  | bar :: bars =>
    synth.gapBefore prev bar ++ bar :: fillStream synth (some bar) bars

def Keyed (cursors : Dict InstrumentId Bar) : Prop :=
  ∀ instrumentId, ∀ bar ∈ cursors.get? instrumentId, bar.instrumentId = instrumentId

theorem keyed_empty : Keyed .empty :=
  fun _ _ none => by cases none

variable {cursors : Dict InstrumentId Bar}

theorem keyed_set (keyed : Keyed cursors) (bar : Bar) :
    Keyed (cursors.set bar.instrumentId bar) := by
  intro other last found
  rw [get?_set] at found
  split at found
  · next same =>
    obtain rfl := Option.mem_some_iff.mp found
    exact same.symm
  · exact keyed other last found

theorem ofInstrument_synthesizeFrom (keyed : Keyed cursors) (instrumentId : InstrumentId)
    (bars : List Bar) :
    ofInstrument instrumentId (synth.synthesizeFrom cursors bars) =
      synth.fillStream (cursors.get? instrumentId) (ofInstrument instrumentId bars) := by
  induction bars generalizing cursors with
  | nil => rfl
  | cons bar bars ih =>
    have keyedNext := keyed_set keyed bar
    have own : ∀ filler ∈ synth.gapBefore (cursors.get? bar.instrumentId) bar,
        filler.instrumentId = bar.instrumentId := by
      intro filler mem
      obtain ⟨template, found, made⟩ := gapBefore_madeFrom filler mem
      rw [made.instrument]
      exact keyed _ template found
    have split : synth.gapBefore (cursors.get? bar.instrumentId) bar ++
        bar :: synth.synthesizeFrom (cursors.set bar.instrumentId bar) bars =
        (synth.gapBefore (cursors.get? bar.instrumentId) bar ++ [bar]) ++
          synth.synthesizeFrom (cursors.set bar.instrumentId bar) bars := by simp
    have all : ∀ filler ∈ synth.gapBefore (cursors.get? bar.instrumentId) bar ++ [bar],
        filler.instrumentId = bar.instrumentId := by
      intro filler mem
      rcases List.mem_append.mp mem with mem | mem
      · exact own filler mem
      · rw [List.mem_singleton.mp mem]
    rw [synthesizeFrom, split, ofInstrument_append, ih keyedNext]
    by_cases same : bar.instrumentId = instrumentId
    · subst same
      rw [ofInstrument_self all, get?_set_self]
      simp [ofInstrument, fillStream]
    · rw [ofInstrument_other all same, get?_set_of_ne _ _ (Ne.symm same)]
      simp [ofInstrument, same]

theorem ofInstrument_synthesize (instrumentId : InstrumentId) (bars : List Bar) :
    ofInstrument instrumentId (synth.synthesize bars) =
      synth.fillStream none (ofInstrument instrumentId bars) :=
  ofInstrument_synthesizeFrom keyed_empty instrumentId bars

variable {bars : List Bar}

/-- A filled stream has no overlap and no gap that a slot would fit in. -/
theorem fillStream_chain {prev : Bar}
    (ordered : (prev :: bars).IsChain fun first second => first.endTime ≤ second.startTime) :
    (prev :: synth.fillStream (some prev) bars).IsChain fun first second =>
      first.endTime ≤ second.startTime ∧ synth.Filled first second := by
  induction bars generalizing prev with
  | nil => exact List.isChain_singleton _
  | cons bar bars ih =>
    rw [List.isChain_cons_cons] at ordered
    have rest := ih ordered.2
    unfold fillStream gapBefore
    dsimp only
    split
    · exact fillFrom_chain rfl ordered.1 rest
    · next closed =>
      rw [List.nil_append, List.isChain_cons_cons]
      refine ⟨⟨ordered.1, fun sameSession ofTimeframe => ?_⟩, rest⟩
      have touching : ¬ prev.endTime < bar.startTime := fun gap => by
        simp [shouldFillBetween, sameSession, ofTimeframe, gap] at closed
      have := synth.pos
      exact lt_of_le_of_lt (not_lt.mp touching) (Int.lt_add_of_pos_right _ synth.pos)

theorem fillStream_none_chain
    (ordered : bars.IsChain fun first second => first.endTime ≤ second.startTime) :
    (synth.fillStream none bars).IsChain fun first second =>
      first.endTime ≤ second.startTime ∧ synth.Filled first second := by
  cases bars with
  | nil => exact List.isChain_nil
  | cons bar bars => exact fillStream_chain ordered

/-- Each bar of a stream behind the synthetic bars that come before it. -/
def Interleaves (bars output : List Bar) : Prop :=
  ∃ fillers : List (List Bar), fillers.length = bars.length ∧
    (∀ filler ∈ fillers, ∀ bar ∈ filler, bar.isSynthetic = true) ∧
    output = (fillers.zip bars).flatMap fun entry => entry.1 ++ [entry.2]

theorem synthesizeFrom_interleaves (cursors : Dict InstrumentId Bar) (bars : List Bar) :
    Interleaves bars (synth.synthesizeFrom cursors bars) := by
  induction bars generalizing cursors with
  | nil => exact ⟨[], rfl, by simp, rfl⟩
  | cons bar bars ih =>
    obtain ⟨fillers, length, synthetic, output⟩ := ih (cursors.set bar.instrumentId bar)
    refine ⟨synth.gapBefore (cursors.get? bar.instrumentId) bar :: fillers, ?_, ?_, ?_⟩
    · simp [length]
    · intro filler mem
      rcases List.mem_cons.mp mem with rfl | mem
      · intro made inside
        obtain ⟨template, -, from_template⟩ := gapBefore_madeFrom made inside
        exact from_template.synthetic
      · exact synthetic filler mem
    · rw [synthesizeFrom, output]
      simp

theorem Interleaves.observed {bars output : List Bar} (interleaves : Interleaves bars output) :
    (output.filter fun bar => !bar.isSynthetic) = bars.filter fun bar => !bar.isSynthetic := by
  obtain ⟨fillers, length, synthetic, rfl⟩ := interleaves
  induction bars generalizing fillers with
  | nil => simp
  | cons bar bars ih =>
    cases fillers with
    | nil => cases length
    | cons filler fillers =>
      have none : (filler.filter fun bar => !bar.isSynthetic) = [] := by
        apply List.filter_eq_nil_iff.mpr
        intro made inside
        simp [synthetic filler List.mem_cons_self made inside]
      have rest := ih fillers (by simpa using length)
        fun other mem => synthetic other (List.mem_cons_of_mem _ mem)
      simp only [List.zip_cons_cons, List.flatMap_cons, List.filter_append, none, List.nil_append,
        rest]
      by_cases flagged : bar.isSynthetic = true <;> simp [flagged]

theorem synthesizeFrom_fillFrom {template nextBar prev : Bar}
    (ends : prev.endTime = cursorStart) (made : template.instrumentId = nextBar.instrumentId)
    (found : cursors.get? nextBar.instrumentId = some prev) (more : List Bar) :
    synth.synthesizeFrom cursors
        (synth.fillFrom template nextBar cursorStart ++ nextBar :: more) =
      synth.fillFrom template nextBar cursorStart ++ nextBar ::
        synth.synthesizeFrom (cursors.set nextBar.instrumentId nextBar) more := by
  fun_induction fillFrom synth template nextBar cursorStart
    generalizing prev cursors with
  | case1 cursorStart fits ih =>
    have pos := synth.pos
    generalize made_eq : syntheticBar template cursorStart
      (cursorStart + synth.slotDuration) (Int.lt_add_of_pos_right _ pos) = filler
    have instrument : filler.instrumentId = nextBar.instrumentId := by rw [← made_eq]; exact made
    have starts : filler.startTime = cursorStart := by rw [← made_eq]; rfl
    have none : synth.gapBefore (cursors.get? filler.instrumentId) filler = [] := by
      rw [instrument, found]
      apply gapBefore_eq_nil
      intro _ _
      rw [starts, ends]
      exact Int.lt_add_of_pos_right cursorStart pos
    have endsNext : filler.endTime = cursorStart + synth.slotDuration := by
      rw [← made_eq]
      rfl
    rw [List.cons_append, synthesizeFrom, none, List.nil_append, List.cons_append,
      ih endsNext (by rw [instrument, get?_set_self]), instrument,
      set_set]
  | case2 cursorStart tight =>
    have none : synth.gapBefore (cursors.get? nextBar.instrumentId) nextBar = [] := by
      rw [found]
      apply gapBefore_eq_nil
      intro _ _
      rw [ends]
      exact not_le.mp tight
    rw [List.nil_append, synthesizeFrom, none, List.nil_append]

theorem synthesizeFrom_synthesizeFrom (keyed : Keyed cursors) (bars : List Bar) :
    synth.synthesizeFrom cursors (synth.synthesizeFrom cursors bars) =
      synth.synthesizeFrom cursors bars := by
  induction bars generalizing cursors with
  | nil => rfl
  | cons bar bars ih =>
    have rest := ih (keyed_set keyed bar)
    rw [synthesizeFrom]
    cases found : cursors.get? bar.instrumentId with
    | none =>
      change synth.synthesizeFrom cursors (bar :: _) = bar :: _
      rw [synthesizeFrom, found, rest]
      rfl
    | some prev =>
      have own := keyed _ prev found
      unfold gapBefore
      dsimp only
      split
      · unfold fillGap
        rw [synthesizeFrom_fillFrom rfl own found, rest]
      · next closed =>
        rw [List.nil_append, synthesizeFrom, found, rest]
        unfold gapBefore
        dsimp only
        rw [if_neg closed, List.nil_append]

theorem fillFrom_touches {template nextBar prev : Bar} (ends : prev.endTime = cursorStart)
    (before : cursorStart ≤ nextBar.startTime)
    (whole : synth.slotDuration ∣ nextBar.startTime - cursorStart) :
    (prev :: (synth.fillFrom template nextBar cursorStart ++ [nextBar])).IsChain
      fun first second => first.endTime = second.startTime := by
  have pos := synth.pos
  fun_induction fillFrom synth template nextBar cursorStart generalizing prev with
  | case1 cursorStart fits ih =>
    rw [List.cons_append, List.isChain_cons_cons]
    have wholeNext : synth.slotDuration ∣
        nextBar.startTime - (cursorStart + synth.slotDuration) := by
      rw [← Int.sub_sub]
      exact Int.dvd_sub whole (Int.dvd_refl _)
    exact ⟨ends, ih rfl fits wholeNext⟩
  | case2 cursorStart tight =>
    have closed : cursorStart = nextBar.startTime := by
      by_contra gap
      have room : 0 < nextBar.startTime - cursorStart :=
        Int.sub_pos_of_lt (lt_of_le_of_ne before gap)
      exact tight (Int.add_le_of_le_sub_left (Int.le_of_dvd room whole))
    rw [List.nil_append, List.isChain_cons_cons]
    exact ⟨ends.trans closed, List.isChain_singleton _⟩

theorem fillStream_between {prev nextBar : Bar} (last : Option Bar)
    (between : [prev, nextBar] <:+: bars) :
    prev :: (synth.gapBefore (some prev) nextBar ++ [nextBar]) <:+:
      synth.fillStream last bars := by
  induction bars generalizing last with
  | nil => simp at between
  | cons bar bars ih =>
    rw [fillStream]
    rcases List.infix_cons_iff.mp between with front | later
    · obtain ⟨rfl, next⟩ := List.cons_prefix_cons.mp front
      cases bars with
      | nil => simp at next
      | cons second bars =>
        obtain ⟨rfl, -⟩ := List.cons_prefix_cons.mp next
        rw [fillStream]
        exact ⟨synth.gapBefore last prev,
          synth.fillStream (some nextBar) bars, by simp⟩
    · have inside := ih (some bar) later
      have tail : synth.fillStream (some bar) bars <:+:
          synth.gapBefore last bar ++ bar :: synth.fillStream (some bar) bars :=
        ⟨synth.gapBefore last bar ++ [bar], [], by simp⟩
      exact inside.trans tail

/-- Between two bars in a row of an instrument and a session, whose gap is a multiple of the slot,
every bar of the output touches the next one. -/
def ClosesGaps (synth : BarTimeGridSynthesizer) (bars output : List Bar) : Prop :=
  ∀ instrumentId prev nextBar, [prev, nextBar] <:+: ofInstrument instrumentId bars →
    prev.sessionId = nextBar.sessionId → nextBar.timeframe = synth.timeframeValue →
    synth.slotDuration ∣ nextBar.startTime - prev.endTime →
    ∃ fillers, prev :: (fillers ++ [nextBar]) <:+: ofInstrument instrumentId output ∧
      (prev :: (fillers ++ [nextBar])).IsChain
        fun first second => first.endTime = second.startTime

theorem ofInstrument_ordered
    (sorted : bars.Pairwise fun first second => first.endTime ≤ second.endTime)
    (apart : bars.Pairwise Apart) (instrumentId : InstrumentId) :
    (ofInstrument instrumentId bars).Pairwise fun first second =>
      first.endTime ≤ second.startTime := by
  apply ((sorted.and apart).filter _).imp_of_mem
  rintro first second firstMember secondMember ⟨le, separate⟩
  have firstOf := of_decide_eq_true (List.mem_filter.mp firstMember).2
  have secondOf := of_decide_eq_true (List.mem_filter.mp secondMember).2
  have pos := first.formed.ordered
  rcases separate (firstOf.trans secondOf.symm) with follows | precedes
  · exact follows
  · exact absurd (le.trans precedes) (not_le.mpr pos)

theorem pairwise_of_chain
    (chain : bars.IsChain fun first second => first.endTime ≤ second.startTime) :
    bars.Pairwise fun first second => first.endTime ≤ second.startTime := by
  induction bars with
  | nil => exact .nil
  | cons first bars ih =>
    have later := ih chain.tail
    refine .cons ?_ later
    intro third mem
    cases bars with
    | nil => cases mem
    | cons second bars =>
      have touching := (List.isChain_cons_cons.mp chain).1
      rcases List.mem_cons.mp mem with rfl | mem
      · exact touching
      · have apart := List.rel_of_pairwise_cons later mem
        exact touching.trans (second.formed.ordered.le.trans apart)

theorem synthesize_ordered (instrumentId : InstrumentId)
    (ordered : (ofInstrument instrumentId bars).Pairwise fun first second =>
      first.endTime ≤ second.startTime) :
    (ofInstrument instrumentId (synth.synthesize bars)).Pairwise fun first second =>
      first.endTime ≤ second.startTime := by
  rw [ofInstrument_synthesize]
  exact pairwise_of_chain ((fillStream_none_chain ordered.isChain).imp fun _ _ both => both.1)

theorem synthesize_closesGaps
    (ordered : ∀ instrumentId, (ofInstrument instrumentId bars).Pairwise fun first second =>
      first.endTime ≤ second.startTime) :
    synth.ClosesGaps bars (synth.synthesize bars) := by
  intro instrumentId prev nextBar between sameSession ofTimeframe whole
  have follows : prev.endTime ≤ nextBar.startTime := by
    have pair := (ordered instrumentId).sublist between.sublist
    exact (List.pairwise_cons.mp pair).1 nextBar List.mem_cons_self
  refine ⟨synth.gapBefore (some prev) nextBar, ?_, ?_⟩
  · rw [ofInstrument_synthesize]
    exact fillStream_between none between
  · unfold gapBefore
    dsimp only
    split
    · exact fillFrom_touches rfl follows whole
    · next closed =>
      have touching : ¬ prev.endTime < nextBar.startTime := fun gap => by
        simp [shouldFillBetween, sameSession, ofTimeframe, gap] at closed
      rw [List.nil_append, List.isChain_cons_cons]
      exact ⟨le_antisymm follows (not_lt.mp touching), List.isChain_singleton _⟩

/-- The synthesizer only fills gaps: the observed bars come out as they went in, behind synthetic
ones; the bars of an instrument do not overlap, and a gap inside a session that is a multiple of
the slot is closed; a second pass finds nothing to fill. -/
theorem synthesize_onlyFills (synth : BarTimeGridSynthesizer) {bars : List Bar}
    (sorted : bars.Pairwise fun first second => first.endTime ≤ second.endTime)
    (apart : bars.Pairwise Apart) :
    Interleaves bars (synth.synthesize bars) ∧
      ((synth.synthesize bars).filter fun bar => !bar.isSynthetic) =
        (bars.filter fun bar => !bar.isSynthetic) ∧
      (∀ instrumentId, (ofInstrument instrumentId (synth.synthesize bars)).Pairwise
        fun first second => first.endTime ≤ second.startTime) ∧
      synth.ClosesGaps bars (synth.synthesize bars) ∧
      synth.synthesize (synth.synthesize bars) = synth.synthesize bars := by
  have ordered := ofInstrument_ordered sorted apart
  have interleaves := @synthesizeFrom_interleaves synth .empty bars
  exact ⟨interleaves, interleaves.observed,
    fun instrumentId => synthesize_ordered instrumentId (ordered instrumentId),
    synthesize_closesGaps ordered, synthesizeFrom_synthesizeFrom keyed_empty bars⟩

namespace SparseMinutes

open TwoSessions

def minutes : BarTimeGridSynthesizer where
  timeframeValue := "1m"
  slotDuration := 60 * oneSecond
  pos := by decide

/-- The minute after the second one, of the same session. -/
def thirdMinute : Bar where
  toBarFields := { secondMinute.toBarFields with
    startTime := secondMinute.endTime, endTime := secondMinute.endTime + 60 * oneSecond }
  valid := by decide +kernel

/-- The missing second minute is filled, the night before the next session is not. -/
theorem synthesize_onlyFills_missingMinute :
    let bars := [firstMinute, thirdMinute, nextDay]
    ((minutes.synthesize bars).map fun bar => (bar.startTime, bar.isSynthetic)) =
        [(firstMinute.startTime, false), (secondMinute.startTime, true),
          (thirdMinute.startTime, false), (nextDay.startTime, false)] ∧
      Interleaves bars (minutes.synthesize bars) ∧
      ((minutes.synthesize bars).filter fun bar => !bar.isSynthetic) =
        (bars.filter fun bar => !bar.isSynthetic) ∧
      (∀ instrumentId, (ofInstrument instrumentId (minutes.synthesize bars)).Pairwise
        fun first second => first.endTime ≤ second.startTime) ∧
      minutes.ClosesGaps bars (minutes.synthesize bars) ∧
      minutes.synthesize (minutes.synthesize bars) = minutes.synthesize bars :=
  have later : [firstMinute, thirdMinute, nextDay].Pairwise
      fun first second => first.endTime ≤ second.startTime := by decide
  ⟨by decide +kernel,
    synthesize_onlyFills minutes (by decide) (later.imp fun follows _ => .inl follows)⟩

end SparseMinutes

end BarTimeGridSynthesizer

end Qts
