import Qts.SubscriptionReplaySource
import Qts.BarConsolidation

/-! # The order in which a replay delivers bars -/

namespace Qts

open Dict StepRuns SubscriptionReplayMarketDataSource ReplaySequencedEvent List

def Bar.stream (bar : Bar) : InstrumentId × String :=
  (bar.instrumentId, bar.timeframe)

/-- A bar behind another that does not overlap it, when the two are of one stream. -/
def FollowsInStream (earlier later : Bar) : Prop :=
  earlier.stream = later.stream → earlier.endTime ≤ later.startTime

/-- Two bars that do not overlap, when they are of one stream. -/
def ApartInStream (first second : Bar) : Prop :=
  first.stream = second.stream →
    first.endTime ≤ second.startTime ∨ second.endTime ≤ first.startTime

theorem FollowsInStream.apart {earlier later : Bar} (follows : FollowsInStream earlier later) :
    ApartInStream earlier later :=
  fun same => Or.inl (follows same)

theorem ApartInStream.symm {first second : Bar} (separate : ApartInStream first second) :
    ApartInStream second first :=
  fun same => (separate same.symm).symm

theorem ApartInStream.ne {first second : Bar} (separate : ApartInStream first second) :
    first ≠ second := by
  rintro rfl
  rcases separate rfl with before | behind
  · exact not_le_of_gt first.formed.ordered before
  · exact not_le_of_gt first.formed.ordered behind

/-- The key by which the events are sorted, but for the place in the input. -/
def Bar.deliveryKey (bar : Bar) : DateTime ×ₗ String ×ₗ String ×ₗ DateTime :=
  toLex (bar.endTime, toLex (bar.instrumentId.value, toLex (bar.timeframe, bar.startTime)))

theorem ReplaySequencedEvent.deliveryKey_mono {first second : ReplaySequencedEvent}
    (inOrder : first.sortKey ≤ second.sortKey) :
    first.bar.deliveryKey ≤ second.bar.deliveryKey := by
  simp only [sortKey, Bar.deliveryKey, Prod.Lex.le_iff, ofLex_toLex] at inOrder ⊢
  rcases inOrder with ends | ⟨ends, instruments | ⟨instruments, timeframes | ⟨timeframes, rest⟩⟩⟩
  · exact Or.inl ends
  · exact Or.inr ⟨ends, Or.inl instruments⟩
  · exact Or.inr ⟨ends, Or.inr ⟨instruments, Or.inl timeframes⟩⟩
  · refine Or.inr ⟨ends, Or.inr ⟨instruments, Or.inr ⟨timeframes, ?_⟩⟩⟩
    rcases rest with starts | ⟨starts, -⟩
    · exact le_of_lt starts
    · exact le_of_eq starts

namespace ReplayEventSequencer

/-- Whether a diagnostic is about a bar that was dropped. -/
def reportsDrop (diagnostic : ReplayDataAnomalyEvent) : Bool :=
  decide (diagnostic.anomalyType ≠ .gapDetected)

/-- A diagnostic about a bar that was dropped. -/
def Reports (sourceId : String) (bar : Bar) (diagnostic : ReplayDataAnomalyEvent) : Prop :=
  ∃ anomalyType previousEnd, anomalyType ≠ .gapDetected ∧
    diagnostic = diagnosticEvent sourceId anomalyType bar previousEnd

/-- The fields of a bar by which a second copy of it is known. -/
def identity (bar : Bar) : InstrumentId × String × DateTime × DateTime :=
  (bar.instrumentId, bar.timeframe, bar.startTime, bar.endTime)

/-- How the bars gone through so far divide into the ones kept and the ones dropped. -/
structure Took (sourceId : String) (numbered kept dropped : List (Bar × Nat))
    (progress : Progress) : Prop where
  keptInOrder : kept.Sublist numbered
  divided : (kept ++ dropped).Perm numbered
  events : progress.events = kept.map fun taken => ⟨taken.2, taken.1⟩
  seen : progress.seenBars ⊆ kept.map fun taken => identity taken.1
  ends : ∀ taken ∈ kept, ∃ ended,
    progress.lastEndByStream.get? taken.1.stream = some ended ∧ taken.1.endTime ≤ ended
  endOf : ∀ stream ended, progress.lastEndByStream.get? stream = some ended →
    ∃ taken ∈ kept, taken.1.stream = stream ∧ taken.1.endTime = ended
  follow : (kept.map Prod.fst).Pairwise FollowsInStream
  reported : Forall₂ (fun taken => Reports sourceId taken.1) dropped
    (progress.diagnosticEvents.filter reportsDrop)
  complete : (numbered.map Prod.fst).Pairwise FollowsInStream → dropped = []

variable {sourceId : String} {numbered kept dropped : List (Bar × Nat)} {progress : Progress}

theorem Took.start : Took sourceId [] [] [] {} where
  keptInOrder := .slnil
  divided := .nil
  events := rfl
  seen := by simp
  ends := by simp
  endOf := by simp
  follow := .nil
  reported := .nil
  complete := fun _ => rfl

section

variable (took : Took sourceId numbered kept dropped progress)

include took

theorem Took.follows {bar : Bar}
    (inTime : (progress.lastEndByStream.get? bar.stream).any
      (fun ended => decide (bar.startTime < ended)) ≠ true) :
    ∀ earlier ∈ kept.map Prod.fst, FollowsInStream earlier bar := by
  intro earlier mem same
  obtain ⟨taken, isKept, rfl⟩ := mem_map.mp mem
  obtain ⟨ended, last, notLater⟩ := took.ends taken isKept
  rw [← same, last] at inTime
  have behind : ended ≤ bar.startTime := by simpa using inTime
  exact le_trans notLater behind

theorem Took.keep (taken : Bar × Nat)
    (inTime : (progress.lastEndByStream.get? taken.1.stream).any
      (fun ended => decide (taken.1.startTime < ended)) ≠ true)
    {diagnosticEvents : List ReplayDataAnomalyEvent}
    (quiet : diagnosticEvents.filter reportsDrop = progress.diagnosticEvents.filter reportsDrop) :
    Took sourceId (numbered ++ [taken]) (kept ++ [taken]) dropped
      { seenBars := identity taken.1 :: progress.seenBars
        lastEndByStream := progress.lastEndByStream.set taken.1.stream taken.1.endTime
        events := progress.events ++ [⟨taken.2, taken.1⟩]
        diagnosticEvents } where
  keptInOrder := took.keptInOrder.append_right [taken]
  divided := by
    have swapped : (kept ++ [taken] ++ dropped).Perm (kept ++ dropped ++ [taken]) := by
      rw [append_assoc, append_assoc]
      exact perm_append_comm.append_left kept
    exact swapped.trans (took.divided.append_right [taken])
  events := by simp [took.events]
  seen := by
    intro known mem
    rw [map_append, mem_append]
    rcases mem_cons.mp mem with rfl | before
    · exact Or.inr (by simp)
    · exact Or.inl (took.seen before)
  ends := by
    intro earlier mem
    by_cases same : earlier.1.stream = taken.1.stream
    · refine ⟨taken.1.endTime, ?_, ?_⟩
      · rw [same, get?_set_self]
      · rcases mem_append.mp mem with before | itself
        · have behind := took.follows inTime earlier.1 (mem_map_of_mem before) same
          exact le_trans behind (le_of_lt taken.1.formed.ordered)
        · rw [mem_singleton.mp itself]
    · rcases mem_append.mp mem with before | itself
      · obtain ⟨ended, last, notLater⟩ := took.ends earlier before
        refine ⟨ended, ?_, notLater⟩
        rw [get?_set_of_ne _ _ same, last]
      · exact absurd (by rw [mem_singleton.mp itself]) same
  endOf := by
    intro stream ended last
    by_cases same : stream = taken.1.stream
    · rw [same, get?_set_self] at last
      exact ⟨taken, by simp, same.symm, by simpa using last⟩
    · rw [get?_set_of_ne _ _ same] at last
      obtain ⟨earlier, isKept, belongs, ends⟩ := took.endOf stream ended last
      exact ⟨earlier, mem_append_left _ isKept, belongs, ends⟩
  follow := by
    rw [map_append, pairwise_append]
    refine ⟨took.follow, pairwise_singleton _ _, ?_⟩
    intro earlier mem later itself
    rw [mem_singleton.mp itself]
    exact took.follows inTime earlier mem
  reported := by
    rw [quiet]
    exact took.reported
  complete := by
    intro inOrder
    rw [map_append, pairwise_append] at inOrder
    exact took.complete inOrder.1

theorem Took.drop (taken : Bar × Nat) {anomalyType : ReplayDataAnomalyType}
    (drops : anomalyType ≠ .gapDetected) {previousEnd : Option DateTime}
    (bad : ∃ earlier ∈ numbered, ¬ FollowsInStream earlier.1 taken.1) :
    Took sourceId (numbered ++ [taken]) kept (dropped ++ [taken])
      { progress with diagnosticEvents := progress.diagnosticEvents ++
          [diagnosticEvent sourceId anomalyType taken.1 previousEnd] } where
  keptInOrder := took.keptInOrder.trans (sublist_append_left _ _)
  divided := by
    rw [← append_assoc]
    exact took.divided.append_right [taken]
  events := took.events
  seen := took.seen
  ends := took.ends
  endOf := took.endOf
  follow := took.follow
  reported := by
    have isDrop : reportsDrop (diagnosticEvent sourceId anomalyType taken.1 previousEnd) = true :=
      decide_eq_true drops
    rw [filter_append, filter_cons_of_pos isDrop, filter_nil]
    exact rel_append took.reported (.cons ⟨anomalyType, previousEnd, drops, rfl⟩ .nil)
  complete := by
    intro inOrder
    obtain ⟨earlier, before, overlaps⟩ := bad
    rw [map_append, pairwise_append] at inOrder
    exact absurd (inOrder.2.2 earlier.1 (mem_map_of_mem before) taken.1 (by simp)) overlaps

theorem Took.take (taken : Bar × Nat) :
    ∃ kept dropped,
      Took sourceId (numbered ++ [taken]) kept dropped (take sourceId progress taken) := by
  have among : ∀ earlier ∈ kept, earlier ∈ numbered := fun _ mem =>
    took.keptInOrder.subset mem
  unfold ReplayEventSequencer.take
  dsimp only
  split
  next duplicate =>
    obtain ⟨earlier, isKept, same⟩ := mem_map.mp (took.seen duplicate)
    refine ⟨kept, dropped ++ [taken], took.drop taken (by decide) ⟨earlier, among _ isKept, ?_⟩⟩
    intro follows
    simp only [identity, Prod.mk.injEq] at same
    have behind := follows (by simp [Bar.stream, same.1, same.2.1])
    rw [← same.2.2.1] at behind
    exact not_le_of_gt earlier.1.formed.ordered behind
  next unseen =>
    split
    next outOfOrder =>
      obtain ⟨ended, last, early⟩ := (Option.any_eq_true _ _).mp outOfOrder
      obtain ⟨earlier, isKept, belongs, ends⟩ := took.endOf _ ended last
      refine ⟨kept, dropped ++ [taken],
        took.drop taken (by decide) ⟨earlier, among _ isKept, ?_⟩⟩
      intro follows
      have behind := follows belongs
      rw [ends] at behind
      exact not_le_of_gt (of_decide_eq_true early) behind
    next inTime =>
      refine ⟨kept ++ [taken], dropped, took.keep taken inTime ?_⟩
      split
      · rw [filter_append]
        simp [reportsDrop, diagnosticEvent]
      · rfl

end

/-- However many bars the sequencer goes through, it keeps some and reports the others. -/
theorem Took.foldl (sourceId : String) (numbered : List (Bar × Nat)) :
    ∃ kept dropped,
      Took sourceId numbered kept dropped
          (numbered.foldl (ReplayEventSequencer.take sourceId) {}) := by
  induction numbered using reverseRecOn with
  | nil => exact ⟨[], [], Took.start⟩
  | append_singleton numbered taken ih =>
    obtain ⟨kept, dropped, took⟩ := ih
    rw [foldl_append]
    exact took.take taken

structure Sequences (sourceId : String) (bars kept dropped : List Bar)
    (sequenced : List ReplaySequencedEvent × List ReplayDataAnomalyEvent) : Prop where
  keptInOrder : kept.Sublist bars
  divided : (kept ++ dropped).Perm bars
  delivers : (sequenced.1.map bar).Perm kept
  sorted : (sequenced.1.map bar).Pairwise fun first second =>
    first.deliveryKey ≤ second.deliveryKey
  apart : (sequenced.1.map bar).Pairwise ApartInStream
  reported : Forall₂ (Reports sourceId) dropped (sequenced.2.filter reportsDrop)
  complete : bars.Pairwise FollowsInStream → dropped = []

theorem sequence_spec (sourceId : String) (bars : List Bar) :
    ∃ kept dropped, Sequences sourceId bars kept dropped (sequence sourceId bars) := by
  obtain ⟨kept, dropped, took⟩ := Took.foldl sourceId bars.zipIdx
  have numbered : bars.zipIdx.map Prod.fst = bars := zipIdx_map_fst 0 bars
  have delivers : ((sequence sourceId bars).1.map bar).Perm
      (kept.map Prod.fst) := by
    have events := congrArg (List.map bar) took.events
    rw [map_map] at events
    exact ((perm_insertionSort _ _).map _).trans (List.Perm.of_eq events)
  refine ⟨kept.map Prod.fst, dropped.map Prod.fst, ?_, ?_, delivers, ?_, ?_, ?_, ?_⟩
  · simpa only [numbered] using took.keptInOrder.map Prod.fst
  · simpa only [numbered, map_append] using took.divided.map Prod.fst
  · rw [pairwise_map]
    exact (pairwise_insertionSort _ _).imp deliveryKey_mono
  · exact delivers.symm.pairwise (took.follow.imp FollowsInStream.apart) ApartInStream.symm
  · exact forall₂_map_left_iff.mpr took.reported
  · intro inOrder
    rw [took.complete (by rw [numbered]; exact inOrder), map_nil]

/-- A replay of what was delivered delivers it again as it is and drops nothing. -/
theorem sequence_delivered (sourceId : String) (bars : List Bar) :
    let delivered := (sequence sourceId bars).1.map ReplaySequencedEvent.bar
    (sequence sourceId delivered).1.map ReplaySequencedEvent.bar = delivered ∧
      (sequence sourceId delivered).2.filter reportsDrop = [] := by
  intro delivered
  obtain ⟨_, _, before⟩ := sequence_spec sourceId bars
  obtain ⟨kept, dropped, again⟩ := sequence_spec sourceId delivered
  have follows : delivered.Pairwise FollowsInStream := by
    refine (before.sorted.and before.apart).imp_of_mem ?_
    rintro first second - - ⟨ordered, separate⟩ same
    rcases separate same with inOrder | behind
    · exact inOrder
    · have ends : first.endTime ≤ second.endTime := Prod.Lex.monotone_fst _ _ ordered
      exact (lt_irrefl _ (behind.trans_lt (first.formed.ordered.trans_le ends))).elim
  obtain rfl := again.complete follows
  have whole : kept = delivered := by
    refine again.keptInOrder.eq_of_length ?_
    simpa using again.divided.length_eq
  subst whole
  refine ⟨again.delivers.eq_of_pairwise ?_ again.sorted before.sorted, ?_⟩
  · intro first second mem other below above
    by_contra differs
    have keys := le_antisymm below above
    obtain ⟨ends, instrument, timeframe, starts⟩ : first.endTime = second.endTime ∧
        first.instrumentId.value = second.instrumentId.value ∧
          first.timeframe = second.timeframe ∧ first.startTime = second.startTime := by
      simpa [Bar.deliveryKey] using keys
    have symm : Std.Symm ApartInStream := ⟨fun _ _ => ApartInStream.symm⟩
    have separate := before.apart.forall (again.delivers.mem_iff.mp mem) other differs
    rcases separate (Prod.ext (InstrumentId.ext_value instrument) timeframe) with inOrder | behind
    · exact lt_irrefl _ (first.formed.ordered.trans_le (inOrder.trans starts.ge))
    · exact lt_irrefl _ ((ends.le.trans behind).trans_lt first.formed.ordered)
  · exact forall₂_nil_left_iff.mp again.reported

end ReplayEventSequencer

namespace SubscriptionReplayMarketDataSource

def delivered : Except Failure (Option Bar) → Option Bar
  | .ok bar => bar
  | .error _ => none

/-- The limit that a call sets for the bars it hands out. -/
def Input.limit : Input → Option DateTime
  | .pollNext asOf => asOf
  | _ => none

def remaining (source : SubscriptionReplayMarketDataSource) : List Bar :=
  source.events.map bar

variable (source : SubscriptionReplayMarketDataSource)

theorem pollEvents_sublist (asOf currentTime : Option DateTime) (events : List ReplaySequencedEvent)
    :
    ((delivered (source.pollEvents asOf currentTime events).1).toList ++
        (source.pollEvents asOf currentTime events).2.2.map bar).Sublist
      (events.map bar) := by
  obtain ⟨skipped, -, leaves⟩ := source.pollEvents_leaves asOf currentTime events
  rcases polled : source.pollEvents asOf currentTime events with ⟨answer, now, rest⟩
  rw [polled] at leaves
  unfold Leaves at leaves
  cases answer with
  | error failure =>
    obtain ⟨event, rfl⟩ := leaves
    simp [delivered]
  | ok bar =>
    cases bar with
    | none =>
      dsimp only at leaves
      simp [delivered, leaves]
    | some bar =>
      obtain ⟨-, event, rfl, rfl⟩ := leaves
      simp [delivered]

theorem pollEvents_timely {limit : DateTime} {currentTime : Option DateTime}
    {events : List ReplaySequencedEvent} {bar : Bar}
    (hands : bar ∈ delivered (source.pollEvents (some limit) currentTime events).1) :
    bar.endTime ≤ limit := by
  induction events generalizing currentTime with
  | nil => simp [pollEvents, delivered] at hands
  | cons event rest ih =>
    rw [pollEvents] at hands
    split at hands
    · simp [delivered] at hands
    next inTime =>
      split at hands
      · simp [delivered] at hands
      · split at hands
        · have isNext : event.bar = bar := by simpa [delivered] using hands
          simpa [isNext] using inTime
        · exact ih hands

theorem step_sublist (input : Input) :
    ((delivered (step source input).1).toList ++ (step source input).2.remaining).Sublist
      source.remaining := by
  cases input with
  | subscribe subscription subscribedAt now => exact .refl _
  | unsubscribe subscription observedAt now =>
    change (source.unsubscribe subscription observedAt now).remaining.Sublist source.remaining
    unfold unsubscribe
    split <;> exact .refl _
  | pollNext asOf =>
    change ((delivered (source.pollNext asOf).1).toList ++
      (source.pollNext asOf).2.remaining).Sublist source.remaining
    unfold pollNext
    split
    · exact .refl _
    · exact source.pollEvents_sublist asOf source.currentTime source.events
  | drainControlEvents => exact .refl _
  | close => exact .refl _

def deliveredBars (answers : List (Except Failure (Option Bar))) : List Bar :=
  answers.filterMap delivered

theorem run_sublist (inputs : List Input) :
    (deliveredBars (responses step source inputs)).Sublist source.remaining := by
  induction inputs generalizing source with
  | nil => exact nil_sublist _
  | cons input inputs ih =>
    refine List.Sublist.trans ?_ (source.step_sublist input)
    have later := ih (step source input).2
    rw [responses_cons, deliveredBars, filterMap_cons]
    cases delivered (step source input).1 with
    | none => exact later
    | some bar => exact later.cons_cons bar

theorem step_timely (input : Input) :
    ∀ limit ∈ input.limit, ∀ bar ∈ delivered (step source input).1, bar.endTime ≤ limit := by
  intro limit limited bar hands
  cases input with
  | pollNext asOf =>
    obtain rfl : asOf = some limit := limited
    change bar ∈ delivered (source.pollNext (some limit)).1 at hands
    unfold pollNext at hands
    split at hands
    · simp [delivered] at hands
    · exact source.pollEvents_timely hands
  | subscribe => simp [Input.limit] at limited
  | unsubscribe => simp [Input.limit] at limited
  | drainControlEvents => simp [Input.limit] at limited
  | close => simp [Input.limit] at limited

theorem run_timely (inputs : List Input) :
    Forall₂ (fun input answer => ∀ limit ∈ input.limit, ∀ bar ∈ delivered answer,
      bar.endTime ≤ limit) inputs (responses step source inputs) := by
  induction inputs generalizing source with
  | nil => exact .nil
  | cons input inputs ih => exact .cons (source.step_timely input) (ih (step source input).2)

/-- What a run hands out in answer to the calls on a source of recorded bars. -/
structure Delivers (recorded : List Bar) (inputs : List Input)
    (answers : List (Except Failure (Option Bar))) : Prop where
  neverFails : ∀ answer ∈ answers, answer.isOk = true
  recorded : (deliveredBars answers).Sublist recorded
  once : (deliveredBars answers).Nodup
  inOrder : (deliveredBars answers).Pairwise fun earlier later => earlier.endTime ≤ later.endTime
  timely : Forall₂ (fun input answer => ∀ limit ∈ input.limit, ∀ bar ∈ delivered answer,
    bar.endTime ≤ limit) inputs answers

variable (sourceId : String) (sourceShown : PythonText.isBlank sourceId = false)
  (bars : List Bar)

/-- Every run from recorded bars hands them out in the order of their ends, each at most once
and none ahead of its time, and the clock never fails. -/
theorem start_delivers (inputs : List Input) :
    Delivers (start sourceId sourceShown bars).remaining inputs
      (responses step (start sourceId sourceShown bars) inputs) := by
  obtain ⟨kept, dropped, sequences⟩ := ReplayEventSequencer.sequence_spec sourceId bars
  have inOrder := start_inOrder sourceId sourceShown bars
  have handed := run_sublist (start sourceId sourceShown bars) inputs
  refine ⟨run_never_fails inOrder inputs, handed, ?_, ?_, run_timely _ inputs⟩
  · exact (sequences.apart.imp ApartInStream.ne).sublist handed
  · refine List.Pairwise.sublist handed ?_
    unfold remaining
    rw [pairwise_map]
    exact inOrder.ordered

/-- The bars that the sequencer keeps are delivered in the order of their ends, whatever the
calls on the source. -/
theorem replay_delivery :
    (∃ kept dropped, ReplayEventSequencer.Sequences sourceId bars kept dropped
      (ReplayEventSequencer.sequence sourceId bars)) ∧
    ∀ inputs, Delivers
      ((ReplayEventSequencer.sequence sourceId bars).1.map bar) inputs
      (responses step (start sourceId sourceShown bars) inputs) :=
  ⟨ReplayEventSequencer.sequence_spec sourceId bars, start_delivers sourceId sourceShown bars⟩

end SubscriptionReplayMarketDataSource

namespace ReplayedMinutes

def gold : InstrumentId := ⟨⟨"FUT.US.COMEX.GC.202606", rfl⟩⟩

def firstMinute : Bar where
  instrumentId := gold
  startTime := 0
  endTime := 60
  timeframe := "1m"
  sessionId := "2026-05-18"
  openPrice := 3200
  high := 3202
  low := 3199
  close := 3201
  volume := 5
  isComplete := true
  valid := by decide +kernel

def secondMinute : Bar where
  toBarFields := { firstMinute.toBarFields with startTime := 60, endTime := 120 }
  valid := by decide +kernel

/-- A minute that arrives behind a later one of its stream. -/
def misplaced : List Bar := [secondMinute, firstMinute]

theorem replay_delivery_misplaced :
    (∃ kept dropped, ReplayEventSequencer.Sequences "replay" misplaced kept dropped
      (ReplayEventSequencer.sequence "replay" misplaced)) ∧
    ∀ inputs, Delivers
      ((ReplayEventSequencer.sequence "replay" misplaced).1.map bar) inputs
      (responses step
        (start "replay" (by decide +kernel) misplaced) inputs) :=
  replay_delivery "replay" (by decide +kernel) misplaced

end ReplayedMinutes

end Qts
