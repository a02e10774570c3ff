import Qts.CompletenessFlags
import Qts.MergedFields

/-! # Aggregation in two steps -/

namespace Qts

open KeyedRuns List Option

section Cells

variable {small large offset point : Int}

/-- The cell of a finer grid lies within the cell of a coarser one. -/
theorem gridStart_gridStart (divides : small ∣ large) (smallPositive : 0 < small)
    (largePositive : 0 < large) (point : Int) :
    gridStart large offset (gridStart small offset point) = gridStart large offset point := by
  have onLarge := dvd_gridStart_add large offset point
  refine gridStart_eq largePositive onLarge ?_ ?_
  · exact le_gridStart smallPositive (divides.trans onLarge) (gridStart_le largePositive _ _)
  · have below := gridStart_le smallPositive offset point
    have near := lt_gridStart_add largePositive offset point
    omega

theorem gridEnd_le (divides : small ∣ large) (smallPositive : 0 < small)
    (largePositive : 0 < large) (point : Int) :
    gridStart small offset point + small ≤ gridStart large offset point + large := by
  have onLarge := dvd_gridStart_add large offset point
  refine @add_length_le_of_lt small offset _ _ (dvd_gridStart_add small offset point) ?_ ?_
  · have shifted := Int.dvd_add (divides.trans onLarge) divides
    rwa [add_right_comm] at shifted
  · have below := gridStart_le smallPositive offset point
    have near := lt_gridStart_add largePositive offset point
    omega

end Cells

def cellKey (length offset : Int) (bar : Bar) : Int × String :=
  (gridStart length offset bar.startTime, bar.sessionId)

structure FollowsGrid (target : Timeframe) (zone : TimeZone) (length : Int) : Prop where
  pos : 0 < length
  visible : PythonText.isBlank target.value = false
  bucket : ∀ timestamp, ∃ bucket, clockBucketFor timestamp target zone = .ok bucket ∧
    bucket.startTime = gridStart length zone.initial timestamp ∧
    bucket.endTime = gridStart length zone.initial timestamp + length

theorem followsGrid_of_fixed {target : Timeframe} {zone : TimeZone} {length : Int}
    (fixed : zone.transitions = []) (clock : target.IsClock length) (whole : oneSecond ∣ length)
    (visible : PythonText.isBlank target.value = false) : FollowsGrid target zone length where
  pos := clock.pos
  visible := visible
  bucket := by
    intro timestamp
    obtain ⟨seconds, counted, step⟩ := durationSeconds_of_whole clock.pos clock.divides whole
    have apart : zone.Apart 0 := by
      rw [TimeZone.Apart, fixed]
      exact List.Pairwise.nil
    have start : zone.bucketStart (seconds * oneSecond) timestamp =
        gridStart length zone.initial timestamp := by
      rw [step]
      refine TimeZone.bucketStart_initial apart clock.pos ?_
      simp [fixed]
    refine ⟨_, clockBucketFor_eq clock counted timestamp, start, ?_⟩
    dsimp only
    rw [start]

section Aggregated

variable {target : Timeframe} {zone : TimeZone} {length : Int} {instrumentId : InstrumentId}

theorem FollowsGrid.known (grid : FollowsGrid target zone length) {timestamp : DateTime}
    {bucket : TimeInterval} (known : clockBucketFor timestamp target zone = .ok bucket) :
    bucket.startTime = gridStart length zone.initial timestamp ∧
      bucket.endTime = gridStart length zone.initial timestamp + length := by
  obtain ⟨other, found, starts, ends⟩ := grid.bucket timestamp
  obtain rfl := ok_unique known found
  exact ⟨starts, ends⟩

theorem FollowsGrid.sameRun_eq (grid : FollowsGrid target zone length) (first second : Bar) :
    sameRun target zone first second =
      decide (cellKey length zone.initial first = cellKey length zone.initial second) := by
  obtain ⟨one, oneKnown, oneStarts, oneEnds⟩ := grid.bucket first.startTime
  obtain ⟨other, otherKnown, otherStarts, otherEnds⟩ := grid.bucket second.startTime
  rw [Bool.eq_iff_iff, sameRun_iff oneKnown otherKnown, decide_eq_true_eq, cellKey, cellKey,
    Prod.mk.injEq]
  refine and_congr_left fun _ => ⟨?_, ?_⟩
  · rintro rfl
    rw [← oneStarts, ← otherStarts]
  · intro same
    cases one
    cases other
    simp only [TimeInterval.mk.injEq]
    dsimp only at oneStarts oneEnds otherStarts otherEnds
    omega

theorem FollowsGrid.maximalRuns_eq (grid : FollowsGrid target zone length) (bars : List Bar) :
    maximalRuns target zone bars = runs (cellKey length zone.initial) bars := by
  unfold maximalRuns runs
  congr 1
  funext first second
  exact grid.sameRun_eq first second

/-- The next bar is behind a bar, or of another cell or session. -/
def Proceeds (length offset : Int) (first second : Bar) : Prop :=
  first.endTime ≤ second.startTime ∨ cellKey length offset first ≠ cellKey length offset second

variable {bar : Bar}

theorem FollowsGrid.opensRun (grid : FollowsGrid target zone length) {taken : List Bar}
    (proceeds : ∀ last ∈ taken.getLast?, Proceeds length zone.initial last bar) :
    OpensRun target zone none taken bar := by
  intro last isLast reached
  obtain ⟨bucket, known, starts, ends⟩ := grid.bucket last.startTime
  have past := reached bucket known
  rw [grid.sameRun_eq]
  refine decide_eq_false ?_
  rcases proceeds last isLast with behind | differs
  · intro same
    have cell := congrArg Prod.fst same
    have near := lt_gridStart_add grid.pos zone.initial bar.startTime
    simp only [cellKey] at cell
    simp only [clampedEnd] at past
    have late := past.trans behind
    rw [ends, cell] at late
    exact absurd near (not_lt.mpr late)
  · exact differs

theorem Tracks.emitted (grid : FollowsGrid target zone length) {taken emitted rest : List Bar}
    {state : Option AggregationState}
    (tracks : Tracks target zone none instrumentId taken emitted state)
    (ofInstrument : ∀ bar ∈ rest, bar.instrumentId = instrumentId)
    (proceeds : (taken ++ rest).IsChain (Proceeds length zone.initial)) :
    ∃ later, (⟨target, zone, none, state⟩ : BarAggregator).emitted rest = .ok later ∧
      Forall₂ (Collapses target zone none) (maximalRuns target zone (taken ++ rest))
        (emitted ++ later) := by
  induction rest generalizing taken emitted state with
  | nil =>
    obtain ⟨completed, finished, emits, -⟩ := finish_tracks grid.visible tracks
    refine ⟨completed, finished, ?_⟩
    rwa [append_nil]
  | cons bar rest ih =>
    obtain rfl := ofInstrument bar mem_cons_self
    obtain ⟨bucket, known, -⟩ := grid.bucket bar.startTime
    have near : ∀ last ∈ taken.getLast?, Proceeds length zone.initial last bar :=
      fun last isLast => (isChain_append.mp proceeds).2.2 last isLast bar rfl
    obtain ⟨completed, next, updated, tracksNext, -⟩ :=
      update_tracks grid.visible tracks (by simp [InsideSession]) known bucket.ordered
        (grid.opensRun near)
    have joins : taken ++ [bar] ++ rest = taken ++ bar :: rest := by simp
    obtain ⟨later, emits, collapses⟩ := ih tracksNext
      (fun other mem => ofInstrument other (mem_cons_of_mem _ mem))
      (by rw [joins]; exact proceeds)
    rw [joins] at collapses
    refine ⟨completed ++ later, ?_, ?_⟩
    · rw [BarAggregator.emitted, updated]
      change (BarAggregator.emitted ⟨target, zone, none, next⟩ rest >>= _) = _
      rw [emits]
      rfl
    · rwa [← append_assoc]

theorem FollowsGrid.emitted (grid : FollowsGrid target zone length) {bars : List Bar}
    (ofInstrument : ∀ bar ∈ bars, bar.instrumentId = instrumentId)
    (proceeds : bars.IsChain (Proceeds length zone.initial)) :
    ∃ emitted, (⟨target, zone, none, none⟩ : BarAggregator).emitted bars = .ok emitted ∧
      Forall₂ (Collapses target zone none) (runs (cellKey length zone.initial) bars)
        emitted := by
  have idle : Tracks target zone none instrumentId [] [] none := .idle .nil (by simp)
  obtain ⟨emitted, emits, collapses⟩ := idle.emitted grid ofInstrument proceeds
  refine ⟨emitted, emits, ?_⟩
  rwa [nil_append, nil_append, grid.maximalRuns_eq] at collapses

structure FillsCell (length offset : Int) (run : List Bar) : Prop where
  starts : ∀ first ∈ run.head?, gridStart length offset first.startTime = first.startTime
  ends : ∀ last ∈ run.getLast?, gridStart length offset last.startTime + length ≤ last.endTime
  complete : ∀ bar ∈ run, bar.isComplete = true

structure Stands (target : Timeframe) (length offset : Int) (run : List Bar) (bar : Bar) :
    Prop where
  cell : ∀ source ∈ run, gridStart length offset source.startTime = bar.startTime
  session : ∀ source ∈ run, source.sessionId = bar.sessionId
  instrument : ∀ source ∈ run, source.instrumentId = bar.instrumentId
  ends : bar.endTime = bar.startTime + length
  complete_iff : bar.isComplete = true ↔ FillsCell length offset run
  fields : ∃ first rest, run = first :: rest ∧ bar.toBarFields =
    combinedFields target bar.startTime bar.endTime (!bar.isComplete) first rest

theorem Stands.combines {offset : Int} {run : List Bar}
    (stands : Stands target length offset run bar) : Combines run bar := by
  obtain ⟨first, rest, rfl, fields⟩ := stands.fields
  exact ⟨first, rest, _, _, _, _, rfl, fields⟩

theorem Stands.ne_nil {offset : Int} {run : List Bar} (stands : Stands target length offset run bar)
    : run ≠ [] := by
  obtain ⟨first, rest, rfl, -⟩ := stands.fields
  exact cons_ne_nil _ _

theorem Collapses.stands (grid : FollowsGrid target zone length) {run : List Bar}
    (collapses : Collapses target zone none run bar) :
    Stands target length zone.initial run bar := by
  have collapsed := collapses
  obtain ⟨first, rest, bucket, rfl, sources, fields⟩ := collapses
  have starts : bar.startTime = bucket.startTime := by rw [fields]; rfl
  have ends : bar.endTime = bucket.endTime := by rw [fields]; rfl
  have flag : bar.isComplete = !runIsPartial none bucket first rest := by rw [fields]; rfl
  have cell : ∀ source ∈ first :: rest,
      gridStart length zone.initial source.startTime = bucket.startTime := by
    intro source mem
    exact (grid.known (sources source mem).1).1.symm
  have finish : bucket.endTime = bucket.startTime + length := by
    obtain ⟨bucketStarts, bucketEnds⟩ := grid.known (sources first mem_cons_self).1
    rw [bucketEnds, bucketStarts]
  refine ⟨?_, ?_, ?_, ?_, ?_, first, rest, rfl, ?_⟩
  · intro source mem
    rw [cell source mem, starts]
  · intro source mem
    rw [fields]
    exact (sources source mem).2.2
  · intro source mem
    rw [fields]
    exact (sources source mem).2.1
  · rw [ends, starts, finish]
  · have inRun := getLast_mem (cons_ne_nil first rest)
    have isLast := getLast?_eq_some_getLast (cons_ne_nil first rest)
    rw [isComplete_iff collapsed isLast (sources _ inRun).1]
    constructor
    · rintro ⟨⟨opens, reaches⟩, complete⟩
      refine ⟨?_, ?_, complete⟩
      · rintro _ ⟨⟩
        rw [cell first mem_cons_self]
        exact (Option.some.inj opens).symm
      · intro other isOther
        obtain rfl := mem_unique isLast isOther
        rw [cell _ inRun, ← finish]
        exact reaches
    · rintro ⟨opens, reaches, complete⟩
      refine ⟨⟨?_, ?_⟩, complete⟩
      · rw [← cell first mem_cons_self, opens first rfl]
        rfl
      · have past := reaches _ isLast
        rw [cell _ inRun, ← finish] at past
        exact past
  · rw [starts, ends, flag, Bool.not_not]
    exact fields

end Aggregated

/-- Each bar of a stream lasts as long as the others and starts where the one before ends. -/
structure GapFree (duration : Int) (bars : List Bar) : Prop where
  lasts : ∀ bar ∈ bars, bar.endTime = bar.startTime + duration
  touching : bars.IsChain fun first second => first.endTime = second.startTime

section GapFree

variable {duration small large offset : Int} {bars : List Bar} {groups : List (List Bar)}

theorem GapFree.part (gapFree : GapFree duration bars) {part : List Bar}
    (within : part <:+: bars) : GapFree duration part where
  lasts := fun bar mem => gapFree.lasts bar (within.subset mem)
  touching := List.IsChain.infix gapFree.touching within

theorem GapFree.dvd_start (gapFree : GapFree duration bars)
    (first : ∀ bar ∈ bars.head?, duration ∣ bar.startTime + offset) :
    ∀ bar ∈ bars, duration ∣ bar.startTime + offset := by
  induction bars with
  | nil => simp
  | cons head bars ih =>
    have headOnGrid := first head rfl
    have rest := ih (gapFree.part (suffix_cons head bars).isInfix) (by
      intro next isNext
      cases bars with
      | nil => cases isNext
      | cons second bars =>
        obtain rfl := Option.some.inj isNext
        have touches := (isChain_cons_cons.mp gapFree.touching).1
        rw [← touches, gapFree.lasts head mem_cons_self, add_right_comm]
        exact Int.dvd_add headOnGrid (dvd_refl duration))
    intro bar mem
    rcases mem_cons.mp mem with rfl | later
    · exact headOnGrid
    · exact rest bar later

/-- The cells of neighbouring groups. -/
def OtherCell (length offset : Int) (earlier later : List Bar) : Prop :=
  ∀ first ∈ earlier, ∀ second ∈ later,
    gridStart length offset first.startTime ≠ gridStart length offset second.startTime

theorem GapFree.touches_between (gapFree : GapFree duration groups.flatten)
    {before after : List (List Bar)} {group next : List Bar}
    (split : groups = before ++ group :: next :: after) :
    ∀ last ∈ group.getLast?, ∀ first ∈ next.head?, last.endTime = first.startTime := by
  have joined : groups.flatten = before.flatten ++ (group ++ (next ++ after.flatten)) := by
    rw [split]
    simp
  have chain := gapFree.touching
  rw [joined] at chain
  have pair := (isChain_append.mp (isChain_append.mp chain).2.1).2.2
  intro last isLast first isFirst
  refine pair last isLast first ?_
  rw [head?_append, mem_def.mp isFirst]
  rfl

theorem start_of_otherCell (pos : 0 < duration) (step : duration ∣ small)
    (smallPositive : 0 < small) {last first : Int} (joins : last + duration = first)
    (onGrid : duration ∣ first + offset)
    (other : gridStart small offset last ≠ gridStart small offset first) :
    gridStart small offset first = first := by
  have below := gridStart_le smallPositive offset first
  have near := lt_gridStart_add smallPositive offset first
  have cellOnGrid := dvd_gridStart_add small offset first
  rcases below.lt_or_eq with inside | starts
  · have earlier := add_length_le_of_lt (step.trans cellOnGrid) onGrid inside
    refine absurd (gridStart_eq smallPositive cellOnGrid ?_ ?_) other
    · omega
    · omega
  · exact starts

theorem ends_of_otherCell (smallPositive : 0 < small) {last first : Bar}
    (touches : last.endTime = first.startTime)
    (other : gridStart small offset last.startTime ≠ gridStart small offset first.startTime) :
    gridStart small offset last.startTime + small ≤ last.endTime := by
  by_contra early
  rw [not_le, touches] at early
  have below := gridStart_le smallPositive offset last.startTime
  have ordered := last.formed.ordered
  rw [touches] at ordered
  exact other (gridStart_eq smallPositive (dvd_gridStart_add small offset last.startTime)
    (below.trans ordered.le) early).symm

theorem GapFree.fillsCell_parts (gapFree : GapFree duration groups.flatten)
    (pos : 0 < duration) (step : duration ∣ small) (smallPositive : 0 < small)
    (divides : small ∣ large) (largePositive : 0 < large) (nonempty : [] ∉ groups)
    (apart : groups.IsChain (OtherCell small offset))
    (filled : FillsCell large offset groups.flatten) :
    ∀ group ∈ groups, FillsCell small offset group := by
  have firstOnLarge : ∀ bar ∈ groups.flatten.head?, large ∣ bar.startTime + offset := by
    intro bar isHead
    rw [← filled.starts bar isHead]
    exact dvd_gridStart_add large offset bar.startTime
  have onGrid := gapFree.dvd_start fun bar isHead =>
    (step.trans divides).trans (firstOnLarge bar isHead)
  intro group mem
  obtain ⟨before, after, split⟩ := append_of_mem mem
  have among : ∀ bar ∈ group, bar ∈ groups.flatten := fun bar inGroup =>
    mem_flatten.mpr ⟨group, mem, inGroup⟩
  have filledGroup : group ≠ [] := fun empty => nonempty (empty ▸ mem)
  refine ⟨?_, ?_, fun bar inGroup => filled.complete bar (among bar inGroup)⟩
  · intro first isFirst
    have inGroup := mem_of_mem_head? isFirst
    rcases before.eq_nil_or_concat with rfl | ⟨earlier, prev, rfl⟩
    · have isHead : first ∈ groups.flatten.head? := head?_flatten (by rw [split]; rfl) isFirst
      exact gridStart_eq smallPositive (divides.trans (firstOnLarge first isHead)) le_rfl
        (Int.lt_add_of_pos_right _ smallPositive)
    · rw [concat_eq_append, append_assoc, singleton_append] at split
      rw [split] at apart
      have inPrevious : prev ∈ groups := by rw [split]; simp
      obtain ⟨last, isLast⟩ : ∃ last, prev.getLast? = some last :=
        ⟨_, getLast?_eq_some_getLast fun empty => nonempty (empty ▸ inPrevious)⟩
      have inFlatten : last ∈ groups.flatten :=
        mem_flatten.mpr ⟨prev, inPrevious, mem_of_mem_getLast? isLast⟩
      have other := (isChain_cons_cons.mp (isChain_append.mp apart).2.1).1
      have touches := gapFree.touches_between split last isLast first isFirst
      exact start_of_otherCell pos step smallPositive
        ((gapFree.lasts last inFlatten).symm.trans touches) (onGrid first (among first inGroup))
        (other last (mem_of_mem_getLast? isLast) first inGroup)
  · intro last isLast
    have inGroup := mem_of_mem_getLast? isLast
    cases after with
    | nil =>
      have isEnd : last ∈ groups.flatten.getLast? :=
        getLast?_flatten (by rw [split]; exact getLast?_concat) isLast
      exact (gridEnd_le divides smallPositive largePositive last.startTime).trans
        (filled.ends last isEnd)
    | cons next after =>
      have inGroups : next ∈ groups := by rw [split]; simp
      rw [split] at apart
      obtain ⟨first, isFirst⟩ : ∃ first, next.head? = some first := by
        cases next with
        | nil => exact absurd inGroups nonempty
        | cons first rest => exact ⟨first, rfl⟩
      have other := (isChain_cons_cons.mp (isChain_append.mp apart).2.1).1
      exact ends_of_otherCell smallPositive
        (gapFree.touches_between split last isLast first isFirst)
        (other last inGroup first (mem_of_mem_head? isFirst))

variable {summaries : List Bar}

theorem stands_edges {target : Timeframe}
    (stands : Forall₂ (Stands target small offset) groups summaries)
    (nonempty : summaries ≠ []) :
    (∃ group, ∃ first ∈ groups.flatten.head?, ∃ summary ∈ summaries.head?,
        first ∈ group.head? ∧ Stands target small offset group summary) ∧
      ∃ group, ∃ last ∈ groups.flatten.getLast?, ∃ summary ∈ summaries.getLast?,
        last ∈ group.getLast? ∧ Stands target small offset group summary := by
  obtain ⟨⟨group, isGroup, summary, isSummary, related⟩, final, isFinal, last, isLast, ends⟩ :=
    exists_of_ends stands nonempty
  constructor
  · obtain ⟨first, rest, filled, -⟩ := related.fields
    have isFirst : first ∈ group.head? := by rw [filled]; rfl
    exact ⟨group, first, head?_flatten isGroup isFirst, summary, isSummary, isFirst, related⟩
  · have isEnd := getLast?_eq_some_getLast ends.ne_nil
    exact ⟨final, _, getLast?_flatten isFinal isEnd, last, isLast, isEnd, ends⟩

theorem ends_of_summary (step : duration ∣ small) (smallPositive : 0 < small)
    (divides : small ∣ large) {start finish : Int} (lasts : finish = start + duration)
    (reaches : gridStart large offset start + large ≤ finish) :
    gridStart large offset start + large ≤ gridStart small offset start + small := by
  by_contra early
  rw [not_le] at early
  have near := lt_gridStart_add smallPositive offset start
  have smallOnGrid := dvd_gridStart_add small offset start
  have endOnGrid : duration ∣ gridStart small offset start + small + offset := by
    have shifted := Int.dvd_add (step.trans smallOnGrid) step
    rwa [add_right_comm] at shifted
  have largeOnGrid : duration ∣ gridStart large offset start + large + offset := by
    have shifted := Int.dvd_add ((step.trans divides).trans (dvd_gridStart_add large offset start))
      (step.trans divides)
    rwa [add_right_comm] at shifted
  have further := add_length_le_of_lt endOnGrid largeOnGrid early
  omega

theorem GapFree.fillsCell_iff (gapFree : GapFree duration groups.flatten) (pos : 0 < duration)
    (step : duration ∣ small) (smallPositive : 0 < small) (divides : small ∣ large)
    (largePositive : 0 < large) (apart : groups.IsChain (OtherCell small offset))
    {target : Timeframe} (stands : Forall₂ (Stands target small offset) groups summaries)
    (nonempty : summaries ≠ []) :
    FillsCell large offset summaries ↔ FillsCell large offset groups.flatten := by
  obtain ⟨⟨opening, first, isFirst, head, isHead, firstIn, opens⟩,
    closing, last, isLast, final, isFinal, lastIn, closes⟩ := stands_edges stands nonempty
  have headCell := opens.cell first (mem_of_mem_head? firstIn)
  have finalCell := closes.cell last (mem_of_mem_getLast? lastIn)
  have nested := @gridStart_gridStart small large offset divides smallPositive largePositive
  have headLarge : gridStart large offset head.startTime =
      gridStart large offset first.startTime := by
    rw [← headCell]
    exact nested first.startTime
  have finalLarge : gridStart large offset final.startTime =
      gridStart large offset last.startTime := by
    rw [← finalCell]
    exact nested last.startTime
  constructor
  · intro filled
    have parts : ∀ group ∈ groups, FillsCell small offset group := by
      intro group mem
      obtain ⟨summary, among, related⟩ := exists_of_mem_left stands group mem
      exact related.complete_iff.mp (filled.complete summary among)
    refine ⟨?_, ?_, ?_⟩
    · intro other isOther
      obtain rfl := mem_unique isFirst isOther
      have starts := (opens.complete_iff.mp
        (filled.complete head (mem_of_mem_head? isHead))).starts first firstIn
      rw [← starts, headCell]
      exact filled.starts head isHead
    · intro other isOther
      obtain rfl := mem_unique isLast isOther
      have reaches := filled.ends final isFinal
      have ends := (closes.complete_iff.mp
        (filled.complete final (mem_of_mem_getLast? isFinal))).ends last lastIn
      rw [finalLarge, closes.ends, ← finalCell] at reaches
      exact reaches.trans ends
    · intro bar mem
      obtain ⟨group, inGroups, inGroup⟩ := mem_flatten.mp mem
      exact (parts group inGroups).complete bar inGroup
  · intro filled
    have noneEmpty : [] ∉ groups := by
      intro empty
      obtain ⟨summary, -, related⟩ := exists_of_mem_left stands [] empty
      exact related.ne_nil rfl
    have parts := gapFree.fillsCell_parts pos step smallPositive divides largePositive
      noneEmpty apart filled
    refine ⟨?_, ?_, ?_⟩
    · intro other isOther
      obtain rfl := mem_unique isHead isOther
      have starts := filled.starts first isFirst
      have onLarge := dvd_gridStart_add large offset first.startTime
      rw [starts] at onLarge
      have onSmall : gridStart small offset first.startTime = first.startTime :=
        gridStart_eq smallPositive (divides.trans onLarge) le_rfl
          (Int.lt_add_of_pos_right _ smallPositive)
      rw [headLarge, starts, ← headCell, onSmall]
    · intro other isOther
      obtain rfl := mem_unique isFinal isOther
      have reaches := ends_of_summary step smallPositive divides
        (gapFree.lasts last (mem_of_mem_getLast? isLast)) (filled.ends last isLast)
      rw [finalLarge, closes.ends, ← finalCell]
      exact reaches
    · intro summary mem
      obtain ⟨group, inGroups, related⟩ := exists_of_mem_right stands summary mem
      exact related.complete_iff.mpr (parts group inGroups)

theorem Bar.eq_of_fields {bar other : Bar} (same : bar.toBarFields = other.toBarFields) :
    bar = other := by
  cases bar
  cases other
  cases same
  rfl

theorem GapFree.eq_of_parts (gapFree : GapFree duration groups.flatten) (pos : 0 < duration)
    (step : duration ∣ small) (smallPositive : 0 < small) (divides : small ∣ large)
    (largePositive : 0 < large) (apart : groups.IsChain (OtherCell small offset))
    {target largeTarget : Timeframe} {bar other : Bar}
    (stands : Forall₂ (Stands target small offset) groups summaries)
    (twice : Stands largeTarget large offset summaries bar)
    (once : Stands largeTarget large offset groups.flatten other) : bar = other := by
  have nonempty := twice.ne_nil
  obtain ⟨⟨opening, first, isFirst, head, isHead, firstIn, opens⟩, -⟩ :=
    stands_edges stands nonempty
  have starts : bar.startTime = other.startTime := by
    rw [← twice.cell head (mem_of_mem_head? isHead), ← once.cell first (mem_of_mem_head? isFirst),
      ← opens.cell first (mem_of_mem_head? firstIn)]
    exact gridStart_gridStart divides smallPositive largePositive first.startTime
  have ends : bar.endTime = other.endTime := by rw [twice.ends, once.ends, starts]
  have flag : bar.isComplete = other.isComplete := by
    rw [Bool.eq_iff_iff, twice.complete_iff, once.complete_iff]
    exact gapFree.fillsCell_iff pos step smallPositive divides largePositive apart stands
      nonempty
  obtain ⟨head, tail, rfl, fields⟩ := twice.fields
  obtain ⟨first, rest, joined, otherFields⟩ := once.fields
  have combined : Forall₂ Combines groups (head :: tail) :=
    stands.imp fun _ _ related => related.combines
  refine Bar.eq_of_fields ?_
  rw [fields, otherFields, starts, ends, flag]
  exact combinedFields_flatten combined joined ..

theorem GapFree.proceeds (gapFree : GapFree duration bars) (length : Int) :
    bars.IsChain (Proceeds length offset) :=
  gapFree.touching.imp fun _ _ touches => .inl touches.le

theorem GapFree.neighbours (gapFree : GapFree duration bars) :
    (runs (cellKey small offset) bars).IsChain fun earlier later =>
      ∃ last ∈ earlier.getLast?, ∃ first ∈ later.head?, last ∈ bars ∧
        last.endTime = first.startTime ∧
        cellKey small offset last ≠ cellKey small offset first := by
  obtain ⟨joined, filled, -, differ⟩ := runs_spec (cellKey small offset) bars
  rw [isChain_iff_forall_rel_of_append_cons_cons] at differ ⊢
  intro earlier later before after split
  have present : ∀ group ∈ earlier :: later :: after, group ≠ [] := by
    rintro group mem rfl
    apply filled
    rw [split]
    exact mem_append_right _ mem
  have isLast := getLast?_eq_some_getLast (present earlier (by simp))
  obtain ⟨first, rest, rfl⟩ := exists_cons_of_ne_nil (present later (by simp))
  have joins : GapFree duration (runs (cellKey small offset) bars).flatten := joined ▸ gapFree
  have inBars : earlier.getLast (present earlier (by simp)) ∈ bars := by
    rw [joined, split]
    exact mem_flatten.mpr ⟨earlier, by simp, getLast_mem _⟩
  exact ⟨_, isLast, first, rfl, inBars, joins.touches_between split _ isLast first rfl,
    differ split _ (getLast_mem _) first mem_cons_self⟩

section Summaries

variable {target : Timeframe}

theorem instrument_of_stands {instrumentId : InstrumentId}
    (stands : Forall₂ (Stands target small offset) (runs (cellKey small offset) bars)
      summaries) (ofInstrument : ∀ bar ∈ bars, bar.instrumentId = instrumentId) :
    ∀ summary ∈ summaries, summary.instrumentId = instrumentId := by
  intro summary mem
  obtain ⟨group, inRuns, related⟩ := exists_of_mem_right stands summary mem
  obtain ⟨bar, inGroup⟩ := exists_mem_of_ne_nil group related.ne_nil
  have inBars : bar ∈ bars := by
    rw [(runs_spec (cellKey small offset) bars).1]
    exact mem_flatten.mpr ⟨group, inRuns, inGroup⟩
  rw [← related.instrument bar inGroup, ofInstrument bar inBars]

theorem start_ne_of_differs {earlier later : List Bar} {bar next last first : Bar}
    (stands : Stands target small offset earlier bar)
    (standsNext : Stands target small offset later next)
    (isLast : last ∈ earlier.getLast?) (isFirst : first ∈ later.head?)
    (differs : cellKey small offset last ≠ cellKey small offset first)
    (sameSession : bar.sessionId = next.sessionId) : bar.startTime ≠ next.startTime := by
  intro same
  apply differs
  rw [cellKey, cellKey, stands.cell last (mem_of_mem_getLast? isLast),
    standsNext.cell first (mem_of_mem_head? isFirst),
    stands.session last (mem_of_mem_getLast? isLast),
    standsNext.session first (mem_of_mem_head? isFirst), same, sameSession]

theorem GapFree.next_cell (gapFree : GapFree duration bars) (step : duration ∣ small)
    (smallPositive : 0 < small) {last first : Bar} (inBars : last ∈ bars)
    (joins : last.endTime = first.startTime)
    (other : gridStart small offset last.startTime ≠ gridStart small offset first.startTime) :
    gridStart small offset first.startTime = gridStart small offset last.startTime + small := by
  have reached := ends_of_otherCell smallPositive joins other
  have near := lt_gridStart_add smallPositive offset last.startTime
  have short := Int.le_of_dvd smallPositive step
  have lasts := gapFree.lasts last inBars
  refine gridStart_eq smallPositive ?_ ?_ ?_
  · rw [add_right_comm]
    exact Int.dvd_add (dvd_gridStart_add small offset last.startTime) (dvd_refl small)
  · rw [← joins]
    exact reached
  · rw [← joins, lasts]
    exact add_lt_add_of_lt_of_le near short

theorem GapFree.proceeds_summaries (gapFree : GapFree duration bars) (step : duration ∣ small)
    (smallPositive : 0 < small)
    (stands : Forall₂ (Stands target small offset) (runs (cellKey small offset) bars)
      summaries) : summaries.IsChain (Proceeds large offset) := by
  refine isChain_of_forall₂ stands gapFree.neighbours ?_
  rintro earlier later bar next ⟨last, isLast, first, isFirst, inBars, joins, differs⟩ stands
    standsNext
  have lastCell := stands.cell last (mem_of_mem_getLast? isLast)
  have firstCell := standsNext.cell first (mem_of_mem_head? isFirst)
  by_cases sameSession : bar.sessionId = next.sessionId
  · have other := start_ne_of_differs stands standsNext isLast isFirst differs sameSession
    rw [← lastCell, ← firstCell] at other
    left
    rw [stands.ends, ← lastCell, ← firstCell,
      gapFree.next_cell step smallPositive inBars joins other]
  · right
    intro same
    exact sameSession (congrArg Prod.snd same)

end Summaries

theorem Stands.cellKey_eq {target : Timeframe} {group : List Bar} {summary : Bar}
    (stands : Stands target small offset group summary) (smallPositive : 0 < small)
    (divides : small ∣ large) (largePositive : 0 < large) :
    ∀ bar ∈ group, cellKey large offset bar = cellKey large offset summary := by
  intro bar mem
  rw [cellKey, cellKey, stands.session bar mem, ← stands.cell bar mem,
    gridStart_gridStart divides smallPositive largePositive]

theorem otherCell_of_uniform {part : List (List Bar)}
    (uniform : ∀ first ∈ part.flatten, ∀ second ∈ part.flatten,
      cellKey large offset first = cellKey large offset second)
    (differ : part.IsChain fun earlier later => ∀ first ∈ earlier, ∀ second ∈ later,
      cellKey small offset first ≠ cellKey small offset second) :
    part.IsChain (OtherCell small offset) := by
  refine differ.imp_of_mem_imp ?_
  intro earlier later inEarlier inLater differs first isFirst second isSecond sameCell
  apply differs first isFirst second isSecond
  have sameSession := congrArg Prod.snd
    (uniform first (mem_flatten.mpr ⟨earlier, inEarlier, isFirst⟩) second
      (mem_flatten.mpr ⟨later, inLater, isSecond⟩))
  exact Prod.ext sameCell sameSession

theorem GapFree.emitted_emitted (gapFree : GapFree duration bars) (pos : 0 < duration)
    {zone : TimeZone} {target largeTarget : Timeframe} {instrumentId : InstrumentId}
    (grid : FollowsGrid target zone small) (largeGrid : FollowsGrid largeTarget zone large)
    (step : duration ∣ small) (divides : small ∣ large)
    (ofInstrument : ∀ bar ∈ bars, bar.instrumentId = instrumentId) :
    ∃ once twice,
      (⟨target, zone, none, none⟩ : BarAggregator).emitted bars = .ok once ∧
      (⟨largeTarget, zone, none, none⟩ : BarAggregator).emitted once = .ok twice ∧
      (⟨largeTarget, zone, none, none⟩ : BarAggregator).emitted bars = .ok twice ∧
      Forall₂ (Stands target small zone.initial) (runs (cellKey small zone.initial) bars)
        once ∧
      once.IsChain (Proceeds large zone.initial) := by
  obtain ⟨once, emitsOnce, collapses⟩ := grid.emitted ofInstrument (gapFree.proceeds small)
  have stands : Forall₂ (Stands target small zone.initial)
      (runs (cellKey small zone.initial) bars) once :=
    collapses.imp fun _ _ related => related.stands grid
  have proceeds : once.IsChain (Proceeds large zone.initial) :=
    gapFree.proceeds_summaries step grid.pos stands
  have sameInstrument := instrument_of_stands stands ofInstrument
  obtain ⟨twice, emitsTwice, collapsesTwice⟩ := largeGrid.emitted sameInstrument proceeds
  obtain ⟨direct, emitsDirect, collapsesDirect⟩ :=
    largeGrid.emitted ofInstrument (gapFree.proceeds large)
  obtain ⟨parts, joins, wholes, pairs⟩ := runs_of_summaries stands
    (fun group summary related => related.cellKey_eq grid.pos divides largeGrid.pos)
  rw [wholes, forall₂_map_left_iff] at collapsesDirect
  have same : direct = twice := by
    refine eq_of_related pairs collapsesDirect collapsesTwice ?_
    intro part inParts piece other bar related onceMore twiceMore
    have partWithin : part <:+: runs (cellKey small zone.initial) bars := by
      rw [joins]
      exact infix_of_mem_flatten inParts
    obtain ⟨joined, -, uniform, -⟩ := runs_spec (cellKey large zone.initial) bars
    rw [wholes] at joined uniform
    have inWholes : part.flatten ∈ parts.map flatten :=
      mem_map.mpr ⟨part, inParts, rfl⟩
    have barsWithin : part.flatten <:+: bars := by
      rw [joined]
      exact infix_of_mem_flatten inWholes
    have differ :=
      List.IsChain.infix (runs_spec (cellKey small zone.initial) bars).2.2.2 partWithin
    exact ((gapFree.part barsWithin).eq_of_parts pos step grid.pos divides
      largeGrid.pos (otherCell_of_uniform (uniform _ inWholes) differ) related
      (twiceMore.stands largeGrid) (onceMore.stands largeGrid)).symm
  subst same
  exact ⟨once, direct, emitsOnce, emitsTwice, emitsDirect, stands, proceeds⟩

end GapFree

end Qts
