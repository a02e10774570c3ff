import Mathlib.Data.List.SplitBy

/-! # Runs of equal keys -/

namespace Qts

open List

universe u v w x

namespace KeyedRuns

section Runs

variable {Item : Type u} {Key : Type v} [DecidableEq Key] {key : Item → Key}
variable {items : List Item} {groups : List (List Item)}

def runs (key : Item → Key) (items : List Item) : List (List Item) :=
  items.splitBy fun first second => decide (key first = key second)

theorem isChain_key_iff (group : List Item) :
    (group.IsChain fun first second => decide (key first = key second) = true) ↔
      ∀ first ∈ group, ∀ second ∈ group, key first = key second := by
  simp only [decide_eq_true_eq]
  induction group with
  | nil => simp
  | cons item group ih =>
    cases group with
    | nil => simp
    | cons next group =>
      rw [isChain_cons_cons, ih]
      constructor
      · rintro ⟨same, all⟩ first inFirst second inSecond
        have shown : ∀ other ∈ item :: next :: group, key other = key next := by
          intro other mem
          rcases mem_cons.mp mem with rfl | later
          · exact same
          · exact all other later next mem_cons_self
        exact (shown first inFirst).trans (shown second inSecond).symm
      · intro all
        refine ⟨all item mem_cons_self next (by simp), ?_⟩
        intro first inFirst second inSecond
        exact all first (mem_cons_of_mem _ inFirst) second (mem_cons_of_mem _ inSecond)

/-- Runs fill the list, each shows one key, and neighbours show different ones. -/
theorem runs_eq_iff : runs key items = groups ↔
    items = groups.flatten ∧ [] ∉ groups ∧
      (∀ group ∈ groups, ∀ first ∈ group, ∀ second ∈ group, key first = key second) ∧
      groups.IsChain fun earlier later => ∀ first ∈ earlier, ∀ second ∈ later,
        key first ≠ key second := by
  unfold runs
  rw [splitBy_eq_iff]
  simp only [isChain_key_iff]
  refine and_congr_right fun _ => and_congr_right fun filled => and_congr_right fun same => ?_
  refine List.IsChain.iff_of_mem_imp ?_
  intro earlier later inEarlier inLater
  have earlierFilled : earlier ≠ [] := fun empty => filled (empty ▸ inEarlier)
  have laterFilled : later ≠ [] := fun empty => filled (empty ▸ inLater)
  have last := getLast_mem earlierFilled
  have head := head_mem laterFilled
  constructor
  · rintro ⟨_, _, differ⟩ first inFirst second inSecond equal
    refine of_decide_eq_false differ ?_
    rw [same earlier inEarlier _ last first inFirst, equal,
      same later inLater second inSecond _ head]
  · intro differ
    exact ⟨earlierFilled, laterFilled, decide_eq_false (differ _ last _ head)⟩

variable (key items) in
theorem runs_spec : items = (runs key items).flatten ∧ [] ∉ runs key items ∧
    (∀ group ∈ runs key items, ∀ first ∈ group, ∀ second ∈ group, key first = key second) ∧
    (runs key items).IsChain fun earlier later => ∀ first ∈ earlier, ∀ second ∈ later,
      key first ≠ key second :=
  runs_eq_iff.mp rfl

end Runs

section Summaries

variable {Item : Type u} {Key : Type v} {Coarse : Type w} {Summary : Type x}
variable [DecidableEq Key] [DecidableEq Coarse]
variable {key : Item → Key} {coarse : Item → Coarse} {keyOf : Summary → Coarse}
variable {Represents : List Item → Summary → Prop} {Other : Type v} {One : Type u}
  {Related : One → Other → Prop} {ones : List One}

theorem exists_parts {pieces : List (List Other)}
    (related : Forall₂ Related ones pieces.flatten) :
    ∃ parts, ones = parts.flatten ∧ Forall₂ (Forall₂ Related) parts pieces := by
  induction pieces generalizing ones with
  | nil =>
    cases related
    exact ⟨[], rfl, .nil⟩
  | cons piece pieces ih =>
    rw [flatten_cons] at related
    obtain ⟨parts, joins, pairs⟩ := ih (forall₂_drop_append _ _ _ related)
    refine ⟨ones.take piece.length :: parts, ?_, .cons (forall₂_take_append _ _ _ related) pairs⟩
    rw [flatten_cons, ← joins, take_append_drop]

variable {others : List Other}

theorem isChain_of_forall₂ {near : One → One → Prop} {close : Other → Other → Prop}
    (related : Forall₂ Related ones others) (chain : ones.IsChain near)
    (carries : ∀ one next other following, near one next → Related one other →
      Related next following → close other following) : others.IsChain close := by
  induction related with
  | nil => exact isChain_nil
  | @cons one other ones others first rest ih =>
    cases rest with
    | nil => exact isChain_singleton _
    | cons second rest =>
      obtain ⟨pair, later⟩ := isChain_cons_cons.mp chain
      exact isChain_cons_cons.mpr ⟨carries _ _ _ _ pair first second, ih later⟩

theorem exists_of_mem_left (related : Forall₂ Related ones others) :
    ∀ one ∈ ones, ∃ other ∈ others, Related one other := by
  induction related with
  | nil => simp
  | cons first rest ih =>
    intro one mem
    rcases mem_cons.mp mem with rfl | later
    · exact ⟨_, mem_cons_self, first⟩
    · obtain ⟨other, among, pair⟩ := ih one later
      exact ⟨other, mem_cons_of_mem _ among, pair⟩

theorem exists_of_mem_right (related : Forall₂ Related ones others) :
    ∀ other ∈ others, ∃ one ∈ ones, Related one other :=
  exists_of_mem_left related.flip

theorem eq_of_related {Result : Type w} {FromOne : One → Result → Prop}
    {FromOther : Other → Result → Prop} {results more : List Result}
    (related : Forall₂ Related ones others) (gives : Forall₂ FromOne ones results)
    (givesMore : Forall₂ FromOther others more)
    (agree : ∀ one ∈ ones, ∀ other result another, Related one other → FromOne one result →
      FromOther other another → result = another) : results = more := by
  induction related generalizing results more with
  | nil =>
    cases gives
    cases givesMore
    rfl
  | cons first rest ih =>
    cases gives with
    | cons gives restGives =>
      cases givesMore with
      | cons givesMore restGivesMore =>
        rw [agree _ mem_cons_self _ _ _ first gives givesMore,
          ih restGives restGivesMore fun one mem => agree one (mem_cons_of_mem _ mem)]

theorem forall₂_concat_inv {one : One} (related : Forall₂ Related (ones ++ [one]) others) :
    ∃ front other, others = front ++ [other] ∧ Forall₂ Related ones front ∧
      Related one other := by
  have back := forall₂_reverse_iff.mpr related
  rw [reverse_append, reverse_singleton, singleton_append, forall₂_cons_left_iff] at back
  obtain ⟨other, front, first, rest, joins⟩ := back
  refine ⟨front.reverse, other, ?_, ?_, first⟩
  · rw [← reverse_cons, ← joins, reverse_reverse]
  · have forward := forall₂_reverse_iff.mpr rest
    rwa [reverse_reverse] at forward

theorem exists_of_ends (related : Forall₂ Related ones others) (nonempty : others ≠ []) :
    (∃ one ∈ ones.head?, ∃ other ∈ others.head?, Related one other) ∧
      ∃ one ∈ ones.getLast?, ∃ other ∈ others.getLast?, Related one other := by
  induction related with
  | nil => exact absurd rfl nonempty
  | @cons one other ones others first rest ih =>
    refine ⟨⟨one, rfl, other, rfl, first⟩, ?_⟩
    cases rest with
    | nil => exact ⟨one, rfl, other, rfl, first⟩
    | cons second rest => simpa using (ih (cons_ne_nil _ _)).2

theorem getLast?_flatten {pieces : List (List Item)} {piece : List Item} {item : Item}
    (isPiece : piece ∈ pieces.getLast?) (isLast : item ∈ piece.getLast?) :
    item ∈ pieces.flatten.getLast? := by
  obtain ⟨before, rfl⟩ := getLast?_eq_some_iff.mp isPiece
  rw [flatten_append, flatten_cons, flatten_nil, append_nil,
    getLast?_append, Option.mem_def.mp isLast]
  rfl

theorem head?_flatten {pieces : List (List Item)} {piece : List Item} {item : Item}
    (isPiece : piece ∈ pieces.head?) (isFirst : item ∈ piece.head?) :
    item ∈ pieces.flatten.head? := by
  obtain ⟨after, rfl⟩ := head?_eq_some_iff.mp isPiece
  rw [flatten_cons, head?_append, Option.mem_def.mp isFirst]
  rfl

theorem runs_of_summaries {items : List Item} {summaries : List Summary}
    (represented : Forall₂ Represents (runs key items) summaries)
    (sameKey : ∀ group summary, Represents group summary →
      ∀ item ∈ group, coarse item = keyOf summary) :
    ∃ parts, runs key items = parts.flatten ∧ runs coarse items = parts.map flatten ∧
      Forall₂ (Forall₂ Represents) parts (runs keyOf summaries) := by
  obtain ⟨joined, filled, uniform, differ⟩ := runs_spec keyOf summaries
  have pieces := represented
  rw [joined] at pieces
  obtain ⟨parts, joins, pairs⟩ := exists_parts pieces
  obtain ⟨itemsJoined, itemsFilled, -, -⟩ := runs_spec key items
  have shown : ∀ part piece, Forall₂ Represents part piece →
      ∀ item ∈ part.flatten, ∃ summary ∈ piece, coarse item = keyOf summary := by
    intro part piece related item mem
    obtain ⟨group, inPart, inGroup⟩ := mem_flatten.mp mem
    obtain ⟨summary, inPiece, represents⟩ := exists_of_mem_left related group inPart
    exact ⟨summary, inPiece, sameKey group summary represents item inGroup⟩
  refine ⟨parts, joins, runs_eq_iff.mpr ⟨?_, ?_, ?_, ?_⟩, pairs⟩
  · rw [← flatten_flatten, ← joins]
    exact itemsJoined
  · intro empty
    obtain ⟨part, inParts, isEmpty⟩ := mem_map.mp empty
    obtain ⟨piece, inPieces, related⟩ := exists_of_mem_left pairs part inParts
    cases related with
    | nil => exact filled inPieces
    | @cons group summary groups others first rest =>
      have groupEmpty : group = [] := by
        rw [flatten_cons] at isEmpty
        exact (append_eq_nil_iff.mp isEmpty).1
      have inRuns : group ∈ runs key items := by
        rw [joins]
        exact mem_flatten.mpr ⟨_, inParts, mem_cons_self⟩
      exact itemsFilled (groupEmpty ▸ inRuns)
  · intro stretch isStretch first inFirst second inSecond
    obtain ⟨part, inParts, rfl⟩ := mem_map.mp isStretch
    obtain ⟨piece, inPieces, related⟩ := exists_of_mem_left pairs part inParts
    obtain ⟨one, inOne, firstShows⟩ := shown part piece related first inFirst
    obtain ⟨other, inOther, secondShows⟩ := shown part piece related second inSecond
    rw [firstShows, secondShows, uniform piece inPieces one inOne other inOther]
  · rw [isChain_map]
    refine isChain_of_forall₂ pairs.flip differ ?_
    intro piece next part following apart related relatedNext first inFirst second inSecond
    obtain ⟨one, inOne, firstShows⟩ := shown part piece related first inFirst
    obtain ⟨other, inOther, secondShows⟩ := shown following next relatedNext second inSecond
    rw [firstShows, secondShows]
    exact apart one inOne other inOther

end Summaries

/-- What is computed piece by piece is the same over items that stand for the pieces. -/
theorem measure_flatten {Item : Type u} {Measure : Type v} {Represents : List Item → Item → Prop}
    (measure : List Item → Measure) (op : Measure → Measure → Measure)
    (splits : ∀ first second, measure (first ++ second) = op (measure first) (measure second))
    (represents : ∀ group summary, Represents group summary → measure group = measure [summary])
    {groups : List (List Item)} {summaries : List Item}
    (represented : Forall₂ Represents groups summaries) :
    measure groups.flatten = measure summaries := by
  induction represented with
  | nil => rfl
  | @cons group summary groups summaries first rest ih =>
    calc measure (group :: groups).flatten
        = op (measure group) (measure groups.flatten) := splits group groups.flatten
      _ = op (measure [summary]) (measure summaries) := by rw [represents _ _ first, ih]
      _ = measure (summary :: summaries) := (splits [summary] summaries).symm

end KeyedRuns

end Qts
