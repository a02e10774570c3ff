import Mathlib.Algebra.Order.Ring.Int
import Mathlib.Data.List.TakeWhile

/-!
# Time zones

A zone is a piecewise constant offset.  A transition skips local times or repeats them, and a local
time stands, with its fold, for one instant.
-/

namespace Qts

open List

universe u

/-- At its instant the offset moves from one value to another. -/
structure Transition where
  instant : Int
  before : Int
  after : Int
deriving DecidableEq

namespace Transition

def top (transition : Transition) : Int :=
  transition.instant + max transition.before transition.after

def bottom (transition : Transition) : Int :=
  transition.instant + min transition.before transition.after

/-- The local time from which the new offset is used, for either fold. -/
def wall (transition : Transition) (fold : Bool) : Int :=
  if fold then transition.bottom else transition.top

variable (transition : Transition)

theorem before_le_top : transition.instant + transition.before ≤ transition.top :=
  Int.add_le_add_left (le_max_left _ _) _

theorem after_le_top : transition.instant + transition.after ≤ transition.top :=
  Int.add_le_add_left (le_max_right _ _) _

theorem bottom_le_before : transition.bottom ≤ transition.instant + transition.before :=
  Int.add_le_add_left (min_le_left _ _) _

theorem bottom_le_after : transition.bottom ≤ transition.instant + transition.after :=
  Int.add_le_add_left (min_le_right _ _) _

theorem bottom_le_top : transition.bottom ≤ transition.top :=
  transition.bottom_le_before.trans transition.before_le_top

/-- The clock jumps over a local time. -/
def Skips (time : Int) : Prop :=
  transition.instant + transition.before ≤ time ∧ time < transition.instant + transition.after

/-- The clock is set back over a local time, which it shows again. -/
def Repeats (time : Int) : Prop :=
  transition.instant + transition.after ≤ time ∧ time < transition.instant + transition.before

theorem wall_le_iff {transition : Transition} {time : Int} (notSkipped : ¬ transition.Skips time)
    (notRepeated : ¬ transition.Repeats time) (fold : Bool) :
    (transition.wall fold ≤ time ↔ transition.instant + transition.before ≤ time) ∧
      (transition.wall fold ≤ time ↔ transition.instant + transition.after ≤ time) := by
  simp only [Skips, Repeats] at notSkipped notRepeated
  cases fold <;> simp only [wall, top, bottom, Bool.false_eq_true, if_true, if_false] <;> omega

theorem bottom_le_wall (fold : Bool) : transition.bottom ≤ transition.wall fold := by
  cases fold with
  | false => exact transition.bottom_le_top
  | true => exact le_rfl

theorem wall_le_top (fold : Bool) : transition.wall fold ≤ transition.top := by
  cases fold with
  | false => exact le_rfl
  | true => exact transition.bottom_le_top

end Transition

/-- Each transition starts from the offset that the one before it ends with. -/
def Linked : Int → List Transition → Prop
  | _, [] => True
  | offset, transition :: rest => transition.before = offset ∧ Linked transition.after rest

def lastOffset (initial : Int) (passed : List Transition) : Int :=
  (passed.getLast?.map (·.after)).getD initial

/-- A piecewise constant offset, with one transition at each instant where it changes. -/
structure TimeZone where
  initial : Int
  transitions : List Transition := []
  linked : Linked initial transitions
  chronological : transitions.Pairwise fun earlier later => earlier.instant < later.instant
  changes : ∀ transition ∈ transitions, transition.before ≠ transition.after

theorem lastOffset_cons (initial : Int) (transition : Transition) (passed : List Transition) :
    lastOffset initial (transition :: passed) = lastOffset transition.after passed := by
  cases passed with
  | nil => rfl
  | cons next passed => rfl

theorem linked_append {initial : Int} {passed rest : List Transition}
    (linked : Linked initial (passed ++ rest)) : Linked (lastOffset initial passed) rest := by
  induction passed generalizing initial with
  | nil => exact linked
  | cons transition passed ih =>
    rw [lastOffset_cons]
    exact ih linked.2

/-- Offsets that all move by multiples of a number stay congruent to the first one. -/
theorem dvd_lastOffset_sub {initial step : Int} {passed rest : List Transition}
    (linked : Linked initial (passed ++ rest))
    (steps : ∀ transition ∈ passed, step ∣ transition.after - transition.before) :
    step ∣ lastOffset initial passed - initial := by
  induction passed generalizing initial with
  | nil => exact ⟨0, by rw [mul_zero]; exact sub_self _⟩
  | cons transition passed ih =>
    have later := ih linked.2 fun other mem => steps other (mem_cons_of_mem _ mem)
    have first := steps transition mem_cons_self
    rw [linked.1] at first
    rw [lastOffset_cons, ← sub_add_sub_cancel _ transition.after]
    exact Int.dvd_add later first

theorem takeWhile_append_eq {Item : Type u} {test : Item → Bool} {passed rest : List Item}
    (passes : ∀ item ∈ passed, test item = true) (stops : ∀ item ∈ rest.head?, test item = false) :
    (passed ++ rest).takeWhile test = passed := by
  induction passed with
  | nil =>
    cases rest with
    | nil => rfl
    | cons item rest =>
      rw [nil_append, takeWhile_cons_of_neg]
      simpa using stops item rfl
  | cons item passed ih =>
    rw [cons_append, takeWhile_cons_of_pos (passes item mem_cons_self)]
    exact congrArg _ (ih fun other mem => passes other (mem_cons_of_mem _ mem))

namespace TimeZone

variable (zone : TimeZone)

def passed (instant : Int) : List Transition :=
  zone.transitions.takeWhile fun transition => decide (transition.instant ≤ instant)

def offsetAt (instant : Int) : Int :=
  lastOffset zone.initial (zone.passed instant)

def localTime (instant : Int) : Int :=
  instant + zone.offsetAt instant

def foldAt (instant : Int) : Bool :=
  (zone.passed instant).getLast?.any fun transition =>
    decide (instant - transition.instant < transition.before - transition.after)

def passedLocal (time : Int) (fold : Bool) : List Transition :=
  zone.transitions.takeWhile fun transition => decide (transition.wall fold ≤ time)

def instantOf (time : Int) (fold : Bool) : Int :=
  time - lastOffset zone.initial (zone.passedLocal time fold)

/-- No local time is touched by two transitions, nor by any margin after them. -/
def Apart (margin : Int) : Prop :=
  zone.transitions.Pairwise fun earlier later => earlier.top + margin ≤ later.bottom

variable {zone} {before after : List Transition} {margin : Int}

theorem Apart.of_le {other : Int} (apart : zone.Apart margin) (smaller : other ≤ margin) :
    zone.Apart other := by
  refine List.Pairwise.imp ?_ apart
  intro earlier later far
  omega

theorem before_of_split (split : zone.transitions = before ++ after) {next : Transition}
    (head : next ∈ after.head?) : next.before = lastOffset zone.initial before := by
  have linked : Linked (lastOffset zone.initial before) after :=
    linked_append (split ▸ zone.linked)
  cases after with
  | nil => cases head
  | cons first rest =>
    obtain rfl := Option.some.inj head
    exact linked.1

theorem mem_append_of_getLast {last : Transition} (isLast : last ∈ before.getLast?) :
    ∃ earlier, before = earlier ++ [last] := by
  exact getLast?_eq_some_iff.mp isLast

theorem passed_eq (split : zone.transitions = before ++ after) {instant : Int}
    (reached : ∀ last ∈ before.getLast?, last.instant ≤ instant)
    (ahead : ∀ next ∈ after.head?, instant < next.instant) : zone.passed instant = before := by
  rw [passed, split]
  refine takeWhile_append_eq ?_ ?_
  · intro transition mem
    have ordered := zone.chronological
    rw [split] at ordered
    have earlierOrdered := (pairwise_append.mp ordered).1
    obtain ⟨last, isLast⟩ : ∃ last, before.getLast? = some last :=
      ⟨_, getLast?_eq_some_getLast (ne_nil_of_mem mem)⟩
    obtain ⟨earlier, rfl⟩ := mem_append_of_getLast isLast
    have lastReached := reached last isLast
    refine decide_eq_true ?_
    rcases mem_append.mp mem with early | late
    · have inOrder := (pairwise_append.mp earlierOrdered).2.2 transition early last
        mem_cons_self
      exact inOrder.le.trans lastReached
    · rw [mem_singleton.mp late]
      exact lastReached
  · intro next head
    exact decide_eq_false (not_le.mpr (ahead next head))

theorem passedLocal_eq (apart : zone.Apart margin) (room : 0 ≤ margin)
    (split : zone.transitions = before ++ after) {time : Int} {fold : Bool}
    (reached : ∀ last ∈ before.getLast?, last.wall fold ≤ time)
    (ahead : ∀ next ∈ after.head?, time < next.wall fold) :
    zone.passedLocal time fold = before := by
  rw [passedLocal, split]
  refine takeWhile_append_eq ?_ ?_
  · intro transition mem
    rw [Apart, split] at apart
    have earlierApart := (pairwise_append.mp apart).1
    obtain ⟨last, isLast⟩ : ∃ last, before.getLast? = some last :=
      ⟨_, getLast?_eq_some_getLast (ne_nil_of_mem mem)⟩
    obtain ⟨earlier, rfl⟩ := mem_append_of_getLast isLast
    have lastReached := reached last isLast
    refine decide_eq_true ?_
    rcases mem_append.mp mem with early | late
    · have enclosed := (pairwise_append.mp earlierApart).2.2 transition early last
        mem_cons_self
      have top := transition.wall_le_top fold
      have bottom := last.bottom_le_wall fold
      omega
    · rw [mem_singleton.mp late]
      exact lastReached
  · intro next head
    exact decide_eq_false (not_le.mpr (ahead next head))

theorem passed_split (zone : TimeZone) (instant : Int) :
    ∃ rest, zone.transitions = zone.passed instant ++ rest ∧
      (∀ last ∈ (zone.passed instant).getLast?, last.instant ≤ instant) ∧
      ∀ next ∈ rest.head?, instant < next.instant := by
  refine ⟨zone.transitions.dropWhile fun transition => decide (transition.instant ≤ instant),
    takeWhile_append_dropWhile.symm, ?_, ?_⟩
  · intro last isLast
    have mem : last ∈ zone.transitions.takeWhile fun transition =>
        decide (transition.instant ≤ instant) := mem_of_getLast? isLast
    have satisfies := mem_takeWhile_imp mem
    exact of_decide_eq_true satisfies
  · intro next head
    have stops := head?_dropWhile_not
      (fun transition : Transition => decide (transition.instant ≤ instant)) zone.transitions
    rw [Option.mem_def] at head
    rw [head] at stops
    simpa using stops

theorem instantOf_localTime (apart : zone.Apart margin) (room : 0 ≤ margin) (instant : Int) :
    zone.instantOf (zone.localTime instant) (zone.foldAt instant) = instant := by
  obtain ⟨rest, split, reached, ahead⟩ := zone.passed_split instant
  have found : zone.passedLocal (zone.localTime instant) (zone.foldAt instant) =
      zone.passed instant := by
    refine passedLocal_eq apart room split ?_ ?_
    · intro last isLast
      have offset : zone.offsetAt instant = last.after := by
        rw [offsetAt, lastOffset, isLast]
        rfl
      have fold : zone.foldAt instant =
          decide (instant - last.instant < last.before - last.after) := by
        rw [foldAt, isLast]
        rfl
      have lastReached := reached last isLast
      rw [localTime, offset, fold, Transition.wall]
      split
      · have bottom := last.bottom_le_after
        omega
      · next unfolded =>
        rw [decide_eq_true_iff, not_lt] at unfolded
        rw [Transition.top]
        omega
    · intro next head
      have offset : next.before = zone.offsetAt instant := before_of_split split head
      have later := ahead next head
      rw [localTime, ← offset]
      cases folded : zone.foldAt instant with
      | false =>
        have top := next.before_le_top
        change instant + next.before < next.top
        omega
      | true =>
        rw [foldAt, Option.any_eq_true] at folded
        obtain ⟨last, isLast, repeats⟩ := folded
        rw [decide_eq_true_iff] at repeats
        have after : next.before = last.after := by
          rw [offset, offsetAt, lastOffset, isLast]
          rfl
        obtain ⟨earlier, known⟩ := mem_append_of_getLast isLast
        have enclosed : last.top + margin ≤ next.bottom := by
          rw [Apart, split] at apart
          refine (pairwise_append.mp apart).2.2 last ?_ next (mem_of_head? head)
          rw [known]
          exact mem_append_right _ mem_cons_self
        have top := last.before_le_top
        change instant + next.before < next.bottom
        omega
  rw [instantOf, found, localTime, offsetAt]
  exact Int.add_sub_cancel _ _

theorem mem_passed {instant : Int} {transition : Transition} :
    transition ∈ zone.passed instant ↔
      transition ∈ zone.transitions ∧ transition.instant ≤ instant := by
  obtain ⟨rest, split, -, ahead⟩ := zone.passed_split instant
  constructor
  · intro mem
    have satisfies := mem_takeWhile_imp mem
    refine ⟨?_, of_decide_eq_true satisfies⟩
    rw [split]
    exact mem_append_left _ mem
  · rintro ⟨mem, reached⟩
    have ordered := zone.chronological
    rw [split] at mem ordered
    rcases mem_append.mp mem with isPassed | later
    · exact isPassed
    · cases rest with
      | nil => cases later
      | cons next rest =>
        have nextAhead := ahead next rfl
        rcases mem_cons.mp later with rfl | behind
        · exact absurd reached (not_le.mpr nextAhead)
        · have inOrder := (pairwise_cons.mp (pairwise_append.mp ordered).2.1).1 _ behind
          omega

/-- No transition jumps over a local time, and none sets the clock back over it. -/
def ShownOnce (zone : TimeZone) (time : Int) : Prop :=
  ∀ transition ∈ zone.transitions, ¬ transition.Skips time ∧ ¬ transition.Repeats time

theorem lt_after_of_head {offset time : Int} {rest : List Transition} (linked : Linked offset rest)
    (chronological : rest.Pairwise fun earlier later => earlier.instant < later.instant)
    (untouched : ∀ transition ∈ rest, ¬ transition.Repeats time)
    (ahead : ∀ next ∈ rest.head?, time < next.instant + next.before) :
    ∀ transition ∈ rest, time < transition.instant + transition.after := by
  induction rest generalizing offset with
  | nil => simp
  | cons first rest ih =>
    have firstAhead := ahead first rfl
    have notRepeated := untouched first mem_cons_self
    have firstAfter : time < first.instant + first.after := by
      simp only [Transition.Repeats] at notRepeated
      omega
    obtain ⟨behind, ordered⟩ := pairwise_cons.mp chronological
    have restAhead : ∀ next ∈ rest.head?, time < next.instant + next.before := by
      intro next head
      have later := behind next (mem_of_head? head)
      have joined : next.before = first.after := by
        cases rest with
        | nil => cases head
        | cons second rest =>
          obtain rfl := Option.some.inj head
          exact linked.2.1
      omega
    intro transition mem
    rcases mem_cons.mp mem with rfl | later
    · exact firstAfter
    · exact ih linked.2 ordered (fun other among => untouched other (mem_cons_of_mem _ among))
        restAhead transition later

section ShownOnce

variable {time : Int}

section

variable (shown : zone.ShownOnce time) (fold : Bool)

include shown fold

theorem ShownOnce.passedLocal_split :
    ∃ rest, zone.transitions = zone.passedLocal time fold ++ rest ∧
      (∀ last ∈ zone.passedLocal time fold, last.instant + last.after ≤ time ∧
        last.instant + last.before ≤ time) ∧
      (∀ next ∈ rest.head?, time < next.instant + next.before) ∧
      ∀ next ∈ rest, time < next.instant + next.after := by
  have split : zone.transitions = zone.passedLocal time fold ++
      zone.transitions.dropWhile fun transition => decide (transition.wall fold ≤ time) :=
    takeWhile_append_dropWhile.symm
  have ahead : ∀ next ∈ (zone.transitions.dropWhile fun transition =>
      decide (transition.wall fold ≤ time)).head?, time < next.instant + next.before := by
    intro next head
    have stops := head?_dropWhile_not
      (fun transition : Transition => decide (transition.wall fold ≤ time)) zone.transitions
    rw [Option.mem_def] at head
    rw [head] at stops
    have behind : ¬ next.wall fold ≤ time := by simpa using stops
    have untouched := shown next
      ((dropWhile_sublist _).subset (mem_of_head? head))
    rw [(Transition.wall_le_iff untouched.1 untouched.2 fold).1] at behind
    omega
  refine ⟨_, split, ?_, ahead, ?_⟩
  · intro last mem
    have untouched := shown last (split ▸ mem_append_left _ mem)
    have satisfies := mem_takeWhile_imp mem
    have reached := of_decide_eq_true satisfies
    obtain ⟨viaBefore, viaAfter⟩ := Transition.wall_le_iff untouched.1 untouched.2 fold
    exact ⟨viaAfter.mp reached, viaBefore.mp reached⟩
  · have linked := zone.linked
    have chronological := zone.chronological
    rw [split] at linked chronological
    apply lt_after_of_head (linked_append linked) (pairwise_append.mp chronological).2.1 _ ahead
    intro transition mem
    exact (shown transition (split ▸ mem_append_right _ mem)).2

theorem ShownOnce.passed_instantOf :
    zone.passed (zone.instantOf time fold) = zone.passedLocal time fold := by
  obtain ⟨rest, split, reached, ahead, -⟩ := shown.passedLocal_split fold
  refine passed_eq split ?_ ?_
  · intro last isLast
    have offset : lastOffset zone.initial (zone.passedLocal time fold) = last.after := by
      rw [lastOffset, isLast]
      rfl
    have before := (reached last (mem_of_getLast? isLast)).1
    rw [instantOf, offset]
    omega
  · intro next head
    have later := ahead next head
    rw [before_of_split split head] at later
    rw [instantOf]
    omega

theorem ShownOnce.localTime_instantOf : zone.localTime (zone.instantOf time fold) = time := by
  rw [localTime, offsetAt, shown.passed_instantOf fold, instantOf]
  exact Int.sub_add_cancel _ _

theorem ShownOnce.localTime_of_passed {instant : Int}
    (same : zone.passed (zone.instantOf time fold) = zone.passed instant) :
    zone.localTime instant - time = instant - zone.instantOf time fold := by
  rw [localTime, offsetAt, ← same, shown.passed_instantOf fold, instantOf]
  omega

theorem ShownOnce.localTime_lt {instant : Int} (early : instant < zone.instantOf time fold) :
    zone.localTime instant < time := by
  obtain ⟨rest, split, reached, -⟩ := shown.passedLocal_split fold
  obtain ⟨others, parts, passes, stops⟩ := zone.passed_split instant
  have behind : ∀ last ∈ (zone.passed instant).getLast?,
      last.instant ≤ zone.instantOf time fold :=
    fun last isLast => (passes last isLast).trans early.le
  by_cases between : ∃ next ∈ others.head?, next.instant ≤ zone.instantOf time fold
  · obtain ⟨next, head, between⟩ := between
    have isPassed : next ∈ zone.passedLocal time fold := by
      rw [← shown.passed_instantOf fold]
      refine mem_passed.mpr ⟨?_, between⟩
      rw [parts]
      exact mem_append_right _ (mem_of_head? head)
    have before := (reached next isPassed).2
    have stop := stops next head
    rw [localTime, offsetAt, ← before_of_split parts head]
    omega
  · have same := passed_eq parts behind fun next head =>
      not_le.mp fun near => between ⟨next, head, near⟩
    have distance := shown.localTime_of_passed fold same
    omega

theorem ShownOnce.lt_localTime {instant : Int} (late : zone.instantOf time fold < instant) :
    time < zone.localTime instant := by
  obtain ⟨rest, split, -, -, behind⟩ := shown.passedLocal_split fold
  obtain ⟨others, parts, passes, stops⟩ := zone.passed_split instant
  by_cases beyond : ∃ last ∈ (zone.passed instant).getLast?,
      zone.instantOf time fold < last.instant
  · obtain ⟨last, isLast, beyond⟩ := beyond
    have among := (mem_passed.mp (mem_of_getLast? isLast)).1
    rw [split] at among
    rcases mem_append.mp among with isPassed | after
    · rw [← shown.passed_instantOf fold] at isPassed
      exact absurd (mem_passed.mp isPassed).2 (not_le.mpr beyond)
    · have offset : zone.offsetAt instant = last.after := by
        rw [offsetAt, lastOffset, isLast]
        rfl
      have later := behind last after
      have isPassed := passes last isLast
      rw [localTime, offset]
      omega
  · have same := passed_eq parts
      (fun last isLast => not_lt.mp fun far => beyond ⟨last, isLast, far⟩)
      fun next head => late.trans (stops next head)
    have distance := shown.localTime_of_passed fold same
    omega

theorem ShownOnce.localTime_lt_iff (instant : Int) :
    zone.localTime instant < time ↔ instant < zone.instantOf time fold := by
  have known := shown.localTime_instantOf fold
  rcases lt_trichotomy instant (zone.instantOf time fold) with early | rfl | late
  · exact iff_of_true (shown.localTime_lt fold early) early
  · exact iff_of_false (by omega) (by omega)
  · have later := shown.lt_localTime fold late
    exact iff_of_false (by omega) (by omega)

theorem ShownOnce.localTime_eq_iff (instant : Int) :
    zone.localTime instant = time ↔ instant = zone.instantOf time fold := by
  rcases lt_trichotomy instant (zone.instantOf time fold) with early | rfl | late
  · have before := shown.localTime_lt fold early
    exact iff_of_false (by omega) (by omega)
  · exact iff_of_true (shown.localTime_instantOf fold) rfl
  · have later := shown.lt_localTime fold late
    exact iff_of_false (by omega) (by omega)

end

end ShownOnce

end TimeZone

end Qts
