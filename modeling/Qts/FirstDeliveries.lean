import Mathlib.Data.Finset.Insert

/-! # First deliveries -/

namespace Qts

open List

universe u v

section FirstDeliveries

variable {Item : Type u} {Id : Type v} [DecidableEq Id] (idOf : Item → Id)

def firstDeliveries (seen : Finset Id) : List Item → List Item
  | [] => []
  | item :: rest =>
    if idOf item ∈ seen then firstDeliveries seen rest
    else item :: firstDeliveries (insert (idOf item) seen) rest

variable {idOf} (seen : Finset Id)

@[simp]
theorem firstDeliveries_nil : firstDeliveries idOf seen ([] : List Item) = [] :=
  rfl

theorem firstDeliveries_seen {seen : Finset Id} {item : Item} (known : idOf item ∈ seen)
    (rest : List Item) :
    firstDeliveries idOf seen (item :: rest) = firstDeliveries idOf seen rest := by
  rw [firstDeliveries, if_pos known]

theorem firstDeliveries_new {seen : Finset Id} {item : Item} (fresh : idOf item ∉ seen)
    (rest : List Item) :
    firstDeliveries idOf seen (item :: rest) =
      item :: firstDeliveries idOf (insert (idOf item) seen) rest := by
  rw [firstDeliveries, if_neg fresh]

def afterDeliveries (idOf : Item → Id) (seen : Finset Id) (items : List Item) : Finset Id :=
  items.foldl (fun known item => insert (idOf item) known) seen

theorem afterDeliveries_append (first second : List Item) :
    afterDeliveries idOf seen (first ++ second) =
      afterDeliveries idOf (afterDeliveries idOf seen first) second :=
  foldl_append

/-- A receiver goes on from the ids it remembers. -/
theorem firstDeliveries_append (first second : List Item) :
    firstDeliveries idOf seen (first ++ second) =
      firstDeliveries idOf seen first ++
        firstDeliveries idOf (afterDeliveries idOf seen first) second := by
  induction first generalizing seen with
  | nil => rfl
  | cons item rest ih =>
    have later := ih (insert (idOf item) seen)
    by_cases known : idOf item ∈ seen
    · rw [Finset.insert_eq_of_mem known] at later
      rw [cons_append, firstDeliveries_seen known, firstDeliveries_seen known, later,
        afterDeliveries, afterDeliveries, foldl_cons, Finset.insert_eq_of_mem known]
    · rw [cons_append, firstDeliveries_new known, firstDeliveries_new known, later, cons_append]
      rfl

theorem firstDeliveries_subset {seen : Finset Id} {items : List Item} {item : Item}
    (taken : item ∈ firstDeliveries idOf seen items) : item ∈ items := by
  induction items generalizing seen with
  | nil => exact taken
  | cons head rest ih =>
    by_cases known : idOf head ∈ seen
    · rw [firstDeliveries_seen known] at taken
      exact mem_cons_of_mem _ (ih taken)
    · rw [firstDeliveries_new known] at taken
      rcases mem_cons.mp taken with rfl | later
      · exact mem_cons_self
      · exact mem_cons_of_mem _ (ih later)

/-- A second receiver takes all that a first one with the same memory lets through. -/
theorem firstDeliveries_twice (items : List Item) :
    firstDeliveries idOf seen (firstDeliveries idOf seen items) =
      firstDeliveries idOf seen items := by
  induction items generalizing seen with
  | nil => rfl
  | cons item rest ih =>
    by_cases known : idOf item ∈ seen
    · rw [firstDeliveries_seen known, ih]
    · rw [firstDeliveries_new known, firstDeliveries_new known, ih]

/-- What is let through has ids that were not seen, each once. -/
theorem firstDeliveries_distinct (items : List Item) :
    ((firstDeliveries idOf seen items).map idOf).Nodup ∧
      ∀ item ∈ firstDeliveries idOf seen items, idOf item ∉ seen := by
  induction items generalizing seen with
  | nil => simp
  | cons item rest ih =>
    by_cases known : idOf item ∈ seen
    · rw [firstDeliveries_seen known]
      exact ih seen
    · obtain ⟨distinct, fresh⟩ := ih (insert (idOf item) seen)
      simp only [Finset.mem_insert, not_or] at fresh
      rw [firstDeliveries_new known, map_cons, nodup_cons]
      refine ⟨⟨fun again => ?_, distinct⟩, fun other mem => ?_⟩
      · obtain ⟨other, mem, same⟩ := mem_map.mp again
        exact (fresh other mem).1 same
      · rcases mem_cons.mp mem with rfl | later
        · exact known
        · exact (fresh other later).2

theorem firstDeliveries_of_distinct {seen : Finset Id} {items : List Item}
    (distinct : (items.map idOf).Nodup) (fresh : ∀ item ∈ items, idOf item ∉ seen) :
    firstDeliveries idOf seen items = items := by
  induction items generalizing seen with
  | nil => rfl
  | cons item rest ih =>
    rw [map_cons, nodup_cons] at distinct
    rw [firstDeliveries_new (fresh item mem_cons_self), ih distinct.2]
    intro other mem old
    rcases Finset.mem_insert.mp old with same | seen
    · exact distinct.1 (mem_map.mpr ⟨other, mem, same⟩)
    · exact fresh other (mem_cons_of_mem _ mem) seen

end FirstDeliveries

end Qts
