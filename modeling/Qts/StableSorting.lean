import Mathlib.Data.List.Sort

/-! # Sorting by a key -/

namespace Qts

open List

namespace StableSorting

universe u v

variable {Item : Type u} {Key : Type v} [LinearOrder Key] (key : Item → Key)
  {before : Item → Item → Prop} [DecidableRel before]

theorem pairwise_key (orders : ∀ first second, before first second ↔ key first ≤ key second)
    (items : List Item) :
    (items.insertionSort before).Pairwise fun first second => key first ≤ key second := by
  have total : Std.Total before :=
    ⟨fun first second => by simpa only [orders] using le_total (key first) (key second)⟩
  have trans : IsTrans Item before :=
    ⟨fun first second third => by simpa only [orders] using le_trans⟩
  exact (pairwise_insertionSort before items).imp (orders _ _).mp

theorem insertionSort_eq_of_perm
    (orders : ∀ first second, before first second ↔ key first ≤ key second)
    {items others : List Item} (same : items.Perm others)
    (apart : ∀ first ∈ items, ∀ second ∈ items, key first = key second → first = second) :
    items.insertionSort before = others.insertionSort before := by
  have left := perm_insertionSort before items
  have right := perm_insertionSort before others
  refine List.Perm.eq_of_pairwise ?_ (pairwise_key key orders items)
      (pairwise_key key orders others)
    (left.trans (same.trans right.symm))
  intro first second firstMember secondMember le ge
  exact apart first (left.mem_iff.mp firstMember) second
    (same.mem_iff.mpr (right.mem_iff.mp secondMember)) (le_antisymm le ge)

omit [LinearOrder Key] [DecidableRel before] in
theorem filter_eq_take {items : List Item} {within : Item → Bool}
    (sorted : items.Pairwise fun first second => within second = true → within first = true) :
    items.filter within = items.take (items.countP within) := by
  induction items with
  | nil => rfl
  | cons item items ih =>
    obtain ⟨first, sorted⟩ := pairwise_cons.mp sorted
    by_cases holds : within item = true
    · rw [filter_cons_of_pos holds, countP_cons_of_pos holds, take_succ_cons, ih sorted]
    · have none : ∀ other ∈ items, ¬ within other = true :=
        fun other mem later => holds (first other mem later)
      rw [filter_cons_of_neg holds, countP_cons_of_neg holds,
        filter_eq_nil_iff.mpr none, countP_eq_zero.mpr none, take_zero]

theorem idxOf_insertionSort [BEq Item] [LawfulBEq Item]
    (orders : ∀ first second, before first second ↔ key first ≤ key second)
    {items : List Item} {item : Item} (mem : item ∈ items)
    (alone : ∀ other ∈ items, key other = key item → other = item) :
    (items.insertionSort before).idxOf item =
      items.countP fun other => decide (key other < key item) := by
  have perm := perm_insertionSort before items
  have sorted := pairwise_key key orders items
  rw [← perm.countP_eq]
  have found : item ∈ items.insertionSort before := perm.mem_iff.mpr mem
  have single : ∀ other ∈ items.insertionSort before, key other = key item → other = item :=
    fun other inside => alone other (perm.mem_iff.mp inside)
  clear perm mem alone
  generalize items.insertionSort before = ordered at *
  induction ordered with
  | nil => exact absurd found not_mem_nil
  | cons first rest ih =>
    obtain ⟨least, sorted⟩ := pairwise_cons.mp sorted
    by_cases same : first = item
    · subst same
      have none : ∀ other ∈ first :: rest, ¬ decide (key other < key first) = true := by
        intro other inside
        rw [decide_eq_true_eq, not_lt]
        rcases mem_cons.mp inside with rfl | inside
        · exact le_refl _
        · exact least other inside
      rw [idxOf_cons_self, countP_eq_zero.mpr none]
    · have inside : item ∈ rest := (mem_cons.mp found).resolve_left (Ne.symm same)
      have smaller : key first < key item := by
        apply lt_of_le_of_ne (least item inside)
        exact fun equal => same (single first mem_cons_self equal)
      rw [idxOf_cons_ne _ same, ih sorted inside fun other mem =>
        single other (mem_cons_of_mem first mem), countP_cons, decide_eq_true smaller]
      rfl

end StableSorting

end Qts
