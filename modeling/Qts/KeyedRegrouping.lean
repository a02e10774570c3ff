import Mathlib.Data.List.Nodup
import Mathlib.Data.List.Pairwise

/-! # Regrouping a list by key -/

namespace Qts

open List

namespace KeyedRegrouping

universe u v

variable {Item : Type u} {Key : Type v} [DecidableEq Key] (key : Item → Key)

def regroup (keys : List Key) (items : List Item) : List Item :=
  keys.flatMap fun group => items.filter fun item => key item = group

/-- No item comes before one whose key stands earlier among the keys. -/
def InOrder (keys : List Key) (items : List Item) : Prop :=
  items.Pairwise fun first second => keys.idxOf (key first) ≤ keys.idxOf (key second)

theorem regroup_cons (group : Key) (keys : List Key) (items : List Item) :
    regroup key (group :: keys) items =
      (items.filter fun item => key item = group) ++ regroup key keys items :=
  rfl

variable {keys : List Key}

theorem regroup_filter_ne {group : Key} (absent : group ∉ keys) (items : List Item) :
    regroup key keys (items.filter fun item => ¬ key item = group) = regroup key keys items := by
  unfold regroup
  apply flatMap_congr
  intro other mem
  rw [filter_filter]
  apply filter_congr
  intro item _
  by_cases same : key item = other
  · have ne : other ≠ group := fun equal => absent (equal ▸ mem)
    simp [same, ne]
  · simp [same]

variable {items : List Item}

theorem mem_regroup {item : Item} :
    item ∈ regroup key keys items ↔ item ∈ items ∧ key item ∈ keys := by
  simp only [regroup, mem_flatMap, mem_filter, decide_eq_true_eq]
  constructor
  · rintro ⟨group, mem, inside, rfl⟩
    exact ⟨inside, mem⟩
  · rintro ⟨inside, mem⟩
    exact ⟨key item, mem, inside, rfl⟩

theorem regroup_perm (distinct : keys.Nodup) (known : ∀ item ∈ items, key item ∈ keys) :
    (regroup key keys items).Perm items := by
  induction keys generalizing items with
  | nil =>
    have none : items = [] := eq_nil_iff_forall_not_mem.mpr fun item mem =>
      absurd (known item mem) not_mem_nil
    rw [none]
    rfl
  | cons group keys ih =>
    obtain ⟨absent, distinct⟩ := nodup_cons.mp distinct
    have others : ∀ item ∈ items.filter (fun item => ¬ key item = group), key item ∈ keys := by
      intro item mem
      obtain ⟨inside, ne⟩ := mem_filter.mp mem
      exact (mem_cons.mp (known item inside)).resolve_left (of_decide_eq_true ne)
    have rest := ih distinct others
    rw [regroup_filter_ne key absent] at rest
    rw [regroup_cons]
    apply (rest.append_left _).trans
    simpa only [decide_not] using
      filter_append_perm (fun item => decide (key item = group)) items

theorem filter_regroup (distinct : keys.Nodup) {group : Key} (mem : group ∈ keys)
    (items : List Item) :
    (regroup key keys items).filter (fun item => key item = group) =
      items.filter fun item => key item = group := by
  induction keys with
  | nil => exact absurd mem not_mem_nil
  | cons other keys ih =>
    obtain ⟨absent, distinct⟩ := nodup_cons.mp distinct
    rw [regroup_cons, filter_append, filter_filter]
    by_cases same : group = other
    · subst same
      have none : (regroup key keys items).filter (fun item => key item = group) = [] := by
        apply filter_eq_nil_iff.mpr
        intro item inside equal
        have found := ((mem_regroup key).mp inside).2
        exact absent (of_decide_eq_true equal ▸ found)
      simp [none]
    · rw [ih distinct ((mem_cons.mp mem).resolve_left same)]
      have none : (items.filter fun item =>
          decide (key item = group) && decide (key item = other)) = [] := by
        apply filter_eq_nil_iff.mpr
        intro item _ both
        simp only [Bool.and_eq_true, decide_eq_true_eq] at both
        exact same (both.1.symm.trans both.2)
      rw [none, nil_append]

theorem regroup_inOrder (distinct : keys.Nodup) (items : List Item) :
    InOrder key keys (regroup key keys items) := by
  induction keys with
  | nil => exact List.Pairwise.nil
  | cons group keys ih =>
    obtain ⟨absent, distinct⟩ := nodup_cons.mp distinct
    have later : ∀ item ∈ regroup key keys items, group ≠ key item := fun item inside equal =>
      absent (equal ▸ ((mem_regroup key).mp inside).2)
    rw [regroup_cons]
    apply pairwise_append.mpr
    refine ⟨?_, ?_, ?_⟩
    · apply pairwise_of_forall_mem_list
      intro first firstMember second secondMember
      have firstKey := of_decide_eq_true (mem_filter.mp firstMember).2
      have secondKey := of_decide_eq_true (mem_filter.mp secondMember).2
      exact Nat.le_of_eq (by rw [firstKey, secondKey])
    · apply (ih distinct).imp_of_mem
      intro first second firstMember secondMember le
      rw [idxOf_cons_ne _ (later first firstMember), idxOf_cons_ne _ (later second secondMember)]
      omega
    · intro first firstMember second _
      rw [of_decide_eq_true (mem_filter.mp firstMember).2, idxOf_cons_self]
      exact Nat.zero_le _

theorem filter_append_of_first {chosen : Item → Bool}
    (first : items.Pairwise fun earlier later => chosen later = true → chosen earlier = true) :
    (items.filter chosen) ++ (items.filter fun item => !chosen item) = items := by
  induction items with
  | nil => rfl
  | cons item items ih =>
    obtain ⟨head, rest⟩ := pairwise_cons.mp first
    cases taken : chosen item with
    | true => simpa [taken] using ih rest
    | false =>
      have none : ∀ other ∈ items, ¬ chosen other = true := fun other mem later => by
        rw [head other mem later] at taken
        cases taken
      have others : items.filter (fun item => !chosen item) = items :=
        filter_eq_self.mpr fun other mem => by simpa using none other mem
      simp [taken, filter_eq_nil_iff.mpr none, others]

theorem regroup_of_inOrder (distinct : keys.Nodup) (known : ∀ item ∈ items, key item ∈ keys)
    (ordered : InOrder key keys items) : regroup key keys items = items := by
  induction keys generalizing items with
  | nil =>
    have none : items = [] := eq_nil_iff_forall_not_mem.mpr fun item mem =>
      absurd (known item mem) not_mem_nil
    rw [none]
    rfl
  | cons group keys ih =>
    obtain ⟨absent, distinct⟩ := nodup_cons.mp distinct
    have front : items.Pairwise fun earlier later =>
        decide (key later = group) = true → decide (key earlier = group) = true := by
      apply ordered.imp
      intro earlier later le chosen
      rw [of_decide_eq_true chosen, idxOf_cons_self] at le
      by_contra ne
      rw [idxOf_cons_ne _ fun equal => ne (decide_eq_true equal.symm)] at le
      omega
    have grouped := filter_append_of_first front
    have others : regroup key keys (items.filter fun item => ¬ key item = group) =
        items.filter fun item => ¬ key item = group := by
      apply ih distinct
      · intro item mem
        obtain ⟨inside, ne⟩ := mem_filter.mp mem
        exact (mem_cons.mp (known item inside)).resolve_left (of_decide_eq_true ne)
      · apply (List.Pairwise.sublist filter_sublist ordered).imp_of_mem
        intro first second firstMember secondMember le
        have firstOther := of_decide_eq_true (mem_filter.mp firstMember).2
        have secondOther := of_decide_eq_true (mem_filter.mp secondMember).2
        rw [idxOf_cons_ne _ (Ne.symm firstOther), idxOf_cons_ne _ (Ne.symm secondOther)] at le
        omega
    rw [regroup_cons, ← regroup_filter_ne key absent, others]
    simpa only [decide_not] using grouped

theorem regroup_eq_iff (distinct : keys.Nodup) (known : ∀ item ∈ items, key item ∈ keys) :
    regroup key keys items = items ↔ InOrder key keys items := by
  constructor
  · intro same
    rw [← same]
    exact regroup_inOrder key distinct items
  · exact regroup_of_inOrder key distinct known

end KeyedRegrouping

end Qts
