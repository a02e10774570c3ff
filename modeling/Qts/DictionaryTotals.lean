import Mathlib.Algebra.BigOperators.Group.Finset.Basic
import Qts.OrderedDictionary

/-! # Totals over a dictionary -/

namespace Qts.Dict

universe u v w

variable {Key : Type u} {Value : Type v} {Weight : Type w} [DecidableEq Key]
  [AddCommMonoid Weight]

def keyedTotal (weight : Key → Value → Weight) (dict : Dict Key Value) : Weight :=
  (dict.items.map fun item => weight item.1 item.2).sum

def weightAt (weight : Key → Value → Weight) (dict : Dict Key Value) (key : Key) : Weight :=
  ((dict.get? key).map (weight key)).getD 0

theorem keyedTotal_eq_sum (weight : Key → Value → Weight) (dict : Dict Key Value)
    {keys : Finset Key} (covers : ∀ key ∈ dict.keys, key ∈ keys) :
    dict.keyedTotal weight = ∑ key ∈ keys, dict.weightAt weight key := by
  have items : dict.items.map (fun item => weight item.1 item.2) =
      dict.keys.map (dict.weightAt weight) := by
    rw [Dict.keys, List.map_map]
    refine List.map_congr_left fun item mem => ?_
    rw [Function.comp_apply, weightAt, dict.get?_eq_some_iff.mpr mem]
    rfl
  have within : dict.keys.toFinset ⊆ keys := fun key mem =>
    covers key (List.mem_toFinset.mp mem)
  have distinct : dict.keys.Nodup := dict.distinct
  rw [keyedTotal, items, ← List.sum_toFinset _ distinct]
  refine Finset.sum_subset within fun key _ absent => ?_
  have missing : dict.get? key = none :=
    dict.get?_eq_none_iff.mpr fun mem => absent (List.mem_toFinset.mpr mem)
  rw [weightAt, missing]
  rfl

variable {first second : Dict Key Value}

theorem keyedTotal_congr {weight other : Key → Value → Weight}
    (same : ∀ key, second.weightAt other key = first.weightAt weight key) :
    second.keyedTotal other = first.keyedTotal weight := by
  let keys := first.keys.toFinset ∪ second.keys.toFinset
  have firstTotal : first.keyedTotal weight = ∑ key ∈ keys, first.weightAt weight key :=
    keyedTotal_eq_sum weight first fun held mem =>
      Finset.mem_union_left _ (List.mem_toFinset.mpr mem)
  have secondTotal : second.keyedTotal other = ∑ key ∈ keys, second.weightAt other key :=
    keyedTotal_eq_sum other second fun held mem =>
      Finset.mem_union_right _ (List.mem_toFinset.mpr mem)
  rw [firstTotal, secondTotal]
  exact Finset.sum_congr rfl fun key _ => same key

theorem keyedTotal_add {sum first second : Dict Key Value}
    {weight one two : Key → Value → Weight}
    (adds : ∀ key, sum.weightAt weight key = first.weightAt one key + second.weightAt two key) :
    sum.keyedTotal weight = first.keyedTotal one + second.keyedTotal two := by
  let keys := sum.keys.toFinset ∪ (first.keys.toFinset ∪ second.keys.toFinset)
  have sumTotal : sum.keyedTotal weight = ∑ key ∈ keys, sum.weightAt weight key :=
    keyedTotal_eq_sum weight sum fun held mem =>
      Finset.mem_union_left _ (List.mem_toFinset.mpr mem)
  have firstTotal : first.keyedTotal one = ∑ key ∈ keys, first.weightAt one key :=
    keyedTotal_eq_sum one first fun held mem =>
      Finset.mem_union_right _ (Finset.mem_union_left _ (List.mem_toFinset.mpr mem))
  have secondTotal : second.keyedTotal two = ∑ key ∈ keys, second.weightAt two key :=
    keyedTotal_eq_sum two second fun held mem =>
      Finset.mem_union_right _ (Finset.mem_union_right _ (List.mem_toFinset.mpr mem))
  rw [sumTotal, firstTotal, secondTotal, ← Finset.sum_add_distrib]
  exact Finset.sum_congr rfl fun key _ => adds key

theorem keyedTotal_moved {weight other : Key → Value → Weight} {key : Key}
    (others : ∀ unmoved, unmoved ≠ key →
      second.weightAt other unmoved = first.weightAt weight unmoved) :
    second.keyedTotal other + first.weightAt weight key =
      first.keyedTotal weight + second.weightAt other key := by
  let keys := insert key (first.keys.toFinset ∪ second.keys.toFinset)
  have among : key ∈ keys := Finset.mem_insert_self _ _
  have firstTotal : first.keyedTotal weight = ∑ key ∈ keys, first.weightAt weight key := by
    refine keyedTotal_eq_sum weight first fun held mem => ?_
    exact Finset.mem_insert_of_mem (Finset.mem_union_left _ (List.mem_toFinset.mpr mem))
  have secondTotal : second.keyedTotal other = ∑ key ∈ keys, second.weightAt other key := by
    refine keyedTotal_eq_sum other second fun held mem => ?_
    exact Finset.mem_insert_of_mem (Finset.mem_union_right _ (List.mem_toFinset.mpr mem))
  have rest : ∑ held ∈ keys.erase key, second.weightAt other held =
      ∑ held ∈ keys.erase key, first.weightAt weight held :=
    Finset.sum_congr rfl fun held mem => others held (Finset.ne_of_mem_erase mem)
  rw [firstTotal, secondTotal, ← Finset.add_sum_erase keys _ among,
    ← Finset.add_sum_erase keys (first.weightAt weight) among, rest]
  ac_rfl

theorem keyedTotal_eq_add_sub {Difference : Type w} [AddCommGroup Difference]
    {weight other : Key → Value → Difference} {key : Key}
    (others : ∀ unmoved, unmoved ≠ key →
      second.weightAt other unmoved = first.weightAt weight unmoved) :
    second.keyedTotal other =
      first.keyedTotal weight + (second.weightAt other key - first.weightAt weight key) := by
  rw [← add_sub_assoc, ← keyedTotal_moved others, add_sub_cancel_right]

def retain (keep : Key → Bool) (dict : Dict Key Value) : Dict Key Value where
  items := dict.items.filter fun item => keep item.1
  distinct := dict.distinct.sublist (List.filter_sublist.map _)

theorem get?_retain (keep : Key → Bool) (dict : Dict Key Value) (key : Key) :
    (dict.retain keep).get? key = if keep key then dict.get? key else none := by
  apply Option.ext
  intro value
  rw [get?_eq_some_iff]
  change (key, value) ∈ dict.items.filter _ ↔ _
  rw [List.mem_filter]
  by_cases kept : keep key = true
  · simp [kept, get?_eq_some_iff]
  · simp [kept]

/-- Items that weigh nothing need not be kept. -/
theorem keyedTotal_retain {weight : Key → Value → Weight} {keep : Key → Bool}
    (light : ∀ key value, keep key = false → weight key value = 0)
    (dict : Dict Key Value) : (dict.retain keep).keyedTotal weight = dict.keyedTotal weight := by
  refine keyedTotal_congr fun key => ?_
  rw [weightAt, weightAt, get?_retain]
  cases kept : keep key with
  | true => rfl
  | false =>
    cases dict.get? key with
    | none => rfl
    | some value => exact (light key value kept).symm

end Qts.Dict
