import Mathlib.Data.Finset.Basic

/-!
# Insertion-ordered dictionaries

A dictionary remembers the order in which its keys first arrived: overwriting a key keeps
its place and a new key goes to the end.
-/

namespace Qts

open List

universe u v w

/-- A finite map whose items stand in the order in which their keys arrived. -/
structure Dict (Key : Type u) (Value : Type v) where
  items : List (Key × Value)
  distinct : (items.map Prod.fst).Nodup

namespace Dict

variable {Key : Type u} {Value : Type v} {Other : Type w}

@[ext]
theorem ext {first second : Dict Key Value}
    (items : first.items = second.items) : first = second := by
  cases first
  cases second
  cases items
  rfl

def keys (dict : Dict Key Value) : List Key :=
  dict.items.map Prod.fst

def values (dict : Dict Key Value) : List Value :=
  dict.items.map Prod.snd

def empty : Dict Key Value where
  items := []
  distinct := nodup_nil

variable [DecidableEq Key]

def get? (dict : Dict Key Value) (key : Key) : Option Value :=
  dict.items.lookup key

/-- Overwrite a key in place, or append it. -/
def setItem (key : Key) (value : Value) : List (Key × Value) → List (Key × Value)
  | [] => [(key, value)]
  | item :: rest =>
      if item.1 = key then (key, value) :: rest else item :: setItem key value rest

theorem setItem_keys (key : Key) (value : Value) (items : List (Key × Value)) :
    (setItem key value items).map Prod.fst =
      if key ∈ items.map Prod.fst then items.map Prod.fst
      else items.map Prod.fst ++ [key] := by
  induction items with
  | nil => simp [setItem]
  | cons item rest ih =>
    by_cases same : item.1 = key
    · simp [setItem, same]
    · have ne : key ≠ item.1 := Ne.symm same
      simp only [setItem, same, if_false, map_cons, ih, mem_cons, ne, false_or]
      split <;> rfl

variable {items : List (Key × Value)} {key : Key} {value : Value}

theorem setItem_nodup (distinct : (items.map Prod.fst).Nodup) :
    ((setItem key value items).map Prod.fst).Nodup := by
  rw [setItem_keys]
  split
  · exact distinct
  · next absent => exact nodup_append.mpr ⟨distinct, nodup_singleton _, by
      rintro old oldMem _ new rfl
      rw [mem_singleton] at new
      exact absent (new ▸ oldMem)⟩

def set (dict : Dict Key Value) (key : Key) (value : Value) :
    Dict Key Value where
  items := setItem key value dict.items
  distinct := setItem_nodup dict.distinct

def erase (dict : Dict Key Value) (key : Key) : Dict Key Value where
  items := dict.items.filter fun item => item.1 ≠ key
  distinct := (filter_sublist.map Prod.fst).nodup dict.distinct

/-- Build a dictionary by inserting items one after another. -/
def ofItems (items : List (Key × Value)) : Dict Key Value :=
  items.foldl (fun dict item => dict.set item.1 item.2) empty

@[simp]
theorem get?_empty (key : Key) : (empty : Dict Key Value).get? key = none :=
  rfl

theorem lookup_cons_if (key : Key) (item : Key × Value) (rest : List (Key × Value)) :
    (item :: rest).lookup key = if key = item.1 then some item.2 else rest.lookup key := by
  obtain ⟨itemKey, itemValue⟩ := item
  rw [lookup_cons]
  by_cases hit : key = itemKey
  · simp [hit]
  · have miss : (key == itemKey) = false := by simpa using hit
    simp [miss, hit]

theorem lookup_setItem (key other : Key) (value : Value) (items : List (Key × Value)) :
    (setItem key value items).lookup other =
      if other = key then some value else items.lookup other := by
  induction items with
  | nil => simp [setItem, lookup_cons_if]
  | cons item rest ih =>
    by_cases same : item.1 = key
    · subst same
      simp only [setItem, if_true, lookup_cons_if]
      split <;> rfl
    · simp only [setItem, same, if_false, lookup_cons_if, ih]
      by_cases hit : other = item.1
      · subst hit
        simp [same]
      · simp [hit]

variable (dict : Dict Key Value)

theorem get?_set (key other : Key) (value : Value) :
    (dict.set key value).get? other = if other = key then some value else dict.get? other :=
  lookup_setItem key other value dict.items

@[simp]
theorem get?_set_self (key : Key) (value : Value) : (dict.set key value).get? key = some value := by
  simp [get?_set]

@[simp]
theorem get?_set_of_ne {key other : Key} (value : Value) (ne : other ≠ key) :
    (dict.set key value).get? other = dict.get? other := by
  simp [get?_set, ne]

theorem lookup_filter_ne (key other : Key) (items : List (Key × Value)) :
    (items.filter fun item => item.1 ≠ key).lookup other =
      if other = key then none else items.lookup other := by
  induction items with
  | nil => simp
  | cons item rest ih =>
    by_cases same : item.1 = key
    · rw [filter_cons_of_neg (by simp [same]), ih]
      by_cases hit : other = key
      · simp [hit]
      · have miss : other ≠ item.1 := fun equal => hit (equal.trans same)
        simp [hit, lookup_cons_if, miss]
    · rw [filter_cons_of_pos (by simp [same]), lookup_cons_if, lookup_cons_if, ih]
      by_cases hit : other = item.1
      · subst hit
        simp [same]
      · simp [hit]

theorem get?_erase (key other : Key) :
    (dict.erase key).get? other = if other = key then none else dict.get? other :=
  lookup_filter_ne key other dict.items

@[simp]
theorem get?_erase_self (key : Key) : (dict.erase key).get? key = none := by
  simp [get?_erase]

@[simp]
theorem get?_erase_of_ne {key other : Key} (ne : other ≠ key) :
    (dict.erase key).get? other = dict.get? other := by
  simp [get?_erase, ne]

theorem lookup_eq_some_of_nodup (distinct : (items.map Prod.fst).Nodup) :
    items.lookup key = some value ↔ (key, value) ∈ items := by
  induction items with
  | nil => simp
  | cons item rest ih =>
    simp only [map_cons, nodup_cons] at distinct
    obtain ⟨fresh, restDistinct⟩ := distinct
    obtain ⟨itemKey, itemValue⟩ := item
    by_cases hit : key = itemKey
    · subst hit
      simp only [lookup_cons_if, if_true, Option.some.injEq, mem_cons, Prod.mk.injEq, true_and]
      constructor
      · intro equal
        exact Or.inl equal.symm
      · rintro (equal | mem)
        · exact equal.symm
        · exact absurd (mem_map_of_mem mem) fresh
    · simp [lookup_cons_if, hit, ih restDistinct]

/-- A lookup succeeds exactly on the items. -/
theorem get?_eq_some_iff : dict.get? key = some value ↔ (key, value) ∈ dict.items :=
  lookup_eq_some_of_nodup dict.distinct

theorem get?_eq_none_iff : dict.get? key = none ↔ key ∉ dict.keys := by
  rw [Option.eq_none_iff_forall_not_mem]
  simp only [Option.mem_def, get?_eq_some_iff, keys, mem_map, not_exists, not_and]
  constructor
  · rintro missing ⟨_, value⟩ mem rfl
    exact missing value mem
  · intro missing value mem
    exact missing (key, value) mem rfl

theorem mem_keys_iff : key ∈ dict.keys ↔ ∃ value, dict.get? key = some value := by
  have missing : dict.get? key = none ↔ key ∉ dict.keys := dict.get?_eq_none_iff
  rw [← Option.isSome_iff_exists, ← Option.ne_none_iff_isSome]
  tauto

theorem setItem_of_not_mem (absent : key ∉ items.map Prod.fst) :
    setItem key value items = items ++ [(key, value)] := by
  induction items with
  | nil => rfl
  | cons item rest ih =>
    simp only [map_cons, mem_cons, not_or] at absent
    simp [setItem, Ne.symm absent.1, ih absent.2]

theorem foldl_set_items (items : List (Key × Value)) (dict : Dict Key Value)
    (distinct : ((dict.items ++ items).map Prod.fst).Nodup) :
    (items.foldl (fun dict item => dict.set item.1 item.2) dict).items =
      dict.items ++ items := by
  induction items generalizing dict with
  | nil => simp
  | cons item rest ih =>
    have absent : item.1 ∉ dict.items.map Prod.fst := by
      intro mem
      rw [map_append, nodup_append] at distinct
      exact distinct.2.2 item.1 mem item.1 (by simp) rfl
    have appended : (dict.set item.1 item.2).items = dict.items ++ [item] :=
      setItem_of_not_mem absent
    rw [foldl_cons, ih]
    · rw [appended, append_assoc]
      rfl
    · rw [appended, append_assoc]
      exact distinct

theorem ofItems_items (distinct : (items.map Prod.fst).Nodup) : (ofItems items).items = items := by
  have built := foldl_set_items items empty (by simpa [empty] using distinct)
  simpa [ofItems, empty] using built

/-- A dictionary is rebuilt from its own items. -/
@[simp]
theorem ofItems_items_self : ofItems dict.items = dict :=
  ext (ofItems_items dict.distinct)

theorem get?_ofItems (distinct : (items.map Prod.fst).Nodup) (key : Key) :
    (ofItems items).get? key = items.lookup key := by
  rw [get?, ofItems_items distinct]

theorem mem_of_get?_ofItems (found : (ofItems items).get? key = some value) :
    (key, value) ∈ items := by
  have stored : ∀ dict : Dict Key Value,
      (items.foldl (fun dict item => dict.set item.1 item.2) dict).get? key = some value →
      (key, value) ∈ items ∨ dict.get? key = some value := by
    clear found
    induction items with
    | nil => exact fun dict found => .inr found
    | cons item rest ih =>
      intro dict found
      rcases ih (dict.set item.1 item.2) found with mem | earlier
      · exact .inl (mem_cons_of_mem _ mem)
      · rw [get?_set] at earlier
        split at earlier
        · next same =>
          cases earlier
          exact .inl (same ▸ mem_cons_self)
        · exact .inr earlier
  rcases stored empty found with mem | ⟨⟨⟩⟩
  exact mem

theorem get?_ofItems_of_mem {item : Key × Value} (mem : item ∈ items) :
    ∃ value, (ofItems items).get? item.1 = some value := by
  have stored : ∀ dict : Dict Key Value,
      item ∈ items ∨ (∃ value, dict.get? item.1 = some value) →
      ∃ value, (items.foldl (fun dict item => dict.set item.1 item.2) dict).get? item.1 =
        some value := by
    clear mem
    induction items with
    | nil =>
      rintro dict (⟨⟨⟩⟩ | found)
      exact found
    | cons first rest ih =>
      intro dict among
      refine ih (dict.set first.1 first.2) ?_
      by_cases same : item.1 = first.1
      · exact .inr ⟨first.2, by rw [same, get?_set_self]⟩
      · rw [get?_set_of_ne _ _ same]
        rcases among with mem | found
        · exact .inl ((mem_cons.mp mem).resolve_left fun equal => same (equal ▸ rfl))
        · exact .inr found
  exact stored empty (.inl mem)

theorem lookup_map_value (change : Value → Other) (key : Key) (items : List (Key × Value)) :
    (items.map fun item => (item.1, change item.2)).lookup key =
      (items.lookup key).map change := by
  induction items with
  | nil => rfl
  | cons item rest ih =>
    rw [map_cons, lookup_cons_if, lookup_cons_if, ih]
    split <;> rfl

theorem get?_ofItems_map (change : Value → Other) (key : Key) :
    (ofItems (dict.items.map fun item => (item.1, change item.2))).get? key =
      (dict.get? key).map change := by
  have distinct :
      ((dict.items.map fun item => (item.1, change item.2)).map Prod.fst).Nodup := by
    rw [map_map]
    exact dict.distinct
  rw [get?_ofItems distinct, lookup_map_value, get?]

/-- Lookups depend on the items only as a set. -/
theorem lookup_perm {first second : List (Key × Value)} (distinct : (first.map Prod.fst).Nodup)
    (perm : first.Perm second) (key : Key) : first.lookup key = second.lookup key := by
  have secondDistinct : (second.map Prod.fst).Nodup :=
    (perm.map Prod.fst).nodup_iff.mp distinct
  apply Option.ext
  intro value
  rw [lookup_eq_some_of_nodup distinct, lookup_eq_some_of_nodup secondDistinct, perm.mem_iff]

theorem setItem_setItem (key : Key) (value later : Value) (items : List (Key × Value)) :
    setItem key later (setItem key value items) = setItem key later items := by
  induction items with
  | nil => simp [setItem]
  | cons item rest ih =>
    by_cases same : item.1 = key
    · simp [setItem, same]
    · simp only [setItem, same, if_false, ih]

theorem set_set (key : Key) (value later : Value) :
    (dict.set key value).set key later = dict.set key later :=
  Dict.ext (setItem_setItem key value later dict.items)

end Dict

end Qts
