import Mathlib.Data.Option.Basic

/-! # Inverse indexes -/

namespace Qts

universe u v w

namespace InverseIndex

variable {Key : Type u} {Record : Type v} {Id : Type w}

/-- The index leads from a field value to the key of the record that has it, and has no other
entry. -/
def Inverse (records : Key → Option Record) (field : Record → Option Id)
    (index : Id → Option Key) : Prop :=
  ∀ id key, index id = some key ↔ ∃ record, records key = some record ∧ field record = some id

/-- No two entries of an index lead to one key. -/
def PartialInjection (index : Id → Option Key) : Prop :=
  ∀ first second key, index first = some key → index second = some key → first = second

variable {records : Key → Option Record} {field : Record → Option Id} {index : Id → Option Key}

theorem Inverse.empty : Inverse (fun _ : Key => (none : Option Record)) field fun _ => none := by
  intro id key
  simp

theorem Inverse.partialInjection (inverse : Inverse records field index) :
    PartialInjection index := by
  intro first second key leadsFirst leadsSecond
  obtain ⟨record, stored, hasFirst⟩ := (inverse first key).mp leadsFirst
  obtain ⟨other, storedOther, hasSecond⟩ := (inverse second key).mp leadsSecond
  obtain rfl := Option.mem_unique stored storedOther
  exact Option.mem_unique hasFirst hasSecond

theorem Inverse.unique (inverse : Inverse records field index) {other : Id → Option Key}
    (inverseOther : Inverse records field other) : index = other := by
  funext id
  apply Option.ext
  intro key
  exact (inverse id key).trans (inverseOther id key).symm

variable [DecidableEq Key] [DecidableEq Id]

theorem Inverse.write (inverse : Inverse records field index) {key : Key} {record : Record}
    (free : ∀ id other, field record = some id → index id = some other → other = key) :
    Inverse (fun other => if other = key then some record else records other) field
      fun id =>
        if field record = some id then some key
        else if (records key).bind field = some id then none
        else index id := by
  intro id other
  by_cases new : field record = some id
  · simp only [new, if_true, Option.some.injEq]
    constructor
    · rintro rfl
      exact ⟨record, if_pos rfl, new⟩
    · rintro ⟨found, stored, has⟩
      by_contra ne
      rw [if_neg (Ne.symm ne)] at stored
      exact ne (free id other new ((inverse id other).mpr ⟨found, stored, has⟩)).symm
  · simp only [new, if_false]
    have kept : (∃ found, (if other = key then some record else records other) = some found ∧
        field found = some id) ↔
          other ≠ key ∧ ∃ found, records other = some found ∧ field found = some id := by
      by_cases same : other = key
      · simp [same, new]
      · simp [same]
    rw [kept, ← inverse]
    by_cases old : (records key).bind field = some id
    · obtain ⟨prev, stored, has⟩ := Option.bind_eq_some_iff.mp old
      have leads := (inverse id key).mpr ⟨prev, stored, has⟩
      simp only [old, if_true, reduceCtorEq, false_iff, not_and]
      intro ne leadsOther
      exact ne (Option.mem_unique leadsOther leads)
    · simp only [old, if_false]
      refine (and_iff_right_of_imp ?_).symm
      rintro leads rfl
      obtain ⟨prev, stored, has⟩ := (inverse id other).mp leads
      exact old (Option.bind_eq_some_iff.mpr ⟨prev, stored, has⟩)

omit [DecidableEq Id] in
theorem Inverse.keep (inverse : Inverse records field index) {key : Key} {record : Record}
    (same : (records key).bind field = field record) :
    Inverse (fun other => if other = key then some record else records other) field index := by
  intro id other
  rw [inverse id other]
  by_cases written : other = key
  · subst written
    simp only [if_true, Option.some.injEq, exists_eq_left', ← same, Option.bind_eq_some_iff]
  · simp only [written, if_false]

theorem Inverse.remove (inverse : Inverse records field index) (key : Key) :
    Inverse (fun other => if other = key then none else records other) field
      fun id => if (records key).bind field = some id then none else index id := by
  intro id other
  by_cases removed : other = key
  · subst removed
    by_cases old : (records other).bind field = some id
    · simp [old]
    · simp only [old, if_false, if_true, reduceCtorEq, false_and, exists_false, iff_false]
      intro leads
      exact old (Option.bind_eq_some_iff.mpr ((inverse id other).mp leads))
  · simp only [removed, if_false]
    rw [← inverse id other]
    by_cases old : (records key).bind field = some id
    · have leads := (inverse id key).mpr (Option.bind_eq_some_iff.mp old)
      simp only [old, if_true, reduceCtorEq, false_iff]
      intro leadsOther
      exact removed (Option.mem_unique leadsOther leads)
    · simp only [old, if_false]

end InverseIndex

end Qts
