import Mathlib.Data.List.DropRight

/-!
# Streaks

A condition persists in a list when some given number of consecutive entries satisfy it.
-/

namespace Qts

universe u

namespace Streaks

variable {Entry : Type u}

/-- So many consecutive entries satisfy a condition. -/
def Persists (count : Nat) (condition : Entry → Prop) (entries : List Entry) : Prop :=
  ∃ window, window <:+: entries ∧ window.length = count ∧ ∀ entry ∈ window, condition entry

def lastStreak (condition : Entry → Prop) [DecidablePred condition] (entries : List Entry) :
    List Entry :=
  entries.rtakeWhile fun entry => decide (condition entry)

/-- How many of the last entries satisfy a condition without a gap. -/
def trailing (condition : Entry → Prop) [DecidablePred condition] (entries : List Entry) : Nat :=
  (lastStreak condition entries).length

variable {count : Nat}

theorem Persists.of_prefix {condition : Entry → Prop} {before entries : List Entry}
    (persists : Persists count condition before) (earlier : before <+: entries) :
    Persists count condition entries := by
  obtain ⟨window, inside, length, all⟩ := persists
  exact ⟨window, inside.trans earlier.isInfix, length, all⟩

variable {entries : List Entry}

theorem Persists.weaken {strong weak : Entry → Prop} (persists : Persists count strong entries)
    (implied : ∀ entry, strong entry → weak entry) : Persists count weak entries := by
  obtain ⟨window, inside, length, all⟩ := persists
  exact ⟨window, inside, length, fun entry mem => implied entry (all entry mem)⟩

theorem not_persists_nil (pos : 0 < count) (condition : Entry → Prop) :
    ¬ Persists count condition [] := by
  rintro ⟨window, inside, length, -⟩
  have empty := List.infix_nil.mp inside
  subst empty
  change 0 = count at length
  omega

variable (condition : Entry → Prop) [DecidablePred condition]

theorem lastStreak_suffix (entries : List Entry) : lastStreak condition entries <:+ entries :=
  List.rtakeWhile_suffix _ entries

variable {condition} in
theorem holds_of_mem_lastStreak {entry : Entry} (mem : entry ∈ lastStreak condition entries) :
    condition entry := by
  have met := List.mem_rtakeWhile_imp mem
  exact of_decide_eq_true met

@[simp]
theorem trailing_nil : trailing condition ([] : List Entry) = 0 := by
  simp [trailing, lastStreak]

theorem trailing_concat (entries : List Entry) (entry : Entry) :
    trailing condition (entries ++ [entry]) =
      if condition entry then trailing condition entries + 1 else 0 := by
  unfold trailing lastStreak
  rw [List.rtakeWhile_concat]
  by_cases met : condition entry
  · simp [met]
  · simp [met]

theorem le_trailing_iff :
    count ≤ trailing condition entries ↔
      ∃ window, window <:+ entries ∧ window.length = count ∧ ∀ entry ∈ window, condition entry := by
  constructor
  · intro long
    refine ⟨(lastStreak condition entries).drop (trailing condition entries - count), ?_, ?_, ?_⟩
    · exact (List.drop_suffix _ _).trans (lastStreak_suffix condition entries)
    · rw [List.length_drop]
      change trailing condition entries - (trailing condition entries - count) = count
      omega
    · intro entry mem
      exact holds_of_mem_lastStreak (List.mem_of_mem_drop mem)
  · rintro ⟨window, last, rfl, all⟩
    induction entries using List.reverseRecOn generalizing window with
    | nil =>
      rw [List.suffix_nil.mp last]
      exact Nat.zero_le _
    | append_singleton entries entry ih =>
      rcases List.suffix_concat_iff.mp last with rfl | ⟨shorter, rfl, suffix⟩
      · exact Nat.zero_le _
      · have met : condition entry := all entry (by simp)
        have earlier := ih shorter suffix fun other mem => all other (by simp [mem])
        rw [trailing_concat, if_pos met, List.length_append, List.length_singleton]
        omega

/-- One more entry completes a run of entries exactly when it ends a long enough streak. -/
theorem persists_concat {entry : Entry} :
    Persists count condition (entries ++ [entry]) ↔
      Persists count condition entries ∨
        count ≤ trailing condition (entries ++ [entry]) := by
  rw [le_trailing_iff]
  constructor
  · rintro ⟨window, inside, length, all⟩
    rcases List.infix_concat_iff.mp inside with last | earlier
    · exact .inr ⟨window, last, length, all⟩
    · exact .inl ⟨window, earlier, length, all⟩
  · rintro (persists | ⟨window, last, length, all⟩)
    · exact persists.of_prefix (List.prefix_append _ _)
    · exact ⟨window, last.isInfix, length, all⟩

end Streaks

end Qts
