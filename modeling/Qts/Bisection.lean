import Mathlib.Data.List.Basic

/-! # Bisection -/

namespace Qts

namespace Bisection

universe u

variable {Elem : Type u}

/-- Halve the interval between two indices until it is empty. -/
def search (atOrBelow : Elem → Bool) (entries : List Elem) : Nat → Nat → Nat → Nat
  | 0, low, _ => low
  | fuel + 1, low, high =>
    if low < high then
      match entries[(low + high) / 2]? with
      | none => low
      | some entry =>
        if atOrBelow entry then search atOrBelow entries fuel ((low + high) / 2 + 1) high
        else search atOrBelow entries fuel low ((low + high) / 2)
    else low

def right (atOrBelow : Elem → Bool) (entries : List Elem) : Nat :=
  search atOrBelow entries entries.length 0 entries.length

/-- The entries at or below the point come first. -/
def Partitioned (atOrBelow : Elem → Bool) (entries : List Elem) : Prop :=
  entries.Pairwise fun earlier later => atOrBelow later = true → atOrBelow earlier = true

variable {atOrBelow : Elem → Bool} {entries : List Elem}

theorem atOrBelow_iff_lt (partitioned : Partitioned atOrBelow entries) {index : Nat}
    {entry : Elem} (found : entries[index]? = some entry) :
    atOrBelow entry = true ↔ index < (entries.takeWhile atOrBelow).length := by
  induction entries generalizing index with
  | nil => simp at found
  | cons head rest ih =>
    obtain ⟨headFirst, restPartitioned⟩ := List.pairwise_cons.mp partitioned
    cases index with
    | zero =>
      obtain rfl : head = entry := by simpa using found
      by_cases below : atOrBelow head = true
      · simp [below]
      · simp [below]
    | succ index =>
      have foundRest : rest[index]? = some entry := by simpa using found
      have mem : entry ∈ rest := List.mem_of_getElem? foundRest
      by_cases below : atOrBelow head = true
      · rw [List.takeWhile_cons_of_pos below, List.length_cons, Nat.succ_lt_succ_iff]
        exact ih restPartitioned foundRest
      · rw [List.takeWhile_cons_of_neg below]
        constructor
        · intro entryBelow
          exact absurd (headFirst entry mem entryBelow) below
        · intro impossible
          exact absurd impossible (Nat.not_lt_zero _)

/-- The interval always holds the number of leading entries. -/
theorem search_eq (partitioned : Partitioned atOrBelow entries) {fuel low high : Nat}
    (enough : high - low ≤ fuel) (inside : high ≤ entries.length)
    (after : low ≤ (entries.takeWhile atOrBelow).length)
    (before : (entries.takeWhile atOrBelow).length ≤ high) :
    search atOrBelow entries fuel low high = (entries.takeWhile atOrBelow).length := by
  induction fuel generalizing low high with
  | zero =>
    rw [search]
    omega
  | succ fuel ih =>
    rw [search]
    by_cases narrow : low < high
    · have bounded : (low + high) / 2 < entries.length := by omega
      have found := List.getElem?_eq_getElem bounded
      rw [if_pos narrow, found]
      dsimp only
      by_cases below : atOrBelow entries[(low + high) / 2] = true
      · have count := (atOrBelow_iff_lt partitioned found).mp below
        rw [if_pos below]
        exact ih (by omega) inside (by omega) before
      · have count := mt (atOrBelow_iff_lt partitioned found).mpr below
        rw [if_neg below]
        exact ih (by omega) (by omega) after (by omega)
    · rw [if_neg narrow]
      omega

theorem right_eq (partitioned : Partitioned atOrBelow entries) :
    right atOrBelow entries = (entries.takeWhile atOrBelow).length :=
  search_eq partitioned (Nat.sub_le _ _) (Nat.le_refl _) (Nat.zero_le _)
    (List.takeWhile_prefix atOrBelow).length_le

end Bisection

end Qts
