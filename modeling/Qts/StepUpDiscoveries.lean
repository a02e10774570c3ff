import Mathlib.Order.Lattice.Nat
import Qts.MultiplicityOrder

/-!
# The step-up procedure

The procedure compares the ordered p-values with a line that binary64 arithmetic computes, and
accepts the p-values up to the last one below it.  The line is monotone in the rank and in the
rate, so that ties stay together, the order of the p-values does not matter, and a smaller p-value
or a larger rate only adds discoveries.  The line of exact arithmetic can lie on the other side of
a p-value.
-/

namespace Qts

open List

def checkedDiscoveries (pValues : List ℚ) (falseDiscoveryRate : ℚ) :
    Except String (List Nat) :=
  if 0 < falseDiscoveryRate ∧ falseDiscoveryRate ≤ 1 then
    .ok (benjaminiHochbergDiscoveries pValues falseDiscoveryRate)
  else .error "false_discovery_rate must be in (0, 1]"

def rankedPValue (pValues : List ℚ) (rank : Nat) : ℚ :=
  (pValues.insertionSort (· ≤ ·)).getD (rank - 1) 0

def ranksBelowLine (pValues : List ℚ) (rate : ℚ) : Set Nat :=
  {rank | 1 ≤ rank ∧ rank ≤ pValues.length ∧
    rankedPValue pValues rank ≤ stepUpLine pValues.length rate rank}

/-- The ranks below the line as exact arithmetic has it. -/
def ranksBelowExactLine (pValues : List ℚ) (rate : ℚ) : Set Nat :=
  {rank | 1 ≤ rank ∧ rank ≤ pValues.length ∧
    rankedPValue pValues rank ≤ rank / pValues.length * rate}

variable {pValues others : List ℚ} {rate larger bound : ℚ} {rank index : Nat}

theorem rankedPValue_mem (first : 1 ≤ rank) (last : rank ≤ pValues.length) :
    rankedPValue pValues rank ∈ pValues := by
  have inside : rank - 1 < (pValues.insertionSort (· ≤ ·)).length := by
    rw [length_insertionSort]
    omega
  rw [rankedPValue, getD_eq_getElem _ _ inside]
  exact (perm_insertionSort _ pValues).mem_iff.mp (getElem_mem inside)

theorem exists_rank (mem : bound ∈ pValues) :
    ∃ rank, 1 ≤ rank ∧ rank ≤ pValues.length ∧ rankedPValue pValues rank = bound := by
  obtain ⟨position, inside, rfl⟩ := getElem_of_mem
    ((perm_insertionSort (· ≤ ·) pValues).mem_iff.mpr mem)
  refine ⟨position + 1, by omega, ?_, ?_⟩
  · rw [length_insertionSort] at inside
    omega
  · rw [rankedPValue, Nat.add_sub_cancel, getD_eq_getElem _ _ inside]

theorem rankedPValue_mono {later : Nat} (order : rank ≤ later)
    (last : later ≤ pValues.length) : rankedPValue pValues rank ≤ rankedPValue pValues later := by
  rcases Nat.eq_or_lt_of_le (Nat.sub_le_sub_right order 1) with same | before
  · rw [rankedPValue, rankedPValue, same]
  have inside : later - 1 < (pValues.insertionSort (· ≤ ·)).length := by
    rw [length_insertionSort]
    omega
  rw [rankedPValue, rankedPValue, getD_eq_getElem _ _ inside,
    getD_eq_getElem _ _ (by omega)]
  exact pairwise_iff_getElem.mp (pairwise_insertionSort (· ≤ ·) pValues) _ _ _ _ before

theorem rank_le_countP_iff (first : 1 ≤ rank) (last : rank ≤ pValues.length) :
    rank ≤ pValues.countP (fun value => decide (value ≤ bound)) ↔
      rankedPValue pValues rank ≤ bound := by
  have sorted := pairwise_insertionSort (· ≤ ·) pValues
  have perm := perm_insertionSort (· ≤ ·) pValues
  have closed : (pValues.insertionSort (· ≤ ·)).Pairwise fun first second =>
      decide (second ≤ bound) = true → decide (first ≤ bound) = true :=
    sorted.imp fun le within => decide_eq_true (le.trans (of_decide_eq_true within))
  have taken := StableSorting.filter_eq_take closed
  have inside : rank - 1 < (pValues.insertionSort (· ≤ ·)).length := by
    rw [length_insertionSort]
    omega
  rw [← perm.countP_eq, rankedPValue, getD_eq_getElem _ _ inside]
  constructor
  · intro enough
    have among : (pValues.insertionSort (· ≤ ·))[rank - 1] ∈ (pValues.insertionSort (· ≤ ·)).take
        ((pValues.insertionSort (· ≤ ·)).countP fun value => decide (value ≤ bound)) :=
      mem_take_iff_getElem.mpr ⟨rank - 1, by omega, rfl⟩
    rw [← taken] at among
    exact of_decide_eq_true (mem_filter.mp among).2
  · intro within
    have all : ((pValues.insertionSort (· ≤ ·)).take rank).countP
        (fun value => decide (value ≤ bound)) = rank := by
      rw [countP_eq_length.mpr, length_take]
      · omega
      intro value mem
      obtain ⟨position, early, rfl⟩ := mem_take_iff_getElem.mp mem
      apply decide_eq_true (le_trans _ within)
      rcases Nat.eq_or_lt_of_le (by omega : position ≤ rank - 1) with rfl | before
      · exact le_refl _
      · exact pairwise_iff_getElem.mp sorted _ _ _ _ before
    calc rank = _ := all.symm
      _ ≤ _ := (take_sublist rank _).countP_le

/-- A bound that enough p-values lie below. -/
def Admits (pValues : List ℚ) (rate bound : ℚ) : Prop :=
  bound ≤ stepUpLine pValues.length rate (pValues.countP fun value => decide (value ≤ bound))

instance (pValues : List ℚ) (rate bound : ℚ) : Decidable (Admits pValues rate bound) :=
  inferInstanceAs (Decidable (_ ≤ _))

theorem Admits.mono (nonneg : 0 ≤ rate) (order : rate ≤ larger)
    (lowered : Forall₂ (· ≤ ·) others pValues) (admits : Admits pValues rate bound) :
    Admits others larger bound := by
  have counts : pValues.countP (fun value => decide (value ≤ bound)) ≤
      others.countP fun value => decide (value ≤ bound) := by
    clear admits
    induction lowered with
    | nil => exact le_refl _
    | cons le _ ih =>
      rw [countP_cons, countP_cons]
      apply Nat.add_le_add ih
      split
      · next within => rw [if_pos (decide_eq_true (le.trans (of_decide_eq_true within)))]
      · exact Nat.zero_le _
  rw [Admits, lowered.length_eq]
  exact le_trans admits (stepUpLine_mono counts nonneg order)

theorem exists_rank_of_admits (admits : Admits pValues rate bound)
    {value : ℚ} (mem : value ∈ pValues) (within : value ≤ bound) :
    ∃ rank ∈ ranksBelowLine pValues rate, value ≤ rankedPValue pValues rank := by
  obtain ⟨found, first, last, rfl⟩ := exists_rank mem
  have reached := (rank_le_countP_iff first last).mpr within
  generalize counted : pValues.countP (fun value => decide (value ≤ bound)) = count at reached
  have most : count ≤ pValues.length := counted ▸ countP_le_length
  refine ⟨count, ⟨by omega, most, ?_⟩, rankedPValue_mono reached most⟩
  rw [Admits, counted] at admits
  exact ((rank_le_countP_iff (by omega) most).mp counted.ge).trans admits

theorem admits_of_rank (nonneg : 0 ≤ rate) (below : rank ∈ ranksBelowLine pValues rate) :
    Admits pValues rate (rankedPValue pValues rank) := by
  obtain ⟨first, last, line⟩ := below
  exact line.trans
    (stepUpLine_mono ((rank_le_countP_iff first last).mpr le_rfl) nonneg le_rfl)

theorem exists_greatest (below : rank ∈ ranksBelowLine pValues rate) :
    ∃ greatest, IsGreatest (ranksBelowLine pValues rate) greatest :=
  ⟨_, Nat.sSup_mem ⟨rank, below⟩ ⟨pValues.length, fun _ mem => mem.2.1⟩,
    fun _ mem => le_csSup ⟨pValues.length, fun _ mem => mem.2.1⟩ mem⟩

theorem length_of_discovered (found : index ∈ benjaminiHochbergDiscoveries pValues rate) :
    index < pValues.length := by
  rw [benjaminiHochbergDiscoveries, (perm_insertionSort _ _).mem_iff] at found
  exact mem_range.mp ((perm_insertionSort _ _).mem_iff.mp (mem_of_mem_take found))

theorem discoveries_sorted : (benjaminiHochbergDiscoveries pValues rate).Pairwise (· < ·) := by
  have sorted : (benjaminiHochbergDiscoveries pValues rate).Pairwise (· ≤ ·) :=
    pairwise_insertionSort (· ≤ ·) _
  have apart : (benjaminiHochbergDiscoveries pValues rate).Nodup := by
    rw [benjaminiHochbergDiscoveries, (perm_insertionSort _ _).nodup_iff]
    exact (take_sublist _ _).nodup
      ((perm_insertionSort _ _).nodup_iff.mpr nodup_range)
  exact (sorted.and apart).imp fun order => lt_of_le_of_ne order.1 order.2

theorem mem_discoveries_iff_admits (nonneg : 0 ≤ rate) :
    index ∈ benjaminiHochbergDiscoveries pValues rate ↔
      index < pValues.length ∧ ∃ bound, pValues.getD index 0 ≤ bound ∧
        Admits pValues rate bound := by
  constructor
  · intro found
    have inside := length_of_discovered found
    rw [mem_discoveries_iff nonneg inside, discovered, any_eq_true] at found
    obtain ⟨bound, -, accepted⟩ := found
    obtain ⟨within, admits⟩ := Bool.and_eq_true_iff.mp accepted
    exact ⟨inside, bound, of_decide_eq_true within, of_decide_eq_true admits⟩
  · rintro ⟨inside, bound, within, admits⟩
    have mem : pValues.getD index 0 ∈ pValues := by
      rw [getD_eq_getElem _ _ inside]
      exact getElem_mem inside
    obtain ⟨rank, below, reached⟩ := exists_rank_of_admits admits mem within
    rw [mem_discoveries_iff nonneg inside, discovered, any_eq_true]
    exact ⟨rankedPValue pValues rank, rankedPValue_mem below.1 below.2.1,
      Bool.and_eq_true_iff.mpr ⟨decide_eq_true reached,
        decide_eq_true (admits_of_rank nonneg below)⟩⟩

theorem mem_discoveries_iff_greatest (nonneg : 0 ≤ rate) :
    index ∈ benjaminiHochbergDiscoveries pValues rate ↔ index < pValues.length ∧
      ∃ rank, IsGreatest (ranksBelowLine pValues rate) rank ∧
        pValues.getD index 0 ≤ rankedPValue pValues rank := by
  rw [mem_discoveries_iff_admits nonneg]
  apply and_congr_right
  intro inside
  constructor
  · rintro ⟨bound, within, admits⟩
    have mem : pValues.getD index 0 ∈ pValues := by
      rw [getD_eq_getElem _ _ inside]
      exact getElem_mem inside
    obtain ⟨rank, below, reached⟩ := exists_rank_of_admits admits mem within
    obtain ⟨greatest, isGreatest⟩ := exists_greatest below
    exact ⟨greatest, isGreatest,
      reached.trans (rankedPValue_mono (isGreatest.2 below) isGreatest.1.2.1)⟩
  · rintro ⟨rank, isGreatest, reached⟩
    exact ⟨_, reached, admits_of_rank nonneg isGreatest.1⟩

def reordered (pValues : List ℚ) (order : Equiv.Perm (Fin pValues.length)) : List ℚ :=
  ofFn fun index => pValues[order index]

theorem mem_discoveries_reordered (nonneg : 0 ≤ rate)
    (order : Equiv.Perm (Fin pValues.length)) (index : Fin pValues.length) :
    index.val ∈ benjaminiHochbergDiscoveries (reordered pValues order) rate ↔
      (order index).val ∈ benjaminiHochbergDiscoveries pValues rate := by
  have perm : (reordered pValues order).Perm pValues := by
    have carried := Equiv.Perm.ofFn_comp_perm order fun index => pValues[index]
    have whole : (ofFn fun index : Fin pValues.length => pValues[index]) = pValues :=
      ofFn_getElem
    rw [whole] at carried
    exact carried
  have length : (reordered pValues order).length = pValues.length := perm.length_eq
  have value : (reordered pValues order).getD index.val 0 =
      pValues.getD (order index).val 0 := by
    rw [getD_eq_getElem _ _ (by omega), getD_eq_getElem _ _ (order index).isLt]
    simp [reordered]
  have admits (bound : ℚ) : Admits (reordered pValues order) rate bound ↔
      Admits pValues rate bound := by
    rw [Admits, Admits, perm.countP_eq, length]
  simp only [mem_discoveries_iff_admits nonneg, value, admits, length, index.isLt,
    (order index).isLt]

theorem mem_discoveries_mono (nonneg : 0 ≤ rate) (order : rate ≤ larger)
    (lowered : Forall₂ (· ≤ ·) others pValues)
    (found : index ∈ benjaminiHochbergDiscoveries pValues rate) :
    index ∈ benjaminiHochbergDiscoveries others larger := by
  rw [mem_discoveries_iff_admits nonneg] at found
  obtain ⟨inside, bound, within, admits⟩ := found
  rw [mem_discoveries_iff_admits (nonneg.trans order)]
  have length := lowered.length_eq
  refine ⟨by omega, bound, ?_, admits.mono nonneg order lowered⟩
  rw [getD_eq_getElem _ _ inside] at within
  rw [getD_eq_getElem _ _ (by omega)]
  exact (lowered.get (by omega) inside).trans within

/-- What the procedure accepts at a rate it takes: the p-values up to the last one below the
computed line, in any order of the p-values, and more for smaller ones. -/
theorem benjaminiHochberg_discovers (pValues : List ℚ) {rate : ℚ} (pos : 0 < rate)
    (within : rate ≤ 1) :
    ∃ accepted, checkedDiscoveries pValues rate = .ok accepted ∧ accepted.Pairwise (· < ·) ∧
      (∀ index, index ∈ accepted ↔ index < pValues.length ∧
        ∃ rank, IsGreatest (ranksBelowLine pValues rate) rank ∧
          pValues.getD index 0 ≤ rankedPValue pValues rank) ∧
      (∀ first second, first < pValues.length → second < pValues.length →
        pValues.getD first 0 = pValues.getD second 0 → (first ∈ accepted ↔ second ∈ accepted)) ∧
      (∀ order : Equiv.Perm (Fin pValues.length), ∃ carried,
        checkedDiscoveries (reordered pValues order) rate = .ok carried ∧
        ∀ index : Fin pValues.length, index.val ∈ carried ↔ (order index).val ∈ accepted) ∧
      ∀ others larger, Forall₂ (· ≤ ·) others pValues → rate ≤ larger → larger ≤ 1 →
        ∃ more, checkedDiscoveries others larger = .ok more ∧ accepted ⊆ more := by
  have checked (values : List ℚ) {rate : ℚ} (pos : 0 < rate) (within : rate ≤ 1) :
      checkedDiscoveries values rate = .ok (benjaminiHochbergDiscoveries values rate) :=
    if_pos ⟨pos, within⟩
  have greatest (index : Nat) := @mem_discoveries_iff_greatest pValues rate index pos.le
  refine ⟨_, checked pValues pos within, discoveries_sorted, greatest, ?_, ?_, ?_⟩
  · intro first second firstInside secondInside tied
    rw [greatest, greatest, tied]
    simp only [firstInside, secondInside]
  · intro order
    exact ⟨_, checked _ pos within, mem_discoveries_reordered pos.le order⟩
  · intro others larger lowered order most
    exact ⟨_, checked others (pos.trans_le order) most,
      fun _ => mem_discoveries_mono pos.le order lowered⟩

/-- Three p-values, two of them tied below the line. -/
theorem benjaminiHochberg_discovers_tied :
    ∃ accepted, checkedDiscoveries [1 / 50, 9 / 10, 1 / 50] (1 / 10) = .ok accepted ∧
      (0 ∈ accepted ↔ 2 ∈ accepted) := by
  obtain ⟨accepted, found, -, -, tied, -, -⟩ := @benjaminiHochberg_discovers
    [1 / 50, 9 / 10, 1 / 50] (1 / 10) (by decide +kernel) (by decide +kernel)
  exact ⟨accepted, found, tied 0 2 (by simp) (by simp) rfl⟩

/-- Seven of ten p-values lie on the exact line of their rank.  The quotient 7 / 10 is rounded
down, the computed line lies below them, and nothing is accepted. -/
theorem exact_line_refused :
    checkedDiscoveries (replicate 7 (63 / 128) ++ replicate 3 1) (45 / 64) = .ok [] ∧
      IsGreatest (ranksBelowExactLine (replicate 7 (63 / 128) ++ replicate 3 1) (45 / 64)) 7 := by
  refine ⟨by decide +kernel, ⟨by decide, by decide, by decide +kernel⟩, ?_⟩
  rintro rank ⟨-, last, below⟩
  by_contra later
  have refused : ∀ rank ≤ 10, 7 < rank → ¬ rankedPValue (replicate 7 (63 / 128) ++ replicate 3 1)
      rank ≤ (rank : ℚ) / 10 * (45 / 64) := by decide +kernel
  exact refused rank last (not_le.mp later) below

end Qts
