import Mathlib.Algebra.BigOperators.Group.List.Lemmas
import Mathlib.Data.List.GetD
import Qts.MultiplicityAdjustment
import Qts.StableSorting

/-! # The correction and the order of candidates -/

namespace Qts

open StableSorting List Rounding

variable (functions : ProbabilityFunctions)

/-- Whether the step-up procedure accepts a p-value among others. -/
def discovered (pValues : List ℚ) (rate pValue : ℚ) : Bool :=
  pValues.any fun other => decide (pValue ≤ other) &&
    decide (other ≤ stepUpLine pValues.length rate
      (pValues.countP fun value => decide (value ≤ other)))

/-- The line rises with the rank and with the rate, rounded as it is. -/
theorem stepUpLine_mono {total rank later : Nat} {rate larger : ℚ} (ranks : rank ≤ later)
    (nonneg : 0 ≤ rate) (rates : rate ≤ larger) :
    stepUpLine total rate rank ≤ stepUpLine total larger later := by
  have cast : (rank : ℚ) ≤ later := by exact_mod_cast ranks
  have whole : (0 : ℚ) ≤ rank / total := div_nonneg (Nat.cast_nonneg _) (Nat.cast_nonneg _)
  have quotients := binary64_valid.roundTo_mono whole
    (div_le_div_of_nonneg_right cast (Nat.cast_nonneg total))
  have share := binary64_valid.roundTo_nonneg whole
  exact binary64_valid.roundTo_mono (mul_nonneg share nonneg)
    (mul_le_mul quotients rates nonneg (share.trans quotients))

theorem discovered_perm {pValues others : List ℚ} (same : pValues.Perm others)
    (rate pValue : ℚ) : discovered pValues rate pValue = discovered others rate pValue := by
  rw [Bool.eq_iff_iff]
  simp only [discovered, any_eq_true, same.mem_iff, same.length_eq, same.countP_eq]

theorem lastRank_spec {Item : Type} (passes : Item → Nat → Prop)
    [∀ item rank, Decidable (passes item rank)] (items : List Item) (start threshold : Nat)
    (below : threshold < start) :
    let last := (items.zipIdx start).foldl (fun threshold entry =>
      if passes entry.1 entry.2 then entry.2 else threshold) threshold
    threshold ≤ last ∧
    (∀ index item, items[index]? = some item → passes item (start + index) → start + index ≤ last) ∧
    (last = threshold ∨ ∃ index item, items[index]? = some item ∧ passes item (start + index) ∧
      last = start + index) := by
  induction items generalizing start threshold with
  | nil => exact ⟨le_refl _, nofun, .inl rfl⟩
  | cons item items ih =>
    rw [zipIdx_cons, foldl_cons]
    dsimp only
    have next := ih (start + 1) (if passes item start then start else threshold)
      (by split <;> omega)
    dsimp only at next ⊢
    obtain ⟨atLeast, later, found⟩ := next
    refine ⟨?_, ?_, ?_⟩
    · apply le_trans _ atLeast
      split <;> omega
    · intro index other mem passed
      cases index with
      | zero =>
        obtain rfl := Option.some.inj mem
        rw [Nat.add_zero] at passed ⊢
        rw [if_pos passed] at atLeast ⊢
        exact atLeast
      | succ index =>
        rw [← Nat.add_assoc, Nat.add_right_comm] at passed ⊢
        exact later index other mem passed
    · rcases found with same | ⟨index, other, mem, passed, same⟩
      · by_cases passed : passes item start
        · exact .inr ⟨0, item, rfl, passed, same.trans (if_pos passed)⟩
        · exact .inl (same.trans (if_neg passed))
      · rw [Nat.add_right_comm, Nat.add_assoc] at passed same
        exact .inr ⟨index + 1, other, mem, passed, same⟩

theorem map_getD_range (values : List ℚ) :
    (List.range values.length).map (fun index => values.getD index 0) = values := by
  apply ext_getElem
  · rw [length_map, length_range]
  · intro index _ inside
    simp [inside]

theorem take_ordered (pValues : List ℚ) (bound : ℚ) :
    ((List.range pValues.length).insertionSort fun first second =>
        pValues.getD first 0 ≤ pValues.getD second 0).take
      (pValues.countP fun value => decide (value ≤ bound)) =
    ((List.range pValues.length).insertionSort fun first second =>
        pValues.getD first 0 ≤ pValues.getD second 0).filter
      fun index => decide (pValues.getD index 0 ≤ bound) := by
  have sorted := pairwise_key (fun index : Nat => pValues.getD index 0)
    (fun _ _ => Iff.rfl) (List.range pValues.length)
  rw [filter_eq_take (sorted.imp fun le within => decide_eq_true
    (le.trans (of_decide_eq_true within))), (perm_insertionSort _ _).countP_eq]
  congr 1
  conv_lhs => rw [← map_getD_range pValues]
  rw [countP_map]
  rfl

theorem mem_discoveries_iff {pValues : List ℚ} {rate : ℚ} (nonneg : 0 ≤ rate) {index : Nat}
    (inside : index < pValues.length) :
    index ∈ benjaminiHochbergDiscoveries pValues rate ↔
      discovered pValues rate (pValues.getD index 0) = true := by
  rw [benjaminiHochbergDiscoveries, (perm_insertionSort _ _).mem_iff]
  have taken := take_ordered pValues
  have perm := perm_insertionSort (fun first second =>
    pValues.getD first 0 ≤ pValues.getD second 0) (List.range pValues.length)
  have sorted := pairwise_key (fun index : Nat => pValues.getD index 0)
    (fun _ _ => Iff.rfl) (List.range pValues.length)
  generalize ((List.range pValues.length).insertionSort fun first second =>
    pValues.getD first 0 ≤ pValues.getD second 0) = ordered at taken perm sorted ⊢
  obtain ⟨_, later, found⟩ := lastRank_spec (fun index rank =>
    pValues.getD index 0 ≤ stepUpLine pValues.length rate rank) ordered 1 0 (by omega)
  generalize (ordered.zipIdx 1).foldl _ 0 = last at later found ⊢
  have count (bound : ℚ) : ordered.countP (fun index => decide (pValues.getD index 0 ≤ bound)) =
      pValues.countP fun value => decide (value ≤ bound) := by
    rw [perm.countP_eq]
    conv_rhs => rw [← map_getD_range pValues]
    rw [countP_map]
    rfl
  rw [discovered, any_eq_true]
  constructor
  · intro accepted
    rcases found with rfl | ⟨position, item, located, passed, rfl⟩
    · exact absurd accepted (by simp)
    obtain ⟨short, rfl⟩ := List.getElem?_eq_some_iff.mp located
    have most : ∀ other ∈ ordered.take (1 + position),
        pValues.getD other 0 ≤ pValues.getD ordered[position] 0 := by
      intro other mem
      obtain ⟨earlier, bound, rfl⟩ := mem_take_iff_getElem.mp mem
      rcases Nat.lt_or_ge earlier position with before | same
      · exact pairwise_iff_getElem.mp sorted earlier position _ short before
      · obtain rfl : earlier = position := by omega
        exact le_refl _
    have many : 1 + position ≤ pValues.countP fun value =>
        decide (value ≤ pValues.getD ordered[position] 0) := by
      rw [← count]
      have all := countP_eq_length.mpr fun other mem =>
        decide_eq_true (most other mem)
      rw [length_take, Nat.min_eq_left (by omega)] at all
      rw [← all]
      exact (take_sublist _ _).countP_le
    have known : ordered[position] < pValues.length :=
      mem_range.mp (perm.mem_iff.mp (getElem_mem short))
    refine ⟨pValues.getD ordered[position] 0, ?_, Bool.and_eq_true_iff.mpr
      ⟨decide_eq_true (most index accepted), decide_eq_true (passed.trans ?_)⟩⟩
    · rw [getD_eq_getElem _ _ known]
      exact getElem_mem known
    · exact stepUpLine_mono many nonneg le_rfl
  · rintro ⟨bound, mem, passed⟩
    obtain ⟨le, within⟩ := Bool.and_eq_true_iff.mp passed
    have first := taken bound
    have some : 0 < pValues.countP fun value => decide (value ≤ bound) :=
      countP_pos_iff.mpr ⟨bound, mem, decide_eq_true (le_refl bound)⟩
    have most : (pValues.countP fun value => decide (value ≤ bound)) ≤ ordered.length := by
      rw [perm.length_eq, length_range]
      exact countP_le_length
    generalize (pValues.countP fun value => decide (value ≤ bound)) = reached
      at first some most within
    have short : reached - 1 < ordered.length := by omega
    have item : ordered[reached - 1] ∈ ordered.take reached :=
      mem_take_iff_getElem.mpr ⟨reached - 1, by omega, rfl⟩
    rw [first, mem_filter] at item
    have bounded := later (reached - 1) ordered[reached - 1] (getElem?_eq_getElem short)
    rw [Nat.add_sub_cancel' some] at bounded
    apply take_subset_take_left ordered
      (bounded ((of_decide_eq_true item.2).trans (of_decide_eq_true within)))
    rw [first, mem_filter]
    exact ⟨perm.mem_iff.mpr (mem_range.mpr inside), le⟩

namespace ResearchMultiplicityAdjustment

variable (adjustment : ResearchMultiplicityAdjustment)

theorem trialSharpeStd_perm {candidates others : List CandidateStatistics}
    (same : candidates.Perm others) :
    trialSharpeStd functions candidates = trialSharpeStd functions others := by
  have sharpes := same.map (·.observedSharpe)
  have squares (mean : ℚ) := (sharpes.map fun value => (value - mean) ^ 2).sum_eq
  simp only [trialSharpeStd, sharpes.length_eq, sharpes.sum_eq, squares]

def familyResult (pbo : ℚ) (candidates : List CandidateStatistics)
    (candidate : CandidateStatistics) : MultiplicityAdjustmentResult :=
  adjustment.resultOf functions (trialSharpeStd functions candidates) pbo candidate
    (discovered (candidates.map (selectionPValue functions)) adjustment.falseDiscoveryRate
      (selectionPValue functions candidate))

theorem familyResult_perm {candidates others : List CandidateStatistics}
    (same : candidates.Perm others) (pbo : ℚ) :
    adjustment.familyResult functions pbo candidates =
      adjustment.familyResult functions pbo others := by
  funext candidate
  rw [familyResult, familyResult, trialSharpeStd_perm functions same,
    discovered_perm (same.map (selectionPValue functions))]

theorem adjust_eq_ok_iff (nonneg : 0 ≤ adjustment.falseDiscoveryRate)
    {candidates : List CandidateStatistics} {results : List MultiplicityAdjustmentResult} :
    adjustment.adjust functions candidates = .ok results ↔
      ∃ pbo, adjustment.pboOf functions candidates = .ok pbo ∧
        results = candidates.map (adjustment.familyResult functions pbo candidates) := by
  cases candidates with
  | nil =>
    constructor
    · rintro ⟨⟩
      exact ⟨0, rfl, rfl⟩
    · rintro ⟨_, _, rfl⟩
      rfl
  | cons first rest =>
    generalize whole : first :: rest = candidates
    have nonempty : ¬ candidates.isEmpty = true := by simp [← whole]
    have mapped (pbo : ℚ) : (candidates.zipIdx.map fun entry =>
        adjustment.resultOf functions (trialSharpeStd functions candidates) pbo entry.1
          (decide (entry.2 ∈ benjaminiHochbergDiscoveries
            (candidates.map (selectionPValue functions)) adjustment.falseDiscoveryRate))) =
        candidates.map (adjustment.familyResult functions pbo candidates) := by
      apply ext_getElem
      · simp
      · intro index _ _
        have inside : index < (candidates.map (selectionPValue functions)).length := by
          simpa using ‹index < (candidates.map _).length›
        have accepted := mem_discoveries_iff nonneg inside
        rw [getD_eq_getElem _ _ inside, getElem_map] at accepted
        simp only [getElem_map, getElem_zipIdx, Nat.zero_add, familyResult, accepted,
          Bool.decide_eq_true]
    rw [adjust, if_neg nonempty]
    cases adjustment.pboOf functions candidates with
    | error failure =>
      constructor
      · rintro ⟨⟩
      · rintro ⟨_, ⟨⟩, _⟩
    | ok pbo =>
      constructor
      · rintro ⟨⟩
        exact ⟨pbo, rfl, mapped pbo⟩
      · rintro ⟨_, ⟨⟩, rfl⟩
        exact congrArg Except.ok (mapped pbo)

end ResearchMultiplicityAdjustment

end Qts
