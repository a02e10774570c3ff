import Qts.MultiplicityOrder

/-! # The estimate of overfitting and the order of candidates -/

namespace Qts

open List

variable (functions : ProbabilityFunctions)

def rowBlocks (rowCount blockCount : Nat) : List (List Nat) :=
  cutBlocks (blockSizes rowCount blockCount) (List.range rowCount)

def meanReturn (rows : List Nat) (returns : List ℚ) : ℚ :=
  let total := (rows.map fun row => returns.getD row 0).sum
  if rows.length = 0 then total else total / (rows.length : ℚ)

def trainRows (rowCount blockCount : Nat) (train : List Nat) : List Nat :=
  selectedRows (rowBlocks rowCount blockCount) train

def testRows (rowCount blockCount : Nat) (train : List Nat) : List Nat :=
  selectedRows (rowBlocks rowCount blockCount)
    ((List.range blockCount).filter fun index => index ∉ train)

/-- A split whose best candidate in sample has no rival there and no equal out of sample. -/
def UntiedSplit (columns : List (List ℚ)) (train test : List Nat) : Prop :=
  ∃ best ∈ columns, ∀ other ∈ columns.erase best,
    meanReturn train other < meanReturn train best ∧
      meanReturn test other ≠ meanReturn test best

theorem cutBlocks_map {Row Other : Type} (change : Row → Other) (sizes : List Nat) (rows : List Row)
    : cutBlocks sizes (rows.map change) = (cutBlocks sizes rows).map (List.map change) := by
  induction sizes generalizing rows with
  | nil => rfl
  | cons size sizes ih => rw [cutBlocks, cutBlocks, map_cons, map_take, ← map_drop, ih]

theorem length_cutBlocks {Row : Type} (sizes : List Nat) (rows : List Row) :
    (cutBlocks sizes rows).length = sizes.length := by
  induction sizes generalizing rows with
  | nil => rfl
  | cons size sizes ih => rw [cutBlocks, length_cons, ih, length_cons]

theorem selectedRows_map {Row Other : Type} (change : Row → Other) (blocks : List (List Row))
    (selected : List Nat) :
    selectedRows (blocks.map (List.map change)) selected =
      (selectedRows blocks selected).map change := by
  rw [selectedRows, selectedRows, map_flatMap]
  congr 1
  funext index
  simp only [getD_eq_getElem?_getD, getElem?_map]
  cases blocks[index]? <;> rfl

def rowOf (columns : List (List ℚ)) (row : Nat) : List ℚ :=
  columns.map fun returns => returns.getD row 0

theorem blockMeans_eq (columns : List (List ℚ)) (blocks : List (List Nat)) (selected : List Nat) :
    blockMeans (blocks.map (List.map (rowOf columns))) selected columns.length =
      columns.map (meanReturn (selectedRows blocks selected)) := by
  rw [blockMeans, selectedRows_map]
  apply ext_getElem
  · simp
  · intro config _ inside
    rw [length_map] at inside
    simp [meanReturn, rowOf, Function.comp_def, inside]

theorem bestConfig_spec {values : List ℚ} (nonempty : values ≠ []) :
    ∃ inside : bestConfig values < values.length,
      ∀ value ∈ values, value ≤ values[bestConfig values] := by
  have pos : 0 < values.length := length_pos_iff.mpr nonempty
  cases found : (List.range values.length).argmax fun config => values.getD config 0 with
  | none =>
    rw [argmax_eq_none, range_eq_nil] at found
    omega
  | some config =>
    have best : bestConfig values = config := by rw [bestConfig, found, Option.getD_some]
    have inside := mem_range.mp (argmax_mem found)
    rw [best]
    refine ⟨inside, fun value mem => ?_⟩
    obtain ⟨index, short, rfl⟩ := getElem_of_mem mem
    have most := le_of_mem_argmax (mem_range.mpr short) found
    rwa [getD_eq_getElem _ _ short, getD_eq_getElem _ _ inside] at most

theorem relativeRank_of_alone {outSample : List ℚ} {config : Nat}
    (inside : config < outSample.length)
    (alone : ∀ other, (short : other < outSample.length) →
      outSample[other] = outSample[config] → other = config) :
    relativeRank outSample config =
      ((outSample.countP fun value => decide (value < outSample[config]) : ℚ) + 1) /
        ((outSample.length : ℚ) + 1) := by
  have rank : ((List.range outSample.length).insertionSort fun first second =>
      outSample.getD first 0 ≤ outSample.getD second 0).idxOf config =
        (List.range outSample.length).countP fun other =>
          decide (outSample.getD other 0 < outSample.getD config 0) := by
    apply StableSorting.idxOf_insertionSort (fun index : Nat => outSample.getD index 0)
      (fun _ _ => Iff.rfl) (mem_range.mpr inside)
    intro other mem equal
    have short := mem_range.mp mem
    rw [getD_eq_getElem _ _ short, getD_eq_getElem _ _ inside] at equal
    exact alone other short equal
  rw [relativeRank, rank, getD_eq_getElem _ _ inside]
  congr 3
  generalize outSample[config] = value
  conv_rhs => rw [← map_getD_range outSample]
  rw [countP_map]
  rfl

variable {rowCount blockCount : Nat}

theorem splitLogit_of_untied {columns : List (List ℚ)} {train : List Nat} {best : List ℚ}
    (mem : best ∈ columns)
    (apart : ∀ other ∈ columns.erase best, meanReturn (trainRows rowCount blockCount train) other <
          meanReturn (trainRows rowCount blockCount train) best ∧
        meanReturn (testRows rowCount blockCount train) other ≠
          meanReturn (testRows rowCount blockCount train) best) :
    splitLogit functions ((rowBlocks rowCount blockCount).map (List.map (rowOf columns)))
        columns.length train =
      logit functions (((columns.countP fun other =>
          decide (meanReturn (testRows rowCount blockCount train) other <
            meanReturn (testRows rowCount blockCount train) best) : ℚ) + 1) /
        ((columns.length : ℚ) + 1)) := by
  have blocks : (rowBlocks rowCount blockCount).length = blockCount := by
    rw [rowBlocks, length_cutBlocks, blockSizes, length_map, length_range]
  rw [splitLogit, length_map, blocks, blockMeans_eq, blockMeans_eq]
  change logit functions (relativeRank
    (columns.map (meanReturn (testRows rowCount blockCount train)))
    (bestConfig (columns.map (meanReturn (trainRows rowCount blockCount train))))) = _
  generalize meanReturn (trainRows rowCount blockCount train) = inSample at apart ⊢
  generalize meanReturn (testRows rowCount blockCount train) = outSample at apart ⊢
  have nonempty : columns.map inSample ≠ [] := by
    rw [Ne, map_eq_nil_iff]
    exact ne_nil_of_mem mem
  obtain ⟨inside, most⟩ := bestConfig_spec nonempty
  generalize bestConfig (columns.map inSample) = config at inside most ⊢
  rw [length_map] at inside
  -- The first of the greatest values is that of the best candidate, which has no rival.
  have chosen : columns[config] = best := by
    by_contra other
    have rival := (mem_erase_of_ne other).mpr (getElem_mem inside)
    have greatest := most (inSample best) (mem_map_of_mem mem)
    rw [getElem_map] at greatest
    exact absurd (apart _ rival).1 (not_lt.mpr greatest)
  have rivals : (columns.erase best).Perm (columns.eraseIdx config) := by
    apply List.Perm.cons_inv
    apply (perm_cons_erase mem).symm.trans
    rw [← chosen]
    exact (getElem_cons_eraseIdx_perm inside).symm
  have short : config < (columns.map outSample).length := by rwa [length_map]
  rw [relativeRank_of_alone short]
  · rw [getElem_map, chosen, countP_map, length_map]
    rfl
  · intro other limit equal
    by_contra differs
    rw [length_map] at limit
    rw [getElem_map, getElem_map, chosen] at equal
    apply (apart columns[other] (rivals.mem_iff.mpr ?_)).2 equal
    exact mem_eraseIdx_iff_getElem.mpr ⟨other, limit, differs, rfl⟩

theorem splitLogit_perm {columns others : List (List ℚ)} {train : List Nat}
    (untied : UntiedSplit columns (trainRows rowCount blockCount train)
      (testRows rowCount blockCount train)) (same : columns.Perm others) :
    splitLogit functions ((rowBlocks rowCount blockCount).map (List.map (rowOf columns)))
        columns.length train =
      splitLogit functions ((rowBlocks rowCount blockCount).map (List.map (rowOf others)))
        others.length train := by
  obtain ⟨best, mem, apart⟩ := untied
  rw [splitLogit_of_untied functions mem apart,
    splitLogit_of_untied functions (same.mem_iff.mp mem) fun other inside =>
      apart other ((same.erase best).mem_iff.mpr inside), same.length_eq, same.countP_eq]

def commonRows (columns : List (List ℚ)) : Nat :=
  (columns.map List.length).foldl min ((columns.map List.length).headD 0)

theorem foldl_min_spec (lengths : List Nat) (start : Nat) :
    (lengths.foldl min start = start ∨ lengths.foldl min start ∈ lengths) ∧
      lengths.foldl min start ≤ start ∧ ∀ length ∈ lengths, lengths.foldl min start ≤ length := by
  induction lengths generalizing start with
  | nil => exact ⟨.inl rfl, le_refl start, nofun⟩
  | cons first rest ih =>
    obtain ⟨found, least, all⟩ := ih (min start first)
    rw [foldl_cons]
    refine ⟨?_, by omega, ?_⟩
    · rcases found with same | mem
      · rw [same]
        rcases Nat.le_total start first with less | less
        · exact .inl (Nat.min_eq_left less)
        · rw [Nat.min_eq_right less]
          exact .inr mem_cons_self
      · exact .inr (mem_cons_of_mem first mem)
    · intro length mem
      rcases mem_cons.mp mem with rfl | mem
      · omega
      · exact all length mem

theorem commonRows_perm {columns others : List (List ℚ)} (same : columns.Perm others) :
    commonRows columns = commonRows others := by
  have lengths := same.map List.length
  rw [commonRows, commonRows]
  generalize columns.map List.length = left at lengths ⊢
  generalize others.map List.length = right at lengths ⊢
  have least {some : List Nat} (nonempty : some ≠ []) : some.foldl min (some.headD 0) ∈ some := by
    obtain ⟨first, rest, rfl⟩ := exists_cons_of_ne_nil nonempty
    rcases (foldl_min_spec (first :: rest) first).1 with same | mem
    · rw [headD_cons, same]
      exact mem_cons_self
    · exact mem
  by_cases empty : left = []
  · rw [empty] at lengths ⊢
    rw [nil_perm.mp lengths]
  · have other : right ≠ [] := fun none => empty (perm_nil.mp (none ▸ lengths))
    apply le_antisymm
    · exact (foldl_min_spec left _).2.2 _ (lengths.mem_iff.mpr (least other))
    · exact (foldl_min_spec right _).2.2 _ (lengths.mem_iff.mp (least empty))

theorem overfitting_eq {columns : List (List ℚ)} (several : 2 ≤ columns.length)
    (enough : blockCount ≤ rowCount) :
    probabilityOfBacktestOverfitting functions ((List.range rowCount).map (rowOf columns))
        blockCount =
      if rowCount = 0 then .ok 0
      else if blockCount < 2 ∨ blockCount % 2 ≠ 0 then
        .error "block_count must be an even integer >= 2"
      else
        let logits := (combinations (blockCount / 2) (List.range blockCount)).map
          (splitLogit functions ((rowBlocks rowCount blockCount).map (List.map (rowOf columns)))
            columns.length)
        if logits.length = 0 then .ok 0
        else .ok ((logits.countP fun value => decide (value ≤ 0) : ℚ) / (logits.length : ℚ)) := by
  cases rowCount with
  | zero => rfl
  | succ rowCount =>
    rw [if_neg (Nat.succ_ne_zero rowCount)]
    have length (row : Nat) : (rowOf columns row).length = columns.length := by
      rw [rowOf, length_map]
    have even : ¬ (((List.range (rowCount + 1)).map (rowOf columns)).any fun row =>
        decide (row.length ≠ columns.length)) = true := by
      simp [length]
    have rows : evenBlocks ((List.range (rowCount + 1)).map (rowOf columns)) blockCount =
        .ok ((rowBlocks (rowCount + 1) blockCount).map (List.map (rowOf columns))) := by
      rw [evenBlocks, length_map, length_range, if_neg (by omega), cutBlocks_map]
      rfl
    have blocks : (rowBlocks (rowCount + 1) blockCount).length = blockCount := by
      rw [rowBlocks, length_cutBlocks, blockSizes, length_map, length_range]
    generalize whole : (List.range (rowCount + 1)).map (rowOf columns) = matrix at even rows ⊢
    rw [range_succ_eq_map, map_cons] at whole
    subst whole
    rw [probabilityOfBacktestOverfitting]
    dsimp only
    rw [length, if_neg (by omega), if_neg even]
    by_cases odd : blockCount < 2 ∨ blockCount % 2 ≠ 0
    · rw [if_pos odd, if_pos odd]
      rfl
    · rw [if_neg odd, if_neg odd, rows]
      dsimp only [bind, Except.bind]
      rw [length_map (List.map (rowOf columns)), blocks]
      split <;> rfl

namespace ResearchMultiplicityAdjustment

variable (adjustment : ResearchMultiplicityAdjustment)

def returnColumns (candidates : List CandidateStatistics) : List (List ℚ) :=
  (candidates.filter fun candidate => !candidate.oosReturns.isEmpty).map (·.oosReturns)

/-- Where overfitting is estimated at all, no split of the family's returns meets a tie. -/
def Untied (candidates : List CandidateStatistics) : Prop :=
  let columns := returnColumns candidates
  2 ≤ columns.length → adjustment.pboBlockCount ≤ commonRows columns →
  ∀ train ∈ combinations (adjustment.pboBlockCount / 2) (List.range adjustment.pboBlockCount),
    UntiedSplit columns (trainRows (commonRows columns) adjustment.pboBlockCount train)
      (testRows (commonRows columns) adjustment.pboBlockCount train)

instance (candidates : List CandidateStatistics) : Decidable (adjustment.Untied candidates) :=
  inferInstanceAs (Decidable (_ → _ → ∀ train ∈ _, ∃ best ∈ _, ∀ other ∈ List.erase _ best, _ ∧ _))

theorem pboOf_eq (candidates : List CandidateStatistics) :
    adjustment.pboOf functions candidates =
      if (returnColumns candidates).length < 2 then .ok 0
      else if commonRows (returnColumns candidates) < adjustment.pboBlockCount then .ok 0
      else probabilityOfBacktestOverfitting functions
        ((List.range (commonRows (returnColumns candidates))).map
          (rowOf (returnColumns candidates))) adjustment.pboBlockCount := by
  rw [returnColumns, length_map, commonRows, map_map]
  have matrix (row : Nat) : rowOf (returnColumns candidates) row =
      (candidates.filter fun candidate => !candidate.oosReturns.isEmpty).map fun candidate =>
        candidate.oosReturns.getD row 0 := map_map
  rw [← returnColumns, funext matrix]
  rfl

/-- A family without ties has one estimate for every order of its candidates. -/
theorem pboOf_perm {candidates others : List CandidateStatistics}
    (untied : adjustment.Untied candidates) (same : candidates.Perm others) :
    adjustment.pboOf functions others = adjustment.pboOf functions candidates := by
  have columns : (returnColumns candidates).Perm (returnColumns others) :=
    (same.filter _).map _
  rw [pboOf_eq, pboOf_eq, ← columns.length_eq, ← commonRows_perm columns]
  by_cases few : (returnColumns candidates).length < 2
  · rw [if_pos few, if_pos few]
  by_cases short : commonRows (returnColumns candidates) < adjustment.pboBlockCount
  · rw [if_neg few, if_neg few, if_pos short, if_pos short]
  rw [if_neg few, if_neg few, if_neg short, if_neg short,
    overfitting_eq functions (Nat.le_of_not_lt few) (Nat.le_of_not_lt short),
    overfitting_eq functions (columns.length_eq ▸ Nat.le_of_not_lt few) (Nat.le_of_not_lt short)]
  have logits : (combinations (adjustment.pboBlockCount / 2)
        (List.range adjustment.pboBlockCount)).map
      (splitLogit functions ((rowBlocks (commonRows (returnColumns candidates))
        adjustment.pboBlockCount).map (List.map (rowOf (returnColumns others))))
          (returnColumns others).length) =
      (combinations (adjustment.pboBlockCount / 2) (List.range adjustment.pboBlockCount)).map
      (splitLogit functions ((rowBlocks (commonRows (returnColumns candidates))
        adjustment.pboBlockCount).map (List.map (rowOf (returnColumns candidates))))
          (returnColumns candidates).length) :=
    map_congr_left fun train mem =>
      (splitLogit_perm functions (untied (Nat.le_of_not_lt few) (Nat.le_of_not_lt short) train mem)
        columns).symm
  rw [logits]

end ResearchMultiplicityAdjustment

end Qts
