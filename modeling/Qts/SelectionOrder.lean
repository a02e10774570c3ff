import Qts.OverfittingOrder
import Qts.SelectionEvidence
import Mathlib.Data.Prod.Lex

/-! # Selection and the order of candidates -/

namespace Qts

open EvidenceValue Dict StableSorting List Except ValidationGauntlet

variable (texts : NumberTexts) (functions : ProbabilityFunctions)

def rational : FloatValue → Except String ℚ
  | .finite value => .ok value
  | _ => .error "not a finite number"

def rationalNumber (value : Option EvidenceValue) : Except String (Option ℚ) := do
  let number ← number texts value
  match number with
  | none => return none
  | some metric => do
    let value ← rational metric
    return some value

namespace SelectionPolicy

variable (policy : SelectionPolicy)

def metricRational (metrics : Evidence) (path : String) : Except String (Option ℚ) :=
  rationalNumber texts (metricValue metrics path)

def rationalWeights : Except String (List (String × ℚ)) :=
  policy.compositeWeights.mapM fun weight => do
    let value ← rational weight.2
    return (weight.1, value)

/-- Return deterministic risk-adjusted score used for survivor ranking. -/
def compositeScore (metrics : Evidence) : Except String ℚ := do
  let weights ← policy.rationalWeights
  let totalReturn ← metricRational texts metrics policy.totalReturnMetric
  let oosSharpe ← metricRational texts metrics policy.oosSharpeMetric
  let drawdown ← metricRational texts metrics policy.maxDrawdownMetric
  let costSensitivity ← metricRational texts metrics policy.costSensitivityMetric
  return (weights.lookup "total_return").getD 0 * totalReturn.getD 0 +
    (weights.lookup "oos_sharpe").getD 0 * oosSharpe.getD 0 -
    (weights.lookup "max_drawdown").getD 0 * |drawdown.getD 0| -
    (weights.lookup "cost_sensitivity").getD 0 * costSensitivity.getD 0

def oosReturn : EvidenceValue → Except String (Option ℚ)
  | .int value => rationalNumber texts (some (.int value))
  | .float value => rationalNumber texts (some (.float value))
  | _ => .ok none

def oosReturns (metrics : Evidence) : Except String (List ℚ) := do
  let items ← ((sequence (metricValue metrics policy.oosReturnsMetric)).getD []).mapM
    (oosReturn texts)
  return items.filterMap id

def metricOr (metrics : Evidence) (path other : String) : Except String ℚ := do
  let value ← metricRational texts metrics path
  match value with
  | some value => return value
  | none => do
    let value ← metricRational texts metrics other
    return value.getD 0

/-- Return the statistical inputs the multiplicity adjustment consumes. -/
def candidateStatistics (candidateId : String) (metrics : Evidence) :
    Except String CandidateStatistics := do
  let observedSharpe ← metricOr texts metrics policy.observedSharpeMetric policy.oosSharpeMetric
  let sampleSize ← metricOr texts metrics policy.sampleSizeMetric policy.oosTradeCountMetric
  let skewness ← metricRational texts metrics policy.skewnessMetric
  let kurtosis ← metricRational texts metrics policy.kurtosisMetric
  let rawScore ← policy.compositeScore texts metrics
  let oosReturns ← policy.oosReturns texts metrics
  return {
    candidateId, rawScore, observedSharpe, oosReturns
    sampleSize := max (Int.tdiv sampleSize.num sampleSize.den) 0
    skewness := skewness.getD 0
    kurtosis := kurtosis.getD 3 }

end SelectionPolicy

namespace MultiplicityAdjustmentResult

def toPayload (result : MultiplicityAdjustmentResult) : Evidence :=
  [("adjusted_score", .float (.finite result.adjustedScore)),
    ("candidate_id", .string result.candidateId),
    ("deflated_sharpe_ratio", .float (.finite result.deflatedSharpeRatio)),
    ("expected_maximum_sharpe", .float (.finite result.expectedMaximumSharpe)),
    ("fdr_significant", .bool result.fdrSignificant),
    ("kurtosis", .float (.finite result.kurtosis)),
    ("observed_sharpe", .float (.finite result.observedSharpe)),
    ("probabilistic_sharpe_ratio", .float (.finite result.probabilisticSharpeRatio)),
    ("probability_of_backtest_overfitting",
      .float (.finite result.probabilityOfBacktestOverfitting)),
    ("raw_score", .float (.finite result.rawScore)),
    ("sample_size", .int result.sampleSize),
    ("skewness", .float (.finite result.skewness)),
    ("trial_count", .int result.trialCount),
    ("trial_sharpe_std", .float (.finite result.trialSharpeStd))]

/-- The correction that the selector takes from a result. -/
def scoreAdjustment (result : MultiplicityAdjustmentResult) : ScoreAdjustment ℚ where
  rawScore := result.rawScore
  adjustedScore := result.adjustedScore
  payload := result.toPayload

end MultiplicityAdjustmentResult

namespace RationalScoring

variable (policy : SelectionPolicy)

def statistics (survivors : List (SelectedCandidate ℚ)) :
    Except String (List CandidateStatistics) :=
  survivors.mapM fun survivor =>
    policy.candidateStatistics texts survivor.candidateId survivor.metrics

/-- The correction that the selector applies to a family. -/
def adjustmentOf (trialCount : Int) : Except String ResearchMultiplicityAdjustment := do
  let falseDiscoveryRate ← rational policy.falseDiscoveryRate
  let compositeWeights ← policy.rationalWeights
  return { trialCount, falseDiscoveryRate, compositeWeights }

def adjustments (trialCount : Int) (survivors : List (SelectedCandidate ℚ)) :
    Except String (List (String × ScoreAdjustment ℚ)) := do
  let statistics ← statistics texts policy survivors
  let adjustment ← adjustmentOf policy trialCount
  let results ← adjustment.adjust functions statistics
  return results.map fun result => (result.candidateId, result.scoreAdjustment)

def rankKey (survivor : SelectedCandidate ℚ) : ℚ ×ₗ String :=
  toLex (-survivor.adjustedScore, survivor.candidateId)

end RationalScoring

open RationalScoring in
def rationalScoring : SelectorScoring ℚ where
  compositeScore policy metrics := policy.compositeScore texts metrics
  adjustments policy := adjustments texts functions policy
  ranked survivors := survivors.insertionSort fun first second => rankKey first ≤ rankKey second
  ranked_perm survivors := perm_insertionSort _ survivors

section Rearranged

variable {Source Target Failure : Type} {read : Source → Except Failure Target}

theorem mapM_of_perm {sources others : List Source} {targets : List Target}
    (reads : sources.mapM read = .ok targets) (same : sources.Perm others) :
    ∃ results, others.mapM read = .ok results ∧ targets.Perm results := by
  obtain ⟨results, related, perm⟩ := perm_comp_forall₂ same.symm (mapM_eq_ok_iff.mp reads)
  exact ⟨results, mapM_eq_ok_iff.mpr related, perm.symm⟩

theorem perm_left_right {Left Right : Type} (outcomes : List (Left ⊕ Right)) :
    outcomes.Perm ((outcomes.filterMap Sum.getLeft?).map .inl ++
      (outcomes.filterMap Sum.getRight?).map .inr) := by
  induction outcomes with
  | nil => rfl
  | cons outcome outcomes ih =>
    cases outcome with
    | inl left => exact ih.cons (.inl left)
    | inr right => exact (ih.cons (.inr right)).trans perm_middle.symm

end Rearranged

namespace CandidateSelector

open SelectionPolicy RationalScoring

variable {Score : Type} {texts : NumberTexts} {scoring : SelectorScoring Score}
  {functions : ProbabilityFunctions} {policy : SelectionPolicy}
  {metricsSchema : Option ResearchMetricsSchema} {trialCount : Int} {multiplicityScope : String}

/-- Each candidate is in exactly one of the selected and the rejected ones. -/
def Divides (candidates : List Evidence) (result : SelectionResult Score) : Prop :=
  ((result.selectedCandidates.map (·.candidateId) ++
    result.rejectedCandidates.map (·.candidateId)).map ok).Perm
      (candidates.map candidateId)

structure Ranked (result : SelectionResult ℚ) : Prop where
  ranks : result.selectedCandidates.map (·.selectedRank) =
    range' 1 result.selectedCandidates.length
  ordered : result.selectedCandidates.Pairwise fun first second =>
    second.adjustedScore < first.adjustedScore ∨
      first.adjustedScore = second.adjustedScore ∧ first.candidateId < second.candidateId

def familyOf (texts : NumberTexts) (functions : ProbabilityFunctions) (policy : SelectionPolicy)
    (metricsSchema : Option ResearchMetricsSchema) (trialCount : Int)
    (candidates : List Evidence) :
    Except String (ResearchMultiplicityAdjustment × List CandidateStatistics) := do
  let screened ← candidates.mapM
    (screen texts (rationalScoring texts functions) policy metricsSchema)
  let statistics ← statistics texts policy (screened.filterMap Sum.getRight?)
  let adjustment ← adjustmentOf policy trialCount
  return (adjustment, statistics)

/-- No train/test split of the family meets a tie. -/
def Untied (texts : NumberTexts) (functions : ProbabilityFunctions) (policy : SelectionPolicy)
    (metricsSchema : Option ResearchMetricsSchema) (trialCount : Int)
    (candidates : List Evidence) : Prop :=
  ∀ family, familyOf texts functions policy metricsSchema trialCount candidates = .ok family →
    family.1.Untied family.2

variable {candidates : List Evidence}

def outcomeId : RejectedCandidate ⊕ SelectedCandidate Score → String
  | .inl rejected => rejected.candidateId
  | .inr survivor => survivor.candidateId

theorem screen_id {candidate : Evidence}
    {outcome : RejectedCandidate ⊕ SelectedCandidate Score}
    (screened : screen texts scoring policy metricsSchema candidate = .ok outcome) :
    candidateId candidate = .ok (outcomeId outcome) := by
  obtain ⟨candidateId, found, screened⟩ := bind_inv screened
  obtain ⟨metrics, _, screened⟩ := bind_inv screened
  obtain ⟨evidence, _, screened⟩ := bind_inv screened
  obtain ⟨reasons, _, screened⟩ := bind_inv screened
  rw [found]
  by_cases none : reasons = []
  · rw [if_neg (not_not_intro none)] at screened
    obtain ⟨score, _, screened⟩ := bind_inv screened
    obtain rfl := ok.inj screened
    rfl
  · rw [if_pos none] at screened
    obtain rfl := ok.inj screened
    rfl

variable {screened : List (RejectedCandidate ⊕ SelectedCandidate Score)}

theorem screened_ids
    (screens : candidates.mapM (screen texts scoring policy metricsSchema) = .ok screened) :
    (screened.map outcomeId).map ok = candidates.map candidateId := by
  rw [mapM_eq_ok_iff] at screens
  induction screens with
  | nil => rfl
  | cons screens _ ih => rw [map_cons, map_cons, map_cons, ih, screen_id screens]

theorem withAdjustment_id (adjustments : List (String × ScoreAdjustment Score))
    (survivor : SelectedCandidate Score) :
    (withAdjustment adjustments survivor).candidateId = survivor.candidateId := by
  rw [withAdjustment]
  split <;> rfl

theorem split_ids (maxSelected : Nat) (ranked : List (SelectedCandidate Score)) :
    (split maxSelected ranked).1.map (·.candidateId) ++
        (split maxSelected ranked).2.map (·.candidateId) = ranked.map (·.candidateId) := by
  have ids (start : Nat) (survivors : List (SelectedCandidate Score)) :
      (survivors.zipIdx start).map (fun entry => entry.1.candidateId) =
        survivors.map (·.candidateId) := by
    have first := congrArg (List.map (·.candidateId)) (zipIdx_map_fst start survivors)
    rwa [map_map] at first
  rw [split, map_map, map_map]
  exact (congrArg₂ _ (ids 1 _) (ids _ _)).trans
    (by rw [← map_append, take_append_drop])

def decided (scoring : SelectorScoring Score) (policy : SelectionPolicy) (trialCount : Int)
    (multiplicityScope : String) (screened : List (RejectedCandidate ⊕ SelectedCandidate Score))
    (adjustments : List (String × ScoreAdjustment Score)) : SelectionResult Score :=
  let ranked := scoring.ranked
    ((screened.filterMap Sum.getRight?).map (withAdjustment adjustments))
  let parts := split (policy.maxSelected.getD ranked.length) ranked
  { selectedCandidates := parts.1
    rejectedCandidates := (screened.filterMap Sum.getLeft? ++ parts.2).insertionSort
      fun first second => first.candidateId ≤ second.candidateId
    policy, trialCount, multiplicityScope
    falseDiscoveryRate := policy.falseDiscoveryRate }

theorem select_eq_ok_iff {result : SelectionResult Score} :
    select texts scoring policy metricsSchema trialCount multiplicityScope candidates =
        .ok result ↔
      (1 ≤ trialCount ∧ multiplicityScope ∈ multiplicityScopes) ∧
      ∃ screened adjustments,
        candidates.mapM (screen texts scoring policy metricsSchema) = .ok screened ∧
        CandidateSelector.adjustments scoring policy trialCount
          (screened.filterMap Sum.getRight?) = .ok adjustments ∧
        result = decided scoring policy trialCount multiplicityScope screened adjustments := by
  constructor
  · intro selected
    rw [select] at selected
    split at selected
    · cases selected
    next pos =>
    split at selected
    · cases selected
    next known =>
    obtain ⟨screened, screens, selected⟩ := bind_inv selected
    obtain ⟨adjustments, adjusts, selected⟩ := bind_inv selected
    exact ⟨⟨not_lt.mp pos, not_not.mp known⟩, screened, adjustments, screens, adjusts,
      (Except.ok.inj selected).symm⟩
  · rintro ⟨⟨pos, known⟩, screened, adjustments, screens, adjusts, rfl⟩
    rw [select, if_neg (not_lt.mpr pos), if_neg (not_not.mpr known), screens]
    dsimp only [bind, Except.bind]
    rw [adjusts]
    rfl

theorem select_divides {result : SelectionResult Score}
    (selected : select texts scoring policy metricsSchema trialCount multiplicityScope candidates =
      .ok result) : Divides candidates result := by
  obtain ⟨_, screened, adjustments, screens, _, rfl⟩ := select_eq_ok_iff.mp selected
  rw [Divides, ← screened_ids screens]
  apply List.Perm.map
  rw [decided]
  dsimp only
  generalize ranks : scoring.ranked _ = ranked
  generalize policy.maxSelected.getD ranked.length = maxSelected
  have survivors : (ranked.map (·.candidateId)).Perm
      ((screened.filterMap Sum.getRight?).map (·.candidateId)) := by
    rw [← ranks]
    apply ((scoring.ranked_perm _).map _).trans
    rw [map_map]
    exact List.Perm.of_eq (map_congr_left fun survivor _ =>
      withAdjustment_id adjustments survivor)
  have rejected := (perm_insertionSort (fun first second : RejectedCandidate =>
    first.candidateId ≤ second.candidateId) (screened.filterMap Sum.getLeft? ++
      (split maxSelected ranked).2)).map (·.candidateId)
  have all := (perm_left_right screened).map outcomeId
  rw [map_append, map_map, map_map] at all
  rw [map_append] at rejected
  apply ((rejected.append_left _).trans _).trans all.symm
  apply (List.Perm.of_eq (append_assoc _ _ _).symm).trans
  apply ((perm_append_comm).append_right _).trans
  rw [append_assoc, split_ids]
  exact survivors.append_left _

theorem rankKey_lt_iff (first second : SelectedCandidate ℚ) :
    rankKey first < rankKey second ↔ second.adjustedScore < first.adjustedScore ∨
      first.adjustedScore = second.adjustedScore ∧ first.candidateId < second.candidateId := by
  rw [rankKey, rankKey, Prod.Lex.toLex_lt_toLex, neg_lt_neg_iff, neg_inj]

theorem split_rankKeys (maxSelected : Nat) (ranked : List (SelectedCandidate ℚ)) :
    (split maxSelected ranked).1.map rankKey = (ranked.take maxSelected).map rankKey := by
  rw [split, map_map]
  have first := congrArg (List.map rankKey) (zipIdx_map_fst 1 (ranked.take maxSelected))
  rwa [map_map] at first

variable {result : SelectionResult ℚ}

theorem select_ranked (distinct : (candidates.map candidateId).Nodup)
    (selected : select texts (rationalScoring texts functions) policy metricsSchema trialCount
      multiplicityScope candidates = .ok result) : Ranked result := by
  have divides := select_divides selected
  obtain ⟨_, screened, adjustments, _, _, rfl⟩ := select_eq_ok_iff.mp selected
  rw [Divides] at divides
  rw [decided] at divides ⊢
  dsimp only at divides ⊢
  generalize ranks : (rationalScoring texts functions).ranked _ = ranked at divides ⊢
  generalize policy.maxSelected.getD ranked.length = maxSelected at divides ⊢
  have sorted : ranked.Pairwise fun first second => rankKey first ≤ rankKey second := by
    rw [← ranks]
    exact pairwise_key rankKey (fun _ _ => Iff.rfl) _
  have apart : (split maxSelected ranked).1.Pairwise fun first second =>
      first.candidateId ≠ second.candidateId := by
    have nodup := (List.Nodup.of_map _ (divides.nodup_iff.mpr distinct))
    exact pairwise_map.mp (nodup_append.mp nodup).1
  constructor
  · rw [split, map_map, length_map, length_zipIdx]
    exact zipIdx_map_snd 1 _
  · have keys : ((split maxSelected ranked).1.map rankKey).Pairwise (· ≤ ·) := by
      rw [split_rankKeys, pairwise_map]
      exact sorted.sublist (take_sublist _ _)
    apply ((pairwise_map.mp keys).and apart).imp
    rintro first second ⟨le, differs⟩
    apply (rankKey_lt_iff first second).mp
    apply lt_of_le_of_ne le
    intro same
    exact differs (congrArg (fun key => (ofLex key).2) same)

variable {survivors : List (SelectedCandidate ℚ)}

theorem statistics_ids {stats : List CandidateStatistics}
    (reads : statistics texts policy survivors = .ok stats) :
    stats.map (·.candidateId) = survivors.map (·.candidateId) := by
  rw [statistics, mapM_eq_ok_iff] at reads
  induction reads with
  | nil => rfl
  | @cons survivor candidate _ _ reads _ ih =>
    rw [map_cons, map_cons, ih]
    congr 1
    obtain ⟨_, _, reads⟩ := bind_inv reads
    obtain ⟨_, _, reads⟩ := bind_inv reads
    obtain ⟨_, _, reads⟩ := bind_inv reads
    obtain ⟨_, _, reads⟩ := bind_inv reads
    obtain ⟨_, _, reads⟩ := bind_inv reads
    obtain ⟨_, _, reads⟩ := bind_inv reads
    obtain rfl := ok.inj reads
    rfl

theorem adjustmentOf_rate {adjustment : ResearchMultiplicityAdjustment}
    (built : adjustmentOf policy trialCount = .ok adjustment) :
    0 ≤ adjustment.falseDiscoveryRate := by
  obtain ⟨rate, finite, built⟩ := bind_inv built
  obtain ⟨_, _, built⟩ := bind_inv built
  obtain rfl := ok.inj built
  have pos := policy.discoveryRate.1
  generalize policy.falseDiscoveryRate = value at finite pos
  cases value with
  | finite value =>
    obtain rfl := ok.inj finite
    exact (of_decide_eq_true pos).le
  | _ => cases finite

theorem familyOf_eq_ok_iff {family : ResearchMultiplicityAdjustment × List CandidateStatistics} :
    familyOf texts functions policy metricsSchema trialCount candidates = .ok family ↔
      ∃ screened, candidates.mapM
          (screen texts (rationalScoring texts functions) policy metricsSchema) = .ok screened ∧
        statistics texts policy (screened.filterMap Sum.getRight?) = .ok family.2 ∧
        adjustmentOf policy trialCount = .ok family.1 := by
  constructor
  · intro built
    obtain ⟨screened, screens, built⟩ := bind_inv built
    obtain ⟨stats, reads, built⟩ := bind_inv built
    obtain ⟨adjustment, adjusts, built⟩ := bind_inv built
    obtain rfl := Except.ok.inj built
    exact ⟨screened, screens, reads, adjusts⟩
  · rintro ⟨screened, screens, reads, adjusts⟩
    rw [familyOf, screens]
    dsimp only [bind, Except.bind]
    rw [reads, adjusts]
    rfl

variable {corrections : List (String × ScoreAdjustment ℚ)}

theorem adjustments_eq_ok_iff
    (nonempty : survivors ≠ []) :
    CandidateSelector.adjustments (rationalScoring texts functions) policy trialCount survivors =
        .ok corrections ↔
      ∃ stats adjustment pbo, statistics texts policy survivors = .ok stats ∧
        adjustmentOf policy trialCount = .ok adjustment ∧
        adjustment.pboOf functions stats = .ok pbo ∧
        corrections = (stats.map (adjustment.familyResult functions pbo stats)).map
          fun result => (result.candidateId, result.scoreAdjustment) := by
  have some : ¬ survivors.isEmpty = true := by rwa [List.isEmpty_iff]
  rw [CandidateSelector.adjustments, if_neg some]
  constructor
  · intro corrected
    obtain ⟨stats, reads, corrected⟩ := bind_inv corrected
    obtain ⟨adjustment, built, corrected⟩ := bind_inv corrected
    obtain ⟨results, adjusts, corrected⟩ := bind_inv corrected
    obtain ⟨pbo, estimate, rfl⟩ :=
      (adjustment.adjust_eq_ok_iff functions (adjustmentOf_rate built)).mp adjusts
    exact ⟨stats, adjustment, pbo, reads, built, estimate, (Except.ok.inj corrected).symm⟩
  · rintro ⟨stats, adjustment, pbo, reads, built, estimate, rfl⟩
    have adjusts := (adjustment.adjust_eq_ok_iff functions (adjustmentOf_rate built)).mpr
      ⟨pbo, estimate, rfl⟩
    change RationalScoring.adjustments texts functions policy trialCount survivors = _
    rw [RationalScoring.adjustments, reads]
    dsimp only [bind, Except.bind]
    rw [built]
    dsimp only
    rw [adjusts]
    rfl

theorem adjustments_of_perm {survivors others : List (SelectedCandidate ℚ)}
    (distinct : (survivors.map (·.candidateId)).Nodup) (same : survivors.Perm others)
    (corrected : CandidateSelector.adjustments (rationalScoring texts functions) policy trialCount
      survivors = .ok corrections)
    (free : ∀ stats adjustment, statistics texts policy survivors = .ok stats →
      adjustmentOf policy trialCount = .ok adjustment → ∀ rearranged, stats.Perm rearranged →
        adjustment.pboOf functions rearranged = adjustment.pboOf functions stats) :
    ∃ results, CandidateSelector.adjustments (rationalScoring texts functions) policy trialCount
        others = .ok results ∧ withAdjustment results = withAdjustment corrections := by
  by_cases empty : survivors = []
  · rw [empty, nil_perm] at same
    rw [empty] at corrected
    exact ⟨corrections, by rw [same]; exact corrected, rfl⟩
  have nonempty : others ≠ [] := fun none => empty (perm_nil.mp (none ▸ same))
  obtain ⟨stats, adjustment, pbo, reads, built, estimate, rfl⟩ :=
    (adjustments_eq_ok_iff empty).mp corrected
  obtain ⟨rearranged, rereads, perm⟩ := mapM_of_perm reads same
  have results := (perm.map (adjustment.familyResult functions pbo stats)).map fun result =>
    (result.candidateId, result.scoreAdjustment)
  refine ⟨_, (adjustments_eq_ok_iff nonempty).mpr ⟨rearranged, adjustment, pbo, rereads, built,
    (free stats adjustment reads built rearranged perm).trans estimate, rfl⟩, ?_⟩
  rw [← adjustment.familyResult_perm functions perm pbo]
  generalize keyed : (stats.map (adjustment.familyResult functions pbo stats)).map
    (fun result => (result.candidateId, result.scoreAdjustment)) = first at results ⊢
  have unique : (first.map Prod.fst).Nodup := by
    rw [← keyed, map_map, map_map]
    exact (statistics_ids reads).symm ▸ distinct
  have lookups (key : String) : (ofItems first).get? key =
      (ofItems ((rearranged.map (adjustment.familyResult functions pbo stats)).map
        fun result => (result.candidateId, result.scoreAdjustment))).get? key := by
    rw [get?_ofItems unique, get?_ofItems ((results.map Prod.fst).nodup_iff.mp unique)]
    exact lookup_perm unique results key
  funext survivor
  rw [withAdjustment, withAdjustment, lookups]

theorem ids_nodup
    (distinct : (candidates.map candidateId).Nodup)
    (screens : candidates.mapM (screen texts scoring policy metricsSchema) = .ok screened) :
    ((screened.filterMap Sum.getLeft?).map (·.candidateId) ++
      (screened.filterMap Sum.getRight?).map (·.candidateId)).Nodup := by
  rw [← screened_ids screens] at distinct
  have all := (perm_left_right screened).map outcomeId
  rw [map_append, map_map, map_map] at all
  exact all.nodup_iff.mp (List.Nodup.of_map _ distinct)

theorem select_of_perm {candidates others : List Evidence}
    (distinct : (candidates.map candidateId).Nodup)
    (selected : select texts (rationalScoring texts functions) policy metricsSchema trialCount
      multiplicityScope candidates = .ok result)
    (untied : Untied texts functions policy metricsSchema trialCount candidates)
    (same : candidates.Perm others) :
    select texts (rationalScoring texts functions) policy metricsSchema trialCount
      multiplicityScope others = .ok result := by
  obtain ⟨guards, screened, corrections, screens, corrected, rfl⟩ := select_eq_ok_iff.mp selected
  obtain ⟨rescreened, rescreens, perm⟩ := mapM_of_perm screens same
  have nodup := ids_nodup distinct screens
  have survivorIds := (nodup_append.mp nodup).2.1
  have survivors := perm.filterMap Sum.getRight?
  obtain ⟨results, recorrected, corrects⟩ := adjustments_of_perm survivorIds survivors corrected
    fun stats adjustment reads built _ rearranged => adjustment.pboOf_perm functions
      (untied (adjustment, stats) (familyOf_eq_ok_iff.mpr ⟨screened, screens, reads, built⟩))
      rearranged
  refine select_eq_ok_iff.mpr ⟨guards, rescreened, results, rescreens, recorrected, ?_⟩
  have ranked : (rationalScoring texts functions).ranked
      ((screened.filterMap Sum.getRight?).map (withAdjustment corrections)) =
      (rationalScoring texts functions).ranked
        ((rescreened.filterMap Sum.getRight?).map (withAdjustment results)) := by
    rw [corrects]
    apply insertionSort_eq_of_perm rankKey (fun _ _ => Iff.rfl)
      (survivors.map (withAdjustment corrections))
    intro first firstMember second secondMember key
    obtain ⟨left, leftMember, rfl⟩ := mem_map.mp firstMember
    obtain ⟨right, rightMember, rfl⟩ := mem_map.mp secondMember
    have ids : left.candidateId = right.candidateId := by
      have equal := congrArg (fun key => (ofLex key).2) key
      exact (withAdjustment_id _ left).symm.trans (equal.trans (withAdjustment_id _ right))
    rw [inj_on_of_nodup_map survivorIds leftMember rightMember ids]
  rw [decided, decided]
  rw [← ranked]
  have divides := select_divides selected
  rw [Divides, decided] at divides
  dsimp only at divides
  generalize (rationalScoring texts functions).ranked _ = order at divides ⊢
  generalize split _ order = parts at divides ⊢
  congr 1
  -- The rejected candidates have IDs of their own, so their sorting is free of their order.
  have rejected := (nodup_append.mp (List.Nodup.of_map _ (divides.nodup_iff.mpr distinct))).2.1
  have sorted := perm_insertionSort (fun first second : RejectedCandidate =>
    first.candidateId ≤ second.candidateId) (screened.filterMap Sum.getLeft? ++ parts.2)
  apply insertionSort_eq_of_perm (·.candidateId) (fun _ _ => Iff.rfl)
    ((perm.filterMap Sum.getLeft?).append_right _)
  intro first firstMember second secondMember
  exact inj_on_of_nodup_map rejected (sorted.mem_iff.mpr firstMember)
    (sorted.mem_iff.mpr secondMember)

def shownEstimate (candidate : SelectedCandidate ℚ) : Option EvidenceValue :=
  candidate.multiplicityAdjustment.bind fun payload =>
    payload.lookup "probability_of_backtest_overfitting"

def plainFunctions : ProbabilityFunctions where
  sqrt value := value
  log value := value - 1
  invCdf value := value
  cdf _ := 1 / 2
  euler := 3

def candidateWithReturns (id : String) (returns : List ℚ) : Evidence :=
  [("candidate_id", .string id),
    ("metrics", .object [
      ("performance", .object [("max_drawdown", .float (.finite 0)),
        ("return_observation_count", .float (.finite 1)),
        ("oos_returns", .array (returns.map fun value => .float (.finite value)))]),
      ("trading", .object [("oos_trade_count", .float (.finite 30))])]),
    ("data_quality", .object [("accepted", .bool true)]),
    ("reproducibility", .object [])]

def flatA : Evidence :=
  candidateWithReturns "a" [0, 0, 0, 0, 0, 0, 0, 0]

def flatB : Evidence :=
  candidateWithReturns "b" [0, 0, 0, 0, 0, 0, 0, 0]

def rising : Evidence :=
  candidateWithReturns "c" [1, 0, 0, 0, 0, 0, 0, 0]

def selectPlain (candidates : List Evidence) : Except String (SelectionResult ℚ) :=
  select plainTexts
    (rationalScoring plainTexts plainFunctions) {} none 1 "generation" candidates

def estimateOf (result : SelectionResult ℚ) : Option FloatValue :=
  match result.selectedCandidates.head?.bind shownEstimate with
  | some (.float value) => some value
  | _ => none

theorem distinct_fixture : ([flatA, flatB, rising].map candidateId).Nodup := by
  have ids : [flatA, flatB, rising].map candidateId = ["a", "b", "c"].map ok := rfl
  rw [ids]
  exact List.Nodup.map (fun _ _ => Except.ok.inj) (by decide)

theorem selectPlain_estimate {estimate : ℚ}
    (computed : (selectPlain candidates).toOption.map estimateOf = some (some (.finite estimate))) :
    ∃ result, selectPlain candidates = .ok result ∧
      estimateOf result = some (.finite estimate) := by
  cases selected : selectPlain candidates with
  | error failure =>
    rw [selected] at computed
    cases computed
  | ok result =>
    rw [selected] at computed
    exact ⟨result, rfl, Option.some.inj computed⟩

theorem estimate_flats_first : ∃ result, selectPlain [flatA, flatB, rising] = .ok result ∧
    estimateOf result = some (.finite (1 / 2)) :=
  selectPlain_estimate (by decide +kernel)

theorem estimate_rising_between : ∃ result, selectPlain [flatA, rising, flatB] = .ok result ∧
    estimateOf result = some (.finite 1) :=
  selectPlain_estimate (by decide +kernel)

/-- Eight equal returns. -/
def steady (id : String) (value : ℚ) : Evidence :=
  candidateWithReturns id (replicate 8 value)

end CandidateSelector

end Qts
