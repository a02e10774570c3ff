import Mathlib.Data.Rat.Floor
import Qts.CandidateSelection
import Qts.PromotionEvidence

/-! # Selection evidence -/

namespace Qts

open EvidenceValue SelectionPolicy FloatValue List

namespace CandidateSelector

variable (texts : NumberTexts)

def metricsFields (candidate : Evidence) : Evidence :=
  (mapping (candidate.lookup "metrics")).getD []

structure Clears (policy : SelectionPolicy) (metricsSchema : Option ResearchMetricsSchema)
    (candidate : Evidence) : Prop where
  schema : metricsSchemaReasons policy metricsSchema (metricsFields candidate) = .ok []
  drawdown : Required texts
    (metricValue (metricsFields candidate) policy.maxDrawdownMetric)
    fun drawdown => policy.maxDrawdown.lt drawdown.abs
  tradeCount : ∃ metric count, number texts (metricValue
      (metricsFields candidate) policy.oosTradeCountMetric) = .ok (some metric) ∧
    intOfFloat metric = .ok count ∧ policy.minOosTradeCount ≤ count
  profitFactor : ∀ limit ∈ policy.minProfitFactor, Required texts
    (metricValue (metricsFields candidate) policy.profitFactorMetric)
    fun profitFactor => profitFactor.lt limit
  dataQuality : dataQualityReasons texts (candidate.lookup "data_quality") = .ok []
  reproducibility : reproducibilityReasons texts (candidate.lookup "reproducibility") = .ok []

/-- The metrics that the thresholds govern are present, finite and within them. -/
structure Sound (policy : SelectionPolicy) (metrics : Evidence) : Prop where
  drawdown : Meets texts (metricValue metrics policy.maxDrawdownMetric)
    fun drawdown => drawdown.abs.le policy.maxDrawdown
  tradeCount : Meets texts (metricValue metrics policy.oosTradeCountMetric)
    fun tradeCount => le (.finite policy.minOosTradeCount) tradeCount
  profitFactor : ∀ limit ∈ policy.minProfitFactor,
    Meets texts (metricValue metrics policy.profitFactorMetric) limit.le

/-- The metrics that the thresholds govern are finite numbers, the trade count is not negative and
the thresholds are numbers. -/
structure Complete (policy : SelectionPolicy) (metrics : Evidence) : Prop where
  drawdown : Finite texts (metricValue metrics policy.maxDrawdownMetric) ∧
    policy.maxDrawdown ≠ .nan
  tradeCount : Meets texts (metricValue metrics policy.oosTradeCountMetric)
    fun tradeCount => le (.finite 0) tradeCount
  profitFactor : ∀ limit ∈ policy.minProfitFactor,
    Finite texts (metricValue metrics policy.profitFactorMetric) ∧ limit ≠ .nan

variable {texts} {policy : SelectionPolicy} {metricsSchema : Option ResearchMetricsSchema}

theorem le_of_le_tdiv {limit : Int} (nonneg : 0 ≤ limit) {value : ℚ}
    (least : limit ≤ Int.tdiv value.num value.den) : ((limit : ℚ) ≤ value ↔ 0 ≤ value) := by
  constructor
  · intro le
    exact le_trans (by exact_mod_cast nonneg) le
  · intro pos
    have floor : Int.tdiv value.num value.den = ⌊value⌋ := by
      have division := Rat.floor_intCast_div_natCast value.num value.den
      rw [Rat.num_div_den] at division
      rw [Int.tdiv_eq_ediv_of_nonneg (Rat.num_nonneg.mpr pos), division]
    rw [floor] at least
    exact Int.le_floor.mp least

theorem tradeCount_meets_iff {metrics : Evidence} {metric : FloatValue} {count : Int}
    (read : number texts (metricValue metrics policy.oosTradeCountMetric) = .ok (some metric))
    (truncated : intOfFloat metric = .ok count) (least : policy.minOosTradeCount ≤ count) :
    Meets texts (metricValue metrics policy.oosTradeCountMetric)
        (fun tradeCount => le (.finite policy.minOosTradeCount) tradeCount) ↔
      Meets texts (metricValue metrics policy.oosTradeCountMetric)
        fun tradeCount => le (.finite 0) tradeCount := by
  cases metric with
  | nan | negInfinity | infinity => cases truncated
  | finite value =>
    obtain rfl := Except.ok.inj truncated
    have same := le_of_le_tdiv policy.tradeCountNonNegative least
    constructor
    · rintro ⟨found, shown, finite, within⟩
      obtain rfl := Option.some.inj (ok_unique read shown)
      exact ⟨_, read, rfl, decide_eq_true (same.mp (of_decide_eq_true within))⟩
    · rintro ⟨found, shown, finite, within⟩
      obtain rfl := Option.some.inj (ok_unique read shown)
      exact ⟨_, read, rfl, decide_eq_true (same.mpr (of_decide_eq_true within))⟩

theorem Clears.sound_iff {candidate : Evidence}
    (clears : Clears texts policy metricsSchema candidate) :
    Sound texts policy (metricsFields candidate) ↔
      Complete texts policy (metricsFields candidate) := by
  have drawdown := meets_abs_le_iff clears.drawdown.unobjected
  obtain ⟨metric, count, read, truncated, least⟩ := clears.tradeCount
  have tradeCount := tradeCount_meets_iff read truncated least
  have profitFactor := forall₂_congr fun limit configured =>
    meets_ge_iff (clears.profitFactor limit configured).unobjected
  constructor
  · intro sound
    exact ⟨drawdown.mp sound.drawdown, tradeCount.mp sound.tradeCount,
      profitFactor.mp sound.profitFactor⟩
  · intro complete
    exact ⟨drawdown.mpr complete.drawdown, tradeCount.mpr complete.tradeCount,
      profitFactor.mpr complete.profitFactor⟩

variable {Score : Type} {scoring : SelectorScoring Score}

theorem tradeCountReasons_iff (tradeCount : Option FloatValue) :
    Yields (tradeCountReasons policy tradeCount) (fun reasons => reasons = []) ↔
      ∃ metric count, tradeCount = some metric ∧ intOfFloat metric = .ok count ∧
        policy.minOosTradeCount ≤ count := by
  cases tradeCount with
  | none => simp [tradeCountReasons]
  | some metric =>
    simp only [tradeCountReasons, yields_bind, yields_pure, reasonIf_eq_nil_iff,
      decide_eq_false_iff_not, not_lt]
    constructor
    · rintro ⟨count, truncated, least⟩
      exact ⟨metric, count, rfl, truncated, least⟩
    · rintro ⟨_, count, same, truncated, least⟩
      obtain rfl := Option.some.inj same
      exact ⟨count, truncated, least⟩

theorem profitFactorReasons_iff (metrics : Evidence) :
    Yields (profitFactorReasons texts policy metrics) (fun reasons => reasons = []) ↔
      ∀ limit ∈ policy.minProfitFactor, Required texts
        (metricValue metrics policy.profitFactorMetric)
        fun profitFactor => profitFactor.lt limit := by
  rw [profitFactorReasons]
  cases policy.minProfitFactor with
  | none => simp
  | some limit =>
    simp only [yields_bind, yields_pure, Option.mem_some_iff, forall_eq']
    constructor
    · rintro ⟨metric, read, clear⟩
      exact (required_reasons_iff read _ _ _).mp clear
    · intro required
      obtain ⟨metric, read, _⟩ := required.readable
      exact ⟨metric, read, (required_reasons_iff read _ _ _).mpr required⟩

theorem rejectionReasons_iff (candidate : Evidence) :
    Yields (rejectionReasons texts policy metricsSchema candidate (metricsFields candidate))
        (fun reasons => reasons = []) ↔
      Clears texts policy metricsSchema candidate := by
  rw [rejectionReasons]
  simp only [yields_bind]
  constructor
  · rintro ⟨schemaReasons, schema, screened⟩
    by_cases none : schemaReasons = []
    · subst none
      rw [if_neg (not_not_intro rfl)] at screened
      simp only [yields_bind, yields_pure, append_eq_nil_iff] at screened
      obtain ⟨drawdown, drawdownRead, tradeCount, tradeCountRead, tradeCountReasons, traded,
        profitReasons, profited, qualityReasons, quality, reproducibilityReasons, reproduced,
        ⟨⟨⟨⟨drawdownClear, rfl⟩, rfl⟩, rfl⟩, rfl⟩⟩ := screened
      obtain ⟨metric, count, rfl, truncated, least⟩ :=
        (tradeCountReasons_iff tradeCount).mp ⟨_, traded, rfl⟩
      exact ⟨schema, (required_reasons_iff drawdownRead _ _ _).mp drawdownClear,
        ⟨metric, count, tradeCountRead, truncated, least⟩,
        (profitFactorReasons_iff _).mp ⟨_, profited, rfl⟩, quality, reproduced⟩
    · rw [if_pos none, yields_pure] at screened
      exact absurd screened none
  · intro clears
    refine ⟨[], clears.schema, ?_⟩
    dsimp only
    rw [if_neg (not_not_intro rfl)]
    obtain ⟨drawdown, drawdownRead, _⟩ := clears.drawdown.readable
    obtain ⟨metric, count, tradeCountRead, truncated, least⟩ := clears.tradeCount
    have trades : Yields (tradeCountReasons policy (some metric)) fun reasons => reasons = [] :=
      (tradeCountReasons_iff _).mpr ⟨metric, count, rfl, truncated, least⟩
    obtain ⟨_, traded, rfl⟩ := trades
    obtain ⟨_, profited, rfl⟩ := (profitFactorReasons_iff _).mpr clears.profitFactor
    simp only [yields_bind, yields_pure, append_eq_nil_iff]
    exact ⟨drawdown, drawdownRead, some metric, tradeCountRead, [], traded, [], profited, [],
      clears.dataQuality, [], clears.reproducibility,
      ⟨⟨⟨⟨(required_reasons_iff drawdownRead _ _ _).mpr clears.drawdown, rfl⟩, rfl⟩, rfl⟩, rfl⟩⟩

theorem screen_spec {candidate : Evidence}
    {outcome : RejectedCandidate ⊕ SelectedCandidate Score}
    (screened : screen texts scoring policy metricsSchema candidate = .ok outcome) :
    (∃ survivor, outcome = .inr survivor ∧ survivor.metrics = metricsFields candidate ∧
        Clears texts policy metricsSchema candidate) ∨
      ∃ rejected, outcome = .inl rejected ∧ ¬ Clears texts policy metricsSchema candidate := by
  obtain ⟨candidateId, _, screened⟩ := bind_inv screened
  obtain ⟨metrics, found, screened⟩ := bind_inv screened
  obtain ⟨evidence, _, screened⟩ := bind_inv screened
  obtain ⟨reasons, checked, screened⟩ := bind_inv screened
  have same : metrics = metricsFields candidate := by
    rw [metricsOf] at found
    rw [metricsFields]
    split at found
    · next metrics known =>
      rw [known]
      exact (Except.ok.inj found).symm
    · cases found
  subst same
  by_cases none : reasons = []
  · subst none
    rw [if_neg (not_not_intro rfl)] at screened
    obtain ⟨score, _, screened⟩ := bind_inv screened
    obtain rfl := Except.ok.inj screened
    exact .inl ⟨_, rfl, rfl, (rejectionReasons_iff candidate).mp ⟨[], checked, rfl⟩⟩
  · rw [if_pos none] at screened
    obtain rfl := Except.ok.inj screened
    refine .inr ⟨_, rfl, fun clears => none ?_⟩
    obtain ⟨_, other, rfl⟩ := (rejectionReasons_iff candidate).mpr clears
    exact ok_unique checked other

theorem withAdjustment_metrics (adjustments : List (String × ScoreAdjustment Score))
    (survivor : SelectedCandidate Score) :
    (withAdjustment adjustments survivor).metrics = survivor.metrics := by
  rw [withAdjustment]
  split <;> rfl

variable {candidates : List Evidence} {result : SelectionResult Score}
  {multiplicityScope : String} {trialCount : Int}

theorem select_spec
    (selected : select texts scoring policy metricsSchema trialCount multiplicityScope candidates =
      .ok result) :
    ∃ screened adjustments, candidates.mapM (screen texts scoring policy metricsSchema) =
        .ok screened ∧
      CandidateSelector.adjustments scoring policy trialCount
        (screened.filterMap Sum.getRight?) = .ok adjustments ∧
      ∃ ranked, ranked = scoring.ranked
          ((screened.filterMap Sum.getRight?).map (withAdjustment adjustments)) ∧
        result.selectedCandidates = (split (policy.maxSelected.getD ranked.length) ranked).1 ∧
        result.rejectedCandidates = (screened.filterMap Sum.getLeft? ++
          (split (policy.maxSelected.getD ranked.length) ranked).2).insertionSort
            fun first second => first.candidateId ≤ second.candidateId := by
  rw [select] at selected
  split at selected
  · cases selected
  split at selected
  · cases selected
  obtain ⟨screened, screens, selected⟩ := bind_inv selected
  obtain ⟨adjustments, adjusts, selected⟩ := bind_inv selected
  obtain rfl := Except.ok.inj selected
  exact ⟨screened, adjustments, screens, adjusts, _, rfl, rfl, rfl⟩

theorem split_selected_metrics (maxSelected : Nat) (ranked : List (SelectedCandidate Score)) :
    (split maxSelected ranked).1.map (·.metrics) = (ranked.take maxSelected).map (·.metrics) := by
  rw [split, map_map]
  generalize ranked.take maxSelected = taken
  have values : (taken.zipIdx 1).map ((·.metrics) ∘ Prod.fst) = taken.map (·.metrics) := by
    rw [← map_map, zipIdx_map_fst]
  exact values

theorem mem_survivors_iff {screened : List (RejectedCandidate ⊕ SelectedCandidate Score)}
    {survivor : SelectedCandidate Score} :
    survivor ∈ screened.filterMap Sum.getRight? ↔ .inr survivor ∈ screened := by
  simp only [mem_filterMap, Sum.getRight?_eq_some_iff, exists_eq_right]

section

variable
  (selected : select texts scoring policy metricsSchema trialCount multiplicityScope candidates =
      .ok result)

include selected

theorem select_metrics :
    ∃ screened, candidates.mapM (screen texts scoring policy metricsSchema) = .ok screened ∧
      (∀ chosen ∈ result.selectedCandidates,
        ∃ survivor, .inr survivor ∈ screened ∧ chosen.metrics = survivor.metrics) ∧
      (policy.maxSelected = none → ∀ survivor, .inr survivor ∈ screened →
        ∃ chosen ∈ result.selectedCandidates, chosen.metrics = survivor.metrics) := by
  obtain ⟨screened, adjustments, screens, _, ranked, ranks, chosen, _⟩ := select_spec selected
  have perm : ranked.Perm
      ((screened.filterMap Sum.getRight?).map (withAdjustment adjustments)) := by
    rw [ranks]
    exact scoring.ranked_perm _
  have metrics := congrArg (List.map (·.metrics)) chosen
  rw [split_selected_metrics] at metrics
  refine ⟨screened, screens, ?_, ?_⟩
  · intro candidate mem
    have found : candidate.metrics ∈ result.selectedCandidates.map (·.metrics) :=
      mem_map_of_mem mem
    rw [metrics] at found
    obtain ⟨adjusted, taken, same⟩ := mem_map.mp found
    obtain ⟨survivor, survives, rfl⟩ :=
      mem_map.mp (perm.mem_iff.mp (mem_of_mem_take taken))
    rw [withAdjustment_metrics] at same
    exact ⟨survivor, mem_survivors_iff.mp survives, same.symm⟩
  · intro unlimited survivor survives
    have found : withAdjustment adjustments survivor ∈ ranked :=
      perm.mem_iff.mpr (mem_map_of_mem (mem_survivors_iff.mpr survives))
    rw [unlimited, Option.getD_none, take_length] at metrics
    have mem : (withAdjustment adjustments survivor).metrics ∈ ranked.map (·.metrics) :=
      mem_map_of_mem found
    rw [← metrics, withAdjustment_metrics] at mem
    exact mem_map.mp mem

theorem select_sound :
    ((∀ candidate ∈ candidates, Clears texts policy metricsSchema candidate →
        Complete texts policy (metricsFields candidate)) →
      ∀ chosen ∈ result.selectedCandidates, Sound texts policy chosen.metrics) ∧
    (policy.maxSelected = none →
      (∀ chosen ∈ result.selectedCandidates, Sound texts policy chosen.metrics) →
        ∀ candidate ∈ candidates, Clears texts policy metricsSchema candidate →
          Complete texts policy (metricsFields candidate)) := by
  obtain ⟨screened, screens, fromSurvivors, allSurvivors⟩ := select_metrics selected
  have related := mapM_eq_ok_iff.mp screens
  constructor
  · intro complete chosen mem
    obtain ⟨survivor, survives, same⟩ := fromSurvivors chosen mem
    obtain ⟨candidate, source, screen⟩ := exists_related_of_mem related.flip survives
    rcases screen_spec screen with ⟨_, same', metrics, clears⟩ | ⟨_, other, _⟩
    · obtain rfl := Sum.inr.inj same'
      rw [same, metrics]
      exact clears.sound_iff.mpr (complete candidate source clears)
    · cases other
  · intro unlimited sound candidate source clears
    obtain ⟨outcome, mem, screen⟩ := exists_related_of_mem related source
    rcases screen_spec screen with ⟨survivor, rfl, metrics, _⟩ | ⟨_, _, refused⟩
    · obtain ⟨chosen, chosenMember, same⟩ := allSurvivors unlimited survivor mem
      have within := sound chosen chosenMember
      rw [same, metrics] at within
      exact clears.sound_iff.mp within
    · exact absurd clears refused

end

end CandidateSelector

/-- Promotion fails closed exactly where the evidence that clears every check is complete: the
gauntlet on each candidate, and the selector on each list of candidates; a budget of selected
candidates can only hide a candidate that is not. -/
theorem promotion_failsClosed_iff (texts : NumberTexts) :
    (∀ (store : ValidationGauntlet.ArtifactStore) (gauntlet : ValidationGauntlet)
        (auditLog : Option (ValidationGauntletResult → String)) (candidate : Evidence),
      (Yields (gauntlet.validate texts store auditLog candidate)
          (fun result => result.accepted = true) →
        gauntlet.Sound texts (gauntlet.normalized texts store candidate).1) ↔
      ((gauntlet.normalized texts store candidate).2 = [] →
        gauntlet.Clears texts (gauntlet.normalized texts store candidate).1 →
          gauntlet.Complete texts (gauntlet.normalized texts store candidate).1)) ∧
    ∀ (Score : Type) (scoring : SelectorScoring Score) (policy : SelectionPolicy)
        (metricsSchema : Option ResearchMetricsSchema) (trialCount : Int)
        (multiplicityScope : String) (candidates : List Evidence)
        (result : SelectionResult Score),
      CandidateSelector.select texts scoring policy metricsSchema trialCount multiplicityScope
          candidates = .ok result →
        ((∀ candidate ∈ candidates, CandidateSelector.Clears texts policy metricsSchema candidate →
              CandidateSelector.Complete texts policy
                (CandidateSelector.metricsFields candidate)) →
          ∀ chosen ∈ result.selectedCandidates,
            CandidateSelector.Sound texts policy chosen.metrics) ∧
        (policy.maxSelected = none → (∀ chosen ∈ result.selectedCandidates,
            CandidateSelector.Sound texts policy chosen.metrics) →
          ∀ candidate ∈ candidates,
            CandidateSelector.Clears texts policy metricsSchema candidate →
              CandidateSelector.Complete texts policy
                (CandidateSelector.metricsFields candidate)) :=
  ⟨ValidationGauntlet.validate_sound_iff,
    fun _ _ _ _ _ _ _ _ selected => CandidateSelector.select_sound selected⟩

namespace ValidationGauntlet

def plainTexts : NumberTexts where
  float _ := none
  general _ := ""
  precise _ := ""
  str _ := ""
  repr _ := ""

def passed : EvidenceValue :=
  .object [("passed", .bool true)]

def candidateWithDrawdown (drawdown : EvidenceValue) : Evidence :=
  [("candidate_id", .string "candidate"),
    ("validation", .object [
      ("walk_forward", .object [("consistent", .bool true),
        ("test_windows", .array [.object [("accepted", .bool true)]])]),
      ("failure_windows", .array [.object [("name", .string "stress"),
        ("max_drawdown", drawdown)]]),
      ("cost_stress", .object [("degradation", .float (.finite (1 / 10))),
        ("slippage_sensitivity", .float (.finite (1 / 10)))]),
      ("correlation", .object [("max_active_correlation", .float (.finite (1 / 10))),
        ("active_portfolio_snapshot", .object [
          ("active_portfolio_status", .string "no_active_candidates"),
          ("candidate_return_count", .float (.finite 250))])]),
      ("capacity", .object [("estimated_capacity", .float (.finite 1000)),
        ("required_capital", .float (.finite 100))]),
      ("no_lookahead", .object [("passed", .bool true), ("timing_validation", passed)]),
      ("deterministic_replay", passed)])]

def noArtifacts : ArtifactStore where
  read _ := .absent
  payloadHash _ := ""

/-- The default gauntlet accepts a candidate whose drawdown in a failure window is not a number. -/
theorem nan_drawdown_accepted :
    Yields (({} : ValidationGauntlet).validate plainTexts noArtifacts none
        (candidateWithDrawdown (.float .nan))) (fun result => result.accepted = true) ∧
      ¬ ({} : ValidationGauntlet).Sound plainTexts
        (({} : ValidationGauntlet).normalized plainTexts noArtifacts
          (candidateWithDrawdown (.float .nan))).1 := by
  constructor
  · exact ⟨_, rfl, by decide +kernel⟩
  · intro sound
    obtain ⟨metric, read, finite, _⟩ := sound.drawdown
      [("name", .string "stress"), ("max_drawdown", .float .nan)] (mem_singleton.mpr rfl)
    obtain rfl := Option.some.inj (Except.ok.inj read)
    exact Bool.false_ne_true finite

end ValidationGauntlet

end Qts
