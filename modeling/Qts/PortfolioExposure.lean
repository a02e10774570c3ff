import Qts.PortfolioConstruction

/-! # The exposure of constructed portfolios -/

namespace Qts

open PythonText Dict PortfolioConstruction List Function

namespace PortfolioConstruction

structure Closes (signal : Signal) (target : TargetIntent) : Prop where
  asset : target.asset = signal.asset
  value : target.value = none

/-- A percent target on the side of its signal and within the cap. -/
structure Sizes (maxSingleWeight : Decimal) (signal : Signal) (target : TargetIntent) : Prop where
  asset : target.asset = signal.asset
  value : ∃ weight, target.value = some weight ∧ 0 ≤ directionSign signal * weight ∧
    |weight| ≤ maxSingleWeight

def closeTargets (targets : List TargetIntent) : List TargetIntent :=
  targets.filter fun target => target.intentType = .close

def percentTargets (targets : List TargetIntent) : List TargetIntent :=
  targets.filter fun target => target.intentType = .percent

def grossExposure (targets : List TargetIntent) : Decimal :=
  ((percentTargets targets).map fun target => |target.value.getD 0|).sum

def shareOf (strength : Signal → Decimal) (signals : List Signal) (signal : Signal) : Decimal :=
  strength signal / ((directional signals).map strength).sum

structure SizesWithin (config : Configuration) (strength : Signal → Decimal)
    (signals : List Signal) (targets : List TargetIntent) : Prop where
  sizes : Forall₂ (Sizes config.maxSingleWeight) (directional signals)
    (percentTargets targets)
  within : grossExposure targets ≤ config.targetGrossExposure
  exhausted : (∀ signal ∈ directional signals,
      shareOf strength signals signal * config.targetGrossExposure ≤ config.maxSingleWeight) →
    grossExposure targets = config.targetGrossExposure

/-- One close target for every flat signal, one percent target for every directional signal
unless all strengths are zero, and nothing else. -/
structure Respects (config : Configuration) (strength : Signal → Decimal)
    (signals : List Signal) (targets : List TargetIntent) : Prop where
  closes : Forall₂ Closes (signals.filter fun signal => signal.direction = .flat)
    (closeTargets targets)
  kinds : ∀ target ∈ targets, target.intentType = .close ∨ target.intentType = .percent
  sized : (∃ signal ∈ directional signals, strength signal ≠ 0) →
    SizesWithin config strength signals targets

variable {config : Configuration} {intentIds : Nat → String} {signals : List Signal}

def weightedTargets (intentIds : Nat → String) (first : Nat) (weightOf : Signal → Decimal)
    (chosen : List Signal) : List TargetIntent :=
  ((chosen.map fun signal => (signal, weightOf signal)).zipIdx first).map fun entry =>
    { asset := entry.1.1.asset, intentType := .percent, value := some entry.1.2,
      intentId := intentIds entry.2 }

theorem weightedTargets_cons (first : Nat) (weightOf : Signal → Decimal) (signal : Signal)
    (chosen : List Signal) :
    weightedTargets intentIds first weightOf (signal :: chosen) =
      { asset := signal.asset, intentType := .percent, value := some (weightOf signal),
        intentId := intentIds first } ::
        weightedTargets intentIds (first + 1) weightOf chosen :=
  rfl

variable {chosen : List Signal}

theorem forall₂_weightedTargets {maxSingleWeight : Decimal} {weightOf : Signal → Decimal}
    (fits : ∀ signal ∈ chosen,
      0 ≤ directionSign signal * weightOf signal ∧ |weightOf signal| ≤ maxSingleWeight)
    (first : Nat) :
    Forall₂ (Sizes maxSingleWeight) chosen
      (weightedTargets intentIds first weightOf chosen) := by
  induction chosen generalizing first with
  | nil => exact .nil
  | cons signal chosen ih =>
    rw [weightedTargets_cons]
    apply List.Forall₂.cons
    · exact ⟨rfl, weightOf signal, rfl, fits signal mem_cons_self⟩
    · exact ih (fun other mem => fits other (mem_cons_of_mem _ mem)) _

theorem of_forall₂_weightedTargets {maxSingleWeight : Decimal} {weightOf : Signal → Decimal}
    {first : Nat}
    (sized : Forall₂ (Sizes maxSingleWeight) chosen
      (weightedTargets intentIds first weightOf chosen)) :
    ∀ signal ∈ chosen, 0 ≤ directionSign signal * weightOf signal := by
  induction chosen generalizing first with
  | nil => simp
  | cons signal chosen ih =>
    rw [weightedTargets_cons] at sized
    obtain ⟨⟨_, weight, shown, side, _⟩, rest⟩ := forall₂_cons.mp sized
    intro other mem
    rcases mem_cons.mp mem with rfl | mem
    · cases shown
      exact side
    · exact ih rest other mem

theorem percentTargets_weightedTargets (first : Nat) (weightOf : Signal → Decimal)
    (chosen : List Signal) :
    percentTargets (weightedTargets intentIds first weightOf chosen) =
      weightedTargets intentIds first weightOf chosen := by
  apply filter_eq_self.mpr
  intro target mem
  obtain ⟨entry, _, rfl⟩ := mem_map.mp mem
  rfl

theorem closeTargets_weightedTargets (first : Nat) (weightOf : Signal → Decimal)
    (chosen : List Signal) :
    closeTargets (weightedTargets intentIds first weightOf chosen) = [] := by
  apply filter_eq_nil_iff.mpr
  intro target mem
  obtain ⟨entry, _, rfl⟩ := mem_map.mp mem
  simp

theorem sum_weightedTargets (first : Nat) (weightOf : Signal → Decimal) (chosen : List Signal) :
    ((weightedTargets intentIds first weightOf chosen).map fun target =>
        |target.value.getD 0|).sum =
      (chosen.map fun signal => |weightOf signal|).sum := by
  induction chosen generalizing first with
  | nil => rfl
  | cons signal chosen ih =>
    rw [weightedTargets_cons, map_cons, sum_cons, ih, map_cons, sum_cons]
    rfl

theorem closeTargets_flat (signals : List Signal) :
    closeTargets (flatCloseTargets intentIds signals) = flatCloseTargets intentIds signals := by
  apply filter_eq_self.mpr
  intro target mem
  obtain ⟨entry, _, rfl⟩ := mem_map.mp mem
  rfl

theorem percentTargets_flat (signals : List Signal) :
    percentTargets (flatCloseTargets intentIds signals) = [] := by
  apply filter_eq_nil_iff.mpr
  intro target mem
  obtain ⟨entry, _, rfl⟩ := mem_map.mp mem
  simp

theorem forall₂_zipIdx_close (flats : List Signal) (first : Nat) :
    Forall₂ Closes flats ((flats.zipIdx first).map fun entry =>
      { asset := entry.1.asset, intentType := .close, value := none,
        intentId := intentIds entry.2 }) := by
  induction flats generalizing first with
  | nil => exact .nil
  | cons signal flats ih => exact .cons ⟨rfl, rfl⟩ (ih _)

def portfolio (intentIds : Nat → String) (weightOf : Signal → Decimal) (signals : List Signal) :
    List TargetIntent :=
  flatCloseTargets intentIds signals ++
    weightedTargets intentIds (flatCloseTargets intentIds signals).length weightOf
      (directional signals)

theorem closeTargets_portfolio (weightOf : Signal → Decimal) :
    closeTargets (portfolio intentIds weightOf signals) = flatCloseTargets intentIds signals := by
  have closes := @closeTargets_flat intentIds signals
  have none := @closeTargets_weightedTargets intentIds
    (flatCloseTargets intentIds signals).length weightOf (directional signals)
  unfold closeTargets at closes none ⊢
  rw [portfolio, filter_append, closes, none, append_nil]

theorem percentTargets_portfolio (weightOf : Signal → Decimal) :
    percentTargets (portfolio intentIds weightOf signals) =
      weightedTargets intentIds (flatCloseTargets intentIds signals).length weightOf
        (directional signals) := by
  have none := @percentTargets_flat intentIds signals
  have percents := @percentTargets_weightedTargets intentIds
    (flatCloseTargets intentIds signals).length weightOf (directional signals)
  unfold percentTargets at percents none ⊢
  rw [portfolio, filter_append, percents, none, nil_append]

variable {strength : Signal → Decimal}

theorem respects_flat
    (none : ∀ signal ∈ directional signals, strength signal = 0) :
    Respects config strength signals (flatCloseTargets intentIds signals) where
  closes := by
    rw [closeTargets_flat]
    exact forall₂_zipIdx_close _ 0
  kinds := by
    intro target mem
    obtain ⟨entry, _, rfl⟩ := mem_map.mp mem
    exact .inl rfl
  sized := fun ⟨signal, mem, strong⟩ => absurd (none signal mem) strong

variable (signal : Signal)

theorem directionSign_cases : directionSign signal = 1 ∨ directionSign signal = -1 := by
  unfold directionSign
  split
  · exact .inl rfl
  · exact .inr rfl

theorem abs_directionSign_mul (weight : Decimal) : |directionSign signal * weight| = |weight| := by
  rcases directionSign_cases signal with sign | sign <;> simp [sign]

theorem directionSign_mul_self (weight : Decimal) :
    directionSign signal * (directionSign signal * weight) = weight := by
  rcases directionSign_cases signal with sign | sign <;> simp [sign]

theorem capWeight_signed {maxSingleWeight amount : Decimal} (pos : 0 < maxSingleWeight)
    (signal : Signal) (nonneg : 0 ≤ amount) :
    capWeight maxSingleWeight (directionSign signal * amount) =
      directionSign signal * min amount maxSingleWeight := by
  unfold capWeight
  rw [abs_directionSign_mul, abs_of_nonneg nonneg]
  by_cases large : maxSingleWeight < amount
  · rw [if_pos large, min_eq_right large.le]
    have amountPositive := pos.trans large
    rcases directionSign_cases signal with sign | sign
    · simp [sign, amountPositive]
    · simp [sign, not_lt.mpr nonneg]
  · rw [if_neg large, min_eq_left (not_lt.mp large)]

theorem capWeight_side {maxSingleWeight weight : Decimal} (pos : 0 < maxSingleWeight)
    (signal : Signal) (side : directionSign signal * weight < 0) :
    directionSign signal * capWeight maxSingleWeight weight < 0 := by
  unfold capWeight
  rcases directionSign_cases signal with sign | sign
  · rw [sign, one_mul] at side ⊢
    split
    · rw [if_neg side.le.not_gt]
      linarith
    · exact side
  · rw [sign] at side ⊢
    have weightPositive : 0 < weight := by linarith
    split
    · linarith
    · exact side

theorem respects_shares {strength share : Signal → Decimal}
    (nonneg : ∀ signal ∈ directional signals, 0 ≤ share signal)
    (whole : ((directional signals).map share).sum = 1)
    (shares : ∀ signal ∈ directional signals, shareOf strength signals signal = share signal) :
    Respects config strength signals (portfolio intentIds (fun signal =>
      capWeight config.maxSingleWeight
        (directionSign signal * (share signal * config.targetGrossExposure))) signals) := by
  have gross := config.grossPositive
  have cap := config.maxPositive
  have capped : ∀ signal ∈ directional signals,
      capWeight config.maxSingleWeight
          (directionSign signal * (share signal * config.targetGrossExposure)) =
        directionSign signal *
          min (share signal * config.targetGrossExposure) config.maxSingleWeight :=
    fun signal mem => capWeight_signed cap signal (mul_nonneg (nonneg signal mem) gross.le)
  have amounts : ∀ signal ∈ directional signals,
      0 ≤ min (share signal * config.targetGrossExposure) config.maxSingleWeight :=
    fun signal mem => le_min (mul_nonneg (nonneg signal mem) gross.le) cap.le
  have total : ((directional signals).map fun signal =>
      share signal * config.targetGrossExposure).sum = config.targetGrossExposure := by
    rw [sum_map_mul_right, whole, one_mul]
  have exposed : grossExposure (portfolio intentIds (fun signal =>
        capWeight config.maxSingleWeight
          (directionSign signal * (share signal * config.targetGrossExposure))) signals) =
      ((directional signals).map fun signal =>
        min (share signal * config.targetGrossExposure) config.maxSingleWeight).sum := by
    unfold grossExposure
    rw [percentTargets_portfolio, sum_weightedTargets]
    congr 1
    apply map_congr_left
    intro signal mem
    rw [capped signal mem, abs_directionSign_mul, abs_of_nonneg (amounts signal mem)]
  refine ⟨?_, ?_, fun _ => ⟨?_, ?_, ?_⟩⟩
  · rw [closeTargets_portfolio]
    exact forall₂_zipIdx_close _ 0
  · intro target mem
    rcases mem_append.mp mem with mem | mem
    · obtain ⟨entry, _, rfl⟩ := mem_map.mp mem
      exact .inl rfl
    · obtain ⟨entry, _, rfl⟩ := mem_map.mp mem
      exact .inr rfl
  · rw [percentTargets_portfolio]
    apply forall₂_weightedTargets
    intro signal mem
    rw [capped signal mem, directionSign_mul_self, abs_directionSign_mul,
      abs_of_nonneg (amounts signal mem)]
    exact ⟨amounts signal mem, min_le_right _ _⟩
  · rw [exposed]
    calc ((directional signals).map fun signal =>
          min (share signal * config.targetGrossExposure) config.maxSingleWeight).sum
        ≤ ((directional signals).map fun signal =>
            share signal * config.targetGrossExposure).sum :=
          sum_le_sum fun signal _ => min_le_left _ _
      _ = config.targetGrossExposure := total
  · intro uncapped
    refine Eq.trans (exposed.trans ?_) total
    congr 1
    apply map_congr_left
    intro signal mem
    have small := uncapped signal mem
    rw [shares signal mem] at small
    exact min_eq_left small

theorem sum_shareOf
    (nonzero : ((directional signals).map strength).sum ≠ 0) :
    ((directional signals).map (shareOf strength signals)).sum = 1 := by
  have divided : ((directional signals).map (shareOf strength signals)).sum =
      ((directional signals).map strength).sum / ((directional signals).map strength).sum := by
    unfold shareOf
    simp only [div_eq_mul_inv]
    rw [sum_map_mul_right]
  rw [divided, div_self nonzero]

theorem sum_map_neg (strength : Signal → Decimal) (chosen : List Signal) :
    (chosen.map fun signal => -strength signal).sum = -(chosen.map strength).sum := by
  rw [sum_neg, map_map]
  rfl

theorem eq_zero_of_sum_eq_zero
    (nonneg : ∀ signal ∈ chosen, 0 ≤ strength signal) (zero : (chosen.map strength).sum = 0) :
    ∀ signal ∈ chosen, strength signal = 0 := by
  intro signal mem
  have bounded : ∀ amount ∈ chosen.map strength, 0 ≤ amount := by simpa using nonneg
  exact all_zero_of_le_zero_le_of_sum_eq_zero bounded zero (mem_map_of_mem mem)

theorem directional_nodup (distinct : (signals.map fun signal => signal.asset).Nodup) :
    (directional signals).Nodup :=
  (List.Nodup.of_map _ distinct).filter _

theorem ofItems_weights (distinct : chosen.Nodup) (weightOf : Signal → Decimal) :
    (ofItems (chosen.map fun signal => (signal, weightOf signal))).items =
      chosen.map fun signal => (signal, weightOf signal) := by
  apply ofItems_items
  simpa [comp_def] using distinct

theorem buildTargets_weights (distinct : chosen.Nodup) (weightOf : Signal → Decimal)
    (weights : Dict Signal Decimal)
    (items : weights.items = chosen.map fun signal => (signal, weightOf signal))
    (flatTargets : List TargetIntent) :
    buildTargets intentIds flatTargets (applyWeightCap weights config.maxSingleWeight) =
      flatTargets ++ weightedTargets intentIds flatTargets.length
        (fun signal => capWeight config.maxSingleWeight (weightOf signal)) chosen := by
  have capped := ofItems_weights distinct fun signal =>
    capWeight config.maxSingleWeight (weightOf signal)
  unfold buildTargets applyWeightCap weightedTargets
  rw [items, map_map]
  simp only [comp_def, capped]

section

variable (distinct : (signals.map fun signal => signal.asset).Nodup)

include distinct

theorem constructNormalized_eq (rawWeight : Signal → Decimal) :
    constructNormalized config intentIds rawWeight signals =
      if ((directional signals).map fun signal => |rawWeight signal|).sum = 0 then
        flatCloseTargets intentIds signals
      else portfolio intentIds (fun signal => capWeight config.maxSingleWeight
        (rawWeight signal * (config.targetGrossExposure /
          ((directional signals).map fun signal => |rawWeight signal|).sum))) signals := by
  have chosen := directional_nodup distinct
  have raw := ofItems_weights chosen rawWeight
  have total : ((ofItems ((directional signals).map fun signal =>
      (signal, rawWeight signal))).values.map abs).sum =
      ((directional signals).map fun signal => |rawWeight signal|).sum := by
    unfold values
    rw [raw, map_map, map_map]
    rfl
  unfold constructNormalized
  simp only [total, raw, map_map, comp_def]
  by_cases empty : directional signals = []
  · simp [empty]
  · rw [if_neg empty]
    split
    · rfl
    · exact buildTargets_weights chosen _ _ (ofItems_weights chosen _) _

theorem constructShares_eq (strength : Signal → Decimal) :
    constructShares config intentIds strength signals =
      if ((directional signals).map strength).sum = 0 then flatCloseTargets intentIds signals
      else portfolio intentIds (fun signal => capWeight config.maxSingleWeight
        (directionSign signal * (shareOf strength signals signal) *
          config.targetGrossExposure)) signals := by
  have chosen := directional_nodup distinct
  have zipped : (directional signals).zip ((directional signals).map strength) =
      (directional signals).map fun signal => (signal, strength signal) := by
    apply (zip_of_prod ?_ ?_).symm <;> simp [comp_def]
  unfold constructShares
  simp only [zipped, map_map, comp_def]
  by_cases empty : directional signals = []
  · simp [empty]
  · rw [if_neg empty]
    split
    · rfl
    · exact buildTargets_weights chosen _ _ (ofItems_weights chosen _) _

theorem constructNormalized_respects {rawWeight strength : Signal → Decimal}
    (raw : ∀ signal, rawWeight signal = directionSign signal * strength signal)
    (nonneg : ∀ signal, 0 ≤ strength signal) :
    Respects config strength signals (constructNormalized config intentIds rawWeight signals) := by
  have sizes : ∀ signal, |rawWeight signal| = strength signal := fun signal => by
    rw [raw, abs_directionSign_mul, abs_of_nonneg (nonneg signal)]
  rw [constructNormalized_eq distinct]
  simp only [sizes]
  split
  · next zero =>
    apply respects_flat
    intro signal mem
    exact eq_zero_of_sum_eq_zero (fun other _ => nonneg other) zero signal mem
  · next nonzero =>
    have weights : (fun signal => capWeight config.maxSingleWeight (rawWeight signal *
        (config.targetGrossExposure / ((directional signals).map strength).sum))) =
        fun signal => capWeight config.maxSingleWeight (directionSign signal *
          (shareOf strength signals signal * config.targetGrossExposure)) := by
      funext signal
      rw [raw]
      unfold shareOf
      congr 1
      field_simp
    rw [weights]
    apply respects_shares
    · intro signal _
      apply div_nonneg (nonneg signal)
      apply sum_nonneg
      simpa using fun signal _ => nonneg signal
    · exact sum_shareOf nonzero
    · exact fun _ _ => rfl

theorem constructShares_respects {strength : Signal → Decimal}
    (oneSided : (∀ signal ∈ directional signals, 0 ≤ strength signal) ∨
      ∀ signal ∈ directional signals, strength signal ≤ 0) :
    Respects config (fun signal => |strength signal|) signals
      (constructShares config intentIds strength signals) := by
  have sameShare : ∀ signal ∈ directional signals,
      shareOf (fun signal => |strength signal|) signals signal =
        shareOf strength signals signal := by
    intro signal mem
    unfold shareOf
    dsimp only
    rcases oneSided with nonneg | nonpos
    · rw [abs_of_nonneg (nonneg signal mem)]
      congr 2
      exact map_congr_left fun other inside => abs_of_nonneg (nonneg other inside)
    · have negated : ((directional signals).map fun signal => |strength signal|).sum =
          -((directional signals).map strength).sum := by
        rw [← sum_map_neg]
        congr 1
        exact map_congr_left fun other inside => abs_of_nonpos (nonpos other inside)
      rw [abs_of_nonpos (nonpos signal mem), negated, neg_div_neg_eq]
  rw [constructShares_eq distinct]
  split
  · next zero =>
    apply respects_flat
    intro signal mem
    rw [abs_eq_zero]
    rcases oneSided with nonneg | nonpos
    · exact eq_zero_of_sum_eq_zero nonneg zero signal mem
    · have negated : ((directional signals).map fun signal => -strength signal).sum = 0 := by
        rw [sum_map_neg, zero, neg_zero]
      have bounded : ∀ signal ∈ directional signals, 0 ≤ -strength signal :=
        fun other inside => by linarith [nonpos other inside]
      linarith [eq_zero_of_sum_eq_zero bounded negated signal mem]
  · next nonzero =>
    simp only [mul_assoc]
    apply respects_shares
    · intro signal mem
      rw [← sameShare signal mem]
      apply div_nonneg (abs_nonneg _)
      apply sum_nonneg
      simp
    · exact sum_shareOf nonzero
    · exact sameShare

theorem oneSided_of_respects {strength : Signal → Decimal}
    (respects : Respects config (fun signal => |strength signal|) signals
      (constructShares config intentIds strength signals)) :
    (∀ signal ∈ directional signals, 0 ≤ strength signal) ∨
      ∀ signal ∈ directional signals, strength signal ≤ 0 := by
  by_contra mixed
  simp only [not_or, not_forall, not_le, exists_prop] at mixed
  obtain ⟨⟨negative, negativeMember, below⟩, pos, positiveMember, above⟩ := mixed
  have sized := respects.sized ⟨negative, negativeMember, abs_ne_zero.mpr below.ne⟩
  have targets := sized.sizes
  rw [constructShares_eq distinct] at targets
  split at targets
  · rw [percentTargets_flat, forall₂_nil_right_iff] at targets
    rw [targets] at negativeMember
    exact not_mem_nil negativeMember
  · next nonzero =>
    rw [percentTargets_portfolio] at targets
    have sides := of_forall₂_weightedTargets targets
    -- The weight of a strength on the other side of zero than the total is on the wrong side.
    have wrong : ∀ signal ∈ directional signals, 0 ≤ shareOf strength signals signal := by
      intro signal mem
      by_contra share
      have weight : directionSign signal * (directionSign signal *
          shareOf strength signals signal * config.targetGrossExposure) < 0 := by
        rw [mul_assoc (directionSign signal), directionSign_mul_self]
        exact mul_neg_of_neg_of_pos (not_le.mp share) config.grossPositive
      have capped := capWeight_side config.maxPositive signal weight
      exact absurd (sides signal mem) (not_le.mpr capped)
    rcases lt_or_gt_of_ne nonzero with total | total
    · exact absurd (wrong pos positiveMember) (not_le.mpr (div_neg_of_pos_of_neg above total))
    · exact absurd (wrong negative negativeMember) (not_le.mpr (div_neg_of_neg_of_pos below total))

end

end PortfolioConstruction

theorem Signal.confidence_nonneg (signal : Signal) : 0 ≤ signal.confidence := by
  have checks := (Check.firstFailure_none _).mp signal.valid
  have confident := checks ⟨decide (signal.confidence < 0) || decide (1 < signal.confidence),
    "confidence must be in [0, 1]"⟩ (by simp [SignalFields.checks])
  simp only [Bool.or_eq_false_iff, decide_eq_false_iff_not, not_lt] at confident
  exact confident.1

theorem Signal.horizon_pos (signal : Signal) : 0 < signal.horizon := by
  have checks := (Check.firstFailure_none _).mp signal.valid
  have horizon := checks ⟨decide (signal.horizon ≤ 0), "horizon must be positive"⟩
    (by simp [SignalFields.checks])
  simpa using horizon

inductive PortfolioConstructionModel
  | confidenceWeighted (model : ConfidenceWeightedSignalPortfolioConstruction)
  | magnitudeWeighted (model : MagnitudeWeightedSignalPortfolioConstruction)
  | riskParity (model : RiskParitySignalPortfolioConstruction)
  | horizonAware (model : HorizonAwareSignalPortfolioConstruction)

namespace PortfolioConstructionModel

def construct (intentIds : Nat → String) (signals : List Signal) :
    PortfolioConstructionModel → List TargetIntent
  | confidenceWeighted model => model.construct intentIds signals
  | magnitudeWeighted model => model.construct intentIds signals
  | riskParity model => model.construct intentIds signals
  | horizonAware model => model.construct intentIds signals

def configuration : PortfolioConstructionModel → Configuration
  | confidenceWeighted model => model.toConfiguration
  | magnitudeWeighted model => model.toConfiguration
  | riskParity model => model.toConfiguration
  | horizonAware model => model.toConfiguration

def strength (signal : Signal) : PortfolioConstructionModel → Decimal
  | confidenceWeighted _ => signal.confidence
  | magnitudeWeighted _ => |signal.magnitudeOrOne|
  | riskParity _ => RiskParitySignalPortfolioConstruction.invConfidence signal
  | horizonAware model => |signal.magnitudeOrOne| * model.horizonFactor signal

/-- No two directional signals have magnitudes of opposite signs. -/
def MagnitudesOneSided (signals : List Signal) : Prop :=
  (∀ signal ∈ directional signals, 0 ≤ signal.magnitudeOrOne) ∨
    ∀ signal ∈ directional signals, signal.magnitudeOrOne ≤ 0

theorem horizonFactor_nonneg (model : HorizonAwareSignalPortfolioConstruction) (signal : Signal) :
    0 ≤ model.horizonFactor signal := by
  have horizon : (0 : Decimal) < signal.horizon := by exact_mod_cast signal.horizon_pos
  have reference : (0 : Decimal) < model.referenceHorizon := by exact_mod_cast model.horizonPositive
  apply le_min zero_le_one
  unfold totalSeconds
  positivity

theorem invConfidence_pos (signal : Signal) :
    0 < RiskParitySignalPortfolioConstruction.invConfidence signal := by
  have floor : (0 : Decimal) < max signal.confidence (1 / 100) :=
    lt_of_lt_of_le (by norm_num) (le_max_right _ _)
  exact one_div_pos.mpr floor

/-- The portfolios of all four constructions respect direction, cap and gross exposure, those of
the magnitude-weighted one exactly where the magnitudes do not have opposite signs. -/
theorem construct_respects_iff (model : PortfolioConstructionModel) (intentIds : Nat → String)
    {signals : List Signal} (distinct : (signals.map fun signal => signal.asset).Nodup) :
    Respects model.configuration (fun signal => model.strength signal)
        signals (model.construct intentIds signals) ↔
      ∀ config, model = .magnitudeWeighted config → MagnitudesOneSided signals := by
  cases model with
  | confidenceWeighted model =>
    simp only [reduceCtorEq, false_imp_iff, implies_true, iff_true]
    exact constructNormalized_respects distinct (fun _ => rfl)
      Signal.confidence_nonneg
  | magnitudeWeighted model =>
    constructor
    · intro respects config _
      exact oneSided_of_respects distinct respects
    · intro oneSided
      exact constructShares_respects distinct (oneSided model rfl)
  | riskParity model =>
    simp only [reduceCtorEq, false_imp_iff, implies_true, iff_true]
    have respects := @constructShares_respects model.toConfiguration intentIds
      signals distinct _ (.inl fun signal _ => (invConfidence_pos signal).le)
    simp only [abs_of_pos (invConfidence_pos _)] at respects
    exact respects
  | horizonAware model =>
    simp only [reduceCtorEq, false_imp_iff, implies_true, iff_true]
    exact constructNormalized_respects distinct
      (fun signal => mul_assoc _ _ _)
      (fun signal => mul_nonneg (abs_nonneg _) (horizonFactor_nonneg model signal))

namespace TwoForecasts

def forecast (text symbol : String) (visible : isBlank text = false)
    (shown : isBlank symbol = false) (magnitude : Decimal) : Signal where
  asset := { instrumentId := ⟨⟨text, visible⟩⟩, symbol, symbolShown := shown }
  direction := .up
  generatedAt := 0
  horizon := 3600000000
  sourceModel := "momentum"
  magnitude := some magnitude
  valid := by simp [SignalFields.checks, Check.firstFailure, isBlank, isSpace]

def defaults : Configuration where
  grossPositive := by norm_num
  maxPositive := by norm_num

def rising : Signal := forecast "XNAS.AAPL" "AAPL" (by decide) (by decide) 2

/-- An upward forecast with a magnitude below zero. -/
def inverted : Signal := forecast "XNAS.MSFT" "MSFT" (by decide) (by decide) (-1)

/-- A downward forecast. -/
def falling : Signal where
  toSignalFields := {
    (forecast "XNAS.MSFT" "MSFT" (by decide) (by decide) 1).toSignalFields with direction := .down }
  valid := by
    simp [forecast, SignalFields.checks, Check.firstFailure, isBlank, isSpace]
    decide +kernel

theorem mixed : ¬ MagnitudesOneSided [rising, inverted] := by
  rintro (nonneg | nonpos)
  · exact absurd (nonneg inverted (by decide +kernel)) (by decide +kernel)
  · exact absurd (nonpos rising (by decide +kernel)) (by decide +kernel)

end TwoForecasts

/-- Forecasts up by two and down by one share the gross exposure, the first up to the cap; and by
confidence also the forecasts whose magnitudes differ in sign do. -/
theorem construct_respects_iff_opposed :
    Respects TwoForecasts.defaults
        (fun signal => strength signal (.magnitudeWeighted ⟨TwoForecasts.defaults⟩))
        [TwoForecasts.rising, TwoForecasts.falling]
        (construct (fun _ => "intent") [TwoForecasts.rising, TwoForecasts.falling]
          (.magnitudeWeighted ⟨TwoForecasts.defaults⟩)) ∧
      Respects TwoForecasts.defaults
        (fun signal => strength signal (.confidenceWeighted ⟨TwoForecasts.defaults⟩))
        [TwoForecasts.rising, TwoForecasts.inverted]
        (construct (fun _ => "intent") [TwoForecasts.rising, TwoForecasts.inverted]
          (.confidenceWeighted ⟨TwoForecasts.defaults⟩)) := by
  constructor
  · apply (construct_respects_iff (.magnitudeWeighted ⟨TwoForecasts.defaults⟩) (fun _ => "intent")
      (by decide +kernel)).mpr
    intro _ _
    exact .inl (by decide +kernel)
  · exact (construct_respects_iff (.confidenceWeighted ⟨TwoForecasts.defaults⟩)
      (fun _ => "intent") (by decide +kernel)).mpr nofun

/-- Magnitudes two and minus one: the second upward forecast is sold short. -/
theorem magnitudes_invert_forecast :
    ¬ ∀ (model : PortfolioConstructionModel) (intentIds : Nat → String) (signals : List Signal),
      (signals.map fun signal => signal.asset).Nodup →
      Respects model.configuration (fun signal => model.strength signal)
        signals (model.construct intentIds signals) := by
  intro always
  have respects := always (.magnitudeWeighted ⟨TwoForecasts.defaults⟩) (fun _ => "intent")
    [TwoForecasts.rising, TwoForecasts.inverted] (by decide +kernel)
  exact TwoForecasts.mixed
    (oneSided_of_respects (by decide +kernel) respects)

end PortfolioConstructionModel

end Qts
