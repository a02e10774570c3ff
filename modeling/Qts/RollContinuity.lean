import Qts.BackAdjustedSeries

/-! # Continuity at rolls -/

namespace Qts

open SwitchRatios PythonText RollAdjustmentPoint List

namespace FutureRollRegistry

variable {registry : FutureRollRegistry} {front : InstrumentId}
  {history : List FutureRollSelection}

def ratiosOf (registry : FutureRollRegistry) (front : InstrumentId)
    (changes : List (Switch DateTime InstrumentId)) : Decimal :=
  (changes.map fun change => ratio (registry.priceAt front change.time) change).prod

theorem cumulative_foldl (points : List RollAdjustmentPoint) (asOf : DateTime) (product : Decimal) :
    points.foldl (fun product point =>
        if asOf < point.asOf then product * point.adjustmentFactor else product) product =
      product * ((points.filter fun point => asOf < point.asOf).map
        adjustmentFactor).prod := by
  induction points generalizing product with
  | nil => simp
  | cons point points ih =>
    rw [foldl_cons, ih]
    by_cases later : asOf < point.asOf
    · simp [later, mul_assoc]
    · simp [later]

theorem cumulative_eq {points : List RollAdjustmentPoint}
    (adjusts : ∀ point ∈ points, registry.Adjusts front point) (asOf : DateTime) :
    cumulative points asOf = registry.ratiosOf front
      ((points.map change).filter fun change => asOf < change.time) := by
  unfold cumulative ratiosOf
  rw [cumulative_foldl, one_mul, filter_map, map_map]
  congr 1
  apply map_congr_left
  intro point mem
  exact (adjusts point (mem_of_mem_filter mem)).factor

variable {changes : List (Switch DateTime InstrumentId)}

theorem ratiosOf_pos
    (pos : ∀ change ∈ changes, registry.PositiveAt front change) :
    0 < registry.ratiosOf front changes := by
  induction changes with
  | nil => exact one_pos
  | cons change changes ih =>
    have first := pos change mem_cons_self
    have rest := ih fun other mem => pos other (mem_cons_of_mem _ mem)
    unfold ratiosOf at rest ⊢
    rw [map_cons, prod_cons]
    exact mul_pos (div_pos first.old first.new) rest

structure HasRolls (registry : FutureRollRegistry) (front : InstrumentId)
    (history : List FutureRollSelection) : Prop extends registry.HasHistory front history where
  pos : ∀ change ∈ contractSwitches history, registry.PositiveAt front change

variable {continuousId : InstrumentId}

theorem HasRolls.buildAdjustmentFactors_ok (rolls : registry.HasRolls front history)
    (resolved : registry.frontContinuousId continuousId = front) :
    ∃ points, registry.buildAdjustmentFactors continuousId = .ok points ∧
      points.map change = contractSwitches history ∧
      ∀ point ∈ points, registry.Adjusts front point := by
  have found : registry.selectionHistory front = .ok history := by
    unfold selectionHistory lookup
    rw [rolls.kept]
  unfold buildAdjustmentFactors
  rw [resolved]
  dsimp only
  rw [found]
  cases history with
  | nil => exact ⟨[], rfl, rfl, by simp⟩
  | cons first rest =>
    apply adjustmentPoints_ok rolls.frontContinuousId _ rolls.pos
    intro change mem
    obtain ⟨⟨old, oldMember, oldReached, isOld⟩, new, newMember, newReached, isNew⟩ :=
      rolls.mem_contractSwitches mem
    obtain ⟨inForce, selects, oldKnown⟩ := rolls.priceAt_known oldMember oldReached
    obtain ⟨sameInForce, sameSelects, newKnown⟩ := rolls.priceAt_known newMember newReached
    cases selects.symm.trans sameSelects
    rw [isOld] at oldKnown
    rw [isNew] at newKnown
    exact ⟨inForce, selects, oldKnown, newKnown⟩

theorem HasRolls.adjustedPrice_eq (rolls : registry.HasRolls front history)
    (resolved : registry.frontContinuousId continuousId = front) (rawPrice : Decimal)
    (asOf : DateTime) :
    registry.adjustedPrice rawPrice asOf continuousId =
      .ok (rawPrice / registry.ratiosOf front
        ((contractSwitches history).filter fun change => asOf < change.time)) := by
  obtain ⟨points, made, changes, adjusts⟩ :=
    rolls.buildAdjustmentFactors_ok rolls.frontContinuousId
  have product := cumulative_eq adjusts asOf
  rw [changes] at product
  have pos : 0 < registry.ratiosOf front
      ((contractSwitches history).filter fun change => asOf < change.time) :=
    ratiosOf_pos fun change mem => rolls.pos change (mem_of_mem_filter mem)
  unfold adjustedPrice
  simp only [bind, Except.bind, resolved, made, product]
  rw [if_neg pos.ne']
  rfl

def contractBefore (history : List FutureRollSelection) (time : DateTime) : Option InstrumentId :=
  history.head?.map fun first =>
    holderOf (fun other => other < time) first.concreteInstrumentId (history.tail.map rollEntry)

variable {time : DateTime}

theorem HasHistory.selectionAt_holder (has : registry.HasHistory front history)
    {first : FutureRollSelection} {rest : List FutureRollSelection}
    (starts : history = first :: rest) (reached : first.asOf ≤ time) :
    ∃ inForce, registry.selectionAt front time = .ok inForce ∧
      inForce.concreteInstrumentId = holderOf (fun other => other ≤ time)
        first.concreteInstrumentId (rest.map rollEntry) := by
  have selects := has.chronological.selectionAt_latest has.kept time
  rw [starts, latestUpTo, filter_cons, if_pos (decide_eq_true reached), getLast?_cons] at selects
  refine ⟨_, selects, ?_⟩
  rw [holderOf_eq_getLast, filter_map]
  have same : (rest.filter fun other => decide (other.asOf ≤ time)) =
      rest.filter ((fun entry : Entry DateTime InstrumentId => decide (entry.time ≤ time)) ∘
        rollEntry) := rfl
  rw [← same, getLast?_map]
  cases (rest.filter fun other => decide (other.asOf ≤ time)).getLast? <;> rfl

/-- At a roll time the old contract's price just before it and the new contract's price at it,
both as recorded by then, are adjusted to the same price. -/
def ContinuousAt (registry : FutureRollRegistry) (front continuousId : InstrumentId)
    (history : List FutureRollSelection) (time : DateTime) : Prop :=
  ∃ old inForce oldPrice newPrice, contractBefore history time = some old ∧
    registry.selectionAt front time = .ok inForce ∧
    registry.executionPrice continuousId old time = .ok oldPrice ∧
    registry.executionPrice continuousId inForce.concreteInstrumentId time = .ok newPrice ∧
    ∀ before < time, (∀ change ∈ contractSwitches history, ¬ (before < change.time ∧
        change.time < time)) →
      (∀ selection, registry.selectionAt front before = .ok selection →
        selection.concreteInstrumentId = old) ∧
      ∃ adjusted, registry.adjustedPrice oldPrice before continuousId = .ok adjusted ∧
        registry.adjustedPrice newPrice time continuousId = .ok adjusted

theorem HasHistory.executionPrice_known (has : registry.HasHistory front history)
    (resolved : registry.frontContinuousId continuousId = front) {selection : FutureRollSelection}
    (mem : selection ∈ history) (reached : selection.asOf ≤ time) :
    registry.executionPrice continuousId selection.concreteInstrumentId time =
      .ok (registry.priceAt front time selection.concreteInstrumentId) := by
  obtain ⟨inForce, selects, known⟩ := has.priceAt_known mem reached
  unfold executionPrice
  simp only [bind, Except.bind, resolved, selects, known]
  rfl

theorem HasHistory.started (has : registry.HasHistory front history) {first : FutureRollSelection}
    {rest : List FutureRollSelection} (starts : history = first :: rest)
    {selection : FutureRollSelection} (selected : registry.selectionAt front time = .ok selection) :
    first.asOf ≤ time := by
  have ordered := has.chronological.history_ordered has.kept
  rw [has.chronological.selectionAt_latest has.kept] at selected
  unfold latestUpTo at selected
  cases last : (history.filter fun other => decide (other.asOf ≤ time)).getLast? with
  | none =>
    rw [last] at selected
    cases selected
  | some latest =>
    obtain ⟨mem, reached⟩ := mem_filter.mp (mem_of_getLast? last)
    rw [decide_eq_true_eq] at reached
    rw [starts] at mem ordered
    rcases mem_cons.mp mem with rfl | later
    · exact reached
    · exact (rel_of_pairwise_cons ordered later).trans reached

theorem holderOf_rollEntry_mem {counts : DateTime → Bool} {first : FutureRollSelection}
    {rest : List FutureRollSelection} {time : DateTime} (reached : first.asOf ≤ time)
    (within : ∀ other, counts other = true → other ≤ time) :
    ∃ selection ∈ first :: rest, selection.asOf ≤ time ∧ selection.concreteInstrumentId =
      holderOf counts first.concreteInstrumentId (rest.map rollEntry) := by
  rcases holderOf_mem counts first.concreteInstrumentId (rest.map rollEntry) with
    isFirst | ⟨entry, inside, isCounted, isHolder⟩
  · exact ⟨first, mem_cons_self, reached, isFirst.symm⟩
  · obtain ⟨selection, inRest, rfl⟩ := mem_map.mp inside
    exact ⟨selection, mem_cons_of_mem _ inRest, within _ isCounted, isHolder⟩

theorem ratiosOf_atTime (changes : List (Switch DateTime InstrumentId)) (time : DateTime) :
    registry.ratiosOf front (changes.filter fun change => change.time = time) =
      ((changes.filter fun change => change.time = time).map
        (ratio (registry.priceAt front time))).prod := by
  unfold ratiosOf
  congr 1
  apply map_congr_left
  intro change mem
  rw [of_decide_eq_true (mem_filter.mp mem).2]

theorem ratiosOf_split {before time : DateTime}
    (earlier : before < time)
    (quiet : ∀ change ∈ changes, ¬ (before < change.time ∧ change.time < time)) :
    registry.ratiosOf front (changes.filter fun change => before < change.time) =
      registry.ratiosOf front (changes.filter fun change => change.time = time) *
        registry.ratiosOf front (changes.filter fun change => time < change.time) := by
  apply prod_filter_split
  · intro change mem
    have notBetween := quiet change mem
    rw [Bool.eq_iff_iff, Bool.or_eq_true, decide_eq_true_eq, decide_eq_true_eq, decide_eq_true_eq]
    constructor
    · intro later
      rcases lt_trichotomy change.time time with less | same | more
      · exact absurd ⟨later, less⟩ notBetween
      · exact .inl same
      · exact .inr more
    · rintro (same | more)
      · rwa [same]
      · exact earlier.trans more
  · rintro change - ⟨same, more⟩
    rw [decide_eq_true_eq] at same more
    exact absurd same more.ne'

theorem HasRolls.continuousAt (rolls : registry.HasRolls front history)
    (resolved : registry.frontContinuousId continuousId = front)
    {roll : Switch DateTime InstrumentId} (mem : roll ∈ contractSwitches history) :
    registry.ContinuousAt front continuousId history roll.time := by
  have ordered := rolls.ordered
  cases history with
  | nil => cases mem
  | cons first rest =>
    obtain ⟨starts, inOrder⟩ := pairwise_cons.mp ordered
    obtain ⟨entry, inside, sameTime, -⟩ := mem_switchesFrom mem
    have reached : first.asOf ≤ roll.time := sameTime ▸ starts entry inside
    obtain ⟨inForce, selects, isNew⟩ := rolls.selectionAt_holder rfl reached
    obtain ⟨old, oldMember, oldReached, isOld⟩ := @holderOf_rollEntry_mem
      (fun other => other < roll.time) first rest roll.time reached
      fun other less => (of_decide_eq_true less).le
    obtain ⟨new, newMember, newReached, isHolder⟩ := @holderOf_rollEntry_mem
      (fun other => other ≤ roll.time) first rest roll.time reached
      fun other le => of_decide_eq_true le
    rw [← isNew] at isHolder
    have oldPriced := rolls.executionPrice_known resolved oldMember oldReached
    have newPriced := rolls.executionPrice_known resolved newMember newReached
    rw [isHolder] at newPriced
    refine ⟨old.concreteInstrumentId, inForce, _, _, ?_, selects, oldPriced, newPriced, ?_⟩
    · exact congrArg some isOld.symm
    intro before earlier quiet
    have telescopes := ratios_telescope inOrder roll.time (registry.priceAt front roll.time)
      fun change changeMember atTime => by
        have pos := (rolls.pos change changeMember).new
        rw [atTime] at pos
        exact pos.ne'
    rw [← isNew, ← isOld] at telescopes
    rw [← ratiosOf_atTime] at telescopes
    change registry.ratiosOf front ((contractSwitches (first :: rest)).filter _) * _ = _
      at telescopes
    have pos : 0 < registry.ratiosOf front
        ((contractSwitches (first :: rest)).filter fun change => change.time = roll.time) :=
      ratiosOf_pos fun change inFilter => rolls.pos change (mem_of_mem_filter inFilter)
    refine ⟨?_, _, rolls.adjustedPrice_eq resolved _ _, ?_⟩
    · intro selection selected
      obtain ⟨same, sameSelects, isHolderBefore⟩ :=
        rolls.selectionAt_holder rfl (rolls.started rfl selected)
      cases selected.symm.trans sameSelects
      rw [isHolderBefore, isOld]
      exact (holderOf_quiet inOrder earlier quiet).symm
    · rw [rolls.adjustedPrice_eq resolved, ratiosOf_split earlier quiet, ← telescopes,
        mul_div_mul_left _ _ pos.ne']

/-- The series of a front whose selections price their own contracts is continuous at every roll,
however many switches it has, where the prices at the switches are positive: the builder has a point
for every switch, and after the last one prices are as they were. -/
theorem backAdjusted_continuous (caps : UpperCase) (retainHistory : Bool)
    {commands : List RollCommand} (itself : ∀ command ∈ commands, PricesItself command)
    {front continuousId : InstrumentId} {history : List FutureRollSelection}
    (isFront : (filled caps retainHistory commands).frontByDeferred.get? front = none)
    (resolved : (filled caps retainHistory commands).frontContinuousId continuousId = front)
    (kept : (filled caps retainHistory commands).selectionsByContinuous.get? front =
      some history)
    (pos : ∀ change ∈ contractSwitches history,
      (filled caps retainHistory commands).PositiveAt front change) :
    (∃ points, (filled caps retainHistory commands).buildAdjustmentFactors continuousId =
        .ok points ∧
      points.map change = contractSwitches history) ∧
    (∀ roll ∈ contractSwitches history,
      (filled caps retainHistory commands).ContinuousAt front continuousId history roll.time) ∧
    ∀ rawPrice asOf, (∀ change ∈ contractSwitches history, change.time ≤ asOf) →
      (filled caps retainHistory commands).adjustedPrice rawPrice asOf continuousId =
        .ok rawPrice := by
  have chronological : (filled caps retainHistory commands).Chronological :=
    StepRuns.final_invariant step_chronological (chronological_empty retainHistory) commands
  have rolls : (filled caps retainHistory commands).HasRolls front history :=
    ⟨⟨chronological, filled_allPriced retainHistory itself, isFront, kept⟩, pos⟩
  refine ⟨?_, fun roll mem => rolls.continuousAt resolved mem, ?_⟩
  · obtain ⟨points, made, changes, -⟩ := rolls.buildAdjustmentFactors_ok resolved
    exact ⟨points, made, changes⟩
  · intro rawPrice asOf last
    have none : ((contractSwitches history).filter fun change => asOf < change.time) = [] := by
      apply filter_eq_nil_iff.mpr
      intro change mem later
      exact absurd (of_decide_eq_true later) (not_lt.mpr (last change mem))
    rw [rolls.adjustedPrice_eq resolved, none]
    simp [ratiosOf]

namespace GoldRolls

def gcm : InstrumentId := ⟨⟨"FUTURE.CME.GC.GCM5", rfl⟩⟩

def gcq : InstrumentId := ⟨⟨"FUTURE.CME.GC.GCQ5", rfl⟩⟩

def gold : InstrumentId := ⟨⟨"CONTINUOUS_FUTURE.CME.GC", rfl⟩⟩

def selectionOf (contract : InstrumentId) (asOf : DateTime)
    (prices : List (InstrumentId × Decimal)) : FutureRollSelection where
  continuousInstrumentId := gold
  rootSymbol := "GC"
  asOf := asOf
  concreteInstrumentId := contract
  sourceSymbol := "GC"
  pricesByInstrument := .ofItems prices
  valid := by
    change Check.firstFailure [⟨isBlank "GC", _⟩, ⟨isBlank "GC", _⟩] = none
    decide

def rollingAt (oldPrice : Decimal) : List RollCommand :=
  [.registerRoot "GC" "CME" [gcm, gcq], .recordSelection (selectionOf gcm 0 [(gcm, 3300)]),
    .recordSelection (selectionOf gcq 1 [(gcm, oldPrice), (gcq, 3320)])]

theorem rollingAt_pricesItself (oldPrice : Decimal) :
    ∀ command ∈ rollingAt oldPrice, PricesItself command := by
  intro command mem
  simp only [rollingAt, mem_cons, not_mem_nil, or_false] at mem
  rcases mem with rfl | rfl | rfl
  · trivial
  · change Option.isSome _ = true
    rfl
  · change Option.isSome _ = true
    rfl

theorem rollingAt_switches :
    ((filled UpperCase.ascii true (rollingAt 3310)).selectionsByContinuous.get? gold).map
      contractSwitches = some [⟨1, gcm, gcq⟩] := by
  decide +kernel

theorem rollingAt_positive :
    (filled UpperCase.ascii true (rollingAt 3310)).PositiveAt gold ⟨1, gcm, gcq⟩ where
  old := by decide +kernel
  new := by decide +kernel

theorem backAdjusted_continuous_june :
    ∃ history,
      (filled UpperCase.ascii true (rollingAt 3310)).selectionsByContinuous.get? gold =
        some history ∧
      (filled UpperCase.ascii true (rollingAt 3310)).ContinuousAt gold gold history 1 := by
  have switches := rollingAt_switches
  cases kept : (filled UpperCase.ascii true (rollingAt 3310)).selectionsByContinuous.get? gold with
  | none =>
    rw [kept] at switches
    cases switches
  | some history =>
    rw [kept, Option.map_some, Option.some.injEq] at switches
    refine ⟨history, rfl, ?_⟩
    have pos : ∀ change ∈ contractSwitches history,
        (filled UpperCase.ascii true (rollingAt 3310)).PositiveAt gold change := by
      rw [switches]
      intro change mem
      rw [mem_singleton.mp mem]
      exact rollingAt_positive
    have all := @backAdjusted_continuous UpperCase.ascii true _
      (rollingAt_pricesItself 3310) gold gold history (by decide +kernel) (by decide +kernel) kept
      pos
    exact all.2.1 ⟨1, gcm, gcq⟩ (by rw [switches]; exact mem_singleton_self _)

/-- At a price of nothing for the old contract there is no series. -/
theorem worthless_contract_stops_builder :
    (∀ command ∈ rollingAt 0, ∀ selection, command = .recordSelection selection →
      ∃ price, selection.pricesByInstrument.get? selection.concreteInstrumentId = some price ∧
        0 < price) ∧
      ((filled UpperCase.ascii true (rollingAt 0)).selectionsByContinuous.get? gold).map
        contractSwitches = some [⟨1, gcm, gcq⟩] ∧
      ((filled UpperCase.ascii true (rollingAt 0)).buildAdjustmentFactors gold).map
        (fun points => points.map change) =
        .error (.valueError "adjustment_factor must be positive") := by
  refine ⟨?_, by decide +kernel, by decide +kernel⟩
  intro command mem selection recorded
  simp only [rollingAt, mem_cons, not_mem_nil, or_false] at mem
  rcases mem with rfl | rfl | rfl
  · cases recorded
  · cases recorded
    exact ⟨3300, rfl, by decide +kernel⟩
  · cases recorded
    exact ⟨3320, rfl, by decide +kernel⟩

end GoldRolls

end FutureRollRegistry

end Qts
