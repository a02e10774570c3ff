import Qts.SwitchRatios
import Qts.RollStability
import Mathlib.Algebra.Order.BigOperators.Group.List
import Mathlib.Algebra.Order.Field.Rat

/-! # Back-adjusted series -/

namespace Qts

open Dict List

namespace FutureRollRegistry

def latestUpTo (selections : List FutureRollSelection) (asOf : DateTime) :
    Option FutureRollSelection :=
  (selections.filter fun selection => decide (selection.asOf ≤ asOf)).getLast?

theorem takeWhile_asOf_eq_filter {selections : List FutureRollSelection}
    (ordered : selections.Pairwise fun first second => first.asOf ≤ second.asOf) (asOf : DateTime) :
    (selections.takeWhile fun selection => decide (selection.asOf ≤ asOf)) =
      selections.filter fun selection => decide (selection.asOf ≤ asOf) := by
  induction selections with
  | nil => rfl
  | cons selection rest ih =>
    obtain ⟨first, later⟩ := pairwise_cons.mp ordered
    by_cases reached : selection.asOf ≤ asOf
    · have passes : decide (selection.asOf ≤ asOf) = true := decide_eq_true reached
      rw [takeWhile_cons, filter_cons, passes, if_pos rfl, if_pos rfl, ih later]
    · have stops : decide (selection.asOf ≤ asOf) = false := decide_eq_false reached
      have none : rest.filter (fun other => decide (other.asOf ≤ asOf)) = [] := by
        refine filter_eq_nil_iff.mpr ?_
        intro other mem before
        exact reached (Int.le_trans (first other mem) (of_decide_eq_true before))
      rw [takeWhile_cons, filter_cons, stops, none]
      rfl

variable {history : List FutureRollSelection}

theorem Chronological.history_ordered {registry : FutureRollRegistry}
    (chronological : registry.Chronological) {front : InstrumentId}
    (kept : registry.selectionsByContinuous.get? front = some history) :
    history.Pairwise fun first second => first.asOf ≤ second.asOf := by
  have times := chronological.times front
  rw [kept, Option.map_some] at times
  exact pairwise_map.mp (chronological.ordered front _ times)

theorem Chronological.selectionAt_latest {registry : FutureRollRegistry}
    (chronological : registry.Chronological) {front : InstrumentId}
    (kept : registry.selectionsByContinuous.get? front = some history) (asOf : DateTime) :
    registry.selectionAt front asOf =
      match latestUpTo history asOf with
      | some selection => .ok selection
      | none => .error (.missingRollSelection front asOf) := by
  have times := chronological.times front
  rw [kept, Option.map_some] at times
  have ordered := chronological.history_ordered kept
  have passed : bisectRight (history.map (·.asOf)) asOf =
      (history.takeWhile fun selection => decide (selection.asOf ≤ asOf)).length := by
    rw [bisectRight, takeWhile_map, length_map]
    rfl
  rw [selectionAt_eq kept times, passed, latestUpTo, ← takeWhile_asOf_eq_filter ordered]
  have isPrefix : (history.takeWhile fun selection => decide (selection.asOf ≤ asOf)) <+: history :=
    takeWhile_prefix _
  obtain ⟨rest, split⟩ := isPrefix
  rcases eq_nil_or_concat
      (history.takeWhile fun selection => decide (selection.asOf ≤ asOf)) with
    none | ⟨front, last, some⟩
  · rw [none]
    rfl
  · rw [some] at split ⊢
    rw [concat_eq_append] at split ⊢
    rw [length_append, getLast?_concat]
    dsimp only [length_singleton]
    rw [← split, append_assoc, getElem?_append_right le_rfl, Nat.sub_self]
    rfl

theorem get?_foldl_set {items : List (InstrumentId × Decimal)}
    (distinct : (items.map Prod.fst).Nodup) (latest : Dict InstrumentId Decimal)
    (instrumentId : InstrumentId) :
    (items.foldl (fun latest item => latest.set item.1 item.2) latest).get? instrumentId =
      (items.lookup instrumentId).or (latest.get? instrumentId) := by
  induction items generalizing latest with
  | nil => rfl
  | cons item rest ih =>
    obtain ⟨absent, later⟩ := nodup_cons.mp distinct
    rw [foldl_cons, ih later, get?_set]
    by_cases same : instrumentId = item.1
    · subst same
      have missing : rest.lookup item.1 = none := by
        rw [lookup_eq_none_iff]
        intro other mem
        rw [bne_iff_ne]
        intro equal
        exact absent (equal ▸ mem_map_of_mem mem)
      rw [missing, if_pos rfl, lookup_cons_self]
      rfl
    · have other : (instrumentId == item.1) = false := beq_eq_false_iff_ne.mpr same
      rw [if_neg same, lookup_cons, other]

theorem get?_mergedPrices (latest : Dict InstrumentId Decimal)
    (selection : FutureRollSelection) (instrumentId : InstrumentId) :
    (mergedPrices latest selection).get? instrumentId =
      (selection.pricesByInstrument.get? instrumentId).or (latest.get? instrumentId) :=
  get?_foldl_set selection.pricesByInstrument.distinct latest instrumentId

def Prices (later earlier : Dict InstrumentId Decimal) : Prop :=
  ∀ instrumentId, (earlier.get? instrumentId).isSome → (later.get? instrumentId).isSome

theorem prices_merged (latest : Dict InstrumentId Decimal)
    (selection : FutureRollSelection) : Prices (mergedPrices latest selection) latest := by
  intro instrumentId known
  rw [get?_mergedPrices]
  cases selection.pricesByInstrument.get? instrumentId with
  | none => exact known
  | some price => rfl

end FutureRollRegistry

open SwitchRatios

structure RollAdjustmentPoint where
  asOf : DateTime
  oldContract : InstrumentId
  newContract : InstrumentId
  oldPrice : Decimal
  newPrice : Decimal
  adjustmentFactor : Decimal
  pos : 0 < adjustmentFactor

namespace RollAdjustmentPoint

def create (asOf : DateTime) (oldContract newContract : InstrumentId)
    (oldPrice newPrice adjustmentFactor : Decimal) : Except Failure RollAdjustmentPoint :=
  if pos : 0 < adjustmentFactor then
    .ok { asOf, oldContract, newContract, oldPrice, newPrice, adjustmentFactor, pos }
  else .error (.valueError "adjustment_factor must be positive")

def change (point : RollAdjustmentPoint) : Switch DateTime InstrumentId :=
  ⟨point.asOf, point.oldContract, point.newContract⟩

end RollAdjustmentPoint

namespace FutureRollRegistry

variable (registry : FutureRollRegistry)

def selectionHistory (continuousId : InstrumentId) :
    Except Failure (List FutureRollSelection) :=
  lookup registry.selectionsByContinuous continuousId

def adjustmentPoints (front : InstrumentId) (prev : InstrumentId) :
    List FutureRollSelection → Except Failure (List RollAdjustmentPoint)
  | [] => .ok []
  | selection :: selections => do
    let current := selection.concreteInstrumentId
    if current = prev then
      return ← adjustmentPoints front prev selections
    let inForce ← registry.selectionAt (registry.frontContinuousId front) selection.asOf
    match inForce.pricesByInstrument.get? prev, inForce.pricesByInstrument.get? current with
    | some oldPrice, some newPrice =>
      if newPrice = 0 then
        return ← adjustmentPoints front current selections
      let point ← RollAdjustmentPoint.create selection.asOf prev current oldPrice newPrice
        (oldPrice / newPrice)
      let later ← adjustmentPoints front current selections
      return point :: later
    | _, _ => adjustmentPoints front current selections

def buildAdjustmentFactors (continuousId : InstrumentId) :
    Except Failure (List RollAdjustmentPoint) := do
  let front := registry.frontContinuousId continuousId
  let selections ← registry.selectionHistory front
  match selections with
  | [] => return []
  | first :: rest => registry.adjustmentPoints front first.concreteInstrumentId rest

def cumulative (adjustments : List RollAdjustmentPoint) (asOf : DateTime) : Decimal :=
  adjustments.foldl
    (fun product point => if asOf < point.asOf then product * point.adjustmentFactor else product) 1

def adjustedPrice (rawPrice : Decimal) (asOf : DateTime) (continuousId : InstrumentId) :
    Except Failure Decimal := do
  let front := registry.frontContinuousId continuousId
  let adjustments ← registry.buildAdjustmentFactors front
  if cumulative adjustments asOf = 0 then
    throw (.valueError "cumulative adjustment factor is zero; cannot adjust price")
  return rawPrice / cumulative adjustments asOf

/-- A command records a selection with a price for its own contract only. -/
def PricesItself : RollCommand → Prop
  | .registerRoot _ _ _ => True
  | .recordSelection selection =>
    (selection.pricesByInstrument.get? selection.concreteInstrumentId).isSome

structure Priced (history : List FutureRollSelection)
    (latest : Dict InstrumentId Decimal) : Prop where
  itself : ∀ selection ∈ history,
    (selection.pricesByInstrument.get? selection.concreteInstrumentId).isSome
  kept : history.Pairwise fun earlier later =>
    Prices later.pricesByInstrument earlier.pricesByInstrument
  latest : ∀ selection ∈ history, Prices latest selection.pricesByInstrument

theorem priced_nil (latest : Dict InstrumentId Decimal) : Priced [] latest :=
  ⟨by simp, .nil, by simp⟩

def AllPriced (registry : FutureRollRegistry) : Prop :=
  ∀ front history, registry.selectionsByContinuous.get? front = some history →
    ∃ latest, registry.latestPricesByContinuous.get? front = some latest ∧ Priced history latest

variable {registry} {caps : PythonText.UpperCase} {selection : FutureRollSelection}

theorem Priced.record {history : List FutureRollSelection}
    {latest : Dict InstrumentId Decimal} (priced : Priced history latest)
    (itself : (selection.pricesByInstrument.get? selection.concreteInstrumentId).isSome)
    (retains : Bool) :
    Priced (if retains then
        history ++ [selection.withPrices (mergedPrices latest selection)]
      else [selection.withPrices (mergedPrices latest selection)])
      (mergedPrices latest selection) := by
  have own : ((mergedPrices latest selection).get? selection.concreteInstrumentId).isSome := by
    rw [get?_mergedPrices]
    cases found : selection.pricesByInstrument.get? selection.concreteInstrumentId with
    | none => simp [found] at itself
    | some price => rfl
  have grown : ∀ earlier ∈ history,
      Prices (mergedPrices latest selection) earlier.pricesByInstrument :=
    fun earlier mem instrumentId known =>
      prices_merged latest selection instrumentId (priced.latest earlier mem instrumentId known)
  cases retains with
  | false =>
    refine ⟨?_, pairwise_singleton _ _, ?_⟩
    · intro other mem
      rw [mem_singleton.mp mem]
      exact own
    · intro other mem
      rw [mem_singleton.mp mem]
      exact fun _ known => known
  | true =>
    refine ⟨?_, ?_, ?_⟩
    · intro other mem
      rcases mem_append.mp mem with old | new
      · exact priced.itself other old
      · rw [mem_singleton.mp new]
        exact own
    · refine pairwise_append.mpr ⟨priced.kept, pairwise_singleton _ _, ?_⟩
      intro earlier mem other new
      rw [mem_singleton.mp new]
      exact grown earlier mem
    · intro other mem
      rcases mem_append.mp mem with old | new
      · exact grown other old
      · rw [mem_singleton.mp new]
        exact fun _ known => known

variable {next : FutureRollRegistry}

theorem AllPriced.recordSelection (priced : registry.AllPriced)
    (itself : (selection.pricesByInstrument.get? selection.concreteInstrumentId).isSome)
    (recorded : registry.recordSelection selection = .ok next) : next.AllPriced := by
  obtain ⟨selections, times, latest, found, -, foundPrices, -, rfl⟩ := recordSelection_inv recorded
  intro front history kept
  unfold withSelections at kept ⊢
  dsimp only at kept ⊢
  by_cases same : front = selection.continuousInstrumentId
  · subst same
    rw [get?_set_self] at kept ⊢
    cases kept
    obtain ⟨prices, known, before⟩ := priced _ selections found
    cases known.symm.trans foundPrices
    exact ⟨_, rfl, before.record itself registry.retainHistory⟩
  · rw [get?_set_of_ne _ _ same] at kept ⊢
    exact priced front history kept

theorem registerRoot_prices {rootSymbol exchange : String}
    {contracts : List InstrumentId} {front : InstrumentId}
    (registered : registry.registerRoot caps rootSymbol exchange contracts = .ok (front, next)) :
    next.latestPricesByContinuous = setDefault registry.latestPricesByContinuous front .empty := by
  unfold registerRoot at registered
  obtain ⟨root, _, rest⟩ := bind_inv registered
  split at rest
  · cases rest
  dsimp only at rest
  split at rest
  · cases rest
  rw [foldl_registerDeferred_eq] at rest
  cases rest
  rfl

theorem AllPriced.registerRoot (priced : registry.AllPriced)
    {rootSymbol exchange : String} {contracts : List InstrumentId} {front : InstrumentId}
    (registered : registry.registerRoot caps rootSymbol exchange contracts = .ok (front, next)) :
    next.AllPriced := by
  obtain ⟨-, selectionsAfter, -⟩ := registerRoot_selections registered
  intro other history kept
  rw [registerRoot_prices registered, get?_setDefault]
  rw [selectionsAfter, get?_setDefault] at kept
  by_cases same : other = front
  · rw [if_pos same] at kept ⊢
    cases found : registry.selectionsByContinuous.get? front with
    | none =>
      rw [found] at kept
      cases kept
      exact ⟨_, rfl, priced_nil _⟩
    | some known =>
      obtain ⟨latest, isLatest, before⟩ := priced front known found
      rw [found] at kept
      cases kept
      exact ⟨latest, by rw [isLatest]; rfl, before⟩
  · rw [if_neg same] at kept ⊢
    exact priced other history kept

theorem step_allPriced (command : RollCommand) (priced : registry.AllPriced)
    (itself : PricesItself command) : (step caps registry command).2.AllPriced := by
  cases command with
  | registerRoot rootSymbol exchange contracts =>
    rw [step]
    cases registered : registry.registerRoot caps rootSymbol exchange contracts with
    | error failure => exact priced
    | ok answer => exact priced.registerRoot (registered.trans rfl)
  | recordSelection selection =>
    rw [step]
    cases recorded : registry.recordSelection selection with
    | error failure => exact priced
    | ok next => exact priced.recordSelection itself recorded

theorem filled_allPriced (retainHistory : Bool) {commands : List RollCommand}
    (itself : ∀ command ∈ commands, PricesItself command) :
    (filled caps retainHistory commands).AllPriced := by
  have start : AllPriced { retainHistory } := fun front history none => by cases none
  unfold filled
  generalize ({ retainHistory } : FutureRollRegistry) = registry at start ⊢
  induction commands generalizing registry with
  | nil => exact start
  | cons command commands ih =>
    have next := @step_allPriced registry caps command start (itself command mem_cons_self)
    exact ih (fun other mem => itself other (mem_cons_of_mem _ mem)) _ next

def rollEntry (selection : FutureRollSelection) : Entry DateTime InstrumentId :=
  ⟨selection.asOf, selection.concreteInstrumentId⟩

def contractSwitches : List FutureRollSelection → List (Switch DateTime InstrumentId)
  | [] => []
  | first :: rest => switchesFrom first.concreteInstrumentId (rest.map rollEntry)

def priceAt (registry : FutureRollRegistry) (front : InstrumentId) (time : DateTime)
    (contract : InstrumentId) : Decimal :=
  match registry.selectionAt front time with
  | .error _ => 0
  | .ok selection => (selection.pricesByInstrument.get? contract).getD 0

structure PositiveAt (registry : FutureRollRegistry) (front : InstrumentId)
    (change : Switch DateTime InstrumentId) : Prop where
  old : 0 < registry.priceAt front change.time change.old
  new : 0 < registry.priceAt front change.time change.new

variable {front : InstrumentId} {history : List FutureRollSelection}

structure HasHistory (registry : FutureRollRegistry) (front : InstrumentId)
    (history : List FutureRollSelection) : Prop where
  chronological : registry.Chronological
  priced : registry.AllPriced
  isFront : registry.frontByDeferred.get? front = none
  kept : registry.selectionsByContinuous.get? front = some history

section

variable (has : registry.HasHistory front history)

include has

theorem HasHistory.frontContinuousId : registry.frontContinuousId front = front := by
  unfold FutureRollRegistry.frontContinuousId
  rw [has.isFront]
  rfl

theorem HasHistory.priceAt_known (mem : selection ∈ history) {time : DateTime}
    (reached : selection.asOf ≤ time) :
    ∃ inForce, registry.selectionAt front time = .ok inForce ∧
      inForce.pricesByInstrument.get? selection.concreteInstrumentId =
        some (registry.priceAt front time selection.concreteInstrumentId) := by
  obtain ⟨latest, -, priced⟩ := has.priced front history has.kept
  have counted : selection ∈ history.filter fun other => decide (other.asOf ≤ time) :=
    mem_filter.mpr ⟨mem, decide_eq_true reached⟩
  have inOrder := priced.kept.filter fun other => decide (other.asOf ≤ time)
  have selects := has.chronological.selectionAt_latest has.kept time
  unfold latestUpTo at selects
  rcases eq_nil_or_concat (history.filter fun other => decide (other.asOf ≤ time)) with
    none | ⟨earlier, inForce, isLast⟩
  · rw [none] at counted
    cases counted
  · rw [isLast, concat_eq_append] at counted inOrder selects
    rw [getLast?_concat] at selects
    dsimp only at selects
    have known : (inForce.pricesByInstrument.get? selection.concreteInstrumentId).isSome := by
      have own := priced.itself selection mem
      rcases mem_append.mp counted with before | last
      · exact (pairwise_append.mp inOrder).2.2 selection before inForce mem_cons_self _ own
      · rwa [mem_singleton.mp last] at own ⊢
    obtain ⟨price, found⟩ := Option.isSome_iff_exists.mp known
    refine ⟨inForce, selects, ?_⟩
    simp [priceAt, selects, found]

theorem HasHistory.ordered :
    (history.map rollEntry).Pairwise fun first second => first.time ≤ second.time :=
  pairwise_map.mpr (has.chronological.history_ordered has.kept)

theorem HasHistory.mem_contractSwitches {change : Switch DateTime InstrumentId}
    (mem : change ∈ contractSwitches history) :
    (∃ selection ∈ history, selection.asOf ≤ change.time ∧
      selection.concreteInstrumentId = change.old) ∧
      ∃ selection ∈ history, selection.asOf ≤ change.time ∧
        selection.concreteInstrumentId = change.new := by
  have ordered := has.ordered
  cases history with
  | nil => cases mem
  | cons first rest =>
    obtain ⟨before, inOrder⟩ := pairwise_cons.mp ordered
    obtain ⟨entry, inside, sameTime, isNew⟩ := mem_switchesFrom mem
    constructor
    · rcases mem_switchesFrom_old inOrder mem with isFirst | ⟨old, oldInside, le, isOld⟩
      · refine ⟨first, mem_cons_self, ?_, isFirst.symm⟩
        rw [← sameTime]
        exact before entry inside
      · obtain ⟨selection, inRest, rfl⟩ := mem_map.mp oldInside
        exact ⟨selection, mem_cons_of_mem _ inRest, le, isOld⟩
    · obtain ⟨selection, inRest, rfl⟩ := mem_map.mp inside
      exact ⟨selection, mem_cons_of_mem _ inRest, sameTime.le, isNew⟩

end

structure Adjusts (registry : FutureRollRegistry) (front : InstrumentId)
    (point : RollAdjustmentPoint) : Prop where
  oldPrice : point.oldPrice = registry.priceAt front point.asOf point.oldContract
  newPrice : point.newPrice = registry.priceAt front point.asOf point.newContract
  factor : point.adjustmentFactor = ratio (registry.priceAt front point.asOf) point.change

theorem adjustmentPoints_ok (resolved : registry.frontContinuousId front = front)
    {prev : InstrumentId} {selections : List FutureRollSelection}
    (known : ∀ change ∈ switchesFrom prev (selections.map rollEntry),
      ∃ inForce, registry.selectionAt front change.time = .ok inForce ∧
        inForce.pricesByInstrument.get? change.old =
          some (registry.priceAt front change.time change.old) ∧
        inForce.pricesByInstrument.get? change.new =
          some (registry.priceAt front change.time change.new))
    (pos : ∀ change ∈ switchesFrom prev (selections.map rollEntry),
      registry.PositiveAt front change) :
    ∃ points, registry.adjustmentPoints front prev selections = .ok points ∧
      points.map RollAdjustmentPoint.change =
        switchesFrom prev (selections.map rollEntry) ∧
      ∀ point ∈ points, registry.Adjusts front point := by
  induction selections generalizing prev with
  | nil => exact ⟨[], rfl, rfl, by simp⟩
  | cons selection selections ih =>
    rw [map_cons] at known pos
    obtain ⟨points, made, changes, adjust⟩ := @ih selection.concreteInstrumentId
      (fun change mem => known change (mem_switchesFrom_cons mem))
      (fun change mem => pos change (mem_switchesFrom_cons mem))
    rw [adjustmentPoints, map_cons]
    by_cases same : selection.concreteInstrumentId = prev
    · have sameEntry : (rollEntry selection).holder = prev := same
      rw [same] at made changes
      rw [if_pos same, made, switchesFrom_same sameEntry]
      exact ⟨points, rfl, changes, adjust⟩
    · have differs : ¬ (rollEntry selection).holder = prev := same
      rw [switchesFrom_differs differs] at known pos ⊢
      have first := @mem_cons_self _ (⟨selection.asOf, prev,
        selection.concreteInstrumentId⟩ : Switch DateTime InstrumentId)
        (switchesFrom selection.concreteInstrumentId (selections.map rollEntry))
      obtain ⟨inForce, selects, oldKnown, newKnown⟩ := known _ first
      obtain ⟨oldPositive, newPositive⟩ := pos _ first
      dsimp only at selects oldKnown newKnown oldPositive newPositive
      have factorPositive := div_pos oldPositive newPositive
      refine ⟨⟨selection.asOf, prev, selection.concreteInstrumentId,
        registry.priceAt front selection.asOf prev,
        registry.priceAt front selection.asOf selection.concreteInstrumentId, _, factorPositive⟩ ::
        points, ?_, ?_, ?_⟩
      · rw [if_neg same, resolved, selects]
        simp only [bind, Except.bind, oldKnown, newKnown]
        rw [if_neg newPositive.ne']
        unfold RollAdjustmentPoint.create
        rw [dif_pos factorPositive, made]
        rfl
      · rw [map_cons, changes]
        rfl
      · intro point mem
        rcases mem_cons.mp mem with rfl | later
        · exact ⟨rfl, rfl, rfl⟩
        · exact adjust point later

end FutureRollRegistry

end Qts
