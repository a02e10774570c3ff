import Qts.FutureRollRegistry
import Qts.StepRuns
import Qts.Bisection

/-! # Stability of roll decisions -/

namespace Qts

open PythonText Dict StepRuns List Option

namespace FutureRollRegistry

variable (caps : UpperCase)

def continuousInstrumentId (registry : FutureRollRegistry) (rootSymbol : String)
    (offset : Nat := 0) : Except Failure InstrumentId := do
  let root ← normalizeRoot caps rootSymbol
  match registry.continuousByRoot.get? root with
  | none => throw (.keyError ("missing future roll root: " ++ rootSymbol))
  | some front =>
    if offset = 0 then
      return front
    let contracts ← lookup registry.contractsByContinuous front
    let maxOffset := min (contracts.length - 1) maxDeferredOffset
    if maxOffset < offset then
      throw (.valueError ("offset " ++ toString offset ++
        " exceeds available deferred contracts for " ++ rootSymbol ++ " (max offset: " ++
        toString maxOffset ++ ")"))
    match registry.exchangeByRoot.get? root with
    | none => throw (.keyError root)
    | some exchange => return deferredId exchange root offset

def referenceId (registry : FutureRollRegistry) :
    String ⊕ InstrumentId → Except Failure InstrumentId
  | .inl rootSymbol => registry.continuousInstrumentId caps rootSymbol
  | .inr continuousId => .ok continuousId

def resolveReference (registry : FutureRollRegistry) (reference : String ⊕ InstrumentId)
    (asOf : DateTime) (offset : Nat) : Except Failure InstrumentId := do
  let continuousId ← registry.referenceId caps reference
  registry.resolveContract continuousId asOf offset

end FutureRollRegistry

inductive RollCommand
  | registerRoot (rootSymbol exchange : String) (contracts : List InstrumentId)
  | recordSelection (selection : FutureRollSelection)

namespace FutureRollRegistry

variable (caps : UpperCase)

def step : Step FutureRollRegistry RollCommand (Except Failure Unit) :=
  fun registry command =>
    match command with
    | .registerRoot rootSymbol exchange contracts =>
      match registry.registerRoot caps rootSymbol exchange contracts with
      | .error failure => (.error failure, registry)
      | .ok (_, next) => (.ok (), next)
    | .recordSelection selection =>
      match registry.recordSelection selection with
      | .error failure => (.error failure, registry)
      | .ok next => (.ok (), next)

def latestTime (registry : FutureRollRegistry) (front : InstrumentId) : Option DateTime :=
  (registry.selectionTimesByContinuous.get? front).bind List.getLast?

variable {caps}

def mergedPrices (latest : Dict InstrumentId Decimal) (selection : FutureRollSelection) :
    Dict InstrumentId Decimal :=
  selection.pricesByInstrument.items.foldl (fun latest item => latest.set item.1 item.2) latest

def withSelections (registry : FutureRollRegistry) (front : InstrumentId)
    (prices : Dict InstrumentId Decimal) (selections : List FutureRollSelection)
    (times : List DateTime) : FutureRollRegistry :=
  { registry with
    latestPricesByContinuous := registry.latestPricesByContinuous.set front prices
    selectionsByContinuous := registry.selectionsByContinuous.set front selections
    selectionTimesByContinuous := registry.selectionTimesByContinuous.set front times }

variable {registry next : FutureRollRegistry} {selection : FutureRollSelection}

theorem recordSelection_inv (recorded : registry.recordSelection selection = .ok next) :
    ∃ selections times latest,
      registry.selectionsByContinuous.get? selection.continuousInstrumentId = some selections ∧
      registry.selectionTimesByContinuous.get? selection.continuousInstrumentId = some times ∧
      registry.latestPricesByContinuous.get? selection.continuousInstrumentId = some latest ∧
      (∀ last ∈ times.getLast?, last ≤ selection.asOf) ∧
      next = registry.withSelections selection.continuousInstrumentId
        (mergedPrices latest selection)
        (if registry.retainHistory then
          selections ++ [selection.withPrices (mergedPrices latest selection)]
        else [selection.withPrices (mergedPrices latest selection)])
        (if registry.retainHistory then times ++ [selection.asOf] else [selection.asOf]) := by
  unfold recordSelection at recorded
  dsimp only at recorded
  split at recorded
  · cases recorded
  split at recorded
  · cases recorded
  obtain ⟨selections, found, rest⟩ := bind_inv recorded
  obtain ⟨times, foundTimes, rest⟩ := bind_inv rest
  split at rest
  · cases rest
  next chronological =>
    obtain ⟨latest, foundLatest, rest⟩ := bind_inv rest
    cases rest
    refine ⟨selections, times, latest, lookup_inv found, lookup_inv foundTimes,
      lookup_inv foundLatest, ?_, rfl⟩
    intro last mem
    rw [mem_def] at mem
    simpa [mem] using chronological

/-- The times of the selections stand beside them, in order. -/
structure Chronological (registry : FutureRollRegistry) : Prop where
  times : ∀ front, registry.selectionTimesByContinuous.get? front =
    (registry.selectionsByContinuous.get? front).map (List.map fun selection => selection.asOf)
  ordered : ∀ front selectionTimes,
    registry.selectionTimesByContinuous.get? front = some selectionTimes →
      selectionTimes.Pairwise (· ≤ ·)

@[simp]
theorem get?_setDefault {Value : Type} (dict : Dict InstrumentId Value)
    (key other : InstrumentId) (value : Value) :
    (setDefault dict key value).get? other =
      if other = key then some ((dict.get? key).getD value) else dict.get? other := by
  unfold setDefault
  by_cases same : other = key
  · subst same
    cases found : dict.get? other with
    | none => simp
    | some present => simp [found]
  · cases dict.get? key with
    | none => simp [same]
    | some present => simp [same]

theorem foldl_registerDeferred_eq (root exchange : String) (front : InstrumentId)
    (contracts : List InstrumentId) (offsets : List Nat) (registry : FutureRollRegistry) :
    offsets.foldl (registerDeferred root exchange front contracts) registry =
      { registry with
        rootByContinuous := offsets.foldl (fun roots offset =>
          roots.set (deferredId exchange root offset) root) registry.rootByContinuous
        contractsByContinuous := offsets.foldl (fun chains offset =>
          chains.set (deferredId exchange root offset) contracts) registry.contractsByContinuous
        frontByDeferred := offsets.foldl (fun fronts offset =>
          fronts.set (deferredId exchange root offset) front) registry.frontByDeferred
        offsetByDeferred := offsets.foldl (fun known offset =>
          known.set (deferredId exchange root offset) offset) registry.offsetByDeferred } := by
  induction offsets generalizing registry with
  | nil => rfl
  | cons offset offsets ih =>
      exact ih (registerDeferred root exchange front contracts registry offset)

variable {front : InstrumentId}

theorem registerRoot_selections {rootSymbol exchange : String} {contracts : List InstrumentId}
    (registered : registry.registerRoot caps rootSymbol exchange contracts = .ok (front, next)) :
    next.retainHistory = registry.retainHistory ∧
      next.selectionsByContinuous = setDefault registry.selectionsByContinuous front [] ∧
      next.selectionTimesByContinuous =
          setDefault registry.selectionTimesByContinuous front [] := by
  unfold registerRoot at registered
  obtain ⟨root, _, rest⟩ := bind_inv registered
  split at rest
  · cases rest
  dsimp only at rest
  split at rest
  · cases rest
  rw [foldl_registerDeferred_eq] at rest
  cases rest
  exact ⟨rfl, rfl, rfl⟩

theorem Chronological.registerRoot {registry next : FutureRollRegistry}
    (chronological : registry.Chronological) {rootSymbol exchange : String}
    {contracts : List InstrumentId} {front : InstrumentId}
    (registered : registry.registerRoot caps rootSymbol exchange contracts = .ok (front, next)) :
    next.Chronological := by
  obtain ⟨_, selectionsAfter, timesAfter⟩ := registerRoot_selections registered
  constructor
  · intro other
    rw [selectionsAfter, timesAfter, get?_setDefault, get?_setDefault]
    have before := chronological.times
    by_cases same : other = front
    · rw [if_pos same, if_pos same, before front]
      cases registry.selectionsByContinuous.get? front <;> rfl
    · rw [if_neg same, if_neg same, before other]
  · intro other times found
    rw [timesAfter, get?_setDefault] at found
    by_cases same : other = front
    · rw [if_pos same] at found
      obtain rfl := Option.some.inj found
      cases known : registry.selectionTimesByContinuous.get? front with
      | none => exact List.Pairwise.nil
      | some times => exact chronological.ordered front times known
    · rw [if_neg same] at found
      exact chronological.ordered other times found

variable {asOf : DateTime} {times : List DateTime}

theorem le_of_getLast (ordered : times.Pairwise (· ≤ ·))
    (afterLast : ∀ last ∈ times.getLast?, last ≤ asOf) : ∀ time ∈ times, time ≤ asOf := by
  intro time mem
  rcases eq_nil_or_concat times with rfl | ⟨before, last, rfl⟩
  · cases mem
  · rw [concat_eq_append] at *
    have lastBefore : last ≤ asOf := afterLast last (by simp)
    rcases mem_append.mp mem with early | late
    · have inOrder := (pairwise_append.mp ordered).2.2 time early last (by simp)
      exact Int.le_trans inOrder lastBefore
    · obtain rfl := mem_singleton.mp late
      exact lastBefore

theorem Chronological.recordSelection (chronological : registry.Chronological)
    (recorded : registry.recordSelection selection = .ok next) : next.Chronological := by
  obtain ⟨selections, times, latest, found, foundTimes, _, afterLast, rfl⟩ :=
    recordSelection_inv recorded
  have alike : times = selections.map fun recorded => recorded.asOf := by
    have stored := chronological.times selection.continuousInstrumentId
    rw [foundTimes, found] at stored
    exact Option.some.inj stored
  have ordered := chronological.ordered selection.continuousInstrumentId times foundTimes
  constructor
  · intro other
    unfold withSelections
    by_cases same : other = selection.continuousInstrumentId
    · subst same
      rw [get?_set_self, get?_set_self, alike]
      cases registry.retainHistory with
      | false => rfl
      | true => simp [FutureRollSelection.withPrices]
    · rw [get?_set_of_ne _ _ same, get?_set_of_ne _ _ same]
      exact chronological.times other
  · intro other otherTimes foundOther
    unfold withSelections at foundOther
    by_cases same : other = selection.continuousInstrumentId
    · subst same
      rw [get?_set_self] at foundOther
      obtain rfl := Option.some.inj foundOther
      cases registry.retainHistory with
      | false => exact pairwise_singleton _ _
      | true =>
        refine pairwise_append.mpr ⟨ordered, pairwise_singleton _ _, ?_⟩
        intro time mem new equal
        obtain rfl := mem_singleton.mp equal
        exact le_of_getLast ordered afterLast time mem
    · rw [get?_set_of_ne _ _ same] at foundOther
      exact chronological.ordered other otherTimes foundOther

theorem step_chronological (registry : FutureRollRegistry) (command : RollCommand)
    (chronological : registry.Chronological) : (step caps registry command).2.Chronological := by
  cases command with
  | registerRoot rootSymbol exchange contracts =>
    rw [step]
    cases registered : registry.registerRoot caps rootSymbol exchange contracts with
    | error failure => exact chronological
    | ok answer => exact chronological.registerRoot (registered.trans rfl)
  | recordSelection selection =>
    rw [step]
    cases recorded : registry.recordSelection selection with
    | error failure => exact chronological
    | ok next => exact chronological.recordSelection recorded

theorem chronological_empty (retainHistory : Bool) :
    Chronological { retainHistory } where
  times _ := rfl
  ordered _ _ found := by cases found

/-- The registries differ in their selections only. -/
structure SameRoots (first second : FutureRollRegistry) : Prop where
  continuousByRoot : first.continuousByRoot = second.continuousByRoot
  rootByContinuous : first.rootByContinuous = second.rootByContinuous
  contractsByContinuous : first.contractsByContinuous = second.contractsByContinuous
  exchangeByRoot : first.exchangeByRoot = second.exchangeByRoot
  frontByDeferred : first.frontByDeferred = second.frontByDeferred
  offsetByDeferred : first.offsetByDeferred = second.offsetByDeferred

structure AgreeOn (first second : FutureRollRegistry) (continuousId : InstrumentId)
    (asOf : DateTime) : Prop where
  resolveContract : ∀ offset, first.resolveContract continuousId asOf offset =
    second.resolveContract continuousId asOf offset
  executionPrice : ∀ concreteId, first.executionPrice continuousId concreteId asOf =
    second.executionPrice continuousId concreteId asOf

variable {first second : FutureRollRegistry}

theorem SameRoots.referenceId (roots : SameRoots first second) (reference : String ⊕ InstrumentId) :
    first.referenceId caps reference = second.referenceId caps reference := by
  unfold FutureRollRegistry.referenceId FutureRollRegistry.continuousInstrumentId
  rw [roots.continuousByRoot, roots.contractsByContinuous, roots.exchangeByRoot]

theorem SameRoots.frontContinuousId (roots : SameRoots first second) (continuousId : InstrumentId) :
    first.frontContinuousId continuousId = second.frontContinuousId continuousId := by
  unfold FutureRollRegistry.frontContinuousId
  rw [roots.frontByDeferred]

theorem SameRoots.agreeOn (roots : SameRoots first second) {continuousId : InstrumentId}
    (selected : first.selectionAt (second.frontContinuousId continuousId) asOf =
      second.selectionAt (second.frontContinuousId continuousId) asOf) :
    AgreeOn first second continuousId asOf where
  resolveContract offset := by
    unfold FutureRollRegistry.resolveContract
    dsimp only
    rw [roots.frontContinuousId, selected, roots.offsetByDeferred, roots.contractsByContinuous]
  executionPrice concreteId := by
    unfold FutureRollRegistry.executionPrice
    rw [roots.frontContinuousId, selected]

theorem selectionAt_congr
    (selections : first.selectionsByContinuous.get? front =
      second.selectionsByContinuous.get? front)
    (times : first.selectionTimesByContinuous.get? front =
      second.selectionTimesByContinuous.get? front) (asOf : DateTime) :
    first.selectionAt front asOf = second.selectionAt front asOf := by
  unfold selectionAt lookup
  rw [selections, times]

theorem selectionAt_eq {registry : FutureRollRegistry} {selections : List FutureRollSelection}
    (found : registry.selectionsByContinuous.get? front = some selections)
    (foundTimes : registry.selectionTimesByContinuous.get? front = some times) (asOf : DateTime) :
    registry.selectionAt front asOf =
      match bisectRight times asOf with
      | 0 => .error (.missingRollSelection front asOf)
      | index + 1 =>
        match selections[index]? with
        | some selection => .ok selection
        | none => .error (.other "list index out of range") := by
  unfold selectionAt lookup
  rw [found, foundTimes]
  rfl

theorem bisectRight_le (times : List DateTime) (asOf : DateTime) :
    bisectRight times asOf ≤ times.length :=
  ( takeWhile_prefix _).length_le

theorem bisectRight_concat {asOf later : DateTime} (after : asOf < later) :
    bisectRight (times ++ [later]) asOf = bisectRight times asOf := by
  have excluded : decide (later ≤ asOf) = false := decide_eq_false (Int.not_le.mpr after)
  unfold bisectRight
  rw [takeWhile_append]
  split
  · simp [excluded]
    omega
  · rfl

theorem selectionAt_later (chronological : registry.Chronological)
    (retains : registry.retainHistory = true)
    (recorded : registry.recordSelection selection = .ok next) (later : asOf < selection.asOf)
    (front : InstrumentId) : next.selectionAt front asOf = registry.selectionAt front asOf := by
  obtain ⟨selections, times, latest, found, foundTimes, _, _, rfl⟩ := recordSelection_inv recorded
  by_cases same : front = selection.continuousInstrumentId
  · subst same
    have sameLength : times.length = selections.length := by
      have stored := chronological.times selection.continuousInstrumentId
      rw [foundTimes, found] at stored
      rw [Option.some.inj stored, length_map]
    rw [selectionAt_eq (get?_set_self _ _ _) (get?_set_self _ _ _),
      selectionAt_eq found foundTimes, retains, if_pos rfl, if_pos rfl, bisectRight_concat later]
    have bounded := bisectRight_le times asOf
    cases count : bisectRight times asOf with
    | zero => rfl
    | succ index =>
      have inside : index < selections.length := by omega
      dsimp only
      rw [getElem?_append_left inside]
  · exact selectionAt_congr (get?_set_of_ne _ _ same)
      (get?_set_of_ne _ _ same) asOf

theorem recordSelection_roots (recorded : registry.recordSelection selection = .ok next) :
    SameRoots next registry := by
  obtain ⟨selections, times, latest, _, _, _, _, rfl⟩ := recordSelection_inv recorded
  exact ⟨rfl, rfl, rfl, rfl, rfl, rfl⟩

structure Thinned (full thin : FutureRollRegistry) : Prop where
  roots : SameRoots thin full
  latestPrices : thin.latestPricesByContinuous = full.latestPricesByContinuous
  retains : full.retainHistory = true
  forgets : thin.retainHistory = false
  selections : ∀ front, thin.selectionsByContinuous.get? front =
    (full.selectionsByContinuous.get? front).map fun selections => selections.getLast?.toList
  times : ∀ front, thin.selectionTimesByContinuous.get? front =
    (full.selectionTimesByContinuous.get? front).map fun times => times.getLast?.toList

theorem Thinned.registerRoot {full thin : FutureRollRegistry} (thinned : Thinned full thin)
    (rootSymbol exchange : String) (contracts : List InstrumentId) :
    (∃ failure, full.registerRoot caps rootSymbol exchange contracts = .error failure ∧
      thin.registerRoot caps rootSymbol exchange contracts = .error failure) ∨
    ∃ front nextFull nextThin,
      full.registerRoot caps rootSymbol exchange contracts = .ok (front, nextFull) ∧
      thin.registerRoot caps rootSymbol exchange contracts = .ok (front, nextThin) ∧
      Thinned nextFull nextThin := by
  unfold FutureRollRegistry.registerRoot
  cases normalizeRoot caps rootSymbol with
  | error failure => exact .inl ⟨failure, rfl, rfl⟩
  | ok root =>
    dsimp only [bind, Except.bind]
    split
    · exact .inl ⟨_, rfl, rfl⟩
    split
    · exact .inl ⟨_, rfl, rfl⟩
    refine .inr ⟨_, _, _, rfl, rfl, ?_⟩
    rw [foldl_registerDeferred_eq, foldl_registerDeferred_eq, thinned.roots.continuousByRoot,
      thinned.roots.rootByContinuous, thinned.roots.contractsByContinuous,
      thinned.roots.exchangeByRoot, thinned.roots.frontByDeferred, thinned.roots.offsetByDeferred,
      thinned.latestPrices]
    refine ⟨⟨rfl, rfl, rfl, rfl, rfl, rfl⟩, rfl, thinned.retains, thinned.forgets, ?_, ?_⟩
    · intro front
      dsimp only
      rw [get?_setDefault, get?_setDefault, thinned.selections, thinned.selections]
      split
      · cases full.selectionsByContinuous.get? _ <;> rfl
      · rfl
    · intro front
      dsimp only
      rw [get?_setDefault, get?_setDefault, thinned.times, thinned.times]
      split
      · cases full.selectionTimesByContinuous.get? _ <;> rfl
      · rfl

variable {full thin : FutureRollRegistry}

theorem Thinned.recordSelection (thinned : Thinned full thin) (selection : FutureRollSelection) :
    (∃ failure, full.recordSelection selection = .error failure ∧
      thin.recordSelection selection = .error failure) ∨
    ∃ nextFull nextThin, full.recordSelection selection = .ok nextFull ∧
      thin.recordSelection selection = .ok nextThin ∧ Thinned nextFull nextThin := by
  unfold FutureRollRegistry.recordSelection lookup
  dsimp only
  rw [thinned.roots.frontByDeferred, thinned.roots.rootByContinuous, thinned.latestPrices,
    thinned.selections, thinned.times, thinned.retains, thinned.forgets]
  split
  · exact .inl ⟨_, rfl, rfl⟩
  split
  · exact .inl ⟨_, rfl, rfl⟩
  cases full.selectionsByContinuous.get? selection.continuousInstrumentId with
  | none => exact .inl ⟨_, rfl, rfl⟩
  | some selections =>
    cases full.selectionTimesByContinuous.get? selection.continuousInstrumentId with
    | none => exact .inl ⟨_, rfl, rfl⟩
    | some times =>
      have lastAlone : times.getLast?.toList.getLast? = times.getLast? := by
        cases times.getLast? <;> rfl
      simp only [map_some, bind, Except.bind, lastAlone]
      split
      · exact .inl ⟨_, rfl, rfl⟩
      cases full.latestPricesByContinuous.get? selection.continuousInstrumentId with
      | none => exact .inl ⟨_, rfl, rfl⟩
      | some latest =>
        have roots := thinned.roots
        refine .inr ⟨_, _, rfl, rfl, ⟨roots.continuousByRoot, rfl, roots.contractsByContinuous,
          roots.exchangeByRoot, rfl, roots.offsetByDeferred⟩, rfl, rfl, rfl, ?_, ?_⟩
        · intro front
          dsimp only
          rw [get?_set, get?_set, thinned.selections]
          split
          · rw [if_neg Bool.false_ne_true, if_pos trivial, map_some, getLast?_concat]
            rfl
          · rfl
        · intro front
          dsimp only
          rw [get?_set, get?_set, thinned.times]
          split
          · rw [if_neg Bool.false_ne_true, if_pos trivial, map_some, getLast?_concat]
            rfl
          · rfl

theorem thinned_step (thinned : Thinned full thin) (command : RollCommand) :
    (step caps full command).1 = (step caps thin command).1 ∧
      Thinned (step caps full command).2 (step caps thin command).2 := by
  cases command with
  | registerRoot rootSymbol exchange contracts =>
    obtain ⟨failure, fullFails, thinFails⟩ |
        ⟨front, nextFull, nextThin, fullDoes, thinDoes, next⟩ :=
      @Thinned.registerRoot caps full thin thinned rootSymbol exchange contracts
    · simp only [step, fullFails, thinFails]
      exact ⟨trivial, thinned⟩
    · simp only [step, fullDoes, thinDoes]
      exact ⟨trivial, next⟩
  | recordSelection selection =>
    obtain ⟨failure, fullFails, thinFails⟩ | ⟨nextFull, nextThin, fullDoes, thinDoes, next⟩ :=
      thinned.recordSelection selection
    · simp only [step, fullFails, thinFails]
      exact ⟨trivial, thinned⟩
    · simp only [step, fullDoes, thinDoes]
      exact ⟨trivial, next⟩

theorem thinned_empty : Thinned { } { retainHistory := false } :=
  ⟨⟨rfl, rfl, rfl, rfl, rfl, rfl⟩, rfl, rfl, rfl, fun _ => rfl, fun _ => rfl⟩

theorem Thinned.selectionAt (thinned : Thinned full thin) (chronological : full.Chronological)
    (afterLatest : ∀ latest ∈ thin.latestTime front, latest ≤ asOf) :
    thin.selectionAt front asOf = full.selectionAt front asOf := by
  have thinTimes := thinned.times front
  have thinSelections := thinned.selections front
  have beside := chronological.times front
  cases foundTimes : full.selectionTimesByContinuous.get? front with
  | none =>
    rw [foundTimes] at thinTimes beside
    have noSelections : full.selectionsByContinuous.get? front = none :=
      map_eq_none_iff.mp beside.symm
    rw [noSelections] at thinSelections
    exact selectionAt_congr (thinSelections.trans noSelections.symm)
      (thinTimes.trans foundTimes.symm) asOf
  | some times =>
    rw [foundTimes] at thinTimes beside
    obtain ⟨selections, found, alike⟩ := map_eq_some_iff.mp beside.symm
    rw [found] at thinSelections
    have ordered := chronological.ordered front times foundTimes
    rcases eq_nil_or_concat selections with rfl | ⟨before, last, rfl⟩
    · obtain rfl : times = [] := alike.symm
      exact selectionAt_congr (thinSelections.trans found.symm) (thinTimes.trans foundTimes.symm)
        asOf
    · have lastTime : times.getLast? = some last.asOf := by
        rw [← alike, concat_eq_append]
        simp
      have latest : thin.latestTime front = some last.asOf := by
        rw [latestTime, thinTimes]
        simp [lastTime]
      have lastReached : last.asOf ≤ asOf := afterLatest last.asOf latest
      have allReached : ∀ time ∈ times, time ≤ asOf := by
        refine le_of_getLast ordered ?_
        intro time isLast
        rw [lastTime, mem_some_iff] at isLast
        exact isLast ▸ lastReached
      have count : bisectRight times asOf = before.length + 1 := by
        unfold bisectRight
        rw [takeWhile_eq_self_iff.mpr (fun time mem => decide_eq_true (allReached time mem)),
          ← alike, length_map, length_concat]
      have thinCount : bisectRight [last.asOf] asOf = 0 + 1 := by
        simp [bisectRight, lastReached]
      rw [selectionAt_eq found foundTimes, count]
      rw [map_some, lastTime] at thinTimes
      rw [map_some, concat_eq_append, getLast?_concat] at thinSelections
      rw [selectionAt_eq thinSelections thinTimes]
      simp [thinCount, concat_eq_append]

def latestTimeOf (caps : UpperCase) (registry : FutureRollRegistry)
    (reference : String ⊕ InstrumentId) : Option DateTime :=
  match registry.referenceId caps reference with
  | .error _ => none
  | .ok continuousId => registry.latestTime (registry.frontContinuousId continuousId)

abbrev filled (caps : UpperCase) (retainHistory : Bool)
    (commands : List RollCommand) : FutureRollRegistry :=
  final (step caps) { retainHistory } commands

theorem resolveReference_congr (roots : SameRoots first second) {reference : String ⊕ InstrumentId}
    (agree : ∀ continuousId, second.referenceId caps reference = .ok continuousId →
      AgreeOn first second continuousId asOf) (offset : Nat) :
    first.resolveReference caps reference asOf offset =
      second.resolveReference caps reference asOf offset := by
  unfold resolveReference
  rw [roots.referenceId]
  cases referred : second.referenceId caps reference with
  | error failure => rfl
  | ok continuousId => exact (agree continuousId referred).resolveContract offset

/-- Roll decisions are stable: a later selection changes no answer for an earlier time, and the
latest selection alone answers like the whole history from its time on. -/
theorem roll_decisions_stable (caps : UpperCase) (commands : List RollCommand)
    (asOf : DateTime) :
    (∀ selection next, (filled caps true commands).recordSelection selection = .ok next →
      asOf < selection.asOf →
        (∀ reference offset, next.resolveReference caps reference asOf offset =
          (filled caps true commands).resolveReference caps reference asOf offset) ∧
        ∀ continuousId concreteId, next.executionPrice continuousId concreteId asOf =
          (filled caps true commands).executionPrice continuousId concreteId asOf) ∧
    (∀ reference offset, (∀ latest ∈ (filled caps false commands).latestTimeOf caps reference,
        latest ≤ asOf) →
      (filled caps false commands).resolveReference caps reference asOf offset =
        (filled caps true commands).resolveReference caps reference asOf offset) ∧
    ∀ continuousId concreteId,
      (∀ latest ∈ (filled caps false commands).latestTimeOf caps (.inr continuousId),
        latest ≤ asOf) →
      (filled caps false commands).executionPrice continuousId concreteId asOf =
        (filled caps true commands).executionPrice continuousId concreteId asOf := by
  have chronological : (filled caps true commands).Chronological :=
    final_invariant step_chronological (chronological_empty true) commands
  have steps : Bisimulation (step caps) Thinned :=
    fun _ _ command thinned => thinned_step thinned command
  have thinned : Thinned (filled caps true commands) (filled caps false commands) :=
    (steps.run thinned_empty commands).2
  have thinAgrees : ∀ continuousId,
      (∀ latest ∈ (filled caps false commands).latestTimeOf caps (.inr continuousId),
        latest ≤ asOf) →
      AgreeOn (filled caps false commands) (filled caps true commands) continuousId asOf := by
    intro continuousId reached
    refine thinned.roots.agreeOn (thinned.selectionAt chronological ?_)
    rw [← thinned.roots.frontContinuousId]
    exact reached
  refine ⟨?_, ?_, ?_⟩
  · intro selection next recorded later
    have agree : ∀ continuousId,
        AgreeOn next (filled caps true commands) continuousId asOf := by
      intro continuousId
      refine (recordSelection_roots recorded).agreeOn ?_
      exact selectionAt_later chronological thinned.retains recorded later _
    refine ⟨fun reference offset => ?_, fun continuousId concreteId => ?_⟩
    · exact resolveReference_congr (recordSelection_roots recorded) (fun id _ => agree id) offset
    · exact (agree continuousId).executionPrice concreteId
  · intro reference offset reached
    refine resolveReference_congr thinned.roots ?_ offset
    intro continuousId referred
    refine thinAgrees continuousId ?_
    rw [← thinned.roots.referenceId] at referred
    rw [latestTimeOf, referred] at reached
    exact reached
  · intro continuousId concreteId reached
    exact (thinAgrees continuousId reached).executionPrice concreteId

end FutureRollRegistry

end Qts
