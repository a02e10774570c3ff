import Qts.RuntimeFailures
import Qts.OrderedDictionary

/-! # Future roll registry -/

namespace Qts

open PythonText

structure FutureRollSelectionFields where
  continuousInstrumentId : InstrumentId
  rootSymbol : String
  asOf : DateTime
  concreteInstrumentId : InstrumentId
  sourceSymbol : String
  pricesByInstrument : Dict InstrumentId Decimal

def FutureRollSelectionFields.checks (selection : FutureRollSelectionFields) : List Check :=
  [⟨isBlank selection.rootSymbol, "root_symbol must not be empty"⟩,
   ⟨isBlank selection.sourceSymbol, "source_symbol must not be empty"⟩]

/-- Resolved concrete contract for a continuous future at one timestamp. -/
structure FutureRollSelection extends FutureRollSelectionFields where
  valid : Check.firstFailure toFutureRollSelectionFields.checks = none

def FutureRollSelection.create (fields : FutureRollSelectionFields) :
    Except Failure FutureRollSelection :=
  match checked : Check.firstFailure fields.checks with
  | none => .ok ⟨fields, checked⟩
  | some msg => .error (.valueError msg)

def FutureRollSelection.withPrices (selection : FutureRollSelection)
    (prices : Dict InstrumentId Decimal) : FutureRollSelection where
  toFutureRollSelectionFields :=
    { selection.toFutureRollSelectionFields with pricesByInstrument := prices }
  valid := selection.valid

structure FutureRollRegistry where
  retainHistory : Bool := true
  continuousByRoot : Dict String InstrumentId := .empty
  rootByContinuous : Dict InstrumentId String := .empty
  contractsByContinuous : Dict InstrumentId (List InstrumentId) := .empty
  selectionsByContinuous : Dict InstrumentId (List FutureRollSelection) := .empty
  selectionTimesByContinuous : Dict InstrumentId (List DateTime) := .empty
  latestPricesByContinuous : Dict InstrumentId (Dict InstrumentId Decimal) := .empty
  exchangeByRoot : Dict String String := .empty
  frontByDeferred : Dict InstrumentId InstrumentId := .empty
  offsetByDeferred : Dict InstrumentId Nat := .empty

namespace FutureRollRegistry

def maxDeferredOffset : Nat := 3

def frontId (exchange root : String) : InstrumentId where
  value := "CONTINUOUS_FUTURE." ++ (exchange ++ "." ++ root)
  notEmpty := isBlank_append_of_left (by decide) _

def deferredId (exchange root : String) (offset : Nat) : InstrumentId where
  value := "CONTINUOUS_FUTURE." ++ (exchange ++ "." ++ root ++ ".M" ++ toString (offset + 1))
  notEmpty := isBlank_append_of_left (by decide) _

variable (caps : UpperCase)

def normalizeRoot (rootSymbol : String) : Except Failure String :=
  let normalized := caps.upper (strip rootSymbol)
  if normalized = "" then .error (.valueError "root_symbol must not be empty") else .ok normalized

def setDefault {Value : Type} (dict : Dict InstrumentId Value) (key : InstrumentId)
    (value : Value) : Dict InstrumentId Value :=
  if (dict.get? key).isSome then dict else dict.set key value

def registerDeferred (root exchange : String) (front : InstrumentId)
    (contracts : List InstrumentId) (registry : FutureRollRegistry) (offset : Nat) :
    FutureRollRegistry :=
  let deferred := deferredId exchange root offset
  { registry with
    rootByContinuous := registry.rootByContinuous.set deferred root
    contractsByContinuous := registry.contractsByContinuous.set deferred contracts
    frontByDeferred := registry.frontByDeferred.set deferred front
    offsetByDeferred := registry.offsetByDeferred.set deferred offset }

def registerRoot (registry : FutureRollRegistry) (rootSymbol exchange : String)
    (contracts : List InstrumentId) :
    Except Failure (InstrumentId × FutureRollRegistry) := do
  let root ← normalizeRoot caps rootSymbol
  if isBlank exchange then
    throw (.valueError "exchange must not be empty")
  -- `dict.fromkeys` keeps the first occurrence of each contract.
  let uniqueContracts := (Dict.ofItems (contracts.map fun contract => (contract, ()))).keys
  if uniqueContracts.isEmpty then
    throw (.valueError "contracts must not be empty")
  let exchangeClean := caps.upper (strip exchange)
  let front := frontId exchangeClean root
  let registered : FutureRollRegistry := { registry with
    exchangeByRoot := registry.exchangeByRoot.set root exchangeClean
    continuousByRoot := registry.continuousByRoot.set root front
    rootByContinuous := registry.rootByContinuous.set front root
    contractsByContinuous := registry.contractsByContinuous.set front uniqueContracts
    selectionsByContinuous := setDefault registry.selectionsByContinuous front []
    selectionTimesByContinuous := setDefault registry.selectionTimesByContinuous front []
    latestPricesByContinuous := setDefault registry.latestPricesByContinuous front .empty }
  let maxDeferred := min (uniqueContracts.length - 1) maxDeferredOffset
  let offsets := (List.range maxDeferred).map (· + 1)
  return (front,
    offsets.foldl (registerDeferred root exchangeClean front uniqueContracts) registered)

def lookup {Value : Type} (dict : Dict InstrumentId Value) (key : InstrumentId) :
    Except Failure Value :=
  match dict.get? key with
  | some value => .ok value
  | none => .error (.keyError ("unknown continuous future: " ++ key.value))

def recordSelection (registry : FutureRollRegistry) (selection : FutureRollSelection) :
    Except Failure FutureRollRegistry := do
  let front := selection.continuousInstrumentId
  if (registry.frontByDeferred.get? front).isSome then
    throw (.valueError ("selections must be recorded against the front continuous future, " ++
      "not a deferred reference: " ++ front.value))
  if (registry.rootByContinuous.get? front).isNone then
    throw (.keyError ("unknown continuous future: " ++ front.value))
  let selections ← lookup registry.selectionsByContinuous front
  let selectionTimes ← lookup registry.selectionTimesByContinuous front
  if selectionTimes.getLast?.any fun last => decide (selection.asOf < last) then
    throw (.valueError "future roll selections must be recorded in chronological order")
  let latestPrices ← lookup registry.latestPricesByContinuous front
  let prices := selection.pricesByInstrument.items.foldl
    (fun latest item => latest.set item.1 item.2) latestPrices
  let recorded := selection.withPrices prices
  return { registry with
    latestPricesByContinuous := registry.latestPricesByContinuous.set front prices
    selectionsByContinuous := registry.selectionsByContinuous.set front
      (if registry.retainHistory then selections ++ [recorded] else [recorded])
    selectionTimesByContinuous := registry.selectionTimesByContinuous.set front
      (if registry.retainHistory then selectionTimes ++ [selection.asOf] else [selection.asOf]) }

def isContinuous (registry : FutureRollRegistry) (instrumentId : InstrumentId) : Bool :=
  (registry.rootByContinuous.get? instrumentId).isSome

def bisectRight (times : List DateTime) (asOf : DateTime) : Nat :=
  (times.takeWhile fun time => decide (time ≤ asOf)).length

def selectionAt (registry : FutureRollRegistry) (continuousInstrumentId : InstrumentId)
    (asOf : DateTime) : Except Failure FutureRollSelection := do
  let selections ← lookup registry.selectionsByContinuous continuousInstrumentId
  let selectionTimes ← lookup registry.selectionTimesByContinuous continuousInstrumentId
  match bisectRight selectionTimes asOf with
  | 0 => throw (.missingRollSelection continuousInstrumentId asOf)
  | index + 1 =>
    match selections[index]? with
    | some selection => return selection
    | none => throw (.other "list index out of range")

def frontContinuousId (registry : FutureRollRegistry) (continuousInstrumentId : InstrumentId) :
    InstrumentId :=
  (registry.frontByDeferred.get? continuousInstrumentId).getD continuousInstrumentId

def resolveContract (registry : FutureRollRegistry) (continuousId : InstrumentId)
    (asOf : DateTime) (offset : Nat := 0) : Except Failure InstrumentId := do
  let front := registry.frontContinuousId continuousId
  let effectiveOffset := offset + (registry.offsetByDeferred.get? continuousId).getD 0
  let selection ← registry.selectionAt front asOf
  if effectiveOffset = 0 then
    return selection.concreteInstrumentId
  let contracts ← lookup registry.contractsByContinuous front
  let frontContract := selection.concreteInstrumentId
  match contracts.idxOf? frontContract with
  | none => throw (.valueError ("front contract " ++ frontContract.value ++
      " not found in registered contracts for " ++ front.value))
  | some frontIndex =>
    match contracts[frontIndex + effectiveOffset]? with
    | some contract => return contract
    | none => throw (.valueError ("effective offset " ++ toString effectiveOffset ++
        " from front contract at index " ++ toString frontIndex ++
        " exceeds available contracts (total: " ++ toString contracts.length ++ ")"))

def relatedContracts (registry : FutureRollRegistry) (continuousInstrumentId : InstrumentId) :
    Except Failure (List InstrumentId) :=
  lookup registry.contractsByContinuous continuousInstrumentId

def executionPrice (registry : FutureRollRegistry)
    (continuousInstrumentId concreteInstrumentId : InstrumentId) (asOf : DateTime) :
    Except Failure Decimal := do
  let selection ← registry.selectionAt (registry.frontContinuousId continuousInstrumentId) asOf
  match selection.pricesByInstrument.get? concreteInstrumentId with
  | some price => return price
  | none => throw (.missingExecutionPrice concreteInstrumentId asOf
      ("no price recorded in selection for " ++ continuousInstrumentId.value))

def RecordsPrice (registry : FutureRollRegistry) (instrumentId : InstrumentId)
    (price : Decimal) : Prop :=
  ∃ front selections selection, registry.selectionsByContinuous.get? front = some selections ∧
    selection ∈ selections ∧ selection.pricesByInstrument.get? instrumentId = some price

variable {registry : FutureRollRegistry}

theorem lookup_inv {Value : Type} {dict : Dict InstrumentId Value} {key : InstrumentId}
    {value : Value} (found : lookup dict key = .ok value) : dict.get? key = some value := by
  unfold lookup at found
  split at found
  · next present =>
    obtain rfl := Except.ok.inj found
    exact present
  · cases found

theorem selectionAt_recorded {front : InstrumentId} {asOf : DateTime}
    {selection : FutureRollSelection} (selected : registry.selectionAt front asOf = .ok selection) :
    ∃ selections, registry.selectionsByContinuous.get? front = some selections ∧
      selection ∈ selections := by
  unfold selectionAt at selected
  obtain ⟨selections, found, rest⟩ := bind_inv selected
  obtain ⟨times, _, indexed⟩ := bind_inv rest
  refine ⟨selections, lookup_inv found, ?_⟩
  split at indexed
  · cases indexed
  · split at indexed
    · next present =>
      obtain rfl := Except.ok.inj indexed
      exact List.mem_of_getElem? present
    · cases indexed

theorem executionPrice_recorded {continuousId concreteId : InstrumentId} {asOf : DateTime}
    {price : Decimal} (priced : registry.executionPrice continuousId concreteId asOf = .ok price) :
    registry.RecordsPrice concreteId price := by
  unfold executionPrice at priced
  obtain ⟨selection, selected, rest⟩ := bind_inv priced
  obtain ⟨selections, found, mem⟩ := selectionAt_recorded selected
  split at rest
  · next present =>
    obtain rfl := Except.ok.inj rest
    exact ⟨_, selections, selection, found, mem, present⟩
  · cases rest

end FutureRollRegistry

end Qts
