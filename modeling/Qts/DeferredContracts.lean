import Qts.RollStability

/-! # The contracts behind the legs of a root -/

namespace Qts

namespace FutureRollRegistry

theorem deferredId_congr {exchange root otherExchange otherRoot : String}
    (same : frontId exchange root = frontId otherExchange otherRoot) (offset : Nat) :
    deferredId exchange root offset = deferredId otherExchange otherRoot offset := by
  have suffixed : ∀ ownExchange ownRoot, (deferredId ownExchange ownRoot offset).value.toList =
      (frontId ownExchange ownRoot).value.toList ++ (".M" ++ toString (offset + 1)).toList := by
    intro ownExchange ownRoot
    unfold deferredId frontId
    simp only [String.toList_append, List.append_assoc]
  apply InstrumentId.ext_value
  apply String.toList_injective
  rw [suffixed, suffixed, same]

def NamesLeg (registry : FutureRollRegistry) (continuousId : InstrumentId) : Prop :=
  (registry.frontByDeferred.get? continuousId = none ∧
      registry.offsetByDeferred.get? continuousId = none) ∨
    ∃ exchange root offset, 0 < offset ∧ continuousId = deferredId exchange root offset ∧
      registry.frontByDeferred.get? continuousId = some (frontId exchange root) ∧
      registry.offsetByDeferred.get? continuousId = some offset

structure LegsApart (registry : FutureRollRegistry) : Prop where
  named : ∀ continuousId, registry.NamesLeg continuousId
  distinct : ∀ continuousId contracts,
    registry.contractsByContinuous.get? continuousId = some contracts → contracts.Nodup

variable {registry next : FutureRollRegistry} {caps : PythonText.UpperCase}

variable {contracts : List InstrumentId}

theorem LegsApart.registerDeferred (apart : registry.LegsApart) {root exchange : String}
    (nodup : contracts.Nodup) {offset : Nat}
    (pos : 0 < offset) :
    (registry.registerDeferred root exchange (frontId exchange root) contracts
      offset).LegsApart := by
  constructor
  · intro continuousId
    unfold NamesLeg FutureRollRegistry.registerDeferred
    by_cases same : continuousId = deferredId exchange root offset
    · subst same
      exact .inr ⟨exchange, root, offset, pos, rfl, Dict.get?_set_self _ _ _,
        Dict.get?_set_self _ _ _⟩
    · dsimp only
      rw [Dict.get?_set_of_ne _ _ same, Dict.get?_set_of_ne _ _ same]
      exact apart.named continuousId
  · intro continuousId chain found
    unfold FutureRollRegistry.registerDeferred at found
    by_cases same : continuousId = deferredId exchange root offset
    · subst same
      rw [Dict.get?_set_self] at found
      obtain rfl := Option.some.inj found
      exact nodup
    · rw [Dict.get?_set_of_ne _ _ same] at found
      exact apart.distinct continuousId chain found

theorem LegsApart.foldl_registerDeferred (apart : registry.LegsApart) {root exchange : String}
    (nodup : contracts.Nodup) {offsets : List Nat}
    (pos : ∀ offset ∈ offsets, 0 < offset) :
    (offsets.foldl (FutureRollRegistry.registerDeferred root exchange (frontId exchange root)
      contracts) registry).LegsApart := by
  induction offsets generalizing registry with
  | nil => exact apart
  | cons offset offsets ih =>
    exact ih (apart.registerDeferred nodup (pos offset List.mem_cons_self))
      fun later mem => pos later (List.mem_cons_of_mem _ mem)

theorem LegsApart.registerRoot (apart : registry.LegsApart) {rootSymbol exchange : String}
    {front : InstrumentId}
    (registered : registry.registerRoot caps rootSymbol exchange contracts = .ok (front, next)) :
    next.LegsApart := by
  unfold FutureRollRegistry.registerRoot at registered
  obtain ⟨root, _, rest⟩ := bind_inv registered
  split at rest
  · cases rest
  dsimp only at rest
  split at rest
  · cases rest
  cases rest
  have nodup : (Dict.ofItems (contracts.map fun contract => (contract, ()))).keys.Nodup :=
    Dict.distinct _
  apply LegsApart.foldl_registerDeferred _ nodup
  · intro offset mem
    obtain ⟨index, _, rfl⟩ := List.mem_map.mp mem
    exact Nat.succ_pos index
  · refine ⟨apart.named, ?_⟩
    intro continuousId chain found
    rw [Dict.get?_set] at found
    split at found
    · obtain rfl := Option.some.inj found
      exact nodup
    · exact apart.distinct continuousId chain found

theorem step_legsApart (registry : FutureRollRegistry) (command : RollCommand)
    (apart : registry.LegsApart) : (step caps registry command).2.LegsApart := by
  cases command with
  | registerRoot rootSymbol exchange contracts =>
    rw [step]
    cases registered : registry.registerRoot caps rootSymbol exchange contracts with
    | error failure => exact apart
    | ok answer => exact apart.registerRoot (registered.trans rfl)
  | recordSelection selection =>
    rw [step]
    cases recorded : registry.recordSelection selection with
    | error failure => exact apart
    | ok next =>
      obtain ⟨selections, times, latest, _, _, _, _, rfl⟩ := recordSelection_inv recorded
      exact ⟨apart.named, apart.distinct⟩

theorem filled_legsApart (caps : PythonText.UpperCase) (retainHistory : Bool)
    (commands : List RollCommand) : (filled caps retainHistory commands).LegsApart := by
  refine StepRuns.final_invariant step_legsApart ⟨?_, ?_⟩ commands
  · exact fun _ => .inl ⟨rfl, rfl⟩
  · exact fun _ _ found => nomatch found

def legOffset (registry : FutureRollRegistry) (continuousId : InstrumentId) : Nat :=
  (registry.offsetByDeferred.get? continuousId).getD 0

theorem LegsApart.eq_of_legOffset (apart : registry.LegsApart) {first second : InstrumentId}
    (sameFront : registry.frontContinuousId first = registry.frontContinuousId second)
    (sameOffset : registry.legOffset first = registry.legOffset second) : first = second := by
  unfold frontContinuousId at sameFront
  unfold legOffset at sameOffset
  rcases apart.named first with ⟨front, offset⟩ | ⟨exchange, root, offset, pos, id, front, own⟩
  · rw [front] at sameFront
    rw [offset] at sameOffset
    rcases apart.named second with
      ⟨otherFront, _⟩ | ⟨_, _, otherOffset, otherPositive, _, _, otherAt⟩
    · rw [otherFront] at sameFront
      exact sameFront
    · rw [otherAt] at sameOffset
      exact absurd sameOffset otherPositive.ne
  · rw [front] at sameFront
    rw [own] at sameOffset
    rcases apart.named second with
      ⟨_, otherAt⟩ | ⟨otherExchange, otherRoot, otherOffset, _, otherId, otherFront, otherAt⟩
    · rw [otherAt] at sameOffset
      exact absurd sameOffset pos.ne'
    · rw [otherFront] at sameFront
      rw [otherAt] at sameOffset
      obtain rfl : offset = otherOffset := sameOffset
      rw [id, otherId, deferredId_congr sameFront]

variable {asOf : DateTime}

theorem resolveContract_inv {continuousId contract : InstrumentId}
    (resolved : registry.resolveContract continuousId asOf = .ok contract) :
    ∃ selection, registry.selectionAt (registry.frontContinuousId continuousId) asOf =
        .ok selection ∧
      (registry.legOffset continuousId = 0 ∧ contract = selection.concreteInstrumentId ∨
        ∃ contracts index, 0 < registry.legOffset continuousId ∧
          registry.contractsByContinuous.get? (registry.frontContinuousId continuousId) =
            some contracts ∧
          contracts[index]? = some selection.concreteInstrumentId ∧
          contracts[index + registry.legOffset continuousId]? = some contract) := by
  unfold resolveContract at resolved
  obtain ⟨selection, selected, rest⟩ := bind_inv resolved
  refine ⟨selection, selected, ?_⟩
  rw [Nat.zero_add] at rest
  split at rest
  · next front =>
    cases rest
    exact .inl ⟨front, rfl⟩
  · next deferred =>
    obtain ⟨contracts, found, rest⟩ := bind_inv rest
    dsimp only at rest
    split at rest
    · cases rest
    · next index indexed =>
      split at rest
      · next reached =>
        cases rest
        obtain ⟨bound, placed, _⟩ := List.idxOf?_eq_some_iff.mp indexed
        refine .inr ⟨contracts, index, Nat.pos_of_ne_zero deferred, lookup_inv found, ?_, reached⟩
        exact List.getElem?_eq_some_iff.mpr ⟨bound, placed⟩
      · cases rest

theorem LegsApart.resolveContract_injective (apart : registry.LegsApart)
    {first second contract : InstrumentId}
    (sameFront : registry.frontContinuousId first = registry.frontContinuousId second)
    (resolved : registry.resolveContract first asOf = .ok contract)
    (again : registry.resolveContract second asOf = .ok contract) : first = second := by
  refine apart.eq_of_legOffset sameFront ?_
  obtain ⟨selection, selected, one⟩ := resolveContract_inv resolved
  obtain ⟨other, selectedOther, two⟩ := resolveContract_inv again
  rw [← sameFront] at selectedOther two
  obtain rfl := ok_unique selected selectedOther
  -- A leg behind the front stands at another place of a list without repetitions.
  have behind : ∀ continuousId contracts index, 0 < registry.legOffset continuousId →
      registry.contractsByContinuous.get? (registry.frontContinuousId first) = some contracts →
      contracts[index]? = some selection.concreteInstrumentId →
      contracts[index + registry.legOffset continuousId]? ≠
        some selection.concreteInstrumentId := by
    intro continuousId contracts index pos found indexed same
    have places := (List.getElem?_inj (List.getElem?_eq_some_iff.mp indexed).choose
      (apart.distinct _ contracts found)).mp (indexed.trans same.symm)
    omega
  rcases one with ⟨front, rfl⟩ | ⟨contracts, index, pos, found, indexed, reached⟩
  · rcases two with ⟨otherFront, _⟩ | ⟨contracts, index, pos, found, indexed, reached⟩
    · rw [front, otherFront]
    · exact absurd reached (behind second contracts index pos found indexed)
  · rcases two with ⟨_, rfl⟩ | ⟨chain, place, _, foundAgain, placed, reachedAgain⟩
    · exact absurd reached (behind first contracts index pos found indexed)
    · obtain rfl := Option.mem_unique found foundAgain
      have nodup := apart.distinct _ contracts found
      have sameIndex := (List.getElem?_inj (List.getElem?_eq_some_iff.mp indexed).choose
        nodup).mp (indexed.trans placed.symm)
      have samePlace := (List.getElem?_inj (List.getElem?_eq_some_iff.mp reached).choose
        nodup).mp (reached.trans reachedAgain.symm)
      omega

def legContract (registry : FutureRollRegistry) (front : InstrumentId) (asOf : DateTime)
    (continuousId : InstrumentId) : Option InstrumentId :=
  if registry.isContinuous continuousId ∧ registry.frontContinuousId continuousId = front then
    (registry.resolveContract continuousId asOf).toOption
  else
    none

theorem legContract_inv {front continuousId contract : InstrumentId}
    (leg : registry.legContract front asOf continuousId = some contract) :
    registry.isContinuous continuousId = true ∧
      registry.frontContinuousId continuousId = front ∧
      registry.resolveContract continuousId asOf = .ok contract := by
  unfold legContract at leg
  split at leg
  · next known =>
    refine ⟨known.1, known.2, ?_⟩
    cases resolved : registry.resolveContract continuousId asOf with
    | error failure =>
      rw [resolved] at leg
      cases leg
    | ok found =>
      rw [resolved] at leg
      obtain rfl := Option.some.inj leg
      rfl
  · cases leg

theorem LegsApart.legContract_injective (apart : registry.LegsApart)
    {front first second contract : InstrumentId}
    (leg : registry.legContract front asOf first = some contract)
    (other : registry.legContract front asOf second = some contract) : first = second := by
  obtain ⟨_, front, resolved⟩ := legContract_inv leg
  obtain ⟨_, otherFront, again⟩ := legContract_inv other
  exact apart.resolveContract_injective (front.trans otherFront.symm) resolved again

end FutureRollRegistry

end Qts
