import Qts.JsonValues
import Qts.StableSorting

/-! # Normalization of search candidates -/

namespace Qts

open Dict List

inductive SearchConstraint (Value : Type)
  | conditional (parameter : String) (when : Dict String Value)
  | forbiddenCombination (values : Dict String Value)

namespace SearchSpaceSpec

variable {Value : Type} [BEq Value] (null : Value)

def matchesAll (parameters expected : Dict String Value) : Bool :=
  expected.items.all fun item => (parameters.get? item.1).getD null == item.2

def applyConditional (normalized : Dict String Value) :
    SearchConstraint Value → Dict String Value
  | .conditional parameter when =>
    if matchesAll null normalized when then normalized else normalized.erase parameter
  | .forbiddenCombination _ => normalized

def activate (constraints : List (SearchConstraint Value))
    (parameters : Dict String Value) : Dict String Value :=
  constraints.foldl (applyConditional null) parameters

def isForbidden (constraints : List (SearchConstraint Value))
    (normalized : Dict String Value) : Bool :=
  constraints.any fun
    | .conditional _ _ => false
    | .forbiddenCombination values => matchesAll null normalized values

/-- Apply conditional and forbidden-combination constraints. -/
def normalizeCandidate (constraints : List (SearchConstraint Value))
    (parameters : Dict String Value) : Option (Dict String Value) :=
  let normalized := activate null constraints parameters
  if isForbidden null constraints normalized then none else some normalized.sorted

/-- All conditions that are declared for a parameter hold. -/
def Active (constraints : List (SearchConstraint Value)) (parameters : Dict String Value)
    (name : String) : Prop :=
  ∀ when, .conditional name when ∈ constraints → matchesAll null parameters when = true

def Unchained (constraints : List (SearchConstraint Value))
    (parameters : Dict String Value) : Prop :=
  ∀ name, Active null constraints parameters name → ∀ when,
    .conditional name when ∈ constraints → ∀ other ∈ when.keys,
      Active null constraints parameters other

/-- The result is its own normalization, keeps just the conditional parameters whose
conditions hold in it and does not depend on the order of the constraints. -/
structure Canonical (constraints : List (SearchConstraint Value))
    (parameters : Dict String Value) : Prop where
  orderFree : ∀ others, constraints.Perm others →
    normalizeCandidate null others parameters = normalizeCandidate null constraints parameters
  idempotent : ∀ result, normalizeCandidate null constraints parameters = some result →
    normalizeCandidate null constraints result = some result
  keepsActive : ∀ result, normalizeCandidate null constraints parameters = some result →
    ∀ name when, .conditional name when ∈ constraints →
      ((result.get? name).isSome ↔ Active null constraints result name)

variable {null} {constraints others : List (SearchConstraint Value)}
  {parameters second small big : Dict String Value} {name : String}

def ExpectsValues (null : Value) (constraints : List (SearchConstraint Value)) : Prop :=
  ∀ name when, .conditional name when ∈ constraints →
    ∀ item ∈ when.items, (null == item.2) = false

/-- The assignment has every conditional parameter. -/
def Full (constraints : List (SearchConstraint Value)) (parameters : Dict String Value) :
    Prop :=
  ∀ name when, .conditional name when ∈ constraints → (parameters.get? name).isSome

def Within (small big : Dict String Value) : Prop :=
  ∀ name value, small.get? name = some value → big.get? name = some value

variable {when : Dict String Value}

theorem exists_of_matches (nonNull : ∀ item ∈ when.items, (null == item.2) = false)
    (found : matchesAll null parameters when = true) :
    ∀ item ∈ when.items, ∃ value, parameters.get? item.1 = some value := by
  intro item mem
  have agrees := all_eq_true.mp found item mem
  cases read : parameters.get? item.1 with
  | none =>
    rw [read, Option.getD_none, nonNull item mem] at agrees
    cases agrees
  | some value => exact ⟨value, rfl⟩

theorem matches_congr (same : ∀ name ∈ when.keys, parameters.get? name = second.get? name) :
    matchesAll null parameters when = matchesAll null second when := by
  rw [Bool.eq_iff_iff, matchesAll, matchesAll, all_eq_true, all_eq_true]
  apply forall₂_congr
  intro item mem
  rw [same item.1 (mem_map_of_mem mem)]

theorem matches_mono (nonNull : ∀ item ∈ when.items, (null == item.2) = false)
    (within : Within small big) (found : matchesAll null small when = true) :
    matchesAll null big when = true := by
  rw [← found]
  apply matches_congr
  intro name mem
  obtain ⟨item, inside, rfl⟩ := mem_map.mp mem
  obtain ⟨value, read⟩ := exists_of_matches nonNull found item inside
  rw [read, within _ _ read]

theorem applyConditional_within (constraint : SearchConstraint Value) :
    Within (applyConditional null parameters constraint) parameters := by
  intro name value found
  cases constraint with
  | forbiddenCombination => exact found
  | conditional parameter when =>
    rw [applyConditional] at found
    split at found
    · exact found
    · rw [get?_erase] at found
      split at found
      · cases found
      · exact found

theorem activate_within (constraints : List (SearchConstraint Value))
    (parameters : Dict String Value) : Within (activate null constraints parameters)
      parameters := by
  induction constraints generalizing parameters with
  | nil => exact fun _ _ found => found
  | cons constraint constraints ih =>
    exact fun name value found =>
        applyConditional_within constraint name value (ih _ name value found)

theorem activate_append (first rest : List (SearchConstraint Value)) :
    activate null (first ++ rest) parameters =
        activate null rest (activate null first parameters) :=
  foldl_append

theorem active_of_kept (expects : ExpectsValues null constraints)
    (kept : ((activate null constraints parameters).get? name).isSome) :
    Active null constraints parameters name := by
  intro when mem
  obtain ⟨first, rest, rfl⟩ := append_of_mem mem
  rw [activate_append] at kept
  by_contra differs
  have earlier : ¬ matchesAll null (activate null first parameters) when = true := fun found =>
    differs (matches_mono (expects name when mem) (activate_within first parameters) found)
  obtain ⟨value, found⟩ := Option.isSome_iff_exists.mp kept
  have before := activate_within rest _ name value found
  rw [applyConditional, if_neg earlier, get?_erase_self] at before
  cases before

theorem not_active_of_dropped (expects : ExpectsValues null constraints)
    (given : (parameters.get? name).isSome)
    (dropped : (activate null constraints parameters).get? name = none) :
    ¬ Active null constraints (activate null constraints parameters) name := by
  induction constraints generalizing parameters with
  | nil =>
    rw [show parameters.get? name = none from dropped] at given
    cases given
  | cons constraint constraints ih =>
    intro active
    have rest : ExpectsValues null constraints := fun name when mem =>
      expects name when (mem_cons_of_mem _ mem)
    by_cases stays : ((applyConditional null parameters constraint).get? name).isSome
    · exact ih rest stays dropped fun when mem => active when (mem_cons_of_mem _ mem)
    · cases constraint with
      | forbiddenCombination => exact stays given
      | conditional parameter when =>
        rw [applyConditional] at stays
        split at stays
        · exact stays given
        · next differs =>
          by_cases same : name = parameter
          · subst same
            exact differs (matches_mono (expects name when mem_cons_self)
              (activate_within _ _) (active when mem_cons_self))
          · rw [get?_erase_of_ne _ same] at stays
            exact stays given

theorem activate_keeps (unchained : Unchained null constraints parameters)
    (among : ∀ constraint ∈ others, constraint ∈ constraints)
    (agrees : ∀ name, Active null constraints parameters name →
      small.get? name = parameters.get? name) (active : Active null constraints parameters name) :
    (activate null others small).get? name = parameters.get? name := by
  induction others generalizing small with
  | nil => exact agrees name active
  | cons constraint others ih =>
    apply ih fun other mem => among other (mem_cons_of_mem _ mem)
    intro kept keptActive
    cases declared : constraint with
    | forbiddenCombination => exact agrees kept keptActive
    | conditional parameter when =>
      have mem := among constraint mem_cons_self
      rw [declared] at mem
      rw [applyConditional]
      split
      · exact agrees kept keptActive
      · next differs =>
        by_cases same : kept = parameter
        · subst same
          have found := keptActive when mem
          rw [← matches_congr fun other inside =>
            agrees other (unchained kept keptActive when mem other inside)] at found
          exact absurd found differs
        · rw [get?_erase_of_ne _ same]
          exact agrees kept keptActive

theorem active_congr (same : ∀ constraint, constraint ∈ others ↔ constraint ∈ constraints) :
    Active null others parameters name ↔ Active null constraints parameters name := by
  simp only [Active, same]

/-- Without chains the pass keeps just the active parameters, in every order. -/
theorem get?_activate (expects : ExpectsValues null constraints)
    (unchained : Unchained null constraints parameters) (same : constraints.Perm others)
    (name : String) :
    (Active null constraints parameters name →
      (activate null others parameters).get? name = parameters.get? name) ∧
    (¬ Active null constraints parameters name →
      (activate null others parameters).get? name = none) := by
  refine ⟨activate_keeps unchained (fun _ mem => same.mem_iff.mpr mem) fun _ _ => rfl, ?_⟩
  intro inactive
  by_contra kept
  apply inactive
  rw [← active_congr fun constraint => same.symm.mem_iff]
  exact active_of_kept (fun name when mem => expects name when (same.mem_iff.mpr mem))
    (Option.isSome_iff_ne_none.mpr kept)

omit [BEq Value] in
theorem sorted_congr (same : ∀ name, small.get? name = big.get? name) :
    small.sorted = big.sorted := by
  have members : small.items.Perm big.items := by
    apply (perm_ext_iff_of_nodup (.of_map _ small.distinct) (.of_map _ big.distinct)).mpr
    rintro ⟨name, value⟩
    rw [← get?_eq_some_iff, ← get?_eq_some_iff, same]
  apply ext
  apply StableSorting.insertionSort_eq_of_perm Prod.fst (fun _ _ => Iff.rfl) members
  rintro ⟨name, value⟩ first ⟨_, other⟩ second rfl
  rw [← get?_eq_some_iff] at first second
  rw [first] at second
  cases second
  rfl

theorem normalizeCandidate_congr (same : constraints.Perm others)
    (agrees : ∀ name, (activate null others second).get? name =
      (activate null constraints parameters).get? name) :
    normalizeCandidate null others second = normalizeCandidate null constraints parameters := by
  have forbidden : isForbidden null others (activate null others second) =
      isForbidden null constraints (activate null constraints parameters) := by
    rw [isForbidden, isForbidden, same.any_eq]
    refine any_congr rfl fun constraint => ?_
    cases constraint with
    | conditional => rfl
    | forbiddenCombination values => exact matches_congr fun name _ => agrees name
  rw [normalizeCandidate, normalizeCandidate]
  simp only [forbidden, sorted_congr agrees]

theorem result_reads {result : Dict String Value}
    (normalized : normalizeCandidate null constraints parameters = some result) (name : String) :
    result.get? name = (activate null constraints parameters).get? name := by
  rw [normalizeCandidate] at normalized
  split at normalized
  · cases normalized
  · cases normalized
    exact get?_sorted _ name

theorem active_of_result (expects : ExpectsValues null constraints)
    (unchained : Unchained null constraints parameters) {result : Dict String Value}
    (normalized : normalizeCandidate null constraints parameters = some result)
    (kept : (result.get? name).isSome) : Active null constraints result name := by
  intro when mem
  have reads := get?_activate expects unchained (.refl _)
  have same := result_reads normalized
  rw [same] at kept
  have active := active_of_kept expects kept
  rw [matches_congr fun other inside => (same other).trans
    ((reads other).1 (unchained name active when mem other inside))]
  exact active when mem

theorem canonical_of_unchained (expects : ExpectsValues null constraints)
    (full : Full constraints parameters) (unchained : Unchained null constraints parameters) :
    Canonical null constraints parameters := by
  have reads := get?_activate expects unchained (.refl _)
  refine ⟨?_, ?_, ?_⟩
  · intro others perm
    apply normalizeCandidate_congr perm
    intro name
    by_cases active : Active null constraints parameters name
    · rw [(reads name).1 active, (get?_activate expects unchained perm name).1 active]
    · rw [(reads name).2 active, (get?_activate expects unchained perm name).2 active]
  · intro result normalized
    have keeps (name : String) := @active_of_result _ _ _ _ _ name expects unchained _ normalized
    have settled : Unchained null constraints result := by
      intro name active when mem other inside
      obtain ⟨item, within, rfl⟩ := mem_map.mp inside
      obtain ⟨value, found⟩ :=
        exists_of_matches (expects name when mem) (active when mem) item within
      exact keeps item.1 (Option.isSome_iff_exists.mpr ⟨value, found⟩)
    rw [← normalized]
    apply normalizeCandidate_congr (.refl _)
    intro name
    rw [← result_reads normalized]
    by_cases active : Active null constraints result name
    · exact (get?_activate expects settled (.refl _) name).1 active
    · rw [(get?_activate expects settled (.refl _) name).2 active]
      exact (Option.not_isSome_iff_eq_none.mp fun kept => active (keeps name kept)).symm
  · intro result normalized name when mem
    constructor
    · exact active_of_result expects unchained normalized
    · intro active
      by_contra dropped
      rw [Option.not_isSome_iff_eq_none, result_reads normalized] at dropped
      apply not_active_of_dropped expects (full name when mem) dropped
      intro when mem
      rw [← matches_congr fun other _ => result_reads normalized other]
      exact active when mem

theorem activate_of_unmoved
    (unmoved : ∀ constraint ∈ constraints, applyConditional null parameters constraint =
        parameters) :
    activate null constraints parameters = parameters := by
  induction constraints with
  | nil => rfl
  | cons constraint constraints ih =>
    rw [activate, foldl_cons, unmoved constraint mem_cons_self]
    exact ih fun other mem => unmoved other (mem_cons_of_mem _ mem)

theorem activate_unconditional
    (unconditional : ∀ constraint ∈ constraints, ∀ when, constraint ≠ .conditional name when) :
    (activate null constraints parameters).get? name = parameters.get? name := by
  induction constraints generalizing parameters with
  | nil => rfl
  | cons constraint constraints ih =>
    rw [activate, foldl_cons, ← activate,
      ih fun other mem => unconditional other (mem_cons_of_mem _ mem)]
    cases constraint with
    | forbiddenCombination => rfl
    | conditional parameter when =>
      have other : name ≠ parameter := by
        rintro rfl
        exact unconditional _ mem_cons_self when rfl
      rw [applyConditional]
      split
      · rfl
      · exact get?_erase_of_ne _ other

theorem unchained_of_canonical (expects : ExpectsValues null constraints)
    (full : Full constraints parameters) (canonical : Canonical null constraints parameters)
    {result : Dict String Value}
    (normalized : normalizeCandidate null constraints parameters = some result) :
    Unchained null constraints parameters := by
  classical
  intro name active when mem other inside
  let declared := constraints.filter fun constraint => ∃ when, constraint = .conditional name when
  let rest := constraints.filter fun constraint => ¬ ∃ when, constraint = .conditional name when
  have perm : constraints.Perm (declared ++ rest) := by
    have split := filter_append_perm
      (fun constraint => decide (∃ when, constraint = .conditional name when)) constraints
    simpa only [declared, rest, decide_not] using split.symm
  have first : activate null declared parameters = parameters := by
    apply activate_of_unmoved
    intro constraint among
    obtain ⟨here, conditional⟩ := mem_filter.mp among
    obtain ⟨when, rfl⟩ := of_decide_eq_true conditional
    exact if_pos (active when here)
  have kept : (activate null (declared ++ rest) parameters).get? name = parameters.get? name := by
    rw [activate_append, first]
    apply activate_unconditional
    intro constraint among when same
    exact of_decide_eq_true (mem_filter.mp among).2 ⟨when, same⟩
  rw [← result_reads ((canonical.orderFree _ perm).trans normalized)] at kept
  have holds := (canonical.keepsActive result normalized name when mem).mp
    (by rw [kept]; exact full name when mem) when mem
  obtain ⟨item, within, rfl⟩ := mem_map.mp inside
  obtain ⟨value, found⟩ := exists_of_matches (expects name when mem) holds item within
  rw [result_reads normalized] at found
  exact active_of_kept expects (Option.isSome_iff_exists.mpr ⟨value, found⟩)

theorem active_transfer (unchained : Unchained null constraints parameters)
    (differ : ∀ name, parameters.get? name ≠ second.get? name →
      ¬ Active null constraints parameters name)
    (active : Active null constraints parameters name) : Active null constraints second name := by
  intro when mem
  rw [← matches_congr fun other inside => by_contra fun differs =>
    differ other differs (unchained name active when mem other inside)]
  exact active when mem

/-- Normalization is canonical for an assignment exactly where no active parameter has a
condition on an inactive one, unless every order of the constraints rejects it; and then
what inactive parameters are assigned makes no difference. -/
theorem normalizeCandidate_canonical_iff (expects : ExpectsValues null constraints) :
    (∀ parameters, Full constraints parameters →
      (Canonical null constraints parameters ↔ Unchained null constraints parameters ∨
        ∀ others, constraints.Perm others → normalizeCandidate null others parameters = none)) ∧
    ∀ parameters second, Unchained null constraints parameters →
      Unchained null constraints second →
      (∀ name, parameters.get? name ≠ second.get? name →
        ¬ Active null constraints parameters name ∧ ¬ Active null constraints second name) →
      normalizeCandidate null constraints parameters =
          normalizeCandidate null constraints second := by
  constructor
  · intro parameters full
    constructor
    · intro canonical
      cases normalized : normalizeCandidate null constraints parameters with
      | none => exact .inr fun others perm => (canonical.orderFree others perm).trans normalized
      | some result => exact .inl (unchained_of_canonical expects full canonical normalized)
    · rintro (unchained | rejected)
      · exact canonical_of_unchained expects full unchained
      · have none := rejected constraints (.refl _)
        refine ⟨fun others perm => (rejected others perm).trans none.symm, ?_, ?_⟩
        · intro result normalized
          rw [none] at normalized
          cases normalized
        · intro result normalized
          rw [none] at normalized
          cases normalized
  · intro parameters second unchained settled differ
    apply normalizeCandidate_congr (.refl _)
    intro name
    have here := get?_activate expects unchained (.refl _) name
    have there := get?_activate expects settled (.refl _) name
    by_cases active : Active null constraints parameters name
    · have also := active_transfer unchained (fun other differs => (differ other differs).1) active
      rw [here.1 active, there.1 also]
      exact by_contra fun differs => (differ name differs).1 active
    · have neither : ¬ Active null constraints second name := fun also => active
        (active_transfer settled (fun other differs => (differ other (Ne.symm differs)).2) also)
      rw [here.2 active, there.2 neither]

def chained : List (SearchConstraint (Option Nat)) :=
  [.conditional "x" (.ofItems [("y", some 1)]), .conditional "y" (.ofItems [("z", some 1)])]

def startsChain : Dict String (Option Nat) :=
  .ofItems [("x", some 1), ("y", some 1), ("z", some 0)]

theorem chained_spec : ExpectsValues none chained ∧ Full chained startsChain := by
  constructor <;>
  · intro name when mem
    simp only [chained, mem_cons, SearchConstraint.conditional.injEq, not_mem_nil,
      or_false] at mem
    rcases mem with ⟨rfl, rfl⟩ | ⟨rfl, rfl⟩ <;> decide

theorem normalizeCandidate_canonical_iff_chained :
    Canonical none chained startsChain ↔ Unchained none chained startsChain ∨
      ∀ others, chained.Perm others → normalizeCandidate none others startsChain = none :=
  (normalizeCandidate_canonical_iff chained_spec.1).1 startsChain chained_spec.2

/-- The first pass keeps a parameter whose condition is gone, and the second drops it. -/
theorem chained_not_canonical :
    ExpectsValues none chained ∧ Full chained startsChain ∧
      ¬ Canonical none chained startsChain := by
  refine ⟨chained_spec.1, chained_spec.2, fun canonical => ?_⟩
  have again := canonical.idempotent (.ofItems [("x", some 1), ("z", some 0)]) rfl
  have read := congrArg (Option.map (·.get? "x")) again
  exact absurd read (by decide)

end SearchSpaceSpec

end Qts
