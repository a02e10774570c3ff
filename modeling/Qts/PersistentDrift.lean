import Qts.ReconciliationDrift
import Qts.Streaks
import Qts.StepRuns

/-! # Persistent drift -/

namespace Qts

open StepRuns List

structure PersistentDriftConfig where
  consecutiveThreshold : Nat
  pos : 0 < consecutiveThreshold

def PersistentDriftConfig.create (consecutiveThreshold : Int := 3) :
    Except String PersistentDriftConfig :=
  if accepted : 0 < consecutiveThreshold then
    .ok ⟨consecutiveThreshold.toNat, by omega⟩
  else .error "consecutive_threshold must be positive"

/-- Result of one `observe` cycle. -/
structure PersistentDriftDecision where
  tripped : Bool
  trippedKey : Option String := none
deriving DecidableEq

/-- Track consecutive DIVERGENT reports on the same drift key. -/
structure PersistentDriftKillSwitch where
  config : PersistentDriftConfig
  streakKey : Option String := none
  streakCount : Nat := 0
  tripped : Bool := false
  trippedKey : Option String := none

def ReconciliationReport.divergentKeys (report : ReconciliationReport) : List String :=
  ((report.items.filter fun item => decide (item.kind = .divergent)).map (·.key)).insertionSort
    (· ≤ ·)

namespace PersistentDriftKillSwitch

def observe (switch : PersistentDriftKillSwitch) (report : ReconciliationReport) :
    PersistentDriftDecision × PersistentDriftKillSwitch :=
  if switch.tripped then (⟨true, switch.trippedKey⟩, switch)
  else
    match report.divergentKeys with
    | [] => (⟨false, none⟩, { switch with streakKey := none, streakCount := 0 })
    | focusKey :: _ =>
      let streakCount := if switch.streakKey = some focusKey then switch.streakCount + 1 else 1
      let next := { switch with streakKey := some focusKey, streakCount }
      if switch.config.consecutiveThreshold ≤ streakCount then
        (⟨true, some focusKey⟩, { next with tripped := true, trippedKey := some focusKey })
      else (⟨false, none⟩, next)

def after (config : PersistentDriftConfig) (reports : List ReconciliationReport) :
    PersistentDriftKillSwitch :=
  final observe { config } reports

end PersistentDriftKillSwitch

/-- What the safety controller is told when the switch trips. -/
structure PersistentDriftActivation where
  key : String
  reason : String
deriving DecidableEq

/-- Feed reconciliation reports into the kill-switch streak counter; the activations are those that
the safety controller has received. -/
structure PersistentDriftCoordinator where
  killSwitch : PersistentDriftKillSwitch
  alreadyTripped : Bool := false
  activations : List PersistentDriftActivation := []

namespace PersistentDriftCoordinator

variable (repr : String → String)

def activation (config : PersistentDriftConfig) (key : String) : PersistentDriftActivation where
  key := key
  reason := "persistent reconciliation drift on key=" ++ repr key ++ " for " ++
    toString config.consecutiveThreshold ++ " consecutive cycles"

def observe (coordinator : PersistentDriftCoordinator) (report : ReconciliationReport) :
    Except String Unit × PersistentDriftCoordinator :=
  let observed := coordinator.killSwitch.observe report
  let next := { coordinator with killSwitch := observed.2 }
  if !observed.1.tripped || coordinator.alreadyTripped then (.ok (), next)
  else
    match observed.1.trippedKey with
    | none => (.error "AssertionError", { next with alreadyTripped := true })
    | some key =>
      (.ok (), { next with
        alreadyTripped := true
        activations := next.activations ++ [activation repr observed.2.config key] })

end PersistentDriftCoordinator

namespace ReconciliationReport

variable {report : ReconciliationReport} {key : String}

def Divergent (key : String) (report : ReconciliationReport) : Prop :=
  ∃ item ∈ report.items, item.kind = .divergent ∧ item.key = key

instance (key : String) : DecidablePred (Divergent key) :=
  fun report => inferInstanceAs (Decidable (∃ item ∈ report.items, _ ∧ _))

def Smallest (key : String) (report : ReconciliationReport) : Prop :=
  IsLeast { other | report.Divergent other } key

theorem mem_divergentKeys : key ∈ report.divergentKeys ↔ report.Divergent key := by
  unfold divergentKeys Divergent
  simp only [mem_insertionSort, mem_map, mem_filter, decide_eq_true_eq, and_assoc]

theorem divergentKeys_sorted (report : ReconciliationReport) :
    report.divergentKeys.Pairwise (· ≤ ·) :=
  pairwise_insertionSort _ _

theorem smallest_iff_head : report.Smallest key ↔ report.divergentKeys.head? = some key := by
  have sorted := report.divergentKeys_sorted
  have members : ∀ other, report.Divergent other ↔ other ∈ report.divergentKeys :=
    fun other => mem_divergentKeys.symm
  unfold Smallest IsLeast lowerBounds
  simp only [Set.mem_ofPred_eq, members]
  cases keys : report.divergentKeys with
  | nil => simp
  | cons head tail =>
    rw [keys] at sorted
    have least : ∀ other ∈ tail, head ≤ other := fun other => rel_of_pairwise_cons sorted
    rw [head?_cons, Option.some_inj]
    constructor
    · rintro ⟨mem, below⟩
      have under : key ≤ head := below mem_cons_self
      rcases mem_cons.mp mem with rfl | later
      · rfl
      · exact le_antisymm (least key later) under
    · rintro rfl
      refine ⟨mem_cons_self, fun other mem => ?_⟩
      rcases mem_cons.mp mem with rfl | later
      · exact le_refl _
      · exact least other later

instance (key : String) : DecidablePred (Smallest key) :=
  fun _ => decidable_of_iff _ smallest_iff_head.symm

theorem Smallest.divergent (smallest : report.Smallest key) : report.Divergent key :=
  smallest.1

theorem Smallest.unique {other : String} (smallest : report.Smallest key)
    (same : report.Smallest other) : key = other :=
  IsLeast.unique smallest same

end ReconciliationReport

namespace PersistentDriftKillSwitch

open ReconciliationReport Streaks

/-- What a switch knows of the reports it has seen: until it trips no key has been the smallest
divergent key for as many reports as the threshold, and the streak is the last run of its key. -/
structure Remembers (reports : List ReconciliationReport) (switch : PersistentDriftKillSwitch) :
    Prop where
  reached : switch.tripped = true → ∃ key, switch.trippedKey = some key ∧
    Persists switch.config.consecutiveThreshold (Smallest key) reports
  unreached : switch.tripped = false → ∀ key,
    ¬ Persists switch.config.consecutiveThreshold (Smallest key) reports
  streak : switch.tripped = false → ∀ key, trailing (Smallest key) reports =
    if switch.streakKey = some key then switch.streakCount else 0

variable {switch : PersistentDriftKillSwitch} {report : ReconciliationReport}

theorem observe_of_tripped (stopped : switch.tripped = true) :
    switch.observe report = (⟨true, switch.trippedKey⟩, switch) := by
  unfold observe
  rw [if_pos stopped]

theorem observe_of_divergentKeys_nil (running : switch.tripped = false)
    (clean : report.divergentKeys = []) :
    switch.observe report =
      (⟨false, none⟩, { switch with streakKey := none, streakCount := 0 }) := by
  unfold observe
  rw [running, clean]
  rfl

def nextCount (switch : PersistentDriftKillSwitch) (focusKey : String) : Nat :=
  if switch.streakKey = some focusKey then switch.streakCount + 1 else 1

theorem observe_of_divergentKeys_cons {focusKey : String} {others : List String}
    (running : switch.tripped = false) (divergent : report.divergentKeys = focusKey :: others) :
    switch.observe report =
      if switch.config.consecutiveThreshold ≤ switch.nextCount focusKey then
        (⟨true, some focusKey⟩, { switch with
            streakKey := some focusKey
            streakCount := switch.nextCount focusKey
            tripped := true
            trippedKey := some focusKey })
      else
        (⟨false, none⟩, { switch with
            streakKey := some focusKey
            streakCount := switch.nextCount focusKey }) := by
  unfold observe
  rw [running, divergent]
  rfl

@[simp]
theorem observe_config (switch : PersistentDriftKillSwitch) (report : ReconciliationReport) :
    (switch.observe report).2.config = switch.config := by
  by_cases stopped : switch.tripped = true
  · rw [observe_of_tripped stopped]
  · have running : switch.tripped = false := Bool.eq_false_iff.mpr stopped
    cases divergent : report.divergentKeys with
    | nil => rw [observe_of_divergentKeys_nil running divergent]
    | cons focusKey others =>
      rw [observe_of_divergentKeys_cons running divergent]
      split <;> rfl

variable {reports : List ReconciliationReport}

theorem Remembers.trailing_concat (remembers : Remembers reports switch)
    (running : switch.tripped = false) {focusKey : String} (smallest : report.Smallest focusKey)
    (key : String) :
    trailing (Smallest key) (reports ++ [report]) =
      if some focusKey = some key then switch.nextCount focusKey else 0 := by
  rw [Streaks.trailing_concat, remembers.streak running key]
  by_cases same : focusKey = key
  · subst same
    rw [if_pos smallest, if_pos rfl, nextCount]
    split <;> rfl
  · have other : ¬ report.Smallest key := fun also => same (smallest.unique also)
    rw [if_neg other, if_neg fun equal => same (Option.some_inj.mp equal)]

theorem Remembers.observe (remembers : Remembers reports switch) (report : ReconciliationReport) :
    Remembers (reports ++ [report]) (switch.observe report).2 := by
  have pos := switch.config.pos
  by_cases stopped : switch.tripped = true
  · rw [observe_of_tripped stopped]
    obtain ⟨key, known, persists⟩ := remembers.reached stopped
    refine ⟨fun _ => ⟨key, known, persists.of_prefix (prefix_append _ _)⟩, ?_, ?_⟩
    · intro running
      exact absurd stopped (Bool.eq_false_iff.mp running)
    · intro running
      exact absurd stopped (Bool.eq_false_iff.mp running)
  · have running : switch.tripped = false := Bool.eq_false_iff.mpr stopped
    have unreached := remembers.unreached running
    cases divergent : report.divergentKeys with
    | nil =>
      have none : ∀ key, ¬ report.Smallest key := by
        intro key smallest
        rw [smallest_iff_head, divergent] at smallest
        cases smallest
      have ended : ∀ key, trailing (Smallest key) (reports ++ [report]) = 0 := by
        intro key
        rw [Streaks.trailing_concat, if_neg (none key)]
      rw [observe_of_divergentKeys_nil running divergent]
      refine ⟨fun tripped => absurd tripped stopped, ?_, ?_⟩
      · intro _ key persists
        rw [persists_concat, ended key] at persists
        rcases persists with earlier | long
        · exact unreached key earlier
        · dsimp only at long
          omega
      · intro _ key
        exact ended key
    | cons focusKey others =>
      have smallest : report.Smallest focusKey := by
        rw [smallest_iff_head, divergent]
        rfl
      have last := remembers.trailing_concat running smallest
      rw [observe_of_divergentKeys_cons running divergent]
      split
      next long =>
        refine ⟨fun _ => ⟨focusKey, rfl, (persists_concat _).mpr (.inr ?_)⟩, ?_, ?_⟩
        · rw [last, if_pos rfl]
          exact long
        · rintro ⟨⟩
        · rintro ⟨⟩
      next short =>
        refine ⟨fun tripped => absurd tripped stopped, ?_, fun _ key => last key⟩
        intro _ key persists
        rw [persists_concat, last key] at persists
        rcases persists with earlier | long
        · exact unreached key earlier
        · dsimp only at long
          split at long
          · exact short long
          · omega

variable (config : PersistentDriftConfig)

theorem after_concat (reports : List ReconciliationReport) (report : ReconciliationReport) :
    after config (reports ++ [report]) = ((after config reports).observe report).2 := by
  rw [after, final_append]
  rfl

@[simp]
theorem after_config (reports : List ReconciliationReport) :
    (after config reports).config = config := by
  induction reports using reverseRecOn with
  | nil => rfl
  | append_singleton reports report ih => rw [after_concat, observe_config, ih]

theorem after_remembers (reports : List ReconciliationReport) :
    Remembers reports (after config reports) := by
  induction reports using reverseRecOn with
  | nil =>
    refine ⟨?_, fun _ key => not_persists_nil config.pos _, fun _ key => ?_⟩
    · rintro ⟨⟩
    · rw [trailing_nil]
      rfl
  | append_singleton reports report ih =>
    rw [after_concat]
    exact ih.observe report

theorem after_tripped_iff (reports : List ReconciliationReport) :
    (after config reports).tripped = true ↔
      ∃ key, Persists config.consecutiveThreshold (Smallest key) reports := by
  have remembers := after_remembers config reports
  constructor
  · intro tripped
    obtain ⟨key, -, persists⟩ := remembers.reached tripped
    exact ⟨key, after_config config reports ▸ persists⟩
  · rintro ⟨key, persists⟩
    by_contra running
    have unreached := remembers.unreached (Bool.eq_false_iff.mpr running) key
    rw [after_config] at unreached
    exact unreached persists

theorem after_append_of_tripped {config : PersistentDriftConfig}
    {before : List ReconciliationReport} (tripped : (after config before).tripped = true)
    (rest : List ReconciliationReport) : after config (before ++ rest) = after config before := by
  induction rest using reverseRecOn with
  | nil => rw [append_nil]
  | append_singleton rest report ih =>
    rw [← append_assoc, after_concat, ih, observe_of_tripped tripped]

/-- At every point of a sequence of reports the switch is tripped exactly when some key has been
divergent in as many consecutive reports as the threshold, and from then on it is tripped. -/
def TripsOnPersistence (config : PersistentDriftConfig) (reports : List ReconciliationReport) :
    Prop :=
  (∀ before, before <+: reports → ((after config before).tripped = true ↔
    ∃ key, Persists config.consecutiveThreshold (Divergent key) before)) ∧
  ∀ before rest, before ++ rest <+: reports → (after config before).tripped = true →
    (after config (before ++ rest)).tripped = true

/-- Whenever some key has been divergent in as many consecutive reports as the threshold, some key
has already been the smallest divergent one for as long. -/
def Unmasked (config : PersistentDriftConfig) (reports : List ReconciliationReport) : Prop :=
  ∀ before, before <+: reports →
    (∃ key, Persists config.consecutiveThreshold (Divergent key) before) →
      ∃ key, Persists config.consecutiveThreshold (Smallest key) before

/-- The switch trips on persistence exactly where no smaller key masks a persistent one. -/
theorem tripsOnPersistence_iff (config : PersistentDriftConfig)
    (reports : List ReconciliationReport) :
    TripsOnPersistence config reports ↔ Unmasked config reports := by
  constructor
  · rintro ⟨exactly, -⟩ before earlier persists
    have tripped := (exactly before earlier).mpr persists
    exact (after_tripped_iff config before).mp tripped
  · intro unmasked
    refine ⟨fun before earlier => ⟨fun tripped => ?_, fun persists => ?_⟩, ?_⟩
    · obtain ⟨key, persists⟩ := (after_tripped_iff config before).mp tripped
      exact ⟨key, persists.weaken fun _ smallest => smallest.divergent⟩
    · exact (after_tripped_iff config before).mpr (unmasked before earlier persists)
    · intro before rest _ tripped
      rw [after_append_of_tripped tripped]
      exact tripped

section Fixtures

def driftReport (keys : List String) : ReconciliationReport where
  accountId := ⟨"acct-1", Eq.refl false⟩
  items := keys.map fun key => ⟨.divergent, key, none, none⟩

def twoCycles : PersistentDriftConfig := ⟨2, by decide⟩

/-- An order stays divergent while an order with a smaller key comes and goes. -/
def transientKeys : List ReconciliationReport :=
  [driftReport ["order:a", "order:b"], driftReport ["order:b"],
    driftReport ["order:a", "order:b"], driftReport ["order:b"]]

theorem transient_key_masks : ¬ TripsOnPersistence twoCycles transientKeys := by
  rintro ⟨exactly, -⟩
  have running : ¬ (after twoCycles transientKeys).tripped = true := by decide +kernel
  refine running ((exactly transientKeys (prefix_refl _)).mpr ⟨"order:b", transientKeys.take 2,
    ( take_prefix 2 _).isInfix, rfl, ?_⟩)
  decide +kernel

end Fixtures

theorem observe_decision (consistent : switch.tripped = switch.trippedKey.isSome)
    (report : ReconciliationReport) :
    (switch.observe report).1 =
        ⟨(switch.observe report).2.tripped, (switch.observe report).2.trippedKey⟩ ∧
      (switch.observe report).2.tripped = (switch.observe report).2.trippedKey.isSome := by
  by_cases stopped : switch.tripped = true
  · rw [observe_of_tripped stopped]
    exact ⟨by rw [stopped], consistent⟩
  · have running : switch.tripped = false := Bool.eq_false_iff.mpr stopped
    have unknown : switch.trippedKey = none := by
      rw [running] at consistent
      exact Option.isSome_eq_false_iff.mp consistent.symm |> Option.isNone_iff_eq_none.mp
    cases divergent : report.divergentKeys with
    | nil =>
      rw [observe_of_divergentKeys_nil running divergent]
      exact ⟨by rw [running, unknown], consistent⟩
    | cons focusKey others =>
      rw [observe_of_divergentKeys_cons running divergent]
      split
      · exact ⟨rfl, rfl⟩
      · exact ⟨by rw [running, unknown], consistent⟩

end PersistentDriftKillSwitch

namespace PersistentDriftCoordinator

variable {repr : String → String}

structure Told (repr : String → String) (coordinator : PersistentDriftCoordinator) : Prop where
  consistent : coordinator.killSwitch.tripped = coordinator.killSwitch.trippedKey.isSome
  already : coordinator.alreadyTripped = coordinator.killSwitch.tripped
  activations : coordinator.activations = coordinator.killSwitch.trippedKey.toList.map
    (activation repr coordinator.killSwitch.config)

variable {coordinator : PersistentDriftCoordinator} {report : ReconciliationReport}

theorem observe_of_quiet
    (quiet : (coordinator.killSwitch.observe report).1.tripped = false ∨
      coordinator.alreadyTripped = true) :
    coordinator.observe repr report =
      (.ok (), { coordinator with killSwitch := (coordinator.killSwitch.observe report).2 }) := by
  unfold observe
  dsimp only
  rw [if_pos]
  rcases quiet with running | already
  · rw [running]
    rfl
  · rw [already, Bool.or_true]

theorem observe_of_trip {key : String} (first : coordinator.alreadyTripped = false)
    (trips : (coordinator.killSwitch.observe report).1 = ⟨true, some key⟩) :
    coordinator.observe repr report =
      (.ok (), {
        killSwitch := (coordinator.killSwitch.observe report).2
        alreadyTripped := true
        activations := coordinator.activations ++
          [activation repr (coordinator.killSwitch.observe report).2.config key] }) := by
  unfold observe
  dsimp only
  rw [trips, first]
  rfl

/-- A cycle raises no failed assertion and tells the safety controller only of a first trip. -/
theorem observe_told (told : Told repr coordinator) (report : ReconciliationReport) :
    (coordinator.observe repr report).1 = .ok () ∧
      (coordinator.observe repr report).2.killSwitch = (coordinator.killSwitch.observe report).2 ∧
      Told repr (coordinator.observe repr report).2 := by
  obtain ⟨decided, consistent⟩ :=
    PersistentDriftKillSwitch.observe_decision told.consistent report
  by_cases stopped : coordinator.killSwitch.tripped = true
  · have unchanged : (coordinator.killSwitch.observe report).2 = coordinator.killSwitch := by
      rw [PersistentDriftKillSwitch.observe_of_tripped stopped]
    rw [observe_of_quiet (.inr (told.already.trans stopped)), unchanged]
    exact ⟨rfl, rfl, told⟩
  · have running : coordinator.killSwitch.tripped = false := Bool.eq_false_iff.mpr stopped
    have first : coordinator.alreadyTripped = false := told.already.trans running
    have silent : coordinator.activations = [] := by
      have unknown : coordinator.killSwitch.trippedKey.isSome = false :=
        told.consistent.symm.trans running
      rw [told.activations, Option.not_isSome_iff_eq_none.mp (Bool.eq_false_iff.mp unknown)]
      rfl
    cases known : (coordinator.killSwitch.observe report).2.trippedKey with
    | none =>
      rw [known] at consistent decided
      rw [observe_of_quiet (.inl (by rw [decided, consistent]; rfl))]
      refine ⟨rfl, rfl, by rw [consistent, known], first.trans consistent.symm, ?_⟩
      rw [silent, known]
      rfl
    | some key =>
      rw [known] at consistent decided
      rw [consistent] at decided
      rw [observe_of_trip first decided]
      refine ⟨rfl, rfl, by rw [consistent, known], consistent.symm, ?_⟩
      rw [silent, known]
      rfl

def after (repr : String → String) (config : PersistentDriftConfig)
    (reports : List ReconciliationReport) : PersistentDriftCoordinator :=
  final (observe repr) { killSwitch := { config } } reports

/-- Over any sequence of reports the safety controller is told exactly once of a tripped switch,
under the key that tripped it, and not at all before. -/
theorem after_told (config : PersistentDriftConfig) (reports : List ReconciliationReport) :
    (after repr config reports).killSwitch = PersistentDriftKillSwitch.after config reports ∧
      Told repr (after repr config reports) := by
  induction reports using reverseRecOn with
  | nil => exact ⟨rfl, rfl, rfl, rfl⟩
  | append_singleton reports report ih =>
    obtain ⟨same, told⟩ := ih
    obtain ⟨-, next, later⟩ := observe_told told report
    have run : after repr config (reports ++ [report]) =
        ((after repr config reports).observe repr report).2 := by
      rw [after, final_append]
      rfl
    rw [run, PersistentDriftKillSwitch.after_concat, ← same]
    exact ⟨next, later⟩

end PersistentDriftCoordinator

end Qts
