import Mathlib.Data.Set.Basic

/-!
# Runs of a deterministic service

A service answers each command and moves to a next state, also when the answer is a failure.
A run feeds it a list of commands.
-/

namespace Qts

universe u v w

namespace StepRuns

variable {State : Type u} {Command : Type v} {Response : Type w}

abbrev Step (State : Type u) (Command : Type v) (Response : Type w) :=
  State → Command → Response × State

variable (step : Step State Command Response)

def final (state : State) : List Command → State
  | [] => state
  | command :: commands => final (step state command).2 commands

def responses (state : State) : List Command → List Response
  | [] => []
  | command :: commands =>
      (step state command).1 :: responses (step state command).2 commands

/-- A condition on states and commands that holds at every step of a run. -/
def EveryStep (condition : State → Command → Prop) (state : State) : List Command → Prop
  | [] => True
  | command :: commands =>
      condition state command ∧ EveryStep condition (step state command).2 commands

instance EveryStep.decidable (condition : State → Command → Prop)
    [holds : ∀ state command, Decidable (condition state command)] :
    ∀ (state : State) (commands : List Command),
      Decidable (EveryStep step condition state commands)
  | _, [] => isTrue trivial
  | state, command :: commands =>
      have := EveryStep.decidable condition (step state command).2 commands
      inferInstanceAs (Decidable (condition state command ∧ EveryStep _ _ _ commands))

/-- The states that some run from `initial` reaches. -/
def Reachable (initial state : State) : Prop :=
  ∃ commands : List Command, final step initial commands = state

variable (state : State)

@[simp]
theorem final_nil : final step state [] = state :=
  rfl

@[simp]
theorem final_cons (command : Command) (commands : List Command) :
    final step state (command :: commands) = final step (step state command).2 commands :=
  rfl

@[simp]
theorem responses_nil : responses step state [] = [] :=
  rfl

@[simp]
theorem responses_cons (command : Command) (commands : List Command) :
    responses step state (command :: commands) =
      (step state command).1 :: responses step (step state command).2 commands :=
  rfl

variable (condition : State → Command → Prop)

@[simp]
theorem everyStep_nil (state : State) : EveryStep step condition state [] :=
  trivial

@[simp]
theorem everyStep_cons (state : State) (command : Command) (commands : List Command) :
    EveryStep step condition state (command :: commands) ↔
      condition state command ∧ EveryStep step condition (step state command).2 commands :=
  Iff.rfl

theorem final_append (first second : List Command) :
    final step state (first ++ second) = final step (final step state first) second := by
  induction first generalizing state with
  | nil => rfl
  | cons command commands ih => exact ih (step state command).2

theorem responses_append (first second : List Command) :
    responses step state (first ++ second) =
      responses step state first ++ responses step (final step state first) second := by
  induction first generalizing state with
  | nil => rfl
  | cons command commands ih =>
    simp only [List.cons_append, responses_cons, final_cons, ih]

theorem everyStep_append (state : State) (first second : List Command) :
    EveryStep step condition state (first ++ second) ↔
      EveryStep step condition state first ∧
        EveryStep step condition (final step state first) second := by
  induction first generalizing state with
  | nil => simp
  | cons command commands ih =>
    simp only [List.cons_append, everyStep_cons, final_cons, ih, and_assoc]

variable {step}

theorem Reachable.initial (state : State) : Reachable step state state :=
  ⟨[], rfl⟩

variable {state} {commands : List Command}

variable {condition : State → Command → Prop}

theorem final_invariant_of_everyStep {inv : State → Prop}
    (preserved : ∀ state command, inv state → condition state command →
      inv (step state command).2) (holds : inv state)
    (steps : EveryStep step condition state commands) : inv (final step state commands) := by
  induction commands generalizing state with
  | nil => exact holds
  | cons command commands ih =>
    exact ih (preserved state command holds steps.1) steps.2

theorem final_invariant {inv : State → Prop}
    (preserved : ∀ state command, inv state → inv (step state command).2)
    (holds : inv state) (commands : List Command) :
    inv (final step state commands) := by
  induction commands generalizing state with
  | nil => exact holds
  | cons command commands ih => exact ih (preserved state command holds)

theorem Reachable.inv {initial state : State} (reached : Reachable step initial state)
    {inv : State → Prop} (holds : inv initial)
    (preserved : ∀ state command, inv state → inv (step state command).2) :
    inv state := by
  obtain ⟨commands, rfl⟩ := reached
  exact final_invariant preserved holds commands

/-- Where a condition keeps an invariant that implies a property, and breaking the condition breaks
the property at once, a run of allowed steps has the property all along exactly when its steps all
meet the condition. -/
theorem everyPrefix_iff_everyStep_of {allowed condition : State → Command → Prop}
    {property inv : State → Prop} (implied : ∀ state, inv state → property state)
    (preserved : ∀ state command, inv state → allowed state command →
      condition state command → inv (step state command).2)
    (broken : ∀ state command, inv state → allowed state command →
      ¬ condition state command → ¬ property (step state command).2) (holds : inv state)
    (steps : EveryStep step allowed state commands) :
    (∀ before, before <+: commands → property (final step state before)) ↔
      EveryStep step condition state commands := by
  constructor
  · intro everywhere
    induction commands generalizing state with
    | nil => trivial
    | cons command commands ih =>
      have met : condition state command := by
        by_contra unmet
        exact broken state command holds steps.1 unmet
          (everywhere [command] (List.prefix_append [command] commands))
      refine ⟨met, ih (preserved state command holds steps.1 met) steps.2 ?_⟩
      intro before earlier
      exact everywhere (command :: before) ((List.prefix_cons_inj command).mpr earlier)
  · rintro met before ⟨rest, rfl⟩
    have early := ((everyStep_append step condition state before rest).mp met).1
    have permitted := ((everyStep_append step allowed state before rest).mp steps).1
    clear met steps
    induction before generalizing state with
    | nil => exact implied state holds
    | cons command before ih =>
      exact ih (preserved state command holds permitted.1 early.1) early.2 permitted.2

theorem everyStep_of_forall
    (always : ∀ state command, condition state command) (state : State) (commands : List Command) :
    EveryStep step condition state commands := by
  induction commands generalizing state with
  | nil => trivial
  | cons command commands ih => exact ⟨always state command, ih _⟩

theorem everyPrefix_iff_everyStep
    {property inv : State → Prop} (implied : ∀ state, inv state → property state)
    (preserved : ∀ state command, inv state → condition state command →
      inv (step state command).2)
    (broken : ∀ state command, inv state → ¬ condition state command →
      ¬ property (step state command).2) (holds : inv state) (commands : List Command) :
    (∀ before, before <+: commands → property (final step state before)) ↔
      EveryStep step condition state commands := by
  have allowed : EveryStep step (fun _ _ => True) state commands :=
    everyStep_of_forall (fun _ _ => trivial) state commands
  exact everyPrefix_iff_everyStep_of implied
    (fun state command held _ => preserved state command held)
    (fun state command held _ => broken state command held) holds allowed

theorem everyStep_congr {first second : State → Command → Prop} {inv : State → Prop}
    (preserved : ∀ state command, inv state → inv (step state command).2)
    (agree : ∀ state command, inv state → (first state command ↔ second state command))
    (holds : inv state) (commands : List Command) :
    EveryStep step first state commands ↔ EveryStep step second state commands := by
  induction commands generalizing state with
  | nil => exact Iff.rfl
  | cons command commands ih =>
    exact and_congr (agree state command holds) (ih (preserved state command holds))

theorem everyStep_and {first second : State → Command → Prop} :
    EveryStep step (fun state command => first state command ∧ second state command) state
        commands ↔
      EveryStep step first state commands ∧ EveryStep step second state commands := by
  induction commands generalizing state with
  | nil => simp
  | cons command commands ih =>
    simp only [everyStep_cons, ih]
    exact and_and_and_comm

theorem everyStep_congr_of {allowed first second : State → Command → Prop}
    (agree : ∀ state command, allowed state command → (first state command ↔ second state command))
    (steps : EveryStep step allowed state commands) :
    EveryStep step first state commands ↔ EveryStep step second state commands := by
  induction commands generalizing state with
  | nil => exact Iff.rfl
  | cons command commands ih => exact and_congr (agree state command steps.1) (ih steps.2)

theorem EveryStep.of_invariant {condition property : State → Command → Prop}
    {inv : State → Prop}
    (preserved : ∀ state command, inv state → condition state command →
      inv (step state command).2)
    (implied : ∀ state command, inv state → property state command) (holds : inv state)
    (steps : EveryStep step condition state commands) : EveryStep step property state commands := by
  induction commands generalizing state with
  | nil => trivial
  | cons command commands ih =>
    exact ⟨implied state command holds, ih (preserved state command holds steps.1) steps.2⟩

def outstanding (step : Step State Command Response) (raises discharges : State → Command → Bool)
    (held : Bool) (state : State) : List Command → Bool
  | [] => held
  | command :: commands =>
      outstanding step raises discharges
        ((held || raises state command) && !discharges state command) (step state command).2
        commands

theorem outstanding_invariant
    {raises discharges : State → Command → Bool} {inv : State → Bool → Prop}
    (preserved : ∀ state held command, inv state held → condition state command →
      inv (step state command).2
        ((held || raises state command) && !discharges state command))
    {state : State} {held : Bool} (holds : inv state held) {commands : List Command}
    (steps : EveryStep step condition state commands) :
    inv (final step state commands) (outstanding step raises discharges held state commands) := by
  induction commands generalizing state held with
  | nil => exact holds
  | cons command commands ih => exact ih (preserved state held command holds steps.1) steps.2

/-- A relation under which two states answer alike and stay related. -/
def Bisimulation (step : Step State Command Response) (related : State → State → Prop) : Prop :=
  ∀ first second command, related first second →
    (step first command).1 = (step second command).1 ∧
      related (step first command).2 (step second command).2

/-- Bisimilar states answer every run alike and end bisimilar. -/
theorem Bisimulation.run {related : State → State → Prop} (bisimulation : Bisimulation step related)
    {first second : State} (start : related first second) (commands : List Command) :
    responses step first commands = responses step second commands ∧
      related (final step first commands) (final step second commands) := by
  induction commands generalizing first second with
  | nil => exact ⟨rfl, start⟩
  | cons command commands ih =>
    obtain ⟨answers, next⟩ := bisimulation first second command start
    obtain ⟨later, finish⟩ := ih next
    exact ⟨by rw [responses_cons, responses_cons, answers, later], finish⟩

end StepRuns

end Qts
