import Qts.RuntimeLifecycle

/-! # Restart budgets -/

namespace Qts

open StepRuns ActorSupervisor

/-- A failure event and the clock's reading when it is handled. -/
abbrev ObservedFailure := ActorFailureEvent × DateTime

/-- The instant a failure is recorded at: its own timestamp, or else the clock's reading. -/
def ObservedFailure.instant (failure : ObservedFailure) : DateTime :=
  failure.1.timestamp.getD failure.2

variable (policy : RestartPolicy) (supervisor : ActorSupervisor)
  (failures earlier : List ObservedFailure) (failure : ObservedFailure) (actorName : String)

namespace ActorSupervisor

def handle : Step ActorSupervisor ObservedFailure SupervisorDecision :=
  fun supervisor failure => supervisor.handleFailure failure.1 failure.2

theorem final_restartPolicy :
    (final handle supervisor failures).restartPolicy = supervisor.restartPolicy := by
  induction failures generalizing supervisor with
  | nil => rfl
  | cons failure failures ih => exact ih _

theorem final_failureTimes :
    ((final handle supervisor failures).failureTimes.get? actorName).getD [] =
      (supervisor.failureTimes.get? actorName).getD [] ++
        (failures.filter (·.1.actorName = actorName)).map (·.instant) := by
  induction failures generalizing supervisor with
  | nil => simp
  | cons failure failures ih =>
    rw [final_cons, ih]
    by_cases same : failure.1.actorName = actorName
    · subst same
      simp [handle, handleFailure, ObservedFailure.instant]
    · simp [handle, handleFailure, same, Dict.get?_set_of_ne _ _ (Ne.symm same)]

end ActorSupervisor

namespace RestartPolicy

def decisions : List SupervisorDecision :=
  responses handle { restartPolicy := policy } failures

def precedingFailures : Nat :=
  earlier.countP fun prior => decide (prior.1.actorName = failure.1.actorName ∧
    failure.instant - policy.window < prior.instant)

def restartsOf (span : DateTime → Prop) [DecidablePred span] : Nat :=
  (failures.zip (policy.decisions failures)).countP fun decided =>
    decide (decided.2 = .restart ∧ decided.1.1.actorName = actorName ∧ span decided.1.instant)

theorem decisions_length : (policy.decisions failures).length = failures.length := by
  unfold decisions
  generalize ({ restartPolicy := policy } : ActorSupervisor) = supervisor
  induction failures generalizing supervisor with
  | nil => rfl
  | cons failure failures ih => simp [ih]

def decision : SupervisorDecision :=
  (handle
    (final handle { restartPolicy := policy } earlier) failure).1

theorem decisions_append (later : List ObservedFailure) :
    ∃ rest, policy.decisions (earlier ++ failure :: later) =
      policy.decisions earlier ++ policy.decision earlier failure :: rest :=
  ⟨_, responses_append _ _ earlier (failure :: later)⟩

theorem decision_restart_iff :
    policy.decision earlier failure = .restart ↔ failure.1.recoverable = true ∧
      policy.precedingFailures earlier failure < policy.maxRestarts := by
  have counted : policy.restartsWithinWindow
      ((earlier.filter (·.1.actorName = failure.1.actorName)).map (·.instant)) failure.instant =
      policy.precedingFailures earlier failure := by
    simp [restartsWithinWindow, precedingFailures, List.countP_map, List.countP_filter,
      Function.comp_def, Bool.and_comm]
  have times := final_failureTimes { restartPolicy := policy } earlier
    failure.1.actorName
  have kept := final_restartPolicy { restartPolicy := policy } earlier
  simp only [Dict.get?_empty, Option.getD_none, List.nil_append] at times
  rw [← counted]
  simp only [decision, handle, handleFailure, times, kept]
  change (if policy.shouldRestart _ failure.instant _ = true then _ else _) = _ ↔ _
  simp [shouldRestart]

/-- A span in which any two instants lie within the window of each other has at most the
budget's restarts: at the last of them all the others are preceding failures. -/
theorem restartsOf_le {span : DateTime → Prop} [DecidablePred span]
    (narrow : ∀ before after, span before → span after → after - policy.window < before) :
    policy.restartsOf failures actorName span ≤ policy.maxRestarts := by
  induction failures using List.reverseRecOn with
  | nil => simp [restartsOf]
  | append_singleton earlier failure ih =>
    obtain ⟨rest, decided⟩ := policy.decisions_append earlier failure []
    have alone : rest = [] := by
      have lengths := congrArg List.length decided
      simp [decisions_length] at lengths
      exact lengths
    have split : policy.restartsOf (earlier ++ [failure]) actorName span =
        policy.restartsOf earlier actorName span +
          if policy.decision earlier failure = .restart ∧ failure.1.actorName = actorName ∧
            span failure.instant then 1 else 0 := by
      unfold restartsOf
      rw [decided, alone, List.zip_append (policy.decisions_length earlier).symm]
      simp [List.countP_append, List.countP_cons]
    rw [split]
    split
    · next restarts =>
      obtain ⟨restarted, rfl, inside⟩ := restarts
      have room := ((policy.decision_restart_iff earlier failure).mp restarted).2
      have preceding : policy.restartsOf earlier failure.1.actorName span ≤
          policy.precedingFailures earlier failure := by
        have all := List.map_fst_zip (policy.decisions_length earlier).ge
        unfold precedingFailures
        nth_rewrite 2 [← all]
        rw [List.countP_map]
        apply List.countP_mono_left
        intro decided _ counted
        obtain ⟨_, same, within⟩ := of_decide_eq_true counted
        exact decide_eq_true ⟨same, narrow _ _ within inside⟩
      omega
    · exact ih

/-- A failure restarts its actor exactly within the budget, and no window holds more restarts. -/
theorem restart_budget :
    (∀ later, (policy.decisions (earlier ++ failure :: later))[earlier.length]? = some .restart ↔
      failure.1.recoverable = true ∧
        policy.precedingFailures earlier failure < policy.maxRestarts) ∧
    ∀ start : DateTime,
      policy.restartsOf failures actorName
        (fun instant => start ≤ instant ∧ instant < start + policy.window) ≤ policy.maxRestarts ∧
      policy.restartsOf failures actorName
        (fun instant => start < instant ∧ instant ≤ start + policy.window) ≤
          policy.maxRestarts := by
  constructor
  · intro later
    obtain ⟨rest, decided⟩ := policy.decisions_append earlier failure later
    rw [← policy.decision_restart_iff, decided]
    simp [← policy.decisions_length earlier]
  · intro start
    constructor
    · apply restartsOf_le
      rintro before after ⟨begun, _⟩ ⟨_, ended⟩
      exact Int.lt_of_lt_of_le (Int.sub_right_lt_of_lt_add ended) begun
    · apply restartsOf_le
      rintro before after ⟨begun, _⟩ ⟨_, ended⟩
      exact Int.lt_of_le_of_lt (Int.sub_right_le_of_le_add ended) begun

end RestartPolicy

end Qts
