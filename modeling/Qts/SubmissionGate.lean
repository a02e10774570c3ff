import Qts.OrderIdentity
import Qts.RuntimeLifecycle

/-! # The gate of order submission -/

namespace Qts

open RaisingCalls StepRuns

variable {World : Type}

structure IntentCursor (World : Type) where
  processor : TargetIntentProcessor
  actors : PartitionActors World
  accountId : Option AccountId
  request : IntentRequest
  riskState : RiskStateSnapshot
  plans : List OrderPlan
  orderNumber : Nat

/-- What is left to process of a bar. -/
structure BarWork (World : Type) where
  current : Option (IntentCursor World) := none
  intents : List (Option AccountId × IntentRequest)

structure GatedSession (World : Type) where
  lifecycle : RuntimeLifecycle
  killSwitchActive : Bool := false
  orderSubmissionEnabled : Bool := true
  orders : RuntimeSession World
  work : Option (BarWork World) := none

/-- What a step of the session answers: why it was blocked, the submissions it made, or what it
raised. -/
structure GateAnswer where
  reasonCode : Option String := none
  submitted : List SubmitOrder := []
  failure : Option Failure := none

/-- What happens to a session: a bar with the intents that its strategies and the aggregation make
of it, the next part of the bar in progress, a lifecycle input, or an operator's command.  What a
command does among the actors is left open. -/
inductive GateInput (World : Type)
  | bar (intents : List (Option AccountId × IntentRequest))
  | advance
  | lifecycle (input : LifecycleInput)
  | activateKillSwitch (change : World → World)
  | rollback (change : World → World)
  | deactivateKillSwitch (authorized : Bool)

namespace GatedSession

def blockedReason (session : GatedSession World) : Option String :=
  if session.killSwitchActive then some "KILL_SWITCH_ACTIVE"
  else if session.lifecycle.state = .paused then some "RUNTIME_PAUSED"
  else if session.lifecycle.state ≠ .running ∧ session.lifecycle.state ≠ .degraded then
    some "RUNTIME_NOT_RUNNING"
  else
    match session.lifecycle.startupBlockedReason with
    | some reason => some reason
    | none => if session.lifecycle.state = .degraded then some "RUNTIME_DEGRADED" else none

def onWorld (session : GatedSession World) (change : World → World) : GatedSession World :=
  { session with orders := { session.orders with world := change session.orders.world } }

def processed (session : GatedSession World) (accountId : Option AccountId)
    (after : IntentProcessing World) (work : Option (BarWork World)) : GatedSession World :=
  { session with orders := session.orders.processed accountId after, work }

/-- Trigger the strategies of a bar, unless orders are blocked; a bar that comes while another is
processed has to wait. -/
def triggerBar (session : GatedSession World) (intents : List (Option AccountId × IntentRequest)) :
    GateAnswer × GatedSession World :=
  match session.work, session.blockedReason with
  | some _, _ => ({}, session)
  | none, some reason => ({ reasonCode := some reason }, session)
  | none, none =>
    if session.orderSubmissionEnabled || intents.isEmpty then
      ({}, { session with work := some { intents } })
    else ({ reasonCode := some "ORDER_SUBMISSION_DISABLED" }, session)

/-- Resume order submission only after explicit safety authorization. -/
def deactivateKillSwitch (session : GatedSession World) (authorized : Bool) :
    GateAnswer × GatedSession World :=
  if authorized then ({}, { session with killSwitchActive := false })
  else ({ failure := some (.other "kill switch deactivate requires safety authorization") },
      session)

variable (deps : RuntimeSessionDependencies World)

/-- Prepare the plans of the next intent under the next number; what fails ends the bar. -/
def beginIntent (session : GatedSession World) (accountId : Option AccountId)
    (request : IntentRequest) (rest : List (Option AccountId × IntentRequest)) :
    GateAnswer × GatedSession World :=
  let advanced := { session with
    orders := { session.orders with orderSequence := session.orders.orderSequence + 1 } }
  match deps.partition accountId with
  | none =>
    ({ failure := some (.valueError ("missing intent processor for account: " ++
        (request.accountId.map fun account => account.value).getD "None")) },
      { advanced with work := none })
  | some partition =>
    let proc :=
      RuntimeSession.intentProcessor deps session.orders.instrumentContext partition
    match (proc.preparePlans partition.actors request).run
        (advanced.orders.processing accountId) with
    | .error failure after => ({ failure := some failure }, advanced.processed accountId after none)
    | .ok (riskState, plans) after =>
      let cursor : IntentCursor World := {
        processor := proc
        actors := partition.actors
        accountId, request, riskState, plans
        orderNumber := advanced.orders.orderSequence }
      ({}, advanced.processed accountId after (some ⟨some cursor, rest⟩))

def processPlan (session : GatedSession World) (cursor : IntentCursor World) (plan : OrderPlan)
    (plans : List OrderPlan) (rest : List (Option AccountId × IntentRequest)) :
    GateAnswer × GatedSession World :=
  let delta := cursor.processor.processOrderDelta cursor.actors cursor.request cursor.riskState plan
    cursor.orderNumber
  let told (after : IntentProcessing World) : List SubmitOrder :=
    after.submitted.drop session.orders.submitted.length
  match delta.run (session.orders.processing cursor.accountId) with
  | .error failure after =>
    ({ submitted := told after, failure := some failure },
      session.processed cursor.accountId after none)
  | .ok _ after =>
    let next := { cursor with plans, orderNumber := cursor.orderNumber + 1 }
    ({ submitted := told after },
      session.processed cursor.accountId after (some ⟨some next, rest⟩))

/-- Go on with the bar in progress. -/
def advanceWork (session : GatedSession World) : GateAnswer × GatedSession World :=
  match session.work with
  | none => ({}, session)
  | some ⟨none, []⟩ => ({}, { session with work := none })
  | some ⟨none, (accountId, request) :: rest⟩ =>
    session.beginIntent deps accountId request rest
  | some ⟨some cursor, rest⟩ =>
    match cursor.plans with
    | [] => ({}, { session with work := some ⟨none, rest⟩ })
    | plan :: plans => session.processPlan cursor plan plans rest

def step : Step (GatedSession World) (GateInput World) GateAnswer
  | session, .bar intents => session.triggerBar intents
  | session, .advance => session.advanceWork deps
  | session, .lifecycle input =>
    let (failure, lifecycle) := session.lifecycle.step input
    ({ failure }, { session with lifecycle })
  | session, .activateKillSwitch change =>
    ({}, { session with killSwitchActive := true }.onWorld change)
  | session, .rollback change =>
    ({}, { session with killSwitchActive := true }.onWorld change)
  | session, .deactivateKillSwitch authorized => session.deactivateKillSwitch authorized

variable {deps} {session : GatedSession World}

theorem blockedReason_eq_none_iff :
    session.blockedReason = none ↔ session.killSwitchActive = false ∧
      session.lifecycle.state = .running ∧ session.lifecycle.startupBlockedReason = none := by
  unfold blockedReason
  cases session.killSwitchActive <;> cases session.lifecycle.state <;>
    cases session.lifecycle.startupBlockedReason <;> simp

/-- A session that is unblocked while it processes a bar. -/
def Clear (session : GatedSession World) : Prop :=
  session.work ≠ none → session.blockedReason = none

/-- Whether an input blocks orders while a bar is processed. -/
def disturbs (session : GatedSession World) (input : GateInput World) : Bool :=
  session.work.isSome &&
    match input with
    | .activateKillSwitch _ | .rollback _ => true
    | .lifecycle input => session.lifecycle.halts input
    | _ => false

theorem Clear.withWork (clear : session.Clear) (working : session.work ≠ none)
    {next : GatedSession World} (lifecycle : next.lifecycle = session.lifecycle)
    (killSwitch : next.killSwitchActive = session.killSwitchActive) : next.Clear := by
  intro _
  have unblocked := clear working
  rw [blockedReason_eq_none_iff] at unblocked ⊢
  rw [lifecycle, killSwitch]
  exact unblocked

theorem advanceWork_gate (deps : RuntimeSessionDependencies World)
    (session : GatedSession World) :
    (session.advanceWork deps).2.lifecycle = session.lifecycle ∧
      (session.advanceWork deps).2.killSwitchActive = session.killSwitchActive := by
  unfold advanceWork
  split
  · exact ⟨rfl, rfl⟩
  · exact ⟨rfl, rfl⟩
  · unfold beginIntent
    dsimp only
    split
    · exact ⟨rfl, rfl⟩
    · split <;> exact ⟨rfl, rfl⟩
  · split
    · exact ⟨rfl, rfl⟩
    · unfold processPlan
      dsimp only
      split <;> exact ⟨rfl, rfl⟩

theorem advanceWork_idle (idle : session.work = none) :
    session.advanceWork deps = ({}, session) := by
  unfold advanceWork
  rw [idle]

theorem triggerBar_clear (intents : List (Option AccountId × IntentRequest))
    (clear : session.Clear) : (session.triggerBar intents).2.Clear := by
  unfold triggerBar
  split
  · exact clear
  · exact clear
  · next unblocked =>
    split
    · intro _
      exact unblocked
    · exact clear

theorem deactivateKillSwitch_clear (authorized : Bool) (clear : session.Clear) :
    (session.deactivateKillSwitch authorized).2.Clear := by
  unfold deactivateKillSwitch
  split
  · intro working
    have unblocked := clear working
    rw [blockedReason_eq_none_iff] at unblocked ⊢
    exact ⟨rfl, unblocked.2⟩
  · exact clear

theorem step_clear (session : GatedSession World) (input : GateInput World) (clear : session.Clear)
    (undisturbed : session.disturbs input = false) : (step deps session input).2.Clear := by
  unfold disturbs at undisturbed
  cases input with
  | bar intents => exact triggerBar_clear intents clear
  | advance =>
    obtain ⟨lifecycle, killSwitch⟩ := advanceWork_gate deps session
    by_cases idle : session.work = none
    · change (session.advanceWork deps).2.Clear
      rw [advanceWork_idle idle]
      exact clear
    · exact clear.withWork idle lifecycle killSwitch
  | lifecycle input =>
    intro working
    have unblocked := clear working
    have running : session.work.isSome = true := Option.isSome_iff_ne_none.mpr working
    rw [running, Bool.true_and] at undisturbed
    rw [blockedReason_eq_none_iff] at unblocked ⊢
    obtain ⟨killSwitch, state, startup⟩ := unblocked
    obtain ⟨mode, decision, -⟩ := RuntimeLifecycle.step_configured session.lifecycle input
    refine ⟨killSwitch, (RuntimeLifecycle.step_running_iff state input).mpr undisturbed, ?_⟩
    rw [← startup, RuntimeLifecycle.startupBlockedReason, RuntimeLifecycle.startupBlockedReason]
    exact congrArg₂ (fun mode decision => (BrokerRuntimeStartupGate.mk mode decision).blockedReason)
      mode decision
  | activateKillSwitch change | rollback change =>
    intro working
    have running : session.work.isSome = true := Option.isSome_iff_ne_none.mpr working
    rw [running] at undisturbed
    cases undisturbed
  | deactivateKillSwitch authorized => exact deactivateKillSwitch_clear authorized clear

theorem work_of_submitted {input : GateInput World}
    (submits : (step deps session input).1.submitted ≠ []) : session.work ≠ none := by
  intro idle
  refine submits ?_
  cases input with
  | bar intents =>
    change (session.triggerBar intents).1.submitted = []
    unfold triggerBar
    rw [idle]
    split
    · rfl
    · rfl
    · split <;> rfl
  | advance =>
    change (session.advanceWork deps).1.submitted = []
    rw [advanceWork_idle idle]
  | deactivateKillSwitch authorized =>
    change (session.deactivateKillSwitch authorized).1.submitted = []
    unfold deactivateKillSwitch
    split <;> rfl
  | lifecycle input => rfl
  | activateKillSwitch change => rfl
  | rollback change => rfl

/-- In every run of a session in which nothing blocks orders while a bar is processed, each
submission is made while orders are not blocked. -/
theorem submitted_unblocked (deps : RuntimeSessionDependencies World)
    (session : GatedSession World) (idle : session.work = none) (inputs : List (GateInput World))
    (undisturbed : EveryStep (step deps)
      (fun before input => before.disturbs input = false) session inputs) :
    EveryStep (step deps)
      (fun before input => (step deps before input).1.submitted ≠ [] →
        before.blockedReason = none) session inputs := by
  have start : session.Clear := fun working => absurd idle working
  refine EveryStep.of_invariant step_clear ?_ start undisturbed
  intro before input clear submits
  exact clear (work_of_submitted submits)

open OrderIdentity in
def paperSession : GatedSession AccountPartition where
  lifecycle := { mode := .paperSimulated }
  orders := startingSession

open OrderIdentity in
/-- A bar with two intents, of which the first is processed. -/
def halfBar : List (GateInput AccountPartition) :=
  [.lifecycle .start, .bar [(some accountOne, request marchBar (holding marchContract 1 .default)),
     (some accountOne, request marchBar (holding marchContract 2 .default))],
   .advance, .advance, .advance]

open OrderIdentity in
theorem submitted_unblocked_halfBar :
    EveryStep (step sessionDependencies)
      (fun before input => (step sessionDependencies before input).1.submitted ≠ [] →
        before.blockedReason = none) paperSession halfBar :=
  submitted_unblocked sessionDependencies paperSession rfl halfBar (by decide +kernel)

open OrderIdentity in
/-- The kill switch is activated in the middle of a bar, and the second order of the bar follows. -/
theorem killSwitch_overrun :
    let before := final (step sessionDependencies) paperSession
      (halfBar ++ [.activateKillSwitch id, .advance])
    before.blockedReason = some "KILL_SWITCH_ACTIVE" ∧
      (step sessionDependencies before .advance).1.submitted ≠ [] := by
  refine ⟨by decide +kernel, fun none => ?_⟩
  have one : (step sessionDependencies (final (step sessionDependencies) paperSession
      (halfBar ++ [.activateKillSwitch id, .advance])) .advance).1.submitted.length = 1 := by
    decide +kernel
  rw [none] at one
  cases one

end GatedSession

end Qts
