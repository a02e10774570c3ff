import Qts.BrokerOrderMap
import Qts.StepRuns

/-! # Runtime session lifecycle -/

namespace Qts

open RaisingCalls PythonText StepRuns
open EStateM (run_bind run_get run_set)

inductive RuntimeSessionState
  | stopped
  | starting
  | running
  | paused
  | observation
  | degraded
deriving DecidableEq

def RuntimeSessionState.value : RuntimeSessionState → String
  | stopped => "stopped"
  | starting => "starting"
  | running => "running"
  | paused => "paused"
  | observation => "observation"
  | degraded => "degraded"

inductive SessionCommand
  | start
  | started
  | stop
  | pause
  | resume
  | enterObservation
  | exitObservation
  | degrade
  | recover

def SessionCommand.value : SessionCommand → String
  | start => "start"
  | started => "started"
  | stop => "stop"
  | pause => "pause"
  | resume => "resume"
  | enterObservation => "enter_observation"
  | exitObservation => "exit_observation"
  | degrade => "degrade"
  | recover => "recover"

def sessionTransitions : RuntimeSessionState → SessionCommand → Option RuntimeSessionState
  | .stopped, .start => some .starting
  | .starting, .started => some .running
  | .starting, .stop => some .stopped
  | .running, .pause => some .paused
  | .running, .enterObservation => some .observation
  | .running, .degrade => some .degraded
  | .running, .stop => some .stopped
  | .paused, .resume => some .running
  | .paused, .enterObservation => some .observation
  | .paused, .degrade => some .degraded
  | .paused, .stop => some .stopped
  | .observation, .exitObservation => some .running
  | .observation, .degrade => some .degraded
  | .observation, .stop => some .stopped
  | .degraded, .recover => some .running
  | .degraded, .pause => some .paused
  | .degraded, .enterObservation => some .observation
  | .degraded, .stop => some .stopped
  | _, _ => none

structure RuntimeStateMachine where
  state : RuntimeSessionState := .stopped

inductive RuntimeMode
  | backtest
  | paperBroker
  | paperSimulated
  | liveObservation
  | live
  | observation
deriving DecidableEq

/-- Explicit order permission for broker-capable runtime modes. -/
inductive OrderSubmissionPermission
  | observationOnly
  | paperOrdersAllowed
  | liveOrdersAllowed
deriving DecidableEq

def OrderSubmissionPermission.allowsOrderSubmission (permission : OrderSubmissionPermission) :
    Bool :=
  decide (permission ≠ .observationOnly)

def OrderSubmissionPermission.allowsLiveOrders (permission : OrderSubmissionPermission) : Bool :=
  decide (permission = .liveOrdersAllowed)

structure BrokerRuntimeStartupDecision where
  orderPermission : OrderSubmissionPermission
  realOrderSubmissionEnabled : Bool

/-- Convert startup decisions into fail-closed order-block reason codes. -/
structure BrokerRuntimeStartupGate where
  mode : RuntimeMode
  startupDecision : Option BrokerRuntimeStartupDecision

def BrokerRuntimeStartupGate.blockedReason (gate : BrokerRuntimeStartupGate) : Option String :=
  match gate.startupDecision with
  | none =>
    if gate.mode = .live then some "LIVE_STARTUP_NOT_ALLOWED"
    else if gate.mode = .paperBroker then some "BROKER_STARTUP_NOT_ALLOWED"
    else none
  | some decision =>
    if !decision.orderPermission.allowsOrderSubmission then some "OBSERVATION_ONLY"
    else if gate.mode = .live ∧ decision.orderPermission.allowsLiveOrders = false then
      some "LIVE_ORDER_PERMISSION_REQUIRED"
    else if decision.orderPermission.allowsLiveOrders && !decision.realOrderSubmissionEnabled then
      some "LIVE_STARTUP_NOT_ALLOWED"
    else none

/-- Immutable record of an actor failure emitted by the runtime. -/
structure ActorFailureEvent where
  actorName : String
  exceptionType : String
  exceptionMessage : String
  timestamp : Option DateTime := none
  recoverable : Bool := true

theorem sixty_positive : (0 : Int) < 60 := by decide

structure RestartPolicy where
  maxRestarts : Nat := 3
  window : Int := 60
  pos : 0 < window := by first | exact sixty_positive | decide

def RestartPolicy.restartsWithinWindow (policy : RestartPolicy) (failureTimes : List DateTime)
    (now : DateTime) : Nat :=
  failureTimes.countP fun failureTime => decide (now - policy.window < failureTime)

def RestartPolicy.shouldRestart (policy : RestartPolicy) (failureTimes : List DateTime)
    (now : DateTime) (recoverable : Bool) : Bool :=
  recoverable && decide (policy.restartsWithinWindow failureTimes now < policy.maxRestarts)

inductive SupervisorDecision
  | restart
  | degrade
deriving DecidableEq

structure ActorSupervisor where
  restartPolicy : RestartPolicy := {}
  failureTimes : Dict String (List DateTime) := .empty

def ActorSupervisor.handleFailure (supervisor : ActorSupervisor) (event : ActorFailureEvent)
    (clock : DateTime) : SupervisorDecision × ActorSupervisor :=
  let priorFailures := (supervisor.failureTimes.get? event.actorName).getD []
  let now := event.timestamp.getD clock
  (if supervisor.restartPolicy.shouldRestart priorFailures now event.recoverable then .restart
    else .degrade,
   { supervisor with
     failureTimes := supervisor.failureTimes.set event.actorName (priorFailures ++ [now]) })

def ActorSupervisor.failureCount (supervisor : ActorSupervisor) (actorName : String) : Nat :=
  ((supervisor.failureTimes.get? actorName).getD []).length

structure BrokerReconnectReconciliationFields where
  passed : Bool
  reasonCode : Option String := none
  driftCount : Int := 0
  unresolvedCallbackCount : Int := 0

def BrokerReconnectReconciliationFields.checks (result : BrokerReconnectReconciliationFields) :
    List Check :=
  [⟨result.passed && result.reasonCode.isSome,
      "passed reconnect reconciliation must not have a reason_code"⟩,
   ⟨!result.passed && decide (result.reasonCode.getD "" = ""),
      "failed reconnect reconciliation requires a reason_code"⟩,
   ⟨decide (result.driftCount < 0), "drift_count must be non-negative"⟩,
   ⟨decide (result.unresolvedCallbackCount < 0),
      "unresolved_callback_count must be non-negative"⟩]

structure BrokerReconnectReconciliationResult extends BrokerReconnectReconciliationFields where
  valid : Check.firstFailure toBrokerReconnectReconciliationFields.checks = none

inductive LifecycleEvent
  | stateTransition (state : RuntimeSessionState)
  | startupGate (decision : BrokerRuntimeStartupDecision)
  | startupBlocked (reasonCode : String)
  | brokerDisconnected (reason : String) (stateBefore : RuntimeSessionState)
  | brokerReconnected (reason : String) (stateBefore : RuntimeSessionState)
  | reconciliationNotConfigured (stateBefore : RuntimeSessionState)
  | reconciliationFailed (result : BrokerReconnectReconciliationResult)
      (stateBefore : RuntimeSessionState)
  | reconciliationPassed (reason : String) (result : BrokerReconnectReconciliationResult)
      (stateBefore : RuntimeSessionState)
  | actorFailure (event : ActorFailureEvent) (decision : SupervisorDecision) (failureCount : Nat)
  | degraded (reason : String)

/-- The lifecycle of a runtime session: what it was configured with, its state machine, its
supervisor and the events written so far. -/
structure RuntimeLifecycle where
  mode : RuntimeMode
  startupDecision : Option BrokerRuntimeStartupDecision := none
  reconciliationConfigured : Bool := false
  machine : RuntimeStateMachine := {}
  supervisor : ActorSupervisor := {}
  events : List LifecycleEvent := []

abbrev LifecycleCall := EStateM Failure RuntimeLifecycle

namespace RuntimeLifecycle

def state (lifecycle : RuntimeLifecycle) : RuntimeSessionState :=
  lifecycle.machine.state

def apply (command : SessionCommand) : LifecycleCall RuntimeSessionState := do
  let lifecycle ← get
  match sessionTransitions lifecycle.state command with
  | none => throw (.valueError ("invalid runtime transition: " ++ lifecycle.state.value ++ " -> " ++
      command.value))
  | some next =>
    set { lifecycle with machine := ⟨next⟩ }
    return next

def write (event : LifecycleEvent) : LifecycleCall Unit :=
  modify fun lifecycle => { lifecycle with events := lifecycle.events ++ [event] }

def transition (command : SessionCommand) : LifecycleCall RuntimeSessionState := do
  let state ← apply command
  write (.stateTransition state)
  return state

def stop : LifecycleCall RuntimeSessionState := transition .stop

/-- Pause new strategy intent processing. -/
def pause : LifecycleCall RuntimeSessionState := transition .pause

/-- Resume new strategy intent processing. -/
def resume : LifecycleCall RuntimeSessionState := transition .resume

/-- Enter observation mode and block new order submission. -/
def enterObservation : LifecycleCall RuntimeSessionState := transition .enterObservation

def exitObservation : LifecycleCall RuntimeSessionState := transition .exitObservation

def degrade : LifecycleCall RuntimeSessionState := transition .degrade

def recover : LifecycleCall RuntimeSessionState := transition .recover

def startupBlockedReason (lifecycle : RuntimeLifecycle) : Option String :=
  (BrokerRuntimeStartupGate.mk lifecycle.mode lifecycle.startupDecision).blockedReason

def writeStartupGateEvent : LifecycleCall Unit := do
  match (← get).startupDecision with
  | none => return
  | some decision => write (.startupGate decision)

def start : LifecycleCall RuntimeSessionState := do
  let _ ← apply .start
  let state ← apply .started
  let blocked := (← get).startupBlockedReason
  writeStartupGateEvent
  match blocked with
  | some reason =>
    write (.startupBlocked reason)
    degrade
  | none =>
    write (.stateTransition state)
    return state

def degradeActive : LifecycleCall RuntimeSessionState := do
  let state := (← get).state
  if state = .running ∨ state = .paused then degrade else return state

def onActorFailure (event : ActorFailureEvent) (clock : DateTime) :
    LifecycleCall SupervisorDecision := do
  let lifecycle ← get
  let (decision, supervisor) := lifecycle.supervisor.handleFailure event clock
  set { lifecycle with supervisor }
  write (.actorFailure event decision (supervisor.failureCount event.actorName))
  if decision = .degrade then
    let _ ← degradeActive
  return decision

/-- Mark the session degraded after broker connectivity is lost. -/
def onBrokerDisconnect (reason : String) : LifecycleCall RuntimeSessionState := do
  if isBlank reason then throw (.valueError "reason must not be empty")
  else
    write (.brokerDisconnected reason (← get).state)
    degradeActive

def onBrokerReconnect (reason : String)
    (reconciliation : Except Failure BrokerReconnectReconciliationResult) :
    LifecycleCall RuntimeSessionState := do
  if isBlank reason then throw (.valueError "reason must not be empty")
  else
    write (.brokerReconnected reason (← get).state)
    if (← get).reconciliationConfigured then
      match reconciliation with
      | .error failure => throw failure
      | .ok result =>
        let state := (← get).state
        if result.passed then
          write (.reconciliationPassed reason result state)
          if state = .degraded then recover else return state
        else
          write (.reconciliationFailed result state)
          degradeActive
    else
      write (.reconciliationNotConfigured (← get).state)
      degradeActive

def onMarketDataDegraded (reason : String) : LifecycleCall RuntimeSessionState := do
  write (.degraded reason)
  let state := (← get).state
  if state = .degraded then return state else degrade

end RuntimeLifecycle

/-- What happens to a session: a lifecycle command or an event. -/
inductive LifecycleInput
  | start
  | stop
  | pause
  | resume
  | enterObservation
  | exitObservation
  | degrade
  | recover
  | actorFailure (event : ActorFailureEvent) (clock : DateTime)
  | brokerDisconnect (reason : String)
  | brokerReconnect (reason : String)
      (reconciliation : Except Failure BrokerReconnectReconciliationResult)
  | marketDataDegraded (reason : String)

namespace RuntimeLifecycle

/-- What a call leaves to its caller: nothing, or a failure. -/
def settle {Value : Type} (result : EStateM.Result Failure RuntimeLifecycle Value) :
    Option Failure × RuntimeLifecycle :=
  answer (fun _ => none) some result

def step : Step RuntimeLifecycle LifecycleInput (Option Failure) :=
  fun lifecycle input =>
    match input with
    | .start => settle (start.run lifecycle)
    | .stop => settle (stop.run lifecycle)
    | .pause => settle (pause.run lifecycle)
    | .resume => settle (resume.run lifecycle)
    | .enterObservation => settle (enterObservation.run lifecycle)
    | .exitObservation => settle (exitObservation.run lifecycle)
    | .degrade => settle (degrade.run lifecycle)
    | .recover => settle (recover.run lifecycle)
    | .actorFailure event clock => settle ((onActorFailure event clock).run lifecycle)
    | .brokerDisconnect reason => settle ((onBrokerDisconnect reason).run lifecycle)
    | .brokerReconnect reason reconciliation =>
      settle ((onBrokerReconnect reason reconciliation).run lifecycle)
    | .marketDataDegraded reason => settle ((onMarketDataDegraded reason).run lifecycle)

@[simp]
theorem settle_state {Value : Type} (result : EStateM.Result Failure RuntimeLifecycle Value)
    : (settle result).2 = endState result := by
  unfold settle
  rw [answer_state]

@[simp]
theorem write_run (event : LifecycleEvent) (lifecycle : RuntimeLifecycle) :
    (write event).run lifecycle =
      .ok () { lifecycle with events := lifecycle.events ++ [event] } :=
  rfl

theorem apply_run (command : SessionCommand) (lifecycle : RuntimeLifecycle) :
    (apply command).run lifecycle =
      match sessionTransitions lifecycle.state command with
      | none => .error (.valueError ("invalid runtime transition: " ++ lifecycle.state.value ++
          " -> " ++ command.value)) lifecycle
      | some next => .ok next { lifecycle with machine := ⟨next⟩ } := by
  simp only [apply, run_bind, run_get]
  cases sessionTransitions lifecycle.state command <;> rfl

/-- A transition moves as the table says, or raises and stays. -/
theorem transition_state (command : SessionCommand) (lifecycle : RuntimeLifecycle) :
    (endState ((transition command).run lifecycle)).state =
      (sessionTransitions lifecycle.state command).getD lifecycle.state := by
  unfold transition
  rw [run_bind, apply_run]
  cases sessionTransitions lifecycle.state command <;> rfl

def degradedIfActive (state : RuntimeSessionState) : RuntimeSessionState :=
  if state = .running ∨ state = .paused then .degraded else state

variable (lifecycle : RuntimeLifecycle)

theorem degradeActive_state :
    (endState (degradeActive.run lifecycle)).state = degradedIfActive lifecycle.state := by
  unfold degradeActive degradedIfActive
  simp only [run_bind, run_get]
  split
  · next active =>
    unfold degrade
    rw [transition_state]
    rcases active with running | paused
    · rw [running]
      rfl
    · rw [paused]
      rfl
  · rfl

theorem start_state :
    (endState (start.run lifecycle)).state =
      if lifecycle.state = .stopped then
        if lifecycle.startupBlockedReason.isSome then .degraded else .running
      else lifecycle.state := by
  unfold start
  rw [run_bind, apply_run]
  cases stopped : lifecycle.state with
  | stopped =>
    simp only [sessionTransitions, if_true]
    rw [run_bind, apply_run]
    cases decision : lifecycle.startupDecision <;>
      cases blocked : lifecycle.startupBlockedReason <;>
      simp_all [state, sessionTransitions, run_bind, degrade, transition, apply_run,
        writeStartupGateEvent, startupBlockedReason, -bind_pure_comp]
  | starting | running | paused | observation | degraded =>
    simp [sessionTransitions, stopped]

theorem onActorFailure_state (event : ActorFailureEvent) (clock : DateTime)
    (lifecycle : RuntimeLifecycle) :
    (endState ((onActorFailure event clock).run lifecycle)).state =
      if (lifecycle.supervisor.handleFailure event clock).1 = .degrade then
        degradedIfActive lifecycle.state
      else lifecycle.state := by
  unfold onActorFailure
  rcases handled : lifecycle.supervisor.handleFailure event clock with ⟨decision, supervisor⟩
  cases decision with
  | restart =>
    simp only [run_bind, run_get, run_set, handled, write_run]
    rfl
  | degrade =>
    simp only [run_bind, run_get, run_set, handled, write_run, if_true]
    refine Eq.trans ?_ (degradeActive_state { lifecycle with
      supervisor
      events := lifecycle.events ++
        [.actorFailure event .degrade (supervisor.failureCount event.actorName)] })
    generalize degradeActive.run _ = result
    cases result <;> rfl

variable (reason : String)

theorem onBrokerDisconnect_state (lifecycle : RuntimeLifecycle) :
    (endState ((onBrokerDisconnect reason).run lifecycle)).state =
      if isBlank reason then lifecycle.state else degradedIfActive lifecycle.state := by
  unfold onBrokerDisconnect
  split
  · rfl
  · exact degradeActive_state _

theorem onBrokerReconnect_state
    (reconciliation : Except Failure BrokerReconnectReconciliationResult)
    (lifecycle : RuntimeLifecycle) :
    (endState ((onBrokerReconnect reason reconciliation).run lifecycle)).state =
      if isBlank reason then lifecycle.state
      else if lifecycle.reconciliationConfigured then
        match reconciliation with
        | .error _ => lifecycle.state
        | .ok result =>
          if result.passed then
            if lifecycle.state = .degraded then .running else lifecycle.state
          else degradedIfActive lifecycle.state
      else degradedIfActive lifecycle.state := by
  unfold onBrokerReconnect
  split
  · rfl
  · simp only [run_bind, run_get, write_run]
    split
    · cases reconciliation with
      | error failure => rfl
      | ok result =>
        simp only [run_bind, run_get]
        split
        · simp only [run_bind, write_run]
          split
          · next degraded =>
            change lifecycle.state = _ at degraded
            unfold recover
            rw [transition_state, if_pos degraded]
            change (sessionTransitions lifecycle.state .recover).getD _ = _
            rw [degraded]
            rfl
          · next other =>
            change ¬ lifecycle.state = _ at other
            rw [if_neg other]
            rfl
        · exact degradeActive_state _
    · exact degradeActive_state _

theorem onMarketDataDegraded_state (lifecycle : RuntimeLifecycle) :
    (endState ((onMarketDataDegraded reason).run lifecycle)).state =
      if lifecycle.state = .degraded then lifecycle.state
      else (sessionTransitions lifecycle.state .degrade).getD lifecycle.state := by
  unfold onMarketDataDegraded
  simp only [run_bind, run_get, write_run]
  split
  · next degraded =>
    change lifecycle.state = _ at degraded
    rw [if_pos degraded]
    rfl
  · next other =>
    change ¬ lifecycle.state = _ at other
    rw [if_neg other]
    exact transition_state .degrade _

def Configured (base lifecycle : RuntimeLifecycle) : Prop :=
  lifecycle.mode = base.mode ∧ lifecycle.startupDecision = base.startupDecision ∧
    lifecycle.reconciliationConfigured = base.reconciliationConfigured

variable (base : RuntimeLifecycle)

theorem keeps_apply (command : SessionCommand) : Keeps (Configured base) (apply command) := by
  intro lifecycle configured
  rw [apply_run]
  cases sessionTransitions lifecycle.state command with
  | none => exact configured
  | some next => exact configured

theorem keeps_write (event : LifecycleEvent) : Keeps (Configured base) (write event) :=
  Keeps.modify fun _ configured => configured

theorem keeps_transition (command : SessionCommand) :
    Keeps (Configured base) (transition command) :=
  (keeps_apply base command).bind fun _ => (keeps_write base _).bind fun _ => Keeps.pure _

theorem keeps_degradeActive : Keeps (Configured base) degradeActive :=
  Keeps.get fun _ _ => Keeps.ite (fun _ => keeps_transition base .degrade) fun _ => Keeps.pure _

theorem keeps_start : Keeps (Configured base) start := by
  refine (keeps_apply base _).bind fun _ => (keeps_apply base _).bind fun _ => ?_
  refine Keeps.get fun lifecycle _ => Keeps.bind (Keeps.get fun middle _ => ?_) fun _ => ?_
  · cases middle.startupDecision with
    | none => exact Keeps.pure _
    | some decision => exact keeps_write base _
  · cases lifecycle.startupBlockedReason with
    | some reason => exact (keeps_write base _).bind fun _ => keeps_transition base .degrade
    | none => exact (keeps_write base _).bind fun _ => Keeps.pure _

theorem keeps_onActorFailure (event : ActorFailureEvent) (clock : DateTime) :
    Keeps (Configured base) (onActorFailure event clock) := by
  intro lifecycle configured
  unfold onActorFailure
  rcases handled : lifecycle.supervisor.handleFailure event clock with ⟨decision, supervisor⟩
  simp only [run_bind, run_get, run_set, handled, write_run]
  cases decision with
  | restart => exact configured
  | degrade =>
    exact ((keeps_degradeActive base).bind fun _ => Keeps.pure _) _ configured

theorem keeps_onBrokerDisconnect (reason : String) :
    Keeps (Configured base) (onBrokerDisconnect reason) :=
  Keeps.ite (fun _ => Keeps.throw _) fun _ => Keeps.get fun _ _ =>
    (keeps_write base _).bind fun _ => keeps_degradeActive base

theorem keeps_onBrokerReconnect (reason : String)
    (reconciliation : Except Failure BrokerReconnectReconciliationResult) :
    Keeps (Configured base) (onBrokerReconnect reason reconciliation) := by
  refine Keeps.ite (fun _ => Keeps.throw _) fun _ => Keeps.get fun _ _ =>
    (keeps_write base _).bind fun _ => Keeps.get fun _ _ => Keeps.ite (fun _ => ?_) fun _ =>
      Keeps.get fun _ _ => (keeps_write base _).bind fun _ => keeps_degradeActive base
  cases reconciliation with
  | error failure => exact Keeps.throw _
  | ok result =>
    refine Keeps.get fun _ _ => Keeps.ite (fun _ => ?_) fun _ => ?_
    · exact (keeps_write base _).bind fun _ =>
        Keeps.ite (fun _ => keeps_transition base .recover) fun _ => Keeps.pure _
    · exact (keeps_write base _).bind fun _ => keeps_degradeActive base

theorem keeps_onMarketDataDegraded (reason : String) :
    Keeps (Configured base) (onMarketDataDegraded reason) :=
  (keeps_write base _).bind fun _ => Keeps.get fun _ _ =>
    Keeps.ite (fun _ => Keeps.pure _) fun _ => keeps_transition base .degrade

theorem step_configured (input : LifecycleInput) :
    Configured lifecycle (step lifecycle input).2 := by
  have start : Configured lifecycle lifecycle := ⟨rfl, rfl, rfl⟩
  cases input with
  | start => exact settle_state _ ▸ keeps_start lifecycle lifecycle start
  | stop => exact settle_state _ ▸ keeps_transition lifecycle _ lifecycle start
  | pause => exact settle_state _ ▸ keeps_transition lifecycle _ lifecycle start
  | resume => exact settle_state _ ▸ keeps_transition lifecycle _ lifecycle start
  | enterObservation => exact settle_state _ ▸ keeps_transition lifecycle _ lifecycle start
  | exitObservation => exact settle_state _ ▸ keeps_transition lifecycle _ lifecycle start
  | degrade => exact settle_state _ ▸ keeps_transition lifecycle _ lifecycle start
  | recover => exact settle_state _ ▸ keeps_transition lifecycle _ lifecycle start
  | actorFailure event clock =>
    exact settle_state _ ▸ keeps_onActorFailure lifecycle event clock lifecycle start
  | brokerDisconnect reason =>
    exact settle_state _ ▸ keeps_onBrokerDisconnect lifecycle reason lifecycle start
  | brokerReconnect reason reconciliation =>
    exact settle_state _ ▸ keeps_onBrokerReconnect lifecycle reason reconciliation lifecycle start
  | marketDataDegraded reason =>
    exact settle_state _ ▸ keeps_onMarketDataDegraded lifecycle reason lifecycle start

/-- Whether an input takes a running session out of the running state. -/
def halts (lifecycle : RuntimeLifecycle) : LifecycleInput → Bool
  | .stop | .pause | .enterObservation | .degrade | .marketDataDegraded _ => true
  | .start | .resume | .exitObservation | .recover => false
  | .actorFailure event clock =>
    decide ((lifecycle.supervisor.handleFailure event clock).1 = .degrade)
  | .brokerDisconnect reason => !isBlank reason
  | .brokerReconnect reason reconciliation =>
    !isBlank reason &&
      (!lifecycle.reconciliationConfigured ||
        match reconciliation with
        | .ok result => !result.passed
        | .error _ => false)

theorem step_running_iff {lifecycle : RuntimeLifecycle} (running : lifecycle.state = .running)
    (input : LifecycleInput) :
    (step lifecycle input).2.state = .running ↔ lifecycle.halts input = false := by
  have degraded : degradedIfActive .running = .degraded := rfl
  cases input with
  | start =>
    simp only [step, settle_state, start_state, running, halts]
    simp
  | stop | pause | resume | enterObservation | exitObservation | degrade | recover =>
    simp only [step, settle_state, stop, pause, resume, enterObservation, exitObservation, degrade,
      recover, transition_state, running, halts]
    decide
  | actorFailure event clock =>
    simp only [step, settle_state, onActorFailure_state, running, degraded, halts]
    split
    · next decided => simp [decided]
    · next decided => simp [decided]
  | brokerDisconnect reason =>
    simp only [step, settle_state, onBrokerDisconnect_state, running, degraded, halts]
    cases isBlank reason <;> decide
  | brokerReconnect reason reconciliation =>
    simp only [step, settle_state, onBrokerReconnect_state, running, degraded, halts]
    cases isBlank reason <;> cases lifecycle.reconciliationConfigured <;>
      cases reconciliation with
      | error failure => simp
      | ok result => cases passed : result.passed <;> simp
  | marketDataDegraded reason =>
    simp only [step, settle_state, onMarketDataDegraded_state, running, halts]
    decide

end RuntimeLifecycle

open RaisingCalls

namespace RuntimeLifecycle

variable {lifecycle : RuntimeLifecycle}

/-- Whether an input recovers a degraded session: it is the command to, or a reconnect whose
reconciliation passed. -/
def recovers (lifecycle : RuntimeLifecycle) (input : LifecycleInput) : Bool :=
  decide (lifecycle.state = .degraded) &&
    match input with
    | .recover => true
    | .brokerReconnect reason (.ok result) =>
      !isBlank reason && lifecycle.reconciliationConfigured && result.passed
    | _ => false

def degrades (lifecycle : RuntimeLifecycle) (input : LifecycleInput) : Bool :=
  decide ((step lifecycle input).2.state = .degraded) ||
    match lifecycle.state, input with
    | .observation, .brokerDisconnect _ => true
    | _, _ => false

/-- Whether an input makes the session forget a degradation: it is a way out of the degraded state
that is no recovery, or loses the broker in observation. -/
def forgets (lifecycle : RuntimeLifecycle) (input : LifecycleInput) : Bool :=
  match lifecycle.state, input with
  | .degraded, .pause | .degraded, .enterObservation | .degraded, .stop => true
  | .observation, .brokerDisconnect _ => true
  | _, _ => false

theorem step_degraded {input : LifecycleInput} (degraded : lifecycle.state = .degraded)
    (remembered : forgets lifecycle input = false) (unrecovered : recovers lifecycle input = false)
    : (step lifecycle input).2.state = .degraded := by
  have same : degradedIfActive .degraded = .degraded := rfl
  unfold forgets at remembered
  unfold recovers at unrecovered
  rw [degraded] at remembered unrecovered
  cases input with
  | pause => cases remembered
  | enterObservation => cases remembered
  | stop => cases remembered
  | recover => cases unrecovered
  | start =>
    simp only [step, settle_state, start_state, degraded]
    rfl
  | resume =>
    simp only [step, settle_state, resume, transition_state, degraded]
    rfl
  | exitObservation =>
    simp only [step, settle_state, exitObservation, transition_state, degraded]
    rfl
  | degrade =>
    simp only [step, settle_state, degrade, transition_state, degraded]
    rfl
  | actorFailure event clock =>
    simp only [step, settle_state, onActorFailure_state, degraded, same, ite_self]
  | brokerDisconnect reason =>
    simp only [step, settle_state, onBrokerDisconnect_state, degraded, same, ite_self]
  | brokerReconnect reason reconciliation =>
    simp only [step, settle_state, onBrokerReconnect_state, degraded, same]
    cases reconciliation with
    | error failure => simp
    | ok result =>
      split
      · rfl
      · next shown =>
        split
        · next configured =>
          have failed : result.passed = false := by
            simpa [shown, configured] using unrecovered
          simp [failed]
        · rfl
  | marketDataDegraded reason =>
    simp only [step, settle_state, onMarketDataDegraded_state, degraded, if_true]

theorem degraded_of_degrades {input : LifecycleInput} (remembered : forgets lifecycle input = false)
    (raised : degrades lifecycle input = true) : (step lifecycle input).2.state = .degraded := by
  rcases Bool.or_eq_true_iff.mp raised with degraded | lost
  · exact of_decide_eq_true degraded
  · unfold forgets at remembered
    split at lost
    · next observed =>
      rw [observed] at remembered
      cases remembered
    · cases lost

/-- A session that is degraded whenever a degradation is outstanding. -/
def DegradedWhile (lifecycle : RuntimeLifecycle) (held : Bool) : Prop :=
  held = true → lifecycle.state = .degraded

theorem step_degradedWhile (held : Bool) (input : LifecycleInput)
    (known : DegradedWhile lifecycle held) (remembered : forgets lifecycle input = false) :
    DegradedWhile (step lifecycle input).2
      ((held || degrades lifecycle input) && !recovers lifecycle input) := by
  intro still
  obtain ⟨raised, unrecovered⟩ := Bool.and_eq_true_iff.mp still
  rcases Bool.or_eq_true_iff.mp raised with held | degraded
  · exact step_degraded (known held) remembered (Bool.not_eq_true' _ ▸ unrecovered)
  · exact degraded_of_degrades remembered degraded

/-- In every run without a forgetting step, a session with an outstanding degradation is not
running. -/
theorem not_running_of_outstanding (lifecycle : RuntimeLifecycle) (inputs : List LifecycleInput)
    (remembered : EveryStep step (fun before input => forgets before input = false)
      lifecycle inputs)
    (outstanding : outstanding step degrades recovers
      (decide (lifecycle.state = .degraded)) lifecycle inputs = true) :
    (final step lifecycle inputs).state ≠ .running := by
  have start : DegradedWhile lifecycle (decide (lifecycle.state = .degraded)) := of_decide_eq_true
  have degraded := outstanding_invariant
    (fun _ held input known => step_degradedWhile held input known) start remembered outstanding
  rw [degraded]
  decide

def idlePaperSession : RuntimeLifecycle where
  mode := .paperSimulated

theorem not_running_of_outstanding_resume :
    (final step idlePaperSession
      [.start, .brokerDisconnect "socket closed", .resume]).state ≠ .running :=
  not_running_of_outstanding idlePaperSession
    [.start, .brokerDisconnect "socket closed", .resume] (by decide) (by decide)

/-- A session that lost its broker runs again after a pause, or after observation, and one that
lost it in observation runs after leaving it; none of them recovered. -/
theorem detours_forget :
    ([[.start, .brokerDisconnect "socket closed", .pause, .resume],
      [.start, .brokerDisconnect "socket closed", .enterObservation, .exitObservation],
      [.start, .enterObservation, .brokerDisconnect "socket closed", .exitObservation]].map
        fun inputs : List LifecycleInput =>
          (outstanding step degrades recovers false idlePaperSession inputs,
            (final step idlePaperSession inputs).state)) =
      [(true, .running), (true, .running), (true, .running)] := by
  decide

end RuntimeLifecycle

end Qts
