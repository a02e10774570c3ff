import Qts.KillSwitchCompleteness
import Qts.ReportAccounting

/-! # Activating the kill switch -/

namespace Qts

open PythonText StepRuns SimulatedExecutionAdapter List

def ExecutionRequest.cancels (orderId : OrderId) : ExecutionRequest → Bool
  | .cancel cancelled _ _ _ _ => decide (cancelled = orderId)
  | _ => false

namespace AccountPartition

open OrderManagerActor RaisingCalls RuntimeSafetySession

/-- Each order that is sent, alive and not already being cancelled has reached the execution actor
as exactly one new cancel, which the execution actor has taken. -/
structure CancelsDelivered (before after : AccountPartition) : Prop where
  taken : after.executed = after.orderManager.executionRef.length
  once : ∀ order ∈ before.orderManager.manager.orders.values,
    order.state ∉ terminalOrderStates → order.brokerOrderId.isSome →
      order.state ≠ .cancelRequested →
        (after.orderManager.executionRef.drop before.orderManager.executionRef.length).countP
          (ExecutionRequest.cancels order.orderId) = 1

/-- What the activation relies on: the partition is at rest, its order manager routes its orders
and its stores agree, and the execution adapter confirms the cancels of its orders. -/
structure Ready (answer : ExecutionRequest → Except Failure ExecutionReport)
    (part : AccountPartition) : Prop where
  atRest : AtRest part
  routed : WellRouted part.orderManager
  represented : part.orderManager.manager.Representation
  confirms : ConfirmsCancels answer part.orderManager

variable {answer : ExecutionRequest → Except Failure ExecutionReport}
  {before after : AccountPartition}

theorem allCancellable_iff {targets : List CancelTarget} {orders : List Order}
    (same : targets.map Prod.fst = orders) :
    AllCancellable targets ↔ ∀ order ∈ orders, order.state ∈ cancellableStates := by
  subst same
  simp [AllCancellable]

theorem CancelsTaken.delivered {base : AccountPartition} {targets : List CancelTarget}
    (relisted : Relisted before base) (orders : targets.map Prod.fst = activeOrdersOf base)
    (known : Targets base targets) (taken : CancelsTaken base targets after) :
    CancelsDelivered before after where
  taken := taken.atRest.executed
  once order mem live sent open_ := by
    have active : order ∈ activeOrdersOf base := by
      rw [relisted.activeOrdersOf]
      exact mem_activeOrdersOf.mpr ⟨mem, live⟩
    obtain ⟨fillIds, seen, rfl⟩ := relisted
    rw [taken.requests, drop_left, countP_map]
    have ids : order.orderId ∈ targets.map fun target => target.1.orderId := by
      rw [← orders] at active
      obtain ⟨target, among, rfl⟩ := mem_map.mp active
      exact mem_map_of_mem among
    have once := count_eq_one_of_mem known.distinct ids
    rw [count, countP_map] at once
    exact once

end AccountPartition

namespace RuntimeSafetySession

open OrderManagerActor AccountPartition RaisingCalls

variable {answers : Option AccountId → ExecutionRequest → Except Failure ExecutionReport}
  {caps : UpperCase} {session : RuntimeSafetySession}

theorem Relisted.ready {answer : ExecutionRequest → Except Failure ExecutionReport}
    {before after : AccountPartition} (relisted : Relisted before after)
    (ready : Ready answer before) :
    Ready answer after := by
  obtain ⟨fillIds, seen, rfl⟩ := relisted
  obtain ⟨atRest, ⟨formed, each⟩, represented, confirms⟩ := ready
  refine ⟨⟨atRest.orderManagerMailbox, atRest.executed, atRest.applied⟩,
    ⟨⟨formed.machine, formed.key, formed.fillIdsOwned, formed.reportIdsOwned⟩,
      each⟩,
    ⟨represented.machine, represented.mapped, represented.unshared, ?_, represented.reportIds⟩,
    fun target of => confirms target ⟨of.tracked, of.route, of.onRoute, of.dispatched, of.live⟩⟩
  exact seen ▸ represented.fillIds

theorem Snapshotted.delivered {before after last : AccountPartition}
    (delivered : CancelsDelivered before after) (snapshotted : Snapshotted after last) :
    CancelsDelivered before last := by
  obtain ⟨_, rfl⟩ := snapshotted
  exact ⟨delivered.taken, delivered.once⟩

def EveryActiveCancellable (session : RuntimeSafetySession) : Prop :=
  ∀ account ∈ session.accounts, ∀ order ∈ activeOrdersOf (session.partition account),
    order.state ∈ cancellableStates

structure SessionTargets (base : RuntimeSafetySession) (accounts : List (Option AccountId))
    (targets : Option AccountId → List CancelTarget) : Prop where
  orders : ∀ account ∈ accounts,
    (targets account).map Prod.fst = activeOrdersOf (base.partition account)
  known : ∀ account ∈ accounts, Targets (base.partition account) (targets account)

variable {accounts : List (Option AccountId)}

theorem exists_sessionTargets {base : RuntimeSafetySession}
    (routed : ∀ account ∈ accounts, WellRouted (base.partition account).orderManager) :
    ∃ targets, SessionTargets base accounts targets := by
  have each : ∀ account, ∃ targets : List CancelTarget, account ∈ accounts →
      targets.map Prod.fst = activeOrdersOf (base.partition account) ∧
        Targets (base.partition account) targets := by
    intro account
    by_cases mem : account ∈ accounts
    · obtain ⟨targets, both⟩ := activeOrders_targets (routed account mem)
      exact ⟨targets, fun _ => both⟩
    · exact ⟨[], fun found => absurd found mem⟩
  choose targets both using each
  exact ⟨targets, fun account mem => (both account mem).1,
    fun account mem => (both account mem).2⟩

theorem told_nil {base : AccountPartition} (idle : base.orderManagerMailbox = []) :
    Told base [] base := by
  refine ⟨[], [], rfl, AllCancellable.nil, ?_⟩
  rw [map_nil, ← idle]
  rfl

variable {targets : Option AccountId → List CancelTarget}

theorem tellCancels_ends {base : RuntimeSafetySession}
    (distinct : accounts.Nodup)
    (idle : ∀ account ∈ accounts, (base.partition account).orderManagerMailbox = [])
    (session : SessionTargets base accounts targets) :
    Ends (fun _ after => Framed base after ∧
        ∀ account ∈ accounts,
          Told (base.partition account) (targets account) (after.partition account))
      (fun _ _ => ¬ ∀ account ∈ accounts, AllCancellable (targets account))
      (tellCancels (base.allActive accounts)) base := by
  have flat : base.allActive accounts = accounts.flatMap fun account =>
      ((activeOrdersOf (base.partition account)).map fun order => order.orderId).map
        fun orderId => (orderId, account) := by
    simp only [allActive, map_map]
    rfl
  rw [flat, tellCancels_eq]
  refine (onPartitions_ends distinct ?_).mono fun _ _ told => ⟨told.1, told.2.2⟩
  intro account mem
  have ids : (activeOrdersOf (base.partition account)).map (fun order => order.orderId) =
      (targets account).map fun target => target.1.orderId := by
    rw [← session.orders account mem, map_map]
    rfl
  rw [ids]
  have told := tellAll_ends (told_nil (idle account mem)) (session.known account mem)
  exact told.mono_failed fun _ _ refused all => refused (all account mem)

theorem processPartitions_ends {base told : RuntimeSafetySession}
    (distinct : accounts.Nodup)
    (ready : ∀ account ∈ accounts, Ready (answers account) (base.partition account))
    (session : SessionTargets base accounts targets)
    (start : ∀ account ∈ accounts,
      Told (base.partition account) (targets account) (told.partition account)) :
    Ends (fun _ after => Framed told after ∧
        ∀ account ∈ accounts, AllCancellable (targets account) ∧
          CancelsTaken (base.partition account) (targets account) (after.partition account))
      (fun _ _ => ¬ ∀ account ∈ accounts, AllCancellable (targets account))
      (processPartitions answers caps accounts) told := by
  have drained : ∀ account ∈ accounts, Ends
      (fun _ after => AllCancellable (targets account) ∧
        CancelsTaken (base.partition account) (targets account) after)
      (fun _ _ => ¬ ∀ account ∈ accounts, AllCancellable (targets account))
      (processCancels (answers account) caps) (told.partition account) := by
    intro account mem
    obtain ⟨atRest, routed, represented, confirms⟩ := ready account mem
    have known := session.known account mem
    have confirmed : AllCancellable (targets account) →
        ∀ target ∈ targets account, ConfirmsTarget (answers account) target := by
      intro cancellable target among
      exact confirms target (known.of target among) (cancellable target among)
    have ended := processCancels_ends caps atRest represented known (start account mem) confirmed
    exact ended.mono_failed fun _ _ refused all => refused (all account mem)
  rw [processPartitions_eq]
  exact (onPartitions_ends distinct drained).mono fun _ _ taken => ⟨taken.1, taken.2.2⟩

theorem cancelActiveOrders_ends (caps : UpperCase)
    (ready : ∀ account ∈ session.accounts, Ready (answers account) (session.partition account)) :
    Ends (fun _ after => session.EveryActiveCancellable ∧ after.accounts = session.accounts ∧
        ∀ account ∈ session.accounts, AtRest (after.partition account) ∧
          CancelsDelivered (session.partition account) (after.partition account))
      (fun _ _ => ¬ session.EveryActiveCancellable) (cancelActiveOrders answers caps)
      session := by
  refine Ends.get ?_
  refine Ends.bind (activeOrdersByPartition_ends fun account mem =>
    (ready account mem).atRest.orderManagerMailbox) ?_
  rintro _ base ⟨rfl, relisted⟩
  have readyBase : ∀ account ∈ session.accounts,
      Ready (answers account) (base.partition account) :=
    fun account mem => (relisted.partition account).ready (ready account mem)
  obtain ⟨targets, sessionTargets⟩ := exists_sessionTargets
    fun account mem => (readyBase account mem).routed
  have every : (∀ account ∈ session.accounts, AllCancellable (targets account)) ↔
      session.EveryActiveCancellable := by
    refine forall₂_congr fun account mem => ?_
    rw [allCancellable_iff (sessionTargets.orders account mem),
      (relisted.partition account).activeOrdersOf]
  rw [← relisted.allActive, ← every]
  refine Ends.bind (tellCancels_ends session.distinct
    (fun account mem => (readyBase account mem).atRest.orderManagerMailbox)
    sessionTargets) ?_
  rintro _ told ⟨framedTold, allTold⟩
  have accountsTold : told.accounts = session.accounts :=
    framedTold.accounts.trans relisted.framed.accounts
  refine Ends.get ?_
  rw [accountsTold]
  refine Ends.bind (processPartitions_ends session.distinct readyBase sessionTargets allTold) ?_
  rintro _ taken ⟨framedTaken, allTaken⟩
  have found : ∀ orderId account, (orderId, account) ∈ base.allActive session.accounts →
      (taken.partition account).orderManagerMailbox = [] ∧
        ((taken.partition account).orderManager.manager.orders.get? orderId).isSome := by
    intro orderId account mem
    obtain ⟨owner, among, listed⟩ := mem_flatMap.mp mem
    obtain ⟨order, active, same⟩ := mem_map.mp listed
    cases same
    have tracked := values_tracked (readyBase account among).routed.formed
      (mem_activeOrdersOf.mp active).1
    exact ⟨(allTaken account among).2.atRest.orderManagerMailbox,
      (allTaken account among).2.tracked order.orderId (by rw [tracked]; rfl)⟩
  refine Ends.bind (cancelledOrderIds_ends found) ?_
  rintro cancelled _ rfl
  refine Ends.pure ⟨fun account mem => (allTaken account mem).1,
    framedTaken.accounts.trans accountsTold, fun account mem => ?_⟩
  obtain ⟨cancellable, delivered⟩ := allTaken account mem
  exact ⟨delivered.atRest, delivered.delivered (relisted.partition account)
    (sessionTargets.orders account mem) (sessionTargets.known account mem)⟩

theorem Relisted.deliveredFrom {before base after : AccountPartition}
    (relisted : Relisted before base) (delivered : CancelsDelivered base after) :
    CancelsDelivered before after := by
  obtain ⟨_, _, rfl⟩ := relisted
  exact ⟨delivered.taken, delivered.once⟩

theorem RelistedSession.everyActiveCancellable {before after : RuntimeSafetySession}
    (relisted : RelistedSession before after) :
    after.EveryActiveCancellable ↔ before.EveryActiveCancellable := by
  unfold EveryActiveCancellable
  rw [relisted.framed.accounts]
  refine forall₂_congr fun account mem => ?_
  rw [(relisted.partition account).activeOrdersOf]

variable {command : RuntimeKillSwitchCommand}

theorem affectedOrders_ends (caps : UpperCase) (cancels : command.cancelActiveOrders = true)
    (ready : ∀ account ∈ session.accounts, Ready (answers account) (session.partition account)) :
    Ends (fun _ after => session.EveryActiveCancellable ∧ after.accounts = session.accounts ∧
        ∀ account ∈ session.accounts, AtRest (after.partition account) ∧
          CancelsDelivered (session.partition account) (after.partition account))
      (fun _ _ => ¬ session.EveryActiveCancellable) (affectedOrders answers caps command)
      session := by
  refine Ends.get ?_
  refine Ends.bind (activeOrdersByPartition_ends fun account mem =>
    (ready account mem).atRest.orderManagerMailbox) ?_
  rintro _ base ⟨rfl, relisted⟩
  rw [cancels]
  have accounts : base.accounts = session.accounts := relisted.framed.accounts
  have readyBase : ∀ account ∈ base.accounts,
      Ready (answers account) (base.partition account) := fun account mem =>
    (relisted.partition account).ready (ready account (accounts ▸ mem))
  have ended := cancelActiveOrders_ends caps readyBase
  rw [relisted.everyActiveCancellable, accounts] at ended
  refine ended.mono ?_
  rintro _ after ⟨every, same, all⟩
  exact ⟨every, same, fun account mem => ⟨(all account mem).1,
    (relisted.partition account).deliveredFrom (all account mem).2⟩⟩

theorem activateKillSwitch_ends (caps : UpperCase) (cancels : command.cancelActiveOrders = true)
    (ready : ∀ account ∈ session.accounts, Ready (answers account) (session.partition account)) :
    Ends (fun _ after => session.EveryActiveCancellable ∧
        ∀ account ∈ session.accounts,
          CancelsDelivered (session.partition account) (after.partition account))
      (fun _ _ => ¬ session.EveryActiveCancellable) (activateKillSwitch answers caps command)
      session := by
  refine ends_modify_bind ?_
  refine Ends.bind (affectedOrders_ends caps cancels ready) ?_
  rintro ⟨activeOrderIds, cancelledOrderIds⟩ cancelled ⟨every, same, all⟩
  have applied : ∀ account ∈ cancelled.accounts, (cancelled.partition account).applied =
      (cancelled.partition account).orderManager.accountRef.length :=
    fun account mem => (all account (same ▸ mem)).1.applied
  refine Ends.get ?_
  refine Ends.bind (onPartition_ends
    (askAccountSnapshot_ends (applied cancelled.primary mem_cons_self))) ?_
  rintro snapshot _ ⟨part, snapshotted, rfl⟩
  have first : SnapshottedSession cancelled
      (cancelled.withPartition cancelled.primary part) :=
    snapshottedSession_withPartition snapshotted
  refine Ends.get ?_
  refine Ends.bind (recordAccountSnapshots_ends fun account mem =>
    first.applied (applied account mem)) ?_
  intro refs recorded rest
  refine Ends.get ?_
  refine ends_modify_bind (Ends.pure ⟨every, fun account mem => ?_⟩)
  have last : Snapshotted (cancelled.partition account) (recorded.partition account) :=
    (first account).trans (rest account)
  exact last.delivered (all account mem).2

/-- Between two commands: the order manager is in operation, its stores agree, nothing waits in a
mailbox, and the execution adapter confirms the cancels of the orders that can be cancelled. -/
structure Operating (answer : ExecutionRequest → Except Failure ExecutionReport)
    (part : AccountPartition) : Prop where
  inOperation : InOperation part.orderManager
  represented : part.orderManager.manager.Representation
  atRest : AtRest part
  confirms : ConfirmsCancels answer part.orderManager

theorem Operating.ready {answer : ExecutionRequest → Except Failure ExecutionReport}
    {part : AccountPartition} (operating : Operating answer part) :
    Ready answer part where
  atRest := operating.atRest
  routed := operating.inOperation.wellRouted
  represented := operating.represented
  confirms := operating.confirms

/-- The activation returns, and every order that is sent, alive and not yet being cancelled was
delivered as one cancel. -/
def Completes
    (answers : Option AccountId → ExecutionRequest → Except Failure ExecutionReport)
    (caps : UpperCase) (session : RuntimeSafetySession)
    (command : RuntimeKillSwitchCommand) : Prop :=
  ∃ evidence after, (activateKillSwitch answers caps command).run session = .ok evidence after ∧
    ∀ account ∈ session.accounts,
      CancelsDelivered (session.partition account) (after.partition account)

theorem completes_iff (caps : UpperCase) (cancels : command.cancelActiveOrders = true)
    (operating : ∀ account ∈ session.accounts,
      Operating (answers account) (session.partition account)) :
    Completes answers caps session command ↔ session.EveryActiveCancellable :=
  (activateKillSwitch_ends caps cancels fun account mem =>
    (operating account mem).ready).returns_iff

/-- An activation that is to cancel active orders returns, with one cancel delivered for each of
them, exactly when every order of every partition that is not terminal is sent, accepted or
partially filled. -/
theorem activateKillSwitch_completes_iff
    (answers : Option AccountId → ExecutionRequest → Except Failure ExecutionReport)
    (caps : UpperCase) (session : RuntimeSafetySession)
    (command : RuntimeKillSwitchCommand) (cancels : command.cancelActiveOrders = true)
    (operating : ∀ account ∈ session.accounts,
      Operating (answers account) (session.partition account)) :
    Completes answers caps session command ↔
      ∀ account ∈ session.accounts,
        ∀ order ∈ (session.partition account).orderManager.manager.orders.values,
          order.state ∉ terminalOrderStates →
            order.state = .sent ∨ order.state = .accepted ∨ order.state = .partiallyFilled := by
  rw [completes_iff caps cancels operating]
  refine forall₂_congr fun account mem => ?_
  simp only [mem_activeOrdersOf, and_imp, cancellableStates, mem_cons, not_mem_nil, or_false]

theorem simulated_confirms (adapter : SimulatedExecutionAdapter) {brokerOrderId : String}
    (visible : isBlank brokerOrderId = false) (orderId : OrderId)
    (accountId : AccountId) (strategyId : StrategyId) (metadata : OrderRouteMetadata) :
    ∃ report,
      adapter.answer (.cancel orderId brokerOrderId accountId strategyId metadata) = .ok report ∧
        Confirms brokerOrderId report := by
  let fields : ExecutionReportFields := {
    reportId := brokerOrderId ++ "-cancel-1"
    brokerOrderId
    status := .cancelled }
  have valid : Check.firstFailure fields.checks = none :=
    ExecutionReportFields.valid_of_not_rejected (isBlank_append_of_left visible _)
      visible le_rfl le_rfl le_rfl nofun
  refine ⟨⟨fields, valid⟩, ?_, rfl, rfl, rfl⟩
  change (ExecutionReport.create fields).mapError Failure.valueError = _
  rw [ExecutionReport.create_ok valid]
  rfl

theorem simulated_confirmsCancels (adapter : SimulatedExecutionAdapter)
    (actor : OrderManagerActor) : ConfirmsCancels adapter.answer actor := by
  intro target of cancellable
  obtain ⟨brokerOrderId, has, visible⟩ := CancelTarget.Of.sent of cancellable
  unfold ConfirmsTarget CancelTarget.request
  rw [has]
  exact simulated_confirms adapter visible _ _ _ _

def partitionAfter (deliveries : List OrderManagerDelivery) (executed : Nat) :
    AccountPartition where
  orderManager := final deliver (idle (some unitAccount) .empty "USD" false) deliveries
  executed := executed
  account := .init .empty (some unitAccount)

def sessionOver (part : AccountPartition) : RuntimeSafetySession where
  runId := "run-1"
  runtimeState := "running"
  primary := some unitAccount
  distinct := nodup_singleton _
  partition := fun _ => part

def drill : RuntimeKillSwitchCommand where
  operatorId := "operator-1"
  reason := "drill"
  valid := by decide

def submitOther : SubmitOrder :=
  { submitTwo with
    intent := {
      orderId := ⟨⟨"order-2", Eq.refl false⟩⟩
      instrumentId := ⟨⟨"ES", Eq.refl false⟩⟩
      side := .buy
      quantity := 2
      accountId := some unitAccount
      valid := by decide +kernel }
    brokerOrderId := "broker-2" }

/-- Two orders were sent, and the broker failed on the cancel of the first one. -/
def openCancel : List OrderManagerDelivery :=
  [.message (.submit submitTwo), .message (.submit submitOther),
   .message (.cancel (cancelMessage submitTwo.intent.orderId submitTwo.routeMetadata))]

def openCancelCommands : List OrderManagerCommand :=
  [.createOrder submitTwo.intent submitTwo.riskDecision,
   .markSent submitTwo.intent.orderId submitTwo.brokerOrderId,
   .createOrder submitOther.intent submitOther.riskDecision,
   .markSent submitOther.intent.orderId submitOther.brokerOrderId,
   .requestCancel { orderId := submitTwo.intent.orderId }]

theorem represented_of_unused {commands : List OrderManagerCommand}
    (unused : EveryStep OrderManager.step OrderManager.IdsUnused .init commands) :
    (final OrderManager.step .init commands).Representation := by
  have sound : (final OrderManager.step .init commands).Sound :=
    final_invariant_of_everyStep (fun _ _ sound unused => sound.step unused)
      OrderManager.init_sound unused
  exact sound.representation

/-- The broker fails on every cancel of the first order. -/
def failingFirst (req : ExecutionRequest) : Except Failure ExecutionReport :=
  if req.cancels submitTwo.intent.orderId then .error (.other "broker unavailable")
  else answer {} req

theorem openCancel_operating :
    Operating failingFirst (partitionAfter openCancel 3) where
  inOperation := ⟨_, openCancel, rfl, rfl⟩
  represented := by
    have ran : (partitionAfter openCancel 3).orderManager.manager =
        final OrderManager.step .init openCancelCommands := rfl
    rw [ran]
    exact represented_of_unused (by decide +kernel)
  atRest := ⟨rfl, rfl, rfl⟩
  confirms := by
    intro target of cancellable
    have requested : ((partitionAfter openCancel 3).orderManager.manager.orders.get?
        submitTwo.intent.orderId).map (·.state) = some .cancelRequested := by
      decide +kernel
    have ne : target.1.orderId ≠ submitTwo.intent.orderId := by
      intro same
      rw [← same, of.tracked] at requested
      rw [show target.1.state = .cancelRequested from Option.some.inj requested] at cancellable
      exact absurd cancellable (by decide)
    obtain ⟨report, answered, confirmed⟩ :=
      simulated_confirmsCancels {} _ target of cancellable
    have passed : failingFirst target.request = answer {} target.request :=
      if_neg (by simpa [CancelTarget.request, ExecutionRequest.cancels] using ne)
    exact ⟨report, passed.trans answered, confirmed⟩

theorem openCancel_operating_each :
    ∀ account ∈ (sessionOver (partitionAfter openCancel 3)).accounts,
      Operating failingFirst
        ((sessionOver (partitionAfter openCancel 3)).partition account) :=
  fun _ _ => openCancel_operating

theorem activateKillSwitch_completes_iff_openCancel :
    Completes (fun _ => failingFirst) .ascii
        (sessionOver (partitionAfter openCancel 3)) drill ↔
      ∀ account ∈ (sessionOver (partitionAfter openCancel 3)).accounts,
        ∀ order ∈ ((sessionOver (partitionAfter openCancel 3)).partition
            account).orderManager.manager.orders.values,
          order.state ∉ terminalOrderStates →
            order.state = .sent ∨ order.state = .accepted ∨ order.state = .partiallyFilled :=
  activateKillSwitch_completes_iff (fun _ => failingFirst) .ascii
    (sessionOver (partitionAfter openCancel 3)) drill rfl openCancel_operating_each

/-- One order whose cancel is open keeps the activation from cancelling the other one. -/
theorem openCancel_incomplete :
    ¬ ∀ answers caps session command, command.cancelActiveOrders = true →
      (∀ account ∈ session.accounts, Operating (answers account) (session.partition account)) →
          Completes answers caps session command := by
  intro complete
  have completed := complete (fun _ => failingFirst) .ascii
    (sessionOver (partitionAfter openCancel 3)) drill rfl openCancel_operating_each
  rw [completes_iff .ascii rfl openCancel_operating_each] at completed
  have refused : ¬ (sessionOver (partitionAfter openCancel 3)).EveryActiveCancellable := by
    unfold EveryActiveCancellable
    decide +kernel
  exact refused completed

end RuntimeSafetySession

end Qts
