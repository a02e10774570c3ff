import Qts.CancelRequests
import Qts.MailboxDrains
import Qts.OrderManagerRepresentation

/-! # Cancelling the orders of one account -/

namespace Qts

open List

namespace AccountPartition

open OrderManagerActor RaisingCalls
open RuntimeSafetySession (cancelMessage)

def AllCancellable (targets : List CancelTarget) : Prop :=
  ∀ target ∈ targets, target.1.state ∈ cancellableStates

theorem AllCancellable.nil : AllCancellable [] :=
  fun _ mem => absurd mem not_mem_nil

variable {target : CancelTarget}

theorem allCancellable_cons {targets : List CancelTarget} :
    AllCancellable (target :: targets) ↔
      target.1.state ∈ cancellableStates ∧ AllCancellable targets :=
  forall_mem_cons

theorem allCancellable_append {first second : List CancelTarget} :
    AllCancellable (first ++ second) ↔ AllCancellable first ∧ AllCancellable second :=
  forall_mem_append

variable {partition : AccountPartition} {actor : OrderManagerActor}

theorem processOrders_targets (partition : AccountPartition) {targets : List CancelTarget}
    (distinct : Distinct targets)
    (formed : actor.manager.WellFormed) (of : ∀ target ∈ targets, target.Of actor) :
    Ends (fun _ after => AllCancellable targets ∧
        after = partition.withOrderManager (requestedAll actor targets) [])
      (fun _ _ => ¬ AllCancellable targets)
      (processOrders (targets.map CancelTarget.message))
      (partition.withOrderManager actor (targets.map CancelTarget.message)) := by
  induction targets generalizing actor with
  | nil => exact Ends.pure ⟨AllCancellable.nil, rfl⟩
  | cons target targets ih =>
    rw [map_cons, processOrders]
    refine ends_modify_bind ?_
    have raises : ¬ target.1.state ∈ cancellableStates → ¬ AllCancellable (target :: targets) :=
      fun refused all => refused (allCancellable_cons.mp all).1
    have first := handleOrder_ends partition (targets.map CancelTarget.message)
      (handleCancel_ends formed (of target mem_cons_self))
    refine Ends.bind (first.mono_failed fun _ _ => raises) ?_
    rintro _ _ ⟨_, ⟨cancellable, rfl⟩, rfl⟩
    have later : ∀ other ∈ targets, other.Of (requested actor target) := fun other mem =>
      (of other (mem_cons_of_mem _ mem)).requested (distinct.head other mem)
    have rest := ih distinct.tail (requested_wellFormed formed (of target mem_cons_self))
      later
    refine Ends.mono_failed (rest.mono ?_) ?_
    · rintro _ _ ⟨all, rfl⟩
      exact ⟨allCancellable_cons.mpr ⟨cancellable, all⟩, rfl⟩
    · exact fun _ _ refused all => refused (allCancellable_cons.mp all).2

structure Targets (base : AccountPartition) (targets : List CancelTarget) : Prop where
  formed : base.orderManager.manager.WellFormed
  of : ∀ target ∈ targets, target.Of base.orderManager
  distinct : Distinct targets

/-- Cancels of the targets have been told; the last ones may still wait. -/
def Told (base : AccountPartition) (targets : List CancelTarget) (partition : AccountPartition) :
    Prop :=
  ∃ handled pending, targets = handled ++ pending ∧ AllCancellable handled ∧
    partition = base.withOrderManager (requestedAll base.orderManager handled)
      (pending.map CancelTarget.message)

variable {base : AccountPartition} {targets : List CancelTarget}

theorem Targets.split {handled pending : List CancelTarget}
    (known : Targets base (handled ++ pending)) :
    Targets base handled ∧
      (requestedAll base.orderManager handled).manager.WellFormed ∧
      (∀ target ∈ pending, target.Of (requestedAll base.orderManager handled)) ∧
      Distinct pending := by
  have distinct := known.distinct
  rw [Distinct, map_append, nodup_append] at distinct
  obtain ⟨first, second, apart⟩ := distinct
  have of : ∀ target ∈ handled, target.Of base.orderManager :=
    fun target mem => known.of target (mem_append_left _ mem)
  refine ⟨⟨known.formed, of, first⟩, requestedAll_wellFormed first known.formed of, ?_,
    second⟩
  intro target mem
  refine (known.of target (mem_append_right _ mem)).requestedAll fun other earlier => ?_
  exact (apart _ (mem_map_of_mem earlier) _ (mem_map_of_mem mem)).symm

theorem Told.drain (told : Told base targets partition) (known : Targets base targets) :
    Ends (fun _ after => AllCancellable targets ∧
        after = base.withOrderManager (requestedAll base.orderManager targets) [])
      (fun _ _ => ¬ AllCancellable targets) orderManagerProcessAll partition := by
  obtain ⟨handled, pending, rfl, cancellable, rfl⟩ := told
  obtain ⟨-, formed, of, distinct⟩ := known.split
  have drained := processOrders_targets base distinct formed of
  refine Ends.mono_failed (Ends.mono drained ?_) ?_
  · rintro _ _ ⟨rest, rfl⟩
    rw [requestedAll_append]
    exact ⟨allCancellable_append.mpr ⟨cancellable, rest⟩, rfl⟩
  · exact fun _ _ refused all => refused (allCancellable_append.mp all).2

def tellAll : List OrderId → PartitionCall Unit
  | [] => return
  | orderId :: rest => do
    let metadata ← askRouteMetadata orderId
    tellCancel (cancelMessage orderId metadata)
    tellAll rest

theorem requestedAll_routeMetadata (actor : OrderManagerActor) (targets : List CancelTarget) :
    (requestedAll actor targets).routeMetadata = actor.routeMetadata := by
  induction targets generalizing actor with
  | nil => rfl
  | cons target targets ih => exact ih (requested actor target)

theorem Told.tell (told : Told base targets partition) (known : Targets base (targets ++ [target]))
    :
    Ends (fun _ after => Told base (targets ++ [target]) after)
      (fun _ _ => ¬ AllCancellable (targets ++ [target]))
      (do
        let metadata ← askRouteMetadata target.1.orderId
        tellCancel (cancelMessage target.1.orderId metadata)) partition := by
  have raises : ¬ AllCancellable targets → ¬ AllCancellable (targets ++ [target]) :=
    fun refused all => refused (allCancellable_append.mp all).1
  have route : (requestedAll base.orderManager targets).routeMetadata.get? target.1.orderId =
      some target.2 := by
    rw [requestedAll_routeMetadata]
    exact (known.of target (by simp)).route
  have asked : Ends (fun metadata after => metadata = target.2 ∧ AllCancellable targets ∧
        after = base.withOrderManager (requestedAll base.orderManager targets) [])
      (fun _ _ => ¬ AllCancellable (targets ++ [target]))
      (askRouteMetadata target.1.orderId) partition := by
    refine Ends.bind ((told.drain known.split.1).mono_failed fun _ _ => raises) ?_
    rintro _ _ ⟨cancellable, rfl⟩
    refine Ends.get ?_
    simp only [withOrderManager, route]
    exact Ends.pure ⟨rfl, cancellable, rfl⟩
  refine asked.bind ?_
  rintro metadata _ ⟨rfl, cancellable, rfl⟩
  exact Ends.modify ⟨targets, [target], rfl, cancellable, rfl⟩

theorem tellAll_ends {told rest : List CancelTarget} (start : Told base told partition)
    (known : Targets base (told ++ rest)) :
    Ends (fun _ after => Told base (told ++ rest) after)
      (fun _ _ => ¬ AllCancellable (told ++ rest))
      (tellAll (rest.map fun target => target.1.orderId)) partition := by
  induction rest generalizing told partition with
  | nil =>
    rw [append_nil]
    exact Ends.pure start
  | cons target rest ih =>
    have all : told ++ target :: rest = (told ++ [target]) ++ rest := by simp
    rw [all] at known ⊢
    have raises : ¬ AllCancellable (told ++ [target]) →
        ¬ AllCancellable ((told ++ [target]) ++ rest) :=
      fun refused all => refused (allCancellable_append.mp all).1
    have first := (start.tell known.split.1).mono_failed fun _ _ => raises
    have both := first.bind fun _ _ told => ih told known
    rw [bind_assoc] at both
    exact both

variable {answer : ExecutionRequest → Except Failure ExecutionReport} {refuted : Prop}

def ConfirmsTarget (answer : ExecutionRequest → Except Failure ExecutionReport)
    (target : CancelTarget) : Prop :=
  ∃ report, answer target.request = .ok report ∧
    Confirms (target.1.brokerOrderId.getD "") report

/-- The execution adapter confirms the cancel of each order of the manager that can be cancelled. -/
def ConfirmsCancels (answer : ExecutionRequest → Except Failure ExecutionReport)
    (actor : OrderManagerActor) : Prop :=
  ∀ target : CancelTarget, target.Of actor → target.1.state ∈ cancellableStates →
    ConfirmsTarget answer target

def ConfirmSome (targets : List CancelTarget) (reports : List ExecutionReport) : Prop :=
  ∀ report ∈ reports, ∃ target ∈ targets, Confirms (target.1.brokerOrderId.getD "") report

theorem processExecutions_ends (confirms : ∀ target ∈ targets, ConfirmsTarget answer target) :
    Ends (fun _ after => ∃ reports, ConfirmSome targets reports ∧
        after = partition.executedWith targets.length reports)
      (fun _ _ => refuted)
      (processExecutions answer (targets.map CancelTarget.request)) partition := by
  induction targets generalizing partition with
  | nil =>
    refine Ends.pure ⟨[], fun _ mem => absurd mem not_mem_nil, ?_⟩
    rw [executedWith, map_nil, append_nil]
    rfl
  | cons target targets ih =>
    obtain ⟨report, answered, confirmed⟩ := confirms target mem_cons_self
    rw [map_cons, processExecutions]
    have first : Ends (fun _ after => after = partition.executedWith 1 [report])
        (fun _ _ => refuted) (handleExecution answer target.request) partition :=
      .of_ok (handleExecution_ok answered) rfl
    refine first.bind ?_
    rintro _ _ rfl
    refine (ih fun other mem => confirms other (mem_cons_of_mem _ mem)).mono ?_
    rintro _ _ ⟨reports, some, rfl⟩
    refine ⟨report :: reports, ?_, ?_⟩
    · intro found mem
      cases mem with
      | head => exact ⟨target, mem_cons_self, confirmed⟩
      | tail _ later =>
        obtain ⟨other, among, confirms⟩ := some found later
        exact ⟨other, mem_cons_of_mem _ among, confirms⟩
    · simp only [executedWith, map_cons, map_nil, append_assoc,
        cons_append, nil_append, length_cons, Nat.add_assoc, Nat.add_comm 1]

theorem processOrders_reports (base : AccountPartition) {reports : List ExecutionReport}
    (formed : actor.manager.WellFormed)
    (awaited : ∀ report ∈ reports, ∃ brokerOrderId, Confirms brokerOrderId report ∧
      AwaitsCancel actor.manager brokerOrderId) :
    Ends (fun _ after => ∃ next, Confirmed actor next ∧ after = base.withOrderManager next [])
      (fun _ _ => refuted) (processOrders (reports.map .report))
      (base.withOrderManager actor (reports.map .report)) := by
  induction reports generalizing actor with
  | nil => exact Ends.pure ⟨actor, .rfl formed, rfl⟩
  | cons report reports ih =>
    rw [map_cons, processOrders]
    refine ends_modify_bind ?_
    obtain ⟨brokerOrderId, confirms, awaits⟩ := awaited report mem_cons_self
    have first := handleOrder_ends base (reports.map .report)
      (handleReport_confirms confirms formed awaits)
    refine Ends.bind (first.mono_failed fun _ _ => False.elim) ?_
    rintro _ _ ⟨next, confirmed, rfl⟩
    have later : ∀ other ∈ reports, ∃ brokerOrderId, Confirms brokerOrderId other ∧
        AwaitsCancel next.manager brokerOrderId := by
      intro other mem
      obtain ⟨id, confirmsOther, awaitsOther⟩ := awaited other (mem_cons_of_mem _ mem)
      exact ⟨id, confirmsOther, confirmed.awaits awaitsOther⟩
    refine (ih confirmed.formed later).mono ?_
    rintro _ _ ⟨last, confirmedLast, rfl⟩
    exact ⟨last, confirmed.trans confirmedLast, rfl⟩

structure AtRest (partition : AccountPartition) : Prop where
  orderManagerMailbox : partition.orderManagerMailbox = []
  executed : partition.executed = partition.orderManager.executionRef.length
  applied : partition.applied = partition.orderManager.accountRef.length

/-- The execution actor has taken one cancel for each target, and nothing waits again. -/
structure CancelsTaken (base : AccountPartition) (targets : List CancelTarget)
    (after : AccountPartition) : Prop where
  atRest : AtRest after
  requests : after.orderManager.executionRef =
    base.orderManager.executionRef ++ targets.map CancelTarget.request
  tracked : ∀ orderId, (base.orderManager.manager.orders.get? orderId).isSome →
    (after.orderManager.manager.orders.get? orderId).isSome

theorem requestedAll_awaits (represented : actor.manager.Representation)
    (of : ∀ target ∈ targets, target.Of actor) (distinct : Distinct targets)
    (mem : target ∈ targets) {brokerOrderId : String}
    (has : target.1.brokerOrderId = some brokerOrderId) :
    AwaitsCancel (requestedAll actor targets).manager brokerOrderId := by
  intro orderId order mapped tracked
  rw [(requestedAll_frame actor targets).2] at mapped
  obtain ⟨found, stored, hasFound⟩ := represented.mapped brokerOrderId orderId mapped
  have same : orderId = target.1.orderId := represented.unshared orderId target.1.orderId found
    target.1 brokerOrderId stored (of target mem).tracked hasFound has
  rw [same, requestedAll_target distinct mem] at tracked
  obtain rfl := Option.some.inj tracked
  exact .inl rfl

theorem CancelTarget.Of.sent (of : target.Of actor)
    (cancellable : target.1.state ∈ cancellableStates) :
    ∃ brokerOrderId, target.1.brokerOrderId = some brokerOrderId ∧
      PythonText.isBlank brokerOrderId = false := by
  have dispatched := of.dispatched
  unfold Dispatched at dispatched
  cases has : target.1.brokerOrderId with
  | some brokerOrderId =>
    rw [has] at dispatched
    exact ⟨brokerOrderId, rfl, dispatched⟩
  | none =>
    rw [has] at dispatched
    rcases dispatched with created | rejected
    · rw [created] at cancellable
      exact absurd cancellable (by decide)
    · rw [rejected] at cancellable
      exact absurd cancellable (by decide)

theorem requestedAll_tracked (known : Targets base targets) {orderId : OrderId}
    (tracked : (base.orderManager.manager.orders.get? orderId).isSome) :
    ((requestedAll base.orderManager targets).manager.orders.get? orderId).isSome := by
  by_cases among : ∃ target ∈ targets, orderId = target.1.orderId
  · obtain ⟨target, mem, rfl⟩ := among
    rw [requestedAll_target known.distinct mem]
    rfl
  · rw [requestedAll_other fun target mem same => among ⟨target, mem, same⟩]
    exact tracked

theorem processCancels_ends (caps : PythonText.UpperCase) (atRest : AtRest base)
    (represented : base.orderManager.manager.Representation) (known : Targets base targets)
    (told : Told base targets partition)
    (confirms : AllCancellable targets → ∀ target ∈ targets, ConfirmsTarget answer target) :
    Ends (fun _ after => AllCancellable targets ∧ CancelsTaken base targets after)
      (fun _ _ => ¬ AllCancellable targets) (processCancels answer caps) partition := by
  refine Ends.bind (told.drain known) ?_
  rintro _ _ ⟨cancellable, rfl⟩
  have executed : Ends (fun _ after => ∃ reports, ConfirmSome targets reports ∧
        after = (base.withOrderManager (requestedAll base.orderManager targets) []).executedWith
          targets.length reports)
      (fun _ _ => ¬ AllCancellable targets) (executionProcessAll answer)
      (base.withOrderManager (requestedAll base.orderManager targets) []) := by
    refine Ends.get ?_
    have waiting : (requestedAll base.orderManager targets).executionRef.drop base.executed =
        targets.map CancelTarget.request := by
      rw [requestedAll_executionRef, atRest.executed, drop_left]
    change Ends _ _ (processExecutions answer
      ((requestedAll base.orderManager targets).executionRef.drop base.executed)) _
    rw [waiting]
    exact processExecutions_ends (confirms cancellable)
  refine executed.bind ?_
  rintro _ _ ⟨reports, some, rfl⟩
  have awaited : ∀ report ∈ reports, ∃ brokerOrderId, Confirms brokerOrderId report ∧
      AwaitsCancel (requestedAll base.orderManager targets).manager brokerOrderId := by
    intro report mem
    obtain ⟨target, among, confirmed⟩ := some report mem
    obtain ⟨brokerOrderId, has, -⟩ := CancelTarget.Of.sent (known.of target among)
      (cancellable target among)
    rw [has] at confirmed
    exact ⟨brokerOrderId, confirmed,
      requestedAll_awaits represented known.of known.distinct among has⟩
  have formed := requestedAll_wellFormed known.distinct known.formed known.of
  have drained : Ends (fun _ after => ∃ next,
        Confirmed (requestedAll base.orderManager targets) next ∧
          after = AccountPartition.withOrderManager
            { base with executed := base.executed + targets.length } next [])
      (fun _ _ => ¬ AllCancellable targets) orderManagerProcessAll
      ((base.withOrderManager (requestedAll base.orderManager targets) []).executedWith
        targets.length reports) :=
    processOrders_reports { base with executed := base.executed + targets.length } formed
      awaited
  refine drained.bind ?_
  rintro _ _ ⟨next, confirmed, rfl⟩
  have accountRef : next.accountRef = base.orderManager.accountRef :=
    confirmed.accountRef.trans (requestedAll_frame base.orderManager targets).1
  have requests : next.executionRef =
      base.orderManager.executionRef ++ targets.map CancelTarget.request :=
    confirmed.executionRef.trans (requestedAll_executionRef base.orderManager targets)
  have taken : CancelsTaken base targets
      (AccountPartition.withOrderManager
        { base with executed := base.executed + targets.length } next []) := {
    atRest := {
      orderManagerMailbox := rfl
      executed := by
        change base.executed + targets.length = next.executionRef.length
        rw [requests, atRest.executed, length_append, length_map]
      applied := by
        change base.applied = next.accountRef.length
        rw [accountRef, atRest.applied] }
    requests
    tracked := fun _ tracked => confirmed.tracked (requestedAll_tracked known tracked) }
  have nothing : next.accountRef.drop base.applied = [] := by
    rw [accountRef, atRest.applied, drop_length]
  refine Ends.get ?_
  change Ends _ _ (processFills caps (next.accountRef.drop base.applied)) _
  rw [nothing]
  exact Ends.pure ⟨cancellable, taken⟩

end AccountPartition

inductive OrderManagerEnvelope
  | tell (message : OrderManagerMessage)
  | askRoute (orderId : OrderId)

structure CancelRouting where
  orderManager : OrderManagerActor
  mailbox : List OrderManagerEnvelope := []
  executed : Nat := 0

/-- A call on an order manager and its execution actor; it may raise. -/
abbrev RoutingCall := EStateM Failure CancelRouting

abbrev ExecutionAnswer := ExecutionRequest → Except Failure ExecutionReport

namespace CancelIntentRouter

open OrderManagerActor RaisingCalls

def handleMessage (message : OrderManagerMessage) : RoutingCall Unit := fun routing =>
  match (OrderManagerActor.handle message).run routing.orderManager with
  | .ok _ orderManager => .ok () { routing with orderManager }
  | .error failure orderManager =>
    .error failure.raisedAs { routing with orderManager }

def routeMetadata (orderId : OrderId) : RoutingCall OrderRouteMetadata := do
  match (← get).orderManager.routeMetadata.get? orderId with
  | some metadata => return metadata
  | none => throw (.keyError orderId.value)

def handleEnvelope : OrderManagerEnvelope → RoutingCall Unit
  | .tell message => handleMessage message
  | .askRoute orderId => do
    let _ ← routeMetadata orderId

/-- Drain some envelopes from the front; what is behind a failing one stays. -/
def processEnvelopes : List OrderManagerEnvelope → RoutingCall Unit
  | [] => return
  | envelope :: envelopes => do
    modify fun routing => { routing with mailbox := envelopes }
    handleEnvelope envelope
    processEnvelopes envelopes

/-- `process_all` on the order manager: what it handles tells only the other actors. -/
def processAll : RoutingCall Unit := do
  processEnvelopes (← get).mailbox

def put (envelope : OrderManagerEnvelope) : RoutingCall Unit :=
  modify fun routing => { routing with mailbox := routing.mailbox ++ [envelope] }

def askRouteMetadata (orderId : OrderId) : RoutingCall OrderRouteMetadata := do
  put (.askRoute orderId)
  processAll
  routeMetadata orderId

def routeMetadataFor (orderId : OrderId) : RoutingCall (Option OrderRouteMetadata) :=
  tryCatch (do
    let metadata ← askRouteMetadata orderId
    return some metadata) fun failure =>
      if failure.isKeyError then return none else throw failure

def cancelOrder (intent : CancelIntent) (metadata : OrderRouteMetadata) : CancelOrder :=
  metadata.cancel intent

def tellCancels : List CancelIntent → RoutingCall (List OrderId)
  | [] => return []
  | intent :: intents => do
    match ← routeMetadataFor intent.orderId with
    | none => tellCancels intents
    | some metadata =>
      put (.tell (.cancel (cancelOrder intent metadata)))
      let routed ← tellCancels intents
      return intent.orderId :: routed

/-- Drain the execution actor's mailbox: each answer is told to the order manager. -/
def processExecutions (answer : ExecutionAnswer) : List ExecutionRequest → RoutingCall Unit
  | [] => return
  | request :: requests => do
    modify fun routing => { routing with executed := routing.executed + 1 }
    let report ← orRaise (answer request)
    put (.tell (.report report))
    processExecutions answer requests

def executionProcessAll (answer : ExecutionAnswer) : RoutingCall Unit := do
  let routing ← get
  processExecutions answer (routing.orderManager.executionRef.drop routing.executed)

def route (executionRef : Option ExecutionAnswer) (intents : List CancelIntent) :
    RoutingCall (List OrderId) := do
  let routed ← tellCancels intents
  if routed ≠ [] then
    processAll
    match executionRef with
    | none => pure ()
    | some answer =>
      executionProcessAll answer
      processAll
  return routed

end CancelIntentRouter

end Qts
