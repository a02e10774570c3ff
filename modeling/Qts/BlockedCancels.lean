import Qts.KillSwitchActivation

/-! # Cancels that block others -/

namespace Qts

open AccountPartition RuntimeSafetySession List
open EStateM (run_bind run_get run_modify run_pure)

namespace CancelIntentRouter

open OrderManager OrderManagerActor RaisingCalls
open RuntimeSafetySession (cancelMessage)
open AccountPartition (ConfirmSome ConfirmsTarget)

def tracks (actor : OrderManagerActor) (orderId : OrderId) : Bool :=
  (actor.manager.orders.get? orderId).isSome

def knownIds (actor : OrderManagerActor) (orderIds : List OrderId) : List OrderId :=
  orderIds.filter fun orderId => (actor.routeMetadata.get? orderId).isSome

def walked (actor : OrderManagerActor) : List OrderId → Option (List OrderId)
  | [] => some []
  | [orderId] => if tracks actor orderId then some [orderId] else none
  | orderId :: next :: rest =>
    if tracks actor orderId then (walked actor (next :: rest)).map (orderId :: ·)
    else walked actor rest

variable {base actor : OrderManagerActor} {target : CancelTarget} {orderId : OrderId}
  {done total : List CancelTarget} {orderIds rest : List OrderId}

theorem walked_tracked (tracked : tracks base orderId = true) (rest : List OrderId) :
    walked base (orderId :: rest) = (walked base rest).map (orderId :: ·) := by
  cases rest with
  | nil => simp only [walked, tracked, if_true, Option.map_some]
  | cons next rest => simp only [walked, tracked, if_true]

theorem walked_compacted (compacted : tracks base orderId = false) (next : OrderId)
    (rest : List OrderId) : walked base (orderId :: next :: rest) = walked base rest := by
  simp only [walked, compacted, Bool.false_eq_true, if_false]

theorem walked_compacted_last (compacted : tracks base orderId = false) :
    walked base [orderId] = none := by
  simp only [walked, compacted, Bool.false_eq_true, if_false]

theorem knownIds_cons_known (known : (base.routeMetadata.get? orderId).isSome = true)
    (rest : List OrderId) : knownIds base (orderId :: rest) = orderId :: knownIds base rest :=
  filter_cons_of_pos known

theorem knownIds_cons_unknown (unknown : base.routeMetadata.get? orderId = none)
    (rest : List OrderId) : knownIds base (orderId :: rest) = knownIds base rest :=
  filter_cons_of_neg (by rw [unknown]; exact Bool.false_ne_true)

structure Requested (base : OrderManagerActor) (done : List CancelTarget) : Prop where
  routed : WellRouted base
  of : ∀ target ∈ done, target.Of base
  distinct : Distinct done

theorem Requested.formed (requested : Requested base done) :
    (requestedAll base done).manager.WellFormed :=
  requestedAll_wellFormed requested.distinct requested.routed.formed requested.of

theorem requestedAll_accountId (actor : OrderManagerActor) (targets : List CancelTarget) :
    (requestedAll actor targets).accountId = actor.accountId := by
  induction targets generalizing actor with
  | nil => rfl
  | cons target targets ih => exact ih (requested actor target)

theorem cancel_compacted (requested : Requested base done) (compacted : tracks base orderId = false)
    (metadata : OrderRouteMetadata) :
    (handle (.cancel (cancelMessage orderId metadata))).run (requestedAll base done) =
      .error (.order (.keyError orderId)) (requestedAll base done) := by
  have missing : base.manager.orders.get? orderId = none :=
    Option.not_isSome_iff_eq_none.mp (Bool.not_eq_true _ ▸ compacted)
  have other : ∀ target ∈ done, orderId ≠ target.1.orderId := by
    rintro target mem rfl
    cases missing.symm.trans (requested.of target mem).tracked
  have untracked : (requestedAll base done).manager.orders.get? orderId = none :=
    (requestedAll_other other).trans missing
  change (handleCancel (cancelMessage orderId metadata)).run _ = _
  rw [handleCancel, bind_run_error]
  change (checkRoute orderId _ _ _).run _ = _
  rw [checkRoute, bind_run_error (onManager_error (getOrder_untracked untracked))]

theorem cancel_requested (requested : Requested base done) (of : target.Of base)
    (cancellable : target.1.state ∈ cancellableStates)
    (fresh : ∀ other ∈ done, target.1.orderId ≠ other.1.orderId) :
    (handle target.message).run (requestedAll base done) =
      .ok () (requestedAll base (done ++ [target])) := by
  have ends := handleCancel_ends requested.formed (of.requestedAll fresh)
  cases ran : (handle target.message).run (requestedAll base done) with
  | ok value after =>
    rw [requestedAll_append]
    exact congrArg _ (ends.of_run ran).2
  | error failure after => exact absurd cancellable (ends.of_raise ran)

variable {metadata : OrderRouteMetadata} {order : Order}

theorem handleCancel_refused (formed : actor.manager.WellFormed)
    (tracked : actor.manager.orders.get? orderId = some order)
    (captured : actor.routeMetadata.get? orderId = some metadata)
    (onRoute : OnRoute actor.accountId metadata order) (refused : order.state ∉ cancellableStates) :
    ∃ failure, (handle (.cancel (cancelMessage orderId metadata))).run actor =
      .error failure actor ∧ failure.raisedAs.isKeyError = false := by
  change ∃ failure, (handleCancel (cancelMessage orderId metadata)).run actor = _ ∧ _
  have checked : (checkRoute (cancelMessage orderId metadata).intent.orderId
      (cancelMessage orderId metadata).accountId (cancelMessage orderId metadata).routeMetadata
      "cancel").run actor = .ok order actor :=
    checkRoute_tracked tracked captured onRoute "cancel"
  rw [handleCancel, bind_run_ok checked]
  cases order.brokerOrderId with
  | none => exact ⟨_, rfl, rfl⟩
  | some brokerOrderId =>
    have next := nextState_cancelRequested.trans (if_neg refused)
    exact ⟨_, bind_run_error (onManager_error (advance_refused formed tracked next none)), rfl⟩

section

variable (requested : Requested base done) (tracked : base.manager.orders.get? orderId = some order)
  (captured : base.routeMetadata.get? orderId = some metadata)

include requested tracked captured

theorem Requested.onRoute : OnRoute base.accountId metadata order := by
  obtain ⟨⟨found, route, onRoute⟩, -⟩ := requested.routed.each orderId order tracked
  obtain rfl := Option.mem_unique captured route
  exact onRoute

theorem Requested.cancelTarget (cancellable : order.state ∈ cancellableStates) :
    CancelTarget.Of base (order, metadata) := by
  have key : order.orderId = orderId := requested.routed.formed.key orderId order tracked
  subst key
  refine ⟨tracked, captured, requested.onRoute tracked captured,
    (requested.routed.each order.orderId order tracked).dispatched, ?_⟩
  intro terminal
  simp only [cancellableStates, mem_cons, not_mem_nil, or_false] at cancellable
  rcases cancellable with state | state | state
  all_goals
    change order.state ∈ terminalOrderStates at terminal
    rw [state] at terminal
    exact absurd terminal (by decide)

theorem cancel_refused
    (refused : order.state ∉ cancellableStates ∨ ∃ other ∈ done, orderId = other.1.orderId) :
    ∃ failure, (handle (.cancel (cancelMessage orderId metadata))).run (requestedAll base done) =
      .error failure (requestedAll base done) ∧ failure.raisedAs.isKeyError = false := by
  have onRoute := requested.onRoute tracked captured
  rw [← requestedAll_accountId base done] at onRoute
  have route : (requestedAll base done).routeMetadata.get? orderId = some metadata := by
    rw [requestedAll_routeMetadata]
    exact captured
  by_cases again : ∃ other ∈ done, orderId = other.1.orderId
  · obtain ⟨other, mem, rfl⟩ := again
    obtain rfl := Option.some.inj (tracked.symm.trans (requested.of other mem).tracked)
    exact handleCancel_refused requested.formed (requestedAll_target requested.distinct mem)
      route onRoute (show OrderState.cancelRequested ∉ cancellableStates by decide)
  · have kept : (requestedAll base done).manager.orders.get? orderId = some order :=
      (requestedAll_other fun other mem same => again ⟨other, mem, same⟩).trans tracked
    exact handleCancel_refused requested.formed kept route onRoute
      (refused.resolve_right again)

end

structure Passed (base : OrderManagerActor) (done : List CancelTarget) (orderIds : List OrderId)
    (total : List CancelTarget) : Prop where
  handled : ∃ targets, total = done ++ targets ∧
    walked base orderIds = some (targets.map fun target => target.1.orderId) ∧
    ∀ target ∈ targets, target.Of base ∧ target.1.state ∈ cancellableStates
  distinct : Distinct total

theorem passed_nil : Passed base done [] total ↔ total = done ∧ Distinct done := by
  constructor
  · rintro ⟨⟨targets, rfl, walks, -⟩, distinct⟩
    obtain rfl := map_eq_nil_iff.mp (Option.some.inj walks).symm
    rw [append_nil] at distinct ⊢
    exact ⟨rfl, distinct⟩
  · rintro ⟨rfl, distinct⟩
    exact ⟨⟨[], (append_nil _).symm, rfl, fun _ mem => absurd mem not_mem_nil⟩,
      distinct⟩

theorem CancelTarget.Of.eq_of_orderId {other : CancelTarget} (of : target.Of base)
    (ofOther : other.Of base) (same : other.1.orderId = target.1.orderId) : other = target := by
  have orders := ofOther.tracked
  have routes := ofOther.route
  rw [same] at orders routes
  exact Prod.ext (Option.mem_unique orders of.tracked)
    (Option.mem_unique routes of.route)

theorem CancelTarget.Of.tracks (of : target.Of base) :
    CancelIntentRouter.tracks base target.1.orderId = true := by
  rw [CancelIntentRouter.tracks, of.tracked]
  rfl

theorem passed_cons (of : target.Of base) (cancellable : target.1.state ∈ cancellableStates) :
    Passed base done (target.1.orderId :: rest) total ↔
      Passed base (done ++ [target]) rest total := by
  constructor
  · rintro ⟨⟨targets, rfl, walks, good⟩, distinct⟩
    rw [walked_tracked (CancelTarget.Of.tracks of)] at walks
    obtain ⟨later, walksLater, ids⟩ := Option.map_eq_some_iff.mp walks
    obtain ⟨first, targets, rfl, same, rfl⟩ := map_eq_cons_iff.mp ids.symm
    obtain rfl := CancelTarget.Of.eq_of_orderId of (good first mem_cons_self).1 same
    exact ⟨⟨targets, append_cons _ _ _, walksLater,
      fun other mem => good other (mem_cons_of_mem _ mem)⟩, distinct⟩
  · rintro ⟨⟨targets, rfl, walks, good⟩, distinct⟩
    rw [← append_cons] at distinct ⊢
    refine ⟨⟨target :: targets, rfl, ?_, forall_mem_cons.mpr ⟨⟨of, cancellable⟩, good⟩⟩, distinct⟩
    rw [walked_tracked (CancelTarget.Of.tracks of), walks]
    rfl

theorem not_passed_refused (tracked : base.manager.orders.get? orderId = some order)
    (refused : order.state ∉ cancellableStates ∨ ∃ other ∈ done, orderId = other.1.orderId) :
    ¬ Passed base done (orderId :: rest) total := by
  rintro ⟨⟨targets, rfl, walks, good⟩, distinct⟩
  have found : tracks base orderId = true := by
    rw [tracks, tracked]
    rfl
  rw [walked_tracked found] at walks
  obtain ⟨later, -, ids⟩ := Option.map_eq_some_iff.mp walks
  obtain ⟨first, targets, rfl, rfl, rfl⟩ := map_eq_cons_iff.mp ids.symm
  obtain ⟨of, cancellable⟩ := good first mem_cons_self
  obtain rfl := Option.mem_unique tracked of.tracked
  rcases refused with closed | ⟨other, mem, same⟩
  · exact closed cancellable
  · rw [Distinct, map_append, map_cons] at distinct
    exact (nodup_append.mp distinct).2.2 _ (mem_map_of_mem mem) _ mem_cons_self
      same.symm

theorem passed_compacted (compacted : tracks base orderId = false) (next : OrderId) :
    Passed base done (orderId :: next :: rest) total ↔ Passed base done rest total := by
  constructor <;> rintro ⟨⟨targets, split, walks, good⟩, distinct⟩
  · rw [walked_compacted compacted] at walks
    exact ⟨⟨targets, split, walks, good⟩, distinct⟩
  · rw [← walked_compacted compacted next] at walks
    exact ⟨⟨targets, split, walks, good⟩, distinct⟩

theorem not_passed_compacted (compacted : tracks base orderId = false) :
    ¬ Passed base done [orderId] total := by
  rintro ⟨⟨targets, -, walks, -⟩, -⟩
  rw [walked_compacted_last compacted] at walks
  cases walks

def requestedWith (start : CancelRouting) (done : List CancelTarget)
    (mailbox : List OrderManagerEnvelope) : CancelRouting :=
  { start with
    orderManager := requestedAll start.orderManager done
    mailbox }

/-- What can wait in the mailbox, and the ids that the walk has ahead of it for that: a question
that will raise stands for a compacted order. -/
inductive Pending (base : OrderManagerActor) : List OrderManagerEnvelope → List OrderId → Prop
  | nothing : Pending base [] []
  | cancel (intent : CancelIntent) (metadata : OrderRouteMetadata)
      (captured : base.routeMetadata.get? intent.orderId = some metadata) :
      Pending base [.tell (.cancel (cancelOrder intent metadata))] [intent.orderId]
  | answered (orderId : OrderId) (known : (base.routeMetadata.get? orderId).isSome = true) :
      Pending base [.askRoute orderId] []
  | unanswered (orderId compacted : OrderId) (unknown : base.routeMetadata.get? orderId = none)
      (untracked : tracks base compacted = false) : Pending base [.askRoute orderId] [compacted]

variable {start : CancelRouting} {mailbox more : List OrderManagerEnvelope} {ahead : List OrderId}

/-- What draining the waiting envelopes does before it comes to those behind them. -/
inductive Drained (start : CancelRouting) (done : List CancelTarget) (ahead : List OrderId)
    (more : List OrderManagerEnvelope) : EStateM.Result Failure CancelRouting Unit → Prop
  | kept (nothing : ahead = []) :
      Drained start done ahead more ((processEnvelopes more).run (requestedWith start done more))
  | requested (target : CancelTarget) (first : ahead = [target.1.orderId])
      (of : target.Of start.orderManager) (cancellable : target.1.state ∈ cancellableStates)
      (fresh : ∀ other ∈ done, target.1.orderId ≠ other.1.orderId) :
      Drained start done ahead more
        ((processEnvelopes more).run (requestedWith start (done ++ [target]) more))
  | compacted (orderId : OrderId) (first : ahead = [orderId])
      (untracked : tracks start.orderManager orderId = false) (failure : Failure)
      (keyError : failure.isKeyError = true) :
      Drained start done ahead more (.error failure (requestedWith start done more))
  | refused (orderId : OrderId) (first : ahead = [orderId]) (order : Order)
      (tracked : start.orderManager.manager.orders.get? orderId = some order)
      (closed : order.state ∉ cancellableStates ∨ ∃ other ∈ done, orderId = other.1.orderId)
      (failure : Failure) (other : failure.isKeyError = false) :
      Drained start done ahead more (.error failure (requestedWith start done more))

variable {after : CancelRouting}

theorem processEnvelopes_ok {envelope : OrderManagerEnvelope}
    (handled : (handleEnvelope envelope).run { start with mailbox := more } = .ok () after) :
    (processEnvelopes (envelope :: more)).run start = (processEnvelopes more).run after := by
  rw [processEnvelopes, run_bind, run_modify]
  exact bind_run_ok handled

theorem processEnvelopes_error {envelope : OrderManagerEnvelope} {failure : Failure}
    (handled : (handleEnvelope envelope).run { start with mailbox := more } = .error failure after)
    : (processEnvelopes (envelope :: more)).run start = .error failure after := by
  rw [processEnvelopes, run_bind, run_modify]
  exact bind_run_error handled

theorem processEnvelopes_tell_ok {msg : OrderManagerMessage} {next : List CancelTarget}
    (handled : (handle msg).run (requestedAll start.orderManager done) =
      .ok () (requestedAll start.orderManager next)) :
    (processEnvelopes (.tell msg :: more)).run (requestedWith start done mailbox) =
      (processEnvelopes more).run (requestedWith start next more) := by
  have inner : (handleEnvelope (.tell msg)).run (requestedWith start done more) =
      .ok () (requestedWith start next more) := by
    simp only [handleEnvelope, handleMessage, EStateM.run, requestedWith] at handled ⊢
    rw [handled]
  exact processEnvelopes_ok inner

theorem processEnvelopes_tell_error {msg : OrderManagerMessage}
    {failure : OrderManagerActorError}
    (handled : (handle msg).run (requestedAll start.orderManager done) =
      .error failure (requestedAll start.orderManager done)) :
    (processEnvelopes (.tell msg :: more)).run (requestedWith start done mailbox) =
      .error failure.raisedAs (requestedWith start done more) := by
  have inner : (handleEnvelope (.tell msg)).run (requestedWith start done more) =
      .error failure.raisedAs (requestedWith start done more) := by
    simp only [handleEnvelope, handleMessage, EStateM.run, requestedWith] at handled ⊢
    rw [handled]
  exact processEnvelopes_error inner

theorem requestedWith_routeMetadata :
    (requestedWith start done mailbox).orderManager.routeMetadata =
      start.orderManager.routeMetadata :=
  requestedAll_routeMetadata start.orderManager done

theorem routeMetadata_known
    (captured : start.orderManager.routeMetadata.get? orderId = some metadata) :
    (routeMetadata orderId).run (requestedWith start done mailbox) =
      .ok metadata (requestedWith start done mailbox) := by
  simp only [routeMetadata, run_bind, run_get, requestedWith_routeMetadata, captured, run_pure]

theorem routeMetadata_unknown (unknown : start.orderManager.routeMetadata.get? orderId = none) :
    (routeMetadata orderId).run (requestedWith start done mailbox) =
      .error (.keyError orderId.value) (requestedWith start done mailbox) := by
  simp only [routeMetadata, run_bind, run_get, requestedWith_routeMetadata, unknown, throw_run]

theorem processEnvelopes_askRoute_known
    (known : (start.orderManager.routeMetadata.get? orderId).isSome = true) :
    (processEnvelopes (.askRoute orderId :: more)).run (requestedWith start done mailbox) =
      (processEnvelopes more).run (requestedWith start done more) := by
  obtain ⟨metadata, captured⟩ := Option.isSome_iff_exists.mp known
  have inner : (handleEnvelope (.askRoute orderId)).run (requestedWith start done more) =
      .ok () (requestedWith start done more) :=
    bind_run_ok (routeMetadata_known captured)
  exact processEnvelopes_ok inner

theorem processEnvelopes_askRoute_unknown
    (unknown : start.orderManager.routeMetadata.get? orderId = none) :
    (processEnvelopes (.askRoute orderId :: more)).run (requestedWith start done mailbox) =
      .error (.keyError orderId.value) (requestedWith start done more) := by
  have inner : (handleEnvelope (.askRoute orderId)).run (requestedWith start done more) =
      .error (.keyError orderId.value) (requestedWith start done more) :=
    bind_run_error (routeMetadata_unknown unknown)
  exact processEnvelopes_error inner

theorem drain_pending (requested : Requested start.orderManager done)
    (pending : Pending start.orderManager mailbox ahead) (more : List OrderManagerEnvelope) :
    Drained start done ahead more
      ((processEnvelopes (mailbox ++ more)).run (requestedWith start done (mailbox ++ more))) := by
  cases pending with
  | nothing => exact .kept rfl
  | cancel intent metadata captured =>
    have same : handle (.cancel (cancelOrder intent metadata)) =
        handle (.cancel (cancelMessage intent.orderId metadata)) := rfl
    rw [singleton_append]
    cases found : start.orderManager.manager.orders.get? intent.orderId with
    | none =>
      have untracked : tracks start.orderManager intent.orderId = false := by
        rw [tracks, found]
        rfl
      have handled := cancel_compacted requested untracked metadata
      rw [← same] at handled
      rw [processEnvelopes_tell_error handled]
      exact .compacted intent.orderId rfl untracked _ rfl
    | some order =>
      by_cases open_ : order.state ∈ cancellableStates ∧
          ∀ other ∈ done, intent.orderId ≠ other.1.orderId
      · obtain ⟨cancellable, fresh⟩ := open_
        have key := requested.routed.formed.key _ _ found
        have of := requested.cancelTarget found captured cancellable
        rw [← key] at fresh
        have handled := cancel_requested requested of cancellable fresh
        have same : handle (.cancel (cancelOrder intent metadata)) =
            handle (CancelTarget.message (order, metadata)) := by
          change handleCancel (cancelMessage intent.orderId metadata) =
            handleCancel (cancelMessage order.orderId metadata)
          rw [key]
        rw [← same] at handled
        rw [processEnvelopes_tell_ok handled]
        exact .requested (order, metadata) (congrArg (fun id => [id]) key.symm) of cancellable fresh
      · have closed : order.state ∉ cancellableStates ∨
            ∃ other ∈ done, intent.orderId = other.1.orderId := by
          simpa only [not_and_or, not_forall, not_not, exists_prop] using open_
        obtain ⟨failure, handled, other⟩ := cancel_refused requested found captured closed
        rw [← same] at handled
        rw [processEnvelopes_tell_error handled]
        exact .refused intent.orderId rfl order found closed _ other
  | answered orderId known =>
    rw [singleton_append, processEnvelopes_askRoute_known known]
    exact .kept rfl
  | unanswered orderId compacted unknown untracked =>
    rw [singleton_append, processEnvelopes_askRoute_unknown unknown]
    exact .compacted compacted rfl untracked _ rfl

theorem Requested.append (requested : Requested base done) (of : target.Of base)
    (fresh : ∀ other ∈ done, target.1.orderId ≠ other.1.orderId) :
    Requested base (done ++ [target]) where
  routed := requested.routed
  of := by
    intro other mem
    rcases mem_append.mp mem with earlier | last
    · exact requested.of other earlier
    · exact mem_singleton.mp last ▸ of
  distinct := by
    rw [Distinct, map_append, nodup_append]
    refine ⟨requested.distinct, nodup_singleton _, ?_⟩
    rintro _ earlier _ last rfl
    obtain ⟨other, mem, same⟩ := mem_map.mp earlier
    exact fresh other mem ((mem_singleton.mp last).symm.trans same.symm)

/-- What asking for the route of the next intent's order leads to: the ids that can be handled are
those that could be before, or there are none. -/
inductive Asked (start : CancelRouting) (done : List CancelTarget) (ahead : List OrderId)
    (orderId : OrderId) :
    EStateM.Result Failure CancelRouting (Option OrderRouteMetadata) → Prop
  | routed (metadata : OrderRouteMetadata)
      (captured : start.orderManager.routeMetadata.get? orderId = some metadata)
      (next : List CancelTarget) (requested : Requested start.orderManager next)
      (same : ∀ orderIds total, Passed start.orderManager done
            (ahead ++ knownIds start.orderManager (orderId :: orderIds)) total ↔
          Passed start.orderManager next (orderId :: knownIds start.orderManager orderIds) total) :
      Asked start done ahead orderId (.ok (some metadata) (requestedWith start next []))
  | skipped (mailbox : List OrderManagerEnvelope) (behind : List OrderId)
      (pending : Pending start.orderManager mailbox behind)
      (next : List CancelTarget) (requested : Requested start.orderManager next)
      (same : ∀ orderIds total, Passed start.orderManager done
            (ahead ++ knownIds start.orderManager (orderId :: orderIds)) total ↔
          Passed start.orderManager next (behind ++ knownIds start.orderManager orderIds) total) :
      Asked start done ahead orderId (.ok none (requestedWith start next mailbox))
  | raised (failure : Failure) (after : CancelRouting)
      (never : ∀ orderIds total, ¬ Passed start.orderManager done
        (ahead ++ knownIds start.orderManager (orderId :: orderIds)) total) :
      Asked start done ahead orderId (.error failure after)

theorem routeMetadataFor_answered
    (drained : (processEnvelopes (mailbox ++ [.askRoute orderId])).run
      (requestedWith start done (mailbox ++ [.askRoute orderId])) = .ok () after)
    (answered : (routeMetadata orderId).run after = .ok metadata after) :
    (routeMetadataFor orderId).run (requestedWith start done mailbox) =
      .ok (some metadata) after := by
  have asked : (askRouteMetadata orderId).run (requestedWith start done mailbox) =
      .ok metadata after := by
    change (processAll >>= fun _ => routeMetadata orderId).run
      (requestedWith start done (mailbox ++ [.askRoute orderId])) = _
    exact (bind_run_ok drained).trans answered
  have ran : (do
      let metadata ← askRouteMetadata orderId
      return some metadata : RoutingCall (Option OrderRouteMetadata)).run
        (requestedWith start done mailbox) = .ok (some metadata) after := bind_run_ok asked
  change EStateM.tryCatch _ _ _ = _
  simp only [EStateM.run] at ran
  simp only [EStateM.tryCatch, ran]

theorem routeMetadataFor_failed {failure : Failure}
    (drained : (processEnvelopes (mailbox ++ [.askRoute orderId])).run
      (requestedWith start done (mailbox ++ [.askRoute orderId])) = .error failure after) :
    (routeMetadataFor orderId).run (requestedWith start done mailbox) =
      if failure.isKeyError then .ok none after else .error failure after := by
  have asked : (askRouteMetadata orderId).run (requestedWith start done mailbox) =
      .error failure after := by
    change (processAll >>= fun _ => routeMetadata orderId).run
      (requestedWith start done (mailbox ++ [.askRoute orderId])) = _
    exact bind_run_error drained
  have ran : (do
      let metadata ← askRouteMetadata orderId
      return some metadata : RoutingCall (Option OrderRouteMetadata)).run
        (requestedWith start done mailbox) = .error failure after := bind_run_error asked
  change EStateM.tryCatch _ _ _ = _
  simp only [EStateM.run] at ran
  simp only [EStateM.tryCatch, ran]
  cases failure.isKeyError <;> rfl

theorem asked_alone {earlier : List CancelTarget} (requested : Requested start.orderManager done)
    (drained : (processEnvelopes (mailbox ++ [.askRoute orderId])).run
        (requestedWith start earlier (mailbox ++ [.askRoute orderId])) =
      (processEnvelopes [.askRoute orderId]).run (requestedWith start done [.askRoute orderId]))
    (same : ∀ orderIds total, Passed start.orderManager earlier (ahead ++ orderIds) total ↔
      Passed start.orderManager done orderIds total) :
    Asked start earlier ahead orderId
      ((routeMetadataFor orderId).run (requestedWith start earlier mailbox)) := by
  cases captured : start.orderManager.routeMetadata.get? orderId with
  | some metadata =>
    have known : (start.orderManager.routeMetadata.get? orderId).isSome = true := by
      rw [captured]
      rfl
    rw [processEnvelopes_askRoute_known known] at drained
    rw [routeMetadataFor_answered drained (routeMetadata_known captured)]
    refine .routed metadata captured done requested fun orderIds total => ?_
    rw [same, knownIds_cons_known known]
  | none =>
    rw [processEnvelopes_askRoute_unknown captured] at drained
    rw [routeMetadataFor_failed drained]
    refine .skipped [] [] .nothing done requested fun orderIds total => ?_
    rw [same, knownIds_cons_unknown captured]
    rfl

theorem asked_behind {compacted : OrderId} (requested : Requested start.orderManager done)
    (untracked : tracks start.orderManager compacted = false) :
    Asked start done [compacted] orderId
        (.ok none (requestedWith start done [.askRoute orderId])) := by
  cases captured : start.orderManager.routeMetadata.get? orderId with
  | some metadata =>
    have known : (start.orderManager.routeMetadata.get? orderId).isSome = true := by
      rw [captured]
      rfl
    refine .skipped _ [] (.answered orderId known) done requested fun orderIds total => ?_
    rw [knownIds_cons_known known]
    exact passed_compacted untracked orderId
  | none =>
    refine .skipped _ [compacted] (.unanswered orderId compacted captured untracked) done requested
      fun orderIds total => ?_
    rw [knownIds_cons_unknown captured]

theorem routeMetadataFor_asked (requested : Requested start.orderManager done)
    (pending : Pending start.orderManager mailbox ahead) (orderId : OrderId) :
    Asked start done ahead orderId
      ((routeMetadataFor orderId).run (requestedWith start done mailbox)) := by
  have drained := drain_pending requested pending [.askRoute orderId]
  generalize ran : (processEnvelopes (mailbox ++ [.askRoute orderId])).run
    (requestedWith start done (mailbox ++ [.askRoute orderId])) = result at drained
  cases drained with
  | kept nothing =>
    subst nothing
    exact asked_alone requested ran fun orderIds total => Iff.rfl
  | requested target first of cancellable fresh =>
    subst first
    exact asked_alone (requested.append of fresh) ran fun orderIds total =>
      passed_cons of cancellable
  | compacted compacted first untracked failure keyError =>
    subst first
    rw [routeMetadataFor_failed ran, if_pos keyError]
    exact asked_behind requested untracked
  | refused refusedId first order tracked closed failure other =>
    subst first
    rw [routeMetadataFor_failed ran, if_neg (Bool.not_eq_true _ ▸ other)]
    exact .raised failure _ fun orderIds total => not_passed_refused tracked closed

theorem tellCancels_drained (intents : List CancelIntent)
    (requested : Requested start.orderManager done)
    (pending : Pending start.orderManager mailbox ahead) :
    Ends (fun _ after => ∃ total, Passed start.orderManager done
          (ahead ++ knownIds start.orderManager (intents.map CancelIntent.orderId)) total ∧
        after = requestedWith start total [])
      (fun _ _ => ∀ total, ¬ Passed start.orderManager done
        (ahead ++ knownIds start.orderManager (intents.map CancelIntent.orderId)) total)
      (do
        let routed ← tellCancels intents
        processAll
        return routed) (requestedWith start done mailbox) := by
  induction intents generalizing done mailbox ahead with
  | nil =>
    rw [tellCancels, pure_bind, map_nil, knownIds, filter_nil, append_nil]
    have drained := drain_pending requested pending []
    rw [append_nil] at drained
    generalize ran : (processEnvelopes mailbox).run (requestedWith start done mailbox) = result
      at drained
    have all : processAll.run (requestedWith start done mailbox) = result := ran
    cases drained with
    | kept nothing =>
      subst nothing
      exact .of_ok (bind_run_ok all) ⟨done, passed_nil.mpr ⟨rfl, requested.distinct⟩, rfl⟩
    | requested target first of cancellable fresh =>
      subst first
      have next := requested.append of fresh
      exact .of_ok (bind_run_ok all) ⟨done ++ [target],
        (passed_cons of cancellable).mpr (passed_nil.mpr ⟨rfl, next.distinct⟩), rfl⟩
    | compacted orderId first untracked failure keyError =>
      subst first
      exact .of_error (bind_run_error all) fun total => not_passed_compacted untracked
    | refused orderId first order tracked closed failure other =>
      subst first
      exact .of_error (bind_run_error all) fun total => not_passed_refused tracked closed
  | cons intent intents ih =>
    rw [tellCancels, map_cons, bind_assoc]
    have asked := routeMetadataFor_asked requested pending intent.orderId
    generalize ran : (routeMetadataFor intent.orderId).run (requestedWith start done mailbox) =
      result at asked
    cases asked with
    | routed metadata captured next requested same =>
      unfold Ends
      rw [bind_run_ok ran]
      simp only [same, bind_assoc, pure_bind]
      -- The rest of the list answers its ids, to which this one is added.
      have rest := ih requested (.cancel intent metadata captured)
      have longer : ∀ routed : List OrderId, (do
          processAll
          return intent.orderId :: routed : RoutingCall (List OrderId)) = (do
            processAll
            return routed) >>= fun routed => return intent.orderId :: routed := by
        intro routed
        rw [bind_assoc]
        rfl
      simp only [longer]
      rw [← bind_assoc (tellCancels intents)]
      refine ends_modify_bind (rest.bind ?_)
      exact fun routed after passed => Ends.pure passed
    | skipped mailbox behind pending next requested same =>
      unfold Ends
      rw [bind_run_ok ran]
      simp only [same]
      exact ih requested pending
    | raised failure after never =>
      exact .of_error (bind_run_error ran) (never _)

theorem tellCancels_idle (intents : List CancelIntent) (start : CancelRouting)
    (idle : start.mailbox = []) :
    Ends (fun routed after => routed = [] → after = start) (fun _ _ => True)
      (tellCancels intents) start := by
  induction intents with
  | nil => exact Ends.pure fun _ => rfl
  | cons intent intents ih =>
    have same : requestedWith start [] [] = start := by
      rw [requestedWith, ← idle]
      rfl
    rw [tellCancels]
    cases captured : start.orderManager.routeMetadata.get? intent.orderId with
    | some metadata =>
      have known : (start.orderManager.routeMetadata.get? intent.orderId).isSome = true := by
        rw [captured]
        rfl
      have ran : (routeMetadataFor intent.orderId).run (requestedWith start [] []) =
          .ok (some metadata) (requestedWith start [] []) :=
        routeMetadataFor_answered (processEnvelopes_askRoute_known known)
          (routeMetadata_known captured)
      rw [same] at ran
      unfold Ends
      rw [bind_run_ok ran]
      refine ends_modify_bind ?_
      have any : Ends (fun _ _ => True) (fun _ _ => True) (tellCancels intents) { start with
          mailbox := start.mailbox ++ [.tell (.cancel (cancelOrder intent metadata))] } := by
        unfold Ends
        split <;> trivial
      exact any.bind fun routed after _ => Ends.pure nofun
    | none =>
      have ran : (routeMetadataFor intent.orderId).run (requestedWith start [] []) =
          .ok none (requestedWith start [] []) :=
        (routeMetadataFor_failed (processEnvelopes_askRoute_unknown captured)).trans (if_pos rfl)
      rw [same] at ran
      unfold Ends
      rw [bind_run_ok ran]
      exact ih

variable {answer : ExecutionAnswer}

theorem processExecutions_confirms {targets : List CancelTarget}
    (confirms : ∀ target ∈ targets, ConfirmsTarget answer target) :
    Ends (fun _ after => ∃ reports, ConfirmSome targets reports ∧ after = { start with
          mailbox := start.mailbox ++ reports.map fun report => .tell (.report report)
          executed := start.executed + targets.length })
      (fun _ _ => False) (processExecutions answer (targets.map CancelTarget.request)) start := by
  induction targets generalizing start with
  | nil =>
    refine Ends.pure ⟨[], fun _ mem => absurd mem not_mem_nil, ?_⟩
    rw [map_nil, append_nil]
    rfl
  | cons target targets ih =>
    obtain ⟨report, answered, confirmed⟩ := confirms target mem_cons_self
    rw [map_cons, processExecutions]
    refine ends_modify_bind ?_
    rw [answered]
    change Ends _ _ (put (.tell (.report report)) >>= fun _ =>
      processExecutions answer (targets.map CancelTarget.request)) _
    refine ends_modify_bind ?_
    refine (ih fun other mem => confirms other (mem_cons_of_mem _ mem)).mono ?_
    rintro _ _ ⟨reports, some, rfl⟩
    refine ⟨report :: reports, ?_, ?_⟩
    · intro found mem
      cases mem with
      | head => exact ⟨target, mem_cons_self, confirmed⟩
      | tail _ later =>
        obtain ⟨other, among, confirms⟩ := some found later
        exact ⟨other, mem_cons_of_mem _ among, confirms⟩
    · simp only [map_cons, append_assoc, cons_append, nil_append,
        length_cons, Nat.add_assoc, Nat.add_comm 1]

theorem processEnvelopes_reports {reports : List ExecutionReport}
    (formed : start.orderManager.manager.WellFormed)
    (awaited : ∀ report ∈ reports, ∃ brokerOrderId, Confirms brokerOrderId report ∧
      AwaitsCancel start.orderManager.manager brokerOrderId) :
    Ends (fun _ after => Confirmed start.orderManager after.orderManager ∧
        after.executed = start.executed) (fun _ _ => False)
      (processEnvelopes (reports.map fun report => .tell (.report report))) start := by
  induction reports generalizing start with
  | nil => exact Ends.pure ⟨.rfl formed, rfl⟩
  | cons report reports ih =>
    rw [map_cons, processEnvelopes]
    refine ends_modify_bind ?_
    obtain ⟨brokerOrderId, confirms, awaits⟩ := awaited report mem_cons_self
    have taken : Ends (fun _ after => Confirmed start.orderManager after.orderManager ∧
        after.executed = start.executed) (fun _ _ => False)
        (handleEnvelope (.tell (.report report)))
        { start with mailbox := reports.map fun report => .tell (.report report) } := by
      have handled := handleReport_confirms confirms formed awaits
      unfold Ends at handled ⊢
      simp only [handleEnvelope, handleMessage, EStateM.run] at handled ⊢
      split at handled
      · next value next ran =>
        rw [ran]
        exact ⟨handled, rfl⟩
      · next failure next ran => exact handled.elim
    refine taken.bind ?_
    rintro _ after ⟨confirmed, executed⟩
    have later : ∀ other ∈ reports, ∃ brokerOrderId, Confirms brokerOrderId other ∧
        AwaitsCancel after.orderManager.manager brokerOrderId := by
      intro other mem
      obtain ⟨id, confirmsOther, awaitsOther⟩ := awaited other (mem_cons_of_mem _ mem)
      exact ⟨id, confirmsOther, confirmed.awaits awaitsOther⟩
    refine (ih confirmed.formed later).mono ?_
    rintro _ last ⟨confirmedLast, executedLast⟩
    exact ⟨confirmed.trans confirmedLast, executedLast.trans executed⟩

/-- What the router relies on: the order manager has been in operation and its stores agree, the
two mailboxes are drained, and the execution adapter, where the router has it, confirms the cancels
of the orders that can be cancelled. -/
structure RoutingReady (executionRef : Option ExecutionAnswer) (start : CancelRouting) : Prop where
  inOperation : InOperation start.orderManager
  represented : start.orderManager.manager.Representation
  mailbox : start.mailbox = []
  executed : start.executed = start.orderManager.executionRef.length
  confirms : ∀ answer ∈ executionRef, ConfirmsCancels answer start.orderManager

theorem Passed.requested (passed : Passed base [] orderIds total) (routed : WellRouted base) :
    Requested base total := by
  obtain ⟨⟨targets, rfl, -, good⟩, distinct⟩ := passed
  exact ⟨routed, fun target mem => (good target mem).1, distinct⟩

theorem Passed.cancellable (passed : Passed base [] orderIds total) :
    ∀ target ∈ total, target.1.state ∈ cancellableStates := by
  obtain ⟨⟨targets, rfl, -, good⟩, -⟩ := passed
  exact fun target mem => (good target mem).2

theorem executed_ends {executionRef : Option ExecutionAnswer}
    (ready : RoutingReady executionRef start) (mem : answer ∈ executionRef)
    (passed : Passed start.orderManager [] orderIds total) :
    Ends (fun _ after => after.orderManager.executionRef =
        start.orderManager.executionRef ++ total.map CancelTarget.request)
      (fun _ _ => False) (do
        executionProcessAll answer
        processAll) (requestedWith start total []) := by
  have requested := passed.requested ready.inOperation.wellRouted
  have sent : ∀ target ∈ total, ∃ brokerOrderId, target.1.brokerOrderId = some brokerOrderId ∧
      PythonText.isBlank brokerOrderId = false := fun target among =>
    CancelTarget.Of.sent (requested.of target among)
      (passed.cancellable target among)
  have confirms : ∀ target ∈ total, ConfirmsTarget answer target := fun target among =>
    ready.confirms answer mem target (requested.of target among)
      (passed.cancellable target among)
  have waiting : (requestedWith start total []).orderManager.executionRef.drop
      (requestedWith start total []).executed = total.map CancelTarget.request := by
    change (requestedAll start.orderManager total).executionRef.drop start.executed = _
    rw [requestedAll_executionRef, ready.executed, drop_left]
  have executed : Ends (fun _ after => ∃ reports, ConfirmSome total reports ∧ after =
        { requestedWith start total [] with
          mailbox := [] ++ reports.map fun report => .tell (.report report)
          executed := start.executed + total.length })
      (fun _ _ => False) (executionProcessAll answer) (requestedWith start total []) := by
    refine Ends.get ?_
    rw [waiting]
    exact processExecutions_confirms confirms
  refine executed.bind ?_
  rintro _ _ ⟨reports, some, rfl⟩
  have awaited : ∀ report ∈ reports, ∃ brokerOrderId, Confirms brokerOrderId report ∧
      AwaitsCancel (requestedAll start.orderManager total).manager brokerOrderId := by
    intro report among
    obtain ⟨target, targeted, confirmed⟩ := some report among
    obtain ⟨brokerOrderId, has, -⟩ := sent target targeted
    rw [has] at confirmed
    exact ⟨brokerOrderId, confirmed, requestedAll_awaits ready.represented
      requested.of requested.distinct targeted has⟩
  refine Ends.get ((processEnvelopes_reports requested.formed awaited).mono ?_)
  rintro _ after ⟨confirmed, -⟩
  rw [confirmed.executionRef]
  exact requestedAll_executionRef start.orderManager total

theorem route_ends {executionRef : Option ExecutionAnswer}
    (ready : RoutingReady executionRef start) (intents : List CancelIntent) :
    Ends (fun _ after => ∃ total, Passed start.orderManager []
          (knownIds start.orderManager (intents.map CancelIntent.orderId)) total ∧
        after.orderManager.executionRef =
          start.orderManager.executionRef ++ total.map CancelTarget.request)
      (fun _ _ => ∀ total, ¬ Passed start.orderManager []
        (knownIds start.orderManager (intents.map CancelIntent.orderId)) total)
      (route executionRef intents) start := by
  have same : requestedWith start [] [] = start := by
    rw [requestedWith, ← ready.mailbox]
    rfl
  have requested : Requested start.orderManager [] :=
    ⟨ready.inOperation.wellRouted, fun _ mem => absurd mem not_mem_nil, nodup_nil⟩
  have drained := tellCancels_drained intents requested .nothing
  have idle := tellCancels_idle intents start ready.mailbox
  rw [same] at drained
  unfold Ends
  rw [route]
  cases ran : (tellCancels intents).run start with
  | error failure between =>
    rw [bind_run_error ran]
    exact drained.of_raise (bind_run_error ran)
  | ok routed between =>
    rw [bind_run_ok ran]
    have rest := drained
    unfold Ends at rest
    rw [bind_run_ok ran] at rest
    by_cases nothing : routed = []
    · obtain rfl := idle.of_run ran nothing
      have all : processAll.run between = .ok () between := by
        simp only [processAll, run_bind, run_get, ready.mailbox, processEnvelopes, run_pure]
      rw [bind_run_ok all] at rest
      obtain ⟨total, passed, after⟩ := rest
      rw [if_neg (not_not_intro nothing)]
      refine ⟨total, passed, ?_⟩
      have requests := congrArg (fun routing => routing.orderManager.executionRef) after
      exact requests.trans (requestedAll_executionRef between.orderManager total)
    · rw [if_pos nothing]
      cases all : processAll.run between with
      | error failure after =>
        rw [bind_run_error all] at rest ⊢
        exact rest
      | ok value after =>
        rw [bind_run_ok all] at rest ⊢
        obtain ⟨total, passed, rfl⟩ := rest
        cases executionRef with
        | none => exact ⟨total, passed, requestedAll_executionRef start.orderManager total⟩
        | some answer =>
          have executed := executed_ends ready rfl passed
          change Ends _ _ (executionProcessAll answer >>= fun _ => processAll >>= fun _ =>
            pure routed) _
          rw [← bind_assoc]
          refine Ends.bind (executed.mono_failed fun _ _ => False.elim) ?_
          exact fun _ after requests => Ends.pure ⟨total, passed, requests⟩

structure OpenAtBroker (order : Order) : Prop where
  live : order.state ∉ terminalOrderStates
  sent : order.brokerOrderId.isSome
  notCancelling : order.state ≠ .cancelRequested

/-- The router returns, and each listed order that is open at the broker has reached its execution
actor as exactly one cancel. -/
def NoneBlocked (executionRef : Option ExecutionAnswer) (start : CancelRouting)
    (intents : List CancelIntent) : Prop :=
  ∃ routed after, (route executionRef intents).run start = .ok routed after ∧
    ∀ intent ∈ intents, ∀ order,
      start.orderManager.manager.orders.get? intent.orderId = some order → OpenAtBroker order →
        (after.orderManager.executionRef.drop start.orderManager.executionRef.length).countP
          (ExecutionRequest.cancels intent.orderId) = 1

/-- Left out the unknown ids, and each compacted order with the one behind it, the ids are of
different orders that can be cancelled, and no order that is open at the broker was left out. -/
def Unblocked (actor : OrderManagerActor) (orderIds : List OrderId) : Prop :=
  ∃ cancelled, walked actor (knownIds actor orderIds) = some cancelled ∧ cancelled.Nodup ∧
    (∀ orderId ∈ cancelled, ∃ order, actor.manager.orders.get? orderId = some order ∧
      order.state ∈ cancellableStates) ∧
    ∀ orderId ∈ orderIds, ∀ order, actor.manager.orders.get? orderId = some order →
      OpenAtBroker order → orderId ∈ cancelled

theorem exists_targets_of_ids (requested : Requested base []) {cancelled : List OrderId}
    (cancellable : ∀ orderId ∈ cancelled, ∃ order, base.manager.orders.get? orderId = some order ∧
      order.state ∈ cancellableStates) :
    ∃ targets : List CancelTarget, targets.map (fun target => target.1.orderId) = cancelled ∧
      ∀ target ∈ targets, target.Of base ∧ target.1.state ∈ cancellableStates := by
  induction cancelled with
  | nil => exact ⟨[], rfl, fun _ mem => absurd mem not_mem_nil⟩
  | cons orderId cancelled ih =>
    obtain ⟨⟨order, tracked, open_⟩, later⟩ := forall_mem_cons.mp cancellable
    obtain ⟨⟨metadata, captured, -⟩, -⟩ := requested.routed.each orderId order tracked
    obtain ⟨targets, rfl, good⟩ := ih later
    have key := requested.routed.formed.key orderId order tracked
    refine ⟨(order, metadata) :: targets, ?_, forall_mem_cons.mpr
      ⟨⟨requested.cancelTarget tracked captured open_, open_⟩, good⟩⟩
    rw [map_cons, key]

theorem countP_cancels (distinct : Distinct total) (orderId : OrderId) :
    (total.map CancelTarget.request).countP (ExecutionRequest.cancels orderId) = 1 ↔
      orderId ∈ total.map fun target => target.1.orderId := by
  have counted : (total.map CancelTarget.request).countP (ExecutionRequest.cancels orderId) =
      (total.map fun target => target.1.orderId).count orderId := by
    rw [countP_map, List.count, countP_map]
    rfl
  rw [counted]
  constructor
  · exact fun once => count_pos_iff.mp (once ▸ Nat.one_pos)
  · exact fun mem => count_eq_one_of_mem distinct mem

/-- A list of cancel intents is routed without a raise, and each of its orders that is open at the
broker cancelled once, exactly when the list blocks none of them. -/
theorem noneBlocked_iff (executionRef : Option ExecutionAnswer) (start : CancelRouting)
    (ready : RoutingReady executionRef start) (intents : List CancelIntent) :
    NoneBlocked executionRef start intents ↔
      Unblocked start.orderManager (intents.map CancelIntent.orderId) := by
  have ends := route_ends ready intents
  constructor
  · rintro ⟨routed, after, ran, once⟩
    obtain ⟨total, passed, requests⟩ := ends.of_run ran
    obtain ⟨⟨targets, rfl, walks, good⟩, distinct⟩ := passed
    refine ⟨_, walks, distinct, ?_, ?_⟩
    · rintro _ mem
      obtain ⟨target, among, rfl⟩ := mem_map.mp mem
      exact ⟨target.1, (good target among).1.tracked, (good target among).2⟩
    · rintro _ mem order tracked open_
      obtain ⟨intent, among, rfl⟩ := mem_map.mp mem
      have counted := once intent among order tracked open_
      rw [requests, drop_left] at counted
      exact (countP_cancels distinct intent.orderId).mp counted
  · rintro ⟨cancelled, walks, distinct, cancellable, complete⟩
    have requested : Requested start.orderManager [] :=
      ⟨ready.inOperation.wellRouted, fun _ mem => absurd mem not_mem_nil,
        nodup_nil⟩
    obtain ⟨targets, rfl, good⟩ := exists_targets_of_ids requested cancellable
    cases ran : (route executionRef intents).run start with
    | error failure after =>
      exact absurd ⟨⟨targets, rfl, walks, good⟩, distinct⟩ (ends.of_raise ran targets)
    | ok routed after =>
      obtain ⟨total, ⟨⟨same, rfl, walksToo, -⟩, distinctToo⟩, requests⟩ := ends.of_run ran
      refine ⟨routed, after, ran, fun intent among order tracked open_ => ?_⟩
      have mem := complete intent.orderId (mem_map_of_mem among) order tracked open_
      rw [Option.mem_unique walks walksToo] at mem
      rw [requests, drop_left]
      exact (countP_cancels distinctToo intent.orderId).mpr mem

namespace CompactedCancel

def filledTwo : ExecutionReport where
  reportId := "report-1"
  brokerOrderId := "broker-1"
  status := .filled
  filledQuantity := 2
  fillPrice := some 10
  fillId := some "fill-1"
  valid := by decide +kernel

/-- The first order was filled and compacted away, the second one was sent. -/
def deliveries : List OrderManagerDelivery :=
  [.message (.submit submitTwo), .message (.report filledTwo),
    .message (.compactForStreaming [submitTwo.intent.orderId]),
    .message (.submit submitOther)]

def commands : List OrderManagerCommand :=
  [.createOrder submitTwo.intent submitTwo.riskDecision,
    .markSent submitTwo.intent.orderId "broker-1", .processReport filledTwo,
    .discardTerminalOrder submitTwo.intent.orderId,
    .createOrder submitOther.intent submitTwo.riskDecision,
    .markSent submitOther.intent.orderId "broker-2"]

def routing : CancelRouting where
  orderManager := StepRuns.final deliver (idle (some unitAccount) .empty "USD" false) deliveries
  executed := 2

def compacted : CancelIntent where
  orderId := submitTwo.intent.orderId

def sent : CancelIntent where
  orderId := submitOther.intent.orderId

def unknown : CancelIntent where
  orderId := ⟨⟨"order-9", rfl⟩⟩

end CompactedCancel

open CompactedCancel

theorem noneBlocked_iff_unknown :
    NoneBlocked (some (SimulatedExecutionAdapter.answer {})) routing [unknown, sent] := by
  have ready : RoutingReady (some (SimulatedExecutionAdapter.answer {})) routing := {
    inOperation := ⟨_, deliveries, rfl, rfl⟩
    represented := by
      have ran : routing.orderManager.manager =
          StepRuns.final OrderManager.step .init commands := rfl
      rw [ran]
      exact represented_of_unused (by decide +kernel)
    mailbox := rfl
    executed := rfl
    confirms := by
      rintro _ ⟨⟩
      exact simulated_confirmsCancels {} _ }
  refine (noneBlocked_iff _ routing ready [unknown, sent]).mpr
    ⟨[sent.orderId], by decide +kernel, by decide, ?_, ?_⟩
  · intro orderId mem
    obtain rfl := mem_singleton.mp mem
    exact ⟨_, rfl, by decide +kernel⟩
  · intro orderId mem order tracked _
    simp only [map_cons, map_nil, mem_cons, not_mem_nil, or_false] at mem
    rcases mem with rfl | rfl
    · cases tracked
    · exact mem_singleton_self _

/-- A cancel of a compacted order swallows the cancel behind it, and raises where it is the last
one. -/
theorem compacted_cancel_blocks :
    ¬ NoneBlocked (some (SimulatedExecutionAdapter.answer {})) routing [compacted, sent] ∧
      ((route (some (SimulatedExecutionAdapter.answer {})) [compacted, sent]).run routing matches
        .ok [_] _) = true ∧
      raised ((route (some (SimulatedExecutionAdapter.answer {})) [compacted]).run routing) =
        true := by
  refine ⟨?_, by decide +kernel, by decide +kernel⟩
  rintro ⟨routed, after, ran, once⟩
  have ended : after = endState ((route (some (SimulatedExecutionAdapter.answer {}))
      [compacted, sent]).run routing) := by
    rw [ran]
    rfl
  have counted := once sent (by simp) _ rfl ⟨by decide, rfl, by decide⟩
  rw [ended] at counted
  exact absurd counted (by decide +kernel)

end CancelIntentRouter

end Qts
