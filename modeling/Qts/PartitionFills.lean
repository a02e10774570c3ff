import Qts.CapabilityRefusals
import Qts.MailboxDrains
import Qts.BrokerRejections

/-! # Fills of a partition at rest -/

namespace Qts

open RaisingCalls PythonText StepRuns OrderManager AccountActor List

def SubmitOrder.executionRequest (message : SubmitOrder) : ExecutionRequest :=
  .execute message.intent message.brokerOrderId message.marketPrice message.accountId
    message.strategyId message.routeMetadata message.barTime

namespace OrderManagerActor

open OrderManager RaisingCalls

variable {actor : OrderManagerActor}

variable {start : OrderManagerActor}

theorem discardTerminalOrder_compacts (orderId : OrderId) :
    Keeps (Compacted start) (onManager (discardTerminalOrder orderId)) := by
  intro actor compacted
  have outcome := discardTerminalOrder_outcome actor.manager orderId
  cases ran : (discardTerminalOrder orderId).run actor.manager with
  | error failure manager =>
    rw [ran] at outcome
    rw [onManager_error ran]
    cases outcome <;> exact compacted
  | ok value manager =>
    rw [ran] at outcome
    rw [onManager_ok ran]
    cases outcome with
    | compacted order tracked terminal =>
      refine ⟨fun other found stored => ?_, fun other found stored live => ?_, compacted.fills,
        compacted.requests⟩
      · simp only [endState_ok, discarded, Dict.get?_erase] at stored
        split at stored
        · cases stored
        · exact compacted.kept other found stored
      · have before := compacted.live other found stored live
        have ne : other ≠ orderId := by
          intro same
          rw [same, tracked] at before
          cases before
          exact live terminal
        simp only [endState_ok, discarded, Dict.get?_erase_of_ne _ ne]
        exact before

theorem handle_compacts {message : OrderManagerMessage} (compacts : message.compacts = true) :
    Keeps (Compacted start) (handle message) := by
  cases message with
  | compactForStreaming orderIds =>
    refine Keeps.bind (Keeps.forIn discardTerminalOrder_compacts) fun _ => ?_
    exact Keeps.modify fun _ compacted =>
      ⟨compacted.kept, compacted.live, compacted.fills, compacted.requests⟩
  | _ => cases compacts

end OrderManagerActor

open RaisingCalls

namespace AccountActor

/-- From the first account to the other these fills have been taken, and snapshots have been listed
between them. -/
inductive Took (caps : UpperCase) (start : AccountActor) :
    List ApplyFill → AccountActor → Prop
  | none : Took caps start [] start
  | listed {messages : List ApplyFill} {between next : AccountActor}
      (earlier : Took caps start messages between) (alike : Alike between next) :
      Took caps start messages next
  | applied {messages : List ApplyFill} {message : ApplyFill} {between next : AccountActor}
      (earlier : Took caps start messages between)
      (accepted : Accepted caps between message next) :
      Took caps start (messages ++ [message]) next

variable {caps : UpperCase} {start between next : AccountActor}
  {messages others : List ApplyFill}

theorem Took.trans (first : Took caps start messages between)
    (second : Took caps between others next) : Took caps start (messages ++ others) next := by
  induction second with
  | none =>
    rw [append_nil]
    exact first
  | listed _ alike ih => exact ih.listed alike
  | applied _ accepted ih =>
    rw [← append_assoc]
    exact ih.applied accepted

theorem Took.seen (took : Took caps start messages next) :
    next.fillIds.seen = afterDeliveries ApplyFill.fillId start.fillIds.seen messages := by
  induction took with
  | none => rfl
  | listed _ alike ih => exact alike.fillIds.symm.trans ih
  | applied _ accepted ih =>
    rw [afterDeliveries_append, ← ih]
    cases accepted with
    | repeated old => exact (Finset.insert_eq_of_mem old).symm
    | booked new events holdings cash held settled => rfl

theorem Took.owned {owner : Option AccountId} (took : Took caps start messages next)
    (owned : Owned owner .average start) : Owned owner .average next := by
  induction took with
  | none => exact owned
  | listed _ alike ih =>
    exact ⟨alike.accountId ▸ ih.owner, alike.holdings ▸ ih.method, alike.holdings ▸ ih.uniform⟩
  | applied _ accepted ih => exact accepted.owned ih

theorem Took.nothing (took : Took caps start [] next) : Alike start next := by
  generalize none : ([] : List ApplyFill) = messages at took
  induction took with
  | none => exact .refl start
  | listed _ alike ih =>
    have same := ih none
    exact ⟨same.accountId.trans alike.accountId, same.cash.trans alike.cash,
      same.holdings.trans alike.holdings, same.fillIds.trans alike.fillIds,
      same.positionClosedEvents.trans alike.positionClosedEvents⟩
  | applied _ _ _ => exact absurd none (by simp)

theorem snapshot_alike (actor : AccountActor) : Alike actor actor.snapshot.2 where
  accountId := rfl
  cash := rfl
  holdings := rfl
  fillIds := (FillIdempotencyStore.snapshot_seen actor.fillIds).symm
  positionClosedEvents := rfl

end AccountActor

structure Learned (ids : List String) (before after : Finset String) : Prop where
  kept : before ⊆ after
  fresh : ∀ id ∈ ids, id ∉ before
  known : ∀ id ∈ ids, id ∈ after
  distinct : ids.Nodup

theorem Learned.nothing {before after : Finset String} (kept : before ⊆ after) :
    Learned [] before after :=
  ⟨kept, by simp, by simp, nodup_nil⟩

theorem Learned.trans {first second : List String} {before between after : Finset String}
    (one : Learned first before between) (two : Learned second between after) :
    Learned (first ++ second) before after where
  kept := one.kept.trans two.kept
  fresh id mem := by
    rcases mem_append.mp mem with earlier | later
    · exact one.fresh id earlier
    · exact fun old => two.fresh id later (one.kept old)
  known id mem := by
    rcases mem_append.mp mem with earlier | later
    · exact two.kept (one.known id earlier)
    · exact two.known id later
  distinct := by
    refine nodup_append.mpr ⟨one.distinct, two.distinct, ?_⟩
    rintro id earlier _ later rfl
    exact two.fresh id later (one.known id earlier)

namespace OrderManager

variable (base : OrderManager)

theorem fillsForReport_learns (order : Order) (report : ExecutionReport) :
    Ends (fun fills after => (fills.map (·.fillId)).Sublist report.fillId.toList ∧
        Learned (fills.map (·.fillId)) base.fillIds.seen after.fillIds.seen)
      (fun _ after => base.fillIds.seen ⊆ after.fillIds.seen)
          (fillsForReport order report) base := by
  have outcome := fillsForReport_outcome base order report
  unfold Ends
  generalize (fillsForReport order report).run base = result at outcome ⊢
  cases outcome with
  | noFill nothing => exact ⟨nil_sublist _, .nothing subset_rfl⟩
  | missingPrice carries missing => exact subset_rfl
  | blankId fillId price id priced pos blank => exact subset_rfl
  | knownFill fillId price id priced pos nonblank known =>
    exact ⟨nil_sublist _, .nothing subset_rfl⟩
  | booked fillId price id priced pos nonblank fresh =>
    refine ⟨by simp [id, orderFill], ?_, ?_, ?_, nodup_singleton _⟩
    · exact Finset.subset_insert fillId base.fillIds.seen
    · rintro _ (_ | ⟨_, ⟨⟩⟩)
      exact fresh
    · rintro _ (_ | ⟨_, ⟨⟩⟩)
      exact Finset.mem_insert_self fillId base.fillIds.seen

variable (orderId : OrderId)

theorem getOrder_fillIds :
    Keeps (fun manager => manager.fillIds = base.fillIds) (getOrder orderId) := by
  refine .get fun manager _ => ?_
  split
  · exact .pure _
  · exact .throw _

theorem applyEvent_fillIds (event : OrderEvent) :
    Keeps (fun manager => manager.fillIds = base.fillIds) (applyEvent orderId event) := by
  refine .get fun manager _ => ?_
  split
  · exact .throw _
  · split
    · exact .throw _
    · exact .bind (.modify fun _ same => same) fun _ => .pure _

theorem replaceOrder_fillIds (state : OrderState) (brokerOrderId : Option String) :
    Keeps (fun manager => manager.fillIds = base.fillIds)
      (replaceOrder orderId state brokerOrderId) :=
  (getOrder_fillIds base orderId).bind fun _ => .bind (.modify fun _ same => same) fun _ => .pure _

theorem createOrder_fillIds (intent : OrderIntent) (riskDecision : RiskDecision) :
    Keeps (fun manager => manager.fillIds = base.fillIds) (createOrder intent riskDecision) := by
  unfold createOrder
  split
  · exact .bind (.throw _) fun _ => .bind (.modify fun _ same => same) fun _ => .pure _
  · exact .bind (.modify fun _ same => same) fun _ => .pure _

theorem markSent_fillIds (brokerOrderId : String) :
    Keeps (fun manager => manager.fillIds = base.fillIds) (markSent orderId brokerOrderId) := by
  unfold markSent
  refine .ite (fun _ => .bind (.throw _) fun _ => ?_) fun _ => ?_ <;>
    exact (applyEvent_fillIds base orderId .sent).bind fun state =>
      (replaceOrder_fillIds base orderId state _).bind fun _ =>
        .bind (.modify fun _ same => same) fun _ => .pure _

theorem processReport_learns (report : ExecutionReport) :
    Ends (fun result after => (result.fills.map (·.fillId)).Sublist report.fillId.toList ∧
        Learned (result.fills.map (·.fillId)) base.fillIds.seen after.fillIds.seen)
      (fun _ after => base.fillIds.seen ⊆ after.fillIds.seen) (processReport report) base := by
  have kept {after : OrderManager} (same : after.fillIds = base.fillIds) :
      base.fillIds.seen ⊆ after.fillIds.seen := by rw [same]
  refine .get ?_
  split
  · exact Ends.throw subset_rfl
  refine .get ?_
  split
  · have found := (getOrder_fillIds base ‹OrderId›).ends rfl
    refine (found.mono_failed fun _ _ => kept).bind fun order after same => Ends.pure ?_
    exact ⟨nil_sublist _, .nothing (kept same)⟩
  · have moved := (applyEvent_fillIds base ‹OrderId› (eventForReport report.status)).ends rfl
    refine (moved.mono_failed fun _ _ => kept).bind fun state between same => ?_
    have stored := (replaceOrder_fillIds base ‹OrderId› state none).ends same
    refine (stored.mono_failed fun _ _ => kept).bind fun order after same => ?_
    have seen : after.fillIds.seen = base.fillIds.seen := congrArg (·.seen) same
    refine ends_modify_bind (((fillsForReport_learns _ order report).mono_failed ?_).bind ?_)
    · exact fun _ _ later => seen ▸ later
    · exact fun fills last learned => Ends.pure ⟨learned.1, seen ▸ learned.2⟩

end OrderManager

namespace OrderManagerActor

structure Told (base : OrderManagerActor) (messages : List ApplyFill) (actor : OrderManagerActor) :
    Prop where
  account : actor.accountRef = base.accountRef ++ messages
  fills : actor.fills = base.fills ++ messages.map (·.fill)

variable {base actor : OrderManagerActor} {messages : List ApplyFill}

theorem Told.refl (base : OrderManagerActor) : Told base [] base :=
  ⟨(append_nil _).symm, (append_nil _).symm⟩

structure Quiet (base actor : OrderManagerActor) : Prop where
  told : Told base [] actor
  requests : actor.executionRef = base.executionRef
  fillIds : actor.manager.fillIds = base.manager.fillIds

theorem Quiet.refl (base : OrderManagerActor) : Quiet base base :=
  ⟨.refl base, rfl, rfl⟩

theorem onManager_quiet {Value : Type} {call : ManagerCall Value}
    (keeps : Keeps (fun manager => manager.fillIds = base.manager.fillIds) call) :
    Keeps (Quiet base) (onManager call) :=
  keeps_onManager (fun _ quiet => quiet.fillIds)
    (fun _ _ quiet same => ⟨⟨quiet.told.account, quiet.told.fills⟩, quiet.requests, same⟩) keeps

theorem handleSubmit_tells (base : OrderManagerActor) (message : SubmitOrder) :
    Ends (fun _ after => Told base [] after ∧
        after.executionRef = base.executionRef ++ [message.executionRequest] ∧
        after.manager.fillIds = base.manager.fillIds)
      (fun failure after => failure.raisedAs.Plain ∧ Quiet base after)
      (handle (.submit message)) base := by
  refine Ends.guarded ?_ (raisesPlain_handleSubmit message) trivial
  change Ends _ _ (handleSubmit message) base
  unfold handleSubmit
  split
  · exact Ends.throw (.refl base)
  refine Ends.get ?_
  split
  · exact Ends.throw (.refl base)
  have created := onManager_quiet (createOrder_fillIds base.manager message.intent
    message.riskDecision)
  refine (created.ends (.refl base)).bind fun order next quiet => ?_
  refine ends_modify_bind ?_
  have routed : Quiet base { next with
      routeMetadata := next.routeMetadata.set message.intent.orderId message.routeMetadata } :=
    ⟨⟨quiet.told.account, quiet.told.fills⟩, quiet.requests, quiet.fillIds⟩
  have marked := onManager_quiet (markSent_fillIds base.manager order.orderId message.brokerOrderId)
  refine (marked.ends routed).bind fun _ sent quiet => ?_
  exact Ends.modify ⟨⟨quiet.told.account, quiet.told.fills⟩, congrArg (· ++ _) quiet.requests,
    quiet.fillIds⟩

structure Reports (report : ExecutionReport) (base : OrderManagerActor)
    (messages : List ApplyFill) (actor : OrderManagerActor) : Prop where
  told : Told base messages actor
  requests : actor.executionRef = base.executionRef
  fillIds : (messages.map (·.fill.fillId)).Sublist report.fillId.toList
  learned : Learned (messages.map (·.fill.fillId)) base.manager.fillIds.seen
    actor.manager.fillIds.seen

theorem reportFills_reports (base : OrderManagerActor) (report : ExecutionReport) :
    Ends (fun fills after => Told base [] after ∧ after.executionRef = base.executionRef ∧
        (fills.map (·.fillId)).Sublist report.fillId.toList ∧
        Learned (fills.map (·.fillId)) base.manager.fillIds.seen after.manager.fillIds.seen)
      (fun _ after => Told base [] after ∧ after.executionRef = base.executionRef)
      (reportFills report) base := by
  have handled : (reportFills report).run base =
      handleResult report base ((processReport report).run base.manager) := rfl
  have told {actor : OrderManagerActor} (account : actor.accountRef = base.accountRef)
      (fills : actor.fills = base.fills) : Told base [] actor :=
    ⟨account.trans (append_nil _).symm, fills.trans (append_nil _).symm⟩
  have learns := processReport_learns base.manager report
  unfold Ends at learns ⊢
  rw [handled]
  generalize (processReport report).run base.manager = result at learns ⊢
  cases result with
  | ok result manager =>
    cases foreign : result.fills.any fun fill => foreignTo base.accountId fill.accountId with
    | true =>
      rw [handleResult, if_pos foreign]
      exact ⟨told rfl rfl, rfl, nil_sublist _, .nothing learns.2.kept⟩
    | false =>
      rw [handleResult, if_neg (by rw [foreign]; exact Bool.false_ne_true)]
      exact ⟨told rfl rfl, rfl, learns⟩
  | error failure manager =>
    cases failure with
    | keyError orderId => exact ⟨told rfl rfl, rfl, nil_sublist _, .nothing learns⟩
    | unknownBrokerOrder text id => exact ⟨told rfl rfl, rfl, nil_sublist _, .nothing learns⟩
    | _ => exact ⟨told rfl rfl, rfl⟩

theorem handleReport_tells (base : OrderManagerActor) (report : ExecutionReport) :
    Ends (fun _ after => ∃ messages, Reports report base messages after)
      (fun failure after => failure.raisedAs.Plain ∧
        Told base [] after ∧ after.executionRef = base.executionRef)
      (handle (.report report)) base := by
  refine Ends.guarded ?_ (raisesPlain_handleReport report) trivial
  refine (reportFills_reports base report).bind fun fills after tells => ?_
  obtain ⟨told, requests, fillIds, learned⟩ := tells
  have listed : (fills.map (applyFillMessage after report)).map (·.fill) = fills := by
    rw [map_map]
    exact map_id fills
  have ids : (fills.map (applyFillMessage after report)).map (·.fill.fillId) =
      fills.map (·.fillId) := by
    rw [map_map]
    rfl
  refine Ends.modify ⟨fills.map (applyFillMessage after report), ⟨?_, ?_⟩, requests, ?_, ?_⟩
  · exact congrArg (· ++ _) (told.account.trans (append_nil _))
  · rw [listed]
    exact congrArg (· ++ _) (told.fills.trans (append_nil _))
  · rw [ids]
    exact fillIds
  · rw [ids]
    exact learned

/-- A compaction command tells nothing. -/
theorem handle_compacts_quiet (base : OrderManagerActor) {message : OrderManagerMessage}
    (compacts : message.compacts = true) :
    Keeps (fun actor => actor.accountRef = base.accountRef ∧
      actor.executionRef = base.executionRef) (handle message) :=
  fun _ same =>
    have compacted := handle_compacts compacts _ (.refl _)
    ⟨compacted.fills.trans same.1, compacted.requests.trans same.2⟩

end OrderManagerActor

namespace AccountPartition

open OrderManagerActor

variable {answer : ExecutionRequest → Except Failure ExecutionReport}
  {caps : UpperCase} {partition : AccountPartition}

/-- Only compaction commands wait, and the actors have taken all that they were told. -/
structure Idle (partition : AccountPartition) : Prop where
  waiting : ∀ message ∈ partition.orderManagerMailbox, message.compacts = true
  executed : partition.executed = partition.orderManager.executionRef.length
  applied : partition.applied = partition.orderManager.accountRef.length

/-- A partition comes to rest with these fills taken since an earlier state. -/
structure Booked (caps : UpperCase) (before : AccountPartition)
    (messages : List ApplyFill) (after : AccountPartition) : Prop where
  rest : Idle after
  told : after.orderManager.accountRef = before.orderManager.accountRef ++ messages
  took : Took caps before.account messages after.account

theorem Booked.refl (rest : Idle partition) : Booked caps partition [] partition :=
  ⟨rest, (append_nil _).symm, .none⟩

theorem Booked.trans {before between after : AccountPartition} {first second : List ApplyFill}
    (one : Booked caps before first between) (two : Booked caps between second after) :
    Booked caps before (first ++ second) after where
  rest := two.rest
  told := by rw [two.told, one.told, append_assoc]
  took := one.took.trans two.took

def settledFillIds (partition : AccountPartition) : Finset String :=
  (final OrderManagerActor.step partition.orderManager
    partition.orderManagerMailbox).manager.fillIds.seen

theorem settledFillIds_of_empty (empty : partition.orderManagerMailbox = []) :
    partition.settledFillIds = partition.orderManager.manager.fillIds.seen := by
  rw [settledFillIds, empty, final_nil]

def answeredFillIds (answer : ExecutionRequest → Except Failure ExecutionReport)
    (requests : List ExecutionRequest) : List String :=
  requests.filterMap fun request => (answer request).toOption.bind (·.fillId)

theorem answeredFillIds_append (first second : List ExecutionRequest) :
    answeredFillIds answer (first ++ second) =
      answeredFillIds answer first ++ answeredFillIds answer second :=
  filterMap_append

/-- Some requests were answered, and the account has taken those of the fills answered whose ids
were new to the order manager. -/
structure Executed (answer : ExecutionRequest → Except Failure ExecutionReport)
    (caps : UpperCase) (before : AccountPartition) (requests : List ExecutionRequest)
    (messages : List ApplyFill) (after : AccountPartition) : Prop where
  booked : Booked caps before messages after
  answered : ∀ request ∈ requests, (answer request).isOk = true
  fillIds : (messages.map (·.fill.fillId)).Sublist (answeredFillIds answer requests)
  learned : Learned (messages.map (·.fill.fillId)) before.settledFillIds after.settledFillIds

/-- The execution adapter refused one of some requests, after the earlier ones were answered. -/
def RefusedAt (answer : ExecutionRequest → Except Failure ExecutionReport)
    (caps : UpperCase) (before : AccountPartition) (requests : List ExecutionRequest)
    (failure : Failure) (after : AccountPartition) : Prop :=
  ∃ earlier refused later messages, requests = earlier ++ refused :: later ∧
    answer refused = .error failure ∧ Executed answer caps before earlier messages after

variable {before between after : AccountPartition} {requests others : List ExecutionRequest}
  {messages more : List ApplyFill} {failure : Failure}

theorem Executed.nothing (booked : Booked caps before [] after)
    (same : after.settledFillIds = before.settledFillIds) :
    Executed answer caps before [] [] after :=
  ⟨booked, by simp, nil_sublist _, .nothing (by rw [same])⟩

theorem Executed.refl (rest : Idle partition) : Executed answer caps partition [] [] partition :=
  .nothing (.refl rest) rfl

theorem Executed.trans (one : Executed answer caps before requests messages between)
    (two : Executed answer caps between others more after) :
    Executed answer caps before (requests ++ others) (messages ++ more) after where
  booked := one.booked.trans two.booked
  answered request mem := by
    rcases mem_append.mp mem with earlier | later
    · exact one.answered request earlier
    · exact two.answered request later
  fillIds := by
    rw [map_append, answeredFillIds_append]
    exact one.fillIds.append two.fillIds
  learned := by
    rw [map_append]
    exact one.learned.trans two.learned

theorem RefusedAt.later (executed : Executed answer caps before requests messages between)
    (refused : RefusedAt answer caps between others failure after) :
    RefusedAt answer caps before (requests ++ others) failure after := by
  obtain ⟨earlier, request, later, more, rfl, failed, answered⟩ := refused
  exact ⟨requests ++ earlier, request, later, messages ++ more,
    (append_assoc _ _ _).symm, failed, executed.trans answered⟩

theorem RefusedAt.append (refused : RefusedAt answer caps before requests failure after)
    (others : List ExecutionRequest) :
    RefusedAt answer caps before (requests ++ others) failure after := by
  obtain ⟨earlier, request, later, messages, rfl, failed, answered⟩ := refused
  exact ⟨earlier, request, later ++ others, messages, append_assoc _ _ _, failed, answered⟩

variable {failed : OrderManagerActorError → OrderManagerActor → Prop}
variable {returned : OrderManagerActor → Prop}

theorem handleOrder_tells (partition : AccountPartition) (mailbox : List OrderManagerMessage)
    {actor : OrderManagerActor} {message : OrderManagerMessage}
    (ends : Ends (fun _ after => returned after) failed (OrderManagerActor.handle message) actor) :
    Ends (fun _ after => ∃ next, returned next ∧ after = partition.withOrderManager next mailbox)
      (fun failure after => ∃ raised next, failed raised next ∧ failure = raised.raisedAs ∧
        after = partition.withOrderManager next mailbox)
      (handleOrder message) (partition.withOrderManager actor mailbox) := by
  unfold Ends at ends ⊢
  simp only [handleOrder, EStateM.run, withOrderManager] at ends ⊢
  split at ends
  · next value next ran =>
    rw [ran]
    exact ⟨next, ends, rfl⟩
  · next failure next ran =>
    rw [ran]
    exact ⟨failure, next, ends, rfl, rfl⟩

theorem processOrders_single (partition : AccountPartition) {actor : OrderManagerActor}
    {message : OrderManagerMessage}
    (ends : Ends (fun _ after => returned after) failed (OrderManagerActor.handle message) actor) :
    Ends (fun _ after => ∃ next, returned next ∧ after = partition.withOrderManager next [])
      (fun failure after => ∃ raised next, failed raised next ∧ failure = raised.raisedAs ∧
        after = partition.withOrderManager next [])
      (processOrders [message]) (partition.withOrderManager actor [message]) := by
  rw [processOrders]
  refine ends_modify_bind ?_
  exact (handleOrder_tells partition [] ends).bind fun _ _ holds => Ends.pure holds

/-- A drain of compaction commands tells nothing. -/
theorem processOrders_compacts (partition : AccountPartition) {base actor : OrderManagerActor}
    {messages : List OrderManagerMessage} (compacts : ∀ message ∈ messages, message.compacts = true)
    (same : actor.accountRef = base.accountRef ∧ actor.executionRef = base.executionRef) :
    Ends (fun _ after => ∃ next, (next.accountRef = base.accountRef ∧
          next.executionRef = base.executionRef) ∧
        next = final OrderManagerActor.step actor messages ∧
        after = partition.withOrderManager next [])
      (fun failure _ => failure.Plain)
      (processOrders messages) (partition.withOrderManager actor messages) := by
  induction messages generalizing actor with
  | nil => exact Ends.pure ⟨actor, same, rfl, rfl⟩
  | cons message messages ih =>
    rw [processOrders]
    refine ends_modify_bind ?_
    have compact := compacts message mem_cons_self
    have handled : Ends (fun _ after => (after.accountRef = base.accountRef ∧
          after.executionRef = base.executionRef) ∧ after = (step actor message).2)
        (fun failure _ => failure.raisedAs.Plain) (handle message) actor := by
      have quiet := ((handle_compacts_quiet base compact).ends same).guarded
        (raisesPlain_compaction compact) trivial
      have stepped : (step actor message).2 = endState ((handle message).run actor) :=
        answer_state _ _ _
      unfold Ends at quiet ⊢
      rw [stepped]
      cases ran : (handle message).run actor with
      | ok value after =>
        rw [ran] at quiet
        exact ⟨quiet, rfl⟩
      | error failure after =>
        rw [ran] at quiet
        exact quiet.1
    have first := handleOrder_tells partition messages handled
    refine (first.mono_failed ?_).bind ?_
    · rintro _ _ ⟨raised, _, plain, rfl, _⟩
      exact plain
    · rintro _ _ ⟨next, ⟨keptNext, rfl⟩, rfl⟩
      exact ih (fun other mem => compacts other (mem_cons_of_mem _ mem)) keptNext

theorem processFills_takes (messages : List ApplyFill) :
    Ends (fun _ after => ∃ account, Took caps partition.account messages account ∧
        after = partition.appliedWith messages.length account)
      (fun failure _ => failure.Plain) (processFills caps messages) partition := by
  induction messages generalizing partition with
  | nil => exact Ends.pure ⟨partition.account, .none, rfl⟩
  | cons message messages ih =>
    rw [processFills]
    have first : Ends (fun _ after => ∃ account,
          Accepted caps partition.account message account ∧
          after = partition.appliedWith 1 account)
        (fun failure _ => failure.Plain) (handleFill caps message) partition := by
      unfold Ends
      simp only [handleFill, EStateM.run]
      rcases applied : partition.account.applyFill caps message with ⟨result, account⟩
      cases result with
      | ok value =>
        have accepted := applyFill_accepted
          (show (partition.account.applyFill caps message).1 = .ok () by rw [applied])
        rw [applied] at accepted
        exact ⟨account, accepted, rfl⟩
      | error failure => exact applyFill_plain applied
    refine first.bind ?_
    rintro _ _ ⟨account, accepted, rfl⟩
    refine Ends.mono (@ih (partition.appliedWith 1 account)) ?_
    rintro _ _ ⟨last, took, rfl⟩
    refine ⟨last, (Took.none.applied accepted).trans took, ?_⟩
    simp only [appliedWith, length_cons, Nat.add_assoc, Nat.add_comm 1]

theorem Idle.ask (rest : Idle partition) :
    Ends (fun _ after => Executed answer caps partition [] [] after ∧
        after.orderManagerMailbox = [])
      (fun failure _ => failure.Plain) orderManagerProcessAll partition := by
  refine Ends.get (Ends.mono (processOrders_compacts partition rest.waiting ⟨rfl, rfl⟩) ?_)
  rintro _ _ ⟨next, ⟨told, requests⟩, settled, rfl⟩
  refine ⟨.nothing ⟨⟨fun _ mem => absurd mem not_mem_nil, ?_, ?_⟩, ?_, .none⟩ ?_, rfl⟩
  · exact rest.executed.trans (congrArg List.length requests.symm)
  · exact rest.applied.trans (congrArg List.length told.symm)
  · exact told.trans (append_nil _).symm
  · exact congrArg (fun actor => actor.manager.fillIds.seen) settled

theorem Idle.askFillCount (rest : Idle partition) :
    Ends (fun count after => Executed answer caps partition [] [] after ∧
        after.orderManagerMailbox = [] ∧ count = after.orderManager.fills.length)
      (fun failure _ => failure.Plain) askFillCount partition := by
  refine (@Idle.ask answer caps partition rest).bind ?_
  rintro _ after ⟨executed, empty⟩
  exact Ends.get ⟨executed, empty, rfl⟩

theorem orderManagerProcessAll_empty (empty : partition.orderManagerMailbox = []) :
    Ends (fun _ after => after = partition)
        (fun _ _ => False) orderManagerProcessAll partition := by
  refine Ends.get ?_
  rw [empty]
  exact Ends.pure rfl

theorem askFillsSince_ends (empty : partition.orderManagerMailbox = []) (index : Nat) :
    Ends (fun fills after => after = partition ∧ fills = partition.orderManager.fills.drop index)
      (fun _ _ => False) (askFillsSince index) partition := by
  refine (orderManagerProcessAll_empty empty).bind ?_
  rintro _ _ rfl
  exact Ends.get ⟨rfl, rfl⟩

theorem askOrder_ends (empty : partition.orderManagerMailbox = []) (orderId : OrderId) :
    Ends (fun _ after => after = partition) (fun failure _ => failure.Plain) (askOrder orderId)
      partition := by
  refine ((orderManagerProcessAll_empty empty).mono_failed fun _ _ never => never.elim).bind ?_
  rintro _ _ rfl
  refine Ends.get ?_
  split
  · exact Ends.pure rfl
  · exact Ends.throw (plain_of_not_valueError rfl)

theorem Idle.accountProcessAll (rest : Idle partition) :
    Ends (fun _ after => after = partition) (fun _ _ => False) (accountProcessAll caps)
      partition := by
  refine Ends.get ?_
  rw [rest.applied, drop_length]
  exact Ends.pure rfl

def listed (partition : AccountPartition) : AccountPartition :=
  { partition with account := partition.account.snapshot.2 }

theorem Idle.askAccountSnapshot (rest : Idle partition) :
    Ends (fun snapshot after => snapshot = partition.account.snapshot.1 ∧
        after = partition.listed)
      (fun _ _ => False) (askAccountSnapshot caps) partition := by
  refine (rest.accountProcessAll).bind ?_
  rintro _ _ rfl
  exact Ends.get ⟨rfl, rfl⟩

theorem Idle.books_listed (rest : Idle partition) :
    Booked caps partition [] partition.listed where
  rest := ⟨rest.waiting, rest.executed, rest.applied⟩
  told := (append_nil _).symm
  took := Took.none.listed (snapshot_alike _)

theorem Idle.listed (rest : Idle partition) :
    Executed answer caps partition [] [] partition.listed :=
  .nothing rest.books_listed rfl

theorem tellOrder_executes (rest : Idle partition) (empty : partition.orderManagerMailbox = [])
    (message : SubmitOrder) :
    Ends (fun _ after => after.orderManagerMailbox = [] ∧ ∃ messages,
        Executed answer caps partition [message.executionRequest] messages after ∧
        after.orderManager.fills = partition.orderManager.fills ++ messages.map (·.fill))
      (fun failure after => failure.Plain ∨
        RefusedAt answer caps partition [message.executionRequest] failure after)
      (tellOrder answer caps message) partition := by
  rw [tellOrder]
  refine ends_modify_bind ?_
  rw [empty, nil_append]
  have none : ∀ message ∈ ([] : List OrderManagerMessage), message.compacts = true :=
    fun _ mem => absurd mem not_mem_nil
  -- The submission either stops the order or tells the execution actor one request.
  have submitted := processOrders_single partition
    (handleSubmit_tells partition.orderManager message)
  refine (Ends.get (submitted.mono_failed ?_)).bind ?_
  · rintro _ _ ⟨raised, _, ⟨plain, _⟩, rfl, _⟩
    exact .inl plain
  rintro _ _ ⟨sent, ⟨told, requests, fillIds⟩, rfl⟩
  have unfilled : sent.accountRef = partition.orderManager.accountRef :=
    told.account.trans (append_nil _)
  have one : partition.executed + 1 = sent.executionRef.length := by
    rw [requests, length_append, rest.executed, length_singleton]
  have known : sent.manager.fillIds.seen = partition.settledFillIds := by
    rw [settledFillIds_of_empty empty, fillIds]
  -- The execution actor takes the request even where the broker refuses it.
  have executed : Ends (fun _ after => ∃ report, answer message.executionRequest = .ok report ∧
        after = (partition.withOrderManager sent []).executedWith 1 [report])
      (fun failure after => failure.Plain ∨
        RefusedAt answer caps partition [message.executionRequest] failure after)
      (executionProcessAll answer) (partition.withOrderManager sent []) := by
    refine Ends.get ?_
    have waiting : sent.executionRef.drop partition.executed = [message.executionRequest] := by
      rw [requests, rest.executed, drop_left]
    change Ends _ _ (processExecutions _ (sent.executionRef.drop partition.executed)) _
    rw [waiting, processExecutions]
    cases answered : answer message.executionRequest with
    | ok report =>
      have taken : Ends (fun _ after =>
            after = (partition.withOrderManager sent []).executedWith 1 [report])
          (fun failure after => failure.Plain ∨
            RefusedAt answer caps partition [message.executionRequest] failure after)
          (handleExecution answer message.executionRequest)
          (partition.withOrderManager sent []) := .of_ok (handleExecution_ok answered) rfl
      refine taken.bind ?_
      rintro _ _ rfl
      exact Ends.pure ⟨report, rfl, rfl⟩
    | error failure =>
      rw [handleExecution, answered]
      refine .inr ⟨[], _, [], [], rfl, answered, .nothing ⟨⟨none, one, ?_⟩, told.account, .none⟩ ?_⟩
      · exact rest.applied.trans (congrArg List.length unfilled.symm)
      · exact (settledFillIds_of_empty rfl).trans known
  refine executed.bind ?_
  rintro _ _ ⟨report, answered, rfl⟩
  -- The report tells the account its fills, or raises without telling any.
  have reported := processOrders_single { partition with executed := partition.executed + 1 }
    (handleReport_tells sent report)
  refine (Ends.get (reported.mono_failed ?_)).bind ?_
  · rintro _ _ ⟨raised, _, ⟨plain, _⟩, rfl, _⟩
    exact .inl plain
  rintro _ _ ⟨last, ⟨messages, reports⟩, rfl⟩
  have accountRef : last.accountRef = partition.orderManager.accountRef ++ messages :=
    reports.told.account.trans (congrArg (· ++ messages) unfilled)
  -- The account takes them all.
  refine Ends.get ?_
  change Ends _ _ (processFills caps (last.accountRef.drop partition.applied)) _
  have waiting : last.accountRef.drop partition.applied = messages := by
    rw [accountRef, rest.applied, drop_left]
  rw [waiting]
  refine Ends.mono ((processFills_takes messages).mono_failed fun _ _ => Or.inl) ?_
  rintro _ _ ⟨account, took, rfl⟩
  have booked : Booked caps partition messages
      (({ partition with executed := partition.executed + 1 }.withOrderManager last []).appliedWith
        messages.length account) := by
    refine ⟨⟨none, one.trans (congrArg List.length reports.requests.symm), ?_⟩, accountRef, took⟩
    change partition.applied + messages.length = last.accountRef.length
    rw [accountRef, length_append, rest.applied]
  have ids : answeredFillIds answer [message.executionRequest] = report.fillId.toList := by
    cases id : report.fillId <;> simp [answeredFillIds, answered, Except.toOption, id]
  refine ⟨rfl, messages, ⟨booked, ?_, ids ▸ reports.fillIds, ?_⟩, ?_⟩
  · intro request mem
    rw [mem_singleton.mp mem, answered]
    rfl
  · exact known ▸ reports.learned
  · exact reports.told.fills.trans (congrArg (· ++ _) (told.fills.trans (append_nil _)))

end AccountPartition

end Qts
