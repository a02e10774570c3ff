import Qts.PartitionCancels
import Qts.PartitionFills

/-! # Cancels fill nothing -/

namespace Qts

open RaisingCalls OrderManager List

def ExecutionRequest.isCancel : ExecutionRequest → Bool
  | .cancel .. => true
  | _ => false

/-- The broker fills no order when it is asked to cancel one. -/
def FillsNoCancel (answer : ExecutionRequest → Except Failure ExecutionReport) : Prop :=
  ∀ req report, req.isCancel = true → answer req = .ok report →
    carriesFill report = false

theorem SimulatedExecutionAdapter.fillsNoCancel (adapter : SimulatedExecutionAdapter) :
    FillsNoCancel adapter.answer := by
  intro req report cancels answered
  cases SimulatedExecutionAdapter.answer_ids answered with
  | executed executes _ _ =>
    cases req with
    | cancel _ _ _ _ _ => exact absurd executes Bool.false_ne_true
    | _ => exact absurd cancels Bool.false_ne_true
  | other _ _ _ none => rw [carriesFill, none]; rfl

namespace OrderManager

theorem fillsForReport_unfilled {report : ExecutionReport} (unfilled : carriesFill report = false)
    (order : Order) : Returns (fun fills => fills = []) (fillsForReport order report) := by
  intro manager fills after ran
  have outcome := fillsForReport_outcome manager order report
  rw [ran] at outcome
  cases outcome with
  | noFill _ => rfl
  | knownFill _ _ _ _ _ _ _ => rfl
  | booked fillId _ id _ pos _ _ =>
    rw [carriesFill, id, decide_eq_true pos] at unfilled
    cases unfilled

theorem processReport_unfilled {report : ExecutionReport} (unfilled : carriesFill report = false) :
    Returns (fun result => result.fills = []) (processReport report) := by
  unfold processReport
  refine Returns.bind_last fun manager => ?_
  split
  · exact Returns.throw _
  refine Returns.bind_last fun current => ?_
  split
  · exact Returns.bind_last fun _ => Returns.pure rfl
  refine Returns.bind_last fun state => Returns.bind_last fun order =>
    Returns.bind_last fun _ => ?_
  exact (fillsForReport_unfilled unfilled order).bind fun _ none => Returns.pure none

end OrderManager

namespace OrderManagerActor

variable {base : OrderManagerActor}

/-- Since an earlier state the account was told nothing, and the execution actor only cancels. -/
structure OnlyCancels (base actor : OrderManagerActor) : Prop where
  told : actor.accountRef = base.accountRef
  requests : ∃ more, actor.executionRef = base.executionRef ++ more ∧
    ∀ req ∈ more, req.isCancel = true

theorem OnlyCancels.refl (base : OrderManagerActor) : OnlyCancels base base :=
  ⟨rfl, [], (append_nil _).symm, fun _ mem => absurd mem not_mem_nil⟩

theorem handleCancel_onlyCancels (msg : CancelOrder) :
    Keeps (OnlyCancels base) (handle (.cancel msg)) := by
  refine (checkRoute_unmoving _ _ _ _).keeps.bind fun current => ?_
  cases current.brokerOrderId with
  | none => exact Keeps.throw _
  | some brokerOrderId =>
    have managed {Value : Type} (call : ManagerCall Value) :
        Keeps (OnlyCancels base) (onManager call) := by
      have anything : Keeps (fun _ => True) call := fun _ _ => trivial
      exact keeps_onManager (fun _ _ => trivial)
        (fun _ _ before _ => ⟨before.told, before.requests⟩) anything
    refine (managed _).bind fun order => Keeps.modify fun actor before => ?_
    obtain ⟨more, requests, cancels⟩ := before.requests
    refine ⟨before.told, more ++ [_], (congrArg (· ++ _) requests).trans
      (append_assoc _ _ _), fun req mem => ?_⟩
    rcases mem_append.mp mem with earlier | last
    · exact cancels req earlier
    · rw [mem_singleton.mp last]
      rfl

theorem handleReport_unfilled {report : ExecutionReport} (unfilled : carriesFill report = false) :
    Ends (fun _ after => after.accountRef = base.accountRef ∧
        after.executionRef = base.executionRef)
      (fun _ _ => True) (handle (.report report)) base := by
  have fills : Ends (fun fills after => fills = [] ∧ after.accountRef = base.accountRef ∧
      after.executionRef = base.executionRef) (fun _ _ => True) (reportFills report) base := by
    have handled : (reportFills report).run base =
        handleResult report base ((processReport report).run base.manager) := rfl
    unfold Ends
    rw [handled]
    cases ran : (processReport report).run base.manager with
    | ok result manager =>
      have none : result.fills = [] :=
        processReport_unfilled unfilled _ _ _ ran
      rw [handleResult, if_neg (by rw [none]; exact Bool.false_ne_true)]
      exact ⟨none, rfl, rfl⟩
    | error failure manager =>
      cases failure with
      | keyError orderId => exact ⟨rfl, rfl, rfl⟩
      | unknownBrokerOrder text id => exact ⟨rfl, rfl, rfl⟩
      | _ => trivial
  refine fills.bind ?_
  rintro _ after ⟨rfl, told, requests⟩
  exact Ends.modify ⟨(append_nil _).trans told, requests⟩

end OrderManagerActor

namespace CancelIntentRouter

open OrderManagerActor

variable {base : OrderManagerActor} {executed : Nat} {routing : CancelRouting}

/-- Routing cancels has told the account nothing; where no cancel was told, nothing was
requested. -/
structure Routing (base : OrderManagerActor) (executed : Nat) (told : Bool)
    (routing : CancelRouting) : Prop where
  manager : OnlyCancels base routing.orderManager
  requested : told = false → routing.orderManager.executionRef = base.executionRef
  executed : routing.executed = executed
  waiting : ∀ msg, .tell msg ∈ routing.mailbox →
    msg.compacts = true ∨ told = true ∧ ∃ cancel, msg = .cancel cancel

variable {told : Bool}

theorem Routing.mono (state : Routing base executed false routing) :
    Routing base executed told routing where
  manager := state.manager
  requested _ := state.requested rfl
  executed := state.executed
  waiting msg mem := by
    rcases state.waiting msg mem with compacts | ⟨impossible, _⟩
    · exact .inl compacts
    · cases impossible

theorem handleMessage_keeps {msg : OrderManagerMessage}
    (allowed : msg.compacts = true ∨ told = true ∧ ∃ cancel, msg = .cancel cancel) :
    Keeps (Routing base executed told) (handleMessage msg) := by
  intro routing state
  have next : OnlyCancels base (endState ((handle msg).run routing.orderManager)) ∧
      (told = false → (endState ((handle msg).run routing.orderManager)).executionRef =
        base.executionRef) := by
    rcases allowed with compacts | ⟨telling, cancel, rfl⟩
    · have quiet := handle_compacts_quiet routing.orderManager compacts _ ⟨rfl, rfl⟩
      obtain ⟨more, requests, cancels⟩ := state.manager.requests
      exact ⟨⟨quiet.1.trans state.manager.told, more, quiet.2.trans requests, cancels⟩,
        fun none => quiet.2.trans (state.requested none)⟩
    · refine ⟨handleCancel_onlyCancels cancel _ state.manager, fun none => ?_⟩
      rw [telling] at none
      cases none
  change Routing base executed told (endState (handleMessage msg routing))
  unfold handleMessage
  cases ran : (handle msg).run routing.orderManager with
  | ok value actor =>
    rw [ran] at next
    exact ⟨next.1, next.2, state.executed, state.waiting⟩
  | error failure actor =>
    rw [ran] at next
    exact ⟨next.1, next.2, state.executed, state.waiting⟩

theorem routeMetadata_unmoving (orderId : OrderId) : Unmoving (routeMetadata orderId) := by
  refine Unmoving.get fun routing => ?_
  split
  · exact Unmoving.pure _
  · exact Unmoving.throw _

theorem processEnvelopes_keeps {envelopes : List OrderManagerEnvelope}
    (allowed : ∀ msg, .tell msg ∈ envelopes →
      msg.compacts = true ∨ told = true ∧ ∃ cancel, msg = .cancel cancel) :
    Keeps (Routing base executed told) (processEnvelopes envelopes) := by
  induction envelopes with
  | nil => exact Keeps.pure _
  | cons envelope envelopes ih =>
    have later : ∀ msg, .tell msg ∈ envelopes → _ := fun msg mem =>
      allowed msg (mem_cons_of_mem _ mem)
    refine Keeps.bind (Keeps.modify fun _ state =>
      ⟨state.manager, state.requested, state.executed, later⟩) fun _ => Keeps.bind ?_ fun _ =>
          ih later
    cases envelope with
    | tell msg => exact handleMessage_keeps (allowed msg mem_cons_self)
    | askRoute orderId => exact (routeMetadata_unmoving orderId).keeps.bind fun _ => Keeps.pure _

theorem processAll_keeps : Keeps (Routing base executed told) processAll :=
  Keeps.get fun _ state => processEnvelopes_keeps state.waiting

theorem routeMetadataFor_keeps (orderId : OrderId) :
    Keeps (Routing base executed told) (routeMetadataFor orderId) := by
  refine Keeps.tryCatch (Keeps.bind ?_ fun _ => Keeps.pure _) fun failure =>
    Keeps.ite (fun _ => Keeps.pure _) fun _ => Keeps.throw _
  refine Keeps.bind (Keeps.modify fun routing state =>
    ⟨state.manager, state.requested, state.executed, fun msg mem => ?_⟩) fun _ =>
      processAll_keeps.bind fun _ => (routeMetadata_unmoving orderId).keeps
  rcases mem_append.mp mem with waiting | question
  · exact state.waiting msg waiting
  · exact absurd (mem_singleton.mp question) nofun

theorem put_cancel_keeps (cancel : CancelOrder) :
    Keeps (Routing base executed true) (put (.tell (.cancel cancel))) := by
  refine Keeps.modify fun routing state =>
    ⟨state.manager, state.requested, state.executed, fun msg mem => ?_⟩
  rcases mem_append.mp mem with waiting | new
  · exact state.waiting msg waiting
  · cases mem_singleton.mp new
    exact .inr ⟨rfl, cancel, rfl⟩

theorem tellCancels_keeps (intents : List CancelIntent) :
    Keeps (Routing base executed true) (tellCancels intents) := by
  induction intents with
  | nil => exact Keeps.pure _
  | cons intent intents ih =>
    refine (routeMetadataFor_keeps _).bind fun found => ?_
    cases found with
    | none => exact ih
    | some metadata => exact (put_cancel_keeps _).bind fun _ => ih.bind fun _ => Keeps.pure _

theorem tellCancels_ends (intents : List CancelIntent)
    (start : Routing base executed false routing) :
    Ends (fun routed after => Routing base executed true after ∧
        (routed = [] → Routing base executed false after)) (fun _ _ => True)
      (tellCancels intents) routing := by
  induction intents generalizing routing with
  | nil => exact Ends.pure ⟨start.mono, fun _ => start⟩
  | cons intent intents ih =>
    rw [tellCancels]
    have asked := (@routeMetadataFor_keeps base executed false intent.orderId).ends start
    refine (asked.mono_failed fun _ _ _ => trivial).bind fun found between kept => ?_
    cases found with
    | none => exact ih kept
    | some metadata =>
      have rest : Keeps (Routing base executed true) (do
          put (.tell (.cancel (cancelOrder intent metadata)))
          let routed ← tellCancels intents
          return intent.orderId :: routed) :=
        (put_cancel_keeps _).bind fun _ => (tellCancels_keeps intents).bind fun _ => Keeps.pure _
      cases ran : EStateM.run (do
          put (.tell (.cancel (cancelOrder intent metadata)))
          let routed ← tellCancels intents
          return intent.orderId :: routed) between with
      | error failure after => exact .of_error ran trivial
      | ok routed after =>
        have state := rest between kept.mono
        rw [ran] at state
        refine .of_ok ran ⟨state, fun none => ?_⟩
        obtain ⟨_, _, _, ran⟩ := bind_run_inv ran
        obtain ⟨_, _, _, ran⟩ := bind_run_inv ran
        rw [EStateM.run_pure] at ran
        cases ran
        cases none

/-- A drain that returns leaves nothing waiting. -/
theorem processEnvelopes_empties (envelopes : List OrderManagerEnvelope)
    (start : routing.mailbox = envelopes) :
    Ends (fun _ after => after.mailbox = []) (fun _ _ => True) (processEnvelopes envelopes)
      routing := by
  induction envelopes generalizing routing with
  | nil => exact Ends.pure start
  | cons envelope envelopes ih =>
    rw [processEnvelopes]
    refine ends_modify_bind ?_
    have keeps : Keeps (fun routing : CancelRouting => routing.mailbox = envelopes)
        (handleEnvelope envelope) := by
      cases envelope with
      | tell msg =>
        intro routing same
        change (endState (handleMessage msg routing)).mailbox = envelopes
        unfold handleMessage
        cases (handle msg).run routing.orderManager <;> exact same
      | askRoute orderId => exact (routeMetadata_unmoving orderId).keeps.bind fun _ => Keeps.pure _
    have handled : Ends (fun _ after => after.mailbox = envelopes) (fun _ _ => True)
        (handleEnvelope envelope) { routing with mailbox := envelopes } :=
      (keeps.ends rfl).mono_failed fun _ _ _ => trivial
    exact handled.bind fun _ _ same => ih same

variable {answer : ExecutionAnswer}

theorem processExecutions_cancels (fillsNoCancel : FillsNoCancel answer)
    {requests : List ExecutionRequest} (cancels : ∀ req ∈ requests, req.isCancel = true)
    (unfilled : ∀ envelope ∈ routing.mailbox, ∃ report, envelope = .tell (.report report) ∧
      carriesFill report = false) :
    Ends (fun _ after => after.orderManager = routing.orderManager ∧
        after.executed = routing.executed + requests.length ∧
        ∀ envelope ∈ after.mailbox, ∃ report, envelope = .tell (.report report) ∧
          carriesFill report = false)
      (fun _ _ => True) (processExecutions answer requests) routing := by
  induction requests generalizing routing with
  | nil => exact Ends.pure ⟨rfl, rfl, unfilled⟩
  | cons req requests ih =>
    rw [processExecutions]
    refine ends_modify_bind ?_
    cases answered : answer req with
    | error failure => trivial
    | ok report =>
      have empty := fillsNoCancel req report (cancels req mem_cons_self) answered
      have later : ∀ envelope ∈ routing.mailbox ++ [.tell (.report report)], ∃ report,
          envelope = .tell (.report report) ∧ carriesFill report = false := by
        intro envelope mem
        rcases mem_append.mp mem with earlier | last
        · exact unfilled envelope earlier
        · exact ⟨report, mem_singleton.mp last, empty⟩
      have rest := @ih { routing with
        executed := routing.executed + 1
        mailbox := routing.mailbox ++ [.tell (.report report)] }
          (fun other mem => cancels other (mem_cons_of_mem _ mem)) later
      refine rest.mono ?_
      · rintro _ after ⟨manager, executed, later⟩
        refine ⟨manager, executed.trans ?_, later⟩
        rw [length_cons, Nat.add_right_comm, Nat.add_assoc]

theorem processEnvelopes_unfilled {envelopes : List OrderManagerEnvelope}
    (unfilled : ∀ envelope ∈ envelopes, ∃ report, envelope = .tell (.report report) ∧
      carriesFill report = false) :
    Ends (fun _ after => after.orderManager.accountRef = routing.orderManager.accountRef ∧
        after.orderManager.executionRef = routing.orderManager.executionRef ∧
        after.executed = routing.executed)
      (fun _ _ => True) (processEnvelopes envelopes) routing := by
  induction envelopes generalizing routing with
  | nil => exact Ends.pure ⟨rfl, rfl, rfl⟩
  | cons envelope envelopes ih =>
    obtain ⟨report, rfl, empty⟩ := unfilled envelope mem_cons_self
    rw [processEnvelopes]
    refine ends_modify_bind ?_
    have handled : Ends (fun _ after =>
          after.orderManager.accountRef = routing.orderManager.accountRef ∧
          after.orderManager.executionRef = routing.orderManager.executionRef ∧
          after.executed = routing.executed)
        (fun _ _ => True) (handleMessage (.report report))
        { routing with mailbox := envelopes } := by
      have taken := @handleReport_unfilled routing.orderManager report empty
      unfold Ends at taken ⊢
      simp only [handleMessage, EStateM.run] at taken ⊢
      split at taken
      · next value actor ran =>
        rw [ran]
        exact ⟨taken.1, taken.2, rfl⟩
      · next failure actor ran =>
        rw [ran]
        trivial
    refine handled.bind ?_
    rintro _ between ⟨told, requests, executed⟩
    refine (ih fun other mem => unfilled other (mem_cons_of_mem _ mem)).mono ?_
    rintro _ after ⟨toldLater, requestsLater, executedLater⟩
    exact ⟨toldLater.trans told, requestsLater.trans requests, executedLater.trans executed⟩

theorem route_rests (fillsNoCancel : FillsNoCancel answer) (intents : List CancelIntent)
    (all : routing.executed = routing.orderManager.executionRef.length)
    (waiting : ∀ msg, .tell msg ∈ routing.mailbox → msg.compacts = true) :
    Ends (fun _ after => after.orderManager.accountRef = routing.orderManager.accountRef ∧
        after.executed = after.orderManager.executionRef.length ∧
        ∀ msg, .tell msg ∈ after.mailbox → msg.compacts = true)
      (fun _ _ => True) (route (some answer) intents) routing := by
  have start : Routing routing.orderManager routing.executed false routing :=
    ⟨.refl _, fun _ => rfl, rfl, fun msg mem => .inl (waiting msg mem)⟩
  refine (tellCancels_ends intents start).bind ?_
  rintro routed told ⟨state, idle⟩
  by_cases none : routed = []
  · rw [if_neg (not_not_intro none)]
    have kept := idle none
    refine Ends.pure ⟨kept.manager.told, ?_, fun msg mem => ?_⟩
    · rw [kept.executed, all, kept.requested rfl]
    · rcases kept.waiting msg mem with compacts | ⟨impossible, _⟩
      · exact compacts
      · cases impossible
  · rw [if_pos none]
    have drained : Ends (fun _ after => Routing routing.orderManager routing.executed true after ∧
          after.mailbox = []) (fun _ _ => True) processAll told :=
      ((processAll_keeps.ends state).mono_failed fun _ _ _ => trivial).and
        (Ends.get (processEnvelopes_empties _ rfl))
    refine drained.bind ?_
    rintro _ sent ⟨state, empty⟩
    obtain ⟨more, requests, cancels⟩ := state.manager.requests
    have left : sent.orderManager.executionRef.drop sent.executed = more := by
      rw [requests, state.executed, all, drop_left]
    have answered : Ends (fun _ after => after.orderManager = sent.orderManager ∧
          after.executed = sent.executed + more.length ∧
          ∀ envelope ∈ after.mailbox, ∃ report, envelope = .tell (.report report) ∧
            carriesFill report = false)
        (fun _ _ => True) (executionProcessAll answer) sent := by
      refine Ends.get ?_
      rw [left]
      refine processExecutions_cancels fillsNoCancel cancels ?_
      rw [empty]
      exact fun _ mem => absurd mem not_mem_nil
    refine answered.bind ?_
    rintro _ reported ⟨manager, executed, unfilled⟩
    have taken : Ends (fun _ after => (after.orderManager.accountRef =
          reported.orderManager.accountRef ∧
          after.orderManager.executionRef = reported.orderManager.executionRef ∧
          after.executed = reported.executed) ∧ after.mailbox = [])
        (fun _ _ => True) processAll reported :=
      (Ends.get (processEnvelopes_unfilled unfilled)).and
          (Ends.get (processEnvelopes_empties _ rfl))
    refine taken.bind ?_
    rintro _ after ⟨⟨accountRef, executionRef, taken⟩, none⟩
    refine Ends.pure ⟨?_, ?_, ?_⟩
    · rw [accountRef, manager, state.manager.told]
    · rw [taken, executed, executionRef, manager, requests, length_append, state.executed, all]
    · rw [none]
      exact fun _ mem => absurd mem not_mem_nil

end CancelIntentRouter

end Qts
