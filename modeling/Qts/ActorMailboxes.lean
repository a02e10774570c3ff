import Qts.RuntimeLifecycle

/-! # Actor mailboxes under supervision -/

namespace Qts

theorem ActorSupervisor.handleFailure_restart_iff (supervisor : ActorSupervisor)
    (event : ActorFailureEvent) (clock : DateTime) :
    (supervisor.handleFailure event clock).1 = .restart ↔
      supervisor.restartPolicy.shouldRestart
        ((supervisor.failureTimes.get? event.actorName).getD []) (event.timestamp.getD clock)
        event.recoverable = true := by
  unfold ActorSupervisor.handleFailure
  dsimp only
  split
  · next restarts => exact ⟨fun _ => restarts, fun _ => rfl⟩
  · next exhausted =>
    constructor
    · rintro ⟨⟩
    · exact fun allowed => absurd allowed exhausted

/-- An exception that an actor's handler raises. -/
structure ActorFailure where
  exceptionType : String
  message : String

/-- The text that a failed query is answered with. -/
def ActorFailure.text (failure : ActorFailure) : String :=
  if failure.message = "" then failure.exceptionType else failure.message

structure ActorBehaviour (State Message Query Response : Type) where
  handle : Message → State → Except ActorFailure Unit × State
  answer : Query → State → Except ActorFailure Response × State

/-- What waits in a mailbox: a message, or a query with the number of its response mailbox. -/
inductive Envelope (Message Query : Type)
  | tell (msg : Message)
  | ask (query : Query) (response : Nat)

/-- What is put into a response mailbox. -/
inductive AskReply (Response : Type)
  | response (response : Response)
  | failed (actorName msg : String)

/-- How a failed actor's mailbox is handled on restart. -/
inductive MailboxDrainMode
  | discard
  | preserve
deriving DecidableEq

def MailboxDrainMode.apply {Kind : Type} (mode : MailboxDrainMode) (mailbox : List Kind) :
    List Kind × List Kind :=
  match mode with
  | preserve => ([], mailbox)
  | discard => (mailbox, [])

/-- A supervisor with its drain policy, and the names under which it knows the reference. -/
structure MailboxSupervisor extends ActorSupervisor where
  mailboxDrainPolicy : MailboxDrainMode := .discard
  registered : List String := []

structure ActorRef (State Message Query Response : Type) where
  path : Option String := none
  failureSink : Option MailboxSupervisor := none
  state : State
  mailbox : List (Envelope Message Query) := []
  nextResponse : Nat := 0
  handled : List Message := []
  replies : List (Nat × AskReply Response) := []
  drained : List (Envelope Message Query) := []

namespace ActorRef

variable {State Message Query Response : Type}

/-- Enqueue a fire-and-forget message into the actor's mailbox. -/
def tell (ref : ActorRef State Message Query Response) (msg : Message) :
    ActorRef State Message Query Response :=
  { ref with mailbox := ref.mailbox ++ [.tell msg] }

def ask (ref : ActorRef State Message Query Response) (query : Query) :
    ActorRef State Message Query Response :=
  { ref with
    mailbox := ref.mailbox ++ [.ask query ref.nextResponse]
    nextResponse := ref.nextResponse + 1 }

def actorName (ref : ActorRef State Message Query Response) : String :=
  ref.path.getD "(unnamed)"

def failureEvent (ref : ActorRef State Message Query Response) (failure : ActorFailure)
    (now : DateTime) : ActorFailureEvent where
  actorName := ref.actorName
  exceptionType := failure.exceptionType
  exceptionMessage := failure.message
  timestamp := some now

/-- Hand a failure to the sink; without one it is raised.  A restart of an actor that the
supervisor knows drains its mailbox. -/
def sink (ref : ActorRef State Message Query Response) (failure : ActorFailure)
    (now : DateTime) : Except ActorFailure Bool × ActorRef State Message Query Response :=
  match ref.failureSink with
  | none => (.error failure, ref)
  | some supervisor =>
    let (decision, recorded) := supervisor.toActorSupervisor.handleFailure
      (ref.failureEvent failure now) now
    let informed := { ref with
      failureSink := some { supervisor with toActorSupervisor := recorded } }
    if decision = .restart ∧ ref.actorName ∈ supervisor.registered then
      let (drained, mailbox) := supervisor.mailboxDrainPolicy.apply ref.mailbox
      (.ok true, { informed with mailbox, drained := ref.drained ++ drained })
    else (.ok true, informed)

def took (ref : ActorRef State Message Query Response)
    (mailbox : List (Envelope Message Query)) (msg : Message) (state : State) :
    ActorRef State Message Query Response :=
  { ref with
    mailbox, state
    handled := ref.handled ++ [msg] }

/-- The reference after a query has been answered. -/
def replied (ref : ActorRef State Message Query Response)
    (mailbox : List (Envelope Message Query)) (response : Nat) (reply : AskReply Response)
    (state : State) : ActorRef State Message Query Response :=
  { ref with
    mailbox, state
    replies := ref.replies ++ [(response, reply)] }

variable (behaviour : ActorBehaviour State Message Query Response)

def processOne (ref : ActorRef State Message Query Response) (now : DateTime) :
    Except ActorFailure Bool × ActorRef State Message Query Response :=
  match ref.mailbox with
  | [] => (.ok false, ref)
  | .tell msg :: waiting =>
    match behaviour.handle msg ref.state with
    | (.ok (), state) => (.ok true, ref.took waiting msg state)
    | (.error failure, state) => (ref.took waiting msg state).sink failure now
  | .ask query response :: waiting =>
    match behaviour.answer query ref.state with
    | (.ok answer, state) => (.ok true, ref.replied waiting response (.response answer) state)
    | (.error failure, state) =>
      (ref.replied waiting response (.failed ref.actorName failure.text) state).sink failure now

def processAll (ref : ActorRef State Message Query Response) :
    List DateTime → Except ActorFailure Unit × ActorRef State Message Query Response
  | [] => (.ok (), ref)
  | now :: times =>
    match ref.processOne behaviour now with
    | (.error failure, next) => (.error failure, next)
    | (.ok false, next) => (.ok (), next)
    | (.ok true, next) => next.processAll times

def messages (envelopes : List (Envelope Message Query)) : List Message :=
  envelopes.filterMap fun envelope =>
    match envelope with
    | .tell msg => some msg
    | .ask _ _ => none

def responses (envelopes : List (Envelope Message Query)) : List Nat :=
  envelopes.filterMap fun envelope =>
    match envelope with
    | .tell _ => none
    | .ask _ response => some response

/-- Whether the first waiting envelope makes the handler fail. -/
def headFails (ref : ActorRef State Message Query Response) : Bool :=
  match ref.mailbox with
  | [] => false
  | .tell msg :: _ => !(behaviour.handle msg ref.state).1.isOk
  | .ask query _ :: _ => !(behaviour.answer query ref.state).1.isOk

def discards (ref : ActorRef State Message Query Response) (now : DateTime) : Bool :=
  ref.failureSink.any fun supervisor =>
    decide (supervisor.mailboxDrainPolicy = .discard) &&
      decide (ref.actorName ∈ supervisor.registered) &&
      supervisor.restartPolicy.shouldRestart
        ((supervisor.failureTimes.get? ref.actorName).getD []) now true

variable {behaviour} {ref : ActorRef State Message Query Response}

def drainPolicy (ref : ActorRef State Message Query Response) : Option MailboxDrainMode :=
  ref.failureSink.map fun supervisor => supervisor.mailboxDrainPolicy

/-- What the sink leaves of a reference. -/
structure SinkEffect (ref next : ActorRef State Message Query Response) (now : DateTime) :
    Prop where
  path : next.path = ref.path
  policy : next.drainPolicy = ref.drainPolicy
  nextResponse : next.nextResponse = ref.nextResponse
  handled : next.handled = ref.handled
  replies : next.replies = ref.replies
  mailbox : next.mailbox = if ref.discards now then [] else ref.mailbox
  drained : next.drained = ref.drained ++ if ref.discards now then ref.mailbox else []

theorem sink_effect (ref : ActorRef State Message Query Response) (failure : ActorFailure)
    (now : DateTime) : SinkEffect ref (ref.sink failure now).2 now := by
  unfold sink
  cases sunk : ref.failureSink with
  | none =>
    have keeps : ref.discards now = false := by
      unfold discards
      rw [sunk]
      rfl
    dsimp only
    exact ⟨rfl, rfl, rfl, rfl, rfl, by simp [keeps], by simp [keeps]⟩
  | some supervisor =>
    have decides : (supervisor.toActorSupervisor.handleFailure
        (ref.failureEvent failure now) now).1 = .restart ↔
          supervisor.restartPolicy.shouldRestart
            ((supervisor.failureTimes.get? ref.actorName).getD []) now true = true :=
      supervisor.toActorSupervisor.handleFailure_restart_iff (ref.failureEvent failure now) now
    dsimp only
    by_cases restarts : (supervisor.toActorSupervisor.handleFailure
        (ref.failureEvent failure now) now).1 = .restart ∧
          ref.actorName ∈ supervisor.registered
    · rw [if_pos restarts]
      have budget := decides.mp restarts.1
      cases mode : supervisor.mailboxDrainPolicy with
      | discard =>
        have dropping : ref.discards now = true := by
          unfold discards
          simp [sunk, mode, restarts.2, budget]
        exact ⟨rfl, by simp [drainPolicy, sunk, mode], rfl, rfl, rfl, by rw [dropping]; rfl,
          by rw [dropping]; rfl⟩
      | preserve =>
        have keeps : ref.discards now = false := by
          unfold discards
          simp [sunk, mode]
        exact ⟨rfl, by simp [drainPolicy, sunk, mode], rfl, rfl, rfl, by rw [keeps]; rfl,
          by rw [keeps]; rfl⟩
    · rw [if_neg restarts]
      have keeps : ref.discards now = false := by
        unfold discards
        rw [sunk]
        by_cases known : ref.actorName ∈ supervisor.registered
        · have exhausted := mt decides.mpr fun restart => restarts ⟨restart, known⟩
          simp [exhausted]
        · simp [known]
      exact ⟨rfl, by rw [drainPolicy, drainPolicy, sunk]; rfl, rfl, rfl, rfl, by simp [keeps],
          by simp [keeps]⟩

structure Processed (behaviour : ActorBehaviour State Message Query Response)
    (ref next : ActorRef State Message Query Response) (now : DateTime)
    (head : Envelope Message Query) (waiting : List (Envelope Message Query)) : Prop where
  path : next.path = ref.path
  policy : next.drainPolicy = ref.drainPolicy
  nextResponse : next.nextResponse = ref.nextResponse
  handled : next.handled = ref.handled ++ messages [head]
  replies : next.replies.map Prod.fst = ref.replies.map Prod.fst ++ responses [head]
  mailbox : next.mailbox =
    if ref.headFails behaviour && ref.discards now then [] else waiting
  drained : next.drained =
    ref.drained ++ if ref.headFails behaviour && ref.discards now then waiting else []

/-- The first envelope is handled or answered; what waits behind it is discarded exactly when it
fails and the failure restarts the actor so. -/
theorem processOne_processed {now : DateTime} {head : Envelope Message Query}
    {waiting : List (Envelope Message Query)} (mailbox : ref.mailbox = head :: waiting) :
    Processed behaviour ref (ref.processOne behaviour now).2 now head waiting := by
  unfold processOne
  rw [mailbox]
  cases head with
  | tell msg =>
    dsimp only
    cases handled : behaviour.handle msg ref.state with
    | mk outcome state =>
      cases outcome with
      | ok _ =>
        have fine : ref.headFails behaviour = false := by
          simp [headFails, mailbox, handled, Except.isOk, Except.toBool]
        exact ⟨rfl, rfl, rfl, rfl, (List.append_nil _).symm, by simp [fine, took],
          by simp [fine, took]⟩
      | error failure =>
        have fails : ref.headFails behaviour = true := by
          simp [headFails, mailbox, handled, Except.isOk, Except.toBool]
        have effect := sink_effect (ref.took waiting msg state) failure now
        have sameRule : (ref.took waiting msg state).discards now = ref.discards now := rfl
        refine ⟨effect.path, effect.policy, effect.nextResponse, effect.handled, ?_, ?_, ?_⟩
        · rw [effect.replies]
          exact (List.append_nil _).symm
        · rw [effect.mailbox, sameRule, fails, Bool.true_and]
          rfl
        · rw [effect.drained, sameRule, fails, Bool.true_and]
          rfl
  | ask query response =>
    dsimp only
    cases answered : behaviour.answer query ref.state with
    | mk outcome state =>
      cases outcome with
      | ok answer =>
        have fine : ref.headFails behaviour = false := by
          simp [headFails, mailbox, answered, Except.isOk, Except.toBool]
        exact ⟨rfl, rfl, rfl, (List.append_nil _).symm, by simp [replied, responses],
          by simp [fine, replied], by simp [fine, replied]⟩
      | error failure =>
        have fails : ref.headFails behaviour = true := by
          simp [headFails, mailbox, answered, Except.isOk, Except.toBool]
        have effect := sink_effect (ref.replied waiting response
          (.failed ref.actorName failure.text) state) failure now
        have sameRule : (ref.replied waiting response
            (.failed ref.actorName failure.text) state).discards now = ref.discards now := rfl
        refine ⟨effect.path, effect.policy, effect.nextResponse, ?_, ?_, ?_, ?_⟩
        · rw [effect.handled]
          exact (List.append_nil _).symm
        · rw [effect.replies]
          simp [replied, responses]
        · rw [effect.mailbox, sameRule, fails, Bool.true_and]
          rfl
        · rw [effect.drained, sameRule, fails, Bool.true_and]
          rfl

end ActorRef

end Qts
