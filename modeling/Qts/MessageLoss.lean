import Qts.ActorMailboxes
import Qts.AccountRecovery

/-! # Messages and actor failures -/

namespace Qts

open StepRuns AccountActor List

namespace ActorRef

variable {State Message Query Response : Type}

/-- A put into the mailbox, or the processing of one envelope at a time. -/
inductive Input (Message Query : Type)
  | tell (msg : Message)
  | ask (query : Query)
  | process (now : DateTime)

variable (behaviour : ActorBehaviour State Message Query Response)

def step : Step (ActorRef State Message Query Response) (Input Message Query)
    (Except ActorFailure Bool) :=
  fun ref input =>
    match input with
    | .tell msg => (.ok true, ref.tell msg)
    | .ask query => (.ok true, ref.ask query)
    | .process now => ref.processOne behaviour now

/-- The messages that a run puts into the mailbox. -/
def told (inputs : List (Input Message Query)) : List Message :=
  inputs.filterMap fun input =>
    match input with
    | .tell msg => some msg
    | _ => none

/-- How many queries a run puts into the mailbox. -/
def asked (inputs : List (Input Message Query)) : Nat :=
  inputs.countP fun input =>
    match input with
    | .ask _ => true
    | _ => false

/-- The input processes an envelope that fails, and the failure discards what waits behind it. -/
def Discards (ref : ActorRef State Message Query Response) : Input Message Query → Prop
  | .process now => (ref.headFails behaviour && ref.discards now) = true
  | _ => False

def start (path : Option String) (failureSink : Option MailboxSupervisor) (state : State) :
    ActorRef State Message Query Response where
  path := path
  failureSink := failureSink
  state := state

structure Accounts (ref : ActorRef State Message Query Response) (told : List Message)
    (asked : Nat) : Prop where
  handled : told.Perm (ref.handled ++ messages ref.drained ++ messages ref.mailbox)
  replied : (List.range asked).Perm
    (ref.replies.map Prod.fst ++ responses ref.drained ++ responses ref.mailbox)
  issued : ref.nextResponse = asked

/-- Nothing is drained: what was put is handled or answered in order, or waits. -/
structure Preserves (ref : ActorRef State Message Query Response) (told : List Message)
    (asked : Nat) : Prop where
  handled : told = ref.handled ++ messages ref.mailbox
  replied : List.range asked = ref.replies.map Prod.fst ++ responses ref.mailbox
  issued : ref.nextResponse = asked
  drained : ref.drained = []

variable {behaviour} {ref : ActorRef State Message Query Response}

@[simp]
theorem messages_append (first second : List (Envelope Message Query)) :
    messages (first ++ second) = messages first ++ messages second :=
  filterMap_append

@[simp]
theorem responses_append (first second : List (Envelope Message Query)) :
    responses (first ++ second) = responses first ++ responses second :=
  filterMap_append

@[simp]
theorem messages_tell (msg : Message) :
    messages [(.tell msg : Envelope Message Query)] = [msg] :=
  rfl

@[simp]
theorem messages_ask (query : Query) (response : Nat) :
    messages [(.ask query response : Envelope Message Query)] = [] :=
  rfl

@[simp]
theorem responses_tell (msg : Message) :
    responses [(.tell msg : Envelope Message Query)] = [] :=
  rfl

@[simp]
theorem responses_ask (query : Query) (response : Nat) :
    responses [(.ask query response : Envelope Message Query)] = [response] :=
  rfl

theorem messages_cons (head : Envelope Message Query) (waiting : List (Envelope Message Query)) :
    messages (head :: waiting) = messages [head] ++ messages waiting :=
  messages_append [head] waiting

theorem responses_cons (head : Envelope Message Query) (waiting : List (Envelope Message Query)) :
    responses (head :: waiting) = responses [head] ++ responses waiting :=
  responses_append [head] waiting

/-- What comes first among the waiting entries goes behind the done ones. -/
theorem perm_take {Kind : Type} (done drained head waiting : List Kind) :
    (done ++ drained ++ (head ++ waiting)).Perm ((done ++ head) ++ (drained ++ waiting)) := by
  have swapped : ((drained ++ head) ++ waiting).Perm ((head ++ drained) ++ waiting) :=
    perm_append_comm.append_right waiting
  simpa only [append_assoc] using swapped.append_left done

theorem told_concat (inputs : List (Input Message Query)) (input : Input Message Query) :
    told (inputs ++ [input]) = told inputs ++ told [input] :=
  filterMap_append

theorem asked_concat (inputs : List (Input Message Query)) (input : Input Message Query) :
    asked (inputs ++ [input]) = asked inputs + asked [input] :=
  countP_append

variable (input : Input Message Query)

theorem step_accounts {inputs : List (Input Message Query)}
    (accounts : Accounts ref (told inputs) (asked inputs)) :
    Accounts (step behaviour ref input).2 (told (inputs ++ [input]))
      (asked (inputs ++ [input])) := by
  rw [told_concat, asked_concat]
  cases input with
  | tell msg =>
    refine ⟨?_, ?_, accounts.issued⟩
    · show (told inputs ++ [msg]).Perm (ref.handled ++ messages ref.drained ++
        messages (ref.mailbox ++ [.tell msg]))
      rw [messages_append, ← append_assoc]
      exact accounts.handled.append_right [msg]
    · show (List.range (asked inputs)).Perm (ref.replies.map Prod.fst ++ responses ref.drained ++
        responses (ref.mailbox ++ [.tell msg]))
      rw [responses_append, responses_tell, append_nil]
      exact accounts.replied
  | ask query =>
    refine ⟨?_, ?_, congrArg (· + 1) accounts.issued⟩
    · show (told inputs ++ []).Perm (ref.handled ++ messages ref.drained ++
        messages (ref.mailbox ++ [Envelope.ask query ref.nextResponse]))
      rw [messages_append, messages_ask, append_nil, append_nil]
      exact accounts.handled
    · show (List.range (asked inputs + 1)).Perm (ref.replies.map Prod.fst ++
        responses ref.drained ++ responses (ref.mailbox ++ [Envelope.ask query ref.nextResponse]))
      rw [responses_append, responses_ask, ← append_assoc, range_succ, accounts.issued]
      exact accounts.replied.append_right [asked inputs]
  | process now =>
    show Accounts (ref.processOne behaviour now).2 (told inputs ++ []) (asked inputs)
    rw [append_nil]
    cases mailbox : ref.mailbox with
    | nil =>
      have unchanged : (ref.processOne behaviour now).2 = ref := by
        rw [processOne, mailbox]
      rw [unchanged]
      exact accounts
    | cons head waiting =>
      have processed : Processed behaviour ref (ref.processOne behaviour now).2 now head waiting :=
        processOne_processed mailbox
      obtain ⟨handled, replied, issued⟩ := accounts
      rw [mailbox, messages_cons] at handled
      rw [mailbox, responses_cons] at replied
      refine ⟨handled.trans ?_, replied.trans ?_, processed.nextResponse.trans issued⟩
      · rw [processed.handled, processed.mailbox, processed.drained, messages_append]
        split
        · exact (perm_take _ _ _ _).trans (List.Perm.of_eq (append_nil _).symm)
        · exact (perm_take _ _ _ _).trans (List.Perm.of_eq (by simp [messages]))
      · rw [processed.replies, processed.mailbox, processed.drained, responses_append]
        split
        · exact (perm_take _ _ _ _).trans (List.Perm.of_eq (append_nil _).symm)
        · exact (perm_take _ _ _ _).trans (List.Perm.of_eq (by simp [responses]))

theorem step_preserves {inputs : List (Input Message Query)}
    (preserves : Preserves ref (told inputs) (asked inputs))
    (keeps : ¬ Discards behaviour ref input) :
    Preserves (step behaviour ref input).2 (told (inputs ++ [input]))
      (asked (inputs ++ [input])) := by
  rw [told_concat, asked_concat]
  cases input with
  | tell msg =>
    refine ⟨?_, ?_, preserves.issued, preserves.drained⟩
    · show told inputs ++ [msg] = ref.handled ++ messages (ref.mailbox ++ [.tell msg])
      rw [messages_append, messages_tell, ← append_assoc, preserves.handled]
    · show List.range (asked inputs) = ref.replies.map Prod.fst ++
        responses (ref.mailbox ++ [.tell msg])
      rw [responses_append, responses_tell, append_nil, preserves.replied]
  | ask query =>
    refine ⟨?_, ?_, congrArg (· + 1) preserves.issued, preserves.drained⟩
    · show told inputs ++ [] = ref.handled ++
        messages (ref.mailbox ++ [Envelope.ask query ref.nextResponse])
      rw [messages_append, messages_ask, append_nil, append_nil, preserves.handled]
    · show List.range (asked inputs + 1) = ref.replies.map Prod.fst ++
        responses (ref.mailbox ++ [Envelope.ask query ref.nextResponse])
      rw [responses_append, responses_ask, ← append_assoc, range_succ,
        preserves.replied, preserves.issued]
  | process now =>
    show Preserves (ref.processOne behaviour now).2 (told inputs ++ []) (asked inputs)
    rw [append_nil]
    cases mailbox : ref.mailbox with
    | nil =>
      have unchanged : (ref.processOne behaviour now).2 = ref := by
        rw [processOne, mailbox]
      rw [unchanged]
      exact preserves
    | cons head waiting =>
      have processed : Processed behaviour ref (ref.processOne behaviour now).2 now head waiting :=
        processOne_processed mailbox
      have stays : (ref.headFails behaviour && ref.discards now) = false :=
        Bool.eq_false_iff.mpr keeps
      have left := processed.mailbox
      have drained := processed.drained
      rw [stays, if_neg Bool.false_ne_true] at left drained
      obtain ⟨handled, replied, issued, undrained⟩ := preserves
      rw [mailbox, messages_cons, ← append_assoc] at handled
      rw [mailbox, responses_cons, ← append_assoc] at replied
      refine ⟨?_, ?_, processed.nextResponse.trans issued, ?_⟩
      · rw [handled, processed.handled, left]
      · rw [replied, processed.replies, left]
      · rw [drained, undrained]
        rfl

theorem final_concat (state : ActorRef State Message Query Response)
    (inputs : List (Input Message Query)) (input : Input Message Query) :
    final (step behaviour) state (inputs ++ [input]) =
      (step behaviour (final (step behaviour) state inputs) input).2 := by
  rw [final_append]
  rfl

theorem final_accounts (path : Option String) (failureSink : Option MailboxSupervisor)
    (state : State) (inputs : List (Input Message Query)) :
    Accounts (final (step behaviour) (start path failureSink state) inputs)
      (told inputs) (asked inputs) := by
  induction inputs using reverseRecOn with
  | nil => exact ⟨.refl _, .refl _, rfl⟩
  | append_singleton inputs input ih =>
    rw [final_concat]
    exact step_accounts input ih

theorem final_preserves (path : Option String) (failureSink : Option MailboxSupervisor)
    (state : State) {inputs : List (Input Message Query)}
    (keeps : EveryStep (step behaviour) (fun ref input => ¬ Discards behaviour ref input)
      (start path failureSink state) inputs) :
    Preserves (final (step behaviour) (start path failureSink state) inputs)
      (told inputs) (asked inputs) := by
  induction inputs using reverseRecOn with
  | nil => exact ⟨rfl, rfl, rfl, rfl⟩
  | append_singleton inputs input ih =>
    obtain ⟨earlier, last⟩ := (everyStep_append _ _ _ _ _).mp keeps
    rw [final_concat]
    exact step_preserves input (ih earlier) last.1

theorem step_policy : (step behaviour ref input).2.drainPolicy = ref.drainPolicy := by
  cases input with
  | tell msg => rfl
  | ask query => rfl
  | process now =>
    show (ref.processOne behaviour now).2.drainPolicy = ref.drainPolicy
    cases mailbox : ref.mailbox with
    | nil => rw [processOne, mailbox]
    | cons head waiting => exact (processOne_processed mailbox).policy

theorem final_policy (inputs : List (Input Message Query)) :
    (final (step behaviour) ref inputs).drainPolicy = ref.drainPolicy := by
  induction inputs generalizing ref with
  | nil => rfl
  | cons input inputs ih => exact ih.trans (step_policy input)

/-- Processing puts nothing into the mailbox. -/
theorem told_process (inputs : List (Input Message Query)) (times : List DateTime) :
    told (inputs ++ times.map .process) = told inputs := by
  rw [told, filterMap_append, filterMap_map]
  simp [told]

theorem asked_process (inputs : List (Input Message Query)) (times : List DateTime) :
    asked (inputs ++ times.map .process) = asked inputs := by
  rw [asked, countP_append, countP_map]
  simp [asked]

/-- A supervisor that preserves mailboxes discards nothing, however often it restarts an actor. -/
theorem everyStep_keeps (preserving : ref.drainPolicy = some .preserve)
    (inputs : List (Input Message Query)) :
    EveryStep (step behaviour) (fun ref input => ¬ Discards behaviour ref input) ref
      inputs := by
  induction inputs generalizing ref with
  | nil => trivial
  | cons input inputs ih =>
    refine ⟨?_, ih ((step_policy input).trans preserving)⟩
    intro discarding
    cases input with
    | tell msg => exact discarding
    | ask query => exact discarding
    | process now =>
      have drops := (Bool.and_eq_true_iff.mp discarding).2
      unfold discards at drops
      unfold drainPolicy at preserving
      cases sunk : ref.failureSink with
      | none => simp [sunk] at drops
      | some supervisor =>
        have policy : supervisor.mailboxDrainPolicy = .preserve := by simpa [sunk] using preserving
        simp [sunk, policy] at drops

theorem processOne_ok (supervised : ref.drainPolicy.isSome = true) (now : DateTime) :
    (ref.processOne behaviour now).1 = .ok (!ref.mailbox.isEmpty) := by
  have sinks : ∀ (next : ActorRef State Message Query Response) failure,
      next.failureSink = ref.failureSink → (next.sink failure now).1 = .ok true := by
    intro next failure same
    unfold sink
    rw [same]
    cases sunk : ref.failureSink with
    | none => simp [drainPolicy, sunk] at supervised
    | some supervisor =>
      dsimp only
      split <;> rfl
  unfold processOne
  cases mailbox : ref.mailbox with
  | nil => rfl
  | cons head waiting =>
    cases head with
    | tell msg =>
      dsimp only
      cases behaviour.handle msg ref.state with
      | mk outcome state =>
        cases outcome with
        | ok _ => rfl
        | error failure => exact sinks _ failure rfl
    | ask query response =>
      dsimp only
      cases behaviour.answer query ref.state with
      | mk outcome state =>
        cases outcome with
        | ok answer => rfl
        | error failure => exact sinks _ failure rfl

theorem final_process_idle (idle : ref.mailbox = []) (times : List DateTime) :
    final (step behaviour) ref (times.map .process) = ref := by
  induction times with
  | nil => rfl
  | cons now times ih =>
    have unchanged : (step behaviour ref (.process now)).2 = ref := by
      show (ref.processOne behaviour now).2 = ref
      rw [processOne, idle]
    rw [map_cons, final_cons, unchanged]
    exact ih

theorem processAll_eq {times : List DateTime} (supervised : ref.drainPolicy.isSome = true) :
    ref.processAll behaviour times =
      (.ok (), final (step behaviour) ref (times.map .process)) := by
  induction times generalizing ref with
  | nil => rfl
  | cons now times ih =>
    have fine : (ref.processOne behaviour now).1 = .ok (!ref.mailbox.isEmpty) :=
      processOne_ok supervised now
    rw [processAll, map_cons, final_cons]
    cases ran : ref.processOne behaviour now with
    | mk outcome next =>
      have nextIs : (step behaviour ref (.process now)).2 = next := congrArg Prod.snd ran
      rw [ran] at fine
      dsimp only at fine
      rw [fine, nextIs]
      cases mailbox : ref.mailbox with
      | nil =>
        have unchanged : next = ref := by
          rw [processOne, mailbox] at ran
          exact (congrArg Prod.snd ran).symm
        rw [unchanged, final_process_idle mailbox]
        rfl
      | cons head waiting =>
        have stillSupervised : next.drainPolicy.isSome = true := by
          rw [← nextIs, step_policy]
          exact supervised
        exact ih stillSupervised

theorem final_process_empties {times : List DateTime} (enough : ref.mailbox.length ≤ times.length) :
    (final (step behaviour) ref (times.map .process)).mailbox = [] := by
  induction times generalizing ref with
  | nil => exact length_eq_zero_iff.mp (Nat.le_zero.mp enough)
  | cons now times ih =>
    refine ih ?_
    show (ref.processOne behaviour now).2.mailbox.length ≤ times.length
    cases mailbox : ref.mailbox with
    | nil =>
      rw [processOne, mailbox]
      dsimp only
      rw [mailbox]
      exact Nat.zero_le _
    | cons head waiting =>
      rw [mailbox, length_cons, length_cons] at enough
      rw [(processOne_processed mailbox).mailbox]
      split
      · exact Nat.zero_le _
      · omega

/-- No message is lost to a failure unless it restarts the actor under the discarding policy.
Where no step discards, and that is always so under the preserving policy, processing all leaves
every message handled once and every query answered, in their order.  In any run each message is
handled, drained or waiting, and what a step drains is what waited behind a failing envelope. -/
theorem messages_kept_unless_discarded (behaviour : ActorBehaviour State Message Query Response)
    (path : Option String) (supervisor : MailboxSupervisor) (state : State)
    (inputs : List (Input Message Query)) :
    (∀ times : List DateTime, (final (step behaviour) (start path (some supervisor) state)
        inputs).mailbox.length ≤ times.length →
      (supervisor.mailboxDrainPolicy = .preserve ∨
        EveryStep (step behaviour) (fun ref input => ¬ Discards behaviour ref input)
          (start path (some supervisor) state) (inputs ++ times.map .process)) →
      ∃ done, (final (step behaviour) (start path (some supervisor) state)
          inputs).processAll behaviour times = (.ok (), done) ∧
        done.handled = told inputs ∧ done.replies.map Prod.fst = List.range (asked inputs)) ∧
    Accounts (final (step behaviour) (start path (some supervisor) state) inputs)
      (told inputs) (asked inputs) ∧
    ∀ (ref : ActorRef State Message Query Response) now head waiting,
      ref.mailbox = head :: waiting →
        Processed behaviour ref (ref.processOne behaviour now).2 now head waiting := by
  refine ⟨?_, final_accounts path (some supervisor) state inputs,
    fun _ _ _ _ mailbox => processOne_processed mailbox⟩
  intro times enough keeping
  have keeps : EveryStep (step behaviour)
      (fun ref input => ¬ Discards behaviour ref input)
      (start path (some supervisor) state) (inputs ++ times.map .process) := by
    rcases keeping with preserving | keeps
    · have preserved : (start path (some supervisor) state :
          ActorRef State Message Query Response).drainPolicy = some .preserve :=
        congrArg some preserving
      exact everyStep_keeps preserved _
    · exact keeps
  have preserves := final_preserves path (some supervisor) state keeps
  have emptied : (final (step behaviour) (final (step behaviour)
      (start path (some supervisor) state) inputs) (times.map .process)).mailbox = [] :=
    final_process_empties enough
  rw [final_append] at preserves
  rw [told_process, asked_process] at preserves
  refine ⟨_, processAll_eq ?_, ?_, ?_⟩
  · rw [final_policy]
    rfl
  · have handled := preserves.handled
    rw [emptied] at handled
    exact (handled.trans (append_nil _)).symm
  · have replied := preserves.replied
    rw [emptied] at replied
    exact (replied.trans (append_nil _)).symm

namespace LostFill

def accountBehaviour : ActorBehaviour AccountActor ApplyFill Unit AccountSnapshot where
  handle msg actor :=
    ((actor.applyFill .ascii msg).1.mapError fun text => ⟨"ValueError", text⟩,
      (actor.applyFill .ascii msg).2)
  answer _ actor := (.ok actor.snapshot.1, actor.snapshot.2)

def account : AccountId :=
  ⟨⟨"main", rfl⟩⟩

def apple : InstrumentId :=
  ⟨⟨"EQUITY.US.NASDAQ.AAPL", Eq.refl false⟩⟩

/-- The account under the default policies of its supervisor. -/
def accountRef : ActorRef AccountActor ApplyFill Unit AccountSnapshot :=
  start (some "/main/account") (some { registered := ["/main/account"] })
    (init (Dict.ofItems [("USD", 1000)]) (some account))

def inputs : List (Input ApplyFill Unit) :=
  [.tell (probe none apple "fill-1"),
    .tell (probe (some account) apple "fill-2"), .ask (),
    .process 0, .process 1, .process 2]

end LostFill

/-- The first fill fails and restarts the actor; the second one is never handled and the question
never answered, though nothing waits any more. -/
theorem restart_loses_fill :
    let ref := final (step LostFill.accountBehaviour) LostFill.accountRef LostFill.inputs
    (told LostFill.inputs).length = 2 ∧ asked LostFill.inputs = 1 ∧
      ref.mailbox.isEmpty = true ∧ ref.handled.length = 1 ∧ ref.replies.isEmpty = true ∧
      ref.state.cash.balances.get? "USD" = some 1000 := by
  decide +kernel

end ActorRef

end Qts
