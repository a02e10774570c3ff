import Qts.BrokerPartition

/-! # Refusals for a broker capability -/

namespace Qts

open RaisingCalls PythonText Failure

def Failure.refusesCapability (isoformat : DateTime → String) (failure : Failure) :
    Bool :=
  failure.isValueError && failure.isBrokerCapabilityReject isoformat

/-- A failure that does not come from the broker's capability model. -/
def Failure.Plain (failure : Failure) : Prop :=
  ∀ isoformat, failure.refusesCapability isoformat = false

/-- A text without the letter k is not about broker capabilities. -/
theorem plain_valueError {msg : String} (absent : 'k' ∉ msg.toList) :
    (valueError msg).Plain :=
  fun _ => contains_eq_false (by decide) absent

theorem plain_of_not_valueError {failure : Failure}
    (other : failure.isValueError = false) : failure.Plain := by
  intro isoformat
  rw [refusesCapability, other, Bool.false_and]

theorem plain_check {checks : List Check} {messages : List String} {msg : String}
    (failed : Check.firstFailure checks = some msg)
    (absent : ∀ text ∈ messages, 'k' ∉ text.toList)
    (texts : checks.map (fun check => check.message) = messages) : (valueError msg).Plain := by
  obtain ⟨check, mem, _, rfl⟩ := Check.firstFailure_eq_some failed
  have listed : check.message ∈ messages := texts ▸ List.mem_map_of_mem mem
  exact plain_valueError (absent check.message listed)

theorem RaisingCalls.Ends.guarded {Failure State Value : Type} {returned : Value → State → Prop}
    {failed : Failure → State → Prop} {inv : State → Prop} {allowed : Failure → Prop}
    {call : EStateM Failure State Value} {state : State} (ends : Ends returned failed call state)
    (guarded : Guarded inv allowed call) (holds : inv state) :
    Ends returned (fun failure after => allowed failure ∧ failed failure after) call state := by
  have raises := guarded state holds
  unfold Ends at ends ⊢
  cases ran : call.run state with
  | ok value after =>
    rw [ran] at ends
    exact ends
  | error failure after =>
    rw [ran] at ends raises
    exact ⟨raises, ends⟩

namespace OrderManager

abbrev RaisesPlain {Value : Type} (call : ManagerCall Value) : Prop :=
  Guarded (fun _ => True) (fun failure => failure.raisedAs.Plain) call

theorem plain_invalidTransition (state : OrderState) (event : OrderEvent) :
    (invalidTransition state event).raisedAs.Plain :=
  have absent : 'k' ∉
      ("invalid order transition: " ++ state.value ++ " -> " ++ event.value).toList := by
    have source : 'k' ∉ state.value.toList := by cases state <;> decide
    have target : 'k' ∉ event.value.toList := by cases event <;> decide
    simp only [String.toList_append, List.mem_append, not_or]
    exact ⟨⟨⟨by decide, source⟩, by decide⟩, target⟩
  plain_valueError absent

variable (orderId : OrderId)

theorem raisesPlain_getOrder : RaisesPlain (getOrder orderId) := by
  refine .get fun manager _ => ?_
  split
  · exact .pure _
  · exact .throw (plain_of_not_valueError rfl)

theorem raisesPlain_applyEvent (event : OrderEvent) : RaisesPlain (applyEvent orderId event) := by
  refine .get fun manager _ => ?_
  split
  · exact .throw (plain_of_not_valueError rfl)
  · split
    · next refused =>
      unfold OrderStateMachine.apply at refused
      split at refused
      · cases refused
      · obtain rfl := Except.error.inj refused
        exact .throw (plain_invalidTransition _ _)
    · exact .bind (.modify fun _ _ => trivial) fun _ => .pure _

theorem raisesPlain_replaceOrder (state : OrderState) (brokerOrderId : Option String) :
    RaisesPlain (replaceOrder orderId state brokerOrderId) :=
  .bind (raisesPlain_getOrder orderId) fun _ =>
    .bind (.modify fun _ _ => trivial) fun _ => .pure _

theorem raisesPlain_createOrder (intent : OrderIntent) (riskDecision : RiskDecision) :
    RaisesPlain (createOrder intent riskDecision) := by
  unfold createOrder
  split
  · exact .bind (.throw (plain_of_not_valueError rfl)) fun _ =>
      .bind (.modify fun _ _ => trivial) fun _ => .pure _
  · exact .bind (.modify fun _ _ => trivial) fun _ => .pure _

theorem raisesPlain_markSent (brokerOrderId : String) :
    RaisesPlain (markSent orderId brokerOrderId) := by
  have rest : RaisesPlain (do
      let state ← applyEvent orderId .sent
      let order ← replaceOrder orderId state (some brokerOrderId)
      modify fun manager => { manager with
        brokerToOrder := manager.brokerToOrder.set brokerOrderId orderId }
      return order) :=
    .bind (raisesPlain_applyEvent orderId _) fun state =>
      .bind (raisesPlain_replaceOrder orderId state _) fun _ =>
        .bind (.modify fun _ _ => trivial) fun _ => .pure _
  unfold markSent
  split
  · exact .bind (.throw (plain_of_not_valueError rfl)) fun _ => rest
  · exact rest

theorem raisesPlain_fillsForReport (order : Order) (report : ExecutionReport) :
    RaisesPlain (fillsForReport order report) := by
  intro manager _
  have outcome := fillsForReport_outcome manager order report
  generalize (fillsForReport order report).run manager = result at outcome ⊢
  cases outcome with
  | missingPrice => exact plain_of_not_valueError rfl
  | blankId => exact plain_valueError (by decide)
  | noFill => trivial
  | knownFill => trivial
  | booked => trivial

theorem raisesPlain_processReport (report : ExecutionReport) :
    RaisesPlain (processReport report) := by
  refine .get fun manager _ => ?_
  split
  · exact .throw (plain_of_not_valueError rfl)
  refine .get fun current _ => ?_
  split
  · exact .bind (raisesPlain_getOrder _) fun _ => .pure _
  · exact .bind (raisesPlain_applyEvent _ _) fun state =>
      .bind (raisesPlain_replaceOrder _ state _) fun order =>
        .bind (.modify fun _ _ => trivial) fun _ =>
          .bind (raisesPlain_fillsForReport order report) fun _ => .pure _

theorem raisesPlain_discardTerminalOrder : RaisesPlain (discardTerminalOrder orderId) := by
  refine .bind (raisesPlain_getOrder orderId) fun order => .ite (fun _ => ?_) fun _ => ?_
  · exact .bind (.throw (plain_of_not_valueError rfl)) fun _ => fun _ _ => trivial
  · exact fun _ _ => trivial

end OrderManager

namespace OrderManagerActor

open OrderManager

/-- A call of the order manager actor raises no refusal for a capability. -/
abbrev RaisesPlain {Value : Type} (call : ActorCall Value) : Prop :=
  Guarded (fun _ => True) (fun failure => failure.raisedAs.Plain) call

theorem raisesPlain_onManager {Value : Type} {call : ManagerCall Value}
    (plain : OrderManager.RaisesPlain call) : RaisesPlain (onManager call) := by
  intro actor _
  have ended := plain actor.manager trivial
  simp only [onManager, EStateM.run] at ended ⊢
  split at ended
  · next ran =>
    rw [ran]
    trivial
  · next ran =>
    rw [ran]
    exact ended

theorem raisesPlain_handleSubmit (msg : SubmitOrder) : RaisesPlain (handleSubmit msg) := by
  unfold handleSubmit
  split
  · exact .throw (plain_valueError (by decide))
  refine .get fun actor _ => ?_
  split
  · exact .throw (plain_valueError (by decide))
  · exact .bind (raisesPlain_onManager (raisesPlain_createOrder _ _)) fun order =>
      .bind (.modify fun _ _ => trivial) fun _ =>
        .bind (raisesPlain_onManager (raisesPlain_markSent _ _)) fun _ =>
          .modify fun _ _ => trivial

theorem raisesPlain_handleReport (report : ExecutionReport) :
    RaisesPlain (handleReport report) := by
  refine .bind ?_ fun fills => .modify fun _ _ => trivial
  intro actor _
  have ended := raisesPlain_processReport report actor.manager trivial
  have handled : (reportFills report).run actor =
      handleResult report actor ((processReport report).run actor.manager) := rfl
  rw [handled]
  generalize (processReport report).run actor.manager = result at ended ⊢
  cases result with
  | ok result manager =>
    simp only [handleResult]
    cases result.fills.any fun fill => foreignTo actor.accountId fill.accountId <;> trivial
  | error failure manager =>
    cases failure with
    | keyError _ => trivial
    | unknownBrokerOrder _ _ => trivial
    | _ => exact ended

theorem raisesPlain_compaction {msg : OrderManagerMessage}
    (compacts : msg.compacts = true) : RaisesPlain (handle msg) := by
  cases msg with
  | compactForStreaming orderIds =>
    refine .bind ?_ fun _ => .modify fun _ _ => trivial
    clear compacts
    induction orderIds with
    | nil => exact .pure _
    | cons orderId orderIds ih =>
      rw [List.forIn_cons]
      refine .bind (.bind (raisesPlain_onManager (raisesPlain_discardTerminalOrder orderId))
        fun _ => .pure _) fun step => ?_
      cases step with
      | done value => exact .pure _
      | yield value => exact ih
  | _ => cases compacts

end OrderManagerActor

theorem HoldingBook.applyFill_plain {book : HoldingBook} {fill : HoldingFill} {failure : String}
    (refused : book.applyFill fill = .error failure) : (valueError failure).Plain := by
  unfold applyFill at refused
  split at refused
  · next failed =>
    obtain rfl := Except.error.inj refused
    have absent : ∀ text ∈ ["signed_quantity must not be zero", "price must be non-negative",
        "multiplier must be positive"], 'k' ∉ text.toList := by
      decide
    exact plain_check failed absent rfl
  · dsimp only at refused
    split at refused
    · cases refused
    · split at refused <;> cases refused

theorem CashBook.normalizeCurrency_plain {caps : UpperCase} {currency failure : String}
    (refused : normalizeCurrency caps currency = .error failure) :
    (valueError failure).Plain := by
  unfold normalizeCurrency at refused
  dsimp only at refused
  split at refused
  · obtain rfl := Except.error.inj refused
    exact plain_valueError (by decide)
  · cases refused

theorem CashBook.applyDelta_plain {caps : UpperCase} {book : CashBook}
    {currency failure : String} {amountDelta : Decimal}
    (refused : book.applyDelta caps currency amountDelta = .error failure) :
    (valueError failure).Plain := by
  rcases bind_error refused with blank | ⟨normalized, _, unread⟩
  · exact normalizeCurrency_plain blank
  · rcases bind_error unread with missing | ⟨_, _, never⟩
    · rcases bind_error missing with blank | ⟨_, _, never⟩
      · exact normalizeCurrency_plain blank
      · cases never
    · cases never

namespace AccountActor

variable {caps : UpperCase} {actor after : AccountActor} {msg : ApplyFill}
  {failure : String}

theorem book_plain (refused : actor.book caps msg = (.error failure, after)) :
    (valueError failure).Plain := by
  unfold book at refused
  split at refused
  · next invalid =>
    cases refused
    exact HoldingBook.applyFill_plain invalid
  · unfold settle at refused
    split at refused
    · next unsettled =>
      cases refused
      exact CashBook.applyDelta_plain unsettled
    · cases refused

theorem applyFill_plain (refused : actor.applyFill caps msg = (.error failure, after)) :
    (valueError failure).Plain := by
  unfold applyFill at refused
  split at refused
  · cases refused
    exact plain_valueError (by decide)
  · split at refused
    · next blank =>
      cases refused
      unfold FillIdempotencyStore.markSeen at blank
      split at blank
      · obtain rfl := Except.error.inj blank
        exact plain_valueError (by decide)
      · split at blank <;> cases blank
    · cases refused
    · exact book_plain refused

end AccountActor

end Qts
