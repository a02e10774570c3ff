import Qts.FillSlicing
import Qts.ReportLedgers

/-! # Time in the market -/

namespace Qts

open RaisingCalls AccountWorld StepRuns HoldingBook StatisticsBuilder List

namespace HoldingBook

theorem fillHolding_closes_own {current : Holding} {fill : HoldingFill}
    (average : current.costBasisMethod = .average) (nonzero : fill.signedQuantity ≠ 0) :
    (∀ event ∈ (fillHolding current fill).1, event.instrumentId = current.instrumentId) ∧
      ((fillHolding current fill).1 = [] → (fillHolding current fill).2.quantity ≠ 0) := by
  rcases against_or_opens current nonzero with against | opens
  · rw [fillHolding_against average against, reduceOrFlip]
    split
    · exact ⟨by simp, by simp⟩
    · next remains =>
      split
      · exact ⟨by simp, fun _ => remains⟩
      · exact ⟨by simp, by simp⟩
  · rw [fillHolding_opens average opens]
    refine ⟨by simp, fun _ => ?_⟩
    change current.quantity + fill.signedQuantity ≠ 0
    rw [PositionSide.sameForQuantities_iff] at opens
    rcases opens with flat | ⟨long, buy⟩ | ⟨short, sell⟩
    · rwa [flat, zero_add]
    · exact (add_pos long buy).ne'
    · exact (add_neg short sell).ne

end HoldingBook

namespace AccountActor

/-- What some new fills make of the holdings: only filled instruments move or are closed, and a
filled one that is not closed is held. -/
structure Moved (start : AccountActor) (filled : List InstrumentId) (events : List PositionClosed)
    (next : AccountActor) : Prop where
  emitted : next.positionClosedEvents = start.positionClosedEvents ++ events
  closes : ∀ event ∈ events, event.instrumentId ∈ filled
  still : ∀ instrumentId, instrumentId ∉ filled →
    next.holdings.holding instrumentId = start.holdings.holding instrumentId
  held : ∀ instrumentId ∈ filled, (∀ event ∈ events, event.instrumentId ≠ instrumentId) →
    (next.holdings.holding instrumentId).quantity ≠ 0

variable {caps : PythonText.UpperCase} {start between next : AccountActor}
  {messages : List ApplyFill} {owner : Option AccountId}

theorem mem_afterDeliveries_fillId {seen : Finset String} {fillId : String} :
    fillId ∈ afterDeliveries ApplyFill.fillId seen messages ↔
      fillId ∈ seen ∨ fillId ∈ messages.map ApplyFill.fillId := by
  induction messages generalizing seen with
  | nil => simp [afterDeliveries]
  | cons msg messages ih =>
    rw [show afterDeliveries ApplyFill.fillId seen (msg :: messages) =
      afterDeliveries ApplyFill.fillId (insert msg.fillId seen) messages from rfl, ih,
      Finset.mem_insert, map_cons, mem_cons]
    tauto

theorem booked_moved {msg : ApplyFill} {events : List PositionClosed} {holdings : HoldingBook}
    (owned : Owned owner .average start)
    (held : start.holdings.applyFill (holdingFill msg) = .ok (events, holdings)) :
    (∀ event ∈ events, event.instrumentId = msg.fill.instrumentId) ∧
      (∀ instrumentId, instrumentId ≠ msg.fill.instrumentId →
        holdings.holding instrumentId = start.holdings.holding instrumentId) ∧
      (events = [] → (holdings.holding msg.fill.instrumentId).quantity ≠ 0) := by
  have key : (start.holdings.holding (holdingFill msg).instrumentId).instrumentId =
      (holdingFill msg).instrumentId := owned.uniform.wellKeyed.holding _
  have valid : Valid (holdingFill msg) := by
    by_contra invalid
    obtain ⟨failure, refused⟩ := applyFill_invalid invalid start.holdings
    rw [refused] at held
    cases held
  rw [applyFill_valid key valid] at held
  cases held
  have average : (start.holdings.holding (holdingFill msg).instrumentId).costBasisMethod =
      .average := (owned.uniform.holding _).1.trans owned.method
  obtain ⟨own, silent⟩ := fillHolding_closes_own average valid.nonzero
  refine ⟨fun event mem => (own event mem).trans key, fun instrumentId other => ?_,
    fun none => ?_⟩
  · exact (holding_store _ _ _ _).trans (if_neg other)
  · have stored := (holding_store start.holdings (holdingFill msg).instrumentId
      msg.fill.instrumentId (fillHolding (start.holdings.holding
        (holdingFill msg).instrumentId) (holdingFill msg)).2).trans (if_pos rfl)
    rw [stored]
    exact silent none

/-- The account's new fills move and close as they should. -/
theorem Took.moved (took : Took caps start messages next) (owned : Owned owner .average start)
    (distinct : (messages.map ApplyFill.fillId).Nodup)
    (fresh : ∀ msg ∈ messages, msg.fillId ∉ start.fillIds.seen) :
    ∃ events, Moved start (messages.map (·.fill.instrumentId)) events next := by
  induction took with
  | none =>
    exact ⟨[], (append_nil _).symm, by simp, fun _ _ => rfl, by simp⟩
  | listed earlier alike ih =>
    obtain ⟨events, moved⟩ := ih distinct fresh
    exact ⟨events, alike.positionClosedEvents ▸ moved.emitted, moved.closes,
      alike.holdings ▸ moved.still, alike.holdings ▸ moved.held⟩
  | @applied messages msg between next earlier accepted ih =>
    rw [map_append, nodup_append] at distinct
    obtain ⟨events, moved⟩ := ih distinct.1 fun other mem =>
      fresh other (mem_append_left _ mem)
    have new : msg.fillId ∉ between.fillIds.seen := by
      rw [earlier.seen, mem_afterDeliveries_fillId]
      rintro (old | again)
      · exact fresh msg (mem_append_right _ mem_cons_self) old
      · exact distinct.2.2 _ again _ (mem_singleton_self _) rfl
    cases accepted with
    | repeated old => exact absurd old new
    | booked unseen more holdings cash held settled =>
      obtain ⟨own, still, silent⟩ := booked_moved (earlier.owned owned) held
      refine ⟨events ++ more, ?_, ?_, ?_, ?_⟩
      · change between.positionClosedEvents ++ more = _
        rw [moved.emitted, append_assoc]
      · intro event mem
        rw [map_append, mem_append]
        rcases mem_append.mp mem with early | late
        · exact .inl (moved.closes event early)
        · exact .inr (mem_singleton.mpr (own event late))
      · intro instrumentId absent
        rw [map_append, mem_append, not_or] at absent
        exact (still instrumentId (fun same => absent.2 (mem_singleton.mpr same))).trans
          (moved.still instrumentId absent.1)
      · intro instrumentId filled open_
        have openEarly : ∀ event ∈ events, event.instrumentId ≠ instrumentId :=
          fun event mem => open_ event (mem_append_left _ mem)
        by_cases same : instrumentId = msg.fill.instrumentId
        · subst same
          refine silent (eq_nil_iff_forall_not_mem.mpr fun event mem => ?_)
          exact open_ event (mem_append_right _ mem) (own event mem)
        · change (holdings.holding instrumentId).quantity ≠ 0
          rw [still instrumentId same]
          rw [map_append, mem_append] at filled
          rcases filled with early | late
          · exact moved.held instrumentId early openEarly
          · exact absurd (mem_singleton.mp late) same

end AccountActor

namespace ReportingLoop

open AccountPartition TargetIntentProcessor BacktestActorLoop OrderIdentity

variable {deps : ReportingLoopDependencies} {state next : ReportingLoop}

def Held (state : ReportingLoop) (instrumentId : InstrumentId) : Prop :=
  ∃ accountId, ((state.loop.world accountId).account.holdings.holding instrumentId).quantity ≠ 0

/-- Some account holds something. -/
def InMarket (state : ReportingLoop) : Prop :=
  ∃ instrumentId, state.Held instrumentId

/-- The positions that an intent closes are flat afterwards, in every account. -/
def ClosesFlat (deps : ReportingLoopDependencies) (state : ReportingLoop) :
    ReportingEvent → Prop
  | .intent bar batch intent correlationId => ∀ req accountId processed after,
      route deps bar batch intent correlationId = .ok (req, accountId) →
      state.runIntent deps req accountId = .ok processed after →
      ∀ event ∈ closedSince (state.loop.world accountId) (after.world accountId), ∀ other,
        ((after.world other).account.holdings.holding event.instrumentId).quantity = 0
  | _ => True

structure Tracked (state : ReportingLoop) : Prop where
  reported : Reported state
  open_iff : ∀ instrumentId,
    instrumentId ∈ state.statistics.openInstruments ↔ state.Held instrumentId

theorem Tracked.occupied_iff (tracked : Tracked state) :
    state.statistics.occupied = true ↔ state.InMarket := by
  rw [occupied, decide_eq_true_iff]
  exact exists_congr tracked.open_iff

/-- Where no account takes anything, the open instruments are still those held. -/
theorem Tracked.of_rests {caps : PythonText.UpperCase} (tracked : Tracked state)
    (rests : Rests caps state next) : Tracked next where
  reported := tracked.reported.of_rests rests
  open_iff instrumentId := by
    rw [rests.openInstruments, tracked.open_iff]
    refine exists_congr fun accountId => ?_
    rw [← (rests.booked accountId).took.nothing.holdings]

section Processed

variable {req : IntentRequest} {accountId : AccountId} {processed : ProcessedIntent}
  {after : IntentProcessing AccountWorld} {messages : List ApplyFill} {owner : Option AccountId}
  {last : AccountPartition}

theorem Finishes.openInstruments
    (processes : Processes deps state req accountId processed after messages)
    (finishes : Finishes deps state req accountId processed after owner last next) :
    next.statistics.openInstruments =
      (state.statistics.openInstruments ∪ (messages.map (·.fill.instrumentId)).toFinset) \
        ((after.world accountId).account.positionClosedEvents.map (·.instrumentId)).toFinset := by
  have rows : ((processed.fills.map (ledgerRow req.bar)).map (·.instrumentId)) =
      messages.map (·.fill.instrumentId) := by
    rw [processes.fills, map_map, map_map]
    rfl
  have filled := foldl_onFill_openInstruments state.statistics
    (processed.fills.map (ledgerRow req.bar))
  rw [rows] at filled
  rw [finishes.reports, ← filled]
  exact foldl_writePositionClosed_openInstruments _ _

theorem Finishes.tracked (tracked : Tracked state)
    (processes : Processes deps state req accountId processed after messages)
    (finishes : Finishes deps state req accountId processed after owner last next)
    (flat : ∀ event ∈ closedSince (state.loop.world accountId) (after.world accountId), ∀ other,
      ((after.world other).account.holdings.holding event.instrumentId).quantity = 0) :
    Tracked next := by
  have between := tracked.reported.between accountId
  obtain ⟨events, moved⟩ := processes.holds.at.took.moved between.owned processes.distinct
    processes.unknown
  have closed : (after.world accountId).account.positionClosedEvents = events := by
    rw [moved.emitted, between.drained, nil_append]
  rw [closedSince, between.drained, length_nil, drop_zero, closed] at flat
  -- The accounts hold after the report what they hold before it.
  have held (instrumentId : InstrumentId) : next.Held instrumentId ↔
      ∃ other, ((after.world other).account.holdings.holding instrumentId).quantity ≠ 0 := by
    refine exists_congr fun other => ?_
    rw [finishes.world processes]
    by_cases same : other = accountId
    · subst same
      rw [Function.update_self, finishes.holdings]
    · rw [Function.update_of_ne same]
  refine ⟨finishes.reported tracked.reported processes, fun instrumentId => ?_⟩
  rw [finishes.openInstruments processes, closed, held, Finset.mem_sdiff, Finset.mem_union,
    mem_toFinset, mem_toFinset, tracked.open_iff]
  by_cases closes : instrumentId ∈ events.map (·.instrumentId)
  · obtain ⟨event, mem, rfl⟩ := mem_map.mp closes
    refine iff_of_false (fun holds => holds.2 closes) ?_
    rintro ⟨other, open_⟩
    exact open_ (flat event mem other)
  have silent : ∀ event ∈ events, event.instrumentId ≠ instrumentId := fun event mem same =>
    closes (mem_map.mpr ⟨event, mem, same⟩)
  by_cases filled : instrumentId ∈ messages.map (·.fill.instrumentId)
  · exact iff_of_true ⟨.inr filled, closes⟩ ⟨accountId, moved.held instrumentId filled silent⟩
  · simp only [filled, closes, or_false, not_false_eq_true, and_true]
    refine exists_congr fun other => ?_
    by_cases same : other = accountId
    · subst same
      rw [moved.still instrumentId filled]
    · rw [processes.holds.other same]

end Processed

/-- The condition on a step: new fills, and closed positions that are flat in every account. -/
def KeepsTrack (deps : ReportingLoopDependencies) (state : ReportingLoop)
    (event : ReportingEvent) : Prop :=
  TakesNewFills deps state event ∧ ClosesFlat deps state event

theorem step_tracked (state : ReportingLoop) (event : ReportingEvent)
    (tracked : state.loop.unhandled = none → Tracked state)
    (condition : KeepsTrack deps state event) :
    (step deps state event).2.loop.unhandled = none →
      Tracked (step deps state event).2 := by
  unfold step
  split
  · exact tracked
  · next running =>
    have before := tracked (Option.not_isSome_iff_eq_none.mp running)
    cases event with
    | intent bar batch intent correlationId =>
      intro running
      rcases processStrategyIntent_cases before.reported condition.1 running with
        rests | ⟨req, accountId, processed, after, messages, owner, last, routed, processes,
          finishes⟩
      · exact before.of_rests rests
      · exact finishes.tracked before processes
          (condition.2 req accountId processed after routed processes.ran)
    | marketData instrumentContext =>
      have rests : Rests deps.caps state { state with
          loop := { state.loop with instrumentContext } } :=
        ⟨(Rests.refl before.reported).booked, rfl, rfl, rfl, rfl⟩
      exact fun _ => before.of_rests rests
    | cancels accountId intents =>
      exact fun running => before.of_rests
        (routeStrategyCancels_rests before.reported accountId intents running)
    | equityPoint equity =>
      exact fun running => before.of_rests (writeEquityPoint_rests before.reported equity running).1

theorem start_tracked (instrumentContext : RuntimeInstrumentContext) :
    Tracked (start deps instrumentContext) where
  reported := start_reported instrumentContext
  open_iff instrumentId := by
    refine iff_of_false (Finset.notMem_empty _) ?_
    rintro ⟨accountId, open_⟩
    exact open_ rfl

/-- After an unhandled exception nothing happens. -/
theorem final_of_unhandled (events : List ReportingEvent) (raised : state.loop.unhandled.isSome) :
    final (step deps) state events = state := by
  induction events with
  | nil => rfl
  | cons event events ih =>
    have still : step deps state event = ((), state) := if_pos raised
    rw [final_cons, still, ih]

/-- In every run whose fills are new and whose closed positions are flat, an equity point counts as
one in the market exactly where some account holds something. -/
theorem equityPoint_occupied (deps : ReportingLoopDependencies)
    (instrumentContext : RuntimeInstrumentContext) (earlier later : List ReportingEvent)
    (equity : List (AccountId × AccountSnapshot) → Except Failure Decimal)
    (condition : EveryStep (step deps) (KeepsTrack deps)
      (start deps instrumentContext) (earlier ++ .equityPoint equity :: later))
    (handled : (final (step deps) (start deps instrumentContext)
      (earlier ++ .equityPoint equity :: later)).loop.unhandled = none) :
    let before := final (step deps) (start deps instrumentContext) earlier
    let after := (step deps before (.equityPoint equity)).2
    (before.InMarket → after.statistics.occupiedBars = before.statistics.occupiedBars + 1) ∧
    (¬ before.InMarket → after.statistics.occupiedBars = before.statistics.occupiedBars) := by
  intro before after
  rw [final_append, final_cons] at handled
  have running : after.loop.unhandled = none := by
    by_contra raised
    have ended := @final_of_unhandled deps after later
      (Option.isSome_iff_ne_none.mpr raised)
    exact raised (ended ▸ handled)
  have runningBefore : before.loop.unhandled = none := by
    by_contra raised
    have ended : step deps before (.equityPoint equity) = ((), before) :=
      if_pos (Option.isSome_iff_ne_none.mpr raised)
    have kept : after = before := congrArg Prod.snd ended
    exact raised (kept ▸ running)
  have early := ((everyStep_append (step deps) _ _ _ _).mp condition).1
  have tracked : Tracked before := final_invariant_of_everyStep
    (@step_tracked deps) (fun _ => start_tracked instrumentContext) early runningBefore
  have counted : after.statistics.occupiedBars =
      before.statistics.occupiedBars + (if before.statistics.occupied then 1 else 0) := by
    have stepped : step deps before (.equityPoint equity) =
        ((), before.writeEquityPoint deps equity) :=
      if_neg (by rw [runningBefore]; exact Bool.false_ne_true)
    have written : after = before.writeEquityPoint deps equity :=
      congrArg Prod.snd stepped
    rw [written] at running ⊢
    exact (writeEquityPoint_rests tracked.reported equity running).2
  rw [counted, ← tracked.occupied_iff]
  exact ⟨fun occupied => by rw [if_pos occupied], fun vacant => by rw [if_neg vacant]; rfl⟩

open OrderIdentity

/-- An account that checks nothing before it sends its orders. -/
def uncheckedDependencies : ReportingLoopDependencies :=
  { concentrationDependencies with riskEngine := { rules := [] } }

/-- One contract is bought, and the next order sells two. -/
def flipped : ReportingLoop :=
  final (step uncheckedDependencies) (start uncheckedDependencies rollingContext)
    [hold marchBar marchContract 1, hold marchBar marchContract (-1)]

/-- The account is short, and the equity point is not counted. -/
theorem flipped_unoccupied :
    flipped.InMarket ∧
      (step uncheckedDependencies flipped
        (.equityPoint fun _ => .ok 1000)).2.loop.unhandled = none ∧
      (step uncheckedDependencies flipped
        (.equityPoint fun _ => .ok 1000)).2.statistics.occupiedBars =
          flipped.statistics.occupiedBars := by
  refine ⟨⟨marchContract, accountOne, ?_⟩, by decide +kernel, by decide +kernel⟩
  have short : ((flipped.loop.world accountOne).account.holdings.holding marchContract).quantity =
      -1 := by decide +kernel
  rw [short]
  decide

theorem bought_closesNothing :
    (match route uncheckedDependencies marchBar {} (holding marchContract 1 .default)
        ⟨⟨"correlation-1", rfl⟩⟩ with
      | .error _ => 0
      | .ok (req, accountId) =>
        match (start uncheckedDependencies rollingContext).runIntent uncheckedDependencies req
            accountId with
        | .error _ _ => 0
        | .ok _ after =>
          (closedSince ((start uncheckedDependencies rollingContext).loop.world accountId)
            (after.world accountId)).length) = 0 := by
  decide +kernel

/-- With one contract bought the point is counted. -/
theorem equityPoint_occupied_bought :
    let bought := final (step uncheckedDependencies)
      (start uncheckedDependencies rollingContext) [hold marchBar marchContract 1]
    (step uncheckedDependencies bought (.equityPoint fun _ => .ok 1000)).2.statistics.occupiedBars =
      bought.statistics.occupiedBars + 1 := by
  intro bought
  let opening := start uncheckedDependencies rollingContext
  have closesNothing : ∀ req accountId processed after,
      route uncheckedDependencies marchBar {} (holding marchContract 1 .default)
        ⟨⟨"correlation-1", rfl⟩⟩ = .ok (req, accountId) →
      opening.runIntent uncheckedDependencies req accountId = .ok processed after →
      closedSince (opening.loop.world accountId) (after.world accountId) = [] := by
    intro req accountId processed after routed ran
    have closed := bought_closesNothing
    rw [routed] at closed
    dsimp only at closed
    rw [ran] at closed
    exact length_eq_zero_iff.mp closed
  have inMarket : bought.InMarket := by
    refine ⟨marchContract, accountOne, ?_⟩
    have long : ((bought.loop.world accountOne).account.holdings.holding marchContract).quantity =
        1 := by decide +kernel
    rw [long]
    decide
  refine (equityPoint_occupied uncheckedDependencies rollingContext
    [hold marchBar marchContract 1] [] (fun _ => .ok 1000) ?_ (by decide +kernel)).1 inMarket
  refine ⟨⟨fun _ _ _ _ _ _ _ _ _ old => absurd old (Finset.notMem_empty _), ?_⟩,
    ⟨trivial, trivial⟩, trivial⟩
  intro req accountId processed after routed ran event mem
  rw [closesNothing req accountId processed after routed ran] at mem
  exact absurd mem not_mem_nil

end ReportingLoop

end Qts
