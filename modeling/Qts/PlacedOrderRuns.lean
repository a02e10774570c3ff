import Qts.PlacedOrderRoutes

/-! # Runs of the order session -/

namespace Qts.IbkrOrderSession

open EStateM Function IbkrOrderRequest List Option PythonText StepRuns

open RaisingCalls IbkrCallbackNormalizer BrokerOrderMap

structure Numbered (client : IbkrOrderClient) : Prop where
  distinct : (client.placed.map (·.orderId)).Nodup
  below : ∀ order ∈ client.placed, order.orderId < client.nextId.getD 0

def OfPlaced (placed : List PlacedOrder) (known : Routes) : Prop :=
  ∀ clientOrderId internalOrderId brokerOrderId,
    known clientOrderId = some (internalOrderId, brokerOrderId) →
    (∃ order ∈ placed, order.ref = clientOrderId) ∧
    ∀ id, brokerOrderId = some id →
      ∃ order ∈ placed, order.ref = clientOrderId ∧ toString order.orderId = id

/-- Every placed order's reference is routed to the id it was placed with. -/
def Recorded (placed : List PlacedOrder) (known : Routes) : Prop :=
  ∀ order ∈ placed, ∃ internalOrderId,
    known order.ref = some (internalOrderId, some (toString order.orderId))

def internals (known : Routes) (clientOrderId : String) : Option OrderId :=
  (known clientOrderId).map Prod.fst

/-- The broker echoes a placed order's id with the order's reference. -/
def EchoesPlaced (placed : List PlacedOrder) (clientOrderId ibkrOrderId : String) : Prop :=
  (∃ order ∈ placed, order.ref = clientOrderId) →
    ∃ order ∈ placed, order.ref = clientOrderId ∧ toString order.orderId = ibkrOrderId

section Routes

variable {placed : List PlacedOrder} {known : Routes}

theorem same_of_id (distinct : (placed.map (·.orderId)).Nodup) {first second : PlacedOrder}
    (firstMember : first ∈ placed) (secondMember : second ∈ placed)
    (sameId : toString first.orderId = toString second.orderId) : first = second :=
  inj_on_of_nodup_map distinct firstMember secondMember
    (OrderNumbers.toString_injective sameId)

theorem OfPlaced.ref_eq (ofPlaced : OfPlaced placed known)
    (distinct : (placed.map (·.orderId)).Nodup) {order : PlacedOrder} (mem : order ∈ placed)
    {clientOrderId : String} {internalOrderId : OrderId}
    (routed : known clientOrderId = some (internalOrderId, some (toString order.orderId))) :
    clientOrderId = order.ref := by
  obtain ⟨_, echoed⟩ := ofPlaced _ _ _ routed
  obtain ⟨other, otherMember, ref, id⟩ := echoed _ rfl
  obtain rfl := same_of_id distinct otherMember mem id
  exact ref.symm

theorem Recorded.eq_of_ref (recorded : Recorded placed known)
    (distinct : (placed.map (·.orderId)).Nodup) {first second : PlacedOrder}
    (firstMember : first ∈ placed) (secondMember : second ∈ placed)
    (sameRef : first.ref = second.ref) : first = second := by
  obtain ⟨_, firstRoute⟩ := recorded first firstMember
  obtain ⟨_, secondRoute⟩ := recorded second secondMember
  rw [sameRef, secondRoute] at firstRoute
  simp only [some.injEq, Prod.mk.injEq] at firstRoute
  exact same_of_id distinct firstMember secondMember firstRoute.2.symm

theorem OfPlaced.mono {more : List PlacedOrder} (ofPlaced : OfPlaced placed known)
    (subset : ∀ order ∈ placed, order ∈ more) : OfPlaced more known := by
  intro clientOrderId internalOrderId brokerOrderId routed
  obtain ⟨⟨order, mem, ref⟩, echoed⟩ := ofPlaced _ _ _ routed
  refine ⟨⟨order, subset order mem, ref⟩, ?_⟩
  intro id attached
  obtain ⟨other, otherMember, both⟩ := echoed id attached
  exact ⟨other, subset other otherMember, both⟩

theorem OfPlaced.attachable : Attachable (EchoesPlaced placed) (OfPlaced placed) := by
  intro known clientOrderId ibkrOrderId internalOrderId old ofPlaced found echoed
    other internal brokerOrderId routed
  rw [update_apply] at routed
  split at routed
  · next same =>
    subst same
    cases routed
    have placedRef := (ofPlaced _ _ _ found).1
    refine ⟨placedRef, ?_⟩
    rintro id ⟨⟩
    exact echoed placedRef
  · exact ofPlaced _ _ _ routed

theorem internals_attachable {echoes : String → String → Prop} (base : Routes) :
    Attachable echoes fun known => internals known = internals base := by
  intro known clientOrderId ibkrOrderId internalOrderId old same found _
  rw [← same]
  funext other
  rw [internals, internals, update_apply]
  split
  · next equal => rw [equal, found]; rfl
  · rfl

theorem Recorded.attach (recorded : Recorded placed known) {clientOrderId ibkrOrderId : String}
    {internalOrderId : OrderId} {old : Option String}
    (found : known clientOrderId = some (internalOrderId, old))
    (echoed : ∃ order ∈ placed, order.ref = clientOrderId ∧ toString order.orderId = ibkrOrderId) :
    update known clientOrderId (some (internalOrderId, some ibkrOrderId)) = known := by
  obtain ⟨order, mem, rfl, rfl⟩ := echoed
  obtain ⟨internal, routed⟩ := recorded order mem
  rw [found] at routed
  simp only [some.injEq, Prod.mk.injEq] at routed
  rw [← routed.2, ← found, update_eq_self]

end Routes

structure Consistent (session : IbkrOrderSession) : Prop where
  numbered : Numbered session.client
  routed : session.normalizer.Routed fun known =>
    OfPlaced session.client.placed known ∧ Recorded session.client.placed known

def Echoing (caps : UpperCase) (session : IbkrOrderSession) :
    IbkrSessionEvent → Prop
  | .submit req arriving _ =>
    let placed := endState ((placeOrders caps req).run session)
    ∀ callback ∈ arriving, Echoes (EchoesPlaced placed.client.placed) callback
  | .callback callback _ => Echoes (EchoesPlaced session.client.placed) callback
  | .resolve _ => ∀ payload ∈ session.normalizer.quarantinedOpenOrders,
      Echoes (EchoesPlaced session.client.placed) (.openOrder payload)
  | _ => True

/-- A request that places orders is no bracket, names its account, and is for a client order and an
internal order that the broker-order map does not know yet. -/
def Recordable (caps : UpperCase) (session : IbkrOrderSession) :
    IbkrSessionEvent → Prop
  | .submit req _ _ => ∀ firstId orders map, session.client.nextId = some firstId →
      req.orders caps firstId = .ok orders →
      session.normalizer.calls.orderMap = some map →
      req.orderType ≠ .bracket ∧ req.internalAccountId ≠ none ∧
        map.byClientOrderId.get? req.clientOrderId = none ∧
        map.clientByInternalOrderId.get? req.internalOrderId = none
  | _ => True

/-- The broker-order map finds the id of a placed order. -/
def Found (session : IbkrOrderSession) (order : PlacedOrder) : Prop :=
  ∃ map, session.normalizer.calls.orderMap = some map ∧
    (map.byIbkrOrderId (toString order.orderId)).isOk = true

/-- Every placed id is found, and resolving the quarantine leaves none of its executions there. -/
structure Resolvable (session : IbkrOrderSession) : Prop where
  found : ∀ order ∈ session.client.placed, Found session order
  settled : ∀ now reports after,
    (∀ payload ∈ session.normalizer.quarantinedOpenOrders,
      Echoes (EchoesPlaced session.client.placed) (.openOrder payload)) →
    (resolveQuarantinedCallbacks now).run session.normalizer = .ok reports after →
    ∀ payload ∈ after.calls.callbackQuarantine.executions,
      after.calls.isForeign payload = false →
      ∀ order ∈ session.client.placed, payload.brokerOrderId ≠ toString order.orderId

theorem consistent_attachable (placed : List PlacedOrder) :
    Attachable (EchoesPlaced placed)
      fun known => OfPlaced placed known ∧ Recorded placed known := by
  rintro known clientOrderId ibkrOrderId internalOrderId old ⟨ofPlaced, recorded⟩ found echoed
  have same := recorded.attach found (echoed (ofPlaced _ _ _ found).1)
  rw [same]
  exact ⟨ofPlaced, recorded⟩

theorem found_of_recorded {session : IbkrOrderSession} {placed : List PlacedOrder}
    (routed : session.normalizer.Routed (Recorded placed)) {order : PlacedOrder}
    (mem : order ∈ placed) : Found session order := by
  obtain ⟨map, present, indexed, recorded⟩ := routed
  obtain ⟨internal, route⟩ := recorded order mem
  exact ⟨map, present, (indexed.byIbkrOrderId_isOk_iff _).mpr ⟨order.ref, internal, route⟩⟩

theorem routed_mono {first second : Routes → Prop} {normalizer : IbkrCallbackNormalizer}
    (routed : normalizer.Routed first) (implies : ∀ known, first known → second known) :
    normalizer.Routed second := by
  obtain ⟨map, present, indexed, holds⟩ := routed
  exact ⟨map, present, indexed, implies _ holds⟩

theorem Consistent.resolvable {session : IbkrOrderSession} (consistent : Consistent session) :
    Resolvable session where
  found order mem :=
    found_of_recorded (routed_mono consistent.routed fun _ holds => holds.2) mem
  settled := by
    intro now reports after echoed ran payload mem own order placed sameId
    have ends := resolveQuarantinedCallbacks_ends (consistent_attachable session.client.placed) now
      consistent.routed echoed
    rw [Ends, ran] at ends
    obtain ⟨⟨map, present, indexed, _, recorded⟩, settled⟩ := ends
    obtain ⟨internal, route⟩ := recorded order placed
    have known := (indexed.byIbkrOrderId_isOk_iff _).mpr ⟨order.ref, internal, route⟩
    rcases settled payload mem with foreign | unknown
    · rw [own] at foreign
      cases foreign
    · rw [IbkrCallbacks.resolves, present, sameId] at unknown
      simp only [all_some] at unknown
      rw [known] at unknown
      cases unknown

theorem start_consistent (accountId : String) (symbolMapping : BrokerSymbolMapping) :
    Consistent (start accountId symbolMapping) where
  numbered := ⟨nodup_nil, by rintro order ⟨⟩⟩
  routed := by
    refine ⟨.init, rfl, init_indexed, ?_, ?_⟩
    · rintro clientOrderId internalOrderId brokerOrderId ⟨⟩
    · rintro order ⟨⟩

theorem onNormalizer_endState {Value : Type} (call : NormalizerCall Value)
    (session : IbkrOrderSession) :
    endState ((onNormalizer call).run session) =
      { session with normalizer := endState (call.run session.normalizer) } := by
  rw [run, onNormalizer]
  cases call.run session.normalizer <;> rfl

theorem reportsOf_state (result : Result Failure IbkrOrderSession
    (List ExecutionReport)) : (reportsOf result).2 = endState result := by
  cases result <;> rfl

theorem arrive_routed {echoes : String → String → Prop} {routed : Routes → Prop}
    (attachable : Attachable echoes routed) (now : DateTime) {calls : List IbkrCallback}
    (echoed : ∀ callback ∈ calls, Echoes echoes callback) {session : IbkrOrderSession}
    (routing : session.normalizer.Routed routed) :
    (session.arrive now calls).2.normalizer.Routed routed ∧
      (session.arrive now calls).2.client = session.client := by
  induction calls generalizing session with
  | nil => exact ⟨routing, rfl⟩
  | cons callback rest ih =>
    have later := fun {session : IbkrOrderSession} => @ih
      (fun other mem => echoed other (mem_cons_of_mem _ mem)) session
    have kept := dispatch_routed attachable (echoed callback mem_cons_self) now
      session.normalizer routing
    unfold arrive
    cases ran : (dispatch callback now).run session.normalizer with
    | ok reports normalizer =>
      rw [ran] at kept
      exact @later { session with normalizer } kept
    | error failure normalizer =>
      rw [ran] at kept
      exact @later { session with normalizer } kept

def withPlaced (session : IbkrOrderSession) (req : IbkrOrderRequest) (firstId : Nat)
    (orders : List PlacedOrder) : IbkrOrderSession :=
  { session with client := {
      nextId := some (firstId + req.reserved)
      placed := session.client.placed ++ orders } }

theorem placeOrders_placed {caps : UpperCase} {req : IbkrOrderRequest}
    {session : IbkrOrderSession} {firstId : Nat} {orders : List PlacedOrder}
    (next : session.client.nextId = some firstId)
    (built : req.orders caps firstId = .ok orders) :
    (placeOrders caps req).run session =
      .ok firstId (session.withPlaced req firstId orders) := by
  rw [placeOrders]
  simp only [run_bind, run_get, next]
  rw [built]
  rfl

theorem Numbered.withPlaced {caps : UpperCase} {req : IbkrOrderRequest}
    {session : IbkrOrderSession} {firstId : Nat} {orders : List PlacedOrder}
    (numbered : Numbered session.client) (next : session.client.nextId = some firstId)
    (built : req.orders caps firstId = .ok orders) :
    Numbered (session.withPlaced req firstId orders).client := by
  have ids := (orders_ids built).1
  have below := numbered.below
  rw [next] at below
  have bounds : ∀ order ∈ orders, firstId ≤ order.orderId ∧
      order.orderId < firstId + req.reserved := by
    intro order mem
    have among : order.orderId ∈ range' firstId req.reserved :=
      ids ▸ mem_map_of_mem mem
    simpa using among
  constructor
  · rw [IbkrOrderSession.withPlaced, map_append, nodup_append]
    refine ⟨numbered.distinct, ids ▸ nodup_range', ?_⟩
    rintro old oldMember new newMember rfl
    obtain ⟨before, beforeMember, rfl⟩ := mem_map.mp oldMember
    obtain ⟨after, afterMember, sameId⟩ := mem_map.mp newMember
    have low : before.orderId < firstId := below before beforeMember
    have high := (bounds after afterMember).1
    omega
  · intro order mem
    change order.orderId < firstId + req.reserved
    rcases mem_append.mp mem with old | new
    · have low : order.orderId < firstId := below order old
      omega
    · exact (bounds order new).2

section Submission

variable {caps : UpperCase} {req : IbkrOrderRequest} {session : IbkrOrderSession}
  {firstId : Nat} {orders : List PlacedOrder} {arriving : List IbkrCallback} {now : DateTime}

def arrived (session : IbkrOrderSession) (req : IbkrOrderRequest) (firstId : Nat)
    (orders : List PlacedOrder) (now : DateTime) (arriving : List IbkrCallback) :
    IbkrOrderSession :=
  ((session.withPlaced req firstId orders).arrive now arriving).2

theorem step_submit (next : session.client.nextId = some firstId)
    (built : req.orders caps firstId = .ok orders) :
    (step caps session (.submit req arriving now)).2 =
      let between := session.arrived req firstId orders now arriving
      { between with normalizer := endState ((recordSubmittedOrder req (toString firstId)
          now).run between.normalizer) } := by
  rw [← onNormalizer_endState]
  simp only [step, submitOrderWithBrokerId, placeOrders_placed next built]
  rw [arrived]
  cases (onNormalizer (recordSubmittedOrder req (toString firstId) now)).run
    ((session.withPlaced req firstId orders).arrive now arriving).2 <;> rfl

theorem step_submit_unplaced (numbered : Numbered session.client)
    (unplaced : ∀ firstId orders, session.client.nextId = some firstId →
      req.orders caps firstId ≠ .ok orders) :
    Numbered (step caps session (.submit req arriving now)).2.client ∧
      (step caps session (.submit req arriving now)).2.client.placed =
        session.client.placed ∧
      (step caps session (.submit req arriving now)).2.normalizer =
        session.normalizer := by
  cases next : session.client.nextId with
  | none =>
    have ran : (placeOrders caps req).run session =
        .error (.runtimeError "IBKR order-execution transport has no next order id") session := by
      rw [placeOrders]
      simp only [run_bind, run_get, next]
      rfl
    simp only [step, submitOrderWithBrokerId, ran]
    exact ⟨numbered, trivial, trivial⟩
  | some firstId =>
    cases built : req.orders caps firstId with
    | ok orders => exact absurd built (unplaced firstId orders next)
    | error msg =>
      have ran : (placeOrders caps req).run session = .error (.valueError msg)
          { session with client :=
              { session.client with nextId := some (firstId + req.reserved) } } := by
        rw [placeOrders]
        simp only [run_bind, run_get, next]
        rw [built]
        rfl
      simp only [step, submitOrderWithBrokerId, ran]
      refine ⟨⟨numbered.distinct, ?_⟩, trivial, trivial⟩
      intro order mem
      have low := numbered.below order mem
      rw [next] at low
      exact Nat.lt_of_lt_of_le low (Nat.le_add_right _ _)

/-- What placed orders may have as routes while the callbacks of a submission arrive. -/
def Arriving (placed : List PlacedOrder) (base known : Routes) : Prop :=
  OfPlaced placed known ∧ internals known = internals base

theorem arriving_attachable (placed : List PlacedOrder) (base : Routes) :
    Attachable (EchoesPlaced placed) (Arriving placed base) := by
  rintro known clientOrderId ibkrOrderId internalOrderId old ⟨ofPlaced, same⟩ found echoed
  exact ⟨OfPlaced.attachable _ _ _ _ _ ofPlaced found echoed,
    internals_attachable base _ _ _ _ _ same found echoed⟩

theorem arrived_client {map : BrokerOrderMap} (consistent : Consistent session)
    (present : session.normalizer.calls.orderMap = some map)
    (echoed : ∀ callback ∈ arriving,
      Echoes (EchoesPlaced (session.client.placed ++ orders)) callback) :
    (session.arrived req firstId orders now arriving).client =
        (session.withPlaced req firstId orders).client ∧
      (session.arrived req firstId orders now arriving).normalizer.Routed
        (Arriving (session.client.placed ++ orders) map.routes) := by
  obtain ⟨found, sameMap, indexed, ofPlaced, _⟩ := consistent.routed
  rw [present] at sameMap
  cases sameMap
  have routing : (session.withPlaced req firstId orders).normalizer.Routed
      (Arriving (session.client.placed ++ orders) map.routes) :=
    ⟨map, present, indexed, ofPlaced.mono fun order => mem_append_left _, rfl⟩
  have kept := arrive_routed (arriving_attachable _ _) now echoed routing
  exact ⟨kept.2, kept.1⟩

theorem placed_ne_new (numbered : Numbered (session.withPlaced req firstId orders).client)
    {old new : PlacedOrder} (oldMember : old ∈ session.client.placed) (newMember : new ∈ orders) :
    old ≠ new := by
  have distinct := numbered.distinct
  rw [withPlaced, map_append, nodup_append] at distinct
  rintro rfl
  exact distinct.2.2 _ (mem_map_of_mem oldMember) _ (mem_map_of_mem newMember) rfl

theorem get?_eq_none_of_routes {map : BrokerOrderMap} {clientOrderId : String}
    (unknown : internals map.routes clientOrderId = none) :
    map.byClientOrderId.get? clientOrderId = none := by
  simpa [internals, routes] using unknown

theorem internals_eq_some_iff {map : BrokerOrderMap} (indexed : map.Indexed)
    {clientOrderId : String} {internalOrderId : OrderId} :
    internals map.routes clientOrderId = some internalOrderId ↔
      map.clientByInternalOrderId.get? internalOrderId = some clientOrderId := by
  rw [indexed.internal internalOrderId clientOrderId]
  simp [internals, routes]

/-- The routes after recording: those of placed orders, and at most the submitted client order is
new. -/
def Submitted (placed : List PlacedOrder) (base : Routes) (clientOrderId : String)
    (known : Routes) : Prop :=
  OfPlaced placed known ∧
    ∀ other, internals known other ≠ none → internals base other ≠ none ∨ other = clientOrderId

theorem recorded_submitted {placed : List PlacedOrder} {base : Routes}
    {normalizer : IbkrCallbackNormalizer} (routing : normalizer.Routed (Arriving placed base))
    {parent : PlacedOrder} (mem : parent ∈ placed) (ref : parent.ref = req.clientOrderId)
    (now : DateTime) :
    (endState ((recordSubmittedOrder req (toString parent.orderId) now).run
      normalizer)).Routed (Submitted placed base req.clientOrderId) := by
  have echoed : EchoesPlaced placed req.clientOrderId (toString parent.orderId) :=
    fun _ => ⟨parent, mem, ref, rfl⟩
  have attachable : Attachable (EchoesPlaced placed)
      (Submitted placed base req.clientOrderId) := by
    rintro known clientOrderId ibkrOrderId internalOrderId old ⟨ofPlaced, bound⟩ found echo
    refine ⟨OfPlaced.attachable _ _ _ _ _ ofPlaced found echo, ?_⟩
    rw [internals_attachable known _ _ _ _ _ rfl found echo]
    exact bound
  refine recordSubmittedOrder_routed attachable echoed ?_ now normalizer
    (routed_mono routing ?_)
  · rintro known ⟨ofPlaced, bound⟩ fresh
    constructor
    · intro other internal brokerOrderId routed
      rw [update_apply] at routed
      split at routed
      · next same =>
        cases routed
        exact ⟨⟨parent, mem, ref.trans same.symm⟩, by rintro id ⟨⟩⟩
      · exact ofPlaced _ _ _ routed
    · intro other isKnown
      by_cases same : other = req.clientOrderId
      · exact .inr same
      · rw [internals, update_of_ne same] at isKnown
        exact bound other isKnown
  · rintro known ⟨ofPlaced, same⟩
    exact ⟨ofPlaced, fun other isKnown => .inl (same ▸ isKnown)⟩

theorem recorded_of_found {after : IbkrOrderSession} {placed : List PlacedOrder}
    {routed : Routes → Prop} (routing : after.normalizer.Routed routed)
    (ofPlaced : ∀ known, routed known → OfPlaced placed known)
    (distinct : (placed.map (·.orderId)).Nodup) (found : ∀ order ∈ placed, Found after order) :
    after.normalizer.Routed fun known => routed known ∧ Recorded placed known := by
  obtain ⟨map, present, indexed, holds⟩ := routing
  refine ⟨map, present, indexed, holds, ?_⟩
  intro order mem
  obtain ⟨other, presentOther, isFound⟩ := found order mem
  rw [present] at presentOther
  cases presentOther
  obtain ⟨clientOrderId, internal, route⟩ := (indexed.byIbkrOrderId_isOk_iff _).mp isFound
  have ref := (ofPlaced _ holds).ref_eq distinct mem route
  exact ⟨internal, ref ▸ route⟩

theorem not_found_of_unrecordable {map : BrokerOrderMap} (consistent : Consistent session)
    (next : session.client.nextId = some firstId)
    (built : req.orders caps firstId = .ok orders)
    (present : session.normalizer.calls.orderMap = some map)
    (echoed : ∀ callback ∈ arriving,
      Echoes (EchoesPlaced (session.client.placed ++ orders)) callback)
    (unrecordable : ¬ (req.orderType ≠ .bracket ∧ req.internalAccountId ≠ none ∧
      map.byClientOrderId.get? req.clientOrderId = none ∧
      map.clientByInternalOrderId.get? req.internalOrderId = none)) :
    ¬ ∀ order ∈ (step caps session (.submit req arriving now)).2.client.placed,
      Found (step caps session (.submit req arriving now)).2 order := by
  have numbered := consistent.numbered.withPlaced next built
  obtain ⟨client, routing⟩ := @arrived_client req session firstId orders arriving now map
    consistent present echoed
  obtain ⟨_, sameMap, indexed, ofPlacedBefore, _⟩ := consistent.routed
  cases present.symm.trans sameMap
  obtain ⟨parent, parentMember, parentId, parentRef⟩ := (orders_ids built).2
  have parentPlaced : parent ∈ session.client.placed ++ orders :=
    mem_append_right _ parentMember
  rw [step_submit next built]
  dsimp only
  rw [client]
  intro found
  have submitted := recorded_submitted routing parentPlaced parentRef now
  rw [parentId] at submitted
  obtain ⟨last, lastPresent, lastIndexed, ⟨ofPlaced, bound⟩, recorded⟩ :=
    recorded_of_found submitted (fun _ holds => holds.1) numbered.distinct found
  -- No order placed before can share the reference of a new one.
  have unshared : ∀ new ∈ orders, internals map.routes new.ref = none := by
    intro new newMember
    by_contra isKnown
    obtain ⟨internal, route⟩ := ne_none_iff_exists'.mp isKnown
    obtain ⟨⟨_, brokerOrderId⟩, routed, rfl⟩ := map_eq_some_iff.mp route
    obtain ⟨old, oldMember, ref⟩ := (ofPlacedBefore _ _ _ routed).1
    exact placed_ne_new numbered oldMember newMember
      (recorded.eq_of_ref numbered.distinct (mem_append_left _ oldMember)
        (mem_append_right _ newMember) ref)
  have routedRef : ∀ new ∈ orders, internals last.routes new.ref ≠ none := by
    intro new newMember
    obtain ⟨internal, route⟩ := recorded new (mem_append_right _ newMember)
    rw [internals, route]
    exact some_ne_none _
  apply unrecordable
  refine ⟨?_, ?_⟩
  · intro bracket
    obtain ⟨child, childMember, ref⟩ := orders_bracket bracket built
    rcases bound child.ref (routedRef child childMember) with known | same
    · exact known (unshared child childMember)
    · exact ref same
  have newClient : map.byClientOrderId.get? req.clientOrderId = none :=
    get?_eq_none_of_routes (parentRef ▸ unshared parent parentMember)
  by_contra refused
  have notBoth : req.internalAccountId = none ∨ ∃ other,
      map.clientByInternalOrderId.get? req.internalOrderId = some other := by
    by_contra neither
    rw [not_or, not_exists] at neither
    exact refused ⟨neither.1, newClient, eq_none_iff_forall_ne_some.mpr neither.2⟩
  obtain ⟨middle, middlePresent, middleIndexed, _, sameInternals⟩ := routing
  have middleNew : internals middle.routes req.clientOrderId = none := by
    rw [sameInternals, ← parentRef]
    exact unshared parent parentMember
  have unchanged := @recordSubmittedOrder_refused req (toString firstId) _ _ middlePresent
    (get?_eq_none_of_routes middleNew) (notBoth.imp id ?_) now
  · rw [unchanged, middlePresent] at lastPresent
    cases lastPresent
    exact routedRef parent parentMember (parentRef ▸ middleNew)
  · rintro ⟨other, leads⟩
    have kept := (internals_eq_some_iff indexed).mpr leads
    rw [← sameInternals] at kept
    refine ⟨other, ?_, (internals_eq_some_iff middleIndexed).mp kept⟩
    rintro rfl
    rw [middleNew] at kept
    cases kept

theorem recordable_attachable {placed : List PlacedOrder} {base : Routes} {new : PlacedOrder}
    (fresh : internals base new.ref = none) :
    Attachable (EchoesPlaced (placed ++ [new])) fun known =>
      Arriving (placed ++ [new]) base known ∧ Recorded placed known := by
  rintro known clientOrderId ibkrOrderId internalOrderId old ⟨⟨ofPlaced, same⟩, recorded⟩ found echo
  obtain ⟨order, mem, ref, id⟩ := echo (ofPlaced _ _ _ found).1
  have old : order ∈ placed := by
    rcases mem_append.mp mem with old | isNew
    · exact old
    · obtain rfl := mem_singleton.mp isNew
      rw [← same, ref, internals, found] at fresh
      cases fresh
  rw [recorded.attach found ⟨order, old, ref, id⟩]
  exact ⟨⟨ofPlaced, same⟩, recorded⟩

theorem consistent_of_recordable {map : BrokerOrderMap} (consistent : Consistent session)
    (next : session.client.nextId = some firstId)
    (built : req.orders caps firstId = .ok orders)
    (present : session.normalizer.calls.orderMap = some map)
    (echoed : ∀ callback ∈ arriving,
      Echoes (EchoesPlaced (session.client.placed ++ orders)) callback)
    (plain : req.orderType ≠ .bracket) (account : req.internalAccountId ≠ none)
    (newClient : map.byClientOrderId.get? req.clientOrderId = none)
    (newInternal : map.clientByInternalOrderId.get? req.internalOrderId = none) :
    Consistent (step caps session (.submit req arriving now)).2 := by
  have numbered := consistent.numbered.withPlaced next built
  obtain ⟨client, _⟩ := @arrived_client req session firstId orders arriving now map
    consistent present echoed
  obtain ⟨_, sameMap, indexed, ofPlacedBefore, recordedBefore⟩ := consistent.routed
  cases present.symm.trans sameMap
  obtain rfl := orders_plain plain built
  let new : PlacedOrder := ⟨firstId, req.contractSpec, req.toIbapiOrder caps⟩
  have fresh : internals map.routes new.ref = none := by
    change internals map.routes req.clientOrderId = none
    rw [internals, routes, newClient]
    rfl
  have routing : (session.arrived req firstId [new] now arriving).normalizer.Routed fun known =>
      Arriving (session.client.placed ++ [new]) map.routes known ∧
        Recorded session.client.placed known :=
    (@arrive_routed _ _ (recordable_attachable fresh) now arriving echoed
      (session.withPlaced req firstId [new]) ⟨map, present, indexed,
        ⟨ofPlacedBefore.mono fun order => mem_append_left _, rfl⟩, recordedBefore⟩).1
  obtain ⟨middle, middlePresent, middleIndexed, ⟨ofPlaced, sameInternals⟩, recorded⟩ := routing
  have middleNew : internals middle.routes req.clientOrderId = none := by
    rw [sameInternals]
    exact fresh
  have middleInternal : middle.clientByInternalOrderId.get? req.internalOrderId = none := by
    refine eq_none_iff_forall_ne_some.mpr fun other leads => ?_
    have kept := (internals_eq_some_iff middleIndexed).mpr leads
    rw [sameInternals, internals_eq_some_iff indexed, newInternal] at kept
    cases kept
  have unknownRoute : middle.routes req.clientOrderId = none := by
    simpa [internals] using middleNew
  have middleId : middle.clientByIbkrOrderId.get? (toString firstId) = none := by
    refine eq_none_iff_forall_ne_some.mpr fun other leads => ?_
    obtain ⟨record, recordAt, id⟩ := (middleIndexed.ibkr _ other).mp leads
    have route : middle.routes other = some (record.internalOrderId, some (toString firstId)) := by
      rw [routes, recordAt, ← id]
      rfl
    have ref := @OfPlaced.ref_eq _ _ ofPlaced numbered.distinct new
      (mem_append_right _ mem_cons_self) other record.internalOrderId route
    rw [ref] at route
    rw [show new.ref = req.clientOrderId from rfl, unknownRoute] at route
    cases route
  obtain ⟨last, lastPresent, lastIndexed, routes⟩ := recordSubmittedOrder_new middlePresent
    middleIndexed account (get?_eq_none_of_routes middleNew) middleInternal middleId
    (OrderNumbers.toString_visible firstId) now
  rw [step_submit next built]
  dsimp only
  constructor
  · dsimp only
    rw [client]
    exact numbered
  · dsimp only
    rw [client]
    refine ⟨last, lastPresent, lastIndexed, ?_⟩
    rw [routes]
    constructor
    · intro other internal brokerOrderId routed
      rw [update_apply] at routed
      split at routed
      · next same =>
        cases routed
        have mem : new ∈ session.client.placed ++ [new] :=
          mem_append_right _ mem_cons_self
        exact ⟨⟨new, mem, same.symm⟩, by rintro id ⟨⟩; exact ⟨new, mem, same.symm, rfl⟩⟩
      · exact ofPlaced _ _ _ routed
    · intro order mem
      rcases mem_append.mp mem with old | isNew
      · obtain ⟨internal, route⟩ := recorded order old
        refine ⟨internal, ?_⟩
        rw [update_of_ne, route]
        intro same
        rw [same, unknownRoute] at route
        cases route
      · obtain rfl := mem_singleton.mp isNew
        exact ⟨req.internalOrderId, update_self _ _ _⟩

end Submission

theorem consistent_of_routed {session after : IbkrOrderSession} (consistent : Consistent session)
    (client : after.client = session.client)
    (routed : after.normalizer.Routed fun known =>
      OfPlaced session.client.placed known ∧ Recorded session.client.placed known) :
    Consistent after where
  numbered := client ▸ consistent.numbered
  routed := by
    rw [client]
    exact routed

section

variable (caps : UpperCase) (session : IbkrOrderSession) (event : IbkrSessionEvent)
  (consistent : Consistent session) (echoing : Echoing caps session event)

include caps session event consistent echoing

theorem step_consistent (recordable : Recordable caps session event) :
    Consistent (step caps session event).2 := by
  have attachable := consistent_attachable session.client.placed
  cases event with
  | nextValidId orderId =>
    change Consistent (endState ((markNextOrderId orderId).run session))
    rw [markNextOrderId]
    split
    · exact consistent
    · refine ⟨⟨consistent.numbered.distinct, ?_⟩, consistent.routed⟩
      intro order mem
      exact Nat.lt_of_lt_of_le (consistent.numbered.below order mem) (Nat.le_max_left _ _)
  | submit req arriving now =>
    by_cases placed : ∃ firstId orders, session.client.nextId = some firstId ∧
        req.orders caps firstId = .ok orders
    · obtain ⟨firstId, orders, next, built⟩ := placed
      obtain ⟨map, present, _⟩ := consistent.routed
      obtain ⟨plain, account, newClient, newInternal⟩ :=
        recordable firstId orders map next built present
      have echoed : ∀ callback ∈ arriving,
          Echoes (EchoesPlaced (session.client.placed ++ orders)) callback := by
        rw [Echoing, placeOrders_placed next built] at echoing
        exact echoing
      exact consistent_of_recordable consistent next built present echoed plain account newClient
        newInternal
    · have unplaced : ∀ firstId orders, session.client.nextId = some firstId →
          req.orders caps firstId ≠ .ok orders :=
        fun firstId orders next built => placed ⟨firstId, orders, next, built⟩
      obtain ⟨numbered, samePlaced, sameNormalizer⟩ :=
        @step_submit_unplaced caps req session arriving now consistent.numbered unplaced
      refine ⟨numbered, ?_⟩
      rw [samePlaced, sameNormalizer]
      exact consistent.routed
  | callback callback now =>
    have kept := @arrive_routed _ _ attachable now [callback]
      (fun other mem => mem_singleton.mp mem ▸ echoing) session consistent.routed
    exact consistent_of_routed consistent kept.2 kept.1
  | flush reason =>
    have kept := onCallbacks_routed (IbkrCallbacks.flushPendingExecutions_routed reason)
      session.normalizer consistent.routed
    rw [step, reportsOf_state, onNormalizer_endState]
    exact consistent_of_routed consistent rfl kept
  | resolve now =>
    have ends := resolveQuarantinedCallbacks_ends attachable now consistent.routed echoing
    rw [step, reportsOf_state, onNormalizer_endState]
    refine consistent_of_routed consistent rfl ?_
    unfold Ends at ends
    cases ran : (resolveQuarantinedCallbacks now).run session.normalizer with
    | ok reports after =>
      rw [ran] at ends
      exact ends.1
    | error failure after =>
      rw [ran] at ends
      exact ends

theorem step_unresolvable (unrecordable : ¬ Recordable caps session event) :
    ¬ Resolvable (step caps session event).2 := by
  cases event with
  | submit req arriving now =>
    simp only [Recordable, not_forall] at unrecordable
    obtain ⟨firstId, orders, map, next, built, present, unrecordable⟩ := unrecordable
    rw [Echoing, placeOrders_placed next built] at echoing
    intro resolvable
    exact not_found_of_unrecordable consistent next built present echoing unrecordable
      resolvable.found
  | nextValidId orderId => exact absurd trivial unrecordable
  | callback callback now => exact absurd trivial unrecordable
  | flush reason => exact absurd trivial unrecordable
  | resolve now => exact absurd trivial unrecordable

end

/-- In every run whose open orders echo placed ones, all placed ids stay resolvable exactly if every
submission can be recorded. -/
theorem resolvable_iff_recordable (caps : UpperCase) (accountId : String)
    (symbolMapping : BrokerSymbolMapping) (events : List IbkrSessionEvent)
    (echoing : EveryStep (step caps) (Echoing caps)
      (start accountId symbolMapping) events) :
    (∀ before, before <+: events →
      Resolvable (final (step caps) (start accountId symbolMapping) before)) ↔
    EveryStep (step caps) (Recordable caps) (start accountId symbolMapping) events :=
  everyPrefix_iff_everyStep_of (fun _ consistent => consistent.resolvable)
    (step_consistent caps) (step_unresolvable caps)
    (start_consistent accountId symbolMapping) echoing

def marketRequest : IbkrOrderRequest where
  internalOrderId := ⟨⟨"order-1", Eq.refl false⟩⟩
  clientOrderId := "client-1"
  internalAccountId := some ⟨⟨"account-1", Eq.refl false⟩⟩
  strategyId := none
  accountId := "DU1"
  brokerSymbol := "ES"
  side := "buy"
  quantity := 1
  valid := by decide +kernel

def bracketRequest : IbkrOrderRequest where
  toIbkrOrderRequestFields := { marketRequest.toIbkrOrderRequestFields with
    orderType := .bracket
    bracketLegs := some
      [⟨{ orderType := .limit, side := .sell, quantity := 1, limitPrice := some 110 },
          by decide +kernel⟩,
       ⟨{ orderType := .stop, side := .sell, quantity := 1, stopPrice := some 90 },
          by decide +kernel⟩] }
  valid := by decide +kernel

def targetExecution : IbkrExecutionPayload where
  reportId := "ibkr-exec-1"
  brokerOrderId := "2"
  executionId := "exec-1"
  filledQuantity := 1
  fillPrice := 110
  accountId := some "DU1"
  valid := by decide +kernel

def bracketEvents : List IbkrSessionEvent :=
  [.nextValidId 1, .submit bracketRequest [] 0, .callback (.execution targetExecution) 1,
   .resolve 2]

/-- The bracket places three orders, of which only the parent is found: the execution of the target
stays quarantined after resolving, and it blocks further orders. -/
theorem bracket_children_unresolvable :
    let session := final (step .ascii) (start "DU1" {}) bracketEvents
    session.client.placed.map (·.orderId) = [1, 2, 3] ∧
      session.normalizer.calls.orderMap.map (fun map =>
        [1, 2, 3].map fun id : Nat => (map.byIbkrOrderId (toString id)).isOk) =
          some [true, false, false] ∧
      session.normalizer.calls.callbackQuarantine.executions = [targetExecution] ∧
      session.normalizer.hasUnresolvedCallbacks = true := by
  decide +kernel

/-- The execution of the plain order arrives before its id is recorded. -/
def marketExecution : IbkrExecutionPayload where
  toIbkrExecutionFields := { targetExecution.toIbkrExecutionFields with brokerOrderId := "1" }
  valid := by decide +kernel

def marketEvents : List IbkrSessionEvent :=
  [.nextValidId 1, .submit marketRequest [.execution marketExecution] 0, .resolve 1]

theorem resolvable_iff_recordable_market :
    (∀ before, before <+: marketEvents →
      Resolvable (final (step .ascii) (start "DU1" {}) before)) ↔
    EveryStep (step .ascii) (Recordable .ascii) (start "DU1" {}) marketEvents :=
  resolvable_iff_recordable .ascii "DU1" {} marketEvents (by
    refine ⟨trivial, ?_, ?_, trivial⟩
    · intro callback mem
      obtain rfl := mem_singleton.mp mem
      trivial
    · rintro payload ⟨⟩)

end Qts.IbkrOrderSession
