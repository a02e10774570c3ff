import Qts.AccountTotals
import Qts.OrderManagerActor

/-! # From execution reports to account totals -/

namespace Qts

open PythonText StepRuns ApplyFill List Option OrderManager

namespace OrderManagerActor

open RaisingCalls

def reportedOrder (manager : OrderManager) (report : ExecutionReport) : Option Order :=
  (manager.brokerToOrder.get? report.brokerOrderId).bind manager.orders.get?

def reportedFill (order : Order) (report : ExecutionReport) : Option OrderFill :=
  match report.fillId, report.fillPrice with
  | some fillId, some price =>
    if 0 < report.filledQuantity then some (orderFill order report fillId price)
    else none
  | _, _ => none

def deliveredFills (actor : OrderManagerActor) (usedReports : Finset String) :
    List OrderManagerMessage → List ApplyFill
  | [] => []
  | .report report :: rest =>
    let next := (step actor (.report report)).2
    match reportedOrder actor.manager report with
    | none => deliveredFills next usedReports rest
    | some order =>
      if report.reportId ∈ usedReports then deliveredFills next usedReports rest
      else
        ((reportedFill order report).map (applyFillMessage actor report)).toList ++
          deliveredFills next (insert report.reportId usedReports) rest
  | msg :: rest => deliveredFills (step actor msg).2 usedReports rest

structure Ledger (owner : Option AccountId) (reports fillIds : Finset String)
    (manager : OrderManager) : Prop where
  formed : manager.WellFormed
  reports : manager.seenReportIds = reports
  fillIds : manager.fillIds.seen = fillIds
  owned : ∀ orderId order, manager.orders.get? orderId = some order →
    foreignTo owner order.intent.accountId = false

section Ledger

variable {owner : Option AccountId} {reports fillIds : Finset String}

theorem Ledger.moved {manager : OrderManager} (ledger : Ledger owner reports fillIds manager)
    {orderId : OrderId} {order : Order} (key : order.orderId = orderId)
    (own : foreignTo owner order.intent.accountId = false) :
    Ledger owner reports fillIds (manager.moved orderId order) where
  formed := ledger.formed.moved key
  reports := ledger.reports
  fillIds := ledger.fillIds
  owned other found tracked := by
    simp only [OrderManager.moved, Dict.get?_set] at tracked
    split at tracked
    · cases tracked
      exact own
    · exact ledger.owned other found tracked

theorem createOrder_keeps {intent : OrderIntent}
    (own : foreignTo owner intent.accountId = false) (riskDecision : RiskDecision) :
    Keeps (Ledger owner reports fillIds) (createOrder intent riskDecision) := by
  intro manager ledger
  cases approved : riskDecision.approved with
  | false =>
    rw [createOrder_refused approved]
    exact ledger
  | true =>
    rw [createOrder_approved approved]
    exact ledger.moved rfl own

variable (orderId : OrderId)

theorem getOrder_keeps : Keeps (Ledger owner reports fillIds) (getOrder orderId) := by
  intro manager ledger
  cases tracked : manager.orders.get? orderId with
  | none =>
    rw [getOrder_untracked tracked]
    exact ledger
  | some order =>
    rw [getOrder_tracked tracked]
    exact ledger

theorem advance_keeps (event : OrderEvent) (brokerOrderId : Option String) :
    Keeps (Ledger owner reports fillIds) (advance orderId event brokerOrderId) := by
  intro manager ledger
  have outcome := advance_outcome ledger.formed orderId event brokerOrderId
  generalize (advance orderId event brokerOrderId).run manager = result
    at outcome ⊢
  cases outcome with
  | accepted order state tracked next =>
    exact ledger.moved (ledger.formed.key orderId order tracked)
      (ledger.owned orderId order tracked)
  | _ => exact ledger

theorem markSent_keeps (brokerOrderId : String) :
    Keeps (Ledger owner reports fillIds) (markSent orderId brokerOrderId) := by
  intro manager ledger
  have outcome := markSent_outcome ledger.formed orderId brokerOrderId
  generalize (markSent orderId brokerOrderId).run manager = result at outcome ⊢
  cases outcome with
  | sent nonblank order tracked created =>
    have advanced : Ledger owner reports fillIds (manager.moved orderId
        (advancedOrder order .sent (some brokerOrderId))) :=
      ledger.moved (ledger.formed.key orderId order tracked)
        (ledger.owned orderId order tracked)
    exact ⟨advanced.formed.withBrokerOrder brokerOrderId orderId, advanced.reports,
      advanced.fillIds, advanced.owned⟩
  | _ => exact ledger

theorem requestReplace_keeps (intent : ReplaceIntent) (riskDecision : RiskDecision) :
    Keeps (Ledger owner reports fillIds) (requestReplace intent riskDecision) := by
  intro manager ledger
  have outcome := requestReplace_outcome ledger.formed intent riskDecision
  generalize (requestReplace intent riskDecision).run manager = result
    at outcome ⊢
  cases outcome with
  | requested order state tracked next =>
    exact ledger.moved (ledger.formed.key intent.orderId order tracked)
      (ledger.owned intent.orderId order tracked)
  | _ => exact ledger

end Ledger

structure Routed (owner : Option AccountId) (currency : String) (told : List ApplyFill)
    (reports fillIds : Finset String) (actor : OrderManagerActor) : Prop where
  accountId_eq : actor.accountId = owner
  currency_eq : actor.currency = currency
  accountRef_eq : actor.accountRef = told
  oneCurrency : ∀ msg ∈ actor.accountRef, msg.currency = currency
  ledger : Ledger owner reports fillIds actor.manager

section Routed

variable {owner : Option AccountId} {currency : String} {told : List ApplyFill}
  {reports fillIds : Finset String}

theorem onManager_keeps {Value : Type} {call : ManagerCall Value}
    (keeps : Keeps (Ledger owner reports fillIds) call) :
    Keeps (Routed owner currency told reports fillIds) (onManager call) :=
  keeps_onManager (fun _ routed => routed.ledger)
    (fun _ _ routed ledger => { routed with ledger }) keeps

theorem routed_stable : Stable (Routed owner currency told reports fillIds) where
  withExecution _ _ routed := { routed with ledger := routed.ledger }
  withRoutes _ _ routed := { routed with ledger := routed.ledger }
  getOrder orderId := onManager_keeps (getOrder_keeps orderId)
  markSent orderId brokerOrderId := onManager_keeps (markSent_keeps orderId brokerOrderId)
  requestCancel intent := by
    rw [requestCancel_eq_advance]
    exact onManager_keeps (advance_keeps intent.orderId .cancelRequested none)
  requestReplace intent riskDecision :=
    onManager_keeps (requestReplace_keeps intent riskDecision)

theorem handleSubmit_keeps (msg : SubmitOrder) :
    Keeps (Routed owner currency told reports fillIds) (handleSubmit msg) := by
  refine routed_stable.handleSubmit msg fun actor routed own => ?_
  rw [routed.accountId_eq] at own
  exact onManager_keeps (createOrder_keeps own msg.riskDecision)

/-- How a report that is processed moves what is told and what is remembered. -/
inductive Routing (actor : OrderManagerActor) (report : ExecutionReport) (told : List ApplyFill)
    (reports fillIds : Finset String) : List ApplyFill → Finset String → Finset String → Prop
  | unnamed (missing : reportedOrder actor.manager report = none) :
      Routing actor report told reports fillIds told reports fillIds
  | repeated (order : Order) (named : reportedOrder actor.manager report = some order)
      (used : report.reportId ∈ reports) :
      Routing actor report told reports fillIds told reports fillIds
  | unfilled (order : Order) (named : reportedOrder actor.manager report = some order)
      (unused : report.reportId ∉ reports) (nothing : reportedFill order report = none) :
      Routing actor report told reports fillIds told (insert report.reportId reports) fillIds
  | known (order : Order) (named : reportedOrder actor.manager report = some order)
      (unused : report.reportId ∉ reports) (fill : OrderFill)
      (carried : reportedFill order report = some fill) (seen : fill.fillId ∈ fillIds) :
      Routing actor report told reports fillIds told (insert report.reportId reports) fillIds
  | booked (order : Order) (named : reportedOrder actor.manager report = some order)
      (unused : report.reportId ∉ reports) (fill : OrderFill)
      (carried : reportedFill order report = some fill) (unseen : fill.fillId ∉ fillIds) :
      Routing actor report told reports fillIds (told ++ [applyFillMessage actor report fill])
        (insert report.reportId reports) (insert fill.fillId fillIds)

variable {report : ExecutionReport} {manager : OrderManager}

theorem reportedOrder_mapped {orderId : OrderId}
    (mapped : manager.brokerToOrder.get? report.brokerOrderId = some orderId) :
    reportedOrder manager report = manager.orders.get? orderId := by
  rw [reportedOrder, mapped, bind_some]

theorem reportedFill_nothing (nothing : carriesFill report = false) (order : Order) :
    reportedFill order report = none := by
  unfold reportedFill
  cases id : report.fillId with
  | none => rfl
  | some fillId =>
    have empty : ¬ 0 < report.filledQuantity := by
      simpa [carriesFill, id] using nothing
    cases report.fillPrice with
    | none => rfl
    | some price => exact if_neg empty

theorem reportedFill_priced {fillId : String} {price : Decimal} (id : report.fillId = some fillId)
    (priced : report.fillPrice = some price) (pos : 0 < report.filledQuantity) (order : Order)
    : reportedFill order report = some (orderFill order report fillId price) := by
  simp only [reportedFill, id, priced, pos, if_true]

variable {actor middle : OrderManagerActor}

theorem handleReport_ok {fills : List OrderFill}
    (filled : (reportFills report).run actor = .ok fills middle) :
    (step actor (.report report)).2 = { middle with
      accountRef := middle.accountRef ++ fills.map (applyFillMessage middle report)
      fills := middle.fills ++ fills } := by
  simp only [step, handle, handleReport, answer_state]
  rw [bind_run_ok filled]
  rfl

theorem handleReport_error {failure : OrderManagerActorError}
    (failed : (reportFills report).run actor = .error failure middle) :
    (step actor (.report report)).1 = .error failure := by
  simp only [step, handle, handleReport]
  rw [bind_run_error failed]
  rfl

theorem Routed.tellFills {fills : List OrderFill}
    (routed : Routed owner currency told reports fillIds middle)
    (filled : (reportFills report).run actor = .ok fills middle) :
    Routed owner currency (told ++ fills.map (applyFillMessage middle report)) reports fillIds
      (step actor (.report report)).2 := by
  rw [handleReport_ok filled]
  refine ⟨routed.accountId_eq, routed.currency_eq, ?_, ?_, routed.ledger⟩
  · rw [routed.accountRef_eq]
  · intro msg mem
    rcases mem_append.mp mem with old | new
    · exact routed.oneCurrency msg old
    · obtain ⟨fill, _, rfl⟩ := mem_map.mp new
      exact routed.currency_eq

/-- A set-aside report and its failures leave the rest of the actor alone. -/
theorem Routed.quarantined (report : ExecutionReport)
    (routed : Routed owner currency told reports fillIds actor) :
    Routed owner currency told reports fillIds (quarantine report actor) :=
  ⟨routed.accountId_eq, routed.currency_eq, routed.accountRef_eq, routed.oneCurrency, routed.ledger⟩

theorem Routed.withManager {reportsNext fillIdsNext : Finset String}
    (routed : Routed owner currency told reports fillIds actor)
    (ledger : Ledger owner reportsNext fillIdsNext manager) :
    Routed owner currency told reportsNext fillIdsNext { actor with manager } :=
  ⟨routed.accountId_eq, routed.currency_eq, routed.accountRef_eq, routed.oneCurrency, ledger⟩

theorem Ledger.afterReport (ledger : Ledger owner reports fillIds manager) {orderId : OrderId}
    {order : Order} (tracked : manager.orders.get? orderId = some order) (state : OrderState)
    (report : ExecutionReport) :
    Ledger owner (insert report.reportId reports) fillIds
      (manager.afterReport orderId (advancedOrder order state none) report) := by
  have moved : Ledger owner reports fillIds
      (manager.moved orderId (advancedOrder order state none)) :=
    ledger.moved (ledger.formed.key orderId order tracked) (ledger.owned orderId order tracked)
  exact ⟨moved.formed.withReport orderId report.reportId,
      congrArg (insert report.reportId) moved.reports,
    moved.fillIds, moved.owned⟩

theorem Ledger.withFill (ledger : Ledger owner reports fillIds manager) (orderId : OrderId)
    (fillId : String) :
    Ledger owner reports (insert fillId fillIds) (manager.withFill orderId fillId) :=
  ⟨ledger.formed.withFill orderId fillId, ledger.reports, congrArg (insert fillId) ledger.fillIds,
    ledger.owned⟩

theorem report_routed (routed : Routed owner currency told reports fillIds actor)
    (processed : (step actor (.report report)).1.isOk = true) :
    ∃ toldNext reportsNext fillIdsNext,
      Routing actor report told reports fillIds toldNext reportsNext fillIdsNext ∧
        Routed owner currency toldNext reportsNext fillIdsNext
          (step actor (.report report)).2 := by
  have outcome := processReport_outcome routed.ledger.formed report
  have handled : (reportFills report).run actor =
      handleResult report actor ((processReport report).run actor.manager) := rfl
  generalize (processReport report).run actor.manager = result at outcome handled
  cases outcome with
  | unknownBrokerOrder unmapped =>
    have missing : reportedOrder actor.manager report = none := by
      rw [reportedOrder, unmapped, bind_none]
    have next := (routed.quarantined report).tellFills handled
    rw [map_nil, append_nil] at next
    exact ⟨_, _, _, .unnamed missing, next⟩
  | untracked orderId mapped missing =>
    have next := (routed.quarantined report).tellFills handled
    rw [map_nil, append_nil] at next
    exact ⟨_, _, _, .unnamed ((reportedOrder_mapped mapped).trans missing), next⟩
  | duplicate orderId order mapped tracked seen =>
    have next := routed.tellFills handled
    rw [map_nil, append_nil] at next
    have used : report.reportId ∈ reports := routed.ledger.reports ▸ seen
    exact ⟨_, _, _, .repeated order ((reportedOrder_mapped mapped).trans tracked) used, next⟩
  | refused orderId order mapped tracked unseen refusal =>
    rw [handleReport_error handled] at processed
    cases processed
  | raisedFill orderId order state mapped tracked unseen next failure fill =>
    generalize actor.manager.afterReport orderId
      (advancedOrder order state none) report = after at fill handled
    cases fill with
    | missingPrice carries missing =>
      rw [handleReport_error handled] at processed
      cases processed
    | blankId fillId price id priced pos blank =>
      rw [handleReport_error handled] at processed
      cases processed
  | processed orderId order state mapped tracked unseen next fills after fill =>
    have named := (reportedOrder_mapped mapped).trans tracked
    have unused : report.reportId ∉ reports := routed.ledger.reports ▸ unseen
    have ledger := routed.ledger.afterReport tracked state report
    have own := routed.ledger.owned orderId order tracked
    rw [← routed.accountId_eq] at own
    generalize actor.manager.afterReport orderId
      (advancedOrder order state none) report = recorded at fill ledger
    cases fill with
    | noFill nothing =>
      have told := (routed.withManager ledger).tellFills handled
      rw [map_nil, append_nil] at told
      exact ⟨_, _, _, .unfilled order named unused (reportedFill_nothing nothing order), told⟩
    | knownFill fillId price id priced pos nonblank known =>
      have told := (routed.withManager ledger).tellFills handled
      rw [map_nil, append_nil] at told
      have seen : fillId ∈ fillIds := ledger.fillIds ▸ known
      exact ⟨_, _, _, .known order named unused _ (reportedFill_priced id priced pos order)
        seen, told⟩
    | booked fillId price id priced pos nonblank fresh =>
      have kept : (reportFills report).run actor = .ok
          [orderFill order report fillId price]
          { actor with manager := recorded.withFill order.orderId fillId } := by
        rw [handled]
        simp only [handleResult, any_cons, any_nil, Bool.or_false]
        exact if_neg (Bool.not_eq_true _ ▸ own)
      have told := (routed.withManager (ledger.withFill order.orderId fillId)).tellFills kept
      have unseen : fillId ∉ fillIds := ledger.fillIds ▸ fresh
      exact ⟨_, _, _, .booked order named unused _ (reportedFill_priced id priced pos order)
        unseen, told⟩

theorem step_routed (routed : Routed owner currency told reports fillIds actor)
    {msg : OrderManagerMessage} (notReport : ∀ report, msg ≠ .report report)
    (streaming : msg.compacts = false) :
    Routed owner currency told reports fillIds (step actor msg).2 := by
  simp only [step, answer_state]
  cases msg with
  | submit msg => exact handleSubmit_keeps msg actor routed
  | cancel msg => exact routed_stable.handleCancel msg actor routed
  | replace msg => exact routed_stable.handleReplace msg actor routed
  | report report => exact absurd rfl (notReport report)
  | compactForStreaming orderIds => cases streaming

theorem Routing.told_eq {toldNext : List ApplyFill} {reportsNext fillIdsNext : Finset String}
    (routing : Routing actor report told reports fillIds toldNext reportsNext fillIdsNext)
    (rest : List OrderManagerMessage) :
    toldNext ++ firstDeliveries fillId fillIdsNext
        (deliveredFills (step actor (.report report)).2 reportsNext rest) =
      told ++ firstDeliveries fillId fillIds
        (deliveredFills actor reports (.report report :: rest)) := by
  cases routing with
  | unnamed missing => simp only [deliveredFills, missing]
  | repeated order named used => simp only [deliveredFills, named, used, if_true]
  | unfilled order named unused nothing =>
    simp only [deliveredFills, named, unused, if_false, nothing, map_none, toList_none, nil_append]
  | known order named unused fill carried seen =>
    have dropped : (applyFillMessage actor report fill).fillId ∈ fillIds := seen
    simp only [deliveredFills, named, unused, if_false, carried, map_some,
      toList_some, singleton_append, firstDeliveries_seen dropped]
  | booked order named unused fill carried unseen =>
    have taken : (applyFillMessage actor report fill).fillId ∉ fillIds := unseen
    simp only [deliveredFills, named, unused, if_false, carried, map_some,
      toList_some, singleton_append, firstDeliveries_new taken, append_assoc]
    rfl

theorem deliveredFills_other (actor : OrderManagerActor) {msg : OrderManagerMessage}
    (notReport : ∀ report, msg ≠ .report report) (rest : List OrderManagerMessage) :
    deliveredFills actor reports (msg :: rest) =
      deliveredFills (step actor msg).2 reports rest := by
  cases msg with
  | report report => exact absurd rfl (notReport report)
  | _ => rfl

/-- No report of the run raises. -/
def ReportsProcessed (actor : OrderManagerActor) (messages : List OrderManagerMessage) : Prop :=
  EveryStep step (fun current msg => ∀ report, msg = .report report →
    (step current msg).1.isOk = true) actor messages

theorem run_routed {messages : List OrderManagerMessage}
    (streaming : ∀ msg ∈ messages, msg.compacts = false)
    (processed : ReportsProcessed actor messages)
    (routed : Routed owner currency told reports fillIds actor) :
    ∃ reportsNext fillIdsNext, Routed owner currency
      (told ++ firstDeliveries fillId fillIds (deliveredFills actor reports messages))
      reportsNext fillIdsNext (final step actor messages) := by
  induction messages generalizing actor told reports fillIds with
  | nil => exact ⟨reports, fillIds, by simpa [deliveredFills] using routed⟩
  | cons msg rest ih =>
    obtain ⟨first, later⟩ := processed
    have restStreaming : ∀ other ∈ rest, other.compacts = false := fun other mem =>
      streaming other (mem_cons_of_mem _ mem)
    by_cases isReport : ∃ report, msg = .report report
    · obtain ⟨report, rfl⟩ := isReport
      obtain ⟨toldNext, reportsNext, fillIdsNext, routing, next⟩ :=
        report_routed routed (first report rfl)
      rw [← routing.told_eq rest]
      exact ih restStreaming later next
    · have notReport : ∀ report, msg ≠ .report report := fun report same =>
        isReport ⟨report, same⟩
      have next := step_routed routed notReport (streaming msg mem_cons_self)
      rw [deliveredFills_other actor notReport]
      exact ih restStreaming later next

end Routed

def idle (accountId : Option AccountId) (multiplierByInstrument : Dict InstrumentId Decimal)
    (currency : String) (supportsReplace : Bool) : OrderManagerActor where
  accountId := accountId
  multiplierByInstrument := multiplierByInstrument
  currency := currency
  supportsReplace := supportsReplace

theorem idle_routed (accountId : Option AccountId)
    (multiplierByInstrument : Dict InstrumentId Decimal) (currency : String)
    (supportsReplace : Bool) :
    Routed accountId currency [] ∅ ∅
      (idle accountId multiplierByInstrument currency supportsReplace) where
  accountId_eq := rfl
  currency_eq := rfl
  accountRef_eq := rfl
  oneCurrency := by
    intro msg mem
    cases mem
  ledger := {
    formed := init_wellFormed
    reports := rfl
    fillIds := rfl
    owned := by
      intro orderId order tracked
      cases tracked }

def accountAfter (caps : UpperCase) (account : AccountActor)
    (actor : OrderManagerActor) : AccountActor :=
  final (AccountActor.step caps) account (actor.accountRef.map .applyFill)

/-- No fill that the account is told raises. -/
def FillsProcessed (caps : UpperCase) (account : AccountActor)
    (actor : OrderManagerActor) : Prop :=
  EveryStep (AccountActor.step caps)
    (fun current msg => (AccountActor.step caps current msg).1.isOk = true)
    account (actor.accountRef.map .applyFill)

/-- Whatever reports arrive, in any order and under any ids, the positions and the cash of the
account are those of the fills of its accepted reports, each fill id counted once with the values
of its first delivery. -/
theorem account_counts_each_fill_once (caps : UpperCase)
    (accountId owner : Option AccountId) (initialCash : Dict String Decimal)
    (multiplierByInstrument : Dict InstrumentId Decimal) (currency : String)
    (supportsReplace : Bool) (messages : List OrderManagerMessage)
    (streaming : ∀ msg ∈ messages, msg.compacts = false)
    (reports : ReportsProcessed
      (idle accountId multiplierByInstrument currency supportsReplace) messages)
    (fills : FillsProcessed caps (.init initialCash owner) (final step
      (idle accountId multiplierByInstrument currency supportsReplace) messages)) :
    let start := idle accountId multiplierByInstrument currency supportsReplace
    let account := accountAfter caps (.init initialCash owner)
      (final step start messages)
    let counted := firstDeliveries fillId ∅ (deliveredFills start ∅ messages)
    (∀ instrumentId, (account.holdings.holding instrumentId).quantity =
      positionOf instrumentId counted) ∧
    ∀ code, CashBook.normalizeCurrency caps currency = .ok code →
      (account.cash.balances.get? code).getD 0 =
        (initialCash.get? code).getD 0 - cashSpent counted := by
  intro start account counted
  obtain ⟨_, _, routed⟩ := run_routed streaming reports
    (idle_routed accountId multiplierByInstrument currency supportsReplace)
  rw [nil_append] at routed
  have owned : AccountActor.Owned owner .average (.init initialCash owner) :=
    ⟨rfl, rfl, .empty .average⟩
  have twice : firstDeliveries fillId
      (AccountActor.init initialCash owner).fillIds.seen counted = counted :=
    firstDeliveries_twice ∅ _
  have totals := AccountActor.run_totals routed.oneCurrency owned fills
  rw [routed.accountRef_eq, twice] at totals
  have accounted : account = final (AccountActor.step caps) (.init initialCash owner)
      (counted.map .applyFill) := by
    simp only [account, accountAfter, routed.accountRef_eq, counted, start]
  rw [accounted]
  constructor
  · intro instrumentId
    rw [totals.position instrumentId]
    exact zero_add _
  · intro code normalized
    exact totals.cash code normalized

def unitAccount : AccountId := ⟨⟨"account-1", Eq.refl false⟩⟩

def unitStrategy : StrategyId := ⟨⟨"strategy-1", Eq.refl false⟩⟩

def submitTwo : SubmitOrder where
  intent := {
    orderId := ⟨⟨"order-1", Eq.refl false⟩⟩
    instrumentId := ⟨⟨"ES", Eq.refl false⟩⟩
    side := .buy
    quantity := 2
    accountId := some unitAccount
    valid := by decide +kernel }
  riskDecision := { status := .approved }
  brokerOrderId := "broker-1"
  marketPrice := 10
  accountId := unitAccount
  strategyId := unitStrategy
  routeMetadata := {
    brokerId := ⟨⟨"broker", Eq.refl false⟩⟩
    accountId := unitAccount
    strategyId := unitStrategy
    clientOrderId := "client-1"
    correlationId := ⟨⟨"correlation-1", Eq.refl false⟩⟩
    valid := by decide +kernel }
  sameAccount := rfl
  sameStrategy := rfl

def unitReport (reportId fillId : String) (visible : isBlank reportId = false) :
    ExecutionReport where
  reportId := reportId
  brokerOrderId := "broker-1"
  status := .partiallyFilled
  filledQuantity := 1
  fillPrice := some 10
  fillId := some fillId
  valid := by
    have broker : isBlank "broker-1" = false := by decide
    exact ExecutionReportFields.valid_of_not_rejected visible broker zero_le_one le_rfl le_rfl nofun

def repeatedReports : List OrderManagerMessage :=
  [.submit submitTwo, .report (unitReport "report-1" "fill-1" (by decide)),
    .report (unitReport "report-2" "fill-1" (by decide)),
    .report (unitReport "report-1" "fill-1" (by decide))]

theorem account_counts_each_fill_once_repeated :
    let start := idle (some unitAccount) .empty "USD" false
    let account := accountAfter .ascii (.init .empty (some unitAccount))
      (final step start repeatedReports)
    let counted := firstDeliveries fillId ∅ (deliveredFills start ∅ repeatedReports)
    ∀ instrumentId, (account.holdings.holding instrumentId).quantity =
      positionOf instrumentId counted := by
  have streaming : ∀ msg ∈ repeatedReports, msg.compacts = false := by
    intro msg mem
    simp only [repeatedReports, mem_cons, not_mem_nil, or_false] at mem
    rcases mem with rfl | rfl | rfl | rfl <;> rfl
  have reports : ReportsProcessed (idle (some unitAccount) .empty "USD" false)
      repeatedReports :=
    ⟨fun _ _ => by decide +kernel, fun _ _ => by decide +kernel, fun _ _ => by decide +kernel,
      fun _ _ => by decide +kernel, trivial⟩
  have fills : FillsProcessed .ascii (.init .empty (some unitAccount)) (final step
      (idle (some unitAccount) .empty "USD" false) repeatedReports) := by
    unfold FillsProcessed
    decide +kernel
  have totals := account_counts_each_fill_once .ascii (some unitAccount) (some unitAccount)
    .empty .empty "USD" false repeatedReports streaming reports fills
  exact totals.1

/-- A fill whose report reuses the id of an earlier report is not counted. -/
theorem reused_report_id_dropped :
    let first := unitReport "report-1" "fill-1" (by decide)
    let second := unitReport "report-1" "fill-2" (by decide)
    let start := idle (some unitAccount) .empty "USD" false
    let messages : List OrderManagerMessage :=
      [.submit submitTwo, .report first, .report second]
    let actor := final step start messages
    let account := accountAfter .ascii (.init .empty (some unitAccount)) actor
    (responses step start messages).all Except.isOk = true ∧
      (account.holdings.holding submitTwo.intent.instrumentId).quantity = 1 ∧
      ((firstDeliveries (fun report => report.fillId) ∅ [first, second]).map
        fun report => report.filledQuantity).sum = 2 := by
  decide +kernel

end OrderManagerActor

end Qts
