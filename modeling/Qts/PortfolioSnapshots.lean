import Mathlib.Algebra.Order.Ring.Abs
import Qts.AccountActor
import Qts.DictionaryTotals
import Qts.HoldingAccounting

/-! # Snapshots of a portfolio -/

namespace Qts

open Dict List

namespace Dict

variable {Key Value Total : Type} [DecidableEq Key]

def tally (combine : Total → Value → Total) (start : Total) (totals : Dict Key Total)
    (item : Key × Value) : Dict Key Total :=
  totals.set item.1 (combine ((totals.get? item.1).getD start) item.2)

variable (combine : Total → Value → Total) (start : Total)

theorem get?_tally_items {items : List (Key × Value)} (distinct : (items.map Prod.fst).Nodup)
    (totals : Dict Key Total) (key : Key) :
    (items.foldl (tally combine start) totals).get? key = match items.lookup key with
      | none => totals.get? key
      | some value => some (combine ((totals.get? key).getD start) value) := by
  induction items generalizing totals with
  | nil => rfl
  | cons item items ih =>
    obtain ⟨fresh, distinct⟩ := nodup_cons.mp distinct
    rw [foldl_cons, ih distinct, tally, lookup_cons_if, get?_set]
    by_cases same : key = item.1
    · subst same
      have absent : items.lookup item.1 = none := by
        rw [lookup_eq_none_iff]
        intro other mem
        rw [bne_iff_ne]
        intro same
        rw [same] at fresh
        exact fresh (mem_map_of_mem mem)
      simp [absent]
    · simp [same]

/-- The totals of several dictionaries, each counted in turn. -/
def tallyAll (parts : List (Dict Key Value)) : Dict Key Total :=
  parts.foldl (fun totals part => part.items.foldl (tally combine start) totals) empty

theorem get?_tallyAll (parts : List (Dict Key Value)) (key : Key) :
    (tallyAll combine start parts).get? key =
      if (parts.filterMap (·.get? key)).isEmpty then none
      else some ((parts.filterMap (·.get? key)).foldl combine start) := by
  induction parts using reverseRecOn with
  | nil => rfl
  | append_singleton parts part ih =>
    rw [tallyAll, foldl_append, foldl_cons, foldl_nil, ← tallyAll,
      get?_tally_items combine start part.distinct, filterMap_append]
    change (match part.get? key with | none => _ | some value => _) = _
    cases found : part.get? key with
    | none => simpa [found] using ih
    | some value =>
      rw [ih]
      cases parts.filterMap (·.get? key) with
      | nil => simp [found]
      | cons first rest => simp [found]

theorem keyedTotal_of_parts {Weight : Type} [AddCommMonoid Weight] {weight : Key → Value → Weight}
    {whole : Dict Key Value} {parts : List (Dict Key Value)}
    (adds : ∀ key, whole.weightAt weight key = (parts.map (·.weightAt weight key)).sum) :
    whole.keyedTotal weight = (parts.map (·.keyedTotal weight)).sum := by
  let keys := (whole.keys ++ parts.flatMap (·.keys)).toFinset
  have each : ∀ part ∈ parts,
      part.keyedTotal weight = ∑ key ∈ keys, part.weightAt weight key := fun part mem =>
    keyedTotal_eq_sum weight part fun key inside => mem_toFinset.mpr
      (mem_append_right _ (mem_flatMap.mpr ⟨part, mem, inside⟩))
  have total : whole.keyedTotal weight = ∑ key ∈ keys, whole.weightAt weight key :=
    keyedTotal_eq_sum weight whole fun key inside =>
      mem_toFinset.mpr (mem_append_left _ inside)
  rw [total, map_congr_left each, Finset.sum_congr rfl fun key _ => adds key]
  generalize keys = among
  clear each adds total
  induction parts with
  | nil => simp
  | cons part parts ih =>
    simp only [map_cons, sum_cons, Finset.sum_add_distrib, ih]

theorem get?_ofItems_keyed {Other : Type} (dict : Dict Key Value)
    (change : Key → Value → Other) (key : Key) :
    (ofItems (dict.items.map fun item => (item.1, change item.1 item.2))).get? key =
      (dict.get? key).map (change key) := by
  have distinct :
      ((dict.items.map fun item => (item.1, change item.1 item.2)).map Prod.fst).Nodup := by
    rw [map_map]
    exact dict.distinct
  rw [get?_ofItems distinct, get?]
  generalize dict.items = items
  induction items with
  | nil => rfl
  | cons item items ih =>
    rw [map_cons, lookup_cons_if, lookup_cons_if, ih]
    split
    · next same => rw [same]; rfl
    · rfl

end Dict

/-- The netted holding of an instrument across accounts. -/
def aggregateHolding (instrumentId : InstrumentId) (holdings : List Holding) : Holding :=
  let totalAbsQuantity := (holdings.map fun holding => |holding.quantity|).sum
  { instrumentId
    quantity := (holdings.map (·.quantity)).sum
    averageCost := if totalAbsQuantity = 0 then 0 else
      (holdings.map fun holding => |holding.quantity| * holding.averageCost).sum / totalAbsQuantity
    realizedPnl := (holdings.map (·.realizedPnl)).sum
    openedAt := (holdings.filterMap (·.openedAt)).min?
    lastFillAt := (holdings.filterMap (·.lastFillAt)).max?
    lots := holdings.flatMap (·.lots) }

/-- Return a portfolio-level snapshot across account partitions. -/
def aggregateAccountSnapshots (accountSnapshots : List (AccountId × AccountSnapshot)) :
    Except String AccountSnapshot :=
  match accountSnapshots with
  | [] => .error "at least one account snapshot is required"
  | [account] => .ok account.2
  | accounts =>
    let holdingsByInstrument := tallyAll (fun holdings holding => holdings ++ [holding])
      [] (accounts.map (·.2.holdings))
    .ok {
      cash := .tallyAll (· + ·) 0 (accounts.map (·.2.cash))
      holdings := .ofItems (holdingsByInstrument.items.map fun entry =>
        (entry.1, aggregateHolding entry.1 entry.2))
      seenFillIds := (ofItems
        (accounts.flatMap fun account => account.2.seenFillIds.map fun id => (id, ()))).keys }

variable (latestPrices contractMultipliers : InstrumentId → Option Decimal)

def atMark (valuation : Holding → Decimal → Decimal → Decimal) (instrumentId : InstrumentId)
    (holding : Holding) : Decimal :=
  match latestPrices instrumentId with
  | none => 0
  | some mark => valuation holding mark ((contractMultipliers instrumentId).getD 1)

def holdingsNotional (snapshot : AccountSnapshot) : Decimal × Decimal :=
  snapshot.holdings.items.foldl (fun totals item =>
    match latestPrices item.1 with
    | none => totals
    | some mark =>
      if item.2.quantity = (0 : Decimal) then totals
      else
        let signedNotional := item.2.quantity * mark * (contractMultipliers item.1).getD 1
        (totals.1 + |signedNotional|, totals.2 + signedNotional)) (0, 0)

def netNotional : InstrumentId → Holding → Decimal :=
  atMark latestPrices contractMultipliers fun holding mark multiplier =>
    holding.quantity * mark * multiplier

def grossNotional : InstrumentId → Holding → Decimal :=
  atMark latestPrices contractMultipliers fun holding mark multiplier =>
    |holding.quantity * mark * multiplier|

def unrealizedPnl : InstrumentId → Holding → Decimal :=
  atMark latestPrices contractMultipliers Holding.unrealizedPnl

theorem holdingsNotional_eq (snapshot : AccountSnapshot) :
    holdingsNotional latestPrices contractMultipliers snapshot =
      (snapshot.holdings.keyedTotal (grossNotional latestPrices contractMultipliers),
        snapshot.holdings.keyedTotal (netNotional latestPrices contractMultipliers)) := by
  rw [holdingsNotional, keyedTotal, keyedTotal]
  induction snapshot.holdings.items using reverseRecOn with
  | nil => rfl
  | append_singleton items item ih =>
    rw [foldl_append, ih]
    simp only [foldl_cons, foldl_nil, map_append, sum_append, map_cons,
      map_nil, sum_cons, sum_nil, add_zero, grossNotional, netNotional, atMark]
    cases latestPrices item.1 with
    | none => simp
    | some mark =>
      by_cases flat : item.2.quantity = (0 : Decimal)
      · simp [flat]
      · simp [flat]

/-- No two accounts are on opposite sides of an instrument. -/
def OnOneSide (accounts : List (AccountId × AccountSnapshot)) (instrumentId : InstrumentId) :
    Prop :=
  ∀ first ∈ accounts, ∀ second ∈ accounts, 0 ≤
    first.2.holdings.weightAt (fun _ holding => holding.quantity) instrumentId *
      second.2.holdings.weightAt (fun _ holding => holding.quantity) instrumentId

def AddsUpAt (accounts : List (AccountId × AccountSnapshot)) (whole : AccountSnapshot)
    (measure : InstrumentId → Holding → Decimal) (instrumentId : InstrumentId) : Prop :=
  whole.holdings.weightAt measure instrumentId =
    (accounts.map fun account => account.2.holdings.weightAt measure instrumentId).sum

def AddsUp (accounts : List (AccountId × AccountSnapshot)) (whole : AccountSnapshot)
    (measure : InstrumentId → Holding → Decimal) : Prop :=
  whole.holdings.keyedTotal measure =
    (accounts.map fun account => account.2.holdings.keyedTotal measure).sum

variable {accounts : List (AccountId × AccountSnapshot)} {whole : AccountSnapshot}
  {measure : InstrumentId → Holding → Decimal} {instrumentId : InstrumentId}

theorem AddsUp.of_each (each : ∀ instrumentId, AddsUpAt accounts whole measure instrumentId) :
    AddsUp accounts whole measure := by
  have adds (key : InstrumentId) : whole.holdings.weightAt measure key =
      ((accounts.map (·.2.holdings)).map (·.weightAt measure key)).sum := by
    rw [map_map]
    exact each key
  have total := keyedTotal_of_parts adds
  rw [map_map] at total
  exact total

theorem sum_filterMap {Item Value : Type} (items : List Item) (lookup : Item → Option Value)
    (weigh : Value → Decimal) :
    (items.map fun item => ((lookup item).map weigh).getD 0).sum =
      ((items.filterMap lookup).map weigh).sum := by
  induction items with
  | nil => rfl
  | cons item items ih =>
    rw [map_cons, sum_cons, ih]
    cases found : lookup item with
    | none => simp [found]
    | some value => simp [found]

def holdingsOf (accounts : List (AccountId × AccountSnapshot)) (instrumentId : InstrumentId) :
    List Holding :=
  accounts.filterMap fun account => account.2.holdings.get? instrumentId

theorem foldl_concat (values others : List Holding) :
    values.foldl (fun holdings holding => holdings ++ [holding]) others = others ++ values := by
  induction values generalizing others with
  | nil => simp
  | cons value values ih => simp [ih]

theorem aggregate_cases (aggregated : aggregateAccountSnapshots accounts = .ok whole) :
    (∃ account, accounts = [account] ∧ whole = account.2) ∨
    ((∀ currency, (whole.cash.get? currency).getD 0 =
        (accounts.map fun account => (account.2.cash.get? currency).getD 0).sum) ∧
      ∀ instrumentId, whole.holdings.get? instrumentId =
        if (holdingsOf accounts instrumentId).isEmpty then none
        else some (aggregateHolding instrumentId (holdingsOf accounts instrumentId))) := by
  unfold aggregateAccountSnapshots at aggregated
  split at aggregated
  · cases aggregated
  · next account => exact .inl ⟨account, rfl, (Except.ok.inj aggregated).symm⟩
  · cases aggregated
    refine .inr ⟨fun currency => ?_, fun instrumentId => ?_⟩
    · have sums := sum_filterMap accounts (fun account => account.2.cash.get? currency) id
      simp only [Option.map_id_fun, id_eq, map_id_fun] at sums
      have listed : (accounts.map (·.2.cash)).filterMap (·.get? currency) =
          accounts.filterMap fun account => account.2.cash.get? currency := filterMap_map
      rw [sums, get?_tallyAll, listed]
      generalize (accounts.filterMap fun account => account.2.cash.get? currency) = balances
      cases balances with
      | nil => rfl
      | cons first rest =>
        rw [sum_eq_foldl]
        rfl
    · rw [get?_ofItems_keyed, get?_tallyAll, filterMap_map, foldl_concat]
      exact apply_ite (Option.map (aggregateHolding instrumentId)) _ _ _

theorem addsUpAt_of_netted (aggregated : aggregateAccountSnapshots accounts = .ok whole)
    (netted : measure instrumentId (aggregateHolding instrumentId
        (holdingsOf accounts instrumentId)) =
      ((holdingsOf accounts instrumentId).map (measure instrumentId)).sum) :
    AddsUpAt accounts whole measure instrumentId := by
  rw [AddsUpAt]
  rcases aggregate_cases aggregated with ⟨account, rfl, rfl⟩ | ⟨-, held⟩
  · simp
  · simp only [weightAt, held]
    rw [sum_filterMap, ← holdingsOf]
    generalize holdingsOf accounts instrumentId = holdings at netted
    cases holdings with
    | nil => rfl
    | cons first rest => exact netted

/-- No two holdings are on opposite sides. -/
def Agree (holdings : List Holding) : Prop :=
  ∀ first ∈ holdings, ∀ second ∈ holdings, 0 ≤ first.quantity * second.quantity

variable {holdings : List Holding}

theorem exists_side (agree : Agree holdings) :
    ∃ side : Decimal, (side = 1 ∨ side = -1) ∧
      ∀ holding ∈ holdings, |holding.quantity| = side * holding.quantity := by
  by_cases short : ∃ holding ∈ holdings, holding.quantity < 0
  · obtain ⟨held, mem, negative⟩ := short
    refine ⟨-1, .inr rfl, fun holding inside => ?_⟩
    have below : holding.quantity ≤ 0 :=
      nonpos_of_mul_nonneg_right (agree held mem holding inside) negative
    rw [abs_of_nonpos below, neg_one_mul]
  · refine ⟨1, .inl rfl, fun holding inside => ?_⟩
    have above : 0 ≤ holding.quantity := not_lt.mp fun negative => short ⟨holding, inside, negative⟩
    rw [abs_of_nonneg above, one_mul]

theorem sum_sizes (agree : Agree holdings) :
    (holdings.map fun holding => |holding.quantity|).sum =
      |(holdings.map (·.quantity)).sum| := by
  obtain ⟨side, unit, sided⟩ := exists_side agree
  have total := congrArg List.sum (map_congr_left sided)
  have nonneg : 0 ≤ (holdings.map fun holding => |holding.quantity|).sum := by
    apply sum_nonneg
    intro size mem
    obtain ⟨holding, -, rfl⟩ := mem_map.mp mem
    exact abs_nonneg _
  rw [sum_map_mul_left] at total
  rcases unit with rfl | rfl
  · rw [one_mul] at total
    rw [← total, abs_of_nonneg nonneg]
  · rw [neg_one_mul] at total
    rw [← abs_neg, ← total, abs_of_nonneg nonneg]

theorem sum_map_profit (holdings : List Holding) (mark : Decimal) :
    (holdings.map fun holding => holding.quantity * mark - holding.openCost).sum =
      (holdings.map (·.quantity)).sum * mark - (holdings.map (·.openCost)).sum := by
  induction holdings with
  | nil => simp
  | cons holding holdings ih =>
    simp only [map_cons, sum_cons, ih]
    ring

theorem netted_openCost (agree : Agree holdings) :
    (aggregateHolding instrumentId holdings).openCost = (holdings.map (·.openCost)).sum := by
  obtain ⟨side, unit, sided⟩ := exists_side agree
  have sizes : (holdings.map fun holding => |holding.quantity|).sum =
      side * (holdings.map (·.quantity)).sum := by
    rw [← sum_map_mul_left]
    exact congrArg List.sum (map_congr_left sided)
  have costs : (holdings.map fun holding => |holding.quantity| * holding.averageCost).sum =
      side * (holdings.map (·.openCost)).sum := by
    rw [← sum_map_mul_left]
    refine congrArg List.sum (map_congr_left fun holding mem => ?_)
    rw [sided holding mem, Holding.openCost, mul_assoc]
  rw [Holding.openCost]
  simp only [aggregateHolding, costs]
  split
  · next flat =>
    have each : ∀ holding ∈ holdings, holding.openCost = 0 := by
      intro holding mem
      have size : |holding.quantity| = 0 := all_zero_of_le_zero_le_of_sum_eq_zero
        (fun size inside => by
          obtain ⟨held, -, rfl⟩ := mem_map.mp inside
          exact abs_nonneg _) flat (mem_map_of_mem mem)
      rw [Holding.openCost, abs_eq_zero.mp size, zero_mul]
    rw [mul_zero, map_congr_left each, map_const', sum_replicate, smul_zero]
  · next moved =>
    rw [sizes] at moved ⊢
    have := left_ne_zero_of_mul moved
    have := right_ne_zero_of_mul moved
    field_simp

/-- What holds of the measures of an instrument that all accounts have on one side. -/
theorem netted_of_agree (agree : Agree holdings) :
    unrealizedPnl latestPrices contractMultipliers instrumentId
        (aggregateHolding instrumentId holdings) =
      (holdings.map (unrealizedPnl latestPrices contractMultipliers instrumentId)).sum ∧
    grossNotional latestPrices contractMultipliers instrumentId
        (aggregateHolding instrumentId holdings) =
      (holdings.map (grossNotional latestPrices contractMultipliers instrumentId)).sum := by
  unfold unrealizedPnl grossNotional atMark
  cases latestPrices instrumentId with
  | none => simp
  | some mark =>
    dsimp only
    generalize (contractMultipliers instrumentId).getD 1 = multiplier
    constructor
    · rw [Holding.unrealizedPnl_eq, netted_openCost agree]
      simp only [Holding.unrealizedPnl_eq, aggregateHolding]
      rw [sum_map_mul_right, sum_map_profit]
    · simp only [abs_mul, aggregateHolding]
      rw [sum_map_mul_right, sum_map_mul_right, sum_sizes agree]

theorem netted_netNotional (holdings : List Holding) :
    netNotional latestPrices contractMultipliers instrumentId
        (aggregateHolding instrumentId holdings) =
      (holdings.map (netNotional latestPrices contractMultipliers instrumentId)).sum := by
  unfold netNotional atMark
  cases latestPrices instrumentId with
  | none => simp
  | some mark =>
    dsimp only [aggregateHolding]
    rw [sum_map_mul_right, sum_map_mul_right]

theorem OnOneSide.agree (side : OnOneSide accounts instrumentId) :
    Agree (holdingsOf accounts instrumentId) := by
  intro first firstHeld second secondHeld
  obtain ⟨one, oneMember, oneFound⟩ := mem_filterMap.mp firstHeld
  obtain ⟨two, twoMember, twoFound⟩ := mem_filterMap.mp secondHeld
  have product := side one oneMember two twoMember
  simpa only [weightAt, oneFound, twoFound, Option.map_some, Option.getD_some]
    using product

/-- What adds up in the snapshot that is reported for several accounts. -/
theorem aggregate_addsUp (aggregated : aggregateAccountSnapshots accounts = .ok whole) :
    (∀ currency, (whole.cash.get? currency).getD 0 =
      (accounts.map fun account => (account.2.cash.get? currency).getD 0).sum) ∧
    (∀ measure ∈ [fun _ holding => holding.quantity, fun _ holding => holding.realizedPnl,
        netNotional latestPrices contractMultipliers],
      (∀ instrumentId, AddsUpAt accounts whole measure instrumentId) ∧
        AddsUp accounts whole measure) ∧
    (∀ measure ∈ [unrealizedPnl latestPrices contractMultipliers,
        grossNotional latestPrices contractMultipliers],
      (∀ instrumentId, OnOneSide accounts instrumentId →
        AddsUpAt accounts whole measure instrumentId) ∧
      ((∀ instrumentId, OnOneSide accounts instrumentId) → AddsUp accounts whole measure)) ∧
    holdingsNotional latestPrices contractMultipliers whole =
      (whole.holdings.keyedTotal (grossNotional latestPrices contractMultipliers),
        whole.holdings.keyedTotal (netNotional latestPrices contractMultipliers)) := by
  refine ⟨?_, ?_, ?_, holdingsNotional_eq latestPrices contractMultipliers whole⟩
  · rcases aggregate_cases aggregated with ⟨account, rfl, rfl⟩ | ⟨cash, -⟩
    · simp
    · exact cash
  · intro measure listed
    have each (instrumentId : InstrumentId) : AddsUpAt accounts whole measure instrumentId := by
      apply addsUpAt_of_netted aggregated
      simp only [mem_cons, not_mem_nil, or_false] at listed
      rcases listed with rfl | rfl | rfl
      · rfl
      · rfl
      · exact netted_netNotional latestPrices contractMultipliers _
    exact ⟨each, .of_each each⟩
  · intro measure listed
    have each (instrumentId : InstrumentId) (side : OnOneSide accounts instrumentId) :
        AddsUpAt accounts whole measure instrumentId := by
      apply addsUpAt_of_netted aggregated
      have netted := @netted_of_agree latestPrices contractMultipliers instrumentId _ side.agree
      simp only [mem_cons, not_mem_nil, or_false] at listed
      rcases listed with rfl | rfl
      · exact netted.1
      · exact netted.2
    exact ⟨each, fun sides => .of_each fun instrumentId => each instrumentId (sides instrumentId)⟩

def contract : InstrumentId :=
  ⟨⟨"FUTURE.CME.ES", rfl⟩⟩

def holdingOne (name : AccountId) (quantity averageCost : Decimal) : AccountId × AccountSnapshot :=
  (name, { cash := .empty, holdings := .ofItems [(contract, {
    instrumentId := contract, quantity, averageCost, realizedPnl := 0 })] })

def longAccount : AccountId × AccountSnapshot :=
  holdingOne ⟨⟨"long", rfl⟩⟩ 1 10

def shortAccount : AccountId × AccountSnapshot :=
  holdingOne ⟨⟨"short", rfl⟩⟩ (-1) 12

theorem aggregate_addsUp_opposed : ∃ whole,
    aggregateAccountSnapshots [longAccount, shortAccount] = .ok whole ∧
      (∀ currency, (whole.cash.get? currency).getD 0 = ([longAccount, shortAccount].map
        fun account => (account.2.cash.get? currency).getD 0).sum) ∧
      AddsUpAt [longAccount, shortAccount] whole (fun _ holding => holding.quantity) contract ∧
      AddsUp [longAccount, shortAccount] whole
        (netNotional (fun _ => some 11) fun _ => none) := by
  have adds := aggregate_addsUp (fun _ => some 11) (fun _ => none)
    (rfl : aggregateAccountSnapshots [longAccount, shortAccount] = .ok _)
  exact ⟨_, rfl, adds.1, (adds.2.1 _ (by simp)).1 contract, (adds.2.1 _ (by simp)).2⟩

/-- A profit in both accounts, and the gross notional, are gone from their aggregate. -/
theorem opposed_accounts_lose_profit : ∃ whole,
    aggregateAccountSnapshots [longAccount, shortAccount] = .ok whole ∧
      ¬ AddsUpAt [longAccount, shortAccount] whole
        (unrealizedPnl (fun _ => some 11) fun _ => none) contract ∧
      ¬ AddsUpAt [longAccount, shortAccount] whole
        (grossNotional (fun _ => some 11) fun _ => none) contract := by
  refine ⟨_, rfl, ?_, ?_⟩
  · unfold AddsUpAt
    decide +kernel
  · unfold AddsUpAt
    decide +kernel

end Qts
