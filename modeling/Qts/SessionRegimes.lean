import Qts.AggregatedRuns
import Qts.KeyedRuns
import Qts.RollingWindows

/-! # Session regimes -/

namespace Qts

open List

structure CompletedRegimeSession where
  rangePct : Decimal
  asiaVolumeShare : Decimal
  closeToCloseReturn : Decimal
  churn : Option Decimal

structure RegimeAccumulator where
  sessionId : String
  openPrice : Decimal
  high : Decimal
  low : Decimal
  close : Decimal
  totalVolume : Decimal
  asiaVolume : Decimal

namespace RegimeAccumulator

def fromBar (bar : Bar) (isAsia : Bool) : RegimeAccumulator where
  sessionId := bar.sessionId
  openPrice := bar.openPrice
  high := bar.high
  low := bar.low
  close := bar.close
  totalVolume := bar.volume
  asiaVolume := if isAsia then bar.volume else 0

def update (accumulator : RegimeAccumulator) (bar : Bar) (isAsia : Bool) : RegimeAccumulator :=
  { accumulator with
    high := max accumulator.high bar.high
    low := min accumulator.low bar.low
    close := bar.close
    totalVolume := accumulator.totalVolume + bar.volume
    asiaVolume := if isAsia then accumulator.asiaVolume + bar.volume else accumulator.asiaVolume }

def complete (accumulator : RegimeAccumulator) (previousClose : Option Decimal) :
    Option CompletedRegimeSession :=
  match previousClose with
  | none => none
  | some prev =>
    if accumulator.openPrice ≤ 0 ∨ prev ≤ 0 then none
    else
      let rangePct := (accumulator.high - accumulator.low) / accumulator.openPrice
      let closeToCloseReturn := (accumulator.close - prev) / prev
      let absReturn := |closeToCloseReturn|
      some {
        rangePct, closeToCloseReturn
        asiaVolumeShare := if 0 < accumulator.totalVolume then
          accumulator.asiaVolume / accumulator.totalVolume else 0
        churn := if 0 < absReturn then some (rangePct / absReturn) else none }

end RegimeAccumulator

structure RegimeSymbolState where
  current : Option RegimeAccumulator := none
  previousClose : Option Decimal := none
  completed : List CompletedRegimeSession := []

/-- What the gate reads of its configuration; the symbols are the keys of its states. -/
structure SessionRegimeGateConfig where
  rule : String
  symbols : List String
  distinct : symbols.Nodup
  lookbackSessions : Nat
  minHistorySessions : Nat
  asiaStartEtHour : Int
  asiaEndEtHour : Int

/-- Trailing regime evidence aggregated across configured symbols. -/
structure SessionRegimeSnapshot where
  meanRangePct : Decimal
  meanAsiaShare : Decimal
  minTrailingReturn : Decimal
  meanMedianChurn : Option Decimal
  meanRealizedVol : Option Decimal

/-- The functions that the gate takes from the standard library and the time zone. -/
structure RegimeFunctions where
  upper : String → String
  etMinutes : DateTime → Int
  median : List Decimal → Decimal
  sqrt : Decimal → Decimal

namespace ReturnStatistics

def meanReturn (values : List Decimal) : Decimal :=
  if values = [] then 0 else values.sum / values.length

def compoundReturn (returns : List Decimal) : Decimal :=
  returns.foldl (fun compounded value => compounded * (1 + value)) 1 - 1

def realizedVolatility (functions : RegimeFunctions) (returns : List Decimal) : Decimal :=
  if returns.length < 2 then 0
  else
    let variance := meanReturn (returns.map fun value => (value - meanReturn returns) ^ 2)
    if 0 < variance then functions.sqrt variance else 0

end ReturnStatistics

structure TrailingSessionRegimeGate where
  config : SessionRegimeGateConfig
  states : Dict String RegimeSymbolState

namespace TrailingSessionRegimeGate

open ReturnStatistics

variable (functions : RegimeFunctions) (config : SessionRegimeGateConfig)

def init : TrailingSessionRegimeGate where
  config := config
  states := .ofItems (config.symbols.map fun symbol => (symbol, {}))

def isAsiaBar (bar : Bar) : Bool :=
  let minutes := functions.etMinutes bar.startTime
  let first := config.asiaStartEtHour * 60
  let last := config.asiaEndEtHour * 60
  if first < last then decide (first ≤ minutes ∧ minutes < last)
  else decide (first ≤ minutes ∨ minutes < last)

/-- Move the current session to the history, which keeps the last sessions. -/
def finalizeCurrent (state : RegimeSymbolState) : RegimeSymbolState :=
  match state.current with
  | none => state
  | some current =>
    match current.complete state.previousClose with
    | none => { state with previousClose := some current.close }
    | some completed => { state with
        previousClose := some current.close
        completed := (state.completed ++ [completed]).rtake config.lookbackSessions }

def updateState (state : RegimeSymbolState) (bar : Bar) : RegimeSymbolState :=
  let isAsia := isAsiaBar functions config bar
  match state.current with
  | none => { state with current := some (.fromBar bar isAsia) }
  | some current =>
    if current.sessionId ≠ bar.sessionId then
      { finalizeCurrent config state with current := some (.fromBar bar isAsia) }
    else { state with current := some (current.update bar isAsia) }

/-- Update current-session evidence and finalize only on session change. -/
def updateBar (gate : TrailingSessionRegimeGate) (symbol : String) (bar : Bar) :
    TrailingSessionRegimeGate :=
  if gate.config.rule = "off" then gate
  else
    match gate.states.get? (functions.upper symbol) with
    | none => gate
    | some state => { gate with
        states := gate.states.set (functions.upper symbol)
          (updateState functions gate.config state bar) }

def snapshotOf (histories : List (List CompletedRegimeSession)) :
    Except String (Option SessionRegimeSnapshot) :=
  if histories.any fun completed => completed.length < config.minHistorySessions then .ok none
  else
    let sessions := histories.map (·.rtake config.lookbackSessions)
    let returns := sessions.map (·.map (·.closeToCloseReturn))
    let medianChurns := (sessions.map (·.filterMap (·.churn))).filterMap fun churns =>
      if churns = [] then none else some (functions.median churns)
    let realizedVols := returns.map (realizedVolatility functions)
    match (returns.map compoundReturn).min? with
    | none => .error "min() iterable argument is empty"
    | some minTrailingReturn => .ok (some {
        meanRangePct := ReturnStatistics.meanReturn
          (sessions.map fun each => ReturnStatistics.meanReturn (each.map (·.rangePct)))
        meanAsiaShare := ReturnStatistics.meanReturn
          (sessions.map fun each => ReturnStatistics.meanReturn (each.map (·.asiaVolumeShare)))
        minTrailingReturn
        meanMedianChurn :=
          if medianChurns = [] then none else some (ReturnStatistics.meanReturn medianChurns)
        meanRealizedVol :=
          if realizedVols = [] then none else some (ReturnStatistics.meanReturn realizedVols) })

/-- Return the completed-session snapshot, or nothing before warmup. -/
def snapshot (gate : TrailingSessionRegimeGate) : Except String (Option SessionRegimeSnapshot) :=
  snapshotOf functions gate.config (gate.states.values.map (·.completed))

def run (feed : List (String × Bar)) : TrailingSessionRegimeGate :=
  feed.foldl (fun gate entry => gate.updateBar functions entry.1 entry.2) (init config)

def sessionOf (first : Bar) (rest : List Bar) : RegimeAccumulator where
  sessionId := first.sessionId
  openPrice := first.openPrice
  high := (rest.map (·.high)).foldl max first.high
  low := (rest.map (·.low)).foldl min first.low
  close := (rest.getLastD first).close
  totalVolume := ((first :: rest).map (·.volume)).sum
  asiaVolume := (((first :: rest).filter (isAsiaBar functions config)).map (·.volume)).sum

def sessionRuns (bars : List Bar) : List (List Bar) :=
  KeyedRuns.runs (·.sessionId) bars

def closeOf (run : List Bar) : Option Decimal :=
  run.getLast?.map (·.close)

def measured (previousClose : Option Decimal) : List (List Bar) → List CompletedRegimeSession
  | [] => []
  | [] :: runs => measured previousClose runs
  | (first :: rest) :: runs =>
    ((sessionOf functions config first rest).complete previousClose).toList ++
      measured (closeOf (first :: rest)) runs

def batchHistory (bars : List Bar) : List CompletedRegimeSession :=
  (measured functions config none (sessionRuns bars).dropLast).rtake config.lookbackSessions

def barsOf (feed : List (String × Bar)) (symbol : String) : List Bar :=
  (feed.filter fun entry => functions.upper entry.1 = symbol).map (·.2)

variable {functions config} {state : RegimeSymbolState} {bars : List Bar}

theorem sessionOf_update (first : Bar) (rest : List Bar) (bar : Bar) :
    (sessionOf functions config first rest).update bar (isAsiaBar functions config bar) =
      sessionOf functions config first (rest ++ [bar]) := by
  have volume (asia : Bool) (total : Decimal) : (if asia then total + bar.volume else total) =
      total + (([bar].filter fun _ => asia).map (·.volume)).sum := by
    cases asia <;> simp
  simp only [sessionOf, RegimeAccumulator.update, volume, map_append, foldl_append,
    map_cons, map_nil, foldl_cons, foldl_nil, getLastD_concat,
    ← cons_append, filter_append, sum_append, sum_cons, sum_nil,
    add_zero]
  congr 2

theorem measured_concat (previousClose : Option Decimal) {closed : List (List Bar)}
    (filled : [] ∉ closed) (first : Bar) (rest : List Bar) :
    measured functions config previousClose (closed ++ [first :: rest]) =
      measured functions config previousClose closed ++
        ((sessionOf functions config first rest).complete
          (match closed.getLast? with
            | none => previousClose
            | some run => closeOf run)).toList := by
  induction closed generalizing previousClose with
  | nil => simp [measured]
  | cons run closed ih =>
    obtain ⟨head, tail, rfl⟩ := exists_cons_of_ne_nil fun empty =>
      filled (empty ▸ mem_cons_self)
    rw [cons_append, measured, measured, ih _ fun mem =>
      filled (mem_cons_of_mem _ mem), append_assoc, getLast?_cons]
    cases closed.getLast? <;> rfl

inductive Tracks (functions : RegimeFunctions) (config : SessionRegimeGateConfig) :
    RegimeSymbolState → List Bar → Prop
  | fresh : Tracks functions config {} []
  | within {bars : List Bar} {closed : List (List Bar)} {first : Bar} {rest : List Bar}
      (splits : sessionRuns bars = closed ++ [first :: rest]) :
      Tracks functions config {
        current := some (sessionOf functions config first rest)
        previousClose := closed.getLast?.bind closeOf
        completed := (measured functions config none closed).rtake config.lookbackSessions } bars

theorem sessionOf_single (bar : Bar) : sessionOf functions config bar [] =
    .fromBar bar (isAsiaBar functions config bar) := by
  simp only [sessionOf, RegimeAccumulator.fromBar]
  cases asia : isAsiaBar functions config bar <;> simp [asia]

theorem last_of_runs {closed : List (List Bar)} {first : Bar} {rest : List Bar}
    (splits : sessionRuns bars = closed ++ [first :: rest]) :
    [] ∉ closed ∧ bars.getLast? = (first :: rest).getLast? ∧
      ∀ last ∈ (first :: rest).getLast?, last.sessionId = first.sessionId := by
  obtain ⟨joins, filled, same, -⟩ := KeyedRuns.runs_eq_iff.mp splits
  refine ⟨fun mem => filled (mem_append_left _ mem), ?_, ?_⟩
  · rw [joins, flatten_append, flatten_singleton, getLast?_append_of_ne_nil _ (cons_ne_nil _ _)]
  · intro last isLast
    exact same _ (mem_append_right _ mem_cons_self) last
      (mem_of_mem_getLast? isLast) first mem_cons_self

theorem updateState_tracks (tracks : Tracks functions config state bars) (bar : Bar) :
    Tracks functions config (updateState functions config state bar) (bars ++ [bar]) := by
  cases tracks with
  | fresh =>
    have splits : sessionRuns ([] ++ [bar]) = [] ++ [[bar]] := rfl
    have opened := @Tracks.within functions config _ _ _ _ splits
    rw [sessionOf_single, measured, rtake_nil] at opened
    exact opened
  | @within _ closed first rest splits =>
    obtain ⟨filled, ends, same⟩ := last_of_runs splits
    have known : (sessionOf functions config first rest).sessionId = first.sessionId := rfl
    unfold updateState
    dsimp only
    rw [known]
    by_cases differs : first.sessionId = bar.sessionId
    · rw [if_neg (not_not_intro differs), sessionOf_update]
      apply @Tracks.within functions config _ closed
      apply splitBy_concat_same splits
      intro last isLast
      exact decide_eq_true ((same last isLast).trans differs)
    · have grown : sessionRuns (bars ++ [bar]) = (closed ++ [first :: rest]) ++ [bar :: []] := by
        rw [← splits]
        apply splitBy_concat_other
        intro last isLast
        rw [ends] at isLast
        exact decide_eq_false fun equal => differs ((same last isLast).symm.trans equal)
      have opened := @Tracks.within functions config _ _ _ _ grown
      rw [sessionOf_single, measured_concat none filled, getLast?_concat] at opened
      rw [if_pos differs]
      have close : closeOf (first :: rest) =
          some (sessionOf functions config first rest).close := by
        rw [closeOf, getLast?_cons, ← getLastD_eq_getLast?]
        rfl
      have before : (match closed.getLast? with
          | none => none
          | some run => closeOf run) = closed.getLast?.bind closeOf := by
        cases closed.getLast? <;> rfl
      rw [before] at opened
      unfold finalizeCurrent
      dsimp only
      cases completes : (sessionOf functions config first rest).complete
          (closed.getLast?.bind closeOf) with
      | none =>
        rw [completes] at opened
        simpa [close] using opened
      | some completed =>
        rw [completes] at opened
        simpa [close, RollingWindow.rtake_rtake_concat] using opened

def AllTracked (functions : RegimeFunctions) (gate : TrailingSessionRegimeGate)
    (feed : List (String × Bar)) : Prop :=
  gate.states.keys = gate.config.symbols ∧
    ∀ symbol state, gate.states.get? symbol = some state →
      Tracks functions gate.config state (barsOf functions feed symbol)

theorem updateBar_config (gate : TrailingSessionRegimeGate) (symbol : String) (bar : Bar) :
    (gate.updateBar functions symbol bar).config = gate.config := by
  unfold updateBar
  split
  · rfl
  · split <;> rfl

theorem updateBar_tracked {gate : TrailingSessionRegimeGate} (enabled : gate.config.rule ≠ "off")
    {feed : List (String × Bar)} (tracked : AllTracked functions gate feed) (symbol : String)
    (bar : Bar) :
    AllTracked functions (gate.updateBar functions symbol bar) (feed ++ [(symbol, bar)]) := by
  obtain ⟨keys, each⟩ := tracked
  have grown (other : String) : barsOf functions (feed ++ [(symbol, bar)]) other =
      if functions.upper symbol = other then barsOf functions feed other ++ [bar]
      else barsOf functions feed other := by
    rw [barsOf, barsOf, filter_append, map_append]
    split <;> simp [*]
  unfold updateBar
  rw [if_neg enabled]
  cases found : gate.states.get? (functions.upper symbol) with
  | none =>
    refine ⟨keys, fun other state known => ?_⟩
    rw [grown, if_neg]
    · exact each other state known
    · rintro rfl
      rw [found] at known
      cases known
  | some held =>
    constructor
    · have present : functions.upper symbol ∈ gate.states.keys :=
        gate.states.mem_keys_iff.mpr ⟨held, found⟩
      exact (Dict.setItem_keys _ _ _).trans ((if_pos present).trans keys)
    · intro other state known
      dsimp only at known ⊢
      rw [grown]
      by_cases same : functions.upper symbol = other
      · subst same
        rw [Dict.get?_set_self] at known
        cases known
        rw [if_pos rfl]
        exact updateState_tracks (each _ held found) bar
      · rw [Dict.get?_set_of_ne _ _ (Ne.symm same)] at known
        rw [if_neg same]
        exact each other state known

theorem init_states : (init config).states.keys = config.symbols ∧
    ∀ symbol state, (init config).states.get? symbol = some state → state = {} := by
  have names : (config.symbols.map fun symbol =>
      (symbol, ({} : RegimeSymbolState))).map Prod.fst = config.symbols := by
    rw [map_map]
    exact map_id' config.symbols
  constructor
  · exact (congrArg (List.map Prod.fst)
      (Dict.ofItems_items (names.symm ▸ config.distinct))).trans names
  · intro symbol state known
    obtain ⟨_, -, same⟩ := mem_map.mp (Dict.mem_of_get?_ofItems known)
    cases same
    rfl

theorem run_tracked (enabled : config.rule ≠ "off") (feed : List (String × Bar)) :
    (run functions config feed).config = config ∧
      AllTracked functions (run functions config feed) feed := by
  induction feed using reverseRecOn with
  | nil =>
    refine ⟨rfl, init_states.1, fun symbol state known => ?_⟩
    rw [init_states.2 symbol state known]
    exact .fresh
  | append_singleton feed entry ih =>
    rw [run, foldl_append, ← run]
    exact ⟨(updateBar_config _ _ _).trans ih.1,
      updateBar_tracked (by rw [ih.1]; exact enabled) ih.2 entry.1 entry.2⟩

theorem Tracks.history (tracks : Tracks functions config state bars) :
    state.completed = batchHistory functions config bars := by
  cases tracks with
  | fresh => simp [batchHistory, sessionRuns, KeyedRuns.runs, measured]
  | within splits => rw [batchHistory, splits, dropLast_concat]

theorem histories_eq {gate : TrailingSessionRegimeGate}
    {history : String → List CompletedRegimeSession} (keys : gate.states.keys = gate.config.symbols)
    (each : ∀ symbol state, gate.states.get? symbol = some state → state.completed = history symbol)
    : gate.states.values.map (·.completed) = gate.config.symbols.map history := by
  rw [← keys, Dict.values, Dict.keys, map_map, map_map]
  apply map_congr_left
  intro item mem
  exact each item.1 item.2 (gate.states.get?_eq_some_iff.mpr mem)

theorem run_off (off : config.rule = "off") (feed : List (String × Bar)) :
    run functions config feed = init config := by
  induction feed using reverseRecOn with
  | nil => rfl
  | append_singleton feed entry ih =>
    rw [run, foldl_append, ← run, ih]
    exact if_pos off

/-- The snapshot of a gate after any feed is that of the last measurable sessions of every
symbol, the current ones left out, or that of no sessions where the gate is off. -/
theorem snapshot_eq_batch (functions : RegimeFunctions) (config : SessionRegimeGateConfig)
    (feed : List (String × Bar)) :
    (run functions config feed).snapshot functions =
      snapshotOf functions config (config.symbols.map fun symbol =>
        if config.rule = "off" then []
        else batchHistory functions config (barsOf functions feed symbol)) := by
  by_cases off : config.rule = "off"
  · simp only [if_pos off]
    rw [run_off off, snapshot, histories_eq init_states.1 fun symbol state known => by
      rw [init_states.2 symbol state known]]
    rfl
  · simp only [if_neg off]
    obtain ⟨same, keys, each⟩ := run_tracked off feed
    rw [snapshot, histories_eq keys fun symbol state known => (each symbol state known).history,
      same]

def plainFunctions : RegimeFunctions where
  upper := fun symbol => symbol
  etMinutes := fun _ => 0
  median := fun _ => 0
  sqrt := fun value => value

def offConfig : SessionRegimeGateConfig where
  rule := "off"
  symbols := ["GC"]
  distinct := by decide
  lookbackSessions := 1
  minHistorySessions := 1
  asiaStartEtHour := 20
  asiaEndEtHour := 2

def sessionBar (sessionId : String) : BarFields where
  instrumentId := ⟨⟨"FUTURE.GC", rfl⟩⟩
  startTime := 0
  endTime := 60
  timeframe := "15m"
  sessionId := sessionId
  openPrice := 10
  high := 11
  low := 10
  close := 10

def threeSessions : List (String × Bar) :=
  [("GC", ⟨sessionBar "1", by decide +kernel⟩), ("GC", ⟨sessionBar "2", by decide +kernel⟩),
    ("GC", ⟨sessionBar "3", by decide +kernel⟩)]

/-- One measurable session is complete, and the gate has no snapshot. -/
theorem off_gate_has_no_snapshot :
    (run plainFunctions offConfig threeSessions).snapshot plainFunctions ≠
      snapshotOf plainFunctions offConfig (offConfig.symbols.map fun symbol =>
        batchHistory plainFunctions offConfig (barsOf plainFunctions threeSessions symbol)) := by
  intro same
  have answers := congrArg (fun outcome => outcome.toOption.any Option.isNone) same
  exact absurd answers (by decide +kernel)

end TrailingSessionRegimeGate

end Qts
