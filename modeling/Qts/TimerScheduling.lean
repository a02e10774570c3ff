import Qts.KeyedRegrouping
import Qts.OrderedDictionary
import Qts.RuntimeFailures
import Qts.StepRuns
import Mathlib.Tactic.Ring

/-! # Timer scheduling -/

namespace Qts

open Dict KeyedRegrouping List

structure TimerName where
  text : String
  visible : PythonText.isBlank text = false

instance : DecidableEq TimerName := fun first second =>
  decidable_of_iff (first.text = second.text) (by cases first; cases second; simp)

structure TimerInterval where
  length : Int
  pos : 0 < length
deriving DecidableEq

structure TimerEvent where
  name : TimerName
  time : DateTime

/-- Strategy-declared timer schedule request. -/
structure TimerSubscription where
  name : TimerName
  interval : TimerInterval
  firstFire : Option DateTime := none

def TimerSubscription.create (name : String) (interval : Int) (firstFire : Option DateTime) :
    Except Failure TimerSubscription :=
  match visible : PythonText.isBlank name with
  | true => .error (.valueError "name must not be empty")
  | false =>
    if pos : 0 < interval then
      .ok { name := ⟨name, visible⟩, interval := ⟨interval, pos⟩, firstFire }
    else .error (.valueError "interval must be positive")

structure TimerScheduler where
  nextFire : Dict TimerName DateTime := .empty
  intervals : Dict TimerName TimerInterval := .empty

namespace TimerScheduler

def register (scheduler : TimerScheduler) (subscription : TimerSubscription) : TimerScheduler where
  intervals := scheduler.intervals.set subscription.name subscription.interval
  nextFire :=
    match subscription.firstFire with
    | some firstFire => scheduler.nextFire.set subscription.name firstFire
    -- The first fire waits for the first time that the scheduler observes.
    | none => scheduler.nextFire.erase subscription.name

def registerAll (subscriptions : List TimerSubscription) : TimerScheduler :=
  subscriptions.foldl register {}

def reached (interval : TimerInterval) (now nextFire : Int) : List Int × Int :=
  if _ : nextFire ≤ now then
    let later := reached interval now (nextFire + interval.length)
    (nextFire :: later.1, later.2)
  else ([], nextFire)
termination_by (now - nextFire + 1).toNat
decreasing_by
  have := interval.pos
  omega

/-- One round of the loop over the registered timers. -/
def dueOf (now : DateTime) (progress : Dict TimerName DateTime × List TimerEvent)
    (timer : TimerName × TimerInterval) : Dict TimerName DateTime × List TimerEvent :=
  match progress.1.get? timer.1 with
  -- The first observation puts the first fire one interval out.
  | none => (progress.1.set timer.1 (now + timer.2.length), progress.2)
  | some nextFire =>
      let fired := reached timer.2 now nextFire
      (progress.1.set timer.1 fired.2, progress.2 ++ fired.1.map fun time => ⟨timer.1, time⟩)

def due (scheduler : TimerScheduler) (now : DateTime) : List TimerEvent × TimerScheduler :=
  let progress := scheduler.intervals.items.foldl (dueOf now) (scheduler.nextFire, [])
  (progress.2, { scheduler with nextFire := progress.1 })

def polled (scheduler : TimerScheduler) (polls : List DateTime) : List TimerEvent :=
  (StepRuns.responses due scheduler polls).flatten

/-- A time at which a timer with this first fire goes off. -/
def Fires (interval : TimerInterval) (first time : Int) : Prop :=
  ∃ rounds : ℕ, time = first + rounds * interval.length

variable {interval : TimerInterval} {now later nextFire time : Int}

theorem reached_of_le (early : nextFire ≤ now) :
    reached interval now nextFire =
      (nextFire :: (reached interval now (nextFire + interval.length)).1,
        (reached interval now (nextFire + interval.length)).2) := by
  rw [reached, dif_pos early]

theorem reached_of_lt (future : now < nextFire) :
    reached interval now nextFire = ([], nextFire) := by
  rw [reached, dif_neg (by omega)]

theorem lt_reached (interval : TimerInterval) (now nextFire : Int) :
    now < (reached interval now nextFire).2 := by
  fun_induction reached interval now nextFire with
  | case1 nextFire early later ih => exact ih
  | case2 nextFire future => omega

theorem Fires.le (fires : Fires interval nextFire time) : nextFire ≤ time := by
  obtain ⟨rounds, rfl⟩ := fires
  have := interval.pos
  have := Int.mul_nonneg (Int.natCast_nonneg rounds) this.le
  omega

theorem fires_iff (interval : TimerInterval) (nextFire time : Int) :
    Fires interval nextFire time ↔
      time = nextFire ∨ Fires interval (nextFire + interval.length) time := by
  constructor
  · rintro ⟨rounds, rfl⟩
    cases rounds with
    | zero => exact .inl (by simp)
    | succ rounds => exact .inr ⟨rounds, by push_cast; ring⟩
  · rintro (rfl | ⟨rounds, rfl⟩)
    · exact ⟨0, by simp⟩
    · exact ⟨rounds + 1, by push_cast; ring⟩

theorem mem_reached : time ∈ (reached interval now nextFire).1 ↔
    Fires interval nextFire time ∧ time ≤ now := by
  fun_induction reached interval now nextFire with
  | case1 nextFire early later ih =>
    rw [mem_cons, ih, fires_iff interval nextFire]
    constructor
    · rintro (rfl | ⟨fires, le⟩)
      · exact ⟨.inl rfl, early⟩
      · exact ⟨.inr fires, le⟩
    · rintro ⟨rfl | fires, le⟩
      · exact .inl rfl
      · exact .inr ⟨fires, le⟩
  | case2 nextFire future =>
    constructor
    · exact fun none => absurd none not_mem_nil
    · rintro ⟨fires, le⟩
      have := fires.le
      omega

theorem fires_reached : Fires interval (reached interval now nextFire).2 time ↔
    Fires interval nextFire time ∧ now < time := by
  fun_induction reached interval now nextFire with
  | case1 nextFire early later ih =>
    rw [ih, fires_iff interval nextFire]
    constructor
    · exact fun ⟨fires, after⟩ => ⟨.inr fires, after⟩
    · rintro ⟨rfl | fires, after⟩
      · omega
      · exact ⟨fires, after⟩
  | case2 nextFire future =>
    constructor
    · intro fires
      have := fires.le
      exact ⟨fires, by omega⟩
    · exact fun both => both.1

theorem reached_increasing (interval : TimerInterval) (now nextFire : Int) :
    (reached interval now nextFire).1.Pairwise (· < ·) := by
  fun_induction reached interval now nextFire with
  | case1 nextFire early later ih =>
    apply List.Pairwise.cons _ ih
    intro time mem
    have fires := (mem_reached.mp mem).1.le
    have := interval.pos
    omega
  | case2 => exact List.Pairwise.nil

/-- A poll on the way to a later one takes nothing from what the two return together. -/
theorem reached_reached (le : now ≤ later) (nextFire : Int) :
    reached interval later nextFire =
      ((reached interval now nextFire).1 ++
          (reached interval later (reached interval now nextFire).2).1,
        (reached interval later (reached interval now nextFire).2).2) := by
  fun_induction reached interval now nextFire with
  | case1 nextFire early rest ih =>
    rw [reached_of_le (le_trans early le), ih]
    rfl
  | case2 nextFire future => rfl

/-- A timer's share of a poll: its fire times and the one that follows them. -/
def advanced (interval : TimerInterval) (now : Int) : Option DateTime → List Int × Int
  | none => ([], now + interval.length)
  | some nextFire => reached interval now nextFire

def nextOf (scheduler : TimerScheduler) (timer : TimerName × TimerInterval) : Option DateTime :=
  scheduler.nextFire.get? timer.1

theorem dueOf_eq (now : DateTime) (progress : Dict TimerName DateTime × List TimerEvent)
    (timer : TimerName × TimerInterval) :
    dueOf now progress timer =
      (progress.1.set timer.1 (advanced timer.2 now (progress.1.get? timer.1)).2,
        progress.2 ++ (advanced timer.2 now (progress.1.get? timer.1)).1.map
          fun time => ⟨timer.1, time⟩) := by
  unfold dueOf advanced
  cases progress.1.get? timer.1 with
  | none => simp
  | some nextFire => rfl

theorem foldl_dueOf (now : DateTime) {timers : List (TimerName × TimerInterval)}
    (distinct : (timers.map Prod.fst).Nodup)
    (progress : Dict TimerName DateTime × List TimerEvent) :
    (timers.foldl (dueOf now) progress).2 = progress.2 ++ timers.flatMap (fun timer =>
        (advanced timer.2 now (progress.1.get? timer.1)).1.map fun time => ⟨timer.1, time⟩) ∧
      (∀ timer ∈ timers, (timers.foldl (dueOf now) progress).1.get? timer.1 =
        some (advanced timer.2 now (progress.1.get? timer.1)).2) ∧
      ∀ name, name ∉ timers.map Prod.fst →
        (timers.foldl (dueOf now) progress).1.get? name = progress.1.get? name := by
  induction timers generalizing progress with
  | nil => simp
  | cons timer timers ih =>
    obtain ⟨alone, distinct⟩ := nodup_cons.mp distinct
    have other : ∀ later ∈ timers, later.1 ≠ timer.1 := fun later mem equal =>
      alone (equal ▸ mem_map_of_mem mem)
    obtain ⟨events, moved, kept⟩ := ih distinct (dueOf now progress timer)
    rw [dueOf_eq] at events moved kept
    have unread : ∀ later ∈ timers,
        (progress.1.set timer.1 (advanced timer.2 now (progress.1.get? timer.1)).2).get? later.1 =
          progress.1.get? later.1 := fun later mem =>
      get?_set_of_ne _ _ (other later mem)
    rw [foldl_cons, dueOf_eq]
    refine ⟨?_, ?_, ?_⟩
    · rw [events, flatMap_cons, append_assoc]
      congr 2
      apply flatMap_congr
      intro later mem
      rw [unread later mem]
    · intro later mem
      rcases mem_cons.mp mem with rfl | mem
      · rw [kept _ alone, get?_set_self]
      · rw [moved later mem, unread later mem]
    · intro name absent
      rw [map_cons, mem_cons, not_or] at absent
      rw [kept name absent.2, get?_set_of_ne _ _ absent.1]

variable (scheduler : TimerScheduler)

theorem due_events (now : DateTime) :
    (scheduler.due now).1 = scheduler.intervals.items.flatMap fun timer =>
      (advanced timer.2 now (scheduler.nextOf timer)).1.map fun time => ⟨timer.1, time⟩ :=
  (foldl_dueOf now scheduler.intervals.distinct (scheduler.nextFire, [])).1

@[simp]
theorem due_intervals (now : DateTime) : (scheduler.due now).2.intervals = scheduler.intervals :=
  rfl

theorem due_nextOf {scheduler : TimerScheduler} {timer : TimerName × TimerInterval}
    (registered : timer ∈ scheduler.intervals.items) (now : DateTime) :
    (scheduler.due now).2.nextOf timer =
      some (advanced timer.2 now (scheduler.nextOf timer)).2 :=
  (foldl_dueOf now scheduler.intervals.distinct (scheduler.nextFire, [])).2.1 timer registered

theorem lt_advanced (interval : TimerInterval) (now : Int) (nextFire : Option DateTime) :
    now < (advanced interval now nextFire).2 := by
  cases nextFire with
  | none =>
    have := interval.pos
    simp only [advanced]
    omega
  | some nextFire => exact lt_reached interval now nextFire

/-- Every timer waits for a fire time after `now`. -/
def Started (scheduler : TimerScheduler) (now : Int) : Prop :=
  ∀ timer ∈ scheduler.intervals.items, ∃ nextFire : Int,
    scheduler.nextOf timer = some nextFire ∧ now < nextFire

theorem due_started (now : DateTime) : (scheduler.due now).2.Started now :=
  fun _ registered =>
    have moved := @due_nextOf scheduler _ registered now
    ⟨_, moved, lt_advanced _ _ _⟩

@[simp]
theorem polled_nil : scheduler.polled [] = [] :=
  rfl

theorem polled_cons (poll : DateTime) (polls : List DateTime) :
    scheduler.polled (poll :: polls) =
      (scheduler.due poll).1 ++ (scheduler.due poll).2.polled polls :=
  rfl

theorem polled_append (polls others : List DateTime) :
    scheduler.polled (polls ++ others) =
      scheduler.polled polls ++ (StepRuns.final due scheduler polls).polled others := by
  unfold polled
  rw [StepRuns.responses_append, flatten_append]

variable {timer : TimerName × TimerInterval}

theorem filter_due {timers : List (TimerName × TimerInterval)}
    (distinct : (timers.map Prod.fst).Nodup) (registered : timer ∈ timers)
    (times : TimerName × TimerInterval → List Int) :
    (timers.flatMap fun timer => (times timer).map fun time =>
        (⟨timer.1, time⟩ : TimerEvent)).filter (fun event => event.name = timer.1) =
      (times timer).map fun time => ⟨timer.1, time⟩ := by
  induction timers with
  | nil => exact absurd registered not_mem_nil
  | cons first timers ih =>
    obtain ⟨alone, distinct⟩ := nodup_cons.mp distinct
    rw [flatMap_cons, filter_append]
    rcases mem_cons.mp registered with rfl | registered
    · have own : ((times timer).map fun time => (⟨timer.1, time⟩ : TimerEvent)).filter
          (fun event => event.name = timer.1) =
          (times timer).map fun time => ⟨timer.1, time⟩ := by
        simp
      have others : (timers.flatMap fun timer => (times timer).map fun time =>
          (⟨timer.1, time⟩ : TimerEvent)).filter (fun event => event.name = timer.1) = [] := by
        simp only [filter_eq_nil_iff, mem_flatMap, mem_map]
        rintro _ ⟨other, mem, time, _, rfl⟩ same
        exact alone (of_decide_eq_true same ▸ mem_map_of_mem mem)
      rw [own, others, append_nil]
    · have ne : first.1 ≠ timer.1 := fun equal =>
        alone (equal ▸ mem_map_of_mem registered)
      have none : ((times first).map fun time => (⟨first.1, time⟩ : TimerEvent)).filter
          (fun event => event.name = timer.1) = [] := by
        simp [ne]
      rw [none, nil_append, ih distinct registered]

variable {polls : List Int} {start : Int}

theorem le_getLastD (sorted : (start :: polls).Pairwise (· ≤ ·)) :
    start ≤ polls.getLastD start := by
  have last : polls.getLastD start ∈ start :: polls := getLastD_mem_cons
  rcases mem_cons.mp last with same | mem
  · exact Int.le_of_eq same.symm
  · exact (pairwise_cons.mp sorted).1 _ mem

variable {scheduler}

theorem polled_of_timer (registered : timer ∈ scheduler.intervals.items)
    (sorted : (start :: polls).Pairwise (· ≤ ·)) {nextFire : Int}
    (next : scheduler.nextOf timer = some nextFire) (future : start < nextFire) :
    (scheduler.polled polls).filter (fun event => event.name = timer.1) =
      (reached timer.2 (polls.getLastD start) nextFire).1.map fun time => ⟨timer.1, time⟩ := by
  induction polls generalizing scheduler start nextFire with
  | nil =>
    rw [getLastD_nil, reached_of_lt future]
    rfl
  | cons poll polls ih =>
    obtain ⟨_, sorted⟩ := pairwise_cons.mp sorted
    have moved := due_nextOf registered poll
    rw [next] at moved
    have kept : timer ∈ (scheduler.due poll).2.intervals.items := registered
    rw [polled_cons, filter_append, ih kept sorted moved (lt_advanced _ _ _),
      getLastD_cons, reached_reached (le_getLastD sorted) nextFire, map_append]
    congr 1
    rw [due_events, filter_due scheduler.intervals.distinct registered, next]
    rfl

theorem polled_names (scheduler : TimerScheduler) (polls : List DateTime) :
    ∀ event ∈ scheduler.polled polls, event.name ∈ scheduler.intervals.keys := by
  induction polls generalizing scheduler with
  | nil => simp
  | cons poll polls ih =>
    intro event mem
    rw [polled_cons, mem_append] at mem
    rcases mem with mem | mem
    · simp only [due_events, mem_flatMap, mem_map] at mem
      obtain ⟨timer, registered, time, _, rfl⟩ := mem
      exact mem_map_of_mem registered
    · exact ih (scheduler.due poll).2 event mem

theorem due_eq_regroup (started : scheduler.Started start)
    (sorted : (start :: polls).Pairwise (· ≤ ·)) :
    (scheduler.due (polls.getLastD start)).1 =
      regroup TimerEvent.name scheduler.intervals.keys
        (scheduler.polled polls) := by
  rw [due_events]
  unfold regroup Dict.keys
  rw [flatMap_map]
  apply flatMap_congr
  intro timer registered
  obtain ⟨nextFire, next, future⟩ := started timer registered
  rw [polled_of_timer registered sorted next future, next]
  rfl

/-- A timer that waits for a fire time goes off at `time`. -/
def Awaits (scheduler : TimerScheduler) (timer : TimerName × TimerInterval) (time : Int) : Prop :=
  ∃ nextFire, scheduler.nextOf timer = some nextFire ∧ Fires timer.2 nextFire time

theorem awaits_due {start poll : Int} (started : scheduler.Started start)
    (registered : timer ∈ scheduler.intervals.items) {time : Int} :
    (scheduler.due poll).2.Awaits timer time ↔ scheduler.Awaits timer time ∧ poll < time := by
  obtain ⟨nextFire, next, _⟩ := started timer registered
  unfold Awaits
  rw [due_nextOf registered poll, next]
  simp only [advanced, Option.some.injEq, exists_eq_left', fires_reached]

theorem mem_polled (started : scheduler.Started start) (sorted : (start :: polls).Pairwise (· ≤ ·))
    (registered : timer ∈ scheduler.intervals.items) (time : Int) :
    ⟨timer.1, time⟩ ∈ scheduler.polled polls ↔
      scheduler.Awaits timer time ∧ time ≤ polls.getLastD start := by
  obtain ⟨nextFire, next, future⟩ := started timer registered
  have own := polled_of_timer registered sorted next future
  have inside : (⟨timer.1, time⟩ : TimerEvent) ∈ scheduler.polled polls ↔
      (⟨timer.1, time⟩ : TimerEvent) ∈
        (scheduler.polled polls).filter fun event => event.name = timer.1 := by
    simp
  rw [inside, own]
  unfold Awaits
  simp [next, mem_reached]

theorem exists_timer {polls : List DateTime} {event : TimerEvent}
    (mem : event ∈ scheduler.polled polls) :
    ∃ timer ∈ scheduler.intervals.items, timer.1 = event.name := by
  simpa [Dict.keys] using scheduler.polled_names polls event mem

/-- The place of a timer among the registered ones. -/
def rank (scheduler : TimerScheduler) (name : TimerName) : Nat :=
  scheduler.intervals.keys.idxOf name

/-- No poll stands between a firing and a later firing, up to `last`, of a timer
registered before it. -/
def KeepsOrder (scheduler : TimerScheduler) (last : Int) (polls : List Int) : Prop :=
  ∀ poll ∈ polls, ∀ earlier ∈ scheduler.intervals.items, ∀ late ∈ scheduler.intervals.items,
    scheduler.rank earlier.1 < scheduler.rank late.1 →
    ∀ time, scheduler.Awaits late time → time ≤ poll →
    ∀ other, scheduler.Awaits earlier other → poll < other → last < other

theorem KeepsOrder.due {start poll last : Int} (started : scheduler.Started start)
    (keeps : scheduler.KeepsOrder last (poll :: polls)) :
    (scheduler.due poll).2.KeepsOrder last polls := by
  intro next mem earlier earlierMember late lateMember before time fires le other otherFires
    after
  have lateFires := ((awaits_due started lateMember).mp fires).1
  have earlierFires := ((awaits_due started earlierMember).mp otherFires).1
  exact keeps next (mem_cons_of_mem _ mem) earlier earlierMember late lateMember before
    time lateFires le other earlierFires after

theorem due_inOrder (scheduler : TimerScheduler) (poll : DateTime) :
    InOrder TimerEvent.name scheduler.intervals.keys (scheduler.due poll).1 := by
  have distinct := scheduler.intervals.distinct
  have grouped : (scheduler.due poll).1 = regroup TimerEvent.name
      scheduler.intervals.keys (scheduler.due poll).1 := by
    conv_lhs => rw [due_events]
    unfold regroup Dict.keys
    rw [flatMap_map]
    apply flatMap_congr
    intro timer registered
    rw [due_events, filter_due distinct registered]
  rw [grouped]
  exact regroup_inOrder _ distinct _

theorem polled_inOrder {start last : Int} (started : scheduler.Started start)
    (sorted : (start :: polls).Pairwise (· ≤ ·)) (final : polls.getLastD start = last)
    (keeps : scheduler.KeepsOrder last polls) :
    InOrder TimerEvent.name scheduler.intervals.keys
      (scheduler.polled polls) := by
  induction polls generalizing scheduler start with
  | nil => exact List.Pairwise.nil
  | cons poll polls ih =>
    obtain ⟨first, rest⟩ := pairwise_cons.mp sorted
    rw [getLastD_cons] at final
    have advances := scheduler.due_started poll
    have early : ([start, poll] : List Int).Pairwise (· ≤ ·) := by
      simpa using first poll mem_cons_self
    rw [polled_cons]
    apply pairwise_append.mpr
    refine ⟨scheduler.due_inOrder poll, ih advances rest final (keeps.due started), ?_⟩
    intro event mem next nextMember
    -- An event of this poll and one of a later poll.
    by_contra before
    have single : event ∈ scheduler.polled [poll] := by
      rw [polled_cons, polled_nil, append_nil]
      exact mem
    obtain ⟨late, lateMember, lateName⟩ := exists_timer single
    obtain ⟨earlier, earlierMember, earlierName⟩ := exists_timer nextMember
    obtain ⟨_, time⟩ := event
    obtain ⟨_, other⟩ := next
    cases lateName
    cases earlierName
    have fires := (mem_polled started early lateMember time).mp single
    have firesNext := (mem_polled advances rest earlierMember other).mp nextMember
    obtain ⟨awaits, after⟩ := (awaits_due started earlierMember).mp firesNext.1
    have beyond := keeps poll mem_cons_self earlier earlierMember late lateMember
      (not_le.mp before) time fires.1 fires.2 other awaits after
    have within := firesNext.2
    omega

theorem keepsOrder_of_inOrder (started : scheduler.Started start)
    (sorted : (start :: polls).Pairwise (· ≤ ·))
    (ordered : InOrder TimerEvent.name scheduler.intervals.keys (scheduler.polled polls)) :
    scheduler.KeepsOrder (polls.getLastD start) polls := by
  intro poll mem earlier earlierMember late lateMember before time fires le other otherFires
    after
  by_contra within
  have delivered := (mem_polled started sorted earlierMember other).mpr
    ⟨otherFires, not_lt.mp within⟩
  -- The polls up to the one in question return the late timer's firing, the others the other.
  obtain ⟨front, back, rfl⟩ := append_of_mem mem
  have split : front ++ poll :: back = (front ++ [poll]) ++ back := by simp
  rw [split] at sorted ordered delivered
  have frontSorted : (start :: (front ++ [poll])).Pairwise (· ≤ ·) := by
    rw [← cons_append] at sorted
    exact (pairwise_append.mp sorted).1
  have frontLast : (front ++ [poll]).getLastD start = poll := getLastD_concat
  have inFront := (mem_polled started frontSorted lateMember time).mpr
    ⟨fires, by rw [frontLast]; exact le⟩
  have notInFront : ⟨earlier.1, other⟩ ∉ scheduler.polled (front ++ [poll]) := fun inside => by
    have := ((mem_polled started frontSorted earlierMember other).mp inside).2
    rw [frontLast] at this
    omega
  rw [polled_append] at ordered delivered
  have inBack := (mem_append.mp delivered).resolve_left notInFront
  have le := (pairwise_append.mp ordered).2.2 _ inFront _ inBack
  exact absurd before (not_lt.mpr le)

def firstFire (scheduler : TimerScheduler) (start : Int) (timer : TimerName × TimerInterval) :
    Int :=
  (scheduler.nextOf timer).getD (start + timer.2.length)

structure DeliversAll (scheduler : TimerScheduler) (start last : Int) (events : List TimerEvent) :
    Prop where
  complete : ∀ event, event ∈ events ↔ ∃ timer ∈ scheduler.intervals.items,
    timer.1 = event.name ∧ Fires timer.2 (scheduler.firstFire start timer) event.time ∧
      event.time ≤ last
  increasing : ∀ name, ((events.filter fun event => event.name = name).map TimerEvent.time).Pairwise
    (· < ·)

/-- No poll after the first stands between a firing of a timer and a later firing, still to be
delivered, of a timer registered before it. -/
def PollsKeepOrder (scheduler : TimerScheduler) (start : Int) (polls : List Int) : Prop :=
  ∀ poll ∈ polls, ∀ earlier ∈ scheduler.intervals.items, ∀ late ∈ scheduler.intervals.items,
    scheduler.rank earlier.1 < scheduler.rank late.1 →
    ∀ time, Fires late.2 (scheduler.firstFire start late) time → start < time → time ≤ poll →
    ∀ other, Fires earlier.2 (scheduler.firstFire start earlier) other → poll < other →
      polls.getLastD start < other

theorem awaits_start (registered : timer ∈ scheduler.intervals.items) (time : Int) :
    (scheduler.due start).2.Awaits timer time ↔
      Fires timer.2 (scheduler.firstFire start timer) time ∧ start < time := by
  unfold Awaits firstFire
  rw [due_nextOf registered start]
  cases scheduler.nextOf timer with
  | none =>
    have := timer.2.pos
    simp only [advanced, Option.some.injEq, exists_eq_left', Option.getD_none, iff_self_and]
    intro fires
    have := fires.le
    omega
  | some nextFire =>
    simp only [advanced, Option.some.injEq, exists_eq_left', Option.getD_some, fires_reached]

theorem pollsKeepOrder_iff (sorted : (start :: polls).Pairwise (· ≤ ·)) :
    scheduler.PollsKeepOrder start polls ↔
      (scheduler.due start).2.KeepsOrder (polls.getLastD start) polls := by
  constructor
  · intro keeps poll mem earlier earlierMember late lateMember before time fires le other
      otherFires after
    have lateRegistered : late ∈ scheduler.intervals.items := lateMember
    have earlierRegistered : earlier ∈ scheduler.intervals.items := earlierMember
    obtain ⟨fires, future⟩ := (awaits_start lateRegistered time).mp fires
    obtain ⟨otherFires, _⟩ := (awaits_start earlierRegistered other).mp otherFires
    exact keeps poll mem earlier earlierMember late lateMember before time fires future le other
      otherFires after
  · intro keeps poll mem earlier earlierMember late lateMember before time fires future le other
      otherFires after
    have begun := (pairwise_cons.mp sorted).1 poll mem
    exact keeps poll mem earlier earlierMember late lateMember before time
      ((awaits_start lateMember time).mpr ⟨fires, future⟩) le other
      ((awaits_start earlierMember other).mpr ⟨otherFires, by omega⟩) after

theorem polled_start (registered : timer ∈ scheduler.intervals.items)
    (sorted : (start :: polls).Pairwise (· ≤ ·)) :
    (scheduler.polled (start :: polls)).filter (fun event => event.name = timer.1) =
      (reached timer.2 (polls.getLastD start) (scheduler.firstFire start timer)).1.map
        fun time => ⟨timer.1, time⟩ := by
  have kept : timer ∈ (scheduler.due start).2.intervals.items := registered
  rw [polled_cons, filter_append, polled_of_timer kept sorted (due_nextOf registered start)
    (lt_advanced _ _ _), due_events, filter_due scheduler.intervals.distinct registered]
  unfold firstFire
  cases scheduler.nextOf timer with
  | none => rfl
  | some nextFire =>
    rw [Option.getD_some, reached_reached (le_getLastD sorted) nextFire, map_append]
    rfl

section

variable (sorted : (start :: polls).Pairwise (· ≤ ·))

include sorted

theorem polled_deliversAll :
    scheduler.DeliversAll start (polls.getLastD start) (scheduler.polled (start :: polls)) := by
  constructor
  · rintro ⟨name, time⟩
    have inside : ∀ timer ∈ scheduler.intervals.items, timer.1 = name →
        (⟨name, time⟩ ∈ scheduler.polled (start :: polls) ↔
          Fires timer.2 (scheduler.firstFire start timer) time ∧ time ≤ polls.getLastD start) := by
      rintro timer registered rfl
      have own := congrArg (⟨timer.1, time⟩ ∈ ·) (polled_start registered sorted)
      simpa [mem_reached] using own
    constructor
    · intro mem
      obtain ⟨timer, registered, same⟩ := exists_timer mem
      exact ⟨timer, registered, same, (inside timer registered same).mp mem⟩
    · rintro ⟨timer, registered, same, fires⟩
      exact (inside timer registered same).mpr fires
  · intro name
    by_cases known : ∃ timer ∈ scheduler.intervals.items, timer.1 = name
    · obtain ⟨timer, registered, rfl⟩ := known
      rw [polled_start registered sorted, map_map]
      simpa [Function.comp_def] using reached_increasing _ _ _
    · have none : (scheduler.polled (start :: polls)).filter
          (fun event => event.name = name) = [] := by
        apply filter_eq_nil_iff.mpr
        intro event mem same
        obtain ⟨timer, registered, named⟩ := exists_timer mem
        exact known ⟨timer, registered, named.trans (of_decide_eq_true same)⟩
      rw [none]
      exact List.Pairwise.nil

theorem polled_twice :
    scheduler.polled [start, polls.getLastD start] = (scheduler.due start).1 ++
      regroup TimerEvent.name scheduler.intervals.keys
        ((scheduler.due start).2.polled polls) := by
  rw [polled_cons, polled_cons, polled_nil, append_nil,
    due_eq_regroup (scheduler.due_started start) sorted, due_intervals]

theorem polled_perm_twice :
    (scheduler.polled (start :: polls)).Perm
      (scheduler.polled [start, polls.getLastD start]) := by
  have known := (scheduler.due start).2.polled_names polls
  have distinct : scheduler.intervals.keys.Nodup := scheduler.intervals.distinct
  rw [polled_twice sorted, polled_cons]
  exact (regroup_perm _ distinct known).symm.append_left _

theorem polled_filter_twice (name : TimerName) :
    (scheduler.polled (start :: polls)).filter (fun event => event.name = name) =
      (scheduler.polled [start, polls.getLastD start]).filter fun event => event.name = name := by
  have known := (scheduler.due start).2.polled_names polls
  rw [polled_twice sorted, polled_cons, filter_append, filter_append]
  congr 1
  by_cases mem : name ∈ scheduler.intervals.keys
  · exact (filter_regroup _ scheduler.intervals.distinct mem _).symm
  · rw [filter_eq_nil_iff.mpr, filter_eq_nil_iff.mpr]
    · intro event inside same
      exact mem (of_decide_eq_true same ▸ ((mem_regroup _).mp inside).2)
    · intro event inside same
      exact mem (of_decide_eq_true same ▸ known event inside)

theorem polled_eq_twice_iff :
    scheduler.polled (start :: polls) = scheduler.polled [start, polls.getLastD start] ↔
      scheduler.PollsKeepOrder start polls := by
  have started := scheduler.due_started start
  have known := (scheduler.due start).2.polled_names polls
  have distinct : scheduler.intervals.keys.Nodup := scheduler.intervals.distinct
  rw [polled_twice sorted, polled_cons, append_cancel_left_eq, eq_comm,
    regroup_eq_iff _ distinct known, pollsKeepOrder_iff sorted]
  exact ⟨keepsOrder_of_inOrder started sorted, polled_inOrder started sorted rfl⟩

end

/-- However often it is polled, the scheduler delivers every firing once and those of a timer in
the order of time; two polls differ from many at most in the order across timers, and in nothing
exactly when no poll comes between a firing and a later one of a timer registered before. -/
theorem polled_delivers (subscriptions : List TimerSubscription) {start : DateTime}
    {polls : List DateTime} (sorted : (start :: polls).Pairwise (· ≤ ·)) :
    let scheduler := registerAll subscriptions
    let often := scheduler.polled (start :: polls)
    let twice := scheduler.polled [start, polls.getLastD start]
    scheduler.DeliversAll start (polls.getLastD start) often ∧
      often.Perm twice ∧
      (∀ name, (often.filter fun event => event.name = name) =
        twice.filter fun event => event.name = name) ∧
      (often = twice ↔ scheduler.PollsKeepOrder start polls) :=
  ⟨polled_deliversAll sorted, polled_perm_twice sorted, polled_filter_twice sorted,
    polled_eq_twice_iff sorted⟩

def everyTick (text : String) (visible : PythonText.isBlank text = false) : TimerSubscription where
  name := ⟨text, visible⟩
  interval := ⟨1, by decide⟩
  firstFire := some 1

def twoTimers : List TimerSubscription :=
  [everyTick "fast" (by decide), everyTick "slow" (by decide)]

theorem polled_delivers_twoTimers :
    (registerAll twoTimers).DeliversAll 0 2 ((registerAll twoTimers).polled [0, 1, 2]) :=
  (@polled_delivers twoTimers 0 [1, 2] (by decide)).1

/-- Polled in between, both timers go off once before either does so again. -/
theorem polls_interleave_timers :
    ¬ ∀ (subscriptions : List TimerSubscription) (start : DateTime) (polls : List DateTime),
      (start :: polls).Pairwise (· ≤ ·) →
      (registerAll subscriptions).polled (start :: polls) =
        (registerAll subscriptions).polled [start, polls.getLastD start] := by
  intro same
  have sorted : ([0, 1, 2] : List Int).Pairwise (· ≤ ·) := by decide
  have keeps := (polled_eq_twice_iff sorted).mp (same twoTimers 0 [1, 2] sorted)
  have fast : (⟨"fast", rfl⟩, ⟨1, by decide⟩) ∈
      (registerAll twoTimers).intervals.items := by decide
  have slow : (⟨"slow", rfl⟩, ⟨1, by decide⟩) ∈
      (registerAll twoTimers).intervals.items := by decide
  have beyond := keeps 1 (by decide) _ fast _ slow (by decide) 1 ⟨0, by decide⟩ (by decide)
    (by decide) 2 ⟨1, by decide⟩ (by decide)
  exact absurd beyond (by decide)

end TimerScheduler

end Qts
