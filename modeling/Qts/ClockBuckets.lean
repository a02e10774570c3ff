import Qts.IntegerTilings
import Qts.RuntimeFailures
import Qts.TimeZones

/-! # Clock buckets -/

namespace Qts

open List

/-- Time is counted in microseconds. -/
def oneSecond : Int := 1000000

def oneDay : Int := 86400 * oneSecond

/-- How bars for a timeframe align to time. -/
inductive AlignmentMode
  | clock
  | session
deriving DecidableEq

structure Timeframe where
  value : String
  duration : Option Int
  alignment : AlignmentMode
deriving DecidableEq

namespace Timeframe

def supportedClockDurations : List (String × Int) :=
  [("5s", 5 * oneSecond), ("1m", 60 * oneSecond), ("2m", 120 * oneSecond), ("3m", 180 * oneSecond),
   ("5m", 300 * oneSecond), ("10m", 600 * oneSecond), ("15m", 900 * oneSecond),
   ("30m", 1800 * oneSecond), ("1h", 3600 * oneSecond), ("4h", 14400 * oneSecond)]

def parse (value : String) : Except Failure Timeframe :=
  let normalized := (PythonText.strip value).toLower
  match supportedClockDurations.lookup normalized with
  | some duration => .ok ⟨normalized, some duration, .clock⟩
  | none =>
    if normalized = "1d" then .ok ⟨normalized, none, .session⟩
    else .error (.valueError ("unsupported timeframe: " ++ value))

structure IsClock (timeframe : Timeframe) (duration : Int) : Prop where
  aligned : timeframe.alignment = .clock
  timed : timeframe.duration = some duration
  pos : 0 < duration
  divides : duration ∣ oneDay

end Timeframe

/-- A half-open interval. -/
structure TimeInterval where
  startTime : Int
  endTime : Int
  ordered : startTime < endTime
deriving DecidableEq

namespace TimeInterval

def of (startTime endTime : Int) : Except Failure TimeInterval :=
  if ordered : startTime < endTime then .ok ⟨startTime, endTime, ordered⟩
  else .error (.valueError "start must be before end")

/-- The instant falls in the half-open interval. -/
def Contains (interval : TimeInterval) (value : Int) : Prop :=
  interval.startTime ≤ value ∧ value < interval.endTime

end TimeInterval

def durationSeconds (duration : Int) : Except Failure Int :=
  let seconds := duration.tdiv oneSecond
  if seconds ≤ 0 then .error (.valueError "timeframe duration must be positive")
  else if 86400 % seconds ≠ 0 then
    .error (.valueError "clock timeframe must evenly divide a 24-hour day")
  else .ok seconds

def clockBucketFor (timestamp : Int) (timeframe : Timeframe) (zone : TimeZone) :
    Except Failure TimeInterval :=
  match timeframe.alignment, timeframe.duration with
  | .clock, some duration => do
    let exchangeTime := zone.localTime timestamp
    let seconds ← durationSeconds duration
    let midnight := exchangeTime - exchangeTime % oneDay
    let bucketSeconds := exchangeTime % oneDay / (seconds * oneSecond) * seconds
    -- The start keeps the occurrence of the repeated hour that the instant belongs to.
    let startLocal := midnight + bucketSeconds * oneSecond
    let start := zone.instantOf startLocal (zone.foldAt timestamp)
    TimeInterval.of start (start + duration)
  | _, _ => .error (.valueError "clock_bucket_for requires a clock-aligned timeframe")

def TimeZone.bucketStart (zone : TimeZone) (step timestamp : Int) : Int :=
  zone.instantOf (gridStart step 0 (zone.localTime timestamp)) (zone.foldAt timestamp)

/-- Every instant has a bucket, which contains it, and two buckets are equal or disjoint. -/
def BucketsTile (zone : TimeZone) (timeframe : Timeframe) : Prop :=
  ∃ bucket : Int → TimeInterval,
    (∀ timestamp, clockBucketFor timestamp timeframe zone = .ok (bucket timestamp)) ∧
    (∀ timestamp, (bucket timestamp).Contains timestamp) ∧
    ∀ first later, bucket first = bucket later ∨
      ∀ instant, ¬ ((bucket first).Contains instant ∧ (bucket later).Contains instant)

/-- The transitions fall on the grid of the wall clock, before and after the change. -/
def TimeZone.OnGrid (zone : TimeZone) (length : Int) : Prop :=
  ∀ transition ∈ zone.transitions,
    length ∣ transition.instant + transition.before ∧ length ∣ transition.instant + transition.after

instance (zone : TimeZone) (length : Int) : Decidable (zone.OnGrid length) :=
  inferInstanceAs (Decidable (∀ transition ∈ zone.transitions,
    length ∣ transition.instant + transition.before ∧
      length ∣ transition.instant + transition.after))

theorem oneSecond_pos : 0 < oneSecond := by decide

theorem Timeframe.parse_isClock {value : String} {timeframe : Timeframe} {duration : Int}
    (parsed : Timeframe.parse value = .ok timeframe) (timed : timeframe.duration = some duration) :
    timeframe.IsClock duration ∧ oneSecond ∣ duration := by
  rw [Timeframe.parse] at parsed
  split at parsed
  · next known found =>
    cases parsed
    obtain rfl := Option.some.inj timed
    obtain ⟨front, back, split, -⟩ := lookup_eq_some_iff.mp found
    have supported : ∀ entry ∈ supportedClockDurations,
        0 < entry.2 ∧ entry.2 ∣ oneDay ∧ oneSecond ∣ entry.2 := by decide
    have mem : ((PythonText.strip value).toLower, known) ∈ supportedClockDurations := by
      rw [split]
      exact mem_append_right _ mem_cons_self
    obtain ⟨pos, divides, whole⟩ := supported _ mem
    exact ⟨⟨rfl, rfl, pos, divides⟩, whole⟩
  · split at parsed
    · cases parsed
      cases timed
    · cases parsed

theorem midnight_add_bucket {step : Int} (divides : step ∣ oneDay) (time : Int) :
    time - time % oneDay + time % oneDay / step * step = gridStart step 0 time := by
  have inDay := Int.emod_emod_of_dvd time divides
  have split := Int.mul_ediv_add_emod (time % oneDay) step
  rw [gridStart, add_zero, ← inDay]
  rw [mul_comm] at split
  omega

theorem durationSeconds_ok {duration seconds : Int}
    (counted : durationSeconds duration = .ok seconds) :
    0 < seconds ∧ seconds * oneSecond ∣ oneDay ∧ seconds = duration.tdiv oneSecond := by
  unfold durationSeconds at counted
  dsimp only at counted
  split at counted
  · cases counted
  · next pos =>
    split at counted
    · cases counted
    · next divides =>
      cases counted
      refine ⟨not_le.mp pos, ?_, rfl⟩
      exact mul_dvd_mul_right (Int.dvd_of_emod_eq_zero (not_not.mp divides)) oneSecond

theorem durationSeconds_of_whole {duration : Int} (pos : 0 < duration)
    (divides : duration ∣ oneDay) (whole : oneSecond ∣ duration) :
    ∃ seconds, durationSeconds duration = .ok seconds ∧ seconds * oneSecond = duration := by
  obtain ⟨seconds, rfl⟩ := whole
  have counted : 0 < seconds := by
    rw [oneSecond] at pos
    omega
  have inDay : seconds ∣ 86400 := by
    rw [oneDay, mul_comm oneSecond] at divides
    exact Int.dvd_of_mul_dvd_mul_right oneSecond_pos.ne' divides
  refine ⟨seconds, ?_, mul_comm _ _⟩
  rw [durationSeconds, Int.mul_tdiv_cancel_left _ oneSecond_pos.ne']
  rw [if_neg (not_le.mpr counted), if_neg (not_not.mpr (Int.emod_eq_zero_of_dvd inDay))]

section

variable {zone : TimeZone} {timeframe : Timeframe} {duration seconds : Int}

theorem clockBucketFor_eq (clock : timeframe.IsClock duration)
    (counted : durationSeconds duration = .ok seconds) (timestamp : Int) :
    clockBucketFor timestamp timeframe zone =
      .ok ⟨zone.bucketStart (seconds * oneSecond) timestamp,
        zone.bucketStart (seconds * oneSecond) timestamp + duration,
        Int.lt_add_of_pos_right _ clock.pos⟩ := by
  have divides := (durationSeconds_ok counted).2.1
  rw [clockBucketFor, clock.aligned, clock.timed]
  dsimp only
  rw [counted]
  change TimeInterval.of (zone.instantOf (zone.localTime timestamp -
    zone.localTime timestamp % oneDay + zone.localTime timestamp % oneDay /
      (seconds * oneSecond) * seconds * oneSecond) (zone.foldAt timestamp)) _ = _
  rw [mul_assoc, midnight_add_bucket divides]
  exact dif_pos _

theorem bucketsTile_iff_equalTiling (clock : timeframe.IsClock duration)
    (counted : durationSeconds duration = .ok seconds) :
    BucketsTile zone timeframe ↔ EqualTiling duration (zone.bucketStart (seconds * oneSecond)) := by
  constructor
  · rintro ⟨bucket, found, contains, disjoint⟩
    have known (timestamp : Int) : bucket timestamp =
        ⟨zone.bucketStart (seconds * oneSecond) timestamp,
          zone.bucketStart (seconds * oneSecond) timestamp + duration,
          Int.lt_add_of_pos_right _ clock.pos⟩ :=
      ok_unique (found timestamp) (clockBucketFor_eq clock counted timestamp)
    refine ⟨?_, ?_, ?_⟩
    · intro timestamp
      have inside := (contains timestamp).1
      rwa [known] at inside
    · intro timestamp
      have inside := (contains timestamp).2
      rwa [known] at inside
    · intro first later
      have pos := clock.pos
      rcases disjoint first later with equal | apart
      · rw [known, known, TimeInterval.mk.injEq] at equal
        exact .inl equal.1
      · rw [known, known] at apart
        have fromFirst := apart (zone.bucketStart (seconds * oneSecond) first)
        have fromLater := apart (zone.bucketStart (seconds * oneSecond) later)
        dsimp only [TimeInterval.Contains] at fromFirst fromLater
        omega
  · intro tiling
    refine ⟨fun timestamp => ⟨zone.bucketStart (seconds * oneSecond) timestamp,
      zone.bucketStart (seconds * oneSecond) timestamp + duration,
      Int.lt_add_of_pos_right _ clock.pos⟩, clockBucketFor_eq clock counted, ?_, ?_⟩
    · intro timestamp
      exact ⟨tiling.start_le timestamp, tiling.lt_finish timestamp⟩
    · intro first later
      rcases tiling.coherent first later with equal | before | after
      · left
        simp only [equal]
      · right
        rintro instant ⟨inFirst, inLater⟩
        dsimp only [TimeInterval.Contains] at inFirst inLater
        omega
      · right
        rintro instant ⟨inFirst, inLater⟩
        dsimp only [TimeInterval.Contains] at inFirst inLater
        omega

theorem counted_of_bucketsTile (clock : timeframe.IsClock duration)
    (tile : BucketsTile zone timeframe) : ∃ seconds, durationSeconds duration = .ok seconds := by
  obtain ⟨bucket, found, -, -⟩ := tile
  have known := found 0
  rw [clockBucketFor, clock.aligned, clock.timed] at known
  obtain ⟨seconds, counted, -⟩ := bind_inv known
  exact ⟨seconds, counted⟩

end

namespace TimeZone

variable {zone : TimeZone} {before after : List Transition} {length step : Int}

theorem bucketStart_clear (apart : zone.Apart 0) (pos : 0 < step)
    (split : zone.transitions = before ++ after) {timestamp : Int}
    (clear : ∀ last ∈ before.getLast?,
      last.top ≤ gridStart step 0 (timestamp + lastOffset zone.initial before))
    (ahead : ∀ next ∈ after.head?, timestamp < next.instant) :
    zone.bucketStart step timestamp =
      gridStart step (lastOffset zone.initial before) timestamp := by
  have below := gridStart_le pos 0 (timestamp + lastOffset zone.initial before)
  have offsetOf {last : Transition} (isLast : last ∈ before.getLast?) :
      lastOffset zone.initial before = last.after := by
    rw [lastOffset, isLast]
    rfl
  have passed : zone.passed timestamp = before := by
    refine passed_eq split ?_ ahead
    intro last isLast
    have reached := clear last isLast
    have top := last.after_le_top
    have offset := offsetOf isLast
    omega
  have unfolded : zone.foldAt timestamp = false := by
    rw [foldAt, passed]
    cases isLast : before.getLast? with
    | none => rfl
    | some last =>
      have reached := clear last isLast
      have top := last.before_le_top
      have offset := offsetOf isLast
      refine decide_eq_false ?_
      omega
  have offsetAt : zone.offsetAt timestamp = lastOffset zone.initial before := by
    rw [TimeZone.offsetAt, passed]
  have sameLocal : zone.passedLocal (gridStart step 0 (timestamp + lastOffset zone.initial before))
      false = before := by
    refine passedLocal_eq apart le_rfl split clear ?_
    intro next head
    have later := ahead next head
    have offset : next.before = lastOffset zone.initial before := before_of_split split head
    have top := next.before_le_top
    change _ < next.top
    omega
  rw [bucketStart, localTime, offsetAt, unfolded, instantOf, sameLocal, gridStart_zero_add]
  exact add_sub_cancel_right _ _

/-- With the transitions on the grid, each bucket starts on the grid of the offset at its
instant, even when the bucket starts before the last transition's local times have passed. -/
theorem bucketStart_of_onGrid (apart : zone.Apart 0) (pos : 0 < length)
    (onGrid : zone.OnGrid length) (timestamp : Int) :
    zone.bucketStart length timestamp = gridStart length (zone.offsetAt timestamp) timestamp := by
  obtain ⟨rest, split, reached, ahead⟩ := zone.passed_split timestamp
  have below := gridStart_le pos (zone.offsetAt timestamp) timestamp
  have near := lt_gridStart_add pos (zone.offsetAt timestamp) timestamp
  have aligned := dvd_gridStart_add length (zone.offsetAt timestamp) timestamp
  have lastAligned {last : Transition} (isLast : last ∈ (zone.passed timestamp).getLast?) :
      length ∣ last.instant + last.before ∧ length ∣ last.instant + last.after := by
    refine onGrid last ?_
    rw [split]
    exact mem_append_left _ (mem_of_getLast? isLast)
  have offsetOf {last : Transition} (isLast : last ∈ (zone.passed timestamp).getLast?) :
      zone.offsetAt timestamp = last.after := by
    rw [offsetAt, lastOffset, isLast]
    rfl
  have passed : zone.passed (gridStart length (zone.offsetAt timestamp) timestamp) =
      zone.passed timestamp := by
    refine passed_eq split ?_ ?_
    · intro last isLast
      refine le_gridStart pos ?_ (reached last isLast)
      rw [offsetOf isLast]
      exact (lastAligned isLast).2
    · intro next head
      have later := ahead next head
      omega
  have offset : zone.offsetAt (gridStart length (zone.offsetAt timestamp) timestamp) =
      zone.offsetAt timestamp := by
    rw [offsetAt, passed, offsetAt]
  have fold : zone.foldAt (gridStart length (zone.offsetAt timestamp) timestamp) =
      zone.foldAt timestamp := by
    rw [foldAt, foldAt, passed]
    cases isLast : (zone.passed timestamp).getLast? with
    | none => rfl
    | some last =>
      have grid : length ∣ last.instant + (last.before - last.after) + zone.offsetAt timestamp := by
        rw [offsetOf isLast, add_assoc, sub_add_cancel]
        exact (lastAligned isLast).1
      have same : gridStart length (zone.offsetAt timestamp) timestamp - last.instant <
          last.before - last.after ↔ timestamp - last.instant < last.before - last.after := by
        constructor
        · intro repeats
          by_contra done
          have reaches : last.instant + (last.before - last.after) ≤ timestamp := by omega
          have later := le_gridStart pos grid reaches
          omega
        · intro repeats
          omega
      exact decide_eq_decide.mpr same
  have start := instantOf_localTime apart le_rfl
    (gridStart length (zone.offsetAt timestamp) timestamp)
  rw [localTime, offset, fold] at start
  rw [bucketStart, localTime, gridStart_zero_add, start]

theorem dvd_offset_sub (onGrid : zone.OnGrid length) (timestamp : Int) :
    length ∣ zone.offsetAt timestamp - zone.initial := by
  obtain ⟨rest, split, -, -⟩ := zone.passed_split timestamp
  have linked : Linked zone.initial (zone.passed timestamp ++ rest) := split ▸ zone.linked
  refine dvd_lastOffset_sub linked ?_
  intro transition mem
  obtain ⟨before, after⟩ := onGrid transition (by
    rw [split]
    exact mem_append_left _ mem)
  have difference := Int.dvd_sub after before
  rwa [add_sub_add_left_eq_sub] at difference

theorem tiles_of_onGrid (apart : zone.Apart 0) (pos : 0 < length)
    (onGrid : zone.OnGrid length) : EqualTiling length (zone.bucketStart length) := by
  refine (equalTiling_iff pos _).mpr ⟨zone.initial, ?_⟩
  intro timestamp
  rw [bucketStart_of_onGrid apart pos onGrid]
  exact gridStart_congr (dvd_offset_sub onGrid timestamp) timestamp

section Necessity

variable {transition : Transition}

theorem bucketStart_around (apart : zone.Apart length) (pos : 0 < length)
    (split : zone.transitions = before ++ transition :: after) :
    zone.bucketStart length (transition.instant - 1) =
        gridStart length transition.before (transition.instant - 1) ∧
      zone.bucketStart length (transition.top - transition.after + length - 1) =
        gridStart length transition.after (transition.top - transition.after + length - 1) := by
  have disjoint : zone.Apart 0 := apart.of_le pos.le
  rw [Apart, split] at apart
  have ordered := pairwise_append.mp apart
  have offset : lastOffset zone.initial before = transition.before :=
    (before_of_split split (Option.mem_some_self _)).symm
  constructor
  · rw [← offset]
    refine bucketStart_clear disjoint pos split ?_ ?_
    · intro last isLast
      have room := ordered.2.2 last (mem_of_getLast? isLast) transition mem_cons_self
      have near := lt_gridStart_add pos 0 (transition.instant - 1 + transition.before)
      have bottom := transition.bottom_le_before
      rw [offset]
      omega
    · rintro next ⟨⟩
      omega
  · have later : lastOffset zone.initial (before ++ [transition]) = transition.after := by
      rw [lastOffset, getLast?_append, getLast?_singleton]
      rfl
    rw [← later]
    have following : zone.transitions = (before ++ [transition]) ++ after := by
      rw [split, append_assoc]
      rfl
    refine bucketStart_clear disjoint pos following ?_ ?_
    · intro last isLast
      rw [getLast?_append, getLast?_singleton] at isLast
      cases isLast
      have near := lt_gridStart_add pos 0 (transition.top - transition.after + length - 1 +
        lastOffset zone.initial (before ++ [transition]))
      rw [later] at near ⊢
      omega
    · intro next head
      have room := (pairwise_cons.mp ordered.2.1).1 next (mem_of_head? head)
      have bottom := next.bottom_le_before
      have starts := before_of_split following head
      rw [later] at starts ⊢
      omega

theorem bucketStart_at (apart : zone.Apart length) (pos : 0 < length)
    (split : zone.transitions = before ++ transition :: after)
    (offGrid : ¬ length ∣ transition.instant + transition.after) :
    zone.bucketStart length transition.instant =
      gridStart length transition.after transition.instant +
        (transition.after - transition.before) := by
  have disjoint : zone.Apart 0 := apart.of_le pos.le
  have ordered := zone.chronological
  rw [Apart, split] at apart
  rw [split] at ordered
  have offset : lastOffset zone.initial before = transition.before :=
    (before_of_split split (Option.mem_some_self _)).symm
  have following : zone.transitions = (before ++ [transition]) ++ after := by
    rw [split, append_assoc]
    rfl
  have isLast : (before ++ [transition]).getLast? = some transition := by
    rw [getLast?_append, getLast?_singleton]
    rfl
  have passed : zone.passed transition.instant = before ++ [transition] := by
    refine passed_eq following ?_ ?_
    · intro last known
      rw [isLast] at known
      cases known
      exact le_rfl
    · intro next head
      exact (pairwise_cons.mp (pairwise_append.mp ordered).2.1).1 next
        (mem_of_head? head)
  have shown : zone.localTime transition.instant = transition.instant + transition.after := by
    rw [localTime, offsetAt, passed, lastOffset, isLast]
    rfl
  have wall : transition.wall (zone.foldAt transition.instant) =
      transition.instant + transition.after := by
    rw [foldAt, passed, isLast, Option.any_some, sub_self, Transition.wall, Transition.top,
      Transition.bottom]
    split
    · next repeats =>
      rw [decide_eq_true_iff] at repeats
      omega
    · next unfolded =>
      rw [decide_eq_true_iff] at unfolded
      omega
  have below := gridStart_le pos 0 (transition.instant + transition.after)
  have near := lt_gridStart_add pos 0 (transition.instant + transition.after)
  have aligned := dvd_gridStart_add length 0 (transition.instant + transition.after)
  rw [add_zero] at aligned
  have notYet : gridStart length 0 (transition.instant + transition.after) ≠
      transition.instant + transition.after := by
    intro equal
    rw [equal] at aligned
    exact offGrid aligned
  have found : zone.passedLocal (gridStart length 0 (transition.instant + transition.after))
      (zone.foldAt transition.instant) = before := by
    refine passedLocal_eq disjoint le_rfl split ?_ ?_
    · intro last known
      have room := (pairwise_append.mp apart).2.2 last (mem_of_getLast? known) transition
        mem_cons_self
      have top := last.wall_le_top (zone.foldAt transition.instant)
      have bottom := transition.bottom_le_after
      omega
    · rintro next ⟨⟩
      rw [wall]
      omega
  rw [bucketStart, shown, instantOf, found, offset, gridStart_zero_add, add_sub_assoc]

theorem onGrid_of_tiles (apart : zone.Apart length) (pos : 0 < length)
    (tiling : EqualTiling length (zone.bucketStart length)) : zone.OnGrid length := by
  obtain ⟨anchor, starts⟩ := (equalTiling_iff pos _).mp tiling
  intro transition mem
  obtain ⟨before, after, split⟩ := append_of_mem mem
  obtain ⟨earlier, later⟩ := bucketStart_around apart pos split
  rw [starts] at earlier later
  have fromBefore := dvd_sub_of_gridStart_eq earlier
  have fromAfter := dvd_sub_of_gridStart_eq later
  have onGrid : length ∣ transition.instant + transition.after := by
    by_contra offGrid
    have start := bucketStart_at apart pos split offGrid
    rw [starts, gridStart_congr fromAfter] at start
    have changes := zone.changes transition mem
    omega
  refine ⟨?_, onGrid⟩
  have difference := Int.dvd_sub fromAfter fromBefore
  rw [sub_sub_sub_cancel_left] at difference
  have sum := Int.dvd_add onGrid difference
  rwa [add_add_sub_cancel] at sum

end Necessity

theorem bucketStart_initial (apart : zone.Apart 0) (pos : 0 < step) {timestamp : Int}
    (ahead : ∀ next ∈ zone.transitions.head?, timestamp < next.instant) :
    zone.bucketStart step timestamp = gridStart step zone.initial timestamp :=
  bucketStart_clear apart pos (nil_append _).symm (fun _ isLast => nomatch isLast) ahead

theorem length_le_of_tiles (apart : zone.Apart 0) (pos : 0 < step)
    (tiling : EqualTiling length (zone.bucketStart step)) : length ≤ step := by
  obtain ⟨timestamp, ahead⟩ : ∃ timestamp, ∀ next ∈ zone.transitions.head?,
      timestamp + step < next.instant := by
    cases zone.transitions.head? with
    | none => exact ⟨0, fun _ head => nomatch head⟩
    | some first =>
      refine ⟨first.instant - step - 1, ?_⟩
      rintro next ⟨⟩
      omega
  have later := bucketStart_initial apart pos ahead
  have earlier : zone.bucketStart step timestamp = gridStart step zone.initial timestamp := by
    refine bucketStart_initial apart pos ?_
    intro next head
    have room := ahead next head
    omega
  rw [gridStart_add_length] at later
  rcases tiling.coherent timestamp (timestamp + step) with equal | before | after
  · omega
  · omega
  · omega

end TimeZone

/-- The buckets of a clock timeframe tile the real timeline when its length is in whole
seconds and every transition falls on the wall clock's grid; with transitions at least one
bucket apart they tile only then. -/
theorem buckets_tile_iff {zone : TimeZone} {timeframe : Timeframe} {duration : Int}
    (clock : timeframe.IsClock duration) :
    (zone.Apart 0 → oneSecond ∣ duration ∧ zone.OnGrid duration → BucketsTile zone timeframe) ∧
      (zone.Apart duration →
        (BucketsTile zone timeframe ↔ oneSecond ∣ duration ∧ zone.OnGrid duration)) := by
  have sufficient (apart : zone.Apart 0) (whole : oneSecond ∣ duration)
      (onGrid : zone.OnGrid duration) : BucketsTile zone timeframe := by
    obtain ⟨seconds, counted, step⟩ :=
      durationSeconds_of_whole clock.pos clock.divides whole
    rw [bucketsTile_iff_equalTiling clock counted, step]
    exact TimeZone.tiles_of_onGrid apart clock.pos onGrid
  refine ⟨fun apart condition => sufficient apart condition.1 condition.2, ?_⟩
  intro apart
  constructor
  · intro tile
    obtain ⟨seconds, counted⟩ := counted_of_bucketsTile clock tile
    obtain ⟨counts, -, known⟩ := durationSeconds_ok counted
    rw [bucketsTile_iff_equalTiling clock counted] at tile
    have shorter : seconds * oneSecond ≤ duration := by
      rw [known, Int.tdiv_eq_ediv_of_nonneg clock.pos.le]
      exact Int.ediv_mul_le _ oneSecond_pos.ne'
    have longer := TimeZone.length_le_of_tiles (apart.of_le clock.pos.le)
      (Int.mul_pos counts oneSecond_pos) tile
    have step := shorter.antisymm longer
    rw [step] at tile
    exact ⟨⟨seconds, by rw [← step, mul_comm]⟩,
      TimeZone.onGrid_of_tiles apart clock.pos tile⟩
  · rintro ⟨whole, onGrid⟩
    exact sufficient (apart.of_le clock.pos.le) whole onGrid

namespace SpringForward

/-- Five hours behind until 07:00, when two o'clock becomes three o'clock. -/
def zone : TimeZone where
  initial := -5 * 3600 * oneSecond
  transitions := [⟨7 * 3600 * oneSecond, -5 * 3600 * oneSecond, -4 * 3600 * oneSecond⟩]
  linked := ⟨rfl, trivial⟩
  chronological := pairwise_singleton _ _
  changes := by decide

def oneHour : Timeframe := ⟨"1h", some (3600 * oneSecond), .clock⟩

def fourHours : Timeframe := ⟨"4h", some (14400 * oneSecond), .clock⟩

theorem oneHour_buckets_tile : BucketsTile zone oneHour :=
  (buckets_tile_iff ⟨rfl, rfl, by decide, by decide⟩).1 (pairwise_singleton _ _)
    ⟨by decide, by decide⟩

/-- The four-hour bucket of midnight ends at 05:00 in the new time, after the one of four
o'clock has started. -/
theorem fourHours_buckets_overlap : ¬ BucketsTile zone fourHours := by
  rintro ⟨bucket, found, -, disjoint⟩
  have midnight : bucket (5 * 3600 * oneSecond) =
      ⟨5 * 3600 * oneSecond, 9 * 3600 * oneSecond, by decide⟩ :=
    ok_unique (found _) rfl
  have fourOClock : bucket (8 * 3600 * oneSecond) =
      ⟨8 * 3600 * oneSecond, 12 * 3600 * oneSecond, by decide⟩ :=
    ok_unique (found _) rfl
  rcases disjoint (5 * 3600 * oneSecond) (8 * 3600 * oneSecond) with equal | apart
  · rw [midnight, fourOClock] at equal
    exact absurd equal (by decide)
  · rw [midnight, fourOClock] at apart
    exact apart (8 * 3600 * oneSecond) ⟨⟨by decide, by decide⟩, by decide, by decide⟩

end SpringForward

end Qts
