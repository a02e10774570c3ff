import Qts.ExperimentQueues
import Qts.StepRuns

/-! # Experiment lineages -/

namespace Qts

open PythonText Dict List

/-- Own retry eligibility and deterministic retry job construction. -/
structure ExperimentRetryPolicy where
  maxAttempts : Int := 1
  pos : 1 ≤ maxAttempts

namespace ExperimentRetryPolicy

/-- A number written with at least three digits. -/
def attemptText (attempt : Int) : String :=
  let digits := toString attempt
  String.ofList (replicate (3 - digits.length) '0') ++ digits

def retryId (parentJobId : String) (attempt : Int) : String :=
  parentJobId ++ "-retry-" ++ attemptText attempt

variable (policy : ExperimentRetryPolicy)

def canRetry (job : ResearchExperimentJob) : Bool :=
  decide (job.attempt < policy.maxAttempts)

def retry (job : ResearchExperimentJob) : Except String ResearchExperimentJob :=
  if policy.canRetry job then
    ResearchExperimentJob.create {
      jobId := retryId job.family (job.attempt + 1)
      generationId := job.generationId
      manifestPayload := job.manifestPayload
      outputRoot := job.outputRoot
      trials := job.trials
      attempt := job.attempt + 1
      executionMode := job.executionMode
      parentJobId := some job.family }
  else .error ("retry budget exhausted for job: " ++ job.jobId)

def retryEvidence (retryJob : ResearchExperimentJob) (failureReason : String) : JsonObject :=
  .ofItems [("attempt", .int retryJob.attempt), ("event", .string "experiment_retry_scheduled"),
    ("failure_reason", .string failureReason), ("job_id", .string retryJob.jobId),
    ("parent_job_id", .string retryJob.family)]

end ExperimentRetryPolicy

/-- Summary returned after scheduler execution. -/
structure ExperimentScheduleResult where
  status : String
  completedJobIds : List String
  completedResults : Dict String JsonObject
  failedJobIds : List String
  retriedJobIds : List String

namespace ExperimentScheduler

variable (repr : Json → String) (policy : ExperimentRetryPolicy)

/-- Whether a failed collection holds a job that may not be retried. -/
def unretriableFailures (queue : ExperimentQueue) : Except String Bool :=
  queue.failed.sorted.items.foldlM (fun found row =>
    if found then .ok true
    else
      match row.2.get? "job" with
      | some (.object fields) => do
        let job ← ResearchExperimentJob.fromPayload repr (.ofItems fields)
        return !policy.canRetry job
      | _ => .ok true) false

def scheduleResult (queue : ExperimentQueue) (retriedJobIds : List String) :
    Except String ExperimentScheduleResult := do
  let result (status : String) : ExperimentScheduleResult := {
    status
    completedJobIds := queue.completed.sorted.keys
    completedResults := queue.completed.sorted
    failedJobIds := queue.failed.sorted.keys
    retriedJobIds }
  if queue.stopped then
    return result "stopped"
  let unretriable ← unretriableFailures repr policy queue
  if retriedJobIds ≠ [] ∧ !unretriable then
    return result "completed_with_retries"
  if unretriable then
    return result "failed"
  return result "completed"

inductive WorkerOutcome
  | returned (resultPayload : JsonObject)
  | raised (failureReason : String)

/-- The statement of `run` that is executed next. -/
inductive Point
  | ready
  | working (job : ResearchExperimentJob)
  | returned (job : ResearchExperimentJob) (resultPayload : JsonObject)
  | raised (job : ResearchExperimentJob) (failureReason : String)
  | failed (failedJob : ResearchExperimentJob) (failureReason : String)
  | retrying (retryJob : ResearchExperimentJob)
  | ended (outcome : Except String ExperimentScheduleResult)

end ExperimentScheduler

open ExperimentScheduler

/-- A scheduler in the course of its run, with the audit evidence of all runs so far. -/
structure ExperimentScheduler where
  queue : ExperimentQueue
  point : Point := .ready
  retriedJobIds : List String := []
  auditLog : List JsonObject := []

namespace ExperimentScheduler

variable (repr : Json → String) (policy : ExperimentRetryPolicy)

def advance (scheduler : ExperimentScheduler) (outcome : WorkerOutcome) : ExperimentScheduler :=
  match scheduler.point with
  | .ready =>
    match scheduler.queue.nextJob with
    | (some job, queue) => { scheduler with queue, point := .working job }
    | (none, queue) => { scheduler with
        queue
        point := .ended (scheduleResult repr policy queue scheduler.retriedJobIds) }
  | .working job =>
    match outcome with
    | .returned resultPayload => { scheduler with point := .returned job resultPayload }
    | .raised failureReason => { scheduler with point := .raised job failureReason }
  | .returned job resultPayload => { scheduler with
      queue := scheduler.queue.markCompleted job.jobId resultPayload
      point := .ready }
  | .raised job failureReason =>
    match scheduler.queue.markFailed job.jobId failureReason with
    | .error msg => { scheduler with point := .ended (.error msg) }
    | .ok (failedJob, queue) => { scheduler with
        queue
        point := if policy.canRetry failedJob then .failed failedJob failureReason else .ready }
  | .failed failedJob failureReason =>
    match policy.retry failedJob with
    | .error msg => { scheduler with point := .ended (.error msg) }
    | .ok retryJob => { scheduler with
        point := .retrying retryJob
        retriedJobIds := scheduler.retriedJobIds ++ [retryJob.jobId]
        auditLog := scheduler.auditLog ++
          [ExperimentRetryPolicy.retryEvidence retryJob failureReason] }
  | .retrying retryJob =>
    match scheduler.queue.add retryJob with
    | .error msg => { scheduler with point := .ended (.error msg) }
    | .ok queue => { scheduler with queue, point := .ready }
  | .ended _ => scheduler

/-- Save the queue, restore it and run a new scheduler on it. -/
def restart (scheduler : ExperimentScheduler) : ExperimentScheduler :=
  match ExperimentQueue.fromPayload repr scheduler.queue.toPayload with
  | .error msg => { scheduler with point := .ended (.error msg) }
  | .ok queue => { queue, auditLog := scheduler.auditLog }

/-- A command of a run with interruptions. -/
inductive Command
  | advance (outcome : WorkerOutcome)
  | restart

def step : StepRuns.Step ExperimentScheduler Command Unit :=
  fun scheduler command =>
    match command with
    | .advance outcome => ((), scheduler.advance repr policy outcome)
    | .restart => ((), scheduler.restart repr)

def init (jobs : List ResearchExperimentJob) : ExperimentScheduler where
  queue := .init jobs

end ExperimentScheduler

namespace ExperimentRetryPolicy

variable (policy : ExperimentRetryPolicy)

/-- The attempts that a job and its retries can come to. -/
def Reaches (root : ResearchExperimentJob) (attempt : Int) : Prop :=
  attempt = root.attempt ∨ root.attempt < attempt ∧ attempt ≤ policy.maxAttempts

def stageId (root : ResearchExperimentJob) (attempt : Int) : String :=
  if attempt = root.attempt then root.jobId else retryId root.family attempt

/-- No ID of one lineage is an ID of another. -/
def Distinguishable (jobs : List ResearchExperimentJob) : Prop :=
  ∀ root ∈ jobs, ∀ other ∈ jobs, root ≠ other → ∀ attempt later,
    policy.Reaches root attempt → policy.Reaches other later →
      stageId root attempt ≠ stageId other later

/-- A payload keeps the IDs of the lineages and has an output root to restore. -/
def Restorable (jobs : List ResearchExperimentJob) : Prop :=
  ∀ root ∈ jobs, isBlank root.outputRoot = false ∧ ∀ attempt,
    policy.Reaches root attempt →
      strip (stageId root attempt) = stageId root attempt

/-- A job is the current one of a lineage. -/
structure IsStage (root job : ResearchExperimentJob) : Prop where
  valid : job.Valid
  reached : policy.Reaches root job.attempt
  jobId : job.jobId = stageId root job.attempt
  family : job.family = root.family
  placed : isBlank job.outputRoot = false

def Settled (queue : ExperimentQueue) (root : ResearchExperimentJob) : Prop :=
  ∃ attempt, policy.Reaches root attempt ∧
    ((∃ resultPayload, queue.completed.get? (stageId root attempt) = some resultPayload) ∨
      policy.maxAttempts ≤ attempt ∧ ∃ job failureReason, job.attempt = attempt ∧
        queue.failed.get? (stageId root attempt) =
          some (ExperimentQueue.failure job (stageId root attempt) failureReason))

variable {policy} {root : ResearchExperimentJob}

/-- A lineage stays settled where its records stay. -/
theorem Settled.keep {queue later : ExperimentQueue} (settled : policy.Settled queue root)
    (completed : ∀ attempt, policy.Reaches root attempt →
      (queue.completed.get? (stageId root attempt)).isSome →
        (later.completed.get? (stageId root attempt)).isSome)
    (failed : ∀ attempt, policy.Reaches root attempt →
      later.failed.get? (stageId root attempt) = queue.failed.get? (stageId root attempt)) :
    policy.Settled later root := by
  obtain ⟨attempt, reached, ⟨resultPayload, found⟩ | ⟨last, job, failureReason, same, found⟩⟩ :=
    settled
  · have kept := completed attempt reached (by rw [found]; rfl)
    exact ⟨attempt, reached, .inl (Option.isSome_iff_exists.mp kept)⟩
  · exact ⟨attempt, reached, .inr ⟨last, job, failureReason, same,
      (failed attempt reached).trans found⟩⟩

theorem stageId_self (root : ResearchExperimentJob) : stageId root root.attempt = root.jobId := by
  rw [stageId, if_pos rfl]

theorem stageId_retry {attempt : Int} (later : root.attempt < attempt) :
    stageId root attempt = retryId root.family attempt := by
  rw [stageId, if_neg (by omega)]

theorem Reaches.le {attempt : Int} (reached : policy.Reaches root attempt) :
    root.attempt ≤ attempt := by
  rcases reached with rfl | ⟨later, _⟩
  · exact le_refl _
  · exact later.le

theorem isStage_self (valid : root.Valid) (placed : isBlank root.outputRoot = false) :
    policy.IsStage root root :=
  ⟨valid, .inl rfl, (stageId_self root).symm, rfl, placed⟩

def retryJob (job : ResearchExperimentJob) : ResearchExperimentJob where
  jobId := retryId job.family (job.attempt + 1)
  generationId := job.generationId
  manifestPayload := job.manifestPayload
  outputRoot := job.outputRoot
  trials := job.trials
  attempt := job.attempt + 1
  executionMode := job.executionMode
  parentJobId := some job.family

theorem isBlank_retryId (parentJobId : String) (attempt : Int) :
    isBlank (retryId parentJobId attempt) = false := by
  have suffix : isBlank "-retry-" = false := by decide
  rw [retryId, isBlank_append, isBlank_append, suffix, Bool.and_false, Bool.false_and]

theorem retryJob_valid {job : ResearchExperimentJob} (valid : job.Valid) :
    (retryJob job).Valid where
  jobId := isBlank_retryId _ _
  generationId := valid.generationId
  attempt := by
    have pos := valid.attempt
    change 1 ≤ job.attempt + 1
    omega
  executionMode := valid.executionMode
  equityCurveSampleInterval := le_refl 1

theorem retry_eq {job : ResearchExperimentJob} (valid : job.Valid)
    (retriable : policy.canRetry job = true) : policy.retry job = .ok (retryJob job) := by
  rw [retry, if_pos retriable]
  exact ResearchExperimentJob.create_valid (retryJob_valid valid)

theorem IsStage.retry {root job : ResearchExperimentJob} (stage : policy.IsStage root job)
    (retriable : policy.canRetry job = true) : policy.IsStage root (retryJob job) := by
  have more : job.attempt < policy.maxAttempts := of_decide_eq_true retriable
  have le := stage.reached.le
  have family : (retryJob job).family = root.family := by
    change (if job.family = "" then _ else job.family) = root.family
    rw [if_neg (ResearchExperimentJob.family_ne_empty stage.valid), stage.family]
  refine ⟨retryJob_valid stage.valid, .inr ⟨?_, ?_⟩, ?_, family, stage.placed⟩
  · change root.attempt < job.attempt + 1
    omega
  · change job.attempt + 1 ≤ policy.maxAttempts
    omega
  · change retryId job.family (job.attempt + 1) = stageId root (job.attempt + 1)
    rw [stageId_retry (by omega), stage.family]

theorem IsStage.restored {root job : ResearchExperimentJob} (stage : policy.IsStage root job)
    (kept : strip (stageId root job.attempt) = stageId root job.attempt) :
    policy.IsStage root job.restored := by
  have jobId : strip job.jobId = job.jobId := by rw [stage.jobId, kept]
  refine ⟨stage.valid.restored, stage.reached, ?_, ?_, ?_⟩
  · exact jobId.trans stage.jobId
  · rw [← stage.family]
    simp only [ResearchExperimentJob.family, ResearchExperimentJob.restored, jobId]
  · exact (isBlank_strip _).trans stage.placed

end ExperimentRetryPolicy

open ExperimentRetryPolicy

/-- Where the lineages of the initial jobs are: some have one current job each, pending or held by
the scheduler, and the others are settled. -/
structure Lineages (policy : ExperimentRetryPolicy) (jobs : List ResearchExperimentJob)
    (queue : ExperimentQueue) (held : List ResearchExperimentJob)
    (live : List (ResearchExperimentJob × ResearchExperimentJob))
    (finished : List ResearchExperimentJob) : Prop where
  roots : (live.map Prod.fst ++ finished).Perm jobs
  current : (live.map Prod.snd).Perm (held ++ queue.pending)
  stages : ∀ pair ∈ live, policy.IsStage pair.1 pair.2
  settled : ∀ root ∈ finished, policy.Settled queue root
  completed : ∀ key ∈ queue.completed.keys, ∃ root ∈ finished, ∃ attempt,
    policy.Reaches root attempt ∧ key = stageId root attempt
  shown : (∀ key ∈ queue.completed.keys, isBlank key = false) ∧
    ∀ key ∈ queue.failed.keys, isBlank key = false
  flowing : queue.stopped = false

namespace Lineages

variable {policy : ExperimentRetryPolicy} {jobs : List ResearchExperimentJob}
  {queue : ExperimentQueue} {held : List ResearchExperimentJob}
  {live : List (ResearchExperimentJob × ResearchExperimentJob)}
  {finished : List ResearchExperimentJob}

theorem perm (lineages : Lineages policy jobs queue held live finished)
    {other : List (ResearchExperimentJob × ResearchExperimentJob)} (same : live.Perm other) :
    Lineages policy jobs queue held other finished :=
  { lineages with
    roots := ((same.map Prod.fst).symm.append_right finished).trans lineages.roots
    current := (same.map Prod.snd).symm.trans lineages.current
    stages := fun pair mem => lineages.stages pair (same.mem_iff.mpr mem) }

variable {job : ResearchExperimentJob}

theorem held_first (lineages : Lineages policy jobs queue [job] live finished) :
    ∃ root rest, Lineages policy jobs queue [job] ((root, job) :: rest) finished ∧
      (rest.map Prod.snd).Perm queue.pending := by
  have mem : job ∈ live.map Prod.snd := lineages.current.mem_iff.mpr mem_cons_self
  obtain ⟨⟨root, stage⟩, found, rfl⟩ := mem_map.mp mem
  obtain ⟨before, after, rfl⟩ := append_of_mem found
  have first : (before ++ (root, stage) :: after).Perm ((root, stage) :: (before ++ after)) :=
    perm_middle
  have tracked := lineages.perm first
  exact ⟨root, before ++ after, tracked, tracked.current.cons_inv⟩

theorem apart (lineages : Lineages policy jobs queue held live finished) (distinct : jobs.Nodup)
    (distinguishable : policy.Distinguishable jobs) {root : ResearchExperimentJob}
    {rest : List (ResearchExperimentJob × ResearchExperimentJob)}
    (first : live = (root, job) :: rest) {other : ResearchExperimentJob}
    (another : other ∈ rest.map Prod.fst ++ finished) {attempt later : Int}
    (reached : policy.Reaches root attempt) (reachedLater : policy.Reaches other later) :
    stageId root attempt ≠ stageId other later := by
  subst first
  have nodup : (root :: (rest.map Prod.fst ++ finished)).Nodup :=
    lineages.roots.nodup_iff.mpr distinct
  have rootMember : root ∈ jobs := lineages.roots.mem_iff.mp mem_cons_self
  have otherMember : other ∈ jobs :=
    lineages.roots.mem_iff.mp (mem_cons_of_mem root another)
  have ne : root ≠ other := by
    rintro rfl
    exact (nodup_cons.mp nodup).1 another
  exact distinguishable root rootMember other otherMember ne attempt later reached
    reachedLater

theorem nextJob {pending : List ResearchExperimentJob}
    (lineages : Lineages policy jobs queue [] live finished) (next : queue.pending = job :: pending)
    :
    Lineages policy jobs { queue with
      pending
      running := queue.running.set job.jobId job } [job] live finished :=
  { lineages with
    current := by
      have current := lineages.current
      rw [next] at current
      exact current
    settled := fun root mem =>
      (lineages.settled root mem).keep (fun _ _ found => found) fun _ _ => rfl }

theorem keys_set {Value : Type} (dict : Dict String Value) (key : String) (value : Value)
    {other : String} (mem : other ∈ (dict.set key value).keys) :
    other = key ∨ other ∈ dict.keys := by
  rw [mem_keys_iff, get?_set] at mem
  split at mem
  · next same => exact .inl same
  · exact .inr ((mem_keys_iff _).mpr mem)

theorem markCompleted (resultPayload : JsonObject)
    (lineages : Lineages policy jobs queue [job] live finished) :
    ∃ rest ended, Lineages policy jobs (queue.markCompleted job.jobId resultPayload) [] rest
      ended := by
  obtain ⟨root, rest, tracked, current⟩ := lineages.held_first
  have stage := tracked.stages (root, job) mem_cons_self
  refine ⟨rest, root :: finished, ?_, current, ?_, ?_, ?_, ?_, tracked.flowing⟩
  · exact perm_middle.trans tracked.roots
  · exact fun pair mem => tracked.stages pair (mem_cons_of_mem _ mem)
  · intro other mem
    rcases mem_cons.mp mem with rfl | mem
    · refine ⟨job.attempt, stage.reached, .inl ⟨resultPayload, ?_⟩⟩
      rw [← stage.jobId]
      exact get?_set_self _ _ _
    · apply (tracked.settled other mem).keep
      · intro attempt _ found
        change ((queue.completed.set job.jobId resultPayload).get? _).isSome
        rw [get?_set]
        split
        · rfl
        · exact found
      · exact fun _ _ => rfl
  · intro key mem
    rcases keys_set _ _ _ mem with rfl | mem
    · exact ⟨root, mem_cons_self, job.attempt, stage.reached, stage.jobId⟩
    · obtain ⟨other, otherOver, attempt, reached, same⟩ := tracked.completed key mem
      exact ⟨other, mem_cons_of_mem root otherOver, attempt, reached, same⟩
  · refine ⟨fun key mem => ?_, tracked.shown.2⟩
    rcases keys_set _ _ _ mem with rfl | mem
    · exact stage.valid.jobId
    · exact tracked.shown.1 key mem

def withFailure (queue : ExperimentQueue) (job : ResearchExperimentJob) (failureReason : String) :
    ExperimentQueue :=
  { queue with
    running := queue.running.erase job.jobId
    failed := queue.failed.set job.jobId
      (ExperimentQueue.failure job job.jobId failureReason) }

variable (failureReason : String)

theorem markFailed_eq (running : queue.running.get? job.jobId = some job) :
    queue.markFailed job.jobId failureReason =
      .ok (job, withFailure queue job failureReason) := by
  rw [ExperimentQueue.markFailed, running]
  rfl

section

variable (lineages : Lineages policy jobs queue [job] live finished)

include lineages

/-- A failure leaves the settled lineages settled: their records have other IDs. -/
theorem withFailure_held (distinct : jobs.Nodup) (distinguishable : policy.Distinguishable jobs) :
    Lineages policy jobs (withFailure queue job failureReason) [job] live finished := by
  obtain ⟨root, rest, tracked, current⟩ := lineages.held_first
  have stage := tracked.stages (root, job) mem_cons_self
  refine { lineages with
    settled := fun other mem => (lineages.settled other mem).keep (fun _ _ found => found) ?_
    shown := ⟨lineages.shown.1, fun key mem => ?_⟩ }
  · intro attempt reached
    have apart := tracked.apart distinct distinguishable rfl
      (mem_append_right _ mem) stage.reached reached
    rw [← stage.jobId] at apart
    exact get?_set_of_ne _ _ apart.symm
  · rcases keys_set _ _ _ mem with rfl | mem
    · exact stage.valid.jobId
    · exact lineages.shown.2 key mem

theorem withFailure_over (distinct : jobs.Nodup) (distinguishable : policy.Distinguishable jobs)
    (last : policy.canRetry job = false) :
    ∃ rest ended,
      Lineages policy jobs (withFailure queue job failureReason) [] rest ended := by
  have failed := lineages.withFailure_held failureReason distinct distinguishable
  obtain ⟨root, rest, tracked, current⟩ := failed.held_first
  have stage := tracked.stages (root, job) mem_cons_self
  refine ⟨rest, root :: finished, ?_, current, ?_, ?_, ?_, tracked.shown, tracked.flowing⟩
  · exact perm_middle.trans tracked.roots
  · exact fun pair mem => tracked.stages pair (mem_cons_of_mem _ mem)
  · intro other mem
    rcases mem_cons.mp mem with rfl | mem
    · have exhausted : policy.maxAttempts ≤ job.attempt := not_lt.mp (of_decide_eq_false last)
      refine ⟨job.attempt, stage.reached, .inr ⟨exhausted, job, failureReason, rfl, ?_⟩⟩
      rw [← stage.jobId]
      exact get?_set_self _ _ _
    · exact tracked.settled other mem
  · intro key mem
    obtain ⟨other, otherOver, attempt, reached, same⟩ := tracked.completed key mem
    exact ⟨other, mem_cons_of_mem root otherOver, attempt, reached, same⟩

theorem retry (retriable : policy.canRetry job = true) :
    ∃ later, Lineages policy jobs queue [retryJob job] later finished := by
  obtain ⟨root, rest, tracked, current⟩ := lineages.held_first
  have stage := tracked.stages (root, job) mem_cons_self
  refine ⟨(root, retryJob job) :: rest, { tracked with
    current := current.cons _
    stages := fun pair mem => ?_ }⟩
  rcases mem_cons.mp mem with rfl | mem
  · exact stage.retry retriable
  · exact tracked.stages pair (mem_cons_of_mem _ mem)

theorem add (distinct : jobs.Nodup) (distinguishable : policy.Distinguishable jobs)
    (idle : queue.running = .empty) :
    queue.add job =
        .ok { queue with pending := ExperimentQueue.orderedJobs (queue.pending ++ [job]) } ∧
      Lineages policy jobs
        { queue with pending := ExperimentQueue.orderedJobs (queue.pending ++ [job]) } [] live
        finished := by
  obtain ⟨root, rest, tracked, current⟩ := lineages.held_first
  have stage := tracked.stages (root, job) mem_cons_self
  constructor
  · have running : queue.running.get? job.jobId = none := by rw [idle]; rfl
    have completed : queue.completed.get? job.jobId = none := by
      rw [get?_eq_none_iff]
      intro mem
      obtain ⟨other, otherOver, attempt, reached, same⟩ := tracked.completed _ mem
      exact tracked.apart distinct distinguishable rfl (mem_append_right _ otherOver)
        stage.reached reached (stage.jobId.symm.trans same)
    have fresh : ¬ ∃ pending ∈ queue.pending, pending.jobId = job.jobId := by
      rintro ⟨pending, mem, same⟩
      obtain ⟨pair, live, rfl⟩ := mem_map.mp (current.mem_iff.mpr mem)
      have another := tracked.stages pair (mem_cons_of_mem _ live)
      exact tracked.apart distinct distinguishable rfl
        (mem_append_left _ (mem_map_of_mem live)) stage.reached another.reached
        (stage.jobId.symm.trans (same.symm.trans another.jobId))
    rw [ExperimentQueue.add, running, completed, if_neg (by simp), if_neg fresh]
  · refine { lineages with
      current := lineages.current.trans ?_
      settled := fun other mem =>
        (lineages.settled other mem).keep (fun _ _ found => found) fun _ _ => rfl }
    have last : (queue.pending ++ [job]).Perm (job :: queue.pending) := perm_append_singleton ..
    exact last.symm.trans (ExperimentQueue.orderedJobs_perm _).symm

end

theorem restore (repr : Json → String) (lineages : Lineages policy jobs queue [] live finished)
    (restorable : policy.Restorable jobs) (idle : queue.running = .empty) :
    ExperimentQueue.fromPayload repr queue.toPayload = .ok queue.restored ∧
      ∃ later, Lineages policy jobs queue.restored [] later finished := by
  have root_mem {pair : ResearchExperimentJob × ResearchExperimentJob} (mem : pair ∈ live) :
      pair.1 ∈ jobs :=
    lineages.roots.mem_iff.mp (mem_append_left _ (mem_map_of_mem mem))
  have stage_of {job : ResearchExperimentJob} (mem : job ∈ queue.pending) :
      ∃ root, policy.IsStage root job := by
    obtain ⟨pair, found, rfl⟩ := mem_map.mp (lineages.current.mem_iff.mpr mem)
    exact ⟨pair.1, lineages.stages pair found⟩
  constructor
  · apply ExperimentQueue.fromPayload_toPayload repr idle _ _ lineages.shown.1 lineages.shown.2
    · exact fun job mem => (stage_of mem).elim fun _ stage => stage.valid
    · exact fun job mem => (stage_of mem).elim fun _ stage => stage.placed
  · refine ⟨live.map fun pair => (pair.1, pair.2.restored), ?_, ?_, ?_, ?_, ?_, ?_,
      lineages.flowing⟩
    · rw [map_map]
      exact lineages.roots
    · rw [map_map]
      have mapped := lineages.current.map ResearchExperimentJob.restored
      rw [map_map] at mapped
      exact mapped.trans (ExperimentQueue.orderedJobs_perm _).symm
    · intro pair mem
      obtain ⟨original, found, rfl⟩ := mem_map.mp mem
      have stage := lineages.stages original found
      exact stage.restored ((restorable original.1 (root_mem found)).2 _ stage.reached)
    · intro root mem
      apply (lineages.settled root mem).keep
      · intro attempt _ found
        exact (congrArg Option.isSome (get?_sorted queue.completed _)).trans found
      · intro attempt _
        exact get?_sorted queue.failed _
    · intro key mem
      exact lineages.completed key
        (((sortItems_perm queue.completed.items).map Prod.fst).mem_iff.mp mem)
    · constructor
      · intro key mem
        exact lineages.shown.1 key
          (((sortItems_perm queue.completed.items).map Prod.fst).mem_iff.mp mem)
      · intro key mem
        exact lineages.shown.2 key
          (((sortItems_perm queue.failed.items).map Prod.fst).mem_iff.mp mem)

end Lineages

end Qts
