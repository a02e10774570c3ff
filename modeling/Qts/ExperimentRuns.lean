import Mathlib.Algebra.GroupWithZero.Nat
import Qts.ExperimentLineages

/-! # Experiment runs -/

namespace Qts

open ExperimentRetryPolicy StepRuns ExperimentQueue List

namespace ExperimentScheduler

variable (repr : Json → String) (policy : ExperimentRetryPolicy)
  (jobs : List ResearchExperimentJob)

def Point.held : Point → List ResearchExperimentJob
  | .ready => []
  | .working job => [job]
  | .returned job _ => [job]
  | .raised job _ => [job]
  | .failed job _ => [job]
  | .retrying job => [job]
  | .ended _ => []

/-- The running collection and the queue, as the point of the run has them. -/
def Point.Fits (policy : ExperimentRetryPolicy) (queue : ExperimentQueue) : Point → Prop
  | .ready => queue.running = .empty
  | .working job => queue.running = Dict.empty.set job.jobId job
  | .returned job _ => queue.running = Dict.empty.set job.jobId job
  | .raised job _ => queue.running = Dict.empty.set job.jobId job
  | .failed job _ => queue.running = .empty ∧ policy.canRetry job = true
  | .retrying _ => queue.running = .empty
  | .ended _ => queue.running = .empty ∧ queue.pending = []

def Tracked (scheduler : ExperimentScheduler) : Prop :=
  scheduler.point.Fits policy scheduler.queue ∧ ∃ live finished,
    Lineages policy jobs scheduler.queue scheduler.point.held live finished

/-- A command does not interrupt the scheduler between two jobs of a lineage. -/
def BetweenJobs (scheduler : ExperimentScheduler) : Command → Prop
  | .advance _ => True
  | .restart => scheduler.point.held = []

variable {repr policy jobs}

theorem erase_set (job : ResearchExperimentJob) :
    (Dict.empty.set job.jobId job).erase job.jobId = .empty := by
  apply Dict.ext
  simp [Dict.erase, Dict.set, Dict.setItem, Dict.empty]

variable {scheduler : ExperimentScheduler}

theorem advance_tracked (distinct : jobs.Nodup) (distinguishable : policy.Distinguishable jobs)
    (tracked : Tracked policy jobs scheduler) (outcome : WorkerOutcome) :
    Tracked policy jobs (scheduler.advance repr policy outcome) := by
  obtain ⟨queue, point, retriedJobIds, auditLog⟩ := scheduler
  obtain ⟨fits, live, finished, lineages⟩ := tracked
  cases point with
  | ready =>
    have flowing : queue.stopped = false := lineages.flowing
    cases next : queue.pending with
    | nil =>
      have none : queue.nextJob = (none, queue) := by
        rw [nextJob, flowing, if_neg Bool.false_ne_true, next]
      simp only [advance, none]
      exact ⟨⟨fits, next⟩, live, finished, lineages⟩
    | cons job pending =>
      have some : queue.nextJob = (some job, { queue with
          pending
          running := queue.running.set job.jobId job }) := by
        rw [nextJob, flowing, if_neg Bool.false_ne_true, next]
      simp only [advance, some]
      refine ⟨?_, live, finished, lineages.nextJob next⟩
      change queue.running.set _ _ = _
      rw [show queue.running = .empty from fits]
  | working job =>
    cases outcome with
    | returned resultPayload => exact ⟨fits, live, finished, lineages⟩
    | raised failureReason => exact ⟨fits, live, finished, lineages⟩
  | returned job resultPayload =>
    obtain ⟨rest, ended, completed⟩ := lineages.markCompleted resultPayload
    refine ⟨?_, rest, ended, completed⟩
    change queue.running.erase job.jobId = .empty
    rw [show queue.running = _ from fits, erase_set]
  | raised job failureReason =>
    have running : queue.running.get? job.jobId = some job := by
      rw [show queue.running = _ from fits]
      exact Dict.get?_set_self _ _ _
    have idle : queue.running.erase job.jobId = .empty := by
      rw [show queue.running = _ from fits, erase_set]
    simp only [advance, Lineages.markFailed_eq failureReason running]
    cases retriable : policy.canRetry job with
    | false =>
      obtain ⟨rest, ended, failed⟩ :=
        lineages.withFailure_over failureReason distinct distinguishable retriable
      exact ⟨idle, rest, ended, failed⟩
    | true =>
      exact ⟨⟨idle, retriable⟩, live, finished,
        lineages.withFailure_held failureReason distinct distinguishable⟩
  | failed job failureReason =>
    obtain ⟨root, rest, first, _⟩ := lineages.held_first
    have valid := (first.stages (root, job) mem_cons_self).valid
    obtain ⟨later, retried⟩ := lineages.retry fits.2
    simp only [advance, retry_eq valid fits.2]
    exact ⟨fits.1, later, finished, retried⟩
  | retrying job =>
    obtain ⟨added, tracked⟩ := lineages.add distinct distinguishable fits
    simp only [advance, added]
    exact ⟨fits, live, finished, tracked⟩
  | ended result => exact ⟨fits, live, finished, lineages⟩

theorem restart_tracked (restorable : policy.Restorable jobs)
    (tracked : Tracked policy jobs scheduler) (between : scheduler.point.held = []) :
    Tracked policy jobs (scheduler.restart repr) := by
  obtain ⟨queue, point, retriedJobIds, auditLog⟩ := scheduler
  obtain ⟨fits, live, finished, lineages⟩ := tracked
  have idle : queue.running = .empty := by
    cases point with
    | ready => exact fits
    | ended => exact fits.1
    | working | returned | raised | failed | retrying => exact absurd between (cons_ne_nil _ _)
  rw [show point.held = [] from between] at lineages
  obtain ⟨read, later, restored⟩ := lineages.restore repr restorable idle
  simp only [restart, read]
  exact ⟨rfl, later, finished, restored⟩

theorem step_tracked (distinct : jobs.Nodup) (distinguishable : policy.Distinguishable jobs)
    (restorable : policy.Restorable jobs) (scheduler : ExperimentScheduler) (command : Command)
    (tracked : Tracked policy jobs scheduler) (between : scheduler.BetweenJobs command) :
    Tracked policy jobs (step repr policy scheduler command).2 := by
  cases command with
  | advance outcome => exact advance_tracked distinct distinguishable tracked outcome
  | restart => exact restart_tracked restorable tracked between

theorem init_tracked (valid : ∀ job ∈ jobs, job.Valid) (restorable : policy.Restorable jobs) :
    Tracked policy jobs (init jobs) := by
  refine ⟨rfl, jobs.map fun job => (job, job), [], ?_, ?_, ?_, ?_, ?_, ?_, rfl⟩
  · rw [append_nil, map_map]
    exact .of_eq (map_id jobs)
  · rw [map_map]
    exact (List.Perm.of_eq (map_id jobs)).trans (orderedJobs_perm jobs).symm
  · intro pair mem
    obtain ⟨job, found, rfl⟩ := mem_map.mp mem
    exact isStage_self (valid job found) (restorable job found).1
  · exact fun _ mem => absurd mem not_mem_nil
  · exact fun _ mem => absurd mem not_mem_nil
  · exact ⟨fun _ mem => absurd mem not_mem_nil,
      fun _ mem => absurd mem not_mem_nil⟩

theorem Tracked.settled (tracked : Tracked policy jobs scheduler)
    {result : Except String ExperimentScheduleResult} (ended : scheduler.point = .ended result) :
    ∀ root ∈ jobs, policy.Settled scheduler.queue root := by
  obtain ⟨queue, point, retriedJobIds, auditLog⟩ := scheduler
  obtain rfl : point = .ended result := ended
  obtain ⟨⟨_, empty⟩, live, finished, lineages⟩ := tracked
  have none := lineages.current
  rw [show queue.pending = [] from empty] at none
  have finished : live = [] := map_eq_nil_iff.mp none.eq_nil
  have roots := lineages.roots
  rw [finished] at roots
  intro root mem
  exact lineages.settled root (roots.mem_iff.mpr mem)

variable (policy)

/-- A bound on the statements that a job can still take. -/
def workOf (job : ResearchExperimentJob) : Nat :=
  8 * ((policy.maxAttempts - job.attempt).toNat + 1)

def pendingWork (queue : ExperimentQueue) : Nat :=
  (queue.pending.map (workOf policy)).sum

/-- A bound on the statements that a scheduler can still execute. -/
def work (scheduler : ExperimentScheduler) : Nat :=
  pendingWork policy scheduler.queue +
    match scheduler.point with
    | .ready => 1
    | .working job => workOf policy job
    | .returned job _ => workOf policy job - 1
    | .raised job _ => workOf policy job - 1
    | .failed job _ => workOf policy job - 2
    | .retrying job => workOf policy job + 2
    | .ended _ => 0

variable {policy}

theorem pendingWork_add (queue : ExperimentQueue) (job : ResearchExperimentJob) :
    pendingWork policy { queue with
      pending := orderedJobs (queue.pending ++ [job]) } =
      pendingWork policy queue + workOf policy job := by
  change ((orderedJobs (queue.pending ++ [job])).map (workOf policy)).sum = _
  rw [((orderedJobs_perm (queue.pending ++ [job])).map (workOf policy)).sum_nat,
    map_append, sum_append]
  exact congrArg (pendingWork policy queue + ·) (sum_singleton)

theorem workOf_retryJob {job : ResearchExperimentJob} (retriable : policy.canRetry job = true) :
    workOf policy (retryJob job) + 8 = workOf policy job := by
  have more : job.attempt < policy.maxAttempts := of_decide_eq_true retriable
  change 8 * ((policy.maxAttempts - (job.attempt + 1)).toNat + 1) + 8 =
    8 * ((policy.maxAttempts - job.attempt).toNat + 1)
  omega

theorem advance_work (distinct : jobs.Nodup) (distinguishable : policy.Distinguishable jobs)
    (tracked : Tracked policy jobs scheduler) (running : ∀ result, scheduler.point ≠ .ended result)
    (outcome : WorkerOutcome) :
    work policy (scheduler.advance repr policy outcome) < work policy scheduler := by
  obtain ⟨queue, point, retriedJobIds, auditLog⟩ := scheduler
  obtain ⟨fits, live, finished, lineages⟩ := tracked
  have pos (job : ResearchExperimentJob) : 8 ≤ workOf policy job := by
    rw [workOf]
    omega
  cases point with
  | ready =>
    have flowing : queue.stopped = false := lineages.flowing
    cases next : queue.pending with
    | nil =>
      have none : queue.nextJob = (none, queue) := by
        rw [nextJob, flowing, if_neg Bool.false_ne_true, next]
      simp only [advance, none, work]
      omega
    | cons job pending =>
      have some : queue.nextJob = (some job, { queue with
          pending
          running := queue.running.set job.jobId job }) := by
        rw [nextJob, flowing, if_neg Bool.false_ne_true, next]
      simp only [advance, some, work, pendingWork, next, map_cons, sum_cons]
      omega
  | working job =>
    have few := pos job
    cases outcome <;> simp only [advance, work] <;> omega
  | returned job resultPayload =>
    have few := pos job
    simp only [advance, work, pendingWork, markCompleted]
    omega
  | raised job failureReason =>
    have few := pos job
    have held : queue.running.get? job.jobId = some job := by
      rw [show queue.running = _ from fits]
      exact Dict.get?_set_self _ _ _
    simp only [advance, Lineages.markFailed_eq failureReason held]
    split <;> simp only [work, pendingWork, Lineages.withFailure] <;> omega
  | failed job failureReason =>
    obtain ⟨root, rest, first, _⟩ := lineages.held_first
    have valid := (first.stages (root, job) mem_cons_self).valid
    have less := workOf_retryJob fits.2
    simp only [advance, retry_eq valid fits.2, work]
    omega
  | retrying job =>
    obtain ⟨added, _⟩ := lineages.add distinct distinguishable fits
    simp only [advance, added, work, pendingWork_add]
    omega
  | ended result => exact absurd rfl (running result)

theorem Tracked.ends (distinct : jobs.Nodup) (distinguishable : policy.Distinguishable jobs)
    (tracked : Tracked policy jobs scheduler) (outcomes : List WorkerOutcome)
    (enough : work policy scheduler ≤ outcomes.length) :
    ∃ result, (final (step repr policy) scheduler
      (outcomes.map .advance)).point = .ended result := by
  induction outcomes generalizing scheduler with
  | nil =>
    obtain ⟨queue, point, retriedJobIds, auditLog⟩ := scheduler
    have pos (job : ResearchExperimentJob) : 8 ≤ workOf policy job := by
      rw [workOf]
      omega
    cases point with
    | ended result => exact ⟨result, rfl⟩
    | ready => exact absurd enough (by simp [work])
    | working job | returned job _ | raised job _ | failed job _ | retrying job =>
      have few := pos job
      simp only [work, length_nil] at enough
      omega
  | cons outcome outcomes ih =>
    have later : Tracked policy jobs (scheduler.advance repr policy outcome) :=
      advance_tracked distinct distinguishable tracked outcome
    apply ih later
    by_cases ended : ∃ result, scheduler.point = .ended result
    · obtain ⟨result, ended⟩ := ended
      obtain ⟨queue, point, retriedJobIds, auditLog⟩ := scheduler
      obtain rfl : point = .ended result := ended
      have none : queue.pending = [] := tracked.1.2
      simp only [advance, work, pendingWork, none, map_nil, sum_nil]
      exact Nat.zero_le _
    · have less : work policy (scheduler.advance repr policy outcome) < work policy scheduler :=
        advance_work distinct distinguishable tracked (fun result same => ended ⟨result, same⟩)
          outcome
      rw [length_cons] at enough
      omega

/-- Saved and restored only between jobs, under IDs that a payload keeps and that tell lineages
apart, the queue loses no job: a scheduler that runs on ends with every root job settled. -/
theorem run_losesNoJob (repr : Json → String) (policy : ExperimentRetryPolicy)
    (jobs : List ResearchExperimentJob) (valid : ∀ job ∈ jobs, job.Valid)
    (distinct : (jobs.map (·.jobId)).Nodup) (distinguishable : policy.Distinguishable jobs)
    (restorable : policy.Restorable jobs) (commands : List Command)
    (between : EveryStep (step repr policy) BetweenJobs (init jobs) commands) :
    ∃ enough, ∀ outcomes : List WorkerOutcome, enough ≤ outcomes.length →
      ∃ result, (final (step repr policy) (init jobs)
          (commands ++ outcomes.map .advance)).point = .ended result ∧
        ∀ root ∈ jobs, policy.Settled (final (step repr policy) (init jobs)
          (commands ++ outcomes.map .advance)).queue root := by
  have nodup : jobs.Nodup := distinct.of_map _
  have reached : Tracked policy jobs (final (step repr policy) (init jobs) commands) :=
    final_invariant_of_everyStep (step_tracked nodup distinguishable restorable)
      (init_tracked valid restorable) between
  refine ⟨work policy (final (step repr policy) (init jobs) commands), ?_⟩
  intro outcomes enough
  obtain ⟨result, ended⟩ := reached.ends nodup distinguishable outcomes enough
  have tracked : Tracked policy jobs (final (step repr policy)
      (final (step repr policy) (init jobs) commands) (outcomes.map .advance)) := by
    apply final_invariant_of_everyStep
      (step_tracked nodup distinguishable restorable) reached
    clear ended enough
    generalize final (step repr policy) (init jobs) commands = scheduler
    induction outcomes generalizing scheduler with
    | nil => trivial
    | cons outcome outcomes ih => exact ⟨trivial, ih _⟩
  rw [final_append]
  exact ⟨result, ended, tracked.settled ended⟩

def probe (jobId : String) : ResearchExperimentJob where
  jobId := jobId
  generationId := "generation-000"
  manifestPayload := .empty
  outputRoot := "runs"
  trials := []

theorem probe_valid {jobId : String} (shown : PythonText.isBlank jobId = false) :
    (probe jobId).Valid :=
  ⟨shown, (by decide : PythonText.isBlank "generation-000" = false), le_refl (1 : Int), rfl,
    le_refl (1 : Int)⟩

def twoAttempts : ExperimentRetryPolicy where
  maxAttempts := 2
  pos := by decide

/-- Two jobs, the first failing once, with the queue saved before the retry. -/
theorem run_losesNoJob_probes :
    ∃ enough, ∀ outcomes : List WorkerOutcome, enough ≤ outcomes.length →
      ∃ result, (final (step (fun _ => "") twoAttempts)
          (init [probe "job-a", probe "job-b"])
          (replicate 5 (.advance (.raised "failure")) ++ [.restart] ++
            outcomes.map .advance)).point = .ended result ∧
        ∀ root ∈ [probe "job-a", probe "job-b"], twoAttempts.Settled
          (final (step (fun _ => "") twoAttempts) (init [probe "job-a", probe "job-b"])
            (replicate 5 (.advance (.raised "failure")) ++ [.restart] ++
              outcomes.map .advance)).queue root := by
  have attempts {jobId : String} {attempt : Int}
      (reached : twoAttempts.Reaches (probe jobId) attempt) : attempt = 1 ∨ attempt = 2 := by
    have bounds : attempt = 1 ∨ 1 < attempt ∧ attempt ≤ 2 := reached
    omega
  apply run_losesNoJob
  · intro job mem
    rcases mem_pair.mp mem with rfl | rfl
    · exact probe_valid (by decide)
    · exact probe_valid (by decide)
  · decide
  · intro root rootMember other otherMember ne attempt later reached reachedLater
    rcases mem_pair.mp rootMember with rfl | rfl <;>
      rcases mem_pair.mp otherMember with rfl | rfl <;>
      first
      | exact absurd rfl ne
      | rcases attempts reached with rfl | rfl <;> rcases attempts reachedLater with rfl | rfl <;>
          decide
  · intro root mem
    rcases mem_pair.mp mem with rfl | rfl <;> refine ⟨by decide, fun attempt reached => ?_⟩ <;>
      rcases attempts reached with rfl | rfl <;> decide
  · exact ⟨trivial, trivial, trivial, trivial, trivial, rfl, trivial⟩

/-- A queue saved while its job runs forgets the job: the restored scheduler reports itself
completed with the job neither completed nor failed. -/
theorem running_job_forgotten :
    (final (step (fun _ => "") twoAttempts) (init [probe "job-a"])
        [.advance (.raised ""), .restart, .advance (.raised "")]).point =
      .ended (.ok ⟨"completed", [], .empty, [], []⟩) ∧
    ¬ twoAttempts.Settled (final (step (fun _ => "") twoAttempts) (init [probe "job-a"])
        [.advance (.raised ""), .restart, .advance (.raised "")]).queue (probe "job-a") := by
  constructor
  · rfl
  · rintro ⟨attempt, _, ⟨resultPayload, found⟩ | ⟨_, job, failureReason, _, found⟩⟩
    · exact absurd found (by nofun)
    · exact absurd found (by nofun)

end ExperimentScheduler

end Qts
