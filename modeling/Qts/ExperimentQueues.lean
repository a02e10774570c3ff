import Mathlib.Data.Prod.Lex
import Qts.JsonValues
import Qts.PythonText

/-! # Experiment queues -/

namespace Qts

open PythonText Dict Json List Option

/-- One bounded experiment job with deterministic trial inputs; a path is its text. -/
structure ResearchExperimentJob where
  jobId : String
  generationId : String
  manifestPayload : JsonObject
  outputRoot : String
  trials : List JsonObject
  attempt : Int := 1
  parentJobId : Option String := none
  executionMode : String := "backtest_pipeline"
  equityCurveSampleInterval : Int := 1

namespace ResearchExperimentJob

def executionModes : List String :=
  ["backtest_pipeline"]

/-- The constructor: a job passes its checks and has its mode stripped. -/
def create (job : ResearchExperimentJob) : Except String ResearchExperimentJob :=
  if isBlank job.jobId then .error "job_id is required"
  else if isBlank job.generationId then .error "generation_id is required"
  else if job.attempt < 1 then .error "attempt must be positive"
  else if strip job.executionMode ∉ executionModes then
    .error ("unsupported execution_mode: " ++ job.executionMode)
  else if job.equityCurveSampleInterval < 1 then
    .error "equity_curve_sample_interval must be a positive integer"
  else .ok { job with executionMode := strip job.executionMode }

/-- What the checks of the constructor leave. -/
structure Valid (job : ResearchExperimentJob) : Prop where
  jobId : isBlank job.jobId = false
  generationId : isBlank job.generationId = false
  attempt : 1 ≤ job.attempt
  executionMode : job.executionMode = "backtest_pipeline"
  equityCurveSampleInterval : 1 ≤ job.equityCurveSampleInterval

variable {job : ResearchExperimentJob}

theorem create_valid (valid : job.Valid) : create job = .ok job := by
  rw [create, valid.jobId, valid.generationId, if_neg Bool.false_ne_true,
    if_neg Bool.false_ne_true, if_neg (not_lt.mpr valid.attempt), valid.executionMode,
    if_neg (by decide), if_neg (not_lt.mpr valid.equityCurveSampleInterval), ← valid.executionMode]
  have stripped : strip job.executionMode = job.executionMode := by
    rw [valid.executionMode]
    decide
  rw [stripped]

def family (job : ResearchExperimentJob) : String :=
  match job.parentJobId with
  | some parent => if parent = "" then job.jobId else parent
  | none => job.jobId

theorem family_ne_empty (valid : job.Valid) : job.family ≠ "" := by
  have shown : job.jobId ≠ "" := by
    intro empty
    have visible := valid.jobId
    rw [empty] at visible
    exact absurd visible (by decide)
  rw [family]
  split
  · split
    · exact shown
    · assumption
  · exact shown

def toPayload (job : ResearchExperimentJob) : JsonObject :=
  .ofItems [
    ("attempt", .int job.attempt),
    ("equity_curve_sample_interval", .int job.equityCurveSampleInterval),
    ("execution_mode", .string job.executionMode),
    ("generation_id", .string job.generationId),
    ("job_id", .string job.jobId),
    ("manifest_payload", .object job.manifestPayload.items),
    ("output_root", .string job.outputRoot),
    ("parent_job_id", (job.parentJobId.map string).getD .null),
    ("trials", .array (job.trials.map fun trial => .object trial.items))]

def text (payload : JsonObject) (fieldName : String) : Except String String :=
  match payload.get? fieldName with
  | some (.string value) =>
    if isBlank value then .error (fieldName ++ " is required")
    else .ok (strip value)
  | _ => .error (fieldName ++ " is required")

def mapping (value : Json) (fieldName : String) : Except String JsonObject :=
  match value with
  | .object items => .ok (.ofItems items)
  | _ => .error (fieldName ++ " must be a mapping")

def int (value : Json) (fieldName : String) : Except String Int :=
  match value with
  | .int value => .ok value
  | _ => .error (fieldName ++ " must be an integer")

def str (repr : Json → String) : Json → String
  | .string value => value
  | value => repr value

variable (repr : Json → String)

def fromPayload (payload : JsonObject) : Except String ResearchExperimentJob := do
  let .array trials := (payload.get? "trials").getD .null
    | .error "trials must be a sequence"
  let jobId ← text payload "job_id"
  let generationId ← text payload "generation_id"
  let outputRoot ← text payload "output_root"
  let trials ← trials.mapM fun trial => mapping trial "trial"
  let attempt ← int ((payload.get? "attempt").getD (.int 1)) "attempt"
  let parentJobId := match payload.get? "parent_job_id" with
    | none => none
    | some .null => none
    | some parent => some (str repr parent)
  let executionMode :=
    str repr ((payload.get? "execution_mode").getD (.string "backtest_pipeline"))
  let equityCurveSampleInterval ← int
    ((payload.get? "equity_curve_sample_interval").getD (.int 1)) "equity_curve_sample_interval"
  create {
    jobId, generationId, outputRoot, trials, attempt, parentJobId, executionMode,
    equityCurveSampleInterval, manifestPayload := payload }

def restored (job : ResearchExperimentJob) : ResearchExperimentJob :=
  { job with
    jobId := strip job.jobId
    generationId := strip job.generationId
    outputRoot := strip job.outputRoot
    manifestPayload := job.toPayload }

theorem Valid.restored (valid : job.Valid) : job.restored.Valid where
  jobId := by rw [ResearchExperimentJob.restored, isBlank_strip, valid.jobId]
  generationId := by
    rw [ResearchExperimentJob.restored, isBlank_strip, valid.generationId]
  attempt := valid.attempt
  executionMode := valid.executionMode
  equityCurveSampleInterval := valid.equityCurveSampleInterval

theorem text_of_string (payload : JsonObject) (fieldName : String) {value : String}
    (reads : payload.get? fieldName = some (.string value)) (visible : isBlank value = false) :
    text payload fieldName = .ok (strip value) := by
  simp only [text, reads, visible, Bool.false_eq_true, if_false]

theorem mapM_mapping (trials : List JsonObject) :
    (trials.map fun trial => object trial.items).mapM (fun trial => mapping trial "trial") =
      .ok trials := by
  induction trials with
  | nil => rfl
  | cons trial trials ih =>
    rw [map_cons, mapM_cons, ih, mapping, ofItems_items_self]
    rfl

theorem fromPayload_toPayload (valid : job.Valid) (placed : isBlank job.outputRoot = false) :
    fromPayload repr job.toPayload = .ok job.restored := by
  have created := create_valid valid.restored
  have trials : job.toPayload.get? "trials" =
      some (.array (job.trials.map fun trial => .object trial.items)) := rfl
  have attempt : job.toPayload.get? "attempt" = some (.int job.attempt) := rfl
  have mode : job.toPayload.get? "execution_mode" = some (.string job.executionMode) := rfl
  have interval : job.toPayload.get? "equity_curve_sample_interval" =
      some (.int job.equityCurveSampleInterval) := rfl
  have jobId := text_of_string job.toPayload "job_id" rfl valid.jobId
  have generationId := text_of_string job.toPayload "generation_id" rfl valid.generationId
  have outputRoot := text_of_string job.toPayload "output_root" rfl placed
  have parent : job.toPayload.get? "parent_job_id" =
      some ((job.parentJobId.map string).getD .null) := rfl
  rw [restored] at created ⊢
  generalize job.toPayload = payload at *
  rw [fromPayload, trials, jobId, generationId, outputRoot, attempt, mode, interval, parent,
    getD_some]
  dsimp only
  rw [mapM_mapping]
  cases hasParent : job.parentJobId <;> rw [hasParent] at created <;>
    simpa only [bind, Except.bind, int, str, getD_some, map_none, map_some, getD_none] using created

end ResearchExperimentJob

/-- Own deterministic experiment job state. -/
structure ExperimentQueue where
  pending : List ResearchExperimentJob
  running : Dict String ResearchExperimentJob := .empty
  completed : Dict String JsonObject := .empty
  failed : Dict String JsonObject := .empty
  stopped : Bool := false

namespace ExperimentQueue

def orderKey (job : ResearchExperimentJob) : String ×ₗ String ×ₗ Int ×ₗ String :=
  toLex (job.generationId, toLex (job.family, toLex (job.attempt, job.jobId)))

def orderedJobs (jobs : List ResearchExperimentJob) : List ResearchExperimentJob :=
  jobs.insertionSort fun first second => orderKey first ≤ orderKey second

theorem orderedJobs_perm (jobs : List ResearchExperimentJob) : (orderedJobs jobs).Perm jobs :=
  perm_insertionSort _ jobs

def init (jobs : List ResearchExperimentJob) : ExperimentQueue where
  pending := orderedJobs jobs

def nextJob (queue : ExperimentQueue) : Option ResearchExperimentJob × ExperimentQueue :=
  if queue.stopped then (none, queue)
  else
    match queue.pending with
    | [] => (none, queue)
    | job :: pending => (some job, { queue with
        pending
        running := queue.running.set job.jobId job })

def add (queue : ExperimentQueue) (job : ResearchExperimentJob) :
    Except String ExperimentQueue :=
  if (queue.running.get? job.jobId).isSome ∨ (queue.completed.get? job.jobId).isSome then
    .error ("job already active or completed: " ++ job.jobId)
  else if ∃ pending ∈ queue.pending, pending.jobId = job.jobId then
    .error ("job already pending: " ++ job.jobId)
  else .ok { queue with pending := orderedJobs (queue.pending ++ [job]) }

def markCompleted (queue : ExperimentQueue) (jobId : String) (resultPayload : JsonObject) :
    ExperimentQueue :=
  { queue with
    running := queue.running.erase jobId
    completed := queue.completed.set jobId resultPayload }

/-- What the failed collection holds of a job. -/
def failure (job : ResearchExperimentJob) (jobId failureReason : String) : JsonObject :=
  .ofItems [("failure_reason", .string failureReason), ("job", .object job.toPayload.items),
    ("job_id", .string jobId)]

def markFailed (queue : ExperimentQueue) (jobId failureReason : String) :
    Except String (ResearchExperimentJob × ExperimentQueue) :=
  match queue.running.get? jobId with
  | none => .error ("job is not running: " ++ jobId)
  | some job => .ok (job, { queue with
      running := queue.running.erase jobId
      failed := queue.failed.set jobId (failure job jobId failureReason) })

def stateRow (row : String × JsonObject) : Json :=
  .object [("job_id", .string row.1), ("payload", .object row.2.items)]

/-- Return deterministic queue state for persistence. -/
def toPayload (queue : ExperimentQueue) : JsonObject :=
  .ofItems [
    ("completed", .array (queue.completed.sorted.items.map stateRow)),
    ("failed", .array (queue.failed.sorted.items.map stateRow)),
    ("pending", .array (queue.pending.map fun job => .object job.toPayload.items)),
    ("running", .array ((orderedJobs queue.running.values).map fun job =>
      .object job.toPayload.items)),
    ("stopped", .bool queue.stopped)]

variable (repr : Json → String)

def jobs (value : Option Json) (fieldName : String) :
    Except String (List ResearchExperimentJob) :=
  match value with
  | none => .ok []
  | some (.array items) => items.mapM fun item =>
      match item with
      | .object fields => ResearchExperimentJob.fromPayload repr (.ofItems fields)
      | _ => .error "object has no attribute 'get'"
  | some _ => .error (fieldName ++ " must be a sequence")

def rowById (fieldName : String) (item : Json) : Except String (String × JsonObject) :=
  match item with
  | .object fields =>
    match (ofItems fields).get? "job_id" with
    | some (.string jobId) =>
      if isBlank jobId then .error (fieldName ++ ".job_id is required")
      else
        match (ofItems fields).get? "payload" with
        | some (.object payload) => .ok (jobId, .ofItems payload)
        | _ => .error (fieldName ++ ".payload must be a mapping")
    | _ => .error (fieldName ++ ".job_id is required")
  | _ => .error (fieldName ++ " rows must be mappings")

def mappingById (value : Option Json) (fieldName : String) :
    Except String (Dict String JsonObject) :=
  match value with
  | none => .ok .empty
  | some (.array items) => do
    let rows ← items.mapM (rowById fieldName)
    return .ofItems rows
  | some _ => .error (fieldName ++ " must be a sequence")

def truth : Json → Bool
  | .null => false
  | .bool value => value
  | .int value => decide (value ≠ 0)
  | .float value => decide (value ≠ 0)
  | .string value => decide (value ≠ "")
  | .array items => !items.isEmpty
  | .object items => !items.isEmpty

def fromPayload (payload : JsonObject) : Except String ExperimentQueue := do
  let pending ← jobs repr (payload.get? "pending") "pending"
  let running ← jobs repr (payload.get? "running") "running"
  let completed ← mappingById (payload.get? "completed") "completed"
  let failed ← mappingById (payload.get? "failed") "failed"
  return {
    pending := orderedJobs pending
    running := .ofItems (running.map fun job => (job.jobId, job))
    completed, failed
    stopped := truth ((payload.get? "stopped").getD (.bool false)) }

theorem jobs_toPayload {restorable : List ResearchExperimentJob} (fieldName : String)
    (valid : ∀ job ∈ restorable, job.Valid)
    (placed : ∀ job ∈ restorable, isBlank job.outputRoot = false) :
    jobs repr (some (.array (restorable.map fun job => .object job.toPayload.items))) fieldName =
      .ok (restorable.map ResearchExperimentJob.restored) := by
  dsimp only [jobs]
  induction restorable with
  | nil => rfl
  | cons job restorable ih =>
    have rest := ih (fun other mem => valid other (mem_cons_of_mem job mem))
      (fun other mem => placed other (mem_cons_of_mem job mem))
    rw [map_cons, mapM_cons, rest]
    dsimp only
    rw [ofItems_items_self, ResearchExperimentJob.fromPayload_toPayload repr
      (valid job mem_cons_self) (placed job mem_cons_self)]
    rfl

theorem mappingById_rows {rows : Dict String JsonObject} (fieldName : String)
    (shown : ∀ key ∈ rows.keys, isBlank key = false) :
    mappingById (some (.array (rows.items.map stateRow))) fieldName = .ok rows := by
  have read : (rows.items.map stateRow).mapM (rowById fieldName) = .ok rows.items := by
    have visible : ∀ item ∈ rows.items, isBlank item.1 = false := by
      intro item mem
      exact shown item.1 (mem_map_of_mem mem)
    generalize rows.items = items at visible
    induction items with
    | nil => rfl
    | cons item items ih =>
      have row : rowById fieldName (stateRow item) = .ok item := by
        have jobId : (ofItems [("job_id", string item.1),
            ("payload", object item.2.items)]).get? "job_id" = some (.string item.1) := rfl
        have payload : (ofItems [("job_id", string item.1),
            ("payload", object item.2.items)]).get? "payload" =
              some (.object item.2.items) := rfl
        dsimp only [rowById, stateRow]
        rw [jobId, payload]
        dsimp only
        rw [visible item mem_cons_self, if_neg Bool.false_ne_true, ofItems_items_self]
      rw [map_cons, mapM_cons, row,
        ih fun other mem => visible other (mem_cons_of_mem item mem)]
      rfl
  rw [mappingById, read]
  exact congrArg Except.ok (ofItems_items_self rows)

def restored (queue : ExperimentQueue) : ExperimentQueue where
  pending := orderedJobs (queue.pending.map ResearchExperimentJob.restored)
  completed := queue.completed.sorted
  failed := queue.failed.sorted
  stopped := queue.stopped

theorem fromPayload_toPayload {queue : ExperimentQueue} (idle : queue.running = .empty)
    (valid : ∀ job ∈ queue.pending, job.Valid)
    (placed : ∀ job ∈ queue.pending, isBlank job.outputRoot = false)
    (completed : ∀ key ∈ queue.completed.keys, isBlank key = false)
    (failed : ∀ key ∈ queue.failed.keys, isBlank key = false) :
    fromPayload repr queue.toPayload = .ok queue.restored := by
  have sortedKeys (rows : Dict String JsonObject)
      (shown : ∀ key ∈ rows.keys, isBlank key = false) :
      ∀ key ∈ rows.sorted.keys, isBlank key = false := by
    intro key mem
    exact shown key (((sortItems_perm rows.items).map Prod.fst).mem_iff.mp mem)
  have pendingRead := jobs_toPayload repr "pending" valid placed
  have runningRead : jobs repr (queue.toPayload.get? "running") "running" = .ok [] := by
    have reads : queue.toPayload.get? "running" = some (.array
        ((orderedJobs queue.running.values).map fun job => .object job.toPayload.items)) := rfl
    rw [reads, idle]
    rfl
  have completedRead := mappingById_rows "completed" (sortedKeys queue.completed completed)
  have failedRead := mappingById_rows "failed" (sortedKeys queue.failed failed)
  have pendingField : queue.toPayload.get? "pending" =
      some (.array (queue.pending.map fun job => .object job.toPayload.items)) := rfl
  have completedField : queue.toPayload.get? "completed" =
      some (.array (queue.completed.sorted.items.map stateRow)) := rfl
  have failedField : queue.toPayload.get? "failed" =
      some (.array (queue.failed.sorted.items.map stateRow)) := rfl
  rw [fromPayload, runningRead, pendingField, completedField, failedField, pendingRead,
    completedRead, failedRead]
  rfl

end ExperimentQueue

end Qts
