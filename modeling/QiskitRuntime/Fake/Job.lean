import QiskitRuntime.Python.Value

/-! The fake runtime jobs: each class's `_auto_progress` as the list of attribute writes it makes,
one step of the background task, `cancel`, `to_dict` and `result`. -/

namespace QiskitRuntime.Fake

open QiskitRuntime.Python

inductive JobStatus where
  | queued
  | running
  | completed
  | failed
  | cancelled
  | cancelledRanTooLong
  deriving DecidableEq, Repr

def JobStatus.name : JobStatus → String
  | .queued => "QUEUED"
  | .running => "RUNNING"
  | .completed => "COMPLETED"
  | .failed => "FAILED"
  | .cancelled => "CANCELLED"
  | .cancelledRanTooLong => "CANCELLED - RAN TOO LONG"

inductive JobClass where
  | baseFakeRuntimeJob
  | failedRuntimeJob
  | failedRanTooLongRuntimeJob
  | cancelableRuntimeJob
  | customResultRuntimeJob
  | timedRuntimeJob
  deriving DecidableEq, Repr

def JobClass.name : JobClass → String
  | .baseFakeRuntimeJob => "BaseFakeRuntimeJob"
  | .failedRuntimeJob => "FailedRuntimeJob"
  | .failedRanTooLongRuntimeJob => "FailedRanTooLongRuntimeJob"
  | .cancelableRuntimeJob => "CancelableRuntimeJob"
  | .customResultRuntimeJob => "CustomResultRuntimeJob"
  | .timedRuntimeJob => "TimedRuntimeJob"

/-- `json.dumps("foo")`. -/
def jsonFoo : String := "\"foo\""

/-- `json.dumps(CustomResultRuntimeJob.custom_result, cls=RuntimeEncoder)` for `"bar"`. -/
def jsonCustomResult : String := "\"bar\""

/-- One step of a progression task. -/
inductive TaskStep where
  /-- `self._status = status` -/
  | status (s : JobStatus)
  /-- `if self._status == status: self._result = payload` -/
  | resultIf (s : JobStatus) (payload : String)
  /-- `time.sleep(self._runtime)` -/
  | sleep
  deriving DecidableEq, Repr

/-- Whether `time.sleep(secs)` returns. CPython raises for a value that is not a number, is
negative or NaN, or whose count of nanoseconds does not fit a signed 64-bit integer. -/
def sleepAccepts : PyValue → Bool
  | .bool _ => true
  | .int i => decide (0 ≤ i ∧ i * 1000000000 < 9223372036854775808)
  | .float (.finite x) => decide (0 ≤ x ∧ x * 1000000000 < 9223372036854775808)
  | _ => false

/-- Whether the task gets past a step: a `time.sleep` that raises ends it. -/
def TaskStep.runs (sleeps : Bool) : TaskStep → Bool
  | .sleep => sleeps
  | _ => true

def JobClass.jobProgress : JobClass → List JobStatus
  | .failedRuntimeJob => [.queued, .running, .failed]
  | .failedRanTooLongRuntimeJob => [.queued, .running, .cancelledRanTooLong]
  | .cancelableRuntimeJob => [.queued, .running]
  | _ => [.queued, .running, .completed]

/-- `BaseFakeRuntimeJob._auto_progress` over a class's `_job_progress`. -/
def baseAutoProgress (progress : List JobStatus) : List TaskStep :=
  progress.map .status ++ [.resultIf .completed jsonFoo]

/-- Each class's `_auto_progress`; the overrides run `super()._auto_progress()` first. -/
def JobClass.autoProgress (c : JobClass) : List TaskStep :=
  match c with
  | .failedRuntimeJob => baseAutoProgress c.jobProgress ++ [.resultIf .failed "Kaboom!"]
  | .failedRanTooLongRuntimeJob =>
    baseAutoProgress c.jobProgress ++ [.resultIf .cancelledRanTooLong "Kaboom!"]
  | .customResultRuntimeJob => baseAutoProgress c.jobProgress ++ [.resultIf .completed jsonCustomResult]
  | .timedRuntimeJob => [.status .running, .sleep, .status .completed, .resultIf .completed jsonFoo]
  | _ => baseAutoProgress c.jobProgress

/-- The steps a job's task makes: its class's `_auto_progress` up to a `time.sleep` that raises. -/
def JobClass.task (c : JobClass) (sleeps : Bool) : List TaskStep := c.autoProgress.takeWhile (·.runs sleeps)

/-- The `_result` attribute: never assigned, `None`, or a payload. -/
inductive ResultAttr where
  | unassigned
  | none
  | payload (r : String)
  deriving DecidableEq, Repr

def TaskStep.apply : JobStatus × ResultAttr → TaskStep → JobStatus × ResultAttr
  | (_, r), .status s => (s, r)
  | (s, r), .resultIf s' p => if s = s' then (s, .payload p) else (s, r)
  | x, .sleep => x

/-- The `concurrent.futures.Future` of `_auto_progress`: queued, running or done, or cancelled. -/
inductive FutureState where
  | pending
  | started
  | cancelled
  deriving DecidableEq, Repr

/-- `Future.cancel()` succeeds only on a call that has not started. -/
def FutureState.cancel : FutureState → FutureState
  | .pending => .cancelled
  | f => f

/-- The constructor's arguments: `to_dict` reports all but `run_time`, which only
`TimedRuntimeJob` takes. -/
structure JobArgs where
  jobId : String
  programId : String
  hub : Option String
  group : Option String
  project : Option String
  backendName : String
  params : String
  image : Option String
  runTime : Option PyValue
  deriving Repr

/-- Whether `time.sleep(self._runtime)` returns. -/
def JobArgs.sleeps (a : JobArgs) : Bool := a.runTime.any sleepAccepts

/-- A fake job; `pc` counts the writes its progression task has made, `future` is `_future` (set
only when the job progresses on its own) and `cancelled` is `CancelableRuntimeJob._cancelled`. -/
structure FakeJob where
  cls : JobClass
  args : JobArgs
  status : JobStatus
  result : ResultAttr
  future : Option FutureState
  cancelled : Bool
  pc : Nat
  deriving Repr

namespace FakeJob

/-- One step of the background task: the worker starts it, or it makes its next step. -/
def progress (j : FakeJob) : FakeJob :=
  match j.future with
  | some .pending => { j with future := some .started }
  | some .started =>
    match (j.cls.task j.args.sleeps)[j.pc]? with
    | some w =>
      let next := w.apply (j.status, j.result)
      { j with status := next.1, result := next.2, pc := j.pc + 1 }
    | Option.none => j
  | _ => j

/-- The job right after `self._future = self._executor.submit(self._auto_progress)`. -/
def submitted (c : JobClass) (args : JobArgs) : FakeJob :=
  { cls := c, args, status := .queued, result := .unassigned, future := some .pending,
    cancelled := false, pc := 0 }

/-- `job_cls(...)` with `final_status`, past its keyword check. With `final_status=None` the
task is submitted before `self._result = None` runs; `early` is how many of its steps come first. -/
def create (c : JobClass) (args : JobArgs) (finalStatus : Option JobStatus) (early : Nat) : FakeJob :=
  match finalStatus with
  | Option.none => { progress^[early] (submitted c args) with result := .none }
  | some s =>
    { cls := c, args, status := s,
      result := if s = .completed then .payload jsonFoo else .unassigned,
      future := Option.none, cancelled := false, pc := 0 }

/-- `job.cancel()`: only `CancelableRuntimeJob` defines it. -/
def cancel (j : FakeJob) : Except PyException FakeJob :=
  match j.cls with
  | .cancelableRuntimeJob =>
    match j.future with
    | some f => .ok { j with future := some f.cancel, cancelled := true }
    | Option.none => .error (.attributeError "'CancelableRuntimeJob' object has no attribute '_future'")
  | c => .error (.attributeError ("'" ++ c.name ++ "' object has no attribute 'cancel'"))

/-- The `status` entry of `to_dict`, overridden by `CancelableRuntimeJob` once cancelled. -/
def reportedStatus (j : FakeJob) : JobStatus :=
  match j.cls with
  | .cancelableRuntimeJob => if j.cancelled then .cancelled else j.status
  | _ => j.status

end FakeJob

structure JobDict where
  id : String
  hub : Option String
  group : Option String
  project : Option String
  backend : String
  status : String
  params : List String
  program : String
  image : Option String
  deriving DecidableEq, Repr

namespace FakeJob

def toDict (j : FakeJob) : JobDict :=
  let data : JobDict :=
    { id := j.args.jobId, hub := j.args.hub, group := j.args.group, project := j.args.project,
      backend := j.args.backendName, status := j.status.name, params := [j.args.params],
      program := j.args.programId, image := j.args.image }
  match j.cls with
  | .cancelableRuntimeJob => if j.cancelled then { data with status := "CANCELLED" } else data
  | _ => data

/-- `job.result()`. -/
def results (j : FakeJob) : Except PyException (Option String) :=
  match j.result with
  | .unassigned => .error (.attributeError ("'" ++ j.cls.name ++ "' object has no attribute '_result'"))
  | .none => .ok Option.none
  | .payload r => .ok (some r)

end FakeJob

inductive JobEvent where
  | progress
  | cancel
  deriving DecidableEq, Repr

namespace FakeJob

def apply (j : FakeJob) : JobEvent → FakeJob
  | .progress => j.progress
  | .cancel =>
    match j.cancel with
    | .ok j' => j'
    | .error _ => j

def exec (j : FakeJob) (evs : List JobEvent) : FakeJob := evs.foldl apply j

end FakeJob

end QiskitRuntime.Fake
