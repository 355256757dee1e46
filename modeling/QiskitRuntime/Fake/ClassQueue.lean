import QiskitRuntime.Fake.ClientErrors
import QiskitRuntime.Fake.JobProgress

/-! The queue of job classes `program_run` pops: the `i`-th run after the latest
`set_job_classes` takes its `i`-th class. -/

namespace QiskitRuntime.Fake

open QiskitRuntime.Python

def classList : JobClass ⊕ List JobClass → List JobClass
  | .inl cls => [cls]
  | .inr cs => cs

def ClientOp.setsClasses : ClientOp → Option (List JobClass)
  | .setJobClasses classes => some (classList classes)
  | _ => none

/-- The classes `c₁, …, cₙ` the next runs are described to take: those of the most recent
`set_job_classes` among `ops`, else `initial`, the constructor's. -/
def queuedClasses (initial : List JobClass) (ops : List ClientOp) : List JobClass :=
  (ops.reverse.findSome? ClientOp.setsClasses).getD initial

/-- The number of `program_run` calls among `ops` after the most recent `set_job_classes`. -/
def runsSinceSet (ops : List ClientOp) : Nat :=
  ((ops.reverse.takeWhile fun op => op.setsClasses.isNone).filter ClientOp.popsClass).length

theorem queuedClasses_concat (initial : List JobClass) (ops : List ClientOp) (op : ClientOp) :
    queuedClasses initial (ops ++ [op]) = op.setsClasses.getD (queuedClasses initial ops) := by
  cases h : op.setsClasses <;> simp [queuedClasses, List.findSome?_cons, h]

theorem runsSinceSet_concat (ops : List ClientOp) (op : ClientOp) :
    runsSinceSet (ops ++ [op]) =
      if op.setsClasses.isSome then 0 else runsSinceSet ops + if op.popsClass then 1 else 0 := by
  cases h : op.setsClasses <;> cases hp : op.popsClass <;>
    simp [runsSinceSet, List.takeWhile_cons, List.filter_cons, h, hp, Nat.add_comm]

namespace FakeRuntimeClient

variable {c : FakeRuntimeClient}

theorem programRun_jobClasses (programId : String) (credentials : Credentials)
    (backendName params : String) (image : Option String) (jobId : String) (early : Nat) :
    (c.programRun programId credentials backendName params image jobId early).client.jobClasses =
      c.jobClasses.tail := by
  unfold programRun
  dsimp only
  split <;> rfl

theorem apply_jobClasses (b : Builtins) (c : FakeRuntimeClient) (op : ClientOp) :
    (c.apply b op).client.jobClasses =
      op.setsClasses.getD (if op.popsClass then c.jobClasses.tail else c.jobClasses) := by
  cases op
  case setJobClasses classes => cases classes <;> rfl
  case programRun => exact programRun_jobClasses ..
  -- every other method returns the client it was given, or it with new programs or jobs
  all_goals
    simp only [apply, Outcome.map, ClientOp.setsClasses, ClientOp.popsClass, Option.getD_none,
      Bool.false_eq_true, if_false, programCreate, programUpdate, programDelete,
      setProgramVisibility, jobCancel, jobDelete, tick]
    repeat' split
    all_goals rfl

theorem run_jobClasses (b : Builtins) (c : FakeRuntimeClient) (ops : List ClientOp) :
    (c.run b ops).jobClasses = (queuedClasses c.jobClasses ops).drop (runsSinceSet ops) := by
  induction ops using List.reverseRecOn with
  | nil => rfl
  | append_singleton ops op ih =>
    rw [run_append, run_cons, run_nil, apply_jobClasses, ih, queuedClasses_concat,
      runsSinceSet_concat]
    cases op.setsClasses <;> cases op.popsClass <;> simp [List.tail_drop]

theorem programRun_class (programId : String) (credentials : Credentials)
    (backendName params : String) (image : Option String) (jobId : String) (early : Nat) :
    let cls := c.jobClasses.headD .baseFakeRuntimeJob
    let o := c.programRun programId credentials backendName params image jobId early
    (∃ j, o.result = .ok jobId ∧ o.client.jobs.get? jobId = some j ∧ j.cls = cls) ∨
      (∃ e, bindJobKwargs cls c.jobKwargs.keys = some e ∧ o.result = .error e ∧ o.client.jobs = c.jobs) := by
  unfold programRun
  dsimp only
  split
  · next e h => exact .inr ⟨e, h, rfl, rfl⟩
  · exact .inl ⟨_, rfl, (PyDict.get?_set ..).trans (if_pos rfl), FakeJob.create_cls ..⟩

end FakeRuntimeClient

/-- After any calls `ops`, the next `program_run` takes the class at position `runsSinceSet ops` of the
latest list supplied, or `BaseFakeRuntimeJob` past its end. -/
theorem program_run_takes_queued_class (b : Builtins) (jobClasses : List JobClass)
    (finalStatus : Option JobStatus) (jobKwargs : PyDict String PyValue)
    (hub group project : Option String) (ops : List ClientOp) (programId : String)
    (credentials : Credentials) (backendName params : String) (image : Option String)
    (jobId : String) (early : Nat) :
    let c := (FakeRuntimeClient.init jobClasses finalStatus jobKwargs hub group project).run b ops
    let cls := ((queuedClasses jobClasses ops)[runsSinceSet ops]?).getD .baseFakeRuntimeJob
    let o := c.programRun programId credentials backendName params image jobId early
    ((∃ j, o.result = .ok jobId ∧ o.client.jobs.get? jobId = some j ∧ j.cls = cls) ∨
      (∃ e, bindJobKwargs cls c.jobKwargs.keys = some e ∧ o.result = .error e ∧ o.client.jobs = c.jobs)) ∧
    ∀ (c' : FakeRuntimeClient) (op : ClientOp), (c'.apply b op).client.jobClasses =
      op.setsClasses.getD (if op.popsClass then c'.jobClasses.tail else c'.jobClasses) := by
  intro c cls o
  have head : c.jobClasses.headD .baseFakeRuntimeJob = cls := by
    simp [c, cls, FakeRuntimeClient.run_jobClasses, FakeRuntimeClient.init]
  exact ⟨head ▸ FakeRuntimeClient.programRun_class programId credentials backendName params image jobId early,
    FakeRuntimeClient.apply_jobClasses b⟩

end QiskitRuntime.Fake
