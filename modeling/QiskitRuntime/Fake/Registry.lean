import QiskitRuntime.Fake.Client
import QiskitRuntime.Fake.JobProgress

/-! The job registry over whole runs of the fake client: every job a reachable client holds is a run
of its own task from `program_run`. -/

namespace QiskitRuntime.Fake

open QiskitRuntime.Python

def ClientOp.runId : ClientOp → Option String
  | .programRun _ _ _ _ _ jobId _ => some jobId
  | _ => none

namespace FakeRuntimeClient

variable {c : FakeRuntimeClient}

theorem getJob_eq_ok {jobId : String} {j : FakeJob} : c.getJob jobId = .ok j ↔ c.jobs.get? jobId = some j := by
  unfold getJob
  cases c.jobs.get? jobId <;> simp

/-! What each method does to the job registry. -/

theorem programCreate_jobs (data name description : String) (cost : Int)
    (spec : Option (PyDict String PyValue)) (isPublic : Bool) :
    (c.programCreate data name description cost spec isPublic).client.jobs = c.jobs := by
  unfold programCreate
  split_ifs
  · rfl
  · cases spec <;> rfl

theorem programUpdate_jobs (programId : String) (data name description : Option String)
    (cost : Option Int) (spec : Option (PyDict String PyValue)) :
    (c.programUpdate programId data name description cost spec).client.jobs = c.jobs := by
  unfold programUpdate
  split <;> rfl

theorem programDelete_jobs (programId : String) : (c.programDelete programId).client.jobs = c.jobs := by
  unfold programDelete
  split_ifs <;> rfl

theorem setProgramVisibility_jobs (programId : String) (public : Bool) :
    (c.setProgramVisibility programId public).client.jobs = c.jobs := by
  unfold setProgramVisibility
  split <;> rfl

theorem programRun_jobs (programId : String) (credentials : Credentials) (backendName params : String)
    (image : Option String) (jobId : String) (early : Nat) :
    let o := c.programRun programId credentials backendName params image jobId early
    o.client.jobs = c.jobs ∨
      ∃ cls args, o.client.jobs = c.jobs.set jobId (FakeJob.create cls args c.finalStatus early) := by
  unfold programRun
  dsimp only
  split
  · exact .inl rfl
  · exact .inr ⟨_, _, rfl⟩

theorem jobCancel_jobs (jobId : String) :
    (c.jobCancel jobId).client.jobs = c.jobs ∨
      ∃ j, c.jobs.get? jobId = some j ∧
        (c.jobCancel jobId).client.jobs = c.jobs.set jobId (j.apply .cancel) := by
  unfold jobCancel
  split
  · exact .inl rfl
  · next j h =>
    split
    · next j' hc => exact .inr ⟨j, getJob_eq_ok.1 h, by simp [FakeJob.apply, hc]⟩
    · exact .inl rfl

theorem jobDelete_jobs (jobId : String) :
    (c.jobDelete jobId).client.jobs = c.jobs ∨ (c.jobDelete jobId).client.jobs = c.jobs.erase jobId := by
  unfold jobDelete
  split
  · exact .inl rfl
  · exact .inr rfl

theorem tick_jobs (jobId : String) :
    (c.tick jobId).jobs = c.jobs ∨
      ∃ j, c.jobs.get? jobId = some j ∧ (c.tick jobId).jobs = c.jobs.set jobId (j.apply .progress) := by
  unfold tick
  split
  · next j h => exact .inr ⟨j, h, rfl⟩
  · exact .inl rfl

theorem apply_jobs (b : Builtins) (c : FakeRuntimeClient) (op : ClientOp) :
    (c.apply b op).client.jobs = c.jobs ∨
      (∃ jobId cls args early, op.runId = some jobId ∧
        (c.apply b op).client.jobs = c.jobs.set jobId (FakeJob.create cls args c.finalStatus early)) ∨
      (∃ jobId j e, c.jobs.get? jobId = some j ∧
        (c.apply b op).client.jobs = c.jobs.set jobId (j.apply e)) ∨
      (∃ jobId, (c.apply b op).client.jobs = c.jobs.erase jobId) := by
  cases op with
  | programCreate data name description cost spec isPublic =>
    exact .inl (programCreate_jobs data name description cost spec isPublic)
  | programUpdate programId data name description cost spec =>
    exact .inl (programUpdate_jobs programId data name description cost spec)
  | programDelete programId => exact .inl (programDelete_jobs programId)
  | setProgramVisibility programId public => exact .inl (setProgramVisibility_jobs programId public)
  | programRun programId credentials backendName params image jobId early =>
    rcases programRun_jobs (c := c) programId credentials backendName params image jobId early with
      h | ⟨cls, args, h⟩
    · exact .inl h
    · exact .inr (.inl ⟨jobId, cls, args, early, rfl, h⟩)
  | jobCancel jobId =>
    rcases jobCancel_jobs (c := c) jobId with h | ⟨j, hj, h⟩
    · exact .inl h
    · exact .inr (.inr (.inl ⟨jobId, j, .cancel, hj, h⟩))
  | jobDelete jobId =>
    rcases jobDelete_jobs (c := c) jobId with h | h
    · exact .inl h
    · exact .inr (.inr (.inr ⟨jobId, h⟩))
  | tick jobId =>
    rcases tick_jobs (c := c) jobId with h | ⟨j, hj, h⟩
    · exact .inl h
    · exact .inr (.inr (.inl ⟨jobId, j, .progress, hj, h⟩))
  | setJobClasses classes => exact .inl (by cases classes <;> rfl)
  | setHgp | setFinalStatus | listPrograms | programGet | jobGet | jobsGet | jobResults => exact .inl rfl

end FakeRuntimeClient

inductive Reachable : FakeRuntimeClient → Prop
  | init (jobClasses : List JobClass) (finalStatus : Option JobStatus)
      (jobKwargs : PyDict String PyValue) (hub group project : Option String) :
      Reachable (FakeRuntimeClient.init jobClasses finalStatus jobKwargs hub group project)
  | step {c : FakeRuntimeClient} (b : Builtins) (op : ClientOp) :
      Reachable c → Reachable (c.apply b op).client

theorem reachable_run (b : Builtins) {c : FakeRuntimeClient} (h : Reachable c) (ops : List ClientOp) :
    Reachable (c.run b ops) := by
  induction ops generalizing c with
  | nil => exact h
  | cons op ops ih => exact ih (.step b op h)

theorem Reachable.job_history {c : FakeRuntimeClient} (h : Reachable c) {jobId : String}
    {j : FakeJob} (hj : c.jobs.get? jobId = some j) :
    ∃ cls args fs early evs, j = (FakeJob.create cls args fs early).exec evs := by
  induction h generalizing jobId j with
  | init => simp [FakeRuntimeClient.init] at hj
  | @step c b op _ ih =>
    rcases FakeRuntimeClient.apply_jobs b c op with
      h1 | ⟨id, cls, args, early, -, h1⟩ | ⟨id, j₀, e, hj₀, h1⟩ | ⟨id, h1⟩ <;>
      simp only [h1, PyDict.get?_set, PyDict.get?_erase] at hj
    · exact ih hj
    · split_ifs at hj
      · cases hj; exact ⟨cls, args, _, early, [], rfl⟩
      · exact ih hj
    · split_ifs at hj with hid
      · cases hj
        obtain ⟨cls, args, fs, early, evs, rfl⟩ := ih hj₀
        exact ⟨cls, args, fs, early, evs ++ [e], by simp⟩
      · exact ih hj
    · split_ifs at hj
      exact ih hj

theorem Reachable.statusTracks {c : FakeRuntimeClient} (h : Reachable c) {jobId : String}
    {j : FakeJob} (hj : c.jobs.get? jobId = some j) : j.StatusTracks := by
  obtain ⟨cls, args, fs, early, evs, rfl⟩ := h.job_history hj
  exact (FakeJob.exec_reported (FakeJob.create_statusTracks cls args fs early) evs).1

end QiskitRuntime.Fake
