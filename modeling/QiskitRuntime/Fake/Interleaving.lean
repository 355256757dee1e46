import QiskitRuntime.Fake.Lifecycle

/-! A task step writes only its own job and a call touches at most the job it names, so a step
commutes with every call on other jobs. -/

namespace QiskitRuntime.Fake

open QiskitRuntime.Python

def ClientOp.names (k : String) (op : ClientOp) : Prop :=
  op.runId = some k ∨ op.deletes k = true ∨ op.jobEvent k ≠ none

instance (k : String) : DecidablePred (ClientOp.names k) := fun op =>
  inferInstanceAs (Decidable (op.runId = some k ∨ op.deletes k = true ∨ op.jobEvent k ≠ none))

namespace FakeRuntimeClient

variable {c : FakeRuntimeClient} {k : String}

theorem tick_of_get? {j : FakeJob} (h : c.jobs.get? k = some j) :
    c.tick k = { c with jobs := c.jobs.set k j.progress } := by
  simp [tick, h]

theorem tick_of_get?_none (h : c.jobs.get? k = none) : c.tick k = c := by
  simp [tick, h]

theorem apply_get?_of_not_names (b : Builtins) (c : FakeRuntimeClient) {op : ClientOp}
    (hop : ¬ op.names k) : (c.apply b op).client.jobs.get? k = c.jobs.get? k := by
  simp only [ClientOp.names, not_or, not_not, Bool.not_eq_true] at hop
  rcases apply_jobs_get? b c op k with h | ⟨-, -, -, hr, -⟩
  · rw [h, ClientOp.jobSlot, if_neg (by simp [hop.2.1]), hop.2.2]
  · exact absurd hr hop.1

theorem apply_set_job (b : Builtins) (c : FakeRuntimeClient) {op : ClientOp} (hop : ¬ op.names k)
    {j : FakeJob} (hk : c.jobs.get? k = some j) (v : FakeJob) :
    ({ c with jobs := c.jobs.set k v }.apply b op).client =
      { (c.apply b op).client with jobs := (c.apply b op).client.jobs.set k v } := by
  simp only [ClientOp.names, not_or, not_not, Bool.not_eq_true] at hop
  obtain ⟨hrun, hdel, hev⟩ := hop
  cases op
  case programRun programId credentials backendName params image jobId early =>
    have hne : k ≠ jobId := fun e => hrun (e ▸ rfl)
    simp only [apply, Outcome.map, programRun]
    split
    · rfl
    · simp only [PyDict.set_comm hk hne]
  case jobCancel jobId =>
    have hne : k ≠ jobId := fun e => by simp [ClientOp.jobEvent, e] at hev
    simp only [apply, Outcome.map, jobCancel, getJob, PyDict.get?_set, if_neg hne]
    split
    · rfl
    · split
      · simp only [PyDict.set_comm hk hne]
      · rfl
  case jobDelete jobId =>
    have hne : k ≠ jobId := fun e => by simp [ClientOp.deletes, e] at hdel
    simp only [apply, Outcome.map, jobDelete, getJob, PyDict.get?_set, if_neg hne]
    split
    · rfl
    · simp only [PyDict.erase_set_comm _ hne]
  case tick jobId =>
    have hne : k ≠ jobId := fun e => by simp [ClientOp.jobEvent, e] at hev
    simp only [apply, tick, PyDict.get?_set, if_neg hne]
    split
    · simp only [PyDict.set_comm hk hne]
    · rfl
  case setJobClasses classes => cases classes <;> rfl
  all_goals
    simp only [apply, Outcome.map, programCreate, programUpdate, programDelete, setProgramVisibility]
    repeat' split
    all_goals rfl

theorem tick_apply_comm (b : Builtins) (c : FakeRuntimeClient) {op : ClientOp} (hop : ¬ op.names k) :
    ((c.tick k).apply b op).client = (c.apply b op).client.tick k := by
  have hslot := apply_get?_of_not_names b c hop
  cases hk : c.jobs.get? k with
  | none => rw [tick_of_get?_none hk, tick_of_get?_none (hslot.trans hk)]
  | some j => rw [tick_of_get? hk, tick_of_get? (hslot.trans hk), apply_set_job b c hop hk]

theorem run_tick_cons (b : Builtins) (c : FakeRuntimeClient) {mid : List ClientOp}
    (hmid : ∀ op ∈ mid, ¬ op.names k) : c.run b (.tick k :: mid) = (c.run b mid).tick k := by
  induction mid generalizing c with
  | nil => rfl
  | cons op mid ih =>
    have hop := hmid op (List.mem_cons_self _ _)
    calc c.run b (.tick k :: op :: mid)
        = ((c.apply b op).client.tick k).run b mid := by
          rw [run_cons, run_cons, ← tick_apply_comm b c hop]; rfl
      _ = ((c.apply b op).client.run b mid).tick k := ih _ fun op' h' => hmid op' (List.mem_cons_of_mem _ h')

end FakeRuntimeClient

/-- A step of a job's task can be moved across any calls that do not name the job: the client
reached is the same. -/
theorem task_step_moves_across_calls (b : Builtins) (c : FakeRuntimeClient) (pre mid post : List ClientOp)
    {k : String} (hmid : ∀ op ∈ mid, ¬ op.names k) :
    c.run b (pre ++ .tick k :: mid ++ post) = c.run b (pre ++ mid ++ .tick k :: post) := by
  simp only [FakeRuntimeClient.run_append, FakeRuntimeClient.run_tick_cons b _ hmid]
  rfl

theorem step_of_a_moves_across_calls_on_b :
    let pre := [ClientOp.programRun "prog" sampleCredentials "backend" "params" none "a" 0,
      .programRun "prog" sampleCredentials "backend" "params" none "b" 0]
    let mid := [ClientOp.tick "b", .jobCancel "b", .jobDelete "b"]
    (∀ op ∈ mid, ¬ op.names "a") ∧
      (FakeRuntimeClient.init [] none .empty none none none).run ⟨id, .ok⟩ (pre ++ .tick "a" :: mid ++ []) =
        (FakeRuntimeClient.init [] none .empty none none none).run ⟨id, .ok⟩ (pre ++ mid ++ .tick "a" :: []) :=
  ⟨by decide, task_step_moves_across_calls _ _ _ _ _ (by decide)⟩

end QiskitRuntime.Fake
