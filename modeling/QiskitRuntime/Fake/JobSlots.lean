import QiskitRuntime.Fake.Listing
import QiskitRuntime.Fake.ClassQueue

/-! The fake client's registry one job id at a time: over a run that does not draw `k` again, the
job under `k` makes its own task steps and cancels. -/

namespace QiskitRuntime.Fake

open QiskitRuntime.Python

namespace FakeJob

theorem toDict_id (j : FakeJob) : j.toDict.id = j.args.jobId := by
  unfold toDict
  split
  · dsimp only
    split <;> rfl
  · rfl

end FakeJob

namespace ClientOp

def jobEvent (k : String) : ClientOp → Option JobEvent
  | .jobCancel jobId => if jobId = k then some .cancel else none
  | .tick jobId => if jobId = k then some .progress else none
  | _ => none

def deletes (k : String) : ClientOp → Bool
  | .jobDelete jobId => jobId = k
  | _ => false

def jobSlot (k : String) (slot : Option FakeJob) (op : ClientOp) : Option FakeJob :=
  if op.deletes k then none
  else match op.jobEvent k with
    | some e => slot.map (·.apply e)
    | none => slot

def jobSlotAfter (k : String) (slot : Option FakeJob) (ops : List ClientOp) : Option FakeJob :=
  ops.foldl (jobSlot k) slot

theorem jobSlot_none (k : String) (op : ClientOp) : op.jobSlot k none = none := by
  unfold jobSlot
  split
  · rfl
  · split <;> rfl

theorem jobSlotAfter_none (k : String) (ops : List ClientOp) : jobSlotAfter k none ops = none := by
  induction ops with
  | nil => rfl
  | cons op ops ih => rw [jobSlotAfter, List.foldl_cons, jobSlot_none]; exact ih

theorem jobSlotAfter_eq (k : String) (slot : Option FakeJob) (ops : List ClientOp) :
    jobSlotAfter k slot ops =
      if ops.any (·.deletes k) then none else slot.map (·.exec (ops.filterMap (·.jobEvent k))) := by
  induction ops generalizing slot with
  | nil => cases slot <;> rfl
  | cons op ops ih =>
    rw [jobSlotAfter, List.foldl_cons, ← jobSlotAfter]
    by_cases hd : op.deletes k
    · simp [jobSlot, hd, jobSlotAfter_none]
    · rw [ih]
      cases he : op.jobEvent k <;> cases slot <;> simp [jobSlot, hd, he, List.filterMap_cons]

theorem jobSlot_some {k : String} {slot : Option FakeJob} {op : ClientOp} {j : FakeJob}
    (h : op.jobSlot k slot = some j) : ∃ j₀, slot = some j₀ ∧ j.args = j₀.args := by
  unfold jobSlot at h
  split at h
  · cases h
  · split at h
    · obtain ⟨j₀, h₀, rfl⟩ := Option.map_eq_some'.1 h
      exact ⟨j₀, h₀, FakeJob.apply_args ..⟩
    · exact ⟨j, h, rfl⟩

end ClientOp

namespace FakeRuntimeClient

variable {c : FakeRuntimeClient}

theorem jobCancel_get? (jobId : String) :
    (c.jobCancel jobId).client.jobs.get? jobId = (c.jobs.get? jobId).map (·.apply .cancel) := by
  unfold jobCancel getJob
  cases h : c.jobs.get? jobId with
  | none => simp [h]
  | some j => cases hc : j.cancel <;> simp [h, hc, FakeJob.apply]

theorem apply_jobs_get? (b : Builtins) (c : FakeRuntimeClient) (op : ClientOp) (k : String) :
    (c.apply b op).client.jobs.get? k = op.jobSlot k (c.jobs.get? k) ∨
      ∃ cls args early, op.runId = some k ∧ args.jobId = k ∧
        (c.apply b op).client.jobs.get? k = some (FakeJob.create cls args c.finalStatus early) := by
  cases op
  case programRun programId credentials backendName params image jobId early =>
    simp only [apply, Outcome.map, programRun]
    split
    · exact .inl rfl
    · by_cases hk : jobId = k
      · subst hk
        refine .inr ⟨_, _, early, rfl, ?_, (PyDict.get?_set ..).trans (if_pos rfl)⟩
        rfl
      · exact .inl ((PyDict.get?_set ..).trans (if_neg hk))
  case jobCancel jobId =>
    refine .inl ?_
    by_cases hk : jobId = k
    · subst hk
      simpa [ClientOp.jobSlot, ClientOp.deletes, ClientOp.jobEvent] using jobCancel_get? jobId
    · simp only [ClientOp.jobSlot, ClientOp.deletes, ClientOp.jobEvent, hk, if_false, decide_False,
        Bool.false_eq_true]
      rcases jobCancel_jobs (c := c) jobId with h | ⟨j, -, h⟩ <;> simp [apply, Outcome.map, h, hk]
  case jobDelete jobId =>
    refine .inl ?_
    by_cases hk : jobId = k
    · subst hk
      unfold apply Outcome.map jobDelete getJob
      cases h : c.jobs.get? jobId <;> simp [h, ClientOp.jobSlot, ClientOp.deletes]
    · simp only [ClientOp.jobSlot, ClientOp.deletes, ClientOp.jobEvent, hk, decide_False,
        Bool.false_eq_true, if_false]
      rcases jobDelete_jobs (c := c) jobId with h | h <;> simp [apply, Outcome.map, h, hk]
  case tick jobId =>
    refine .inl ?_
    simp only [apply, tick, ClientOp.jobSlot, ClientOp.deletes, ClientOp.jobEvent, Bool.false_eq_true,
      if_false]
    by_cases hk : jobId = k
    · subst hk
      cases h : c.jobs.get? jobId <;> simp [h, FakeJob.apply]
    · split <;> simp [hk]
  -- every other call keeps the registry
  all_goals
    refine .inl ?_
    simp only [ClientOp.jobSlot, ClientOp.deletes, ClientOp.jobEvent, Bool.false_eq_true, if_false,
      apply, Outcome.map, programCreate, programUpdate, programDelete, setProgramVisibility, setJobClasses]
    repeat' split
    all_goals rfl

theorem run_jobs_get? (b : Builtins) (c : FakeRuntimeClient) (ops : List ClientOp) {k : String}
    (h : ∀ op ∈ ops, op.runId ≠ some k) :
    (c.run b ops).jobs.get? k = ClientOp.jobSlotAfter k (c.jobs.get? k) ops := by
  induction ops generalizing c with
  | nil => rfl
  | cons op ops ih =>
    rw [run_cons, ih _ fun op' h' => h op' (List.mem_cons_of_mem _ h')]
    rcases apply_jobs_get? b c op k with h1 | ⟨_, _, _, hr, -, -⟩
    · rw [h1]; rfl
    · exact absurd hr (h op (List.mem_cons_self _ _))

end FakeRuntimeClient

/-- Over any run that does not draw `k` again, the job under `k` has made exactly the task steps and
cancels of the calls naming it, until `job_delete(k)` removes it for good. -/
theorem job_slot_runs_own_events (b : Builtins) (c : FakeRuntimeClient) (ops : List ClientOp)
    {k : String} (h : ∀ op ∈ ops, op.runId ≠ some k) :
    (c.run b ops).jobs.get? k =
      if ops.any (·.deletes k) then none
      else (c.jobs.get? k).map (·.exec (ops.filterMap (·.jobEvent k))) := by
  rw [FakeRuntimeClient.run_jobs_get? b c ops h, ClientOp.jobSlotAfter_eq]

theorem tick_steps_job_among_other_calls :
    let c := ((FakeRuntimeClient.init [] none .empty none none none).programRun "prog" sampleCredentials
      "backend" "params" none "job" 0).client
    let ops := [ClientOp.tick "job", .jobCancel "other", .jobDelete "other", .tick "job"]
    (∀ op ∈ ops, op.runId ≠ some "job") ∧
      (c.run ⟨id, .ok⟩ ops).jobs.get? "job" =
        if ops.any (·.deletes "job") then none
        else (c.jobs.get? "job").map (·.exec (ops.filterMap (·.jobEvent "job"))) :=
  ⟨by decide, job_slot_runs_own_events _ _ _ (by decide)⟩

theorem Reachable.job_id {c : FakeRuntimeClient} (h : Reachable c) {k : String} {j : FakeJob}
    (hj : c.jobs.get? k = some j) : j.args.jobId = k := by
  induction h generalizing j with
  | init => simp [FakeRuntimeClient.init] at hj
  | @step c b op _ ih =>
    rcases FakeRuntimeClient.apply_jobs_get? b c op k with h1 | ⟨cls, args, early, -, hid, h1⟩ <;>
      rw [h1] at hj
    · obtain ⟨j₀, h₀, ha⟩ := ClientOp.jobSlot_some hj
      rw [ha]
      exact ih h₀
    · cases hj
      simpa using hid

/-- On every reachable client, `job_get(k)` reports the id `k` for a registered job, and no two
jobs a `jobs_get` call lists share an id. -/
theorem Reachable.jobs_get_ids_distinct {c : FakeRuntimeClient} (h : Reachable c)
    (limit skip : Option Nat) (pending : Option Bool) (programId hub group project : Option String) :
    ((c.jobsGet limit skip pending programId hub group project).jobs.map (·.id)).Nodup ∧
      ∀ k j, c.jobs.get? k = some j → (c.jobGet k).map (·.id) = .ok k := by
  have ids : ∀ e ∈ c.jobs.entries, e.2.args.jobId = e.1 := fun e he => h.job_id (PyDict.get?_of_mem _ he)
  have values : (c.jobs.values.map (·.args.jobId)).Nodup := by
    rw [PyDict.values, List.map_map]
    exact (List.map_congr_left ids).symm ▸ c.jobs.nodup
  refine ⟨?_, fun k j hj => ?_⟩
  · simp only [FakeRuntimeClient.jobsGet, FakeRuntimeClient.filterIf_eq, List.map_map]
    rw [show (·.id) ∘ FakeJob.toDict = (·.args.jobId) from funext FakeJob.toDict_id]
    exact values.sublist (List.Sublist.map _ (((List.take_sublist _ _).trans (List.drop_sublist _ _)).trans
      ((List.filter_sublist _).trans ((List.filter_sublist _).trans (List.filter_sublist _)))))
  · simp [FakeRuntimeClient.jobGet, FakeRuntimeClient.getJob, hj, Except.map, FakeJob.toDict_id, h.job_id hj]

theorem run_job_listed_once :
    let c := ((FakeRuntimeClient.init [] none .empty none none none).apply ⟨id, .ok⟩
      (.programRun "prog" sampleCredentials "backend" "params" none "job" 0)).client
    Reachable c ∧ ((c.jobsGet none none none none none none none).jobs.map (·.id)).Nodup ∧
      ∀ k j, c.jobs.get? k = some j → (c.jobGet k).map (·.id) = .ok k :=
  ⟨.step _ _ (.init ..), Reachable.jobs_get_ids_distinct (.step _ _ (.init ..)) none none none none none none none⟩

/-- On every reachable client, the status `job_get(k)` reports only moves forward while no
`program_run` draws `k` again. -/
theorem Reachable.reported_status_moves_on {c : FakeRuntimeClient} (h : Reachable c) (b : Builtins)
    (ops : List ClientOp) {k : String} {j j' : FakeJob} (hj : c.jobs.get? k = some j)
    (hj' : (c.run b ops).jobs.get? k = some j') (hfresh : ∀ op ∈ ops, op.runId ≠ some k) :
    StatusLe j.reportedStatus j'.reportedStatus := by
  rw [FakeRuntimeClient.run_jobs_get? b c ops hfresh, ClientOp.jobSlotAfter_eq, hj] at hj'
  split at hj'
  · cases hj'
  · cases hj'
    exact (FakeJob.exec_reported (h.statusTracks hj) _).2

theorem two_ticks_move_job_on :
    let c := ((FakeRuntimeClient.init [] none .empty none none none).apply ⟨id, .ok⟩
      (.programRun "prog" sampleCredentials "backend" "params" none "job" 0)).client
    let j := FakeJob.create .baseFakeRuntimeJob ⟨"job", "prog", none, none, none, "backend", "params", none, none⟩ none 0
    let ops := [ClientOp.tick "job", .jobGet "job", .tick "job"]
    Reachable c ∧ c.jobs.get? "job" = some j ∧ (c.run ⟨id, .ok⟩ ops).jobs.get? "job" = some j.progress.progress ∧
      (∀ op ∈ ops, op.runId ≠ some "job") ∧ StatusLe j.reportedStatus j.progress.progress.reportedStatus :=
  ⟨.step _ _ (.init ..), rfl, rfl, by decide,
    @Reachable.reported_status_moves_on _
      (.step ⟨id, .ok⟩ (.programRun "prog" sampleCredentials "backend" "params" none "job" 0)
        (.init [] none .empty none none none)) ⟨id, .ok⟩ [.tick "job", .jobGet "job", .tick "job"] "job" _ _ rfl rfl
      (by decide)⟩

theorem TaskStep.apply_result_ne_unassigned (w : TaskStep) {s : JobStatus} {r : ResultAttr}
    (h : r ≠ .unassigned) : (w.apply (s, r)).2 ≠ .unassigned := by
  cases w with
  | resultIf s' p => simp only [TaskStep.apply]; split <;> simp [h]
  | _ => exact h

theorem FakeJob.apply_result_ne_unassigned {j : FakeJob} (h : j.result ≠ .unassigned) (e : JobEvent) :
    (j.apply e).result ≠ .unassigned := by
  cases e
  · rcases FakeJob.progress_cases j with h1 | ⟨-, h1⟩ | ⟨-, w, -, h1⟩ <;> rw [FakeJob.apply, h1]
    · exact h
    · exact h
    · exact w.apply_result_ne_unassigned h
  · rcases FakeJob.apply_cancel_cases j with h1 | ⟨-, _, -, h1⟩ <;> rw [h1] <;> exact h

theorem FakeJob.exec_result_ne_unassigned {j : FakeJob} (h : j.result ≠ .unassigned) (evs : List JobEvent) :
    (j.exec evs).result ≠ .unassigned := by
  induction evs generalizing j with
  | nil => exact h
  | cons e evs ih => exact ih (FakeJob.apply_result_ne_unassigned h e)

/-- On every reachable client, `job_results(k)` raises only 404 for an unknown id, or
`AttributeError` for a job created under a final status other than `COMPLETED`. -/
theorem Reachable.job_results_errors {c : FakeRuntimeClient} (h : Reachable c) {k : String}
    {e : PyException} (he : c.jobResults k = .error e) :
    (c.jobs.get? k = none ∧ e = jobNotFound) ∨
      ∃ j, c.jobs.get? k = some j ∧ j.future = none ∧ j.status ≠ .completed ∧
        e = .attributeError ("'" ++ j.cls.name ++ "' object has no attribute '_result'") := by
  cases hj : c.jobs.get? k with
  | none =>
    simp only [FakeRuntimeClient.jobResults, FakeRuntimeClient.getJob, hj] at he
    exact .inl ⟨rfl, (Except.error.inj he).symm⟩
  | some j =>
    have hr : j.results = .error e := by
      simpa [FakeRuntimeClient.jobResults, FakeRuntimeClient.getJob, hj] using he
    refine .inr ⟨j, rfl, ?_⟩
    obtain ⟨cls, args, fs, early, evs, rfl⟩ := h.job_history hj
    cases fs with
    | none =>
      have ha := FakeJob.exec_result_ne_unassigned (j := FakeJob.create cls args none early)
        (by simp [FakeJob.create]) evs
      revert hr ha
      unfold FakeJob.results
      split <;> simp_all
    | some s =>
      rw [FakeJob.exec_of_unsubmitted rfl] at hr ⊢
      by_cases hs : s = .completed <;> simp_all [FakeJob.create, FakeJob.results]

theorem failed_final_status_results_raise :
    let c := ((FakeRuntimeClient.init [] (some .failed) .empty none none none).apply ⟨id, .ok⟩
      (.programRun "prog" sampleCredentials "backend" "params" none "job" 0)).client
    Reachable c ∧
      c.jobResults "job" = .error (.attributeError "'BaseFakeRuntimeJob' object has no attribute '_result'") ∧
      ((c.jobs.get? "job" = none ∧
          PyException.attributeError "'BaseFakeRuntimeJob' object has no attribute '_result'" = jobNotFound) ∨
        ∃ j, c.jobs.get? "job" = some j ∧ j.future = none ∧ j.status ≠ .completed ∧
          PyException.attributeError "'BaseFakeRuntimeJob' object has no attribute '_result'" =
            .attributeError ("'" ++ j.cls.name ++ "' object has no attribute '_result'")) :=
  ⟨.step _ _ (.init ..), rfl, Reachable.job_results_errors (.step _ _ (.init ..)) rfl⟩

def completedClient : FakeRuntimeClient :=
  FakeRuntimeClient.init [.cancelableRuntimeJob] (some .completed) .empty none none none

/-- A job registered under a final status `s` has no task: it reports `s`, and stays exactly so
until `job_delete` removes it. -/
theorem final_status_job_is_frozen (b : Builtins) (c : FakeRuntimeClient) {s : JobStatus}
    (hs : c.finalStatus = some s) (programId : String) (credentials : Credentials)
    (backendName params : String) (image : Option String) (jobId : String) (early : Nat)
    (ops : List ClientOp)
    (hrun : (c.programRun programId credentials backendName params image jobId early).result = .ok jobId)
    (hfresh : ∀ op ∈ ops, op.runId ≠ some jobId) :
    let c₁ := (c.programRun programId credentials backendName params image jobId early).client
    ∃ j, c₁.jobs.get? jobId = some j ∧ j.reportedStatus = s ∧
      j.results = (if s = .completed then .ok (some jsonFoo)
        else .error (.attributeError ("'" ++ j.cls.name ++ "' object has no attribute '_result'"))) ∧
      (c₁.run b ops).jobs.get? jobId = if ops.any (·.deletes jobId) then none else some j := by
  intro c₁
  have hreg : ∃ cls args, c₁.jobs.get? jobId = some (FakeJob.create cls args c.finalStatus early) := by
    revert hrun
    unfold c₁ FakeRuntimeClient.programRun
    dsimp only
    split
    · intro h; cases h
    · exact fun _ => ⟨_, _, (PyDict.get?_set ..).trans (if_pos rfl)⟩
  obtain ⟨cls, args, hj⟩ := hreg
  rw [hs] at hj
  refine ⟨_, hj, by simp [FakeJob.create, FakeJob.reportedStatus_eq], ?_, ?_⟩
  · by_cases h : s = .completed <;> simp [FakeJob.create, FakeJob.results, h]
  · rw [FakeRuntimeClient.run_jobs_get? b c₁ ops hfresh, ClientOp.jobSlotAfter_eq, hj]
    simp [FakeJob.exec_of_unsubmitted (rfl : (FakeJob.create cls args (some s) early).future = none)]

theorem completed_job_survives_its_calls :
    completedClient.finalStatus = some .completed ∧
      (completedClient.programRun "prog" sampleCredentials "backend" "params" none "job" 0).result = .ok "job" ∧
      (∀ op ∈ [ClientOp.tick "job", .jobCancel "job", .setFinalStatus none], op.runId ≠ some "job") ∧
      let c₁ := (completedClient.programRun "prog" sampleCredentials "backend" "params" none "job" 0).client
      ∃ j, c₁.jobs.get? "job" = some j ∧ j.reportedStatus = .completed ∧
        j.results = (if JobStatus.completed = .completed then .ok (some jsonFoo)
          else .error (.attributeError ("'" ++ j.cls.name ++ "' object has no attribute '_result'"))) ∧
        (c₁.run ⟨id, .ok⟩ [.tick "job", .jobCancel "job", .setFinalStatus none]).jobs.get? "job" =
          if [ClientOp.tick "job", .jobCancel "job", .setFinalStatus none].any (·.deletes "job") then none
          else some j :=
  ⟨rfl, rfl, by decide,
    final_status_job_is_frozen ⟨id, .ok⟩ completedClient rfl "prog" sampleCredentials "backend" "params" none
      "job" 0 _ rfl (by decide)⟩

/-! Which `job_kwargs` a job class accepts. -/

end QiskitRuntime.Fake
