import QiskitRuntime.Fake.JobSlots

/-! How a fake job's life ends: the last status its task reaches, the result it leaves, and a
cancel reported from then on. -/

namespace QiskitRuntime.Fake

open QiskitRuntime.Python

/-- The status a class's task leaves after its last step: the last of `_job_progress`; for
`TimedRuntimeJob`, `COMPLETED`, or `RUNNING` when its `time.sleep` raised. -/
def JobClass.lastStatus (c : JobClass) (sleeps : Bool) : JobStatus :=
  match c with
  | .failedRuntimeJob => .failed
  | .failedRanTooLongRuntimeJob => .cancelledRanTooLong
  | .cancelableRuntimeJob => .running
  | .timedRuntimeJob => if sleeps then .completed else .running
  | _ => .completed

/-- The result a job created with `final_status=None` is left with once its task stopped: the
class's payload, or `None` for a `TimedRuntimeJob` whose `time.sleep` raised. -/
def JobClass.finalResult (c : JobClass) (sleeps : Bool) : Option String :=
  match c with
  | .timedRuntimeJob => if sleeps then settledResult c none else none
  | _ => settledResult c none

theorem replay_length_fst (c : JobClass) :
    ∀ sleeps, (replay c (c.task sleeps).length).1 = c.lastStatus sleeps := by
  cases c <;> decide

namespace FakeJob

theorem exec_replicate_progress (j : FakeJob) (m : Nat) :
    j.exec (List.replicate m .progress) = progress^[m] j := by
  induction m generalizing j with
  | zero => rfl
  | succ m ih => rw [List.replicate_succ, exec_cons, ih]; rfl

theorem iterate_progress_pending {j : FakeJob} (hf : j.future = some .pending) (hpc : j.pc = 0) (n : Nat) :
    (progress^[n + 1] j).future = some .started ∧
      (progress^[n + 1] j).pc = min n (j.cls.task j.args.sleeps).length ∧ (progress^[n + 1] j).cls = j.cls := by
  have start : j.progress = { j with future := some .started } := by simp [progress, hf]
  rw [Function.iterate_succ_apply, start]
  obtain ⟨h1, h2, h3⟩ := iterate_progress_saturates (j := { j with future := some .started }) rfl
    (by simp [hpc]) n
  exact ⟨h1, by rw [h2]; simp [hpc], h3⟩

theorem iterate_progress_cancelled (j : FakeJob) (n : Nat) : (progress^[n] j).cancelled = j.cancelled :=
  Function.Iterate.rec (fun j' => j'.cancelled = j.cancelled) (fun j' h => (progress_cancelled j').trans h) rfl n

theorem iterate_progress_writes {j : FakeJob} (hf : j.future = some .started) (m : Nat) :
    ((progress^[m] j).status, (progress^[m] j).result) =
      (((j.cls.task j.args.sleeps).drop j.pc).take m).foldl TaskStep.apply (j.status, j.result) := by
  induction m generalizing j with
  | zero => rfl
  | succ m ih =>
    rw [Function.iterate_succ_apply]
    cases hw : (j.cls.task j.args.sleeps)[j.pc]? with
    | none =>
      have idle : j.progress = j := by simp [progress, hf, hw]
      rw [idle, ih hf, List.drop_eq_nil_of_le (List.getElem?_eq_none_iff.1 hw), List.take_nil, List.take_nil]
    | some w =>
      obtain ⟨hlt, hw'⟩ := List.getElem?_eq_some_iff.1 hw
      have step : j.progress.future = some .started ∧ j.progress.pc = j.pc + 1 ∧ j.progress.cls = j.cls ∧
          (j.progress.status, j.progress.result) = w.apply (j.status, j.result) := by
        simp [progress, hf, hw]
      rw [ih step.1, step.2.1, step.2.2.1, progress_args, step.2.2.2, List.drop_eq_getElem_cons hlt, hw',
        List.take_succ_cons, List.foldl_cons]

theorem create_exec_progress (c : JobClass) (args : JobArgs) {early m : Nat}
    (h : c.autoProgress.length + 1 ≤ early + m) :
    ((create c args none early).exec (List.replicate m .progress)).future = some .started ∧
      ((create c args none early).exec (List.replicate m .progress)).pc = (c.task args.sleeps).length := by
  have hle := JobClass.task_length_le c args.sleeps
  rw [exec_replicate_progress]
  cases early with
  | zero =>
    obtain ⟨n, rfl⟩ : ∃ n, m = n + 1 := ⟨m - 1, by omega⟩
    obtain ⟨h1, h2, -⟩ := iterate_progress_pending (j := create c args none 0) rfl rfl n
    exact ⟨h1, by rw [h2, create_cls, create_args]; omega⟩
  | succ e =>
    obtain ⟨f1, f2, -⟩ := iterate_progress_pending (j := submitted c args) rfl rfl e
    have hpc : (create c args none (e + 1)).pc = min e (c.task args.sleeps).length := f2
    obtain ⟨h1, h2, -⟩ := iterate_progress_saturates (j := create c args none (e + 1)) f1
      (by rw [hpc, create_cls, create_args]; exact Nat.min_le_right _ _) m
    refine ⟨h1, ?_⟩
    rw [h2, hpc, create_cls, create_args]
    omega

theorem create_exec_progress_reported (c : JobClass) (args : JobArgs) {early m : Nat}
    (h : c.autoProgress.length + 1 ≤ early + m) :
    ((create c args none early).exec (List.replicate m .progress)).reportedStatus = c.lastStatus args.sleeps := by
  obtain ⟨hf, hpc⟩ := create_exec_progress c args h
  obtain ⟨-, hs⟩ := (exec_reported (create_statusTracks c args none early) (List.replicate m .progress)).1.resolve_left
    (by simp [hf])
  have hcancel : ((create c args none early).exec (List.replicate m .progress)).cancelled = false := by
    rw [exec_replicate_progress, iterate_progress_cancelled]
    exact iterate_progress_cancelled (submitted c args) early
  rw [reportedStatus_eq, if_neg (by simp [hcancel]), hs, hpc, exec_cls, create_cls]
  exact replay_length_fst c args.sleeps

theorem replay_rest_from_none (c : JobClass) : ∀ sleeps, ∀ n < c.autoProgress.length,
    n ≤ (c.task sleeps).length →
      (((c.task sleeps).drop n).foldl TaskStep.apply ((replay c n).1, .none)).2 =
        .ofOption (c.finalResult sleeps) := by
  cases c <;> decide

theorem create_exec_progress_results (c : JobClass) (args : JobArgs) {early m : Nat}
    (he : early ≤ c.autoProgress.length) (h : c.autoProgress.length + 1 ≤ early + m) :
    ((create c args none early).exec (List.replicate m .progress)).results =
      .ok (c.finalResult args.sleeps) := by
  have hle := JobClass.task_length_le c args.sleeps
  obtain ⟨j, k, hj, hf, hs, hr, rfl, rfl, hn, hnt, hk⟩ : ∃ (j : FakeJob) (k : Nat),
      progress^[m] (create c args none early) = progress^[k] j ∧ j.future = some .started ∧
      j.status = (replay c j.pc).1 ∧ j.result = .none ∧ j.cls = c ∧ j.args = args ∧
      j.pc < c.autoProgress.length ∧ j.pc ≤ (c.task args.sleeps).length ∧
      (c.task args.sleeps).length ≤ j.pc + k := by
    cases early with
    | zero =>
      obtain ⟨k, rfl⟩ : ∃ k, m = k + 1 := ⟨m - 1, by omega⟩
      exact ⟨_, k, Function.iterate_succ_apply .., rfl, rfl, rfl, rfl, rfl,
        show 0 < c.autoProgress.length by cases c <;> decide, Nat.zero_le _, show _ ≤ 0 + k by omega⟩
    | succ e =>
      obtain ⟨hf, hpc, -⟩ := iterate_progress_pending (j := submitted c args) rfl rfl e
      have hpc' : (create c args none (e + 1)).pc = min e (c.task args.sleeps).length := hpc
      have hf' : (create c args none (e + 1)).future = some .started := hf
      obtain ⟨-, hs⟩ := (create_statusTracks c args none (e + 1)).resolve_left (by simp [hf'])
      exact ⟨_, m, rfl, hf, by rw [hs, create_cls], rfl, create_cls .., create_args .., by omega,
        by omega, by omega⟩
  rw [exec_replicate_progress, hj]
  apply results_ofOption
  have hw := congrArg Prod.snd (iterate_progress_writes hf k)
  rw [List.take_of_length_le (by simp only [List.length_drop]; omega), hs, hr] at hw
  exact hw.trans (replay_rest_from_none _ _ _ hn hnt)

theorem exec_cancelled {j : FakeJob} (hc : j.cancelled = true) (hf : j.future ≠ none)
    (evs : List JobEvent) : (j.exec evs).cancelled = true ∧ (j.exec evs).future ≠ none := by
  induction evs generalizing j with
  | nil => exact ⟨hc, hf⟩
  | cons e evs ih =>
    rw [exec_cons]
    cases e with
    | progress => exact ih ((progress_cancelled j).trans hc) (progress_future_ne_none hf)
    | cancel =>
      rcases apply_cancel_cases j with h | ⟨-, _, -, h⟩ <;> rw [h]
      · exact ih hc hf
      · exact ih rfl (by simp)

end FakeJob

theorem jobEvents_eq_replicate {k : String} {ops : List ClientOp}
    (h : ∀ op ∈ ops, op.jobEvent k ≠ some .cancel) :
    ops.filterMap (·.jobEvent k) = List.replicate (ops.filterMap (·.jobEvent k)).length .progress := by
  refine List.eq_replicate_iff.2 ⟨rfl, fun e he => ?_⟩
  obtain ⟨op, hop, he⟩ := List.mem_filterMap.1 he
  cases e
  · rfl
  · exact absurd he (h op hop)

theorem programRun_run_get? (b : Builtins) (c : FakeRuntimeClient) (hs : c.finalStatus = none)
    (programId : String) (credentials : Credentials) (backendName params : String)
    (image : Option String) (jobId : String) (early : Nat) (ops : List ClientOp)
    (hrun : (c.programRun programId credentials backendName params image jobId early).result = .ok jobId)
    (hops : ∀ op ∈ ops, op.runId ≠ some jobId ∧ op.jobEvent jobId ≠ some .cancel ∧ op.deletes jobId = false) :
    ∃ args : JobArgs, args.runTime = c.jobKwargs.get? "run_time" ∧
      ((c.programRun programId credentials backendName params image jobId early).client.run b ops).jobs.get?
        jobId = some ((FakeJob.create (c.jobClasses.headD .baseFakeRuntimeJob) args none early).exec
          (List.replicate (ops.filterMap (·.jobEvent jobId)).length .progress)) := by
  obtain ⟨args, hargs, hj⟩ : ∃ args : JobArgs, args.runTime = c.jobKwargs.get? "run_time" ∧
      (c.programRun programId credentials backendName params image jobId early).client.jobs.get?
        jobId = some (FakeJob.create (c.jobClasses.headD .baseFakeRuntimeJob) args c.finalStatus early) := by
    revert hrun
    unfold FakeRuntimeClient.programRun
    dsimp only
    split
    · intro h; cases h
    · exact fun _ => ⟨_, rfl, (PyDict.get?_set ..).trans (if_pos rfl)⟩
  rw [hs] at hj
  have kept : ops.any (·.deletes jobId) = false := List.any_eq_false.2 fun op hop => by simp [(hops op hop).2.2]
  refine ⟨args, hargs, ?_⟩
  rw [FakeRuntimeClient.run_jobs_get? b _ ops (fun op hop => (hops op hop).1), ClientOp.jobSlotAfter_eq, hj, kept,
    if_neg Bool.false_ne_true, Option.map_some']
  exact congrArg (some ∘ (FakeJob.create _ args none early).exec)
    (jobEvents_eq_replicate fun op hop => (hops op hop).2.1)

/-- A job `program_run` registers with `final_status=None`, given one task step more than its class
has steps, reports its class's last status, `RUNNING` for a timed job whose sleep raised. -/
theorem job_reaches_last_status (b : Builtins) (c : FakeRuntimeClient) (hs : c.finalStatus = none)
    (programId : String) (credentials : Credentials) (backendName params : String)
    (image : Option String) (jobId : String) (early : Nat) (ops : List ClientOp)
    (hrun : (c.programRun programId credentials backendName params image jobId early).result = .ok jobId)
    (hops : ∀ op ∈ ops, op.runId ≠ some jobId ∧ op.jobEvent jobId ≠ some .cancel ∧ op.deletes jobId = false)
    (hsteps : (c.jobClasses.headD .baseFakeRuntimeJob).autoProgress.length + 1 ≤
      early + (ops.filterMap (·.jobEvent jobId)).length) :
    (((c.programRun programId credentials backendName params image jobId early).client.run b ops).jobGet
        jobId).map (·.status) =
      .ok ((c.jobClasses.headD .baseFakeRuntimeJob).lastStatus
        ((c.jobKwargs.get? "run_time").any sleepAccepts)).name := by
  obtain ⟨args, hargs, hj⟩ := programRun_run_get? b c hs programId credentials backendName params image jobId
    early ops hrun hops
  simp [FakeRuntimeClient.jobGet, FakeRuntimeClient.getJob, hj, Except.map, FakeJob.toDict_status,
    FakeJob.create_exec_progress_reported _ _ hsteps, JobArgs.sleeps, hargs, -List.headD_eq_head?_getD]

theorem negative_run_time_job_stays_running :
    let c := FakeRuntimeClient.init [.timedRuntimeJob] none (PyDict.ofList [("run_time", .int (-1))]) none none none
    let ops := [ClientOp.tick "job", .tick "job", .tick "job", .tick "job", .tick "job"]
    c.finalStatus = none ∧ (c.programRun "prog" sampleCredentials "backend" "params" none "job" 0).result = .ok "job" ∧
      (∀ op ∈ ops, op.runId ≠ some "job" ∧ op.jobEvent "job" ≠ some .cancel ∧ op.deletes "job" = false) ∧
      (c.jobClasses.headD .baseFakeRuntimeJob).autoProgress.length + 1 ≤
        0 + (ops.filterMap (·.jobEvent "job")).length ∧
      (((c.programRun "prog" sampleCredentials "backend" "params" none "job" 0).client.run ⟨id, .ok⟩ ops).jobGet
        "job").map (·.status) =
        .ok ((c.jobClasses.headD .baseFakeRuntimeJob).lastStatus
          ((c.jobKwargs.get? "run_time").any sleepAccepts)).name :=
  ⟨rfl, rfl, by decide, by decide,
    job_reaches_last_status _ _ rfl _ _ _ _ _ _ _ _ rfl (by decide) (by decide)⟩

example : JobClass.timedRuntimeJob.lastStatus (sleepAccepts (.int (-1))) = .running := rfl

/-- Under the same calls, when `self._result = None` ran before the task's last write, `job_results`
returns what the task stopped with. -/
theorem job_results_reach_payload (b : Builtins) (c : FakeRuntimeClient) (hs : c.finalStatus = none)
    (programId : String) (credentials : Credentials) (backendName params : String)
    (image : Option String) (jobId : String) (early : Nat) (ops : List ClientOp)
    (hrun : (c.programRun programId credentials backendName params image jobId early).result = .ok jobId)
    (hops : ∀ op ∈ ops, op.runId ≠ some jobId ∧ op.jobEvent jobId ≠ some .cancel ∧ op.deletes jobId = false)
    (hearly : early ≤ (c.jobClasses.headD .baseFakeRuntimeJob).autoProgress.length)
    (hsteps : (c.jobClasses.headD .baseFakeRuntimeJob).autoProgress.length + 1 ≤
      early + (ops.filterMap (·.jobEvent jobId)).length) :
    ((c.programRun programId credentials backendName params image jobId early).client.run b ops).jobResults
      jobId = .ok ((c.jobClasses.headD .baseFakeRuntimeJob).finalResult
        ((c.jobKwargs.get? "run_time").any sleepAccepts)) := by
  obtain ⟨args, hargs, hj⟩ := programRun_run_get? b c hs programId credentials backendName params image jobId
    early ops hrun hops
  rw [FakeRuntimeClient.jobResults, FakeRuntimeClient.getJob, hj, ← hargs]
  exact FakeJob.create_exec_progress_results _ _ hearly hsteps

theorem custom_result_after_reset :
    let c := FakeRuntimeClient.init [.customResultRuntimeJob] none .empty none none none
    let ops := [ClientOp.jobGet "job", .tick "job"]
    c.finalStatus = none ∧ (c.programRun "prog" sampleCredentials "backend" "params" none "job" 5).result = .ok "job" ∧
      (∀ op ∈ ops, op.runId ≠ some "job" ∧ op.jobEvent "job" ≠ some .cancel ∧ op.deletes "job" = false) ∧
      5 ≤ (c.jobClasses.headD .baseFakeRuntimeJob).autoProgress.length ∧
      (c.jobClasses.headD .baseFakeRuntimeJob).autoProgress.length + 1 ≤
        5 + (ops.filterMap (·.jobEvent "job")).length ∧
      ((c.programRun "prog" sampleCredentials "backend" "params" none "job" 5).client.run ⟨id, .ok⟩ ops).jobResults
        "job" = .ok ((c.jobClasses.headD .baseFakeRuntimeJob).finalResult
          ((c.jobKwargs.get? "run_time").any sleepAccepts)) :=
  ⟨rfl, rfl, by decide, by decide, by decide,
    job_results_reach_payload _ _ rfl _ _ _ _ _ _ _ _ rfl (by decide) (by decide) (by decide)⟩

namespace FakeRuntimeClient

theorem jobCancel_ok {c : FakeRuntimeClient} {k : String} (h : (c.jobCancel k).result = .ok ()) :
    ∃ j f, c.jobs.get? k = some j ∧ j.cls = .cancelableRuntimeJob ∧ j.future = some f ∧
      (c.jobCancel k).client.jobs.get? k = some { j with future := some f.cancel, cancelled := true } := by
  rw [jobCancel_get?]
  unfold jobCancel getJob at h
  cases hj : c.jobs.get? k with
  | none => simp [hj] at h
  | some j =>
    rw [hj] at h
    cases hcan : j.cancel with
    | error e => simp [hcan] at h
    | ok j' =>
      unfold FakeJob.cancel at hcan
      split at hcan
      · rename_i hc
        split at hcan
        · rename_i f hf
          cases hcan
          exact ⟨j, f, rfl, hc, hf, by simp [FakeJob.apply, FakeJob.cancel, hc, hf]⟩
        · cases hcan
      · cases hcan

theorem cancelled_run_get? (b : Builtins) {c : FakeRuntimeClient} {k : String}
    (hc : (c.jobCancel k).result = .ok ()) (ops : List ClientOp)
    (hops : ∀ op ∈ ops, op.runId ≠ some k ∧ op.deletes k = false) :
    ∃ j, ((c.jobCancel k).client.run b ops).jobs.get? k = some j ∧ j.cls = .cancelableRuntimeJob ∧
      j.cancelled = true ∧ j.future ≠ none := by
  obtain ⟨j, f, -, hcls, -, hj⟩ := jobCancel_ok hc
  have kept : ops.any (·.deletes k) = false := List.any_eq_false.2 fun op hop => by simp [(hops op hop).2]
  rw [run_jobs_get? b _ ops (fun op hop => (hops op hop).1), ClientOp.jobSlotAfter_eq, hj, kept,
    if_neg Bool.false_ne_true, Option.map_some']
  exact ⟨_, rfl, (FakeJob.exec_cls ..).trans hcls, FakeJob.exec_cancelled rfl (by simp) _⟩

end FakeRuntimeClient

/-- A `job_cancel` that succeeded is reported from then on, while the task may keep writing
underneath. -/
theorem cancelled_job_stays_cancelled (b : Builtins) (c : FakeRuntimeClient) (k : String)
    (hc : (c.jobCancel k).result = .ok ()) (ops : List ClientOp)
    (hops : ∀ op ∈ ops, op.runId ≠ some k ∧ op.deletes k = false) :
    (((c.jobCancel k).client.run b ops).jobGet k).map (·.status) = .ok "CANCELLED" := by
  obtain ⟨j, hj, hcls, hcan, -⟩ := FakeRuntimeClient.cancelled_run_get? b hc ops hops
  have hr : j.reportedStatus = .cancelled := by rw [FakeJob.reportedStatus_eq, if_pos ⟨hcls, hcan⟩]
  simp [FakeRuntimeClient.jobGet, FakeRuntimeClient.getJob, hj, Except.map, FakeJob.toDict_status, hr,
    JobStatus.name]

theorem cancel_reported_while_task_runs :
    let c := ((FakeRuntimeClient.init [.cancelableRuntimeJob] none .empty none none none).programRun "prog"
      sampleCredentials "backend" "params" none "job" 2).client
    let ops := [ClientOp.tick "job", .jobGet "job", .tick "job"]
    (c.jobCancel "job").result = .ok () ∧ (∀ op ∈ ops, op.runId ≠ some "job" ∧ op.deletes "job" = false) ∧
      (((c.jobCancel "job").client.run ⟨id, .ok⟩ ops).jobGet "job").map (·.status) = .ok "CANCELLED" :=
  ⟨rfl, by decide, cancelled_job_stays_cancelled _ _ _ (by rfl) _ (by decide)⟩

/-- A cancelled job is still listed as pending: `jobs_get` filters on the `_status` its task writes. -/
theorem cancelled_job_listed_as_pending {c : FakeRuntimeClient} (h : Reachable c) (b : Builtins)
    {k : String} (hc : (c.jobCancel k).result = .ok ()) (ops : List ClientOp)
    (hops : ∀ op ∈ ops, op.runId ≠ some k ∧ op.deletes k = false) :
    let c' := (c.jobCancel k).client.run b ops
    (∃ d ∈ (c'.jobsGet none none (some true) none none none none).jobs, d.id = k ∧ d.status = "CANCELLED") ∧
      ∀ d ∈ (c'.jobsGet none none (some false) none none none none).jobs, d.id ≠ k := by
  intro c'
  have hr : Reachable c' := reachable_run b (.step b (.jobCancel k) h) ops
  obtain ⟨j, hj, hcls, hcan, hf⟩ := FakeRuntimeClient.cancelled_run_get? b hc ops hops
  obtain ⟨hle, hs⟩ := (hr.statusTracks hj).resolve_left hf
  have hpend : j.status = .queued ∨ j.status = .running := by
    rw [hs, hcls]
    exact JobStatus.eq_of_rank_le_one (replay_cancelable_pending _ (hcls ▸ hle)).1
  have hlist : ∀ p : Option Bool, (c'.jobsGet none none p none none none none).jobs =
      (c'.jobs.values.filter fun j => !p.isSome ||
        (if p = some true then pendingStatuses else returnedStatuses).contains j.status.name).map FakeJob.toDict := by
    intro p
    simp only [FakeRuntimeClient.jobsGet, FakeRuntimeClient.filterIf_eq, orNum, truthyStr, Bool.not_false,
      Bool.true_or, Bool.false_and, List.filter_true, List.drop_zero]
    rw [List.take_of_length_le (List.length_filter_le _ _)]
  refine ⟨⟨j.toDict, ?_, by rw [FakeJob.toDict_id, hr.job_id hj], ?_⟩, fun d hd hk => ?_⟩
  · rw [hlist]
    refine List.mem_map_of_mem _ (List.mem_filter.2 ⟨List.mem_map_of_mem Prod.snd (PyDict.mem_of_get? hj), ?_⟩)
    rcases hpend with h' | h' <;> simp [h', pendingStatuses, JobStatus.name]
  · rw [FakeJob.toDict_status, FakeJob.reportedStatus_eq, if_pos ⟨hcls, hcan⟩]
    rfl
  · rw [hlist] at hd
    obtain ⟨j₂, hj₂, rfl⟩ := List.mem_map.1 hd
    obtain ⟨hv, hret⟩ := List.mem_filter.1 hj₂
    obtain ⟨⟨k₂, j₂⟩, he, rfl⟩ := List.mem_map.1 hv
    have hget := PyDict.get?_of_mem _ he
    obtain rfl : k₂ = k := (hr.job_id hget).symm.trans ((FakeJob.toDict_id _).symm.trans hk)
    obtain rfl : j₂ = j := Option.some.inj (hget.symm.trans hj)
    rcases hpend with h' | h' <;> simp [h', returnedStatuses, JobStatus.name] at hret

theorem cancelled_job_in_pending_listing :
    let c := ((FakeRuntimeClient.init [.cancelableRuntimeJob] none .empty none none none).apply ⟨id, .ok⟩
      (.programRun "prog" sampleCredentials "backend" "params" none "job" 2)).client
    let ops := [ClientOp.tick "job"]
    Reachable c ∧ (c.jobCancel "job").result = .ok () ∧
      (∀ op ∈ ops, op.runId ≠ some "job" ∧ op.deletes "job" = false) ∧
      let c' := (c.jobCancel "job").client.run ⟨id, .ok⟩ ops
      (∃ d ∈ (c'.jobsGet none none (some true) none none none none).jobs, d.id = "job" ∧ d.status = "CANCELLED") ∧
        ∀ d ∈ (c'.jobsGet none none (some false) none none none none).jobs, d.id ≠ "job" :=
  ⟨.step _ _ (.init ..), rfl, by decide,
    @cancelled_job_listed_as_pending _
      (.step ⟨id, .ok⟩ (.programRun "prog" sampleCredentials "backend" "params" none "job" 2) (.init ..))
      ⟨id, .ok⟩ "job" (by rfl) [.tick "job"] (by decide)⟩

end QiskitRuntime.Fake
