import QiskitRuntime.Fake.Programs

/-! `jobs_get` and `list_programs` against the listings they are described as. -/

namespace QiskitRuntime.Fake

open QiskitRuntime.Python

def describedStatuses : Bool → List JobStatus
  | true => [.queued, .running]
  | false => [.completed, .failed, .cancelled, .cancelledRanTooLong]

namespace FakeRuntimeClient

/-- `jobs_get` as it is described: it filters on the status `job_get` reports. -/
def jobsGetSpec (c : FakeRuntimeClient) (limit skip : Option Nat) (pending : Option Bool)
    (programId hub group project : Option String) : JobList :=
  let passes (j : FakeJob) : Bool :=
    (match pending with
      | some p => (describedStatuses p).contains j.reportedStatus
      | none => true) &&
    (!truthyStr programId || some j.args.programId == programId) &&
    (!(truthyStr hub && truthyStr group && truthyStr project) ||
      (j.args.hub == hub && j.args.group == group && j.args.project == project))
  let jobs := c.jobs.values.filter passes
  { jobs := ((jobs.drop (orNum 0 skip 0)).take (orNum 0 limit c.jobs.values.length)).map FakeJob.toDict,
    count := jobs.length }

theorem filterIf_eq (a : Bool) (f : FakeJob → Bool) (l : List FakeJob) :
    filterIf a f l = l.filter fun j => !a || f j := by
  cases a <;> simp [filterIf]

theorem pending_stage_eq {j : FakeJob}
    (h : j.reportedStatus = j.status ∧ j.status ≠ .cancelledRanTooLong) (pending : Option Bool) :
    (!pending.isSome ||
        (if pending = some true then pendingStatuses else returnedStatuses).contains j.status.name) =
      match pending with
      | some p => (describedStatuses p).contains j.reportedStatus
      | none => true := by
  rw [h.1]
  cases pending with
  | none => rfl
  | some p => cases p <;> cases hs : j.status <;> first | decide | exact absurd hs h.2

/-- Where no registered job is a cancelled `CancelableRuntimeJob` or has status
`CANCELLED - RAN TOO LONG`, `jobs_get` is the described listing. -/
theorem jobsGet_eq_spec (c : FakeRuntimeClient) (limit skip : Option Nat) (pending : Option Bool)
    (programId hub group project : Option String)
    (h : ∀ j ∈ c.jobs.values, j.reportedStatus = j.status ∧ j.status ≠ .cancelledRanTooLong) :
    c.jobsGet limit skip pending programId hub group project =
      c.jobsGetSpec limit skip pending programId hub group project := by
  simp only [jobsGet, jobsGetSpec, filterIf_eq, List.filter_filter]
  rw [List.filter_congr (fun j hj => by rw [pending_stage_eq (h j hj)])]
  simp only [Bool.and_comm, Bool.and_left_comm]

def jobsMatching (c : FakeRuntimeClient) (pending : Option Bool) (programId hub group project : Option String) :
    List FakeJob :=
  filterIf (truthyStr hub && truthyStr group && truthyStr project)
    (fun j => j.args.hub == hub && j.args.group == group && j.args.project == project)
    (filterIf (truthyStr programId) (fun j => some j.args.programId == programId)
      (filterIf pending.isSome (fun j =>
        (if pending = some true then pendingStatuses else returnedStatuses).contains j.status.name) c.jobs.values))

theorem jobsGet_eq (c : FakeRuntimeClient) (limit skip : Option Nat) (pending : Option Bool)
    (programId hub group project : Option String) :
    c.jobsGet limit skip pending programId hub group project =
      { jobs := (((c.jobsMatching pending programId hub group project).drop (orNum 0 skip 0)).take
          (orNum 0 limit c.jobs.values.length)).map FakeJob.toDict,
        count := (c.jobsMatching pending programId hub group project).length } := rfl

theorem jobsMatching_length_le (c : FakeRuntimeClient) (pending : Option Bool)
    (programId hub group project : Option String) :
    (c.jobsMatching pending programId hub group project).length ≤ c.jobs.values.length := by
  simp only [jobsMatching, filterIf_eq]
  exact ((List.filter_sublist _).trans ((List.filter_sublist _).trans (List.filter_sublist _))).length_le

end FakeRuntimeClient

theorem flatMap_range_windows {α β : Type} (f : α → β) (l : List α) (size n : Nat) :
    (List.range n).flatMap (fun i => ((l.drop (i * size)).take size).map f) = (l.take (n * size)).map f := by
  induction n with
  | zero => simp
  | succ n ih => rw [Nat.succ_mul, List.take_add, List.map_append, ← ih, List.range_succ, List.flatMap_append]; simp

/-- Pages of `size > 0` jobs at skips `0, size, 2 * size, ...` that cover the `count` together are
the listing without `limit` and `skip`. -/
theorem jobs_get_pages_cover (c : FakeRuntimeClient) {size n : Nat} (hsize : 0 < size)
    (pending : Option Bool) (programId hub group project : Option String)
    (hn : (c.jobsGet none none pending programId hub group project).count ≤ n * size) :
    (List.range n).flatMap (fun i =>
        (c.jobsGet (some size) (some (i * size)) pending programId hub group project).jobs) =
        (c.jobsGet none none pending programId hub group project).jobs ∧
      ∀ i, (c.jobsGet (some size) (some (i * size)) pending programId hub group project).count =
        (c.jobsGet none none pending programId hub group project).count := by
  refine ⟨?_, fun _ => rfl⟩
  have hskip (i : Nat) : orNum 0 (some (i * size)) 0 = i * size := by
    by_cases h : i * size = 0 <;> simp [orNum, h]
  have hlimit : orNum 0 (some size) c.jobs.values.length = size := if_neg hsize.ne'
  rw [FakeRuntimeClient.jobsGet_eq] at hn
  simp only [FakeRuntimeClient.jobsGet_eq, hskip, hlimit, flatMap_range_windows, List.take_of_length_le hn]
  exact congrArg _ (List.take_of_length_le (FakeRuntimeClient.jobsMatching_length_le ..)).symm

theorem three_jobs_in_two_pages :
    let c := (FakeRuntimeClient.init [] none .empty none none none).run ⟨id, .ok⟩
      [.programRun "prog" sampleCredentials "backend" "params" none "a" 0,
        .programRun "prog" sampleCredentials "backend" "params" none "b" 0,
        .programRun "prog" sampleCredentials "backend" "params" none "c" 0]
    0 < 2 ∧ (c.jobsGet none none none none none none none).count ≤ 2 * 2 ∧
      (List.range 2).flatMap (fun i => (c.jobsGet (some 2) (some (i * 2)) none none none none none).jobs) =
        (c.jobsGet none none none none none none none).jobs ∧
      ∀ i, (c.jobsGet (some 2) (some (i * 2)) none none none none none).count =
        (c.jobsGet none none none none none none none).count :=
  ⟨by decide, by decide, jobs_get_pages_cover _ (by decide) _ _ _ _ _ (by decide)⟩

theorem fresh_job_listed_as_described :
    let c := ((FakeRuntimeClient.init [] none .empty none none none).programRun "prog" sampleCredentials
      "backend" "params" none "job" 0).client
    (∀ j ∈ c.jobs.values, j.reportedStatus = j.status ∧ j.status ≠ .cancelledRanTooLong) ∧
      c.jobsGet none none (some true) none none none none = c.jobsGetSpec none none (some true) none none none none :=
  ⟨by decide, FakeRuntimeClient.jobsGet_eq_spec _ _ _ _ _ _ _ _ (by decide)⟩

def ranTooLongClient : FakeRuntimeClient :=
  (List.replicate 4 "job").foldl FakeRuntimeClient.tick
    ((FakeRuntimeClient.init [.failedRanTooLongRuntimeJob] none .empty none none none).programRun
      "program" sampleCredentials "backend" "params" (some "") "job" 0).client

/-- `job_get` reports the terminal status `CANCELLED - RAN TOO LONG`, yet `jobs_get` lists the job
for neither `pending=True` nor `pending=False`. -/
theorem ran_too_long_job_in_no_listing :
    (ranTooLongClient.jobGet "job").map JobDict.status = .ok "CANCELLED - RAN TOO LONG" ∧
      (ranTooLongClient.jobsGet none none (some true) none none none none).count = 0 ∧
      (ranTooLongClient.jobsGet none none (some false) none none none none).count = 0 :=
  ⟨rfl, rfl, rfl⟩

/-! `list_programs`. -/

theorem length_flatMap_pair {α β : Type} (l : List α) (f g : α → β) :
    (l.flatMap fun x => [f x, g x]).length = 2 * l.length := by
  induction l with
  | nil => rfl
  | cons x l ih => simp [List.flatMap_cons, ih]; omega

theorem flatMap_ite_singleton {α β : Type} (l : List α) (p : α → Bool) (f : α → β) :
    (l.flatMap fun x => if p x then [f x] else []) = (l.filter p).map f := by
  induction l with
  | nil => rfl
  | cons x l ih => by_cases h : p x <;> simp [List.flatMap_cons, List.filter_cons, h, ih]

namespace FakeRuntimeClient

def programMatches (lower : String → String) (search : String) (p : FakeProgram) : Bool :=
  search.isEmpty || strContains search (lower p.name) || strContains search (lower p.description)

/-- `list_programs` as it is described: the window `[skip, skip + limit)` of the matching
programs, each once, in registration order, and their number. -/
def listProgramsSpec (lower : String → String) (c : FakeRuntimeClient) (search : String)
    (limit skip : Nat) : ProgramList :=
  let matching := c.programs.values.filter (programMatches lower search)
  { programs := ((matching.map (·.toDict none)).drop skip).take limit, count := matching.length }

theorem listPrograms_eq_spec (lower : String → String) (c : FakeRuntimeClient) {search : String}
    (h : search.isEmpty = false) (limit skip : Nat) :
    c.listPrograms lower search limit skip = c.listProgramsSpec lower search limit skip := by
  have hm : programMatches lower search =
      fun p => strContains search (lower p.name) || strContains search (lower p.description) :=
    funext fun p => by simp [programMatches, h]
  simp only [listPrograms, listProgramsSpec, hm, h, Bool.false_eq_true, if_false, List.nil_append,
    flatMap_ite_singleton, List.length_map]

end FakeRuntimeClient

theorem FakeProgram.toDict_id (p : FakeProgram) (data : Option String) :
    (p.toDict data).getItem "id" = .ok (.str p.id) := rfl

/-- On a reachable client, the programs a non-empty search lists are pairwise distinct: registry
ids are the keys, and each listed dict carries its program's id. -/
theorem Reachable.listPrograms_nodup {c : FakeRuntimeClient} (h : Reachable c) (lower : String → String)
    {search : String} (hs : search.isEmpty = false) (limit skip : Nat) :
    (c.listPrograms lower search limit skip).programs.Nodup := by
  have ids : ∀ e ∈ c.programs.entries, e.2.id = e.1 := fun e he => h.program_id (PyDict.get?_of_mem _ he)
  have values : c.programs.values.Nodup := by
    refine List.Nodup.of_map FakeProgram.id ?_
    rw [PyDict.values, List.map_map]
    exact (List.map_congr_left ids).symm ▸ c.programs.nodup
  have inj : ∀ p ∈ c.programs.values, ∀ q ∈ c.programs.values, p.toDict none = q.toDict none → p = q := by
    intro p hp q hq e
    obtain ⟨⟨k, p⟩, hkp, rfl⟩ := List.mem_map.1 hp
    obtain ⟨⟨k', q⟩, hkq, rfl⟩ := List.mem_map.1 hq
    have hid : p.id = q.id := by simpa [FakeProgram.toDict_id] using congrArg (·.getItem "id") e
    obtain rfl : k = k' := (ids _ hkp).symm.trans (hid.trans (ids _ hkq))
    exact Option.some.inj ((PyDict.get?_of_mem _ hkp).symm.trans (PyDict.get?_of_mem _ hkq))
  rw [FakeRuntimeClient.listPrograms_eq_spec lower c hs]
  exact ((values.filter _).map_on fun p hp q hq => inj p (List.mem_of_mem_filter hp) q
    (List.mem_of_mem_filter hq)).sublist ((List.take_sublist _ _).trans (List.drop_sublist _ _))

theorem search_lists_prog_once :
    let c := ((FakeRuntimeClient.init [] none .empty none none none).apply ⟨id, .ok⟩
      (.programCreate "" "prog" "" 0 (some .empty) false)).client
    Reachable c ∧ "p".isEmpty = false ∧ (c.listPrograms id "p" 10 0).programs.Nodup :=
  ⟨.step _ _ (.init ..), rfl, @Reachable.listPrograms_nodup _ (.step _ _ (.init ..)) id "p" rfl 10 0⟩

/-- For the empty search, `list_programs` lists every program twice, so its count is twice the
number of programs that match. -/
theorem empty_search_lists_each_program_twice (lower : String → String) (c : FakeRuntimeClient)
    (limit skip : Nat) :
    (c.listPrograms lower "" limit skip).programs =
        ((c.programs.values.flatMap fun p => [p.toDict none, p.toDict none]).drop skip).take limit ∧
      (c.listPrograms lower "" limit skip).count = 2 * (c.listProgramsSpec lower "" limit skip).count := by
  have he : "".isEmpty = true := rfl
  have hm : FakeRuntimeClient.programMatches lower "" = fun _ => true :=
    funext fun p => by simp [FakeRuntimeClient.programMatches, he]
  simp only [FakeRuntimeClient.listPrograms, FakeRuntimeClient.listProgramsSpec, hm, he,
    strContains_empty, Bool.true_or, if_true, List.singleton_append, length_flatMap_pair,
    List.filter_true, and_self]

example : (((FakeRuntimeClient.init [] none .empty none none none).programCreate "" "prog" "" 0
    (some .empty) false).client.listPrograms id "" 10 0).count = 2 := rfl

end QiskitRuntime.Fake
