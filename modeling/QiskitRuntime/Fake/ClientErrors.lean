import QiskitRuntime.Fake.Client

/-! Which calls of the fake client raise `RequestsApiError`, and what a raising call leaves:
every method checks before it writes, except `program_run`, which pops its job class first. -/

namespace QiskitRuntime.Fake

open QiskitRuntime.Python

def ClientOp.popsClass : ClientOp → Bool
  | .programRun .. => true
  | _ => false

namespace FakeRuntimeClient

/-- The `RequestsApiError` each registry call raises on a duplicate or an unknown id. -/
def registryError (c : FakeRuntimeClient) : ClientOp → Option PyException
  | .programCreate _ name .. => if c.programs.contains name then some programExists else none
  | .programUpdate programId .. | .programGet programId | .programDelete programId =>
    if c.programs.contains programId then none else some programNotFound
  | .jobGet jobId | .jobResults jobId | .jobCancel jobId | .jobDelete jobId =>
    if c.jobs.contains jobId then none else some jobNotFound
  | _ => none

end FakeRuntimeClient

/-- `o` raises exactly the `RequestsApiError` `expected` names, and a raising call leaves `before`. -/
structure Outcome.Conforms {α : Type} (o : Outcome α) (expected : Option PyException)
    (before : FakeRuntimeClient) : Prop where
  api : ∀ e, expected = some e ↔ o.result = .error e ∧ e.isApiError = true
  kept : ∀ e, o.result = .error e → o.client = before

section Conforms

variable {α β : Type} {c c' : FakeRuntimeClient}

theorem except_map_eq_error {r : Except PyException α} {f : α → β} {e : PyException} :
    r.map f = .error e ↔ r = .error e := by
  cases r <;> simp [Except.map]

theorem Outcome.Conforms.map {o : Outcome α} {ex : Option PyException} (h : o.Conforms ex c)
    (f : α → β) : (o.map f).Conforms ex c :=
  ⟨fun e => by rw [h.api e]; exact and_congr_left' except_map_eq_error.symm,
    fun e he => h.kept e (except_map_eq_error.1 he)⟩

theorem conforms_ok (a : α) : (⟨c', .ok a⟩ : Outcome α).Conforms none c :=
  ⟨fun e => by simp, fun e he => by cases he⟩

theorem conforms_raise (e : PyException) :
    (⟨c, .error e⟩ : Outcome α).Conforms (if e.isApiError then some e else none) c :=
  ⟨fun e' => ⟨fun h => by split at h <;> cases h; exact ⟨rfl, ‹_›⟩,
    fun ⟨h, h'⟩ => by cases h; rw [if_pos h']⟩, fun _ _ => rfl⟩

theorem conforms_raise_api {e : PyException} (h : e.isApiError = true) :
    (⟨c, .error e⟩ : Outcome α).Conforms (some e) c := by
  simpa [h] using conforms_raise (α := α) (c := c) e

theorem conforms_raise_other {e : PyException} (h : e.isApiError = false) :
    (⟨c, .error e⟩ : Outcome α).Conforms none c := by
  simpa [h] using conforms_raise (α := α) (c := c) e

theorem conforms_read {r : Except PyException α} {ex : Option PyException}
    (h : ∀ e, ex = some e ↔ r = .error e ∧ e.isApiError = true) : (⟨c, r⟩ : Outcome α).Conforms ex c :=
  ⟨h, fun _ _ => rfl⟩

end Conforms

/-! The exceptions other than `RequestsApiError` the client and its jobs raise. -/

theorem bindJobKwargs_not_api {cls : JobClass} {keys : List String} {e : PyException}
    (h : bindJobKwargs cls keys = some e) : e.isApiError = false := by
  unfold bindJobKwargs initKeywordError at h
  repeat' split at h
  all_goals first | (cases h; rfl) | simp_all

theorem FakeJob.cancel_not_api {j : FakeJob} {e : PyException} (h : j.cancel = .error e) :
    e.isApiError = false := by
  unfold FakeJob.cancel at h
  repeat' split at h
  all_goals first | (cases h; rfl) | simp_all

theorem FakeJob.results_not_api {j : FakeJob} {e : PyException} (h : j.results = .error e) :
    e.isApiError = false := by
  unfold FakeJob.results at h
  split at h <;> cases h
  rfl

namespace FakeRuntimeClient

variable {c : FakeRuntimeClient}

/-! One lemma per method. -/

theorem programCreate_conforms (data name description : String) (cost : Int)
    (spec : Option (PyDict String PyValue)) (isPublic : Bool) :
    (c.programCreate data name description cost spec isPublic).Conforms
      (if c.programs.contains name then some programExists else none) c := by
  unfold programCreate
  split_ifs
  · exact conforms_raise_api rfl
  · cases spec with
    | none => exact conforms_raise_other rfl
    | some s => exact conforms_ok _

theorem programUpdate_conforms (programId : String) (data name description : Option String)
    (cost : Option Int) (spec : Option (PyDict String PyValue)) :
    (c.programUpdate programId data name description cost spec).Conforms
      (if c.programs.contains programId then none else some programNotFound) c := by
  unfold programUpdate PyDict.contains
  cases c.programs.get? programId with
  | none => exact conforms_raise_api rfl
  | some p => exact conforms_ok _

theorem programGet_conforms (decode : String → Except String String) (programId : String) :
    (⟨c, (c.programGet decode programId).map .program⟩ : Outcome Reply).Conforms
      (if c.programs.contains programId then none else some programNotFound) c := by
  unfold programGet PyDict.contains
  cases c.programs.get? programId with
  | none => exact conforms_raise_api rfl
  | some p =>
    dsimp only
    cases decode p.data with
    | ok d => exact conforms_ok _
    | error msg => exact conforms_raise_other rfl

theorem programRun_conforms (programId : String) (credentials : Credentials)
    (backendName params : String) (image : Option String) (jobId : String) (early : Nat) :
    (c.programRun programId credentials backendName params image jobId early).Conforms none
      { c with jobClasses := c.jobClasses.tail } := by
  unfold programRun
  dsimp only
  split
  · exact conforms_raise_other (bindJobKwargs_not_api ‹_›)
  · exact conforms_ok _

theorem programDelete_conforms (programId : String) :
    (c.programDelete programId).Conforms
      (if c.programs.contains programId then none else some programNotFound) c := by
  unfold programDelete
  split_ifs
  · exact conforms_ok _
  · exact conforms_raise_api rfl

theorem getJob_api (jobId : String) (e : PyException) :
    (if c.jobs.contains jobId then none else some jobNotFound) = some e ↔
      c.getJob jobId = .error e ∧ e.isApiError = true := by
  unfold getJob PyDict.contains
  cases c.jobs.get? jobId with
  | none =>
    simp only [Option.isSome_none, Bool.false_eq_true, if_false, Option.some.injEq]
    exact ⟨fun h => ⟨h ▸ rfl, h ▸ rfl⟩, fun ⟨h, _⟩ => by cases h; rfl⟩
  | some j => simp

theorem registered_no_api {jobId : String} {j : FakeJob} (h : c.getJob jobId = .ok j) :
    (if c.jobs.contains jobId then none else some jobNotFound) = none := by
  simpa [h] using getJob_api (c := c) jobId jobNotFound

theorem jobGet_conforms (jobId : String) :
    (⟨c, (c.jobGet jobId).map .job⟩ : Outcome Reply).Conforms
      (if c.jobs.contains jobId then none else some jobNotFound) c :=
  conforms_read fun e => by
    rw [getJob_api, jobGet, except_map_eq_error, except_map_eq_error]

theorem jobResults_conforms (jobId : String) :
    (⟨c, (c.jobResults jobId).map .result⟩ : Outcome Reply).Conforms
      (if c.jobs.contains jobId then none else some jobNotFound) c := by
  refine conforms_read fun e => ?_
  rw [getJob_api, jobResults, except_map_eq_error]
  cases h : c.getJob jobId with
  | error e' => simp [Except.bind]
  | ok j =>
    simp only [Except.bind, reduceCtorEq, false_and, false_iff, not_and, Bool.not_eq_true]
    exact FakeJob.results_not_api

theorem jobCancel_conforms (jobId : String) :
    (c.jobCancel jobId).Conforms (if c.jobs.contains jobId then none else some jobNotFound) c := by
  unfold jobCancel
  split
  · next e h => exact ⟨fun e' => by rw [getJob_api, h]; simp, fun _ _ => rfl⟩
  · next j h =>
    rw [registered_no_api h]
    split
    · exact conforms_ok _
    · exact conforms_raise_other (FakeJob.cancel_not_api ‹_›)

theorem jobDelete_conforms (jobId : String) :
    (c.jobDelete jobId).Conforms (if c.jobs.contains jobId then none else some jobNotFound) c := by
  unfold jobDelete
  split
  · next e h => exact ⟨fun e' => by rw [getJob_api, h]; simp, fun _ _ => rfl⟩
  · next j h => rw [registered_no_api h]; exact conforms_ok _

theorem setProgramVisibility_conforms (programId : String) (public : Bool) :
    (c.setProgramVisibility programId public).Conforms none c := by
  unfold setProgramVisibility
  split
  · exact conforms_ok _
  · exact conforms_raise_other rfl

theorem apply_conforms (b : Builtins) (c : FakeRuntimeClient) (op : ClientOp) :
    (c.apply b op).Conforms (c.registryError op)
      (if op.popsClass then { c with jobClasses := c.jobClasses.tail } else c) := by
  cases op with
  | programCreate data name description cost spec isPublic =>
    exact (programCreate_conforms data name description cost spec isPublic).map _
  | programUpdate programId data name description cost spec =>
    exact (programUpdate_conforms programId data name description cost spec).map _
  | programGet programId => exact programGet_conforms b.b64decode programId
  | programRun programId credentials backendName params image jobId early =>
    exact (programRun_conforms programId credentials backendName params image jobId early).map _
  | programDelete programId => exact (programDelete_conforms programId).map _
  | jobGet jobId => exact jobGet_conforms jobId
  | jobResults jobId => exact jobResults_conforms jobId
  | jobCancel jobId => exact (jobCancel_conforms jobId).map _
  | jobDelete jobId => exact (jobDelete_conforms jobId).map _
  | setProgramVisibility programId public => exact (setProgramVisibility_conforms programId public).map _
  | setHgp | setJobClasses | setFinalStatus | listPrograms | jobsGet | tick => exact conforms_ok _

end FakeRuntimeClient

/-- A call raises `RequestsApiError` exactly as `registryError` lists, and a raising call changes
nothing but the class queue `program_run` pops. -/
theorem registry_errors_keep_state (b : Builtins) (c : FakeRuntimeClient) (op : ClientOp)
    (e : PyException) :
    (c.registryError op = some e ↔ (c.apply b op).result = .error e ∧ e.isApiError = true) ∧
      ((c.apply b op).result = .error e →
        (c.apply b op).client =
          if op.popsClass then { c with jobClasses := c.jobClasses.tail } else c) :=
  ⟨(FakeRuntimeClient.apply_conforms b c op).api e, (FakeRuntimeClient.apply_conforms b c op).kept e⟩

/-- `job_cancel` on a `BaseFakeRuntimeJob` raises `AttributeError`, not `RequestsApiError`. -/
theorem job_cancel_on_base_job_raises :
    let c := ((FakeRuntimeClient.init [] none .empty none none none).programRun "program"
      sampleCredentials "backend" "params" (some "") "job" 0).client
    (c.jobCancel "job").result =
      .error (.attributeError "'BaseFakeRuntimeJob' object has no attribute 'cancel'") := rfl

end QiskitRuntime.Fake
