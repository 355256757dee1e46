import QiskitRuntime.Fake.Job

/-! The fake runtime client: its program and job registries, the queue of job classes the next
runs take, and each of its methods as an operation on that state. -/

namespace QiskitRuntime.Fake

open QiskitRuntime.Python

/-- `BaseFakeProgram`. -/
structure FakeProgram where
  id : String
  name : String
  data : String
  cost : Int
  description : String
  backendRequirements : PyValue
  parameters : PyValue
  returnValues : PyValue
  interimResults : PyValue
  isPublic : Bool

namespace FakeProgram

def specEntry (key : String) (value : PyValue) : List (String × PyValue) :=
  if value.truthy then [(key, value)] else []

/-- `to_dict(include_data)`, given the decoded data when `include_data` is set. -/
def toDict (p : FakeProgram) (data : Option String) : PyValue :=
  .dict ([("id", .str p.id), ("name", .str p.name), ("cost", .int p.cost),
      ("description", .str p.description), ("is_public", .bool p.isPublic),
      ("creation_date", .str "2021-09-13T17:27:42Z"), ("update_date", .str "2021-09-14T19:25:32Z")] ++
    (match data with
      | some d => [("data", .str d)]
      | none => []) ++
    [("spec", .dict (specEntry "backend_requirements" p.backendRequirements ++
      specEntry "parameters" p.parameters ++ specEntry "return_values" p.returnValues ++
      specEntry "interim_results" p.interimResults))])

end FakeProgram

/-- The attributes of `Credentials` that `program_run` reads. -/
structure Credentials where
  hub : Option String
  group : Option String
  project : Option String

def sampleCredentials : Credentials := { hub := none, group := none, project := none }

/-- The library functions the client calls and the model takes as given: `str.lower`, and
`base64.standard_b64decode(data).decode()`, whose error is the `ValueError` it raises. -/
structure Builtins where
  lower : String → String
  b64decode : String → Except String String

/-- `BaseFakeRuntimeClient`; `jobClasses` is `_job_classes`, the queue `program_run` pops. -/
structure FakeRuntimeClient where
  programs : PyDict String FakeProgram
  jobs : PyDict String FakeJob
  jobClasses : List JobClass
  finalStatus : Option JobStatus
  jobKwargs : PyDict String PyValue
  hub : Option String
  group : Option String
  project : Option String

structure Outcome (α : Type) where
  client : FakeRuntimeClient
  result : Except PyException α

def Outcome.map {α β : Type} (f : α → β) (o : Outcome α) : Outcome β := ⟨o.client, o.result.map f⟩

def programExists : PyException := .requestsApiError "Program already exists." 409

def programNotFound : PyException := .requestsApiError "Program not found" 404

def jobNotFound : PyException := .requestsApiError "Job not found" 404

def explicitKeywords : List String :=
  ["job_id", "program_id", "hub", "group", "project", "backend_name", "params", "final_status", "image"]

/-- The `TypeError` binding `keys` to `BaseFakeRuntimeJob.__init__` raises: every parameter is
already given, so the first key is rejected. -/
def initKeywordError : List String → Option PyException
  | [] => none
  | k :: _ =>
    some (.typeError (if k = "self" then "BaseFakeRuntimeJob.__init__() got multiple values for argument 'self'"
      else "BaseFakeRuntimeJob.__init__() got an unexpected keyword argument '" ++ k ++ "'"))

/-- What `job_cls(job_id=..., ..., image=image, **self._job_kwargs)` raises before the job is built. -/
def bindJobKwargs (c : JobClass) (keys : List String) : Option PyException :=
  match keys.find? (· ∈ explicitKeywords) with
  | some k => some (.typeError (c.name ++ "() got multiple values for keyword argument '" ++ k ++ "'"))
  | none =>
    match c with
    | .timedRuntimeJob =>
      if "self" ∈ keys then some (.typeError "TimedRuntimeJob.__init__() got multiple values for argument 'self'")
      else if "run_time" ∈ keys then initKeywordError (keys.erase "run_time")
      else some (.keyError "run_time")
    | .cancelableRuntimeJob =>
      if "self" ∈ keys then
        some (.typeError "CancelableRuntimeJob.__init__() got multiple values for argument 'self'")
      else initKeywordError keys
    | _ => initKeywordError keys

/-- `spec.get(key)`, `None` when the key is absent. -/
def specGet (spec : PyDict String PyValue) (key : String) : PyValue := (spec.get? key).getD .none

structure ProgramList where
  programs : List PyValue
  count : Nat

structure JobList where
  jobs : List JobDict
  count : Nat
  deriving DecidableEq, Repr

def pendingStatuses : List String := ["QUEUED", "RUNNING"]

def returnedStatuses : List String := ["COMPLETED", "FAILED", "CANCELLED"]

namespace FakeRuntimeClient

/-- `BaseFakeRuntimeClient(job_classes, final_status, job_kwargs, hub, group, project)`. -/
def init (jobClasses : List JobClass) (finalStatus : Option JobStatus)
    (jobKwargs : PyDict String PyValue) (hub group project : Option String) : FakeRuntimeClient :=
  { programs := .empty, jobs := .empty, jobClasses, finalStatus, jobKwargs, hub, group, project }

def setHgp (c : FakeRuntimeClient) (hub group project : Option String) : FakeRuntimeClient :=
  { c with hub, group, project }

/-- `set_job_classes`: a single class stands for a one-element list. -/
def setJobClasses (c : FakeRuntimeClient) (classes : JobClass ⊕ List JobClass) : FakeRuntimeClient :=
  match classes with
  | .inl cls => { c with jobClasses := [cls] }
  | .inr cs => { c with jobClasses := cs }

def setFinalStatus (c : FakeRuntimeClient) (finalStatus : Option JobStatus) : FakeRuntimeClient :=
  { c with finalStatus }

/-- `list_programs`: an empty search appends each program once, and once more because `""` is in
every string. -/
def listPrograms (lower : String → String) (c : FakeRuntimeClient) (search : String)
    (limit skip : Nat) : ProgramList :=
  let programs := c.programs.values.flatMap fun p =>
    (if search.isEmpty then [p.toDict none] else []) ++
      (if strContains search (lower p.name) || strContains search (lower p.description) then
        [p.toDict none] else [])
  { programs := (programs.drop skip).take limit, count := programs.length }

/-- The `BaseFakeProgram` that `program_create` stores under `name`. -/
def createdProgram (programData name description : String) (maxExecutionTime : Int)
    (spec : PyDict String PyValue) (isPublic : Bool) : FakeProgram :=
  { id := name, name, data := programData, cost := maxExecutionTime, description,
    backendRequirements := specGet spec "backend_requirements",
    parameters := specGet spec "parameters", returnValues := specGet spec "return_values",
    interimResults := specGet spec "interim_results", isPublic }

def programCreate (c : FakeRuntimeClient) (programData name description : String)
    (maxExecutionTime : Int) (spec : Option (PyDict String PyValue)) (isPublic : Bool) :
    Outcome String :=
  if c.programs.contains name then ⟨c, .error programExists⟩ else
  match spec with
  | none => ⟨c, .error (.attributeError "'NoneType' object has no attribute 'get'")⟩
  | some spec =>
    let program := createdProgram programData name description maxExecutionTime spec isPublic
    ⟨{ c with programs := c.programs.set name program }, .ok name⟩

/-- The spec fields `program_update` writes: `spec.get(key) or old` for each. -/
def updateSpec (p : FakeProgram) (spec : PyDict String PyValue) : FakeProgram :=
  { p with
    backendRequirements := (specGet spec "backend_requirements").or p.backendRequirements
    parameters := (specGet spec "parameters").or p.parameters
    returnValues := (specGet spec "return_values").or p.returnValues
    interimResults := (specGet spec "interim_results").or p.interimResults }

def programUpdate (c : FakeRuntimeClient) (programId : String)
    (programData name description : Option String) (maxExecutionTime : Option Int)
    (spec : Option (PyDict String PyValue)) : Outcome Unit :=
  match c.programs.get? programId with
  | none => ⟨c, .error programNotFound⟩
  | some p =>
    let p := { p with data := orDefault programData p.data, name := orDefault name p.name,
                      description := orDefault description p.description,
                      cost := orNum 0 maxExecutionTime p.cost }
    let p := match spec with
      | some s => if s.entries.isEmpty then p else updateSpec p s
      | none => p
    ⟨{ c with programs := c.programs.set programId p }, .ok ()⟩

def programGet (decode : String → Except String String) (c : FakeRuntimeClient)
    (programId : String) : Except PyException PyValue :=
  match c.programs.get? programId with
  | none => .error programNotFound
  | some p =>
    match decode p.data with
    | .ok d => .ok (p.toDict (some d))
    | .error msg => .error (.valueError msg)

/-- `program_run`; `jobId` is the `uuid4().hex` drawn, and `early` how many steps the new job's
task makes before its constructor returns. The job class is popped before the job is built. -/
def programRun (c : FakeRuntimeClient) (programId : String) (credentials : Credentials)
    (backendName params : String) (image : Option String) (jobId : String) (early : Nat) :
    Outcome String :=
  let cls := c.jobClasses.headD .baseFakeRuntimeJob
  let popped := { c with jobClasses := c.jobClasses.tail }
  let args : JobArgs :=
    { jobId, programId, hub := orStr c.hub credentials.hub, group := orStr c.group credentials.group,
      project := orStr c.project credentials.project, backendName, params, image,
      runTime := c.jobKwargs.get? "run_time" }
  match bindJobKwargs cls c.jobKwargs.keys with
  | some e => ⟨popped, .error e⟩
  | none =>
    ⟨{ popped with jobs := c.jobs.set jobId (FakeJob.create cls args c.finalStatus early) }, .ok jobId⟩

def programDelete (c : FakeRuntimeClient) (programId : String) : Outcome Unit :=
  if c.programs.contains programId then ⟨{ c with programs := c.programs.erase programId }, .ok ()⟩
  else ⟨c, .error programNotFound⟩

/-- `_get_job`. -/
def getJob (c : FakeRuntimeClient) (jobId : String) : Except PyException FakeJob :=
  match c.jobs.get? jobId with
  | some j => .ok j
  | none => .error jobNotFound

def jobGet (c : FakeRuntimeClient) (jobId : String) : Except PyException JobDict :=
  (c.getJob jobId).map FakeJob.toDict

def filterIf (applied : Bool) (keep : FakeJob → Bool) (jobs : List FakeJob) : List FakeJob :=
  if applied then jobs.filter keep else jobs

/-- `jobs_get`; `count` is reset to the length of the list after each filter, so it is the
number of jobs that pass them all. -/
def jobsGet (c : FakeRuntimeClient) (limit skip : Option Nat) (pending : Option Bool)
    (programId hub group project : Option String) : JobList :=
  let limit := orNum 0 limit c.jobs.values.length
  let skip := orNum 0 skip 0
  let jobs := c.jobs.values
  let jobs := filterIf pending.isSome (fun j =>
    (if pending = some true then pendingStatuses else returnedStatuses).contains j.status.name) jobs
  let jobs := filterIf (truthyStr programId) (fun j => some j.args.programId == programId) jobs
  let jobs := filterIf (truthyStr hub && truthyStr group && truthyStr project)
    (fun j => j.args.hub == hub && j.args.group == group && j.args.project == project) jobs
  { jobs := ((jobs.drop skip).take limit).map FakeJob.toDict, count := jobs.length }

def setProgramVisibility (c : FakeRuntimeClient) (programId : String) (public : Bool) :
    Outcome Unit :=
  match c.programs.get? programId with
  | some p => ⟨{ c with programs := c.programs.set programId { p with isPublic := public } }, .ok ()⟩
  | none => ⟨c, .error (.keyError programId)⟩

def jobResults (c : FakeRuntimeClient) (jobId : String) : Except PyException (Option String) :=
  (c.getJob jobId).bind FakeJob.results

def jobCancel (c : FakeRuntimeClient) (jobId : String) : Outcome Unit :=
  match c.getJob jobId with
  | .error e => ⟨c, .error e⟩
  | .ok j =>
    match j.cancel with
    | .ok j' => ⟨{ c with jobs := c.jobs.set jobId j' }, .ok ()⟩
    | .error e => ⟨c, .error e⟩

def jobDelete (c : FakeRuntimeClient) (jobId : String) : Outcome Unit :=
  match c.getJob jobId with
  | .error e => ⟨c, .error e⟩
  | .ok _ => ⟨{ c with jobs := c.jobs.erase jobId }, .ok ()⟩

def tick (c : FakeRuntimeClient) (jobId : String) : FakeRuntimeClient :=
  match c.jobs.get? jobId with
  | some j => { c with jobs := c.jobs.set jobId j.progress }
  | none => c

end FakeRuntimeClient

/-- A call of one of the client's methods, with the arguments the model needs; `tick` is a step
of a job's background task. -/
inductive ClientOp where
  | setHgp (hub group project : Option String)
  | setJobClasses (classes : JobClass ⊕ List JobClass)
  | setFinalStatus (finalStatus : Option JobStatus)
  | listPrograms (search : String) (limit skip : Nat)
  | programCreate (programData name description : String) (maxExecutionTime : Int)
      (spec : Option (PyDict String PyValue)) (isPublic : Bool)
  | programUpdate (programId : String) (programData name description : Option String)
      (maxExecutionTime : Option Int) (spec : Option (PyDict String PyValue))
  | programGet (programId : String)
  | programRun (programId : String) (credentials : Credentials) (backendName params : String)
      (image : Option String) (jobId : String) (early : Nat)
  | programDelete (programId : String)
  | jobGet (jobId : String)
  | jobsGet (limit skip : Option Nat) (pending : Option Bool) (programId hub group project : Option String)
  | setProgramVisibility (programId : String) (public : Bool)
  | jobResults (jobId : String)
  | jobCancel (jobId : String)
  | jobDelete (jobId : String)
  | tick (jobId : String)

inductive Reply where
  | none
  | id (id : String)
  | program (p : PyValue)
  | programs (l : ProgramList)
  | job (d : JobDict)
  | jobs (l : JobList)
  | result (r : Option String)

namespace FakeRuntimeClient

def apply (b : Builtins) (c : FakeRuntimeClient) : ClientOp → Outcome Reply
  | .setHgp hub group project => ⟨c.setHgp hub group project, .ok .none⟩
  | .setJobClasses classes => ⟨c.setJobClasses classes, .ok .none⟩
  | .setFinalStatus s => ⟨c.setFinalStatus s, .ok .none⟩
  | .listPrograms search limit skip => ⟨c, .ok (.programs (c.listPrograms b.lower search limit skip))⟩
  | .programCreate data name description cost spec isPublic =>
    (c.programCreate data name description cost spec isPublic).map .id
  | .programUpdate programId data name description cost spec =>
    (c.programUpdate programId data name description cost spec).map fun _ => .none
  | .programGet programId => ⟨c, (c.programGet b.b64decode programId).map .program⟩
  | .programRun programId credentials backendName params image jobId early =>
    (c.programRun programId credentials backendName params image jobId early).map .id
  | .programDelete programId => (c.programDelete programId).map fun _ => .none
  | .jobGet jobId => ⟨c, (c.jobGet jobId).map .job⟩
  | .jobsGet limit skip pending programId hub group project =>
    ⟨c, .ok (.jobs (c.jobsGet limit skip pending programId hub group project))⟩
  | .setProgramVisibility programId public => (c.setProgramVisibility programId public).map fun _ => .none
  | .jobResults jobId => ⟨c, (c.jobResults jobId).map .result⟩
  | .jobCancel jobId => (c.jobCancel jobId).map fun _ => .none
  | .jobDelete jobId => (c.jobDelete jobId).map fun _ => .none
  | .tick jobId => ⟨c.tick jobId, .ok .none⟩

def run (b : Builtins) (c : FakeRuntimeClient) (ops : List ClientOp) : FakeRuntimeClient :=
  ops.foldl (fun c op => (c.apply b op).client) c

@[simp] theorem run_nil (b : Builtins) (c : FakeRuntimeClient) : c.run b [] = c := rfl

@[simp] theorem run_cons (b : Builtins) (c : FakeRuntimeClient) (op : ClientOp) (ops : List ClientOp) :
    c.run b (op :: ops) = (c.apply b op).client.run b ops := rfl

theorem run_append (b : Builtins) (c : FakeRuntimeClient) (ops ops' : List ClientOp) :
    c.run b (ops ++ ops') = (c.run b ops).run b ops' := List.foldl_append ..

end FakeRuntimeClient

end QiskitRuntime.Fake
