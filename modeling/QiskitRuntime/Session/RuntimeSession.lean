import QiskitRuntime.Python.Value

/-! `RuntimeSession`: writes and reads over the runtime service, the closed-session guard, and
`info`. The service and the job are collaborators; their answers come with each operation. -/

namespace QiskitRuntime.Session

open QiskitRuntime.Python

/-- Modelled from the spec: `RuntimeJob` (`runtime_job.py`, absent from the sources); the
session reads its `job_id`. -/
structure RuntimeJob where
  jobId : String
  deriving DecidableEq, Repr

/-- Modelled from the spec: `RuntimeOptions` (`runtime_options.py`, absent from the sources);
`info` reads its `backend_name`. -/
structure RuntimeOptions where
  backendName : Option String := none
  deriving DecidableEq, Repr

inductive SessionOptions where
  | none
  | dict (d : PyDict String PyValue)
  | runtimeOptions (o : RuntimeOptions)

structure RuntimeSession where
  programId : String
  initialInputs : PyDict String PyValue
  options : SessionOptions
  job : Option RuntimeJob
  sessionId : Option String
  active : Bool

inductive Call where
  | run (programId : String) (options : SessionOptions) (inputs : PyDict String PyValue)
      (sessionId : Option String)
  | result (job : RuntimeJob)
  | status (job : RuntimeJob)

structure Outcome (α : Type) where
  session : RuntimeSession
  result : Except PyException α
  calls : List Call

def sessionClosed : PyException := .runtimeError "The session is closed."

namespace RuntimeSession

def init (programId : String) (inputs : PyDict String PyValue) (options : SessionOptions) :
    RuntimeSession :=
  { programId, initialInputs := inputs, options, job := none, sessionId := none, active := true }

/-- `@_active_session`. -/
def activeSession {α : Type} (s : RuntimeSession) (body : Outcome α) : Outcome α :=
  if s.active then body else ⟨s, .error sessionClosed, []⟩

/-- `write(**kwargs)`; `reply` is what `service.run` returns or the exception it raises. -/
def write (s : RuntimeSession) (kwargs : PyDict String PyValue) (reply : Except Nat RuntimeJob) :
    Outcome Unit :=
  activeSession s <|
    let call := Call.run s.programId s.options (s.initialInputs.update kwargs) s.sessionId
    match reply with
    | .error e => ⟨s, .error (.external e), [call]⟩
    | .ok job => ⟨{ s with job := some job, sessionId := s.sessionId.or (some job.jobId) }, .ok (), [call]⟩

/-- `read(timeout, wait, decoder)`; `reply` is what `job.result` returns or raises. -/
def read (s : RuntimeSession) (reply : Except Nat PyValue) : Outcome PyValue :=
  activeSession s <|
    match s.job with
    | none => ⟨s, .error (.attributeError "'NoneType' object has no attribute 'result'"), []⟩
    | some job => ⟨s, reply.mapError .external, [.result job]⟩

def backendName : SessionOptions → Except PyException (Option String)
  | .none => .error (.attributeError "'NoneType' object has no attribute 'backend_name'")
  | .dict _ => .error (.attributeError "'dict' object has no attribute 'backend_name'")
  | .runtimeOptions o => .ok o.backendName

/-- `info()`; `status` is what `job.status()` returns or raises. -/
def info (s : RuntimeSession) (status : Except Nat String) : Outcome (PyDict String String) :=
  match backendName s.options with
  | .error e => ⟨s, .error e, []⟩
  | .ok name =>
    let out := PyDict.empty.set "backend" (orDefault name "unknown")
    match s.job with
    | none => ⟨s, .ok out, []⟩
    | some job =>
      match status with
      | .error e => ⟨s, .error (.external e), [.status job]⟩
      | .ok st => ⟨s, .ok ((out.set "job id" job.jobId).set "job status" st), [.status job]⟩

def close (s : RuntimeSession) : RuntimeSession := { s with active := false }

end RuntimeSession

/-- An operation on a session, with the collaborators' answers it receives. `exit` is
`__exit__`, given the exception leaving the `with` block, if any. -/
inductive Op where
  | write (kwargs : PyDict String PyValue) (reply : Except Nat RuntimeJob)
  | read (reply : Except Nat PyValue)
  | info (status : Except Nat String)
  | close
  | enter
  | exit (raised : Option Nat)

def Outcome.discard {α : Type} (o : Outcome α) : Outcome Unit := ⟨o.session, o.result.map fun _ => (), o.calls⟩

/-- `__exit__` closes the session and returns `None`, so the block's exception propagates. -/
def apply (s : RuntimeSession) : Op → Outcome Unit
  | .write kwargs reply => s.write kwargs reply
  | .read reply => (s.read reply).discard
  | .info status => (s.info status).discard
  | .close => ⟨s.close, .ok (), []⟩
  | .enter => ⟨s, .ok (), []⟩
  | .exit raised => ⟨s.close, match raised with | some e => .error (.external e) | none => .ok (), []⟩

def exec (s : RuntimeSession) (ops : List Op) : RuntimeSession :=
  ops.foldl (fun s op => (apply s op).session) s

def Op.closes : Op → Bool
  | .close | .exit _ => true
  | _ => false

def Op.guarded : Op → Bool
  | .write .. | .read _ => true
  | _ => false

def closedBy (ops : List Op) : Bool := ops.any Op.closes

def returnedJobs : List Op → List RuntimeJob
  | [] => []
  | .write _ (.ok job) :: ops => job :: returnedJobs ops
  | op :: ops => if op.closes then [] else returnedJobs ops

end QiskitRuntime.Session
