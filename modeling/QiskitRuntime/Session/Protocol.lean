import QiskitRuntime.Session.Primitives

/-! The session protocol over every sequence of operations: the state reached is fixed by the
jobs `service.run` returned and by whether the session was closed. -/

namespace QiskitRuntime.Session

open QiskitRuntime.Python

namespace RuntimeSession

variable {s : RuntimeSession}

theorem activeSession_inactive {α : Type} (h : s.active = false) (body : Outcome α) :
    s.activeSession body = ⟨s, .error sessionClosed, []⟩ := by
  simp [activeSession, h]

@[simp] theorem read_session (reply : Except Nat PyValue) : (s.read reply).session = s := by
  unfold read activeSession; split <;> (try split) <;> rfl

@[simp] theorem info_session (status : Except Nat String) : (s.info status).session = s := by
  unfold info; split <;> (try split) <;> (try split) <;> rfl

theorem close_of_inactive (h : s.active = false) : s.close = s := by
  cases s; simp_all [close]

theorem write_calls (kwargs : PyDict String PyValue) (reply : Except Nat RuntimeJob) :
    (s.write kwargs reply).calls =
      if s.active then [.run s.programId s.options (s.initialInputs.update kwargs) s.sessionId]
      else [] := by
  by_cases h : s.active <;> cases reply <;> simp [write, activeSession, h]

end RuntimeSession

open RuntimeSession

theorem apply_inactive {s : RuntimeSession} (h : s.active = false) (op : Op) :
    (apply s op).session = s := by
  cases op <;>
    simp [apply, Outcome.discard, write, activeSession_inactive h, close_of_inactive h]

theorem guarded_inactive {s : RuntimeSession} (h : s.active = false) {op : Op}
    (hop : op.guarded = true) : apply s op = ⟨s, .error sessionClosed, []⟩ := by
  cases op <;> simp_all [Op.guarded, apply, write, RuntimeSession.read, Outcome.discard,
    activeSession_inactive, Except.map]

theorem guarded_active {s : RuntimeSession} (h : s.active = true) {op : Op}
    (hop : op.guarded = true) : (apply s op).result ≠ .error sessionClosed := by
  cases op with
  | write kwargs reply => cases reply <;> simp [apply, write, activeSession, h, sessionClosed]
  | read reply =>
    simp only [apply, Outcome.discard, RuntimeSession.read, activeSession, h, if_true]
    split
    · simp [Except.map, sessionClosed]
    · cases reply <;> simp [Except.map, Except.mapError, sessionClosed]
  | _ => simp [Op.guarded] at hop

@[simp] theorem exec_nil (s : RuntimeSession) : exec s [] = s := rfl

@[simp] theorem exec_cons (s : RuntimeSession) (op : Op) (ops : List Op) :
    exec s (op :: ops) = exec (apply s op).session ops := rfl

theorem exec_inactive {s : RuntimeSession} (h : s.active = false) (ops : List Op) :
    exec s ops = s := by
  induction ops with
  | nil => rfl
  | cons op ops ih => rw [exec_cons, apply_inactive h, ih]

theorem exec_active {s : RuntimeSession} (hs : s.active = true) (ops : List Op) :
    exec s ops =
      { s with job := Option.or (returnedJobs ops).getLast? s.job,
               sessionId := Option.or s.sessionId ((returnedJobs ops).head?.map (·.jobId)),
               active := !closedBy ops } := by
  induction ops generalizing s with
  | nil => cases s; simp_all [returnedJobs, closedBy]
  | cons op ops ih =>
    cases op with
    | write kwargs reply =>
      cases reply with
      | error e => simp [apply, write, activeSession, hs, ih, returnedJobs, closedBy, Op.closes]
      | ok job =>
        rw [exec_cons, ih (by simp [apply, write, activeSession, hs])]
        cases h : (returnedJobs ops).getLast? <;>
          simp [apply, write, activeSession, hs, returnedJobs, closedBy, Op.closes, h,
            Option.or_assoc, List.getLast?_cons]
    | read _ | info _ | enter => simp [apply, Outcome.discard, ih hs, returnedJobs, closedBy, Op.closes]
    | close | exit _ => simp [apply, exec_inactive, close, returnedJobs, closedBy, Op.closes]

theorem exec_init (programId : String) (inputs : PyDict String PyValue) (options : SessionOptions)
    (ops : List Op) :
    exec (.init programId inputs options) ops =
      { programId, initialInputs := inputs, options, job := (returnedJobs ops).getLast?,
        sessionId := (returnedJobs ops).head?.map (·.jobId), active := !closedBy ops } := by
  rw [exec_active rfl]; simp [RuntimeSession.init]

/-- After any operations, a write on an open session calls `service.run` once, with the initial
inputs overlaid by its own keyword arguments and the first returned job's id. -/
theorem write_sequence_law (programId : String) (inputs : PyDict String PyValue)
    (options : SessionOptions) (pre : List Op) (kwargs : PyDict String PyValue)
    (reply : Except Nat RuntimeJob) :
    let s := exec (.init programId inputs options) pre
    let sid := (returnedJobs pre).head?.map (·.jobId)
    s.initialInputs = inputs ∧ s.sessionId = sid ∧ s.job = (returnedJobs pre).getLast? ∧
      (closedBy pre = false → ∃ sent, (s.write kwargs reply).calls = [.run programId options sent sid] ∧
        ∀ k, sent.get? k = (kwargs.get? k).or (inputs.get? k)) := by
  simp only [exec_init, true_and]
  exact fun hc => ⟨inputs.update kwargs, by simp [write_calls, hc], PyDict.get?_update inputs kwargs⟩

/-- A write or read raises the closed-session error exactly after a `close` or `__exit__`, and then
changes nothing. -/
theorem closed_session_is_inert (programId : String) (inputs : PyDict String PyValue)
    (options : SessionOptions) (pre : List Op) :
    let s := exec (.init programId inputs options) pre
    s.active = !closedBy pre ∧
      ∀ op, op.guarded = true →
        ((apply s op).result = .error sessionClosed ↔ closedBy pre = true) ∧
        (closedBy pre = true → apply s op = ⟨s, .error sessionClosed, []⟩) := by
  intro s
  have hs : s.active = !closedBy pre := by simp [s, exec_init]
  refine ⟨hs, fun op hop => ?_⟩
  cases hc : closedBy pre
  · have ha : s.active = true := by simp [hs, hc]
    exact ⟨by simp [guarded_active ha hop], by simp⟩
  · have ha : s.active = false := by simp [hs, hc]
    exact ⟨by simp [guarded_inactive ha hop], fun _ => guarded_inactive ha hop⟩

/-- After any operations, `read` asks the latest job `service.run` returned for its result, once. -/
theorem read_after_history (programId : String) (inputs : PyDict String PyValue)
    (options : SessionOptions) (pre : List Op) (reply : Except Nat PyValue) :
    let s := exec (.init programId inputs options) pre
    s.read reply =
      if closedBy pre then ⟨s, .error sessionClosed, []⟩
      else match (returnedJobs pre).getLast? with
        | none => ⟨s, .error (.attributeError "'NoneType' object has no attribute 'result'"), []⟩
        | some job => ⟨s, reply.mapError .external, [.result job]⟩ := by
  cases hc : closedBy pre <;> cases hj : (returnedJobs pre).getLast? <;>
    simp [exec_init, RuntimeSession.read, activeSession, hc, hj]

/-- `info`, which `@_active_session` does not guard, answers after any operations, a close included. -/
theorem info_after_history (programId : String) (inputs : PyDict String PyValue) (ro : RuntimeOptions)
    (pre : List Op) (status : Except Nat String) :
    let s := exec (.init programId inputs (.runtimeOptions ro)) pre
    let out := PyDict.empty.set "backend" (orDefault ro.backendName "unknown")
    s.info status =
      match (returnedJobs pre).getLast?, status with
      | none, _ => ⟨s, .ok out, []⟩
      | some job, .error e => ⟨s, .error (.external e), [.status job]⟩
      | some job, .ok st => ⟨s, .ok ((out.set "job id" job.jobId).set "job status" st), [.status job]⟩ := by
  cases hj : (returnedJobs pre).getLast? <;> cases status <;>
    simp [exec_init, RuntimeSession.info, backendName, hj]

/-- `info()` on every session either front end builds, in every state it reaches, raises
`AttributeError`: the options the front ends pass are a dict, which has no `backend_name`. -/
theorem front_end_info_raises (p : BasePrimitive)
    (circuits observables grouping transpileOptions skipTranspilation : PyValue) (ops : List Op)
    (status : Except Nat String) :
    ((exec (IBMEstimator.call p circuits observables grouping transpileOptions) ops).info
        status).result = .error (.attributeError "'dict' object has no attribute 'backend_name'") ∧
      ((exec (IBMSampler.call p circuits transpileOptions skipTranspilation) ops).info
        status).result = .error (.attributeError "'dict' object has no attribute 'backend_name'") := by
  simp [IBMEstimator.call, IBMSampler.call, exec_init, RuntimeSession.info, backendName]

end QiskitRuntime.Session
