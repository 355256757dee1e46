import QiskitRuntime.Session.Protocol

/-! A caller's sequence of calls of the session a front end returns: each call runs the front
end's program once and, when that run returned a job, decodes the result of that job. -/

namespace QiskitRuntime.Session

open QiskitRuntime.Python

/-- One `__call__`: its arguments and what `service.run` and the job's `result` return or raise. -/
structure CallArgs where
  parameters : PyValue
  runOptions : PyDict String PyValue
  runReply : Except Nat RuntimeJob
  resultReply : Except Nat PyValue

/-- The session operations one `__call__` makes: a write of `parameters` and `run_options`, then a
read when `service.run` returned a job. -/
def CallArgs.ops (a : CallArgs) : List Op :=
  .write (PyDict.ofList [("parameters", a.parameters), ("run_options", .dict a.runOptions.entries)])
      a.runReply ::
    match a.runReply with
    | .ok _ => [.read a.resultReply]
    | .error _ => []

def runJobs (calls : List CallArgs) : List RuntimeJob := calls.filterMap (·.runReply.toOption)

def callSession {α : Type} (call : RuntimeSession → PyValue → PyDict String PyValue →
      Except Nat RuntimeJob → Except Nat PyValue → Outcome α)
    (s : RuntimeSession) (calls : List CallArgs) : RuntimeSession :=
  calls.foldl (fun s a => (call s a.parameters a.runOptions a.runReply a.resultReply).session) s

theorem primitiveOptions_image (p : BasePrimitive) :
    (primitiveOptions p).get? "image" = some (.str "expval:748ef50") := by
  simp [primitiveOptions]

theorem primitiveOptions_backend_name (p : BasePrimitive) :
    (primitiveOptions p).get? "backend_name" = if p.backend.truthy then some p.backend else none := by
  unfold primitiveOptions
  split <;> simp [*]

theorem call_inputs_get? (inputs : PyDict String PyValue) (parameters : PyValue)
    (runOptions : PyDict String PyValue) (k : String) :
    (inputs.update (PyDict.ofList [("parameters", parameters), ("run_options", .dict runOptions.entries)])).get? k =
      if k = "parameters" then some parameters
      else if k = "run_options" then some (.dict runOptions.entries) else inputs.get? k := by
  rw [PyDict.get?_update]
  by_cases h₁ : k = "parameters"
  · simp [PyDict.ofList, h₁]
  · by_cases h₂ : k = "run_options"
    · simp [PyDict.ofList, h₂]
    · simp [PyDict.ofList, h₁, h₂, Ne.symm h₁, Ne.symm h₂]

theorem writeRead_active {s : RuntimeSession} (hs : s.active = true) (parameters : PyValue)
    (runOptions : PyDict String PyValue) (runReply : Except Nat RuntimeJob) (reply : Except Nat PyValue) :
    (writeRead s parameters runOptions runReply reply).calls =
        .run s.programId s.options (s.initialInputs.update
          (PyDict.ofList [("parameters", parameters), ("run_options", .dict runOptions.entries)])) s.sessionId ::
          (match runReply with
          | .ok job => [.result job]
          | .error _ => []) ∧
      (writeRead s parameters runOptions runReply reply).result =
        (runReply.mapError .external).bind fun _ => reply.mapError .external := by
  cases runReply <;>
    simp [writeRead, RuntimeSession.write, RuntimeSession.read, RuntimeSession.activeSession, hs,
      Except.mapError, Except.bind]

theorem writeRead_session (s : RuntimeSession) (parameters : PyValue) (runOptions : PyDict String PyValue)
    (runReply : Except Nat RuntimeJob) (resultReply : Except Nat PyValue) :
    (writeRead s parameters runOptions runReply resultReply).session =
      (s.write (PyDict.ofList [("parameters", parameters), ("run_options", .dict runOptions.entries)])
        runReply).session := by
  unfold writeRead
  dsimp only
  split <;> simp

theorem returnedJobs_ops (calls : List CallArgs) :
    returnedJobs (calls.flatMap CallArgs.ops) = runJobs calls ∧ closedBy (calls.flatMap CallArgs.ops) = false := by
  induction calls with
  | nil => exact ⟨rfl, rfl⟩
  | cons a calls ih =>
    cases h : a.runReply <;>
      simpa [CallArgs.ops, runJobs, h, returnedJobs, closedBy, Op.closes, Except.toOption] using ih

section Calls

variable {α : Type} {call : RuntimeSession → PyValue → PyDict String PyValue →
  Except Nat RuntimeJob → Except Nat PyValue → Outcome α}

/-- A caller's calls of a session's `__call__` are its writes and reads: every law of the session
protocol holds of them. -/
theorem callSession_eq_exec
    (hcall : ∀ s x r j y, (call s x r j y).session = (writeRead s x r j y).session)
    (s : RuntimeSession) (calls : List CallArgs) :
    callSession call s calls = exec s (calls.flatMap CallArgs.ops) := by
  induction calls generalizing s with
  | nil => rfl
  | cons a calls ih =>
    rw [List.flatMap_cons, exec, List.foldl_append, ← exec, ← ih, callSession, List.foldl_cons, hcall,
      writeRead_session]
    cases h : a.runReply <;> simp [CallArgs.ops, h, apply, Outcome.discard, callSession]

theorem estimator_call_is_write_and_read :
    (∀ s x r j y, (EstimatorSession.call s x r j y).session = (writeRead s x r j y).session) ∧
      callSession EstimatorSession.call (.init "prog" .empty .none)
          [⟨.none, .empty, .error 7, .ok .none⟩, ⟨.none, .empty, .ok ⟨"job"⟩, .ok .none⟩] =
        exec (.init "prog" .empty .none)
          (([⟨.none, .empty, .error 7, .ok .none⟩, ⟨.none, .empty, .ok ⟨"job"⟩, .ok .none⟩] : List CallArgs).flatMap
            CallArgs.ops) :=
  ⟨fun _ _ _ _ _ => rfl, callSession_eq_exec (fun _ _ _ _ _ => rfl) _ _⟩

theorem callSession_active
    (hcall : ∀ s x r j y, (call s x r j y).session = (writeRead s x r j y).session)
    {s : RuntimeSession} (hs : s.active = true) (calls : List CallArgs) :
    callSession call s calls =
      { s with job := (runJobs calls).getLast?.or s.job,
               sessionId := s.sessionId.or ((runJobs calls).head?.map (·.jobId)) } := by
  rw [callSession_eq_exec hcall, exec_active hs, (returnedJobs_ops calls).1, (returnedJobs_ops calls).2]
  cases s
  simp_all

theorem call_after
    (hcall : ∀ s x r j y, (call s x r j y).session = (writeRead s x r j y).session)
    (programId : String) (inputs : PyDict String PyValue) (options : SessionOptions)
    (prev : List CallArgs) (a : CallArgs) :
    (writeRead (callSession call (.init programId inputs options) prev) a.parameters a.runOptions
        a.runReply a.resultReply).calls =
      .run programId options (inputs.update (PyDict.ofList
        [("parameters", a.parameters), ("run_options", .dict a.runOptions.entries)]))
        ((runJobs prev).head?.map (·.jobId)) ::
        (match a.runReply with
        | .ok job => [.result job]
        | .error _ => []) ∧
    (writeRead (callSession call (.init programId inputs options) prev) a.parameters a.runOptions
        a.runReply a.resultReply).result =
      (a.runReply.mapError .external).bind fun _ => a.resultReply.mapError .external := by
  rw [callSession_active hcall rfl]
  exact writeRead_active rfl ..

end Calls

/-- The `k`-th call of the session `IBMEstimator` or `IBMSampler` returns runs the program once on
the front end's own inputs overlaid by the call's arguments, then reads the job that run returned. -/
theorem front_end_call_sequence (p : BasePrimitive)
    (circuits observables grouping transpileOptions skipTranspilation : PyValue)
    (prev : List CallArgs) (a : CallArgs) :
    let e := EstimatorSession.call
      (callSession EstimatorSession.call (IBMEstimator.call p circuits observables grouping transpileOptions) prev)
      a.parameters a.runOptions a.runReply a.resultReply
    let r := SamplerSession.call
      (callSession SamplerSession.call (IBMSampler.call p circuits transpileOptions skipTranspilation) prev)
      a.parameters a.runOptions a.runReply a.resultReply
    let sid := (runJobs prev).head?.map (·.jobId)
    let sent (front : List (String × PyValue)) (k : String) : Option PyValue :=
      if k = "parameters" then some a.parameters
      else if k = "run_options" then some (.dict a.runOptions.entries) else lookupEntry k front
    let reads : List Call :=
      match a.runReply with
      | .ok job => [.result job]
      | .error _ => []
    let raw := (a.runReply.mapError .external).bind fun _ => a.resultReply.mapError .external
    (primitiveOptions p).get? "image" = some (.str "expval:748ef50") ∧
    (primitiveOptions p).get? "backend_name" = (if p.backend.truthy then some p.backend else none) ∧
    (∃ inputs, e.calls = .run "estimator-X322y4G534" (.dict (primitiveOptions p)) inputs sid :: reads ∧
      ∀ k, inputs.get? k = sent [("circuits", circuits), ("observables", observables),
        ("grouping", grouping), ("transpile_options", transpileOptions)] k) ∧
    e.result = raw.bind (fun raw => do
      let values ← raw.getItem "values"
      let variances ← raw.getItem "variances"
      pure ⟨values, variances⟩) ∧
    (∃ inputs, r.calls = .run "sampler-Yxk1ZM0Rlm" (.dict (primitiveOptions p)) inputs sid :: reads ∧
      ∀ k, inputs.get? k = sent [("circuits", circuits), ("transpile_options", transpileOptions),
        ("skip_transpilation", skipTranspilation)] k) ∧
    r.result = raw.bind (fun raw => SamplerResult.mk <$> raw.getItem "quasi_dists") := by
  intro e r sid sent reads raw
  have he := @call_after _ EstimatorSession.call (fun _ _ _ _ _ => rfl) "estimator-X322y4G534"
    (PyDict.ofList [("circuits", circuits), ("observables", observables), ("grouping", grouping),
      ("transpile_options", transpileOptions)]) (.dict (primitiveOptions p)) prev a
  have hr := @call_after _ SamplerSession.call (fun _ _ _ _ _ => rfl) "sampler-Yxk1ZM0Rlm"
    (PyDict.ofList [("circuits", circuits), ("transpile_options", transpileOptions),
      ("skip_transpilation", skipTranspilation)]) (.dict (primitiveOptions p)) prev a
  refine ⟨primitiveOptions_image p, primitiveOptions_backend_name p,
    ⟨_, he.1, fun k => ?_⟩, by rw [show raw = _ from he.2.symm]; rfl, ⟨_, hr.1, fun k => ?_⟩,
    by rw [show raw = _ from hr.2.symm]; rfl⟩
  all_goals rw [call_inputs_get?, PyDict.get?_ofList (by simp)]

end QiskitRuntime.Session
