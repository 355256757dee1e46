import QiskitRuntime.Session.RuntimeSession

/-! The Estimator and Sampler front ends: the session each call builds, and the sessions'
single-call form that writes, reads and decodes. -/

namespace QiskitRuntime.Session

open QiskitRuntime.Python

/-- Modelled from the spec: `BasePrimitive` (`base_primitive.py`, absent from the sources); the
front ends read the backend it holds. -/
structure BasePrimitive where
  backend : PyValue

/-- The options dict both `__call__`s build. -/
def primitiveOptions (p : BasePrimitive) : PyDict String PyValue :=
  let options : PyDict String PyValue :=
    if p.backend.truthy then PyDict.empty.set "backend_name" p.backend else PyDict.empty
  options.set "image" (.str "expval:748ef50")

def IBMEstimator.call (p : BasePrimitive) (circuits observables : PyValue)
    (grouping transpileOptions : PyValue := .none) : RuntimeSession :=
  .init "estimator-X322y4G534"
    (PyDict.ofList [("circuits", circuits), ("observables", observables), ("grouping", grouping),
      ("transpile_options", transpileOptions)])
    (.dict (primitiveOptions p))

def IBMSampler.call (p : BasePrimitive) (circuits : PyValue) (transpileOptions : PyValue := .none)
    (skipTranspilation : PyValue := .bool false) : RuntimeSession :=
  .init "sampler-Yxk1ZM0Rlm"
    (PyDict.ofList [("circuits", circuits), ("transpile_options", transpileOptions),
      ("skip_transpilation", skipTranspilation)])
    (.dict (primitiveOptions p))

structure EstimatorResult where
  values : PyValue
  variances : PyValue

structure SamplerResult where
  quasiDists : PyValue

/-- `self.write(parameters=parameters, run_options=run_options)` then `self.read()`, the
shared first half of both sessions' `__call__`. -/
def writeRead (s : RuntimeSession) (parameters : PyValue) (runOptions : PyDict String PyValue)
    (runReply : Except Nat RuntimeJob) (resultReply : Except Nat PyValue) : Outcome PyValue :=
  let w := s.write (PyDict.ofList [("parameters", parameters), ("run_options", .dict runOptions.entries)])
    runReply
  match w.result with
  | .error e => ⟨w.session, .error e, w.calls⟩
  | .ok () =>
    let r := w.session.read resultReply
    ⟨r.session, r.result, w.calls ++ r.calls⟩

def EstimatorSession.call (s : RuntimeSession) (parameters : PyValue)
    (runOptions : PyDict String PyValue) (runReply : Except Nat RuntimeJob)
    (resultReply : Except Nat PyValue) : Outcome EstimatorResult :=
  let r := writeRead s parameters runOptions runReply resultReply
  ⟨r.session, r.result.bind fun raw => do
    let values ← raw.getItem "values"
    let variances ← raw.getItem "variances"
    pure ⟨values, variances⟩, r.calls⟩

def SamplerSession.call (s : RuntimeSession) (parameters : PyValue)
    (runOptions : PyDict String PyValue) (runReply : Except Nat RuntimeJob)
    (resultReply : Except Nat PyValue) : Outcome SamplerResult :=
  let r := writeRead s parameters runOptions runReply resultReply
  ⟨r.session, r.result.bind fun raw => SamplerResult.mk <$> raw.getItem "quasi_dists", r.calls⟩

end QiskitRuntime.Session
