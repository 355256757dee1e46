import QiskitRuntime.Fake.Registry

/-! The program registry over runs of the fake client: `program_get` reports, field by field, the
latest truthy value supplied. -/

namespace QiskitRuntime.Fake

open QiskitRuntime.Python

def orTruthy {α : Type} (truthy : α → Bool) (value : Option α) (old : α) : α :=
  match value with
  | some v => if truthy v then v else old
  | none => old

/-- The latest truthy value `later` supplied, `None` counting as not supplied, else `first`. -/
def latestTruthy {α : Type} (truthy : α → Bool) (first : α) (later : List (Option α)) : α :=
  ((later.filterMap id).filter truthy).getLast?.getD first

theorem latestTruthy_cons {α : Type} (truthy : α → Bool) (first : α) (x : Option α)
    (later : List (Option α)) :
    latestTruthy truthy first (x :: later) = latestTruthy truthy (orTruthy truthy x first) later := by
  cases x with
  | none => rfl
  | some v =>
    by_cases h : truthy v
    · simp [latestTruthy, orTruthy, h, List.filter_cons, List.getLast?_cons]
    · simp [latestTruthy, orTruthy, h, List.filter_cons]

theorem orDefault_eq_orTruthy (value : Option String) (old : String) :
    orDefault value old = orTruthy (fun s => !s.isEmpty) value old := by
  cases value with
  | none => rfl
  | some s => cases h : s.isEmpty <;> simp [orDefault, orTruthy, h]

theorem orNum_eq_orTruthy (value : Option Int) (old : Int) :
    orNum 0 value old = orTruthy (· != 0) value old := by
  cases value with
  | none => rfl
  | some n => by_cases h : n = 0 <;> simp [orNum, orTruthy, h]

def ClientOp.programKey : ClientOp → Option String
  | .programCreate _ name .. => some name
  | .programUpdate programId .. | .programDelete programId | .setProgramVisibility programId _ =>
    some programId
  | _ => none

structure ProgramUpdate where
  programData : Option String
  name : Option String
  description : Option String
  maxExecutionTime : Option Int
  spec : Option (PyDict String PyValue)

def ProgramUpdate.op (programId : String) (u : ProgramUpdate) : ClientOp :=
  .programUpdate programId u.programData u.name u.description u.maxExecutionTime u.spec

def updatedProgram (p : FakeProgram) (u : ProgramUpdate) : FakeProgram :=
  let p := { p with data := orDefault u.programData p.data, name := orDefault u.name p.name,
                    description := orDefault u.description p.description,
                    cost := orNum 0 u.maxExecutionTime p.cost }
  match u.spec with
  | some s => if s.entries.isEmpty then p else FakeRuntimeClient.updateSpec p s
  | none => p

theorem updatedProgram_eq (p : FakeProgram) (u : ProgramUpdate) :
    updatedProgram p u =
      { p with data := orTruthy (fun s => !s.isEmpty) u.programData p.data,
               name := orTruthy (fun s => !s.isEmpty) u.name p.name,
               description := orTruthy (fun s => !s.isEmpty) u.description p.description,
               cost := orTruthy (· != 0) u.maxExecutionTime p.cost,
               backendRequirements := orTruthy PyValue.truthy
                 (u.spec.map (specGet · "backend_requirements")) p.backendRequirements,
               parameters := orTruthy PyValue.truthy (u.spec.map (specGet · "parameters")) p.parameters,
               returnValues := orTruthy PyValue.truthy (u.spec.map (specGet · "return_values")) p.returnValues,
               interimResults := orTruthy PyValue.truthy
                 (u.spec.map (specGet · "interim_results")) p.interimResults } := by
  have empty_get : ∀ (s : PyDict String PyValue) (key : String), s.entries = [] → specGet s key = .none :=
    fun s key h => by simp [specGet, PyDict.get?, h, lookupEntry]
  simp only [updatedProgram, orDefault_eq_orTruthy, orNum_eq_orTruthy]
  rcases u with ⟨_, _, _, _, _ | s⟩
  · rfl
  · by_cases h : s.entries = []
    · simp [h, empty_get s _ h, orTruthy, PyValue.truthy]
    · simp [h, FakeRuntimeClient.updateSpec, orTruthy, PyValue.or]

theorem foldl_updatedProgram (p : FakeProgram) (us : List ProgramUpdate) :
    us.foldl updatedProgram p =
      { p with data := latestTruthy (fun s => !s.isEmpty) p.data (us.map (·.programData)),
               name := latestTruthy (fun s => !s.isEmpty) p.name (us.map (·.name)),
               description := latestTruthy (fun s => !s.isEmpty) p.description (us.map (·.description)),
               cost := latestTruthy (· != 0) p.cost (us.map (·.maxExecutionTime)),
               backendRequirements := latestTruthy PyValue.truthy p.backendRequirements
                 (us.map fun u => u.spec.map (specGet · "backend_requirements")),
               parameters := latestTruthy PyValue.truthy p.parameters
                 (us.map fun u => u.spec.map (specGet · "parameters")),
               returnValues := latestTruthy PyValue.truthy p.returnValues
                 (us.map fun u => u.spec.map (specGet · "return_values")),
               interimResults := latestTruthy PyValue.truthy p.interimResults
                 (us.map fun u => u.spec.map (specGet · "interim_results")) } := by
  induction us generalizing p with
  | nil => rfl
  | cons u us ih => simp only [List.foldl_cons, ih, updatedProgram_eq, List.map_cons, latestTruthy_cons]

namespace FakeRuntimeClient

variable {c : FakeRuntimeClient}

theorem programGet_of_get? (decode : String → Except String String) {programId : String}
    {p : FakeProgram} (h : c.programs.get? programId = some p) :
    c.programGet decode programId = ((decode p.data).mapError .valueError).map fun d => p.toDict (some d) := by
  unfold programGet
  rw [h]
  dsimp only
  cases decode p.data <;> rfl

theorem programUpdate_of_get? {programId : String} {p : FakeProgram} (h : c.programs.get? programId = some p)
    (u : ProgramUpdate) :
    c.programUpdate programId u.programData u.name u.description u.maxExecutionTime u.spec =
      ⟨{ c with programs := c.programs.set programId (updatedProgram p u) }, .ok ()⟩ := by
  unfold programUpdate
  rw [h]
  rfl

theorem run_updates (b : Builtins) (programId : String) (us : List ProgramUpdate) {p : FakeProgram}
    (h : c.programs.get? programId = some p) :
    (c.run b (us.map (·.op programId))).jobs = c.jobs ∧
      ∀ k, (c.run b (us.map (·.op programId))).programs.get? k =
        if programId = k then some (us.foldl updatedProgram p) else c.programs.get? k := by
  induction us generalizing c p with
  | nil => exact ⟨rfl, fun k => by split <;> simp_all⟩
  | cons u us ih =>
    have step : (c.apply b (u.op programId)).client =
        { c with programs := c.programs.set programId (updatedProgram p u) } := by
      simp only [apply, ProgramUpdate.op, programUpdate_of_get? h]
      rfl
    obtain ⟨hjobs, hget⟩ := ih (c := { c with programs := c.programs.set programId (updatedProgram p u) })
      (p := updatedProgram p u) (by simp)
    rw [List.map_cons, run_cons, step]
    exact ⟨hjobs, fun k => by rw [hget k]; split <;> simp_all⟩

theorem apply_programs (b : Builtins) (c : FakeRuntimeClient) (op : ClientOp) :
    (c.apply b op).client.programs = c.programs ∨
      ∃ k, op.programKey = some k ∧
        ((∃ p, (c.apply b op).client.programs = c.programs.set k p ∧
            (p.id = k ∨ ∃ p₀, c.programs.get? k = some p₀ ∧ p.id = p₀.id)) ∨
          (c.apply b op).client.programs = c.programs.erase k) := by
  cases op
  case programCreate data name description cost spec isPublic =>
    simp only [apply, Outcome.map, programCreate]
    split_ifs
    · exact .inl rfl
    · cases spec
      · exact .inl rfl
      · exact .inr ⟨name, rfl, .inl ⟨_, rfl, .inl rfl⟩⟩
  case programUpdate programId data name description cost spec =>
    simp only [apply, Outcome.map]
    cases h : c.programs.get? programId with
    | none => simp [programUpdate, h]
    | some p =>
      rw [programUpdate_of_get? h ⟨data, name, description, cost, spec⟩]
      exact .inr ⟨programId, rfl, .inl ⟨_, rfl, .inr ⟨p, h, by rw [updatedProgram_eq]⟩⟩⟩
  case programDelete programId =>
    simp only [apply, Outcome.map, programDelete]
    split_ifs
    · exact .inr ⟨programId, rfl, .inr rfl⟩
    · exact .inl rfl
  case setProgramVisibility programId public =>
    simp only [apply, Outcome.map, setProgramVisibility]
    split
    · next p h => exact .inr ⟨programId, rfl, .inl ⟨_, rfl, .inr ⟨p, h, rfl⟩⟩⟩
    · exact .inl rfl
  -- every other call keeps the registry
  all_goals
    refine .inl ?_
    simp only [apply, Outcome.map, setJobClasses, programRun, jobCancel, jobDelete, tick]
    repeat' split
    all_goals rfl

/-- A run of calls none of which names `k` keeps the record under `k`. -/
theorem run_keeps_program (b : Builtins) (c : FakeRuntimeClient) (ops : List ClientOp) {k : String}
    (h : ∀ op ∈ ops, op.programKey ≠ some k) : (c.run b ops).programs.get? k = c.programs.get? k := by
  induction ops generalizing c with
  | nil => rfl
  | cons op ops ih =>
    rw [run_cons, ih _ fun op' h' => h op' (List.mem_cons_of_mem _ h')]
    rcases apply_programs b c op with h1 | ⟨k', hk', ⟨p, h1, -⟩ | h1⟩ <;> rw [h1]
    all_goals
      have hne : k' ≠ k := fun e => h op (List.mem_cons_self _ _) (e ▸ hk')
      simp [hne]

end FakeRuntimeClient

theorem other_program_calls_keep_prog :
    let c := ((FakeRuntimeClient.init [] none .empty none none none).programCreate "" "prog" "" 0
      (some .empty) false).client
    let ops := [ClientOp.programCreate "" "other" "" 0 (some .empty) false, .programDelete "other"]
    (∀ op ∈ ops, op.programKey ≠ some "prog") ∧
      (c.run ⟨id, .ok⟩ ops).programs.get? "prog" = c.programs.get? "prog" :=
  ⟨by decide, FakeRuntimeClient.run_keeps_program _ _ _ (by decide)⟩

theorem Reachable.program_id {c : FakeRuntimeClient} (h : Reachable c) {k : String} {p : FakeProgram}
    (hp : c.programs.get? k = some p) : p.id = k := by
  induction h generalizing k p with
  | init => simp [FakeRuntimeClient.init] at hp
  | @step c b op _ ih =>
    rcases FakeRuntimeClient.apply_programs b c op with h1 | ⟨k', -, ⟨p', h1, hid⟩ | h1⟩ <;>
      simp only [h1, PyDict.get?_set, PyDict.get?_erase] at hp
    · exact ih hp
    · split_ifs at hp with hk
      · cases hp
        subst hk
        rcases hid with hid | ⟨p₀, h₀, hid⟩
        · exact hid
        · exact hid.trans (ih h₀)
      · exact ih hp
    · split_ifs at hp
      exact ih hp

/-- The record `program_create(p, ...)` and `updates` are described to leave. -/
def latestProgram (p data description : String) (cost : Int) (spec : PyDict String PyValue)
    (isPublic : Bool) (updates : List ProgramUpdate) : FakeProgram :=
  let entry (key : String) : PyValue :=
    latestTruthy PyValue.truthy (specGet spec key) (updates.map fun u => u.spec.map (specGet · key))
  { id := p, name := latestTruthy (fun s => !s.isEmpty) p (updates.map (·.name)),
    data := latestTruthy (fun s => !s.isEmpty) data (updates.map (·.programData)),
    cost := latestTruthy (· != 0) cost (updates.map (·.maxExecutionTime)),
    description := latestTruthy (fun s => !s.isEmpty) description (updates.map (·.description)),
    backendRequirements := entry "backend_requirements", parameters := entry "parameters",
    returnValues := entry "return_values", interimResults := entry "interim_results", isPublic }

/-- After `program_create(p, ...)` and any updates of `p`, `program_get(p)` reports for each field the
latest truthy value supplied; other programs and the jobs are as before. -/
theorem program_get_reports_latest_truthy (b : Builtins) (c : FakeRuntimeClient)
    (p data description : String) (cost : Int) (spec : PyDict String PyValue) (isPublic : Bool)
    (updates : List ProgramUpdate) (hnew : c.programs.contains p = false) :
    let c' := c.run b (.programCreate data p description cost (some spec) isPublic :: updates.map (·.op p))
    let r := latestProgram p data description cost spec isPublic updates
    c'.programGet b.b64decode p = ((b.b64decode r.data).mapError .valueError).map (fun d => r.toDict (some d)) ∧
      (∀ q, q ≠ p → c'.programs.get? q = c.programs.get? q) ∧ c'.jobs = c.jobs := by
  intro c' r
  let created := FakeRuntimeClient.createdProgram data p description cost spec isPublic
  have create : (c.apply b (.programCreate data p description cost (some spec) isPublic)).client =
      { c with programs := c.programs.set p created } := by
    simp [FakeRuntimeClient.apply, FakeRuntimeClient.programCreate, hnew, Outcome.map, created]
  obtain ⟨hjobs, hget⟩ := FakeRuntimeClient.run_updates b p updates
    (c := { c with programs := c.programs.set p created }) (p := created) (by simp)
  have hr : updates.foldl updatedProgram created = r := by rw [foldl_updatedProgram]; rfl
  simp only [c', FakeRuntimeClient.run_cons, create]
  exact ⟨FakeRuntimeClient.programGet_of_get? _ (by rw [hget p, if_pos rfl, hr]),
    fun q hq => by rw [hget q, if_neg (Ne.symm hq), PyDict.get?_set, if_neg (Ne.symm hq)], hjobs⟩

theorem zero_cost_update_keeps_latest_truthy :
    (FakeRuntimeClient.init [] none .empty none none none).programs.contains "prog" = false ∧
      let c := FakeRuntimeClient.init [] none .empty none none none
      let c' := c.run ⟨id, .ok⟩ (.programCreate "" "prog" "" 300 (some .empty) false ::
        ([⟨none, none, none, some 0, none⟩] : List ProgramUpdate).map (·.op "prog"))
      let r := latestProgram "prog" "" "" 300 .empty false [⟨none, none, none, some 0, none⟩]
      c'.programGet .ok "prog" = ((Except.ok r.data).mapError .valueError).map (fun d => r.toDict (some d)) ∧
        (∀ q, q ≠ "prog" → c'.programs.get? q = c.programs.get? q) ∧ c'.jobs = c.jobs :=
  ⟨rfl, program_get_reports_latest_truthy ⟨id, .ok⟩ (.init [] none .empty none none none) "prog" "" ""
    300 .empty false [⟨none, none, none, some 0, none⟩] rfl⟩

/-- The latest update supplies `max_execution_time=0`, yet `program_get` reports the cost 300
`program_create` stored. -/
theorem zero_cost_update_is_dropped :
    ((((FakeRuntimeClient.init [] none .empty none none none).programCreate "" "prog" "" 300
        (some .empty) false).client.programUpdate "prog" none none none (some 0) none).client.programGet
        (fun _ => .ok "") "prog") =
      .ok (FakeProgram.toDict
        { id := "prog", name := "prog", data := "", cost := 300, description := "",
          backendRequirements := .none, parameters := .none, returnValues := .none,
          interimResults := .none, isPublic := false } (some "")) := rfl

end QiskitRuntime.Fake
