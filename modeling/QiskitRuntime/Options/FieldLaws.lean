import Mathlib.Data.List.Basic
import QiskitRuntime.Options.Invariants

/-! Field by field, what construction and assignment do to an `EstimatorOptions` object: a rejected
value changes nothing, and `_validate_options` runs once the value is stored. -/

namespace QiskitRuntime.Options

/-- The message of both level validators: `_validate_resilience_level` says `optimization_level`
too. -/
def levelMessage : String := "Invalid optimization_level. Valid range is 0-3"

def literalMessage : String := "Input should be 'XX', 'XpXm' or 'XY4'"

def unsetMessage : String := "Input should be an instance of UnsetType"

def simulatorRuleMessage : String :=
  "When the backend is a simulator and resilience_level == 3,a coupling map is required."

def SequenceValid : UnsetOr String → Prop
  | .unset => True
  | .value s => s ∈ ddSequenceTypes

instance : DecidablePred SequenceValid
  | .unset => isTrue trivial
  | .value s => inferInstanceAs (Decidable (s ∈ ddSequenceTypes))

namespace Assignment

/-- The attribute an assignment writes; `simulator.coupling_map` writes the nested group. -/
def target : Assignment → String
  | .isSimulator _ => "_is_simulator"
  | .optimizationLevel _ => "optimization_level"
  | .resilienceLevel _ => "resilience_level"
  | .dynamicalDecoupling _ => "dynamical_decoupling"
  | .simulator _ | .simulatorCouplingMap _ => "simulator"

def rejection : Assignment → Option ValidationError
  | .optimizationLevel v =>
    if InRange v then none else some [(valueErrorLine levelMessage).under "optimization_level"]
  | .resilienceLevel v =>
    if InRange v then none else some [(valueErrorLine levelMessage).under "resilience_level"]
  | .dynamicalDecoupling v =>
    if SequenceValid v then none
    else some [⟨["dynamical_decoupling", "is-instance[UnsetType]"], unsetMessage⟩,
      ⟨["dynamical_decoupling", "literal['XX','XpXm','XY4']"], literalMessage⟩]
  | _ => none

/-! The value an assignment gives each field, if it assigns that field. -/

def isSimulator? : Assignment → Option Bool
  | .isSimulator b => some b
  | _ => none

def optimizationLevel? : Assignment → Option (UnsetOr Int)
  | .optimizationLevel v => some v
  | _ => none

def resilienceLevel? : Assignment → Option (UnsetOr Int)
  | .resilienceLevel v => some v
  | _ => none

def dynamicalDecoupling? : Assignment → Option (UnsetOr String)
  | .dynamicalDecoupling v => some v
  | _ => none

def couplingMap? : Assignment → Option (UnsetOr CouplingMap)
  | .simulator g => some g.couplingMap
  | .simulatorCouplingMap v => some v
  | _ => none

end Assignment

def EstimatorOptions.assign (o : EstimatorOptions) : Assignment → EstimatorOptions
  | .isSimulator b => { o with isSimulator := b }
  | .optimizationLevel v => { o with optimizationLevel := v }
  | .resilienceLevel v => { o with resilienceLevel := v }
  | .dynamicalDecoupling v => { o with dynamicalDecoupling := v }
  | .simulator g => { o with simulator := g }
  | .simulatorCouplingMap v => { o with simulator := { o.simulator with couplingMap := v } }

/-- Every field holds the latest value an accepted assignment gave it, else its value in `o`. -/
def latestAccepted (o : EstimatorOptions) (as : List Assignment) : EstimatorOptions :=
  let accepted := (as.filter (·.rejection.isNone)).reverse
  { isSimulator := (accepted.findSome? (·.isSimulator?)).getD o.isSimulator
    optimizationLevel := (accepted.findSome? (·.optimizationLevel?)).getD o.optimizationLevel
    resilienceLevel := (accepted.findSome? (·.resilienceLevel?)).getD o.resilienceLevel
    dynamicalDecoupling := (accepted.findSome? (·.dynamicalDecoupling?)).getD o.dynamicalDecoupling
    simulator := { couplingMap := (accepted.findSome? (·.couplingMap?)).getD o.simulator.couplingMap } }

/-- The error an assignment on `o` is described to raise. -/
def assignmentError (o : EstimatorOptions) (a : Assignment) : Option ValidationError :=
  match a.rejection with
  | some errs => some errs
  | none =>
    if a.topLevel ∧ SimulatorWithoutCouplingMap (o.assign a) then some [valueErrorLine simulatorRuleMessage]
    else none

/-- The errors construction is described to raise for the fields, in declaration order. -/
def fieldRejections (o : EstimatorOptions) : ValidationError :=
  [Assignment.optimizationLevel o.optimizationLevel, .resilienceLevel o.resilienceLevel,
    .dynamicalDecoupling o.dynamicalDecoupling].flatMap fun a => a.rejection.getD []

/-! The validators, each as the test it makes. -/

theorem skipUnset_validateLevel_eq (message : String) (v : UnsetOr Int) :
    skipUnsetValidation (validateLevel 3 message) v = if InRange v then .ok v else .error message := by
  cases v with
  | unset => rfl
  | value w =>
    simp only [skipUnsetValidation, validateLevel, InRange]
    split <;> rfl

theorem validateOptimizationLevel_eq (v : UnsetOr Int) :
    validateOptimizationLevel v = if InRange v then .ok v else .error levelMessage :=
  skipUnset_validateLevel_eq _ v

theorem validateResilienceLevel_eq (v : UnsetOr Int) :
    validateResilienceLevel v = if InRange v then .ok v else .error levelMessage :=
  skipUnset_validateLevel_eq _ v

theorem validateDynamicalDecoupling_eq (v : UnsetOr String) :
    validateDynamicalDecoupling v = if SequenceValid v then .ok v else
      .error [⟨["is-instance[UnsetType]"], unsetMessage⟩,
        ⟨["literal['XX','XpXm','XY4']"], literalMessage⟩] := by
  cases v with
  | unset => rfl
  | value s =>
    by_cases h : s ∈ ddSequenceTypes <;>
      simp [validateDynamicalDecoupling, validateUnion, isInstanceUnset, ddSequenceLiteral, SequenceValid, h,
        unsetMessage, literalMessage]

theorem validateOptions_eq (o : EstimatorOptions) :
    validateOptions o = if SimulatorWithoutCouplingMap o then .error simulatorRuleMessage else .ok o :=
  rfl

theorem validateAssignment_of_ok {α : Type} (o : EstimatorOptions) (field : String) (v : α)
    (put : α → EstimatorOptions) :
    validateAssignment o field (.ok v) put =
      ⟨put v, if SimulatorWithoutCouplingMap (put v) then some [valueErrorLine simulatorRuleMessage] else none⟩ := by
  by_cases h : SimulatorWithoutCouplingMap (put v) <;> simp [validateAssignment, validateOptions_eq, h]

theorem validateAssignment_of_error {α : Type} (o : EstimatorOptions) (field : String)
    (errs : ValidationError) (put : α → EstimatorOptions) :
    validateAssignment o field (.error errs) put = ⟨o, some (errs.map (·.under field))⟩ := rfl

theorem setattr_eq (o : EstimatorOptions) (a : Assignment) :
    setattr o a = ⟨if a.rejection.isNone then o.assign a else o, assignmentError o a⟩ := by
  cases a
  case optimizationLevel v | resilienceLevel v =>
    by_cases h : InRange v <;>
      simp [setattr, validateOptimizationLevel_eq, validateResilienceLevel_eq, h, valueError, Except.mapError,
        validateAssignment_of_ok, validateAssignment_of_error, LineError.under, assignmentError,
        Assignment.rejection, Assignment.topLevel, EstimatorOptions.assign]
  case dynamicalDecoupling v =>
    by_cases h : SequenceValid v <;>
      simp [setattr, validateDynamicalDecoupling_eq, h, validateAssignment_of_ok,
        validateAssignment_of_error, LineError.under, assignmentError, Assignment.rejection,
        Assignment.topLevel, EstimatorOptions.assign]
  all_goals
    simp [setattr, validateAssignment_of_ok, assignmentError, Assignment.rejection, Assignment.topLevel,
      EstimatorOptions.assign]

theorem run_concat (o : EstimatorOptions) (as : List Assignment) (a : Assignment) :
    run o (as ++ [a]) = (setattr (run o as) a).obj :=
  List.foldl_append ..

theorem latestAccepted_nil (o : EstimatorOptions) : latestAccepted o [] = o := rfl

theorem findSome?_cons_getD {β : Type} (f : Assignment → Option β) (a : Assignment) (l : List Assignment)
    (i : β) : ((a :: l).findSome? f).getD i = (f a).getD ((l.findSome? f).getD i) := by
  cases h : f a <;> simp [List.findSome?_cons, h]

theorem latestAccepted_concat (o : EstimatorOptions) (as : List Assignment) (a : Assignment) :
    latestAccepted o (as ++ [a]) =
      if a.rejection.isNone then (latestAccepted o as).assign a else latestAccepted o as := by
  by_cases h : a.rejection.isNone
  · simp only [latestAccepted, List.filter_append, List.filter_singleton, h, cond_true,
      List.reverse_append, List.reverse_singleton, List.singleton_append, findSome?_cons_getD, if_true]
    cases a <;> rfl
  · simp [latestAccepted, List.filter_append, h]

theorem run_eq_latestAccepted (o : EstimatorOptions) (as : List Assignment) :
    run o as = latestAccepted o as := by
  induction as using List.reverseRecOn with
  | nil => rfl
  | append_singleton as a ih => rw [run_concat, latestAccepted_concat, ih, setattr_eq]

theorem latestAccepted_cons (o : EstimatorOptions) (a : Assignment) (as : List Assignment) :
    latestAccepted o (a :: as) = latestAccepted (setattr o a).obj as := by
  rw [← run_eq_latestAccepted, ← run_eq_latestAccepted]
  rfl

/-- Over any run of assignments every field holds the latest value its validator accepted, and
the `i`-th assignment raises the described error on the object the first `i` left. -/
theorem run_stores_latest_accepted (o : EstimatorOptions) (as : List Assignment) :
    run o as = latestAccepted o as ∧
      runErrors o as = as.mapIdx fun i a => assignmentError (latestAccepted o (as.take i)) a := by
  refine ⟨run_eq_latestAccepted o as, ?_⟩
  induction as generalizing o with
  | nil => rfl
  | cons a as ih =>
    simp only [runErrors, ih, List.mapIdx_cons, List.take_zero, latestAccepted_nil, List.take_succ_cons,
      latestAccepted_cons, setattr_eq]

theorem assign_comm (o : EstimatorOptions) {a a' : Assignment} (h : a.target ≠ a'.target) :
    (o.assign a).assign a' = (o.assign a').assign a := by
  cases a <;> cases a' <;> first | rfl | exact absurd rfl h

/-- Assignments to different attributes commute anywhere in a run, whatever their validators said. -/
theorem run_swap_distinct (o : EstimatorOptions) (as bs : List Assignment) {a a' : Assignment}
    (h : a.target ≠ a'.target) : run o (as ++ a :: a' :: bs) = run o (as ++ a' :: a :: bs) := by
  have swap : ∀ p, (setattr (setattr p a).obj a').obj = (setattr (setattr p a').obj a).obj := fun p => by
    simp only [setattr_eq]
    by_cases ha : a.rejection.isNone <;> by_cases ha' : a'.rejection.isNone <;> simp [ha, ha', assign_comm p h]
  simp only [run, List.foldl_append, List.foldl_cons, swap]

theorem simulator_flag_and_level_commute :
    (Assignment.isSimulator true).target ≠ (Assignment.resilienceLevel (.value 3)).target ∧
      run {} ([] ++ .isSimulator true :: .resilienceLevel (.value 3) :: []) =
        run {} ([] ++ .resilienceLevel (.value 3) :: .isSimulator true :: []) :=
  ⟨by decide, run_swap_distinct {} [] [] (by decide)⟩

/-! Construction. -/

theorem fieldErrors_eq (o : EstimatorOptions) : fieldErrors o = fieldRejections o := by
  simp only [fieldErrors, fieldRejections, validateOptimizationLevel_eq, validateResilienceLevel_eq,
    validateDynamicalDecoupling_eq, Assignment.rejection, List.flatMap_cons, List.flatMap_nil]
  split_ifs <;> rfl

theorem fieldRejections_eq_nil (o : EstimatorOptions) :
    fieldRejections o = [] ↔
      InRange o.optimizationLevel ∧ InRange o.resilienceLevel ∧ SequenceValid o.dynamicalDecoupling := by
  simp only [fieldRejections, Assignment.rejection, List.flatMap_cons, List.flatMap_nil]
  split_ifs <;> simp_all

example : construct { dynamicalDecoupling := .value "YY" } =
    .error [⟨["dynamical_decoupling", "is-instance[UnsetType]"], unsetMessage⟩,
      ⟨["dynamical_decoupling", "literal['XX','XpXm','XY4']"], literalMessage⟩] := by
  rfl

theorem construct_fieldRejections {kwargs o : EstimatorOptions} (h : construct kwargs = .ok o) :
    fieldRejections kwargs = [] ∧ o = kwargs := by
  unfold construct at h
  rw [fieldErrors_eq] at h
  split at h
  · next hnil =>
    simp only [validateOptions_eq] at h
    split at h
    · cases h
    · cases h; exact ⟨hnil, rfl⟩
  · cases h

theorem Reachable.fieldRejections_nil {o : EstimatorOptions} (h : Reachable o) : fieldRejections o = [] := by
  induction h with
  | construct hc => exact (construct_fieldRejections hc).2 ▸ (construct_fieldRejections hc).1
  | @assign o a _ ih =>
    rw [setattr_eq]
    dsimp only
    split
    · next ha =>
      rw [fieldRejections_eq_nil] at ih ⊢
      cases a <;> simp_all [EstimatorOptions.assign, Assignment.rejection]
    · exact ih

/-- Constructing anew from a reachable object's fields returns it, unless it breaks the simulator
rule. -/
theorem reachable_options_reconstruct {o : EstimatorOptions} (h : Reachable o) :
    construct o =
      if SimulatorWithoutCouplingMap o then .error [valueErrorLine simulatorRuleMessage] else .ok o := by
  by_cases hs : SimulatorWithoutCouplingMap o <;>
    simp [construct, fieldErrors_eq, h.fieldRejections_nil, validateOptions_eq, hs, valueError, Except.mapError]

theorem reset_coupling_map_fails_reconstruction :
    let o := run {} [.simulatorCouplingMap (.value [[0, 1]]), .isSimulator true,
      .resilienceLevel (.value 3), .simulatorCouplingMap .unset]
    Reachable o ∧
      construct o =
        if SimulatorWithoutCouplingMap o then .error [valueErrorLine simulatorRuleMessage] else .ok o :=
  ⟨reachable_run (@Reachable.construct {} {} rfl) _,
    reachable_options_reconstruct (reachable_run (@Reachable.construct {} {} rfl) _)⟩

end QiskitRuntime.Options
