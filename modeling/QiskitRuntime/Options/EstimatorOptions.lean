/-! `EstimatorOptions` under pydantic: the field validators, the model validator
`_validate_options`, construction, and attribute assignment with `validate_assignment=True`. -/

namespace QiskitRuntime.Options

/-- `Union[UnsetType, α]`. -/
inductive UnsetOr (α : Type) where
  | unset
  | value (a : α)
  deriving DecidableEq, Repr

/-- Modelled from the spec: `skip_unset_validation` (`options/utils.py`, absent from the
sources). The wrapped validator runs on a set value only; `Unset` is returned unchecked. -/
def skipUnsetValidation {α : Type} (validate : α → Except String α) :
    UnsetOr α → Except String (UnsetOr α)
  | .unset => .ok .unset
  | .value a => (validate a).map .value

def maxOptimizationLevel : Int := 3

def maxResilienceLevel : Int := 3

/-- The check both level validators make: `if not 0 <= level <= bound: raise ValueError(message)`. -/
def validateLevel (bound : Int) (message : String) (level : Int) : Except String Int :=
  if 0 ≤ level ∧ level ≤ bound then .ok level else .error message

def validateOptimizationLevel : UnsetOr Int → Except String (UnsetOr Int) :=
  skipUnsetValidation
    (validateLevel 3 ("Invalid optimization_level. Valid range is " ++ "0-" ++ toString maxOptimizationLevel))

def validateResilienceLevel : UnsetOr Int → Except String (UnsetOr Int) :=
  skipUnsetValidation
    (validateLevel maxResilienceLevel
      ("Invalid optimization_level. Valid range is " ++ "0-" ++ toString maxResilienceLevel))

structure LineError where
  loc : List String
  msg : String
  deriving DecidableEq, Repr

abbrev ValidationError := List LineError

def LineError.under (field : String) (e : LineError) : LineError := ⟨field :: e.loc, e.msg⟩

/-- The line error pydantic makes of a `ValueError` that a validator raises. -/
def valueErrorLine (msg : String) : LineError := ⟨[], "Value error, " ++ msg⟩

def valueError {α : Type} : Except String α → Except ValidationError α :=
  Except.mapError fun msg => [valueErrorLine msg]

/-- pydantic's union check: the first member that accepts the value gives the result; when none
does, each member's error is reported under the member's tag. -/
def validateUnion {α β : Type} (v : α) : List (String × (α → Except String β)) → Except ValidationError β
  | [] => .error []
  | (tag, check) :: members =>
    match check v, validateUnion v members with
    | .ok b, _ => .ok b
    | .error _, .ok b => .ok b
    | .error msg, .error errs => .error (⟨[tag], msg⟩ :: errs)

def ddSequenceTypes : List String := ["XX", "XpXm", "XY4"]

def isInstanceUnset {α : Type} : UnsetOr α → Except String (UnsetOr α)
  | .unset => .ok .unset
  | .value _ => .error "Input should be an instance of UnsetType"

def ddSequenceLiteral : UnsetOr String → Except String (UnsetOr String)
  | .value s => if s ∈ ddSequenceTypes then .ok (.value s) else .error "Input should be 'XX', 'XpXm' or 'XY4'"
  | .unset => .error "Input should be 'XX', 'XpXm' or 'XY4'"

/-- pydantic's check of `Union[UnsetType, Literal["XX", "XpXm", "XY4"]]`. -/
def validateDynamicalDecoupling (v : UnsetOr String) : Except ValidationError (UnsetOr String) :=
  validateUnion v [("is-instance[UnsetType]", isInstanceUnset), ("literal['XX','XpXm','XY4']", ddSequenceLiteral)]

abbrev CouplingMap := List (List Int)

/-- Modelled from the spec: `SimulatorOptions` (`options/simulator_options.py`, absent from the
sources), a nested group that default-constructs; `_validate_options` reads its `coupling_map`. -/
structure SimulatorOptions where
  couplingMap : UnsetOr CouplingMap := .unset
  deriving DecidableEq, Repr

structure EstimatorOptions where
  isSimulator : Bool := false
  optimizationLevel : UnsetOr Int := .unset
  resilienceLevel : UnsetOr Int := .unset
  dynamicalDecoupling : UnsetOr String := .unset
  simulator : SimulatorOptions := {}
  deriving DecidableEq, Repr

def validateOptions (o : EstimatorOptions) : Except String EstimatorOptions :=
  if o.resilienceLevel = .value 3 ∧ o.isSimulator = true ∧ o.simulator.couplingMap = .unset then
    .error ("When the backend is a simulator and resilience_level == 3," ++
      "a coupling map is required.")
  else .ok o

def fieldError {α : Type} (field : String) : Except ValidationError α → ValidationError
  | .ok _ => []
  | .error errs => errs.map (·.under field)

def fieldErrors (o : EstimatorOptions) : ValidationError :=
  fieldError "optimization_level" (valueError (validateOptimizationLevel o.optimizationLevel)) ++
    fieldError "resilience_level" (valueError (validateResilienceLevel o.resilienceLevel)) ++
    fieldError "dynamical_decoupling" (validateDynamicalDecoupling o.dynamicalDecoupling)

/-- `EstimatorOptions(**kwargs)`: every given field is validated, then `_validate_options`. -/
def construct (o : EstimatorOptions) : Except ValidationError EstimatorOptions :=
  match fieldErrors o with
  | [] => valueError (validateOptions o)
  | errors => .error errors

inductive Assignment where
  | isSimulator (b : Bool)
  | optimizationLevel (v : UnsetOr Int)
  | resilienceLevel (v : UnsetOr Int)
  | dynamicalDecoupling (v : UnsetOr String)
  | simulator (g : SimulatorOptions)
  | simulatorCouplingMap (v : UnsetOr CouplingMap)
  deriving DecidableEq, Repr

/-- Whether the assignment goes through `EstimatorOptions.__setattr__`. -/
def Assignment.topLevel : Assignment → Bool
  | .simulatorCouplingMap _ => false
  | _ => true

structure Outcome where
  obj : EstimatorOptions
  error : Option ValidationError
  deriving DecidableEq, Repr

/-- pydantic's `validate_assignment`: the field validator, then the new `__dict__`, then the model
validator, whose failure leaves the new value in place. -/
def validateAssignment {α : Type} (o : EstimatorOptions) (field : String)
    (checked : Except ValidationError α) (put : α → EstimatorOptions) : Outcome :=
  match checked with
  | .error errs => ⟨o, some (errs.map (·.under field))⟩
  | .ok v =>
    match validateOptions (put v) with
    | .ok _ => ⟨put v, none⟩
    | .error msg => ⟨put v, some [valueErrorLine msg]⟩

/-- `options.<field> = value`. The nested group's assignment runs only the group's own
validation, which accepts every value of the field's type. -/
def setattr (o : EstimatorOptions) : Assignment → Outcome
  | .isSimulator b => validateAssignment o "_is_simulator" (.ok b) fun b => { o with isSimulator := b }
  | .optimizationLevel v => validateAssignment o "optimization_level" (valueError (validateOptimizationLevel v))
      fun v => { o with optimizationLevel := v }
  | .resilienceLevel v => validateAssignment o "resilience_level" (valueError (validateResilienceLevel v))
      fun v => { o with resilienceLevel := v }
  | .dynamicalDecoupling v => validateAssignment o "dynamical_decoupling"
      (validateDynamicalDecoupling v) fun v => { o with dynamicalDecoupling := v }
  | .simulator g => validateAssignment o "simulator" (.ok g) fun g => { o with simulator := g }
  | .simulatorCouplingMap v => ⟨{ o with simulator := { o.simulator with couplingMap := v } }, none⟩

def run (o : EstimatorOptions) (as : List Assignment) : EstimatorOptions :=
  as.foldl (fun o a => (setattr o a).obj) o

def runErrors (o : EstimatorOptions) : List Assignment → List (Option ValidationError)
  | [] => []
  | a :: as => (setattr o a).error :: runErrors (setattr o a).obj as

def SimulatorWithoutCouplingMap (o : EstimatorOptions) : Prop :=
  o.resilienceLevel = .value 3 ∧ o.isSimulator = true ∧ o.simulator.couplingMap = .unset

instance : DecidablePred SimulatorWithoutCouplingMap := fun o =>
  inferInstanceAs (Decidable (o.resilienceLevel = .value 3 ∧ o.isSimulator = true ∧
    o.simulator.couplingMap = .unset))

def InRange : UnsetOr Int → Prop
  | .unset => True
  | .value v => 0 ≤ v ∧ v ≤ 3

instance : DecidablePred InRange
  | .unset => isTrue trivial
  | .value v => inferInstanceAs (Decidable (0 ≤ v ∧ v ≤ 3))

def LevelsInRange (o : EstimatorOptions) : Prop :=
  InRange o.optimizationLevel ∧ InRange o.resilienceLevel

inductive Reachable : EstimatorOptions → Prop
  | construct {kwargs o : EstimatorOptions} : construct kwargs = .ok o → Reachable o
  | assign {o : EstimatorOptions} (a : Assignment) : Reachable o → Reachable (setattr o a).obj

end QiskitRuntime.Options
