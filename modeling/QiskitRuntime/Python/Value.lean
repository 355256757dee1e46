import Mathlib.Data.Rat.Init
import QiskitRuntime.Python.Dict

/-! Python values as the modelled code stores and passes them, their truth values, and the
exceptions the code raises. -/

namespace QiskitRuntime.Python

/-- The exceptions the modelled code raises; `external` is one raised by a collaborator
outside the model (the runtime service, a job) and handed on unchanged. -/
inductive PyException where
  | runtimeError (msg : String)
  | attributeError (msg : String)
  | keyError (key : String)
  | typeError (msg : String)
  | valueError (msg : String)
  | requestsApiError (msg : String) (statusCode : Nat)
  | external (tag : Nat)
  deriving DecidableEq, Repr

def PyException.isApiError : PyException → Bool
  | .requestsApiError _ _ => true
  | _ => false

/-- A Python `float`: a finite value, taken exactly, an infinity with its sign, or NaN. -/
inductive PyFloat where
  | finite (x : ℚ)
  | infinite (negative : Bool)
  | nan
  deriving DecidableEq, Repr

/-- A Python value; `object` is one the code only stores and hands on (a circuit, an observable). -/
inductive PyValue where
  | none
  | bool (b : Bool)
  | int (i : Int)
  | float (x : PyFloat)
  | str (s : String)
  | list (xs : List PyValue)
  | dict (kvs : List (String × PyValue))
  | object (id : Nat)
  deriving Repr

namespace PyValue

def truthy : PyValue → Bool
  | .none => false
  | .bool b => b
  | .int i => i != 0
  | .float x => x != .finite 0
  | .str s => !s.isEmpty
  | .list xs => !xs.isEmpty
  | .dict kvs => !kvs.isEmpty
  | .object _ => true

def or (a b : PyValue) : PyValue := if a.truthy then a else b

/-- `value[key]` for a string key. -/
def getItem : PyValue → String → Except PyException PyValue
  | .dict kvs, key =>
    match lookupEntry key kvs with
    | some v => .ok v
    | .none => .error (.keyError key)
  | _, _ => .error (.typeError "object is not subscriptable")

end PyValue

def truthyStr : Option String → Bool
  | some s => !s.isEmpty
  | none => false

def orStr (a b : Option String) : Option String :=
  match a with
  | some s => if s.isEmpty then b else a
  | none => b

def orNum {α : Type} [DecidableEq α] (zero : α) : Option α → α → α
  | some n, b => if n = zero then b else n
  | none, b => b

/-- Python's `a in b` for strings: `a` is a prefix of a suffix of `b`. -/
def strContains (a b : String) : Bool := b.data.tails.any (a.data.isPrefixOf ·)

@[simp] theorem strContains_empty (b : String) : strContains "" b = true := by
  obtain ⟨l⟩ := b
  cases l <;> rfl

def orDefault : Option String → String → String
  | some s, b => if s.isEmpty then b else s
  | none, b => b

end QiskitRuntime.Python
