import PassPlan.Graph.Basic
/-!
Passes: named transformations of a model graph. Running a pass gives an outcome (whether it
changed the model), the model as the pass left it, and possibly a fault; a pass that faults
may already have changed the model.
-/
namespace PassPlan.Pass

/-- Whether a pass changed the model; a recorded outcome may carry a code that names neither. -/
inductive Outcome where
  | noop
  | transformed
  | other (code : Int)
deriving DecidableEq, Repr, Inhabited

/-- The outcome of a code: 0 is no change, 1 a change. -/
def Outcome.ofCode (code : Int) : Outcome :=
  match code with
  | 0 => .noop
  | 1 => .transformed
  | n => .other n

/-- The name of an outcome. -/
def Outcome.name : Outcome → String
  | .noop => "noop"
  | .transformed => "transformed"
  | .other n => "Outcome(" ++ toString n ++ ")"

/-- The name of an outcome given by its code; codes other than 0 and 1 name no outcome. -/
def outcomeName (code : Int) : String := (Outcome.ofCode code).name

/-- Why a pass stopped. -/
inductive Fault where
  /-- The pass reported that it failed, with a reason. -/
  | failed (pass reason : String)
  /-- A graph operation of the pass was refused. -/
  | graph (e : GraphError)
  /-- Any other error, by its message. -/
  | message (text : String)
  /-- The pass crashed with a message. -/
  | panicked (text : String)
deriving DecidableEq, Repr

/-- The message of a fault. -/
def Fault.text : Fault → String
  | .failed p r => "pass " ++ p ++ " failed: " ++ r
  | .graph e => e.message
  | .message t => t
  | .panicked t => "pass panicked: " ++ t

/-- A line a pass asks to have logged: its message and its fields, key and value. -/
structure Note where
  message : String
  fields : List (String × Value) := []
deriving Repr

/-- What one run of a pass did: its outcome, the model it left, its fault if any, and the lines
it asked to have logged. -/
structure Result where
  outcome : Outcome
  model : Graph
  fault : Option Fault := none
  notes : List Note := []

end Pass

/-- A pass: its name and what it does to a model. -/
structure Pass where
  name : String
  run : Graph → Pass.Result

namespace Pass

/-- A pass that changes nothing. -/
def noop (name : String) : Pass := ⟨name, fun g => ⟨.noop, g, none, []⟩⟩

/-- A pass that always fails with a reason. -/
def fail (name reason : String) : Pass := ⟨name, fun g => ⟨.noop, g, some (.failed name reason), []⟩⟩

/-- A pass from a model change that may fail; it counts as a change when it succeeds. -/
def transform (name : String) (f : Graph → Graph × Option Fault) : Pass :=
  ⟨name, fun g =>
    match f g with
    | (g, none) => ⟨.transformed, g, none, []⟩
    | (g, some e) => ⟨.noop, g, some e, []⟩⟩

end PassPlan.Pass
