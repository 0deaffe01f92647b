import PassPlan.Pass.Basic
import PassPlan.Flow.Resolver
/-!
Run reports. A run goes from unresolved to resolved to executing, and ends completed or
failed. A report keeps the plan, one step for each pass attempted, the times, and the failure
that stopped the run, if any: the executor stops at the first failing pass.
-/
namespace PassPlan.Run

/-- The states of a run. -/
inductive State where
  | unresolved
  | resolved
  | executing
  | completed
  | failed
deriving DecidableEq, Repr, Inhabited

namespace State

/-- All states, by code. -/
def all : List State := [.unresolved, .resolved, .executing, .completed, .failed]

/-- The code of a state. -/
def code : State → Nat
  | .unresolved => 0
  | .resolved => 1
  | .executing => 2
  | .completed => 3
  | .failed => 4

/-- The name of a state. -/
def name : State → String
  | .unresolved => "unresolved"
  | .resolved => "resolved"
  | .executing => "executing"
  | .completed => "completed"
  | .failed => "failed"

/-- Whether no transition leaves the state. -/
def terminal (s : State) : Bool := s = .completed || s = .failed

/-- The state with a code. -/
def ofCode? (n : Int) : Option State := all.find? fun s => (s.code : Int) = n

/-- The name of the state with a code; other codes name no state. -/
def nameOf (n : Int) : String :=
  match ofCode? n with
  | some s => s.name
  | none => "State(" ++ toString n ++ ")"

/-- The state with a name. -/
def parse (s : String) : Except String State :=
  match all.find? (·.name = s) with
  | some st => .ok st
  | none => .error ("unknown run state " ++ Text.quote s)

end State

/-- Why a step of a run failed. -/
inductive StepError where
  /-- The plan names a pass the catalog does not have. -/
  | notFound (pass : String) (cause : String)
  /-- The pass ran and stopped with a fault. -/
  | fault (f : Pass.Fault)
deriving DecidableEq, Repr

/-- The message of a step failure. -/
def StepError.text : StepError → String
  | .notFound p _ => "pass " ++ Text.quote p ++ " not found"
  | .fault f => f.text

/-- One attempted pass. -/
structure Step where
  runId : String
  flow : Flow.Name
  index : Nat
  pass : String
  outcome : Pass.Outcome := .noop
  /-- Nanoseconds the pass took. -/
  duration : Int := 0
  error : Option StepError := none
deriving Repr

/-- The failure that stopped a run: its flow, the pass, its index and the step failure. -/
structure Failure where
  flow : Flow.Name
  pass : String
  index : Nat
  error : StepError
deriving Repr

/-- The message of a run failure. -/
def Failure.text (f : Failure) : String :=
  "flow " ++ f.flow.text ++ ": pass " ++ toString f.index ++ " (" ++ f.pass ++ "): " ++ f.error.text

/-- The result of executing one plan. -/
structure Report where
  runId : String
  flow : Flow.Name
  plan : List String
  state : State
  steps : List Step := []
  startedAt : Instant
  finishedAt : Instant
  failure : Option Failure := none
deriving Repr

namespace Report

/-- Whether the run completed without failure. -/
def succeeded (r : Report) : Bool := r.state = .completed && r.failure.isNone

/-- Nanoseconds from start to finish. -/
def duration (r : Report) : Int := r.finishedAt.since r.startedAt

/-- The number of steps that changed the model. -/
def transformed (r : Report) : Nat :=
  (r.steps.filter fun s => s.error.isNone && s.outcome = .transformed).length

/-- The passes of the plan that were never attempted. -/
def skipped (r : Report) : List String := r.plan.drop r.steps.length

end Report
end PassPlan.Run
