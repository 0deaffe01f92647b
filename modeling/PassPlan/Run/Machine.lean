import PassPlan.Run.Executor
/-!
One run of a flow as a state machine: resolving its plan is allowed only while unresolved, and
executing only once resolved; a failed resolution fails the run, and an execution leaves the
run in the report's state.
-/
namespace PassPlan.Run

/-- Why a run step is refused or fails. -/
inductive RunError where
  /-- The transition is not allowed from the current state. -/
  | transition (src dst : State)
  /-- Resolving the plan failed. -/
  | resolve (e : Flow.Error)
  /-- Executing stopped at a failing pass. -/
  | execute (f : Failure)
deriving Repr

/-- The message of a run failure. -/
def RunError.text : RunError → String
  | .transition a b => "invalid run state transition: " ++ a.name ++ " -> " ++ b.name
  | .resolve e => e.message
  | .execute f => f.text

/-- A run of one flow. -/
structure Machine where
  flow : Flow.Name
  state : State := .unresolved
  plan : Flow.Plan := ⟨Flow.Name.zero, []⟩
  report : Option Report := none
  error : Option RunError := none

namespace Machine

/-- Resolves the plan with a resolver function. -/
def resolve (m : Machine) (resolver : Flow.Name → Except Flow.Error Flow.Plan) :
    Machine × Except RunError Flow.Plan :=
  if m.state ≠ .unresolved then (m, .error (.transition m.state .resolved))
  else match resolver m.flow with
    | .error e => ({ m with state := .failed, error := some (.resolve e) }, .error (.resolve e))
    | .ok p => ({ m with plan := p, state := .resolved }, .ok p)

/-- Executes the resolved plan as the run with an id, by default the one the executor numbers
next. A refused transition is an error; otherwise the execution is returned, and its report
tells whether a pass failed. -/
def execute (m : Machine) (ex : Executor) (g : Graph) (lookup : Lookup)
    (id : String := runId ex.nextRun) : Machine × Executor × Except RunError Execution :=
  if m.state ≠ .resolved then (m, ex, .error (.transition m.state .executing))
  else
    let (ex, out) := ex.executeAs id m.plan g lookup
    let err := out.report.failure.map RunError.execute
    ({ m with report := some out.report, state := out.report.state, error := err }, ex, .ok out)

end Machine
end PassPlan.Run
