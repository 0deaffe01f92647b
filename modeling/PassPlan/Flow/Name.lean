import PassPlan.Text.Blank
import PassPlan.Text.Lower
import PassPlan.Text.Quoted
/-!
Flow names. A name is a backend id and a flow id; the backend is empty for the global
namespace. Its text is `backend:flow`, or the flow alone when global. Parsing trims the text,
splits it at the first colon, lower-cases the backend and checks that neither part holds a colon
and that the flow part is present.
-/
namespace PassPlan.Flow

/-- A flow name: the backend id (empty for global flows) and the flow id. -/
structure Name where
  backend : String
  flow : String
deriving DecidableEq, Repr, Inhabited

/-- Why a name is not valid. -/
inductive NameProblem where
  /-- The text was empty after trimming. -/
  | empty
  /-- The flow part is missing. -/
  | noFlow
  /-- The flow part holds a colon. -/
  | flowColon (flow : String)
  /-- The backend part holds a colon. -/
  | backendColon (backend : String)
deriving DecidableEq, Repr

/-- An invalid name, with the text it was parsed from when parsing found it. -/
structure NameError where
  problem : NameProblem
  input : Option String := none
deriving DecidableEq, Repr

namespace NameProblem

/-- The text after "invalid flow name: ". -/
def detail : NameProblem → String
  | empty => "empty flow name"
  | noFlow => "flow part is required"
  | flowColon f => "flow part " ++ Text.quote f ++ " contains " ++ Text.quote ":"
  | backendColon b => "backend " ++ Text.quote b ++ " contains " ++ Text.quote ":"

end NameProblem

/-- The message of an invalid name. -/
def NameError.message (e : NameError) : String :=
  "invalid flow name: " ++ e.problem.detail ++
    match e.input with
    | some s => ": " ++ Text.quote s
    | none => ""

/-- The backend id as names hold it: trimmed and lower-cased. -/
def normalizeBackend (b : String) : String := Text.lower (Text.trim b)

namespace Name

/-- The name of a flow in a backend, with the backend normalized and the flow trimmed. -/
def qualified (backend flow : String) : Name := ⟨normalizeBackend backend, Text.trim flow⟩

/-- The text of a name: `backend:flow`, or the flow alone when the backend is empty. -/
def text (n : Name) : String := if n.backend = "" then n.flow else n.backend ++ ":" ++ n.flow

instance : ToString Name := ⟨text⟩

/-- Whether both parts are empty. -/
def isZero (n : Name) : Bool := n.backend = "" && n.flow = ""

/-- Checks the flow part is present and that neither part holds a colon. -/
def validate (n : Name) : Except NameProblem Unit :=
  if n.flow = "" then .error .noFlow
  else if ':' ∈ n.flow.toList then .error (.flowColon n.flow)
  else if ':' ∈ n.backend.toList then .error (.backendColon n.backend)
  else .ok ()

/-- Parses `flow` or `backend:flow`. An unqualified name is kept as it stands after
trimming; a qualified one is normalized and validated. -/
def parse (s : String) : Except NameError Name :=
  let t := Text.trim s
  if t = "" then .error ⟨.empty, none⟩
  else
    match t.toList.span (· ≠ ':') with
    | (_, []) => .ok ⟨"", t⟩
    | (b, _ :: f) =>
      let n := qualified (String.ofList b) (String.ofList f)
      match n.validate with
      | .ok () => .ok n
      | .error p => .error ⟨p, some t⟩

/-- Parses every text in turn and stops at the first invalid one. -/
def parseAll (values : List String) : Except NameError (List Name) := values.mapM parse

/-- The texts of names joined by a comma and a space. -/
def join (names : List Name) : String := ", ".intercalate (names.map text)

end Name
end PassPlan.Flow
