import PassPlan.Flow.Name
/-!
Why registering, deriving or resolving a flow fails, and the message of each cause.
-/
namespace PassPlan.Flow

/-- The zero name: no backend and no flow. -/
def Name.zero : Name := ⟨"", ""⟩

/-- A failure of the flow registry, the composer or the resolver. -/
inductive Error where
  /-- A name that does not validate. -/
  | invalidName (e : NameError)
  /-- A flow with neither passes nor requirements. -/
  | emptyFlow (name : Name)
  /-- A pass name that is blank, at its index in the flow's pass list. -/
  | blankPass (name : Name) (index : Nat)
  /-- Registration after the registry was frozen. -/
  | frozen (name : Name)
  /-- A second flow of the same name. -/
  | duplicate (name : Name)
  /-- A requirement cycle, as the names along it, the first repeated at the end. -/
  | cycle (path : List Name)
  /-- A requirement on a flow that is not registered yet. -/
  | unknownReference (flow missing : Name)
  /-- A flow that is not defined, and the flow that required it (zero if none). -/
  | notFound (name requiredBy : Name)
  /-- An insertion anchor that is not among the requirements, the list as it stood, and the
  base flow of the derivation (zero outside one). -/
  | anchorMissing (anchor : Name) (requires : List Name) (base : Name)
  /-- An insertion position given by a number that names neither side. -/
  | badPosition (code : Int)
deriving DecidableEq, Repr

namespace Error

/-- The message of a flow failure. -/
def message : Error → String
  | invalidName e => e.message
  | emptyFlow n => "flow has no passes and no requirements: " ++ n.text
  | blankPass n i => "invalid pass name: flow " ++ n.text ++ " pass[" ++ toString i ++ "] is empty"
  | frozen n => "flow registry is frozen: cannot register " ++ n.text
  | duplicate n => "flow " ++ n.text ++ " already registered"
  | cycle path => "cyclic flow dependency: " ++ " -> ".intercalate (path.map Name.text)
  | unknownReference f m => "flow " ++ f.text ++ " requires unregistered flow " ++ m.text
  | notFound n r =>
    if r.isZero then "flow " ++ n.text ++ " not found"
    else "flow " ++ n.text ++ " not found (required by " ++ r.text ++ ")"
  | anchorMissing a rs b =>
    if b.isZero then "anchor " ++ a.text ++ " not found in [" ++ Name.join rs ++ "]"
    else "anchor " ++ a.text ++ " not found in requirements of " ++ b.text ++ " [" ++
      Name.join rs ++ "]"
  | badPosition c => "flow: unknown insertion position Position(" ++ toString c ++ ")"

end Error
end PassPlan.Flow
