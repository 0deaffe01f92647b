import PassPlan.Value.Basic
import PassPlan.Text.Quoted
/-!
Pass parameters: a map from names to values, read as required non-empty strings, as strings
with a default when absent, or as values of any kind.
-/
namespace PassPlan.Pass

/-- The parameters of a pass. -/
abbrev Params := Attrs

namespace Params

/-- A required parameter that must be a non-empty string. -/
def string (p : Params) (key : String) : Except String String :=
  match p.get? key with
  | none => .error ("missing parameter " ++ Text.quote key)
  | some (.str s) =>
    if s = "" then .error ("parameter " ++ Text.quote key ++ " must be a non-empty string, got string")
    else .ok s
  | some v => .error ("parameter " ++ Text.quote key ++ " must be a non-empty string, got " ++ v.typeName)

/-- A parameter that is a non-empty string when present, the default when absent. -/
def stringOr (p : Params) (key dflt : String) : Except String String :=
  if (p.get? key).isSome then p.string key else .ok dflt

/-- A required parameter of any kind. -/
def value (p : Params) (key : String) : Except String Value :=
  match p.get? key with
  | some v => .ok v
  | none => .error ("missing parameter " ++ Text.quote key)

/-- Checks that a parameter is one of the allowed words. -/
def oneOf (key s : String) (allowed : List String) : Except String Unit :=
  if allowed.contains s then .ok ()
  else .error ("parameter " ++ Text.quote key ++ " must be one of [" ++ " ".intercalate allowed ++
    "], got " ++ Text.quote s)

end Params
end PassPlan.Pass
