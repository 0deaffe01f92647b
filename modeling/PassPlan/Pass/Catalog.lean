import PassPlan.Pass.Basic
/-!
The pass catalog: passes by name in registration order. A name is registered once and must
not be blank; looking up an absent name fails.
-/
namespace PassPlan.Pass

/-- Why registering a pass fails. -/
inductive RegisterError where
  | emptyName
  | duplicate (name : String)
deriving DecidableEq, Repr

/-- The message of a registration failure. -/
def RegisterError.message : RegisterError → String
  | .emptyName => "register pass: empty name"
  | .duplicate n => "pass " ++ Text.quote n ++ " already registered"

/-- Passes by name, in registration order. -/
structure Catalog where
  passes : List Pass := []

namespace Catalog

/-- The registered names in registration order. -/
def names (c : Catalog) : List String := c.passes.map (·.name)

/-- Whether a name is registered. -/
def has (c : Catalog) (name : String) : Bool := c.names.contains name

/-- Registers a pass under its name. -/
def register (c : Catalog) (p : Pass) : Except RegisterError Catalog :=
  if Text.isBlankText p.name then .error .emptyName
  else if c.has p.name then .error (.duplicate p.name)
  else .ok ⟨c.passes ++ [p]⟩

/-- The pass registered under a name; the failure names it as an unknown pass. -/
def lookup (c : Catalog) (name : String) : Except String Pass :=
  match c.passes.find? (·.name = name) with
  | some p => .ok p
  | none => .error ("unknown pass: " ++ name)

/-- The registered names with a prefix, sorted. -/
def withPrefix (c : Catalog) (pre : String) : List String :=
  (c.names.filter (·.startsWith pre)).mergeSort fun a b => decide (a ≤ b)

/-- The number of registered passes. -/
def size (c : Catalog) : Nat := c.passes.length

end Catalog
end PassPlan.Pass
