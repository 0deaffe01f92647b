/-!
Feature flags: opt-in behaviour by name. A flag that was never set is off.
-/
namespace PassPlan.Config

/-- The flag that rejects pipelines whose flows name passes no catalog provides. -/
def strictPipelines : String := "strict-pipelines"

/-- Flags by name, each name at most once. -/
structure Flags where
  values : List (String × Bool) := []
deriving Repr, Inhabited

namespace Flags

/-- Flags from name and value pairs; a later pair for a name wins. -/
def ofList (kvs : List (String × Bool)) : Flags :=
  ⟨kvs.foldl (fun acc (k, v) => acc.filter (·.1 ≠ k) ++ [(k, v)]) []⟩

/-- Whether a flag is on. -/
def enabled (f : Flags) (name : String) : Bool := (f.values.lookup name).getD false

/-- Every flag set, by name. -/
def all (f : Flags) : List (String × Bool) := f.values.mergeSort fun a b => decide (a.1 ≤ b.1)

end Flags
end PassPlan.Config
