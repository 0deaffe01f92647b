import PassPlan.Flow.Splice
import PassPlan.Flow.Registry
/-!
Deriving a flow from a base: the target takes the base's requirements with prerequisites
spliced in, and the base's passes unless others are given, then registers like any flow.
-/
namespace PassPlan.Flow

/-- An option of a derivation: other passes for the target, or none of its own. -/
inductive DeriveOption where
  | withPasses (passes : List String)
  | withoutPasses
deriving DecidableEq, Repr

/-- The passes an option gives the target. -/
def DeriveOption.passes : DeriveOption → List String
  | withPasses ps => ps
  | withoutPasses => []

/-- The passes options choose, each applied over those before it; none keeps the base's. -/
def DeriveOption.choose (opts : List DeriveOption) : Option (List String) :=
  opts.foldl (fun _ o => some o.passes) none

namespace Registry

/-- Derives `target` from `base`. `passes` replaces the base's passes when given. A missing
anchor reports the base. -/
def derive (r : Registry) (base target : Name) (insertions : List Insertion)
    (passes : Option (List String) := none) : Except Error (Definition × Registry) := do
  let b ← r.get base
  let requires ← match splice b.requires insertions with
    | .ok rs => pure rs
    | .error (.anchorMissing a rs _) => throw (.anchorMissing a rs base)
    | .error e => throw e
  match target.validate with
  | .ok () => pure ()
  | .error p => throw (.invalidName ⟨p, none⟩)
  r.register target.flow (passes.getD b.passes) requires target.backend

/-- Derives `target` from `base` under options that may replace the inherited passes. -/
def deriveWith (r : Registry) (base target : Name) (insertions : List Insertion)
    (opts : List DeriveOption) : Except Error (Definition × Registry) :=
  r.derive base target insertions (DeriveOption.choose opts)

end Registry
end PassPlan.Flow
