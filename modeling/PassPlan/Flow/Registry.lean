import PassPlan.Flow.Error
/-!
The flow registry: definitions in registration order, a freeze flag and a generation counter.
A flow registers only with a valid name, at least one pass or requirement, no blank pass, and
requirements that are registered already, so requirements always point back in the order.
-/
namespace PassPlan.Flow

/-- A flow definition: its name, its own passes and the flows it requires, in order. -/
structure Definition where
  name : Name
  passes : List String
  requires : List Name
deriving DecidableEq, Repr, Inhabited

/-- A flow with no passes of its own only gathers its requirements. -/
def Definition.isAggregate (d : Definition) : Bool := d.passes.isEmpty

/-- What a resolver reads: definitions by name, and a generation that changes whenever
definitions may have been replaced or removed. -/
structure Source where
  defs : List Definition := []
  generation : Nat := 0
deriving Repr, Inhabited

/-- The definition of a name, if any. -/
def Source.get? (s : Source) (n : Name) : Option Definition := s.defs.find? (·.name = n)

/-- The registry of flows. -/
structure Registry where
  defs : List Definition := []
  frozen : Bool := false
  /-- Counts the resets. It is kept without bound: an unsigned 64-bit counter would wrap only
  after 2^64 resets, which no run makes. -/
  generation : Nat := 0
deriving Repr, Inhabited

namespace Registry

/-- The registry as a source for resolvers. -/
def source (r : Registry) : Source := ⟨r.defs, r.generation⟩

/-- The definition of a name, if registered. -/
def find? (r : Registry) (n : Name) : Option Definition := r.defs.find? (·.name = n)

/-- The definition of a name, or the failure that it is not registered. -/
def get (r : Registry) (n : Name) : Except Error Definition :=
  match r.find? n with
  | some d => .ok d
  | none => .error (.notFound n Name.zero)

/-- Whether a name is registered. -/
def has (r : Registry) (n : Name) : Bool := (r.find? n).isSome

/-- The name a registration asks for: with a blank backend the flow text is parsed (it may
be qualified), otherwise the pair is normalized; either way it must validate. -/
def qualify (flow backend : String) : Except Error Name := do
  let n ← if Text.trim backend = "" then (Name.parse flow).mapError .invalidName
    else pure (Name.qualified backend flow)
  match n.validate with
  | .ok () => pure n
  | .error p => throw (.invalidName ⟨p, none⟩)

/-- Every requirement is registered and none is the flow itself. -/
def checkRequires (r : Registry) (name : Name) : List Name → Except Error Unit
  | [] => .ok ()
  | req :: rest =>
    if req = name then .error (.cycle [name, name])
    else if r.has req then r.checkRequires name rest
    else .error (.unknownReference name req)

/-- The index of the first blank pass name, if any. -/
def firstBlank (passes : List String) : Option Nat := passes.findIdx? Text.isBlankText

/-- Registers a flow; the checks run in this order: name, emptiness, blank passes, freeze,
duplicates, requirements. -/
def register (r : Registry) (flow : String) (passes : List String) (requires : List Name)
    (backend : String) : Except Error (Definition × Registry) := do
  let name ← qualify flow backend
  if passes.isEmpty && requires.isEmpty then throw (.emptyFlow name)
  if let some i := firstBlank passes then throw (.blankPass name i)
  if r.frozen then throw (.frozen name)
  if r.has name then throw (.duplicate name)
  r.checkRequires name requires
  let d : Definition := ⟨name, passes, requires⟩
  pure (d, { r with defs := r.defs ++ [d] })

/-- The definitions of one backend, normalized first, in registration order. -/
def list (r : Registry) (backend : String) : List Definition :=
  r.defs.filter (·.name.backend = normalizeBackend backend)

/-- The backends that have flows, sorted, with the empty id for global flows. -/
def backends (r : Registry) : List String :=
  (r.defs.map (·.name.backend)).eraseDups.mergeSort (fun a b => decide (a ≤ b))

/-- The number of registered flows. -/
def size (r : Registry) : Nat := r.defs.length

/-- Refuses all later registrations. -/
def freeze (r : Registry) : Registry := { r with frozen := true }

/-- Empties the registry, thaws it and moves to the next generation. -/
def reset (r : Registry) : Registry := ⟨[], false, r.generation + 1⟩

end Registry
end PassPlan.Flow
