import PassPlan.Flow.Error
import PassPlan.Text.Quoted
/-!
Backends: named code generators, each optionally extending a parent backend, with the flows
it compiles and writes with by default. The registry keeps them by their normalised name
(trimmed, lower case, without a colon); a backend's lineage is the chain of parents from it
up to the root. Parents are ordered before their children, so that a backend always finds
its parent's flows registered.
-/
namespace PassPlan

/-- A backend. -/
structure Backend where
  /-- The normalised name. -/
  name : String
  /-- The name as written, for display. -/
  display : String := ""
  /-- The normalised name of the parent, empty for a root. -/
  parent : String := ""
  description : String := ""
  defaultFlow : Flow.Name := Flow.Name.zero
  writerFlow : Flow.Name := Flow.Name.zero
  /-- The pipeline file that declares the backend. -/
  source : String := ""
deriving DecidableEq, Repr, Inhabited

namespace Backend

/-- Why a backend operation fails. -/
inductive BackendError where
  /-- The name is empty after normalising, or holds a colon. -/
  | invalid (name : String)
  /-- A backend of the same normalised name is registered. -/
  | duplicate (name : String)
  /-- No backend has the name; the names that are registered. -/
  | notFound (name : String) (available : List String)
  /-- A chain of parents that comes back to where it started. -/
  | cycle (path : List String)
deriving DecidableEq, Repr

/-- The message of a backend failure. -/
def BackendError.message : BackendError → String
  | .invalid n => "invalid backend: " ++ Text.quote n
  | .duplicate n => "backend " ++ Text.quote n ++ " already registered"
  | .notFound n av =>
    if av.isEmpty then "backend " ++ Text.quote n ++ " not found"
    else "backend " ++ Text.quote n ++ " not found (available: " ++ ", ".intercalate av ++ ")"
  | .cycle p => "backend parent cycle: " ++ " -> ".intercalate p

/-- Backends by normalised name. -/
structure Registry where
  backends : List Backend := []
deriving Repr, Inhabited

namespace Registry

/-- The backend registered under a normalised name. -/
def find? (r : Registry) (key : String) : Option Backend := r.backends.find? (·.name = key)

/-- The registered names, sorted. -/
def available (r : Registry) : List String :=
  (r.backends.map (·.name)).mergeSort fun a b => decide (a ≤ b)

/-- The registered backends, sorted by name. -/
def all (r : Registry) : List Backend := r.backends.mergeSort fun a b => decide (a.name ≤ b.name)

/-- Registers a backend under its normalised name; an empty display name is the trimmed name
as written, and the parent is normalised too. -/
def register (r : Registry) (b : Backend) : Except BackendError Registry :=
  let key := Flow.normalizeBackend b.name
  if key = "" || key.toList.contains ':' then .error (.invalid b.name)
  else if (r.find? key).isSome then .error (.duplicate key)
  else
    let display := if b.display = "" then Text.trim b.name else b.display
    .ok ⟨r.backends ++ [{ b with name := key, display, parent := Flow.normalizeBackend b.parent }]⟩

/-- The backend of a name, in any case and with blanks around it. -/
def get (r : Registry) (name : String) : Except BackendError Backend :=
  match r.find? (Flow.normalizeBackend name) with
  | some b => .ok b
  | none => .error (.notFound name r.available)

/-- Whether a backend of the name is registered. -/
def has (r : Registry) (name : String) : Bool := (r.find? (Flow.normalizeBackend name)).isSome

/-- The chain of parents from a backend up, given the names seen so far. -/
def lineageFrom (r : Registry) : Nat → String → List String → Except BackendError (List String)
  | 0, _, chain => .ok chain
  | fuel + 1, cur, chain =>
    if cur = "" then .ok chain
    else if chain.contains cur then .error (.cycle (chain ++ [cur]))
    else do
      let b ← r.get cur
      lineageFrom r fuel b.parent (chain ++ [b.name])

/-- The lineage of a backend: itself, its parent, and so on up to a root. -/
def lineage (r : Registry) (name : String) : Except BackendError (List String) :=
  lineageFrom r (r.backends.length + 1) (Flow.normalizeBackend name) []

end Registry

/-- The state of ordering backends: names finished, the path being visited, and the order. -/
structure Ordering where
  done : List String := []
  stack : List String := []
  out : List Backend := []

/-- Visits a backend: its parent first, then itself. -/
def visitParents (byName : List Backend) (names : List String) :
    Nat → String → Ordering → Except BackendError Ordering
  | 0, _, o => .ok o
  | fuel + 1, name, o =>
    if o.done.contains name then .ok o
    else if o.stack.contains name then
      .error (.cycle (o.stack.dropWhile (· ≠ name) ++ [name]))
    else
      let b := (byName.find? (·.name = name)).getD { name }
      let o := { o with stack := o.stack ++ [name] }
      let afterParent : Except BackendError Ordering :=
        if b.parent = "" then .ok o
        else if !names.contains b.parent then .error (.notFound b.parent names)
        else visitParents byName names fuel b.parent o
      afterParent.map fun o =>
        { o with stack := o.stack.dropLast, done := o.done ++ [name], out := o.out ++ [b] }

/-- Backends ordered so that every parent comes before its children, roots in name order. -/
def parentOrder (backends : List Backend) : Except BackendError (List Backend) :=
  let names := (backends.map (·.name)).mergeSort fun a b => decide (a ≤ b)
  let fuel := backends.length + 1
  (names.foldlM (fun o n => visitParents backends names fuel n o) {}).map (·.out)

end Backend
end PassPlan
