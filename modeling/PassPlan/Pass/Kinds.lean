import PassPlan.Pass.Catalog
import PassPlan.Pass.Params
/-!
Pass kinds: factories that build a pass from a name and parameters. The built-in kinds are
`noop`; `fail` with a `reason`; `annotate`, which sets a node attribute `key` to `value` on
every node (or those of operation `op`) where it differs; `require_attr`, which fails when a
graph attribute (scope `graph`) or a node attribute (scope `node`, optionally only for `op`)
is missing; `prune`, which bypasses the nodes of an operation; and `stamp`, which sets a graph
attribute where it differs.
-/
namespace PassPlan.Pass

/-- Builds a pass from its name and parameters, or says why it cannot. -/
abbrev Factory := String → Params → Except String Pass

/-- The nodes a pass with an optional operation filter works on. -/
def matchNodes (g : Graph) (op : String) : List String :=
  if op = "" then g.ids else g.nodesByOp op

/-- The outcome for whether anything changed. -/
def changedOutcome (changed : Bool) : Outcome := if changed then .transformed else .noop

/-- The `noop` kind. -/
def noopKind : Factory := fun name _ => .ok (noop name)

/-- The `fail` kind. -/
def failKind : Factory := fun name p => do
  let reason ← p.string "reason"
  pure (fail name reason)

/-- Sets an attribute on the nodes where it differs, counting the changes from `changed`; the
first refusal stops it, with the graph as far as it got. -/
def annotateNodes (ids : List String) (key : String) (v : Value) (g : Graph) (changed : Nat) :
    Graph × Nat × Option GraphError :=
  match ids with
  | [] => (g, changed, none)
  | id :: rest =>
    if (g.attr? id key).any (·.deepEq v) then annotateNodes rest key v g changed
    else match g.setAttr id key v with
      | .ok g' => annotateNodes rest key v g' (changed + 1)
      | .error e => (g, changed, some e)

/-- The `annotate` kind. -/
def annotateKind : Factory := fun name p => do
  let key ← p.string "key"
  let v ← p.value "value"
  let op ← p.stringOr "op" ""
  pure ⟨name, fun g =>
    match annotateNodes (matchNodes g op) key v g 0 with
    | (g, n, none) =>
      ⟨changedOutcome (n > 0), g, none,
        [⟨"annotated nodes", [("pass", .str name), ("key", .str key), ("changed", .int n)]⟩]⟩
    | (g, _, some e) => ⟨.noop, g, some (.graph e), []⟩⟩

/-- The `require_attr` kind. -/
def requireAttrKind : Factory := fun name p => do
  let key ← p.string "key"
  let scope ← p.stringOr "scope" "graph"
  Params.oneOf "scope" scope ["graph", "node"]
  let op ← p.stringOr "op" ""
  pure ⟨name, fun g =>
    if scope = "graph" then
      if (g.graphAttr? key).isSome then ⟨.noop, g, none, []⟩
      else ⟨.noop, g, some (.failed name ("graph attribute " ++ Text.quote key ++ " is not set")), []⟩
    else
      let missing := (matchNodes g op).filter fun id => (g.attr? id key).isNone
      if missing.isEmpty then ⟨.noop, g, none, []⟩
      else ⟨.noop, g, some (.failed name ("attribute " ++ Text.quote key ++ " missing on nodes " ++
        ", ".intercalate missing)), []⟩⟩

/-- Bypasses nodes in turn, stopping at the first refusal. -/
def bypassAll (ids : List String) (g : Graph) : Graph × Option Fault :=
  match ids with
  | [] => (g, none)
  | id :: rest =>
    match g.bypass id with
    | .ok g => bypassAll rest g
    | .error e => (g, some (.graph e))

/-- The `prune` kind. -/
def pruneKind : Factory := fun name p => do
  let op ← p.string "op"
  pure ⟨name, fun g =>
    let ids := g.nodesByOp op
    match bypassAll ids g with
    | (g, none) =>
      let notes := if ids.isEmpty then []
        else [⟨"pruned nodes", [("pass", .str name), ("op", .str op), ("nodes", .str (",".intercalate ids))]⟩]
      ⟨changedOutcome !ids.isEmpty, g, none, notes⟩
    | (g, some f) => ⟨.noop, g, some f, []⟩⟩

/-- The `stamp` kind. -/
def stampKind : Factory := fun name p => do
  let key ← p.string "key"
  let v ← p.value "value"
  pure ⟨name, fun g =>
    match g.graphAttr? key with
    | some cur => if cur.deepEq v then ⟨.noop, g, none, []⟩ else ⟨.transformed, g.setGraphAttr key v, none, []⟩
    | none => ⟨.transformed, g.setGraphAttr key v, none, []⟩⟩

/-- Why building a pass of a kind fails. -/
inductive BuildError where
  /-- No factory is registered under the kind. -/
  | unknownKind (kind name : String)
  /-- The factory refused the parameters. -/
  | refused (name kind reason : String)
deriving DecidableEq, Repr

/-- The message of a build failure. -/
def BuildError.message : BuildError → String
  | .unknownKind k n => "unknown pass kind " ++ Text.quote k ++ " (pass " ++ n ++ ")"
  | .refused n k r => "build pass " ++ n ++ " (" ++ k ++ "): " ++ r

/-- Factories by kind. -/
structure Kinds where
  factories : List (String × Factory) := []

namespace Kinds

/-- Registers a factory under a new kind. -/
def register (k : Kinds) (kind : String) (f : Factory) : Except String Kinds :=
  if (k.factories.lookup kind).isSome then .error ("pass kind " ++ Text.quote kind ++ " already registered")
  else .ok ⟨k.factories ++ [(kind, f)]⟩

/-- The registered kinds, sorted. -/
def names (k : Kinds) : List String := (k.factories.map (·.1)).mergeSort fun a b => decide (a ≤ b)

/-- Builds a pass of a kind. -/
def build (k : Kinds) (name kind : String) (p : Params) : Except BuildError Pass :=
  match k.factories.lookup kind with
  | none => .error (.unknownKind kind name)
  | some f => (f name p).mapError (.refused name kind)

/-- The built-in kinds. -/
def builtin : Kinds :=
  ⟨[("noop", noopKind), ("fail", failKind), ("annotate", annotateKind),
    ("require_attr", requireAttrKind), ("prune", pruneKind), ("stamp", stampKind)]⟩

end Kinds
end PassPlan.Pass
