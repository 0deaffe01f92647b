import PassPlan.Value.Basic
import PassPlan.Text.Blank
import PassPlan.Text.Quoted
/-!
The in-memory model graph: nodes in insertion order, each with an operation and attributes,
directed edges in insertion order with no edge twice, and graph-level attributes. Removing a
node removes the edges that touch it; bypassing a node also joins each predecessor to each
successor.
-/
namespace PassPlan

/-- A node of the model: its id, its operation and its attributes. -/
structure Node where
  id : String
  op : String
  attrs : Attrs := []
deriving Inhabited, Repr

/-- Why a node operation fails. -/
inductive NodeProblem where
  | notFound
  | duplicate
  | invalidId
deriving DecidableEq, Repr

/-- A failure of a graph operation. -/
inductive GraphError where
  /-- A node operation that failed for the given id. -/
  | node (id : String) (problem : NodeProblem)
  /-- An edge to remove that is not there. -/
  | edgeNotFound (src dst : String)
deriving DecidableEq, Repr

/-- The message of a graph failure. -/
def GraphError.message : GraphError → String
  | .node id p =>
    "node " ++ Text.quote id ++ ": " ++
      match p with
      | .notFound => "node not found"
      | .duplicate => "duplicate node"
      | .invalidId => "invalid node id"
  | .edgeNotFound a b => a ++ " -> " ++ b ++ ": edge not found"

/-- The model graph. -/
structure Graph where
  nodes : List Node := []
  edges : List (String × String) := []
  attrs : Attrs := []
deriving Inhabited, Repr

namespace Graph

/-- The node with an id. -/
def node? (g : Graph) (id : String) : Option Node := g.nodes.find? (·.id = id)

/-- Whether a node exists. -/
def hasNode (g : Graph) (id : String) : Bool := g.nodes.any (·.id = id)

/-- The node ids in insertion order. -/
def ids (g : Graph) : List String := g.nodes.map (·.id)

/-- The number of nodes. -/
def size (g : Graph) : Nat := g.nodes.length

/-- The operation of a node. -/
def op (g : Graph) (id : String) : Except GraphError String :=
  match g.node? id with
  | some n => .ok n.op
  | none => .error (.node id .notFound)

/-- Adds a node; the id must not be blank or taken. -/
def addNode (g : Graph) (id op : String) : Except GraphError Graph :=
  if Text.isBlankText id then .error (.node id .invalidId)
  else if g.hasNode id then .error (.node id .duplicate)
  else .ok { g with nodes := g.nodes ++ [⟨id, op, []⟩] }

/-- Removes a node and the edges that touch it. -/
def removeNode (g : Graph) (id : String) : Except GraphError Graph :=
  if g.hasNode id then
    .ok { g with nodes := g.nodes.filter (·.id ≠ id),
                 edges := g.edges.filter fun e => e.1 ≠ id && e.2 ≠ id }
  else .error (.node id .notFound)

/-- The sources of the edges into a node, in edge order. -/
def predecessors (g : Graph) (id : String) : List String :=
  (g.edges.filter (·.2 = id)).map (·.1)

/-- The targets of the edges out of a node, in edge order. -/
def successors (g : Graph) (id : String) : List String :=
  (g.edges.filter (·.1 = id)).map (·.2)

/-- Appends an edge unless it is there already. -/
def joinEdge (edges : List (String × String)) (e : String × String) : List (String × String) :=
  if e ∈ edges then edges else edges ++ [e]

/-- Removes a node and joins each of its predecessors to each of its successors. -/
def bypass (g : Graph) (id : String) : Except GraphError Graph := do
  let preds := g.predecessors id
  let succs := g.successors id
  let g ← g.removeNode id
  let joins := preds.flatMap fun p => succs.map fun s => (p, s)
  pure { g with edges := joins.foldl joinEdge g.edges }

/-- Adds an edge between existing nodes; an edge already there is kept once. -/
def addEdge (g : Graph) (src dst : String) : Except GraphError Graph :=
  if !g.hasNode src then .error (.node src .notFound)
  else if !g.hasNode dst then .error (.node dst .notFound)
  else .ok { g with edges := joinEdge g.edges (src, dst) }

/-- Removes an edge. -/
def removeEdge (g : Graph) (src dst : String) : Except GraphError Graph :=
  match g.edges.idxOf? (src, dst) with
  | some i => .ok { g with edges := g.edges.eraseIdx i }
  | none => .error (.edgeNotFound src dst)

/-- Changes the node with an id. -/
def updateNode (g : Graph) (id : String) (f : Node → Node) : Except GraphError Graph :=
  if g.hasNode id then .ok { g with nodes := g.nodes.map fun n => if n.id = id then f n else n }
  else .error (.node id .notFound)

/-- A node attribute. -/
def attr? (g : Graph) (id key : String) : Option Value := (g.node? id).bind (·.attrs.get? key)

/-- Sets a node attribute. -/
def setAttr (g : Graph) (id key : String) (v : Value) : Except GraphError Graph :=
  g.updateNode id fun n => { n with attrs := n.attrs.set key v }

/-- Removes a node attribute. -/
def deleteAttr (g : Graph) (id key : String) : Except GraphError Graph :=
  g.updateNode id fun n => { n with attrs := n.attrs.erase key }

/-- The attribute keys of a node, sorted; none for a missing node. -/
def attrKeys (g : Graph) (id : String) : List String :=
  match g.node? id with
  | some n => n.attrs.keys
  | none => []

/-- A graph attribute. -/
def graphAttr? (g : Graph) (key : String) : Option Value := g.attrs.get? key

/-- Sets a graph attribute. -/
def setGraphAttr (g : Graph) (key : String) (v : Value) : Graph := { g with attrs := g.attrs.set key v }

/-- The graph attribute keys, sorted. -/
def graphAttrKeys (g : Graph) : List String := g.attrs.keys

/-- The ids of the nodes with an operation, in node order. -/
def nodesByOp (g : Graph) (op : String) : List String := (g.nodes.filter (·.op = op)).map (·.id)

end Graph
end PassPlan
