import PassPlan.Graph.Basic
import PassPlan.Yaml.Decode
import PassPlan.Yaml.Encode
/-!
Model documents: a YAML mapping with graph attributes, a list of nodes (id, operation,
attributes) and a list of edges (from, to). Loading decodes the first document with unknown
fields refused and builds the graph: each node with its attributes in key order, then the
edges, then the graph attributes. An empty text is the empty graph. Dumping writes the
attributes (when there are any), the nodes and the edges (when there are any).
-/
namespace PassPlan.Model

/-- The shape of a node entry. -/
def nodeShape : Yaml.Shape :=
  .record "modelfile.Node" [("id", .text), ("op", .text), ("attrs", .dict)]

/-- The shape of an edge entry. -/
def edgeShape : Yaml.Shape := .record "modelfile.Edge" [("from", .text), ("to", .text)]

/-- The shape of a model document. -/
def documentShape : Yaml.Shape :=
  .record "modelfile.Document" [("attrs", .dict), ("nodes", .list nodeShape), ("edges", .list edgeShape)]

/-- Why loading a model fails. -/
inductive LoadError where
  /-- The text is not YAML, or decoding stopped at a fault. -/
  | yaml (message : String)
  /-- Parts of the document do not fit its shape. -/
  | typeErrors (lines : List String)
  /-- The graph refused an entry; `place` names it, as `nodes[0]` or `edges[1]`. -/
  | graph (place : String) (e : GraphError)
deriving Repr

/-- The message of a load failure. -/
def LoadError.message : LoadError → String
  | .yaml m => "decode model: " ++ m
  | .typeErrors ls => "decode model: " ++ Yaml.typeErrorMessage ls
  | .graph p e => p ++ ": " ++ e.message

/-- A text field of a decoded record. -/
def textField (v : Value) (k : String) : String :=
  match v with
  | .dict kvs => match kvs.lookup k with
    | some (.str s) => s
    | _ => ""
  | _ => ""

/-- A map field of a decoded record, as attributes. -/
def attrsField (v : Value) (k : String) : Attrs :=
  match v with
  | .dict kvs => match kvs.lookup k with
    | some (.dict a) => a
    | _ => []
  | _ => []

/-- A list field of a decoded record. -/
def listField (v : Value) (k : String) : List Value :=
  match v with
  | .dict kvs => match kvs.lookup k with
    | some (.list xs) => xs
    | _ => []
  | _ => []

/-- Builds the graph of a decoded document. -/
def build (doc : Value) : Except LoadError Graph := do
  let nodes := (listField doc "nodes").zipIdx
  let addNode (g : Graph) (entry : Value × Nat) : Except LoadError Graph := do
    let (n, i) := entry
    let place := "nodes[" ++ toString i ++ "]"
    let id := textField n "id"
    let g ← (g.addNode id (textField n "op")).mapError (.graph place)
    (attrsField n "attrs").foldlM (fun g (k, v) => (g.setAttr id k v).mapError (.graph place)) g
  let g ← nodes.foldlM addNode {}
  let addEdge (g : Graph) (entry : Value × Nat) : Except LoadError Graph :=
    let (e, i) := entry
    (g.addEdge (textField e "from") (textField e "to")).mapError (.graph ("edges[" ++ toString i ++ "]"))
  let g ← (listField doc "edges").zipIdx.foldlM addEdge g
  pure ((attrsField doc "attrs").foldl (fun g (k, v) => g.setGraphAttr k v) g)

/-- Loads a model from YAML text. -/
def load (text : String) : Except LoadError Graph :=
  match Yaml.firstDocument Yaml.plainTag text with
  | .error e => .error (.yaml e.message)
  | .ok none => .ok {}
  | .ok (some doc) =>
    match Yaml.decodeTree documentShape doc (2 * text.length + 16) with
    | .fault m => .error (.yaml m)
    | .typeErrors ls => .error (.typeErrors ls)
    | .value v => build v

open Yaml in
/-- The events of a model document. -/
def documentEvents (g : Graph) : List Emitted :=
  let mapStart : Emitted := ⟨.mappingStart "" "" true false, {}⟩
  let mapEnd : Emitted := ⟨.mappingEnd, {}⟩
  let attrs := if g.attrs.isEmpty then [] else stringEvent "attrs" :: eventsOf (.dict g.attrs)
  let node (n : Node) : List Emitted :=
    [mapStart, stringEvent "id", stringEvent n.id, stringEvent "op", stringEvent n.op] ++
      (if n.attrs.isEmpty then [] else stringEvent "attrs" :: eventsOf (.dict n.attrs)) ++ [mapEnd]
  let nodes := stringEvent "nodes" :: ⟨.sequenceStart "" "" true false, {}⟩ ::
    (g.nodes.map node).flatten ++ [⟨.sequenceEnd, {}⟩]
  let edge (e : String × String) : List Emitted :=
    [mapStart, stringEvent "from", stringEvent e.1, stringEvent "to", stringEvent e.2, mapEnd]
  let edges := if g.edges.isEmpty then [] else
    stringEvent "edges" :: ⟨.sequenceStart "" "" true false, {}⟩ :: (g.edges.map edge).flatten ++
      [⟨.sequenceEnd, {}⟩]
  [mapStart] ++ attrs ++ nodes ++ edges ++ [mapEnd]

/-- The YAML text of a model. -/
def dump (g : Graph) : String := Yaml.documentText (documentEvents g)

end PassPlan.Model
