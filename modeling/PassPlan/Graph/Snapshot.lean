import PassPlan.Graph.Basic
import PassPlan.Json.Value
/-!
The JSON snapshot of a graph: its nodes in insertion order with their attributes, its edges as
pairs in insertion order, and its graph attributes, keys in order.
-/
namespace PassPlan.Graph

/-- The JSON form of attributes. -/
def attrsJson (a : Attrs) : Json := .obj (a.map fun (k, v) => (k, v.json))

/-- The JSON snapshot of a graph. -/
def snapshot (g : Graph) : Json :=
  .obj [("nodes", .arr (g.nodes.map fun n =>
          .obj [("id", .str n.id), ("op", .str n.op), ("attrs", attrsJson n.attrs)])),
        ("edges", .arr (g.edges.map fun (a, b) => .arr [.str a, .str b])),
        ("attrs", attrsJson g.attrs)]

end PassPlan.Graph
