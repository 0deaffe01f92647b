import PassPlan.Yaml.Node
import PassPlan.Yaml.Encode
/-!
Node trees written back as YAML text, with their styles and comments. A tag is left out when
the node would read back with it anyway; a string whose plain text would read as something
else is double quoted instead. The comment below a mapping key is written after the whole
value that follows the key, so it travels to the next key, and the last one to the mapping's
end.
-/
namespace PassPlan.Yaml

mutual
/-- How deep a node tree goes. -/
def Node.depth : Node → Nat
  | ⟨_, _, _, _, _, content, _, _, _, _, _, _⟩ => Node.depthAll content + 1
/-- How deep the deepest of some node trees goes. -/
def Node.depthAll : List Node → Nat
  | [] => 0
  | n :: ns => max n.depth (Node.depthAll ns)
end

/-- The tag a node is written with, empty when it reads back the same without it, and whether
a string must be quoted to keep its tag. -/
def writtenTag (n : Node) : String × Bool :=
  let stag := shortTag n.tag
  if n.tag = "" || n.style.tagged then (n.tag, false)
  else
    match n.kind with
    | .scalar =>
      let quoted := n.style.singleQuoted || n.style.doubleQuoted || n.style.literal || n.style.folded
      if stag = "!!str" && quoted then ("", false)
      else if plainTag n.value = stag then ("", false)
      else if stag = "!!str" then ("", true)
      else (n.tag, false)
    | .mapping => if stag = "!!map" then ("", false) else (n.tag, false)
    | .sequence => if stag = "!!seq" then ("", false) else (n.tag, false)
    | .aliasRef => if stag = "!!str" then ("", false) else (n.tag, false)
    | .document => (n.tag, false)

/-- The style a scalar is written in: the one it was read in, a literal block for text with line
breaks, and double quotes when its tag demands. -/
def scalarStyle (n : Node) (forceQuotes : Bool) : ScalarStyle :=
  if n.style.doubleQuoted then .doubleQuoted
  else if n.style.singleQuoted then .singleQuoted
  else if n.style.literal then .literal
  else if n.style.folded then .folded
  else if n.value.contains '\n' then .literal
  else if forceQuotes then .doubleQuoted
  else .plain

/-- The events of a mapping's pairs given the events of one node after a pending comment, and
the comment left for the mapping's end. Each key's own foot comment waits for the next key. -/
def pairEvents (each : String → Node → List Emitted) : String → List Node → List Emitted × String
  | tail, k :: v :: rest =>
    let keyEvents := each tail { k with footComment := "" }
    let (more, last) := pairEvents each k.footComment rest
    (keyEvents ++ each "" v ++ more, last)
  | tail, _ => ([], tail)

/-- The events of a node, a pending comment from the key before it put on its first event. -/
def nodeEvents : Nat → String → Node → List Emitted
  | 0, _, _ => []
  | fuel + 1, tail, n =>
    let (tag, force) := writtenTag n
    let long := longTag tag
    match n.kind with
    | .document =>
      [⟨.documentStart, { head := n.headComment }⟩] ++ (n.content.map (nodeEvents fuel "")).flatten ++
        [⟨.documentEnd, { foot := n.footComment }⟩]
    | .sequence =>
      [⟨.sequenceStart n.anchor long (tag = "") n.style.flow, { head := n.headComment }⟩] ++
        (n.content.map (nodeEvents fuel "")).flatten ++
        [⟨.sequenceEnd, { line := n.lineComment, foot := n.footComment }⟩]
    | .mapping =>
      let (inner, last) := pairEvents (nodeEvents fuel) "" n.content
      [⟨.mappingStart n.anchor long (tag = "") n.style.flow, { head := n.headComment, tail }⟩] ++ inner ++
        [⟨.mappingEnd, { line := n.lineComment, foot := n.footComment, tail := last }⟩]
    | .aliasRef => [⟨.aliasRef n.value, { head := n.headComment, line := n.lineComment, foot := n.footComment }⟩]
    | .scalar =>
      [⟨.scalar n.anchor long n.value (tag = "") (tag = "") (scalarStyle n force),
        { head := n.headComment, line := n.lineComment, foot := n.footComment, tail }⟩]

/-- The text of a node tree; a node that is not a document is written as one. -/
def Node.text (n : Node) : String :=
  let events := nodeEvents (n.depth + 1) "" n
  if n.kind = .document then emitDocument events else documentText events

end PassPlan.Yaml
