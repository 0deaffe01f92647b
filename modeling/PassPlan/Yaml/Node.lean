import PassPlan.Yaml.Event
/-!
YAML node trees, composed from events. A node is a document, a sequence, a mapping (keys and
values alternating in its content), a scalar, or an alias that points to the node its anchor
named. A node keeps its tag, how it was written, its line and column (from one), and the
comments around it.
-/
namespace PassPlan.Yaml

/-- What a node is. -/
inductive Kind where
  | document
  | sequence
  | mapping
  | scalar
  | aliasRef
deriving DecidableEq, Repr, Inhabited

/-- How a node was written: with an explicit tag, quoted, as a block scalar, or in flow style. -/
structure Style where
  tagged : Bool := false
  doubleQuoted : Bool := false
  singleQuoted : Bool := false
  literal : Bool := false
  folded : Bool := false
  flow : Bool := false
deriving DecidableEq, Repr, Inhabited

/-- A YAML node. -/
structure Node where
  kind : Kind
  tag : String := ""
  value : String := ""
  style : Style := {}
  anchor : String := ""
  content : List Node := []
  /-- For an alias, the node its anchor names; none while that node is still being read. -/
  target : Option Node := none
  line : Nat := 0
  column : Nat := 0
  headComment : String := ""
  lineComment : String := ""
  footComment : String := ""
deriving Repr, Inhabited

/-- Short forms of the standard tags. -/
def shortTag (tag : String) : String :=
  if tag.startsWith "tag:yaml.org,2002:" then "!!" ++ String.ofList (tag.toList.drop 18) else tag

/-- Long forms of the standard tags. -/
def longTag (tag : String) : String :=
  if tag.startsWith "!!" then "tag:yaml.org,2002:" ++ String.ofList (tag.toList.drop 2) else tag

/-- Why composing a node tree fails. -/
inductive ComposeError where
  | malformed (e : SyntaxError)
  | unknownAnchor (name : String)
deriving Repr, Inhabited

/-- The message of a composing failure. -/
def ComposeError.message : ComposeError → String
  | .malformed e => e.message
  | .unknownAnchor n => "yaml: unknown anchor '" ++ n ++ "' referenced"

/-- The composer: the parser, the event looked at, and the anchors defined so far. -/
structure Composer where
  parser : Parser
  event : Option Event := none
  anchors : List (String × Option Node) := []
  started : Bool := false
deriving Inhabited

/-- Composing steps. -/
abbrev ComposeM := StateT Composer (Except ComposeError)

namespace Composer

/-- The current event, parsed if needed. -/
def peek : ComposeM Event := do
  let c ← get
  match c.event with
  | some e => pure e
  | none =>
    match Parser.step.run c.parser with
    | .ok (some e, p) => set { c with parser := p, event := some e }; pure e
    | .ok (none, p) => set { c with parser := p }; pure ⟨.streamEnd, {}, {}, {}⟩
    | .error e => throw (.malformed e)

/-- Consumes the current event. -/
def advance : ComposeM Unit := modify fun c => { c with event := none }

/-- Records an anchor; none marks one whose node is still being read. -/
def define (name : String) (n : Option Node) : ComposeM Unit :=
  if name = "" then pure ()
  else modify fun c => { c with anchors := (name, n) :: c.anchors.filter (·.1 ≠ name) }

/-- A scalar's tag: an explicit one in short form, `!!str` for a quoted scalar, else the
tag its text resolves to. -/
def nodeTag (explicit : String) (quoted : Bool) (resolve : String → String) (value : String) :
    String × Bool :=
  if explicit ≠ "" && explicit ≠ "!" then (shortTag explicit, true)
  else if quoted then ("!!str", false)
  else (resolve value, false)

/-- Moves foot comments between the pairs of a mapping's content as they are read: in block
style a comment below a key that is not the first belongs below the pair before it, and a
comment below a value goes to its key when the key has none. -/
def arrangeFeet (block : Bool) : List Node → List Node → List Node
  | done, k :: v :: rest =>
    let (done, k) :=
      if block && k.footComment ≠ "" then
        match done with
        | pv :: pk :: older => (pv :: { pk with footComment := k.footComment } :: older, { k with footComment := "" })
        | _ => (done, k)
      else (done, k)
    let (k, v) :=
      if k.footComment = "" && v.footComment ≠ "" then
        ({ k with footComment := v.footComment }, { v with footComment := "" })
      else (k, v)
    arrangeFeet block (v :: k :: done) rest
  | done, rest => done.reverse ++ rest

/-- The comment below a block mapping belongs below its last key. -/
def lowerFoot (n : Node) : Node :=
  if !n.style.flow && n.footComment ≠ "" && n.content.length > 1 then
    { n with content := n.content.modify (n.content.length - 2) (fun k => { k with footComment := n.footComment }),
             footComment := "" }
  else n

mutual
/-- Composes the node that starts at the current event. -/
def node (resolve : String → String) : Nat → ComposeM Node
  | 0 => pure { kind := .scalar }
  | fuel + 1 => do
    let e ← peek
    let line := e.start.line + 1
    let column := e.start.column + 1
    match e.kind with
    | .aliasRef name =>
      advance
      match (← get).anchors.lookup name with
      | some target =>
        pure { kind := .aliasRef, value := name, target, line, column, headComment := e.notes.head,
               lineComment := e.notes.line, footComment := e.notes.foot }
      | none => throw (.unknownAnchor name)
    | .scalar anchor tag value _ _ style =>
      advance
      let quoted := style ≠ .plain
      let (t, tagged) := nodeTag tag quoted (if value = "<<" then fun _ => "!!merge" else resolve) value
      let st : Style :=
        { tagged := tagged
          doubleQuoted := style = .doubleQuoted
          singleQuoted := style = .singleQuoted
          literal := style = .literal
          folded := style = .folded }
      let n : Node :=
        { kind := .scalar, tag := t, value, style := st, anchor, line, column, headComment := e.notes.head,
          lineComment := e.notes.line, footComment := e.notes.foot }
      define anchor (some n)
      pure n
    | .sequenceStart anchor tag _ flow =>
      advance
      let tagged := tag ≠ "" && tag ≠ "!"
      define anchor none
      let items ← children resolve fuel .sequenceEnd
      let close ← peek
      advance
      let st : Style := { tagged := tagged, flow := flow }
      let n : Node :=
        { kind := .sequence
          tag := if tagged then shortTag tag else "!!seq"
          style := st
          anchor := anchor
          content := items
          line := line
          column := column
          headComment := e.notes.head
          lineComment := close.notes.line
          footComment := close.notes.foot }
      define anchor (some n)
      pure n
    | .mappingStart anchor tag _ flow =>
      advance
      let tagged := tag ≠ "" && tag ≠ "!"
      define anchor none
      let items ← children resolve fuel .mappingEnd
      let close ← peek
      advance
      let st : Style := { tagged := tagged, flow := flow }
      let n : Node :=
        { kind := .mapping
          tag := if tagged then shortTag tag else "!!map"
          style := st
          anchor := anchor
          content := arrangeFeet (!flow) [] items
          line := line
          column := column
          headComment := e.notes.head
          lineComment := close.notes.line
          footComment := close.notes.foot }
      let n := lowerFoot n
      define anchor (some n)
      pure n
    | _ => pure { kind := .scalar, line, column }
/-- Composes nodes up to the event that closes the collection. -/
def children (resolve : String → String) : Nat → EventKind → ComposeM (List Node)
  | 0, _ => pure []
  | fuel + 1, stop => do
    let e ← peek
    if e.kind = stop || e.kind = .streamEnd then pure []
    else
      let n ← node resolve fuel
      let rest ← children resolve fuel stop
      pure (n :: rest)
end

/-- Composes the next document of the stream, or none at its end. -/
def document (resolve : String → String) : ComposeM (Option Node) := do
  if !(← get).started then
    let _ ← peek
    advance
    modify fun c => { c with started := true, anchors := [] }
  let e ← peek
  match e.kind with
  | .documentStart _ =>
    advance
    let fuel := 4 * (← get).parser.scanner.input.size + 16
    let root ← node resolve fuel
    let close ← peek
    advance
    let doc : Node :=
      { kind := .document
        content := [root]
        line := e.start.line + 1
        column := e.start.column + 1
        headComment := e.notes.head
        lineComment := e.notes.line
        footComment := if close.kind matches .documentEnd _ then close.notes.foot else e.notes.foot }
    pure (some doc)
  | _ => pure none

end Composer

/-- The first document of a text, or none when the text holds no document. -/
def firstDocument (resolve : String → String) (text : String) : Except ComposeError (Option Node) := do
  let s ← (Scanner.start text).mapError .malformed
  let c : Composer := { parser := { scanner := s } }
  let (d, _) ← (Composer.document resolve).run c
  pure d

end PassPlan.Yaml
