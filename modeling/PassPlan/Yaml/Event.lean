import PassPlan.Yaml.Scanner
/-!
YAML events: the parser turns tokens into a stream of document, collection and scalar events.
It is a state machine with a stack of states to return to, one state per place in the grammar:
a block or flow node, the entries of sequences, the keys and values of mappings.
-/
namespace PassPlan.Yaml

/-- A parsing event. -/
inductive EventKind where
  | streamStart
  | streamEnd
  | documentStart (implicit : Bool)
  | documentEnd (implicit : Bool)
  | aliasRef (anchor : String)
  | scalar (anchor tag value : String) (plainImplicit quotedImplicit : Bool) (style : ScalarStyle)
  | sequenceStart (anchor tag : String) (implicit flow : Bool)
  | sequenceEnd
  | mappingStart (anchor tag : String) (implicit flow : Bool)
  | mappingEnd
deriving Repr, Inhabited, DecidableEq

/-- An event with the marks where it starts and ends. -/
structure Event where
  kind : EventKind
  start : Mark
  stop : Mark
  notes : Notes
deriving Repr, Inhabited

/-- The places of the grammar. -/
inductive ParseState where
  | streamStart
  | implicitDocumentStart
  | documentStart
  | documentContent
  | documentEnd
  | blockNode
  | blockNodeOrIndentlessSequence
  | flowNode
  | blockSequenceFirstEntry
  | blockSequenceEntry
  | indentlessSequenceEntry
  | blockMappingFirstKey
  | blockMappingKey
  | blockMappingValue
  | flowSequenceFirstEntry
  | flowSequenceEntry
  | flowSequenceEntryMappingKey
  | flowSequenceEntryMappingValue
  | flowSequenceEntryMappingEnd
  | flowMappingFirstKey
  | flowMappingKey
  | flowMappingValue
  | flowMappingEmptyValue
  | finished
deriving Repr, Inhabited, DecidableEq

/-- The parser's state. -/
structure Parser where
  scanner : Scanner
  state : ParseState := .streamStart
  states : List ParseState := []
  marks : List Mark := []
  tagDirectives : List (String × String) := []
  /-- The comment above a sequence entry that holds a collection, kept for that collection. -/
  stem : String := ""
deriving Inhabited

/-- Parsing steps. -/
abbrev ParseM := StateT Parser (Except SyntaxError)

namespace Parser

/-- The next token. -/
def peek : ParseM Token := do
  let p ← get
  match Scanner.peek.run p.scanner with
  | .ok (t, s) => set { p with scanner := s }; pure t
  | .error e => throw e

/-- Takes the next token. -/
def skipToken : ParseM Unit :=
  modify fun p => match Scanner.take.run p.scanner with
    | .ok ((), s) => { p with scanner := s }
    | .error _ => p

/-- Hands the comments waiting in the scanner to an event. -/
def noted (e : Event) : ParseM Event := do
  let p ← get
  let s := p.scanner
  set { p with scanner := { s with headComment := "", lineComment := "", footComment := "" }, stem := "" }
  pure { e with notes := { head := s.headComment, line := s.lineComment, foot := s.footComment } }

/-- Gives a block collection the comment kept above the entry that holds it. -/
def stemmed (e : Event) : ParseM Event := do
  let p ← get
  set { p with stem := "" }
  pure { e with notes := { head := p.stem } }

/-- After the indicator of a sequence entry that holds a block collection, the comment that was
above the indicator is kept for the collection; the rest stays for its first entry. -/
def splitStem (priorLength : Nat) : ParseM Unit := do
  if priorLength = 0 then return
  let t ← peek
  if t.kind ≠ .blockSequenceStart && t.kind ≠ .blockMappingStart then return
  modify fun p =>
    let h := p.scanner.headComment.toList
    { p with stem := String.ofList (h.take priorLength),
             scanner := { p.scanner with headComment := String.ofList (h.drop (priorLength + 1)) } }

/-- The comment above an implicit document split at its last blank line, or before a final line
break: the part before belongs to the document, the part after to the node that follows. -/
def splitHead (h : String) : String × String :=
  let cs := h.toList
  let n := cs.length
  let breakAt (i : Nat) : Bool := cs[i]? = some '\n'
  match ((List.range n).reverse.filter (0 < ·)).find? (fun i => breakAt i && (i + 1 = n || breakAt (i - 1))) with
  | some i => (String.ofList (cs.take (if i + 1 = n then i else i - 1)), String.ofList (cs.drop (i + 1)))
  | none => ("", h)

/-- Fails with a parser error. -/
def fail {α : Type} (problem : String) (m : Mark) : ParseM α :=
  throw { stage := .parser, problem, problemMark := m }

/-- Fails with a parser error in a context. -/
def failIn {α : Type} (context : String) (contextMark : Mark) (problem : String) (m : Mark) : ParseM α :=
  throw { stage := .parser, context, contextMark, problem, problemMark := m }

/-- Returns to the state on top of the stack. -/
def popState : ParseM Unit :=
  modify fun p => match p.states with
    | s :: rest => { p with state := s, states := rest }
    | [] => { p with state := .finished }

/-- Saves a state to return to. -/
def pushState (s : ParseState) : ParseM Unit := modify fun p => { p with states := s :: p.states }

/-- Saves the mark where a collection starts. -/
def pushMark (m : Mark) : ParseM Unit := modify fun p => { p with marks := m :: p.marks }

/-- Takes the mark of the innermost collection. -/
def popMark : ParseM Mark := do
  let p ← get
  match p.marks with
  | m :: rest => set { p with marks := rest }; pure m
  | [] => pure {}

/-- The handles every document knows. -/
def defaultTags : List (String × String) := [("!", "!"), ("!!", "tag:yaml.org,2002:")]

/-- Adds a tag handle; a second definition in one document is an error unless allowed. -/
def addTagDirective (handle pfx : String) (allowDuplicate : Bool) (m : Mark) : ParseM Unit := do
  let p ← get
  if p.tagDirectives.any (·.1 = handle) then
    if allowDuplicate then return
    fail "found duplicate %TAG directive" m
  set { p with tagDirectives := p.tagDirectives ++ [(handle, pfx)] }

/-- Reads the directives before a document, then adds the default handles. -/
def processDirectives : ParseM Unit := do
  let rec go : Nat → Bool → ParseM Unit
    | 0, _ => pure ()
    | n + 1, seenVersion => do
      let t ← peek
      match t.kind with
      | .versionDirective major minor =>
        if seenVersion then fail "found duplicate %YAML directive" t.start
        if major ≠ 1 || minor ≠ 1 then fail "found incompatible YAML document" t.start
        skipToken; go n true
      | .tagDirective handle pfx =>
        addTagDirective handle pfx false t.start
        skipToken; go n seenVersion
      | _ => pure ()
  go ((← get).scanner.input.size + 2) false
  let t ← peek
  for (h, pfx) in defaultTags do addTagDirective h pfx true t.start

/-- An empty plain scalar at a mark. -/
def emptyScalar (m : Mark) : Event := ⟨.scalar "" "" "" true false .plain, m, m, {}⟩

/-- Parses a node: an alias, or an optional anchor and tag before a scalar or a collection. -/
def parseNode (block indentless : Bool) : ParseM Event := do
  let t ← peek
  if let .aliasRef name := t.kind then
    popState
    let e ← noted ⟨.aliasRef name, t.start, t.stop, {}⟩
    skipToken
    return e
  let mut start := t.start
  let mut stop := t.start
  let mut anchor := ""
  let mut tagged := false
  let mut handle := ""
  let mut suffix := ""
  let mut tagMark := t.start
  let mut t := t
  match t.kind with
  | .anchor a =>
    anchor := a; start := t.start; stop := t.stop
    skipToken; t ← peek
    if let .tag h s := t.kind then
      tagged := true; handle := h; suffix := s; tagMark := t.start; stop := t.stop
      skipToken; t ← peek
  | .tag h s =>
    tagged := true; handle := h; suffix := s; start := t.start; tagMark := t.start; stop := t.stop
    skipToken; t ← peek
    if let .anchor a := t.kind then
      anchor := a; stop := t.stop
      skipToken; t ← peek
  | _ => pure ()
  let mut tag := ""
  if tagged then
    if handle = "" then tag := suffix
    else
      match (← get).tagDirectives.find? (·.1 = handle) with
      | some (_, pfx) => tag := pfx ++ suffix
      | none => failIn "while parsing a node" start "found undefined tag handle" tagMark
  let implicit := tag = ""
  if indentless && t.kind = .blockEntry then
    modify fun p => { p with state := .indentlessSequenceEntry }
    return ⟨.sequenceStart anchor tag implicit false, start, t.stop, {}⟩
  match t.kind with
  | .scalar v style =>
    let plainImplicit := (tag = "" && style = .plain) || tag = "!"
    let quotedImplicit := !plainImplicit && tag = ""
    popState
    let e ← noted ⟨.scalar anchor tag v plainImplicit quotedImplicit style, start, t.stop, {}⟩
    skipToken
    return e
  | .flowSequenceStart =>
    modify fun p => { p with state := .flowSequenceFirstEntry }
    return (← noted ⟨.sequenceStart anchor tag implicit true, start, t.stop, {}⟩)
  | .flowMappingStart =>
    modify fun p => { p with state := .flowMappingFirstKey }
    return (← noted ⟨.mappingStart anchor tag implicit true, start, t.stop, {}⟩)
  | .blockSequenceStart =>
    if block then
      modify fun p => { p with state := .blockSequenceFirstEntry }
      return (← stemmed ⟨.sequenceStart anchor tag implicit false, start, t.stop, {}⟩)
  | .blockMappingStart =>
    if block then
      modify fun p => { p with state := .blockMappingFirstKey }
      return (← stemmed ⟨.mappingStart anchor tag implicit false, start, t.stop, {}⟩)
  | _ => pure ()
  if anchor ≠ "" || tag ≠ "" then
    popState
    return ⟨.scalar anchor tag "" implicit false .plain, start, stop, {}⟩
  failIn (if block then "while parsing a block node" else "while parsing a flow node") start
    "did not find expected node content" t.start

/-- Parses the start of a document, or the end of the stream. -/
def parseDocumentStart (implicit : Bool) : ParseM Event := do
  let mut t ← peek
  if !implicit then
    let rec skipEnds : Nat → ParseM Token
      | 0 => peek
      | n + 1 => do
        let t ← peek
        if t.kind = .documentEnd then skipToken; skipEnds n else pure t
    t ← skipEnds ((← get).scanner.input.size + 2)
  let isDirective := match t.kind with
    | .versionDirective .. | .tagDirective .. => true
    | _ => false
  if implicit && !isDirective && t.kind ≠ .documentStart && t.kind ≠ .streamEnd then
    processDirectives
    pushState .documentEnd
    let (head, rest) := splitHead (← get).scanner.headComment
    modify fun p => { p with state := .blockNode, scanner := { p.scanner with headComment := rest } }
    return ⟨.documentStart true, t.start, t.start, { head }⟩
  if t.kind ≠ .streamEnd then
    let start := t.start
    processDirectives
    let t2 ← peek
    if t2.kind ≠ .documentStart then fail "did not find expected <document start>" t2.start
    pushState .documentEnd
    modify fun p => { p with state := .documentContent }
    skipToken
    return ⟨.documentStart false, start, t2.stop, {}⟩
  modify fun p => { p with state := .finished }
  skipToken
  return ⟨.streamEnd, t.start, t.stop, {}⟩

/-- Parses one event. -/
def step : ParseM (Option Event) := do
  match (← get).state with
  | .finished => pure none
  | .streamStart =>
    let t ← peek
    if t.kind ≠ .streamStart then fail "did not find expected <stream-start>" t.start
    modify fun p => { p with state := .implicitDocumentStart }
    skipToken
    pure (some ⟨.streamStart, t.start, t.stop, {}⟩)
  | .implicitDocumentStart => some <$> parseDocumentStart true
  | .documentStart => some <$> parseDocumentStart false
  | .documentContent =>
    let t ← peek
    match t.kind with
    | .versionDirective .. | .tagDirective .. | .documentStart | .documentEnd | .streamEnd =>
      popState; pure (some (emptyScalar t.start))
    | _ => some <$> parseNode true false
  | .documentEnd =>
    let t ← peek
    let explicit := t.kind = .documentEnd
    if explicit then skipToken
    modify fun p => { p with tagDirectives := [], state := .documentStart }
    let e ← noted ⟨.documentEnd (!explicit), t.start, if explicit then t.stop else t.start, {}⟩
    if e.notes.head ≠ "" && e.notes.foot = "" then
      pure (some { e with notes := { e.notes with head := "", foot := e.notes.head } })
    else pure (some e)
  | .blockNode => some <$> parseNode true false
  | .blockNodeOrIndentlessSequence => some <$> parseNode true true
  | .flowNode => some <$> parseNode false false
  | .blockSequenceFirstEntry =>
    let t ← peek; pushMark t.start; skipToken
    modify fun p => { p with state := .blockSequenceEntry }
    blockSequenceEntry
  | .blockSequenceEntry => blockSequenceEntry
  | .indentlessSequenceEntry =>
    let t ← peek
    if t.kind = .blockEntry then
      let m := t.stop
      let prior := (← get).scanner.headComment.length
      skipToken
      splitStem prior
      let t ← peek
      match t.kind with
      | .blockEntry | .key | .value | .blockEnd =>
        modify fun p => { p with state := .indentlessSequenceEntry }
        pure (some (emptyScalar m))
      | _ => pushState .indentlessSequenceEntry; some <$> parseNode true false
    else
      popState
      pure (some ⟨.sequenceEnd, t.start, t.start, {}⟩)
  | .blockMappingFirstKey =>
    let t ← peek; pushMark t.start; skipToken
    modify fun p => { p with state := .blockMappingKey }
    blockMappingKey
  | .blockMappingKey => blockMappingKey
  | .blockMappingValue =>
    let t ← peek
    if t.kind = .value then
      let m := t.stop
      skipToken
      let t ← peek
      match t.kind with
      | .key | .value | .blockEnd =>
        modify fun p => { p with state := .blockMappingKey }
        pure (some (emptyScalar m))
      | _ => pushState .blockMappingKey; some <$> parseNode true true
    else
      modify fun p => { p with state := .blockMappingKey }
      pure (some (emptyScalar t.start))
  | .flowSequenceFirstEntry =>
    let t ← peek; pushMark t.start; skipToken
    flowSequenceEntry true
  | .flowSequenceEntry => flowSequenceEntry false
  | .flowSequenceEntryMappingKey =>
    let t ← peek
    match t.kind with
    | .value | .flowEntry | .flowSequenceEnd =>
      modify fun p => { p with state := .flowSequenceEntryMappingValue }
      pure (some (emptyScalar t.stop))
    | _ => pushState .flowSequenceEntryMappingValue; some <$> parseNode false false
  | .flowSequenceEntryMappingValue =>
    let t ← peek
    if t.kind = .value then
      skipToken
      let t' ← peek
      if t'.kind ≠ .flowEntry && t'.kind ≠ .flowSequenceEnd then
        pushState .flowSequenceEntryMappingEnd
        return some (← parseNode false false)
      modify fun p => { p with state := .flowSequenceEntryMappingEnd }
      return some (emptyScalar t'.start)
    modify fun p => { p with state := .flowSequenceEntryMappingEnd }
    pure (some (emptyScalar t.start))
  | .flowSequenceEntryMappingEnd =>
    let t ← peek
    modify fun p => { p with state := .flowSequenceEntry }
    pure (some ⟨.mappingEnd, t.start, t.start, {}⟩)
  | .flowMappingFirstKey =>
    let t ← peek; pushMark t.start; skipToken
    flowMappingKey true
  | .flowMappingKey => flowMappingKey false
  | .flowMappingValue =>
    let t ← peek
    if t.kind = .value then
      skipToken
      let t' ← peek
      if t'.kind ≠ .flowEntry && t'.kind ≠ .flowMappingEnd then
        pushState .flowMappingKey
        return some (← parseNode false false)
      modify fun p => { p with state := .flowMappingKey }
      return some (emptyScalar t'.start)
    modify fun p => { p with state := .flowMappingKey }
    pure (some (emptyScalar t.start))
  | .flowMappingEmptyValue =>
    let t ← peek
    modify fun p => { p with state := .flowMappingKey }
    pure (some (emptyScalar t.start))
where
  /-- An entry of a block sequence, or its end. -/
  blockSequenceEntry : ParseM (Option Event) := do
    let t ← peek
    if t.kind = .blockEntry then
      let m := t.stop
      let prior := (← get).scanner.headComment.length
      skipToken
      splitStem prior
      let t ← peek
      if t.kind ≠ .blockEntry && t.kind ≠ .blockEnd then
        pushState .blockSequenceEntry
        return some (← parseNode true false)
      modify fun p => { p with state := .blockSequenceEntry }
      return some (emptyScalar m)
    if t.kind = .blockEnd then
      popState
      let _ ← popMark
      skipToken
      return some ⟨.sequenceEnd, t.start, t.stop, {}⟩
    let cm ← popMark
    failIn "while parsing a block collection" cm "did not find expected '-' indicator" t.start
  /-- A key of a block mapping, or its end. -/
  blockMappingKey : ParseM (Option Event) := do
    let t ← peek
    if t.kind = .key then
      let m := t.stop
      skipToken
      let t ← peek
      if t.kind ≠ .key && t.kind ≠ .value && t.kind ≠ .blockEnd then
        pushState .blockMappingValue
        return some (← parseNode true true)
      modify fun p => { p with state := .blockMappingValue }
      return some (emptyScalar m)
    if t.kind = .blockEnd then
      popState
      let _ ← popMark
      let e ← noted ⟨.mappingEnd, t.start, t.stop, {}⟩
      skipToken
      return some e
    let cm ← popMark
    failIn "while parsing a block mapping" cm "did not find expected key" t.start
  /-- An entry of a flow sequence, or its end. -/
  flowSequenceEntry (first : Bool) : ParseM (Option Event) := do
    let mut t ← peek
    if t.kind ≠ .flowSequenceEnd then
      if !first then
        if t.kind = .flowEntry then
          skipToken
          t ← peek
        else
          let cm ← popMark
          failIn "while parsing a flow sequence" cm "did not find expected ',' or ']'" t.start
      if t.kind = .key then
        modify fun p => { p with state := .flowSequenceEntryMappingKey }
        skipToken
        return some ⟨.mappingStart "" "" true true, t.start, t.stop, {}⟩
      if t.kind ≠ .flowSequenceEnd then
        pushState .flowSequenceEntry
        return some (← parseNode false false)
    popState
    let _ ← popMark
    let e ← noted ⟨.sequenceEnd, t.start, t.stop, {}⟩
    skipToken
    return some e
  /-- A key of a flow mapping, or its end. -/
  flowMappingKey (first : Bool) : ParseM (Option Event) := do
    let mut t ← peek
    if t.kind ≠ .flowMappingEnd then
      if !first then
        if t.kind = .flowEntry then
          skipToken
          t ← peek
        else
          let cm ← popMark
          failIn "while parsing a flow mapping" cm "did not find expected ',' or '\x7d'" t.start
      if t.kind = .key then
        skipToken
        let t' ← peek
        if t'.kind ≠ .value && t'.kind ≠ .flowEntry && t'.kind ≠ .flowMappingEnd then
          pushState .flowMappingValue
          return some (← parseNode false false)
        modify fun p => { p with state := .flowMappingValue }
        return some (emptyScalar t'.start)
      if t.kind ≠ .flowMappingEnd then
        pushState .flowMappingEmptyValue
        return some (← parseNode false false)
    popState
    let _ ← popMark
    let e ← noted ⟨.mappingEnd, t.start, t.stop, {}⟩
    skipToken
    return some e

end Parser
end PassPlan.Yaml
